import Soma.ObjectivesTasks.Aggregate

/-!
`queries/execution_review.py`: the previews a correction of execution evidence,
an outcome review and an outcome correction are bound to. Each reads the whole
execution and outcome authority of the task anew and digests it with the
request.
-/

namespace Soma.ObjectivesTasks

open Foundation Transaction

/-! ## The execution a preview reads -/

/-- One round of the first loop of `_fold_execution`. -/
def collectReviewed (collected : Collected) (event : TaskExecutionEvent) :
    Except Raised Collected := do
  ensure (event.executionEventId ∉ collected.seenEventIds)
    (integrityFailure "Task execution history contains duplicate event identity")
  let evidence ← (if event.eventKind = .correction then
      collectCorrection collected.evidence event .other
    else collectBase collected.evidence event
      (integrityFailure "Task execution start/end evidence requires an effective instant"))
  return ⟨evidence, collected.seenEventIds ++ [event.executionEventId]⟩

def foldExecution (events : List TaskExecutionEvent) :
    Except Raised (FoldedExecution × List Evidence) := do
  let collected ← events.foldlM collectReviewed ⟨[], []⟩
  let folded ← collected.evidence.foldlM runEvidence .idle
  return (folded, collected.evidence)

/-- The `_ExecutionAuthority` of the queries. -/
structure ReviewedExecution where
  revision : Nat
  folded : FoldedExecution
  lastEventId : Option String
  events : List TaskExecutionEvent

/-- The checks on one stored event, expected at a revision. -/
def checkStoredEvent (event : TaskExecutionEvent) (expectedRevision : Nat) :
    Except Raised Unit := do
  ensure (event.executionRevision = expectedRevision)
    (integrityFailure "Task execution history revision sequence is not contiguous")
  storedOptionalUuid event.targetEventId "Task execution correction target identity"
  ensure (event.eventKind = .correction →
      event.targetEventId.isSome ∧ event.correctionAction.isSome)
    (integrityFailure "Task execution correction history is malformed")
  ensure (event.eventKind ≠ .correction →
      event.targetEventId = none ∧ event.correctionAction = none)
    (integrityFailure "Task execution base event carries correction metadata")
  storedUuid event.executionEventId "Task execution event identity"

def loadExecutionAuthority (rows : TaskRows) (taskId : String) :
    Except Raised ReviewedExecution := do
  let events := rows.executionHistory taskId
  (events.zipIdx 1).forM fun pair => checkStoredEvent pair.1 pair.2
  match rows.executionProjection? taskId with
  | none => do
    ensure (events = []) (integrityFailure "Task execution history exists without current projection")
    return ⟨0, .idle, none, []⟩
  | some projection => do
    ensure (0 < projection.revision ∧ projection.revision = events.length)
      (integrityFailure "Task execution projection revision does not equal immutable event count")
    storedUuid projection.lastEventId "Task execution projection last event"
    ensure (events.getLast?.map (·.executionEventId) = some projection.lastEventId)
      (integrityFailure
        "Task execution projection does not reference the final immutable revision event")
    let (folded, _) ← foldExecution events
    ensure (projection.folded = folded) projectionDisagrees
    return ⟨projection.revision, projection.folded, some projection.lastEventId, events⟩

/-! ## The outcome a preview reads -/

/-- `_OutcomeAuthority`: the revision and the tip of the chain of outcomes. -/
structure OutcomeAuthority where
  revision : Nat
  tip : Option TaskOutcomeEvent

def OutcomeAuthority.eventId (outcome : OutcomeAuthority) : Option String :=
  outcome.tip.map (·.outcomeEventId)

def OutcomeAuthority.acceptedOutcome (outcome : OutcomeAuthority) : Option AcceptedOutcome :=
  outcome.tip.map (·.acceptedOutcome)

/-- The checks on one stored outcome event, against the events before it. -/
def checkOutcomeEvent (earlier : List TaskOutcomeEvent) (event : TaskOutcomeEvent) :
    Except Raised (List TaskOutcomeEvent) := do
  storedUuid event.outcomeEventId "Task outcome event identity"
  storedOptionalUuid event.correctionOfEventId "Task outcome predecessor identity"
  storedUuid event.commandId "Task outcome command identity"
  ensure (event.outcomeEventId ∉ earlier.map (·.outcomeEventId))
    (integrityFailure "Task outcome history contains duplicate event identity")
  ensure (event.correctionOfEventId = none ∨
      ∀ prior ∈ earlier, prior.correctionOfEventId ≠ event.correctionOfEventId)
    (integrityFailure "Task outcome history branches from a prior event")
  return earlier ++ [event]

/-- The walk along the corrections of an outcome. Every step visits another
event, so the length of the history bounds it. -/
def walkChain (events : List TaskOutcomeEvent) :
    Nat → List String → String → Except Raised (List String × String)
  | 0, _, _ => .error (integrityFailure "Task outcome history correction chain is invalid")
  | fuel + 1, visited, cursor => do
    ensure (cursor ∉ visited ∧ cursor ∈ events.map (·.outcomeEventId))
      (integrityFailure "Task outcome history correction chain is invalid")
    match events.find? (·.correctionOfEventId = some cursor) with
    | none => return (visited ++ [cursor], cursor)
    | some child => walkChain events fuel (visited ++ [cursor]) child.outcomeEventId

/-- The tip of a history of outcomes that agrees with its projection. -/
def chainTip (events : List TaskOutcomeEvent) (current : TaskOutcomeCurrent) :
    Except Raised TaskOutcomeEvent := do
  let _ ← events.foldlM checkOutcomeEvent []
  match events.filter (·.correctionOfEventId = none) with
  | [genesis] => do
    let (visited, cursor) ← walkChain events (events.length + 1) [] genesis.outcomeEventId
    ensure (visited.length = events.length ∧ cursor = current.outcomeEventId)
      (integrityFailure "Task outcome current event is not the unique immutable chain tip")
    match events.find? (·.outcomeEventId = current.outcomeEventId) with
    | none => .error .other
    | some tip => do
      ensure (tip.acceptedOutcome = current.acceptedOutcome ∧
          tip.reviewedAtUtc = current.reviewedAtUtc ∧ tip.commandId = current.lastCommandId)
        (integrityFailure "Task outcome current projection disagrees with immutable chain tip")
      return tip
  | _ =>
    .error (integrityFailure "Task outcome history must contain exactly one genesis event")

def loadOutcomeAuthority (rows : TaskRows) (taskId : String) : Except Raised OutcomeAuthority := do
  let events := rows.outcomeHistory taskId
  match rows.outcomeCurrent? taskId with
  | none => do
    ensure (events = []) (integrityFailure "Task outcome history exists without current projection")
    return ⟨0, none⟩
  | some current => do
    ensure (events ≠ [])
      (integrityFailure "Task outcome current projection exists without immutable history")
    ensure (0 < current.revision ∧ current.revision = events.length)
      (integrityFailure "Task outcome current revision does not equal immutable chain length")
    storedUuid current.outcomeEventId "Task outcome current event identity"
    storedUuid current.lastCommandId "Task outcome current command identity"
    return ⟨current.revision, some (← chainTip events current)⟩

/-! ## Requests -/

def requirePositiveRevision (value : Int) (label : String) : Except Raised Unit :=
  ensure (0 < value) (validationError (label ++ " must be a positive integer"))

/-- `_validate_reason_category`, `_normalize_reason`. -/
def validateReasonCategory (value : String) : Except Raised Unit :=
  ensure (value ≠ "" ∧ value.utf8ByteSize ≤ 128 ∧
      value.toList.all fun character => character ∉ ['\x00', '\r', '\n'])
    (validationError "reason_category violates its bounded one-line contract")

/-- `TaskRepository.get` of a task that has to exist at the revision. -/
def requireTask (rows : TaskRows) (taskId : String) (revision : Int) (missing stale : Raised) :
    Except Raised TaskRecord :=
  match rows.task? taskId with
  | none => .error missing
  | some task => do
    ensure ((task.revision : Int) = revision) stale
    return task

def executionObject (execution : ReviewedExecution) : Json :=
  .obj [
    ("revision", jsonNat execution.revision),
    ("state", .str execution.folded.state.text),
    ("actual_start_utc", jsonOption jsonNat execution.folded.actualStartUtc),
    ("actual_end_utc", jsonOption jsonNat execution.folded.actualEndUtc),
    ("effective_termination_utc", jsonOption jsonNat execution.folded.effectiveTerminationUtc),
    ("last_event_id", jsonOption .str execution.lastEventId)]

def outcomeObject (outcome : OutcomeAuthority) : Json :=
  match outcome.tip with
  | none => .null
  | some tip => .obj [
      ("revision", jsonNat outcome.revision),
      ("event_id", .str tip.outcomeEventId),
      ("accepted_outcome", .str tip.acceptedOutcome.text),
      ("reason_category", jsonOption .str tip.reasonCode),
      ("reviewed_at_utc", jsonNat tip.reviewedAtUtc)]

def taskObject (task : TaskRecord) : Json :=
  .obj [("task_id", .str task.taskId), ("revision", jsonNat task.revision)]

/-! ## The correction of execution evidence -/

/-- What a correction asks for. -/
structure CorrectionRequest where
  taskId : String
  taskRevision : Int
  executionRevision : Int
  targetExecutionEventId : String
  targetExecutionRevision : Int
  correctionAction : CorrectionAction
  replacementEffectiveAtUtc : Option Int
  reasonCategory : String

/-- `TaskExecutionCorrectionPreview`, as far as the writer reads it. -/
structure CorrectionPreview where
  correctionReviewFingerprint : String
  outcomeInvalidationRequired : Bool
  blockers : List String

/-- The event a correction would append. -/
def CorrectionRequest.event (request : CorrectionRequest) (eventId : String) (revision : Nat)
    (replacement : Option Nat) : TaskExecutionEvent where
  executionEventId := eventId
  taskId := request.taskId
  executionRevision := revision
  eventKind := .correction
  effectiveAtUtc := replacement
  targetEventId := some request.targetExecutionEventId
  correctionAction := some request.correctionAction
  reasonCode := some request.reasonCategory

/-- The fold with the correction, unless it is blocked before or by the fold. -/
def resultingFold (events : List TaskExecutionEvent) (synthetic : TaskExecutionEvent)
    (blocked : Bool) : Except Raised (Option FoldedExecution × List String) :=
  if blocked then .ok (none, [])
  else match foldExecution (events ++ [synthetic]) with
    | .ok (folded, _) => .ok (some folded, [])
    | .error raised =>
      if raised.isIntegrityFailure then .ok (none, ["INVALID_CORRECTED_CHRONOLOGY"])
      else .error raised

/-- The current outcome would no longer match the execution. -/
def invalidatesOutcome (outcome : OutcomeAuthority) (execution : FoldedExecution) :
    Option FoldedExecution → Bool
  | none => false
  | some resulting => outcome.acceptedOutcome.any fun accepted =>
      outcomeMatchesExecution accepted execution && !outcomeMatchesExecution accepted resulting

/-- The replacement instant, checked against the action. -/
def checkReplacement (request : CorrectionRequest) : Except Raised (Option Nat) :=
  match request.correctionAction, request.replacementEffectiveAtUtc with
  | .replaceTime, some instant => do
    ensure (0 ≤ instant) (validationError
      "replacement_effective_at_utc must be a nonnegative UTC whole second for replace_time")
    return some instant.toNat
  | .replaceTime, none => .error (validationError
      "replacement_effective_at_utc must be a nonnegative UTC whole second for replace_time")
  | .withdraw, none => .ok none
  | .withdraw, some _ =>
    .error (validationError "replacement_effective_at_utc must be null for withdraw")

/-- The target as the events have it. -/
def correctionTarget (request : CorrectionRequest) (events : List TaskExecutionEvent) :
    Except Raised TaskExecutionEvent :=
  match events.find? fun event => event.executionEventId = request.targetExecutionEventId ∧
      (event.executionRevision : Int) = request.targetExecutionRevision ∧
      event.eventKind ≠ .correction with
  | none => .error (taskError "TASK_STALE" "Task execution correction target changed")
  | some target => .ok target

/-- The document `correction_review_fingerprint` digests. -/
def correctionReviewInput (request : CorrectionRequest) (task : TaskRecord)
    (execution : ReviewedExecution) (target : TaskExecutionEvent) (effective : Evidence)
    (replacement : Option Nat) (outcome : OutcomeAuthority)
    (resulting : Option FoldedExecution) : Json :=
  .obj [
    ("schema", .str "SOMA_TASK_EXECUTION_CORRECTION_REVIEW_V1"),
    ("task", taskObject task),
    ("execution", executionObject execution),
    ("target", .obj [
      ("execution_event_id", .str target.executionEventId),
      ("execution_revision", jsonNat target.executionRevision),
      ("event_kind", .str target.eventKind.text),
      ("original_effective_at_utc", jsonOption jsonNat target.effectiveAtUtc),
      ("current_effective_at_utc", jsonOption jsonNat effective.effectiveAtUtc),
      ("withdrawn", .bool effective.withdrawn)]),
    ("request", .obj [
      ("correction_action", .str request.correctionAction.text),
      ("replacement_effective_at_utc", jsonOption jsonNat replacement),
      ("reason_category", .str request.reasonCategory)]),
    ("current_outcome", outcomeObject outcome),
    ("resulting_execution", jsonOption (fun folded => .obj [
      ("state", .str folded.state.text),
      ("actual_start_utc", jsonOption jsonNat folded.actualStartUtc),
      ("actual_end_utc", jsonOption jsonNat folded.actualEndUtc),
      ("effective_termination_utc", jsonOption jsonNat folded.effectiveTerminationUtc)])
      resulting),
    ("outcome_invalidation_required",
      .bool (invalidatesOutcome outcome execution.folded resulting))]

/-- `TaskExecutionCorrectionQueryService.evaluate_connection`. -/
def evaluateCorrection (python : PythonLibrary) (rows : TaskRows) (request : CorrectionRequest) :
    Except Raised CorrectionPreview := do
  requireUuid4 request.taskId
  requirePositiveRevision request.taskRevision "task_revision"
  requirePositiveRevision request.executionRevision "execution_revision"
  requireUuid4 request.targetExecutionEventId
  requirePositiveRevision request.targetExecutionRevision "target_execution_revision"
  let replacement ← checkReplacement request
  validateReasonCategory request.reasonCategory
  let task ← requireTask rows request.taskId request.taskRevision
    (taskError "TASK_NOT_FOUND" "Task does not exist in current authority")
    (taskError "TASK_STALE" "Task revision changed since execution correction preview input")
  let execution ← loadExecutionAuthority rows request.taskId
  ensure ((execution.revision : Int) = request.executionRevision)
    (taskError "TASK_STALE" "Task execution revision changed since correction preview input")
  ensure (execution.revision ≠ 0) (taskError "TASK_STALE" "Task execution history is absent")
  let target ← correctionTarget request execution.events
  let (_, evidence) ← foldExecution execution.events
  match Evidence.find? evidence request.targetExecutionEventId with
  | none =>
    .error (integrityFailure "Task execution correction target disappeared from folded evidence")
  | some effective => do
    let outcome ← loadOutcomeAuthority rows request.taskId
    let governed : Bool :=
      request.correctionAction = .withdraw && target.eventKind.governedTerminal
    let (resulting, chronology) ← resultingFold execution.events
      (request.event "00000000-0000-4000-8000-000000000000" (execution.revision + 1) replacement)
      (effective.withdrawn || governed)
    let fingerprint ← sha256CanonicalJson python
      (correctionReviewInput request task execution target effective replacement outcome resulting)
    return {
      correctionReviewFingerprint := fingerprint
      outcomeInvalidationRequired := invalidatesOutcome outcome execution.folded resulting
      blockers :=
        (if effective.withdrawn then ["TARGET_NOT_CURRENT_EFFECTIVE"] else []) ++
        (if governed then ["GOVERNED_TERMINAL_WITHDRAW_FORBIDDEN"] else []) ++ chronology }

end Soma.ObjectivesTasks
