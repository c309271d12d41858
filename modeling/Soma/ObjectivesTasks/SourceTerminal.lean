import Soma.ObjectivesTasks.Execution

/-!
`source_terminal_authority.py` and `resolve_wfm_source_terminal_consequence` of
`services/source_terminal.py`: what the provider says about a WFM task, the
review a terminal source opens, and the local decision on it.

A review stores the fingerprint of the local authority it was opened under. The
decision recomputes it and is refused as stale when it has changed.
-/

namespace Soma.ObjectivesTasks

open Foundation Transaction

/-- `SomaError("WFM_SOURCE_TERMINAL_STALE", message)`. -/
def sourceTerminalStale (message : String) : Raised :=
  taskError "WFM_SOURCE_TERMINAL_STALE" message

/-! ## The authority a review is bound to -/

def executionFingerprintState (rows : TaskRows) (taskId : String) : Except Raised Json := do
  let authority ← executionAuthority rows taskId
  let state (reason : Option String) : Json := .obj [
    ("revision", jsonNat authority.revision),
    ("execution_state", .str authority.folded.state.text),
    ("actual_start_utc", jsonOption jsonNat authority.folded.actualStartUtc),
    ("actual_end_utc", jsonOption jsonNat authority.folded.actualEndUtc),
    ("effective_termination_utc", jsonOption jsonNat authority.folded.effectiveTerminationUtc),
    ("termination_reason", jsonOption .str reason),
    ("last_event_id", jsonOption .str authority.lastEventId)]
  if authority.revision = 0 then .ok (state none)
  else match rows.executionProjection? taskId with
  | none =>
    .error (integrityFailure "WFM terminal review execution projection disappeared")
  | some projection => do
    ensure (authority.folded.state = .terminated ∨ projection.terminationReason = none)
      (integrityFailure "nonterminal Task execution unexpectedly has a termination reason")
    return state projection.terminationReason

/-- `TaskPlanRepository.current_pointer`. -/
def TaskRows.currentPointer (rows : TaskRows) (taskId : String) : Option TaskPlanCurrentPointer :=
  rows.planCurrent.find? (·.taskId = taskId)

def planFingerprintState (rows : TaskRows) (taskId : String) : Except Raised Json :=
  match rows.currentPointer taskId with
  | none => .ok .null
  | some pointer => do
    ensure (((rows.planRevisions.find? (·.planRevisionId = pointer.planRevisionId)).map
        (·.taskId)) = some taskId)
      (integrityFailure "current Task plan pointer is not bound to same-Task plan history")
    return .obj [("plan_revision_id", .str pointer.planRevisionId),
      ("revision", jsonNat pointer.revision)]

def membershipFingerprintState (rows : TaskRows) (taskId : String) : Except Raised Json :=
  match rows.membership? taskId with
  | none => .ok .null
  | some membership =>
    match rows.aggregate? membership.objectiveId with
    | none =>
      .error (integrityFailure "current Objective membership lacks aggregate consequence authority")
    | some aggregate => do
      ensure (0 < membership.membershipRevision ∧ 0 < aggregate.revision ∧
          isSha256 aggregate.aggregateInputFingerprint)
        (integrityFailure "current Objective membership/aggregate authority is invalid")
      let event := rows.membershipEvents.find? fun event =>
        event.membershipEventId = membership.lastEventId ∧ event.taskId = taskId
      ensure (event.bind (·.toObjectiveId) = some membership.objectiveId ∧
          event.bind (·.acceptedPlanRevisionId) = some membership.acceptedPlanRevisionId)
        (integrityFailure "current Objective membership is not bound to same-Task history")
      return .obj [
        ("objective_id", .str membership.objectiveId),
        ("accepted_plan_revision_id", .str membership.acceptedPlanRevisionId),
        ("membership_revision", jsonNat membership.membershipRevision),
        ("last_event_id", .str membership.lastEventId),
        ("objective_aggregate_revision", jsonNat aggregate.revision),
        ("objective_aggregate_input_fingerprint", .str aggregate.aggregateInputFingerprint)]

def lockFingerprintState (rows : TaskRows) (taskId : String) : Except Raised Json :=
  let events := rows.lockEvents.filter (·.taskId = taskId)
  let state (revision : Nat) (plan membership : Bool) (lastEventId : Option String) : Json := .obj [
    ("revision", jsonNat revision),
    ("explicit_plan_lock", .bool plan),
    ("explicit_membership_lock", .bool membership),
    ("last_event_id", jsonOption .str lastEventId)]
  match rows.lockProjections.find? (·.taskId = taskId) with
  | none => do
    ensure (events = []) (integrityFailure "Task lock history exists without current projection")
    return state 0 false false none
  | some projection => do
    ensure (0 < projection.revision ∧ projection.revision = events.length)
      (integrityFailure "Task lock projection cannot be reconciled to lock history")
    ensure projection.lastEventId.isSome
      (integrityFailure "positive Task lock projection lacks final history identity")
    ensure (∃ event ∈ events, some event.lockEventId = projection.lastEventId)
      (integrityFailure "Task lock projection last event is not owned by Task")
    return state projection.revision projection.explicitPlanLock projection.explicitMembershipLock
      projection.lastEventId

/-- `.. FROM wfm_source_projection_cache WHERE task_id=?`. -/
def TaskRows.source? (rows : TaskRows) (taskId : String) : Option WfmSourceProjectionRecord :=
  rows.sourceProjections.find? (·.taskId = taskId)

def sourceProjection (rows : TaskRows) (taskId : String) :
    Except Raised (Option WfmSourceProjectionRecord) :=
  match rows.source? taskId with
  | none => .ok none
  | some source => do
    ensure (0 < source.sourceProjectionRevision ∧ isSha256 source.sourceBaseToken)
      (integrityFailure "WFM source projection authority is invalid")
    ensure (∀ plan ∈ source.sourcePlan, plan.1 < plan.2)
      (integrityFailure "WFM source projection plan interval is invalid")
    return some source

/-- `TaskRepository.get` of a task with a WFM identity. -/
def requireWfmTask (rows : TaskRows) (taskId message : String) : Except Raised TaskRecord :=
  match rows.task? taskId with
  | none => .error (taskError "TASK_NOT_FOUND" "Task does not exist")
  | some task => do
    ensure (task.taskKind = .wfm ∧ taskId ∈ rows.wfmTaskIdentities) (integrityFailure message)
    return task

/-- The part of the payload about the local task. -/
structure LocalAuthority where
  execution : Json
  plan : Json
  membership : Json
  lock : Json

def localAuthority (rows : TaskRows) (taskId : String) : Except Raised LocalAuthority := do
  let execution ← executionFingerprintState rows taskId
  let plan ← planFingerprintState rows taskId
  let membership ← membershipFingerprintState rows taskId
  let lock ← lockFingerprintState rows taskId
  return { execution, plan, membership, lock }

def sourceTerminalDocument (taskId : String) (source : WfmSourceProjectionRecord)
    (observationId : String) (authority : LocalAuthority) : Json :=
  .obj [
    ("schema", .str "SOMA_WFM_SOURCE_TERMINAL_REVIEW_V1"),
    ("task_id", .str taskId),
    ("source", .obj [
      ("source_projection_revision", jsonNat source.sourceProjectionRevision),
      ("provider_lifecycle_class", .str source.providerLifecycleClass.text),
      ("accepted_source_observation_id", .str observationId),
      ("source_base_token", .str source.sourceBaseToken)]),
    ("execution", authority.execution),
    ("plan", authority.plan),
    ("membership", authority.membership),
    ("lock", authority.lock)]

/-- The terminal source of a task and its observation. -/
def terminalSource (rows : TaskRows) (taskId : String) :
    Except Raised (WfmSourceProjectionRecord × String) := do
  let stale := sourceTerminalStale "current WFM source projection is not terminal"
  match ← sourceProjection rows taskId with
  | none => .error stale
  | some source => do
    ensure source.providerLifecycleClass.terminal stale
    match source.acceptedSourceObservationId with
    | none =>
      .error (integrityFailure "terminal WFM source projection lacks accepted source observation")
    | some observationId => do
      ensure (isUuid4 observationId)
        (integrityFailure "terminal WFM source observation identity is invalid")
      return (source, observationId)

def sourceTerminalReviewPayload (rows : TaskRows) (taskId : String) : Except Raised Json := do
  requireUuid4 taskId
  let _ ← requireWfmTask rows taskId "source-terminal review requires canonical WFM Task identity"
  let (source, observationId) ← terminalSource rows taskId
  let authority ← localAuthority rows taskId
  return sourceTerminalDocument taskId source observationId authority

def localTerminalDecisionRequired (rows : TaskRows) (taskId : String) : Except Raised Bool := do
  let execution ← executionAuthority rows taskId
  return match execution.folded.state with
    | .ended | .terminated => false
    | .inProgress => true
    | .notStarted => (rows.currentPointer taskId).isSome || (rows.membership? taskId).isSome

def pendingReview (rows : TaskRows) (taskId : String) :
    Except Raised (Option WfmSourceTerminalReviewRecord) :=
  match rows.sourceTerminalReviews.filter fun review =>
      review.taskId = taskId ∧ review.state = .pending with
  | [] => .ok none
  | [review] => .ok (some review)
  | _ =>
    .error (integrityFailure "WFM source-terminal authority has more than one pending review")

section Source

variable (python : PythonLibrary)

def sourceTerminalReviewFingerprint (rows : TaskRows) (taskId : String) : Except Raised String := do
  sha256CanonicalJson python (← sourceTerminalReviewPayload rows taskId)

/-! ## `apply_wfm_source_projection` -/

structure WfmSourceProjectionMutation where
  taskId : String
  expectedSourceProjectionRevision : Int
  providerStatusToken : Option String
  providerLifecycleClass : ProviderLifecycleClass
  sourcePlanStartUtc : Option Int
  sourcePlanEndUtc : Option Int
  acceptedSourceObservationId : Option String
  sourceBaseToken : String

structure WfmSourceProjectionApplyResult where
  taskId : String
  sourceProjectionRevision : Nat
  sourceTerminalReviewId : Option String
  sourceTerminalReviewFingerprint : Option String

def validateSourcePlan (startUtc endUtc : Option Int) : Except Raised (Option (Nat × Nat)) :=
  match startUtc, endUtc with
  | none, none => .ok none
  | some start, some finish => do
    ensure (0 ≤ start ∧ start < finish) (validationError "source plan interval is invalid")
    return some (start.toNat, finish.toNat)
  | _, _ =>
    .error (validationError "source plan must be exact integer endpoints or exact absence")

/-- What `apply_wfm_source_projection` checks before it reads anything. -/
def validateSourceMutation (mutation : WfmSourceProjectionMutation) :
    Except Raised (Option (Nat × Nat)) := do
  requireUuid4 mutation.taskId
  ensure (0 ≤ mutation.expectedSourceProjectionRevision)
    (validationError "expected_source_projection_revision must be a nonnegative integer")
  ensure (∀ token ∈ mutation.providerStatusToken, token.utf8ByteSize ≤ 1024 ∧
      token.toList.all fun character => character ∉ ['\x00', '\r', '\n'])
    (validationError "provider_status_token violates its bounded one-line contract")
  let plan ← validateSourcePlan mutation.sourcePlanStartUtc mutation.sourcePlanEndUtc
  ensure (isSha256 mutation.sourceBaseToken)
    (validationError "source_base_token must be lowercase SHA-256 hex")
  ensure (∀ observationId ∈ mutation.acceptedSourceObservationId, isUuid4 observationId)
    (validationError "identifier must be canonical lowercase UUIDv4")
  ensure (mutation.providerLifecycleClass.terminal → mutation.acceptedSourceObservationId.isSome)
    (validationError "terminal WFM source projection requires accepted source observation")
  return plan

/-- The row a mutation writes at a revision. -/
def WfmSourceProjectionMutation.row (mutation : WfmSourceProjectionMutation)
    (plan : Option (Nat × Nat)) (revision : Nat) : WfmSourceProjectionRecord where
  taskId := mutation.taskId
  providerStatusToken := mutation.providerStatusToken
  providerLifecycleClass := mutation.providerLifecycleClass
  sourcePlan := plan
  acceptedSourceObservationId := mutation.acceptedSourceObservationId
  sourceProjectionRevision := revision
  sourceBaseToken := mutation.sourceBaseToken

/-- The rows after the `UPDATE` of the source projection at a revision. -/
def TaskRows.updateSourceProjection (rows : TaskRows) (row : WfmSourceProjectionRecord)
    (revision : Nat) : TaskRows :=
  { rows with sourceProjections := rows.sourceProjections.map fun source =>
      if source.taskId = row.taskId ∧ source.sourceProjectionRevision = revision then row
      else source }

/-- The `INSERT` of a first projection, or the guarded `UPDATE` of the next one. -/
def writeSourceProjection (current : Option WfmSourceProjectionRecord)
    (row : WfmSourceProjectionRecord) : TaskBody PUnit := do
  let rows : TaskRows ← get
  match current with
  | none => do
    require (row.taskId ∉ rows.sourceProjections.map (·.taskId) ∧
      row.taskId ∈ rows.wfmTaskIdentities) .other
    set { rows with sourceProjections := rows.sourceProjections ++ [row] }
  | some current => do
    require (rows.sourceProjections.countP (fun source => source.taskId = row.taskId ∧
        source.sourceProjectionRevision = current.sourceProjectionRevision) = 1)
      (integrityFailure "WFM source projection changed during guarded participant mutation")
    set (rows.updateSourceProjection row current.sourceProjectionRevision)

/-- The rows after an `UPDATE` of one pending review. -/
def TaskRows.decideReview (rows : TaskRows) (selected : WfmSourceTerminalReviewRecord → Bool)
    (state : SourceTerminalState) (consequence : Option String) (now : Nat) : TaskRows :=
  { rows with sourceTerminalReviews := rows.sourceTerminalReviews.map fun review =>
      if selected review then
        { review with
          state := state
          localConsequenceEventId := consequence
          revision := review.revision + 1
          decidedAtUtc := some now }
      else review }

/-- The part of `source_terminal_review_update_guard` about a new consequence. -/
def ConsequenceGuard (rows : TaskRows) (taskId : String) (consequence : Option String) : Prop :=
  ∀ eventId ∈ consequence, ∃ event ∈ rows.executionEvents, event.executionEventId = eventId ∧
    event.taskId = taskId ∧ event.eventKind = .sourceTerminalConsequence

instance (rows : TaskRows) (taskId : String) (consequence : Option String) :
    Decidable (ConsequenceGuard rows taskId consequence) :=
  inferInstanceAs (Decidable (∀ _ ∈ consequence, _))

/-- The guarded `UPDATE` of one pending review. The supersession does not name the
task, which the key of the review fixes. -/
def decideReview (review : WfmSourceTerminalReviewRecord) (state : SourceTerminalState)
    (consequence : Option String) (now : Nat) (lost : Raised) : TaskBody PUnit := do
  let rows : TaskRows ← get
  let selected : WfmSourceTerminalReviewRecord → Bool := fun row =>
    row.sourceTerminalReviewId = review.sourceTerminalReviewId ∧ row.taskId = review.taskId ∧
      row.state = .pending ∧ row.revision = review.revision
  require (rows.sourceTerminalReviews.countP selected = 1) lost
  require (ConsequenceGuard rows review.taskId consequence) .other
  set (rows.decideReview selected state consequence now)

/-- `INSERT INTO wfm_source_terminal_reviews`. -/
def insertSourceTerminalReview (row : WfmSourceTerminalReviewRecord) : TaskBody PUnit := do
  let rows : TaskRows ← get
  require (row.sourceTerminalReviewId ∉ rows.sourceTerminalReviews.map (·.sourceTerminalReviewId) ∧
    row.taskId ∈ rows.wfmTaskIdentities) .other
  set { rows with sourceTerminalReviews := rows.sourceTerminalReviews ++ [row] }

/-- The fingerprint of a review that is due. -/
def dueFingerprint (rows : TaskRows) (mutation : WfmSourceProjectionMutation) :
    Except Raised (Option String) := do
  let due ← (if mutation.providerLifecycleClass.terminal then
      localTerminalDecisionRequired rows mutation.taskId
    else .ok false)
  if due then return some (← sourceTerminalReviewFingerprint python rows mutation.taskId)
  else return none

/-- A pending review that is still the one that is due. -/
def stillDue (review : WfmSourceTerminalReviewRecord) (mutation : WfmSourceProjectionMutation)
    (revision : Nat) (fingerprint : Option String) : Bool :=
  review.sourceProjectionRevision = revision ∧
    review.providerLifecycleClass = mutation.providerLifecycleClass ∧
    some review.inputFingerprint = fingerprint

/-- Supersedes the pending review unless it is still due; what is left of it. -/
def supersedePending (call : Call) (pending : Option WfmSourceTerminalReviewRecord)
    (mutation : WfmSourceProjectionMutation) (revision : Nat) (fingerprint : Option String) :
    TaskBody (Option WfmSourceTerminalReviewRecord) :=
  match pending with
  | none => pure none
  | some review =>
    if stillDue review mutation revision fingerprint then pure (some review)
    else do
      decideReview review .superseded none call.now
        (integrityFailure "WFM source-terminal pending review changed during supersession")
      return none

/-- The review that is due: the one left pending, or a new one. -/
def openReview (call : Call) (pending : Option WfmSourceTerminalReviewRecord)
    (mutation : WfmSourceProjectionMutation) (revision : Nat) (fingerprint : Option String) :
    TaskBody (Option String) :=
  match fingerprint, pending with
  | none, _ => pure none
  | some _, some review => pure (some review.sourceTerminalReviewId)
  | some fingerprint, none => do
    insertSourceTerminalReview {
      sourceTerminalReviewId := (call.newUuid4 0).value
      taskId := mutation.taskId
      sourceProjectionRevision := revision
      providerLifecycleClass := mutation.providerLifecycleClass
      inputFingerprint := fingerprint
      state := .pending
      localConsequenceEventId := none
      revision := 1
      createdAtUtc := call.now
      decidedAtUtc := none }
    return some (call.newUuid4 0).value

/-- `apply_wfm_source_projection`, in a transaction whose caller has written the
command receipt it asks for. -/
def applyWfmSourceProjection (call : Call) (mutation : WfmSourceProjectionMutation) :
    TaskBody WfmSourceProjectionApplyResult := do
  let plan ← attempt (validateSourceMutation mutation)
  let rows : TaskRows ← get
  let _ ← attempt (requireWfmTask rows mutation.taskId
    "WFM source projection target lacks WFM identity authority")
  let current ← attempt (sourceProjection rows mutation.taskId)
  let currentRevision : Nat := (current.map (·.sourceProjectionRevision)).getD 0
  require ((currentRevision : Int) = mutation.expectedSourceProjectionRevision)
    (taskError "TASK_STALE" "WFM source projection revision changed")
  writeSourceProjection current (mutation.row plan (currentRevision + 1))
  let rows : TaskRows ← get
  let pending ← attempt (pendingReview rows mutation.taskId)
  let fingerprint ← attempt (dueFingerprint python rows mutation)
  let pending ← supersedePending call pending mutation (currentRevision + 1) fingerprint
  let reviewId ← openReview call pending mutation (currentRevision + 1) fingerprint
  return ⟨mutation.taskId, currentRevision + 1, reviewId, fingerprint⟩

/-! ## `resolve_wfm_source_terminal_consequence` -/

inductive SourceTerminalDecision where
  | retainLocalWork
  | terminateLocalWork
  deriving DecidableEq

def SourceTerminalDecision.state : SourceTerminalDecision → SourceTerminalState
  | .retainLocalWork => .retainLocalWork
  | .terminateLocalWork => .terminateLocalWork

structure SourceTerminalRequest where
  sourceTerminalReviewId : String
  taskId : String
  sourceProjectionRevision : Int
  inputFingerprint : String
  decision : SourceTerminalDecision
  reasonCategory : String

/-- The checks on a request before the transaction. -/
def validateSourceTerminalRequest (request : SourceTerminalRequest) : Except Raised Unit := do
  requireUuid4 request.sourceTerminalReviewId
  requireUuid4 request.taskId
  requirePositiveRevision request.sourceProjectionRevision "source_projection_revision"
  ensure (isSha256 request.inputFingerprint)
    (validationError "input_fingerprint must be lowercase SHA-256 hex")
  validateReasonCategory request.reasonCategory

def requireCurrentReview (rows : TaskRows) (request : SourceTerminalRequest) :
    Except Raised WfmSourceTerminalReviewRecord :=
  match rows.sourceTerminalReviews.find?
      (·.sourceTerminalReviewId = request.sourceTerminalReviewId) with
  | none => .error (sourceTerminalStale "WFM source-terminal review is missing")
  | some review => do
    ensure (review.taskId = request.taskId ∧
        (review.sourceProjectionRevision : Int) = request.sourceProjectionRevision ∧
        review.inputFingerprint = request.inputFingerprint ∧ review.state = .pending ∧
        review.revision = 1 ∧ review.localConsequenceEventId = none ∧ review.decidedAtUtc = none)
      (sourceTerminalStale "WFM source-terminal review changed after review")
    return review

/-- The terminal source a decision is about. -/
def requireReviewedSource (rows : TaskRows) (request : SourceTerminalRequest)
    (review : WfmSourceTerminalReviewRecord) : Except Raised Unit := do
  let stale := sourceTerminalStale "accepted WFM terminal source authority changed"
  match ← sourceProjection rows request.taskId with
  | none => .error stale
  | some source =>
    ensure (source.providerLifecycleClass.terminal ∧
        (source.sourceProjectionRevision : Int) = request.sourceProjectionRevision ∧
        source.providerLifecycleClass = review.providerLifecycleClass ∧
        source.acceptedSourceObservationId ≠ none) stale

/-- `resolve_wfm_source_terminal_consequence.prepare`. -/
def prepareResolution (rows : TaskRows) (request : SourceTerminalRequest) :
    Except Raised (TaskRecord × WfmSourceTerminalReviewRecord × ExecutionAuthority) := do
  let task ← requireWfmTask rows request.taskId
    "source-terminal review target lacks canonical WFM identity"
  let review ← requireCurrentReview rows request
  requireReviewedSource rows request review
  let fingerprint ← sourceTerminalReviewFingerprint python rows request.taskId
  ensure (review.inputFingerprint = request.inputFingerprint ∧
      fingerprint = request.inputFingerprint)
    (sourceTerminalStale "WFM source-terminal review authority changed")
  let execution ← executionAuthority rows request.taskId
  ensure (¬ (request.decision = .terminateLocalWork ∧
      execution.folded.state ∈ [.ended, .terminated]))
    (taskError "TASK_EXECUTION_ALREADY_TERMINAL" "Task execution is already terminal")
  return (task, review, execution)

def advanceTerminationProjection (taskId : String) (authority : ExecutionAuthority)
    (executionEventId reason : String) : TaskBody PUnit :=
  if authority.revision = 0 then
    insertExecutionProjection
      ⟨taskId, .terminated, none, none, none, some reason, 1, executionEventId⟩
  else
    updateExecutionProjection
      (fun row => row.taskId = taskId ∧ row.revision = authority.revision)
      (fun row => { row with
        executionState := .terminated
        actualEndUtc := none
        effectiveTerminationUtc := none
        terminationReason := some reason
        revision := row.revision + 1
        lastEventId := executionEventId })
      (integrityFailure "Task execution projection changed during source-terminal consequence")

/-- The consequence of a decision for the execution of the task. -/
def applyConsequence (request : SourceTerminalRequest) (task : TaskRecord)
    (execution : ExecutionAuthority) : Option String → TaskBody PUnit
  | none => pure ⟨⟩
  | some eventId => do
    insertExecutionEvent (baseEvent eventId request.taskId (execution.revision + 1)
      .sourceTerminalConsequence none (some request.reasonCategory))
    advanceTerminationProjection request.taskId execution eventId request.reasonCategory
    incrementRevision request.taskId task.revision

/-- The rebuild after a consequence. -/
def rebuildAfter (taskId : String) : Option String → TaskBody PUnit
  | none => pure ⟨⟩
  | some _ => rebuildIfMember python taskId

def resolveWfmSourceTerminalConsequence (call : Call) (request : SourceTerminalRequest) :
    TaskBody TaskMutationResult := do
  attempt (validateSourceTerminalRequest request)
  let rows : TaskRows ← get
  let (task, review, execution) ← attempt (prepareResolution python rows request)
  let executionEventId : Option String :=
    if request.decision = .terminateLocalWork then some (call.newUuid4 0).value else none
  applyConsequence request task execution executionEventId
  decideReview review request.decision.state executionEventId call.now
    (sourceTerminalStale "WFM source-terminal review changed during decision")
  rebuildAfter python request.taskId executionEventId
  return ⟨false, request.taskId, task.revision + if executionEventId.isSome then 1 else 0⟩

end Source

end Soma.ObjectivesTasks
