import Soma.ObjectivesTasks.ExecutionReview

/-!
`services/task_execution.py`: starting, ending, cancelling and correcting the
execution of tasks.

Each command is its `prepare` and `apply` callbacks, which the command boundary
runs in one transaction. Identifiers and the clock come with the call, and every
SQL statement carries the declared keys, references and triggers it has to pass.
-/

namespace Soma.ObjectivesTasks

open Foundation Transaction

/-- What one call brings along: the identifiers `new_uuid4` returns in turn, the
clock and the command id. -/
structure Call where
  newUuid4 : Nat → Uuid4
  now : Nat
  commandId : String

structure TaskMutationResult where
  noChange : Bool
  taskId : String
  revision : Nat
  deriving DecidableEq

/-! ## Statements -/

/-- `INSERT INTO task_execution_events`. -/
def insertExecutionEvent (row : TaskExecutionEvent) : TaskBody PUnit := do
  let rows ← get
  -- The declared key and references.
  require (row.executionEventId ∉ rows.executionEvents.map (·.executionEventId) ∧
    row.taskId ∈ rows.tasks.map (·.taskId) ∧
    ∀ target ∈ row.targetEventId, target ∈ rows.executionEvents.map (·.executionEventId)) .other
  -- `task_execution_event_insert_guard`
  require (row.executionRevision = rows.lastExecutionRevision row.taskId + 1) .other
  set { rows with executionEvents := rows.executionEvents ++ [row] }

/-- What `task_execution_projection_insert_guard` and
`task_execution_projection_update_guard` ask of a written projection. -/
def ProjectionGuard (rows : TaskRows) (row : TaskExecutionProjection) : Prop :=
  (∃ event ∈ rows.executionEvents, event.executionEventId = row.lastEventId ∧
    event.taskId = row.taskId ∧ event.executionRevision = row.revision) ∧
    (rows.executionHistory row.taskId).length = row.revision

instance (rows : TaskRows) (row : TaskExecutionProjection) : Decidable (ProjectionGuard rows row) :=
  inferInstanceAs (Decidable (_ ∧ _))

def insertExecutionProjection (row : TaskExecutionProjection) : TaskBody PUnit := do
  let rows ← get
  require (row.taskId ∉ rows.executionProjections.map (·.taskId) ∧
    row.taskId ∈ rows.tasks.map (·.taskId)) .other
  require (ProjectionGuard rows row) .other
  set { rows with executionProjections := rows.executionProjections ++ [row] }

def TaskRows.updateExecutionProjection (rows : TaskRows)
    (selected : TaskExecutionProjection → Bool)
    (change : TaskExecutionProjection → TaskExecutionProjection) : TaskRows :=
  { rows with executionProjections := rows.executionProjections.map fun row =>
      if selected row then change row else row }

/-- `UPDATE task_execution_projection`, which has to hit one row. -/
def updateExecutionProjection (selected : TaskExecutionProjection → Bool)
    (change : TaskExecutionProjection → TaskExecutionProjection) (lost : Raised) :
    TaskBody PUnit := do
  let rows ← get
  require (rows.executionProjections.countP selected = 1) lost
  require (∀ row ∈ rows.executionProjections, selected row → ProjectionGuard rows (change row))
    .other
  set (rows.updateExecutionProjection selected change)

/-- The rows after `UPDATE tasks SET revision=revision+1 WHERE task_id=? AND revision=?`. -/
def TaskRows.incrementRevision (rows : TaskRows) (taskId : String) (revision : Nat) : TaskRows :=
  { rows with tasks := rows.tasks.map fun row =>
      if row.taskId = taskId ∧ row.revision = revision then
        { row with revision := row.revision + 1 }
      else row }

/-- `TaskRepository.increment_revision`. -/
def incrementRevision (taskId : String) (expectedRevision : Nat) : TaskBody PUnit := do
  let rows ← get
  require (rows.tasks.countP (fun row =>
      row.taskId = taskId ∧ row.revision = expectedRevision) = 1)
    (integrityFailure "Task revision changed during guarded mutation")
  set (rows.incrementRevision taskId expectedRevision)

/-- `INSERT INTO task_outcome_events`. -/
def insertOutcomeEvent (row : TaskOutcomeEvent) : TaskBody PUnit := do
  let rows ← get
  require (row.outcomeEventId ∉ rows.outcomeEvents.map (·.outcomeEventId) ∧
    row.taskId ∈ rows.tasks.map (·.taskId) ∧
    ∀ prior ∈ row.correctionOfEventId, prior ∈ rows.outcomeEvents.map (·.outcomeEventId)) .other
  set { rows with outcomeEvents := rows.outcomeEvents ++ [row] }

/-- What the triggers on `task_outcome_current` ask of a written row. -/
def OutcomeGuard (rows : TaskRows) (row : TaskOutcomeCurrent) : Prop :=
  ∃ event ∈ rows.outcomeEvents, event.outcomeEventId = row.outcomeEventId ∧
    event.taskId = row.taskId ∧ event.acceptedOutcome = row.acceptedOutcome ∧
    event.reviewedAtUtc = row.reviewedAtUtc

instance (rows : TaskRows) (row : TaskOutcomeCurrent) : Decidable (OutcomeGuard rows row) :=
  inferInstanceAs (Decidable (∃ _ ∈ _, _))

/-- `INSERT INTO task_outcome_current`. -/
def insertOutcomeCurrent (row : TaskOutcomeCurrent) : TaskBody PUnit := do
  let rows ← get
  require (row.taskId ∉ rows.outcomeCurrent.map (·.taskId) ∧
    row.outcomeEventId ∉ rows.outcomeCurrent.map (·.outcomeEventId)) .other
  require (OutcomeGuard rows row) .other
  set { rows with outcomeCurrent := rows.outcomeCurrent ++ [row] }

/-- An event that is no correction. -/
def baseEvent (eventId taskId : String) (revision : Nat) (kind : EventKind)
    (effectiveAt : Option Nat) (reason : Option String) : TaskExecutionEvent :=
  ⟨eventId, taskId, revision, kind, effectiveAt, none, none, reason⟩

/-! ## What the commands read -/

def requireRevision (value : Int) (label : String) (allowZero : Bool) : Except Raised Unit :=
  if allowZero then ensure (0 ≤ value) (validationError (label ++ " must be a nonnegative integer"))
  else requirePositiveRevision value label

/-- `effective_start_utc`: an instant, or the token for the clock. -/
inductive EffectiveStart where
  | instant (value : Int)
  | canonicalNow

def validateEffectiveStart : EffectiveStart → Except Raised Unit
  | .instant value =>
    ensure (0 ≤ value)
      (validationError "effective_start_utc must be a nonnegative UTC whole second")
  | .canonicalNow => .ok ()

def EffectiveStart.accepted (call : Call) : EffectiveStart → Nat
  | .instant value => value.toNat
  | .canonicalNow => call.now

def hasTerminalOutcome (rows : TaskRows) (taskId : String) : Except Raised Bool :=
  match rows.outcomeCurrent? taskId with
  | none => do
    ensure (rows.outcomeHistory taskId = [])
      (integrityFailure "Task outcome history exists without current projection")
    return false
  | some current => do
    storedUuid current.outcomeEventId "Task current outcome event identity"
    ensure (0 < current.revision) (integrityFailure "Task current outcome revision is invalid")
    ensure ((rows.outcomeHistory taskId).length = current.revision)
      (integrityFailure "Task outcome projection revision disagrees with immutable history")
    return true

def validateObjectiveScope (rows : TaskRows) (objectiveId : String)
    (objectiveRevision envelopeRevision : Int) : Except Raised Unit := do
  match rows.objective? objectiveId with
  | none => .error (taskError "OBJECTIVE_NOT_FOUND" "Objective does not exist")
  | some objective => do
    ensure (0 < objective.revision) (integrityFailure "Objective revision is invalid")
    ensure ((objective.revision : Int) = objectiveRevision ∧
        objective.supersededByObjectiveId = none)
      (taskError "OBJECTIVE_STALE" "Objective revision/currentness changed")
    match rows.envelopes.find? (·.objectiveId = objectiveId) with
    | none => .error (integrityFailure "current Objective is missing envelope projection")
    | some envelope => do
      ensure (0 < envelope.revision) (integrityFailure "Objective envelope revision is invalid")
      ensure ((envelope.revision : Int) = envelopeRevision)
        (taskError "OBJECTIVE_STALE" "Objective envelope revision changed")

/-! ## `start_task_execution` and `start_selected_objective_tasks` -/

/-- The part of both starts about the state of the task. -/
def admitStart (rows : TaskRows) (taskId : String) (authority : ExecutionAuthority)
    (alreadyStarted alreadyTerminal : Raised) : Except Raised Unit := do
  ensure (authority.folded.state ≠ .inProgress) alreadyStarted
  ensure (authority.folded.state ∉ [.ended, .terminated]) alreadyTerminal
  let hasOutcome ← hasTerminalOutcome rows taskId
  ensure (hasOutcome = false) alreadyTerminal

def insertOrAdvanceStartProjection (taskId : String) (authority : ExecutionAuthority)
    (eventId : String) (acceptedStart : Nat) : TaskBody PUnit :=
  if authority.projectionExists then
    updateExecutionProjection
      (fun row => row.taskId = taskId ∧ row.revision = authority.revision)
      (fun row => { row with
        executionState := .inProgress
        actualStartUtc := some acceptedStart
        actualEndUtc := none
        effectiveTerminationUtc := none
        terminationReason := none
        revision := row.revision + 1
        lastEventId := eventId })
      (integrityFailure "Task execution projection changed during guarded start")
  else
    insertExecutionProjection ⟨taskId, .inProgress, some acceptedStart, none, none, none, 1, eventId⟩

/-- The writes of a start on one task. -/
def applyStart (taskId : String) (taskRevision : Nat) (authority : ExecutionAuthority)
    (eventId : String) (acceptedStart : Nat) : TaskBody PUnit := do
  insertExecutionEvent
    (baseEvent eventId taskId (authority.revision + 1) .start (some acceptedStart) none)
  insertOrAdvanceStartProjection taskId authority eventId acceptedStart
  incrementRevision taskId taskRevision

section Commands

variable (python : PythonLibrary)

/-- `start_task_execution.prepare`: the task and its execution. -/
def prepareStart (rows : TaskRows) (taskId : String) (taskRevision executionRevision : Int) :
    Except Raised (TaskRecord × ExecutionAuthority) := do
  let task ← requireTask rows taskId taskRevision
    (taskError "TASK_NOT_FOUND" "Task does not exist")
    (taskError "TASK_STALE" "Task revision changed")
  let authority ← executionAuthority rows taskId
  ensure ((authority.revision : Int) = executionRevision)
    (taskError "TASK_STALE" "Task execution revision changed")
  admitStart rows taskId authority
    (taskError "TASK_EXECUTION_ALREADY_STARTED" "Task already has current accepted start evidence")
    (taskError "TASK_EXECUTION_ALREADY_TERMINAL" "Task execution/outcome is already terminal")
  return (task, authority)

def startTaskExecution (call : Call) (taskId : String) (taskRevision executionRevision : Int)
    (effectiveStart : EffectiveStart) : TaskBody TaskMutationResult := do
  attempt (requireUuid4 taskId)
  attempt (requireRevision taskRevision "task_revision" false)
  attempt (requireRevision executionRevision "execution_revision" true)
  attempt (validateEffectiveStart effectiveStart)
  let rows ← get
  let (task, authority) ← attempt (prepareStart rows taskId taskRevision executionRevision)
  applyStart taskId task.revision authority (call.newUuid4 0).value (effectiveStart.accepted call)
  rebuildIfMember python taskId
  return ⟨false, taskId, task.revision + 1⟩

structure SelectedTaskExecutionStart where
  taskId : String
  taskRevision : Int
  executionRevision : Int

/-- One round of the loop of `start_selected_objective_tasks.prepare`. -/
def prepareSelected (rows : TaskRows) (objectiveId : String)
    (request : SelectedTaskExecutionStart) :
    Except Raised (SelectedTaskExecutionStart × TaskRecord × ExecutionAuthority) := do
  let membership ← currentMembershipForTask rows request.taskId
  ensure (membership.map (·.objectiveId) = some objectiveId)
    (taskError "TASK_STALE" "selected Task is no longer a current member of this Objective")
  let stale := taskError "TASK_STALE" "selected Task revision changed"
  let task ← requireTask rows request.taskId request.taskRevision stale stale
  let authority ← executionAuthority rows request.taskId
  ensure ((authority.revision : Int) = request.executionRevision)
    (taskError "TASK_STALE" "selected Task execution revision changed")
  admitStart rows request.taskId authority
    (taskError "TASK_EXECUTION_ALREADY_STARTED"
      "selected Task already has current accepted start evidence")
    (taskError "TASK_EXECUTION_ALREADY_TERMINAL"
      "selected Task execution/outcome is already terminal")
  return (request, task, authority)

/-- The checks on the selected tasks before the transaction. -/
def validateSelected (selected : List SelectedTaskExecutionStart) : Except Raised Unit := do
  ensure (1 ≤ selected.length ∧ selected.length ≤ 100)
    (validationError "selected_tasks must contain between 1 and 100 Tasks")
  selected.forM fun entry => do
    requireUuid4 entry.taskId
    requireRevision entry.taskRevision "selected task_revision" false
    requireRevision entry.executionRevision "selected execution_revision" true
  ensure ((selected.map (·.taskId)).Nodup)
    (validationError "selected_tasks cannot contain duplicate task_id")

/-- The writes on the selected tasks in their order, each with its own event. -/
def applySelected (call : Call) (acceptedStart : Nat) :
    Nat → List (SelectedTaskExecutionStart × TaskRecord × ExecutionAuthority) → TaskBody PUnit
  | _, [] => pure ⟨⟩
  | index, (request, task, authority) :: rest => do
    applyStart request.taskId task.revision authority (call.newUuid4 index).value acceptedStart
    applySelected call acceptedStart (index + 1) rest

def startSelectedObjectiveTasks (call : Call) (objectiveId : String)
    (objectiveRevision objectiveEnvelopeRevision : Int)
    (selectedTasks : List SelectedTaskExecutionStart) (effectiveStart : EffectiveStart) :
    TaskBody ObjectiveAggregateProjection := do
  attempt (requireUuid4 objectiveId)
  attempt (requireRevision objectiveRevision "objective_revision" false)
  attempt (requireRevision objectiveEnvelopeRevision "objective_envelope_revision" false)
  attempt (validateSelected selectedTasks)
  attempt (validateEffectiveStart effectiveStart)
  let requests := selectedTasks.insertionSort fun first second => first.taskId ≤ second.taskId
  let rows ← get
  attempt (validateObjectiveScope rows objectiveId objectiveRevision objectiveEnvelopeRevision)
  let selected ← attempt (requests.mapM (prepareSelected rows objectiveId))
  applySelected call (effectiveStart.accepted call) 0 selected
  rebuildAggregate python objectiveId

/-! ## `end_task_execution` -/

/-- `end_task_execution.prepare`. -/
def prepareEnd (rows : TaskRows) (taskId : String) (taskRevision executionRevision : Int)
    (acceptedEnd : Nat) : Except Raised (TaskRecord × ExecutionAuthority) := do
  let task ← requireTask rows taskId taskRevision
    (taskError "TASK_NOT_FOUND" "Task does not exist")
    (taskError "TASK_STALE" "Task revision changed")
  let authority ← executionAuthority rows taskId
  ensure ((authority.revision : Int) = executionRevision)
    (taskError "TASK_STALE" "Task execution revision changed")
  ensure (authority.folded.state ≠ .notStarted)
    (taskError "TASK_EXECUTION_NOT_STARTED" "Task has no current accepted start evidence")
  ensure (authority.folded.state ∉ [.ended, .terminated])
    (taskError "TASK_EXECUTION_ALREADY_TERMINAL" "Task execution is already terminal")
  match authority.folded.actualStartUtc with
  | none => .error (integrityFailure "Task execution authority has invalid in-progress state")
  | some started => do
    let hasOutcome ← hasTerminalOutcome rows taskId
    ensure (hasOutcome = false)
      (integrityFailure "Task has a reviewed terminal outcome before execution end")
    ensure (started ≤ acceptedEnd)
      (validationError "effective_end_utc cannot precede current accepted actual start")
    return (task, authority)

/-- The writes of an end. -/
def applyEnd (taskId : String) (taskRevision : Nat) (authority : ExecutionAuthority)
    (eventId : String) (acceptedEnd : Nat) : TaskBody PUnit := do
  insertExecutionEvent
    (baseEvent eventId taskId (authority.revision + 1) .endEvent (some acceptedEnd) none)
  updateExecutionProjection
    (fun row => row.taskId = taskId ∧ row.revision = authority.revision)
    (fun row => { row with
      executionState := .ended
      actualEndUtc := some acceptedEnd
      effectiveTerminationUtc := none
      terminationReason := none
      revision := row.revision + 1
      lastEventId := eventId })
    (integrityFailure "Task execution projection changed during guarded end")
  incrementRevision taskId taskRevision

def endTaskExecution (call : Call) (taskId : String) (taskRevision executionRevision : Int)
    (effectiveEndUtc : Int) : TaskBody TaskMutationResult := do
  attempt (requireUuid4 taskId)
  attempt (requireRevision taskRevision "task_revision" false)
  attempt (requireRevision executionRevision "execution_revision" false)
  require (0 ≤ effectiveEndUtc)
    (validationError "effective_end_utc must be a nonnegative UTC whole second")
  let rows ← get
  let (task, authority) ← attempt
    (prepareEnd rows taskId taskRevision executionRevision effectiveEndUtc.toNat)
  applyEnd taskId task.revision authority (call.newUuid4 0).value effectiveEndUtc.toNat
  rebuildIfMember python taskId
  return ⟨false, taskId, task.revision + 1⟩

/-! ## `correct_task_execution_evidence` -/

/-- `except SomaError as exc: if exc.code == "TASK_STALE": raise stale`. -/
def restale {Result : Type} (stale : Raised) : Except Raised Result → Except Raised Result
  | .error (.soma error) => .error (if error.code = "TASK_STALE" then stale else .soma error)
  | outcome => outcome

def reviewStale (message : String) : Raised :=
  taskError "TASK_REVIEW_STALE" message

def outcomeInvalid (message : String) : Raised :=
  taskError "TASK_OUTCOME_INVALID_FOR_EXECUTION" message

/-- The preview a correction has been reviewed with. -/
def admitCorrection (preview : CorrectionPreview) (fingerprint : String)
    (acceptOutcomeInvalidation : Bool) : Except Raised Unit := do
  ensure (preview.correctionReviewFingerprint = fingerprint)
    (reviewStale "Task execution correction fingerprint changed after preview")
  ensure ("TARGET_NOT_CURRENT_EFFECTIVE" ∉ preview.blockers)
    (reviewStale "Task execution correction target is no longer current-effective")
  ensure (preview.blockers = [])
    (outcomeInvalid
      "Requested Task execution correction is not eligible under current execution authority")
  ensure (preview.outcomeInvalidationRequired → acceptOutcomeInvalidation)
    (outcomeInvalid
      "Task execution correction requires explicit reviewed outcome invalidation acknowledgement")

/-- `correct_task_execution_evidence.prepare`. -/
def prepareCorrection (rows : TaskRows) (request : CorrectionRequest) (fingerprint : String)
    (acceptOutcomeInvalidation : Bool) : Except Raised (TaskRecord × ExecutionAuthority) := do
  let preview ← restale
    (reviewStale "Task execution correction authority changed after preview")
    (evaluateCorrection python rows request)
  admitCorrection preview fingerprint acceptOutcomeInvalidation
  let task ← requireTask rows request.taskId request.taskRevision
    (taskError "TASK_NOT_FOUND" "Task does not exist")
    (reviewStale "Task execution correction Task revision changed during writer revalidation")
  let authority ← executionAuthority rows request.taskId
  ensure ((authority.revision : Int) = request.executionRevision ∧ authority.lastEventId ≠ none)
    (reviewStale "Task execution correction revision changed during writer revalidation")
  let targetChanged :=
    reviewStale "Task execution correction target changed during writer revalidation"
  match rows.executionEvents.find? fun event => event.taskId = request.taskId ∧
      event.executionEventId = request.targetExecutionEventId ∧
      (event.executionRevision : Int) = request.targetExecutionRevision with
  | none => .error targetChanged
  | some target => do
    ensure (target.eventKind ≠ .correction) targetChanged
    ensure (¬ (request.correctionAction = .withdraw ∧ target.eventKind.governedTerminal))
      (outcomeInvalid
        "Governed terminal execution evidence cannot be withdrawn by generic correction")
    return (task, authority)

/-- The writes of a correction: the projection is the fold of the new history. -/
def applyCorrection (request : CorrectionRequest) (task : TaskRecord)
    (authority : ExecutionAuthority) (eventId : String) : TaskBody PUnit := do
  insertExecutionEvent (request.event eventId (authority.revision + 1)
    (request.replacementEffectiveAtUtc.map Int.toNat))
  let rows ← get
  let history := rows.executionHistory request.taskId
  let folded ← attempt (foldExecutionHistory history)
  require (history.length = authority.revision + 1)
    (integrityFailure "Task execution correction did not produce contiguous revision history")
  updateExecutionProjection
    (fun row => row.taskId = request.taskId ∧ row.revision = authority.revision ∧
      some row.lastEventId = authority.lastEventId)
    (fun row => { row with
      executionState := folded.state
      actualStartUtc := folded.actualStartUtc
      actualEndUtc := folded.actualEndUtc
      effectiveTerminationUtc := folded.effectiveTerminationUtc
      terminationReason := if folded.state = .terminated then row.terminationReason else none
      revision := row.revision + 1
      lastEventId := eventId })
    (integrityFailure "Task execution projection changed during guarded correction")
  incrementRevision request.taskId task.revision

/-- The checks on a correction request before the transaction. -/
def validateCorrection (request : CorrectionRequest) (fingerprint : String) :
    Except Raised Unit := do
  requireUuid4 request.taskId
  requireRevision request.taskRevision "task_revision" false
  requireRevision request.executionRevision "execution_revision" false
  requireUuid4 request.targetExecutionEventId
  requireRevision request.targetExecutionRevision "target_execution_revision" false
  match request.correctionAction with
  | .replaceTime =>
    ensure (∃ instant ∈ request.replacementEffectiveAtUtc, 0 ≤ instant)
      (validationError "effective_end_utc must be a nonnegative UTC whole second")
  | .withdraw =>
    ensure (request.replacementEffectiveAtUtc = none)
      (validationError "replacement_effective_at_utc must be null for withdraw")
  validateReasonCategory request.reasonCategory
  ensure (isSha256 fingerprint)
    (validationError "correction_review_fingerprint must be lowercase SHA-256 hex")

def correctTaskExecutionEvidence (call : Call) (request : CorrectionRequest)
    (correctionReviewFingerprint : String) (acceptOutcomeInvalidation : Bool) :
    TaskBody TaskMutationResult := do
  attempt (validateCorrection request correctionReviewFingerprint)
  let rows ← get
  let (task, authority) ← attempt
    (prepareCorrection python rows request correctionReviewFingerprint acceptOutcomeInvalidation)
  applyCorrection request task authority (call.newUuid4 0).value
  rebuildIfMember python request.taskId
  return ⟨false, request.taskId, task.revision + 1⟩

/-! ## `cancel_task_without_execution` -/

def insertOrAdvanceCancelProjection (taskId : String) (authority : ExecutionAuthority)
    (eventId : String) (acceptedCancel : Nat) (reason : String) : TaskBody PUnit :=
  if authority.projectionExists then
    updateExecutionProjection
      (fun row => row.taskId = taskId ∧ row.revision = authority.revision)
      (fun row => { row with
        executionState := .terminated
        actualStartUtc := none
        actualEndUtc := none
        effectiveTerminationUtc := some acceptedCancel
        terminationReason := some reason
        revision := row.revision + 1
        lastEventId := eventId })
      (integrityFailure "Task execution projection changed during guarded cancellation")
  else
    insertExecutionProjection
      ⟨taskId, .terminated, none, none, some acceptedCancel, some reason, 1, eventId⟩

/-- What a cancellation at another execution revision is refused with. -/
def staleCancel (execution : FoldedExecution) : Raised :=
  if execution.state = .inProgress ∧ execution.actualStartUtc ≠ none then
    taskError "TASK_CANCEL_AFTER_START"
      "Task accepted start evidence before cancellation writer revalidation"
  else if execution.state ∈ [.ended, .terminated] then
    taskError "TASK_EXECUTION_ALREADY_TERMINAL" "Task execution is already terminal"
  else taskError "TASK_STALE" "Task execution revision changed before cancellation"

/-- `cancel_task_without_execution.prepare`. -/
def prepareCancel (rows : TaskRows) (taskId : String) (taskRevision executionRevision : Int) :
    Except Raised (TaskRecord × ExecutionAuthority) := do
  match rows.task? taskId with
  | none => .error (taskError "TASK_NOT_FOUND" "Task does not exist")
  | some task => do
    let authority ← executionAuthority rows taskId
    let execution := authority.folded
    let hasOutcome ← hasTerminalOutcome rows taskId
    ensure ((authority.revision : Int) = executionRevision) (staleCancel execution)
    ensure (¬ (execution.state = .inProgress ∧ execution.actualStartUtc ≠ none))
      (taskError "TASK_CANCEL_AFTER_START" "Task already has accepted start evidence")
    ensure (execution.state ∉ [.ended, .terminated] ∧ hasOutcome = false)
      (taskError "TASK_EXECUTION_ALREADY_TERMINAL" "Task execution/outcome is already terminal")
    ensure ((task.revision : Int) = taskRevision)
      (taskError "TASK_STALE" "Task revision changed before cancellation")
    ensure (execution.state = .notStarted ∧ execution.actualStartUtc = none)
      (integrityFailure "Task cancellation authority is not current-effective not_started")
    return (task, authority)

/-- The writes of a cancellation: a terminal event and the outcome it implies. -/
def applyCancel (call : Call) (taskId : String) (taskRevision : Nat)
    (authority : ExecutionAuthority) (acceptedCancel : Nat) (reason : String) : TaskBody PUnit := do
  let executionEventId := (call.newUuid4 0).value
  let outcomeEventId := (call.newUuid4 1).value
  insertExecutionEvent (baseEvent executionEventId taskId (authority.revision + 1) .manualCancel
    (some acceptedCancel) (some reason))
  insertOrAdvanceCancelProjection taskId authority executionEventId acceptedCancel reason
  insertOutcomeEvent ⟨outcomeEventId, taskId, .cancelledWithoutExecution, none, some reason,
    call.now, call.commandId⟩
  insertOutcomeCurrent ⟨taskId, outcomeEventId, .cancelledWithoutExecution, call.now, 1,
    call.commandId⟩
  incrementRevision taskId taskRevision

def cancelTaskWithoutExecution (call : Call) (taskId : String)
    (taskRevision executionRevision outcomeRevision effectiveCancelUtc : Int)
    (reasonCategory : String) : TaskBody TaskMutationResult := do
  attempt (requireUuid4 taskId)
  attempt (requireRevision taskRevision "task_revision" false)
  attempt (requireRevision executionRevision "execution_revision" true)
  require (outcomeRevision = 0)
    (validationError "outcome_revision must be exactly zero for cancellation without execution")
  require (0 ≤ effectiveCancelUtc)
    (validationError "effective_cancel_utc must be a nonnegative UTC whole second")
  attempt (validateReasonCategory reasonCategory)
  let rows ← get
  let (task, authority) ← attempt (prepareCancel rows taskId taskRevision executionRevision)
  applyCancel call taskId task.revision authority effectiveCancelUtc.toNat reasonCategory
  rebuildIfMember python taskId
  return ⟨false, taskId, task.revision + 1⟩

end Commands

end Soma.ObjectivesTasks
