import Soma.ObjectivesTasks.Execution

/-!
`services/task_review.py` with its previews in `queries/execution_review.py`:
the first review of the outcome of a task and the correction of a reviewed one.

Both commands evaluate their preview anew inside the transaction, compare its
fingerprint with the reviewed one and append an event to the chain of outcomes.
-/

namespace Soma.ObjectivesTasks

open Foundation Transaction

/-! ## Requests -/

def normalizeReason : Option String → Except Raised Unit
  | none => .ok ()
  | some reason => validateReasonCategory reason

def validateFingerprint (value label : String) : Except Raised Unit :=
  ensure (isSha256 value) (validationError (label ++ " must be lowercase SHA-256 hex"))

/-- The outcome a first review names as current: none, at revision zero. -/
def checkCurrentOutcome (revision : Int) (eventId : Option String) : Except Raised Unit := do
  ensure (0 ≤ revision) (validationError "outcome_revision must be a nonnegative integer")
  if revision = 0 then
    ensure (eventId = none)
      (validationError "current_outcome_event_id must be null when outcome_revision is zero")
  else match eventId with
    | none =>
      .error (validationError "current_outcome_event_id is required for positive outcome_revision")
    | some eventId => requireUuid4 eventId

/-- An incomplete outcome of an ended execution needs a reason. -/
def lacksReason (outcome : AcceptedOutcome) (execution : FoldedExecution)
    (reason : Option String) : Bool :=
  outcome = .incomplete ∧ execution.state = .ended ∧ reason = none

/-! ## The first review -/

structure OutcomeReviewRequest where
  taskId : String
  taskRevision : Int
  executionRevision : Int
  outcomeRevision : Int
  currentOutcomeEventId : Option String
  outcome : AcceptedOutcome
  reasonCategory : Option String

/-- `TaskOutcomeReviewPreview`, as far as the writer reads it. -/
structure OutcomeReviewPreview where
  outcomeReviewFingerprint : String
  currentOutcomeRevision : Nat
  semanticNoChange : Bool
  blockers : List String

/-- The reviewed outcome is valid and is just what is requested. -/
def exactSame (current : OutcomeAuthority) (execution : FoldedExecution)
    (request : OutcomeReviewRequest) : Bool :=
  current.tip.any fun tip => outcomeMatchesExecution tip.acceptedOutcome execution &&
    decide (tip.acceptedOutcome = request.outcome ∧ tip.reasonCode = request.reasonCategory)

/-- What stands against a first review. -/
def reviewBlockers (current : OutcomeAuthority) (execution : FoldedExecution)
    (request : OutcomeReviewRequest) : List String :=
  (if execution.state ∉ [.ended, .terminated] then ["EXECUTION_NOT_TERMINAL"] else []) ++
  (if outcomeMatchesExecution request.outcome execution = false ∨
      lacksReason request.outcome execution request.reasonCategory then
    ["OUTCOME_INVALID_FOR_EXECUTION"] else []) ++
  (if current.tip.isSome ∧ exactSame current execution request = false then
    ["CURRENT_OUTCOME_REQUIRES_CORRECTION"] else [])

/-- The document `outcome_review_fingerprint` digests. -/
def outcomeReviewInput (request : OutcomeReviewRequest) (task : TaskRecord)
    (execution : ReviewedExecution) (current : OutcomeAuthority) : Json :=
  .obj [
    ("schema", .str "SOMA_TASK_OUTCOME_REVIEW_V1"),
    ("task", taskObject task),
    ("execution", executionObject execution),
    ("current_outcome", outcomeObject current),
    ("request", .obj [
      ("outcome", .str request.outcome.text),
      ("reason_category", jsonOption .str request.reasonCategory)])]

section Commands

variable (python : PythonLibrary)

/-- `TaskOutcomeReviewQueryService.evaluate_connection`. -/
def evaluateOutcomeReview (rows : TaskRows) (request : OutcomeReviewRequest) :
    Except Raised OutcomeReviewPreview := do
  requireUuid4 request.taskId
  requirePositiveRevision request.taskRevision "task_revision"
  requirePositiveRevision request.executionRevision "execution_revision"
  checkCurrentOutcome request.outcomeRevision request.currentOutcomeEventId
  normalizeReason request.reasonCategory
  let task ← requireTask rows request.taskId request.taskRevision
    (taskError "TASK_NOT_FOUND" "Task does not exist in current authority")
    (taskError "TASK_STALE" "Task revision changed since outcome review preview input")
  let execution ← loadExecutionAuthority rows request.taskId
  ensure ((execution.revision : Int) = request.executionRevision)
    (taskError "TASK_STALE" "Task execution revision changed since outcome review preview input")
  let current ← loadOutcomeAuthority rows request.taskId
  ensure ((current.revision : Int) = request.outcomeRevision ∧
      current.eventId = request.currentOutcomeEventId)
    (taskError "TASK_STALE" "Task outcome authority changed since outcome review preview input")
  let blockers := reviewBlockers current execution.folded request
  let fingerprint ← sha256CanonicalJson python (outcomeReviewInput request task execution current)
  return {
    outcomeReviewFingerprint := fingerprint
    currentOutcomeRevision := current.revision
    semanticNoChange := exactSame current execution.folded request && decide (blockers = [])
    blockers }

/-- The preview a first review has been reviewed with. -/
def admitOutcomeReview (preview : OutcomeReviewPreview) (fingerprint : String) :
    Except Raised Unit := do
  ensure (preview.outcomeReviewFingerprint = fingerprint)
    (reviewStale "Task outcome review fingerprint changed after preview")
  ensure ("CURRENT_OUTCOME_REQUIRES_CORRECTION" ∉ preview.blockers)
    (reviewStale "Current reviewed outcome requires CorrectTaskOutcome")
  ensure (preview.blockers = [])
    (outcomeInvalid "Requested Task outcome is not eligible under current execution authority")

/-- `review_task_outcome.prepare`: the task, and whether there is nothing to change. -/
def prepareOutcomeReview (rows : TaskRows) (request : OutcomeReviewRequest)
    (fingerprint : String) : Except Raised (TaskRecord × Bool) := do
  let preview ← restale (reviewStale "Task outcome review authority changed after preview")
    (evaluateOutcomeReview python rows request)
  admitOutcomeReview preview fingerprint
  let changed := reviewStale "Task outcome review authority changed during writer revalidation"
  let task ← requireTask rows request.taskId request.taskRevision changed changed
  if preview.semanticNoChange then return (task, true)
  else do
    ensure (request.outcomeRevision = 0 ∧ preview.currentOutcomeRevision = 0)
      (reviewStale "First Task outcome review no longer targets exact outcome absence")
    return (task, false)

/-- The writes of a first review. -/
def applyOutcomeReview (call : Call) (request : OutcomeReviewRequest) (taskRevision : Nat) :
    TaskBody PUnit := do
  let outcomeEventId := (call.newUuid4 0).value
  insertOutcomeEvent ⟨outcomeEventId, request.taskId, request.outcome, none,
    request.reasonCategory, call.now, call.commandId⟩
  insertOutcomeCurrent ⟨request.taskId, outcomeEventId, request.outcome, call.now, 1,
    call.commandId⟩
  incrementRevision request.taskId taskRevision

/-- The checks on a first review before the transaction. -/
def validateOutcomeReview (request : OutcomeReviewRequest) (fingerprint : String) :
    Except Raised Unit := do
  requireUuid4 request.taskId
  requirePositiveRevision request.taskRevision "task_revision"
  requirePositiveRevision request.executionRevision "execution_revision"
  checkCurrentOutcome request.outcomeRevision request.currentOutcomeEventId
  normalizeReason request.reasonCategory
  validateFingerprint fingerprint "outcome_review_fingerprint"

def reviewTaskOutcome (call : Call) (request : OutcomeReviewRequest)
    (outcomeReviewFingerprint : String) : TaskBody TaskMutationResult := do
  attempt (validateOutcomeReview request outcomeReviewFingerprint)
  let rows ← get
  let (task, noChange) ← attempt
    (prepareOutcomeReview python rows request outcomeReviewFingerprint)
  if noChange then
    return ⟨true, request.taskId, task.revision⟩
  else do
    applyOutcomeReview call request task.revision
    rebuildIfMember python request.taskId
    return ⟨false, request.taskId, task.revision + 1⟩

/-! ## The correction of a reviewed outcome -/

structure OutcomeCorrectionRequest where
  taskId : String
  taskRevision : Int
  executionRevision : Int
  currentOutcomeRevision : Int
  currentOutcomeEventId : String
  replacementOutcome : AcceptedOutcome
  reasonCategory : Option String

/-- `TaskOutcomeCorrectionPreview`, as far as the writer reads it. -/
structure OutcomeCorrectionPreview where
  correctionReviewFingerprint : String
  semanticNoChange : Bool
  blockers : List String

/-- What stands against the replacement. -/
def replacementBlockers (execution : FoldedExecution) (request : OutcomeCorrectionRequest) :
    List String :=
  if outcomeMatchesExecution request.replacementOutcome execution = false ∨
      lacksReason request.replacementOutcome execution request.reasonCategory then
    ["OUTCOME_INVALID_FOR_EXECUTION"]
  else []

/-- The document `correction_review_fingerprint` digests. -/
def outcomeCorrectionInput (request : OutcomeCorrectionRequest) (task : TaskRecord)
    (execution : ReviewedExecution) (current : OutcomeAuthority) : Json :=
  .obj [
    ("schema", .str "SOMA_TASK_OUTCOME_CORRECTION_REVIEW_V1"),
    ("task", taskObject task),
    ("execution", executionObject execution),
    ("current_outcome", outcomeObject current),
    ("request", .obj [
      ("replacement_outcome", .str request.replacementOutcome.text),
      ("reason_category", jsonOption .str request.reasonCategory)])]

/-- `TaskOutcomeCorrectionQueryService.evaluate_connection`. -/
def evaluateOutcomeCorrection (rows : TaskRows) (request : OutcomeCorrectionRequest) :
    Except Raised OutcomeCorrectionPreview := do
  requireUuid4 request.taskId
  requirePositiveRevision request.taskRevision "task_revision"
  requirePositiveRevision request.executionRevision "execution_revision"
  requirePositiveRevision request.currentOutcomeRevision "current_outcome_revision"
  requireUuid4 request.currentOutcomeEventId
  normalizeReason request.reasonCategory
  let task ← requireTask rows request.taskId request.taskRevision
    (taskError "TASK_NOT_FOUND" "Task does not exist in current authority")
    (taskError "TASK_STALE" "Task revision changed since outcome correction preview input")
  let execution ← loadExecutionAuthority rows request.taskId
  ensure ((execution.revision : Int) = request.executionRevision)
    (taskError "TASK_STALE"
      "Task execution revision changed since outcome correction preview input")
  let current ← loadOutcomeAuthority rows request.taskId
  ensure ((current.revision : Int) = request.currentOutcomeRevision ∧
      current.eventId = some request.currentOutcomeEventId)
    (taskError "TASK_STALE" "Task current outcome changed since correction preview input")
  match current.tip with
  | none => .error (integrityFailure "positive Task outcome authority is unexpectedly absent")
  | some tip => do
    let blockers := replacementBlockers execution.folded request
    let fingerprint ← sha256CanonicalJson python
      (outcomeCorrectionInput request task execution current)
    return {
      correctionReviewFingerprint := fingerprint
      semanticNoChange := decide (outcomeMatchesExecution request.replacementOutcome
          execution.folded ∧ tip.acceptedOutcome = request.replacementOutcome ∧
        tip.reasonCode = request.reasonCategory ∧ blockers = [])
      blockers }

/-- `correct_task_outcome.prepare`: the task, and whether there is nothing to change. -/
def prepareOutcomeCorrection (rows : TaskRows) (request : OutcomeCorrectionRequest)
    (fingerprint : String) : Except Raised (TaskRecord × Bool) := do
  let preview ← restale (reviewStale "Task outcome correction authority changed after preview")
    (evaluateOutcomeCorrection python rows request)
  ensure (preview.correctionReviewFingerprint = fingerprint)
    (reviewStale "Task outcome correction fingerprint changed after preview")
  ensure (preview.blockers = [])
    (outcomeInvalid "Replacement Task outcome is not eligible under current execution authority")
  let changed :=
    reviewStale "Task outcome correction authority changed during writer revalidation"
  let task ← requireTask rows request.taskId request.taskRevision changed changed
  return (task, preview.semanticNoChange)

def TaskRows.updateOutcomeCurrent (rows : TaskRows) (selected : TaskOutcomeCurrent → Bool)
    (change : TaskOutcomeCurrent → TaskOutcomeCurrent) : TaskRows :=
  { rows with outcomeCurrent := rows.outcomeCurrent.map fun row =>
      if selected row then change row else row }

/-- `UPDATE task_outcome_current` to another event, which has to hit one row. -/
def updateOutcomeCurrent (selected : TaskOutcomeCurrent → Bool)
    (change : TaskOutcomeCurrent → TaskOutcomeCurrent) (lost : Raised) : TaskBody PUnit := do
  let rows ← get
  require (rows.outcomeCurrent.countP selected = 1) lost
  -- The declared key and `task_outcome_current_update_guard`.
  require (∀ row ∈ rows.outcomeCurrent, selected row →
    OutcomeGuard rows (change row) ∧
      (change row).outcomeEventId ∉ rows.outcomeCurrent.map (·.outcomeEventId)) .other
  set (rows.updateOutcomeCurrent selected change)

/-- The writes of a correction of an outcome. -/
def applyOutcomeCorrection (call : Call) (request : OutcomeCorrectionRequest)
    (taskRevision : Nat) : TaskBody PUnit := do
  let outcomeEventId := (call.newUuid4 0).value
  insertOutcomeEvent ⟨outcomeEventId, request.taskId, request.replacementOutcome,
    some request.currentOutcomeEventId, request.reasonCategory, call.now, call.commandId⟩
  updateOutcomeCurrent
    (fun row => row.taskId = request.taskId ∧
      (row.revision : Int) = request.currentOutcomeRevision ∧
      row.outcomeEventId = request.currentOutcomeEventId)
    (fun row => { row with
      outcomeEventId := outcomeEventId
      acceptedOutcome := request.replacementOutcome
      reviewedAtUtc := call.now
      revision := row.revision + 1
      lastCommandId := call.commandId })
    (reviewStale "Task outcome current tip changed during guarded correction")
  incrementRevision request.taskId taskRevision

/-- The checks on a correction of an outcome before the transaction. -/
def validateOutcomeCorrection (request : OutcomeCorrectionRequest) (fingerprint : String) :
    Except Raised Unit := do
  requireUuid4 request.taskId
  requirePositiveRevision request.taskRevision "task_revision"
  requirePositiveRevision request.executionRevision "execution_revision"
  requirePositiveRevision request.currentOutcomeRevision "current_outcome_revision"
  requireUuid4 request.currentOutcomeEventId
  normalizeReason request.reasonCategory
  validateFingerprint fingerprint "correction_review_fingerprint"

def correctTaskOutcome (call : Call) (request : OutcomeCorrectionRequest)
    (correctionReviewFingerprint : String) : TaskBody TaskMutationResult := do
  attempt (validateOutcomeCorrection request correctionReviewFingerprint)
  let rows ← get
  let (task, noChange) ← attempt
    (prepareOutcomeCorrection python rows request correctionReviewFingerprint)
  if noChange then
    return ⟨true, request.taskId, task.revision⟩
  else do
    applyOutcomeCorrection call request task.revision
    rebuildIfMember python request.taskId
    return ⟨false, request.taskId, task.revision + 1⟩

end Commands

end Soma.ObjectivesTasks
