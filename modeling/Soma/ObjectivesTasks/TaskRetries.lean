import Mathlib.Data.String.Basic
import Soma.ObjectivesTasks.Execution

/-!
`services/retries.py`: a task that was not done is tried again as a new Local Task or as
another WFM task, and the retry relations link each attempt to the next.

The checks of the Inventory participant run in the same transaction and write tables of its
own; what it answers comes with the call. Of a hard deletion only the retry relations are
evaluated here, what the evaluation finds elsewhere comes with the call too.
-/

namespace Soma.ObjectivesTasks

open Foundation Transaction

/-! ## Tables -/

structure RetryTask extends TaskRecord where
  localTaskName : Option String

structure WfmTaskIdentity where
  taskId : String
  taskNo : String

inductive RelationshipKind where
  | sr
  | rfc
  | device
  deriving DecidableEq

def RelationshipKind.text : RelationshipKind → String
  | .sr => "SR"
  | .rfc => "RFC"
  | .device => "Device"

/-- A row of `task_sr_links`, `task_rfc_links` or `task_device_links`. -/
structure TaskRelationship where
  relationshipId : String
  relationshipKind : RelationshipKind
  taskId : String
  relatedId : String
  active : Bool

/-- A row of `task_retry_relations`. -/
structure RetryRelation where
  retryRelationId : String
  predecessorTaskId : String
  successorTaskId : String
  deriving DecidableEq

structure RetryRows where
  tasks : List RetryTask
  wfmTaskIdentities : List WfmTaskIdentity
  planRevisions : List TaskPlanRecord
  planCurrent : List TaskPlanCurrentPointer
  relationships : List TaskRelationship
  retryRelations : List RetryRelation

abbrev RetryBody (Result : Type) := Body RetryRows Raised Result

def RetryRows.task? (rows : RetryRows) (taskId : String) : Option RetryTask :=
  rows.tasks.find? (·.taskId = taskId)

def RetryRows.taskIds (rows : RetryRows) : List String :=
  rows.tasks.map (·.taskId)

/-! ## Statements -/

/-- `TaskRepository.insert`. -/
def insertRetryTask (row : RetryTask) : RetryBody PUnit := do
  let rows ← get
  require (row.taskId ∉ rows.taskIds) .other
  set { rows with tasks := rows.tasks ++ [row] }

/-- `TaskPlanRepository.insert_initial`. -/
def insertInitialPlan (row : TaskPlanRecord) : RetryBody PUnit := do
  let rows ← get
  require (row.planRevisionId ∉ rows.planRevisions.map (·.planRevisionId) ∧
    row.taskId ∈ rows.taskIds ∧ row.taskId ∉ rows.planCurrent.map (·.taskId)) .other
  let pointer : TaskPlanCurrentPointer := ⟨row.taskId, row.planRevisionId, 1⟩
  set { rows with
    planRevisions := rows.planRevisions ++ [row]
    planCurrent := rows.planCurrent ++ [pointer] }

/-- `TaskRelationshipRepository.link`. The related row is there: the link of the predecessor
refers to it. -/
def linkRelationship (row : TaskRelationship) : RetryBody PUnit := do
  let rows ← get
  require (row.taskId ∈ rows.taskIds ∧
    ∀ other ∈ rows.relationships, other.relationshipKind = row.relationshipKind →
      other.relationshipId ≠ row.relationshipId) .other
  set { rows with relationships := rows.relationships ++ [row] }

/-- `INSERT INTO task_retry_relations` under the keys, references and the check of the table. -/
def insertRetryRelation (row : RetryRelation) : RetryBody PUnit := do
  let rows ← get
  require (row.retryRelationId ∉ rows.retryRelations.map (·.retryRelationId)) .other
  require (row.predecessorTaskId ∉ rows.retryRelations.map (·.predecessorTaskId) ∧
    row.successorTaskId ∉ rows.retryRelations.map (·.successorTaskId)) .other
  require (row.predecessorTaskId ∈ rows.taskIds ∧ row.successorTaskId ∈ rows.taskIds) .other
  require (row.predecessorTaskId ≠ row.successorTaskId) .other
  set { rows with retryRelations := rows.retryRelations ++ [row] }

/-! ## Edges -/

def edgeFromRow (row : RetryRelation) : Except Raised RetryRelation := do
  ensure (isUuid4 row.retryRelationId ∧ isUuid4 row.predecessorTaskId ∧
    isUuid4 row.successorTaskId) (integrityFailure "stored Task retry edge is invalid")
  ensure (row.predecessorTaskId ≠ row.successorTaskId)
    (integrityFailure "stored Task retry edge self-links")
  return row

def edgeFromPredecessor (rows : RetryRows) (taskId : String) :
    Except Raised (Option RetryRelation) :=
  (rows.retryRelations.find? (·.predecessorTaskId = taskId)).mapM edgeFromRow

def edgeFromSuccessor (rows : RetryRows) (taskId : String) : Except Raised (Option RetryRelation) :=
  (rows.retryRelations.find? (·.successorTaskId = taskId)).mapM edgeFromRow

def retryCycle : Raised :=
  taskError "TASK_RETRY_CYCLE" "retry relation would create a cycle"

/-- The loop of `_assert_no_cycle` for a number of rounds; nothing when they do not end it. -/
def followRetries (rows : RetryRows) (predecessorTaskId : String) :
    Nat → String → List String → Option (Except Raised Unit)
  | 0, _, _ => none
  | rounds + 1, current, seen =>
    if current = predecessorTaskId then some (.error retryCycle)
    else if current ∈ seen then
      some (.error (integrityFailure "existing Task retry chain already contains a cycle"))
    else match edgeFromPredecessor rows current with
      | .error raised => some (.error raised)
      | .ok none => some (.ok ())
      | .ok (some edge) =>
        if edge.predecessorTaskId ≠ current then
          some (.error (integrityFailure "stored retry successor traversal is inconsistent"))
        else followRetries rows predecessorTaskId rounds edge.successorTaskId (current :: seen)

/-- Every round of the loop but the last follows a relation it has not followed before. -/
def retryRounds (rows : RetryRows) : Nat :=
  rows.retryRelations.length + 1

def assertNoCycle (rows : RetryRows) (predecessorTaskId successorTaskId : String) :
    Except Raised Unit :=
  (followRetries rows predecessorTaskId (retryRounds rows) successorTaskId []).getD (.error .other)

/-! ## A retry as a new Local Task -/

/-- What `validate_local_task_name` uses of the Unicode data and of the `regex` package. -/
structure TaskNameLibrary where
  isWhitespace : Char → Bool
  graphemes : String → Nat

def validateLocalTaskName (library : TaskNameLibrary) (value : String) : Except Raised Unit := do
  ensure (value ≠ "" ∧ value.utf8ByteSize ≤ 1024)
    (taskError "TASK_NAME_REQUIRED" "Local Task name is empty or exceeds its UTF-8 byte bound")
  ensure (value.toList.all library.isWhitespace = false)
    (taskError "TASK_NAME_REQUIRED" "Local Task name cannot be blank")
  ensure (library.graphemes value ≤ 240)
    (taskError "TASK_NAME_REQUIRED" "Local Task name exceeds its grapheme bound")
  ensure (library.graphemes value ≠ 0)
    (taskError "TASK_NAME_REQUIRED" "Local Task name cannot be empty")

structure AcceptedTaskSchedule where
  startUtc : Int
  endUtc : Int
  schedulingTimezoneIana : String

def AcceptedTaskSchedule.validate (schedule : AcceptedTaskSchedule) : Except Raised Unit := do
  ensure (0 ≤ schedule.startUtc)
    (taskError "TASK_PLAN_INVALID_INTERVAL" "Task plan start must be a nonnegative UTC second")
  ensure (schedule.startUtc < schedule.endUtc)
    (taskError "TASK_PLAN_INVALID_INTERVAL" "Task plan end must be after Task plan start")
  let zone := schedule.schedulingTimezoneIana
  ensure (zone ≠ "" ∧ zone.utf8ByteSize ≤ 255 ∧
      zone.toList.all fun character => character ∉ ['\x00', '\r', '\n'])
    (taskError "TIMEZONE_UNKNOWN" "accepted Task schedule requires a bounded IANA timezone identifier")

def canonicalIds (values : List String) (field : String) : Except Raised (List String) := do
  let _ ← values.foldlM (fun seen raw => do
    requireUuid4 raw
    ensure (raw ∉ seen) (validationError (field ++ " contains duplicate identities"))
    return raw :: seen) []
  return values.insertionSort (· ≤ ·)

/-- The selected relationships of one kind, and the Inventory relationships. -/
structure SelectedRelationships where
  srLinkIds : List String
  rfcLinkIds : List String
  deviceLinkIds : List String
  inventoryRelationshipIds : List String

/-- `_selected_link_rows`: the related identities. -/
def selectedLinkRows (rows : RetryRows) (predecessorTaskId : String) (kind : RelationshipKind)
    (selectedIds : List String) : Except Raised (List (RelationshipKind × String)) := do
  let found := rows.relationships.filter fun row =>
    row.relationshipKind = kind ∧ row.taskId = predecessorTaskId ∧ row.active = true ∧
      row.relationshipId ∈ selectedIds
  ensure (∀ id ∈ selectedIds, id ∈ found.map (·.relationshipId))
    (taskError "TASK_STALE" ("selected " ++ kind.text ++ " relationship changed"))
  let ordered := found.insertionSort fun left right => left.relationshipId ≤ right.relationshipId
  return ordered.map fun row => (kind, row.relatedId)

/-- What the Inventory participant answers: the status of each selected relationship in its
preview, and what its apply raises. -/
structure InventoryClone where
  statuses : List String
  applied : Except Raised Unit

structure LocalRetryRequest where
  predecessorTaskId : String
  predecessorTaskRevision : Int
  schedule : AcceptedTaskSchedule
  newTaskName : Option String
  selected : SelectedRelationships

/-- The checks of `create_local_task_retry` before its transaction; the selected
relationships in canonical order. -/
def LocalRetryRequest.validate (library : TaskNameLibrary) (request : LocalRetryRequest) :
    Except Raised SelectedRelationships := do
  requireUuid4 request.predecessorTaskId
  ensure (0 < request.predecessorTaskRevision)
    (validationError "predecessor_task_revision must be a positive integer")
  request.schedule.validate
  let srLinkIds ← canonicalIds request.selected.srLinkIds "selected_sr_link_ids"
  let rfcLinkIds ← canonicalIds request.selected.rfcLinkIds "selected_rfc_link_ids"
  let deviceLinkIds ← canonicalIds request.selected.deviceLinkIds "selected_device_link_ids"
  let inventoryRelationshipIds ← canonicalIds request.selected.inventoryRelationshipIds
    "selected_inventory_relationship_ids"
  ensure (srLinkIds.length + rfcLinkIds.length + deviceLinkIds.length ≤ 62)
    (validationError "selected Task relationships exceed retry clone bound")
  request.newTaskName.forM (validateLocalTaskName library)
  return { srLinkIds, rfcLinkIds, deviceLinkIds, inventoryRelationshipIds }

/-- What the reads of `create_local_task_retry.prepare` come to. -/
structure LocalRetryPlan where
  name : String
  relationships : List (RelationshipKind × String)

/-- The reads of `create_local_task_retry.prepare`. -/
def prepareLocalRetry (library : TaskNameLibrary) (request : LocalRetryRequest)
    (selected : SelectedRelationships) (clone : InventoryClone) (rows : RetryRows) :
    Except Raised LocalRetryPlan := do
  let predecessorId := request.predecessorTaskId
  match rows.task? predecessorId with
  | none => .error (taskError "TASK_NOT_FOUND" "retry predecessor is not a current Local Task")
  | some predecessor => do
    ensure (predecessor.taskKind = .localTask)
      (taskError "TASK_NOT_FOUND" "retry predecessor is not a current Local Task")
    ensure ((predecessor.revision : Int) = request.predecessorTaskRevision)
      (taskError "TASK_STALE" "retry predecessor Task revision changed")
    let existing ← edgeFromPredecessor rows predecessorId
    ensure (existing = none)
      (taskError "TASK_RETRY_ALREADY_EXISTS" "retry predecessor already has a direct successor")
    let name ← match request.newTaskName, predecessor.localTaskName with
      | some name, _ => .ok name
      | none, none => .error (integrityFailure "Local retry predecessor lacks Local Task name")
      | none, some name => (validateLocalTaskName library name).map fun _ => name
    let srRows ← selectedLinkRows rows predecessorId .sr selected.srLinkIds
    let rfcRows ← selectedLinkRows rows predecessorId .rfc selected.rfcLinkIds
    let deviceRows ← selectedLinkRows rows predecessorId .device selected.deviceLinkIds
    ensure (selected.inventoryRelationshipIds ≠ [] →
        clone.statuses.length = selected.inventoryRelationshipIds.length ∧
          ∀ status ∈ clone.statuses, status = "eligible")
      (taskError "INVENTORY_DEPENDENCY_UNAVAILABLE"
        "selected Inventory retry relationships are not all eligible")
    return ⟨name, srRows ++ rfcRows ++ deviceRows⟩

def linkRelationships (call : Call) (successorId : String) :
    Nat → List (RelationshipKind × String) → RetryBody PUnit
  | _, [] => pure ⟨⟩
  | index, (kind, relatedId) :: rest => do
    linkRelationship ⟨(call.newUuid4 index).value, kind, successorId, relatedId, true⟩
    linkRelationships call successorId (index + 1) rest

/-- `apply` of `create_local_task_retry`. -/
def applyLocalRetry (call : Call) (request : LocalRetryRequest) (plan : LocalRetryPlan)
    (clone : InventoryClone) : RetryBody PUnit := do
  let successorId := (call.newUuid4 0).value
  insertRetryTask { taskId := successorId, taskKind := .localTask, revision := 1,
                    localTaskName := some plan.name }
  insertInitialPlan ⟨(call.newUuid4 2).value, successorId, request.schedule.startUtc.toNat,
    request.schedule.endUtc.toNat⟩
  linkRelationships call successorId 3 plan.relationships
  insertRetryRelation ⟨(call.newUuid4 1).value, request.predecessorTaskId, successorId⟩
  unless request.selected.inventoryRelationshipIds = [] do
    attempt clone.applied

def createLocalTaskRetry (library : TaskNameLibrary) (call : Call) (request : LocalRetryRequest)
    (clone : InventoryClone) : RetryBody TaskMutationResult := do
  let selected ← attempt (request.validate library)
  let rows ← get
  let plan ← attempt (prepareLocalRetry library request selected clone rows)
  applyLocalRetry call request plan clone
  return ⟨false, (call.newUuid4 0).value, 1⟩

/-! ## A retry as another WFM task -/

def validateOptionalReason (value : Option String) : Except Raised Unit :=
  match value with
  | none => .ok ()
  | some reason => ensure (reason ≠ "" ∧ reason.utf8ByteSize ≤ 128 ∧
      reason.toList.all fun character => character ∉ ['\x00', '\r', '\n'])
    (validationError "reason_category violates its bounded one-line contract")

/-- `TK` and 14 digits. -/
def isTaskNo (taskNo : String) : Bool :=
  taskNo.toList.length = 16 ∧ taskNo.toList.take 2 = ['T', 'K'] ∧
    (taskNo.toList.drop 2).all fun character => '0' ≤ character ∧ character ≤ '9'

/-- `_load_wfm_authority`: the Task No. -/
def loadWfmAuthority (rows : RetryRows) (taskId : String) (expectedRevision : Int) :
    Except Raised String :=
  match rows.task? taskId, rows.wfmTaskIdentities.find? (·.taskId = taskId) with
  | some task, some identity => do
    ensure (task.taskKind = .wfm)
      (taskError "TASK_NOT_FOUND" "retry endpoint is not a current WFM Task")
    ensure ((task.revision : Int) = expectedRevision)
      (taskError "TASK_STALE" "retry endpoint Task revision changed")
    ensure (isTaskNo identity.taskNo)
      (integrityFailure "stored WFM Task No authority is invalid")
    return identity.taskNo
  | _, _ => .error (taskError "TASK_NOT_FOUND" "retry endpoint is not a current WFM Task")

structure WfmRetryRequest where
  predecessorWfmTaskId : String
  predecessorTaskRevision : Int
  successorWfmTaskId : String
  successorTaskRevision : Int
  reasonCategory : Option String

/-- The checks of `link_wfm_retry_attempt` before its transaction. -/
def WfmRetryRequest.validate (request : WfmRetryRequest) : Except Raised Unit := do
  requireUuid4 request.predecessorWfmTaskId
  requireUuid4 request.successorWfmTaskId
  ensure (request.predecessorWfmTaskId ≠ request.successorWfmTaskId)
    (validationError "WFM retry predecessor and successor must be distinct Tasks")
  ensure (0 < request.predecessorTaskRevision)
    (validationError "predecessor_task_revision must be a positive integer")
  ensure (0 < request.successorTaskRevision)
    (validationError "successor_task_revision must be a positive integer")
  validateOptionalReason request.reasonCategory

/-- The relation is the one asked for. -/
def WfmRetryRequest.Exact (request : WfmRetryRequest) (edge? : Option RetryRelation) : Prop :=
  ∃ edge ∈ edge?, edge.predecessorTaskId = request.predecessorWfmTaskId ∧
    edge.successorTaskId = request.successorWfmTaskId

instance exactDecidable (request : WfmRetryRequest) (edge? : Option RetryRelation) :
    Decidable (request.Exact edge?) :=
  inferInstanceAs (Decidable (∃ _ ∈ _, _))

/-- The reads of `link_wfm_retry_attempt.prepare`; whether there is a relation to insert. -/
def prepareWfmRetry (request : WfmRetryRequest) (rows : RetryRows) : Except Raised Bool := do
  let predecessorNo ← loadWfmAuthority rows request.predecessorWfmTaskId
    request.predecessorTaskRevision
  let successorNo ← loadWfmAuthority rows request.successorWfmTaskId request.successorTaskRevision
  ensure (predecessorNo ≠ successorNo)
    (integrityFailure "distinct WFM Tasks unexpectedly share canonical Task No authority")
  let outgoing ← edgeFromPredecessor rows request.predecessorWfmTaskId
  let incoming ← edgeFromSuccessor rows request.successorWfmTaskId
  if request.Exact outgoing ∨ request.Exact incoming then
    ensure (request.Exact outgoing ∧ request.Exact incoming ∧ outgoing = incoming)
      (integrityFailure "exact retry edge is not bidirectionally resolvable by its unique endpoints")
    return false
  else
    ensure (outgoing = none ∧ incoming = none) (taskError "TASK_RETRY_ALREADY_EXISTS"
      "retry predecessor already has a successor or successor already has a predecessor")
    assertNoCycle rows request.predecessorWfmTaskId request.successorWfmTaskId
    return true

def linkWfmRetryAttempt (call : Call) (request : WfmRetryRequest) :
    RetryBody TaskMutationResult := do
  attempt request.validate
  let rows ← get
  let inserts ← attempt (prepareWfmRetry request rows)
  if inserts then
    insertRetryRelation ⟨(call.newUuid4 0).value, request.predecessorWfmTaskId,
      request.successorWfmTaskId⟩
    return ⟨false, request.predecessorWfmTaskId, request.predecessorTaskRevision.toNat⟩
  else return ⟨true, request.predecessorWfmTaskId, request.predecessorTaskRevision.toNat⟩

/-! ## Hard deletion -/

/-- What `TaskHardDeleteQueryService.evaluate` finds apart from the retry relations: whether
something blocks, whether something is indeterminate, whether the fingerprint is the one
reviewed, and the draft rows of the task. -/
structure TaskHardDeleteReview where
  blocked : Bool
  indeterminate : Bool
  fingerprintMatches : Bool
  planRevisionId : Option String
  linkIds : RelationshipKind → List String

/-- `SELECT 1 FROM task_retry_relations WHERE predecessor_task_id=? OR successor_task_id=?`. -/
def RetryRows.retried (rows : RetryRows) (taskId : String) : Bool :=
  rows.retryRelations.any fun row =>
    row.predecessorTaskId = taskId ∨ row.successorTaskId = taskId

/-- The rows left when the draft rows of a task are gone. -/
def RetryRows.withoutDraft (rows : RetryRows) (taskId : String) (review : TaskHardDeleteReview) :
    RetryRows :=
  { rows with
    wfmTaskIdentities := rows.wfmTaskIdentities.filter (·.taskId ≠ taskId)
    planRevisions := rows.planRevisions.filter fun row =>
      ¬ (row.taskId = taskId ∧ some row.planRevisionId = review.planRevisionId)
    planCurrent := rows.planCurrent.filter fun row =>
      ¬ (row.taskId = taskId ∧ some row.planRevisionId = review.planRevisionId)
    relationships := rows.relationships.filter fun row =>
      ¬ (row.taskId = taskId ∧ row.relationshipId ∈ review.linkIds row.relationshipKind) }

/-- No row refers to the task: `ON DELETE RESTRICT` of its references. -/
def RetryRows.Unreferenced (rows : RetryRows) (taskId : String) : Prop :=
  taskId ∉ rows.wfmTaskIdentities.map (·.taskId) ∧ taskId ∉ rows.planRevisions.map (·.taskId) ∧
    taskId ∉ rows.planCurrent.map (·.taskId) ∧ taskId ∉ rows.relationships.map (·.taskId) ∧
    taskId ∉ rows.retryRelations.map (·.predecessorTaskId) ∧
    taskId ∉ rows.retryRelations.map (·.successorTaskId)

instance unreferencedDecidable (rows : RetryRows) (taskId : String) :
    Decidable (rows.Unreferenced taskId) :=
  inferInstanceAs (Decidable (_ ∧ _))

/-- `TaskHardDeleteService.hard_delete`. -/
def hardDeleteTask (taskId : String) (baseRevision : Int) (review : TaskHardDeleteReview) :
    RetryBody TaskMutationResult := do
  attempt (requireUuid4 taskId)
  require (0 < baseRevision) (validationError "base_revision must be a positive integer")
  let rows ← get
  match rows.task? taskId with
  | none => throw (taskError "TASK_NOT_FOUND" "Task does not exist")
  | some task => do
    require ((task.revision : Int) = baseRevision)
      (taskError "TASK_STALE" "Task revision changed since hard-delete preview")
    require (review.indeterminate = false)
      (taskError "HARD_DELETE_INDETERMINATE" "Task hard-delete authority is incomplete")
    require (review.blocked = false ∧ rows.retried taskId = false)
      (taskError "HARD_DELETE_BLOCKED" "Task hard deletion is blocked by current evidence")
    require (review.fingerprintMatches = true)
      (taskError "TASK_STALE" "Task hard-delete eligibility changed since preview")
    let drafted := rows.withoutDraft taskId review
    require (drafted.Unreferenced taskId) .other
    set { drafted with tasks := drafted.tasks.filter (·.taskId ≠ taskId) }
    return ⟨false, taskId, task.revision⟩

end Soma.ObjectivesTasks
