import Mathlib.Data.Prod.Lex
import Soma.ObjectivesTasks.TaskRetries

/-!
`queries/task_activity_review.py`, `services/task_activity_review.py`: the review that says
how some WFM tasks relate. Tasks of one activity share a lineage. A review reads the lineages
of the tasks it starts from, takes in every task of those lineages, and moves them all to one
lineage, or each of them to one of its own.

The audit events, the receipt and the time of a lineage row are left out.
-/

namespace Soma.ObjectivesTasks

open Foundation Transaction

/-! ## Tables -/

/-- A row of `wfm_task_identities`. -/
structure WfmTaskAuthority extends WfmTaskIdentity where
  currentRfcId : String
  assignmentRevision : Nat

/-- A row of `task_activity_lineage_events`. -/
structure ActivityLineageEvent where
  lineageEventId : String
  taskId : String
  priorLineageId : Option String
  newLineageId : Option String
  reasonCode : String

/-- A row of `task_activity_lineage_current`. -/
structure ActivityLineageCurrent where
  taskId : String
  activityLineageId : String
  revision : Nat
  lastEventId : String

structure ActivityRows where
  tasks : List TaskRecord
  identities : List WfmTaskAuthority
  sourceProjections : List WfmSourceProjectionRecord
  planRevisions : List TaskPlanRecord
  planCurrent : List TaskPlanCurrentPointer
  executionProjections : List TaskExecutionProjection
  outcomeCurrent : List TaskOutcomeCurrent
  /-- The keys of `task_activity_lineages`. -/
  lineages : List String
  lineageEvents : List ActivityLineageEvent
  lineageCurrent : List ActivityLineageCurrent
  retryRelations : List RetryRelation

abbrev ActivityBody (Result : Type) := Body ActivityRows Raised Result

namespace ActivityRows

def task? (rows : ActivityRows) (taskId : String) : Option TaskRecord :=
  rows.tasks.find? (·.taskId = taskId)

def current? (rows : ActivityRows) (taskId : String) : Option ActivityLineageCurrent :=
  rows.lineageCurrent.find? (·.taskId = taskId)

def event? (rows : ActivityRows) (lineageEventId : String) : Option ActivityLineageEvent :=
  rows.lineageEvents.find? (·.lineageEventId = lineageEventId)

/-- The lineage a task is in. -/
def lineageOf (rows : ActivityRows) (taskId : String) : Option String :=
  (rows.current? taskId).map (·.activityLineageId)

end ActivityRows

inductive ActivityDecision where
  | distinctActivity
  | sameActivity
  | retryLineage
  | unresolvedSourceError
  deriving DecidableEq

def ActivityDecision.text : ActivityDecision → String
  | .distinctActivity => "distinct_activity"
  | .sameActivity => "same_activity"
  | .retryLineage => "retry_lineage"
  | .unresolvedSourceError => "unresolved_source_error"

def activityDecisions : List String :=
  [ActivityDecision.distinctActivity, .sameActivity, .retryLineage, .unresolvedSourceError].map
    ActivityDecision.text

/-! ## The tasks a review takes in -/

def canonicalSeedIds (value : List String) : Except Raised Unit := do
  ensure (2 ≤ value.length ∧ value.length ≤ 1000)
    (validationError "seed_task_ids must contain from 2 through 1000 WFM Tasks")
  ensure (∀ item ∈ value, isUuid4 item)
    (validationError "seed_task_id must be canonical UUIDv4 text")
  ensure value.Nodup (validationError "seed_task_ids must be unique")
  ensure (value.insertionSort (· ≤ ·) = value)
    (validationError "seed_task_ids must be canonical-sorted by task_id")

/-- The slices of `_SQL_CHUNK` identities a query is run for. -/
def sqlChunks (ids : List String) : List (List String) :=
  (List.range ((ids.length + 199) / 200)).map fun index => (ids.drop (200 * index)).take 200

def loadSeedLineages (rows : ActivityRows) (seedIds : List String) :
    Except Raised (List String) := do
  let found := (sqlChunks seedIds).flatMap fun chunk =>
    (rows.lineageCurrent.filter (·.taskId ∈ chunk)).insertionSort (·.taskId ≤ ·.taskId)
  let touched ← found.mapM fun row => do
    storedUuid row.taskId "activity-lineage Task identity"
    storedUuid row.activityLineageId "activity lineage identity"
    return row.activityLineageId
  return touched.dedup.insertionSort (· ≤ ·)

def expandAffectedIds (rows : ActivityRows) (seedIds touchedLineages : List String) :
    Except Raised (List String) := do
  let found := (sqlChunks touchedLineages).flatMap fun chunk =>
    (rows.lineageCurrent.filter (·.activityLineageId ∈ chunk)).insertionSort fun left right =>
      left.activityLineageId < right.activityLineageId ∨
        left.activityLineageId = right.activityLineageId ∧ left.taskId ≤ right.taskId
  let members ← found.mapM fun row => do
    storedUuid row.taskId "activity-lineage member Task identity"
    storedUuid row.activityLineageId "activity lineage identity"
    ensure (row.activityLineageId ∈ touchedLineages)
      (integrityFailure "activity lineage closure returned an unexpected lineage")
    return row.taskId
  return (seedIds ++ members).dedup.insertionSort (· ≤ ·)

/-! ## What is reviewed of a task -/

/-- The part of `_ActivityAuthority` a review does not change. -/
structure ActivityScope where
  taskId : String
  taskNo : String
  currentRfcId : String
  assignmentRevision : Nat
  sourceProjectionRevision : Nat
  providerLifecycleClass : Option ProviderLifecycleClass
  sourcePlan : Option (Nat × Nat)
  operationalPlanRevision : Nat
  operationalPlanRevisionId : Option String
  operationalPlan : Option (Nat × Nat)
  executionRevision : Nat
  executionState : Option ExecutionState
  outcomeRevision : Nat
  acceptedOutcome : Option AcceptedOutcome

/-- The part of `_ActivityAuthority` about the lineage. -/
structure LineageAuthority where
  lineageRevision : Nat
  activityLineageId : Option String
  lastLineageEventId : Option String
  lastDecision : Option String

structure ActivityAuthority extends ActivityScope, LineageAuthority where
  taskRevision : Nat

def taskNotFound (message : String) : Raised := taskError "TASK_NOT_FOUND" message

/-- The owner of a Task No among the rows of a task, with the revision of the task. -/
def reviewedTask (rows : ActivityRows) (taskId : String) :
    Except Raised (TaskRecord × WfmTaskAuthority) :=
  match rows.task? taskId, rows.identities.find? (·.taskId = taskId) with
  | some task, some identity => do
    ensure (task.taskKind = .wfm ∧ isTaskNo identity.taskNo)
      (taskNotFound "reviewed Task is not current WFM Task authority")
    return (task, identity)
  | _, _ => .error (taskNotFound "reviewed Task is not current WFM Task authority")

/-- The source projection of a task: its revision, its class and its plan. -/
def sourceFields (rows : ActivityRows) (taskId : String) :
    Except Raised (Nat × Option ProviderLifecycleClass × Option (Nat × Nat)) :=
  match rows.sourceProjections.find? (·.taskId = taskId) with
  | none => .ok (0, none, none)
  | some projection => do
    ensure (0 < projection.sourceProjectionRevision)
      (integrityFailure "stored WFM source projection revision is invalid")
    ensure (∀ plan ∈ projection.sourcePlan, plan.1 < plan.2)
      (integrityFailure "stored WFM source plan interval is invalid")
    return (projection.sourceProjectionRevision, some projection.providerLifecycleClass,
      projection.sourcePlan)

/-- The operational plan of a task: its revision, its identity and its interval. -/
def planFields (rows : ActivityRows) (taskId : String) :
    Except Raised (Nat × Option String × Option (Nat × Nat)) :=
  match rows.planCurrent.find? (·.taskId = taskId) with
  | none => .ok (0, none, none)
  | some pointer =>
    match rows.planRevisions.find? (·.planRevisionId = pointer.planRevisionId) with
    | none => .error (integrityFailure "stored operational Task-plan pointer is invalid")
    | some plan => do
      ensure (0 < pointer.revision)
        (integrityFailure "stored operational Task-plan pointer is invalid")
      storedUuid pointer.planRevisionId "Task plan revision identity"
      storedUuid plan.taskId "Task plan owner identity"
      ensure (plan.taskId = taskId) (integrityFailure "current Task plan points to another Task")
      ensure (plan.startUtc < plan.endUtc)
        (integrityFailure "stored operational Task plan interval is invalid")
      return (pointer.revision, some pointer.planRevisionId, some (plan.startUtc, plan.endUtc))

def executionFields (rows : ActivityRows) (taskId : String) :
    Except Raised (Nat × Option ExecutionState) :=
  match rows.executionProjections.find? (·.taskId = taskId) with
  | none => .ok (0, none)
  | some projection => do
    ensure (0 < projection.revision)
      (integrityFailure "stored Task execution revision is invalid")
    return (projection.revision, some projection.executionState)

def outcomeFields (rows : ActivityRows) (taskId : String) :
    Except Raised (Nat × Option AcceptedOutcome) :=
  match rows.outcomeCurrent.find? (·.taskId = taskId) with
  | none => .ok (0, none)
  | some current => do
    ensure (0 < current.revision) (integrityFailure "stored Task outcome revision is invalid")
    return (current.revision, some current.acceptedOutcome)

/-- The event a current row points at, and the lineage it led to. -/
def boundEvent (rows : ActivityRows) (lineageEventId : String) :
    Except Raised (ActivityLineageEvent × String) :=
  match rows.event? lineageEventId with
  | none => .error
      (integrityFailure "current activity-lineage projection is not bound to immutable history")
  | some event =>
    match event.newLineageId with
    | none => .error
        (integrityFailure "current activity-lineage projection is not bound to immutable history")
    | some newLineageId => .ok (event, newLineageId)

/-- The lineage of a task and the decision that put it there. -/
def lineageFields (rows : ActivityRows) (taskId : String) : Except Raised LineageAuthority :=
  match rows.current? taskId with
  | none => .ok ⟨0, none, none, none⟩
  | some current => do
    ensure (0 < current.revision)
      (integrityFailure "stored activity-lineage revision is invalid")
    storedUuid current.activityLineageId "activity lineage identity"
    storedUuid current.lastEventId "activity lineage event identity"
    let (event, newLineageId) ← boundEvent rows current.lastEventId
    storedUuid event.taskId "activity lineage event Task identity"
    ensure (event.taskId = taskId)
      (integrityFailure "current activity-lineage event belongs to another Task")
    storedUuid newLineageId "activity lineage event new identity"
    ensure (newLineageId = current.activityLineageId)
      (integrityFailure "current activity-lineage event does not match the current lineage")
    ensure (event.reasonCode ∈ activityDecisions)
      (integrityFailure "stored activity-lineage decision is invalid")
    return ⟨current.revision, some current.activityLineageId, some current.lastEventId,
      some event.reasonCode⟩

/-- One round of the loop of `_load_authorities` after the Task No is seen. -/
def activityAuthority (rows : ActivityRows) (task : TaskRecord) (identity : WfmTaskAuthority) :
    Except Raised ActivityAuthority := do
  ensure (0 < task.revision) (integrityFailure "stored Task revision is invalid")
  storedUuid identity.currentRfcId "WFM owning RFC identity"
  ensure (0 < identity.assignmentRevision)
    (integrityFailure "stored WFM assignment revision is invalid")
  let source ← sourceFields rows task.taskId
  let plan ← planFields rows task.taskId
  let execution ← executionFields rows task.taskId
  let outcome ← outcomeFields rows task.taskId
  let lineage ← lineageFields rows task.taskId
  return { taskId := task.taskId, taskNo := identity.taskNo
           currentRfcId := identity.currentRfcId
           assignmentRevision := identity.assignmentRevision
           sourceProjectionRevision := source.1, providerLifecycleClass := source.2.1
           sourcePlan := source.2.2
           operationalPlanRevision := plan.1, operationalPlanRevisionId := plan.2.1
           operationalPlan := plan.2.2
           executionRevision := execution.1, executionState := execution.2
           outcomeRevision := outcome.1, acceptedOutcome := outcome.2
           toLineageAuthority := lineage, taskRevision := task.revision }

/-- The loop of `_load_authorities`. -/
def authoritiesFrom (rows : ActivityRows) :
    List String → List String → Except Raised (List ActivityAuthority)
  | [], _ => .ok []
  | taskId :: rest, seenTaskNos => do
    let (task, identity) ← reviewedTask rows taskId
    ensure (identity.taskNo ∉ seenTaskNos) (integrityFailure
      "activity review scope contains duplicate canonical WFM Task No authority")
    let authority ← activityAuthority rows task identity
    return authority :: (← authoritiesFrom rows rest (identity.taskNo :: seenTaskNos))

/-- One row of the query of `_load_authorities`. -/
def collectTask (byId : List String) (taskId : String) : Except Raised (List String) := do
  storedUuid taskId "Task identity"
  ensure (taskId ∉ byId)
    (integrityFailure "activity review authority query returned duplicate Task identity")
  return taskId :: byId

/-- The query of `_load_authorities`: every task is there, once. -/
def requireTasks (rows : ActivityRows) (taskIds : List String) : Except Raised Unit := do
  let found := ((sqlChunks taskIds).flatMap fun chunk =>
    (rows.tasks.filter (·.taskId ∈ chunk)).insertionSort (·.taskId ≤ ·.taskId)).map (·.taskId)
  let byId ← found.foldlM collectTask []
  ensure ((∀ taskId ∈ byId, taskId ∈ taskIds) ∧ ∀ taskId ∈ taskIds, taskId ∈ byId)
    (taskNotFound "one or more reviewed Tasks do not exist")

def loadAuthorities (rows : ActivityRows) (taskIds : List String) :
    Except Raised (List ActivityAuthority) := do
  requireTasks rows taskIds
  authoritiesFrom rows taskIds []

/-! ## Retry relations among the tasks -/

/-- `ORDER BY predecessor_task_id,successor_task_id,retry_relation_id`. -/
def RetryRelation.Before (left right : RetryRelation) : Prop :=
  toLex (left.predecessorTaskId, toLex (left.successorTaskId, left.retryRelationId)) ≤
    toLex (right.predecessorTaskId, toLex (right.successorTaskId, right.retryRelationId))

instance retryRelationBefore : DecidableRel RetryRelation.Before :=
  fun _ _ => inferInstanceAs (Decidable (_ ≤ _))

/-- One row of the query of `_load_retry_relations`. -/
def collectRelation (byId : List RetryRelation) (row : RetryRelation) :
    Except Raised (List RetryRelation) := do
  storedUuid row.retryRelationId "Task retry relation identity"
  storedUuid row.predecessorTaskId "Task retry predecessor identity"
  storedUuid row.successorTaskId "Task retry successor identity"
  ensure (∀ previous ∈ byId, previous.retryRelationId = row.retryRelationId → previous = row)
    (integrityFailure "retry relation identity resolves to conflicting authority")
  return row :: byId

def loadRetryRelations (rows : ActivityRows) (affectedIds : List String) :
    Except Raised (List RetryRelation) := do
  let found := (sqlChunks affectedIds).flatMap fun chunk =>
    (rows.retryRelations.filter fun row =>
      row.predecessorTaskId ∈ chunk ∨ row.successorTaskId ∈ chunk).insertionSort
        RetryRelation.Before
  let byId ← found.foldlM collectRelation []
  return byId.dedup.insertionSort RetryRelation.Before

/-- The relation is between the two tasks. -/
def RetryRelation.Joins (relation : RetryRelation) (first second : String) : Prop :=
  (relation.predecessorTaskId = first ∧ relation.successorTaskId = second) ∨
    (relation.predecessorTaskId = second ∧ relation.successorTaskId = first)

instance joinsDecidable (relation : RetryRelation) (first second : String) :
    Decidable (relation.Joins first second) :=
  inferInstanceAs (Decidable (_ ∨ _))

def directRetryRelationId (seedIds : List String) (retryRelations : List RetryRelation) :
    Except Raised (Option String) :=
  match seedIds with
  | [first, second] => do
    let found := retryRelations.filter (·.Joins first second)
    ensure (found.length ≤ 1) (integrityFailure
      "reviewed Task pair has more than one immutable direct retry relation")
    return found.head?.map (·.retryRelationId)
  | _ => .ok none

/-! ## The evaluation -/

def lineageMemberships (authorities : List ActivityAuthority) : List (String × List String) :=
  ((authorities.filterMap (·.activityLineageId)).dedup.insertionSort (· ≤ ·)).map fun lineageId =>
    (lineageId, ((authorities.filter (·.activityLineageId = some lineageId)).map
      (·.taskId)).insertionSort (· ≤ ·))

/-- `member_count.get`. -/
def lineageMemberCount (authorities : List ActivityAuthority) (lineageId : String) : Option Nat :=
  ((lineageMemberships authorities).find? (·.1 = lineageId)).map (·.2.length)

/-- The one lineage all the tasks are in, if there is one. -/
def sharedLineage (authorities : List ActivityAuthority) : Option String :=
  match (authorities.map (·.activityLineageId)).dedup with
  | [some lineageId] => some lineageId
  | _ => none

def semanticNoChange (decision : ActivityDecision) (authorities : List ActivityAuthority) : Bool :=
  match decision with
  | .distinctActivity => authorities.all fun authority =>
      authority.activityLineageId.any (fun lineageId => lineageMemberCount authorities lineageId = some 1)
        && authority.lastDecision = some decision.text
  | _ => (sharedLineage authorities).isSome &&
      authorities.all fun authority => authority.lastDecision = some decision.text

def ActivityAuthority.locallyActive (authority : ActivityAuthority) : Bool :=
  authority.acceptedOutcome = none ∧
    ∀ state ∈ authority.executionState, state ∉ [ExecutionState.ended, .terminated]

def ActivityAuthority.conflictInterval (authority : ActivityAuthority) : Option (Nat × Nat) :=
  authority.operationalPlan <|> authority.sourcePlan

/-- The loop of `_projected_competing_attempt`: an interval starts before all earlier ended. -/
def competes (maxEnd : Nat) : List (Nat × Nat) → Bool
  | [] => false
  | (start, finish) :: rest => if start < maxEnd then true else competes (max maxEnd finish) rest

def projectedCompetingAttempt (decision : ActivityDecision)
    (authorities : List ActivityAuthority) : Bool :=
  let intervals := ((authorities.filter (·.locallyActive)).filterMap fun authority =>
    authority.conflictInterval.map fun interval => (interval.1, interval.2, authority.taskId))
  match decision, intervals.insertionSort fun left right =>
      toLex (left.1, toLex left.2) ≤ toLex (right.1, toLex right.2) with
  | .distinctActivity, _ => false
  | _, [] => false
  | _, first :: rest => competes first.2.1 (rest.map fun interval => (interval.1, interval.2.1))

def jsonInterval (interval : Nat × Nat) : Json :=
  .arr [jsonNat interval.1, jsonNat interval.2]

def ActivityAuthority.fingerprintObject (authority : ActivityAuthority) : Json :=
  .obj [
    ("task_id", .str authority.taskId),
    ("task_revision", jsonNat authority.taskRevision),
    ("wfm_identity", .obj [
      ("task_no", .str authority.taskNo),
      ("current_rfc_id", .str authority.currentRfcId),
      ("assignment_revision", jsonNat authority.assignmentRevision)]),
    ("source_projection", .obj [
      ("revision", jsonNat authority.sourceProjectionRevision),
      ("provider_lifecycle_class",
        jsonOption (fun lifecycle => .str lifecycle.text) authority.providerLifecycleClass),
      ("source_plan_interval", jsonOption jsonInterval authority.sourcePlan)]),
    ("operational_plan", .obj [
      ("revision", jsonNat authority.operationalPlanRevision),
      ("plan_revision_id", jsonOption .str authority.operationalPlanRevisionId),
      ("interval", jsonOption jsonInterval authority.operationalPlan)]),
    ("execution", .obj [
      ("revision", jsonNat authority.executionRevision),
      ("state", jsonOption (fun state => .str state.text) authority.executionState)]),
    ("outcome", .obj [
      ("revision", jsonNat authority.outcomeRevision),
      ("accepted_outcome", jsonOption (fun outcome => .str outcome.text)
        authority.acceptedOutcome)]),
    ("lineage", .obj [
      ("revision", jsonNat authority.lineageRevision),
      ("activity_lineage_id", jsonOption .str authority.activityLineageId),
      ("last_event_id", jsonOption .str authority.lastLineageEventId),
      ("last_decision", jsonOption .str authority.lastDecision)])]

def RetryRelation.toResponse (relation : RetryRelation) : Json :=
  .obj [("retry_relation_id", .str relation.retryRelationId),
    ("predecessor_task_id", .str relation.predecessorTaskId),
    ("successor_task_id", .str relation.successorTaskId)]

/-- What `_review_fingerprint` digests. -/
def activityReviewDocument (decision : ActivityDecision) (seedTasks : List (String × Nat))
    (authorities : List ActivityAuthority) (retryRelations : List RetryRelation) : Json :=
  .obj [
    ("schema", .str "SOMA_WFM_ACTIVITY_RELATIONSHIP_REVIEW_V1"),
    ("decision", .str decision.text),
    ("seed_tasks", .arr (seedTasks.map fun seed =>
      .obj [("task_id", .str seed.1), ("task_revision", jsonNat seed.2)])),
    ("affected_tasks", .arr (authorities.map (·.fingerprintObject))),
    ("touched_lineage_membership", .arr ((lineageMemberships authorities).map fun membership =>
      .obj [("activity_lineage_id", .str membership.1),
        ("task_ids", .arr (membership.2.map .str))])),
    ("retry_relations", .arr (retryRelations.map (·.toResponse)))]

/-- `WfmActivityReviewEvaluation`. -/
structure ActivityReviewEvaluation where
  decision : ActivityDecision
  reviewFingerprint : String
  seedTasks : List (String × Nat)
  authorities : List ActivityAuthority
  currentLineages : List (String × Nat)
  retryRelationId : Option String
  retryRelations : List RetryRelation
  semanticNoChange : Bool
  projectedCompetingAttempt : Bool

/-- `authority_by_id[task_id]` for every seed. -/
def seedTasksOf (authorities : List ActivityAuthority) (seedIds : List String) :
    Except Raised (List (String × Nat)) :=
  seedIds.mapM fun taskId =>
    match authorities.find? (·.taskId = taskId) with
    | none => .error .other
    | some authority => .ok (taskId, authority.taskRevision)

/-- `evaluate_connection`. -/
def evaluateActivityReview (python : PythonLibrary) (rows : ActivityRows) (seedTaskIds : List String)
    (decision : ActivityDecision) : Except Raised ActivityReviewEvaluation := do
  canonicalSeedIds seedTaskIds
  let touchedLineages ← loadSeedLineages rows seedTaskIds
  let affectedIds ← expandAffectedIds rows seedTaskIds touchedLineages
  let authorities ← loadAuthorities rows affectedIds
  let seedTasks ← seedTasksOf authorities seedTaskIds
  let retryRelations ← loadRetryRelations rows affectedIds
  let retryRelationId ← directRetryRelationId seedTaskIds retryRelations
  ensure (decision = .retryLineage → seedTaskIds.length = 2 ∧ retryRelationId ≠ none)
    (taskError "TASK_ACTIVITY_LINEAGE_CONFLICT"
      "retry_lineage requires exactly two Tasks with one existing immutable direct retry edge")
  let fingerprint ← sha256CanonicalJson python
    (activityReviewDocument decision seedTasks authorities retryRelations)
  return { decision, reviewFingerprint := fingerprint, seedTasks, authorities
           currentLineages := (lineageMemberships authorities).map fun membership =>
             (membership.1, membership.2.length)
           retryRelationId, retryRelations
           semanticNoChange := semanticNoChange decision authorities
           projectedCompetingAttempt := projectedCompetingAttempt decision authorities }

/-! ## The preview -/

def cursorFilterFingerprint (python : PythonLibrary) (seedTaskIds : List String)
    (decision : ActivityDecision) (reviewFingerprint : String) : Except Raised String :=
  sha256CanonicalJson python (.obj [
    ("schema", .str "SOMA_WFM_ACTIVITY_REVIEW_CURSOR_FILTER_V1"),
    ("seed_task_ids", .arr (seedTaskIds.map .str)),
    ("decision", .str decision.text),
    ("review_fingerprint", .str reviewFingerprint)])

/-- `WfmActivityRelationshipReviewPreview`; of a continuation its last task and its filter. -/
structure ActivityReviewPreview where
  evaluation : ActivityReviewEvaluation
  affectedTasks : List ActivityAuthority
  affectedContinuation : Option (String × String)

/-- `_page` without a cursor. -/
def ActivityReviewEvaluation.page (python : PythonLibrary) (evaluation : ActivityReviewEvaluation)
    (seedTaskIds : List String) (affectedLimit : Nat) : Except Raised ActivityReviewPreview :=
  let page := evaluation.authorities.take affectedLimit
  if page.length < evaluation.authorities.length then
    match page.getLast? with
    | none => .error
        (integrityFailure "activity-review paging produced an empty nonterminal page")
    | some last =>
      (cursorFilterFingerprint python seedTaskIds evaluation.decision
        evaluation.reviewFingerprint).map fun filter => ⟨evaluation, page, some (last.taskId, filter)⟩
  else .ok ⟨evaluation, page, none⟩

/-- `preview` of the first page. -/
def previewActivityReview (python : PythonLibrary) (rows : ActivityRows)
    (seedTaskIds : List String) (decision : ActivityDecision) (affectedLimit : Int) :
    Except Raised ActivityReviewPreview := do
  let evaluation ← evaluateActivityReview python rows seedTaskIds decision
  ensure (1 ≤ affectedLimit ∧ affectedLimit ≤ 1000)
    (validationError "affected_limit must be an integer from 1 through 1000")
  evaluation.page python seedTaskIds affectedLimit.toNat

/-! ## What a material review writes -/

structure TaskLineageMutation where
  taskId : String
  expectedTaskRevision : Nat
  priorLineageId : Option String
  expectedLineageRevision : Nat
  expectedLastEventId : Option String
  newLineageId : String
  lineageEventId : String
  auditEventId : String

structure ReviewMutationPlan where
  newLineageIds : List String
  taskMutations : List TaskLineageMutation

/-- A lineage of its own for every task. -/
def ownLineages (call : Call) : Nat → List ActivityAuthority → List (ActivityAuthority × String)
  | _, [] => []
  | index, authority :: rest =>
    (authority, (call.newUuid4 index).value) :: ownLineages call (index + 1) rest

/-- The lineages to create, and every task that changes with its new lineage. -/
def lineageTargets (call : Call) (decision : ActivityDecision)
    (authorities : List ActivityAuthority) : List String × List (ActivityAuthority × String) :=
  match decision, sharedLineage authorities with
  | .distinctActivity, _ =>
    let targets := ownLineages call 0 authorities
    (targets.map (·.2), targets)
  | _, some lineageId =>
    ([], (authorities.filter (·.lastDecision ≠ some decision.text)).map (·, lineageId))
  | _, none =>
    let lineageId := (call.newUuid4 0).value
    ([lineageId], authorities.map (·, lineageId))

/-- The loop of `_plan_material_review`. -/
def drawMutations (call : Call) :
    Nat → List (ActivityAuthority × String) → List TaskLineageMutation
  | _, [] => []
  | index, (authority, newLineageId) :: rest =>
    { taskId := authority.taskId
      expectedTaskRevision := authority.taskRevision
      priorLineageId := authority.activityLineageId
      expectedLineageRevision := authority.lineageRevision
      expectedLastEventId := authority.lastLineageEventId
      newLineageId
      lineageEventId := (call.newUuid4 index).value
      auditEventId := (call.newUuid4 (index + 1)).value } :: drawMutations call (index + 2) rest

def planMaterialReview (call : Call) (evaluation : ActivityReviewEvaluation) :
    Except Raised ReviewMutationPlan := do
  ensure (evaluation.authorities ≠ [])
    (integrityFailure "WFM activity review resolved an empty affected set")
  let (newLineageIds, changed) := lineageTargets call evaluation.decision evaluation.authorities
  ensure (changed ≠ [])
    (integrityFailure "material WFM activity review resolved no changed Task")
  return ⟨newLineageIds, drawMutations call newLineageIds.length changed⟩

def ReviewMutationPlan.primaryEventId (plan : ReviewMutationPlan) : Except Raised String :=
  match plan.taskMutations with
  | [] => .error (integrityFailure "material WFM activity review has no Task mutation")
  | mutation :: _ => .ok mutation.lineageEventId

/-- `INSERT INTO task_activity_lineages`. -/
def insertLineage (lineageId : String) : ActivityBody PUnit := do
  let rows ← get
  require (lineageId ∉ rows.lineages) .other
  set { rows with lineages := rows.lineages ++ [lineageId] }

/-- `INSERT INTO task_activity_lineage_events` under its key and references. -/
def insertLineageEvent (row : ActivityLineageEvent) : ActivityBody PUnit := do
  let rows ← get
  require (row.lineageEventId ∉ rows.lineageEvents.map (·.lineageEventId) ∧
    row.taskId ∈ rows.tasks.map (·.taskId) ∧
    (∀ lineageId ∈ row.priorLineageId, lineageId ∈ rows.lineages) ∧
    ∀ lineageId ∈ row.newLineageId, lineageId ∈ rows.lineages) .other
  set { rows with lineageEvents := rows.lineageEvents ++ [row] }

/-- What `task_activity_current_insert_guard` and `task_activity_current_update_guard` ask of
the event of a current row. -/
def ActivityLineageCurrent.Bound (row : ActivityLineageCurrent)
    (events : List ActivityLineageEvent) : Prop :=
  ∃ event ∈ events, event.lineageEventId = row.lastEventId ∧ event.taskId = row.taskId ∧
    event.newLineageId = some row.activityLineageId

instance boundDecidable (row : ActivityLineageCurrent) (events : List ActivityLineageEvent) :
    Decidable (row.Bound events) :=
  inferInstanceAs (Decidable (∃ _ ∈ _, _))

/-- `INSERT INTO task_activity_lineage_current` under its key, references and guard. -/
def insertLineageCurrent (row : ActivityLineageCurrent) : ActivityBody PUnit := do
  let rows ← get
  require (row.taskId ∉ rows.lineageCurrent.map (·.taskId) ∧
    row.taskId ∈ rows.tasks.map (·.taskId) ∧ row.activityLineageId ∈ rows.lineages ∧
    row.Bound rows.lineageEvents) .other
  set { rows with lineageCurrent := rows.lineageCurrent ++ [row] }

/-- `UPDATE task_activity_lineage_current` of the row with the expected lineage, revision and
event. -/
def updateLineageCurrent (taskId priorLineageId : String) (revision : Nat)
    (lastEventId newLineageId lineageEventId : String) : ActivityBody PUnit := do
  let rows ← get
  let selected (row : ActivityLineageCurrent) : Bool := row.taskId = taskId ∧
    row.activityLineageId = priorLineageId ∧ row.revision = revision ∧
    row.lastEventId = lastEventId
  let change (row : ActivityLineageCurrent) : ActivityLineageCurrent :=
    { row with activityLineageId := newLineageId, revision := row.revision + 1
               lastEventId := lineageEventId }
  require (newLineageId ∈ rows.lineages ∧
    ∀ row ∈ rows.lineageCurrent, selected row = true → (change row).Bound rows.lineageEvents) .other
  require (rows.lineageCurrent.countP selected = 1)
    (integrityFailure "Task activity-lineage authority changed during guarded review")
  let lineageCurrent := rows.lineageCurrent.map fun row => if selected row then change row else row
  set { rows with lineageCurrent }

/-- `UPDATE tasks SET revision=revision+1 WHERE task_id=? AND revision=?`. -/
def advanceTask (taskId : String) (revision : Nat) : ActivityBody PUnit := do
  let rows ← get
  let selected (row : TaskRecord) : Bool := row.taskId = taskId ∧ row.revision = revision
  let change (row : TaskRecord) : TaskRecord := { row with revision := row.revision + 1 }
  require (rows.tasks.countP selected = 1)
    (integrityFailure "Task revision changed during guarded activity review")
  let tasks := rows.tasks.map fun row => if selected row then change row else row
  set { rows with tasks }

/-- The current row of a mutation: the first of its task, or the guarded one. -/
def writeLineageCurrent (mutation : TaskLineageMutation) : ActivityBody PUnit :=
  if mutation.expectedLineageRevision = 0 then do
    require (mutation.expectedLastEventId = none ∧ mutation.priorLineageId = none)
      (integrityFailure "unassigned Task unexpectedly carries current lineage history")
    insertLineageCurrent ⟨mutation.taskId, mutation.newLineageId, 1, mutation.lineageEventId⟩
  else
    match mutation.expectedLastEventId, mutation.priorLineageId with
    | some lastEventId, some priorLineageId =>
      updateLineageCurrent mutation.taskId priorLineageId mutation.expectedLineageRevision
        lastEventId mutation.newLineageId mutation.lineageEventId
    | _, _ => attempt (.error
        (integrityFailure "assigned Task is missing guarded current lineage identity"))

/-- One round of the loop of `_apply_material_review`. -/
def applyLineageMutation (decision : ActivityDecision) (mutation : TaskLineageMutation) :
    ActivityBody PUnit := do
  insertLineageEvent ⟨mutation.lineageEventId, mutation.taskId, mutation.priorLineageId,
    some mutation.newLineageId, decision.text⟩
  writeLineageCurrent mutation
  advanceTask mutation.taskId mutation.expectedTaskRevision

def applyMaterialReview (decision : ActivityDecision) (plan : ReviewMutationPlan) :
    ActivityBody PUnit := do
  plan.newLineageIds.forM insertLineage
  plan.taskMutations.forM (applyLineageMutation decision)

/-! ## The command -/

structure ActivityReviewRequest where
  seedTasks : List (String × Int)
  decision : ActivityDecision
  reviewFingerprint : String
  reasonCategory : String

def ActivityReviewRequest.seedIds (request : ActivityReviewRequest) : List String :=
  request.seedTasks.map (·.1)

def canonicalSeedPairs (value : List (String × Int)) : Except Raised Unit := do
  ensure (2 ≤ value.length ∧ value.length ≤ 1000)
    (validationError "seed_tasks must contain from 2 through 1000 WFM Tasks")
  let _ ← value.foldlM (fun seen item => do
    requireUuid4 item.1
    ensure (0 < item.2) (validationError "seed task_revision must be a positive integer")
    ensure (item.1 ∉ seen)
      (validationError "seed_tasks must contain unique Task identities")
    return item.1 :: seen) []
  ensure (value.insertionSort (·.1 ≤ ·.1) = value)
    (validationError "seed_tasks must be canonical-sorted by task_id")

/-- The checks of `review_wfm_activity_relationship` before its transaction. -/
def ActivityReviewRequest.validate (request : ActivityReviewRequest) : Except Raised Unit := do
  canonicalSeedPairs request.seedTasks
  ensure (isSha256 request.reviewFingerprint)
    (validationError "review_fingerprint must be exact lowercase SHA-256 hex")
  validateReasonCategory request.reasonCategory

def requireSeedFreshness (rows : ActivityRows) (seedPairs : List (String × Int)) :
    Except Raised Unit := do
  let _ ← seedPairs.foldlM (fun seenTaskNos pair =>
    match rows.task? pair.1, rows.identities.find? (·.taskId = pair.1) with
    | some task, some identity => do
      ensure (task.taskKind = .wfm)
        (taskNotFound "reviewed Task is not current WFM Task authority")
      ensure (0 < task.revision) (integrityFailure "stored Task revision is invalid")
      ensure ((task.revision : Int) = pair.2)
        (taskError "TASK_STALE" "reviewed Task revision changed since preview")
      ensure (identity.taskNo ∉ seenTaskNos)
        (integrityFailure "review seed contains duplicate canonical WFM Task No authority")
      return identity.taskNo :: seenTaskNos
    | _, _ => .error (taskNotFound "reviewed Task is not current WFM Task authority")) []

inductive ActivityReviewOutcome where
  | noChange
  | applied
  deriving DecidableEq

structure ActivityReviewResult where
  outcome : ActivityReviewOutcome
  reviewFingerprint : String
  affectedTaskCount : Nat
  resultRefs : List (String × String)

/-- `review_wfm_activity_relationship`. -/
def reviewActivityRelationship (python : PythonLibrary) (call : Call)
    (request : ActivityReviewRequest) : ActivityBody ActivityReviewResult := do
  attempt request.validate
  let rows ← get
  attempt (requireSeedFreshness rows request.seedTasks)
  let evaluation ← attempt
    (evaluateActivityReview python rows request.seedIds request.decision)
  require (evaluation.reviewFingerprint = request.reviewFingerprint)
    (taskError "TASK_ACTIVITY_REVIEW_STALE" "WFM activity-review authority changed since preview")
  if evaluation.semanticNoChange then
    return ⟨.noChange, request.reviewFingerprint, evaluation.authorities.length, []⟩
  else
    let plan ← attempt (planMaterialReview call evaluation)
    let primaryEventId ← attempt plan.primaryEventId
    applyMaterialReview request.decision plan
    let lineageRefs := match plan.newLineageIds with
      | [lineageId] => [("task_activity_lineage", lineageId)]
      | _ => []
    return ⟨.applied, request.reviewFingerprint, evaluation.authorities.length,
      ("task_activity_lineage_event", primaryEventId) :: lineageRefs⟩

end Soma.ObjectivesTasks
