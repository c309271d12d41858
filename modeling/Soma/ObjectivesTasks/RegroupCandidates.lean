import Soma.ObjectivesTasks.Aggregate

/-!
`domain/grouping.py` and the candidates of `services/grouping.py`: what grouping
reads of the tasks and Objectives, the components of overlapping plans, and the
regroup candidate each component gives with the fingerprint of its input.

A scan of the Objectives beside the components keeps a cursor, which only moves
forward; here the cursor is the part of the ordered Objectives still ahead.
-/

namespace Soma.ObjectivesTasks

open Foundation Transaction

/-! ## Data -/

def ObjectiveState.text : ObjectiveState → String
  | .planned => "planned"
  | .historicalStructure => "historical_structure"
  | .inProgress => "in_progress"
  | .awaitingReview => "awaiting_review"
  | .reviewed => "reviewed"
  | .superseded => "superseded"

/-- A row of `task_activity_lineage_current`. -/
structure TaskActivityLineage where
  taskId : String
  activityLineageId : String

/-- The tables grouping reads, under the check of `task_plan_revisions`. -/
structure GroupingTables where
  tasks : TaskRows
  /-- `objectives.tracking_sequence`. -/
  trackingSequence : String → Nat
  lineages : List TaskActivityLineage
  plansOrdered : ∀ plan ∈ tasks.planRevisions, plan.startUtc < plan.endUtc

structure GroupingTaskAuthority where
  taskId : String
  taskRevision : Nat
  planRevisionId : String
  planRevision : Nat
  startUtc : Nat
  endUtc : Nat
  membershipObjectiveId : Option String
  membershipPlanRevisionId : Option String
  membershipRevision : Option Nat
  membershipLocked : Bool
  executionState : ExecutionState
  objectiveId : Option String
  objectiveRevision : Option Nat
  objectiveEnvelopeRevision : Option Nat
  objectiveExecutionState : Option ObjectiveState
  ordered : startUtc < endUtc
  deriving DecidableEq

structure GroupingObjectiveAuthority where
  objectiveId : String
  trackingSequence : Nat
  revision : Nat
  envelopeRevision : Nat
  startUtc : Nat
  endUtc : Nat
  executionState : ObjectiveState
  creationOrigin : CreationOrigin
  deriving DecidableEq

inductive TaskChangeKind where
  | add
  | move
  | repin
  | unchangedContext
  deriving DecidableEq

def TaskChangeKind.text : TaskChangeKind → String
  | .add => "add"
  | .move => "move"
  | .repin => "repin"
  | .unchangedContext => "unchanged_context"

structure GroupingTaskChange where
  taskId : String
  fromObjectiveId : Option String
  toObjectiveId : Option String
  expectedTaskRevision : Nat
  expectedCurrentPlanRevisionId : String
  expectedMembershipRevision : Option Nat
  changeKind : TaskChangeKind
  deriving DecidableEq

inductive ObjectiveAction where
  | create
  | retain
  | supersede
  | envelopeChange
  deriving DecidableEq

def ObjectiveAction.text : ObjectiveAction → String
  | .create => "create"
  | .retain => "retain"
  | .supersede => "supersede"
  | .envelopeChange => "envelope_change"

structure GroupingObjectiveChange where
  objectiveId : Option String
  action : ObjectiveAction
  expectedObjectiveRevision : Option Nat
  expectedEnvelopeRevision : Option Nat
  deriving DecidableEq

inductive ProposalKind where
  | create
  | join
  | move
  | repin
  | consolidate
  | manualMerge
  deriving DecidableEq

def ProposalKind.text : ProposalKind → String
  | .create => "create"
  | .join => "join"
  | .move => "move"
  | .repin => "repin"
  | .consolidate => "consolidate"
  | .manualMerge => "manual_merge"

inductive GroupingOrigin where
  | taskCreated
  | taskPlanChanged
  | sourcePlanAdopted
  | manualRequest
  | retryCreated
  | objectiveEdit
  deriving DecidableEq

def GroupingOrigin.text : GroupingOrigin → String
  | .taskCreated => "task_created"
  | .taskPlanChanged => "task_plan_changed"
  | .sourcePlanAdopted => "source_plan_adopted"
  | .manualRequest => "manual_request"
  | .retryCreated => "retry_created"
  | .objectiveEdit => "objective_edit"

inductive RiskTier where
  | normal
  | high
  deriving DecidableEq

def RiskTier.text : RiskTier → String
  | .normal => "normal"
  | .high => "high"

structure RegroupCandidate where
  proposalKind : ProposalKind
  origin : GroupingOrigin
  riskTier : RiskTier
  survivorObjectiveId : Option String
  taskChanges : List GroupingTaskChange
  objectiveChanges : List GroupingObjectiveChange
  materialTasks : List GroupingTaskAuthority
  materialObjectives : List GroupingObjectiveAuthority
  componentStartUtc : Nat
  componentEndUtc : Nat
  manualScopeObjectiveIds : Option (List String) := none
  deriving DecidableEq

/-! ## The input fingerprint -/

def GroupingTaskAuthority.fingerprintValue (task : GroupingTaskAuthority) : Json :=
  .obj [("task_id", .str task.taskId), ("task_revision", jsonNat task.taskRevision),
    ("plan_revision_id", .str task.planRevisionId), ("plan_revision", jsonNat task.planRevision),
    ("interval", .arr [jsonNat task.startUtc, jsonNat task.endUtc]),
    ("membership_objective_id", jsonOption .str task.membershipObjectiveId),
    ("membership_plan_revision_id", jsonOption .str task.membershipPlanRevisionId),
    ("membership_revision", jsonOption jsonNat task.membershipRevision),
    ("membership_locked", .bool task.membershipLocked),
    ("execution_state", .str task.executionState.text),
    ("objective_id", jsonOption .str task.objectiveId),
    ("objective_revision", jsonOption jsonNat task.objectiveRevision),
    ("objective_envelope_revision", jsonOption jsonNat task.objectiveEnvelopeRevision),
    ("objective_execution_state",
      jsonOption (fun state => .str state.text) task.objectiveExecutionState)]

def GroupingObjectiveAuthority.fingerprintValue (objective : GroupingObjectiveAuthority) : Json :=
  .obj [("objective_id", .str objective.objectiveId),
    ("tracking_sequence", jsonNat objective.trackingSequence),
    ("revision", jsonNat objective.revision),
    ("envelope_revision", jsonNat objective.envelopeRevision),
    ("interval", .arr [jsonNat objective.startUtc, jsonNat objective.endUtc]),
    ("execution_state", .str objective.executionState.text),
    ("creation_origin", .str objective.creationOrigin.text)]

def GroupingTaskChange.value (change : GroupingTaskChange) : Json :=
  .obj [("task_id", .str change.taskId),
    ("from_objective_id", jsonOption .str change.fromObjectiveId),
    ("to_objective_id", jsonOption .str change.toObjectiveId),
    ("expected_task_revision", jsonNat change.expectedTaskRevision),
    ("expected_current_plan_revision_id", .str change.expectedCurrentPlanRevisionId),
    ("expected_membership_revision", jsonOption jsonNat change.expectedMembershipRevision),
    ("change_kind", .str change.changeKind.text)]

def GroupingObjectiveChange.value (change : GroupingObjectiveChange) : Json :=
  .obj [("objective_id", jsonOption .str change.objectiveId),
    ("action", .str change.action.text),
    ("expected_objective_revision", jsonOption jsonNat change.expectedObjectiveRevision),
    ("expected_envelope_revision", jsonOption jsonNat change.expectedEnvelopeRevision)]

/-- The fields of the value `input_fingerprint` digests. -/
def RegroupCandidate.materialFields (candidate : RegroupCandidate) : List (String × Json) :=
  [("schema", .str "SOMA_REGROUP_INPUT_V1"),
    ("proposal_kind", .str candidate.proposalKind.text),
    ("origin", .str candidate.origin.text),
    ("risk_tier", .str candidate.riskTier.text),
    ("survivor_objective_id", jsonOption .str candidate.survivorObjectiveId),
    ("component", .arr [jsonNat candidate.componentStartUtc, jsonNat candidate.componentEndUtc]),
    ("tasks", .arr (candidate.materialTasks.map (·.fingerprintValue))),
    ("objectives", .arr (candidate.materialObjectives.map (·.fingerprintValue))),
    ("task_changes", .arr (candidate.taskChanges.map (·.value))),
    ("objective_changes", .arr (candidate.objectiveChanges.map (·.value)))] ++
  match candidate.manualScopeObjectiveIds with
  | none => []
  | some objectiveIds => [("manual_scope_objective_ids", .arr (objectiveIds.map .str))]

def RegroupCandidate.material (candidate : RegroupCandidate) : Json :=
  .obj candidate.materialFields

def RegroupCandidate.inputFingerprint (python : PythonLibrary) (candidate : RegroupCandidate) :
    Except Raised String :=
  sha256CanonicalJson python candidate.material

/-! ## Overlapping plans -/

/-- The sweep of `strict_overlap_member_ids` over one lineage. -/
def sweepOverlaps : Nat → String → List (Nat × Nat × String) → List String
  | _, _, [] => []
  | maxEnd, maxEndTaskId, (startUtc, endUtc, taskId) :: rest =>
    let competing := if startUtc < maxEnd then [maxEndTaskId, taskId] else []
    competing ++ if maxEnd < endUtc then sweepOverlaps endUtc taskId rest
      else sweepOverlaps maxEnd maxEndTaskId rest

/-- `strict_overlap_member_ids` of task, lineage, start and end. -/
def strictOverlapMemberIds (intervals : List (String × String × Nat × Nat)) : List String :=
  (intervals.map (·.2.1)).dedup.flatMap fun lineageId =>
    let ordered := ((intervals.filter (·.2.1 = lineageId)).map fun interval =>
      (interval.2.2.1, interval.2.2.2, interval.1)).insertionSort fun left right =>
        left.1 < right.1 ∨ (left.1 = right.1 ∧ (left.2.1 < right.2.1 ∨
          (left.2.1 = right.2.1 ∧ left.2.2 ≤ right.2.2)))
    match ordered with
    | [] => []
    | first :: rest => sweepOverlaps first.2.1 first.2.2 rest

/-- The loop of `strict_overlap_components`, with the current component and its end. -/
def splitComponents : List GroupingTaskAuthority → Nat → List GroupingTaskAuthority →
    List (List GroupingTaskAuthority)
  | current, _, [] => [current]
  | current, maxEnd, item :: rest =>
    if item.startUtc < maxEnd then splitComponents (current ++ [item]) (max maxEnd item.endUtc) rest
    else current :: splitComponents [item] item.endUtc rest

/-- The order `(start_utc, end_utc, task_id)`. -/
def GroupingTaskAuthority.Before (left right : GroupingTaskAuthority) : Prop :=
  left.startUtc < right.startUtc ∨ (left.startUtc = right.startUtc ∧
    (left.endUtc < right.endUtc ∨ (left.endUtc = right.endUtc ∧ left.taskId ≤ right.taskId)))

instance : DecidableRel GroupingTaskAuthority.Before :=
  fun _ _ => inferInstanceAs (Decidable (_ ∨ (_ ∧ (_ ∨ (_ ∧ _)))))

def strictOverlapComponents (tasks : List GroupingTaskAuthority) :
    List (List GroupingTaskAuthority) :=
  match tasks.insertionSort GroupingTaskAuthority.Before with
  | [] => []
  | first :: rest => splitComponents [first] first.endUtc rest

/-! ## The snapshot -/

structure GroupingSnapshot where
  tasks : List GroupingTaskAuthority
  objectives : List GroupingObjectiveAuthority

/-- A task with its current plan. -/
structure PlannedTask where
  task : TaskRecord
  pointer : TaskPlanCurrentPointer
  plan : TaskPlanRecord
  ordered : plan.startUtc < plan.endUtc

namespace GroupingTables

variable (tables : GroupingTables)

/-- `tasks t JOIN task_plan_current pc .. JOIN task_plan_revisions p ..`. -/
def plannedTasks : List PlannedTask :=
  tables.tasks.tasks.flatMap fun task =>
    (tables.tasks.planCurrent.filter (·.taskId = task.taskId)).flatMap fun pointer =>
      (tables.tasks.planRevisions.attach.filter (·.1.planRevisionId = pointer.planRevisionId)).map
        fun plan => ⟨task, pointer, plan.1, tables.plansOrdered plan.1 plan.2⟩

/-- `COALESCE(x.execution_state,'not_started')`. -/
def executionState (taskId : String) : ExecutionState :=
  ((tables.tasks.executionProjection? taskId).map (·.executionState)).getD .notStarted

/-- The provider lifecycle of the task is a terminal one. -/
def providerTerminal (taskId : String) : Bool :=
  (tables.tasks.sourceProjections.find? (·.taskId = taskId)).any (·.providerLifecycleClass.terminal)

/-- `explicit_membership_lock`. -/
def membershipLocked (taskId : String) : Bool :=
  (tables.tasks.lockProjections.find? (·.taskId = taskId)).any (·.explicitMembershipLock)

def competingTaskIds : List String :=
  strictOverlapMemberIds (tables.lineages.flatMap fun lineage =>
    (tables.plannedTasks.filter fun planned => planned.task.taskId = lineage.taskId ∧
      planned.plan.taskId = lineage.taskId ∧ tables.tasks.outcomeCurrent? lineage.taskId = none ∧
      tables.executionState lineage.taskId ∉ [.ended, .terminated] ∧
      tables.providerTerminal lineage.taskId = false).map fun planned =>
        (lineage.taskId, lineage.activityLineageId, planned.plan.startUtc, planned.plan.endUtc))

/-- The Objectives that are not superseded, `ORDER BY o.tracking_sequence,o.objective_id`. -/
def objectiveAuthorities : List GroupingObjectiveAuthority :=
  ((tables.tasks.objectives.filter (·.supersededByObjectiveId = none)).flatMap fun objective =>
    (tables.tasks.envelopes.filter (·.objectiveId = objective.objectiveId)).flatMap fun envelope =>
      (tables.tasks.aggregates.filter (·.objectiveId = objective.objectiveId)).map fun aggregate =>
        ⟨objective.objectiveId, tables.trackingSequence objective.objectiveId, objective.revision,
          envelope.revision, envelope.startUtc, envelope.endUtc, aggregate.material.executionState,
          objective.creationOrigin⟩).insertionSort fun left right =>
            left.trackingSequence < right.trackingSequence ∨
              (left.trackingSequence = right.trackingSequence ∧
                left.objectiveId ≤ right.objectiveId)

/-- The Objective takes no part in grouping any more. -/
def closedToGrouping (objective : GroupingObjectiveAuthority) : Bool :=
  objective.creationOrigin = .historicalProviderComplete ∨
    objective.executionState ∈ [.reviewed, .superseded, .historicalStructure]

/-- One round of the loop of `_load_snapshot`. -/
def taskAuthority (objectives : List GroupingObjectiveAuthority) (planned : PlannedTask) :
    Except Raised (Option GroupingTaskAuthority) :=
  let taskId := planned.task.taskId
  let membership := tables.tasks.membership? taskId
  let objective := membership.bind fun row =>
    objectives.find? (·.objectiveId = row.objectiveId)
  if tables.tasks.outcomeCurrent? taskId ≠ none ∨ tables.executionState taskId ≠ .notStarted ∨
      tables.providerTerminal taskId ∨ taskId ∈ tables.competingTaskIds then return none
  else do
    ensure (membership = none ∨ objective ≠ none)
      (integrityFailure "Task membership points to missing current Objective")
    if objective.any closedToGrouping ∨ tables.membershipLocked taskId then return none
    else return some {
      taskId
      taskRevision := planned.task.revision
      planRevisionId := planned.pointer.planRevisionId
      planRevision := planned.pointer.revision
      startUtc := planned.plan.startUtc
      endUtc := planned.plan.endUtc
      membershipObjectiveId := membership.map (·.objectiveId)
      membershipPlanRevisionId := membership.map (·.acceptedPlanRevisionId)
      membershipRevision := membership.map (·.membershipRevision)
      membershipLocked := tables.membershipLocked taskId
      executionState := tables.executionState taskId
      objectiveId := membership.map (·.objectiveId)
      objectiveRevision := objective.map (·.revision)
      objectiveEnvelopeRevision := objective.map (·.envelopeRevision)
      objectiveExecutionState := objective.map (·.executionState)
      ordered := planned.ordered }

def loadSnapshot : Except Raised GroupingSnapshot := do
  let objectives := tables.objectiveAuthorities
  let tasks ← tables.plannedTasks.mapM (tables.taskAuthority objectives)
  return ⟨tasks.reduceOption.insertionSort GroupingTaskAuthority.Before, objectives⟩

/-- The Objective a membership names is current and has its projections. -/
def currentMembership (row : ObjectiveMembershipRecord) : Bool :=
  (tables.tasks.objective? row.objectiveId).any (·.supersededByObjectiveId = none) ∧
    tables.tasks.envelopes.any (·.objectiveId = row.objectiveId) ∧
      tables.tasks.aggregate? row.objectiveId ≠ none

/-- The condition of `_eligible_workset_count` on the Objective of a membership. A
comparison with a row the outer join does not find is not true. -/
def openMembership (row : ObjectiveMembershipRecord) : Bool :=
  (tables.tasks.objective? row.objectiveId).any (fun objective =>
    objective.supersededByObjectiveId = none ∧
      objective.creationOrigin ≠ .historicalProviderComplete) ∧
    (tables.tasks.aggregate? row.objectiveId).any fun aggregate =>
      aggregate.material.executionState ∉ [.reviewed, .superseded, .historicalStructure]

def eligibleWorksetCount : Except Raised Nat := do
  ensure (∀ row ∈ tables.tasks.memberships, tables.currentMembership row)
    (integrityFailure "Task membership points to missing or noncurrent Objective authority")
  let counted := tables.plannedTasks.filter fun planned =>
    let taskId := planned.task.taskId
    tables.tasks.outcomeCurrent? taskId = none ∧ tables.executionState taskId = .notStarted ∧
      tables.providerTerminal taskId = false ∧ tables.membershipLocked taskId = false ∧
      (tables.tasks.membership? taskId).all tables.openMembership
  return counted.countP fun planned => planned.task.taskId ∉ tables.competingTaskIds

end GroupingTables

/-! ## Candidates -/

/-- `_split_objectives`: the Objectives with members in two components. -/
def splitObjectives (components : List (List GroupingTaskAuthority)) : List String :=
  let memberships := components.map fun component =>
    (component.filterMap (·.membershipObjectiveId)).dedup
  memberships.flatten.dedup.filter fun objectiveId =>
    1 < memberships.countP (objectiveId ∈ ·)

/-- The change of a task that joins, repins in or moves to a survivor. -/
def taskChange (survivorObjectiveId : Option String) (changeKind : TaskChangeKind)
    (task : GroupingTaskAuthority) : GroupingTaskChange where
  taskId := task.taskId
  fromObjectiveId := task.membershipObjectiveId
  toObjectiveId := survivorObjectiveId
  expectedTaskRevision := task.taskRevision
  expectedCurrentPlanRevisionId := task.planRevisionId
  expectedMembershipRevision := task.membershipRevision
  changeKind

/-- What a task needs to be in a survivor. -/
def changeKindFor (survivorObjectiveId : String) (task : GroupingTaskAuthority) : TaskChangeKind :=
  if task.membershipObjectiveId = none then .add
  else if task.membershipObjectiveId ≠ some survivorObjectiveId then .move
  else if task.membershipPlanRevisionId ≠ some task.planRevisionId then .repin
  else .unchangedContext

/-- What a component proposes to do. -/
structure ProposedChanges where
  proposalKind : ProposalKind
  riskTier : RiskTier
  survivorObjectiveId : Option String
  taskChanges : List GroupingTaskChange
  objectiveChanges : List GroupingObjectiveChange

def byTaskId (tasks : List GroupingTaskAuthority) : List GroupingTaskAuthority :=
  tasks.insertionSort fun left right => left.taskId ≤ right.taskId

/-- The branch of a component that touches no Objective. -/
def createChanges (component : List GroupingTaskAuthority) : ProposedChanges where
  proposalKind := .create
  riskTier := .normal
  survivorObjectiveId := none
  taskChanges := (byTaskId component).map fun task =>
    { taskChange none .add task with fromObjectiveId := none, expectedMembershipRevision := none }
  objectiveChanges := [⟨none, .create, none, none⟩]

/-- The branch of a component that touches one Objective. An Objective in
progress only takes what starts and ends inside its envelope. -/
def singleChanges (component : List GroupingTaskAuthority) (survivor : GroupingObjectiveAuthority) :
    Option ProposedChanges :=
  let highRisk : Bool := survivor.executionState = .inProgress
  let changed := (byTaskId component).filter fun task =>
    changeKindFor survivor.objectiveId task ≠ .unchangedContext
  let refused (task : GroupingTaskAuthority) : Bool :=
    changeKindFor survivor.objectiveId task = .move ∨ task.executionState ≠ .notStarted ∨
      task.startUtc < survivor.startUtc ∨ survivor.endUtc < task.endUtc
  if changed = [] ∨ (highRisk ∧ ∃ task ∈ changed, refused task) then none
  else
    let taskChanges := changed.map fun task =>
      taskChange (some survivor.objectiveId) (changeKindFor survivor.objectiveId task) task
    some {
      proposalKind :=
        if ∃ change ∈ taskChanges, change.changeKind = .add then .join
        else if ∀ change ∈ taskChanges, change.changeKind = .repin then .repin
        else .move
      riskTier := if highRisk then .high else .normal
      survivorObjectiveId := some survivor.objectiveId
      taskChanges
      objectiveChanges := [⟨some survivor.objectiveId, .envelopeChange, some survivor.revision,
        some survivor.envelopeRevision⟩] }

/-- The branch of a component that touches several Objectives, all of them planned
and with members in the snapshot. -/
def consolidateChanges (snapshot : GroupingSnapshot) (component : List GroupingTaskAuthority)
    (survivor : GroupingObjectiveAuthority) (affected : List GroupingObjectiveAuthority) :
    Option ProposedChanges :=
  let memberOf (objective : GroupingObjectiveAuthority) (task : GroupingTaskAuthority) : Bool :=
    task.membershipObjectiveId = some objective.objectiveId
  if (∃ objective ∈ affected, objective.executionState ≠ .planned) ∨
      (∃ objective ∈ affected, ¬ snapshot.tasks.any (memberOf objective)) then none
  else
    let desired := snapshot.tasks.filter fun task =>
      task ∈ component ∨ ∃ objective ∈ affected, memberOf objective task
    some {
      proposalKind := .consolidate
      riskTier := .normal
      survivorObjectiveId := some survivor.objectiveId
      taskChanges := (byTaskId desired).map fun task =>
        taskChange (some survivor.objectiveId) (changeKindFor survivor.objectiveId task) task
      objectiveChanges := affected.map fun objective =>
        ⟨some objective.objectiveId,
          if objective.objectiveId = survivor.objectiveId then .retain else .supersede,
          some objective.revision, some objective.envelopeRevision⟩ }

/-- The changes a component proposes to the Objectives it affects. -/
def proposedChanges (snapshot : GroupingSnapshot) (component : List GroupingTaskAuthority) :
    List GroupingObjectiveAuthority → Option ProposedChanges
  | [] => some (createChanges component)
  | [survivor] => singleChanges component survivor
  | survivor :: rest => consolidateChanges snapshot component survivor (survivor :: rest)

def componentStart (component : List GroupingTaskAuthority) : Nat :=
  ((component.map (·.startUtc)).min?).getD 0

def componentEnd (component : List GroupingTaskAuthority) : Nat :=
  ((component.map (·.endUtc)).max?).getD 0

/-- The candidate of a component, given the Objectives it affects. -/
def componentCandidate (snapshot : GroupingSnapshot) (split : List String) (origin : GroupingOrigin)
    (component : List GroupingTaskAuthority) (affected : List GroupingObjectiveAuthority) :
    Option RegroupCandidate :=
  if (∃ objective ∈ affected, objective.objectiveId ∈ split) ∨
      (∃ objective ∈ affected, GroupingTables.closedToGrouping objective) then none
  else
    (proposedChanges snapshot component affected).map fun changes => {
      proposalKind := changes.proposalKind
      origin
      riskTier := changes.riskTier
      survivorObjectiveId := changes.survivorObjectiveId
      taskChanges := changes.taskChanges
      objectiveChanges := changes.objectiveChanges
      materialTasks := byTaskId (snapshot.tasks.filter fun task =>
        task.taskId ∈ changes.taskChanges.map (·.taskId))
      materialObjectives := affected
      componentStartUtc := componentStart component
      componentEndUtc := componentEnd component }

/-- The scan in the loop over the components, with the Objectives from the cursor on: each
component with the Objectives it affects, which its time span meets or a member belongs to. -/
def affectedObjectives (snapshot : GroupingSnapshot) :
    List GroupingObjectiveAuthority → List (List GroupingTaskAuthority) →
      List (List GroupingTaskAuthority × List GroupingObjectiveAuthority)
  | _, [] => []
  | ahead, component :: rest =>
    let ahead := ahead.dropWhile (·.endUtc ≤ componentStart component)
    let met := (ahead.takeWhile (·.startUtc < componentEnd component)).filter
      (componentStart component < ·.endUtc)
    let affected := snapshot.objectives.filter fun objective =>
      objective ∈ met ∨ ∃ task ∈ component, task.membershipObjectiveId = some objective.objectiveId
    (component, affected) :: affectedObjectives snapshot ahead rest

/-- The order in which the Objectives are scanned. -/
def GroupingObjectiveAuthority.Before (left right : GroupingObjectiveAuthority) : Prop :=
  left.startUtc < right.startUtc ∨ (left.startUtc = right.startUtc ∧
    (left.endUtc < right.endUtc ∨ (left.endUtc = right.endUtc ∧
      (left.trackingSequence < right.trackingSequence ∨
        (left.trackingSequence = right.trackingSequence ∧
          left.objectiveId ≤ right.objectiveId)))))

instance instDecidableObjectiveBefore : DecidableRel GroupingObjectiveAuthority.Before :=
  fun _ _ => inferInstanceAs (Decidable (_ ∨ (_ ∧ (_ ∨ (_ ∧ (_ ∨ (_ ∧ _)))))))

/-- The candidates of some components. -/
def componentCandidates (snapshot : GroupingSnapshot) (split : List String)
    (origin : GroupingOrigin) (components : List (List GroupingTaskAuthority)) :
    List RegroupCandidate :=
  (affectedObjectives snapshot
    (snapshot.objectives.insertionSort GroupingObjectiveAuthority.Before) components).filterMap
      fun (component, affected) => componentCandidate snapshot split origin component affected

/-- A candidate with its input fingerprint. -/
structure FingerprintedCandidate where
  candidate : RegroupCandidate
  inputFingerprint : String
  deriving DecidableEq

def fingerprinted (python : PythonLibrary) (candidate : RegroupCandidate) :
    Except Raised FingerprintedCandidate := do
  return ⟨candidate, ← candidate.inputFingerprint python⟩

/-- The candidates of a snapshot, before they are sorted. -/
def snapshotCandidates (snapshot : GroupingSnapshot) (origin : GroupingOrigin) :
    List RegroupCandidate :=
  let components := strictOverlapComponents snapshot.tasks
  componentCandidates snapshot (splitObjectives components) origin components

/-- The order of component start, component end, kind and fingerprint. -/
def FingerprintedCandidate.Before (left right : FingerprintedCandidate) : Prop :=
  left.candidate.componentStartUtc < right.candidate.componentStartUtc ∨
    (left.candidate.componentStartUtc = right.candidate.componentStartUtc ∧
      (left.candidate.componentEndUtc < right.candidate.componentEndUtc ∨
        (left.candidate.componentEndUtc = right.candidate.componentEndUtc ∧
          (left.candidate.proposalKind.text < right.candidate.proposalKind.text ∨
            (left.candidate.proposalKind.text = right.candidate.proposalKind.text ∧
              left.inputFingerprint ≤ right.inputFingerprint)))))

instance : DecidableRel FingerprintedCandidate.Before :=
  fun _ _ => inferInstanceAs (Decidable (_ ∨ (_ ∧ (_ ∨ (_ ∧ (_ ∨ (_ ∧ _)))))))

def candidates (python : PythonLibrary) (tables : GroupingTables) (origin : GroupingOrigin) :
    Except Raised (List FingerprintedCandidate) := do
  let snapshot ← tables.loadSnapshot
  let found ← (snapshotCandidates snapshot origin).mapM (fingerprinted python)
  return found.insertionSort FingerprintedCandidate.Before

/-! ## A manual merge -/

def groupingIndeterminate (message : String) : Raised :=
  taskError "GROUPING_INDETERMINATE" message

/-- The rows of `_manual_exact_touch_candidate`'s member query. -/
def manualMembers (tables : GroupingTables) (objectiveIds : List String) :
    List (ObjectiveMembershipRecord × PlannedTask) :=
  (tables.tasks.memberships.filter (·.objectiveId ∈ objectiveIds)).flatMap fun membership =>
    (tables.plannedTasks.filter fun planned => planned.task.taskId = membership.taskId ∧
      planned.plan.taskId = membership.taskId).map fun planned => (membership, planned)

/-- One round of the loop over the members. -/
def manualMember (tables : GroupingTables) (objectives : List GroupingObjectiveAuthority)
    (row : ObjectiveMembershipRecord × PlannedTask) : Except Raised GroupingTaskAuthority := do
  let (membership, planned) := row
  let taskId := planned.task.taskId
  ensure (tables.membershipLocked taskId = false ∧ tables.executionState taskId = .notStarted ∧
      tables.tasks.outcomeCurrent? taskId = none ∧ tables.providerTerminal taskId = false ∧
      taskId ∉ tables.competingTaskIds ∧
      membership.acceptedPlanRevisionId = planned.pointer.planRevisionId)
    (groupingIndeterminate "manual merge member is not ordinary grouping eligible")
  match objectives.find? (·.objectiveId = membership.objectiveId) with
  | none => .error (integrityFailure "manual merge membership Objective is missing")
  | some objective =>
    return {
      taskId
      taskRevision := planned.task.revision
      planRevisionId := planned.pointer.planRevisionId
      planRevision := planned.pointer.revision
      startUtc := planned.plan.startUtc
      endUtc := planned.plan.endUtc
      membershipObjectiveId := some membership.objectiveId
      membershipPlanRevisionId := some membership.acceptedPlanRevisionId
      membershipRevision := some membership.membershipRevision
      membershipLocked := false
      executionState := .notStarted
      objectiveId := some membership.objectiveId
      objectiveRevision := some objective.revision
      objectiveEnvelopeRevision := some objective.envelopeRevision
      objectiveExecutionState := some objective.executionState
      ordered := planned.ordered }

def manualExactTouchCandidate (tables : GroupingTables) (first second : String)
    (origin : GroupingOrigin) : Except Raised RegroupCandidate := do
  ensure (origin = .manualRequest)
    (validationError "manual exact-touch merge requires origin=manual_request")
  let selected := [first, second].insertionSort (· ≤ ·)
  let objectives := tables.objectiveAuthorities.filter (·.objectiveId ∈ selected)
  match objectives with
  | [survivor, other] => do
    ensure (∀ objective ∈ objectives, objective.executionState = .planned ∧
        objective.creationOrigin ≠ .historicalProviderComplete)
      (groupingIndeterminate "manual merge requires ordinary planned Objectives")
    let unionStart := min survivor.startUtc other.startUtc
    let unionEnd := max survivor.endUtc other.endUtc
    let touching (left right : GroupingObjectiveAuthority) : Prop := left.endUtc = right.startUtc
    let before := survivor.startUtc < other.startUtc ∨ (survivor.startUtc = other.startUtc ∧
      (survivor.endUtc < other.endUtc ∨
        (survivor.endUtc = other.endUtc ∧ survivor.objectiveId ≤ other.objectiveId)))
    ensure ((before → touching survivor other) ∧ (¬ before → touching other survivor))
      (groupingIndeterminate "manual merge requires exactly touching Objective envelopes")
    ensure (∀ objective ∈ tables.tasks.objectives, objective.supersededByObjectiveId = none →
        objective.objectiveId ∉ selected → ∀ envelope ∈ tables.tasks.envelopes,
          envelope.objectiveId = objective.objectiveId →
            ¬ (envelope.startUtc < unionEnd ∧ unionStart < envelope.endUtc))
      (groupingIndeterminate "manual merge union overlaps a third current Objective")
    ensure (∀ objectiveId ∈ selected, ∃ row ∈ tables.tasks.memberships,
        row.objectiveId = objectiveId)
      (integrityFailure "current Objective has no material membership")
    let members := manualMembers tables selected
    ensure (members.length = tables.tasks.memberships.countP (·.objectiveId ∈ selected))
      (groupingIndeterminate "manual merge member plan authority is incomplete")
    let materialTasks ← members.mapM (manualMember tables objectives)
    return {
      proposalKind := .manualMerge
      origin
      riskTier := .normal
      survivorObjectiveId := some survivor.objectiveId
      taskChanges := (byTaskId materialTasks).map fun task =>
        taskChange (some survivor.objectiveId)
          (if task.membershipObjectiveId = some survivor.objectiveId then .unchangedContext
            else .move) task
      objectiveChanges := objectives.map fun objective =>
        ⟨some objective.objectiveId,
          if objective.objectiveId = survivor.objectiveId then .retain else .supersede,
          some objective.revision, some objective.envelopeRevision⟩
      materialTasks := byTaskId materialTasks
      materialObjectives := objectives
      componentStartUtc := unionStart
      componentEndUtc := unionEnd
      manualScopeObjectiveIds := some selected }
  | _ =>
    .error (groupingIndeterminate "manual merge requires two current nonsuperseded Objectives")

end Soma.ObjectivesTasks
