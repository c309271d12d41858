import Soma.ObjectivesTasks.GroupingWorkset
import Soma.ObjectivesTasks.RegroupApplication

/-!
Whether a regroup candidate can be applied to the state it was made from. A
candidate is made from the span of one component of eligible tasks, the
application takes the hull of all members of the survivor. The two differ where a
member stays out of the snapshot or keeps a plan far from its component, and an
unrelated Objective may lie between.
-/

namespace Soma.ObjectivesTasks

open Foundation Transaction

/-! ## The snapshot -/

/-- What a task of the snapshot says of the tables. -/
structure GroupingTaskAuthority.Stands (tables : GroupingTables) (task : GroupingTaskAuthority) :
    Prop where
  plan : ∃ plan ∈ tables.tasks.planRevisions, plan.planRevisionId = task.planRevisionId ∧
    plan.startUtc = task.startUtc ∧ plan.endUtc = task.endUtc
  objective : task.membershipObjectiveId =
    (tables.tasks.membership? task.taskId).map (·.objectiveId)
  pinned : task.membershipPlanRevisionId =
    (tables.tasks.membership? task.taskId).map (·.acceptedPlanRevisionId)
  revision : task.membershipRevision =
    (tables.tasks.membership? task.taskId).map (·.membershipRevision)
  listed : ∀ row, tables.tasks.membership? task.taskId = some row →
    ∃ authority ∈ tables.objectiveAuthorities, authority.objectiveId = row.objectiveId

section Snapshot

variable {tables : GroupingTables} {snapshot : GroupingSnapshot}

theorem mem_plannedTasks (inside : planned ∈ tables.plannedTasks) :
    planned.task ∈ tables.tasks.tasks ∧ planned.plan ∈ tables.tasks.planRevisions ∧
      planned.plan.planRevisionId = planned.pointer.planRevisionId := by
  simp only [GroupingTables.plannedTasks, List.mem_flatMap, List.mem_map, List.mem_filter,
    decide_eq_true_eq] at inside
  obtain ⟨task, taskIn, pointer, ⟨-, -⟩, plan, ⟨-, pinned⟩, rfl⟩ := inside
  exact ⟨taskIn, plan.2, pinned⟩

theorem stands_of_taskAuthority (inside : planned ∈ tables.plannedTasks)
    (ran : tables.taskAuthority tables.objectiveAuthorities planned = .ok (some task)) :
    task.taskId = planned.task.taskId ∧ task.Stands tables := by
  rw [GroupingTables.taskAuthority] at ran
  split at ran
  case isTrue => simp [pure, Except.pure] at ran
  case isFalse =>
    simp only [except_ok, exists_and_left] at ran
    obtain ⟨present, ran⟩ := ran
    split at ran
    case isTrue => simp [pure, Except.pure] at ran
    case isFalse =>
      simp only [pure, Except.pure, Except.ok.injEq, Option.some.injEq] at ran
      subst ran
      obtain ⟨-, planIn, pinned⟩ := mem_plannedTasks inside
      refine ⟨rfl, ⟨planned.plan, planIn, pinned, rfl, rfl⟩, rfl, rfl, rfl, fun row found => ?_⟩
      rw [found] at present
      obtain ⟨authority, found⟩ := Option.ne_none_iff_exists'.mp (present.resolve_left (by simp))
      exact ⟨authority, List.mem_of_find?_eq_some found, by simpa using List.find?_some found⟩

theorem stands_of_mem (loaded : tables.loadSnapshot = .ok snapshot)
    (inside : task ∈ snapshot.tasks) : task.Stands tables := by
  simp only [GroupingTables.loadSnapshot, except_ok] at loaded
  obtain ⟨_, visited, rfl⟩ := loaded
  rw [List.mem_insertionSort, List.reduceOption_mem_iff] at inside
  obtain ⟨_, plannedIn, ran⟩ := mem_of_image visited inside
  exact (stands_of_taskAuthority plannedIn ran).2

theorem snapshot_objectives (loaded : tables.loadSnapshot = .ok snapshot) :
    snapshot.objectives = tables.objectiveAuthorities := by
  simp only [GroupingTables.loadSnapshot, except_ok] at loaded
  obtain ⟨_, -, rfl⟩ := loaded
  rfl

theorem plannedTasks_nodup (keyed : tables.Keyed) :
    (tables.plannedTasks.map (·.task.taskId)).Nodup := by
  have planIds : (tables.tasks.planRevisions.attach.map (·.1.planRevisionId)).Nodup := by
    rw [List.attach_map_val]
    exact keyed.planRevisions
  refine Rows.nodup_flatMap keyed.tasks fun task _ => ?_
  refine Rows.sublist_flatMap_filter keyed.planCurrent task.taskId fun pointer _ => ?_
  exact Rows.sublist_map_filter planIds pointer.planRevisionId fun plan _ => rfl

theorem snapshot_tasks_nodup (keyed : tables.Keyed) (loaded : tables.loadSnapshot = .ok snapshot) :
    (snapshot.tasks.map (·.taskId)).Nodup := by
  simp only [GroupingTables.loadSnapshot, except_ok] at loaded
  obtain ⟨_, visited, rfl⟩ := loaded
  rw [((List.perm_insertionSort GroupingTaskAuthority.Before _).map _).nodup_iff]
  refine (plannedTasks_nodup keyed).sublist (sublist_reduceOption (mapM_ok.mp visited) ?_)
  intro planned inside task ran
  exact (stands_of_taskAuthority inside ran).1

theorem objectiveAuthorities_nodup (keyed : tables.Keyed) :
    (tables.objectiveAuthorities.map (·.objectiveId)).Nodup := by
  rw [GroupingTables.objectiveAuthorities, ((List.perm_insertionSort _ _).map _).nodup_iff]
  have currentIds : ((tables.tasks.objectives.filter (·.supersededByObjectiveId = none)).map
      (·.objectiveId)).Nodup := keyed.objectives.sublist (List.filter_sublist.map _)
  refine Rows.nodup_flatMap currentIds fun objective _ => ?_
  refine Rows.sublist_flatMap_filter keyed.envelopes objective.objectiveId fun envelope _ => ?_
  exact Rows.sublist_map_filter keyed.aggregates objective.objectiveId fun aggregate _ => rfl

end Snapshot

/-! ## The scan of the Objectives -/

section Scan

variable {snapshot : GroupingSnapshot} {splitIds : List String} {origin : GroupingOrigin}

theorem mem_dropWhile {Item : Type} {past : Item → Bool} {items : List Item} {item : Item}
    (inside : item ∈ items) (ahead : past item = false) : item ∈ items.dropWhile past := by
  induction items with
  | nil => cases inside
  | cons first items ih =>
    rw [List.dropWhile_cons]
    split
    case isTrue dropped =>
      rcases List.mem_cons.mp inside with rfl | inside
      · rw [ahead] at dropped
        cases dropped
      · exact ih inside
    case isFalse => exact inside

theorem mem_takeWhile {Item : Type} {near : Item → Bool} {items : List Item} {item : Item}
    (ordered : items.Pairwise fun first second => near second = true → near first = true)
    (inside : item ∈ items) (meets : near item = true) : item ∈ items.takeWhile near := by
  induction items with
  | nil => cases inside
  | cons first items ih =>
    obtain ⟨before, rest⟩ := List.pairwise_cons.mp ordered
    have nearFirst : near first = true := by
      rcases List.mem_cons.mp inside with rfl | inside
      · exact meets
      · exact before item inside meets
    rw [List.takeWhile_cons, if_pos nearFirst]
    rcases List.mem_cons.mp inside with rfl | inside
    · exact List.mem_cons_self
    · exact List.mem_cons_of_mem _ (ih rest inside)

/-- The Objectives a component affects: their envelopes strictly overlap its hull, or one of
its members belongs to them. -/
def affectedBy (snapshot : GroupingSnapshot) (component : List GroupingTaskAuthority) :
    List GroupingObjectiveAuthority :=
  snapshot.objectives.filter fun objective =>
    (objective.startUtc < componentEnd component ∧ componentStart component < objective.endUtc) ∨
      ∃ task ∈ component, task.membershipObjectiveId = some objective.objectiveId

/-- The cursor never passes an Objective that a component still to come overlaps. -/
theorem affectedObjectives_eq {components : List (List GroupingTaskAuthority)}
    {ahead : List GroupingObjectiveAuthority}
    (ordered : ahead.Pairwise fun first second => first.startUtc ≤ second.startUtc)
    (advancing : components.Pairwise fun first second =>
      componentStart first ≤ componentStart second)
    (complete : ∀ authority ∈ snapshot.objectives, ∀ component ∈ components,
      componentStart component < authority.endUtc → authority ∈ ahead) :
    affectedObjectives snapshot ahead components =
      components.map fun component => (component, affectedBy snapshot component) := by
  induction components generalizing ahead with
  | nil => rfl
  | cons component components ih =>
    obtain ⟨first, advancing⟩ := List.pairwise_cons.mp advancing
    have kept (authority : GroupingObjectiveAuthority) (inside : authority ∈ ahead)
        (reaches : componentStart component < authority.endUtc) :
        authority ∈ ahead.dropWhile (·.endUtc ≤ componentStart component) :=
      mem_dropWhile inside (decide_eq_false (not_le.mpr reaches))
    have orderedKept := ordered.sublist
      (List.dropWhile_sublist fun authority : GroupingObjectiveAuthority =>
        decide (authority.endUtc ≤ componentStart component))
    have others := ih orderedKept advancing fun authority authorityIn later laterIn reaches =>
      kept authority (complete authority authorityIn later (List.mem_cons_of_mem _ laterIn)
        reaches) ((first later laterIn).trans_lt reaches)
    rw [affectedObjectives, others, List.map_cons]
    refine congrArg (fun affected => (component, affected) :: _)
      (List.filter_congr fun authority listed => ?_)
    rw [decide_eq_decide, List.mem_filter, decide_eq_true_iff]
    refine or_congr_left ⟨?_, ?_⟩
    · rintro ⟨near, ends⟩
      have starts := List.mem_takeWhile_imp
        (p := fun other : GroupingObjectiveAuthority => other.startUtc < componentEnd component)
        near
      exact ⟨of_decide_eq_true starts, ends⟩
    · rintro ⟨starts, ends⟩
      refine ⟨mem_takeWhile (orderedKept.imp fun before later =>
          decide_eq_true (before.trans_lt (of_decide_eq_true later)))
        (kept authority (complete authority listed component List.mem_cons_self ends) ends)
        (decide_eq_true starts), ends⟩

instance instTotalObjectiveBefore : Std.Total GroupingObjectiveAuthority.Before where
  total left right := by
    have objectiveIds := String.le_total left.objectiveId right.objectiveId
    unfold GroupingObjectiveAuthority.Before
    rcases Nat.lt_trichotomy left.startUtc right.startUtc with starts | starts | starts
    · exact .inl (.inl starts)
    · rcases Nat.lt_trichotomy left.endUtc right.endUtc with ends | ends | ends <;>
        rcases Nat.lt_trichotomy left.trackingSequence right.trackingSequence with
          tracking | tracking | tracking <;> tauto
    · exact .inr (.inl starts)

instance instTransObjectiveBefore :
    IsTrans GroupingObjectiveAuthority GroupingObjectiveAuthority.Before where
  trans left middle right first second := by
    unfold GroupingObjectiveAuthority.Before at *
    rcases first with first | ⟨starts, first | ⟨ends, first | ⟨tracking, first⟩⟩⟩ <;>
      rcases second with second | ⟨starts', second | ⟨ends', second | ⟨tracking', second⟩⟩⟩
    all_goals first
      | exact .inr ⟨by omega, .inr ⟨by omega, .inr ⟨by omega, String.le_trans first second⟩⟩⟩
      | omega

theorem GroupingObjectiveAuthority.Before.start_le {left : GroupingObjectiveAuthority}
    (before : left.Before right) : left.startUtc ≤ right.startUtc := by
  unfold GroupingObjectiveAuthority.Before at before
  omega

theorem sweep_eq {components : List (List GroupingTaskAuthority)}
    (advancing : components.Pairwise fun first second =>
      componentStart first ≤ componentStart second) :
    affectedObjectives snapshot
        (snapshot.objectives.insertionSort GroupingObjectiveAuthority.Before) components =
      components.map fun component => (component, affectedBy snapshot component) :=
  affectedObjectives_eq ((List.pairwise_insertionSort GroupingObjectiveAuthority.Before _).imp
      GroupingObjectiveAuthority.Before.start_le) advancing
    fun _ listed _ _ _ => (List.mem_insertionSort _).mpr listed

/-- A candidate comes from a component and the Objectives it affects. -/
theorem exists_component_of_candidate (found : candidate ∈ snapshotCandidates snapshot origin) :
    ∃ splitIds, ∃ component ∈ strictOverlapComponents snapshot.tasks,
      componentCandidate snapshot splitIds origin component (affectedBy snapshot component) =
        some candidate := by
  have advancing : (strictOverlapComponents snapshot.tasks).Pairwise fun first second =>
      componentStart first ≤ componentStart second := by
    refine (strictOverlapComponents_pairwise snapshot.tasks).imp_of_mem fun first second before => ?_
    exact (before.start_lt (strictOverlapComponents_ne_nil first)
      (strictOverlapComponents_ne_nil second)).le
  rw [snapshotCandidates, componentCandidates, sweep_eq advancing, List.filterMap_map,
    List.mem_filterMap] at found
  exact ⟨_, found⟩

end Scan

theorem mem_of_mem_candidates (ran : candidates python tables origin = .ok found)
    (inside : current ∈ found) :
    ∃ snapshot, tables.loadSnapshot = .ok snapshot ∧
      current.candidate ∈ snapshotCandidates snapshot origin := by
  simp only [candidates, except_ok] at ran
  obtain ⟨snapshot, loaded, _, visited, rfl⟩ := ran
  rw [List.mem_insertionSort] at inside
  obtain ⟨candidate, listed, hashed⟩ := mem_of_image visited inside
  simp only [fingerprinted, except_ok] at hashed
  obtain ⟨_, -, rfl⟩ := hashed
  exact ⟨snapshot, loaded, listed⟩

/-! ## What the branches propose -/

/-- The references of the membership and envelope tables. -/
structure GroupingTables.Linked (tables : GroupingTables) : Prop where
  memberships : ∀ row ∈ tables.tasks.memberships,
    row.objectiveId ∈ tables.tasks.objectives.map (·.objectiveId)
  envelopes : ∀ envelope ∈ tables.tasks.envelopes,
    envelope.objectiveId ∈ tables.tasks.objectives.map (·.objectiveId)

/-- The candidate carries the changes a component proposes. -/
structure RegroupCandidate.Carries (candidate : RegroupCandidate) (changes : ProposedChanges) :
    Prop where
  kind : candidate.proposalKind = changes.proposalKind
  survivor : candidate.survivorObjectiveId = changes.survivorObjectiveId
  tasks : candidate.taskChanges = changes.taskChanges
  objectives : candidate.objectiveChanges = changes.objectiveChanges

/-- The state is as the candidate of a component expects it, and the candidate covers the
component and the Objectives it affects. -/
structure RegroupCandidate.Drawn (identities : RegroupIdentities) (tables : GroupingTables)
    (snapshot : GroupingSnapshot) (component : List GroupingTaskAuthority)
    (affected : List GroupingObjectiveAuthority) (candidate : RegroupCandidate)
    (survivorObjectiveId : String) (objectives : List Objective) : Prop where
  fits : candidate.Fits identities tables.tasks survivorObjectiveId objectives
  changes : ∀ change ∈ candidate.taskChanges, ∃ task ∈ snapshot.tasks,
    task.taskId = change.taskId ∧ change.expectedCurrentPlanRevisionId = task.planRevisionId
  covered : ∀ task ∈ component, ∃ plan, candidate.Pins tables.tasks survivorObjectiveId plan ∧
    plan.startUtc = task.startUtc ∧ plan.endUtc = task.endUtc
  affects : ∀ authority ∈ affected, authority.objectiveId = survivorObjectiveId ∨
    ∃ change ∈ candidate.objectiveChanges, change.action = .supersede ∧
      change.objectiveId = some authority.objectiveId

/-- How the survivor the application writes to follows from the candidate. -/
def SurvivorOf (identities : RegroupIdentities) (tables : GroupingTables)
    (candidate : RegroupCandidate) (survivorObjectiveId : String) (objectives : List Objective) :
    Prop :=
  (candidate.survivorObjectiveId = none ∧ survivorObjectiveId = identities.objectiveId ∧
      objectives = tables.tasks.objectives ++
        [⟨identities.objectiveId, 1, .automaticGrouping, none⟩]) ∨
    (candidate.proposalKind ≠ .create ∧
      candidate.survivorObjectiveId = some survivorObjectiveId ∧
      objectives = tables.tasks.objectives)

section Branches

variable {identities : RegroupIdentities} {tables : GroupingTables} {snapshot : GroupingSnapshot}
  {component : List GroupingTaskAuthority} {affected : List GroupingObjectiveAuthority}
  {candidate : RegroupCandidate}

theorem component_nodup (distinct : (snapshot.tasks.map (·.taskId)).Nodup)
    (listed : component ∈ strictOverlapComponents snapshot.tasks) :
    (component.map (·.taskId)).Nodup := by
  have sorted : ((snapshot.tasks.insertionSort GroupingTaskAuthority.Before).map
      (·.taskId)).Nodup := by
    rwa [((List.perm_insertionSort GroupingTaskAuthority.Before _).map _).nodup_iff]
  rw [← strictOverlapComponents_flatten] at sorted
  exact sorted.sublist ((List.sublist_flatten_of_mem listed).map _)

theorem byTaskId_nodup {tasks : List GroupingTaskAuthority}
    (distinct : (tasks.map (·.taskId)).Nodup) : ((byTaskId tasks).map (·.taskId)).Nodup := by
  rwa [byTaskId, ((List.perm_insertionSort _ _).map _).nodup_iff]

variable {task : GroupingTaskAuthority}

theorem mem_byTaskId : task ∈ byTaskId tasks ↔ task ∈ tasks :=
  List.mem_insertionSort _

/-- A task of the snapshot is as its change expects it. -/
theorem GroupingTaskAuthority.Stands.expects (stands : task.Stands tables)
    (survivorObjectiveId : String) :
    (taskChange (some survivorObjectiveId) (changeKindFor survivorObjectiveId task) task).Expects
      survivorObjectiveId (tables.tasks.membership? task.taskId) where
  objective := stands.objective
  revision := stands.revision
  unchanged same := by
    have kind : changeKindFor survivorObjectiveId task = .unchangedContext := same
    rw [changeKindFor] at kind
    split at kind
    case isTrue => cases kind
    case isFalse member =>
      split at kind
      case isTrue => cases kind
      case isFalse own =>
        split at kind
        case isTrue => cases kind
        case isFalse pinned =>
          rw [not_not] at own pinned
          rw [stands.objective] at own
          rw [stands.pinned] at pinned
          obtain ⟨row, found, owner⟩ := Option.map_eq_some_iff.mp own
          rw [found, Option.map_some, Option.some.injEq] at pinned
          exact ⟨row, found, owner, pinned⟩

theorem GroupingTaskAuthority.Stands.pins (stands : task.Stands tables)
    (survivorObjectiveId : String) (inside : change ∈ candidate.taskChanges)
    (same : change.expectedCurrentPlanRevisionId = task.planRevisionId) :
    ∃ plan, candidate.Pins tables.tasks survivorObjectiveId plan ∧
      plan.startUtc = task.startUtc ∧ plan.endUtc = task.endUtc := by
  obtain ⟨plan, listed, named, span⟩ := stands.plan
  exact ⟨plan, ⟨listed, .inl ⟨change, inside, named.trans same.symm⟩⟩, span⟩

/-- The change of a task that has no membership. -/
def createdChange (task : GroupingTaskAuthority) : GroupingTaskChange :=
  { taskChange none .add task with fromObjectiveId := none, expectedMembershipRevision := none }

theorem createChanges_tasks :
    (createChanges component).taskChanges = (byTaskId component).map createdChange :=
  rfl

theorem createdChange_expects (none : current = none) (survivorObjectiveId : String) :
    (createdChange task).Expects survivorObjectiveId current where
  objective := by
    rw [none]
    rfl
  revision := by
    rw [none]
    rfl
  unchanged impossible := by cases impossible

/-- A component that touches no Objective is joined to a new one. -/
theorem drawn_create (keyed : tables.Keyed) (linked : tables.Linked)
    (fresh : identities.objectiveId ∉ tables.tasks.objectives.map (·.objectiveId))
    (loaded : tables.loadSnapshot = .ok snapshot)
    (listed : component ∈ strictOverlapComponents snapshot.tasks)
    (carries : candidate.Carries (createChanges component))
    (alone : ∀ task ∈ component, task.membershipObjectiveId = none) :
    candidate.Drawn identities tables snapshot component [] identities.objectiveId
      (tables.tasks.objectives ++ [⟨identities.objectiveId, 1, .automaticGrouping, none⟩]) := by
  obtain ⟨kind, -, tasks, objectives⟩ := carries
  have creates : candidate.proposalKind = .create := kind
  have changed (change : GroupingTaskChange) (inside : change ∈ candidate.taskChanges) :
      ∃ task ∈ component, createdChange task = change := by
    rw [tasks, createChanges_tasks] at inside
    obtain ⟨task, taskIn, rfl⟩ := List.mem_map.mp inside
    exact ⟨task, mem_byTaskId.mp taskIn, rfl⟩
  have covered : ∀ task ∈ component, ∃ plan,
      candidate.Pins tables.tasks identities.objectiveId plan ∧
        plan.startUtc = task.startUtc ∧ plan.endUtc = task.endUtc := by
    intro task inside
    have stands := stands_of_mem loaded (mem_of_mem_component listed inside)
    have made : createdChange task ∈ candidate.taskChanges := by
      rw [tasks, createChanges_tasks]
      exact List.mem_map_of_mem (mem_byTaskId.mpr inside)
    exact stands.pins _ made rfl
  constructor
  · constructor
    · rw [openSurvivor, if_pos creates]
      exact except_bind_ok.mpr ⟨(), ensure_ok.mpr fresh, rfl⟩
    · exact keyed.memberships
    · exact Rows.nodup_concat keyed.objectives fresh
    · exact keyed.envelopes
    · rw [tasks, createChanges_tasks, List.map_map]
      exact byTaskId_nodup (component_nodup (snapshot_tasks_nodup keyed loaded) listed)
    · intro change inside
      obtain ⟨task, taskIn, rfl⟩ := changed change inside
      have stands := stands_of_mem loaded (mem_of_mem_component listed taskIn)
      have none := stands.objective
      rw [alone task taskIn, eq_comm, Option.map_eq_none_iff] at none
      exact createdChange_expects none _
    · rw [objectives]
      exact List.nodup_singleton _
    · intro change inside
      rw [objectives] at inside
      obtain rfl := List.mem_singleton.mp inside
      rintro objectiveId ⟨⟩
    · exact ⟨_, List.mem_concat_self, rfl, rfl⟩
    · rw [EnvelopeExpected, if_pos creates]
      intro inside
      obtain ⟨envelope, envelopeIn, same⟩ := List.mem_map.mp inside
      exact fresh (same ▸ linked.envelopes envelope envelopeIn)
    · obtain ⟨task, inside⟩ := List.exists_mem_of_ne_nil _ (strictOverlapComponents_ne_nil listed)
      obtain ⟨plan, pinned, -⟩ := covered task inside
      exact ⟨plan, pinned⟩
  · intro change inside
    obtain ⟨task, taskIn, rfl⟩ := changed change inside
    exact ⟨task, mem_of_mem_component listed taskIn, rfl, rfl⟩
  · exact covered
  · simp

theorem exists_rows_of_mem (inside : authority ∈ tables.objectiveAuthorities) :
    (∃ objective ∈ tables.tasks.objectives, objective.objectiveId = authority.objectiveId ∧
      objective.revision = authority.revision ∧ objective.supersededByObjectiveId = none) ∧
    ∃ envelope ∈ tables.tasks.envelopes, envelope.objectiveId = authority.objectiveId ∧
      envelope.revision = authority.envelopeRevision ∧
      envelope.startUtc = authority.startUtc ∧ envelope.endUtc = authority.endUtc := by
  obtain ⟨objective, objectiveIn, current, envelope, envelopeIn, same, -, -, -, rfl⟩ :=
    GroupingTables.mem_objectiveAuthorities.mp inside
  exact ⟨⟨objective, objectiveIn, rfl, rfl, current⟩, envelope, envelopeIn, same, rfl, rfl, rfl⟩

/-- The change of an affected Objective. -/
def objectiveChange (action : GroupingObjectiveAuthority → ObjectiveAction)
    (authority : GroupingObjectiveAuthority) : GroupingObjectiveChange :=
  ⟨some authority.objectiveId, action authority, some authority.revision,
    some authority.envelopeRevision⟩

/-- The changes of a component that keeps a survivor among the Objectives it affects. -/
structure RegroupCandidate.Regroups (candidate : RegroupCandidate) (snapshot : GroupingSnapshot)
    (component : List GroupingTaskAuthority) (affected : List GroupingObjectiveAuthority)
    (survivor : GroupingObjectiveAuthority) (changed : List GroupingTaskAuthority)
    (action : GroupingObjectiveAuthority → ObjectiveAction) : Prop where
  kind : candidate.proposalKind ≠ .create
  survivorId : candidate.survivorObjectiveId = some survivor.objectiveId
  tasks : candidate.taskChanges = changed.map fun task =>
    taskChange (some survivor.objectiveId) (changeKindFor survivor.objectiveId task) task
  objectives : candidate.objectiveChanges = affected.map (objectiveChange action)
  survives : survivor ∈ affected
  supersedes : ∀ authority ∈ affected,
    authority.objectiveId = survivor.objectiveId ↔ action authority ≠ .supersede
  distinct : (changed.map (·.taskId)).Nodup
  taken : ∀ task ∈ changed, task ∈ snapshot.tasks
  covers : ∀ task ∈ component,
    task ∈ changed ∨ changeKindFor survivor.objectiveId task = .unchangedContext

variable {survivor : GroupingObjectiveAuthority}

/-- A component that keeps a survivor finds the state as it expects it. -/
theorem drawn_of_regroups (keyed : tables.Keyed) (loaded : tables.loadSnapshot = .ok snapshot)
    (listed : component ∈ strictOverlapComponents snapshot.tasks)
    (known : affected.Sublist snapshot.objectives)
    {action : GroupingObjectiveAuthority → ObjectiveAction}
    (regroups : candidate.Regroups snapshot component affected survivor changed action) :
    candidate.Drawn identities tables snapshot component affected survivor.objectiveId
      tables.tasks.objectives := by
  obtain ⟨kind, survivorId, tasks, objectives, survives, supersedes, distinct, taken, covers⟩ :=
    regroups
  rw [snapshot_objectives loaded] at known
  have affectedIds : (affected.map (·.objectiveId)).Nodup :=
    (objectiveAuthorities_nodup keyed).sublist (known.map _)
  have changeIds : (candidate.objectiveChanges.map (·.objectiveId)).Nodup := by
    have named : candidate.objectiveChanges.map (·.objectiveId) =
        (affected.map (·.objectiveId)).map some := by
      rw [objectives, List.map_map, List.map_map]
      rfl
    rw [named]
    exact affectedIds.map (Option.some_injective _)
  have stands (task : GroupingTaskAuthority) (inside : task ∈ changed) : task.Stands tables :=
    stands_of_mem loaded (taken task inside)
  have changedIds : candidate.taskChanges.map (·.taskId) = changed.map (·.taskId) := by
    rw [tasks, List.map_map]
    rfl
  have covered : ∀ task ∈ component, ∃ plan,
      candidate.Pins tables.tasks survivor.objectiveId plan ∧
        plan.startUtc = task.startUtc ∧ plan.endUtc = task.endUtc := by
    intro task inside
    have snapshotTask := mem_of_mem_component listed inside
    have standing := stands_of_mem loaded snapshotTask
    by_cases moves : task ∈ changed
    · have made : taskChange (some survivor.objectiveId)
          (changeKindFor survivor.objectiveId task) task ∈ candidate.taskChanges := by
        rw [tasks]
        exact List.mem_map.mpr ⟨task, moves, rfl⟩
      exact standing.pins _ made rfl
    · -- the task is a member of the survivor already, pinned to its current plan
      obtain ⟨row, found, member, pinned⟩ := (standing.expects survivor.objectiveId).unchanged
        ((covers task inside).resolve_left moves)
      have named : row.taskId = task.taskId := by simpa using List.find?_some found
      obtain ⟨plan, planIn, planned, span⟩ := standing.plan
      refine ⟨plan, ⟨planIn, .inr ⟨row, List.mem_of_find?_eq_some found, member, ?_, ?_⟩⟩, span⟩
      · rw [changedIds, named]
        intro clash
        obtain ⟨other, otherIn, same⟩ := List.mem_map.mp clash
        have equal := List.inj_on_of_nodup_map (snapshot_tasks_nodup keyed loaded)
          (taken other otherIn) snapshotTask same
        exact moves (equal ▸ otherIn)
      · exact planned.trans pinned.symm
  obtain ⟨⟨objective, objectiveIn, objectiveNamed, -, current⟩, envelope, envelopeIn,
    envelopeNamed, envelopeRevision, -⟩ := exists_rows_of_mem (known.subset survives)
  constructor
  · constructor
    · rw [openSurvivor, if_neg kind, survivorId]
      rfl
    · exact keyed.memberships
    · exact keyed.objectives
    · exact keyed.envelopes
    · rw [changedIds]
      exact distinct
    · intro change inside
      rw [tasks] at inside
      obtain ⟨task, taskIn, rfl⟩ := List.mem_map.mp inside
      exact (stands task taskIn).expects survivor.objectiveId
    · exact changeIds
    · intro change inside objectiveId same
      rw [objectives] at inside
      obtain ⟨authority, authorityIn, rfl⟩ := List.mem_map.mp inside
      obtain rfl : authority.objectiveId = objectiveId := Option.some.inj same
      obtain ⟨⟨row, rowIn, rowNamed, revision, standing⟩, -⟩ :=
        exists_rows_of_mem (known.subset authorityIn)
      exact ⟨supersedes authority authorityIn, row, rowIn, rowNamed, congrArg some revision,
        standing⟩
    · exact ⟨objective, objectiveIn, objectiveNamed, current⟩
    · rw [EnvelopeExpected, if_neg kind]
      have own : objectiveChange action survivor ∈ candidate.objectiveChanges := by
        rw [objectives]
        exact List.mem_map_of_mem survives
      have found : candidate.objectiveChanges.find? (·.objectiveId = some survivor.objectiveId) =
          some (objectiveChange action survivor) := Rows.find?_eq_some changeIds own
      rw [found]
      exact ⟨envelope, envelopeIn, envelopeNamed, congrArg some envelopeRevision.symm⟩
    · obtain ⟨task, inside⟩ := List.exists_mem_of_ne_nil _ (strictOverlapComponents_ne_nil listed)
      obtain ⟨plan, pinned, -⟩ := covered task inside
      exact ⟨plan, pinned⟩
  · intro change inside
    rw [tasks] at inside
    obtain ⟨task, taskIn, rfl⟩ := List.mem_map.mp inside
    exact ⟨task, taken task taskIn, rfl, rfl⟩
  · exact covered
  · intro authority inside
    by_cases own : authority.objectiveId = survivor.objectiveId
    · exact .inl own
    · refine .inr ⟨objectiveChange action authority, ?_, ?_, rfl⟩
      · rw [objectives]
        exact List.mem_map_of_mem inside
      · exact not_not.mp fun other => own ((supersedes authority inside).mpr other)

theorem regroups_of_single (distinct : (snapshot.tasks.map (·.taskId)).Nodup)
    (listed : component ∈ strictOverlapComponents snapshot.tasks)
    (proposed : singleChanges component survivor = some changes)
    (carries : candidate.Carries changes) :
    candidate.Regroups snapshot component [survivor] survivor
      ((byTaskId component).filter fun task =>
        changeKindFor survivor.objectiveId task ≠ .unchangedContext)
      fun _ => .envelopeChange := by
  obtain ⟨kind, survivorId, tasks, objectives⟩ := carries
  rw [singleChanges] at proposed
  split at proposed
  case isTrue => cases proposed
  case isFalse =>
    obtain rfl := Option.some.inj proposed
    refine ⟨?_, survivorId, tasks, objectives, List.mem_singleton_self _, ?_, ?_, ?_, ?_⟩
    · rw [kind]
      split
      · rintro ⟨⟩
      · split <;> rintro ⟨⟩
    · intro authority inside
      rw [List.mem_singleton.mp inside]
      exact iff_of_true rfl (by decide)
    · exact (byTaskId_nodup (component_nodup distinct listed)).sublist (List.filter_sublist.map _)
    · intro task inside
      exact mem_of_mem_component listed (mem_byTaskId.mp (List.mem_filter.mp inside).1)
    · intro task inside
      by_cases same : changeKindFor survivor.objectiveId task = .unchangedContext
      · exact .inr same
      · exact .inl (List.mem_filter.mpr ⟨mem_byTaskId.mpr inside, decide_eq_true same⟩)

theorem regroups_of_consolidate (distinct : (snapshot.tasks.map (·.taskId)).Nodup)
    (listed : component ∈ strictOverlapComponents snapshot.tasks) (survives : survivor ∈ affected)
    (proposed : consolidateChanges snapshot component survivor affected = some changes)
    (carries : candidate.Carries changes) :
    ∃ changed, candidate.Regroups snapshot component affected survivor changed fun objective =>
      if objective.objectiveId = survivor.objectiveId then .retain else .supersede := by
  obtain ⟨kind, survivorId, tasks, objectives⟩ := carries
  rw [consolidateChanges] at proposed
  split at proposed
  case isTrue => cases proposed
  case isFalse =>
    obtain rfl := Option.some.inj proposed
    refine ⟨_, ?_, survivorId, tasks, objectives, survives, ?_, ?_, ?_, ?_⟩
    · rw [kind]
      rintro ⟨⟩
    · intro authority _
      split
      · exact iff_of_true ‹_› (by decide)
      · exact iff_of_false ‹_› (by decide)
    · exact byTaskId_nodup (distinct.sublist (List.filter_sublist.map _))
    · intro task inside
      exact (List.mem_filter.mp (mem_byTaskId.mp inside)).1
    · intro task inside
      refine .inl (mem_byTaskId.mpr (List.mem_filter.mpr
        ⟨mem_of_mem_component listed inside, decide_eq_true (.inl inside)⟩))

/-- The sweep over the Objectives equals filtering all Objectives for each component, whatever
the envelopes: it hands each component the Objectives that strictly overlap its hull together
with those its members belong to, and the candidates are made from these. -/
theorem objective_sweep_filters (snapshot : GroupingSnapshot)
    (components : List (List GroupingTaskAuthority))
    (advancing : components.Pairwise fun first second =>
      componentStart first ≤ componentStart second) :
    affectedObjectives snapshot
        (snapshot.objectives.insertionSort GroupingObjectiveAuthority.Before) components =
      components.map (fun component => (component, affectedBy snapshot component)) ∧
    ∀ splitIds origin, componentCandidates snapshot splitIds origin components =
      components.filterMap fun component =>
        componentCandidate snapshot splitIds origin component (affectedBy snapshot component) := by
  refine ⟨sweep_eq advancing, fun splitIds origin => ?_⟩
  rw [componentCandidates, sweep_eq advancing, List.filterMap_map]
  rfl

def sweptTask (taskId : String) (startUtc endUtc : Nat) (ordered : startUtc < endUtc) :
    GroupingTaskAuthority :=
  ⟨taskId, 1, "plan/" ++ taskId, 1, startUtc, endUtc, none, none, none, false, .notStarted, none,
    none, none, none, ordered⟩

/-- An envelope that reaches over two components that touch. -/
def sweptSnapshot : GroupingSnapshot where
  tasks := [sweptTask "first" 0 10 (by decide), sweptTask "second" 10 20 (by decide)]
  objectives := [⟨"long", 1, 1, 1, 5, 15, .planned, .manual⟩]

theorem objective_sweep_filters_touching :
    affectedObjectives sweptSnapshot
        (sweptSnapshot.objectives.insertionSort GroupingObjectiveAuthority.Before)
        (sweptSnapshot.tasks.map ([·])) =
      (sweptSnapshot.tasks.map ([·])).map fun component => (component, sweptSnapshot.objectives) :=
  (objective_sweep_filters sweptSnapshot (sweptSnapshot.tasks.map ([·])) (by decide)).1

theorem componentCandidate_some
    (found : componentCandidate snapshot splitIds origin component affected = some candidate) :
    ∃ changes, proposedChanges snapshot component affected = some changes ∧
      candidate.Carries changes ∧
      (∀ task, task ∈ candidate.materialTasks ↔
        task ∈ snapshot.tasks ∧ task.taskId ∈ candidate.taskChanges.map (·.taskId)) ∧
      candidate.componentStartUtc = componentStart component ∧
      candidate.componentEndUtc = componentEnd component := by
  rw [componentCandidate] at found
  split at found
  case isTrue => cases found
  case isFalse =>
    obtain ⟨changes, proposed, rfl⟩ := Option.map_eq_some_iff.mp found
    refine ⟨changes, proposed, ⟨rfl, rfl, rfl, rfl⟩, fun task => ?_, rfl, rfl⟩
    rw [mem_byTaskId, List.mem_filter, decide_eq_true_eq]

/-- Every candidate finds the state as it expects it. -/
theorem exists_drawn (keyed : tables.Keyed) (linked : tables.Linked)
    (fresh : identities.objectiveId ∉ tables.tasks.objectives.map (·.objectiveId))
    (loaded : tables.loadSnapshot = .ok snapshot)
    (listed : component ∈ strictOverlapComponents snapshot.tasks)
    (proposed : proposedChanges snapshot component (affectedBy snapshot component) =
      some changes) (carries : candidate.Carries changes) :
    ∃ survivorObjectiveId objectives,
      candidate.Drawn identities tables snapshot component (affectedBy snapshot component)
        survivorObjectiveId objectives ∧
      SurvivorOf identities tables candidate survivorObjectiveId objectives := by
  have distinct := snapshot_tasks_nodup keyed loaded
  have known : (affectedBy snapshot component).Sublist snapshot.objectives :=
    List.filter_sublist
  have members (task : GroupingTaskAuthority) (inside : task ∈ component) (objectiveId : String)
      (member : task.membershipObjectiveId = some objectiveId) :
      ∃ authority ∈ affectedBy snapshot component, authority.objectiveId = objectiveId := by
    have stands := stands_of_mem loaded (mem_of_mem_component listed inside)
    rw [stands.objective] at member
    obtain ⟨row, found, rfl⟩ := Option.map_eq_some_iff.mp member
    obtain ⟨authority, _, same⟩ := stands.listed row found
    refine ⟨authority, List.mem_filter.mpr ⟨?_, decide_eq_true (.inr ⟨task, inside, ?_⟩)⟩, same⟩
    · rwa [snapshot_objectives loaded]
    · rw [same, stands.objective, found]
      rfl
  generalize affectedBy snapshot component = affected at *
  match affected, proposed with
  | [], proposed =>
    obtain rfl := Option.some.inj proposed
    refine ⟨_, _, drawn_create keyed linked fresh loaded listed carries ?_,
      .inl ⟨carries.survivor, rfl, rfl⟩⟩
    intro task inside
    rw [Option.eq_none_iff_forall_ne_some]
    intro objectiveId member
    obtain ⟨authority, impossible, -⟩ := members task inside objectiveId member
    cases impossible
  | [survivor], proposed =>
    have regroups := regroups_of_single distinct listed proposed carries
    exact ⟨_, _, drawn_of_regroups keyed loaded listed known regroups,
      .inr ⟨regroups.kind, regroups.survivorId, rfl⟩⟩
  | survivor :: other :: rest, proposed =>
    obtain ⟨_, regroups⟩ :=
      regroups_of_consolidate distinct listed List.mem_cons_self proposed carries
    exact ⟨_, _, drawn_of_regroups keyed loaded listed known regroups,
      .inr ⟨regroups.kind, regroups.survivorId, rfl⟩⟩

end Branches

/-! ## Clearance -/

/-- The envelopes of the Objectives that are not superseded are the hulls of their members'
pinned plans and do not overlap. -/
structure TaskRows.EnvelopesSound (rows : TaskRows) : Prop where
  apart : ∀ one ∈ rows.envelopes, ∀ other ∈ rows.envelopes,
    one.objectiveId ≠ other.objectiveId → Standing rows.objectives one.objectiveId →
      Standing rows.objectives other.objectiveId →
        ¬ (one.startUtc < other.endUtc ∧ other.startUtc < one.endUtc)
  hull : ∀ envelope ∈ rows.envelopes, Standing rows.objectives envelope.objectiveId →
    planHull (rows.memberPlans envelope.objectiveId) = some (envelope.startUtc, envelope.endUtc)

/-- The candidate leaves the Objective as it is. -/
def RegroupCandidate.Spares (candidate : RegroupCandidate) (objectiveId : String) : Prop :=
  candidate.survivorObjectiveId ≠ some objectiveId ∧
    ∀ change ∈ candidate.objectiveChanges, change.action = .supersede →
      change.objectiveId ≠ some objectiveId

/-- The envelope lies between the component of the candidate and a plan. -/
def RegroupCandidate.Separated (candidate : RegroupCandidate) (envelope : ObjectiveEnvelope)
    (startUtc endUtc : Nat) : Prop :=
  (candidate.componentEndUtc ≤ envelope.startUtc ∧ envelope.endUtc ≤ startUtc) ∨
    (endUtc ≤ envelope.startUtc ∧ envelope.endUtc ≤ candidate.componentStartUtc)

/-- An Objective that is left alone is out of the way: it is in the snapshot or beside the
component, not between the component and a plan the survivor keeps, and neither on nor
beyond which lies the current plan of a changed task. -/
structure RegroupCandidate.ClearOf (tables : GroupingTables) (candidate : RegroupCandidate)
    (envelope : ObjectiveEnvelope) : Prop where
  listed : (∃ aggregate ∈ tables.tasks.aggregates,
      aggregate.objectiveId = envelope.objectiveId) ∨
    ¬ (envelope.startUtc < candidate.componentEndUtc ∧
      candidate.componentStartUtc < envelope.endUtc)
  kept : ∀ row ∈ tables.tasks.memberships, candidate.survivorObjectiveId = some row.objectiveId →
    row.taskId ∉ candidate.taskChanges.map (·.taskId) →
    ∀ plan ∈ tables.tasks.planRevisions, plan.planRevisionId = row.acceptedPlanRevisionId →
      ¬ candidate.Separated envelope plan.startUtc plan.endUtc
  changed : ∀ task ∈ candidate.materialTasks,
    ¬ (envelope.startUtc < task.endUtc ∧ task.startUtc < envelope.endUtc) ∧
      ¬ candidate.Separated envelope task.startUtc task.endUtc

section Clearance

variable {identities : RegroupIdentities} {tables : GroupingTables} {snapshot : GroupingSnapshot}
  {component : List GroupingTaskAuthority} {candidate : RegroupCandidate}

variable {envelope : ObjectiveEnvelope}

theorem mem_snapshot_of_envelope (listed : envelope ∈ tables.tasks.envelopes)
    (standing : Standing tables.tasks.objectives envelope.objectiveId)
    (aggregated : ∃ aggregate ∈ tables.tasks.aggregates,
      aggregate.objectiveId = envelope.objectiveId) :
    ∃ authority ∈ tables.objectiveAuthorities, authority.objectiveId = envelope.objectiveId ∧
      authority.startUtc = envelope.startUtc ∧ authority.endUtc = envelope.endUtc := by
  obtain ⟨objective, objectiveIn, same, current⟩ := standing
  obtain ⟨aggregate, aggregateIn, named⟩ := aggregated
  refine ⟨_, GroupingTables.mem_objectiveAuthorities.mpr ⟨objective, objectiveIn, current, envelope,
    listed, same.symm, aggregate, aggregateIn, named.trans same.symm, rfl⟩, same, rfl, rfl⟩

variable {survivorObjectiveId : String} {objectives : List Objective}

/-- The Objectives an application leaves alone are those the candidate spares. -/
theorem left_alone_iff (linked : tables.Linked)
    (fresh : identities.objectiveId ∉ tables.tasks.objectives.map (·.objectiveId))
    (survivor : SurvivorOf identities tables candidate survivorObjectiveId objectives)
    (listed : envelope ∈ tables.tasks.envelopes) :
    (envelope.objectiveId ≠ survivorObjectiveId ∧ Standing objectives envelope.objectiveId ∧
        ∀ change ∈ candidate.objectiveChanges, change.action = .supersede →
          change.objectiveId ≠ some envelope.objectiveId) ↔
      Standing tables.tasks.objectives envelope.objectiveId ∧
        candidate.Spares envelope.objectiveId := by
  rw [RegroupCandidate.Spares]
  rcases survivor with ⟨none, rfl, rfl⟩ | ⟨-, own, rfl⟩
  · have old : envelope.objectiveId ≠ identities.objectiveId := fun same =>
      fresh (same ▸ linked.envelopes envelope listed)
    have standing : Standing (tables.tasks.objectives ++
        [⟨identities.objectiveId, 1, .automaticGrouping, Option.none⟩]) envelope.objectiveId ↔
          Standing tables.tasks.objectives envelope.objectiveId := by
      constructor
      · rintro ⟨objective, inside, same, current⟩
        rcases Rows.mem_concat inside with before | added
        · exact ⟨objective, before, same, current⟩
        · rw [added] at same
          exact absurd same.symm old
      · rintro ⟨objective, inside, same, current⟩
        exact ⟨objective, List.mem_append_left _ inside, same, current⟩
    rw [standing, none]
    simp [old]
  · rw [own, ne_eq, ne_eq, Option.some.injEq, eq_comm (a := survivorObjectiveId)]
    tauto

variable {affected : List GroupingObjectiveAuthority}

theorem mem_materialTasks_of_change (keyed : tables.Keyed)
    (loaded : tables.loadSnapshot = .ok snapshot)
    (drawn : candidate.Drawn identities tables snapshot component affected survivorObjectiveId
      objectives) (material : ∀ task, task ∈ candidate.materialTasks ↔
      task ∈ snapshot.tasks ∧ task.taskId ∈ candidate.taskChanges.map (·.taskId))
    (inside : change ∈ candidate.taskChanges) (planIn : plan ∈ tables.tasks.planRevisions)
    (named : plan.planRevisionId = change.expectedCurrentPlanRevisionId) :
    ∃ task ∈ candidate.materialTasks,
      plan.startUtc = task.startUtc ∧ plan.endUtc = task.endUtc := by
  obtain ⟨task, taskIn, same, current⟩ := drawn.changes change inside
  obtain ⟨own, ownIn, ownNamed, starts, ends⟩ := (stands_of_mem loaded taskIn).plan
  obtain rfl : plan = own := List.inj_on_of_nodup_map keyed.planRevisions planIn ownIn
    (named.trans (current.trans ownNamed.symm))
  exact ⟨task, (material task).mpr ⟨taskIn, List.mem_map.mpr ⟨change, inside, same.symm⟩⟩, starts,
    ends⟩

theorem material_of_mem (keyed : tables.Keyed) (loaded : tables.loadSnapshot = .ok snapshot)
    (drawn : candidate.Drawn identities tables snapshot component affected survivorObjectiveId
      objectives) (material : ∀ task, task ∈ candidate.materialTasks ↔
      task ∈ snapshot.tasks ∧ task.taskId ∈ candidate.taskChanges.map (·.taskId))
    (inside : task ∈ candidate.materialTasks) :
    ∃ plan, candidate.Pins tables.tasks survivorObjectiveId plan ∧
      plan.startUtc = task.startUtc ∧ plan.endUtc = task.endUtc := by
  obtain ⟨taskIn, changed⟩ := (material task).mp inside
  obtain ⟨change, changeIn, same⟩ := List.mem_map.mp changed
  obtain ⟨other, otherIn, otherNamed, current⟩ := drawn.changes change changeIn
  obtain rfl : other = task := List.inj_on_of_nodup_map (snapshot_tasks_nodup keyed loaded) otherIn
    taskIn (otherNamed.trans same)
  exact (stands_of_mem loaded taskIn).pins survivorObjectiveId changeIn current

theorem component_within_hull {hull : Nat × Nat}
    (listed : component ∈ strictOverlapComponents snapshot.tasks)
    (drawn : candidate.Drawn identities tables snapshot component affected survivorObjectiveId
      objectives)
    (pinned : ∀ plan, plan ∈ plans ↔ candidate.Pins tables.tasks survivorObjectiveId plan)
    (spans : Intervals.IsHull TaskPlanRecord.startUtc TaskPlanRecord.endUtc plans hull.1 hull.2) :
    hull.1 ≤ componentStart component ∧ componentEnd component ≤ hull.2 ∧
      componentStart component < componentEnd component := by
  have some := strictOverlapComponents_ne_nil listed
  obtain ⟨first, firstIn, _⟩ := exists_componentStart some
  obtain ⟨last, lastIn, _⟩ := exists_componentEnd some
  obtain ⟨plan, planPinned, _, -⟩ := drawn.covered first firstIn
  obtain ⟨plan', planPinned', -, _⟩ := drawn.covered last lastIn
  have low := spans.le_start plan ((pinned plan).mpr planPinned)
  have high := spans.stop_le plan' ((pinned plan').mpr planPinned')
  have reach := le_componentEnd firstIn
  have proper := first.ordered
  omega

/-- A plan the survivor keeps lies in its envelope, so it overlaps no other. -/
theorem kept_plan_apart (sound : tables.tasks.EnvelopesSound)
    (fits : candidate.Fits identities tables.tasks survivorObjectiveId objectives)
    (kind : candidate.proposalKind ≠ .create) (same : objectives = tables.tasks.objectives)
    (rowIn : row ∈ tables.tasks.memberships) (member : row.objectiveId = survivorObjectiveId)
    (planIn : plan ∈ tables.tasks.planRevisions)
    (pinned : plan.planRevisionId = row.acceptedPlanRevisionId)
    (envelopeIn : envelope ∈ tables.tasks.envelopes)
    (standing : Standing tables.tasks.objectives envelope.objectiveId)
    (other : envelope.objectiveId ≠ survivorObjectiveId) :
    ¬ (envelope.startUtc < plan.endUtc ∧ plan.startUtc < envelope.endUtc) := by
  have expected := fits.envelope
  rw [EnvelopeExpected, if_neg kind] at expected
  obtain ⟨own, ownIn, rfl, -⟩ := expected
  have current : Standing tables.tasks.objectives own.objectiveId := same ▸ fits.current
  have hull := planHull_isHull (sound.hull own ownIn current)
  have inside : plan ∈ tables.tasks.memberPlans own.objectiveId :=
    TaskRows.mem_memberPlans.mpr ⟨planIn, row, rowIn, member, pinned⟩
  have starts := hull.le_start plan inside
  have ends := hull.stop_le plan inside
  have apart := sound.apart envelope envelopeIn own ownIn other standing current
  intro overlaps
  exact apart ⟨overlaps.1.trans_le ends, starts.trans_lt overlaps.2⟩

/-- An Objective that is left alone keeps clear of the hull exactly when it is out of
the way. -/
theorem clearOf_iff {hull : Nat × Nat} (keyed : tables.Keyed) (linked : tables.Linked)
    (fresh : identities.objectiveId ∉ tables.tasks.objectives.map (·.objectiveId))
    (sound : tables.tasks.EnvelopesSound) (loaded : tables.loadSnapshot = .ok snapshot)
    (listed : component ∈ strictOverlapComponents snapshot.tasks)
    (material : ∀ task, task ∈ candidate.materialTasks ↔
      task ∈ snapshot.tasks ∧ task.taskId ∈ candidate.taskChanges.map (·.taskId))
    (starts : candidate.componentStartUtc = componentStart component)
    (ends : candidate.componentEndUtc = componentEnd component)
    (drawn : candidate.Drawn identities tables snapshot component
      (affectedBy snapshot component) survivorObjectiveId objectives)
    (survivor : SurvivorOf identities tables candidate survivorObjectiveId objectives)
    (pinned : ∀ plan, plan ∈ plans ↔ candidate.Pins tables.tasks survivorObjectiveId plan)
    (spans : Intervals.IsHull TaskPlanRecord.startUtc TaskPlanRecord.endUtc plans hull.1 hull.2)
    (envelopeIn : envelope ∈ tables.tasks.envelopes)
    (standing : Standing tables.tasks.objectives envelope.objectiveId)
    (other : envelope.objectiveId ≠ survivorObjectiveId)
    (spared : ∀ change ∈ candidate.objectiveChanges, change.action = .supersede →
      change.objectiveId ≠ some envelope.objectiveId) :
    ¬ (envelope.startUtc < hull.2 ∧ hull.1 < envelope.endUtc) ↔
      candidate.ClearOf tables envelope := by
  obtain ⟨low, high, span⟩ := component_within_hull listed drawn pinned spans
  have proper : ∀ plan ∈ plans, plan.startUtc < plan.endUtc := fun plan inside =>
    tables.plansOrdered plan ((pinned plan).mp inside).1
  have between : envelope.startUtc < envelope.endUtc := by
    have own := planHull_isHull (sound.hull envelope envelopeIn standing)
    obtain ⟨plan, inside, first⟩ := own.starts
    have ordered := tables.plansOrdered plan (TaskRows.mem_memberPlans.mp inside).1
    have last := own.stop_le plan inside
    exact (first ▸ ordered).trans_le last
  rw [spans.overlap_iff proper span low high between, ← starts, ← ends]
  constructor
  · intro clear
    rw [not_or] at clear
    refine ⟨.inr clear.1, ?_, ?_⟩
    · intro row rowIn member unchanged plan planIn named separated
      rcases survivor with ⟨none, -, -⟩ | ⟨-, own, -⟩
      · rw [none] at member
        cases member
      · obtain rfl := Option.some.inj (own.symm.trans member)
        exact clear.2 ⟨plan, (pinned plan).mpr ⟨planIn, .inr ⟨row, rowIn, rfl, unchanged, named⟩⟩,
          .inr separated⟩
    · intro task taskIn
      obtain ⟨plan, planPinned, first, last⟩ := material_of_mem keyed loaded drawn material taskIn
      rw [← first, ← last]
      constructor
      · intro overlaps
        exact clear.2 ⟨plan, (pinned plan).mpr planPinned, .inl overlaps⟩
      · intro separated
        exact clear.2 ⟨plan, (pinned plan).mpr planPinned, .inr separated⟩
  · rintro ⟨present, kept, changed⟩ (overlaps | ⟨plan, inside, meets⟩)
    · rcases present with aggregated | apart
      · -- the scan finds it, so it is the survivor or gets superseded
        obtain ⟨authority, authorityIn, named, first, last⟩ :=
          mem_snapshot_of_envelope envelopeIn standing aggregated
        rw [starts, ends, ← first, ← last] at overlaps
        rw [← snapshot_objectives loaded] at authorityIn
        have affected : authority ∈ affectedBy snapshot component :=
          List.mem_filter.mpr ⟨authorityIn, decide_eq_true
            (.inl overlaps)⟩
        rcases drawn.affects authority affected with own | ⟨change, changeIn, action, superseded⟩
        · exact other (named.symm.trans own)
        · exact spared change changeIn action (superseded.trans (congrArg some named))
      · exact apart overlaps
    · obtain ⟨planIn, ⟨change, changeIn, named⟩ | ⟨row, rowIn, member, unchanged, named⟩⟩ :=
        (pinned plan).mp inside
      · obtain ⟨task, taskIn, first, last⟩ :=
          mem_materialTasks_of_change keyed loaded drawn material changeIn planIn named
        rw [first, last] at meets
        exact meets.elim (changed task taskIn).1 (changed task taskIn).2
      · rcases survivor with ⟨-, rfl, -⟩ | ⟨kind, own, same⟩
        · exact fresh (member ▸ linked.memberships row rowIn)
        · rcases meets with overlaps | separated
          · exact kept_plan_apart sound drawn.fits kind same rowIn member planIn named envelopeIn
              standing other overlaps
          · exact kept row rowIn (own.trans (congrArg some member.symm)) unchanged plan planIn named
              separated

end Clearance

/-- A candidate can be applied to the state it was made from exactly when every Objective
it leaves alone is out of the way. -/
theorem regroup_candidate_applies_iff (python : PythonLibrary) (tables : GroupingTables)
    (origin : GroupingOrigin) (identities : RegroupIdentities) (keyed : tables.Keyed)
    (linked : tables.Linked)
    (fresh : identities.objectiveId ∉ tables.tasks.objectives.map (·.objectiveId))
    (sound : tables.tasks.EnvelopesSound) (found : List FingerprintedCandidate)
    (ran : candidates python tables origin = .ok found) (current : FingerprintedCandidate)
    (inside : current ∈ found) :
    current.candidate.Applies identities tables.tasks ↔
      ∀ envelope ∈ tables.tasks.envelopes, Standing tables.tasks.objectives envelope.objectiveId →
        current.candidate.Spares envelope.objectiveId →
          current.candidate.ClearOf tables envelope := by
  obtain ⟨snapshot, loaded, listedCandidate⟩ := mem_of_mem_candidates ran inside
  obtain ⟨splitIds, component, listed, made⟩ := exists_component_of_candidate listedCandidate
  obtain ⟨changes, proposed, carries, material, starts, ends⟩ := componentCandidate_some made
  obtain ⟨survivorObjectiveId, objectives, drawn, survivor⟩ :=
    exists_drawn keyed linked fresh loaded listed proposed carries
  obtain ⟨plans, hull, pinned, spans, applies⟩ := applies_iff_of_fits drawn.fits
  rw [applies]
  refine forall₂_congr fun envelope envelopeIn => ?_
  have alone := left_alone_iff linked fresh survivor envelopeIn
  constructor
  · intro clear standing spares
    obtain ⟨other, current, spared⟩ := alone.mpr ⟨standing, spares⟩
    exact (clearOf_iff keyed linked fresh sound loaded listed material starts ends drawn
      survivor pinned spans envelopeIn standing other spared).mp (clear other current spared)
  · intro clear other current spared
    obtain ⟨standing, spares⟩ := alone.mp ⟨other, current, spared⟩
    exact (clearOf_iff keyed linked fresh sound loaded listed material starts ends drawn
      survivor pinned spans envelopeIn standing other spared).mpr (clear standing spares)

/-- The tables of an Objective with a locked member, whose other member has a new plan
beyond another Objective. -/
def spannedTables : GroupingTables where
  tasks :=
    { tasks := [⟨"held", .localTask, 1⟩, ⟨"moved", .localTask, 1⟩, ⟨"other", .localTask, 1⟩]
      wfmTaskIdentities := []
      planRevisions := [⟨"plan/held", "held", 0, 10⟩, ⟨"plan/moved/1", "moved", 10, 20⟩,
        ⟨"plan/moved/2", "moved", 100, 110⟩, ⟨"plan/other", "other", 50, 60⟩]
      planCurrent := [⟨"held", "plan/held", 1⟩, ⟨"moved", "plan/moved/2", 2⟩,
        ⟨"other", "plan/other", 1⟩]
      executionEvents := []
      executionProjections := []
      outcomeEvents := []
      outcomeCurrent := []
      operationalCountEvents := []
      operationalCountCurrent := []
      lockEvents := []
      lockProjections := [⟨"held", false, true, 1, none⟩]
      sourceProjections := []
      sourceTerminalReviews := []
      objectives := [⟨"spanned", 1, .manual, none⟩, ⟨"between", 1, .manual, none⟩]
      envelopes := [⟨"spanned", 0, 20, 2, 1⟩, ⟨"between", 50, 60, 1, 1⟩]
      membershipEvents := []
      memberships := [⟨"held", "spanned", "plan/held", 1, "event/held"⟩,
        ⟨"moved", "spanned", "plan/moved/1", 1, "event/moved"⟩,
        ⟨"other", "between", "plan/other", 1, "event/other"⟩]
      aggregates := [⟨"spanned", ⟨.planned, none, none, none, none, 2, 0⟩, "", 1⟩,
        ⟨"between", ⟨.planned, none, none, none, none, 1, 0⟩, "", 1⟩]
      objectiveReviews := [] }
  trackingSequence objectiveId := if objectiveId = "spanned" then 1 else 2
  lineages := []
  plansOrdered := by decide

theorem spannedTables_keyed : spannedTables.Keyed := by
  constructor <;> decide

theorem spannedTables_linked : spannedTables.Linked := by
  constructor <;> decide

theorem standing_iff_any :
    Standing objectives objectiveId ↔ (objectives.any fun objective =>
      objective.objectiveId = objectiveId ∧ objective.supersededByObjectiveId = none) = true := by
  simp only [Standing, List.any_eq_true, decide_eq_true_eq]

theorem spannedTables_sound : spannedTables.tasks.EnvelopesSound := by
  constructor
  · simp only [standing_iff_any]
    decide
  · simp only [standing_iff_any]
    decide +kernel

def spannedLibrary : PythonLibrary where
  jsonLoads _ := none
  sha256Hex _ := "9458b5d9474086fb297f83b32b9acadf41531b149dd926372c21cc01ae9a405f"

def spannedIdentities : RegroupIdentities := ⟨"new", fun taskId => "event/new/" ++ taskId⟩

/-- The new plan is to be pinned in the Objective of the task. -/
def spannedCandidate : RegroupCandidate where
  proposalKind := .repin
  origin := .taskPlanChanged
  riskTier := .normal
  survivorObjectiveId := some "spanned"
  taskChanges := [⟨"moved", some "spanned", some "spanned", 1, "plan/moved/2", some 1, .repin⟩]
  objectiveChanges := [⟨some "spanned", .envelopeChange, some 1, some 1⟩]
  materialTasks := [⟨"moved", 1, "plan/moved/2", 2, 100, 110, some "spanned", some "plan/moved/1",
    some 1, false, .notStarted, some "spanned", some 1, some 1, some .planned, by decide⟩]
  materialObjectives := [⟨"spanned", 1, 1, 1, 0, 20, .planned, .manual⟩]
  componentStartUtc := 100
  componentEndUtc := 110

theorem spanned_candidates :
    ((candidates spannedLibrary spannedTables .taskPlanChanged).toOption.map fun found =>
      found.map (·.candidate)) = some [spannedCandidate] := by
  decide +kernel

theorem spanned_blocked :
    (applyRegroup spannedIdentities spannedTables.tasks spannedCandidate).toOption.isSome =
      false := by
  decide +kernel

theorem spanned_found : ∃ found, candidates spannedLibrary spannedTables .taskPlanChanged =
    .ok found ∧ ∃ current ∈ found, current.candidate = spannedCandidate := by
  obtain ⟨found, ran, listed⟩ := Option.map_eq_some_iff.mp spanned_candidates
  have inside : spannedCandidate ∈ found.map (·.candidate) := by
    rw [listed]
    exact List.mem_singleton_self _
  obtain ⟨current, currentIn, same⟩ := List.mem_map.mp inside
  refine ⟨found, ?_, current, currentIn, same⟩
  cases outcome : candidates spannedLibrary spannedTables .taskPlanChanged with
  | error raised =>
    rw [outcome] at ran
    cases ran
  | ok value =>
    rw [outcome] at ran
    exact congrArg _ (Option.some.inj ran)

/-- The Objective between keeps the candidate from being applied. -/
theorem regroup_candidate_applies_spanned :
    ∃ found, candidates spannedLibrary spannedTables .taskPlanChanged = .ok found ∧
      ∃ current ∈ found, ¬ current.candidate.Applies spannedIdentities spannedTables.tasks := by
  obtain ⟨found, ran, current, inside, same⟩ := spanned_found
  refine ⟨found, ran, current, inside, ?_⟩
  rw [regroup_candidate_applies_iff spannedLibrary spannedTables .taskPlanChanged spannedIdentities
    spannedTables_keyed spannedTables_linked (by decide) spannedTables_sound found ran current
    inside, same]
  intro clear
  have between : (⟨"between", 50, 60, 1, 1⟩ : ObjectiveEnvelope) ∈ spannedTables.tasks.envelopes :=
    List.mem_cons_of_mem _ List.mem_cons_self
  have clearOf := clear _ between (standing_iff_any.mpr (by decide))
    ⟨by decide, by decide⟩
  exact clearOf.kept ⟨"held", "spanned", "plan/held", 1, "event/held"⟩ List.mem_cons_self rfl
    (by decide) ⟨"plan/held", "held", 0, 10⟩ List.mem_cons_self rfl (.inr (by decide))

/-- Not every candidate can be applied to the state it was made from. -/
theorem regroup_candidate_blocked :
    ¬ ∀ (python : PythonLibrary) (tables : GroupingTables) (origin : GroupingOrigin)
      (identities : RegroupIdentities), tables.Keyed → tables.Linked →
      identities.objectiveId ∉ tables.tasks.objectives.map (·.objectiveId) →
      tables.tasks.EnvelopesSound → ∀ found, candidates python tables origin = .ok found →
      ∀ current ∈ found, current.candidate.Applies identities tables.tasks := by
  intro every
  obtain ⟨found, ran, current, inside, same⟩ := spanned_found
  obtain ⟨survivorObjectiveId, after, applied, -⟩ := every spannedLibrary spannedTables
    .taskPlanChanged spannedIdentities spannedTables_keyed spannedTables_linked (by decide)
    spannedTables_sound found ran current inside
  rw [same] at applied
  have blocked := spanned_blocked
  rw [applied] at blocked
  cases blocked

end Soma.ObjectivesTasks
