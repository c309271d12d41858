import Mathlib.Data.List.ReduceOption
import Soma.ObjectivesTasks.OverlapComponents
import Soma.Theory.Rows

/-!
The work set of grouping, counted and loaded. `_eligible_workset_count` states
what a task has to meet as one query over outer joins, `_load_snapshot` as an
inner join and a loop that skips; under the primary keys the two pick the same
tasks, so the limit is checked against the tasks the candidates are made of.
-/

namespace Soma.ObjectivesTasks

open Foundation Transaction

/-- The primary keys of the tables grouping reads. -/
structure GroupingTables.Keyed (tables : GroupingTables) : Prop where
  tasks : (tables.tasks.tasks.map (·.taskId)).Nodup
  planRevisions : (tables.tasks.planRevisions.map (·.planRevisionId)).Nodup
  planCurrent : (tables.tasks.planCurrent.map (·.taskId)).Nodup
  objectives : (tables.tasks.objectives.map (·.objectiveId)).Nodup
  envelopes : (tables.tasks.envelopes.map (·.objectiveId)).Nodup
  memberships : (tables.tasks.memberships.map (·.taskId)).Nodup
  aggregates : (tables.tasks.aggregates.map (·.objectiveId)).Nodup

namespace GroupingTables

variable {tables : GroupingTables}

theorem mem_objectiveAuthorities :
    authority ∈ tables.objectiveAuthorities ↔
      ∃ objective ∈ tables.tasks.objectives, objective.supersededByObjectiveId = none ∧
        ∃ envelope ∈ tables.tasks.envelopes, envelope.objectiveId = objective.objectiveId ∧
          ∃ aggregate ∈ tables.tasks.aggregates, aggregate.objectiveId = objective.objectiveId ∧
            authority = ⟨objective.objectiveId, tables.trackingSequence objective.objectiveId,
              objective.revision, envelope.revision, envelope.startUtc, envelope.endUtc,
              aggregate.material.executionState, objective.creationOrigin⟩ := by
  rw [objectiveAuthorities, List.mem_insertionSort]
  simp only [List.mem_flatMap, List.mem_map, List.mem_filter, decide_eq_true_eq]
  constructor
  · rintro ⟨objective, ⟨listed, current⟩, envelope, ⟨envelopeIn, same⟩, aggregate,
      ⟨aggregateIn, same'⟩, rfl⟩
    exact ⟨objective, listed, current, envelope, envelopeIn, same, aggregate, aggregateIn, same',
      rfl⟩
  · rintro ⟨objective, listed, current, envelope, envelopeIn, same, aggregate, aggregateIn, same',
      rfl⟩
    exact ⟨objective, ⟨listed, current⟩, envelope, ⟨envelopeIn, same⟩, aggregate,
      ⟨aggregateIn, same'⟩, rfl⟩

theorem openMembership_iff (keyed : tables.Keyed) {row : ObjectiveMembershipRecord}
    (listed : authority ∈ tables.objectiveAuthorities)
    (named : authority.objectiveId = row.objectiveId) :
    tables.openMembership row = true ↔ closedToGrouping authority = false := by
  obtain ⟨objective, objectiveIn, current, _, _, -, aggregate, aggregateIn, same,
    rfl⟩ := mem_objectiveAuthorities.mp listed
  have foundObjective : tables.tasks.objective? row.objectiveId = some objective := by
    rw [← named]
    exact Rows.find?_eq_some keyed.objectives objectiveIn
  have foundAggregate : tables.tasks.aggregate? row.objectiveId = some aggregate := by
    rw [← named, ← same]
    exact Rows.find?_eq_some keyed.aggregates aggregateIn
  simp only [openMembership, foundObjective, foundAggregate, Option.any_some, closedToGrouping,
    current, decide_eq_true_eq, decide_eq_false_iff_not]
  tauto

/-- What the count asks of a task. -/
def Counted (tables : GroupingTables) (planned : PlannedTask) : Prop :=
  tables.tasks.outcomeCurrent? planned.task.taskId = none ∧
    tables.executionState planned.task.taskId = .notStarted ∧
    tables.providerTerminal planned.task.taskId = false ∧
    tables.membershipLocked planned.task.taskId = false ∧
    (tables.tasks.membership? planned.task.taskId).all tables.openMembership = true ∧
    planned.task.taskId ∉ tables.competingTaskIds

/-- The loop of `_load_snapshot` takes the tasks the count counts. -/
theorem taskAuthority_isSome (keyed : tables.Keyed)
    (ran : tables.taskAuthority tables.objectiveAuthorities planned = .ok taken) :
    taken.isSome ↔ tables.Counted planned := by
  rw [taskAuthority] at ran
  split at ran
  case isTrue skipped =>
    obtain rfl : none = taken := by simpa [pure, Except.pure] using ran
    refine iff_of_false (by simp) fun counted => ?_
    rcases skipped with reviewed | started | terminal | competing
    · exact reviewed counted.1
    · exact started counted.2.1
    · rw [counted.2.2.1] at terminal
      cases terminal
    · exact counted.2.2.2.2.2 competing
  case isFalse eligible =>
    simp only [not_or, not_not] at eligible
    obtain ⟨unreviewed, idle, active, alone⟩ := eligible
    simp only [except_ok, exists_and_left] at ran
    obtain ⟨present, ran⟩ := ran
    -- the membership is of an Objective in the snapshot, or there is none
    have agree : (tables.tasks.membership? planned.task.taskId).all tables.openMembership = true ↔
        ((tables.tasks.membership? planned.task.taskId).bind fun row =>
          tables.objectiveAuthorities.find? (·.objectiveId = row.objectiveId)).any
            closedToGrouping = false := by
      cases membership : tables.tasks.membership? planned.task.taskId with
      | none => simp
      | some row =>
        rw [membership] at present
        rcases present with impossible | found
        · cases impossible
        · obtain ⟨authority, found⟩ := Option.ne_none_iff_exists'.mp found
          rw [Option.bind_some] at found ⊢
          have named : authority.objectiveId = row.objectiveId := by
            simpa using List.find?_some found
          rw [found, Option.all_some, Option.any_some]
          exact openMembership_iff keyed (List.mem_of_find?_eq_some found) named
    split at ran
    case isTrue skipped =>
      obtain rfl : none = taken := by simpa [pure, Except.pure] using ran
      refine iff_of_false (by simp) fun counted => ?_
      rcases skipped with closed | locked
      · rw [agree.mp counted.2.2.2.2.1] at closed
        cases closed
      · rw [counted.2.2.2.1] at locked
        cases locked
    case isFalse kept =>
      simp only [not_or, Bool.not_eq_true] at kept
      have isTaken : taken.isSome := by
        simp only [pure, Except.pure, Except.ok.injEq] at ran
        rw [← ran]
        rfl
      refine iff_of_true isTaken ⟨unreviewed, idle, ?_, kept.2, agree.mpr kept.1, alone⟩
      simpa using active

theorem length_reduceOption {Element Image : Type} {visit : Element → Except Raised (Option Image)}
    {counts : Element → Bool} {elements : List Element} {images : List (Option Image)}
    (visited : List.Forall₂ (fun element image => visit element = .ok image) elements images)
    (agree : ∀ element image, visit element = .ok image → (image.isSome ↔ counts element = true)) :
    images.reduceOption.length = elements.countP counts := by
  induction visited with
  | nil => rfl
  | @cons element image elements images found _ ih =>
    have same := agree element image found
    rw [List.countP_cons, ← ih]
    cases image with
    | none =>
      have skipped : counts element = false := by simpa using same
      rw [List.reduceOption_cons_of_none, skipped]
      rfl
    | some kept =>
      have taken : counts element = true := by simpa using same
      rw [List.reduceOption_cons_of_some, taken]
      rfl

end GroupingTables

/-- The work-set limit is checked against the tasks that are loaded. -/
theorem eligible_workset_is_loaded (tables : GroupingTables) (keyed : tables.Keyed) (count : Nat)
    (snapshot : GroupingSnapshot) (counted : tables.eligibleWorksetCount = .ok count)
    (loaded : tables.loadSnapshot = .ok snapshot) : count = snapshot.tasks.length := by
  simp only [GroupingTables.eligibleWorksetCount, except_ok, exists_and_left] at counted
  obtain ⟨-, rfl⟩ := counted
  simp only [GroupingTables.loadSnapshot, except_ok] at loaded
  obtain ⟨taken, visited, rfl⟩ := loaded
  have length : taken.reduceOption.length = tables.plannedTasks.countP fun planned =>
      decide (planned.task.taskId ∉ tables.competingTaskIds) &&
        decide (tables.tasks.outcomeCurrent? planned.task.taskId = none ∧
          tables.executionState planned.task.taskId = .notStarted ∧
          tables.providerTerminal planned.task.taskId = false ∧
          tables.membershipLocked planned.task.taskId = false ∧
          (tables.tasks.membership? planned.task.taskId).all tables.openMembership) :=
    GroupingTables.length_reduceOption (mapM_ok.mp visited) fun planned image ran => by
      rw [GroupingTables.taskAuthority_isSome keyed ran, GroupingTables.Counted]
      simp only [Bool.and_eq_true, decide_eq_true_eq]
      tauto
  rw [List.length_insertionSort, length, List.countP_filter]

/-- The tables of one planned task in an Objective, and of one whose membership is
locked. -/
def groupedTables : GroupingTables where
  tasks :=
    { tasks := [⟨"open", .localTask, 1⟩, ⟨"held", .localTask, 1⟩]
      wfmTaskIdentities := []
      planRevisions := [⟨"plan/open", "open", 100, 200⟩, ⟨"plan/held", "held", 150, 300⟩]
      planCurrent := [⟨"open", "plan/open", 1⟩, ⟨"held", "plan/held", 1⟩]
      executionEvents := []
      executionProjections := []
      outcomeEvents := []
      outcomeCurrent := []
      operationalCountEvents := []
      operationalCountCurrent := []
      lockEvents := []
      lockProjections := [⟨"held", false, true, 1, none⟩]
      sourceProjections := []
      sourceTerminalReviews := []
      objectives := [⟨"objective", 1, .manual, none⟩]
      envelopes := [⟨"objective", 100, 300, 2, 1⟩]
      membershipEvents := []
      memberships := [⟨"open", "objective", "plan/open", 1, "event/open"⟩,
        ⟨"held", "objective", "plan/held", 1, "event/held"⟩]
      aggregates := [⟨"objective", ⟨.planned, none, none, none, none, 2, 0⟩, "", 1⟩]
      objectiveReviews := [] }
  trackingSequence _ := 1
  lineages := []
  plansOrdered := by decide

theorem groupedTables_keyed : groupedTables.Keyed := by
  constructor <;> decide

/-- Both take the open task only. -/
theorem eligible_workset_is_loaded_grouped :
    ∃ snapshot, groupedTables.loadSnapshot = .ok snapshot ∧ snapshot.tasks.length = 1 := by
  have counted : groupedTables.eligibleWorksetCount = .ok 1 := by decide +kernel
  have loads : groupedTables.loadSnapshot.toOption.isSome = true := by decide +kernel
  cases loaded : groupedTables.loadSnapshot with
  | error raised =>
    rw [loaded] at loads
    cases loads
  | ok snapshot =>
    exact ⟨snapshot, rfl, (eligible_workset_is_loaded groupedTables groupedTables_keyed 1 snapshot
      counted loaded).symm⟩

end Soma.ObjectivesTasks
