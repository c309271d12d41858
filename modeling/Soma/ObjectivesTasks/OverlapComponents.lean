import Mathlib.Data.List.Dedup
import Soma.ObjectivesTasks.RegroupCandidates
import Soma.Theory.Intervals

/-!
The two sweeps of `domain/grouping.py` against what they stand for. The one over
a lineage finds exactly the tasks that overlap another of the lineage, although
it remembers only the task that ends last; the components are exactly the classes
of tasks that chains of overlaps join, and the spans of two of them never overlap.
-/

namespace Soma.ObjectivesTasks

open Intervals

/-! ## Competing tasks -/

/-- The order of `strict_overlap_member_ids` within a lineage. -/
def IntervalBefore (left right : Nat × Nat × String) : Prop :=
  left.1 < right.1 ∨ (left.1 = right.1 ∧ (left.2.1 < right.2.1 ∨
    (left.2.1 = right.2.1 ∧ left.2.2 ≤ right.2.2)))

instance instDecidableIntervalBefore : DecidableRel IntervalBefore :=
  fun _ _ => inferInstanceAs (Decidable (_ ∨ (_ ∧ (_ ∨ (_ ∧ _)))))

instance instTotalIntervalBefore : Std.Total IntervalBefore where
  total left right := by
    have taskIds := String.le_total left.2.2 right.2.2
    unfold IntervalBefore
    rcases Nat.lt_trichotomy left.1 right.1 with starts | starts | starts <;>
      rcases Nat.lt_trichotomy left.2.1 right.2.1 with ends | ends | ends <;> tauto

instance instTransIntervalBefore : IsTrans (Nat × Nat × String) IntervalBefore where
  trans left middle right first second := by
    unfold IntervalBefore at *
    rcases first with first | ⟨starts, first | ⟨ends, first⟩⟩ <;>
      rcases second with second | ⟨starts', second | ⟨ends', second⟩⟩
    all_goals first
      | exact .inr ⟨by omega, .inr ⟨by omega, String.le_trans first second⟩⟩
      | omega

theorem IntervalBefore.start_le (before : IntervalBefore left right) : left.1 ≤ right.1 := by
  unfold IntervalBefore at before
  omega

theorem sweepOverlaps_eq (furthest : Nat × Nat × String) (rest : List (Nat × Nat × String)) :
    sweepOverlaps furthest.2.1 furthest.2.2 rest =
      (sweep (·.1) (·.2.1) furthest rest).map (·.2.2) := by
  induction rest generalizing furthest with
  | nil => rfl
  | cons item rest ih =>
    obtain ⟨startUtc, endUtc, taskId⟩ := item
    rw [sweepOverlaps, sweep, List.map_append]
    congr 1
    · split <;> rfl
    · split
      · exact ih (startUtc, endUtc, taskId)
      · exact ih furthest

/-- Another task of the same lineage strictly overlaps the task. -/
def OverlapsInLineage (intervals : List (String × String × Nat × Nat)) (taskId : String) : Prop :=
  ∃ task ∈ intervals, task.1 = taskId ∧ ∃ other ∈ intervals, other.1 ≠ taskId ∧
    other.2.1 = task.2.1 ∧ task.2.2.1 < other.2.2.2 ∧ other.2.2.1 < task.2.2.2

/-- The members of a lineage as the sweep reads them. -/
def lineageIntervals (intervals : List (String × String × Nat × Nat)) (lineageId : String) :
    List (Nat × Nat × String) :=
  ((intervals.filter (·.2.1 = lineageId)).map fun interval =>
    (interval.2.2.1, interval.2.2.2, interval.1)).insertionSort IntervalBefore

section Lineage

variable {intervals : List (String × String × Nat × Nat)} {lineageId : String}

theorem mem_lineageIntervals :
    item ∈ lineageIntervals intervals lineageId ↔
      (item.2.2, lineageId, item.1, item.2.1) ∈ intervals := by
  rw [lineageIntervals, List.mem_insertionSort, List.mem_map]
  constructor
  · rintro ⟨⟨_, lineage, _, _⟩, inside, rfl⟩
    obtain ⟨listed, same⟩ := List.mem_filter.mp inside
    obtain rfl : lineage = lineageId := of_decide_eq_true same
    exact listed
  · intro listed
    exact ⟨_, List.mem_filter.mpr ⟨listed, decide_eq_true rfl⟩, rfl⟩

theorem lineageIntervals_nodup (distinct : (intervals.map (·.1)).Nodup) :
    ((lineageIntervals intervals lineageId).map (·.2.2)).Nodup := by
  have same : ((lineageIntervals intervals lineageId).map (·.2.2)).Perm
      ((intervals.filter (·.2.1 = lineageId)).map (·.1)) := by
    refine ((List.perm_insertionSort IntervalBefore _).map _).trans ?_
    rw [List.map_map]
    exact .refl _
  rw [same.nodup_iff]
  exact distinct.sublist (List.filter_sublist.map _)

/-- What the sweep of one lineage finds. -/
theorem mem_lineage_sweep (distinct : (intervals.map (·.1)).Nodup)
    (proper : ∀ interval ∈ intervals, interval.2.2.1 < interval.2.2.2)
    (sorted : lineageIntervals intervals lineageId = first :: rest) (taskId : String) :
    taskId ∈ sweepOverlaps first.2.1 first.2.2 rest ↔
      ∃ task ∈ intervals, task.1 = taskId ∧ task.2.1 = lineageId ∧ ∃ other ∈ intervals,
        other.1 ≠ taskId ∧ other.2.1 = lineageId ∧ task.2.2.1 < other.2.2.2 ∧
          other.2.2.1 < task.2.2.2 := by
  have ids : ((lineageIntervals intervals lineageId).map (·.2.2)).Nodup :=
    lineageIntervals_nodup distinct
  have ordered := (List.pairwise_insertionSort IntervalBefore
    ((intervals.filter (·.2.1 = lineageId)).map fun interval =>
      (interval.2.2.1, interval.2.2.2, interval.1))).imp IntervalBefore.start_le
  change (lineageIntervals intervals lineageId).Pairwise _ at ordered
  have listed : ∀ item, item ∈ first :: rest ↔
      (item.2.2, lineageId, item.1, item.2.1) ∈ intervals := by
    intro item
    rw [← sorted, mem_lineageIntervals]
  rw [sorted] at ids ordered
  have found (item : Nat × Nat × String) := @mem_sweep_iff_other _ _ _ _ _ rest first item ordered
    (fun item inside => proper _ ((listed item).mp inside)) ids.of_map
  rw [sweepOverlaps_eq, List.mem_map]
  constructor
  · rintro ⟨item, inside, rfl⟩
    obtain ⟨itemIn, other, otherIn, different, meet⟩ := (found item).mp inside
    refine ⟨_, (listed item).mp itemIn, rfl, rfl, _, (listed other).mp otherIn, ?_, rfl, meet⟩
    exact fun same => different (List.inj_on_of_nodup_map ids otherIn itemIn same)
  · rintro ⟨⟨_, _, taskStart, taskEnd⟩, taskIn, rfl, rfl, ⟨otherId, _, otherStart, otherEnd⟩,
      otherIn, different, rfl, meet⟩
    refine ⟨(taskStart, taskEnd, _), ?_, rfl⟩
    refine (found _).mpr ⟨(listed _).mpr taskIn, (otherStart, otherEnd, otherId),
      (listed _).mpr otherIn, ?_, meet⟩
    intro same
    exact different (congrArg (·.2.2) same)

end Lineage

theorem strictOverlapMemberIds_eq (intervals : List (String × String × Nat × Nat)) :
    strictOverlapMemberIds intervals = (intervals.map (·.2.1)).dedup.flatMap fun lineageId =>
      match lineageIntervals intervals lineageId with
      | [] => []
      | first :: rest => sweepOverlaps first.2.1 first.2.2 rest :=
  rfl

/-- `strict_overlap_member_ids` is the quadratic definition. -/
theorem strict_overlap_member_ids_iff (intervals : List (String × String × Nat × Nat))
    (distinct : (intervals.map (·.1)).Nodup)
    (proper : ∀ interval ∈ intervals, interval.2.2.1 < interval.2.2.2) (taskId : String) :
    taskId ∈ strictOverlapMemberIds intervals ↔ OverlapsInLineage intervals taskId := by
  rw [strictOverlapMemberIds_eq, List.mem_flatMap]
  constructor
  · rintro ⟨lineageId, _, found⟩
    split at found
    case h_1 => cases found
    case h_2 first rest sorted =>
      obtain ⟨task, taskIn, named, same, other, otherIn, different, sibling, meet⟩ :=
        (mem_lineage_sweep distinct proper sorted taskId).mp found
      exact ⟨task, taskIn, named, other, otherIn, different, sibling.trans same.symm, meet⟩
  · rintro ⟨task, taskIn, named, other, otherIn, different, sibling, meet⟩
    refine ⟨task.2.1, List.mem_dedup.mpr (List.mem_map.mpr ⟨task, taskIn, rfl⟩), ?_⟩
    have present : (task.2.2.1, task.2.2.2, task.1) ∈ lineageIntervals intervals task.2.1 :=
      mem_lineageIntervals.mpr taskIn
    split
    case h_1 none => rw [none] at present; cases present
    case h_2 first rest sorted =>
      exact (mem_lineage_sweep distinct proper sorted taskId).mpr
        ⟨task, taskIn, named, rfl, other, otherIn, different, sibling, meet⟩

/-- Touching attempts of a lineage do not compete, overlapping ones do. -/
theorem strict_overlap_member_ids_nested :
    "b" ∈ strictOverlapMemberIds
      [("c", "line", 9, 12), ("b", "line", 2, 5), ("a", "line", 1, 9)] :=
  (strict_overlap_member_ids_iff _ (by decide) (by decide) "b").mpr
    ⟨("b", "line", 2, 5), by decide, rfl, ("a", "line", 1, 9), by decide, by decide, rfl,
      by decide, by decide⟩

/-! ## Components -/

instance instTotalBefore : Std.Total GroupingTaskAuthority.Before where
  total left right := by
    have taskIds := String.le_total left.taskId right.taskId
    unfold GroupingTaskAuthority.Before
    rcases Nat.lt_trichotomy left.startUtc right.startUtc with starts | starts | starts <;>
      rcases Nat.lt_trichotomy left.endUtc right.endUtc with ends | ends | ends <;> tauto

instance instTransBefore : IsTrans GroupingTaskAuthority GroupingTaskAuthority.Before where
  trans left middle right first second := by
    unfold GroupingTaskAuthority.Before at *
    rcases first with first | ⟨starts, first | ⟨ends, first⟩⟩ <;>
      rcases second with second | ⟨starts', second | ⟨ends', second⟩⟩
    all_goals first
      | exact .inr ⟨by omega, .inr ⟨by omega, String.le_trans first second⟩⟩
      | omega

theorem GroupingTaskAuthority.Before.start_le {left : GroupingTaskAuthority}
    (before : left.Before right) : left.startUtc ≤ right.startUtc := by
  unfold GroupingTaskAuthority.Before at before
  omega

/-- The first component is over before the second one starts. -/
def OverBefore (first second : List GroupingTaskAuthority) : Prop :=
  ∀ left ∈ first, ∀ right ∈ second, left.endUtc ≤ right.startUtc

theorem splitComponents_eq (current rest : List GroupingTaskAuthority) (maxEnd : Nat) :
    splitComponents current maxEnd rest =
      split (·.startUtc) (·.endUtc) current maxEnd rest := by
  induction rest generalizing current maxEnd with
  | nil => rfl
  | cons item rest ih =>
    rw [splitComponents, split]
    split
    · exact ih _ _
    · rw [ih]

section Components

variable {tasks component : List GroupingTaskAuthority}

theorem strictOverlapComponents_cases (tasks : List GroupingTaskAuthority) :
    (tasks = [] ∧ strictOverlapComponents tasks = []) ∨
      ∃ first rest, tasks.insertionSort GroupingTaskAuthority.Before = first :: rest ∧
        strictOverlapComponents tasks =
          split (·.startUtc) (·.endUtc) [first] first.endUtc rest := by
  rw [strictOverlapComponents]
  split
  case h_1 none =>
    have sorted := List.perm_insertionSort GroupingTaskAuthority.Before tasks
    rw [none] at sorted
    exact .inl ⟨sorted.nil_eq.symm, rfl⟩
  case h_2 first rest sorted => exact .inr ⟨first, rest, sorted, splitComponents_eq _ _ _⟩

theorem strictOverlapComponents_flatten (tasks : List GroupingTaskAuthority) :
    (strictOverlapComponents tasks).flatten =
      tasks.insertionSort GroupingTaskAuthority.Before := by
  rcases strictOverlapComponents_cases tasks with ⟨rfl, cut⟩ | ⟨first, rest, sorted, cut⟩
  · rw [cut]
    rfl
  · rw [cut, flatten_split, sorted, List.singleton_append]

theorem strictOverlapComponents_pairwise (tasks : List GroupingTaskAuthority) :
    (strictOverlapComponents tasks).Pairwise OverBefore := by
  have ordered := (List.pairwise_insertionSort GroupingTaskAuthority.Before tasks).imp
    GroupingTaskAuthority.Before.start_le
  rcases strictOverlapComponents_cases tasks with ⟨-, cut⟩ | ⟨first, rest, sorted, cut⟩
  · rw [cut]
    exact .nil
  · rw [sorted] at ordered
    rw [cut]
    exact split_pairwise ordered (by simp)

theorem strictOverlapComponents_ne_nil (listed : component ∈ strictOverlapComponents tasks) :
    component ≠ [] := by
  rcases strictOverlapComponents_cases tasks with ⟨-, cut⟩ | ⟨first, rest, -, cut⟩
  · rw [cut] at listed
    cases listed
  · rw [cut] at listed
    exact split_ne_nil (by simp) listed

theorem mem_of_mem_component (listed : component ∈ strictOverlapComponents tasks)
    (inside : task ∈ component) : task ∈ tasks := by
  have found : task ∈ (strictOverlapComponents tasks).flatten :=
    List.mem_flatten.mpr ⟨component, listed, inside⟩
  rwa [strictOverlapComponents_flatten, List.mem_insertionSort] at found

theorem exists_component (listed : task ∈ tasks) :
    ∃ component ∈ strictOverlapComponents tasks, task ∈ component := by
  apply List.mem_flatten.mp
  rwa [strictOverlapComponents_flatten, List.mem_insertionSort]

theorem exists_componentStart (some : component ≠ []) :
    ∃ task ∈ component, task.startUtc = componentStart component := by
  have starts : component.map (·.startUtc) ≠ [] := by simpa using some
  obtain ⟨_, found⟩ := Option.isSome_iff_exists.mp (List.isSome_min?_of_ne_nil starts)
  obtain ⟨task, inside, same⟩ := List.mem_map.mp (List.min?_mem found)
  exact ⟨task, inside, by rw [componentStart, found, same, Option.getD_some]⟩

theorem componentStart_le (inside : task ∈ component) :
    componentStart component ≤ task.startUtc := by
  have listed := List.mem_map_of_mem (f := (·.startUtc)) inside
  obtain ⟨_, found⟩ := Option.isSome_iff_exists.mp
    (List.isSome_min?_of_ne_nil (List.ne_nil_of_mem listed))
  rw [componentStart, found, Option.getD_some]
  exact (List.le_min?_iff found).mp le_rfl _ listed

theorem exists_componentEnd (some : component ≠ []) :
    ∃ task ∈ component, task.endUtc = componentEnd component := by
  have ends : component.map (·.endUtc) ≠ [] := by simpa using some
  obtain ⟨_, found⟩ := Option.isSome_iff_exists.mp (List.isSome_max?_of_ne_nil ends)
  obtain ⟨task, inside, same⟩ := List.mem_map.mp (List.max?_mem found)
  exact ⟨task, inside, by rw [componentEnd, found, same, Option.getD_some]⟩

theorem le_componentEnd (inside : task ∈ component) : task.endUtc ≤ componentEnd component := by
  have listed := List.mem_map_of_mem (f := (·.endUtc)) inside
  obtain ⟨_, found⟩ := Option.isSome_iff_exists.mp
    (List.isSome_max?_of_ne_nil (List.ne_nil_of_mem listed))
  rw [componentEnd, found, Option.getD_some]
  exact (List.max?_le_iff found).mp le_rfl _ listed

theorem OverBefore.start_lt (before : OverBefore first second) (firstSome : first ≠ [])
    (secondSome : second ≠ []) : componentStart first < componentStart second := by
  obtain ⟨left, leftIn, _⟩ := exists_componentStart firstSome
  obtain ⟨right, rightIn, _⟩ := exists_componentStart secondSome
  have := componentStart_le leftIn
  have := left.ordered
  have := before left leftIn right rightIn
  omega

theorem OverBefore.end_le_start (before : OverBefore first second) (firstSome : first ≠ [])
    (secondSome : second ≠ []) : componentEnd first ≤ componentStart second := by
  obtain ⟨left, leftIn, _⟩ := exists_componentEnd firstSome
  obtain ⟨right, rightIn, _⟩ := exists_componentStart secondSome
  have := before left leftIn right rightIn
  omega

end Components

/-- The groups are the classes of the tasks that chains of strict overlaps join. -/
structure OverlapClasses (tasks : List GroupingTaskAuthority)
    (groups : List (List GroupingTaskAuthority)) : Prop where
  partition : groups.flatten.Perm tasks
  inhabited : ∀ group ∈ groups, group ≠ []
  sorted : ∀ group ∈ groups, group.Pairwise GroupingTaskAuthority.Before
  joined : ∀ left ∈ tasks, ∀ right ∈ tasks,
    (∃ group ∈ groups, left ∈ group ∧ right ∈ group) ↔
      Linked GroupingTaskAuthority.startUtc GroupingTaskAuthority.endUtc tasks left right
  apart : groups.Pairwise fun earlier later =>
    ¬ (componentStart earlier < componentEnd later ∧ componentStart later < componentEnd earlier)

/-- `strict_overlap_components` returns the connected components of overlap. -/
theorem strict_overlap_components_are_classes (tasks : List GroupingTaskAuthority) :
    OverlapClasses tasks (strictOverlapComponents tasks) where
  partition := by
    rw [strictOverlapComponents_flatten]
    exact List.perm_insertionSort _ _
  inhabited group listed := strictOverlapComponents_ne_nil listed
  sorted group listed := by
    have ordered := List.pairwise_insertionSort GroupingTaskAuthority.Before tasks
    rw [← strictOverlapComponents_flatten] at ordered
    exact ordered.sublist (List.sublist_flatten_of_mem listed)
  joined left leftIn right rightIn := by
    have proper : ∀ task ∈ tasks, task.startUtc < task.endUtc := fun task _ => task.ordered
    constructor
    · rintro ⟨group, listed, leftMember, rightMember⟩
      rcases strictOverlapComponents_cases tasks with ⟨-, cut⟩ | ⟨first, rest, sorted, cut⟩
      · rw [cut] at listed
        cases listed
      · rw [cut] at listed
        have ordered := (List.pairwise_insertionSort GroupingTaskAuthority.Before tasks).imp
          GroupingTaskAuthority.Before.start_le
        rw [sorted] at ordered
        have subset : [first] ++ rest ⊆ tasks := by
          intro task inside
          rw [← List.mem_insertionSort GroupingTaskAuthority.Before, sorted]
          exact inside
        refine linked_of_mem_split subset ordered proper (.single first) ?_ listed leftMember
          rightMember
        intro one oneIn other otherIn
        rw [List.mem_singleton.mp oneIn, List.mem_singleton.mp otherIn]
        exact .refl
    · exact same_of_linked (fun task => exists_component)
        (strictOverlapComponents_pairwise tasks) leftIn
  apart := by
    refine (strictOverlapComponents_pairwise tasks).imp_of_mem fun earlier later before => ?_
    have past := before.end_le_start (strictOverlapComponents_ne_nil earlier)
      (strictOverlapComponents_ne_nil later)
    omega

end Soma.ObjectivesTasks
