import Mathlib.Data.List.Pairwise
import Mathlib.Order.Lattice

/-!
Intervals swept in the order of their starts. Two intervals that only touch do
not overlap. `sweep` carries the interval that ends last so far and collects the
intervals that overlap another; `split` cuts the order wherever no earlier
interval reaches, which gives the components that chains of overlaps join.
-/

namespace Soma.Intervals

variable {Item Point : Type*} [LinearOrder Point] (start stop : Item → Point)

/-- The two intervals share an inner point. -/
def Overlap (left right : Item) : Prop :=
  start left < stop right ∧ start right < stop left

instance instDecidableOverlap : DecidableRel (Overlap start stop) :=
  fun _ _ => inferInstanceAs (Decidable (_ ∧ _))

variable {start stop}

variable {left right : Item}

theorem Overlap.symm (meet : Overlap start stop left right) : Overlap start stop right left :=
  ⟨meet.2, meet.1⟩

/-- The later of two intervals overlaps the earlier one as soon as it starts
inside it. -/
theorem Overlap.of_start (before : start left ≤ start right) (proper : start right < stop right)
    (inside : start right < stop left) : Overlap start stop left right :=
  ⟨lt_of_le_of_lt before proper, inside⟩

/-! ## Intervals that overlap another -/

variable (start stop)

/-- The intervals found to overlap another, given the one that ends last so far. -/
def sweep : Item → List Item → List Item
  | _, [] => []
  | furthest, item :: rest =>
    (if start item < stop furthest then [furthest, item] else []) ++
      if stop furthest < stop item then sweep item rest else sweep furthest rest

variable {start stop}

/-- Everything a sweep collects overlaps an interval at another place. -/
theorem overlap_of_mem_sweep
    (ordered : (furthest :: rest).Pairwise fun left right => start left ≤ start right)
    (proper : ∀ other ∈ furthest :: rest, start other < stop other)
    (found : item ∈ sweep start stop furthest rest) :
    ∃ left right, [left, right].Sublist (furthest :: rest) ∧ Overlap start stop left right ∧
      (item = left ∨ item = right) := by
  induction rest generalizing furthest with
  | nil => simp [sweep] at found
  | cons next rest ih =>
    rw [sweep, List.mem_append] at found
    obtain ⟨first, tail⟩ := List.pairwise_cons.mp ordered
    rcases found with found | found
    · split at found
      case isFalse => simp at found
      case isTrue inside =>
        refine ⟨furthest, next, ?_, ?_, by simpa using found⟩
        · exact (List.nil_sublist rest).cons_cons next |>.cons_cons furthest
        · exact .of_start (first next (by simp)) (proper next (by simp)) inside
    · split at found
      case isTrue =>
        obtain ⟨left, right, listed, meet, which⟩ :=
          ih tail (fun other inside => proper other (List.mem_cons_of_mem _ inside)) found
        exact ⟨left, right, listed.cons _, meet, which⟩
      case isFalse =>
        have skipped : (furthest :: rest).Sublist (furthest :: next :: rest) :=
          (List.sublist_cons_self next rest).cons_cons furthest
        obtain ⟨left, right, listed, meet, which⟩ :=
          ih (ordered.sublist skipped) (fun other inside => proper other (skipped.subset inside))
            found
        exact ⟨left, right, listed.trans skipped, meet, which⟩

/-- A sweep collects both sides of every overlap. The interval that ends last
stands for all that it covers. -/
theorem mem_sweep_of_overlap
    (ordered : (furthest :: rest).Pairwise fun left right => start left ≤ start right)
    (proper : ∀ other ∈ furthest :: rest, start other < stop other)
    (listed : [left, right].Sublist (furthest :: rest)) (inside : start right < stop left) :
    left ∈ sweep start stop furthest rest ∧ right ∈ sweep start stop furthest rest := by
  induction rest generalizing furthest left right with
  | nil =>
    have short := listed.length_le
    simp at short
  | cons next rest ih =>
    obtain ⟨_, tail⟩ := List.pairwise_cons.mp ordered
    have nextFirst := (List.pairwise_cons.mp tail).1
    have tailProper : ∀ other ∈ next :: rest, start other < stop other :=
      fun other member => proper other (List.mem_cons_of_mem _ member)
    have skipped : (furthest :: rest).Sublist (furthest :: next :: rest) :=
      (List.sublist_cons_self next rest).cons_cons furthest
    have skippedProper : ∀ other ∈ furthest :: rest, start other < stop other :=
      fun other member => proper other (skipped.subset member)
    have nextProper := proper next (by simp)
    simp only [sweep, List.mem_append]
    by_cases longer : stop furthest < stop next
    · rw [if_pos longer]
      rcases List.sublist_cons_iff.mp listed with later | ⟨after, same, later⟩
      · -- both lie past the furthest
        obtain ⟨leftIn, rightIn⟩ := ih tail tailProper later inside
        exact ⟨.inr leftIn, .inr rightIn⟩
      · obtain ⟨rfl, rfl⟩ := List.cons.inj same
        have rightListed : right ∈ next :: rest := List.singleton_sublist.mp later
        have reached : start next < stop left := by
          rcases List.mem_cons.mp rightListed with rfl | member
          · exact inside
          · exact lt_of_le_of_lt (nextFirst right member) inside
        refine ⟨.inl (by simp [reached]), ?_⟩
        rcases List.mem_cons.mp rightListed with rfl | member
        · exact .inl (by simp [reached])
        · have pair : [next, right].Sublist (next :: rest) :=
            (List.singleton_sublist.mpr member).cons_cons next
          exact .inr (ih tail tailProper pair (inside.trans longer)).2
    · rw [if_neg longer]
      have covered : stop next ≤ stop furthest := not_lt.mp longer
      have reached : start next < stop furthest := lt_of_lt_of_le nextProper covered
      rcases List.sublist_cons_iff.mp listed with later | ⟨after, same, later⟩
      · rcases List.sublist_cons_iff.mp later with later | ⟨after, same, later⟩
        · obtain ⟨leftIn, rightIn⟩ :=
            ih (ordered.sublist skipped) skippedProper (later.cons furthest) inside
          exact ⟨.inr leftIn, .inr rightIn⟩
        · obtain ⟨rfl, rfl⟩ := List.cons.inj same
          have pair : [furthest, right].Sublist (furthest :: rest) := later.cons_cons furthest
          have found := ih (ordered.sublist skipped) skippedProper pair
            (lt_of_lt_of_le inside covered)
          exact ⟨.inl (by simp [reached]), .inr found.2⟩
      · obtain ⟨rfl, rfl⟩ := List.cons.inj same
        refine ⟨.inl (by simp [reached]), ?_⟩
        rcases List.mem_cons.mp (List.singleton_sublist.mp later) with rfl | member
        · exact .inl (by simp [reached])
        · have pair : [left, right].Sublist (left :: rest) :=
            (List.singleton_sublist.mpr member).cons_cons left
          exact .inr (ih (ordered.sublist skipped) skippedProper pair inside).2

/-- A sweep over intervals in the order of their starts collects exactly those
that overlap one at another place. -/
theorem mem_sweep_iff
    (ordered : (furthest :: rest).Pairwise fun left right => start left ≤ start right)
    (proper : ∀ other ∈ furthest :: rest, start other < stop other) :
    item ∈ sweep start stop furthest rest ↔
      ∃ left right, [left, right].Sublist (furthest :: rest) ∧ Overlap start stop left right ∧
        (item = left ∨ item = right) := by
  constructor
  · exact overlap_of_mem_sweep ordered proper
  · rintro ⟨left, right, listed, meet, rfl | rfl⟩
    · exact (mem_sweep_of_overlap ordered proper listed meet.2).1
    · exact (mem_sweep_of_overlap ordered proper listed meet.2).2

omit [LinearOrder Point] in
variable {items : List Item}

/-- Two different members of a list stand in it one after the other. -/
theorem pair_sublist {one other : Item} (oneIn : one ∈ items) (otherIn : other ∈ items)
    (different : one ≠ other) : [one, other].Sublist items ∨ [other, one].Sublist items := by
  obtain ⟨before, after, rfl⟩ := List.append_of_mem oneIn
  rcases List.mem_append.mp otherIn with earlier | later
  · refine .inr ((List.singleton_sublist.mpr earlier).append ?_)
    exact (List.nil_sublist after).cons_cons one
  · have past : other ∈ after := (List.mem_cons.mp later).resolve_left different.symm
    refine .inl (List.Sublist.trans ?_ (List.sublist_append_right before (one :: after)))
    exact (List.singleton_sublist.mpr past).cons_cons one

/-- A sweep over different intervals collects those that overlap another. -/
theorem mem_sweep_iff_other {rest : List Item} {furthest item : Item}
    (ordered : (furthest :: rest).Pairwise fun left right => start left ≤ start right)
    (proper : ∀ other ∈ furthest :: rest, start other < stop other)
    (distinct : (furthest :: rest).Nodup) :
    item ∈ sweep start stop furthest rest ↔ item ∈ furthest :: rest ∧
      ∃ other ∈ furthest :: rest, other ≠ item ∧ Overlap start stop item other := by
  rw [mem_sweep_iff ordered proper]
  constructor
  · rintro ⟨left, right, listed, meet, which⟩
    have different : left ≠ right := by
      have pair := distinct.sublist listed
      simpa using pair
    have leftIn : left ∈ furthest :: rest := listed.subset (by simp)
    have rightIn : right ∈ furthest :: rest := listed.subset (by simp)
    rcases which with rfl | rfl
    · exact ⟨leftIn, right, rightIn, different.symm, meet⟩
    · exact ⟨rightIn, left, leftIn, different, meet.symm⟩
  · rintro ⟨itemIn, other, otherIn, different, meet⟩
    rcases pair_sublist itemIn otherIn different.symm with listed | listed
    · exact ⟨item, other, listed, meet, .inl rfl⟩
    · exact ⟨other, item, listed, meet.symm, .inr rfl⟩

/-! ## Components -/

variable (start stop)

/-- Cuts intervals into components, given the current one and where it ends. -/
def split : List Item → Point → List Item → List (List Item)
  | current, _, [] => [current]
  | current, reach, item :: rest =>
    if start item < reach then split (current ++ [item]) (max reach (stop item)) rest
    else current :: split [item] (stop item) rest

/-- One interval after the other, each overlapping the last. -/
def Linked (items : List Item) (left right : Item) : Prop :=
  Relation.ReflTransGen (fun one next => next ∈ items ∧ Overlap start stop one next) left right

/-- Every interval of the one list ends before any of the other starts. -/
def Past (earlier later : List Item) : Prop :=
  ∀ left ∈ earlier, ∀ right ∈ later, stop left ≤ start right

variable {start stop}

theorem Linked.symm (listed : left ∈ items) (linked : Linked start stop items left right) :
    Linked start stop items right left := by
  induction linked with
  | refl => exact .refl
  | @tail middle last _ step ih =>
    have inside : middle ∈ items := by
      rename_i reached
      rcases Relation.ReflTransGen.cases_tail reached with rfl | ⟨_, _, back⟩
      · exact listed
      · exact back.1
    exact Relation.ReflTransGen.head ⟨inside, step.2.symm⟩ ih

/-- Nothing is lost or moved by cutting. -/
theorem flatten_split (current rest : List Item) (reach : Point) :
    (split start stop current reach rest).flatten = current ++ rest := by
  induction rest generalizing current reach with
  | nil => simp [split]
  | cons item rest ih =>
    rw [split]
    split
    · rw [ih, List.append_assoc, List.singleton_append]
    · rw [List.flatten_cons, ih, List.singleton_append]

theorem split_ne_nil (inhabited : current ≠ [])
    (listed : component ∈ split start stop current reach rest) : component ≠ [] := by
  induction rest generalizing current reach with
  | nil =>
    rw [split, List.mem_singleton] at listed
    exact listed ▸ inhabited
  | cons item rest ih =>
    rw [split] at listed
    split at listed
    · exact ih (by simp) listed
    · rcases List.mem_cons.mp listed with rfl | listed
      · exact inhabited
      · exact ih (by simp) listed

/-- What a component reaches to: its members end there at the latest, and one does. -/
structure Reaches (stop : Item → Point) (component : List Item) (reach : Point) : Prop where
  bound : ∀ item ∈ component, stop item ≤ reach
  met : ∃ item ∈ component, stop item = reach

theorem Reaches.single (item : Item) : Reaches stop [item] (stop item) :=
  ⟨by simp, item, by simp, rfl⟩

theorem Reaches.concat (reaches : Reaches stop component reach) (item : Item) :
    Reaches stop (component ++ [item]) (max reach (stop item)) where
  bound := by
    intro other inside
    rcases List.mem_append.mp inside with inside | inside
    · exact (reaches.bound other inside).trans (le_max_left _ _)
    · rw [List.mem_singleton.mp inside]
      exact le_max_right _ _
  met := by
    obtain ⟨last, inside, ends⟩ := reaches.met
    rcases le_total reach (stop item) with longer | longer
    · exact ⟨item, by simp, (max_eq_right longer).symm⟩
    · exact ⟨last, by simp [inside], by rw [ends, max_eq_left longer]⟩

theorem linked_of_mem_split (subset : current ++ rest ⊆ items)
    (ordered : (current ++ rest).Pairwise fun left right => start left ≤ start right)
    (proper : ∀ item ∈ items, start item < stop item) (reaches : Reaches stop current reach)
    (linked : ∀ left ∈ current, ∀ right ∈ current, Linked start stop items left right)
    (listed : component ∈ split start stop current reach rest) (leftIn : left ∈ component)
    (rightIn : right ∈ component) : Linked start stop items left right := by
  induction rest generalizing current reach with
  | nil =>
    rw [split, List.mem_singleton] at listed
    subst listed
    exact linked left leftIn right rightIn
  | cons item rest ih =>
    have regroup : current ++ item :: rest = (current ++ [item]) ++ rest := by simp
    have itemIn : item ∈ items := subset (by simp)
    rw [split] at listed
    split at listed
    case isTrue inside =>
      obtain ⟨last, lastIn, ends⟩ := reaches.met
      have before : start last ≤ start item :=
        (List.pairwise_append.mp ordered).2.2 last lastIn item (by simp)
      have meet : Overlap start stop last item :=
        .of_start before (proper item itemIn) (ends ▸ inside)
      have lastListed : last ∈ items := subset (by simp [lastIn])
      have toItem : ∀ other ∈ current, Linked start stop items other item := fun other member =>
        (linked other member last lastIn).tail ⟨itemIn, meet⟩
      refine ih (regroup ▸ subset) (regroup ▸ ordered) (reaches.concat item) ?_ listed
      intro one oneIn other otherIn
      rcases List.mem_append.mp oneIn with oneIn | oneIn <;>
        rcases List.mem_append.mp otherIn with otherIn | otherIn
      · exact linked one oneIn other otherIn
      · rw [List.mem_singleton.mp otherIn]
        exact toItem one oneIn
      · rw [List.mem_singleton.mp oneIn]
        exact (toItem other otherIn).symm (subset (by simp [otherIn]))
      · rw [List.mem_singleton.mp oneIn, List.mem_singleton.mp otherIn]
        exact .refl
    case isFalse =>
      rcases List.mem_cons.mp listed with rfl | listed
      · exact linked left leftIn right rightIn
      · refine ih (List.Subset.trans ?_ subset) (ordered.sublist ?_) (.single item) ?_ listed
        · exact List.subset_append_right current (item :: rest)
        · exact List.sublist_append_right current (item :: rest)
        · intro one oneIn other otherIn
          rw [List.mem_singleton.mp oneIn, List.mem_singleton.mp otherIn]
          exact .refl

theorem split_pairwise
    (ordered : (current ++ rest).Pairwise fun left right => start left ≤ start right)
    (reaches : ∀ item ∈ current, stop item ≤ reach) :
    (split start stop current reach rest).Pairwise (Past start stop) := by
  induction rest generalizing current reach with
  | nil => exact List.pairwise_singleton _ _
  | cons item rest ih =>
    have regroup : current ++ item :: rest = (current ++ [item]) ++ rest := by simp
    rw [split]
    split
    case isTrue =>
      refine ih (regroup ▸ ordered) fun other inside => ?_
      rcases List.mem_append.mp inside with inside | inside
      · exact (reaches other inside).trans (le_max_left _ _)
      · rw [List.mem_singleton.mp inside]
        exact le_max_right _ _
    case isFalse beyond =>
      have tail := (List.pairwise_append.mp ordered).2.1
      refine List.pairwise_cons.mpr ⟨?_, ih tail (by simp)⟩
      intro later listed left leftIn right rightIn
      have afterItem : right ∈ item :: rest := by
        have inside : right ∈ (split start stop [item] (stop item) rest).flatten :=
          List.mem_flatten.mpr ⟨later, listed, rightIn⟩
        rwa [flatten_split] at inside
      have starts : start item ≤ start right := by
        rcases List.mem_cons.mp afterItem with rfl | member
        · exact le_refl _
        · exact (List.pairwise_cons.mp tail).1 right member
      exact (reaches left leftIn).trans ((not_lt.mp beyond).trans starts)

theorem past_or_past {components : List (List Item)} (apart : components.Pairwise (Past start stop))
    (oneIn : one ∈ components) (twoIn : two ∈ components) (different : one ≠ two) :
    Past start stop one two ∨ Past start stop two one := by
  let either (one two : List Item) : Prop := Past start stop one two ∨ Past start stop two one
  have symmetric : Std.Symm either := ⟨fun _ _ => Or.symm⟩
  have every : components.Pairwise either := apart.imp Or.inl
  exact every.forall oneIn twoIn different

/-- Linked intervals lie in one component when different components are apart. -/
theorem same_of_linked {components : List (List Item)}
    (covered : ∀ item ∈ items, ∃ component ∈ components, item ∈ component)
    (apart : components.Pairwise (Past start stop)) (listed : left ∈ items)
    (linked : Linked start stop items left right) :
    ∃ component ∈ components, left ∈ component ∧ right ∈ component := by
  induction linked with
  | refl =>
    obtain ⟨component, inside, member⟩ := covered left listed
    exact ⟨component, inside, member, member⟩
  | @tail middle last _ step ih =>
    obtain ⟨component, inside, leftIn, middleIn⟩ := ih
    obtain ⟨other, otherInside, lastIn⟩ := covered last step.1
    by_cases same : component = other
    · exact ⟨component, inside, leftIn, same ▸ lastIn⟩
    · -- the two components are apart one way or the other, so nothing overlaps across them
      rcases past_or_past apart inside otherInside same with before | before
      · exact absurd step.2.2 (not_lt.mpr (before middle middleIn last lastIn))
      · exact absurd step.2.1 (not_lt.mpr (before last lastIn middle middleIn))

/-! ## Hulls -/

variable (start stop)

/-- The span from the first start to the last end of the items. -/
structure IsHull (items : List Item) (low high : Point) : Prop where
  le_start : ∀ item ∈ items, low ≤ start item
  starts : ∃ item ∈ items, start item = low
  stop_le : ∀ item ∈ items, stop item ≤ high
  stops : ∃ item ∈ items, stop item = high

variable {start stop}

/-- An interval overlaps a hull when it overlaps a span inside the hull, overlaps one of
the items or lies between the span and one of them. -/
theorem IsHull.overlap_iff {low high first last left right : Point}
    (hull : IsHull start stop items low high) (proper : ∀ item ∈ items, start item < stop item)
    (span : first < last) (low_le : low ≤ first) (le_high : last ≤ high) (between : left < right) :
    (left < high ∧ low < right) ↔ (left < last ∧ first < right) ∨
      ∃ item ∈ items, (left < stop item ∧ start item < right) ∨
        ((last ≤ left ∧ right ≤ start item) ∨ (stop item ≤ left ∧ right ≤ first)) := by
  constructor
  · rintro ⟨before, after⟩
    by_cases early : right ≤ first
    · -- the item that starts first is overlapped or lies on the other side
      obtain ⟨item, inside, starts⟩ := hull.starts
      rw [← starts] at after
      rcases lt_or_ge left (stop item) with overlaps | beyond
      · exact .inr ⟨item, inside, .inl ⟨overlaps, after⟩⟩
      · exact .inr ⟨item, inside, .inr (.inr ⟨beyond, early⟩)⟩
    · by_cases late : last ≤ left
      · obtain ⟨item, inside, stops⟩ := hull.stops
        rw [← stops] at before
        rcases lt_or_ge (start item) right with overlaps | beyond
        · exact .inr ⟨item, inside, .inl ⟨before, overlaps⟩⟩
        · exact .inr ⟨item, inside, .inr (.inl ⟨late, beyond⟩)⟩
      · exact .inl ⟨not_le.mp late, not_le.mp early⟩
  · rintro (⟨before, after⟩ | ⟨item, inside, ⟨before, after⟩ | ⟨late, beyond⟩ | ⟨beyond, early⟩⟩)
    · exact ⟨before.trans_le le_high, low_le.trans_lt after⟩
    · exact ⟨before.trans_le (hull.stop_le item inside), (hull.le_start item inside).trans_lt after⟩
    · refine ⟨between.trans_le (beyond.trans ?_), ?_⟩
      · exact (proper item inside).le.trans (hull.stop_le item inside)
      · exact ((low_le.trans_lt span).trans_le late).trans between
    · refine ⟨between.trans_le (early.trans (span.le.trans le_high)), ?_⟩
      exact ((hull.le_start item inside).trans_lt (proper item inside)).trans_le beyond
        |>.trans between

end Soma.Intervals
