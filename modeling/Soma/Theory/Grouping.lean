import Mathlib.Data.Finset.Card

/-!
Values gathered under their keys, in an association list with one entry per key.
`Grouped` is the invariant of such a list; under it the values of one key are
exactly those found by filtering all values (`Grouped.filter_values`).
-/

namespace Soma.Grouping

variable {Key Value : Type*}

/-- All values, group by group. -/
def values (groups : List (Key × List Value)) : List Value :=
  groups.flatMap Prod.snd

/-- One entry per key, holding values of that key only. -/
structure Grouped (keyOf : Value → Key) (groups : List (Key × List Value)) : Prop where
  distinct : (groups.map Prod.fst).Nodup
  named : ∀ group ∈ groups, ∀ value ∈ group.2, keyOf value = group.1

variable [DecidableEq Key]

/-- Adds a value under a key, which gets an entry at the end when it has none. -/
def append (key : Key) (value : Value) : List (Key × List Value) → List (Key × List Value)
  | [] => [(key, [value])]
  | (name, held) :: groups =>
    if name = key then (name, held ++ [value]) :: groups
    else (name, held) :: append key value groups

theorem mem_append {key : Key} {value : Value} {groups : List (Key × List Value)}
    {group : Key × List Value} (inside : group ∈ append key value groups) :
    group ∈ groups ∨ group.1 = key ∧
      ((group.2 = [value] ∧ key ∉ groups.map Prod.fst) ∨
        ∃ held, (key, held) ∈ groups ∧ group.2 = held ++ [value]) := by
  induction groups with
  | nil =>
    obtain rfl : group = (key, [value]) := by simpa [append] using inside
    exact .inr ⟨rfl, .inl ⟨rfl, by simp⟩⟩
  | cons entry groups ih =>
    obtain ⟨name, held⟩ := entry
    by_cases same : name = key
    · subst same
      simp only [append, if_true, List.mem_cons] at inside
      rcases inside with rfl | inside
      · exact .inr ⟨rfl, .inr ⟨held, by simp, rfl⟩⟩
      · exact .inl (List.mem_cons_of_mem _ inside)
    · simp only [append, same, if_false, List.mem_cons] at inside
      rcases inside with rfl | inside
      · exact .inl (by simp)
      · rcases ih inside with old | ⟨named, ⟨alone, fresh⟩ | ⟨held', old, longer⟩⟩
        · exact .inl (List.mem_cons_of_mem _ old)
        · refine .inr ⟨named, .inl ⟨alone, ?_⟩⟩
          simp only [List.map_cons, List.mem_cons, not_or]
          exact ⟨fun equal => same equal.symm, fresh⟩
        · exact .inr ⟨named, .inr ⟨held', List.mem_cons_of_mem _ old, longer⟩⟩

theorem keys_append (key : Key) (value : Value) (groups : List (Key × List Value)) :
    (append key value groups).map Prod.fst =
      if key ∈ groups.map Prod.fst then groups.map Prod.fst
      else groups.map Prod.fst ++ [key] := by
  induction groups with
  | nil => rfl
  | cons entry groups ih =>
    obtain ⟨name, _⟩ := entry
    by_cases same : name = key
    · simp [append, same]
    · have other : ¬ key = name := fun equal => same equal.symm
      simp only [append, same, if_false, List.map_cons, ih, List.mem_cons, other, false_or]
      split <;> rfl

namespace Grouped

variable {keyOf : Value → Key} {groups : List (Key × List Value)}

omit [DecidableEq Key] in
theorem nil : Grouped keyOf [] :=
  ⟨List.nodup_nil, by simp⟩

/-- Adding a value under its own key keeps the entries apart. -/
theorem append (grouped : Grouped keyOf groups) (value : Value) :
    Grouped keyOf (Grouping.append (keyOf value) value groups) where
  distinct := by
    rw [keys_append]
    split
    case isTrue => exact grouped.distinct
    case isFalse fresh =>
      rw [List.nodup_append]
      refine ⟨grouped.distinct, List.nodup_singleton _, ?_⟩
      intro key inside other alone
      rw [List.mem_singleton] at alone
      subst alone
      intro same
      exact fresh (same ▸ inside)
  named := by
    intro group inside held member
    rcases mem_append inside with old | ⟨name, ⟨alone, -⟩ | ⟨before, old, longer⟩⟩
    · exact grouped.named group old held member
    · rw [alone, List.mem_singleton] at member
      rw [member, name]
    · rw [longer, List.mem_append, List.mem_singleton] at member
      rcases member with member | rfl
      · rw [name]
        exact grouped.named _ old held member
      · exact name.symm

omit [DecidableEq Key] in
theorem reorder {arranged : List (Key × List Value)} (grouped : Grouped keyOf groups)
    {order : Key × List Value → Key × List Value} (same : ∀ group, (order group).1 = group.1)
    (held : ∀ group, (order group).2.Perm group.2) (moved : arranged.Perm groups) :
    Grouped keyOf (arranged.map order) where
  distinct := by
    have keys : (arranged.map order).map Prod.fst = arranged.map Prod.fst := by
      rw [List.map_map]
      exact List.map_congr_left fun group _ => same group
    rw [keys]
    exact (moved.map Prod.fst).nodup_iff.mpr grouped.distinct
  named := by
    intro group inside value member
    obtain ⟨source, listed, rfl⟩ := List.mem_map.mp inside
    rw [same]
    exact grouped.named source (moved.mem_iff.mp listed) value ((held source).mem_iff.mp member)

theorem filter_values (grouped : Grouped keyOf groups) (inside : (key, held) ∈ groups) :
    (values groups).filter (fun value => keyOf value = key) = held := by
  induction groups with
  | nil => simp at inside
  | cons entry groups ih =>
    have rest : Grouped keyOf groups :=
      ⟨(List.nodup_cons.mp grouped.distinct).2,
        fun group listed => grouped.named group (List.mem_cons_of_mem _ listed)⟩
    have fresh := (List.nodup_cons.mp grouped.distinct).1
    rw [values, List.flatMap_cons, List.filter_append]
    rcases List.mem_cons.mp inside with rfl | inside
    · have all : held.filter (fun value => keyOf value = key) = held :=
        List.filter_eq_self.mpr fun value member => by
          simpa using grouped.named _ List.mem_cons_self value member
      have none : (values groups).filter (fun value => keyOf value = key) = [] := by
        refine List.filter_eq_nil_iff.mpr fun value member => ?_
        obtain ⟨group, listed, belongs⟩ := List.mem_flatMap.mp member
        have named := rest.named group listed value belongs
        simp only [decide_eq_true_eq]
        intro same
        exact fresh (List.mem_map.mpr ⟨group, listed, named.symm.trans same⟩)
      rw [all]
      exact (congrArg (held ++ ·) none).trans (List.append_nil held)
    · have apart : entry.1 ≠ key := by
        rintro rfl
        exact fresh (List.mem_map.mpr ⟨_, inside, rfl⟩)
      have none : entry.2.filter (fun value => keyOf value = key) = [] := by
        refine List.filter_eq_nil_iff.mpr fun value member => ?_
        have named := grouped.named entry List.mem_cons_self value member
        simpa [named] using apart
      rw [none, List.nil_append]
      exact ih rest inside

end Grouped

theorem values_append (key : Key) (value : Value) (groups : List (Key × List Value)) :
    (values (append key value groups)).Perm (value :: values groups) := by
  induction groups with
  | nil => exact .refl _
  | cons entry groups ih =>
    obtain ⟨name, held⟩ := entry
    by_cases same : name = key
    · have grown : values (append key value ((name, held) :: groups)) =
          held ++ ([value] ++ values groups) := by
        simp [append, same, values]
      rw [grown]
      exact List.perm_middle
    · have kept : values (append key value ((name, held) :: groups)) =
          held ++ values (append key value groups) := by
        simp [append, same, values]
      rw [kept]
      exact (ih.append_left held).trans List.perm_middle

/-- All values under their keys, the keys in the order they first occur. -/
def gather (keyOf : Value → Key) (all : List Value) : List (Key × List Value) :=
  all.foldl (fun groups value => append (keyOf value) value groups) []

section Gather

variable {keyOf : Value → Key}

theorem foldl_append (all : List Value) (groups : List (Key × List Value))
    (grouped : Grouped keyOf groups) :
    Grouped keyOf (all.foldl (fun groups value => append (keyOf value) value groups) groups) ∧
      (values (all.foldl (fun groups value => append (keyOf value) value groups) groups)).Perm
        (values groups ++ all) ∧
      ∀ key, key ∈ (all.foldl (fun groups value => append (keyOf value) value groups)
          groups).map Prod.fst ↔ key ∈ groups.map Prod.fst ∨ key ∈ all.map keyOf := by
  induction all generalizing groups with
  | nil => exact ⟨grouped, by simp, by simp⟩
  | cons value all ih =>
    obtain ⟨grouped', moved, keys⟩ := ih _ (grouped.append value)
    refine ⟨grouped', ?_, fun key => ?_⟩
    · refine moved.trans (((values_append _ _ _).append_right all).trans ?_)
      exact List.perm_middle.symm
    · rw [List.foldl_cons, keys, keys_append, List.map_cons, List.mem_cons]
      by_cases listed : keyOf value ∈ groups.map Prod.fst
      · rw [if_pos listed]
        constructor
        · rintro (old | new)
          · exact .inl old
          · exact .inr (.inr new)
        · rintro (old | rfl | new)
          · exact .inl old
          · exact .inl listed
          · exact .inr new
      · rw [if_neg listed, List.mem_append, List.mem_singleton, or_assoc]

theorem grouped_gather (all : List Value) : Grouped keyOf (gather keyOf all) :=
  (foldl_append all [] Grouped.nil).1

theorem mem_keys_gather : key ∈ (gather keyOf all).map Prod.fst ↔ key ∈ all.map keyOf := by
  simpa [gather] using (foldl_append all [] (Grouped.nil : Grouped keyOf [])).2.2 key

theorem values_gather (all : List Value) : (values (gather keyOf all)).Perm all := by
  simpa [gather, values] using (foldl_append all [] (Grouped.nil : Grouped keyOf [])).2.1

theorem held_gather (inside : (key, held) ∈ gather keyOf all) :
    held.Perm (all.filter fun value => keyOf value = key) := by
  rw [← (grouped_gather all).filter_values inside]
  exact (values_gather all).filter _

theorem gather_inhabited (inside : (key, held) ∈ gather keyOf all) : held ≠ [] := by
  have named : key ∈ all.map keyOf := mem_keys_gather.mp (List.mem_map.mpr ⟨_, inside, rfl⟩)
  obtain ⟨value, listed, rfl⟩ := List.mem_map.mp named
  rintro rfl
  have found : value ∈ all.filter fun other => keyOf other = keyOf value :=
    List.mem_filter.mpr ⟨listed, by simp⟩
  exact List.not_mem_nil ((held_gather inside).mem_iff.mpr found)

theorem length_gather (all : List Value) :
    (gather keyOf all).length = (all.map keyOf).toFinset.card := by
  have keys : ((gather keyOf all).map Prod.fst).length = (gather keyOf all).length :=
    List.length_map Prod.fst
  rw [← keys, ← List.toFinset_card_of_nodup (grouped_gather all).distinct]
  congr 1
  ext key
  rw [List.mem_toFinset, List.mem_toFinset, mem_keys_gather]

end Gather

end Soma.Grouping
