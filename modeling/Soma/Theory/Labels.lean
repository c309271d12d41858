import Mathlib.Data.Set.Function

/-!
Labels of items, and the items a set of seeds reaches through them. Items of one label form a
group; the closure of the seeds is the seeds with every group one of them is in. A new label
for all of the closure leaves the closure as it is, and a label for each of its items leaves
every seed by itself.
-/

namespace Soma.Labels

variable {Item Label : Type*} {label label' : Item → Option Label} {seeds region : Set Item}
  {target : Item → Label} {mark : Label} {item other : Item}

/-- The seeds and the items that carry the label of a seed. -/
def closure (label : Item → Option Label) (seeds : Set Item) : Set Item :=
  {item | item ∈ seeds ∨ ∃ seed ∈ seeds, ∃ mark, label seed = some mark ∧ label item = some mark}

theorem subset_closure : seeds ⊆ closure label seeds :=
  fun _ inside => .inl inside

/-- A group with an item of the closure is in the closure. -/
theorem mem_closure_of_label (inside : item ∈ closure label seeds) (marked : label item = some mark)
    (same : label other = some mark) : other ∈ closure label seeds := by
  rcases inside with seed | ⟨seed, listed, mark', carried, shared⟩
  · exact .inr ⟨item, seed, mark, marked, same⟩
  · obtain rfl : mark' = mark := Option.some.inj (shared.symm.trans marked)
    exact .inr ⟨seed, listed, mark', carried, same⟩

/-- A label all of the closure carries is carried by nothing else. -/
theorem unshared_of_shared (nonempty : seeds.Nonempty)
    (shared : ∀ item ∈ closure label seeds, label item = some mark)
    (outside : item ∉ closure label seeds) : label item ≠ some mark := by
  intro carried
  obtain ⟨seed, listed⟩ := nonempty
  exact outside (mem_closure_of_label (subset_closure listed)
    (shared seed (subset_closure listed)) carried)

/-- The items of a region take the labels they are given, nothing else changes, and nothing
else carries one of the labels. -/
structure Relabelled (label label' : Item → Option Label) (region : Set Item)
    (target : Item → Label) : Prop where
  inside : ∀ item ∈ region, label' item = some (target item)
  outside : ∀ item, item ∉ region → label' item = label item
  unshared : ∀ item, item ∉ region → ∀ other ∈ region, label item ≠ some (target other)

/-- **A region under one label** is the group of the label. -/
theorem merged (relabelled : Relabelled label label' region fun _ => mark)
    (nonempty : region.Nonempty) : label' item = some mark ↔ item ∈ region := by
  constructor
  · intro carried
    by_contra outside
    obtain ⟨other, listed⟩ := nonempty
    rw [relabelled.outside item outside] at carried
    exact relabelled.unshared item outside other listed carried
  · exact relabelled.inside item

/-- **A region with a label for each of its items** has every one of them by itself. -/
theorem separated (relabelled : Relabelled label label' region target)
    (distinct : Set.InjOn target region) (listed : item ∈ region) :
    label' other = some (target item) ↔ other = item := by
  constructor
  · intro carried
    by_cases inside : other ∈ region
    · rw [relabelled.inside other inside] at carried
      exact distinct inside listed (Option.some.inj carried)
    · rw [relabelled.outside other inside] at carried
      exact absurd carried (relabelled.unshared other inside item listed)
  · rintro rfl
    exact relabelled.inside other listed

/-- The closure under one label is closed under the new labels. -/
theorem closure_merged (nonempty : seeds.Nonempty)
    (relabelled : Relabelled label label' (closure label seeds) fun _ => mark) :
    closure label' seeds = closure label seeds := by
  obtain ⟨first, listed⟩ := nonempty
  have group : ∀ {item}, label' item = some mark ↔ item ∈ closure label seeds :=
    merged relabelled ⟨first, subset_closure listed⟩
  ext item
  constructor
  · rintro (seed | ⟨seed, inside, _, carried, same⟩)
    · exact subset_closure seed
    · have own := relabelled.inside seed (subset_closure inside)
      rw [carried] at own
      exact group.mp (same.trans own)
  · intro inside
    exact .inr ⟨first, listed, mark, relabelled.inside first (subset_closure listed),
      relabelled.inside item inside⟩

/-- With a label for each item the seeds reach nothing but themselves. -/
theorem closure_separated (relabelled : Relabelled label label' region target)
    (distinct : Set.InjOn target region) (within : seeds ⊆ region) :
    closure label' seeds = seeds := by
  refine Set.Subset.antisymm ?_ subset_closure
  rintro item (seed | ⟨seed, inside, _, carried, same⟩)
  · exact seed
  · have own := relabelled.inside seed (within inside)
    rw [carried] at own
    obtain rfl := (separated relabelled distinct (within inside)).mp (same.trans own)
    exact inside

end Soma.Labels
