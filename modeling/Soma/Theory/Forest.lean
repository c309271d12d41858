import Mathlib.Logic.Relation

/-!
Forests of depth at most one, as a relation from parents to children: a child
has one parent, and no parent is a child. Such a relation has no cycle
(`TwoLevels.not_ancestor`), keeps its shape when it loses edges, and when it
gains an edge from a node above nothing but its own children to one without
relatives (`TwoLevels.attach`).
-/

namespace Soma.Forest

variable {Node : Type*}

/-- A forest of depth at most one. -/
structure TwoLevels (edge : Node → Node → Prop) : Prop where
  oneParent : ∀ parent other child, edge parent child → edge other child → parent = other
  rootsOnly : ∀ parent child above, edge parent child → ¬ edge above parent

namespace TwoLevels

variable {edge : Node → Node → Prop}

theorem none : TwoLevels fun _ _ : Node => False :=
  ⟨fun _ _ _ impossible => impossible.elim, fun _ _ _ impossible => impossible.elim⟩

theorem not_ancestor (levels : TwoLevels edge) (node : Node) :
    ¬ Relation.TransGen edge node node := by
  intro cycle
  obtain ⟨below, first, -⟩ := Relation.TransGen.head'_iff.mp cycle
  obtain ⟨above, -, last⟩ := Relation.TransGen.tail'_iff.mp cycle
  exact levels.rootsOnly node below above first last

theorem mono {fewer : Node → Node → Prop} (levels : TwoLevels edge)
    (kept : ∀ parent child, fewer parent child → edge parent child) : TwoLevels fewer where
  oneParent parent other child first second :=
    levels.oneParent parent other child (kept _ _ first) (kept _ _ second)
  rootsOnly parent child above first second :=
    levels.rootsOnly parent child above (kept _ _ first) (kept _ _ second)

/-- A node without relatives may be attached to a node that is no child. -/
theorem attach {more : Node → Node → Prop} (levels : TwoLevels edge) (apart : parent ≠ child)
    (parentless : ∀ above, ¬ edge above parent) (childless : ∀ below, ¬ edge child below)
    (free : ∀ above, ¬ edge above child) (added : ∀ first second, more first second →
      edge first second ∨ first = parent ∧ second = child) : TwoLevels more where
  oneParent := by
    intro above other below first second
    rcases added _ _ first with old | ⟨rfl, rfl⟩
    · rcases added _ _ second with old' | ⟨rfl, rfl⟩
      · exact levels.oneParent above other below old old'
      · exact absurd old (free above)
    · rcases added _ _ second with old' | ⟨rfl, -⟩
      · exact absurd old' (free other)
      · rfl
  rootsOnly := by
    intro above below higher first second
    rcases added _ _ first with old | ⟨rfl, rfl⟩
    · rcases added _ _ second with old' | ⟨rfl, rfl⟩
      · exact levels.rootsOnly above below higher old old'
      · exact childless below old
    · rcases added _ _ second with old' | ⟨-, same⟩
      · exact parentless higher old'
      · exact apart same

end TwoLevels

end Soma.Forest
