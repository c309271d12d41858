import Mathlib.Logic.Relation

/-!
Graphs of disjoint simple paths: a node has one edge out and one edge in at most, and no
edges lead from a node back to it. An edge from the end of one path to the start of another
keeps the shape (`Paths.join`), and an edge closes a cycle exactly when its source can be
reached from its target (`Paths.closes_iff`).
-/

namespace Soma.Chains

open Relation

variable {Node : Type*}

structure Paths (edge : Node → Node → Prop) : Prop where
  oneOut : ∀ node next other, edge node next → edge node other → next = other
  oneIn : ∀ node other next, edge node next → edge other next → node = other
  noCycle : ∀ node, ¬ TransGen edge node node

/-- The edges and one more. -/
def Joined (edge : Node → Node → Prop) (source target : Node) (first second : Node) : Prop :=
  edge first second ∨ first = source ∧ second = target

section Cycles

variable {edge : Node → Node → Prop} {source target : Node}

/-- A way along the edges and one more is one along the edges, or passes the new edge and
reaches its source before and its end after it along the edges. -/
theorem transGen_joined (way : TransGen (Joined edge source target) first last) :
    TransGen edge first last ∨ ReflTransGen edge first source ∧ ReflTransGen edge target last := by
  induction way with
  | single step =>
    rcases step with old | ⟨rfl, rfl⟩
    · exact .inl (.single old)
    · exact .inr ⟨.refl, .refl⟩
  | tail _ step ih =>
    rcases step with old | ⟨rfl, rfl⟩
    · rcases ih with before | ⟨before, after⟩
      · exact .inl (before.tail old)
      · exact .inr ⟨before, after.tail old⟩
    · rcases ih with before | ⟨before, -⟩
      · exact .inr ⟨before.to_reflTransGen, .refl⟩
      · exact .inr ⟨before, .refl⟩

/-- A new edge closes a cycle exactly when its target leads to its source. -/
theorem closes_iff (noCycle : ∀ node, ¬ TransGen edge node node) :
    (∃ node, TransGen (Joined edge source target) node node) ↔
      ReflTransGen edge target source := by
  constructor
  · rintro ⟨node, cycle⟩
    rcases transGen_joined cycle with old | ⟨before, after⟩
    · exact absurd old (noCycle node)
    · exact after.trans before
  · intro back
    have along : ReflTransGen (Joined edge source target) target source :=
      ReflTransGen.mono (fun _ _ old => .inl old) _ _ back
    exact ⟨source, TransGen.head' (.inr ⟨rfl, rfl⟩) along⟩

end Cycles

namespace Paths

variable {edge more : Node → Node → Prop} {source target : Node}

theorem none : Paths fun _ _ : Node => False where
  oneOut _ _ _ impossible := impossible.elim
  oneIn _ _ _ impossible := impossible.elim
  noCycle _ cycle := (TransGen.head'_iff.mp cycle).elim fun _ first => first.1

/-- An edge from a node without one out to a node without one in keeps the paths apart when
it closes no cycle. -/
theorem join (paths : Paths edge) (endOfPath : ∀ next, ¬ edge source next)
    (startOfPath : ∀ node, ¬ edge node target) (apart : ¬ ReflTransGen edge target source)
    (added : ∀ first second, more first second ↔ Joined edge source target first second) :
    Paths more := by
  obtain rfl : more = Joined edge source target :=
    funext fun first => funext fun second => propext (added first second)
  refine ⟨?_, ?_, fun node cycle => apart ((closes_iff paths.noCycle).mp ⟨node, cycle⟩)⟩
  · rintro node next other (old | ⟨rfl, rfl⟩) (old' | ⟨same, rfl⟩)
    · exact paths.oneOut node next other old old'
    · exact absurd (same ▸ old) (endOfPath next)
    · exact absurd old' (endOfPath other)
    · rfl
  · rintro node other next (old | ⟨rfl, rfl⟩) (old' | ⟨rfl, same⟩)
    · exact paths.oneIn node other next old old'
    · exact absurd (same ▸ old) (startOfPath node)
    · exact absurd old' (startOfPath other)
    · rfl

/-- What a node leads to, it reaches over its only edge out. -/
theorem reaches_iff (paths : Paths edge) (step : edge node next) (other : node ≠ last) :
    ReflTransGen edge node last ↔ ReflTransGen edge next last := by
  constructor
  · intro way
    rcases way.cases_head with same | ⟨middle, first, rest⟩
    · exact absurd same other
    · rwa [paths.oneOut node next middle step first]
  · exact ReflTransGen.head step

end Paths

end Soma.Chains
