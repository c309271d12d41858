import Mathlib.Logic.Relation

/-!
Runs of a step relation. A system is a set of initial states and a step
relation over an arbitrary state type. `Reachable` is what some run from an
initial state arrives at, `Later` what a run continues to. The two rules every
safety result uses are here: an inductive predicate holds of every reachable
state (`Reachable.invariant`), and a reflexive and transitive relation that
contains every step contains every run (`Later.related`).
-/

namespace Soma.Execution

universe u v

variable {State : Type u} {Abstract : Type v}
variable {Initial : State → Prop} {Step : State → State → Prop}

/-- The states some finite run from an initial state arrives at. -/
inductive Reachable (Initial : State → Prop) (Step : State → State → Prop) : State → Prop
  | start {state : State} (initial : Initial state) : Reachable Initial Step state
  | step {state next : State} (reached : Reachable Initial Step state)
      (stepped : Step state next) : Reachable Initial Step next

/-- A finite run, possibly empty, from one state to another. -/
abbrev Later (Step : State → State → Prop) : State → State → Prop :=
  Relation.ReflTransGen Step

/-- The invariant rule: a predicate of the initial states that every step
preserves holds in every reachable state. -/
theorem Reachable.invariant (Invariant : State → Prop)
    (base : ∀ state, Initial state → Invariant state)
    (kept : ∀ state next, Invariant state → Step state next → Invariant next)
    (reached : Reachable Initial Step state) : Invariant state := by
  induction reached with
  | start initial => exact base _ initial
  | step _ stepped ih => exact kept _ _ ih stepped

theorem Reachable.later (reached : Reachable Initial Step state) (later : Later Step state next) :
    Reachable Initial Step next := by
  induction later with
  | refl => exact reached
  | tail _ stepped ih => exact ih.step stepped

/-- A predicate that every step preserves survives any run. -/
theorem Later.preserves (Invariant : State → Prop)
    (kept : ∀ state next, Invariant state → Step state next → Invariant next)
    (later : Later Step state next) (holds : Invariant state) : Invariant next := by
  induction later with
  | refl => exact holds
  | tail _ stepped ih => exact kept _ _ ih stepped

/-- A reflexive and transitive relation containing every step from a state of
the invariant contains every run from one. -/
theorem Later.related (Invariant : State → Prop) (Related : State → State → Prop)
    (kept : ∀ state next, Invariant state → Step state next → Invariant next)
    (identity : ∀ state, Related state state)
    (compose : ∀ {first second third}, Related first second → Related second third →
      Related first third)
    (stepwise : ∀ state next, Invariant state → Step state next → Related state next)
    (later : Later Step state next) (holds : Invariant state) : Related state next := by
  induction later with
  | refl => exact identity _
  | tail earlier stepped ih =>
    exact compose ih (stepwise _ _ (Later.preserves Invariant kept earlier holds) stepped)

/-- Forward simulation: when every step from a state of the invariant is
matched by a run of the abstract system, every run is. -/
theorem Later.simulates (Invariant : State → Prop) {AbstractStep : Abstract → Abstract → Prop}
    (view : State → Abstract)
    (kept : ∀ state next, Invariant state → Step state next → Invariant next)
    (simulated : ∀ state next, Invariant state → Step state next →
      Later AbstractStep (view state) (view next)) (later : Later Step state next)
    (holds : Invariant state) : Later AbstractStep (view state) (view next) :=
  Later.related Invariant (fun state next => Later AbstractStep (view state) (view next)) kept
    (fun _ => .refl) (fun first second => first.trans second) simulated later holds

end Soma.Execution
