import Mathlib.Algebra.Order.Group.Nat
import Mathlib.Data.Multiset.MapFold

/-!
Contests whose members are decided one by one. A member is won, lost or still
undecided, and a decided member stays as it is. The won members bound the final
count from below and the members not lost bound it from above; as members are
decided the two bounds close in, so a threshold that the lower bound reaches is
reached for good (`Settled.reached`), and one that the upper bound misses is
missed for good (`Settled.missed`).
-/

namespace Soma.Tally

/-- What is known of one member. -/
inductive Standing where
  | won
  | undecided
  | lost
  deriving DecidableEq

/-- A later standing of a member: one that was decided is kept. -/
def Standing.Settles (before after : Standing) : Prop :=
  before = .undecided ∨ before = after

/-- The members that are won, whatever happens. -/
def secured (standings : Multiset Standing) : Nat :=
  standings.countP (· = .won)

/-- The members that can still be won. -/
def attainable (standings : Multiset Standing) : Nat :=
  standings.countP (· ≠ .lost)

/-- The same members later on. -/
abbrev Settled (before after : Multiset Standing) : Prop :=
  Multiset.Rel Standing.Settles before after

theorem secured_cons (standing : Standing) (standings : Multiset Standing) :
    secured (standing ::ₘ standings) =
      secured standings + if standing = .won then 1 else 0 := by
  rw [secured, Multiset.countP_cons]
  rfl

theorem attainable_cons (standing : Standing) (standings : Multiset Standing) :
    attainable (standing ::ₘ standings) =
      attainable standings + if standing ≠ .lost then 1 else 0 := by
  rw [attainable, Multiset.countP_cons]
  rfl

namespace Settled

variable {before after : Multiset Standing}

theorem secured_le (settled : Settled before after) : secured before ≤ secured after := by
  induction settled with
  | zero => exact Nat.le_refl 0
  | @cons first second before after settles _ ih =>
    rw [secured_cons, secured_cons]
    rcases settles with rfl | rfl
    · cases second <;> simp <;> omega
    · omega

theorem attainable_le (settled : Settled before after) : attainable after ≤ attainable before := by
  induction settled with
  | zero => exact Nat.le_refl 0
  | @cons first second before after settles _ ih =>
    rw [attainable_cons, attainable_cons]
    rcases settles with rfl | rfl
    · cases second <;> simp <;> omega
    · omega

variable {passes : Nat → Prop}

theorem reached (settled : Settled before after) (upward : Monotone passes)
    (holds : passes (secured before)) : passes (secured after) :=
  upward settled.secured_le holds

theorem missed (settled : Settled before after) (upward : Monotone passes)
    (fails : ¬ passes (attainable before)) : ¬ passes (attainable after) :=
  fun holds => fails (upward settled.attainable_le holds)

end Settled

end Soma.Tally
