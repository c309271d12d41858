import Mathlib.Data.PEquiv

/-!
Pointers in both directions between two kinds of things. `Paired` says that each
one points at what points back at it, so either side is a partial injection with
the other as its inverse. A pair is joined or parted by one write on each side.
-/

namespace Soma.Pairing

variable {Holder Grant : Type*} {held : Holder → Option Grant} {holderOf : Grant → Option Holder}

/-- What a holder holds names the holder, and the other way round. -/
def Paired (held : Holder → Option Grant) (holderOf : Grant → Option Holder) : Prop :=
  ∀ holder grant, held holder = some grant ↔ holderOf grant = some holder

namespace Paired

/-- The partial bijection between the two sides. -/
def toPEquiv (paired : Paired held holderOf) : Holder ≃. Grant where
  toFun := held
  invFun := holderOf
  inv holder grant := (paired holder grant).symm

variable {holder other : Holder} {grant : Grant}

theorem injective (paired : Paired held holderOf) (first : held holder = some grant)
    (second : held other = some grant) : holder = other :=
  paired.toPEquiv.inj first second

variable [DecidableEq Holder] [DecidableEq Grant]

theorem join (paired : Paired held holderOf) (freeHolder : held holder = none)
    (freeGrant : holderOf grant = none) :
    Paired (Function.update held holder (some grant))
      (Function.update holderOf grant (some holder)) := by
  intro left right
  by_cases here : left = holder
  · subst here
    by_cases there : right = grant
    · subst there
      simp
    · have unpaired : holderOf right ≠ some left := fun back => by
        rw [← paired left right, freeHolder] at back
        cases back
      simpa [there, Ne.symm there] using unpaired
  · by_cases there : right = grant
    · subst there
      have unpaired : held left ≠ some right := fun forth => by
        rw [paired left right, freeGrant] at forth
        cases forth
      simpa [here, Ne.symm here] using unpaired
    · simpa [here, there] using paired left right

theorem part (paired : Paired held holderOf) (together : held holder = some grant) :
    Paired (Function.update held holder none) (Function.update holderOf grant none) := by
  intro left right
  by_cases here : left = holder
  · subst here
    by_cases there : right = grant
    · subst there
      simp
    · have unpaired : holderOf right ≠ some left := fun back => by
        rw [← paired left right, together, Option.some.injEq] at back
        exact there back.symm
      simpa [there] using unpaired
  · by_cases there : right = grant
    · subst there
      have unpaired : held left ≠ some right := fun forth => here (paired.injective forth together)
      simpa [here] using unpaired
    · simpa [here, there] using paired left right

end Paired

end Soma.Pairing
