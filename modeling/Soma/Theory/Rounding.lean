import Mathlib

/-!
Rounding to the nearest whole number, ties to the even one, and what happens when
a value was already rounded to a finer grid before (`twice_iff`): the second
rounding goes wrong exactly when the first has moved the value onto a tie that
is then broken away from it.
-/

namespace Soma.Rounding

/-- The whole number nearest to a fraction, the even one of two. -/
def halfEven (numerator denominator : ℕ) : ℕ :=
  let quotient := numerator / denominator
  let rest := numerator % denominator
  if 2 * rest < denominator then quotient
  else if denominator < 2 * rest then quotient + 1
  else if quotient % 2 = 0 then quotient
  else quotient + 1

/-- The whole number is the value rounded half to even. -/
structure IsHalfEven (value : ℚ) (rounded : ℕ) : Prop where
  below : value - rounded ≤ 1 / 2
  above : rounded - value ≤ 1 / 2
  even : value - rounded = 1 / 2 ∨ rounded - value = 1 / 2 → Even rounded

theorem IsHalfEven.unique (one : IsHalfEven value first) (other : IsHalfEven value second) :
    first = second := by
  wlog smaller : first < second generalizing first second
  · rcases Nat.lt_trichotomy first second with less | same | more
    · exact this one other less
    · exact same
    · exact (this other one more).symm
  exfalso
  have gap : (first : ℚ) + 1 ≤ second := by exact_mod_cast smaller
  have above := other.above
  have below := one.below
  -- the value lies half way, so both numbers would have to be even
  have apart : (second : ℚ) = first + 1 := by linarith
  have next : second = first + 1 := by exact_mod_cast apart
  have firstEven := one.even (.inl (by linarith))
  have secondEven := other.even (.inr (by linarith))
  rw [next, Nat.even_add_one] at secondEven
  exact secondEven firstEven

theorem isHalfEven_halfEven (numerator : ℕ) {denominator : ℕ} (positive : 0 < denominator) :
    IsHalfEven (numerator / denominator) (halfEven numerator denominator) := by
  have whole := Nat.div_add_mod numerator denominator
  have short := Nat.mod_lt numerator positive
  set quotient := numerator / denominator with quotientDef
  set rest := numerator % denominator with restDef
  have scale : (0 : ℚ) < denominator := by exact_mod_cast positive
  have value : (numerator : ℚ) / denominator = quotient + rest / denominator := by
    rw [← whole]
    push_cast
    field_simp
  have half : (rest : ℚ) / denominator * 2 * denominator = 2 * rest := by
    field_simp
  have nonneg : (0 : ℚ) ≤ rest / denominator := by positivity
  have less : (rest : ℚ) / denominator < 1 := by
    rw [div_lt_one scale]
    exact_mod_cast short
  have low : 2 * rest < denominator ↔ (rest : ℚ) / denominator < 1 / 2 := by
    rw [div_lt_iff₀ scale]
    constructor
    · intro lower
      have cast : (2 * rest : ℚ) < denominator := by exact_mod_cast lower
      linarith
    · intro lower
      have cast : (2 * rest : ℚ) < denominator := by linarith
      exact_mod_cast cast
  have high : denominator < 2 * rest ↔ 1 / 2 < (rest : ℚ) / denominator := by
    rw [lt_div_iff₀ scale]
    constructor
    · intro higher
      have cast : (denominator : ℚ) < 2 * rest := by exact_mod_cast higher
      linarith
    · intro higher
      have cast : (denominator : ℚ) < 2 * rest := by linarith
      exact_mod_cast cast
  rw [value]
  rw [halfEven]
  simp only [← quotientDef, ← restDef]
  by_cases lower : 2 * rest < denominator
  · rw [if_pos lower]
    have below := low.mp lower
    refine ⟨by linarith, by linarith, ?_⟩
    rintro (tie | tie) <;> linarith
  rw [if_neg lower]
  by_cases higher : denominator < 2 * rest
  · rw [if_pos higher]
    have above := high.mp higher
    refine ⟨by push_cast; linarith, by push_cast; linarith, ?_⟩
    push_cast
    rintro (tie | tie) <;> linarith
  rw [if_neg higher]
  have notLow := mt low.mpr lower
  have notHigh := mt high.mpr higher
  by_cases even : quotient % 2 = 0
  · rw [if_pos even]
    exact ⟨by linarith, by linarith, fun _ => Nat.even_iff.mpr even⟩
  · rw [if_neg even]
    refine ⟨by push_cast; linarith, by push_cast; linarith, fun _ => ?_⟩
    rw [Nat.even_add_one, Nat.even_iff]
    exact even

/-- A value at a tie, or beside it by so much. -/
def Beside (value step : ℚ) (whole : ℕ) : Prop :=
  value - (whole + 1 / 2) ≤ step / 2 ∧ whole + 1 / 2 - value ≤ step / 2

/-- The value lies so close to a tie that rounding to the step moves it there, on
the side the tie is broken away from. -/
def LostAtTie (value step : ℚ) : Prop :=
  ∃ whole : ℕ, Beside value step whole ∧
    ((Even whole ∧ (whole : ℚ) + 1 / 2 < value) ∨ (¬ Even whole ∧ value < whole + 1 / 2))

section Twice

variable {value : ℚ} {scale fine coarse : ℕ}

/-- A tie on a grid of a multiple of four steps is an even multiple of the step. -/
theorem fine_of_beside (scaled : 4 ∣ scale) (positive : 0 < scale)
    (first : IsHalfEven (value * scale) fine) (beside : Beside value (1 / scale) whole) :
    (fine : ℚ) = (whole + 1 / 2) * scale := by
  obtain ⟨quarter, rfl⟩ := scaled
  have units : (0 : ℚ) < (4 * quarter : ℕ) := by exact_mod_cast positive
  have tie : IsHalfEven (value * (4 * quarter : ℕ)) (2 * (quarter * (2 * whole + 1))) := by
    have place : ((2 * (quarter * (2 * whole + 1)) : ℕ) : ℚ) =
        (whole + 1 / 2) * (4 * quarter : ℕ) := by
      push_cast
      ring
    have shrink : (1 / ((4 * quarter : ℕ) : ℚ) / 2) * (4 * quarter : ℕ) = 1 / 2 := by
      field_simp
    obtain ⟨below, above⟩ := beside
    have below' := mul_le_mul_of_nonneg_right below units.le
    have above' := mul_le_mul_of_nonneg_right above units.le
    rw [shrink] at below' above'
    refine ⟨?_, ?_, fun _ => even_two_mul _⟩
    · rw [place]
      linarith
    · rw [place]
      linarith
  rw [first.unique tie]
  push_cast
  ring

/-- Away from the ties the second rounding is the rounding of the value. -/
theorem isHalfEven_of_apart (scaled : 4 ∣ scale) (positive : 0 < scale)
    (first : IsHalfEven (value * scale) fine) (second : IsHalfEven (fine / scale) coarse)
    (apart : ∀ whole : ℕ, (fine : ℚ) ≠ (whole + 1 / 2) * scale) : IsHalfEven value coarse := by
  obtain ⟨quarter, rfl⟩ := scaled
  have units : (0 : ℚ) < (4 * quarter : ℕ) := by exact_mod_cast positive
  have scaleUp : (fine : ℚ) / (4 * quarter : ℕ) * (4 * quarter : ℕ) = fine := by field_simp
  have below := mul_le_mul_of_nonneg_right second.below units.le
  have above := mul_le_mul_of_nonneg_right second.above units.le
  rw [sub_mul, scaleUp] at below above
  -- between whole numbers of steps there is at least one step to the tie
  have lower : fine < 2 * quarter + coarse * (4 * quarter) := by
    have atMost : fine ≤ 2 * quarter + coarse * (4 * quarter) := by
      have cast : (fine : ℚ) ≤ 2 * quarter + coarse * (4 * quarter : ℕ) := by
        push_cast at below ⊢
        linarith
      exact_mod_cast cast
    refine lt_of_le_of_ne atMost fun tie => apart coarse ?_
    rw [tie]
    push_cast
    ring
  have upper : coarse * (4 * quarter) < fine + 2 * quarter := by
    have atLeast : coarse * (4 * quarter) ≤ fine + 2 * quarter := by
      have cast : (coarse : ℚ) * (4 * quarter : ℕ) ≤ fine + 2 * quarter := by
        push_cast at above ⊢
        linarith
      exact_mod_cast cast
    refine lt_of_le_of_ne atLeast fun tie => ?_
    cases coarse with
    | zero =>
      have zero : quarter = 0 := by omega
      exact absurd positive (by rw [zero]; decide)
    | succ whole =>
      refine apart whole ?_
      have less : fine = whole * (4 * quarter) + 2 * quarter := by
        rw [Nat.succ_mul] at tie
        omega
      rw [less]
      push_cast
      ring
  have lower' : (fine : ℚ) + 1 ≤ 2 * quarter + coarse * (4 * quarter : ℕ) := by
    exact_mod_cast lower
  have upper' : (coarse : ℚ) * (4 * quarter : ℕ) + 1 ≤ fine + 2 * quarter := by
    exact_mod_cast upper
  have fineBelow := first.below
  have fineAbove := first.above
  have half : ((4 * quarter : ℕ) : ℚ) = 2 * (2 * quarter) := by
    push_cast
    ring
  have under : value - coarse < 1 / 2 := by
    by_contra far
    have far' := mul_le_mul_of_nonneg_right (not_lt.mp far) units.le
    rw [sub_mul] at far'
    linarith
  have beyond : (coarse : ℚ) - value < 1 / 2 := by
    by_contra far
    have far' := mul_le_mul_of_nonneg_right (not_lt.mp far) units.le
    rw [sub_mul] at far'
    linarith
  refine ⟨under.le, beyond.le, ?_⟩
  rintro (tie | tie) <;> linarith

/-- At a tie the second rounding is that of the value unless the value lies on
the other side. -/
theorem isHalfEven_at_tie (step : ℚ) (small : step ≤ 1) (beside : Beside value step whole)
    (second : IsHalfEven (whole + 1 / 2) coarse) :
    IsHalfEven value coarse ↔
      ¬ ((Even whole ∧ (whole : ℚ) + 1 / 2 < value) ∨
        (¬ Even whole ∧ value < whole + 1 / 2)) := by
  obtain ⟨_, _⟩ := beside
  by_cases even : Even whole
  · have chosen : coarse = whole :=
      second.unique ⟨by linarith, by linarith, fun _ => even⟩
    subst chosen
    constructor
    · rintro rounded (⟨-, beyond⟩ | ⟨odd, -⟩)
      · linarith [rounded.below]
      · exact odd even
    · intro inside
      have atMost : value ≤ coarse + 1 / 2 := by
        by_contra beyond
        exact inside (.inl ⟨even, not_le.mp beyond⟩)
      exact ⟨by linarith, by linarith, fun _ => even⟩
  · have oddNext : Even (whole + 1) := Nat.even_add_one.mpr even
    have chosen : coarse = whole + 1 :=
      second.unique ⟨by push_cast; linarith, by push_cast; linarith, fun _ => oddNext⟩
    subst chosen
    constructor
    · rintro rounded (⟨even', -⟩ | ⟨-, beyond⟩)
      · exact even even'
      · have above := rounded.above
        push_cast at above
        linarith
    · intro inside
      have atLeast : (whole : ℚ) + 1 / 2 ≤ value := by
        by_contra beyond
        exact inside (.inr ⟨even, not_le.mp beyond⟩)
      exact ⟨by push_cast; linarith, by push_cast; linarith, fun _ => oddNext⟩

/-- A value rounded to a grid and then to a whole number is the value rounded to a
whole number, unless it was lost at a tie. -/
theorem twice_iff (scaled : 4 ∣ scale) (positive : 0 < scale)
    (first : IsHalfEven (value * scale) fine) (second : IsHalfEven (fine / scale) coarse) :
    IsHalfEven value coarse ↔ ¬ LostAtTie value (1 / scale) := by
  have units : (0 : ℚ) < scale := by exact_mod_cast positive
  by_cases tie : ∃ whole : ℕ, (fine : ℚ) = (whole + 1 / 2) * scale
  · obtain ⟨whole, at_⟩ := tie
    have middle : (fine : ℚ) / scale = whole + 1 / 2 := by
      rw [at_]
      field_simp
    have beside : Beside value (1 / scale) whole := by
      have below := first.below
      have above := first.above
      rw [at_] at below above
      constructor
      · rw [div_div, le_div_iff₀ (by positivity)]
        linarith
      · rw [div_div, le_div_iff₀ (by positivity)]
        linarith
    have small : 1 / (scale : ℚ) ≤ 1 := by
      rw [div_le_one units]
      exact_mod_cast positive
    rw [middle] at second
    rw [isHalfEven_at_tie (1 / scale) small beside second]
    refine not_congr ⟨fun lost => ⟨whole, beside, lost⟩, ?_⟩
    rintro ⟨other, besideOther, lost⟩
    -- the grid point is the tie of one whole number only
    have same := (fine_of_beside scaled positive first besideOther).symm.trans at_
    have equal : (other : ℚ) = whole := by
      have cancel := mul_right_cancel₀ units.ne' same
      linarith
    have equal' : other = whole := by exact_mod_cast equal
    exact equal' ▸ lost
  · have apart : ∀ whole : ℕ, (fine : ℚ) ≠ (whole + 1 / 2) * scale := fun whole same =>
      tie ⟨whole, same⟩
    refine iff_of_true (isHalfEven_of_apart scaled positive first second apart) ?_
    rintro ⟨whole, beside, -⟩
    exact apart whole (fine_of_beside scaled positive first beside)

end Twice

end Soma.Rounding
