import Soma.Imports.LogicalFingerprint
import Soma.Reference.Validation
import Soma.Theory.Rounding

/-!
`_parse_duration_field` of `ticket_import/parsing/advanced_search.py`: a cell read
as a decimal number of days becomes whole seconds. The product with 86400 runs
under the default context of `decimal`, which keeps 28 significant digits, and is
then rounded once more; the two roundings together miss the exact one only where
the first moves the product onto a half second (`duration_seconds_exact_iff`).

A cell has at most 65536 bytes, so the exponent limits of `decimal` are never met.
The digits `str` gives for a float come with the cell.
-/

namespace Soma.Imports

open Foundation Reference Rounding

/-! ## Decimal numbers -/

/-- A finite `decimal.Decimal`. -/
structure Decimal where
  negative : Bool
  coefficient : Nat
  exponent : Int
  deriving DecidableEq

/-- `prec` of the default context. -/
def contextPrecision : Nat := 28

def significantDigits (coefficient : Nat) : Nat := (Nat.digits 10 coefficient).length

namespace Decimal

/-- The absolute value. -/
def magnitude (decimal : Decimal) : ℚ :=
  decimal.coefficient * 10 ^ decimal.exponent

/-- A result rounded to the precision of the context, half to even. -/
def rounded (decimal : Decimal) : Decimal :=
  let excess := significantDigits decimal.coefficient - contextPrecision
  if excess = 0 then decimal
  else
    { decimal with
      coefficient := halfEven decimal.coefficient (10 ^ excess)
      exponent := decimal.exponent + excess }

/-- The product before it is rounded. -/
def product (left right : Decimal) : Decimal where
  negative := left.negative != right.negative
  coefficient := left.coefficient * right.coefficient
  exponent := left.exponent + right.exponent

/-- `left * right`. -/
def times (left right : Decimal) : Decimal :=
  (left.product right).rounded

/-- The coefficient at exponent zero, half to even. -/
def units (decimal : Decimal) : Nat :=
  if 0 ≤ decimal.exponent then decimal.coefficient * 10 ^ decimal.exponent.toNat
  else halfEven decimal.coefficient (10 ^ (-decimal.exponent).toNat)

/-- `quantize(Decimal(1), rounding=ROUND_HALF_EVEN)`, which signals an invalid
operation when the coefficient does not fit the precision. -/
def quantize (decimal : Decimal) : Option Decimal :=
  if significantDigits decimal.units ≤ contextPrecision then
    some ⟨decimal.negative, decimal.units, 0⟩
  else none

/-- `int` of a whole number. -/
def toInt (decimal : Decimal) : Int :=
  if decimal.negative then -decimal.units else decimal.units

/-- `decimal < 0`. -/
def isNegative (decimal : Decimal) : Bool :=
  decimal.negative ∧ decimal.coefficient ≠ 0

end Decimal

/-! ## The cell -/

/-- The value of a cell, as far as a duration field tells values apart. -/
inductive CellValue where
  | absent
  | text (value : String)
  | integer (value : Int)
  /-- A float with its `str`, and the number these digits give when it is finite. -/
  | float (token : String) (decimal : Option Decimal)
  /-- A boolean, a date or a time, with its source text. -/
  | unsupported (sourceText : String)

structure ImportFieldSpec where
  fieldKey : String
  fieldClass : String
  valueKind : String
  vocabularyId : Option String
  maxUtf8Bytes : Nat
  maxLines : Nat

def sourceError (code message : String) : Raised :=
  .soma ⟨.somaError, code, message, false⟩

def scalarSourceText : CellValue → Option String
  | .absent => none
  | .text value => some value
  | .integer value => some (toString value)
  | .float token _ => some token
  | .unsupported sourceText => some sourceText

def validateSourceText (sourceText : Option String) (spec : ImportFieldSpec) : Except Raised Unit :=
  match sourceText with
  | none => .ok ()
  | some text => do
    ensure ('\x00' ∉ text.toList)
      (sourceError "IMPORT_SOURCE_PROFILE_MISMATCH" (spec.fieldKey ++ " contains NUL"))
    ensure (text.utf8ByteSize ≤ min spec.maxUtf8Bytes 65536)
      (sourceError "XLSX_RESOURCE_LIMIT" (spec.fieldKey ++ " exceeds its UTF-8 byte ceiling"))
    ensure (spec.maxLines = 1 → '\r' ∉ text.toList ∧ '\n' ∉ text.toList)
      (sourceError "XLSX_RESOURCE_LIMIT" (spec.fieldKey ++ " exceeds its line ceiling"))
    ensure (text.toList.count '\n' + 1 ≤ spec.maxLines)
      (sourceError "XLSX_RESOURCE_LIMIT" (spec.fieldKey ++ " exceeds its line ceiling"))

def trimMatchWhitespace (unicode : UnicodeMatch) (value : String) : List Char :=
  ((value.toList.dropWhile unicode.isWhitespace).reverse.dropWhile unicode.isWhitespace).reverse

def isDecimalDigit (character : Char) : Bool :=
  '0' ≤ character ∧ character ≤ '9'

/-- The number a run of digits writes. -/
def digitsValue (digits : List Char) : Nat :=
  digits.foldl (fun value digit => value * 10 + (digit.toNat - '0'.toNat)) 0

/-- `Decimal` of a text that `_DECIMAL_DAYS` matches: digits with an optional sign
and an optional fraction, or a fraction alone. -/
def decimalDays (characters : List Char) : Option Decimal :=
  let unsigned := match characters with
    | '+' :: rest => rest
    | all => all
  let whole := unsigned.takeWhile isDecimalDigit
  match unsigned.dropWhile isDecimalDigit with
  | [] => if whole = [] then none else some ⟨false, digitsValue whole, 0⟩
  | '.' :: fraction =>
    if fraction ≠ [] ∧ fraction.all isDecimalDigit then
      some ⟨false, digitsValue (whole ++ fraction), -fraction.length⟩
    else none
  | _ => none

/-- `_duration_decimal`; `none` is a `ValueError`, or a number that is not finite. -/
def durationDecimal (unicode : UnicodeMatch) : CellValue → Option (Decimal × String)
  | .absent => none
  | .text value => (decimalDays (trimMatchWhitespace unicode value)).map fun days => (days, value)
  | .integer value => some (⟨value < 0, value.natAbs, 0⟩, toString value)
  | .float token decimal => decimal.map fun days => (days, token)
  | .unsupported _ => none

/-- `Decimal(86_400)`. -/
def secondsPerDay : Decimal := ⟨false, 86400, 0⟩

def int64Max : Int := 9223372036854775807

/-- The seconds of a number of days, when they are in range. -/
def durationSeconds (days : Decimal) : Option Int :=
  if days.isNegative then none
  else (days.times secondsPerDay).quantize.bind fun seconds =>
    if seconds.toInt < 0 ∨ int64Max < seconds.toInt then none else some seconds.toInt

def malformedField (spec : ImportFieldSpec) (sourceText : Option String) : LogicalField where
  fieldKey := spec.fieldKey
  fieldClass := spec.fieldClass
  valueState := "malformed"
  valueKind := spec.valueKind
  vocabularyId := spec.vocabularyId
  sourceText := sourceText
  normalizedText := none
  integerValue := none

/-- A usable duration field. -/
def durationField (spec : ImportFieldSpec) (sourceText : String) (seconds : Int) :
    LogicalField where
  fieldKey := spec.fieldKey
  fieldClass := spec.fieldClass
  valueState := "usable"
  valueKind := "duration_seconds"
  vocabularyId := none
  sourceText := some sourceText
  normalizedText := none
  integerValue := some seconds

/-- Nothing but whitespace, or nothing at all. -/
def isBlankCell (unicode : UnicodeMatch) : CellValue → Bool
  | .absent => true
  | .text value => trimMatchWhitespace unicode value = []
  | _ => false

def parseDurationField (unicode : UnicodeMatch) (spec : ImportFieldSpec) (value : CellValue) :
    Except Raised LogicalField := do
  let sourceText := scalarSourceText value
  validateSourceText sourceText spec
  if isBlankCell unicode value then return durationField spec (sourceText.getD "") 0
  else
    match durationDecimal unicode value with
    | none => return malformedField spec sourceText
    | some (days, evidence) =>
      match durationSeconds days with
      | none => return malformedField spec sourceText
      | some seconds => return durationField spec evidence seconds

/-! ## The two roundings -/

namespace Decimal

variable {decimal : Decimal}

theorem units_isHalfEven : IsHalfEven decimal.magnitude decimal.units := by
  rw [magnitude, units]
  split
  case isTrue whole =>
    obtain ⟨power, same⟩ := Int.eq_ofNat_of_zero_le whole
    rw [same, zpow_natCast, Int.toNat_natCast]
    refine ⟨by push_cast; linarith, by push_cast; linarith, ?_⟩
    push_cast
    rintro (tie | tie) <;> linarith
  case isFalse fraction =>
    obtain ⟨power, same⟩ := Int.eq_ofNat_of_zero_le (by omega : 0 ≤ -decimal.exponent)
    have negative : decimal.exponent = -(power : Int) := by omega
    have rational : (decimal.coefficient : ℚ) * 10 ^ decimal.exponent =
        decimal.coefficient / (10 ^ power : ℕ) := by
      rw [negative, zpow_neg, zpow_natCast]
      push_cast
      rw [div_eq_mul_inv]
    rw [rational, same, Int.toNat_natCast]
    exact isHalfEven_halfEven _ (by positivity)

/-- The unit of the last digit a context keeps, when it drops digits. -/
def lastKept (decimal : Decimal) : ℚ :=
  10 ^ (decimal.exponent + (significantDigits decimal.coefficient - contextPrecision : ℕ))

/-- The number has more digits than the context keeps, and the digits it keeps
make it a tie it does not lie on. -/
def LostInContext (decimal : Decimal) : Prop :=
  contextPrecision < significantDigits decimal.coefficient ∧
    LostAtTie decimal.magnitude decimal.lastKept

theorem le_halfEven_of_digits {coefficient : ℕ}
    (long : significantDigits coefficient = contextPrecision + excess) :
    10 ^ 27 ≤ halfEven coefficient (10 ^ excess) := by
  have large : 10 ^ (27 + excess) ≤ coefficient := by
    have digits := Nat.lt_digits_length_iff (b := 10) (by decide) (k := 27 + excess) coefficient
    rw [← digits, ← significantDigits, long, contextPrecision]
    omega
  have quotient : 10 ^ 27 ≤ coefficient / 10 ^ excess := by
    rw [Nat.le_div_iff_mul_le (by positivity), ← pow_add]
    exact large
  have step : coefficient / 10 ^ excess ≤ halfEven coefficient (10 ^ excess) := by
    rw [halfEven]
    split_ifs <;> omega
  exact quotient.trans step

/-- A number rounded by the context and then to units, as long as it stays within
64 bits. -/
theorem units_rounded_iff (fits : (decimal.rounded.units : Int) ≤ 9223372036854775807) :
    IsHalfEven decimal.magnitude decimal.rounded.units ↔ ¬ decimal.LostInContext := by
  by_cases short : significantDigits decimal.coefficient - contextPrecision = 0
  · have kept : decimal.rounded = decimal := by rw [rounded]; simp only [if_pos short]
    rw [kept]
    refine iff_of_true units_isHalfEven fun lost => ?_
    have long := lost.1
    omega
  obtain ⟨excess, count⟩ :
      ∃ excess, significantDigits decimal.coefficient - contextPrecision = excess := ⟨_, rfl⟩
  have some : excess ≠ 0 := count ▸ short
  have long : significantDigits decimal.coefficient = contextPrecision + excess := by omega
  have large := le_halfEven_of_digits long
  set kept := halfEven decimal.coefficient (10 ^ excess) with keptDef
  have shape : decimal.rounded = { decimal with
      coefficient := kept
      exponent := decimal.exponent + excess } := by
    rw [rounded]
    simp only [count, if_neg some, ← keptDef]
  rw [shape, units] at fits ⊢
  dsimp only at fits ⊢
  -- at a whole number of units 27 digits are too many
  by_cases whole : 0 ≤ decimal.exponent + excess
  · exfalso
    rw [if_pos whole] at fits
    have one : 1 ≤ 10 ^ (decimal.exponent + excess).toNat := Nat.one_le_pow _ _ (by decide)
    have most := Nat.mul_le_mul large one
    have bound : kept * 10 ^ (decimal.exponent + excess).toNat ≤ 9223372036854775807 := by
      exact_mod_cast fits
    omega
  rw [if_neg whole] at fits ⊢
  obtain ⟨places, same⟩ := Int.eq_ofNat_of_zero_le (by omega : 0 ≤ -(decimal.exponent + excess))
  rw [same, Int.toNat_natCast] at fits ⊢
  have second := isHalfEven_halfEven kept (by positivity : 0 < 10 ^ places)
  have first : IsHalfEven (decimal.magnitude * (10 ^ places : ℕ)) kept := by
    have value : decimal.magnitude * (10 ^ places : ℕ) =
        decimal.coefficient / (10 ^ excess : ℕ) := by
      have exponent : decimal.exponent = -(excess : Int) - places := by omega
      rw [magnitude, exponent, zpow_sub₀ (by norm_num), zpow_neg, zpow_natCast, zpow_natCast]
      push_cast
      field_simp
    rw [value]
    exact isHalfEven_halfEven _ (by positivity)
  have scaled : 4 ∣ 10 ^ places := by
    by_contra few
    have atMost : places ≤ 1 := by
      by_contra more
      obtain ⟨rest, split⟩ := Nat.exists_eq_add_of_le (not_le.mp more : 2 ≤ places)
      exact few (split ▸ ⟨25 * 10 ^ rest, by rw [pow_add]; ring⟩)
    have power : 10 ^ places ≤ 10 := by
      calc 10 ^ places ≤ 10 ^ 1 := Nat.pow_le_pow_right (by decide) atMost
        _ = 10 := rfl
    have quotient : kept / 10 ^ places ≤ halfEven kept (10 ^ places) := by
      rw [halfEven]
      split_ifs <;> omega
    have least : 10 ^ 26 ≤ kept / 10 ^ places := by
      rw [Nat.le_div_iff_mul_le (by positivity)]
      calc 10 ^ 26 * 10 ^ places ≤ 10 ^ 26 * 10 := Nat.mul_le_mul_left _ power
        _ = 10 ^ 27 := by norm_num
        _ ≤ kept := large
    have bound : halfEven kept (10 ^ places) ≤ 9223372036854775807 := by exact_mod_cast fits
    omega
  have step : decimal.lastKept = 1 / (10 ^ places : ℕ) := by
    have exponent : decimal.exponent + excess = -(places : Int) := by omega
    rw [lastKept, count, exponent, zpow_neg, zpow_natCast]
    push_cast
    rw [one_div]
  have twice := twice_iff scaled (by positivity) first second
  rw [twice, LostInContext, step]
  exact not_congr ⟨fun lost => ⟨by omega, lost⟩, And.right⟩

end Decimal

theorem product_secondsPerDay (days : Decimal) :
    (days.product secondsPerDay).magnitude = days.magnitude * 86400 := by
  rw [Decimal.magnitude, Decimal.magnitude, Decimal.product, secondsPerDay]
  push_cast
  rw [add_zero]
  ring

/-- The seconds that are stored are the product rounded twice. -/
theorem durationSeconds_eq (found : durationSeconds days = some seconds) :
    seconds = (days.times secondsPerDay).units ∧ seconds ≤ int64Max := by
  rw [durationSeconds] at found
  split at found
  case isTrue => cases found
  case isFalse positive =>
    obtain ⟨_, quantized, found⟩ := Option.bind_eq_some_iff.mp found
    rw [Decimal.quantize] at quantized
    split at quantized
    case isFalse => cases quantized
    case isTrue =>
      obtain rfl := Option.some.inj quantized
      split at found
      case isTrue => cases found
      case isFalse inRange =>
        obtain rfl := Option.some.inj found
        simp only [not_or, not_lt] at inRange
        refine ⟨?_, inRange.2⟩
        have digits : (⟨(days.times secondsPerDay).negative, (days.times secondsPerDay).units, 0⟩ :
            Decimal).units = (days.times secondsPerDay).units := by
          simp [Decimal.units]
        rw [Decimal.toInt, digits] at inRange ⊢
        split
        case isFalse => rfl
        case isTrue negative =>
          rw [if_pos negative] at inRange
          omega

/-- When the seconds stored for a number of days are the exact number of seconds
rounded half to even once. -/
theorem duration_seconds_exact_iff (unicode : UnicodeMatch) (spec : ImportFieldSpec)
    (cell : CellValue) (field : LogicalField) (days : Decimal) (evidence : String)
    (read : durationDecimal unicode cell = some (days, evidence))
    (parsed : parseDurationField unicode spec cell = .ok field)
    (usable : field.valueState = "usable") :
    ∃ seconds : ℕ, field.integerValue = some (seconds : Int) ∧
      (IsHalfEven (days.magnitude * 86400) seconds ↔
        ¬ (days.product secondsPerDay).LostInContext) := by
  have written : isBlankCell unicode cell = false := by
    cases cell with
    | absent => cases read
    | text value =>
      rw [isBlankCell]
      refine decide_eq_false fun blank => ?_
      rw [durationDecimal, blank] at read
      cases read
    | integer value => rfl
    | float token decimal => rfl
    | unsupported sourceText => rfl
  simp only [parseDurationField, except_ok, written, read] at parsed
  obtain ⟨-, parsed⟩ := parsed
  cases found : durationSeconds days with
  | none =>
    rw [found] at parsed
    obtain rfl : malformedField spec (scalarSourceText cell) = field := Except.ok.inj parsed
    exact absurd usable (by simp [malformedField])
  | some seconds =>
    rw [found] at parsed
    obtain rfl : durationField spec evidence seconds = field := Except.ok.inj parsed
    obtain ⟨same, bound⟩ := durationSeconds_eq found
    rw [same] at bound
    refine ⟨(days.times secondsPerDay).units, by rw [← same]; rfl, ?_⟩
    rw [← product_secondsPerDay]
    exact Decimal.units_rounded_iff bound

/-! A text of 40 decimals whose product lies a little above half a second. -/

def suspensionDuration : ImportFieldSpec where
  fieldKey := "suspension_duration"
  fieldClass := "active"
  valueKind := "duration_seconds"
  vocabularyId := none
  maxUtf8Bytes := 65536
  maxLines := 512

def blankOnly : UnicodeMatch where
  nfkc value := value
  casefold character := some (String.singleton character)
  isWhitespace character := character = ' '

def halfSecondText : String := "0.0000057870370370370370370370370370370371"

/-- It is stored as no second at all, and rounds to one second. -/
theorem duration_seconds_lost :
    parseDurationField blankOnly suspensionDuration (.text halfSecondText) =
        .ok (durationField suspensionDuration halfSecondText 0) ∧
      IsHalfEven ((⟨false, 57870370370370370370370370370370371, -40⟩ : Decimal).magnitude * 86400)
        1 ∧
      ¬ IsHalfEven
        ((⟨false, 57870370370370370370370370370370371, -40⟩ : Decimal).magnitude * 86400) 0 := by
  have one : IsHalfEven
      ((⟨false, 57870370370370370370370370370370371, -40⟩ : Decimal).magnitude * 86400) 1 := by
    rw [Decimal.magnitude]
    constructor <;> norm_num
  exact ⟨by decide +kernel, one, fun zero => absurd (zero.unique one) (by decide)⟩

/-- A day and a half is stored as 129600 seconds. -/
theorem duration_seconds_exact_sample :
    IsHalfEven ((⟨false, 15, -1⟩ : Decimal).magnitude * 86400) 129600 := by
  obtain ⟨seconds, stored, exactly⟩ := duration_seconds_exact_iff blankOnly suspensionDuration
    (.text "1.5") (durationField suspensionDuration "1.5" 129600) ⟨false, 15, -1⟩ "1.5"
    (by decide +kernel) (by decide +kernel) rfl
  have same : (seconds : Int) = 129600 := by simpa [durationField] using stored.symm
  obtain rfl : seconds = 129600 := by omega
  refine exactly.mpr fun lost => ?_
  exact absurd lost.1 (by decide +kernel)

end Soma.Imports
