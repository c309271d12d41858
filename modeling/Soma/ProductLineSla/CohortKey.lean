import Soma.ProductLineSla.IndividualSla

/-!
The identity of a cohort in `product_line_sla/algorithms/cohort_state.py`: its
parts, the bounds of its month in mainland Ecuador and its opaque text.

The time zone data base is a parameter, absent where Python finds none
installed.
-/

namespace Soma.ProductLineSla

open Foundation Tickets

structure CohortKeyParts where
  calendarMonth : String
  customerOrgId : String
  contractId : String
  contractProductLineId : String
  severity : SeverityClass
  policyTierId : String
  deriving DecidableEq

/-- `ZoneInfo("America/Guayaquil")`, when time zone data is installed: its UTC
offset in seconds at the local midnight that starts a year's month. -/
abbrev GuayaquilZone := Option (Nat → Nat → Int)

/-- The UTC offset `_guayaquil_timezone` gives the start of a month. -/
def guayaquilOffset (zone : GuayaquilZone) (year month : Nat) : Except Raised Int :=
  match zone with
  | some offset => .ok (offset year month)
  | none =>
    if year < 1993 then
      .error (validationError "America/Guayaquil historical timezone data is unavailable")
    else .ok (-18000)

/-- `_MONTH_RE.fullmatch`: four digits, a dash and a month. -/
def monthParts (calendarMonth : String) : Option (Nat × Nat) :=
  match calendarMonth.toList with
  | [y₁, y₂, y₃, y₄, dash, m₁, m₂] =>
    let digit (character : Char) : Nat := character.toNat - '0'.toNat
    let year := ((digit y₁ * 10 + digit y₂) * 10 + digit y₃) * 10 + digit y₄
    let month := digit m₁ * 10 + digit m₂
    if [y₁, y₂, y₃, y₄, m₁, m₂].all Char.isDigit ∧ dash = '-' ∧ 1 ≤ month ∧ month ≤ 12 then
      some (year, month)
    else none
  | _ => none

def isLeapYear (year : Nat) : Bool :=
  year % 4 = 0 ∧ (year % 100 ≠ 0 ∨ year % 400 = 0)

/-- The days from 1970-01-01 to the first of a month. -/
def daysToMonth (year month : Nat) : Int :=
  let past := year - 1
  let beforeYear := past * 365 + past / 4 - past / 100 + past / 400
  let february := if isLeapYear year then 29 else 28
  let beforeMonth :=
    ([31, february, 31, 30, 31, 30, 31, 31, 30, 31, 30, 31].take (month - 1)).sum
  (beforeYear + beforeMonth : Int) - 719162

/-- The UTC instant of the local midnight that starts a month. -/
def monthStart (zone : GuayaquilZone) (year month : Nat) : Except Raised Int := do
  return daysToMonth year month * 86400 - (← guayaquilOffset zone year month)

def canonicalMonthBounds (zone : GuayaquilZone) (calendarMonth : String) :
    Except Raised (Int × Int) := do
  match monthParts calendarMonth with
  | none => .error (validationError "calendar month must use YYYY-MM")
  | some (year, month) =>
    ensure (1970 ≤ year ∧ year < 9999)
      (validationError "calendar month is outside the supported UTC epoch range")
    let startUtc ← monthStart zone year month
    let endUtc ←
      if month = 12 then monthStart zone (year + 1) 1 else monthStart zone year (month + 1)
    ensure (0 ≤ startUtc ∧ startUtc < endUtc)
      (validationError "calendar month produced invalid UTC bounds")
    return (startUtc, endUtc)

/-- A digit of the URL-safe base 64 alphabet. -/
def base64Digit (value : Nat) : Char :=
  "ABCDEFGHIJKLMNOPQRSTUVWXYZabcdefghijklmnopqrstuvwxyz0123456789-_".toList.getD value 'A'

/-- `base64.urlsafe_b64encode(..).rstrip("=")`. -/
def urlsafeBase64 : List Nat → List Char
  | a :: b :: c :: rest =>
    base64Digit (a / 4) :: base64Digit (a % 4 * 16 + b / 16) ::
      base64Digit (b % 16 * 4 + c / 64) :: base64Digit (c % 64) :: urlsafeBase64 rest
  | [a, b] => [base64Digit (a / 4), base64Digit (a % 4 * 16 + b / 16), base64Digit (b % 16 * 4)]
  | [a] => [base64Digit (a / 4), base64Digit (a % 4 * 16)]
  | [] => []

/-- `encode_cohort_key`. The severity of the parts is one of the four. -/
def encodeCohortKey (zone : GuayaquilZone) (parts : CohortKeyParts) : Except Raised String := do
  requireUuid4 parts.customerOrgId
  requireUuid4 parts.contractId
  requireUuid4 parts.contractProductLineId
  requireUuid4 parts.policyTierId
  let _ ← canonicalMonthBounds zone parts.calendarMonth
  let encoded ← canonicalJson (.obj [
    ("schema", .str "SOMA_SLA_COHORT_KEY_V1"),
    ("calendar_month", .str parts.calendarMonth),
    ("customer_org_id", .str parts.customerOrgId),
    ("contract_id", .str parts.contractId),
    ("contract_product_line_id", .str parts.contractProductLineId),
    ("severity", .str parts.severity.text),
    ("policy_tier_id", .str parts.policyTierId)])
  return "v1." ++ String.ofList (urlsafeBase64 (encoded.toUTF8.data.toList.map UInt8.toNat))

example : canonicalMonthBounds none "2026-02" = .ok (1769922000, 1772341200) := by decide

example : canonicalMonthBounds none "2026-13" =
    .error (validationError "calendar month must use YYYY-MM") := by decide

end Soma.ProductLineSla
