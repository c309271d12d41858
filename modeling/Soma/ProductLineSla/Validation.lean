import Soma.ProductLineSla.Tables
import Soma.Tickets.RfcHierarchy

/-!
`product_line_sla/validation.py`: the bounded texts the commands of the package accept.
-/

namespace Soma.ProductLineSla

open Foundation Tickets Transaction

/-- `SomaError(code, message)`. -/
def slaError (code message : String) : Raised :=
  .soma ⟨.somaError, code, message, false⟩

/-- The text fields of `_BOUNDS`. -/
inductive TextField where
  | productLineName
  | contractName
  | contractReference
  | policyName
  | reasonCode

def TextField.text : TextField → String
  | .productLineName => "product_line_name"
  | .contractName => "contract_name"
  | .contractReference => "contract_reference"
  | .policyName => "policy_name"
  | .reasonCode => "reason_code"

/-- `_BOUNDS`: grapheme clusters and UTF-8 bytes. -/
def TextField.bounds : TextField → Nat × Nat
  | .productLineName | .policyName => (160, 640)
  | .contractName => (200, 800)
  | .contractReference => (120, 480)
  | .reasonCode => (96, 384)

/-- `str.strip`, and the number of grapheme clusters the `regex` package finds. -/
structure TextLibrary where
  strip : String → String
  graphemes : String → Nat

def validateBoundedText (library : TextLibrary) (field : TextField) (value : String) :
    Except Raised String := do
  ensure (value ≠ "" ∧ value = library.strip value ∧ '\x00' ∉ value.toList)
    (validationError (field.text ++ " must be nonblank bounded text"))
  ensure (value.utf8ByteSize ≤ field.bounds.2)
    (validationError (field.text ++ " exceeds its UTF-8 byte bound"))
  ensure (library.graphemes value ≤ field.bounds.1)
    (validationError (field.text ++ " exceeds its grapheme bound"))
  ensure (library.graphemes value ≠ 0) (validationError (field.text ++ " cannot be blank"))
  return value

def validateReasonCode (library : TextLibrary) (value : String) : Except Raised String := do
  let result ← validateBoundedText library .reasonCode value
  ensure ('\r' ∉ result.toList ∧ '\n' ∉ result.toList)
    (validationError "reason_code must be one line")
  return result

end Soma.ProductLineSla
