import Soma.Foundation.Errors

/-!
`reference/domain/matching.py` and `reference/domain/validation.py`: how a name
or an account code is admitted and which match key it has. The Unicode tables
are parameters: `unicodedata2.normalize("NFKC", ..)` is a third-party package,
and the case folding and whitespace ranges are data of a checked-in asset.
-/

namespace Soma.Reference

open Foundation

def profileId : String := "UNICODE_MATCH_V1"

/-- NFKC normalization and the two tables of `_UnicodeMatchAsset`. -/
structure UnicodeMatch where
  nfkc : String → String
  casefold : Char → Option String
  isWhitespace : Char → Bool

/-- The characters a single-line text may not contain. -/
def forbidden (character : Char) : Bool :=
  character = '\x00' ∨ character = '\r' ∨ character = '\n'

def validateSingleLineText (field : String) (maxUtf8Bytes : Nat) (value : String) :
    Except Raised String := do
  ensure (value ≠ "") (validationError (field ++ " cannot be empty"))
  ensure (value.utf8ByteSize ≤ maxUtf8Bytes)
    (validationError (field ++ " exceeds its UTF-8 byte bound"))
  ensure (value.toList.any forbidden = false)
    (validationError (field ++ " contains a forbidden control/newline"))
  return value

def validateRawText (maxUtf8Bytes : Nat) (raw : String) : Except Raised Unit := do
  ensure (raw ≠ "") (validationError "matching input cannot be empty")
  ensure (raw.utf8ByteSize ≤ maxUtf8Bytes)
    (validationError "matching input exceeds its UTF-8 byte bound")
  ensure (raw.toList.any forbidden = false)
    (validationError "matching input contains a forbidden control character")

/-- `_collapse_unicode_whitespace` from a point where something (`begun`) and
then whitespace (`inWhitespace`) may have been read. -/
def collapseFrom (isWhitespace : Char → Bool) (begun inWhitespace : Bool) : List Char → List Char
  | [] => []
  | character :: rest =>
    if isWhitespace character then collapseFrom isWhitespace begun begun rest
    else if inWhitespace then ' ' :: character :: collapseFrom isWhitespace true false rest
    else character :: collapseFrom isWhitespace true false rest

def collapseUnicodeWhitespace (unicode : UnicodeMatch) (value : String) : String :=
  String.ofList (collapseFrom unicode.isWhitespace false false value.toList)

def normalizeMatchKey (unicode : UnicodeMatch) (rawMaxUtf8Bytes : Nat) (raw : String)
    (keyMaxUtf8Bytes : Nat := 2048) : Except Raised String := do
  validateRawText rawMaxUtf8Bytes raw
  let collapsed := collapseUnicodeWhitespace unicode (unicode.nfkc raw)
  let folded := String.join (collapsed.toList.map fun character =>
    (unicode.casefold character).getD character.toString)
  ensure (folded ≠ "") (validationError "matching input normalizes to an empty key")
  ensure (folded.utf8ByteSize ≤ keyMaxUtf8Bytes)
    (validationError "normalized matching key exceeds its UTF-8 byte bound")
  ensure (folded.toList.any forbidden = false)
    (validationError "normalized matching key contains a forbidden control character")
  return folded

/-- A validated single-line text with its match key. -/
def validateMatchText (unicode : UnicodeMatch) (field : String) (maxUtf8Bytes : Nat)
    (value : String) : Except Raised (String × String) := do
  let stored ← validateSingleLineText field maxUtf8Bytes value
  return (stored, ← normalizeMatchKey unicode maxUtf8Bytes stored)

def validateCustomerName (unicode : UnicodeMatch) : String → Except Raised (String × String) :=
  validateMatchText unicode "customer_organization.name" 1024

def validateAccountCode (unicode : UnicodeMatch) : String → Except Raised (String × String) :=
  validateMatchText unicode "customer_account_code" 512

def validateReasonCategory : Option String → Except Raised (Option String)
  | none => .ok none
  | some value => (validateSingleLineText "reason_category" 128 value).map some

/-- Matching ignores surrounding and repeated whitespace and case. -/
example : (normalizeMatchKey ⟨id, fun character => some character.toLower.toString, (· = ' ')⟩ 512
    "  Ab   C ").toOption = some "ab c" := by decide +kernel

end Soma.Reference
