import Mathlib.Data.List.Sort
import Mathlib.Data.String.Basic
import Mathlib.Data.Prod.Lex
import Soma.Foundation.Errors
import Soma.Theory.Frames
import Soma.Theory.Grouping

/-!
`ticket_import/reconciliation/engine.py`, the part that fingerprints what a
source file says: `SOMA_IMPORT_LOGICAL_V1`, the byte stream over a profile, the
global findings and the row variants of a run.

A Python string is a `String`, so the encoder's refusal of lone surrogates has
no counterpart; UTF-8 keeps the order of code points, so sorting by encoded text
is sorting by text. `hashlib.sha256(..).hexdigest()` is a parameter.
-/

namespace Soma.Imports

open Foundation Frames Grouping

abbrev Bytes := List UInt8

/-- `hashlib.sha256(..).hexdigest()`. -/
abbrev Sha256 := Bytes → String

structure LogicalFinding where
  findingCode : String
  severity : String
  scopeKind : String
  fieldKey : Option String

structure LogicalField where
  fieldKey : String
  fieldClass : String
  valueState : String
  valueKind : String
  vocabularyId : Option String
  sourceText : Option String
  normalizedText : Option String
  integerValue : Option Int
  deriving DecidableEq

structure LogicalRow where
  identityState : String
  entityKind : String
  canonicalPrimaryId : Option String
  canonicalParentRfcNo : Option String
  fields : List LogicalField
  findings : List LogicalFinding

/-- `_VALID_CLASSIFICATIONS`: what `partition_row_variants` classifies a row as. -/
inductive RowClassification where
  | unique
  | equivalentDuplicate
  | conflictMember

def RowClassification.text : RowClassification → String
  | .unique => "UNIQUE"
  | .equivalentDuplicate => "EQUIVALENT_DUPLICATE"
  | .conflictMember => "CONFLICT_MEMBER"

structure LogicalRowVariant where
  classification : RowClassification
  duplicateCount : Nat
  conflictVariantCount : Nat
  row : LogicalRow
  rowLogicalSha256 : String

/-- The profile arguments of `compute_logical_fingerprint`. -/
@[ext]
structure ProfileIdentity where
  sourceFamily : String
  sourceProfileId : String
  headerRegistryId : String
  vocabularyRegistryId : String
  parserProfileId : String

def classificationFindings : List String :=
  ["SOURCE_EQUIVALENT_DUPLICATE", "SOURCE_IDENTITY_CONFLICT"]

/-- The findings that are framed: those not only about the classification. -/
def framedFindings (findings : List LogicalFinding) : List LogicalFinding :=
  findings.filter (·.findingCode ∉ classificationFindings)

/-! ## Primitive frames -/

def utf8 (value : String) : Bytes :=
  value.toUTF8.data.toList

/-- A tagged payload; a length of 2^64 or more raises `OverflowError`. -/
def frame (tag : UInt8) (payload : Bytes) : Except Raised Bytes :=
  if payload.length < 256 ^ 8 then .ok (typedFrame 8 tag payload) else .error .other

def frameNull : Except Raised Bytes :=
  frame 0 []

def frameText (value : String) : Except Raised Bytes := do
  ensure ('\x00' ∉ value.toList)
    (validationError "logical fingerprint text must be NUL-free Unicode")
  frame 1 (utf8 value)

def frameInteger (value : Int) : Except Raised Bytes := do
  ensure (0 ≤ value)
    (validationError "logical fingerprint integers must be nonnegative integers")
  frame 2 (utf8 (toString value.toNat))

def frameOptionalText : Option String → Except Raised Bytes
  | none => frameNull
  | some value => frameText value

/-! ## Fields, findings and rows -/

def sourceTextToken (sha256 : Sha256) : Option String → Except Raised String
  | none => .ok "NO_SOURCE_TEXT"
  | some sourceText => do
    ensure ('\x00' ∉ sourceText.toList)
      (validationError "logical source_text token input must be NUL-free")
    return "SOURCE_TEXT_SHA256:" ++ sha256 (utf8 sourceText)

/-- What is framed of a field's value. -/
inductive FramedValue where
  | text (value : String)
  | integer (value : Int)

def FramedValue.frame : FramedValue → Except Raised Bytes
  | .text value => frameText value
  | .integer value => frameInteger value

/-- `_field_value_frame` up to the framing itself. -/
def framedValue (sha256 : Sha256) (field : LogicalField) : Except Raised FramedValue :=
  if field.valueState = "usable" then
    if field.valueKind ∈ ["text", "controlled"] then
      match field.normalizedText, field.integerValue with
      | some text, none => .ok (.text text)
      | _, _ => .error (validationError
          "usable text/controlled logical field requires normalized_text only")
    else if field.valueKind ∈ ["instant", "duration_seconds"] then
      match field.normalizedText, field.integerValue with
      | none, some integer => .ok (.integer integer)
      | _, _ => .error (validationError
          "usable instant/duration logical field requires integer_value only")
    else .error (validationError "logical field value_kind is outside SOMA_IMPORT_LOGICAL_V1")
  else if field.normalizedText ≠ none ∨ field.integerValue ≠ none then
    .error (validationError "non-usable logical field cannot carry normalized authority")
  else if field.valueState = "blank" then .ok (.text "BLANK")
  else if field.valueState ∈ ["unknown", "malformed"] then do
    return .text (← sourceTextToken sha256 field.sourceText)
  else .error (validationError "logical field value_state is outside SOMA_IMPORT_LOGICAL_V1")

def fieldValueFrame (sha256 : Sha256) (field : LogicalField) : Except Raised Bytes := do
  (← framedValue sha256 field).frame

def fieldFrame (sha256 : Sha256) (field : LogicalField) : Except Raised Bytes := do
  ensure (field.valueKind = "controlled" → field.vocabularyId ≠ none)
    (validationError "controlled logical field requires vocabulary_id")
  ensure (field.valueKind ≠ "controlled" → field.vocabularyId = none)
    (validationError "non-controlled logical field cannot carry vocabulary_id")
  let version ← frameText "FIELD_V1"
  let key ← frameText field.fieldKey
  let fieldClass ← frameText field.fieldClass
  let state ← frameText field.valueState
  let kind ← frameText field.valueKind
  let vocabulary ← frameOptionalText field.vocabularyId
  let value ← fieldValueFrame sha256 field
  return version ++ (key ++ (fieldClass ++ (state ++ (kind ++ (vocabulary ++ value)))))

/-- `_finding_sort_key`: an absent field key comes first. -/
def findingSortKey (finding : LogicalFinding) : String ×ₗ String ×ₗ String ×ₗ WithBot String :=
  toLex (finding.findingCode, toLex (finding.severity, toLex (finding.scopeKind, finding.fieldKey)))

/-- The framed findings in the order of their keys. -/
def sortedFindings (findings : List LogicalFinding) : List LogicalFinding :=
  (framedFindings findings).insertionSort fun left right =>
    findingSortKey left ≤ findingSortKey right

def findingFrame (finding : LogicalFinding) : Except Raised Bytes := do
  let version ← frameText "FINDING_V1"
  let code ← frameText finding.findingCode
  let severity ← frameText finding.severity
  let scope ← frameText finding.scopeKind
  let key ← frameOptionalText finding.fieldKey
  return version ++ (code ++ (severity ++ (scope ++ key)))

/-- The fields of a row in the order of their keys. -/
def sortedFields (row : LogicalRow) : List LogicalField :=
  row.fields.insertionSort fun left right => left.fieldKey ≤ right.fieldKey

def rowFrame (sha256 : Sha256) (row : LogicalRow) : Except Raised Bytes := do
  ensure (row.identityState ∈ ["valid", "invalid"])
    (validationError "logical row identity_state must be valid or invalid")
  ensure (row.identityState = "invalid" →
      row.canonicalPrimaryId = none ∧ row.canonicalParentRfcNo = none)
    (validationError "invalid logical row cannot carry canonical identity")
  ensure (row.fields.map (·.fieldKey)).Nodup
    (validationError "logical row cannot repeat a canonical field_key")
  let fields := sortedFields row
  let findings := sortedFindings row.findings
  let version ← frameText "ROW_V1"
  let state ← frameText row.identityState
  let entity ← frameText row.entityKind
  let primary ← frameOptionalText row.canonicalPrimaryId
  let parent ← frameOptionalText row.canonicalParentRfcNo
  let fieldCount ← frameInteger fields.length
  let fieldFrames ← fields.mapM (fieldFrame sha256)
  let findingCount ← frameInteger findings.length
  let findingFrames ← findings.mapM findingFrame
  return version ++ (state ++ (entity ++ (primary ++ (parent ++ (fieldCount ++
    (fieldFrames.flatten ++ (findingCount ++ findingFrames.flatten)))))))

/-! ## Variants -/

def identityKey (row : LogicalRow) : String × Option String × Option String :=
  (row.entityKind, row.canonicalPrimaryId, row.canonicalParentRfcNo)

/-- `_variant_sort_key`: invalid rows first, an absent identity before any. -/
def variantSortKey (variant : LogicalRowVariant) :
    Nat ×ₗ WithBot String ×ₗ WithBot String ×ₗ String :=
  toLex (if variant.row.identityState = "invalid" then 0 else 1,
    toLex (variant.row.canonicalPrimaryId,
      toLex (variant.row.canonicalParentRfcNo, variant.rowLogicalSha256)))

/-- A row with `row_logical_sha256`. -/
abbrev PreparedRow := LogicalRow × String

def prepareRow (sha256 : Sha256) (row : LogicalRow) : Except Raised PreparedRow := do
  return (row, sha256 (← rowFrame sha256 row))

/-- The variant the occurrences of one digest make, in a group of so many
digests. -/
def rowVariant (conflictVariantCount : Nat) (group : String × List PreparedRow) :
    Option LogicalRowVariant :=
  group.2.head?.map fun first =>
    { classification :=
        if 1 < conflictVariantCount then .conflictMember
        else if 1 < group.2.length then .equivalentDuplicate
        else .unique
      duplicateCount := group.2.length
      conflictVariantCount
      row := first.1
      rowLogicalSha256 := group.1 }

/-- The variants of the valid rows of one identity. -/
def identityVariants (occurrences : List PreparedRow) : List LogicalRowVariant :=
  let byDigest := gather Prod.snd occurrences
  byDigest.filterMap (rowVariant byDigest.length)

/-- `partition_row_variants` over prepared rows, before the final sort. The two
nested dictionaries are built one level at a time. -/
def partitionPrepared (prepared : List PreparedRow) : List LogicalRowVariant :=
  let valid := prepared.filter (·.1.identityState = "valid")
  let invalid := prepared.filter (·.1.identityState ≠ "valid")
  (gather (fun occurrence => identityKey occurrence.1) valid).flatMap
      (fun group => identityVariants group.2) ++
    (gather Prod.snd invalid).filterMap (rowVariant 1)

def partitionRowVariants (sha256 : Sha256) (rows : List LogicalRow) :
    Except Raised (List LogicalRowVariant) := do
  let prepared ← rows.mapM (prepareRow sha256)
  return (partitionPrepared prepared).insertionSort fun left right =>
    variantSortKey left ≤ variantSortKey right

/-! ## The stream -/

/-- The four parts of the stream a variant gives. -/
def variantFrame (sha256 : Sha256) (variant : LogicalRowVariant) : Except Raised Bytes := do
  let classification ← frameText variant.classification.text
  let duplicates ← frameInteger variant.duplicateCount
  let conflicts ← frameInteger variant.conflictVariantCount
  let row ← rowFrame sha256 variant.row
  return classification ++ (duplicates ++ (conflicts ++ row))

/-- The inputs of `compute_logical_fingerprint`. -/
structure LogicalInput where
  profile : ProfileIdentity
  rows : List LogicalRow
  globalFindings : List LogicalFinding

/-- The byte stream that is fed to the digest, with the variants it frames. -/
def logicalStream (sha256 : Sha256) (input : LogicalInput) :
    Except Raised (Bytes × List LogicalRowVariant) := do
  let findings := sortedFindings input.globalFindings
  let variants ← partitionRowVariants sha256 input.rows
  let magic ← frameText "SOMA_IMPORT_LOGICAL_V1"
  let family ← frameText input.profile.sourceFamily
  let profile ← frameText input.profile.sourceProfileId
  let headers ← frameText input.profile.headerRegistryId
  let vocabulary ← frameText input.profile.vocabularyRegistryId
  let parser ← frameText input.profile.parserProfileId
  let findingCount ← frameInteger findings.length
  let findingFrames ← findings.mapM findingFrame
  let variantCount ← frameInteger variants.length
  let variantFrames ← variants.mapM (variantFrame sha256)
  return (magic ++ (family ++ (profile ++ (headers ++ (vocabulary ++ (parser ++ (findingCount ++
    (findingFrames.flatten ++ (variantCount ++ variantFrames.flatten)))))))), variants)

structure LogicalFingerprintResult where
  logicalFingerprintSha256 : String
  streamBytes : Nat
  variants : List LogicalRowVariant

def computeLogicalFingerprint (sha256 : Sha256) (input : LogicalInput) :
    Except Raised LogicalFingerprintResult := do
  let (stream, variants) ← logicalStream sha256 input
  return ⟨sha256 stream, stream.length, variants⟩

end Soma.Imports
