import Soma.Foundation.Errors
import Mathlib.Data.List.Sort

/-!
`foundation/strict_json.py`: strict JSON values, their canonical text and the
bounded contract every persisted document goes through.

`Json` is the domain of `json.dumps`. A float is carried by the shortest
decimal text Python prints for it; `unencodable` stands for the values
`json.dumps` or the UTF-8 encoder refuses (non-finite numbers, lone surrogates,
foreign objects). Reading text back is `json.loads` with the strict hooks: it
is a parameter of the functions that read, since nothing here depends on more
than its result being determined by the text.
-/

namespace Soma.Foundation

/-- A Python value handed to `json.dumps`. -/
inductive Json where
  | null
  | bool (value : Bool)
  | int (value : Int)
  | float (shortest : String)
  | str (value : String)
  | arr (items : List Json)
  | obj (fields : List (String × Json))
  | unencodable

/-- Library functions the modelled code calls: `json.loads` with the strict
hooks, and `hashlib.sha256(..).hexdigest()` of UTF-8 text. -/
structure PythonLibrary where
  jsonLoads : String → Option Json
  sha256Hex : String → String

/-- Four lowercase hexadecimal digits. -/
def hex4 (code : Nat) : String :=
  let digit (value : Nat) : Char := "0123456789abcdef".toList.getD (value % 16) '0'
  String.ofList [digit (code / 4096), digit (code / 256), digit (code / 16), digit code]

/-- `json.dumps(..., ensure_ascii=False)` on one character of a string. -/
def escapeCharacter (character : Char) : String :=
  if character = '"' then "\\\""
  else if character = '\\' then "\\\\"
  else if character = '\n' then "\\n"
  else if character = '\r' then "\\r"
  else if character = '\t' then "\\t"
  else if character.toNat = 8 then "\\b"
  else if character.toNat = 12 then "\\f"
  else if character.toNat < 32 then "\\u" ++ hex4 character.toNat
  else character.toString

def quote (value : String) : String :=
  "\"" ++ String.join (value.toList.map escapeCharacter) ++ "\""

mutual

/-- `json.dumps` with sorted keys, compact separators and raw non-ASCII. -/
def dumps : Json → Option String
  | .null => some "null"
  | .bool true => some "true"
  | .bool false => some "false"
  | .int value => some (toString value)
  | .float shortest => some shortest
  | .str value => some (quote value)
  | .arr items => (dumpsItems items).map fun parts => "[" ++ ",".intercalate parts ++ "]"
  | .obj fields => (dumpsFields fields).map fun parts =>
      "\x7b" ++ ",".intercalate ((parts.insertionSort fun left right => left.1 ≤ right.1).map
        fun part => quote part.1 ++ ":" ++ part.2) ++ "\x7d"
  | .unencodable => none

def dumpsItems : List Json → Option (List String)
  | [] => some []
  | item :: items => do return (← dumps item) :: (← dumpsItems items)

def dumpsFields : List (String × Json) → Option (List (String × String))
  | [] => some []
  | (key, value) :: fields => do return (key, ← dumps value) :: (← dumpsFields fields)

end

/-- Depth and collection item count found by `_measure`. -/
structure Measure where
  depth : Nat
  items : Nat
  deriving DecidableEq

/-- Measures of two sibling values. -/
def Measure.combine (left right : Measure) : Measure :=
  ⟨max left.depth right.depth, left.items + right.items⟩

mutual

/-- `_measure`: the deepest nesting level below `depth`, and the number of
entries of all arrays and objects together. -/
def measure (depth : Nat) : Json → Measure
  | .arr items => (measureItems (depth + 1) items).combine ⟨depth, items.length⟩
  | .obj fields => (measureFields (depth + 1) fields).combine ⟨depth, fields.length⟩
  | _ => ⟨depth, 0⟩

def measureItems (depth : Nat) : List Json → Measure
  | [] => ⟨0, 0⟩
  | item :: items => (measure depth item).combine (measureItems depth items)

def measureFields (depth : Nat) : List (String × Json) → Measure
  | [] => ⟨0, 0⟩
  | (_, value) :: fields => (measure depth value).combine (measureFields depth fields)

end

/-- The three bounds of one JSON contract. -/
structure JsonBounds where
  maxBytes : Nat
  maxDepth : Nat
  maxCollectionItems : Nat
  deriving DecidableEq

/-- `canonical_json_bytes`, as text: the bytes are its UTF-8 encoding. -/
def canonicalJson (value : Json) : Except Raised String :=
  match dumps value with
  | some text => .ok text
  | none => .error (validationError "value cannot be canonicalized as JSON")

/-- `canonical_json_bytes_bounded`. -/
def canonicalJsonBounded (bounds : JsonBounds) (value : Json) : Except Raised String := do
  let encoded ← canonicalJson value
  ensure (encoded.utf8ByteSize ≤ bounds.maxBytes)
    (validationError "JSON contract byte bound exceeded")
  ensure ((measure 0 value).depth ≤ bounds.maxDepth)
    (validationError "JSON contract depth bound exceeded")
  ensure ((measure 0 value).items ≤ bounds.maxCollectionItems)
    (validationError "JSON contract collection bound exceeded")
  return encoded

/-- `loads_strict` over `parse`, what `json.loads` with the strict hooks makes
of a text. The messages of the hooks are not told from that of the parser. -/
def loadsStrict (parse : String → Option Json) (maxBytes : Nat) (text : String) :
    Except Raised Json := do
  ensure (text.utf8ByteSize ≤ maxBytes) (validationError "JSON input exceeds UTF-8 byte bound")
  match parse text with
  | some value => .ok value
  | none => .error (validationError "malformed JSON")

/-- `loads_canonical_json`: the text must be the canonical text of its value. -/
def loadsCanonicalJson (parse : String → Option Json) (bounds : JsonBounds) (text : String) :
    Except Raised Json := do
  let value ← loadsStrict parse bounds.maxBytes text
  let canonical ← canonicalJsonBounded bounds value
  ensure (canonical = text) (validationError "JSON text is not canonical")
  return value

def sha256CanonicalJson (python : PythonLibrary) (value : Json) : Except Raised String := do
  return python.sha256Hex (← canonicalJson value)

/-- `json.dumps` has a text for the value. -/
def Json.Encodes (value : Json) : Prop :=
  (dumps value).isSome

section Encodes

variable {items : List Json} {fields : List (String × Json)} {text : String} {number : Int}
  {flag : Bool}

@[simp] theorem encodes_null : Json.null.Encodes := rfl

@[simp] theorem encodes_str : (Json.str text).Encodes := rfl

@[simp] theorem encodes_int : (Json.int number).Encodes := rfl

@[simp] theorem encodes_bool : (Json.bool flag).Encodes := by
  cases flag <;> rfl

@[simp] theorem encodes_arr : (Json.arr items).Encodes ↔ ∀ item ∈ items, item.Encodes := by
  rw [Json.Encodes, dumps, Option.isSome_map]
  induction items with
  | nil => simp [dumpsItems]
  | cons item items ih =>
    rw [List.forall_mem_cons, ← ih, Json.Encodes, dumpsItems]
    cases dumps item <;> cases dumpsItems items <;> simp

@[simp] theorem encodes_obj :
    (Json.obj fields).Encodes ↔ ∀ field ∈ fields, field.2.Encodes := by
  rw [Json.Encodes, dumps, Option.isSome_map]
  induction fields with
  | nil => simp [dumpsFields]
  | cons field fields ih =>
    rw [List.forall_mem_cons, ← ih, Json.Encodes, dumpsFields]
    cases dumps field.2 <;> cases dumpsFields fields <;> simp

end Encodes

theorem sha256CanonicalJson_encodes (python : PythonLibrary) {value : Json}
    (encodes : value.Encodes) :
    ∃ text, sha256CanonicalJson python value = .ok (python.sha256Hex text) := by
  obtain ⟨text, encoded⟩ := Option.isSome_iff_exists.mp encodes
  refine ⟨text, except_bind_ok.mpr ⟨text, ?_, rfl⟩⟩
  rw [canonicalJson, encoded]

/-- What an `ObjectContract` does with fields outside its allowed set. -/
inductive UnknownFieldPolicy where
  | reject
  | preserveReadonly
  | quarantine
  deriving DecidableEq

/-- `ObjectContract`: the shape and bounds of one named JSON document. -/
structure ObjectContract where
  name : String
  version : Int
  requiredFields : List String
  allowedFields : List String
  unknownFieldPolicy : UnknownFieldPolicy := .reject
  bounds : JsonBounds := ⟨65536, 8, 512⟩

def ObjectContract.validate (contract : ObjectContract) : Json → Except Raised Unit
  | .obj fields => do
    let keys := fields.map (·.1)
    ensure (∀ field ∈ contract.requiredFields, field ∈ keys)
      (validationError "missing required JSON fields")
    ensure (¬ ((∃ key ∈ keys, key ∉ contract.allowedFields) ∧ contract.unknownFieldPolicy = .reject))
      (validationError "unknown JSON fields")
    let _ ← canonicalJsonBounded contract.bounds (.obj fields)
  | _ => .error (validationError
      (contract.name ++ " v" ++ toString contract.version ++ " requires an object"))

example : dumps (.obj [("b", .arr [.int 3, .bool true]), ("a", .str "x\ny")]) =
    some "\x7b\"a\":\"x\\ny\",\"b\":[3,true]\x7d" := by decide

end Soma.Foundation
