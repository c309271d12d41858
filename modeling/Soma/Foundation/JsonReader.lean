import Soma.Foundation.StreamedJson

/-!
`json.loads` with the hooks of `loads_strict`, on the characters of a text: the scanner
of the standard library, with duplicate keys and non-finite numbers refused. A lone
surrogate is refused as well, since `_validate_unicode` refuses every value that holds
one. The rendering of a float is a parameter, absent where the number is not finite.
-/

namespace Soma.Foundation

/-! ## The reader -/

/-- The white space between tokens. -/
def skipBlank : List Char → List Char
  | [] => []
  | character :: rest =>
    if character ∈ [' ', '\t', '\n', '\r'] then skipBlank rest else character :: rest

/-- The text after a character it has to start with. -/
def expect (wanted : Char) : List Char → Option (List Char)
  | [] => none
  | character :: rest => if character = wanted then some rest else none

def hexDigit? (character : Char) : Option Nat :=
  if character.isDigit then some (character.toNat - 48)
  else if 97 ≤ character.toNat ∧ character.toNat ≤ 102 then some (character.toNat - 87)
  else if 65 ≤ character.toNat ∧ character.toNat ≤ 70 then some (character.toNat - 55)
  else none

/-- The four digits of a `\u` escape. -/
def scanHex4 : List Char → Option (Nat × List Char)
  | a :: b :: c :: d :: rest => do
    let code := (((← hexDigit? a) * 16 + (← hexDigit? b)) * 16 + (← hexDigit? c)) * 16
    return (code + (← hexDigit? d), rest)
  | _ => none

def letterEscape? (letter : Char) : Option Char :=
  if letter ∈ ['"', '\\', '/'] then some letter
  else if letter = 'b' then some (Char.ofNat 8)
  else if letter = 'f' then some (Char.ofNat 12)
  else if letter = 'n' then some '\n'
  else if letter = 'r' then some '\r'
  else if letter = 't' then some '\t'
  else none

/-- The character an escape stands for, after its backslash. -/
def scanEscape : List Char → Option (Char × List Char)
  | [] => none
  | letter :: rest =>
    if letter ≠ 'u' then (letterEscape? letter).map (·, rest)
    else do
      let (code, rest) ← scanHex4 rest
      if code < 0xD800 ∨ 0xE000 ≤ code then return (Char.ofNat code, rest)
      else if code < 0xDC00 then do
        let rest ← expect '\\' rest
        let rest ← expect 'u' rest
        let (low, rest) ← scanHex4 rest
        if 0xDC00 ≤ low ∧ low < 0xE000 then
          return (Char.ofNat (0x10000 + (code - 0xD800) * 1024 + (low - 0xDC00)), rest)
        else none
      else none

/-- The characters of a string up to its closing quote. -/
def scanString : Nat → List Char → Option (List Char × List Char)
  | 0, _ => none
  | _ + 1, [] => none
  | fuel + 1, character :: rest =>
    if character = '"' then some ([], rest)
    else if character = '\\' then do
      let (decoded, rest) ← scanEscape rest
      let (characters, rest) ← scanString fuel rest
      return (decoded :: characters, rest)
    else if character.toNat < 32 then none
    else do
      let (characters, rest) ← scanString fuel rest
      return (character :: characters, rest)

/-- The fraction of a number, if it has one. -/
def scanFraction (text : List Char) : List Char × List Char :=
  match expect '.' text with
  | none => ([], text)
  | some rest =>
    let (digits, rest) := rest.span Char.isDigit
    if digits = [] then ([], text) else ('.' :: digits, rest)

/-- The exponent of a number, if it has one. -/
def scanExponent : List Char → List Char × List Char
  | [] => ([], [])
  | mark :: text =>
    let (sign, rest) := text.span (· ∈ ['+', '-'])
    let (digits, rest) := rest.span Char.isDigit
    if mark ∈ ['e', 'E'] ∧ sign.length ≤ 1 ∧ digits ≠ [] then (mark :: (sign ++ digits), rest)
    else ([], mark :: text)

/-- A number; an integer of more digits than Python converts is refused. -/
def scanNumber (floatText : String → Option String) (text : List Char) :
    Option (Json × List Char) :=
  let (sign, unsigned) := text.span (· = '-')
  let (whole, rest) :=
    match expect '0' unsigned with
    | some rest => (['0'], rest)
    | none => unsigned.span Char.isDigit
  if whole = [] ∨ 1 < sign.length then none
  else
    let (fraction, rest) := scanFraction rest
    let (exponent, rest) := scanExponent rest
    if fraction = [] ∧ exponent = [] then
      if 4300 < whole.length then none
      else
        let magnitude : Int := Nat.ofDigitChars 10 whole 0
        some (.int (if sign = [] then magnitude else -magnitude), rest)
    else (floatText (String.ofList (sign ++ whole ++ fraction ++ exponent))).map (.float ·, rest)

mutual

/-- One value. -/
def readValue (floatText : String → Option String) : Nat → List Char → Option (Json × List Char)
  | 0, _ => none
  | _ + 1, [] => none
  | fuel + 1, character :: rest =>
    if character = '"' then do
      let (characters, rest) ← scanString fuel rest
      return (.str (String.ofList characters), rest)
    else if character = '\x7b' then
      match expect '\x7d' (skipBlank rest) with
      | some rest => some (.obj [], rest)
      | none => do
        let (fields, rest) ← readFields floatText fuel (skipBlank rest)
        if (fields.map (·.1)).Nodup then return (.obj fields, rest) else none
    else if character = '[' then
      match expect ']' (skipBlank rest) with
      | some rest => some (.arr [], rest)
      | none => do
        let (items, rest) ← readItems floatText fuel (skipBlank rest)
        return (.arr items, rest)
    else if "null".toList.isPrefixOf (character :: rest) then some (.null, rest.drop 3)
    else if "true".toList.isPrefixOf (character :: rest) then some (.bool true, rest.drop 3)
    else if "false".toList.isPrefixOf (character :: rest) then some (.bool false, rest.drop 4)
    else scanNumber floatText (character :: rest)

/-- The fields of an object and its closing brace. -/
def readFields (floatText : String → Option String) :
    Nat → List Char → Option (List (String × Json) × List Char)
  | 0, _ => none
  | fuel + 1, text => do
    let text ← expect '"' text
    let (key, text) ← scanString fuel text
    let text ← expect ':' (skipBlank text)
    let (value, text) ← readValue floatText fuel (skipBlank text)
    match expect '\x7d' (skipBlank text) with
    | some rest => return ([(String.ofList key, value)], rest)
    | none => do
      let text ← expect ',' (skipBlank text)
      let (fields, rest) ← readFields floatText fuel (skipBlank text)
      return ((String.ofList key, value) :: fields, rest)

/-- The elements of an array and its closing bracket. -/
def readItems (floatText : String → Option String) :
    Nat → List Char → Option (List Json × List Char)
  | 0, _ => none
  | fuel + 1, text => do
    let (value, text) ← readValue floatText fuel text
    match expect ']' (skipBlank text) with
    | some rest => return ([value], rest)
    | none => do
      let text ← expect ',' (skipBlank text)
      let (items, rest) ← readItems floatText fuel (skipBlank text)
      return (value :: items, rest)

end

/-- `json.loads`: one value and nothing after it. -/
def jsonLoads (floatText : String → Option String) (text : String) : Option Json := do
  let (value, rest) ← readValue floatText (text.toList.length + 1) (skipBlank text.toList)
  if skipBlank rest = [] then return value else none

def loadsStrictBytes (parse : String → Option Json) (maxBytes : Nat) (raw : ByteArray) :
    Except Raised Json := do
  ensure (raw.size ≤ maxBytes) (validationError "JSON input exceeds UTF-8 byte bound")
  match String.fromUTF8? raw with
  | none => .error (validationError "JSON input is not valid UTF-8")
  | some text => loadsStrict parse maxBytes text

/-! ## Objects of plain strings -/

/-- A character that stands for itself in a string. -/
def Plain (character : Char) : Prop :=
  character ≠ '"' ∧ character ≠ '\\' ∧ 32 ≤ character.toNat

/-- A text whose characters all stand for themselves. -/
def PlainText (text : String) : Prop :=
  ∀ character ∈ text.toList, Plain character

instance plainDecidable (character : Char) : Decidable (Plain character) :=
  inferInstanceAs (Decidable (_ ∧ _ ∧ _))

instance plainTextDecidable (text : String) : Decidable (PlainText text) :=
  decidable_of_iff (text.toList.all fun character => Plain character) (by simp [PlainText])

theorem escapeCharacter_plain (plain : Plain character) :
    escapeCharacter character = character.toString := by
  obtain ⟨notQuote, notBackslash, _⟩ := plain
  have different : ∀ control : Char, control.toNat < 32 → character ≠ control := by
    rintro control low rfl
    omega
  rw [escapeCharacter, if_neg notQuote, if_neg notBackslash, if_neg (different _ (by decide)),
    if_neg (different _ (by decide)), if_neg (different _ (by decide)), if_neg (by omega),
    if_neg (by omega), if_neg (by omega)]

theorem quote_plain (plain : PlainText text) : quote text = "\"" ++ text ++ "\"" := by
  have same : text.toList.map escapeCharacter = text.toList.map Char.toString :=
    List.map_congr_left fun character inside => escapeCharacter_plain (plain character inside)
  have joined : String.join (text.toList.map Char.toString) = text := by
    rw [← String.toList_inj, String.toList_join, List.flatMap_map]
    simp
  rw [quote, same, joined]

theorem quote_plain_toList (plain : PlainText text) :
    (quote text).toList = '"' :: (text.toList ++ ['"']) := by
  rw [quote_plain plain, String.toList_append, String.toList_append]
  rfl

/-- The text of a field with a plain key and a plain value. -/
def plainField (field : String × String) : String × String := (field.1, quote field.2)

theorem plainField_toList (field : String × String) :
    (fieldText (plainField field)).toList =
      (quote field.1).toList ++ ':' :: (quote field.2).toList := by
  rw [fieldText, plainField, String.toList_append, String.toList_append, List.append_assoc]
  rfl

/-- The text of some fields, between the braces of their object. -/
def plainFields (fields : List (String × String)) : String :=
  ",".intercalate (fields.map fun field => fieldText (plainField field))

theorem plainFields_single (field : String × String) :
    plainFields [field] = fieldText (plainField field) :=
  String.intercalate_singleton

theorem plainFields_cons (field second : String × String) (others : List (String × String)) :
    (plainFields (field :: second :: others)).toList =
      (fieldText (plainField field)).toList ++ ',' :: (plainFields (second :: others)).toList := by
  rw [plainFields, List.map_cons, List.map_cons, String.intercalate_cons_cons, String.toList_append,
    String.toList_append, List.append_assoc]
  rfl

/-- A field takes five marks and the comma before the next one. -/
theorem plainFields_length {fields : List (String × String)}
    (plain : ∀ field ∈ fields, PlainText field.1 ∧ PlainText field.2) :
    (plainFields fields).toList.length ≤
      (fields.map fun field => field.1.toList.length + field.2.toList.length + 6).sum := by
  have single : ∀ field : String × String, PlainText field.1 → PlainText field.2 →
      (fieldText (plainField field)).toList.length =
        field.1.toList.length + field.2.toList.length + 5 := by
    intro field plainKey plainValue
    rw [plainField_toList, quote_plain_toList plainKey, quote_plain_toList plainValue]
    simp only [List.length_append, List.length_cons, List.length_nil]
    omega
  induction fields with
  | nil => simp [plainFields]
  | cons field fields ih =>
    obtain ⟨plainKey, plainValue⟩ := plain field List.mem_cons_self
    have plainOthers := fun other inside => plain other (List.mem_cons_of_mem field inside)
    have size := single field plainKey plainValue
    cases fields with
    | nil =>
      rw [plainFields_single, size, List.map_cons, List.map_nil, List.sum_cons, List.sum_nil]
      omega
    | cons second others =>
      have more := ih plainOthers
      rw [plainFields_cons, List.length_append, List.length_cons, size, List.map_cons,
        List.sum_cons]
      omega

end Soma.Foundation
