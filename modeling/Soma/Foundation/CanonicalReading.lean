import Soma.Foundation.JsonReader

/-!
What the strict reader makes of canonical text, for every value: the value itself with the
fields of its objects in the order of their keys (`jsonLoads_dumps`). A production is
followed by a mark that ends it, a comma, a bracket or a brace, so each is read up to
that mark whatever comes after.
-/

namespace Soma.Foundation

/-! ## Strings -/

theorem scanEscape_control (low : code < 32) :
    ∃ tail, (escapeCharacter (Char.ofNat code)).toList = '\\' :: tail ∧
      ∀ rest, scanEscape (tail ++ rest) = some (Char.ofNat code, rest) := by
  refine ⟨(escapeCharacter (Char.ofNat code)).toList.tail, ?_, ?_⟩
  · interval_cases code <;> decide +kernel
  · intro rest
    interval_cases code <;> rfl

/-- A character stands for itself, or its text is an escape that is read back. -/
theorem plain_or_escaped (character : Char) :
    Plain character ∨ ∃ tail, (escapeCharacter character).toList = '\\' :: tail ∧
      ∀ rest, scanEscape (tail ++ rest) = some (character, rest) := by
  by_cases low : character.toNat < 32
  · right
    rw [← Char.ofNat_toNat character]
    exact scanEscape_control low
  · by_cases quote : character = '"'
    · subst quote
      exact .inr ⟨['"'], by decide +kernel, fun _ => rfl⟩
    · by_cases slash : character = '\\'
      · subst slash
        exact .inr ⟨['\\'], by decide +kernel, fun _ => rfl⟩
      · exact .inl ⟨quote, slash, by omega⟩

/-- The text of some characters between the quotes. -/
def escaped (characters : List Char) : List Char :=
  characters.flatMap fun character => (escapeCharacter character).toList

theorem quote_toList (text : String) : (quote text).toList = '"' :: (escaped text.toList ++ ['"']) := by
  rw [quote, String.toList_append, String.toList_append, String.toList_join, List.flatMap_map]
  rfl

theorem escape_plain (plain : Plain character) :
    (escapeCharacter character).toList = [character] := by
  rw [escapeCharacter_plain plain]
  simp

theorem scanString_character (character : Char) (fuel : Nat) (rest : List Char) :
    scanString (fuel + 1) ((escapeCharacter character).toList ++ rest) =
      (scanString fuel rest).map fun read => (character :: read.1, read.2) := by
  rcases plain_or_escaped character with plain | ⟨tail, slash, read⟩
  · have single := escape_plain plain
    obtain ⟨notQuote, notBackslash, _⟩ := plain
    rw [single, List.singleton_append, scanString, if_neg notQuote, if_neg notBackslash,
      if_neg (by omega)]
    cases scanString fuel rest <;> rfl
  · rw [slash, List.cons_append, scanString, if_neg (by decide), if_pos rfl, read]
    simp only [Option.bind_eq_bind, Option.bind_some]
    cases scanString fuel rest <;> rfl

theorem escapeCharacter_ne_nil (character : Char) : (escapeCharacter character).toList ≠ [] := by
  rcases plain_or_escaped character with plain | ⟨tail, slash, -⟩
  · rw [escape_plain plain]
    exact List.cons_ne_nil _ _
  · rw [slash]
    exact List.cons_ne_nil _ _

theorem scanString_escaped (enough : (escaped characters).length < fuel) (rest : List Char) :
    scanString fuel (escaped characters ++ '"' :: rest) = some (characters, rest) := by
  induction characters generalizing fuel with
  | nil =>
    obtain ⟨fuel, rfl⟩ : ∃ more, fuel = more + 1 := ⟨fuel - 1, by omega⟩
    rw [escaped, List.flatMap_nil, List.nil_append, scanString, if_pos rfl]
  | cons character characters ih =>
    have inhabited := List.length_pos_iff.mpr (escapeCharacter_ne_nil character)
    rw [escaped, List.flatMap_cons, List.length_append] at enough
    obtain ⟨fuel, rfl⟩ : ∃ more, fuel = more + 1 := ⟨fuel - 1, by omega⟩
    have scanned := @ih fuel (by rw [escaped]; omega)
    rw [escaped, List.flatMap_cons, List.append_assoc, scanString_character, ← escaped, scanned,
      Option.map_some]

/-! ## Numbers -/

/-- The parts of a number. -/
structure Numeral where
  sign : List Char
  whole : List Char
  fraction : List Char
  exponent : List Char
  signed : sign = [] ∨ sign = ['-']
  digits : whole ≠ [] ∧ ∀ character ∈ whole, character.isDigit
  leading : whole = ['0'] ∨ whole.head? ≠ some '0'
  fractional : fraction = [] ∨
    ∃ digits, fraction = '.' :: digits ∧ digits ≠ [] ∧ ∀ character ∈ digits, character.isDigit
  exponential : exponent = [] ∨
    ∃ mark sign digits, exponent = mark :: (sign ++ digits) ∧ mark ∈ ['e', 'E'] ∧
      sign.length ≤ 1 ∧ (∀ character ∈ sign, character ∈ ['+', '-']) ∧ digits ≠ [] ∧
      ∀ character ∈ digits, character.isDigit

def Numeral.text (number : Numeral) : List Char :=
  number.sign ++ (number.whole ++ (number.fraction ++ number.exponent))

/-- What may come after a value. -/
def Ends (rest : List Char) : Prop :=
  ∀ character ∈ rest.head?, character ∈ [',', ']', '\x7d']

theorem span_exact {wanted : Char → Bool} {text rest : List Char}
    (all : ∀ character ∈ text, wanted character)
    (stop : ∀ character ∈ rest.head?, wanted character = false) :
    (text ++ rest).span wanted = (text, rest) := by
  rw [List.span_eq_takeWhile_dropWhile, List.takeWhile_append_of_pos all,
    List.dropWhile_append_of_pos all]
  cases rest with
  | nil => simp
  | cons character rest => simp [stop character rfl]

variable {rest : List Char}

theorem scanFraction_exact (number : Numeral)
    (stop : ∀ character ∈ rest.head?, character ≠ '.' ∧ character.isDigit = false) :
    scanFraction (number.fraction ++ rest) = (number.fraction, rest) := by
  rcases number.fractional with absent | ⟨digits, present, inhabited, all⟩
  · rw [absent, List.nil_append, scanFraction]
    cases rest with
    | nil => rfl
    | cons character rest => rw [expect, if_neg (stop character rfl).1]
  · rw [present, List.cons_append, scanFraction, expect, if_pos rfl]
    simp only [span_exact all fun character first => (stop character first).2, if_neg inhabited]

theorem scanExponent_exact (number : Numeral) (ends : Ends rest) :
    scanExponent (number.exponent ++ rest) = (number.exponent, rest) := by
  rcases number.exponential with
    absent | ⟨mark, sign, digits, present, marks, short, signs, inhabited, all⟩
  · rw [absent, List.nil_append]
    cases rest with
    | nil => rfl
    | cons character rest =>
      have mark : character ∉ ['e', 'E'] := by
        rintro inside
        have ending := ends character rfl
        simp only [List.mem_cons, List.not_mem_nil, or_false] at inside ending
        rcases inside with rfl | rfl <;> exact absurd ending (by decide)
      simp [scanExponent, mark]
  · have digit : ∀ character ∈ (digits ++ rest).head?,
        decide (character ∈ ['+', '-']) = false := by
      obtain ⟨first, _, rfl⟩ := List.exists_cons_of_ne_nil inhabited
      rintro _ ⟨⟩
      have isDigit := all first List.mem_cons_self
      rw [decide_eq_false_iff_not]
      intro inside
      simp only [List.mem_cons, List.not_mem_nil, or_false] at inside
      rcases inside with rfl | rfl <;> exact absurd isDigit (by decide)
    have ended : ∀ character ∈ rest.head?, character.isDigit = false := by
      intro character first
      have ending := ends character first
      simp only [List.mem_cons, List.not_mem_nil, or_false] at ending
      rcases ending with rfl | rfl | rfl <;> rfl
    have signed : (sign ++ (digits ++ rest)).span (· ∈ ['+', '-']) = (sign, digits ++ rest) :=
      span_exact (by simpa using signs) digit
    rw [present, List.cons_append, List.append_assoc, scanExponent]
    have wanted : mark ∈ ['e', 'E'] ∧ sign.length ≤ 1 ∧ digits ≠ [] := ⟨marks, short, inhabited⟩
    simp only [signed, span_exact all ended, if_pos wanted]

theorem after_fraction (number : Numeral) (ends : Ends rest) :
    ∀ character ∈ (number.exponent ++ rest).head?, character ∈ ['e', 'E', ',', ']', '\x7d'] := by
  rcases number.exponential with absent | ⟨mark, sign, digits, present, marks, -⟩
  · rw [absent, List.nil_append]
    intro character first
    exact List.mem_cons_of_mem _ (List.mem_cons_of_mem _ (ends character first))
  · rw [present]
    rintro _ ⟨⟩
    exact List.mem_append_left [',', ']', '\x7d'] marks

theorem after_whole (number : Numeral) (ends : Ends rest) :
    ∀ character ∈ (number.fraction ++ (number.exponent ++ rest)).head?,
      character ∈ ['.', 'e', 'E', ',', ']', '\x7d'] := by
  rcases number.fractional with absent | ⟨digits, present, -⟩
  · rw [absent, List.nil_append]
    intro character first
    exact List.mem_cons_of_mem _ (after_fraction number ends character first)
  · rw [present]
    rintro _ ⟨⟩
    exact List.mem_cons_self

theorem mark_not_digit {character : Char} (mark : character ∈ ['.', 'e', 'E', ',', ']', '\x7d']) :
    character.isDigit = false := by
  simp only [List.mem_cons, List.not_mem_nil, or_false] at mark
  rcases mark with rfl | rfl | rfl | rfl | rfl | rfl <;> rfl

/-- A number is read up to the mark after it. -/
theorem scanNumber_exact (floatText : String → Option String) (number : Numeral) (ends : Ends rest)
    :
    scanNumber floatText (number.text ++ rest) =
      if number.fraction = [] ∧ number.exponent = [] then
        if 4300 < number.whole.length then none
        else
          let magnitude : Int := Nat.ofDigitChars 10 number.whole 0
          some (.int (if number.sign = [] then magnitude else -magnitude), rest)
      else (floatText (String.ofList number.text)).map (.float ·, rest) := by
  have stop := after_whole number ends
  have unsigned : (number.text ++ rest).span (· = '-') =
      (number.sign, number.whole ++ (number.fraction ++ (number.exponent ++ rest))) := by
    rw [Numeral.text, List.append_assoc, List.append_assoc, List.append_assoc]
    refine span_exact ?_ ?_
    · intro character inside
      rcases number.signed with none | minus
      · rw [none] at inside
        cases inside
      · rw [minus, List.mem_singleton] at inside
        exact decide_eq_true inside
    · obtain ⟨first, others, whole⟩ := List.exists_cons_of_ne_nil number.digits.1
      have digit := number.digits.2 first (whole ▸ List.mem_cons_self)
      rw [whole]
      rintro _ ⟨⟩
      rw [decide_eq_false_iff_not]
      rintro rfl
      exact absurd digit (by decide)
  have fraction : scanFraction (number.fraction ++ (number.exponent ++ rest)) =
      (number.fraction, number.exponent ++ rest) := by
    refine scanFraction_exact number fun character first => ?_
    have mark := after_fraction number ends character first
    refine ⟨?_, mark_not_digit (List.mem_cons_of_mem _ mark)⟩
    rintro rfl
    exact absurd mark (by decide)
  have short : ¬ (number.whole = [] ∨ 1 < number.sign.length) := by
    rintro (empty | long)
    · exact number.digits.1 empty
    · rcases number.signed with none | minus
      · simp [none] at long
      · simp [minus] at long
  have text : number.sign ++ number.whole ++ number.fraction ++ number.exponent = number.text := by
    simp [Numeral.text]
  rw [scanNumber]
  rcases number.leading with zero | nonzero
  · have found : expect '0' (number.whole ++ (number.fraction ++ (number.exponent ++ rest))) =
        some (number.fraction ++ (number.exponent ++ rest)) := by
      rw [zero, List.singleton_append, expect, if_pos rfl]
    simp only [unsigned, found, ← zero, fraction, scanExponent_exact number ends, if_neg short,
      text]
  · obtain ⟨first, others, shape⟩ := List.exists_cons_of_ne_nil number.digits.1
    have absent : expect '0' (number.whole ++ (number.fraction ++ (number.exponent ++ rest))) =
        none := by
      rw [shape, List.head?_cons] at nonzero
      rw [shape, List.cons_append, expect, if_neg fun same => nonzero (congrArg some same)]
    have digits := span_exact number.digits.2 fun character first => mark_not_digit (stop character first)
    simp only [unsigned, absent, digits, fraction, scanExponent_exact number ends, if_neg short,
      text]

/-! ## Integers -/

theorem toDigits_leading (value : Nat) :
    Nat.toDigits 10 value = ['0'] ∨ (Nat.toDigits 10 value).head? ≠ some '0' := by
  rcases Nat.eq_zero_or_pos value with rfl | positive
  · exact .inl rfl
  · right
    induction value using Nat.strong_induction_on with
    | _ value ih =>
      rcases Nat.lt_or_ge value 10 with small | large
      · interval_cases value <;> decide
      · rw [Nat.toDigits_of_base_le (by decide) large, List.head?_append_of_ne_nil _
          Nat.toDigits_ne_nil]
        exact ih (value / 10) (by omega) (by omega)

/-- The parts of an integer. -/
def intNumeral (value : Int) : Numeral where
  sign := if value < 0 then ['-'] else []
  whole := Nat.toDigits 10 value.natAbs
  fraction := []
  exponent := []
  signed := by split <;> simp
  digits := ⟨Nat.toDigits_ne_nil, fun _ => Nat.isDigit_of_mem_toDigits (by decide) (by decide)⟩
  leading := toDigits_leading value.natAbs
  fractional := .inl rfl
  exponential := .inl rfl

theorem intNumeral_text (value : Int) : (toString value).toList = (intNumeral value).text := by
  cases value with
  | ofNat value =>
    have same : toString (Int.ofNat value) = toString value := rfl
    rw [same, Nat.toString_eq_ofList_toDigits, String.toList_ofList]
    simp [intNumeral, Numeral.text]
  | negSucc value =>
    have same : toString (Int.negSucc value) = "-" ++ toString (value + 1) := rfl
    rw [same, String.toList_append, Nat.toString_eq_ofList_toDigits, String.toList_ofList]
    simp [intNumeral, Numeral.text, Int.negSucc_lt_zero]

theorem scanNumber_int (floatText : String → Option String) {value : Int}
    (short : (Nat.toDigits 10 value.natAbs).length ≤ 4300) (ends : Ends rest) :
    scanNumber floatText ((toString value).toList ++ rest) = some (.int value, rest) := by
  have magnitude : Nat.ofDigitChars 10 (intNumeral value).whole 0 = value.natAbs :=
    Nat.ofDigitChars_ten_toDigits
  have signed : (if (intNumeral value).sign = [] then (value.natAbs : Int) else -value.natAbs) =
      value := by
    by_cases negative : value < 0
    · simp only [intNumeral, if_pos negative, if_neg (List.cons_ne_nil _ _)]
      omega
    · simp only [intNumeral, if_neg negative, if_pos]
      omega
  rw [intNumeral_text, scanNumber_exact floatText (intNumeral value) ends, if_pos ⟨rfl, rfl⟩,
    if_neg (show ¬ 4300 < (intNumeral value).whole.length from Nat.not_lt.mpr short)]
  simp only [magnitude, signed]

/-! ## Values -/

/-- Induction over a value, with the items of an array and the values of an object at hand. -/
@[elab_as_elim]
theorem Json.structural {motive : Json → Prop} (null : motive .null)
    (bool : ∀ value, motive (.bool value)) (int : ∀ value, motive (.int value))
    (float : ∀ shortest, motive (.float shortest)) (str : ∀ value, motive (.str value))
    (arr : ∀ items, (∀ item ∈ items, motive item) → motive (.arr items))
    (obj : ∀ fields, (∀ field ∈ fields, motive field.2) → motive (.obj fields))
    (unencodable : motive .unencodable) (value : Json) : motive value :=
  @Json.rec motive (fun items => ∀ item ∈ items, motive item)
    (fun fields => ∀ field ∈ fields, motive field.2) (fun field => motive field.2)
    null bool int float str arr obj unencodable (fun _ => (List.not_mem_nil · |>.elim))
    (fun _ _ first others => List.forall_mem_cons.mpr ⟨first, others⟩)
    (fun _ => (List.not_mem_nil · |>.elim))
    (fun _ _ first others => List.forall_mem_cons.mpr ⟨first, others⟩) (fun _ _ value => value) value

mutual

/-- The value with the fields of its objects by their keys. -/
def Json.arranged : Json → Json
  | .arr items => .arr (arrangedItems items)
  | .obj fields => .obj ((arrangedFields fields).insertionSort fun left right => left.1 ≤ right.1)
  | value => value

def arrangedItems : List Json → List Json
  | [] => []
  | item :: items => item.arranged :: arrangedItems items

def arrangedFields : List (String × Json) → List (String × Json)
  | [] => []
  | (key, value) :: fields => (key, value.arranged) :: arrangedFields fields

end

theorem arrangedItems_eq (items : List Json) : arrangedItems items = items.map Json.arranged := by
  induction items with
  | nil => rfl
  | cons item items ih => rw [arrangedItems, ih, List.map_cons]

theorem arrangedFields_eq (fields : List (String × Json)) :
    arrangedFields fields = fields.map fun field => (field.1, field.2.arranged) := by
  induction fields with
  | nil => rfl
  | cons field fields ih => rw [arrangedFields, ih, List.map_cons]

/-- The text is a number with a fraction or an exponent. -/
def IsReal (text : String) : Prop :=
  ∃ number : Numeral, text.toList = number.text ∧ ¬ (number.fraction = [] ∧ number.exponent = [])

/-- Null, booleans, integers, floats, strings, lists, and dictionaries whose keys are
strings; a float is what its text is read as. -/
inductive Json.Strict (floatText : String → Option String) : Json → Prop
  | null : Strict floatText .null
  | bool (value : Bool) : Strict floatText (.bool value)
  | int (value : Int) : Strict floatText (.int value)
  | float {shortest : String} :
      floatText shortest = some shortest → IsReal shortest → Strict floatText (.float shortest)
  | str (value : String) : Strict floatText (.str value)
  | arr {items : List Json} : (∀ item ∈ items, Strict floatText item) → Strict floatText (.arr items)
  | obj {fields : List (String × Json)} : (fields.map (·.1)).Nodup →
      (∀ field ∈ fields, Strict floatText field.2) → Strict floatText (.obj fields)

mutual

/-- `int.__repr__` writes the integers of the value: none has more than 4300 digits. -/
def Json.convertible : Json → Bool
  | .int value => (Nat.toDigits 10 value.natAbs).length ≤ 4300
  | .arr items => convertibleItems items
  | .obj fields => convertibleFields fields
  | _ => true

def convertibleItems : List Json → Bool
  | [] => true
  | item :: items => item.convertible && convertibleItems items

def convertibleFields : List (String × Json) → Bool
  | [] => true
  | (_, value) :: fields => value.convertible && convertibleFields fields

end

theorem convertibleItems_eq (items : List Json) :
    convertibleItems items = items.all Json.convertible := by
  induction items with
  | nil => rfl
  | cons item items ih => rw [convertibleItems, ih, List.all_cons]

theorem convertibleFields_eq (fields : List (String × Json)) :
    convertibleFields fields = fields.all fun field => field.2.convertible := by
  induction fields with
  | nil => rfl
  | cons field fields ih => rw [convertibleFields, ih, List.all_cons]

/-- The text of a value, empty where it has none. -/
def Json.text (value : Json) : String := (dumps value).getD ""

theorem dumps_text {value : Json} {text : String} (encoded : dumps value = some text) :
    value.text = text := by
  rw [Json.text, encoded, Option.getD_some]

theorem dumpsItems_text {items : List Json} {parts : List String}
    (encoded : dumpsItems items = some parts) :
    parts = items.map Json.text ∧ ∀ item ∈ items, dumps item = some item.text := by
  induction items generalizing parts with
  | nil =>
    cases encoded
    exact ⟨rfl, fun _ => (List.not_mem_nil · |>.elim)⟩
  | cons item items ih =>
    simp only [dumpsItems, bind, Option.bind_eq_some_iff, pure, Option.some.injEq] at encoded
    obtain ⟨text, first, _, rest, rfl⟩ := encoded
    obtain ⟨rfl, others⟩ := ih rest
    rw [List.map_cons, dumps_text first]
    exact ⟨rfl, List.forall_mem_cons.mpr ⟨by rw [first, dumps_text first], others⟩⟩

theorem dumpsFields_text {fields : List (String × Json)} {parts : List (String × String)}
    (encoded : dumpsFields fields = some parts) :
    parts = (fields.map fun field => (field.1, field.2.text)) ∧
      ∀ field ∈ fields, dumps field.2 = some field.2.text := by
  induction fields generalizing parts with
  | nil =>
    cases encoded
    exact ⟨rfl, fun _ => (List.not_mem_nil · |>.elim)⟩
  | cons field fields ih =>
    simp only [dumpsFields, bind, Option.bind_eq_some_iff, pure, Option.some.injEq] at encoded
    obtain ⟨text, first, _, rest, rfl⟩ := encoded
    obtain ⟨rfl, others⟩ := ih rest
    rw [List.map_cons, dumps_text first]
    exact ⟨rfl, List.forall_mem_cons.mpr ⟨by rw [first, dumps_text first], others⟩⟩

/-! ## Reading values -/

/-- A text is read as a value up to the mark after it. -/
def Reads (floatText : String → Option String) (text : List Char) (value : Json) : Prop :=
  (∃ first others, text = first :: others ∧ first ∉ [' ', '\t', '\n', '\r', ']']) ∧
    ∀ fuel rest, text.length < fuel → Ends rest →
      readValue floatText fuel (text ++ rest) = some (value, rest)

section Readings

variable {floatText : String → Option String}

theorem reads_word {word : List Char} {value : Json}
    (first : ∃ first others, word = first :: others ∧ first ∉ [' ', '\t', '\n', '\r', ']'])
    (read : ∀ fuel rest, readValue floatText (fuel + 1) (word ++ rest) = some (value, rest)) :
    Reads floatText word value := by
  refine ⟨first, fun fuel rest enough _ => ?_⟩
  obtain ⟨fuel, rfl⟩ : ∃ more, fuel = more + 1 := ⟨fuel - 1, by omega⟩
  exact read fuel rest

theorem reads_str (value : String) : Reads floatText (quote value).toList (.str value) := by
  refine ⟨⟨'"', _, quote_toList value, by decide⟩, fun fuel rest enough _ => ?_⟩
  obtain ⟨fuel, rfl⟩ : ∃ more, fuel = more + 1 := ⟨fuel - 1, by omega⟩
  rw [quote_toList, List.length_cons, List.length_append] at enough
  rw [quote_toList, List.cons_append, List.append_assoc, readValue, if_pos rfl,
    List.singleton_append, scanString_escaped (by omega)]
  simp

theorem numeral_first {character : Char} (signed : character = '-' ∨ character.isDigit) :
    character ∉ ['"', '\x7b', '[', 'n', 't', 'f', ' ', '\t', '\n', '\r', ']'] := by
  intro listed
  rcases signed with rfl | digit
  · exact absurd listed (by decide)
  · simp only [List.mem_cons, List.not_mem_nil, or_false] at listed
    rcases listed with rfl | rfl | rfl | rfl | rfl | rfl | rfl | rfl | rfl | rfl | rfl <;>
      exact absurd digit (by decide)

theorem readValue_number {character : Char} (signed : character = '-' ∨ character.isDigit)
    (fuel : Nat) (rest : List Char) :
    readValue floatText (fuel + 1) (character :: rest) =
      scanNumber floatText (character :: rest) := by
  have apart := numeral_first signed
  simp only [List.mem_cons, not_or] at apart
  obtain ⟨quote, brace, bracket, n, t, f, -⟩ := apart
  have word {text : String} {first : Char} {others : List Char} (spelled : text.toList = first :: others)
      (different : character ≠ first) : ¬ text.toList.isPrefixOf (character :: rest) := by
    rw [spelled, List.isPrefixOf, beq_eq_false_iff_ne.mpr different.symm]
    simp
  rw [readValue, if_neg quote, if_neg brace, if_neg bracket, if_neg (word rfl n),
    if_neg (word rfl t), if_neg (word rfl f)]

theorem reads_number (number : Numeral) {value : Json}
    (scanned : ∀ rest, Ends rest →
      scanNumber floatText (number.text ++ rest) = some (value, rest)) :
    Reads floatText number.text value := by
  obtain ⟨first, others, text, signed⟩ : ∃ first others, number.text = first :: others ∧
      (first = '-' ∨ first.isDigit) := by
    rcases number.signed with none | minus
    · obtain ⟨first, others, whole⟩ := List.exists_cons_of_ne_nil number.digits.1
      refine ⟨first, _, by rw [Numeral.text, none, whole, List.nil_append, List.cons_append], ?_⟩
      exact .inr (number.digits.2 first (whole ▸ List.mem_cons_self))
    · exact ⟨'-', _, by rw [Numeral.text, minus, List.singleton_append], .inl rfl⟩
  refine ⟨⟨first, others, text, fun listed => ?_⟩, fun fuel rest enough ends => ?_⟩
  · exact numeral_first signed (List.mem_append_right ['"', '\x7b', '[', 'n', 't', 'f'] listed)
  · obtain ⟨fuel, rfl⟩ : ∃ more, fuel = more + 1 := ⟨fuel - 1, by omega⟩
    rw [← scanned rest ends, text, List.cons_append, readValue_number signed]

theorem skipBlank_token {character : Char} (token : character ∉ [' ', '\t', '\n', '\r'])
    (rest : List Char) : skipBlank (character :: rest) = character :: rest := by
  rw [skipBlank, if_neg token]

theorem Reads.skipBlank {text : List Char} {value : Json} (reads : Reads floatText text value)
    (rest : List Char) : skipBlank (text ++ rest) = text ++ rest := by
  obtain ⟨⟨_, _, rfl, token⟩, -⟩ := reads
  exact skipBlank_token (fun blank => token (List.mem_append_left [']'] blank)) _

theorem joined_cons (first second : String) (others : List String) :
    (",".intercalate (first :: second :: others)).toList =
      first.toList ++ ',' :: (",".intercalate (second :: others)).toList := by
  rw [String.intercalate_cons_cons, String.toList_append, String.toList_append, List.append_assoc]
  rfl

theorem ends_mark {mark : Char} (listed : mark ∈ [',', ']', '\x7d']) (rest : List Char) :
    Ends (mark :: rest) := by
  rintro _ ⟨⟩
  exact listed

theorem joined_first {first : String} {character : Char} {tail : List Char}
    (starts : first.toList = character :: tail) (others : List String) :
    ∃ more, (",".intercalate (first :: others)).toList = character :: more := by
  obtain ⟨rest, joined⟩ := intercalate_cons_toList "," first others
  exact ⟨tail ++ rest, by rw [joined, starts, List.cons_append]⟩

/-- One round of a reader of parts takes a part up to the mark after it, and ends at the
closing mark or goes on after a comma. -/
def Rounds {Value : Type} (close : Char) (read : Nat → List Char → Option (List Value × List Char))
    (part : List Char) (value : Value) : Prop :=
  (∃ first others, part = first :: others ∧ first ∉ [' ', '\t', '\n', '\r', ']']) ∧
    ∀ fuel rest, part.length < fuel → Ends rest → read (fuel + 1) (part ++ rest) =
      match expect close (skipBlank rest) with
      | some rest => some ([value], rest)
      | none => do
        let text ← expect ',' (skipBlank rest)
        let (values, rest) ← read fuel (skipBlank text)
        return (value :: values, rest)

/-- The parts between two marks are read up to the closing one. -/
theorem rounds_joined {Part Value : Type} {close : Char} (closing : close ∈ [']', '\x7d'])
    {read : Nat → List Char → Option (List Value × List Char)} (text : Part → String)
    (value : Part → Value) {parts : List Part} (inhabited : parts ≠ [])
    (each : ∀ part ∈ parts, Rounds close read (text part).toList (value part)) (fuel : Nat)
    (enough : (",".intercalate (parts.map text)).toList.length + 1 < fuel) (rest : List Char) :
    read fuel ((",".intercalate (parts.map text)).toList ++ close :: rest) =
      some (parts.map value, rest) := by
  have mark : close ∈ [',', ']', '\x7d'] ∧ close ∉ [' ', '\t', '\n', '\r'] ∧ ',' ≠ close := by
    revert closing
    simp only [List.mem_cons, List.not_mem_nil, or_false]
    rintro (rfl | rfl) <;> decide
  obtain ⟨ends, token, apart⟩ := mark
  induction parts generalizing fuel with
  | nil => exact absurd rfl inhabited
  | cons part parts ih =>
    obtain ⟨fuel, rfl⟩ : ∃ more, fuel = more + 1 := ⟨fuel - 1, by omega⟩
    obtain ⟨first, others⟩ := List.forall_mem_cons.mp each
    cases parts with
    | nil =>
      rw [List.map_singleton, String.intercalate_singleton] at enough ⊢
      rw [first.2 fuel _ (by omega) (ends_mark ends rest), skipBlank_token token, expect, if_pos rfl]
      rfl
    | cons second parts =>
      rw [List.map_cons, List.map_cons, joined_cons] at enough ⊢
      rw [List.length_append, List.length_cons] at enough
      have more := ih (List.cons_ne_nil _ _) others fuel (by rw [List.map_cons]; omega)
      obtain ⟨⟨_, tail, starts, visible⟩, -⟩ := others second List.mem_cons_self
      obtain ⟨tail, joined⟩ := joined_first starts (parts.map text)
      rw [List.map_cons, joined, List.cons_append] at more
      rw [List.append_assoc, List.cons_append, first.2 fuel _ (by omega)
        (ends_mark (by decide) _), joined, List.cons_append, skipBlank_token (by decide)]
      simp only [expect, if_neg apart, if_pos, Option.bind_eq_bind, Option.bind_some,
        skipBlank_token (fun blank => visible (List.mem_append_left [']'] blank)), more]
      rfl

theorem readItems_rounds {item : Json} (reads : Reads floatText item.text.toList item.arranged) :
    Rounds ']' (readItems floatText) item.text.toList item.arranged := by
  refine ⟨reads.1, fun fuel rest enough ends => ?_⟩
  rw [readItems, reads.2 fuel rest enough ends]
  rfl

/-- The text of a field of an object. -/
def Json.fieldPart (field : String × Json) : String := fieldText (field.1, field.2.text)

theorem fieldPart_toList (field : String × Json) :
    (Json.fieldPart field).toList =
      '"' :: (escaped field.1.toList ++ '"' :: ':' :: field.2.text.toList) := by
  rw [Json.fieldPart, fieldText, String.toList_append, String.toList_append, quote_toList]
  simp

theorem readFields_rounds {field : String × Json}
    (reads : Reads floatText field.2.text.toList field.2.arranged) :
    Rounds '\x7d' (readFields floatText) (Json.fieldPart field).toList
      (field.1, field.2.arranged) := by
  refine ⟨⟨'"', _, fieldPart_toList field, by decide⟩, fun fuel rest enough ends => ?_⟩
  rw [fieldPart_toList] at enough ⊢
  simp only [List.length_append, List.length_cons] at enough
  have key : scanString fuel (escaped field.1.toList ++ '"' :: (':' :: (field.2.text.toList ++ rest))) =
      some (field.1.toList, ':' :: (field.2.text.toList ++ rest)) :=
    scanString_escaped (by omega) _
  rw [List.cons_append, List.append_assoc, List.cons_append, List.cons_append, readFields, expect,
    if_pos rfl, Option.bind_eq_bind, Option.bind_some, key, Option.bind_eq_bind, Option.bind_some]
  simp only [skipBlank_token (show ':' ∉ [' ', '\t', '\n', '\r'] by decide), expect, if_pos,
    Option.bind_eq_bind, Option.bind_some, reads.skipBlank, reads.2 fuel rest (by omega) ends,
    String.ofList_toList]
  cases expect '\x7d' (skipBlank rest) <;> rfl

theorem reads_arr {items : List Json}
    (each : ∀ item ∈ items, Reads floatText item.text.toList item.arranged) :
    Reads floatText ("[" ++ ",".intercalate (items.map Json.text) ++ "]").toList
      (.arr (items.map Json.arranged)) := by
  have text : ("[" ++ ",".intercalate (items.map Json.text) ++ "]").toList =
      '[' :: ((",".intercalate (items.map Json.text)).toList ++ [']']) := by
    rw [String.toList_append, String.toList_append]
    rfl
  rw [text]
  refine ⟨⟨'[', _, rfl, by decide⟩, fun fuel rest enough _ => ?_⟩
  obtain ⟨fuel, rfl⟩ : ∃ more, fuel = more + 1 := ⟨fuel - 1, by omega⟩
  rw [List.length_cons, List.length_append, List.length_singleton] at enough
  rw [List.cons_append, List.append_assoc, List.singleton_append, readValue, if_neg (by decide),
    if_neg (by decide), if_pos rfl]
  cases items with
  | nil => rfl
  | cons item items =>
    have read := rounds_joined List.mem_cons_self Json.text Json.arranged
      (List.cons_ne_nil item items) (fun item inside => readItems_rounds (each item inside)) fuel
      (by omega) rest
    obtain ⟨⟨_, tail, starts, token⟩, -⟩ := each item List.mem_cons_self
    obtain ⟨tail, joined⟩ := joined_first starts (items.map Json.text)
    rw [List.map_cons, joined, List.cons_append] at read
    rw [List.map_cons, joined, List.cons_append,
      skipBlank_token (fun blank => token (List.mem_append_left [']'] blank)), expect, if_neg ?_]
    · simp only [read, Option.bind_eq_bind, Option.bind_some]
      rfl
    · rintro rfl
      exact token (by decide)

theorem reads_obj {fields : List (String × Json)} (keyed : (fields.map (·.1)).Nodup)
    (each : ∀ field ∈ fields, Reads floatText field.2.text.toList field.2.arranged) :
    Reads floatText ("\x7b" ++ ",".intercalate (fields.map Json.fieldPart) ++ "\x7d").toList
      (.obj (fields.map fun field => (field.1, field.2.arranged))) := by
  have text : ("\x7b" ++ ",".intercalate (fields.map Json.fieldPart) ++ "\x7d").toList =
      '\x7b' :: ((",".intercalate (fields.map Json.fieldPart)).toList ++ ['\x7d']) := by
    rw [String.toList_append, String.toList_append]
    rfl
  rw [text]
  refine ⟨⟨'\x7b', _, rfl, by decide⟩, fun fuel rest enough _ => ?_⟩
  obtain ⟨fuel, rfl⟩ : ∃ more, fuel = more + 1 := ⟨fuel - 1, by omega⟩
  rw [List.length_cons, List.length_append, List.length_singleton] at enough
  rw [List.cons_append, List.append_assoc, List.singleton_append, readValue, if_neg (by decide),
    if_pos rfl]
  cases fields with
  | nil => rfl
  | cons field fields =>
    have read := rounds_joined (List.mem_cons_of_mem _ List.mem_cons_self) Json.fieldPart
      (fun field => (field.1, field.2.arranged)) (List.cons_ne_nil field fields)
      (fun field inside => readFields_rounds (each field inside)) fuel (by omega) rest
    have distinct : (((field :: fields).map fun field => (field.1, field.2.arranged)).map
        (·.1)).Nodup := by
      rw [List.map_map]
      exact keyed
    obtain ⟨_, joined⟩ := joined_first (fieldPart_toList field) (fields.map Json.fieldPart)
    rw [List.map_cons, joined, List.cons_append] at read
    rw [List.map_cons, joined, List.cons_append, skipBlank_token (by decide), expect,
      if_neg (by decide)]
    simp only [read, Option.bind_eq_bind, Option.bind_some, if_pos distinct]
    rfl

end Readings

theorem sorted_map {Other : Type} (convert : Json → Other) (fields : List (String × Json)) :
    (fields.map fun field => (field.1, convert field.2)).insertionSort
        (fun left right => left.1 ≤ right.1) =
      (fields.insertionSort fun left right => left.1 ≤ right.1).map fun field =>
        (field.1, convert field.2) :=
  (List.map_insertionSort _ (fun left right : String × Other => left.1 ≤ right.1) _ fields
    fun _ _ _ _ => Iff.rfl).symm

/-- The text of a value is read as the value with its fields by their keys. -/
theorem reads_dumps {floatText : String → Option String} {value : Json}
    (strict : value.Strict floatText) (converted : value.convertible) {text : String}
    (encoded : dumps value = some text) : Reads floatText text.toList value.arranged := by
  induction value using Json.structural generalizing text with
  | null =>
    obtain rfl : "null" = text := by simpa [dumps] using encoded
    exact reads_word ⟨'n', _, rfl, by decide⟩ fun _ _ => rfl
  | bool value =>
    cases value with
    | true =>
      obtain rfl : "true" = text := by simpa [dumps] using encoded
      exact reads_word ⟨'t', _, rfl, by decide⟩ fun _ _ => rfl
    | false =>
      obtain rfl : "false" = text := by simpa [dumps] using encoded
      exact reads_word ⟨'f', _, rfl, by decide⟩ fun _ _ => rfl
  | int value =>
    obtain rfl : toString value = text := by simpa [dumps] using encoded
    rw [intNumeral_text]
    refine reads_number (intNumeral value) fun rest ends => ?_
    rw [← intNumeral_text]
    exact scanNumber_int floatText (of_decide_eq_true converted) ends
  | float shortest =>
    obtain rfl : shortest = text := by simpa [dumps] using encoded
    cases strict with
    | float settled real =>
      obtain ⟨number, characters, real⟩ := real
      rw [characters]
      refine reads_number number fun rest ends => ?_
      rw [scanNumber_exact floatText number ends, if_neg real, ← characters,
        String.ofList_toList, settled]
      rfl
  | str value =>
    obtain rfl : quote value = text := by simpa [dumps] using encoded
    exact reads_str value
  | arr items ih =>
    rw [dumps, Option.map_eq_some_iff] at encoded
    obtain ⟨parts, texts, rfl⟩ := encoded
    obtain ⟨rfl, each⟩ := dumpsItems_text texts
    rw [Json.convertible, convertibleItems_eq, List.all_eq_true] at converted
    cases strict with
    | arr strict =>
      rw [Json.arranged, arrangedItems_eq]
      exact reads_arr fun item inside =>
        ih item inside (strict item inside) (converted item inside) (each item inside)
  | obj fields ih =>
    rw [dumps, Option.map_eq_some_iff] at encoded
    obtain ⟨parts, texts, rfl⟩ := encoded
    obtain ⟨rfl, each⟩ := dumpsFields_text texts
    rw [Json.convertible, convertibleFields_eq, List.all_eq_true] at converted
    cases strict with
    | obj keyed strict =>
      have moved := List.perm_insertionSort (fun left right : String × Json => left.1 ≤ right.1) fields
      rw [Json.arranged, arrangedFields_eq, sorted_map, sorted_map, List.map_map]
      refine reads_obj ((moved.map _).nodup_iff.mpr keyed) fun field inside => ?_
      rw [moved.mem_iff] at inside
      exact ih field inside (strict field inside) (converted field inside) (each field inside)
  | unencodable => cases strict

/-- The reader gives a value back from its text, with the fields by their keys. -/
theorem jsonLoads_dumps {floatText : String → Option String} {value : Json}
    (strict : value.Strict floatText) (converted : value.convertible) {text : String}
    (encoded : dumps value = some text) : jsonLoads floatText text = some value.arranged := by
  have reads := reads_dumps strict converted encoded
  have blank := reads.skipBlank []
  have read := reads.2 (text.toList.length + 1) [] (Nat.lt_succ_self _) nofun
  rw [List.append_nil] at blank read
  rw [jsonLoads, blank, read]
  rfl

theorem arranged_sorted {fields : List (String × Json)}
    (increasing : (fields.map (·.1)).Pairwise (· < ·))
    (plain : ∀ field ∈ fields, field.2.arranged = field.2) :
    (Json.obj fields).arranged = .obj fields := by
  have same : (fields.map fun field => (field.1, field.2.arranged)) = fields := by
    refine (List.map_congr_left fun field inside => ?_).trans (List.map_id fields)
    rw [plain field inside, id]
  have sorted := (List.pairwise_map.mp increasing).imp fun less =>
    String.not_lt.mp (String.lt_asymm less)
  rw [Json.arranged, arrangedFields_eq, same, sorted.insertionSort_eq]

end Soma.Foundation
