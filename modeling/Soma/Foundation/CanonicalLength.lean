import Mathlib
import Soma.Foundation.StrictJson

/-!
How long the canonical text of a value is: the lengths of its parts and the marks
between them, in whatever order the fields are sorted.
-/

namespace Soma.Foundation

theorem utf8ByteSize_le (text : String) : text.utf8ByteSize ≤ 4 * text.length := by
  have encoded : ∀ characters : List Char,
      characters.utf8Encode.size ≤ 4 * characters.length := by
    intro characters
    induction characters with
    | nil => simp
    | cons character characters ih =>
      have small := character.utf8Size_le_four
      rw [List.utf8Encode_cons, ByteArray.size_append, List.utf8Encode_singleton,
        List.size_toByteArray, String.length_utf8EncodeChar, List.length_cons]
      omega
  have size := encoded text.toList
  rwa [String.utf8Encode_toList, String.length_toList] at size

def quoteLength (value : String) : Nat :=
  2 + (value.toList.map fun character => (escapeCharacter character).length).sum

theorem quote_length (value : String) : (quote value).length = quoteLength value := by
  have mark : ("\"" : String).length = 1 := by decide
  simp only [quote, quoteLength, String.length_append, String.length_join, List.map_map, mark,
    Function.comp_def]
  omega

theorem intercalate_length (parts : List String) :
    (",".intercalate parts).length = (parts.map String.length).sum + (parts.length - 1) := by
  have comma : ",".length = 1 := by decide
  induction parts with
  | nil => simp
  | cons part parts ih =>
    by_cases last : parts = []
    · subst last
      simp
    · have inhabited := List.length_pos_iff.mpr last
      rw [String.intercalate_cons_of_ne_nil last, String.length_append, String.length_append, ih,
        comma, List.map_cons, List.sum_cons, List.length_cons]
      omega

mutual

def dumpsLength : Json → Nat
  | .null => 4
  | .bool true => 4
  | .bool false => 5
  | .int value => (toString value).length
  | .float shortest => shortest.length
  | .str value => quoteLength value
  | .arr items => 2 + itemsLength items + (items.length - 1)
  | .obj fields => 2 + fieldsLength fields + (fields.length - 1)
  | .unencodable => 0

def itemsLength : List Json → Nat
  | [] => 0
  | item :: items => dumpsLength item + itemsLength items

def fieldsLength : List (String × Json) → Nat
  | [] => 0
  | (key, value) :: fields => quoteLength key + 1 + dumpsLength value + fieldsLength fields

end

mutual

theorem dumps_length (encoded : dumps value = some text) : text.length = dumpsLength value := by
  cases value with
  | null =>
    cases encoded
    rfl
  | bool value =>
    cases value <;> cases encoded <;> rfl
  | int value =>
    cases encoded
    rfl
  | float shortest =>
    cases encoded
    rfl
  | str value =>
    cases encoded
    exact quote_length value
  | arr items =>
    obtain ⟨parts, encodes, rfl⟩ := Option.map_eq_some_iff.mp encoded
    obtain ⟨sum, same⟩ := items_length encodes
    have marks : ("[" : String).length = 1 ∧ ("]" : String).length = 1 := by decide
    rw [String.length_append, String.length_append, intercalate_length, sum, same, marks.1, marks.2,
      dumpsLength]
    omega
  | obj fields =>
    obtain ⟨parts, encodes, rfl⟩ := Option.map_eq_some_iff.mp encoded
    obtain ⟨sum, same⟩ := fields_length encodes
    have marks : ("\x7b" : String).length = 1 ∧ ("\x7d" : String).length = 1 := by decide
    have sorted := List.perm_insertionSort (fun left right : String × String => left.1 ≤ right.1) parts
    rw [String.length_append, String.length_append, intercalate_length, marks.1, marks.2,
      dumpsLength, List.map_map, (sorted.map _).sum_nat, List.length_map, sorted.length_eq, same, ← sum]
    simp only [Function.comp_def]
    omega
  | unencodable => cases encoded

theorem items_length (encoded : dumpsItems items = some parts) :
    (parts.map String.length).sum = itemsLength items ∧ parts.length = items.length := by
  cases items with
  | nil =>
    cases encoded
    exact ⟨rfl, rfl⟩
  | cons item items =>
    simp only [dumpsItems, Option.bind_eq_bind, Option.bind_eq_some_iff, Option.pure_def,
      Option.some.injEq] at encoded
    obtain ⟨_, first, _, others, rfl⟩ := encoded
    obtain ⟨sum, same⟩ := items_length others
    rw [List.map_cons, List.sum_cons, dumps_length first, sum, List.length_cons, same]
    exact ⟨rfl, rfl⟩

theorem fields_length (encoded : dumpsFields fields = some parts) :
    (parts.map fun part => (quote part.1 ++ ":" ++ part.2).length).sum = fieldsLength fields ∧
      parts.length = fields.length := by
  cases fields with
  | nil =>
    cases encoded
    exact ⟨rfl, rfl⟩
  | cons field fields =>
    obtain ⟨_, _⟩ := field
    simp only [dumpsFields, Option.bind_eq_bind, Option.bind_eq_some_iff, Option.pure_def,
      Option.some.injEq] at encoded
    obtain ⟨_, first, _, others, rfl⟩ := encoded
    obtain ⟨sum, same⟩ := fields_length others
    have colon : (":" : String).length = 1 := by decide
    rw [List.map_cons, List.sum_cons, sum, List.length_cons, List.length_cons, same,
      String.length_append, String.length_append, quote_length, dumps_length first, colon,
      fieldsLength]
    exact ⟨rfl, rfl⟩

end

end Soma.Foundation
