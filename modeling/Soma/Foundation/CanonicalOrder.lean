import Mathlib.Data.Nat.Digits.Lemmas
import Soma.Foundation.StrictJson

/-!
The front of the canonical text of an object: keys are sorted, so the text
starts with the field of the least key. A number ends where the next separator
stands, so it is read back from the text.
-/

namespace Soma.Foundation

open Transaction

variable {parts : List (String × String)} {fields : List (String × Json)}

section

variable (encoded : dumpsFields fields = some parts)

include encoded

theorem dumpsFields_forall₂ :
    List.Forall₂ (fun field part => part.1 = field.1 ∧ dumps field.2 = some part.2)
      fields parts := by
  induction fields generalizing parts with
  | nil =>
    cases encoded
    exact .nil
  | cons field fields ih =>
    simp only [dumpsFields, bind, Option.bind_eq_some_iff, pure, Option.some.injEq] at encoded
    obtain ⟨_, first, _, rest, rfl⟩ := encoded
    exact .cons ⟨rfl, first⟩ (ih rest)

theorem dumpsFields_keys : parts.map (·.1) = fields.map (·.1) := by
  have parted := dumpsFields_forall₂ encoded
  clear encoded
  induction parted with
  | nil => rfl
  | cons matched _ ih => rw [List.map_cons, List.map_cons, matched.1, ih]

theorem dumpsFields_mem (inside : (key, value) ∈ fields) :
    ∃ valueText, dumps value = some valueText ∧ (key, valueText) ∈ parts := by
  have parted := dumpsFields_forall₂ encoded
  clear encoded
  induction parted with
  | nil => cases inside
  | @cons field part _ _ matched _ ih =>
    rcases List.mem_cons.mp inside with rfl | inside
    · obtain ⟨_, text⟩ := part
      obtain ⟨rfl, encoded⟩ := matched
      exact ⟨text, encoded, List.mem_cons_self⟩
    · obtain ⟨valueText, encoded, listed⟩ := ih inside
      exact ⟨valueText, encoded, List.mem_cons_of_mem _ listed⟩

end

instance totalFirstLe : Std.Total fun left right : String × String => left.1 ≤ right.1 :=
  ⟨fun left right => String.le_total left.1 right.1⟩

instance transFirstLe : IsTrans (String × String) fun left right => left.1 ≤ right.1 :=
  ⟨fun _ _ _ first second => String.le_trans first second⟩

theorem insertionSort_least (inside : part ∈ parts)
    (least : ∀ other ∈ parts, other ≠ part → part.1 < other.1) :
    ∃ rest, (parts.insertionSort fun left right => left.1 ≤ right.1) = part :: rest := by
  have sorted := List.pairwise_insertionSort
    (fun left right : String × String => left.1 ≤ right.1) parts
  have same := List.perm_insertionSort (fun left right : String × String => left.1 ≤ right.1) parts
  cases found : parts.insertionSort fun left right => left.1 ≤ right.1 with
  | nil =>
    rw [found] at same
    rw [same.symm.eq_nil] at inside
    cases inside
  | cons head rest =>
    rw [found] at same sorted
    by_cases first : head = part
    · exact ⟨rest, by rw [first]⟩
    · have later : part ∈ rest :=
        (List.mem_cons.mp (same.mem_iff.mpr inside)).resolve_left (Ne.symm first)
      have below := (List.pairwise_cons.mp sorted).1 part later
      have above := least head (same.mem_iff.mp List.mem_cons_self) first
      exact absurd below (String.not_le.mpr above)

theorem intercalate_cons_toList (separator first : String) (others : List String) :
    ∃ rest, (separator.intercalate (first :: others)).toList = first.toList ++ rest := by
  cases others with
  | nil => exact ⟨[], by rw [String.intercalate_singleton, List.append_nil]⟩
  | cons second others =>
    refine ⟨separator.toList ++ (separator.intercalate (second :: others)).toList, ?_⟩
    rw [String.intercalate_cons_of_ne_nil (List.cons_ne_nil _ _), String.toList_append,
      String.toList_append, List.append_assoc]

theorem dumps_obj_least (encoded : dumps (.obj fields) = some text) (inside : (key, value) ∈ fields)
    (keyed : (fields.map (·.1)).Nodup)
    (least : ∀ other ∈ fields.map (·.1), other ≠ key → key < other) :
    ∃ valueText rest, dumps value = some valueText ∧
      text.toList = '\x7b' :: ((quote key).toList ++ ':' :: (valueText.toList ++ rest)) := by
  rw [dumps, Option.map_eq_some_iff] at encoded
  obtain ⟨parts, texts, rfl⟩ := encoded
  obtain ⟨valueText, value_encoded, listed⟩ := dumpsFields_mem texts inside
  have keys := dumpsFields_keys texts
  have first : ∀ other ∈ parts, other ≠ (key, valueText) → key < other.1 := by
    intro other otherIn apart
    refine least other.1 (keys ▸ List.mem_map_of_mem otherIn) fun same => apart ?_
    exact List.inj_on_of_nodup_map (keys ▸ keyed) otherIn listed same
  obtain ⟨rest, sorted⟩ := insertionSort_least listed first
  obtain ⟨tail, text⟩ := intercalate_cons_toList "," (quote key ++ ":" ++ valueText)
    (rest.map fun part => quote part.1 ++ ":" ++ part.2)
  refine ⟨valueText, tail ++ ['\x7d'], value_encoded, ?_⟩
  rw [sorted, List.map_cons, String.toList_append, String.toList_append, text]
  simp

theorem takeWhile_decimal (value : Nat) (rest : List Char) :
    ((toString value).toList ++ ',' :: rest).takeWhile (· ≠ ',') = Nat.toDigits 10 value := by
  have digits : ∀ character ∈ Nat.toDigits 10 value, decide (character ≠ ',') = true := by
    intro character listed
    have digit := Nat.isDigit_of_mem_toDigits (by decide) (by decide) listed
    rw [decide_eq_true_eq]
    rintro rfl
    exact absurd digit (by decide)
  rw [Nat.toString_eq_ofList_toDigits, String.toList_ofList, List.takeWhile_append_of_pos digits]
  simp

theorem decimal_toList_injective {first second : Nat} {rest rest' : List Char}
    (same : (toString first).toList ++ ',' :: rest = (toString second).toList ++ ',' :: rest') :
    first = second := by
  have digits := congrArg (List.takeWhile (· ≠ ',')) same
  rw [takeWhile_decimal, takeWhile_decimal] at digits
  simpa using congrArg (Nat.ofDigitChars 10 · 0) digits

end Soma.Foundation
