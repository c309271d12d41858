import Mathlib.Data.List.TakeWhile
import Soma.Foundation.CanonicalReading

/-!
Canonical JSON identifies a value: two values have one text if and only if they differ in
the order of their fields only, and the reader accepts the texts that the writer produces
and no others. The reader itself is lenient; what it makes of a text is written again and
compared.

Writing refuses an integer of more than 4300 digits, as reading does. The recursion limit
of the interpreter is not modelled.
-/

namespace Soma.Foundation

/-! ## Sameness -/

mutual

/-- Equality up to the order of the fields of objects. -/
def Json.alike : Json → Json → Bool
  | .null, .null => true
  | .bool first, .bool second => first == second
  | .int first, .int second => first == second
  | .float first, .float second => first == second
  | .str first, .str second => first == second
  | .arr first, .arr second => alikeItems first second
  | .obj first, .obj second => first.length == second.length && alikeFields first second
  | _, _ => false

def alikeItems : List Json → List Json → Bool
  | [], [] => true
  | item :: items, other :: others => item.alike other && alikeItems items others
  | _, _ => false

def alikeFields : List (String × Json) → List (String × Json) → Bool
  | [], _ => true
  | (key, value) :: fields, others =>
    others.any (fun other => other.1 == key && value.alike other.2) && alikeFields fields others

end

theorem alikeItems_iff (each : ∀ item ∈ items, ∀ other ∈ others,
      (item.alike other = true ↔ item.arranged = other.arranged)) :
    alikeItems items others = true ↔ items.map Json.arranged = others.map Json.arranged := by
  induction items generalizing others with
  | nil => cases others <;> simp [alikeItems]
  | cons item items ih =>
    cases others with
    | nil => simp [alikeItems]
    | cons other others =>
      have first := each item List.mem_cons_self other List.mem_cons_self
      have rest := ih fun item inside other listed =>
        each item (List.mem_cons_of_mem _ inside) other (List.mem_cons_of_mem _ listed)
      simp [alikeItems, first, rest]

theorem alikeFields_iff (fields others : List (String × Json)) :
    alikeFields fields others = true ↔
      ∀ field ∈ fields, ∃ other ∈ others, other.1 = field.1 ∧ field.2.alike other.2 = true := by
  induction fields with
  | nil => simp [alikeFields]
  | cons field fields ih => simp [alikeFields, ih]

/-- Fields with one key each are sorted to the same list if they are the same fields. -/
theorem sorted_iff_perm {Value : Type} {fields others : List (String × Value)}
    (keyed : (fields.map (·.1)).Nodup) :
    (fields.insertionSort fun left right => left.1 ≤ right.1) =
        (others.insertionSort fun left right => left.1 ≤ right.1) ↔ fields.Perm others := by
  let order := fun left right : String × Value => left.1 ≤ right.1
  have : Std.Total order := ⟨fun left right => String.le_total left.1 right.1⟩
  have : IsTrans (String × Value) order := ⟨fun _ _ _ below above => String.le_trans below above⟩
  have moved := List.perm_insertionSort order fields
  have shifted := List.perm_insertionSort order others
  constructor
  · intro same
    exact moved.symm.trans (same ▸ shifted)
  · intro same
    refine List.Perm.eq_of_pairwise ?_ (List.pairwise_insertionSort order fields)
      (List.pairwise_insertionSort order others) (moved.trans (same.trans shifted.symm))
    intro left right inside listed below above
    exact List.inj_on_of_nodup_map keyed (moved.mem_iff.mp inside)
      (same.mem_iff.mpr (shifted.mem_iff.mp listed)) (String.le_antisymm below above)

variable {floatText : String → Option String}

/-- Values are the same up to the order of fields if and only if they are equal once
their fields are sorted. -/
theorem alike_iff {first second : Json} (strict : first.Strict floatText)
    (other : second.Strict floatText) :
    first.alike second = true ↔ first.arranged = second.arranged := by
  induction first using Json.structural generalizing second with
  | null | bool | int | float | str => cases second <;> simp [Json.alike, Json.arranged]
  | unencodable => cases strict
  | arr items ih =>
    cases strict with
    | arr strict =>
      cases other with
      | @arr others other =>
        have same := alikeItems_iff fun item inside next listed =>
          ih item inside (strict item inside) (other next listed)
        simp [Json.alike, Json.arranged, arrangedItems_eq, same]
      | _ => simp [Json.alike, Json.arranged]
  | obj fields ih =>
    cases strict with
    | obj keyed strict =>
      cases other with
      | @obj others distinct other =>
        have keys : ((fields.map fun field => (field.1, field.2.arranged)).map (·.1)).Nodup := by
          rw [List.map_map]
          exact keyed
        rw [Json.alike, Json.arranged, Json.arranged, Json.obj.injEq, arrangedFields_eq,
          arrangedFields_eq, sorted_iff_perm keys, Bool.and_eq_true, beq_iff_eq, alikeFields_iff]
        constructor
        · rintro ⟨lengths, each⟩
          refine (List.subperm_of_subset keys.of_map ?_).perm_of_length_le (by simp [lengths])
          intro part inside
          obtain ⟨field, listed, rfl⟩ := List.mem_map.mp inside
          obtain ⟨found, present, key, alike⟩ := each field listed
          refine List.mem_map.mpr ⟨found, present, ?_⟩
          rw [key, (ih field listed (strict field listed) (other found present)).mp alike]
        · intro same
          refine ⟨by simpa using same.length_eq, fun field listed => ?_⟩
          obtain ⟨found, present, equal⟩ := List.mem_map.mp
            (same.subset (List.mem_map_of_mem (f := fun field => (field.1, field.2.arranged)) listed))
          obtain ⟨key, value⟩ := Prod.mk.inj equal
          exact ⟨found, present, key,
            (ih field listed (strict field listed) (other found present)).mpr value.symm⟩
      | _ => simp [Json.alike, Json.arranged]

/-! ## Sorted values -/

variable {value : Json} {text : String}

theorem dumps_arranged (encoded : dumps value = some text) : dumps value.arranged = some text := by
  induction value using Json.structural generalizing text with
  | null | bool | int | float | str | unencodable => exact encoded
  | arr items ih =>
    rw [dumps, Option.map_eq_some_iff] at encoded
    obtain ⟨parts, texts, rfl⟩ := encoded
    obtain ⟨rfl, each⟩ := dumpsItems_text texts
    have same : dumpsItems (items.map Json.arranged) = some (items.map Json.text) := by
      clear texts
      induction items with
      | nil => rfl
      | cons item items rest =>
        have others := rest (fun other inside => ih other (List.mem_cons_of_mem _ inside))
          fun other inside => each other (List.mem_cons_of_mem _ inside)
        rw [List.map_cons, dumpsItems, ih item List.mem_cons_self (each item List.mem_cons_self),
          others]
        rfl
    rw [Json.arranged, arrangedItems_eq, dumps, same, Option.map_some]
  | obj fields ih =>
    rw [dumps, Option.map_eq_some_iff] at encoded
    obtain ⟨parts, texts, rfl⟩ := encoded
    obtain ⟨rfl, each⟩ := dumpsFields_text texts
    let order := fun left right : String × Json => left.1 ≤ right.1
    have same : ∀ sorted : List (String × Json), (∀ field ∈ sorted, field ∈ fields) →
        dumpsFields (sorted.map fun field => (field.1, field.2.arranged)) =
          some (sorted.map fun field => (field.1, field.2.text)) := by
      intro sorted within
      induction sorted with
      | nil => rfl
      | cons field sorted rest =>
        obtain ⟨inside, others⟩ := List.forall_mem_cons.mp within
        rw [List.map_cons, dumpsFields, ih field inside (each field inside), rest others]
        rfl
    have moved := List.perm_insertionSort order fields
    have : Std.Total order := ⟨fun left right => String.le_total left.1 right.1⟩
    have : IsTrans (String × Json) order := ⟨fun _ _ _ below above => String.le_trans below above⟩
    have settled : (fields.insertionSort order).insertionSort order = fields.insertionSort order :=
      (List.pairwise_insertionSort order fields).insertionSort_eq
    rw [Json.arranged, arrangedFields_eq, sorted_map, dumps,
      same _ fun field inside => moved.mem_iff.mp inside, Option.map_some, sorted_map, sorted_map,
      settled]

theorem convertible_arranged (value : Json) : value.arranged.convertible = value.convertible := by
  induction value using Json.structural with
  | null | bool | int | float | str | unencodable => rfl
  | arr items ih =>
    rw [Json.arranged, Json.convertible, Json.convertible, arrangedItems_eq, convertibleItems_eq,
      convertibleItems_eq, List.all_map, Bool.eq_iff_iff, List.all_eq_true, List.all_eq_true]
    exact forall₂_congr fun item inside => by rw [Function.comp_apply, ih item inside]
  | obj fields ih =>
    have moved := List.perm_insertionSort (fun left right : String × Json => left.1 ≤ right.1) fields
    rw [Json.arranged, Json.convertible, Json.convertible, arrangedFields_eq, convertibleFields_eq,
      convertibleFields_eq, sorted_map, List.all_map, moved.all_eq, Bool.eq_iff_iff,
      List.all_eq_true, List.all_eq_true]
    exact forall₂_congr fun field inside => by rw [Function.comp_apply, ih field inside]

theorem measureFields_eq (depth : Nat) (fields : List (String × Json)) :
    measureFields depth fields =
      (fields.map fun field => measure depth field.2).foldr Measure.combine ⟨0, 0⟩ := by
  induction fields with
  | nil => rfl
  | cons field fields ih => rw [measureFields, ih, List.map_cons, List.foldr_cons]

theorem measureItems_eq (depth : Nat) (items : List Json) :
    measureItems depth items =
      (items.map fun item => measure depth item).foldr Measure.combine ⟨0, 0⟩ := by
  induction items with
  | nil => rfl
  | cons item items ih => rw [measureItems, ih, List.map_cons, List.foldr_cons]

instance combineCommutes : LeftCommutative Measure.combine :=
  ⟨fun _ _ _ => by simp [Measure.combine, Nat.max_left_comm, Nat.add_left_comm]⟩

theorem measure_arranged (depth : Nat) (value : Json) :
    measure depth value.arranged = measure depth value := by
  induction value using Json.structural generalizing depth with
  | null | bool | int | float | str | unencodable => rfl
  | arr items ih =>
    have same : (items.map fun item => measure (depth + 1) item.arranged) =
        items.map fun item => measure (depth + 1) item :=
      List.map_congr_left fun item inside => ih item inside (depth + 1)
    rw [Json.arranged, measure, measure, arrangedItems_eq, measureItems_eq, measureItems_eq,
      List.map_map, List.length_map, Function.comp_def, same]
  | obj fields ih =>
    have moved := List.perm_insertionSort (fun left right : String × Json => left.1 ≤ right.1) fields
    have same : (fields.map fun field => measure (depth + 1) field.2.arranged) =
        fields.map fun field => measure (depth + 1) field.2 :=
      List.map_congr_left fun field inside => ih field inside (depth + 1)
    rw [Json.arranged, measure, measure, arrangedFields_eq, sorted_map, measureFields_eq,
      measureFields_eq, List.map_map, List.length_map, moved.length_eq, (moved.map _).foldr_eq,
      Function.comp_def, same]

theorem strict_encodes (strict : value.Strict floatText) : value.Encodes := by
  induction value using Json.structural with
  | null | int | float | str => rw [Json.Encodes, dumps]; rfl
  | bool value => cases value <;> rw [Json.Encodes, dumps] <;> rfl
  | arr items ih =>
    cases strict with
    | arr strict => exact encodes_arr.mpr fun item inside => ih item inside (strict item inside)
  | obj fields ih =>
    cases strict with
    | obj _ strict => exact encodes_obj.mpr fun field inside => ih field inside (strict field inside)
  | unencodable => cases strict

/-! ## What the reader returns -/

theorem ofDigitChars_lt (all : ∀ character ∈ digits, character.isDigit) (start : Nat) :
    Nat.ofDigitChars 10 digits start < 10 ^ digits.length * (start + 1) := by
  induction digits generalizing start with
  | nil => simp
  | cons digit digits ih =>
    obtain ⟨first, others⟩ := List.forall_mem_cons.mp all
    have small : digit.toNat - '0'.toNat ≤ 9 := by
      simp only [Char.isDigit, Bool.and_eq_true, decide_eq_true_eq, UInt32.le_iff_toNat_le] at first
      have above : digit.toNat ≤ 57 := first.2
      have zero : '0'.toNat = 48 := rfl
      omega
    rw [Nat.ofDigitChars_cons, List.length_cons, Nat.pow_succ]
    calc _ < 10 ^ digits.length * (10 * start + (digit.toNat - '0'.toNat) + 1) := ih others _
      _ ≤ 10 ^ digits.length * (10 * (start + 1)) := Nat.mul_le_mul_left _ (by omega)
      _ = 10 ^ digits.length * 10 * (start + 1) := by rw [Nat.mul_assoc]

theorem toDigits_ofDigitChars_length (all : ∀ character ∈ digits, character.isDigit)
    (inhabited : digits ≠ []) :
    (Nat.toDigits 10 (Nat.ofDigitChars 10 digits 0)).length ≤ digits.length := by
  rw [Nat.length_toDigits_le_iff (by decide) (List.length_pos_iff.mpr inhabited)]
  simpa using ofDigitChars_lt all 0

/-- `float` and `repr` on the numerals of JSON. -/
structure FloatText where
  /-- `repr(float(numeral))`, absent where the number is not finite. -/
  text : String → Option String
  settled : ∀ numeral shortest, text numeral = some shortest → text shortest = some shortest
  real : ∀ numeral shortest, text numeral = some shortest → IsReal shortest

variable {floats : FloatText}

theorem numeral_strict {sign whole fraction exponent rest left : List Char}
    (digits : ∀ character ∈ whole, character.isDigit)
    (read : (if whole = [] ∨ 1 < sign.length then none
      else if fraction = [] ∧ exponent = [] then
        if 4300 < whole.length then none
        else
          let magnitude : Int := Nat.ofDigitChars 10 whole 0
          some (Json.int (if sign = [] then magnitude else -magnitude), rest)
      else (floats.text (String.ofList (sign ++ whole ++ fraction ++ exponent))).map
        (Json.float ·, rest)) = some (value, left)) :
    value.Strict floats.text ∧ value.convertible = true := by
  split at read
  · cases read
  · rename_i plain
    split at read
    · split at read
      · cases read
      · rename_i short
        cases read
        refine ⟨.int _, decide_eq_true ?_⟩
        have absolute : ∀ magnitude : Nat,
            (if sign = [] then (magnitude : Int) else -magnitude).natAbs = magnitude := by
          intro magnitude
          split <;> simp
        rw [absolute]
        exact (toDigits_ofDigitChars_length digits fun empty => plain (.inl empty)).trans
          (Nat.not_lt.mp short)
    · obtain ⟨_, converted, made⟩ := Option.map_eq_some_iff.mp read
      cases made
      exact ⟨.float (floats.settled _ _ converted) (floats.real _ _ converted), rfl⟩

theorem scanNumber_strict {text rest : List Char}
    (read : scanNumber floats.text text = some (value, rest)) :
    value.Strict floats.text ∧ value.convertible = true := by
  rw [scanNumber] at read
  dsimp only at read
  split at read
  · exact numeral_strict (fun character inside => by rw [List.mem_singleton.mp inside]; rfl) read
  · refine numeral_strict (fun character inside => ?_) read
    rw [List.span_eq_takeWhile_dropWhile] at inside
    exact List.mem_takeWhile_imp inside

theorem readFields_step {fuel : Nat} {text rest : List Char} {fields : List (String × Json)}
    (read : readFields floats.text (fuel + 1) text = some (fields, rest)) :
    ∃ key value others text left, fields = (key, value) :: others ∧
      readValue floats.text fuel text = some (value, left) ∧
      (others = [] ∨ ∃ text left, readFields floats.text fuel text = some (others, left)) := by
  simp only [readFields, Option.bind_eq_bind, Option.bind_eq_some_iff] at read
  obtain ⟨_, -, ⟨key, _⟩, -, _, -, ⟨value, left⟩, valued, read⟩ := read
  refine ⟨String.ofList key, value, ?_⟩
  dsimp only at valued read
  split at read
  · cases read
    exact ⟨[], _, _, rfl, valued, .inl rfl⟩
  · simp only [Option.bind_eq_some_iff] at read
    obtain ⟨_, -, ⟨others, _⟩, more, made⟩ := read
    cases made
    exact ⟨others, _, _, rfl, valued, .inr ⟨_, _, more⟩⟩

theorem readItems_step {fuel : Nat} {text rest : List Char} {items : List Json}
    (read : readItems floats.text (fuel + 1) text = some (items, rest)) :
    ∃ item others text left, items = item :: others ∧
      readValue floats.text fuel text = some (item, left) ∧
      (others = [] ∨ ∃ text left, readItems floats.text fuel text = some (others, left)) := by
  simp only [readItems, Option.bind_eq_bind, Option.bind_eq_some_iff] at read
  obtain ⟨⟨item, left⟩, valued, read⟩ := read
  refine ⟨item, ?_⟩
  dsimp only at valued read
  split at read
  · cases read
    exact ⟨[], _, _, rfl, valued, .inl rfl⟩
  · simp only [Option.bind_eq_some_iff] at read
    obtain ⟨_, -, ⟨others, _⟩, more, made⟩ := read
    cases made
    exact ⟨others, _, _, rfl, valued, .inr ⟨_, _, more⟩⟩

/-- What the reader returns can be written. -/
theorem reader_strict (fuel : Nat) :
    (∀ text value rest, readValue floats.text fuel text = some (value, rest) →
      value.Strict floats.text ∧ value.convertible = true) ∧
    (∀ text fields rest, readFields floats.text fuel text = some (fields, rest) →
      ∀ field ∈ fields, field.2.Strict floats.text ∧ field.2.convertible = true) ∧
    ∀ text items rest, readItems floats.text fuel text = some (items, rest) →
      ∀ item ∈ items, item.Strict floats.text ∧ item.convertible = true := by
  induction fuel with
  | zero => refine ⟨?_, ?_, ?_⟩ <;> (intro _ _ _ read; cases read)
  | succ fuel ih =>
    obtain ⟨ofValue, ofFields, ofItems⟩ := ih
    refine ⟨fun text value rest read => ?_, fun text fields rest read => ?_,
      fun text items rest read => ?_⟩
    · cases text with
      | nil => cases read
      | cons character text =>
        rw [readValue] at read
        split at read
        · simp only [Option.bind_eq_bind, Option.bind_eq_some_iff] at read
          obtain ⟨_, -, made⟩ := read
          cases made
          exact ⟨.str _, rfl⟩
        · split at read
          · split at read
            · cases read
              exact ⟨.obj List.nodup_nil (List.forall_mem_nil _), rfl⟩
            · simp only [Option.bind_eq_bind, Option.bind_eq_some_iff] at read
              obtain ⟨⟨fields, left⟩, listed, read⟩ := read
              have each := ofFields _ _ _ listed
              split at read
              · rename_i keyed
                cases read
                refine ⟨.obj keyed fun field inside => (each field inside).1, ?_⟩
                rw [Json.convertible, convertibleFields_eq, List.all_eq_true]
                exact fun field inside => (each field inside).2
              · cases read
          · split at read
            · split at read
              · cases read
                exact ⟨.arr (List.forall_mem_nil _), rfl⟩
              · simp only [Option.bind_eq_bind, Option.bind_eq_some_iff] at read
                obtain ⟨⟨items, left⟩, listed, made⟩ := read
                have each := ofItems _ _ _ listed
                cases made
                refine ⟨.arr fun item inside => (each item inside).1, ?_⟩
                rw [Json.convertible, convertibleItems_eq, List.all_eq_true]
                exact fun item inside => (each item inside).2
            · split at read
              · cases read
                exact ⟨.null, rfl⟩
              · split at read
                · cases read
                  exact ⟨.bool true, rfl⟩
                · split at read
                  · cases read
                    exact ⟨.bool false, rfl⟩
                  · exact scanNumber_strict read
    · obtain ⟨_, value, others, _, _, rfl, valued, more⟩ := readFields_step read
      refine List.forall_mem_cons.mpr ⟨ofValue _ _ _ valued, ?_⟩
      rcases more with rfl | ⟨_, _, more⟩
      · exact List.forall_mem_nil _
      · exact ofFields _ _ _ more
    · obtain ⟨item, others, _, _, rfl, valued, more⟩ := readItems_step read
      refine List.forall_mem_cons.mpr ⟨ofValue _ _ _ valued, ?_⟩
      rcases more with rfl | ⟨_, _, more⟩
      · exact List.forall_mem_nil _
      · exact ofItems _ _ _ more

/-! ## The codec -/

/-- `canonical_json_bytes`, which refuses the integers `int.__repr__` does not write. -/
def canonicalJsonBytes (value : Json) : Except Raised String := do
  ensure value.convertible (validationError "value cannot be canonicalized as JSON")
  canonicalJson value

def canonicalJsonBytesBounded (bounds : JsonBounds) (value : Json) : Except Raised String := do
  ensure value.convertible (validationError "value cannot be canonicalized as JSON")
  canonicalJsonBounded bounds value

theorem canonicalJsonBytes_ok :
    canonicalJsonBytes value = .ok text ↔ value.convertible = true ∧ dumps value = some text := by
  simp only [canonicalJsonBytes, except_ok, canonicalJson_ok]

/-- The document is within the bounds. -/
def JsonBounds.Admit (bounds : JsonBounds) (value : Json) (text : String) : Prop :=
  text.utf8ByteSize ≤ bounds.maxBytes ∧ (measure 0 value).depth ≤ bounds.maxDepth ∧
    (measure 0 value).items ≤ bounds.maxCollectionItems

variable {bounds : JsonBounds}

theorem canonicalJsonBounded_ok :
    canonicalJsonBounded bounds value = .ok text ↔
      dumps value = some text ∧ bounds.Admit value text := by
  simp only [canonicalJsonBounded, except_bind_ok, ensure_ok, canonicalJson_ok]
  constructor
  · rintro ⟨_, encoded, _, bytes, _, depth, _, items, done⟩
    cases done
    exact ⟨encoded, bytes, depth, items⟩
  · rintro ⟨encoded, bytes, depth, items⟩
    exact ⟨text, encoded, (), bytes, (), depth, (), items, rfl⟩

theorem canonicalJsonBytesBounded_ok :
    canonicalJsonBytesBounded bounds value = .ok text ↔
      value.convertible = true ∧ dumps value = some text ∧ bounds.Admit value text := by
  simp only [canonicalJsonBytesBounded, except_ok, canonicalJsonBounded_ok]

theorem loadsCanonicalJson_ok {parse : String → Option Json} :
    loadsCanonicalJson parse bounds text = .ok value ↔
      parse text = some value ∧ dumps value = some text ∧ bounds.Admit value text := by
  simp only [loadsCanonicalJson, loadsStrict, except_bind_ok, ensure_ok, canonicalJsonBounded_ok]
  constructor
  · rintro ⟨_, ⟨_, -, parsed⟩, canonical, ⟨encoded, within⟩, _, same, done⟩
    cases done
    subst same
    cases found : parse canonical with
    | none => simp [found] at parsed
    | some value =>
      rw [found] at parsed
      cases parsed
      exact ⟨rfl, encoded, within⟩
  · rintro ⟨parsed, encoded, within⟩
    exact ⟨value, ⟨(), within.1, by rw [parsed]⟩, text, ⟨encoded, within⟩, (), rfl, rfl⟩

theorem jsonLoads_strict (read : jsonLoads floats.text text = some value) :
    value.Strict floats.text ∧ value.convertible = true := by
  simp only [jsonLoads, Option.bind_eq_bind, Option.bind_eq_some_iff] at read
  obtain ⟨⟨_, _⟩, found_read, ended⟩ := read
  dsimp only at ended
  split at ended
  · cases ended
    exact (reader_strict _).1 _ _ _ found_read
  · cases ended

/-- Two values have one text if and only if they are the same up to the order of fields. -/
theorem canonicalJsonBytes_iff {first second : Json} (strict : first.Strict floatText)
    (other : second.Strict floatText) (encoded : canonicalJsonBytes first = .ok text) :
    canonicalJsonBytes second = .ok text ↔ first.alike second = true := by
  obtain ⟨converted, encoded⟩ := canonicalJsonBytes_ok.mp encoded
  rw [alike_iff strict other, canonicalJsonBytes_ok]
  constructor
  · rintro ⟨otherConverted, otherEncoded⟩
    exact Option.some.inj ((jsonLoads_dumps strict converted encoded).symm.trans
      (jsonLoads_dumps other otherConverted otherEncoded))
  · intro same
    obtain ⟨_, otherEncoded⟩ := Option.isSome_iff_exists.mp (strict_encodes other)
    have texts := dumps_arranged otherEncoded
    rw [← same, dumps_arranged encoded] at texts
    cases texts
    exact ⟨by rw [← convertible_arranged, ← same, convertible_arranged, converted], otherEncoded⟩

theorem loads_written (strict : value.Strict floats.text)
    (written : canonicalJsonBytesBounded bounds value = .ok text) :
    loadsCanonicalJson (jsonLoads floats.text) bounds text = .ok value.arranged := by
  obtain ⟨converted, encoded, bytes, within⟩ := canonicalJsonBytesBounded_ok.mp written
  rw [← measure_arranged] at within
  exact loadsCanonicalJson_ok.mpr
    ⟨jsonLoads_dumps strict converted encoded, dumps_arranged encoded, bytes, within⟩

/-- What is read was written within the same bounds. -/
theorem written_of_loads (read : loadsCanonicalJson (jsonLoads floats.text) bounds text = .ok value)
    :
    value.Strict floats.text ∧ canonicalJsonBytesBounded bounds value = .ok text := by
  obtain ⟨parsed, encoded, within⟩ := loadsCanonicalJson_ok.mp read
  obtain ⟨strict, converted⟩ := jsonLoads_strict parsed
  exact ⟨strict, canonicalJsonBytesBounded_ok.mpr ⟨converted, encoded, within⟩⟩

/-- **Canonical JSON is exact.** Values have one text exactly when they are the same up to
the order of fields; a text is accepted exactly when a value is written as it within the
same bounds, and gives that value back; and a value has one accepted text. -/
theorem canonical_json_codec (floats : FloatText) :
    (∀ first second : Json, first.Strict floats.text → second.Strict floats.text →
      ∀ text, canonicalJsonBytes first = .ok text →
        (canonicalJsonBytes second = .ok text ↔ first.alike second = true)) ∧
    (∀ bounds text, (∃ value, loadsCanonicalJson (jsonLoads floats.text) bounds text = .ok value) ↔
      ∃ value : Json, value.Strict floats.text ∧ canonicalJsonBytesBounded bounds value = .ok text) ∧
    (∀ bounds value text, value.Strict floats.text →
      canonicalJsonBytesBounded bounds value = .ok text →
        ∃ read, loadsCanonicalJson (jsonLoads floats.text) bounds text = .ok read ∧
          value.alike read = true) ∧
    ∀ bounds others text other first second,
      loadsCanonicalJson (jsonLoads floats.text) bounds text = .ok first →
      loadsCanonicalJson (jsonLoads floats.text) others other = .ok second →
        first.alike second = true → text = other := by
  have unbounded {bounds : JsonBounds} {value : Json} {text : String}
      (written : canonicalJsonBytesBounded bounds value = .ok text) :
      canonicalJsonBytes value = .ok text := by
    obtain ⟨converted, encoded, -⟩ := canonicalJsonBytesBounded_ok.mp written
    exact canonicalJsonBytes_ok.mpr ⟨converted, encoded⟩
  refine ⟨fun first second strict other text encoded => canonicalJsonBytes_iff strict other encoded,
    fun bounds text => ⟨?_, ?_⟩, ?_, ?_⟩
  · rintro ⟨value, read⟩
    exact ⟨value, written_of_loads read⟩
  · rintro ⟨value, strict, written⟩
    exact ⟨value.arranged, loads_written strict written⟩
  · intro bounds value text strict written
    have read := loads_written strict written
    obtain ⟨sorted, again⟩ := written_of_loads read
    exact ⟨_, read, (canonicalJsonBytes_iff strict sorted (unbounded written)).mp (unbounded again)⟩
  · intro bounds others text other first second read readOther same
    obtain ⟨strict, written⟩ := written_of_loads read
    obtain ⟨strictOther, writtenOther⟩ := written_of_loads readOther
    have one := (canonicalJsonBytes_iff strict strictOther (unbounded written)).mpr same
    rw [unbounded writtenOther] at one
    exact (Except.ok.inj one).symm

/-- `float` and `repr` where the only number is 1.5. -/
def halfFloats : FloatText where
  text numeral := if numeral = "1.5" then some "1.5" else none
  settled := by
    intro numeral shortest converted
    split at converted
    · cases converted
      rfl
    · cases converted
  real := by
    intro numeral shortest converted
    split at converted
    · cases converted
      exact ⟨⟨[], ['1'], ['.', '5'], [], .inl rfl, by simp, by decide,
        .inr ⟨['5'], rfl, by decide, by simp⟩, .inl rfl⟩, by decide, by decide⟩
    · cases converted

/-- A document and the same with its fields the other way round. -/
theorem reordered_document_text :
    canonicalJsonBytes (.obj [("a", .float "1.5"), ("b", .arr [.int (-3), .str "x\n"])]) =
      .ok "\x7b\"a\":1.5,\"b\":[-3,\"x\\n\"]\x7d" := by
  have strict : (Json.arr [.int (-3), .str "x\n"]).Strict halfFloats.text :=
    .arr (List.forall_mem_cons.mpr ⟨.int _, List.forall_mem_cons.mpr ⟨.str _, List.forall_mem_nil _⟩⟩)
  have half : (Json.float "1.5").Strict halfFloats.text := .float rfl (halfFloats.real "1.5" _ rfl)
  refine ((canonical_json_codec halfFloats).1
    (.obj [("b", .arr [.int (-3), .str "x\n"]), ("a", .float "1.5")]) _
    (.obj (by decide) (List.forall_mem_cons.mpr ⟨strict, List.forall_mem_cons.mpr ⟨half, List.forall_mem_nil _⟩⟩))
    (.obj (by decide) (List.forall_mem_cons.mpr ⟨half, List.forall_mem_cons.mpr ⟨strict, List.forall_mem_nil _⟩⟩))
    _ (canonicalJsonBytes_ok.mpr ⟨by decide, by decide⟩)).mpr (by decide)

end Soma.Foundation
