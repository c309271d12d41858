import Soma.Imports.LogicalFingerprint

/-!
What a frame of the logical stream determines. Every frame can be split off the
front of a stream; a text or integer frame gives its value back, a finding frame
its finding, a field or row frame what is framed of the field or row
(`decodes_field`, `decodes_row`).
-/

namespace Soma.Imports

open Foundation Transaction Frames

/-- The frames of an encoder that may raise. -/
abbrev Framed {Value : Type} (encode : Value → Except Raised Bytes) (value : Value)
    (word : Bytes) : Prop :=
  encode value = .ok word

theorem framesOf_mapM {Value : Type} {encode : Value → Except Raised Bytes}
    {values : List Value} {pieces : List Bytes} (ran : values.mapM encode = .ok pieces) :
    FramesOf (Framed encode) values pieces.flatten :=
  ⟨pieces, mapM_ok.mp ran, rfl⟩

/-! ## Primitive frames -/

theorem utf8_injective (same : utf8 first = utf8 second) : first = second := by
  refine String.toByteArray_inj.mp ?_
  rw [← String.toUTF8_eq_toByteArray, ← String.toUTF8_eq_toByteArray]
  exact ByteArray.ext (Array.toList_inj.mp same)

theorem decimal_injective {first second : Nat} (same : toString first = toString second) :
    first = second := by
  have digits : Nat.toDigits 10 first = Nat.toDigits 10 second := by
    simpa [Nat.toString_eq_ofList_toDigits] using congrArg String.toList same
  simpa using congrArg (Nat.ofDigitChars 10 · 0) digits

theorem frame_ok :
    frame tag payload = .ok word ↔
      payload.length < 256 ^ 8 ∧ word = typedFrame 8 tag payload := by
  unfold frame
  split
  case isTrue fits =>
    refine ⟨fun framed => ⟨fits, (Except.ok.inj framed).symm⟩, ?_⟩
    rintro ⟨-, rfl⟩
    rfl
  case isFalse tooLong =>
    refine ⟨fun framed => ?_, fun held => absurd held.1 tooLong⟩
    cases framed

theorem frame_ne_nil (framed : frame tag payload = .ok word) : word ≠ [] := by
  rw [(frame_ok.mp framed).2, typedFrame]
  exact List.cons_ne_nil _ _

/-- What a primitive frame carries. -/
inductive Token where
  | null
  | text (value : String)
  | integer (value : Int)

def Token.encode : Token → Except Raised Bytes
  | .null => frameNull
  | .text value => frameText value
  | .integer value => frameInteger value

theorem Token.encode_ok {token : Token} (framed : token.encode = .ok word) :
    ∃ tag payload, frame tag payload = .ok word ∧
      match token with
      | .null => tag = 0
      | .text value => tag = 1 ∧ payload = utf8 value
      | .integer value => tag = 2 ∧ 0 ≤ value ∧ payload = utf8 (toString value.toNat) := by
  cases token with
  | null => exact ⟨0, [], framed, rfl⟩
  | text value =>
    simp only [Token.encode, frameText, except_ok] at framed
    obtain ⟨-, framed⟩ := framed
    exact ⟨1, utf8 value, framed, rfl, rfl⟩
  | integer value =>
    simp only [Token.encode, frameInteger, except_ok] at framed
    obtain ⟨nonnegative, framed⟩ := framed
    exact ⟨2, _, framed, rfl, nonnegative, rfl⟩

/-- A primitive frame gives its token back. -/
theorem decodes_token : Decodes (Framed Token.encode) id := by
  intro first second _ _ _ _ framed framed' same
  obtain ⟨_, _, framed, carries⟩ := Token.encode_ok framed
  obtain ⟨_, _, framed', carries'⟩ := Token.encode_ok framed'
  obtain ⟨fits, rfl⟩ := frame_ok.mp framed
  obtain ⟨fits', rfl⟩ := frame_ok.mp framed'
  obtain ⟨rfl, rfl, rfl⟩ := typedFrame_split fits fits' same
  refine ⟨?_, rfl, rfl⟩
  cases first with
  | null =>
    cases second with
    | null => rfl
    | text value => exact absurd (carries.symm.trans carries'.1) (by decide)
    | integer value => exact absurd (carries.symm.trans carries'.1) (by decide)
  | text value =>
    cases second with
    | null => exact absurd (carries.1.symm.trans carries') (by decide)
    | text value' =>
      have equal : value = value' := utf8_injective (carries.2.symm.trans carries'.2)
      rw [equal]
    | integer value' => exact absurd (carries.1.symm.trans carries'.1) (by decide)
  | integer value =>
    cases second with
    | null => exact absurd (carries.1.symm.trans carries') (by decide)
    | text value' => exact absurd (carries.1.symm.trans carries'.1) (by decide)
    | integer value' =>
      have decimals : toString value.toNat = toString value'.toNat :=
        utf8_injective (carries.2.2.symm.trans carries'.2.2)
      have naturals := decimal_injective decimals
      have nonnegative := carries.2.1
      have nonnegative' := carries'.2.1
      have equal : value = value' := by omega
      rw [equal]

theorem decodes_text : Decodes (Framed frameText) id := by
  intro first second left right _ _ framed framed' same
  have split := decodes_token (show Framed Token.encode (.text first) left from framed)
    (show Framed Token.encode (.text second) right from framed') same
  exact ⟨Token.text.inj split.1, split.2⟩

theorem decodes_integer : Decodes (Framed frameInteger) id := by
  intro first second left right _ _ framed framed' same
  have split := decodes_token (show Framed Token.encode (.integer first) left from framed)
    (show Framed Token.encode (.integer second) right from framed') same
  exact ⟨Token.integer.inj split.1, split.2⟩

/-- An absent text is a null token. -/
def optionalToken : Option String → Token
  | none => .null
  | some value => .text value

theorem frameOptionalText_eq (value : Option String) :
    frameOptionalText value = (optionalToken value).encode := by
  cases value <;> rfl

theorem decodes_optionalText : Decodes (Framed frameOptionalText) id := by
  intro first second _ _ _ _ framed framed' same
  rw [Framed, frameOptionalText_eq] at framed framed'
  obtain ⟨_, rest⟩ := decodes_token framed framed' same
  refine ⟨?_, rest⟩
  cases first <;> cases second <;> simp_all [optionalToken]

def FramedValue.token : FramedValue → Token
  | .text content => .text content
  | .integer content => .integer content

theorem FramedValue.frame_eq (value : FramedValue) : value.frame = value.token.encode := by
  cases value <;> rfl

theorem FramedValue.token_injective : Function.Injective FramedValue.token := by
  intro first second _
  cases first <;> cases second <;> simp_all [FramedValue.token]

theorem decodes_framedValue : Decodes (Framed FramedValue.frame) id := by
  intro first second left right _ _ framed framed' same
  have token : first.token.encode = .ok left := first.frame_eq ▸ framed
  have token' : second.token.encode = .ok right := second.frame_eq ▸ framed'
  obtain ⟨tokens, rest⟩ := decodes_token token token' same
  exact ⟨FramedValue.token_injective tokens, rest⟩

/-! ## Fields, findings and rows -/

/-- What is framed of a field. -/
structure FieldContent where
  fieldKey : String
  fieldClass : String
  valueState : String
  valueKind : String
  vocabularyId : Option String
  value : Option FramedValue

def fieldContent (sha256 : Sha256) (field : LogicalField) : FieldContent :=
  ⟨field.fieldKey, field.fieldClass, field.valueState, field.valueKind, field.vocabularyId,
    (framedValue sha256 field).toOption⟩

/-- What is framed of a row. -/
structure RowContent where
  identityState : String
  entityKind : String
  canonicalPrimaryId : Option String
  canonicalParentRfcNo : Option String
  fields : List FieldContent
  findings : List LogicalFinding

def rowContent (sha256 : Sha256) (row : LogicalRow) : RowContent :=
  ⟨row.identityState, row.entityKind, row.canonicalPrimaryId, row.canonicalParentRfcNo,
    (sortedFields row).map (fieldContent sha256), sortedFindings row.findings⟩

variable {sha256 : Sha256}

theorem decodes_field : Decodes (Framed (fieldFrame sha256)) (fieldContent sha256) := by
  intro _ _ _ _ _ _ framed framed' same
  simp only [Framed, fieldFrame, fieldValueFrame, except_bind_ok, ensure_ok] at framed framed'
  obtain ⟨_, -, _, -, _, versioned, _, keyed, _, classed, _, stated, _,
    kinded, _, listed, _, ⟨_, found, valued⟩, framed⟩ := framed
  obtain ⟨_, -, _, -, _, versioned', _, keyed', _, classed', _, stated',
    _, kinded', _, listed', _, ⟨_, found', valued'⟩, framed'⟩ := framed'
  obtain rfl := Except.ok.inj framed
  obtain rfl := Except.ok.inj framed'
  simp only [List.append_assoc] at same
  obtain ⟨-, rfl, behind₁⟩ := decodes_text versioned versioned' same
  obtain ⟨keys, rfl, behind₂⟩ := decodes_text keyed keyed' behind₁
  obtain ⟨classes, rfl, behind₃⟩ := decodes_text classed classed' behind₂
  obtain ⟨states, rfl, behind₄⟩ := decodes_text stated stated' behind₃
  obtain ⟨kinds, rfl, behind₅⟩ := decodes_text kinded kinded' behind₄
  obtain ⟨vocabularies, rfl, behind₆⟩ := decodes_optionalText listed listed' behind₅
  obtain ⟨values, rfl, behind₇⟩ := decodes_framedValue valued valued' behind₆
  refine ⟨?_, rfl, behind₇⟩
  simp only [id_eq] at keys classes states kinds vocabularies values
  simp [fieldContent, keys, classes, states, kinds, vocabularies, found, found', values]

theorem decodes_finding : Decodes (Framed findingFrame) id := by
  intro first second _ _ _ _ framed framed' same
  simp only [Framed, findingFrame, except_bind_ok] at framed framed'
  obtain ⟨_, versioned, _, coded, _, rated, _, ranged, _, keyed,
    framed⟩ := framed
  obtain ⟨_, versioned', _, coded', _, rated', _, ranged', _, keyed',
    framed'⟩ := framed'
  obtain rfl := Except.ok.inj framed
  obtain rfl := Except.ok.inj framed'
  simp only [List.append_assoc] at same
  obtain ⟨-, rfl, behind₁⟩ := decodes_text versioned versioned' same
  obtain ⟨codes, rfl, behind₂⟩ := decodes_text coded coded' behind₁
  obtain ⟨severities, rfl, behind₃⟩ := decodes_text rated rated' behind₂
  obtain ⟨scopes, rfl, behind₄⟩ := decodes_text ranged ranged' behind₃
  obtain ⟨keys, rfl, behind₅⟩ := decodes_optionalText keyed keyed' behind₄
  refine ⟨?_, rfl, behind₅⟩
  obtain ⟨_, _, _, _⟩ := first
  obtain ⟨_, _, _, _⟩ := second
  simp only [id_eq] at codes severities scopes keys ⊢
  rw [codes, severities, scopes, keys]

theorem decodes_row : Decodes (Framed (rowFrame sha256)) (rowContent sha256) := by
  intro _ _ _ _ _ _ framed framed' same
  simp only [Framed, rowFrame, except_bind_ok, ensure_ok] at framed framed'
  obtain ⟨_, -, _, -, _, -, _, versioned, _, stated, _, named, _, identified,
    _, attached, _, counted, _, fieldFramed, _, numbered, _,
    findingFramed, framed⟩ := framed
  obtain ⟨_, -, _, -, _, -, _, versioned', _, stated', _, named', _,
    identified', _, attached', _, counted', _, fieldFramed', _,
    numbered', _, findingFramed', framed'⟩ := framed'
  obtain rfl := Except.ok.inj framed
  obtain rfl := Except.ok.inj framed'
  simp only [List.append_assoc] at same
  obtain ⟨-, rfl, behind₁⟩ := decodes_text versioned versioned' same
  obtain ⟨states, rfl, behind₂⟩ := decodes_text stated stated' behind₁
  obtain ⟨entities, rfl, behind₃⟩ := decodes_text named named' behind₂
  obtain ⟨primaries, rfl, behind₄⟩ := decodes_optionalText identified identified' behind₃
  obtain ⟨parents, rfl, behind₅⟩ := decodes_optionalText attached attached' behind₄
  obtain ⟨lengths, rfl, behind₆⟩ := decodes_integer counted counted' behind₅
  obtain ⟨fieldsSame, fieldBytes, behind₇⟩ := decodes_field.list (Int.ofNat.inj lengths)
    (framesOf_mapM fieldFramed) (framesOf_mapM fieldFramed') behind₆
  obtain ⟨numbers, rfl, behind₈⟩ := decodes_integer numbered numbered' behind₇
  obtain ⟨findingsSame, findingBytes, behind₉⟩ := decodes_finding.list (Int.ofNat.inj numbers)
    (framesOf_mapM findingFramed) (framesOf_mapM findingFramed') behind₈
  rw [List.map_id, List.map_id] at findingsSame
  refine ⟨?_, by rw [fieldBytes, findingBytes], behind₉⟩
  simp only [id_eq] at states entities primaries parents
  simp [rowContent, states, entities, primaries, parents, fieldsSame, findingsSame]

/-! ## No frame is empty -/

theorem frameText_ne_nil (framed : frameText value = .ok word) : word ≠ [] := by
  simp only [frameText, except_ok] at framed
  obtain ⟨-, framed⟩ := framed
  exact frame_ne_nil framed

theorem fieldFrame_ne_nil (field : LogicalField) (word : Bytes)
    (framed : Framed (fieldFrame sha256) field word) : word ≠ [] := by
  simp only [Framed, fieldFrame, except_bind_ok] at framed
  obtain ⟨_, -, _, -, _, versioned, _, -, _, -, _, -, _, -, _, -, _, -, framed⟩ := framed
  obtain rfl := Except.ok.inj framed
  exact List.append_ne_nil_of_left_ne_nil (frameText_ne_nil versioned) _

theorem findingFrame_ne_nil (finding : LogicalFinding) (word : Bytes)
    (framed : Framed findingFrame finding word) : word ≠ [] := by
  simp only [Framed, findingFrame, except_bind_ok] at framed
  obtain ⟨_, versioned, _, -, _, -, _, -, _, -, framed⟩ := framed
  obtain rfl := Except.ok.inj framed
  exact List.append_ne_nil_of_left_ne_nil (frameText_ne_nil versioned) _

theorem rowFrame_ne_nil (row : LogicalRow) (word : Bytes)
    (framed : Framed (rowFrame sha256) row word) : word ≠ [] := by
  simp only [Framed, rowFrame, except_bind_ok] at framed
  obtain ⟨_, -, _, -, _, -, _, versioned, _, -, _, -, _, -, _, -, _, -, _, -, _, -, _, -,
    framed⟩ := framed
  obtain rfl := Except.ok.inj framed
  exact List.append_ne_nil_of_left_ne_nil (frameText_ne_nil versioned) _

end Soma.Imports
