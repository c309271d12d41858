import Mathlib.Data.List.Forall2
import Mathlib.Tactic.Ring

/-!
Frames: finite words over an alphabet that can be split off the front of a
stream. An encoding may be partial and need not be injective: `Decodes` says
that its frames are uniquely delimited and which content of a value they
determine. Decoding carries over to lists of frames, of known length
(`Decodes.list`) or filling a whole stream (`Decodes.sequence`), and typed
frames with a length prefix are the primitive case (`typedFrame_split`).
-/

namespace Soma.Frames

variable {Value Content Other Symbol : Type*}

/-- The frames of an encoding can be split off any stream, and determine a
content of the encoded value. -/
def Decodes (frames : Value → List Symbol → Prop) (content : Value → Content) : Prop :=
  ∀ ⦃first second : Value⦄ ⦃left right leftRest rightRest : List Symbol⦄,
    frames first left → frames second right → left ++ leftRest = right ++ rightRest →
      content first = content second ∧ left = right ∧ leftRest = rightRest

/-- The frames of a list of values, one after the other. -/
def FramesOf (frames : Value → List Symbol → Prop) (values : List Value) (word : List Symbol) :
    Prop :=
  ∃ pieces, List.Forall₂ frames values pieces ∧ word = pieces.flatten

namespace Decodes

variable {frames : Value → List Symbol → Prop} {content : Value → Content}

theorem unique (decodes : Decodes frames content) (framed : frames first word)
    (framed' : frames second word) : content first = content second := by
  have same : word ++ [] = word ++ [] := rfl
  exact (decodes framed framed' same).1

/-- Lists of one length can be split off a stream frame by frame. -/
theorem list (decodes : Decodes frames content) {values others : List Value}
    (length : values.length = others.length) (framed : FramesOf frames values left)
    (framed' : FramesOf frames others right) (same : left ++ leftRest = right ++ rightRest) :
    values.map content = others.map content ∧ left = right ∧ leftRest = rightRest := by
  obtain ⟨pieces, framed, rfl⟩ := framed
  obtain ⟨pieces', framed', rfl⟩ := framed'
  induction framed generalizing others pieces' with
  | nil =>
    obtain rfl : others = [] := List.eq_nil_of_length_eq_zero length.symm
    cases framed'
    exact ⟨rfl, rfl, same⟩
  | @cons value piece values pieces first _ ih =>
    cases framed' with
    | nil => cases length
    | @cons other piece' others pieces' second rest =>
      simp only [List.flatten_cons, List.append_assoc] at same
      obtain ⟨contents, pieceSame, behind⟩ := decodes first second same
      obtain ⟨tails, words, rests⟩ := ih (Nat.succ.inj length) pieces' rest behind
      exact ⟨by simp [contents, tails], by simp [pieceSame, words], rests⟩

/-- Where no frame is empty, a word is the frames of one sequence only. -/
theorem sequence (decodes : Decodes frames content)
    (inhabited : ∀ value word, frames value word → word ≠ []) (framed : FramesOf frames values word)
    (framed' : FramesOf frames others word) : values.map content = others.map content := by
  obtain ⟨pieces, framed, same⟩ := framed
  obtain ⟨pieces', framed', same'⟩ := framed'
  have equal : pieces.flatten = pieces'.flatten := same.symm.trans same'
  clear same same'
  induction framed generalizing others pieces' with
  | nil =>
    cases framed' with
    | nil => rfl
    | @cons other piece others pieces' first _ =>
      have empty : piece = [] := (List.append_eq_nil_iff.mp equal.symm).1
      exact absurd empty (inhabited other piece first)
  | @cons value piece values pieces first _ ih =>
    cases framed' with
    | nil =>
      have empty : piece = [] := (List.append_eq_nil_iff.mp equal).1
      exact absurd empty (inhabited value piece first)
    | @cons other piece' others pieces' second rest =>
      simp only [List.flatten_cons] at equal
      obtain ⟨contents, -, behind⟩ := decodes first second equal
      rw [List.map_cons, List.map_cons, contents, ih pieces' rest behind]

end Decodes

/-- A number in base 256, with `width` digits, the most significant first. -/
def bigEndian : Nat → Nat → List UInt8
  | 0, _ => []
  | width + 1, number => bigEndian width (number / 256) ++ [UInt8.ofNat number]

@[simp] theorem length_bigEndian (width number : Nat) : (bigEndian width number).length = width := by
  induction width generalizing number with
  | zero => rfl
  | succ width ih => simp [bigEndian, ih]

theorem bigEndian_injective (small : first < 256 ^ width) (small' : second < 256 ^ width)
    (same : bigEndian width first = bigEndian width second) : first = second := by
  induction width generalizing first second with
  | zero => omega
  | succ width ih =>
    rw [pow_succ] at small small'
    obtain ⟨high, low⟩ := List.append_inj' same rfl
    have quotients : first / 256 = second / 256 :=
      ih (Nat.div_lt_of_lt_mul (by omega)) (Nat.div_lt_of_lt_mul (by omega)) high
    have digits : first % 256 = second % 256 := by
      have bytes := congrArg UInt8.toNat (List.singleton_inj.mp low)
      simpa using bytes
    omega

/-- A tag, the length of a payload in `width` digits, and the payload. -/
def typedFrame (width : Nat) (tag : UInt8) (payload : List UInt8) : List UInt8 :=
  tag :: (bigEndian width payload.length ++ payload)

/-- A typed frame can be split off a stream with its tag and payload. -/
theorem typedFrame_split {payload payload' : List UInt8} (fits : payload.length < 256 ^ width)
    (fits' : payload'.length < 256 ^ width)
    (same : typedFrame width tag payload ++ rest = typedFrame width tag' payload' ++ rest') :
    tag = tag' ∧ payload = payload' ∧ rest = rest' := by
  simp only [typedFrame, List.cons_append, List.append_assoc, List.cons.injEq] at same
  obtain ⟨tags, same⟩ := same
  obtain ⟨lengths, same⟩ := List.append_inj same (by simp)
  have length := bigEndian_injective fits fits' lengths
  obtain ⟨payloads, rests⟩ := List.append_inj same length
  exact ⟨tags, payloads, rests⟩

end Soma.Frames
