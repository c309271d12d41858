import Soma.Foundation.CanonicalOrder

/-!
Canonical text written element by element: an array whose elements are fed to a digest
one at a time, with a comma before each but the first, and an object whose fields stand
in the order of their keys already.
-/

namespace Soma.Foundation

/-- What a writer of an array has fed to its digest, whether the next element is the
first, and how many there were. -/
structure ArrayStream where
  written : String
  first : Bool
  exactCount : Nat

/-- The array after the text that opens it. -/
def ArrayStream.opened (opening : String) : ArrayStream := ⟨opening, true, 0⟩

/-- One element of the array. -/
def ArrayStream.update (stream : ArrayStream) (element : Json) : Except Raised ArrayStream := do
  let separated := if stream.first then stream.written else stream.written ++ ","
  let encoded ← canonicalJson element
  return ⟨separated ++ encoded, false, stream.exactCount + 1⟩

/-- A value without a canonical text. -/
def notCanonical : Raised := validationError "value cannot be canonicalized as JSON"

theorem canonicalJson_eq (value : Json) :
    canonicalJson value = (dumps value).elim (.error notCanonical) .ok := by
  unfold canonicalJson
  cases dumps value <;> rfl

theorem canonicalJson_ok : canonicalJson value = .ok text ↔ dumps value = some text := by
  rw [canonicalJson_eq]
  cases dumps value <;> simp

section Arrays

theorem foldlM_update_more (elements : List Json) (stream : ArrayStream)
    (more : stream.first = false) :
    elements.foldlM ArrayStream.update stream =
      (dumpsItems elements).elim (.error notCanonical) fun parts =>
        .ok ⟨stream.written ++ String.join (parts.map ("," ++ ·)), false,
          stream.exactCount + elements.length⟩ := by
  induction elements generalizing stream with
  | nil =>
    obtain ⟨written, first, exactCount⟩ := stream
    cases more
    simp [dumpsItems, pure, Except.pure]
  | cons element elements ih =>
    rw [List.foldlM_cons, ArrayStream.update, if_neg (by simp [more]), canonicalJson_eq, dumpsItems]
    cases dumps element with
    | none => rfl
    | some encoded =>
      have rest := ih ⟨stream.written ++ "," ++ encoded, false, stream.exactCount + 1⟩ rfl
      change elements.foldlM ArrayStream.update _ = _
      rw [rest]
      cases dumpsItems elements with
      | none => rfl
      | some parts =>
        simp [String.append_assoc, String.join_cons, Nat.add_assoc, Nat.add_comm 1]

theorem join_separated (first : String) (others : List String) :
    first ++ String.join (others.map ("," ++ ·)) = ",".intercalate (first :: others) := by
  induction others generalizing first with
  | nil => simp [String.join_nil]
  | cons second others ih =>
    rw [List.map_cons, String.join_cons, String.intercalate_cons_cons, ← ih second,
      String.append_assoc, String.append_assoc]

/-- Fed element by element, an array comes to the text of the whole between its brackets,
or to the refusal of the whole. -/
theorem foldlM_update (opening : String) (elements : List Json) :
    elements.foldlM ArrayStream.update (.opened opening) =
      (dumpsItems elements).elim (.error notCanonical) fun parts =>
        .ok ⟨opening ++ ",".intercalate parts, elements.isEmpty, elements.length⟩ := by
  cases elements with
  | nil => simp [dumpsItems, ArrayStream.opened, pure, Except.pure]
  | cons element elements =>
    rw [List.foldlM_cons, ArrayStream.update, ArrayStream.opened, if_pos rfl, canonicalJson_eq,
      dumpsItems]
    cases dumps element with
    | none => rfl
    | some encoded =>
      have rest := foldlM_update_more elements ⟨opening ++ encoded, false, 1⟩ rfl
      change elements.foldlM ArrayStream.update _ = _
      rw [rest]
      cases dumpsItems elements with
      | none => rfl
      | some parts =>
        have joined := join_separated encoded parts
        simp [← joined, String.append_assoc, Nat.add_comm 1]

theorem update_encodes (stream : ArrayStream) {element : Json} (encodes : element.Encodes) :
    ∃ next, stream.update element = .ok next := by
  obtain ⟨_, text⟩ := Option.isSome_iff_exists.mp encodes
  rw [ArrayStream.update, canonicalJson_eq, text]
  exact ⟨_, rfl⟩

/-- Items that are read, written and forgotten come to what they come to read at once,
when none of them can fail to be written. -/
theorem foldlM_read {Row Item : Type} (read : Row → Except Raised Item) (object : Item → Json)
    (encodes : ∀ item, (object item).Encodes) (rows : List Row) (stream : ArrayStream) :
    (rows.foldlM (fun stream row => read row >>= fun item => stream.update (object item)) stream) =
      rows.mapM read >>= fun items =>
        (items.map object).foldlM ArrayStream.update stream := by
  induction rows generalizing stream with
  | nil => rfl
  | cons row rows ih =>
    rw [List.foldlM_cons, List.mapM_cons]
    cases read row with
    | error raised => rfl
    | ok item =>
      obtain ⟨next, written⟩ := update_encodes stream (encodes item)
      change stream.update (object item) >>= _ = _
      rw [written]
      refine (ih next).trans ?_
      change _ = (rows.mapM read >>= fun items => pure (item :: items)) >>= _
      cases rows.mapM read with
      | error raised => rfl
      | ok items =>
        change _ = ((item :: items).map object).foldlM ArrayStream.update stream
        rw [List.map_cons, List.foldlM_cons, written]
        rfl

end Arrays

/-- The text of one field of an object. -/
def fieldText (part : String × String) : String := quote part.1 ++ ":" ++ part.2

/-- The text of an object is that of its parts in the order of their keys. -/
theorem dumps_obj_sorted (sorted : List (String × String))
    (encoded : dumpsFields fields = some parts) (keyed : (fields.map (·.1)).Nodup)
    (same : ∀ part, part ∈ sorted ↔ part ∈ parts)
    (increasing : (sorted.map (·.1)).Pairwise (· < ·)) :
    dumps (.obj fields) = some ("\x7b" ++ ",".intercalate (sorted.map fieldText) ++ "\x7d") := by
  have distinct : (sorted.map (·.1)).Nodup := increasing.imp fun less => String.ne_of_lt less
  have moved : sorted.Perm parts := by
    refine (List.perm_ext_iff_of_nodup distinct.of_map ?_).mpr same
    exact (dumpsFields_keys encoded ▸ keyed).of_map
  have arranged := List.perm_insertionSort (fun left right : String × String => left.1 ≤ right.1)
    parts
  have ordered : (parts.insertionSort fun left right => left.1 ≤ right.1) = sorted := by
    refine List.Perm.eq_of_pairwise ?_
      (List.pairwise_insertionSort (fun left right : String × String => left.1 ≤ right.1) parts)
      ((List.pairwise_map.mp increasing).imp fun less => String.not_lt.mp (String.lt_asymm less))
      (arranged.trans moved.symm)
    intro left right inside listed below above
    exact List.inj_on_of_nodup_map distinct ((arranged.trans moved.symm).mem_iff.mp inside) listed
      (String.le_antisymm below above)
  rw [dumps, encoded, Option.map_some, ordered]
  rfl

theorem canonicalJson_sorted (sorted : List (String × String))
    (encoded : dumpsFields fields = some parts) (keyed : (fields.map (·.1)).Nodup)
    (same : ∀ part, part ∈ sorted ↔ part ∈ parts)
    (increasing : (sorted.map (·.1)).Pairwise (· < ·)) : canonicalJson (.obj fields) =
      .ok ("\x7b" ++ ",".intercalate (sorted.map fieldText) ++ "\x7d") := by
  rw [canonicalJson_eq, dumps_obj_sorted sorted encoded keyed same increasing, Option.elim_some]

end Soma.Foundation
