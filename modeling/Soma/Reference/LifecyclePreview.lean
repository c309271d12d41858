import Mathlib.Algebra.Ring.Int.Defs
import Soma.Reference.CustomerService

/-!
The lifecycle preview of `reference/application/lifecycle_service.py`. Its pages go through
the registered validators one after the other, counting and listing what blocks a target,
while the command asks each validator for a guard. Where every validator counts, lists and
guards the same blockers, the pages show them all and a target is eligible exactly when the
guard of the command passes. A cursor stands here for what its token encodes.
-/

namespace Soma.Reference

open Foundation

inductive ReferenceType where
  | customerOrganization
  | contact
  | dispatchLocation
  deriving DecidableEq

structure ReferenceTarget where
  targetType : ReferenceType
  targetId : String
  deriving DecidableEq

inductive PreviewOperation where
  | archive
  | reactivate

def PreviewOperation.lifecycle : PreviewOperation → LifecycleOperation
  | .archive => archiving
  | .reactivate => reactivating

structure DependencyBlocker where
  blockerId : String
  reasonCode : String
  deriving DecidableEq

structure DependencyPage (Cursor : Type) where
  blockers : List DependencyBlocker
  continuation : Option Cursor

/-- A validator over what it reads; its archive and reactivation methods are told apart by
the operation. -/
structure ReferenceDependencyValidator (Reader Cursor : Type) where
  validatorId : String
  guard : PreviewOperation → Reader → ReferenceTarget → Except Raised DependencyGuard
  countBlockers : PreviewOperation → Reader → ReferenceTarget → Except Raised Int
  listBlockers : PreviewOperation → Reader → ReferenceTarget → Option Cursor → Nat →
    Except Raised (DependencyPage Cursor)

structure PreviewBlocker where
  validatorId : String
  blockerId : String
  reasonCode : String

/-- The payload of a preview cursor. Its target and operation are those of the call it is
given back to. -/
structure PreviewCursor (Cursor : Type) where
  validatorId : String
  innerCursor : Option Cursor

structure LifecyclePreview (Cursor : Type) where
  revision : Int
  exactBlockerCount : Int
  blockers : List PreviewBlocker
  continuation : Option (PreviewCursor Cursor)
  wouldBeEligible : Bool

/-- The columns every table of `_TABLES` has. -/
structure ReferenceRecord where
  targetId : String
  lifecycleState : LifecycleState
  revision : Int

/-- The tables of the references, and what the validators read. -/
structure ReferenceReader (Reader : Type) where
  customerOrganizations : List ReferenceRecord
  contacts : List ReferenceRecord
  dispatchLocations : List ReferenceRecord
  owners : Reader

section Preview

variable {Reader Cursor : Type}

/-- `_TABLES`. -/
def ReferenceReader.table (reader : ReferenceReader Reader) : ReferenceType → List ReferenceRecord
  | .customerOrganization => reader.customerOrganizations
  | .contact => reader.contacts
  | .dispatchLocation => reader.dispatchLocations

/-- `_load`, with what the preview and the commands check of the target. -/
def requireTarget (operation : PreviewOperation) (reader : ReferenceReader Reader)
    (target : ReferenceTarget) (baseRevision : Int) : Except Raised Unit :=
  match (reader.table target.targetType).find? (·.targetId = target.targetId) with
  | none => .error (referenceError "NOT_FOUND" "reference target does not exist")
  | some record => do
    ensure (record.revision = baseRevision)
      (referenceError "STALE_REVISION" "reference revision changed")
    ensure (record.lifecycleState = operation.lifecycle.expected) operation.lifecycle.unexpected

def validationFailed (message : String) : Raised :=
  referenceError "DEPENDENCY_VALIDATION_FAILED" message

/-- What is raised where a validator fails while it counts or lists. -/
def failClosed {Result : Type} (validatorId : String) (outcome : Except Raised Result) :
    Except Raised Result :=
  match outcome with
  | .error .other =>
    .error (validationFailed ("dependency validator " ++ validatorId ++ " preview failed closed"))
  | outcome => outcome

variable (operation : PreviewOperation) (reader : ReferenceReader Reader) (target : ReferenceTarget)

def countValidators (validators : List (ReferenceDependencyValidator Reader Cursor)) :
    Except Raised (List (ReferenceDependencyValidator Reader Cursor × Int)) :=
  validators.mapM fun validator => do
    let count ← failClosed validator.validatorId
      (validator.countBlockers operation reader.owners target)
    ensure (0 ≤ count)
      (validationFailed ("dependency validator " ++ validator.validatorId ++ " preview failed closed"))
    return (validator, count)

/-- The loop of `preview` from a validator on, while the page has room. -/
def collectPage : List (ReferenceDependencyValidator Reader Cursor × Int) → Option Cursor → Nat →
    Except Raised (List PreviewBlocker × Option (PreviewCursor Cursor))
  | [], _, _ => .ok ([], none)
  | (validator, count) :: later, innerCursor, room =>
    if count = 0 then do
      ensure (innerCursor.isNone)
        (referenceError "VALIDATION_FAILED" "reference lifecycle preview cursor is stale")
      collectPage later none room
    else do
      let page ← failClosed validator.validatorId
        (validator.listBlockers operation reader.owners target innerCursor room)
      ensure (page.blockers.length ≤ room)
        (validationFailed "dependency validator exceeded requested page size")
      ensure (page.blockers ≠ []) (validationFailed "dependency validator count/list disagreement")
      ensure (page.continuation.isSome → room ≤ page.blockers.length)
        (validationFailed "dependency validator returned a short page with continuation")
      let items := page.blockers.map fun blocker =>
        PreviewBlocker.mk validator.validatorId blocker.blockerId blocker.reasonCode
      if page.continuation.isSome then
        return (items, some ⟨validator.validatorId, page.continuation⟩)
      else if page.blockers.length = room then
        return (items, (later.find? (0 < ·.2)).map fun next => ⟨next.1.validatorId, none⟩)
      else do
        let (more, continuation) ← collectPage later none (room - page.blockers.length)
        return (items ++ more, continuation)

/-- Where a page starts: `_decode_preview_cursor`, or the first validator. -/
def startPage (entries : List (ReferenceDependencyValidator Reader Cursor × Int)) :
    Option (PreviewCursor Cursor) →
      Except Raised (List (ReferenceDependencyValidator Reader Cursor × Int) × Option Cursor)
  | none => .ok (entries, none)
  | some cursor => do
    ensure (entries.countP (·.1.validatorId = cursor.validatorId) = 1)
      (validationError "reference lifecycle preview cursor is invalid")
    return (entries.dropWhile (·.1.validatorId ≠ cursor.validatorId), cursor.innerCursor)

def previewLifecycle (validators : List (ReferenceDependencyValidator Reader Cursor))
    (baseRevision : Int) (limit : Nat) (after : Option (PreviewCursor Cursor)) :
    Except Raised (LifecyclePreview Cursor) := do
  ensure (1 ≤ baseRevision)
    (validationError "reference preview base_revision must be a positive integer")
  ensure (1 ≤ limit ∧ limit ≤ 200)
    (referenceError "FIELD_BOUND_EXCEEDED" "preview limit must be in 1..200")
  requireTarget operation reader target baseRevision
  let entries ← countValidators operation reader target validators
  let (rest, innerCursor) ← startPage entries after
  let (blockers, continuation) ← collectPage operation reader target rest innerCursor limit
  let total := (entries.map (·.2)).sum
  return ⟨baseRevision, total, blockers, continuation, total = 0⟩

/-- `_guard` of the command. -/
def guardTarget (validators : List (ReferenceDependencyValidator Reader Cursor)) :
    Except Raised Unit :=
  guardLifecycle operation.lifecycle (validators.map fun validator =>
    ⟨validator.validatorId, validator.guard operation reader.owners target⟩)

/-- Following the continuations from a cursor until there is none shows these blockers. -/
inductive Previewed (page : Option (PreviewCursor Cursor) → Except Raised (LifecyclePreview Cursor)) :
    Option (PreviewCursor Cursor) → List PreviewBlocker → Prop
  | last {after : Option (PreviewCursor Cursor)} {result : LifecyclePreview Cursor} :
      page after = .ok result → result.continuation = none → Previewed page after result.blockers
  | more {after : Option (PreviewCursor Cursor)} {result : LifecyclePreview Cursor}
      {next : PreviewCursor Cursor} {rest : List PreviewBlocker} :
      page after = .ok result → result.continuation = some next → Previewed page (some next) rest →
      Previewed page after (result.blockers ++ rest)

/-! ## Validators that keep to one list -/

/-- A validator that counts, guards and lists the same blockers. `stands` says which
blockers are left at a cursor. -/
structure Faithful (Cursor : Type) where
  validator : ReferenceDependencyValidator Reader Cursor
  blockers : List DependencyBlocker
  stands : Option Cursor → List DependencyBlocker → Prop
  counted : validator.countBlockers operation reader.owners target = .ok blockers.length
  guarded : ∃ guard, validator.guard operation reader.owners target = .ok guard ∧
    (guard.state = .clear ↔ blockers = [])
  starts : stands none blockers
  listed : ∀ cursor rest limit, stands cursor rest → 1 ≤ limit → limit ≤ 200 →
    ∃ next, validator.listBlockers operation reader.owners target cursor limit =
        .ok ⟨rest.take limit, next⟩ ∧
      (rest.length ≤ limit → next = none) ∧
      (limit < rest.length → next.isSome ∧ stands next (rest.drop limit))

end Preview

section Pages

variable {Reader Cursor : Type} {operation : PreviewOperation} {reader : ReferenceReader Reader}
variable {target : ReferenceTarget} {baseRevision : Int} {limit : Nat}
variable {entry : Faithful operation reader target Cursor}
variable {registry : List (Faithful operation reader target Cursor)}
variable {innerCursor : Option Cursor} {rest : List PreviewBlocker}

def Faithful.item (entry : Faithful operation reader target Cursor) (blocker : DependencyBlocker) :
    PreviewBlocker :=
  ⟨entry.validator.validatorId, blocker.blockerId, blocker.reasonCode⟩

/-- The blockers of all validators, in the order of the registry. -/
def listing (registry : List (Faithful operation reader target Cursor)) : List PreviewBlocker :=
  registry.flatMap fun entry => entry.blockers.map entry.item

def counted (registry : List (Faithful operation reader target Cursor)) :
    List (ReferenceDependencyValidator Reader Cursor × Int) :=
  registry.map fun entry => (entry.validator, entry.blockers.length)

theorem countValidators_eq :
    countValidators operation reader target (registry.map (·.validator)) =
      .ok (counted registry) := by
  induction registry with
  | nil => rfl
  | cons entry registry ih =>
    rw [countValidators] at ih ⊢
    rw [List.map_cons, List.mapM_cons, entry.counted, ih]
    simp [failClosed, ensure, counted, bind, Except.bind, pure, Except.pure]

/-- What is left when the loop stands at a cursor of the first validator. -/
def Left : List (Faithful operation reader target Cursor) → Option Cursor →
    List PreviewBlocker → Prop
  | [], _, rest => rest = []
  | entry :: later, innerCursor, rest => ∃ own, entry.stands innerCursor own ∧
      own <:+ entry.blockers ∧ (own = [] → entry.blockers = [] ∧ innerCursor = none) ∧
      rest = own.map entry.item ++ listing later

theorem left_start : Left registry none (listing registry) := by
  cases registry with
  | nil => rfl
  | cons entry later =>
    exact ⟨_, entry.starts, List.suffix_rfl, fun empty => ⟨empty, rfl⟩, rfl⟩

/-- A cursor names the validator it stands at. -/
def StandsAt (registry : List (Faithful operation reader target Cursor))
    (cursor : PreviewCursor Cursor) (rest : List PreviewBlocker) : Prop :=
  ∃ before entry later, registry = before ++ entry :: later ∧
    cursor.validatorId = entry.validator.validatorId ∧
    Left (entry :: later) cursor.innerCursor rest

theorem StandsAt.append (stands : StandsAt registry cursor rest)
    (earlier : List (Faithful operation reader target Cursor)) :
    StandsAt (earlier ++ registry) cursor rest := by
  obtain ⟨before, entry, later, rfl, named, left⟩ := stands
  exact ⟨earlier ++ before, entry, later, (List.append_assoc ..).symm, named, left⟩

/-- After a full page the cursor goes to the next validator that counted a blocker. -/
theorem next_validator : let next := ((counted registry).find? (0 < ·.2)).map fun next =>
      (⟨next.1.validatorId, none⟩ : PreviewCursor Cursor)
    (listing registry = [] → next = none) ∧
      (listing registry ≠ [] → ∃ cursor, next = some cursor ∧
        StandsAt registry cursor (listing registry)) := by
  induction registry with
  | nil => exact ⟨fun _ => rfl, fun inhabited => absurd rfl inhabited⟩
  | cons entry later ih =>
    by_cases empty : entry.blockers = []
    · have same : listing (entry :: later) = listing later := by
        rw [listing, List.flatMap_cons, empty]
        rfl
      have skipped : (counted (entry :: later)).find? (0 < ·.2) =
          (counted later).find? (0 < ·.2) := by
        rw [counted, List.map_cons, List.find?_cons_of_neg (by simp [empty])]
        rfl
      simp only [same, skipped]
      refine ⟨ih.1, fun inhabited => ?_⟩
      obtain ⟨cursor, found, stands⟩ := ih.2 inhabited
      exact ⟨cursor, found, stands.append [entry]⟩
    · have some : 0 < entry.blockers.length := List.length_pos_iff.mpr empty
      have found : (counted (entry :: later)).find? (0 < ·.2) =
          .some (entry.validator, (entry.blockers.length : Int)) := by
        rw [counted, List.map_cons, List.find?_cons_of_pos (by simpa using some)]
      simp only [found, Option.map_some]
      refine ⟨fun none => ?_, fun _ => ⟨_, rfl, [], entry, later, rfl, rfl, left_start⟩⟩
      rw [listing, List.flatMap_cons, List.append_eq_nil_iff, List.map_eq_nil_iff] at none
      exact absurd none.1 empty

/-- The loop takes what is left as far as there is room. -/
theorem collectPage_left (left : Left registry innerCursor rest) (low : 1 ≤ room)
    (high : room ≤ 200) : ∃ continuation,
      collectPage operation reader target (counted registry) innerCursor room =
        .ok (rest.take room, continuation) ∧
      (rest.length ≤ room → continuation = none) ∧
      (room < rest.length → ∃ cursor, continuation = some cursor ∧
        StandsAt registry cursor (rest.drop room)) := by
  induction registry generalizing innerCursor rest room with
  | nil =>
    obtain rfl : rest = [] := left
    exact ⟨none, by simp [counted, collectPage], fun _ => rfl, fun longer => by simp at longer⟩
  | cons entry later ih =>
    obtain ⟨own, stands, suffix, started, rfl⟩ := left
    rw [counted, List.map_cons, ← counted, collectPage]
    by_cases empty : entry.blockers = []
    · obtain rfl : own = [] := List.suffix_nil.mp (empty ▸ suffix)
      obtain ⟨-, rfl⟩ := started rfl
      obtain ⟨continuation, page, ended, went⟩ := ih left_start low high
      refine ⟨continuation, ?_, ended, fun longer => ?_⟩
      · simpa [empty, ensure, bind, Except.bind] using page
      · obtain ⟨cursor, same, stands⟩ := went longer
        exact ⟨cursor, same, stands.append [entry]⟩
    · have inhabited : own ≠ [] := fun none => empty (started none).1
      have positive : 0 < own.length := List.length_pos_iff.mpr inhabited
      obtain ⟨next, listed, ended, went⟩ := entry.listed innerCursor own room stands low high
      rw [if_neg (by simpa using empty), listed]
      by_cases fits : own.length ≤ room
      · obtain rfl := ended fits
        rw [List.take_of_length_le fits]
        by_cases full : own.length = room
        · obtain ⟨stops, goes⟩ := @next_validator _ _ _ _ _ later
          refine ⟨((counted later).find? (0 < ·.2)).map fun next => ⟨next.1.validatorId, none⟩, ?_,
            fun shorter => stops ?_, fun longer => ?_⟩
          · subst full
            simp [failClosed, ensure, bind, Except.bind, pure, Except.pure, inhabited]
            exact fun _ _ => rfl
          · rw [List.length_append, List.length_map] at shorter
            exact List.length_eq_zero_iff.mp (by omega)
          · rw [List.length_append, List.length_map] at longer
            obtain ⟨cursor, same, stands⟩ := goes (List.length_pos_iff.mp (by omega))
            refine ⟨cursor, same, ?_⟩
            rw [List.drop_left' (by rw [List.length_map, full])]
            exact stands.append [entry]
        · obtain ⟨continuation, page, stops, goes⟩ := ih left_start
            (show 1 ≤ room - own.length by omega) (by omega)
          rw [List.length_append, List.length_map]
          refine ⟨continuation, ?_, fun shorter => stops (by omega), fun longer => ?_⟩
          · simp [failClosed, ensure, bind, Except.bind, pure, Except.pure, full, inhabited, fits,
              page, List.take_append]
            exact (List.take_of_length_le (by simpa using fits)).symm
          · obtain ⟨cursor, same, stands⟩ := goes (by omega)
            refine ⟨cursor, same, ?_⟩
            rw [List.drop_append, List.drop_of_length_le (by simpa using fits), List.nil_append,
              List.length_map]
            exact stands.append [entry]
      · obtain ⟨continues, stands⟩ := went (by omega)
        have within : room ≤ own.length ∧ room ≠ 0 := by omega
        rw [List.length_append, List.length_map]
        refine ⟨some ⟨entry.validator.validatorId, next⟩, ?_, by omega, fun _ => ?_⟩
        · simp [failClosed, ensure, bind, Except.bind, pure, Except.pure, continues, inhabited,
            within, List.take_append]
          rfl
        · refine ⟨_, rfl, [], entry, later, rfl, rfl, own.drop room, stands,
            (List.drop_suffix room own).trans suffix, fun none => ?_, ?_⟩
          · rw [List.drop_eq_nil_iff] at none
            exact absurd none fits
          · rw [List.drop_append_of_le_length (by rw [List.length_map]; omega), List.map_drop]

theorem startPage_stands (ids : (registry.map (·.validator.validatorId)).Nodup)
    (stands : StandsAt registry cursor rest) : ∃ before later,
      registry = before ++ later ∧
      startPage (counted registry) (some cursor) = .ok (counted later, cursor.innerCursor) ∧
      Left later cursor.innerCursor rest := by
  obtain ⟨before, entry, later, rfl, named, left⟩ := stands
  refine ⟨before, entry :: later, rfl, ?_, left⟩
  have one : (counted (before ++ entry :: later)).countP
      (·.1.validatorId = cursor.validatorId) = 1 := by
    have once := List.count_eq_one_of_mem ids (a := cursor.validatorId) (by simp [named])
    rw [List.count, List.countP_map] at once
    rw [counted, List.countP_map, ← once]
    congr 1
  rw [List.map_append, List.nodup_append] at ids
  have passed : (counted (before ++ entry :: later)).dropWhile
      (·.1.validatorId ≠ cursor.validatorId) = counted (entry :: later) := by
    rw [counted, List.map_append, List.dropWhile_append_of_pos, List.map_cons,
      List.dropWhile_cons_of_neg (by simp [named]), counted, List.map_cons]
    intro current inside
    obtain ⟨_, listed, rfl⟩ := List.mem_map.mp inside
    have apart := ids.2.2 _ (List.mem_map_of_mem listed) entry.validator.validatorId (by simp)
    simpa [named] using apart
  simp only [startPage, one, passed, ensure, bind, Except.bind, if_pos, pure, Except.pure]

theorem total_eq : ((counted registry).map (·.2)).sum = ((listing registry).length : Int) := by
  induction registry with
  | nil => rfl
  | cons entry registry ih =>
    rw [counted] at ih ⊢
    rw [List.map_cons, List.map_cons, List.sum_cons, ih, listing, listing, List.flatMap_cons,
      List.length_append, List.length_map]
    omega

theorem guardTarget_iff : guardTarget operation reader target (registry.map (·.validator)) =
    .ok () ↔ listing registry = [] := by
  induction registry with
  | nil => exact iff_of_true rfl rfl
  | cons entry registry ih =>
    obtain ⟨⟨state, _⟩, answer, clear⟩ := entry.guarded
    rw [guardTarget] at ih ⊢
    rw [List.map_cons, List.map_cons, guardLifecycle, guardOutcome, answer, listing,
      List.flatMap_cons, List.append_eq_nil_iff, List.map_eq_nil_iff, ← clear]
    cases state with
    | clear => exact ih.trans (by simp [listing])
    | blocked => simp [bind, Except.bind]
    | indeterminate => simp [bind, Except.bind]

/-- What is left where a page starts. -/
def Position (registry : List (Faithful operation reader target Cursor))
    (rest : List PreviewBlocker) : Option (PreviewCursor Cursor) → Prop
  | none => rest = listing registry
  | some cursor => StandsAt registry cursor rest

section Walk

variable (ids : (registry.map (·.validator.validatorId)).Nodup) (positive : 1 ≤ baseRevision)
  (low : 1 ≤ limit) (high : limit ≤ 200)
  (loaded : requireTarget operation reader target baseRevision = .ok ())

include ids positive low high loaded

theorem previewLifecycle_page (position : Position registry rest after) : ∃ result,
      previewLifecycle operation reader target (registry.map (·.validator)) baseRevision limit
        after = .ok result ∧ result.blockers = rest.take limit ∧
      (rest.length ≤ limit → result.continuation = none) ∧
      (limit < rest.length → ∃ cursor, result.continuation = some cursor ∧
        Position registry (rest.drop limit) (some cursor)) := by
  obtain ⟨before, later, same, started, left⟩ : ∃ before later, registry = before ++ later ∧
      startPage (counted registry) after = .ok (counted later, after.bind (·.innerCursor)) ∧
      Left later (after.bind (·.innerCursor)) rest := by
    cases after with
    | none =>
      obtain rfl : rest = listing registry := position
      exact ⟨[], registry, rfl, rfl, left_start⟩
    | some cursor => exact startPage_stands ids position
  obtain ⟨continuation, page, ended, went⟩ := collectPage_left left low high
  refine ⟨⟨baseRevision, ((counted registry).map (·.2)).sum, rest.take limit, continuation,
    decide (((counted registry).map (·.2)).sum = 0)⟩, ?_, rfl, ended, fun longer => ?_⟩
  · simp only [previewLifecycle, except_ok]
    exact ⟨positive, ⟨low, high⟩, loaded, _, countValidators_eq, _, started, _, page, rfl⟩
  · obtain ⟨cursor, continues, stands⟩ := went longer
    exact ⟨cursor, continues, same ▸ stands.append before⟩

theorem previewed_rest (position : Position registry rest after) :
    Previewed (previewLifecycle operation reader target (registry.map (·.validator)) baseRevision
      limit) after rest := by
  induction length : rest.length using Nat.strong_induction_on generalizing rest after with
  | h size ih =>
    obtain ⟨_, page, blockers, ended, went⟩ :=
      previewLifecycle_page ids positive low high loaded position
    by_cases more : limit < rest.length
    · obtain ⟨_, continues, next⟩ := went more
      have walked := Previewed.more page continues
        (ih (rest.drop limit).length (by rw [List.length_drop]; omega) next rfl)
      rwa [blockers, List.take_append_drop] at walked
    · have walked := Previewed.last page (ended (by omega))
      rwa [blockers, List.take_of_length_le (by omega)] at walked

end Walk

/-- Every page reports the number of blockers, and the target as eligible exactly where the
guard passes. -/
theorem preview_reports
    (ran : previewLifecycle operation reader target (registry.map (·.validator)) baseRevision
      limit after = .ok result) :
    result.exactBlockerCount = (listing registry).length ∧ (result.wouldBeEligible = true ↔
      guardTarget operation reader target (registry.map (·.validator)) = .ok ()) := by
  simp only [previewLifecycle, except_ok, countValidators_eq] at ran
  obtain ⟨-, -, -, _, entries, _, -, _, -, made⟩ := ran
  cases entries
  cases made
  rw [guardTarget_iff]
  simp [total_eq]

end Pages

end Soma.Reference
