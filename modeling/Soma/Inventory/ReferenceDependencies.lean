import Soma.Inventory.Records
import Soma.Reference.LifecyclePreview
import Soma.Theory.KeysetPages

/-!
`InventoryReferenceDependencyValidator` of `inventory/services/participants.py`: the Spare
Requests and Fault Tags that still need a reference.  Its guard probes the sources one by one,
its pages read their union by id and reason; both see the same blockers.
-/

namespace Soma.Inventory

open Foundation Keyset Reference

/-- `_source_queries`: what a source gives as the reason, and the owners it finds. The key of a
projection is its owner, so that a JOIN meets one row. -/
def sourceQueries (rows : InventoryRows) (target : ReferenceTarget) : List (String × List String) :=
  let requestState := fun spareRequestId =>
    (rows.requests.projections.find? (·.spareRequestId = spareRequestId)).map (·.lifecycleState)
  let tagState := fun faultTagId =>
    (rows.tags.projections.find? (·.faultTagId = faultTagId)).map (·.state)
  match target.targetType with
  | .contact =>
    [("active_spare_request_requester", (rows.requests.requests.filter fun row =>
        row.requesterContactId = target.targetId ∧
          (requestState row.spareRequestId).any (!·.isTerminal)).map (·.spareRequestId)),
      ("active_spare_request_receiver", (rows.requests.logistics.filter fun row =>
        row.receiverContactId = target.targetId ∧
          requestState row.spareRequestId = some .draft).map (·.spareRequestId)),
      ("active_fault_tag_pickup_contact", (rows.tags.tags.filter fun row =>
        row.plan.pickupContactId = some target.targetId ∧
          tagState row.faultTagId = some .draft).map (·.faultTagId))]
  | .dispatchLocation =>
    [("active_spare_request_dispatch_location", (rows.requests.logistics.filter fun row =>
        row.dispatchLocationId = target.targetId ∧
          requestState row.spareRequestId = some .draft).map (·.spareRequestId)),
      ("active_fault_tag_pickup_origin", (rows.tags.tags.filter fun row =>
        row.plan.pickupDispatchLocationId = some target.targetId ∧
          tagState row.faultTagId = some .draft).map (·.faultTagId))]
  | .customerOrganization => []

/-- `_source_query`: the UNION ALL of the sources. -/
def dependencyBlockers (rows : InventoryRows) (target : ReferenceTarget) : List DependencyBlocker :=
  (sourceQueries rows target).flatMap fun (reasonCode, owners) => owners.map (⟨·, reasonCode⟩)

/-- The payload of an Inventory dependency cursor. -/
structure InventoryCursor where
  target : ReferenceTarget
  blockerId : String
  reasonCode : String

section Validator

variable (rows : InventoryRows) (target : ReferenceTarget)

def firstBlocker : Option DependencyBlocker :=
  (sourceQueries rows target).findSome? fun (reasonCode, owners) =>
    owners.head?.map (⟨·, reasonCode⟩)

def blockerKey (blocker : DependencyBlocker) : Lex (String × String) :=
  toLex (blocker.blockerId, blocker.reasonCode)

def encodeDependencyCursor (key : Lex (String × String)) : InventoryCursor :=
  ⟨target, (ofLex key).1, (ofLex key).2⟩

def decodeDependencyCursor (cursor : InventoryCursor) : Except Raised (Lex (String × String)) := do
  ensure (cursor.target = target ∧ cursor.blockerId ≠ "" ∧ cursor.reasonCode ≠ "")
    (validationError "Inventory dependency cursor is invalid")
  return toLex (cursor.blockerId, cursor.reasonCode)

def requirePageLimit (limit : Nat) : Except Raised Unit :=
  ensure (1 ≤ limit ∧ limit ≤ 200)
    (validationError "Inventory dependency page limit must be in 1..200")

def pageBlockers (cursor : Option InventoryCursor) (limit : Nat) :
    Except Raised (DependencyPage InventoryCursor) := do
  requirePageLimit limit
  let after ← cursor.mapM (decodeDependencyCursor target)
  let page := page blockerKey (dependencyBlockers rows target) limit after
  return ⟨page.items, page.continuation.map (encodeDependencyCursor target)⟩

def inventoryValidator : ReferenceDependencyValidator InventoryRows InventoryCursor where
  validatorId := "inventory"
  guard
    | .archive, rows, target => .ok <|
      match firstBlocker rows target with
      | some blocker => ⟨.blocked, some blocker.reasonCode⟩
      | none => ⟨.clear, none⟩
    | .reactivate, _, _ => .ok ⟨.clear, none⟩
  countBlockers
    | .archive, rows, target => .ok (dependencyBlockers rows target).length
    | .reactivate, _, _ => .ok 0
  listBlockers
    | .archive, rows, target, cursor, limit => pageBlockers rows target cursor limit
    | .reactivate, _, _, cursor, limit => do
      requirePageLimit limit
      ensure cursor.isNone (validationError "Inventory reactivation blocker cursor is invalid")
      return ⟨[], none⟩

end Validator

/-- Ids that no two rows share, none of them empty. -/
def Own (ids : List String) : Prop := ids.Nodup ∧ "" ∉ ids

/-- What `0010_inventory.sql` and the commands keep of the keys of the owners. -/
structure InventoryRows.Keyed (rows : InventoryRows) : Prop where
  requests : Own (rows.requests.requests.map (·.spareRequestId))
  logistics : Own (rows.requests.logistics.map (·.spareRequestId))
  tags : Own (rows.tags.tags.map (·.faultTagId))

section Blockers

variable {rows : InventoryRows} {target : ReferenceTarget} {reader : ReferenceReader InventoryRows}

theorem Own.filter {Row : Type} {rows : List Row} {key : Row → String} (own : Own (rows.map key))
    (selected : Row → Bool) : Own ((rows.filter selected).map key) := by
  have within := (List.filter_sublist (p := selected) (l := rows)).map key
  exact ⟨own.1.sublist within, fun empty => own.2 (within.subset empty)⟩

/-- The reasons of two sources differ, and a source finds an owner once. -/
theorem sourceQueries_own (keyed : rows.Keyed) :
    Own ((sourceQueries rows target).map (·.1)) ∧
      ∀ source ∈ sourceQueries rows target, Own source.2 := by
  rw [sourceQueries]
  cases target.targetType with
  | customerOrganization => simp [Own]
  | contact =>
    simp only [List.forall_mem_cons]
    exact ⟨⟨by simp, by simp⟩, keyed.requests.filter _, keyed.logistics.filter _,
      keyed.tags.filter _, by simp⟩
  | dispatchLocation =>
    simp only [List.forall_mem_cons]
    exact ⟨⟨by simp, by simp⟩, keyed.logistics.filter _, keyed.tags.filter _, by simp⟩

theorem mem_dependencyBlockers :
    blocker ∈ dependencyBlockers rows target ↔
      ∃ source ∈ sourceQueries rows target, blocker.reasonCode = source.1 ∧
        blocker.blockerId ∈ source.2 := by
  simp only [dependencyBlockers, List.mem_flatMap, List.mem_map]
  constructor
  · rintro ⟨source, listed, _, found, rfl⟩
    exact ⟨source, listed, rfl, found⟩
  · rintro ⟨source, listed, reason, found⟩
    exact ⟨source, listed, blocker.blockerId, found, by rw [← reason]⟩

theorem dependencyBlockers_nodup (keyed : rows.Keyed) : (dependencyBlockers rows target).Nodup := by
  obtain ⟨⟨apart, -⟩, own⟩ := sourceQueries_own keyed
  rw [List.Nodup, List.pairwise_map] at apart
  refine List.nodup_flatMap.mpr ⟨fun source listed => ?_, apart.imp ?_⟩
  · exact (own source listed).1.map fun _ _ same => congrArg DependencyBlocker.blockerId same
  · intro source other differ blocker inside again
    obtain ⟨_, -, rfl⟩ := List.mem_map.mp inside
    obtain ⟨_, -, same⟩ := List.mem_map.mp again
    exact differ (congrArg DependencyBlocker.reasonCode same).symm

theorem dependencyBlockers_named (keyed : rows.Keyed)
    (inside : blocker ∈ dependencyBlockers rows target) :
    blocker.blockerId ≠ "" ∧ blocker.reasonCode ≠ "" := by
  obtain ⟨⟨-, named⟩, own⟩ := sourceQueries_own keyed
  obtain ⟨source, listed, reason, found⟩ := mem_dependencyBlockers.mp inside
  exact ⟨fun empty => (own source listed).2 (empty ▸ found),
    fun empty => named (empty ▸ reason ▸ List.mem_map_of_mem listed)⟩

theorem blockerKey_injective : Function.Injective blockerKey := by
  rintro ⟨_, _⟩ ⟨_, _⟩ same
  obtain ⟨rfl, rfl⟩ := Prod.mk.injEq .. ▸ toLex.injective same
  rfl

/-- The probe of the guard finds a blocker where the union has one. -/
theorem firstBlocker_eq_none :
    firstBlocker rows target = none ↔ dependencyBlockers rows target = [] := by
  rw [firstBlocker, dependencyBlockers, List.findSome?_eq_none_iff, List.flatMap_eq_nil_iff]
  refine forall₂_congr fun source _ => ?_
  rw [Option.map_eq_none_iff, List.head?_eq_none_iff, List.map_eq_nil_iff]

/-- Where a page resumes: after the last blocker shown. -/
def Resumes (rows : InventoryRows) (target : ReferenceTarget) (cursor : Option InventoryCursor)
    (rest : List DependencyBlocker) : Prop :=
  ∃ before, inOrder blockerKey (dependencyBlockers rows target) = before ++ rest ∧
    cursor = before.getLast?.map fun blocker => encodeDependencyCursor target (blockerKey blocker)

theorem pageBlockers_resumes (keyed : rows.Keyed) (resumes : Resumes rows target cursor rest)
    (low : 1 ≤ limit) (high : limit ≤ 200) : ∃ next,
      pageBlockers rows target cursor limit = .ok ⟨rest.take limit, next⟩ ∧
      (rest.length ≤ limit → next = none) ∧
      (limit < rest.length → next.isSome ∧ Resumes rows target next (rest.drop limit)) := by
  obtain ⟨before, split, rfl⟩ := resumes
  have decoded : (before.getLast?.map fun blocker =>
      encodeDependencyCursor target (blockerKey blocker)).mapM (decodeDependencyCursor target) =
        .ok (before.getLast?.map blockerKey) := by
    cases last : before.getLast? with
    | none => rfl
    | some blocker =>
      have inside : blocker ∈ inOrder blockerKey (dependencyBlockers rows target) := by
        rw [split]
        exact List.mem_append_left rest (List.mem_of_getLast? last)
      have named := dependencyBlockers_named keyed (inOrder_perm.mem_iff.mp inside)
      simp [decodeDependencyCursor, encodeDependencyCursor, blockerKey, named, ensure, bind,
        Except.bind, pure, Except.pure]
  have apart : ((dependencyBlockers rows target).map blockerKey).Nodup :=
    (dependencyBlockers_nodup keyed).map blockerKey_injective
  have left := rowsAfter_split (inOrder_increasing apart) split
  refine ⟨(page blockerKey (dependencyBlockers rows target) limit
    (before.getLast?.map blockerKey)).continuation.map (encodeDependencyCursor target), ?_,
    fun shorter => ?_, fun longer => ?_⟩
  · rw [pageBlockers, requirePageLimit, ensure, if_pos ⟨low, high⟩, decoded, ← left, ← page_items]
    rfl
  · rw [page_continuation, left, if_neg (by omega)]
    rfl
  · rw [page_continuation, left, if_pos longer]
    have taken : rest.take limit ≠ [] := by
      rw [Ne, List.take_eq_nil_iff, ← List.length_eq_zero_iff]
      omega
    refine ⟨by simp [List.getLast?_eq_some_getLast taken], before ++ rest.take limit, ?_, ?_⟩
    · rw [split, List.append_assoc, List.take_append_drop]
    · rw [List.getLast?_append, List.getLast?_eq_some_getLast taken]
      rfl

def archiveBlockers (keyed : reader.owners.Keyed) :
    Faithful .archive reader target InventoryCursor where
  validator := inventoryValidator
  blockers := inOrder blockerKey (dependencyBlockers reader.owners target)
  stands := Resumes reader.owners target
  counted := by
    rw [inOrder_perm.length_eq]
    rfl
  guarded := by
    have probed := @firstBlocker_eq_none reader.owners target
    refine ⟨_, rfl, ?_⟩
    rw [← List.length_eq_zero_iff, inOrder_perm.length_eq, List.length_eq_zero_iff, ← probed]
    cases firstBlocker reader.owners target with
    | none => simp
    | some blocker => simp
  starts := ⟨[], rfl, rfl⟩
  listed _ _ _ := pageBlockers_resumes keyed

def reactivationBlockers : Faithful .reactivate reader target InventoryCursor where
  validator := inventoryValidator
  blockers := []
  stands cursor rest := cursor = none ∧ rest = []
  counted := rfl
  guarded := ⟨_, rfl, iff_of_true rfl rfl⟩
  starts := ⟨rfl, rfl⟩
  listed := by
    rintro _ _ limit ⟨rfl, rfl⟩ low high
    refine ⟨none, ?_, fun _ => rfl, fun longer => absurd longer (Nat.not_lt_zero limit)⟩
    simp [inventoryValidator, requirePageLimit, ensure, low, high, bind, Except.bind, pure,
      Except.pure]

end Blockers

/-- The pages of a preview show the blockers of every validator once, each reports their
number, and a target is eligible exactly where the guard of the command passes. The Inventory
validator keeps to one list: for an archive the rows of its sources, each once. -/
theorem lifecycle_preview_agrees_with_guard {Cursor : Type} {operation : PreviewOperation}
    {reader : ReferenceReader InventoryRows} {target : ReferenceTarget} {baseRevision : Int}
    {limit : Nat} (keyed : reader.owners.Keyed) (positive : 1 ≤ baseRevision) (low : 1 ≤ limit)
    (high : limit ≤ 200) (loaded : requireTarget operation reader target baseRevision = .ok ()) :
    (∀ registry : List (Faithful operation reader target Cursor),
      (registry.map (·.validator.validatorId)).Nodup →
      Previewed (previewLifecycle operation reader target (registry.map (·.validator)) baseRevision
        limit) none (listing registry) ∧
      ∀ after result, previewLifecycle operation reader target (registry.map (·.validator))
          baseRevision limit after = .ok result →
        result.exactBlockerCount = (listing registry).length ∧ (result.wouldBeEligible = true ↔
          guardTarget operation reader target (registry.map (·.validator)) = .ok ())) ∧
    ∃ inventory : Faithful operation reader target InventoryCursor,
      inventory.validator = inventoryValidator ∧ inventory.blockers.Nodup ∧
      ∀ blocker, blocker ∈ inventory.blockers ↔
        operation = .archive ∧ blocker ∈ dependencyBlockers reader.owners target := by
  refine ⟨fun registry ids => ⟨previewed_rest ids positive low high loaded rfl,
    fun after result => preview_reports⟩, ?_⟩
  cases operation with
  | archive =>
    refine ⟨archiveBlockers keyed, rfl, inOrder_perm.nodup_iff.mpr (dependencyBlockers_nodup keyed),
      fun blocker => ?_⟩
    rw [archiveBlockers, inOrder_perm.mem_iff]
    exact (and_iff_right rfl).symm
  | reactivate => exact ⟨reactivationBlockers, rfl, List.nodup_nil, by simp [reactivationBlockers]⟩

/-- A contact that two draft requests name as their requester. -/
def requesterReader : ReferenceReader InventoryRows where
  customerOrganizations := []
  contacts := [⟨"contact", .active, 1⟩]
  dispatchLocations := []
  owners :=
    { requests := ⟨none, [⟨"first", 1, "SQ-00000001", "ticket", "contact", .null, .somaDraft⟩,
          ⟨"second", 2, "SQ-00000002", "ticket", "contact", .null, .somaDraft⟩],
        [], [], [], [], [], [], [⟨"first", .draft, none, none, 0, 0, none, 1, ""⟩,
          ⟨"second", .draft, none, none, 0, 0, none, 1, ""⟩], []⟩
      rmas := ⟨[], [], [], [], []⟩
      units := ⟨none, [], [], [], [], []⟩
      consequences := ⟨[], []⟩
      tags := ⟨none, [], [], [], [], [], [], [], [], []⟩
      attention := [] }

theorem requesterReader_keyed : requesterReader.owners.Keyed := by
  constructor <;> simp [Own, requesterReader]

/-- One blocker to a page, both pages show two, and the contact may not be archived. -/
theorem requester_preview_agrees :
    Previewed (previewLifecycle .archive requesterReader ⟨.contact, "contact"⟩ [inventoryValidator]
      1 1) none [⟨"inventory", "first", "active_spare_request_requester"⟩,
        ⟨"inventory", "second", "active_spare_request_requester"⟩] ∧
    ∀ after result, previewLifecycle .archive requesterReader ⟨.contact, "contact"⟩
        [inventoryValidator] 1 1 after = .ok result →
      result.exactBlockerCount = 2 ∧ result.wouldBeEligible = false := by
  let registry : List (Faithful .archive requesterReader ⟨.contact, "contact"⟩ InventoryCursor) :=
    [archiveBlockers requesterReader_keyed]
  have account := (lifecycle_preview_agrees_with_guard requesterReader_keyed (by decide) (le_refl 1)
    (by decide) (by decide : requireTarget .archive requesterReader ⟨.contact, "contact"⟩ 1 =
      .ok ())).1 registry (by simp [registry])
  have blockers : listing registry =
      [⟨"inventory", "first", "active_spare_request_requester"⟩,
        ⟨"inventory", "second", "active_spare_request_requester"⟩] := rfl
  have guarded : guardTarget .archive requesterReader ⟨.contact, "contact"⟩ [inventoryValidator] ≠
      .ok () := by decide +kernel
  rw [blockers] at account
  refine ⟨account.1, fun after result ran => ?_⟩
  obtain ⟨count, eligible⟩ := account.2 after result ran
  exact ⟨count, Bool.eq_false_iff.mpr fun would => guarded (eligible.mp would)⟩

end Soma.Inventory
