import Soma.Inventory.RequestRuns
import Soma.Inventory.Reservations
import Soma.Inventory.UnitCommands

/-!
Reservations of Spare Part Units over whole runs. Every command on units keeps
`Reserved` and never finds the two tables of reservations in disagreement: one
lemma for each repository function and each command, over the rules of `Yields`.
`reservations_agree` is what follows for every reachable state.
-/

namespace Soma.Inventory

open Foundation Transaction Execution Rows Soma.Pairing

/-! ## Reservations -/

section Operations

variable {rows : InventoryRows} {call : InventoryCall}

/-- The tables of units after an operation. -/
abbrev Operates (rows : InventoryRows) (outcome : Except Raised InventoryRows) : Prop :=
  Yields (fun after => Continues rows.units after.units) IsDisagreement outcome

theorem requireTaskRevision_fine (taskId : String) (expectedRevision : Nat) :
    Fine (requireTaskRevision call taskId expectedRevision) := by
  unfold requireTaskRevision
  split
  · exact invStale_fine _
  · exact fine_ensure (invStale_fine _)

theorem requireActiveNeed_fine (spareNeedId : String) (expectedRevision : Option Nat) :
    Fine (requireActiveNeed call spareNeedId expectedRevision) := by
  unfold requireActiveNeed
  split
  · exact invStale_fine _
  · refine (fine_ensure (invStale_fine _)).bind fun _ _ => ?_
    exact (fine_ensure (inventoryError_fine _ _)).bind fun _ _ => trivial

theorem requireMatchingBom_fine (need : NeedReference) (unit : SparePartUnit) :
    Fine (requireMatchingBom need unit) :=
  fine_ensure (inventoryError_fine _ _)

theorem requireNeedForUnit_fine (taskId : String) (unit : SparePartUnit)
    (spareNeedId : Option String) : Fine (requireNeedForUnit call taskId unit spareNeedId) := by
  unfold requireNeedForUnit
  split
  · exact trivial
  · refine (requireActiveNeed_fine _ _).bind fun _ _ => ?_
    refine (requireMatchingBom_fine _ _).bind fun _ _ => ?_
    exact fine_ensure (inventoryError_fine _ _)

theorem requireStockEligible_fine (sparePartUnitId : String) :
    Fine (rows.requireStockEligible sparePartUnitId) :=
  fine_ensure (inventoryError_fine _ _)

theorem requireUnitAt_fine (tables : UnitTables) (sparePartUnitId : String)
    (expectedRevision : Nat) : Fine (tables.requireUnitAt sparePartUnitId expectedRevision) := by
  unfold UnitTables.requireUnitAt
  split
  · exact invStale_fine _
  · exact (fine_ensure (invStale_fine _)).bind fun _ _ => trivial

theorem reserveForTask_operates (reserved : Reserved rows.units) (allocationId eventId : String)
    (intent : ReservationIntent) :
    Operates rows (reserveForTask call allocationId eventId intent rows) := by
  refine (requireTaskRevision_fine _ _).bind fun _ _ => ?_
  refine (requireUnitAt_fine _ _ _).bind fun _ _ => ?_
  refine (fine_ensure (inventoryError_fine _ _)).bind fun _ _ => ?_
  refine (requireStockEligible_fine _).bind fun _ _ => ?_
  refine (requireNeedForUnit_fine _ _ _).bind fun _ _ => ?_
  exact (writeReservation_yields reserved _ _ _ _).bind fun _ continues => continues

theorem requireAgreement_fine (reserved : Reserved tables)
    (found : tables.allocation? allocationId = some current) (missing disagrees : String) :
    Fine (tables.requireAgreement allocationId current missing disagrees) := by
  obtain ⟨inside, named⟩ := key_of_find? found
  obtain ⟨projection, there, unit, names⟩ := reserved.holder inside
  obtain ⟨_, detail⟩ := reserved.currentUnit there
  rw [unit] at detail
  have agree : ensure (projection.activeTaskAllocationId = some allocationId)
      (integrityFailure disagrees) = .ok () := ensure_ok.mpr (named ▸ names)
  simp only [UnitTables.requireAgreement, detail, agree]
  exact trivial

theorem releaseReservation_operates (reserved : Reserved rows.units) (now : Int)
    (eventId allocationId : String) (expectedAllocationRevision : Nat) :
    Yields (fun after => Continues rows.units after.units ∧
        ∀ current, rows.units.allocation? allocationId = some current →
          heldIn after.units.projections current.sparePartUnitId = none) IsDisagreement
      (releaseReservation now eventId allocationId expectedAllocationRevision rows) := by
  unfold releaseReservation
  split
  · exact inventoryError_fine _ _
  · next current found =>
    refine (fine_ensure (invStale_fine _)).bind fun _ _ => ?_
    refine (fine_ensure (inventoryError_fine _ _)).bind fun _ _ => ?_
    refine (requireAgreement_fine reserved found _ _).bind fun _ _ => ?_
    refine (writeRelease_yields reserved _ _ _ _ _).bind fun units ⟨continues, cleared⟩ => ?_
    exact ⟨continues, fun other same => Option.some.inj (found.symm.trans same) ▸ cleared⟩

theorem reassignTaskAllocation_operates (reserved : Reserved rows.units)
    (eventId allocationId predecessorTaskId newTaskId : String)
    (expectedAllocationRevision : Nat) :
    Operates rows (reassignTaskAllocation call eventId allocationId predecessorTaskId newTaskId
      expectedAllocationRevision rows) := by
  unfold reassignTaskAllocation
  split
  · exact invStale_fine _
  · next current found =>
    refine (fine_ensure (invStale_fine _)).bind fun _ _ => ?_
    refine (fine_ensure (invStale_fine _)).bind fun _ _ => ?_
    refine (fine_ensure (inventoryError_fine _ _)).bind fun _ _ => ?_
    refine (requireAgreement_fine reserved found _ _).bind fun _ _ => ?_
    exact (writeReassignment_yields reserved _ _ _ _).bind fun _ continues => continues

/-! ## Consequences -/

theorem requireSpareUnit_yields (tables : UnitTables) (sparePartUnitId : String) :
    Yields (fun projection => tables.projection? sparePartUnitId = some projection)
      IsDisagreement (requireSpareUnit tables sparePartUnitId) := by
  unfold requireSpareUnit
  split
  · next projection found => exact found
  · exact selectionInvalid_fine _

theorem releaseForConsequence_operates (reserved : Reserved rows.units) (now : Int)
    (eventId taskId : String) (inside : projection ∈ rows.units.projections) :
    Yields (fun after => Continues rows.units after.units ∧
        heldIn after.units.projections projection.sparePartUnitId = none) IsDisagreement
      (releaseForConsequence now eventId taskId projection.activeTaskAllocationId rows) := by
  cases holds : projection.activeTaskAllocationId with
  | none =>
    refine ⟨Continues.same reserved, ?_⟩
    rw [heldIn_of_mem reserved.keyedProjections inside, holds]
  | some allocationId =>
    obtain ⟨allocation, found, unit⟩ := reserved.granted inside holds
    unfold releaseForConsequence
    simp only [found]
    refine (fine_ensure (selectionInvalid_fine _)).bind fun _ _ => ?_
    refine (releaseReservation_operates reserved _ _ _ _).mono ?_
    rintro after ⟨continues, cleared⟩
    exact ⟨continues, unit ▸ cleared allocation found⟩

theorem markSpareDisposition_operates (reserved : Reserved rows.units) (now : Int)
    (eventId sparePartUnitId taskId : String) (spent : disposition ≠ .reserved) :
    Operates rows
      (markSpareDisposition now eventId sparePartUnitId disposition taskId rows) := by
  refine (requireSpareUnit_yields _ _).bind fun unit found => ?_
  obtain ⟨inside, named⟩ := key_of_find? found
  refine (releaseForConsequence_operates reserved _ _ _ inside).bind ?_
  rintro middle ⟨continues, cleared⟩
  refine (requireSpareUnit_yields _ _).bind fun again _ => ?_
  refine (yields_updateOne (invStale_fine _)).bind ?_
  rintro projections ⟨old, selected, replaced⟩
  obtain ⟨same, -⟩ := of_decide_eq_true selected
  have released := continues.reserved
  have free : old.activeTaskAllocationId = none := by
    rw [← heldIn_of_mem released.keyedProjections replaced.mem_old, same, ← named]
    exact cleared
  obtain ⟨keyed, described, agrees⟩ := released.replaced replaced rfl
    (iff_of_false spent (by simp))
  refine continues.trans ⟨⟨keyed, released.keyedAllocations, described, ?_, agrees,
    released.recorded⟩, known_of_replaced replaced rfl⟩
  change Paired (heldIn projections) (holderIn middle.units.allocations)
  rw [heldIn_kept released.keyedProjections replaced rfl free.symm]
  exact released.paired

theorem markNamedUnit_operates (reserved : Reserved rows.units) (now : Int)
    (eventId taskId : String) (named : Option String) (spent : disposition ≠ .reserved) :
    Operates rows (markNamedUnit now eventId named disposition taskId rows) := by
  cases named with
  | none => exact Continues.same reserved
  | some sparePartUnitId => exact markSpareDisposition_operates reserved _ _ _ _ spent

theorem requireRma_fine (rmaId : String) : Fine (rows.requireRma rmaId) := by
  unfold InventoryRows.requireRma
  split
  · exact trivial
  · exact invStale_fine _

theorem requireReturnObligation_fine (obligation : ReturnObligation)
    (selection : Option ReturnSelection) (disposition : Disposition) :
    Fine (requireReturnObligation obligation selection disposition) :=
  (fine_ensure (selectionInvalid_fine _)).bind fun _ _ => fine_ensure (selectionInvalid_fine _)

theorem validateRmaConsequence_fine (rmaId : String) (target : Option String)
    (disposition : Disposition) (units : PhysicalUnits) (selection : Option ReturnSelection) :
    Fine (validateRmaConsequence rows rmaId target disposition units selection) := by
  refine (requireRma_fine _).bind fun _ _ => ?_
  refine (fine_ensure (selectionInvalid_fine _)).bind fun _ _ => ?_
  refine (fine_ensure (selectionInvalid_fine _)).bind fun _ _ => ?_
  refine (fine_ensure (selectionInvalid_fine _)).bind fun _ _ => ?_
  refine (fine_ensure (selectionInvalid_fine _)).bind fun _ _ => ?_
  split
  · exact integrityFailure_fine (by decide)
  · exact (requireReturnObligation_fine _ _ _).bind fun _ _ => trivial

theorem validateConsequenceRma_fine (intent : ConsequenceIntent)
    (selection : Option ReturnSelection) : Fine (validateConsequenceRma rows intent selection) := by
  unfold validateConsequenceRma
  split
  · exact trivial
  · exact (validateRmaConsequence_fine _ _ _ _ _).bind fun _ _ => trivial

theorem requireNamedUnit_fine (tables : UnitTables) (named : Option String) :
    Fine (requireNamedUnit tables named) := by
  cases named with
  | none => exact trivial
  | some sparePartUnitId => exact (requireSpareUnit_yields _ _).bind fun _ _ => trivial

theorem rebuildRmaAttention_operates (rmaId : String) :
    Yields (fun after => after.units = rows.units) IsDisagreement
      (rebuildRmaAttention rmaId rows) := by
  unfold rebuildRmaAttention
  split
  · exact integrityFailure_fine (by decide)
  · exact rfl

theorem updateRmaProjection_fine (read : RmaProjection) (change : RmaProjection → RmaProjection)
    (missed : String) (tables : RmaTables) :
    Fine (updateRmaProjection read change missed tables) :=
  (yields_updateOne (invStale_fine _)).bind fun _ _ => trivial

theorem openReturnObligation_fine (consequenceId eventId rmaId : String) (detail : RmaDetail)
    (obligation : ReturnObligation) (selection : ReturnSelection) (tables : RmaTables) :
    Fine (openReturnObligation consequenceId eventId rmaId detail obligation selection tables) :=
  (yields_updateOne (invStale_fine _)).bind fun _ _ => updateRmaProjection_fine _ _ _ _

theorem selectReturn_operates (consequenceId eventId : String)
    (authority : Option (RmaDetail × ReturnObligation)) (selection : Option ReturnSelection) :
    Yields (fun after => after.units = rows.units) IsDisagreement
      (selectReturn consequenceId eventId authority selection rows) := by
  unfold selectReturn
  split
  · exact (openReturnObligation_fine _ _ _ _ _ _ _).bind fun _ _ => rebuildRmaAttention_operates _
  · exact rfl

theorem acceptPhysicalConsequence_operates (reserved : Reserved rows.units)
    (intent : ConsequenceIntent) (selection : Option ReturnSelection) :
    Operates rows (acceptPhysicalConsequence call intent selection rows) := by
  refine (fine_ensure (inventoryError_fine _ _)).bind fun _ _ => ?_
  refine (validateConsequenceRma_fine _ _).bind fun _ _ => ?_
  refine (requireNamedUnit_fine _ _).bind fun _ _ => ?_
  refine (requireNamedUnit_fine _ _).bind fun _ _ => ?_
  refine (requireNamedUnit_fine _ _).bind fun _ _ => ?_
  refine (fine_ensure (selectionInvalid_fine _)).bind fun _ _ => ?_
  refine (yields_insertKeyed other_fine).bind fun consequences _ => ?_
  have installed : UnitDisposition.installed ≠ .reserved := by decide
  have dismantled : UnitDisposition.dismantled ≠ .reserved := by decide
  let opened : InventoryRows := { rows with
    consequences := { rows.consequences with consequences } }
  have same : Reserved opened.units := reserved
  refine (markNamedUnit_operates same _ _ _ _ installed).bind fun _ early => ?_
  refine (markNamedUnit_operates early.reserved _ _ _ _ dismantled).bind fun _ late => ?_
  refine (yields_insertKeyed other_fine).bind fun current _ => ?_
  refine (selectReturn_operates _ _ _ _).mono fun after same => ?_
  rw [same]
  exact early.trans late

/-! ## Commands -/

theorem requireStillThere_fine (continues : Continues before after)
    (known : sparePartUnitId ∈ before.projections.map (·.sparePartUnitId)) (message : String) :
    Fine (after.requireStillThere sparePartUnitId message) := by
  obtain ⟨projection, inside, rfl⟩ := List.mem_map.mp known
  have there := continues.reserved.isSome_of_known (continues.known projection inside)
  rw [UnitTables.requireStillThere, ensure, if_pos there]
  exact trivial

theorem requireUnitRevision_yields (tables : UnitTables) (sparePartUnitId : String)
    (expectedRevision : Nat) :
    Yields (fun _ => sparePartUnitId ∈ tables.projections.map (·.sparePartUnitId)) IsDisagreement
      (tables.requireUnitRevision sparePartUnitId expectedRevision) := by
  unfold UnitTables.requireUnitRevision
  split
  · exact invStale_fine _
  · next detail found =>
    refine (fine_ensure (invStale_fine _)).bind fun _ _ => ?_
    obtain ⟨_, _, rest⟩ := Option.bind_eq_some_iff.mp found
    obtain ⟨projection, there, _⟩ := Option.bind_eq_some_iff.mp rest
    exact List.mem_map.mpr ⟨projection, key_of_find? there⟩

theorem requireExtractedProvenance_fine (tables : UnitTables) (originRmaId parent : Option String) :
    Fine (requireExtractedProvenance tables originRmaId parent) := by
  unfold requireExtractedProvenance
  split
  · refine (fine_ensure (inventoryError_fine _ _)).bind fun _ _ => ?_
    exact fine_ensure (inventoryError_fine _ _)
  · exact inventoryError_fine _ _

theorem requireRegistrationProvenance_fine (rmas : List Rma) (tables : UnitTables)
    (originRmaId : Option String) (creationOrigin : UnitOrigin) (parent : Option String) :
    Fine (requireRegistrationProvenance rmas tables originRmaId creationOrigin parent) := by
  unfold requireRegistrationProvenance
  split
  · exact requireExtractedProvenance_fine _ _ _
  · refine (fine_ensure (inventoryError_fine _ _)).bind fun _ _ => ?_
    split
    · exact trivial
    · refine (fine_ensure (inventoryError_fine _ _)).bind fun _ _ => ?_
      refine (fine_ensure (invStale_fine _)).bind fun _ _ => ?_
      exact fine_ensure (inventoryError_fine _ _)

theorem allocateLocalTrackingSequence_fine (tables : UnitTables) :
    Fine (allocateLocalTrackingSequence tables) := by
  unfold allocateLocalTrackingSequence allocateTracking
  split
  · exact integrityFailure_fine (by decide)
  · exact (fine_ensure (inventoryError_fine _ _)).bind fun _ _ => trivial

theorem registerSparePartUnit_operates (reserved : Reserved rows.units)
    (intent : RegistrationIntent) : Operates rows (registerSparePartUnit call intent rows) := by
  refine (fine_ensure (validationError_fine _)).bind fun _ _ => ?_
  refine (requireRegistrationProvenance_fine _ _ _ _ _).bind fun _ _ => ?_
  refine (allocateLocalTrackingSequence_fine _).bind fun ⟨allocator, sequence⟩ _ => ?_
  have after : Reserved { rows.units with allocator } :=
    ⟨reserved.keyedProjections, reserved.keyedAllocations, reserved.described, reserved.paired,
      reserved.reserved, reserved.recorded⟩
  exact (insertSparePartUnit_yields after _ _).bind fun _ continues =>
    ⟨continues.reserved, continues.known⟩

theorem correctRmaProvenance_operates (reserved : Reserved rows.units)
    (sparePartUnitId originRmaId : String) (expectedRevision : Nat) :
    Operates rows (correctRmaProvenance sparePartUnitId originRmaId expectedRevision rows) := by
  refine (requireUnitRevision_yields _ _ _).bind fun _ _ => ?_
  refine (fine_ensure (inventoryError_fine _ _)).bind fun _ _ => ?_
  refine (fine_ensure (invStale_fine _)).bind fun _ _ => ?_
  exact (attachOriginRma_yields reserved _ _ _ _).bind fun _ continues => continues

theorem requireReceiptEligible_fine (rmaId : String) :
    Fine (requireReceiptEligible rows rmaId) := by
  refine (requireRma_fine _).bind fun _ _ => ?_
  exact (fine_ensure (inventoryError_fine _ _)).bind fun _ _ => trivial

theorem requireReceiptLocation_fine (dispatchLocationId : Option String) :
    Fine (requireReceiptLocation call dispatchLocationId) := by
  unfold requireReceiptLocation
  split
  · exact trivial
  · split
    · exact invStale_fine _
    · refine (fine_ensure (invStale_fine _)).bind fun _ _ => ?_
      exact fine_ensure (inventoryError_fine _ _)

theorem requireReceiptContact_fine (receiverContactId : Option String) :
    Fine (requireReceiptContact call receiverContactId) := by
  unfold requireReceiptContact
  split
  · exact trivial
  · exact fine_ensure (invStale_fine _)

theorem recordRmaInboundReceipt_operates (reserved : Reserved rows.units) (rmaId : String)
    (received : ReceivedUnit) :
    Operates rows (recordRmaInboundReceipt call rmaId received rows) := by
  refine (requireReceiptEligible_fine _).bind fun _ _ => ?_
  refine (requireReceiptLocation_fine _).bind fun _ _ => ?_
  refine (requireReceiptContact_fine _).bind fun _ _ => ?_
  refine (insertSparePartUnit_yields reserved _ _).bind fun units continues => ?_
  refine (fine_ensure other_fine).bind fun _ _ => ?_
  refine (yields_insertKeyed other_fine).bind fun directInbound _ => ?_
  refine (yields_updateOne (invStale_fine _)).bind fun lifecycle _ => ?_
  have after := continues.reserved
  exact ⟨⟨after.keyedProjections, after.keyedAllocations, after.described, after.paired,
    after.reserved, after.recorded⟩, continues.known⟩

theorem requireFittingNeed_fine (unit : SparePartUnit) (spareNeedId : Option String) :
    Fine (requireFittingNeed call unit spareNeedId) := by
  unfold requireFittingNeed
  split
  · exact trivial
  · exact (requireActiveNeed_fine _ _).bind fun _ _ => requireMatchingBom_fine _ _

theorem reserveSparePartUnitForTask_operates (reserved : Reserved rows.units)
    (intent : ReservationIntent) :
    Operates rows (reserveSparePartUnitForTask call intent rows) := by
  refine (requireUnitRevision_yields _ _ _).bind fun _ known => ?_
  refine (requireTaskRevision_fine _ _).bind fun _ _ => ?_
  refine (fine_ensure (inventoryError_fine _ _)).bind fun _ _ => ?_
  refine (requireStockEligible_fine _).bind fun _ _ => ?_
  refine (requireFittingNeed_fine _ _).bind fun _ _ => ?_
  refine (reserveForTask_operates reserved _ _ _).bind fun after continues => ?_
  exact (requireStillThere_fine continues known _).bind fun _ _ => continues

theorem releaseSparePartUnitReservation_operates (reserved : Reserved rows.units)
    (allocationId : String) (baseRevision : Nat) :
    Operates rows (releaseSparePartUnitReservation call allocationId baseRevision rows) := by
  unfold releaseSparePartUnitReservation
  split
  · refine (fine_ensure (inventoryError_fine _ _)).bind fun _ _ => ?_
    exact Continues.same reserved
  · next current found =>
    obtain ⟨_, inside, unit, _⟩ := reserved.holder (List.mem_of_find?_eq_some found)
    have known : current.sparePartUnitId ∈ rows.units.projections.map (·.sparePartUnitId) :=
      unit ▸ List.mem_map_of_mem inside
    refine (fine_ensure (invStale_fine _)).bind fun _ _ => ?_
    refine (requireStillThere_fine (Continues.same reserved) known _).bind fun _ _ => ?_
    refine (releaseReservation_operates reserved _ _ _ _).bind fun after ⟨continues, _⟩ => ?_
    exact (requireStillThere_fine continues known _).bind fun _ _ => continues

theorem requireSelectionTask_fine (task : Option (String × Nat)) :
    Fine (requireSelectionTask call task) := by
  unfold requireSelectionTask
  split
  · exact trivial
  · exact requireTaskRevision_fine _ _

theorem reserveSelection_operates (reserved : Reserved rows.units) (intent : SelectionIntent) :
    Operates rows (reserveSelection call intent rows) := by
  unfold reserveSelection
  split
  · exact Continues.same reserved
  · exact reserveForTask_operates reserved _ _ _

theorem recordLocalNeedFulfillmentSelection_operates (reserved : Reserved rows.units)
    (intent : SelectionIntent) :
    Operates rows (recordLocalNeedFulfillmentSelection call intent rows) := by
  refine (requireActiveNeed_fine _ _).bind fun _ _ => ?_
  refine (requireUnitRevision_yields _ _ _).bind fun _ known => ?_
  refine (requireMatchingBom_fine _ _).bind fun _ _ => ?_
  refine (requireStockEligible_fine _).bind fun _ _ => ?_
  refine (requireSelectionTask_fine _).bind fun _ _ => ?_
  refine (reserveSelection_operates reserved _).bind fun after continues => ?_
  exact (requireStillThere_fine continues known _).bind fun _ _ => continues

theorem sha256CanonicalJson_fine (python : PythonLibrary) (value : Json) :
    Fine (sha256CanonicalJson python value) := by
  unfold sha256CanonicalJson canonicalJson
  split
  · exact trivial
  · exact validationError_fine _

theorem previewRetryRelationshipClone_fine (python : PythonLibrary) (predecessorTaskId : String)
    (selected : List String) :
    Fine (previewRetryRelationshipClone python predecessorTaskId selected rows) := by
  refine (fine_ensure (validationError_fine _)).bind fun _ _ => ?_
  exact (sha256CanonicalJson_fine _ _).bind fun _ _ => trivial

theorem reassignRelationship_operates (reserved : Reserved rows.units)
    (predecessorTaskId newTaskId : String) (drawn : String × RetryRelationship) :
    Operates rows (reassignRelationship call predecessorTaskId newTaskId rows drawn) := by
  unfold reassignRelationship
  split
  · exact other_fine
  · next allocation _ =>
    have moves : Operates rows (reassignTaskAllocation call drawn.1 drawn.2.id predecessorTaskId
        newTaskId allocation.revision rows) :=
      reassignTaskAllocation_operates reserved _ _ _ _ _
    cases found : rows.units.allocation? drawn.2.id with
    | none =>
      -- The reassignment has already failed.
      rw [reassignTaskAllocation, found]
      exact invStale_fine _
    | some current =>
      obtain ⟨projection, inside, unit, _⟩ := reserved.holder (List.mem_of_find?_eq_some found)
      refine moves.bind fun after continues => ?_
      have known := continues.known projection inside
      rw [unit] at known
      have there := continues.reserved.isSome_of_known known
      exact (yields_ensure fun missing => absurd there missing).bind fun _ _ => continues

theorem applyRetryRelationshipClone_operates (reserved : Reserved rows.units)
    (preview : RetryPreview) (newTaskId : String) :
    Operates rows (applyRetryRelationshipClone call preview newTaskId rows) := by
  refine (fine_ensure (inventoryError_fine _ _)).bind fun _ _ => ?_
  refine (previewRetryRelationshipClone_fine _ _ _).bind fun _ _ => ?_
  refine (fine_ensure (invStale_fine _)).bind fun _ _ => ?_
  refine Yields.foldlM (Continues.same reserved) fun before drawn continues => ?_
  exact (reassignRelationship_operates continues.reserved _ _ _).mono fun _ late =>
    continues.trans late

theorem validateConsequenceShape_fine (disposition : Disposition) (units : PhysicalUnits) :
    Fine (validateConsequenceShape disposition units) := by
  unfold validateConsequenceShape
  split <;> split <;> first | exact trivial | exact validationError_fine _

theorem requireTaskReview_fine (taskId taskReviewFingerprint disappeared changed : String) :
    Fine (requireTaskReview call taskId taskReviewFingerprint disappeared changed) := by
  unfold requireTaskReview
  split
  · exact inventoryError_fine _ _
  · refine (fine_ensure (inventoryError_fine _ _)).bind fun _ _ => ?_
    exact fine_ensure (inventoryError_fine _ _)

theorem acceptInventoryPhysicalConsequence_operates (reserved : Reserved rows.units)
    (intent : ConsequenceIntent) :
    Operates rows (acceptInventoryPhysicalConsequence call intent rows) := by
  refine (validateConsequenceShape_fine _ _).bind fun _ _ => ?_
  refine (requireTaskReview_fine _ _ _ _).bind fun _ _ => ?_
  refine (fine_ensure (inventoryError_fine _ _)).bind fun _ _ => ?_
  exact acceptPhysicalConsequence_operates reserved _ _

end Operations

/-- The commands that write the tables of units. -/
inductive UnitCommand where
  | register (intent : RegistrationIntent)
  | correctProvenance (sparePartUnitId originRmaId : String) (expectedRevision : Nat)
  | receive (rmaId : String) (received : ReceivedUnit)
  | reserve (intent : ReservationIntent)
  | release (allocationId : String) (baseRevision : Nat)
  | select (intent : SelectionIntent)
  | cloneRetry (preview : RetryPreview) (newTaskId : String)
  | accept (intent : ConsequenceIntent)

def UnitCommand.execute (call : InventoryCall) :
    UnitCommand → InventoryRows → Except Raised InventoryRows
  | register intent => registerSparePartUnit call intent
  | correctProvenance sparePartUnitId originRmaId expectedRevision =>
    correctRmaProvenance sparePartUnitId originRmaId expectedRevision
  | receive rmaId received => recordRmaInboundReceipt call rmaId received
  | reserve intent => reserveSparePartUnitForTask call intent
  | release allocationId baseRevision =>
    releaseSparePartUnitReservation call allocationId baseRevision
  | select intent => recordLocalNeedFulfillmentSelection call intent
  | cloneRetry preview newTaskId => applyRetryRelationshipClone call preview newTaskId
  | accept intent => acceptInventoryPhysicalConsequence call intent

theorem execute_operates {rows : InventoryRows} (reserved : Reserved rows.units)
    (call : InventoryCall) (command : UnitCommand) : Operates rows (command.execute call rows) := by
  cases command with
  | register intent => exact registerSparePartUnit_operates reserved intent
  | correctProvenance sparePartUnitId originRmaId expectedRevision =>
    exact correctRmaProvenance_operates reserved sparePartUnitId originRmaId expectedRevision
  | receive rmaId received => exact recordRmaInboundReceipt_operates reserved rmaId received
  | reserve intent => exact reserveSparePartUnitForTask_operates reserved intent
  | release allocationId baseRevision =>
    exact releaseSparePartUnitReservation_operates reserved allocationId baseRevision
  | select intent => exact recordLocalNeedFulfillmentSelection_operates reserved intent
  | cloneRetry preview newTaskId =>
    exact applyRetryRelationshipClone_operates reserved preview newTaskId
  | accept intent => exact acceptInventoryPhysicalConsequence_operates reserved intent

/-! ## Runs -/

/-- No unit is registered yet. -/
def NoUnits (rows : InventoryRows) : Prop :=
  rows.units.units = [] ∧ rows.units.projections = [] ∧ rows.units.allocations = [] ∧
    rows.units.allocationEvents = []

/-- The tables after a command, which are as before when it raises. -/
def UnitCommand.perform (command : UnitCommand) (call : InventoryCall) (rows : InventoryRows) :
    InventoryRows :=
  match command.execute call rows with
  | .ok next => next
  | .error _ => rows

/-- A command on units, or anything that leaves the tables of units alone. -/
inductive UnitStep : InventoryRows → InventoryRows → Prop
  | command {rows : InventoryRows} (call : InventoryCall) (command : UnitCommand) :
      UnitStep rows (command.perform call rows)
  | elsewhere {rows next : InventoryRows} (kept : next.units = rows.units) : UnitStep rows next

theorem NoUnits.reserved (none : NoUnits rows) : Reserved rows.units := by
  obtain ⟨units, projections, allocations, _⟩ := none
  refine ⟨?_, ?_, ?_, ?_, ?_, ?_⟩
  · rw [projections]
    exact List.nodup_nil
  · rw [allocations]
    exact List.nodup_nil
  · simp [projections]
  · intro holder grant
    simp [projections, allocations, heldIn, holderIn]
  · simp [projections]
  · simp [allocations]

theorem UnitStep.reserved {rows : InventoryRows} (reserved : Reserved rows.units)
    (stepped : UnitStep rows next) : Reserved next.units := by
  cases stepped with
  | command call command =>
    unfold UnitCommand.perform
    split
    · next next ran => exact ((execute_operates reserved call command).returned ran).reserved
    · exact reserved
  | elsewhere kept => exact kept ▸ reserved

theorem reserved_of_reachable (reached : Reachable NoUnits UnitStep rows) :
    Reserved rows.units :=
  reached.invariant (fun rows => Reserved rows.units) (fun _ none => none.reserved)
    fun _ _ reserved stepped => stepped.reserved reserved

/-- Rows and units in one-to-one correspondence by the identifier of the reservation. -/
structure ReservationsAgree (tables : UnitTables) : Prop where
  unitOfRow : ∀ allocation ∈ tables.allocations,
    ∃! projection, projection ∈ tables.projections ∧
      projection.activeTaskAllocationId = some allocation.allocationId
  rowOfUnit : ∀ projection ∈ tables.projections, projection.activeTaskAllocationId ≠ none →
    ∃! allocation, allocation ∈ tables.allocations ∧
      projection.activeTaskAllocationId = some allocation.allocationId
  sameUnit : ∀ allocation ∈ tables.allocations, ∀ projection ∈ tables.projections,
    projection.activeTaskAllocationId = some allocation.allocationId →
      projection.sparePartUnitId = allocation.sparePartUnitId
  reservedIff : ∀ projection ∈ tables.projections, projection.disposition = .reserved ↔
    ∃ allocation ∈ tables.allocations, allocation.sparePartUnitId = projection.sparePartUnitId
  latestTask : ∀ allocation ∈ tables.allocations, allocation.RecordedIn tables.allocationEvents

theorem Reserved.agree (reserved : Reserved tables) : ReservationsAgree tables := by
  have sameUnit : ∀ allocation ∈ tables.allocations, ∀ projection ∈ tables.projections,
      projection.activeTaskAllocationId = some allocation.allocationId →
        projection.sparePartUnitId = allocation.sparePartUnitId := by
    intro allocation inside projection there names
    rw [← heldIn_of_mem reserved.keyedProjections there] at names
    have back := (reserved.paired _ _).mp names
    rw [holderIn_of_mem reserved.keyedAllocations inside] at back
    exact (Option.some.inj back).symm
  refine ⟨?_, ?_, sameUnit, ?_, reserved.recorded⟩
  · intro allocation inside
    obtain ⟨projection, there, unit, names⟩ := reserved.holder inside
    refine ⟨projection, ⟨there, names⟩, fun other ⟨listed, otherNames⟩ => ?_⟩
    have unit' := sameUnit allocation inside other listed otherNames
    exact List.inj_on_of_nodup_map reserved.keyedProjections listed there (unit'.trans unit.symm)
  · intro projection there active
    obtain ⟨allocationId, names⟩ := Option.ne_none_iff_exists'.mp active
    obtain ⟨allocation, found, -⟩ := reserved.granted there names
    obtain ⟨inside, named⟩ := key_of_find? found
    refine ⟨allocation, ⟨inside, named ▸ names⟩, fun other ⟨listed, otherNamed⟩ => ?_⟩
    refine List.inj_on_of_nodup_map reserved.keyedAllocations listed inside ?_
    exact (Option.some.inj (names.symm.trans otherNamed)).symm.trans named.symm
  · intro projection there
    rw [reserved.reserved projection there]
    constructor
    · intro active
      obtain ⟨allocationId, names⟩ := Option.ne_none_iff_exists'.mp active
      obtain ⟨allocation, found, unit⟩ := reserved.granted there names
      exact ⟨allocation, List.mem_of_find?_eq_some found, unit⟩
    · rintro ⟨allocation, inside, unit⟩
      obtain ⟨holder, listed, same, names⟩ := reserved.holder inside
      obtain rfl := List.inj_on_of_nodup_map reserved.keyedProjections listed there
        (same.trans unit)
      rw [names]
      exact Option.some_ne_none _

/-- **Reservations are a bijection.** In every reachable state the rows of current
reservations and the units that name a reservation correspond one to one, a unit is
`reserved` exactly when it has such a row, each row is the work of the latest event
of its reservation, and no command finds the two tables in disagreement. -/
theorem reservations_agree {rows : InventoryRows} (reached : Reachable NoUnits UnitStep rows) :
    ReservationsAgree rows.units ∧
      ∀ (call : InventoryCall) (command : UnitCommand) (raised : Raised),
        command.execute call rows = .error raised → ¬ IsDisagreement raised := by
  have reserved := reserved_of_reachable reached
  exact ⟨reserved.agree, fun call command _ failed =>
    (execute_operates reserved call command).raised failed⟩

/-! ## A sample run -/

local instance instNeZeroUnitCalls : NeZero 16 := ⟨by decide⟩

/-- A call with a Task of revision 1 for every identifier. -/
def sampleUnitCall (call : Fin 16) : InventoryCall :=
  { sampleCall call with
    task := fun _ => some ⟨1, [], true, "reviewed"⟩
    need := fun _ => none }

def sampleUnitId : String := sampleText 1 0

def sampleAllocationId : String := sampleText 2 0

def noInventory : InventoryRows :=
  ⟨noRequests.requests, noRequests.rmas, ⟨some ⟨1, 1⟩, [], [], [], [], []⟩, ⟨[], []⟩,
    ⟨some ⟨1, 1⟩, [], [], [], [], [], [], [], [], []⟩, []⟩

def registeredUnit : InventoryRows :=
  (UnitCommand.register ⟨.manualLocal, "bom", .new, none, none⟩).perform (sampleUnitCall 1)
    noInventory

def reservedUnit : InventoryRows :=
  (UnitCommand.reserve ⟨"task", sampleUnitId, none, 1, 1⟩).perform (sampleUnitCall 2)
    registeredUnit

def retriedUnit : InventoryRows :=
  (UnitCommand.cloneRetry ⟨"task", [⟨sampleAllocationId, .eligible,
    some ⟨sampleUnitId, none, 1⟩⟩], String.ofList (List.replicate 64 'a')⟩ "retry").perform
    (sampleUnitCall 3) reservedUnit

theorem retried_agrees :
    retriedUnit.units.allocations.map (fun row => (row.allocationId, row.taskId)) =
        [(sampleAllocationId, "retry")] ∧
      ReservationsAgree retriedUnit.units ∧
      ∀ (call : InventoryCall) (command : UnitCommand) (raised : Raised),
        command.execute call retriedUnit = .error raised → ¬ IsDisagreement raised := by
  have start : Reachable NoUnits UnitStep noInventory := .start ⟨rfl, rfl, rfl, rfl⟩
  have registered : Reachable NoUnits UnitStep registeredUnit := start.step (.command _ _)
  have taken : Reachable NoUnits UnitStep reservedUnit := registered.step (.command _ _)
  have retried : Reachable NoUnits UnitStep retriedUnit := taken.step (.command _ _)
  exact ⟨by decide +kernel, reservations_agree retried⟩

end Soma.Inventory
