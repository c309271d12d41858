import Soma.Inventory.Units

/-!
How an RMA moves from its authorization to an open return: the inbound receipt of
`inventory/repositories/logistics.py` and the physical consequences of
`inventory/repositories/projections.py`.
-/

namespace Soma.Inventory

open Foundation

/-! ## RMAs -/

/-- `current_rma`. -/
structure RmaDetail where
  rma : Rma
  serviceRequestId : String
  c10 : String
  projection : RmaProjection

def InventoryRows.currentRma (rows : InventoryRows) (rmaId : String) : Option RmaDetail := do
  let rma ← rows.rmas.rmas.find? (·.rmaId = rmaId)
  let request ← rows.requests.requests.find? (·.spareRequestId = rma.spareRequestId)
  let current ← rows.rmas.c10Aliases.find? fun row => row.rmaId = rmaId ∧ row.aliasKind = .current
  let projection ← rows.rmas.lifecycle? rmaId
  return ⟨rma, request.serviceRequestId, current.c10, projection⟩

/-- `current_rma` of an RMA that must exist. -/
def InventoryRows.requireRma (rows : InventoryRows) (rmaId : String) : Except Raised RmaDetail :=
  match rows.currentRma rmaId with
  | some detail => .ok detail
  | none => .error (invStale "RMA no longer exists")

/-- The `UPDATE` of an RMA projection at the revision that was read. -/
def updateRmaProjection (read : RmaProjection) (change : RmaProjection → RmaProjection)
    (missed : String) (tables : RmaTables) : Except Raised RmaTables := do
  let lifecycle ← updateOne (fun row => row.rmaId = read.rmaId ∧ row.revision = read.revision)
    (fun row => { change row with revision := read.revision + 1 }) (invStale missed)
    tables.lifecycle
  return { tables with lifecycle }

/-! ## Inbound receipts -/

def requireReceiptEligible (rows : InventoryRows) (rmaId : String) : Except Raised RmaDetail := do
  let detail ← rows.requireRma rmaId
  ensure (rmaId ∉ rows.units.directInbound.map (·.rmaId) ∧
      detail.projection.directInboundSparePartUnitId = none)
    (inventoryError "RMA_INBOUND_EXISTS" "RMA already has direct inbound physical unit")
  return detail

/-- `_snapshot_reference_context` of the location, with the check that it exists. -/
def requireReceiptLocation (call : InventoryCall) (dispatchLocationId : Option String) :
    Except Raised Unit :=
  match dispatchLocationId with
  | none => .ok ()
  | some locationId =>
    match call.surroundings.dispatchLocation locationId with
    | none => .error (invStale "Receipt Dispatch Location no longer exists")
    | some location => do
      ensure (location.lifecycleState = "active")
        (invStale "Receipt Dispatch Location is unavailable")
      ensure (¬ (location.standaloneAddressText = none ∧ location.addressMode = .siteDerived))
        (inventoryError "DEPENDENCY_INDETERMINATE"
          "Site-derived receipt location address cannot be snapshotted")

/-- `_snapshot_reference_context` of the receiver. -/
def requireReceiptContact (call : InventoryCall) (receiverContactId : Option String) :
    Except Raised Unit :=
  match receiverContactId with
  | none => .ok ()
  | some contactId =>
    ensure ((call.surroundings.contact contactId).map (·.lifecycleState) = some "active")
      (invStale "Receipt receiver Contact is unavailable")

/-- What arrives with an RMA. -/
structure ReceivedUnit where
  bomKey : String
  condition : UnitCondition
  dispatchLocationId : Option String
  receiverContactId : Option String

/-- `record_rma_inbound_receipt`. It reads the state of the RMA for nothing but its
identity and writes `received` over it. -/
def recordRmaInboundReceipt (call : InventoryCall) (rmaId : String) (received : ReceivedUnit)
    (rows : InventoryRows) : Except Raised InventoryRows := do
  let detail ← requireReceiptEligible rows rmaId
  requireReceiptLocation call received.dispatchLocationId
  requireReceiptContact call received.receiverContactId
  let sparePartUnitId := (call.newUuid4 0).value
  let units ← insertSparePartUnit rows.units
    ⟨sparePartUnitId, none, received.bomKey, .directRmaReceipt, some rmaId, none⟩ received.condition
  -- The unit of a relationship is unique too.
  ensure (sparePartUnitId ∉ units.directInbound.map (·.sparePartUnitId)) .other
  let directInbound ← insertKeyed (·.rmaId) units.directInbound ⟨rmaId, sparePartUnitId⟩
  let lifecycle ← updateOne
    (fun row => row.rmaId = rmaId ∧ row.revision = detail.projection.revision ∧
      row.directInboundSparePartUnitId = none)
    (fun row => { row with
      state := .received
      directInboundSparePartUnitId := some sparePartUnitId
      revision := detail.projection.revision + 1 })
    (invStale "RMA changed during inbound receipt") rows.rmas.lifecycle
  return { rows with
    units := { units with directInbound }
    rmas := { rows.rmas with lifecycle } }

/-! ## Physical consequences -/

/-- `ReturnSelection`: the unit a consequence sends back. -/
inductive ReturnSelection where
  | devicePartUnit (unitId : String)
  | sparePartUnit (unitId : String)

def ReturnSelection.devicePartUnitId : ReturnSelection → Option String
  | .devicePartUnit unitId => some unitId
  | .sparePartUnit _ => none

def ReturnSelection.sparePartUnitId : ReturnSelection → Option String
  | .devicePartUnit _ => none
  | .sparePartUnit unitId => some unitId

def validateConsequenceShape (disposition : Disposition) (units : PhysicalUnits) :
    Except Raised (Option ReturnSelection) :=
  match disposition with
  | .installedUsed =>
    match units with
    | ⟨some _, some removed, none, none⟩ => .ok (some (.devicePartUnit removed))
    | _ => .error (validationError
        "installed_used requires installed spare + removed Device Part only")
  | .unused | .inboundFaulty | .incompatible =>
    match units with
    | ⟨none, none, some inbound, none⟩ => .ok (some (.sparePartUnit inbound))
    | _ => .error (validationError
        (disposition.text ++ " requires exactly the inbound Spare Part Unit"))
  | .dismantled =>
    match units with
    | ⟨none, none, none, some parent⟩ => .ok (some (.sparePartUnit parent))
    | _ => .error (validationError "dismantled requires exactly the parent dismantled unit")
  | .removedOnly =>
    match units with
    | ⟨none, some removed, none, none⟩ => .ok (some (.devicePartUnit removed))
    | _ => .error (validationError "removed_only requires exactly the removed Device Part")
  | .noPhysicalChange =>
    match units with
    | ⟨none, none, none, none⟩ => .ok none
    | _ => .error (validationError "no_physical_change cannot carry physical unit identities")
  | .otherReviewed =>
    match units with
    | ⟨none, some removed, none, none⟩ => .ok (some (.devicePartUnit removed))
    | ⟨none, none, some inbound, none⟩ => .ok (some (.sparePartUnit inbound))
    | ⟨none, none, none, some parent⟩ => .ok (some (.sparePartUnit parent))
    | _ => .error (validationError
        "other_reviewed requires exactly one explicit reviewed return unit")

def requireNoCurrentTaskConsequence (tables : ConsequenceTables) (taskId : String) :
    Except Raised Unit :=
  ensure (¬ ∃ row ∈ tables.consequences, row.taskId = taskId ∧
      row.physicalConsequenceId ∈ tables.current.map (·.physicalConsequenceId))
    (inventoryError "CORRECTION_TARGET_INVALID"
      "Task already has current accepted Inventory physical consequence")

/-- The dispositions that need an inbound unit. -/
def Disposition.needsInbound : Disposition → Bool
  | .installedUsed | .unused | .inboundFaulty | .incompatible | .dismantled => true
  | _ => false

/-- The unit of a consequence that must be the direct inbound unit. -/
def Disposition.MatchesInbound (disposition : Disposition) (units : PhysicalUnits)
    (inbound : Option String) : Prop :=
  match disposition with
  | .installedUsed => units.installedSparePartUnitId = inbound
  | .unused | .inboundFaulty | .incompatible => units.inboundSparePartUnitId = inbound
  | .dismantled => units.parentDismantledUnitId = inbound
  | _ => True

instance Disposition.matchesInboundDecidable (disposition : Disposition) (units : PhysicalUnits)
    (inbound : Option String) : Decidable (disposition.MatchesInbound units inbound) :=
  match disposition with
  | .installedUsed => inferInstanceAs (Decidable (units.installedSparePartUnitId = inbound))
  | .unused | .inboundFaulty | .incompatible =>
    inferInstanceAs (Decidable (units.inboundSparePartUnitId = inbound))
  | .dismantled => inferInstanceAs (Decidable (units.parentDismantledUnitId = inbound))
  | .removedOnly | .noPhysicalChange | .otherReviewed => .isTrue trivial

/-- The message of a unit that is not the direct inbound unit. -/
def Disposition.inboundMismatch : Disposition → String
  | .installedUsed => "installed RMA spare must be the accepted direct inbound unit"
  | .dismantled => "dismantled return candidate must be the direct inbound parent unit"
  | _ => "return candidate must be the accepted direct inbound unit"

/-- `RETURN_SELECTION_INVALID`. -/
def selectionInvalid (message : String) : Raised :=
  inventoryError "RETURN_SELECTION_INVALID" message

/-- What a consequence asks of the obligation of its RMA. -/
def requireReturnObligation (obligation : ReturnObligation) (selection : Option ReturnSelection)
    (disposition : Disposition) : Except Raised Unit := do
  ensure (obligation.obligationState = .notEstablished)
    (selectionInvalid "RMA return obligation is already established")
  ensure (¬ (selection = none ∧ disposition ≠ .noPhysicalChange))
    (selectionInvalid "RMA consequence lacks return selection")

def validateRmaConsequence (rows : InventoryRows) (rmaId : String) (target : Option String)
    (disposition : Disposition) (units : PhysicalUnits) (selection : Option ReturnSelection) :
    Except Raised (RmaDetail × ReturnObligation) := do
  let detail ← rows.requireRma rmaId
  let currentTarget := detail.projection.currentTargetDevicePartUnitId
  let directInbound := detail.projection.directInboundSparePartUnitId
  ensure (target = none ∨ currentTarget = target)
    (selectionInvalid "physical consequence target does not match current RMA assignment")
  ensure (¬ (disposition.needsInbound ∧ directInbound = none))
    (selectionInvalid "RMA physical consequence requires accepted direct inbound unit")
  ensure (disposition.MatchesInbound units directInbound)
    (selectionInvalid disposition.inboundMismatch)
  ensure (units.removedDevicePartUnitId = none ∨ currentTarget = none ∨
      units.removedDevicePartUnitId = currentTarget)
    (selectionInvalid "removed Device Part does not match current RMA target")
  match rows.rmas.obligation? rmaId with
  | none => .error (integrityFailure "RMA is missing return-obligation projection")
  | some obligation => do
    requireReturnObligation obligation selection disposition
    return (detail, obligation)

def requireSpareUnit (tables : UnitTables) (sparePartUnitId : String) :
    Except Raised UnitProjection :=
  match tables.projection? sparePartUnitId with
  | some projection => .ok projection
  | none => .error (selectionInvalid "Spare Part Unit does not exist")

/-- `_require_spare_unit` of a unit that may not be named. -/
def requireNamedUnit (tables : UnitTables) (named : Option String) : Except Raised Unit :=
  match named with
  | none => .ok ()
  | some sparePartUnitId => do
    let _ ← requireSpareUnit tables sparePartUnitId
    return ()

/-- The reservation of a unit a consequence uses, released when it is one of the Task. -/
def releaseForConsequence (now : Int) (eventId taskId : String) (reservation : Option String)
    (rows : InventoryRows) : Except Raised InventoryRows :=
  match reservation with
  | none => .ok rows
  | some allocationId =>
    match rows.units.allocation? allocationId with
    | none => .error (selectionInvalid "installed unit is reserved to a different Task")
    | some allocation => do
      ensure (allocation.taskId = taskId)
        (selectionInvalid "installed unit is reserved to a different Task")
      releaseReservation now eventId allocationId allocation.revision rows

/-- `_mark_spare_disposition`. It looks at the reservation of the unit, not at what
has become of the unit. -/
def markSpareDisposition (now : Int) (eventId sparePartUnitId : String)
    (disposition : UnitDisposition) (taskId : String) (rows : InventoryRows) :
    Except Raised InventoryRows := do
  let unit ← requireSpareUnit rows.units sparePartUnitId
  let rows ← releaseForConsequence now eventId taskId unit.activeTaskAllocationId rows
  let unit ← requireSpareUnit rows.units sparePartUnitId
  let projections ← updateOne
    (fun row => row.sparePartUnitId = sparePartUnitId ∧ row.revision = unit.revision)
    (fun row => { row with
      disposition
      activeTaskAllocationId := none
      revision := unit.revision + 1 })
    (invStale "Spare Part Unit changed during consequence") rows.units.projections
  return { rows with units := { rows.units with projections } }

/-- `_mark_spare_disposition` of a unit that may not be named. -/
def markNamedUnit (now : Int) (eventId : String) (named : Option String)
    (disposition : UnitDisposition) (taskId : String) (rows : InventoryRows) :
    Except Raised InventoryRows :=
  match named with
  | none => .ok rows
  | some sparePartUnitId =>
    markSpareDisposition now eventId sparePartUnitId disposition taskId rows

/-- What an accepted consequence is about. -/
structure ConsequenceIntent where
  taskId : String
  taskReviewFingerprint : String
  targetDevicePartUnitId : Option String
  rmaId : Option String
  disposition : Disposition
  units : PhysicalUnits

/-- A device part that exists, with its condition. -/
def requireRemovedDevice (call : InventoryCall) (removed : Option String) : Except Raised Unit :=
  ensure (∀ devicePartUnitId ∈ removed,
      devicePartUnitId ∈ call.surroundings.devicePartUnits.map (·.devicePartUnitId))
    (selectionInvalid "removed Device Part does not exist")

/-- The obligation and the projection of an RMA whose return is selected. -/
def openReturnObligation (consequenceId eventId rmaId : String) (detail : RmaDetail)
    (obligation : ReturnObligation) (selection : ReturnSelection) (tables : RmaTables) :
    Except Raised RmaTables := do
  let obligations ← updateOne
    (fun row => row.rmaId = rmaId ∧ row.obligationState = .notEstablished ∧
      row.revision = obligation.revision)
    (fun row => { row with
      obligationState := .open
      devicePartUnitId := selection.devicePartUnitId
      sparePartUnitId := selection.sparePartUnitId
      physicalConsequenceId := some consequenceId
      revision := obligation.revision + 1
      lastEventId := some eventId })
    (invStale "RMA return obligation changed during consequence") tables.obligations
  updateRmaProjection detail.projection
    (fun row => { row with
      state := .returnOpen
      returnDevicePartUnitId := selection.devicePartUnitId
      returnSparePartUnitId := selection.sparePartUnitId
      returnObligationOpen := true })
    "RMA lifecycle changed during return selection" { tables with obligations }

/-- `_validate_rma_consequence` of a consequence that may not be about an RMA. -/
def validateConsequenceRma (rows : InventoryRows) (intent : ConsequenceIntent)
    (selection : Option ReturnSelection) : Except Raised (Option (RmaDetail × ReturnObligation)) :=
  match intent.rmaId with
  | none => .ok none
  | some rmaId => do
    let authority ← validateRmaConsequence rows rmaId intent.targetDevicePartUnitId
      intent.disposition intent.units selection
    return some authority

/-- The return a consequence of an RMA opens. -/
def selectReturn (consequenceId eventId : String)
    (authority : Option (RmaDetail × ReturnObligation)) (selection : Option ReturnSelection)
    (rows : InventoryRows) : Except Raised InventoryRows :=
  match authority, selection with
  | some (detail, obligation), some selection => do
    let rmas ← openReturnObligation consequenceId eventId detail.rma.rmaId detail obligation
      selection rows.rmas
    rebuildRmaAttention detail.rma.rmaId { rows with rmas }
  | _, _ => .ok rows

def acceptPhysicalConsequence (call : InventoryCall) (intent : ConsequenceIntent)
    (selection : Option ReturnSelection) (rows : InventoryRows) :
    Except Raised InventoryRows := do
  requireNoCurrentTaskConsequence rows.consequences intent.taskId
  let authority ← validateConsequenceRma rows intent selection
  requireNamedUnit rows.units intent.units.installedSparePartUnitId
  requireNamedUnit rows.units intent.units.inboundSparePartUnitId
  requireNamedUnit rows.units intent.units.parentDismantledUnitId
  requireRemovedDevice call intent.units.removedDevicePartUnitId
  let consequenceId := (call.newUuid4 0).value
  let eventId := (call.newUuid4 1).value
  let consequences ← insertKeyed (·.physicalConsequenceId) rows.consequences.consequences
    ⟨consequenceId, intent.taskId, intent.targetDevicePartUnitId, intent.rmaId⟩
  -- The units are marked before the current row is there.
  let rows ← markNamedUnit call.now (call.newUuid4 3).value intent.units.installedSparePartUnitId
    .installed intent.taskId { rows with consequences := { rows.consequences with consequences } }
  let rows ← markNamedUnit call.now (call.newUuid4 4).value intent.units.parentDismantledUnitId
    .dismantled intent.taskId rows
  let current ← insertKeyed (·.physicalConsequenceId) rows.consequences.current
    ⟨consequenceId, intent.taskReviewFingerprint, intent.disposition, intent.units, 1, eventId⟩
  selectReturn consequenceId (call.newUuid4 2).value authority selection
    { rows with consequences := { rows.consequences with current } }

/-- `current_physical_consequence`. -/
structure ConsequenceDetail where
  consequence : PhysicalConsequence
  current : ConsequenceCurrent

/-- `current_physical_consequence`. -/
def ConsequenceTables.detail? (tables : ConsequenceTables) (physicalConsequenceId : String) :
    Option ConsequenceDetail := do
  let consequence ← tables.consequences.find? (·.physicalConsequenceId = physicalConsequenceId)
  let current ← tables.current.find? (·.physicalConsequenceId = physicalConsequenceId)
  return ⟨consequence, current⟩

/-- What replaces the reading of a consequence. -/
structure ConsequenceCorrection where
  physicalConsequenceId : String
  expectedRevision : Nat
  expectedEventId : String
  taskReviewFingerprint : String
  disposition : Disposition
  units : PhysicalUnits

/-- The obligation a correction of a consequence may touch. -/
def requireCorrectableObligation (rmas : RmaTables) (physicalConsequenceId rmaId : String)
    (selection : Option ReturnSelection) : Except Raised ReturnObligation :=
  match rmas.obligation? rmaId with
  | none => .error (integrityFailure "RMA physical consequence lacks return-obligation projection")
  | some obligation =>
    match selection with
    | none => do
      ensure (obligation.obligationState = .notEstablished)
        (inventoryError "CORRECTION_TARGET_INVALID"
          "Correction cannot clear an established return selection in place")
      return obligation
    | some selection => do
      ensure (obligation.obligationState = .open ∧
          obligation.physicalConsequenceId = some physicalConsequenceId)
        (inventoryError "CORRECTION_TARGET_INVALID"
          "Current return obligation does not belong to this consequence")
      ensure (obligation.devicePartUnitId = selection.devicePartUnitId ∧
          obligation.sparePartUnitId = selection.sparePartUnitId)
        (inventoryError "CORRECTION_TARGET_INVALID"
          "Return-unit changes require a separately reviewed replacement workflow")
      return obligation

/-- The obligation after a correction of its consequence. -/
def correctObligation (eventId rmaId : String) (obligation : ReturnObligation)
    (rows : InventoryRows) : Except Raised InventoryRows := do
  ensure (obligation.lastEventId ≠ none)
    (integrityFailure "Open return obligation lacks current selection event")
  let obligations ← updateOne
    (fun row => row.rmaId = rmaId ∧ row.revision = obligation.revision ∧
      row.obligationState = .open ∧ row.lastEventId = obligation.lastEventId)
    (fun row => { row with
      revision := obligation.revision + 1
      lastEventId := some eventId })
    (invStale "Return obligation changed during correction") rows.rmas.obligations
  rebuildRmaAttention rmaId { rows with rmas := { rows.rmas with obligations } }

/-- What `correct_physical_consequence` checks and reads of the RMA. -/
def requireCorrectableReturn (rmas : RmaTables) (physicalConsequenceId : String)
    (rmaId : Option String) (selection : Option ReturnSelection) :
    Except Raised (Option ReturnObligation) :=
  match rmaId with
  | none => .ok none
  | some rmaId => do
    let obligation ← requireCorrectableObligation rmas physicalConsequenceId rmaId selection
    return some obligation

/-- The return a corrected consequence of an RMA had opened. -/
def correctReturn (eventId : String) (obligation : Option ReturnObligation)
    (selection : Option ReturnSelection) (rows : InventoryRows) : Except Raised InventoryRows :=
  match obligation, selection with
  | some obligation, some _ => correctObligation eventId obligation.rmaId obligation rows
  | _, _ => .ok rows

def correctPhysicalConsequence (call : InventoryCall) (correction : ConsequenceCorrection)
    (selection : Option ReturnSelection) (rows : InventoryRows) :
    Except Raised InventoryRows :=
  match rows.consequences.detail? correction.physicalConsequenceId with
  | none => .error (invStale "Physical consequence current authority changed")
  | some detail => do
    ensure (detail.current.revision = correction.expectedRevision ∧
        detail.current.lastEventId = correction.expectedEventId)
      (invStale "Physical consequence current authority changed")
    ensure (detail.current.units = correction.units)
      (inventoryError "CORRECTION_TARGET_INVALID"
        "Physical relationship changes require a separately reviewed replacement workflow")
    ensure (¬ ∃ snapshot ∈ rows.tags.membershipSnapshots, ∃ member ∈ rows.tags.memberships,
        member.faultTagMembershipId = snapshot.faultTagMembershipId ∧
        member.physicalConsequenceId = correction.physicalConsequenceId)
      (inventoryError "CORRECTION_TARGET_INVALID"
        "Submitted Fault Tag history requires a separate replacement workflow")
    let obligation ← requireCorrectableReturn rows.rmas correction.physicalConsequenceId
      detail.consequence.rmaId selection
    let current ← updateOne
      (fun row => row.physicalConsequenceId = correction.physicalConsequenceId ∧
        row.revision = correction.expectedRevision ∧
        row.lastEventId = correction.expectedEventId)
      (fun row => { row with
        taskReviewFingerprint := correction.taskReviewFingerprint
        disposition := correction.disposition
        units := correction.units
        revision := correction.expectedRevision + 1
        lastEventId := (call.newUuid4 0).value })
      (invStale "Physical consequence changed during correction") rows.consequences.current
    correctReturn (call.newUuid4 1).value obligation selection
      { rows with consequences := { rows.consequences with current } }

end Soma.Inventory
