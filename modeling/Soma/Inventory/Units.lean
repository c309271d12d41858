import Soma.Inventory.Attention

/-!
`inventory/repositories/units.py`: registration of Spare Part Units, what keeps
a unit out of Stock, and the reservation of units for Tasks.
-/

namespace Soma.Inventory

open Foundation

/-! ## Reads -/

/-- `current_unit`. -/
structure UnitDetail where
  unit : SparePartUnit
  projection : UnitProjection

namespace UnitTables

def projection? (tables : UnitTables) (sparePartUnitId : String) : Option UnitProjection :=
  tables.projections.find? (·.sparePartUnitId = sparePartUnitId)

def currentUnit (tables : UnitTables) (sparePartUnitId : String) : Option UnitDetail := do
  let unit ← tables.units.find? (·.sparePartUnitId = sparePartUnitId)
  let projection ← tables.projection? sparePartUnitId
  return ⟨unit, projection⟩

def allocation? (tables : UnitTables) (allocationId : String) : Option TaskAllocation :=
  tables.allocations.find? (·.allocationId = allocationId)

def directInbound? (tables : UnitTables) (rmaId : String) : Option DirectInboundUnit :=
  tables.directInbound.find? (·.rmaId = rmaId)

end UnitTables

/-! ## Registration -/

/-- A tracking number, and the allocator after it. -/
def allocateTracking (allocator : Option TrackingAllocator) (missing exhausted : String) :
    Except Raised (Option TrackingAllocator × Nat) :=
  match allocator with
  | none => .error (integrityFailure missing)
  | some allocator => do
    ensure (allocator.nextSequence < 100000000) (inventoryError "INV_INVALID_ID" exhausted)
    return (some ⟨allocator.nextSequence + 1, allocator.revision + 1⟩, allocator.nextSequence)

def allocateLocalTrackingSequence (tables : UnitTables) :
    Except Raised (Option TrackingAllocator × Nat) :=
  allocateTracking tables.allocator "Inventory local Spare Part allocator is missing"
    "Local Spare Part Unit sequence is exhausted"

/-- The provenance of an extracted unit. -/
def requireExtractedProvenance (tables : UnitTables) (originRmaId parent : Option String) :
    Except Raised Unit :=
  match originRmaId, parent with
  | some rmaId, some parentId => do
    ensure ((tables.units.find? (·.sparePartUnitId = parentId)).bind (·.originRmaId) = some rmaId)
      (inventoryError "INV_INVALID_ID" "Extracted parent does not own the supplied RMA provenance")
    ensure ((tables.directInbound? rmaId).map (·.sparePartUnitId) = some parentId)
      (inventoryError "INV_INVALID_ID" "Extracted parent is not the RMA direct inbound unit")
  | _, _ => .error (inventoryError "INV_INVALID_ID"
      "Extracted Spare Part Unit requires parent and RMA provenance")

def requireRegistrationProvenance (rmas : List Rma) (tables : UnitTables)
    (originRmaId : Option String) (creationOrigin : UnitOrigin) (parent : Option String) :
    Except Raised Unit :=
  if creationOrigin = .extracted then requireExtractedProvenance tables originRmaId parent
  else do
    ensure (parent = none)
      (inventoryError "INV_INVALID_ID" "Only extracted Spare Part Units may name a parent")
    match originRmaId with
    | none => return ()
    | some rmaId => do
      ensure (creationOrigin = .reviewedReconciliation)
        (inventoryError "INV_INVALID_ID"
          "RMA provenance is accepted here only through reviewed reconciliation")
      ensure (rmaId ∈ rmas.map (·.rmaId)) (invStale "RMA provenance no longer exists")
      ensure (rmaId ∉ tables.directInbound.map (·.rmaId))
        (inventoryError "STOCK_NOT_ELIGIBLE" "RMA already owns a direct inbound physical unit")

def insertSparePartUnit (tables : UnitTables) (unit : SparePartUnit) (condition : UnitCondition) :
    Except Raised UnitTables := do
  let units ← insertKeyed (·.sparePartUnitId) tables.units unit
  let projections ← insertKeyed (·.sparePartUnitId) tables.projections
    ⟨unit.sparePartUnitId, condition, condition.initialDisposition, none, 1⟩
  return { tables with units, projections }

def attachOriginRma (rmas : List Rma) (tables : UnitTables) (sparePartUnitId originRmaId : String)
    (expectedRevision : Nat) : Except Raised UnitTables :=
  match tables.currentUnit sparePartUnitId with
  | none => .error (invStale "Spare Part Unit revision changed")
  | some detail => do
    ensure (detail.projection.revision = expectedRevision)
      (invStale "Spare Part Unit revision changed")
    ensure (detail.unit.originRmaId = none)
      (inventoryError "CORRECTION_TARGET_INVALID" "Spare Part Unit already has RMA provenance")
    ensure (originRmaId ∈ rmas.map (·.rmaId)) (invStale "RMA provenance no longer exists")
    let units ← updateOne
      (fun row => row.sparePartUnitId = sparePartUnitId ∧ row.originRmaId = none)
      (fun row => { row with originRmaId := some originRmaId })
      (invStale "Spare Part Unit provenance changed") tables.units
    let projections ← updateOne
      (fun row => row.sparePartUnitId = sparePartUnitId ∧ row.revision = expectedRevision)
      (fun row => { row with revision := expectedRevision + 1 })
      (invStale "Spare Part Unit projection changed") tables.projections
    return { tables with units, projections }

/-! ## Stock -/

/-- One entry of `stock_blockers`. -/
inductive StockBlocker where
  | missing
  | condition (token : UnitCondition)
  | disposition (token : UnitDisposition)
  | activeTaskAllocation
  | openReturnObligation
  | installedPhysicalConsequence

def StockBlocker.text : StockBlocker → String
  | .missing => "missing"
  | .condition token => "condition:" ++ token.text
  | .disposition token => "disposition:" ++ token.text
  | .activeTaskAllocation => "active_task_allocation"
  | .openReturnObligation => "open_return_obligation"
  | .installedPhysicalConsequence => "installed_physical_consequence"

/-- `rma_return_obligation_current` holds the unit back. -/
def ReturnObligation.Holds (obligation : ReturnObligation) (sparePartUnitId : String) : Prop :=
  obligation.obligationState = .open ∧ obligation.sparePartUnitId = some sparePartUnitId

instance ReturnObligation.holdsDecidable (obligation : ReturnObligation)
    (sparePartUnitId : String) : Decidable (obligation.Holds sparePartUnitId) :=
  inferInstanceAs (Decidable (_ ∧ _))

/-- A current physical consequence installed the unit. -/
def ConsequenceTables.Installed (tables : ConsequenceTables) (sparePartUnitId : String) : Prop :=
  ∃ row ∈ tables.current, row.units.installedSparePartUnitId = some sparePartUnitId

instance ConsequenceTables.installedDecidable (tables : ConsequenceTables)
    (sparePartUnitId : String) : Decidable (tables.Installed sparePartUnitId) :=
  inferInstanceAs (Decidable (∃ _ ∈ _, _))

def composeStockBlockers (projection : UnitProjection)
    (hasTaskAllocation hasOpenReturnObligation hasInstalledPhysicalConsequence : Bool) :
    List StockBlocker :=
  (if projection.condition.isStock then [] else [.condition projection.condition]) ++
  (if projection.disposition ≠ .available then [.disposition projection.disposition] else []) ++
  (if projection.activeTaskAllocationId ≠ none ∨ hasTaskAllocation then [.activeTaskAllocation]
    else []) ++
  (if hasOpenReturnObligation then [.openReturnObligation] else []) ++
  (if hasInstalledPhysicalConsequence then [.installedPhysicalConsequence] else [])

def InventoryRows.stockBlockers (rows : InventoryRows) (sparePartUnitId : String) :
    List StockBlocker :=
  match rows.units.projection? sparePartUnitId with
  | none => [.missing]
  | some projection => composeStockBlockers projection
      (∃ row ∈ rows.units.allocations, row.sparePartUnitId = sparePartUnitId)
      (∃ obligation ∈ rows.rmas.obligations, obligation.Holds sparePartUnitId)
      (rows.consequences.Installed sparePartUnitId)

/-! ## Reservations -/

def requireTaskRevision (call : InventoryCall) (taskId : String) (expectedRevision : Nat) :
    Except Raised Unit :=
  match call.task taskId with
  | none => .error (invStale "Task no longer exists")
  | some task => ensure (task.revision = expectedRevision) (invStale "Task revision changed")

def requireActiveNeed (call : InventoryCall) (spareNeedId : String)
    (expectedRevision : Option Nat) : Except Raised NeedReference :=
  match call.need spareNeedId with
  | none => .error (invStale "Spare Need no longer exists")
  | some need => do
    ensure (expectedRevision = none ∨ expectedRevision = some need.revision)
      (invStale "Spare Need revision changed")
    ensure (need.lifecycleState = "active")
      (inventoryError "STOCK_NOT_ELIGIBLE" "Spare Need is not active")
    return need

/-- The unit fits the selected Need. -/
def requireMatchingBom (need : NeedReference) (unit : SparePartUnit) : Except Raised Unit :=
  ensure (need.bomKey = unit.bomKey)
    (inventoryError "STOCK_NOT_ELIGIBLE" "Spare Part Unit BOM does not match selected Spare Need")

/-- What `reserve_for_task` checks of the selected Need. -/
def requireNeedForUnit (call : InventoryCall) (taskId : String) (unit : SparePartUnit)
    (spareNeedId : Option String) : Except Raised Unit :=
  match spareNeedId with
  | none => .ok ()
  | some spareNeedId => do
    let need ← requireActiveNeed call spareNeedId none
    requireMatchingBom need unit
    let linked := ((call.task taskId).map (·.serviceRequestIds)).getD []
    ensure (linked = [] ∨ need.serviceRequestId ∈ linked)
      (inventoryError "NEED_CROSS_SR" "Task and Spare Need Service Request context differ")

/-- The unit is eligible for Stock. -/
def InventoryRows.requireStockEligible (rows : InventoryRows) (sparePartUnitId : String) :
    Except Raised Unit :=
  let blockers := rows.stockBlockers sparePartUnitId
  ensure (blockers = [])
    (inventoryError "STOCK_NOT_ELIGIBLE" ("Spare Part Unit is not Stock eligible: " ++
      String.intercalate "," (blockers.map (·.text))))

/-- `current_unit` at the revision a caller expects. -/
def UnitTables.requireUnitAt (tables : UnitTables) (sparePartUnitId : String)
    (expectedRevision : Nat) : Except Raised UnitDetail :=
  match tables.currentUnit sparePartUnitId with
  | none => .error (invStale "Spare Part Unit no longer exists")
  | some detail => do
    ensure (detail.projection.revision = expectedRevision)
      (invStale "Spare Part Unit revision changed")
    return detail

/-- A reservation as it is asked for. -/
structure ReservationIntent where
  taskId : String
  sparePartUnitId : String
  spareNeedId : Option String
  expectedUnitRevision : Nat
  expectedTaskRevision : Nat

/-- The writes of `reserve_for_task`. -/
def writeReservation (allocationId eventId : String) (now : Int) (intent : ReservationIntent)
    (tables : UnitTables) : Except Raised UnitTables := do
  let allocationEvents ← insertKeyed (·.allocationEventId) tables.allocationEvents
    ⟨eventId, allocationId, intent.taskId, intent.sparePartUnitId, intent.spareNeedId, .reserve,
      none, none, now⟩
  -- The unit of a reservation is unique too.
  ensure (intent.sparePartUnitId ∉ tables.allocations.map (·.sparePartUnitId)) .other
  let allocations ← insertKeyed (·.allocationId) tables.allocations
    ⟨allocationId, intent.taskId, intent.sparePartUnitId, intent.spareNeedId, 1, eventId⟩
  let projections ← updateOne
    (fun row => row.sparePartUnitId = intent.sparePartUnitId ∧
      row.revision = intent.expectedUnitRevision ∧ row.activeTaskAllocationId = none)
    (fun row => { row with
      disposition := .reserved
      activeTaskAllocationId := some allocationId
      revision := intent.expectedUnitRevision + 1 })
    (invStale "Spare Part Unit projection changed during reservation") tables.projections
  return { tables with allocationEvents, allocations, projections }

def reserveForTask (call : InventoryCall) (allocationId eventId : String)
    (intent : ReservationIntent) (rows : InventoryRows) : Except Raised InventoryRows := do
  requireTaskRevision call intent.taskId intent.expectedTaskRevision
  let detail ← rows.units.requireUnitAt intent.sparePartUnitId intent.expectedUnitRevision
  ensure (intent.sparePartUnitId ∉ rows.units.allocations.map (·.sparePartUnitId))
    (inventoryError "UNIT_ALREADY_RESERVED" "Spare Part Unit is already reserved")
  rows.requireStockEligible intent.sparePartUnitId
  requireNeedForUnit call intent.taskId detail.unit intent.spareNeedId
  let units ← writeReservation allocationId eventId call.now intent rows.units
  return { rows with units }

/-- The reservation of a unit and the unit it names, which must agree. -/
def UnitTables.requireAgreement (tables : UnitTables) (allocationId : String)
    (current : TaskAllocation) (missing disagrees : String) : Except Raised UnitDetail :=
  match tables.currentUnit current.sparePartUnitId with
  | none => .error (integrityFailure missing)
  | some detail => do
    ensure (detail.projection.activeTaskAllocationId = some allocationId)
      (integrityFailure disagrees)
    return detail

/-- The writes of `release_reservation`. -/
def writeRelease (eventId : String) (now : Int) (current : TaskAllocation)
    (expectedAllocationRevision : Nat) (projection : UnitProjection) (tables : UnitTables) :
    Except Raised UnitTables := do
  let allocationEvents ← insertKeyed (·.allocationEventId) tables.allocationEvents
    ⟨eventId, current.allocationId, current.taskId, current.sparePartUnitId, current.spareNeedId,
      .release, none, some current.lastEventId, now⟩
  let released (row : TaskAllocation) : Bool :=
    row.allocationId = current.allocationId ∧ row.revision = expectedAllocationRevision
  ensure (tables.allocations.countP released = 1)
    (invStale "Task reservation changed during release")
  let projections ← updateOne
    (fun row => row.sparePartUnitId = current.sparePartUnitId ∧
      row.revision = projection.revision ∧
      row.activeTaskAllocationId = some current.allocationId)
    (fun row => { row with
      disposition := projection.condition.initialDisposition
      activeTaskAllocationId := none
      revision := projection.revision + 1 })
    (invStale "Spare Part Unit projection changed during release") tables.projections
  return { tables with
    allocationEvents
    allocations := tables.allocations.filter fun row => ¬ released row
    projections }

def releaseReservation (now : Int) (eventId allocationId : String)
    (expectedAllocationRevision : Nat) (rows : InventoryRows) : Except Raised InventoryRows :=
  match rows.units.allocation? allocationId with
  | none => .error (inventoryError "CORRECTION_TARGET_INVALID" "Task reservation is not active")
  | some current => do
    ensure (current.revision = expectedAllocationRevision)
      (invStale "Task reservation revision changed")
    ensure (¬ rows.consequences.Installed current.sparePartUnitId)
      (inventoryError "CORRECTION_TARGET_INVALID"
        "Task reservation is protected by accepted physical consequence")
    let detail ← rows.units.requireAgreement allocationId current
      "Task reservation points to missing Spare Part Unit"
      "Spare Part Unit projection disagrees with current reservation"
    let units ← writeRelease eventId now current expectedAllocationRevision detail.projection
      rows.units
    return { rows with units }

/-- The writes of `reassign_task_allocation`. -/
def writeReassignment (eventId : String) (now : Int) (current : TaskAllocation) (newTaskId : String)
    (tables : UnitTables) : Except Raised UnitTables := do
  let allocationEvents ← insertKeyed (·.allocationEventId) tables.allocationEvents
    ⟨eventId, current.allocationId, newTaskId, current.sparePartUnitId, current.spareNeedId,
      .reassign, some current.taskId, some current.lastEventId, now⟩
  let allocations ← updateOne
    (fun row => row.allocationId = current.allocationId ∧ row.taskId = current.taskId ∧
      row.revision = current.revision ∧ row.lastEventId = current.lastEventId)
    (fun row => { row with
      taskId := newTaskId
      revision := current.revision + 1
      lastEventId := eventId })
    (invStale "Retry allocation changed during reassignment") tables.allocations
  return { tables with allocationEvents, allocations }

def reassignTaskAllocation (call : InventoryCall)
    (eventId allocationId predecessorTaskId newTaskId : String) (expectedAllocationRevision : Nat)
    (rows : InventoryRows) : Except Raised InventoryRows :=
  match rows.units.allocation? allocationId with
  | none => .error (invStale "Selected retry allocation is no longer current")
  | some current => do
    ensure (current.taskId = predecessorTaskId ∧ current.revision = expectedAllocationRevision)
      (invStale "Selected retry allocation changed")
    ensure (call.task newTaskId).isSome (invStale "Retry successor Task is missing")
    ensure (predecessorTaskId ∉ rows.consequences.consequences.map (·.taskId))
      (inventoryError "CORRECTION_TARGET_INVALID"
        "Inventory allocation is protected by predecessor physical-consequence history")
    let _ ← rows.units.requireAgreement allocationId current
      "Retry allocation points to missing Spare Part Unit"
      "Spare Part Unit projection disagrees with retry allocation"
    let units ← writeReassignment eventId call.now current newTaskId rows.units
    return { rows with units }

end Soma.Inventory
