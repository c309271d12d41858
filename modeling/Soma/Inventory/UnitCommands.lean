import Soma.Inventory.Returns

/-!
The commands on Spare Part Units of `inventory/services/needs_stock.py`, the
acceptance and correction of consequences in `consequences_logistics.py` and the
clone of reservations for a retried Task in `participants.py`. What `prepare`
checks and what `apply` then writes run in one transaction.

The event a selection for a Need leaves behind is an event log nothing reads.
-/

namespace Soma.Inventory

open Foundation

/-! ## Registration -/

/-- What a unit is registered with. -/
structure RegistrationIntent where
  origin : UnitOrigin
  bomKey : String
  condition : UnitCondition
  originRmaId : Option String
  parentSparePartUnitId : Option String

/-- `register_spare_part_unit`, with `validate_spare_part_origin`. -/
def registerSparePartUnit (call : InventoryCall) (intent : RegistrationIntent)
    (rows : InventoryRows) : Except Raised InventoryRows := do
  ensure (intent.origin ≠ .directRmaReceipt)
    (validationError "Spare Part Unit origin is invalid for this command")
  requireRegistrationProvenance rows.rmas.rmas rows.units intent.originRmaId intent.origin
    intent.parentSparePartUnitId
  let (allocator, sequence) ← allocateLocalTrackingSequence rows.units
  let units ← insertSparePartUnit { rows.units with allocator }
    ⟨(call.newUuid4 0).value, some sequence, intent.bomKey, intent.origin, intent.originRmaId,
      intent.parentSparePartUnitId⟩ intent.condition
  return { rows with units }

/-- `current_unit` at the revision a command expects. -/
def UnitTables.requireUnitRevision (tables : UnitTables) (sparePartUnitId : String)
    (expectedRevision : Nat) : Except Raised UnitDetail :=
  match tables.currentUnit sparePartUnitId with
  | none => .error (invStale "Spare Part Unit revision changed")
  | some detail => do
    ensure (detail.projection.revision = expectedRevision)
      (invStale "Spare Part Unit revision changed")
    return detail

/-- `correct_inventory_evidence` for a `spare_part_rma_provenance`. -/
def correctRmaProvenance (sparePartUnitId originRmaId : String) (expectedRevision : Nat)
    (rows : InventoryRows) : Except Raised InventoryRows := do
  let detail ← rows.units.requireUnitRevision sparePartUnitId expectedRevision
  ensure (detail.unit.originRmaId = none)
    (inventoryError "CORRECTION_TARGET_INVALID" "Spare Part Unit already has RMA provenance")
  ensure (rows.currentRma originRmaId).isSome (invStale "RMA provenance no longer exists")
  let units ← attachOriginRma rows.rmas.rmas rows.units sparePartUnitId originRmaId expectedRevision
  return { rows with units }

/-! ## Reservations -/

/-- `current_unit` of a unit that was just written. -/
def UnitTables.requireStillThere (tables : UnitTables) (sparePartUnitId message : String) :
    Except Raised Unit :=
  ensure (tables.currentUnit sparePartUnitId).isSome (integrityFailure message)

/-- The Need of a reservation fits the unit, as `prepare` checks it. -/
def requireFittingNeed (call : InventoryCall) (unit : SparePartUnit) (spareNeedId : Option String) :
    Except Raised Unit :=
  match spareNeedId with
  | none => .ok ()
  | some spareNeedId => do
    let need ← requireActiveNeed call spareNeedId none
    requireMatchingBom need unit

def reserveSparePartUnitForTask (call : InventoryCall) (intent : ReservationIntent)
    (rows : InventoryRows) : Except Raised InventoryRows := do
  let detail ← rows.units.requireUnitRevision intent.sparePartUnitId intent.expectedUnitRevision
  requireTaskRevision call intent.taskId intent.expectedTaskRevision
  ensure (intent.sparePartUnitId ∉ rows.units.allocations.map (·.sparePartUnitId))
    (inventoryError "UNIT_ALREADY_RESERVED" "Spare Part Unit is already reserved")
  rows.requireStockEligible intent.sparePartUnitId
  requireFittingNeed call detail.unit intent.spareNeedId
  let after ← reserveForTask call (call.newUuid4 0).value (call.newUuid4 1).value intent rows
  after.units.requireStillThere intent.sparePartUnitId "reserved Spare Part Unit disappeared"
  return after

/-- An event is later by its time, and by its identifier within one second. -/
def AllocationEvent.Later (event other : AllocationEvent) : Prop :=
  other.recordedAtUtc < event.recordedAtUtc ∨
    (other.recordedAtUtc = event.recordedAtUtc ∧ other.allocationEventId < event.allocationEventId)

instance AllocationEvent.laterDecidable (event other : AllocationEvent) :
    Decidable (event.Later other) :=
  inferInstanceAs (Decidable (_ ∨ _ ∧ _))

/-- `latest_allocation_event`: the event the clock puts last. -/
def UnitTables.latestAllocationEvent (tables : UnitTables) (allocationId : String) :
    Option AllocationEvent :=
  (tables.allocationEvents.filter (·.allocationId = allocationId)).foldl
    (fun latest event =>
      match latest with
      | none => some event
      | some other => some (if event.Later other then event else other)) none

/-- `release_spare_part_unit_reservation`; a reservation that is already released is
left alone. -/
def releaseSparePartUnitReservation (call : InventoryCall) (allocationId : String)
    (baseRevision : Nat) (rows : InventoryRows) : Except Raised InventoryRows :=
  match rows.units.allocation? allocationId with
  | none => do
    ensure ((rows.units.latestAllocationEvent allocationId).map (·.eventKind) = some .release)
      (inventoryError "CORRECTION_TARGET_INVALID" "Task reservation is not active")
    return rows
  | some current => do
    ensure (current.revision = baseRevision) (invStale "Task reservation revision changed")
    rows.units.requireStillThere current.sparePartUnitId
      "Task reservation points to missing Spare Part Unit"
    let after ← releaseReservation call.now (call.newUuid4 0).value allocationId baseRevision rows
    after.units.requireStillThere current.sparePartUnitId "released Spare Part Unit disappeared"
    return after

/-- A local unit as it is selected for a Need. -/
structure SelectionIntent where
  spareNeedId : String
  sparePartUnitId : String
  needRevision : Nat
  unitRevision : Nat
  task : Option (String × Nat)

/-- The Task a selection may come with. -/
def requireSelectionTask (call : InventoryCall) (task : Option (String × Nat)) :
    Except Raised Unit :=
  match task with
  | none => .ok ()
  | some (taskId, taskRevision) => requireTaskRevision call taskId taskRevision

/-- The reservation of a selection that comes with a Task. -/
def reserveSelection (call : InventoryCall) (intent : SelectionIntent) (rows : InventoryRows) :
    Except Raised InventoryRows :=
  match intent.task with
  | none => .ok rows
  | some (taskId, taskRevision) =>
    reserveForTask call (call.newUuid4 0).value (call.newUuid4 2).value
      ⟨taskId, intent.sparePartUnitId, some intent.spareNeedId, intent.unitRevision, taskRevision⟩
      rows

def recordLocalNeedFulfillmentSelection (call : InventoryCall) (intent : SelectionIntent)
    (rows : InventoryRows) : Except Raised InventoryRows := do
  let need ← requireActiveNeed call intent.spareNeedId (some intent.needRevision)
  let detail ← rows.units.requireUnitRevision intent.sparePartUnitId intent.unitRevision
  requireMatchingBom need detail.unit
  rows.requireStockEligible intent.sparePartUnitId
  requireSelectionTask call intent.task
  let after ← reserveSelection call intent rows
  after.units.requireStillThere intent.sparePartUnitId "selected Spare Part Unit disappeared"
  return after

/-! ## Retries -/

/-- `status` of a previewed relationship. -/
inductive RetryStatus where
  | missingOrStale
  | eligible
  | individualReview
  deriving DecidableEq

def RetryStatus.text : RetryStatus → String
  | .missingOrStale => "missing_or_stale"
  | .eligible => "eligible"
  | .individualReview => "individual_review"

/-- What a preview shows of a reservation that is there. -/
structure RetryAllocation where
  sparePartUnitId : String
  spareNeedId : Option String
  revision : Nat
  deriving DecidableEq

/-- One relationship of a preview. -/
structure RetryRelationship where
  id : String
  status : RetryStatus
  allocation : Option RetryAllocation
  deriving DecidableEq

/-- The relationship in the document that is hashed. -/
def RetryRelationship.json (relationship : RetryRelationship) : Json :=
  .obj ([("id", .str relationship.id), ("status", .str relationship.status.text)] ++
    match relationship.allocation with
    | none => []
    | some allocation => [
      ("spare_part_unit_id", .str allocation.sparePartUnitId),
      ("spare_need_id", textOrNull allocation.spareNeedId),
      ("revision", .int allocation.revision)])

structure RetryPreview where
  predecessorTaskId : String
  relationships : List RetryRelationship
  inputFingerprint : String

/-- One selected reservation, as it stands. -/
def previewRelationship (predecessorTaskId : String) (rows : InventoryRows)
    (allocationId : String) : RetryRelationship :=
  match rows.units.allocations.find? fun row =>
      row.allocationId = allocationId ∧ row.taskId = predecessorTaskId with
  | none => ⟨allocationId, .missingOrStale, none⟩
  | some row => ⟨allocationId,
      if predecessorTaskId ∈ rows.consequences.consequences.map (·.taskId) then .individualReview
      else .eligible,
      some ⟨row.sparePartUnitId, row.spareNeedId, row.revision⟩⟩

def previewRetryRelationshipClone (python : PythonLibrary) (predecessorTaskId : String)
    (selected : List String) (rows : InventoryRows) : Except Raised RetryPreview := do
  ensure selected.Nodup
    (validationError "selected Inventory retry relationships contain duplicates")
  let relationships := selected.map (previewRelationship predecessorTaskId rows)
  let inputFingerprint ← sha256CanonicalJson python (.obj [
    ("schema", .str "SOMA_INVENTORY_RETRY_CLONE_PREVIEW_V1"),
    ("predecessor_task_id", .str predecessorTaskId),
    ("relationships", .arr (relationships.map RetryRelationship.json))])
  return ⟨predecessorTaskId, relationships, inputFingerprint⟩

/-- One turn of the loop that moves the reservations of a preview. -/
def reassignRelationship (call : InventoryCall) (predecessorTaskId newTaskId : String)
    (rows : InventoryRows) (drawn : String × RetryRelationship) :
    Except Raised InventoryRows :=
  match drawn.2.allocation with
  -- `int(item["revision"])` of a relationship without one.
  | none => .error .other
  | some allocation => do
    let after ← reassignTaskAllocation call drawn.1 drawn.2.id predecessorTaskId newTaskId
      allocation.revision rows
    let moved := (rows.units.allocation? drawn.2.id).map (·.sparePartUnitId)
    ensure (moved.bind after.units.currentUnit).isSome
      (integrityFailure "Retry reassignment lost Spare Part Unit authority")
    return after

def applyRetryRelationshipClone (call : InventoryCall) (preview : RetryPreview)
    (newTaskId : String) (rows : InventoryRows) : Except Raised InventoryRows := do
  ensure (∀ relationship ∈ preview.relationships, relationship.status = .eligible)
    (inventoryError "DEPENDENCY_INDETERMINATE"
      "Selected Inventory retry relationship is not currently eligible")
  let recomputed ← previewRetryRelationshipClone call.python preview.predecessorTaskId
    (preview.relationships.map (·.id)) rows
  ensure (recomputed.inputFingerprint = preview.inputFingerprint ∧
      recomputed.relationships = preview.relationships)
    (invStale "Inventory retry clone preview changed")
  (call.drawFor 0 preview.relationships).foldlM
    (reassignRelationship call preview.predecessorTaskId newTaskId) rows

/-! ## Consequences -/

/-- The reviewed outcome of a Task is still the one that was seen. -/
def requireTaskReview (call : InventoryCall) (taskId taskReviewFingerprint disappeared changed :
    String) : Except Raised Unit :=
  match call.task taskId with
  | none => .error (inventoryError "TASK_REVIEW_STALE" disappeared)
  | some task => do
    ensure task.hasOutcome (inventoryError "TASK_REVIEW_STALE" disappeared)
    ensure (task.reviewFingerprint = taskReviewFingerprint)
      (inventoryError "TASK_REVIEW_STALE" changed)

def acceptInventoryPhysicalConsequence (call : InventoryCall) (intent : ConsequenceIntent)
    (rows : InventoryRows) : Except Raised InventoryRows := do
  let selection ← validateConsequenceShape intent.disposition intent.units
  requireTaskReview call intent.taskId intent.taskReviewFingerprint
    "Reviewed Task outcome disappeared before consequence commit"
    "Task operational review fingerprint changed before consequence commit"
  requireNoCurrentTaskConsequence rows.consequences intent.taskId
  acceptPhysicalConsequence call intent selection rows

def correctInventoryPhysicalConsequence (call : InventoryCall) (correction : ConsequenceCorrection)
    (rows : InventoryRows) : Except Raised InventoryRows := do
  let selection ← validateConsequenceShape correction.disposition correction.units
  match rows.consequences.detail? correction.physicalConsequenceId with
  | none => .error (inventoryError "CORRECTION_TARGET_INVALID" "Physical consequence is missing")
  | some detail => do
    ensure (detail.current.revision = correction.expectedRevision ∧
        detail.current.lastEventId = correction.expectedEventId)
      (invStale "Physical consequence changed")
    ensure ((call.task detail.consequence.taskId).map (·.reviewFingerprint) =
        some correction.taskReviewFingerprint)
      (inventoryError "TASK_REVIEW_STALE" "Task review fingerprint changed")
    correctPhysicalConsequence call correction selection rows

end Soma.Inventory
