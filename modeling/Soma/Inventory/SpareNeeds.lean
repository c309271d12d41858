import Soma.Inventory.SpareRequests

/-!
`inventory/repositories/needs.py` and the commands of
`inventory/services/needs_stock.py` that write Spare Needs, with the deletion of
an untouched one in `inventory/services/hard_delete.py`.

Service Requests, device references, Spare Requests and fulfilments are written
elsewhere and come with the call, as do the texts the services have accepted:
part codes with their keys and reason codes. A part's condition history, its
serial and its slot, attention and the fingerprints of a Need are left out.
-/

namespace Soma.Inventory

open Foundation Transaction Rows

/-! ## Tables -/

/-- `lifecycle_state` of a Need. -/
inductive NeedState where
  | active
  | resolved
  | cancelled
  | removed
  deriving DecidableEq

/-- `creation_origin` of a Need. -/
inductive NeedOrigin where
  | manual
  | systemAggregate
  deriving DecidableEq

/-- `event_kind` of `spare_need_lifecycle_events`. -/
inductive NeedEventKind where
  | created
  | plannedQuantityChanged
  | resolved
  | cancelled
  | reactivated
  | historyRemoved
  deriving DecidableEq

structure SpareNeedRow where
  spareNeedId : String
  serviceRequestId : String
  bomCode : String
  bomKey : String
  plannedQuantity : Nat
  creationOrigin : NeedOrigin
  deriving DecidableEq

/-- A row of `spare_need_lifecycle_events`. -/
structure NeedEvent where
  needEventId : String
  spareNeedId : String
  eventKind : NeedEventKind
  plannedQuantity : Option Nat
  reasonCode : Option String
  deriving DecidableEq

/-- A row of `spare_need_current_projection`. -/
structure NeedProjection where
  spareNeedId : String
  lifecycleState : NeedState
  plannedQuantity : Nat
  contributorCount : Nat
  revision : Nat
  deriving DecidableEq

/-- A row of `spare_need_active_keys`. -/
structure ActiveKey where
  serviceRequestId : String
  bomKey : String
  spareNeedId : String
  deriving DecidableEq

/-- A row of `spare_need_contributors`. -/
structure NeedContributor where
  contributorRelationshipId : String
  spareNeedId : String
  devicePartUnitId : String
  active : Bool
  deriving DecidableEq

/-- The tables of Spare Needs, and the device parts registered with them. -/
structure NeedTables where
  allocator : Option TrackingAllocator
  deviceParts : List DevicePartUnit
  needs : List SpareNeedRow
  events : List NeedEvent
  projections : List NeedProjection
  activeKeys : List ActiveKey
  contributors : List NeedContributor

def ActiveKey.pair (key : ActiveKey) : String × String := (key.serviceRequestId, key.bomKey)

/-- The row of `spare_need_active_keys` that makes a Need the active one of its pair. -/
def SpareNeedRow.key (need : SpareNeedRow) : ActiveKey :=
  ⟨need.serviceRequestId, need.bomKey, need.spareNeedId⟩

/-- The devices of active contributor rows, as `idx_inv_008` has them. -/
def activeDevices (contributors : List NeedContributor) : List String :=
  (contributors.filter (·.active)).map (·.devicePartUnitId)

namespace NeedTables

variable (tables : NeedTables)

def need? (spareNeedId : String) : Option SpareNeedRow :=
  tables.needs.find? (·.spareNeedId = spareNeedId)

def projection? (spareNeedId : String) : Option NeedProjection :=
  tables.projections.find? (·.spareNeedId = spareNeedId)

/-- `spare_needs JOIN spare_need_current_projection`. -/
def joined? (spareNeedId : String) : Option (SpareNeedRow × NeedProjection) := do
  let need ← tables.need? spareNeedId
  let projection ← tables.projection? spareNeedId
  return (need, projection)

def activeNeedFor (serviceRequestId bomKey : String) : Option (SpareNeedRow × NeedProjection) := do
  let key ← tables.activeKeys.find? (·.pair = (serviceRequestId, bomKey))
  tables.joined? key.spareNeedId

def activeContributors (spareNeedId : String) : List String :=
  ((tables.contributors.filter fun row => row.spareNeedId = spareNeedId ∧ row.active).map
    (·.devicePartUnitId)).insertionSort (· ≤ ·)

/-- `UPDATE spare_need_current_projection … WHERE spare_need_id=?`. -/
def updateProjection (spareNeedId : String) (change : NeedProjection → NeedProjection) :
    List NeedProjection :=
  tables.projections.map fun row => if row.spareNeedId = spareNeedId then change row else row

end NeedTables

/-! ## Statements -/

/-- `INSERT INTO spare_need_active_keys`: the pair is the key and the Need is unique. -/
def insertActiveKey (rows : List ActiveKey) (row : ActiveKey) : Except Raised (List ActiveKey) := do
  ensure (row.spareNeedId ∉ rows.map (·.spareNeedId)) .other
  insertKeyed ActiveKey.pair rows row

/-- `INSERT INTO spare_need_contributors`: a device has one active row. -/
def insertContributor (rows : List NeedContributor) (row : NeedContributor) :
    Except Raised (List NeedContributor) := do
  ensure (row.active = true → row.devicePartUnitId ∉ activeDevices rows) .other
  insertKeyed (·.contributorRelationshipId) rows row

/-! ## What a call reads elsewhere -/

structure NeedSurroundings where
  serviceRequestExists : String → Bool
  deviceReferenceExists : String → Bool
  /-- An active row of `sr_device_reference_links`, by Service Request and device. -/
  deviceLinkActive : String → String → Bool
  allocations : List NeedAllocation
  requests : List RequestProjection
  /-- The Needs of `local_need_fulfillment_events`. -/
  locallyFulfilled : List String
  /-- The Needs of `task_unit_allocation_events`. -/
  taskAllocated : List String

/-- What a call brings along: the surroundings and the identifiers `new_uuid4` returns in turn. -/
structure NeedCall where
  surroundings : NeedSurroundings
  newUuid4 : Nat → String

def requireServiceRequest (surroundings : NeedSurroundings) (serviceRequestId : String) :
    Except Raised Unit :=
  ensure (surroundings.serviceRequestExists serviceRequestId)
    (invStale "Service Request no longer exists")

def requireSrDeviceContext (surroundings : NeedSurroundings)
    (serviceRequestId deviceReferenceId : String) : Except Raised Unit := do
  requireServiceRequest surroundings serviceRequestId
  ensure (surroundings.deviceReferenceExists deviceReferenceId)
    (invStale "Device Reference no longer exists")
  ensure (surroundings.deviceLinkActive serviceRequestId deviceReferenceId)
    (invStale "Device Reference is not active in the Service Request context")

def requestDependencyStates (surroundings : NeedSurroundings) (spareNeedId : String) :
    Except Raised (List RequestState) :=
  let rows := ((surroundings.allocations.filter (·.spareNeedId = spareNeedId)).map
    fun allocation => (allocation.spareRequestId,
      (surroundings.requests.find? (·.spareRequestId = allocation.spareRequestId)).map
        (·.lifecycleState))).dedup
  rows.mapM fun row =>
    match row.2 with
    | none =>
      .error (inventoryError "DEPENDENCY_INDETERMINATE" "Spare Request state cannot be proven")
    | some state => .ok state

/-! ## Device parts -/

/-- `allocate_device_part_creation_sequence`. -/
def allocateDevicePartSequence (tables : NeedTables) : Except Raised (NeedTables × Nat) :=
  match tables.allocator with
  | none => .error (integrityFailure "Inventory Device Part allocator is missing")
  | some row => do
    ensure (row.nextSequence < 100000000)
      (inventoryError "INV_INVALID_ID" "Device Part creation sequence is exhausted")
    return ({ tables with allocator := some ⟨row.nextSequence + 1, row.revision + 1⟩ },
      row.nextSequence)

def insertDevicePart (tables : NeedTables)
    (devicePartUnitId serviceRequestId bomKey : String) (creationSequence : Nat) :
    Except Raised NeedTables := do
  ensure (creationSequence ∉ tables.deviceParts.map (·.creationSequence)) .other
  let deviceParts ← insertKeyed (·.devicePartUnitId) tables.deviceParts
    ⟨devicePartUnitId, serviceRequestId, bomKey, creationSequence⟩
  return { tables with deviceParts }

/-! ## Needs -/

def createManualNeed (call : NeedCall) (tables : NeedTables)
    (spareNeedId serviceRequestId bomCode bomKey : String) (plannedQuantity : Nat) :
    Except Raised NeedTables := do
  requireServiceRequest call.surroundings serviceRequestId
  ensure (tables.activeNeedFor serviceRequestId bomKey = none)
    (invStale "Another active Need already owns this SR/BOM key")
  let needs ← insertKeyed (·.spareNeedId) tables.needs
    ⟨spareNeedId, serviceRequestId, bomCode, bomKey, plannedQuantity, .manual⟩
  let events ← insertKeyed (·.needEventId) tables.events
    ⟨call.newUuid4 1, spareNeedId, .created, some plannedQuantity, none⟩
  let activeKeys ← insertActiveKey tables.activeKeys ⟨serviceRequestId, bomKey, spareNeedId⟩
  let projections ← insertKeyed (·.spareNeedId) tables.projections
    ⟨spareNeedId, .active, plannedQuantity, 0, 1⟩
  return { tables with needs, events, activeKeys, projections }

/-- `create_need_with_contributor`; its three identifiers follow those of the part. -/
def createNeedWithContributor (call : NeedCall) (tables : NeedTables)
    (serviceRequestId bomCode bomKey devicePartUnitId : String) : Except Raised NeedTables := do
  let spareNeedId := call.newUuid4 3
  let needs ← insertKeyed (·.spareNeedId) tables.needs
    ⟨spareNeedId, serviceRequestId, bomCode, bomKey, 1, .systemAggregate⟩
  let events ← insertKeyed (·.needEventId) tables.events
    ⟨call.newUuid4 4, spareNeedId, .created, some 1, none⟩
  let activeKeys ← insertActiveKey tables.activeKeys ⟨serviceRequestId, bomKey, spareNeedId⟩
  let contributors ← insertContributor tables.contributors
    ⟨call.newUuid4 5, spareNeedId, devicePartUnitId, true⟩
  let projections ← insertKeyed (·.spareNeedId) tables.projections
    ⟨spareNeedId, .active, 1, 1, 1⟩
  return { tables with needs, events, activeKeys, contributors, projections }

def addContributor (call : NeedCall) (tables : NeedTables)
    (spareNeedId serviceRequestId bomKey devicePartUnitId : String) : Except Raised NeedTables :=
  match tables.joined? spareNeedId with
  | none => .error (invStale "Spare Need disappeared")
  | some (need, projection) => do
    ensure (need.serviceRequestId = serviceRequestId ∧ need.bomKey = bomKey)
      (inventoryError "NEED_CROSS_SR" "Need aggregation target does not match SR/BOM")
    ensure (projection.lifecycleState = .active) (invStale "Spare Need is no longer active")
    match tables.contributors.find?
        fun row => row.devicePartUnitId = devicePartUnitId ∧ row.active with
    | some other =>
      if other.spareNeedId = spareNeedId then
        .error (integrityFailure "new Device Part unexpectedly already contributes to its Need")
      else
        .error (inventoryError "NEED_CROSS_SR"
          "Device Part already contributes to another active Need")
    | none => do
      let contributors ← insertContributor tables.contributors
        ⟨call.newUuid4 3, spareNeedId, devicePartUnitId, true⟩
      let tables := { tables with contributors }
      let contributorCount := (tables.activeContributors spareNeedId).length
      return { tables with
        projections := tables.updateProjection spareNeedId fun row =>
          { row with contributorCount, revision := projection.revision + 1 } }

def changePlannedQuantity (call : NeedCall) (tables : NeedTables) (spareNeedId : String)
    (baseRevision plannedQuantity : Nat) (reasonCode : String) : Except Raised NeedTables :=
  match tables.projection? spareNeedId with
  | none => .error (invStale "Spare Need revision changed")
  | some projection => do
    ensure (projection.revision = baseRevision) (invStale "Spare Need revision changed")
    ensure (projection.plannedQuantity ≠ plannedQuantity)
      (integrityFailure "semantic NO_CHANGE must be handled before repository mutation")
    let events ← insertKeyed (·.needEventId) tables.events
      ⟨call.newUuid4 0, spareNeedId, .plannedQuantityChanged, some plannedQuantity,
        some reasonCode⟩
    return { tables with
      events
      projections := tables.updateProjection spareNeedId fun row =>
        { row with plannedQuantity, revision := baseRevision + 1 } }

/-- `action` of a lifecycle change. -/
inductive NeedAction where
  | resolve
  | cancel
  | reactivate
  | historyRemove

/-- The state an action leads to. -/
def NeedAction.target : NeedAction → NeedState
  | .resolve => .resolved
  | .cancel => .cancelled
  | .reactivate => .active
  | .historyRemove => .removed

def NeedAction.eventKind : NeedAction → NeedEventKind
  | .resolve => .resolved
  | .cancel => .cancelled
  | .reactivate => .reactivated
  | .historyRemove => .historyRemoved

/-- `allowed_actions`. -/
def NeedState.allows : NeedState → NeedAction → Bool
  | .active, .resolve | .active, .cancel => true
  | .resolved, .reactivate | .resolved, .historyRemove => true
  | .cancelled, .reactivate | .cancelled, .historyRemove => true
  | _, _ => false

/-- What `change_lifecycle` asks of an action in the current state. -/
def checkLifecycle (call : NeedCall) (tables : NeedTables) (need : SpareNeedRow)
    (current : NeedState) (action : NeedAction) : Except Raised Unit := do
  ensure (current ≠ action.target)
    (integrityFailure "semantic NO_CHANGE must be rejected before repository mutation")
  match action with
  | .resolve | .cancel =>
    ensure (current = .active) (invStale "Need lifecycle action requires current active state")
  | .reactivate =>
    ensure (current = .resolved ∨ current = .cancelled)
      (invStale "Only resolved or cancelled Needs may reactivate")
    ensure (∀ key ∈ tables.activeKeys,
        key.pair = need.key.pair → key.spareNeedId = need.spareNeedId)
      (invStale "Another active Need owns this SR/BOM key")
  | .historyRemove =>
    ensure (current = .resolved ∨ current = .cancelled)
      (invStale "Only resolved or cancelled Needs may be history removed")
    let states ← requestDependencyStates call.surroundings need.spareNeedId
    ensure (∀ state ∈ states, state.isTerminal)
      (inventoryError "NEED_DELETE_BLOCKED" "Need has a nonterminal Spare Request dependency")

/-- The key rows after a lifecycle change. -/
def moveActiveKey (activeKeys : List ActiveKey) (need : SpareNeedRow) (current target : NeedState) :
    Except Raised (List ActiveKey) :=
  if current = .active ∧ target ≠ .active then do
    ensure (activeKeys.countP (· = need.key) = 1) (invStale "Active Need key changed")
    return activeKeys.filter (· ≠ need.key)
  else if current ≠ .active ∧ target = .active then
    insertActiveKey activeKeys need.key
  else
    return activeKeys

def changeLifecycle (call : NeedCall) (tables : NeedTables) (spareNeedId : String)
    (baseRevision : Nat) (action : NeedAction) (reasonCode : String) : Except Raised NeedTables :=
  match tables.joined? spareNeedId with
  | none => .error (invStale "Spare Need revision changed")
  | some (need, projection) => do
    ensure (projection.revision = baseRevision) (invStale "Spare Need revision changed")
    checkLifecycle call tables need projection.lifecycleState action
    let events ← insertKeyed (·.needEventId) tables.events
      ⟨call.newUuid4 0, spareNeedId, action.eventKind, none, some reasonCode⟩
    let activeKeys ← moveActiveKey tables.activeKeys need projection.lifecycleState action.target
    return { tables with
      events
      activeKeys
      projections := tables.updateProjection spareNeedId fun row =>
        { row with lifecycleState := action.target, revision := baseRevision + 1 } }

/-! ## Commands -/

def validatePlannedQuantity (plannedQuantity : Nat) : Except Raised Unit :=
  ensure (1 ≤ plannedQuantity ∧ plannedQuantity ≤ 1000000)
    (validationError "planned_quantity must be a positive whole quantity <= 1000000")

def validateBaseRevision (baseRevision : Nat) : Except Raised Unit :=
  ensure (0 < baseRevision) (validationError "base_revision must be positive")

def createSpareNeedDraft (call : NeedCall) (serviceRequestId bomCode bomKey : String)
    (plannedQuantity : Nat) (tables : NeedTables) : Except Raised NeedTables := do
  validatePlannedQuantity plannedQuantity
  requireServiceRequest call.surroundings serviceRequestId
  ensure (tables.activeNeedFor serviceRequestId bomKey = none)
    (invStale "Another active Need already owns this SR/BOM key")
  createManualNeed call tables (call.newUuid4 0) serviceRequestId bomCode bomKey plannedQuantity

/-- `register_device_part_unit`; `faulty` is whether the condition is. -/
def registerDevicePartUnit (call : NeedCall)
    (serviceRequestId deviceReferenceId bomCode bomKey : String) (faulty : Bool)
    (tables : NeedTables) : Except Raised NeedTables := do
  requireSrDeviceContext call.surroundings serviceRequestId deviceReferenceId
  let (tables, sequence) ← allocateDevicePartSequence tables
  let devicePartUnitId := call.newUuid4 0
  let tables ← insertDevicePart tables devicePartUnitId serviceRequestId bomKey sequence
  if faulty then
    match tables.activeNeedFor serviceRequestId bomKey with
    | none => createNeedWithContributor call tables serviceRequestId bomCode bomKey devicePartUnitId
    | some (need, _) =>
      addContributor call tables need.spareNeedId serviceRequestId bomKey devicePartUnitId
  else return tables

/-- `set_spare_need_planned_quantity`; a quantity that is already so is left alone. -/
def setSpareNeedPlannedQuantity (call : NeedCall) (spareNeedId : String)
    (baseRevision plannedQuantity : Nat) (reasonCode : String) (tables : NeedTables) :
    Except Raised NeedTables := do
  validateBaseRevision baseRevision
  validatePlannedQuantity plannedQuantity
  match tables.joined? spareNeedId with
  | none => .error (invStale "Spare Need revision changed")
  | some (_, projection) => do
    ensure (projection.revision = baseRevision) (invStale "Spare Need revision changed")
    if projection.plannedQuantity = plannedQuantity then return tables
    else changePlannedQuantity call tables spareNeedId baseRevision plannedQuantity reasonCode

def changeSpareNeedLifecycle (call : NeedCall) (spareNeedId : String) (baseRevision : Nat)
    (action : NeedAction) (reasonCode : String) (tables : NeedTables) :
    Except Raised NeedTables := do
  validateBaseRevision baseRevision
  match tables.joined? spareNeedId with
  | none => .error (invStale "Spare Need revision changed")
  | some (_, projection) => do
    ensure (projection.revision = baseRevision) (invStale "Spare Need revision changed")
    ensure (projection.lifecycleState.allows action)
      (invStale "Spare Need lifecycle action is incompatible with current state")
    changeLifecycle call tables spareNeedId baseRevision action reasonCode

/-- The blockers `classify_hard_delete` finds of a Need. -/
def hardDeleteBlockers (surroundings : NeedSurroundings) (tables : NeedTables)
    (need : SpareNeedRow) (projection : NeedProjection) : List String :=
  let spareNeedId := need.spareNeedId
  let checks : List (Bool × String) := [
    (need.creationOrigin ≠ .manual, "non_manual_origin"),
    (projection.lifecycleState ≠ .active, "lifecycle_history"),
    (projection.contributorCount ≠ 0, "contributors"),
    (tables.contributors.any (·.spareNeedId = spareNeedId), "contributors"),
    (surroundings.allocations.any (·.spareNeedId = spareNeedId), "request_allocations"),
    (surroundings.locallyFulfilled.contains spareNeedId, "local_fulfillment"),
    (surroundings.taskAllocated.contains spareNeedId, "task_allocation_history"),
    (tables.events.countP (·.spareNeedId = spareNeedId) ≠ 1, "protected_lifecycle_history")]
  (checks.filter (·.1)).map (·.2)

def NeedTables.deleteNeed (tables : NeedTables) (spareNeedId : String) : NeedTables :=
  { tables with
    activeKeys := tables.activeKeys.filter (·.spareNeedId ≠ spareNeedId)
    projections := tables.projections.filter (·.spareNeedId ≠ spareNeedId)
    events := tables.events.filter (·.spareNeedId ≠ spareNeedId)
    needs := tables.needs.filter (·.spareNeedId ≠ spareNeedId) }

/-- `hard_delete_untouched_inventory_draft` of a Need; the caller's preview must still stand. -/
def hardDeleteUntouchedNeed (call : NeedCall) (spareNeedId : String) (expectedRevision : Nat)
    (previewStands deliberateConfirmation : Bool) (tables : NeedTables) :
    Except Raised NeedTables := do
  ensure (0 < expectedRevision) (validationError "expected_revision must be positive")
  ensure deliberateConfirmation
    (inventoryError "HARD_DELETE_BLOCKED" "Inventory hard delete requires deliberate confirmation")
  match tables.joined? spareNeedId with
  | none =>
    .error (inventoryError "HARD_DELETE_BLOCKED"
      "Inventory draft is not hard-delete eligible: missing_target")
  | some (need, projection) => do
    let blockers := hardDeleteBlockers call.surroundings tables need projection
    ensure (blockers = [])
      (inventoryError "HARD_DELETE_BLOCKED" ("Inventory draft is not hard-delete eligible: " ++
        ",".intercalate (blockers.dedup.insertionSort (· ≤ ·))))
    ensure (projection.revision = expectedRevision) (invStale "Inventory draft revision changed")
    ensure previewStands (invStale "Inventory hard-delete preview changed")
    return tables.deleteNeed spareNeedId

/-- The commands that write a Spare Need. -/
inductive NeedCommand where
  | createDraft (call : NeedCall) (serviceRequestId bomCode bomKey : String)
      (plannedQuantity : Nat)
  | registerDevicePart (call : NeedCall)
      (serviceRequestId deviceReferenceId bomCode bomKey : String) (faulty : Bool)
  | setPlannedQuantity (call : NeedCall) (spareNeedId : String)
      (baseRevision plannedQuantity : Nat) (reasonCode : String)
  | changeLifecycle (call : NeedCall) (spareNeedId : String) (baseRevision : Nat)
      (action : NeedAction) (reasonCode : String)
  | hardDelete (call : NeedCall) (spareNeedId : String) (expectedRevision : Nat)
      (previewStands deliberateConfirmation : Bool)

/-- The tables a command leaves when it is not refused. -/
def NeedCommand.run : NeedCommand → NeedTables → Except Raised NeedTables
  | .createDraft call serviceRequestId bomCode bomKey plannedQuantity =>
    createSpareNeedDraft call serviceRequestId bomCode bomKey plannedQuantity
  | .registerDevicePart call serviceRequestId deviceReferenceId bomCode bomKey faulty =>
    registerDevicePartUnit call serviceRequestId deviceReferenceId bomCode bomKey faulty
  | .setPlannedQuantity call spareNeedId baseRevision plannedQuantity reasonCode =>
    setSpareNeedPlannedQuantity call spareNeedId baseRevision plannedQuantity reasonCode
  | .changeLifecycle call spareNeedId baseRevision action reasonCode =>
    changeSpareNeedLifecycle call spareNeedId baseRevision action reasonCode
  | .hardDelete call spareNeedId expectedRevision previewStands deliberateConfirmation =>
    hardDeleteUntouchedNeed call spareNeedId expectedRevision previewStands deliberateConfirmation

/-- The tables after a command; a refused command is rolled back. -/
def NeedCommand.execute (command : NeedCommand) (tables : NeedTables) : NeedTables :=
  match command.run tables with
  | .ok next => next
  | .error _ => tables

end Soma.Inventory
