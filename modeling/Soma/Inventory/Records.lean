import Soma.Inventory.RequestCommands

/-!
The tables of `0010_inventory.sql` behind a return: Spare Part Units with their
reservations, physical consequences, Fault Tags with their memberships, and the
persisted attention rows. `InventoryRows` puts them beside the tables of Spare
Requests and RMAs.

Locations, custody texts, serial numbers and the fingerprints nothing modelled
reads are left out, as are the event logs of units, consequences and return
selections, and the reasons of allocation events.
-/

namespace Soma.Inventory

open Foundation

/-! ## Spare Part Units -/

/-- `condition_token` of a unit. -/
inductive UnitCondition where
  | new
  | used
  | faulty
  | incompatible
  | unknown

def UnitCondition.text : UnitCondition → String
  | .new => "new"
  | .used => "used"
  | .faulty => "faulty"
  | .incompatible => "incompatible"
  | .unknown => "unknown"

/-- `condition in {"new", "used"}`. -/
def UnitCondition.isStock : UnitCondition → Bool
  | .new | .used => true
  | _ => false

/-- `disposition_token` of a unit, the values the code writes. -/
inductive UnitDisposition where
  | available
  | unavailable
  | reserved
  | installed
  | dismantled
  deriving DecidableEq

def UnitDisposition.text : UnitDisposition → String
  | .available => "available"
  | .unavailable => "unavailable"
  | .reserved => "reserved"
  | .installed => "installed"
  | .dismantled => "dismantled"

/-- `initial_disposition_for_condition`, and the disposition a release leaves. -/
def UnitCondition.initialDisposition (condition : UnitCondition) : UnitDisposition :=
  if condition.isStock then .available else .unavailable

/-- `creation_origin` of a unit. -/
inductive UnitOrigin where
  | manualLocal
  | legacy
  | reviewedReconciliation
  | extracted
  | directRmaReceipt
  deriving DecidableEq

structure SparePartUnit where
  sparePartUnitId : String
  localTrackingSequence : Option Nat
  bomKey : String
  creationOrigin : UnitOrigin
  originRmaId : Option String
  parentSparePartUnitId : Option String

/-- A row of `spare_part_current_projection`. -/
structure UnitProjection where
  sparePartUnitId : String
  condition : UnitCondition
  disposition : UnitDisposition
  activeTaskAllocationId : Option String
  revision : Nat

/-- A row of `task_unit_allocation_current`. -/
structure TaskAllocation where
  allocationId : String
  taskId : String
  sparePartUnitId : String
  spareNeedId : Option String
  revision : Nat
  lastEventId : String

/-- `event_kind` of `task_unit_allocation_events`. -/
inductive AllocationEventKind where
  | reserve
  | release
  | reassign
  deriving DecidableEq

/-- A row of `task_unit_allocation_events`. -/
structure AllocationEvent where
  allocationEventId : String
  allocationId : String
  taskId : String
  sparePartUnitId : String
  spareNeedId : Option String
  eventKind : AllocationEventKind
  priorTaskId : Option String
  targetEventId : Option String
  recordedAtUtc : Int

/-- A row of `rma_direct_inbound_units`. -/
structure DirectInboundUnit where
  rmaId : String
  sparePartUnitId : String

/-- The tables of Spare Part Units. -/
structure UnitTables where
  allocator : Option TrackingAllocator
  units : List SparePartUnit
  projections : List UnitProjection
  allocations : List TaskAllocation
  allocationEvents : List AllocationEvent
  directInbound : List DirectInboundUnit

/-! ## Physical consequences -/

/-- `physical_disposition`. -/
inductive Disposition where
  | installedUsed
  | unused
  | inboundFaulty
  | incompatible
  | dismantled
  | removedOnly
  | noPhysicalChange
  | otherReviewed
  deriving DecidableEq

def Disposition.text : Disposition → String
  | .installedUsed => "installed_used"
  | .unused => "unused"
  | .inboundFaulty => "inbound_faulty"
  | .incompatible => "incompatible"
  | .dismantled => "dismantled"
  | .removedOnly => "removed_only"
  | .noPhysicalChange => "no_physical_change"
  | .otherReviewed => "other_reviewed"

/-- The units a consequence names. -/
structure PhysicalUnits where
  installedSparePartUnitId : Option String
  removedDevicePartUnitId : Option String
  inboundSparePartUnitId : Option String
  parentDismantledUnitId : Option String
  deriving DecidableEq

/-- A row of `inventory_physical_consequences`. -/
structure PhysicalConsequence where
  physicalConsequenceId : String
  taskId : String
  targetDevicePartUnitId : Option String
  rmaId : Option String
  deriving DecidableEq

/-- A row of `physical_consequence_current`. -/
structure ConsequenceCurrent where
  physicalConsequenceId : String
  taskReviewFingerprint : String
  disposition : Disposition
  units : PhysicalUnits
  revision : Nat
  lastEventId : String
  deriving DecidableEq

/-- The tables of physical consequences. -/
structure ConsequenceTables where
  consequences : List PhysicalConsequence
  current : List ConsequenceCurrent

/-! ## Fault Tags -/

/-- `draft_return_method`. -/
inductive ReturnMethod where
  | pickup
  | nonPickup
  deriving DecidableEq

def ReturnMethod.text : ReturnMethod → String
  | .pickup => "pickup"
  | .nonPickup => "non_pickup"

/-- How a Fault Tag is returned, as its draft says. -/
structure ReturnPlan where
  returnMethod : ReturnMethod
  pickupDispatchLocationId : Option String
  pickupContactId : Option String
  pickupInstructions : Option String
  deriving DecidableEq

/-- `state` of a Fault Tag. -/
inductive TagState where
  | draft
  | submitted
  | inWarehouseReview
  | terminalCompleted
  | terminalWithRejected
  | cancelled
  | superseded
  deriving DecidableEq

def TagState.text : TagState → String
  | .draft => "draft"
  | .submitted => "submitted"
  | .inWarehouseReview => "in_warehouse_review"
  | .terminalCompleted => "terminal_completed"
  | .terminalWithRejected => "terminal_with_rejected"
  | .cancelled => "cancelled"
  | .superseded => "superseded"

inductive MembershipState where
  | draft
  | submittedAwaitingReceipt
  | warehouseReceived
  | accepted
  | rejected
  | cancelled
  | superseded
  deriving DecidableEq

/-- `event_kind` of `fault_tag_lifecycle_events`. -/
inductive TagEventKind where
  | created
  | submissionAccepted
  | submissionCorrectedFalse
  | superseded
  | archived
  | restored
  deriving DecidableEq

/-- `event_kind` of `fault_tag_membership_events`. -/
inductive MembershipEventKind where
  | submitted
  | warehouseReceived
  | warehouseAccepted
  | warehouseRejected
  | superseded
  | correct
  deriving DecidableEq

/-- `relation_type` of `fault_tag_lineage`. -/
inductive LineageRelation where
  | correctsReplaces
  | resendOf
  deriving DecidableEq

structure FaultTag where
  faultTagId : String
  trackingSequence : Nat
  trackingId : String
  plan : ReturnPlan
  draftRevision : Nat

/-- A row of `fault_tag_memberships`. -/
structure TagMembership where
  faultTagMembershipId : String
  faultTagId : String
  rmaId : String
  physicalConsequenceId : String
  devicePartUnitId : Option String
  sparePartUnitId : Option String
  returnReason : String
  draftRevision : Nat

/-- A row of `fault_tag_membership_current`. -/
structure MembershipCurrent where
  faultTagMembershipId : String
  faultTagId : String
  rmaId : String
  devicePartUnitId : Option String
  sparePartUnitId : Option String
  state : MembershipState
  activeSubmitted : Bool
  revision : Nat
  lastEventId : Option String
  deriving DecidableEq

/-- A row of `fault_tag_lifecycle_events`. -/
structure TagEvent where
  faultTagEventId : String
  faultTagId : String
  eventKind : TagEventKind
  targetEventId : Option String
  evidenceKind : Option String
  recordedAtUtc : Int

/-- A row of `fault_tag_membership_events`. -/
structure MembershipEvent where
  membershipEventId : String
  faultTagMembershipId : String
  eventKind : MembershipEventKind
  targetEventId : Option String

/-- A row of `fault_tag_submission_snapshots`. -/
structure TagSnapshot where
  faultTagSubmissionSnapshotId : String
  faultTagId : String
  submissionEventId : String
  recordedAtUtc : Int
  snapshotHash : String

/-- A row of `fault_tag_membership_submission_snapshots`. -/
structure MembershipSnapshot where
  membershipSnapshotId : String
  faultTagSubmissionSnapshotId : String
  faultTagMembershipId : String

/-- A row of `fault_tag_current_projection`. -/
structure TagProjection where
  faultTagId : String
  state : TagState
  archived : Bool
  currentSubmissionSnapshotId : Option String
  submittedMemberCount : Nat
  awaitingReceiptCount : Nat
  awaitingFinalCount : Nat
  acceptedCount : Nat
  rejectedCount : Nat
  revision : Nat
  inputFingerprint : String

/-- A row of `fault_tag_lineage`. -/
structure TagLineage where
  faultTagLineageId : String
  relationType : LineageRelation
  predecessorFaultTagId : String
  successorFaultTagId : String

/-- The tables of Fault Tags. -/
structure TagTables where
  allocator : Option TrackingAllocator
  tags : List FaultTag
  memberships : List TagMembership
  current : List MembershipCurrent
  events : List TagEvent
  membershipEvents : List MembershipEvent
  snapshots : List TagSnapshot
  membershipSnapshots : List MembershipSnapshot
  projections : List TagProjection
  lineage : List TagLineage

/-! ## Attention -/

/-- `target_kind` of a row of `inventory_attention_projection`. -/
inductive AttentionTarget where
  | spareRequest
  | rma
  | faultTagMembership
  deriving DecidableEq

inductive AttentionKind where
  | partialRmaAuthorization
  | rmaAssignmentConflict
  | returnObligationOpen
  | warehouseFinalDecisionPending
  | warehouseRejectedResendRequired
  deriving DecidableEq

/-- A row of `inventory_attention_projection`. Its key `attention_id` is the digest
of these three columns and stands for them. -/
structure Attention where
  targetKind : AttentionTarget
  targetId : String
  attentionKind : AttentionKind
  deriving DecidableEq

/-! ## The inventory -/

structure InventoryRows where
  requests : RequestTables
  rmas : RmaTables
  units : UnitTables
  consequences : ConsequenceTables
  tags : TagTables
  attention : List Attention

/-- What the inventory reads of a Task. -/
structure TaskAuthority where
  revision : Nat
  serviceRequestIds : List String
  hasOutcome : Bool
  reviewFingerprint : String

/-- What the inventory reads of a Spare Need. -/
structure NeedReference where
  serviceRequestId : String
  bomKey : String
  lifecycleState : String
  revision : Nat

/-- What a call brings along, with the Tasks and the Spare Needs. -/
structure InventoryCall extends RequestCall where
  task : String → Option TaskAuthority
  need : String → Option NeedReference

/-- The items with an identifier drawn for each, from the given draw on. -/
def RequestCall.drawFor {Item : Type} (call : RequestCall) (drawn : Nat) (items : List Item) :
    List (String × Item) :=
  items.zipIdx.map fun item => ((call.newUuid4 (drawn + item.2)).value, item.1)

end Soma.Inventory
