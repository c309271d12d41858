import Soma.Foundation.StrictJson
import Soma.Theory.Rows
import Soma.Theory.Yields

/-!
The tables of `0010_inventory.sql` that Spare Requests and RMAs are kept in, and
the two statements every repository writes them with: an `INSERT` under a
declared key and an `UPDATE` that must hit one row.

Event logs no modelled function reads, `last_command_id` and creation times are
left out.
-/

namespace Soma.Inventory

open Foundation Rows Transaction

/-- `SomaError(code, message)`. -/
def inventoryError (code message : String) : Raised := .soma ⟨.somaError, code, message, false⟩

def invStale (message : String) : Raised := inventoryError "INV_STALE" message

/-! ## Statements -/

section Statements

variable {Row Key : Type} [DecidableEq Key]

/-- `INSERT` under a declared key. -/
def insertKeyed (key : Row → Key) (rows : List Row) (row : Row) : Except Raised (List Row) := do
  ensure (key row ∉ rows.map key) .other
  return rows ++ [row]

/-- `UPDATE` that must hit exactly one row. -/
def updateOne (selected : Row → Bool) (change : Row → Row) (missed : Raised) (rows : List Row) :
    Except Raised (List Row) := do
  ensure (rows.countP selected = 1) missed
  return rows.map fun row => if selected row then change row else row

variable {key : Row → Key} {rows next : List Row} {row : Row}

theorem insertKeyed_ok :
    insertKeyed key rows row = .ok next ↔ key row ∉ rows.map key ∧ next = rows ++ [row] := by
  simp only [insertKeyed, except_bind_ok, ensure_ok, pure, Except.pure, Except.ok.injEq]
  constructor
  · rintro ⟨_, fresh, rfl⟩
    exact ⟨fresh, rfl⟩
  · rintro ⟨fresh, rfl⟩
    exact ⟨(), fresh, rfl⟩

theorem updateOne_ok {selected : Row → Bool} {change : Row → Row}
    (ran : updateOne selected change missed rows = .ok next) :
    ∃ old, selected old = true ∧ Replaced rows next old (change old) := by
  simp only [updateOne, except_ok] at ran
  obtain ⟨one, returned⟩ := ran
  cases returned
  exact replaced_of_countP change one

variable {wrong : Raised → Prop}

theorem yields_ensure [Decidable condition] (fine : ¬ condition → ¬ wrong raised) :
    Yields (fun _ => condition) wrong (ensure condition raised) := by
  by_cases holds : condition
  · rw [ensure, if_pos holds]
    exact holds
  · rw [ensure, if_neg holds]
    exact fine holds

theorem yields_insertKeyed (fine : ¬ wrong .other) :
    Yields (fun next => key row ∉ rows.map key ∧ next = rows ++ [row]) wrong
      (insertKeyed key rows row) :=
  (yields_ensure fun _ => fine).bind fun _ fresh => ⟨fresh, rfl⟩

theorem yields_updateOne {selected : Row → Bool} {change : Row → Row} (fine : ¬ wrong missed) :
    Yields (fun next => ∃ old, selected old = true ∧ Replaced rows next old (change old)) wrong
      (updateOne selected change missed rows) :=
  (yields_ensure fun _ => fine).bind fun _ one => replaced_of_countP change one

end Statements

/-! ## Spare Requests -/

/-- `creation_origin` of a request. -/
inductive RequestOrigin where
  | somaDraft
  | externalRegistration
  deriving DecidableEq

/-- `mode` of the draft logistics. -/
inductive LogisticsMode where
  | delivery
  | selfPickup
  deriving DecidableEq

def LogisticsMode.text : LogisticsMode → String
  | .delivery => "delivery"
  | .selfPickup => "self_pickup"

/-- `lifecycle_state` of a request. -/
inductive RequestState where
  | draft
  | submittedAwaitingResponse
  | acknowledged
  | partiallyAuthorized
  | authorized
  | cancelled
  | rejected
  deriving DecidableEq

def RequestState.text : RequestState → String
  | .draft => "draft"
  | .submittedAwaitingResponse => "submitted_awaiting_response"
  | .acknowledged => "acknowledged"
  | .partiallyAuthorized => "partially_authorized"
  | .authorized => "authorized"
  | .cancelled => "cancelled"
  | .rejected => "rejected"

/-- `lifecycle_state in {"cancelled", "rejected"}`. -/
def RequestState.isTerminal : RequestState → Bool
  | .cancelled | .rejected => true
  | _ => false

/-- `event_kind` of `spare_request_lifecycle_events`. -/
inductive RequestEventKind where
  | created
  | submissionAccepted
  | submissionCorrectedFalse
  | authorizationProgress
  | cancelled
  | rejected
  deriving DecidableEq

/-- `alias_kind`, of SR7 and of C10 identifiers. -/
inductive AliasKind where
  | current
  | former
  deriving DecidableEq

/-- The row of `inventory_tracking_allocators` for Spare Requests. -/
structure TrackingAllocator where
  nextSequence : Nat
  revision : Nat

/-- A row of `spare_requests`; the requester context as its document. -/
structure SpareRequest where
  spareRequestId : String
  trackingSequence : Nat
  trackingId : String
  serviceRequestId : String
  requesterContactId : String
  requesterContext : Json
  creationOrigin : RequestOrigin

/-- A row of `spare_request_need_allocations`. -/
structure NeedAllocation where
  requestNeedAllocationId : String
  spareRequestId : String
  spareNeedId : String
  quantity : Nat
  revision : Nat
  activeDraft : Bool

/-- A row of `spare_request_draft_logistics`. -/
structure DraftLogistics where
  spareRequestId : String
  mode : LogisticsMode
  receiverContactId : String
  dispatchLocationId : String
  revision : Nat

/-- A row of `spare_request_lifecycle_events`. -/
structure RequestEvent where
  requestEventId : String
  spareRequestId : String
  eventKind : RequestEventKind
  effectiveAtUtc : Option Int
  targetEventId : Option String
  reasonCode : Option String
  recordedAtUtc : Int

/-- A row of `spare_request_submission_snapshots`. -/
structure SubmissionSnapshot where
  submissionSnapshotId : String
  spareRequestId : String
  submissionEventId : String
  effectiveSubmissionAtUtc : Option Int
  recordedAtUtc : Int
  snapshotHash : String

/-- A row of `spare_request_submission_allocations`. -/
structure SubmissionAllocation where
  submissionAllocationId : String
  submissionSnapshotId : String
  requestNeedAllocationId : String
  spareNeedId : String
  quantity : Nat
  requestedBomCode : String
  requestedBomKey : String

/-- A row of `spare_request_identifier_aliases`. -/
structure Sr7Alias where
  spareRequestId : String
  sr7 : String
  aliasKind : AliasKind

/-- A row of `spare_request_current_projection`. -/
structure RequestProjection where
  spareRequestId : String
  lifecycleState : RequestState
  currentSr7 : Option String
  currentSubmissionSnapshotId : Option String
  submittedQuantity : Nat
  authorizedRmaCount : Nat
  responseWarningStartUtc : Option Int
  revision : Nat
  inputFingerprint : String

/-- A row of `rma_authorization_batches`. -/
structure AuthorizationBatch where
  authorizationBatchId : String
  spareRequestId : String
  batchOrdinal : Nat
  acceptedAtUtc : Int

/-- The tables of Spare Requests. -/
structure RequestTables where
  allocator : Option TrackingAllocator
  requests : List SpareRequest
  allocations : List NeedAllocation
  logistics : List DraftLogistics
  events : List RequestEvent
  snapshots : List SubmissionSnapshot
  submissionAllocations : List SubmissionAllocation
  sr7Aliases : List Sr7Alias
  projections : List RequestProjection
  batches : List AuthorizationBatch

/-! ## RMAs -/

inductive RmaState where
  | promised
  | dispatched
  | received
  | physicalConsequencePending
  | returnOpen
  | faultTagged
  | warehouseReceived
  | closedAccepted
  | returnRejected
  deriving DecidableEq

inductive ObligationState where
  | notEstablished
  | open
  | closedAccepted
  deriving DecidableEq

structure Rma where
  rmaId : String
  spareRequestId : String
  authorizationBatchId : String
  responseOrdinal : Nat
  promisedBomCode : String
  promisedBomKey : String

/-- A row of `rma_identifier_aliases`. -/
structure C10Alias where
  rmaId : String
  c10 : String
  aliasKind : AliasKind

/-- A row of `rma_current_assignment`. -/
structure RmaAssignment where
  rmaId : String
  devicePartUnitId : String
  assignmentEventId : String
  revision : Nat

/-- A row of `rma_return_obligation_current`. -/
structure ReturnObligation where
  rmaId : String
  obligationState : ObligationState
  devicePartUnitId : Option String
  sparePartUnitId : Option String
  physicalConsequenceId : Option String
  revision : Nat
  lastEventId : Option String

/-- A row of `rma_lifecycle_projection`. -/
structure RmaProjection where
  rmaId : String
  state : RmaState
  currentTargetDevicePartUnitId : Option String
  directInboundSparePartUnitId : Option String
  returnDevicePartUnitId : Option String
  returnSparePartUnitId : Option String
  returnObligationOpen : Bool
  activeFaultTagMembershipId : Option String
  revision : Nat
  deriving DecidableEq

structure RmaTables where
  rmas : List Rma
  c10Aliases : List C10Alias
  assignments : List RmaAssignment
  obligations : List ReturnObligation
  lifecycle : List RmaProjection

end Soma.Inventory
