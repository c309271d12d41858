import Mathlib
import Soma.Inventory.Tables

/-!
`inventory/repositories/requests.py` and the authorization batch of
`inventory/repositories/rmas.py`: a Spare Request from its draft over the
accepted submission and the official SR7 to the RMAs its supplier authorizes.

Contacts, dispatch locations, Spare Needs and device parts are written elsewhere
and come with the call, as do the texts the services have accepted: reason codes,
SR7 and C10 identifiers, part codes and evidence references.
-/

namespace Soma.Inventory

open Foundation Transaction

/-! ## What a call reads elsewhere -/

/-- A contact with its current affiliation. -/
structure ContactAuthority where
  name : String
  revision : Nat
  lifecycleState : String
  affiliationId : Option String
  customerOrgId : Option String

inductive AddressMode where
  | siteDerived
  | standalone
  deriving DecidableEq

structure DispatchLocation where
  name : String
  addressMode : AddressMode
  standaloneAddressText : Option String
  lifecycleState : String

/-- A Spare Need with its current lifecycle state. -/
structure SpareNeed where
  serviceRequestId : String
  bomCode : String
  bomKey : String
  lifecycleState : String

structure DevicePartUnit where
  devicePartUnitId : String
  serviceRequestId : String
  bomKey : String
  creationSequence : Nat

structure RequestSurroundings where
  contact : String → Option ContactAuthority
  dispatchLocation : String → Option DispatchLocation
  serviceRequestExists : String → Bool
  spareNeed : String → Option SpareNeed
  devicePartUnits : List DevicePartUnit

/-- What a call brings along: the surroundings, the identifiers `new_uuid4`
returns in turn, the clock and the library. -/
structure RequestCall where
  surroundings : RequestSurroundings
  newUuid4 : Nat → Uuid4
  now : Int
  python : PythonLibrary

def textOrNull : Option String → Json
  | none => .null
  | some text => .str text

def integerOrNull : Option Int → Json
  | none => .null
  | some integer => .int integer

/-! ## Checks on the surroundings -/

/-- `require_requester_authority`, with the read of `requester_authority`. -/
def requireRequesterAuthority (surroundings : RequestSurroundings) (contactId : String) :
    Except Raised ContactAuthority :=
  match surroundings.contact contactId with
  | none => .error (inventoryError "REQUEST_SUBMISSION_INVALID" "Requester Contact is not active")
  | some authority => do
    ensure (authority.lifecycleState = "active")
      (inventoryError "REQUEST_SUBMISSION_INVALID" "Requester Contact is not active")
    return authority

def requesterContext (contactId : String) (authority : ContactAuthority) : Json :=
  .obj [
    ("contact_id", .str contactId),
    ("contact_revision_at_creation", .int authority.revision),
    ("affiliation_id_at_creation", textOrNull authority.affiliationId),
    ("customer_org_id_at_creation", textOrNull authority.customerOrgId),
    ("display_name_snapshot", .str authority.name)]

def requireReceiverAndLocation (surroundings : RequestSurroundings)
    (receiverContactId dispatchLocationId : String) : Except Raised Unit := do
  ensure ((surroundings.contact receiverContactId).map (·.lifecycleState) = some "active")
    (inventoryError "REQUEST_SUBMISSION_INVALID" "Receiver Contact is not active")
  ensure ((surroundings.dispatchLocation dispatchLocationId).map (·.lifecycleState) = some "active")
    (inventoryError "REQUEST_SUBMISSION_INVALID" "Dispatch Location is not active")

/-- One allocation of `require_sr_need_allocations`. -/
def requireNeedAllocation (surroundings : RequestSurroundings) (serviceRequestId : String)
    (spareNeedId : String) : Except Raised Unit :=
  match surroundings.spareNeed spareNeedId with
  | none => .error (invStale "Selected Spare Need no longer exists")
  | some need => do
    ensure (need.serviceRequestId = serviceRequestId)
      (inventoryError "NEED_CROSS_SR" "Selected Spare Needs cross Service Requests")
    ensure (need.lifecycleState = "active")
      (inventoryError "REQUEST_SUBMISSION_INVALID" "Selected Spare Need is not active")

def requireSrNeedAllocations (surroundings : RequestSurroundings) (serviceRequestId : String)
    (allocations : List (String × Nat)) : Except Raised Unit := do
  ensure (surroundings.serviceRequestExists serviceRequestId)
    (invStale "Service Request no longer exists")
  allocations.forM fun allocation =>
    requireNeedAllocation surroundings serviceRequestId allocation.1

def submissionReceiverContext (surroundings : RequestSurroundings) (receiverContactId : String) :
    Except Raised Json :=
  match surroundings.contact receiverContactId with
  | none => .error (inventoryError "REQUEST_SUBMISSION_INVALID" "Receiver Contact is not active")
  | some contact => do
    ensure (contact.lifecycleState = "active")
      (inventoryError "REQUEST_SUBMISSION_INVALID" "Receiver Contact is not active")
    ensure (contact.name ≠ "") (integrityFailure "Receiver Contact has empty display name")
    return .obj [
      ("contact_id", .str receiverContactId),
      ("contact_revision_at_submission", .int contact.revision),
      ("display_name_snapshot", .str contact.name)]

def submissionLocationContext (surroundings : RequestSurroundings) (dispatchLocationId : String) :
    Except Raised (String × String) :=
  match surroundings.dispatchLocation dispatchLocationId with
  | none => .error (inventoryError "REQUEST_SUBMISSION_INVALID" "Dispatch Location is not active")
  | some location => do
    ensure (location.lifecycleState = "active")
      (inventoryError "REQUEST_SUBMISSION_INVALID" "Dispatch Location is not active")
    let address := location.standaloneAddressText.getD ""
    ensure (¬ (location.addressMode = .siteDerived ∧ address = ""))
      (inventoryError "DEPENDENCY_INDETERMINATE"
        "Site-derived Dispatch Location address cannot be snapshotted yet")
    ensure (address ≠ "")
      (inventoryError "REQUEST_SUBMISSION_INVALID" "Dispatch Location address is unavailable")
    return (location.name, address)

/-! ## Drafts -/

def allocateSpareRequestTracking (tables : RequestTables) :
    Except Raised (RequestTables × Nat × String) :=
  match tables.allocator with
  | none => .error (integrityFailure "Inventory Spare Request allocator is missing")
  | some allocator => do
    let sequence := allocator.nextSequence
    ensure (sequence < 100000000)
      (inventoryError "INV_INVALID_ID" "Spare Request tracking sequence is exhausted")
    return ({ tables with allocator := some ⟨sequence + 1, allocator.revision + 1⟩ }, sequence,
      "SPR-" ++ String.ofList ((toString sequence).toList.leftpad 8 '0'))

def projectionFingerprint (python : PythonLibrary) (spareRequestId serviceRequestId : String)
    (requesterContext : Json) (allocations : List (String × Nat)) (mode : LogisticsMode)
    (receiverContactId dispatchLocationId : String) : Except Raised String := do
  let requesterContextSha256 ← sha256CanonicalJson python requesterContext
  sha256CanonicalJson python (.obj [
    ("schema", .str "SOMA_SPARE_REQUEST_CURRENT_V1"),
    ("spare_request_id", .str spareRequestId),
    ("service_request_id", .str serviceRequestId),
    ("lifecycle_state", .str "draft"),
    ("requester_context_sha256", .str requesterContextSha256),
    ("allocations", .arr (allocations.map fun allocation =>
      .obj [("spare_need_id", .str allocation.1), ("quantity", .int allocation.2)])),
    ("logistics", .obj [
      ("mode", .str mode.text),
      ("receiver_contact_id", .str receiverContactId),
      ("dispatch_location_id", .str dispatchLocationId)])])

/-- The loop that inserts draft allocations, with the identifiers drawn so far. -/
def insertDraftAllocations (call : RequestCall) (spareRequestId : String) :
    Nat → List (String × Nat) → List NeedAllocation → Except Raised (List NeedAllocation)
  | _, [], rows => .ok rows
  | drawn, (spareNeedId, quantity) :: rest, rows => do
    -- One active draft allocation of a request for each Need.
    ensure (¬ ∃ row ∈ rows, row.spareRequestId = spareRequestId ∧ row.spareNeedId = spareNeedId ∧
      row.activeDraft) .other
    let rows ← insertKeyed (·.requestNeedAllocationId) rows
      ⟨(call.newUuid4 drawn).value, spareRequestId, spareNeedId, quantity, 1, true⟩
    insertDraftAllocations call spareRequestId (drawn + 1) rest rows

/-- What a draft is made of. -/
structure DraftIntent where
  serviceRequestId : String
  requesterContactId : String
  allocations : List (String × Nat)
  mode : LogisticsMode
  receiverContactId : String
  dispatchLocationId : String
  origin : RequestOrigin

/-- `insert_draft`, under the identifier drawn first. -/
def insertDraft (call : RequestCall) (tables : RequestTables) (intent : DraftIntent)
    (trackingSequence : Nat) (trackingId : String) (context : Json) :
    Except Raised RequestTables := do
  let spareRequestId := (call.newUuid4 0).value
  let requests ← insertKeyed (·.spareRequestId) tables.requests
    ⟨spareRequestId, trackingSequence, trackingId, intent.serviceRequestId,
      intent.requesterContactId, context, intent.origin⟩
  let allocations ← insertDraftAllocations call spareRequestId 2 intent.allocations
    tables.allocations
  let logistics ← insertKeyed (·.spareRequestId) tables.logistics
    ⟨spareRequestId, intent.mode, intent.receiverContactId, intent.dispatchLocationId, 1⟩
  let events ← insertKeyed (·.requestEventId) tables.events
    ⟨(call.newUuid4 1).value, spareRequestId, .created, none, none, none, call.now⟩
  let fingerprint ← projectionFingerprint call.python spareRequestId intent.serviceRequestId context
    intent.allocations intent.mode intent.receiverContactId intent.dispatchLocationId
  let projections ← insertKeyed (·.spareRequestId) tables.projections
    ⟨spareRequestId, .draft, none, none, 0, 0, none, 1, fingerprint⟩
  return { tables with requests, allocations, logistics, events, projections }

/-- `current_detail`. -/
structure RequestDetail where
  request : SpareRequest
  projection : RequestProjection
  logistics : DraftLogistics

namespace RequestTables

/-- `SELECT .. FROM spare_request_current_projection WHERE spare_request_id=?`. -/
def projection? (tables : RequestTables) (spareRequestId : String) : Option RequestProjection :=
  tables.projections.find? (·.spareRequestId = spareRequestId)

def currentDetail (tables : RequestTables) (spareRequestId : String) : Option RequestDetail := do
  let request ← tables.requests.find? (·.spareRequestId = spareRequestId)
  let projection ← tables.projection? spareRequestId
  let logistics ← tables.logistics.find? (·.spareRequestId = spareRequestId)
  return ⟨request, projection, logistics⟩

/-- `current_detail` of a request that must exist. -/
def requireDetail (tables : RequestTables) (spareRequestId : String) : Except Raised RequestDetail :=
  match tables.currentDetail spareRequestId with
  | some detail => .ok detail
  | none => .error (invStale "Spare Request no longer exists")

/-- `current_detail` of a request that must stand at a revision. -/
def requireDetailAt (tables : RequestTables) (spareRequestId : String) (baseRevision : Nat) :
    Except Raised RequestDetail :=
  match tables.currentDetail spareRequestId with
  | some detail => do
    ensure (detail.projection.revision = baseRevision) (invStale "Spare Request revision changed")
    return detail
  | none => .error (invStale "Spare Request revision changed")

/-- `active_draft_allocations`, without the part codes. -/
def activeDraftAllocations (tables : RequestTables) (surroundings : RequestSurroundings)
    (spareRequestId : String) : List (NeedAllocation × SpareNeed) :=
  ((tables.allocations.filter fun row =>
      row.spareRequestId = spareRequestId ∧ row.activeDraft).insertionSort fun left right =>
        left.spareNeedId < right.spareNeedId ∨ (left.spareNeedId = right.spareNeedId ∧
          left.requestNeedAllocationId ≤ right.requestNeedAllocationId)).filterMap fun row =>
    (surroundings.spareNeed row.spareNeedId).map fun need => (row, need)

def currentSr7 (tables : RequestTables) (spareRequestId : String) : Option String :=
  (tables.sr7Aliases.find? fun row =>
    row.spareRequestId = spareRequestId ∧ row.aliasKind = .current).map (·.sr7)

/-- No later event declares the submission false. -/
def Stands (tables : RequestTables) (snapshot : SubmissionSnapshot) : Prop :=
  ¬ ∃ event ∈ tables.events, event.spareRequestId = snapshot.spareRequestId ∧
    event.eventKind = .submissionCorrectedFalse ∧
    event.targetEventId = some snapshot.submissionEventId

instance (tables : RequestTables) (snapshot : SubmissionSnapshot) :
    Decidable (tables.Stands snapshot) :=
  inferInstanceAs (Decidable (¬ ∃ _ ∈ _, _))

/-- The submissions of a request that stand. -/
def standingSubmissions (tables : RequestTables) (spareRequestId : String) :
    List SubmissionSnapshot :=
  tables.snapshots.filter fun row => row.spareRequestId = spareRequestId ∧ tables.Stands row

def currentEffectiveSubmission (tables : RequestTables) (spareRequestId : String) :
    Option SubmissionSnapshot :=
  ((tables.standingSubmissions spareRequestId).insertionSort fun left right =>
    right.recordedAtUtc < left.recordedAtUtc ∨ (left.recordedAtUtc = right.recordedAtUtc ∧
      right.submissionSnapshotId ≤ left.submissionSnapshotId)).head?

end RequestTables

def replaceDraft (call : RequestCall) (tables : RequestTables) (spareRequestId : String)
    (baseRevision : Nat) (allocations : List (String × Nat)) (mode : LogisticsMode)
    (receiverContactId dispatchLocationId : String) : Except Raised RequestTables := do
  let detail ← tables.requireDetailAt spareRequestId baseRevision
  ensure (detail.projection.lifecycleState = .draft ∧ detail.projection.currentSr7 = none)
    (inventoryError "REQUEST_NOT_DRAFT" "Spare Request is not editable Draft authority")
  requireReceiverAndLocation call.surroundings receiverContactId dispatchLocationId
  requireSrNeedAllocations call.surroundings detail.request.serviceRequestId allocations
  let retired := tables.allocations.map fun row =>
    if row.spareRequestId = spareRequestId ∧ row.activeDraft then
      { row with activeDraft := false, revision := row.revision + 1 }
    else row
  let rows ← insertDraftAllocations call spareRequestId 0 allocations retired
  let logistics ← updateOne (fun row => row.spareRequestId = spareRequestId)
    (fun row => { row with mode, receiverContactId, dispatchLocationId, revision := row.revision + 1 })
    (integrityFailure "Spare Request draft logistics disappeared") tables.logistics
  let fingerprint ← projectionFingerprint call.python spareRequestId
    detail.request.serviceRequestId detail.request.requesterContext allocations mode
    receiverContactId dispatchLocationId
  let projections ← updateOne
    (fun row => row.spareRequestId = spareRequestId ∧ row.revision = baseRevision ∧
      row.lifecycleState = .draft ∧ row.currentSubmissionSnapshotId = none)
    (fun row => { row with revision := row.revision + 1, inputFingerprint := fingerprint })
    (invStale "Spare Request changed during draft replacement") tables.projections
  return { tables with allocations := rows, logistics, projections }

/-! ## Official identity -/

/-- `action` of an SR7 command. -/
inductive Sr7Action where
  | assign
  | correct

/-- The check of the action against the current SR7. -/
def Sr7Action.admits (action : Sr7Action) (current : Option String) : Except Raised Unit :=
  match action with
  | .assign => ensure (current = none) (invStale "Spare Request already has an official SR7")
  | .correct => ensure (current ≠ none) (invStale "Spare Request has no current SR7 to correct")

/-- The `UPDATE` that makes the current alias a former one. -/
def retireCurrentSr7 (spareRequestId : String) (current : Option String) (rows : List Sr7Alias) :
    Except Raised (List Sr7Alias) :=
  match current with
  | none => .ok rows
  | some sr7 => updateOne
    (fun row => row.spareRequestId = spareRequestId ∧ row.aliasKind = .current ∧ row.sr7 = sr7)
    (fun row => { row with aliasKind := .former })
    (integrityFailure "Current SR7 alias disappeared during correction") rows

def assignOrCorrectSr7 (call : RequestCall) (tables : RequestTables) (spareRequestId : String)
    (baseRevision : Nat) (newSr7 : String) (action : Sr7Action) :
    Except Raised RequestTables := do
  let detail ← tables.requireDetailAt spareRequestId baseRevision
  ensure (detail.projection.lifecycleState.isTerminal = false)
    (invStale "Terminal Spare Request cannot change official identity")
  let current := tables.currentSr7 spareRequestId
  action.admits current
  ensure (newSr7 ∉ tables.sr7Aliases.map (·.sr7))
    (inventoryError "SR7_CONFLICT" "SR7 is already current or former authority")
  let retired ← retireCurrentSr7 spareRequestId current tables.sr7Aliases
  -- One current alias of a request.
  ensure (¬ ∃ row ∈ retired, row.spareRequestId = spareRequestId ∧ row.aliasKind = .current) .other
  let sr7Aliases ← insertKeyed (·.sr7) retired ⟨spareRequestId, newSr7, .current⟩
  let fingerprint ← sha256CanonicalJson call.python (.obj [
    ("schema", .str "SOMA_SPARE_REQUEST_IDENTITY_V1"),
    ("spare_request_id", .str spareRequestId),
    ("current_sr7", .str newSr7),
    ("prior_sr7", textOrNull current)])
  let projections ← updateOne
    (fun row => row.spareRequestId = spareRequestId ∧ row.revision = baseRevision)
    (fun row => { row with
      currentSr7 := some newSr7
      revision := row.revision + 1
      inputFingerprint := fingerprint })
    (invStale "Spare Request changed during SR7 update") tables.projections
  return { tables with sr7Aliases, projections }

/-! ## Terminal events -/

/-- `target_state` of a terminal command. -/
inductive TerminalAction where
  | cancelled
  | rejected
  deriving DecidableEq

def TerminalAction.state : TerminalAction → RequestState
  | .cancelled => .cancelled
  | .rejected => .rejected

def TerminalAction.eventKind : TerminalAction → RequestEventKind
  | .cancelled => .cancelled
  | .rejected => .rejected

/-- `SELECT COUNT(*) FROM rmas WHERE spare_request_id=?`. -/
def rmaCount (rmas : List Rma) (spareRequestId : String) : Nat :=
  rmas.countP fun row => row.spareRequestId = spareRequestId

def cancelOrReject (call : RequestCall) (tables : RequestTables) (rmas : List Rma)
    (spareRequestId : String) (baseRevision : Nat) (target : TerminalAction)
    (reasonCode : String) : Except Raised RequestTables := do
  let detail ← tables.requireDetailAt spareRequestId baseRevision
  ensure (detail.projection.lifecycleState.isTerminal = false)
    (invStale "Spare Request is already terminal")
  ensure (rmaCount rmas spareRequestId = 0)
    (inventoryError "REQUEST_SUBMISSION_INVALID"
      "Spare Request has accepted downstream RMA obligations")
  let events ← insertKeyed (·.requestEventId) tables.events
    ⟨(call.newUuid4 0).value, spareRequestId, target.eventKind, some call.now, none,
      some reasonCode, call.now⟩
  let fingerprint ← sha256CanonicalJson call.python (.obj [
    ("schema", .str "SOMA_SPARE_REQUEST_TERMINAL_V1"),
    ("spare_request_id", .str spareRequestId),
    ("state", .str target.state.text),
    ("reason_code", .str reasonCode)])
  let projections ← updateOne
    (fun row => row.spareRequestId = spareRequestId ∧ row.revision = baseRevision)
    (fun row => { row with
      lifecycleState := target.state
      responseWarningStartUtc := none
      revision := row.revision + 1
      inputFingerprint := fingerprint })
    (invStale "Spare Request changed during terminal transition") tables.projections
  return { tables with events, projections }

/-! ## Submissions -/

/-- `evidence_kind` and `evidence_id` of an accepted submission. -/
inductive SubmissionEvidence where
  | manual
  | indexedSent (evidenceId : String)

def SubmissionEvidence.kind : SubmissionEvidence → String
  | .manual => "manual"
  | .indexedSent _ => "indexed_sent"

def SubmissionEvidence.id : SubmissionEvidence → Option String
  | .manual => none
  | .indexedSent evidenceId => some evidenceId

def snapshotMaterial (detail : RequestDetail) (eventId locationName locationAddress : String)
    (recipientContext : Json) (effectiveSubmissionAtUtc : Option Int)
    (evidence : SubmissionEvidence) (allocations : List (NeedAllocation × SpareNeed)) : Json :=
  .obj [
    ("schema", .str "SOMA_SPARE_REQUEST_SUBMISSION_SNAPSHOT_V1"),
    ("spare_request_id", .str detail.request.spareRequestId),
    ("submission_event_id", .str eventId),
    ("temporary_tracking_id", .str detail.request.trackingId),
    ("mode", .str detail.logistics.mode.text),
    ("receiver_contact_id", .str detail.logistics.receiverContactId),
    ("dispatch_location_id", .str detail.logistics.dispatchLocationId),
    ("location_name_snapshot", .str locationName),
    ("location_address_snapshot", .str locationAddress),
    ("recipient_context", recipientContext),
    ("effective_submission_at_utc", integerOrNull effectiveSubmissionAtUtc),
    ("evidence_kind", .str evidence.kind),
    ("evidence_id", textOrNull evidence.id),
    ("allocations", .arr (allocations.map fun item => .obj [
      ("request_need_allocation_id", .str item.1.requestNeedAllocationId),
      ("spare_need_id", .str item.1.spareNeedId),
      ("quantity", .int item.1.quantity),
      ("requested_bom_code", .str item.2.bomCode),
      ("requested_bom_key", .str item.2.bomKey)]))]

/-- The loop that inserts the submitted allocations. -/
def insertSubmissionAllocations (call : RequestCall) (submissionSnapshotId : String) :
    Nat → List (NeedAllocation × SpareNeed) → List SubmissionAllocation →
      Except Raised (List SubmissionAllocation)
  | _, [], rows => .ok rows
  | drawn, item :: rest, rows => do
    let rows ← insertKeyed (·.submissionAllocationId) rows
      ⟨(call.newUuid4 drawn).value, submissionSnapshotId, item.1.requestNeedAllocationId,
        item.1.spareNeedId, item.1.quantity, item.2.bomCode, item.2.bomKey⟩
    insertSubmissionAllocations call submissionSnapshotId (drawn + 1) rest rows

/-- `accept_submission`, with the identifiers drawn before it; it returns how
many there are after it. -/
def acceptSubmission (call : RequestCall) (drawn : Nat) (tables : RequestTables)
    (spareRequestId expectedFingerprint : String) (effectiveSubmissionAtUtc : Option Int)
    (evidence : SubmissionEvidence) : Except Raised (RequestTables × Nat) := do
  let detail ← tables.requireDetail spareRequestId
  ensure (detail.projection.lifecycleState = .draft)
    (inventoryError "REQUEST_NOT_DRAFT" "Spare Request is not Draft")
  ensure (detail.projection.inputFingerprint = expectedFingerprint)
    (invStale "Spare Request draft fingerprint changed")
  ensure (detail.projection.currentSubmissionSnapshotId = none ∧
      tables.currentEffectiveSubmission spareRequestId = none)
    (inventoryError "REQUEST_NOT_DRAFT" "Spare Request already has accepted submission authority")
  let allocations := tables.activeDraftAllocations call.surroundings spareRequestId
  ensure (allocations ≠ [])
    (inventoryError "REQUEST_SUBMISSION_INVALID" "Spare Request has no active allocations")
  requireSrNeedAllocations call.surroundings detail.request.serviceRequestId
    (allocations.map fun item => (item.1.spareNeedId, item.1.quantity))
  requireReceiverAndLocation call.surroundings detail.logistics.receiverContactId
    detail.logistics.dispatchLocationId
  let recipientContext ← submissionReceiverContext call.surroundings
    detail.logistics.receiverContactId
  let (locationName, locationAddress) ← submissionLocationContext call.surroundings
    detail.logistics.dispatchLocationId
  let eventId := (call.newUuid4 drawn).value
  let snapshotId := (call.newUuid4 (drawn + 1)).value
  let snapshotHash ← sha256CanonicalJson call.python (snapshotMaterial detail eventId locationName
    locationAddress recipientContext effectiveSubmissionAtUtc evidence allocations)
  let events ← insertKeyed (·.requestEventId) tables.events
    ⟨eventId, spareRequestId, .submissionAccepted, effectiveSubmissionAtUtc, none, none, call.now⟩
  -- The event of a submission is unique too, but it was only just inserted.
  let snapshots ← insertKeyed (·.submissionSnapshotId) tables.snapshots
    ⟨snapshotId, spareRequestId, eventId, effectiveSubmissionAtUtc, call.now, snapshotHash⟩
  let submissionAllocations ← insertSubmissionAllocations call snapshotId (drawn + 2) allocations
    tables.submissionAllocations
  let submittedQuantity : Nat := (allocations.map (·.1.quantity)).sum
  let warningStart := effectiveSubmissionAtUtc.getD call.now
  let state : RequestState :=
    if detail.projection.currentSr7 = none then .submittedAwaitingResponse else .acknowledged
  let fingerprint ← sha256CanonicalJson call.python (.obj [
    ("schema", .str "SOMA_SPARE_REQUEST_CURRENT_V1"),
    ("spare_request_id", .str spareRequestId),
    ("lifecycle_state", .str state.text),
    ("current_sr7", textOrNull detail.projection.currentSr7),
    ("current_submission_snapshot_id", .str snapshotId),
    ("submitted_quantity", .int submittedQuantity),
    ("authorized_rma_count", .int 0),
    ("response_warning_start_utc", .int warningStart),
    ("submission_snapshot_hash", .str snapshotHash)])
  let projections ← updateOne
    (fun row => row.spareRequestId = spareRequestId ∧
      row.revision = detail.projection.revision ∧ row.lifecycleState = .draft ∧
      row.currentSubmissionSnapshotId = none)
    (fun row => { row with
      lifecycleState := state
      currentSubmissionSnapshotId := some snapshotId
      submittedQuantity
      responseWarningStartUtc := some warningStart
      revision := detail.projection.revision + 1
      inputFingerprint := fingerprint })
    (invStale "Spare Request changed during submission") tables.projections
  return ({ tables with events, snapshots, submissionAllocations, projections },
    drawn + 2 + allocations.length)

/-- The submission a correction targets: the effective one, under its event. -/
def RequestTables.requireEffectiveSubmission (tables : RequestTables)
    (spareRequestId submissionEventId : String) : Except Raised SubmissionSnapshot :=
  match tables.currentEffectiveSubmission spareRequestId with
  | some current => do
    ensure (current.submissionEventId = submissionEventId)
      (inventoryError "CORRECTION_TARGET_INVALID"
        "Target is not the current-effective accepted submission")
    return current
  | none => .error (inventoryError "CORRECTION_TARGET_INVALID"
      "Target is not the current-effective accepted submission")

def correctFalseSubmission (call : RequestCall) (tables : RequestTables) (rmas : List Rma)
    (spareRequestId submissionEventId reasonCode : String) : Except Raised RequestTables := do
  let detail ← tables.requireDetail spareRequestId
  let current ← tables.requireEffectiveSubmission spareRequestId submissionEventId
  ensure (detail.projection.currentSr7 = none)
    (inventoryError "CORRECTION_TARGET_INVALID" "Current SR7 contradicts a false-submission claim")
  ensure (rmaCount rmas spareRequestId = 0)
    (inventoryError "CORRECTION_TARGET_INVALID"
      "Accepted RMA authority contradicts a false-submission claim")
  let events ← insertKeyed (·.requestEventId) tables.events
    ⟨(call.newUuid4 0).value, spareRequestId, .submissionCorrectedFalse, none,
      some submissionEventId, some reasonCode, call.now⟩
  let fingerprint ← projectionFingerprint call.python spareRequestId
    detail.request.serviceRequestId detail.request.requesterContext
    ((tables.activeDraftAllocations call.surroundings spareRequestId).map fun item =>
      (item.1.spareNeedId, item.1.quantity))
    detail.logistics.mode detail.logistics.receiverContactId detail.logistics.dispatchLocationId
  let projections ← updateOne
    (fun row => row.spareRequestId = spareRequestId ∧
      row.revision = detail.projection.revision ∧
      row.currentSubmissionSnapshotId = some current.submissionSnapshotId)
    (fun row => { row with
      lifecycleState := .draft
      currentSubmissionSnapshotId := none
      submittedQuantity := 0
      responseWarningStartUtc := none
      revision := detail.projection.revision + 1
      inputFingerprint := fingerprint })
    (invStale "Spare Request changed during false-submission correction") tables.projections
  return { tables with events, projections }

/-! ## Authorization batches -/

/-- One normalized row of an authorization response. -/
structure RmaAuthorizationIntent where
  c10 : String
  promisedBomCode : String
  promisedBomKey : String

/-- `c10_owner(..) is not None`. -/
def C10Known (aliases : List C10Alias) (c10 : String) : Prop := c10 ∈ aliases.map (·.c10)

instance (aliases : List C10Alias) (c10 : String) : Decidable (C10Known aliases c10) :=
  inferInstanceAs (Decidable (_ ∈ _))

/-- `require_batch_eligible`, with `request_authorization_state`. -/
def requireBatchEligible (tables : RequestTables) (aliases : List C10Alias)
    (spareRequestId : String) (expectedRequestRevision : Nat)
    (intents : List RmaAuthorizationIntent) : Except Raised (SpareRequest × RequestProjection) :=
  match tables.requests.find? (·.spareRequestId = spareRequestId),
    tables.projection? spareRequestId with
  | some request, some projection => do
    ensure (projection.revision = expectedRequestRevision)
      (invStale "Spare Request revision changed")
    ensure (projection.currentSr7 ≠ none)
      (inventoryError "RMA_REQUIRES_SR7" "RMA authorization requires current SR7")
    ensure (¬ (projection.currentSubmissionSnapshotId = none ∧
        request.creationOrigin ≠ .externalRegistration))
      (inventoryError "REQUEST_SUBMISSION_INVALID"
        "RMA authorization requires accepted submission authority")
    ensure (projection.lifecycleState.isTerminal = false)
      (inventoryError "REQUEST_SUBMISSION_INVALID" "Terminal request cannot authorize RMA")
    ensure (∀ intent ∈ intents, ¬ C10Known aliases intent.c10)
      (inventoryError "C10_CONFLICT" "C10 is already current or former authority")
    return (request, projection)
  | _, _ => .error (invStale "Spare Request revision changed")

def eligibleTarget (surroundings : RequestSurroundings) (serviceRequestId bomKey : String)
    (assignments : List RmaAssignment) : Option String :=
  ((surroundings.devicePartUnits.filter fun unit =>
      unit.serviceRequestId = serviceRequestId ∧ unit.bomKey = bomKey ∧
      unit.devicePartUnitId ∉ assignments.map (·.devicePartUnitId)).insertionSort fun left right =>
    left.creationSequence < right.creationSequence ∨
      (left.creationSequence = right.creationSequence ∧
        left.devicePartUnitId ≤ right.devicePartUnitId)).head?.map (·.devicePartUnitId)

/-- The assignment of a new RMA to its eligible target. -/
def insertAutoAssignment (rmaId assignmentId : String) (target : Option String)
    (rows : List RmaAssignment) : Except Raised (List RmaAssignment) :=
  match target with
  | none => .ok rows
  | some devicePartUnitId => do
    -- The device and the assignment event are unique too.
    ensure (devicePartUnitId ∉ rows.map (·.devicePartUnitId) ∧
      assignmentId ∉ rows.map (·.assignmentEventId)) .other
    insertKeyed (·.rmaId) rows ⟨rmaId, devicePartUnitId, assignmentId, 1⟩

/-- What the batch returns of a new RMA. -/
structure CreatedRma where
  rmaId : String
  currentC10 : String
  promisedBom : String
  targetDevicePartUnitId : Option String

/-- One round of the loop over the response rows: its RMA under the identifiers
drawn for it. -/
def insertRma (call : RequestCall) (spareRequestId batchId serviceRequestId : String)
    (drawn responseOrdinal : Nat) (intent : RmaAuthorizationIntent) (tables : RmaTables) :
    Except Raised (RmaTables × CreatedRma) := do
  let rmaId := (call.newUuid4 drawn).value
  let rmas ← insertKeyed (·.rmaId) tables.rmas
    ⟨rmaId, spareRequestId, batchId, responseOrdinal, intent.promisedBomCode, intent.promisedBomKey⟩
  let c10Aliases ← insertKeyed (·.c10) tables.c10Aliases ⟨rmaId, intent.c10, .current⟩
  let target := eligibleTarget call.surroundings serviceRequestId intent.promisedBomKey
    tables.assignments
  let assignments ← insertAutoAssignment rmaId (call.newUuid4 (drawn + 1)).value target
    tables.assignments
  let obligations ← insertKeyed (·.rmaId) tables.obligations
    ⟨rmaId, .notEstablished, none, none, none, 1, none⟩
  let lifecycle ← insertKeyed (·.rmaId) tables.lifecycle
    ⟨rmaId, .promised, target, none, none, none, false, none, 1⟩
  return (⟨rmas, c10Aliases, assignments, obligations, lifecycle⟩,
    ⟨rmaId, intent.c10, intent.promisedBomCode, target⟩)

/-- The loop over the response rows. -/
def insertRmas (call : RequestCall) (spareRequestId batchId serviceRequestId : String) :
    Nat → Nat → List RmaAuthorizationIntent → RmaTables →
      Except Raised (RmaTables × List CreatedRma)
  | _, _, [], tables => .ok (tables, [])
  | drawn, responseOrdinal, intent :: rest, tables => do
    let (tables, item) ← insertRma call spareRequestId batchId serviceRequestId drawn
      responseOrdinal intent tables
    let (tables, created) ← insertRmas call spareRequestId batchId serviceRequestId (drawn + 2)
      (responseOrdinal + 1) rest tables
    return (tables, item :: created)

/-- `COALESCE(MAX(batch_ordinal),0)+1`. -/
def nextBatchOrdinal (batches : List AuthorizationBatch) (spareRequestId : String) : Nat :=
  ((batches.filter (·.spareRequestId = spareRequestId)).map (·.batchOrdinal)).foldr max 0 + 1

/-- `next_state` of a batch. -/
def authorizationState (submittedQuantity totalAuthorized : Nat) : RequestState :=
  if 0 < submittedQuantity ∧ totalAuthorized < submittedQuantity then .partiallyAuthorized
  else .authorized

/-- What `accept_authorization_batch` returns. -/
structure BatchAccepted where
  batchId : String
  created : List CreatedRma
  resultingRevision : Nat
  remaining : Nat

def acceptAuthorizationBatch (call : RequestCall) (requests : RequestTables) (rmas : RmaTables)
    (spareRequestId : String) (expectedRequestRevision : Nat)
    (intents : List RmaAuthorizationIntent) (acceptedAtUtc : Int) :
    Except Raised (RequestTables × RmaTables × BatchAccepted) := do
  let (request, projection) ← requireBatchEligible requests rmas.c10Aliases spareRequestId
    expectedRequestRevision intents
  let batchId := (call.newUuid4 0).value
  let batches ← insertKeyed (·.authorizationBatchId) requests.batches
    ⟨batchId, spareRequestId, nextBatchOrdinal requests.batches spareRequestId, acceptedAtUtc⟩
  let (rmas, created) ← insertRmas call spareRequestId batchId request.serviceRequestId 2 1 intents
    rmas
  let events ← insertKeyed (·.requestEventId) requests.events
    ⟨(call.newUuid4 1).value, spareRequestId, .authorizationProgress, some acceptedAtUtc, none, none,
      call.now⟩
  let totalAuthorized := projection.authorizedRmaCount + created.length
  let nextState := authorizationState projection.submittedQuantity totalAuthorized
  let fingerprint ← sha256CanonicalJson call.python (.obj [
    ("schema", .str "SOMA_SPARE_REQUEST_AUTHORIZATION_V1"),
    ("spare_request_id", .str spareRequestId),
    ("current_sr7", textOrNull projection.currentSr7),
    ("current_submission_snapshot_id", textOrNull projection.currentSubmissionSnapshotId),
    ("submitted_quantity", .int projection.submittedQuantity),
    ("authorized_rma_count", .int totalAuthorized),
    ("lifecycle_state", .str nextState.text),
    ("authorization_batch_id", .str batchId)])
  let projections ← updateOne
    (fun row => row.spareRequestId = spareRequestId ∧ row.revision = expectedRequestRevision)
    (fun row => { row with
      lifecycleState := nextState
      authorizedRmaCount := totalAuthorized
      revision := expectedRequestRevision + 1
      inputFingerprint := fingerprint })
    (invStale "Spare Request changed during RMA authorization") requests.projections
  return ({ requests with batches, events, projections }, rmas,
    ⟨batchId, created, expectedRequestRevision + 1,
      projection.submittedQuantity - totalAuthorized⟩)

end Soma.Inventory
