import Soma.Inventory.SpareRequests

/-!
The commands of `inventory/services/requests_rma.py` on Spare Requests, the
acceptance of a submission proposal and the correction of a false submission in
`inventory/services/corrections_bulk.py`, and the same acceptance for another
participant in `inventory/services/participants.py`.

What `prepare` checks and what `apply` then writes run in one transaction. The
proposal tables are written elsewhere, so a proposal and its targets come with
the call.
-/

namespace Soma.Inventory

open Foundation Transaction

/-- The tables of Spare Requests and of the RMAs authorized for them. -/
structure AuthorizationRows where
  requests : RequestTables
  rmas : RmaTables

abbrev AuthorizationBody (Result : Type) := Body AuthorizationRows Raised Result

/-- A repository call on the tables of Spare Requests. -/
def onRequests (change : AuthorizationRows → Except Raised RequestTables) :
    AuthorizationBody Unit := do
  let rows ← get
  let requests ← attempt (change rows)
  set { rows with requests }

/-- `validate_allocation_intents`, sorted by Need. -/
def validateAllocationIntents (allocations : List (String × Nat)) :
    Except Raised (List (String × Nat)) := do
  ensure (allocations ≠ []) (validationError "Spare Request requires one-or-more Need allocations")
  ensure (allocations.length ≤ 2000)
    (validationError "Spare Request allocation hard limit exceeded")
  ensure (∀ allocation ∈ allocations, 1 ≤ allocation.2 ∧ allocation.2 ≤ 1000000)
    (validationError
      "Spare Request allocation quantity must be a positive whole number <=1000000")
  ensure (allocations.map (·.1)).Nodup
    (validationError "Spare Request cannot repeat a Need in one draft")
  return allocations.insertionSort fun left right => left.1 ≤ right.1

def createSpareRequestDraft (call : RequestCall) (intent : DraftIntent) : AuthorizationBody Unit :=
  onRequests fun rows => do
    let allocations ← validateAllocationIntents intent.allocations
    let intent := { intent with allocations }
    let authority ← requireRequesterAuthority call.surroundings intent.requesterContactId
    requireReceiverAndLocation call.surroundings intent.receiverContactId intent.dispatchLocationId
    requireSrNeedAllocations call.surroundings intent.serviceRequestId intent.allocations
    let (tables, trackingSequence, trackingId) ← allocateSpareRequestTracking rows.requests
    insertDraft call tables intent trackingSequence trackingId
      (requesterContext intent.requesterContactId authority)

/-- `update_spare_request_draft`; a draft that is already so is left alone. -/
def updateSpareRequestDraft (call : RequestCall) (spareRequestId : String) (baseRevision : Nat)
    (allocations : List (String × Nat)) (mode : LogisticsMode)
    (receiverContactId dispatchLocationId : String) : AuthorizationBody Unit :=
  onRequests fun rows => do
    let allocations ← validateAllocationIntents allocations
    let detail ← rows.requests.requireDetailAt spareRequestId baseRevision
    ensure (detail.projection.lifecycleState = .draft ∧ detail.projection.currentSr7 = none)
      (inventoryError "REQUEST_NOT_DRAFT" "Spare Request is not editable Draft authority")
    requireReceiverAndLocation call.surroundings receiverContactId dispatchLocationId
    requireSrNeedAllocations call.surroundings detail.request.serviceRequestId allocations
    let current := (rows.requests.activeDraftAllocations call.surroundings spareRequestId).map
      fun item => (item.1.spareNeedId, item.1.quantity)
    if current = allocations ∧ detail.logistics.mode = mode ∧
        detail.logistics.receiverContactId = receiverContactId ∧
        detail.logistics.dispatchLocationId = dispatchLocationId then
      return rows.requests
    else
      replaceDraft call rows.requests spareRequestId baseRevision allocations mode receiverContactId
        dispatchLocationId

/-- `assign_or_correct_spare_request_official_id`. -/
def assignOrCorrectOfficialId (call : RequestCall) (spareRequestId : String) (baseRevision : Nat)
    (sr7 : String) (action : Sr7Action) : AuthorizationBody Unit :=
  onRequests fun rows => do
    let detail ← rows.requests.requireDetailAt spareRequestId baseRevision
    if detail.projection.currentSr7 = some sr7 then return rows.requests
    else assignOrCorrectSr7 call rows.requests spareRequestId baseRevision sr7 action

def cancelOrRejectSpareRequest (call : RequestCall) (spareRequestId : String) (baseRevision : Nat)
    (action : TerminalAction) (reasonCode : String) : AuthorizationBody Unit :=
  onRequests fun rows => do
    let detail ← rows.requests.requireDetailAt spareRequestId baseRevision
    if detail.projection.lifecycleState = action.state then return rows.requests
    else cancelOrReject call rows.requests rows.rmas.rmas spareRequestId baseRevision action reasonCode

/-- `accept_spare_request_submission`; `prepare` reads the fingerprint before the state. -/
def acceptSpareRequestSubmission (call : RequestCall) (spareRequestId expectedFingerprint : String)
    (effectiveSubmissionAtUtc : Option Int) (evidence : SubmissionEvidence) :
    AuthorizationBody Unit :=
  onRequests fun rows => do
    let detail ← rows.requests.requireDetail spareRequestId
    ensure (detail.projection.inputFingerprint = expectedFingerprint)
      (invStale "Spare Request draft fingerprint changed")
    ensure (detail.projection.lifecycleState = .draft)
      (inventoryError "REQUEST_NOT_DRAFT" "Spare Request is not Draft")
    ensure (detail.projection.currentSubmissionSnapshotId = none)
      (inventoryError "REQUEST_NOT_DRAFT" "Spare Request already has submission authority")
    let (tables, _) ← acceptSubmission call 0 rows.requests spareRequestId expectedFingerprint
      effectiveSubmissionAtUtc evidence
    return tables

/-- `correct_false_spare_request_submission`, and `correct_inventory_evidence` for a
`false_spare_request_submission`: they check the same and call the same. -/
def correctFalseSpareRequestSubmission (call : RequestCall)
    (spareRequestId submissionEventId reasonCode : String) : AuthorizationBody Unit :=
  onRequests fun rows => do
    let _ ← rows.requests.requireEffectiveSubmission spareRequestId submissionEventId
    correctFalseSubmission call rows.requests rows.rmas.rmas spareRequestId submissionEventId
      reasonCode

/-! ## Submission proposals -/

/-- A parsed target of a `spare_request_submission` proposal. -/
structure SubmissionTarget where
  proposalTargetId : String
  spareRequestId : String
  expectedRevision : Nat
  effectiveAtUtc : Option Int
  expectedDraftFingerprint : String

/-- The row of `inventory_proposals` a command names, as it stands. -/
structure SubmissionProposal where
  isPending : Bool
  evidenceId : String
  inputFingerprint : String
  revision : Nat
  targets : List SubmissionTarget

/-- What `prepare` checks of one target. -/
def checkSubmissionTarget (tables : RequestTables) (target : SubmissionTarget) :
    Except Raised Unit :=
  match tables.currentDetail target.spareRequestId with
  | none => .error (inventoryError "PROPOSAL_STALE" "Spare Request draft authority changed")
  | some detail => do
    ensure (detail.projection.revision = target.expectedRevision ∧
        detail.projection.inputFingerprint = target.expectedDraftFingerprint)
      (inventoryError "PROPOSAL_STALE" "Spare Request draft authority changed")
    ensure (detail.projection.lifecycleState = .draft)
      (inventoryError "PROPOSAL_STALE" "Spare Request is no longer Draft")
    ensure (detail.projection.currentSubmissionSnapshotId = none)
      (inventoryError "PROPOSAL_STALE" "Spare Request already has submission authority")

/-- The loop that accepts the submission of every target. -/
def acceptSubmissions (call : RequestCall) (evidenceId : String) :
    Nat → List SubmissionTarget → RequestTables → Except Raised RequestTables
  | _, [], tables => .ok tables
  | drawn, target :: rest, tables => do
    let (tables, drawn) ← acceptSubmission call drawn tables target.spareRequestId
      target.expectedDraftFingerprint target.effectiveAtUtc (.indexedSent evidenceId)
    acceptSubmissions call evidenceId drawn rest tables

/-- `accept_inventory_proposal` for a `spare_request_submission`. -/
def acceptSubmissionProposal (call : RequestCall) (proposal : SubmissionProposal)
    (expectedRevision : Nat) (inputFingerprint : String) : AuthorizationBody Unit :=
  onRequests fun rows => do
    ensure (proposal.isPending ∧ proposal.inputFingerprint = inputFingerprint ∧
        proposal.revision = expectedRevision)
      (inventoryError "PROPOSAL_STALE" "Inventory proposal changed")
    ensure (proposal.targets ≠ []) (integrityFailure "Inventory proposal has no target authority")
    proposal.targets.forM (checkSubmissionTarget rows.requests)
    acceptSubmissions call proposal.evidenceId 0 proposal.targets rows.requests

/-- `InventoryProposalTargetService.apply` for a `spare_request_submission`: the
caller's preview must still stand, the targets are not checked beforehand. -/
def applySubmissionProposal (call : RequestCall) (evidenceId : String)
    (targets : List SubmissionTarget) (previewStands : Bool) : AuthorizationBody Unit :=
  onRequests fun rows => do
    ensure previewStands
      (inventoryError "PROPOSAL_STALE" "Inventory proposal target authority changed")
    acceptSubmissions call evidenceId 0 targets rows.requests

/-! ## Authorization batches -/

def validateAuthorizationIntents (intents : List RmaAuthorizationIntent) : Except Raised Unit := do
  ensure (intents ≠ []) (validationError "RMA authorization requires one-or-more ordered rows")
  ensure (intents.length ≤ 2000) (validationError "RMA authorization batch hard limit exceeded")
  ensure (intents.map (·.c10)).Nodup
    (validationError "RMA authorization batch contains duplicate C10 values")

/-- `accept_rma_authorization_batch`, without the attention it rebuilds. -/
def acceptRmaAuthorizationBatch (call : RequestCall) (spareRequestId : String)
    (expectedRequestRevision : Nat) (intents : List RmaAuthorizationIntent) (acceptedAtUtc : Int) :
    AuthorizationBody BatchAccepted := do
  let rows ← get
  attempt (validateAuthorizationIntents intents)
  let (requests, rmas, accepted) ← attempt (acceptAuthorizationBatch call rows.requests rows.rmas
    spareRequestId expectedRequestRevision intents acceptedAtUtc)
  set ({ requests, rmas } : AuthorizationRows)
  return accepted

/-! ## Commands -/

/-- The commands that write a Spare Request. -/
inductive RequestCommand where
  | createDraft (call : RequestCall) (intent : DraftIntent)
  | updateDraft (call : RequestCall) (spareRequestId : String) (baseRevision : Nat)
      (allocations : List (String × Nat)) (mode : LogisticsMode)
      (receiverContactId dispatchLocationId : String)
  | acceptSubmission (call : RequestCall) (spareRequestId expectedFingerprint : String)
      (effectiveSubmissionAtUtc : Option Int) (evidence : SubmissionEvidence)
  | acceptProposal (call : RequestCall) (proposal : SubmissionProposal) (expectedRevision : Nat)
      (inputFingerprint : String)
  | applyProposal (call : RequestCall) (evidenceId : String) (targets : List SubmissionTarget)
      (previewStands : Bool)
  | correctFalseSubmission (call : RequestCall)
      (spareRequestId submissionEventId reasonCode : String)
  | assignOrCorrectSr7 (call : RequestCall) (spareRequestId : String) (baseRevision : Nat)
      (sr7 : String) (action : Sr7Action)
  | cancelOrReject (call : RequestCall) (spareRequestId : String) (baseRevision : Nat)
      (action : TerminalAction) (reasonCode : String)
  | acceptBatch (call : RequestCall) (spareRequestId : String) (expectedRequestRevision : Nat)
      (intents : List RmaAuthorizationIntent) (acceptedAtUtc : Int)

def RequestCommand.body : RequestCommand → AuthorizationBody Unit
  | .createDraft call intent => createSpareRequestDraft call intent
  | .updateDraft call spareRequestId baseRevision allocations mode receiver location =>
    updateSpareRequestDraft call spareRequestId baseRevision allocations mode receiver location
  | .acceptSubmission call spareRequestId expectedFingerprint effectiveAt evidence =>
    acceptSpareRequestSubmission call spareRequestId expectedFingerprint effectiveAt evidence
  | .acceptProposal call proposal expectedRevision inputFingerprint =>
    acceptSubmissionProposal call proposal expectedRevision inputFingerprint
  | .applyProposal call evidenceId targets previewStands =>
    applySubmissionProposal call evidenceId targets previewStands
  | .correctFalseSubmission call spareRequestId submissionEventId reasonCode =>
    correctFalseSpareRequestSubmission call spareRequestId submissionEventId reasonCode
  | .assignOrCorrectSr7 call spareRequestId baseRevision sr7 action =>
    assignOrCorrectOfficialId call spareRequestId baseRevision sr7 action
  | .cancelOrReject call spareRequestId baseRevision action reasonCode =>
    cancelOrRejectSpareRequest call spareRequestId baseRevision action reasonCode
  | .acceptBatch call spareRequestId expectedRevision intents acceptedAt => do
    let _ ← acceptRmaAuthorizationBatch call spareRequestId expectedRevision intents acceptedAt
    return ()

/-- The rows after a command, whether it was refused or not. -/
def RequestCommand.execute (command : RequestCommand) (rows : AuthorizationRows) :
    AuthorizationRows :=
  (commit command.body rows).2

end Soma.Inventory
