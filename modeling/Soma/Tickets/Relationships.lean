import Soma.Tickets.RfcHierarchy

/-!
`tickets/relationships.py` and `link_sr_from_review` of
`tickets/rfc_import_mutations.py`: linking a Service Request to the root RFC
that governs it, by hand or by an accepted import proposal, and unlinking it.
-/

namespace Soma.Tickets

open Foundation Transaction

structure TicketMutationResult where
  noChange : Bool
  targetId : String
  revision : Int
  deriving DecidableEq

/-- `_load_sr` and `_require_sr_revision`. -/
def loadServiceRequest (rows : TicketRows) (serviceRequestId : String) :
    Except Raised ServiceRequest :=
  match rows.serviceRequest? serviceRequestId with
  | none => .error (ticketError "NOT_FOUND" "Service Request does not exist")
  | some row => .ok row

def loadRoot (rows : TicketRows) (rfcId : String) : Except Raised Rfc := do
  let row ← loadRfc rows rfcId
  ensure (rows.activeParent? rfcId = none)
    (ticketError "RFC_DIRECT_SR_LINK_ON_SUBORDINATE"
      "direct Service Request relationship must target the governing root RFC")
  return row

def validateSubordinateOrigin (rows : TicketRows) (rootRfcId : String) :
    Option String → Except Raised Unit
  | none => .ok ()
  | some originRfcId =>
    ensure ((rows.activeParent? originRfcId).map (·.parentRfcId) = some rootRfcId)
      (ticketError "TICKET_RELATIONSHIP_STALE"
        "subordinate-origin provenance no longer belongs to the reviewed governing root")

/-- The Customer a Service Request currently has. -/
def TicketRows.customerOfServiceRequest (rows : TicketRows) (serviceRequestId : String) :
    Option String :=
  (rows.currentCustomer? serviceRequestId).map (·.customerOrgId)

/-- `_customer_warnings`: the Customer of the Service Request against those of
the RFCs of the branch, with the warnings. -/
def customerWarnings (rows : TicketRows) (serviceRequestId rootRfcId : String) :
    Except Raised (List String) := do
  let serviceRequestCustomer := rows.customerOfServiceRequest serviceRequestId
  let branchCustomers := (rows.branchRows rootRfcId).map (·.customerOrgId)
  let known := serviceRequestCustomer :: branchCustomers
  -- The Service Requests already linked to the root are not read.
  ensure (∀ first ∈ known, ∀ second ∈ known, differ first second = false)
    (ticketError "RFC_CUSTOMER_MISMATCH"
      "Service Request and RFC branch resolve to different Customers")
  return if none ∈ known then ["RFC_CUSTOMER_UNRESOLVED"] else []

/-- `SrRfcLinkPreview`, without its fingerprint. -/
structure LinkPreview where
  serviceRequestRevision : Int
  rfcRevision : Int
  duplicateActive : Bool
  reviewRequired : Bool
  warnings : List String

/-- `review_required` of a link: nothing to review when it is already active. -/
def linkReviewRequired (call : Call) (duplicate : Bool) (root : Rfc) : Bool :=
  !duplicate && (call.serviceRequestTerminal || call.rfcTerminal || root.localArchiveState = .archived)

/-- `_preview_with_reader`. -/
def previewLink (call : Call) (rows : TicketRows) (serviceRequestId rfcId : String)
    (subordinateOrigin : Option String) : Except Raised LinkPreview := do
  let serviceRequest ← loadServiceRequest rows serviceRequestId
  let root ← loadRoot rows rfcId
  validateSubordinateOrigin rows rfcId subordinateOrigin
  let duplicate := (rows.activeLink? serviceRequestId rfcId).isSome
  let warnings ← customerWarnings rows serviceRequestId rfcId
  return ⟨serviceRequest.revision, root.revision, duplicate, linkReviewRequired call duplicate root,
    warnings⟩

/-- The reads of `link.prepare`; whether there is a link to insert. -/
def prepareLink (call : Call) (rows : TicketRows) (serviceRequestId rfcId : String)
    (serviceRequestRevision rfcRevision : Int) (subordinateOrigin : Option String) :
    Except Raised Bool := do
  let preview ← previewLink call rows serviceRequestId rfcId subordinateOrigin
  ensure (preview.serviceRequestRevision = serviceRequestRevision ∧
      preview.rfcRevision = rfcRevision)
    (ticketError "TICKET_RELATIONSHIP_STALE" "Service Request or RFC revision changed")
  if preview.duplicateActive then return false
  else do
    ensure (call.review = .absent ∨ call.review = .current)
      (ticketError "TICKET_RELATIONSHIP_STALE" "relationship review fingerprint is stale")
    ensure (preview.reviewRequired → call.review = .current)
      (ticketError "TICKET_RELATIONSHIP_STALE"
        "fresh terminal/historical relationship review is required")
    return true

/-- Advances a Service Request and an RFC from the revisions the caller read. -/
def reviseLinked (serviceRequestId rfcId : String) (serviceRequestRevision rfcRevision : Int)
    (stale : Raised) : TicketBody PUnit := do
  let tables ← get
  require (tables.rows.serviceRequests.countP (fun row =>
      row.serviceRequestId = serviceRequestId ∧ row.revision = serviceRequestRevision) = 1 ∧
      tables.rows.rfcs.countP (fun row => row.rfcId = rfcId ∧ row.revision = rfcRevision) = 1) stale
  writeTickets (·.reviseServiceRequest serviceRequestId serviceRequestRevision)
  writeTickets (·.reviseRfcs fun row => row.rfcId = rfcId ∧ row.revision = rfcRevision)

def link (call : Call) (serviceRequestId rfcId : String) (serviceRequestRevision rfcRevision : Int)
    (subordinateOrigin : Option String) : TicketBody TicketMutationResult := do
  let tables ← get
  let inserts ← attempt (prepareLink call tables.rows serviceRequestId rfcId
    serviceRequestRevision rfcRevision subordinateOrigin)
  if inserts then
    writeTickets (·.insertLink call.relationshipId.value serviceRequestId rfcId)
    reviseLinked serviceRequestId rfcId serviceRequestRevision rfcRevision
      (ticketError "TICKET_RELATIONSHIP_STALE" "Service Request or RFC revision changed")
    return ⟨false, serviceRequestId, serviceRequestRevision + 1⟩
  else return ⟨true, serviceRequestId, serviceRequestRevision⟩

/-- The reads of `unlink.prepare`; the active link, when there is one. -/
def prepareUnlink (rows : TicketRows) (serviceRequestId rootRfcId : String)
    (serviceRequestRevision rfcRevision : Int) : Except Raised (Option SrRfcLink) := do
  let serviceRequest ← loadServiceRequest rows serviceRequestId
  let root ← loadRoot rows rootRfcId
  ensure (serviceRequest.revision = serviceRequestRevision ∧ root.revision = rfcRevision)
    (ticketError "TICKET_RELATIONSHIP_STALE" "Service Request or RFC revision changed")
  return rows.activeLink? serviceRequestId rootRfcId

def unlink (call : Call) (serviceRequestId rootRfcId : String)
    (serviceRequestRevision rfcRevision : Int) : TicketBody TicketMutationResult := do
  attempt (validateReasonCategory call.reasonCategory)
  let tables ← get
  let active ← attempt (prepareUnlink tables.rows serviceRequestId rootRfcId
    serviceRequestRevision rfcRevision)
  match active with
  | none => return ⟨true, serviceRequestId, serviceRequestRevision⟩
  | some active => do
    require (tables.rows.activeLinks.countP (·.srRfcLinkId = active.srRfcLinkId) = 1)
      (ticketError "TICKET_RELATIONSHIP_STALE" "relationship or ticket revision changed")
    writeTickets (·.unlinkLink active.srRfcLinkId)
    reviseLinked serviceRequestId rootRfcId serviceRequestRevision rfcRevision
      (ticketError "TICKET_RELATIONSHIP_STALE" "relationship or ticket revision changed")
    return ⟨false, serviceRequestId, serviceRequestRevision + 1⟩

/-! ## The reviewed import of a link -/

/-- `RfcImportReader.governing_root`. -/
def importGoverningRoot (rows : TicketRows) (rfcId : String) : Except Raised String := do
  let _ ← loadRfc rows rfcId
  match rows.activeParent? rfcId with
  | none => return rfcId
  | some edge => do
    ensure (edge.parentRfcId ≠ rfcId)
      (integrityFailure "RFC hierarchy contains a self-parent edge")
    ensure ((rows.rfc? edge.parentRfcId).isSome)
      (integrityFailure "RFC governing parent does not exist")
    ensure (rows.activeParent? edge.parentRfcId = none)
      (integrityFailure "RFC hierarchy exceeds the accepted two-level invariant")
    return edge.parentRfcId

/-- `RfcSrLinkReviewContext`, without its token. -/
structure LinkReviewContext where
  governingRootRfcId : String
  serviceRequestRevision : Int
  rfcRevision : Int
  duplicateActive : Bool

/-- `sr_link_candidate_context`. -/
def linkCandidateContext (rows : TicketRows) (serviceRequestId requestedRfcId : String) :
    Except Raised LinkReviewContext := do
  let serviceRequest ← (rows.serviceRequest? serviceRequestId).elim
    (.error (ticketError "NOT_FOUND" "exact Service Request identity does not exist")) .ok
  let rootId ← importGoverningRoot rows requestedRfcId
  let root ← loadRfc rows rootId
  let _ ← customerWarnings rows serviceRequestId rootId
  return ⟨rootId, serviceRequest.revision, root.revision,
    (rows.activeLink? serviceRequestId rootId).isSome⟩

def importStale (message : String) : Raised :=
  ticketError "IMPORT_PROPOSAL_STALE" message

def linkSrFromReview (call : Call) (serviceRequestId requestedRfcId : String) :
    TicketBody TicketMutationResult := do
  let tables ← get
  let context ← attempt (linkCandidateContext tables.rows serviceRequestId requestedRfcId)
  require (call.review = .current) (importStale "RFC/SR relationship base state changed")
  require (context.duplicateActive = false)
    (importStale "reviewed RFC/SR relationship is already active")
  writeTickets (·.insertLink call.relationshipId.value serviceRequestId context.governingRootRfcId)
  reviseLinked serviceRequestId context.governingRootRfcId context.serviceRequestRevision
    context.rfcRevision
    (importStale "Service Request or governing RFC changed during acceptance")
  return ⟨false, serviceRequestId, context.serviceRequestRevision + 1⟩

end Soma.Tickets
