import Soma.Tickets.Relationships

/-!
The commands that give an RFC or a Service Request another Customer:
`set_customer` of `tickets/rfcs.py` and of `tickets/sr_references.py`, and
`set_customer_from_review` of `tickets/rfc_import_mutations.py` and of
`tickets/_import_mutations_core.py`, which accept an import proposal.
-/

namespace Soma.Tickets

open Foundation Transaction

/-! ## RFCs -/

def requireActiveCustomer : CustomerState → Except Raised Unit
  | .missing => .error (ticketError "NOT_FOUND" "Customer Organization does not exist")
  | .archived => .error (ticketError "CUSTOMER_ORG_INACTIVE" "Customer Organization is archived")
  | .active => .ok ()

/-- A Customer that is given has to be active. -/
def requireTarget (call : Call) : Option String → Except Raised Unit
  | none => .ok ()
  | some _ => requireActiveCustomer call.targetCustomer

/-- The comparison both commands make: the other RFCs of the branch, and not
the Service Requests linked to its root. -/
def compareBranch (rows : TicketRows) (rfcId : String) (customerOrgId : Option String) :
    Except Raised Unit :=
  ensure (∀ member ∈ rows.branchRows (rows.rootOf rfcId), member.rfcId ≠ rfcId →
      member.customerOrgId ≠ none → member.customerOrgId = customerOrgId)
    (ticketError "RFC_CUSTOMER_MISMATCH"
      "known RFC branch members resolve to a different Customer Organization")

/-- The reads of `set_customer.prepare`; whether there is a change to make. -/
def prepareRfcCustomer (call : Call) (rows : TicketRows) (rfcId : String) (baseRevision : Int)
    (customerOrgId : Option String) : Except Raised Bool := do
  let row ← loadRfc rows rfcId
  ensure (row.revision = baseRevision) (ticketError "STALE_REVISION" "RFC revision changed")
  requireTarget call customerOrgId
  if row.customerOrgId = customerOrgId then return false
  else do
    compareBranch rows rfcId customerOrgId
    return true

def setRfcCustomer (call : Call) (rfcId : String) (baseRevision : Int)
    (customerOrgId : Option String) : TicketBody TicketMutationResult := do
  attempt (validateReasonCategory call.reasonCategory)
  attempt call.validateReview
  let tables ← get
  let changes ← attempt (prepareRfcCustomer call tables.rows rfcId baseRevision customerOrgId)
  if changes then
    writeTickets (·.assignRfc rfcId customerOrgId)
    return ⟨false, rfcId, baseRevision + 1⟩
  else return ⟨true, rfcId, baseRevision⟩

/-- The reads of `set_customer_from_review`; the RFC's revision. -/
def prepareRfcCustomerReview (call : Call) (rows : TicketRows) (rfcId customerOrgId : String)
    (expectedPrior : Option String) : Except Raised Int := do
  let row ← loadRfc rows rfcId
  ensure (call.targetCustomer ≠ .missing)
    (ticketError "NOT_FOUND" "Customer Organization does not exist")
  ensure (call.review = .current) (importStale "RFC Customer reconciliation base state changed")
  ensure (row.customerOrgId = expectedPrior ∧ row.customerOrgId ≠ some customerOrgId)
    (importStale "RFC Customer proposal no longer represents a material change")
  ensure (call.targetCustomer = .active)
    (importStale "reviewed Customer Organization is no longer active")
  compareBranch rows rfcId (some customerOrgId)
  return row.revision

def setRfcCustomerFromReview (call : Call) (rfcId customerOrgId : String)
    (expectedPrior : Option String) : TicketBody TicketMutationResult := do
  attempt (requireUuid4 rfcId)
  attempt (requireUuid4 customerOrgId)
  let tables ← get
  let revision ← attempt
    (prepareRfcCustomerReview call tables.rows rfcId customerOrgId expectedPrior)
  writeTickets (·.assignRfc rfcId (some customerOrgId))
  return ⟨false, rfcId, revision + 1⟩

/-! ## Service Requests -/

/-- `supersede_customer`: the `UPDATE` has to hit exactly one row. -/
def supersedeServiceRequestCustomer (relationshipId : String) : TicketBody PUnit := do
  let tables ← get
  require (tables.rows.activeCustomers.countP
      (fun row => row.srCustomerRelationshipId = relationshipId) = 1)
    (ticketError "SR_REFERENCE_STALE" "current Service Request Customer relationship changed")
  writeTickets (·.supersedeCustomer relationshipId)

/-- Supersedes the current relationship, when there is one. -/
def closeCurrentCustomer : Option SrCustomerRelationship → TicketBody PUnit
  | none => return ⟨⟩
  | some current => supersedeServiceRequestCustomer current.srCustomerRelationshipId

/-- Opens a relationship, when a Customer was given. -/
def openCustomer (call : Call) (serviceRequestId : String) : Option String → TicketBody PUnit
  | none => return ⟨⟩
  | some customerOrgId =>
    writeTickets (·.insertCustomer call.relationshipId.value serviceRequestId customerOrgId)

def classificationFailure : Raised :=
  ticketError "SR_CUSTOMER_CLASSIFICATION_PARTICIPANT_FAILED"
    "LLD-06 could not determinately apply Service Request Customer classification consequences"

/-- The writes both commands make. -/
def applyServiceRequestCustomer (call : Call) (serviceRequest : ServiceRequest)
    (current : Option SrCustomerRelationship) (customerOrgId : Option String) (stale : Raised) :
    TicketBody PUnit := do
  closeCurrentCustomer current
  openCustomer call serviceRequest.serviceRequestId customerOrgId
  let tables ← get
  require (tables.rows.serviceRequests.countP (fun row =>
      row.serviceRequestId = serviceRequest.serviceRequestId ∧
      row.revision = serviceRequest.revision) = 1) stale
  writeTickets (·.reviseServiceRequest serviceRequest.serviceRequestId serviceRequest.revision)
  require call.classificationApplies classificationFailure

/-- The reads of `set_customer.prepare`. -/
def prepareServiceRequestCustomer (call : Call) (rows : TicketRows) (serviceRequestId : String)
    (baseRevision : Int) (customerOrgId : Option String) : Except Raised ServiceRequest := do
  let serviceRequest ← loadServiceRequest rows serviceRequestId
  ensure (serviceRequest.revision = baseRevision)
    (ticketError "SR_REFERENCE_STALE" "Service Request revision changed")
  ensure (customerOrgId ≠ none → call.targetCustomer = .active)
    (ticketError "SR_REFERENCE_TARGET_INVALID" "Customer Organization is missing or archived")
  ensure (call.review = .absent ∨ call.review = .current)
    (ticketError "SR_REFERENCE_STALE" "Service Request Customer review context changed")
  return serviceRequest

/-- `set_customer` of a Service Request: no branch is read. -/
def setServiceRequestCustomer (call : Call) (serviceRequestId : String) (baseRevision : Int)
    (customerOrgId : Option String) : TicketBody TicketMutationResult := do
  attempt (validateReasonCategory call.reasonCategory)
  attempt call.validateReview
  let tables ← get
  let serviceRequest ← attempt
    (prepareServiceRequestCustomer call tables.rows serviceRequestId baseRevision customerOrgId)
  if tables.rows.customerOfServiceRequest serviceRequestId = customerOrgId then
    return ⟨true, serviceRequestId, baseRevision⟩
  else do
    applyServiceRequestCustomer call serviceRequest (tables.rows.currentCustomer? serviceRequestId)
      customerOrgId (ticketError "SR_REFERENCE_STALE" "Service Request revision changed")
    return ⟨false, serviceRequestId, baseRevision + 1⟩

/-- The reads of `set_customer_from_review`. -/
def prepareServiceRequestCustomerReview (call : Call) (rows : TicketRows)
    (serviceRequestId customerOrgId : String) (expectedPrior : Option String) :
    Except Raised ServiceRequest := do
  let serviceRequest ← (rows.serviceRequest? serviceRequestId).elim
    (.error (importStale "Service Request target no longer exists")) .ok
  ensure (call.review = .current)
    (importStale "Service Request Customer reconciliation base state changed")
  ensure (call.targetCustomer = .active)
    (importStale "reviewed Customer Organization is missing or archived")
  ensure (rows.customerOfServiceRequest serviceRequestId = expectedPrior)
    (importStale "Service Request current Customer no longer matches proposal before-state")
  ensure (rows.customerOfServiceRequest serviceRequestId ≠ some customerOrgId)
    (importStale "Customer reconciliation no longer represents a material relationship change")
  return serviceRequest

/-- `set_customer_from_review` of a Service Request: no branch is read. -/
def setServiceRequestCustomerFromReview (call : Call) (serviceRequestId customerOrgId : String)
    (expectedPrior : Option String) : TicketBody TicketMutationResult := do
  let tables ← get
  let serviceRequest ← attempt
    (prepareServiceRequestCustomerReview call tables.rows serviceRequestId customerOrgId
      expectedPrior)
  applyServiceRequestCustomer call serviceRequest (tables.rows.currentCustomer? serviceRequestId)
    (some customerOrgId)
    (importStale "Service Request revision changed during Customer reconciliation")
  return ⟨false, serviceRequestId, serviceRequest.revision + 1⟩

end Soma.Tickets
