import Soma.Tickets.Relationships

/-!
The hierarchy and link commands down to their SQL statements, on rows that only
the declared checks, the unique indexes and the triggers of
`0003_tickets_core.sql` constrain.
-/

namespace Soma.Tickets.Statements

open Foundation Transaction

/-- A body over plain rows. -/
abbrev RowsBody (Result : Type) := Body TicketRows Raised Result

/-- `INSERT INTO rfc_hierarchy_edges`, as an active edge. -/
def insertEdge (edgeId parentRfcId childRfcId : String) : RowsBody PUnit := do
  let rows ← get
  -- The declared key, check and references.
  require (edgeId ∉ rows.hierarchyEdges.map (·.rfcHierarchyEdgeId) ∧ parentRfcId ≠ childRfcId ∧
    parentRfcId ∈ rows.rfcs.map (·.rfcId) ∧ childRfcId ∈ rows.rfcs.map (·.rfcId)) .other
  -- `rfc_hierarchy_insert_parent_not_subordinate`
  require (rows.activeParent? parentRfcId = none) .other
  -- `rfc_hierarchy_insert_child_not_parent`
  require (hasSubordinates rows childRfcId = false) .other
  -- `rfc_hierarchy_insert_child_without_direct_sr_link`
  require (hasDirectLink rows childRfcId = false) .other
  -- `uq_rfc_active_parent`
  require (rows.activeParent? childRfcId = none) .other
  set (rows.insertEdge edgeId parentRfcId childRfcId)

/-- `UPDATE rfc_hierarchy_edges SET edge_state='superseded'`, which
`rfc_hierarchy_update_guard` admits for an active edge. -/
def supersedeEdge (edgeId : String) : RowsBody PUnit := do
  let rows ← get
  set (rows.supersedeEdge edgeId)

/-- `INSERT INTO sr_rfc_links`, as an active link. -/
def insertLink (linkId serviceRequestId rfcId : String) : RowsBody PUnit := do
  let rows ← get
  -- The declared key and references.
  require (linkId ∉ rows.srRfcLinks.map (·.srRfcLinkId) ∧ rfcId ∈ rows.rfcs.map (·.rfcId) ∧
    serviceRequestId ∈ rows.serviceRequests.map (·.serviceRequestId)) .other
  -- `sr_rfc_insert_root_only`
  require (rows.activeParent? rfcId = none) .other
  -- `uq_sr_rfc_active_pair`
  require (rows.activeLink? serviceRequestId rfcId = none) .other
  set (rows.insertLink linkId serviceRequestId rfcId)

/-- `UPDATE sr_rfc_links SET link_state='unlinked'`. -/
def unlinkLink (linkId : String) : RowsBody PUnit := do
  let rows ← get
  set (rows.unlinkLink linkId)

/-- `UPDATE rfcs SET revision=revision+1 .. WHERE ..`. -/
def reviseRfcs (selected : Rfc → Bool) : RowsBody PUnit := do
  let rows ← get
  set (rows.reviseRfcs selected)

/-- `UPDATE service_requests SET revision=revision+1 .. WHERE ..`. -/
def reviseServiceRequest (serviceRequestId : String) (baseRevision : Int) : RowsBody PUnit := do
  let rows ← get
  set (rows.reviseServiceRequest serviceRequestId baseRevision)

/-! ## The commands -/

/-- `_branch_response_factory`. -/
def branchResponse (rootRfcId : String) : RowsBody (List Rfc) := do
  let rows ← get
  attempt (branchAuthority rows rootRfcId)
  return rows.branchRows rootRfcId

def applyAttachment (call : Call) (parentRfcId childRfcId : String) : RowsBody PUnit := do
  insertEdge call.relationshipId.value parentRfcId childRfcId
  reviseRfcs fun row => row.rfcId ∈ [parentRfcId, childRfcId]

def addSubordinate (call : Call) (parentRfcId childRfcId : String)
    (baseRevisions : List (String × Int)) : RowsBody (List Rfc) := do
  require (parentRfcId ≠ childRfcId)
    (ticketError "RFC_HIERARCHY_CYCLE" "RFC cannot be its own parent")
  attempt (validateBaseRevisions parentRfcId childRfcId baseRevisions)
  attempt (validateReasonCategory call.reasonCategory)
  attempt call.validateReview
  let rows ← get
  let inserts ← attempt (attachment rows parentRfcId childRfcId baseRevisions)
  if inserts then applyAttachment call parentRfcId childRfcId
  branchResponse parentRfcId

def closeReviewedEdge (oldEdge : RfcHierarchyEdge) (childRfcId message : String) :
    RowsBody PUnit := do
  let rows ← get
  require (rows.activeEdges.countP (fun edge =>
      edge.rfcHierarchyEdgeId = oldEdge.rfcHierarchyEdgeId ∧
      edge.parentRfcId = oldEdge.parentRfcId ∧ edge.childRfcId = childRfcId) = 1)
    (integrityFailure message)
  supersedeEdge oldEdge.rfcHierarchyEdgeId

def reviseParticipants (participants : List String) (count : Nat) (message : String) :
    RowsBody PUnit := do
  let rows ← get
  require (rows.rfcs.countP (fun row => row.rfcId ∈ participants) = count)
    (integrityFailure message)
  reviseRfcs fun row => row.rfcId ∈ participants

def applyReparent (call : Call) (preview : HierarchyPreview) (childRfcId newParentRfcId : String) :
    RowsBody PUnit := do
  closeReviewedEdge preview.oldEdge childRfcId
    "reviewed RFC hierarchy edge disappeared before reparent"
  insertEdge call.relationshipId.value newParentRfcId childRfcId
  reviseParticipants [preview.oldEdge.parentRfcId, childRfcId, newParentRfcId] 3
    "reviewed RFC reparent participant set changed during mutation"

def reparentSubordinate (call : Call) (childRfcId newParentRfcId : String)
    (baseRevisions : List (String × Int)) : RowsBody (List Rfc) := do
  attempt (requireUuid4 childRfcId)
  attempt (requireUuid4 newParentRfcId)
  attempt (validateMutationBaseRevisions 3 baseRevisions)
  attempt (validateReasonCategory call.reasonCategory)
  attempt call.validateReview
  let rows ← get
  let preview ← attempt
    (prepareCorrection call rows childRfcId (some newParentRfcId) baseRevisions)
  applyReparent call preview childRfcId newParentRfcId
  branchResponse newParentRfcId

def applyDetach (preview : HierarchyPreview) (childRfcId : String) : RowsBody PUnit := do
  closeReviewedEdge preview.oldEdge childRfcId
    "reviewed RFC hierarchy edge disappeared before detach"
  reviseParticipants [preview.oldEdge.parentRfcId, childRfcId] 2
    "reviewed RFC detach participant set changed during mutation"

def detachSubordinate (call : Call) (childRfcId : String) (baseRevisions : List (String × Int)) :
    RowsBody (List Rfc) := do
  attempt (requireUuid4 childRfcId)
  attempt (validateMutationBaseRevisions 2 baseRevisions)
  attempt (validateReasonCategory call.reasonCategory)
  attempt call.validateReview
  let rows ← get
  let preview ← attempt (prepareCorrection call rows childRfcId none baseRevisions)
  applyDetach preview childRfcId
  branchResponse childRfcId

def reviseLinked (serviceRequestId rfcId : String) (serviceRequestRevision rfcRevision : Int)
    (stale : Raised) : RowsBody PUnit := do
  let rows ← get
  require (rows.serviceRequests.countP (fun row =>
      row.serviceRequestId = serviceRequestId ∧ row.revision = serviceRequestRevision) = 1 ∧
      rows.rfcs.countP (fun row => row.rfcId = rfcId ∧ row.revision = rfcRevision) = 1) stale
  reviseServiceRequest serviceRequestId serviceRequestRevision
  reviseRfcs fun row => row.rfcId = rfcId ∧ row.revision = rfcRevision

def link (call : Call) (serviceRequestId rfcId : String) (serviceRequestRevision rfcRevision : Int)
    (subordinateOrigin : Option String) : RowsBody TicketMutationResult := do
  let rows ← get
  let inserts ← attempt (prepareLink call rows serviceRequestId rfcId serviceRequestRevision
    rfcRevision subordinateOrigin)
  if inserts then
    insertLink call.relationshipId.value serviceRequestId rfcId
    reviseLinked serviceRequestId rfcId serviceRequestRevision rfcRevision
      (ticketError "TICKET_RELATIONSHIP_STALE" "Service Request or RFC revision changed")
    return ⟨false, serviceRequestId, serviceRequestRevision + 1⟩
  else return ⟨true, serviceRequestId, serviceRequestRevision⟩

def unlink (call : Call) (serviceRequestId rootRfcId : String)
    (serviceRequestRevision rfcRevision : Int) : RowsBody TicketMutationResult := do
  attempt (validateReasonCategory call.reasonCategory)
  let rows ← get
  let active ← attempt (prepareUnlink rows serviceRequestId rootRfcId serviceRequestRevision
    rfcRevision)
  match active with
  | none => return ⟨true, serviceRequestId, serviceRequestRevision⟩
  | some active => do
    require (rows.activeLinks.countP (·.srRfcLinkId = active.srRfcLinkId) = 1)
      (ticketError "TICKET_RELATIONSHIP_STALE" "relationship or ticket revision changed")
    unlinkLink active.srRfcLinkId
    reviseLinked serviceRequestId rootRfcId serviceRequestRevision rfcRevision
      (ticketError "TICKET_RELATIONSHIP_STALE" "relationship or ticket revision changed")
    return ⟨false, serviceRequestId, serviceRequestRevision + 1⟩

def linkSrFromReview (call : Call) (serviceRequestId requestedRfcId : String) :
    RowsBody TicketMutationResult := do
  let rows ← get
  let context ← attempt (linkCandidateContext rows serviceRequestId requestedRfcId)
  require (call.review = .current) (importStale "RFC/SR relationship base state changed")
  require (context.duplicateActive = false)
    (importStale "reviewed RFC/SR relationship is already active")
  insertLink call.relationshipId.value serviceRequestId context.governingRootRfcId
  reviseLinked serviceRequestId context.governingRootRfcId context.serviceRequestRevision
    context.rfcRevision
    (importStale "Service Request or governing RFC changed during acceptance")
  return ⟨false, serviceRequestId, context.serviceRequestRevision + 1⟩

end Soma.Tickets.Statements
