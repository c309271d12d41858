import Soma.Theory.Agreement
import Soma.Foundation.Errors

/-!
The ticket tables of `migrations/0003_tickets_core.sql` that place RFCs and
Service Requests in branches: the RFCs and their hierarchy edges, the Service
Requests with their links to root RFCs and their Customer relationships.

The two-level triggers fire on an insert and an edge or link is never reopened,
so what they refuse is stated as a constraint on the rows. Command ids, times
and the columns only other commands read are left out.
-/

namespace Soma.Tickets

open Agreement Foundation Transaction

/-- `rfcs.local_archive_state`. -/
inductive ArchiveState where
  | active
  | archived
  deriving DecidableEq

/-- `edge_state`, `link_state` and `relationship_state`: a row is active until
it is closed, and stays closed. -/
inductive RelationState where
  | active
  | closed
  deriving DecidableEq

structure Rfc where
  rfcId : String
  customerOrgId : Option String
  localArchiveState : ArchiveState
  revision : Int

structure RfcHierarchyEdge where
  rfcHierarchyEdgeId : String
  parentRfcId : String
  childRfcId : String
  edgeState : RelationState
  deriving DecidableEq

structure ServiceRequest where
  serviceRequestId : String
  revision : Int

structure SrRfcLink where
  srRfcLinkId : String
  serviceRequestId : String
  rfcId : String
  linkState : RelationState

structure SrCustomerRelationship where
  srCustomerRelationshipId : String
  serviceRequestId : String
  customerOrgId : String
  relationshipState : RelationState

structure TicketRows where
  rfcs : List Rfc
  hierarchyEdges : List RfcHierarchyEdge
  serviceRequests : List ServiceRequest
  srRfcLinks : List SrRfcLink
  srCustomers : List SrCustomerRelationship

namespace TicketRows

/-- `SELECT .. FROM rfcs WHERE rfc_id=?`. -/
def rfc? (rows : TicketRows) (rfcId : String) : Option Rfc :=
  rows.rfcs.find? (·.rfcId = rfcId)

def serviceRequest? (rows : TicketRows) (serviceRequestId : String) : Option ServiceRequest :=
  rows.serviceRequests.find? (·.serviceRequestId = serviceRequestId)

def activeEdges (rows : TicketRows) : List RfcHierarchyEdge :=
  rows.hierarchyEdges.filter (·.edgeState = .active)

def activeLinks (rows : TicketRows) : List SrRfcLink :=
  rows.srRfcLinks.filter (·.linkState = .active)

def activeCustomers (rows : TicketRows) : List SrCustomerRelationship :=
  rows.srCustomers.filter (·.relationshipState = .active)

/-- The active edge of a child. -/
def activeParent? (rows : TicketRows) (childRfcId : String) : Option RfcHierarchyEdge :=
  rows.activeEdges.find? (·.childRfcId = childRfcId)

/-- `_governing_root` without its integrity check. -/
def rootOf (rows : TicketRows) (rfcId : String) : String :=
  match rows.activeParent? rfcId with
  | none => rfcId
  | some edge => edge.parentRfcId

/-- The RFC rows of a branch: the root and its active subordinates. -/
def branchRows (rows : TicketRows) (rootRfcId : String) : List Rfc :=
  rows.rfcs.filter fun row => row.rfcId = rootRfcId ∨
    ∃ edge ∈ rows.activeEdges, edge.parentRfcId = rootRfcId ∧ edge.childRfcId = row.rfcId

/-- The active link of a Service Request to an RFC. -/
def activeLink? (rows : TicketRows) (serviceRequestId rfcId : String) : Option SrRfcLink :=
  rows.activeLinks.find? fun row => row.serviceRequestId = serviceRequestId ∧ row.rfcId = rfcId

/-- `ServiceRequestReferenceRepository.current_customer`. -/
def currentCustomer? (rows : TicketRows) (serviceRequestId : String) :
    Option SrCustomerRelationship :=
  rows.activeCustomers.find? (·.serviceRequestId = serviceRequestId)

/-- The declared constraints and what the triggers of
`0003_tickets_core.sql` keep: a hierarchy of two levels with Service Requests
linked to roots only. -/
@[mk_iff]
structure Constraints (rows : TicketRows) : Prop where
  rfcIds : (rows.rfcs.map (·.rfcId)).Nodup
  rfcRevisions : ∀ row ∈ rows.rfcs, 0 < row.revision
  edgeIds : (rows.hierarchyEdges.map (·.rfcHierarchyEdgeId)).Nodup
  edgeEnds : ∀ edge ∈ rows.hierarchyEdges, edge.parentRfcId ≠ edge.childRfcId ∧
    edge.parentRfcId ∈ rows.rfcs.map (·.rfcId) ∧ edge.childRfcId ∈ rows.rfcs.map (·.rfcId)
  oneParent : (rows.activeEdges.map (·.childRfcId)).Nodup
  twoLevels : ∀ edge ∈ rows.activeEdges, ∀ below ∈ rows.activeEdges,
    below.childRfcId ≠ edge.parentRfcId
  serviceRequestIds : (rows.serviceRequests.map (·.serviceRequestId)).Nodup
  serviceRequestRevisions : ∀ row ∈ rows.serviceRequests, 0 < row.revision
  linkIds : (rows.srRfcLinks.map (·.srRfcLinkId)).Nodup
  linkEnds : ∀ link ∈ rows.srRfcLinks, link.rfcId ∈ rows.rfcs.map (·.rfcId) ∧
    link.serviceRequestId ∈ rows.serviceRequests.map (·.serviceRequestId)
  oneLink : (rows.activeLinks.map fun link => (link.serviceRequestId, link.rfcId)).Nodup
  linkedRoots : ∀ link ∈ rows.activeLinks, ∀ edge ∈ rows.activeEdges,
    edge.childRfcId ≠ link.rfcId
  customerIds : (rows.srCustomers.map (·.srCustomerRelationshipId)).Nodup
  customerOwners : ∀ row ∈ rows.srCustomers,
    row.serviceRequestId ∈ rows.serviceRequests.map (·.serviceRequestId)
  oneCustomer : (rows.activeCustomers.map (·.serviceRequestId)).Nodup

instance (rows : TicketRows) : Decidable rows.Constraints :=
  decidable_of_iff' _ (constraints_iff rows)

/-! ## Statements -/

/-- `INSERT INTO rfc_hierarchy_edges`, as an active edge. -/
def insertEdge (edgeId parentRfcId childRfcId : String) (rows : TicketRows) : TicketRows :=
  { rows with
    hierarchyEdges := rows.hierarchyEdges ++ [⟨edgeId, parentRfcId, childRfcId, .active⟩] }

/-- The edge as an update that closes the edge with this id leaves it. -/
def closedEdge (edgeId : String) (edge : RfcHierarchyEdge) : RfcHierarchyEdge :=
  if edge.rfcHierarchyEdgeId = edgeId then { edge with edgeState := .closed } else edge

def supersedeEdge (edgeId : String) (rows : TicketRows) : TicketRows :=
  { rows with hierarchyEdges := rows.hierarchyEdges.map (closedEdge edgeId) }

/-- `INSERT INTO sr_rfc_links`, as an active link. -/
def insertLink (linkId serviceRequestId rfcId : String) (rows : TicketRows) : TicketRows :=
  { rows with srRfcLinks := rows.srRfcLinks ++ [⟨linkId, serviceRequestId, rfcId, .active⟩] }

def closedLink (linkId : String) (link : SrRfcLink) : SrRfcLink :=
  if link.srRfcLinkId = linkId then { link with linkState := .closed } else link

def unlinkLink (linkId : String) (rows : TicketRows) : TicketRows :=
  { rows with srRfcLinks := rows.srRfcLinks.map (closedLink linkId) }

/-- `UPDATE rfcs SET revision=revision+1 .. WHERE ..`. -/
def reviseRfcs (selected : Rfc → Bool) (rows : TicketRows) : TicketRows :=
  { rows with rfcs := rows.rfcs.map fun row =>
      if selected row then { row with revision := row.revision + 1 } else row }

/-- `UPDATE rfcs SET customer_org_id=?, revision=revision+1 .. WHERE rfc_id=?`. -/
def assignRfc (rfcId : String) (customerOrgId : Option String) (rows : TicketRows) : TicketRows :=
  { rows with rfcs := rows.rfcs.map fun row =>
      if row.rfcId = rfcId then { row with customerOrgId, revision := row.revision + 1 } else row }

/-- `UPDATE service_requests SET revision=revision+1 .. WHERE service_request_id=? AND revision=?`. -/
def reviseServiceRequest (serviceRequestId : String) (baseRevision : Int) (rows : TicketRows) :
    TicketRows :=
  { rows with serviceRequests := rows.serviceRequests.map fun row =>
      if row.serviceRequestId = serviceRequestId ∧ row.revision = baseRevision then
        { row with revision := row.revision + 1 }
      else row }

def insertCustomer (relationshipId serviceRequestId customerOrgId : String) (rows : TicketRows) :
    TicketRows :=
  { rows with
    srCustomers := rows.srCustomers ++ [⟨relationshipId, serviceRequestId, customerOrgId, .active⟩] }

def closedCustomer (relationshipId : String) (row : SrCustomerRelationship) :
    SrCustomerRelationship :=
  if row.srCustomerRelationshipId = relationshipId then { row with relationshipState := .closed }
  else row

def supersedeCustomer (relationshipId : String) (rows : TicketRows) : TicketRows :=
  { rows with srCustomers := rows.srCustomers.map (closedCustomer relationshipId) }

end TicketRows

/-- Rows that meet the constraints. -/
structure TicketTables where
  rows : TicketRows
  valid : rows.Constraints

/-- A body over the ticket tables, inside one transaction. -/
abbrev TicketBody (Result : Type) := Body TicketTables Raised Result

/-- One SQL statement that rewrites the ticket tables. -/
def writeTickets (change : TicketRows → TicketRows) : TicketBody PUnit := do
  let tables ← get
  setChecked (change tables.rows).Constraints (fun valid => ⟨change tables.rows, valid⟩) .other

theorem writeTickets_ok {change : TicketRows → TicketRows}
    (ran : (writeTickets change).run tables = .ok (value, next)) :
    next.rows = change tables.rows := by
  simp only [writeTickets, steps_ok, setChecked_ok] at ran
  obtain ⟨_, rfl⟩ := ran
  rfl

end Soma.Tickets
