import Soma.Tickets.Tables

/-!
`tickets/rfc_hierarchy.py`, with the preview evaluator of
`tickets/queries/relationship_previews.py` and the branch authority of
`tickets/queries/rfc_branches.py`: attaching an RFC to a parent, moving it to
another parent and detaching it.

Each command is its `prepare` and `apply` callbacks, which the command boundary
runs in one transaction. What a command reads from tables that are not modelled
here, and how the fingerprints it was given compare with the ones it computes,
comes with the call.
-/

namespace Soma.Tickets

open Foundation Transaction

/-- `SomaError(code, message)`. -/
def ticketError (code message : String) : Raised :=
  .soma ⟨.somaError, code, message, false⟩

/-- How an optional fingerprint compares with the one the code computes. -/
inductive Presented where
  | absent
  | malformed
  | stale
  | current
  deriving DecidableEq

/-- `normalize_history_authority` of the history risk provider's answer. -/
inductive HistoryAuthority where
  | indeterminate
  | low
  | high
  deriving DecidableEq

/-- What `customer_organizations` holds about a target Customer. -/
inductive CustomerState where
  | missing
  | archived
  | active
  deriving DecidableEq

/-- What one call brings along and reads elsewhere. -/
structure Call where
  /-- What `new_uuid4` returns for the row the command inserts. -/
  relationshipId : Uuid4
  reasonCategory : String
  /-- `review_fingerprint`, or the base state token of a reviewed import with
  what the proposal provider says about it. -/
  review : Presented
  historyAuthority : HistoryAuthority
  /-- The Service Request's current status projection is a terminal one. -/
  serviceRequestTerminal : Bool
  /-- The RFC's current status projection is a terminal one. -/
  rfcTerminal : Bool
  targetCustomer : CustomerState
  /-- `apply_customer_change` of the classification participant succeeds. -/
  classificationApplies : Bool

def validateReasonCategory (value : String) : Except Raised Unit :=
  ensure (value ≠ "" ∧ value.utf8ByteSize ≤ 128 ∧
      value.toList.all fun character => character ∉ ['\x00', '\r', '\n'])
    (validationError "reason_category violates its bounded one-line contract")

/-- `validate_optional_sha256` of the review fingerprint. -/
def Call.validateReview (call : Call) : Except Raised Unit :=
  ensure (call.review ≠ .malformed) (validationError "review_fingerprint must be lowercase SHA-256 hex")

/-- Two Customers that are both known and not the same. -/
def differ : Option String → Option String → Bool
  | some first, some second => first ≠ second
  | _, _ => false

def loadRfc (rows : TicketRows) (rfcId : String) : Except Raised Rfc :=
  match rows.rfc? rfcId with
  | none => .error (ticketError "NOT_FOUND" "RFC does not exist")
  | some row => .ok row

def hasSubordinates (rows : TicketRows) (rfcId : String) : Bool :=
  rows.activeEdges.any (·.parentRfcId = rfcId)

def hasDirectLink (rows : TicketRows) (rfcId : String) : Bool :=
  rows.activeLinks.any (·.rfcId = rfcId)

/-! ## Branches -/

/-- `_root_authority` and what `branch_fingerprint_from_connection` refuses to digest. -/
def branchAuthority (rows : TicketRows) (rootRfcId : String) : Except Raised Unit := do
  let root ← loadRfc rows rootRfcId
  ensure (rows.activeParent? rootRfcId = none) (validationError "RFC branch root must be parentless")
  ensure (∀ member ∈ rows.branchRows rootRfcId,
      differ root.customerOrgId member.customerOrgId = false)
    (ticketError "PERSISTENCE_FAILURE" "RFC branch contains a known Customer mismatch")

/-- `_branch_response_factory`: the branch after the change. -/
def branchResponse (rootRfcId : String) : TicketBody (List Rfc) := do
  let tables ← get
  attempt (branchAuthority tables.rows rootRfcId)
  return tables.rows.branchRows rootRfcId

def governingRoot (rows : TicketRows) (rfcId : String) : Except Raised String :=
  match rows.activeParent? rfcId with
  | none => .ok rfcId
  | some edge => do
    ensure (rows.activeParent? edge.parentRfcId = none)
      (integrityFailure "RFC hierarchy exceeds the accepted two-level invariant")
    return edge.parentRfcId

/-! ## `add_subordinate` -/

def validateBaseRevisions (parentRfcId childRfcId : String) (baseRevisions : List (String × Int)) :
    Except Raised Unit := do
  ensure ((∀ entry ∈ baseRevisions, entry.1 = parentRfcId ∨ entry.1 = childRfcId) ∧
      parentRfcId ∈ baseRevisions.map (·.1) ∧ childRfcId ∈ baseRevisions.map (·.1))
    (validationError "base_revisions must contain exactly parent_rfc_id and child_rfc_id")
  ensure (∀ entry ∈ baseRevisions, 1 ≤ entry.2)
    (validationError "RFC base revisions must be positive integers")

/-- The reads of `add_subordinate.prepare`; whether there is an edge to insert. -/
def attachment (rows : TicketRows) (parentRfcId childRfcId : String)
    (baseRevisions : List (String × Int)) : Except Raised Bool := do
  let parent ← loadRfc rows parentRfcId
  let child ← loadRfc rows childRfcId
  ensure (baseRevisions.lookup parentRfcId = some parent.revision ∧
      baseRevisions.lookup childRfcId = some child.revision)
    (ticketError "TICKET_RELATIONSHIP_STALE" "RFC hierarchy revision context changed")
  match rows.activeParent? childRfcId with
  | some edge => do
    ensure (edge.parentRfcId = parentRfcId)
      (ticketError "RFC_PARENT_CONFLICT" "RFC already has a different active parent")
    return false
  | none => do
    ensure (rows.activeParent? parentRfcId = none)
      (ticketError "RFC_HIERARCHY_DEPTH" "proposed parent is already subordinate")
    ensure (hasSubordinates rows childRfcId = false)
      (ticketError "RFC_HIERARCHY_DEPTH" "proposed child already owns subordinates")
    ensure (hasDirectLink rows childRfcId = false)
      (ticketError "RFC_DIRECT_SR_LINK_ON_SUBORDINATE"
        "RFC with an active direct SR link cannot become subordinate")
    -- Only the parent is compared: the parent's branch is not read.
    ensure (differ parent.customerOrgId child.customerOrgId = false)
      (ticketError "RFC_CUSTOMER_MISMATCH" "known parent and child RFC Customers differ")
    return true

/-- The `apply` callback of `add_subordinate`. -/
def applyAttachment (call : Call) (parentRfcId childRfcId : String) : TicketBody PUnit := do
  writeTickets (·.insertEdge call.relationshipId.value parentRfcId childRfcId)
  writeTickets (·.reviseRfcs fun row => row.rfcId ∈ [parentRfcId, childRfcId])

def addSubordinate (call : Call) (parentRfcId childRfcId : String)
    (baseRevisions : List (String × Int)) : TicketBody (List Rfc) := do
  require (parentRfcId ≠ childRfcId)
    (ticketError "RFC_HIERARCHY_CYCLE" "RFC cannot be its own parent")
  attempt (validateBaseRevisions parentRfcId childRfcId baseRevisions)
  attempt (validateReasonCategory call.reasonCategory)
  attempt call.validateReview
  let tables ← get
  let inserts ← attempt (attachment tables.rows parentRfcId childRfcId baseRevisions)
  if inserts then applyAttachment call parentRfcId childRfcId
  branchResponse parentRfcId

/-! ## The hierarchy preview -/

/-- `RfcHierarchyMutationPreview`, without its fingerprints. -/
structure HierarchyPreview where
  oldEdge : RfcHierarchyEdge
  baseRevisions : List (String × Int)
  blockers : List String

/-- What stands against moving a child under a new parent, in order. -/
def reparentBlockers (rows : TicketRows) (oldEdge : RfcHierarchyEdge) (child newParent : Rfc) :
    List String :=
  (if newParent.rfcId = child.rfcId then ["RFC_HIERARCHY_CYCLE"] else []) ++
  (if newParent.rfcId = oldEdge.parentRfcId then ["RFC_PARENT_CONFLICT"] else []) ++
  (if rows.activeParent? newParent.rfcId ≠ none ∨ hasSubordinates rows child.rfcId then
    ["RFC_HIERARCHY_DEPTH"] else []) ++
  (if hasDirectLink rows child.rfcId then ["RFC_DIRECT_SR_LINK_ON_SUBORDINATE"] else []) ++
  -- As in `add_subordinate`, only the new parent is compared.
  (if differ child.customerOrgId newParent.customerOrgId then ["RFC_CUSTOMER_MISMATCH"] else [])

/-- The part of `evaluate` about the new parent of a reparent. -/
def evaluateNewParent (rows : TicketRows) (oldEdge : RfcHierarchyEdge) (child : Rfc)
    (baseRevisions : List (String × Int)) (newParentRfcId : String) :
    Except Raised HierarchyPreview := do
  let newParent ← loadRfc rows newParentRfcId
  let newRoot ← governingRoot rows newParentRfcId
  branchAuthority rows newRoot
  return ⟨oldEdge, baseRevisions ++ [(newParentRfcId, newParent.revision)],
    reparentBlockers rows oldEdge child newParent⟩

/-- `RfcHierarchyPreviewEvaluator.evaluate`: a reparent names the new parent. -/
def evaluateHierarchy (rows : TicketRows) (childRfcId : String) (newParentRfcId : Option String) :
    Except Raised HierarchyPreview := do
  let child ← loadRfc rows childRfcId
  match rows.activeParent? childRfcId with
  | none => .error (ticketError "RFC_PARENT_CONFLICT" "RFC is not currently subordinate")
  | some oldEdge => do
    let oldParent ← loadRfc rows oldEdge.parentRfcId
    ensure (rows.activeParent? oldEdge.parentRfcId = none)
      (integrityFailure "RFC hierarchy contains a subordinate parent")
    branchAuthority rows oldEdge.parentRfcId
    let baseRevisions := [(oldEdge.parentRfcId, oldParent.revision), (childRfcId, child.revision)]
    match newParentRfcId with
    | none => return ⟨oldEdge, baseRevisions, []⟩
    | some newParentRfcId => evaluateNewParent rows oldEdge child baseRevisions newParentRfcId

def validateMutationBaseRevisions (maximumParticipants : Nat)
    (baseRevisions : List (String × Int)) : Except Raised Unit := do
  ensure (1 ≤ baseRevisions.length ∧ baseRevisions.length ≤ maximumParticipants)
    (validationError "base_revisions must be a bounded closed RFC-id to revision map")
  ensure (∀ entry ∈ baseRevisions, isUuid4 entry.1 = true)
    (validationError "expected canonical lowercase UUIDv4")
  ensure (∀ entry ∈ baseRevisions, 1 ≤ entry.2)
    (validationError "RFC base revisions must be positive integers")

def requireExactPreviewRevisions (supplied current : List (String × Int)) : Except Raised Unit :=
  ensure ((∀ entry ∈ supplied, entry ∈ current) ∧ ∀ entry ∈ current, entry ∈ supplied)
    (ticketError "TICKET_RELATIONSHIP_STALE"
      "RFC hierarchy participants or revisions changed since preview")

def requireCurrentReview (call : Call) : Except Raised Unit := do
  ensure (call.historyAuthority ≠ .indeterminate)
    (ticketError "TICKET_RELATIONSHIP_STALE"
      "RFC hierarchy history authority is indeterminate; refresh the hierarchy review")
  ensure (call.historyAuthority = .high → call.review ≠ .absent)
    (ticketError "RFC_REPARENT_REVIEW_REQUIRED"
      "protected RFC Task/WFM history requires an exact reviewed hierarchy correction")
  ensure (call.review ≠ .stale)
    (ticketError "TICKET_RELATIONSHIP_STALE" "RFC hierarchy review authority changed since preview")

def blockerMessage : String → String
  | "RFC_HIERARCHY_CYCLE" => "proposed RFC hierarchy would create a self/cycle relation"
  | "RFC_PARENT_CONFLICT" => "RFC is already attached to the proposed parent"
  | "RFC_HIERARCHY_DEPTH" => "proposed RFC hierarchy would exceed two levels"
  | "RFC_DIRECT_SR_LINK_ON_SUBORDINATE" =>
    "RFC with an active direct SR link cannot be subordinate"
  | "RFC_CUSTOMER_MISMATCH" => "known RFC Customers differ across the proposed hierarchy relation"
  | _ => "RFC hierarchy mutation is blocked"

def raiseFirstHierarchyBlocker : List String → Except Raised Unit
  | [] => .ok ()
  | code :: _ => .error (ticketError code (blockerMessage code))

/-- What both hierarchy corrections check before they write. -/
def prepareCorrection (call : Call) (rows : TicketRows) (childRfcId : String)
    (newParentRfcId : Option String) (baseRevisions : List (String × Int)) :
    Except Raised HierarchyPreview := do
  let preview ← evaluateHierarchy rows childRfcId newParentRfcId
  requireExactPreviewRevisions baseRevisions preview.baseRevisions
  requireCurrentReview call
  raiseFirstHierarchyBlocker preview.blockers
  return preview

/-- Closes the reviewed edge: the `UPDATE` has to hit exactly one row. -/
def closeReviewedEdge (oldEdge : RfcHierarchyEdge) (childRfcId message : String) :
    TicketBody PUnit := do
  let tables ← get
  require (tables.rows.activeEdges.countP (fun edge =>
      edge.rfcHierarchyEdgeId = oldEdge.rfcHierarchyEdgeId ∧
      edge.parentRfcId = oldEdge.parentRfcId ∧ edge.childRfcId = childRfcId) = 1)
    (integrityFailure message)
  writeTickets (·.supersedeEdge oldEdge.rfcHierarchyEdgeId)

/-- Advances the participants' revisions; every participant has to be hit. -/
def reviseParticipants (participants : List String) (count : Nat) (message : String) :
    TicketBody PUnit := do
  let tables ← get
  require (tables.rows.rfcs.countP (fun row => row.rfcId ∈ participants) = count)
    (integrityFailure message)
  writeTickets (·.reviseRfcs fun row => row.rfcId ∈ participants)

/-! ## `reparent_subordinate` and `detach_subordinate` -/

/-- The `apply` callback of `reparent_subordinate`. -/
def applyReparent (call : Call) (preview : HierarchyPreview) (childRfcId newParentRfcId : String) :
    TicketBody PUnit := do
  closeReviewedEdge preview.oldEdge childRfcId
    "reviewed RFC hierarchy edge disappeared before reparent"
  writeTickets (·.insertEdge call.relationshipId.value newParentRfcId childRfcId)
  reviseParticipants [preview.oldEdge.parentRfcId, childRfcId, newParentRfcId] 3
    "reviewed RFC reparent participant set changed during mutation"

def reparentSubordinate (call : Call) (childRfcId newParentRfcId : String)
    (baseRevisions : List (String × Int)) : TicketBody (List Rfc) := do
  attempt (requireUuid4 childRfcId)
  attempt (requireUuid4 newParentRfcId)
  attempt (validateMutationBaseRevisions 3 baseRevisions)
  attempt (validateReasonCategory call.reasonCategory)
  attempt call.validateReview
  let tables ← get
  let preview ← attempt
    (prepareCorrection call tables.rows childRfcId (some newParentRfcId) baseRevisions)
  applyReparent call preview childRfcId newParentRfcId
  branchResponse newParentRfcId

/-- The `apply` callback of `detach_subordinate`. -/
def applyDetach (preview : HierarchyPreview) (childRfcId : String) : TicketBody PUnit := do
  closeReviewedEdge preview.oldEdge childRfcId
    "reviewed RFC hierarchy edge disappeared before detach"
  reviseParticipants [preview.oldEdge.parentRfcId, childRfcId] 2
    "reviewed RFC detach participant set changed during mutation"

def detachSubordinate (call : Call) (childRfcId : String) (baseRevisions : List (String × Int)) :
    TicketBody (List Rfc) := do
  attempt (requireUuid4 childRfcId)
  attempt (validateMutationBaseRevisions 2 baseRevisions)
  attempt (validateReasonCategory call.reasonCategory)
  attempt call.validateReview
  let tables ← get
  let preview ← attempt (prepareCorrection call tables.rows childRfcId none baseRevisions)
  applyDetach preview childRfcId
  branchResponse childRfcId

end Soma.Tickets
