import Soma.Foundation.StrictJson
import Soma.Tickets.RfcHierarchy

/-!
`tickets/rfc_archive.py`, with the scope resolution and the member query of
`tickets/queries/rfc_archive.py`: archiving one RFC or a reviewed branch, and
restoring the members of an archive operation.

Each command is its `prepare` and `apply` callbacks, which the command boundary
runs in one transaction; the response pages, the audit event and the times are
left out. Every insert carries the declared keys, references and the revision
guard it has to pass.
-/

namespace Soma.Tickets

open Foundation Transaction

/-! ## Tables -/

inductive ArchiveScopeKind where
  | exactRfc
  | reviewedBranch

def ArchiveScopeKind.text : ArchiveScopeKind → String
  | .exactRfc => "exact_rfc"
  | .reviewedBranch => "reviewed_branch"

def ArchiveState.text : ArchiveState → String
  | .active => "active"
  | .archived => "archived"

/-- `rfc_archive_events.event_type`. -/
inductive ArchiveEventType where
  | archived
  | restored
  deriving DecidableEq

structure RfcArchiveOperation where
  rfcArchiveOperationId : String
  requestedRfcId : String
  scopeKind : ArchiveScopeKind
  scopeFingerprint : String

/-- A row of `rfc_archive_operation_members`. -/
structure RfcArchiveMember where
  rfcArchiveOperationId : String
  rfcId : String
  preArchiveRevision : Int
  archivedRevision : Int
  ordinal : Nat

structure RfcArchiveEvent where
  rfcArchiveEventId : String
  rfcId : String
  eventType : ArchiveEventType
  originArchiveOperationId : String
  resultingRfcRevision : Int

structure ArchiveRows where
  rfcs : List Rfc
  hierarchyEdges : List RfcHierarchyEdge
  operations : List RfcArchiveOperation
  members : List RfcArchiveMember
  events : List RfcArchiveEvent

abbrev ArchiveBody (Result : Type) := Body ArchiveRows Raised Result

/-- `SELECT .. FROM rfcs WHERE rfc_id=?`. -/
def ArchiveRows.rfc? (rows : ArchiveRows) (rfcId : String) : Option Rfc :=
  rows.rfcs.find? (·.rfcId = rfcId)

def scopeStale (message : String) : Raised := ticketError "RFC_ARCHIVE_SCOPE_STALE" message

/-! ## Scopes -/

structure RfcArchiveScopeMember where
  rfcId : String
  rfcRevision : Int
  archiveState : ArchiveState
  scopeOrdinal : Nat

structure RfcArchiveScope where
  requestedRfcId : String
  scopeKind : ArchiveScopeKind
  members : List RfcArchiveScopeMember
  scopeFingerprint : String

def RfcArchiveScope.wouldChangeCount (scope : RfcArchiveScope) : Nat :=
  scope.members.countP (·.archiveState = .active)

def storedArchiveUuid (value field : String) : Except Raised Unit :=
  ensure (isUuid4 value)
    (persistenceFailure ("stored " ++ field ++ " is not canonical UUIDv4"))

def loadRequestedRfc (rows : ArchiveRows) (rfcId : String) : Except Raised Rfc :=
  match rows.rfc? rfcId with
  | none => .error (ticketError "NOT_FOUND" "RFC does not exist")
  | some row => do
    storedArchiveUuid row.rfcId "RFC identity"
    ensure (0 < row.revision) (persistenceFailure "stored RFC archive authority is invalid")
    return row

def requireParentless (rows : ArchiveRows) (rfcId : String) : Except Raised Unit :=
  ensure (∀ edge ∈ rows.hierarchyEdges, ¬ (edge.childRfcId = rfcId ∧ edge.edgeState = .active))
    (scopeStale "reviewed RFC branch root is no longer parentless")

/-- `.. FROM rfc_hierarchy_edges e JOIN rfcs c .. ORDER BY c.rfc_id`. -/
def ArchiveRows.children (rows : ArchiveRows) (rootRfcId : String) : List Rfc :=
  ((rows.hierarchyEdges.filter fun edge =>
      edge.parentRfcId = rootRfcId ∧ edge.edgeState = .active).flatMap fun edge =>
    rows.rfcs.filter (·.rfcId = edge.childRfcId)).insertionSort fun left right =>
      left.rfcId ≤ right.rfcId

/-- One row of the loop over the children. -/
def childMember (entry : Rfc × Nat) : Except Raised RfcArchiveScopeMember := do
  storedArchiveUuid entry.1.rfcId "RFC archive child identity"
  ensure (0 < entry.1.revision)
    (persistenceFailure "stored RFC archive child authority is invalid")
  return ⟨entry.1.rfcId, entry.1.revision, entry.1.localArchiveState, entry.2⟩

/-- `_iter_scope_members`. -/
def scopeMembers (rows : ArchiveRows) (rfcId : String) (scopeKind : ArchiveScopeKind) :
    Except Raised (List RfcArchiveScopeMember) := do
  let root ← loadRequestedRfc rows rfcId
  let member : RfcArchiveScopeMember := ⟨root.rfcId, root.revision, root.localArchiveState, 0⟩
  match scopeKind with
  | .exactRfc => return [member]
  | .reviewedBranch => do
    requireParentless rows root.rfcId
    let children ← ((rows.children root.rfcId).zipIdx 1).mapM childMember
    return member :: children

def RfcArchiveScopeMember.fingerprintObject (member : RfcArchiveScopeMember) : Json :=
  .obj [("rfc_id", .str member.rfcId), ("rfc_revision", .int member.rfcRevision),
    ("archive_state", .str member.archiveState.text)]

def archiveScopeFingerprint (python : PythonLibrary) (requestedRfcId : String)
    (scopeKind : ArchiveScopeKind) (members : List RfcArchiveScopeMember) : Except Raised String :=
  sha256CanonicalJson python (.obj [
    ("schema", .str "SOMA_RFC_ARCHIVE_SCOPE_V1"),
    ("requested_rfc_id", .str requestedRfcId),
    ("scope_kind", .str scopeKind.text),
    ("members", .arr (members.map (·.fingerprintObject)))])

/-- `resolve_archive_scope_from_connection`. -/
def resolveArchiveScope (python : PythonLibrary) (rows : ArchiveRows) (rfcId : String)
    (scopeKind : ArchiveScopeKind) : Except Raised RfcArchiveScope := do
  let members ← scopeMembers rows rfcId scopeKind
  let fingerprint ← archiveScopeFingerprint python rfcId scopeKind members
  return ⟨rfcId, scopeKind, members, fingerprint⟩

/-! ## Members of an operation -/

/-- `SELECT MAX(resulting_rfc_revision) FROM rfc_archive_events WHERE rfc_id=?`. -/
def ArchiveRows.latestRevision (rows : ArchiveRows) (rfcId : String) : Option Int :=
  ((rows.events.filter (·.rfcId = rfcId)).map (·.resultingRfcRevision)).max?

structure OperationMemberRow where
  member : RfcArchiveMember
  currentArchiveState : ArchiveState
  latest : RfcArchiveEvent

/-- `_operation_member_query`. -/
def operationMemberRows (rows : ArchiveRows) (operationId : String) : List OperationMemberRow :=
  ((rows.members.filter (·.rfcArchiveOperationId = operationId)).flatMap fun member =>
    (rows.rfcs.filter (·.rfcId = member.rfcId)).flatMap fun rfc =>
      (rows.events.filter fun event => event.rfcId = member.rfcId ∧
        rows.latestRevision member.rfcId = some event.resultingRfcRevision).map fun event =>
          ⟨member, rfc.localArchiveState, event⟩).insertionSort fun left right =>
            left.member.ordinal < right.member.ordinal ∨
              (left.member.ordinal = right.member.ordinal ∧ left.member.rfcId ≤ right.member.rfcId)

structure RfcArchiveOperationMember where
  rfcId : String
  preArchiveRevision : Int
  archivedRevision : Int
  ordinal : Nat
  currentArchiveState : ArchiveState
  latestEventType : ArchiveEventType
  latestEventOriginArchiveOperationId : String
  latestEventResultingRfcRevision : Int
  restoreEligible : Bool

def operationMemberFromRow (operationId : String) (row : OperationMemberRow) :
    Except Raised RfcArchiveOperationMember := do
  storedArchiveUuid row.member.rfcId "RFC archive operation member identity"
  storedArchiveUuid row.latest.originArchiveOperationId "RFC archive latest event origin operation"
  ensure (0 < row.member.preArchiveRevision ∧
      row.member.archivedRevision = row.member.preArchiveRevision + 1 ∧
      1 < row.latest.resultingRfcRevision)
    (persistenceFailure "stored RFC archive operation member authority is invalid")
  return {
    rfcId := row.member.rfcId
    preArchiveRevision := row.member.preArchiveRevision
    archivedRevision := row.member.archivedRevision
    ordinal := row.member.ordinal
    currentArchiveState := row.currentArchiveState
    latestEventType := row.latest.eventType
    latestEventOriginArchiveOperationId := row.latest.originArchiveOperationId
    latestEventResultingRfcRevision := row.latest.resultingRfcRevision
    restoreEligible := row.currentArchiveState = .archived ∧ row.latest.eventType = .archived ∧
      row.latest.originArchiveOperationId = operationId }

def operationHeader (rows : ArchiveRows) (operationId : String) :
    Except Raised RfcArchiveOperation :=
  match rows.operations.find? (·.rfcArchiveOperationId = operationId) with
  | none =>
    .error (ticketError "RFC_ARCHIVE_OPERATION_NOT_FOUND" "RFC archive operation does not exist")
  | some operation => do
    ensure (isSha256 operation.scopeFingerprint)
      (persistenceFailure "stored RFC archive operation authority is invalid")
    return operation

/-- `load_complete_operation_members_from_connection`. -/
def loadCompleteOperationMembers (rows : ArchiveRows) (operationId : String) :
    Except Raised (RfcArchiveOperation × List RfcArchiveOperationMember) := do
  let header ← operationHeader rows operationId
  let members ← (operationMemberRows rows operationId).mapM (operationMemberFromRow operationId)
  return (header, members)

/-! ## Statements -/

def insertArchiveOperation (operation : RfcArchiveOperation) : ArchiveBody PUnit := do
  let rows ← get
  require (operation.rfcArchiveOperationId ∉ rows.operations.map (·.rfcArchiveOperationId) ∧
    operation.requestedRfcId ∈ rows.rfcs.map (·.rfcId)) .other
  set { rows with operations := rows.operations ++ [operation] }

def insertArchiveMember (member : RfcArchiveMember) : ArchiveBody PUnit := do
  let rows ← get
  require (∀ other ∈ rows.members, other.rfcArchiveOperationId = member.rfcArchiveOperationId →
    other.rfcId ≠ member.rfcId ∧ other.ordinal ≠ member.ordinal) .other
  require (member.rfcArchiveOperationId ∈ rows.operations.map (·.rfcArchiveOperationId) ∧
    member.rfcId ∈ rows.rfcs.map (·.rfcId) ∧ 0 < member.preArchiveRevision ∧
    member.archivedRevision = member.preArchiveRevision + 1) .other
  set { rows with members := rows.members ++ [member] }

def insertArchiveEvent (event : RfcArchiveEvent) : ArchiveBody PUnit := do
  let rows ← get
  require (event.rfcArchiveEventId ∉ rows.events.map (·.rfcArchiveEventId) ∧
    ∀ other ∈ rows.events, other.rfcId = event.rfcId →
      other.resultingRfcRevision ≠ event.resultingRfcRevision) .other
  require (event.originArchiveOperationId ∈ rows.operations.map (·.rfcArchiveOperationId) ∧
    1 < event.resultingRfcRevision) .other
  -- `rfc_archive_event_revision_guard`
  require (∃ row ∈ rows.rfcs, row.rfcId = event.rfcId ∧ row.revision = event.resultingRfcRevision)
    (scopeStale "RFC_ARCHIVE_SCOPE_STALE")
  set { rows with events := rows.events ++ [event] }

/-- `UPDATE rfcs SET local_archive_state=?, revision=revision+1 WHERE rfc_id=? AND
revision=? AND local_archive_state=?`, which has to hit one row. -/
def moveRfc (rfcId : String) (revision : Int) (found moved : ArchiveState) (lost : Raised) :
    ArchiveBody PUnit := do
  let rows ← get
  let selected (row : Rfc) : Bool :=
    row.rfcId = rfcId ∧ row.revision = revision ∧ row.localArchiveState = found
  require (rows.rfcs.countP selected = 1) lost
  set { rows with
    rfcs := rows.rfcs.map fun row =>
      if selected row then { row with localArchiveState := moved, revision := row.revision + 1 }
      else row }

/-! ## `archive` -/

structure ArchiveRfcResult where
  noChange : Bool
  scopeKind : ArchiveScopeKind
  scopeFingerprint : String
  exactMemberCount : Nat
  changedRfcCount : Nat
  excludedPrearchivedCount : Nat
  rfcArchiveOperationId : Option String

/-- The body of the loop in `apply` on an active member. -/
def archiveMember (operationId eventId : String) (member : RfcArchiveScopeMember) :
    ArchiveBody PUnit := do
  moveRfc member.rfcId member.rfcRevision .active .archived
    (scopeStale "RFC archive member changed before publication")
  insertArchiveMember
    ⟨operationId, member.rfcId, member.rfcRevision, member.rfcRevision + 1, member.scopeOrdinal⟩
  insertArchiveEvent ⟨eventId, member.rfcId, .archived, operationId, member.rfcRevision + 1⟩

/-- The loop over the members, with the identifiers drawn so far; returns `applied_count`. -/
def archiveMembers (newUuid4 : Nat → Uuid4) (operationId : String) :
    Nat → List RfcArchiveScopeMember → ArchiveBody Nat
  | _, [] => pure 0
  | drawn, member :: rest =>
    if member.archiveState = .active then do
      archiveMember operationId (newUuid4 drawn).value member
      let applied ← archiveMembers newUuid4 operationId (drawn + 1) rest
      return applied + 1
    else archiveMembers newUuid4 operationId drawn rest

/-- `RfcArchiveService.archive`. The first two identifiers are the operation's
and the audit event's. -/
def archive (python : PythonLibrary) (newUuid4 : Nat → Uuid4) (rfcId : String)
    (scopeKind : ArchiveScopeKind) (reviewedScopeFingerprint : String) :
    ArchiveBody ArchiveRfcResult := do
  attempt (ensure (isUuid4 rfcId) (validationError "rfc_id must be canonical UUIDv4"))
  attempt (ensure (isSha256 reviewedScopeFingerprint)
    (validationError "reviewed_scope_fingerprint must be lowercase SHA-256 hex"))
  let rows ← get
  let scope ← attempt (resolveArchiveScope python rows rfcId scopeKind)
  require (scope.scopeFingerprint = reviewedScopeFingerprint)
    (scopeStale "RFC archive reviewed scope changed before writer revalidation")
  let exactCount := scope.members.length
  let changedCount := scope.wouldChangeCount
  let response (changed : Bool) (operationId : Option String) : ArchiveRfcResult :=
    ⟨!changed, scopeKind, scope.scopeFingerprint, exactCount, changedCount,
      exactCount - changedCount, operationId⟩
  if changedCount = 0 then return response false none
  else do
    let operationId := (newUuid4 0).value
    insertArchiveOperation ⟨operationId, rfcId, scopeKind, scope.scopeFingerprint⟩
    let appliedCount ← archiveMembers newUuid4 operationId 2 scope.members
    require (appliedCount = changedCount)
      (persistenceFailure "RFC archive applied member count disagrees with reviewed scope")
    return response true (some operationId)

/-! ## `restore_operation` -/

/-- The body of the loop in `apply` on an eligible member. -/
def restoreMember (operationId eventId : String) (member : RfcArchiveOperationMember) :
    ArchiveBody PUnit := do
  let rows ← get
  match rows.rfc? member.rfcId with
  | none => throw (persistenceFailure "RFC archive member disappeared")
  | some row => do
    require (0 < row.revision) (persistenceFailure "RFC archive member revision is invalid")
    require (row.localArchiveState = .archived)
      (scopeStale "RFC archive restore eligibility changed before publication")
    moveRfc member.rfcId row.revision .archived .active
      (scopeStale "RFC archive restore member changed before publication")
    insertArchiveEvent ⟨eventId, member.rfcId, .restored, operationId, row.revision + 1⟩

/-- The loop over the members, with the identifiers drawn so far; returns `restored_count`. -/
def restoreMembers (newUuid4 : Nat → Uuid4) (operationId : String) :
    Nat → List RfcArchiveOperationMember → ArchiveBody Nat
  | _, [] => pure 0
  | drawn, member :: rest =>
    if member.restoreEligible then do
      restoreMember operationId (newUuid4 drawn).value member
      let restored ← restoreMembers newUuid4 operationId (drawn + 1) rest
      return restored + 1
    else restoreMembers newUuid4 operationId drawn rest

/-- `RfcArchiveService.restore_operation`; returns how many members it restored,
none for `NO_CHANGE`. The first identifier is the audit event's. -/
def restoreOperation (newUuid4 : Nat → Uuid4) (rfcArchiveOperationId : String) :
    ArchiveBody Nat := do
  attempt (ensure (isUuid4 rfcArchiveOperationId)
    (validationError "rfc_archive_operation_id must be canonical UUIDv4"))
  let rows ← get
  let (_, members) ← attempt (loadCompleteOperationMembers rows rfcArchiveOperationId)
  let eligibleCount := members.countP (·.restoreEligible)
  if eligibleCount = 0 then return 0
  else do
    let restoredCount ← restoreMembers newUuid4 rfcArchiveOperationId 1 members
    require (restoredCount = eligibleCount)
      (persistenceFailure "RFC archive restore count disagrees with operation eligibility")
    return restoredCount

end Soma.Tickets
