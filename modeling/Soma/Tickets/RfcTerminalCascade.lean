import Soma.Foundation.StrictJson
import Soma.Tickets.RfcHierarchy

/-!
`tickets/_rfc_terminal_cascade_state.py`, `_rfc_terminal_cascade_execution.py`
and the readers of `queries/rfc_terminal_cascade.py` they share: the pending
proposal a terminal RFC status captures, with its scope of RFCs and WFM tasks,
its refresh and its execution.

The WFM tasks in scope, what the two participants of an execution answer and
whether the deliberate action proof is valid are read elsewhere and come with
the call. Response pages, audit events and times are left out.
-/

namespace Soma.Tickets

open Foundation Transaction

/-! ## Tables -/

/-- `status_class`, as a delta carries it and as the projection stores it. -/
inductive RfcStatusClass where
  | unknown
  | preImplement
  | implementEligible
  | terminalClosed
  | terminalCancelled
  | other (text : String)
  deriving DecidableEq

def RfcStatusClass.text : RfcStatusClass → String
  | .unknown => "unknown"
  | .preImplement => "pre_implement"
  | .implementEligible => "implement_eligible"
  | .terminalClosed => "terminal_closed"
  | .terminalCancelled => "terminal_cancelled"
  | .other text => text

/-- `status_class in _TERMINAL_STATUS_CLASSES`. -/
def RfcStatusClass.isTerminal : RfcStatusClass → Bool
  | .terminalClosed | .terminalCancelled => true
  | _ => false

inductive RfcStatusAuthority where
  | enhancedRfc
  | wfmProvisional
  | other (text : String)
  deriving DecidableEq

/-- The accepted source fields of an RFC. -/
inductive RfcSourceField where
  | summary
  | externalCreatedAt
  | creator
  | customerAccountNumber
  | customerAccountName
  | severity
  | status
  | ownerExternalId
  | ownerName
  | l1HandlerName
  | l2HandlerName
  | lastUpdate
  deriving DecidableEq

/-- `str | int`. -/
inductive RfcSourceValue where
  | text (value : String)
  | integer (value : Int)
  deriving DecidableEq

/-- A row of `rfc_current_source_projection`: for each field the value and the
evidence column. -/
structure RfcSourceProjection where
  rfcId : String
  value : RfcSourceField → Option RfcSourceValue
  evidenceId : RfcSourceField → Option String
  statusClass : RfcStatusClass
  statusAuthority : Option RfcStatusAuthority
  terminalEpochId : Option String
  revision : Int

inductive CascadeScopeKind where
  | exactRfc
  | rootBranch
  deriving DecidableEq

def CascadeScopeKind.text : CascadeScopeKind → String
  | .exactRfc => "exact_rfc"
  | .rootBranch => "root_branch"

inductive CascadeProposalState where
  | pending
  | executed
  | superseded
  deriving DecidableEq

inductive CapturedRole where
  | root
  | subordinate
  | standalone
  deriving DecidableEq

def CapturedRole.text : CapturedRole → String
  | .root => "root"
  | .subordinate => "subordinate"
  | .standalone => "standalone"

structure RfcTerminalCascadeProposal where
  proposalId : String
  triggerRfcId : String
  terminalEpochId : String
  terminalStatusClass : RfcStatusClass
  terminalStatusEvidenceId : String
  scopeKind : CascadeScopeKind
  scopeFingerprint : String
  proposalState : CascadeProposalState
  revision : Int
  createdCommandId : String

structure RfcTerminalCascadeRfcMember where
  rfcId : String
  capturedRfcRevision : Int
  capturedRole : CapturedRole

structure RfcTerminalCascadeWfmMember where
  taskId : String
  owningRfcId : String
  capturedTaskRevision : Int
  capturedTaskNo : String
  deriving DecidableEq

/-- A row of one of the two member tables. -/
structure CascadeMemberRow (Member : Type) where
  proposalId : String
  member : Member
  ordinal : Nat

/-- The tables of the source projections and the terminal cascades, the tables
they read, and the lifecycle states in `customer_organizations`. -/
structure CascadeRows where
  rfcs : List Rfc
  hierarchyEdges : List RfcHierarchyEdge
  customerLifecycle : String → Option String
  commandReceipts : List String
  projections : List RfcSourceProjection
  proposals : List RfcTerminalCascadeProposal
  rfcMembers : List (CascadeMemberRow RfcTerminalCascadeRfcMember)
  wfmMembers : List (CascadeMemberRow RfcTerminalCascadeWfmMember)

abbrev CascadeBody (Result : Type) := Body CascadeRows Raised Result

namespace CascadeRows

/-- `SELECT .. FROM rfcs WHERE rfc_id=?`. -/
def rfc? (rows : CascadeRows) (rfcId : String) : Option Rfc :=
  rows.rfcs.find? (·.rfcId = rfcId)

/-- `SELECT .. FROM rfc_current_source_projection WHERE rfc_id=?`. -/
def projection? (rows : CascadeRows) (rfcId : String) : Option RfcSourceProjection :=
  rows.projections.find? (·.rfcId = rfcId)

def proposal? (rows : CascadeRows) (proposalId : String) : Option RfcTerminalCascadeProposal :=
  rows.proposals.find? (·.proposalId = proposalId)

/-- The pending proposal of one terminal epoch of an RFC. -/
def pendingForEpoch (rows : CascadeRows) (rfcId terminalEpochId : String) :
    Option RfcTerminalCascadeProposal :=
  rows.proposals.find? fun proposal => proposal.triggerRfcId = rfcId ∧
    proposal.terminalEpochId = terminalEpochId ∧ proposal.proposalState = .pending

end CascadeRows

/-- The rows of a proposal in a member table. -/
def memberRows {Member : Type} (rows : List (CascadeMemberRow Member)) (proposalId : String) :
    List (CascadeMemberRow Member) :=
  rows.filter (·.proposalId = proposalId)

/-- The rows of a proposal, `ORDER BY ordinal ASC` and by their identity. -/
def orderedMemberRows {Member : Type} (identity : Member → String)
    (rows : List (CascadeMemberRow Member)) (proposalId : String) :
    List (CascadeMemberRow Member) :=
  (memberRows rows proposalId).insertionSort fun left right => left.ordinal < right.ordinal ∨
    (left.ordinal = right.ordinal ∧ identity left.member ≤ identity right.member)

def cascadeStale (message : String) : Raised := ticketError "RFC_TERMINAL_CASCADE_STALE" message

def participantFailed (message : String) : Raised :=
  ticketError "RFC_TERMINAL_CASCADE_PARTICIPANT_FAILED" message

/-! ## The scope and its fingerprint -/

structure RfcTerminalCascadeScope where
  triggerRfcId : String
  terminalEpochId : String
  terminalStatusClass : RfcStatusClass
  terminalStatusEvidenceId : String
  scopeKind : CascadeScopeKind
  rfcMembers : List RfcTerminalCascadeRfcMember
  wfmMembers : List RfcTerminalCascadeWfmMember
  scopeFingerprint : String

def RfcTerminalCascadeRfcMember.payload (member : RfcTerminalCascadeRfcMember) : Json :=
  .obj [("rfc_id", .str member.rfcId), ("captured_rfc_revision", .int member.capturedRfcRevision),
    ("captured_role", .str member.capturedRole.text)]

def RfcTerminalCascadeWfmMember.payload (member : RfcTerminalCascadeWfmMember) : Json :=
  .obj [("task_id", .str member.taskId), ("owning_rfc_id", .str member.owningRfcId),
    ("captured_task_revision", .int member.capturedTaskRevision),
    ("captured_task_no", .str member.capturedTaskNo)]

def terminalCascadeScopePayload (triggerRfcId terminalEpochId : String)
    (terminalStatusClass : RfcStatusClass) (terminalStatusEvidenceId : String)
    (scopeKind : CascadeScopeKind) (rfcMembers : List RfcTerminalCascadeRfcMember)
    (wfmMembers : List RfcTerminalCascadeWfmMember) : Json :=
  .obj [
    ("schema", .str "SOMA_RFC_TERMINAL_CASCADE_SCOPE_V1"),
    ("proposal_contract_version", .int 1),
    ("trigger_rfc_id", .str triggerRfcId),
    ("terminal_epoch_id", .str terminalEpochId),
    ("terminal_status_class", .str terminalStatusClass.text),
    ("terminal_status_evidence_id", .str terminalStatusEvidenceId),
    ("scope_kind", .str scopeKind.text),
    ("rfc_members", .arr (rfcMembers.map (·.payload))),
    ("wfm_members", .arr (wfmMembers.map (·.payload)))]

def terminalCascadeScopeFingerprint (python : PythonLibrary) (triggerRfcId terminalEpochId : String)
    (terminalStatusClass : RfcStatusClass) (terminalStatusEvidenceId : String)
    (scopeKind : CascadeScopeKind) (rfcMembers : List RfcTerminalCascadeRfcMember)
    (wfmMembers : List RfcTerminalCascadeWfmMember) : Except Raised String :=
  sha256CanonicalJson python (terminalCascadeScopePayload triggerRfcId terminalEpochId
    terminalStatusClass terminalStatusEvidenceId scopeKind rfcMembers wfmMembers)

/-- `_stored_uuid`, and `_validate_uuid` of the queries. -/
def storedUuid (value field : String) : Except Raised Unit :=
  ensure (isUuid4 value) (persistenceFailure ("stored " ++ field ++ " is not canonical UUIDv4"))

def positiveRevision (value : Int) (field : String) : Except Raised Unit :=
  ensure (0 < value) (persistenceFailure (field ++ " must be a positive integer"))

/-- `_TASK_NO_RE`: `TK` and fourteen digits. -/
def isTaskNo (value : String) : Bool :=
  let digits := value.toList.drop 2
  value.toList.take 2 = ['T', 'K'] && digits.length = 14 &&
    digits.all fun digit => '0' ≤ digit ∧ digit ≤ '9'

def validateTerminalProjection (rows : CascadeRows) (triggerRfcId terminalEpochId : String)
    (terminalStatusClass : RfcStatusClass) (terminalStatusEvidenceId : String) :
    Except Raised Unit := do
  ensure (terminalStatusClass.isTerminal)
    (cascadeStale "terminal cascade capture requires terminal RFC status")
  ensure (terminalStatusEvidenceId ≠ "")
    (cascadeStale "terminal cascade capture requires exact status evidence")
  ensure (((rows.projection? triggerRfcId).map fun row =>
      (row.statusClass, row.evidenceId .status, row.terminalEpochId)) =
        some (terminalStatusClass, some terminalStatusEvidenceId, some terminalEpochId))
    (cascadeStale "terminal cascade capture no longer matches current RFC terminal evidence")

/-- The children of an RFC, `ORDER BY child.rfc_id ASC`. -/
def CascadeRows.children (rows : CascadeRows) (triggerRfcId : String) : List Rfc :=
  ((rows.hierarchyEdges.filter fun edge =>
      edge.parentRfcId = triggerRfcId ∧ edge.edgeState = .active).flatMap fun edge =>
    rows.rfcs.filter (·.rfcId = edge.childRfcId)).insertionSort fun left right =>
      left.rfcId ≤ right.rfcId

/-- The loop over the children, with `previous_child_id`. -/
def captureChildren : Option String → List Rfc → Except Raised (List RfcTerminalCascadeRfcMember)
  | _, [] => .ok []
  | previous, child :: rest => do
    storedUuid child.rfcId "RFC child identity"
    ensure (∀ before ∈ previous, before < child.rfcId)
      (persistenceFailure "RFC child ordering/identity is not canonical")
    positiveRevision child.revision "stored child RFC revision"
    let members ← captureChildren (some child.rfcId) rest
    return ⟨child.rfcId, child.revision, .subordinate⟩ :: members

def captureRfcScope (rows : CascadeRows) (triggerRfcId : String) :
    Except Raised (CascadeScopeKind × List RfcTerminalCascadeRfcMember) := do
  storedUuid triggerRfcId "trigger RFC identity"
  match rows.rfc? triggerRfcId with
  | none => .error (ticketError "NOT_FOUND" "trigger RFC does not exist")
  | some trigger => do
    positiveRevision trigger.revision "stored RFC revision"
    let children := rows.children triggerRfcId
    match rows.hierarchyEdges.find? fun edge =>
      edge.childRfcId = triggerRfcId ∧ edge.edgeState = .active with
    | some parent => do
      ensure (children = [])
        (persistenceFailure "RFC hierarchy violates the two-level forest invariant")
      storedUuid parent.parentRfcId "RFC parent identity"
      return (.exactRfc, [⟨triggerRfcId, trigger.revision, .subordinate⟩])
    | none => do
      let rootRole := if children = [] then CapturedRole.standalone else .root
      let members ← captureChildren none children
      return (.rootBranch, ⟨triggerRfcId, trigger.revision, rootRole⟩ :: members)

/-- The loop of `_normalize_wfm_members`, with the tasks and Task Nos. seen. -/
def checkWfmMembers (rfcIds : List String) :
    List String → List String → List RfcTerminalCascadeWfmMember → Except Raised Unit
  | _, _, [] => .ok ()
  | seenTaskIds, seenTaskNos, raw :: rest => do
    ensure (isUuid4 raw.taskId ∧ isUuid4 raw.owningRfcId)
      (participantFailed "Task participant returned a non-canonical identity")
    ensure (raw.owningRfcId ∈ rfcIds)
      (participantFailed "Task participant returned a WFM outside the captured RFC scope")
    ensure (0 < raw.capturedTaskRevision)
      (participantFailed "captured Task revision must be a positive integer")
    ensure (isTaskNo raw.capturedTaskNo)
      (participantFailed "Task participant returned an invalid immutable WFM Task No.")
    ensure (raw.taskId ∉ seenTaskIds ∧ raw.capturedTaskNo ∉ seenTaskNos)
      (participantFailed "Task participant returned duplicate WFM identity")
    checkWfmMembers rfcIds (raw.taskId :: seenTaskIds) (raw.capturedTaskNo :: seenTaskNos) rest

def normalizeWfmMembers (rfcIds : List String) (rawMembers : List RfcTerminalCascadeWfmMember) :
    Except Raised (List RfcTerminalCascadeWfmMember) := do
  checkWfmMembers rfcIds [] [] rawMembers
  return rawMembers.insertionSort fun left right => left.owningRfcId < right.owningRfcId ∨
    (left.owningRfcId = right.owningRfcId ∧ left.taskId ≤ right.taskId)

/-- `capture_applicable_wfms` of the Task participant. -/
abbrev WfmCapture := List String → Except Raised (List RfcTerminalCascadeWfmMember)

def captureScope (python : PythonLibrary) (captureApplicableWfms : WfmCapture) (rows : CascadeRows)
    (triggerRfcId terminalEpochId : String) (terminalStatusClass : RfcStatusClass)
    (terminalStatusEvidenceId : String) : Except Raised RfcTerminalCascadeScope := do
  validateTerminalProjection rows triggerRfcId terminalEpochId terminalStatusClass
    terminalStatusEvidenceId
  let (scopeKind, rfcMembers) ← captureRfcScope rows triggerRfcId
  let rfcIds := rfcMembers.map (·.rfcId)
  let rawWfms ← rewrapAny
    (participantFailed "Task participant failed while capturing applicable WFMs")
    (captureApplicableWfms rfcIds)
  let wfmMembers ← normalizeWfmMembers rfcIds rawWfms
  let fingerprint ← terminalCascadeScopeFingerprint python triggerRfcId terminalEpochId
    terminalStatusClass terminalStatusEvidenceId scopeKind rfcMembers wfmMembers
  return ⟨triggerRfcId, terminalEpochId, terminalStatusClass, terminalStatusEvidenceId, scopeKind,
    rfcMembers, wfmMembers, fingerprint⟩

/-! ## Statements -/

/-- Inserts the members in turn, each under the declared keys and checks. -/
def insertMembers {Member : Type} (identity : Member → String) (declared : Member → Bool)
    (proposalId : String) : Nat → List Member → List (CascadeMemberRow Member) →
      Except Raised (List (CascadeMemberRow Member))
  | _, [], rows => .ok rows
  | ordinal, member :: rest, rows => do
    ensure (declared member ∧ ∀ other ∈ rows, other.proposalId = proposalId →
      identity other.member ≠ identity member ∧ other.ordinal ≠ ordinal) .other
    insertMembers identity declared proposalId (ordinal + 1) rest
      (rows ++ [⟨proposalId, member, ordinal⟩])

/-- The pending proposal of a captured scope. -/
def RfcTerminalCascadeScope.proposal (scope : RfcTerminalCascadeScope)
    (proposalId createdCommandId : String) : RfcTerminalCascadeProposal where
  proposalId
  triggerRfcId := scope.triggerRfcId
  terminalEpochId := scope.terminalEpochId
  terminalStatusClass := scope.terminalStatusClass
  terminalStatusEvidenceId := scope.terminalStatusEvidenceId
  scopeKind := scope.scopeKind
  scopeFingerprint := scope.scopeFingerprint
  proposalState := .pending
  revision := 1
  createdCommandId

/-- The inserts of `capture_pending` and `_insert_replacement`: the pending
proposal, its RFC members and its WFM members. -/
def insertPending (proposalId : String) (scope : RfcTerminalCascadeScope)
    (createdCommandId : String) : CascadeBody PUnit := do
  let rows ← get
  require (proposalId ∉ rows.proposals.map (·.proposalId) ∧
    scope.triggerRfcId ∈ rows.rfcs.map (·.rfcId) ∧ createdCommandId ∈ rows.commandReceipts) .other
  require (scope.terminalEpochId ≠ "" ∧ scope.terminalStatusClass.isTerminal ∧
    scope.terminalStatusEvidenceId ≠ "" ∧ scope.scopeFingerprint.toList.length = 64) .other
  -- `uq_rfc_terminal_pending_epoch`
  require (rows.pendingForEpoch scope.triggerRfcId scope.terminalEpochId = none) .other
  let known (rfcId : String) : Bool := rfcId ∈ rows.rfcs.map (·.rfcId)
  let rfcMembers ← attempt (insertMembers (·.rfcId)
    (fun member => 0 < member.capturedRfcRevision ∧ known member.rfcId) proposalId 0
    scope.rfcMembers rows.rfcMembers)
  let wfmMembers ← attempt (insertMembers (·.taskId)
    (fun member => 0 < member.capturedTaskRevision ∧ known member.owningRfcId ∧
      isTaskNo member.capturedTaskNo) proposalId 0 scope.wfmMembers rows.wfmMembers)
  set { rows with
    proposals := rows.proposals ++ [scope.proposal proposalId createdCommandId]
    rfcMembers
    wfmMembers }

/-- `UPDATE rfc_terminal_cascade_proposals SET proposal_state=?, revision=revision+1 .. WHERE
.. proposal_state='pending' AND revision=?`, which has to hit one row. -/
def closePending (closed : CascadeProposalState) (proposalId : String) (revision : Int)
    (lost : Raised) : CascadeBody PUnit := do
  let rows ← get
  let selected (row : RfcTerminalCascadeProposal) : Bool :=
    row.proposalId = proposalId ∧ row.proposalState = .pending ∧ row.revision = revision
  require (rows.proposals.countP selected = 1) lost
  set { rows with
    proposals := rows.proposals.map fun row =>
      if selected row then { row with proposalState := closed, revision := row.revision + 1 }
      else row }

/-- The receipt the command boundary inserts before it calls `apply`. -/
def insertReceipt (commandId : String) : CascadeBody PUnit := do
  let rows ← get
  require (commandId ∉ rows.commandReceipts) .other
  set { rows with commandReceipts := rows.commandReceipts ++ [commandId] }

/-! ## `capture_pending` -/

/-- `RfcTerminalCascadeCaptureService.capture_pending`. -/
def capturePending (python : PythonLibrary) (captureApplicableWfms : WfmCapture)
    (newUuid4 : Uuid4) (triggerRfcId terminalEpochId : String)
    (terminalStatusClass : RfcStatusClass) (terminalStatusEvidenceId acceptedCommandId : String) :
    CascadeBody String := do
  let rows ← get
  require (acceptedCommandId ∈ rows.commandReceipts)
    (persistenceFailure "terminal cascade capture requires the outer accepted command receipt")
  require (rows.pendingForEpoch triggerRfcId terminalEpochId = none)
    (cascadeStale "a pending terminal cascade already exists for this RFC terminal epoch")
  let scope ← attempt (captureScope python captureApplicableWfms rows triggerRfcId terminalEpochId
    terminalStatusClass terminalStatusEvidenceId)
  insertPending newUuid4.value scope acceptedCommandId
  return newUuid4.value

/-! ## `refresh` -/

/-- `RfcTerminalCascadeStateResult`, and `RfcTerminalCascadeState` of the queries. -/
structure CascadeState where
  proposalId : String
  triggerRfcId : String
  state : CascadeProposalState
  proposalRevision : Int
  terminalEpochId : String
  terminalStatusClass : RfcStatusClass
  terminalStatusEvidenceId : String
  scopeKind : CascadeScopeKind
  scopeFingerprint : String
  capturedRfcCount : Nat
  capturedWfmCount : Nat

/-- The selected columns of a proposal, with the two `SELECT COUNT(*)`. -/
def proposalState (rows : CascadeRows) (proposal : RfcTerminalCascadeProposal) : CascadeState where
  proposalId := proposal.proposalId
  triggerRfcId := proposal.triggerRfcId
  state := proposal.proposalState
  proposalRevision := proposal.revision
  terminalEpochId := proposal.terminalEpochId
  terminalStatusClass := proposal.terminalStatusClass
  terminalStatusEvidenceId := proposal.terminalStatusEvidenceId
  scopeKind := proposal.scopeKind
  scopeFingerprint := proposal.scopeFingerprint
  capturedRfcCount := rows.rfcMembers.countP (·.proposalId = proposal.proposalId)
  capturedWfmCount := rows.wfmMembers.countP (·.proposalId = proposal.proposalId)

/-- `SELECT .. WHERE rfc_terminal_cascade_proposal_id=?`, which has to find a pending proposal. -/
def selectPending (rows : CascadeRows) (proposalId : String) : Except Raised CascadeState :=
  match rows.proposal? proposalId with
  | none => .error (ticketError "NOT_FOUND" "RFC terminal cascade proposal does not exist")
  | some proposal => do
    ensure (proposal.proposalState = .pending)
      (ticketError "RFC_TERMINAL_CASCADE_NOT_PENDING" "RFC terminal cascade proposal is not pending")
    return proposalState rows proposal

/-- `RfcTerminalCascadeRefreshService._load_pending`. -/
def loadPendingForRefresh (rows : CascadeRows) (proposalId : String) :
    Except Raised CascadeState := do
  let state ← selectPending rows proposalId
  storedUuid state.triggerRfcId "terminal cascade trigger RFC identity"
  positiveRevision state.proposalRevision "terminal cascade proposal revision"
  ensure (state.terminalEpochId ≠ "")
    (persistenceFailure "stored terminal cascade epoch is invalid")
  ensure (state.terminalStatusClass.isTerminal)
    (persistenceFailure "stored terminal cascade status class is invalid")
  ensure (state.terminalStatusEvidenceId ≠ "")
    (persistenceFailure "stored terminal cascade evidence identity is invalid")
  ensure (isSha256 state.scopeFingerprint)
    (persistenceFailure "stored terminal cascade scope fingerprint is invalid")
  ensure (1 ≤ state.capturedRfcCount)
    (persistenceFailure "pending terminal cascade omitted RFC membership")
  return state

def currentTerminalBinding (rows : CascadeRows) (triggerRfcId terminalEpochId : String) :
    Except Raised (RfcStatusClass × String) :=
  let stale := cascadeStale
    "RFC terminal cascade proposal no longer belongs to the current terminal epoch"
  match rows.projection? triggerRfcId with
  | none => .error stale
  | some row =>
    match row.evidenceId .status with
    | none => .error stale
    | some evidenceId => do
      ensure (row.terminalEpochId = some terminalEpochId ∧ row.statusClass.isTerminal ∧
        evidenceId ≠ "") stale
      return (row.statusClass, evidenceId)

/-- `RfcTerminalCascadeRefreshService.refresh`, which the command boundary runs
in one transaction. -/
def refreshPending (python : PythonLibrary) (captureApplicableWfms : WfmCapture)
    (newUuid4 : Uuid4) (commandId proposalId : String) (proposalRevision : Int) :
    CascadeBody CascadeState := do
  attempt (ensure (isUuid4 proposalId) (validationError "proposal_id must be canonical UUIDv4"))
  let rows ← get
  let prior ← attempt (loadPendingForRefresh rows proposalId)
  require (prior.proposalRevision = proposalRevision)
    (cascadeStale "RFC terminal cascade proposal revision changed before refresh")
  let (currentStatusClass, currentEvidenceId) ←
    attempt (currentTerminalBinding rows prior.triggerRfcId prior.terminalEpochId)
  let scope ← attempt (captureScope python captureApplicableWfms rows prior.triggerRfcId
    prior.terminalEpochId currentStatusClass currentEvidenceId)
  if currentStatusClass = prior.terminalStatusClass ∧
      currentEvidenceId = prior.terminalStatusEvidenceId ∧ scope.scopeKind = prior.scopeKind ∧
      scope.scopeFingerprint = prior.scopeFingerprint then do
    insertReceipt commandId
    return prior
  else do
    insertReceipt commandId
    closePending .superseded proposalId prior.proposalRevision
      (cascadeStale "RFC terminal cascade proposal changed before refresh publication")
    insertPending newUuid4.value scope commandId
    return {
      proposalId := newUuid4.value
      triggerRfcId := prior.triggerRfcId
      state := .pending
      proposalRevision := 1
      terminalEpochId := prior.terminalEpochId
      terminalStatusClass := currentStatusClass
      terminalStatusEvidenceId := currentEvidenceId
      scopeKind := scope.scopeKind
      scopeFingerprint := scope.scopeFingerprint
      capturedRfcCount := scope.rfcMembers.length
      capturedWfmCount := scope.wfmMembers.length }

/-! ## Readers -/

/-- `RfcTerminalCascadeQueryService._state_from_row`. -/
def stateFromRow (state : CascadeState) : Except Raised CascadeState := do
  storedUuid state.proposalId "terminal cascade proposal identity"
  storedUuid state.triggerRfcId "terminal cascade trigger RFC identity"
  ensure (state.state = .pending)
    (persistenceFailure "pending terminal cascade query resolved non-pending state")
  positiveRevision state.proposalRevision "stored terminal cascade proposal revision"
  ensure (state.terminalEpochId ≠ "")
    (persistenceFailure "stored terminal epoch identity must be non-empty text")
  ensure (state.terminalStatusClass.isTerminal)
    (persistenceFailure "stored terminal cascade status class is invalid")
  ensure (state.terminalStatusEvidenceId ≠ "")
    (persistenceFailure "stored terminal cascade evidence identity must be non-empty text")
  ensure (isSha256 state.scopeFingerprint)
    (persistenceFailure "stored terminal cascade scope fingerprint is invalid")
  ensure (1 ≤ state.capturedRfcCount)
    (persistenceFailure "pending terminal cascade omitted RFC membership")
  return state

/-- `RfcTerminalCascadeQueryService._load_pending`: the row it returns. -/
def loadPending (rows : CascadeRows) (rfcId : String) : Except Raised CascadeState := do
  ensure (isUuid4 rfcId) (validationError "rfc_id must be canonical UUIDv4")
  ensure (rfcId ∈ rows.rfcs.map (·.rfcId)) (ticketError "NOT_FOUND" "RFC does not exist")
  match rows.proposals.find? fun proposal =>
    proposal.triggerRfcId = rfcId ∧ proposal.proposalState = .pending with
  | none =>
    .error (ticketError "RFC_TERMINAL_CASCADE_NOT_PENDING"
      "RFC has no current pending terminal cascade proposal")
  | some proposal => .ok (proposalState rows proposal)

/-- `RfcTerminalCascadeProposalSnapshot`. -/
structure CascadeProposalSnapshot where
  state : CascadeState
  rfcMembers : List RfcTerminalCascadeRfcMember
  wfmMembers : List RfcTerminalCascadeWfmMember

/-- The shape a scope of either kind has. -/
def checkScopeShape (state : CascadeState) :
    List RfcTerminalCascadeRfcMember → Except Raised Unit
  | [] => .error (persistenceFailure
      "terminal cascade proposal RFC count disagrees with immutable membership")
  | first :: others =>
    match state.scopeKind with
    | .exactRfc =>
      ensure (others = [] ∧ first.rfcId = state.triggerRfcId ∧ first.capturedRole = .subordinate)
        (persistenceFailure "exact terminal cascade RFC scope is invalid")
    | .rootBranch => do
      ensure (first.rfcId = state.triggerRfcId ∧
          (first.capturedRole = .root ∨ first.capturedRole = .standalone))
        (persistenceFailure "root-branch terminal cascade trigger membership is invalid")
      ensure (first.capturedRole = .standalone → others = [])
        (persistenceFailure "standalone terminal cascade scope contains subordinate members")
      ensure (first.capturedRole = .root → ∀ member ∈ others, member.capturedRole = .subordinate)
        (persistenceFailure "root terminal cascade child role is invalid")
      ensure (first.capturedRole = .root → (others.map (·.rfcId)).Pairwise (· ≤ ·))
        (persistenceFailure "root terminal cascade child ordering is invalid")

/-- One round of the loop over the RFC rows, with `expected_ordinal`. -/
def readRfcRow (entry : CascadeMemberRow RfcTerminalCascadeRfcMember × Nat) :
    Except Raised RfcTerminalCascadeRfcMember := do
  storedUuid entry.1.member.rfcId "captured RFC identity"
  positiveRevision entry.1.member.capturedRfcRevision "stored captured RFC revision"
  ensure (entry.1.ordinal = entry.2)
    (persistenceFailure "terminal cascade RFC membership order/role is invalid")
  return entry.1.member

/-- One round of the loop over the WFM rows. -/
def readWfmRow (entry : CascadeMemberRow RfcTerminalCascadeWfmMember × Nat) :
    Except Raised RfcTerminalCascadeWfmMember := do
  storedUuid entry.1.member.taskId "captured WFM Task identity"
  storedUuid entry.1.member.owningRfcId "captured WFM owning RFC identity"
  positiveRevision entry.1.member.capturedTaskRevision "stored captured WFM Task revision"
  ensure (entry.1.ordinal = entry.2 ∧ isTaskNo entry.1.member.capturedTaskNo)
    (persistenceFailure "terminal cascade WFM membership order/identity is invalid")
  return entry.1.member

def persistedSnapshot (python : PythonLibrary) (rows : CascadeRows) (state : CascadeState) :
    Except Raised CascadeProposalSnapshot := do
  let rfcRows := orderedMemberRows (·.rfcId) rows.rfcMembers state.proposalId
  ensure (rfcRows.length = state.capturedRfcCount ∧ rfcRows ≠ []) (persistenceFailure
    "terminal cascade proposal RFC count disagrees with immutable membership")
  let rfcMembers ← rfcRows.zipIdx.mapM readRfcRow
  checkScopeShape state rfcMembers
  let wfmRows := orderedMemberRows (·.taskId) rows.wfmMembers state.proposalId
  ensure (wfmRows.length = state.capturedWfmCount) (persistenceFailure
    "terminal cascade proposal WFM count disagrees with immutable membership")
  let rawWfms ← wfmRows.zipIdx.mapM readWfmRow
  let wfmMembers ← normalizeWfmMembers (rfcMembers.map (·.rfcId)) rawWfms
  ensure (rawWfms = wfmMembers)
    (persistenceFailure "persisted terminal cascade WFM ordering is non-canonical")
  let recomputed ← terminalCascadeScopeFingerprint python state.triggerRfcId state.terminalEpochId
    state.terminalStatusClass state.terminalStatusEvidenceId state.scopeKind rfcMembers wfmMembers
  ensure (recomputed = state.scopeFingerprint) (persistenceFailure
    "persisted terminal cascade scope fingerprint disagrees with immutable members")
  return ⟨state, rfcMembers, wfmMembers⟩

/-! ## `execute` -/

/-- `RfcTerminalCascadeExecutionReview`. -/
structure CascadeExecutionReview where
  previewFingerprint : String
  taskObjectiveExactCount : Nat
  taskObjectiveProviderFingerprint : String
  communicationExactCount : Nat
  communicationProviderFingerprint : String
  forms : isSha256 previewFingerprint ∧ isSha256 taskObjectiveProviderFingerprint ∧
    isSha256 communicationProviderFingerprint

/-- A participant of an execution: its answer to `revalidate_terminal_cascade`,
and the domain of the summary `apply_terminal_cascade` returns. -/
structure CascadeParticipant where
  domain : String
  name : String
  revalidate : CascadeProposalSnapshot → Nat → String → Except Raised String
  apply : CascadeProposalSnapshot → String → Except Raised String

/-- What an execution is given. -/
structure CascadeExecutionCall where
  commandId : String
  proposalId : String
  proposalRevision : Int
  executionReview : CascadeExecutionReview
  captureApplicableWfms : WfmCapture
  taskParticipant : CascadeParticipant
  communicationParticipant : CascadeParticipant
  /-- `validate_and_consume` on the action, the target, its revision and the
  preview fingerprint: whether it returns something. -/
  validateAndConsume : String → String → Int → String → Except Raised Bool

def revalidateParticipant (participant : CascadeParticipant) (proposal : CascadeProposalSnapshot)
    (reviewedExactCount : Nat) (reviewedProviderFingerprint : String) : Except Raised Unit := do
  let status ← rewrapAny
    (participantFailed (participant.name ++ " terminal cascade revalidation failed"))
    (participant.revalidate proposal reviewedExactCount reviewedProviderFingerprint)
  ensure (status ≠ "STALE") (cascadeStale
    (participant.name ++ " terminal cascade impact authority changed after review"))
  ensure (status = "READY") (participantFailed
    (participant.name ++ " terminal cascade impact authority is indeterminate"))

def applyParticipant (participant : CascadeParticipant) (proposal : CascadeProposalSnapshot)
    (commandId : String) : CascadeBody PUnit := do
  let rows ← get
  require (commandId ∈ rows.commandReceipts) (persistenceFailure
    "terminal cascade participant apply requires the outer command receipt")
  let domain ← attempt (rewrapAny
    (participantFailed (participant.name ++ " terminal cascade apply failed"))
    (participant.apply proposal commandId))
  require (domain = participant.domain) (participantFailed
    (participant.name ++ " terminal cascade apply returned an invalid bounded summary"))

/-- `terminal_cascade_preview_fingerprint` without stale reasons. -/
def terminalCascadePreviewFingerprint (python : PythonLibrary) (state : CascadeState)
    (currentScopeFingerprint : String) (persistedMemberCount currentMemberCount : Nat)
    (review : CascadeExecutionReview) : Except Raised String :=
  let summary (exactCount : Nat) (providerFingerprint : String) : Json :=
    .obj [("status", .str "READY"), ("exact_count", .int exactCount),
      ("provider_fingerprint", .str providerFingerprint)]
  sha256CanonicalJson python (.obj [
    ("schema", .str "SOMA_RFC_TERMINAL_CASCADE_PREVIEW_V1"),
    ("proposal_id", .str state.proposalId),
    ("proposal_revision", .int state.proposalRevision),
    ("persisted_scope_fingerprint", .str state.scopeFingerprint),
    ("current_scope_fingerprint", .str currentScopeFingerprint),
    ("persisted_member_count", .int persistedMemberCount),
    ("current_member_count", .int currentMemberCount),
    ("stale_reasons", .arr []),
    ("task_objective_preview",
      summary review.taskObjectiveExactCount review.taskObjectiveProviderFingerprint),
    ("communication_preview",
      summary review.communicationExactCount review.communicationProviderFingerprint)])

/-- The reads of `execute.prepare`: the reviewed proposal, if it may be executed. -/
def reviewedProposal (python : PythonLibrary) (call : CascadeExecutionCall) (rows : CascadeRows) :
    Except Raised CascadeProposalSnapshot := do
  ensure (isUuid4 call.proposalId) (validationError "proposal_id must be canonical UUIDv4")
  let state ← selectPending rows call.proposalId >>= stateFromRow
  ensure (state.proposalRevision = call.proposalRevision)
    (cascadeStale "RFC terminal cascade proposal revision changed after review")
  let proposal ← persistedSnapshot python rows state
  let currentScope ← captureScope python call.captureApplicableWfms rows state.triggerRfcId
    state.terminalEpochId state.terminalStatusClass state.terminalStatusEvidenceId
  let persistedMemberCount := proposal.rfcMembers.length + proposal.wfmMembers.length
  let currentMemberCount := currentScope.rfcMembers.length + currentScope.wfmMembers.length
  ensure (currentScope.scopeKind = state.scopeKind ∧
      currentScope.scopeFingerprint = state.scopeFingerprint ∧
      currentMemberCount = persistedMemberCount)
    (cascadeStale "RFC terminal cascade RFC/WFM scope changed after review")
  let review := call.executionReview
  revalidateParticipant call.taskParticipant proposal review.taskObjectiveExactCount
    review.taskObjectiveProviderFingerprint
  revalidateParticipant call.communicationParticipant proposal review.communicationExactCount
    review.communicationProviderFingerprint
  let previewFingerprint ← terminalCascadePreviewFingerprint python state
    currentScope.scopeFingerprint persistedMemberCount currentMemberCount review
  ensure (previewFingerprint = review.previewFingerprint)
    (cascadeStale "RFC terminal cascade reviewed preview no longer matches current authority")
  let validated ← rewrapAny
    (ticketError "RFC_TERMINAL_CASCADE_CONFIRMATION_REQUIRED"
      "RFC terminal cascade deliberate-action proof is invalid or unavailable")
    (call.validateAndConsume "tickets.rfc.terminal_cascade.execute" call.proposalId
      call.proposalRevision review.previewFingerprint)
  ensure validated
    (ticketError "RFC_TERMINAL_CASCADE_CONFIRMATION_REQUIRED"
      "RFC terminal cascade deliberate-action proof did not validate")
  return proposal

/-- `RfcTerminalCascadeExecutionService.execute`, which the command boundary
runs in one transaction. -/
def executePending (python : PythonLibrary) (call : CascadeExecutionCall) :
    CascadeBody CascadeState := do
  let rows ← get
  let proposal ← attempt (reviewedProposal python call rows)
  insertReceipt call.commandId
  applyParticipant call.taskParticipant proposal call.commandId
  applyParticipant call.communicationParticipant proposal call.commandId
  closePending .executed call.proposalId proposal.state.proposalRevision
    (cascadeStale "RFC terminal cascade proposal changed before execution publication")
  return { proposal.state with
    state := .executed
    proposalRevision := proposal.state.proposalRevision + 1 }

end Soma.Tickets
