import Soma.Tickets.RfcTerminalCascade

/-!
`tickets/rfc_source_projection.py`: the accepted source projection of an RFC. A
set of accepted field deltas rewrites the fields whose value it changes. A
status that becomes terminal opens a terminal epoch and captures a pending
cascade proposal for it; a terminal status that is reversed under review closes
the epoch and supersedes its pending proposal.

What the evidence provider answers about a delta and which WFM tasks are in
scope are read elsewhere and come with the call.
-/

namespace Soma.Tickets

open Foundation Transaction

/-! ## Data -/

/-- `value_kind`, as a delta carries it. -/
inductive RfcSourceKind where
  | text
  | instant
  | controlled
  | other (text : String)
  deriving DecidableEq

def rfcFieldSpecs : List (String × RfcSourceField × RfcSourceKind) :=
  [("summary", .summary, .text),
   ("external_created_at", .externalCreatedAt, .instant),
   ("creator", .creator, .text),
   ("customer_account_number", .customerAccountNumber, .text),
   ("customer_account_name", .customerAccountName, .text),
   ("severity", .severity, .text),
   ("status", .status, .controlled),
   ("owner_external_id", .ownerExternalId, .text),
   ("owner_name", .ownerName, .text),
   ("l1_handler_name", .l1HandlerName, .text),
   ("l2_handler_name", .l2HandlerName, .text),
   ("last_update", .lastUpdate, .instant)]

def rfcFieldOrder : List RfcSourceField := rfcFieldSpecs.map (·.2.1)

def statusClasses : List RfcStatusClass :=
  [.preImplement, .implementEligible, .terminalClosed, .terminalCancelled]

def statusAuthorities : List RfcStatusAuthority := [.enhancedRfc, .wfmProvisional]

structure RfcAcceptedFieldDelta where
  fieldKey : String
  valueKind : RfcSourceKind
  value : RfcSourceValue
  evidenceId : String
  statusClass : Option RfcStatusClass := none
  statusAuthority : Option RfcStatusAuthority := none

/-- What one call brings along. Without a capture participant no status may
become terminal. The first identifier is the terminal epoch's, the second the
proposal's. -/
structure RfcSourceCall where
  rfcId : String
  acceptedCommandId : String
  deltas : List RfcAcceptedFieldDelta
  reviewFingerprint : Option String
  newUuid4 : Nat → Uuid4
  validateAcceptedDelta : RfcAcceptedFieldDelta → Except Raised String
  terminalCapture : Option WfmCapture

structure RfcLifecycleProjection where
  acceptedSourceState : Option RfcSourceProjection
  localArchiveState : ArchiveState
  warnings : List String

structure RfcSourceProjectionApplyResult where
  lifecycleProjection : RfcLifecycleProjection
  changedFieldKeys : List RfcSourceField
  sourceEvidenceIds : List String
  pendingCascadeProposalId : Option String
  noChange : Bool

def rfcSourceInvalid (message : String) : Raised :=
  ticketError "RFC_SOURCE_PROJECTION_INVALID" message

/-! ## Deltas -/

/-- The class and authority of an accepted status. -/
structure AcceptedStatus where
  statusClass : RfcStatusClass
  statusAuthority : RfcStatusAuthority

/-- What an accepted delta assigns. -/
structure AcceptedRfcChange where
  field : RfcSourceField
  value : RfcSourceValue
  evidenceId : String
  status : Option AcceptedStatus

/-- The status checks at the end of `_validate_delta_shape`. -/
def validateDeltaStatus (delta : RfcAcceptedFieldDelta) : Except Raised (Option AcceptedStatus) :=
  if delta.fieldKey = "status" then
    match delta.statusClass, delta.statusAuthority with
    | some statusClass, some statusAuthority => do
      ensure (statusClass ∈ statusClasses ∧ statusAuthority ∈ statusAuthorities)
        (rfcSourceInvalid "RFC Status requires accepted class and source authority")
      return some ⟨statusClass, statusAuthority⟩
    | _, _ =>
      .error (rfcSourceInvalid "RFC Status requires accepted class and source authority")
  else do
    ensure (delta.statusClass = none ∧ delta.statusAuthority = none)
      (rfcSourceInvalid "status classification/authority may appear only on RFC Status")
    return none

/-- The value checks of `_validate_delta_shape`. -/
def validateRfcDeltaValue (expectedKind : RfcSourceKind) (value : RfcSourceValue) :
    Except Raised Unit :=
  match expectedKind, value with
  | .instant, .integer instant =>
    ensure (0 ≤ instant)
      (rfcSourceInvalid "RFC instant source value must be a non-negative integer")
  | .instant, .text _ =>
    .error (rfcSourceInvalid "RFC instant source value must be a non-negative integer")
  | _, .text text =>
    ensure (text ≠ "")
      (rfcSourceInvalid "RFC text/controlled source value must be non-empty text")
  | _, .integer _ =>
    .error (rfcSourceInvalid "RFC text/controlled source value must be non-empty text")

def validateRfcDeltaShape (delta : RfcAcceptedFieldDelta) : Except Raised AcceptedRfcChange :=
  match rfcFieldSpecs.lookup delta.fieldKey with
  | none =>
    .error (rfcSourceInvalid "RFC source field is outside the closed accepted field registry")
  | some (field, expectedKind) => do
    ensure (delta.valueKind = expectedKind)
      (rfcSourceInvalid "RFC source field value kind does not match the closed field registry")
    ensure (delta.evidenceId ≠ "") (rfcSourceInvalid "RFC source evidence identity is required")
    validateRfcDeltaValue expectedKind delta.value
    let status ← validateDeltaStatus delta
    return ⟨field, delta.value, delta.evidenceId, status⟩

/-- A change that leaves the projection as it is: a provisional status under an
enhanced one, or a value it already holds. -/
def Unchanging (current : RfcSourceProjection) (change : AcceptedRfcChange) : Prop :=
  match change.status with
  | some status =>
    (current.statusAuthority = some .enhancedRfc ∧ status.statusAuthority = .wfmProvisional) ∨
      (current.value .status = some change.value ∧ current.statusClass = status.statusClass ∧
        current.statusAuthority = some status.statusAuthority)
  | none => current.value change.field = some change.value

instance (current : RfcSourceProjection) (change : AcceptedRfcChange) :
    Decidable (Unchanging current change) := by
  unfold Unchanging
  split <;> infer_instance

/-- The loop over the deltas, with the fields seen so far. -/
def acceptedChanges (call : RfcSourceCall) (current : Option RfcSourceProjection) :
    List String → List RfcAcceptedFieldDelta → Except Raised (List AcceptedRfcChange)
  | _, [] => .ok []
  | seen, delta :: rest => do
    let change ← validateRfcDeltaShape delta
    ensure (delta.fieldKey ∉ seen)
      (rfcSourceInvalid "RFC source delta set contains the same field more than once")
    let providerState ← call.validateAcceptedDelta delta
    ensure (providerState = "VALID")
      (rfcSourceInvalid "RFC source delta no longer resolves to exact accepted LLD-04 evidence")
    let changes ← acceptedChanges call current (delta.fieldKey :: seen) rest
    if ∃ held ∈ current, Unchanging held change then return changes
    else return change :: changes

/-! ## Writing the projection -/

/-- The columns of a change assigned to a row. -/
def RfcSourceProjection.assign (row : RfcSourceProjection) (change : AcceptedRfcChange) :
    RfcSourceProjection :=
  { row with
    value := Function.update row.value change.field (some change.value)
    evidenceId := Function.update row.evidenceId change.field (some change.evidenceId)
    statusClass := (change.status.map (·.statusClass)).getD row.statusClass
    statusAuthority := (change.status.map (·.statusAuthority)).orElse fun _ => row.statusAuthority }

/-- The row of an RFC without any accepted field. -/
def RfcSourceProjection.blank (rfcId : String) : RfcSourceProjection :=
  ⟨rfcId, fun _ => none, fun _ => none, .unknown, none, none, 0⟩

/-- All assignments of an accepted set; the epoch only with an accepted status. -/
def RfcSourceProjection.accept (row : RfcSourceProjection) (changes : List AcceptedRfcChange)
    (terminalEpochId : Option (Option String)) : RfcSourceProjection :=
  { changes.foldl RfcSourceProjection.assign row with
    terminalEpochId := terminalEpochId.getD row.terminalEpochId
    revision := row.revision + 1 }

/-- The declared checks of `rfc_current_source_projection`. -/
def RfcSourceProjection.Declared (row : RfcSourceProjection) : Prop :=
  (∀ field ∈ rfcFieldOrder, (row.value field).isSome = (row.evidenceId field).isSome) ∧
    (row.statusClass ∈ RfcStatusClass.unknown :: statusClasses) ∧
    (∀ authority ∈ row.statusAuthority, authority ∈ statusAuthorities) ∧
    ((row.statusClass = .unknown ∧ row.value .status = none ∧ row.statusAuthority = none ∧
        row.terminalEpochId = none) ∨
      (row.statusClass ≠ .unknown ∧ row.value .status ≠ none ∧ row.statusAuthority ≠ none)) ∧
    row.terminalEpochId.isSome = row.statusClass.isTerminal

instance (row : RfcSourceProjection) : Decidable row.Declared :=
  inferInstanceAs (Decidable (_ ∧ _ ∧ _ ∧ (_ ∨ _) ∧ _))

/-- `INSERT INTO rfc_current_source_projection` or the guarded `UPDATE`. -/
def writeRfcProjection (rfcId : String) (current : Option RfcSourceProjection)
    (changes : List AcceptedRfcChange) (terminalEpochId : Option (Option String)) :
    CascadeBody PUnit := do
  let rows ← get
  match current with
  | none => do
    let row := (RfcSourceProjection.blank rfcId).accept changes terminalEpochId
    require (rfcId ∉ rows.projections.map (·.rfcId) ∧ row.Declared) .other
    set { rows with projections := rows.projections ++ [row] }
  | some current => do
    let selected (row : RfcSourceProjection) : Bool :=
      row.rfcId = rfcId ∧ row.revision = current.revision
    require (∀ row ∈ rows.projections, selected row →
      (row.accept changes terminalEpochId).Declared) .other
    require (rows.projections.countP selected = 1)
      (rfcSourceInvalid "RFC source projection changed before accepted deltas were applied")
    set { rows with
      projections := rows.projections.map fun row =>
        if selected row then row.accept changes terminalEpochId else row }

/-! ## `apply_accepted_field_deltas` -/

def supersedePendingForReversal (rfcId terminalEpochId : String) : CascadeBody PUnit := do
  let rows ← get
  match rows.pendingForEpoch rfcId terminalEpochId with
  | none => return ⟨⟩
  | some pending =>
    closePending .superseded pending.proposalId pending.revision
      (cascadeStale "pending terminal cascade changed during reviewed reversal")

/-- The terminal epoch an accepted status leads to. -/
def terminalTransition (call : RfcSourceCall) (priorStatusClass : RfcStatusClass)
    (priorTerminalEpoch : Option String) (resultingStatusClass : RfcStatusClass) :
    CascadeBody (Option String) :=
  let missing := persistenceFailure "terminal RFC projection is missing terminal epoch identity"
  match priorStatusClass.isTerminal, resultingStatusClass.isTerminal with
  | false, false => return none
  | false, true => do
    require (call.terminalCapture.isSome)
      (participantFailed "terminal RFC source acceptance requires exact cascade capture participant")
    return some (call.newUuid4 0).value
  | true, true =>
    match priorTerminalEpoch with
    | none => throw missing
    | some epoch => return some epoch
  | true, false => do
    require (call.reviewFingerprint ≠ none)
      (ticketError "RFC_STATUS_REVERSAL_REVIEW_REQUIRED"
        "terminal RFC source presentation requires exact reviewed reversal context")
    match priorTerminalEpoch with
    | none => throw missing
    | some epoch => do
      supersedePendingForReversal call.rfcId epoch
      return none

def verifyCapturedProposal (rows : CascadeRows) (proposalId rfcId terminalEpochId : String)
    (terminalStatusClass : RfcStatusClass)
    (terminalStatusEvidenceId acceptedCommandId : String) : Except Raised Unit := do
  ensure (∃ proposal ∈ rows.proposal? proposalId, proposal.triggerRfcId = rfcId ∧
      proposal.terminalEpochId = terminalEpochId ∧
      proposal.terminalStatusClass = terminalStatusClass ∧
      proposal.terminalStatusEvidenceId = terminalStatusEvidenceId ∧
      proposal.proposalState = .pending ∧ proposal.createdCommandId = acceptedCommandId)
    (participantFailed "terminal capture participant did not persist the exact pending proposal")
  ensure (∃ row ∈ rows.rfcMembers, row.proposalId = proposalId ∧ row.member.rfcId = rfcId)
    (participantFailed
      "terminal capture participant omitted the triggering RFC from immutable membership")

/-- Captures the pending proposal of a new terminal epoch, and checks it. -/
def captureTerminal (python : PythonLibrary) (call : RfcSourceCall) (capture : WfmCapture)
    (terminalEpochId : String) (statusClass : RfcStatusClass) (evidenceId : String) :
    CascadeBody String := do
  let proposalId ← capturePending python capture (call.newUuid4 1) call.rfcId terminalEpochId
    statusClass evidenceId call.acceptedCommandId
  let rows ← get
  attempt (verifyCapturedProposal rows proposalId call.rfcId terminalEpochId statusClass evidenceId
    call.acceptedCommandId)
  return proposalId

/-- `RfcLifecycleQueryService.get_from_connection`. -/
def lifecycleFromConnection (rows : CascadeRows) (rfcId : String) :
    Except Raised RfcLifecycleProjection :=
  match rows.rfc? rfcId with
  | none => .error (ticketError "NOT_FOUND" "RFC does not exist")
  | some rfc =>
    let projection (warnings : List String) : RfcLifecycleProjection :=
      ⟨rows.projection? rfcId, rfc.localArchiveState, warnings⟩
    match rfc.customerOrgId with
    | none => .ok (projection ["RFC_CUSTOMER_UNRESOLVED"])
    | some customerOrgId =>
      match rows.customerLifecycle customerOrgId with
      | none => .error (persistenceFailure "RFC Customer reference does not resolve")
      | some "active" => .ok (projection [])
      | some _ => .ok (projection ["RFC_CUSTOMER_REFERENCE_ARCHIVED"])

/-- The write of a set of changes that is not empty, with what its status leads
to; returns the proposal it captured. -/
def applyChanges (python : PythonLibrary) (call : RfcSourceCall)
    (current : Option RfcSourceProjection) (changes : List AcceptedRfcChange) :
    CascadeBody (Option String) := do
  let priorStatusClass := (current.map (·.statusClass)).getD .unknown
  let priorTerminalEpoch := current.bind (·.terminalEpochId)
  match changes.findSome? fun change => change.status.map fun status => (change, status) with
  | none => do
    writeRfcProjection call.rfcId current changes none
    return none
  | some (change, status) => do
    let epoch ← terminalTransition call priorStatusClass priorTerminalEpoch status.statusClass
    writeRfcProjection call.rfcId current changes (some epoch)
    match priorStatusClass.isTerminal, epoch, call.terminalCapture with
    | false, some opened, some capture => do
      let proposalId ← captureTerminal python call capture opened status.statusClass
        change.evidenceId
      return some proposalId
    | _, _, _ => return none

/-- `RfcSourceProjectionService.apply_accepted_field_deltas`. -/
def applyRfcFieldDeltas (python : PythonLibrary) (call : RfcSourceCall) :
    CascadeBody RfcSourceProjectionApplyResult := do
  let rows ← get
  require (call.acceptedCommandId ∈ rows.commandReceipts) (persistenceFailure
    "accepted RFC source projection requires the outer command receipt")
  require (call.rfcId ∈ rows.rfcs.map (·.rfcId)) (ticketError "NOT_FOUND" "RFC does not exist")
  require (∀ fingerprint ∈ call.reviewFingerprint, isSha256 fingerprint)
    (rfcSourceInvalid "RFC source review fingerprint must be lowercase SHA-256 hex")
  require (call.deltas.length ≤ rfcFieldSpecs.length)
    (rfcSourceInvalid "RFC source delta set exceeds the closed field registry")
  let current := rows.projection? call.rfcId
  let changes ← attempt (acceptedChanges call current [] call.deltas)
  if changes = [] then do
    let lifecycle ← attempt (lifecycleFromConnection rows call.rfcId)
    return ⟨lifecycle, [], [], none, true⟩
  else do
    let pendingCascadeProposalId ← applyChanges python call current changes
    let written ← get
    let lifecycle ← attempt (lifecycleFromConnection written call.rfcId)
    let ordered := rfcFieldOrder.filterMap fun field => changes.find? (·.field = field)
    return ⟨lifecycle, ordered.map (·.field), ordered.map (·.evidenceId),
      pendingCascadeProposalId, false⟩

end Soma.Tickets
