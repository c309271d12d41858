import Soma.Foundation.Audit

/-!
`application/command_boundary.py` and `command_receipts.py`: one authoritative
command is one unit of work that looks its receipt up, replays the committed
result when there is one, and otherwise runs the prepared mutation and commits
it together with its receipt, its audit events and its exact response.

A handler is what the owning domain supplies: callbacks over the domain's own
tables that may raise. They never write the receipt and audit tables, which
belong to the boundary.
-/

namespace Soma.Foundation

open Transaction

structure CommandReceipt where
  commandId : String
  commandType : String
  requestHash : String
  targetType : String
  targetId : Option String
  committedAtUtc : Int
  resultType : Option String
  resultId : Option String

/-- `CommittedCommandResult`, a row of `command_receipt_results`. -/
structure CommittedCommandResult where
  commandId : String
  responseSchema : String
  responseVersion : Int
  responseJson : String
  responseSha256 : String

/-- The tables the boundary owns. -/
structure CommandRows where
  receipts : List CommandReceipt
  results : List CommittedCommandResult
  auditEvents : List AuditEventRow
  auditResults : List AuditResultRow

/-- Their declared constraints. -/
@[mk_iff]
structure CommandRows.Constraints (rows : CommandRows) : Prop where
  receiptIds : (rows.receipts.map (·.commandId)).Nodup
  receiptChecks : ∀ receipt ∈ rows.receipts,
    receipt.requestHash.length = 64 ∧ 0 ≤ receipt.committedAtUtc
  resultIds : (rows.results.map (·.commandId)).Nodup
  resultChecks : ∀ result ∈ rows.results,
    0 < result.responseVersion ∧ result.responseSha256.length = 64 ∧
    result.commandId ∈ rows.receipts.map (·.commandId)
  eventIds : (rows.auditEvents.map (·.event.auditEventId)).Nodup
  eventChecks : ∀ row ∈ rows.auditEvents,
    0 < row.event.actionVersion ∧ 0 ≤ row.recordedAtUtc ∧ 0 < row.event.payloadVersion ∧
    row.event.commandId ∈ rows.receipts.map (·.commandId)
  refOrdinals : (rows.auditResults.map fun row => (row.auditEventId, row.ordinal)).Nodup
  refTargets : (rows.auditResults.map fun row => (row.auditEventId, row.ref)).Nodup
  refEvents : ∀ row ∈ rows.auditResults,
    row.auditEventId ∈ rows.auditEvents.map (·.event.auditEventId)

instance (rows : CommandRows) : Decidable rows.Constraints :=
  decidable_of_iff' _ (CommandRows.constraints_iff rows)

/-- All tables a command may write: the boundary's, which meet their
constraints, and the domain's own. -/
structure CommandTables (Domain : Type) where
  rows : CommandRows
  valid : rows.Constraints
  domain : Domain

/-- A callback over the domain's tables. -/
abbrev DomainAction (Domain Result : Type) := Body Domain Raised Result

inductive AuditEmission where
  | event (event : AuditEventInput)
  | events (events : List AuditEventInput)

structure CommandEnvelope where
  commandId : String
  commandType : String
  targetType : String
  targetId : Option String
  semanticPayload : List (String × Json)
  baseRevisions : List (String × Int) := []
  authorizingFingerprints : List (String × String) := []
  correlationId : Option String := none

/-- `PreparedMutation`. A missing `response` is `_DEFAULT_RESPONSE`. -/
structure PreparedMutation (Domain : Type) where
  noChange : Bool
  resultType : Option String
  resultId : Option String
  apply : Option (DomainAction Domain (Option AuditEmission)) := none
  responseSchema : String := ""
  responseVersion : Int := 1
  response : Option Json := none
  responseFactory : Option (DomainAction Domain Json) := none
  afterAudit : Option (DomainAction Domain Unit) := none

structure CommandExecutionResult where
  resultType : Option String
  resultId : Option String
  replayed : Bool
  noChange : Bool
  responseSchema : String
  responseVersion : Int
  response : Json

/-- One `execute` call: what it is asked, how the owner prepares it, the clock
reading and what goes wrong on its connection. -/
structure Call (Domain : Type) where
  envelope : CommandEnvelope
  prepare : DomainAction Domain (PreparedMutation Domain)
  clock : Int
  faults : Faults := .quiet

def CommandEnvelope.validate (envelope : CommandEnvelope) : Except Raised Unit := do
  requireUuid4 envelope.commandId
  ensure (envelope.commandType ≠ "" ∧ envelope.targetType ≠ "")
    (validationError "command_type and target_type are required")
  ensure (∀ revision ∈ envelope.baseRevisions, revision.1 ≠ "" ∧ 0 < revision.2)
    (validationError "base revisions must be positive integers")
  ensure (∀ fingerprint ∈ envelope.authorizingFingerprints,
      fingerprint.1 ≠ "" ∧ isSha256 fingerprint.2 = true)
    (validationError "authorizing fingerprints must be SHA-256 hex strings")

def CommandEnvelope.requestHash (python : PythonLibrary) (envelope : CommandEnvelope) :
    Except Raised String := do
  envelope.validate
  sha256CanonicalJson python (.obj
    [("command_type", .str envelope.commandType),
     ("target", .obj [("type", .str envelope.targetType),
       ("id", (envelope.targetId.map Json.str).getD .null)]),
     ("semantic_payload", .obj envelope.semanticPayload),
     ("base_revisions", .obj (envelope.baseRevisions.map fun entry => (entry.1, .int entry.2))),
     ("authorizing_fingerprints",
       .obj (envelope.authorizingFingerprints.map fun entry => (entry.1, .str entry.2)))])

/-- What `PreparedMutation.validate` demands of the outcome itself. -/
def PreparedMutation.validateOutcome {Domain : Type} (prepared : PreparedMutation Domain) :
    Except Raised Unit :=
  if prepared.noChange then do
    ensure (prepared.apply.isNone ∧ prepared.afterAudit.isNone)
      (validationError "NO_CHANGE command cannot contain a mutation callback")
    ensure ((prepared.resultType = none ∨ prepared.resultType = some "NO_CHANGE") ∧
        prepared.resultId = none)
      (validationError "NO_CHANGE result identity is invalid")
  else
    ensure prepared.apply.isSome (validationError "material command requires a mutation callback")

def PreparedMutation.validate {Domain : Type} (prepared : PreparedMutation Domain) :
    Except Raised Unit := do
  prepared.validateOutcome
  ensure (prepared.responseSchema ≠ "")
    (validationError "command response schema must be declared explicitly")
  ensure (0 < prepared.responseVersion)
    (validationError "command response version must be a positive integer")
  ensure (¬ (prepared.responseFactory.isSome ∧ prepared.response.isSome))
    (validationError "command response must use either a value or a response factory, not both")
  ensure (prepared.responseFactory.isSome ∨ prepared.response.isSome)
    (validationError
      "command must declare an exact response value or same-UoW response factory")

def defaultResponseBounds : JsonBounds := ⟨524288, 8, 512⟩

def responseBoundAllocations : List ((String × Int) × JsonBounds) :=
  [(("RfcBranchV1", 1), ⟨33554432, 8, 8192⟩),
   (("InventoryMutationResultV1", 1), ⟨524288, 8, 8192⟩)]

def responseBounds (responseSchema : String) (responseVersion : Int) : Except Raised JsonBounds :=
  match responseBoundAllocations.lookup (responseSchema, responseVersion) with
  | some allocated => .ok allocated
  | none =>
    if responseSchema ∈ responseBoundAllocations.map (·.1.1) then
      .error (validationError "unsupported command response schema/version for reviewed allocation")
    else .ok defaultResponseBounds

/-- `_encode_response`: the stored text, its digest and the normalized value. -/
def encodeResponse (python : PythonLibrary) (response : Json) (responseSchema : String)
    (responseVersion : Int) : Except Raised (String × String × Json) := do
  let bounds ← responseBounds responseSchema responseVersion
  let text ← canonicalJsonBounded bounds response
  let normalized ← loadsCanonicalJson python.jsonLoads bounds text
  return (text, python.sha256Hex text, normalized)

/-- `except ValidationError: raise IntegrityFailure(message)`. -/
def validationAsIntegrity {Result : Type} (message : String) :
    Except Raised Result → Except Raised Result
  | .error (.soma error) =>
    if error.raisedAs = .validationError then .error (integrityFailure message)
    else .error (.soma error)
  | outcome => outcome

def decodeStoredResponse (python : PythonLibrary) (result : CommittedCommandResult) :
    Except Raised Json := do
  ensure (result.responseSchema ≠ "" ∧ 0 < result.responseVersion ∧
      isSha256 result.responseSha256 = true)
    (integrityFailure "committed command result metadata failed integrity validation")
  let bounds ← validationAsIntegrity "committed command result response contract is unsupported"
    (responseBounds result.responseSchema result.responseVersion)
  let value ← validationAsIntegrity "committed command result JSON failed integrity validation"
    (loadsCanonicalJson python.jsonLoads bounds result.responseJson)
  ensure (python.sha256Hex result.responseJson = result.responseSha256)
    (integrityFailure "committed command result hash failed integrity validation")
  return value

def normalizeAuditEmission (emission : Option AuditEmission) (commandId : String) :
    Except Raised (List AuditEventInput) := do
  let events ← match emission with
    | none => .error (persistenceFailure
        "material authoritative command did not produce required owner audit")
    | some (.event event) => .ok [event]
    | some (.events events) => .ok events
  ensure (events ≠ [])
    (persistenceFailure "material authoritative command produced an invalid audit emission")
  ensure (∀ event ∈ events, event.commandId = commandId)
    (persistenceFailure "audit event command_id does not match authoritative command")
  ensure (events.map (·.auditEventId)).Nodup
    (persistenceFailure "authoritative command emitted duplicate audit event identities")
  return events

def assertReplayMatch (receipt : CommandReceipt) (envelope : CommandEnvelope)
    (requestHash : String) : Except Raised Unit :=
  ensure (receipt.commandType = envelope.commandType ∧ receipt.requestHash = requestHash ∧
      receipt.targetType = envelope.targetType ∧ receipt.targetId = envelope.targetId)
    idempotencyConflict

section Tables

variable {Domain Result : Type}

/-- Reads the rows the boundary owns. -/
def select (view : CommandRows → Result) : Uow (CommandTables Domain) Result :=
  statement do return view (← get).rows

/-- One statement that rewrites rows the boundary owns. -/
def writeRows (change : CommandRows → CommandRows) : Uow (CommandTables Domain) PUnit :=
  statement do
    let tables ← get
    setChecked (change tables.rows).Constraints
      (fun valid => ⟨change tables.rows, valid, tables.domain⟩) .other

/-- Runs a callback on the domain's tables. -/
def participate (action : DomainAction Domain Result) : Uow (CommandTables Domain) Result :=
  fun session => (action.run session.tables.domain).map fun (value, domain) =>
    (value, { session with tables := { session.tables with domain } })

/-- `CommandReceiptStore.get`. -/
def getReceipt (commandId : String) : Uow (CommandTables Domain) (Option CommandReceipt) :=
  select fun rows => rows.receipts.find? (·.commandId = commandId)

/-- `CommandReceiptStore.get_exact_result`. -/
def getExactResult (commandId : String) :
    Uow (CommandTables Domain) (Option CommittedCommandResult) :=
  select fun rows => rows.results.find? (·.commandId = commandId)

/-- `CommandReceiptStore.insert`. -/
def insertReceipt (receipt : CommandReceipt) : Uow (CommandTables Domain) PUnit :=
  writeRows fun rows => { rows with receipts := rows.receipts ++ [receipt] }

/-- `CommandReceiptStore.insert_exact_result`. -/
def insertExactResult (result : CommittedCommandResult) : Uow (CommandTables Domain) PUnit :=
  writeRows fun rows => { rows with results := rows.results ++ [result] }

/-- The result references of one event, numbered from `ordinal`. -/
def writeAuditRefs (auditEventId : String) (ordinal : Nat) :
    List AuditResultRef → Uow (CommandTables Domain) PUnit
  | [] => return ⟨⟩
  | ref :: refs => do
    writeRows fun rows => { rows with
      auditResults := rows.auditResults ++ [⟨auditEventId, ordinal, ref⟩] }
    writeAuditRefs auditEventId (ordinal + 1) refs

/-- `AuditWriter.write`. A repeated event id or reference is told apart from
every other failure to store the event. -/
def writeAudit (registry : AuditRegistry) (clock : Int) (event : AuditEventInput) :
    Uow (CommandTables Domain) PUnit := do
  let payloadJson ← attempt (admitAuditEvent registry event)
  let session ← get
  let duplicate :=
    event.auditEventId ∈ session.tables.rows.auditEvents.map (·.event.auditEventId) ∨
    ¬ event.resultingEventRefs.Nodup
  reraise (if duplicate then auditError "AUDIT_DUPLICATE_ID" "audit identity already exists"
      else auditError "AUDIT_PERSISTENCE_FAILURE" "audit persistence failed") do
    writeRows fun rows => { rows with auditEvents := rows.auditEvents ++ [⟨event, clock, payloadJson⟩] }
    writeAuditRefs event.auditEventId 0 (sortedRefs event.resultingEventRefs)

/-- Writes a command's events in the order it emitted them. -/
def writeAudits (registry : AuditRegistry) (clock : Int) :
    List AuditEventInput → Uow (CommandTables Domain) PUnit
  | [] => return ⟨⟩
  | event :: events => do
    writeAudit registry clock event
    writeAudits registry clock events

end Tables

section Boundary

variable {Domain : Type} (python : PythonLibrary) (registry : AuditRegistry)

/-- Answers a command that has a receipt. -/
def replayReceipt (envelope : CommandEnvelope) (requestHash : String)
    (existing : CommandReceipt) : Uow (CommandTables Domain) CommandExecutionResult := do
  attempt (assertReplayMatch existing envelope requestHash)
  match ← getExactResult envelope.commandId with
  | none => throw idempotencyResultUnavailable
  | some exact =>
    let response ← attempt (decodeStoredResponse python exact)
    return {
      resultType := existing.resultType
      resultId := existing.resultId
      replayed := true
      noChange := existing.resultType = some "NO_CHANGE"
      responseSchema := exact.responseSchema
      responseVersion := exact.responseVersion
      response }

/-- The result type `execute` stores for a prepared mutation. -/
def PreparedMutation.storedResultType (prepared : PreparedMutation Domain) : Option String :=
  if prepared.noChange then some "NO_CHANGE" else prepared.resultType

/-- Applies a material mutation with its audit events; nothing for a no-change one. -/
def applyMutation (call : Call Domain) (prepared : PreparedMutation Domain) :
    Uow (CommandTables Domain) PUnit :=
  match prepared.noChange, prepared.apply with
  | true, _ => return ⟨⟩
  | false, none => throw .other
  | false, some apply => do
    let emission ← participate apply
    let events ← attempt (normalizeAuditEmission emission call.envelope.commandId)
    writeAudits registry call.clock events
    match prepared.afterAudit with
    | none => return ⟨⟩
    | some afterAudit => participate afterAudit

/-- The response a prepared mutation declares. -/
def semanticResponse (prepared : PreparedMutation Domain) : Uow (CommandTables Domain) Json :=
  match prepared.responseFactory, prepared.response with
  | some factory, _ => participate factory
  | none, some response => return response
  | none, none => throw
      (persistenceFailure "validated command response snapshot unexpectedly disappeared")

/-- Runs a command that has no receipt yet. -/
def runFresh (call : Call Domain) (requestHash : String) :
    Uow (CommandTables Domain) CommandExecutionResult := do
  let prepared ← participate call.prepare
  attempt prepared.validate
  insertReceipt {
    commandId := call.envelope.commandId
    commandType := call.envelope.commandType
    requestHash
    targetType := call.envelope.targetType
    targetId := call.envelope.targetId
    committedAtUtc := call.clock
    resultType := prepared.storedResultType
    resultId := prepared.resultId }
  applyMutation registry call prepared
  let semantic ← semanticResponse prepared
  let (responseJson, responseSha256, normalized) ← attempt
    (encodeResponse python semantic prepared.responseSchema prepared.responseVersion)
  insertExactResult {
    commandId := call.envelope.commandId
    responseSchema := prepared.responseSchema
    responseVersion := prepared.responseVersion
    responseJson, responseSha256 }
  return {
    resultType := prepared.storedResultType
    resultId := prepared.resultId
    replayed := false
    noChange := prepared.noChange
    responseSchema := prepared.responseSchema
    responseVersion := prepared.responseVersion
    response := normalized }

/-- The transaction body of `CommandBoundary.execute`. -/
def executeInUow (call : Call Domain) (requestHash : String) :
    Uow (CommandTables Domain) CommandExecutionResult := do
  match ← getReceipt call.envelope.commandId with
  | some existing => replayReceipt python call.envelope requestHash existing
  | none => runFresh python registry call requestHash

/-- `CommandBoundary.execute`: the outcome and the tables that are durable after it. -/
def execute (tables : CommandTables Domain) (call : Call Domain) :
    Except Raised CommandExecutionResult × CommandTables Domain :=
  match call.envelope.requestHash python with
  | .error raised => (.error raised, tables)
  | .ok requestHash => runUnitOfWork call.faults (executeInUow python registry call requestHash) tables

/-- The tables after a sequence of calls. -/
def afterCalls (tables : CommandTables Domain) (calls : List (Call Domain)) :
    CommandTables Domain :=
  calls.foldl (fun tables call => (execute python registry tables call).2) tables

/-- The boundary's tables before its first command. -/
def CommandTables.initial (domain : Domain) : CommandTables Domain where
  rows := ⟨[], [], [], []⟩
  valid := by constructor <;> simp
  domain

end Boundary

end Soma.Foundation
