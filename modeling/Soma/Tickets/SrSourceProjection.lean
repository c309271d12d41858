import Mathlib.Data.List.Sort
import Soma.Tickets.RfcHierarchy

/-!
`tickets/sr_source_projection.py`: the accepted Advanced Search projection of a
Service Request. A set of accepted field deltas records one observation for each
field whose value it changes and points the projection at it; a delta that
repeats the current value leaves no trace.

The Service Requests and command receipts are written elsewhere. What the
evidence provider answers about a published field is read from the import tables
and comes with the call.
-/

namespace Soma.Tickets

open Foundation Transaction

/-! ## Data -/

/-- `value_state`, as a delta carries it. -/
inductive DeltaValueState where
  | usable
  | explicitClear
  | other (text : String)
  deriving DecidableEq

/-- `value_kind`, as a delta carries it. -/
inductive DeltaValueKind where
  | text
  | instant
  | controlled
  | durationSeconds
  | other (text : String)
  deriving DecidableEq

/-- `precedence_basis`, as a delta carries it. -/
inductive DeltaPrecedence where
  | sourceChronology
  | reviewedCorrection
  | other (text : String)
  deriving DecidableEq

/-- `str | int | None`. -/
inductive DeltaValue where
  | text (value : String)
  | integer (value : Int)
  | none
  deriving DecidableEq

/-- The observation columns of `sr_current_source_projection`. -/
inductive ProjectionColumn where
  | problemSummaryObservationId
  | reportDateObservationId
  | customerContactObservationId
  | customerSeverityObservationId
  | currentHandlerObservationId
  | statusObservationId
  | customerOrgObservationId
  | customerAccountCodeObservationId
  | suspendPlannedEndObservationId
  | suspensionDurationObservationId
  | lastUpdateObservationId
  deriving DecidableEq

def fieldSpecs : List (String × DeltaValueKind × ProjectionColumn) :=
  [("problem_summary", .text, .problemSummaryObservationId),
   ("report_date", .instant, .reportDateObservationId),
   ("customer_contact_label", .text, .customerContactObservationId),
   ("customer_severity", .controlled, .customerSeverityObservationId),
   ("current_handler_label", .text, .currentHandlerObservationId),
   ("status", .controlled, .statusObservationId),
   ("customer_org_label", .text, .customerOrgObservationId),
   ("customer_account_code", .text, .customerAccountCodeObservationId),
   ("suspend_planned_end", .instant, .suspendPlannedEndObservationId),
   ("suspension_duration", .durationSeconds, .suspensionDurationObservationId),
   ("last_update", .instant, .lastUpdateObservationId)]

def terminalSrStatuses : List String := ["Closed", "Resolved", "Cancelled"]

structure AcceptedSrFieldDelta where
  fieldKey : String
  valueState : DeltaValueState
  valueKind : DeltaValueKind
  value : DeltaValue
  sourceChronologyUtc : Option Int
  precedenceBasis : DeltaPrecedence
  sourceObservationFieldId : String
  deriving DecidableEq

structure ProviderValue where
  valueState : DeltaValueState
  valueKind : DeltaValueKind
  value : DeltaValue
  sourceChronologyUtc : Option Int
  precedenceBasis : DeltaPrecedence

def AcceptedSrFieldDelta.providerValue (delta : AcceptedSrFieldDelta) : ProviderValue :=
  ⟨delta.valueState, delta.valueKind, delta.value, delta.sourceChronologyUtc, delta.precedenceBasis⟩

structure AcceptedSrFieldDeltaSet where
  acceptedCommandId : String
  deltas : List AcceptedSrFieldDelta

structure SrSourceProjectionApplyResult where
  serviceRequestId : String
  projectionRevision : Option Nat
  changedFieldKeys : List String
  insertedObservationIds : List String
  noChange : Bool

/-- A row of `sr_source_field_observations`. -/
structure SrFieldObservationRow where
  observationId : String
  serviceRequestId : String
  fieldKey : String
  valueState : DeltaValueState
  valueKind : DeltaValueKind
  textValue : Option String
  integerValue : Option Int
  sourceChronologyUtc : Option Int
  precedenceBasis : DeltaPrecedence
  sourceObservationFieldId : String
  acceptedCommandId : String
  recordedAtUtc : Int

/-- A row of `sr_current_source_projection`. -/
structure SrCurrentSourceRow where
  serviceRequestId : String
  observation : ProjectionColumn → Option String
  revision : Nat

/-- The tables `apply_accepted_field_deltas` reads and writes: the official
numbers in `service_requests`, the ids in `command_receipts`, the observations
and the projections. -/
structure SrSourceRows where
  officialSrNo : String → Option (Option String)
  commandReceipts : List String
  observations : List SrFieldObservationRow
  projections : List SrCurrentSourceRow

/-- What one call brings along: the deltas, the identifiers `new_uuid4` returns
in turn, the clock and the answers of the evidence provider. -/
structure SrSourceCall where
  serviceRequestId : String
  acceptedDeltaSet : AcceptedSrFieldDeltaSet
  newUuid4 : Nat → Uuid4
  now : Int
  validatePublishedField : String → String → String → ProviderValue → Except Raised String

abbrev SrSourceBody (Result : Type) := Body SrSourceRows Raised Result

/-! ## Checks -/

def srSourceInvalid (message : String) : Raised := ticketError "SR_SOURCE_EVIDENCE_INVALID" message

/-- The value checks at the end of `_validate_delta_shape`. -/
def validateDeltaValue (delta : AcceptedSrFieldDelta) : Except Raised Unit :=
  match delta.valueState with
  | .explicitClear =>
    ensure (delta.fieldKey = "current_handler_label" ∧ delta.valueKind = .text ∧ delta.value = .none)
      (srSourceInvalid "only Current Handler supports an explicit source clear")
  | .usable =>
    match delta.valueKind, delta.value with
    | .text, .text _ | .controlled, .text _ => .ok ()
    | .text, _ | .controlled, _ =>
      .error (srSourceInvalid "text/controlled source value must be a string")
    | _, .integer _ => .ok ()
    | _, _ => .error (srSourceInvalid "instant/duration source value must be an integer")
  | .other _ =>
    .error (srSourceInvalid
      "only usable values and explicit Current Handler clear may enter accepted projection")

def validateDeltaShape (delta : AcceptedSrFieldDelta) :
    Except Raised (DeltaValueKind × ProjectionColumn) :=
  match fieldSpecs.lookup delta.fieldKey with
  | none =>
    .error (srSourceInvalid
      "source field is not active in the Beta 1.0 Service Request projection")
  | some (expectedKind, projectionColumn) => do
    ensure (delta.valueKind = expectedKind)
      (srSourceInvalid
        "source field value kind does not match the closed Service Request field registry")
    ensure (delta.precedenceBasis = .sourceChronology ∨ delta.precedenceBasis = .reviewedCorrection)
      (srSourceInvalid "source field precedence basis is invalid")
    ensure (∀ chronology ∈ delta.sourceChronologyUtc, 0 ≤ chronology)
      (srSourceInvalid "source chronology must be a non-negative integer or null")
    ensure (¬ (delta.precedenceBasis = .sourceChronology ∧ delta.sourceChronologyUtc = none))
      (srSourceInvalid
        "changed source value requires comparable chronology or reviewed correction")
    ensure (delta.sourceObservationFieldId ≠ "")
      (srSourceInvalid "source observation field identity is required")
    validateDeltaValue delta
    return (expectedKind, projectionColumn)

/-- `row[2] if row[2] is not None else row[3]`. -/
def SrFieldObservationRow.value (row : SrFieldObservationRow) : DeltaValue :=
  match row.textValue, row.integerValue with
  | some text, _ => .text text
  | none, some integer => .integer integer
  | none, none => .none

/-- `SrSourceProjectionService.current`. -/
def SrSourceRows.current (rows : SrSourceRows) (serviceRequestId : String) :
    Option SrCurrentSourceRow :=
  rows.projections.find? (·.serviceRequestId = serviceRequestId)

def currentObservation (rows : SrSourceRows) (serviceRequestId : String)
    (projectionColumn : ProjectionColumn) : Except Raised (Option SrFieldObservationRow) :=
  match (rows.current serviceRequestId).bind (·.observation projectionColumn) with
  | none => .ok none
  | some observationId =>
    match rows.observations.find? fun row =>
      row.observationId = observationId ∧ row.serviceRequestId = serviceRequestId with
    | some row => .ok (some row)
    | none =>
      .error (persistenceFailure
        "Service Request source projection points to missing observation")

def SameValue (current : SrFieldObservationRow) (delta : AcceptedSrFieldDelta) : Prop :=
  current.valueState = delta.valueState ∧ current.valueKind = delta.valueKind ∧
    current.value = delta.value

instance (current : SrFieldObservationRow) (delta : AcceptedSrFieldDelta) :
    Decidable (SameValue current delta) :=
  inferInstanceAs (Decidable (_ ∧ _))

/-- The observation holds a terminal status. -/
def TerminalStatus (row : SrFieldObservationRow) : Prop :=
  row.valueState = .usable ∧ ∃ status ∈ terminalSrStatuses, row.value = .text status

instance (row : SrFieldObservationRow) : Decidable (TerminalStatus row) :=
  inferInstanceAs (Decidable (_ ∧ ∃ _ ∈ _, _))

/-- The observation holds a duration above zero. -/
def PositiveDuration (row : SrFieldObservationRow) : Prop :=
  row.valueState = .usable ∧ match row.value with
    | .integer seconds => 0 < seconds
    | _ => False

instance (row : SrFieldObservationRow) : Decidable (PositiveDuration row) := by
  unfold PositiveDuration
  split <;> infer_instance

/-- `later > earlier`, where neither is missing. -/
def DemonstrablyNewer (earlier later : Option Int) : Prop :=
  ∃ before ∈ earlier, ∃ after ∈ later, before < after

instance (earlier later : Option Int) : Decidable (DemonstrablyNewer earlier later) :=
  inferInstanceAs (Decidable (∃ _ ∈ _, ∃ _ ∈ _, _))

/-- `_validate_precedence` against a current observation of another value. -/
def validatePrecedence (current : SrFieldObservationRow) (delta : AcceptedSrFieldDelta) :
    Except Raised Unit :=
  if delta.precedenceBasis = .reviewedCorrection then .ok () else do
    ensure (DemonstrablyNewer current.sourceChronologyUtc delta.sourceChronologyUtc)
      (srSourceInvalid
        "changed source value is not demonstrably newer than current accepted evidence")
    ensure (¬ (delta.fieldKey = "status" ∧ TerminalStatus current ∧ delta.valueState = .usable ∧
        delta.value ≠ current.value))
      (srSourceInvalid
        "terminal Service Request status correction or reversal requires reviewed correction")
    ensure (¬ (delta.fieldKey = "suspension_duration" ∧ PositiveDuration current ∧
        delta.valueState = .usable ∧ delta.value = .integer 0))
      (srSourceInvalid "suspension duration regression requires reviewed correction")

/-! ## Applying a set of deltas -/

structure PlannedChange where
  delta : AcceptedSrFieldDelta
  projectionColumn : ProjectionColumn
  observationId : String

/-- The check of one delta against its current observation: the column it
changes, unless it repeats the current value. -/
def reviewDelta (rows : SrSourceRows) (call : SrSourceCall) (seen : List String)
    (delta : AcceptedSrFieldDelta) : Except Raised (Option ProjectionColumn) := do
  let (_, projectionColumn) ← validateDeltaShape delta
  ensure (delta.fieldKey ∉ seen)
    (srSourceInvalid "accepted source delta set contains the same field more than once")
  let providerState ← call.validatePublishedField call.serviceRequestId delta.fieldKey
    delta.sourceObservationFieldId delta.providerValue
  ensure (providerState = "VALID")
    (srSourceInvalid "accepted source field does not resolve to exact published LLD-04 evidence")
  match ← currentObservation rows call.serviceRequestId projectionColumn with
  | none => return some projectionColumn
  | some current =>
    if SameValue current delta then return none
    else do
      validatePrecedence current delta
      return some projectionColumn

/-- The loop over the deltas, with the fields seen and the identifiers drawn so far. -/
def planChanges (rows : SrSourceRows) (call : SrSourceCall) :
    List String → Nat → List AcceptedSrFieldDelta → Except Raised (List PlannedChange)
  | _, _, [] => .ok []
  | seen, drawn, delta :: rest => do
    match ← reviewDelta rows call seen delta with
    | none => planChanges rows call (seen ++ [delta.fieldKey]) drawn rest
    | some projectionColumn => do
      let planned ← planChanges rows call (seen ++ [delta.fieldKey]) (drawn + 1) rest
      return ⟨delta, projectionColumn, (call.newUuid4 drawn).value⟩ :: planned

/-- The row a planned change inserts. -/
def observationRow (call : SrSourceCall) (change : PlannedChange) : SrFieldObservationRow where
  observationId := change.observationId
  serviceRequestId := call.serviceRequestId
  fieldKey := change.delta.fieldKey
  valueState := change.delta.valueState
  valueKind := change.delta.valueKind
  textValue := match change.delta.valueKind, change.delta.value with
    | .text, .text value | .controlled, .text value => some value
    | _, _ => none
  integerValue := match change.delta.valueKind, change.delta.value with
    | .instant, .integer value | .durationSeconds, .integer value => some value
    | _, _ => none
  sourceChronologyUtc := change.delta.sourceChronologyUtc
  precedenceBasis := change.delta.precedenceBasis
  sourceObservationFieldId := change.delta.sourceObservationFieldId
  acceptedCommandId := call.acceptedDeltaSet.acceptedCommandId
  recordedAtUtc := call.now

/-- `INSERT INTO sr_source_field_observations`, one row for each change. -/
def insertObservations (call : SrSourceCall) :
    List PlannedChange → List SrFieldObservationRow →
      Except Raised (List SrFieldObservationRow)
  | [], observations => .ok observations
  | change :: rest, observations => do
    -- The declared key.
    ensure (change.observationId ∉ observations.map (·.observationId)) .other
    insertObservations call rest (observations ++ [observationRow call change])

/-- `assignments`, over the columns as they were. -/
def assignObservations (planned : List PlannedChange) (columns : ProjectionColumn → Option String) :
    ProjectionColumn → Option String :=
  planned.foldl (fun columns change =>
    Function.update columns change.projectionColumn (some change.observationId)) columns

/-- The projections after `INSERT INTO sr_current_source_projection` or the
guarded `UPDATE`, and the resulting revision. -/
def writeProjection (serviceRequestId : String) (planned : List PlannedChange)
    (rows : SrSourceRows) : Except Raised (List SrCurrentSourceRow × Nat) :=
  match rows.current serviceRequestId with
  | none =>
    .ok (rows.projections ++ [⟨serviceRequestId, assignObservations planned fun _ => none, 1⟩], 1)
  | some current => do
    let selected (row : SrCurrentSourceRow) : Bool :=
      row.serviceRequestId = serviceRequestId ∧ row.revision = current.revision
    ensure (rows.projections.countP selected = 1)
      (srSourceInvalid "Service Request source projection changed before accepted deltas were applied")
    return (rows.projections.map fun row =>
      if selected row then
        { row with
          observation := assignObservations planned row.observation
          revision := row.revision + 1 }
      else row, current.revision + 1)

/-- `SrSourceProjectionService.apply_accepted_field_deltas`. -/
def applyAcceptedFieldDeltas (call : SrSourceCall) : SrSourceBody SrSourceProjectionApplyResult := do
  let rows ← get
  match rows.officialSrNo call.serviceRequestId with
  | none => throw (ticketError "NOT_FOUND" "Service Request does not exist")
  | some official => do
    require (official ≠ none)
      (srSourceInvalid "source projection requires an adopted official Service Request identity")
    require (call.acceptedDeltaSet.acceptedCommandId ∈ rows.commandReceipts)
      (persistenceFailure "accepted source projection requires the outer command receipt")
    let planned ← attempt (planChanges rows call [] 0 call.acceptedDeltaSet.deltas)
    if planned.isEmpty then
      return ⟨call.serviceRequestId, (rows.current call.serviceRequestId).map (·.revision), [], [],
        true⟩
    else do
      let observations ← attempt (insertObservations call planned rows.observations)
      let (projections, revision) ← attempt (writeProjection call.serviceRequestId planned rows)
      set { rows with observations, projections }
      return ⟨call.serviceRequestId, some revision,
        (planned.map (·.delta.fieldKey)).insertionSort (· ≤ ·), planned.map (·.observationId), false⟩

end Soma.Tickets
