import Soma.Foundation.StrictJson

/-!
`tickets/service_request_sla_input.py`: what the SLA calculation reads of a
Service Request. The accepted source values are append-only observations, and
the current source projection points at one observation per field.

The columns of `sr_source_field_observations` that say which kind of value a row
holds are one sum type, as the checks of `0003_tickets_core.sql` tie them
together.
-/

namespace Soma.Tickets

open Foundation

/-- `field_key`. -/
inductive SourceField where
  | problemSummary
  | reportDate
  | customerContactLabel
  | customerSeverity
  | currentHandlerLabel
  | status
  | customerOrgLabel
  | customerAccountCode
  | suspendPlannedEnd
  | suspensionDuration
  | lastUpdate
  deriving DecidableEq

/-- `value_state`, `value_kind`, `text_value` and `integer_value`. -/
inductive SourceValue where
  | explicitClear
  | text (value : String)
  | controlled (value : String)
  | instant (value : Int)
  | durationSeconds (value : Int)
  deriving DecidableEq

namespace SourceValue

def controlled? : SourceValue → Option String
  | .controlled value => some value
  | _ => none

def instant? : SourceValue → Option Int
  | .instant value => some value
  | _ => none

def durationSeconds? : SourceValue → Option Int
  | .durationSeconds value => some value
  | _ => none

end SourceValue

inductive PrecedenceBasis where
  | sourceChronology
  | reviewedCorrection
  deriving DecidableEq

structure SrSourceFieldObservation where
  srSourceFieldObservationId : String
  serviceRequestId : String
  fieldKey : SourceField
  value : SourceValue
  sourceChronologyUtc : Option Nat
  precedenceBasis : PrecedenceBasis
  sourceObservationFieldId : String

/-- A row of `sr_current_source_projection`, with the pointers the SLA reads. -/
structure SrCurrentSourceProjection where
  serviceRequestId : String
  reportDateObservationId : Option String
  customerSeverityObservationId : Option String
  statusObservationId : Option String
  suspendPlannedEndObservationId : Option String
  suspensionDurationObservationId : Option String
  revision : Int

/-- The columns of `service_requests` the SLA reads. -/
structure SlaServiceRequest where
  serviceRequestId : String
  officialSrNo : Option String

/-- The columns of an active row of `sr_customer_relationships`. -/
structure ActiveCustomer where
  srCustomerRelationshipId : String
  serviceRequestId : String
  customerOrgId : String

/-- The accepted ticket state one read transaction sees. -/
structure SourceRows where
  serviceRequests : List SlaServiceRequest
  activeCustomers : List ActiveCustomer
  projections : List SrCurrentSourceProjection
  observations : List SrSourceFieldObservation

/-- `SlaEvidenceValue` over the type of its value. -/
structure SlaEvidenceValue (Value : Type) where
  srSourceFieldObservationId : String
  sourceObservationFieldId : String
  value : Value
  sourceChronologyUtc : Option Nat
  precedenceBasis : PrecedenceBasis
  deriving DecidableEq

/-- `_STATUS_CLASSES`. -/
inductive StatusClass where
  | active
  | resolved
  | closed
  | cancelled
  deriving DecidableEq

def StatusClass.text : StatusClass → String
  | .active => "active"
  | .resolved => "resolved"
  | .closed => "closed"
  | .cancelled => "cancelled"

/-- `_STATUS_CLASSES.get`. -/
def statusClass? (token : String) : Option StatusClass :=
  if token = "Closed" then some .closed
  else if token = "Resolved" then some .resolved
  else if token = "Cancelled" then some .cancelled
  else if token = "Customer Agreed Suspend" then some .active
  else none

/-- The severities of a Service Request and of a policy tier. -/
inductive SeverityClass where
  | critical
  | major
  | minor
  | nonFaultInquiry
  deriving DecidableEq

def SeverityClass.text : SeverityClass → String
  | .critical => "critical"
  | .major => "major"
  | .minor => "minor"
  | .nonFaultInquiry => "non_fault_inquiry"

/-- `_SEVERITY_CLASSES.get`. -/
def severityClass? (token : String) : Option SeverityClass :=
  if token = "Critical" then some .critical
  else if token = "Major" then some .major
  else if token = "Minor" then some .minor
  else if token = "Non-fault inquiry" then some .nonFaultInquiry
  else none

structure ServiceRequestSlaInput where
  serviceRequestId : String
  officialSrNo : Option String
  customerOrgId : Option String
  customerRelationshipId : Option String
  sourceProjectionRevision : Int
  reportDateUtc : Option Nat
  reportDateEvidenceId : Option String
  severity : Option SeverityClass
  severityEvidenceId : Option String
  statusToken : Option String
  statusClass : StatusClass
  statusEvidenceId : Option String
  firstResolvedClosedEndpointUtc : Option Nat
  endpointStatusEvidenceId : Option String
  suspensionNumeratorSeconds : Nat
  suspensionDenominator : Nat
  suspensionEvidenceId : Option String
  suspendPlannedEndUtc : Option Nat
  suspendPlannedEndEvidenceId : Option String
  inputToken : String
  deriving DecidableEq

structure SlaInputPage where
  items : List ServiceRequestSlaInput
  nextCursor : Option String
  exactCount : Nat
  deriving DecidableEq

namespace SourceRows

def currentRelationship (rows : SourceRows) (serviceRequestId : String) :
    Except Raised (Option (String × String)) :=
  match rows.activeCustomers.filter (·.serviceRequestId = serviceRequestId) with
  | [] => .ok none
  | [row] => do
    requireUuid4 row.srCustomerRelationshipId
    requireUuid4 row.customerOrgId
    return some (row.srCustomerRelationshipId, row.customerOrgId)
  | _ => .error (integrityFailure "Service Request has multiple active Customer relationships")

/-- `_field`: `expectedKind` picks out the value of the expected kind, `usable`
checks it. -/
def field (rows : SourceRows) (serviceRequestId : String) (observationId : Option String)
    (expectedField : SourceField) {Stored Value : Type} (expectedKind : SourceValue → Option Stored)
    (usable : Stored → Except Raised Value) : Except Raised (Option (SlaEvidenceValue Value)) :=
  match observationId with
  | none => .ok none
  | some canonical => do
    requireUuid4 canonical
    match rows.observations.find? fun row =>
        row.srSourceFieldObservationId = canonical ∧ row.serviceRequestId = serviceRequestId with
    | none =>
      .error (integrityFailure "Service Request SLA projection points to missing accepted evidence")
    | some row =>
      ensure (row.fieldKey = expectedField ∧ row.value ≠ .explicitClear)
        (integrityFailure
          "Service Request SLA projection points to mismatched accepted evidence")
      match expectedKind row.value with
      | none => .error (integrityFailure "Service Request SLA projection value kind is invalid")
      | some stored =>
        requireUuid4 row.sourceObservationFieldId
        let value ← usable stored
        return some ⟨canonical, row.sourceObservationFieldId, value, row.sourceChronologyUtc,
          row.precedenceBasis⟩

/-- A text is usable as it stands. -/
def usableText (text : String) : Except Raised String :=
  .ok text

def usableInteger (integer : Int) : Except Raised Nat :=
  if 0 ≤ integer then .ok integer.toNat
  else .error (integrityFailure "Service Request SLA integer evidence has no usable value")

/-- A status a Service Request had, with the chronology of its source. -/
structure StatusPoint where
  sourceObservationFieldId : String
  token : String
  chronology : Nat

/-- The usable status observations with a chronology up to the current one,
by chronology and identity. -/
def statusPoints (rows : SourceRows) (serviceRequestId : String) (currentChronology : Nat) :
    List StatusPoint :=
  let selected := rows.observations.filter fun row =>
    row.serviceRequestId = serviceRequestId ∧ row.fieldKey = .status ∧
      row.sourceChronologyUtc.any (· ≤ currentChronology)
  let ordered := selected.insertionSort fun left right =>
    left.sourceChronologyUtc.getD 0 < right.sourceChronologyUtc.getD 0 ∨
      left.sourceChronologyUtc.getD 0 = right.sourceChronologyUtc.getD 0 ∧
        left.srSourceFieldObservationId ≤ right.srSourceFieldObservationId
  ordered.filterMap fun row => do
    return ⟨row.sourceObservationFieldId, ← row.value.controlled?, ← row.sourceChronologyUtc⟩

/-- One round of the boundary loop: a suspension or cancellation moves the
boundary up to its chronology. -/
def raiseBoundary (boundary : Int) (point : StatusPoint) : Int :=
  if point.token ∈ ["Customer Agreed Suspend", "Cancelled"] then max boundary point.chronology
  else boundary

def terminalEndpoint (rows : SourceRows) (serviceRequestId : String)
    (currentStatus : SlaEvidenceValue String) : Except Raised (Option (Nat × String)) :=
  if currentStatus.value ∉ ["Resolved", "Closed"] then .ok none
  else match currentStatus.sourceChronologyUtc with
    | none => .ok none
    | some currentChronology => do
      let points := rows.statusPoints serviceRequestId currentChronology
      let boundary := points.foldl raiseBoundary (-1)
      let candidates ← (points.filter fun point =>
        point.token ∈ ["Resolved", "Closed"] ∧ boundary < point.chronology).mapM fun point => do
          requireUuid4 point.sourceObservationFieldId
          return (point.chronology, point.sourceObservationFieldId)
      return (candidates.insertionSort fun left right =>
        left.1 < right.1 ∨ left.1 = right.1 ∧ left.2 ≤ right.2).head?

/-- One entry of the token's payload: `None`, or an object with these fields. -/
def evidenceJson {Value : Type} (evidence : Option (SlaEvidenceValue Value))
    (fields : SlaEvidenceValue Value → List (String × Json)) : Json :=
  match evidence with
  | none => .null
  | some found => .obj (("evidence_id", .str found.sourceObservationFieldId) :: fields found)

def optionalText : Option String → Json
  | none => .null
  | some text => .str text

def optionalInteger : Option Nat → Json
  | none => .null
  | some integer => .int integer

/-- The five values the current projection of a Service Request points at. -/
structure ProjectedValues where
  revision : Int
  reportDate : Option (SlaEvidenceValue Nat)
  severity : Option (SlaEvidenceValue String)
  status : Option (SlaEvidenceValue String)
  plannedEnd : Option (SlaEvidenceValue Nat)
  suspension : Option (SlaEvidenceValue Nat)

/-- The values behind the pointers; a Service Request without a projection has
none. -/
def projected (rows : SourceRows) (serviceRequestId : String) : Except Raised ProjectedValues :=
  match rows.projections.find? (·.serviceRequestId = serviceRequestId) with
  | none => .ok ⟨0, none, none, none, none, none⟩
  | some projection => do
    ensure (0 < projection.revision)
      (integrityFailure "Service Request source projection revision is invalid")
    let reportDate ← rows.field serviceRequestId projection.reportDateObservationId .reportDate
      SourceValue.instant? usableInteger
    let severity ← rows.field serviceRequestId projection.customerSeverityObservationId
      .customerSeverity SourceValue.controlled? usableText
    let status ← rows.field serviceRequestId projection.statusObservationId .status
      SourceValue.controlled? usableText
    let plannedEnd ← rows.field serviceRequestId projection.suspendPlannedEndObservationId
      .suspendPlannedEnd SourceValue.instant? usableInteger
    let suspension ← rows.field serviceRequestId projection.suspensionDurationObservationId
      .suspensionDuration SourceValue.durationSeconds? usableInteger
    return ⟨projection.revision, reportDate, severity, status, plannedEnd, suspension⟩

/-- The class of a token of a closed vocabulary. -/
def vocabulary {Class : Type} (class? : String → Option Class) (refusal : Raised) :
    Option (SlaEvidenceValue String) → Except Raised (Option Class)
  | none => .ok none
  | some evidence => match class? evidence.value with
    | some found => .ok (some found)
    | none => .error refusal

/-- `ServiceRequestSlaInputReader.get`. -/
def get (python : PythonLibrary) (rows : SourceRows) (serviceRequestId : String) :
    Except Raised ServiceRequestSlaInput := do
  requireUuid4 serviceRequestId
  match rows.serviceRequests.find? (·.serviceRequestId = serviceRequestId) with
  | none => .error (validationError "Service Request does not exist")
  | some sr =>
    let relationship ← rows.currentRelationship serviceRequestId
    let values ← rows.projected serviceRequestId
    let severity ← vocabulary severityClass?
      (integrityFailure
        "accepted current Service Request severity is outside its closed vocabulary")
      values.severity
    let statusClass ← vocabulary statusClass?
      (integrityFailure "accepted current Service Request status is outside its closed vocabulary")
      values.status
    let statusClass := statusClass.getD .active
    let endpoint ← match values.status with
      | some status =>
        if statusClass = .resolved ∨ statusClass = .closed then
          rows.terminalEndpoint serviceRequestId status
        else .ok none
      | none => .ok none
    let suspensionSeconds := (values.suspension.map (·.value)).getD 0
    let token ← sha256CanonicalJson python (.obj [
      ("schema", .str "SOMA_SERVICE_REQUEST_SLA_INPUT_V1"),
      ("service_request_id", .str serviceRequestId),
      ("official_sr_no", optionalText sr.officialSrNo),
      ("customer_relationship_id", optionalText (relationship.map (·.1))),
      ("customer_org_id", optionalText (relationship.map (·.2))),
      ("source_projection_revision", .int values.revision),
      ("report_date", evidenceJson values.reportDate fun evidence =>
        [("value", .int evidence.value)]),
      ("severity", evidenceJson values.severity fun _ =>
        [("value", optionalText (severity.map SeverityClass.text))]),
      ("status", evidenceJson values.status fun evidence =>
        [("token", .str evidence.value), ("class", .str statusClass.text),
          ("source_chronology_utc", optionalInteger evidence.sourceChronologyUtc)]),
      ("first_resolved_closed_endpoint", match endpoint with
        | none => .null
        | some (value, evidenceId) => .obj [("evidence_id", .str evidenceId), ("value", .int value)]),
      ("suspension", evidenceJson values.suspension fun _ =>
        [("numerator_seconds", .int suspensionSeconds), ("denominator", .int 1)]),
      ("suspend_planned_end", evidenceJson values.plannedEnd fun evidence =>
        [("value", .int evidence.value)])])
    return {
      serviceRequestId
      officialSrNo := sr.officialSrNo
      customerOrgId := relationship.map (·.2)
      customerRelationshipId := relationship.map (·.1)
      sourceProjectionRevision := values.revision
      reportDateUtc := values.reportDate.map (·.value)
      reportDateEvidenceId := values.reportDate.map (·.sourceObservationFieldId)
      severity
      severityEvidenceId := values.severity.map (·.sourceObservationFieldId)
      statusToken := values.status.map (·.value)
      statusClass
      statusEvidenceId := values.status.map (·.sourceObservationFieldId)
      firstResolvedClosedEndpointUtc := endpoint.map (·.1)
      endpointStatusEvidenceId := endpoint.map (·.2)
      suspensionNumeratorSeconds := suspensionSeconds
      suspensionDenominator := 1
      suspensionEvidenceId := values.suspension.map (·.sourceObservationFieldId)
      suspendPlannedEndUtc := values.plannedEnd.map (·.value)
      suspendPlannedEndEvidenceId := values.plannedEnd.map (·.sourceObservationFieldId)
      inputToken := token }

/-- The Service Requests the month's `SELECT` joins: one row for a projection,
its Report Date observation and an active Customer, if it has one. -/
def monthRows (rows : SourceRows) (monthStartUtc monthEndUtc : Int)
    (customerScope : Option String) : List String :=
  rows.projections.flatMap fun projection =>
    (rows.observations.filter fun row =>
      some row.srSourceFieldObservationId = projection.reportDateObservationId ∧
        row.fieldKey = .reportDate ∧
        row.value.instant?.any fun value => monthStartUtc ≤ value ∧ value < monthEndUtc).flatMap
    fun _ =>
      match rows.activeCustomers.filter (·.serviceRequestId = projection.serviceRequestId) with
      | [] => if customerScope = none then [projection.serviceRequestId] else []
      | customers => (customers.filter fun customer =>
          customerScope.all (· = customer.customerOrgId)).map fun _ => projection.serviceRequestId

/-- `ServiceRequestSlaInputReader.list_report_date_month`. -/
def listReportDateMonth (python : PythonLibrary) (rows : SourceRows)
    (monthStartUtc monthEndUtc : Int) (customerScope cursor : Option String) (limit : Nat) :
    Except Raised SlaInputPage := do
  ensure (0 ≤ monthStartUtc ∧ monthStartUtc < monthEndUtc)
    (validationError "report-date month bounds are invalid")
  ensure (1 ≤ limit ∧ limit ≤ 500) (validationError "SLA input page limit must be between 1 and 500")
  customerScope.forM requireUuid4
  cursor.forM requireUuid4
  let matching := rows.monthRows monthStartUtc monthEndUtc customerScope
  let found := ((matching.filter fun id => cursor.all (· < id)).insertionSort (· ≤ ·)).take (limit + 1)
  let selected := found.take limit
  let items ← selected.mapM fun id => rows.get python id
  return {
    items
    nextCursor := if limit < found.length then selected.getLast? else none
    exactCount := matching.length }

end SourceRows

end Soma.Tickets
