import Mathlib
import Soma.ProductLineSla.Tables
import Soma.Tickets.SlaInputs

/-!
`product_line_sla/algorithms/individual_sla.py`: the SLA of one Service Request
at an instant, one result per tier of its policy and severity.

Elapsed time and durations are exact rationals, `Fraction` in the source. The
read cache is the state the calculation threads; a run without a cache has the
state `none` throughout.
-/

namespace Soma.ProductLineSla

open Foundation Tickets Transaction

/-- The accepted state one read transaction sees. -/
structure SlaReader where
  tickets : SourceRows
  sla : SlaRows

/-- The severity a tier has for a class of ticket severities: both are the same
four texts. -/
def Severity.ofClass : SeverityClass → Severity
  | .critical => .critical
  | .major => .major
  | .minor => .minor
  | .nonFaultInquiry => .nonFaultInquiry

inductive IndividualState where
  | terminalMet
  | terminalExceeded
  | activeWithin
  | activeExceeded
  deriving DecidableEq

def IndividualState.text : IndividualState → String
  | .terminalMet => "terminal_met"
  | .terminalExceeded => "terminal_exceeded"
  | .activeWithin => "active_within"
  | .activeExceeded => "active_exceeded"

structure IndividualTierResult where
  policyTierId : String
  tierOrdinal : Nat
  requiredPercentageMillionths : Nat
  maximumDurationNumeratorSeconds : Int
  maximumDurationDenominator : Nat
  individualState : IndividualState
  inclusiveBoundaryMet : Bool

inductive ClassificationState where
  | unclassified
  | incompatible
  | classified

def ClassificationState.text : ClassificationState → String
  | .unclassified => "unclassified"
  | .incompatible => "incompatible"
  | .classified => "classified"

inductive CalculationState where
  | unclassified
  | policyMissing
  | cancelledExcluded
  | missingReportDate
  | severityUnresolved
  | calculable
  deriving DecidableEq

def CalculationState.text : CalculationState → String
  | .unclassified => "unclassified"
  | .policyMissing => "policy_missing"
  | .cancelledExcluded => "cancelled_excluded"
  | .missingReportDate => "missing_report_date"
  | .severityUnresolved => "severity_unresolved"
  | .calculable => "calculable"

inductive EndpointKind where
  | missing
  | cancelled
  | firstResolvedClosed
  | current

def EndpointKind.text : EndpointKind → String
  | .missing => "missing"
  | .cancelled => "cancelled"
  | .firstResolvedClosed => "first_resolved_closed"
  | .current => "current"

structure IndividualSlaResult where
  serviceRequestId : String
  asOfUtc : Nat
  classificationState : ClassificationState
  customerOrgId : Option String
  contractId : Option String
  contractProductLineId : Option String
  classificationEventId : Option String
  policyRevisionId : Option String
  severity : Option SeverityClass
  reportDateUtc : Option Nat
  endpointKind : EndpointKind
  endpointUtc : Option Nat
  suspensionNumeratorSeconds : Nat
  suspensionDenominator : Nat
  effectiveElapsed : Option Rat
  calculationState : CalculationState
  statusClass : StatusClass
  tierResults : List IndividualTierResult
  slaInputToken : String
  inputFingerprint : String
  sourceReportDateEvidenceId : Option String
  sourceStatusEvidenceId : Option String
  sourceSuspensionEvidenceId : Option String

structure ClassificationAuthority where
  contractProductLineId : String
  classificationEventId : String
  classificationRevision : Int
  contractId : String
  contractCustomerOrgId : String
  currentPolicyRevisionId : Option String

/-- `_classification`: a current row joined with its Contract Product Line and
Contract. -/
def SlaRows.classification (rows : SlaRows) (serviceRequestId : String) :
    Except Raised (Option ClassificationAuthority) := do
  let joined := do
    let current ← rows.current? serviceRequestId
    let line ← rows.contractProductLine? current.contractProductLineId
    let contract ← rows.contract? line.contractId
    return (current, line, contract)
  match joined with
  | none => return none
  | some (current, line, contract) =>
    requireUuid4 line.contractProductLineId
    requireUuid4 current.classificationEventId
    requireUuid4 contract.contractId
    requireUuid4 contract.customerOrgId
    line.currentPolicyRevisionId.forM requireUuid4
    return some ⟨line.contractProductLineId, current.classificationEventId, current.revision,
      contract.contractId, contract.customerOrgId, line.currentPolicyRevisionId⟩

structure IndividualSlaReadCache where
  policyOwnerByRevision : List (String × Option String)
  policyTiersByRevisionSeverity : List ((String × SeverityClass) × List PolicyTier)

def IndividualSlaReadCache.empty : IndividualSlaReadCache :=
  ⟨[], []⟩

/-- A calculation that may reuse reads of immutable policies. -/
abbrev Calculation (Result : Type) := Body (Option IndividualSlaReadCache) Raised Result

def emptyResult (python : PythonLibrary) (slaInput : ServiceRequestSlaInput) (asOfUtc : Nat)
    (classificationState : ClassificationState) (calculationState : CalculationState)
    (classification : Option ClassificationAuthority) (endpointKind : EndpointKind := .missing) :
    Except Raised IndividualSlaResult := do
  let policyRevisionId := classification.bind (·.currentPolicyRevisionId)
  let fingerprint ← sha256CanonicalJson python (.obj [
    ("schema", .str "SOMA_INDIVIDUAL_SLA_INPUT_V1"),
    ("service_request_id", .str slaInput.serviceRequestId),
    ("sla_input_token", .str slaInput.inputToken),
    ("classification_state", .str classificationState.text),
    ("classification_event_id",
      SourceRows.optionalText (classification.map (·.classificationEventId))),
    ("contract_product_line_id",
      SourceRows.optionalText (classification.map (·.contractProductLineId))),
    ("policy_revision_id", SourceRows.optionalText policyRevisionId),
    ("as_of_utc", .int asOfUtc),
    ("calculation_state", .str calculationState.text)])
  return {
    serviceRequestId := slaInput.serviceRequestId
    asOfUtc
    classificationState
    customerOrgId := slaInput.customerOrgId
    contractId := classification.map (·.contractId)
    contractProductLineId := classification.map (·.contractProductLineId)
    classificationEventId := classification.map (·.classificationEventId)
    policyRevisionId
    severity := slaInput.severity
    reportDateUtc := slaInput.reportDateUtc
    endpointKind
    endpointUtc := none
    suspensionNumeratorSeconds := slaInput.suspensionNumeratorSeconds
    suspensionDenominator := slaInput.suspensionDenominator
    effectiveElapsed := none
    calculationState
    statusClass := slaInput.statusClass
    tierResults := []
    slaInputToken := slaInput.inputToken
    inputFingerprint := fingerprint
    sourceReportDateEvidenceId := slaInput.reportDateEvidenceId
    sourceStatusEvidenceId := slaInput.statusEvidenceId
    sourceSuspensionEvidenceId := slaInput.suspensionEvidenceId }

/-- `SELECT contract_product_line_id FROM sla_policy_revisions WHERE policy_revision_id=?`. -/
def SlaRows.policyOwner? (rows : SlaRows) (policyRevisionId : String) : Option String :=
  (rows.policyRevisions.find? (·.policyRevisionId = policyRevisionId)).map
    (·.contractProductLineId)

/-- The tiers of a policy for one severity, by ordinal and identity. -/
def SlaRows.tiersOf (rows : SlaRows) (policyRevisionId : String) (severity : SeverityClass) :
    List PolicyTier :=
  (rows.policyTiers.filter fun tier =>
    tier.policyRevisionId = policyRevisionId ∧ tier.severity = .ofClass severity).insertionSort
      fun left right => left.tierOrdinal < right.tierOrdinal ∨
        left.tierOrdinal = right.tierOrdinal ∧ left.policyTierId ≤ right.policyTierId

/-- The owner of a policy revision, read through the cache. -/
def policyOwner (rows : SlaRows) (policyRevisionId : String) : Calculation (Option String) := do
  match ← get with
  | none => return rows.policyOwner? policyRevisionId
  | some cache =>
    match cache.policyOwnerByRevision.lookup policyRevisionId with
    | some owner => return owner
    | none =>
      let owner := rows.policyOwner? policyRevisionId
      set (some { cache with
        policyOwnerByRevision := (policyRevisionId, owner) :: cache.policyOwnerByRevision })
      return owner

/-- The tiers of a policy and severity, read through the cache. -/
def policyTiers (rows : SlaRows) (policyRevisionId : String) (severity : SeverityClass) :
    Calculation (List PolicyTier) := do
  match ← get with
  | none => return rows.tiersOf policyRevisionId severity
  | some cache =>
    match cache.policyTiersByRevisionSeverity.lookup (policyRevisionId, severity) with
    | some tiers => return tiers
    | none =>
      let tiers := rows.tiersOf policyRevisionId severity
      set (some { cache with
        policyTiersByRevisionSeverity :=
          ((policyRevisionId, severity), tiers) :: cache.policyTiersByRevisionSeverity })
      return tiers

def slaInputIndeterminate (message : String) : Raised :=
  .soma ⟨.somaError, "SLA_INPUT_INDETERMINATE", message, false⟩

/-- `Fraction(numerator, denominator)` of the tier's maximum duration. -/
def PolicyTier.maximum (tier : PolicyTier) : Rat :=
  mkRat tier.maximumDuration.numeratorSeconds tier.maximumDuration.denominator

/-- The state a tier gives a Service Request. -/
def individualState (terminal within : Bool) : IndividualState :=
  if terminal ∧ within then .terminalMet
  else if terminal then .terminalExceeded
  else if within then .activeWithin
  else .activeExceeded

/-- One round of the loop over the tiers. -/
def tierResult (elapsed : Rat) (terminal : Bool) (tier : PolicyTier) :
    Except Raised IndividualTierResult := do
  requireUuid4 tier.policyTierId
  let within : Bool := elapsed ≤ tier.maximum
  return {
    policyTierId := tier.policyTierId
    tierOrdinal := tier.tierOrdinal
    requiredPercentageMillionths := tier.requiredPercentageMillionths
    maximumDurationNumeratorSeconds := tier.maximum.num
    maximumDurationDenominator := tier.maximum.den
    individualState := individualState terminal within
    inclusiveBoundaryMet := within }

/-- Where the clock of a Service Request stops, and whether it has stopped for
good. -/
def endpointOf (slaInput : ServiceRequestSlaInput) (asOfUtc : Nat) : Except Raised (Nat × Bool) :=
  if slaInput.statusClass = .resolved ∨ slaInput.statusClass = .closed then
    match slaInput.firstResolvedClosedEndpointUtc with
    | none => .error (slaInputIndeterminate
        "terminal Service Request lacks an accepted effective Resolved/Closed endpoint")
    | some endpoint =>
      if asOfUtc < endpoint then .error (slaInputIndeterminate
        "terminal Service Request endpoint is later than the requested as-of instant")
      else .ok (endpoint, true)
  else .ok (asOfUtc, false)

/-- The elapsed time net of the suspension, never negative. -/
def effectiveElapsed (slaInput : ServiceRequestSlaInput) (reportDateUtc endpointUtc : Nat) : Rat :=
  max (((endpointUtc : Int) - reportDateUtc : Int) -
    mkRat slaInput.suspensionNumeratorSeconds slaInput.suspensionDenominator) 0

/-- The part of `calculate` behind the guards that leave a Service Request out. -/
def calculateTiers (python : PythonLibrary) (reader : SlaReader) (asOfUtc : Nat)
    (slaInput : ServiceRequestSlaInput) (classification : ClassificationAuthority)
    (policyRevisionId : String) (severity : SeverityClass) (reportDateUtc : Nat) :
    Calculation IndividualSlaResult := do
  let (endpointUtc, terminal) ← attempt (endpointOf slaInput asOfUtc)
  let endpointKind : EndpointKind := if terminal then .firstResolvedClosed else .current
  let elapsed := effectiveElapsed slaInput reportDateUtc endpointUtc
  let tierRows ← policyTiers reader.sla policyRevisionId severity
  require (tierRows ≠ []) (slaInputIndeterminate
    "current SLA policy has no tier for the accepted Service Request severity")
  let results ← attempt (tierRows.mapM (tierResult elapsed terminal))
  let fingerprint ← attempt (sha256CanonicalJson python (.obj [
    ("schema", .str "SOMA_INDIVIDUAL_SLA_INPUT_V1"),
    ("service_request_id", .str slaInput.serviceRequestId),
    ("sla_input_token", .str slaInput.inputToken),
    ("classification_event_id", .str classification.classificationEventId),
    ("classification_revision", .int classification.classificationRevision),
    ("contract_id", .str classification.contractId),
    ("contract_product_line_id", .str classification.contractProductLineId),
    ("policy_revision_id", .str policyRevisionId),
    ("severity", .str severity.text),
    ("as_of_utc", .int asOfUtc),
    ("endpoint_kind", .str endpointKind.text),
    ("endpoint_utc", .int endpointUtc),
    ("endpoint_status_evidence_id", SourceRows.optionalText slaInput.endpointStatusEvidenceId),
    ("suspension", .obj [
      ("numerator_seconds", .int slaInput.suspensionNumeratorSeconds),
      ("denominator", .int slaInput.suspensionDenominator),
      ("evidence_id", SourceRows.optionalText slaInput.suspensionEvidenceId)]),
    ("tiers", .arr (results.map fun result => .str result.policyTierId))]))
  return {
    serviceRequestId := slaInput.serviceRequestId
    asOfUtc
    classificationState := .classified
    customerOrgId := slaInput.customerOrgId
    contractId := some classification.contractId
    contractProductLineId := some classification.contractProductLineId
    classificationEventId := some classification.classificationEventId
    policyRevisionId := some policyRevisionId
    severity := some severity
    reportDateUtc := some reportDateUtc
    endpointKind
    endpointUtc := some endpointUtc
    suspensionNumeratorSeconds := slaInput.suspensionNumeratorSeconds
    suspensionDenominator := slaInput.suspensionDenominator
    effectiveElapsed := some elapsed
    calculationState := .calculable
    statusClass := slaInput.statusClass
    tierResults := results
    slaInputToken := slaInput.inputToken
    inputFingerprint := fingerprint
    sourceReportDateEvidenceId := slaInput.reportDateEvidenceId
    sourceStatusEvidenceId := slaInput.statusEvidenceId
    sourceSuspensionEvidenceId := slaInput.suspensionEvidenceId }

/-- The supplied input, which must be of this Service Request, or the one read
for it. -/
def inputFor (python : PythonLibrary) (reader : SlaReader) (srId : String) :
    Option ServiceRequestSlaInput → Except Raised ServiceRequestSlaInput
  | none => reader.tickets.get python srId
  | some slaInput => do
    ensure (slaInput.serviceRequestId = srId)
      (validationError "supplied SLA input belongs to a different Service Request")
    return slaInput

/-- `IndividualSlaCalculator.calculate`. The instant is a `Nat`, so the check
that it is a nonnegative integer has no counterpart. -/
def calculate (python : PythonLibrary) (reader : SlaReader) (srId : String) (asOfUtc : Nat)
    (slaInput? : Option ServiceRequestSlaInput) : Calculation IndividualSlaResult := do
  attempt (requireUuid4 srId)
  let slaInput ← attempt (inputFor python reader srId slaInput?)
  match ← attempt (reader.sla.classification srId) with
  | none =>
    attempt (emptyResult python slaInput asOfUtc .unclassified .unclassified none)
  | some classification =>
    if slaInput.customerOrgId ≠ some classification.contractCustomerOrgId then
      attempt (emptyResult python slaInput asOfUtc .incompatible .unclassified
        (some classification))
    else match classification.currentPolicyRevisionId with
      | none =>
        attempt (emptyResult python slaInput asOfUtc .classified .policyMissing
          (some classification))
      | some policyRevisionId => do
        let policyOwnerId ← policyOwner reader.sla policyRevisionId
        require (policyOwnerId = some classification.contractProductLineId)
          (slaInputIndeterminate
            "current SLA policy does not belong to the classified Contract Product Line")
        if slaInput.statusClass = .cancelled then
          attempt (emptyResult python slaInput asOfUtc .classified .cancelledExcluded
            (some classification) .cancelled)
        else match slaInput.reportDateUtc, slaInput.severity with
          | none, _ =>
            attempt (emptyResult python slaInput asOfUtc .classified .missingReportDate
              (some classification))
          | some _, none =>
            attempt (emptyResult python slaInput asOfUtc .classified .severityUnresolved
              (some classification))
          | some reportDateUtc, some severity =>
            calculateTiers python reader asOfUtc slaInput classification policyRevisionId severity
              reportDateUtc

end Soma.ProductLineSla
