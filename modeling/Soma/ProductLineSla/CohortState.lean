import Soma.Theory.Grouping
import Soma.ProductLineSla.CohortKey

/-!
`CanonicalCohortCalculator.calculate_month`: the Service Requests reported in a
month, gathered by Customer, Contract Product Line, severity and policy tier,
and the state each such cohort is in against its required percentage.
-/

namespace Soma.ProductLineSla

open Foundation Tickets Transaction

structure CanonicalCohortMember where
  cohortKey : CohortKeyParts
  serviceRequestId : String
  policyRevisionId : String
  tierResult : IndividualTierResult
  individualResult : IndividualSlaResult

/-- The displayed states of a cohort. -/
inductive CohortState where
  | finalMet
  | breached
  | currentlyMet
  | atRisk
  | pending
  deriving DecidableEq

structure CohortProjection where
  cohortKey : String
  calendarMonth : String
  timezone : String
  customerOrgId : String
  contractId : String
  contractProductLineId : String
  policyRevisionId : String
  policyTierId : String
  severity : SeverityClass
  requiredPercentageMillionths : Nat
  maximumDurationNumeratorSeconds : Int
  maximumDurationDenominator : Nat
  denominator : Nat
  terminalMetCount : Nat
  terminalExceededCount : Nat
  activeWithinCount : Nat
  activeExceededCount : Nat
  lowerBoundMetCount : Nat
  bestPossibleMetCount : Nat
  lowerBoundPercentage : Rat
  bestPossiblePercentage : Rat
  state : CohortState
  isFinal : Bool
  memberExactCount : Nat
  inputFingerprint : String

/-- The parts of its key a cohort shows. -/
def CohortProjection.parts (cohort : CohortProjection) : CohortKeyParts :=
  ⟨cohort.calendarMonth, cohort.customerOrgId, cohort.contractId, cohort.contractProductLineId,
    cohort.severity, cohort.policyTierId⟩

structure CohortMonthProjection where
  calendarMonth : String
  timezone : String
  monthStartUtc : Int
  monthEndUtc : Int
  asOfUtc : Nat
  cohorts : List CohortProjection
  members : List CanonicalCohortMember

/-- The members a projection lists for one cohort. -/
def CohortMonthProjection.membersOf (projection : CohortMonthProjection) (key : CohortKeyParts) :
    List CanonicalCohortMember :=
  projection.members.filter (·.cohortKey = key)

def passesPercentage (metCount denominator required : Nat) : Bool :=
  required * denominator ≤ metCount * 100000000

def percentageFraction (metCount denominator : Nat) : Rat :=
  mkRat (metCount * 100 : Nat) denominator

def cohortSortKey (key : CohortKeyParts) : List String :=
  [key.calendarMonth, key.customerOrgId, key.contractId, key.contractProductLineId,
    key.severity.text, key.policyTierId]

/-- The members found so far, by cohort. -/
abbrev Groups := List (CohortKeyParts × List CanonicalCohortMember)

/-- The arguments of `calculate_month` that do not change during a run. -/
structure MonthRequest where
  python : PythonLibrary
  zone : GuayaquilZone
  reader : SlaReader
  calendarMonth : String
  asOfUtc : Nat
  customerScope : Option String

/-- The authority of a calculable result: none of its optional parts is absent. -/
structure CohortAuthority where
  customerOrgId : String
  contractId : String
  contractProductLineId : String
  policyRevisionId : String
  severity : SeverityClass
  reportDateUtc : Nat

def IndividualSlaResult.authority? (individual : IndividualSlaResult) : Option CohortAuthority := do
  return ⟨← individual.customerOrgId, ← individual.contractId, ← individual.contractProductLineId,
    ← individual.policyRevisionId, ← individual.severity, ← individual.reportDateUtc⟩

/-- The member a tier makes of a Service Request. -/
def cohortMember (calendarMonth : String) (individual : IndividualSlaResult)
    (authority : CohortAuthority) (tier : IndividualTierResult) : CanonicalCohortMember where
  cohortKey :=
    { calendarMonth
      customerOrgId := authority.customerOrgId
      contractId := authority.contractId
      contractProductLineId := authority.contractProductLineId
      severity := authority.severity
      policyTierId := tier.policyTierId }
  serviceRequestId := individual.serviceRequestId
  policyRevisionId := authority.policyRevisionId
  tierResult := tier
  individualResult := individual

/-- `groups.setdefault(key, []).append(member)`. -/
def addMember (groups : Groups) (member : CanonicalCohortMember) : Groups :=
  Grouping.append member.cohortKey member groups

/-- The part of the loop over a page that follows the individual calculation. -/
def placeIndividual (calendarMonth : String) (bounds : Int × Int) (groups : Groups)
    (individual : IndividualSlaResult) : Except Raised Groups :=
  if individual.calculationState ≠ .calculable then .ok groups
  else if individual.statusClass = .cancelled then .ok groups
  else match individual.authority? with
    | none => .error (integrityFailure
        "calculable individual SLA lacks canonical cohort authority")
    | some authority => do
      ensure (bounds.1 ≤ authority.reportDateUtc ∧ authority.reportDateUtc < bounds.2)
        (integrityFailure "SLA month candidate changed Report Date inside one stable read")
      return (individual.tierResults.map (cohortMember calendarMonth individual authority)).foldl
        addMember groups

/-- One round of the loop over a page. -/
def placeItem (request : MonthRequest) (bounds : Int × Int) (groups : Groups)
    (slaInput : ServiceRequestSlaInput) : Calculation Groups := do
  let individual ← calculate request.python request.reader slaInput.serviceRequestId
    request.asOfUtc (some slaInput)
  attempt (placeIndividual request.calendarMonth bounds groups individual)

/-- The loop over the pages of the month; a page after the last allowed round
is not read. -/
def placePages (request : MonthRequest) (bounds : Int × Int) :
    Nat → Option String → Groups → Calculation Groups
  | 0, _, _ => throw .other
  | rounds + 1, cursor, groups => do
    let page ← attempt (request.reader.tickets.listReportDateMonth request.python bounds.1 bounds.2
      request.customerScope cursor 500)
    let groups ← page.items.foldlM (placeItem request bounds) groups
    match page.nextCursor with
    | none => return groups
    | some next => placePages request bounds rounds (some next) groups

/-- The four entries of `counts`. -/
structure StateCounts where
  terminalMet : Nat
  terminalExceeded : Nat
  activeWithin : Nat
  activeExceeded : Nat

/-- `counts[state] += 1`. Every state of an individual result has an entry. -/
def StateCounts.add (counts : StateCounts) : IndividualState → StateCounts
  | .terminalMet => { counts with terminalMet := counts.terminalMet + 1 }
  | .terminalExceeded => { counts with terminalExceeded := counts.terminalExceeded + 1 }
  | .activeWithin => { counts with activeWithin := counts.activeWithin + 1 }
  | .activeExceeded => { counts with activeExceeded := counts.activeExceeded + 1 }

def CanonicalCohortMember.state (member : CanonicalCohortMember) : IndividualState :=
  member.tierResult.individualState

def countStates (members : List CanonicalCohortMember) : StateCounts :=
  members.foldl (fun counts member => counts.add member.state) ⟨0, 0, 0, 0⟩

/-- The state `calculate_month` displays. -/
def cohortState (counts : StateCounts) (isFinal lowerPasses bestPasses : Bool) : CohortState :=
  if isFinal ∧ lowerPasses then .finalMet
  else if ¬ bestPasses then .breached
  else if lowerPasses then .currentlyMet
  else if 0 < counts.terminalExceeded + counts.activeExceeded then .atRisk
  else .pending

/-- The members agree on the policy revision and tier behind their cohort. -/
def sameAuthority (first member : CanonicalCohortMember) : Bool :=
  member.policyRevisionId = first.policyRevisionId ∧
    member.tierResult.requiredPercentageMillionths =
      first.tierResult.requiredPercentageMillionths ∧
    member.tierResult.maximumDurationNumeratorSeconds =
      first.tierResult.maximumDurationNumeratorSeconds ∧
    member.tierResult.maximumDurationDenominator = first.tierResult.maximumDurationDenominator

/-- The payload of a cohort's input fingerprint. -/
def cohortInputJson (opaqueKey : String) (asOfUtc : Nat) (first : CanonicalCohortMember)
    (members : List CanonicalCohortMember) : Json :=
  .obj [
    ("schema", .str "SOMA_COHORT_INPUT_V1"),
    ("cohort_key", .str opaqueKey),
    ("as_of_utc", .int asOfUtc),
    ("policy_revision_id", .str first.policyRevisionId),
    ("required_percentage_millionths", .int first.tierResult.requiredPercentageMillionths),
    ("maximum_duration", .obj [
      ("numerator_seconds", .int first.tierResult.maximumDurationNumeratorSeconds),
      ("denominator", .int first.tierResult.maximumDurationDenominator)]),
    ("members", .arr (members.map fun member => .obj [
      ("service_request_id", .str member.serviceRequestId),
      ("individual_input_fingerprint", .str member.individualResult.inputFingerprint),
      ("individual_state", .str member.state.text)]))]

/-- The body of the loop over the cohorts. A cohort without members is skipped. -/
def closeCohort (request : MonthRequest) (monthClosed : Bool)
    (group : CohortKeyParts × List CanonicalCohortMember) :
    Except Raised (Option CohortProjection) :=
  match group with
  | (_, []) => .ok none
  | (key, first :: others) => do
    let members := first :: others
    ensure (others.all (sameAuthority first)) (integrityFailure
      "one canonical cohort key resolved conflicting policy-tier authority")
    let required := first.tierResult.requiredPercentageMillionths
    let counts := countStates members
    let denominator := members.length
    let lower := counts.terminalMet
    let best := counts.terminalMet + counts.activeWithin
    let lowerPasses := passesPercentage lower denominator required
    let bestPasses := passesPercentage best denominator required
    let isFinal : Bool := monthClosed ∧ counts.activeWithin = 0 ∧ counts.activeExceeded = 0
    let opaqueKey ← encodeCohortKey request.zone key
    let inputFingerprint ← sha256CanonicalJson request.python
      (cohortInputJson opaqueKey request.asOfUtc first members)
    return some {
      cohortKey := opaqueKey
      calendarMonth := request.calendarMonth
      timezone := "America/Guayaquil"
      customerOrgId := key.customerOrgId
      contractId := key.contractId
      contractProductLineId := key.contractProductLineId
      policyRevisionId := first.policyRevisionId
      policyTierId := key.policyTierId
      severity := key.severity
      requiredPercentageMillionths := required
      maximumDurationNumeratorSeconds := first.tierResult.maximumDurationNumeratorSeconds
      maximumDurationDenominator := first.tierResult.maximumDurationDenominator
      denominator
      terminalMetCount := counts.terminalMet
      terminalExceededCount := counts.terminalExceeded
      activeWithinCount := counts.activeWithin
      activeExceededCount := counts.activeExceeded
      lowerBoundMetCount := lower
      bestPossibleMetCount := best
      lowerBoundPercentage := percentageFraction lower denominator
      bestPossiblePercentage := percentageFraction best denominator
      state := cohortState counts isFinal lowerPasses bestPasses
      isFinal
      memberExactCount := denominator
      inputFingerprint }

/-- `sorted(groups[key], key=..service_request_id.encode("utf-8"))`. -/
def sortMembers (group : CohortKeyParts × List CanonicalCohortMember) :
    CohortKeyParts × List CanonicalCohortMember :=
  (group.1, group.2.insertionSort fun left right => left.serviceRequestId ≤ right.serviceRequestId)

/-- The cohorts in the order of their keys, each with its members sorted. -/
def sortGroups (groups : Groups) : Groups :=
  (groups.insertionSort fun left right =>
    cohortSortKey left.1 ≤ cohortSortKey right.1).map sortMembers

/-- Every round of the page loop but the last moves the cursor past one of the
rows it selects from. -/
def pageRounds (request : MonthRequest) (bounds : Int × Int) : Nat :=
  (request.reader.tickets.monthRows bounds.1 bounds.2 request.customerScope).length + 1

/-- `calculate_month`; the final state is the read cache it leaves. -/
def calculateMonth (request : MonthRequest) (readCache : Option IndividualSlaReadCache) :
    Except Raised (CohortMonthProjection × Option IndividualSlaReadCache) := do
  let bounds ← canonicalMonthBounds request.zone request.calendarMonth
  let (groups, cache) ← (placePages request bounds (pageRounds request bounds) none []).run
    (some (readCache.getD .empty))
  let monthClosed : Bool := bounds.2 ≤ request.asOfUtc
  let groups := sortGroups groups
  let cohorts ← groups.mapM (closeCohort request monthClosed)
  return ({
    calendarMonth := request.calendarMonth
    timezone := "America/Guayaquil"
    monthStartUtc := bounds.1
    monthEndUtc := bounds.2
    asOfUtc := request.asOfUtc
    cohorts := cohorts.filterMap id
    members := (Grouping.values groups).insertionSort fun left right =>
      cohortSortKey left.cohortKey ++ [left.serviceRequestId] ≤
        cohortSortKey right.cohortKey ++ [right.serviceRequestId] }, cache)

end Soma.ProductLineSla
