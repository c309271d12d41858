import Soma.Theory.Oblivious
import Soma.ProductLineSla.CohortEvolution

/-!
What `calculate` says of a Service Request: a tier is exceeded exactly when the
rational time elapsed is above the tier's duration, an active Service Request only
gets later, and a read cache shared by a sequence of calculations does not show.
-/

namespace Soma.ProductLineSla

open Foundation Tickets Transaction Execution

/-! ## The cache -/

/-- What a cache holds is what the tables give. -/
structure IndividualSlaReadCache.Coherent (rows : SlaRows) (cache : IndividualSlaReadCache) :
    Prop where
  owner : ∀ policyRevisionId owner,
    cache.policyOwnerByRevision.lookup policyRevisionId = some owner →
      owner = rows.policyOwner? policyRevisionId
  tiers : ∀ policyRevisionId severity tiers,
    cache.policyTiersByRevisionSeverity.lookup (policyRevisionId, severity) = some tiers →
      tiers = rows.tiersOf policyRevisionId severity

/-- No cache, or a coherent one. -/
def Coherent (rows : SlaRows) (cache? : Option IndividualSlaReadCache) : Prop :=
  ∀ cache, cache? = some cache → cache.Coherent rows

section Cache

variable {rows : SlaRows}

theorem Coherent.none (rows : SlaRows) : Coherent rows none :=
  fun _ same => nomatch same

theorem IndividualSlaReadCache.Coherent.empty (rows : SlaRows) :
    IndividualSlaReadCache.empty.Coherent rows where
  owner _ _ found := nomatch found
  tiers _ _ _ found := nomatch found

theorem IndividualSlaReadCache.Coherent.addOwner {cache : IndividualSlaReadCache}
    (coherent : cache.Coherent rows) (policyRevisionId : String) :
    ({ cache with policyOwnerByRevision :=
        (policyRevisionId, rows.policyOwner? policyRevisionId) ::
          cache.policyOwnerByRevision } : IndividualSlaReadCache).Coherent rows where
  owner wanted owner found := by
    rw [List.lookup_cons] at found
    split at found
    · next same =>
      cases found
      rw [beq_iff_eq.mp same]
    · exact coherent.owner wanted owner found
  tiers := coherent.tiers

theorem IndividualSlaReadCache.Coherent.addTiers {cache : IndividualSlaReadCache}
    (coherent : cache.Coherent rows) (policyRevisionId : String) (severity : SeverityClass) :
    ({ cache with policyTiersByRevisionSeverity :=
        ((policyRevisionId, severity), rows.tiersOf policyRevisionId severity) ::
          cache.policyTiersByRevisionSeverity } : IndividualSlaReadCache).Coherent rows where
  owner := coherent.owner
  tiers wantedId wanted tiers found := by
    rw [List.lookup_cons] at found
    split at found
    · next same =>
      cases found
      obtain ⟨sameId, sameSeverity⟩ := Prod.mk.inj (beq_iff_eq.mp same)
      rw [sameId, sameSeverity]
    · exact coherent.tiers wantedId wanted tiers found

/-- The owner of a policy is the one of the tables, whatever the cache holds. -/
theorem policyOwner_run (coherent : Coherent rows state) (policyRevisionId : String) :
    ∃ next, (policyOwner rows policyRevisionId).run state =
      .ok (rows.policyOwner? policyRevisionId, next) ∧ Coherent rows next ∧
        next.isSome = state.isSome := by
  cases state with
  | none => exact ⟨none, rfl, coherent, rfl⟩
  | some cache =>
    have held := coherent cache rfl
    cases found : cache.policyOwnerByRevision.lookup policyRevisionId with
    | some owner =>
      refine ⟨some cache, ?_, coherent, rfl⟩
      rw [policyOwner, run_bind_of_ok (get_ok.mpr ⟨rfl, rfl⟩)]
      simp only [found]
      rw [held.owner _ _ found]
      rfl
    | none =>
      refine ⟨some _, ?_, fun other same =>
        Option.some.inj same ▸ held.addOwner policyRevisionId, rfl⟩
      rw [policyOwner, run_bind_of_ok (get_ok.mpr ⟨rfl, rfl⟩)]
      simp only [found]
      rfl

theorem policyTiers_run (coherent : Coherent rows state) (policyRevisionId : String)
    (severity : SeverityClass) :
    ∃ next, (policyTiers rows policyRevisionId severity).run state =
      .ok (rows.tiersOf policyRevisionId severity, next) ∧ Coherent rows next ∧
        next.isSome = state.isSome := by
  cases state with
  | none => exact ⟨none, rfl, coherent, rfl⟩
  | some cache =>
    have held := coherent cache rfl
    cases found : cache.policyTiersByRevisionSeverity.lookup (policyRevisionId, severity) with
    | some tiers =>
      refine ⟨some cache, ?_, coherent, rfl⟩
      rw [policyTiers, run_bind_of_ok (get_ok.mpr ⟨rfl, rfl⟩)]
      simp only [found]
      rw [held.tiers _ _ _ found]
      rfl
    | none =>
      refine ⟨some _, ?_, fun other same =>
        Option.some.inj same ▸ held.addTiers policyRevisionId severity, rfl⟩
      rw [policyTiers, run_bind_of_ok (get_ok.mpr ⟨rfl, rfl⟩)]
      simp only [found]
      rfl

theorem oblivious_of_run {coherent : Option IndividualSlaReadCache → Prop} {Value : Type}
    {body : Calculation Value} (value : Value)
    (run : ∀ state, coherent state → ∃ next, body.run state = .ok (value, next) ∧ coherent next) :
    Oblivious coherent body where
  same state other here there := by
    obtain ⟨next, ran, -⟩ := run state here
    obtain ⟨last, runs, -⟩ := run other there
    rw [ran, runs]
    rfl
  kept state value next here ran := by
    obtain ⟨last, runs, coherent⟩ := run state here
    rw [ran] at runs
    cases runs
    exact coherent

/-- A calculation is oblivious of what its two reads are oblivious of. -/
theorem calculate_oblivious_of {coherent : Option IndividualSlaReadCache → Prop}
    {reader : SlaReader}
    (owner : ∀ policyRevisionId, Oblivious coherent (policyOwner reader.sla policyRevisionId))
    (tiers : ∀ policyRevisionId severity,
      Oblivious coherent (policyTiers reader.sla policyRevisionId severity))
    (python : PythonLibrary) (srId : String) (asOfUtc : Nat)
    (slaInput? : Option ServiceRequestSlaInput) :
    Oblivious coherent (calculate python reader srId asOfUtc slaInput?) := by
  refine (Oblivious.attempt _).bind fun _ => (Oblivious.attempt _).bind fun slaInput => ?_
  refine (Oblivious.attempt _).bind fun classification? => ?_
  split
  · exact Oblivious.attempt _
  split
  · exact Oblivious.attempt _
  split
  · exact Oblivious.attempt _
  refine (owner _).bind fun policyOwnerId => (Oblivious.require _ _).bind fun _ => ?_
  split
  · exact Oblivious.attempt _
  split
  · exact Oblivious.attempt _
  · exact Oblivious.attempt _
  refine (Oblivious.attempt _).bind fun endpoint => (tiers _ _).bind fun tierRows => ?_
  refine (Oblivious.require _ _).bind fun _ => (Oblivious.attempt _).bind fun results => ?_
  exact (Oblivious.attempt _).bind fun fingerprint => Oblivious.pure _

theorem calculate_oblivious (python : PythonLibrary) (reader : SlaReader) (srId : String)
    (asOfUtc : Nat) (slaInput? : Option ServiceRequestSlaInput) :
    Oblivious (Coherent reader.sla) (calculate python reader srId asOfUtc slaInput?) := by
  refine calculate_oblivious_of
    (fun policyRevisionId => oblivious_of_run (reader.sla.policyOwner? policyRevisionId)
      fun state coherent => ?_)
    (fun policyRevisionId severity => oblivious_of_run (reader.sla.tiersOf policyRevisionId severity)
      fun state coherent => ?_) python srId asOfUtc slaInput?
  · obtain ⟨next, ran, kept, -⟩ := policyOwner_run coherent policyRevisionId
    exact ⟨next, ran, kept⟩
  · obtain ⟨next, ran, kept, -⟩ := policyTiers_run coherent policyRevisionId severity
    exact ⟨next, ran, kept⟩

/-- There is a cache, and it is coherent. -/
def Shared (rows : SlaRows) (cache? : Option IndividualSlaReadCache) : Prop :=
  Coherent rows cache? ∧ cache?.isSome = true

theorem calculate_shared (python : PythonLibrary) (reader : SlaReader) (srId : String)
    (asOfUtc : Nat) (slaInput? : Option ServiceRequestSlaInput) :
    Oblivious (Shared reader.sla) (calculate python reader srId asOfUtc slaInput?) := by
  refine calculate_oblivious_of
    (fun policyRevisionId => oblivious_of_run (reader.sla.policyOwner? policyRevisionId)
      fun state shared => ?_)
    (fun policyRevisionId severity => oblivious_of_run (reader.sla.tiersOf policyRevisionId severity)
      fun state shared => ?_) python srId asOfUtc slaInput?
  · obtain ⟨next, ran, kept, there⟩ := policyOwner_run shared.1 policyRevisionId
    exact ⟨next, ran, kept, there.trans shared.2⟩
  · obtain ⟨next, ran, kept, there⟩ := policyTiers_run shared.1 policyRevisionId severity
    exact ⟨next, ran, kept, there.trans shared.2⟩

end Cache

/-! ## What a calculable result was calculated from -/

/-- The guards of `calculate` let the Service Request through to its tiers. -/
structure Selected (python : PythonLibrary) (reader : SlaReader) (srId : String)
    (slaInput? : Option ServiceRequestSlaInput) (slaInput : ServiceRequestSlaInput)
    (classification : ClassificationAuthority) (policyRevisionId : String)
    (severity : SeverityClass) (reportDateUtc : Nat) : Prop where
  canonical : requireUuid4 srId = .ok ()
  input : inputFor python reader srId slaInput? = .ok slaInput
  classified : reader.sla.classification srId = .ok (some classification)
  customer : slaInput.customerOrgId = some classification.contractCustomerOrgId
  policy : classification.currentPolicyRevisionId = some policyRevisionId
  owner : reader.sla.policyOwner? policyRevisionId = some classification.contractProductLineId
  open_ : slaInput.statusClass ≠ .cancelled
  reportDate : slaInput.reportDateUtc = some reportDateUtc
  severe : slaInput.severity = some severity

section Selected

variable {python : PythonLibrary} {reader : SlaReader} {srId : String}
  {slaInput? : Option ServiceRequestSlaInput} {slaInput : ServiceRequestSlaInput}
  {classification : ClassificationAuthority} {policyRevisionId : String}
  {severity : SeverityClass} {reportDateUtc asOfUtc : Nat}

theorem emptyResult_state {classification? : Option ClassificationAuthority}
    (ran : emptyResult python slaInput asOfUtc classificationState calculationState
      classification? endpointKind = .ok result) :
    result.calculationState = calculationState ∧ result.tierResults = [] := by
  simp only [emptyResult, except_ok] at ran
  obtain ⟨_, -, ran⟩ := ran
  cases ran
  exact ⟨rfl, rfl⟩

/-- The guards look at nothing but the Service Request, so at every instant they let
the same ones through. -/
theorem Selected.run (selected : Selected python reader srId slaInput? slaInput classification
      policyRevisionId severity reportDateUtc) (asOfUtc : Nat) :
    (calculate python reader srId asOfUtc slaInput?).run none =
      (calculateTiers python reader asOfUtc slaInput classification policyRevisionId severity
        reportDateUtc).run none := by
  rw [calculate, run_attempt_bind_ok selected.canonical, run_attempt_bind_ok selected.input,
    run_attempt_bind_ok selected.classified]
  simp only [selected.customer, ne_eq, not_true_eq_false, if_false, selected.policy]
  have owned : (policyOwner reader.sla policyRevisionId).run none =
      .ok (some classification.contractProductLineId, none) := by
    rw [← selected.owner]
    rfl
  have passes : ∀ raised, StateT.run (require (some classification.contractProductLineId =
      some classification.contractProductLineId) raised : Calculation PUnit) none =
        .ok (⟨⟩, none) := fun _ => require_ok.mpr ⟨rfl, rfl⟩
  rw [run_bind_of_ok owned, run_bind_of_ok (passes _), if_neg selected.open_]
  simp only [selected.reportDate, selected.severe]

/-- A Service Request the guards do not let through has no tiers. -/
theorem selected_or_empty
    (ran : (calculate python reader srId asOfUtc slaInput?).run none = .ok (result, left)) :
    (∃ slaInput classification policyRevisionId severity reportDateUtc,
      Selected python reader srId slaInput? slaInput classification policyRevisionId severity
        reportDateUtc) ∨
    result.calculationState ≠ .calculable ∧ result.tierResults = [] := by
  simp only [calculate, steps_ok] at ran
  obtain ⟨canonical, slaInput, input, classification?, classified, ran⟩ := ran
  have apart : ∀ {classificationState calculationState classification? endpointKind},
      calculationState ≠ .calculable →
        emptyResult python slaInput asOfUtc classificationState calculationState classification?
          endpointKind = .ok result →
        result.calculationState ≠ .calculable ∧ result.tierResults = [] := fun other empty =>
    (emptyResult_state empty).imp_left fun same calculable => other (same.symm.trans calculable)
  cases classification? with
  | none => exact .inr (apart (by decide) (attempt_ok.mp ran).1)
  | some classification =>
    dsimp only at ran
    split at ran
    · exact .inr (apart (by decide) (attempt_ok.mp ran).1)
    next customer =>
    split at ran
    · exact .inr (apart (by decide) (attempt_ok.mp ran).1)
    next policyRevisionId policy =>
    simp only [steps_ok] at ran
    obtain ⟨_, _, owned, owns, ran⟩ := ran
    cases owned
    split at ran
    · exact .inr (apart (by decide) (attempt_ok.mp ran).1)
    next notCancelled =>
    split at ran
    · exact .inr (apart (by decide) (attempt_ok.mp ran).1)
    · exact .inr (apart (by decide) (attempt_ok.mp ran).1)
    next reportDateUtc severity reportDate severe =>
    exact .inl ⟨slaInput, classification, policyRevisionId, severity, reportDateUtc, canonical, input,
      classified, not_not.mp customer, policy, owns, notCancelled, reportDate, severe⟩

theorem selected_of_calculable
    (ran : (calculate python reader srId asOfUtc slaInput?).run none = .ok (result, left))
    (calculable : result.calculationState = .calculable) :
    ∃ slaInput classification policyRevisionId severity reportDateUtc,
      Selected python reader srId slaInput? slaInput classification policyRevisionId severity
        reportDateUtc :=
  (selected_or_empty ran).resolve_right fun empty => empty.1 calculable

end Selected

/-! ## Verdicts -/

/-- The tier is exceeded, for good or so far. -/
def IndividualState.IsExceeded (state : IndividualState) : Prop :=
  state = .terminalExceeded ∨ state = .activeExceeded

/-- What is reported of a tier after some time. -/
structure Verdict (elapsed : Rat) (tier : PolicyTier) (result : IndividualTierResult) : Prop where
  policyTierId : result.policyTierId = tier.policyTierId
  tierOrdinal : result.tierOrdinal = tier.tierOrdinal
  required : result.requiredPercentageMillionths = tier.requiredPercentageMillionths
  duration : mkRat result.maximumDurationNumeratorSeconds result.maximumDurationDenominator =
    tier.maximum
  inclusive : result.inclusiveBoundaryMet = true ↔ elapsed ≤ tier.maximum
  exceeded : result.individualState.IsExceeded ↔ tier.maximum < elapsed

/-- The time a Service Request took up to an instant, net of its suspension. -/
def timeTaken (reportDateUtc endpointUtc : Nat) (suspension : Rat) : Rat :=
  max ((endpointUtc : Rat) - reportDateUtc - suspension) 0

section Verdicts

theorem effectiveElapsed_eq (slaInput : ServiceRequestSlaInput) (reportDateUtc endpointUtc : Nat) :
    effectiveElapsed slaInput reportDateUtc endpointUtc = timeTaken reportDateUtc endpointUtc
      (mkRat slaInput.suspensionNumeratorSeconds slaInput.suspensionDenominator) := by
  rw [effectiveElapsed, timeTaken]
  push_cast
  rfl

theorem individualState_exceeded (terminal within : Bool) :
    (individualState terminal within).IsExceeded ↔ within = false := by
  cases terminal <;> cases within <;> simp [individualState, IndividualState.IsExceeded]

theorem tierResult_verdict (ran : tierResult elapsed terminal tier = .ok result) :
    Verdict elapsed tier result := by
  simp only [tierResult, except_ok] at ran
  obtain ⟨-, ran⟩ := ran
  cases ran
  refine ⟨rfl, rfl, rfl, Rat.mkRat_self _, decide_eq_true_iff, ?_⟩
  rw [individualState_exceeded, decide_eq_false_iff_not, not_le]

variable {python : PythonLibrary} {reader : SlaReader} {asOfUtc : Nat}
  {slaInput : ServiceRequestSlaInput} {classification : ClassificationAuthority}
  {policyRevisionId : String} {severity : SeverityClass} {reportDateUtc : Nat}
  {result : IndividualSlaResult} {left : Option IndividualSlaReadCache}

theorem calculateTiers_ok
    (ran : (calculateTiers python reader asOfUtc slaInput classification policyRevisionId severity
      reportDateUtc).run none = .ok (result, left)) :
    ∃ endpointUtc terminal, endpointOf slaInput asOfUtc = .ok (endpointUtc, terminal) ∧
      result.endpointUtc = some endpointUtc ∧ result.statusClass = slaInput.statusClass ∧
      result.reportDateUtc = some reportDateUtc ∧
      result.suspensionNumeratorSeconds = slaInput.suspensionNumeratorSeconds ∧
      result.suspensionDenominator = slaInput.suspensionDenominator ∧
      result.policyRevisionId = some policyRevisionId ∧ result.severity = some severity ∧
      result.calculationState = .calculable ∧
      result.effectiveElapsed = some (effectiveElapsed slaInput reportDateUtc endpointUtc) ∧
      (reader.sla.tiersOf policyRevisionId severity).mapM
        (tierResult (effectiveElapsed slaInput reportDateUtc endpointUtc) terminal) =
          .ok result.tierResults := by
  simp only [calculateTiers, steps_ok] at ran
  obtain ⟨⟨endpointUtc, terminal⟩, stops, _, _, read, -, _, judged, _, -,
    rfl, -⟩ := ran
  cases read
  exact ⟨endpointUtc, terminal, stops, rfl, rfl, rfl, rfl, rfl, rfl, rfl, rfl, rfl, judged⟩

end Verdicts

/-! ## Runs with one cache -/

/-- The arguments of one calculation. -/
structure SlaQuery where
  srId : String
  asOfUtc : Nat
  slaInput? : Option ServiceRequestSlaInput

/-- `IndividualSlaCalculator.calculate` of a query. -/
def SlaQuery.calculation (query : SlaQuery) (python : PythonLibrary) (reader : SlaReader) :
    Calculation IndividualSlaResult :=
  calculate python reader query.srId query.asOfUtc query.slaInput?

/-- What a query comes to without a cache. -/
def SlaQuery.alone (query : SlaQuery) (python : PythonLibrary) (reader : SlaReader) :
    Except Raised IndividualSlaResult :=
  ((query.calculation python reader).run none).map Prod.fst

/-- A read of the tables is put into a cache. -/
inductive ReadInto (rows : SlaRows) : IndividualSlaReadCache → IndividualSlaReadCache → Prop
  | owner (cache : IndividualSlaReadCache) (policyRevisionId : String) :
      ReadInto rows cache { cache with policyOwnerByRevision :=
        (policyRevisionId, rows.policyOwner? policyRevisionId) :: cache.policyOwnerByRevision }
  | tiers (cache : IndividualSlaReadCache) (policyRevisionId : String) (severity : SeverityClass) :
      ReadInto rows cache { cache with policyTiersByRevisionSeverity :=
        ((policyRevisionId, severity), rows.tiersOf policyRevisionId severity) ::
          cache.policyTiersByRevisionSeverity }

/-- Calculations one after the other with one cache. A calculation that raises may
have put any reads into the cache before. -/
inductive SharedRun (python : PythonLibrary) (reader : SlaReader) :
    IndividualSlaReadCache → List SlaQuery → List (Except Raised IndividualSlaResult) → Prop
  | done (cache : IndividualSlaReadCache) : SharedRun python reader cache [] []
  | returned {cache next : IndividualSlaReadCache} {query : SlaQuery} {queries : List SlaQuery}
      {result : IndividualSlaResult} {outcomes : List (Except Raised IndividualSlaResult)}
      (ran : (query.calculation python reader).run (some cache) = .ok (result, some next))
      (rest : SharedRun python reader next queries outcomes) :
      SharedRun python reader cache (query :: queries) (.ok result :: outcomes)
  | raised {cache next : IndividualSlaReadCache} {query : SlaQuery} {queries : List SlaQuery}
      {error : Raised} {outcomes : List (Except Raised IndividualSlaResult)}
      (ran : (query.calculation python reader).run (some cache) = .error error)
      (read : Later (ReadInto reader.sla) cache next)
      (rest : SharedRun python reader next queries outcomes) :
      SharedRun python reader cache (query :: queries) (.error error :: outcomes)

section Shared

variable {python : PythonLibrary} {reader : SlaReader} {cache next : IndividualSlaReadCache}

theorem coherent_some (coherent : cache.Coherent reader.sla) :
    ProductLineSla.Coherent reader.sla (some cache) :=
  fun _ same => Option.some.inj same ▸ coherent

theorem ReadInto.coherent (read : ReadInto reader.sla cache next)
    (coherent : cache.Coherent reader.sla) : next.Coherent reader.sla := by
  cases read with
  | owner policyRevisionId => exact coherent.addOwner policyRevisionId
  | tiers policyRevisionId severity => exact coherent.addTiers policyRevisionId severity

theorem SlaQuery.oblivious (query : SlaQuery) (python : PythonLibrary) (reader : SlaReader) :
    Oblivious (ProductLineSla.Coherent reader.sla) (query.calculation python reader) :=
  calculate_oblivious python reader query.srId query.asOfUtc query.slaInput?

theorem SlaQuery.alone_ok {query : SlaQuery} (ran : query.alone python reader = .ok result) :
    ∃ left, (query.calculation python reader).run none = .ok (result, left) := by
  rw [SlaQuery.alone] at ran
  cases outcome : (query.calculation python reader).run none with
  | error error =>
    rw [outcome] at ran
    cases ran
  | ok pair =>
    rw [outcome] at ran
    cases ran
    exact ⟨pair.2, rfl⟩

theorem SharedRun.exists (coherent : cache.Coherent reader.sla) (queries : List SlaQuery) :
    ∃ outcomes, SharedRun python reader cache queries outcomes := by
  induction queries generalizing cache with
  | nil => exact ⟨[], .done cache⟩
  | cons query queries ih =>
    cases ran : (query.calculation python reader).run (some cache) with
    | error error =>
      obtain ⟨outcomes, rest⟩ := ih coherent
      exact ⟨.error error :: outcomes, .raised ran .refl rest⟩
    | ok pair =>
      obtain ⟨result, _⟩ := pair
      obtain ⟨kept, there⟩ := (calculate_shared python reader query.srId query.asOfUtc
        query.slaInput?).kept _ _ _ ⟨coherent_some coherent, rfl⟩ ran
      obtain ⟨next, rfl⟩ := Option.isSome_iff_exists.mp there
      obtain ⟨outcomes, rest⟩ := ih (kept next rfl)
      exact ⟨.ok result :: outcomes, .returned ran rest⟩

end Shared

/-! ## The SLA of a Service Request -/

/-- The tiers a calculable result judged, and the exact time it judged them by. -/
def TiersJudged (rows : SlaRows) (result : IndividualSlaResult) : Prop :=
  ∃ policyRevisionId severity reportDateUtc endpointUtc elapsed,
    result.policyRevisionId = some policyRevisionId ∧ result.severity = some severity ∧
    result.reportDateUtc = some reportDateUtc ∧ result.endpointUtc = some endpointUtc ∧
    elapsed = timeTaken reportDateUtc endpointUtc
      (mkRat result.suspensionNumeratorSeconds result.suspensionDenominator) ∧
    result.effectiveElapsed = some elapsed ∧
    List.Forall₂ (Verdict elapsed) (rows.tiersOf policyRevisionId severity) result.tierResults

section Verdicts

variable {python : PythonLibrary} {reader : SlaReader} {srId : String} {asOfUtc : Nat}
  {slaInput? : Option ServiceRequestSlaInput} {result : IndividualSlaResult}
  {left : Option IndividualSlaReadCache}

theorem tiersJudged_of_calculable
    (ran : (calculate python reader srId asOfUtc slaInput?).run none = .ok (result, left))
    (calculable : result.calculationState = .calculable) : TiersJudged reader.sla result := by
  obtain ⟨slaInput, _, policyRevisionId, severity, reportDateUtc, selected⟩ :=
    selected_of_calculable ran calculable
  rw [selected.run] at ran
  obtain ⟨endpointUtc, _, -, endpoint, -, report, numerator, denominator, policy, severe, -,
    elapsed, judged⟩ := calculateTiers_ok ran
  refine ⟨policyRevisionId, severity, reportDateUtc, endpointUtc, _, policy, severe, report,
    endpoint, rfl, ?_, ?_⟩
  · rw [elapsed, effectiveElapsed_eq, numerator, denominator]
  · rw [numerator, denominator, ← effectiveElapsed_eq]
    exact (mapM_ok.mp judged).imp fun tier result found => tierResult_verdict found

end Verdicts

def plainPython : PythonLibrary := ⟨fun _ => none, fun text => text⟩

end Soma.ProductLineSla
