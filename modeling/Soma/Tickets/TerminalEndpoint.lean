import Soma.Tickets.SlaInputs

/-!
Where the clock of a Service Request stops. The endpoint is the first Resolved or
Closed of its status chronology after the last Suspended or Cancelled, in whatever
order the observations are listed. Points of one second are not after one another,
so a Service Request that was suspended in the second of its current status has none.
-/

namespace Soma.Tickets

open Foundation Transaction

namespace SourceRows

/-! ## The chronology -/

/-- The Service Request had a status at an instant. -/
def StatusAt (rows : SourceRows) (serviceRequestId token : String) (instant : Nat) : Prop :=
  ∃ row ∈ rows.observations, row.serviceRequestId = serviceRequestId ∧ row.fieldKey = .status ∧
    row.value = .controlled token ∧ row.sourceChronologyUtc = some instant

/-- Suspended or Cancelled at an instant. -/
def BreaksAt (rows : SourceRows) (serviceRequestId : String) (instant : Nat) : Prop :=
  rows.StatusAt serviceRequestId "Customer Agreed Suspend" instant ∨
    rows.StatusAt serviceRequestId "Cancelled" instant

/-- Resolved or Closed, at the instant and by the evidence of an endpoint. -/
def EndsAt (rows : SourceRows) (serviceRequestId : String) (endpoint : Nat × String) : Prop :=
  ∃ row ∈ rows.observations, row.serviceRequestId = serviceRequestId ∧ row.fieldKey = .status ∧
    (row.value = .controlled "Resolved" ∨ row.value = .controlled "Closed") ∧
    row.sourceChronologyUtc = some endpoint.1 ∧ row.sourceObservationFieldId = endpoint.2

/-- An end after every break, up to the current chronology. -/
def Final (rows : SourceRows) (serviceRequestId : String) (current : Nat)
    (endpoint : Nat × String) : Prop :=
  rows.EndsAt serviceRequestId endpoint ∧ endpoint.1 ≤ current ∧
    ∀ break_ ≤ current, rows.BreaksAt serviceRequestId break_ → break_ < endpoint.1

/-! ## Points -/

/-- The instant and the evidence of a point. -/
def StatusPoint.endpoint (point : StatusPoint) : Nat × String :=
  (point.chronology, point.sourceObservationFieldId)

def StatusPoint.isEnd (point : StatusPoint) : Prop := point.token ∈ ["Resolved", "Closed"]

def StatusPoint.isBreak (point : StatusPoint) : Prop :=
  point.token ∈ ["Customer Agreed Suspend", "Cancelled"]

instance StatusPoint.isEndDecidable (point : StatusPoint) : Decidable point.isEnd :=
  inferInstanceAs (Decidable (_ ∈ _))

instance StatusPoint.isBreakDecidable (point : StatusPoint) : Decidable point.isBreak :=
  inferInstanceAs (Decidable (_ ∈ _))

section Points

variable {rows other : SourceRows} {serviceRequestId : String} {current : Nat}

theorem mem_statusPoints :
    point ∈ rows.statusPoints serviceRequestId current ↔
      ∃ row ∈ rows.observations, row.serviceRequestId = serviceRequestId ∧
        row.fieldKey = .status ∧ row.value = .controlled point.token ∧
        row.sourceChronologyUtc = some point.chronology ∧ point.chronology ≤ current ∧
        row.sourceObservationFieldId = point.sourceObservationFieldId := by
  simp only [statusPoints, List.mem_filterMap, List.mem_insertionSort, List.mem_filter,
    decide_eq_true_eq]
  constructor
  · rintro ⟨row, ⟨inside, named, field, bounded⟩, built⟩
    obtain ⟨token, controlled, rest⟩ := Option.bind_eq_some_iff.mp built
    obtain ⟨chronology, dated, same⟩ := Option.bind_eq_some_iff.mp rest
    cases same
    rw [dated, Option.any_some, decide_eq_true_eq] at bounded
    have value : row.value = .controlled token := by
      cases valued : row.value <;> rw [valued] at controlled <;> cases controlled
      rfl
    exact ⟨row, inside, named, field, value, dated, bounded, rfl⟩
  · rintro ⟨row, inside, named, field, value, dated, bounded, evidence⟩
    refine ⟨row, ⟨inside, named, field, ?_⟩, ?_⟩
    · rw [dated, Option.any_some]
      exact decide_eq_true bounded
    · simp [value, dated, evidence, SourceValue.controlled?]

theorem foldl_raiseBoundary_lt {points : List StatusPoint} :
    points.foldl raiseBoundary boundary < instant ↔
      boundary < instant ∧
        ∀ point ∈ points, point.isBreak → (point.chronology : Int) < instant := by
  induction points generalizing boundary with
  | nil => simp
  | cons point points ih =>
    rw [List.foldl_cons, ih, List.forall_mem_cons]
    by_cases breaks : point.isBreak
    · have raised : raiseBoundary boundary point = max boundary point.chronology := if_pos breaks
      rw [raised, Int.max_lt]
      tauto
    · have same : raiseBoundary boundary point = boundary := if_neg breaks
      rw [same]
      tauto

/-- An end later than every break of the points. -/
def Candidate (points : List StatusPoint) (point : StatusPoint) : Prop :=
  point.isEnd ∧ ∀ other ∈ points, other.isBreak → other.chronology < point.chronology

instance candidateDecidable (points : List StatusPoint) (point : StatusPoint) :
    Decidable (Candidate points point) :=
  inferInstanceAs (Decidable (_ ∧ ∀ _ ∈ _, _ → _))

/-- The candidates `_terminal_endpoint` sorts. -/
def candidates (rows : SourceRows) (serviceRequestId : String) (current : Nat) : List StatusPoint :=
  (rows.statusPoints serviceRequestId current).filter
    (Candidate (rows.statusPoints serviceRequestId current))

theorem candidates_eq : rows.candidates serviceRequestId current =
    (rows.statusPoints serviceRequestId current).filter fun point =>
      point.token ∈ ["Resolved", "Closed"] ∧
        (rows.statusPoints serviceRequestId current).foldl raiseBoundary (-1) <
          point.chronology := by
  refine List.filter_congr fun point _ => ?_
  rw [decide_eq_decide, foldl_raiseBoundary_lt, Candidate]
  refine and_congr_right fun _ => ⟨fun later => ⟨by omega, fun other inside breaks => ?_⟩,
    fun later other inside breaks => ?_⟩
  · exact Int.ofNat_lt.mpr (later other inside breaks)
  · exact Int.ofNat_lt.mp (later.2 other inside breaks)

theorem statusPoints_perm (moved : rows.observations.Perm other.observations) :
    (rows.statusPoints serviceRequestId current).Perm
      (other.statusPoints serviceRequestId current) := by
  refine List.Perm.filterMap _ ?_
  exact (List.perm_insertionSort _ _).trans
    ((moved.filter _).trans (List.perm_insertionSort _ _).symm)

theorem candidates_perm (moved : rows.observations.Perm other.observations) :
    (rows.candidates serviceRequestId current).Perm
      (other.candidates serviceRequestId current) := by
  have points : (rows.statusPoints serviceRequestId current).Perm
      (other.statusPoints serviceRequestId current) := statusPoints_perm moved
  refine (points.filter _).trans (List.Perm.of_eq (List.filter_congr fun point _ => ?_))
  rw [decide_eq_decide, Candidate, Candidate]
  exact and_congr_right fun _ => forall_congr' fun break_ => by rw [points.mem_iff]

/-- The candidates of a chronology are its ends after every break. -/
theorem mem_endpoints :
    endpoint ∈ (rows.candidates serviceRequestId current).map StatusPoint.endpoint ↔
      rows.Final serviceRequestId current endpoint := by
  have breaks : ∀ point : StatusPoint, point.isBreak ↔
      point.token = "Customer Agreed Suspend" ∨ point.token = "Cancelled" := fun point => by
    simp [StatusPoint.isBreak]
  constructor
  · intro mapped
    obtain ⟨point, inside, rfl⟩ := List.mem_map.mp mapped
    obtain ⟨listed, candidate⟩ := List.mem_filter.mp inside
    obtain ⟨ends, later⟩ := of_decide_eq_true candidate
    obtain ⟨row, held, named, field, value, dated, bounded, evidence⟩ := mem_statusPoints.mp listed
    refine ⟨⟨row, held, named, field, ?_, dated, evidence⟩, bounded, fun break_ within broken => ?_⟩
    · rcases List.mem_cons.mp ends with token | token
      · exact .inl (token ▸ value)
      · exact .inr (List.mem_singleton.mp token ▸ value)
    · rcases broken with broken | broken
      all_goals
        obtain ⟨row, held, named, field, value, dated⟩ := broken
        refine later ⟨row.sourceObservationFieldId, _, break_⟩ (mem_statusPoints.mpr
          ⟨row, held, named, field, value, dated, within, rfl⟩) ((breaks _).mpr ?_)
      · exact .inl rfl
      · exact .inr rfl
  · rintro ⟨⟨row, held, named, field, ends, dated, evidence⟩, bounded, later⟩
    obtain ⟨token, listed, value⟩ : ∃ token ∈ ["Resolved", "Closed"],
        row.value = .controlled token := by
      rcases ends with ends | ends
      · exact ⟨_, List.mem_cons_self, ends⟩
      · exact ⟨_, List.mem_cons_of_mem _ List.mem_cons_self, ends⟩
    refine List.mem_map.mpr ⟨⟨endpoint.2, token, endpoint.1⟩, List.mem_filter.mpr
      ⟨mem_statusPoints.mpr ⟨row, held, named, field, value, dated, bounded, evidence⟩,
        decide_eq_true ⟨listed, fun other inside broken => ?_⟩⟩, rfl⟩
    obtain ⟨row, held, named, field, value, dated, within, -⟩ := mem_statusPoints.mp inside
    refine later other.chronology within ?_
    rcases (breaks other).mp broken with token | token
    · exact .inl ⟨row, held, named, field, token ▸ value, dated⟩
    · exact .inr ⟨row, held, named, field, token ▸ value, dated⟩

end Points

/-! ## The endpoint -/

/-- The order of endpoints, by instant and evidence. -/
def EndpointBefore (left right : Nat × String) : Prop :=
  left.1 < right.1 ∨ left.1 = right.1 ∧ left.2 ≤ right.2

instance endpointBeforeDecidable : DecidableRel EndpointBefore :=
  fun _ _ => inferInstanceAs (Decidable (_ ∨ _ ∧ _))

instance endpointBeforeTotal : Std.Total EndpointBefore := ⟨fun left right => by
  rcases Nat.lt_trichotomy left.1 right.1 with less | same | more
  · exact .inl (.inl less)
  · exact (String.le_total left.2 right.2).imp (fun le => .inr ⟨same, le⟩)
      fun ge => .inr ⟨same.symm, ge⟩
  · exact .inr (.inl more)⟩

instance endpointBeforeTrans : IsTrans (Nat × String) EndpointBefore := ⟨by
  intro one two three first second
  rcases first with less | ⟨same, le⟩
  · rcases second with less' | ⟨same', -⟩
    · exact .inl (less.trans less')
    · exact .inl (same' ▸ less)
  · rcases second with less' | ⟨same', le'⟩
    · exact .inl (same ▸ less')
    · exact .inr ⟨same.trans same', String.le_trans le le'⟩⟩

instance endpointBeforeAntisymm : Std.Antisymm EndpointBefore := ⟨by
  rintro ⟨_, _⟩ ⟨_, _⟩ before after
  rcases before with less | ⟨same, le⟩
  · rcases after with less' | ⟨same', -⟩
    · exact absurd less' (Nat.lt_asymm less)
    · exact absurd same'.symm (Nat.ne_of_lt less)
  · rcases after with less' | ⟨-, ge⟩
    · exact absurd same.symm (Nat.ne_of_lt less')
    · exact Prod.ext same (String.le_antisymm le ge)⟩

/-- The first of some endpoints. -/
def firstEndpoint (endpoints : List (Nat × String)) : Option (Nat × String) :=
  (endpoints.insertionSort EndpointBefore).head?

section Endpoint

/-- The first of some endpoints is the least. -/
theorem firstEndpoint_iff :
    firstEndpoint endpoints = some first ↔
      first ∈ endpoints ∧ ∀ endpoint ∈ endpoints, EndpointBefore first endpoint := by
  have sorted := List.pairwise_insertionSort EndpointBefore endpoints
  have moved := List.perm_insertionSort EndpointBefore endpoints
  rw [firstEndpoint]
  cases arranged : endpoints.insertionSort EndpointBefore with
  | nil =>
    rw [arranged] at moved
    simp [moved.nil_eq.symm]
  | cons least rest =>
    rw [arranged] at sorted moved
    obtain ⟨before, -⟩ := List.pairwise_cons.mp sorted
    have below : ∀ endpoint ∈ endpoints, EndpointBefore least endpoint := by
      intro endpoint inside
      rcases List.mem_cons.mp (moved.mem_iff.mpr inside) with rfl | later
      · exact refl_of EndpointBefore endpoint
      · exact before endpoint later
    have least_mem : least ∈ endpoints := moved.mem_iff.mp List.mem_cons_self
    rw [List.head?_cons, Option.some.injEq]
    constructor
    · rintro rfl
      exact ⟨least_mem, below⟩
    · rintro ⟨inside, least'⟩
      exact antisymm_of EndpointBefore (below first inside) (least' least least_mem)

theorem firstEndpoint_perm {endpoints : List (Nat × String)} (moved : endpoints.Perm others) :
    firstEndpoint endpoints = firstEndpoint others := by
  refine Option.ext fun first => ?_
  rw [firstEndpoint_iff, firstEndpoint_iff]
  simp only [moved.mem_iff]

theorem firstEndpoint_isSome :
    (firstEndpoint endpoints).isSome = true ↔ ∃ endpoint, endpoint ∈ endpoints := by
  rw [firstEndpoint, List.isSome_head?]
  constructor
  · intro some
    obtain ⟨endpoint, inside⟩ := List.exists_mem_of_ne_nil _ some
    exact ⟨endpoint, (List.mem_insertionSort _).mp inside⟩
  · rintro ⟨endpoint, inside⟩
    exact List.ne_nil_of_mem ((List.mem_insertionSort _).mpr inside)

/-- The evidence of the points is named canonically. -/
def Canonical (points : List StatusPoint) : Prop :=
  ∀ point ∈ points, isUuid4 point.sourceObservationFieldId = true

instance canonicalDecidable (points : List StatusPoint) : Decidable (Canonical points) :=
  inferInstanceAs (Decidable (∀ _ ∈ _, _ = _))

theorem canonical_cons :
    Canonical (point :: points) ↔
      isUuid4 point.sourceObservationFieldId = true ∧ Canonical points :=
  List.forall_mem_cons

/-- The evidence of every candidate is canonical, or the call raises. -/
theorem mapM_endpoint (points : List StatusPoint) :
    (points.mapM fun point => do
        requireUuid4 point.sourceObservationFieldId
        return (point.chronology, point.sourceObservationFieldId)) =
      if Canonical points then .ok (points.map StatusPoint.endpoint)
      else .error (validationError "expected canonical lowercase UUIDv4") := by
  induction points with
  | nil => rfl
  | cons point points ih =>
    rw [List.mapM_cons, ih]
    by_cases canonical : isUuid4 point.sourceObservationFieldId = true
    · by_cases others : Canonical points
      · rw [if_pos others, if_pos (canonical_cons.mpr ⟨canonical, others⟩), requireUuid4, ensure,
          if_pos canonical]
        rfl
      · rw [if_neg others, if_neg fun all => others (canonical_cons.mp all).2, requireUuid4,
          ensure, if_pos canonical]
        rfl
    · rw [if_neg fun all => canonical (canonical_cons.mp all).1, requireUuid4, ensure,
        if_neg canonical]
      rfl

variable {rows other : SourceRows} {serviceRequestId : String} {current : Nat}
  {currentStatus : SlaEvidenceValue String}

section

variable (ends : currentStatus.value ∈ ["Resolved", "Closed"])
  (dated : currentStatus.sourceChronologyUtc = some current)

include ends dated

/-- What `_terminal_endpoint` comes to for a current status that ends. -/
theorem terminalEndpoint_eq :
    rows.terminalEndpoint serviceRequestId currentStatus =
      if Canonical (rows.candidates serviceRequestId current) then
        .ok (firstEndpoint ((rows.candidates serviceRequestId current).map StatusPoint.endpoint))
      else .error (validationError "expected canonical lowercase UUIDv4") := by
  rw [terminalEndpoint, if_neg (not_not.mpr ends)]
  simp only [dated]
  rw [← candidates_eq, mapM_endpoint]
  split <;> rfl

/-- The endpoint of a Service Request is its earliest end after every break. -/
theorem endpoint_iff (ran : rows.terminalEndpoint serviceRequestId currentStatus = .ok endpoint)
    (first : Nat × String) :
    endpoint = some first ↔
      rows.Final serviceRequestId current first ∧
        ∀ other, rows.Final serviceRequestId current other → EndpointBefore first other := by
  rw [terminalEndpoint_eq ends dated] at ran
  split at ran
  case isFalse => cases ran
  cases ran
  simp only [firstEndpoint_iff, mem_endpoints]

theorem endpoint_isSome
    (ran : rows.terminalEndpoint serviceRequestId currentStatus = .ok endpoint) :
    endpoint.isSome = true ↔ ∃ first, rows.Final serviceRequestId current first := by
  rw [terminalEndpoint_eq ends dated] at ran
  split at ran
  case isFalse => cases ran
  cases ran
  simp only [firstEndpoint_isSome, mem_endpoints]

end

end Endpoint

/-! ## Other chronologies -/

section Chronologies

variable {rows other : SourceRows} {serviceRequestId : String} {current : Nat}
  {currentStatus : SlaEvidenceValue String}

theorem terminalEndpoint_none (open_ : currentStatus.value ∉ ["Resolved", "Closed"] ∨
    currentStatus.sourceChronologyUtc = none) :
    rows.terminalEndpoint serviceRequestId currentStatus = .ok none := by
  rcases open_ with other | undated
  · rw [terminalEndpoint, if_pos other]
  · simp [terminalEndpoint, undated]

theorem terminalEndpoint_perm (moved : rows.observations.Perm other.observations) :
    other.terminalEndpoint serviceRequestId currentStatus =
      rows.terminalEndpoint serviceRequestId currentStatus := by
  by_cases ends : currentStatus.value ∈ ["Resolved", "Closed"]
  · cases dated : currentStatus.sourceChronologyUtc with
    | none => rw [terminalEndpoint_none (.inr dated), terminalEndpoint_none (.inr dated)]
    | some current =>
      have points : (rows.candidates serviceRequestId current).Perm
          (other.candidates serviceRequestId current) := candidates_perm moved
      have named : Canonical (other.candidates serviceRequestId current) ↔
          Canonical (rows.candidates serviceRequestId current) :=
        forall_congr' fun point => by rw [points.mem_iff]
      rw [terminalEndpoint_eq ends dated, terminalEndpoint_eq ends dated,
        firstEndpoint_perm (points.map StatusPoint.endpoint)]
      by_cases canonical : Canonical (rows.candidates serviceRequestId current)
      · rw [if_pos canonical, if_pos (named.mpr canonical)]
      · rw [if_neg canonical, if_neg fun all => canonical (named.mp all)]
  · rw [terminalEndpoint_none (.inl ends), terminalEndpoint_none (.inl ends)]

theorem statusAt_added (added : other.observations.Perm (row :: rows.observations)) :
    other.StatusAt serviceRequestId token instant ↔
      (row.serviceRequestId = serviceRequestId ∧ row.fieldKey = .status ∧
        row.value = .controlled token ∧ row.sourceChronologyUtc = some instant) ∨
      rows.StatusAt serviceRequestId token instant := by
  simp only [StatusAt, added.mem_iff, List.mem_cons, exists_eq_or_imp]

theorem endsAt_added (added : other.observations.Perm (row :: rows.observations)) :
    other.EndsAt serviceRequestId endpoint ↔
      (row.serviceRequestId = serviceRequestId ∧ row.fieldKey = .status ∧
        (row.value = .controlled "Resolved" ∨ row.value = .controlled "Closed") ∧
        row.sourceChronologyUtc = some endpoint.1 ∧ row.sourceObservationFieldId = endpoint.2) ∨
      rows.EndsAt serviceRequestId endpoint := by
  simp only [EndsAt, added.mem_iff, List.mem_cons, exists_eq_or_imp]

/-- A later end does not move the endpoint, nor does a later current status with no
break before it. -/
theorem endpoint_added (ends : currentStatus.value ∈ ["Resolved", "Closed"])
    (dated : currentStatus.sourceChronologyUtc = some current)
    (ran : rows.terminalEndpoint serviceRequestId currentStatus = .ok (some first))
    (added : other.observations.Perm (row :: rows.observations))
    (value : row.value = .controlled token) (ending : token ∈ ["Resolved", "Closed"])
    (chronology : row.sourceChronologyUtc = some later) (after : first.1 < later)
    {nextStatus : SlaEvidenceValue String} (nextEnds : nextStatus.value ∈ ["Resolved", "Closed"])
    (nextDated : nextStatus.sourceChronologyUtc = some next) (onward : current ≤ next)
    (unbroken : ∀ break_, current < break_ → break_ ≤ next →
      ¬ rows.BreaksAt serviceRequestId break_)
    (reran : other.terminalEndpoint serviceRequestId nextStatus = .ok endpoint) :
    endpoint = some first := by
  obtain ⟨⟨isEnd, bounded, past⟩, least⟩ := (endpoint_iff ends dated ran first).mp rfl
  have sameBreaks : ∀ break_, other.BreaksAt serviceRequestId break_ ↔
      rows.BreaksAt serviceRequestId break_ := by
    have apart : ∀ broken ∈ ["Customer Agreed Suspend", "Cancelled"],
        row.value ≠ .controlled broken := by
      intro broken listed same
      rw [value] at same
      cases same
      revert listed
      rcases List.mem_cons.mp ending with rfl | ending
      · decide
      · rw [List.mem_singleton.mp ending]
        decide
    intro break_
    simp only [BreaksAt, statusAt_added added, apart _ List.mem_cons_self,
      apart _ (List.mem_cons_of_mem _ List.mem_cons_self), false_and, and_false, false_or]
  refine (endpoint_iff nextEnds nextDated reran first).mpr
    ⟨⟨(endsAt_added added).mpr (.inr isEnd), bounded.trans onward, ?_⟩, ?_⟩
  · intro break_ within broken
    have before : break_ ≤ current := by
      by_contra beyond
      exact unbroken break_ (by omega) within ((sameBreaks break_).mp broken)
    exact past break_ before ((sameBreaks break_).mp broken)
  · rintro other_ ⟨otherEnd, -, otherPast⟩
    rcases Nat.lt_or_ge first.1 other_.1 with beyond | within
    · exact .inl beyond
    · -- the added row is later, so this end was there before
      have told : rows.EndsAt serviceRequestId other_ := by
        refine ((endsAt_added added).mp otherEnd).resolve_left fun new => ?_
        obtain ⟨-, -, -, same, -⟩ := new
        obtain rfl := Option.some.inj (chronology.symm.trans same)
        omega
      refine least other_ ⟨told, by omega, fun break_ within' broken => ?_⟩
      exact otherPast break_ (by omega) ((sameBreaks break_).mpr broken)

theorem final_iff_unbroken (contained : rows.EndsAt serviceRequestId (current, evidence)) :
    (∃ first, rows.Final serviceRequestId current first) ↔
      ¬ rows.BreaksAt serviceRequestId current := by
  constructor
  · rintro ⟨first, -, _, past⟩ broken
    have before := past current le_rfl broken
    omega
  · intro unbroken
    refine ⟨_, contained, le_rfl, fun break_ within broken => ?_⟩
    refine Nat.lt_of_le_of_ne within fun same => unbroken ?_
    rwa [show break_ = current from same] at broken

theorem terminalEndpoint_returns
    (canonical : ∀ row ∈ rows.observations, isUuid4 row.sourceObservationFieldId = true) :
    ∃ endpoint, rows.terminalEndpoint serviceRequestId currentStatus = .ok endpoint := by
  by_cases ends : currentStatus.value ∈ ["Resolved", "Closed"]
  · cases dated : currentStatus.sourceChronologyUtc with
    | none => exact ⟨none, terminalEndpoint_none (.inr dated)⟩
    | some current =>
      have named : Canonical (rows.candidates serviceRequestId current) := by
        intro point inside
        obtain ⟨row, held, -, -, -, -, -, same⟩ :=
          mem_statusPoints.mp (List.mem_of_mem_filter inside)
        exact same ▸ canonical row held
      rw [terminalEndpoint_eq ends dated, if_pos named]
      exact ⟨_, rfl⟩
  · exact ⟨none, by rw [terminalEndpoint, if_pos ends]⟩

end Chronologies

end SourceRows

/-- **The endpoint is the first end after every break.** For a current status that is
Resolved or Closed the endpoint is the earliest Resolved or Closed of the chronology up
to it that is strictly later than every Suspended or Cancelled, the first by its evidence
where several have that instant; it does not depend on the order of the observations, and
one more Resolved or Closed, later than the endpoint, does not move it, whether or not it
becomes the current status. Where the chronology holds the current point, there is an
endpoint exactly when no Suspended or Cancelled has its very instant. Any other current
status, and one without a chronology, has none. -/
theorem terminal_endpoint_first_after_breaks (rows : SourceRows) (serviceRequestId : String)
    (currentStatus : SlaEvidenceValue String) :
    (∀ other : SourceRows, rows.observations.Perm other.observations →
      other.terminalEndpoint serviceRequestId currentStatus =
        rows.terminalEndpoint serviceRequestId currentStatus) ∧
    ((∀ row ∈ rows.observations, isUuid4 row.sourceObservationFieldId = true) →
      ∃ endpoint, rows.terminalEndpoint serviceRequestId currentStatus = .ok endpoint) ∧
    (currentStatus.value ∉ ["Resolved", "Closed"] ∨ currentStatus.sourceChronologyUtc = none →
      rows.terminalEndpoint serviceRequestId currentStatus = .ok none) ∧
    ∀ current, currentStatus.value ∈ ["Resolved", "Closed"] →
      currentStatus.sourceChronologyUtc = some current →
      ∀ endpoint, rows.terminalEndpoint serviceRequestId currentStatus = .ok endpoint →
        (∀ first, endpoint = some first ↔ rows.Final serviceRequestId current first ∧
          ∀ other, rows.Final serviceRequestId current other →
            SourceRows.EndpointBefore first other) ∧
        (rows.StatusAt serviceRequestId currentStatus.value current →
          (endpoint.isSome = true ↔ ¬ rows.BreaksAt serviceRequestId current)) ∧
        ∀ first, endpoint = some first →
          ∀ (other : SourceRows) (row : SrSourceFieldObservation) (token : String) (later : Nat),
            other.observations.Perm (row :: rows.observations) →
            row.value = .controlled token → token ∈ ["Resolved", "Closed"] →
            row.sourceChronologyUtc = some later → first.1 < later →
            ∀ (nextStatus : SlaEvidenceValue String) (next : Nat),
              nextStatus.value ∈ ["Resolved", "Closed"] →
              nextStatus.sourceChronologyUtc = some next → current ≤ next →
              (∀ break_, current < break_ → break_ ≤ next →
                ¬ rows.BreaksAt serviceRequestId break_) →
              ∀ moved, other.terminalEndpoint serviceRequestId nextStatus = .ok moved →
                moved = some first := by
  refine ⟨fun other moved => SourceRows.terminalEndpoint_perm moved,
    SourceRows.terminalEndpoint_returns, SourceRows.terminalEndpoint_none,
    fun current ends dated endpoint ran => ⟨SourceRows.endpoint_iff ends dated ran,
      fun contained => ?_, ?_⟩⟩
  · obtain ⟨row, held, named, field, value, dated'⟩ := contained
    have told : rows.EndsAt serviceRequestId (current, row.sourceObservationFieldId) := by
      refine ⟨row, held, named, field, ?_, dated', rfl⟩
      rcases List.mem_cons.mp ends with token | token
      · exact .inl (token ▸ value)
      · exact .inr (List.mem_singleton.mp token ▸ value)
    rw [SourceRows.endpoint_isSome ends dated ran, SourceRows.final_iff_unbroken told]
  · rintro first rfl other row token later added value ending chronology after
      nextStatus next nextEnds nextDated onward unbroken moved reran
    exact SourceRows.endpoint_added ends dated ran added value ending chronology after nextEnds
      nextDated onward unbroken reran

/-! ## A suspension in the second of the resolution -/

def statusRow (evidence token : String) (instant : Nat) : SrSourceFieldObservation where
  srSourceFieldObservationId := evidence
  serviceRequestId := "00000000-0000-4000-8000-000000000001"
  fieldKey := .status
  value := .controlled token
  sourceChronologyUtc := some instant
  precedenceBasis := .sourceChronology
  sourceObservationFieldId := evidence

/-- Suspended at an instant and resolved at another. -/
def suspendedThenResolved (suspended resolved : Nat) : SourceRows where
  serviceRequests := [⟨"00000000-0000-4000-8000-000000000001", none⟩]
  activeCustomers := []
  projections := [⟨"00000000-0000-4000-8000-000000000001", none, none,
    some "00000000-0000-4000-8000-000000000b02", none, none, 1⟩]
  observations := [
    statusRow "00000000-0000-4000-8000-000000000b01" "Customer Agreed Suspend" suspended,
    statusRow "00000000-0000-4000-8000-000000000b02" "Resolved" resolved]

def resolvedAt (instant : Nat) : SlaEvidenceValue String where
  srSourceFieldObservationId := "00000000-0000-4000-8000-000000000b02"
  sourceObservationFieldId := "00000000-0000-4000-8000-000000000b02"
  value := "Resolved"
  sourceChronologyUtc := some instant
  precedenceBasis := .sourceChronology

/-- Resolved in the second it was suspended, a Service Request is current at a point of
its own chronology and has no endpoint. -/
theorem tied_suspension_hides_endpoint : ((suspendedThenResolved 100 100).projected
        "00000000-0000-4000-8000-000000000001").toOption.bind (·.status) = some (resolvedAt 100) ∧
      (suspendedThenResolved 100 100).StatusAt "00000000-0000-4000-8000-000000000001"
        "Resolved" 100 ∧
      (suspendedThenResolved 100 100).terminalEndpoint "00000000-0000-4000-8000-000000000001"
        (resolvedAt 100) = .ok none :=
  ⟨by decide +kernel,
    ⟨_, List.mem_cons_of_mem _ List.mem_cons_self, rfl, rfl, rfl, rfl⟩, by decide +kernel⟩

/-- Suspended a second before, it ends where it was resolved. -/
theorem suspended_before_ends : ∃ endpoint, (suspendedThenResolved 99 100).terminalEndpoint
      "00000000-0000-4000-8000-000000000001" (resolvedAt 100) = .ok endpoint ∧
      endpoint.isSome = true := by
  have account := terminal_endpoint_first_after_breaks (suspendedThenResolved 99 100)
    "00000000-0000-4000-8000-000000000001" (resolvedAt 100)
  obtain ⟨endpoint, ran⟩ := account.2.1 (by decide +kernel)
  have ended := (account.2.2.2 100 List.mem_cons_self rfl endpoint ran).2.1
    ⟨_, List.mem_cons_of_mem _ List.mem_cons_self, rfl, rfl, rfl, rfl⟩
  refine ⟨endpoint, ran, ended.mpr ?_⟩
  rintro (broken | broken)
  all_goals
    obtain ⟨row, held, -, -, value, dated⟩ := broken
    rcases List.mem_cons.mp held with rfl | held
    · cases dated
    · cases List.mem_singleton.mp held
      revert value
      decide

end Soma.Tickets
