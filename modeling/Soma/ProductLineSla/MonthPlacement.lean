import Soma.Tickets.MonthPaging
import Soma.ProductLineSla.SlaVerdicts

/-!
Who is counted in a month. The loop of `calculate_month` over the pages places the inputs
that a walk over pages of any size reads, one after the other, so every calculable Service
Request of the month that is not cancelled is a member once for each tier of its policy and
severity, and of the one cohort with that key.
-/

namespace Soma.ProductLineSla

open Foundation Tickets Transaction Execution Grouping Rows

/-! ## The pages of the loop -/

/-- The walk over the pages of a month at some page size. -/
abbrev MonthWalk (request : MonthRequest) (bounds : Int × Int) (limit : Nat) :
    Option String → List SlaInputPage → Prop :=
  SourceRows.PageWalk request.python request.reader.tickets bounds.1 bounds.2
    request.customerScope limit

/-- The inputs of all pages. -/
def walked (pages : List SlaInputPage) : List ServiceRequestSlaInput :=
  pages.flatMap (·.items)

section Pages

variable {request : MonthRequest} {bounds : Int × Int} {cursor : Option String}
  {pages : List SlaInputPage}

theorem placePages_walk (walk : MonthWalk request bounds 500 cursor pages)
    (enough : pages.length ≤ rounds) (groups : Groups) :
    placePages request bounds rounds cursor groups =
      (walked pages).foldlM (placeItem request bounds) groups := by
  induction walk generalizing rounds groups with
  | @last cursor page read done =>
    obtain ⟨rounds, rfl⟩ : ∃ more, rounds = more + 1 := ⟨rounds - 1, by simp at enough; omega⟩
    rw [placePages, read, attempt_bind]
    simp only [done, bind_pure, walked, List.flatMap_cons, List.flatMap_nil, List.append_nil]
  | @more cursor page next pages read continues _ ih =>
    obtain ⟨rounds, rfl⟩ : ∃ more, rounds = more + 1 := ⟨rounds - 1, by simp at enough; omega⟩
    rw [placePages, read, attempt_bind, walked, List.flatMap_cons, List.foldlM_append]
    simp only [continues]
    exact congrArg _ (funext fun placed => ih (Nat.le_of_succ_le_succ enough) placed)

theorem walk_of_placePages
    (placed : (placePages request bounds rounds cursor groups).run before = .ok (next, after)) :
    ∃ pages, MonthWalk request bounds 500 cursor pages ∧ pages.length ≤ rounds := by
  induction rounds generalizing cursor groups before with
  | zero =>
    rw [placePages, throw_ok] at placed
    exact placed.elim
  | succ rounds ih =>
    simp only [placePages, steps_ok] at placed
    obtain ⟨page, read, _, _, -, placed⟩ := placed
    split at placed
    · next done => exact ⟨[page], .last read done, by simp⟩
    · next continues =>
      obtain ⟨pages, rest, short⟩ := ih placed
      exact ⟨page :: pages, .more read continues rest, Nat.succ_le_succ short⟩

end Pages

/-! ## The members of a Service Request -/

/-- What a Service Request comes to by itself. -/
def individualOf (request : MonthRequest) (serviceRequestId : String) :
    Except Raised IndividualSlaResult :=
  (SlaQuery.mk serviceRequestId request.asOfUtc none).alone request.python request.reader

/-- The result counts: it is calculable and the Service Request is not cancelled. -/
def Counted (individual : IndividualSlaResult) : Prop :=
  individual.calculationState = .calculable ∧ individual.statusClass ≠ .cancelled

instance countedDecidable (individual : IndividualSlaResult) : Decidable (Counted individual) :=
  inferInstanceAs (Decidable (_ ∧ _))

/-- The members a result is placed as, one for each tier. -/
def placedAs (calendarMonth : String) (individual : IndividualSlaResult) :
    List CanonicalCohortMember :=
  if Counted individual then
    (individual.authority?.map fun authority =>
      individual.tierResults.map (cohortMember calendarMonth individual authority)).getD []
  else []

section Members

variable {request : MonthRequest} {bounds : Int × Int}

theorem placeIndividual_ok
    (placed : placeIndividual calendarMonth bounds groups individual = .ok next) :
    next = (placedAs calendarMonth individual).foldl addMember groups ∧
      (Counted individual → individual.authority?.isSome = true) := by
  unfold placeIndividual at placed
  split at placed
  · next other =>
    cases placed
    rw [placedAs, if_neg fun counted => other counted.1]
    exact ⟨rfl, fun counted => absurd counted.1 other⟩
  split at placed
  · next cancelled =>
    cases placed
    rw [placedAs, if_neg fun counted => counted.2 cancelled]
    exact ⟨rfl, fun counted => absurd cancelled counted.2⟩
  next calculable open_ =>
  split at placed
  · cases placed
  · next authority named =>
    simp only [except_ok] at placed
    obtain ⟨-, placed⟩ := placed
    cases placed
    rw [placedAs, if_pos ⟨not_not.mp calculable, open_⟩, named]
    exact ⟨rfl, fun _ => rfl⟩

theorem values_addMembers (members : List CanonicalCohortMember) (groups : Groups) :
    (values (members.foldl addMember groups)).Perm (values groups ++ members) := by
  induction members generalizing groups with
  | nil => simp
  | cons member members ih =>
    refine (ih _).trans (((values_append _ _ _).append_right members).trans ?_)
    exact List.perm_middle.symm

theorem calculate_input {reader : SlaReader} (read : reader.tickets.get python srId = .ok slaInput)
    (asOfUtc : Nat) :
    calculate python reader srId asOfUtc (some slaInput) =
      calculate python reader srId asOfUtc none := by
  have same : inputFor python reader srId (some slaInput) = inputFor python reader srId none := by
    rw [inputFor, inputFor, read, ensure, if_pos (SourceRows.get_ok read).2]
    rfl
  rw [calculate, calculate, same]

/-- The loop over the inputs places what each Service Request comes to by itself. -/
theorem placeItems_ok (read : SourceRows.InputsOf request.python request.reader.tickets ids inputs)
    (coherent : Coherent request.reader.sla before)
    (placed : (inputs.foldlM (placeItem request bounds) groups).run before = .ok (next, after)) :
    ∃ individuals, List.Forall₂ (fun id individual => individualOf request id = .ok individual ∧
        (Counted individual → individual.authority?.isSome = true)) ids individuals ∧
      (values next).Perm (values groups ++
        individuals.flatMap (placedAs request.calendarMonth)) := by
  induction read generalizing groups before with
  | nil =>
    rw [List.foldlM_nil, pure_ok] at placed
    obtain ⟨rfl, -⟩ := placed
    exact ⟨[], .nil, by simp⟩
  | @cons id slaInput ids inputs found _ ih =>
    rw [List.foldlM_cons] at placed
    simp only [placeItem, steps_ok] at placed
    obtain ⟨_, _, ⟨individual, _, ran, held, rfl⟩, placed⟩ := placed
    rw [(SourceRows.get_ok found).2, calculate_input found] at ran
    have oblivious := (SlaQuery.mk id request.asOfUtc none).oblivious request.python request.reader
    obtain ⟨_, alone⟩ := oblivious.returned coherent (.none _) ran
    have result : individualOf request id = .ok individual := by
      rw [individualOf, SlaQuery.alone, alone]
      rfl
    obtain ⟨rfl, authority⟩ := placeIndividual_ok held
    obtain ⟨individuals, each, arranged⟩ := ih (oblivious.kept _ _ _ coherent ran) placed
    refine ⟨individual :: individuals, .cons ⟨result, authority⟩ each, arranged.trans ?_⟩
    rw [List.flatMap_cons, ← List.append_assoc]
    exact (values_addMembers _ _).append_right _

end Members

/-! ## The month -/

/-- What `calculate_month` makes of the groups its loop leaves. -/
def closeMonth (request : MonthRequest) (bounds : Int × Int)
    (placed : Groups × Option IndividualSlaReadCache) :
    Except Raised (CohortMonthProjection × Option IndividualSlaReadCache) := do
  let monthClosed : Bool := bounds.2 ≤ request.asOfUtc
  let groups := sortGroups placed.1
  let cohorts ← groups.mapM (closeCohort request monthClosed)
  return ({
    calendarMonth := request.calendarMonth
    timezone := "America/Guayaquil"
    monthStartUtc := bounds.1
    monthEndUtc := bounds.2
    asOfUtc := request.asOfUtc
    cohorts := cohorts.filterMap id
    members := (values groups).insertionSort fun left right =>
      cohortSortKey left.cohortKey ++ [left.serviceRequestId] ≤
        cohortSortKey right.cohortKey ++ [right.serviceRequestId] }, placed.2)

/-- `calculate_month` over inputs that were read before. -/
def calculateOver (request : MonthRequest) (bounds : Int × Int)
    (inputs : List ServiceRequestSlaInput) (readCache : Option IndividualSlaReadCache) :
    Except Raised (CohortMonthProjection × Option IndividualSlaReadCache) := do
  let placed ← (inputs.foldlM (placeItem request bounds) []).run (some (readCache.getD .empty))
  closeMonth request bounds placed

section Month

variable {request : MonthRequest} {bounds : Int × Int} {pages : List SlaInputPage}
  {readCache : Option IndividualSlaReadCache}

theorem walk_length (keyed : request.reader.tickets.Keyed)
    (walk : MonthWalk request bounds limit cursor pages) :
    pages.length ≤ (Paging.after (request.reader.tickets.monthOrder bounds.1 bounds.2
      request.customerScope) cursor).length + 1 := by
  induction walk with
  | last _ _ => simp
  | more read continues _ ih =>
    obtain ⟨-, -, -, next, -⟩ := SourceRows.listReportDateMonth_ok.mp read
    rw [continues] at next
    obtain ⟨inside, split⟩ := Paging.page_continues (SourceRows.monthOrder_increasing keyed)
      next.symm
    have page := List.length_pos_of_mem inside
    rw [split, List.length_append, List.length_cons]
    omega

/-- A walk at any page size reads the inputs a walk at the fixed size reads. -/
theorem walk_resized (keyed : request.reader.tickets.Keyed)
    (walk : MonthWalk request bounds limit none pages) :
    ∃ fixed, MonthWalk request bounds 500 none fixed ∧ walked fixed = walked pages := by
  have inputs := walk.visits keyed
  have accepted : SourceRows.PageRequest bounds.1 bounds.2 request.customerScope 500 := by
    cases walk with
    | last read _ =>
      have told := (SourceRows.listReportDateMonth_ok.mp read).1
      exact ⟨told.bounds, by decide, told.scope⟩
    | more read _ _ =>
      have told := (SourceRows.listReportDateMonth_ok.mp read).1
      exact ⟨told.bounds, by decide, told.scope⟩
  have readable : ∀ id ∈ Paging.after (request.reader.tickets.monthOrder bounds.1 bounds.2
      request.customerScope) none, ∃ slaInput,
        request.reader.tickets.get request.python id = .ok slaInput := by
    intro id inside
    obtain ⟨slaInput, -, read⟩ := image_of_mem (mapM_ok.mpr inputs) inside
    exact ⟨slaInput, read⟩
  obtain ⟨fixed, again⟩ := SourceRows.PageWalk.exists keyed accepted (by simp) readable
  refine ⟨fixed, again, ?_⟩
  have first := mapM_ok.mpr (again.visits keyed)
  rw [mapM_ok.mpr inputs] at first
  exact (Except.ok.inj first).symm

theorem calculateMonth_walk (keyed : request.reader.tickets.Keyed)
    (found : canonicalMonthBounds request.zone request.calendarMonth = .ok bounds)
    (walk : MonthWalk request bounds limit none pages) (readCache : Option IndividualSlaReadCache) :
    calculateMonth request readCache = calculateOver request bounds (walked pages) readCache := by
  obtain ⟨fixed, again, same⟩ := walk_resized keyed walk
  have short := walk_length keyed again
  rw [Paging.after_none, SourceRows.monthOrder, List.length_insertionSort] at short
  have placed : placePages request bounds (pageRounds request bounds) none [] =
      (walked fixed).foldlM (placeItem request bounds) [] := placePages_walk again short []
  rw [same] at placed
  rw [calculateMonth, found, calculateOver, ← placed]
  rfl

theorem individualOf_named {id : String} (ran : individualOf request id = .ok individual)
    (counted : Counted individual) : individual.serviceRequestId = id := by
  obtain ⟨_, ran⟩ := SlaQuery.alone_ok ran
  obtain ⟨slaInput, _, _, _, _, selected⟩ :=
    selected_of_calculable ran counted.1
  have read : request.reader.tickets.get request.python id = .ok slaInput := selected.input
  change (calculate request.python request.reader id request.asOfUtc none).run none = _ at ran
  rw [selected.run] at ran
  simp only [calculateTiers, steps_ok] at ran
  obtain ⟨_, -, _, _, -, -, _, -, _, -, rfl, -⟩ := ran
  exact (SourceRows.get_ok read).2

/-- A result that counts is placed once for each tier of its policy and severity. -/
theorem placedAs_tiers {id : String} (ran : individualOf request id = .ok individual)
    (counted : Counted individual) (named : individual.authority?.isSome = true)
    (calendarMonth : String) :
    ∃ policyRevisionId severity, individual.policyRevisionId = some policyRevisionId ∧
      individual.severity = some severity ∧
      (placedAs calendarMonth individual).map (·.cohortKey.policyTierId) =
        (request.reader.sla.tiersOf policyRevisionId severity).map (·.policyTierId) := by
  obtain ⟨_, calculated⟩ := SlaQuery.alone_ok ran
  obtain ⟨policyRevisionId, severity, _, _, _, policy, severe, -, -, -, -, verdicts⟩ :=
    tiersJudged_of_calculable calculated counted.1
  obtain ⟨authority, named⟩ := Option.isSome_iff_exists.mp named
  refine ⟨policyRevisionId, severity, policy, severe, ?_⟩
  rw [placedAs, if_pos counted, named, Option.map_some, Option.getD_some, List.map_map]
  clear policy severe named
  generalize request.reader.sla.tiersOf policyRevisionId severity = tiers at verdicts
  generalize individual.tierResults = results at verdicts
  induction verdicts with
  | nil => rfl
  | cons verdict _ ih =>
    rw [List.map_cons, List.map_cons, ih, ← verdict.policyTierId]
    rfl

theorem placedAs_named {id : String} (ran : individualOf request id = .ok individual)
    (inside : member ∈ placedAs request.calendarMonth individual) :
    member.serviceRequestId = id := by
  rw [placedAs] at inside
  split at inside
  · next counted =>
    cases named : individual.authority? with
    | none =>
      rw [named] at inside
      cases inside
    | some authority =>
      rw [named] at inside
      obtain ⟨_, -, rfl⟩ := List.mem_map.mp inside
      exact individualOf_named ran counted
  · cases inside

end Month

/-! ## Cohorts of a month -/

theorem MonthReading.cohorts_distinct (reading : MonthReading) :
    (reading.projection.cohorts.map (·.parts)).Nodup := by
  obtain ⟨groups, closed, gathered, closes, cohorts, -⟩ := reading.groups_closed
  have below : ((closed.filterMap id).map (·.parts)).Sublist (groups.map Prod.fst) := by
    have monthly := gathered.monthly
    have each := mapM_ok.mp closes
    clear gathered closes cohorts
    induction each with
    | nil => exact .slnil
    | @cons group cohort? groups closed closesTo _ ih =>
      have rest := ih fun other inside => monthly other (List.mem_cons_of_mem _ inside)
      cases cohort? with
      | none => exact rest.cons _
      | some cohort =>
        rw [List.filterMap_cons, id, List.map_cons, List.map_cons,
          (closeCohort_shows closesTo (monthly _ List.mem_cons_self)).1]
        exact rest.cons_cons _
  rw [cohorts]
  exact gathered.grouped.distinct.sublist below

/-- A Service Request is counted once for each tier of its policy and severity if its
result counts, and not at all if not. -/
def CountedByTier (request : MonthRequest) (projection : CohortMonthProjection)
    (serviceRequestId : String) : Prop :=
  let members := projection.members.filter (·.serviceRequestId = serviceRequestId)
  ∃ individual, individualOf request serviceRequestId = .ok individual ∧
    (¬ Counted individual → members = []) ∧
    (Counted individual → ∃ policyRevisionId severity,
      individual.policyRevisionId = some policyRevisionId ∧
      individual.severity = some severity ∧
      (members.map (·.cohortKey.policyTierId)).Perm
        ((request.reader.sla.tiersOf policyRevisionId severity).map (·.policyTierId)))

section Counting

variable {request : MonthRequest} {bounds : Int × Int}
  {readCache left : Option IndividualSlaReadCache} {projection : CohortMonthProjection}

theorem values_sortGroups (groups : Groups) : (values (sortGroups groups)).Perm (values groups) := by
  rw [values, sortGroups, List.flatMap_map]
  refine (List.Perm.flatMap_left _ fun group _ => ?_).trans
    ((List.perm_insertionSort _ _).flatMap_right _)
  exact List.perm_insertionSort _ _

section

variable (keyed : request.reader.tickets.Keyed) (coherent : Coherent request.reader.sla readCache)
  (found : canonicalMonthBounds request.zone request.calendarMonth = .ok bounds)
  (calculated : calculateMonth request readCache = .ok (projection, left))

include keyed coherent found calculated

/-- The members of a month are those its Service Requests are placed as. -/
theorem calculateMonth_members :
    ∃ individuals, List.Forall₂ (fun id individual => individualOf request id = .ok individual ∧
        (Counted individual → individual.authority?.isSome = true))
        (request.reader.tickets.monthOrder bounds.1 bounds.2 request.customerScope) individuals ∧
      projection.members.Perm (individuals.flatMap (placedAs request.calendarMonth)) := by
  have walk : ∃ pages, MonthWalk request bounds 500 none pages := by
    have calculated := calculated
    simp only [calculateMonth, found, except_ok] at calculated
    obtain ⟨_, same, _, placed, -⟩ := calculated
    cases same
    obtain ⟨pages, walk, -⟩ := walk_of_placePages placed
    exact ⟨pages, walk⟩
  obtain ⟨pages, walk⟩ := walk
  rw [calculateMonth_walk keyed found walk, calculateOver, except_bind_ok] at calculated
  obtain ⟨⟨groups, cache⟩, placed, calculated⟩ := calculated
  simp only [closeMonth, except_ok, Prod.mk.injEq] at calculated
  obtain ⟨_, -, rfl, -⟩ := calculated
  have warm : Coherent request.reader.sla (some (readCache.getD .empty)) := by
    cases readCache with
    | none => exact coherent_some (.empty _)
    | some cache => exact coherent
  have inputs := walk.visits keyed
  rw [Paging.after_none] at inputs
  obtain ⟨individuals, each, arranged⟩ := placeItems_ok inputs warm placed
  refine ⟨individuals, each, (List.perm_insertionSort _ _).trans ?_⟩
  exact (values_sortGroups groups).trans arranged

theorem calculateMonth_counts :
    ∀ id ∈ request.reader.tickets.monthOrder bounds.1 bounds.2 request.customerScope,
      CountedByTier request projection id := by
  intro id inside
  obtain ⟨_, each, members⟩ := calculateMonth_members keyed coherent found calculated
  have distinct : (request.reader.tickets.monthOrder bounds.1 bounds.2
      request.customerScope).Nodup := (SourceRows.monthOrder_increasing keyed).nodup
  obtain ⟨individual, ⟨ran, authority⟩, own⟩ := filter_flatMap_images each distinct
    (fun id individual held member placed => placedAs_named held.1 placed) inside
  have placed : (projection.members.filter (·.serviceRequestId = id)).Perm
      (placedAs request.calendarMonth individual) := own ▸ members.filter _
  refine ⟨individual, ran, fun uncounted => ?_, fun counted => ?_⟩
  · rw [placedAs, if_neg uncounted] at placed
    exact placed.eq_nil
  · obtain ⟨policyRevisionId, severity, policy, severe, tiers⟩ := placedAs_tiers ran counted
      (authority counted) request.calendarMonth
    exact ⟨policyRevisionId, severity, policy, severe, tiers ▸ placed.map _⟩

theorem calculateMonth_only :
    ∀ member ∈ projection.members, member.serviceRequestId ∈
      request.reader.tickets.monthOrder bounds.1 bounds.2 request.customerScope := by
  intro member inside
  obtain ⟨_, each, members⟩ := calculateMonth_members keyed coherent found calculated
  obtain ⟨_, listed, placed⟩ := List.mem_flatMap.mp (members.mem_iff.mp inside)
  obtain ⟨_, held, ran, -⟩ := exists_of_mem_images each listed
  exact placedAs_named ran placed ▸ held

end

theorem one_cohort (calculated : calculateMonth request readCache = .ok (projection, left))
    (inside : member ∈ projection.members) :
    ∃ cohort, projection.cohorts.filter (·.parts = member.cohortKey) = [cohort] ∧
      cohort.denominator = (projection.membersOf member.cohortKey).length := by
  let reading : MonthReading := ⟨request, readCache, projection, left, calculated⟩
  have inhabited : reading.membersOf member.cohortKey ≠ [] :=
    List.ne_nil_of_mem (List.mem_filter.mpr ⟨inside, decide_eq_true rfl⟩)
  obtain ⟨cohort, listed, parts⟩ := reading.cohort_of_members inhabited
  rcases filter_key reading.cohorts_distinct member.cohortKey with none | ⟨other, shown, one⟩
  · have found : cohort ∈ projection.cohorts.filter (·.parts = member.cohortKey) :=
      List.mem_filter.mpr ⟨listed, decide_eq_true parts⟩
    rw [none] at found
    cases found
  · have named : other.parts = member.cohortKey := by
      have found : other ∈ projection.cohorts.filter (·.parts = member.cohortKey) :=
        one ▸ List.mem_singleton_self _
      exact of_decide_eq_true (List.mem_filter.mp found).2
    refine ⟨other, one, ?_⟩
    rw [← named]
    exact (MonthReading.shows shown).2.denominator

end Counting

/-- **Monthly paging.** Under the keys of the tables, following the pages of a month visits
exactly the Service Requests reported in it, once each in the order of their identities,
at every limit from 1 to 500, and any other limit is refused with a `ValidationError`. The month is calculated over
what the pages of any size read, and counts each Service Request reported in it once for
each tier of its policy and severity if it is calculable and not cancelled, and not at all
if not; each member is in one cohort. -/
theorem monthly_paging_exact (request : MonthRequest) (keyed : request.reader.tickets.Keyed) :
    (∀ (monthStartUtc monthEndUtc : Int) (customerScope : Option String),
      let month := request.reader.tickets.monthOrder monthStartUtc monthEndUtc customerScope
      month.Pairwise (· < ·) ∧
      (∀ id, id ∈ month ↔
        request.reader.tickets.ReportedIn monthStartUtc monthEndUtc customerScope id) ∧
      ∀ limit,
        (¬ (1 ≤ limit ∧ limit ≤ 500) → ∀ cursor, ∃ message,
          request.reader.tickets.listReportDateMonth request.python monthStartUtc monthEndUtc
            customerScope cursor limit = .error (validationError message)) ∧
        (SourceRows.PageRequest monthStartUtc monthEndUtc customerScope limit →
          (∀ id ∈ month, ∃ slaInput, request.reader.tickets.get request.python id = .ok slaInput) →
          ∃ pages, SourceRows.PageWalk request.python request.reader.tickets monthStartUtc
            monthEndUtc customerScope limit none pages) ∧
        ∀ pages, SourceRows.PageWalk request.python request.reader.tickets monthStartUtc
            monthEndUtc customerScope limit none pages →
          SourceRows.InputsOf request.python request.reader.tickets month
            (pages.flatMap (·.items)) ∧
          ∀ page ∈ pages, page.items.length ≤ limit ∧ page.exactCount = month.length) ∧
    ∀ bounds, canonicalMonthBounds request.zone request.calendarMonth = .ok bounds →
      (∀ limit pages, MonthWalk request bounds limit none pages → ∀ readCache,
        calculateMonth request readCache = calculateOver request bounds (walked pages) readCache) ∧
      ∀ readCache projection left, Coherent request.reader.sla readCache →
        calculateMonth request readCache = .ok (projection, left) →
        (∀ id, request.reader.tickets.ReportedIn bounds.1 bounds.2 request.customerScope id →
          CountedByTier request projection id) ∧
        ∀ member ∈ projection.members,
          request.reader.tickets.ReportedIn bounds.1 bounds.2 request.customerScope
            member.serviceRequestId ∧
          ∃ cohort, projection.cohorts.filter (·.parts = member.cohortKey) = [cohort] ∧
            cohort.denominator = (projection.membersOf member.cohortKey).length := by
  constructor
  · intro monthStartUtc monthEndUtc customerScope month
    refine ⟨SourceRows.monthOrder_increasing keyed, fun id => SourceRows.mem_monthOrder,
      fun limit => ⟨?_, ?_, ?_⟩⟩
    · exact fun outside cursor => SourceRows.listReportDateMonth_limit outside
    · intro accepted readable
      refine SourceRows.PageWalk.exists keyed accepted (by simp) ?_
      rw [Paging.after_none]
      exact readable
    · intro pages walk
      have visited := walk.visits keyed
      rw [Paging.after_none] at visited
      exact ⟨visited, walk.bounded⟩
  · intro bounds found
    refine ⟨fun limit pages walk readCache => calculateMonth_walk keyed found walk readCache, ?_⟩
    intro readCache projection left coherent calculated
    refine ⟨fun id reported => ?_, fun member inside => ⟨?_, one_cohort calculated inside⟩⟩
    · exact calculateMonth_counts keyed coherent found calculated id
        (SourceRows.mem_monthOrder.mpr reported)
    · exact SourceRows.mem_monthOrder.mp
        (calculateMonth_only keyed coherent found calculated member inside)

/-- The tables of the sample month, in which two Service Requests are reported. -/
def resolvedTickets : SourceRows :=
  sampleTickets "Resolved" 1770010800

/-- Pages of 501 rows are refused, so none are followed to the reported Service Request. -/
theorem pages_above_limit_refused :
    resolvedTickets.ReportedIn 1769922000 1772341200 none
      "00000000-0000-4000-8000-000000000001" ∧
    resolvedTickets.listReportDateMonth plainPython 1769922000 1772341200 none none 501 =
      .error (validationError "SLA input page limit must be between 1 and 500") ∧
    ¬ ∃ pages, SourceRows.PageWalk plainPython resolvedTickets 1769922000 1772341200 none 501
      none pages := by
  have refused : resolvedTickets.listReportDateMonth plainPython 1769922000 1772341200 none none
      501 = .error (validationError "SLA input page limit must be between 1 and 500") := by
    decide +kernel
  refine ⟨SourceRows.mem_monthOrder.mp (by decide +kernel), refused, ?_⟩
  rintro ⟨pages, walk⟩
  cases walk with
  | last read _ => cases refused.symm.trans read
  | more read _ _ => cases refused.symm.trans read

/-- The Service Requests of the sample month are read one to a page, and counted for their one
tier. -/
theorem overdue_counted :
    (∃ pages, SourceRows.PageWalk overdueRequest.python overdueRequest.reader.tickets 1769922000
        1772341200 none 1 none pages ∧
      ∀ page ∈ pages, page.items.length ≤ 1 ∧ page.exactCount = 2) ∧
    ∃ projection left, calculateMonth overdueRequest none = .ok (projection, left) ∧
      ∀ id ∈ [slaId "001", slaId "002"], CountedByTier overdueRequest projection id := by
  have keyed : overdueRequest.reader.tickets.Keyed :=
    ⟨by decide +kernel, by decide +kernel, by decide +kernel⟩
  have month : overdueRequest.reader.tickets.monthOrder 1769922000 1772341200 none =
      [slaId "001", slaId "002"] := by decide +kernel
  obtain ⟨paging, counting⟩ := monthly_paging_exact overdueRequest keyed
  constructor
  · obtain ⟨-, -, limits⟩ := paging 1769922000 1772341200 none
    have readable : ∀ id ∈ overdueRequest.reader.tickets.monthOrder 1769922000 1772341200 none,
        ∃ slaInput, overdueRequest.reader.tickets.get overdueRequest.python id = .ok slaInput := by
      have read : ∀ id ∈ [slaId "001", slaId "002"],
          ((overdueRequest.reader.tickets.get overdueRequest.python id).toOption).isSome := by
        decide +kernel
      rw [month]
      intro id inside
      obtain ⟨slaInput, ran⟩ := Option.isSome_iff_exists.mp (read id inside)
      exact ⟨slaInput, ok_of_toOption ran⟩
    obtain ⟨pages, walk⟩ := (limits 1).2.1 ⟨by decide, by decide, nofun⟩ readable
    refine ⟨pages, walk, fun page inside => ?_⟩
    have bounded := ((limits 1).2.2 pages walk).2 page inside
    rw [month] at bounded
    exact bounded
  · have calculated := MonthReading.of_calculated sample_months.fst
    have account := (counting (1769922000, 1772341200) (by decide)).2 none _ _ (.none _) calculated
    refine ⟨_, _, calculated, fun id inside => account.1 id ?_⟩
    rw [← SourceRows.mem_monthOrder]
    exact month ▸ inside

end Soma.ProductLineSla
