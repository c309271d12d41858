import Mathlib.Data.String.Basic
import Soma.Theory.Paging
import Soma.Theory.Rows
import Soma.Tickets.SlaInputs

/-!
The pages of `list_report_date_month`. A page continues behind the identity of its last
Service Request, and no two rows of the month share one, so following the pages visits the
Service Requests of the month once each, in the order of their identities, whatever the
size of a page.
-/

namespace Soma.Tickets

open Foundation Transaction Rows

namespace SourceRows

/-! ## The Service Requests of a month -/

/-- The primary keys of the two source tables, and the unique index on active Customers. -/
structure Keyed (rows : SourceRows) : Prop where
  projections : (rows.projections.map (·.serviceRequestId)).Nodup
  observations : (rows.observations.map (·.srSourceFieldObservationId)).Nodup
  activeCustomers : (rows.activeCustomers.map (·.serviceRequestId)).Nodup

/-- The current Report Date of the Service Request is in the month, and its active Customer
is the one asked for, if one is. -/
def ReportedIn (rows : SourceRows) (monthStartUtc monthEndUtc : Int)
    (customerScope : Option String) (serviceRequestId : String) : Prop :=
  ∃ projection ∈ rows.projections, projection.serviceRequestId = serviceRequestId ∧
    (∃ row ∈ rows.observations,
      some row.srSourceFieldObservationId = projection.reportDateObservationId ∧
        row.fieldKey = .reportDate ∧
        ∃ value, row.value = .instant value ∧ monthStartUtc ≤ value ∧ value < monthEndUtc) ∧
    ∀ wanted, customerScope = some wanted → ∃ customer ∈ rows.activeCustomers,
      customer.serviceRequestId = serviceRequestId ∧ customer.customerOrgId = wanted

/-- The Service Requests of the month in the order of their identities. -/
def monthOrder (rows : SourceRows) (monthStartUtc monthEndUtc : Int)
    (customerScope : Option String) : List String :=
  (rows.monthRows monthStartUtc monthEndUtc customerScope).insertionSort (· ≤ ·)

section Months

variable {rows : SourceRows} {monthStartUtc monthEndUtc : Int} {customerScope : Option String}

/-- The rows the active Customers of a Service Request make of it. -/
def scopedRows (customerScope : Option String) (serviceRequestId : String) :
    List ActiveCustomer → List String
  | [] => if customerScope = none then [serviceRequestId] else []
  | customer :: customers => ((customer :: customers).filter fun customer =>
      customerScope.all (· = customer.customerOrgId)).map fun _ => serviceRequestId

theorem monthRows_eq : rows.monthRows monthStartUtc monthEndUtc customerScope =
    rows.projections.flatMap fun projection =>
      (rows.observations.filter fun row =>
        some row.srSourceFieldObservationId = projection.reportDateObservationId ∧
          row.fieldKey = .reportDate ∧
          row.value.instant?.any fun value =>
            monthStartUtc ≤ value ∧ value < monthEndUtc).flatMap fun _ =>
        scopedRows customerScope projection.serviceRequestId (rows.activeCustomers.filter
          (·.serviceRequestId = projection.serviceRequestId)) := by
  refine congrArg (List.flatMap · rows.projections) (funext fun projection => ?_)
  refine congrArg (List.flatMap · _) (funext fun _ => ?_)
  cases rows.activeCustomers.filter (·.serviceRequestId = projection.serviceRequestId) <;> rfl

theorem mem_scopedRows :
    serviceRequestId ∈ scopedRows customerScope named customers ↔
      named = serviceRequestId ∧ ∀ wanted, customerScope = some wanted →
        ∃ customer ∈ customers, customer.customerOrgId = wanted := by
  cases customers with
  | nil => cases customerScope <;> simp [scopedRows, eq_comm]
  | cons customer customers =>
    cases customerScope with
    | none => simp [scopedRows, eq_comm]
    | some wanted =>
      simp only [scopedRows, List.mem_map, List.mem_filter, Option.all_some, decide_eq_true_eq,
        Option.some.injEq, forall_eq']
      constructor
      · rintro ⟨found, ⟨inside, scope⟩, rfl⟩
        exact ⟨rfl, found, inside, scope.symm⟩
      · rintro ⟨rfl, found, inside, scope⟩
        exact ⟨found, ⟨inside, scope.symm⟩, rfl⟩

theorem scopedRows_sublist (named : String)
    (single : customers = [] ∨ ∃ customer, customers = [customer]) :
    (scopedRows customerScope named customers).Sublist [named] := by
  rcases single with rfl | ⟨customer, rfl⟩
  · rw [scopedRows]
    split
    · exact .refl _
    · exact List.nil_sublist _
  · exact List.filter_sublist.map fun _ => named

theorem mem_monthOrder :
    serviceRequestId ∈ rows.monthOrder monthStartUtc monthEndUtc customerScope ↔
      rows.ReportedIn monthStartUtc monthEndUtc customerScope serviceRequestId := by
  have instant : ∀ value : SourceValue, (value.instant?.any fun value =>
      monthStartUtc ≤ value ∧ value < monthEndUtc) = true ↔
        ∃ instant, value = .instant instant ∧ monthStartUtc ≤ instant ∧ instant < monthEndUtc := by
    intro value
    cases value <;> simp [SourceValue.instant?]
  rw [monthOrder, List.mem_insertionSort, monthRows_eq]
  simp only [List.mem_flatMap, List.mem_filter, mem_scopedRows, decide_eq_true_eq, ReportedIn,
    instant]
  constructor
  · rintro ⟨projection, inside, row, ⟨held, dated⟩, rfl, scope⟩
    refine ⟨projection, inside, rfl, ⟨row, held, dated⟩, fun wanted asked => ?_⟩
    obtain ⟨customer, ⟨listed, named⟩, matches_⟩ := scope wanted asked
    exact ⟨customer, listed, named, matches_⟩
  · rintro ⟨projection, inside, rfl, ⟨row, held, dated⟩, scope⟩
    refine ⟨projection, inside, row, ⟨held, dated⟩, rfl, fun wanted asked => ?_⟩
    obtain ⟨customer, listed, named, matches_⟩ := scope wanted asked
    exact ⟨customer, ⟨listed, named⟩, matches_⟩

theorem monthRows_nodup (keyed : rows.Keyed) :
    (rows.monthRows monthStartUtc monthEndUtc customerScope).Nodup := by
  rw [monthRows_eq, ← List.map_id (List.flatMap _ _)]
  refine nodup_flatMap keyed.projections fun projection _ => ?_
  rw [List.map_id]
  have customers := filter_key keyed.activeCustomers projection.serviceRequestId
  have scope : (scopedRows customerScope projection.serviceRequestId (rows.activeCustomers.filter
      (·.serviceRequestId = projection.serviceRequestId))).Sublist [projection.serviceRequestId] :=
    scopedRows_sublist _ (customers.imp_right fun ⟨customer, _, one⟩ => ⟨customer, one⟩)
  cases pointer : projection.reportDateObservationId with
  | none => simp
  | some observationId =>
    have single : ∀ row ∈ rows.observations, decide (some row.srSourceFieldObservationId =
        some observationId ∧ row.fieldKey = .reportDate ∧ (row.value.instant?.any fun value =>
          monthStartUtc ≤ value ∧ value < monthEndUtc) = true) = true →
        row.srSourceFieldObservationId = observationId :=
      fun row _ selects => Option.some.inj (of_decide_eq_true selects).1
    rcases filter_keyed keyed.observations single with none | ⟨row, one⟩
    · rw [none]
      exact List.nil_sublist _
    · rw [one, List.flatMap_singleton]
      exact scope

theorem monthOrder_increasing (keyed : rows.Keyed) :
    (rows.monthOrder monthStartUtc monthEndUtc customerScope).Pairwise (· < ·) := by
  have sorted := List.pairwise_insertionSort (· ≤ ·)
    (rows.monthRows monthStartUtc monthEndUtc customerScope)
  have distinct : (rows.monthOrder monthStartUtc monthEndUtc customerScope).Nodup :=
    (List.perm_insertionSort _ _).nodup_iff.mpr (monthRows_nodup keyed)
  exact (sorted.and distinct).imp fun ⟨le, ne⟩ => lt_of_le_of_ne le ne

theorem sort_after (cursor : Option String) :
    ((rows.monthRows monthStartUtc monthEndUtc customerScope).filter fun id =>
        cursor.all (· < id)).insertionSort (· ≤ ·) =
      Paging.after (rows.monthOrder monthStartUtc monthEndUtc customerScope) cursor := by
  refine List.Perm.eq_of_pairwise (fun _ _ _ _ => le_antisymm) (List.pairwise_insertionSort _ _)
    ((List.pairwise_insertionSort (· ≤ ·) _).filter _) ?_
  exact (List.perm_insertionSort _ _).trans ((List.perm_insertionSort _ _).symm.filter _)

end Months

/-! ## Pages -/

/-- The pages one reads by following `next_cursor`. -/
inductive PageWalk (python : PythonLibrary) (rows : SourceRows) (monthStartUtc monthEndUtc : Int)
    (customerScope : Option String) (limit : Nat) : Option String → List SlaInputPage → Prop
  | last {cursor : Option String} {page : SlaInputPage}
      (read : rows.listReportDateMonth python monthStartUtc monthEndUtc customerScope cursor limit =
        .ok page) (done : page.nextCursor = none) :
      PageWalk python rows monthStartUtc monthEndUtc customerScope limit cursor [page]
  | more {cursor : Option String} {page : SlaInputPage} {next : String} {pages : List SlaInputPage}
      (read : rows.listReportDateMonth python monthStartUtc monthEndUtc customerScope cursor limit =
        .ok page) (continues : page.nextCursor = some next)
      (rest : PageWalk python rows monthStartUtc monthEndUtc customerScope limit (some next) pages) :
      PageWalk python rows monthStartUtc monthEndUtc customerScope limit cursor (page :: pages)

/-- The inputs are those of the Service Requests, in order. -/
abbrev InputsOf (python : PythonLibrary) (rows : SourceRows) :
    List String → List ServiceRequestSlaInput → Prop :=
  List.Forall₂ fun serviceRequestId slaInput => rows.get python serviceRequestId = .ok slaInput

section Pages

variable {python : PythonLibrary} {rows : SourceRows} {monthStartUtc monthEndUtc : Int}
  {customerScope cursor : Option String} {limit : Nat} {page : SlaInputPage}
  {pages : List SlaInputPage}

/-- The input of a Service Request is about it, and its identity is canonical. -/
theorem get_ok (read : rows.get python serviceRequestId = .ok slaInput) :
    isUuid4 serviceRequestId = true ∧ slaInput.serviceRequestId = serviceRequestId := by
  simp only [SourceRows.get, requireUuid4, except_ok] at read
  obtain ⟨canonical, read⟩ := read
  refine ⟨canonical, ?_⟩
  split at read
  · cases read
  · simp only [except_ok] at read
    obtain ⟨_, -, _, -, _, -, _, -, read⟩ := read
    split at read
    · split at read
      all_goals
        simp only [except_ok] at read
        obtain ⟨_, -, _, -, returned⟩ := read
        cases returned
        rfl
    · simp only [except_ok] at read
      obtain ⟨_, -, _, -, returned⟩ := read
      cases returned
      rfl

/-- The arguments `list_report_date_month` accepts. -/
structure PageRequest (monthStartUtc monthEndUtc : Int) (customerScope : Option String)
    (limit : Nat) : Prop where
  bounds : 0 ≤ monthStartUtc ∧ monthStartUtc < monthEndUtc
  limit : 1 ≤ limit ∧ limit ≤ 500
  scope : ∀ wanted, customerScope = some wanted → isUuid4 wanted = true

theorem forM_requireUuid4 {text? : Option String} {value : Unit} :
    text?.forM requireUuid4 = .ok value ↔ ∀ text, text? = some text → isUuid4 text = true := by
  cases text? with
  | none => simp [pure, Except.pure]
  | some text => simp [requireUuid4]

/-- What a page shows: the inputs of the rows it takes after its cursor. -/
theorem listReportDateMonth_limit (outside : ¬ (1 ≤ limit ∧ limit ≤ 500)) :
    ∃ message, rows.listReportDateMonth python monthStartUtc monthEndUtc customerScope cursor limit =
      .error (validationError message) := by
  rw [SourceRows.listReportDateMonth]
  by_cases bounds : 0 ≤ monthStartUtc ∧ monthStartUtc < monthEndUtc
  · rw [ensure, ensure, if_pos bounds, if_neg outside]
    exact ⟨_, rfl⟩
  · rw [ensure, if_neg bounds]
    exact ⟨_, rfl⟩

theorem listReportDateMonth_ok :
    rows.listReportDateMonth python monthStartUtc monthEndUtc customerScope cursor limit =
        .ok page ↔
      PageRequest monthStartUtc monthEndUtc customerScope limit ∧
      (∀ id, cursor = some id → isUuid4 id = true) ∧
      InputsOf python rows (Paging.page (rows.monthOrder monthStartUtc monthEndUtc customerScope)
        cursor limit) page.items ∧
      page.nextCursor = Paging.nextCursor (rows.monthOrder monthStartUtc monthEndUtc customerScope)
        cursor limit ∧
      page.exactCount = (rows.monthOrder monthStartUtc monthEndUtc customerScope).length := by
  simp only [SourceRows.listReportDateMonth, except_bind_ok, ensure_ok, forM_requireUuid4,
    sort_after, mapM_ok]
  constructor
  · rintro ⟨_, bounds, _, size, _, scope, _, canonical, items, read, returned⟩
    cases returned
    refine ⟨⟨bounds, size, scope⟩, canonical, read, rfl, ?_⟩
    exact (List.length_insertionSort _ _).symm
  · rintro ⟨⟨bounds, size, scope⟩, canonical, read, next, count⟩
    refine ⟨(), bounds, (), size, (), scope, (), canonical, page.items, read, ?_⟩
    rw [monthOrder, List.length_insertionSort] at count
    obtain ⟨items, nextCursor, exactCount⟩ := page
    cases next
    cases count
    rfl

theorem PageWalk.visits (keyed : rows.Keyed)
    (walk : PageWalk python rows monthStartUtc monthEndUtc customerScope limit cursor pages) :
    InputsOf python rows
      (Paging.after (rows.monthOrder monthStartUtc monthEndUtc customerScope) cursor)
      (pages.flatMap (·.items)) := by
  induction walk with
  | last read done =>
    obtain ⟨accepted, -, inputs, next, -⟩ := listReportDateMonth_ok.mp read
    rw [done] at next
    rw [List.flatMap_singleton, ← Paging.page_last next.symm accepted.limit.1]
    exact inputs
  | more read continues _ ih =>
    obtain ⟨-, -, inputs, next, -⟩ := listReportDateMonth_ok.mp read
    rw [continues] at next
    rw [List.flatMap_cons, (Paging.page_continues (monthOrder_increasing keyed) next.symm).2]
    exact List.rel_append inputs ih

theorem PageWalk.bounded
    (walk : PageWalk python rows monthStartUtc monthEndUtc customerScope limit cursor pages) :
    ∀ page ∈ pages, page.items.length ≤ limit ∧
      page.exactCount = (rows.monthOrder monthStartUtc monthEndUtc customerScope).length := by
  have single : ∀ {cursor : Option String} {page : SlaInputPage},
      rows.listReportDateMonth python monthStartUtc monthEndUtc customerScope cursor limit =
        .ok page → page.items.length ≤ limit ∧
          page.exactCount = (rows.monthOrder monthStartUtc monthEndUtc customerScope).length := by
    intro cursor page read
    obtain ⟨-, -, inputs, -, count⟩ := listReportDateMonth_ok.mp read
    exact ⟨inputs.length_eq ▸ Paging.page_length_le _ _ _, count⟩
  induction walk with
  | last read _ => exact List.forall_mem_singleton.mpr (single read)
  | more read _ _ ih => exact List.forall_mem_cons.mpr ⟨single read, ih⟩

/-- The pages can be followed to the end when every Service Request after the cursor can be
read. -/
theorem PageWalk.exists (keyed : rows.Keyed)
    (accepted : PageRequest monthStartUtc monthEndUtc customerScope limit)
    (canonical : ∀ id, cursor = some id → isUuid4 id = true)
    (readable : ∀ id ∈ Paging.after (rows.monthOrder monthStartUtc monthEndUtc customerScope)
      cursor, ∃ slaInput, rows.get python id = .ok slaInput) :
    ∃ pages, PageWalk python rows monthStartUtc monthEndUtc customerScope limit cursor pages := by
  induction remaining : (Paging.after (rows.monthOrder monthStartUtc monthEndUtc customerScope)
      cursor).length using Nat.strong_induction_on generalizing cursor with
  | h remaining ih =>
    subst remaining
    have onPage : ∀ id ∈ Paging.page (rows.monthOrder monthStartUtc monthEndUtc customerScope)
        cursor limit, ∃ slaInput, rows.get python id = .ok slaInput := by
      intro id inside
      rw [Paging.page_eq] at inside
      exact readable id (List.mem_of_mem_take inside)
    obtain ⟨items, visited⟩ := mapM_succeeds onPage
    have inputs := mapM_ok.mp visited
    have read : rows.listReportDateMonth python monthStartUtc monthEndUtc customerScope cursor
        limit = .ok ⟨items, Paging.nextCursor
          (rows.monthOrder monthStartUtc monthEndUtc customerScope) cursor limit,
          (rows.monthOrder monthStartUtc monthEndUtc customerScope).length⟩ :=
      listReportDateMonth_ok.mpr ⟨accepted, canonical, inputs, rfl, rfl⟩
    cases next : Paging.nextCursor (rows.monthOrder monthStartUtc monthEndUtc customerScope)
        cursor limit with
    | none => exact ⟨_, .last read next⟩
    | some id =>
      obtain ⟨inside, split⟩ := Paging.page_continues (monthOrder_increasing keyed) next
      have shorter : (Paging.after (rows.monthOrder monthStartUtc monthEndUtc customerScope)
          (some id)).length < (Paging.after (rows.monthOrder monthStartUtc monthEndUtc
            customerScope) cursor).length := by
        rw [split, List.length_append]
        have page := List.length_pos_of_mem inside
        omega
      obtain ⟨slaInput, told⟩ := onPage id inside
      obtain ⟨pages, rest⟩ := ih _ shorter
        (fun other same => Option.some.inj same ▸ (get_ok told).1)
        (fun other later => readable other (split ▸ List.mem_append_right _ later)) rfl
      exact ⟨_, .more read next rest⟩

end Pages

end SourceRows

end Soma.Tickets
