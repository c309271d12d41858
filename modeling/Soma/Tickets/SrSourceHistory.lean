import Mathlib.Data.List.Find
import Soma.Theory.Register
import Soma.Theory.Rows
import Soma.Tickets.SrSourceProjection

/-!
What the Service Request source projection holds after any sequence of accepted
delta sets. Each field is a register: its recorded observations are the changes
among the deltas offered, and the projection points at the last of them. A delta
that repeats the current value is not recorded, so its chronology is forgotten
and a later change is only compared with the last change.
-/

namespace Soma.Tickets

open Foundation Transaction Register

/-! ## Fields and columns -/

variable {column : ProjectionColumn} {kind : DeltaValueKind} {key : String}

theorem mem_of_spec (spec : fieldSpecs.lookup key = some (kind, column)) :
    (key, kind, column) ∈ fieldSpecs := by
  obtain ⟨_, _, same, -⟩ := List.lookup_eq_some_iff.mp spec
  rw [same]
  exact List.mem_append_cons_self

theorem same_field (spec : fieldSpecs.lookup key = some (kind, column))
    (otherSpec : fieldSpecs.lookup other = some (otherKind, column)) : key = other := by
  have apart : ∀ first ∈ fieldSpecs, ∀ second ∈ fieldSpecs,
      first.2.2 = second.2.2 → first.1 = second.1 := by decide
  exact apart _ (mem_of_spec spec) _ (mem_of_spec otherSpec) rfl

/-! ## What a planned set of deltas does to one field -/

/-- What `_validate_delta_shape` leaves of a delta for a column. -/
structure ShapedDelta (delta : AcceptedSrFieldDelta) (column : ProjectionColumn) : Prop where
  spec : fieldSpecs.lookup delta.fieldKey = some (delta.valueKind, column)
  basis : delta.precedenceBasis = .sourceChronology ∨ delta.precedenceBasis = .reviewedCorrection
  value : validateDeltaValue delta = .ok ()

variable {delta : AcceptedSrFieldDelta}

theorem validateDeltaShape_ok (ran : validateDeltaShape delta = .ok (kind, column)) :
    ShapedDelta delta column := by
  rw [validateDeltaShape] at ran
  split at ran
  · cases ran
  · rename_i expected found spec
    simp only [except_ok] at ran
    obtain ⟨same, basis, -, -, -, value, ends⟩ := ran
    cases ends
    exact ⟨by rw [spec, same], basis, value⟩

theorem observationRow_value (call : SrSourceCall) (change : PlannedChange)
    (shaped : ShapedDelta change.delta column) :
    (observationRow call change).value = change.delta.value := by
  have value := shaped.value
  unfold validateDeltaValue at value
  split at value
  · simp only [ensure_ok] at value
    obtain ⟨-, kind, none⟩ := value
    simp [observationRow, SrFieldObservationRow.value, kind, none]
  · have known : change.delta.valueKind ∈ fieldSpecs.map (·.2.1) :=
      List.mem_map.mpr ⟨_, mem_of_spec shaped.spec, rfl⟩
    cases kind : change.delta.valueKind <;> cases held : change.delta.value <;>
      simp_all [observationRow, SrFieldObservationRow.value, fieldSpecs]
  · cases value

/-- What the plan found about a delta that repeats the current value. -/
structure RepeatedDelta (rows : SrSourceRows) (call : SrSourceCall) (delta : AcceptedSrFieldDelta)
    (column : ProjectionColumn) : Prop where
  shaped : ShapedDelta delta column
  repeats : ∃ current, currentObservation rows call.serviceRequestId column = .ok (some current) ∧
    SameValue current delta

/-- What the plan found about a delta that changes the current value. -/
structure ChangedDelta (rows : SrSourceRows) (call : SrSourceCall) (delta : AcceptedSrFieldDelta)
    (column : ProjectionColumn) : Prop where
  shaped : ShapedDelta delta column
  changes : ∃ current, currentObservation rows call.serviceRequestId column = .ok current ∧
    ∀ row ∈ current, ¬ SameValue row delta ∧ validatePrecedence row delta = .ok ()

/-- The deltas of a call with the changes planned for them: at most one delta a field. -/
inductive Plan (rows : SrSourceRows) (call : SrSourceCall) :
    List AcceptedSrFieldDelta → List PlannedChange → Prop where
  | done : Plan rows call [] []
  | repeats {delta : AcceptedSrFieldDelta} {rest : List AcceptedSrFieldDelta}
      {planned : List PlannedChange} {column : ProjectionColumn} :
      RepeatedDelta rows call delta column → (∀ other ∈ rest, other.fieldKey ≠ delta.fieldKey) →
        Plan rows call rest planned → Plan rows call (delta :: rest) planned
  | changes {delta : AcceptedSrFieldDelta} {rest : List AcceptedSrFieldDelta}
      {planned : List PlannedChange} {column : ProjectionColumn} (observationId : String) :
      ChangedDelta rows call delta column → (∀ other ∈ rest, other.fieldKey ≠ delta.fieldKey) →
        Plan rows call rest planned →
          Plan rows call (delta :: rest) (⟨delta, column, observationId⟩ :: planned)

variable {rows next : SrSourceRows} {call : SrSourceCall}

theorem reviewDelta_ok (ran : reviewDelta rows call seen delta = .ok reviewed) :
    delta.fieldKey ∉ seen ∧
      ((reviewed = none ∧ ∃ column, RepeatedDelta rows call delta column) ∨
        ∃ column, reviewed = some column ∧ ChangedDelta rows call delta column) := by
  simp only [reviewDelta, except_ok] at ran
  obtain ⟨⟨_, column⟩, shape, fresh, _, -, -, current, found, ends⟩ := ran
  have shaped := validateDeltaShape_ok shape
  refine ⟨fresh, ?_⟩
  cases current with
  | none =>
    cases ends
    exact .inr ⟨column, rfl, shaped, none, found, by simp⟩
  | some current =>
    by_cases same : SameValue current delta
    · simp only [same, if_true] at ends
      cases ends
      exact .inl ⟨rfl, column, shaped, current, found, same⟩
    · simp only [same, if_false, except_ok] at ends
      obtain ⟨precedes, ends⟩ := ends
      cases ends
      refine .inr ⟨column, rfl, shaped, some current, found, ?_⟩
      intro row held
      cases held
      exact ⟨same, precedes⟩

variable {planned : List PlannedChange} {deltas : List AcceptedSrFieldDelta}

theorem planChanges_ok (ran : planChanges rows call seen drawn deltas = .ok planned) :
    Plan rows call deltas planned ∧ ∀ delta ∈ deltas, delta.fieldKey ∉ seen := by
  induction deltas generalizing seen drawn planned with
  | nil =>
    cases ran
    exact ⟨.done, by simp⟩
  | cons delta rest ih =>
    simp only [planChanges, except_ok] at ran
    obtain ⟨_, review, ran⟩ := ran
    obtain ⟨fresh, found⟩ := reviewDelta_ok review
    have apart {planned : List PlannedChange} {drawn : Nat}
        (ran : planChanges rows call (seen ++ [delta.fieldKey]) drawn rest = .ok planned) :
        Plan rows call rest planned ∧ (∀ other ∈ rest, other.fieldKey ≠ delta.fieldKey) ∧
          ∀ other ∈ delta :: rest, other.fieldKey ∉ seen := by
      obtain ⟨plan, unseen⟩ := ih ran
      refine ⟨plan, fun other inside same => unseen other inside (by simp [same]), ?_⟩
      intro other inside
      rcases List.mem_cons.mp inside with rfl | inside
      · exact fresh
      · exact fun before => unseen other inside (List.mem_append_left _ before)
    rcases found with ⟨rfl, column, repeated⟩ | ⟨column, rfl, changed⟩
    · obtain ⟨plan, others, unseen⟩ := apart ran
      exact ⟨.repeats repeated others plan, unseen⟩
    · simp only [except_ok] at ran
      obtain ⟨changes, ran, ends⟩ := ran
      cases ends
      obtain ⟨plan, others, unseen⟩ := apart ran
      exact ⟨.changes _ changed others plan, unseen⟩

/-- The part of a plan about one column: no delta, one that repeats the current
value, or one that changes it. -/
inductive FieldPlan (rows : SrSourceRows) (call : SrSourceCall) (column : ProjectionColumn) :
    List AcceptedSrFieldDelta → List PlannedChange → Prop where
  | absent : FieldPlan rows call column [] []
  | repeats {delta : AcceptedSrFieldDelta} : RepeatedDelta rows call delta column →
      FieldPlan rows call column [delta] []
  | changes {delta : AcceptedSrFieldDelta} (observationId : String) :
      ChangedDelta rows call delta column →
        FieldPlan rows call column [delta] [⟨delta, column, observationId⟩]

theorem Plan.known (plan : Plan rows call deltas planned) : ∀ change ∈ planned,
      change.delta ∈ deltas ∧ ShapedDelta change.delta change.projectionColumn := by
  induction plan with
  | done => simp
  | repeats _ _ _ ih =>
    intro change inside
    exact ⟨List.mem_cons_of_mem _ (ih change inside).1, (ih change inside).2⟩
  | changes observationId changed _ _ ih =>
    intro change inside
    rcases List.mem_cons.mp inside with rfl | inside
    · exact ⟨List.mem_cons_self, changed.shaped⟩
    · exact ⟨List.mem_cons_of_mem _ (ih change inside).1, (ih change inside).2⟩

theorem Plan.field (plan : Plan rows call deltas planned)
    (spec : fieldSpecs.lookup key = some (kind, column)) :
    FieldPlan rows call column (deltas.filter (·.fieldKey = key))
      (planned.filter (·.projectionColumn = column)) := by
  -- A delta of the field is the only one, so nothing of the rest concerns the column.
  have alone {delta : AcceptedSrFieldDelta} {rest : List AcceptedSrFieldDelta}
      {planned : List PlannedChange} (own : delta.fieldKey = key)
      (others : ∀ other ∈ rest, other.fieldKey ≠ delta.fieldKey)
      (plan : Plan rows call rest planned) :
      rest.filter (·.fieldKey = key) = [] ∧ planned.filter (·.projectionColumn = column) = [] := by
    refine ⟨List.filter_eq_nil_iff.mpr fun other inside => ?_,
      List.filter_eq_nil_iff.mpr fun change inside => ?_⟩
    · simpa [own] using others other inside
    · obtain ⟨member, shaped⟩ := plan.known change inside
      simp only [decide_eq_true_eq]
      rintro rfl
      exact others _ member ((same_field shaped.spec spec).trans own.symm)
  induction plan with
  | done => exact .absent
  | @repeats delta rest planned found repeated others plan ih =>
    by_cases own : delta.fieldKey = key
    · obtain ⟨noDelta, noChange⟩ := alone own others plan
      have column_eq : found = column := by
        have same := repeated.shaped.spec
        rw [own, spec] at same
        cases same
        rfl
      subst column_eq
      rw [List.filter_cons_of_pos (by simpa using own), noDelta, noChange]
      exact .repeats repeated
    · rw [List.filter_cons_of_neg (by simpa using own)]
      exact ih
  | @changes delta rest planned found observationId changed others plan ih =>
    by_cases own : delta.fieldKey = key
    · obtain ⟨noDelta, noChange⟩ := alone own others plan
      have column_eq : found = column := by
        have same := changed.shaped.spec
        rw [own, spec] at same
        cases same
        rfl
      subst column_eq
      rw [List.filter_cons_of_pos (by simpa using own), List.filter_cons_of_pos (by simp),
        noDelta, noChange]
      exact .changes observationId changed
    · have apart : found ≠ column := by
        rintro rfl
        exact own (same_field changed.shaped.spec spec)
      rw [List.filter_cons_of_neg (by simpa using own), List.filter_cons_of_neg (by simpa using apart)]
      exact ih

/-! ## What a call writes -/

/-- The observations recorded of a field, in the order they were recorded. -/
def SrSourceRows.recorded (rows : SrSourceRows) (serviceRequestId fieldKey : String) :
    List SrFieldObservationRow :=
  rows.observations.filter fun row =>
    row.serviceRequestId = serviceRequestId ∧ row.fieldKey = fieldKey

/-- What the projection of a Service Request holds in a column. -/
def SrSourceRows.pointer (rows : SrSourceRows) (serviceRequestId : String)
    (column : ProjectionColumn) : Option String :=
  (rows.current serviceRequestId).bind (·.observation column)

theorem insertObservations_ok (ran : insertObservations call planned observations = .ok inserted) :
    inserted = observations ++ planned.map (observationRow call) ∧
      ((observations.map (·.observationId)).Nodup → (inserted.map (·.observationId)).Nodup) := by
  induction planned generalizing observations with
  | nil =>
    cases ran
    simp
  | cons change rest ih =>
    simp only [insertObservations, except_ok] at ran
    obtain ⟨fresh, ran⟩ := ran
    obtain ⟨same, keyed⟩ := ih ran
    refine ⟨by simp [same], fun distinct => keyed ?_⟩
    exact Rows.nodup_concat distinct (show (observationRow call change).observationId ∉ _ from fresh)

theorem assignObservations_column (planned : List PlannedChange)
    (columns : ProjectionColumn → Option String) (column : ProjectionColumn) :
    assignObservations planned columns column =
      ((planned.filter (·.projectionColumn = column)).getLast?.map (·.observationId)).or
        (columns column) := by
  induction planned generalizing columns with
  | nil => simp [assignObservations]
  | cons change rest ih =>
    rw [assignObservations, List.foldl_cons, ← assignObservations, ih]
    by_cases own : change.projectionColumn = column
    · subst own
      rw [List.filter_cons_of_pos (by simp), List.getLast?_cons, Function.update_self]
      cases (rest.filter (·.projectionColumn = change.projectionColumn)).getLast? <;> simp
    · rw [List.filter_cons_of_neg (by simpa using own), Function.update_of_ne (Ne.symm own)]

theorem writeProjection_ok (keyed : (rows.projections.map (·.serviceRequestId)).Nodup)
    (ran : writeProjection serviceRequestId planned rows = .ok (next.projections, revision)) :
    (next.projections.map (·.serviceRequestId)).Nodup ∧
      (∀ column, next.pointer serviceRequestId column =
        assignObservations planned (rows.pointer serviceRequestId) column) ∧
      ∀ other, other ≠ serviceRequestId → ∀ column,
        next.pointer other column = rows.pointer other column := by
  rw [writeProjection] at ran
  cases found : rows.current serviceRequestId with
  | none =>
    simp only [found, Except.ok.injEq, Prod.mk.injEq] at ran
    obtain ⟨written, -⟩ := ran
    have fresh : serviceRequestId ∉ rows.projections.map (·.serviceRequestId) := by
      intro inside
      obtain ⟨row, present, same⟩ := List.mem_map.mp inside
      exact List.find?_eq_none.mp found row present (by simpa using same)
    have unset : rows.pointer serviceRequestId = fun _ => none := by
      funext column
      rw [SrSourceRows.pointer, found, Option.bind_none]
    rw [← written, unset]
    refine ⟨Rows.nodup_concat keyed fresh, fun column => ?_, fun other apart column => ?_⟩
    · have placed := Rows.find?_eq_some (Rows.nodup_concat keyed fresh)
        (List.mem_append_right _ (List.mem_singleton_self (SrCurrentSourceRow.mk
          serviceRequestId (assignObservations planned fun _ => none) 1)))
      rw [SrSourceRows.pointer, SrSourceRows.current, ← written, placed, Option.bind_some]
    · rw [SrSourceRows.pointer, SrSourceRows.current, ← written,
        Rows.find?_concat_ne (by exact apart), SrSourceRows.pointer, SrSourceRows.current]
  | some current =>
    simp only [found, except_ok] at ran
    obtain ⟨one, ends⟩ := ran
    simp only [Prod.mk.injEq] at ends
    obtain ⟨written, -⟩ := ends
    obtain ⟨old, hit, replaced⟩ := Rows.replaced_of_countP (fun row : SrCurrentSourceRow =>
      { row with
        observation := assignObservations planned row.observation
        revision := row.revision + 1 }) one
    rw [written] at replaced
    simp only [decide_eq_true_eq] at hit
    obtain ⟨rfl, -⟩ := hit
    have keyedNext : (next.projections.map (·.serviceRequestId)).Nodup := by
      rw [replaced.map_eq rfl]
      exact keyed
    refine ⟨keyedNext, fun column => ?_, fun other apart column => ?_⟩
    · have before := Rows.find?_eq_some keyed replaced.mem_old
      have after := Rows.find?_eq_some keyedNext replaced.mem_new
      have columns : rows.pointer old.serviceRequestId = old.observation := by
        funext column
        rw [SrSourceRows.pointer, SrSourceRows.current, before, Option.bind_some]
      rw [SrSourceRows.pointer, SrSourceRows.current, after, Option.bind_some, columns]
    · rw [SrSourceRows.pointer, SrSourceRows.current, replaced.find?_ne rfl apart,
        SrSourceRows.pointer, SrSourceRows.current]

variable {result : SrSourceProjectionApplyResult}

/-- A call that returns planned its deltas and wrote the changes, if there were any. -/
theorem applyAcceptedFieldDeltas_ok
    (ran : (applyAcceptedFieldDeltas call).run rows = .ok (result, next)) :
    ∃ planned, Plan rows call call.acceptedDeltaSet.deltas planned ∧
      ((planned = [] ∧ next = rows) ∨
        (insertObservations call planned rows.observations = .ok next.observations ∧
          ∃ revision, writeProjection call.serviceRequestId planned rows =
            .ok (next.projections, revision))) := by
  rw [applyAcceptedFieldDeltas] at ran
  simp only [bind_ok, get_ok] at ran
  obtain ⟨_, _, ⟨rfl, rfl⟩, ran⟩ := ran
  split at ran
  · simp only [throw_ok] at ran
  · simp only [steps_ok] at ran
    obtain ⟨-, -, planned, planning, ran⟩ := ran
    refine ⟨planned, (planChanges_ok planning).1, ?_⟩
    split at ran
    · rename_i empty
      simp only [pure_ok] at ran
      exact .inl ⟨List.isEmpty_iff.mp empty, ran.2.symm⟩
    · simp only [steps_ok] at ran
      obtain ⟨observations, inserted, ⟨projections, revision⟩, wrote, -, rfl⟩ := ran
      exact .inr ⟨inserted, revision, wrote⟩

/-- The tables agree: keys are unique and a projection column points at the last
recorded observation of its field. -/
structure Projected (rows : SrSourceRows) : Prop where
  observationIds : (rows.observations.map (·.observationId)).Nodup
  projectionIds : (rows.projections.map (·.serviceRequestId)).Nodup
  pointer : ∀ serviceRequestId key kind column, fieldSpecs.lookup key = some (kind, column) →
    rows.pointer serviceRequestId column =
      (rows.recorded serviceRequestId key).getLast?.map (·.observationId)

theorem Projected.start (noObservations : rows.observations = [])
    (noProjections : rows.projections = []) : Projected rows where
  observationIds := by simp [noObservations]
  projectionIds := by simp [noProjections]
  pointer := by
    simp [SrSourceRows.pointer, SrSourceRows.current, SrSourceRows.recorded, noObservations,
      noProjections]

/-- The current observation of a field is the last one recorded of it. -/
theorem Projected.currentObservation (projected : Projected rows) (serviceRequestId : String)
    (spec : fieldSpecs.lookup key = some (kind, column)) :
    currentObservation rows serviceRequestId column =
      .ok (rows.recorded serviceRequestId key).getLast? := by
  have pointed := projected.pointer serviceRequestId key kind column spec
  rw [SrSourceRows.pointer] at pointed
  rw [Tickets.currentObservation, pointed]
  cases ends : (rows.recorded serviceRequestId key).getLast? with
  | none => rfl
  | some row =>
    have member := List.mem_of_getLast? ends
    simp only [SrSourceRows.recorded, List.mem_filter, decide_eq_true_eq] at member
    obtain ⟨present, rfl, -⟩ := member
    have found : rows.observations.find? (fun other => decide (other.observationId =
        row.observationId ∧ other.serviceRequestId = row.serviceRequestId)) = some row := by
      rw [← Rows.find?_eq_some projected.observationIds present]
      refine List.find?_congr fun other inside => ?_
      by_cases same : other.observationId = row.observationId
      · have := List.inj_on_of_nodup_map projected.observationIds inside present same
        simp [this]
      · simp [same]
    simp only [Option.map_some, found]

/-- What a call does to the recorded observations and the pointer of one field. -/
theorem apply_field (projected : Projected rows)
    (ran : (applyAcceptedFieldDeltas call).run rows = .ok (result, next)) :
    Projected next ∧ ∀ serviceRequestId key kind column,
      fieldSpecs.lookup key = some (kind, column) →
        ∃ changes, next.recorded serviceRequestId key =
            rows.recorded serviceRequestId key ++ changes.map (observationRow call) ∧
          (serviceRequestId ≠ call.serviceRequestId → changes = []) ∧
          (serviceRequestId = call.serviceRequestId →
            FieldPlan rows call column
              (call.acceptedDeltaSet.deltas.filter (·.fieldKey = key)) changes) := by
  obtain ⟨planned, plan, outcome⟩ := applyAcceptedFieldDeltas_ok ran
  -- The changes planned for a column are those of the deltas of its field.
  have ofField {key : String} {kind : DeltaValueKind} {column : ProjectionColumn}
      (spec : fieldSpecs.lookup key = some (kind, column)) :
      planned.filter (·.delta.fieldKey = key) = planned.filter (·.projectionColumn = column) := by
    refine List.filter_congr fun change inside => ?_
    have shaped := (plan.known change inside).2
    simp only [decide_eq_decide]
    constructor
    · rintro rfl
      have same := shaped.spec
      rw [spec] at same
      cases same
      rfl
    · rintro rfl
      exact same_field shaped.spec spec
  rcases outcome with ⟨rfl, rfl⟩ | ⟨inserted, revision, wrote⟩
  · refine ⟨projected, fun serviceRequestId key kind column spec => ⟨[], by simp, fun _ => rfl, ?_⟩⟩
    exact fun _ => plan.field spec
  · obtain ⟨appended, keyed⟩ := insertObservations_ok inserted
    obtain ⟨projectionIds, own, others⟩ := writeProjection_ok projected.projectionIds wrote
    have recordedOwn (key : String) : next.recorded call.serviceRequestId key =
        rows.recorded call.serviceRequestId key ++
          (planned.filter (·.delta.fieldKey = key)).map (observationRow call) := by
      rw [SrSourceRows.recorded, appended, List.filter_append, SrSourceRows.recorded,
        List.filter_map]
      simp only [Function.comp_def, observationRow, true_and]
    have recordedOther {serviceRequestId : String}
        (apart : serviceRequestId ≠ call.serviceRequestId) (key : String) :
        next.recorded serviceRequestId key = rows.recorded serviceRequestId key := by
      rw [SrSourceRows.recorded, appended, List.filter_append, SrSourceRows.recorded,
        List.filter_map]
      simp [Function.comp_def, observationRow, Ne.symm apart]
    refine ⟨⟨keyed projected.observationIds, projectionIds, ?_⟩, ?_⟩
    · intro serviceRequestId key kind column spec
      by_cases same : serviceRequestId = call.serviceRequestId
      · subst same
        rw [own, assignObservations_column, recordedOwn, ofField spec,
          projected.pointer _ key kind column spec]
        simp only [List.getLast?_append, List.getLast?_map, Option.map_or, Option.map_map]
        rfl
      · rw [others _ same, recordedOther same, projected.pointer _ key kind column spec]
    · intro serviceRequestId key kind column spec
      by_cases same : serviceRequestId = call.serviceRequestId
      · subst same
        refine ⟨_, recordedOwn key, fun apart => (apart rfl).elim, fun _ => ?_⟩
        rw [ofField spec]
        exact plan.field spec
      · exact ⟨[], by simp [recordedOther same], fun _ => rfl, fun own => (same own).elim⟩

/-! ## A field as a register -/

/-- The value of a field as a register holds it. -/
abbrev SourceReading := DeltaValueState × DeltaValueKind × DeltaValue

def AcceptedSrFieldDelta.entry (delta : AcceptedSrFieldDelta) : Entry SourceReading (Option Int) :=
  ⟨(delta.valueState, delta.valueKind, delta.value), delta.sourceChronologyUtc⟩

def SrFieldObservationRow.entry (row : SrFieldObservationRow) : Entry SourceReading (Option Int) :=
  ⟨(row.valueState, row.valueKind, row.value), row.sourceChronologyUtc⟩

/-- The recorded observations of a field as the entries of its register. -/
def SrSourceRows.entries (rows : SrSourceRows) (serviceRequestId fieldKey : String) :
    List (Entry SourceReading (Option Int)) :=
  (rows.recorded serviceRequestId fieldKey).map (·.entry)

instance : IsTrans (Option Int) DemonstrablyNewer where
  trans := by
    rintro _ _ _ ⟨first, rfl, second, rfl, below⟩ ⟨_, same, third, rfl, above⟩
    cases same
    exact ⟨first, rfl, third, rfl, below.trans above⟩

instance : Std.Asymm DemonstrablyNewer where
  asymm := by
    rintro _ _ ⟨first, rfl, second, rfl, below⟩ ⟨_, sameSecond, _, sameFirst, above⟩
    cases sameSecond
    cases sameFirst
    omega

instance : Std.Irrefl DemonstrablyNewer where
  irrefl := by
    rintro _ ⟨first, rfl, second, same, below⟩
    cases same
    omega

/-- No delta of the call is a reviewed correction. -/
def SrSourceCall.Unreviewed (call : SrSourceCall) : Prop :=
  ∀ delta ∈ call.acceptedDeltaSet.deltas, delta.precedenceBasis ≠ .reviewedCorrection

/-- The deltas a call offers of a field. -/
def SrSourceCall.offered (call : SrSourceCall) (serviceRequestId fieldKey : String) :
    List AcceptedSrFieldDelta :=
  if serviceRequestId = call.serviceRequestId then
    call.acceptedDeltaSet.deltas.filter (·.fieldKey = fieldKey)
  else []

variable {row : SrFieldObservationRow}

theorem sameValue_iff : SameValue row delta ↔ row.entry.value = delta.entry.value := by
  simp [SameValue, SrFieldObservationRow.entry, AcceptedSrFieldDelta.entry]

theorem entry_observationRow (change : PlannedChange) (shaped : ShapedDelta change.delta column) :
    (observationRow call change).entry = change.delta.entry := by
  rw [SrFieldObservationRow.entry, observationRow_value call change shaped]
  rfl

theorem getLast?_entries (rows : SrSourceRows) (serviceRequestId key : String) :
    (rows.entries serviceRequestId key).getLast? =
      (rows.recorded serviceRequestId key).getLast?.map (·.entry) :=
  List.getLast?_map ..

theorem validatePrecedence_ok (unreviewed : delta.precedenceBasis ≠ .reviewedCorrection)
    (ran : validatePrecedence row delta = .ok ()) :
    DemonstrablyNewer row.sourceChronologyUtc delta.sourceChronologyUtc ∧
      ¬ (delta.fieldKey = "status" ∧ TerminalStatus row ∧ delta.valueState = .usable ∧
        delta.value ≠ row.value) := by
  simp only [validatePrecedence, unreviewed, if_false, except_ok] at ran
  obtain ⟨newer, kept, -⟩ := ran
  exact ⟨newer, kept⟩

/-- What a call does to the register of a field: it keeps what it offers of the
field, and without a reviewed correction only what the register admits. -/
theorem apply_register (projected : Projected rows)
    (ran : (applyAcceptedFieldDeltas call).run rows = .ok (result, next))
    (serviceRequestId : String) (spec : fieldSpecs.lookup key = some (kind, column)) :
    ∃ offered, offered = (call.offered serviceRequestId key).map (·.entry) ∧
      next.entries serviceRequestId key =
        offered.foldl keep (rows.entries serviceRequestId key) ∧ offered.length ≤ 1 ∧
      (call.Unreviewed → ∀ entry ∈ offered,
        Admits DemonstrablyNewer (rows.entries serviceRequestId key) entry) := by
  obtain ⟨changes, recorded, elsewhere, here⟩ :=
    (apply_field projected ran).2 serviceRequestId key kind column spec
  refine ⟨_, rfl, ?_⟩
  rw [SrSourceRows.entries, recorded, List.map_append, ← SrSourceRows.entries]
  by_cases own : serviceRequestId = call.serviceRequestId
  · have current := projected.currentObservation call.serviceRequestId spec
    rw [SrSourceCall.offered, if_pos own]
    have plan := here own
    subst own
    have member {delta : AcceptedSrFieldDelta}
        (only : call.acceptedDeltaSet.deltas.filter (·.fieldKey = key) = [delta]) :
        delta ∈ call.acceptedDeltaSet.deltas :=
      (List.mem_filter.mp (only ▸ List.mem_singleton_self delta)).1
    cases held : call.acceptedDeltaSet.deltas.filter (·.fieldKey = key) with
    | nil =>
      rw [held] at plan
      cases plan
      simp
    | cons delta rest =>
      rw [held] at plan
      cases plan with
      | repeats repeated =>
        obtain ⟨row, found, same⟩ := repeated.repeats
        rw [current] at found
        have repeats : Repeats (rows.entries call.serviceRequestId key) delta.entry := by
          rw [Repeats, getLast?_entries, Except.ok.inj found]
          exact congrArg some (sameValue_iff.mp same)
        refine ⟨by simp [keep_of_repeats repeats], by simp, ?_⟩
        intro _ entry offered
        obtain rfl := List.mem_singleton.mp offered
        exact .inl repeats
      | changes observationId changed =>
        obtain ⟨_, found, differs⟩ := changed.changes
        rw [current] at found
        obtain rfl := Except.ok.inj found
        have changes : ¬ Repeats (rows.entries call.serviceRequestId key) delta.entry := by
          rw [Repeats, getLast?_entries]
          intro repeats
          obtain ⟨_, ends, same⟩ := Option.map_eq_some_iff.mp repeats
          obtain ⟨row, last, rfl⟩ := Option.map_eq_some_iff.mp ends
          exact (differs row last).1 (sameValue_iff.mpr same)
        refine ⟨?_, by simp, ?_⟩
        · simp only [List.map_cons, List.map_nil, List.foldl_cons, List.foldl_nil,
            keep_of_changes changes]
          rw [entry_observationRow ⟨delta, column, observationId⟩ changed.shaped]
        · intro unreviewed entry offered
          obtain rfl := List.mem_singleton.mp offered
          refine .inr fun last ends => ?_
          rw [getLast?_entries] at ends
          obtain ⟨row, final, rfl⟩ := Option.map_eq_some_iff.mp ends
          exact (validatePrecedence_ok (unreviewed delta (member held)) (differs row final).2).1
  · simp [SrSourceCall.offered, own, elsewhere own]

/-- How the current observation of a field may move without a reviewed
correction: to a newer one, and never off a terminal status. -/
def Advances (key : String) (row later : SrFieldObservationRow) : Prop :=
  (later = row ∨ DemonstrablyNewer row.sourceChronologyUtc later.sourceChronologyUtc) ∧
    (key = "status" → TerminalStatus row → TerminalStatus later ∧ later.value = row.value)

theorem Advances.refl (key : String) (row : SrFieldObservationRow) : Advances key row row :=
  ⟨.inl rfl, fun _ terminal => ⟨terminal, rfl⟩⟩

theorem Advances.trans (first : Advances key row later) (second : Advances key later last) :
    Advances key row last := by
  refine ⟨?_, fun status terminal => ?_⟩
  · rcases first.1 with rfl | newer
    · exact second.1
    · rcases second.1 with rfl | newest
      · exact .inr newer
      · exact .inr (IsTrans.trans _ _ _ newer newest)
  · obtain ⟨still, same⟩ := first.2 status terminal
    obtain ⟨final, kept⟩ := second.2 status still
    exact ⟨final, kept.trans same⟩

/-- A change that passes the precedence check advances its field. -/
theorem ChangedDelta.advances (changed : ChangedDelta rows call delta column)
    (observationId : String) (unreviewed : delta.precedenceBasis ≠ .reviewedCorrection)
    (precedes : validatePrecedence row delta = .ok ()) :
    Advances delta.fieldKey row (observationRow call ⟨delta, column, observationId⟩) := by
  obtain ⟨newer, kept⟩ := validatePrecedence_ok unreviewed precedes
  refine ⟨.inr newer, fun status terminal => ?_⟩
  have usable : delta.valueState = .usable := by
    have value := changed.shaped.value
    unfold validateDeltaValue at value
    split at value
    · simp only [ensure_ok, status] at value
      exact absurd value.1 (by decide)
    · assumption
    · cases value
  have same : delta.value = row.value := by
    by_contra differs
    exact kept ⟨status, terminal, usable, differs⟩
  have read : (observationRow call ⟨delta, column, observationId⟩).value = row.value :=
    (observationRow_value call ⟨delta, column, observationId⟩ changed.shaped).trans same
  obtain ⟨-, text, known, held⟩ := terminal
  exact ⟨⟨usable, text, known, read.trans held⟩, read⟩

/-- A call without reviewed corrections advances the current observation of every field. -/
theorem apply_advances (projected : Projected rows)
    (ran : (applyAcceptedFieldDeltas call).run rows = .ok (result, next))
    (unreviewed : call.Unreviewed) (spec : fieldSpecs.lookup key = some (kind, column))
    (ends : (rows.recorded serviceRequestId key).getLast? = some row) :
    ∃ later, (next.recorded serviceRequestId key).getLast? = some later ∧ Advances key row later := by
  obtain ⟨changes, recorded, elsewhere, here⟩ :=
    (apply_field projected ran).2 serviceRequestId key kind column spec
  rw [recorded]
  by_cases own : serviceRequestId = call.serviceRequestId
  · have plan := here own
    subst own
    generalize held : call.acceptedDeltaSet.deltas.filter (·.fieldKey = key) = deltas at plan
    cases plan with
    | absent => exact ⟨row, by simpa using ends, .refl key row⟩
    | repeats _ => exact ⟨row, by simpa using ends, .refl key row⟩
    | @changes delta observationId changed =>
      have member : delta ∈ call.acceptedDeltaSet.deltas.filter (·.fieldKey = key) :=
        held ▸ List.mem_singleton_self delta
      obtain ⟨inside, field⟩ := List.mem_filter.mp member
      obtain ⟨_, found, differs⟩ := changed.changes
      rw [projected.currentObservation call.serviceRequestId spec, ends] at found
      obtain rfl := Except.ok.inj found
      refine ⟨observationRow call ⟨delta, column, observationId⟩, by simp, ?_⟩
      have advances := changed.advances observationId (unreviewed delta inside)
        (differs row rfl).2
      rwa [of_decide_eq_true field] at advances
  · rw [elsewhere own]
    exact ⟨row, by simpa using ends, .refl key row⟩

/-! ## Runs -/

/-- An accepted delta and the Service Request it was offered for. -/
structure SrSourceOffer where
  serviceRequestId : String
  delta : AcceptedSrFieldDelta
  deriving DecidableEq

/-- A sequence of accepted delta sets, with the offers in the order they were
accepted. Between them any other command may run; none writes the observations
or the projections. -/
inductive SrSourceRun (start : SrSourceRows) : List SrSourceOffer → SrSourceRows → Prop where
  | start : SrSourceRun start [] start
  | elsewhere {offers : List SrSourceOffer} {rows next : SrSourceRows} :
      SrSourceRun start offers rows → next.observations = rows.observations →
        next.projections = rows.projections → SrSourceRun start offers next
  | applied {offers : List SrSourceOffer} {rows next : SrSourceRows}
      {result : SrSourceProjectionApplyResult} (call : SrSourceCall) :
      SrSourceRun start offers rows →
        (applyAcceptedFieldDeltas call).run rows = .ok (result, next) →
          SrSourceRun start
            (offers ++ call.acceptedDeltaSet.deltas.map (⟨call.serviceRequestId, ·⟩)) next

/-- No observation was accepted yet. -/
def SrSourceRows.Unobserved (rows : SrSourceRows) : Prop :=
  rows.observations = [] ∧ rows.projections = []

/-- No offer is a reviewed correction. -/
def Unreviewed (offers : List SrSourceOffer) : Prop :=
  ∀ offer ∈ offers, offer.delta.precedenceBasis ≠ .reviewedCorrection

instance (offers : List SrSourceOffer) : Decidable (Unreviewed offers) :=
  inferInstanceAs (Decidable (∀ _ ∈ _, _))

/-- The deltas offered of a field, in the order they were accepted. -/
def offeredOf (offers : List SrSourceOffer) (serviceRequestId fieldKey : String) :
    List AcceptedSrFieldDelta :=
  (offers.filter fun offer =>
    offer.serviceRequestId = serviceRequestId ∧ offer.delta.fieldKey = fieldKey).map (·.delta)

theorem offeredOf_append (offers more : List SrSourceOffer) (serviceRequestId key : String) :
    offeredOf (offers ++ more) serviceRequestId key =
      offeredOf offers serviceRequestId key ++ offeredOf more serviceRequestId key := by
  simp [offeredOf]

theorem offeredOf_call (call : SrSourceCall) (serviceRequestId key : String) :
    offeredOf (call.acceptedDeltaSet.deltas.map (⟨call.serviceRequestId, ·⟩)) serviceRequestId key =
      call.offered serviceRequestId key := by
  rw [offeredOf, List.filter_map, List.map_map, SrSourceCall.offered]
  by_cases own : serviceRequestId = call.serviceRequestId
  · simp [own, Function.comp_def]
  · simp [own, Ne.symm own, Function.comp_def]

theorem unreviewed_append : Unreviewed (offers ++ more) ↔ Unreviewed offers ∧ Unreviewed more := by
  simp only [Unreviewed, List.mem_append, or_imp, forall_and]

theorem unreviewed_call {call : SrSourceCall}
    (unreviewed : Unreviewed (call.acceptedDeltaSet.deltas.map (⟨call.serviceRequestId, ·⟩))) :
    call.Unreviewed :=
  fun _ inside => unreviewed _ (List.mem_map_of_mem inside)

section Runs

variable {start : SrSourceRows} {offers : List SrSourceOffer}

theorem recorded_of_same (observations : next.observations = rows.observations)
    (serviceRequestId key : String) :
    next.recorded serviceRequestId key = rows.recorded serviceRequestId key := by
  rw [SrSourceRows.recorded, observations, SrSourceRows.recorded]

theorem Projected.of_same (projected : Projected rows)
    (observations : next.observations = rows.observations)
    (projections : next.projections = rows.projections) : Projected next where
  observationIds := observations ▸ projected.observationIds
  projectionIds := projections ▸ projected.projectionIds
  pointer := by
    intro serviceRequestId key kind column spec
    rw [recorded_of_same observations, ← projected.pointer _ key kind column spec,
      SrSourceRows.pointer, SrSourceRows.current, projections, SrSourceRows.pointer,
      SrSourceRows.current]

theorem SrSourceRun.projected (projected : Projected start) (run : SrSourceRun start offers rows) :
    Projected rows := by
  induction run with
  | start => exact projected
  | elsewhere _ observations projections ih => exact ih.of_same observations projections
  | applied call _ ran ih => exact (apply_field ih ran).1

theorem SrSourceRun.entries (empty : start.Unobserved) (run : SrSourceRun start offers rows)
    (serviceRequestId : String) {key : String} {kind : DeltaValueKind} {column : ProjectionColumn}
    (spec : fieldSpecs.lookup key = some (kind, column)) :
    rows.entries serviceRequestId key =
      kept ((offeredOf offers serviceRequestId key).map (·.entry)) := by
  induction run with
  | start => simp [SrSourceRows.entries, SrSourceRows.recorded, empty.1, offeredOf]
  | elsewhere _ observations _ ih =>
    rw [SrSourceRows.entries, recorded_of_same observations]
    exact ih
  | applied call before ran ih =>
    obtain ⟨_, rfl, entries, -⟩ :=
      apply_register (before.projected (Projected.start empty.1 empty.2)) ran
        serviceRequestId spec
    rw [entries, ih, offeredOf_append, offeredOf_call, List.map_append]
    exact (List.foldl_append ..).symm

theorem SrSourceRun.admitted (empty : start.Unobserved) (run : SrSourceRun start offers rows)
    (unreviewed : Unreviewed offers) (serviceRequestId : String) {key : String}
    {kind : DeltaValueKind} {column : ProjectionColumn}
    (spec : fieldSpecs.lookup key = some (kind, column)) :
    Admitted DemonstrablyNewer ((offeredOf offers serviceRequestId key).map (·.entry)) := by
  induction run with
  | start => exact .empty
  | elsewhere _ _ _ ih => exact ih unreviewed
  | applied call before ran ih =>
    obtain ⟨earlier, latest⟩ := unreviewed_append.mp unreviewed
    obtain ⟨offered, same, -, short, admits⟩ :=
      apply_register (before.projected (Projected.start empty.1 empty.2)) ran
        serviceRequestId spec
    rw [offeredOf_append, offeredOf_call, List.map_append, ← same]
    have admits := admits (unreviewed_call latest)
    rw [before.entries empty serviceRequestId spec] at admits
    match offered, short with
    | [], _ => simpa using ih earlier
    | [entry], _ => exact .offer (ih earlier) (admits entry (List.mem_singleton_self entry))

theorem SrSourceRun.advances (projected : Projected start) (run : SrSourceRun start offers rows)
    (unreviewed : Unreviewed offers) (spec : fieldSpecs.lookup key = some (kind, column))
    (ends : (start.recorded serviceRequestId key).getLast? = some row) :
    ∃ later, (rows.recorded serviceRequestId key).getLast? = some later ∧ Advances key row later := by
  induction run with
  | start => exact ⟨row, ends, .refl key row⟩
  | elsewhere _ observations _ ih =>
    rw [recorded_of_same observations]
    exact ih unreviewed
  | applied call before ran ih =>
    obtain ⟨earlier, latest⟩ := unreviewed_append.mp unreviewed
    obtain ⟨_, held, first⟩ := ih earlier
    obtain ⟨later, final, second⟩ :=
      apply_advances (before.projected projected) ran (unreviewed_call latest) spec held
    exact ⟨later, final, first.trans second⟩

/-- The delta has the greatest chronology among the deltas. -/
def Newest (delta : AcceptedSrFieldDelta) (deltas : List AcceptedSrFieldDelta) : Prop :=
  delta ∈ deltas ∧ ∀ other ∈ deltas,
    other = delta ∨ DemonstrablyNewer other.sourceChronologyUtc delta.sourceChronologyUtc

instance (delta : AcceptedSrFieldDelta) (deltas : List AcceptedSrFieldDelta) :
    Decidable (Newest delta deltas) :=
  inferInstanceAs (Decidable (_ ∧ _))

theorem Newest.last {delta : AcceptedSrFieldDelta} {deltas : List AcceptedSrFieldDelta}
    (newest : Newest delta deltas)
    (ordered : deltas.Pairwise fun old new =>
      DemonstrablyNewer old.sourceChronologyUtc new.sourceChronologyUtc) :
    deltas.getLast? = some delta := by
  cases ends : deltas.getLast? with
  | none => exact absurd (List.getLast?_eq_none_iff.mp ends ▸ newest.1) List.not_mem_nil
  | some last =>
    rcases newest.2 last (List.mem_of_getLast? ends) with same | newer
    · rw [same]
    · rcases below_last ordered ends delta newest.1 with rfl | older
      · rfl
      · exact (asymm_of DemonstrablyNewer newer older).elim

/-- Without reviewed corrections the projection of a field is the newest of the
changes recorded of it, which is the value accepted last, and among deltas that
arrive in the order of their chronology the newest of all. It depends on the
recorded changes only, its chronology never goes back, and a terminal status stays. -/
theorem projection_is_newest_change (empty : start.Unobserved)
    (run : SrSourceRun start offers rows) (unreviewed : Unreviewed offers)
    {serviceRequestId key : String} {kind : DeltaValueKind} {column : ProjectionColumn}
    (spec : fieldSpecs.lookup key = some (kind, column)) :
    rows.entries serviceRequestId key =
        kept ((offeredOf offers serviceRequestId key).map (·.entry)) ∧
      ∃ current, currentObservation rows serviceRequestId column = .ok current ∧
        current.map (·.entry.value) =
          (offeredOf offers serviceRequestId key).getLast?.map (·.entry.value) ∧
        (∀ row ∈ current, row ∈ rows.recorded serviceRequestId key ∧
          ∀ other ∈ rows.recorded serviceRequestId key,
            other = row ∨ DemonstrablyNewer other.sourceChronologyUtc row.sourceChronologyUtc) ∧
        ((offeredOf offers serviceRequestId key).Pairwise (fun old new =>
            DemonstrablyNewer old.sourceChronologyUtc new.sourceChronologyUtc) →
          ∀ delta, Newest delta (offeredOf offers serviceRequestId key) →
            current.map (·.entry.value) = some delta.entry.value) ∧
        (∀ start' rows' offers', start'.Unobserved → SrSourceRun start' offers' rows' →
          Unreviewed offers' →
          (∀ entry, entry ∈ rows.entries serviceRequestId key ↔
            entry ∈ rows'.entries serviceRequestId key) →
          ∃ other, currentObservation rows' serviceRequestId column = .ok other ∧
            other.map (·.entry) = current.map (·.entry)) ∧
        (∀ more later, SrSourceRun rows more later → Unreviewed more → ∀ row ∈ current,
          ∃ final, currentObservation later serviceRequestId column = .ok (some final) ∧
            Advances key row final) := by
  have projected := run.projected (Projected.start empty.1 empty.2)
  have entries := run.entries empty serviceRequestId spec
  have increasing := kept_increasing (run.admitted empty unreviewed serviceRequestId spec)
  have last : (rows.recorded serviceRequestId key).getLast?.map (·.entry.value) =
      (offeredOf offers serviceRequestId key).getLast?.map (·.entry.value) := by
    have held : (kept ((offeredOf offers serviceRequestId key).map (·.entry))).getLast?.map
        (·.value) = ((offeredOf offers serviceRequestId key).map (·.entry)).getLast?.map (·.value) :=
      held_is_last_offered
    rw [← entries, getLast?_entries, List.getLast?_map, Option.map_map, Option.map_map] at held
    exact held
  refine ⟨entries, _, projected.currentObservation serviceRequestId spec, last, ?_, ?_, ?_, ?_⟩
  · intro row ends
    refine ⟨List.mem_of_getLast? ends, ?_⟩
    rw [← entries, SrSourceRows.entries, List.pairwise_map] at increasing
    exact below_last increasing ends
  · intro ordered delta newest
    rw [last, newest.last ordered]
    rfl
  · intro start' rows' offers' empty' run' unreviewed' same
    refine ⟨_, (run'.projected (Projected.start empty'.1 empty'.2)).currentObservation serviceRequestId spec, ?_⟩
    have increasing' := kept_increasing (run'.admitted empty' unreviewed' serviceRequestId spec)
    rw [← run'.entries empty' serviceRequestId spec] at increasing'
    rw [← entries] at increasing
    rw [← getLast?_entries, ← getLast?_entries,
      same_of_same_entries increasing increasing' same]
  · intro more later continued unreviewedMore row ends
    obtain ⟨final, held, advances⟩ := continued.advances projected unreviewedMore spec ends
    refine ⟨final, ?_, advances⟩
    rw [(continued.projected projected).currentObservation serviceRequestId spec, held]

end Runs

/-! ## Two orders of the same observations -/

def summary (value : String) (chronology : Int) : AcceptedSrFieldDelta where
  fieldKey := "problem_summary"
  valueState := .usable
  valueKind := .text
  value := .text value
  sourceChronologyUtc := some chronology
  precedenceBasis := .sourceChronology
  sourceObservationFieldId := "published"

def reportsText (observationId : Uuid4) (value : String) (chronology : Int) : SrSourceCall where
  serviceRequestId := "sr"
  acceptedDeltaSet := ⟨"import", [summary value chronology]⟩
  newUuid4 := fun _ => observationId
  now := 100
  validatePublishedField := fun _ _ _ _ => .ok "VALID"

def firstObservation : Uuid4 := ⟨"00000000-0000-4000-8000-0000000000c1", by decide +kernel⟩
def secondObservation : Uuid4 := ⟨"00000000-0000-4000-8000-0000000000c2", by decide +kernel⟩
def thirdObservation : Uuid4 := ⟨"00000000-0000-4000-8000-0000000000c3", by decide +kernel⟩

/-- A Service Request with an official number and no accepted observation. -/
def adoptedRequest : SrSourceRows where
  officialSrNo := fun id => if id = "sr" then some (some "SR-1") else none
  commandReceipts := ["import"]
  observations := []
  projections := []

/-- The outage at 10 and confirmed at 30, then the restart at 20. -/
def confirmedFirst : List SrSourceCall :=
  [reportsText firstObservation "outage" 10, reportsText secondObservation "outage" 30,
   reportsText thirdObservation "restarted" 20]

/-- The outage at 10, the restart at 20, then the outage confirmed at 30. -/
def confirmedLast : List SrSourceCall :=
  [reportsText firstObservation "outage" 10, reportsText thirdObservation "restarted" 20,
   reportsText secondObservation "outage" 30]

def afterCalls (calls : List SrSourceCall) (rows : SrSourceRows) : Option SrSourceRows :=
  calls.foldlM (fun rows call => ((applyAcceptedFieldDeltas call).run rows).toOption.map (·.2)) rows

def offersOf (calls : List SrSourceCall) : List SrSourceOffer :=
  calls.flatMap fun call => call.acceptedDeltaSet.deltas.map (⟨call.serviceRequestId, ·⟩)

def projectedValue (rows : SrSourceRows) (serviceRequestId : String) (column : ProjectionColumn) :
    Option DeltaValue :=
  (currentObservation rows serviceRequestId column).toOption.join.map (·.value)

theorem run_of_afterCalls (run : SrSourceRun start offers rows)
    (after : afterCalls calls rows = some last) :
    SrSourceRun start (offers ++ offersOf calls) last := by
  induction calls generalizing offers rows with
  | nil =>
    cases after
    simpa [offersOf] using run
  | cons call calls ih =>
    simp only [afterCalls, List.foldlM_cons, Option.bind_eq_bind, Option.bind_eq_some_iff,
      Option.map_eq_some_iff] at after
    obtain ⟨_, ⟨⟨_, _⟩, returned, rfl⟩, rest⟩ := after
    cases ran : (applyAcceptedFieldDeltas call).run rows with
    | error raised =>
      rw [ran] at returned
      cases returned
    | ok outcome =>
      rw [ran] at returned
      cases returned
      have continued := ih (.applied call run ran) rest
      rwa [List.append_assoc] at continued

/-- The newest observation only confirmed the outage, so the older restart
replaced it; in the other order the outage stands. -/
theorem confirmed_value_replaced_by_older :
    ∃ start offers rows offers' rows', SrSourceRows.Unobserved start ∧
      SrSourceRun start offers rows ∧ SrSourceRun start offers' rows' ∧
      Unreviewed offers ∧ Unreviewed offers' ∧ offers.Perm offers' ∧
      (∃ delta, Newest delta (offeredOf offers "sr" "problem_summary") ∧
        projectedValue rows "sr" .problemSummaryObservationId ≠ some delta.value) ∧
      projectedValue rows "sr" .problemSummaryObservationId ≠
        projectedValue rows' "sr" .problemSummaryObservationId := by
  have runs : ∃ rows ∈ afterCalls confirmedFirst adoptedRequest,
      ∃ rows' ∈ afterCalls confirmedLast adoptedRequest,
        projectedValue rows "sr" .problemSummaryObservationId = some (.text "restarted") ∧
        projectedValue rows' "sr" .problemSummaryObservationId = some (.text "outage") := by
    decide +kernel
  obtain ⟨rows, after, rows', after', value, value'⟩ := runs
  refine ⟨adoptedRequest, _, rows, _, rows', ⟨rfl, rfl⟩, run_of_afterCalls .start after,
    run_of_afterCalls .start after', by decide, by decide, by decide,
    ⟨summary "outage" 30, by decide, ?_⟩, ?_⟩
  · rw [value]
    decide
  · rw [value, value']
    decide

/-- Of the three observations in chronological order, the changes are all three. -/
theorem summaries_in_order_all_recorded :
    ∃ rows, SrSourceRun adoptedRequest (offersOf confirmedLast) rows ∧
      rows.entries "sr" "problem_summary" =
        [(summary "outage" 10).entry, (summary "restarted" 20).entry,
          (summary "outage" 30).entry] := by
  have after : ∃ rows ∈ afterCalls confirmedLast adoptedRequest, True := by decide +kernel
  obtain ⟨rows, after, -⟩ := after
  have run : SrSourceRun adoptedRequest (offersOf confirmedLast) rows :=
    run_of_afterCalls .start after
  have spec : fieldSpecs.lookup "problem_summary" = some (.text, .problemSummaryObservationId) :=
    rfl
  exact ⟨rows, run, (projection_is_newest_change ⟨rfl, rfl⟩ run (by decide) spec).1.trans
    (by decide)⟩

end Soma.Tickets
