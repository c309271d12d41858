import Mathlib.Data.List.Dedup
import Soma.ObjectivesTasks.ActivityReview
import Soma.ObjectivesTasks.Rebuildable
import Soma.Theory.Labels

/-!
What a review takes in. The queries run over slices of the identities, and together they
find the rows of all of them; the tasks they come to are the closure of the seeds under the
lineages. Everything the review reads of a task but its revision and its lineage stays when
only these two are written.
-/

namespace Soma.ObjectivesTasks

open Foundation Transaction

/-! ## Slices -/

theorem sqlChunks_flatten (ids : List String) : (sqlChunks ids).flatten = ids := by
  have prefixes : ∀ count, ((List.range count).map fun index =>
      (ids.drop (200 * index)).take 200).flatten = ids.take (200 * count) := by
    intro count
    induction count with
    | zero => simp
    | succ count ih =>
      rw [List.range_succ, List.map_append, List.flatten_append, ih, Nat.mul_succ, List.take_add]
      simp
  rw [sqlChunks, prefixes, List.take_of_length_le]
  omega

variable {ids : List String}

theorem mem_sliced {id : String} : (∃ chunk ∈ sqlChunks ids, id ∈ chunk) ↔ id ∈ ids := by
  rw [← List.mem_flatten, sqlChunks_flatten]

section Queries

variable {Row : Type} {table : List Row} {key : Row → String} {ids : List String}
  {before : Row → Row → Prop} [DecidableRel before]

theorem mem_chunked :
    row ∈ (sqlChunks ids).flatMap (fun chunk =>
      (table.filter fun row => key row ∈ chunk).insertionSort before) ↔
      row ∈ table ∧ key row ∈ ids := by
  simp only [List.mem_flatMap, List.mem_insertionSort, List.mem_filter, decide_eq_true_eq]
  constructor
  · rintro ⟨chunk, sliced, listed, named⟩
    exact ⟨listed, mem_sliced.mp ⟨chunk, sliced, named⟩⟩
  · rintro ⟨listed, named⟩
    obtain ⟨chunk, sliced, inside⟩ := mem_sliced.mpr named
    exact ⟨chunk, sliced, listed, inside⟩

theorem chunked_nodup (keyed : (table.map key).Nodup) (distinct : ids.Nodup) :
    (((sqlChunks ids).flatMap fun chunk =>
      (table.filter fun row => key row ∈ chunk).insertionSort before).map key).Nodup := by
  rw [← sqlChunks_flatten ids, List.nodup_flatten] at distinct
  rw [List.map_flatMap, List.nodup_flatMap]
  constructor
  · intro chunk _
    have sorted := ((List.perm_insertionSort before
      (table.filter fun row => key row ∈ chunk)).map key).nodup_iff
    exact sorted.mpr (keyed.sublist (List.filter_sublist.map key))
  · refine distinct.2.imp fun {left right} apart => ?_
    intro id first second
    obtain ⟨row, found, rfl⟩ := List.mem_map.mp first
    obtain ⟨_, found', same⟩ := List.mem_map.mp second
    rw [List.mem_insertionSort, List.mem_filter, decide_eq_true_eq] at found found'
    rw [same] at found'
    exact apart found.2 found'.2

end Queries

/-! ## The closure of the seeds -/

/-- The declared keys and references of the lineage tables. -/
structure ActivityRows.Keyed (rows : ActivityRows) : Prop where
  tasks : (rows.tasks.map (·.taskId)).Nodup
  lineageCurrent : (rows.lineageCurrent.map (·.taskId)).Nodup
  lineageEvents : (rows.lineageEvents.map (·.lineageEventId)).Nodup
  retryRelations : (rows.retryRelations.map (·.retryRelationId)).Nodup
  lineages : ∀ row ∈ rows.lineageCurrent, row.activityLineageId ∈ rows.lineages

/-- The tasks a review that starts from the seeds is about. -/
def ActivityRows.closure (rows : ActivityRows) (seedIds : List String) : Set String :=
  Labels.closure rows.lineageOf {taskId | taskId ∈ seedIds}

variable {rows next : ActivityRows} {seedIds touched affected : List String}

theorem lineageOf_some (keyed : rows.Keyed) :
    rows.lineageOf taskId = some lineageId ↔
      ∃ row ∈ rows.lineageCurrent, row.taskId = taskId ∧ row.activityLineageId = lineageId := by
  rw [ActivityRows.lineageOf, Option.map_eq_some_iff]
  constructor
  · rintro ⟨row, found, rfl⟩
    obtain ⟨listed, named⟩ := Rows.key_of_find? found
    exact ⟨row, listed, named, rfl⟩
  · rintro ⟨row, listed, rfl, rfl⟩
    exact ⟨row, Rows.find?_eq_some keyed.lineageCurrent listed, rfl⟩

/-- The identities of a current row of the lineages are canonical. -/
def ActivityLineageCurrent.Canonical (row : ActivityLineageCurrent) : Prop :=
  isUuid4 row.taskId ∧ isUuid4 row.activityLineageId

theorem loadSeedLineages_ok (ran : loadSeedLineages rows seedIds = .ok touched) :
    (∀ row ∈ rows.lineageCurrent, row.taskId ∈ seedIds → row.Canonical) ∧
      ∀ lineageId, lineageId ∈ touched ↔
        ∃ row ∈ rows.lineageCurrent, row.taskId ∈ seedIds ∧ row.activityLineageId = lineageId := by
  simp only [loadSeedLineages, except_ok] at ran
  obtain ⟨_, visited, rfl⟩ := ran
  constructor
  · intro row listed seed
    obtain ⟨lineageId, -, read⟩ := image_of_mem visited (mem_chunked.mpr ⟨listed, seed⟩)
    simp only [storedUuid, except_ok] at read
    obtain ⟨task, lineage, -⟩ := read
    exact ⟨task, lineage⟩
  · intro lineageId
    rw [List.mem_insertionSort, List.mem_dedup]
    constructor
    · intro inside
      obtain ⟨row, found, read⟩ := mem_of_image visited inside
      simp only [except_ok] at read
      obtain ⟨-, -, same⟩ := read
      obtain ⟨listed, seed⟩ := mem_chunked.mp found
      exact ⟨row, listed, seed, same⟩
    · rintro ⟨row, listed, seed, rfl⟩
      obtain ⟨lineageId, inside, read⟩ := image_of_mem visited (mem_chunked.mpr ⟨listed, seed⟩)
      simp only [except_ok] at read
      obtain ⟨-, -, rfl⟩ := read
      exact inside

theorem loadSeedLineages_succeeds
    (canonical : ∀ row ∈ rows.lineageCurrent, row.taskId ∈ seedIds → row.Canonical) :
    ∃ touched, loadSeedLineages rows seedIds = .ok touched := by
  simp only [loadSeedLineages, except_ok]
  have each : ∀ row ∈ (sqlChunks seedIds).flatMap (fun chunk =>
      (rows.lineageCurrent.filter (·.taskId ∈ chunk)).insertionSort (·.taskId ≤ ·.taskId)),
      ∃ lineageId, (do
        storedUuid row.taskId "activity-lineage Task identity"
        storedUuid row.activityLineageId "activity lineage identity"
        return row.activityLineageId : Except Raised String) = .ok lineageId := by
    intro row found
    obtain ⟨listed, seed⟩ := mem_chunked.mp found
    obtain ⟨task, lineage⟩ := canonical row listed seed
    refine ⟨row.activityLineageId, ?_⟩
    simp [storedUuid, ensure, task, lineage, bind, Except.bind, pure, Except.pure]
  obtain ⟨lineageIds, visited⟩ := mapM_succeeds each
  exact ⟨_, lineageIds, visited, rfl⟩

theorem expandAffectedIds_ok (ran : expandAffectedIds rows seedIds touched = .ok affected) :
    (∀ row ∈ rows.lineageCurrent, row.activityLineageId ∈ touched → row.Canonical) ∧
      affected.Nodup ∧ ∀ taskId, taskId ∈ affected ↔ taskId ∈ seedIds ∨
        ∃ row ∈ rows.lineageCurrent, row.activityLineageId ∈ touched ∧ row.taskId = taskId := by
  simp only [expandAffectedIds, except_ok] at ran
  obtain ⟨_, visited, rfl⟩ := ran
  refine ⟨?_, ?_, ?_⟩
  · intro row listed reached
    obtain ⟨taskId, -, read⟩ := image_of_mem visited (mem_chunked.mpr ⟨listed, reached⟩)
    simp only [storedUuid, except_ok] at read
    obtain ⟨task, lineage, -⟩ := read
    exact ⟨task, lineage⟩
  · exact (List.perm_insertionSort _ _).nodup_iff.mpr (List.nodup_dedup _)
  · intro taskId
    rw [List.mem_insertionSort, List.mem_dedup, List.mem_append]
    refine or_congr_right ?_
    constructor
    · intro inside
      obtain ⟨row, found, read⟩ := mem_of_image visited inside
      simp only [except_ok] at read
      obtain ⟨-, -, -, same⟩ := read
      obtain ⟨listed, reached⟩ := mem_chunked.mp found
      exact ⟨row, listed, reached, same⟩
    · rintro ⟨row, listed, reached, rfl⟩
      obtain ⟨taskId, inside, read⟩ := image_of_mem visited (mem_chunked.mpr ⟨listed, reached⟩)
      simp only [except_ok] at read
      obtain ⟨-, -, -, rfl⟩ := read
      exact inside

theorem expandAffectedIds_succeeds
    (canonical : ∀ row ∈ rows.lineageCurrent, row.activityLineageId ∈ touched → row.Canonical) :
    ∃ affected, expandAffectedIds rows seedIds touched = .ok affected := by
  simp only [expandAffectedIds, except_bind_ok, pure, Except.pure, Except.ok.injEq]
  refine (mapM_succeeds ?_).imp' _ fun members visited => ⟨members, visited, rfl⟩
  intro row found
  obtain ⟨listed, reached⟩ := mem_chunked.mp found
  obtain ⟨task, lineage⟩ := canonical row listed reached
  refine ⟨row.taskId, ?_⟩
  simp [storedUuid, ensure, task, lineage, reached, bind, Except.bind]

variable {taskId : String}

theorem affected_eq_closure (keyed : rows.Keyed)
    (loaded : loadSeedLineages rows seedIds = .ok touched)
    (expanded : expandAffectedIds rows seedIds touched = .ok affected) :
    taskId ∈ affected ↔ taskId ∈ rows.closure seedIds := by
  rw [(expandAffectedIds_ok expanded).2.2]
  refine or_congr_right ?_
  constructor
  · rintro ⟨row, listed, reached, rfl⟩
    obtain ⟨seedRow, seedListed, seed, same⟩ := ((loadSeedLineages_ok loaded).2 _).mp reached
    exact ⟨seedRow.taskId, seed, row.activityLineageId,
      (lineageOf_some keyed).mpr ⟨seedRow, seedListed, rfl, same⟩,
      (lineageOf_some keyed).mpr ⟨row, listed, rfl, rfl⟩⟩
  · rintro ⟨seed, listed, _, carried, same⟩
    obtain ⟨seedRow, seedListed, rfl, lineage⟩ := (lineageOf_some keyed).mp carried
    obtain ⟨row, rowListed, rfl, rfl⟩ := (lineageOf_some keyed).mp same
    exact ⟨row, rowListed,
      ((loadSeedLineages_ok loaded).2 _).mpr ⟨seedRow, seedListed, listed, lineage⟩, rfl⟩

/-! ## The tasks are there -/

theorem collectTask_ok :
    collectTask seen taskId = .ok byId ↔ isUuid4 taskId ∧ taskId ∉ seen ∧ byId = taskId :: seen := by
  simp only [collectTask, storedUuid, except_ok]
  exact and_congr_right fun _ => and_congr_right fun _ => eq_comm

theorem collectTasks_ok {found : List String} :
    found.foldlM collectTask seen = .ok byId ↔
      (∀ taskId ∈ found, isUuid4 taskId ∧ taskId ∉ seen) ∧ found.Nodup ∧
        byId = found.reverse ++ seen := by
  induction found generalizing seen with
  | nil =>
    simp only [List.foldlM_nil, pure, Except.pure, Except.ok.injEq, List.not_mem_nil, false_imp_iff,
      implies_true, List.nodup_nil, true_and, List.reverse_nil, List.nil_append]
    exact eq_comm
  | cons taskId found ih =>
    simp only [List.foldlM_cons, except_bind_ok, collectTask_ok, ih, List.forall_mem_cons,
      List.nodup_cons]
    constructor
    · rintro ⟨_, ⟨canonical, fresh, rfl⟩, others, distinct, same⟩
      refine ⟨⟨⟨canonical, fresh⟩, fun other inside => ?_⟩, ⟨fun inside => ?_, distinct⟩, ?_⟩
      · exact ⟨(others other inside).1,
          fun seen => (others other inside).2 (List.mem_cons_of_mem _ seen)⟩
      · exact (others taskId inside).2 List.mem_cons_self
      · simpa using same
    · rintro ⟨⟨⟨canonical, fresh⟩, others⟩, ⟨new, distinct⟩, same⟩
      refine ⟨_, ⟨canonical, fresh, rfl⟩, fun other inside => ?_, distinct, by simpa using same⟩
      refine ⟨(others other inside).1, fun seen => ?_⟩
      rcases List.mem_cons.mp seen with rfl | seen
      · exact new inside
      · exact (others other inside).2 seen

/-- The query finds what is asked for when all of it is there. -/
theorem requireTasks_ok (keyed : rows.Keyed) {taskIds : List String} (distinct : taskIds.Nodup) :
    requireTasks rows taskIds = .ok ⟨⟩ ↔
      ∀ taskId ∈ taskIds, isUuid4 taskId ∧ taskId ∈ rows.tasks.map (·.taskId) := by
  have member : ∀ taskId, taskId ∈ ((sqlChunks taskIds).flatMap fun chunk =>
      (rows.tasks.filter (·.taskId ∈ chunk)).insertionSort (·.taskId ≤ ·.taskId)).map
        (·.taskId) ↔ taskId ∈ rows.tasks.map (·.taskId) ∧ taskId ∈ taskIds := by
    intro taskId
    simp only [List.mem_map, mem_chunked]
    constructor
    · rintro ⟨row, ⟨listed, asked⟩, rfl⟩
      exact ⟨⟨row, listed, rfl⟩, asked⟩
    · rintro ⟨⟨row, listed, rfl⟩, asked⟩
      exact ⟨row, ⟨listed, asked⟩, rfl⟩
  have once : (((sqlChunks taskIds).flatMap fun chunk =>
      (rows.tasks.filter fun row => row.taskId ∈ chunk).insertionSort
        fun left right => left.taskId ≤ right.taskId).map (·.taskId)).Nodup :=
    chunked_nodup keyed.tasks distinct
  simp only [requireTasks, except_ok, collectTasks_ok, List.append_nil]
  constructor
  · rintro ⟨_, ⟨canonical, -, rfl⟩, -, complete⟩ taskId asked
    have found := List.mem_reverse.mp (complete taskId asked)
    exact ⟨(canonical taskId found).1, ((member taskId).mp found).1⟩
  · intro all
    refine ⟨_, ⟨fun taskId found => ⟨(all taskId ((member taskId).mp found).2).1, List.not_mem_nil⟩,
      once, rfl⟩, fun taskId found => ?_, fun taskId asked => ?_⟩
    · exact ((member taskId).mp (List.mem_reverse.mp found)).2
    · exact List.mem_reverse.mpr ((member taskId).mpr ⟨(all taskId asked).2, asked⟩)

/-! ## What is read of a task -/

/-- Only the revisions of tasks and the lineages differ. -/
structure ActivityRows.Untouched (rows next : ActivityRows) : Prop where
  identities : next.identities = rows.identities
  sourceProjections : next.sourceProjections = rows.sourceProjections
  planRevisions : next.planRevisions = rows.planRevisions
  planCurrent : next.planCurrent = rows.planCurrent
  executionProjections : next.executionProjections = rows.executionProjections
  outcomeCurrent : next.outcomeCurrent = rows.outcomeCurrent
  retryRelations : next.retryRelations = rows.retryRelations

/-- What the review reads of a task. -/
def ActivityRows.Reviewed (rows : ActivityRows) (taskId : String)
    (authority : ActivityAuthority) : Prop :=
  ∃ task identity, reviewedTask rows taskId = .ok (task, identity) ∧
    activityAuthority rows task identity = .ok authority

theorem task?_some (found : rows.task? taskId = some task) : task.taskId = taskId :=
  (Rows.key_of_find? found).2

theorem reviewedTask_ok :
    reviewedTask rows taskId = .ok (task, identity) ↔ rows.task? taskId = some task ∧
      rows.identities.find? (·.taskId = taskId) = some identity ∧
      task.taskKind = .wfm ∧ isTaskNo identity.taskNo := by
  unfold reviewedTask
  cases rows.task? taskId with
  | none => simp
  | some held =>
    cases rows.identities.find? (·.taskId = taskId) with
    | none => simp
    | some owner =>
      simp only [except_ok, Prod.mk.injEq, Option.some.injEq]
      constructor
      · rintro ⟨held, rfl, rfl⟩
        exact ⟨rfl, rfl, held⟩
      · rintro ⟨rfl, rfl, held⟩
        exact ⟨held, rfl, rfl⟩

theorem lineageFields_ok (read : lineageFields rows taskId = .ok lineage) :
    lineage.activityLineageId = rows.lineageOf taskId ∧
      ∀ lineageId, lineage.activityLineageId = some lineageId → isUuid4 lineageId := by
  unfold lineageFields at read
  rw [ActivityRows.lineageOf]
  cases found : rows.current? taskId with
  | none =>
    rw [found] at read
    cases read
    exact ⟨rfl, fun lineageId none => by cases none⟩
  | some current =>
    rw [found] at read
    simp only [except_ok, storedUuid] at read
    obtain ⟨-, canonical, -, -, -, -, -, -, -, -, rfl⟩ := read
    refine ⟨rfl, fun lineageId same => ?_⟩
    obtain rfl := Option.some.inj same
    exact canonical

/-- The parts of an authority. -/
structure ActivityRows.Facts (rows : ActivityRows) (taskId : String)
    (authority : ActivityAuthority) : Prop where
  named : authority.taskId = taskId
  lineage : lineageFields rows taskId = .ok authority.toLineageAuthority
  task : ∃ task, rows.task? taskId = some task ∧ task.revision = authority.taskRevision
  taskNo : (rows.identities.find? (·.taskId = taskId)).map (·.taskNo) = some authority.taskNo

theorem ActivityRows.Reviewed.facts (reviewed : rows.Reviewed taskId authority) :
    rows.Facts taskId authority := by
  obtain ⟨task, _, read, loaded⟩ := reviewed
  obtain ⟨found, owned, -, -⟩ := reviewedTask_ok.mp read
  obtain rfl := task?_some found
  simp only [activityAuthority, except_ok, storedUuid] at loaded
  obtain ⟨-, -, -, _, -, _, -, _, -, _, -, _, read, rfl⟩ := loaded
  exact ⟨rfl, read, ⟨task, found, rfl⟩, by rw [owned, Option.map_some]⟩

/-- A task whose revision and lineage alone were written is read the same otherwise. -/
theorem ActivityRows.Reviewed.transfer (same : rows.Untouched next)
    (reviewed : rows.Reviewed taskId authority) (task : ∀ task, rows.task? taskId = some task →
      next.task? taskId = some { task with revision := revision })
    (positive : authority.taskRevision ≤ revision)
    (read : lineageFields next taskId = .ok lineage) :
    next.Reviewed taskId
      { authority with toLineageAuthority := lineage, taskRevision := revision } := by
  obtain ⟨held, identity, owned, loaded⟩ := reviewed
  obtain ⟨found, owner, kind, numbered⟩ := reviewedTask_ok.mp owned
  obtain rfl := task?_some found
  simp only [activityAuthority, except_ok, storedUuid] at loaded
  obtain ⟨valid, canonical, assigned, source, readSource, plan, readPlan, execution, readExecution,
    outcome, readOutcome, _, -, rfl⟩ := loaded
  refine ⟨{ held with revision := revision }, identity, reviewedTask_ok.mpr
    ⟨task held found, by rw [same.identities]; exact owner, kind, numbered⟩, ?_⟩
  have source' : sourceFields next held.taskId = .ok source := by
    rw [← readSource, sourceFields, sourceFields, same.sourceProjections]
  have plan' : planFields next held.taskId = .ok plan := by
    rw [← readPlan, planFields, planFields, same.planCurrent, same.planRevisions]
  have execution' : executionFields next held.taskId = .ok execution := by
    rw [← readExecution, executionFields, executionFields, same.executionProjections]
  have outcome' : outcomeFields next held.taskId = .ok outcome := by
    rw [← readOutcome, outcomeFields, outcomeFields, same.outcomeCurrent]
  simp only [activityAuthority, except_bind_ok, storedUuid, ensure_ok, pure, Except.pure,
    Except.ok.injEq]
  exact ⟨⟨⟩, lt_of_lt_of_le valid positive, ⟨⟩, canonical, ⟨⟩, assigned, source, source', plan, plan',
    execution, execution', outcome, outcome', lineage, read, rfl⟩

/-! ## All that is read -/

theorem authoritiesFrom_ok :
    authoritiesFrom rows taskIds seen = .ok authorities ↔
      List.Forall₂ rows.Reviewed taskIds authorities ∧
        (∀ authority ∈ authorities, authority.taskNo ∉ seen) ∧
        (authorities.map (·.taskNo)).Nodup := by
  induction taskIds generalizing seen authorities with
  | nil => cases authorities <;> simp [authoritiesFrom]
  | cons taskId taskIds ih =>
    simp only [authoritiesFrom, except_bind_ok, ensure_ok, pure, Except.pure, Except.ok.injEq,
      Prod.exists, ih]
    constructor
    · rintro ⟨task, identity, read, -, fresh, authority, loaded, rest, ⟨others, apart, distinct⟩,
        rfl⟩
      have reviewed : rows.Reviewed taskId authority := ⟨task, identity, read, loaded⟩
      have named : authority.taskNo = identity.taskNo := by
        have owned := reviewed.facts.taskNo
        rw [(reviewedTask_ok.mp read).2.1, Option.map_some] at owned
        exact (Option.some.inj owned).symm
      refine ⟨.cons reviewed others, ?_, ?_⟩
      · rw [List.forall_mem_cons, named]
        exact ⟨fresh, fun other inside seen => apart other inside (List.mem_cons_of_mem _ seen)⟩
      · rw [List.map_cons, List.nodup_cons, named]
        refine ⟨fun inside => ?_, distinct⟩
        obtain ⟨other, listed, same⟩ := List.mem_map.mp inside
        exact apart other listed (same ▸ List.mem_cons_self)
    · rintro ⟨reviewed, apart, distinct⟩
      cases reviewed with
      | @cons _ authority _ rest reviewed others =>
        obtain ⟨task, identity, read, loaded⟩ := id reviewed
        have named : authority.taskNo = identity.taskNo := by
          have owned := reviewed.facts.taskNo
          rw [(reviewedTask_ok.mp read).2.1, Option.map_some] at owned
          exact (Option.some.inj owned).symm
        rw [List.forall_mem_cons, named] at apart
        rw [List.map_cons, List.nodup_cons, named] at distinct
        refine ⟨task, identity, read, ⟨⟩, apart.1, authority, loaded, rest, ⟨others, ?_,
          distinct.2⟩, rfl⟩
        intro other inside seen
        rcases List.mem_cons.mp seen with same | seen
        · exact distinct.1 (same ▸ List.mem_map_of_mem inside)
        · exact apart.2 other inside seen

/-! ## The retry relations of the tasks -/

def RetryRelation.Canonical (row : RetryRelation) : Prop :=
  isUuid4 row.retryRelationId ∧ isUuid4 row.predecessorTaskId ∧ isUuid4 row.successorTaskId

/-- The relation has one of the tasks at an end. -/
def RetryRelation.Meets (row : RetryRelation) (ids : List String) : Prop :=
  row.predecessorTaskId ∈ ids ∨ row.successorTaskId ∈ ids

theorem collectRelation_ok :
    collectRelation seen row = .ok byId ↔ row.Canonical ∧
      (∀ previous ∈ seen, previous.retryRelationId = row.retryRelationId → previous = row) ∧
      byId = row :: seen := by
  simp only [collectRelation, storedUuid, except_ok, RetryRelation.Canonical, and_assoc]
  exact and_congr_right fun _ => and_congr_right fun _ => and_congr_right fun _ =>
    and_congr_right fun _ => eq_comm

theorem collectRelations_ok {found : List RetryRelation}
    (ran : found.foldlM collectRelation seen = .ok byId) :
    (∀ row ∈ found, row.Canonical) ∧ byId = found.reverse ++ seen := by
  induction found generalizing seen with
  | nil =>
    cases ran
    exact ⟨List.forall_mem_nil _, rfl⟩
  | cons row found ih =>
    simp only [List.foldlM_cons, except_ok, collectRelation_ok] at ran
    obtain ⟨_, ⟨canonical, -, rfl⟩, ran⟩ := ran
    obtain ⟨others, rfl⟩ := ih ran
    exact ⟨List.forall_mem_cons.mpr ⟨canonical, others⟩, by simp⟩

theorem collectRelations_succeeds {found seen : List RetryRelation}
    (canonical : ∀ row ∈ found, row.Canonical)
    (distinct : ∀ row ∈ seen ++ found, ∀ other ∈ seen ++ found,
      row.retryRelationId = other.retryRelationId → row = other) :
    ∃ byId, found.foldlM collectRelation seen = .ok byId := by
  induction found generalizing seen with
  | nil => exact ⟨seen, rfl⟩
  | cons row found ih =>
    obtain ⟨here, others⟩ := List.forall_mem_cons.mp canonical
    have moved : ∀ other, other ∈ row :: seen ++ found → other ∈ seen ++ row :: found := by
      intro other inside
      simp only [List.cons_append, List.mem_cons, List.mem_append] at inside ⊢
      tauto
    obtain ⟨byId, rest⟩ := ih others fun first inside second inside' =>
      distinct first (moved first inside) second (moved second inside')
    refine ⟨byId, ?_⟩
    rw [List.foldlM_cons, except_bind_ok]
    refine ⟨row :: seen, collectRelation_ok.mpr ⟨here, fun previous inside same => ?_, rfl⟩, rest⟩
    exact distinct previous (List.mem_append_left _ inside) row (by simp) same

theorem mem_foundRelations {table : List RetryRelation} :
    row ∈ (sqlChunks ids).flatMap (fun chunk =>
      (table.filter fun row => row.predecessorTaskId ∈ chunk ∨ row.successorTaskId ∈ chunk
        ).insertionSort RetryRelation.Before) ↔ row ∈ table ∧ row.Meets ids := by
  simp only [List.mem_flatMap, List.mem_insertionSort, List.mem_filter, decide_eq_true_eq,
    RetryRelation.Meets, ← @mem_sliced ids]
  constructor
  · rintro ⟨chunk, sliced, listed, meets⟩
    exact ⟨listed, meets.imp (⟨chunk, sliced, ·⟩) (⟨chunk, sliced, ·⟩)⟩
  · rintro ⟨listed, ⟨chunk, sliced, meets⟩ | ⟨chunk, sliced, meets⟩⟩
    · exact ⟨chunk, sliced, listed, .inl meets⟩
    · exact ⟨chunk, sliced, listed, .inr meets⟩

variable {relations : List RetryRelation}

theorem loadRetryRelations_ok (ran : loadRetryRelations rows ids = .ok relations) :
    (∀ row ∈ rows.retryRelations, row.Meets ids → row.Canonical) ∧ relations.Nodup ∧
      ∀ row, row ∈ relations ↔ row ∈ rows.retryRelations ∧ row.Meets ids := by
  simp only [loadRetryRelations, except_ok] at ran
  obtain ⟨_, collected, rfl⟩ := ran
  obtain ⟨canonical, rfl⟩ := collectRelations_ok collected
  refine ⟨fun row listed meets => canonical row (mem_foundRelations.mpr ⟨listed, meets⟩), ?_,
    fun row => ?_⟩
  · exact (List.perm_insertionSort _ _).nodup_iff.mpr (List.nodup_dedup _)
  · rw [List.mem_insertionSort, List.mem_dedup, List.append_nil, List.mem_reverse,
      mem_foundRelations]

theorem loadRetryRelations_succeeds (keyed : (rows.retryRelations.map (·.retryRelationId)).Nodup)
    (canonical : ∀ row ∈ rows.retryRelations, row.Meets ids → row.Canonical) :
    ∃ relations, loadRetryRelations rows ids = .ok relations := by
  simp only [loadRetryRelations, except_ok]
  refine (collectRelations_succeeds ?_ ?_).imp' _ fun byId collected => ⟨byId, collected, rfl⟩
  · intro row found
    obtain ⟨listed, meets⟩ := mem_foundRelations.mp found
    exact canonical row listed meets
  · intro row found other found' same
    rw [List.nil_append] at found found'
    exact List.inj_on_of_nodup_map keyed (mem_foundRelations.mp found).1
      (mem_foundRelations.mp found').1 same

/-- Of two seeds the review knows the direct relation, when there is one. -/
theorem directRetryRelationId_ok (ran : directRetryRelationId seedIds relations = .ok relationId) :
    (∀ first second, seedIds = [first, second] →
      (relations.filter (·.Joins first second)).length ≤ 1) ∧
    (relationId ≠ none ↔ ∃ first second, seedIds = [first, second] ∧
      ∃ row ∈ relations, row.Joins first second) := by
  unfold directRetryRelationId at ran
  split at ran
  · next first second =>
    simp only [except_ok] at ran
    obtain ⟨single, rfl⟩ := ran
    constructor
    · rintro _ _ ⟨⟩
      exact single
    · rw [Ne, Option.map_eq_none_iff, List.head?_eq_none_iff, List.filter_eq_nil_iff]
      push Not
      constructor
      · rintro ⟨row, listed, joins⟩
        exact ⟨first, second, rfl, row, listed, of_decide_eq_true joins⟩
      · rintro ⟨_, _, ⟨⟩, row, listed, joins⟩
        exact ⟨row, listed, decide_eq_true joins⟩
  · next other =>
    cases ran
    constructor
    · intro first second same
      exact absurd same (other first second)
    · refine iff_of_false (fun none => none rfl) ?_
      rintro ⟨first, second, same, -⟩
      exact other first second same

theorem directRetryRelationId_succeeds (single : ∀ first second, seedIds = [first, second] →
      (relations.filter (·.Joins first second)).length ≤ 1) :
    ∃ relationId, directRetryRelationId seedIds relations = .ok relationId := by
  unfold directRetryRelationId
  split
  · next first second =>
    simp only [except_ok]
    exact ⟨_, single first second rfl, rfl⟩
  · exact ⟨none, rfl⟩

end Soma.ObjectivesTasks
