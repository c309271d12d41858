import Soma.ObjectivesTasks.TaskRetries
import Soma.Theory.Chains
import Soma.Theory.Execution
import Soma.Theory.Rows

/-!
The retry relations are disjoint simple paths. A relation joins the end of one path to the
start of another, a new Local Task starts a path of its own, and a task of a relation is not
deleted, so every run keeps the shape; on it the walk of `_assert_no_cycle` ends and finds a
cycle exactly when the new relation would close one.
-/

namespace Soma.ObjectivesTasks

open Foundation Transaction Chains Execution
open Relation

/-- The first task is tried again as the second. -/
def RetryRows.RetriedAs (rows : RetryRows) (predecessorTaskId successorTaskId : String) : Prop :=
  ∃ row ∈ rows.retryRelations, row.predecessorTaskId = predecessorTaskId ∧
    row.successorTaskId = successorTaskId

/-- The keys, references and canonical identities of the retry relations, and their shape. -/
structure RetriesSound (rows : RetryRows) : Prop where
  predecessors : (rows.retryRelations.map (·.predecessorTaskId)).Nodup
  successors : (rows.retryRelations.map (·.successorTaskId)).Nodup
  known : ∀ row ∈ rows.retryRelations,
    row.predecessorTaskId ∈ rows.taskIds ∧ row.successorTaskId ∈ rows.taskIds
  canonical : ∀ row ∈ rows.retryRelations, isUuid4 row.retryRelationId = true ∧
    isUuid4 row.predecessorTaskId = true ∧ isUuid4 row.successorTaskId = true
  paths : Paths rows.RetriedAs

/-! ## The walk -/

section Walk

variable {rows : RetryRows}

section

variable (sound : RetriesSound rows)

include sound

theorem edgeFromPredecessor_eq (taskId : String) :
    edgeFromPredecessor rows taskId =
      .ok (rows.retryRelations.find? (·.predecessorTaskId = taskId)) := by
  rw [edgeFromPredecessor]
  cases found : rows.retryRelations.find? (·.predecessorTaskId = taskId) with
  | none => rfl
  | some row =>
    have inside := List.mem_of_find?_eq_some found
    have apart : row.predecessorTaskId ≠ row.successorTaskId := fun same =>
      sound.paths.noCycle _ (.single ⟨row, inside, rfl, same.symm⟩)
    have edge : edgeFromRow row = .ok row := by
      rw [edgeFromRow, ensure, if_pos (sound.canonical row inside), ensure, if_pos apart]
      rfl
    change (edgeFromRow row).map some = _
    rw [edge]
    rfl

/-- With more rounds than relations that were not followed yet, the walk ends, and it raises
exactly when the task it is at leads to the predecessor. What it has seen lies behind it. -/
theorem followRetries_ends (rounds : Nat) (current : String) (seen : List String)
    (enough : (rows.retryRelations.filter (·.predecessorTaskId ∉ seen)).length < rounds)
    (behind : ∀ task ∈ seen, TransGen rows.RetriedAs task current) :
    followRetries rows predecessorTaskId rounds current seen = some (.error retryCycle) ∧
        ReflTransGen rows.RetriedAs current predecessorTaskId ∨
      followRetries rows predecessorTaskId rounds current seen = some (.ok ()) ∧
        ¬ ReflTransGen rows.RetriedAs current predecessorTaskId := by
  induction rounds generalizing current seen with
  | zero => exact absurd enough (Nat.not_lt_zero _)
  | succ rounds ih =>
    rw [followRetries]
    by_cases arrived : current = predecessorTaskId
    · rw [if_pos arrived]
      exact .inl ⟨rfl, arrived ▸ .refl⟩
    rw [if_neg arrived]
    have unseen : current ∉ seen := fun again => sound.paths.noCycle current (behind _ again)
    rw [if_neg unseen, edgeFromPredecessor_eq sound]
    cases found : rows.retryRelations.find? (·.predecessorTaskId = current) with
    | none =>
      refine .inr ⟨rfl, fun way => ?_⟩
      rcases way.cases_head with same | ⟨next, ⟨row, inside, named, -⟩, -⟩
      · exact arrived same
      · exact List.find?_eq_none.mp found row inside (decide_eq_true named)
    | some edge =>
      obtain ⟨inside, named⟩ := Rows.key_of_find? found
      have step : rows.RetriedAs current edge.successorTaskId := ⟨edge, inside, named, rfl⟩
      have fewer : (rows.retryRelations.filter
          (·.predecessorTaskId ∉ current :: seen)).length < rounds := by
        refine lt_of_lt_of_le ?_ (Nat.le_of_lt_succ enough)
        have narrowed : rows.retryRelations.filter (·.predecessorTaskId ∉ current :: seen) =
            (rows.retryRelations.filter (·.predecessorTaskId ∉ seen)).filter
              (·.predecessorTaskId ≠ current) := by
          rw [List.filter_filter]
          refine List.filter_congr fun row _ => ?_
          simp only [List.mem_cons, not_or, Bool.decide_and]
        rw [narrowed, List.length_filter_lt_length_iff_exists]
        refine ⟨edge, List.mem_filter.mpr ⟨inside, ?_⟩, by simp [named]⟩
        rw [named]
        exact decide_eq_true unseen
      have further : ∀ task ∈ current :: seen, TransGen rows.RetriedAs task edge.successorTaskId := by
        intro task listed
        rcases List.mem_cons.mp listed with rfl | listed
        · exact .single step
        · exact (behind task listed).tail step
      rw [sound.paths.reaches_iff step arrived]
      simpa only [named, ne_eq, not_true_eq_false, if_false] using
        ih edge.successorTaskId (current :: seen) fewer further

/-- The rounds of `_assert_no_cycle` end it, however many more it is given. -/
theorem followRetries_rounds (predecessorTaskId successorTaskId : String) (more : Nat) :
    followRetries rows predecessorTaskId (retryRounds rows + more) successorTaskId [] =
          some (.error retryCycle) ∧
        ReflTransGen rows.RetriedAs successorTaskId predecessorTaskId ∨
      followRetries rows predecessorTaskId (retryRounds rows + more) successorTaskId [] =
          some (.ok ()) ∧
        ¬ ReflTransGen rows.RetriedAs successorTaskId predecessorTaskId := by
  refine followRetries_ends sound _ successorTaskId [] ?_ (by simp)
  have fewer : (rows.retryRelations.filter (·.predecessorTaskId ∉ ([] : List String))).length ≤
      rows.retryRelations.length := List.length_filter_le _ _
  rw [retryRounds]
  omega

/-- `_assert_no_cycle` raises exactly when the successor leads back to the predecessor. -/
theorem assertNoCycle_cases (predecessorTaskId successorTaskId : String) :
    assertNoCycle rows predecessorTaskId successorTaskId = .error retryCycle ∧
        ReflTransGen rows.RetriedAs successorTaskId predecessorTaskId ∨
      assertNoCycle rows predecessorTaskId successorTaskId = .ok () ∧
        ¬ ReflTransGen rows.RetriedAs successorTaskId predecessorTaskId := by
  rcases followRetries_rounds sound predecessorTaskId successorTaskId 0 with
    ⟨ended, way⟩ | ⟨ended, way⟩
  all_goals
    rw [Nat.add_zero] at ended
    rw [assertNoCycle, ended]
  · exact .inl ⟨rfl, way⟩
  · exact .inr ⟨rfl, way⟩

end

end Walk

/-! ## What the commands leave -/

section Commands

variable {rows next : RetryRows}

theorem RetriesSound.none (empty : rows.retryRelations = []) : RetriesSound rows := by
  have noEdge : rows.RetriedAs = fun _ _ => False := by
    funext first second
    simp [RetryRows.RetriedAs, empty]
  exact ⟨by simp [empty], by simp [empty], by simp [empty], by simp [empty], noEdge ▸ .none⟩

theorem RetriesSound.unchanged (sound : RetriesSound rows)
    (same : next.retryRelations = rows.retryRelations)
    (known : ∀ row ∈ rows.retryRelations,
      row.predecessorTaskId ∈ next.taskIds ∧ row.successorTaskId ∈ next.taskIds) :
    RetriesSound next where
  predecessors := same ▸ sound.predecessors
  successors := same ▸ sound.successors
  known := same ▸ known
  canonical := same ▸ sound.canonical
  paths := by
    have edges : next.RetriedAs = rows.RetriedAs := by
      funext first second
      rw [RetryRows.RetriedAs, same]
      rfl
    exact edges ▸ sound.paths

/-- A relation whose successor does not lead back to its predecessor joins two paths. -/
theorem RetriesSound.insert {row : RetryRelation} {value : PUnit} (sound : RetriesSound rows)
    (canonical : isUuid4 row.retryRelationId = true ∧ isUuid4 row.predecessorTaskId = true ∧
      isUuid4 row.successorTaskId = true)
    (apart : ¬ ReflTransGen rows.RetriedAs row.successorTaskId row.predecessorTaskId)
    (ran : (insertRetryRelation row).run rows = .ok (value, next)) : RetriesSound next := by
  simp only [insertRetryRelation, steps_ok] at ran
  obtain ⟨-, ⟨endOfPath, startOfPath⟩, known, -, rfl⟩ := ran
  refine ⟨Rows.nodup_concat sound.predecessors endOfPath,
    Rows.nodup_concat sound.successors startOfPath, ?_, ?_, ?_⟩
  · intro other inside
    rcases Rows.mem_concat inside with old | new
    · exact sound.known other old
    · exact new ▸ known
  · intro other inside
    rcases Rows.mem_concat inside with old | new
    · exact sound.canonical other old
    · exact new ▸ canonical
  · refine sound.paths.join ?_ ?_ apart fun first second => ?_
    · rintro after ⟨other, inside, named, -⟩
      exact endOfPath (named ▸ List.mem_map_of_mem inside)
    · rintro before ⟨other, inside, -, named⟩
      exact startOfPath (named ▸ List.mem_map_of_mem inside)
    · constructor
      · rintro ⟨other, inside, rfl, rfl⟩
        rcases Rows.mem_concat inside with old | rfl
        · exact .inl ⟨other, old, rfl, rfl⟩
        · exact .inr ⟨rfl, rfl⟩
      · rintro (⟨other, inside, named⟩ | ⟨rfl, rfl⟩)
        · exact ⟨other, List.mem_append_left _ inside, named⟩
        · exact ⟨row, List.mem_concat_self, rfl, rfl⟩

theorem RetriesSound.unnamed (sound : RetriesSound rows) (unknown : taskId ∉ rows.taskIds)
    (way : ReflTransGen rows.RetriedAs taskId other) : taskId = other := by
  rcases way.cases_head with same | ⟨_, ⟨row, inside, named, -⟩, -⟩
  · exact same
  · exact absurd (named ▸ (sound.known row inside).1) unknown

theorem insertRetryTask_ok (ran : (insertRetryTask row).run rows = .ok (value, next)) :
    row.taskId ∉ rows.taskIds ∧ next.retryRelations = rows.retryRelations ∧
      next.taskIds = rows.taskIds ++ [row.taskId] := by
  simp only [insertRetryTask, steps_ok] at ran
  obtain ⟨fresh, rfl⟩ := ran
  refine ⟨fresh, rfl, ?_⟩
  rw [RetryRows.taskIds, List.map_append]
  rfl

theorem insertInitialPlan_ok (ran : (insertInitialPlan row).run rows = .ok (value, next)) :
    next.retryRelations = rows.retryRelations ∧ next.taskIds = rows.taskIds := by
  simp only [insertInitialPlan, steps_ok] at ran
  obtain ⟨-, rfl⟩ := ran
  exact ⟨rfl, rfl⟩

theorem linkRelationships_ok
    (ran : (linkRelationships call successorId index relationships).run rows = .ok (value, next)) :
    next.retryRelations = rows.retryRelations ∧ next.taskIds = rows.taskIds := by
  induction relationships generalizing index rows with
  | nil =>
    rw [linkRelationships, pure_ok] at ran
    obtain ⟨-, rfl⟩ := ran
    exact ⟨rfl, rfl⟩
  | cons relationship rest ih =>
    simp only [linkRelationships, linkRelationship, steps_ok] at ran
    obtain ⟨_, ran⟩ := ran
    obtain ⟨same, tasks⟩ := ih ran
    exact ⟨same, tasks⟩

theorem createLocalTaskRetry_sound (sound : RetriesSound rows)
    (ran : (createLocalTaskRetry library call request clone).run rows = .ok (result, next)) :
    RetriesSound next := by
  simp only [createLocalTaskRetry, applyLocalRetry, steps_ok] at ran
  obtain ⟨_, valid, _, -, _,
    ⟨_, inserted, _, planned, third, linked, fourth, related, cloned⟩, -, rfl⟩ := ran
  simp only [LocalRetryRequest.validate, requireUuid4, except_ok] at valid
  obtain ⟨canonical, -⟩ := valid
  obtain ⟨fresh, sameFirst, tasksFirst⟩ := insertRetryTask_ok inserted
  obtain ⟨sameSecond, tasksSecond⟩ := insertInitialPlan_ok planned
  obtain ⟨sameThird, tasksThird⟩ := linkRelationships_ok linked
  have same : third.retryRelations = rows.retryRelations :=
    sameThird.trans (sameSecond.trans sameFirst)
  have tasks : third.taskIds = rows.taskIds ++ [(call.newUuid4 0).value] :=
    tasksThird.trans (tasksSecond.trans tasksFirst)
  have grown : RetriesSound third := sound.unchanged same fun row inside => by
    rw [tasks]
    exact ⟨List.mem_append_left _ (sound.known row inside).1,
      List.mem_append_left _ (sound.known row inside).2⟩
  -- The new task is in no relation yet, so it leads to itself only.
  have apart : ¬ ReflTransGen third.RetriedAs (call.newUuid4 0).value
      request.predecessorTaskId := by
    intro way
    have edges : third.RetriedAs = rows.RetriedAs := by
      funext one other
      rw [RetryRows.RetriedAs, same]
      rfl
    rw [edges] at way
    have looped := sound.unnamed fresh way
    simp only [insertRetryRelation, steps_ok] at related
    obtain ⟨-, -, -, distinct, -⟩ := related
    exact distinct looped.symm
  have joined : RetriesSound fourth := by
    refine grown.insert ?_ apart related
    exact ⟨(call.newUuid4 1).canonical, canonical, (call.newUuid4 0).canonical⟩
  split at cloned
  · rw [pure_ok] at cloned
    exact cloned.2 ▸ joined
  · rw [attempt_ok] at cloned
    exact cloned.2 ▸ joined

theorem linkWfmRetryAttempt_sound (sound : RetriesSound rows)
    (ran : (linkWfmRetryAttempt call request).run rows = .ok (result, next)) :
    RetriesSound next := by
  simp only [linkWfmRetryAttempt, steps_ok] at ran
  obtain ⟨valid, inserts, prepared, ran⟩ := ran
  simp only [WfmRetryRequest.validate, requireUuid4, except_ok] at valid
  obtain ⟨predecessor, successor, -⟩ := valid
  cases inserts with
  | false =>
    simp only [Bool.false_eq_true, if_false, pure_ok] at ran
    exact ran.2 ▸ sound
  | true =>
    simp only [if_true, steps_ok] at ran
    obtain ⟨_, inserted, -, rfl⟩ := ran
    refine sound.insert ?_ ?_ inserted
    · exact ⟨(call.newUuid4 0).canonical, predecessor, successor⟩
    simp only [prepareWfmRetry, except_ok] at prepared
    obtain ⟨_, -, _, -, -, _, -, _, -, prepared⟩ := prepared
    split at prepared
    · simp only [except_ok] at prepared
      obtain ⟨-, returned⟩ := prepared
      cases returned
    · simp only [except_ok] at prepared
      obtain ⟨-, checked, -⟩ := prepared
      rcases assertNoCycle_cases sound request.predecessorWfmTaskId request.successorWfmTaskId with
        ⟨raised, -⟩ | ⟨-, apart⟩
      · rw [raised] at checked
        cases checked
      · exact apart

theorem hardDeleteTask_sound (sound : RetriesSound rows)
    (ran : (hardDeleteTask taskId baseRevision review).run rows = .ok (result, next)) :
    RetriesSound next := by
  simp only [hardDeleteTask, steps_ok] at ran
  obtain ⟨-, -, ran⟩ := ran
  split at ran
  · rw [throw_ok] at ran
    exact ran.elim
  · simp only [steps_ok] at ran
    obtain ⟨-, -, -, -, unreferenced, -, rfl⟩ := ran
    obtain ⟨-, -, -, -, predecessor, successor⟩ := unreferenced
    have left : ∀ id, id ∈ rows.taskIds → id ≠ taskId →
        id ∈ (rows.tasks.filter (·.taskId ≠ taskId)).map (·.taskId) := by
      intro id inside other
      obtain ⟨_, listed, rfl⟩ := List.mem_map.mp inside
      exact List.mem_map_of_mem (List.mem_filter.mpr ⟨listed, decide_eq_true other⟩)
    refine sound.unchanged rfl fun row inside => ⟨?_, ?_⟩
    · exact left _ (sound.known row inside).1 fun same =>
        predecessor (same ▸ List.mem_map_of_mem inside)
    · exact left _ (sound.known row inside).2 fun same =>
        successor (same ▸ List.mem_map_of_mem inside)

end Commands

/-! ## Runs -/

/-- A transaction of one of the commands, or whatever other commands do: they leave the
relations alone and delete no task. -/
inductive RetryStep : RetryRows → RetryRows → Prop
  | createLocalTaskRetry (rows : RetryRows) (library : TaskNameLibrary) (call : Call)
      (request : LocalRetryRequest) (clone : InventoryClone) :
      RetryStep rows (commit (createLocalTaskRetry library call request clone) rows).2
  | linkWfmRetryAttempt (rows : RetryRows) (call : Call) (request : WfmRetryRequest) :
      RetryStep rows (commit (linkWfmRetryAttempt call request) rows).2
  | hardDelete (rows : RetryRows) (taskId : String) (baseRevision : Int)
      (review : TaskHardDeleteReview) :
      RetryStep rows (commit (hardDeleteTask taskId baseRevision review) rows).2
  | elsewhere (rows next : RetryRows) (relations : next.retryRelations = rows.retryRelations)
      (tasks : ∀ id ∈ rows.taskIds, id ∈ next.taskIds) : RetryStep rows next

/-- A database in which nothing has been tried again yet. -/
def NoRetries (rows : RetryRows) : Prop :=
  rows.retryRelations = []

theorem reachable_sound (reached : Reachable NoRetries RetryStep rows) : RetriesSound rows := by
  refine reached.invariant RetriesSound (fun _ => RetriesSound.none) ?_
  intro rows next sound step
  cases step with
  | createLocalTaskRetry =>
    exact commit_holds sound fun _ _ ran => createLocalTaskRetry_sound sound ran
  | linkWfmRetryAttempt =>
    exact commit_holds sound fun _ _ ran => linkWfmRetryAttempt_sound sound ran
  | hardDelete => exact commit_holds sound fun _ _ ran => hardDeleteTask_sound sound ran
  | elsewhere _ relations tasks =>
    exact sound.unchanged relations fun row inside =>
      ⟨tasks _ (sound.known row inside).1, tasks _ (sound.known row inside).2⟩

/-- **Retry relations are disjoint simple paths.** In every state a run of local retries,
linked WFM attempts, task deletions and other commands reaches, a task has one predecessor
and one successor at most and no retries lead from a task back to it; the walk of
`_assert_no_cycle` ends within its rounds, and it raises `TASK_RETRY_CYCLE` exactly when the
new relation would close a cycle and raises nothing else. -/
theorem retry_relations_paths {rows : RetryRows} (reached : Reachable NoRetries RetryStep rows) :
    Paths rows.RetriedAs ∧
    ∀ predecessorTaskId successorTaskId : String,
      (∀ more, followRetries rows predecessorTaskId (retryRounds rows + more) successorTaskId [] =
        some (assertNoCycle rows predecessorTaskId successorTaskId)) ∧
      (assertNoCycle rows predecessorTaskId successorTaskId = .error retryCycle ↔
        ∃ task, TransGen (Joined rows.RetriedAs predecessorTaskId successorTaskId) task task) ∧
      (assertNoCycle rows predecessorTaskId successorTaskId = .error retryCycle ∨
        assertNoCycle rows predecessorTaskId successorTaskId = .ok ()) := by
  have sound := reachable_sound reached
  refine ⟨sound.paths, fun predecessorTaskId successorTaskId => ?_⟩
  rw [closes_iff sound.paths.noCycle]
  rcases assertNoCycle_cases sound predecessorTaskId successorTaskId with
    ⟨checked, way⟩ | ⟨checked, way⟩
  all_goals
    rw [checked]
    refine ⟨fun more => ?_, ?_, ?_⟩
  · rcases followRetries_rounds sound predecessorTaskId successorTaskId more with
      ⟨ended, -⟩ | ⟨-, apart⟩
    · exact ended
    · exact absurd way apart
  · exact ⟨fun _ => way, fun _ => rfl⟩
  · exact .inl rfl
  · rcases followRetries_rounds sound predecessorTaskId successorTaskId more with
      ⟨-, reaches⟩ | ⟨ended, -⟩
    · exact absurd reaches way
    · exact ended
  · exact ⟨fun impossible => (by cases impossible), fun reaches => absurd reaches way⟩
  · exact .inr rfl

/-- Two WFM tasks that were not tried again. -/
def sampleRetryRows : RetryRows where
  tasks := [⟨⟨"00000000-0000-4000-8000-000000000001", .wfm, 1⟩, none⟩,
    ⟨⟨"00000000-0000-4000-8000-000000000002", .wfm, 1⟩, none⟩]
  wfmTaskIdentities := [⟨"00000000-0000-4000-8000-000000000001", "TK00000000000001"⟩,
    ⟨"00000000-0000-4000-8000-000000000002", "TK00000000000002"⟩]
  planRevisions := []
  planCurrent := []
  relationships := []
  retryRelations := []

def sampleRetryCall : Call where
  newUuid4 := fun _ => ⟨"00000000-0000-4000-8000-00000000000a", by decide⟩
  now := 0
  commandId := "00000000-0000-4000-8000-00000000000c"

def sampleRetryLinked : RetryRows :=
  (commit (linkWfmRetryAttempt sampleRetryCall ⟨"00000000-0000-4000-8000-000000000001", 1,
    "00000000-0000-4000-8000-000000000002", 1, none⟩) sampleRetryRows).2

theorem reversed_link_closes_cycle :
    ∃ task, TransGen (Joined sampleRetryLinked.RetriedAs "00000000-0000-4000-8000-000000000002"
      "00000000-0000-4000-8000-000000000001") task task := by
  have start : NoRetries sampleRetryRows := rfl
  have reached : Reachable NoRetries RetryStep sampleRetryLinked :=
    .step (.start start) (.linkWfmRetryAttempt sampleRetryRows _ _)
  have refused : assertNoCycle sampleRetryLinked "00000000-0000-4000-8000-000000000002"
      "00000000-0000-4000-8000-000000000001" = .error retryCycle := by decide +kernel
  exact ((retry_relations_paths reached).2 _ _).2.1.mp refused

end Soma.ObjectivesTasks
