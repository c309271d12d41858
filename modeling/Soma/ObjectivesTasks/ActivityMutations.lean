import Soma.ObjectivesTasks.ActivityClosure

/-!
What a material review writes, and what it comes to. Each mutation gives one task its lineage,
an event and a revision, under guards that hold the row it was planned for. After all of them
the tasks of the closure share one lineage or have one each, every other task is where it was,
and the same review finds nothing to change.
-/

namespace Soma.ObjectivesTasks

open Foundation Transaction

variable {rows next : ActivityRows} {decision : ActivityDecision}

/-! ## One mutation -/

namespace TaskLineageMutation

/-- The event a mutation records. -/
def event (mutation : TaskLineageMutation) (decision : ActivityDecision) : ActivityLineageEvent :=
  ⟨mutation.lineageEventId, mutation.taskId, mutation.priorLineageId, some mutation.newLineageId,
    decision.text⟩

/-- The current row it leaves. -/
def current (mutation : TaskLineageMutation) : ActivityLineageCurrent :=
  ⟨mutation.taskId, mutation.newLineageId, mutation.expectedLineageRevision + 1,
    mutation.lineageEventId⟩

end TaskLineageMutation

/-- What the mutations write: their tasks move, the others stay. -/
structure Written (decision : ActivityDecision) (rows next : ActivityRows)
    (mutations : List TaskLineageMutation) : Prop where
  untouched : rows.Untouched next
  keyed : next.Keyed
  lineages : next.lineages = rows.lineages
  taskIds : next.tasks.map (·.taskId) = rows.tasks.map (·.taskId)
  moved : ∀ mutation ∈ mutations, next.current? mutation.taskId = some mutation.current
  recorded : ∀ mutation ∈ mutations,
    next.event? mutation.lineageEventId = some (mutation.event decision)
  advanced : ∀ mutation ∈ mutations, ∃ task, rows.task? mutation.taskId = some task ∧
    next.task? mutation.taskId = some { task with revision := task.revision + 1 }
  kept : ∀ taskId ∉ mutations.map (·.taskId), next.current? taskId = rows.current? taskId ∧
    next.task? taskId = rows.task? taskId
  events : ∀ lineageEventId event, rows.event? lineageEventId = some event →
    next.event? lineageEventId = some event

variable {value : PUnit}

theorem insertLineageEvent_ok (ran : (insertLineageEvent row).run rows = .ok (value, next)) :
    row.lineageEventId ∉ rows.lineageEvents.map (·.lineageEventId) ∧
      next = { rows with lineageEvents := rows.lineageEvents ++ [row] } := by
  simp only [insertLineageEvent, steps_ok] at ran
  obtain ⟨⟨fresh, -⟩, rfl⟩ := ran
  exact ⟨fresh, rfl⟩

structure CurrentWritten (rows : ActivityRows) (written : List ActivityLineageCurrent)
    (row : ActivityLineageCurrent) : Prop where
  keyed : (written.map (·.taskId)).Nodup
  lineages : ∀ row ∈ written, row.activityLineageId ∈ rows.lineages
  own : written.find? (·.taskId = row.taskId) = some row
  others : ∀ taskId, taskId ≠ row.taskId →
    written.find? (·.taskId = taskId) = rows.current? taskId

theorem insertLineageCurrent_ok (keyed : rows.Keyed)
    (ran : (insertLineageCurrent row).run rows = .ok (value, next)) :
    ∃ written, next = { rows with lineageCurrent := written } ∧
      CurrentWritten rows written row := by
  simp only [insertLineageCurrent, steps_ok] at ran
  obtain ⟨⟨fresh, -, known, -⟩, rfl⟩ := ran
  have distinct := Rows.nodup_concat keyed.lineageCurrent fresh
  refine ⟨_, rfl, distinct, ?_, Rows.find?_eq_some distinct (by simp), fun taskId other =>
    Rows.find?_concat_ne other⟩
  intro other inside
  rcases Rows.mem_concat inside with inside | inside
  · exact keyed.lineages other inside
  · rw [inside]
    exact known

theorem updateLineageCurrent_ok (keyed : rows.Keyed)
    (ran : (updateLineageCurrent taskId priorLineageId revision lastEventId newLineageId
      lineageEventId).run rows = .ok (value, next)) :
    ∃ written, next = { rows with lineageCurrent := written } ∧
      CurrentWritten rows written ⟨taskId, newLineageId, revision + 1, lineageEventId⟩ := by
  simp only [updateLineageCurrent, steps_ok] at ran
  obtain ⟨⟨known, -⟩, one, rfl⟩ := ran
  obtain ⟨_, selected, replaced⟩ := Rows.replaced_of_countP
    (fun row : ActivityLineageCurrent => { row with
      activityLineageId := newLineageId, revision := row.revision + 1
      lastEventId := lineageEventId }) one
  simp only [decide_eq_true_eq] at selected
  obtain ⟨rfl, -, rfl, -⟩ := selected
  obtain ⟨distinct, own, others⟩ := replaced.lookups (·.taskId) keyed.lineageCurrent rfl
  refine ⟨_, rfl, distinct, ?_, own, others⟩
  intro other inside
  rcases replaced.mem_next inside with rfl | inside
  · exact known
  · exact keyed.lineages other inside

theorem advanceTask_ok (keyed : rows.Keyed)
    (ran : (advanceTask taskId revision).run rows = .ok (value, next)) :
    ∃ written, next = { rows with tasks := written } ∧
      written.map (·.taskId) = rows.tasks.map (·.taskId) ∧
      (∃ task, rows.task? taskId = some task ∧ written.find? (·.taskId = taskId) =
        some { task with revision := task.revision + 1 }) ∧
      ∀ other, other ≠ taskId → written.find? (·.taskId = other) = rows.task? other := by
  simp only [advanceTask, steps_ok] at ran
  obtain ⟨one, rfl⟩ := ran
  obtain ⟨old, selected, replaced⟩ := Rows.replaced_of_countP
    (fun row : TaskRecord => { row with revision := row.revision + 1 }) one
  simp only [decide_eq_true_eq] at selected
  obtain ⟨rfl, -⟩ := selected
  obtain ⟨-, own, others⟩ := replaced.lookups (·.taskId) keyed.tasks rfl
  exact ⟨_, rfl, replaced.map_eq rfl,
    ⟨old, Rows.find?_eq_some keyed.tasks replaced.mem_old, own⟩, others⟩

variable {mutation : TaskLineageMutation}

theorem writeLineageCurrent_ok (keyed : rows.Keyed)
    (ran : (writeLineageCurrent mutation).run rows = .ok (value, next)) :
    ∃ written, next = { rows with lineageCurrent := written } ∧
      CurrentWritten rows written mutation.current := by
  unfold writeLineageCurrent at ran
  split at ran
  · next unassigned =>
    simp only [steps_ok] at ran
    obtain ⟨-, ran⟩ := ran
    rw [TaskLineageMutation.current, unassigned]
    exact insertLineageCurrent_ok keyed ran
  · split at ran
    · exact updateLineageCurrent_ok keyed ran
    · rw [attempt_ok] at ran
      cases ran.1

theorem applyLineageMutation_ok (keyed : rows.Keyed)
    (ran : (applyLineageMutation decision mutation).run rows = .ok (value, next)) :
    Written decision rows next [mutation] := by
  simp only [applyLineageMutation, steps_ok] at ran
  obtain ⟨_, inserted, _, located, advanced⟩ := ran
  obtain ⟨fresh, rfl⟩ := insertLineageEvent_ok inserted
  have distinct := Rows.nodup_concat keyed.lineageEvents fresh
  have keyedFirst : ActivityRows.Keyed { rows with
      lineageEvents := rows.lineageEvents ++ [mutation.event decision] } :=
    ⟨keyed.tasks, keyed.lineageCurrent, distinct, keyed.retryRelations, keyed.lineages⟩
  obtain ⟨written, rfl, sound⟩ := writeLineageCurrent_ok keyedFirst located
  have keyedSecond : ActivityRows.Keyed { rows with
      lineageEvents := rows.lineageEvents ++ [mutation.event decision]
      lineageCurrent := written } :=
    ⟨keyed.tasks, sound.keyed, distinct, keyed.retryRelations, sound.lineages⟩
  obtain ⟨tasks, rfl, ids, task, others⟩ := advanceTask_ok keyedSecond advanced
  refine { untouched := ⟨rfl, rfl, rfl, rfl, rfl, rfl, rfl⟩
           keyed := ⟨ids.symm ▸ keyed.tasks, sound.keyed, distinct, keyed.retryRelations,
             sound.lineages⟩
           lineages := rfl, taskIds := ids, moved := ?_, recorded := ?_, advanced := ?_
           kept := ?_, events := ?_ }
  · rintro _ (_ | ⟨_, ⟨⟩⟩)
    exact sound.own
  · rintro _ (_ | ⟨_, ⟨⟩⟩)
    exact Rows.find?_eq_some distinct List.mem_concat_self
  · rintro _ (_ | ⟨_, ⟨⟩⟩)
    exact task
  · intro taskId apart
    have other : taskId ≠ mutation.taskId := by simpa using apart
    exact ⟨sound.others taskId other, others taskId other⟩
  · intro lineageEventId event found
    rw [ActivityRows.event?, List.find?_append]
    rw [ActivityRows.event?] at found
    rw [found, Option.some_or]

/-! ## All mutations -/

theorem Written.none (keyed : rows.Keyed) : Written decision rows rows [] where
  untouched := ⟨rfl, rfl, rfl, rfl, rfl, rfl, rfl⟩
  keyed := keyed
  lineages := rfl
  taskIds := rfl
  moved := List.forall_mem_nil _
  recorded := List.forall_mem_nil _
  advanced := List.forall_mem_nil _
  kept _ _ := ⟨rfl, rfl⟩
  events _ _ found := found

variable {mutations : List TaskLineageMutation}

theorem Written.cons {mid : ActivityRows} (first : Written decision rows mid [mutation])
    (rest : Written decision mid next mutations)
    (apart : mutation.taskId ∉ mutations.map (·.taskId)) :
    Written decision rows next (mutation :: mutations) where
  untouched :=
    { identities := rest.untouched.identities.trans first.untouched.identities
      sourceProjections := rest.untouched.sourceProjections.trans first.untouched.sourceProjections
      planRevisions := rest.untouched.planRevisions.trans first.untouched.planRevisions
      planCurrent := rest.untouched.planCurrent.trans first.untouched.planCurrent
      executionProjections :=
        rest.untouched.executionProjections.trans first.untouched.executionProjections
      outcomeCurrent := rest.untouched.outcomeCurrent.trans first.untouched.outcomeCurrent
      retryRelations := rest.untouched.retryRelations.trans first.untouched.retryRelations }
  keyed := rest.keyed
  lineages := rest.lineages.trans first.lineages
  taskIds := rest.taskIds.trans first.taskIds
  moved := by
    refine List.forall_mem_cons.mpr ⟨?_, rest.moved⟩
    rw [(rest.kept _ apart).1]
    exact first.moved mutation List.mem_cons_self
  recorded := by
    refine List.forall_mem_cons.mpr ⟨?_, rest.recorded⟩
    exact rest.events _ _ (first.recorded mutation List.mem_cons_self)
  advanced := by
    refine List.forall_mem_cons.mpr ⟨?_, fun other inside => ?_⟩
    · rw [(rest.kept _ apart).2]
      exact first.advanced mutation List.mem_cons_self
    · obtain ⟨task, found, advanced⟩ := rest.advanced other inside
      have different : other.taskId ∉ [mutation].map (·.taskId) := by
        intro same
        have equal : other.taskId = mutation.taskId := by simpa using same
        exact apart (equal ▸ List.mem_map_of_mem inside)
      rw [(first.kept _ different).2] at found
      exact ⟨task, found, advanced⟩
  kept := by
    intro taskId outside
    rw [List.map_cons, List.mem_cons, not_or] at outside
    obtain ⟨current, task⟩ := rest.kept taskId outside.2
    obtain ⟨current', task'⟩ := first.kept taskId (by simpa using outside.1)
    exact ⟨current.trans current', task.trans task'⟩
  events lineageEventId event found := rest.events _ _ (first.events _ _ found)

/-- **The loop of `_apply_material_review`** writes every mutation. -/
theorem applyLineageMutations_ok (keyed : rows.Keyed) (distinct : (mutations.map (·.taskId)).Nodup)
    (ran : (mutations.forM (applyLineageMutation decision)).run rows = .ok (value, next)) :
    Written decision rows next mutations := by
  induction mutations generalizing rows with
  | nil =>
    rw [List.forM_eq_forM, List.forM_nil, pure_ok] at ran
    obtain ⟨-, rfl⟩ := ran
    exact .none keyed
  | cons mutation mutations ih =>
    rw [List.forM_eq_forM, List.forM_cons, bind_ok] at ran
    obtain ⟨_, _, first, rest⟩ := ran
    rw [List.map_cons, List.nodup_cons] at distinct
    have here := applyLineageMutation_ok keyed first
    exact here.cons (ih here.keyed distinct.2 rest) distinct.1

theorem insertLineages_ok {lineageIds : List String}
    (ran : (lineageIds.forM insertLineage).run rows = .ok (value, next)) :
    lineageIds.Nodup ∧ (∀ lineageId ∈ lineageIds, lineageId ∉ rows.lineages) ∧
      next = { rows with lineages := rows.lineages ++ lineageIds } := by
  induction lineageIds generalizing rows with
  | nil =>
    rw [List.forM_eq_forM, List.forM_nil, pure_ok] at ran
    obtain ⟨-, rfl⟩ := ran
    exact ⟨List.nodup_nil, List.forall_mem_nil _, by rw [List.append_nil]⟩
  | cons lineageId lineageIds ih =>
    simp only [List.forM_eq_forM, List.forM_cons, insertLineage, bind_ok, get_ok, require_ok, set_ok] at ran
    obtain ⟨_, _, ⟨_, _, ⟨rfl, rfl⟩, _, _, ⟨fresh, rfl⟩, rfl⟩, rest⟩ := ran
    obtain ⟨distinct, others, rfl⟩ := ih rest
    simp only [List.mem_append, List.mem_singleton, not_or] at others
    refine ⟨List.nodup_cons.mpr ⟨fun inside => (others _ inside).2 rfl, distinct⟩,
      List.forall_mem_cons.mpr ⟨fresh, fun other inside => (others other inside).1⟩, ?_⟩
    rw [List.append_assoc, List.singleton_append]

/-! ## Where a task lands -/

/-- The task is in the lineage by the decision, and the review can read it. -/
def Landed (rows : ActivityRows) (decision : ActivityDecision) (taskId lineageId : String) : Prop :=
  ∃ lineage, lineageFields rows taskId = .ok lineage ∧
    lineage.activityLineageId = some lineageId ∧ lineage.lastDecision = some decision.text

theorem Landed.lineageOf (landed : Landed rows decision taskId lineageId) :
    rows.lineageOf taskId = some lineageId := by
  obtain ⟨_, read, same, -⟩ := landed
  rw [← (lineageFields_ok read).1, same]

theorem text_mem_activityDecisions (decision : ActivityDecision) :
    decision.text ∈ activityDecisions := by
  cases decision <;> simp [activityDecisions]

theorem Written.landed (written : Written decision rows next mutations)
    (inside : mutation ∈ mutations) (task : isUuid4 mutation.taskId)
    (lineage : isUuid4 mutation.newLineageId) (event : isUuid4 mutation.lineageEventId) :
    Landed next decision mutation.taskId mutation.newLineageId := by
  have moved := written.moved mutation inside
  have recorded := written.recorded mutation inside
  refine ⟨⟨mutation.expectedLineageRevision + 1, some mutation.newLineageId,
    some mutation.lineageEventId, some decision.text⟩, ?_, rfl, rfl⟩
  have bound : boundEvent next mutation.current.lastEventId =
      .ok (mutation.event decision, mutation.newLineageId) := by
    rw [boundEvent, TaskLineageMutation.current, recorded]
    rfl
  unfold lineageFields
  rw [moved]
  simp only [except_bind_ok, storedUuid, ensure_ok]
  exact ⟨⟨⟩, Nat.succ_pos _, ⟨⟩, lineage, ⟨⟩, event, _, bound, ⟨⟩, task, ⟨⟩, rfl, ⟨⟩, lineage, ⟨⟩,
    rfl, ⟨⟩, text_mem_activityDecisions decision, rfl⟩

theorem Written.lineageFields_kept (written : Written decision rows next mutations)
    (outside : taskId ∉ mutations.map (·.taskId)) (read : lineageFields rows taskId = .ok lineage) :
    lineageFields next taskId = .ok lineage := by
  unfold lineageFields at read ⊢
  rw [(written.kept taskId outside).1]
  split at read
  · exact read
  · next current found =>
    simp only [except_bind_ok] at read ⊢
    obtain ⟨_, positive, _, canonical, _, event, held, bound, rest⟩ := read
    refine ⟨_, positive, _, canonical, _, event, held, ?_, rest⟩
    unfold boundEvent at bound ⊢
    split at bound
    · cases bound
    · next recorded found =>
      rw [written.events _ _ found]
      exact bound

/-! ## The plan -/

/-- The mutation carries out what is targeted for a task. -/
structure TaskLineageMutation.Draws (mutation : TaskLineageMutation)
    (target : ActivityAuthority × String) : Prop where
  taskId : mutation.taskId = target.1.taskId
  newLineageId : mutation.newLineageId = target.2
  event : isUuid4 mutation.lineageEventId

theorem drawMutations_draws (call : Call) (index : Nat)
    (changed : List (ActivityAuthority × String)) :
    List.Forall₂ TaskLineageMutation.Draws (drawMutations call index changed) changed := by
  induction changed generalizing index with
  | nil => exact .nil
  | cons target changed ih =>
    obtain ⟨_, _⟩ := target
    exact .cons ⟨rfl, rfl, (call.newUuid4 index).canonical⟩ (ih (index + 2))

theorem drawMutations_taskIds (call : Call) (index : Nat)
    (changed : List (ActivityAuthority × String)) :
    (drawMutations call index changed).map (·.taskId) = changed.map (·.1.taskId) := by
  induction changed generalizing index with
  | nil => rfl
  | cons target changed ih =>
    obtain ⟨_, _⟩ := target
    rw [drawMutations, List.map_cons, List.map_cons, ih]

theorem ownLineages_fst (call : Call) (index : Nat) (authorities : List ActivityAuthority) :
    (ownLineages call index authorities).map (·.1) = authorities := by
  induction authorities generalizing index with
  | nil => rfl
  | cons authority authorities ih => rw [ownLineages, List.map_cons, ih]

theorem ownLineages_canonical (call : Call) (index : Nat) (authorities : List ActivityAuthority) :
    ∀ target ∈ ownLineages call index authorities, isUuid4 target.2 := by
  induction authorities generalizing index with
  | nil => exact List.forall_mem_nil _
  | cons authority authorities ih =>
    exact List.forall_mem_cons.mpr ⟨(call.newUuid4 index).canonical, ih (index + 1)⟩

theorem sharedLineage_of_all (nonempty : authorities ≠ [])
    (all : ∀ authority ∈ authorities, authority.activityLineageId = some lineageId) :
    sharedLineage authorities = some lineageId := by
  have replicated : authorities.map (·.activityLineageId) =
      List.replicate authorities.length (some lineageId) := by
    rw [List.eq_replicate_iff, List.length_map]
    refine ⟨rfl, fun label inside => ?_⟩
    obtain ⟨authority, listed, rfl⟩ := List.mem_map.mp inside
    exact all authority listed
  rw [sharedLineage, replicated, List.replicate_dedup (List.length_eq_zero_iff.not.mpr nonempty)]

theorem all_of_sharedLineage (shared : sharedLineage authorities = some lineageId) :
    ∀ authority ∈ authorities, authority.activityLineageId = some lineageId := by
  unfold sharedLineage at shared
  split at shared
  · next only single =>
    obtain rfl := Option.some.inj shared
    intro authority listed
    have inside : authority.activityLineageId ∈
        (authorities.map (·.activityLineageId)).dedup :=
      List.mem_dedup.mpr (List.mem_map_of_mem listed)
    rw [single] at inside
    exact List.mem_singleton.mp inside
  · cases shared

theorem planMaterialReview_ok :
    planMaterialReview call evaluation = .ok plan ↔ evaluation.authorities ≠ [] ∧
      (lineageTargets call evaluation.decision evaluation.authorities).2 ≠ [] ∧
      plan = ⟨(lineageTargets call evaluation.decision evaluation.authorities).1,
        drawMutations call
          (lineageTargets call evaluation.decision evaluation.authorities).1.length
          (lineageTargets call evaluation.decision evaluation.authorities).2⟩ := by
  simp only [planMaterialReview, except_ok]
  exact and_congr_right fun _ => and_congr_right fun _ => eq_comm

/-- **A review that changes something has a plan**: no failure of the planning is reachable. -/
theorem planMaterialReview_succeeds (call : Call) {evaluation : ActivityReviewEvaluation}
    (nonempty : evaluation.authorities ≠ [])
    (material : semanticNoChange evaluation.decision evaluation.authorities = false) :
    ∃ plan primaryEventId, planMaterialReview call evaluation = .ok plan ∧
      plan.primaryEventId = .ok primaryEventId := by
  have changes : (lineageTargets call evaluation.decision evaluation.authorities).2 ≠ [] := by
    obtain ⟨_, _, listed⟩ := List.exists_cons_of_ne_nil nonempty
    unfold lineageTargets
    split
    · rw [listed, ownLineages]
      exact List.cons_ne_nil _ _
    · next shared distinct =>
      -- All share a lineage, so one of them is there by another decision.
      intro none
      rw [List.map_eq_nil_iff, List.filter_eq_nil_iff] at none
      have decided : ∀ authority ∈ evaluation.authorities,
          authority.lastDecision = some evaluation.decision.text := by
        intro authority inside
        simpa using none authority inside
      unfold semanticNoChange at material
      split at material
      · next same => exact distinct same
      · rw [shared, Option.isSome_some, Bool.true_and, List.all_eq_false] at material
        obtain ⟨authority, inside, other⟩ := material
        exact other (decide_eq_true (decided authority inside))
    · simp [listed]
  have drawn := drawMutations_draws call
    (lineageTargets call evaluation.decision evaluation.authorities).1.length
    (lineageTargets call evaluation.decision evaluation.authorities).2
  cases planned : drawMutations call
      (lineageTargets call evaluation.decision evaluation.authorities).1.length
      (lineageTargets call evaluation.decision evaluation.authorities).2 with
  | nil =>
    rw [planned, List.forall₂_nil_left_iff] at drawn
    exact absurd drawn changes
  | cons mutation mutations =>
    refine ⟨_, mutation.lineageEventId, planMaterialReview_ok.mpr ⟨nonempty, changes, rfl⟩, ?_⟩
    rw [ReviewMutationPlan.primaryEventId, planned]

end Soma.ObjectivesTasks
