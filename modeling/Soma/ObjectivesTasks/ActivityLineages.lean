import Soma.ObjectivesTasks.ActivityMutations

/-!
The lineages after a review. The tasks of the closure carry what the plan gave them, all of
them one lineage or every one its own, and no other task carries it. Read again, the closure
is the same or falls apart into the seeds, and every task in it is where the decision put it.
-/

namespace Soma.ObjectivesTasks

open Foundation Transaction

variable {rows next : ActivityRows} {decision : ActivityDecision} {seedIds : List String}
  {authorities : List ActivityAuthority}

/-! ## What the evaluation read -/

/-- The authorities are those of the closure of the seeds. -/
structure Gathered (rows : ActivityRows) (seedIds : List String)
    (authorities : List ActivityAuthority) : Prop where
  seeds : seedIds ≠ []
  each : ∀ taskId ∈ rows.closure seedIds, ∃ authority ∈ authorities,
    rows.Reviewed taskId authority
  only : ∀ authority ∈ authorities, authority.taskId ∈ rows.closure seedIds ∧
    rows.Reviewed authority.taskId authority
  distinct : (authorities.map (·.taskId)).Nodup
  canonical : ∀ taskId ∈ rows.closure seedIds, isUuid4 taskId ∧
    taskId ∈ rows.tasks.map (·.taskId)

theorem map_taskId_of_reviewed (reviewed : List.Forall₂ rows.Reviewed taskIds authorities) :
    authorities.map (·.taskId) = taskIds := by
  induction reviewed with
  | nil => rfl
  | cons here _ ih => rw [List.map_cons, ih, here.facts.named]

theorem mem_of_reviewed (reviewed : List.Forall₂ rows.Reviewed taskIds authorities)
    (inside : taskId ∈ taskIds) : ∃ authority ∈ authorities, rows.Reviewed taskId authority :=
  Rows.exists_of_mem_images reviewed.flip inside

theorem canonicalSeedIds_ok (ran : canonicalSeedIds seedIds = .ok ⟨⟩) :
    2 ≤ seedIds.length ∧ (∀ seed ∈ seedIds, isUuid4 seed) ∧ seedIds.Nodup := by
  simp only [canonicalSeedIds, except_ok] at ran
  obtain ⟨sized, canonical, distinct, -⟩ := ran
  exact ⟨sized.1, canonical, distinct⟩

theorem gathered_of_loaded (keyed : rows.Keyed) (seeds : canonicalSeedIds seedIds = .ok ⟨⟩)
    (loaded : loadSeedLineages rows seedIds = .ok touched)
    (expanded : expandAffectedIds rows seedIds touched = .ok affected)
    (read : loadAuthorities rows affected = .ok authorities) :
    Gathered rows seedIds authorities := by
  have closed : ∀ taskId, taskId ∈ affected ↔ taskId ∈ rows.closure seedIds := fun _ =>
    affected_eq_closure keyed loaded expanded
  have once := (expandAffectedIds_ok expanded).2.1
  simp only [loadAuthorities, except_ok, authoritiesFrom_ok] at read
  obtain ⟨present, reviewed, -, -⟩ := read
  have named := map_taskId_of_reviewed reviewed
  refine ⟨?_, fun taskId inside => mem_of_reviewed reviewed ((closed taskId).mpr inside), ?_,
    named ▸ once, ?_⟩
  · rintro rfl
    have sized := (canonicalSeedIds_ok seeds).1
    simp at sized
  · intro authority listed
    obtain ⟨taskId, inside, found⟩ := Rows.exists_of_mem_images reviewed listed
    rw [found.facts.named]
    exact ⟨(closed taskId).mp inside, found⟩
  · intro taskId inside
    exact (requireTasks_ok keyed once).mp present taskId ((closed taskId).mpr inside)

/-! ## Where the review puts the tasks -/

/-- The tasks of the closure carry the lineages they are given and nothing else changes but
revisions of tasks. -/
structure Resettled (decision : ActivityDecision) (rows next : ActivityRows)
    (seedIds : List String) (target : String → String) : Prop where
  untouched : rows.Untouched next
  keyed : next.Keyed
  taskIds : next.tasks.map (·.taskId) = rows.tasks.map (·.taskId)
  tasks : ∀ taskId task, rows.task? taskId = some task →
    ∃ revision, task.revision ≤ revision ∧
      next.task? taskId = some { task with revision := revision }
  relabelled : Labels.Relabelled rows.lineageOf next.lineageOf (rows.closure seedIds) target
  landed : ∀ taskId ∈ rows.closure seedIds, Landed next decision taskId (target taskId)

section Targets

variable {mid : ActivityRows} {changed : List (ActivityAuthority × String)} {call : Call}
  {index : Nat}

theorem Written.target_landed
    (written : Written decision mid next (drawMutations call index changed))
    (task : ∀ target ∈ changed, isUuid4 target.1.taskId)
    (lineage : ∀ target ∈ changed, isUuid4 target.2) (inside : target ∈ changed) :
    Landed next decision target.1.taskId target.2 := by
  obtain ⟨mutation, drawn, draws⟩ : ∃ mutation ∈ drawMutations call index changed,
      mutation.Draws target := by
    have paired := (drawMutations_draws call index changed).flip
    obtain ⟨position, found⟩ := List.mem_iff_getElem.mp inside
    obtain ⟨bound, rfl⟩ := found
    have bound' : position < (drawMutations call index changed).length := by
      rwa [← paired.length_eq]
    exact ⟨_, List.getElem_mem bound', paired.get bound bound'⟩
  have landed := written.landed drawn (draws.taskId ▸ task target inside)
    (draws.newLineageId ▸ lineage target inside) draws.event
  rwa [draws.taskId, draws.newLineageId] at landed

/-- The mutations of a plan leave the tasks of the closure with their targets. -/
theorem Written.resettles {target : String → String}
    (written : Written decision { rows with lineages := rows.lineages ++ new } next
      (drawMutations call index changed))
    (within : ∀ entry ∈ changed, entry.1.taskId ∈ rows.closure seedIds)
    (landed : ∀ taskId ∈ rows.closure seedIds, Landed next decision taskId (target taskId))
    (unshared : ∀ taskId, taskId ∉ rows.closure seedIds → ∀ other ∈ rows.closure seedIds,
      rows.lineageOf taskId ≠ some (target other)) :
    Resettled decision rows next seedIds target where
  untouched := ⟨written.untouched.identities, written.untouched.sourceProjections,
    written.untouched.planRevisions, written.untouched.planCurrent,
    written.untouched.executionProjections, written.untouched.outcomeCurrent,
    written.untouched.retryRelations⟩
  keyed := written.keyed
  taskIds := written.taskIds
  tasks := by
    intro taskId task found
    by_cases moved : taskId ∈ (drawMutations call index changed).map (·.taskId)
    · obtain ⟨mutation, drawn, rfl⟩ := List.mem_map.mp moved
      obtain ⟨_, held, advanced⟩ := written.advanced mutation drawn
      obtain rfl := Option.some.inj (held.symm.trans found)
      exact ⟨_, Nat.le_succ _, advanced⟩
    · exact ⟨task.revision, le_rfl, (written.kept taskId moved).2.trans found⟩
  relabelled :=
    { inside := fun taskId inside => (landed taskId inside).lineageOf
      outside := by
        intro taskId outside
        have unmoved : taskId ∉ (drawMutations call index changed).map (·.taskId) := by
          rw [drawMutations_taskIds]
          intro moved
          obtain ⟨entry, listed, rfl⟩ := List.mem_map.mp moved
          exact outside (within entry listed)
        rw [ActivityRows.lineageOf, (written.kept taskId unmoved).1]
        rfl
      unshared := unshared }
  landed := landed

end Targets

/-! ## The three plans -/

theorem lineageTargets_cases (call : Call) (decision : ActivityDecision)
    (authorities : List ActivityAuthority) :
    (decision = .distinctActivity ∧ lineageTargets call decision authorities =
      ((ownLineages call 0 authorities).map (·.2), ownLineages call 0 authorities)) ∨
    (decision ≠ .distinctActivity ∧ ∃ lineageId, sharedLineage authorities = some lineageId ∧
      lineageTargets call decision authorities =
        ([], (authorities.filter (·.lastDecision ≠ some decision.text)).map (·, lineageId))) ∨
    (decision ≠ .distinctActivity ∧ lineageTargets call decision authorities =
      ([(call.newUuid4 0).value], authorities.map (·, (call.newUuid4 0).value))) := by
  unfold lineageTargets
  split
  · exact .inl ⟨rfl, rfl⟩
  · next lineageId distinct shared => exact .inr (.inl ⟨distinct, lineageId, shared, rfl⟩)
  · next distinct _ => exact .inr (.inr ⟨distinct, rfl⟩)

theorem lineageOf_known (keyed : rows.Keyed) (carried : rows.lineageOf taskId = some lineageId) :
    lineageId ∈ rows.lineages := by
  obtain ⟨row, listed, -, rfl⟩ := (lineageOf_some keyed).mp carried
  exact keyed.lineages row listed

variable {value : PUnit}

theorem applyMaterialReview_ok (keyed : rows.Keyed) (gathered : Gathered rows seedIds authorities)
    {changed : List (ActivityAuthority × String)} (among : (changed.map (·.1)).Sublist authorities)
    (ran : (applyMaterialReview decision ⟨new, drawMutations call new.length changed⟩).run rows =
      .ok (value, next)) :
    new.Nodup ∧ (∀ lineageId ∈ new, lineageId ∉ rows.lineages) ∧
      Written decision { rows with lineages := rows.lineages ++ new } next
        (drawMutations call new.length changed) := by
  simp only [applyMaterialReview, steps_ok] at ran
  obtain ⟨_, inserted, written⟩ := ran
  obtain ⟨distinct, fresh, rfl⟩ := insertLineages_ok inserted
  refine ⟨distinct, fresh, applyLineageMutations_ok ?_ ?_ written⟩
  · exact ⟨keyed.tasks, keyed.lineageCurrent, keyed.lineageEvents, keyed.retryRelations,
      fun row listed => List.mem_append_left _ (keyed.lineages row listed)⟩
  · rw [drawMutations_taskIds]
    have same : changed.map (·.1.taskId) = (changed.map (·.1)).map (·.taskId) := by
      rw [List.map_map]
      rfl
    rw [same]
    exact gathered.distinct.sublist (among.map _)

theorem map_target_fst (lineageId : String) (authorities : List ActivityAuthority) :
    (authorities.map (·, lineageId)).map (·.1) = authorities := by
  rw [List.map_map]
  exact List.map_id _

/-- A lineage of its own for every task of the closure. -/
theorem resettled_apart (keyed : rows.Keyed) (gathered : Gathered rows seedIds authorities)
    (ran : (applyMaterialReview decision ⟨(ownLineages call 0 authorities).map (·.2),
      drawMutations call ((ownLineages call 0 authorities).map (·.2)).length
        (ownLineages call 0 authorities)⟩).run rows = .ok (value, next)) :
    ∃ target, Resettled decision rows next seedIds target ∧
      Set.InjOn target (rows.closure seedIds) := by
  have firsts := ownLineages_fst call 0 authorities
  obtain ⟨distinct, fresh, written⟩ := applyMaterialReview_ok keyed gathered (by rw [firsts]) ran
  have gatheredEntry : ∀ entry ∈ ownLineages call 0 authorities,
      entry.1.taskId ∈ rows.closure seedIds := by
    intro entry listed
    have own : entry.1 ∈ authorities := by
      rw [← firsts]
      exact List.mem_map_of_mem listed
    exact (gathered.only entry.1 own).1
  have entries : ∀ taskId ∈ rows.closure seedIds, ∃ entry ∈ ownLineages call 0 authorities,
      entry.1.taskId = taskId := by
    intro taskId inside
    obtain ⟨_, listed, reviewed⟩ := gathered.each taskId inside
    rw [← firsts] at listed
    obtain ⟨entry, drawn, rfl⟩ := List.mem_map.mp listed
    exact ⟨entry, drawn, reviewed.facts.named⟩
  have keyedEntries : ((ownLineages call 0 authorities).map (·.1.taskId)).Nodup := by
    have same : (ownLineages call 0 authorities).map (·.1.taskId) =
        ((ownLineages call 0 authorities).map (·.1)).map (·.taskId) := by
      rw [List.map_map]
      rfl
    rw [same, firsts]
    exact gathered.distinct
  -- A task is sent to the lineage drawn for it.
  let target (taskId : String) : String :=
    (((ownLineages call 0 authorities).find? (·.1.taskId = taskId)).map (·.2)).getD ""
  have targeted : ∀ entry ∈ ownLineages call 0 authorities,
      target entry.1.taskId = entry.2 := by
    intro entry listed
    have found : (ownLineages call 0 authorities).find?
        (fun other => other.1.taskId = entry.1.taskId) = some entry :=
      Rows.find?_eq_some keyedEntries listed
    simp only [target, found, Option.map_some, Option.getD_some]
  refine ⟨target, written.resettles gatheredEntry ?_ ?_, ?_⟩
  · intro taskId inside
    obtain ⟨entry, listed, rfl⟩ := entries taskId inside
    rw [targeted entry listed]
    exact written.target_landed
      (fun entry listed => (gathered.canonical _ (gatheredEntry entry listed)).1)
      (ownLineages_canonical call 0 authorities) listed
  · intro taskId _ other inside carried
    obtain ⟨entry, listed, rfl⟩ := entries other inside
    rw [targeted entry listed] at carried
    exact fresh entry.2 (List.mem_map_of_mem listed) (lineageOf_known keyed carried)
  · intro first inside second inside' same
    obtain ⟨entry, listed, rfl⟩ := entries first inside
    obtain ⟨entry', listed', rfl⟩ := entries second inside'
    rw [targeted entry listed, targeted entry' listed'] at same
    rw [List.inj_on_of_nodup_map distinct listed listed' same]

variable {lineageId : String}

/-- One new lineage for all of the closure. -/
theorem resettled_together (keyed : rows.Keyed) (gathered : Gathered rows seedIds authorities)
    (canonical : isUuid4 lineageId)
    (ran : (applyMaterialReview decision ⟨[lineageId], drawMutations call [lineageId].length
      (authorities.map (·, lineageId))⟩).run rows = .ok (value, next)) :
    Resettled decision rows next seedIds fun _ => lineageId := by
  obtain ⟨-, fresh, written⟩ := applyMaterialReview_ok keyed gathered
    (by rw [map_target_fst]) ran
  have gatheredEntry : ∀ entry ∈ authorities.map (·, lineageId),
      entry.1.taskId ∈ rows.closure seedIds := by
    intro entry listed
    obtain ⟨authority, own, rfl⟩ := List.mem_map.mp listed
    exact (gathered.only authority own).1
  refine written.resettles gatheredEntry ?_ ?_
  · intro taskId inside
    obtain ⟨authority, listed, reviewed⟩ := gathered.each taskId inside
    have landed := written.target_landed
      (fun entry listed => (gathered.canonical _ (gatheredEntry entry listed)).1)
      (fun entry listed => by
        obtain ⟨_, -, rfl⟩ := List.mem_map.mp listed
        exact canonical)
      (List.mem_map_of_mem listed)
    rwa [reviewed.facts.named] at landed
  · intro taskId _ _ _ carried
    exact fresh lineageId List.mem_cons_self (lineageOf_known keyed carried)

/-- The closure is one lineage already, and the decision of some of its tasks changes. -/
theorem resettled_again (keyed : rows.Keyed) (gathered : Gathered rows seedIds authorities)
    (shared : sharedLineage authorities = some lineageId)
    (ran : (applyMaterialReview decision ⟨[], drawMutations call ([] : List String).length
      ((authorities.filter (·.lastDecision ≠ some decision.text)).map (·, lineageId))⟩).run rows =
        .ok (value, next)) : Resettled decision rows next seedIds fun _ => lineageId := by
  have all := all_of_sharedLineage shared
  obtain ⟨-, -, written⟩ := applyMaterialReview_ok keyed gathered
    (by rw [map_target_fst]; exact List.filter_sublist) ran
  have gatheredEntry : ∀ entry ∈ (authorities.filter
      (·.lastDecision ≠ some decision.text)).map (·, lineageId),
      entry.1.taskId ∈ rows.closure seedIds := by
    intro entry listed
    obtain ⟨authority, own, rfl⟩ := List.mem_map.mp listed
    exact (gathered.only authority (List.mem_filter.mp own).1).1
  have carried : ∀ taskId ∈ rows.closure seedIds, rows.lineageOf taskId = some lineageId ∧
      isUuid4 lineageId := by
    intro taskId inside
    obtain ⟨authority, listed, reviewed⟩ := gathered.each taskId inside
    have read := lineageFields_ok reviewed.facts.lineage
    exact ⟨read.1.symm.trans (all authority listed), read.2 lineageId (all authority listed)⟩
  refine written.resettles gatheredEntry ?_ ?_
  · intro taskId inside
    obtain ⟨authority, listed, reviewed⟩ := gathered.each taskId inside
    have facts := reviewed.facts
    by_cases decided : authority.lastDecision = some decision.text
    · refine ⟨authority.toLineageAuthority, written.lineageFields_kept ?_ facts.lineage,
        all authority listed, decided⟩
      -- The task has no mutation: it is there by the decision.
      rw [drawMutations_taskIds]
      intro moved
      obtain ⟨entry, drawn, same⟩ := List.mem_map.mp moved
      obtain ⟨_, kept, rfl⟩ := List.mem_map.mp drawn
      obtain ⟨listed', undecided⟩ := List.mem_filter.mp kept
      have equal := List.inj_on_of_nodup_map gathered.distinct listed' listed
        (same.trans facts.named.symm)
      rw [equal] at undecided
      exact of_decide_eq_true undecided decided
    · have landed := written.target_landed
        (fun entry listed => (gathered.canonical _ (gatheredEntry entry listed)).1)
        (fun entry listed => by
          obtain ⟨_, -, rfl⟩ := List.mem_map.mp listed
          exact (carried taskId inside).2)
        (List.mem_map_of_mem (List.mem_filter.mpr ⟨listed, decide_eq_true decided⟩))
      rwa [facts.named] at landed
  · intro taskId outside _ _
    obtain ⟨seed, _, same⟩ := List.exists_cons_of_ne_nil gathered.seeds
    exact Labels.unshared_of_shared ⟨seed, by simp [same]⟩
      (fun item inside => (carried item inside).1) outside

/-! ## The review document -/

@[simp] theorem fingerprintObject_encodes (authority : ActivityAuthority) :
    authority.fingerprintObject.Encodes := by
  simp [ActivityAuthority.fingerprintObject, jsonInterval]

theorem activityReviewDocument_encodes (decision : ActivityDecision)
    (seedTasks : List (String × Nat)) (authorities : List ActivityAuthority)
    (relations : List RetryRelation) :
    (activityReviewDocument decision seedTasks authorities relations).Encodes := by
  simp only [activityReviewDocument, encodes_obj, List.forall_mem_cons, encodes_str, encodes_arr,
    List.forall_mem_map]
  simp [RetryRelation.toResponse]

/-! ## The same review again -/

def ActivityRows.taskNo (rows : ActivityRows) (taskId : String) : Option String :=
  (rows.identities.find? (·.taskId = taskId)).map (·.taskNo)

theorem map_taskNo_of_reviewed (reviewed : List.Forall₂ rows.Reviewed taskIds authorities) :
    (authorities.map (·.taskNo)).map some = taskIds.map rows.taskNo := by
  induction reviewed with
  | nil => rfl
  | cons here _ ih => rw [List.map_cons, List.map_cons, List.map_cons, ih, ← here.facts.taskNo]; rfl

/-- The tasks of a part of a review are read when those of the review were. -/
theorem loadAuthorities_succeeds (read : loadAuthorities rows affected = .ok authorities)
    (same : rows.Untouched next) (keyed : next.Keyed)
    (part : ∀ taskId ∈ affected', taskId ∈ affected) (distinct : affected'.Nodup)
    (canonical : ∀ taskId ∈ affected', isUuid4 taskId ∧ taskId ∈ next.tasks.map (·.taskId))
    (reviewed' : ∀ taskId ∈ affected', ∃ authority, next.Reviewed taskId authority) :
    ∃ authorities', loadAuthorities next affected' = .ok authorities' := by
  simp only [loadAuthorities, except_bind_ok, authoritiesFrom_ok] at read ⊢
  obtain ⟨_, -, reviewed, -, numbered⟩ := read
  obtain ⟨authorities', listed⟩ := Rows.exists_images reviewed'
  refine ⟨authorities', ⟨⟩, (requireTasks_ok keyed distinct).mpr canonical, listed,
    fun _ _ => List.not_mem_nil, ?_⟩
  have numbers : (affected.map rows.taskNo).Nodup := by
    rw [← map_taskNo_of_reviewed reviewed]
    exact numbered.map (Option.some_injective _)
  have unchanged : next.taskNo = rows.taskNo := by
    funext taskId
    rw [ActivityRows.taskNo, ActivityRows.taskNo, same.identities]
  have numbers' : (affected'.map next.taskNo).Nodup := by
    rw [unchanged]
    exact distinct.map_on fun first inside second inside' equal =>
      List.inj_on_of_nodup_map numbers (part first inside) (part second inside') equal
  rw [← map_taskNo_of_reviewed listed] at numbers'
  exact numbers'.of_map _

/-- The retry relations of a part of a review are read when those of the review were. -/
theorem directRetry_again (loaded : loadRetryRelations rows affected = .ok relations)
    (direct : directRetryRelationId seedIds relations = .ok relationId)
    (same : next.retryRelations = rows.retryRelations)
    (keyed : (next.retryRelations.map (·.retryRelationId)).Nodup)
    (part : ∀ taskId ∈ affected', taskId ∈ affected) (seeds : ∀ seed ∈ seedIds, seed ∈ affected') :
    ∃ relations' relationId', loadRetryRelations next affected' = .ok relations' ∧
      directRetryRelationId seedIds relations' = .ok relationId' ∧
      (relationId ≠ none → relationId' ≠ none) := by
  obtain ⟨canonical, -, member⟩ := loadRetryRelations_ok loaded
  obtain ⟨single, known⟩ := directRetryRelationId_ok direct
  have meets : ∀ row : RetryRelation, row.Meets affected' → row.Meets affected :=
    fun row met => met.imp (part _) (part _)
  obtain ⟨relations', loaded'⟩ := loadRetryRelations_succeeds keyed fun row listed met =>
    canonical row (same ▸ listed) (meets row met)
  obtain ⟨-, distinct', member'⟩ := loadRetryRelations_ok loaded'
  have within : ∀ row ∈ relations', row ∈ relations := by
    intro row inside
    obtain ⟨listed, met⟩ := (member' row).mp inside
    exact (member row).mpr ⟨same ▸ listed, meets row met⟩
  obtain ⟨relationId', direct'⟩ := directRetryRelationId_succeeds
    fun first second pair => by
      have fewer : (relations'.filter (·.Joins first second)).length ≤
          (relations.filter (·.Joins first second)).length := by
        refine List.Nodup.length_le_of_subset (distinct'.filter _) fun row inside => ?_
        obtain ⟨listed, joins⟩ := List.mem_filter.mp inside
        exact List.mem_filter.mpr ⟨within row listed, joins⟩
      exact fewer.trans (single first second pair)
  refine ⟨relations', relationId', loaded', direct', fun found => ?_⟩
  obtain ⟨first, second, pair, row, listed, joins⟩ := known.mp found
  refine (directRetryRelationId_ok direct').2.mpr ⟨first, second, pair, row, ?_, joins⟩
  refine (member' row).mpr ⟨same ▸ ((member row).mp listed).1, .inl ?_⟩
  have ends : row.predecessorTaskId = first ∨ row.predecessorTaskId = second :=
    joins.imp (·.1) (·.1)
  rcases ends with named | named
  · exact named ▸ seeds first (by simp [pair])
  · exact named ▸ seeds second (by simp [pair])

variable {evaluation : ActivityReviewEvaluation} {python : PythonLibrary}

theorem evaluateActivityReview_ok :
    evaluateActivityReview python rows seedIds decision = .ok evaluation ↔
      canonicalSeedIds seedIds = .ok ⟨⟩ ∧
      ∃ touched, loadSeedLineages rows seedIds = .ok touched ∧
      ∃ affected, expandAffectedIds rows seedIds touched = .ok affected ∧
      ∃ authorities, loadAuthorities rows affected = .ok authorities ∧
      ∃ seedTasks, seedTasksOf authorities seedIds = .ok seedTasks ∧
      ∃ relations, loadRetryRelations rows affected = .ok relations ∧
      ∃ relationId, directRetryRelationId seedIds relations = .ok relationId ∧
      (decision = .retryLineage → seedIds.length = 2 ∧ relationId ≠ none) ∧
      ∃ fingerprint, sha256CanonicalJson python
          (activityReviewDocument decision seedTasks authorities relations) = .ok fingerprint ∧
        evaluation =
          { decision, reviewFingerprint := fingerprint, seedTasks, authorities
            currentLineages := (lineageMemberships authorities).map fun membership =>
              (membership.1, membership.2.length)
            retryRelationId := relationId, retryRelations := relations
            semanticNoChange := semanticNoChange decision authorities
            projectedCompetingAttempt := projectedCompetingAttempt decision authorities } := by
  simp only [evaluateActivityReview, except_bind_ok, ensure_ok, pure, Except.pure, Except.ok.injEq,
    exists_const, eq_comm (b := evaluation)]
  constructor
  · rintro ⟨_, read⟩
    exact read
  · intro read
    exact ⟨⟨⟩, read⟩

variable {target : String → String}

/-- **The same review can be read again** after the tasks of its closure were resettled into a
part of it, and reads the closure as it is then. -/
theorem evaluateActivityReview_again (keyed : rows.Keyed)
    (evaluated : evaluateActivityReview python rows seedIds decision = .ok evaluation)
    (resettled : Resettled decision rows next seedIds target)
    (within : next.closure seedIds ⊆ rows.closure seedIds) :
    ∃ evaluation', evaluateActivityReview python next seedIds decision = .ok evaluation' ∧
      evaluation'.semanticNoChange = semanticNoChange decision evaluation'.authorities ∧
      Gathered next seedIds evaluation'.authorities := by
  obtain ⟨seeds, _, loaded, affected, expanded, authorities, read, -, -, _, related,
    _, direct, retried, -⟩ := evaluateActivityReview_ok.mp evaluated
  have gathered := gathered_of_loaded keyed seeds loaded expanded read
  have sound : ∀ row ∈ next.lineageCurrent, row.taskId ∈ rows.closure seedIds → row.Canonical := by
    intro row listed inside
    obtain ⟨lineage, fields, -, -⟩ := resettled.landed row.taskId inside
    have carried : next.lineageOf row.taskId = some row.activityLineageId :=
      (lineageOf_some resettled.keyed).mpr ⟨row, listed, rfl, rfl⟩
    have facts := lineageFields_ok fields
    exact ⟨(gathered.canonical _ inside).1, facts.2 _ (facts.1.trans carried)⟩
  obtain ⟨touched', loaded'⟩ := loadSeedLineages_succeeds fun row listed seed =>
    sound row listed (Labels.subset_closure seed)
  obtain ⟨affected', expanded'⟩ := @expandAffectedIds_succeeds _ seedIds
    touched' fun row listed reached => by
      refine sound row listed (within ?_)
      obtain ⟨seedRow, seedListed, seed, same⟩ := ((loadSeedLineages_ok loaded').2 _).mp reached
      exact .inr ⟨seedRow.taskId, seed, row.activityLineageId,
        (lineageOf_some resettled.keyed).mpr ⟨seedRow, seedListed, rfl, same⟩,
        (lineageOf_some resettled.keyed).mpr ⟨row, listed, rfl, rfl⟩⟩
  have closed : ∀ taskId, taskId ∈ affected ↔ taskId ∈ rows.closure seedIds := fun _ =>
    affected_eq_closure keyed loaded expanded
  have closed' : ∀ taskId, taskId ∈ affected' ↔ taskId ∈ next.closure seedIds := fun _ =>
    affected_eq_closure resettled.keyed loaded' expanded'
  have part : ∀ taskId ∈ affected', taskId ∈ rows.closure seedIds := fun taskId inside =>
    within ((closed' taskId).mp inside)
  have once' := (expandAffectedIds_ok expanded').2.1
  obtain ⟨authorities', read'⟩ := loadAuthorities_succeeds read resettled.untouched resettled.keyed
    (fun taskId inside => (closed taskId).mpr (part taskId inside)) once'
    (fun taskId inside => resettled.taskIds.symm ▸ gathered.canonical taskId (part taskId inside))
    (fun taskId inside => by
      obtain ⟨authority, -, reviewed⟩ := gathered.each taskId (part taskId inside)
      obtain ⟨lineage, fields, -⟩ := resettled.landed taskId (part taskId inside)
      obtain ⟨task, found, same⟩ := reviewed.facts.task
      obtain ⟨_, later, found'⟩ := resettled.tasks taskId task found
      refine ⟨_, reviewed.transfer resettled.untouched (fun held holds => ?_) (same ▸ later) fields⟩
      obtain rfl := Option.some.inj (holds.symm.trans found)
      exact found')
  have gathered' := gathered_of_loaded resettled.keyed seeds loaded' expanded' read'
  obtain ⟨seedTasks', seeded⟩ : ∃ seedTasks', seedTasksOf authorities' seedIds = .ok seedTasks' := by
    refine mapM_succeeds fun seed listed => ?_
    obtain ⟨authority, inside, reviewed⟩ := gathered'.each seed (Labels.subset_closure listed)
    have found : authorities'.find? (fun other => other.taskId = authority.taskId) =
        some authority := Rows.find?_eq_some gathered'.distinct inside
    rw [reviewed.facts.named] at found
    rw [found]
    exact ⟨_, rfl⟩
  obtain ⟨relations', relationId', related', direct', again⟩ := directRetry_again related direct
    resettled.untouched.retryRelations resettled.keyed.retryRelations
    (fun taskId inside => (closed taskId).mpr (part taskId inside))
    (fun seed listed => (closed' seed).mpr (Labels.subset_closure listed))
  obtain ⟨_, digested⟩ := sha256CanonicalJson_encodes python
    (activityReviewDocument_encodes decision seedTasks' authorities' relations')
  exact ⟨_, evaluateActivityReview_ok.mpr ⟨seeds, touched', loaded', affected', expanded',
    authorities', read', seedTasks', seeded, relations', related', relationId', direct',
    fun retry => ⟨(retried retry).1, again (retried retry).2⟩, _, digested, rfl⟩, rfl, gathered'⟩

theorem cursorFilterFingerprint_succeeds (python : PythonLibrary) (seedIds : List String)
    (decision : ActivityDecision) (reviewFingerprint : String) :
    ∃ fingerprint, cursorFilterFingerprint python seedIds decision reviewFingerprint =
      .ok fingerprint := by
  have encodes : (Json.obj [
      ("schema", .str "SOMA_WFM_ACTIVITY_REVIEW_CURSOR_FILTER_V1"),
      ("seed_task_ids", .arr (seedIds.map .str)),
      ("decision", .str decision.text),
      ("review_fingerprint", .str reviewFingerprint)]).Encodes := by
    simp
  obtain ⟨text, digested⟩ := sha256CanonicalJson_encodes python encodes
  exact ⟨_, digested⟩

theorem page_succeeds (python : PythonLibrary) (evaluation : ActivityReviewEvaluation)
    (seedIds : List String) (positive : 0 < affectedLimit) :
    ∃ preview, evaluation.page python seedIds affectedLimit = .ok preview ∧
      preview.evaluation = evaluation := by
  simp only [ActivityReviewEvaluation.page]
  split
  · next more =>
    have inhabited : evaluation.authorities.take affectedLimit ≠ [] := by
      intro none
      rcases List.take_eq_nil_iff.mp none with zero | empty
      · omega
      · simp [empty] at more
    obtain ⟨_, digested⟩ := cursorFilterFingerprint_succeeds python seedIds
      evaluation.decision evaluation.reviewFingerprint
    rw [List.getLast?_eq_some_getLast inhabited, digested]
    exact ⟨_, rfl, rfl⟩
  · exact ⟨_, rfl, rfl⟩

/-! ## No semantic change -/

section

variable (gathered : Gathered rows seedIds authorities)

include gathered

theorem Gathered.landed
    (landed : ∀ taskId ∈ rows.closure seedIds, Landed rows decision taskId (target taskId))
    (listed : authority ∈ authorities) :
    authority.activityLineageId = some (target authority.taskId) ∧
      authority.lastDecision = some decision.text := by
  obtain ⟨inside, reviewed⟩ := gathered.only authority listed
  obtain ⟨lineage, fields, carried, decided⟩ := landed _ inside
  have read := reviewed.facts.lineage
  rw [fields] at read
  obtain rfl := Except.ok.inj read
  exact ⟨carried, decided⟩

theorem Gathered.nonempty : authorities ≠ [] := by
  obtain ⟨seed, _, same⟩ := List.exists_cons_of_ne_nil gathered.seeds
  have inside : seed ∈ rows.closure seedIds := Labels.subset_closure (by simp [same])
  obtain ⟨_, listed, -⟩ := gathered.each seed inside
  exact List.ne_nil_of_mem listed

theorem semanticNoChange_together (landed : ∀ taskId ∈ rows.closure seedIds,
      Landed rows decision taskId lineageId) (shares : decision ≠ .distinctActivity) :
    semanticNoChange decision authorities = true := by
  have shared := sharedLineage_of_all gathered.nonempty fun authority listed =>
    (gathered.landed landed listed).1
  unfold semanticNoChange
  split
  · exact absurd rfl shares
  · rw [shared, Option.isSome_some, Bool.true_and, List.all_eq_true]
    intro authority listed
    exact decide_eq_true (gathered.landed landed listed).2

end

/-- A lineage one task carries alone has one member. -/
theorem lineageMemberCount_one (distinct : (authorities.map (·.taskId)).Nodup)
    (listed : authority ∈ authorities) (carried : authority.activityLineageId = some lineageId)
    (alone : ∀ other ∈ authorities, other.activityLineageId = some lineageId →
      other.taskId = authority.taskId) : lineageMemberCount authorities lineageId = some 1 := by
  have keys : ((lineageMemberships authorities).map (·.1)).Nodup := by
    rw [lineageMemberships, List.map_map]
    have same : ((·.1) ∘ fun lineageId : String => (lineageId,
        ((authorities.filter (·.activityLineageId = some lineageId)).map
          (·.taskId)).insertionSort (· ≤ ·))) = id := rfl
    rw [same, List.map_id, (List.perm_insertionSort _ _).nodup_iff]
    exact List.nodup_dedup _
  have member : (lineageId, ((authorities.filter (·.activityLineageId = some lineageId)).map
      (·.taskId)).insertionSort (· ≤ ·)) ∈ lineageMemberships authorities := by
    refine List.mem_map.mpr ⟨lineageId, ?_, rfl⟩
    rw [List.mem_insertionSort, List.mem_dedup, List.mem_filterMap]
    exact ⟨authority, listed, carried⟩
  have found : (lineageMemberships authorities).find? (fun other => other.1 = lineageId) =
      some (lineageId, ((authorities.filter (·.activityLineageId = some lineageId)).map
        (·.taskId)).insertionSort (· ≤ ·)) := Rows.find?_eq_some keys member
  have single : authorities.countP (fun other =>
      decide (other.activityLineageId = some lineageId)) = 1 :=
    Rows.countP_eq_one distinct listed (decide_eq_true carried)
      fun other inside same => alone other inside (of_decide_eq_true same)
  rw [lineageMemberCount, found, Option.map_some, List.length_insertionSort, List.length_map,
    ← List.countP_eq_length_filter, single]

theorem semanticNoChange_apart (gathered : Gathered rows seedIds authorities)
    (landed : ∀ taskId ∈ rows.closure seedIds,
      Landed rows .distinctActivity taskId (target taskId))
    (distinct : Set.InjOn target (rows.closure seedIds)) :
    semanticNoChange .distinctActivity authorities = true := by
  rw [semanticNoChange, List.all_eq_true]
  intro authority listed
  obtain ⟨carried, decided⟩ := gathered.landed landed listed
  have single := lineageMemberCount_one gathered.distinct listed carried fun other inside same => by
    have own := (gathered.landed landed inside).1
    exact distinct (gathered.only other inside).1 (gathered.only authority listed).1
      (Option.some.inj (own.symm.trans same))
  rw [carried, Option.any_some, decide_eq_true single, Bool.true_and]
  exact decide_eq_true decided

/-! ## The review -/

/-- What an applied review comes to. -/
structure ReviewApplied (python : PythonLibrary) (rows next : ActivityRows)
    (seedIds : List String) (decision : ActivityDecision) : Prop where
  /-- All tasks of the closure share a lineage no other task is in. -/
  together : decision ≠ .distinctActivity → ∃ lineageId, ∀ taskId,
    next.lineageOf taskId = some lineageId ↔ taskId ∈ rows.closure seedIds
  /-- Each of them is alone in its lineage. -/
  apart : decision = .distinctActivity → ∀ taskId ∈ rows.closure seedIds, ∃ lineageId,
    ∀ other, next.lineageOf other = some lineageId ↔ other = taskId
  elsewhere : ∀ taskId, taskId ∉ rows.closure seedIds →
    next.lineageOf taskId = rows.lineageOf taskId
  again : ∀ affectedLimit, 1 ≤ affectedLimit ∧ affectedLimit ≤ 1000 →
    ∃ preview, previewActivityReview python next seedIds decision affectedLimit = .ok preview ∧
      preview.evaluation.semanticNoChange = true

theorem review_of_resettled (keyed : rows.Keyed)
    (evaluated : evaluateActivityReview python rows seedIds decision = .ok evaluation)
    (resettled : Resettled decision rows next seedIds target)
    (shape : if decision = .distinctActivity then Set.InjOn target (rows.closure seedIds)
      else ∃ lineageId, target = fun _ => lineageId) :
    ReviewApplied python rows next seedIds decision := by
  obtain ⟨seeds, _, loaded, _, expanded, _, read, -⟩ :=
    evaluateActivityReview_ok.mp evaluated
  have gathered := gathered_of_loaded keyed seeds loaded expanded read
  obtain ⟨seed, _, listed⟩ := List.exists_cons_of_ne_nil gathered.seeds
  have seeded : seed ∈ {taskId | taskId ∈ seedIds} := by simp [listed]
  have repeats (within : next.closure seedIds ⊆ rows.closure seedIds)
      (unchanged : ∀ authorities', Gathered next seedIds authorities' →
        semanticNoChange decision authorities' = true) (affectedLimit : Int)
      (valid : 1 ≤ affectedLimit ∧ affectedLimit ≤ 1000) :
      ∃ preview, previewActivityReview python next seedIds decision affectedLimit = .ok preview ∧
        preview.evaluation.semanticNoChange = true := by
    obtain ⟨evaluation', evaluated', change, gathered'⟩ :=
      evaluateActivityReview_again keyed evaluated resettled within
    obtain ⟨preview, shown, same⟩ := page_succeeds python evaluation' seedIds
      (show 0 < affectedLimit.toNat by omega)
    refine ⟨preview, ?_, ?_⟩
    · simp only [previewActivityReview, except_ok]
      exact ⟨evaluation', evaluated', valid, shown⟩
    · rw [same, change]
      exact unchanged _ gathered'
  split at shape
  · next distinct =>
    have within : next.closure seedIds ⊆ rows.closure seedIds := by
      rw [ActivityRows.closure, Labels.closure_separated resettled.relabelled shape
        Labels.subset_closure]
      exact Labels.subset_closure
    refine ⟨fun shares => absurd distinct shares, fun _ taskId inside => ⟨target taskId, fun other =>
      Labels.separated resettled.relabelled shape inside⟩, resettled.relabelled.outside,
      repeats within fun authorities' gathered' => ?_⟩
    subst distinct
    exact semanticNoChange_apart gathered' (fun taskId inside =>
      resettled.landed taskId (within inside)) (shape.mono within)
  · next shares =>
    obtain ⟨lineageId, rfl⟩ := shape
    have within : next.closure seedIds ⊆ rows.closure seedIds := by
      rw [ActivityRows.closure, Labels.closure_merged ⟨seed, seeded⟩ resettled.relabelled]
      exact subset_rfl
    refine ⟨fun _ => ⟨lineageId, fun taskId => Labels.merged resettled.relabelled
      ⟨seed, Labels.subset_closure seeded⟩⟩, fun distinct => absurd distinct shares,
      resettled.relabelled.outside, repeats within fun authorities' gathered' => ?_⟩
    exact semanticNoChange_together gathered' (fun taskId inside =>
      resettled.landed taskId (within inside)) shares

/-- The plan of an evaluation resettles the closure. -/
theorem review_of_plan (keyed : rows.Keyed)
    (evaluated : evaluateActivityReview python rows seedIds decision = .ok evaluation)
    (planned : planMaterialReview call evaluation = .ok plan)
    (written : (applyMaterialReview decision plan).run rows = .ok (value, next)) :
    ReviewApplied python rows next seedIds decision := by
  obtain ⟨seeds, _, loaded, _, expanded, authorities, read, _, -, _, -, _, -, -, _, -,
    rfl⟩ := evaluateActivityReview_ok.mp evaluated
  have gathered := gathered_of_loaded keyed seeds loaded expanded read
  obtain ⟨-, -, rfl⟩ := planMaterialReview_ok.mp planned
  rcases lineageTargets_cases call decision authorities with
    ⟨distinct, targets⟩ | ⟨shares, lineageId, shared, targets⟩ | ⟨shares, targets⟩
  · rw [targets] at written
    obtain ⟨_, resettled, _⟩ := resettled_apart keyed gathered written
    exact review_of_resettled keyed evaluated resettled (by rwa [if_pos distinct])
  · rw [targets] at written
    exact review_of_resettled keyed evaluated (resettled_again keyed gathered shared written)
      (by rw [if_neg shares]; exact ⟨lineageId, rfl⟩)
  · rw [targets] at written
    exact review_of_resettled keyed evaluated
      (resettled_together keyed gathered (call.newUuid4 0).canonical written)
      (by rw [if_neg shares]; exact ⟨_, rfl⟩)

/-- **A review acts on the closure of its seeds and on nothing else.** After an applied review
the tasks of the seeds and of every lineage a seed is in share one lineage that no other task
is in, or, when they are distinct, are alone in a lineage each; every other task keeps its
lineage, and the same preview shows no semantic change. A review that is evaluated to change
something always has a plan with a task to change. -/
theorem activity_review_exact (python : PythonLibrary) (call : Call)
    (request : ActivityReviewRequest) {rows : ActivityRows} (keyed : rows.Keyed) :
    (∀ result next, commit (reviewActivityRelationship python call request) rows =
        (.ok result, next) → result.outcome = .applied →
      ReviewApplied python rows next request.seedIds request.decision) ∧
    (∀ evaluation, evaluateActivityReview python rows request.seedIds request.decision =
        .ok evaluation → evaluation.semanticNoChange = false →
      ∃ plan primaryEventId, planMaterialReview call evaluation = .ok plan ∧
        plan.primaryEventId = .ok primaryEventId) := by
  constructor
  · intro result next committed applied
    have ran := commit_ok (congrArg Prod.fst committed)
    rw [congrArg Prod.snd committed] at ran
    simp only [reviewActivityRelationship, steps_ok] at ran
    obtain ⟨-, -, evaluation, evaluated, -, ran⟩ := ran
    split at ran
    · rw [pure_ok] at ran
      obtain ⟨rfl, -⟩ := ran
      cases applied
    · simp only [steps_ok] at ran
      obtain ⟨plan, planned, _, -, _, written, -, rfl⟩ := ran
      exact review_of_plan keyed evaluated planned written
  · intro evaluation evaluated material
    obtain ⟨seeds, touched, loaded, affected, expanded, authorities, read, _, -, _, -, _, -, -, _, -,
      rfl⟩ := evaluateActivityReview_ok.mp evaluated
    have gathered := gathered_of_loaded keyed seeds loaded expanded read
    exact planMaterialReview_succeeds call gathered.nonempty material

def reviewedFirst : Uuid4 := ⟨"00000000-0000-4000-8000-0000000004a1", by decide +kernel⟩
def reviewedSecond : Uuid4 := ⟨"00000000-0000-4000-8000-0000000004a2", by decide +kernel⟩
def reviewedThird : Uuid4 := ⟨"00000000-0000-4000-8000-0000000004a3", by decide +kernel⟩
def sharedLineageId : Uuid4 := ⟨"00000000-0000-4000-8000-0000000004b1", by decide +kernel⟩
def firstEventId : Uuid4 := ⟨"00000000-0000-4000-8000-0000000004c1", by decide +kernel⟩
def thirdEventId : Uuid4 := ⟨"00000000-0000-4000-8000-0000000004c3", by decide +kernel⟩

/-- Three WFM tasks, the first and the third of one activity. -/
def threeAttempts : ActivityRows where
  tasks := [⟨reviewedFirst.value, .wfm, 2⟩, ⟨reviewedSecond.value, .wfm, 1⟩,
    ⟨reviewedThird.value, .wfm, 2⟩]
  identities := [⟨⟨reviewedFirst.value, "TK00000000000001"⟩, reviewedFirst.value, 1⟩,
    ⟨⟨reviewedSecond.value, "TK00000000000002"⟩, reviewedFirst.value, 1⟩,
    ⟨⟨reviewedThird.value, "TK00000000000003"⟩, reviewedFirst.value, 1⟩]
  sourceProjections := []
  planRevisions := []
  planCurrent := []
  executionProjections := []
  outcomeCurrent := []
  lineages := [sharedLineageId.value]
  lineageEvents := [
    ⟨firstEventId.value, reviewedFirst.value, none, some sharedLineageId.value, "same_activity"⟩,
    ⟨thirdEventId.value, reviewedThird.value, none, some sharedLineageId.value, "same_activity"⟩]
  lineageCurrent := [⟨reviewedFirst.value, sharedLineageId.value, 1, firstEventId.value⟩,
    ⟨reviewedThird.value, sharedLineageId.value, 1, thirdEventId.value⟩]
  retryRelations := []

def constantDigest : PythonLibrary where
  jsonLoads := fun _ => none
  sha256Hex := fun _ => String.ofList (List.replicate 64 '0')

def reviewIds : Nat → Uuid4
  | 0 => ⟨"00000000-0000-4000-8000-0000000004d0", by decide +kernel⟩
  | 1 => ⟨"00000000-0000-4000-8000-0000000004d1", by decide +kernel⟩
  | 3 => ⟨"00000000-0000-4000-8000-0000000004d3", by decide +kernel⟩
  | 5 => ⟨"00000000-0000-4000-8000-0000000004d5", by decide +kernel⟩
  | _ => ⟨"00000000-0000-4000-8000-0000000004df", by decide +kernel⟩

/-- The first two attempts are reviewed as one activity. -/
def firstTwoSame : ActivityReviewRequest where
  seedTasks := [(reviewedFirst.value, 2), (reviewedSecond.value, 1)]
  decision := .sameActivity
  reviewFingerprint := String.ofList (List.replicate 64 '0')
  reasonCategory := "operator"

/-- The third attempt was of the activity of the first: it is taken along. -/
theorem third_attempt_taken_along :
    ∃ result next, commit (reviewActivityRelationship constantDigest ⟨reviewIds, 0, "command"⟩
        firstTwoSame) threeAttempts = (.ok result, next) ∧
      (∃ lineageId, ∀ taskId, next.lineageOf taskId = some lineageId ↔
        taskId ∈ threeAttempts.closure firstTwoSame.seedIds) ∧
      next.lineageOf reviewedThird.value = some (reviewIds 0).value := by
  have keyed : threeAttempts.Keyed :=
    ⟨by decide +kernel, by decide +kernel, by decide +kernel, by decide +kernel, by decide +kernel⟩
  have runs : ∃ outcome ∈ ((reviewActivityRelationship constantDigest ⟨reviewIds, 0, "command"⟩
      firstTwoSame).run threeAttempts).toOption, outcome.1.outcome = .applied ∧
        outcome.2.lineageOf reviewedThird.value = some (reviewIds 0).value := by
    decide +kernel
  obtain ⟨⟨result, next⟩, reviewed, applied, taken⟩ := runs
  have committed := commit_of_ok (ok_of_toOption reviewed)
  exact ⟨result, next, committed, ((activity_review_exact constantDigest _ firstTwoSame keyed).1
    result next committed applied).together (by decide), taken⟩

end Soma.ObjectivesTasks
