import Soma.Imports.Checkpoints

/-!
What else holds of the import tables between commands (`Standing`), as far as
completing a run needs it: ids and fingerprints are well formed, a run under
recovery has a checkpoint to recover against, and a run waiting for its source
check carries no rows.
-/

namespace Soma.Imports

open Foundation Transaction Rows Execution

variable {rows next : ImportRows} {actor : Actor}

structure Standing (rows : ImportRows) : Prop where
  sound : Sound rows
  canonical : ∀ run ∈ rows.runs, isUuid4 run.importRunId = true
  fingerprinted : ∀ run ∈ rows.runs, run.runState.isPublished = true →
    ∃ logicalFingerprint, run.logicalFingerprint = some logicalFingerprint ∧
      isSha256 logicalFingerprint = true
  hashed : ∀ row ∈ rows.proposals, isSha256 row.material.proposalFingerprint = true
  recovering : ∀ run ∈ rows.runs, run.runState = .recoveryRequired →
    ∃ checkpoint, rows.checkpoint? run.sourceFamily = some checkpoint
  waiting : ∀ run ∈ rows.runs, run.runState = .noopPendingCheckpoint →
    run.counters.proposalCount = 0 ∧ run.counters.observedRowCount = 0

theorem checkpoint?_of_mem (valid : rows.Constraints) (inside : checkpoint ∈ rows.checkpoints) :
    rows.checkpoint? checkpoint.sourceFamily = some checkpoint :=
  find?_eq_some valid.checkpointFamilies inside

theorem run?_of_mem (valid : rows.Constraints) (inside : run ∈ rows.runs) :
    rows.run? run.importRunId = some run :=
  find?_eq_some valid.runIds inside

theorem proposal?_of_mem (valid : rows.Constraints) (inside : proposal ∈ rows.proposals) :
    rows.proposal? proposal.proposalId = some proposal :=
  find?_eq_some valid.proposalIds inside

theorem Onward.checkpoint? (onward : Onward rows next) (valid : next.Constraints)
    (found : rows.checkpoint? family = some checkpoint) :
    ∃ later, next.checkpoint? family = some later := by
  obtain ⟨inside, same⟩ := checkpoint?_some found
  obtain ⟨later, present, family', -⟩ := onward.chronology checkpoint inside
  refine ⟨later, ?_⟩
  rw [← same, ← family']
  exact checkpoint?_of_mem valid present

theorem ImportRun.mayBecome_fingerprint {run : ImportRun} (allowed : run.mayBecome other = true)
    (published : run.runState.isPublished = true) :
    other.logicalFingerprint = run.logicalFingerprint := by
  simp only [ImportRun.mayBecome, decide_eq_true_eq] at allowed
  obtain ⟨-, -, -, -, -, -, -, kept, -⟩ := allowed
  refine (kept ⟨?_, ?_⟩).1 <;>
  · intro state
    rw [state] at published
    cases published

theorem ImportRun.mayBecome_state {run : ImportRun} (allowed : run.mayBecome other = true) :
    run.runState.mayBecome other.runState = true := by
  simp only [ImportRun.mayBecome, decide_eq_true_eq] at allowed
  exact allowed.2.2.2.2.2.2.2.2

theorem RunState.mayBecome_open {state : RunState} (allowed : state.mayBecome other = true)
    (published : state.isPublished = true) (isOpen : other.isTerminal = false) :
    other = .waitingReview ∧ (state = .staged ∨ state = .waitingReview) ∨
      other = .recoveryRequired ∧ state = .recoveryRequired := by
  revert allowed published isOpen
  cases state <;> cases other <;> simp [RunState.mayBecome, RunState.isPublished,
    RunState.isTerminal]

theorem Moved.standing (moved : Moved actor rows next old new) (standing : Standing rows)
    (sound : Sound next) (onward : Onward rows next) (validNext : next.Constraints)
    (hashed : ∀ row ∈ next.proposals, isSha256 row.material.proposalFingerprint = true)
    (checkpoints : old.runState.isPublished = false → next.checkpoints = rows.checkpoints) :
    Standing next := by
  obtain ⟨identity, family, -⟩ := ImportRun.mayBecome_identity moved.allowed
  have inside := moved.replaced.mem_old
  have kept : ∀ run ∈ next.runs, run = new ∨ run ∈ rows.runs := fun run present =>
    moved.replaced.mem_next present
  refine ⟨sound, ?_, ?_, hashed, ?_, ?_⟩
  · intro run present
    rcases kept run present with rfl | before
    · rw [identity]
      exact standing.canonical old inside
    · exact standing.canonical run before
  · intro run present published
    rcases kept run present with rfl | before
    · by_cases was : old.runState.isPublished = true
      · rw [ImportRun.mayBecome_fingerprint moved.allowed was]
        exact standing.fingerprinted old inside was
      · obtain ⟨logicalFingerprint, _, fingerprint, digest, _⟩ :=
          (moved.published (by simpa using was)).2.target
        exact ⟨logicalFingerprint, fingerprint, digest⟩
    · exact standing.fingerprinted run before published
  · intro run present recovery
    rcases kept run present with rfl | before
    · by_cases was : old.runState.isPublished = true
      · have states := RunState.mayBecome_open (ImportRun.mayBecome_state moved.allowed) was
          (by rw [recovery]; rfl)
        rw [recovery] at states
        rcases states with ⟨impossible, -⟩ | ⟨-, before⟩
        · cases impossible
        · obtain ⟨checkpoint, found⟩ := standing.recovering old inside before
          rw [family]
          exact onward.checkpoint? validNext found
      · obtain ⟨logicalFingerprint, proposals, _, _, target⟩ :=
          (moved.published (by simpa using was)).2.target
        have same := checkpoints (by simpa using was)
        cases found : next.checkpoint? run.sourceFamily with
        | some checkpoint => exact ⟨checkpoint, rfl⟩
        | none =>
          have absent : rows.checkpoint? run.sourceFamily = none := by
            unfold ImportRows.checkpoint? at found ⊢
            rwa [← same]
          rw [recovery, absent] at target
          simp only [classifyReplay, targetState] at target
          split at target <;> cases target
    · obtain ⟨checkpoint, found⟩ := standing.recovering run before recovery
      exact onward.checkpoint? validNext found
  · intro run present waiting
    rcases kept run present with rfl | before
    · by_cases was : old.runState.isPublished = true
      · have states := RunState.mayBecome_open (ImportRun.mayBecome_state moved.allowed) was
          (by rw [waiting]; rfl)
        rw [waiting] at states
        rcases states with ⟨impossible, -⟩ | ⟨impossible, -⟩ <;> cases impossible
      · exact (moved.published (by simpa using was)).2.cleared waiting
    · exact standing.waiting run before waiting

theorem Step.standing {tables later : ImportTables} (step : Step actor tables.rows later.rows)
    (standing : Standing tables.rows) : Standing later.rows := by
  have sound := step.sound tables.valid standing.sound
  have onward := step.onward
  have hashed : ∀ row ∈ later.rows.proposals,
      isSha256 row.material.proposalFingerprint = true := by
    intro row inside
    rcases step.materials row inside with digest | ⟨before, present, same⟩
    · exact digest
    · rw [← same]
      exact standing.hashed before present
  cases step.change with
  | kept runs checkpoints evidence =>
    refine ⟨sound, ?_, ?_, hashed, ?_, ?_⟩ <;> rw [runs]
    · exact standing.canonical
    · exact standing.fingerprinted
    · intro run inside recovery
      obtain ⟨checkpoint, found⟩ := standing.recovering run inside recovery
      exact onward.checkpoint? later.valid found
    · exact standing.waiting
  | started fresh runs canonical validating staged checkpoints evidence =>
    have split : ∀ run ∈ later.rows.runs, run ∈ tables.rows.runs ∨ run = fresh := by
      intro run inside
      rw [runs, List.mem_append, List.mem_singleton] at inside
      exact inside
    refine ⟨sound, ?_, ?_, hashed, ?_, ?_⟩
    · intro run inside
      rcases split run inside with before | rfl
      · exact standing.canonical run before
      · exact canonical
    · intro run inside published
      rcases split run inside with before | rfl
      · exact standing.fingerprinted run before published
      · rw [validating] at published
        cases published
    · intro run inside recovery
      rcases split run inside with before | rfl
      · obtain ⟨checkpoint, found⟩ := standing.recovering run before recovery
        exact onward.checkpoint? later.valid found
      · rw [validating] at recovery
        cases recovery
    · intro run inside waiting
      rcases split run inside with before | rfl
      · exact standing.waiting run before waiting
      · rw [validating] at waiting
        cases waiting
  | moved old new moved checkpoints =>
    exact moved.standing standing sound onward later.valid hashed fun _ => checkpoints
  | completed old new moved completes published ended advanced =>
    refine moved.standing standing sound onward later.valid hashed fun unpublished => ?_
    rw [published] at unpublished
    cases unpublished

theorem steps_standing (steps : Steps actor tables later) (standing : Standing tables.rows) :
    Standing later.rows := by
  induction steps with
  | refl => exact standing
  | tail _ step ih => exact step.standing ih

theorem execute_standing (python : PythonLibrary) (command : ImportCommand) {tables : ImportTables}
    (standing : Standing tables.rows) : Standing (command.execute python tables).rows := by
  rcases execute_steps python command tables with same | ⟨actor, _, steps⟩
  · rw [same]
    exact standing
  · exact steps_standing steps standing

theorem reachable_standing
    (reached : Reachable (· = ImportTables.migrated) (Executes python) tables) :
    Standing tables.rows := by
  refine reached.invariant (fun tables => Standing tables.rows) ?_ ?_
  · rintro _ rfl
    have sound : Sound ImportTables.migrated.rows :=
      reachable_sound (show Reachable (· = ImportTables.migrated) (Executes python) _ from .start rfl)
    refine ⟨sound, ?_, ?_, ?_, ?_, ?_⟩ <;>
    · intro _ inside
      exact absurd inside List.not_mem_nil
  · rintro _ _ standing ⟨command, rfl⟩
    exact execute_standing python command standing

/-! ## What runs go through -/

/-- The run after more commands. A revision is not given to a second row of it, what it
published stays, and its count of accepted proposals does not fall. -/
structure ImportRun.Continues (run next : ImportRun) : Prop where
  identity : next.importRunId = run.importRunId ∧ next.sourceFamily = run.sourceFamily ∧
    next.sourceProfileId = run.sourceProfileId ∧ next.chronologyKind = run.chronologyKind ∧
    next.chronologyValue = run.chronologyValue
  revised : next = run ∨ run.revision < next.revision
  published : run.runState.isPublished = true → next.runState.isPublished = true ∧
    next.logicalFingerprint = run.logicalFingerprint ∧
    run.counters.acceptedProposalCount ≤ next.counters.acceptedProposalCount

/-- No run is lost, and each continues. -/
structure Continued (rows next : ImportRows) : Prop where
  ids : rows.runs.map (·.importRunId) <+: next.runs.map (·.importRunId)
  runs : ∀ run ∈ rows.runs, ∃ later ∈ next.runs, run.Continues later

theorem ImportRun.Continues.refl (run : ImportRun) : run.Continues run :=
  ⟨⟨rfl, rfl, rfl, rfl, rfl⟩, .inl rfl, fun published => ⟨published, rfl, le_rfl⟩⟩

theorem ImportRun.Continues.trans {run next last : ImportRun} (first : run.Continues next)
    (second : next.Continues last) : run.Continues last := by
  obtain ⟨identity, revised, kept⟩ := second
  simp only [first.identity] at identity
  refine ⟨identity, ?_, fun published => ?_⟩
  · rcases first.revised with rfl | less
    · exact revised
    · exact .inr (revised.elim (fun same => same ▸ less) less.trans)
  · obtain ⟨still, fingerprint, accepted⟩ := first.published published
    obtain ⟨last, same, more⟩ := kept still
    exact ⟨last, same.trans fingerprint, accepted.trans more⟩

theorem Continued.refl (rows : ImportRows) : Continued rows rows :=
  ⟨List.prefix_rfl, fun run inside => ⟨run, inside, .refl run⟩⟩

theorem Continued.trans (first : Continued rows next) (second : Continued next last) :
    Continued rows last where
  ids := first.ids.trans second.ids
  runs run inside := by
    obtain ⟨middle, present, continues⟩ := first.runs run inside
    obtain ⟨later, found, goesOn⟩ := second.runs middle present
    exact ⟨later, found, continues.trans goesOn⟩

theorem Moved.continued {old new : ImportRun} (moved : Moved actor rows next old new) :
    Continued rows next := by
  have identity := ImportRun.mayBecome_identity moved.allowed
  have continues : old.Continues new := by
    refine ⟨identity, .inr ?_, fun published =>
      ⟨?_, ImportRun.mayBecome_fingerprint moved.allowed published, (moved.accepted published).1⟩⟩
    · have allowed := moved.allowed
      simp only [ImportRun.mayBecome, decide_eq_true_eq] at allowed
      omega
    · have transition := ImportRun.mayBecome_state moved.allowed
      revert published transition
      cases old.runState <;> cases new.runState <;> simp [RunState.mayBecome, RunState.isPublished]
  refine ⟨?_, fun run inside => ?_⟩
  · obtain ⟨before, after, same, replaced⟩ := moved.replaced
    rw [same, replaced]
    simp [identity.1]
  · rcases moved.replaced.mem_rows inside with rfl | kept
    · exact ⟨new, moved.replaced.mem_new, continues⟩
    · exact ⟨run, kept, .refl run⟩

theorem Step.continued (step : Step actor rows next) : Continued rows next := by
  cases step.change with
  | kept runs => exact ⟨runs ▸ List.prefix_rfl, runs ▸ (Continued.refl rows).runs⟩
  | started fresh runs =>
    refine ⟨by simp [runs], fun run inside => ⟨run, ?_, .refl run⟩⟩
    rw [runs]
    exact List.mem_append_left _ inside
  | moved _ _ moved => exact moved.continued
  | completed _ _ moved => exact moved.continued

/-- **A run is only led on.** Whatever commands come, in any order and with any outcome, every
run stays in its place with its identity and chronology; a row read again at the same revision
is the same row; and a published run stays published and keeps its logical fingerprint, and the
accepted-proposal count of its row never falls. -/
theorem runs_continue (python : PythonLibrary) (commands : List ImportCommand)
    (tables : ImportTables) :
    Continued tables.rows
      (commands.foldl (fun tables command => command.execute python tables) tables).rows := by
  induction commands generalizing tables with
  | nil => exact .refl _
  | cons command commands ih =>
    refine Continued.trans ?_ (ih (command.execute python tables))
    rcases execute_steps python command tables with same | ⟨actor, _, steps⟩
    · rw [same]
      exact .refl _
    · generalize command.execute python tables = after at steps
      induction steps with
      | refl => exact .refl _
      | tail _ step ih => exact ih.trans step.continued

end Soma.Imports
