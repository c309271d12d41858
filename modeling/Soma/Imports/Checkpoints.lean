import Soma.Theory.Execution
import Soma.Imports.Steps

/-!
The invariant of import runs and source checkpoints (`import_checkpoints`): in
every reachable state a checkpoint is that of its completed run and the stored
counters of a published run are the derived ones, so finalization never finds
them in disagreement; along a run checkpoints only move to later chronologies and
a run in a terminal state stays as it is.
-/

namespace Soma.Imports

open Foundation Transaction Rows Execution

variable {rows next : ImportRows} {actor : Actor}

/-! ## The invariant -/

/-- What holds of the runs and checkpoints between two commands. -/
structure Sound (rows : ImportRows) : Prop where
  counted : ∀ run ∈ rows.runs, run.runState.isPublished = true →
    run.counters = rows.derivePublicationCounters run.importRunId
  backed : ∀ checkpoint ∈ rows.checkpoints, ∃ run ∈ rows.runs,
    run.runState ∈ [.accepted, .partiallyAccepted, .rejected, .noop] ∧
    ∃ logicalFingerprint, run.logicalFingerprint = some logicalFingerprint ∧
      checkpoint = run.checkpoint logicalFingerprint checkpoint.revision

theorem ImportRun.mayBecome_open {run : ImportRun} (allowed : run.mayBecome other = true) :
    run.runState.isTerminal = false := by
  simp only [ImportRun.mayBecome, decide_eq_true_eq] at allowed
  obtain ⟨-, -, -, -, -, -, -, -, transition⟩ := allowed
  revert transition
  cases run.runState <;> simp [RunState.mayBecome, RunState.isTerminal]

theorem ImportRun.mayBecome_identity {run : ImportRun} (allowed : run.mayBecome other = true) :
    other.importRunId = run.importRunId ∧ other.sourceFamily = run.sourceFamily ∧
      other.sourceProfileId = run.sourceProfileId ∧ other.chronologyKind = run.chronologyKind ∧
      other.chronologyValue = run.chronologyValue := by
  simp only [ImportRun.mayBecome, decide_eq_true_eq] at allowed
  exact ⟨allowed.1, allowed.2.1, allowed.2.2.1, allowed.2.2.2.1, allowed.2.2.2.2.1⟩

theorem ended_terminal (ended : state ∈ [RunState.accepted, .partiallyAccepted, .rejected, .noop]) :
    state.isTerminal = true := by
  revert ended
  cases state <;> simp [RunState.isTerminal]

theorem Moved.keeps_terminal (moved : Moved actor rows next old new) (inside : run ∈ rows.runs)
    (terminal : run.runState.isTerminal = true) : run ∈ next.runs := by
  rcases moved.replaced.mem_rows inside with rfl | kept
  · rw [ImportRun.mayBecome_open moved.allowed] at terminal
    cases terminal
  · exact kept

theorem Moved.counted (moved : Moved actor rows next old new) (valid : rows.Constraints)
    (sound : Sound rows) :
    ∀ run ∈ next.runs, run.runState.isPublished = true →
      run.counters = next.derivePublicationCounters run.importRunId := by
  intro run inside published
  have identity := (ImportRun.mayBecome_identity moved.allowed).1
  rcases moved.replaced.mem_next_keyed valid.runIds identity inside with rfl | ⟨before, apart⟩
  · rw [identity]
    exact moved.counters (sound.counted old moved.replaced.mem_old)
  · rw [(moved.evidence _ apart).counters]
    exact sound.counted run before published

variable {checkpoint : SourceCheckpoint}

theorem Moved.backed (moved : Moved actor rows next old new) (sound : Sound rows)
    (inside : checkpoint ∈ rows.checkpoints) :
    ∃ run ∈ next.runs, run.runState ∈ [.accepted, .partiallyAccepted, .rejected, .noop] ∧
      ∃ logicalFingerprint, run.logicalFingerprint = some logicalFingerprint ∧
        checkpoint = run.checkpoint logicalFingerprint checkpoint.revision := by
  obtain ⟨run, present, ended, fingerprint⟩ := sound.backed checkpoint inside
  exact ⟨run, moved.keeps_terminal present (ended_terminal ended), ended, fingerprint⟩

theorem Advanced.mem (advanced : Advanced before after run) (inside : checkpoint ∈ after) :
    checkpoint ∈ before ∨ ∃ logicalFingerprint, run.logicalFingerprint = some logicalFingerprint ∧
      checkpoint = run.checkpoint logicalFingerprint checkpoint.revision := by
  cases advanced with
  | established logicalFingerprint revision fingerprint _ appended =>
    rw [appended] at inside
    rcases mem_concat inside with inside | rfl
    · exact .inl inside
    · exact .inr ⟨logicalFingerprint, fingerprint, rfl⟩
  | replaced _ logicalFingerprint revision fingerprint _ _ _ changed =>
    rcases changed.mem_next inside with rfl | inside
    · exact .inr ⟨logicalFingerprint, fingerprint, rfl⟩
    · exact .inl inside

theorem Step.sound (step : Step actor rows next) (valid : rows.Constraints) (sound : Sound rows) :
    Sound next := by
  cases step.change with
  | kept runs checkpoints evidence =>
    constructor
    · rw [runs]
      intro run inside published
      rw [(evidence run inside published).counters]
      exact sound.counted run inside published
    · rw [runs, checkpoints]
      exact sound.backed
  | started _ runs _ validating _ checkpoints evidence =>
    constructor
    · intro run inside published
      rw [runs] at inside
      rcases mem_concat inside with inside | rfl
      · rw [(evidence run.importRunId).counters]
        exact sound.counted run inside published
      · rw [validating] at published
        cases published
    · intro checkpoint inside
      rw [checkpoints] at inside
      obtain ⟨run, present, rest⟩ := sound.backed checkpoint inside
      exact ⟨run, by rw [runs]; exact List.mem_append_left _ present, rest⟩
  | moved _ new moved checkpoints =>
    refine ⟨moved.counted valid sound, fun checkpoint inside => ?_⟩
    rw [checkpoints] at inside
    exact moved.backed sound inside
  | completed _ new moved _ published ended advanced =>
    refine ⟨moved.counted valid sound, fun checkpoint inside => ?_⟩
    rcases advanced.mem inside with inside | fingerprint
    · exact moved.backed sound inside
    · exact ⟨new, moved.replaced.mem_new, ended, fingerprint⟩

/-! ## What a run keeps -/

/-- Terminal runs stay, and the checkpoint of a family only moves to a later
chronology of the same kind. -/
structure Onward (rows next : ImportRows) : Prop where
  terminal : ∀ run ∈ rows.runs, run.runState.isTerminal = true → run ∈ next.runs
  chronology : ∀ checkpoint ∈ rows.checkpoints, ∃ later ∈ next.checkpoints,
    later.sourceFamily = checkpoint.sourceFamily ∧
    later.chronologyKind = checkpoint.chronologyKind ∧
    checkpoint.chronologyValue ≤ later.chronologyValue

namespace Onward

theorem refl : Onward rows rows :=
  ⟨fun _ inside _ => inside, fun checkpoint inside => ⟨checkpoint, inside, rfl, rfl, le_refl _⟩⟩

theorem trans (first : Onward rows next) (second : Onward next last) : Onward rows last := by
  constructor
  · intro run inside terminal
    exact second.terminal run (first.terminal run inside terminal) terminal
  · intro checkpoint inside
    obtain ⟨middle, present, family, kind, order⟩ := first.chronology checkpoint inside
    obtain ⟨later, found, family', kind', order'⟩ := second.chronology middle present
    exact ⟨later, found, family'.trans family, kind'.trans kind, order.trans order'⟩

theorem of_checkpoints (terminal : ∀ run ∈ rows.runs, run.runState.isTerminal = true →
    run ∈ next.runs) (same : next.checkpoints = rows.checkpoints) : Onward rows next := by
  refine ⟨terminal, fun checkpoint inside => ⟨checkpoint, ?_, rfl, rfl, le_refl _⟩⟩
  rw [same]
  exact inside

end Onward

theorem Advanced.onward (advanced : Advanced before after run) (inside : checkpoint ∈ before) :
    ∃ later ∈ after, later.sourceFamily = checkpoint.sourceFamily ∧
      later.chronologyKind = checkpoint.chronologyKind ∧
      checkpoint.chronologyValue ≤ later.chronologyValue := by
  cases advanced with
  | established _ _ _ _ appended =>
    exact ⟨checkpoint, by rw [appended]; exact List.mem_append_left _ inside, rfl, rfl, le_refl _⟩
  | replaced _ _ _ _ family kind order changed =>
    rcases changed.mem_rows inside with rfl | kept
    · exact ⟨_, changed.mem_new, family.symm, kind.symm, order⟩
    · exact ⟨checkpoint, kept, rfl, rfl, le_refl _⟩

theorem Step.onward (step : Step actor rows next) : Onward rows next := by
  cases step.change with
  | kept runs checkpoints =>
    exact .of_checkpoints (fun run inside _ => by rw [runs]; exact inside) checkpoints
  | started _ runs _ _ _ checkpoints =>
    refine .of_checkpoints (fun run inside _ => ?_) checkpoints
    rw [runs]
    exact List.mem_append_left _ inside
  | moved _ _ moved checkpoints =>
    exact .of_checkpoints (fun run inside terminal => moved.keeps_terminal inside terminal)
      checkpoints
  | completed _ _ moved _ _ _ advanced =>
    exact ⟨fun run inside terminal => moved.keeps_terminal inside terminal,
      fun checkpoint inside => advanced.onward inside⟩

theorem steps_onward (steps : Steps actor tables later) : Onward tables.rows later.rows := by
  induction steps with
  | refl => exact .refl
  | tail _ step ih => exact ih.trans step.onward

theorem steps_sound (steps : Steps actor tables later) (sound : Sound tables.rows) :
    Sound later.rows := by
  induction steps with
  | refl => exact sound
  | tail _ step ih => exact step.sound (ImportTables.valid _) ih

theorem execute_sound (python : PythonLibrary) (command : ImportCommand) {tables : ImportTables}
    (sound : Sound tables.rows) : Sound (command.execute python tables).rows := by
  rcases execute_steps python command tables with same | ⟨actor, _, steps⟩
  · rw [same]
    exact sound
  · exact steps_sound steps sound

theorem execute_onward (python : PythonLibrary) (command : ImportCommand) (tables : ImportTables) :
    Onward tables.rows (command.execute python tables).rows := by
  rcases execute_steps python command tables with same | ⟨actor, _, steps⟩
  · rw [same]
    exact .refl
  · exact steps_onward steps

theorem reachable_sound (reached : Reachable (· = ImportTables.migrated) (Executes python) tables) :
    Sound tables.rows := by
  refine reached.invariant (fun tables => Sound tables.rows) ?_ ?_
  · rintro _ rfl
    exact ⟨fun _ inside => absurd inside List.not_mem_nil,
      fun _ inside => absurd inside List.not_mem_nil⟩
  · rintro _ _ sound ⟨command, rfl⟩
    exact execute_sound python command sound

/-! ## Finalization never finds the counters in disagreement -/

section Disagreement

variable {tables : ImportTables} {raised : Raised}

theorem writeImports_error {change : ImportRows → ImportRows}
    (failed : (writeImports change).run tables = .error raised) : raised = .other := by
  simp only [writeImports, bind_error, get_error, get_ok, setChecked_error] at failed
  rcases failed with failed | ⟨_, _, ⟨rfl, rfl⟩, _, rfl⟩
  · cases failed
  · rfl

theorem updateRun_error {selected : ImportRun → Bool} {change : ImportRun → ImportRun}
    (failed : (updateRun selected change stale).run tables = .error raised) :
    raised = .other ∨ raised = stale := by
  simp only [updateRun, bind_error, get_error, get_ok, require_error, require_ok, false_or] at failed
  obtain ⟨_, _, ⟨rfl, rfl⟩, ⟨_, rfl⟩ | ⟨_, _, ⟨_, rfl⟩, ⟨_, rfl⟩ | ⟨_, _, ⟨_, rfl⟩, failed⟩⟩⟩ :=
    failed
  · exact .inl rfl
  · exact .inr rfl
  · exact .inl (writeImports_error failed)

variable {logicalFingerprint : String} {run : ImportRun}

theorem establishOrAdvanceFinalized_error
    (failed : (establishOrAdvanceFinalized run logicalFingerprint).run tables = .error raised) :
    raised.isIntegrityFailure = false := by
  simp only [establishOrAdvanceFinalized, bind_error, get_error, get_ok, false_or] at failed
  obtain ⟨_, _, ⟨rfl, rfl⟩, failed⟩ := failed
  split at failed
  · rw [writeImports_error failed]
    rfl
  · simp only [bind_error, require_error, require_ok] at failed
    obtain ⟨_, rfl⟩ | ⟨_, _, ⟨_, rfl⟩, ⟨_, rfl⟩ | ⟨_, _, ⟨_, rfl⟩, ⟨_, rfl⟩ | ⟨_, _, ⟨_, rfl⟩, failed⟩⟩⟩ :=
      failed
    · rfl
    · rfl
    · rfl
    · rw [writeImports_error failed]
      rfl

theorem finalizeAuthorizedRecovery_error
    (failed : (finalizeAuthorizedRecovery run logicalFingerprint current).run tables =
      .error raised) : raised.isIntegrityFailure = false := by
  simp only [finalizeAuthorizedRecovery, bind_error, require_error, require_ok] at failed
  obtain ⟨_, rfl⟩ | ⟨_, _, ⟨_, rfl⟩, ⟨_, rfl⟩ | ⟨_, _, ⟨_, rfl⟩, ⟨_, rfl⟩ | ⟨_, _, ⟨_, rfl⟩, failed⟩⟩⟩ :=
    failed
  · rfl
  · rfl
  · rfl
  · split at failed
    · simp only [pure_error] at failed
    · simp only [bind_error, require_error, require_ok] at failed
      obtain ⟨_, rfl⟩ | ⟨_, _, ⟨_, rfl⟩, failed⟩ := failed
      · rfl
      · rw [writeImports_error failed]
        rfl

theorem completeRun_error (failed : (completeRun run states now stale).run tables = .error raised) :
    raised = .other ∨ raised = stale :=
  updateRun_error failed

variable {python : PythonLibrary}

theorem recoveryReviewFingerprint_error
    (failed : recoveryReviewFingerprint python rows run logicalFingerprint = .error raised) :
    raised.isIntegrityFailure = false := by
  unfold recoveryReviewFingerprint sha256CanonicalJson canonicalJson at failed
  split at failed
  · cases failed
    rfl
  · dsimp only at failed
    split at failed
    · cases failed
    · cases failed
      rfl

theorem requireFinalAuthorization_error
    (failed : requireFinalAuthorization python rows run logicalFingerprint checkpoint =
      .error raised) : raised.isIntegrityFailure = false := by
  simp only [requireFinalAuthorization, except_bind_error, ensure_error] at failed
  rcases failed with failed | ⟨_, _, _, rfl⟩
  · exact recoveryReviewFingerprint_error failed
  · rfl

theorem applyFinalization_error
    (failed : (applyFinalization python run logicalFingerprint now).run tables = .error raised) :
    raised.isIntegrityFailure = false := by
  simp only [applyFinalization, bind_error, get_error, get_ok, false_or] at failed
  obtain ⟨_, _, ⟨rfl, rfl⟩, failed⟩ := failed
  split at failed
  · split at failed
    · simp only [throw_error] at failed
      rw [← failed]
      rfl
    · simp only [bind_error, attempt_error, attempt_ok] at failed
      rcases failed with failed | ⟨_, _, ⟨_, rfl⟩, failed | ⟨_, _, _, failed⟩⟩
      · exact requireFinalAuthorization_error failed
      · exact finalizeAuthorizedRecovery_error failed
      · rcases completeRun_error failed with rfl | rfl <;> rfl
  · simp only [bind_error] at failed
    rcases failed with failed | ⟨_, _, _, failed⟩
    · exact establishOrAdvanceFinalized_error failed
    · rcases completeRun_error failed with rfl | rfl <;> rfl

/-- With the stored counters derived, finalization raises no `IntegrityFailure`. -/
theorem finalizeRun_error (sound : Sound tables.rows)
    (failed : (finalizeRun python importRunId expectedRunRevision now).run tables =
      .error raised) : raised.isIntegrityFailure = false := by
  simp only [finalizeRun, bind_error, attempt_error, attempt_ok, require_error, require_ok,
    get_error, get_ok, false_or] at failed
  rcases failed with failed | ⟨_, _, ⟨_, rfl⟩, ⟨_, rfl⟩ | ⟨_, _, ⟨_, rfl⟩, _, _, ⟨rfl, rfl⟩,
    failed | ⟨_, _, _, failed⟩⟩⟩
  · simp only [requireUuid4, ensure_error] at failed
    rw [← failed.2]
    rfl
  · rfl
  · simp only [prepareFinalization, except_bind_error, ensure_error, ensure_ok, pure,
      Except.pure] at failed
    rcases failed with failed | ⟨⟨run, _⟩, transition, ⟨_, rfl⟩ | ⟨_, _, ⟨_, rfl⟩ | ⟨_, reviewable,
      ⟨disagrees, rfl⟩ | ⟨_, _, ⟨_, rfl⟩ | ⟨_, _, failed⟩⟩⟩⟩⟩
    · unfold getCheckpointTransitionRun at failed
      split at failed
      · cases failed
        rfl
      · split at failed
        · cases failed
          rfl
        · cases failed
    · rfl
    · rfl
    · obtain ⟨inside, identity⟩ := run?_some (getCheckpointTransitionRun_ok.mp transition).1
      refine absurd ?_ disagrees
      rw [← identity]
      exact sound.counted run inside (RunState.isReviewable_published reviewable)
    · rfl
    · cases failed
  · exact applyFinalization_error failed

end Disagreement

/-- In every reachable state the checkpoints are those of completed runs and the
stored counters are the derived ones; along a run no checkpoint goes back in
time and no terminal run changes. -/
theorem import_checkpoints {python : PythonLibrary} {tables : ImportTables}
    (reached : Reachable (· = ImportTables.migrated) (Executes python) tables) :
    (∀ checkpoint ∈ tables.rows.checkpoints, ∃ run ∈ tables.rows.runs,
      run.importRunId = checkpoint.acceptedImportRunId ∧
      run.runState ∈ [.accepted, .partiallyAccepted, .rejected, .noop] ∧
      checkpoint.sourceFamily = run.sourceFamily ∧
      checkpoint.sourceProfileId = run.sourceProfileId ∧
      checkpoint.chronologyKind = run.chronologyKind ∧
      checkpoint.chronologyValue = run.chronologyValue ∧
      run.logicalFingerprint = some checkpoint.logicalFingerprint) ∧
    (∀ run ∈ tables.rows.runs, run.runState.isPublished = true →
      run.counters = tables.rows.derivePublicationCounters run.importRunId) ∧
    (∀ importRunId expectedRunRevision now,
      (commit (finalizeRun python importRunId expectedRunRevision now) tables).1 ≠
        .error storedCountersDisagree) ∧
    ∀ later, Later (Executes python) tables later →
      (∀ checkpoint ∈ tables.rows.checkpoints, ∃ current ∈ later.rows.checkpoints,
        current.sourceFamily = checkpoint.sourceFamily ∧
        current.chronologyKind = checkpoint.chronologyKind ∧
        checkpoint.chronologyValue ≤ current.chronologyValue) ∧
      ∀ run ∈ tables.rows.runs, run.runState.isTerminal = true → run ∈ later.rows.runs := by
  have sound := reachable_sound reached
  refine ⟨?_, sound.counted, ?_, ?_⟩
  · intro checkpoint inside
    obtain ⟨run, present, ended, logicalFingerprint, fingerprint, same⟩ :=
      sound.backed checkpoint inside
    refine ⟨run, present, ?_⟩
    rw [same]
    exact ⟨rfl, ended, rfl, rfl, rfl, rfl, fingerprint⟩
  · intro importRunId expectedRunRevision now disagree
    have wrong := finalizeRun_error sound (commit_raises.mp disagree)
    cases wrong
  · intro later run
    have onward : Onward tables.rows later.rows := by
      refine Later.related (fun _ => True) (fun tables later => Onward tables.rows later.rows)
        (fun _ _ _ _ => trivial) (fun _ => .refl) .trans ?_ run trivial
      rintro _ _ _ ⟨command, rfl⟩
      exact execute_onward python command _
    exact ⟨onward.chronology, onward.terminal⟩

/-! ## A sample -/

/-- A library whose digest is a constant; no command below asks for one. -/
def samplePython : PythonLibrary where
  jsonLoads _ := none
  sha256Hex _ := String.ofList (List.replicate 64 'a')

def afterCommands (commands : List ImportCommand) (tables : ImportTables) : ImportTables :=
  commands.foldl (fun tables command => command.execute samplePython tables) tables

theorem afterCommands_reached (commands : List ImportCommand)
    (reached : Reachable (· = ImportTables.migrated) (Executes samplePython) tables) :
    Reachable (· = ImportTables.migrated) (Executes samplePython)
      (afterCommands commands tables) := by
  induction commands generalizing tables with
  | nil => exact reached
  | cons command commands ih => exact ih (reached.step ⟨command, rfl⟩)

/-- A source file read at `chronologyValue`, published without proposals. -/
def sampleImport (importRunId : String) (chronologyValue : Nat) : List ImportCommand :=
  [.start importRunId .rfcEnhanced "rfc_enhanced" .filesystemMtimeNs chronologyValue 0,
    .publish {
      importRunId
      expectedRevision := 1
      logicalFingerprint := String.ofList (List.replicate 64 'b')
      writes := []
      suppressed := fun _ => false
      reconciliationFindings := []
      now := 0 }]

def sampleFinalized : ImportTables :=
  afterCommands
    (sampleImport "3f2b8c1e-9d4a-4c7f-8a6b-0123456789ab" 10 ++
      [.finalize "3f2b8c1e-9d4a-4c7f-8a6b-0123456789ab" 2 0]) .migrated

theorem sample_checkpoint_backed :
    sampleFinalized.rows.checkpoints.map (·.chronologyValue) = [10] ∧
      ∀ checkpoint ∈ sampleFinalized.rows.checkpoints, ∃ run ∈ sampleFinalized.rows.runs,
        run.importRunId = checkpoint.acceptedImportRunId ∧ run.chronologyValue = 10 := by
  refine ⟨by decide, fun checkpoint inside => ?_⟩
  obtain ⟨run, present, identity, -, -, -, -, chronology, -⟩ :=
    (import_checkpoints (afterCommands_reached _ (.start rfl))).1 checkpoint inside
  have values : checkpoint.chronologyValue ∈ sampleFinalized.rows.checkpoints.map
      (·.chronologyValue) := List.mem_map_of_mem inside
  rw [show sampleFinalized.rows.checkpoints.map (·.chronologyValue) = [10] by decide,
    List.mem_singleton] at values
  exact ⟨run, present, identity, by rw [← chronology, values]⟩

end Soma.Imports
