import Soma.Imports.Counters

/-!
What one import command can do to the runs, the checkpoints and the rows behind
the counters. Every committed command is a sequence of `Step`s: a step keeps the
runs, starts one, rewrites one (`Moved`), or completes one and moves the
checkpoint of its family (`Advanced`). The invariants are read off these cases.
-/

namespace Soma.Imports

open Foundation Transaction Rows

/-- A checkpoint that lets the run end: what finalization, the recovery review
and the source check demand of it. -/
def ImportRun.MayEndUnder (run : ImportRun) (checkpoint : Option SourceCheckpoint) : Prop :=
  match run.runState with
  | .staged | .waitingReview => ∀ current ∈ checkpoint,
      run.sourceProfileId = current.sourceProfileId ∧
      run.chronologyKind = current.chronologyKind ∧
      current.chronologyValue < run.chronologyValue
  | .recoveryRequired => run.counters.acceptedProposalCount = 0 ∨
      ∃ current ∈ checkpoint,
        run.sourceProfileId = current.sourceProfileId ∧
        run.chronologyKind = current.chronologyKind ∧
        (run.chronologyValue < current.chronologyValue ∨
          run.chronologyValue = current.chronologyValue ∧
            run.logicalFingerprint ≠ some current.logicalFingerprint)
  | .noopPendingCheckpoint => ∃ current ∈ checkpoint,
      run.sourceProfileId = current.sourceProfileId ∧
      run.chronologyKind = current.chronologyKind ∧
      current.chronologyValue < run.chronologyValue ∧
      run.logicalFingerprint = some current.logicalFingerprint
  | _ => True

/-- The checkpoint of its family lets the run end. -/
def ImportRun.CanEnd (rows : ImportRows) (run : ImportRun) : Prop :=
  run.MayEndUnder (rows.checkpoint? run.sourceFamily)

/-- How a published run was classified: against the checkpoint of its family. -/
structure ImportRun.Classified (rows next : ImportRows) (run : ImportRun) : Prop where
  kind : ∀ checkpoint ∈ rows.checkpoint? run.sourceFamily,
    checkpoint.chronologyKind = run.chronologyKind
  target : ∃ logicalFingerprint proposals, run.logicalFingerprint = some logicalFingerprint ∧
    isSha256 logicalFingerprint = true ∧ run.runState = targetState (classifyReplay run.chronologyValue logicalFingerprint
      (rows.checkpoint? run.sourceFamily)) proposals
  unaccepted : run.counters.acceptedProposalCount = 0
  cleared : run.runState = .noopPendingCheckpoint →
    run.counters.proposalCount = 0 ∧ run.counters.observedRowCount = 0

/-- What a command does with its run. -/
inductive Act where
  | stage
  | publish
  | review
  | accept
  | complete
  deriving DecidableEq

/-- Who makes a step: a command about one run. -/
structure Actor where
  importRunId : String
  act : Act

/-- One run is rewritten. -/
structure Moved (actor : Actor) (rows next : ImportRows) (old new : ImportRun) : Prop where
  own : old.importRunId = actor.importRunId
  replaced : Replaced rows.runs next.runs old new
  allowed : old.mayBecome new = true
  evidence : ∀ other, other ≠ old.importRunId → SameEvidence rows next other
  counters : (old.runState.isPublished = true →
      old.counters = rows.derivePublicationCounters old.importRunId) →
    new.counters = next.derivePublicationCounters old.importRunId
  published : old.runState.isPublished = false → actor.act = .publish ∧ new.Classified rows next
  accepted : old.runState.isPublished = true →
    old.counters.acceptedProposalCount ≤ new.counters.acceptedProposalCount ∧
    (actor.act ≠ .accept →
      new.counters.acceptedProposalCount = old.counters.acceptedProposalCount)
  ended : old.runState.isPublished = true → new.runState.isTerminal = true → old.CanEnd rows

/-- The checkpoint of the family of a completed run becomes the run's. -/
inductive Advanced (rows next : List SourceCheckpoint) (run : ImportRun) : Prop
  | established (logicalFingerprint : String) (revision : Int)
      (fingerprint : run.logicalFingerprint = some logicalFingerprint)
      (absent : ∀ row ∈ rows, row.sourceFamily ≠ run.sourceFamily)
      (appended : next = rows ++ [run.checkpoint logicalFingerprint revision])
  | replaced (current : SourceCheckpoint) (logicalFingerprint : String) (revision : Int)
      (fingerprint : run.logicalFingerprint = some logicalFingerprint)
      (family : current.sourceFamily = run.sourceFamily)
      (kind : current.chronologyKind = run.chronologyKind)
      (order : current.chronologyValue ≤ run.chronologyValue)
      (changed : Replaced rows next current (run.checkpoint logicalFingerprint revision))

/-- What one step does to runs and checkpoints. -/
inductive Change (actor : Actor) (rows next : ImportRows) : Prop
  | kept (runs : next.runs = rows.runs) (checkpoints : next.checkpoints = rows.checkpoints)
      (evidence : ∀ run ∈ rows.runs, run.runState.isPublished = true →
        SameEvidence rows next run.importRunId)
  | started (fresh : ImportRun) (runs : next.runs = rows.runs ++ [fresh])
      (canonical : isUuid4 fresh.importRunId = true) (validating : fresh.runState = .validating)
      (staged : actor.act = .stage)
      (checkpoints : next.checkpoints = rows.checkpoints)
      (evidence : ∀ importRunId, SameEvidence rows next importRunId)
  | moved (old new : ImportRun) (moved : Moved actor rows next old new)
      (checkpoints : next.checkpoints = rows.checkpoints)
  | completed (old new : ImportRun) (moved : Moved actor rows next old new)
      (completes : actor.act = .complete) (published : old.runState.isPublished = true)
      (ended : new.runState ∈ [.accepted, .partiallyAccepted, .rejected, .noop])
      (advanced : Advanced rows.checkpoints next.checkpoints new)

/-- One step of a command. -/
structure Step (actor : Actor) (rows next : ImportRows) : Prop where
  change : Change actor rows next
  materials : ∀ row ∈ next.proposals, isSha256 row.material.proposalFingerprint = true ∨
    ∃ before ∈ rows.proposals, before.material = row.material

/-- What a committed command does: steps, one after the other. -/
abbrev Steps (actor : Actor) : ImportTables → ImportTables → Prop :=
  Relation.ReflTransGen fun tables next => Step actor tables.rows next.rows

section Lookups

variable {rows : ImportRows} {importRunId : String} {run : ImportRun}

theorem run?_some (found : rows.run? importRunId = some run) :
    run ∈ rows.runs ∧ run.importRunId = importRunId :=
  key_of_find? found

theorem checkpoint?_some (found : rows.checkpoint? family = some checkpoint) :
    checkpoint ∈ rows.checkpoints ∧ checkpoint.sourceFamily = family :=
  key_of_find? found

theorem checkpoint?_none (missing : rows.checkpoint? family = none) :
    ∀ row ∈ rows.checkpoints, row.sourceFamily ≠ family := by
  simpa [ImportRows.checkpoint?] using missing

theorem proposal?_some (found : rows.proposal? proposalId = some proposal) :
    proposal ∈ rows.proposals ∧ proposal.proposalId = proposalId :=
  key_of_find? found

theorem run_unique (valid : rows.Constraints) (inside : run ∈ rows.runs) (found : other ∈ rows.runs)
    (same : other.importRunId = run.importRunId) : other = run :=
  List.inj_on_of_nodup_map valid.runIds found inside same

theorem proposal_unique (valid : rows.Constraints) (inside : proposal ∈ rows.proposals)
    (found : other ∈ rows.proposals) (same : other.proposalId = proposal.proposalId) :
    other = proposal :=
  List.inj_on_of_nodup_map valid.proposalIds found inside same

end Lookups

section Statements

variable {tables next : ImportTables} {value : PUnit}

theorem updateRun_replaced {selected : ImportRun → Bool} {change : ImportRun → ImportRun}
    (ran : (updateRun selected change stale).run tables = .ok (value, next)) :
    ∃ old, selected old = true ∧ old.mayBecome (change old) = true ∧
      Replaced tables.rows.runs next.rows.runs old (change old) ∧
      next.rows = { tables.rows with runs := next.rows.runs } := by
  obtain ⟨wrote, one, allowed⟩ := updateRun_ok ran
  obtain ⟨old, hit, replaced⟩ := replaced_of_countP change one
  have runs : next.rows.runs = tables.rows.runs.map fun run =>
      if selected run then change run else run := by rw [wrote]; rfl
  rw [← runs] at replaced
  exact ⟨old, hit, allowed old replaced.mem_old hit, replaced, by rw [runs, wrote]; rfl⟩

/-- The run with a key that was not yet rewritten is the one that is. -/
theorem updateRun_own {middle : ImportTables} {guard : ImportRun → Prop} [DecidablePred guard]
    {change : ImportRun → ImportRun} (inside : run ∈ tables.rows.runs)
    (runs : middle.rows.runs = tables.rows.runs)
    (ran : (updateRun (fun row => row.importRunId = run.importRunId ∧ guard row) change stale).run
      middle = .ok (value, next)) :
    guard run ∧ run.mayBecome (change run) = true ∧
      Replaced tables.rows.runs next.rows.runs run (change run) ∧
      next.rows = { middle.rows with runs := next.rows.runs } := by
  obtain ⟨_, selected, allowed, replaced, same⟩ := updateRun_replaced ran
  simp only [decide_eq_true_eq] at selected
  rw [runs] at replaced
  obtain rfl := run_unique tables.valid inside replaced.mem_old selected.1
  exact ⟨selected.2, allowed, replaced, same⟩

theorem updateProposal_replaced {selected : Proposal → Bool} {change : Proposal → Proposal}
    (ran : (updateProposal selected change stale).run tables = .ok (value, next)) :
    ∃ old, selected old = true ∧
      Replaced tables.rows.proposals next.rows.proposals old (change old) ∧
      next.rows = { tables.rows with proposals := next.rows.proposals } := by
  obtain ⟨wrote, one⟩ := updateProposal_ok ran
  obtain ⟨old, hit, replaced⟩ := replaced_of_countP change one
  have proposals : next.rows.proposals = tables.rows.proposals.map fun row =>
      if selected row then change row else row := by rw [wrote]; rfl
  rw [← proposals] at replaced
  exact ⟨old, hit, replaced, by rw [proposals, wrote]; rfl⟩

end Statements

end Soma.Imports
