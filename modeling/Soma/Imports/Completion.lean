import Soma.Imports.Standing

/-!
The commands that bring a run to its end, taken forward: in a standing state a
pending proposal can be rejected, a recovery run authorized or rejected, and a run
without pending proposals finalized when the checkpoint lets it end. Each theorem
gives the call and the run it leaves.
-/

namespace Soma.Imports

open Foundation Transaction Rows Execution

/-! ## Writes that keep the constraints -/

section Constraints

variable {rows : ImportRows}

theorem constraints_runs (valid : rows.Constraints) (replaced : Replaced rows.runs runs old new)
    (same : new.importRunId = old.importRunId) (checked : new.Checked) :
    ({ rows with runs } : ImportRows).Constraints := by
  have ids : runs.map (·.importRunId) = rows.runs.map (·.importRunId) := replaced.map_eq same
  refine ⟨by rw [ids]; exact valid.runIds, ?_, valid.checkpointFamilies, ?_, valid.observationIds, ?_,
    valid.findingIds, ?_, valid.proposalIds, ?_, valid.proposalEvidence, valid.reviewOrdinals, ?_⟩
  · intro run inside
    rcases replaced.mem_next inside with rfl | before
    · exact checked
    · exact valid.runChecks run before
  all_goals simp only [ids]
  · exact valid.checkpointRuns
  · exact valid.observationRuns
  · exact valid.findingRuns
  · exact valid.proposalRuns
  · exact valid.reviewRuns

theorem constraints_proposals (valid : rows.Constraints)
    (replaced : Replaced rows.proposals proposals old new) (same : new.proposalId = old.proposalId)
    (run : new.importRunId = old.importRunId) (material : new.material = old.material)
    (positive : 0 < new.revision) : ({ rows with proposals } : ImportRows).Constraints := by
  refine ⟨valid.runIds, valid.runChecks, valid.checkpointFamilies, valid.checkpointRuns,
    valid.observationIds, valid.observationRuns, valid.findingIds, valid.findingRuns, ?_, ?_, ?_,
    valid.reviewOrdinals, valid.reviewRuns⟩
  · rw [replaced.map_eq same]
    exact valid.proposalIds
  · intro row inside
    rcases replaced.mem_next inside with rfl | before
    · rw [run]
      exact ⟨positive, (valid.proposalRuns old replaced.mem_old).2⟩
    · exact valid.proposalRuns row before
  · intro row inside
    rcases replaced.mem_next inside with rfl | before
    · rw [material]
      exact valid.proposalEvidence old replaced.mem_old
    · exact valid.proposalEvidence row before

/-- Superseding what is pending keeps ids, runs and evidence. -/
theorem constraints_superseded (importRunId : String) (valid : rows.Constraints) :
    ({ rows with proposals := rows.proposals.map (supersede importRunId) } :
      ImportRows).Constraints := by
  have kept : ∀ row : Proposal, (supersede importRunId row).proposalId = row.proposalId ∧
      (supersede importRunId row).importRunId = row.importRunId ∧
      (supersede importRunId row).material = row.material ∧
      (0 < row.revision → 0 < (supersede importRunId row).revision) := by
    intro row
    unfold supersede
    split
    · exact ⟨rfl, rfl, rfl, fun positive => by simpa using by omega⟩
    · exact ⟨rfl, rfl, rfl, id⟩
  refine ⟨valid.runIds, valid.runChecks, valid.checkpointFamilies, valid.checkpointRuns,
    valid.observationIds, valid.observationRuns, valid.findingIds, valid.findingRuns, ?_, ?_, ?_,
    valid.reviewOrdinals, valid.reviewRuns⟩
  · have ids : (rows.proposals.map (supersede importRunId)).map (·.proposalId) =
        rows.proposals.map (·.proposalId) := by
      rw [List.map_map]
      exact List.map_congr_left fun row _ => (kept row).1
    rw [ids]
    exact valid.proposalIds
  · intro row inside
    obtain ⟨before, present, rfl⟩ := List.mem_map.mp inside
    rw [(kept before).2.1]
    obtain ⟨positive, own⟩ := valid.proposalRuns before present
    exact ⟨(kept before).2.2.2 positive, own⟩
  · intro row inside
    obtain ⟨before, present, rfl⟩ := List.mem_map.mp inside
    rw [(kept before).2.2.1]
    exact valid.proposalEvidence before present

theorem constraints_review {review : RecoveryReview} (valid : rows.Constraints)
    (later : ∀ row ∈ rows.reviews, row.importRunId = review.importRunId →
      row.reviewOrdinal ≠ review.reviewOrdinal)
    (own : 0 < review.reviewOrdinal ∧ 0 < review.runRevision ∧ 0 < review.checkpointRevision ∧
      review.importRunId ∈ rows.runs.map (·.importRunId)) :
    ({ rows with reviews := rows.reviews ++ [review] } : ImportRows).Constraints := by
  refine ⟨valid.runIds, valid.runChecks, valid.checkpointFamilies, valid.checkpointRuns,
    valid.observationIds, valid.observationRuns, valid.findingIds, valid.findingRuns,
    valid.proposalIds, valid.proposalRuns, valid.proposalEvidence, ?_, ?_⟩
  · rw [List.map_append, List.nodup_append]
    refine ⟨valid.reviewOrdinals, by simp, ?_⟩
    intro pair inside other single same
    rw [List.map_singleton, List.mem_singleton] at single
    subst single same
    obtain ⟨row, present, equal⟩ := List.mem_map.mp inside
    obtain ⟨sameRun, sameOrdinal⟩ := Prod.mk.inj equal
    exact later row present sameRun sameOrdinal
  · intro row inside
    rcases Rows.mem_concat inside with before | added
    · exact valid.reviewRuns row before
    · rw [added]
      exact own

theorem constraints_checkpoints {current : SourceCheckpoint} (valid : rows.Constraints)
    (inside : run ∈ rows.runs) (family : current.sourceFamily = run.sourceFamily)
    (replaced : Replaced rows.checkpoints checkpoints current
      (run.checkpoint logicalFingerprint revision)) (positive : 0 < revision) :
    ({ rows with checkpoints } : ImportRows).Constraints := by
  refine ⟨valid.runIds, valid.runChecks, ?_, ?_, valid.observationIds, valid.observationRuns,
    valid.findingIds, valid.findingRuns, valid.proposalIds, valid.proposalRuns,
    valid.proposalEvidence, valid.reviewOrdinals, valid.reviewRuns⟩
  · rw [replaced.map_eq family.symm]
    exact valid.checkpointFamilies
  · intro checkpoint present
    rcases replaced.mem_next present with rfl | before
    · exact ⟨positive, List.mem_map_of_mem inside⟩
    · exact valid.checkpointRuns checkpoint before

theorem constraints_established (valid : rows.Constraints) (inside : run ∈ rows.runs)
    (absent : rows.checkpoint? run.sourceFamily = none) :
    ({ rows with checkpoints := rows.checkpoints ++ [run.checkpoint logicalFingerprint 1] } :
      ImportRows).Constraints := by
  refine ⟨valid.runIds, valid.runChecks, ?_, ?_, valid.observationIds, valid.observationRuns,
    valid.findingIds, valid.findingRuns, valid.proposalIds, valid.proposalRuns,
    valid.proposalEvidence, valid.reviewOrdinals, valid.reviewRuns⟩
  · rw [List.map_append, List.nodup_append]
    refine ⟨valid.checkpointFamilies, by simp, ?_⟩
    intro family present other single same
    rw [List.map_singleton, List.mem_singleton] at single
    subst single same
    obtain ⟨row, before, equal⟩ := List.mem_map.mp present
    exact checkpoint?_none absent row before equal
  · intro checkpoint present
    rcases Rows.mem_concat present with before | added
    · exact valid.checkpointRuns checkpoint before
    · rw [added]
      exact ⟨by simp [ImportRun.checkpoint], List.mem_map_of_mem inside⟩

end Constraints

/-! ## Statements that succeed -/

section Statements

variable {tables : ImportTables}

theorem writeImports_run {change : ImportRows → ImportRows}
    (valid : (change tables.rows).Constraints) :
    (writeImports change).run tables = .ok (⟨⟩, ⟨change tables.rows, valid⟩) := by
  simp only [writeImports, steps_ok, setChecked_ok]
  exact ⟨valid, trivial⟩

theorem updateRun_run (tables : ImportTables) (selected : ImportRun → Bool)
    (change : ImportRun → ImportRun) (stale : Raised) (inside : run ∈ tables.rows.runs)
    (hit : selected run = true)
    (only : ∀ row, selected row = true → row.importRunId = run.importRunId)
    (allowed : run.mayBecome (change run) = true) (checked : (change run).Checked) :
    ∃ next, (updateRun selected change stale).run tables = .ok (⟨⟩, next) ∧
      Replaced tables.rows.runs next.rows.runs run (change run) ∧
      next.rows = { tables.rows with runs := next.rows.runs } := by
  have one := countP_eq_one tables.valid.runIds inside hit fun row _ => only row
  obtain ⟨old, hitOld, replaced⟩ := replaced_of_countP change one
  obtain rfl : old = run := run_unique tables.valid inside replaced.mem_old (only old hitOld)
  have valid := constraints_runs tables.valid replaced
    (ImportRun.mayBecome_identity allowed).1 checked
  refine ⟨⟨_, valid⟩, ?_, replaced, rfl⟩
  simp only [updateRun, steps_ok]
  refine ⟨?_, one, writeImports_run valid⟩
  intro row present hitRow
  rw [run_unique tables.valid inside present (only row hitRow)]
  exact allowed

theorem updateProposal_run (selected : Proposal → Bool) (change : Proposal → Proposal)
    (stale : Raised) (inside : proposal ∈ tables.rows.proposals) (hit : selected proposal = true)
    (only : ∀ row, selected row = true → row.proposalId = proposal.proposalId)
    (kept : (change proposal).proposalId = proposal.proposalId ∧
      (change proposal).importRunId = proposal.importRunId ∧
      (change proposal).material = proposal.material ∧ 0 < (change proposal).revision) :
    ∃ next, (updateProposal selected change stale).run tables = .ok (⟨⟩, next) ∧
      Replaced tables.rows.proposals next.rows.proposals proposal (change proposal) ∧
      next.rows = { tables.rows with proposals := next.rows.proposals } := by
  have one := countP_eq_one tables.valid.proposalIds inside hit fun row _ => only row
  obtain ⟨old, hitOld, replaced⟩ := replaced_of_countP change one
  obtain rfl : old = proposal :=
    proposal_unique tables.valid inside replaced.mem_old (only old hitOld)
  have valid := constraints_proposals tables.valid replaced kept.1 kept.2.1 kept.2.2.1 kept.2.2.2
  refine ⟨⟨_, valid⟩, ?_, replaced, rfl⟩
  simp only [updateProposal, steps_ok]
  exact ⟨one, writeImports_run valid⟩

theorem checked_reviewed {run : ImportRun} {state : RunState} (checked : run.Checked)
    (published : run.runState.isPublished = true) (wasOpen : run.runState.isTerminal = false)
    (isOpen : state.isTerminal = false) :
    ({ run with runState := state, counters, revision := run.revision + 1 } :
      ImportRun).Checked := by
  obtain ⟨_, staged, terminal, stagedAfter, completedAfter⟩ := checked
  refine ⟨?_, fun _ => staged published, ?_, stagedAfter, completedAfter⟩
  · show 0 < run.revision + 1
    omega
  · rw [wasOpen] at terminal
    simp only [isOpen]
    exact terminal

theorem checked_completed {run : ImportRun} {state : RunState} (checked : run.Checked)
    (published : run.runState.isPublished = true) (ended : state.isTerminal = true) :
    ({ run with
        runState := state
        completedAtUtc := some run.startedAtUtc
        counters
        revision := run.revision + 1 } : ImportRun).Checked := by
  obtain ⟨_, staged, _, stagedAfter, _⟩ := checked
  refine ⟨?_, fun _ => staged published, ?_, stagedAfter, ?_⟩
  · show 0 < run.revision + 1
    omega
  · simp [ended]
  · intro instant same
    simp only [Option.mem_def, Option.some.injEq] at same
    exact same.le

end Statements

/-! ## Rejecting a proposal -/

section Rejecting

variable {python : PythonLibrary} {tables : ImportTables} {run : ImportRun} {proposal : Proposal}

/-- The rejection of a proposal as it stands. -/
def rejection (proposal : Proposal) : Decision where
  disposition := .rejected
  proposalId := proposal.proposalId
  proposalRevision := proposal.revision
  proposalFingerprint := proposal.material.proposalFingerprint
  reasonCategory := "reviewed"

theorem validateReason_reviewed : validateReason "reviewed" = .ok () :=
  ensure_ok.mpr (by decide)

theorem RunState.isReviewable_open {state : RunState} (reviewable : state.isReviewable = true) :
    state.isTerminal = false := by
  cases state <;> first | rfl | cases reviewable

theorem RunState.isReviewable_mayBecome {state : RunState} (reviewable : state.isReviewable = true) :
    state.mayBecome state.underReview = true := by
  cases state <;> first | rfl | cases reviewable

theorem mayBecome_reviewed (transition : run.runState.mayBecome state = true) :
    run.mayBecome { run with runState := state, counters, revision := run.revision + 1 } = true := by
  simp only [ImportRun.mayBecome, decide_eq_true_eq, true_and]
  exact ⟨fun _ => trivial, transition⟩

/-- The proposal and its run as they stand are what the two updates ask for. -/
theorem transitionProposal_run (inside : run ∈ tables.rows.runs)
    (reviewable : run.runState.isReviewable = true)
    (insideProposals : proposal ∈ tables.rows.proposals)
    (pending : proposal.proposalState = .pending) (counted : 0 < run.counters.pendingProposalCount)
    (state : ProposalState) :
    ∃ next, (transitionProposal proposal run state).run tables = .ok (⟨⟩, next) ∧
      next.rows.checkpoints = tables.rows.checkpoints ∧
      { run with
        runState := run.runState.underReview
        counters := run.counters.decided state
        revision := run.revision + 1 } ∈ next.rows.runs := by
  have published := RunState.isReviewable_published reviewable
  have positive := (tables.valid.proposalRuns proposal insideProposals).1
  obtain ⟨middle, decided, _, sameProposals⟩ := updateProposal_run
    (fun row => row.proposalId = proposal.proposalId ∧ row.proposalState = .pending ∧
      row.revision = proposal.revision)
    (fun row => { row with proposalState := state, revision := row.revision + 1 })
    (proposalStale "reconciliation proposal changed before decision commit") insideProposals
    (by simp [pending]) (by simp +contextual) ⟨rfl, rfl, rfl, by simp only; omega⟩
  have runs : middle.rows.runs = tables.rows.runs := by rw [sameProposals]
  obtain ⟨next, updated, replaced, same⟩ := updateRun_run _
    (fun row => row.importRunId = run.importRunId ∧ row.revision = run.revision ∧
      0 < row.counters.pendingProposalCount ∧ row.runState.isReviewable)
    (fun row => { row with
      runState := run.runState.underReview
      counters := row.counters.decided state
      revision := row.revision + 1 })
    (proposalStale "parent import run changed before proposal decision commit")
    (by rw [runs]; exact inside) (by simp [counted, reviewable]) (by simp +contextual)
    (mayBecome_reviewed (RunState.isReviewable_mayBecome reviewable))
    (checked_reviewed (tables.valid.runChecks run inside) published
      (RunState.isReviewable_open reviewable) (RunState.underReview_open _))
  refine ⟨next, ?_, by rw [same, sameProposals], replaced.mem_new⟩
  simp only [transitionProposal, steps_ok]
  exact ⟨middle, decided, updated⟩

theorem reject_run (standing : Standing tables.rows) (inside : run ∈ tables.rows.runs)
    (reviewable : run.runState.isReviewable = true)
    (authorized : ∀ logicalFingerprint, run.logicalFingerprint = some logicalFingerprint →
      requireCurrentRecoveryAuthorization python tables.rows run logicalFingerprint = .ok ())
    (insideProposals : proposal ∈ tables.rows.proposals) (own : proposal.importRunId = run.importRunId)
    (pending : proposal.proposalState = .pending) :
    ∃ next, (decideProposal python (rejection proposal)).run tables = .ok (⟨⟩, next) ∧
      next.rows.checkpoints = tables.rows.checkpoints ∧
      { run with
        runState := run.runState.underReview
        counters := run.counters.decided .rejected
        revision := run.revision + 1 } ∈ next.rows.runs := by
  have published := RunState.isReviewable_published reviewable
  obtain ⟨logicalFingerprint, present, _⟩ := standing.fingerprinted run inside published
  have positive := (tables.valid.proposalRuns proposal insideProposals).1
  have counted : 0 < run.counters.pendingProposalCount := by
    rw [standing.sound.counted run inside published]
    have listed : proposal ∈ tables.rows.proposalsIn run.importRunId .pending := by
      simp [ImportRows.proposalsIn, ImportRows.proposalsOf, insideProposals, own, pending]
    exact List.length_pos_of_mem listed
  have prepared : prepareDecision python (rejection proposal) tables.rows =
      .ok (proposal, run) := by
    simp only [prepareDecision, except_ok, requirePending_ok]
    refine ⟨proposal, ⟨proposal?_of_mem tables.valid insideProposals, pending⟩, ⟨rfl, rfl⟩,
      (run, logicalFingerprint), getRun_ok.mpr ⟨?_, present⟩, reviewable, authorized _ present, rfl⟩
    rw [own]
    exact run?_of_mem tables.valid inside
  obtain ⟨next, decided, checkpoints, moved⟩ :=
    transitionProposal_run inside reviewable insideProposals pending counted .rejected
  refine ⟨next, ?_, checkpoints, moved⟩
  simp only [decideProposal, steps_ok]
  exact ⟨positive, ensure_ok.mpr (standing.hashed proposal insideProposals),
    validateReason_reviewed, _, prepared, decided⟩

end Rejecting

/-! ## Recovery reviews -/

section Recovery

variable {python : PythonLibrary} {tables : ImportTables} {rows : ImportRows} {run : ImportRun}
  {checkpoint : SourceCheckpoint} {logicalFingerprint : String}

theorem recoveryReviewDocument_text (run : ImportRun) (logicalFingerprint : String)
    (checkpoint : SourceCheckpoint) (pending : List Proposal) :
    ∃ text, canonicalJson (recoveryReviewDocument run logicalFingerprint checkpoint pending) =
      .ok text := by
  have items : ∃ parts, dumpsItems (pending.map fun row => Json.obj [
      ("proposal_id", .str row.proposalId),
      ("revision", .int row.revision),
      ("base_state_token", .str row.material.baseStateToken),
      ("proposal_fingerprint", .str row.material.proposalFingerprint)]) = some parts := by
    induction pending with
    | nil => exact ⟨[], rfl⟩
    | cons row pending ih =>
      obtain ⟨parts, rest⟩ := ih
      simp [dumpsItems, rest, dumps, dumpsFields]
  obtain ⟨parts, listed⟩ := items
  simp [canonicalJson, recoveryReviewDocument, dumps, dumpsFields, listed]

theorem recoveryReviewFingerprint_run (hexdigest : ∀ text, isSha256 (python.sha256Hex text) = true)
    (logicalFingerprint : String) (found : rows.checkpoint? run.sourceFamily = some checkpoint) :
    ∃ fingerprint, isSha256 fingerprint = true ∧
      recoveryReviewFingerprint python rows run logicalFingerprint = .ok fingerprint := by
  obtain ⟨text, encoded⟩ := recoveryReviewDocument_text run logicalFingerprint checkpoint
    ((rows.proposalsIn run.importRunId .pending).insertionSort
      fun left right => left.proposalId ≤ right.proposalId)
  refine ⟨python.sha256Hex text, hexdigest text, ?_⟩
  simp only [recoveryReviewFingerprint, found, sha256CanonicalJson, encoded]
  rfl

theorem foldr_max_eq {ordinals : List Nat} {bound : Nat} (below : ∀ other ∈ ordinals, other ≤ bound) :
    ordinals.foldr max bound = bound := by
  induction ordinals with
  | nil => rfl
  | cons head ordinals ih =>
    rw [List.foldr_cons, ih fun other inside => below other (List.mem_cons_of_mem _ inside)]
    exact max_eq_right (below head List.mem_cons_self)

theorem le_foldr_max {ordinals : List Nat} {ordinal : Nat} (inside : ordinal ∈ ordinals) :
    ordinal ≤ ordinals.foldr max 0 := by
  induction ordinals with
  | nil => exact absurd inside List.not_mem_nil
  | cons head ordinals ih =>
    rw [List.foldr_cons]
    rcases List.mem_cons.mp inside with same | rest
    · exact same ▸ le_max_left _ _
    · exact (ih rest).trans (le_max_right _ _)

theorem le_lastOrdinal {review : RecoveryReview} (inside : review ∈ rows.reviews) :
    review.reviewOrdinal ≤ rows.lastOrdinal review.importRunId :=
  le_foldr_max (List.mem_map_of_mem (by simp [ImportRows.reviewsOf, inside]))

/-- The review with the next ordinal is the latest one. -/
theorem latestReview?_appended (rows : ImportRows) (review : RecoveryReview)
    (next : review.reviewOrdinal = rows.lastOrdinal review.importRunId + 1) :
    ({ rows with reviews := rows.reviews ++ [review] } : ImportRows).latestReview?
      review.importRunId = some review := by
  have reviews : ({ rows with reviews := rows.reviews ++ [review] } : ImportRows).reviewsOf
      review.importRunId = rows.reviewsOf review.importRunId ++ [review] := by
    simp [ImportRows.reviewsOf, List.filter_append]
  have below : ∀ row ∈ rows.reviewsOf review.importRunId,
      row.reviewOrdinal ≤ rows.lastOrdinal review.importRunId := by
    intro row inside
    simp only [ImportRows.reviewsOf, List.mem_filter, decide_eq_true_eq] at inside
    rw [← inside.2]
    exact le_lastOrdinal inside.1
  have last : ({ rows with reviews := rows.reviews ++ [review] } : ImportRows).lastOrdinal
      review.importRunId = review.reviewOrdinal := by
    unfold ImportRows.lastOrdinal
    rw [reviews, List.map_append, List.foldr_append]
    simp only [List.map_cons, List.map_nil, List.foldr_cons, List.foldr_nil]
    rw [Nat.max_eq_left (Nat.zero_le _), foldr_max_eq]
    intro ordinal inside
    obtain ⟨row, present, rfl⟩ := List.mem_map.mp inside
    have := below row present
    omega
  unfold ImportRows.latestReview?
  rw [last, reviews, List.find?_append, List.find?_eq_none.mpr]
  · simp
  · intro row inside
    have := below row inside
    simp only [decide_eq_true_eq]
    omega

/-- A review of a run as it stands. -/
def reviewOf (run : ImportRun) (fingerprint : String) (decision : RecoveryDecision) : Resolution where
  importRunId := run.importRunId
  reviewFingerprint := fingerprint
  decision
  reasonCategory := "reviewed"
  now := run.startedAtUtc

theorem constraints_reviewOf (resolution : Resolution) (valid : rows.Constraints)
    (inside : run ∈ rows.runs) (present : checkpoint ∈ rows.checkpoints) :
    ({ rows with reviews := rows.reviews ++
        [recoveryReviewRow resolution run checkpoint (rows.lastOrdinal run.importRunId)] } :
      ImportRows).Constraints := by
  refine constraints_review valid ?_ ⟨Nat.succ_pos _, (valid.runChecks run inside).1,
    (valid.checkpointRuns checkpoint present).1, List.mem_map_of_mem inside⟩
  intro row before own
  have below := le_lastOrdinal before
  rw [own] at below
  exact fun same => Nat.not_succ_le_self _ (same ▸ below)

/-- A recovery run is authorized as it stands: both guards then let it on. -/
theorem authorize_run (hexdigest : ∀ text, isSha256 (python.sha256Hex text) = true)
    (standing : Standing tables.rows) (inside : run ∈ tables.rows.runs)
    (recovery : run.runState = .recoveryRequired) :
    ∃ resolution next, resolution.importRunId = run.importRunId ∧
      (resolveRecovery python resolution).run tables = .ok (⟨⟩, next) ∧
      next.rows = { tables.rows with reviews := next.rows.reviews } ∧
      ∀ logicalFingerprint, run.logicalFingerprint = some logicalFingerprint →
        requireCurrentRecoveryAuthorization python next.rows run logicalFingerprint = .ok () ∧
        ∀ checkpoint, next.rows.checkpoint? run.sourceFamily = some checkpoint →
          requireFinalAuthorization python next.rows run logicalFingerprint checkpoint = .ok () := by
  obtain ⟨checkpoint, found⟩ := standing.recovering run inside recovery
  obtain ⟨logicalFingerprint, present, _⟩ := standing.fingerprinted run inside
    (by rw [recovery]; rfl)
  obtain ⟨fingerprint, digest, hashed⟩ :=
    recoveryReviewFingerprint_run hexdigest logicalFingerprint found
  have valid := constraints_reviewOf (reviewOf run fingerprint .authorized) tables.valid
    inside (checkpoint?_some found).1
  have latest := latestReview?_appended tables.rows
    (recoveryReviewRow (reviewOf run fingerprint .authorized) run checkpoint
      (tables.rows.lastOrdinal run.importRunId)) rfl
  have prepared : prepareResolution python (reviewOf run fingerprint .authorized) tables.rows =
      .ok (run, checkpoint) :=
    prepareResolution_ok.mpr ⟨logicalFingerprint, run?_of_mem tables.valid inside, present, recovery,
      found, hashed, by simp [reviewOf]⟩
  refine ⟨reviewOf run fingerprint .authorized, ⟨_, valid⟩, rfl, ?_, rfl, ?_⟩
  · simp only [resolveRecovery, steps_ok]
    refine ⟨ensure_ok.mpr (standing.canonical run inside), ensure_ok.mpr digest,
      validateReason_reviewed, _, prepared, _, writeImports_run valid, ?_⟩
    rw [if_neg (by simp [reviewOf]), pure_ok]
    exact ⟨rfl, rfl⟩
  · intro other same
    obtain rfl : other = logicalFingerprint := by
      rw [present] at same
      exact (Option.some.inj same).symm
    constructor
    · simp only [requireCurrentRecoveryAuthorization, recovery, ne_eq, not_true_eq_false, if_false,
        except_ok]
      exact ⟨fingerprint, hashed, _, latest, rfl, rfl⟩
    · intro current foundCurrent
      obtain rfl : current = checkpoint := by
        rw [show tables.rows.checkpoint? run.sourceFamily = some current from foundCurrent] at found
        exact Option.some.inj found
      simp only [requireFinalAuthorization, except_ok]
      exact ⟨fingerprint, hashed, _, latest, rfl, rfl, rfl⟩

/-- The run is there in a terminal state. -/
abbrev ImportRows.Ends (rows : ImportRows) (run : ImportRun) : Prop :=
  ∃ ended ∈ rows.runs, ended.importRunId = run.importRunId ∧ ended.runState.isTerminal = true

/-- A recovery run none of whose proposals was accepted is rejected as it stands. -/
theorem rejectRecovery_run (hexdigest : ∀ text, isSha256 (python.sha256Hex text) = true)
    (standing : Standing tables.rows) (inside : run ∈ tables.rows.runs)
    (recovery : run.runState = .recoveryRequired)
    (unaccepted : run.counters.acceptedProposalCount = 0) :
    ∃ resolution next, resolution.importRunId = run.importRunId ∧
      (resolveRecovery python resolution).run tables = .ok (⟨⟩, next) ∧
      next.rows.Ends run := by
  obtain ⟨checkpoint, found⟩ := standing.recovering run inside recovery
  have published : run.runState.isPublished = true := by rw [recovery]; rfl
  obtain ⟨logicalFingerprint, present, _⟩ := standing.fingerprinted run inside published
  obtain ⟨fingerprint, digest, hashed⟩ :=
    recoveryReviewFingerprint_run hexdigest logicalFingerprint found
  have valid := constraints_reviewOf (reviewOf run fingerprint .rejected) tables.valid
    inside (checkpoint?_some found).1
  have prepared : prepareResolution python (reviewOf run fingerprint .rejected) tables.rows =
      .ok (run, checkpoint) :=
    prepareResolution_ok.mpr ⟨logicalFingerprint, run?_of_mem tables.valid inside, present, recovery,
      found, hashed, fun _ => unaccepted⟩
  let reviewed : ImportTables := ⟨_, valid⟩
  have superseded := constraints_superseded run.importRunId reviewed.valid
  have change : reviewed.rows.changeProposals
      (fun row => row.importRunId = run.importRunId ∧ row.proposalState = .pending)
      (fun row => { row with proposalState := .superseded, revision := row.revision + 1 }) =
      { reviewed.rows with
        proposals := reviewed.rows.proposals.map (supersede run.importRunId) } := by
    unfold ImportRows.changeProposals supersede
    simp
  rw [← change] at superseded
  obtain ⟨next, updated, replaced, _⟩ := updateRun_run ⟨_, superseded⟩
    (fun row => row.importRunId = run.importRunId ∧ row.revision = run.revision ∧
      row.runState = .recoveryRequired ∧ row.counters.acceptedProposalCount = 0)
    (fun row => { row with
      runState := .rejected
      completedAtUtc := some run.startedAtUtc
      counters := { row.counters with pendingProposalCount := 0 }
      revision := row.revision + 1 })
    (recoveryReviewStale "recovery run changed before rejection") inside
    (by simp [recovery, unaccepted]) (by simp +contextual)
    (by
      simp only [ImportRun.mayBecome, decide_eq_true_eq, true_and, recovery]
      exact ⟨fun _ => trivial, rfl⟩)
    (checked_completed (tables.valid.runChecks run inside) published rfl)
  refine ⟨reviewOf run fingerprint .rejected, next, rfl, ?_, _, replaced.mem_new, rfl, rfl⟩
  simp only [resolveRecovery, steps_ok]
  refine ⟨ensure_ok.mpr (standing.canonical run inside), ensure_ok.mpr digest,
    validateReason_reviewed, _, prepared, _, writeImports_run valid, ?_⟩
  rw [if_pos (by rfl)]
  simp only [rejectRecovery, steps_ok]
  exact ⟨_, writeImports_run superseded, updated⟩

end Recovery

/-! ## Completing -/

section Completing

variable {python : PythonLibrary} {tables : ImportTables} {run : ImportRun}
  {logicalFingerprint : String}

theorem establishOrAdvanceFinalized_run (inside : run ∈ tables.rows.runs)
    (newer : ∀ checkpoint ∈ tables.rows.checkpoint? run.sourceFamily,
      run.sourceProfileId = checkpoint.sourceProfileId ∧
      run.chronologyKind = checkpoint.chronologyKind ∧
      checkpoint.chronologyValue < run.chronologyValue) :
    ∃ next, (establishOrAdvanceFinalized run logicalFingerprint).run tables = .ok (⟨⟩, next) ∧
      next.rows.runs = tables.rows.runs := by
  simp only [establishOrAdvanceFinalized, bind_ok, get_ok]
  cases found : tables.rows.checkpoint? run.sourceFamily with
  | none =>
    exact ⟨⟨_, constraints_established tables.valid inside found⟩,
      ⟨_, _, ⟨rfl, rfl⟩, by rw [found]; exact writeImports_run _⟩, rfl⟩
  | some current =>
    obtain ⟨profile, kind, order⟩ := newer current found
    obtain ⟨present, family⟩ := checkpoint?_some found
    have replaced := replaced_of_key (fun row : SourceCheckpoint => row.sourceFamily)
      (fun row => run.checkpoint logicalFingerprint (row.revision + 1))
      tables.valid.checkpointFamilies present
    rw [family] at replaced
    have positive := (tables.valid.checkpointRuns current present).1
    have valid := constraints_checkpoints tables.valid inside family replaced (by omega)
    refine ⟨⟨_, valid⟩, ⟨_, _, ⟨rfl, rfl⟩, ?_⟩, rfl⟩
    rw [found]
    simp only [steps_ok]
    exact ⟨profile, kind, order, writeImports_run valid⟩

theorem finalizeAuthorizedRecovery_run (inside : run ∈ tables.rows.runs)
    (found : tables.rows.checkpoint? run.sourceFamily = some current)
    (profile : run.sourceProfileId = current.sourceProfileId)
    (kind : run.chronologyKind = current.chronologyKind)
    (order : run.chronologyValue < current.chronologyValue ∨
      run.chronologyValue = current.chronologyValue ∧
        logicalFingerprint ≠ current.logicalFingerprint) :
    ∃ next, (finalizeAuthorizedRecovery run logicalFingerprint current).run tables =
        .ok (⟨⟩, next) ∧ next.rows.runs = tables.rows.runs := by
  simp only [finalizeAuthorizedRecovery, bind_ok, require_ok]
  rcases order with older | ⟨equal, conflicts⟩
  · refine ⟨tables, ⟨⟨⟩, _, ⟨profile, rfl⟩, ⟨⟩, _, ⟨kind, rfl⟩, ⟨⟩, _, ⟨older.le, rfl⟩, ?_⟩, rfl⟩
    rw [if_pos older, pure_ok]
    exact ⟨rfl, rfl⟩
  · obtain ⟨present, family⟩ := checkpoint?_some found
    have replaced := replaced_of_key (fun row : SourceCheckpoint => row.sourceFamily)
      (fun row => { row with
        logicalFingerprint
        acceptedImportRunId := run.importRunId
        revision := row.revision + 1 })
      tables.valid.checkpointFamilies present
    have result : { current with
        logicalFingerprint
        acceptedImportRunId := run.importRunId
        revision := current.revision + 1 } =
          run.checkpoint logicalFingerprint (current.revision + 1) := by
      simp [ImportRun.checkpoint, family, profile, kind, equal]
    rw [result, family] at replaced
    have positive := (tables.valid.checkpointRuns current present).1
    have valid := constraints_checkpoints tables.valid inside family replaced (by omega)
    refine ⟨⟨_, valid⟩, ⟨⟨⟩, _, ⟨profile, rfl⟩, ⟨⟩, _, ⟨kind, rfl⟩, ⟨⟩, _, ⟨equal.le, rfl⟩, ?_⟩, rfl⟩
    rw [if_neg (by omega)]
    simp only [steps_ok]
    exact ⟨conflicts, writeImports_run valid⟩

theorem completeRun_run (states : List RunState) (stale : Raised) (inside : run ∈ tables.rows.runs)
    (reviewable : run.runState.isReviewable = true) (state : run.runState ∈ states)
    (decided : run.counters.pendingProposalCount = 0) :
    ∃ next, (completeRun run states run.startedAtUtc stale).run tables = .ok (⟨⟩, next) ∧
      next.rows.Ends run := by
  have ended := ended_terminal (finalState_ended run.counters)
  obtain ⟨next, updated, replaced, _⟩ := updateRun_run tables
    (fun row => row.importRunId = run.importRunId ∧ row.revision = run.revision ∧
      row.runState ∈ states ∧ row.counters.pendingProposalCount = 0)
    (fun row => { row with
      runState := finalState run.counters
      completedAtUtc := some run.startedAtUtc
      revision := row.revision + 1 })
    stale inside (by simp [state, decided]) (by simp +contextual)
    (by
      simp only [ImportRun.mayBecome, decide_eq_true_eq, true_and]
      refine ⟨fun _ => trivial, ?_⟩
      revert reviewable
      unfold finalState
      split_ifs <;> cases run.runState <;> simp [RunState.isReviewable, RunState.mayBecome])
    (checked_completed (tables.valid.runChecks run inside)
      (RunState.isReviewable_published reviewable) ended)
  exact ⟨next, updated, _, replaced.mem_new, rfl, ended⟩

/-- A reviewed run that the checkpoint lets end is finalized as it stands. -/
theorem finalize_run (standing : Standing tables.rows) (inside : run ∈ tables.rows.runs)
    (reviewable : run.runState.isReviewable = true)
    (decided : run.counters.pendingProposalCount = 0)
    (newer : run.runState ≠ .recoveryRequired → run.CanEnd tables.rows)
    (recovers : run.runState = .recoveryRequired →
      ∃ current, tables.rows.checkpoint? run.sourceFamily = some current ∧
        run.sourceProfileId = current.sourceProfileId ∧
        run.chronologyKind = current.chronologyKind ∧
        (run.chronologyValue < current.chronologyValue ∨
          run.chronologyValue = current.chronologyValue ∧
            run.logicalFingerprint ≠ some current.logicalFingerprint) ∧
        ∀ logicalFingerprint, run.logicalFingerprint = some logicalFingerprint →
          requireFinalAuthorization python tables.rows run logicalFingerprint current = .ok ()) :
    ∃ next, (finalizeRun python run.importRunId run.revision run.startedAtUtc).run tables =
        .ok (⟨⟩, next) ∧ next.rows.Ends run := by
  have published := RunState.isReviewable_published reviewable
  obtain ⟨logicalFingerprint, present, _⟩ := standing.fingerprinted run inside published
  have prepared : prepareFinalization tables.rows run.importRunId run.revision =
      .ok (run, logicalFingerprint) :=
    prepareFinalization_ok.mpr ⟨⟨run?_of_mem tables.valid inside, present⟩, rfl, reviewable,
      standing.sound.counted run inside published, decided⟩
  have positive := (tables.valid.runChecks run inside).1
  have applied : ∃ next, (applyFinalization python run logicalFingerprint run.startedAtUtc).run
        tables = .ok (⟨⟩, next) ∧
      next.rows.Ends run := by
    simp only [applyFinalization, bind_ok, get_ok]
    by_cases recovery : run.runState = .recoveryRequired
    · obtain ⟨current, found, profile, kind, order, authorized⟩ := recovers recovery
      have conflicts : run.chronologyValue < current.chronologyValue ∨
          run.chronologyValue = current.chronologyValue ∧
            logicalFingerprint ≠ current.logicalFingerprint := by
        rcases order with older | ⟨equal, other⟩
        · exact .inl older
        · exact .inr ⟨equal, fun same => other (by rw [present, same])⟩
      obtain ⟨middle, recovered, runs⟩ :=
        finalizeAuthorizedRecovery_run inside found profile kind conflicts
      obtain ⟨next, completed, ended⟩ := completeRun_run [.recoveryRequired]
        (recoveryReviewStale "recovery run changed before finalization")
        (by rw [runs]; exact inside) reviewable (by simp [recovery]) decided
      refine ⟨next, ⟨_, _, ⟨rfl, rfl⟩, ?_⟩, ended⟩
      rw [if_pos recovery, found]
      simp only [steps_ok]
      exact ⟨authorized _ present, _, recovered, completed⟩
    · have mayEnd := newer recovery
      have ordinary : run.runState ∈ [RunState.staged, .waitingReview] := by
        revert reviewable recovery
        cases run.runState <;> simp [RunState.isReviewable]
      have fits : ∀ checkpoint ∈ tables.rows.checkpoint? run.sourceFamily,
          run.sourceProfileId = checkpoint.sourceProfileId ∧
          run.chronologyKind = checkpoint.chronologyKind ∧
          checkpoint.chronologyValue < run.chronologyValue := by
        unfold ImportRun.CanEnd ImportRun.MayEndUnder at mayEnd
        simp only [List.mem_cons, List.not_mem_nil, or_false] at ordinary
        rcases ordinary with state | state <;>
        · rw [state] at mayEnd
          exact mayEnd
      obtain ⟨middle, established, runs⟩ := establishOrAdvanceFinalized_run inside fits
      obtain ⟨next, completed, ended⟩ := completeRun_run [.staged, .waitingReview]
        (runStale "import run changed before finalization")
        (by rw [runs]; exact inside) reviewable ordinary decided
      refine ⟨next, ⟨_, _, ⟨rfl, rfl⟩, ?_⟩, ended⟩
      rw [if_neg recovery]
      simp only [steps_ok]
      exact ⟨middle, established, completed⟩
  obtain ⟨next, ran, ended⟩ := applied
  refine ⟨next, ?_, ended⟩
  simp only [finalizeRun, steps_ok]
  exact ⟨ensure_ok.mpr (standing.canonical run inside), by omega, _, prepared, ran⟩

/-- A run waiting for its source check is recorded as it stands. -/
theorem recordCheck_run (standing : Standing tables.rows) (inside : run ∈ tables.rows.runs)
    (waiting : run.runState = .noopPendingCheckpoint) (mayEnd : run.CanEnd tables.rows) :
    ∃ check next, check.importRunId = run.importRunId ∧
      (recordNewerIdenticalSourceCheck check run.startedAtUtc).run tables = .ok (⟨⟩, next) ∧
      next.rows.Ends run := by
  have published : run.runState.isPublished = true := by rw [waiting]; rfl
  obtain ⟨logicalFingerprint, present, digest⟩ := standing.fingerprinted run inside published
  unfold ImportRun.CanEnd ImportRun.MayEndUnder at mayEnd
  rw [waiting] at mayEnd
  obtain ⟨current, found, profile, kind, order, identical⟩ := mayEnd
  obtain ⟨insideCheckpoints, family⟩ := checkpoint?_some found
  have runPositive := (tables.valid.runChecks run inside).1
  have positive := (tables.valid.checkpointRuns current insideCheckpoints).1
  have same : logicalFingerprint = current.logicalFingerprint := by
    rw [present] at identical
    exact Option.some.inj identical
  obtain ⟨unproposed, unobserved⟩ := standing.waiting run inside waiting
  have counted := standing.sound.counted run inside published
  have proposals : tables.rows.proposalsOf run.importRunId = [] := by
    rw [counted] at unproposed
    exact List.length_eq_zero_iff.mp unproposed
  have observations : ∀ row ∈ tables.rows.observations, row.importRunId ≠ run.importRunId := by
    rw [counted] at unobserved
    intro row own
    simpa using List.countP_eq_zero.mp unobserved row own
  have unpending : run.counters.pendingProposalCount = 0 := by
    rw [counted]
    show ((tables.rows.proposalsOf run.importRunId).filter _).length = 0
    rw [proposals]
    rfl
  let check : SourceCheck := ⟨run.importRunId, run.revision, current.revision, run.chronologyKind,
    run.chronologyValue, logicalFingerprint⟩
  have prepared : prepareSourceCheck check tables.rows = .ok (run, current) :=
    prepareSourceCheck_ok.mpr ⟨run?_of_mem tables.valid inside, present, found, rfl, rfl, rfl, rfl⟩
  have identicalRun : requireNewerIdentical tables.rows run logicalFingerprint current = .ok () := by
    simp only [requireNewerIdentical, except_ok]
    exact ⟨waiting, profile, kind, order, same, ⟨unproposed, unpending⟩, observations, proposals⟩
  have replaced := replaced_of_key (fun row : SourceCheckpoint => row.sourceFamily)
    (fun row => run.checkpoint logicalFingerprint (row.revision + 1))
    tables.valid.checkpointFamilies insideCheckpoints
  rw [family] at replaced
  have valid := constraints_checkpoints tables.valid inside family replaced (by omega)
  obtain ⟨next, updated, ended, _⟩ := updateRun_run ⟨_, valid⟩
    (fun row => row.importRunId = run.importRunId ∧ row.runState = .noopPendingCheckpoint ∧
      row.revision = run.revision)
    (fun row => { row with
      runState := .noop
      completedAtUtc := some run.startedAtUtc
      revision := row.revision + 1 })
    (runStale "import run changed before checkpoint advancement") inside (by simp [waiting])
    (by simp +contextual)
    (by
      simp only [ImportRun.mayBecome, decide_eq_true_eq, true_and, waiting]
      exact ⟨fun _ => trivial, rfl⟩)
    (checked_completed (tables.valid.runChecks run inside) published rfl)
  refine ⟨check, next, rfl, ?_, _, ended.mem_new, rfl, rfl⟩
  simp only [recordNewerIdenticalSourceCheck, steps_ok]
  refine ⟨ensure_ok.mpr (standing.canonical run inside), runPositive, positive, digest, _, prepared,
    ?_⟩
  rw [if_neg (by simp [waiting])]
  simp only [steps_ok, advanceNewerIdentical]
  exact ⟨identicalRun, _, writeImports_run valid, updated⟩

end Completing

end Soma.Imports
