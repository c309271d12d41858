import Soma.Imports.Decisions

/-!
`commands/finalize_run.py`, `commands/recovery.py` and `SourceCheckpointRepository`:
a reviewed run is finalized and moves the source checkpoint, a newer identical
source check moves it too, and a recovery run is authorized, deferred or rejected.

The revisions `resolve` accepts from internal callers are left out: no caller
passes them. `now` is `utc_epoch_seconds()` at the call.
-/

namespace Soma.Imports

open Foundation Transaction

def checkpointStale (message : String) : Raised :=
  importError "IMPORT_CHECKPOINT_STALE" message

/-! ## The source checkpoint -/

/-- The checkpoint a run leaves behind. -/
def ImportRun.checkpoint (run : ImportRun) (logicalFingerprint : String) (revision : Int) :
    SourceCheckpoint where
  sourceFamily := run.sourceFamily
  sourceProfileId := run.sourceProfileId
  chronologyKind := run.chronologyKind
  chronologyValue := run.chronologyValue
  logicalFingerprint
  acceptedImportRunId := run.importRunId
  revision

/-- `establish_or_advance_finalized`. The caller read the checkpoint in the same
transaction, so its revision is the expected one. -/
def establishOrAdvanceFinalized (run : ImportRun) (logicalFingerprint : String) :
    ImportBody PUnit := do
  let tables ← get
  match tables.rows.checkpoint? run.sourceFamily with
  | none => writeImports fun rows => { rows with
      checkpoints := rows.checkpoints ++ [run.checkpoint logicalFingerprint 1] }
  | some current => do
    require (run.sourceProfileId = current.sourceProfileId)
      (checkpointStale "source profile differs from current checkpoint")
    require (run.chronologyKind = current.chronologyKind)
      (checkpointStale "source chronology kind differs from current checkpoint")
    require (current.chronologyValue < run.chronologyValue)
      (checkpointStale "ordinary finalized run is not newer than checkpoint")
    writeImports (·.changeCheckpoint run.sourceFamily fun row =>
      run.checkpoint logicalFingerprint (row.revision + 1))

def finalizeAuthorizedRecovery (run : ImportRun) (logicalFingerprint : String)
    (current : SourceCheckpoint) : ImportBody PUnit := do
  require (run.sourceProfileId = current.sourceProfileId)
    (checkpointStale "source profile differs from current checkpoint")
  require (run.chronologyKind = current.chronologyKind)
    (checkpointStale "source chronology kind differs from current checkpoint")
  require (run.chronologyValue ≤ current.chronologyValue)
    (recoveryReviewStale "newer source evidence must use ordinary finalization")
  if run.chronologyValue < current.chronologyValue then return
  else do
    require (logicalFingerprint ≠ current.logicalFingerprint)
      (recoveryReviewStale "equal-chronology recovery no longer conflicts with the checkpoint")
    writeImports (·.changeCheckpoint run.sourceFamily fun row => { row with
      logicalFingerprint
      acceptedImportRunId := run.importRunId
      revision := row.revision + 1 })

/-! ## Finalization -/

/-- `get_checkpoint_transition_run`, with `missing` for a run that is not there. -/
def getCheckpointTransitionRun (rows : ImportRows) (importRunId : String) (missing : Raised) :
    Except Raised (ImportRun × String) :=
  match rows.run? importRunId with
  | none => .error missing
  | some run =>
    match run.logicalFingerprint with
    | none => .error (runStale "import run has no published logical fingerprint")
    | some logicalFingerprint => .ok (run, logicalFingerprint)

/-- The state a reviewed run ends in. -/
def finalState (counters : Counters) : RunState :=
  if counters.acceptedProposalCount = 0 ∧ 0 < counters.proposalCount then .rejected
  else if counters.rejectedProposalCount ≠ 0 ∨ counters.deferredProposalCount ≠ 0 then
    .partiallyAccepted
  else .accepted

def storedCountersDisagree : Raised :=
  integrityFailure "import run stored counters disagree with exact evidence"

/-- The reads of `finalize_run.prepare` up to the checkpoint. -/
def prepareFinalization (rows : ImportRows) (importRunId : String) (expectedRunRevision : Int) :
    Except Raised (ImportRun × String) := do
  let (run, logicalFingerprint) ← getCheckpointTransitionRun rows importRunId
    (importError "IMPORT_RUN_NOT_FOUND" "import run does not exist")
  ensure (run.revision = expectedRunRevision) (runStale "import run revision changed")
  ensure run.runState.isReviewable (runStale "import run is not review-finalizable")
  ensure (run.counters = rows.derivePublicationCounters importRunId) storedCountersDisagree
  ensure (run.counters.pendingProposalCount = 0)
    (importError "IMPORT_PENDING_PROPOSALS" "import run still has pending proposals")
  return (run, logicalFingerprint)

/-- The authorization `finalize_run` asks a recovery run for. -/
def requireFinalAuthorization (python : PythonLibrary) (rows : ImportRows) (run : ImportRun)
    (logicalFingerprint : String) (checkpoint : SourceCheckpoint) : Except Raised Unit := do
  let current ← recoveryReviewFingerprint python rows run logicalFingerprint
  ensure (∃ review ∈ rows.latestReview? run.importRunId,
      review.decision = .authorized ∧ review.reviewFingerprint = current ∧
      review.checkpointRevision = checkpoint.revision)
    (importError "IMPORT_RECOVERY_AUTHORIZATION_REQUIRED"
      "recovery finalization requires the latest exact authorization")

/-- The update that completes a reviewed run. -/
def completeRun (run : ImportRun) (states : List RunState) (now : Int) (stale : Raised) :
    ImportBody PUnit :=
  updateRun
    (fun row => row.importRunId = run.importRunId ∧ row.revision = run.revision ∧
      row.runState ∈ states ∧ row.counters.pendingProposalCount = 0)
    (fun row => { row with
      runState := finalState run.counters
      completedAtUtc := some now
      revision := row.revision + 1 })
    stale

/-- The two `apply` callbacks of `finalize_run`. -/
def applyFinalization (python : PythonLibrary) (run : ImportRun) (logicalFingerprint : String)
    (now : Int) : ImportBody PUnit := do
  let tables ← get
  if run.runState = .recoveryRequired then
    match tables.rows.checkpoint? run.sourceFamily with
    | none => throw (recoveryReviewStale "recovery run no longer has a source checkpoint")
    | some checkpoint => do
      attempt (requireFinalAuthorization python tables.rows run logicalFingerprint checkpoint)
      finalizeAuthorizedRecovery run logicalFingerprint checkpoint
      completeRun run [.recoveryRequired] now
        (recoveryReviewStale "recovery run changed before finalization")
  else do
    establishOrAdvanceFinalized run logicalFingerprint
    completeRun run [.staged, .waitingReview] now
      (runStale "import run changed before finalization")

def finalizeRun (python : PythonLibrary) (importRunId : String) (expectedRunRevision now : Int) :
    ImportBody PUnit := do
  attempt (requireUuid4 importRunId)
  require (1 ≤ expectedRunRevision)
    (validationError "expected_run_revision must be a positive integer")
  let tables ← get
  let (run, logicalFingerprint) ←
    attempt (prepareFinalization tables.rows importRunId expectedRunRevision)
  applyFinalization python run logicalFingerprint now

/-! ## Newer identical source checks -/

/-- A recorded source check. -/
structure SourceCheck where
  importRunId : String
  expectedRunRevision : Int
  expectedCheckpointRevision : Int
  chronologyKind : ChronologyKind
  chronologyValue : Nat
  logicalFingerprint : String

/-- The reads of `record_newer_identical_source_check.prepare` that do not depend
on the state of the run. -/
def prepareSourceCheck (check : SourceCheck) (rows : ImportRows) :
    Except Raised (ImportRun × SourceCheckpoint) := do
  let (run, logicalFingerprint) ← getCheckpointTransitionRun rows check.importRunId
    (runStale "import run does not exist")
  match rows.checkpoint? run.sourceFamily with
  | none => .error (checkpointStale "source checkpoint does not exist")
  | some checkpoint => do
    ensure (run.revision = check.expectedRunRevision) (runStale "import run revision changed")
    ensure (checkpoint.revision = check.expectedCheckpointRevision)
      (checkpointStale "source checkpoint revision changed")
    ensure (run.chronologyKind = check.chronologyKind ∧
        run.chronologyValue = check.chronologyValue ∧
        logicalFingerprint = check.logicalFingerprint)
      (runStale "import run chronology or fingerprint changed")
    return (run, checkpoint)

/-- What a waiting run is checked for before it advances the checkpoint. -/
def requireNewerIdentical (rows : ImportRows) (run : ImportRun) (logicalFingerprint : String)
    (checkpoint : SourceCheckpoint) : Except Raised Unit := do
  ensure (run.runState = .noopPendingCheckpoint)
    (runStale "import run is not waiting for checkpoint advancement")
  ensure (run.sourceProfileId = checkpoint.sourceProfileId)
    (checkpointStale "source profile differs from current checkpoint")
  ensure (run.chronologyKind = checkpoint.chronologyKind)
    (checkpointStale "source chronology kind differs from current checkpoint")
  ensure (checkpoint.chronologyValue < run.chronologyValue)
    (checkpointStale "newer-identical source chronology is not newer")
  ensure (logicalFingerprint = checkpoint.logicalFingerprint)
    (checkpointStale "newer-identical source fingerprint differs from checkpoint")
  ensure (run.counters.proposalCount = 0 ∧ run.counters.pendingProposalCount = 0)
    (runStale "newer-identical run unexpectedly contains proposals")
  ensure ((∀ row ∈ rows.observations, row.importRunId ≠ run.importRunId) ∧
      rows.proposalsOf run.importRunId = [])
    (runStale "newer-identical run unexpectedly contains published row authority")

/-- The answer to a check of a run that is already `noop`. -/
def requireAlreadyAdvanced (run : ImportRun) (logicalFingerprint : String)
    (checkpoint : SourceCheckpoint) : Except Raised Unit :=
  ensure (checkpoint.acceptedImportRunId = run.importRunId ∧
      checkpoint.sourceProfileId = run.sourceProfileId ∧
      checkpoint.chronologyKind = run.chronologyKind ∧
      checkpoint.chronologyValue = run.chronologyValue ∧
      checkpoint.logicalFingerprint = logicalFingerprint)
    (runStale "noop run does not match the current source checkpoint")

/-- `advance_newer_identical` and `mark_noop`. -/
def advanceNewerIdentical (run : ImportRun) (logicalFingerprint : String) (now : Int) :
    ImportBody PUnit := do
  writeImports (·.changeCheckpoint run.sourceFamily fun row =>
    run.checkpoint logicalFingerprint (row.revision + 1))
  updateRun
    (fun row => row.importRunId = run.importRunId ∧ row.runState = .noopPendingCheckpoint ∧
      row.revision = run.revision)
    (fun row => { row with
      runState := .noop
      completedAtUtc := some now
      revision := row.revision + 1 })
    (runStale "import run changed before checkpoint advancement")

def recordNewerIdenticalSourceCheck (check : SourceCheck) (now : Int) : ImportBody PUnit := do
  attempt (requireUuid4 check.importRunId)
  require (0 < check.expectedRunRevision)
    (validationError "expected_run_revision must be a positive integer")
  require (0 < check.expectedCheckpointRevision)
    (validationError "expected_checkpoint_revision must be a positive integer")
  require (isSha256 check.logicalFingerprint)
    (validationError "logical_fingerprint must be lowercase SHA-256 hex")
  let tables ← get
  let (run, checkpoint) ← attempt (prepareSourceCheck check tables.rows)
  if run.runState = .noop then
    attempt (requireAlreadyAdvanced run check.logicalFingerprint checkpoint)
  else do
    attempt (requireNewerIdentical tables.rows run check.logicalFingerprint checkpoint)
    advanceNewerIdentical run check.logicalFingerprint now

/-! ## Recovery reviews -/

/-- A recovery review. -/
structure Resolution where
  importRunId : String
  reviewFingerprint : String
  decision : RecoveryDecision
  reasonCategory : String
  now : Int

/-- The reads of `resolve.prepare`. -/
def prepareResolution (python : PythonLibrary) (resolution : Resolution) (rows : ImportRows) :
    Except Raised (ImportRun × SourceCheckpoint) := do
  let (run, logicalFingerprint) ← getRun rows resolution.importRunId
  ensure (run.runState = .recoveryRequired)
    (importError "IMPORT_RUN_NOT_RECOVERY_REQUIRED" "import run is not recovery-required")
  match rows.checkpoint? run.sourceFamily with
  | none => .error (recoveryReviewStale "recovery checkpoint disappeared")
  | some checkpoint => do
    let exact ← recoveryReviewFingerprint python rows run logicalFingerprint
    ensure (exact = resolution.reviewFingerprint)
      (recoveryReviewStale "recovery review fingerprint changed")
    ensure (resolution.decision = .rejected → run.counters.acceptedProposalCount = 0)
      (importError "IMPORT_RECOVERY_REJECT_AFTER_ACCEPTANCE"
        "recovery with accepted proposals cannot be rejected")
    return (run, checkpoint)

/-- The review row `resolve` inserts. -/
def recoveryReviewRow (resolution : Resolution) (run : ImportRun) (checkpoint : SourceCheckpoint)
    (lastOrdinal : Nat) : RecoveryReview where
  importRunId := run.importRunId
  checkpointImportRunId := checkpoint.acceptedImportRunId
  reviewOrdinal := lastOrdinal + 1
  runRevision := run.revision
  checkpointRevision := checkpoint.revision
  reviewFingerprint := resolution.reviewFingerprint
  decision := resolution.decision

/-- What a rejection adds: the pending proposals are superseded and the run ends. -/
def rejectRecovery (run : ImportRun) (now : Int) : ImportBody PUnit := do
  writeImports (·.changeProposals
    (fun row => row.importRunId = run.importRunId ∧ row.proposalState = .pending)
    (fun row => { row with proposalState := .superseded, revision := row.revision + 1 }))
  updateRun
    (fun row => row.importRunId = run.importRunId ∧ row.revision = run.revision ∧
      row.runState = .recoveryRequired ∧ row.counters.acceptedProposalCount = 0)
    (fun row => { row with
      runState := .rejected
      completedAtUtc := some now
      counters := { row.counters with pendingProposalCount := 0 }
      revision := row.revision + 1 })
    (recoveryReviewStale "recovery run changed before rejection")

/-- `ResolveImportRecoveryService.resolve`. -/
def resolveRecovery (python : PythonLibrary) (resolution : Resolution) : ImportBody PUnit := do
  attempt (requireUuid4 resolution.importRunId)
  attempt (validateFingerprint "review_fingerprint" resolution.reviewFingerprint)
  attempt (validateReason resolution.reasonCategory)
  let tables ← get
  let (run, checkpoint) ← attempt (prepareResolution python resolution tables.rows)
  let lastOrdinal := tables.rows.lastOrdinal run.importRunId
  writeImports fun rows => { rows with
    reviews := rows.reviews ++ [recoveryReviewRow resolution run checkpoint lastOrdinal] }
  if resolution.decision = .rejected then rejectRecovery run resolution.now
  else return

end Soma.Imports
