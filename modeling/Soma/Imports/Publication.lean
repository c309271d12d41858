import Soma.Imports.Tables

/-!
`ticket_import/repositories/runs.py`, `observations.py`, `findings.py` and
`commands/publish_staged_run.py`: an import run is started, its parsed rows are
staged, and one transaction classifies it against the source checkpoint and
publishes it with its proposals.

The fingerprint of the staged evidence, the proposals the family's builders
produce and which of them an earlier equivalent decision suppresses come with
the call; so does the durable job claim the worker holds, which authorizes the
call and changes no import table.
-/

namespace Soma.Imports

open Foundation Transaction

def runStale (message : String) : Raised :=
  importError "IMPORT_RUN_STALE" message

/-! ## Starting and staging -/

def startValidatingRun (importRunId : String) (sourceFamily : SourceFamily)
    (sourceProfileId : String) (chronologyKind : ChronologyKind) (chronologyValue : Nat)
    (startedAtUtc : Int) : ImportBody PUnit := do
  attempt (requireUuid4 importRunId)
  require (sourceProfileId ≠ "") (validationError "profile_ids values must be nonempty strings")
  require (0 ≤ startedAtUtc) (validationError "started_at_utc must be a nonnegative integer")
  writeImports fun rows => { rows with
    runs := rows.runs ++ [{
      importRunId, sourceFamily, sourceProfileId, chronologyKind, chronologyValue
      logicalFingerprint := none
      runState := .validating
      startedAtUtc
      stagedAtUtc := none
      completedAtUtc := none
      counters := .zero
      revision := 1 }] }

def requireValidatingRun (rows : ImportRows) (importRunId : String) (expectedRevision : Int) :
    Except Raised Unit :=
  match rows.run? importRunId with
  | none => .error (importError "IMPORT_RUN_NOT_FOUND" "import run does not exist")
  | some run => ensure (run.runState = .validating ∧ run.revision = expectedRevision)
      (runStale "import run is not the expected validating staging target")

/-- `stage_observations`, with the ids the rows get. -/
def stageObservations (importRunId : String) (expectedRevision : Int)
    (observations : List (Uuid4 × Bool)) : ImportBody PUnit := do
  require (1 ≤ observations.length ∧ observations.length ≤ 2000)
    (validationError "staging batch must contain 1..2000 observations")
  let tables ← get
  attempt (requireValidatingRun tables.rows importRunId expectedRevision)
  writeImports fun rows => { rows with
    observations := rows.observations ++
      observations.map fun row => ⟨row.1.value, importRunId, row.2⟩ }

/-- The finding rows of a run, with the ids they get. -/
def findingRows (importRunId : String) (findings : List (Uuid4 × Severity)) : List ImportFinding :=
  findings.map fun row => ⟨row.1.value, importRunId, row.2⟩

/-- `stage_findings` and `append_reconciliation_findings_after_source_verification`. -/
def stageFindings (importRunId : String) (expectedRevision : Int)
    (findings : List (Uuid4 × Severity)) : ImportBody PUnit := do
  let tables ← get
  attempt (requireValidatingRun tables.rows importRunId expectedRevision)
  writeImports fun rows => { rows with
    findings := rows.findings ++ findingRows importRunId findings }

def cleanupUnpublished (importRunId : String) (expectedRevision : Int) : ImportBody PUnit := do
  let tables ← get
  attempt (requireValidatingRun tables.rows importRunId expectedRevision)
  writeImports fun rows => { rows with
    findings := rows.findings.filter (·.importRunId ≠ importRunId)
    observations := rows.observations.filter (·.importRunId ≠ importRunId) }

/-! ## Classification -/

/-- What `classify_replay` returns. -/
inductive ReplayClassification where
  | newSource
  | olderSourceRecoveryRequired
  | exactReplayNoop
  | chronologyContentConflict
  | newerIdenticalNoDomainChange

def ReplayClassification.isNoop : ReplayClassification → Bool
  | .exactReplayNoop | .newerIdenticalNoDomainChange => true
  | _ => false

def classifyReplay (candidateChronology : Nat) (logicalFingerprint : String)
    (checkpoint : Option SourceCheckpoint) : ReplayClassification :=
  match checkpoint with
  | none => .newSource
  | some checkpoint =>
    if candidateChronology < checkpoint.chronologyValue then .olderSourceRecoveryRequired
    else if candidateChronology = checkpoint.chronologyValue then
      if logicalFingerprint = checkpoint.logicalFingerprint then .exactReplayNoop
      else .chronologyContentConflict
    else if logicalFingerprint = checkpoint.logicalFingerprint then .newerIdenticalNoDomainChange
    else .newSource

def targetState (classification : ReplayClassification) (proposals : Nat) : RunState :=
  match classification with
  | .exactReplayNoop => .noop
  | .newerIdenticalNoDomainChange => .noopPendingCheckpoint
  | .newSource => if 0 < proposals then .waitingReview else .staged
  | .chronologyContentConflict | .olderSourceRecoveryRequired => .recoveryRequired

/-- `_validate_checkpoint`: the rest of it holds by the constraints. -/
def validateCheckpoint (run : ImportRun) : Option SourceCheckpoint → Except Raised Unit
  | none => .ok ()
  | some checkpoint => ensure (checkpoint.chronologyKind = run.chronologyKind)
      (integrityFailure
        "source checkpoint chronology kind disagrees with the validating source-profile chronology")

/-! ## Proposals -/

/-- A `PendingProposalWrite` with the id `new_uuid4` gives it. -/
structure PendingWrite where
  proposalId : Uuid4
  material : Material

/-- `_validate_pending_write`; the kinds and the risk class are of the listed
ones by type, and a Lean string is valid Unicode. -/
def validatePendingWrite (material : Material) : Except Raised Unit := do
  ensure (isUuid4 material.evidence.observationId)
    (validationError "source_observation_id must be a canonical UUID4")
  ensure (material.proposalKind = .srSourceDisappearanceReview ↔
      material.evidence = .populationAbsence material.evidence.observationId)
    (validationError "source-disappearance proposal evidence mode is invalid")
  ensure (∀ target ∈ material.targetInternalId, isUuid4 target)
    (validationError "target_internal_id must be a canonical UUID4")
  ensure (∀ target ∈ material.targetBusinessId, Char.ofNat 0 ∉ target.toList)
    (validationError "target_business_id must be NUL-free text")
  ensure (isSha256 material.baseStateToken)
    (validationError "base_state_token must be lowercase SHA-256 hex")
  ensure (isSha256 material.proposalFingerprint)
    (validationError "proposal_fingerprint must be lowercase SHA-256 hex")

/-- The observation a proposal rests on belongs to the run, or still exists. -/
def requireEvidence (rows : ImportRows) (importRunId : String) : Evidence → Except Raised Unit
  | .observedRow observationId =>
    ensure (∃ row ∈ rows.observations, row.sourceObservationId = observationId ∧
        row.importRunId = importRunId)
      (runStale "observed-row proposal evidence is not owned by the validating run")
  | .populationAbsence observationId =>
    ensure (∃ row ∈ rows.observations, row.sourceObservationId = observationId)
      (runStale "population-absence proposal prior evidence disappeared")

/-- `INSERT INTO reconciliation_proposals`, pending. -/
def insertProposal (importRunId : String) (write : PendingWrite) (rows : ImportRows) : ImportRows :=
  { rows with proposals := rows.proposals ++
      [⟨write.proposalId.value, importRunId, write.material, .pending, 1⟩] }

/-- `insert_or_reuse_pending`; the id of the proposal. -/
def insertOrReusePending (importRunId : String) (write : PendingWrite) : ImportBody String := do
  attempt (validatePendingWrite write.material)
  let tables ← get
  match tables.rows.run? importRunId with
  | none => throw (importError "IMPORT_RUN_NOT_FOUND" "proposal parent import run does not exist")
  | some run => do
    require (run.runState = .validating)
      (runStale "new proposal evidence may only be appended during final validating publication")
    attempt (requireEvidence tables.rows importRunId write.material.evidence)
    match (tables.rows.proposalsIn importRunId .pending).filter (·.material = write.material) with
    | [] => do
      writeImports (insertProposal importRunId write)
      return write.proposalId.value
    | [existing] => return existing.proposalId
    | _ => throw (integrityFailure
        "multiple exact pending reconciliation proposals exist for one material input")

/-- The loop of `_persist_exact_proposal_set`. -/
def persistProposals (importRunId : String) : List PendingWrite → List String →
    ImportBody (List String)
  | [], persisted => return persisted
  | write :: writes, persisted => do
    let proposalId ← insertOrReusePending importRunId write
    require (proposalId ∉ persisted)
      (integrityFailure "publication proposal builders produced duplicate material proposals")
    persistProposals importRunId writes (persisted ++ [proposalId])

def persistExactProposalSet (importRunId : String) (writes : List PendingWrite) :
    ImportBody Nat := do
  let persisted ← persistProposals importRunId writes []
  let tables ← get
  let stored := tables.rows.proposalsOf importRunId
  require (∀ row ∈ stored, row.proposalState = .pending)
    (integrityFailure "validating publication contains a non-pending reconciliation proposal")
  require ((∀ row ∈ stored, row.proposalId ∈ persisted) ∧ stored.length = persisted.length)
    (integrityFailure
      "validating publication contains proposal evidence outside the exact generated set")
  return persisted.length

/-! ## Publication -/

/-- What publication refuses about the run it is to publish. -/
def requirePublishable (run : ImportRun) (expectedRevision now : Int) : Except Raised Unit := do
  ensure (run.runState = .validating ∧ run.revision = expectedRevision)
    (runStale "import run is no longer the expected validating publication target")
  ensure (run.logicalFingerprint = none ∧ run.stagedAtUtc = none ∧ run.completedAtUtc = none)
    (integrityFailure "validating import run already carries publication or completion authority")
  ensure (run.counters = .zero)
    (integrityFailure "validating import run already carries persisted publication counters")
  ensure (run.startedAtUtc ≤ now)
    (validationError "staged_at_utc cannot precede import run start")

/-- What publication refuses about the evidence of the run. -/
def requireEvidenceFor (rows : ImportRows) (importRunId : String) (target : RunState) :
    Except Raised Unit := do
  let counters := rows.derivePublicationCounters importRunId
  ensure (∀ row ∈ rows.proposalsOf importRunId, row.proposalState = .pending)
    (integrityFailure "validating import run contains a non-pending reconciliation proposal")
  ensure (target = .staged → counters.pendingProposalCount = 0)
    (runStale "staged publication requires zero pending proposals")
  ensure (target = .waitingReview → counters.pendingProposalCount ≠ 0)
    (runStale "waiting_review publication requires at least one pending proposal")
  ensure (target = .noop ∨ target = .noopPendingCheckpoint →
      counters.observedRowCount = 0 ∧ counters.proposalCount = 0 ∧
      ∀ row ∈ rows.findings, row.importRunId ≠ importRunId)
    (runStale
      "replay/noop publication requires complete unpublished observation/finding/proposal cleanup")

/-- `publish_validating_run`; the published counters. -/
def publishValidatingRun (importRunId : String) (expectedRevision : Int)
    (logicalFingerprint : String) (target : RunState) (now : Int) : ImportBody Counters := do
  let tables ← get
  match tables.rows.run? importRunId with
  | none => throw (importError "IMPORT_RUN_NOT_FOUND" "import run does not exist")
  | some run => do
    attempt (requirePublishable run expectedRevision now)
    attempt (requireEvidenceFor tables.rows importRunId target)
    let counters := tables.rows.derivePublicationCounters importRunId
    updateRun (fun run => run.importRunId = importRunId ∧ run.runState = .validating ∧
        run.revision = expectedRevision ∧ run.logicalFingerprint = none ∧
        run.stagedAtUtc = none ∧ run.completedAtUtc = none ∧ run.counters = .zero)
      (fun run => { run with
        logicalFingerprint := some logicalFingerprint
        runState := target
        stagedAtUtc := some now
        completedAtUtc := if target = .noop then some now else none
        counters
        revision := run.revision + 1 })
      (runStale "import run changed before publication commit")
    return counters

/-- What one publication brings along. -/
structure Publication where
  importRunId : String
  expectedRevision : Int
  /-- The fingerprint recomputed from the staged evidence, which the caller expects. -/
  logicalFingerprint : String
  /-- The proposals of the family's builders. -/
  writes : List PendingWrite
  /-- An equivalent proposal was rejected or deferred before. -/
  suppressed : Material → Bool
  reconciliationFindings : List (Uuid4 × Severity)
  now : Int

/-- The `apply` callback of a replay. -/
def publishNoop (publication : Publication) (target : RunState) : ImportBody PUnit := do
  cleanupUnpublished publication.importRunId publication.expectedRevision
  let _ ← publishValidatingRun publication.importRunId publication.expectedRevision
    publication.logicalFingerprint target publication.now

/-- The `apply` callback of any other publication. -/
def publishProposals (publication : Publication) (writes : List PendingWrite) (target : RunState) :
    ImportBody PUnit := do
  let proposalCount ← persistExactProposalSet publication.importRunId writes
  stageFindings publication.importRunId publication.expectedRevision
    publication.reconciliationFindings
  let counters ← publishValidatingRun publication.importRunId publication.expectedRevision
    publication.logicalFingerprint target publication.now
  require (counters.proposalCount = proposalCount)
    (integrityFailure "publication proposal count disagrees with exact generated set")

/-- The reads of `publish.prepare`: how the run is classified. -/
def preparePublication (publication : Publication) (rows : ImportRows) :
    Except Raised ReplayClassification :=
  match rows.run? publication.importRunId with
  | none => .error (importError "IMPORT_RUN_NOT_FOUND" "import run does not exist")
  | some run => do
    ensure (run.runState = .validating ∧ run.revision = publication.expectedRevision)
      (runStale "import run changed before publication")
    validateCheckpoint run (rows.checkpoint? run.sourceFamily)
    let classification := classifyReplay run.chronologyValue publication.logicalFingerprint
      (rows.checkpoint? run.sourceFamily)
    ensure (classification.isNoop = true → rows.proposalsOf publication.importRunId = [])
      (integrityFailure "replay/noop classification found pre-existing proposal authority")
    return classification

/-- `PublishStagedImportRunService.publish`. -/
def publish (publication : Publication) : ImportBody PUnit := do
  attempt (requireUuid4 publication.importRunId)
  require (1 ≤ publication.expectedRevision)
    (validationError "expected_run_revision must be a positive integer")
  require (isSha256 publication.logicalFingerprint)
    (validationError "logical_fingerprint must be lowercase SHA-256 hex")
  let tables ← get
  let classification ← attempt (preparePublication publication tables.rows)
  if classification.isNoop then publishNoop publication (targetState classification 0)
  else do
    let writes := publication.writes.filter fun write => !publication.suppressed write.material
    publishProposals publication writes (targetState classification writes.length)

end Soma.Imports
