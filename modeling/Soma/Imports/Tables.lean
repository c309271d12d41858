import Soma.Foundation.StrictJson

/-!
The tables of `migrations/0004_ticket_import.sql` that publication, review and
finalization of import runs go through: runs, their staged evidence, their
proposals, recovery reviews and the source checkpoints, with the declared
constraints and the trigger that guards run updates.

Left out are the columns and tables no modelled function reads: the candidate
file's name and size, header and parser profiles, evidence fields, proposal
changes, dispositions, recovery events and the ids of recovery reviews.
-/

namespace Soma.Imports

open Foundation Transaction

inductive SourceFamily where
  | advancedSearchSr
  | rfcEnhanced
  | wfmServiceProvider
  deriving DecidableEq

inductive ChronologyKind where
  | filesystemMtimeNs
  | embeddedFilenameTimestampUtc
  deriving DecidableEq

def ChronologyKind.text : ChronologyKind → String
  | .filesystemMtimeNs => "filesystem_mtime_ns"
  | .embeddedFilenameTimestampUtc => "embedded_filename_timestamp_utc"

/-- `import_runs.run_state`. -/
inductive RunState where
  | discovering
  | validating
  | staged
  | waitingReview
  | partiallyAccepted
  | accepted
  | rejected
  | noopPendingCheckpoint
  | noop
  | recoveryRequired
  | failed
  deriving DecidableEq

/-- The states the update guard never lets a run leave. -/
def RunState.isTerminal : RunState → Bool
  | .accepted | .rejected | .partiallyAccepted | .noop | .failed => true
  | _ => false

/-- The states a run is in once it carries a logical fingerprint. -/
def RunState.isPublished : RunState → Bool
  | .discovering | .validating | .failed => false
  | _ => true

/-- The transitions `import_runs_update_guard` allows. -/
def RunState.mayBecome : RunState → RunState → Bool
  | .discovering, next => next ∈ [.validating, .failed]
  | .validating, next => next ∈
    [.staged, .waitingReview, .noopPendingCheckpoint, .noop, .recoveryRequired, .failed]
  | .staged, next | .waitingReview, next => next ∈
    [.waitingReview, .accepted, .rejected, .partiallyAccepted]
  | .noopPendingCheckpoint, next => next = .noop
  | .recoveryRequired, next => next ∈ [.recoveryRequired, .accepted, .rejected, .partiallyAccepted]
  | _, _ => false

/-- `ImportRunPublicationCounters`, as stored on the run. -/
structure Counters where
  observedRowCount : Nat
  validIdentityCount : Nat
  invalidRowCount : Nat
  warningCount : Nat
  proposalCount : Nat
  pendingProposalCount : Nat
  acceptedProposalCount : Nat
  rejectedProposalCount : Nat
  deferredProposalCount : Nat
  deriving DecidableEq

def Counters.zero : Counters := ⟨0, 0, 0, 0, 0, 0, 0, 0, 0⟩

structure ImportRun where
  importRunId : String
  sourceFamily : SourceFamily
  sourceProfileId : String
  chronologyKind : ChronologyKind
  chronologyValue : Nat
  logicalFingerprint : Option String
  runState : RunState
  startedAtUtc : Int
  stagedAtUtc : Option Int
  completedAtUtc : Option Int
  counters : Counters
  revision : Int
  deriving DecidableEq

/-- A row of `import_source_checkpoints`. -/
structure SourceCheckpoint where
  sourceFamily : SourceFamily
  sourceProfileId : String
  chronologyKind : ChronologyKind
  chronologyValue : Nat
  logicalFingerprint : String
  acceptedImportRunId : String
  revision : Int

structure SourceObservation where
  sourceObservationId : String
  importRunId : String
  identityValid : Bool

inductive Severity where
  | info
  | warning
  | error
  | highRisk
  deriving DecidableEq

structure ImportFinding where
  importFindingId : String
  importRunId : String
  severity : Severity

/-- `evidence_mode` with the observation it requires. -/
inductive Evidence where
  | observedRow (sourceObservationId : String)
  | populationAbsence (priorSourceObservationId : String)
  deriving DecidableEq

/-- The observation the evidence refers to. -/
def Evidence.observationId : Evidence → String
  | .observedRow observationId | .populationAbsence observationId => observationId

inductive ProposalKind where
  | srCreateOrAdopt
  | srSourceProjection
  | srCustomerReconciliation
  | srContactReconciliation
  | srCurrentHandlerReconciliation
  | srSourceDisappearanceReview
  | srTerminalReversalReview
  | srSuspensionRegressionReview
  | rfcCreateOrAdopt
  | rfcSourceProjection
  | rfcCustomerReconciliation
  | srRfcLinkCandidate
  | wfmCreateOrAdopt
  | wfmSourceProjection
  | wfmProvisionalRfc
  | wfmProvisionalEligibility
  | wfmPlanReconciliation
  | wfmCompetingAttemptReview
  deriving DecidableEq

inductive TargetKind where
  | serviceRequest
  | rfc
  | wfm
  | customerOrganization
  | contact
  | sourcePresence
  | srRfcRelationship
  | taskPlan
  | activityLineage
  deriving DecidableEq

inductive RiskClass where
  | low
  | medium
  | high
  | blocked
  deriving DecidableEq

/-- What a proposal proposes: the columns by which one is recognised. -/
structure Material where
  evidence : Evidence
  proposalKind : ProposalKind
  targetKind : TargetKind
  targetInternalId : Option String
  targetBusinessId : Option String
  riskClass : RiskClass
  baseStateToken : String
  proposalFingerprint : String
  deriving DecidableEq

inductive ProposalState where
  | pending
  | accepted
  | rejected
  | deferred
  | superseded
  | noChange
  deriving DecidableEq

/-- A row of `reconciliation_proposals`. -/
structure Proposal where
  proposalId : String
  importRunId : String
  material : Material
  proposalState : ProposalState
  revision : Int

inductive RecoveryDecision where
  | authorized
  | rejected
  | deferred
  deriving DecidableEq

/-- A row of `import_recovery_reviews`. -/
structure RecoveryReview where
  importRunId : String
  checkpointImportRunId : String
  reviewOrdinal : Nat
  runRevision : Int
  checkpointRevision : Int
  reviewFingerprint : String
  decision : RecoveryDecision

structure ImportRows where
  runs : List ImportRun
  checkpoints : List SourceCheckpoint
  observations : List SourceObservation
  findings : List ImportFinding
  proposals : List Proposal
  reviews : List RecoveryReview

/-- The `CHECK` constraints of `import_runs`. -/
def ImportRun.Checked (run : ImportRun) : Prop :=
  0 < run.revision ∧
  (run.runState.isPublished = true → run.logicalFingerprint ≠ none ∧ run.stagedAtUtc ≠ none) ∧
  (run.runState.isTerminal = true ↔ run.completedAtUtc ≠ none) ∧
  (∀ instant ∈ run.stagedAtUtc, run.startedAtUtc ≤ instant) ∧
  ∀ instant ∈ run.completedAtUtc, run.startedAtUtc ≤ instant

instance (run : ImportRun) : Decidable run.Checked := by
  unfold ImportRun.Checked
  infer_instance

/-- The declared constraints. -/
@[mk_iff]
structure ImportRows.Constraints (rows : ImportRows) : Prop where
  runIds : (rows.runs.map (·.importRunId)).Nodup
  runChecks : ∀ run ∈ rows.runs, run.Checked
  checkpointFamilies : (rows.checkpoints.map (·.sourceFamily)).Nodup
  checkpointRuns : ∀ checkpoint ∈ rows.checkpoints,
    0 < checkpoint.revision ∧ checkpoint.acceptedImportRunId ∈ rows.runs.map (·.importRunId)
  observationIds : (rows.observations.map (·.sourceObservationId)).Nodup
  observationRuns : ∀ row ∈ rows.observations, row.importRunId ∈ rows.runs.map (·.importRunId)
  findingIds : (rows.findings.map (·.importFindingId)).Nodup
  findingRuns : ∀ row ∈ rows.findings, row.importRunId ∈ rows.runs.map (·.importRunId)
  proposalIds : (rows.proposals.map (·.proposalId)).Nodup
  proposalRuns : ∀ row ∈ rows.proposals,
    0 < row.revision ∧ row.importRunId ∈ rows.runs.map (·.importRunId)
  proposalEvidence : ∀ row ∈ rows.proposals,
    row.material.evidence.observationId ∈ rows.observations.map (·.sourceObservationId)
  reviewOrdinals : (rows.reviews.map fun row => (row.importRunId, row.reviewOrdinal)).Nodup
  reviewRuns : ∀ row ∈ rows.reviews, 0 < row.reviewOrdinal ∧ 0 < row.runRevision ∧
    0 < row.checkpointRevision ∧ row.importRunId ∈ rows.runs.map (·.importRunId)

instance (rows : ImportRows) : Decidable rows.Constraints :=
  decidable_of_iff' _ (ImportRows.constraints_iff rows)

/-- Rows that meet the constraints. -/
structure ImportTables where
  rows : ImportRows
  valid : rows.Constraints

/-- What the migration leaves. -/
def ImportTables.migrated : ImportTables where
  rows := ⟨[], [], [], [], [], []⟩
  valid := by constructor <;> simp

/-- A body over the import tables, inside one transaction. -/
abbrev ImportBody (Result : Type) := Body ImportTables Raised Result

/-- `SomaError(code, message)`. -/
def importError (code message : String) : Raised :=
  .soma ⟨.somaError, code, message, false⟩

namespace ImportRows

/-- The run with this id. -/
def run? (rows : ImportRows) (importRunId : String) : Option ImportRun :=
  rows.runs.find? (·.importRunId = importRunId)

/-- `SourceCheckpointRepository.get`. -/
def checkpoint? (rows : ImportRows) (sourceFamily : SourceFamily) : Option SourceCheckpoint :=
  rows.checkpoints.find? (·.sourceFamily = sourceFamily)

/-- `ProposalRepository.get`. -/
def proposal? (rows : ImportRows) (proposalId : String) : Option Proposal :=
  rows.proposals.find? (·.proposalId = proposalId)

def proposalsOf (rows : ImportRows) (importRunId : String) : List Proposal :=
  rows.proposals.filter (·.importRunId = importRunId)

/-- The proposals of a run in one state. -/
def proposalsIn (rows : ImportRows) (importRunId : String) (state : ProposalState) :
    List Proposal :=
  (rows.proposalsOf importRunId).filter (·.proposalState = state)

/-- `derive_publication_counters`. The two sums the source compares with the
totals agree here because every row has one of the listed states. -/
def derivePublicationCounters (rows : ImportRows) (importRunId : String) : Counters where
  observedRowCount := rows.observations.countP (·.importRunId = importRunId)
  validIdentityCount := rows.observations.countP fun row =>
    row.importRunId = importRunId ∧ row.identityValid
  invalidRowCount := rows.observations.countP fun row =>
    row.importRunId = importRunId ∧ ¬ row.identityValid
  warningCount := rows.findings.countP fun row =>
    row.importRunId = importRunId ∧ row.severity = .warning
  proposalCount := (rows.proposalsOf importRunId).length
  pendingProposalCount := (rows.proposalsIn importRunId .pending).length
  acceptedProposalCount := (rows.proposalsIn importRunId .accepted).length
  rejectedProposalCount := (rows.proposalsIn importRunId .rejected).length
  deferredProposalCount := (rows.proposalsIn importRunId .deferred).length

/-- Rewrites the selected runs. -/
def changeRuns (selected : ImportRun → Bool) (change : ImportRun → ImportRun) (rows : ImportRows) :
    ImportRows :=
  { rows with runs := rows.runs.map fun run => if selected run then change run else run }

/-- Rewrites the selected proposals. -/
def changeProposals (selected : Proposal → Bool) (change : Proposal → Proposal)
    (rows : ImportRows) : ImportRows :=
  { rows with proposals := rows.proposals.map fun row => if selected row then change row else row }

/-- Rewrites the checkpoint of a family. -/
def changeCheckpoint (sourceFamily : SourceFamily) (change : SourceCheckpoint → SourceCheckpoint)
    (rows : ImportRows) : ImportRows :=
  { rows with checkpoints := rows.checkpoints.map fun row =>
      if row.sourceFamily = sourceFamily then change row else row }

end ImportRows

/-- What `import_runs_update_guard` lets an `UPDATE` do to a run. -/
def ImportRun.mayBecome (run next : ImportRun) : Bool :=
  next.importRunId = run.importRunId ∧ next.sourceFamily = run.sourceFamily ∧
  next.sourceProfileId = run.sourceProfileId ∧ next.chronologyKind = run.chronologyKind ∧
  next.chronologyValue = run.chronologyValue ∧ next.startedAtUtc = run.startedAtUtc ∧
  next.revision = run.revision + 1 ∧
  (run.runState ≠ .discovering ∧ run.runState ≠ .validating →
    next.logicalFingerprint = run.logicalFingerprint ∧ next.stagedAtUtc = run.stagedAtUtc) ∧
  run.runState.mayBecome next.runState

section Statements

/-- One SQL statement that rewrites the import tables. -/
def writeImports (change : ImportRows → ImportRows) : ImportBody PUnit := do
  let tables ← get
  setChecked (change tables.rows).Constraints (fun valid => ⟨change tables.rows, valid⟩) .other

/-- `UPDATE import_runs .. WHERE ..` that has to hit exactly one run. -/
def updateRun (selected : ImportRun → Bool) (change : ImportRun → ImportRun) (stale : Raised) :
    ImportBody PUnit := do
  let tables ← get
  require (∀ run ∈ tables.rows.runs, selected run → run.mayBecome (change run)) .other
  require (tables.rows.runs.countP selected = 1) stale
  writeImports (·.changeRuns selected change)

/-- `UPDATE reconciliation_proposals .. WHERE ..` that has to hit exactly one proposal. -/
def updateProposal (selected : Proposal → Bool) (change : Proposal → Proposal) (stale : Raised) :
    ImportBody PUnit := do
  let tables ← get
  require (tables.rows.proposals.countP selected = 1) stale
  writeImports (·.changeProposals selected change)

variable {tables next : ImportTables} {value : PUnit}

theorem writeImports_ok {change : ImportRows → ImportRows}
    (ran : (writeImports change).run tables = .ok (value, next)) :
    next.rows = change tables.rows := by
  simp only [writeImports, steps_ok, setChecked_ok] at ran
  obtain ⟨_, rfl⟩ := ran
  rfl

theorem updateRun_ok {selected : ImportRun → Bool} {change : ImportRun → ImportRun}
    (ran : (updateRun selected change stale).run tables = .ok (value, next)) :
    next.rows = tables.rows.changeRuns selected change ∧
      tables.rows.runs.countP selected = 1 ∧
      ∀ run ∈ tables.rows.runs, selected run = true → run.mayBecome (change run) = true := by
  simp only [updateRun, steps_ok] at ran
  obtain ⟨allowed, one, wrote⟩ := ran
  exact ⟨writeImports_ok wrote, one, allowed⟩

theorem updateProposal_ok {selected : Proposal → Bool} {change : Proposal → Proposal}
    (ran : (updateProposal selected change stale).run tables = .ok (value, next)) :
    next.rows = tables.rows.changeProposals selected change ∧
      tables.rows.proposals.countP selected = 1 := by
  simp only [updateProposal, steps_ok] at ran
  obtain ⟨one, wrote⟩ := ran
  exact ⟨writeImports_ok wrote, one⟩

end Statements

end Soma.Imports
