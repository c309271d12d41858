import Soma.Imports.Publication

/-!
`commands/decide_proposal.py`, `_proposal_decision_core.py` and the decision half
of `repositories/proposals.py`: a pending proposal is accepted, rejected or
deferred, one transaction each, and an acceptance may append follow-on proposals
to the run.

What the owning domain makes of an acceptance comes with the call: either it
raises, or it hands over the follow-on writes. It changes no import table.
-/

namespace Soma.Imports

open Foundation Transaction

def validateReason (reason : String) : Except Raised Unit :=
  ensure (reason ≠ "" ∧ reason.utf8ByteSize ≤ 120 ∧
      reason.toList.all fun character => character.toNat ∉ [0, 10, 13])
    (validationError "reason_category violates the LLD-04 1..120 UTF-8 byte one-line contract")

def validateFingerprint (fieldName value : String) : Except Raised Unit :=
  ensure (isSha256 value) (validationError (fieldName ++ " must be lowercase SHA-256 hex"))

/-- `ProposalRepository.require_pending`. -/
def requirePending (rows : ImportRows) (proposalId : String) : Except Raised Proposal :=
  match rows.proposal? proposalId with
  | none => .error
      (importError "IMPORT_PROPOSAL_NOT_FOUND" "reconciliation proposal does not exist")
  | some proposal => do
    ensure (proposal.proposalState = .pending)
      (importError "IMPORT_PROPOSAL_STALE" "reconciliation proposal is no longer pending")
    return proposal

/-- `ProposalRepository.get_run`: a published run with its fingerprint. -/
def getRun (rows : ImportRows) (importRunId : String) : Except Raised (ImportRun × String) :=
  match rows.run? importRunId with
  | none => .error (importError "IMPORT_RUN_NOT_FOUND" "parent import run does not exist")
  | some run =>
    match run.logicalFingerprint with
    | none => .error (importError "IMPORT_RUN_UNPUBLISHED" "proposal parent run is not published")
    | some logicalFingerprint => .ok (run, logicalFingerprint)

/-- The states in which the proposals of a run may be decided. -/
def RunState.isReviewable (state : RunState) : Bool :=
  state ∈ [.staged, .waitingReview, .recoveryRequired]

/-! ## Recovery reviews -/

def recoveryReviewStale (message : String) : Raised :=
  importError "IMPORT_RECOVERY_REVIEW_STALE" message

/-- The document `recovery_review_fingerprint` hashes. -/
def recoveryReviewDocument (run : ImportRun) (logicalFingerprint : String)
    (checkpoint : SourceCheckpoint) (pending : List Proposal) : Json :=
  .obj [
    ("schema", .str "IMPORT_RECOVERY_REVIEW_V1"),
    ("run", .obj [
      ("import_run_id", .str run.importRunId),
      ("revision", .int run.revision),
      ("chronology_kind", .str run.chronologyKind.text),
      ("chronology_value", .int run.chronologyValue),
      ("logical_fingerprint", .str logicalFingerprint)]),
    ("checkpoint", .obj [
      ("import_run_id", .str checkpoint.acceptedImportRunId),
      ("revision", .int checkpoint.revision),
      ("chronology_kind", .str checkpoint.chronologyKind.text),
      ("chronology_value", .int checkpoint.chronologyValue),
      ("logical_fingerprint", .str checkpoint.logicalFingerprint)]),
    ("pending_proposals", .arr (pending.map fun row => .obj [
      ("proposal_id", .str row.proposalId),
      ("revision", .int row.revision),
      ("base_state_token", .str row.material.baseStateToken),
      ("proposal_fingerprint", .str row.material.proposalFingerprint)]))]

def recoveryReviewFingerprint (python : PythonLibrary) (rows : ImportRows) (run : ImportRun)
    (logicalFingerprint : String) : Except Raised String :=
  match rows.checkpoint? run.sourceFamily with
  | none => .error (recoveryReviewStale "recovery run has no current source checkpoint")
  | some checkpoint =>
    let pending := (rows.proposalsIn run.importRunId .pending).insertionSort
      fun left right => left.proposalId ≤ right.proposalId
    sha256CanonicalJson python (recoveryReviewDocument run logicalFingerprint checkpoint pending)

/-- The reviews of a run. -/
def ImportRows.reviewsOf (rows : ImportRows) (importRunId : String) : List RecoveryReview :=
  rows.reviews.filter (·.importRunId = importRunId)

/-- `MAX(review_ordinal)` over the reviews of a run, or 0. -/
def ImportRows.lastOrdinal (rows : ImportRows) (importRunId : String) : Nat :=
  ((rows.reviewsOf importRunId).map (·.reviewOrdinal)).foldr max 0

/-- The review with the highest ordinal. -/
def ImportRows.latestReview? (rows : ImportRows) (importRunId : String) : Option RecoveryReview :=
  (rows.reviewsOf importRunId).find? (·.reviewOrdinal = rows.lastOrdinal importRunId)

def requireCurrentRecoveryAuthorization (python : PythonLibrary) (rows : ImportRows)
    (run : ImportRun) (logicalFingerprint : String) : Except Raised Unit :=
  if run.runState ≠ .recoveryRequired then .ok ()
  else do
    let current ← recoveryReviewFingerprint python rows run logicalFingerprint
    ensure (∃ review ∈ rows.latestReview? run.importRunId,
        review.reviewFingerprint = current ∧ review.decision = .authorized)
      (recoveryReviewStale "recovery proposal decision requires the latest exact authorized review")

/-! ## Deciding -/

def proposalStale (message : String) : Raised :=
  importError "IMPORT_PROPOSAL_STALE" message

/-- The counters after one pending proposal was decided. -/
def Counters.decided (counters : Counters) (state : ProposalState) : Counters :=
  { counters with
    pendingProposalCount := counters.pendingProposalCount - 1
    acceptedProposalCount := counters.acceptedProposalCount + if state = .accepted then 1 else 0
    rejectedProposalCount := counters.rejectedProposalCount + if state = .rejected then 1 else 0
    deferredProposalCount := counters.deferredProposalCount + if state = .deferred then 1 else 0 }

/-- The state of a run under review after a decision. -/
def RunState.underReview (state : RunState) : RunState :=
  if state = .recoveryRequired then .recoveryRequired else .waitingReview

/-- The two updates of `transition_decision` and `transition_accept`. The first
one is written for `rejected` and `deferred`, the second for `accepted`. -/
def transitionProposal (proposal : Proposal) (run : ImportRun) (state : ProposalState) :
    ImportBody PUnit := do
  updateProposal
    (fun row => row.proposalId = proposal.proposalId ∧ row.proposalState = .pending ∧
      row.revision = proposal.revision)
    (fun row => { row with proposalState := state, revision := row.revision + 1 })
    (proposalStale "reconciliation proposal changed before decision commit")
  updateRun
    (fun row => row.importRunId = run.importRunId ∧ row.revision = run.revision ∧
      0 < row.counters.pendingProposalCount ∧ row.runState.isReviewable)
    (fun row => { row with
      runState := run.runState.underReview
      counters := row.counters.decided state
      revision := row.revision + 1 })
    (proposalStale "parent import run changed before proposal decision commit")

/-- `rejected` and `deferred`. -/
inductive Disposition where
  | rejected
  | deferred

def Disposition.state : Disposition → ProposalState
  | .rejected => .rejected
  | .deferred => .deferred

/-- A decision to reject or defer. -/
structure Decision where
  disposition : Disposition
  proposalId : String
  proposalRevision : Int
  proposalFingerprint : String
  reasonCategory : String

/-- The reads of `_decide`. -/
def prepareDecision (python : PythonLibrary) (decision : Decision) (rows : ImportRows) :
    Except Raised (Proposal × ImportRun) := do
  let proposal ← requirePending rows decision.proposalId
  ensure (proposal.revision = decision.proposalRevision ∧
      proposal.material.proposalFingerprint = decision.proposalFingerprint)
    (proposalStale "proposal revision or fingerprint changed")
  let (run, logicalFingerprint) ← getRun rows proposal.importRunId
  ensure run.runState.isReviewable
    (proposalStale "parent import run no longer permits proposal decisions")
  requireCurrentRecoveryAuthorization python rows run logicalFingerprint
  return (proposal, run)

/-- `ProposalDecisionService._decide`. -/
def decideProposal (python : PythonLibrary) (decision : Decision) : ImportBody PUnit := do
  require (0 < decision.proposalRevision)
    (validationError "proposal_revision must be a positive integer")
  attempt (validateFingerprint "proposal_fingerprint" decision.proposalFingerprint)
  attempt (validateReason decision.reasonCategory)
  let tables ← get
  let (proposal, run) ← attempt (prepareDecision python decision tables.rows)
  transitionProposal proposal run decision.disposition.state

/-! ## Accepting -/

/-- The columns by which a follow-on proposal is recognised: all but the risk class. -/
structure FollowOnKey where
  sourceObservationId : String
  proposalKind : ProposalKind
  targetKind : TargetKind
  targetInternalId : Option String
  targetBusinessId : Option String
  baseStateToken : String
  proposalFingerprint : String
  deriving DecidableEq

def Material.followOnKey (material : Material) : FollowOnKey where
  sourceObservationId := material.evidence.observationId
  proposalKind := material.proposalKind
  targetKind := material.targetKind
  targetInternalId := material.targetInternalId
  targetBusinessId := material.targetBusinessId
  baseStateToken := material.baseStateToken
  proposalFingerprint := material.proposalFingerprint

/-- `evidence_mode = 'observed_row'`. -/
def Evidence.isObservedRow : Evidence → Bool
  | .observedRow _ => true
  | .populationAbsence _ => false

/-- `_validate_pending_write` over all writes. -/
def validateFollowOns : List PendingWrite → Except Raised Unit
  | [] => .ok ()
  | write :: writes => do
    validatePendingWrite write.material
    validateFollowOns writes

/-- The checks of `insert_follow_on_pending_set` on the writes that remain. -/
def requireFollowOns (rows : ImportRows) (importRunId : String) (retained : List PendingWrite) :
    Except Raised Unit := do
  ensure (retained.map (·.material.followOnKey)).Nodup
    (integrityFailure "follow-on proposal set contains duplicate material proposals")
  ensure (∀ write ∈ retained, ∃ row ∈ rows.observations,
      row.sourceObservationId = write.material.evidence.observationId ∧
      row.importRunId = importRunId)
    (runStale "follow-on proposal source evidence is not owned by the published run")
  ensure (∀ write ∈ retained, ∀ row ∈ rows.proposalsIn importRunId .pending,
      row.material.followOnKey ≠ write.material.followOnKey)
    (integrityFailure "follow-on proposal already exists before prerequisite acceptance completes")

/-- The counters after pending proposals were added. -/
def Counters.followed (counters : Counters) (added : Nat) : Counters :=
  { counters with
    proposalCount := counters.proposalCount + added
    pendingProposalCount := counters.pendingProposalCount + added }

/-- The states in which a run takes follow-on proposals. -/
def RunState.takesFollowOns (state : RunState) : Bool :=
  state ∈ [.waitingReview, .recoveryRequired]

/-- What `insert_follow_on_pending_set` writes. -/
def appendFollowOns (run : ImportRun) (expectedRunRevision : Int) (retained : List PendingWrite) :
    ImportBody PUnit := do
  writeImports fun rows => { rows with
    proposals := rows.proposals ++ retained.map fun write =>
      ⟨write.proposalId.value, run.importRunId, write.material, .pending, 1⟩ }
  updateRun
    (fun row => row.importRunId = run.importRunId ∧ row.revision = expectedRunRevision ∧
      row.runState.takesFollowOns)
    (fun row => { row with
      runState := run.runState.underReview
      counters := row.counters.followed retained.length
      revision := row.revision + 1 })
    (runStale "parent run changed before follow-on proposal publication")

def insertFollowOnPendingSet (importRunId : String) (expectedRunRevision : Int)
    (writes : List PendingWrite) (suppressed : Material → Bool) : ImportBody PUnit := do
  if writes.isEmpty then return
  else do
    attempt (validateFollowOns writes)
    require (∀ write ∈ writes, write.material.evidence.isObservedRow)
      (validationError "follow-on proposal requires observed-row evidence")
    let tables ← get
    match tables.rows.run? importRunId with
    | none => throw (importError "IMPORT_RUN_NOT_FOUND"
        "follow-on proposal parent import run does not exist")
    | some run => do
      require (run.runState.takesFollowOns ∧ run.revision = expectedRunRevision ∧
          run.logicalFingerprint ≠ none)
        (runStale "follow-on proposal parent run is not the expected published review state")
      let retained := writes.filter fun write => !suppressed write.material
      if retained.isEmpty then return
      else do
        attempt (requireFollowOns tables.rows importRunId retained)
        appendFollowOns run expectedRunRevision retained

structure Acceptance where
  proposalId : String
  proposalRevision : Int
  proposalFingerprint : String
  baseStateToken : String
  reasonCategory : Option String
  /-- What the owning domain raises, or the follow-on writes it hands over. -/
  owner : Except Raised (List PendingWrite)
  /-- An equivalent proposal was rejected or deferred before. -/
  suppressed : Material → Bool

def validateOptionalReason : Option String → Except Raised Unit
  | none => .ok ()
  | some reason => validateReason reason

/-- The reads of `accept`. -/
def prepareAcceptance (python : PythonLibrary) (acceptance : Acceptance) (rows : ImportRows) :
    Except Raised (Proposal × ImportRun) := do
  let proposal ← requirePending rows acceptance.proposalId
  ensure (proposal.revision = acceptance.proposalRevision ∧
      proposal.material.proposalFingerprint = acceptance.proposalFingerprint ∧
      proposal.material.baseStateToken = acceptance.baseStateToken)
    (proposalStale "proposal revision/fingerprint/base state changed")
  ensure (proposal.material.riskClass ≠ .blocked)
    (importError "IMPORT_PROPOSAL_BLOCKED" "blocked reconciliation proposal cannot be accepted")
  let (run, logicalFingerprint) ← getRun rows proposal.importRunId
  ensure run.runState.isReviewable
    (proposalStale "parent import run no longer permits proposal acceptance")
  requireCurrentRecoveryAuthorization python rows run logicalFingerprint
  return (proposal, run)

/-- `ProposalDecisionService.accept`. -/
def accept (python : PythonLibrary) (acceptance : Acceptance) : ImportBody PUnit := do
  require (0 < acceptance.proposalRevision)
    (validationError "proposal_revision must be a positive integer")
  attempt (validateFingerprint "proposal_fingerprint" acceptance.proposalFingerprint)
  attempt (validateFingerprint "base_state_token" acceptance.baseStateToken)
  attempt (validateOptionalReason acceptance.reasonCategory)
  let tables ← get
  let (proposal, run) ← attempt (prepareAcceptance python acceptance tables.rows)
  let writes ← attempt acceptance.owner
  transitionProposal proposal run .accepted
  insertFollowOnPendingSet proposal.importRunId (run.revision + 1) writes acceptance.suppressed

end Soma.Imports
