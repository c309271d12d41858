import Mathlib.Data.Prod.Lex
import Mathlib.Data.String.Basic
import Soma.Jobs.Contracts

/-!
`DurableJobCoordinator`: every operation as one transaction over the
durable-job tables. Clock readings and the identifiers `new_uuid4` draws are
arguments. `recover_stale_claims` lists ids first and then recovers each job in
a transaction of its own, so its two loop bodies are operations here and the
loop composes them (`recoverStaleClaims`).
-/

namespace Soma.Jobs

open Foundation Transaction

section

variable (python : PythonLibrary) (registry : JobTypeRegistry)

/-- Rows `enqueue_or_coalesce` compares with, in job id order. -/
def coalescingRows (contract : JobTypeContract) (digest : String) (jobs : List Job) : List Job :=
  (jobs.filter fun job => job.jobType = contract.jobType ∧
    job.contractVersion = contract.contractVersion ∧ job.dedupeSha256 = some digest ∧
    job.state ∈ contract.coalesceStates).insertionSort fun left right => left.jobId ≤ right.jobId

/-- A request that `enqueue_or_coalesce` has checked against its contract. -/
structure PreparedEnqueue where
  contract : JobTypeContract
  payloadJson : String
  dedupeKey : String
  dedupeSha256 : String

/-- The checks of `enqueue_or_coalesce` that precede its first statement. -/
def prepareEnqueue (jobType : String) (contractVersion : Nat) (payload : Json)
    (dedupeKey : String) : Except Raised PreparedEnqueue := do
  let contract ← registry.require jobType contractVersion
  let payloadJson ← canonicalPayload contract payload false
  let exactPayload ← parseCanonicalJson python payloadJson "payload"
  let semanticKey ← deriveDedupeKey contract exactPayload false
  requireCallbackDidNotMutate exactPayload payloadJson "dedupe key derivation"
  validateDedupeKey dedupeKey
  ensure (semanticKey = dedupeKey)
    (validationError "durable job dedupe_key disagrees with registered payload contract")
  let digest ← dedupeSha256 python jobType contractVersion dedupeKey
  return ⟨contract, payloadJson, dedupeKey, digest⟩

def multipleCoalescible : Raised :=
  integrityFailure "multiple durable jobs match one semantic coalescing identity"

/-- The row `enqueue_or_coalesce` inserts. -/
def queuedJob (prepared : PreparedEnqueue) (jobId : String) (now : Int) : Job where
  jobId
  jobType := prepared.contract.jobType
  contractVersion := prepared.contract.contractVersion
  state := .queued
  createdAtUtc := now
  updatedAtUtc := now
  attemptCount := 0
  nextAttemptAtUtc := none
  claimedRunId := none
  claimStartedAtUtc := none
  payloadJson := prepared.payloadJson
  checkpointJson := none
  lastErrorCode := none
  dedupeSha256 := some prepared.dedupeSha256

/-- The checks `enqueue_or_coalesce` makes of the one row it coalesces with. -/
def recheckCoalesced (prepared : PreparedEnqueue) (job : Job) : Except Raised String := do
  ensure (job.dedupeSha256 = some prepared.dedupeSha256)
    (integrityFailure "durable job dedupe identity changed during indexed lookup")
  let persistedPayload ← loadRegisteredPayload python prepared.contract job.payloadJson
  let persistedKey ← deriveDedupeKey prepared.contract persistedPayload true
  requireCallbackDidNotMutate persistedPayload job.payloadJson "persisted dedupe key derivation"
  ensure (persistedKey = prepared.dedupeKey)
    (integrityFailure "durable job dedupe hash collision or payload/key disagreement")
  rewrapAny (integrityFailure "persisted durable job_id is not canonical UUIDv4")
    (requireUuid4 job.jobId)
  return job.jobId

/-- The lookup and insertion of `enqueue_or_coalesce`. -/
def coalesceOrInsert (prepared : PreparedEnqueue) (clock : Int) (newJobId : Uuid4) :
    UnitOfWork String := do
  match (coalescingRows prepared.contract prepared.dedupeSha256 (← get).jobs).take 2 with
  | _ :: _ :: _ => throw multipleCoalescible
  | [job] => attempt (recheckCoalesced python prepared job)
  | [] =>
    let now ← attempt (now clock)
    reraise (integrityFailure "durable job enqueue violated persistence invariants")
      (insertJob (queuedJob prepared newJobId.value now))
    return newJobId.value

def enqueueOrCoalesce (jobType : String) (contractVersion : Nat) (payload : Json)
    (dedupeKey : String) (clock : Int) (newJobId : Uuid4) : UnitOfWork String := do
  let prepared ← attempt (prepareEnqueue python registry jobType contractVersion payload dedupeKey)
  coalesceOrInsert python prepared clock newJobId

/-- Jobs `claim_next` may select. -/
def Job.due (now : Int) (job : Job) : Bool :=
  job.state = .queued ∨ (job.state = .retryWait ∧ ∃ next ∈ job.nextAttemptAtUtc, next ≤ now)

/-- `ORDER BY` of `claim_next`: jobs without a retry time first, then by retry
time, creation time and id. -/
def claimOrder (left right : Job) : Bool :=
  let rank (job : Job) : Lex (Nat × Lex (Int × Lex (Int × String))) :=
    toLex ((if job.nextAttemptAtUtc = none then 0 else 1),
      toLex (job.nextAttemptAtUtc.getD 0, toLex (job.createdAtUtc, job.jobId)))
  rank left ≤ rank right

def failUnclaimable (jobId : String) (now : Int) (errorCode : String) : UnitOfWork Unit := do
  attempt (validateErrorCode errorCode)
  let changes ← updateJobs
    (fun job => job.jobId = jobId ∧ job.state ∈ [.queued, .retryWait])
    (fun job => { job with
      state := .failed, claimedRunId := none, claimStartedAtUtc := none,
      nextAttemptAtUtc := none, lastErrorCode := some errorCode,
      updatedAtUtc := max job.updatedAtUtc now })
  require (changes = 1)
    (integrityFailure "unclaimable durable job disposition lost revalidation")

/-- The digest column `claim_next` demands of a selected row. -/
def claimableDigest (job : Job) : Except Raised String :=
  match job.dedupeSha256 with
  | some digest => do
    ensure (isSha256 digest)
      (integrityFailure "claimable durable job lacks valid migration-8 dedupe identity")
    return digest
  | none =>
    .error (integrityFailure "claimable durable job lacks valid migration-8 dedupe identity")

/-- The checks `claim_next` makes of a selected row under its contract; the
digest of the row and its checkpoint. -/
def revalidateClaimable (contract : JobTypeContract) (job : Job) :
    Except Raised (String × Option String) := do
  let digest ← claimableDigest job
  let expected ← persistedDedupeSha256 python contract job.jobType job.contractVersion
    job.payloadJson "claim dedupe key derivation"
  ensure (expected = digest)
    (integrityFailure "claimable durable job payload disagrees with dedupe identity")
  let checkpoint ← validatePersistedCheckpoint python contract job.checkpointJson
  rewrapAny (integrityFailure "persisted durable job_id is not canonical UUIDv4")
    (requireUuid4 job.jobId)
  return (digest, checkpoint)

/-- The claim `claim_next` makes of a job it selected. -/
def claimSelected (contract : JobTypeContract) (job : Job) (runId : String) (now : Int) :
    UnitOfWork DurableJobClaim := do
  let (digest, checkpoint) ← attempt (revalidateClaimable python contract job)
  let changes ← updateJobs
    (fun row => row.jobId = job.jobId ∧ row.state = job.state ∧
      row.attemptCount = job.attemptCount ∧ row.updatedAtUtc = job.updatedAtUtc ∧
      row.claimedRunId = none ∧ row.claimStartedAtUtc = none)
    (fun row => { row with
      state := .running, claimedRunId := some runId, claimStartedAtUtc := some now,
      attemptCount := job.attemptCount + 1, nextAttemptAtUtc := none, updatedAtUtc := now })
  require (changes = 1) (integrityFailure "durable job claim lost authoritative revalidation")
  return {
    jobId := job.jobId, jobType := job.jobType, contractVersion := job.contractVersion, runId,
    attemptOrdinal := job.attemptCount + 1, claimStartedAtUtc := now, dedupeSha256 := digest,
    payloadJson := job.payloadJson, checkpointJson := checkpoint }

def claimNext (runId : String) (now : Int) : UnitOfWork (Option DurableJobClaim) := do
  attempt (requireUuid4 runId)
  attempt (validateTime now "now")
  match ((← get).jobs.filter (·.due now)).insertionSort (claimOrder · ·) with
  | [] => return none
  | job :: _ =>
    require (¬ (job.state = .queued ∧ job.nextAttemptAtUtc ≠ none))
      (integrityFailure "queued durable job carries unexpected retry timestamp")
    require (¬ (job.state = .retryWait ∧ ¬ ∃ next ∈ job.nextAttemptAtUtc, next ≤ now))
      (integrityFailure "durable retry_wait job was selected before it became due")
    require (job.createdAtUtc ≤ now ∧ job.updatedAtUtc ≤ now)
      (integrityFailure "durable job claim clock regressed")
    match registry.get job.jobType job.contractVersion with
    | none =>
      failUnclaimable job.jobId now "JOB_CONTRACT_UNAVAILABLE"
      return none
    | some contract => return some (← claimSelected python contract job runId now)

/-- The row `_verify_claim` selects: running under exactly this claim. -/
def Job.claimedBy (job : Job) (claim : DurableJobClaim) : Bool :=
  job.jobId = claim.jobId ∧ job.jobType = claim.jobType ∧
  job.contractVersion = claim.contractVersion ∧ job.state = .running ∧
  job.claimedRunId = some claim.runId ∧ job.attemptCount = claim.attemptOrdinal ∧
  job.claimStartedAtUtc = some claim.claimStartedAtUtc

/-- What `_verify_claim` checks of the row it selected. -/
def verifyClaimedRow (claim : DurableJobClaim) (job : Job) : Except Raised Unit := do
  ensure (∃ digest ∈ job.dedupeSha256, isSha256 digest = true)
    (integrityFailure "durable job claim has invalid persisted dedupe identity")
  ensure (job.dedupeSha256 = some claim.dedupeSha256 ∧ job.payloadJson = claim.payloadJson)
    (integrityFailure "durable job claim immutable identity changed")
  match registry.get claim.jobType claim.contractVersion with
  | none => throw (integrityFailure "durable job claim contract is unavailable")
  | some contract =>
    let expected ← persistedDedupeSha256 python contract claim.jobType claim.contractVersion
      job.payloadJson "claim dedupe key derivation"
    ensure (job.dedupeSha256 = some expected)
      (integrityFailure "durable job claim payload disagrees with dedupe identity")
    let _ ← validatePersistedCheckpoint python contract job.checkpointJson

def verifyClaim (claim : DurableJobClaim) : UnitOfWork Job := do
  match ← selectJob (·.claimedBy claim) with
  | none => throw jobClaimConflict
  | some job =>
    attempt (verifyClaimedRow python registry claim job)
    return job

/-- `checkpoint_in_uow`, and `checkpoint` in a transaction of its own. -/
def checkpointInUow (claim : DurableJobClaim) (checkpoint : Json) (clock : Int) :
    UnitOfWork String := do
  let contract ← attempt (requireClaimContract registry claim)
  let now ← attempt (now clock)
  let row ← verifyClaim python registry claim
  attempt (requireNonregressingNow now row.updatedAtUtc claim)
  let checkpointJson ← attempt (canonicalCheckpoint contract checkpoint false)
  let _ ← updateJobs (fun job => job.jobId = claim.jobId)
    (fun job => { job with checkpointJson := some checkpointJson, updatedAtUtc := now })
  return checkpointJson

def requireAttemptAbsent (jobId : String) (ordinal : Nat) : UnitOfWork Unit := do
  let existing ← selectAttempt jobId ordinal
  require (existing = none)
    (integrityFailure "durable job attempt ordinal already has terminal history")

def insertAttempt (row : JobAttempt) : UnitOfWork Unit := do
  require (row.startedAtUtc ≤ row.finishedAtUtc)
    (integrityFailure "durable job attempt finish precedes claim start")
  attempt (row.errorCode.forM validateErrorCode)
  insertAttemptRow row

/-- `_insert_interrupted_if_absent`: whether an attempt row was inserted. -/
def insertInterruptedIfAbsent (attemptId jobId : String) (ordinal : Nat) (runId : String)
    (startedAtUtc finishedAtUtc : Int) (errorCode : String) : UnitOfWork Bool := do
  match ← selectAttempt jobId ordinal with
  | some existing =>
    require (existing.runId = runId ∧ existing.startedAtUtc = startedAtUtc ∧
        existing.outcome = .interrupted ∧ existing.errorCode = some errorCode)
      (integrityFailure "durable job recovery found conflicting attempt history")
    return false
  | none =>
    insertAttempt {
      attemptId, jobId, ordinal, runId, startedAtUtc
      finishedAtUtc := max finishedAtUtc startedAtUtc
      outcome := .interrupted, errorCode := some errorCode }
    return true

def complete (claim : DurableJobClaim) (clock : Int) (attemptId : String) : UnitOfWork Unit := do
  let _ ← attempt (requireClaimContract registry claim)
  let now ← attempt (now clock)
  let row ← verifyClaim python registry claim
  attempt (requireNonregressingNow now row.updatedAtUtc claim)
  requireAttemptAbsent claim.jobId claim.attemptOrdinal
  insertAttempt {
    attemptId, jobId := claim.jobId, ordinal := claim.attemptOrdinal, runId := claim.runId
    startedAtUtc := claim.claimStartedAtUtc, finishedAtUtc := now
    outcome := .completed, errorCode := none }
  let _ ← updateJobs (fun job => job.jobId = claim.jobId)
    (fun job => { job with
      state := .completed, claimedRunId := none, claimStartedAtUtc := none,
      nextAttemptAtUtc := none, lastErrorCode := none, updatedAtUtc := now })

/-- What `fail` demands of a retry time. -/
def validateRetryAt (now retryAt : Int) : Except Raised Unit := do
  validateTime retryAt "retry_at"
  ensure (now ≤ retryAt)
    (validationError "durable job retry_at must not precede failure time")

def fail (claim : DurableJobClaim) (errorCode : String) (retryAt : Option Int) (clock : Int)
    (attemptId : String) : UnitOfWork Unit := do
  let contract ← attempt (requireClaimContract registry claim)
  let now ← attempt (now clock)
  let row ← verifyClaim python registry claim
  attempt (requireNonregressingNow now row.updatedAtUtc claim)
  attempt (validateErrorCode errorCode)
  attempt (retryAt.forM (validateRetryAt now))
  attempt (validateFailurePolicy contract errorCode claim.attemptOrdinal now retryAt)
  requireAttemptAbsent claim.jobId claim.attemptOrdinal
  insertAttempt {
    attemptId, jobId := claim.jobId, ordinal := claim.attemptOrdinal, runId := claim.runId
    startedAtUtc := claim.claimStartedAtUtc, finishedAtUtc := now
    outcome := .failed, errorCode := some errorCode }
  let _ ← updateJobs (fun job => job.jobId = claim.jobId)
    (fun job => { job with
      state := if retryAt = none then .failed else .retryWait,
      claimedRunId := none, claimStartedAtUtc := none, nextAttemptAtUtc := retryAt,
      lastErrorCode := some errorCode, updatedAtUtc := now })

/-- The attempt row `cancel` writes for a job it takes from its worker; none
for a job that is not running. -/
def cancelAttempt (job : Job) (now : Int) (attemptId : String) : UnitOfWork (Option Nat) :=
  if job.state = .running then
    match job.claimedRunId, job.claimStartedAtUtc with
    | some runId, some started => do
      require (1 ≤ job.attemptCount)
        (integrityFailure "running durable job has incomplete claim evidence")
      requireAttemptAbsent job.jobId job.attemptCount
      insertAttempt {
        attemptId, jobId := job.jobId, ordinal := job.attemptCount, runId
        startedAtUtc := started, finishedAtUtc := now, outcome := .cancelled, errorCode := none }
      return some job.attemptCount
    | _, _ => throw (integrityFailure "running durable job has incomplete claim evidence")
  else return none

def cancel (jobId expectedJobType : String) (expectedContractVersion : Nat)
    (commandContext : Json) (clock : Int) (attemptId : String) :
    UnitOfWork DurableJobCancellationResult := do
  attempt (requireUuid4 jobId)
  let contract ← attempt (registry.require expectedJobType expectedContractVersion)
  match ← selectJob (·.jobId = jobId) with
  | none => throw (validationError "durable job does not exist")
  | some job =>
    require (job.jobType = contract.jobType ∧ job.contractVersion = contract.contractVersion)
      (integrityFailure "durable job identity disagrees with cancellation expectation")
    if job.state = .cancelled then
      return {
        outcome := .alreadyCancelled, jobId, priorState := .cancelled
        resultingState := .cancelled, claimRevoked := false }
    else if job.state = .completed ∨ job.state = .failed then
      return {
        outcome := .terminalUnchanged, jobId, priorState := job.state
        resultingState := job.state, claimRevoked := false }
    else
      attempt (validateCancellationPolicy contract commandContext job.state)
      let now ← attempt (now clock)
      require (job.createdAtUtc ≤ now ∧ job.updatedAtUtc ≤ now)
        (integrityFailure "durable job cancellation clock regressed")
      let cancelledOrdinal ← cancelAttempt job now attemptId
      let _ ← updateJobs (fun row => row.jobId = jobId)
        (fun row => { row with
          state := .cancelled, claimedRunId := none, claimStartedAtUtc := none,
          nextAttemptAtUtc := none, updatedAtUtc := now })
      return {
        outcome := .cancelled, jobId, priorState := job.state, resultingState := .cancelled
        claimRevoked := job.state = .running, cancelledAttemptOrdinal := cancelledOrdinal }

/-- What one recovery transaction did with the job it was given. -/
inductive RecoveryResult where
  | skipped
  | recovered (interrupted : Bool) (state : JobState)
  deriving DecidableEq

/-- The interrupted attempt row that legacy recovery and restore reconciliation
write for a running job; whether one was inserted. -/
def interruptIfRunning (job : Job) (finishedAtUtc : Int) (attemptId errorCode : String)
    (incomplete : Raised) : UnitOfWork Bool :=
  if job.state = .running then
    match job.claimedRunId, job.claimStartedAtUtc with
    | some runId, some started => do
      require (1 ≤ job.attemptCount) incomplete
      insertInterruptedIfAbsent attemptId job.jobId job.attemptCount runId started finishedAtUtc
        errorCode
    | _, _ => throw incomplete
  else return false

/-- Body of the first loop of `recover_stale_claims`: a job left without a
dedupe identity by an earlier schema. -/
def recoverLegacyJob (jobId : String) (now : Int) (attemptId : String) :
    UnitOfWork RecoveryResult := do
  match ← selectJob fun job => job.jobId = jobId ∧ job.dedupeSha256 = none with
  | none => return .skipped
  | some job =>
    if job.state.nonterminal = false then return .skipped
    else
      let interrupted ← interruptIfRunning job now attemptId "LEGACY_JOB_DEDUPE_UNAVAILABLE"
        (integrityFailure "legacy running job has incomplete claim evidence")
      let changes ← updateJobs
        (fun row => row.jobId = jobId ∧ row.dedupeSha256 = none ∧ row.state.nonterminal)
        (fun row => { row with
          state := .failed, claimedRunId := none, claimStartedAtUtc := none,
          nextAttemptAtUtc := none, lastErrorCode := some "LEGACY_JOB_DEDUPE_UNAVAILABLE",
          updatedAtUtc := max row.updatedAtUtc now })
      require (changes = 1) (integrityFailure "legacy durable job recovery lost revalidation")
      return .recovered interrupted .failed

/-- Takes a stale running job from the run that claimed it. -/
def releaseStale (jobId staleRunId : String) (ordinal : Nat) (started now : Int)
    (state : JobState) (nextAttemptAtUtc : Option Int) (errorCode : String) (lost : Raised) :
    UnitOfWork Unit := do
  let changes ← updateJobs
    (fun row => row.jobId = jobId ∧ row.state = .running ∧ row.claimedRunId = some staleRunId ∧
      row.attemptCount = ordinal ∧ row.claimStartedAtUtc = some started)
    (fun row => { row with
      state, claimedRunId := none, claimStartedAtUtc := none, nextAttemptAtUtc,
      lastErrorCode := some errorCode, updatedAtUtc := max row.updatedAtUtc now })
  require (changes = 1) lost

/-- What the registered crash policy decides for a stale job. -/
def staleDisposition (contract : JobTypeContract) (job : Job) (now : Int) :
    Except Raised StaleRecoveryDisposition := do
  ensure (∃ digest ∈ job.dedupeSha256, isSha256 digest = true)
    (integrityFailure "stale durable job has invalid dedupe identity")
  let payload ← loadRegisteredPayload python contract job.payloadJson
  let checkpoint ← loadRegisteredCheckpoint python contract job.checkpointJson
  let key ← deriveDedupeKey contract payload true
  requireCallbackDidNotMutate payload job.payloadJson "recovery dedupe key derivation"
  let expected ← dedupeSha256 python job.jobType job.contractVersion key
  ensure (job.dedupeSha256 = some expected)
    (integrityFailure "stale durable job payload disagrees with dedupe identity")
  let disposition ← rewrapAny (integrityFailure "registered durable job crash policy failed")
    (contract.recoverStale payload checkpoint job.attemptCount now)
  requireCallbackDidNotMutate payload job.payloadJson "crash recovery policy"
  match checkpoint, job.checkpointJson with
  | some value, some text =>
    requireCallbackDidNotMutate value text "crash recovery checkpoint policy"
  | _, _ => pure ()
  validateRecoveryDisposition disposition now
  validateErrorCode disposition.errorCodeOr
  return disposition

/-- Body of the second loop of `recover_stale_claims`: a job that a run other
than the current one was running. -/
def recoverStaleJob (currentRunId jobId : String) (now : Int) (attemptId : String) :
    UnitOfWork RecoveryResult := do
  match ← selectJob fun job => job.jobId = jobId with
  | none => return .skipped
  | some job =>
    match job.claimedRunId with
    | none => return .skipped
    | some staleRunId =>
      if job.state ≠ .running ∨ staleRunId = currentRunId then return .skipped
      else
        match job.claimStartedAtUtc with
        | none => throw (integrityFailure "stale durable job has incomplete claim evidence")
        | some started =>
          require (1 ≤ job.attemptCount)
            (integrityFailure "stale durable job has incomplete claim evidence")
          let interrupted ← insertInterruptedIfAbsent attemptId jobId job.attemptCount staleRunId
            started now "JOB_INTERRUPTED"
          match registry.get job.jobType job.contractVersion with
          | none =>
            releaseStale jobId staleRunId job.attemptCount started now .failed none
              "JOB_CONTRACT_UNAVAILABLE"
              (integrityFailure "unknown-contract stale recovery lost revalidation")
            return .recovered interrupted .failed
          | some contract =>
            let disposition ← attempt (staleDisposition python contract job now)
            releaseStale jobId staleRunId job.attemptCount started now disposition.state
              disposition.nextAttemptAtUtc disposition.errorCodeOr
              (integrityFailure "stale durable job recovery lost revalidation")
            return .recovered interrupted disposition.state

/-- One job of `reconcile_restored_jobs`: whether an attempt row was inserted. -/
def reconcileJob (now : Int) (job : Job) (attemptId : String) : UnitOfWork Bool := do
  let interrupted ← interruptIfRunning job (max now job.updatedAtUtc) attemptId
    "RESTORE_SNAPSHOT_JOB_INVALIDATED"
    (integrityFailure "restored running job has incomplete claim evidence")
  let changes ← updateJobs (fun row => row.jobId = job.jobId ∧ row.state.nonterminal)
    (fun row => { row with
      state := .cancelled, claimedRunId := none, claimStartedAtUtc := none,
      nextAttemptAtUtc := none, lastErrorCode := some "RESTORE_SNAPSHOT_JOB_INVALIDATED",
      updatedAtUtc := max row.updatedAtUtc now })
  require (changes = 1)
    (integrityFailure "restore durable job reconciliation lost revalidation")
  return interrupted

/-- The loop of `reconcile_restored_jobs` over the rows it selected; the number
of attempt rows inserted. `attemptIds` draws a new id for each job. -/
def reconcileJobs (now : Int) (attemptIds : String → String) : List Job → UnitOfWork Nat
  | [] => return 0
  | job :: jobs => do
    let interrupted ← reconcileJob now job (attemptIds job.jobId)
    return interrupted.toNat + (← reconcileJobs now attemptIds jobs)

def reconcileRestoredJobs (restoreContext : Option Json) (clock : Int)
    (attemptIds : String → String) : UnitOfWork RestoreJobReconciliation := do
  require restoreContext.isSome (validationError "restore_context is required")
  let rows ← selectJobs (·.state.nonterminal)
  let rows := rows.insertionSort fun left right => left.jobId ≤ right.jobId
  let now ← attempt (now clock)
  let interrupted ← reconcileJobs now attemptIds rows
  let terminal ← selectJobs (!·.state.nonterminal)
  return ⟨rows.length, rows.length, interrupted, terminal.length - rows.length⟩

end

end Soma.Jobs
