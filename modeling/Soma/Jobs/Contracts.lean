import Mathlib.Data.Finset.Insert
import Soma.Foundation.StrictJson
import Soma.Jobs.Store

/-!
Packet-owned job contracts and the checks `jobs/coordinator.py` runs through
them. A contract's callbacks are validation and policy functions that the
source requires to be bounded and deterministic; each is a function that may
raise.
-/

namespace Soma.Jobs

open Foundation

structure StaleRecoveryDisposition where
  state : JobState
  nextAttemptAtUtc : Option Int := none
  errorCode : Option String := none

/-- `disposition.error_code or "JOB_INTERRUPTED"`. -/
def StaleRecoveryDisposition.errorCodeOr (disposition : StaleRecoveryDisposition) : String :=
  (disposition.errorCode.filter (· ≠ "")).getD "JOB_INTERRUPTED"

/-- `JobTypeContract`: static durable-job policy of one type and version. -/
structure JobTypeContract where
  jobType : String
  contractVersion : Nat
  validatePayload : Json → Except Raised Unit
  validateCheckpoint : Json → Except Raised Unit
  deriveDedupeKey : Json → Except Raised String
  coalesceStates : Finset JobState
  validateFailure : String → Nat → Int → Option Int → Except Raised Unit
  validateCancellation : Json → JobState → Except Raised Unit
  recoverStale : Json → Option Json → Nat → Int → Except Raised StaleRecoveryDisposition

def maxJobTypeBytes : Nat := 256
def maxDedupeKeyBytes : Nat := 65536
def maxDedupeEnvelopeBytes : Nat := maxDedupeKeyBytes * 6 + 2048

/-- Bounds of a persisted payload or checkpoint. -/
def jobJsonBounds : JsonBounds := ⟨65536, 8, 512⟩

def validateJobType (value : String) : Except Raised Unit := do
  ensure (value ≠ "") (validationError "durable job_type must be a nonempty string")
  ensure (value.utf8ByteSize ≤ maxJobTypeBytes)
    (validationError "durable job_type exceeds bound")

/-- What `_validated_contract` demands of the coalesce states: every active
state, and besides those at most `completed`. -/
def JobTypeContract.CoalesceStatesAllowed (contract : JobTypeContract) : Prop :=
  (∀ state : JobState, state.nonterminal = true → state ∈ contract.coalesceStates) ∧
  ∀ state ∈ contract.coalesceStates, state.coalescible = true

instance (contract : JobTypeContract) : Decidable contract.CoalesceStatesAllowed :=
  decidable_of_iff
    ((.queued ∈ contract.coalesceStates ∧ .running ∈ contract.coalesceStates ∧
        .waitingReview ∈ contract.coalesceStates ∧ .retryWait ∈ contract.coalesceStates) ∧
      ∀ state ∈ contract.coalesceStates, state.coalescible = true)
    (and_congr_left' ⟨fun ⟨queued, running, waiting, retry⟩ state => by
        cases state <;> simp_all [JobState.nonterminal],
      fun all => ⟨all _ rfl, all _ rfl, all _ rfl, all _ rfl⟩⟩)

/-- `JobTypeRegistry._validated_contract`. -/
def validatedContract (contract : JobTypeContract) : Except Raised JobTypeContract := do
  validateJobType contract.jobType
  ensure (1 ≤ contract.contractVersion)
    (validationError "durable job contract_version must be int>=1")
  ensure contract.CoalesceStatesAllowed (validationError
    "durable job coalesce_states must include every active state and may additionally include completed")
  return contract

/-- `JobTypeRegistry`: contracts that passed validation, one per type and version. -/
structure JobTypeRegistry where
  contracts : List JobTypeContract
  validated : ∀ contract ∈ contracts, validatedContract contract = .ok contract
  distinct : (contracts.map fun contract => (contract.jobType, contract.contractVersion)).Nodup

def JobTypeRegistry.get (registry : JobTypeRegistry) (jobType : String) (contractVersion : Nat) :
    Option JobTypeContract :=
  registry.contracts.find? fun contract =>
    contract.jobType = jobType ∧ contract.contractVersion = contractVersion

def JobTypeRegistry.require (registry : JobTypeRegistry) (jobType : String)
    (contractVersion : Nat) : Except Raised JobTypeContract :=
  match registry.get jobType contractVersion with
  | some contract => .ok contract
  | none => .error (validationError "unknown durable job type/version")

@[simp] theorem require_eq_ok {registry : JobTypeRegistry} :
    registry.require jobType contractVersion = .ok contract ↔
      registry.get jobType contractVersion = some contract := by
  unfold JobTypeRegistry.require
  cases registry.get jobType contractVersion <;> simp

/-- A registered contract has the type and version it is looked up under, and
coalesces in every active state and otherwise at most in `completed`. -/
theorem get_registered {registry : JobTypeRegistry}
    (found : registry.get jobType contractVersion = some contract) :
    contract.jobType = jobType ∧ contract.contractVersion = contractVersion ∧
      0 < contractVersion ∧ contract.CoalesceStatesAllowed := by
  have member := List.mem_of_find?_eq_some found
  have selected := List.find?_some found
  simp only [decide_eq_true_eq] at selected
  have valid := registry.validated contract member
  simp only [validatedContract, except_ok] at valid
  obtain ⟨_, positive, allowed, _⟩ := valid
  exact ⟨selected.1, selected.2, selected.2 ▸ positive, allowed⟩

/-- `DurableJobClaim`: what a worker holds of the attempt it runs. -/
structure DurableJobClaim where
  jobId : String
  jobType : String
  contractVersion : Nat
  runId : String
  attemptOrdinal : Nat
  claimStartedAtUtc : Int
  dedupeSha256 : String
  payloadJson : String
  checkpointJson : Option String
  deriving DecidableEq

structure DurableJobRecoverySummary where
  examinedCount : Nat := 0
  interruptedCount : Nat := 0
  queuedCount : Nat := 0
  retryWaitCount : Nat := 0
  waitingReviewCount : Nat := 0
  failedCount : Nat := 0
  skippedCount : Nat := 0

structure RestoreJobReconciliation where
  examinedNonterminalCount : Nat
  cancelledCount : Nat
  interruptedAttemptCount : Nat
  unchangedTerminalCount : Nat
  deriving DecidableEq

/-- `DurableJobCancellationResult.outcome`. -/
inductive CancellationOutcome where
  | cancelled
  | alreadyCancelled
  | terminalUnchanged
  deriving DecidableEq

structure DurableJobCancellationResult where
  outcome : CancellationOutcome
  jobId : String
  priorState : JobState
  resultingState : JobState
  claimRevoked : Bool
  cancelledAttemptOrdinal : Option Nat := none
  deriving DecidableEq

def validateDedupeKey (value : String) : Except Raised Unit := do
  ensure (value ≠ "") (validationError "durable job dedupe_key must be a nonempty string")
  ensure (value.utf8ByteSize ≤ maxDedupeKeyBytes)
    (validationError "durable job dedupe_key exceeds bound")

/-- `_ERROR_CODE`: an uppercase letter, then at most 63 of `A-Z`, `0-9` and `_`. -/
def isErrorCode (value : String) : Bool :=
  match value.toList with
  | [] => false
  | first :: rest =>
    ('A' ≤ first ∧ first ≤ 'Z') && rest.length ≤ 63 &&
    rest.all fun character =>
      ('A' ≤ character ∧ character ≤ 'Z') ∨ ('0' ≤ character ∧ character ≤ '9') ∨ character = '_'

def validateErrorCode (value : String) : Except Raised Unit :=
  ensure (isErrorCode value)
    (validationError "durable job error_code must be stable uppercase token <=64 chars")

def validateTime (value : Int) (name : String) : Except Raised Unit :=
  ensure (0 ≤ value)
    (validationError (name ++ " must be a nonnegative whole-second UTC epoch"))

/-- `_now`: the clock reading, checked. -/
def now (clock : Int) : Except Raised Int := do
  validateTime clock "server time"
  return clock

section Checks

variable (python : PythonLibrary)

def dedupeSha256 (jobType : String) (contractVersion : Nat) (dedupeKey : String) :
    Except Raised String := do
  let encoded ← canonicalJsonBounded ⟨maxDedupeEnvelopeBytes, 4, 16⟩ (.obj
    [("schema", .str "SOMA_DURABLE_JOB_DEDUPE_V1"), ("job_type", .str jobType),
     ("contract_version", .int contractVersion), ("dedupe_key", .str dedupeKey)])
  return python.sha256Hex encoded

/-- `error = IntegrityFailure if persisted else ValidationError`. -/
def contractFailure (persisted : Bool) (message : String) : Raised :=
  if persisted then integrityFailure message else validationError message

def canonicalPayload (contract : JobTypeContract) (payload : Json) (persisted : Bool) :
    Except Raised String :=
  rewrapOther (contractFailure persisted "durable job payload violates registered contract") do
    contract.validatePayload payload
    canonicalJsonBounded jobJsonBounds payload

def canonicalCheckpoint (contract : JobTypeContract) (checkpoint : Json) (persisted : Bool) :
    Except Raised String :=
  rewrapOther (contractFailure persisted "durable job checkpoint violates registered contract") do
    contract.validateCheckpoint checkpoint
    canonicalJsonBounded jobJsonBounds checkpoint

def parseCanonicalJson (text : String) (label : String) : Except Raised Json := do
  let (value, encoded) ← rewrapAny
    (integrityFailure ("persisted durable job " ++ label ++ " is invalid canonical JSON")) do
      let value ← loadsCanonicalJson python.jsonLoads jobJsonBounds text
      return (value, ← canonicalJsonBounded jobJsonBounds value)
  ensure (encoded = text)
    (integrityFailure ("persisted durable job " ++ label ++ " is noncanonical"))
  return value

def loadRegisteredPayload (contract : JobTypeContract) (payloadJson : String) :
    Except Raised Json := do
  let payload ← parseCanonicalJson python payloadJson "payload"
  let canonical ← rewrapUnlessIntegrity
    (integrityFailure "persisted durable job payload is not exact canonical contract data")
    (canonicalPayload contract payload true)
  ensure (canonical = payloadJson)
    (integrityFailure "persisted durable job payload is noncanonical")
  return payload

def loadRegisteredCheckpoint (contract : JobTypeContract) :
    Option String → Except Raised (Option Json)
  | none => .ok none
  | some text => do
    let checkpoint ← parseCanonicalJson python text "checkpoint"
    let canonical ← rewrapUnlessIntegrity
      (integrityFailure "persisted durable job checkpoint is invalid")
      (canonicalCheckpoint contract checkpoint true)
    ensure (canonical = text)
      (integrityFailure "persisted durable job checkpoint is noncanonical")
    return some checkpoint

def validatePersistedCheckpoint (contract : JobTypeContract) (checkpointJson : Option String) :
    Except Raised (Option String) := do
  let _ ← loadRegisteredCheckpoint python contract checkpointJson
  return checkpointJson

def deriveDedupeKey (contract : JobTypeContract) (payload : Json) (persisted : Bool) :
    Except Raised String :=
  let derived : Except Raised String := do
    let key ← contract.deriveDedupeKey payload
    validateDedupeKey key
    return key
  if persisted then
    match derived with
    | .ok key => .ok key
    | .error (.soma _) =>
      .error (integrityFailure "persisted durable job cannot reproduce semantic dedupe key")
    | .error .other =>
      .error (integrityFailure "durable job semantic dedupe key derivation failed")
  else
    rewrapOther (contractFailure persisted "durable job semantic dedupe key derivation failed")
      derived

/-- `_require_callback_did_not_mutate`: the value still encodes to its text. -/
def requireCallbackDidNotMutate (value : Json) (canonicalText : String) (label : String) :
    Except Raised Unit := do
  let after ← rewrapAny
    (integrityFailure ("durable job " ++ label ++ " mutated contract data unsafely"))
    (canonicalJsonBounded jobJsonBounds value)
  ensure (after = canonicalText)
    (integrityFailure ("durable job " ++ label ++ " mutated contract data"))

def validateFailurePolicy (contract : JobTypeContract) (errorCode : String)
    (attemptOrdinal : Nat) (now : Int) (retryAt : Option Int) : Except Raised Unit :=
  rewrapOther
    (validationError "durable job failure request violates registered retry policy")
    (contract.validateFailure errorCode attemptOrdinal now retryAt)

def validateCancellationPolicy (contract : JobTypeContract) (commandContext : Json)
    (state : JobState) : Except Raised Unit :=
  rewrapOther (validationError "durable job cancellation violates registered packet policy")
    (contract.validateCancellation commandContext state)

def recoveryStates : List JobState := [.queued, .retryWait, .waitingReview, .failed]

def validateRecoveryDisposition (disposition : StaleRecoveryDisposition) (now : Int) :
    Except Raised Unit := do
  ensure (disposition.state ∈ recoveryStates)
    (integrityFailure "registered durable job crash policy returned invalid state")
  match disposition.state, disposition.nextAttemptAtUtc with
  | .retryWait, none => .error (integrityFailure "retry_wait recovery requires next_attempt_at_utc")
  | .retryWait, some next =>
    validateTime next "next_attempt_at_utc"
    ensure (now ≤ next) (integrityFailure "recovery retry time precedes recovery time")
  | _, next =>
    ensure (next = none)
      (integrityFailure "non-retry recovery state cannot carry next_attempt_at_utc")

def requireClaimContract (registry : JobTypeRegistry) (claim : DurableJobClaim) :
    Except Raised JobTypeContract := do
  requireUuid4 claim.jobId
  requireUuid4 claim.runId
  ensure (1 ≤ claim.attemptOrdinal)
    (validationError "durable job claim attempt_ordinal must be >=1")
  validateTime claim.claimStartedAtUtc "claim_started_at_utc"
  ensure (isSha256 claim.dedupeSha256)
    (validationError "durable job claim dedupe_sha256 is invalid")
  registry.require claim.jobType claim.contractVersion

def requireNonregressingNow (now updatedAtUtc : Int) (claim : DurableJobClaim) :
    Except Raised Unit :=
  ensure (updatedAtUtc ≤ now ∧ claim.claimStartedAtUtc ≤ now)
    (integrityFailure "durable job coordinator clock regressed")

/-- The dedupe digest recomputed from a persisted payload, as `claim_next`,
`_verify_claim` and stale recovery do before they trust a row. -/
def persistedDedupeSha256 (contract : JobTypeContract) (jobType : String) (contractVersion : Nat)
    (payloadJson : String) (label : String) : Except Raised String := do
  let payload ← loadRegisteredPayload python contract payloadJson
  let key ← deriveDedupeKey contract payload true
  requireCallbackDidNotMutate payload payloadJson label
  dedupeSha256 python jobType contractVersion key

end Checks

/-! ## A small registry, to run the coordinator on concrete inputs -/

/-- Digest of the dedupe envelope of key `k` under the sample contract. -/
def sampleDigest : String := "6bea4448e29425adc1cbc94d95824038857e5a27330e71e1dbd77cca3b5488f1"

def samplePython : PythonLibrary where
  jsonLoads text := if text = "\x7b\"key\":\"k\"\x7d" then some (.obj [("key", .str "k")]) else none
  sha256Hex text :=
    if text = "\x7b\"contract_version\":1,\"dedupe_key\":\"k\",\"job_type\":\"SAMPLE_JOB_V1\",\"schema\":\"SOMA_DURABLE_JOB_DEDUPE_V1\"\x7d"
    then sampleDigest
    else "0000000000000000000000000000000000000000000000000000000000000000"

/-- A contract whose jobs are identified by the `key` of their payload and go
back to the queue when their run is interrupted. -/
def sampleContract : JobTypeContract where
  jobType := "SAMPLE_JOB_V1"
  contractVersion := 1
  validatePayload _ := .ok ()
  validateCheckpoint _ := .ok ()
  deriveDedupeKey
    | .obj [("key", .str key)] => .ok key
    | _ => .error .other
  coalesceStates := {.queued, .running, .waitingReview, .retryWait}
  validateFailure _ _ _ _ := .ok ()
  validateCancellation _ _ := .ok ()
  recoverStale _ _ _ _ := .ok { state := .queued }

def sampleRegistry : JobTypeRegistry where
  contracts := [sampleContract]
  validated contract member := by
    rw [List.mem_singleton.mp member]
    rfl
  distinct := List.nodup_singleton _

end Soma.Jobs
