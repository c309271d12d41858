import Soma.Imports.Tables
import Soma.Theory.KeysetPages
import Mathlib.Data.Prod.Lex
import Mathlib.Data.String.Basic

/-!
`jobs/sr_reappearance.py`: the worker that clears the disappearance warnings of the Service
Requests a published ordinary run observed, and what the contract of its job type says of an
attempt that ends early. The worker walks the observations of the run in pages, saves a
checkpoint after each one, and dispatches one command for the representative of each Service
Request. A command whose active warning is not the evidence's raises and ends the attempt,
and the third attempt is the last (`ReappearanceStep.Expected`).

Left out is the clock: a job that waits for its retry is claimed when it is due.
-/

namespace Soma.Imports

open Foundation Keyset

/-! ## The run and what its job reads -/

structure ReappearanceObservation where
  canonicalSrNo : String
  sourceObservationId : String
  rowLogicalSha256 : String

abbrev ObservationKey := Lex (String × String)

def ReappearanceObservation.key (observation : ReappearanceObservation) : ObservationKey :=
  toLex (observation.canonicalSrNo, observation.sourceObservationId)

/-- A job with the run it is for: the valid observations a published run keeps, and the
run's chronology. An ordinary run has no recovery lineage. -/
structure ReappearanceJob where
  importRunId : String
  publishedRunRevision : Nat
  chronologyKind : String
  chronologyValue : Nat
  /-- The `source_observations` of the run, those without a valid identity included. -/
  rowCount : Nat
  observations : List ReappearanceObservation
  pageSize : Nat

inductive PresenceKind where
  | disappearanceReviewed
  | reappearanceConfirmed
  deriving DecidableEq

structure PresenceEvent where
  presenceEventId : String
  eventKind : PresenceKind
  importRunId : String

/-- The columns of `import_runs` that `_validate_run` reads. -/
structure PublishedRow where
  sourceFamily : SourceFamily
  runState : RunState
  revision : Nat

/-- What other transactions write and the job reads. -/
structure PresenceWorld where
  /-- The row of the job's run. -/
  run : Option PublishedRow
  /-- `get_by_official`. -/
  target : String → Option String
  /-- The event of a Service Request no other one follows; its history is a chain. -/
  head : String → Option PresenceEvent
  /-- `_run_chronology`. -/
  chronology : String → Option (String × Nat)
  /-- What `_resolve_prior_population_run` answers. -/
  priorPopulationRun : Option String

/-- `_PUBLISHED_NON_NOOP_STATES`. -/
def publishedNonNoopStates : List RunState :=
  [.staged, .waitingReview, .partiallyAccepted, .accepted, .rejected]

/-- `_validate_run`. -/
def ReappearanceJob.validateRun (job : ReappearanceJob) (world : PresenceWorld) :
    Except Raised Unit :=
  match world.run with
  | none =>
    .error (.soma ⟨.somaError, "IMPORT_RUN_STALE", "reappearance import run does not exist", false⟩)
  | some run => do
    ensure (run.sourceFamily = .advancedSearchSr)
      (integrityFailure "reappearance import run belongs to the wrong source family")
    ensure (run.runState ∈ publishedNonNoopStates)
      (.soma ⟨.somaError, "IMPORT_RUN_STALE",
        "reappearance import run is not published non-noop authority", false⟩)
    ensure (job.publishedRunRevision ≤ run.revision)
      (integrityFailure "reappearance import run revision regressed")
    ensure (0 < job.rowCount)
      (integrityFailure "reappearance import run has no row-bearing population")

/-- The run is published, at the revision it was published with or a later one. -/
def ReappearanceJob.PublishedIn (job : ReappearanceJob) (world : PresenceWorld) : Prop :=
  ∃ run ∈ world.run, run.sourceFamily = .advancedSearchSr ∧
    run.runState ∈ publishedNonNoopStates ∧ job.publishedRunRevision ≤ run.revision

/-- `_classification` and the representative it names; none where the rows of a Service
Request conflict. -/
def ReappearanceJob.representative? (job : ReappearanceJob) (canonicalSrNo : String) :
    Option String :=
  let rows := inOrder ReappearanceObservation.key
    (job.observations.filter (·.canonicalSrNo = canonicalSrNo))
  if 1 < (rows.map (·.rowLogicalSha256)).dedup.length then none
  else rows.head?.map (·.sourceObservationId)

/-- The Service Request under a number and its active warning. -/
def PresenceWorld.activeWarning (world : PresenceWorld) (canonicalSrNo : String) :
    Option (String × PresenceEvent) := do
  let serviceRequestId ← world.target canonicalSrNo
  let latest ← world.head serviceRequestId
  if latest.eventKind = .disappearanceReviewed then some (serviceRequestId, latest) else none

/-- `validate_reappearance_evidence` of a representative, from the warning on. -/
def ReappearanceJob.EvidenceValid (job : ReappearanceJob) (world : PresenceWorld)
    (warning : PresenceEvent) : Prop :=
  match world.chronology warning.importRunId with
  | none => False
  | some (absenceKind, absenceValue) =>
    job.chronologyKind = absenceKind ∧
      (absenceValue < job.chronologyValue ∨
        absenceValue = job.chronologyValue ∧ world.priorPopulationRun = some job.importRunId)

instance evidenceValidDecidable (job : ReappearanceJob) (world : PresenceWorld)
    (warning : PresenceEvent) : Decidable (job.EvidenceValid world warning) := by
  unfold ReappearanceJob.EvidenceValid
  split <;> infer_instance

/-! ## The job and its worker -/

inductive ReappearanceStatus where
  /-- Queued, or waiting for its next attempt. -/
  | waiting
  | running
  | complete
  | failed
  deriving DecidableEq

/-- `_RETRY_DELAY_BY_ATTEMPT`. -/
def retryDelayByAttempt : Nat → Option Nat
  | 1 => some 5
  | 2 => some 30
  | _ => none

/-- `_REAPPEARANCE_RETRYABLE`. -/
def reappearanceRetryable : List String :=
  ["JOB_INTERRUPTED", "PERSISTENCE_BUSY", "IMPORT_PROPOSAL_STALE"]

/-- Where the failure policy lets `fail` leave an attempt. -/
def failureStatus (errorCode : String) (attemptOrdinal : Nat) : ReappearanceStatus :=
  if errorCode ∈ reappearanceRetryable ∧ (retryDelayByAttempt attemptOrdinal).isSome then .waiting
  else .failed

/-- The row of the job, and the memory of its worker while there is one: the rest of its page,
and whether the first observation of it was dispatched. -/
structure ReappearanceState where
  world : PresenceWorld
  /-- The observations whose command has a receipt, under the id derived from it. -/
  receipts : List String
  /-- The numbers of the Service Requests this job recorded a reappearance of. -/
  confirmed : List String
  checkpoint : Option ObservationKey
  processedExactCount : Nat
  status : ReappearanceStatus
  attemptCount : Nat
  /-- A worker holds the claim of the attempt. -/
  working : Bool
  /-- What the last worker raised, for its caller to report. -/
  raised : Option Raised
  page : List ReappearanceObservation
  dispatched : Bool
  /-- The observations a checkpoint was saved for, in that order. -/
  visited : List ReappearanceObservation

def ReappearanceState.start (world : PresenceWorld) : ReappearanceState where
  world
  receipts := []
  confirmed := []
  checkpoint := none
  processedExactCount := 0
  status := .waiting
  attemptCount := 0
  working := false
  raised := none
  page := []
  dispatched := false
  visited := []

/-- The worker is gone, and its claim stays on the row. -/
def ReappearanceState.stop (state : ReappearanceState) (raised : Option Raised) :
    ReappearanceState :=
  { state with working := false, raised, page := [], dispatched := false }

inductive ReappearanceWrite where
  | replayed
  | noChange
  | confirmed (serviceRequestId : String)

/-- What `apply_source_reappearance` raises for evidence that is not the warning's. -/
def staleEvidence : Raised :=
  .soma ⟨.somaError, "IMPORT_PROPOSAL_STALE",
    "Service Request reappearance evidence is no longer exact", false⟩

/-- `_execute_representative` through the command boundary, up to what it writes. -/
def executeRepresentative (job : ReappearanceJob) (state : ReappearanceState)
    (observation : ReappearanceObservation) : Except Raised ReappearanceWrite :=
  if observation.sourceObservationId ∈ state.receipts then return .replayed
  else match state.world.activeWarning observation.canonicalSrNo with
    | none => return .noChange
    | some (serviceRequestId, warning) => do
      ensure (job.EvidenceValid state.world warning) staleEvidence
      return .confirmed serviceRequestId

/-- `append_event` of a confirmed reappearance. -/
def PresenceWorld.confirm (world : PresenceWorld) (serviceRequestId : String)
    (event : PresenceEvent) : PresenceWorld :=
  { world with
    head := fun other => if other = serviceRequestId then some event else world.head other }

/-- A conflict or a duplicate is skipped; a representative is dispatched. -/
def dispatchObservation (job : ReappearanceJob) (state : ReappearanceState)
    (observation : ReappearanceObservation) (presenceEventId : String) : ReappearanceState :=
  if job.representative? observation.canonicalSrNo ≠ some observation.sourceObservationId then
    { state with dispatched := true }
  else match executeRepresentative job state observation with
    | .error raised => state.stop (some raised)
    | .ok .replayed => { state with dispatched := true }
    | .ok .noChange => { state with
        dispatched := true
        receipts := observation.sourceObservationId :: state.receipts }
    | .ok (.confirmed serviceRequestId) => { state with
        dispatched := true
        receipts := observation.sourceObservationId :: state.receipts
        world := state.world.confirm serviceRequestId
          ⟨presenceEventId, .reappearanceConfirmed, job.importRunId⟩
        confirmed := observation.canonicalSrNo :: state.confirmed }

/-- The transactions of the worker, a crash that loses it, those of the job queue around it,
and what any other transactions leave. A run of the application that did not register the job
type fails what it claims or recovers. -/
inductive ReappearanceStep where
  | others (world : PresenceWorld)
  | claimNext (registered : Bool)
  | readPage
  | dispatch (presenceEventId : String)
  | saveCheckpoint
  | crash
  /-- The caller of the worker reports what it raised. -/
  | fail
  /-- A later run of the application finds the claim stale. -/
  | recoverStale (registered : Bool)

def ReappearanceState.step (job : ReappearanceJob) (state : ReappearanceState) :
    ReappearanceStep → ReappearanceState
  | .others world => { state with world }
  | .claimNext registered =>
    if state.status ≠ .waiting then state
    else if registered then
      { state with
        status := .running
        attemptCount := state.attemptCount + 1
        working := true
        raised := none
        page := []
        dispatched := false }
    else { state with status := .failed }
  | .readPage =>
    if state.working = true ∧ state.page = [] then
      match job.validateRun state.world with
      | .error raised => state.stop (some raised)
      | .ok () =>
        let rows := (rowsAfter ReappearanceObservation.key job.observations state.checkpoint).take
          job.pageSize
        if rows = [] then { state with status := .complete, working := false }
        else { state with page := rows, dispatched := false }
    else state
  | .dispatch presenceEventId =>
    match state.page with
    | [] => state
    | observation :: _ =>
      if state.working = true ∧ state.dispatched = false then
        dispatchObservation job state observation presenceEventId
      else state
  | .saveCheckpoint =>
    match state.page with
    | [] => state
    | observation :: rest =>
      if state.working = true ∧ state.dispatched = true then
        { state with
          checkpoint := some observation.key
          processedExactCount := state.processedExactCount + 1
          page := rest
          dispatched := false
          visited := state.visited ++ [observation] }
      else state
  | .crash => state.stop none
  | .fail =>
    match state.status, state.raised with
    | .running, some (.soma error) =>
      { state.stop none with status := failureStatus error.code state.attemptCount }
    | _, _ => state
  | .recoverStale registered =>
    if state.status ≠ .running then state
    else if registered then
      { state.stop none with status := failureStatus "JOB_INTERRUPTED" state.attemptCount }
    else { state.stop none with status := .failed }

def ReappearanceState.run (job : ReappearanceJob) (state : ReappearanceState)
    (steps : List ReappearanceStep) : ReappearanceState :=
  steps.foldl (ReappearanceState.step job) state

/-- An observation the evidence of this run is good for: where it is a representative that is
dispatched for the first time and finds an active warning, it clears that warning. -/
def ReappearanceState.Clears (job : ReappearanceJob) (state : ReappearanceState)
    (observation : ReappearanceObservation) : Prop :=
  job.representative? observation.canonicalSrNo = some observation.sourceObservationId →
    observation.sourceObservationId ∉ state.receipts →
      ∀ found ∈ state.world.activeWarning observation.canonicalSrNo,
        job.EvidenceValid state.world found.2

/-- What comes next when nothing else happens: a waiting job is claimed, its worker takes the
next step of `run`, and the claim of a worker that is gone is recovered. -/
def ReappearanceState.next (state : ReappearanceState) (presenceEventId : String) :
    ReappearanceStep :=
  match state.status, state.working, state.page with
  | .waiting, _, _ => .claimNext true
  | _, false, _ => .recoverStale true
  | _, true, [] => .readPage
  | _, true, _ :: _ => if state.dispatched then .saveCheckpoint else .dispatch presenceEventId

/-- The job alone, for some steps. -/
def ReappearanceState.work (job : ReappearanceJob) (drawn : Nat → String)
    (state : ReappearanceState) : Nat → ReappearanceState
  | 0 => state
  | count + 1 => (state.work job drawn count).step job ((state.work job drawn count).next
      (drawn count))

/-! ## What a job keeps -/

/-- A Service Request with a confirmed reappearance has the receipt of its representative. -/
def ReappearanceJob.Receipted (job : ReappearanceJob) (receipts confirmed : List String) : Prop :=
  confirmed.Nodup ∧ ∀ canonicalSrNo ∈ confirmed, ∃ observationId ∈ receipts,
    job.representative? canonicalSrNo = some observationId

/-- The walk over the observations, whoever takes its steps. -/
structure Walks (job : ReappearanceJob) (state : ReappearanceState) : Prop where
  split : ∃ rest, inOrder ReappearanceObservation.key job.observations = state.visited ++ rest ∧
    state.page <+: rest ∧ (state.status = .complete → rest = [])
  resumes : state.checkpoint = state.visited.getLast?.map ReappearanceObservation.key
  counted : state.processedExactCount = state.visited.length
  receipted : job.Receipted state.receipts state.confirmed

/-- The attempts at it: a job that waits has one left, and the last one keeps its worker. -/
structure Attempts (job : ReappearanceJob) (state : ReappearanceState) : Prop where
  published : job.PublishedIn state.world
  unfailed : state.status ≠ .failed
  waiting : state.status = .waiting → state.attemptCount ≤ 2
  running : state.status = .running → 1 ≤ state.attemptCount ∧ state.attemptCount ≤ 3
  last : state.status = .running → retryDelayByAttempt state.attemptCount = none →
    state.working = true
  working : state.working = true → state.status = .running ∧ state.raised = none
  stale : ∀ raised ∈ state.raised, raised = staleEvidence

section Keeping

variable {job : ReappearanceJob} {state : ReappearanceState}

section

variable (ids : (job.observations.map (·.sourceObservationId)).Nodup)

include ids

end

/-- The walk is in the rows alone: a worker that goes, or comes, leaves it where it was. -/
theorem Walks.reset (walks : Walks job state)
    (incomplete : status = .complete → state.status = .complete) :
    Walks job { state with
      world, status, attemptCount, working, raised, page := [], dispatched := false } := by
  obtain ⟨rest, whole, -, ended⟩ := walks.split
  exact ⟨⟨rest, whole, List.nil_prefix, fun complete => ended (incomplete complete)⟩,
    walks.resumes, walks.counted, walks.receipted⟩

theorem Walks.stop (walks : Walks job state) (raised : Option Raised) :
    Walks job (state.stop raised) :=
  walks.reset id

/-- A worker that ends early leaves its claim on the row, and a retry has to be left. -/
theorem Attempts.stop (attempts : Attempts job state)
    (delay : state.status = .running → (retryDelayByAttempt state.attemptCount).isSome)
    (stale : ∀ error ∈ raised, error = staleEvidence) : Attempts job (state.stop raised) := by
  refine ⟨attempts.published, attempts.unfailed, attempts.waiting, attempts.running, ?_, by rintro ⟨⟩,
    stale⟩
  intro running exhausted
  have left := delay running
  rw [show retryDelayByAttempt state.attemptCount = none from exhausted] at left
  cases left

/-- A recovered attempt waits for the next. -/
theorem Attempts.retried (attempts : Attempts job state) (bound : state.attemptCount ≤ 2) :
    Attempts job { state.stop none with status := .waiting } where
  published := attempts.published
  unfailed := by rintro ⟨⟩
  waiting _ := bound
  running := by rintro ⟨⟩
  last := by rintro ⟨⟩
  working := by rintro ⟨⟩
  stale := by rintro _ ⟨⟩

variable (ids : (job.observations.map (·.sourceObservationId)).Nodup)
  (populated : 0 < job.rowCount)

include ids populated

/-- What an attempt has left: the observations without a checkpoint, and where its worker
stands before the next of them; an attempt whose worker is gone has its recovery left. -/
def ReappearanceState.attemptLeft (job : ReappearanceJob) (state : ReappearanceState) : Nat :=
  match state.status, state.working, state.page with
  | .waiting, _, _ => 0
  | _, false, _ => 1
  | _, true, [] => 3 * (job.observations.length - state.visited.length) + 4
  | _, true, _ :: _ =>
    3 * (job.observations.length - state.visited.length) + if state.dispatched then 2 else 3

/-- What the job has left, the attempts after this one as long as they can be. -/
def ReappearanceState.remaining (job : ReappearanceJob) (state : ReappearanceState) : Nat :=
  (3 - state.attemptCount) * (3 * job.observations.length + 5) + state.attemptLeft job

end Keeping

/-- The steps of the worker and of those that claim for it and report what it raised. -/
def ReappearanceStep.Own : ReappearanceStep → Prop
  | .claimNext registered => registered = true
  | .readPage | .dispatch _ | .saveCheckpoint | .fail => True
  | .others _ | .crash | .recoverStale _ => False

end Soma.Imports
