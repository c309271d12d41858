import Mathlib.Data.List.Nodup
import Soma.Foundation.Errors

/-!
The two tables of the durable-job store as migrations 1 and 8 declare them.
`JobStore` carries the proof that its rows meet every declared constraint, and
a statement whose result would violate one raises and writes nothing. The
`json_valid` checks are left out: every document written here is the output of
the canonical encoder.
-/

namespace Soma.Jobs

open Foundation Transaction

/-- `durable_jobs.state`. -/
inductive JobState where
  | queued
  | running
  | waitingReview
  | retryWait
  | completed
  | failed
  | cancelled
  deriving DecidableEq

/-- `_NONTERMINAL_STATES`, and the states the partial unique index covers. -/
def JobState.nonterminal : JobState → Bool
  | .queued | .running | .waitingReview | .retryWait => true
  | .completed | .failed | .cancelled => false

def JobState.coalescible (state : JobState) : Bool :=
  state.nonterminal || state = .completed

/-- `job_attempts.outcome`. -/
inductive AttemptOutcome where
  | completed
  | failed
  | cancelled
  | interrupted
  deriving DecidableEq

/-- A row of `durable_jobs`. -/
structure Job where
  jobId : String
  jobType : String
  contractVersion : Nat
  state : JobState
  createdAtUtc : Int
  updatedAtUtc : Int
  attemptCount : Nat
  nextAttemptAtUtc : Option Int
  claimedRunId : Option String
  claimStartedAtUtc : Option Int
  payloadJson : String
  checkpointJson : Option String
  lastErrorCode : Option String
  dedupeSha256 : Option String
  deriving DecidableEq

structure JobAttempt where
  attemptId : String
  jobId : String
  ordinal : Nat
  runId : String
  startedAtUtc : Int
  finishedAtUtc : Int
  outcome : AttemptOutcome
  errorCode : Option String

/-- Column checks of `durable_jobs`. -/
def Job.Checks (job : Job) : Prop :=
  0 < job.contractVersion ∧ 0 ≤ job.createdAtUtc ∧ job.createdAtUtc ≤ job.updatedAtUtc ∧
  ((job.state = .running ∧ job.claimedRunId.isSome ∧ job.claimStartedAtUtc.isSome) ∨
    (job.state ≠ .running ∧ job.claimedRunId = none ∧ job.claimStartedAtUtc = none)) ∧
  (∀ digest ∈ job.dedupeSha256, isSha256 digest = true)

instance (job : Job) : Decidable job.Checks :=
  inferInstanceAs (Decidable (_ ∧ _ ∧ _ ∧ _ ∧ _))

def JobAttempt.Checks (attempt : JobAttempt) : Prop :=
  0 < attempt.ordinal ∧ 0 ≤ attempt.startedAtUtc ∧ attempt.startedAtUtc ≤ attempt.finishedAtUtc

instance (attempt : JobAttempt) : Decidable attempt.Checks :=
  inferInstanceAs (Decidable (_ ∧ _ ∧ _))

/-- The identity coalescing compares: type, version and digest of the dedupe key. -/
def Job.identity (job : Job) : String × Nat × Option String :=
  (job.jobType, job.contractVersion, job.dedupeSha256)

/-- Rows in the scope of `uq_jobs_active_dedupe`. -/
def Job.inActiveIndex (job : Job) : Bool :=
  job.dedupeSha256.isSome && job.state.nonterminal

/-- The rows of both tables, in insertion order. -/
structure Rows where
  jobs : List Job
  attempts : List JobAttempt

/-- The declared constraints of both tables. -/
@[mk_iff]
structure Rows.Constraints (rows : Rows) : Prop where
  jobIds : (rows.jobs.map (·.jobId)).Nodup
  jobChecks : ∀ job ∈ rows.jobs, job.Checks
  activeDedupe : ((rows.jobs.filter (·.inActiveIndex)).map (·.identity)).Nodup
  attemptIds : (rows.attempts.map (·.attemptId)).Nodup
  attemptChecks : ∀ attempt ∈ rows.attempts, attempt.Checks
  attemptJobs : ∀ attempt ∈ rows.attempts, attempt.jobId ∈ rows.jobs.map (·.jobId)
  attemptOrdinals : (rows.attempts.map fun attempt => (attempt.jobId, attempt.ordinal)).Nodup

instance (rows : Rows) : Decidable rows.Constraints :=
  decidable_of_iff' _ (Rows.constraints_iff rows)

/-- The durable-job tables: rows together with the constraints they meet. -/
structure JobStore extends Rows where
  constraints : toRows.Constraints

/-- A freshly migrated store. -/
def JobStore.empty : JobStore where
  jobs := []
  attempts := []
  constraints := by constructor <;> simp

theorem JobStore.ext {store store' : JobStore} (same : store.toRows = store'.toRows) :
    store = store' := by
  cases store; cases store'; cases same; rfl

/-- One transaction over the durable-job tables. -/
abbrev UnitOfWork (Result : Type) := Body JobStore Raised Result

/-- Replaces the rows, unless that violates a declared constraint. -/
def write (rows : Rows) : UnitOfWork Unit :=
  setChecked rows.Constraints (fun valid => ⟨rows, valid⟩) .other

/-- `INSERT INTO durable_jobs`. -/
def insertJob (job : Job) : UnitOfWork Unit := do
  let store ← get
  write ⟨store.jobs ++ [job], store.attempts⟩

/-- `INSERT INTO job_attempts`. -/
def insertAttemptRow (attempt : JobAttempt) : UnitOfWork Unit := do
  let store ← get
  write ⟨store.jobs, store.attempts ++ [attempt]⟩

/-- `UPDATE durable_jobs SET .. WHERE ..`, returning `changes()`. -/
def updateJobs (selects : Job → Bool) (assign : Job → Job) : UnitOfWork Nat := do
  let store ← get
  write ⟨store.jobs.map fun job => if selects job then assign job else job, store.attempts⟩
  return (store.jobs.filter selects).length

/-- `SELECT .. FROM durable_jobs WHERE ..`, `fetchall`. -/
def selectJobs (selects : Job → Bool) : UnitOfWork (List Job) := do
  return (← get).jobs.filter selects

/-- `SELECT .. FROM durable_jobs WHERE job_id=? ..`, `fetchone`. -/
def selectJob (selects : Job → Bool) : UnitOfWork (Option Job) := do
  return (← get).jobs.find? selects

/-- `SELECT .. FROM job_attempts WHERE job_id=? AND ordinal=?`, `fetchone`. -/
def selectAttempt (jobId : String) (ordinal : Nat) : UnitOfWork (Option JobAttempt) := do
  return (← get).attempts.find? fun attempt => attempt.jobId = jobId ∧ attempt.ordinal = ordinal

/-- The rows with the job of the same id replaced. -/
def Rows.put (rows : Rows) (job : Job) : Rows :=
  ⟨rows.jobs.map fun row => if row.jobId = job.jobId then job else row, rows.attempts⟩

theorem mem_put {rows : Rows} (member : row ∈ (rows.put job).jobs) :
    row = job ∨ (row ∈ rows.jobs ∧ row.jobId ≠ job.jobId) := by
  obtain ⟨old, stored, rfl⟩ := List.mem_map.mp member
  by_cases same : old.jobId = job.jobId
  · exact .inl (if_pos same)
  · rw [if_neg same]
    exact .inr ⟨stored, same⟩

theorem mem_put_of_ne {rows : Rows} {job : Job} (stored : row ∈ rows.jobs)
    (other : row.jobId ≠ job.jobId) : row ∈ (rows.put job).jobs :=
  List.mem_map.mpr ⟨row, stored, if_neg other⟩

theorem mem_put_self {rows : Rows} {job : Job} (stored : row ∈ rows.jobs)
    (same : row.jobId = job.jobId) : job ∈ (rows.put job).jobs :=
  List.mem_map.mpr ⟨row, stored, if_pos same⟩

/-- The rows with one more attempt at the end of its table. -/
def Rows.log (rows : Rows) (attempt : JobAttempt) : Rows :=
  ⟨rows.jobs, rows.attempts ++ [attempt]⟩

/-! ## What a statement that returned has done -/

section Statements

variable {store next : JobStore} {rows : Rows} {job row : Job} {attempt : JobAttempt}
variable {selects : Job → Bool} {assign : Job → Job}

theorem write_ok : (write rows).run store = .ok (value, next) ↔ next.toRows = rows := by
  rw [write, setChecked_ok]
  exact ⟨fun ⟨_, same⟩ => same ▸ rfl,
    fun same => ⟨same ▸ next.constraints, JobStore.ext same.symm⟩⟩

theorem insertJob_ok : (insertJob job).run store = .ok (value, next) ↔
    next.toRows = ⟨store.jobs ++ [job], store.attempts⟩ := by
  simp only [insertJob, steps_ok, write_ok]

theorem insertAttemptRow_ok :
    (insertAttemptRow attempt).run store = .ok (value, next) ↔
      next.toRows = store.toRows.log attempt := by
  simp only [insertAttemptRow, steps_ok, write_ok, Rows.log]

theorem updateJobs_ok :
    (updateJobs selects assign).run store = .ok (changes, next) ↔
      next.toRows =
        ⟨store.jobs.map fun job => if selects job then assign job else job, store.attempts⟩ ∧
      (store.jobs.filter selects).length = changes := by
  simp only [updateJobs, steps_ok, write_ok]
  constructor
  · rintro ⟨_, wrote, counted, rfl⟩
    exact ⟨wrote, counted⟩
  · exact fun ⟨wrote, counted⟩ => ⟨_, wrote, counted, rfl⟩

theorem selectJobs_ok : (selectJobs selects).run store = .ok (found, next) ↔
    store.jobs.filter selects = found ∧ store = next := by
  simp only [selectJobs, steps_ok]

theorem selectJob_ok : (selectJob selects).run store = .ok (found, next) ↔
    store.jobs.find? selects = found ∧ store = next := by
  simp only [selectJob, steps_ok]

theorem selectAttempt_ok :
    (selectAttempt jobId ordinal).run store = .ok (found, next) ↔
      (store.attempts.find? fun attempt =>
        attempt.jobId = jobId ∧ attempt.ordinal = ordinal) = found ∧ store = next := by
  simp only [selectAttempt, steps_ok]

section

variable (member : job ∈ store.jobs)

include member

/-- `job_id` is a primary key. -/
theorem job_unique (member' : row ∈ store.jobs)
    (same : row.jobId = job.jobId) : row = job :=
  List.inj_on_of_nodup_map store.constraints.jobIds member' member same

theorem running_iff_claimed :
    job.state = .running ↔ job.claimedRunId.isSome ∧ job.claimStartedAtUtc.isSome := by
  obtain ⟨_, _, _, shape, _⟩ := store.constraints.jobChecks job member
  rcases shape with ⟨running, run, started⟩ | ⟨idle, run, _⟩
  · exact ⟨fun _ => ⟨run, started⟩, fun _ => running⟩
  · exact ⟨fun running => absurd running idle, fun claimed => by simp [run] at claimed⟩

theorem update_one (selected : selects job = true)
    (only : ∀ row ∈ store.jobs, selects row = true → row.jobId = job.jobId)
    (keyed : (assign job).jobId = job.jobId) :
    (⟨store.jobs.map fun row => if selects row then assign row else row, store.attempts⟩ : Rows) =
      store.toRows.put (assign job) := by
  simp only [Rows.put, Rows.mk.injEq, and_true, keyed]
  refine List.map_congr_left fun row member' => ?_
  by_cases same : row.jobId = job.jobId
  · rw [job_unique member member' same, if_pos selected, if_pos rfl]
  · rw [if_neg same, if_neg fun chosen => same (only row member' chosen)]

theorem selected_of_changes (only : ∀ row ∈ store.jobs, selects row = true → row.jobId = job.jobId)
    (changed : (store.jobs.filter selects).length = 1) : selects job = true := by
  obtain ⟨row, chosen⟩ := List.length_eq_one_iff.mp changed
  have found : row ∈ store.jobs.filter selects := chosen ▸ List.mem_singleton_self row
  obtain ⟨stored, selected⟩ := List.mem_filter.mp found
  rw [← job_unique member stored (only row stored selected)]
  exact selected

end

end Statements

end Soma.Jobs
