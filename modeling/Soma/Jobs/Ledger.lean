import Soma.Jobs.Changes
import Soma.Theory.Grants

/-!
Runs of the coordinator and the attempt ledger. An interleaving of any number
of application runs is a list of calls, each one committed transaction on the
contracts its run has registered; `serve` is the store it leaves. Per job, a
change of the tables is a step of the numbered-grant bookkeeping
(`change_simulates`), so the ledger invariant of that bookkeeping holds of
`durable_jobs` and `job_attempts` in every reachable state (`attempt_ledger`).
-/

namespace Soma.Jobs

open Foundation Transaction Execution Grants

/-- A coordinator call that runs in one transaction, with the clock reading and
the fresh ids it draws. -/
inductive Operation where
  | enqueueOrCoalesce (jobType : String) (contractVersion : Nat) (payload : Json)
      (dedupeKey : String) (clock : Int) (newJobId : Uuid4)
  | claimNext (runId : String) (now : Int)
  | checkpoint (claim : DurableJobClaim) (checkpoint : Json) (clock : Int)
  | complete (claim : DurableJobClaim) (clock : Int) (attemptId : String)
  | fail (claim : DurableJobClaim) (errorCode : String) (retryAt : Option Int) (clock : Int)
      (attemptId : String)
  | cancel (jobId expectedJobType : String) (expectedContractVersion : Nat)
      (commandContext : Json) (clock : Int) (attemptId : String)
  | recoverLegacyJob (jobId : String) (now : Int) (attemptId : String)
  | recoverStaleJob (currentRunId jobId : String) (now : Int) (attemptId : String)
  | reconcileRestoredJobs (restoreContext : Option Json) (clock : Int)
      (attemptIds : String → String)

/-- What a coordinator call returns. -/
inductive Reply where
  | enqueued (jobId : String)
  | claimed (claim : Option DurableJobClaim)
  | checkpointed (checkpointJson : String)
  | settled
  | cancelled (result : DurableJobCancellationResult)
  | recovered (result : RecoveryResult)
  | reconciled (result : RestoreJobReconciliation)
  deriving DecidableEq

section Runs

variable (python : PythonLibrary) (registry : JobTypeRegistry)

/-- The transaction body of an operation. -/
def perform : Operation → UnitOfWork Reply
  | .enqueueOrCoalesce jobType contractVersion payload dedupeKey clock newJobId =>
    .enqueued <$> enqueueOrCoalesce python registry jobType contractVersion payload dedupeKey
      clock newJobId
  | .claimNext runId now => .claimed <$> claimNext python registry runId now
  | .checkpoint claim checkpoint clock =>
    .checkpointed <$> checkpointInUow python registry claim checkpoint clock
  | .complete claim clock attemptId =>
    (fun _ => .settled) <$> complete python registry claim clock attemptId
  | .fail claim errorCode retryAt clock attemptId =>
    (fun _ => .settled) <$> fail python registry claim errorCode retryAt clock attemptId
  | .cancel jobId jobType contractVersion context clock attemptId =>
    .cancelled <$> cancel registry jobId jobType contractVersion context clock attemptId
  | .recoverLegacyJob jobId now attemptId => .recovered <$> recoverLegacyJob jobId now attemptId
  | .recoverStaleJob currentRunId jobId now attemptId =>
    .recovered <$> recoverStaleJob python registry currentRunId jobId now attemptId
  | .reconcileRestoredJobs context clock attemptIds =>
    .reconciled <$> reconcileRestoredJobs context clock attemptIds

/-- Runs one operation as a transaction. -/
def execute (store : JobStore) (operation : Operation) : Except Raised Reply × JobStore :=
  commit (perform python registry operation) store

/-- The store after a sequence of operations. -/
def resume (store : JobStore) (operations : List Operation) : JobStore :=
  operations.foldl (fun store operation => (execute python registry store operation).2) store

/-- The store operations on one registry leave, from an empty one. -/
def history (operations : List Operation) : JobStore :=
  resume python registry .empty operations

/-- One loop of `recover_stale_claims` over the ids it listed: a transaction
for each, stopping at the first that raises. -/
def recoverLoop (recover : String → UnitOfWork RecoveryResult) :
    List String → List RecoveryResult → JobStore → Except Raised (List RecoveryResult) × JobStore
  | [], results, store => (.ok results, store)
  | jobId :: jobIds, results, store =>
    match commit (recover jobId) store with
    | (.ok result, next) => recoverLoop recover jobIds (results ++ [result]) next
    | (.error error, next) => (.error error, next)

/-- The counts `recover_stale_claims` reports for what its transactions did. -/
def summarize (results : List RecoveryResult) : DurableJobRecoverySummary :=
  let states (state : JobState) : Nat := results.countP fun result => match result with
    | .recovered _ ended => ended = state
    | .skipped => false
  { examinedCount := results.length
    interruptedCount := results.countP fun result => match result with
      | .recovered interrupted _ => interrupted
      | .skipped => false
    queuedCount := states .queued, retryWaitCount := states .retryWait
    waitingReviewCount := states .waitingReview, failedCount := states .failed
    skippedCount := results.countP (· = .skipped) }

/-- Ids in the order `_list_job_ids` returns them. -/
def listJobIds (selects : Job → Bool) (store : JobStore) : List String :=
  ((store.jobs.filter selects).map (·.jobId)).insertionSort (· ≤ ·)

/-- `recover_stale_claims`, run without interruption. -/
def recoverStaleClaims (currentRunId : String) (now : Int) (attemptIds : String → String)
    (store : JobStore) : Except Raised DurableJobRecoverySummary × JobStore :=
  match (do requireUuid4 currentRunId; validateTime now "now" : Except Raised Unit) with
  | .error error => (.error error, store)
  | .ok _ =>
    let legacy := listJobIds (fun job => job.dedupeSha256 = none ∧ job.state.nonterminal) store
    match recoverLoop (fun jobId => recoverLegacyJob jobId now (attemptIds jobId)) legacy [] store with
    | (.error error, next) => (.error error, next)
    | (.ok results, next) =>
      let stale := listJobIds (fun job => job.state = .running ∧ job.dedupeSha256 ≠ none ∧
        ∃ runId ∈ job.claimedRunId, runId ≠ currentRunId) next
      match recoverLoop (fun jobId => recoverStaleJob python registry currentRunId jobId now
          (attemptIds jobId)) stale results next with
      | (.error error, last) => (.error error, last)
      | (.ok results, last) => (.ok (summarize results), last)

end Runs

/-- An operation an application run calls, on the contracts that run has registered. -/
structure Call where
  registry : JobTypeRegistry
  operation : Operation

/-- The store the calls of any number of runs leave. -/
def serve (python : PythonLibrary) (store : JobStore) (calls : List Call) : JobStore :=
  calls.foldl (fun store call => (execute python call.registry store call.operation).2) store

variable {python : PythonLibrary} {registry : JobTypeRegistry} {store next : JobStore}

theorem map_ok {Result Final : Type} {body : UnitOfWork Result} {view : Result → Final}
    {final : Final} (ran : (view <$> body).run store = .ok (final, next)) :
    ∃ value, view value = final ∧ body.run store = .ok (value, next) := by
  rw [map_eq_pure_bind, bind_ok] at ran
  obtain ⟨value, _, first, rest⟩ := ran
  obtain ⟨same, rfl⟩ := pure_ok.mp rest
  exact ⟨value, same, first⟩

/-- A transaction that returned is a run of changes. -/
theorem perform_changes {operation : Operation} {reply : Reply}
    (ran : (perform python registry operation).run store = .ok (reply, next)) :
    Later (Change python registry) store.toRows next.toRows := by
  cases operation with
  | enqueueOrCoalesce =>
    obtain ⟨_, _, ran⟩ := map_ok ran
    exact enqueue_changes ran
  | claimNext =>
    obtain ⟨_, _, ran⟩ := map_ok ran
    exact claimNext_changes ran
  | checkpoint =>
    obtain ⟨_, _, ran⟩ := map_ok ran
    exact checkpoint_changes ran
  | complete =>
    obtain ⟨_, _, ran⟩ := map_ok ran
    obtain ⟨_, ended, _⟩ := complete_ok ran
    exact ended.changes
  | fail =>
    obtain ⟨_, _, ran⟩ := map_ok ran
    obtain ⟨_, ended, _⟩ := fail_ok ran
    exact ended.changes
  | cancel =>
    obtain ⟨_, _, ran⟩ := map_ok ran
    rcases cancel_ok ran with ⟨rfl, _⟩ | ⟨_, ended, _⟩
    · exact .refl
    · exact ended.changes
  | recoverLegacyJob =>
    obtain ⟨_, _, ran⟩ := map_ok ran
    rcases recoverLegacyJob_ok ran with ⟨_, rfl, _⟩ | ⟨_, ended, _⟩
    · exact .refl
    · exact ended.changes
  | recoverStaleJob =>
    obtain ⟨_, _, ran⟩ := map_ok ran
    rcases recoverStaleJob_ok ran with ⟨_, rfl, _⟩ | ⟨_, ended, _⟩
    · exact .refl
    · exact ended.changes
  | reconcileRestoredJobs =>
    obtain ⟨_, _, ran⟩ := map_ok ran
    exact (reconcile_ok python registry ran).1

theorem execute_changes (operation : Operation) :
    Later (Change python registry) store.toRows
      (execute python registry store operation).2.toRows := by
  cases outcome : (execute python registry store operation).1 with
  | ok reply => exact perform_changes (commit_ok outcome)
  | error error =>
    have same : (execute python registry store operation).2 = store := commit_error outcome
    rw [same]

variable (python registry) in
theorem resume_changes (operations : List Operation) :
    Later (Change python registry) store.toRows
      (resume python registry store operations).toRows := by
  induction operations generalizing store with
  | nil => exact .refl
  | cons operation operations ih => exact (execute_changes operation).trans ih

theorem resume_cons (operation : Operation) (operations : List Operation) :
    resume python registry store (operation :: operations) =
      resume python registry (execute python registry store operation).2 operations :=
  rfl

theorem resume_append (operations more : List Operation) :
    resume python registry store (operations ++ more) =
      resume python registry (resume python registry store operations) more :=
  List.foldl_append

theorem serve_append (calls more : List Call) :
    serve python store (calls ++ more) = serve python (serve python store calls) more :=
  List.foldl_append

theorem resume_serves (operations : List Operation) :
    resume python registry store operations =
      serve python store (operations.map (Call.mk registry)) := by
  rw [resume, serve, List.foldl_map]

/-- A change by a run with some registry. -/
def AnyChange (python : PythonLibrary) (rows rows' : Rows) : Prop :=
  ∃ registry, Change python registry rows rows'

variable (python) in
theorem serve_changes (calls : List Call) :
    Later (AnyChange python) store.toRows (serve python store calls).toRows := by
  induction calls generalizing store with
  | nil => exact .refl
  | cons call calls ih =>
    have lifts : Change python call.registry ≤ AnyChange python := fun _ _ change => ⟨_, change⟩
    exact (Relation.ReflTransGen.mono lifts _ _ (execute_changes call.operation)).trans ih

theorem commit_map {Result Final : Type} {body : UnitOfWork Result} {view : Result → Final} :
    (commit (view <$> body) store).2 = (commit body store).2 := by
  have mapped : (view <$> body).run store =
      (body.run store).map fun pair => (view pair.1, pair.2) := by
    rw [StateT.run_map]
    cases body.run store <;> rfl
  unfold commit
  rw [mapped]
  cases body.run store <;> rfl

variable (python registry store) in
/-- A recovery loop is a run of its transactions, up to the first that raises. -/
theorem recoverLoop_run (recover : String → UnitOfWork RecoveryResult)
    (operation : String → Operation)
    (performs : ∀ jobId, perform python registry (operation jobId) = .recovered <$> recover jobId)
    (jobIds : List String) (results : List RecoveryResult) :
    ∃ done, done <+: jobIds ∧ (recoverLoop recover jobIds results store).2 =
      resume python registry store (done.map operation) := by
  induction jobIds generalizing store results with
  | nil => exact ⟨[], List.prefix_rfl, rfl⟩
  | cons jobId jobIds ih =>
    have same : (execute python registry store (operation jobId)).2 =
        (commit (recover jobId) store).2 := by
      rw [execute, performs, commit_map]
    unfold recoverLoop
    split
    · rename_i result next outcome
      rw [outcome] at same
      obtain ⟨done, listed, rest⟩ := ih next (results ++ [result])
      refine ⟨jobId :: done, (List.prefix_cons_inj jobId).mpr listed, ?_⟩
      rw [rest, List.map_cons, resume_cons, same]
    · rename_i error next outcome
      rw [outcome] at same
      refine ⟨[jobId], by simp, ?_⟩
      rw [List.map_singleton, resume_cons, same]
      rfl

/-- `recover_stale_claims` is one of the interleavings: legacy recoveries, then
stale recoveries, each its own transaction. -/
theorem recoverStaleClaims_run (currentRunId : String) (now : Int)
    (attemptIds : String → String) :
    ∃ legacy stale : List String,
      (recoverStaleClaims python registry currentRunId now attemptIds store).2 =
        resume python registry store
          (legacy.map (fun jobId => .recoverLegacyJob jobId now (attemptIds jobId)) ++
           stale.map fun jobId => .recoverStaleJob currentRunId jobId now (attemptIds jobId)) := by
  unfold recoverStaleClaims
  split
  · exact ⟨[], [], rfl⟩
  · obtain ⟨legacy, _, first⟩ := recoverLoop_run python registry store
      (fun jobId => recoverLegacyJob jobId now (attemptIds jobId))
      (fun jobId => .recoverLegacyJob jobId now (attemptIds jobId)) (fun _ => rfl)
      (listJobIds (fun job => job.dedupeSha256 = none ∧ job.state.nonterminal) store) []
    dsimp only
    split
    · rename_i error next outcome
      rw [outcome] at first
      exact ⟨legacy, [], by rw [List.map_nil, List.append_nil]; exact first⟩
    · rename_i results next outcome
      rw [outcome] at first
      obtain ⟨stale, _, second⟩ := recoverLoop_run python registry next
        (fun jobId => recoverStaleJob python registry currentRunId jobId now (attemptIds jobId))
        (fun jobId => .recoverStaleJob currentRunId jobId now (attemptIds jobId)) (fun _ => rfl)
        (listJobIds (fun job => job.state = .running ∧ job.dedupeSha256 ≠ none ∧
          ∃ runId ∈ job.claimedRunId, runId ≠ currentRunId) next) results
      have reached : next = resume python registry store
        (legacy.map fun jobId => .recoverLegacyJob jobId now (attemptIds jobId)) := first
      refine ⟨legacy, stale, ?_⟩
      rw [resume_append, ← reached]
      split <;> (rename_i outcome'; rw [outcome'] at second; exact second)

/-! ## The changes of one job -/

/-- Attempt ordinals recorded for a job, oldest row first. -/
def Rows.ordinals (rows : Rows) (jobId : String) : List Nat :=
  (rows.attempts.filter (·.jobId = jobId)).map (·.ordinal)

/-- The stored row of a job. -/
def Rows.job? (rows : Rows) (jobId : String) : Option Job :=
  rows.jobs.find? (·.jobId = jobId)

/-- The bookkeeping of one job's attempts. -/
def Rows.book (rows : Rows) (jobId : String) : Book :=
  match rows.job? jobId with
  | some job => ⟨job.attemptCount, job.state = .running, rows.ordinals jobId⟩
  | none => ⟨0, false, rows.ordinals jobId⟩

/-- `job_id` is a key of the job table. -/
def Rows.Keyed (rows : Rows) : Prop := (rows.jobs.map (·.jobId)).Nodup

section Rows

variable {rows rows' : Rows} {job job' row : Job} {jobId : String}

theorem keyed_unique (keyed : rows.Keyed) (member : job ∈ rows.jobs) (member' : row ∈ rows.jobs)
    (same : row.jobId = job.jobId) : row = job :=
  List.inj_on_of_nodup_map keyed member' member same

theorem job?_eq_some_iff (keyed : rows.Keyed) :
    rows.job? jobId = some job ↔ job ∈ rows.jobs ∧ job.jobId = jobId := by
  constructor
  · intro found
    exact Rows.key_of_find? found
  · rintro ⟨member, rfl⟩
    exact Rows.find?_eq_some keyed member

theorem put_jobIds : (rows.put job').jobs.map (·.jobId) = rows.jobs.map (·.jobId) := by
  rw [Rows.put, List.map_map]
  refine List.map_congr_left fun row _ => ?_
  by_cases own : row.jobId = job'.jobId <;> simp [own]

section

variable (keyed : rows.Keyed)

include keyed

theorem put_keyed : (rows.put job').Keyed := by
  rw [Rows.Keyed, put_jobIds]
  exact keyed

theorem job?_put_self (member : job ∈ rows.jobs)
    (same : job'.jobId = job.jobId) : (rows.put job').job? job.jobId = some job' :=
  (job?_eq_some_iff (put_keyed keyed)).mpr ⟨mem_put_self member same.symm, same⟩

theorem job?_put_other (other : jobId ≠ job'.jobId) :
    (rows.put job').job? jobId = rows.job? jobId := by
  refine Option.ext fun row => ?_
  rw [job?_eq_some_iff (put_keyed keyed), job?_eq_some_iff keyed]
  constructor
  · rintro ⟨member, rfl⟩
    rcases mem_put member with rfl | ⟨stored, _⟩
    · exact absurd rfl other
    · exact ⟨stored, rfl⟩
  · rintro ⟨stored, rfl⟩
    exact ⟨mem_put_of_ne stored other, rfl⟩

theorem book_stored (member : job ∈ rows.jobs) :
    rows.book job.jobId =
      ⟨job.attemptCount, job.state = .running, rows.ordinals job.jobId⟩ := by
  rw [Rows.book, (job?_eq_some_iff keyed).mpr ⟨member, rfl⟩]

theorem book_put_self (member : job ∈ rows.jobs)
    (same : job'.jobId = job.jobId) : (rows.put job').book job.jobId =
      ⟨job'.attemptCount, job'.state = .running, rows.ordinals job.jobId⟩ := by
  rw [Rows.book, job?_put_self keyed member same]
  rfl

theorem book_put_other (other : jobId ≠ job'.jobId) :
    (rows.put job').book jobId = rows.book jobId := by
  rw [Rows.book, Rows.book, job?_put_other keyed other]
  rfl

end

theorem ordinals_log {attempt : JobAttempt} : (rows.log attempt).ordinals jobId =
    rows.ordinals jobId ++ if attempt.jobId = jobId then [attempt.ordinal] else [] := by
  by_cases own : attempt.jobId = jobId <;> simp [Rows.ordinals, Rows.log, List.filter_append, own]

theorem logged_iff : rows.Logged jobId ordinal ↔ ordinal ∈ rows.ordinals jobId := by
  simp only [Rows.Logged, Rows.ordinals, List.mem_map, List.mem_filter, decide_eq_true_eq]
  exact ⟨fun ⟨attempt, member, owner, numbered⟩ => ⟨attempt, ⟨member, owner⟩, numbered⟩,
    fun ⟨attempt, ⟨member, owner⟩, numbered⟩ => ⟨attempt, member, owner, numbered⟩⟩

end Rows

section Simulation

variable {rows rows' : Rows}

theorem change_keyed (change : Change python registry rows rows') (keyed : rows.Keyed) :
    rows'.Keyed := by
  cases change with
  | enqueue prepared newJobId now admitted alone fresh =>
    rw [Rows.Keyed, List.map_append, List.nodup_append']
    exact ⟨keyed, List.nodup_singleton _, List.disjoint_singleton.mpr fresh⟩
  | settle => exact put_keyed keyed
  | claim => exact put_keyed keyed
  | checkpoint => exact put_keyed keyed
  | release => exact put_keyed keyed
  | withdraw => exact put_keyed keyed

/-- A replaced row, seen through every job's bookkeeping: one step for its own
job, nothing for another. -/
theorem put_simulates (keyed : rows.Keyed) (member : job ∈ rows.jobs) (work : job.SameWork job')
    (own : Later Grants.Step
      ⟨job.attemptCount, job.state = .running, rows.ordinals job.jobId⟩
      ⟨job'.attemptCount, job'.state = .running, rows.ordinals job.jobId⟩) (jobId : String) :
    Later Grants.Step (rows.book jobId) ((rows.put job').book jobId) := by
  by_cases asked : jobId = job.jobId
  · subst asked
    rw [book_stored keyed member, book_put_self keyed member work.jobId]
    exact own
  · rw [book_put_other keyed (work.jobId ▸ asked)]

/-- **Each change is a step of one job's numbered grants**, provided the
bookkeeping was well kept before. -/
theorem change_simulates (change : Change python registry rows rows') (keyed : rows.Keyed)
    (kept : ∀ jobId, WellKept (rows.book jobId)) (jobId : String) :
    Later Grants.Step (rows.book jobId) (rows'.book jobId) := by
  cases change with
  | enqueue prepared newJobId now admitted alone fresh =>
    by_cases asked : jobId = newJobId.value
    · subst asked
      have missing : rows.job? newJobId.value = none := List.find?_eq_none.mpr fun row member => by
        have other : row.jobId ≠ newJobId.value := fun same =>
          fresh (same ▸ List.mem_map_of_mem member)
        simpa using other
      have found : (⟨rows.jobs ++ [queuedJob prepared newJobId.value now], rows.attempts⟩ :
          Rows).job? newJobId.value = some (queuedJob prepared newJobId.value now) := by
        rw [Rows.job?] at missing ⊢
        rw [List.find?_append, missing]
        simp [queuedJob]
      rw [Rows.book, Rows.book, missing, found]
      exact .refl
    · have same : (⟨rows.jobs ++ [queuedJob prepared newJobId.value now], rows.attempts⟩ :
          Rows).job? jobId = rows.job? jobId := by
        simp [Rows.job?, List.find?_append, queuedJob, Ne.symm asked]
      rw [Rows.book, Rows.book, same]
      rfl
  | claim job job' member idle work running counted =>
    refine put_simulates keyed member work ?_ jobId
    have free : decide (job.state = .running) = false := by
      rcases idle with same | same <;> rw [same] <;> rfl
    rw [counted, running]
    exact .single (Grants.Step.issue ⟨_, _, _⟩ free)
  | checkpoint job job' member running work held counted =>
    refine put_simulates keyed member work ?_ jobId
    rw [counted, running, held]
  | settle job job' attempt member running work ended counted owner numbered unlogged =>
    have keyed' : (rows.log attempt).Keyed := keyed
    by_cases asked : jobId = job.jobId
    · subst asked
      rw [book_stored keyed member, book_put_self keyed' member work.jobId, ordinals_log,
        if_pos owner, numbered, counted, decide_eq_false ended]
      exact .single (Grants.Step.settle ⟨_, _, _⟩ (decide_eq_true running))
    · rw [book_put_other keyed' (work.jobId ▸ asked)]
      simp only [Rows.book, ordinals_log, owner, if_neg (Ne.symm asked), List.append_nil]
      rfl
  | release job job' member running work ended counted logged =>
    -- the ledger has no row yet for a running attempt
    have unlogged := outstanding_unlogged (kept job.jobId)
    rw [book_stored keyed member] at unlogged
    exact absurd (logged_iff.mp logged) (unlogged (decide_eq_true running))
  | withdraw job job' member idle active work terminal counted =>
    refine put_simulates keyed member work ?_ jobId
    have idle' : job'.state ≠ .running := by
      intro running
      rw [running] at terminal
      exact Bool.noConfusion terminal
    rw [counted, decide_eq_false idle, decide_eq_false idle']

theorem change_terminal (change : Change python registry rows rows') (keyed : rows.Keyed)
    (member : job ∈ rows.jobs) (terminal : job.state.nonterminal = false) : job ∈ rows'.jobs := by
  -- a replaced row was open, so it is not this one
  have kept : ∀ {changed job' : Job}, changed ∈ rows.jobs → changed.state.nonterminal = true →
      changed.SameWork job' → job ∈ (rows.put job').jobs := by
    intro changed job' stored active work
    refine mem_put_of_ne member fun same => ?_
    rw [keyed_unique keyed stored member (same.trans work.jobId), active] at terminal
    exact Bool.noConfusion terminal
  cases change with
  | enqueue => exact List.mem_append_left _ member
  | claim changed job' stored idle work running counted =>
    refine kept stored ?_ work
    rcases idle with same | same <;> rw [same] <;> rfl
  | checkpoint changed job' stored running work => exact kept stored (running_nonterminal running) work
  | settle changed job' attempt stored running work => exact kept stored (running_nonterminal running) work
  | release changed job' stored running work => exact kept stored (running_nonterminal running) work
  | withdraw changed job' stored idle active work => exact kept stored active work

/-- What every run of changes keeps: job ids are keys, and the attempt ledger
of every job is well kept. -/
structure Ledger (rows : Rows) : Prop where
  keyed : rows.Keyed
  kept : ∀ jobId, WellKept (rows.book jobId)

theorem empty_ledger : Ledger JobStore.empty.toRows :=
  ⟨List.nodup_nil, fun _ => blank_well_kept⟩

theorem change_ledger (ledger : Ledger rows) (change : Change python registry rows rows') :
    Ledger rows' :=
  ⟨change_keyed change ledger.keyed, fun jobId =>
    later_well_kept (change_simulates change ledger.keyed ledger.kept jobId) (ledger.kept jobId)⟩

section

variable (later : Later (AnyChange python) rows rows')

include later

theorem later_ledger (ledger : Ledger rows) : Ledger rows' :=
  Later.preserves Ledger (fun _ _ held ⟨_, change⟩ => change_ledger held change) later ledger

theorem later_book (ledger : Ledger rows)
    (jobId : String) : Later Grants.Step (rows.book jobId) (rows'.book jobId) :=
  Later.simulates Ledger (fun rows : Rows => rows.book jobId)
    (fun _ _ held ⟨_, change⟩ => change_ledger held change)
    (fun _ _ held ⟨_, change⟩ => change_simulates change held.keyed held.kept jobId) later ledger

theorem later_terminal (ledger : Ledger rows) (member : job ∈ rows.jobs)
    (terminal : job.state.nonterminal = false) : job ∈ rows'.jobs :=
  (Later.preserves (fun rows => Ledger rows ∧ job ∈ rows.jobs)
    (fun _ _ held ⟨_, change⟩ => ⟨change_ledger held.1 change,
      change_terminal change held.1.keyed held.2 terminal⟩) later ⟨ledger, member⟩).2

end

end Simulation

variable (python) in
theorem serve_ledger (calls : List Call) : Ledger (serve python .empty calls).toRows :=
  later_ledger (serve_changes python calls) empty_ledger

/-- **The durable-job attempt ledger.** After any interleaving of the calls of any
number of runs, each on the contracts of its own build, the ordinals recorded for a job
are exactly `1..attempt_count` in order, without `attempt_count` while the job runs; a
job runs exactly when its claim fields are set; and a completed, failed or cancelled job
is never written again, whatever calls follow. -/
theorem attempt_ledger (python : PythonLibrary) (calls more : List Call) :
    (∀ job ∈ (serve python .empty calls).jobs,
      (serve python .empty calls).ordinals job.jobId =
          List.range' 1 (if job.state = .running then job.attemptCount - 1 else job.attemptCount) ∧
      (job.state = .running → 0 < job.attemptCount) ∧
      (job.state = .running ↔ job.claimedRunId.isSome ∧ job.claimStartedAtUtc.isSome)) ∧
    ∀ job ∈ (serve python .empty calls).jobs,
      job.state = .completed ∨ job.state = .failed ∨ job.state = .cancelled →
      job ∈ (serve python .empty (calls ++ more)).jobs := by
  have ledger := serve_ledger python calls
  constructor
  · intro job member
    have kept := ledger.kept job.jobId
    rw [book_stored ledger.keyed member] at kept
    refine ⟨?_, fun running => kept.numbered (decide_eq_true running), running_iff_claimed member⟩
    have logged := kept.logged
    simp only [Book.due, decide_eq_true_eq] at logged
    exact logged
  · intro job member terminal
    rw [serve_append]
    refine later_terminal (serve_changes python more) ledger member ?_
    rcases terminal with same | same | same <;> rw [same] <;> rfl

end Soma.Jobs
