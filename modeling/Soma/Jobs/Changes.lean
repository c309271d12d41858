import Soma.Jobs.Coordinator
import Soma.Theory.Execution
import Soma.Theory.Rows

/-!
What one coordinator operation can do to the tables. `Change` lists the six
kinds of write: a job is enqueued, claimed, checkpointed, settled with a new
attempt row, released over an attempt row that is already there, or withdrawn
without having run. Each operation that returns has made at most one change;
`reconcile_restored_jobs` makes one per job it selected. Everything proved about
runs of the coordinator is proved from these cases, never from the operations.
-/

namespace Soma.Jobs

open Foundation Transaction Execution

/-- The columns no operation rewrites after the insert. -/
structure Job.SameWork (job job' : Job) : Prop where
  jobId : job'.jobId = job.jobId
  jobType : job'.jobType = job.jobType
  contractVersion : job'.contractVersion = job.contractVersion
  payloadJson : job'.payloadJson = job.payloadJson
  dedupeSha256 : job'.dedupeSha256 = job.dedupeSha256

/-- An attempt row with this job and ordinal exists. -/
def Rows.Logged (rows : Rows) (jobId : String) (ordinal : Nat) : Prop :=
  ∃ attempt ∈ rows.attempts, attempt.jobId = jobId ∧ attempt.ordinal = ordinal

/-- One write of the coordinator. -/
inductive Change (python : PythonLibrary) (registry : JobTypeRegistry) (rows : Rows) : Rows → Prop
  | enqueue (prepared : PreparedEnqueue) (newJobId : Uuid4) (now : Int)
      (admitted : ∃ jobType contractVersion payload dedupeKey,
        prepareEnqueue python registry jobType contractVersion payload dedupeKey = .ok prepared)
      (alone : coalescingRows prepared.contract prepared.dedupeSha256 rows.jobs = [])
      (fresh : newJobId.value ∉ rows.jobs.map (·.jobId)) :
      Change python registry rows
        ⟨rows.jobs ++ [queuedJob prepared newJobId.value now], rows.attempts⟩
  | claim (job job' : Job) (member : job ∈ rows.jobs)
      (idle : job.state = .queued ∨ job.state = .retryWait) (work : job.SameWork job')
      (running : job'.state = .running) (counted : job'.attemptCount = job.attemptCount + 1) :
      Change python registry rows (rows.put job')
  | checkpoint (job job' : Job) (member : job ∈ rows.jobs) (running : job.state = .running)
      (work : job.SameWork job') (held : job'.state = .running)
      (counted : job'.attemptCount = job.attemptCount) :
      Change python registry rows (rows.put job')
  | settle (job job' : Job) (attempt : JobAttempt) (member : job ∈ rows.jobs)
      (running : job.state = .running) (work : job.SameWork job') (ended : job'.state ≠ .running)
      (counted : job'.attemptCount = job.attemptCount) (owner : attempt.jobId = job.jobId)
      (numbered : attempt.ordinal = job.attemptCount)
      (unlogged : ¬ rows.Logged job.jobId job.attemptCount) :
      Change python registry rows ((rows.log attempt).put job')
  | release (job job' : Job) (member : job ∈ rows.jobs) (running : job.state = .running)
      (work : job.SameWork job') (ended : job'.state ≠ .running)
      (counted : job'.attemptCount = job.attemptCount)
      (logged : rows.Logged job.jobId job.attemptCount) :
      Change python registry rows (rows.put job')
  | withdraw (job job' : Job) (member : job ∈ rows.jobs) (idle : job.state ≠ .running)
      (active : job.state.nonterminal = true) (work : job.SameWork job')
      (terminal : job'.state.nonterminal = false)
      (counted : job'.attemptCount = job.attemptCount) :
      Change python registry rows (rows.put job')

variable {python : PythonLibrary} {registry : JobTypeRegistry}
variable {store next : JobStore} {claim : DurableJobClaim} {clock : Int}

/-! ## Spec lemmas of the helpers -/

variable {job : Job}

theorem claimedBy_iff : job.claimedBy claim = true ↔
    job.jobId = claim.jobId ∧ job.jobType = claim.jobType ∧
    job.contractVersion = claim.contractVersion ∧ job.state = .running ∧
    job.claimedRunId = some claim.runId ∧ job.attemptCount = claim.attemptOrdinal ∧
    job.claimStartedAtUtc = some claim.claimStartedAtUtc := by
  simp only [Job.claimedBy, decide_eq_true_eq]

/-- `_verify_claim` returns only the row running under the claim. -/
theorem verifyClaim_ok (ran : (verifyClaim python registry claim).run store = .ok (job, next)) :
    next = store ∧ job ∈ store.jobs ∧ job.claimedBy claim = true := by
  simp only [verifyClaim, bind_ok, selectJob_ok] at ran
  obtain ⟨found, _, ⟨selected, rfl⟩, rest⟩ := ran
  cases found with
  | none => simp only [throw_ok] at rest
  | some row =>
    simp only [steps_ok] at rest
    obtain ⟨_, rfl, rfl⟩ := rest
    have current : row.claimedBy claim = true := by simpa using List.find?_some selected
    exact ⟨rfl, List.mem_of_find?_eq_some selected, current⟩

/-- Without a row running under the claim, `_verify_claim` raises. -/
theorem verifyClaim_conflict (lost : ∀ job ∈ store.jobs, job.claimedBy claim = false) :
    (verifyClaim python registry claim).run store = .error jobClaimConflict := by
  have missing : store.jobs.find? (·.claimedBy claim) = none :=
    List.find?_eq_none.mpr fun job member => by simp [lost job member]
  have selected : (selectJob (·.claimedBy claim)).run store = .ok (none, store) := by
    rw [selectJob_ok]
    exact ⟨missing, rfl⟩
  rw [verifyClaim, run_bind_of_ok selected]
  rfl

theorem selectAttempt_none (missing : (store.attempts.find? fun attempt =>
      attempt.jobId = jobId ∧ attempt.ordinal = ordinal) = none) :
    ¬ store.toRows.Logged jobId ordinal := by
  rintro ⟨attempt, member, owner, numbered⟩
  have refuted := List.find?_eq_none.mp missing attempt member
  exact refuted (by simp [owner, numbered])

variable {value : Unit}

theorem requireAttemptAbsent_ok
    (ran : (requireAttemptAbsent jobId ordinal).run store = .ok (value, next)) :
    next = store ∧ ¬ store.toRows.Logged jobId ordinal := by
  simp only [requireAttemptAbsent, steps_ok, selectAttempt_ok] at ran
  exact ⟨ran.2.symm, selectAttempt_none ran.1⟩

theorem insertAttempt_ok (ran : (insertAttempt row).run store = .ok (value, next)) :
    next.toRows = store.toRows.log row := by
  simp only [insertAttempt, steps_ok] at ran
  obtain ⟨_, _, logged⟩ := ran
  exact insertAttemptRow_ok.mp logged

/-- `_insert_interrupted_if_absent` leaves an attempt row that is there alone,
and otherwise appends one. -/
theorem insertInterruptedIfAbsent_ok
    (ran : (insertInterruptedIfAbsent attemptId jobId ordinal runId started finished
      errorCode).run store = .ok (inserted, next)) :
    (store.toRows.Logged jobId ordinal ∧ next = store) ∨
    (¬ store.toRows.Logged jobId ordinal ∧ ∃ attempt : JobAttempt, attempt.jobId = jobId ∧
      attempt.ordinal = ordinal ∧ next.toRows = store.toRows.log attempt) := by
  simp only [insertInterruptedIfAbsent, bind_ok, selectAttempt_ok] at ran
  obtain ⟨found, _, ⟨selected, rfl⟩, rest⟩ := ran
  cases found with
  | some existing =>
    simp only [steps_ok] at rest
    obtain ⟨_, _, rfl⟩ := rest
    have keyed := List.find?_some selected
    simp only [decide_eq_true_eq] at keyed
    exact .inl ⟨⟨existing, List.mem_of_find?_eq_some selected, keyed⟩, rfl⟩
  | none =>
    simp only [steps_ok] at rest
    obtain ⟨_, logged, _, rfl⟩ := rest
    exact .inr ⟨selectAttempt_none selected, _, rfl, rfl, insertAttempt_ok logged⟩

theorem update_by_id {assign : Job → Job} (member : job ∈ store.jobs) (keyed : job.jobId = jobId)
    (fixed : (assign job).jobId = job.jobId)
    (ran : (updateJobs (fun row => row.jobId = jobId) assign).run store = .ok (changes, next)) :
    next.toRows = store.toRows.put (assign job) := by
  obtain ⟨wrote, _⟩ := updateJobs_ok.mp ran
  rw [wrote]
  exact update_one member (by simp [keyed]) (fun row _ chosen => by simp_all) fixed

theorem update_guarded {selects : Job → Bool} {assign : Job → Job} (member : job ∈ store.jobs)
    (only : ∀ row ∈ store.jobs, selects row = true → row.jobId = job.jobId)
    (fixed : (assign job).jobId = job.jobId)
    (ran : (updateJobs selects assign).run store = .ok (1, next)) :
    selects job = true ∧ next.toRows = store.toRows.put (assign job) := by
  obtain ⟨wrote, changed⟩ := updateJobs_ok.mp ran
  have selected := selected_of_changes member only changed
  exact ⟨selected, wrote.trans (update_one member selected only fixed)⟩

/-! ## The change each operation makes -/

/-- `enqueue_or_coalesce` returns the only coalescible row, or inserts one. -/
theorem coalesceOrInsert_ok
    (ran : (coalesceOrInsert python prepared clock newJobId).run store = .ok (jobId, next)) :
    (∃ job, coalescingRows prepared.contract prepared.dedupeSha256 store.jobs = [job] ∧
      jobId = job.jobId ∧ next = store) ∨
    (coalescingRows prepared.contract prepared.dedupeSha256 store.jobs = [] ∧
      jobId = newJobId.value ∧
      next.toRows = ⟨store.jobs ++ [queuedJob prepared newJobId.value clock], store.attempts⟩) := by
  simp only [coalesceOrInsert, steps_ok] at ran
  cases rows : coalescingRows prepared.contract prepared.dedupeSha256 store.jobs with
  | nil =>
    simp only [rows, List.take_nil, steps_ok, reraise_ok, insertJob_ok] at ran
    obtain ⟨_, read, _, wrote, same, rfl⟩ := ran
    simp only [now, except_ok] at read
    obtain ⟨_, rfl⟩ := read
    exact .inr ⟨rfl, same.symm, wrote⟩
  | cons job others =>
    cases others with
    | nil =>
      simp only [rows, List.take, attempt_ok, recheckCoalesced, except_ok] at ran
      obtain ⟨⟨_, _, _, _, _, _, _, _, same⟩, rfl⟩ := ran
      exact .inl ⟨job, rfl, same.symm, rfl⟩
    | cons other others => simp only [rows, List.take, throw_ok] at ran

theorem enqueue_changes
    (ran : (enqueueOrCoalesce python registry jobType contractVersion payload dedupeKey clock
      newJobId).run store = .ok (jobId, next)) :
    Later (Change python registry) store.toRows next.toRows := by
  simp only [enqueueOrCoalesce, steps_ok] at ran
  obtain ⟨prepared, admitted, rest⟩ := ran
  rcases coalesceOrInsert_ok rest with ⟨_, _, _, rfl⟩ | ⟨alone, _, wrote⟩
  · exact .refl
  · rw [wrote]
    refine .single (.enqueue prepared newJobId clock ⟨_, _, _, _, admitted⟩ alone ?_)
    have distinct := next.constraints.jobIds
    rw [wrote, List.map_append, List.nodup_append'] at distinct
    exact fun taken => distinct.2.2 taken (List.mem_singleton_self newJobId.value)

/-- A row that passed the checks of `claim_next` has a digest and a canonical id. -/
theorem revalidated_claimable
    (revalidated : revalidateClaimable python contract job = .ok checked) :
    isSha256 checked.1 = true ∧ requireUuid4 job.jobId = .ok () := by
  simp only [revalidateClaimable, except_ok, rewrapAny_ok] at revalidated
  obtain ⟨digest, read, _, _, _, _, _, keyed, rfl⟩ := revalidated
  refine ⟨?_, keyed⟩
  unfold claimableDigest at read
  split at read
  · simp only [except_ok] at read
    obtain ⟨hashed, rfl⟩ := read
    exact hashed
  · cases read

variable {reading : Int}

theorem failUnclaimable_changes (member : job ∈ store.jobs)
    (ran : (failUnclaimable job.jobId reading errorCode).run store = .ok (value, next)) :
    Later (Change python registry) store.toRows next.toRows := by
  simp only [failUnclaimable, steps_ok] at ran
  obtain ⟨_, _, _, updated, rfl, rfl⟩ := ran
  obtain ⟨selected, wrote⟩ := update_guarded member (fun row _ chosen => by simp_all) rfl updated
  rw [wrote]
  simp only [List.mem_cons, List.not_mem_nil, or_false, true_and, decide_eq_true_eq] at selected
  refine .single (.withdraw job _ member ?_ ?_ ⟨rfl, rfl, rfl, rfl, rfl⟩ rfl rfl)
  · rcases selected with same | same <;> simp [same]
  · rcases selected with same | same <;> simp [same, JobState.nonterminal]

/-- The claim `claim_next` returns is the row it wrote, one attempt further on,
and passes the checks a worker's later calls make of it. -/
theorem claimSelected_ok (member : job ∈ store.jobs)
    (found : registry.get job.jobType job.contractVersion = some contract)
    (identified : requireUuid4 runId = .ok ()) (timed : validateTime reading "now" = .ok ())
    (ran : (claimSelected python contract job runId reading).run store = .ok (claim, next)) :
    (∃ job' : Job, next.toRows = store.toRows.put job' ∧ job.SameWork job' ∧
      job'.attemptCount = job.attemptCount + 1 ∧ job'.claimedBy claim = true) ∧
    requireClaimContract registry claim = .ok contract := by
  simp only [claimSelected, steps_ok] at ran
  obtain ⟨_, revalidated, _, _, updated, rfl, rfl, rfl⟩ := ran
  obtain ⟨_, wrote⟩ := update_guarded member (fun row _ chosen => by simp_all) rfl updated
  refine ⟨⟨_, wrote, ⟨rfl, rfl, rfl, rfl, rfl⟩, rfl,
    claimedBy_iff.mpr ⟨rfl, rfl, rfl, rfl, rfl, rfl, rfl⟩⟩, ?_⟩
  obtain ⟨hashed, keyed⟩ := revalidated_claimable revalidated
  have started : 0 ≤ reading := by simpa [validateTime] using timed
  simp [requireClaimContract, identified, keyed, hashed, found, validateTime, ensure, started,
    bind, Except.bind]

/-- A job `claim_next` selects is stored and waits to run. -/
theorem due_head
    (sorted : (store.jobs.filter (·.due reading)).insertionSort (claimOrder · ·) = job :: others) :
    job ∈ store.jobs ∧ (job.state = .queued ∨ job.state = .retryWait) := by
  have listed : job ∈ (store.jobs.filter (·.due reading)).insertionSort (claimOrder · ·) :=
    sorted ▸ List.mem_cons_self
  have selected := List.mem_filter.mp ((List.perm_insertionSort _ _).mem_iff.mp listed)
  refine ⟨selected.1, ?_⟩
  have due := selected.2
  simp only [Job.due, decide_eq_true_eq] at due
  exact due.imp_right fun waiting => waiting.1

/-- `claim_next` returns a valid claim of a job it moved to its next attempt, or
returns nothing after at most withdrawing a job that has no contract. -/
theorem claimNext_ok
    (ran : (claimNext python registry runId reading).run store = .ok (claimed, next)) :
    (claimed = none ∧ Later (Change python registry) store.toRows next.toRows) ∨
    (∃ claim contract job job', claimed = some claim ∧
      requireClaimContract registry claim = .ok contract ∧ job ∈ store.jobs ∧
      (job.state = .queued ∨ job.state = .retryWait) ∧ job.SameWork job' ∧
      job'.attemptCount = job.attemptCount + 1 ∧ job'.claimedBy claim = true ∧
      next.toRows = store.toRows.put job') := by
  simp only [claimNext, steps_ok] at ran
  obtain ⟨identified, timed, rest⟩ := ran
  split at rest
  · obtain ⟨rfl, rfl⟩ := pure_ok.mp rest
    exact .inl ⟨rfl, .refl⟩
  · rename_i job others sorted
    obtain ⟨member, idle⟩ := due_head sorted
    simp only [steps_ok] at rest
    obtain ⟨_, _, _, rest⟩ := rest
    cases found : registry.get job.jobType job.contractVersion with
    | none =>
      simp only [found, steps_ok] at rest
      obtain ⟨_, failed, rfl, rfl⟩ := rest
      exact .inl ⟨rfl, failUnclaimable_changes member failed⟩
    | some contract =>
      simp only [found, steps_ok] at rest
      obtain ⟨claim, _, selected, rfl, rfl⟩ := rest
      obtain ⟨⟨job', wrote, work, counted, current⟩, valid⟩ :=
        claimSelected_ok member found identified timed selected
      exact .inr ⟨claim, contract, job, job', rfl, valid, member, idle, work, counted, current,
        wrote⟩

theorem claimNext_changes
    (ran : (claimNext python registry runId reading).run store = .ok (claimed, next)) :
    Later (Change python registry) store.toRows next.toRows := by
  rcases claimNext_ok ran with ⟨_, later⟩ |
    ⟨claim, _, job, job', _, _, member, idle, work, counted, current, wrote⟩
  · exact later
  · rw [wrote]
    obtain ⟨_, _, _, running, _⟩ := claimedBy_iff.mp current
    exact .single (.claim job job' member idle work running counted)

/-- The attempt history an operation leaves before it ends a job: a waiting job
needs no attempt row, a running one has its row already or gets it now. -/
inductive HistoryClosed (store : JobStore) (job : Job) : JobStore → Prop
  | waiting (idle : job.state ≠ .running) : HistoryClosed store job store
  | present (running : job.state = .running)
      (logged : store.toRows.Logged job.jobId job.attemptCount) : HistoryClosed store job store
  | appended (middle : JobStore) (attempt : JobAttempt) (running : job.state = .running)
      (unlogged : ¬ store.toRows.Logged job.jobId job.attemptCount)
      (owner : attempt.jobId = job.jobId) (numbered : attempt.ordinal = job.attemptCount)
      (wrote : middle.toRows = store.toRows.log attempt) : HistoryClosed store job middle

theorem HistoryClosed.jobs (closed : HistoryClosed store job middle) :
    middle.jobs = store.jobs := by
  cases closed with
  | waiting => rfl
  | present => rfl
  | appended _ attempt running unlogged owner numbered wrote => rw [wrote, Rows.log]

theorem running_nonterminal (running : job.state = .running) : job.state.nonterminal = true := by
  rw [running]; rfl

/-- The operation ended a job: it closed the job's history and wrote `job'`,
which does not run, over its row. -/
structure JobEnded (store next : JobStore) (job' : Job) : Prop where
  intro ::
  from_open : ∃ job middle, next.toRows = middle.toRows.put job' ∧ job ∈ store.jobs ∧
    job.state.nonterminal = true ∧ HistoryClosed store job middle ∧ job.SameWork job' ∧
    (job.state ≠ .running → job'.state.nonterminal = false) ∧
    job'.attemptCount = job.attemptCount
  stopped : job'.state ≠ .running

section JobEnded

variable {job' row : Job}

section

variable (ended : JobEnded store next job')

include ended

theorem JobEnded.changes : Later (Change python registry) store.toRows next.toRows := by
  obtain ⟨⟨job, _, wrote, member, active, closed, work, terminal, counted⟩, stopped⟩ := ended
  rw [wrote]
  cases closed with
  | waiting idle =>
    exact .single (.withdraw job job' member idle active work (terminal idle) counted)
  | present running logged =>
    exact .single (.release job job' member running work stopped counted logged)
  | appended _ attempt running unlogged owner numbered appended =>
    rw [appended]
    exact .single (.settle job job' attempt member running work stopped counted owner numbered
      unlogged)

theorem JobEnded.rows (member : row ∈ next.jobs) :
    row = job' ∨ (row ∈ store.jobs ∧ row.jobId ≠ job'.jobId) := by
  obtain ⟨⟨_, _, wrote, _, _, closed, _⟩, _⟩ := ended
  rw [wrote] at member
  rw [← closed.jobs]
  exact mem_put member

theorem JobEnded.keeps (member : row ∈ store.jobs)
    (other : row.jobId ≠ job'.jobId) : row ∈ next.jobs := by
  obtain ⟨⟨_, _, wrote, _, _, closed, _⟩, _⟩ := ended
  rw [wrote]
  exact mem_put_of_ne (closed.jobs ▸ member) other

theorem JobEnded.idle (member : row ∈ next.jobs)
    (same : row.jobId = job'.jobId) : row.state ≠ .running := by
  rcases ended.rows member with rfl | ⟨_, other⟩
  · exact ended.stopped
  · exact absurd same other

end

end JobEnded

theorem settle_ends {row : JobAttempt} {assign : Job → Job} (member : job ∈ store.jobs)
    (current : job.claimedBy claim = true) (owner : row.jobId = claim.jobId)
    (numbered : row.ordinal = claim.attemptOrdinal)
    (unlogged : ¬ store.toRows.Logged claim.jobId claim.attemptOrdinal)
    (logged : (insertAttempt row).run store = .ok (value, middle))
    (work : job.SameWork (assign job)) (stopped : (assign job).state ≠ .running)
    (counted : (assign job).attemptCount = job.attemptCount)
    (updated : (updateJobs (fun job => job.jobId = claim.jobId) assign).run middle =
      .ok (changes, next)) : ∃ job', JobEnded store next job' ∧ job'.jobId = claim.jobId := by
  obtain ⟨sameId, _, _, running, _, ordinal, _⟩ := claimedBy_iff.mp current
  rw [← sameId, ← ordinal] at unlogged
  have closed : HistoryClosed store job middle := .appended middle row running unlogged
    (owner.trans sameId.symm) (numbered.trans ordinal.symm) (insertAttempt_ok logged)
  have member' : job ∈ middle.jobs := closed.jobs ▸ member
  have wrote := update_by_id member' sameId work.jobId updated
  exact ⟨assign job, ⟨⟨job, middle, wrote, member, running_nonterminal running, closed, work,
    fun idle => absurd running idle, counted⟩, stopped⟩, work.jobId.trans sameId⟩

theorem checkpoint_changes
    (ran : (checkpointInUow python registry claim checkpoint clock).run store = .ok (text, next)) :
    Later (Change python registry) store.toRows next.toRows := by
  simp only [checkpointInUow, steps_ok] at ran
  obtain ⟨_, _, _, _, job, _, verified, _, _, _, _, _, updated, _, rfl⟩ := ran
  obtain ⟨rfl, member, current⟩ := verifyClaim_ok verified
  obtain ⟨sameId, _, _, running, _⟩ := claimedBy_iff.mp current
  rw [update_by_id member sameId rfl updated]
  exact .single (.checkpoint job _ member running ⟨rfl, rfl, rfl, rfl, rfl⟩ running rfl)

/-- `complete` ends the claimed job. -/
theorem complete_ok
    (ran : (complete python registry claim clock attemptId).run store = .ok (value, next)) :
    ∃ job', JobEnded store next job' ∧ job'.jobId = claim.jobId := by
  simp only [complete, steps_ok] at ran
  obtain ⟨_, _, _, _, job, _, verified, _, _, absent, _, logged, _, _, updated, _, rfl⟩ := ran
  obtain ⟨rfl, member, current⟩ := verifyClaim_ok verified
  obtain ⟨rfl, unlogged⟩ := requireAttemptAbsent_ok absent
  exact settle_ends member current rfl rfl unlogged logged ⟨rfl, rfl, rfl, rfl, rfl⟩
    (by simp) rfl updated

/-- `fail` ends the claimed job, for good or until its retry. -/
theorem fail_ok (ran : (fail python registry claim errorCode retryAt clock attemptId).run store =
      .ok (value, next)) : ∃ job', JobEnded store next job' ∧ job'.jobId = claim.jobId := by
  simp only [fail, steps_ok] at ran
  obtain ⟨_, _, _, _, job, _, verified, _, _, _, _, _, absent, _, logged, _, _, updated, _,
    rfl⟩ := ran
  obtain ⟨rfl, member, current⟩ := verifyClaim_ok verified
  obtain ⟨rfl, unlogged⟩ := requireAttemptAbsent_ok absent
  refine settle_ends member current rfl rfl unlogged logged ⟨rfl, rfl, rfl, rfl, rfl⟩
    ?_ rfl updated
  cases retryAt <;> simp

theorem cancelAttempt_ok
    (ran : (cancelAttempt job reading attemptId).run store = .ok (ordinal, next)) :
    HistoryClosed store job next := by
  unfold cancelAttempt at ran
  by_cases running : job.state = .running
  · rw [if_pos running] at ran
    split at ran
    · simp only [steps_ok] at ran
      obtain ⟨_, _, absent, _, logged, _, rfl⟩ := ran
      obtain ⟨rfl, unlogged⟩ := requireAttemptAbsent_ok absent
      exact .appended _ _ running unlogged rfl rfl (insertAttempt_ok logged)
    · exact (throw_ok.mp ran).elim
  · rw [if_neg running] at ran
    obtain ⟨_, rfl⟩ := pure_ok.mp ran
    exact .waiting running

theorem insertInterrupted_closes (running : job.state = .running)
    (ran : (insertInterruptedIfAbsent attemptId job.jobId job.attemptCount runId started finished
      errorCode).run store = .ok (inserted, next)) : HistoryClosed store job next := by
  rcases insertInterruptedIfAbsent_ok ran with
    ⟨logged, rfl⟩ | ⟨unlogged, attempt, owner, numbered, wrote⟩
  · exact .present running logged
  · exact .appended _ attempt running unlogged owner numbered wrote

theorem interruptIfRunning_ok
    (ran : (interruptIfRunning job finished attemptId errorCode incomplete).run store =
      .ok (inserted, next)) : HistoryClosed store job next := by
  unfold interruptIfRunning at ran
  by_cases running : job.state = .running
  · rw [if_pos running] at ran
    split at ran
    · simp only [steps_ok] at ran
      obtain ⟨_, written⟩ := ran
      exact insertInterrupted_closes running written
    · exact (throw_ok.mp ran).elim
  · rw [if_neg running] at ran
    obtain ⟨_, rfl⟩ := pure_ok.mp ran
    exact .waiting running

theorem nonterminal_of_open {state : JobState} (uncancelled : state ≠ .cancelled)
    (unfinished : ¬ (state = .completed ∨ state = .failed)) : state.nonterminal = true := by
  cases state <;> simp_all [JobState.nonterminal]

/-- `cancel` leaves a terminal job alone and otherwise ends it as cancelled. -/
theorem cancel_ok
    (ran : (cancel registry jobId jobType contractVersion context clock attemptId).run store =
      .ok (result, next)) :
    (next = store ∧ ∃ job ∈ store.jobs, job.jobId = jobId ∧ job.state.nonterminal = false) ∨
    ∃ job', JobEnded store next job' ∧ job'.jobId = jobId := by
  simp only [cancel, bind_ok, attempt_ok, selectJob_ok] at ran
  obtain ⟨_, _, ⟨_, rfl⟩, _, _, ⟨_, rfl⟩, found, _, ⟨selected, rfl⟩, rest⟩ := ran
  cases found with
  | none => exact (throw_ok.mp rest).elim
  | some job =>
    obtain ⟨member, keyed⟩ := Rows.key_of_find? selected
    simp only [steps_ok] at rest
    obtain ⟨_, rest⟩ := rest
    split at rest
    · rename_i cancelled
      obtain ⟨_, rfl⟩ := pure_ok.mp rest
      exact .inl ⟨rfl, job, member, keyed, by rw [cancelled]; rfl⟩
    · rename_i uncancelled
      split at rest
      · rename_i finished
        obtain ⟨_, rfl⟩ := pure_ok.mp rest
        exact .inl ⟨rfl, job, member, keyed, by rcases finished with same | same <;> rw [same] <;> rfl⟩
      · rename_i unfinished
        simp only [steps_ok] at rest
        obtain ⟨_, _, _, _, _, middle, written, _, _, updated, _, rfl⟩ := rest
        have closed := cancelAttempt_ok written
        have member' : job ∈ middle.jobs := closed.jobs ▸ member
        have wrote := update_by_id member' keyed rfl updated
        exact .inr ⟨_, ⟨⟨job, middle, wrote, member, nonterminal_of_open uncancelled unfinished,
          closed, ⟨rfl, rfl, rfl, rfl, rfl⟩, fun _ => rfl, rfl⟩, by simp⟩, keyed⟩

/-- A job of the schema without dedupe identities that was not ended. -/
def Job.Legacy (job : Job) : Prop := job.dedupeSha256 = none ∧ job.state.nonterminal = true

/-- A job that a run other than the current one was running. -/
def Job.Stale (currentRunId : String) (job : Job) : Prop :=
  job.state = .running ∧ job.claimedRunId ≠ some currentRunId

/-- Legacy recovery skips the job, which is not legacy, or ends it as failed. -/
theorem recoverLegacyJob_ok
    (ran : (recoverLegacyJob jobId reading attemptId).run store = .ok (result, next)) :
    (result = .skipped ∧ next = store ∧ ∀ row ∈ store.jobs, row.jobId = jobId → ¬ row.Legacy) ∨
    ∃ job', JobEnded store next job' ∧ job'.jobId = jobId ∧ ¬ job'.Legacy := by
  simp only [recoverLegacyJob, bind_ok, selectJob_ok] at ran
  obtain ⟨found, _, ⟨selected, rfl⟩, rest⟩ := ran
  cases found with
  | none =>
    obtain ⟨rfl, rfl⟩ := pure_ok.mp rest
    refine .inl ⟨rfl, rfl, fun row listed same legacy => ?_⟩
    exact List.find?_eq_none.mp selected row listed (decide_eq_true ⟨same, legacy.1⟩)
  | some job =>
    have member := List.mem_of_find?_eq_some selected
    have keyed := List.find?_some selected
    simp only [decide_eq_true_eq] at keyed
    dsimp only at rest
    split at rest
    · rename_i ended
      obtain ⟨rfl, rfl⟩ := pure_ok.mp rest
      refine .inl ⟨rfl, rfl, fun row listed same legacy => ?_⟩
      rw [job_unique member listed (same.trans keyed.1.symm)] at legacy
      cases ended.symm.trans legacy.2
    · rename_i active
      simp only [steps_ok] at rest
      obtain ⟨_, middle, written, _, _, updated, rfl, _, rfl⟩ := rest
      have closed := interruptIfRunning_ok written
      have member' : job ∈ middle.jobs := closed.jobs ▸ member
      obtain ⟨_, wrote⟩ := update_guarded member' (fun row _ chosen => by simp_all) rfl updated
      exact .inr ⟨_, ⟨⟨job, middle, wrote, member, by simpa using active, closed,
        ⟨rfl, rfl, rfl, rfl, rfl⟩, fun _ => rfl, rfl⟩, by simp⟩, keyed.1,
        fun legacy => Bool.noConfusion legacy.2⟩

theorem releaseStale_ok (member : job ∈ store.jobs)
    (ran : (releaseStale job.jobId staleRunId job.attemptCount started reading state retryAt
      errorCode lost).run store = .ok (value, next)) :
    ∃ job', next.toRows = store.toRows.put job' ∧ job.SameWork job' ∧ job'.state = state ∧
      job'.attemptCount = job.attemptCount := by
  simp only [releaseStale, steps_ok] at ran
  obtain ⟨_, _, updated, rfl, rfl⟩ := ran
  obtain ⟨_, wrote⟩ := update_guarded member (fun row _ chosen => by simp_all) rfl updated
  exact ⟨_, wrote, ⟨rfl, rfl, rfl, rfl, rfl⟩, rfl, rfl⟩

theorem staleDisposition_stops
    (decided : staleDisposition python contract job reading = .ok disposition) :
    disposition.state ≠ .running := by
  have valid : ∃ value, validateRecoveryDisposition disposition reading = .ok value := by
    simp only [staleDisposition, except_ok] at decided
    obtain ⟨_, _, _, _, _, _, _, _, _, _, _, _, _, _, rest⟩ := decided
    split at rest <;>
    · simp only [except_ok] at rest
      grind
  obtain ⟨_, valid⟩ := valid
  simp only [validateRecoveryDisposition, except_ok] at valid
  obtain ⟨listed, _⟩ := valid
  intro running
  rw [running] at listed
  exact absurd listed (by decide)

/-- Stale recovery skips the job, which is not stale, or ends the attempt another run
was making. -/
theorem recoverStaleJob_ok
    (ran : (recoverStaleJob python registry currentRunId jobId reading attemptId).run store =
      .ok (result, next)) :
    (result = .skipped ∧ next = store ∧
      ∀ row ∈ store.jobs, row.jobId = jobId → ¬ row.Stale currentRunId) ∨
    ∃ job', JobEnded store next job' ∧ job'.jobId = jobId := by
  simp only [recoverStaleJob, bind_ok, selectJob_ok] at ran
  obtain ⟨found, _, ⟨selected, rfl⟩, rest⟩ := ran
  cases found with
  | none =>
    obtain ⟨rfl, rfl⟩ := pure_ok.mp rest
    refine .inl ⟨rfl, rfl, fun row listed same _ => ?_⟩
    exact List.find?_eq_none.mp selected row listed (decide_eq_true same)
  | some job =>
    obtain ⟨member, keyed⟩ := Rows.key_of_find? selected
    subst keyed
    dsimp only at rest
    split at rest
    · rename_i unclaimed
      obtain ⟨rfl, rfl⟩ := pure_ok.mp rest
      refine .inl ⟨rfl, rfl, fun row listed same stale => ?_⟩
      have claimed := ((running_iff_claimed listed).mp stale.1).1
      rw [job_unique member listed same, unclaimed] at claimed
      cases claimed
    · rename_i staleRunId claimed
      split at rest
      · rename_i current
        obtain ⟨rfl, rfl⟩ := pure_ok.mp rest
        refine .inl ⟨rfl, rfl, fun row listed same stale => ?_⟩
        rw [job_unique member listed same] at stale
        refine current.elim (fun idle => idle stale.1) fun own => stale.2 ?_
        rw [claimed, own]
      · rename_i stale
        have running : job.state = .running := by
          by_contra idle
          exact stale (.inl idle)
        split at rest
        · exact (throw_ok.mp rest).elim
        · simp only [steps_ok] at rest
          obtain ⟨_, _, middle, written, rest⟩ := rest
          have closed := insertInterrupted_closes running written
          have member' : job ∈ middle.jobs := closed.jobs ▸ member
          cases found : registry.get job.jobType job.contractVersion with
          | none =>
            simp only [found, steps_ok] at rest
            obtain ⟨_, released, _, rfl⟩ := rest
            obtain ⟨job', wrote, work, state, counted⟩ := releaseStale_ok member' released
            exact .inr ⟨job', ⟨⟨job, middle, wrote, member, running_nonterminal running, closed,
              work, fun idle => absurd running idle, counted⟩, by rw [state]; decide⟩, work.jobId⟩
          | some contract =>
            simp only [found, steps_ok] at rest
            obtain ⟨_, decided, _, released, _, rfl⟩ := rest
            obtain ⟨job', wrote, work, state, counted⟩ := releaseStale_ok member' released
            exact .inr ⟨job', ⟨⟨job, middle, wrote, member, running_nonterminal running, closed,
              work, fun idle => absurd running idle, counted⟩,
              by rw [state]; exact staleDisposition_stops decided⟩, work.jobId⟩

theorem reconcileJob_ok (member : job ∈ store.jobs)
    (ran : (reconcileJob reading job attemptId).run store = .ok (inserted, next)) :
    ∃ job', JobEnded store next job' ∧ job'.jobId = job.jobId ∧ job'.state = .cancelled := by
  simp only [reconcileJob, steps_ok] at ran
  obtain ⟨_, middle, written, _, _, updated, rfl, _, rfl⟩ := ran
  have closed := interruptIfRunning_ok written
  have member' : job ∈ middle.jobs := closed.jobs ▸ member
  obtain ⟨selected, wrote⟩ := update_guarded member' (fun row _ chosen => by simp_all) rfl updated
  simp only [decide_eq_true_eq, true_and] at selected
  exact ⟨_, ⟨⟨job, middle, wrote, member, selected, closed, ⟨rfl, rfl, rfl, rfl, rfl⟩,
    fun _ => rfl, rfl⟩, by simp⟩, rfl, rfl⟩

/-- The reconciliation loop: one change per selected job, after which only jobs
that were not selected can still be open. -/
theorem reconcileJobs_ok {attemptIds : String → String} (members : ∀ job ∈ jobs, job ∈ store.jobs)
    (distinct : (jobs.map (·.jobId)).Nodup)
    (ran : (reconcileJobs reading attemptIds jobs).run store = .ok (inserted, next)) :
    Later (Change python registry) store.toRows next.toRows ∧
    ∀ row ∈ next.jobs, row.state.nonterminal = true →
      row ∈ store.jobs ∧ row.jobId ∉ jobs.map (·.jobId) := by
  induction jobs generalizing store inserted with
  | nil =>
    obtain ⟨_, rfl⟩ := pure_ok.mp ran
    exact ⟨.refl, fun row stored _ => ⟨stored, List.not_mem_nil⟩⟩
  | cons job jobs ih =>
    simp only [reconcileJobs, steps_ok] at ran
    obtain ⟨_, after, first, _, _, others, _, rfl⟩ := ran
    obtain ⟨_, ended, same, cancelled⟩ := reconcileJob_ok (members job List.mem_cons_self) first
    rw [List.map_cons, List.nodup_cons] at distinct
    obtain ⟨absent, distinct⟩ := distinct
    have kept : ∀ other ∈ jobs, other ∈ after.jobs := by
      intro other listed
      refine ended.keeps (members other (List.mem_cons_of_mem _ listed)) ?_
      rw [same]
      exact fun taken => absent (taken ▸ List.mem_map_of_mem listed)
    obtain ⟨rest, opened⟩ := ih kept distinct others
    refine ⟨ended.changes.trans rest, fun row stored active => ?_⟩
    obtain ⟨earlier, unlisted⟩ := opened row stored active
    rcases ended.rows earlier with rfl | ⟨old, other⟩
    · rw [cancelled] at active
      exact Bool.noConfusion active
    · rw [same] at other
      exact ⟨old, by simp [other, unlisted]⟩

variable (python registry) in
/-- `reconcile_restored_jobs` is a run of changes that leaves no job open. -/
theorem reconcile_ok {attemptIds : String → String}
    (ran : (reconcileRestoredJobs context clock attemptIds).run store = .ok (result, next)) :
    Later (Change python registry) store.toRows next.toRows ∧
    ∀ row ∈ next.jobs, row.state.nonterminal = false := by
  simp only [reconcileRestoredJobs, steps_ok, selectJobs_ok] at ran
  obtain ⟨_, _, _, _, _, looped, _, rfl⟩ := ran
  have listed : ∀ job, job ∈ (store.jobs.filter (·.state.nonterminal)).insertionSort
      (fun left right => left.jobId ≤ right.jobId) ↔
      job ∈ store.jobs ∧ job.state.nonterminal = true := fun job =>
    (List.perm_insertionSort _ _).mem_iff.trans List.mem_filter
  have distinct : (((store.jobs.filter (·.state.nonterminal)).insertionSort
      (fun left right => left.jobId ≤ right.jobId)).map (·.jobId)).Nodup := by
    rw [((List.perm_insertionSort _ _).map _).nodup_iff]
    exact store.constraints.jobIds.sublist (List.filter_sublist.map _)
  obtain ⟨later, opened⟩ := reconcileJobs_ok (fun job member => ((listed job).mp member).1)
    distinct looped
  refine ⟨later, fun row stored => ?_⟩
  by_contra active
  rw [Bool.not_eq_false] at active
  obtain ⟨old, unlisted⟩ := opened row stored active
  exact unlisted (List.mem_map_of_mem ((listed row).mpr ⟨old, active⟩))

end Soma.Jobs
