import Soma.Jobs.Ledger

/-!
Claim fencing. A claim names the attempt number it was handed out under, so it
is a numbered grant of its job. Once the attempt is ended or revoked the number
is spent, and no later sequence of requeues and claims makes it current again
(`Grants.spent_forever`); `_verify_claim` compares that number, so a worker that
still holds the old claim is refused and writes nothing (`claim_fencing`).
-/

namespace Soma.Jobs

open Foundation Transaction Execution Grants

variable {python : PythonLibrary} {registry : JobTypeRegistry} {store next : JobStore}
variable {claim : DurableJobClaim}

/-- A write a worker attempts with a claim it holds, at a clock reading. -/
inductive WorksWith (claim : DurableJobClaim) (clock : Int) : Operation → Prop
  | checkpoint (value : Json) : WorksWith claim clock (.checkpoint claim value clock)
  | complete (attemptId : String) : WorksWith claim clock (.complete claim clock attemptId)
  | fail (errorCode : String) (retryAt : Option Int) (attemptId : String) :
      WorksWith claim clock (.fail claim errorCode retryAt clock attemptId)

/-- A returned operation that ends the claimed attempt or revokes the claim. -/
inductive Ends (claim : DurableJobClaim) : Operation → Reply → Prop
  | completed (clock : Int) (attemptId : String) :
      Ends claim (.complete claim clock attemptId) .settled
  | failed (errorCode : String) (retryAt : Option Int) (clock : Int) (attemptId : String) :
      Ends claim (.fail claim errorCode retryAt clock attemptId) .settled
  | cancelled (jobType : String) (contractVersion : Nat) (context : Json) (clock : Int)
      (attemptId : String) (result : DurableJobCancellationResult) :
      Ends claim (.cancel claim.jobId jobType contractVersion context clock attemptId)
        (.cancelled result)
  | legacyRecovered (now : Int) (attemptId : String) (interrupted : Bool) (state : JobState) :
      Ends claim (.recoverLegacyJob claim.jobId now attemptId)
        (.recovered (.recovered interrupted state))
  | staleRecovered (currentRunId : String) (now : Int) (attemptId : String) (interrupted : Bool)
      (state : JobState) :
      Ends claim (.recoverStaleJob currentRunId claim.jobId now attemptId)
        (.recovered (.recovered interrupted state))
  | reconciled (context : Option Json) (clock : Int) (attemptIds : String → String)
      (result : RestoreJobReconciliation) :
      Ends claim (.reconcileRestoredJobs context clock attemptIds) (.reconciled result)

/-- The claimed job's bookkeeping right after `claim_next` handed the claim out. -/
theorem issued_current (issued : (execute python registry store (.claimNext runId reading)).1 =
      .ok (.claimed (some claim))) :
    ∃ job ∈ (execute python registry store (.claimNext runId reading)).2.jobs,
      job.claimedBy claim = true := by
  obtain ⟨_, same, ran⟩ := map_ok (commit_ok issued)
  rcases claimNext_ok ran with ⟨rfl, _⟩ |
    ⟨found, contract, job, job', rfl, _, member, _, work, _, current, wrote⟩
  · cases same
  · cases same
    refine ⟨job', ?_, current⟩
    exact wrote ▸ mem_put_self member work.jobId.symm

/-- An operation that ends the claim leaves no row of its job running. -/
theorem ends_idle (ends : Ends claim ending reply)
    (ran : (perform python registry ending).run store = .ok (reply, next)) :
    ∀ row ∈ next.jobs, row.jobId = claim.jobId → row.state ≠ .running := by
  intro row stored keyed
  cases ends with
  | completed =>
    obtain ⟨_, _, ran⟩ := map_ok ran
    obtain ⟨job', ended, same⟩ := complete_ok ran
    exact ended.idle stored (keyed.trans same.symm)
  | failed =>
    obtain ⟨_, _, ran⟩ := map_ok ran
    obtain ⟨job', ended, same⟩ := fail_ok ran
    exact ended.idle stored (keyed.trans same.symm)
  | cancelled =>
    obtain ⟨_, _, ran⟩ := map_ok ran
    rcases cancel_ok ran with ⟨rfl, job, member, same, terminal⟩ | ⟨job', ended, same⟩
    · intro running
      rw [job_unique member stored (keyed.trans same.symm)] at running
      rw [running_nonterminal running] at terminal
      exact Bool.noConfusion terminal
    · exact ended.idle stored (keyed.trans same.symm)
  | legacyRecovered _ _ _ state =>
    obtain ⟨_, same, ran⟩ := map_ok ran
    cases same
    rcases recoverLegacyJob_ok ran with ⟨skipped, _⟩ | ⟨job', ended, same, _⟩
    · cases skipped
    · exact ended.idle stored (keyed.trans same.symm)
  | staleRecovered _ _ _ _ state =>
    obtain ⟨_, same, ran⟩ := map_ok ran
    cases same
    rcases recoverStaleJob_ok ran with ⟨skipped, _⟩ | ⟨job', ended, same⟩
    · cases skipped
    · exact ended.idle stored (keyed.trans same.symm)
  | reconciled =>
    obtain ⟨_, _, ran⟩ := map_ok ran
    have closed := (reconcile_ok python registry ran).2 row stored
    intro running
    rw [running_nonterminal running] at closed
    exact Bool.noConfusion closed

theorem claimed_current (ledger : Ledger store.toRows) (member : job ∈ store.jobs)
    (current : job.claimedBy claim = true) :
    Current claim.attemptOrdinal (store.book claim.jobId) := by
  obtain ⟨same, _, _, running, _, ordinal, _⟩ := claimedBy_iff.mp current
  rw [← same, book_stored ledger.keyed member]
  exact ⟨decide_eq_true running, ordinal⟩

theorem idle_book (idle : ∀ row ∈ store.jobs, row.jobId = jobId → row.state ≠ .running) :
    (store.book jobId).outstanding = false := by
  unfold Rows.book
  cases found : store.job? jobId with
  | none => rfl
  | some job =>
    obtain ⟨member, same⟩ := (job?_eq_some_iff store.constraints.jobIds).mp found
    exact decide_eq_false (idle job member same)

/-- What a worker call raises on a claim that no row runs under: what is wrong with the
claim for the contracts of its run, or a conflict, unless the clock reads before the epoch. -/
def lostClaim (registry : JobTypeRegistry) (claim : DurableJobClaim) (clock : Int) : Raised :=
  match requireClaimContract registry claim with
  | .error refused => refused
  | .ok _ => if 0 ≤ clock then jobClaimConflict
      else validationError "server time must be a nonnegative whole-second UTC epoch"

theorem lost_claim_refused (lost : ∀ job ∈ store.jobs, job.claimedBy claim = false)
    (works : WorksWith claim clock late) :
    (perform python registry late).run store = .error (lostClaim registry claim clock) := by
  have conflict : verifyClaim python registry claim store = .error jobClaimConflict :=
    verifyClaim_conflict lost
  cases valid : requireClaimContract registry claim with
  | error refused =>
    cases works <;>
      simp [perform, checkpointInUow, complete, fail, attempt, lostClaim, valid, StateT.run,
        StateT.map, bind, StateT.bind, Except.bind, Except.map, Functor.map]
  | ok contract =>
    by_cases timed : 0 ≤ clock
    · cases works <;>
        simp [perform, checkpointInUow, complete, fail, attempt, lostClaim, valid, now,
          validateTime, ensure, timed, conflict, StateT.run, StateT.map, bind, StateT.bind,
          Except.bind, Except.map, pure, Except.pure, Functor.map]
    · cases works <;>
        simp [perform, checkpointInUow, complete, fail, attempt, lostClaim, valid, now,
          validateTime, ensure, timed, StateT.run, StateT.map, bind, StateT.bind, Except.bind,
          Except.map, Functor.map]

/-- **Claim fencing.** Take any interleaving of the calls of any number of runs, each on
the contracts of its own build, in which `claim_next` hands out a claim and a later call
ends or revokes it. Whatever follows, including new claims of the same job by the same or
another run, every checkpoint, complete or fail made with the old claim is rejected and
leaves both tables as they are. -/
theorem claim_fencing (python : PythonLibrary) {registry : JobTypeRegistry}
    {before between after : List Call} {runId : String} {claimedAt clock : Int}
    {claim : DurableJobClaim} {ending late : Call} {reply : Reply}
    (issued : (execute python registry (serve python .empty before)
      (.claimNext runId claimedAt)).1 = .ok (.claimed (some claim)))
    (returned : (execute python ending.registry
      (serve python .empty (before ++ ⟨registry, .claimNext runId claimedAt⟩ :: between))
        ending.operation).1 = .ok reply)
    (ends : Ends claim ending.operation reply) (works : WorksWith claim clock late.operation) :
    let reached := serve python .empty
      (before ++ ⟨registry, .claimNext runId claimedAt⟩ :: between ++ ending :: after)
    execute python late.registry reached late.operation =
      (.error (lostClaim late.registry claim clock), reached) := by
  intro reached
  obtain ⟨job, member, current⟩ := issued_current issued
  generalize taken : (⟨registry, .claimNext runId claimedAt⟩ : Call) = claiming at *
  have claimed_ledger : Ledger (serve python .empty (before ++ [claiming])).toRows :=
    serve_ledger python _
  have claimed_store : serve python .empty (before ++ [claiming]) =
      (execute python registry (serve python .empty before) (.claimNext runId claimedAt)).2 := by
    rw [serve_append, ← taken]; rfl
  -- the number is handed out, and stays so up to the ending call
  have below : claim.attemptOrdinal ≤
      ((serve python .empty (before ++ [claiming])).book claim.jobId).issued :=
    (claimed_current claimed_ledger (claimed_store ▸ member) current).2.ge
  have ended_store : serve python .empty (before ++ claiming :: between ++ [ending]) =
      serve python (serve python .empty (before ++ [claiming])) (between ++ [ending]) := by
    rw [← serve_append]; simp
  have ended_below := later_issued (later_book (serve_changes python (between ++ [ending]))
    claimed_ledger claim.jobId) below
  rw [← ended_store] at ended_below
  -- the ending call leaves nothing of the job outstanding
  have ended_next : serve python .empty (before ++ claiming :: between ++ [ending]) =
      (execute python ending.registry (serve python .empty (before ++ claiming :: between))
        ending.operation).2 := by
    rw [serve_append]; rfl
  have idle := idle_book (ends_idle ends (commit_ok returned))
  have spent : Spent claim.attemptOrdinal
      ((serve python .empty (before ++ claiming :: between ++ [ending])).book claim.jobId) :=
    idle_spent ended_below (by rw [ended_next]; exact idle)
  -- and a spent number stays spent
  have reached_store : reached =
      serve python (serve python .empty (before ++ claiming :: between ++ [ending])) after := by
    rw [← serve_append]; simp [reached, taken]
  have still := spent_forever (later_book (serve_changes python after)
    (serve_ledger python _) claim.jobId) spent
  rw [← reached_store] at still
  have lost : ∀ job ∈ reached.jobs, job.claimedBy claim = false := by
    intro row stored
    by_contra held
    rw [Bool.not_eq_false] at held
    exact still.2 (claimed_current (serve_ledger python _) stored held)
  rw [execute, commit, lost_claim_refused lost works]

theorem sampleJobId_canonical : isUuid4 "3f2b8c1e-9d4a-4c7f-8a6b-0123456789ab" = true := by
  decide

def sampleEnqueue : Operation :=
  .enqueueOrCoalesce "SAMPLE_JOB_V1" 1 (.obj [("key", .str "k")]) "k" 100
    ⟨"3f2b8c1e-9d4a-4c7f-8a6b-0123456789ab", sampleJobId_canonical⟩

def sampleClaim : DurableJobClaim where
  jobId := "3f2b8c1e-9d4a-4c7f-8a6b-0123456789ab"
  jobType := "SAMPLE_JOB_V1"
  contractVersion := 1
  runId := "11111111-1111-4111-8111-111111111111"
  attemptOrdinal := 1
  claimStartedAtUtc := 110
  dedupeSha256 := sampleDigest
  payloadJson := "\x7b\"key\":\"k\"\x7d"
  checkpointJson := none

/-- A second run recovers the job and claims it again; completing it with the
first claim is then a conflict. -/
theorem reclaimed_job_refuses_first_claim :
    let reached := serve samplePython .empty
      ([⟨sampleRegistry, sampleEnqueue⟩] ++
        ⟨sampleRegistry, .claimNext "11111111-1111-4111-8111-111111111111" 110⟩ :: [] ++
        ⟨sampleRegistry, .recoverStaleJob "22222222-2222-4222-8222-222222222222"
          "3f2b8c1e-9d4a-4c7f-8a6b-0123456789ab" 120 "44444444-4444-4444-8444-444444444444"⟩ ::
        [⟨sampleRegistry, .claimNext "22222222-2222-4222-8222-222222222222" 130⟩])
    execute samplePython sampleRegistry reached
        (.complete sampleClaim 140 "55555555-5555-4555-8555-555555555555") =
      (.error (lostClaim sampleRegistry sampleClaim 140), reached) := by
  have revoked : (execute samplePython sampleRegistry (serve samplePython .empty
      ([⟨sampleRegistry, sampleEnqueue⟩] ++
        ⟨sampleRegistry, .claimNext "11111111-1111-4111-8111-111111111111" 110⟩ :: []))
      (.recoverStaleJob "22222222-2222-4222-8222-222222222222"
        "3f2b8c1e-9d4a-4c7f-8a6b-0123456789ab" 120 "44444444-4444-4444-8444-444444444444")).1 =
      .ok (.recovered (.recovered true .queued)) := by decide +kernel
  exact @claim_fencing samplePython sampleRegistry _ _ _ _ _ _ _ ⟨sampleRegistry, _⟩
    ⟨sampleRegistry, _⟩ _ (by decide +kernel) revoked (.staleRecovered _ _ _ _ _) (.complete _)

end Soma.Jobs
