import Soma.Jobs.Ledger

/-!
What a recovery of stale claims leaves. `recover_stale_claims` is one of the
interleavings (`recoverStaleClaims_run`), so whatever the ledger keeps it keeps;
once it returned, nothing of an earlier run is left running, and no job of the
old schema is open or ever will be (`recovery_leaves_nothing_stale`).
-/

namespace Soma.Jobs

open Foundation Transaction Execution

variable {python : PythonLibrary} {registry : JobTypeRegistry} {store next last : JobStore}
variable {jobId attemptId currentRunId : String} {now : Int} {result : RecoveryResult}

/-! ## One transaction -/

/-- No job with this id is of the kind any more, and no other became so. -/
def Clears (kind : Job → Prop) (jobId : String) (store next : JobStore) : Prop :=
  ∀ row ∈ next.jobs, kind row → row ∈ store.jobs ∧ row.jobId ≠ jobId

theorem recoverLegacyJob_clears
    (ran : (recoverLegacyJob jobId now attemptId).run store = .ok (result, next)) :
    Clears Job.Legacy jobId store next := by
  intro row listed legacy
  rcases recoverLegacyJob_ok ran with ⟨_, rfl, none⟩ | ⟨job', ended, rfl, modern⟩
  · exact ⟨listed, fun same => none row listed same legacy⟩
  · rcases ended.rows listed with rfl | other
    · exact absurd legacy modern
    · exact other

theorem recoverStaleJob_clears
    (ran : (recoverStaleJob python registry currentRunId jobId now attemptId).run store =
      .ok (result, next)) : Clears (Job.Stale currentRunId) jobId store next := by
  intro row listed stale
  rcases recoverStaleJob_ok ran with ⟨_, rfl, none⟩ | ⟨job', ended, rfl⟩
  · exact ⟨listed, fun same => none row listed same stale⟩
  · rcases ended.rows listed with rfl | other
    · exact absurd stale.1 ended.stopped
    · exact other

/-! ## A loop over the listed ids -/

theorem recoverLoop_clears {kind : Job → Prop} {recover : String → UnitOfWork RecoveryResult}
    (clears : ∀ jobId store next result, (recover jobId).run store = .ok (result, next) →
      Clears kind jobId store next)
    (ran : recoverLoop recover jobIds before store = (.ok results, last)) :
    ∀ row ∈ last.jobs, kind row → row ∈ store.jobs ∧ row.jobId ∉ jobIds := by
  induction jobIds generalizing store before with
  | nil =>
    cases ran
    exact fun row listed _ => ⟨listed, List.not_mem_nil⟩
  | cons jobId jobIds ih =>
    unfold recoverLoop at ran
    split at ran
    · rename_i result next outcome
      have first := commit_ok (congrArg Prod.fst outcome)
      rw [congrArg Prod.snd outcome] at first
      intro row listed is
      obtain ⟨between, unlisted⟩ := ih ran row listed is
      obtain ⟨stored, other⟩ := clears _ _ _ _ first row between is
      exact ⟨stored, by simp [other, unlisted]⟩
    · cases ran

theorem mem_listJobIds {selects : Job → Bool} (listed : job ∈ store.jobs)
    (selected : selects job = true) : job.jobId ∈ listJobIds selects store :=
  (List.perm_insertionSort _ _).mem_iff.mpr
    (List.mem_map_of_mem (List.mem_filter.mpr ⟨listed, selected⟩))

/-! ## The old schema -/

/-- No change reopens a job or takes its dedupe identity away. -/
theorem change_modern {rows : Rows} (modern : ∀ job ∈ rows.jobs, ¬ job.Legacy)
    (change : Change python registry rows rows') : ∀ job ∈ rows'.jobs, ¬ job.Legacy := by
  have put {old new : Job} (member : old ∈ rows.jobs) (active : old.state.nonterminal = true)
      (work : old.SameWork new) : ∀ job ∈ (rows.put new).jobs, ¬ job.Legacy := by
    intro job listed legacy
    rcases mem_put listed with rfl | ⟨stored, _⟩
    · exact modern old member ⟨work.dedupeSha256 ▸ legacy.1, active⟩
    · exact modern job stored legacy
  cases change with
  | enqueue prepared newJobId now =>
    intro job listed legacy
    rcases Rows.mem_concat listed with stored | rfl
    · exact modern job stored legacy
    · cases legacy.1
  | claim old new member idle work =>
    exact put member (by rcases idle with same | same <;> rw [same] <;> rfl) work
  | checkpoint old new member running work => exact put member (running_nonterminal running) work
  | settle old new attempt member running work => exact put member (running_nonterminal running) work
  | release old new member running work => exact put member (running_nonterminal running) work
  | withdraw old new member idle active work => exact put member active work

theorem serve_modern (modern : ∀ job ∈ store.jobs, ¬ job.Legacy) (calls : List Call) :
    ∀ job ∈ (serve python store calls).jobs, ¬ job.Legacy :=
  Later.preserves (fun rows : Rows => ∀ job ∈ rows.jobs, ¬ job.Legacy)
    (fun _ _ modern ⟨_, change⟩ => change_modern modern change) (serve_changes python calls) modern

/-- Two loops ran to their end, each over the ids listed when it began. -/
theorem recoverStaleClaims_ok {attemptIds : String → String}
    (ran : recoverStaleClaims python registry currentRunId now attemptIds store =
      (.ok summary, last)) :
    ∃ middle results all,
      recoverLoop (fun jobId => recoverLegacyJob jobId now (attemptIds jobId)) (listJobIds (fun job =>
        job.dedupeSha256 = none ∧ job.state.nonterminal) store) [] store = (.ok results, middle) ∧
      recoverLoop (fun jobId => recoverStaleJob python registry currentRunId jobId now
        (attemptIds jobId)) (listJobIds (fun job => job.state = .running ∧ job.dedupeSha256 ≠ none ∧
          ∃ runId ∈ job.claimedRunId, runId ≠ currentRunId) middle) results middle =
            (.ok all, last) := by
  unfold recoverStaleClaims at ran
  split at ran
  · cases ran
  · dsimp only at ran
    split at ran
    · cases ran
    · rename_i results middle first
      split at ran
      · cases ran
      · rename_i all final second
        cases ran
        exact ⟨middle, results, all, first, second⟩

/-- **Recovery leaves nothing of an earlier run.** Whatever it does is a run of
transactions; when it returns, every running job is claimed by the current run, and no
job without a dedupe identity is open then or after any further calls of any runs. -/
theorem recovery_leaves_nothing_stale (python : PythonLibrary) (registry : JobTypeRegistry)
    (store : JobStore) (currentRunId : String) (now : Int) (attemptIds : String → String) :
    let recovered := recoverStaleClaims python registry currentRunId now attemptIds store
    (∃ operations, recovered.2 = resume python registry store operations) ∧
    ∀ summary, recovered.1 = .ok summary →
      (∀ job ∈ recovered.2.jobs, job.state = .running → job.claimedRunId = some currentRunId) ∧
      ∀ calls, ∀ job ∈ (serve python recovered.2 calls).jobs,
        job.dedupeSha256 = none → job.state.nonterminal = false := by
  intro recovered
  have run : ∃ legacy stale : List String, recovered.2 = _ :=
    recoverStaleClaims_run currentRunId now attemptIds
  obtain ⟨legacy, stale, run⟩ := run
  refine ⟨⟨_, run⟩, fun summary returned => ?_⟩
  obtain ⟨middle, results, _, first, second⟩ := recoverStaleClaims_ok (Prod.ext returned rfl)
  have modern : ∀ job ∈ middle.jobs, ¬ job.Legacy := by
    intro job listed old
    obtain ⟨stored, unlisted⟩ := recoverLoop_clears
      (fun _ _ _ _ ran => recoverLegacyJob_clears ran) first job listed old
    exact unlisted (mem_listJobIds stored (decide_eq_true old))
  have kept : ∀ job ∈ recovered.2.jobs, ¬ job.Legacy := by
    obtain ⟨_, _, last⟩ := recoverLoop_run python registry middle
      (fun jobId => recoverStaleJob python registry currentRunId jobId now (attemptIds jobId))
      (fun jobId => .recoverStaleJob currentRunId jobId now (attemptIds jobId)) (fun _ => rfl)
      (listJobIds _ middle) results
    rw [second] at last
    rw [show recovered.2 = _ from last, resume_serves]
    exact serve_modern modern _
  constructor
  · intro job listed running
    by_contra other
    obtain ⟨stored, unlisted⟩ := recoverLoop_clears
      (fun _ _ _ _ ran => recoverStaleJob_clears ran) second job listed ⟨running, other⟩
    refine unlisted (mem_listJobIds stored (decide_eq_true ⟨running, fun undigested => ?_, ?_⟩))
    · exact modern job stored ⟨undigested, running_nonterminal running⟩
    · obtain ⟨runId, claimed⟩ :=
        Option.isSome_iff_exists.mp ((running_iff_claimed stored).mp running).1
      exact ⟨runId, claimed, fun own => other (own ▸ claimed)⟩
  · intro calls job listed undigested
    by_contra active
    exact serve_modern kept calls job listed ⟨undigested, by simpa using active⟩

end Soma.Jobs
