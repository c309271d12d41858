import Soma.Imports.Completion

/-!
Which open runs can still be completed by commands on themselves. The checkpoint
of the family decides (`completable_iff`): a run it has passed is stranded, and it
is passed when another run of the family is finalized or checked first. Runs whose
commands strand none leave every open run completable (`run_completion`).
-/

namespace Soma.Imports

open Foundation Transaction Rows Execution

variable {python : PythonLibrary} {rows next : ImportRows} {actor : Actor}

/-- The states in which a published run waits for its completion. -/
def RunState.isOpen (state : RunState) : Bool :=
  state ∈ [.staged, .waitingReview, .recoveryRequired, .noopPendingCheckpoint]

/-- The commands that bring a run to its end: decisions on its proposals, its
recovery review, its finalization and its source check. -/
def Act.completes : Act → Bool
  | .review | .accept | .complete => true
  | .stage | .publish => false

/-- Such a command on one run is executed. -/
def Works (python : PythonLibrary) (importRunId : String) (tables next : ImportTables) : Prop :=
  ∃ command : ImportCommand, ∃ act : Act, act.completes = true ∧
    command.actor? tables.rows = some ⟨importRunId, act⟩ ∧ next = command.execute python tables

/-- Some sequence of commands on the run brings it to a terminal state. -/
def CanBeCompleted (python : PythonLibrary) (tables : ImportTables) (importRunId : String) : Prop :=
  ∃ next, Later (Works python importRunId) tables next ∧
    ∃ run ∈ next.rows.runs, run.importRunId = importRunId ∧ run.runState.isTerminal = true

/-! ## Completing what the checkpoint lets end -/

theorem canEnd_moved (old : ImportRun) {new : ImportRun} (same : next.checkpoints = rows.checkpoints)
    (identity : new.sourceFamily = old.sourceFamily ∧ new.sourceProfileId = old.sourceProfileId ∧
      new.chronologyKind = old.chronologyKind ∧ new.chronologyValue = old.chronologyValue ∧
      new.logicalFingerprint = old.logicalFingerprint)
    (states : new.runState = .waitingReview ∧
        (old.runState = .staged ∨ old.runState = .waitingReview) ∨
      new.runState = .recoveryRequired ∧ old.runState = .recoveryRequired ∧
        (old.counters.acceptedProposalCount = 0 → new.counters.acceptedProposalCount = 0))
    (mayEnd : old.CanEnd rows) : new.CanEnd next := by
  have checkpoint : next.checkpoint? new.sourceFamily = rows.checkpoint? old.sourceFamily := by
    unfold ImportRows.checkpoint?
    rw [same, identity.1]
  obtain ⟨-, profile, kind, value, fingerprint⟩ := identity
  unfold ImportRun.CanEnd ImportRun.MayEndUnder at mayEnd ⊢
  rw [checkpoint, profile, kind, value, fingerprint]
  rcases states with ⟨state, before | before⟩ | ⟨state, before, accepted⟩ <;>
    rw [before] at mayEnd <;> rw [state]
  · exact mayEnd
  · exact mayEnd
  · exact mayEnd.imp_left accepted

theorem works_command (importRunId : String) (command : ImportCommand) (act : Act)
    {tables : ImportTables} (completes : act.completes = true)
    (own : command.actor? tables.rows = some ⟨importRunId, act⟩)
    (ran : (command.body python).run tables = .ok (⟨⟩, after)) :
    Works python importRunId tables after ∧ (Standing tables.rows → Standing after.rows) := by
  have executed : command.execute python tables = after := by
    unfold ImportCommand.execute commit
    rw [ran]
  refine ⟨⟨command, act, completes, own, executed.symm⟩, fun standing => ?_⟩
  rw [← executed]
  exact execute_standing python command standing

variable {tables : ImportTables} {run : ImportRun}

section

variable (hexdigest : ∀ text, isSha256 (python.sha256Hex text) = true)

include hexdigest

/-- The pending proposals of a run are rejected one by one, under recovery each
after an authorization. -/
theorem drain (standing : Standing tables.rows) (inside : run ∈ tables.rows.runs)
    (reviewable : run.runState.isReviewable = true) (mayEnd : run.CanEnd tables.rows)
    (counted : run.counters.pendingProposalCount = pending) :
    ∃ after, Later (Works python run.importRunId) tables after ∧ Standing after.rows ∧
      ∃ last ∈ after.rows.runs, last.importRunId = run.importRunId ∧
        last.runState.isReviewable = true ∧ last.CanEnd after.rows ∧
        last.counters.pendingProposalCount = 0 := by
  induction pending generalizing tables run with
  | zero => exact ⟨tables, .refl, standing, run, inside, rfl, reviewable, mayEnd, counted⟩
  | succ pending ih =>
    have published := RunState.isReviewable_published reviewable
    -- The authorization changes the reviews only.
    have authorized : ∃ middle, Later (Works python run.importRunId) tables middle ∧
        middle.rows.runs = tables.rows.runs ∧ middle.rows.checkpoints = tables.rows.checkpoints ∧
        middle.rows.proposals = tables.rows.proposals ∧ Standing middle.rows ∧
        ∀ logicalFingerprint, run.logicalFingerprint = some logicalFingerprint →
          requireCurrentRecoveryAuthorization python middle.rows run logicalFingerprint =
            .ok () := by
      by_cases recovery : run.runState = .recoveryRequired
      · obtain ⟨resolution, middle, own, ran, same, guards⟩ :=
          authorize_run hexdigest standing inside recovery
        obtain ⟨works, keeps⟩ := works_command run.importRunId (.resolve resolution) .review rfl
          (by rw [ImportCommand.actor?, own]) ran
        exact ⟨middle, .single works, by rw [same], by rw [same], by rw [same], keeps standing,
          fun fingerprint present => (guards fingerprint present).1⟩
      · refine ⟨tables, .refl, rfl, rfl, rfl, standing, fun _ _ => ?_⟩
        simp [requireCurrentRecoveryAuthorization, recovery]
    obtain ⟨middle, first, runs, checkpoints, proposals, standingMiddle, guard⟩ := authorized
    have waiting : ∃ proposal ∈ middle.rows.proposals, proposal.importRunId = run.importRunId ∧
        proposal.proposalState = .pending := by
      have positive : 0 < (tables.rows.proposalsIn run.importRunId .pending).length := by
        have derived := standing.sound.counted run inside published
        rw [derived] at counted
        show 0 < (tables.rows.derivePublicationCounters run.importRunId).pendingProposalCount
        omega
      obtain ⟨proposal, listed⟩ := List.exists_mem_of_length_pos positive
      simp only [ImportRows.proposalsIn, ImportRows.proposalsOf, List.mem_filter,
        decide_eq_true_eq] at listed
      rw [proposals]
      exact ⟨proposal, listed.1.1, listed.1.2, listed.2⟩
    obtain ⟨proposal, insideProposals, own, isPending⟩ := waiting
    obtain ⟨after, rejected, checkpointsAfter, moved⟩ := reject_run standingMiddle
      (by rw [runs]; exact inside) reviewable guard insideProposals own isPending
    obtain ⟨works, keeps⟩ := works_command run.importRunId (.decide (rejection proposal)) .review
      rfl
      (by
        show (middle.rows.proposal? proposal.proposalId).map _ = _
        rw [proposal?_of_mem middle.valid insideProposals, Option.map_some, own])
      rejected
    have states : run.runState.underReview = .waitingReview ∧
          (run.runState = .staged ∨ run.runState = .waitingReview) ∨
        run.runState.underReview = .recoveryRequired ∧ run.runState = .recoveryRequired := by
      revert reviewable
      cases run.runState <;> simp [RunState.underReview, RunState.isReviewable]
    have mayEndAfter : ImportRun.CanEnd after.rows { run with
        runState := run.runState.underReview
        counters := run.counters.decided .rejected
        revision := run.revision + 1 } := by
      refine canEnd_moved run (checkpointsAfter.trans checkpoints) ⟨rfl, rfl, rfl, rfl, rfl⟩ ?_ mayEnd
      rcases states with ordinary | ⟨state, recovery⟩
      · exact .inl ordinary
      · exact .inr ⟨state, recovery, id⟩
    obtain ⟨last, rest, standingLast, final⟩ := ih (keeps standingMiddle) moved
      (by
        revert reviewable
        cases run.runState <;> simp [RunState.underReview, RunState.isReviewable])
      mayEndAfter
      (by
        show run.counters.pendingProposalCount - 1 = pending
        omega)
    exact ⟨last, (first.tail works).trans rest, standingLast, final⟩

theorem reviewable_completes (standing : Standing tables.rows) (inside : run ∈ tables.rows.runs)
    (reviewable : run.runState.isReviewable = true) (mayEnd : run.CanEnd tables.rows) :
    CanBeCompleted python tables run.importRunId := by
  obtain ⟨drained, first, standingDrained, last, insideLast, identity, reviewableLast, mayEndLast,
    decided⟩ := drain hexdigest standing inside reviewable mayEnd rfl
  have finalizes : ∀ middle : ImportTables, Later (Works python run.importRunId) tables middle →
      (∃ after, (finalizeRun python last.importRunId last.revision last.startedAtUtc).run middle =
          .ok (⟨⟩, after) ∧ after.rows.Ends last) →
        CanBeCompleted python tables run.importRunId := by
    rintro middle earlier ⟨after, ran, ended, present, own, terminal⟩
    obtain ⟨works, -⟩ := works_command run.importRunId
      (.finalize last.importRunId last.revision last.startedAtUtc) .complete rfl (by rw [← identity]; rfl) ran
    exact ⟨after, earlier.tail works, ended, present, own.trans identity, terminal⟩
  by_cases recovery : last.runState = .recoveryRequired
  · by_cases unaccepted : last.counters.acceptedProposalCount = 0
    · obtain ⟨resolution, after, own, ran, ended, present, sameRun, terminal⟩ :=
        rejectRecovery_run hexdigest standingDrained insideLast recovery unaccepted
      obtain ⟨works, -⟩ := works_command run.importRunId (.resolve resolution) .review rfl
        (by rw [ImportCommand.actor?, own, identity]) ran
      exact ⟨after, first.tail works, ended, present, sameRun.trans identity, terminal⟩
    · unfold ImportRun.CanEnd ImportRun.MayEndUnder at mayEndLast
      rw [recovery] at mayEndLast
      rcases mayEndLast with none | ⟨current, found, profile, kind, order⟩
      · exact absurd none unaccepted
      obtain ⟨resolution, middle, own, ran, same, guards⟩ :=
        authorize_run hexdigest standingDrained insideLast recovery
      obtain ⟨works, keeps⟩ := works_command run.importRunId (.resolve resolution) .review rfl
        (by rw [ImportCommand.actor?, own, identity]) ran
      have foundMiddle : middle.rows.checkpoint? last.sourceFamily = some current := by
        rw [same]
        exact found
      refine finalizes middle (first.tail works) (finalize_run (keeps standingDrained)
        (by rw [same]; exact insideLast) reviewableLast decided
        (fun ordinary => absurd recovery ordinary) fun _ => ?_)
      exact ⟨current, foundMiddle, profile, kind, order,
        fun fingerprint present => (guards fingerprint present).2 current foundMiddle⟩
  · exact finalizes drained first (finalize_run standingDrained insideLast reviewableLast decided
      (fun _ => mayEndLast) fun impossible => absurd impossible recovery)

theorem canEnd_completes (standing : Standing tables.rows) (inside : run ∈ tables.rows.runs)
    (isOpen : run.runState.isOpen = true) (mayEnd : run.CanEnd tables.rows) :
    CanBeCompleted python tables run.importRunId := by
  by_cases waiting : run.runState = .noopPendingCheckpoint
  · obtain ⟨check, after, own, ran, ended, present, identity, terminal⟩ :=
      recordCheck_run standing inside waiting mayEnd
    obtain ⟨works, -⟩ := works_command run.importRunId
      (.recordCheck check run.startedAtUtc) .complete rfl (by rw [ImportCommand.actor?, own]) ran
    exact ⟨after, .single works, ended, present, identity, terminal⟩
  · refine reviewable_completes hexdigest standing inside ?_ mayEnd
    revert isOpen waiting
    cases run.runState <;> simp [RunState.isOpen, RunState.isReviewable]

end

/-! ## What the checkpoint has passed stays open -/

/-- The run is open and the checkpoint of its family does not let it end. -/
def Stranded (importRunId : String) (rows : ImportRows) : Prop :=
  ∃ run ∈ rows.runs, run.importRunId = importRunId ∧ run.runState.isOpen = true ∧
    ¬ run.CanEnd rows

theorem RunState.isOpen_published {state : RunState} (isOpen : state.isOpen = true) :
    state.isPublished = true ∧ state.isTerminal = false := by
  cases state <;> first | exact ⟨rfl, rfl⟩ | cases isOpen

/-- No step about a stranded run ends it or frees it. -/
theorem Step.stranded (step : Step actor rows next) (valid : rows.Constraints)
    (stranded : Stranded actor.importRunId rows) : Stranded actor.importRunId next := by
  obtain ⟨run, inside, own, isOpen, stuck⟩ := stranded
  obtain ⟨published, _⟩ := RunState.isOpen_published isOpen
  -- The run a step about it rewrites is the run itself.
  have itself : ∀ old new, Moved actor rows next old new → old = run := fun old new moved =>
    run_unique valid inside moved.replaced.mem_old (moved.own.trans own.symm)
  cases step.change with
  | kept runs checkpoints =>
    refine ⟨run, by rw [runs]; exact inside, own, isOpen, fun mayEnd => stuck ?_⟩
    unfold ImportRun.CanEnd ImportRows.checkpoint? at mayEnd ⊢
    rwa [checkpoints] at mayEnd
  | started _ runs _ _ _ checkpoints =>
    refine ⟨run, by rw [runs]; exact List.mem_append_left _ inside, own, isOpen,
      fun mayEnd => stuck ?_⟩
    unfold ImportRun.CanEnd ImportRows.checkpoint? at mayEnd ⊢
    rwa [checkpoints] at mayEnd
  | completed old new moved _ _ ended =>
    obtain rfl := itself old new moved
    exact absurd (moved.ended published (ended_terminal ended)) stuck
  | moved old new moved checkpoints =>
    obtain rfl := itself old new moved
    have notEnded : new.runState.isTerminal = false := by
      by_contra ended
      exact stuck (moved.ended published (by simpa using ended))
    obtain ⟨identity, family, profile, kind, value⟩ := ImportRun.mayBecome_identity moved.allowed
    have fingerprint := ImportRun.mayBecome_fingerprint moved.allowed published
    have states := RunState.mayBecome_open (ImportRun.mayBecome_state moved.allowed) published
      notEnded
    refine ⟨new, moved.replaced.mem_new, identity.trans own, ?_, fun mayEnd => stuck ?_⟩
    · rcases states with ⟨state, -⟩ | ⟨state, -⟩ <;>
      · rw [state]
        rfl
    · have checkpoint : next.checkpoint? new.sourceFamily = rows.checkpoint? old.sourceFamily := by
        unfold ImportRows.checkpoint?
        rw [checkpoints, family]
      unfold ImportRun.CanEnd ImportRun.MayEndUnder at mayEnd ⊢
      rw [checkpoint, profile, kind, value, fingerprint] at mayEnd
      rcases states with ⟨state, before | before⟩ | ⟨state, before⟩ <;> rw [state] at mayEnd <;>
        rw [before]
      · exact mayEnd
      · exact mayEnd
      · refine mayEnd.imp_left fun none => ?_
        have grows := (moved.accepted published).1
        omega

theorem works_stranded (works : Works python importRunId tables after)
    (stranded : Stranded importRunId tables.rows) : Stranded importRunId after.rows := by
  obtain ⟨command, act, _, own, rfl⟩ := works
  rcases execute_steps python command tables with same | ⟨actor, found, steps⟩
  · rw [same]
    exact stranded
  · obtain rfl : (⟨importRunId, act⟩ : Actor) = actor := Option.some.inj (own.symm.trans found)
    have along : ∀ later, Steps ⟨importRunId, act⟩ tables later →
        Stranded importRunId later.rows := by
      intro later steps
      induction steps with
      | refl => exact stranded
      | tail _ step ih => exact step.stranded (ImportTables.valid _) ih
    exact along _ steps

theorem stranded_incompletable (stranded : Stranded importRunId tables.rows) :
    ¬ CanBeCompleted python tables importRunId := by
  rintro ⟨after, works, _, present, own, terminal⟩
  obtain ⟨_, inside, same, isOpen, -⟩ := Later.preserves
    (fun tables => Stranded importRunId tables.rows)
    (fun _ _ stranded works => works_stranded works stranded) works stranded
  obtain rfl := run_unique after.valid inside present (own.trans same.symm)
  rw [(RunState.isOpen_published isOpen).2] at terminal
  cases terminal

theorem completable_iff (hexdigest : ∀ text, isSha256 (python.sha256Hex text) = true)
    (standing : Standing tables.rows) (inside : run ∈ tables.rows.runs)
    (isOpen : run.runState.isOpen = true) :
    CanBeCompleted python tables run.importRunId ↔ run.CanEnd tables.rows := by
  constructor
  · intro completable
    by_contra stuck
    exact stranded_incompletable ⟨run, inside, rfl, isOpen, stuck⟩ completable
  · exact canEnd_completes hexdigest standing inside isOpen

/-! ## Runs that strand none -/

/-- The checkpoint the run would leave lets every other open run of its family end. -/
def ImportRun.PassesNone (rows : ImportRows) (run : ImportRun) : Prop :=
  ∀ other ∈ rows.runs, other.runState.isOpen = true → other.importRunId ≠ run.importRunId →
    other.sourceFamily = run.sourceFamily →
    ∀ logicalFingerprint, run.logicalFingerprint = some logicalFingerprint →
      ∀ revision, other.MayEndUnder (some (run.checkpoint logicalFingerprint revision))

/-- A recovery run older than the checkpoint: its finalization leaves it alone. -/
def ImportRun.IsOlder (rows : ImportRows) (run : ImportRun) : Prop :=
  ∃ checkpoint, rows.checkpoint? run.sourceFamily = some checkpoint ∧
    run.chronologyValue < checkpoint.chronologyValue

/-- The run could also end with an accepted proposal. -/
def ImportRun.CanEndAccepted (rows : ImportRows) (run : ImportRun) : Prop :=
  ImportRun.CanEnd rows { run with counters := { run.counters with acceptedProposalCount := 1 } }

/-- What keeps a command on a run from stranding one: a run is published under the
profile of the checkpoint, a recovery proposal is accepted only while the run could
be finalized, and a completion passes no other open run. -/
def Actor.StrandsNone (rows : ImportRows) (actor : Actor) : Prop :=
  ∀ run ∈ rows.runs, run.importRunId = actor.importRunId → run.runState.isTerminal = false →
    match actor.act with
    | .publish => ∀ checkpoint, rows.checkpoint? run.sourceFamily = some checkpoint →
        run.sourceProfileId = checkpoint.sourceProfileId
    | .accept => run.runState.isReviewable = true → run.CanEndAccepted rows
    | .complete => run.IsOlder rows ∨ run.PassesNone rows
    | .stage | .review => True

/-- Every open run can end. -/
def AllCanEnd (rows : ImportRows) : Prop :=
  ∀ run ∈ rows.runs, run.runState.isOpen = true → run.CanEnd rows

theorem checkpoint?_congr (same : next.checkpoints = rows.checkpoints) (family : SourceFamily) :
    next.checkpoint? family = rows.checkpoint? family := by
  unfold ImportRows.checkpoint?
  rw [same]

section Advances

variable {run : ImportRun}

section

variable (advanced : Advanced rows.checkpoints next.checkpoints run)

include advanced

theorem Advanced.found (valid : next.Constraints) : ∃ logicalFingerprint revision,
      run.logicalFingerprint = some logicalFingerprint ∧
      next.checkpoint? run.sourceFamily = some (run.checkpoint logicalFingerprint revision) := by
  cases advanced with
  | established logicalFingerprint revision fingerprint _ appended =>
    have inside : run.checkpoint logicalFingerprint revision ∈ next.checkpoints := by
      rw [appended]
      exact List.mem_concat_self
    exact ⟨logicalFingerprint, revision, fingerprint, checkpoint?_of_mem valid inside⟩
  | replaced _ logicalFingerprint revision fingerprint _ _ _ changed =>
    exact ⟨logicalFingerprint, revision, fingerprint, checkpoint?_of_mem valid changed.mem_new⟩

theorem Advanced.other (apart : family ≠ run.sourceFamily) :
    next.checkpoint? family = rows.checkpoint? family := by
  unfold ImportRows.checkpoint?
  cases advanced with
  | established _ _ _ _ appended =>
    rw [appended, List.find?_append]
    simp [ImportRun.checkpoint, Ne.symm apart]
  | replaced _ _ _ _ same _ _ changed =>
    exact changed.find?_ne same.symm (by rw [same]; exact apart)

theorem Advanced.not_older (valid : rows.Constraints) : ¬ run.IsOlder rows := by
  rintro ⟨checkpoint, found, _⟩
  obtain ⟨inside, family⟩ := checkpoint?_some found
  cases advanced with
  | established _ _ _ absent =>
    exact absent checkpoint inside family
  | replaced _ _ _ _ same _ _ changed =>
    obtain rfl := List.inj_on_of_nodup_map valid.checkpointFamilies changed.mem_old inside
      (same.trans family.symm)
    omega

end

end Advances

/-- A run published under the checkpoint's profile can end. -/
theorem ImportRun.Classified.canEnd (classified : run.Classified rows next)
    (same : next.checkpoints = rows.checkpoints)
    (profile : ∀ checkpoint, rows.checkpoint? run.sourceFamily = some checkpoint →
      run.sourceProfileId = checkpoint.sourceProfileId) : run.CanEnd next := by
  obtain ⟨_, _, fingerprint, _, target⟩ := classified.target
  have kind := classified.kind
  unfold ImportRun.CanEnd ImportRun.MayEndUnder
  rw [checkpoint?_congr same]
  cases found : rows.checkpoint? run.sourceFamily with
  | none =>
    rw [found] at target
    simp only [classifyReplay, targetState] at target
    split at target <;> simp [target]
  | some checkpoint =>
    have sameProfile := profile checkpoint found
    have sameKind := (kind checkpoint found).symm
    rw [found] at target
    simp only [classifyReplay] at target
    split_ifs at target with older equal identical identical <;> simp only [targetState] at target
    · rw [target]
      exact .inl classified.unaccepted
    · rw [target]
      trivial
    · rw [target]
      exact .inl classified.unaccepted
    · rw [target]
      exact ⟨checkpoint, rfl, sameProfile, sameKind, by omega, by rw [fingerprint, identical]⟩
    · have newer : checkpoint.chronologyValue < run.chronologyValue := by omega
      split at target <;>
      · rw [target]
        rintro current present
        obtain rfl : checkpoint = current := Option.some.inj present
        exact ⟨sameProfile, sameKind, newer⟩

theorem RunState.published_open {state : RunState} (published : state.isPublished = true)
    (notTerminal : state.isTerminal = false) : state.isOpen = true := by
  revert published notTerminal
  cases state <;> simp [RunState.isPublished, RunState.isTerminal, RunState.isOpen]

/-- The run a step rewrites can still end, when the step strands none. -/
theorem Moved.canEnd (moved : Moved actor rows next old new)
    (same : next.checkpoints = rows.checkpoints) (all : AllCanEnd rows)
    (careful : actor.StrandsNone rows) (isOpen : new.runState.isOpen = true) : new.CanEnd next := by
  obtain ⟨_, family, profile, kind, value⟩ := ImportRun.mayBecome_identity moved.allowed
  have inside := moved.replaced.mem_old
  have wasOpen := ImportRun.mayBecome_open moved.allowed
  have care := careful old inside moved.own wasOpen
  by_cases published : old.runState.isPublished = true
  · have fingerprint := ImportRun.mayBecome_fingerprint moved.allowed published
    have states := RunState.mayBecome_open (ImportRun.mayBecome_state moved.allowed) published
      (RunState.isOpen_published isOpen).2
    have mayEnd := all old inside (RunState.published_open published wasOpen)
    by_cases accepts : actor.act = .accept
    · rw [accepts] at care
      rcases states with ordinary | ⟨state, recovery⟩
      · exact canEnd_moved old same ⟨family, profile, kind, value, fingerprint⟩ (.inl ordinary) mayEnd
      · have accepted := care (by rw [recovery]; rfl)
        unfold ImportRun.CanEndAccepted ImportRun.CanEnd ImportRun.MayEndUnder at accepted
        unfold ImportRun.CanEnd ImportRun.MayEndUnder
        simp only [recovery] at accepted
        rw [state, checkpoint?_congr same, family, profile, kind, value, fingerprint]
        rcases accepted with impossible | ends
        · exact absurd impossible Nat.one_ne_zero
        · exact .inr ends
    · refine canEnd_moved old same ⟨family, profile, kind, value, fingerprint⟩ ?_ mayEnd
      rcases states with ordinary | ⟨state, recovery⟩
      · exact .inl ordinary
      · exact .inr ⟨state, recovery, fun none => by
          rw [(moved.accepted published).2 accepts, none]⟩
  · obtain ⟨publishes, classified⟩ := moved.published (by simpa using published)
    rw [publishes] at care
    refine classified.canEnd same ?_
    intro checkpoint found
    rw [family] at found
    rw [profile]
    exact care checkpoint found

theorem Moved.strandsNone (moved : Moved actor rows next old new)
    (same : next.checkpoints = rows.checkpoints) (valid : rows.Constraints)
    (careful : actor.StrandsNone rows) : actor.StrandsNone next := by
  obtain ⟨identity, family, profile, kind, value⟩ := ImportRun.mayBecome_identity moved.allowed
  intro run inside own notTerminal
  rcases moved.replaced.mem_next_keyed valid.runIds identity inside with rfl | ⟨_, apart⟩
  · have care := careful old moved.replaced.mem_old moved.own
      (ImportRun.mayBecome_open moved.allowed)
    have older : old.runState.isPublished = true ∨ actor.act = .publish := by
      by_cases published : old.runState.isPublished = true
      · exact .inl published
      · exact .inr (moved.published (by simpa using published)).1
    cases act : actor.act with
    | stage => trivial
    | review => trivial
    | publish =>
      rw [act] at care
      intro checkpoint found
      rw [checkpoint?_congr same, family] at found
      rw [profile]
      exact care checkpoint found
    | accept =>
      rw [act] at care older
      intro _
      have published : old.runState.isPublished = true := by simpa using older
      have fingerprint := ImportRun.mayBecome_fingerprint moved.allowed published
      have states := RunState.mayBecome_open (ImportRun.mayBecome_state moved.allowed) published
        notTerminal
      have wasReviewable : old.runState.isReviewable = true := by
        rcases states with ⟨-, before | before⟩ | ⟨-, before⟩ <;>
        · rw [before]
          rfl
      refine canEnd_moved
        { old with counters := { old.counters with acceptedProposalCount := 1 } } same
        ⟨family, profile, kind, value, fingerprint⟩ ?_ (care wasReviewable)
      rcases states with ordinary | ⟨state, recovery⟩
      · exact .inl ordinary
      · exact .inr ⟨state, recovery, id⟩
    | complete =>
      rw [act] at care older
      have published : old.runState.isPublished = true := by simpa using older
      have fingerprint := ImportRun.mayBecome_fingerprint moved.allowed published
      rcases care with ⟨checkpoint, found, order⟩ | passes
      · refine .inl ⟨checkpoint, ?_, by rw [value]; exact order⟩
        rw [checkpoint?_congr same, family]
        exact found
      · refine .inr fun other present isOpen apart sameFamily logicalFingerprint digest revision => ?_
        rcases moved.replaced.mem_next present with rfl | before
        · exact absurd rfl apart
        · rw [fingerprint] at digest
          rw [identity] at apart
          rw [family] at sameFamily
          have fits := passes other before isOpen apart sameFamily logicalFingerprint digest revision
          have agrees : run.checkpoint logicalFingerprint revision =
              old.checkpoint logicalFingerprint revision := by
            simp [ImportRun.checkpoint, identity, family, profile, kind, value]
          rw [agrees]
          exact fits
  · exact absurd (own.trans moved.own.symm) apart

theorem Step.allCanEnd (step : Step actor rows next) (valid : rows.Constraints)
    (validNext : next.Constraints) (all : AllCanEnd rows) (careful : actor.StrandsNone rows) :
    AllCanEnd next ∧ actor.StrandsNone next := by
  cases step.change with
  | kept runs checkpoints =>
    have mayEnd : ∀ run : ImportRun, run.CanEnd next ↔ run.CanEnd rows := fun run => by
      unfold ImportRun.CanEnd
      rw [checkpoint?_congr checkpoints]
    constructor
    · intro run inside isOpen
      rw [runs] at inside
      exact (mayEnd run).mpr (all run inside isOpen)
    · intro run inside own notTerminal
      rw [runs] at inside
      have care := careful run inside own notTerminal
      simp only [ImportRun.IsOlder, ImportRun.PassesNone, ImportRun.CanEndAccepted, mayEnd,
        checkpoint?_congr checkpoints, runs] at care ⊢
      exact care
  | started _ runs _ validating staged checkpoints =>
    constructor
    · intro run inside isOpen
      rw [runs] at inside
      rcases mem_concat inside with before | rfl
      · unfold ImportRun.CanEnd
        rw [checkpoint?_congr checkpoints]
        exact all run before isOpen
      · rw [validating] at isOpen
        cases isOpen
    · intro run _ _ _
      rw [staged]
      trivial
  | moved old new moved checkpoints =>
    refine ⟨fun run inside isOpen => ?_, moved.strandsNone checkpoints valid careful⟩
    rcases moved.replaced.mem_next inside with rfl | before
    · exact moved.canEnd checkpoints all careful isOpen
    · unfold ImportRun.CanEnd
      rw [checkpoint?_congr checkpoints]
      exact all run before isOpen
  | completed old new moved completes published ended advanced =>
    obtain ⟨identity, family, profile, kind, value⟩ := ImportRun.mayBecome_identity moved.allowed
    have fingerprint := ImportRun.mayBecome_fingerprint moved.allowed published
    have care := careful old moved.replaced.mem_old moved.own
      (ImportRun.mayBecome_open moved.allowed)
    rw [completes] at care
    have passes : old.PassesNone rows := by
      rcases care with ⟨checkpoint, found, order⟩ | passes
      · refine absurd ⟨checkpoint, ?_, by rw [value]; exact order⟩ (advanced.not_older valid)
        rw [family]
        exact found
      · exact passes
    constructor
    · intro run inside isOpen
      rcases moved.replaced.mem_next_keyed valid.runIds identity inside with rfl | ⟨before, apart⟩
      · have terminal := ended_terminal ended
        rw [(RunState.isOpen_published isOpen).2] at terminal
        cases terminal
      · by_cases sameFamily : run.sourceFamily = new.sourceFamily
        · obtain ⟨logicalFingerprint, revision, digest, found⟩ := advanced.found validNext
          unfold ImportRun.CanEnd
          rw [sameFamily, found]
          rw [fingerprint] at digest
          have agrees : new.checkpoint logicalFingerprint revision =
              old.checkpoint logicalFingerprint revision := by
            simp [ImportRun.checkpoint, identity, family, profile, kind, value]
          rw [agrees]
          exact passes run before isOpen apart (sameFamily.trans family) logicalFingerprint digest
            revision
        · unfold ImportRun.CanEnd
          rw [advanced.other sameFamily]
          exact all run before isOpen
    · intro run inside own notTerminal
      rcases moved.replaced.mem_next_keyed valid.runIds identity inside with rfl | ⟨_, apart⟩
      · rw [ended_terminal ended] at notTerminal
        cases notTerminal
      · exact absurd (own.trans moved.own.symm) apart

/-! ## The result -/

/-- A command that strands none is executed. -/
def CarefullyExecutes (python : PythonLibrary) (tables next : ImportTables) : Prop :=
  ∃ command : ImportCommand,
    (∀ actor, command.actor? tables.rows = some actor → actor.StrandsNone tables.rows) ∧
    next = command.execute python tables

theorem carefullyExecutes_allCanEnd (executed : CarefullyExecutes python tables after)
    (all : AllCanEnd tables.rows) : AllCanEnd after.rows := by
  obtain ⟨command, careful, rfl⟩ := executed
  rcases execute_steps python command tables with same | ⟨actor, found, steps⟩
  · rw [same]
    exact all
  · have along : ∀ later, Steps actor tables later →
        AllCanEnd later.rows ∧ actor.StrandsNone later.rows := by
      intro later steps
      induction steps with
      | refl => exact ⟨all, careful actor found⟩
      | tail _ step ih =>
        exact step.allCanEnd (ImportTables.valid _) (ImportTables.valid _) ih.1 ih.2
    exact (along _ steps).1

/-- In every reachable state an open run can be completed exactly when the checkpoint
of its family lets it end, and in every run whose commands strand none every open
run of every state can be completed. -/
theorem run_completion (hexdigest : ∀ text, isSha256 (python.sha256Hex text) = true) :
    (∀ tables, Reachable (· = ImportTables.migrated) (Executes python) tables →
      ∀ run ∈ tables.rows.runs, run.runState.isOpen = true →
        (CanBeCompleted python tables run.importRunId ↔ run.CanEnd tables.rows)) ∧
    ∀ tables, Reachable (· = ImportTables.migrated) (CarefullyExecutes python) tables →
      ∀ run ∈ tables.rows.runs, run.runState.isOpen = true →
        CanBeCompleted python tables run.importRunId := by
  refine ⟨fun tables reached run inside isOpen =>
    completable_iff hexdigest (reachable_standing reached) inside isOpen, ?_⟩
  intro tables reached run inside isOpen
  have invariant : Standing tables.rows ∧ AllCanEnd tables.rows := by
    refine reached.invariant (fun tables => Standing tables.rows ∧ AllCanEnd tables.rows) ?_ ?_
    · rintro _ rfl
      have fresh : Reachable (· = ImportTables.migrated) (Executes python) .migrated := .start rfl
      exact ⟨reachable_standing fresh, fun _ none => absurd none List.not_mem_nil⟩
    · rintro tables after ⟨standing, all⟩ executed
      refine ⟨?_, carefullyExecutes_allCanEnd executed all⟩
      obtain ⟨command, _, rfl⟩ := executed
      exact execute_standing python command standing
  exact canEnd_completes hexdigest invariant.1 inside isOpen (invariant.2 run inside isOpen)

theorem samplePython_hexdigest (text : String) : isSha256 (samplePython.sha256Hex text) = true :=
  show isSha256 (String.ofList (List.replicate 64 'a')) = true by decide

/-- A run published without proposals, waiting for its finalization. -/
def sampleStaged : ImportTables :=
  afterCommands (sampleImport "3f2b8c1e-9d4a-4c7f-8a6b-0123456789ab" 10) .migrated

theorem sample_staged_completes :
    CanBeCompleted samplePython sampleStaged "3f2b8c1e-9d4a-4c7f-8a6b-0123456789ab" := by
  have published : ∃ run ∈ sampleStaged.rows.runs,
      run.importRunId = "3f2b8c1e-9d4a-4c7f-8a6b-0123456789ab" ∧ run.runState = .staged ∧
      run.sourceFamily = .rfcEnhanced := by decide
  have absent : sampleStaged.rows.checkpoint? .rfcEnhanced = none := by decide
  obtain ⟨run, inside, own, state, family⟩ := published
  have completable := (run_completion samplePython_hexdigest).1 sampleStaged
    (afterCommands_reached _ (.start rfl)) run inside (by rw [state]; rfl)
  rw [own] at completable
  refine completable.mpr ?_
  unfold ImportRun.CanEnd ImportRun.MayEndUnder
  rw [state, family, absent]
  simp

/-- Two files of one family are published, the later one is finalized first. -/
def sampleStranded : ImportTables :=
  afterCommands
    (sampleImport "3f2b8c1e-9d4a-4c7f-8a6b-0123456789ab" 10 ++
      sampleImport "7a1c5d2e-0b3f-4e6a-9c8d-0123456789ab" 20 ++
      [.finalize "7a1c5d2e-0b3f-4e6a-9c8d-0123456789ab" 2 0]) .migrated

theorem earlier_file_stranded :
    ¬ ∀ tables, Reachable (· = ImportTables.migrated) (Executes samplePython) tables →
      ∀ run ∈ tables.rows.runs, run.runState.isOpen = true →
        CanBeCompleted samplePython tables run.importRunId := by
  intro claimed
  have published : ∃ run ∈ sampleStranded.rows.runs, run.runState = .staged ∧
      run.sourceFamily = .rfcEnhanced ∧ run.chronologyValue = 10 := by decide
  have moved : (sampleStranded.rows.checkpoint? .rfcEnhanced).map (·.chronologyValue) =
      some 20 := by decide
  obtain ⟨run, inside, state, family, value⟩ := published
  obtain ⟨checkpoint, found, later⟩ := Option.map_eq_some_iff.mp moved
  have isOpen : run.runState.isOpen = true := by rw [state]; rfl
  refine stranded_incompletable ⟨run, inside, rfl, isOpen, fun mayEnd => ?_⟩
    (claimed _ (afterCommands_reached _ (.start rfl)) run inside isOpen)
  unfold ImportRun.CanEnd ImportRun.MayEndUnder at mayEnd
  rw [state, family, found] at mayEnd
  obtain ⟨-, -, newer⟩ := mayEnd checkpoint rfl
  omega

end Soma.Imports
