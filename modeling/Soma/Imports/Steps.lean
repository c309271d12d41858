import Soma.Imports.Moves

/-!
Every command of the import tables, inverted once: a committed command is a
sequence of steps (`command_steps`). The later modules reason about steps and
never unfold a command again.
-/

namespace Soma.Imports

open Foundation Transaction Rows

variable {tables next : ImportTables} {value : PUnit} {importRunId : String} {actor : Actor}

/-! ## Starting, staging and publishing -/

/-- A write that leaves runs and checkpoints alone. -/
structure Staged (actor : Actor) (tables next : ImportTables) : Prop where
  runs : next.rows.runs = tables.rows.runs
  checkpoints : next.rows.checkpoints = tables.rows.checkpoints
  steps : Steps actor tables next

namespace Staged

theorem refl : Staged actor tables tables := ⟨rfl, rfl, .refl⟩

theorem trans (first : Staged actor tables next) (second : Staged actor next last) :
    Staged actor tables last :=
  ⟨second.runs.trans first.runs, second.checkpoints.trans first.checkpoints,
    first.steps.trans second.steps⟩

end Staged

theorem start_steps
    (ran : (startValidatingRun importRunId sourceFamily sourceProfileId chronologyKind
      chronologyValue startedAtUtc).run tables = .ok (value, next)) :
    Steps ⟨importRunId, .stage⟩ tables next := by
  simp only [startValidatingRun, steps_ok, requireUuid4, ensure_ok] at ran
  obtain ⟨canonical, _, _, wrote⟩ := ran
  have same := writeImports_ok wrote
  refine .single ⟨.started _ (by rw [same]) canonical rfl rfl (by rw [same]) ?_, ?_⟩
  · intro other
    rw [same]
    exact ⟨rfl, rfl, rfl⟩
  · intro row inside
    rw [same] at inside
    exact .inr ⟨row, inside, rfl⟩

variable {expectedRevision : Int}

/-- A validating run's own rows are counted for no published run. -/
theorem staged_of_validating
    (validating : requireValidatingRun tables.rows importRunId expectedRevision = .ok ())
    (wrote : next.rows = { tables.rows with observations, findings })
    (evidence : ∀ other, other ≠ importRunId →
      SameEvidence tables.rows { tables.rows with observations, findings } other) :
    Staged actor tables next := by
  have runs : next.rows.runs = tables.rows.runs := by rw [wrote]
  have checkpoints : next.rows.checkpoints = tables.rows.checkpoints := by rw [wrote]
  rw [← wrote] at evidence
  refine ⟨runs, checkpoints, .single ⟨.kept runs checkpoints fun run inside published => ?_, ?_⟩⟩
  · apply evidence
    intro own
    unfold requireValidatingRun at validating
    split at validating
    · cases validating
    · rename_i staging found
      obtain ⟨state, -⟩ := ensure_ok.mp validating
      obtain ⟨inRuns, identity⟩ := run?_some found
      rw [run_unique tables.valid inRuns inside (own.trans identity.symm), state] at published
      cases published
  · intro row inside
    rw [wrote] at inside
    exact .inr ⟨row, inside, rfl⟩

theorem stageObservations_staged
    (ran : (stageObservations importRunId expectedRevision observations).run tables =
      .ok (value, next)) : Staged actor tables next := by
  simp only [stageObservations, steps_ok] at ran
  obtain ⟨_, validating, wrote⟩ := ran
  refine staged_of_validating validating (writeImports_ok wrote) fun other apart => ?_
  refine ⟨?_, rfl, rfl⟩
  rw [List.filter_append, List.append_right_eq_self, List.filter_eq_nil_iff]
  intro row inside
  obtain ⟨_, _, rfl⟩ := List.mem_map.mp inside
  simpa using Ne.symm apart

theorem stageFindings_staged
    (ran : (stageFindings importRunId expectedRevision findings).run tables =
      .ok (value, next)) : Staged actor tables next := by
  simp only [stageFindings, steps_ok] at ran
  obtain ⟨validating, wrote⟩ := ran
  refine staged_of_validating validating (writeImports_ok wrote) fun other apart => ?_
  refine ⟨rfl, ?_, rfl⟩
  rw [List.filter_append, List.append_right_eq_self, List.filter_eq_nil_iff]
  intro row inside
  obtain ⟨_, _, rfl⟩ := List.mem_map.mp inside
  simpa using Ne.symm apart

theorem cleanupUnpublished_staged
    (ran : (cleanupUnpublished importRunId expectedRevision).run tables = .ok (value, next)) :
    Staged actor tables next := by
  simp only [cleanupUnpublished, steps_ok] at ran
  obtain ⟨validating, wrote⟩ := ran
  refine staged_of_validating validating (writeImports_ok wrote) fun other apart => ?_
  refine ⟨?_, ?_, rfl⟩ <;>
  · rw [List.filter_filter]
    refine List.filter_congr fun row _ => ?_
    by_cases own : row.importRunId = other <;> simp [own, apart]

/-- A proposal of a validating run is appended or found. -/
theorem insertOrReusePending_staged
    (ran : (insertOrReusePending importRunId write).run tables = .ok (proposalId, next)) :
    Staged actor tables next := by
  simp only [insertOrReusePending, steps_ok] at ran
  obtain ⟨validated, ran⟩ := ran
  split at ran
  · simp only [throw_ok] at ran
  · rename_i run found
    simp only [steps_ok] at ran
    obtain ⟨validating, _, ran⟩ := ran
    split at ran
    · simp only [steps_ok] at ran
      obtain ⟨_, wrote, _, rfl⟩ := ran
      have same := writeImports_ok wrote
      simp only [validatePendingWrite, except_ok] at validated
      obtain ⟨_, _, _, _, _, fingerprint⟩ := validated
      refine ⟨by rw [same]; rfl, by rw [same]; rfl, .single ⟨.kept (by rw [same]; rfl)
        (by rw [same]; rfl) fun published inside isPublished => ?_, ?_⟩⟩
      · rw [same]
        refine sameEvidence_of_proposals ?_
        have apart : importRunId ≠ published.importRunId := by
          rintro rfl
          obtain ⟨inRuns, identity⟩ := run?_some found
          rw [run_unique tables.valid inRuns inside identity.symm, validating] at isPublished
          cases isPublished
        simp [List.filter_append, apart, ImportRows.proposalsOf]
      · intro row inside
        rw [same] at inside
        rcases Rows.mem_concat inside with inside | inside
        · exact .inr ⟨row, inside, rfl⟩
        · rw [inside]
          exact .inl fingerprint
    · simp only [pure_ok] at ran
      exact ran.2 ▸ .refl
    · simp only [throw_ok] at ran

variable {writes : List PendingWrite}

theorem persistProposals_staged
    (ran : (persistProposals importRunId writes persisted).run tables = .ok (result, next)) :
    Staged actor tables next := by
  induction writes generalizing persisted tables with
  | nil =>
    simp only [persistProposals, pure_ok] at ran
    exact ran.2 ▸ .refl
  | cons write writes ih =>
    simp only [persistProposals, steps_ok] at ran
    obtain ⟨_, _, inserted, _, rest⟩ := ran
    exact (insertOrReusePending_staged inserted).trans (ih rest)

theorem persistExactProposalSet_staged
    (ran : (persistExactProposalSet importRunId writes).run tables = .ok (count, next)) :
    Staged actor tables next := by
  simp only [persistExactProposalSet, steps_ok] at ran
  obtain ⟨_, _, persisted, _, _, _, rfl⟩ := ran
  exact persistProposals_staged persisted

theorem materials_of_runs (proposals : next.rows.proposals = tables.rows.proposals) :
    ∀ row ∈ next.rows.proposals, isSha256 row.material.proposalFingerprint = true ∨
      ∃ before ∈ tables.rows.proposals, before.material = row.material := by
  intro row inside
  rw [proposals] at inside
  exact .inr ⟨row, inside, rfl⟩

variable {logicalFingerprint : String}

/-- The publication of a run whose target its classification chose. -/
theorem publishValidatingRun_steps (hashed : isSha256 logicalFingerprint = true)
    (classified : ∀ run, tables.rows.run? importRunId = some run →
      (∀ checkpoint ∈ tables.rows.checkpoint? run.sourceFamily,
        checkpoint.chronologyKind = run.chronologyKind) ∧
      ∃ proposals, target = targetState (classifyReplay run.chronologyValue logicalFingerprint
        (tables.rows.checkpoint? run.sourceFamily)) proposals)
    (ran : (publishValidatingRun importRunId expectedRevision logicalFingerprint target now).run
      tables = .ok (counters, next)) : Steps ⟨importRunId, .publish⟩ tables next := by
  simp only [publishValidatingRun, bind_ok, get_ok] at ran
  obtain ⟨_, _, ⟨rfl, rfl⟩, ran⟩ := ran
  split at ran
  · simp only [throw_ok] at ran
  rename_i run found
  simp only [steps_ok] at ran
  obtain ⟨_, backed, _, updated, _, rfl⟩ := ran
  obtain ⟨old, selected, allowed, replaced, same⟩ := updateRun_replaced updated
  simp only [decide_eq_true_eq] at selected
  obtain ⟨inside, identity⟩ := run?_some found
  obtain rfl : old = run :=
    run_unique tables.valid inside replaced.mem_old (selected.1.trans identity.symm)
  obtain ⟨kind, proposals, chosen⟩ := classified old found
  simp only [requireEvidenceFor, except_ok] at backed
  obtain ⟨pending, _, _, cleared⟩ := backed
  have unpublished : old.runState.isPublished = false := by rw [selected.2.1]; rfl
  refine .single ⟨.moved old _ ⟨identity, replaced, allowed, ?_, ?_, ?_, ?_, ?_⟩ (by rw [same]),
    materials_of_runs (by rw [same])⟩
  · intro other _
    rw [same]
    exact ⟨rfl, rfl, rfl⟩
  · intro _
    rw [same, identity]
    rfl
  · intro _
    refine ⟨rfl, kind, ⟨logicalFingerprint, proposals, rfl, hashed, chosen⟩, ?_, ?_⟩
    · show (tables.rows.proposalsIn importRunId .accepted).length = 0
      rw [List.length_eq_zero_iff, ImportRows.proposalsIn, List.filter_eq_nil_iff]
      intro row own
      simp [pending row own]
    · intro waiting
      obtain ⟨observed, proposed, _⟩ := cleared (.inr waiting)
      exact ⟨proposed, observed⟩
  · intro published
    rw [unpublished] at published
    cases published
  · intro published
    rw [unpublished] at published
    cases published

theorem publish_steps (ran : (publish publication).run tables = .ok (value, next)) :
    Steps ⟨publication.importRunId, .publish⟩ tables next := by
  simp only [publish, steps_ok] at ran
  obtain ⟨_, _, hashed, classification, prepared, ran⟩ := ran
  have chosen : ∀ staged : ImportTables, Staged ⟨publication.importRunId, .publish⟩ tables staged → ∀ proposals,
      ∀ run, staged.rows.run? publication.importRunId = some run →
        (∀ checkpoint ∈ staged.rows.checkpoint? run.sourceFamily,
          checkpoint.chronologyKind = run.chronologyKind) ∧
        ∃ count, targetState classification proposals =
          targetState (classifyReplay run.chronologyValue publication.logicalFingerprint
            (staged.rows.checkpoint? run.sourceFamily)) count := by
    intro staged same proposals run found
    unfold ImportRows.run? at found
    unfold ImportRows.checkpoint?
    rw [same.runs] at found
    rw [same.checkpoints]
    unfold preparePublication at prepared
    rw [show tables.rows.run? publication.importRunId = some run from found] at prepared
    simp only [except_ok] at prepared
    obtain ⟨_, agreed, _, classified⟩ := prepared
    refine ⟨?_, proposals, by rw [← classified]; rfl⟩
    intro checkpoint current
    unfold ImportRows.checkpoint? at agreed
    rw [show List.find? _ _ = some checkpoint from current] at agreed
    exact ensure_ok.mp agreed
  split at ran
  · simp only [publishNoop, steps_ok] at ran
    obtain ⟨cleaned, cleanup, _, _, published, _, rfl⟩ := ran
    have staged : Staged ⟨publication.importRunId, .publish⟩ tables cleaned :=
      cleanupUnpublished_staged cleanup
    exact staged.steps.trans (publishValidatingRun_steps hashed (chosen _ staged _) published)
  · simp only [publishProposals, steps_ok] at ran
    obtain ⟨_, _, persist, found, findings, _, _, published, _, rfl⟩ := ran
    have staged : Staged ⟨publication.importRunId, .publish⟩ tables found :=
      (persistExactProposalSet_staged persist).trans (stageFindings_staged findings)
    exact staged.steps.trans (publishValidatingRun_steps hashed (chosen _ staged _) published)

/-! ## Decisions and follow-ons -/

theorem RunState.isReviewable_published {state : RunState} (reviewable : state.isReviewable = true) :
    state.isPublished = true := by
  cases state <;> first | rfl | cases reviewable

theorem RunState.underReview_open (state : RunState) : state.underReview.isTerminal = false := by
  unfold RunState.underReview
  split <;> rfl

variable {run : ImportRun}

theorem transitionProposal_steps (insideProposals : proposal ∈ tables.rows.proposals)
    (insideRuns : run ∈ tables.rows.runs) (own : proposal.importRunId = run.importRunId)
    (decided : state ≠ .pending)
    (acts : actor.importRunId = run.importRunId ∧ (actor.act ≠ .accept → state ≠ .accepted))
    (ran : (transitionProposal proposal run state).run tables = .ok (value, next)) :
    Step actor tables.rows next.rows := by
  simp only [transitionProposal, steps_ok] at ran
  obtain ⟨middle, updatedProposal, updatedRun⟩ := ran
  obtain ⟨oldProposal, selectedProposal, replacedProposal, sameProposals⟩ :=
    updateProposal_replaced updatedProposal
  obtain ⟨selected, allowed, replaced, same⟩ :=
    updateRun_own insideRuns (by rw [sameProposals]) updatedRun
  simp only [decide_eq_true_eq] at selectedProposal
  obtain rfl : oldProposal = proposal :=
    proposal_unique tables.valid insideProposals replacedProposal.mem_old selectedProposal.1
  have published := RunState.isReviewable_published selected.2.2
  have final : next.rows = { tables.rows with
      proposals := middle.rows.proposals, runs := next.rows.runs } := by
    rw [same, sameProposals]
  refine ⟨.moved run _ ⟨acts.1.symm, replaced, allowed, ?_, ?_, ?_, ?_, ?_⟩ (by rw [final]), ?_⟩
  · intro other apart
    rw [final]
    refine ⟨rfl, rfl, replacedProposal.filter_eq ?_ ?_⟩ <;> simp [own, Ne.symm apart]
  · intro counted
    have step := counters_decided tables.rows replacedProposal selectedProposal.2.1 rfl
      decided
    rw [own] at step
    rw [final]
    show run.counters.decided state = _
    rw [counted published]
    exact step.symm
  · intro unpublished
    rw [published] at unpublished
    cases unpublished
  · intro _
    refine ⟨Nat.le_add_right _ _, fun refused => ?_⟩
    simp [Counters.decided, acts.2 refused]
  · intro _ ended
    rw [RunState.underReview_open] at ended
    cases ended
  · intro row inside
    rw [final] at inside
    rcases replacedProposal.mem_next inside with rfl | inside
    · exact .inr ⟨oldProposal, insideProposals, rfl⟩
    · exact .inr ⟨row, inside, rfl⟩

variable {rows : ImportRows}

theorem requirePending_ok :
    requirePending rows proposalId = .ok proposal ↔
      rows.proposal? proposalId = some proposal ∧ proposal.proposalState = .pending := by
  unfold requirePending
  split
  · rename_i missing
    simp [missing]
  · rename_i found present
    simp only [except_bind_ok, ensure_ok, pure, Except.pure, Except.ok.injEq, present,
      Option.some.injEq]
    constructor
    · rintro ⟨_, pending, rfl⟩
      exact ⟨rfl, pending⟩
    · rintro ⟨rfl, pending⟩
      exact ⟨⟨⟩, pending, rfl⟩

/-- What reading a published run with its fingerprint returns, whatever it raises. -/
theorem published_ok {found : Option ImportRun} {missing unpublished : Raised} :
    (match found with
      | none => .error missing
      | some run =>
        match run.logicalFingerprint with
        | none => .error unpublished
        | some logicalFingerprint => .ok (run, logicalFingerprint) :
      Except Raised (ImportRun × String)) = .ok (run, logicalFingerprint) ↔
      found = some run ∧ run.logicalFingerprint = some logicalFingerprint := by
  cases found with
  | none => simp
  | some found =>
    dsimp only
    split
    · rename_i unpublished
      simp only [reduceCtorEq, Option.some.injEq, false_iff, not_and]
      rintro rfl
      simp [unpublished]
    · rename_i fingerprint published
      simp only [Except.ok.injEq, Prod.mk.injEq, Option.some.injEq]
      constructor
      · rintro ⟨rfl, rfl⟩
        exact ⟨rfl, published⟩
      · rintro ⟨rfl, same⟩
        exact ⟨rfl, Option.some.inj (published.symm.trans same)⟩

theorem getRun_ok :
    getRun rows importRunId = .ok (run, logicalFingerprint) ↔
      rows.run? importRunId = some run ∧ run.logicalFingerprint = some logicalFingerprint :=
  published_ok

variable {python : PythonLibrary}

theorem decideProposal_steps
    (ran : (decideProposal python decision).run tables = .ok (value, next)) :
    ∃ proposal, tables.rows.proposal? decision.proposalId = some proposal ∧
      Steps ⟨proposal.importRunId, .review⟩ tables next := by
  simp only [decideProposal, prepareDecision, bind_ok, attempt_ok, require_ok, get_ok,
    except_bind_ok, requirePending_ok, ensure_ok, pure, Except.pure, Except.ok.injEq] at ran
  obtain ⟨_, _, ⟨_, rfl⟩, _, _, ⟨_, rfl⟩, _, _, ⟨_, rfl⟩, _, _, ⟨rfl, rfl⟩, _, _,
    ⟨⟨proposal, ⟨foundProposal, _⟩, _, _, ⟨run, _⟩, found, _, _, _, _, rfl⟩, rfl⟩, ran⟩ :=
    ran
  obtain ⟨foundRun, _⟩ := getRun_ok.mp found
  obtain ⟨insideRuns, identity⟩ := run?_some foundRun
  refine ⟨proposal, foundProposal, .single (transitionProposal_steps
    (proposal?_some foundProposal).1 insideRuns identity.symm ?_ ⟨identity.symm, fun _ => ?_⟩ ran)⟩ <;>
  cases decision.disposition <;> simp [Disposition.state]

theorem validateFollowOns_ok :
    validateFollowOns writes = .ok () ↔
      ∀ write ∈ writes, validatePendingWrite write.material = .ok () := by
  induction writes with
  | nil => simp [validateFollowOns]
  | cons write writes ih =>
    simp only [validateFollowOns, except_bind_ok, ih, List.forall_mem_cons]
    constructor
    · rintro ⟨_, first, rest⟩
      exact ⟨first, rest⟩
    · rintro ⟨first, rest⟩
      exact ⟨⟨⟩, first, rest⟩

theorem validatePendingWrite_fingerprint (validated : validatePendingWrite material = .ok ()) :
    isSha256 material.proposalFingerprint = true := by
  simp only [validatePendingWrite, except_ok] at validated
  obtain ⟨_, _, _, _, _, fingerprint⟩ := validated
  exact fingerprint

theorem appendFollowOns_steps
    (validated : ∀ write ∈ retained, isSha256 write.material.proposalFingerprint = true)
    (insideRuns : run ∈ tables.rows.runs)
    (ran : (appendFollowOns run expectedRunRevision retained).run tables = .ok (value, next)) :
    Step ⟨run.importRunId, .accept⟩ tables.rows next.rows := by
  simp only [appendFollowOns, steps_ok] at ran
  obtain ⟨middle, wrote, updated⟩ := ran
  have appended := writeImports_ok wrote
  obtain ⟨selected, allowed, replaced, same⟩ := updateRun_own insideRuns (by rw [appended]) updated
  have published : run.runState.isPublished = true := by
    revert selected
    cases run.runState <;> simp [RunState.takesFollowOns, RunState.isPublished]
  have final : next.rows = { tables.rows with
      proposals := middle.rows.proposals, runs := next.rows.runs } := by
    rw [same, appended]
  refine ⟨.moved run _ ⟨rfl, replaced, allowed, ?_, ?_, ?_, ?_, ?_⟩ (by rw [final]), ?_⟩
  · intro other apart
    rw [final, appended]
    refine ⟨rfl, rfl, ?_⟩
    show List.filter _ (_ ++ _) = _
    rw [List.filter_append, ImportRows.proposalsOf, List.append_right_eq_self,
      List.filter_eq_nil_iff]
    intro row inside
    obtain ⟨_, _, rfl⟩ := List.mem_map.mp inside
    simpa using Ne.symm apart
  · intro counted
    rw [final, appended]
    show run.counters.followed retained.length = _
    rw [counted published]
    refine ((counters_followed tables.rows rfl ?_).trans (by rw [List.length_map])).symm
    intro row inside
    obtain ⟨_, _, rfl⟩ := List.mem_map.mp inside
    exact ⟨rfl, rfl⟩
  · intro unpublished
    rw [published] at unpublished
    cases unpublished
  · intro _
    exact ⟨le_refl _, fun _ => rfl⟩
  · intro _ ended
    rw [RunState.underReview_open] at ended
    cases ended
  · intro row inside
    rw [final, appended] at inside
    rcases List.mem_append.mp inside with inside | inside
    · exact .inr ⟨row, inside, rfl⟩
    · obtain ⟨write, chosen, rfl⟩ := List.mem_map.mp inside
      exact .inl (validated write chosen)

theorem insertFollowOnPendingSet_steps {suppressed : Material → Bool}
    (ran : (insertFollowOnPendingSet importRunId expectedRunRevision writes suppressed).run tables =
      .ok (value, next)) : Steps ⟨importRunId, .accept⟩ tables next := by
  unfold insertFollowOnPendingSet at ran
  split at ran
  · simp only [pure_ok] at ran
    exact ran.2 ▸ .refl
  simp only [steps_ok] at ran
  obtain ⟨validated, _, ran⟩ := ran
  split at ran
  · simp only [throw_ok] at ran
  rename_i run found
  simp only [steps_ok] at ran
  obtain ⟨_, ran⟩ := ran
  split at ran
  · simp only [pure_ok] at ran
    exact ran.2 ▸ .refl
  simp only [steps_ok] at ran
  obtain ⟨_, appended⟩ := ran
  obtain ⟨insideRuns, identity⟩ := run?_some found
  rw [← identity]
  refine .single (appendFollowOns_steps ?_ insideRuns appended)
  intro write inside
  exact validatePendingWrite_fingerprint
    (validateFollowOns_ok.mp validated write (List.mem_of_mem_filter inside))

theorem accept_steps (ran : (accept python acceptance).run tables = .ok (value, next)) :
    ∃ proposal, tables.rows.proposal? acceptance.proposalId = some proposal ∧
      Steps ⟨proposal.importRunId, .accept⟩ tables next := by
  simp only [accept, prepareAcceptance, bind_ok, attempt_ok, require_ok, get_ok,
    except_bind_ok, requirePending_ok, ensure_ok, pure, Except.pure, Except.ok.injEq] at ran
  obtain ⟨_, _, ⟨_, rfl⟩, _, _, ⟨_, rfl⟩, _, _, ⟨_, rfl⟩, _, _, ⟨_, rfl⟩, _, _, ⟨rfl, rfl⟩, _, _,
    ⟨⟨proposal, ⟨foundProposal, _⟩, _, _, _, _, ⟨run, _⟩, found, _, _, _, _, rfl⟩, rfl⟩,
    _, _, ⟨_, rfl⟩, _, middle, transition, followed⟩ := ran
  obtain ⟨foundRun, _⟩ := getRun_ok.mp found
  obtain ⟨insideRuns, identity⟩ := run?_some foundRun
  have first : Step ⟨proposal.importRunId, .accept⟩ tables.rows middle.rows :=
    transitionProposal_steps (proposal?_some foundProposal).1 insideRuns identity.symm (by decide)
      ⟨identity.symm, fun other => absurd rfl other⟩ transition
  exact ⟨proposal, foundProposal, .head first (insertFollowOnPendingSet_steps followed)⟩

/-! ## Completing runs -/

theorem getCheckpointTransitionRun_ok {missing : Raised} :
    getCheckpointTransitionRun rows importRunId missing = .ok (run, logicalFingerprint) ↔
      rows.run? importRunId = some run ∧ run.logicalFingerprint = some logicalFingerprint :=
  published_ok

theorem finalState_ended (counters : Counters) :
    finalState counters ∈ [RunState.accepted, .partiallyAccepted, .rejected, .noop] := by
  unfold finalState
  split_ifs <;> decide

/-- A reviewed run of `tables` that the checkpoint lets end, completed after the
checkpoint was written. -/
theorem completeRun_moved {middle : ImportTables} (insideRuns : run ∈ tables.rows.runs)
    (mayEnd : run.CanEnd tables.rows) (reviewable : run.runState.isReviewable = true)
    (checkpointed : middle.rows =
      { tables.rows with checkpoints := middle.rows.checkpoints })
    (ran : (completeRun run states now stale).run middle = .ok (value, next)) :
    Moved ⟨run.importRunId, .complete⟩ tables.rows next.rows run
        { run with
          runState := finalState run.counters
          completedAtUtc := some now
          revision := run.revision + 1 } ∧
      next.rows = { middle.rows with runs := next.rows.runs } := by
  obtain ⟨_, allowed, replaced, same⟩ := updateRun_own insideRuns (by rw [checkpointed]) ran
  have published := RunState.isReviewable_published reviewable
  have final : next.rows = { tables.rows with
      checkpoints := middle.rows.checkpoints, runs := next.rows.runs } := by
    rw [same, checkpointed]
  refine ⟨⟨rfl, replaced, allowed, ?_, ?_, ?_, ?_, ?_⟩, same⟩
  · intro other _
    rw [final]
    exact ⟨rfl, rfl, rfl⟩
  · intro counted
    rw [final]
    exact counted published
  · intro unpublished
    rw [published] at unpublished
    cases unpublished
  · intro _
    exact ⟨le_refl _, fun _ => rfl⟩
  · intro _ _
    exact mayEnd

theorem establishOrAdvanceFinalized_ok
    (ran : (establishOrAdvanceFinalized run logicalFingerprint).run tables = .ok (value, next)) :
    next.rows = { tables.rows with checkpoints := next.rows.checkpoints } ∧
      (∀ checkpoint ∈ tables.rows.checkpoint? run.sourceFamily,
        run.sourceProfileId = checkpoint.sourceProfileId ∧
        run.chronologyKind = checkpoint.chronologyKind ∧
        checkpoint.chronologyValue < run.chronologyValue) ∧
      ∀ final : ImportRun, final.logicalFingerprint = some logicalFingerprint →
        (∀ revision, final.checkpoint logicalFingerprint revision =
          run.checkpoint logicalFingerprint revision) →
        Advanced tables.rows.checkpoints next.rows.checkpoints final := by
  simp only [establishOrAdvanceFinalized, bind_ok, get_ok] at ran
  obtain ⟨_, _, ⟨rfl, rfl⟩, ran⟩ := ran
  split at ran
  · rename_i missing
    have same := writeImports_ok ran
    refine ⟨by rw [same], by simp [missing], fun final fingerprint agrees => ?_⟩
    refine .established logicalFingerprint 1 fingerprint ?_ (by rw [same, agrees])
    rw [show final.sourceFamily = run.sourceFamily from congrArg (·.sourceFamily) (agrees 1)]
    exact checkpoint?_none missing
  · rename_i current found
    simp only [steps_ok] at ran
    obtain ⟨profile, kind, newer, wrote⟩ := ran
    have same := writeImports_ok wrote
    refine ⟨by rw [same]; rfl, ?_, fun final fingerprint agrees => ?_⟩
    · intro checkpoint present
      rw [Option.mem_def, found, Option.some.injEq] at present
      exact present ▸ ⟨profile, kind, newer⟩
    · obtain ⟨inside, family⟩ := checkpoint?_some found
      have replaced := replaced_of_key (fun row : SourceCheckpoint => row.sourceFamily)
        (fun row => run.checkpoint logicalFingerprint (row.revision + 1))
        tables.valid.checkpointFamilies inside
      refine .replaced current logicalFingerprint (current.revision + 1) fingerprint ?_ ?_ ?_ ?_
      · rw [family, show final.sourceFamily = run.sourceFamily from
          congrArg (·.sourceFamily) (agrees 1)]
      · rw [← kind, show final.chronologyKind = run.chronologyKind from
          congrArg (·.chronologyKind) (agrees 1)]
      · rw [show final.chronologyValue = run.chronologyValue from
          congrArg (·.chronologyValue) (agrees 1)]
        omega
      · rw [agrees, same, ← family]
        exact replaced

theorem finalizeAuthorizedRecovery_ok
    (found : tables.rows.checkpoint? run.sourceFamily = some current)
    (ran : (finalizeAuthorizedRecovery run logicalFingerprint current).run tables =
      .ok (value, next)) :
    next.rows = { tables.rows with checkpoints := next.rows.checkpoints } ∧
      run.sourceProfileId = current.sourceProfileId ∧
      run.chronologyKind = current.chronologyKind ∧
      (run.chronologyValue < current.chronologyValue ∧ next = tables ∨
        run.chronologyValue = current.chronologyValue ∧
        logicalFingerprint ≠ current.logicalFingerprint ∧
        ∀ final : ImportRun, final.logicalFingerprint = some logicalFingerprint →
          (∀ revision, final.checkpoint logicalFingerprint revision =
            run.checkpoint logicalFingerprint revision) →
          Advanced tables.rows.checkpoints next.rows.checkpoints final) := by
  simp only [finalizeAuthorizedRecovery, steps_ok] at ran
  obtain ⟨profile, kind, _, ran⟩ := ran
  split at ran
  · rename_i older
    simp only [pure_ok] at ran
    obtain ⟨_, rfl⟩ := ran
    exact ⟨rfl, profile, kind, .inl ⟨older, rfl⟩⟩
  · rename_i notOlder
    simp only [steps_ok] at ran
    obtain ⟨conflicts, wrote⟩ := ran
    have same := writeImports_ok wrote
    have equal : run.chronologyValue = current.chronologyValue := by omega
    refine ⟨by rw [same]; rfl, profile, kind, .inr ⟨equal, conflicts, ?_⟩⟩
    intro final fingerprint agrees
    obtain ⟨inside, family⟩ := checkpoint?_some found
    have replaced := replaced_of_key (fun row : SourceCheckpoint => row.sourceFamily)
      (fun row => { row with
        logicalFingerprint
        acceptedImportRunId := run.importRunId
        revision := row.revision + 1 })
      tables.valid.checkpointFamilies inside
    have result : run.checkpoint logicalFingerprint (current.revision + 1) =
        { current with
          logicalFingerprint
          acceptedImportRunId := run.importRunId
          revision := current.revision + 1 } := by
      simp [ImportRun.checkpoint, family, profile, kind, equal]
    refine .replaced current logicalFingerprint (current.revision + 1) fingerprint ?_ ?_ ?_ ?_
    · rw [family, show final.sourceFamily = run.sourceFamily from
        congrArg (·.sourceFamily) (agrees 1)]
    · rw [← kind, show final.chronologyKind = run.chronologyKind from
        congrArg (·.chronologyKind) (agrees 1)]
    · rw [← equal, show final.chronologyValue = run.chronologyValue from
        congrArg (·.chronologyValue) (agrees 1)]
    · rw [agrees, same, result, ← family]
      exact replaced

theorem applyFinalization_steps (insideRuns : run ∈ tables.rows.runs)
    (fingerprint : run.logicalFingerprint = some logicalFingerprint)
    (reviewable : run.runState.isReviewable = true)
    (ran : (applyFinalization python run logicalFingerprint now).run tables = .ok (value, next)) :
    Step ⟨run.importRunId, .complete⟩ tables.rows next.rows := by
  simp only [applyFinalization, bind_ok, get_ok] at ran
  obtain ⟨_, _, ⟨rfl, rfl⟩, ran⟩ := ran
  split at ran
  · rename_i recovery
    split at ran
    · simp only [throw_ok] at ran
    rename_i current found
    simp only [steps_ok] at ran
    obtain ⟨_, middle, recovered, completed⟩ := ran
    obtain ⟨checkpointed, profile, kind, moved⟩ := finalizeAuthorizedRecovery_ok found recovered
    have mayEnd : run.CanEnd tables.rows := by
      unfold ImportRun.CanEnd ImportRun.MayEndUnder
      rw [recovery]
      refine .inr ⟨current, found, profile, kind, ?_⟩
      rcases moved with ⟨older, -⟩ | ⟨equal, conflicts, -⟩
      · exact .inl older
      · refine .inr ⟨equal, fun same => conflicts ?_⟩
        rw [fingerprint] at same
        exact Option.some.inj same
    obtain ⟨change, final⟩ := completeRun_moved insideRuns mayEnd reviewable checkpointed completed
    have proposals : next.rows.proposals = tables.rows.proposals := by rw [final, checkpointed]
    rcases moved with ⟨-, rfl⟩ | ⟨-, -, advanced⟩
    · exact ⟨.moved run _ change (by rw [final]), materials_of_runs proposals⟩
    · refine ⟨.completed run _ change rfl (RunState.isReviewable_published reviewable)
        (finalState_ended _) ?_, materials_of_runs proposals⟩
      rw [final]
      exact advanced _ fingerprint fun _ => rfl
  · rename_i ordinary
    simp only [steps_ok] at ran
    obtain ⟨middle, established, completed⟩ := ran
    obtain ⟨checkpointed, newer, advanced⟩ := establishOrAdvanceFinalized_ok established
    have mayEnd : run.CanEnd tables.rows := by
      unfold ImportRun.CanEnd ImportRun.MayEndUnder
      split
      · exact newer
      · exact newer
      · rename_i recovery
        exact absurd recovery ordinary
      · rename_i waiting
        rw [waiting] at reviewable
        cases reviewable
      · trivial
    obtain ⟨change, final⟩ := completeRun_moved insideRuns mayEnd reviewable checkpointed completed
    have proposals : next.rows.proposals = tables.rows.proposals := by rw [final, checkpointed]
    refine ⟨.completed run _ change rfl (RunState.isReviewable_published reviewable)
      (finalState_ended _) ?_, materials_of_runs proposals⟩
    rw [final]
    exact advanced _ fingerprint fun _ => rfl

theorem prepareFinalization_ok :
    prepareFinalization rows importRunId expectedRunRevision = .ok (run, logicalFingerprint) ↔
      (rows.run? importRunId = some run ∧ run.logicalFingerprint = some logicalFingerprint) ∧
      run.revision = expectedRunRevision ∧ run.runState.isReviewable = true ∧
      run.counters = rows.derivePublicationCounters importRunId ∧
      run.counters.pendingProposalCount = 0 := by
  simp only [prepareFinalization, except_bind_ok, ensure_ok, pure, Except.pure, Except.ok.injEq]
  constructor
  · rintro ⟨⟨_, _⟩, found, _, revision, _, reviewable, _, counted, _, decided, same⟩
    cases same
    exact ⟨getCheckpointTransitionRun_ok.mp found, revision, reviewable, counted, decided⟩
  · rintro ⟨found, revision, reviewable, counted, decided⟩
    exact ⟨(run, logicalFingerprint), getCheckpointTransitionRun_ok.mpr found, ⟨⟩, revision, ⟨⟩,
      reviewable, ⟨⟩, counted, ⟨⟩, decided, rfl⟩

theorem finalizeRun_steps
    (ran : (finalizeRun python importRunId expectedRunRevision now).run tables =
      .ok (value, next)) : Steps ⟨importRunId, .complete⟩ tables next := by
  simp only [finalizeRun, steps_ok] at ran
  obtain ⟨_, _, ⟨run, _⟩, prepared, ran⟩ := ran
  obtain ⟨⟨found, fingerprint⟩, _, reviewable, _, _⟩ := prepareFinalization_ok.mp prepared
  obtain ⟨insideRuns, identity⟩ := run?_some found
  rw [← identity]
  exact .single (applyFinalization_steps insideRuns fingerprint reviewable ran)

theorem prepareSourceCheck_ok :
    prepareSourceCheck check rows = .ok (run, checkpoint) ↔
      rows.run? check.importRunId = some run ∧
      run.logicalFingerprint = some check.logicalFingerprint ∧
      rows.checkpoint? run.sourceFamily = some checkpoint ∧
      run.revision = check.expectedRunRevision ∧
      checkpoint.revision = check.expectedCheckpointRevision ∧
      run.chronologyKind = check.chronologyKind ∧ run.chronologyValue = check.chronologyValue := by
  simp only [prepareSourceCheck, except_bind_ok]
  constructor
  · rintro ⟨⟨_, logicalFingerprint⟩, transition, rest⟩
    obtain ⟨found, fingerprint⟩ := getCheckpointTransitionRun_ok.mp transition
    simp only at rest
    split at rest
    · cases rest
    rename_i current
    simp only [except_ok] at rest
    obtain ⟨revision, checkpointRevision, ⟨kind, chronology, rfl⟩, same⟩ := rest
    cases same
    exact ⟨found, fingerprint, current, revision, checkpointRevision, kind, chronology⟩
  · rintro ⟨found, fingerprint, current, revision, checkpointRevision, kind, chronology⟩
    refine ⟨(run, check.logicalFingerprint),
      getCheckpointTransitionRun_ok.mpr ⟨found, fingerprint⟩, ?_⟩
    simp only [current, except_ok]
    exact ⟨revision, checkpointRevision, ⟨kind, chronology, trivial⟩, trivial⟩

theorem recordSourceCheck_steps
    (ran : (recordNewerIdenticalSourceCheck check now).run tables = .ok (value, next)) :
    Steps ⟨check.importRunId, .complete⟩ tables next := by
  simp only [recordNewerIdenticalSourceCheck, steps_ok] at ran
  obtain ⟨_, _, _, _, ⟨run, current⟩, prepared, ran⟩ := ran
  obtain ⟨found, fingerprint, foundCheckpoint, -⟩ := prepareSourceCheck_ok.mp prepared
  split at ran
  · simp only [attempt_ok] at ran
    exact ran.2 ▸ .refl
  simp only [advanceNewerIdentical, requireNewerIdentical, bind_ok, attempt_ok, except_bind_ok,
    ensure_ok] at ran
  obtain ⟨_, _, ⟨⟨_, waiting, _, profile, _, kind, _, newer, _, identical, _⟩, rfl⟩, _, middle,
    wrote, updated⟩ := ran
  have checkpointed := writeImports_ok wrote
  obtain ⟨insideRuns, identity⟩ := run?_some found
  obtain ⟨_, allowed, replaced, same⟩ :=
    updateRun_own insideRuns (by rw [checkpointed]; rfl) updated
  have published : run.runState.isPublished = true := by rw [waiting]; rfl
  have final : next.rows = { tables.rows with
      checkpoints := middle.rows.checkpoints, runs := next.rows.runs } := by
    rw [same, checkpointed]
    rfl
  obtain ⟨inside, family⟩ := checkpoint?_some foundCheckpoint
  refine .single ⟨.completed run _ ⟨identity, replaced, allowed, ?_, ?_, ?_, ?_, ?_⟩ rfl published (by simp) ?_,
    materials_of_runs (by rw [final])⟩
  · intro other _
    rw [final]
    exact ⟨rfl, rfl, rfl⟩
  · intro counted
    rw [final]
    exact counted published
  · intro unpublished
    rw [published] at unpublished
    cases unpublished
  · intro _
    exact ⟨le_refl _, fun _ => rfl⟩
  · intro _ _
    unfold ImportRun.CanEnd ImportRun.MayEndUnder
    rw [waiting]
    exact ⟨current, foundCheckpoint, profile, kind, newer, identical ▸ fingerprint⟩
  · refine .replaced current check.logicalFingerprint (current.revision + 1) fingerprint family
      kind.symm newer.le ?_
    have replaced := replaced_of_key (fun row : SourceCheckpoint => row.sourceFamily)
      (fun row => run.checkpoint check.logicalFingerprint (row.revision + 1))
      tables.valid.checkpointFamilies inside
    rw [family] at replaced
    rw [final, checkpointed]
    exact replaced

theorem insertReview_step (actor : Actor)
    (ran : (writeImports fun rows => { rows with reviews := rows.reviews ++ [review] }).run tables =
      .ok (value, next)) :
    Step actor tables.rows next.rows ∧
      next.rows = { tables.rows with reviews := tables.rows.reviews ++ [review] } := by
  have same := writeImports_ok ran
  refine ⟨⟨.kept (by rw [same]) (by rw [same]) fun run _ _ => ?_, materials_of_runs (by rw [same])⟩,
    same⟩
  rw [same]
  exact ⟨rfl, rfl, rfl⟩

theorem rejectRecovery_steps (insideRuns : run ∈ tables.rows.runs)
    (recovery : run.runState = .recoveryRequired)
    (unaccepted : run.counters.acceptedProposalCount = 0)
    (ran : (rejectRecovery run now).run tables = .ok (value, next)) :
    Step ⟨run.importRunId, .review⟩ tables.rows next.rows := by
  simp only [rejectRecovery, steps_ok] at ran
  obtain ⟨middle, wrote, updated⟩ := ran
  have superseded : middle.rows =
      { tables.rows with proposals := tables.rows.proposals.map (supersede run.importRunId) } := by
    rw [writeImports_ok wrote]
    unfold ImportRows.changeProposals supersede
    simp
  obtain ⟨_, allowed, replaced, same⟩ :=
    updateRun_own insideRuns (by rw [superseded]) updated
  have published : run.runState.isPublished = true := by rw [recovery]; rfl
  have final : next.rows = { tables.rows with
      proposals := middle.rows.proposals, runs := next.rows.runs } := by
    rw [same, superseded]
  refine ⟨.moved run _ ⟨rfl, replaced, allowed, ?_, ?_, ?_, ?_, ?_⟩ (by rw [final]), ?_⟩
  · intro other apart
    rw [final, superseded]
    have kept := sameEvidence_superseded tables.rows apart
    exact ⟨kept.observations, kept.findings, kept.proposals⟩
  · intro counted
    rw [final, superseded]
    refine Eq.trans ?_ (counters_superseded tables.rows _).symm
    show { run.counters with pendingProposalCount := 0 } = _
    rw [counted published]
  · intro unpublished
    rw [published] at unpublished
    cases unpublished
  · intro _
    exact ⟨le_refl _, fun _ => rfl⟩
  · intro _ _
    unfold ImportRun.CanEnd ImportRun.MayEndUnder
    rw [recovery]
    exact .inl unaccepted
  · intro row inside
    rw [final, superseded] at inside
    obtain ⟨before, present, rfl⟩ := List.mem_map.mp inside
    refine .inr ⟨before, present, ?_⟩
    unfold supersede
    split <;> rfl

theorem prepareResolution_ok :
    prepareResolution python resolution rows = .ok (run, checkpoint) ↔
      ∃ logicalFingerprint, rows.run? resolution.importRunId = some run ∧
        run.logicalFingerprint = some logicalFingerprint ∧
        run.runState = .recoveryRequired ∧
        rows.checkpoint? run.sourceFamily = some checkpoint ∧
        recoveryReviewFingerprint python rows run logicalFingerprint =
          .ok resolution.reviewFingerprint ∧
        (resolution.decision = .rejected → run.counters.acceptedProposalCount = 0) := by
  simp only [prepareResolution, except_bind_ok]
  constructor
  · rintro ⟨⟨_, logicalFingerprint⟩, transition, _, recovery, rest⟩
    obtain ⟨found, fingerprint⟩ := getRun_ok.mp transition
    simp only [ensure_ok] at recovery rest
    split at rest
    · cases rest
    rename_i current
    simp only [except_ok] at rest
    obtain ⟨exact, hashed, rfl, unaccepted, same⟩ := rest
    cases same
    exact ⟨logicalFingerprint, found, fingerprint, recovery, current, hashed, unaccepted⟩
  · rintro ⟨logicalFingerprint, found, fingerprint, recovery, current, hashed, unaccepted⟩
    refine ⟨(run, logicalFingerprint), getRun_ok.mpr ⟨found, fingerprint⟩, ⟨⟩,
      ensure_ok.mpr recovery, ?_⟩
    simp only [current, except_ok]
    exact ⟨_, hashed, rfl, unaccepted, trivial⟩

theorem resolveRecovery_steps
    (ran : (resolveRecovery python resolution).run tables = .ok (value, next)) :
    Steps ⟨resolution.importRunId, .review⟩ tables next := by
  simp only [resolveRecovery, steps_ok] at ran
  obtain ⟨_, _, _, ⟨run, _⟩, prepared, _, inserted, ran⟩ := ran
  obtain ⟨_, found, _, recovery, _, _, unaccepted⟩ := prepareResolution_ok.mp prepared
  obtain ⟨first, same⟩ := insertReview_step ⟨resolution.importRunId, .review⟩ inserted
  obtain ⟨insideRuns, identity⟩ := run?_some found
  split at ran
  · rename_i rejected
    have second := rejectRecovery_steps (by rw [same]; exact insideRuns) recovery
      (unaccepted rejected) ran
    rw [identity] at second
    exact .head first (.single second)
  · simp only [pure_ok] at ran
    exact ran.2 ▸ .single first

/-! ## Commands -/

/-- A command over the import tables. -/
inductive ImportCommand where
  | start (importRunId : String) (sourceFamily : SourceFamily) (sourceProfileId : String)
      (chronologyKind : ChronologyKind) (chronologyValue : Nat) (startedAtUtc : Int)
  | stage (importRunId : String) (expectedRevision : Int) (observations : List (Uuid4 × Bool))
  | find (importRunId : String) (expectedRevision : Int) (findings : List (Uuid4 × Severity))
  | cleanup (importRunId : String) (expectedRevision : Int)
  | publish (publication : Publication)
  | decide (decision : Decision)
  | accept (acceptance : Acceptance)
  | finalize (importRunId : String) (expectedRunRevision now : Int)
  | recordCheck (check : SourceCheck) (now : Int)
  | resolve (resolution : Resolution)

/-- The transaction of a command. -/
def ImportCommand.body (python : PythonLibrary) : ImportCommand → ImportBody PUnit
  | .start importRunId sourceFamily sourceProfileId chronologyKind chronologyValue startedAtUtc =>
    startValidatingRun importRunId sourceFamily sourceProfileId chronologyKind chronologyValue
      startedAtUtc
  | .stage importRunId expectedRevision observations =>
    stageObservations importRunId expectedRevision observations
  | .find importRunId expectedRevision findings =>
    stageFindings importRunId expectedRevision findings
  | .cleanup importRunId expectedRevision => cleanupUnpublished importRunId expectedRevision
  | .publish publication => Imports.publish publication
  | .decide decision => decideProposal python decision
  | .accept acceptance => Imports.accept python acceptance
  | .finalize importRunId expectedRunRevision now =>
    finalizeRun python importRunId expectedRunRevision now
  | .recordCheck check now => recordNewerIdenticalSourceCheck check now
  | .resolve resolution => resolveRecovery python resolution

/-- Who executes a command: the run it is about, a decision being about the run
of its proposal. -/
def ImportCommand.actor? (rows : ImportRows) : ImportCommand → Option Actor
  | .start importRunId .. | .stage importRunId .. | .find importRunId .. | .cleanup importRunId .. =>
    some ⟨importRunId, .stage⟩
  | .publish publication => some ⟨publication.importRunId, .publish⟩
  | .decide decision =>
    (rows.proposal? decision.proposalId).map fun proposal => ⟨proposal.importRunId, .review⟩
  | .accept acceptance =>
    (rows.proposal? acceptance.proposalId).map fun proposal => ⟨proposal.importRunId, .accept⟩
  | .finalize importRunId .. => some ⟨importRunId, .complete⟩
  | .recordCheck check _ => some ⟨check.importRunId, .complete⟩
  | .resolve resolution => some ⟨resolution.importRunId, .review⟩

theorem command_steps {command : ImportCommand}
    (ran : (command.body python).run tables = .ok (value, next)) :
    ∃ actor, command.actor? tables.rows = some actor ∧ Steps actor tables next := by
  cases command with
  | start => exact ⟨_, rfl, start_steps ran⟩
  | stage => exact ⟨_, rfl, (stageObservations_staged ran).steps⟩
  | find => exact ⟨_, rfl, (stageFindings_staged ran).steps⟩
  | cleanup => exact ⟨_, rfl, (cleanupUnpublished_staged ran).steps⟩
  | publish => exact ⟨_, rfl, publish_steps ran⟩
  | decide =>
    obtain ⟨proposal, found, steps⟩ := decideProposal_steps ran
    exact ⟨_, by rw [ImportCommand.actor?, found]; rfl, steps⟩
  | accept =>
    obtain ⟨proposal, found, steps⟩ := accept_steps ran
    exact ⟨_, by rw [ImportCommand.actor?, found]; rfl, steps⟩
  | finalize => exact ⟨_, rfl, finalizeRun_steps ran⟩
  | recordCheck => exact ⟨_, rfl, recordSourceCheck_steps ran⟩
  | resolve => exact ⟨_, rfl, resolveRecovery_steps ran⟩

/-- The tables after a command: a refused one changes nothing. -/
def ImportCommand.execute (python : PythonLibrary) (command : ImportCommand)
    (tables : ImportTables) : ImportTables :=
  (commit (command.body python) tables).2

theorem execute_steps (python : PythonLibrary) (command : ImportCommand) (tables : ImportTables) :
    command.execute python tables = tables ∨
      ∃ actor, command.actor? tables.rows = some actor ∧
        Steps actor tables (command.execute python tables) := by
  unfold ImportCommand.execute
  cases outcome : (commit (command.body python) tables).1 with
  | ok value => exact .inr (command_steps (commit_ok outcome))
  | error raised => exact .inl (commit_error outcome)

/-- A command executed. -/
def Executes (python : PythonLibrary) (tables next : ImportTables) : Prop :=
  ∃ command : ImportCommand, next = command.execute python tables

end Soma.Imports
