import Soma.Theory.Execution
import Soma.Theory.Rows
import Soma.ObjectivesTasks.Rebuild
import Soma.ObjectivesTasks.SourceTerminal

/-!
The source-terminal reviews over runs.

A new source projection supersedes the pending review of its task and opens
another one, under the fingerprint of the local authority at that moment. So a
pending review is always at the current source revision, and its fingerprint is
the one of the state it was opened in, whatever has happened since.
-/

namespace Soma.ObjectivesTasks

open Execution Foundation Transaction Rows

variable {rows next : TaskRows} {taskId : String}

/-- The review and the source projection of its task. -/
structure UpToDate (review : WfmSourceTerminalReviewRecord) (source : WfmSourceProjectionRecord) :
    Prop where
  revision : source.sourceProjectionRevision = review.sourceProjectionRevision
  lifecycle : source.providerLifecycleClass = review.providerLifecycleClass
  terminal : source.providerLifecycleClass.terminal = true
  observed : source.acceptedSourceObservationId ≠ none

/-- A review nobody has decided. -/
structure Undecided (review : WfmSourceTerminalReviewRecord) : Prop where
  pending : review.state = .pending
  revision : review.revision = 1
  consequence : review.localConsequenceEventId = none
  decided : review.decidedAtUtc = none

/-- The two source tables after any number of commands. -/
structure SourceReviewed (rows : TaskRows) : Prop where
  reviewIds : (rows.sourceTerminalReviews.map (·.sourceTerminalReviewId)).Nodup
  sourceTasks : (rows.sourceProjections.map (·.taskId)).Nodup
  undecided : ∀ review ∈ rows.sourceTerminalReviews, review.state = .pending → Undecided review
  current : ∀ review ∈ rows.sourceTerminalReviews, review.state = .pending →
    ∃ source, rows.source? review.taskId = some source ∧ UpToDate review source

/-! ## Statements -/

/-- Only the source projection of one task was written. -/
structure SourceWritten (rows next : TaskRows) (row : WfmSourceProjectionRecord) : Prop where
  keys : (next.sourceProjections.map (·.taskId)).Nodup
  written : next.source? row.taskId = some row
  others : ∀ other, other ≠ row.taskId → next.source? other = rows.source? other
  reviews : next.sourceTerminalReviews = rows.sourceTerminalReviews

theorem writeSourceProjection_ok (keys : (rows.sourceProjections.map (·.taskId)).Nodup)
    (ran : (writeSourceProjection current row).run rows = .ok (value, next)) :
    SourceWritten rows next row := by
  cases current with
  | none =>
    simp only [writeSourceProjection, steps_ok] at ran
    obtain ⟨⟨vacant, -⟩, rfl⟩ := ran
    have keyed : ((rows.sourceProjections ++ [row]).map (·.taskId)).Nodup := by
      rw [List.map_append, List.nodup_append]
      refine ⟨keys, List.nodup_singleton _, ?_⟩
      intro held heldIn added addedIn same
      rw [List.map_singleton, List.mem_singleton] at addedIn
      exact vacant (addedIn ▸ same ▸ heldIn)
    refine ⟨keyed, find?_eq_some keyed List.mem_concat_self, ?_,
      rfl⟩
    intro other apart
    have missed : row.taskId ≠ other := Ne.symm apart
    simp [TaskRows.source?, List.find?_append, missed]
  | some current =>
    simp only [writeSourceProjection, steps_ok] at ran
    obtain ⟨one, rfl⟩ := ran
    obtain ⟨old, hit, replaced⟩ := replaced_of_countP (fun _ => row) one
    have same : row.taskId = old.taskId := (of_decide_eq_true hit).1.symm
    have shaped : (rows.updateSourceProjection row current.sourceProjectionRevision).sourceProjections =
        rows.sourceProjections.map fun source => if decide (source.taskId = row.taskId ∧
          source.sourceProjectionRevision = current.sourceProjectionRevision) = true then row
          else source := by
      simp only [TaskRows.updateSourceProjection, decide_eq_true_eq]
    have keyed := keys
    rw [← replaced.map_eq same] at keyed
    refine ⟨shaped ▸ keyed, ?_, ?_, rfl⟩
    · rw [TaskRows.source?, shaped]
      exact find?_eq_some keyed replaced.mem_new
    · intro other apart
      rw [TaskRows.source?, shaped]
      exact replaced.find?_ne same (same ▸ apart)

/-- One pending review of the table was decided. -/
structure Decided (rows next : TaskRows) (review : WfmSourceTerminalReviewRecord) : Prop where
  ids : next.sourceTerminalReviews.map (·.sourceTerminalReviewId) =
    rows.sourceTerminalReviews.map (·.sourceTerminalReviewId)
  pending : ∀ other ∈ next.sourceTerminalReviews, other.state = .pending →
    other ∈ rows.sourceTerminalReviews ∧
      other.sourceTerminalReviewId ≠ review.sourceTerminalReviewId
  sources : next.sourceProjections = rows.sourceProjections

variable {review : WfmSourceTerminalReviewRecord}

theorem decideReview_ok (ids : (rows.sourceTerminalReviews.map (·.sourceTerminalReviewId)).Nodup)
    (final : state ≠ .pending)
    (ran : (decideReview review state consequence now lost).run rows = .ok (value, next)) :
    Decided rows next review := by
  simp only [decideReview, steps_ok] at ran
  obtain ⟨one, -, rfl⟩ := ran
  obtain ⟨old, hit, replaced⟩ := replaced_of_countP (fun row : WfmSourceTerminalReviewRecord =>
    { row with
      state := state
      localConsequenceEventId := consequence
      revision := row.revision + 1
      decidedAtUtc := some now }) one
  have same : old.sourceTerminalReviewId = review.sourceTerminalReviewId :=
    (of_decide_eq_true hit).1
  refine ⟨replaced.map_eq rfl, ?_, rfl⟩
  intro other inside standing
  rcases replaced.mem_next_keyed ids rfl inside with rfl | ⟨listed, apart⟩
  · exact absurd standing final
  · exact ⟨listed, same ▸ apart⟩

/-! ## A new source projection -/

variable (python : PythonLibrary)

/-- The review the new source of its task has opened. -/
structure OpenedNow (rows next : TaskRows) (review : WfmSourceTerminalReviewRecord) : Prop where
  fresh : review.sourceTerminalReviewId ∉
    rows.sourceTerminalReviews.map (·.sourceTerminalReviewId)
  listed : review ∈ next.sourceTerminalReviews
  fingerprint : sourceTerminalReviewFingerprint python next review.taskId =
    .ok review.inputFingerprint
  undecided : Undecided review
  current : ∃ source, next.source? review.taskId = some source ∧ UpToDate review source

/-- What is left when the source of a task was accepted: its pending review is
a new one. -/
structure Accepted (rows next : TaskRows) (taskId : String) : Prop where
  reviewIds : (next.sourceTerminalReviews.map (·.sourceTerminalReviewId)).Nodup
  sourceTasks : (next.sourceProjections.map (·.taskId)).Nodup
  others : ∀ other, other ≠ taskId → next.source? other = rows.source? other
  pending : ∀ review ∈ next.sourceTerminalReviews, review.state = .pending →
    review ∈ rows.sourceTerminalReviews ∧ review.taskId ≠ taskId ∨
      OpenedNow python rows next review

theorem sourceProjection_ok (read : sourceProjection rows taskId = .ok current) :
    rows.source? taskId = current := by
  unfold sourceProjection at read
  split at read
  · cases read
    assumption
  · simp only [except_ok] at read
    obtain ⟨-, -, same⟩ := read
    cases same
    assumption

theorem pendingReview_ok (read : pendingReview rows taskId = .ok pending) :
    review ∈ rows.sourceTerminalReviews ∧ review.taskId = taskId ∧ review.state = .pending ↔
      pending = some review := by
  have listed : review ∈ rows.sourceTerminalReviews.filter (fun review =>
      review.taskId = taskId ∧ review.state = .pending) ↔
      review ∈ rows.sourceTerminalReviews ∧ review.taskId = taskId ∧ review.state = .pending := by
    simp
  rw [← listed]
  unfold pendingReview at read
  split at read
  · rename_i empty
    cases read
    rw [empty]
    simp
  · rename_i found one
    cases read
    rw [one, List.mem_singleton, Option.some.injEq]
    exact eq_comm
  · cases read

theorem dueFingerprint_some (due : dueFingerprint python rows mutation = .ok (some fingerprint)) :
    mutation.providerLifecycleClass.terminal = true ∧
      sourceTerminalReviewFingerprint python rows mutation.taskId = .ok fingerprint := by
  simp only [dueFingerprint, except_ok] at due
  obtain ⟨due, asked, rest⟩ := due
  cases due with
  | false => simp [pure, Except.pure] at rest
  | true =>
    simp only [if_true, except_ok] at rest
    obtain ⟨_, computed, same⟩ := rest
    cases same
    refine ⟨?_, computed⟩
    by_contra passive
    rw [if_neg passive] at asked
    cases asked

theorem validateSourceMutation_ok (valid : validateSourceMutation mutation = .ok plan)
    (terminal : mutation.providerLifecycleClass.terminal = true) :
    mutation.acceptedSourceObservationId ≠ none := by
  simp only [validateSourceMutation, except_ok] at valid
  obtain ⟨-, -, -, _, -, -, -, observed, -⟩ := valid
  intro absent
  have seen := observed terminal
  rw [absent] at seen
  cases seen

theorem insertSourceTerminalReview_ok
    (ran : (insertSourceTerminalReview row).run rows = .ok (value, next)) :
    row.sourceTerminalReviewId ∉ rows.sourceTerminalReviews.map (·.sourceTerminalReviewId) ∧
      next = { rows with sourceTerminalReviews := rows.sourceTerminalReviews ++ [row] } := by
  simp only [insertSourceTerminalReview, steps_ok] at ran
  obtain ⟨⟨fresh, -⟩, rfl⟩ := ran
  exact ⟨fresh, rfl⟩

section Accept

variable {call : Call} {mutation : WfmSourceProjectionMutation} {plan : Option (Nat × Nat)}
  {fingerprint : Option String} {revision : Nat}

/-- The pending review of an accepted source is at the revision before, so it is
superseded and none is left of the task. -/
theorem supersedePending_ok
    (ids : (rows.sourceTerminalReviews.map (·.sourceTerminalReviewId)).Nodup)
    (listed : ∀ review, review ∈ rows.sourceTerminalReviews ∧ review.taskId = mutation.taskId ∧
      review.state = .pending ↔ pending = some review)
    (behind : ∀ review, pending = some review → review.sourceProjectionRevision ≠ revision)
    (ran : (supersedePending call pending mutation revision fingerprint).run rows =
      .ok (left, next)) :
    left = none ∧
      (next.sourceTerminalReviews.map (·.sourceTerminalReviewId)) =
        rows.sourceTerminalReviews.map (·.sourceTerminalReviewId) ∧
      (∀ review ∈ next.sourceTerminalReviews, review.state = .pending →
        review ∈ rows.sourceTerminalReviews ∧ review.taskId ≠ mutation.taskId) ∧
      ∃ reviews, next = { rows with sourceTerminalReviews := reviews } := by
  cases pending with
  | none =>
    rw [supersedePending, pure_ok] at ran
    obtain ⟨rfl, rfl⟩ := ran
    refine ⟨rfl, rfl, ?_, _, rfl⟩
    intro review inside standing
    refine ⟨inside, fun same => ?_⟩
    cases (listed review).mp ⟨inside, same, standing⟩
  | some held =>
    have stale : stillDue held mutation revision fingerprint = false := by
      simp [stillDue, behind held rfl]
    simp only [supersedePending, stale, Bool.false_eq_true, if_false, steps_ok] at ran
    obtain ⟨_, decided, rfl, rfl⟩ := ran
    have effect := decideReview_ok ids (by decide) decided
    refine ⟨rfl, effect.ids, ?_, ?_⟩
    · intro review inside standing
      obtain ⟨old, apart⟩ := effect.pending review inside standing
      refine ⟨old, fun same => ?_⟩
      cases (listed review).mp ⟨old, same, standing⟩
      exact apart rfl
    · simp only [decideReview, steps_ok] at decided
      obtain ⟨-, -, rfl⟩ := decided
      exact ⟨_, rfl⟩

theorem applyWfmSourceProjection_ok (reviewed : SourceReviewed rows)
    (ran : (applyWfmSourceProjection python call mutation).run rows = .ok (result, next)) :
    Accepted python rows next mutation.taskId := by
  simp only [applyWfmSourceProjection, steps_ok] at ran
  obtain ⟨_, valid, _, -, current, read, -, middle, written, pending, asked, fingerprint, due,
    _, _, superseded, _, _, opened, -, rfl⟩ := ran
  have source := writeSourceProjection_ok reviewed.sourceTasks written
  have ids : (middle.sourceTerminalReviews.map (·.sourceTerminalReviewId)).Nodup := by
    rw [source.reviews]
    exact reviewed.reviewIds
  -- The pending review was at the revision of the source that is replaced.
  have behind : ∀ review, pending = some review → review.sourceProjectionRevision ≠
      (current.map (·.sourceProjectionRevision)).getD 0 + 1 := by
    intro review held
    obtain ⟨listed, same, standing⟩ := (pendingReview_ok asked).mpr held
    rw [source.reviews] at listed
    obtain ⟨_, found, upToDate⟩ := reviewed.current review listed standing
    rw [same, sourceProjection_ok read] at found
    subst found
    rw [← upToDate.revision]
    exact (Nat.succ_ne_self _).symm
  obtain ⟨rfl, sameIds, standing, reviews, rfl⟩ := supersedePending_ok ids
    (fun review => pendingReview_ok asked) behind superseded
  have others : ∀ review ∈ reviews, review.state = .pending →
      review ∈ rows.sourceTerminalReviews ∧ review.taskId ≠ mutation.taskId := by
    intro review inside pending
    have old := standing review inside pending
    rwa [source.reviews] at old
  rw [source.reviews] at sameIds
  cases fingerprint with
  | none =>
    rw [openReview, pure_ok] at opened
    obtain ⟨-, rfl⟩ := opened
    refine ⟨?_, source.keys, source.others, fun review inside pending =>
      .inl (others review inside pending)⟩
    rw [sameIds]
    exact reviewed.reviewIds
  | some fingerprint =>
    obtain ⟨terminal, computed⟩ := dueFingerprint_some python due
    simp only [openReview, steps_ok] at opened
    obtain ⟨_, inserted, -, rfl⟩ := opened
    obtain ⟨fresh, rfl⟩ := insertSourceTerminalReview_ok inserted
    rw [sameIds] at fresh
    refine ⟨?_, source.keys, source.others, ?_⟩
    · rw [List.map_append, sameIds, List.nodup_append]
      refine ⟨reviewed.reviewIds, List.nodup_singleton _, ?_⟩
      intro held heldIn added addedIn same
      rw [List.map_singleton, List.mem_singleton] at addedIn
      exact fresh (addedIn ▸ same ▸ heldIn)
    · intro review inside pending
      rcases Rows.mem_concat inside with old | rfl
      · exact .inl (others review old pending)
      · refine .inr ⟨fresh, inside, ?_, ⟨rfl, rfl, rfl, rfl⟩, _, source.written, rfl, rfl, terminal,
          validateSourceMutation_ok valid terminal⟩
        exact computed

end Accept

/-! ## A decision -/

/-- The two source tables. -/
def TaskRows.sourceTables (rows : TaskRows) :
    List WfmSourceProjectionRecord × List WfmSourceTerminalReviewRecord :=
  (rows.sourceProjections, rows.sourceTerminalReviews)

section Tables

variable (tables : List WfmSourceProjectionRecord × List WfmSourceTerminalReviewRecord)

theorem aggregateFree_sourceTables : AggregateFree fun rows => rows.sourceTables = tables :=
  fun _ _ same => same

theorem keeps_advanceTerminationProjection (authority : ExecutionAuthority)
    (executionEventId reason : String) :
    Keeps (fun rows => rows.sourceTables = tables)
      (advanceTerminationProjection taskId authority executionEventId reason) := by
  intro rows next value same ran
  unfold advanceTerminationProjection at ran
  split at ran
  · simp only [insertExecutionProjection, steps_ok] at ran
    obtain ⟨-, -, rfl⟩ := ran
    exact same
  · simp only [updateExecutionProjection, steps_ok] at ran
    obtain ⟨-, -, rfl⟩ := ran
    exact same

theorem keeps_applyConsequence (request : SourceTerminalRequest) (task : TaskRecord)
    (execution : ExecutionAuthority) (eventId : Option String) :
    Keeps (fun rows => rows.sourceTables = tables)
      (applyConsequence request task execution eventId) := by
  cases eventId with
  | none => exact .pure _
  | some eventId =>
    refine .bind ?_ fun _ => .bind (keeps_advanceTerminationProjection tables _ _ _) fun _ => ?_
    · intro rows next value same ran
      simp only [insertExecutionEvent, steps_ok] at ran
      obtain ⟨-, -, rfl⟩ := ran
      exact same
    · intro rows next value same ran
      simp only [incrementRevision, steps_ok] at ran
      obtain ⟨-, rfl⟩ := ran
      exact same

theorem keeps_rebuildAfter (eventId : Option String) :
    Keeps (fun rows => rows.sourceTables = tables) (rebuildAfter python taskId eventId) := by
  cases eventId with
  | none => exact .pure _
  | some eventId => exact keeps_rebuildIfMember python (aggregateFree_sourceTables tables) taskId

end Tables

theorem Decided.of_tables {last : TaskRows} (decided : Decided before after review)
    (first : before.sourceTables = rows.sourceTables)
    (final : last.sourceTables = after.sourceTables) : Decided rows last review := by
  simp only [TaskRows.sourceTables, Prod.mk.injEq] at first final
  constructor
  · rw [final.2, decided.ids, first.2]
  · rw [final.2, ← first.2]
    exact decided.pending
  · rw [final.1, decided.sources, first.1]

theorem SourceTerminalDecision.state_ne_pending (decision : SourceTerminalDecision) :
    decision.state ≠ .pending := by
  cases decision <;> decide

theorem resolve_ok (reviewed : SourceReviewed rows)
    (ran : (resolveWfmSourceTerminalConsequence python call request).run rows =
      .ok (result, next)) : ∃ review, Decided rows next review := by
  simp only [resolveWfmSourceTerminalConsequence, steps_ok] at ran
  obtain ⟨-, ⟨task, review, execution⟩, -, middle, applied, _, decided, _, rebuilt, -,
    rfl⟩ := ran
  have before := keeps_applyConsequence _ request task execution _ rfl applied
  have final := keeps_rebuildAfter python _ _ rfl rebuilt
  refine ⟨review, (decideReview_ok ?_ request.decision.state_ne_pending decided).of_tables before
    final⟩
  have reviews : middle.sourceTerminalReviews = rows.sourceTerminalReviews :=
    congrArg Prod.snd before
  rw [reviews]
  exact reviewed.reviewIds

/-! ## Runs -/

/-- The two commands that write the source tables. -/
inductive SourceCommand where
  | accept (call : Call) (mutation : WfmSourceProjectionMutation)
  | resolve (call : Call) (request : SourceTerminalRequest)

/-- The rows after the command's transaction, committed or rolled back. -/
def SourceCommand.apply : SourceCommand → TaskRows → TaskRows
  | .accept call mutation, rows => (commit (applyWfmSourceProjection python call mutation) rows).2
  | .resolve call request, rows =>
    (commit (resolveWfmSourceTerminalConsequence python call request) rows).2

/-- The migration leaves the source tables empty. -/
def WithoutSources (rows : TaskRows) : Prop :=
  rows.sourceTables = ([], [])

/-- One of the two commands, or anything else the program does: no other
statement of it writes the source tables. -/
inductive SourceStep : TaskRows → TaskRows → Prop
  | command (rows : TaskRows) (command : SourceCommand) :
      SourceStep rows (command.apply python rows)
  | elsewhere {rows next : TaskRows} (same : next.sourceTables = rows.sourceTables) :
      SourceStep rows next

namespace SourceReviewed

theorem elsewhere (reviewed : SourceReviewed rows) (same : next.sourceTables = rows.sourceTables) :
    SourceReviewed next := by
  simp only [TaskRows.sourceTables, Prod.mk.injEq] at same
  constructor
  · rw [same.2]
    exact reviewed.reviewIds
  · rw [same.1]
    exact reviewed.sourceTasks
  · rw [same.2]
    exact reviewed.undecided
  · intro review listed pending
    rw [same.2] at listed
    rw [TaskRows.source?, same.1]
    exact reviewed.current review listed pending

theorem empty (initial : WithoutSources rows) : SourceReviewed rows := by
  simp only [WithoutSources, TaskRows.sourceTables, Prod.mk.injEq] at initial
  constructor <;> simp [initial]

section

variable (reviewed : SourceReviewed rows)

include reviewed

theorem accepted (accepted : Accepted python rows next taskId) :
    SourceReviewed next where
  reviewIds := accepted.reviewIds
  sourceTasks := accepted.sourceTasks
  undecided := by
    intro review listed pending
    rcases accepted.pending review listed pending with ⟨old, -⟩ | opened
    · exact reviewed.undecided review old pending
    · exact opened.undecided
  current := by
    intro review listed pending
    rcases accepted.pending review listed pending with ⟨old, other⟩ | opened
    · rw [accepted.others _ other]
      exact reviewed.current review old pending
    · exact opened.current

theorem decided (decided : Decided rows next review) : SourceReviewed next where
  reviewIds := decided.ids ▸ reviewed.reviewIds
  sourceTasks := decided.sources ▸ reviewed.sourceTasks
  undecided := fun other listed pending =>
    reviewed.undecided other (decided.pending other listed pending).1 pending
  current := by
    intro other listed pending
    rw [TaskRows.source?, decided.sources]
    exact reviewed.current other (decided.pending other listed pending).1 pending

theorem command (command : SourceCommand) :
    command.apply python rows = rows ∨
      (∃ call mutation, command = .accept call mutation ∧
        Accepted python rows (command.apply python rows) mutation.taskId) ∨
        ∃ review, Decided rows (command.apply python rows) review := by
  cases command with
  | accept call mutation =>
    cases outcome : (commit (applyWfmSourceProjection python call mutation) rows).1 with
    | error raised => exact .inl (commit_error outcome)
    | ok result =>
      
      exact .inr (.inl ⟨call, mutation, rfl,
        applyWfmSourceProjection_ok python reviewed (commit_ok outcome)⟩)
  | resolve call request =>
    cases outcome : (commit (resolveWfmSourceTerminalConsequence python call request) rows).1 with
    | error raised => exact .inl (commit_error outcome)
    | ok result => exact .inr (.inr (resolve_ok python reviewed (commit_ok outcome)))

theorem step (stepped : SourceStep python rows next) : SourceReviewed next := by
  cases stepped with
  | command command =>
    rcases reviewed.command python command with same | ⟨_, _, _, effect⟩ | ⟨_, effect⟩
    · rw [same]
      exact reviewed
    · exact reviewed.accepted python effect
    · exact reviewed.decided effect
  | elsewhere same => exact reviewed.elsewhere same

end

theorem of_reachable (reached : Reachable WithoutSources (SourceStep python) rows) :
    SourceReviewed rows :=
  reached.invariant SourceReviewed (fun _ initial => .empty initial)
    fun _ _ reviewed stepped => reviewed.step python stepped

end SourceReviewed

/-- The run from the acceptance that opened a review. -/
structure OpenedBy (before opened rows : TaskRows) (review : WfmSourceTerminalReviewRecord) :
    Prop where
  reached : Reachable WithoutSources (SourceStep python) before
  command : ∃ call mutation,
    opened = (commit (applyWfmSourceProjection python call mutation) before).2
  opens : OpenedNow python before opened review
  since : Later (SourceStep python) opened rows
  source : rows.source? review.taskId = opened.source? review.taskId

/-- A pending review was opened by an acceptance, and the source of its task has
not changed since. -/
theorem opened_of_reachable (reached : Reachable WithoutSources (SourceStep python) rows)
    (listed : review ∈ rows.sourceTerminalReviews) (pending : review.state = .pending) :
    ∃ before opened, OpenedBy python before opened rows review := by
  induction reached with
  | start initial =>
    simp only [WithoutSources, TaskRows.sourceTables, Prod.mk.injEq] at initial
    rw [initial.2] at listed
    cases listed
  | @step rows next reached stepped ih =>
    -- The review was there before and the source of its task is as it was.
    have older (old : review ∈ rows.sourceTerminalReviews)
        (same : next.source? review.taskId = rows.source? review.taskId) :
        ∃ before opened, OpenedBy python before opened next review := by
      obtain ⟨before, opened, run⟩ := ih old
      exact ⟨before, opened, run.reached, run.command, run.opens, run.since.tail stepped,
        same.trans run.source⟩
    have reviewed := SourceReviewed.of_reachable python reached
    cases stepped with
    | elsewhere same =>
      simp only [TaskRows.sourceTables, Prod.mk.injEq] at same
      exact older (same.2 ▸ listed) (by rw [TaskRows.source?, same.1]; rfl)
    | command command =>
      rcases reviewed.command python command with same | ⟨call, mutation, rfl, accepted⟩ |
        ⟨_, decided⟩
      · rw [same] at listed
        exact older listed (by rw [same])
      · rcases accepted.pending review listed pending with ⟨old, other⟩ | opens
        · exact older old (accepted.others _ other)
        · exact ⟨rows, _, reached, ⟨call, mutation, rfl⟩, opens, .refl, rfl⟩
      · exact older (decided.pending review listed pending).1
          (by rw [TaskRows.source?, decided.sources]; rfl)

end Soma.ObjectivesTasks
