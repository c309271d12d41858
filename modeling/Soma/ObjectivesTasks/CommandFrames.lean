import Soma.ObjectivesTasks.OutcomeReview
import Soma.ObjectivesTasks.Rebuild

/-!
What the commands on executions and outcomes leave alone.

Every write of theirs is to the execution tables, to the revision of a task, to
the outcome tables or to an aggregate. A predicate that these writes keep is kept
by the commands.
-/

namespace Soma.ObjectivesTasks

open Foundation Transaction

/-- A predicate that no write to executions and to revisions of tasks changes. -/
structure ExecutionFree (Inv : TaskRows → Prop) : Prop where
  execution : ∀ ⦃rows : TaskRows⦄ (events : List TaskExecutionEvent)
    (projections : List TaskExecutionProjection), Inv rows →
    Inv { rows with executionEvents := events, executionProjections := projections }
  revision : ∀ ⦃rows : TaskRows⦄ (taskId : String) (revision : Nat), Inv rows →
    Inv (rows.incrementRevision taskId revision)

/-- A predicate that no write to outcomes changes. -/
def OutcomeFree (Inv : TaskRows → Prop) : Prop :=
  ∀ ⦃rows : TaskRows⦄ (events : List TaskOutcomeEvent) (current : List TaskOutcomeCurrent),
    Inv rows → Inv { rows with outcomeEvents := events, outcomeCurrent := current }

section Execution

variable {Inv : TaskRows → Prop} (free : ExecutionFree Inv)

include free

theorem keeps_insertExecutionEvent (event : TaskExecutionEvent) :
    Keeps Inv (insertExecutionEvent event) := by
  intro rows next value holds ran
  simp only [insertExecutionEvent, steps_ok] at ran
  obtain ⟨-, -, rfl⟩ := ran
  exact free.execution _ _ holds

theorem keeps_insertExecutionProjection (row : TaskExecutionProjection) :
    Keeps Inv (insertExecutionProjection row) := by
  intro rows next value holds ran
  simp only [insertExecutionProjection, steps_ok] at ran
  obtain ⟨-, -, rfl⟩ := ran
  exact free.execution _ _ holds

theorem keeps_updateExecutionProjection (selected : TaskExecutionProjection → Bool)
    (change : TaskExecutionProjection → TaskExecutionProjection) (lost : Raised) :
    Keeps Inv (updateExecutionProjection selected change lost) := by
  intro rows next value holds ran
  simp only [updateExecutionProjection, steps_ok] at ran
  obtain ⟨-, -, rfl⟩ := ran
  exact free.execution _ _ holds

theorem keeps_incrementRevision (taskId : String) (revision : Nat) :
    Keeps Inv (incrementRevision taskId revision) := by
  intro rows next value holds ran
  simp only [incrementRevision, steps_ok] at ran
  obtain ⟨-, rfl⟩ := ran
  exact free.revision _ _ holds

theorem keeps_applyStart (taskId : String) (taskRevision : Nat) (authority : ExecutionAuthority)
    (eventId : String) (acceptedStart : Nat) :
    Keeps Inv (applyStart taskId taskRevision authority eventId acceptedStart) := by
  refine .bind (keeps_insertExecutionEvent free _) fun _ => .bind ?_ fun _ =>
    keeps_incrementRevision free _ _
  unfold insertOrAdvanceStartProjection
  split
  · exact keeps_updateExecutionProjection free _ _ _
  · exact keeps_insertExecutionProjection free _

theorem keeps_applySelected (call : Call) (acceptedStart index : Nat)
    (selected : List (SelectedTaskExecutionStart × TaskRecord × ExecutionAuthority)) :
    Keeps Inv (applySelected call acceptedStart index selected) := by
  induction selected generalizing index with
  | nil => exact .pure _
  | cons entry selected ih =>
    exact .bind (keeps_applyStart free _ _ _ _ _) fun _ => ih (index + 1)

theorem keeps_applyEnd (taskId : String) (taskRevision : Nat) (authority : ExecutionAuthority)
    (eventId : String) (acceptedEnd : Nat) :
    Keeps Inv (applyEnd taskId taskRevision authority eventId acceptedEnd) :=
  .bind (keeps_insertExecutionEvent free _) fun _ =>
    .bind (keeps_updateExecutionProjection free _ _ _) fun _ =>
    keeps_incrementRevision free _ _

theorem keeps_applyCorrection (request : CorrectionRequest) (task : TaskRecord)
    (authority : ExecutionAuthority) (eventId : String) :
    Keeps Inv (applyCorrection request task authority eventId) :=
  .bind (keeps_insertExecutionEvent free _) fun _ => .bind .get fun _ =>
    .bind (.attempt _) fun _ => .bind (.require _ _) fun _ =>
    .bind (keeps_updateExecutionProjection free _ _ _) fun _ =>
    keeps_incrementRevision free _ _

end Execution

section Outcome

variable {Inv : TaskRows → Prop} (reviewFree : OutcomeFree Inv)

include reviewFree

theorem keeps_insertOutcomeEvent (event : TaskOutcomeEvent) :
    Keeps Inv (insertOutcomeEvent event) := by
  intro rows next value holds ran
  simp only [insertOutcomeEvent, steps_ok] at ran
  obtain ⟨-, rfl⟩ := ran
  exact reviewFree _ _ holds

theorem keeps_insertOutcomeCurrent (current : TaskOutcomeCurrent) :
    Keeps Inv (insertOutcomeCurrent current) := by
  intro rows next value holds ran
  simp only [insertOutcomeCurrent, steps_ok] at ran
  obtain ⟨-, -, rfl⟩ := ran
  exact reviewFree _ _ holds

theorem keeps_updateOutcomeCurrent (selected : TaskOutcomeCurrent → Bool)
    (change : TaskOutcomeCurrent → TaskOutcomeCurrent) (lost : Raised) :
    Keeps Inv (updateOutcomeCurrent selected change lost) := by
  intro rows next value holds ran
  simp only [updateOutcomeCurrent, steps_ok] at ran
  obtain ⟨-, -, rfl⟩ := ran
  exact reviewFree _ _ holds

variable (free : ExecutionFree Inv)

include free

theorem keeps_applyCancel (call : Call) (taskId : String) (taskRevision : Nat)
    (authority : ExecutionAuthority) (acceptedCancel : Nat) (reason : String) :
    Keeps Inv (applyCancel call taskId taskRevision authority acceptedCancel reason) := by
  refine .bind (keeps_insertExecutionEvent free _) fun _ => .bind ?_ fun _ =>
    .bind (keeps_insertOutcomeEvent reviewFree _) fun _ =>
    .bind (keeps_insertOutcomeCurrent reviewFree _) fun _ =>
    keeps_incrementRevision free _ _
  unfold insertOrAdvanceCancelProjection
  split
  · exact keeps_updateExecutionProjection free _ _ _
  · exact keeps_insertExecutionProjection free _

theorem keeps_applyOutcomeReview (call : Call) (request : OutcomeReviewRequest)
    (taskRevision : Nat) : Keeps Inv (applyOutcomeReview call request taskRevision) :=
  .bind (keeps_insertOutcomeEvent reviewFree _) fun _ =>
    .bind (keeps_insertOutcomeCurrent reviewFree _) fun _ =>
    keeps_incrementRevision free _ _

theorem keeps_applyOutcomeCorrection (call : Call) (request : OutcomeCorrectionRequest)
    (taskRevision : Nat) : Keeps Inv (applyOutcomeCorrection call request taskRevision) :=
  .bind (keeps_insertOutcomeEvent reviewFree _) fun _ =>
    .bind (keeps_updateOutcomeCurrent reviewFree _ _ _) fun _ =>
    keeps_incrementRevision free _ _

end Outcome

/-! ## Whole commands -/

/-- A predicate that every write of the commands keeps. -/
structure Framed (python : PythonLibrary) (Inv : TaskRows → Prop) : Prop extends
    ExecutionFree Inv where
  outcome : OutcomeFree Inv
  rebuild : ∀ objectiveId, Keeps Inv (rebuildAggregate python objectiveId)

namespace Framed

variable {python : PythonLibrary} {Inv : TaskRows → Prop} (framed : Framed python Inv)

include framed

theorem rebuildIfMember (taskId : String) :
    Keeps Inv (Soma.ObjectivesTasks.rebuildIfMember python taskId) := by
  refine .bind .get fun _ => .bind (.attempt _) fun membership => ?_
  cases membership with
  | none => exact .pure _
  | some membership => exact .bind (framed.rebuild _) fun _ => .pure _

section

variable (call : Call)

include call

theorem start (taskId : String) (taskRevision executionRevision : Int)
    (effectiveStart : EffectiveStart) :
    Keeps Inv (startTaskExecution python call taskId taskRevision executionRevision
      effectiveStart) :=
  .bind (.attempt _) fun _ => .bind (.attempt _) fun _ =>
    .bind (.attempt _) fun _ => .bind (.attempt _) fun _ =>
    .bind .get fun _ => .bind (.attempt _) fun _ =>
    .bind (keeps_applyStart framed.toExecutionFree _ _ _ _ _) fun _ =>
    .bind (framed.rebuildIfMember _) fun _ => .pure _

theorem startSelected (objectiveId : String)
    (objectiveRevision envelopeRevision : Int) (selected : List SelectedTaskExecutionStart)
    (effectiveStart : EffectiveStart) :
    Keeps Inv (startSelectedObjectiveTasks python call objectiveId objectiveRevision
      envelopeRevision selected effectiveStart) :=
  .bind (.attempt _) fun _ => .bind (.attempt _) fun _ =>
    .bind (.attempt _) fun _ => .bind (.attempt _) fun _ =>
    .bind (.attempt _) fun _ => .bind .get fun _ =>
    .bind (.attempt _) fun _ => .bind (.attempt _) fun _ =>
    .bind (keeps_applySelected framed.toExecutionFree _ _ _ _) fun _ => framed.rebuild _

theorem finish (taskId : String)
    (taskRevision executionRevision effectiveEndUtc : Int) :
    Keeps Inv (endTaskExecution python call taskId taskRevision executionRevision
      effectiveEndUtc) :=
  .bind (.attempt _) fun _ => .bind (.attempt _) fun _ =>
    .bind (.attempt _) fun _ => .bind (.require _ _) fun _ =>
    .bind .get fun _ => .bind (.attempt _) fun _ =>
    .bind (keeps_applyEnd framed.toExecutionFree _ _ _ _ _) fun _ =>
    .bind (framed.rebuildIfMember _) fun _ => .pure _

theorem correct (request : CorrectionRequest) (fingerprint : String)
    (accept : Bool) :
    Keeps Inv (correctTaskExecutionEvidence python call request fingerprint accept) :=
  .bind (.attempt _) fun _ => .bind .get fun _ => .bind (.attempt _) fun _ =>
    .bind (keeps_applyCorrection framed.toExecutionFree _ _ _ _) fun _ =>
    .bind (framed.rebuildIfMember _) fun _ => .pure _

theorem cancel (taskId : String)
    (taskRevision executionRevision outcomeRevision effectiveCancelUtc : Int)
    (reasonCategory : String) :
    Keeps Inv (cancelTaskWithoutExecution python call taskId taskRevision executionRevision
      outcomeRevision effectiveCancelUtc reasonCategory) :=
  .bind (.attempt _) fun _ => .bind (.attempt _) fun _ =>
    .bind (.attempt _) fun _ => .bind (.require _ _) fun _ =>
    .bind (.require _ _) fun _ => .bind (.attempt _) fun _ =>
    .bind .get fun _ => .bind (.attempt _) fun _ =>
    .bind (keeps_applyCancel framed.outcome framed.toExecutionFree _ _ _ _ _ _) fun _ =>
    .bind (framed.rebuildIfMember _) fun _ => .pure _

theorem review (request : OutcomeReviewRequest) (fingerprint : String) :
    Keeps Inv (reviewTaskOutcome python call request fingerprint) := by
  refine .bind (.attempt _) fun _ => .bind .get fun _ => .bind (.attempt _) fun prepared => ?_
  obtain ⟨_, noChange⟩ := prepared
  cases noChange with
  | true => exact .pure _
  | false =>
    exact .bind (keeps_applyOutcomeReview framed.outcome framed.toExecutionFree _ _ _)
      fun _ => .bind (framed.rebuildIfMember _) fun _ => .pure _

theorem correctOutcome (request : OutcomeCorrectionRequest) (fingerprint : String) :
    Keeps Inv (correctTaskOutcome python call request fingerprint) := by
  refine .bind (.attempt _) fun _ => .bind .get fun _ => .bind (.attempt _) fun prepared => ?_
  obtain ⟨_, noChange⟩ := prepared
  cases noChange with
  | true => exact .pure _
  | false =>
    exact .bind (keeps_applyOutcomeCorrection framed.outcome framed.toExecutionFree _ _ _)
      fun _ => .bind (framed.rebuildIfMember _) fun _ => .pure _

end

end Framed

end Soma.ObjectivesTasks
