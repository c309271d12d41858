import Soma.ObjectivesTasks.Aggregate

/-!
What the rebuild of an aggregate leaves alone and what it may raise.

A rebuild writes aggregates only, and every failure of it is a fault: an
integrity failure, a document that cannot be encoded or an unexpected exception.
So what the other tables say survives it, and no answer of a command to its
caller comes from there.
-/

namespace Soma.ObjectivesTasks

open Foundation Transaction

/-! ## What is left alone -/

/-- A predicate that no rewrite of the aggregates changes. -/
def AggregateFree (Inv : TaskRows → Prop) : Prop :=
  ∀ ⦃rows : TaskRows⦄ (aggregates : List ObjectiveAggregateProjection), Inv rows →
    Inv { rows with aggregates := aggregates }

section Keeps

variable (python : PythonLibrary) {Inv : TaskRows → Prop} (free : AggregateFree Inv)

include free

theorem keeps_updateAggregate (objectiveId : String) (revision : Nat) (material : MaterialState)
    (fingerprint : String) :
    Keeps Inv (updateAggregate objectiveId revision material fingerprint) := by
  intro rows next value holds ran
  simp only [updateAggregate, steps_ok] at ran
  obtain ⟨-, rfl⟩ := ran
  exact free _ holds

theorem keeps_insertAggregate (row : ObjectiveAggregateProjection) :
    Keeps Inv (insertAggregate row) := by
  intro rows next value holds ran
  simp only [insertAggregate, steps_ok] at ran
  obtain ⟨-, rfl⟩ := ran
  exact free _ holds

omit free in
theorem keeps_rebuilt (objectiveId : String) : Keeps Inv (rebuilt objectiveId) := by
  refine .bind .get fun _ => .bind (.attempt _) fun stored => ?_
  cases stored with
  | none => exact .throw _
  | some projection => exact .pure _

theorem keeps_rebuildAggregate (objectiveId : String) :
    Keeps Inv (rebuildAggregate python objectiveId) := by
  refine .bind .get fun _ => .bind (.attempt _) fun derived => .bind (.attempt _) fun existing => ?_
  cases existing with
  | none => exact .bind (keeps_insertAggregate free _) fun _ => keeps_rebuilt _
  | some existing =>
    by_cases agrees : existing.aggregateInputFingerprint = derived.1
    · simp only [agrees, if_true]
      exact .bind (.require _ _) fun _ => .pure _
    · simp only [agrees, if_false]
      exact .bind (keeps_updateAggregate free _ _ _ _) fun _ => keeps_rebuilt _

theorem keeps_rebuildIfMember (taskId : String) : Keeps Inv (rebuildIfMember python taskId) := by
  refine .bind .get fun _ => .bind (.attempt _) fun membership => ?_
  cases membership with
  | none => exact .pure _
  | some membership =>
    exact .bind (keeps_rebuildAggregate python free _) fun _ => .pure _

end Keeps

/-! ## What is raised -/

/-- Broken data or a broken program, and no answer to the caller of a command. -/
def Fault (raised : Raised) : Prop :=
  raised = .other ∨ (∃ message, raised = integrityFailure message) ∨
    ∃ message, raised = validationError message

theorem fault_other : Fault .other :=
  .inl rfl

theorem fault_integrity (message : String) : Fault (integrityFailure message) :=
  .inr (.inl ⟨message, rfl⟩)

theorem fault_validation (message : String) : Fault (validationError message) :=
  .inr (.inr ⟨message, rfl⟩)

section Reads

variable (rows : TaskRows)

theorem raises_integrity [Decidable condition] (message : String) :
    RaisesOnly Fault (ensure condition (integrityFailure message)) :=
  raisesOnly_ensure (fault_integrity message)

theorem raises_storedUuid (value label : String) : RaisesOnly Fault (storedUuid value label) :=
  raises_integrity _

theorem raises_storedOptionalUuid (value : Option String) (label : String) :
    RaisesOnly Fault (storedOptionalUuid value label) := by
  cases value with
  | none => exact .ok _
  | some value => exact raises_storedUuid value label

theorem raises_positive (value : Nat) (label : String) : RaisesOnly Fault (positive value label) :=
  raises_integrity _

theorem raises_currentMembershipForTask (taskId : String) :
    RaisesOnly Fault (currentMembershipForTask rows taskId) := by
  unfold currentMembershipForTask
  cases rows.membership? taskId with
  | none => exact .ok _
  | some membership =>
    exact .bind (raises_storedUuid _ _) fun _ => .bind (raises_storedUuid _ _) fun _ =>
      .bind (raises_storedUuid _ _) fun _ => .bind (raises_positive _ _) fun _ =>
      .bind (raises_storedUuid _ _) fun _ => .bind (raises_integrity _) fun _ =>
      .bind (raises_integrity _) fun _ => .ok _

theorem raises_validateExecutionShape (execution : FoldedExecution) :
    RaisesOnly Fault (validateExecutionShape execution) :=
  .bind (raises_integrity _) fun _ => .bind (raises_integrity _) fun _ =>
    .bind (raises_integrity _) fun _ => raises_integrity _

theorem raises_checkPinnedPlan (membership : ObjectiveMembershipRecord) (plan : TaskPlanRecord) :
    RaisesOnly Fault (checkPinnedPlan membership plan) :=
  .bind (raises_storedUuid _ _) fun _ => .bind (raises_positive _ _) fun _ =>
    .bind (raises_storedUuid _ _) fun _ => .bind (raises_storedUuid _ _) fun _ =>
    .bind (raises_storedUuid _ _) fun _ => .bind (raises_integrity _) fun _ =>
    raises_integrity _

theorem raises_memberCurrentPlan (taskId : String) :
    RaisesOnly Fault (memberCurrentPlan rows taskId) := by
  unfold memberCurrentPlan
  split
  · exact .error (fault_integrity _)
  · split
    · exact .error (fault_integrity _)
    · exact .bind (raises_positive _ _) fun _ => .bind (raises_storedUuid _ _) fun _ =>
        .bind (raises_storedUuid _ _) fun _ => .bind (raises_integrity _) fun _ => .ok _

theorem raises_memberExecution (taskId : String) :
    RaisesOnly Fault (memberExecution rows taskId) := by
  refine .bind (raises_integrity _) fun _ => .bind (raises_storedOptionalUuid _ _) fun _ => ?_
  cases rows.executionProjection? taskId with
  | none => exact .bind (raises_integrity _) fun _ => .ok _
  | some projection =>
    refine .bind (raises_positive _ _) fun _ => ?_
    split
    · exact .error (fault_integrity _)
    · exact .bind (raises_integrity _) fun _ => .bind (raises_storedUuid _ _) fun _ =>
        .bind (raises_integrity _) fun _ => .bind (raises_storedUuid _ _) fun _ =>
        .bind (raises_integrity _) fun _ => .bind (raises_validateExecutionShape _) fun _ => .ok _

theorem raises_memberOutcome (taskId : String) (execution : FoldedExecution) :
    RaisesOnly Fault (memberOutcome rows taskId execution) := by
  unfold memberOutcome
  split
  · exact .ok _
  · refine .bind (raises_positive _ _) fun _ => .bind (raises_storedUuid _ _) fun _ => ?_
    split
    · exact .error (fault_integrity _)
    · exact .bind (raises_storedUuid _ _) fun _ => .bind (raises_integrity _) fun _ => .ok _

theorem raises_memberCount (taskId : String) : RaisesOnly Fault (memberCount rows taskId) := by
  unfold memberCount
  split
  · exact .ok _
  · refine .bind (raises_positive _ _) fun _ => ?_
    split
    · exact .error (fault_integrity _)
    · exact .bind (raises_storedUuid _ _) fun _ => .bind (raises_integrity _) fun _ =>
        .bind (raises_integrity _) fun _ => .ok _

theorem raises_loadMember (objectiveId : String)
    (pinned : ObjectiveMembershipRecord × TaskPlanRecord) :
    RaisesOnly Fault (loadMember rows objectiveId pinned) :=
  .bind (raises_checkPinnedPlan _ _) fun _ => .bind (raises_memberCurrentPlan rows _) fun _ =>
    .bind (raises_memberExecution rows _) fun _ => .bind (raises_memberOutcome rows _ _) fun _ =>
    .bind (raises_memberCount rows _) fun _ =>
    .bind (.bind (raises_integrity _) fun _ => raises_integrity _) fun _ => .ok _

theorem raises_loadMembers (objectiveId : String) :
    RaisesOnly Fault (loadMembers rows objectiveId) :=
  .bind (.mapM (raises_loadMember rows objectiveId) _) fun _ =>
    .bind (raises_integrity _) fun _ => .ok _

theorem raises_loadObjective (objectiveId : String) :
    RaisesOnly Fault (loadObjective rows objectiveId) := by
  unfold loadObjective
  split
  · exact .error (fault_integrity _)
  · exact .bind (raises_positive _ _) fun _ => .bind (raises_storedOptionalUuid _ _) fun _ => .ok _

theorem raises_validateCurrentEnvelope (objective : Objective) (members : List MemberAuthority) :
    RaisesOnly Fault (validateCurrentEnvelope rows objective members) := by
  unfold validateCurrentEnvelope validateEnvelope
  split
  · split
    · exact .error (fault_integrity _)
    · exact .bind (raises_integrity _) fun _ => raises_integrity _
  · exact .ok _

theorem raises_currentReview (objectiveId fingerprint : String) :
    RaisesOnly Fault (currentReview rows objectiveId fingerprint) := by
  unfold currentReview
  split
  · exact .ok _
  · exact .bind (raises_storedUuid _ _) fun _ => .ok _

theorem raises_aggregate (objectiveId : String) :
    RaisesOnly Fault (aggregate rows objectiveId) := by
  unfold aggregate
  split
  · exact .ok _
  · exact .bind (raises_storedUuid _ _) fun _ => .bind (raises_integrity _) fun _ =>
      .bind (raises_positive _ _) fun _ => .ok _

theorem raises_sha256CanonicalJson (python : PythonLibrary) (value : Json) :
    RaisesOnly Fault (sha256CanonicalJson python value) := by
  refine .bind ?_ fun _ => .ok _
  unfold canonicalJson
  split
  · exact .ok _
  · exact .error (fault_validation _)

theorem raises_deriveAggregate (python : PythonLibrary) (objectiveId : String) :
    RaisesOnly Fault (deriveAggregate python rows objectiveId) :=
  .bind (raises_storedUuid _ _) fun _ => .bind (raises_loadObjective rows _) fun _ =>
    .bind (raises_loadMembers rows _) fun _ =>
    .bind (raises_validateCurrentEnvelope rows _ _) fun _ =>
    .bind (raises_sha256CanonicalJson python _) fun _ =>
    .bind (raises_currentReview rows _ _) fun _ => .bind (raises_integrity _) fun _ =>
    .bind (raises_sha256CanonicalJson python _) fun _ => .ok _

end Reads

section Bodies

variable (python : PythonLibrary)

theorem raises_rebuilt (objectiveId : String) : BodyRaisesOnly Fault (rebuilt objectiveId) := by
  refine .bind .get fun rows => .bind (.attempt (raises_aggregate rows _)) fun stored => ?_
  cases stored with
  | none => exact .throw (fault_integrity _)
  | some projection => exact .pure _

theorem raises_updateAggregate (objectiveId : String) (revision : Nat) (material : MaterialState)
    (fingerprint : String) :
    BodyRaisesOnly Fault (updateAggregate objectiveId revision material fingerprint) :=
  .bind .get fun _ => .bind (.require (fault_integrity _)) fun _ => .set _

theorem raises_insertAggregate (row : ObjectiveAggregateProjection) :
    BodyRaisesOnly Fault (insertAggregate row) :=
  .bind .get fun _ => .bind (.require fault_other) fun _ => .set _

theorem raises_rebuildAggregate (objectiveId : String) :
    BodyRaisesOnly Fault (rebuildAggregate python objectiveId) := by
  refine .bind .get fun rows =>
    .bind (.attempt (raises_deriveAggregate rows python _)) fun derived =>
    .bind (.attempt (raises_aggregate rows _)) fun existing => ?_
  cases existing with
  | none =>
    exact .bind (raises_insertAggregate _) fun _ => raises_rebuilt _
  | some existing =>
    by_cases agrees : existing.aggregateInputFingerprint = derived.1
    · simp only [agrees, if_true]
      exact .bind (.require (fault_integrity _)) fun _ => .pure _
    · simp only [agrees, if_false]
      exact .bind (raises_updateAggregate _ _ _ _) fun _ => raises_rebuilt _

theorem raises_rebuildIfMember (taskId : String) :
    BodyRaisesOnly Fault (rebuildIfMember python taskId) := by
  refine .bind .get fun rows => .bind (.attempt (raises_currentMembershipForTask rows _))
      fun membership => ?_
  cases membership with
  | none => exact .pure _
  | some membership =>
    exact .bind (raises_rebuildAggregate python _) fun _ => .pure _

end Bodies

end Soma.ObjectivesTasks
