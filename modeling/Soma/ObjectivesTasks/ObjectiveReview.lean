import Soma.ObjectivesTasks.ExecutionRuns
import Soma.ObjectivesTasks.OutcomeReview

/-!
`review_objective` of `services/objectives.py`. An Objective is reviewed once
every member has an accepted outcome; its own outcome is derived from the
included members, except that a cancellation also asks that no member has
started. Included members that were all cancelled beside an excluded one that
ran leave nothing to derive, and no later work changes that.
-/

namespace Soma.ObjectivesTasks

open Foundation Transaction

structure ObjectiveReviewCall where
  objectiveId : String
  reviewFingerprint : String
  reasonCategory : Option String
  reviewEventId : Uuid4
  now : Nat

def reviewNotReady (message : String) : Raised :=
  taskError "OBJECTIVE_REVIEW_NOT_READY" message

/-- The checks of `review_objective` before the transaction. -/
def validateObjectiveReview (call : ObjectiveReviewCall) : Except Raised Unit := do
  requireUuid4 call.objectiveId
  ensure (isSha256 call.reviewFingerprint)
    (validationError "review_fingerprint must be lowercase SHA-256")
  normalizeReason call.reasonCategory

section Commands

variable (python : PythonLibrary)

/-- `review_objective.prepare`: the derived outcome, and whether it was already
reviewed under this fingerprint. -/
def prepareObjectiveReview (rows : TaskRows) (call : ObjectiveReviewCall) :
    Except Raised (AggregateOutcome × Bool) :=
  match rows.objective? call.objectiveId with
  | none => .error (taskError "OBJECTIVE_NOT_FOUND" "Objective does not exist")
  | some objective => do
    ensure (objective.creationOrigin ≠ .historicalProviderComplete ∧
        objective.supersededByObjectiveId = none)
      (reviewNotReady "Objective is not eligible for operational review")
    let members ← loadMembers rows call.objectiveId
    ensure (members ≠ [] ∧ ∀ member ∈ members, member.acceptedOutcome ≠ none)
      (reviewNotReady "Every Objective member requires accepted Task outcome")
    let currentFingerprint ← sha256CanonicalJson python (reviewInput objective members)
    ensure (currentFingerprint = call.reviewFingerprint)
      (taskError "OBJECTIVE_REVIEW_STALE" "Objective review fingerprint changed")
    match deriveOutcome members with
    | none => .error (reviewNotReady "Objective outcome cannot yet be derived")
    | some outcome => do
      ensure (outcome ∈ [.incomplete, .mixed] → call.reasonCategory ≠ none)
        (validationError "incomplete or mixed Objective review requires reason_category")
      let prior ← currentReview rows call.objectiveId currentFingerprint
      return (outcome, prior.isSome)

/-- The event a review records. -/
def ObjectiveReviewCall.event (call : ObjectiveReviewCall) (outcome : AggregateOutcome) :
    ObjectiveReviewEvent where
  objectiveReviewEventId := call.reviewEventId.value
  objectiveId := call.objectiveId
  reviewFingerprint := call.reviewFingerprint
  derivedOutcome := outcome
  reviewedAtUtc := call.now

/-- `review_objective`. The result says whether there was nothing to change. -/
def reviewObjective (call : ObjectiveReviewCall) : TaskBody Bool := do
  attempt (validateObjectiveReview call)
  let rows ← get
  let (outcome, noChange) ← attempt (prepareObjectiveReview python rows call)
  if noChange then return true
  else do
    require (call.reviewEventId.value ∉
      rows.objectiveReviews.map (·.objectiveReviewEventId)) .other
    set { rows with objectiveReviews := rows.objectiveReviews ++ [call.event outcome] }
    let _ ← rebuildAggregate python call.objectiveId
    return false

end Commands

/-! ## What can be derived -/

/-- The member has an accepted outcome that matches its execution. -/
def MemberAuthority.Effective (member : MemberAuthority) : Prop :=
  ∃ outcome, member.acceptedOutcome = some outcome ∧
    outcomeMatchesExecution outcome member.execution = true

/-- All that counts was cancelled before execution, but some member was started. -/
def CancelledBesideStarted (members : List MemberAuthority) : Prop :=
  (∃ member ∈ members, member.included = true) ∧
    (∀ member ∈ members, member.included = true →
      member.acceptedOutcome = some .cancelledWithoutExecution) ∧
    ∃ member ∈ members, member.hasStarted = true

section Derived

variable {members : List MemberAuthority}

theorem mem_included_outcomes :
    outcome ∈ (members.filter (·.included)).map (·.acceptedOutcome) ↔
      ∃ member ∈ members, member.included = true ∧ member.acceptedOutcome = outcome := by
  simp only [List.mem_map, List.mem_filter]
  constructor
  · rintro ⟨member, ⟨inside, included⟩, same⟩
    exact ⟨member, inside, included, same⟩
  · rintro ⟨member, inside, included, same⟩
    exact ⟨member, ⟨inside, included⟩, same⟩

theorem agree_or_differ {outcomes : List (Option AcceptedOutcome)} (some : outcomes ≠ [])
    (accepted : none ∉ outcomes) :
    (∃ outcome, ∀ other ∈ outcomes, other = Option.some outcome) ∨
      ∃ first ∈ outcomes, ∃ second ∈ outcomes, first ≠ second := by
  obtain ⟨first, rest, rfl⟩ := List.exists_cons_of_ne_nil some
  cases first with
  | none => exact absurd (List.mem_cons_self) accepted
  | some outcome =>
    by_cases same : ∀ other ∈ Option.some outcome :: rest, other = Option.some outcome
    · exact .inl ⟨outcome, same⟩
    · push Not at same
      obtain ⟨other, inside, different⟩ := same
      exact .inr ⟨Option.some outcome, List.mem_cons_self, other, inside, different.symm⟩

/-- The one mix of members that `_derive_outcome` has no branch for. -/
theorem deriveOutcome_eq_none (inhabited : members ≠ [])
    (accepted : ∀ member ∈ members, member.acceptedOutcome ≠ none) :
    deriveOutcome members = none ↔ CancelledBesideStarted members := by
  set outcomes := (members.filter (·.included)).map (·.acceptedOutcome) with listed
  have known : none ∉ outcomes := by
    intro inside
    obtain ⟨member, inside, -, same⟩ := mem_included_outcomes.mp inside
    exact accepted member inside same
  have includedIff : outcomes = [] ↔ ¬ ∃ member ∈ members, member.included = true := by
    rw [listed, List.map_eq_nil_iff, List.filter_eq_nil_iff]
    simp
  have cancelledIff : (∀ outcome ∈ outcomes, outcome = some .cancelledWithoutExecution) ↔
      ∀ member ∈ members, member.included = true →
        member.acceptedOutcome = some .cancelledWithoutExecution := by
    constructor
    · intro all member inside included
      exact all _ (mem_included_outcomes.mpr ⟨member, inside, included, rfl⟩)
    · intro all outcome listedIn
      obtain ⟨member, memberIn, included, same⟩ := mem_included_outcomes.mp listedIn
      exact same ▸ all member memberIn included
  have startedIff : (¬ ∀ member ∈ members, member.hasStarted = false) ↔
      ∃ member ∈ members, member.hasStarted = true := by simp
  rw [deriveOutcome, ← listed, CancelledBesideStarted, ← cancelledIff, ← startedIff]
  by_cases empty : outcomes = []
  · have excluded := includedIff.mp empty
    rw [if_pos empty, if_neg inhabited]
    simp [excluded]
  have included : ∃ member ∈ members, member.included = true := not_not.mp (mt includedIff.mpr empty)
  obtain ⟨first, firstIn⟩ := List.exists_mem_of_ne_nil outcomes empty
  rw [if_neg empty, if_neg known]
  by_cases completed : ∀ outcome ∈ outcomes, outcome = some .completed
  · have other : ¬ ∀ outcome ∈ outcomes, outcome = some .cancelledWithoutExecution := fun all => by
      have clash := (completed first firstIn).symm.trans (all first firstIn)
      cases clash
    rw [if_pos completed]
    simp [other]
  rw [if_neg completed]
  by_cases incomplete : ∀ outcome ∈ outcomes, outcome = some .incomplete
  · have other : ¬ ∀ outcome ∈ outcomes, outcome = some .cancelledWithoutExecution := fun all => by
      have clash := (incomplete first firstIn).symm.trans (all first firstIn)
      cases clash
    rw [if_pos incomplete]
    simp [other]
  rw [if_neg incomplete]
  by_cases cancelled : ∀ outcome ∈ outcomes, outcome = some .cancelledWithoutExecution
  · -- all agree, so only the started members decide between a cancellation and nothing
    have agree : ¬ ∃ first ∈ outcomes, ∃ second ∈ outcomes, first ≠ second := by
      rintro ⟨one, oneIn, two, twoIn, different⟩
      exact different ((cancelled one oneIn).trans (cancelled two twoIn).symm)
    by_cases idle : ∀ member ∈ members, member.hasStarted = false
    · rw [if_pos ⟨cancelled, idle⟩]
      constructor
      · intro impossible
        cases impossible
      · intro stuck
        exact absurd idle stuck.2.2
    · rw [if_neg fun both => idle both.2, if_neg agree]
      exact ⟨fun _ => ⟨included, cancelled, idle⟩, fun _ => rfl⟩
  · have differ : ∃ first ∈ outcomes, ∃ second ∈ outcomes, first ≠ second := by
      rcases agree_or_differ empty known with ⟨outcome, all⟩ | differ
      · cases outcome with
        | completed => exact absurd all completed
        | incomplete => exact absurd all incomplete
        | cancelledWithoutExecution => exact absurd all cancelled
      · exact differ
    rw [if_neg fun both => cancelled both.1, if_pos differ]
    constructor
    · intro impossible
      cases impossible
    · intro stuck
      exact absurd stuck.2.1 cancelled

end Derived

/-- The review of an Objective with these members, as far as nothing else stands
against it. -/
structure Reviewable (python : PythonLibrary) (rows : TaskRows) (call : ObjectiveReviewCall)
    (members : List MemberAuthority) : Prop where
  ordinary : ∃ objective, rows.objective? call.objectiveId = some objective ∧
    objective.creationOrigin ≠ .historicalProviderComplete ∧
    objective.supersededByObjectiveId = none ∧
    sha256CanonicalJson python (reviewInput objective members) = .ok call.reviewFingerprint
  loaded : loadMembers rows call.objectiveId = .ok members

theorem reviewNotReady_ne_currentReview :
    currentReview rows objectiveId fingerprint ≠ .error (reviewNotReady message) := by
  intro refused
  rw [currentReview] at refused
  split at refused
  · cases refused
  · rw [except_bind_error] at refused
    rcases refused with invalid | ⟨_, _, impossible⟩
    · have clash := (ensure_error.mp invalid).2
      cases clash
    · cases impossible

/-- A review whose members all have accepted outcomes is only refused as not
ready when no outcome can be derived. -/
theorem prepareObjectiveReview_notReady (reviewable : Reviewable python rows call members)
    (inhabited : members ≠ []) (accepted : ∀ member ∈ members, member.acceptedOutcome ≠ none) :
    (∃ message, prepareObjectiveReview python rows call = .error (reviewNotReady message)) ↔
      deriveOutcome members = none := by
  obtain ⟨objective, found, origin, current, digest⟩ := reviewable.ordinary
  have reads : prepareObjectiveReview python rows call = (match deriveOutcome members with
      | none => .error (reviewNotReady "Objective outcome cannot yet be derived")
      | some outcome => do
        ensure (outcome ∈ [.incomplete, .mixed] → call.reasonCategory ≠ none)
          (validationError "incomplete or mixed Objective review requires reason_category")
        let prior ← currentReview rows call.objectiveId call.reviewFingerprint
        return (outcome, prior.isSome)) := by
    have eligible : ensure (objective.creationOrigin ≠ .historicalProviderComplete ∧
        objective.supersededByObjectiveId = none)
        (reviewNotReady "Objective is not eligible for operational review") = .ok () :=
      ensure_ok.mpr ⟨origin, current⟩
    have complete : ensure (members ≠ [] ∧ ∀ member ∈ members, member.acceptedOutcome ≠ none)
        (reviewNotReady "Every Objective member requires accepted Task outcome") = .ok () :=
      ensure_ok.mpr ⟨inhabited, accepted⟩
    simp only [prepareObjectiveReview, found, eligible, reviewable.loaded, complete, digest, bind,
      Except.bind]
    rfl
  rw [reads]
  cases derived : deriveOutcome members with
  | none => exact ⟨fun _ => rfl, fun _ => ⟨_, rfl⟩⟩
  | some outcome =>
    refine ⟨?_, fun impossible => by cases impossible⟩
    rintro ⟨message, refused⟩
    rcases except_bind_error.mp refused with missing | ⟨_, _, later⟩
    · have clash := (ensure_error.mp missing).2
      cases clash
    · rcases except_bind_error.mp later with review | ⟨_, _, impossible⟩
      · exact absurd review reviewNotReady_ne_currentReview
      · cases impossible

/-- When an outcome can be derived for members that all have an effective one, and
when their review is refused as not ready. -/
theorem objective_review_ready_iff (members : List MemberAuthority) (inhabited : members ≠ [])
    (effective : ∀ member ∈ members, member.Effective) :
    (deriveOutcome members ≠ none ↔ ¬ CancelledBesideStarted members) ∧
      ∀ python rows call, Reviewable python rows call members →
        ((∃ message, prepareObjectiveReview python rows call = .error (reviewNotReady message)) ↔
          CancelledBesideStarted members) := by
  have accepted : ∀ member ∈ members, member.acceptedOutcome ≠ none := by
    intro member inside none
    obtain ⟨outcome, has, -⟩ := effective member inside
    cases none.symm.trans has
  have derived := deriveOutcome_eq_none inhabited accepted
  refine ⟨not_congr derived, fun python rows call reviewable => ?_⟩
  rw [prepareObjectiveReview_notReady reviewable inhabited accepted, derived]

def reviewedId (digit : String) : String :=
  "5c0d7a1e-2b3c-4d5e-8f60-11111111111" ++ digit

def cancelledMember : MemberAuthority where
  taskId := reviewedId "1"
  membershipRevision := 1
  acceptedPlanRevisionId := reviewedId "2"
  acceptedPlanStartUtc := 100
  acceptedPlanEndUtc := 200
  currentPlanRevision := 1
  currentPlanRevisionId := reviewedId "2"
  executionRevision := 1
  execution := ⟨.terminated, none, none, some 90⟩
  outcomeRevision := 1
  outcomeEventId := some (reviewedId "3")
  acceptedOutcome := some .cancelledWithoutExecution
  operationalCountRevision := 0
  included := true

def startedMember : MemberAuthority :=
  { cancelledMember with
    taskId := reviewedId "4"
    acceptedPlanRevisionId := reviewedId "5"
    currentPlanRevisionId := reviewedId "5"
    executionRevision := 2
    execution := ⟨.ended, some 100, some 190, none⟩
    outcomeEventId := some (reviewedId "6")
    acceptedOutcome := some .completed }

def MemberAuthority.excluded (member : MemberAuthority) : MemberAuthority :=
  { member with operationalCountRevision := 1, included := false }

/-- An Objective of a Task that was cancelled and one that was executed. One of them does not
count. -/
def reviewedRows (excluded : String) : TaskRows where
  __ := oneTask
  tasks := [⟨reviewedId "1", .localTask, 3⟩, ⟨reviewedId "4", .localTask, 4⟩]
  planRevisions := [⟨reviewedId "2", reviewedId "1", 100, 200⟩,
    ⟨reviewedId "5", reviewedId "4", 100, 200⟩]
  planCurrent := [⟨reviewedId "1", reviewedId "2", 1⟩, ⟨reviewedId "4", reviewedId "5", 1⟩]
  executionEvents :=
    [⟨reviewedId "7", reviewedId "1", 1, .manualCancel, some 90, none, none, some "operator"⟩,
      ⟨reviewedId "8", reviewedId "4", 1, .start, some 100, none, none, none⟩,
      ⟨reviewedId "9", reviewedId "4", 2, .endEvent, some 190, none, none, none⟩]
  executionProjections :=
    [⟨reviewedId "1", .terminated, none, none, some 90, some "operator", 1, reviewedId "7"⟩,
      ⟨reviewedId "4", .ended, some 100, some 190, none, none, 2, reviewedId "9"⟩]
  outcomeEvents :=
    [⟨reviewedId "3", reviewedId "1", .cancelledWithoutExecution, none, none, 195, "command"⟩,
      ⟨reviewedId "6", reviewedId "4", .completed, none, none, 195, "command"⟩]
  outcomeCurrent :=
    [⟨reviewedId "1", reviewedId "3", .cancelledWithoutExecution, 195, 1, "command"⟩,
      ⟨reviewedId "4", reviewedId "6", .completed, 195, 1, "command"⟩]
  operationalCountEvents := [⟨reviewedId "a", excluded, false⟩]
  operationalCountCurrent := [⟨excluded, false, 1, reviewedId "a"⟩]
  objectives := [⟨reviewedId "b", 1, .manual, none⟩]
  membershipEvents :=
    [⟨reviewedId "c", reviewedId "1", some (reviewedId "b"), some (reviewedId "2")⟩,
      ⟨reviewedId "d", reviewedId "4", some (reviewedId "b"), some (reviewedId "5")⟩]
  memberships := [⟨reviewedId "1", reviewedId "b", reviewedId "2", 1, reviewedId "c"⟩,
    ⟨reviewedId "4", reviewedId "b", reviewedId "5", 1, reviewedId "d"⟩]

def reviewedCall : ObjectiveReviewCall where
  objectiveId := reviewedId "b"
  reviewFingerprint := constantPython.sha256Hex ""
  reasonCategory := none
  reviewEventId := ⟨reviewedId "e", by decide +kernel⟩
  now := 300

/-- Two members with effective outcomes for which no outcome is derived: the one that was
executed does not count. -/
theorem objective_review_stuck :
    (∀ member ∈ [cancelledMember, startedMember.excluded], member.Effective) ∧
      deriveOutcome [cancelledMember, startedMember.excluded] = none ∧
      Reviewable constantPython (reviewedRows (reviewedId "4")) reviewedCall
        [cancelledMember, startedMember.excluded] ∧
      prepareObjectiveReview constantPython (reviewedRows (reviewedId "4")) reviewedCall =
        .error (reviewNotReady "Objective outcome cannot yet be derived") := by
  refine ⟨fun member inside => ?_, by decide, ⟨⟨_, rfl, by decide, rfl, rfl⟩, rfl⟩,
    by decide +kernel⟩
  rcases List.mem_pair.mp inside with rfl | rfl
  · exact ⟨.cancelledWithoutExecution, rfl, by decide⟩
  · exact ⟨.completed, rfl, by decide⟩

/-- When the cancelled one is excluded instead, an outcome is derived and the review of the
stored members is not refused. -/
theorem objective_review_ready_excluded :
    deriveOutcome [cancelledMember.excluded, startedMember] ≠ none ∧
      ¬ ∃ message, prepareObjectiveReview constantPython (reviewedRows (reviewedId "1"))
        reviewedCall = .error (reviewNotReady message) := by
  have effective : ∀ member ∈ [cancelledMember.excluded, startedMember], member.Effective := by
    intro member inside
    rcases List.mem_pair.mp inside with rfl | rfl
    · exact ⟨.cancelledWithoutExecution, rfl, by decide⟩
    · exact ⟨.completed, rfl, by decide⟩
  have stored : Reviewable constantPython (reviewedRows (reviewedId "1")) reviewedCall
      [cancelledMember.excluded, startedMember] := ⟨⟨_, rfl, by decide, rfl, rfl⟩, rfl⟩
  have counted : ¬ CancelledBesideStarted [cancelledMember.excluded, startedMember] := by
    rintro ⟨-, cancelled, -⟩
    exact absurd (cancelled startedMember (by simp) rfl) (by decide)
  obtain ⟨derived, refused⟩ := objective_review_ready_iff _ (List.cons_ne_nil _ _) effective
  exact ⟨derived.mpr counted, mt (refused _ _ _ stored).mp counted⟩

end Soma.ObjectivesTasks
