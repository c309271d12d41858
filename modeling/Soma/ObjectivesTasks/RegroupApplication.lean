import Mathlib
import Soma.ObjectivesTasks.RegroupCandidates
import Soma.Theory.Intervals
import Soma.Theory.Rows

/-!
What `accept_regroup_proposal` of `services/grouping.py` writes of a candidate:
the memberships, the superseded Objectives and the envelope of the survivor, up
to `_assert_no_overlap` of `services/objectives.py`.

The rows of the proposal are those of the candidate, as `_assert_persisted_diff`
has it. The membership events, the tracking number and the archive row of a new
Objective and the aggregates that are rebuilt afterwards are left out.
-/

namespace Soma.ObjectivesTasks

open Foundation Transaction

def regroupStale (message : String) : Raised := taskError "GROUPING_PROPOSAL_STALE" message

/-- The identifiers `new_uuid4` returns: of a new Objective, and of the
membership event of a task. -/
structure RegroupIdentities where
  objectiveId : String
  eventId : String → String

/-! ## Memberships -/

def changedMembership (identities : RegroupIdentities) (survivorObjectiveId : String)
    (change : GroupingTaskChange) (membershipRevision : Nat) : ObjectiveMembershipRecord where
  taskId := change.taskId
  objectiveId := survivorObjectiveId
  acceptedPlanRevisionId := change.expectedCurrentPlanRevisionId
  membershipRevision
  lastEventId := identities.eventId change.taskId

def applyMembershipChange (identities : RegroupIdentities) (survivorObjectiveId : String)
    (memberships : List ObjectiveMembershipRecord) (change : GroupingTaskChange) :
    Except Raised (List ObjectiveMembershipRecord) :=
  match change.changeKind, memberships.find? (·.taskId = change.taskId) with
  | .unchangedContext, current => do
    ensure (current.any fun row => row.objectiveId = survivorObjectiveId ∧
        row.acceptedPlanRevisionId = change.expectedCurrentPlanRevisionId ∧
        some row.membershipRevision = change.expectedMembershipRevision)
      (regroupStale "unchanged regroup context drifted")
    return memberships
  | _, none => do
    ensure (change.expectedMembershipRevision = none ∧ change.fromObjectiveId = none)
      (regroupStale "add regroup membership precondition drifted")
    return memberships ++ [changedMembership identities survivorObjectiveId change 1]
  | _, some row => do
    ensure (some row.objectiveId = change.fromObjectiveId ∧
        some row.membershipRevision = change.expectedMembershipRevision)
      (regroupStale "regroup membership precondition drifted")
    return memberships.map fun other =>
      if other.taskId = change.taskId then
        changedMembership identities survivorObjectiveId change (other.membershipRevision + 1)
      else other

/-- The loop over the task changes. -/
def applyMembershipChanges (identities : RegroupIdentities) (survivorObjectiveId : String)
    (memberships : List ObjectiveMembershipRecord) (changes : List GroupingTaskChange) :
    Except Raised (List ObjectiveMembershipRecord) :=
  changes.foldlM (applyMembershipChange identities survivorObjectiveId) memberships

/-! ## Objectives -/

/-- One round of the loop over the Objective changes. -/
def applyObjectiveChange (survivorObjectiveId : String) (objectives : List Objective)
    (change : GroupingObjectiveChange) : Except Raised (List Objective) :=
  match change.objectiveId with
  | none => return objectives
  | some objectiveId =>
    let standing (objective : Objective) : Bool := objective.objectiveId = objectiveId ∧
      some objective.revision = change.expectedObjectiveRevision ∧
      objective.supersededByObjectiveId = none
    if change.action = .supersede then do
      ensure (objectives.countP standing = 1) (regroupStale "affected Objective revision changed")
      return objectives.map fun objective =>
        if standing objective then
          { objective with
            supersededByObjectiveId := some survivorObjectiveId
            revision := objective.revision + 1 }
        else objective
    else if objectiveId = survivorObjectiveId then do
      ensure ((objectives.find? (·.objectiveId = objectiveId)).any standing)
        (regroupStale "survivor Objective revision changed")
      return objectives
    else return objectives

/-! ## Envelopes -/

/-- The pinned plans of an Objective's members. -/
def TaskRows.memberPlans (rows : TaskRows) (objectiveId : String) : List TaskPlanRecord :=
  (rows.memberships.filter (·.objectiveId = objectiveId)).flatMap fun membership =>
    rows.planRevisions.filter (·.planRevisionId = membership.acceptedPlanRevisionId)

def TaskRows.currentObjective (rows : TaskRows) (objectiveId : String) : Bool :=
  rows.objectives.any fun objective =>
    objective.objectiveId = objectiveId ∧ objective.supersededByObjectiveId = none

/-- Another Objective that is not superseded has an envelope that overlaps the interval. -/
def TaskRows.meetsOther (rows : TaskRows) (objectiveId : String) (startUtc endUtc : Nat) : Bool :=
  rows.envelopes.any fun envelope => envelope.objectiveId ≠ objectiveId ∧
    rows.currentObjective envelope.objectiveId ∧ envelope.startUtc < endUtc ∧
    startUtc < envelope.endUtc

def planHull (plans : List TaskPlanRecord) : Option (Nat × Nat) := do
  let startUtc ← (plans.map (·.startUtc)).min?
  let endUtc ← (plans.map (·.endUtc)).max?
  return (startUtc, endUtc)

/-- `objective_envelope_insert_overlap_guard` and its twin of the update. -/
def guardEnvelope (rows : TaskRows) (objectiveId : String) (hull : Nat × Nat) :
    Except Raised Unit :=
  ensure (rows.currentObjective objectiveId → ¬ rows.meetsOther objectiveId hull.1 hull.2) .other

def insertEnvelope (rows : TaskRows) (objectiveId : String) : Except Raised TaskRows :=
  let plans := rows.memberPlans objectiveId
  match planHull plans with
  | none => .error (integrityFailure "Objective cannot publish an empty envelope")
  | some hull => do
    guardEnvelope rows objectiveId hull
    ensure (objectiveId ∉ rows.envelopes.map (·.objectiveId)) .other
    return { rows with
      envelopes := rows.envelopes ++ [⟨objectiveId, hull.1, hull.2, plans.length, 1⟩] }

def rebuildSurvivorEnvelope (rows : TaskRows) (objectiveId : String)
    (expectedEnvelopeRevision : Nat) : Except Raised TaskRows :=
  let plans := rows.memberPlans objectiveId
  match planHull plans with
  | none => .error (integrityFailure "accepted regroup would leave survivor Objective empty")
  | some hull => do
    guardEnvelope rows objectiveId hull
    let standing (envelope : ObjectiveEnvelope) : Bool :=
      envelope.objectiveId = objectiveId ∧ envelope.revision = expectedEnvelopeRevision
    ensure (rows.envelopes.countP standing = 1)
      (regroupStale "survivor Objective envelope changed")
    return { rows with
      envelopes := rows.envelopes.map fun envelope =>
        if standing envelope then
          ⟨objectiveId, hull.1, hull.2, plans.length, expectedEnvelopeRevision + 1⟩
        else envelope }

def assertNoOverlap (rows : TaskRows) (objectiveId : String) : Except Raised Unit :=
  match rows.envelopes.find? (·.objectiveId = objectiveId) with
  | none => .error (integrityFailure "Objective envelope disappeared before overlap guard")
  | some envelope =>
    ensure (¬ rows.meetsOther objectiveId envelope.startUtc envelope.endUtc)
      (taskError "OBJECTIVE_OVERLAP"
        "Objective would overlap current accepted Objective authority")

/-! ## The application -/

/-- The envelope of the survivor, inserted or rebuilt. -/
def writeEnvelope (rows : TaskRows) (candidate : RegroupCandidate) (survivorObjectiveId : String) :
    Except Raised TaskRows :=
  if candidate.proposalKind = .create then insertEnvelope rows survivorObjectiveId
  else
    match (candidate.objectiveChanges.find?
        (·.objectiveId = some survivorObjectiveId)).bind (·.expectedEnvelopeRevision) with
    | none => .error (integrityFailure "regroup survivor envelope revision is absent")
    | some revision => rebuildSurvivorEnvelope rows survivorObjectiveId revision

/-- The survivor an acceptance writes to, with the row of a new one. -/
def openSurvivor (identities : RegroupIdentities) (rows : TaskRows) (candidate : RegroupCandidate) :
    Except Raised (String × List Objective) :=
  if candidate.proposalKind = .create then do
    ensure (identities.objectiveId ∉ rows.objectives.map (·.objectiveId)) .other
    return (identities.objectiveId,
      rows.objectives ++ [⟨identities.objectiveId, 1, .automaticGrouping, none⟩])
  else
    match candidate.survivorObjectiveId with
    | none => .error (integrityFailure "regroup proposal lacks survivor Objective authority")
    | some survivorObjectiveId => return (survivorObjectiveId, rows.objectives)

/-- The Objective writes of `accept_regroup_proposal`, with the survivor. -/
def applyRegroup (identities : RegroupIdentities) (rows : TaskRows) (candidate : RegroupCandidate) :
    Except Raised (String × TaskRows) := do
  let (survivorObjectiveId, objectives) ← openSurvivor identities rows candidate
  let memberships ←
    applyMembershipChanges identities survivorObjectiveId rows.memberships candidate.taskChanges
  let objectives ←
    candidate.objectiveChanges.foldlM (applyObjectiveChange survivorObjectiveId) objectives
  let rows ← writeEnvelope { rows with memberships, objectives } candidate survivorObjectiveId
  assertNoOverlap rows survivorObjectiveId
  return (survivorObjectiveId, rows)

/-! ## What the loops leave -/

/-- What a change expects of the membership of its task. -/
structure GroupingTaskChange.Expects (survivorObjectiveId : String) (change : GroupingTaskChange)
    (current : Option ObjectiveMembershipRecord) : Prop where
  objective : change.fromObjectiveId = current.map (·.objectiveId)
  revision : change.expectedMembershipRevision = current.map (·.membershipRevision)
  unchanged : change.changeKind = .unchangedContext → ∃ row, current = some row ∧
    row.objectiveId = survivorObjectiveId ∧
    row.acceptedPlanRevisionId = change.expectedCurrentPlanRevisionId

/-- The membership of the task is in the survivor, with the plan of the change. -/
def GroupingTaskChange.Joined (survivorObjectiveId : String) (change : GroupingTaskChange)
    (memberships : List ObjectiveMembershipRecord) : Prop :=
  ∃ row, memberships.find? (·.taskId = change.taskId) = some row ∧
    row.objectiveId = survivorObjectiveId ∧
    row.acceptedPlanRevisionId = change.expectedCurrentPlanRevisionId

section Memberships

variable {identities : RegroupIdentities} {survivorObjectiveId : String}
  {memberships : List ObjectiveMembershipRecord} {change : GroupingTaskChange}

theorem applyMembershipChange_add (changes : change.changeKind ≠ .unchangedContext)
    (found : memberships.find? (·.taskId = change.taskId) = none)
    (revision : change.expectedMembershipRevision = none) (origin : change.fromObjectiveId = none) :
    applyMembershipChange identities survivorObjectiveId memberships change =
      .ok (memberships ++ [changedMembership identities survivorObjectiveId change 1]) := by
  rw [applyMembershipChange, found]
  split
  case h_1 same => exact absurd same changes
  case h_2 => simp [origin, revision, ensure, pure, Except.pure, bind, Except.bind]
  case h_3 impossible _ => cases impossible

theorem applyMembershipChange_update (changes : change.changeKind ≠ .unchangedContext)
    (found : memberships.find? (·.taskId = change.taskId) = some row)
    (revision : change.expectedMembershipRevision = some row.membershipRevision)
    (origin : change.fromObjectiveId = some row.objectiveId) :
    applyMembershipChange identities survivorObjectiveId memberships change =
      .ok (memberships.map fun other =>
        if other.taskId = change.taskId then
          changedMembership identities survivorObjectiveId change (other.membershipRevision + 1)
        else other) := by
  rw [applyMembershipChange, found]
  split
  case h_1 same => exact absurd same changes
  case h_2 impossible _ => cases impossible
  case h_3 held _ =>
    cases held
    simp [origin, revision, ensure, pure, Except.pure, bind, Except.bind]

variable (identities)

/-- A change that finds what it expects joins its task to the survivor, and leaves the
other memberships as they were. -/
theorem applyMembershipChange_expected (keyed : (memberships.map (·.taskId)).Nodup)
    (expects : change.Expects survivorObjectiveId
      (memberships.find? (·.taskId = change.taskId))) :
    ∃ next, applyMembershipChange identities survivorObjectiveId memberships change = .ok next ∧
      (next.map (·.taskId)).Nodup ∧ change.Joined survivorObjectiveId next ∧
      ∀ taskId, taskId ≠ change.taskId →
        next.find? (·.taskId = taskId) = memberships.find? (·.taskId = taskId) := by
  obtain ⟨origin, revision, unchanged⟩ := expects
  by_cases same : change.changeKind = .unchangedContext
  · obtain ⟨row, found, joined, pinned⟩ := unchanged same
    refine ⟨memberships, ?_, keyed, ⟨row, found, joined, pinned⟩, fun _ _ => rfl⟩
    rw [applyMembershipChange, same, found]
    simp [revision, found, joined, pinned, ensure, pure, Except.pure, bind, Except.bind]
  · cases found : memberships.find? (·.taskId = change.taskId) with
    | none =>
      rw [found] at origin revision
      refine ⟨_, applyMembershipChange_add same found revision origin, ?_, ?_, ?_⟩
      · refine Rows.nodup_concat keyed fun listed => ?_
        obtain ⟨row, inside, clash⟩ := List.mem_map.mp listed
        exact absurd (decide_eq_true clash) (List.find?_eq_none.mp found row inside)
      · refine ⟨changedMembership identities survivorObjectiveId change 1, ?_, rfl, rfl⟩
        rw [List.find?_append, found]
        simp [changedMembership]
      · intro taskId other
        exact Rows.find?_concat_ne other
    | some row =>
      rw [found] at origin revision
      have named : row.taskId = change.taskId := by simpa using List.find?_some found
      have replaced := Rows.replaced_of_key ObjectiveMembershipRecord.taskId
        (fun other => changedMembership identities survivorObjectiveId change
          (other.membershipRevision + 1)) keyed (List.mem_of_find?_eq_some found)
      rw [named] at replaced
      have unkeyed : ((changedMembership identities survivorObjectiveId change
          (row.membershipRevision + 1)).taskId) = row.taskId := named.symm
      have keyedNext := keyed
      rw [← replaced.map_eq unkeyed] at keyedNext
      refine ⟨_, applyMembershipChange_update same found revision origin, keyedNext, ?_, ?_⟩
      · refine ⟨changedMembership identities survivorObjectiveId change
          (row.membershipRevision + 1), ?_, rfl, rfl⟩
        exact Rows.find?_eq_some keyedNext replaced.mem_new
      · intro taskId other
        exact replaced.find?_ne unkeyed (by rwa [named])

/-- Under its expectations the loop joins every changed task to the survivor. -/
theorem applyMembershipChanges_expected {changes : List GroupingTaskChange}
    (keyed : (memberships.map (·.taskId)).Nodup) (distinct : (changes.map (·.taskId)).Nodup)
    (expects : ∀ change ∈ changes, change.Expects survivorObjectiveId
      (memberships.find? (·.taskId = change.taskId))) :
    ∃ after, applyMembershipChanges identities survivorObjectiveId memberships changes =
        .ok after ∧ (after.map (·.taskId)).Nodup ∧
      (∀ change ∈ changes, change.Joined survivorObjectiveId after) ∧
      ∀ taskId ∉ changes.map (·.taskId),
        after.find? (·.taskId = taskId) = memberships.find? (·.taskId = taskId) := by
  induction changes generalizing memberships with
  | nil => exact ⟨memberships, rfl, keyed, by simp, fun _ _ => rfl⟩
  | cons change changes ih =>
    rw [List.map_cons, List.nodup_cons] at distinct
    obtain ⟨next, ran, keyedNext, joined, kept⟩ :=
      applyMembershipChange_expected identities keyed (expects change List.mem_cons_self)
    have apart (other : GroupingTaskChange) (inside : other ∈ changes) :
        other.taskId ≠ change.taskId := fun same =>
      distinct.1 (same ▸ List.mem_map_of_mem inside)
    have expectsNext (other : GroupingTaskChange) (inside : other ∈ changes) :
        other.Expects survivorObjectiveId (next.find? (·.taskId = other.taskId)) := by
      rw [kept other.taskId (apart other inside)]
      exact expects other (List.mem_cons_of_mem _ inside)
    obtain ⟨after, rest, keyedAfter, others, frame⟩ := ih keyedNext distinct.2 expectsNext
    refine ⟨after, ?_, keyedAfter, ?_, ?_⟩
    · rw [applyMembershipChanges, List.foldlM_cons, ran]
      exact rest
    · intro other inside
      rcases List.mem_cons.mp inside with rfl | inside
      · obtain ⟨row, found, held⟩ := joined
        exact ⟨row, by rw [frame _ distinct.1, found], held⟩
      · exact others other inside
    · intro taskId outside
      rw [List.map_cons, List.mem_cons, not_or] at outside
      rw [frame taskId outside.2, kept taskId outside.1]

end Memberships

/-- The Objective is in the list and not superseded. -/
def Standing (objectives : List Objective) (objectiveId : String) : Prop :=
  ∃ objective ∈ objectives, objective.objectiveId = objectiveId ∧
    objective.supersededByObjectiveId = none

def GroupingObjectiveChange.Expects (survivorObjectiveId : String)
    (change : GroupingObjectiveChange) (objectives : List Objective) : Prop :=
  ∀ objectiveId, change.objectiveId = some objectiveId →
    (objectiveId = survivorObjectiveId ↔ change.action ≠ .supersede) ∧
    ∃ objective ∈ objectives, objective.objectiveId = objectiveId ∧
      some objective.revision = change.expectedObjectiveRevision ∧
      objective.supersededByObjectiveId = none

section Objectives

variable {survivorObjectiveId : String} {objectives : List Objective}
  {change : GroupingObjectiveChange}

theorem applyObjectiveChange_supersede (survivorObjectiveId : String)
    (keyed : (objectives.map (·.objectiveId)).Nodup) (inside : objective ∈ objectives)
    (named : change.objectiveId = some objective.objectiveId) (action : change.action = .supersede)
    (revision : some objective.revision = change.expectedObjectiveRevision)
    (current : objective.supersededByObjectiveId = none) :
    ∃ next, applyObjectiveChange survivorObjectiveId objectives change = .ok next ∧
      Rows.Replaced objectives next objective
        { objective with
          supersededByObjectiveId := some survivorObjectiveId
          revision := objective.revision + 1 } := by
  let standing (row : Objective) : Bool := row.objectiveId = objective.objectiveId ∧
    some row.revision = change.expectedObjectiveRevision ∧ row.supersededByObjectiveId = none
  have hit : standing objective = true := decide_eq_true ⟨rfl, revision, current⟩
  have one : objectives.countP standing = 1 :=
    Rows.countP_eq_one keyed inside hit fun row _ selects => (of_decide_eq_true selects).1
  obtain ⟨old, selected, replaced⟩ := Rows.replaced_of_countP (fun row : Objective =>
    { row with
      supersededByObjectiveId := some survivorObjectiveId
      revision := row.revision + 1 }) one
  obtain rfl : old = objective :=
    List.inj_on_of_nodup_map keyed replaced.mem_old inside (of_decide_eq_true selected).1
  refine ⟨_, ?_, replaced⟩
  simp only [applyObjectiveChange, named, action, if_true]
  exact except_bind_ok.mpr ⟨(), ensure_ok.mpr one, rfl⟩

/-- Under its expectations a change supersedes its Objective or writes nothing. -/
theorem applyObjectiveChange_expected (keyed : (objectives.map (·.objectiveId)).Nodup)
    (expects : change.Expects survivorObjectiveId objectives) :
    ∃ next, applyObjectiveChange survivorObjectiveId objectives change = .ok next ∧
      (next.map (·.objectiveId)).Nodup ∧
      (∀ objectiveId, Standing next objectiveId ↔ Standing objectives objectiveId ∧
        (change.action = .supersede → change.objectiveId ≠ some objectiveId)) ∧
      ∀ objective, change.objectiveId ≠ some objective.objectiveId →
        objective ∈ objectives → objective ∈ next := by
  cases named : change.objectiveId with
  | none =>
    refine ⟨objectives, by rw [applyObjectiveChange, named]; rfl, keyed, ?_, fun _ _ => id⟩
    simp
  | some objectiveId =>
    obtain ⟨survives, objective, inside, rfl, revision, current⟩ := expects objectiveId named
    by_cases action : change.action = .supersede
    · obtain ⟨next, ran, replaced⟩ := applyObjectiveChange_supersede survivorObjectiveId keyed
        inside named action revision current
      have unkeyed : ({ objective with
          supersededByObjectiveId := some survivorObjectiveId
          revision := objective.revision + 1 } : Objective).objectiveId =
            objective.objectiveId := rfl
      refine ⟨next, ran, ?_, ?_, ?_⟩
      · rw [replaced.map_eq unkeyed]
        exact keyed
      · intro objectiveId
        constructor
        · rintro ⟨row, listed, rfl, standing⟩
          rcases replaced.mem_next_keyed keyed unkeyed listed with
            rfl | ⟨before, other⟩
          · cases standing
          · exact ⟨⟨row, before, rfl, standing⟩, fun _ same => other (Option.some.inj same).symm⟩
        · rintro ⟨⟨row, listed, rfl, standing⟩, other⟩
          rcases replaced.mem_rows listed with rfl | kept
          · exact absurd rfl (other action)
          · exact ⟨row, kept, rfl, standing⟩
      · intro row other listed
        rcases replaced.mem_rows listed with rfl | kept
        · exact absurd rfl other
        · exact kept
    · obtain rfl := survives.mpr action
      refine ⟨objectives, ?_, keyed, fun _ => by simp [action], fun _ _ => id⟩
      have found := Rows.find?_eq_some keyed inside
      simp only [applyObjectiveChange, named, action, if_true, if_false]
      exact except_bind_ok.mpr ⟨(), ensure_ok.mpr (by
        rw [found, Option.any_some]
        exact decide_eq_true ⟨rfl, revision, current⟩), rfl⟩

/-- Under its expectations the loop leaves the Objectives it does not supersede. -/
theorem applyObjectiveChanges_expected {changes : List GroupingObjectiveChange}
    (keyed : (objectives.map (·.objectiveId)).Nodup)
    (distinct : (changes.map (·.objectiveId)).Nodup)
    (expects : ∀ change ∈ changes, change.Expects survivorObjectiveId objectives) :
    ∃ after, changes.foldlM (applyObjectiveChange survivorObjectiveId) objectives = .ok after ∧
      ∀ objectiveId, Standing after objectiveId ↔ Standing objectives objectiveId ∧
        ∀ change ∈ changes, change.action = .supersede →
          change.objectiveId ≠ some objectiveId := by
  induction changes generalizing objectives with
  | nil => exact ⟨objectives, rfl, by simp⟩
  | cons change changes ih =>
    rw [List.map_cons, List.nodup_cons] at distinct
    obtain ⟨_, ran, keyedNext, standing, kept⟩ :=
      applyObjectiveChange_expected keyed (expects change List.mem_cons_self)
    obtain ⟨after, rest, standing'⟩ := ih keyedNext distinct.2 fun other inside => by
      intro objectiveId named
      obtain ⟨survives, objective, listed, rfl, current⟩ :=
        expects other (List.mem_cons_of_mem _ inside) objectiveId named
      refine ⟨survives, objective, kept objective ?_ listed, rfl, current⟩
      intro same
      exact distinct.1 (same.trans named.symm ▸ List.mem_map_of_mem inside)
    refine ⟨after, by rw [List.foldlM_cons, ran]; exact rest, fun objectiveId => ?_⟩
    rw [standing', standing, and_assoc, List.forall_mem_cons]

end Objectives

theorem planHull_isHull (found : planHull plans = some hull) :
    Intervals.IsHull TaskPlanRecord.startUtc TaskPlanRecord.endUtc plans hull.1 hull.2 := by
  simp only [planHull, Option.bind_eq_bind, Option.bind_eq_some_iff, Option.pure_def,
    Option.some.injEq] at found
  obtain ⟨_, lowest, _, highest, rfl⟩ := found
  constructor
  · intro plan inside
    exact (List.le_min?_iff lowest).mp le_rfl _ (List.mem_map_of_mem inside)
  · exact List.mem_map.mp (List.min?_mem lowest)
  · intro plan inside
    exact (List.max?_le_iff highest).mp le_rfl _ (List.mem_map_of_mem inside)
  · exact List.mem_map.mp (List.max?_mem highest)

theorem exists_planHull (inside : plan ∈ plans) : ∃ hull, planHull plans = some hull := by
  have starts : plans.map (·.startUtc) ≠ [] := List.ne_nil_of_mem (List.mem_map_of_mem inside)
  have ends : plans.map (·.endUtc) ≠ [] := List.ne_nil_of_mem (List.mem_map_of_mem inside)
  obtain ⟨low, lowest⟩ := Option.isSome_iff_exists.mp (List.isSome_min?_of_ne_nil starts)
  obtain ⟨high, highest⟩ := Option.isSome_iff_exists.mp (List.isSome_max?_of_ne_nil ends)
  exact ⟨(low, high), by simp [planHull, lowest, highest]⟩

section Envelopes

variable {rows : TaskRows} {candidate : RegroupCandidate} {survivorObjectiveId : String}
  {hull : Nat × Nat}

theorem TaskRows.currentObjective_iff :
    rows.currentObjective objectiveId = true ↔ Standing rows.objectives objectiveId := by
  simp only [TaskRows.currentObjective, List.any_eq_true, decide_eq_true_eq, Standing]

/-- The row the survivor's envelope is written to is as the candidate expects it. -/
def EnvelopeExpected (rows : TaskRows) (candidate : RegroupCandidate)
    (survivorObjectiveId : String) : Prop :=
  if candidate.proposalKind = .create then
    survivorObjectiveId ∉ rows.envelopes.map (·.objectiveId)
  else
    ∃ envelope ∈ rows.envelopes, envelope.objectiveId = survivorObjectiveId ∧
      (candidate.objectiveChanges.find? (·.objectiveId = some survivorObjectiveId)).bind
        (·.expectedEnvelopeRevision) = some envelope.revision

/-- The survivor's envelope is the hull of its members, and the others are as they were. -/
structure Enveloped (rows : TaskRows) (survivorObjectiveId : String) (hull : Nat × Nat)
    (envelopes : List ObjectiveEnvelope) : Prop where
  survivor : ∃ envelope, envelopes.find? (·.objectiveId = survivorObjectiveId) = some envelope ∧
    envelope.startUtc = hull.1 ∧ envelope.endUtc = hull.2
  others : ∀ envelope, envelope.objectiveId ≠ survivorObjectiveId →
    (envelope ∈ envelopes ↔ envelope ∈ rows.envelopes)

/-- The envelope of the survivor is written unless a trigger finds another in its way. -/
theorem writeEnvelope_expected (keyed : (rows.envelopes.map (·.objectiveId)).Nodup)
    (current : rows.currentObjective survivorObjectiveId = true)
    (expected : EnvelopeExpected rows candidate survivorObjectiveId)
    (found : planHull (rows.memberPlans survivorObjectiveId) = some hull) :
    ∃ envelopes, Enveloped rows survivorObjectiveId hull envelopes ∧
      ∀ after, writeEnvelope rows candidate survivorObjectiveId = .ok after ↔
        rows.meetsOther survivorObjectiveId hull.1 hull.2 = false ∧
          after = { rows with envelopes } := by
  have guard : guardEnvelope rows survivorObjectiveId hull = .ok () ↔
      rows.meetsOther survivorObjectiveId hull.1 hull.2 = false := by
    rw [guardEnvelope, ensure_ok, current, Bool.not_eq_true]
    simp
  by_cases creates : candidate.proposalKind = .create
  · rw [EnvelopeExpected, if_pos creates] at expected
    let inserted : ObjectiveEnvelope := ⟨survivorObjectiveId, hull.1, hull.2,
      (rows.memberPlans survivorObjectiveId).length, 1⟩
    have unlisted : rows.envelopes.find? (·.objectiveId = survivorObjectiveId) = none :=
      List.find?_eq_none.mpr fun envelope inside same =>
        expected (List.mem_map.mpr ⟨envelope, inside, of_decide_eq_true same⟩)
    refine ⟨rows.envelopes ++ [inserted], ⟨⟨inserted, ?_, rfl, rfl⟩, ?_⟩, fun after => ?_⟩
    · rw [List.find?_append, unlisted]
      simp [inserted]
    · intro envelope other
      rw [List.mem_append, List.mem_singleton]
      exact ⟨fun listed => listed.resolve_right fun same => other (by rw [same]), .inl⟩
    · simp only [writeEnvelope, creates, if_true, insertEnvelope, found, except_ok, guard,
        exists_and_left, exists_const]
      exact ⟨fun ran => ⟨ran.1, ran.2.2.symm⟩, fun ran => ⟨ran.1, expected, ran.2.symm⟩⟩
  · rw [EnvelopeExpected, if_neg creates] at expected
    obtain ⟨old, inside, rfl, revision⟩ := expected
    let standing (envelope : ObjectiveEnvelope) : Bool :=
      envelope.objectiveId = old.objectiveId ∧ envelope.revision = old.revision
    let rebuilt : ObjectiveEnvelope := ⟨old.objectiveId, hull.1, hull.2,
      (rows.memberPlans old.objectiveId).length, old.revision + 1⟩
    have one : rows.envelopes.countP standing = 1 :=
      Rows.countP_eq_one keyed inside (decide_eq_true ⟨rfl, rfl⟩) fun envelope _ selects =>
        (of_decide_eq_true selects).1
    obtain ⟨row, selected, replaced⟩ := Rows.replaced_of_countP (fun _ => rebuilt) one
    obtain rfl : row = old :=
      List.inj_on_of_nodup_map keyed replaced.mem_old inside (of_decide_eq_true selected).1
    have unkeyed : rebuilt.objectiveId = row.objectiveId := rfl
    have keyedNext := keyed
    rw [← replaced.map_eq unkeyed] at keyedNext
    refine ⟨_, ⟨⟨rebuilt, Rows.find?_eq_some keyedNext replaced.mem_new, rfl, rfl⟩, ?_⟩,
      fun after => ?_⟩
    · intro envelope other
      constructor
      · intro listed
        exact (replaced.mem_next listed).resolve_left fun same => other (by rw [same])
      · intro listed
        exact (replaced.mem_rows listed).resolve_left fun same => other (by rw [same])
    · simp only [writeEnvelope, creates, if_false, revision, rebuildSurvivorEnvelope, found,
        except_ok, guard, exists_and_left, exists_const]
      exact ⟨fun ran => ⟨ran.1, ran.2.2.symm⟩, fun ran => ⟨ran.1, one, ran.2.symm⟩⟩

end Envelopes

/-! ## The application as a whole -/

/-- The application writes a survivor whose envelope is the hull of all its members and
overlaps no other Objective. -/
def RegroupCandidate.Applies (identities : RegroupIdentities) (rows : TaskRows)
    (candidate : RegroupCandidate) : Prop :=
  ∃ survivorObjectiveId after,
    applyRegroup identities rows candidate = .ok (survivorObjectiveId, after) ∧
      ∃ envelope ∈ after.envelopes, envelope.objectiveId = survivorObjectiveId ∧
        planHull (after.memberPlans survivorObjectiveId) =
          some (envelope.startUtc, envelope.endUtc) ∧
        after.meetsOther survivorObjectiveId envelope.startUtc envelope.endUtc = false

/-- The plans the members of the survivor are pinned to after the application. -/
def RegroupCandidate.Pins (rows : TaskRows) (candidate : RegroupCandidate)
    (survivorObjectiveId : String) (plan : TaskPlanRecord) : Prop :=
  plan ∈ rows.planRevisions ∧
    ((∃ change ∈ candidate.taskChanges,
        plan.planRevisionId = change.expectedCurrentPlanRevisionId) ∨
      ∃ row ∈ rows.memberships, row.objectiveId = survivorObjectiveId ∧
        row.taskId ∉ candidate.taskChanges.map (·.taskId) ∧
        plan.planRevisionId = row.acceptedPlanRevisionId)

/-- The state is as the candidate expects it. -/
structure RegroupCandidate.Fits (identities : RegroupIdentities) (rows : TaskRows)
    (candidate : RegroupCandidate) (survivorObjectiveId : String) (objectives : List Objective) :
    Prop where
  opens : openSurvivor identities rows candidate = .ok (survivorObjectiveId, objectives)
  membershipKeys : (rows.memberships.map (·.taskId)).Nodup
  objectiveKeys : (objectives.map (·.objectiveId)).Nodup
  envelopeKeys : (rows.envelopes.map (·.objectiveId)).Nodup
  tasks : (candidate.taskChanges.map (·.taskId)).Nodup
  memberships : ∀ change ∈ candidate.taskChanges, change.Expects survivorObjectiveId
    (rows.memberships.find? (·.taskId = change.taskId))
  affected : (candidate.objectiveChanges.map (·.objectiveId)).Nodup
  expected : ∀ change ∈ candidate.objectiveChanges, change.Expects survivorObjectiveId objectives
  current : Standing objectives survivorObjectiveId
  envelope : EnvelopeExpected rows candidate survivorObjectiveId
  planned : ∃ plan, candidate.Pins rows survivorObjectiveId plan

section Application

variable {identities : RegroupIdentities} {rows : TaskRows} {candidate : RegroupCandidate}
  {survivorObjectiveId : String} {objectives : List Objective}

theorem TaskRows.mem_memberPlans :
    plan ∈ rows.memberPlans survivorObjectiveId ↔ plan ∈ rows.planRevisions ∧
      ∃ row ∈ rows.memberships, row.objectiveId = survivorObjectiveId ∧
        plan.planRevisionId = row.acceptedPlanRevisionId := by
  simp only [TaskRows.memberPlans, List.mem_flatMap, List.mem_filter, decide_eq_true_eq]
  constructor
  · rintro ⟨row, ⟨inside, member⟩, listed, pinned⟩
    exact ⟨listed, row, inside, member, pinned⟩
  · rintro ⟨listed, row, inside, member, pinned⟩
    exact ⟨row, ⟨inside, member⟩, listed, pinned⟩

/-- The members of the survivor are the changed tasks and those it had. -/
theorem mem_memberPlans_joined {after : List ObjectiveMembershipRecord}
    (keyed : (rows.memberships.map (·.taskId)).Nodup) (keyedAfter : (after.map (·.taskId)).Nodup)
    (joined : ∀ change ∈ candidate.taskChanges, change.Joined survivorObjectiveId after)
    (kept : ∀ taskId ∉ candidate.taskChanges.map (·.taskId),
      after.find? (·.taskId = taskId) = rows.memberships.find? (·.taskId = taskId))
    (objectives : List Objective) (plan : TaskPlanRecord) :
    plan ∈ TaskRows.memberPlans { rows with memberships := after, objectives } survivorObjectiveId ↔
      candidate.Pins rows survivorObjectiveId plan := by
  rw [TaskRows.mem_memberPlans, RegroupCandidate.Pins]
  refine and_congr_right fun _ => ?_
  constructor
  · rintro ⟨row, inside, member, pinned⟩
    by_cases changed : row.taskId ∈ candidate.taskChanges.map (·.taskId)
    · obtain ⟨change, listed, same⟩ := List.mem_map.mp changed
      obtain ⟨_, found, -, plan⟩ := joined change listed
      rw [same, Rows.find?_eq_some keyedAfter inside] at found
      obtain rfl := Option.some.inj found
      exact .inl ⟨change, listed, pinned.trans plan⟩
    · have found := kept row.taskId changed
      rw [Rows.find?_eq_some keyedAfter inside] at found
      exact .inr ⟨row, List.mem_of_find?_eq_some found.symm, member, changed, pinned⟩
  · rintro (⟨change, listed, pinned⟩ | ⟨row, inside, member, unchanged, pinned⟩)
    · obtain ⟨row, found, member, plan⟩ := joined change listed
      exact ⟨row, List.mem_of_find?_eq_some found, member, pinned.trans plan.symm⟩
    · have found := kept row.taskId unchanged
      rw [Rows.find?_eq_some keyed inside] at found
      exact ⟨row, List.mem_of_find?_eq_some found, member, pinned⟩

theorem TaskRows.meetsOther_iff :
    rows.meetsOther survivorObjectiveId startUtc endUtc = true ↔ ∃ envelope ∈ rows.envelopes,
      envelope.objectiveId ≠ survivorObjectiveId ∧ Standing rows.objectives envelope.objectiveId ∧
        envelope.startUtc < endUtc ∧ startUtc < envelope.endUtc := by
  simp only [TaskRows.meetsOther, List.any_eq_true, decide_eq_true_eq,
    TaskRows.currentObjective_iff]

theorem Enveloped.meetsOther_eq (enveloped : Enveloped rows survivorObjectiveId hull envelopes)
    (startUtc endUtc : Nat) :
    TaskRows.meetsOther { rows with envelopes } survivorObjectiveId startUtc endUtc =
      rows.meetsOther survivorObjectiveId startUtc endUtc := by
  rw [Bool.eq_iff_iff, TaskRows.meetsOther_iff, TaskRows.meetsOther_iff]
  refine exists_congr fun envelope => ?_
  by_cases own : envelope.objectiveId = survivorObjectiveId
  · simp [own]
  · rw [enveloped.others envelope own]

theorem assertNoOverlap_enveloped (enveloped : Enveloped rows survivorObjectiveId hull envelopes)
    (clear : rows.meetsOther survivorObjectiveId hull.1 hull.2 = false) :
    assertNoOverlap { rows with envelopes } survivorObjectiveId = .ok () := by
  obtain ⟨_, found, starts, ends⟩ := enveloped.survivor
  rw [assertNoOverlap]
  simp only [found]
  rw [ensure_ok, enveloped.meetsOther_eq, starts, ends, clear]
  simp

/-- Where the state is as expected, a candidate applies exactly when no Objective that
stays current overlaps the hull of the plans that get pinned. -/
theorem applies_iff_of_fits (fits : candidate.Fits identities rows survivorObjectiveId objectives) :
    ∃ (plans : List TaskPlanRecord) (hull : Nat × Nat),
      (∀ plan, plan ∈ plans ↔ candidate.Pins rows survivorObjectiveId plan) ∧
      Intervals.IsHull TaskPlanRecord.startUtc TaskPlanRecord.endUtc plans hull.1 hull.2 ∧
      (candidate.Applies identities rows ↔ ∀ envelope ∈ rows.envelopes,
        envelope.objectiveId ≠ survivorObjectiveId → Standing objectives envelope.objectiveId →
        (∀ change ∈ candidate.objectiveChanges, change.action = .supersede →
          change.objectiveId ≠ some envelope.objectiveId) →
        ¬ (envelope.startUtc < hull.2 ∧ hull.1 < envelope.endUtc)) := by
  obtain ⟨memberships, joining, keyedAfter, joined, kept⟩ :=
    applyMembershipChanges_expected identities fits.membershipKeys fits.tasks fits.memberships
  obtain ⟨standingObjectives, superseding, standing⟩ :=
    applyObjectiveChanges_expected fits.objectiveKeys fits.affected fits.expected
  have members := mem_memberPlans_joined fits.membershipKeys keyedAfter joined kept
    standingObjectives
  obtain ⟨plan, pinned⟩ := fits.planned
  obtain ⟨hull, found⟩ := exists_planHull ((members plan).mpr pinned)
  refine ⟨_, hull, members, planHull_isHull found, ?_⟩
  let joinedRows : TaskRows := { rows with memberships, objectives := standingObjectives }
  have survives : joinedRows.currentObjective survivorObjectiveId = true := by
    rw [TaskRows.currentObjective_iff, standing]
    refine ⟨fits.current, fun change listed action named => ?_⟩
    exact ((fits.expected change listed survivorObjectiveId named).1.mp rfl) action
  obtain ⟨envelopes, enveloped, writes⟩ := @writeEnvelope_expected joinedRows _ _ _
    fits.envelopeKeys survives fits.envelope found
  have ran : applyRegroup identities rows candidate = do
      let after ← writeEnvelope joinedRows candidate survivorObjectiveId
      assertNoOverlap after survivorObjectiveId
      return (survivorObjectiveId, after) := by
    simp only [applyRegroup, fits.opens, joining, superseding, bind, Except.bind]
    rfl
  have clear : joinedRows.meetsOther survivorObjectiveId hull.1 hull.2 = false ↔
      ∀ envelope ∈ rows.envelopes, envelope.objectiveId ≠ survivorObjectiveId →
        Standing objectives envelope.objectiveId →
        (∀ change ∈ candidate.objectiveChanges, change.action = .supersede →
          change.objectiveId ≠ some envelope.objectiveId) →
        ¬ (envelope.startUtc < hull.2 ∧ hull.1 < envelope.endUtc) := by
    rw [← Bool.not_eq_true, TaskRows.meetsOther_iff]
    constructor
    · intro none envelope inside other current spared meets
      exact none ⟨envelope, inside, other, (standing _).mpr ⟨current, spared⟩, meets⟩
    · rintro free ⟨envelope, inside, other, current, meets⟩
      obtain ⟨current, spared⟩ := (standing _).mp current
      exact free envelope inside other current spared meets
  rw [← clear, RegroupCandidate.Applies, ran]
  constructor
  · rintro ⟨survivor, after, applied, -⟩
    simp only [except_ok] at applied
    obtain ⟨written, writing, -⟩ := applied
    exact ((writes written).mp writing).1
  · intro free
    obtain ⟨envelope, listed, starts, ends⟩ := enveloped.survivor
    refine ⟨survivorObjectiveId, { joinedRows with envelopes }, ?_, envelope,
      List.mem_of_find?_eq_some listed, by simpa using List.find?_some listed, ?_, ?_⟩
    · rw [(writes _).mpr ⟨free, rfl⟩]
      simp only [bind, Except.bind, assertNoOverlap_enveloped enveloped free]
      rfl
    · rw [starts, ends]
      exact found
    · rw [enveloped.meetsOther_eq, starts, ends]
      exact free

end Application

end Soma.ObjectivesTasks
