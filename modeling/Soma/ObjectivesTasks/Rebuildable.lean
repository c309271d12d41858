import Soma.ObjectivesTasks.OutcomeRuns

/-!
When a rebuild succeeds.

What a rebuild reads besides the executions and outcomes of the members is
untouched by the commands on them. So an Objective that could be rebuilt before
such a command can be rebuilt after it, as long as the execution and outcome
tables are sound.
-/

namespace Soma.ObjectivesTasks

open Execution Foundation Transaction Rows

variable {rows next : TaskRows} {taskId objectiveId : String}

/-- The tables that the commands on executions and outcomes never write. -/
def TaskRows.withoutEvidence (rows : TaskRows) : TaskRows :=
  { rows with
    tasks := []
    executionEvents := []
    executionProjections := []
    outcomeEvents := []
    outcomeCurrent := []
    aggregates := [] }

theorem reads_same {Value : Type} (read : TaskRows → Value)
    (blind : ∀ rows, read rows.withoutEvidence = read rows)
    (same : next.withoutEvidence = rows.withoutEvidence) : read next = read rows := by
  rw [← blind next, same, blind]

/-! ## The members -/

theorem validateExecutionShape_shaped {execution : FoldedExecution} (shaped : execution.Shaped) :
    validateExecutionShape execution = .ok ⟨⟩ := by
  have idle : execution.state = .notStarted → execution.actualStartUtc = none ∧
      execution.actualEndUtc = none ∧ execution.effectiveTerminationUtc = none := by
    intro state
    rw [shaped.notStarted state]
    exact ⟨rfl, rfl, rfl⟩
  simp only [validateExecutionShape, except_ok]
  exact ⟨idle, shaped.inProgress, shaped.ended, shaped.terminated⟩

/-- The execution of a member can be read. -/
theorem HistoryFolded.memberExecution (folded : HistoryFolded rows) (taskId : String)
    (canonical : isUuid4 taskId) : ∃ found, memberExecution rows taskId = .ok found := by
  have counted := lastExecutionRevision_eq (folded.contiguous taskId)
  have latest : storedOptionalUuid ((rows.executionHistory taskId).getLast?.map
      (·.executionEventId)) "latest Task execution event identity" = .ok () := by
    cases final : (rows.executionHistory taskId).getLast? with
    | none => rfl
    | some event =>
      exact ensure_ok.mpr (folded.canonical event
        (executionHistory_mem.mp (List.mem_of_getLast? final)).1)
  have projected := folded.projected taskId
  cases found : rows.executionProjection? taskId with
  | none =>
    rw [found] at projected
    refine ⟨(0, .idle), ?_⟩
    simp only [Soma.ObjectivesTasks.memberExecution, except_ok]
    refine ⟨counted, latest, ?_⟩
    rw [found]
    exact except_bind_ok.mpr ⟨⟨⟩, ensure_ok.mpr projected, rfl⟩
  | some projection =>
    rw [found] at projected
    obtain ⟨revision, last, fold⟩ : Agrees (rows.executionHistory taskId) projection := projected
    obtain ⟨event, final, same⟩ := Option.map_eq_some_iff.mp last
    obtain ⟨stored, owner⟩ := executionHistory_mem.mp (List.mem_of_getLast? final)
    have looked : rows.executionEvents.find? (·.executionEventId = projection.lastEventId) =
        some event := same ▸ find?_eq_some folded.eventIds stored
    have inhabited : 0 < (rows.executionHistory taskId).length :=
      List.length_pos_of_mem (List.mem_of_getLast? final)
    refine ⟨(projection.revision, projection.folded), ?_⟩
    simp only [Soma.ObjectivesTasks.memberExecution, except_ok]
    refine ⟨counted, latest, ?_⟩
    simp only [found, looked, except_ok, positive, storedUuid]
    refine ⟨revision ▸ inhabited, revision, owner ▸ canonical, owner, ?_, last,
      validateExecutionShape_shaped (fold_shaped fold), trivial⟩
    exact same ▸ folded.canonical event stored

theorem OutcomesSound.memberOutcome (sound : OutcomesSound rows) (canonical : isUuid4 taskId)
    (execution : FoldedExecution) : ∃ found, memberOutcome rows taskId execution = .ok found := by
  unfold Soma.ObjectivesTasks.memberOutcome
  cases found : rows.outcomeCurrent? taskId with
  | none => exact ⟨_, rfl⟩
  | some current =>
    have inside : current ∈ rows.outcomeCurrent := List.mem_of_find?_eq_some found
    have owner : current.taskId = taskId := by simpa using List.find?_some found
    obtain ⟨positive, canonicalEvent, event, stored, named, belongs, accepted⟩ :=
      sound.backed current inside
    have looked : rows.outcomeEvents.find? (·.outcomeEventId = current.outcomeEventId) =
        some event := named ▸ find?_eq_some sound.eventIds stored
    simp only [looked, storedUuid, ObjectivesTasks.positive, except_ok]
    refine ⟨_, positive, canonicalEvent, ?_, ⟨belongs.trans owner, accepted⟩, rfl⟩
    rw [belongs, owner]
    exact canonical

/-- What a member pins, whatever its execution and outcome are. -/
def MemberAuthority.pinned (member : MemberAuthority) : String × Nat × Nat :=
  (member.taskId, member.acceptedPlanStartUtc, member.acceptedPlanEndUtc)

section Transfer

variable (folded : HistoryFolded next) (sound : OutcomesSound next)
  (same : next.withoutEvidence = rows.withoutEvidence)

include folded sound same

theorem loadMember_transfer (loaded : loadMember rows objectiveId pinned = .ok member) :
    ∃ member', loadMember next objectiveId pinned = .ok member' ∧
      member'.pinned = member.pinned := by
  obtain ⟨membership, plan⟩ := pinned
  have currentPlan : memberCurrentPlan next membership.taskId =
      memberCurrentPlan rows membership.taskId :=
    reads_same (fun rows => memberCurrentPlan rows membership.taskId) (fun _ => rfl) same
  have counts : memberCount next membership.taskId = memberCount rows membership.taskId :=
    reads_same (fun rows => memberCount rows membership.taskId) (fun _ => rfl) same
  have bound : checkMembershipEvent next objectiveId membership =
      checkMembershipEvent rows objectiveId membership :=
    reads_same (fun rows => checkMembershipEvent rows objectiveId membership) (fun _ => rfl) same
  simp only [loadMember, except_ok] at loaded
  obtain ⟨checked, pointer, planned, _, -, _, -, ⟨countRevision, included⟩, counted, attached,
    done⟩ := loaded
  have canonical : isUuid4 membership.taskId := by
    simp only [checkPinnedPlan, except_ok, storedUuid] at checked
    obtain ⟨canonical, -⟩ := checked
    exact canonical
  obtain ⟨⟨executionRevision, execution⟩, executed⟩ :=
    folded.memberExecution membership.taskId canonical
  obtain ⟨⟨outcomeRevision, outcomeEventId, acceptedOutcome⟩, reviewed⟩ :=
    sound.memberOutcome canonical execution
  cases done
  refine ⟨⟨membership.taskId, membership.membershipRevision, membership.acceptedPlanRevisionId,
    plan.startUtc, plan.endUtc, pointer.revision, pointer.planRevisionId, executionRevision,
    execution, outcomeRevision, outcomeEventId, acceptedOutcome, countRevision, included⟩, ?_, rfl⟩
  simp only [loadMember, except_ok, currentPlan, counts, bound]
  exact ⟨checked, pointer, planned, _, executed, _, reviewed, _, counted, attached, rfl⟩

theorem loadMembers_transfer (loaded : loadMembers rows objectiveId = .ok members) :
    ∃ members', loadMembers next objectiveId = .ok members' ∧
      members'.map (·.pinned) = members.map (·.pinned) := by
  have listed : pinnedMembers next objectiveId = pinnedMembers rows objectiveId :=
    reads_same (fun rows => pinnedMembers rows objectiveId) (fun _ => rfl) same
  simp only [loadMembers, except_ok] at loaded
  obtain ⟨members, visited, distinct, done⟩ := loaded
  cases done
  obtain ⟨members', visited', pinned⟩ :=
    mapM_transfer (fun _ _ found => loadMember_transfer folded sound same found) visited
  have ids : members'.map (·.taskId) = members.map (·.taskId) := by
    have firsts := congrArg (List.map Prod.fst) pinned
    rwa [List.map_map, List.map_map] at firsts
  refine ⟨members', ?_, pinned⟩
  simp only [loadMembers, listed, except_ok]
  exact ⟨members', visited', ids ▸ distinct, rfl⟩

end Transfer

theorem validateEnvelope_pinned {members members' : List MemberAuthority}
    (same : next.withoutEvidence = rows.withoutEvidence)
    (pinned : members'.map (·.pinned) = members.map (·.pinned)) :
    validateEnvelope next objectiveId members' = validateEnvelope rows objectiveId members := by
  have envelopes : next.envelopes = rows.envelopes := reads_same TaskRows.envelopes (fun _ => rfl) same
  have starts := congrArg (List.map (·.2.1)) pinned
  have ends := congrArg (List.map (·.2.2)) pinned
  have lengths := congrArg List.length pinned
  rw [List.map_map, List.map_map] at starts ends
  rw [List.length_map, List.length_map] at lengths
  have inhabited : members' = [] ↔ members = [] := by
    rw [← List.length_eq_zero_iff, ← List.length_eq_zero_iff, lengths]
  have starts' : members'.map (·.acceptedPlanStartUtc) = members.map (·.acceptedPlanStartUtc) :=
    starts
  have ends' : members'.map (·.acceptedPlanEndUtc) = members.map (·.acceptedPlanEndUtc) := ends
  simp only [validateEnvelope, envelopes, starts', ends', lengths, Ne, inhabited]

/-! ## The documents -/

@[simp] theorem encodes_jsonOption {Value : Type} {encode : Value → Json} {value : Option Value} :
    (jsonOption encode value).Encodes ↔ ∀ held ∈ value, (encode held).Encodes := by
  cases value <;> simp [jsonOption]

@[simp] theorem encodes_jsonNat : (jsonNat number).Encodes := rfl

@[simp] theorem aggregateObject_encodes (member : MemberAuthority) :
    member.aggregateObject.Encodes := by
  simp [MemberAuthority.aggregateObject]

@[simp] theorem reviewObject_encodes (member : MemberAuthority) : member.reviewObject.Encodes := by
  simp [MemberAuthority.reviewObject]

theorem reviewInput_encodes (objective : Objective) (members : List MemberAuthority) :
    (reviewInput objective members).Encodes := by
  simp [reviewInput]

theorem aggregateInput_encodes (objective : Objective) (members : List MemberAuthority) :
    (aggregateInput objective members none).Encodes := by
  simp [aggregateInput]

/-! ## The rebuild -/

/-- The Objective of every task can be read and rebuilt, and none is reviewed. -/
structure Rebuildable (python : PythonLibrary) (rows : TaskRows) : Prop where
  membership : ∀ taskId, ∃ membership, currentMembershipForTask rows taskId = .ok membership ∧
    ∀ current ∈ membership, ∃ derived, deriveAggregate python rows current.objectiveId = .ok derived
  unreviewed : rows.objectiveReviews = []

/-- The stored aggregates are well formed. -/
structure AggregatesSound (rows : TaskRows) : Prop where
  keys : (rows.aggregates.map (·.objectiveId)).Nodup
  canonical : ∀ stored ∈ rows.aggregates, isUuid4 stored.objectiveId
  digests : ∀ stored ∈ rows.aggregates, isSha256 stored.aggregateInputFingerprint
  positive : ∀ stored ∈ rows.aggregates, 0 < stored.revision

/-- `hexdigest()` of SHA-256 returns 64 lowercase hexadecimal digits. -/
def HexDigests (python : PythonLibrary) : Prop :=
  ∀ text, isSha256 (python.sha256Hex text)

variable {python : PythonLibrary}

theorem deriveAggregate_transfer (folded : HistoryFolded next) (sound : OutcomesSound next)
    (same : next.withoutEvidence = rows.withoutEvidence) (unreviewed : rows.objectiveReviews = [])
    (found : deriveAggregate python rows objectiveId = .ok derived) :
    ∃ derived', deriveAggregate python next objectiveId = .ok derived' := by
  simp only [deriveAggregate, except_ok] at found
  obtain ⟨canonical, objective, loaded, _, listed, enveloped, -⟩ := found
  obtain ⟨members', listed', pinned⟩ := loadMembers_transfer folded sound same listed
  have objectives : loadObjective next objectiveId = loadObjective rows objectiveId :=
    reads_same (fun rows => loadObjective rows objectiveId) (fun _ => rfl) same
  have enveloped' : validateCurrentEnvelope next objective members' = .ok ⟨⟩ := by
    rw [← enveloped]
    unfold validateCurrentEnvelope
    rw [validateEnvelope_pinned same pinned]
  have reviews : next.objectiveReviews = [] :=
    (reads_same TaskRows.objectiveReviews (fun _ => rfl) same).trans unreviewed
  obtain ⟨text, digested⟩ := sha256CanonicalJson_encodes python
    (reviewInput_encodes objective members')
  have absent : currentReview next objectiveId (python.sha256Hex text) = .ok none := by
    unfold currentReview
    rw [reviews]
    rfl
  obtain ⟨document, hashed⟩ := sha256CanonicalJson_encodes python
    (aggregateInput_encodes objective members')
  refine ⟨(python.sha256Hex document, deriveMaterialState objective members' none), ?_⟩
  simp only [deriveAggregate, objectives, except_ok]
  refine ⟨canonical, objective, loaded, members', listed', enveloped', _, digested, none, absent,
    ?_, _, hashed, rfl⟩
  rintro _ ⟨⟩

theorem Rebuildable.transfer (rebuildable : Rebuildable python rows) (folded : HistoryFolded next)
    (sound : OutcomesSound next) (same : next.withoutEvidence = rows.withoutEvidence) :
    Rebuildable python next where
  membership := by
    intro taskId
    obtain ⟨membership, read, derivable⟩ := rebuildable.membership taskId
    refine ⟨membership, ?_, fun current inside => ?_⟩
    · rw [← read]
      exact reads_same (fun rows => currentMembershipForTask rows taskId) (fun _ => rfl) same
    · obtain ⟨_, found⟩ := derivable current inside
      exact deriveAggregate_transfer folded sound same rebuildable.unreviewed found
  unreviewed := (reads_same TaskRows.objectiveReviews (fun _ => rfl) same).trans
    rebuildable.unreviewed

theorem deriveAggregate_digest (digests : HexDigests python)
    (found : deriveAggregate python rows objectiveId = .ok (fingerprint, material)) :
    isUuid4 objectiveId ∧ isSha256 fingerprint := by
  simp only [deriveAggregate, sha256CanonicalJson, except_ok, storedUuid] at found
  obtain ⟨canonical, _, -, _, -, -, _, -, _, -, -, _, ⟨text, -, hashed⟩, same⟩ := found
  cases hashed
  cases same
  exact ⟨canonical, digests text⟩

theorem AggregatesSound.aggregate (sound : AggregatesSound rows) (objectiveId : String) :
    aggregate rows objectiveId = .ok (rows.aggregate? objectiveId) := by
  unfold Soma.ObjectivesTasks.aggregate
  cases found : rows.aggregate? objectiveId with
  | none => rfl
  | some stored =>
    have inside : stored ∈ rows.aggregates := List.mem_of_find?_eq_some found
    simp only [storedUuid, ObjectivesTasks.positive, except_ok]
    exact ⟨sound.canonical stored inside, sound.digests stored inside,
      sound.positive stored inside, trivial⟩

/-- The rows with one more aggregate, or the next one of an Objective. -/
theorem AggregatesSound.update {fingerprint : String} {material : MaterialState}
    {existing : ObjectiveAggregateProjection} (sound : AggregatesSound rows)
    (inside : existing ∈ rows.aggregates) (hexadecimal : isSha256 fingerprint) :
    AggregatesSound
        (rows.updateAggregate existing.objectiveId existing.revision material fingerprint) ∧
      (rows.updateAggregate existing.objectiveId existing.revision material
        fingerprint).aggregates.map (·.objectiveId) = rows.aggregates.map (·.objectiveId) ∧
      rows.aggregates.countP (fun row => row.objectiveId = existing.objectiveId ∧
        row.revision = existing.revision) = 1 := by
  have one : rows.aggregates.countP (fun row => decide (row.objectiveId = existing.objectiveId ∧
      row.revision = existing.revision)) = 1 :=
    countP_eq_one sound.keys inside (decide_eq_true ⟨rfl, rfl⟩)
      fun row _ hit => (of_decide_eq_true hit).1
  obtain ⟨old, hit, replaced⟩ := replaced_of_countP
    (fun row : ObjectiveAggregateProjection => { row with
      material := material
      aggregateInputFingerprint := fingerprint
      revision := row.revision + 1 }) one
  simp only [decide_eq_true_eq] at hit replaced
  have ids : (rows.updateAggregate existing.objectiveId existing.revision material
      fingerprint).aggregates.map (·.objectiveId) = rows.aggregates.map (·.objectiveId) :=
    replaced.map_eq rfl
  refine ⟨⟨ids ▸ sound.keys, ?_, ?_, ?_⟩, ids, one⟩
  · intro stored written
    rcases replaced.mem_next written with rfl | before
    · exact sound.canonical old replaced.mem_old
    · exact sound.canonical stored before
  · intro stored written
    rcases replaced.mem_next written with rfl | before
    · exact hexadecimal
    · exact sound.digests stored before
  · intro stored written
    rcases replaced.mem_next written with rfl | before
    · exact Nat.succ_pos _
    · exact sound.positive stored before

theorem AggregatesSound.insert {row : ObjectiveAggregateProjection} (sound : AggregatesSound rows)
    (fresh : row.objectiveId ∉ rows.aggregates.map (·.objectiveId))
    (canonical : isUuid4 row.objectiveId) (digest : isSha256 row.aggregateInputFingerprint)
    (positive : 0 < row.revision) :
    AggregatesSound { rows with aggregates := rows.aggregates ++ [row] } where
  keys := nodup_concat sound.keys fresh
  canonical := by
    intro stored inside
    rcases Rows.mem_concat inside with before | new
    · exact sound.canonical stored before
    · exact new ▸ canonical
  digests := by
    intro stored inside
    rcases Rows.mem_concat inside with before | new
    · exact sound.digests stored before
    · exact new ▸ digest
  positive := by
    intro stored inside
    rcases Rows.mem_concat inside with before | new
    · exact sound.positive stored before
    · exact new ▸ positive

theorem aggregate?_some (found : rows.aggregate? objectiveId = some stored) :
    stored ∈ rows.aggregates ∧ stored.objectiveId = objectiveId :=
  ⟨List.mem_of_find?_eq_some found, by simpa using List.find?_some found⟩

theorem aggregate?_none (absent : rows.aggregate? objectiveId = none) :
    objectiveId ∉ rows.aggregates.map (·.objectiveId) := by
  intro inside
  obtain ⟨stored, listed, same⟩ := List.mem_map.mp inside
  exact List.find?_eq_none.mp absent stored listed (by simpa using same)

/-- What a rebuild leaves are well-formed aggregates. -/
theorem keeps_aggregatesSound (digests : HexDigests python) (objectiveId : String) :
    Keeps AggregatesSound (rebuildAggregate python objectiveId) := by
  intro rows next value sound ran
  simp only [rebuildAggregate, steps_ok] at ran
  obtain ⟨⟨fingerprint, _⟩, derived, existing, read, ran⟩ := ran
  obtain ⟨canonical, hexadecimal⟩ := deriveAggregate_digest digests derived
  rw [sound.aggregate, Except.ok.injEq] at read
  cases existing with
  | none =>
    simp only [insertAggregate, steps_ok] at ran
    obtain ⟨fresh, ran⟩ := ran
    exact keeps_rebuilt objectiveId (sound.insert fresh canonical hexadecimal Nat.one_pos) ran
  | some existing =>
    obtain ⟨inside, named⟩ := aggregate?_some read
    by_cases agrees : existing.aggregateInputFingerprint = fingerprint
    · simp only [agrees, if_true, steps_ok] at ran
      obtain ⟨-, -, rfl⟩ := ran
      exact sound
    · simp only [agrees, if_false, updateAggregate, steps_ok] at ran
      obtain ⟨-, ran⟩ := ran
      subst named
      exact keeps_rebuilt _ (sound.update inside hexadecimal).1 ran

theorem rebuilt_ok (sound : AggregatesSound rows)
    (found : rows.aggregate? objectiveId = some stored) :
    (rebuilt objectiveId).run rows = .ok (stored, rows) := by
  simp only [rebuilt, steps_ok]
  refine ⟨some stored, ?_, pure_ok.mpr ⟨rfl, rfl⟩⟩
  rw [sound.aggregate, found]

/-- A rebuild whose digest is not the stored one succeeds. -/
theorem rebuildAggregate_succeeds (digests : HexDigests python) (sound : AggregatesSound rows)
    (derived : deriveAggregate python rows objectiveId = .ok (fingerprint, material))
    (changed : ∀ stored, rows.aggregate? objectiveId = some stored →
      stored.aggregateInputFingerprint ≠ fingerprint) :
    ∃ value next, (rebuildAggregate python objectiveId).run rows = .ok (value, next) := by
  obtain ⟨canonical, hexadecimal⟩ := deriveAggregate_digest digests derived
  simp only [rebuildAggregate, steps_ok]
  cases found : rows.aggregate? objectiveId with
  | none =>
    have fresh := aggregate?_none found
    have inserted := @AggregatesSound.insert _ ⟨objectiveId, material, fingerprint, 1⟩ sound fresh
      canonical hexadecimal Nat.one_pos
    have present : TaskRows.aggregate? { rows with
        aggregates := rows.aggregates ++ [⟨objectiveId, material, fingerprint, 1⟩] } objectiveId =
        some ⟨objectiveId, material, fingerprint, 1⟩ :=
      find?_eq_some inserted.keys List.mem_concat_self
    refine ⟨_, _, (fingerprint, material), derived, none, by rw [sound.aggregate, found],
      bind_ok.mpr ⟨⟨⟩, _, ?_, rebuilt_ok inserted present⟩⟩
    simp only [insertAggregate, steps_ok]
    exact ⟨fresh, trivial⟩
  | some stored =>
    obtain ⟨inside, rfl⟩ := aggregate?_some found
    have differs := changed stored found
    obtain ⟨updated, ids, one⟩ := @AggregatesSound.update _ fingerprint material _ sound inside
      hexadecimal
    have standing : stored.objectiveId ∈ (rows.updateAggregate stored.objectiveId stored.revision
        material fingerprint).aggregates.map (·.objectiveId) := ids ▸ List.mem_map_of_mem inside
    obtain ⟨written, present⟩ := Option.ne_none_iff_exists'.mp
      fun absent => aggregate?_none absent standing
    refine ⟨written, rows.updateAggregate stored.objectiveId stored.revision material fingerprint,
      (fingerprint, material), derived, some stored, by rw [sound.aggregate, found], ?_⟩
    simp only [differs, if_false, updateAggregate, steps_ok]
    exact ⟨one, rebuilt_ok updated present⟩

/-- The document of the task's Objective is not the one whose digest is stored:
documents that differ have different digests, and this one has changed with the
task. -/
def NewDigest (python : PythonLibrary) (taskId : String) (rows : TaskRows) : Prop :=
  ∀ membership stored derived, rows.membership? taskId = some membership →
    rows.aggregate? membership.objectiveId = some stored →
    deriveAggregate python rows membership.objectiveId = .ok derived →
    stored.aggregateInputFingerprint ≠ derived.1

theorem currentMembershipForTask_some
    (read : currentMembershipForTask rows taskId = .ok (some membership)) :
    rows.membership? taskId = some membership := by
  unfold currentMembershipForTask at read
  cases found : rows.membership? taskId with
  | none => simp [found] at read
  | some stored =>
    simp only [found, except_ok] at read
    obtain ⟨-, -, -, -, -, -, -, same⟩ := read
    cases same
    rfl

theorem rebuildIfMember_succeeds (digests : HexDigests python) (sound : AggregatesSound rows)
    (rebuildable : Rebuildable python rows) (changed : NewDigest python taskId rows) :
    ∃ next, (rebuildIfMember python taskId).run rows = .ok (⟨⟩, next) := by
  obtain ⟨membership, read, derivable⟩ := rebuildable.membership taskId
  simp only [rebuildIfMember, steps_ok]
  cases membership with
  | none =>
    exact ⟨rows, none, read, pure_ok.mpr ⟨rfl, rfl⟩⟩
  | some membership =>
    obtain ⟨derived, found⟩ := derivable membership rfl
    obtain ⟨value, next, ran⟩ := rebuildAggregate_succeeds digests sound found fun stored present =>
      changed membership stored derived (currentMembershipForTask_some read) present found
    exact ⟨next, some membership, read, bind_ok.mpr ⟨value, next, ran, pure_ok.mpr ⟨rfl, rfl⟩⟩⟩

end Soma.ObjectivesTasks
