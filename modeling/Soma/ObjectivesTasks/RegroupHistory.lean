import Soma.Foundation.CanonicalOrder
import Soma.ObjectivesTasks.OverlapComponents
import Soma.ObjectivesTasks.RegroupProposals
import Soma.Theory.Execution
import Soma.Theory.Rows

/-!
The bookkeeping of regroup proposals over runs. Both publishers look for a
pending proposal and for an open rejection inside the transaction that inserts,
so an insert never meets either. A synchronous recompute looks only once before
it inserts all its candidates; those have different fingerprints because the
components of one snapshot start at different times and the fingerprint digests
the start.
-/

namespace Soma.ObjectivesTasks

open Foundation Transaction Execution

/-! ## Fingerprints of one snapshot -/

section Snapshot

variable {python : PythonLibrary} {snapshot : GroupingSnapshot} {split : List String}
  {origin : GroupingOrigin}

theorem affectedObjectives_components (ahead : List GroupingObjectiveAuthority)
    (components : List (List GroupingTaskAuthority)) :
    (affectedObjectives snapshot ahead components).map (·.1) = components := by
  induction components generalizing ahead with
  | nil => rfl
  | cons component rest ih => exact congrArg (component :: ·) (ih _)

theorem componentCandidate_start
    (found : componentCandidate snapshot split origin component affected = some candidate) :
    candidate.componentStartUtc = componentStart component := by
  simp only [componentCandidate] at found
  split at found
  · cases found
  · obtain ⟨_, _, rfl⟩ := Option.map_eq_some_iff.mp found
    rfl

theorem snapshotCandidates_pairwise (snapshot : GroupingSnapshot) (origin : GroupingOrigin) :
    (snapshotCandidates snapshot origin).Pairwise fun first second =>
      first.componentStartUtc < second.componentStartUtc := by
  have ordered : (strictOverlapComponents snapshot.tasks).Pairwise fun first second =>
      componentStart first < componentStart second := by
    refine (strictOverlapComponents_pairwise snapshot.tasks).imp_of_mem fun first second before => ?_
    exact before.start_lt (strictOverlapComponents_ne_nil first)
      (strictOverlapComponents_ne_nil second)
  rw [← @affectedObjectives_components snapshot _ (strictOverlapComponents _),
    List.pairwise_map] at ordered
  refine ordered.filterMap _ fun first second earlier one here other there => ?_
  rw [componentCandidate_start here, componentCandidate_start there]
  exact earlier

theorem materialFields_keys (candidate : RegroupCandidate) :
    (candidate.materialFields.map (·.1)).Nodup ∧
      ∀ key ∈ candidate.materialFields.map (·.1), key ≠ "component" → "component" < key := by
  unfold RegroupCandidate.materialFields
  cases candidate.manualScopeObjectiveIds <;>
    simp only [List.map_append, List.map_cons, List.map_nil] <;> decide

/-- The text of a candidate's material starts with its component. -/
theorem material_text {candidate : RegroupCandidate}
    (encoded : canonicalJson candidate.material = .ok text) :
    ∃ rest, text.toList = "\x7b\"component\":[".toList ++
      ((toString candidate.componentStartUtc).toList ++ ',' :: rest) := by
  have inside : ("component", Json.arr [jsonNat candidate.componentStartUtc,
      jsonNat candidate.componentEndUtc]) ∈ candidate.materialFields := by
    simp [RegroupCandidate.materialFields]
  obtain ⟨keyed, least⟩ := materialFields_keys candidate
  rw [canonicalJson] at encoded
  split at encoded
  case h_2 => cases encoded
  case h_1 written =>
    obtain rfl := Except.ok.inj encoded
    obtain ⟨component, rest, interval, text⟩ := dumps_obj_least written inside keyed least
    have opening : (quote "component").toList = "\"component\"".toList := by decide
    have digits (value : Nat) : toString (value : Int) = toString value := rfl
    simp only [dumps, dumpsItems, jsonNat, digits, Option.bind_eq_bind, Option.pure_def,
      Option.bind_some, Option.map_some, Option.some.injEq] at interval
    refine ⟨(toString candidate.componentEndUtc).toList ++ ']' :: rest, ?_⟩
    rw [text, opening, ← interval, String.intercalate_cons_of_ne_nil (List.cons_ne_nil _ _),
      String.intercalate_singleton]
    simp

theorem material_start {candidate other : RegroupCandidate}
    (encoded : canonicalJson candidate.material = .ok text)
    (encoded' : canonicalJson other.material = .ok text) :
    candidate.componentStartUtc = other.componentStartUtc := by
  obtain ⟨_, starts⟩ := material_text encoded
  obtain ⟨_, starts'⟩ := material_text encoded'
  exact decimal_toList_injective (List.append_cancel_left (starts.symm.trans starts'))

theorem fingerprinted_ok (ran : fingerprinted python candidate = .ok current) :
    current.candidate = candidate ∧ ∃ text, canonicalJson current.candidate.material = .ok text ∧
      current.inputFingerprint = python.sha256Hex text := by
  simp only [fingerprinted, RegroupCandidate.inputFingerprint, sha256CanonicalJson,
    except_ok] at ran
  obtain ⟨_, ⟨text, encoded, rfl⟩, rfl⟩ := ran
  exact ⟨rfl, text, encoded, rfl⟩

theorem fingerprinted_candidates {plain : List RegroupCandidate}
    (visited : plain.mapM (fingerprinted python) = .ok found) :
    found.map (·.candidate) = plain := by
  have each := mapM_ok.mp visited
  clear visited
  induction each with
  | nil => rfl
  | cons ran _ ih => rw [List.map_cons, (fingerprinted_ok ran).1, ih]

/-- The texts whose digests fingerprint the candidates are among `texts`. -/
def DigestedFrom (texts : Set String) (found : List FingerprintedCandidate) : Prop :=
  ∀ current ∈ found, ∀ text, canonicalJson current.candidate.material = .ok text → text ∈ texts

/-- Candidates of one snapshot have different fingerprints, as far as the digest
tells their texts apart. -/
theorem candidates_nodup (separates : Set.InjOn python.sha256Hex texts)
    (ran : candidates python tables origin = .ok found) (digested : DigestedFrom texts found) :
    (found.map (·.inputFingerprint)).Nodup := by
  simp only [candidates, except_ok] at ran
  obtain ⟨snapshot, _, unsorted, visited, rfl⟩ := ran
  have same := List.perm_insertionSort FingerprintedCandidate.Before unsorted
  rw [(same.map _).nodup_iff]
  have listed := fingerprinted_candidates visited
  have ordered := snapshotCandidates_pairwise snapshot origin
  rw [← listed, List.pairwise_map] at ordered
  rw [List.Nodup, List.pairwise_map]
  refine ordered.imp_of_mem fun {first second} firstIn secondIn before clash => ?_
  obtain ⟨_, _, firstRan⟩ := mem_of_image visited firstIn
  obtain ⟨_, _, secondRan⟩ := mem_of_image visited secondIn
  obtain ⟨-, text, encoded, fingerprint⟩ := fingerprinted_ok firstRan
  obtain ⟨-, text', encoded', fingerprint'⟩ := fingerprinted_ok secondRan
  have sameText : text = text' := by
    refine separates (digested first (same.mem_iff.mpr firstIn) text encoded)
      (digested second (same.mem_iff.mpr secondIn) text' encoded') ?_
    rw [← fingerprint, ← fingerprint', clash]
  have starts := material_start encoded (sameText ▸ encoded')
  omega

theorem planRecompute_nodup (separates : Set.InjOn python.sha256Hex texts)
    (planned : planRecompute python rows origin scopedIds = .ok plan)
    (digested : DigestedFrom texts plan.candidates) :
    (plan.candidates.map (·.inputFingerprint)).Nodup := by
  rcases scopedIds with _ | ⟨first, second⟩
  · simp only [planRecompute, except_ok] at planned
    obtain ⟨_, _, planned⟩ := planned
    split at planned
    · cases planned
      exact List.nodup_nil
    · simp only [except_ok] at planned
      obtain ⟨_, ran, rfl⟩ := planned
      exact candidates_nodup separates ran digested
  · simp only [planRecompute, except_ok] at planned
    obtain ⟨_, _, _, _, rfl⟩ := planned
    exact List.nodup_singleton _

end Snapshot

/-! ## What a step can do -/

section Bodies

variable {rows next : GroupingRows}

theorem insertGroupingReceipt_ok
    (ran : (insertGroupingReceipt commandId).run rows = .ok (value, next)) :
    next = { rows with commandReceipts := rows.commandReceipts ++ [commandId] } := by
  simp only [insertGroupingReceipt, steps_ok] at ran
  obtain ⟨-, rfl⟩ := ran
  rfl

theorem insertCandidate_ok
    (ran : (insertCandidate identities candidate).run rows = .ok (value, next)) :
    identities.proposalId ∉ rows.proposals.map (·.proposalId) ∧
      next.proposals = rows.proposals ++ [candidate.proposal identities] ∧
      next.rejectionEvents = rows.rejectionEvents := by
  simp only [insertCandidate, steps_ok] at ran
  obtain ⟨fresh, -, -, -, -, rfl⟩ := ran
  exact ⟨fresh, rfl, rfl⟩

theorem transition_ok (ran : (transition proposalId revision fingerprint newState).run rows =
      .ok (resulting, next)) :
    ∃ old, old.state = .pending ∧ newState ≠ .pending ∧
      Rows.Replaced rows.proposals next.proposals old
        { old with state := newState, revision := old.revision + 1 } ∧
      next = { rows with proposals := next.proposals } := by
  simp only [transition, steps_ok] at ran
  obtain ⟨moved, one, -, rfl⟩ := ran
  obtain ⟨old, hit, replaced⟩ := Rows.replaced_of_countP
    (fun row : RegroupProposal => { row with state := newState, revision := row.revision + 1 }) one
  simp only [decide_eq_true_eq] at hit
  exact ⟨old, hit.2.1, moved, replaced, rfl⟩

end Bodies

/-! ## The invariant -/

/-- No two proposals share an identity, no two pending ones a fingerprint. -/
structure ProposalsSound (rows : GroupingRows) : Prop where
  proposalIds : (rows.proposals.map (·.proposalId)).Nodup
  pendingOnce : ∀ proposal ∈ rows.proposals, ∀ other ∈ rows.proposals,
    proposal.state = .pending → other.state = .pending →
      proposal.inputFingerprint = other.inputFingerprint → proposal = other

/-- What a transaction does to the proposals: what it adds is not suppressed and
what is decided stays as it is. -/
structure ProposalsMove (rows next : GroupingRows) : Prop where
  sound : ProposalsSound next
  added : ∀ proposal ∈ next.proposals, proposal.proposalId ∉ rows.proposals.map (·.proposalId) →
    rows.rejectionSuppressed proposal.inputFingerprint = false
  decided : ∀ proposal ∈ rows.proposals, proposal.state ≠ .pending → proposal ∈ next.proposals

section Moves

variable {rows next : GroupingRows}

theorem rejectionSuppressed_eq_false : rows.rejectionSuppressed fingerprint = false ↔
      ∀ event ∈ rows.rejectionEvents, event.inputFingerprint = fingerprint →
        event.reconsidered = true := by
  simp [GroupingRows.rejectionSuppressed]

theorem exactPending_eq_false : rows.exactPending fingerprint = false ↔
      ∀ proposal ∈ rows.proposals, proposal.state = .pending →
        proposal.inputFingerprint ≠ fingerprint := by
  simp [GroupingRows.exactPending]

section

variable (sound : ProposalsSound rows)

include sound

theorem ProposalsMove.unchanged
    (same : next.proposals = rows.proposals) : ProposalsMove rows next where
  sound := ⟨same ▸ sound.proposalIds, same ▸ sound.pendingOnce⟩
  added _ inside fresh := absurd (List.mem_map_of_mem (same ▸ inside)) fresh
  decided _ inside _ := same ▸ inside

/-- A decision keeps every row but the pending one it decides. -/
theorem ProposalsMove.replaced {old : RegroupProposal} (pending : old.state = .pending)
    (moved : newState ≠ .pending) (replaced : Rows.Replaced rows.proposals next.proposals old
      { old with state := newState, revision := old.revision + 1 }) : ProposalsMove rows next := by
  have ids : next.proposals.map (·.proposalId) = rows.proposals.map (·.proposalId) :=
    replaced.map_eq rfl
  have held : ∀ proposal ∈ next.proposals, proposal.state = .pending →
      proposal ∈ rows.proposals := by
    intro proposal inside isPending
    rcases replaced.mem_next inside with rfl | kept
    · exact absurd isPending moved
    · exact kept
  refine ⟨⟨ids ▸ sound.proposalIds, ?_⟩, ?_, ?_⟩
  · intro proposal inside other otherIn first second same
    exact sound.pendingOnce proposal (held proposal inside first) other (held other otherIn second)
      first second same
  · intro proposal inside fresh
    exact absurd (ids ▸ List.mem_map_of_mem inside) fresh
  · intro proposal inside isDecided
    rcases replaced.mem_rows inside with rfl | kept
    · exact absurd pending isDecided
    · exact kept

theorem ProposalsSound.insert {identities : ProposalIdentities}
    {candidate : FingerprintedCandidate} {value : PUnit}
    (absent : rows.exactPending candidate.inputFingerprint = false)
    (ran : (insertCandidate identities candidate).run rows = .ok (value, next)) :
    ProposalsSound next := by
  obtain ⟨fresh, inserted, -⟩ := insertCandidate_ok ran
  rw [exactPending_eq_false] at absent
  constructor
  · rw [inserted]
    exact Rows.nodup_concat sound.proposalIds fresh
  · intro proposal inside other otherIn first second same
    rw [inserted, List.mem_append, List.mem_singleton] at inside otherIn
    rcases inside with inside | rfl <;> rcases otherIn with otherIn | rfl
    · exact sound.pendingOnce proposal inside other otherIn first second same
    · exact absurd same (absent proposal inside first)
    · exact absurd same.symm (absent other otherIn second)
    · rfl

/-- The inserts of a recompute: no fingerprint is pending yet and none occurs twice. -/
theorem insertCandidates_ok {found : List FingerprintedCandidate}
    (distinct : (found.map (·.inputFingerprint)).Nodup)
    (absent : ∀ candidate ∈ found, rows.exactPending candidate.inputFingerprint = false)
    (ran : (insertCandidates identities found).run rows = .ok (value, next)) :
    ProposalsSound next ∧ next.rejectionEvents = rows.rejectionEvents ∧
      ∃ added, next.proposals = rows.proposals ++ added ∧
        ∀ proposal ∈ added, ∃ candidate ∈ found,
          proposal.inputFingerprint = candidate.inputFingerprint := by
  induction found generalizing identities rows with
  | nil =>
    simp only [insertCandidates, pure_ok] at ran
    obtain ⟨-, rfl⟩ := ran
    exact ⟨sound, rfl, [], (List.append_nil _).symm, by simp⟩
  | cons candidate found ih =>
    cases identities with
    | nil =>
      simp only [insertCandidates, throw_ok] at ran
    | cons first identities =>
      simp only [insertCandidates, steps_ok] at ran
      obtain ⟨middle, inserted, rest⟩ := ran
      obtain ⟨here, distinct⟩ := List.nodup_cons.mp distinct
      obtain ⟨-, proposals, events⟩ := insertCandidate_ok inserted
      have soundMiddle := sound.insert (absent candidate List.mem_cons_self) inserted
      have absentMiddle : ∀ other ∈ found, middle.exactPending other.inputFingerprint = false := by
        intro other inside
        have before := absent other (List.mem_cons_of_mem _ inside)
        rw [exactPending_eq_false] at before ⊢
        intro proposal listed pending
        rw [proposals] at listed
        rcases Rows.mem_concat listed with listed | rfl
        · exact before proposal listed pending
        · intro same
          exact here (List.mem_map.mpr ⟨other, inside, same.symm⟩)
      obtain ⟨soundNext, sameEvents, added, appended, origins⟩ :=
        ih soundMiddle distinct absentMiddle rest
      refine ⟨soundNext, sameEvents.trans events, candidate.proposal first :: added, ?_, ?_⟩
      · rw [appended, proposals, List.append_assoc, List.singleton_append]
      · intro proposal inside
        rcases List.mem_cons.mp inside with rfl | inside
        · exact ⟨candidate, List.mem_cons_self, rfl⟩
        · obtain ⟨from', listed, same⟩ := origins proposal inside
          exact ⟨from', List.mem_cons_of_mem _ listed, same⟩

end

theorem ProposalsMove.appended {added : List RegroupProposal} (sound : ProposalsSound next)
    (appended : next.proposals = rows.proposals ++ added)
    (open' : ∀ proposal ∈ added, rows.rejectionSuppressed proposal.inputFingerprint = false) :
    ProposalsMove rows next where
  sound := sound
  added proposal inside fresh := by
    rw [appended, List.mem_append] at inside
    rcases inside with inside | inside
    · exact absurd (List.mem_map_of_mem inside) fresh
    · exact open' proposal inside
  decided proposal inside _ := by
    rw [appended]
    exact List.mem_append_left _ inside

end Moves

/-! ## The transactions -/

section Transactions

variable {python : PythonLibrary} {rows next : GroupingRows}

section

variable (sound : ProposalsSound rows)

include sound

theorem recompute_moves {plan : RecomputePlan}
    (distinct : (plan.candidates.map (·.inputFingerprint)).Nodup)
    (ran : (recomputeGroupingProposals python plan call).run rows = .ok (result, next)) :
    ProposalsMove rows next := by
  simp only [recomputeGroupingProposals, steps_ok] at ran
  obtain ⟨_, -, ran⟩ := ran
  split at ran
  · simp only [steps_ok] at ran
    obtain ⟨-, _, receipt, _, -, -, rfl⟩ := ran
    obtain rfl := insertGroupingReceipt_ok receipt
    exact .unchanged sound rfl
  · simp only [steps_ok] at ran
    obtain ⟨-, _, receipt, _, inserts, -, rfl⟩ := ran
    obtain rfl := insertGroupingReceipt_ok receipt
    have received : ProposalsSound
        { rows with commandReceipts := rows.commandReceipts ++ [call.commandId] } :=
      ⟨sound.proposalIds, sound.pendingOnce⟩
    obtain ⟨soundNext, -, _, appended, origins⟩ := insertCandidates_ok received
      (distinct.sublist (List.filter_sublist.map _))
      (fun candidate inside => (of_decide_eq_true (List.mem_filter.mp inside).2).1) inserts
    refine .appended soundNext appended fun proposal inside => ?_
    obtain ⟨candidate, listed, same⟩ := origins proposal inside
    rw [same]
    exact (of_decide_eq_true (List.mem_filter.mp listed).2).2

theorem publishCandidate_moves
    (ran : (publishCandidate claimCurrent checkpointInUow identities candidate).run rows =
      .ok (published, next)) : ProposalsMove rows next := by
  simp only [publishCandidate, steps_ok] at ran
  obtain ⟨-, ran⟩ := ran
  split at ran
  · simp only [pure_ok] at ran
    obtain ⟨-, rfl⟩ := ran
    exact .unchanged sound rfl
  · rename_i checked
    rw [not_or, Bool.not_eq_true, Bool.not_eq_true] at checked
    simp only [steps_ok] at ran
    obtain ⟨_, inserts, -, -, rfl⟩ := ran
    refine .appended (sound.insert checked.1 inserts) (insertCandidate_ok inserts).2.1 ?_
    intro proposal inside
    obtain rfl := List.mem_singleton.mp inside
    exact checked.2

theorem acceptRegroupProposal_moves
    (ran : (acceptRegroupProposal candidate call).run rows = .ok (revision, next)) :
    ProposalsMove rows next := by
  simp only [acceptRegroupProposal, steps_ok] at ran
  obtain ⟨_, -, -, -, -, -, _, receipt, _, -, moves⟩ := ran
  obtain rfl := insertGroupingReceipt_ok receipt
  obtain ⟨_, pending, moved, replaced, -⟩ := transition_ok moves
  exact .replaced sound pending moved replaced

theorem rejectRegroupProposal_moves
    (ran : (rejectRegroupProposal call).run rows = .ok (revision, next)) :
    ProposalsMove rows next := by
  simp only [rejectRegroupProposal, steps_ok] at ran
  obtain ⟨_, -, _, receipt, _, _, moves, -, -, rfl⟩ := ran
  obtain rfl := insertGroupingReceipt_ok receipt
  obtain ⟨_, pending, moved, replaced, -⟩ := transition_ok moves
  exact .replaced sound pending moved replaced

theorem reconsiderRegroupInputs_moves
    (ran : (reconsiderRegroupInputs call).run rows = .ok (value, next)) :
    ProposalsMove rows next := by
  simp only [reconsiderRegroupInputs, bind_ok, get_ok] at ran
  obtain ⟨_, _, ⟨rfl, rfl⟩, ran⟩ := ran
  split at ran
  · simp only [throw_ok] at ran
  · simp only [steps_ok] at ran
    obtain ⟨-, _, receipt, -, -, rfl⟩ := ran
    obtain rfl := insertGroupingReceipt_ok receipt
    exact .unchanged sound rfl

end

end Transactions

/-! ## Runs -/

/-- One step of a run: a transaction of one of the commands or of the durable
job, or whatever other commands do to the tables these read. What a recompute
or a job publishes was read from any earlier or later snapshot, so a job that is
interrupted and run again is just more steps. The digested texts are from
`texts`. -/
inductive GroupingStep (python : PythonLibrary) (texts : Set String) :
    GroupingRows → GroupingRows → Prop where
  | elsewhere (rows : GroupingRows) (authority : GroupingTables) (commandReceipts : List String) :
      GroupingStep python texts rows { rows with authority, commandReceipts }
  | recompute (rows snapshot : GroupingRows) (call : RecomputeCall) (plan : RecomputePlan)
      (planned : planRecompute python snapshot call.origin call.scopedIds = .ok plan)
      (digested : DigestedFrom texts plan.candidates) :
      GroupingStep python texts rows
        (commit (recomputeGroupingProposals python plan call) rows).2
  | publish (rows snapshot : GroupingRows) (origin : GroupingOrigin)
      (found : List FingerprintedCandidate) (candidate : FingerprintedCandidate)
      (claimCurrent checkpointInUow : Except Raised PUnit) (identities : ProposalIdentities)
      (scanned : candidates python snapshot.authority origin = .ok found)
      (listed : candidate ∈ found) (digested : DigestedFrom texts found) :
      GroupingStep python texts rows
        (commit (publishCandidate claimCurrent checkpointInUow identities candidate) rows).2
  | accept (rows snapshot : GroupingRows) (call : AcceptCall) (candidate : FingerprintedCandidate)
      (planned : planAccept python snapshot call = .ok candidate) :
      GroupingStep python texts rows (commit (acceptRegroupProposal candidate call) rows).2
  | reject (rows : GroupingRows) (call : RejectCall) :
      GroupingStep python texts rows (commit (rejectRegroupProposal call) rows).2
  | reconsider (rows : GroupingRows) (call : ReconsiderCall) :
      GroupingStep python texts rows (commit (reconsiderRegroupInputs call) rows).2

/-- Nothing has been proposed yet. -/
structure BeforeGrouping (rows : GroupingRows) : Prop where
  proposals : rows.proposals = []

section Runs

variable {python : PythonLibrary} {texts : Set String} {rows next : GroupingRows}

section

variable (separates : Set.InjOn python.sha256Hex texts)

include separates

theorem GroupingStep.moves
    (step : GroupingStep python texts rows next) (sound : ProposalsSound rows) :
    ProposalsMove rows next := by
  have stays : ProposalsMove rows rows := .unchanged sound rfl
  cases step with
  | elsewhere => exact .unchanged sound rfl
  | recompute snapshot call plan planned digested =>
    exact commit_holds stays fun _ _ ran =>
      recompute_moves sound (planRecompute_nodup separates planned digested) ran
  | publish => exact commit_holds stays fun _ _ ran => publishCandidate_moves sound ran
  | accept => exact commit_holds stays fun _ _ ran => acceptRegroupProposal_moves sound ran
  | reject => exact commit_holds stays fun _ _ ran => rejectRegroupProposal_moves sound ran
  | reconsider => exact commit_holds stays fun _ _ ran => reconsiderRegroupInputs_moves sound ran

theorem reachable_proposals_sound
    (reached : Reachable BeforeGrouping (GroupingStep python texts) rows) :
    ProposalsSound rows := by
  refine reached.invariant ProposalsSound ?_ fun _ _ sound step => (step.moves separates sound).sound
  rintro rows ⟨proposals⟩
  constructor <;> simp [proposals]

theorem decided_stays (sound : ProposalsSound rows)
    (later : Later (GroupingStep python texts) rows next) (inside : proposal ∈ rows.proposals)
    (decided : proposal.state ≠ .pending) : next.get? proposal.proposalId = some proposal := by
  obtain ⟨soundNext, kept⟩ := later.preserves
    (fun reached => ProposalsSound reached ∧ proposal ∈ reached.proposals)
    (fun _ _ held step =>
      ⟨(step.moves separates held.1).sound, (step.moves separates held.1).decided _ held.2 decided⟩)
    ⟨sound, inside⟩
  exact Rows.find?_eq_some soundNext.proposalIds kept

end

/-- In every run of recomputes, durable jobs, rejections, reconsiderations and
acceptances whose digests separate the digested texts, a fingerprint has one
pending proposal at most, nothing is proposed for a fingerprint with a rejection
that is not reconsidered, and a proposal that left the pending state never
changes again. -/
theorem regroup_proposals_bookkept (separates : Set.InjOn python.sha256Hex texts)
    (reached : Reachable BeforeGrouping (GroupingStep python texts) rows) :
    (∀ fingerprint, rows.proposals.countP (fun proposal =>
      proposal.state = .pending ∧ proposal.inputFingerprint = fingerprint) ≤ 1) ∧
    (∀ next, GroupingStep python texts rows next → ∀ proposal ∈ next.proposals,
      proposal.proposalId ∉ rows.proposals.map (·.proposalId) →
        ∀ event ∈ rows.rejectionEvents, event.inputFingerprint = proposal.inputFingerprint →
          event.reconsidered = true) ∧
    (∀ next, Later (GroupingStep python texts) rows next → ∀ proposal ∈ rows.proposals,
      proposal.state ≠ .pending → next.get? proposal.proposalId = some proposal) := by
  have sound := reachable_proposals_sound separates reached
  refine ⟨fun fingerprint => ?_, fun next step proposal inside fresh =>
      rejectionSuppressed_eq_false.mp ((step.moves separates sound).added proposal inside fresh),
    fun next later proposal inside decided => decided_stays separates sound later inside decided⟩
  refine Rows.countP_le_one sound.proposalIds fun proposal inside other otherIn first second => ?_
  rw [decide_eq_true_eq] at first second
  exact sound.pendingOnce proposal inside other otherIn first.1 second.1
    (first.2.trans second.2.symm)

end Runs

/-! A proposal that is rejected, suppressed, and proposed again by a job once the
rejection is reconsidered. -/

def plannedTables : GroupingTables where
  tasks :=
    { tasks := [⟨"task", .localTask, 1⟩]
      wfmTaskIdentities := []
      planRevisions := [⟨"plan", "task", 100, 200⟩]
      planCurrent := [⟨"task", "plan", 1⟩]
      executionEvents := []
      executionProjections := []
      outcomeEvents := []
      outcomeCurrent := []
      operationalCountEvents := []
      operationalCountCurrent := []
      lockEvents := []
      lockProjections := []
      sourceProjections := []
      sourceTerminalReviews := []
      objectives := []
      envelopes := []
      membershipEvents := []
      memberships := []
      aggregates := []
      objectiveReviews := [] }
  trackingSequence _ := 1
  lineages := []
  plansOrdered := by decide

/-- SHA-256 of the one text that is digested. -/
def materialDigest : String :=
  "5750248227a2ed5da379bb1d3b9be1daf342d7d5f0b20a8d5570cb115c720b49"

def groupingLibrary : PythonLibrary where
  jsonLoads _ := none
  sha256Hex _ := materialDigest

def ungrouped : GroupingRows where
  authority := plannedTables
  commandReceipts := []
  proposals := []
  taskChanges := []
  objectiveChanges := []
  rejectionEvents := []

def numbered (proposalId : String) : ProposalIdentities where
  proposalId
  taskChangeId index := proposalId ++ "/task/" ++ toString index
  objectiveChangeId index := proposalId ++ "/objective/" ++ toString index

def recomputeCall (commandId proposalId : String) : RecomputeCall :=
  ⟨commandId, .manualRequest, none, [numbered proposalId], .error .other⟩

def plannedCandidate : FingerprintedCandidate where
  candidate :=
    { proposalKind := .create
      origin := .manualRequest
      riskTier := .normal
      survivorObjectiveId := none
      taskChanges := [⟨"task", none, none, 1, "plan", none, .add⟩]
      objectiveChanges := [⟨none, .create, none, none⟩]
      materialTasks := [⟨"task", 1, "plan", 1, 100, 200, none, none, none, false, .notStarted, none,
        none, none, none, by decide⟩]
      materialObjectives := []
      componentStartUtc := 100
      componentEndUtc := 200 }
  inputFingerprint := materialDigest

def digestedText : String :=
  (canonicalJson plannedCandidate.candidate.material).toOption.getD ""

/-- A recompute that finds the candidate while so many commands were received. -/
def recomputed (receiptCount : Nat) (call : RecomputeCall) (rows : GroupingRows) : GroupingRows :=
  (commit (recomputeGroupingProposals groupingLibrary
    ⟨some 1, some receiptCount, [plannedCandidate]⟩ call) rows).2

def proposedOnce : GroupingRows :=
  recomputed 0 (recomputeCall "recompute" "first") ungrouped

def rejectCall : RejectCall :=
  ⟨"reject", "first", 1, plannedCandidate.inputFingerprint, "not_now", "rejection"⟩

def rejectedOnce : GroupingRows :=
  (commit (rejectRegroupProposal rejectCall) proposedOnce).2

def suppressedOnce : GroupingRows :=
  recomputed 2 (recomputeCall "again" "suppressed") rejectedOnce

def reconsiderCall : ReconsiderCall :=
  ⟨"reconsider", "first", "rejection", plannedCandidate.inputFingerprint⟩

def reconsideredOnce : GroupingRows :=
  (commit (reconsiderRegroupInputs reconsiderCall) suppressedOnce).2

def proposedAgain : GroupingRows :=
  (commit (publishCandidate (.ok ⟨⟩) (.ok ⟨⟩) (numbered "second") plannedCandidate)
    reconsideredOnce).2

theorem digestedFrom_plannedCandidate : DigestedFrom {digestedText} [plannedCandidate] := by
  have digested : canonicalJson plannedCandidate.candidate.material = .ok digestedText := by
    decide +kernel
  intro current inside text encoded
  obtain rfl := List.mem_singleton.mp inside
  rw [digested] at encoded
  exact (Except.ok.inj encoded).symm

theorem reaches_proposedAgain :
    Reachable BeforeGrouping (GroupingStep groupingLibrary {digestedText}) proposedAgain := by
  have start : Reachable BeforeGrouping (GroupingStep groupingLibrary {digestedText}) ungrouped :=
    .start ⟨rfl⟩
  have proposed := start.step (.recompute ungrouped ungrouped (recomputeCall "recompute" "first")
    ⟨some 1, some 0, [plannedCandidate]⟩ (by decide +kernel) digestedFrom_plannedCandidate)
  have rejected := proposed.step (.reject proposedOnce rejectCall)
  have suppressed := rejected.step (.recompute rejectedOnce rejectedOnce
    (recomputeCall "again" "suppressed") ⟨some 1, some 2, [plannedCandidate]⟩ (by decide +kernel)
    digestedFrom_plannedCandidate)
  have reconsidered := suppressed.step (.reconsider suppressedOnce reconsiderCall)
  exact reconsidered.step (.publish reconsideredOnce ungrouped .manualRequest [plannedCandidate]
    plannedCandidate _ _ _ (by decide +kernel) List.mem_cons_self digestedFrom_plannedCandidate)

/-- The rejected proposal and the one published after the reconsideration share
their fingerprint, and only the second one is pending. -/
theorem proposed_again_after_reconsideration :
    proposedAgain.proposals.map (fun proposal => (proposal.proposalId, proposal.state)) =
        [("first", .rejected), ("second", .pending)] ∧
      proposedAgain.proposals.countP (fun proposal => proposal.state = .pending ∧
        proposal.inputFingerprint = plannedCandidate.inputFingerprint) ≤ 1 :=
  ⟨by decide +kernel, (regroup_proposals_bookkept (Set.injOn_singleton _ _)
    reaches_proposedAgain).1 plannedCandidate.inputFingerprint⟩

end Soma.ObjectivesTasks
