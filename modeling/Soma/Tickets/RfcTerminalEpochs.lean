import Soma.Theory.Execution
import Soma.Theory.Rows
import Soma.Tickets.RfcSourceProjection

/-!
Terminal epochs of RFCs over any run. A pending proposal always belongs to the
epoch its RFC is in: a status that becomes terminal opens an epoch only from a
state without a pending proposal, a reversal supersedes the pending proposal
before it closes the epoch, and a refresh replaces a proposal within its epoch.
So an RFC has one pending proposal at most, although the index only keeps the
proposals of one epoch apart.
-/

namespace Soma.Tickets

open Execution Foundation Transaction Rows

variable {python : PythonLibrary} {rows next : CascadeRows}

/-! ## Members of a proposal -/

section Members

variable {Member : Type} {identity : Member → String} {declared : Member → Bool}
  {table : List (CascadeMemberRow Member)} {proposalId : String}

/-- The rows that record members under a proposal, in their order. -/
def recorded (proposalId : String) (members : List Member) : List (CascadeMemberRow Member) :=
  members.zipIdx.map fun entry => ⟨proposalId, entry.1, entry.2⟩

theorem insertMembers_ok
    (ran : insertMembers identity declared proposalId ordinal members table = .ok after) :
    after = table ++ (members.zipIdx ordinal).map fun entry => ⟨proposalId, entry.1, entry.2⟩ := by
  induction members generalizing ordinal table with
  | nil =>
    cases ran
    simp
  | cons member rest ih =>
    simp only [insertMembers, except_ok] at ran
    obtain ⟨-, ran⟩ := ran
    rw [ih ran, List.append_assoc]
    rfl

theorem memberRows_append (table added : List (CascadeMemberRow Member)) :
    memberRows (table ++ added) proposalId =
      memberRows table proposalId ++ memberRows added proposalId :=
  List.filter_append ..

theorem memberRows_recorded_self (members : List Member) :
    memberRows (recorded proposalId members) proposalId = recorded proposalId members := by
  rw [memberRows, List.filter_eq_self]
  intro row inside
  obtain ⟨_, -, rfl⟩ := List.mem_map.mp inside
  simp

theorem memberRows_recorded_ne (members : List Member) (apart : other ≠ proposalId) :
    memberRows (recorded other members) proposalId = [] := by
  rw [memberRows, List.filter_eq_nil_iff]
  intro row inside
  obtain ⟨_, -, rfl⟩ := List.mem_map.mp inside
  simpa using apart

theorem memberRows_eq_nil {owners : List String}
    (owned : ∀ row ∈ table, row.proposalId ∈ owners) (fresh : proposalId ∉ owners) :
    memberRows table proposalId = [] := by
  rw [memberRows, List.filter_eq_nil_iff]
  intro row inside own
  exact fresh (by simpa using (of_decide_eq_true own) ▸ owned row inside)

theorem map_member_recorded (members : List Member) :
    (recorded proposalId members).map (·.member) = members := by
  simp only [recorded, List.map_map]
  exact List.zipIdx_map_fst 0 members

theorem length_recorded (members : List Member) :
    (recorded proposalId members).length = members.length := by
  simp [recorded]

theorem map_ordinal_recorded (members : List Member) :
    (recorded proposalId members).map (·.ordinal) = List.range members.length := by
  rw [List.range_eq_range']
  simp only [recorded, List.map_map]
  exact List.zipIdx_map_snd 0 members

theorem orderedMemberRows_recorded
    (held : memberRows table proposalId = recorded proposalId members) :
    orderedMemberRows identity table proposalId = recorded proposalId members := by
  rw [orderedMemberRows, held]
  refine List.Pairwise.insertionSort_eq ?_
  have increasing : ((recorded proposalId members).map (·.ordinal)).Pairwise (· < ·) := by
    rw [map_ordinal_recorded]
    exact List.pairwise_lt_range
  exact (List.pairwise_map.mp increasing).imp fun below => .inl below

end Members

/-! ## The invariant -/

/-- The members of a proposal are recorded in order, with its RFC first, and its
fingerprint is theirs. -/
def ScopeRecorded (python : PythonLibrary) (rows : CascadeRows)
    (proposal : RfcTerminalCascadeProposal) : Prop :=
  ∃ rfcMembers wfmMembers,
    memberRows rows.rfcMembers proposal.proposalId = recorded proposal.proposalId rfcMembers ∧
    memberRows rows.wfmMembers proposal.proposalId = recorded proposal.proposalId wfmMembers ∧
    (rfcMembers.head?.map (·.rfcId)) = some proposal.triggerRfcId ∧
    terminalCascadeScopeFingerprint python proposal.triggerRfcId proposal.terminalEpochId
      proposal.terminalStatusClass proposal.terminalStatusEvidenceId proposal.scopeKind rfcMembers
      wfmMembers = .ok proposal.scopeFingerprint

/-- The RFC of the proposal is in the proposal's terminal epoch. -/
def InCurrentEpoch (projections : List RfcSourceProjection)
    (proposal : RfcTerminalCascadeProposal) : Prop :=
  ∃ projection ∈ projections, projection.rfcId = proposal.triggerRfcId ∧
    projection.terminalEpochId = some proposal.terminalEpochId

structure EpochsSound (python : PythonLibrary) (rows : CascadeRows) : Prop where
  rfcIds : (rows.projections.map (·.rfcId)).Nodup
  terminal : ∀ projection ∈ rows.projections,
    projection.terminalEpochId.isSome = projection.statusClass.isTerminal
  proposalIds : (rows.proposals.map (·.proposalId)).Nodup
  current : ∀ proposal ∈ rows.proposals, proposal.proposalState = .pending →
    InCurrentEpoch rows.projections proposal
  single : ∀ proposal ∈ rows.proposals, ∀ other ∈ rows.proposals,
    proposal.proposalState = .pending → other.proposalState = .pending →
      proposal.triggerRfcId = other.triggerRfcId → proposal = other
  rfcOwners : ∀ row ∈ rows.rfcMembers, row.proposalId ∈ rows.proposals.map (·.proposalId)
  wfmOwners : ∀ row ∈ rows.wfmMembers, row.proposalId ∈ rows.proposals.map (·.proposalId)
  scopes : ∀ proposal ∈ rows.proposals, ScopeRecorded python rows proposal

theorem projection?_eq_some (keyed : (rows.projections.map (·.rfcId)).Nodup)
    (inside : projection ∈ rows.projections) :
    rows.projection? projection.rfcId = some projection :=
  find?_eq_some keyed inside

theorem mem_of_projection? (found : rows.projection? rfcId = some projection) :
    projection ∈ rows.projections ∧ projection.rfcId = rfcId :=
  key_of_find? found

variable {proposal : RfcTerminalCascadeProposal}

theorem EpochsSound.none_pending (sound : EpochsSound python rows)
    (outside : (rows.projection? rfcId).bind (·.terminalEpochId) = none)
    (inside : proposal ∈ rows.proposals) (triggered : proposal.triggerRfcId = rfcId) :
    proposal.proposalState ≠ .pending := by
  intro pending
  obtain ⟨projection, held, own, epoch⟩ := sound.current proposal inside pending
  rw [← triggered, ← own, projection?_eq_some sound.rfcIds held, Option.bind_some, epoch] at outside
  cases outside

variable {rfcId epoch : String}

theorem EpochsSound.epoch_of_pending (sound : EpochsSound python rows)
    (within : (rows.projection? rfcId).bind (·.terminalEpochId) = some epoch)
    (inside : proposal ∈ rows.proposals) (triggered : proposal.triggerRfcId = rfcId)
    (pending : proposal.proposalState = .pending) : proposal.terminalEpochId = epoch := by
  obtain ⟨projection, held, own, same⟩ := sound.current proposal inside pending
  rw [← triggered, ← own, projection?_eq_some sound.rfcIds held, Option.bind_some, same] at within
  exact Option.some.inj within

theorem pendingForEpoch_eq_none :
    rows.pendingForEpoch rfcId epoch = none ↔ ∀ proposal ∈ rows.proposals,
      proposal.triggerRfcId = rfcId → proposal.terminalEpochId = epoch →
        proposal.proposalState ≠ .pending := by
  simp [CascadeRows.pendingForEpoch, List.find?_eq_none]

/-! ## Closing a proposal -/

variable {value : PUnit} {closed : CascadeProposalState}

theorem closePending_ok
    (ran : (closePending closed proposalId revision lost).run rows = .ok (value, next)) :
    ∃ proposal, proposal.proposalId = proposalId ∧ proposal.proposalState = .pending ∧
      Replaced rows.proposals next.proposals proposal
        { proposal with proposalState := closed, revision := proposal.revision + 1 } ∧
      next = { rows with proposals := next.proposals } := by
  simp only [closePending, steps_ok] at ran
  obtain ⟨one, rfl⟩ := ran
  obtain ⟨proposal, hit, replaced⟩ := replaced_of_countP (fun row : RfcTerminalCascadeProposal =>
    { row with proposalState := closed, revision := row.revision + 1 }) one
  simp only [decide_eq_true_eq] at hit
  exact ⟨proposal, hit.1, hit.2.1, replaced, rfl⟩

/-- Closing a proposal leaves the others and every scope as they are. -/
theorem EpochsSound.close (sound : EpochsSound python rows) (ends : closed ≠ .pending)
    (replaced : Replaced rows.proposals proposals proposal
      { proposal with proposalState := closed, revision := proposal.revision + 1 }) :
    EpochsSound python { rows with proposals } where
  rfcIds := sound.rfcIds
  terminal := sound.terminal
  proposalIds := by
    show (proposals.map _).Nodup
    rw [replaced.map_eq rfl]
    exact sound.proposalIds
  current := by
    intro held inside pending
    rcases replaced.mem_next inside with rfl | before
    · exact absurd pending ends
    · exact sound.current held before pending
  single := by
    intro held inside other otherInside pending otherPending same
    rcases replaced.mem_next inside with rfl | before
    · exact absurd pending ends
    · rcases replaced.mem_next otherInside with rfl | otherBefore
      · exact absurd otherPending ends
      · exact sound.single held before other otherBefore pending otherPending same
  rfcOwners := by
    intro row inside
    show _ ∈ proposals.map _
    rw [replaced.map_eq rfl]
    exact sound.rfcOwners row inside
  wfmOwners := by
    intro row inside
    show _ ∈ proposals.map _
    rw [replaced.map_eq rfl]
    exact sound.wfmOwners row inside
  scopes := by
    intro held inside
    rcases replaced.mem_next inside with rfl | before
    · exact sound.scopes proposal replaced.mem_old
    · exact sound.scopes held before

theorem EpochsSound.closed_none (sound : EpochsSound python rows) (ends : closed ≠ .pending)
    (pending : proposal.proposalState = .pending)
    (replaced : Replaced rows.proposals proposals proposal
      { proposal with proposalState := closed, revision := proposal.revision + 1 }) :
    ∀ held ∈ proposals, held.triggerRfcId = proposal.triggerRfcId →
      held.proposalState ≠ .pending := by
  intro held inside triggered stays
  rcases replaced.mem_next_keyed sound.proposalIds rfl inside with rfl | ⟨before, apart⟩
  · exact ends stays
  · exact apart (congrArg _ (sound.single held before proposal replaced.mem_old stays pending
      triggered))

/-! ## Capturing a proposal -/

theorem captureRfcScope_ok (ran : captureRfcScope rows rfcId = .ok (scopeKind, members)) :
    members.head?.map (·.rfcId) = some rfcId := by
  simp only [captureRfcScope, except_ok] at ran
  obtain ⟨-, ran⟩ := ran
  split at ran
  · cases ran
  · simp only [except_ok] at ran
    obtain ⟨-, ran⟩ := ran
    split at ran
    · simp only [except_ok] at ran
      obtain ⟨-, -, ends⟩ := ran
      cases ends
      rfl
    · simp only [except_ok] at ran
      obtain ⟨_, -, ends⟩ := ran
      cases ends
      rfl

/-- A captured scope carries what it was captured for, and its own fingerprint. -/
structure Captured (python : PythonLibrary) (rows : CascadeRows) (rfcId epoch : String)
    (scope : RfcTerminalCascadeScope) : Prop where
  trigger : scope.triggerRfcId = rfcId
  opened : scope.terminalEpochId = epoch
  first : scope.rfcMembers.head?.map (·.rfcId) = some rfcId
  fingerprint : terminalCascadeScopeFingerprint python scope.triggerRfcId scope.terminalEpochId
    scope.terminalStatusClass scope.terminalStatusEvidenceId scope.scopeKind scope.rfcMembers
    scope.wfmMembers = .ok scope.scopeFingerprint
  within : (rows.projection? rfcId).bind (·.terminalEpochId) = some epoch

variable {scope : RfcTerminalCascadeScope}

theorem captureScope_ok
    (ran : captureScope python capture rows rfcId epoch statusClass evidenceId = .ok scope) :
    Captured python rows rfcId epoch scope := by
  simp only [captureScope, validateTerminalProjection, except_ok] at ran
  obtain ⟨⟨-, -, bound⟩, _, collected, _, -, _, -, _, digest, ends⟩ := ran
  cases ends
  obtain ⟨_, found, same⟩ := Option.map_eq_some_iff.mp bound
  refine ⟨rfl, rfl, captureRfcScope_ok collected, digest, ?_⟩
  rw [found, Option.bind_some]
  exact congrArg (·.2.2) same

theorem insertPending_ok
    (ran : (insertPending proposalId scope commandId).run rows = .ok (value, next)) :
    proposalId ∉ rows.proposals.map (·.proposalId) ∧
      rows.pendingForEpoch scope.triggerRfcId scope.terminalEpochId = none ∧
      next = { rows with
        proposals := rows.proposals ++ [scope.proposal proposalId commandId]
        rfcMembers := rows.rfcMembers ++ recorded proposalId scope.rfcMembers
        wfmMembers := rows.wfmMembers ++ recorded proposalId scope.wfmMembers } := by
  simp only [insertPending, steps_ok] at ran
  obtain ⟨⟨fresh, -⟩, -, none, _, rfcs, _, wfms, rfl⟩ := ran
  refine ⟨fresh, none, ?_⟩
  rw [insertMembers_ok rfcs, insertMembers_ok wfms]
  rfl

/-- A proposal captured for the epoch the RFC is in keeps the invariant. -/
theorem EpochsSound.insert (sound : EpochsSound python rows) {proposalId commandId : String}
    (captured : Captured python rows rfcId epoch scope)
    (ran : (insertPending proposalId scope commandId).run rows = .ok (value, next)) :
    EpochsSound python next := by
  obtain ⟨fresh, free, rfl⟩ := insertPending_ok ran
  have trigger := captured.trigger
  -- Every pending proposal of the RFC would be of the epoch the index keeps free.
  have alone : ∀ proposal ∈ rows.proposals, proposal.triggerRfcId = rfcId →
      proposal.proposalState ≠ .pending := by
    intro proposal inside triggered pending
    refine pendingForEpoch_eq_none.mp free proposal inside (triggered.trans trigger.symm) ?_ pending
    rw [captured.opened]
    exact sound.epoch_of_pending captured.within inside triggered pending
  have kept : ∀ {id : String}, id ∈ rows.proposals.map (·.proposalId) →
      id ∈ (rows.proposals ++ [scope.proposal proposalId commandId]).map (·.proposalId) := by
    intro id inside
    rw [List.map_append]
    exact List.mem_append_left _ inside
  have added : proposalId ∈
      (rows.proposals ++ [scope.proposal proposalId commandId]).map (·.proposalId) := by
    rw [List.map_append]
    exact List.mem_concat_self
  constructor
  case rfcIds => exact sound.rfcIds
  case terminal => exact sound.terminal
  case proposalIds => exact nodup_concat sound.proposalIds fresh
  case current =>
    intro proposal inside pending
    rcases Rows.mem_concat inside with before | rfl
    · exact sound.current proposal before pending
    · obtain ⟨projection, found, same⟩ := Option.bind_eq_some_iff.mp captured.within
      obtain ⟨held, own⟩ := mem_of_projection? found
      exact ⟨projection, held, own.trans trigger.symm,
        same.trans (congrArg some captured.opened.symm)⟩
  case single =>
    intro proposal inside other otherInside pending otherPending same
    rcases List.mem_append.mp inside with before | new <;>
      rcases List.mem_append.mp otherInside with otherBefore | otherNew
    · exact sound.single proposal before other otherBefore pending otherPending same
    · obtain rfl := List.mem_singleton.mp otherNew
      exact absurd pending (alone proposal before (same.trans trigger))
    · obtain rfl := List.mem_singleton.mp new
      exact absurd otherPending (alone other otherBefore (same.symm.trans trigger))
    · rw [List.mem_singleton.mp new, List.mem_singleton.mp otherNew]
  case rfcOwners =>
    intro row inside
    rcases List.mem_append.mp inside with before | new
    · exact kept (sound.rfcOwners row before)
    · obtain ⟨entry, -, rfl⟩ := List.mem_map.mp new
      exact added
  case wfmOwners =>
    intro row inside
    rcases List.mem_append.mp inside with before | new
    · exact kept (sound.wfmOwners row before)
    · obtain ⟨entry, -, rfl⟩ := List.mem_map.mp new
      exact added
  case scopes =>
    intro proposal inside
    rcases Rows.mem_concat inside with before | rfl
    · obtain ⟨rfcMembers, wfmMembers, rfcs, wfms, first, fingerprint⟩ := sound.scopes proposal before
      have apart : proposalId ≠ proposal.proposalId := fun same =>
        fresh (same ▸ List.mem_map_of_mem before)
      refine ⟨rfcMembers, wfmMembers, ?_, ?_, first, fingerprint⟩
      · rw [memberRows_append, memberRows_recorded_ne _ apart, List.append_nil, rfcs]
      · rw [memberRows_append, memberRows_recorded_ne _ apart, List.append_nil, wfms]
    · have own : (scope.proposal proposalId commandId).proposalId = proposalId := rfl
      refine ⟨scope.rfcMembers, scope.wfmMembers, ?_, ?_, captured.first.trans
        (congrArg some trigger.symm), captured.fingerprint⟩
      · rw [own, memberRows_append, memberRows_eq_nil sound.rfcOwners fresh, List.nil_append]
        exact memberRows_recorded_self _
      · rw [own, memberRows_append, memberRows_eq_nil sound.wfmOwners fresh, List.nil_append]
        exact memberRows_recorded_self _

/-! ## Writing the projection -/

variable {changes : List AcceptedRfcChange}

theorem accept_rfcId {row : RfcSourceProjection} {epoch : Option (Option String)} :
    (row.accept changes epoch).rfcId = row.rfcId := by
  show (changes.foldl RfcSourceProjection.assign row).rfcId = row.rfcId
  induction changes generalizing row with
  | nil => rfl
  | cons change rest ih => exact ih

/-- One RFC's projection written, in a terminal epoch or in none. -/
structure ProjectionWritten (rows next : CascadeRows) (rfcId : String) (epoch : Option String) :
    Prop where
  tables : next = { rows with projections := next.projections }
  rfcIds : (next.projections.map (·.rfcId)).Nodup
  written : ∃ row ∈ next.projections, row.rfcId = rfcId ∧ row.terminalEpochId = epoch ∧
    row.terminalEpochId.isSome = row.statusClass.isTerminal
  others : ∀ row ∈ next.projections, row.rfcId ≠ rfcId → row ∈ rows.projections
  kept : ∀ row ∈ rows.projections, row.rfcId ≠ rfcId → row ∈ next.projections

theorem writeRfcProjection_ok (sound : EpochsSound python rows) {rfcId : String}
    {epoch : Option (Option String)}
    (ran : (writeRfcProjection rfcId (rows.projection? rfcId) changes epoch).run rows =
      .ok (value, next)) :
    ProjectionWritten rows next rfcId
      (epoch.getD ((rows.projection? rfcId).bind (·.terminalEpochId))) := by
  simp only [writeRfcProjection, steps_ok] at ran
  cases found : rows.projection? rfcId with
  | none =>
    simp only [found, steps_ok] at ran
    obtain ⟨⟨_, declared⟩, rfl⟩ := ran
    have own : ((RfcSourceProjection.blank rfcId).accept changes epoch).rfcId = rfcId := accept_rfcId
    refine ⟨rfl, nodup_concat sound.rfcIds (by rwa [own]), ⟨_, List.mem_append_right _
      (List.mem_singleton.mpr rfl), own, rfl, declared.2.2.2.2⟩, ?_, ?_⟩
    · intro row inside other
      rcases Rows.mem_concat inside with before | new
      · exact before
      · exact absurd (new ▸ own) other
    · exact fun row inside _ => List.mem_append_left _ inside
  | some current =>
    simp only [found, steps_ok] at ran
    obtain ⟨declared, one, rfl⟩ := ran
    obtain ⟨row, hit, replaced⟩ := replaced_of_countP
      (fun row : RfcSourceProjection => row.accept changes epoch) one
    have checked := declared row replaced.mem_old hit
    simp only [decide_eq_true_eq] at hit
    obtain ⟨held, own⟩ := mem_of_projection? found
    obtain rfl := List.inj_on_of_nodup_map sound.rfcIds replaced.mem_old held (hit.1.trans own.symm)
    refine ⟨rfl, ?_, ⟨_, replaced.mem_new, accept_rfcId.trans own, rfl, checked.2.2.2.2⟩, ?_, ?_⟩
    · show (List.map _ _).Nodup
      rw [replaced.map_eq accept_rfcId]
      exact sound.rfcIds
    · intro other inside apart
      rcases replaced.mem_next inside with rfl | before
      · exact absurd (accept_rfcId.trans own) apart
      · exact before
    · intro other inside apart
      rcases replaced.mem_rows inside with rfl | after
      · exact absurd own apart
      · exact after

namespace ProjectionWritten

variable {rfcId : String} {epoch : Option String}

/-- The invariant survives when every pending proposal of the RFC is of the
epoch it is now in. -/
theorem sound (written : ProjectionWritten rows next rfcId epoch) (sound : EpochsSound python rows)
    (fits : ∀ proposal ∈ rows.proposals, proposal.triggerRfcId = rfcId →
      proposal.proposalState = .pending → epoch = some proposal.terminalEpochId) :
    EpochsSound python next := by
  obtain ⟨tables, rfcIds, ⟨new, placed, own, opened, terminal⟩, others, kept⟩ := written
  rw [tables]
  refine ⟨rfcIds, ?_, sound.proposalIds, ?_, sound.single, sound.rfcOwners, sound.wfmOwners,
    sound.scopes⟩
  · intro row inside
    by_cases same : row.rfcId = rfcId
    · obtain rfl := List.inj_on_of_nodup_map rfcIds inside placed (same.trans own.symm)
      exact terminal
    · exact sound.terminal row (others row inside same)
  · intro proposal inside pending
    by_cases same : proposal.triggerRfcId = rfcId
    · exact ⟨new, placed, own.trans same.symm,
        opened.trans (fits proposal inside same pending)⟩
    · obtain ⟨row, held, trigger, epoch⟩ := sound.current proposal inside pending
      exact ⟨row, kept row held (fun clash => same (trigger.symm.trans clash)), trigger, epoch⟩

end ProjectionWritten

/-! ## Accepting deltas -/

section

variable (sound : EpochsSound python rows)

include sound

theorem EpochsSound.no_epoch (lasting : RfcStatusClass.isTerminal
      (((rows.projection? rfcId).map (·.statusClass)).getD .unknown) = false) :
    (rows.projection? rfcId).bind (·.terminalEpochId) = none := by
  cases found : rows.projection? rfcId with
  | none => rfl
  | some projection =>
    rw [found, Option.map_some, Option.getD_some,
      ← sound.terminal projection (mem_of_projection? found).1] at lasting
    exact Option.isNone_iff_eq_none.mp (by simpa using lasting)

theorem supersedePendingForReversal_ok
    (within : (rows.projection? rfcId).bind (·.terminalEpochId) = some epoch)
    (ran : (supersedePendingForReversal rfcId epoch).run rows = .ok (value, next)) :
    next = { rows with proposals := next.proposals } ∧ EpochsSound python next ∧
      ∀ proposal ∈ next.proposals, proposal.triggerRfcId = rfcId →
        proposal.proposalState ≠ .pending := by
  simp only [supersedePendingForReversal, steps_ok] at ran
  cases found : rows.pendingForEpoch rfcId epoch with
  | none =>
    simp only [found, pure_ok] at ran
    obtain ⟨-, rfl⟩ := ran
    refine ⟨rfl, sound, fun proposal inside triggered pending => ?_⟩
    exact pendingForEpoch_eq_none.mp found proposal inside triggered
      (sound.epoch_of_pending within inside triggered pending) pending
  | some pending =>
    simp only [found] at ran
    obtain ⟨proposal, same, stillPending, replaced, tables⟩ := closePending_ok ran
    have hit := List.find?_some found
    simp only [decide_eq_true_eq] at hit
    obtain rfl := List.inj_on_of_nodup_map sound.proposalIds replaced.mem_old
      (List.mem_of_find?_eq_some found) same
    refine ⟨tables, ?_, ?_⟩
    · rw [tables]
      exact sound.close (by decide) replaced
    · rw [← hit.1]
      exact sound.closed_none (by decide) stillPending replaced

/-- Whatever an accepted status leads to, the pending proposals it leaves are of
the epoch it leads to. -/
theorem terminalTransition_ok {call : RfcSourceCall}
    {resulting : RfcStatusClass} {epoch : Option String}
    (ran : (terminalTransition call
      (((rows.projection? call.rfcId).map (·.statusClass)).getD .unknown)
      ((rows.projection? call.rfcId).bind (·.terminalEpochId)) resulting).run rows =
        .ok (epoch, next)) :
    next = { rows with proposals := next.proposals } ∧ EpochsSound python next ∧
      ∀ proposal ∈ next.proposals, proposal.triggerRfcId = call.rfcId →
        proposal.proposalState = .pending → epoch = some proposal.terminalEpochId := by
  simp only [terminalTransition] at ran
  split at ran
  · rename_i prior _
    obtain ⟨rfl, rfl⟩ := pure_ok.mp ran
    exact ⟨rfl, sound, fun proposal inside triggered pending =>
      (sound.none_pending (sound.no_epoch prior) inside triggered pending).elim⟩
  · rename_i prior _
    simp only [steps_ok] at ran
    obtain ⟨-, -, rfl⟩ := ran
    exact ⟨rfl, sound, fun proposal inside triggered pending =>
      (sound.none_pending (sound.no_epoch prior) inside triggered pending).elim⟩
  · cases within : (rows.projection? call.rfcId).bind (·.terminalEpochId) with
    | none => simp only [within, throw_ok] at ran
    | some held =>
      simp only [within, pure_ok] at ran
      obtain ⟨rfl, rfl⟩ := ran
      exact ⟨rfl, sound, fun proposal inside triggered pending =>
        congrArg some (sound.epoch_of_pending within inside triggered pending).symm⟩
  · simp only [steps_ok] at ran
    obtain ⟨-, ran⟩ := ran
    cases within : (rows.projection? call.rfcId).bind (·.terminalEpochId) with
    | none => simp only [within, throw_ok] at ran
    | some held =>
      simp only [within, steps_ok] at ran
      obtain ⟨_, supersedes, rfl, rfl⟩ := ran
      obtain ⟨tables, soundNext, none⟩ := supersedePendingForReversal_ok sound within supersedes
      exact ⟨tables, soundNext, fun proposal inside triggered pending =>
        (none proposal inside triggered pending).elim⟩

theorem capturePending_ok
    (ran : (capturePending python capture newUuid4 rfcId epoch statusClass evidenceId
      commandId).run rows = .ok (proposalId, next)) : EpochsSound python next := by
  simp only [capturePending, steps_ok] at ran
  obtain ⟨-, -, _, captured, _, inserts, -, rfl⟩ := ran
  exact sound.insert (captureScope_ok captured) inserts

theorem applyChanges_ok {call : RfcSourceCall} {proposalId : Option String}
    (ran : (applyChanges python call (rows.projection? call.rfcId) changes).run rows =
      .ok (proposalId, next)) : EpochsSound python next := by
  simp only [applyChanges] at ran
  split at ran
  · simp only [steps_ok] at ran
    obtain ⟨_, writes, -, rfl⟩ := ran
    have written := writeRfcProjection_ok sound writes
    exact written.sound sound fun proposal inside triggered pending => by
      obtain ⟨projection, held, own, epoch⟩ := sound.current proposal inside pending
      rw [Option.getD_none, ← triggered, ← own, projection?_eq_some sound.rfcIds held,
        Option.bind_some, epoch]
  · simp only [steps_ok] at ran
    obtain ⟨epoch, middle, moves, _, writes, ran⟩ := ran
    obtain ⟨tables, soundMiddle, fits⟩ := terminalTransition_ok sound moves
    have same : rows.projection? call.rfcId = middle.projection? call.rfcId := by
      rw [tables]
      rfl
    rw [same] at writes
    have soundAfter := (writeRfcProjection_ok soundMiddle writes).sound soundMiddle fits
    split at ran
    · simp only [captureTerminal, steps_ok] at ran
      obtain ⟨_, _, ⟨_, _, captures, _, _, ⟨rfl, rfl⟩, _, _, ⟨-, rfl⟩, -, rfl⟩, -, rfl⟩ := ran
      exact capturePending_ok soundAfter captures
    · obtain ⟨-, rfl⟩ := pure_ok.mp ran
      exact soundAfter

end

theorem applyRfcFieldDeltas_keeps (call : RfcSourceCall) :
    Keeps (EpochsSound python) (applyRfcFieldDeltas python call) := by
  intro rows next result sound ran
  simp only [applyRfcFieldDeltas, steps_ok] at ran
  obtain ⟨-, -, -, -, _, -, ran⟩ := ran
  split at ran
  · simp only [steps_ok] at ran
    obtain ⟨_, -, -, rfl⟩ := ran
    exact sound
  · simp only [steps_ok] at ran
    obtain ⟨_, _, applies, _, -, -, rfl⟩ := ran
    exact applyChanges_ok sound applies

/-! ## Refreshing and executing -/

theorem EpochsSound.elsewhere (sound : EpochsSound python rows) (rfcs : List Rfc)
    (hierarchyEdges : List RfcHierarchyEdge) (customerLifecycle : String → Option String)
    (commandReceipts : List String) :
    EpochsSound python
      { rows with rfcs, hierarchyEdges, customerLifecycle, commandReceipts } :=
  ⟨sound.rfcIds, sound.terminal, sound.proposalIds, sound.current, sound.single, sound.rfcOwners,
    sound.wfmOwners, sound.scopes⟩

theorem insertReceipt_ok (ran : (insertReceipt commandId).run rows = .ok (value, next)) :
    next = { rows with commandReceipts := rows.commandReceipts ++ [commandId] } := by
  simp only [insertReceipt, steps_ok] at ran
  obtain ⟨-, rfl⟩ := ran
  rfl

theorem refreshPending_keeps (capture : WfmCapture) (newUuid4 : Uuid4)
    (commandId proposalId : String) (revision : Int) :
    Keeps (EpochsSound python)
      (refreshPending python capture newUuid4 commandId proposalId revision) := by
  intro rows next result sound ran
  simp only [refreshPending, steps_ok] at ran
  obtain ⟨-, prior, -, -, _, -, scope, captured, ran⟩ := ran
  split at ran
  · simp only [steps_ok] at ran
    obtain ⟨_, receipt, -, rfl⟩ := ran
    rw [insertReceipt_ok receipt]
    exact sound.elsewhere _ _ _ _
  · simp only [steps_ok] at ran
    obtain ⟨_, receipt, closed, closes, _, inserts, -, rfl⟩ := ran
    obtain ⟨_, -, -, replaced, tables⟩ := closePending_ok closes
    obtain rfl := insertReceipt_ok receipt
    have soundClosed : EpochsSound python closed := by
      rw [tables]
      exact (sound.elsewhere _ _ _ _).close (by decide) replaced
    have capturedClosed : Captured python closed prior.triggerRfcId prior.terminalEpochId scope := by
      rw [tables]
      exact { captureScope_ok captured with }
    exact soundClosed.insert capturedClosed inserts

theorem executePending_keeps (call : CascadeExecutionCall) :
    Keeps (EpochsSound python) (executePending python call) := by
  intro rows next result sound ran
  simp only [executePending, applyParticipant, steps_ok] at ran
  obtain ⟨_, -, _, receipt, _, ⟨-, _, -, -, rfl⟩, _, ⟨-, _, -, -, rfl⟩, _, closes, -, rfl⟩ := ran
  obtain rfl := insertReceipt_ok receipt
  obtain ⟨_, -, -, replaced, tables⟩ := closePending_ok closes
  rw [tables]
  exact (sound.elsewhere _ _ _ _).close (by decide) replaced

/-! ## Runs -/

/-- One step of a run: a transaction of one of the three commands on any RFC, or
whatever other commands do to the tables these only read. -/
inductive CascadeStep (python : PythonLibrary) : CascadeRows → CascadeRows → Prop where
  | elsewhere (rows : CascadeRows) (rfcs : List Rfc) (hierarchyEdges : List RfcHierarchyEdge)
      (customerLifecycle : String → Option String) (commandReceipts : List String) :
      CascadeStep python rows { rows with rfcs, hierarchyEdges, customerLifecycle, commandReceipts }
  | apply (rows : CascadeRows) (call : RfcSourceCall) :
      CascadeStep python rows (commit (applyRfcFieldDeltas python call) rows).2
  | refresh (rows : CascadeRows) (capture : WfmCapture) (newUuid4 : Uuid4)
      (commandId proposalId : String) (revision : Int) :
      CascadeStep python rows
        (commit (refreshPending python capture newUuid4 commandId proposalId revision) rows).2
  | execute (rows : CascadeRows) (call : CascadeExecutionCall) :
      CascadeStep python rows (commit (executePending python call) rows).2

/-- No status has been accepted yet. -/
structure BeforeAnyStatus (rows : CascadeRows) : Prop where
  projections : rows.projections = []
  proposals : rows.proposals = []
  rfcMembers : rows.rfcMembers = []
  wfmMembers : rows.wfmMembers = []

theorem reachable_epochs_sound (reached : Reachable BeforeAnyStatus (CascadeStep python) rows) :
    EpochsSound python rows := by
  refine reached.invariant (EpochsSound python) ?_ ?_
  · rintro rows ⟨projections, proposals, rfcMembers, wfmMembers⟩
    constructor <;> simp [projections, proposals, rfcMembers, wfmMembers]
  · rintro _ _ sound (_ | call | _ | call)
    · exact sound.elsewhere _ _ _ _
    · exact Transaction.commit_keeps (applyRfcFieldDeltas_keeps call) sound
    · exact Transaction.commit_keeps (refreshPending_keeps _ _ _ _ _) sound
    · exact Transaction.commit_keeps (executePending_keeps call) sound

/-- The RFC members persisted for a proposal, in the order they are read back. -/
def CascadeRows.persistedRfcMembers (rows : CascadeRows) (proposalId : String) :
    List RfcTerminalCascadeRfcMember :=
  (orderedMemberRows (·.rfcId) rows.rfcMembers proposalId).map (·.member)

def CascadeRows.persistedWfmMembers (rows : CascadeRows) (proposalId : String) :
    List RfcTerminalCascadeWfmMember :=
  (orderedMemberRows (·.taskId) rows.wfmMembers proposalId).map (·.member)

/-- What holds of the terminal epoch and the cascade proposals of an RFC. -/
structure TerminalEpochHolds (python : PythonLibrary) (rows : CascadeRows) (rfcId : String) :
    Prop where
  epoch_iff_terminal : ∀ projection, rows.projection? rfcId = some projection →
    (projection.terminalEpochId.isSome ↔ projection.statusClass.isTerminal)
  one_pending : rows.proposals.countP (fun proposal =>
    proposal.triggerRfcId = rfcId ∧ proposal.proposalState = .pending) ≤ 1
  pending_epoch : ∀ proposal ∈ rows.proposals, proposal.triggerRfcId = rfcId →
    proposal.proposalState = .pending →
      (rows.projection? rfcId).bind (·.terminalEpochId) = some proposal.terminalEpochId
  none_unless_terminal : (∀ projection, rows.projection? rfcId = some projection →
      projection.statusClass.isTerminal = false) →
    ∀ proposal ∈ rows.proposals, proposal.triggerRfcId = rfcId → proposal.proposalState ≠ .pending
  scope_fingerprint : ∀ proposal ∈ rows.proposals, proposal.triggerRfcId = rfcId →
    proposal.proposalState = .pending →
      terminalCascadeScopeFingerprint python rfcId proposal.terminalEpochId
        proposal.terminalStatusClass proposal.terminalStatusEvidenceId proposal.scopeKind
        (rows.persistedRfcMembers proposal.proposalId)
        (rows.persistedWfmMembers proposal.proposalId) = .ok proposal.scopeFingerprint
  member_count : ∀ state, loadPending rows rfcId = .ok state →
    1 ≤ state.capturedRfcCount ∧
      state.capturedRfcCount = (rows.persistedRfcMembers state.proposalId).length ∧
      state.capturedWfmCount = (rows.persistedWfmMembers state.proposalId).length ∧
      terminalCascadeScopeFingerprint python rfcId state.terminalEpochId state.terminalStatusClass
        state.terminalStatusEvidenceId state.scopeKind (rows.persistedRfcMembers state.proposalId)
        (rows.persistedWfmMembers state.proposalId) = .ok state.scopeFingerprint

/-- What a recorded scope makes of the persisted members. -/
theorem ScopeRecorded.persisted (scope : ScopeRecorded python rows proposal) :
    terminalCascadeScopeFingerprint python proposal.triggerRfcId proposal.terminalEpochId
        proposal.terminalStatusClass proposal.terminalStatusEvidenceId proposal.scopeKind
        (rows.persistedRfcMembers proposal.proposalId)
        (rows.persistedWfmMembers proposal.proposalId) = .ok proposal.scopeFingerprint ∧
      1 ≤ (proposalState rows proposal).capturedRfcCount ∧
      (proposalState rows proposal).capturedRfcCount =
        (rows.persistedRfcMembers proposal.proposalId).length ∧
      (proposalState rows proposal).capturedWfmCount =
        (rows.persistedWfmMembers proposal.proposalId).length := by
  obtain ⟨rfcMembers, wfmMembers, rfcs, wfms, first, fingerprint⟩ := scope
  have rfcsRead : rows.persistedRfcMembers proposal.proposalId = rfcMembers := by
    rw [CascadeRows.persistedRfcMembers, orderedMemberRows_recorded rfcs, map_member_recorded]
  have wfmsRead : rows.persistedWfmMembers proposal.proposalId = wfmMembers := by
    rw [CascadeRows.persistedWfmMembers, orderedMemberRows_recorded wfms, map_member_recorded]
  have rfcCount : (proposalState rows proposal).capturedRfcCount = rfcMembers.length := by
    have counted := congrArg List.length rfcs
    rwa [memberRows, ← List.countP_eq_length_filter, length_recorded] at counted
  have wfmCount : (proposalState rows proposal).capturedWfmCount = wfmMembers.length := by
    have counted := congrArg List.length wfms
    rwa [memberRows, ← List.countP_eq_length_filter, length_recorded] at counted
  rw [rfcsRead, wfmsRead, rfcCount, wfmCount]
  refine ⟨fingerprint, ?_, rfl, rfl⟩
  cases rfcMembers with
  | nil => cases first
  | cons member rest => simp

/-- In every reachable state and for every RFC: its terminal epoch is set when
its accepted status is terminal and only then, it has at most one pending cascade
proposal, which is of that epoch, it has none while its status is not terminal,
and the fingerprint and counts of a pending proposal are those of its members. -/
theorem terminal_epochs_hold (reached : Reachable BeforeAnyStatus (CascadeStep python) rows)
    (rfcId : String) : TerminalEpochHolds python rows rfcId := by
  have sound := reachable_epochs_sound reached
  constructor
  case epoch_iff_terminal =>
    intro projection found
    rw [sound.terminal projection (mem_of_projection? found).1]
  case one_pending =>
    refine countP_le_one sound.proposalIds fun proposal inside other otherInside hit otherHit => ?_
    simp only [decide_eq_true_eq] at hit otherHit
    exact sound.single proposal inside other otherInside hit.2 otherHit.2
      (hit.1.trans otherHit.1.symm)
  case pending_epoch =>
    intro proposal inside triggered pending
    obtain ⟨projection, held, own, epoch⟩ := sound.current proposal inside pending
    rw [← triggered, ← own, projection?_eq_some sound.rfcIds held, Option.bind_some, epoch]
  case none_unless_terminal =>
    intro lasting proposal inside triggered
    refine sound.none_pending (sound.no_epoch ?_) inside triggered
    cases found : rows.projection? rfcId with
    | none => rfl
    | some projection => exact lasting projection found
  case scope_fingerprint =>
    intro proposal inside triggered _
    rw [← triggered]
    exact (sound.scopes proposal inside).persisted.1
  case member_count =>
    intro state loaded
    simp only [loadPending, except_ok] at loaded
    obtain ⟨-, -, loaded⟩ := loaded
    split at loaded
    · cases loaded
    · rename_i proposal found
      cases loaded
      have hit := List.find?_some found
      simp only [decide_eq_true_eq] at hit
      obtain ⟨fingerprint, some, rfcs, wfms⟩ :=
        (sound.scopes proposal (List.mem_of_find?_eq_some found)).persisted
      rw [hit.1] at fingerprint
      exact ⟨some, rfcs, wfms, fingerprint⟩

/-! ## An RFC closed, reopened and closed again -/

def closingRfc : Uuid4 := ⟨"3f2b8c1e-9d4a-4c7f-8a6b-0123456789a0", by decide⟩
def firstEpoch : Uuid4 := ⟨"3f2b8c1e-9d4a-4c7f-8a6b-0123456789a1", by decide⟩
def firstProposal : Uuid4 := ⟨"3f2b8c1e-9d4a-4c7f-8a6b-0123456789a2", by decide⟩
def secondEpoch : Uuid4 := ⟨"3f2b8c1e-9d4a-4c7f-8a6b-0123456789a3", by decide⟩
def secondProposal : Uuid4 := ⟨"3f2b8c1e-9d4a-4c7f-8a6b-0123456789a4", by decide⟩

def constantDigest : PythonLibrary where
  jsonLoads := fun _ => none
  sha256Hex := fun _ => String.ofList (List.replicate 64 'a')

/-- One active RFC without a Customer, and the receipt of the outer command. -/
def oneRfc : CascadeRows where
  rfcs := [⟨closingRfc.value, none, .active, 1⟩]
  hierarchyEdges := []
  customerLifecycle := fun _ => none
  commandReceipts := ["outer"]
  projections := []
  proposals := []
  rfcMembers := []
  wfmMembers := []

def statusCall (status : String) (statusClass : RfcStatusClass) (epoch proposal : Uuid4) :
    RfcSourceCall where
  rfcId := closingRfc.value
  acceptedCommandId := "outer"
  deltas := [⟨"status", .controlled, .text status, "evidence", some statusClass,
    some .enhancedRfc⟩]
  reviewFingerprint := some (String.ofList (List.replicate 64 'b'))
  newUuid4 := fun drawn => if drawn = 0 then epoch else proposal
  validateAcceptedDelta := fun _ => .ok "VALID"
  terminalCapture := some fun _ => .ok []

/-- The tables after the RFC is closed, reopened and closed again. -/
def closedAgain : CascadeRows :=
  let closed := (commit (applyRfcFieldDeltas constantDigest
    (statusCall "Closed" .terminalClosed firstEpoch firstProposal)) oneRfc).2
  let reopened := (commit (applyRfcFieldDeltas constantDigest
    (statusCall "Implement" .implementEligible firstEpoch firstProposal)) closed).2
  (commit (applyRfcFieldDeltas constantDigest
    (statusCall "Closed" .terminalClosed secondEpoch secondProposal)) reopened).2

/-- The second closing captures a second proposal, and the first stays superseded. -/
theorem second_epoch_has_own_proposal : (closedAgain.proposals.map fun proposal =>
      (proposal.proposalId, proposal.terminalEpochId, proposal.proposalState)) =
        [(firstProposal.value, firstEpoch.value, .superseded),
          (secondProposal.value, secondEpoch.value, .pending)] ∧
      TerminalEpochHolds constantDigest closedAgain closingRfc.value := by
  have start : Reachable BeforeAnyStatus (CascadeStep constantDigest) oneRfc :=
    .start ⟨rfl, rfl, rfl, rfl⟩
  have reached : Reachable BeforeAnyStatus (CascadeStep constantDigest) closedAgain :=
    ((start.step (.apply _ _)).step (.apply _ _)).step (.apply _ _)
  exact ⟨by decide +kernel, terminal_epochs_hold reached closingRfc.value⟩

end Soma.Tickets
