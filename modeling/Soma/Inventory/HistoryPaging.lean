import Soma.Inventory.Tables
import Soma.Theory.KeysetPages
import Mathlib.Data.List.Induction
import Mathlib.Data.Prod.Lex
import Mathlib.Data.String.Basic

/-!
The history of an Inventory entity: the union of the tables that mention it, read in pages
by time descending, authority ascending, id descending.  A logistics event is joined with
its participants, open and closed, so a correction that names an entity the event already
has shows the event twice under one key (`HistoryWrite.NamesAnew`).
-/

namespace Soma.Inventory

open Foundation Keyset

/-! ## Tables -/

inductive HistoryKind where
  | devicePartUnit
  | spareNeed
  | spareRequest
  | rma
  | sparePartUnit
  | physicalConsequence
  | faultTag
  | faultTagMembership

structure HistoryTarget where
  kind : HistoryKind
  id : String

inductive HistoryTable where
  | devicePartLifecycleEvents
  | spareNeedLifecycleEvents
  | taskUnitAllocationEvents
  | localNeedFulfillmentEvents
  | spareRequestLifecycleEvents
  | spareRequestIdentifierEvents
  | rmaIdentifierEvents
  | rmaAssignmentEvents
  | rmaReturnSelectionEvents
  | sparePartLifecycleEvents
  | physicalConsequenceEvents
  | faultTagLifecycleEvents
  | faultTagMembershipEvents
  | actualLogisticsEvents
  | spareNeedContributors
  | rmaAuthorizationBatches
  | rmaDirectInboundUnits
  | faultTagLineage
  | auditEvents
  | inventoryProposalTargets
  deriving DecidableEq

/-- A row of one of the tables, with the columns the history reads. `named` is its
reference to an entity of a kind: for a lineage row the predecessor tag, for an audit
event its target. The time of a direct inbound row is that of its command's receipt, of
a proposal target that of its proposal. -/
structure LoggedRow where
  table : HistoryTable
  id : Uuid4
  recordedAtUtc : Nat
  eventKind : String
  commandId : Option String
  evidence : Option (String × Option String)
  named : HistoryKind → Option String
  successorFaultTagId : Option String := none
  /-- When and by which command a contributor was closed. -/
  closed : Option (Nat × Option String) := none

inductive ParticipantKind where
  | rma
  | sparePartUnit
  | devicePartUnit
  deriving DecidableEq

/-- A row of the participant table of its kind. -/
structure LogisticsParticipant where
  participantId : String
  logisticsEventId : String
  kind : ParticipantKind
  entityId : String
  active : Bool

structure HistoryMembership where
  faultTagMembershipId : String
  faultTagId : String
  rmaId : String

structure HistoryTables where
  logged : List LoggedRow := []
  participants : List LogisticsParticipant := []
  memberships : List HistoryMembership := []

/-! ## The query -/

structure HistoryRow where
  recordedAtUtc : Nat
  authorityKind : String
  immutableId : String
  eventKind : String
  commandId : Option String
  sourceRef : Option (String × Option String)

/-- One SELECT of the union: its table, how often WHERE and JOIN let a row through, and
what it shows of it. -/
structure HistoryBranch where
  table : HistoryTable
  copies : LoggedRow → Nat
  authorityKind : String := "relationship_change"
  suffix : String := ""
  recordedAtUtc : LoggedRow → Nat := LoggedRow.recordedAtUtc
  eventKind : LoggedRow → String := LoggedRow.eventKind
  commandId : LoggedRow → Option String := LoggedRow.commandId
  /-- Whether the evidence columns are shown, or NULL in their place. -/
  sourced : Bool := true

def HistoryBranch.shown (branch : HistoryBranch) (row : LoggedRow) : HistoryRow where
  recordedAtUtc := branch.recordedAtUtc row
  authorityKind := branch.authorityKind
  immutableId := row.id.value ++ branch.suffix
  eventKind := branch.eventKind row
  commandId := branch.commandId row
  sourceRef := if branch.sourced then row.evidence else none

def HistoryBranch.rows (branch : HistoryBranch) (logged : List LoggedRow) : List HistoryRow :=
  (logged.filter (·.table = branch.table)).flatMap fun row =>
    List.replicate (branch.copies row) (branch.shown row)

def naming (target : HistoryTarget) (row : LoggedRow) : Nat :=
  if row.named target.kind = some target.id then 1 else 0

/-- `_HISTORY_EVENT_SPECS`: the table, its authority, and whether its evidence is shown. -/
def historyEventSpecs : HistoryKind → List (HistoryTable × String × Bool)
  | .devicePartUnit => [(.devicePartLifecycleEvents, "domain_lifecycle_event", true)]
  | .spareNeed =>
    [(.spareNeedLifecycleEvents, "domain_lifecycle_event", false),
      (.taskUnitAllocationEvents, "relationship_change", false),
      (.localNeedFulfillmentEvents, "relationship_change", false)]
  | .spareRequest =>
    [(.spareRequestLifecycleEvents, "domain_lifecycle_event", true),
      (.spareRequestIdentifierEvents, "relationship_change", false)]
  | .rma =>
    [(.rmaIdentifierEvents, "relationship_change", false),
      (.rmaAssignmentEvents, "relationship_change", false),
      (.rmaReturnSelectionEvents, "relationship_change", false)]
  | .sparePartUnit =>
    [(.sparePartLifecycleEvents, "domain_lifecycle_event", true),
      (.taskUnitAllocationEvents, "relationship_change", false),
      (.localNeedFulfillmentEvents, "relationship_change", false)]
  | .physicalConsequence => [(.physicalConsequenceEvents, "domain_lifecycle_event", false)]
  | .faultTag => [(.faultTagLifecycleEvents, "domain_lifecycle_event", true)]
  | .faultTagMembership => [(.faultTagMembershipEvents, "domain_lifecycle_event", true)]

section Branches

variable (tables : HistoryTables)

def participation (kind : ParticipantKind) (id : String) : HistoryBranch where
  table := .actualLogisticsEvents
  copies row := tables.participants.countP fun participant =>
    participant.logisticsEventId = row.id.value ∧ participant.kind = kind ∧
      participant.entityId = id

def membershipEvents (related : HistoryMembership → Bool) : HistoryBranch where
  table := .faultTagMembershipEvents
  copies row := tables.memberships.countP fun membership =>
    row.named .faultTagMembership = some membership.faultTagMembershipId ∧ related membership

/-- The entries of `custom`. -/
def customBranches : HistoryTarget → List HistoryBranch
  | ⟨.devicePartUnit, id⟩ => [participation tables .devicePartUnit id]
  | ⟨.spareNeed, id⟩ =>
    [{ table := .spareNeedContributors, copies := naming ⟨.spareNeed, id⟩, suffix := ":opened",
        eventKind := fun _ => "contributor_opened", sourced := false },
      { table := .spareNeedContributors, suffix := ":closed",
        copies := fun row => if row.closed = none then 0 else naming ⟨.spareNeed, id⟩ row,
        recordedAtUtc := fun row => (row.closed.map Prod.fst).getD 0,
        commandId := fun row => row.closed.bind Prod.snd,
        eventKind := fun _ => "contributor_closed", sourced := false }]
  | ⟨.spareRequest, id⟩ =>
    [{ table := .rmaAuthorizationBatches, copies := naming ⟨.spareRequest, id⟩,
        eventKind := fun _ => "rma_authorization_batch" }]
  | ⟨.rma, id⟩ =>
    [{ table := .rmaDirectInboundUnits, copies := naming ⟨.rma, id⟩,
        eventKind := fun _ => "direct_inbound_unit", sourced := false },
      participation tables .rma id,
      membershipEvents tables (·.rmaId = id)]
  | ⟨.sparePartUnit, id⟩ => [participation tables .sparePartUnit id]
  | ⟨.physicalConsequence, id⟩ =>
    [{ table := .rmaReturnSelectionEvents, copies := naming ⟨.physicalConsequence, id⟩,
        sourced := false }]
  | ⟨.faultTag, id⟩ =>
    [membershipEvents tables (·.faultTagId = id),
      { table := .faultTagLineage, sourced := false,
        copies := fun row =>
          if row.named .faultTag = some id ∨ row.successorFaultTagId = some id then 1 else 0 }]
  | ⟨.faultTagMembership, _⟩ => []

/-- `proposal_column`: the kinds a proposal can target. -/
def HistoryKind.proposed : HistoryKind → Bool
  | .spareRequest | .rma | .sparePartUnit | .faultTag | .faultTagMembership => true
  | _ => false

def historyBranches (target : HistoryTarget) : List HistoryBranch :=
  (historyEventSpecs target.kind).map (fun (table, authority, sourced) =>
      { table, copies := naming target, authorityKind := authority, sourced }) ++
    customBranches tables target ++
    [{ table := .auditEvents, copies := naming target,
        authorityKind := "application_audit_reference", sourced := false }] ++
    if target.kind.proposed then
      [{ table := .inventoryProposalTargets, copies := naming target,
          authorityKind := "source_proposal_reference" }]
    else []

/-- The UNION ALL of the branches. -/
def historyRows (target : HistoryTarget) : List HistoryRow :=
  (historyBranches tables target).flatMap fun branch => branch.rows tables.logged

/-- Time descending, authority ascending, id descending. -/
abbrev HistoryKey := Lex (OrderDual Nat × Lex (String × OrderDual String))

def HistoryRow.key (row : HistoryRow) : HistoryKey :=
  toLex (OrderDual.toDual row.recordedAtUtc,
    toLex (row.authorityKind, OrderDual.toDual row.immutableId))

/-- `history`. The cursor is a key of this target: its filter fingerprint names it. -/
def history (target : HistoryTarget) (cursor : Option HistoryKey) (limit : Nat) :
    Except Raised (Page HistoryRow HistoryKey) := do
  ensure (1 ≤ limit ∧ limit ≤ 500) (validationError "limit must be in 1..500")
  return page HistoryRow.key (historyRows tables target) limit cursor

theorem history_page (low : 1 ≤ limit) (high : limit ≤ 500) :
    history tables target cursor limit =
      .ok (page HistoryRow.key (historyRows tables target) limit cursor) := by
  simp [history, ensure, low, high]

/-- Every limit's pages end, and show every row of every target once, in order. -/
def HistoryExact : Prop :=
  ∀ (target : HistoryTarget) (limit : Nat), 1 ≤ limit → limit ≤ 500 →
    ∃ visited, Walk HistoryRow.key (historyRows tables target) limit none visited ∧
      visited.Perm (historyRows tables target) ∧
      visited.Pairwise fun first second => first.key ≤ second.key

end Branches

/-! ## Writes -/

/-- The writes of inventory commands to these tables, and the audit and proposal rows
beside them. -/
inductive HistoryWrite where
  | log (row : LoggedRow)
  /-- A contributor is closed, or a proposal's last command set. -/
  | revise (row : LoggedRow)
  | recordLogisticsEvent (row : LoggedRow) (participants : List (ParticipantKind × String))
      (participantIds : ParticipantKind × String → String)
  | correctParticipant (participantId : String) (replacement : Option (ParticipantKind × String))
      (replacementParticipantId : String)
  | addMembership (membership : HistoryMembership)
  /-- Hard deletion of a draft, which never names a logistics event. -/
  | deleteDraft (rowIds membershipIds : List String)

/-- Inserts a participant row, active. -/
def openParticipant (eventId : String) (identity : ParticipantKind × String)
    (participantId : String) : LogisticsParticipant where
  participantId
  logisticsEventId := eventId
  kind := identity.1
  entityId := identity.2
  active := true

/-- `validate_logistics_participants` and `record_actual_logistics_event`. The entities
themselves are in tables the history does not read. -/
def recordActualLogisticsEvent (tables : HistoryTables) (row : LoggedRow)
    (participants : List (ParticipantKind × String))
    (participantIds : ParticipantKind × String → String) : Except Raised HistoryTables := do
  ensure (participants ≠ [])
    (validationError "actual logistics event requires one-or-more participants")
  ensure (participants.length ≤ 2000)
    (validationError "actual logistics participant hard limit exceeded")
  ensure participants.Nodup (validationError "actual logistics participants contain duplicates")
  return { tables with
    logged := { row with table := .actualLogisticsEvents } :: tables.logged
    participants := tables.participants ++ participants.map fun identity =>
      openParticipant row.id.value identity (participantIds identity) }

/-- `locate_participant`, over the three participant tables. -/
def locateParticipant (tables : HistoryTables) (participantId : String) :
    Except Raised LogisticsParticipant :=
  match tables.participants.filter (·.participantId = participantId) with
  | [participant] => return participant
  | _ => throw (inventoryError "CORRECTION_TARGET_INVALID"
      "Logistics participant identity is missing or ambiguous")

def correctLogisticsParticipant (tables : HistoryTables) (participantId : String)
    (replacement : Option (ParticipantKind × String)) (replacementParticipantId : String) :
    Except Raised HistoryTables := do
  let located ← locateParticipant tables participantId
  ensure (located.active = true)
    (inventoryError "CORRECTION_TARGET_INVALID" "Logistics participant is not active")
  let closed := tables.participants.map fun participant =>
    if participant.participantId = participantId then { participant with active := false }
    else participant
  return { tables with
    participants := closed ++ replacement.toList.map fun identity =>
      openParticipant located.logisticsEventId identity replacementParticipantId }

/-- What a write leaves; one that is refused leaves the tables as they were. -/
def HistoryTables.apply (tables : HistoryTables) : HistoryWrite → HistoryTables
  | .log row => { tables with logged := row :: tables.logged }
  | .revise row => { tables with
      logged := tables.logged.map fun old =>
        if old.id.value = row.id.value then { row with table := old.table, id := old.id } else old }
  | .recordLogisticsEvent row participants participantIds =>
    (recordActualLogisticsEvent tables row participants participantIds).toOption.getD tables
  | .correctParticipant participantId replacement replacementParticipantId =>
    (correctLogisticsParticipant tables participantId replacement
      replacementParticipantId).toOption.getD tables
  | .addMembership membership =>
    -- the primary key of `fault_tag_memberships`
    if membership.faultTagMembershipId ∈ tables.memberships.map (·.faultTagMembershipId) then
      tables
    else { tables with memberships := membership :: tables.memberships }
  | .deleteDraft rowIds membershipIds => { tables with
      logged := tables.logged.filter fun row =>
        row.table = .actualLogisticsEvents ∨ row.id.value ∉ rowIds
      memberships := tables.memberships.filter (·.faultTagMembershipId ∉ membershipIds) }

def HistoryTables.run (tables : HistoryTables) (writes : List HistoryWrite) : HistoryTables :=
  writes.foldl HistoryTables.apply tables

/-- The row ids a write draws with `new_uuid4`. -/
def HistoryWrite.drawn : HistoryWrite → List String
  | .log row | .recordLogisticsEvent row _ _ => [row.id.value]
  | _ => []

/-- A correction that goes through names no entity its event has a participant row for,
active or closed. -/
def HistoryWrite.NamesAnew (tables : HistoryTables) : HistoryWrite → Prop
  | .correctParticipant participantId (some identity) _ =>
    ∀ located, locateParticipant tables participantId = .ok located → located.active = true →
      ∀ participant ∈ tables.participants,
        participant.logisticsEventId = located.logisticsEventId →
          (participant.kind, participant.entityId) ≠ identity
  | _ => True

/-! ## Keys -/

/-- What every state of the tables has: row ids drawn once, the primary key of the
memberships, and the foreign key of the participants. -/
structure HistoryTables.Kept (tables : HistoryTables) : Prop where
  ids : (tables.logged.map (·.id.value)).Nodup
  memberships : (tables.memberships.map (·.faultTagMembershipId)).Nodup
  events : ∀ participant ∈ tables.participants, ∃ row ∈ tables.logged,
    row.table = .actualLogisticsEvents ∧ row.id.value = participant.logisticsEventId

def LogisticsParticipant.place (participant : LogisticsParticipant) :
    String × ParticipantKind × String :=
  (participant.logisticsEventId, participant.kind, participant.entityId)

/-- No event has two participant rows for one entity. -/
def HistoryTables.Single (tables : HistoryTables) : Prop :=
  (tables.participants.map LogisticsParticipant.place).Nodup

section Keys

variable {tables : HistoryTables} {target : HistoryTarget}

theorem uuid4_length (id : Uuid4) : id.value.length = 36 := by
  have canonical := id.canonical
  simp only [isUuid4, Bool.and_eq_true, decide_eq_true_eq] at canonical
  rw [← String.length_toList]
  exact canonical.1

/-- Ids of one length: a suffix can be told from the id before it. -/
theorem suffixed_inj {first second : Uuid4} (same : first.value ++ suffix = second.value ++ other) :
    first.value = second.value ∧ suffix = other := by
  have characters := congrArg String.toList same
  rw [String.toList_append, String.toList_append] at characters
  have lengths : first.value.toList.length = second.value.toList.length := by
    rw [String.length_toList, String.length_toList, uuid4_length, uuid4_length]
  obtain ⟨ids, suffixes⟩ := List.append_inj characters lengths
  exact ⟨String.toList_inj.mp ids, String.toList_inj.mp suffixes⟩

theorem branches_apart : (historyBranches tables target).Pairwise fun first second =>
    (first.table, first.suffix) ≠ (second.table, second.suffix) := by
  obtain ⟨kind, _⟩ := target
  cases kind <;>
    simp [historyBranches, historyEventSpecs, customBranches, participation, membershipEvents,
      HistoryKind.proposed]

theorem naming_le (row : LoggedRow) : naming target row ≤ 1 := by
  rw [naming]
  split <;> omega

theorem participation_copies (kind : ParticipantKind) (id : String) (row : LoggedRow) :
    (participation tables kind id).copies row =
      (tables.participants.map LogisticsParticipant.place).count (row.id.value, kind, id) := by
  rw [List.count, List.countP_map]
  refine List.countP_congr fun participant _ => ?_
  simp [LogisticsParticipant.place]

theorem participation_le (single : tables.Single) (kind : ParticipantKind) (id : String)
    (row : LoggedRow) : (participation tables kind id).copies row ≤ 1 := by
  rw [participation_copies]
  exact List.nodup_iff_count_le_one.mp single _

theorem membershipEvents_le (kept : tables.Kept) (related : HistoryMembership → Bool)
    (row : LoggedRow) : (membershipEvents tables related).copies row ≤ 1 := by
  rcases named : row.named .faultTagMembership with - | membershipId
  · simp [membershipEvents, named]
  · have once := List.nodup_iff_count_le_one.mp kept.memberships membershipId
    rw [List.count, List.countP_map] at once
    refine le_trans (List.countP_mono_left fun membership _ found => ?_) once
    simp only [named, Option.some.injEq, decide_eq_true_eq] at found
    simp [found.1]

/-- Every SELECT of the union shows a row at most once. -/
theorem copies_le (kept : tables.Kept) (single : tables.Single)
    (present : branch ∈ historyBranches tables target) (row : LoggedRow) :
    branch.copies row ≤ 1 := by
  rw [historyBranches, List.mem_append, List.mem_append, List.mem_append, List.mem_map] at present
  rcases present with ((⟨spec, -, rfl⟩ | custom) | audit) | proposal
  · exact naming_le row
  · obtain ⟨kind, id⟩ := target
    cases kind with
    | devicePartUnit =>
      obtain rfl := List.mem_singleton.mp custom
      exact participation_le single .devicePartUnit id row
    | spareNeed =>
      simp only [customBranches, List.mem_cons, List.not_mem_nil, or_false] at custom
      rcases custom with rfl | rfl
      · exact naming_le row
      · dsimp only
        split
        · omega
        · exact naming_le row
    | spareRequest =>
      obtain rfl := List.mem_singleton.mp custom
      exact naming_le row
    | rma =>
      simp only [customBranches, List.mem_cons, List.not_mem_nil, or_false] at custom
      rcases custom with rfl | rfl | rfl
      · exact naming_le row
      · exact participation_le single .rma id row
      · exact membershipEvents_le kept _ row
    | sparePartUnit =>
      obtain rfl := List.mem_singleton.mp custom
      exact participation_le single .sparePartUnit id row
    | physicalConsequence =>
      obtain rfl := List.mem_singleton.mp custom
      exact naming_le row
    | faultTag =>
      simp only [customBranches, List.mem_cons, List.not_mem_nil, or_false] at custom
      rcases custom with rfl | rfl
      · exact membershipEvents_le kept _ row
      · dsimp only
        split <;> omega
    | faultTagMembership => cases custom
  · obtain rfl := List.mem_singleton.mp audit
    exact naming_le row
  · split at proposal
    · obtain rfl := List.mem_singleton.mp proposal
      exact naming_le row
    · cases proposal

theorem mem_branch_rows {branch : HistoryBranch} (present : shown ∈ branch.rows tables.logged) :
    ∃ row ∈ tables.logged, row.table = branch.table ∧ shown = branch.shown row := by
  simp only [HistoryBranch.rows, List.mem_flatMap, List.mem_filter, decide_eq_true_eq,
    List.mem_replicate] at present
  obtain ⟨row, ⟨inside, table⟩, -, rfl⟩ := present
  exact ⟨row, inside, table, rfl⟩

theorem HistoryTables.Kept.row_eq (kept : tables.Kept) (inFirst : first ∈ tables.logged)
    (inSecond : second ∈ tables.logged) (same : first.id.value = second.id.value) :
    first = second :=
  List.inj_on_of_nodup_map kept.ids inFirst inSecond same

/-- Rows shown at most once have ids of their own over the whole union. -/
theorem ids_apart (kept : tables.Kept) (single : tables.Single) :
    ((historyRows tables target).map (·.immutableId)).Nodup := by
  rw [historyRows, List.map_flatMap, List.nodup_flatMap]
  constructor
  · intro branch present
    rw [HistoryBranch.rows, List.map_flatMap, List.nodup_flatMap]
    constructor
    · intro row _
      rw [List.map_replicate, List.nodup_replicate]
      exact copies_le kept single present row
    · refine ((List.pairwise_map.mp kept.ids).filter _).imp fun {first second} differ => ?_
      change List.Disjoint _ _
      rw [List.disjoint_left]
      intro id inFirst inSecond
      simp only [List.map_replicate, List.mem_replicate] at inFirst inSecond
      exact differ (suffixed_inj (inFirst.2.symm.trans inSecond.2)).1
  · refine branches_apart.imp fun {first second} apart => ?_
    change List.Disjoint _ _
    rw [List.disjoint_left]
    intro id inFirst inSecond
    obtain ⟨_, shownFirst, rfl⟩ := List.mem_map.mp inFirst
    obtain ⟨_, shownSecond, same⟩ := List.mem_map.mp inSecond
    obtain ⟨row, inside, table, rfl⟩ := mem_branch_rows shownFirst
    obtain ⟨_, otherInside, otherTable, rfl⟩ := mem_branch_rows shownSecond
    obtain ⟨ids, suffixes⟩ := suffixed_inj same
    obtain rfl := kept.row_eq otherInside inside ids
    exact apart (Prod.ext (table.symm.trans otherTable) suffixes.symm)

theorem exact_of_single (kept : tables.Kept) (single : tables.Single) : HistoryExact tables := by
  intro target limit low _
  have apart : ((historyRows tables target).map HistoryRow.key).Nodup := by
    have ids : ((historyRows tables target).map (·.immutableId)).Nodup := ids_apart kept single
    have read : (historyRows tables target).map (·.immutableId) =
        ((historyRows tables target).map HistoryRow.key).map fun key =>
          OrderDual.ofDual (ofLex (ofLex key).2).2 := by
      rw [List.map_map]
      rfl
    rw [read] at ids
    exact ids.of_map
  exact ⟨inOrder HistoryRow.key (historyRows tables target), walk_inOrder apart low, inOrder_perm,
    (inOrder_increasing apart).imp le_of_lt⟩

def ParticipantKind.history : ParticipantKind → HistoryKind
  | .rma => .rma
  | .sparePartUnit => .sparePartUnit
  | .devicePartUnit => .devicePartUnit

theorem participation_mem (kind : ParticipantKind) (id : String) :
    participation tables kind id ∈ historyBranches tables ⟨kind.history, id⟩ := by
  cases kind <;> simp [historyBranches, customBranches, ParticipantKind.history]

/-- Pages of one row show an event once only, so it is joined once only. -/
theorem single_of_exact (kept : tables.Kept) (exact : HistoryExact tables) : tables.Single := by
  rw [HistoryTables.Single, List.nodup_iff_count_le_one]
  rintro ⟨event, kind, entity⟩
  by_contra twice
  have some : (event, kind, entity) ∈ tables.participants.map LogisticsParticipant.place :=
    List.count_pos_iff.mp (by omega)
  obtain ⟨participant, joined, place⟩ := List.mem_map.mp some
  obtain ⟨row, logged, table, names⟩ := kept.events participant joined
  obtain ⟨_, walk, all, -⟩ := exact ⟨kind.history, entity⟩ 1 le_rfl (by omega)
  have apart := walk_one_apart walk all
  rw [historyRows, List.map_flatMap, List.nodup_flatMap] at apart
  have branch := apart.1 _ (participation_mem kind entity)
  rw [HistoryBranch.rows, List.map_flatMap, List.nodup_flatMap] at branch
  have copies := branch.1 row (List.mem_filter.mpr ⟨logged, decide_eq_true table⟩)
  rw [List.map_replicate, List.nodup_replicate, participation_copies] at copies
  obtain ⟨rfl, -⟩ := Prod.mk.inj place
  rw [names] at copies
  exact twice copies

end Keys

/-! ## Steps -/

section Steps

variable {tables next : HistoryTables} {row : LoggedRow}
  {participants : List (ParticipantKind × String)} {participantIds : ParticipantKind × String → String}
  {participantId replacementParticipantId : String}
  {replacement : Option (ParticipantKind × String)}

theorem recordActualLogisticsEvent_ok
    (ran : recordActualLogisticsEvent tables row participants participantIds = .ok next) :
    participants.Nodup ∧ next = { tables with
      logged := { row with table := .actualLogisticsEvents } :: tables.logged
      participants := tables.participants ++ participants.map fun identity =>
        openParticipant row.id.value identity (participantIds identity) } := by
  simp only [recordActualLogisticsEvent, except_bind_ok, ensure_ok, exists_const] at ran
  obtain ⟨-, -, apart, done⟩ := ran
  exact ⟨apart, (Except.ok.inj done).symm⟩

theorem locateParticipant_ok (ran : locateParticipant tables participantId = .ok located) :
    located ∈ tables.participants := by
  rw [locateParticipant] at ran
  split at ran
  · rename_i only
    obtain rfl := Except.ok.inj ran
    exact (List.mem_filter.mp (only ▸ List.mem_cons_self)).1
  · cases ran

/-- A correction closes a row where it stands and opens at most one on the same event. -/
theorem correctLogisticsParticipant_ok
    (ran : correctLogisticsParticipant tables participantId replacement
      replacementParticipantId = .ok next) :
    ∃ located, locateParticipant tables participantId = .ok located ∧ located.active = true ∧
      next.logged = tables.logged ∧ next.memberships = tables.memberships ∧
      next.participants.map LogisticsParticipant.place =
        tables.participants.map LogisticsParticipant.place ++
          replacement.toList.map fun identity => (located.logisticsEventId, identity) := by
  simp only [correctLogisticsParticipant, except_bind_ok, ensure_ok, exists_const] at ran
  obtain ⟨located, found, active, done⟩ := ran
  obtain rfl := Except.ok.inj done
  refine ⟨located, found, active, rfl, rfl, ?_⟩
  rw [List.map_append, List.map_map, List.map_map]
  congr 1
  refine List.map_congr_left fun participant _ => ?_
  rw [Function.comp_apply]
  split <;> rfl

theorem revise_ids (tables : HistoryTables) (row : LoggedRow) :
    (tables.apply (.revise row)).logged.map (·.id.value) = tables.logged.map (·.id.value) := by
  rw [HistoryTables.apply, List.map_map]
  refine List.map_congr_left fun old _ => ?_
  rw [Function.comp_apply]
  split <;> rfl

/-- Rows drawn anew and participants of rows that stay keep what every state has. -/
theorem kept_apply (kept : tables.Kept) (write : HistoryWrite)
    (fresh : ∀ id ∈ write.drawn, id ∉ tables.logged.map (·.id.value)) :
    (tables.apply write).Kept := by
  obtain ⟨ids, memberships, events⟩ := kept
  cases write with
  | log row =>
    refine ⟨List.nodup_cons.mpr ⟨fresh _ List.mem_cons_self, ids⟩, memberships, ?_⟩
    intro participant joined
    obtain ⟨old, inside, names⟩ := events participant joined
    exact ⟨old, List.mem_cons_of_mem _ inside, names⟩
  | revise row =>
    have kind (old : LoggedRow) : ∀ revised, revised = (if old.id.value = row.id.value then
        { row with table := old.table, id := old.id } else old) →
        revised.table = old.table ∧ revised.id = old.id := by
      rintro _ rfl
      split <;> exact ⟨rfl, rfl⟩
    refine ⟨revise_ids tables row ▸ ids, memberships, ?_⟩
    intro participant joined
    obtain ⟨old, inside, table, names⟩ := events participant joined
    refine ⟨_, List.mem_map_of_mem inside, (kind old _ rfl).1.trans table, ?_⟩
    rw [(kind old _ rfl).2, names]
  | recordLogisticsEvent row participants participantIds =>
    rw [HistoryTables.apply]
    rcases ran : recordActualLogisticsEvent tables row participants participantIds with _ | next
    · exact ⟨ids, memberships, events⟩
    · obtain ⟨-, rfl⟩ := recordActualLogisticsEvent_ok ran
      refine ⟨List.nodup_cons.mpr ⟨fresh _ List.mem_cons_self, ids⟩, memberships, ?_⟩
      intro participant joined
      rcases List.mem_append.mp joined with old | opened
      · obtain ⟨event, inside, names⟩ := events participant old
        exact ⟨event, List.mem_cons_of_mem _ inside, names⟩
      · obtain ⟨_, -, rfl⟩ := List.mem_map.mp opened
        exact ⟨_, List.mem_cons_self, rfl, rfl⟩
  | correctParticipant participantId replacement replacementParticipantId =>
    rw [HistoryTables.apply]
    rcases ran : correctLogisticsParticipant tables participantId replacement
      replacementParticipantId with _ | next
    · exact ⟨ids, memberships, events⟩
    · obtain ⟨located, found, -, logged, members, places⟩ := correctLogisticsParticipant_ok ran
      change next.Kept
      refine ⟨logged ▸ ids, members ▸ memberships, ?_⟩
      intro participant joined
      rw [logged]
      have placed := List.mem_map_of_mem (f := LogisticsParticipant.place) joined
      rw [places, List.mem_append] at placed
      rcases placed with old | opened
      · obtain ⟨before, inside, place⟩ := List.mem_map.mp old
        obtain ⟨event, _⟩ := Prod.mk.inj place
        rw [← event]
        exact events before inside
      · obtain ⟨_, -, place⟩ := List.mem_map.mp opened
        obtain ⟨event, _⟩ := Prod.mk.inj place
        rw [← event]
        exact events located (locateParticipant_ok found)
  | addMembership membership =>
    rw [HistoryTables.apply]
    split
    · exact ⟨ids, memberships, events⟩
    · rename_i absent
      exact ⟨ids, List.nodup_cons.mpr ⟨absent, memberships⟩, events⟩
  | deleteDraft rowIds membershipIds =>
    refine ⟨(List.filter_sublist.map _).nodup ids, (List.filter_sublist.map _).nodup memberships, ?_⟩
    intro participant joined
    obtain ⟨event, inside, table, names⟩ := events participant joined
    refine ⟨event, List.mem_filter.mpr ⟨inside, ?_⟩, table, names⟩
    simp [table]

/-- Only a correction can give an event two participant rows for one entity. -/
theorem single_apply (kept : tables.Kept) (single : tables.Single) (write : HistoryWrite)
    (fresh : ∀ id ∈ write.drawn, id ∉ tables.logged.map (·.id.value)) :
    (tables.apply write).Single ↔ write.NamesAnew tables := by
  cases write with
  | log row => exact iff_of_true single trivial
  | revise row => exact iff_of_true single trivial
  | recordLogisticsEvent row participants participantIds =>
    refine iff_of_true ?_ trivial
    rw [HistoryTables.apply]
    rcases ran : recordActualLogisticsEvent tables row participants participantIds with _ | next
    · exact single
    · obtain ⟨apart, rfl⟩ := recordActualLogisticsEvent_ok ran
      change (List.map LogisticsParticipant.place (tables.participants ++ _)).Nodup
      rw [List.map_append, List.nodup_append', List.map_map]
      refine ⟨single, apart.map fun _ _ same => (Prod.mk.inj same).2, ?_⟩
      -- no participant was there before its event
      rw [List.disjoint_left]
      intro place old new
      obtain ⟨before, inside, rfl⟩ := List.mem_map.mp old
      obtain ⟨_, -, same⟩ := List.mem_map.mp new
      obtain ⟨event, logged, -, names⟩ := kept.events before inside
      obtain ⟨named, _⟩ := Prod.mk.inj same
      exact fresh _ List.mem_cons_self
        (List.mem_map.mpr ⟨event, logged, names.trans named.symm⟩)
  | correctParticipant participantId replacement replacementParticipantId =>
    rw [HistoryTables.apply]
    rcases ran : correctLogisticsParticipant tables participantId replacement
      replacementParticipantId with _ | next
    · refine iff_of_true single ?_
      cases replacement with
      | none => trivial
      | some identity =>
        intro located found active
        simp [correctLogisticsParticipant, found, active, ensure, bind, Except.bind, pure,
          Except.pure] at ran
    · obtain ⟨located, found, active, -, -, places⟩ := correctLogisticsParticipant_ok ran
      change next.Single ↔ _
      rw [HistoryTables.Single, places]
      cases replacement with
      | none =>
        rw [Option.toList_none, List.map_nil, List.append_nil]
        exact iff_of_true single trivial
      | some identity =>
        rw [Option.toList_some, List.map_singleton, ← List.concat_eq_append, List.nodup_concat]
        constructor
        · rintro ⟨absent, -⟩ other foundOther - participant inside event same
          obtain rfl := Except.ok.inj (found.symm.trans foundOther)
          refine absent (List.mem_map.mpr ⟨participant, inside, ?_⟩)
          rw [LogisticsParticipant.place, same, event]
        · intro anew
          refine ⟨fun taken => ?_, single⟩
          obtain ⟨participant, inside, place⟩ := List.mem_map.mp taken
          obtain ⟨event, same⟩ := Prod.mk.inj place
          exact anew located found active participant inside event same
  | addMembership membership =>
    refine iff_of_true ?_ trivial
    rw [HistoryTables.apply]
    split <;> exact single
  | deleteDraft rowIds membershipIds => exact iff_of_true single trivial

end Steps

/-! ## Runs -/

theorem logged_apply (tables : HistoryTables) (write : HistoryWrite) {id : String}
    (present : id ∈ (tables.apply write).logged.map (·.id.value)) :
    id ∈ tables.logged.map (·.id.value) ∨ id ∈ write.drawn := by
  cases write with
  | log row =>
    rcases List.mem_cons.mp present with rfl | old
    · exact .inr List.mem_cons_self
    · exact .inl old
  | revise row => exact .inl (revise_ids tables row ▸ present)
  | recordLogisticsEvent row participants participantIds =>
    rw [HistoryTables.apply] at present
    rcases ran : recordActualLogisticsEvent tables row participants participantIds with _ | next
    · rw [ran] at present
      exact .inl present
    · rw [ran] at present
      obtain ⟨-, rfl⟩ := recordActualLogisticsEvent_ok ran
      rcases List.mem_cons.mp present with rfl | old
      · exact .inr List.mem_cons_self
      · exact .inl old
  | correctParticipant participantId replacement replacementParticipantId =>
    rw [HistoryTables.apply] at present
    rcases ran : correctLogisticsParticipant tables participantId replacement
      replacementParticipantId with _ | next
    · rw [ran] at present
      exact .inl present
    · rw [ran] at present
      obtain ⟨_, -, -, logged, -⟩ := correctLogisticsParticipant_ok ran
      exact .inl (logged ▸ present)
  | addMembership membership =>
    rw [HistoryTables.apply] at present
    split at present <;> exact .inl present
  | deleteDraft rowIds membershipIds => exact .inl ((List.filter_sublist.map _).subset present)

theorem logged_run (writes : List HistoryWrite) {id : String}
    (present : id ∈ (HistoryTables.run {} writes).logged.map (·.id.value)) :
    id ∈ writes.flatMap HistoryWrite.drawn := by
  induction writes using List.reverseRecOn with
  | nil => cases present
  | append_singleton earlier write ih =>
    rw [HistoryTables.run, List.foldl_append] at present
    rw [List.flatMap_append, List.mem_append, List.flatMap_singleton]
    exact (logged_apply _ write present).imp_left ih

/-- A row drawn once in a run is not there before its write. -/
theorem fresh_of_drawn {writes : List HistoryWrite}
    (drawn : (writes.flatMap HistoryWrite.drawn).Nodup) (next : writes[count]? = some write) :
    ∀ id ∈ write.drawn,
      id ∉ (HistoryTables.run {} (writes.take count)).logged.map (·.id.value) := by
  obtain ⟨inside, rfl⟩ := List.getElem?_eq_some_iff.mp next
  intro id new old
  rw [← List.take_append_drop count writes, List.drop_eq_getElem_cons inside,
    List.flatMap_append, List.flatMap_cons] at drawn
  exact (List.disjoint_of_nodup_append drawn) (logged_run _ old)
    (List.mem_append_left _ new)

theorem run_succ {writes : List HistoryWrite} {count : Nat} {write : HistoryWrite}
    (next : writes[count]? = some write) (tables : HistoryTables) :
    tables.run (writes.take (count + 1)) = (tables.run (writes.take count)).apply write := by
  rw [HistoryTables.run, List.take_add_one, next, List.foldl_append]
  rfl

theorem run_past {writes : List HistoryWrite} {count : Nat} (past : writes[count]? = none)
    (tables : HistoryTables) :
    tables.run (writes.take (count + 1)) = tables.run (writes.take count) := by
  rw [List.take_add_one, past, Option.toList_none, List.append_nil]

theorem kept_run {writes : List HistoryWrite}
    (drawn : (writes.flatMap HistoryWrite.drawn).Nodup) (count : Nat) :
    (HistoryTables.run {} (writes.take count)).Kept := by
  induction count with
  | zero => exact ⟨List.nodup_nil, List.nodup_nil, by rintro _ ⟨⟩⟩
  | succ count ih =>
    rcases next : writes[count]? with - | write
    · rw [run_past next]
      exact ih
    · rw [run_succ next]
      exact kept_apply ih write (fresh_of_drawn drawn next)

/-- Over a run of inventory writes, the history of every entity pages exactly in every
state reached if and only if no correction names an entity its event already has. -/
theorem history_exact_iff (writes : List HistoryWrite)
    (drawn : (writes.flatMap HistoryWrite.drawn).Nodup) :
    (∀ count : Nat, HistoryExact (HistoryTables.run {} (writes.take count))) ↔
      ∀ (count : Nat) (write : HistoryWrite), writes[count]? = some write →
        write.NamesAnew (HistoryTables.run {} (writes.take count)) := by
  constructor
  · intro exact count write next
    have single := single_of_exact (kept_run drawn count) (exact count)
    have after := single_of_exact (kept_run drawn (count + 1)) (exact (count + 1))
    rw [run_succ next] at after
    exact (single_apply (kept_run drawn count) single write (fresh_of_drawn drawn next)).mp after
  · intro anew count
    refine exact_of_single (kept_run drawn count) ?_
    induction count with
    | zero => exact List.nodup_nil
    | succ count ih =>
      rcases next : writes[count]? with - | write
      · rw [run_past next]
        exact ih
      · rw [run_succ next]
        exact (single_apply (kept_run drawn count) ih write (fresh_of_drawn drawn next)).mpr
          (anew count write next)

/-! ## A receipt corrected to its own unit -/

def shippedId : Uuid4 where
  value := "00000000-0000-4000-8000-000000000701"
  canonical := by decide +kernel

def shippedRow : LoggedRow where
  table := .actualLogisticsEvents
  id := shippedId
  recordedAtUtc := 100
  eventKind := "dispatch"
  commandId := some "command"
  evidence := none
  named := fun _ => none

/-- A dispatch of a unit; its participant is then corrected to the unit given. -/
def shippedThenCorrected (unit : String) : List HistoryWrite :=
  [.recordLogisticsEvent shippedRow [(.sparePartUnit, "unit")] fun _ => "participant",
    .correctParticipant "participant" (some (.sparePartUnit, unit)) "replacement"]

theorem shipped_drawn (unit : String) :
    ((shippedThenCorrected unit).flatMap HistoryWrite.drawn).Nodup := by
  change [shippedId.value].Nodup
  exact List.nodup_singleton _

theorem shipped_places (unit : String) :
    (HistoryTables.run {} (shippedThenCorrected unit)).participants.map
      LogisticsParticipant.place =
        [(shippedId.value, .sparePartUnit, "unit"), (shippedId.value, .sparePartUnit, unit)] := by
  rfl

theorem corrected_to_other_unit :
    HistoryExact (HistoryTables.run {} ((shippedThenCorrected "other").take 2)) := by
  refine (history_exact_iff (shippedThenCorrected "other") (shipped_drawn "other")).mpr ?_ 2
  rintro (_ | _ | count) write next
  · obtain rfl := Option.some.inj next
    trivial
  · obtain rfl := Option.some.inj next
    intro located _ _ participant inside _
    obtain rfl := List.mem_singleton.mp inside
    decide
  · cases next

/-- The dispatch is shown twice under one key, and pages of one row show it once. -/
theorem corrected_to_same_unit : ¬ ∀ writes : List HistoryWrite,
    (writes.flatMap HistoryWrite.drawn).Nodup → ∀ count,
      HistoryExact (HistoryTables.run {} (writes.take count)) := by
  intro all
  have drawn := shipped_drawn "unit"
  have exact := all _ drawn 2
  have single := single_of_exact (kept_run drawn 2) exact
  have places := shipped_places "unit"
  rw [HistoryTables.Single] at single
  change (List.map LogisticsParticipant.place
    (HistoryTables.run {} (shippedThenCorrected "unit")).participants).Nodup at single
  rw [places] at single
  exact absurd single (by simp)

end Soma.Inventory
