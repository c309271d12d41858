import Soma.Theory.Rows
import Soma.Theory.Execution
import Soma.Tickets.RfcArchive

/-!
What archiving and restoring do to the archive states over any run. Every change
of a state records an event under the revision it produced, so the latest event
of an RFC, the one of greatest revision, tells its state. An operation's events
are recorded once, so what it may still restore only shrinks.
-/

namespace Soma.Tickets

open Execution Foundation Transaction Rows

variable {rows next : ArchiveRows}

/-! ## The latest event of an RFC -/

/-- The archive state an event leaves. -/
def ArchiveEventType.leaves : ArchiveEventType → ArchiveState
  | .archived => .archived
  | .restored => .active

/-- The event of greatest resulting revision of an RFC. -/
structure LatestEvent (rows : ArchiveRows) (rfcId : String) (event : RfcArchiveEvent) : Prop where
  recorded : event ∈ rows.events
  rfc : event.rfcId = rfcId
  greatest : ∀ other ∈ rows.events, other.rfcId = rfcId →
    other.resultingRfcRevision ≤ event.resultingRfcRevision

/-- The state the latest archive event leaves: active when there is none. -/
def LeftByLatest (rows : ArchiveRows) (row : Rfc) : Prop :=
  (row.localArchiveState = .active ∧ ∀ event ∈ rows.events, event.rfcId ≠ row.rfcId) ∨
    ∃ event, LatestEvent rows row.rfcId event ∧ row.localArchiveState = event.eventType.leaves

/-- The members belong to recorded operations, each RFC once to an operation. -/
structure MembersSound (rows : ArchiveRows) : Prop where
  owners : ∀ member ∈ rows.members,
    member.rfcArchiveOperationId ∈ rows.operations.map (·.rfcArchiveOperationId)
  distinct :
    (rows.members.map fun member => (member.rfcArchiveOperationId, member.rfcId)).Nodup
  forms : ∀ member ∈ rows.members, isUuid4 member.rfcId ∧ 0 < member.preArchiveRevision ∧
    member.archivedRevision = member.preArchiveRevision + 1

/-- The archive tables agree with each other. -/
structure ArchiveSound (rows : ArchiveRows) : Prop where
  rfcIds : (rows.rfcs.map (·.rfcId)).Nodup
  revisions : ∀ row ∈ rows.rfcs, 0 < row.revision
  reached : ∀ event ∈ rows.events, ∃ row ∈ rows.rfcs, row.rfcId = event.rfcId ∧
    event.resultingRfcRevision ≤ row.revision
  eventKeys : (rows.events.map fun event => (event.rfcId, event.resultingRfcRevision)).Nodup
  origins : ∀ event ∈ rows.events,
    event.originArchiveOperationId ∈ rows.operations.map (·.rfcArchiveOperationId)
  members : MembersSound rows
  operationForms : ∀ operation ∈ rows.operations,
    isUuid4 operation.rfcArchiveOperationId ∧ isSha256 operation.scopeFingerprint
  eventForms : ∀ event ∈ rows.events, 1 < event.resultingRfcRevision
  left : ∀ row ∈ rows.rfcs, LeftByLatest rows row

variable {rfcId : String}

theorem ArchiveSound.latest_unique (sound : ArchiveSound rows)
    (first : LatestEvent rows rfcId event) (second : LatestEvent rows rfcId other) :
    event = other := by
  refine List.inj_on_of_nodup_map sound.eventKeys first.recorded second.recorded
    (Prod.ext (first.rfc.trans second.rfc.symm) ?_)
  exact le_antisymm (second.greatest event first.recorded first.rfc)
    (first.greatest other second.recorded second.rfc)

variable {event : RfcArchiveEvent}

theorem ArchiveSound.state_of_latest (sound : ArchiveSound rows) (inside : row ∈ rows.rfcs)
    (latest : LatestEvent rows row.rfcId event) :
    row.localArchiveState = event.eventType.leaves := by
  rcases sound.left row inside with ⟨-, none⟩ | ⟨other, found, state⟩
  · exact absurd latest.rfc (none event latest.recorded)
  · rw [state, sound.latest_unique latest found]

theorem latestRevision_eq_some : rows.latestRevision rfcId = some revision ↔
      (∃ event ∈ rows.events, event.rfcId = rfcId ∧ event.resultingRfcRevision = revision) ∧
        ∀ event ∈ rows.events, event.rfcId = rfcId → event.resultingRfcRevision ≤ revision := by
  rw [ArchiveRows.latestRevision, List.max?_eq_some_iff]
  simp only [List.mem_map, List.mem_filter, decide_eq_true_eq, and_assoc, forall_exists_index,
    and_imp]
  refine and_congr_right fun _ => ⟨fun bound event inside same => ?_, fun bound _ event inside same => ?_⟩
  · exact bound _ event inside same rfl
  · rintro rfl
    exact bound event inside same

theorem latestEvent_iff : LatestEvent rows rfcId event ↔ event ∈ rows.events ∧ event.rfcId = rfcId ∧
      rows.latestRevision rfcId = some event.resultingRfcRevision := by
  rw [latestRevision_eq_some]
  constructor
  · exact fun latest => ⟨latest.recorded, latest.rfc,
      ⟨event, latest.recorded, latest.rfc, rfl⟩, latest.greatest⟩
  · exact fun ⟨recorded, rfc, _, greatest⟩ => ⟨recorded, rfc, greatest⟩

/-! ## Moving one RFC -/

/-- One RFC moved to the state its new event leaves, under the next revision. -/
structure Moved (rows next : ArchiveRows) (row : Rfc) (event : RfcArchiveEvent) : Prop where
  rfcs : Replaced rows.rfcs next.rfcs row
    { row with localArchiveState := event.eventType.leaves, revision := row.revision + 1 }
  events : next.events = rows.events ++ [event]
  rfc : event.rfcId = row.rfcId
  revision : event.resultingRfcRevision = row.revision + 1
  operations : next.operations = rows.operations
  origin : event.originArchiveOperationId ∈ rows.operations.map (·.rfcArchiveOperationId)

namespace Moved

variable {row : Rfc} {event : RfcArchiveEvent}

section

variable (moved : Moved rows next row event)

include moved

theorem rfcIds : next.rfcs.map (·.rfcId) = rows.rfcs.map (·.rfcId) :=
  moved.rfcs.map_eq rfl

theorem latest (sound : ArchiveSound rows) :
    LatestEvent next row.rfcId event where
  recorded := by simp [moved.events]
  rfc := moved.rfc
  greatest := by
    intro other recorded same
    rw [moved.events] at recorded
    rcases mem_concat recorded with before | rfl
    · obtain ⟨_, inside, own, _⟩ := sound.reached other before
      obtain rfl := List.inj_on_of_nodup_map sound.rfcIds inside moved.rfcs.mem_old
        (own.trans same)
      rw [moved.revision]
      omega
    · exact le_refl _

theorem latest_other (other : rfcId ≠ row.rfcId) :
    LatestEvent next rfcId held ↔ LatestEvent rows rfcId held := by
  have apart : event.rfcId ≠ rfcId := fun same => other (same.symm.trans moved.rfc)
  constructor
  · intro latest
    have recorded := latest.recorded
    rw [moved.events, List.mem_append, List.mem_singleton] at recorded
    refine ⟨recorded.resolve_right ?_, latest.rfc, fun later inside =>
      latest.greatest later (by rw [moved.events]; exact List.mem_append_left _ inside)⟩
    rintro rfl
    exact apart latest.rfc
  · intro latest
    refine ⟨by rw [moved.events]; exact List.mem_append_left _ latest.recorded, latest.rfc, ?_⟩
    intro later inside same
    rw [moved.events] at inside
    rcases mem_concat inside with inside | rfl
    · exact latest.greatest later inside same
    · exact absurd same apart

theorem sound (sound : ArchiveSound rows)
    (members : MembersSound next) : ArchiveSound next where
  rfcIds := by
    rw [moved.rfcIds]
    exact sound.rfcIds
  revisions := by
    intro held inside
    rcases moved.rfcs.mem_next inside with rfl | inside
    · have := sound.revisions row moved.rfcs.mem_old
      show 0 < row.revision + 1
      omega
    · exact sound.revisions held inside
  reached := by
    intro held recorded
    rw [moved.events] at recorded
    rcases mem_concat recorded with before | rfl
    · obtain ⟨holder, inside, own, below⟩ := sound.reached held before
      rcases moved.rfcs.mem_rows inside with rfl | stays
      · exact ⟨_, moved.rfcs.mem_new, own, by show _ ≤ holder.revision + 1; omega⟩
      · exact ⟨holder, stays, own, below⟩
    · exact ⟨_, moved.rfcs.mem_new, moved.rfc.symm, moved.revision.le⟩
  eventKeys := by
    rw [moved.events]
    refine nodup_concat sound.eventKeys fun clash => ?_
    -- The new event carries a revision above every event of its RFC.
    obtain ⟨held, before, same⟩ := List.mem_map.mp clash
    obtain ⟨holder, inside, own, below⟩ := sound.reached held before
    obtain rfl := List.inj_on_of_nodup_map sound.rfcIds inside moved.rfcs.mem_old
      (own.trans ((congrArg Prod.fst same).trans moved.rfc))
    have revision : held.resultingRfcRevision = event.resultingRfcRevision := congrArg Prod.snd same
    rw [revision, moved.revision] at below
    omega
  origins := by
    intro held recorded
    rw [moved.operations]
    rw [moved.events] at recorded
    rcases mem_concat recorded with before | rfl
    · exact sound.origins held before
    · exact moved.origin
  members := members
  operationForms := by
    rw [moved.operations]
    exact sound.operationForms
  eventForms := by
    intro held recorded
    rw [moved.events] at recorded
    rcases mem_concat recorded with before | rfl
    · exact sound.eventForms held before
    · have := sound.revisions row moved.rfcs.mem_old
      rw [moved.revision]
      omega
  left := by
    intro held inside
    rcases moved.rfcs.mem_next_keyed sound.rfcIds rfl inside with rfl | ⟨before, other⟩
    · exact .inr ⟨event, moved.latest sound, rfl⟩
    · rcases sound.left held before with ⟨state, none⟩ | ⟨latest, found, state⟩
      · refine .inl ⟨state, fun later recorded => ?_⟩
        rw [moved.events] at recorded
        rcases mem_concat recorded with earlier | rfl
        · exact none later earlier
        · exact fun same => other (same.symm.trans moved.rfc)
      · exact .inr ⟨latest, (moved.latest_other other).mpr found, state⟩

end

end Moved

/-! ## The statements -/

variable {value : PUnit}

theorem moveRfc_ok (ran : (moveRfc rfcId revision found moved lost).run rows = .ok (value, next)) :
    ∃ row, row.rfcId = rfcId ∧ row.revision = revision ∧ row.localArchiveState = found ∧
      Replaced rows.rfcs next.rfcs row
        { row with localArchiveState := moved, revision := row.revision + 1 } ∧
      next = { rows with rfcs := next.rfcs } := by
  simp only [moveRfc, steps_ok] at ran
  obtain ⟨one, rfl⟩ := ran
  obtain ⟨row, hit, replaced⟩ := replaced_of_countP (fun row : Rfc =>
    { row with localArchiveState := moved, revision := row.revision + 1 }) one
  simp only [decide_eq_true_eq] at hit
  exact ⟨row, hit.1, hit.2.1, hit.2.2, replaced, rfl⟩

theorem insertArchiveMember_ok (ran : (insertArchiveMember member).run rows = .ok (value, next)) :
    next = { rows with members := rows.members ++ [member] } ∧
      (∀ other ∈ rows.members, other.rfcArchiveOperationId = member.rfcArchiveOperationId →
        other.rfcId ≠ member.rfcId) ∧
      member.rfcArchiveOperationId ∈ rows.operations.map (·.rfcArchiveOperationId) ∧
      0 < member.preArchiveRevision ∧
      member.archivedRevision = member.preArchiveRevision + 1 := by
  simp only [insertArchiveMember, steps_ok] at ran
  obtain ⟨apart, references, rfl⟩ := ran
  exact ⟨rfl, fun other inside same => (apart other inside same).1, references.1,
    references.2.2⟩

theorem insertArchiveEvent_ok (ran : (insertArchiveEvent event).run rows = .ok (value, next)) :
    next = { rows with events := rows.events ++ [event] } ∧
      event.originArchiveOperationId ∈ rows.operations.map (·.rfcArchiveOperationId) := by
  simp only [insertArchiveEvent, steps_ok] at ran
  obtain ⟨-, references, -, rfl⟩ := ran
  exact ⟨rfl, references.1⟩

/-! ## A loop over members -/

/-- RFCs moved one after another by one operation, with the members it added. -/
inductive Sweep (operationId : String) (eventType : ArchiveEventType) :
    ArchiveRows → List String → ArchiveRows → Prop where
  | done (rows : ArchiveRows) : Sweep operationId eventType rows [] rows
  | move {rows middle next : ArchiveRows} {row : Rfc} {event : RfcArchiveEvent}
      {added : List RfcArchiveMember} {rfcIds : List String} :
      Moved rows middle row event → event.originArchiveOperationId = operationId →
        event.eventType = eventType → row.localArchiveState ≠ eventType.leaves →
        middle.members = rows.members ++ added →
        (∀ member ∈ added, member.rfcArchiveOperationId = operationId ∧
          member.rfcId = row.rfcId) →
        (eventType = .archived → added ≠ []) → ArchiveSound middle →
        Sweep operationId eventType middle rfcIds next →
        Sweep operationId eventType rows (row.rfcId :: rfcIds) next

/-- The archive state of an RFC. -/
def ArchiveRows.stateOf (rows : ArchiveRows) (rfcId : String) : Option ArchiveState :=
  (rows.rfc? rfcId).map (·.localArchiveState)

namespace Sweep

variable {operationId : String} {eventType : ArchiveEventType} {rfcIds : List String}

section

variable (sweep : Sweep operationId eventType rows rfcIds next)

include sweep

theorem sound (sound : ArchiveSound rows) : ArchiveSound next := by
  induction sweep with
  | done _ => exact sound
  | move _ _ _ _ _ _ _ middle _ ih => exact ih middle

theorem operations : next.operations = rows.operations := by
  induction sweep with
  | done _ => rfl
  | move moved _ _ _ _ _ _ _ _ ih => exact ih.trans moved.operations

theorem rfcIds_eq : next.rfcs.map (·.rfcId) = rows.rfcs.map (·.rfcId) := by
  induction sweep with
  | done _ => rfl
  | move moved _ _ _ _ _ _ _ _ ih => exact ih.trans moved.rfcIds

end

variable {rfcId : String}

section

variable (sweep : Sweep operationId eventType rows rfcIds next)

include sweep

theorem untouched (outside : rfcId ∉ rfcIds) : next.rfc? rfcId = rows.rfc? rfcId := by
  induction sweep with
  | done _ => rfl
  | move moved _ _ _ _ _ _ _ _ ih =>
    rw [List.mem_cons, not_or] at outside
    rw [ih outside.2, ArchiveRows.rfc?, moved.rfcs.find?_ne rfl outside.1, ArchiveRows.rfc?]

theorem latest_untouched (outside : rfcId ∉ rfcIds) :
    LatestEvent next rfcId event ↔ LatestEvent rows rfcId event := by
  induction sweep with
  | done _ => rfl
  | move moved _ _ _ _ _ _ _ _ ih =>
    rw [List.mem_cons, not_or] at outside
    rw [ih outside.2, moved.latest_other outside.1]

theorem latest_moved (sound : ArchiveSound rows) (inside : rfcId ∈ rfcIds) :
    ∃ event, LatestEvent next rfcId event ∧ event.originArchiveOperationId = operationId ∧
      event.eventType = eventType := by
  induction sweep with
  | done _ => cases inside
  | @move rows middle next row event added rest moved origin type _ _ _ _ soundMiddle tail ih =>
    by_cases again : rfcId ∈ rest
    · exact ih soundMiddle again
    · obtain rfl := (List.mem_cons.mp inside).resolve_right again
      exact ⟨event, (tail.latest_untouched again).mpr (moved.latest sound), origin, type⟩

theorem present : ∀ rfcId ∈ rfcIds, ∃ row ∈ rows.rfcs, row.rfcId = rfcId := by
  induction sweep with
  | done _ => simp
  | @move rows middle next row event added rest moved _ _ _ _ _ _ _ _ ih =>
    intro rfcId inside
    rcases List.mem_cons.mp inside with rfl | inside
    · exact ⟨row, moved.rfcs.mem_old, rfl⟩
    · obtain ⟨held, present, same⟩ := ih rfcId inside
      have listed : rfcId ∈ rows.rfcs.map (·.rfcId) := by
        rw [← moved.rfcIds]
        exact List.mem_map.mpr ⟨held, present, same⟩
      exact List.mem_map.mp listed

theorem stateOf_moved (sound : ArchiveSound rows) (inside : rfcId ∈ rfcIds) :
    next.stateOf rfcId = some eventType.leaves := by
  obtain ⟨_, latest, -, rfl⟩ := sweep.latest_moved sound inside
  obtain ⟨before, present, same⟩ := sweep.present rfcId inside
  have listed : rfcId ∈ next.rfcs.map (·.rfcId) := by
    rw [sweep.rfcIds_eq]
    exact List.mem_map.mpr ⟨before, present, same⟩
  obtain ⟨_, held, rfl⟩ := List.mem_map.mp listed
  have soundNext := sweep.sound sound
  rw [ArchiveRows.stateOf, ArchiveRows.rfc?, find?_eq_some soundNext.rfcIds held, Option.map_some,
    soundNext.state_of_latest held latest]

theorem stateOf_untouched (outside : rfcId ∉ rfcIds) : next.stateOf rfcId = rows.stateOf rfcId := by
  rw [ArchiveRows.stateOf, sweep.untouched outside, ArchiveRows.stateOf]

theorem members_kept : ∀ member ∈ rows.members, member ∈ next.members := by
  induction sweep with
  | done _ => exact fun _ inside => inside
  | move _ _ _ _ members _ _ _ _ ih =>
    intro member inside
    exact ih member (by rw [members]; exact List.mem_append_left _ inside)

theorem members_added : ∀ member ∈ next.members, member ∈ rows.members ∨
      (member.rfcArchiveOperationId = operationId ∧ member.rfcId ∈ rfcIds) := by
  induction sweep with
  | done _ => exact fun _ inside => .inl inside
  | move _ _ _ _ members own _ _ _ ih =>
    intro member inside
    rcases ih member inside with before | ⟨operation, later⟩
    · rw [members, List.mem_append] at before
      rcases before with before | added
      · exact .inl before
      · exact .inr ⟨(own member added).1, by simp [(own member added).2]⟩
    · exact .inr ⟨operation, List.mem_cons_of_mem _ later⟩

end

theorem members_moved (sweep : Sweep operationId .archived rows rfcIds next) :
    ∀ rfcId ∈ rfcIds, ∃ member ∈ next.members,
      member.rfcArchiveOperationId = operationId ∧ member.rfcId = rfcId := by
  generalize type : ArchiveEventType.archived = eventType at sweep
  induction sweep with
  | done _ => simp
  | @move rows middle next row event added rest _ _ _ _ members own some _ tail ih =>
    intro rfcId inside
    rcases List.mem_cons.mp inside with rfl | inside
    · obtain ⟨member, placed⟩ := List.exists_mem_of_ne_nil _ (some type.symm)
      exact ⟨member, tail.members_kept member (by rw [members]; exact List.mem_append_right _ placed),
        own member placed⟩
    · exact ih rfcId inside

theorem stateOf_before (sweep : Sweep operationId eventType rows rfcIds next)
    (sound : ArchiveSound rows) (inside : rfcId ∈ rfcIds) :
    ∃ state, rows.stateOf rfcId = some state ∧ state ≠ eventType.leaves := by
  induction sweep with
  | done _ => cases inside
  | @move rows middle next row event added rest moved _ type other _ _ _ soundMiddle _ ih =>
    by_cases own : rfcId = row.rfcId
    · subst own
      refine ⟨row.localArchiveState, ?_, other⟩
      rw [ArchiveRows.stateOf, ArchiveRows.rfc?, find?_eq_some sound.rfcIds moved.rfcs.mem_old,
        Option.map_some]
    · obtain ⟨state, found, differs⟩ := ih soundMiddle ((List.mem_cons.mp inside).resolve_left own)
      rw [ArchiveRows.stateOf, ArchiveRows.rfc?, moved.rfcs.find?_ne rfl own] at found
      exact ⟨state, found, differs⟩

end Sweep

theorem archiveMember_ok {member : RfcArchiveScopeMember} (sound : ArchiveSound rows)
    (canonical : isUuid4 member.rfcId)
    (ran : (archiveMember operationId eventId member).run rows = .ok (value, next)) :
    ∃ row event added, row.rfcId = member.rfcId ∧ row.localArchiveState = .active ∧
      Moved rows next row event ∧ event.originArchiveOperationId = operationId ∧ event.eventType = .archived ∧
      next.members = rows.members ++ [added] ∧ added.rfcArchiveOperationId = operationId ∧
      added.rfcId = row.rfcId ∧ ArchiveSound next := by
  simp only [archiveMember, steps_ok] at ran
  obtain ⟨first, moves, _, places, records⟩ := ran
  obtain ⟨row, rfc, revision, active, replaced, moved⟩ := moveRfc_ok moves
  obtain ⟨placed, apart, owner, positive⟩ := insertArchiveMember_ok places
  obtain ⟨recorded, origin⟩ := insertArchiveEvent_ok records
  subst recorded
  subst placed
  rw [moved] at apart owner origin ⊢
  have step : Moved rows
      { rows with
        rfcs := first.rfcs
        members := rows.members ++ [⟨operationId, member.rfcId, member.rfcRevision,
          member.rfcRevision + 1, member.scopeOrdinal⟩]
        events := rows.events ++ [⟨eventId, member.rfcId, .archived, operationId,
          member.rfcRevision + 1⟩] } row
      ⟨eventId, member.rfcId, .archived, operationId, member.rfcRevision + 1⟩ :=
    ⟨replaced, rfl, rfc.symm, by rw [revision], rfl, origin⟩
  refine ⟨row, _, ⟨operationId, member.rfcId, member.rfcRevision, member.rfcRevision + 1,
    member.scopeOrdinal⟩, rfc, active, step, rfl, rfl, rfl, rfl, rfc.symm,
    step.sound sound ⟨?_, ?_, ?_⟩⟩
  · intro held inside
    rcases Rows.mem_concat inside with before | rfl
    · exact sound.members.owners held before
    · exact owner
  · refine nodup_concat sound.members.distinct fun clash => ?_
    obtain ⟨held, before, same⟩ := List.mem_map.mp clash
    exact apart held before (congrArg Prod.fst same) (congrArg Prod.snd same)
  · intro held inside
    rcases Rows.mem_concat inside with before | rfl
    · exact sound.members.forms held before
    · exact ⟨canonical, positive⟩

variable {operationId : String} {newUuid4 : Nat → Uuid4}

theorem archiveMembers_ok (sound : ArchiveSound rows)
    (canonical : ∀ member ∈ members, isUuid4 member.rfcId)
    (ran : (archiveMembers newUuid4 operationId drawn members).run rows = .ok (applied, next)) :
    Sweep operationId .archived rows
      ((members.filter (·.archiveState = .active)).map (·.rfcId)) next := by
  induction members generalizing rows drawn applied with
  | nil =>
    simp only [archiveMembers, pure_ok] at ran
    rw [← ran.2]
    exact .done rows
  | cons member rest ih =>
    rw [archiveMembers] at ran
    by_cases active : member.archiveState = .active
    · simp only [active, if_true, steps_ok] at ran
      obtain ⟨_, moves, _, _, follows, rfl, rfl⟩ := ran
      obtain ⟨_, _, _, rfc, found, moved, origin, type, members, operation, own,
        soundMiddle⟩ := archiveMember_ok sound (canonical member List.mem_cons_self) moves
      rw [List.filter_cons_of_pos (by simpa using active), List.map_cons, ← rfc]
      refine .move moved origin type (by rw [found]; decide) members ?_ (fun _ => by simp)
        soundMiddle (ih soundMiddle (fun held inside => canonical held (List.mem_cons_of_mem _ inside))
          follows)
      intro held placed
      obtain rfl := List.mem_singleton.mp placed
      exact ⟨operation, own⟩
    · simp only [active, if_false] at ran
      rw [List.filter_cons_of_neg (by simpa using active)]
      exact ih sound (fun held inside => canonical held (List.mem_cons_of_mem _ inside)) ran

variable {member : RfcArchiveOperationMember}

theorem restoreMember_ok (sound : ArchiveSound rows)
    (ran : (restoreMember operationId eventId member).run rows = .ok (value, next)) :
    ∃ row event, row.rfcId = member.rfcId ∧ row.localArchiveState = .archived ∧
      Moved rows next row event ∧ event.rfcArchiveEventId = eventId ∧
      event.originArchiveOperationId = operationId ∧ event.eventType = .restored ∧
      next.members = rows.members ∧ ArchiveSound next := by
  simp only [restoreMember, steps_ok] at ran
  cases found : rows.rfc? member.rfcId with
  | none => simp only [found, throw_ok] at ran
  | some current =>
    simp only [found, steps_ok] at ran
    obtain ⟨-, -, first, moves, records⟩ := ran
    obtain ⟨row, rfc, revision, archived, replaced, moved⟩ := moveRfc_ok moves
    obtain ⟨recorded, origin⟩ := insertArchiveEvent_ok records
    subst recorded
    rw [moved] at origin ⊢
    have step : Moved rows
        { rows with
          rfcs := first.rfcs
          events := rows.events ++ [⟨eventId, member.rfcId, .restored, operationId,
            current.revision + 1⟩] } row
        ⟨eventId, member.rfcId, .restored, operationId, current.revision + 1⟩ :=
      ⟨replaced, rfl, rfc.symm, by rw [revision], rfl, origin⟩
    exact ⟨row, _, rfc, archived, step, rfl, rfl, rfl, rfl, step.sound sound
      ⟨sound.members.owners, sound.members.distinct, sound.members.forms⟩⟩

variable {members : List RfcArchiveOperationMember}

theorem restoreMembers_ok (sound : ArchiveSound rows)
    (ran : (restoreMembers newUuid4 operationId drawn members).run rows = .ok (restored, next)) :
    Sweep operationId .restored rows
      ((members.filter (·.restoreEligible)).map (·.rfcId)) next := by
  induction members generalizing rows drawn restored with
  | nil =>
    simp only [restoreMembers, pure_ok] at ran
    rw [← ran.2]
    exact .done rows
  | cons member rest ih =>
    rw [restoreMembers] at ran
    by_cases eligible : member.restoreEligible
    · simp only [eligible, if_true, steps_ok] at ran
      obtain ⟨_, moves, _, _, follows, rfl, rfl⟩ := ran
      obtain ⟨_, _, rfc, found, moved, -, origin, type, members, soundMiddle⟩ :=
        restoreMember_ok sound moves
      rw [List.filter_cons_of_pos eligible, List.map_cons, ← rfc]
      exact .move moved origin type (by rw [found]; decide) (by rw [members, List.append_nil])
        (by simp) (fun impossible => by cases impossible) soundMiddle (ih soundMiddle follows)
    · simp only [eligible] at ran
      rw [List.filter_cons_of_neg eligible]
      exact ih sound ran

/-! ## The commands -/

theorem scopeMembers_canonical {scopeKind : ArchiveScopeKind} {members : List RfcArchiveScopeMember}
    (ran : scopeMembers rows rfcId scopeKind = .ok members) :
    ∀ member ∈ members, isUuid4 member.rfcId := by
  simp only [scopeMembers, except_ok] at ran
  obtain ⟨root, loaded, ran⟩ := ran
  have rootForm : isUuid4 root.rfcId := by
    rw [loadRequestedRfc] at loaded
    split at loaded
    · cases loaded
    · simp only [except_ok, storedArchiveUuid] at loaded
      obtain ⟨form, -, ends⟩ := loaded
      cases ends
      exact form
  cases scopeKind with
  | exactRfc =>
    cases ran
    intro member inside
    obtain rfl := List.mem_singleton.mp inside
    exact rootForm
  | reviewedBranch =>
    simp only [except_ok] at ran
    obtain ⟨-, _, visited, ends⟩ := ran
    cases ends
    intro member inside
    rcases List.mem_cons.mp inside with rfl | inside
    · exact rootForm
    · obtain ⟨_, -, child⟩ := mem_of_image visited inside
      simp only [childMember, except_ok, storedArchiveUuid] at child
      obtain ⟨form, -, ends⟩ := child
      cases ends
      exact form

theorem ArchiveSound.operation (sound : ArchiveSound rows) {operation : RfcArchiveOperation}
    (forms : isUuid4 operation.rfcArchiveOperationId ∧ isSha256 operation.scopeFingerprint) :
    ArchiveSound { rows with operations := rows.operations ++ [operation] } where
  rfcIds := sound.rfcIds
  revisions := sound.revisions
  reached := sound.reached
  eventKeys := sound.eventKeys
  origins := by
    intro event recorded
    rw [List.map_append]
    exact List.mem_append_left _ (sound.origins event recorded)
  members := by
    refine ⟨fun member inside => ?_, sound.members.distinct, sound.members.forms⟩
    rw [List.map_append]
    exact List.mem_append_left _ (sound.members.owners member inside)
  operationForms := by
    intro held inside
    rcases Rows.mem_concat inside with before | rfl
    · exact sound.operationForms held before
    · exact forms
  eventForms := sound.eventForms
  left := by
    intro row inside
    rcases sound.left row inside with unmoved | ⟨event, latest, state⟩
    · exact .inl unmoved
    · exact .inr ⟨event, ⟨latest.recorded, latest.rfc, latest.greatest⟩, state⟩

/-- An archive that returns changed nothing, or recorded a new operation and
moved RFCs under it. -/
theorem archive_ok {python : PythonLibrary} {scopeKind : ArchiveScopeKind} {reviewed : String}
    {result : ArchiveRfcResult} (sound : ArchiveSound rows)
    (ran : (archive python newUuid4 rfcId scopeKind reviewed).run rows = .ok (result, next)) :
    (result.rfcArchiveOperationId = none ∧ next = rows) ∨
      ∃ operation rfcIds, result.rfcArchiveOperationId = some operation.rfcArchiveOperationId ∧
        operation.rfcArchiveOperationId ∉ rows.operations.map (·.rfcArchiveOperationId) ∧
        ArchiveSound { rows with operations := rows.operations ++ [operation] } ∧
        Sweep operation.rfcArchiveOperationId .archived
          { rows with operations := rows.operations ++ [operation] } rfcIds next := by
  simp only [archive, steps_ok, ensure_ok] at ran
  obtain ⟨-, form, _, resolved, reviewedScope, ran⟩ := ran
  simp only [resolveArchiveScope, except_ok] at resolved
  obtain ⟨_, collected, fingerprint, -, ends⟩ := resolved
  cases ends
  split at ran
  · simp only [pure_ok] at ran
    obtain ⟨rfl, rfl⟩ := ran
    exact .inl ⟨rfl, rfl⟩
  · simp only [insertArchiveOperation, steps_ok] at ran
    obtain ⟨⟨fresh, -⟩, _, _, moves, -, rfl, rfl⟩ := ran
    have forms : isUuid4 (newUuid4 0).value ∧ isSha256 fingerprint :=
      ⟨(newUuid4 0).canonical, by rw [show fingerprint = reviewed from reviewedScope]; exact form⟩
    have inserted : ArchiveSound { rows with
        operations := rows.operations ++ [⟨(newUuid4 0).value, rfcId, scopeKind, fingerprint⟩] } :=
      sound.operation forms
    exact .inr ⟨_, _, rfl, fresh, inserted,
      archiveMembers_ok inserted (scopeMembers_canonical collected) moves⟩

/-- The RFC is a member of the operation, its latest archive event is the
operation's archive, and it is still archived. -/
def Restorable (rows : ArchiveRows) (operationId rfcId : String) : Prop :=
  (∃ member ∈ rows.members,
    member.rfcArchiveOperationId = operationId ∧ member.rfcId = rfcId) ∧
    rows.stateOf rfcId = some .archived ∧
    ∃ event, LatestEvent rows rfcId event ∧ event.eventType = .archived ∧
      event.originArchiveOperationId = operationId

theorem mem_operationMemberRows :
    row ∈ operationMemberRows rows operationId ↔
      row.member ∈ rows.members ∧ row.member.rfcArchiveOperationId = operationId ∧
        (∃ rfc ∈ rows.rfcs, rfc.rfcId = row.member.rfcId ∧
          rfc.localArchiveState = row.currentArchiveState) ∧
        LatestEvent rows row.member.rfcId row.latest := by
  obtain ⟨member, _, latest⟩ := row
  simp only [operationMemberRows, List.mem_insertionSort, List.mem_flatMap, List.mem_filter,
    List.mem_map, decide_eq_true_eq, OperationMemberRow.mk.injEq, latestEvent_iff]
  constructor
  · rintro ⟨_, ⟨inside, operation⟩, rfc, ⟨present, own⟩, _, ⟨recorded, same, greatest⟩,
      rfl, rfl, rfl⟩
    exact ⟨inside, operation, ⟨rfc, present, own, rfl⟩, recorded, same, greatest⟩
  · rintro ⟨inside, operation, ⟨rfc, present, own, rfl⟩, recorded, same, greatest⟩
    exact ⟨member, ⟨inside, operation⟩, rfc, ⟨present, own⟩, latest, ⟨recorded, same, greatest⟩,
      rfl, rfl, rfl⟩

theorem operationMemberFromRow_ok (ran : operationMemberFromRow operationId row = .ok member) :
    member.rfcId = row.member.rfcId ∧ (member.restoreEligible = true ↔
      row.currentArchiveState = .archived ∧ row.latest.eventType = .archived ∧
        row.latest.originArchiveOperationId = operationId) := by
  simp only [operationMemberFromRow, except_ok] at ran
  obtain ⟨-, -, -, ends⟩ := ran
  cases ends
  exact ⟨rfl, by simp⟩

/-- The members the command finds eligible are the restorable RFCs. -/
theorem eligible_iff (sound : ArchiveSound rows)
    (visited : (operationMemberRows rows operationId).mapM (operationMemberFromRow operationId) =
      .ok members) :
    rfcId ∈ (members.filter (·.restoreEligible)).map (·.rfcId) ↔
      Restorable rows operationId rfcId := by
  simp only [List.mem_map, List.mem_filter]
  constructor
  · rintro ⟨member, ⟨inside, eligible⟩, rfl⟩
    obtain ⟨row, listed, parsed⟩ := mem_of_image visited inside
    obtain ⟨own, iff⟩ := operationMemberFromRow_ok parsed
    obtain ⟨archived, type, origin⟩ := iff.mp eligible
    obtain ⟨placed, operation, ⟨rfc, present, same, state⟩, latest⟩ :=
      mem_operationMemberRows.mp listed
    rw [own]
    refine ⟨⟨row.member, placed, operation, rfl⟩, ?_, row.latest, latest, type, origin⟩
    rw [ArchiveRows.stateOf, ArchiveRows.rfc?, ← same, find?_eq_some sound.rfcIds present,
      Option.map_some, state, archived]
  · rintro ⟨⟨member, placed, operation, rfl⟩, state, event, latest, type, origin⟩
    obtain ⟨rfc, found, archived⟩ := Option.map_eq_some_iff.mp state
    obtain ⟨present, same⟩ := key_of_find? found
    have row : (⟨member, rfc.localArchiveState, event⟩ : OperationMemberRow) ∈
        operationMemberRows rows operationId :=
      mem_operationMemberRows.mpr ⟨placed, operation, ⟨rfc, present, same, rfl⟩, latest⟩
    obtain ⟨image, listed, parsed⟩ := image_of_mem visited row
    obtain ⟨own, iff⟩ := operationMemberFromRow_ok parsed
    exact ⟨image, ⟨listed, iff.mpr ⟨archived, type, origin⟩⟩, own⟩

/-- A restore that returns moved exactly the restorable RFCs. -/
theorem restoreOperation_ok (sound : ArchiveSound rows)
    (ran : (restoreOperation newUuid4 operationId).run rows = .ok (restored, next)) :
    operationId ∈ rows.operations.map (·.rfcArchiveOperationId) ∧
      ∃ rfcIds, Sweep operationId .restored rows rfcIds next ∧
        ∀ rfcId, rfcId ∈ rfcIds ↔ Restorable rows operationId rfcId := by
  simp only [restoreOperation, steps_ok, ensure_ok] at ran
  obtain ⟨-, ⟨_, members⟩, loaded, ran⟩ := ran
  simp only [loadCompleteOperationMembers, except_ok] at loaded
  obtain ⟨_, headed, _, visited, ends⟩ := loaded
  cases ends
  refine ⟨?_, (members.filter (·.restoreEligible)).map (·.rfcId), ?_, fun _ => eligible_iff sound visited⟩
  · rw [operationHeader] at headed
    split at headed
    · cases headed
    · rename_i found present
      exact List.mem_map.mpr ⟨found, key_of_find? present⟩
  · split at ran
    · rename_i none
      simp only [pure_ok] at ran
      obtain ⟨-, rfl⟩ := ran
      rw [List.countP_eq_zero] at none
      rw [List.filter_eq_nil_iff.mpr none]
      exact .done rows
    · simp only [steps_ok] at ran
      obtain ⟨_, _, moves, -, -, rfl⟩ := ran
      exact restoreMembers_ok sound moves

/-! ## A restore goes through -/

/-- The identifiers the call draws are new and all different. -/
def FreshEventIds (newUuid4 : Nat → Uuid4) (drawn : Nat) (rows : ArchiveRows) : Prop :=
  (∀ first second, (newUuid4 first).value = (newUuid4 second).value → first = second) ∧
    ∀ later, drawn ≤ later → (newUuid4 later).value ∉ rows.events.map (·.rfcArchiveEventId)

theorem moveRfc_succeeds (moved : ArchiveState) (lost : Raised) (sound : ArchiveSound rows)
    (inside : row ∈ rows.rfcs) (own : row.rfcId = rfcId) :
    ∃ next, (moveRfc rfcId row.revision row.localArchiveState moved lost).run rows =
      .ok (⟨⟩, next) := by
  have one : rows.rfcs.countP (fun held => decide (held.rfcId = rfcId ∧
      held.revision = row.revision ∧ held.localArchiveState = row.localArchiveState)) = 1 := by
    refine countP_eq_one sound.rfcIds inside (by simp [own]) fun held _ hit => ?_
    rw [own]
    exact (of_decide_eq_true hit).1
  simp only [moveRfc, steps_ok]
  exact ⟨_, one, rfl⟩

theorem insertArchiveEvent_succeeds
    (fresh : event.rfcArchiveEventId ∉ rows.events.map (·.rfcArchiveEventId))
    (unreached : ∀ other ∈ rows.events, other.rfcId = event.rfcId →
      other.resultingRfcRevision ≠ event.resultingRfcRevision)
    (known : event.originArchiveOperationId ∈ rows.operations.map (·.rfcArchiveOperationId))
    (form : 1 < event.resultingRfcRevision) (current : ∃ row ∈ rows.rfcs,
      row.rfcId = event.rfcId ∧ row.revision = event.resultingRfcRevision) :
    (insertArchiveEvent event).run rows =
      .ok (⟨⟩, { rows with events := rows.events ++ [event] }) := by
  simp only [insertArchiveEvent, steps_ok]
  exact ⟨⟨fresh, unreached⟩, ⟨known, form⟩, current, trivial⟩

section

variable (sound : ArchiveSound rows)

include sound

theorem restoreMember_succeeds (archived : rows.stateOf member.rfcId = some .archived)
    (fresh : eventId ∉ rows.events.map (·.rfcArchiveEventId))
    (known : operationId ∈ rows.operations.map (·.rfcArchiveOperationId)) :
    ∃ next, (restoreMember operationId eventId member).run rows = .ok (⟨⟩, next) := by
  obtain ⟨row, found, state⟩ := Option.map_eq_some_iff.mp archived
  obtain ⟨inside, own⟩ := key_of_find? found
  have positive := sound.revisions row inside
  -- No event of the RFC has reached the revision the move produces.
  have unreached : ∀ other ∈ rows.events, other.rfcId = member.rfcId →
      other.resultingRfcRevision ≠ row.revision + 1 := by
    intro other recorded same
    obtain ⟨_, present, holds, _⟩ := sound.reached other recorded
    obtain rfl := List.inj_on_of_nodup_map sound.rfcIds present inside
      (holds.trans (same.trans own.symm))
    omega
  obtain ⟨middle, moves⟩ := moveRfc_succeeds .active
    (scopeStale "RFC archive restore member changed before publication") sound inside own
  rw [state] at moves
  obtain ⟨old, oldId, oldRevision, -, replaced, rest⟩ := moveRfc_ok moves
  have records : (insertArchiveEvent
      ⟨eventId, member.rfcId, .restored, operationId, row.revision + 1⟩).run middle = _ :=
    insertArchiveEvent_succeeds (by rw [rest]; exact fresh) (by rw [rest]; exact unreached)
      (by rw [rest]; exact known) (by show 1 < row.revision + 1; omega)
      ⟨_, replaced.mem_new, oldId, by show old.revision + 1 = row.revision + 1; rw [oldRevision]⟩
  refine ⟨{ middle with events := middle.events ++
    [⟨eventId, member.rfcId, .restored, operationId, row.revision + 1⟩] }, ?_⟩
  simp only [restoreMember, steps_ok, found]
  exact ⟨positive, state, middle, moves, records⟩

theorem restoreMembers_succeeds (archived : ∀ member ∈ members, member.restoreEligible →
      rows.stateOf member.rfcId = some .archived) (distinct : (members.map (·.rfcId)).Nodup)
    (fresh : FreshEventIds newUuid4 drawn rows)
    (known : operationId ∈ rows.operations.map (·.rfcArchiveOperationId)) :
    ∃ next, (restoreMembers newUuid4 operationId drawn members).run rows =
      .ok (members.countP (·.restoreEligible), next) := by
  induction members generalizing rows drawn with
  | nil => exact ⟨rows, pure_ok.mpr ⟨rfl, rfl⟩⟩
  | cons member rest ih =>
    rw [List.map_cons, List.nodup_cons] at distinct
    rw [restoreMembers]
    by_cases eligible : member.restoreEligible
    · obtain ⟨middle, moves⟩ := restoreMember_succeeds sound
        (archived member List.mem_cons_self eligible) (fresh.2 drawn le_rfl) known
      obtain ⟨row, _, rfc, -, moved, eventId, -, -, -, soundMiddle⟩ :=
        restoreMember_ok sound moves
      have later : FreshEventIds newUuid4 (drawn + 1) middle := by
        refine ⟨fresh.1, fun index above listed => ?_⟩
        rw [moved.events, List.map_append, List.mem_append, List.map_singleton,
          List.mem_singleton, eventId] at listed
        rcases listed with before | same
        · exact fresh.2 index (by omega) before
        · have := fresh.1 _ _ same
          omega
      obtain ⟨next, follows⟩ := ih soundMiddle (by
          intro other inside wanted
          have apart : other.rfcId ≠ row.rfcId := by
            rw [rfc]
            exact fun same => distinct.1 (same ▸ List.mem_map_of_mem inside)
          rw [ArchiveRows.stateOf, ArchiveRows.rfc?, moved.rfcs.find?_ne rfl apart]
          exact archived other (List.mem_cons_of_mem _ inside) wanted)
        distinct.2 later (by rw [moved.operations]; exact known)
      rw [if_pos eligible, List.countP_cons_of_pos eligible]
      simp only [steps_ok]
      exact ⟨next, middle, moves, _, next, follows, rfl, rfl⟩
    · rw [if_neg eligible, List.countP_cons_of_neg eligible]
      exact ih sound (fun other inside => archived other (List.mem_cons_of_mem _ inside))
        distinct.2 fresh known

theorem operationMemberRows_distinct (operationId : String) :
    ((operationMemberRows rows operationId).map (·.member.rfcId)).Nodup := by
  have owned : ((rows.members.filter (·.rfcArchiveOperationId = operationId)).map
      (·.rfcId)).Nodup := by
    refine List.Nodup.map_on ?_ ((List.Nodup.of_map _ sound.members.distinct).filter _)
    intro first inFirst second inSecond same
    simp only [List.mem_filter, decide_eq_true_eq] at inFirst inSecond
    exact List.inj_on_of_nodup_map sound.members.distinct inFirst.1 inSecond.1
      (Prod.ext (inFirst.2.trans inSecond.2.symm) same)
  refine ((List.perm_insertionSort _ _).map _).nodup_iff.mpr ?_
  refine owned.sublist ?_
  -- Every member contributes at most one row, of its own RFC.
  generalize rows.members.filter (·.rfcArchiveOperationId = operationId) = members
  induction members with
  | nil => exact List.Sublist.slnil
  | cons member rest ih =>
    rw [List.flatMap_cons, List.map_append, List.map_cons]
    have single : List.Sublist
        (((rows.rfcs.filter (·.rfcId = member.rfcId)).flatMap fun rfc =>
          (rows.events.filter fun event => event.rfcId = member.rfcId ∧
            rows.latestRevision member.rfcId = some event.resultingRfcRevision).map fun event =>
              (⟨member, rfc.localArchiveState, event⟩ : OperationMemberRow)).map (·.member.rfcId))
        [member.rfcId] := by
      have rfcs : rows.rfcs.filter (·.rfcId = member.rfcId) = [] ∨
          ∃ rfc, rows.rfcs.filter (·.rfcId = member.rfcId) = [rfc] :=
        filter_keyed sound.rfcIds fun row _ hit => of_decide_eq_true hit
      have events : (rows.events.filter fun event => event.rfcId = member.rfcId ∧
            rows.latestRevision member.rfcId = some event.resultingRfcRevision) = [] ∨
          ∃ event, (rows.events.filter fun event => event.rfcId = member.rfcId ∧
            rows.latestRevision member.rfcId = some event.resultingRfcRevision) = [event] := by
        cases top : rows.latestRevision member.rfcId with
        | none => simp
        | some revision =>
          refine filter_keyed sound.eventKeys fun event _ hit =>
            (?_ : (event.rfcId, event.resultingRfcRevision) = (member.rfcId, revision))
          simp only [decide_eq_true_eq, Option.some.injEq] at hit
          exact Prod.ext hit.1 hit.2.symm
      rcases rfcs with none | ⟨rfc, one⟩
      · rw [none]
        simp
      · rw [one, List.flatMap_singleton]
        rcases events with none | ⟨event, one⟩
        · rw [none]
          simp
        · rw [one]
          simp
    exact single.append ih

theorem loadCompleteOperationMembers_succeeds
    (known : operationId ∈ rows.operations.map (·.rfcArchiveOperationId)) :
    ∃ header members, loadCompleteOperationMembers rows operationId = .ok (header, members) ∧
      members.map (·.rfcId) = (operationMemberRows rows operationId).map (·.member.rfcId) ∧
      (operationMemberRows rows operationId).mapM (operationMemberFromRow operationId) =
        .ok members := by
  obtain ⟨header, headed⟩ : ∃ header, operationHeader rows operationId = .ok header := by
    obtain ⟨operation, inside, own⟩ := List.mem_map.mp known
    rw [operationHeader]
    cases found : rows.operations.find? (·.rfcArchiveOperationId = operationId) with
    | none => exact absurd own (by simpa using List.find?_eq_none.mp found operation inside)
    | some header =>
      have form := (sound.operationForms header (List.mem_of_find?_eq_some found)).2
      exact ⟨header, except_bind_ok.mpr ⟨(), ensure_ok.mpr form, rfl⟩⟩
  have each : ∀ row ∈ operationMemberRows rows operationId,
      ∃ member, operationMemberFromRow operationId row = .ok member := by
    intro row listed
    obtain ⟨placed, -, -, latest⟩ := mem_operationMemberRows.mp listed
    obtain ⟨form, positive, next⟩ := sound.members.forms row.member placed
    obtain ⟨operation, owned, origin⟩ := List.mem_map.mp (sound.origins _ latest.recorded)
    have canonical : isUuid4 row.latest.originArchiveOperationId :=
      origin ▸ (sound.operationForms operation owned).1
    simp only [operationMemberFromRow, storedArchiveUuid, except_ok]
    exact ⟨_, form, canonical, ⟨positive, next, sound.eventForms _ latest.recorded⟩, rfl⟩
  obtain ⟨members, visited⟩ := mapM_succeeds each
  refine ⟨header, members, except_bind_ok.mpr ⟨header, headed,
    except_bind_ok.mpr ⟨members, visited, rfl⟩⟩, ?_, visited⟩
  have pairs := mapM_ok.mp visited
  clear visited each
  generalize operationMemberRows rows operationId = listed at pairs
  induction pairs with
  | nil => rfl
  | cons parsed _ ih => rw [List.map_cons, List.map_cons, ih, (operationMemberFromRow_ok parsed).1]

theorem restoreOperation_nothing
    (known : operationId ∈ rows.operations.map (·.rfcArchiveOperationId))
    (nothing : ∀ rfcId, ¬ Restorable rows operationId rfcId) :
    (restoreOperation newUuid4 operationId).run rows = .ok (0, rows) := by
  obtain ⟨header, members, loaded, -, visited⟩ :=
    loadCompleteOperationMembers_succeeds sound known
  obtain ⟨operation, inside, own⟩ := List.mem_map.mp known
  have canonical : isUuid4 operationId := own ▸ (sound.operationForms operation inside).1
  have none : members.countP (·.restoreEligible) = 0 := by
    rw [List.countP_eq_zero]
    intro member listed eligible
    exact nothing member.rfcId ((eligible_iff sound visited).mp
      (List.mem_map.mpr ⟨member, List.mem_filter.mpr ⟨listed, eligible⟩, rfl⟩))
  simp only [restoreOperation, steps_ok]
  refine ⟨ensure_ok.mpr canonical, (header, members), loaded, ?_⟩
  rw [if_pos none, pure_ok]
  exact ⟨rfl, rfl⟩

/-- A recorded operation can be restored, whatever happened to its members since. -/
theorem restoreOperation_succeeds (fresh : FreshEventIds newUuid4 1 rows)
    (known : operationId ∈ rows.operations.map (·.rfcArchiveOperationId)) :
    ∃ restored next, (restoreOperation newUuid4 operationId).run rows = .ok (restored, next) := by
  obtain ⟨header, members, loaded, same, visited⟩ :=
    loadCompleteOperationMembers_succeeds sound known
  obtain ⟨operation, inside, own⟩ := List.mem_map.mp known
  have canonical : isUuid4 operationId := own ▸ (sound.operationForms operation inside).1
  have distinct : (members.map (·.rfcId)).Nodup :=
    same ▸ operationMemberRows_distinct sound operationId
  have restorable : ∀ member ∈ members, member.restoreEligible →
      Restorable rows operationId member.rfcId := fun member listed eligible =>
    (eligible_iff sound visited).mp
      (List.mem_map.mpr ⟨member, List.mem_filter.mpr ⟨listed, eligible⟩, rfl⟩)
  by_cases none : members.countP (·.restoreEligible) = 0
  · refine ⟨0, rows, restoreOperation_nothing sound known fun rfcId wanted => ?_⟩
    obtain ⟨member, listed, -⟩ := List.mem_map.mp ((eligible_iff sound visited).mpr wanted)
    exact List.countP_eq_zero.mp none member (List.mem_filter.mp listed).1
      (List.mem_filter.mp listed).2
  · obtain ⟨next, restores⟩ := restoreMembers_succeeds sound
      (fun member listed eligible => (restorable member listed eligible).2.1) distinct fresh known
    refine ⟨members.countP (·.restoreEligible), next, ?_⟩
    simp only [restoreOperation, steps_ok]
    refine ⟨ensure_ok.mpr canonical, (header, members), loaded, ?_⟩
    simp only [none, if_false, steps_ok]
    exact ⟨_, next, restores, rfl, rfl, rfl⟩

end

/-! ## Runs -/

/-- What any other command may do to the RFCs: revise them, insert new ones as
active and delete ones without archive history. None writes the archive tables. -/
structure Elsewhere (rows next : ArchiveRows) : Prop where
  operations : next.operations = rows.operations
  members : next.members = rows.members
  events : next.events = rows.events
  rfcIds : (next.rfcs.map (·.rfcId)).Nodup
  rfcs : ∀ row ∈ next.rfcs,
    (∃ old ∈ rows.rfcs, old.rfcId = row.rfcId ∧
      old.localArchiveState = row.localArchiveState ∧ old.revision ≤ row.revision) ∨
    (row.localArchiveState = .active ∧ 0 < row.revision ∧ row.rfcId ∉ rows.rfcs.map (·.rfcId))
  kept : ∀ event ∈ rows.events, ∀ old ∈ rows.rfcs, old.rfcId = event.rfcId →
    ∃ row ∈ next.rfcs, row.rfcId = old.rfcId

/-- One transaction. -/
inductive ArchiveStep (python : PythonLibrary) (rows : ArchiveRows) : ArchiveRows → Prop where
  | archive (newUuid4 : Nat → Uuid4) (rfcId : String) (scopeKind : ArchiveScopeKind)
      (reviewedScopeFingerprint : String) :
      ArchiveStep python rows
        (commit (archive python newUuid4 rfcId scopeKind reviewedScopeFingerprint) rows).2
  | restoreOperation (newUuid4 : Nat → Uuid4) (rfcArchiveOperationId : String) :
      ArchiveStep python rows (commit (restoreOperation newUuid4 rfcArchiveOperationId) rows).2
  | elsewhere {next : ArchiveRows} : Elsewhere rows next → ArchiveStep python rows next

/-- No archive was requested yet, and every RFC is active. -/
structure Unarchived (rows : ArchiveRows) : Prop where
  operations : rows.operations = []
  members : rows.members = []
  events : rows.events = []
  rfcIds : (rows.rfcs.map (·.rfcId)).Nodup
  rfcs : ∀ row ∈ rows.rfcs, row.localArchiveState = .active ∧ 0 < row.revision

theorem Unarchived.sound (unarchived : Unarchived rows) : ArchiveSound rows where
  rfcIds := unarchived.rfcIds
  revisions := fun row inside => (unarchived.rfcs row inside).2
  reached := by simp [unarchived.events]
  eventKeys := by simp [unarchived.events]
  origins := by simp [unarchived.events]
  members := ⟨by simp [unarchived.members], by simp [unarchived.members], by simp [unarchived.members]⟩
  operationForms := by simp [unarchived.operations]
  eventForms := by simp [unarchived.events]
  left := fun row inside => .inl ⟨(unarchived.rfcs row inside).1, by simp [unarchived.events]⟩

namespace Elsewhere

theorem latest (elsewhere : Elsewhere rows next) :
    LatestEvent next rfcId event ↔ LatestEvent rows rfcId event := by
  constructor
  · exact fun found => ⟨elsewhere.events ▸ found.recorded, found.rfc,
      elsewhere.events ▸ found.greatest⟩
  · exact fun found => ⟨elsewhere.events ▸ found.recorded, found.rfc,
      elsewhere.events ▸ found.greatest⟩

theorem sound (elsewhere : Elsewhere rows next) (sound : ArchiveSound rows) : ArchiveSound next where
  rfcIds := elsewhere.rfcIds
  revisions := by
    intro row inside
    rcases elsewhere.rfcs row inside with ⟨old, before, -, -, above⟩ | ⟨-, positive, -⟩
    · have := sound.revisions old before
      omega
    · exact positive
  reached := by
    intro event recorded
    rw [elsewhere.events] at recorded
    obtain ⟨old, before, own, _⟩ := sound.reached event recorded
    obtain ⟨row, inside, same⟩ := elsewhere.kept event recorded old before own
    refine ⟨row, inside, same.trans own, ?_⟩
    rcases elsewhere.rfcs row inside with ⟨prior, present, key, -, above⟩ | ⟨-, -, new⟩
    · obtain rfl := List.inj_on_of_nodup_map sound.rfcIds present before (key.trans same)
      omega
    · exact absurd (List.mem_map.mpr ⟨old, before, same.symm⟩) new
  eventKeys := by
    rw [elsewhere.events]
    exact sound.eventKeys
  origins := by
    rw [elsewhere.events, elsewhere.operations]
    exact sound.origins
  members := by
    obtain ⟨owners, distinct, forms⟩ := sound.members
    refine ⟨?_, ?_, ?_⟩ <;> rw [elsewhere.members]
    · rw [elsewhere.operations]
      exact owners
    · exact distinct
    · exact forms
  operationForms := by
    rw [elsewhere.operations]
    exact sound.operationForms
  eventForms := by
    rw [elsewhere.events]
    exact sound.eventForms
  left := by
    intro row inside
    rcases elsewhere.rfcs row inside with ⟨old, before, key, state, -⟩ | ⟨active, -, new⟩
    · rcases sound.left old before with ⟨unmoved, none⟩ | ⟨event, found, left⟩
      · exact .inl ⟨state ▸ unmoved, by rw [elsewhere.events, ← key]; exact none⟩
      · exact .inr ⟨event, elsewhere.latest.mpr (key ▸ found), state ▸ left⟩
    · refine .inl ⟨active, fun event recorded same => new ?_⟩
      rw [elsewhere.events] at recorded
      obtain ⟨old, before, own, -⟩ := sound.reached event recorded
      exact List.mem_map.mpr ⟨old, before, own.trans same⟩

theorem restorable (elsewhere : Elsewhere rows next) (sound : ArchiveSound rows)
    (restorable : Restorable next operationId rfcId) : Restorable rows operationId rfcId := by
  obtain ⟨member, state, event, latest, type, origin⟩ := restorable
  refine ⟨elsewhere.members ▸ member, ?_, event, elsewhere.latest.mp latest, type, origin⟩
  obtain ⟨row, found, archived⟩ := Option.map_eq_some_iff.mp state
  obtain ⟨inside, own⟩ := key_of_find? found
  rcases elsewhere.rfcs row inside with ⟨old, before, key, same, -⟩ | ⟨active, -, -⟩
  · rw [ArchiveRows.stateOf, ArchiveRows.rfc?, ← own, ← key, find?_eq_some sound.rfcIds before,
      Option.map_some, same, archived]
  · rw [active] at archived
    cases archived

end Elsewhere

variable {python : PythonLibrary}

theorem ArchiveStep.sound (step : ArchiveStep python rows next) (sound : ArchiveSound rows) :
    ArchiveSound next := by
  cases step with
  | archive newUuid4 rfcId scopeKind reviewed =>
    refine commit_holds sound fun result after ran => ?_
    rcases archive_ok sound ran with ⟨-, rfl⟩ | ⟨operation, rfcIds, -, -, inserted, sweep⟩
    · exact sound
    · exact sweep.sound inserted
  | restoreOperation newUuid4 operationId =>
    refine commit_holds sound fun restored after ran => ?_
    obtain ⟨-, rfcIds, sweep, -⟩ := restoreOperation_ok sound ran
    exact sweep.sound sound
  | elsewhere elsewhere => exact elsewhere.sound sound

/-- The operation is recorded and has nothing left to restore. -/
def Spent (operationId : String) (rows : ArchiveRows) : Prop :=
  operationId ∈ rows.operations.map (·.rfcArchiveOperationId) ∧
    ∀ rfcId, ¬ Restorable rows operationId rfcId

/-- A spent operation stays spent: only its own archive records its events. -/
theorem ArchiveStep.spent (step : ArchiveStep python rows next) (sound : ArchiveSound rows)
    (spent : Spent operationId rows) : Spent operationId next := by
  cases step with
  | archive newUuid4 rfcId scopeKind reviewed =>
    refine commit_holds spent fun result after ran => ?_
    rcases archive_ok sound ran with ⟨-, rfl⟩ | ⟨operation, rfcIds, -, fresh, inserted, sweep⟩
    · exact spent
    refine ⟨by rw [sweep.operations, List.map_append]; exact List.mem_append_left _ spent.1, ?_⟩
    rintro held ⟨⟨member, listed, owner, own⟩, state, event, latest, type, origin⟩
    have apart : operation.rfcArchiveOperationId ≠ operationId := fun same => fresh (same ▸ spent.1)
    by_cases moved : held ∈ rfcIds
    · obtain ⟨_, found, its, -⟩ := sweep.latest_moved inserted moved
      have same := (sweep.sound inserted).latest_unique found latest
      exact apart (its.symm.trans (same ▸ origin))
    · refine spent.2 held ⟨⟨member, ?_, owner, own⟩, ?_, event, ?_, type, origin⟩
      · rcases sweep.members_added member listed with before | ⟨other, -⟩
        · exact before
        · exact absurd (other.symm.trans owner) apart
      · rw [sweep.stateOf_untouched moved] at state
        exact state
      · have before := (sweep.latest_untouched moved).mp latest
        exact ⟨before.recorded, before.rfc, before.greatest⟩
  | restoreOperation newUuid4 other =>
    refine commit_holds spent fun restored after ran => ?_
    obtain ⟨-, rfcIds, sweep, -⟩ := restoreOperation_ok sound ran
    refine ⟨by rw [sweep.operations]; exact spent.1, ?_⟩
    rintro held ⟨⟨member, listed, owner, own⟩, state, event, latest, type, origin⟩
    by_cases moved : held ∈ rfcIds
    · rw [sweep.stateOf_moved sound moved] at state
      cases state
    · refine spent.2 held ⟨⟨member, ?_, owner, own⟩, ?_, event, ?_, type, origin⟩
      · rcases sweep.members_added member listed with before | ⟨-, impossible⟩
        · exact before
        · exact absurd (own ▸ impossible) moved
      · rw [sweep.stateOf_untouched moved] at state
        exact state
      · exact (sweep.latest_untouched moved).mp latest
  | elsewhere elsewhere =>
    refine ⟨by rw [elsewhere.operations]; exact spent.1, fun held restorable => ?_⟩
    exact spent.2 held (elsewhere.restorable sound restorable)

/-- In every state a run reaches, the archive states are those the latest events
leave; a restore reactivates the restorable RFCs and touches no other; restoring
what an archive has just done goes through and brings every state back; and once
restored an operation has nothing left to restore, whatever runs in between. -/
theorem archive_restore_inverse (reached : Reachable Unarchived (ArchiveStep python) rows) :
    (∀ row ∈ rows.rfcs, LeftByLatest rows row) ∧
    (∀ newUuid4 operationId restored next,
      (restoreOperation newUuid4 operationId).run rows = .ok (restored, next) →
        ∀ rfcId, (Restorable rows operationId rfcId → next.stateOf rfcId = some .active) ∧
          (¬ Restorable rows operationId rfcId → next.rfc? rfcId = rows.rfc? rfcId)) ∧
    (∀ newUuid4 rfcId scopeKind reviewed result archived operationId,
      (archive python newUuid4 rfcId scopeKind reviewed).run rows = .ok (result, archived) →
        result.rfcArchiveOperationId = some operationId →
          (∀ fresh, FreshEventIds fresh 1 archived →
            ∃ restored next, (restoreOperation fresh operationId).run archived =
              .ok (restored, next)) ∧
          ∀ fresh restored next,
            (restoreOperation fresh operationId).run archived = .ok (restored, next) →
              ∀ held, next.stateOf held = rows.stateOf held) ∧
    (∀ newUuid4 operationId restored next later again,
      (restoreOperation newUuid4 operationId).run rows = .ok (restored, next) →
        Later (ArchiveStep python) next later →
          (restoreOperation again operationId).run later = .ok (0, later)) := by
  have sound : ArchiveSound rows :=
    reached.invariant ArchiveSound (fun _ initial => initial.sound)
      fun _ _ holds step => step.sound holds
  refine ⟨sound.left, ?_, ?_, ?_⟩
  · intro newUuid4 operationId restored next ran rfcId
    obtain ⟨-, rfcIds, sweep, exact⟩ := restoreOperation_ok sound ran
    exact ⟨fun wanted => sweep.stateOf_moved sound ((exact rfcId).mpr wanted),
      fun unwanted => sweep.untouched fun moved => unwanted ((exact rfcId).mp moved)⟩
  · intro newUuid4 rfcId scopeKind reviewed result archived operationId ran its
    rcases archive_ok sound ran with ⟨none, -⟩ | ⟨operation, rfcIds, own, fresh, inserted, sweep⟩
    · rw [its] at none
      cases none
    obtain rfl := Option.some.inj (its.symm.trans own)
    have known : operation.rfcArchiveOperationId ∈
        archived.operations.map (·.rfcArchiveOperationId) := by
      rw [sweep.operations, List.map_append]
      exact List.mem_concat_self
    refine ⟨fun _ new => restoreOperation_succeeds (sweep.sound inserted) new known, ?_⟩
    intro _ restored next back held
    obtain ⟨-, restoredIds, undo, exact⟩ := restoreOperation_ok (sweep.sound inserted) back
    by_cases moved : held ∈ rfcIds
    · -- What the archive moved was active, and is restorable.
      obtain ⟨state, before, other⟩ := sweep.stateOf_before inserted moved
      obtain ⟨event, latest, origin, type⟩ := sweep.latest_moved inserted moved
      have restorable : Restorable archived operation.rfcArchiveOperationId held :=
        ⟨sweep.members_moved held moved, sweep.stateOf_moved inserted moved, event, latest, type,
          origin⟩
      rw [undo.stateOf_moved (sweep.sound inserted) ((exact held).mpr restorable)]
      cases state with
      | active => exact before.symm
      | archived => exact absurd rfl other
    · -- Nothing else belongs to the operation.
      have unwanted : held ∉ restoredIds := by
        intro wanted
        obtain ⟨⟨member, listed, owner, same⟩, -⟩ := (exact held).mp wanted
        rcases sweep.members_added member listed with before | ⟨-, inside⟩
        · exact fresh (owner ▸ sound.members.owners member before)
        · exact moved (same ▸ inside)
      rw [undo.stateOf_untouched unwanted, sweep.stateOf_untouched moved]
      rfl
  · intro newUuid4 operationId restored next later again ran continued
    obtain ⟨known, rfcIds, sweep, exact⟩ := restoreOperation_ok sound ran
    have spent : Spent operationId next := by
      refine ⟨by rw [sweep.operations]; exact known, ?_⟩
      rintro held ⟨⟨member, listed, owner, own⟩, state, event, latest, type, origin⟩
      by_cases moved : held ∈ rfcIds
      · rw [sweep.stateOf_moved sound moved] at state
        cases state
      · refine moved ((exact held).mpr ⟨⟨member, ?_, owner, own⟩, ?_, event, ?_, type, origin⟩)
        · rcases sweep.members_added member listed with before | ⟨-, impossible⟩
          · exact before
          · exact absurd (own ▸ impossible) moved
        · rw [sweep.stateOf_untouched moved] at state
          exact state
        · exact (sweep.latest_untouched moved).mp latest
    have held : ArchiveSound later ∧ Spent operationId later :=
      continued.preserves (fun state => ArchiveSound state ∧ Spent operationId state)
        (fun _ _ both step => ⟨step.sound both.1, step.spent both.1 both.2⟩)
        ⟨sweep.sound sound, spent⟩
    exact restoreOperation_nothing held.1 held.2.1 held.2.2

/-! ## A branch of two RFCs -/

def branchRoot : Uuid4 := ⟨"00000000-0000-4000-8000-0000000000d1", by decide +kernel⟩
def branchChild : Uuid4 := ⟨"00000000-0000-4000-8000-0000000000d2", by decide +kernel⟩

def smallBranch : ArchiveRows where
  rfcs := [⟨branchRoot.value, none, .active, 1⟩, ⟨branchChild.value, none, .active, 3⟩]
  hierarchyEdges := [⟨"edge", branchRoot.value, branchChild.value, .active⟩]
  operations := []
  members := []
  events := []

/-- Identifiers of an archive; those of a restore differ from them. -/
def archiveIds : Nat → Uuid4
  | 0 => ⟨"00000000-0000-4000-8000-0000000000e0", by decide +kernel⟩
  | 2 => ⟨"00000000-0000-4000-8000-0000000000e2", by decide +kernel⟩
  | 3 => ⟨"00000000-0000-4000-8000-0000000000e3", by decide +kernel⟩
  | _ => ⟨"00000000-0000-4000-8000-0000000000e1", by decide +kernel⟩

def restoreIds : Nat → Uuid4
  | 0 => ⟨"00000000-0000-4000-8000-0000000000f0", by decide +kernel⟩
  | 1 => ⟨"00000000-0000-4000-8000-0000000000f1", by decide +kernel⟩
  | _ => ⟨"00000000-0000-4000-8000-0000000000f2", by decide +kernel⟩

def zeroDigest : PythonLibrary where
  jsonLoads := fun _ => none
  sha256Hex := fun _ => String.ofList (List.replicate 64 '0')

/-- Archiving the branch and restoring the operation brings both RFCs back. -/
theorem small_branch_comes_back : ∃ result archived restored next,
      (archive zeroDigest archiveIds branchRoot.value .reviewedBranch
        (String.ofList (List.replicate 64 '0'))).run smallBranch = .ok (result, archived) ∧
      (restoreOperation restoreIds (archiveIds 0).value).run archived = .ok (restored, next) ∧
      archived.stateOf branchChild.value = some .archived ∧
      ∀ held, next.stateOf held = smallBranch.stateOf held := by
  have start : Reachable Unarchived (ArchiveStep zeroDigest) smallBranch :=
    .start ⟨rfl, rfl, rfl, by decide +kernel, by decide +kernel⟩
  have runs : ∃ outcome ∈ ((archive zeroDigest archiveIds branchRoot.value .reviewedBranch
      (String.ofList (List.replicate 64 '0'))).run smallBranch).toOption,
      ∃ back ∈ ((restoreOperation restoreIds (archiveIds 0).value).run outcome.2).toOption,
        outcome.1.rfcArchiveOperationId = some (archiveIds 0).value ∧
        outcome.2.stateOf branchChild.value = some .archived ∧ back.1 = 2 := by
    decide +kernel
  obtain ⟨⟨result, archived⟩, archives, ⟨restored, next⟩, restores, its, state, -⟩ := runs
  have archived_ok := ok_of_toOption archives
  have restored_ok := ok_of_toOption restores
  exact ⟨result, archived, restored, next, archived_ok, restored_ok, state,
    ((archive_restore_inverse start).2.2.1 _ _ _ _ _ _ _ archived_ok its).2 _ _ _ restored_ok⟩

end Soma.Tickets
