import Soma.Inventory.TagDrafts

/-!
A submission, its correction and what the warehouse says move members of a tag
together and write the projection of the tag after them. While the members move,
the tag is pending; the last statement settles it.
-/

namespace Soma.Inventory

open Foundation Transaction Rows

/-! ## Moving members -/

section Moving

variable {rows : InventoryRows} {state : MembershipState}

theorem drawFor_map {Item Image : Type} (call : RequestCall) (drawn : Nat) (items : List Item)
    (read : Item → Image) : (call.drawFor drawn items).map (fun item => read item.2) =
      items.map read := by
  rw [RequestCall.drawFor, List.map_map]
  conv_rhs => rw [← List.zipIdx_map_fst 0 items, List.map_map]
  rfl

theorem moves_gives {Drawn : Type} {round : InventoryRows → Drawn → Except Raised InventoryRows}
    (membershipId : Drawn → String)
    (rounds : ∀ before element, (before.tags.current.map (·.faultTagMembershipId)).Nodup →
      Gives (fun after => Moved state [membershipId element] before.tags after.tags)
        (round before element))
    (keyed : (rows.tags.current.map (·.faultTagMembershipId)).Nodup) (drawn : List Drawn) :
    Gives (fun after => Moved state (drawn.map membershipId) rows.tags after.tags)
      (drawn.foldlM round rows) := by
  let followed (done : List Drawn) (after : InventoryRows) : Prop :=
    Moved state (done.map membershipId) rows.tags after.tags
  have start : followed [] rows := Moved.none state rows.tags
  have loop : Gives (followed drawn) (drawn.foldlM round rows) := by
    refine Yields.foldlM_done drawn start fun done before element _ moved => ?_
    have still : (before.tags.current.map (·.faultTagMembershipId)).Nodup :=
      moved.currentIds ▸ keyed
    refine (rounds before element still).mono fun after own => ?_
    change Moved state ((done ++ [element]).map membershipId) rows.tags after.tags
    rw [List.map_append]
    exact moved.trans own
  exact loop

theorem moveThen_gives (tables : TagTables)
    (keyed : (tables.current.map (·.faultTagMembershipId)).Nodup) (move : MembershipMove)
    (active : move.activeSubmitted = move.state.isActive) (rmas : Except Raised RmaTables) :
    Gives (fun after => Moved move.state [move.event.faultTagMembershipId] tables after.tags) do
      let tags ← moveMembership move tables
      let rmas ← rmas
      return { rows with tags, rmas } :=
  (moveMembership_gives keyed move active).bind fun _ moved =>
    (gives_any rmas).bind fun _ _ => moved

section

variable (keyed : (rows.tags.current.map (·.faultTagMembershipId)).Nodup)

include keyed

theorem submitMember_gives (snapshotId : String) (drawn : String × String × TagMember) :
    Gives (fun after => Moved .submittedAwaitingReceipt
        [drawn.2.2.membership.faultTagMembershipId] rows.tags after.tags)
      (submitMember snapshotId rows drawn) := by
  refine (gives_any _).bind fun _ _ => (gives_any _).bind fun membershipSnapshots _ => ?_
  exact (moveThen_gives { rows.tags with membershipSnapshots } keyed _ rfl _).mono
    fun after moved => { moved with }

theorem withdrawMember_gives (drawn : String × TagMember) :
    Gives (fun after => Moved .draft [drawn.2.membership.faultTagMembershipId] rows.tags after.tags)
      (withdrawMember rows drawn) :=
  (gives_any _).bind fun _ _ => moveThen_gives _ keyed _ rfl _

theorem receiveMember_gives (drawn : String × WarehouseTarget) :
    Gives (fun after => Moved .warehouseReceived [drawn.2.current.faultTagMembershipId] rows.tags
      after.tags) (receiveMember rows drawn) :=
  moveThen_gives _ keyed _ rfl _

theorem decideMember_gives
    (decision : WarehouseDecision) (drawn : String × String × WarehouseTarget) :
    Gives (fun after => Moved decision.state [drawn.2.2.current.faultTagMembershipId] rows.tags
      after.tags) (decideMember decision rows drawn) := by
  have final : false = decision.state.isActive := by cases decision <;> rfl
  exact moveThen_gives _ keyed _ final _

theorem supersedeMember_gives (drawn : String × TagMember) :
    Gives (fun after => Moved .superseded [drawn.2.membership.faultTagMembershipId] rows.tags
      after.tags) (supersedeMember rows drawn) :=
  moveThen_gives _ keyed _ rfl _

end

theorem Moved.hasTrace (moved : Moved state ids before after) (trace : before.HasTrace faultTagId) :
    after.HasTrace faultTagId := by
  obtain ⟨row, listed, here, told⟩ := trace
  refine ⟨row, moved.memberships ▸ listed, here, ?_⟩
  rw [moved.traced]
  exact List.mem_append_left _ told

theorem Moved.traces (moved : Moved state ids before after) (listed : row ∈ before.memberships)
    (hit : row.faultTagMembershipId ∈ ids) : after.HasTrace row.faultTagId := by
  refine ⟨row, moved.memberships ▸ listed, rfl, ?_⟩
  rw [moved.traced]
  exact List.mem_append_right _ hit

end Moving

/-! ## Members of a tag -/

section Members

variable {pending : String → Prop} {tables : TagTables} {faultTagId : String}

/-- The view of an identifier that `current_members` lists is of the tag. -/
theorem TagsSound.ofTag (sound : TagsSound pending tables) {view : MemberView}
    (held : view ∈ tables.views) {members : List TagMember}
    (within : ∀ member ∈ members, member ∈ tables.currentMembers faultTagId)
    (hit : view.membershipId ∈ members.map (·.membership.faultTagMembershipId)) :
    ∃ member ∈ members, member.current.view = view ∧ view.faultTagId = faultTagId := by
  obtain ⟨member, listed, named⟩ := List.mem_map.mp hit
  obtain ⟨_, there, rfl⟩ := List.mem_map.mp held
  obtain ⟨-, -, current, same, tagged⟩ := sound.member_current (within member listed)
  obtain rfl := List.inj_on_of_nodup_map sound.keyedCurrent current there (same.trans named)
  exact ⟨member, listed, rfl, tagged⟩

/-- A member of the tag is among those `current_members` lists. -/
theorem TagsSound.listed (sound : TagsSound pending tables) {view : MemberView}
    (inside : view ∈ tables.members faultTagId) :
    ∃ member ∈ tables.currentMembers faultTagId, member.current.view = view ∧
      member.membership.faultTagMembershipId = view.membershipId := by
  have hit : view.membershipId ∈
      (tables.currentMembers faultTagId).map (·.membership.faultTagMembershipId) :=
    (sound.currentMembers_ids faultTagId).mem_iff.mpr (List.mem_map_of_mem inside)
  obtain ⟨member, there, same, -⟩ := sound.ofTag (mem_membersOf.mp inside).1
    (fun _ listed => listed) hit
  obtain ⟨-, -, -, named, -⟩ := sound.member_current there
  refine ⟨member, there, same, named.symm.trans ?_⟩
  exact congrArg MemberView.membershipId same

theorem TagsSound.member_of_trace (sound : TagsSound pending tables)
    (trace : tables.HasTrace faultTagId) : ∃ view, view ∈ tables.members faultTagId := by
  obtain ⟨row, listed, here, -⟩ := trace
  have pair : (row.faultTagMembershipId, row.faultTagId) ∈
      tables.current.map fun row => (row.faultTagMembershipId, row.faultTagId) :=
    sound.aligned ▸ List.mem_map_of_mem listed
  obtain ⟨current, held, same⟩ := List.mem_map.mp pair
  exact ⟨current.view, mem_membersOf.mpr
    ⟨List.mem_map_of_mem held, (Prod.mk.inj same).2.trans here⟩⟩

theorem TagsSound.pend (settled : Settled tables) (faultTagId : String) :
    TagsSound (· = faultTagId) tables :=
  settled.mono fun _ none => none.elim

variable {before after : TagTables} {state : MembershipState}

theorem Moved.apart {members : List TagMember} (sound : TagsSound (· = faultTagId) before)
    (moved : Moved state (members.map (·.membership.faultTagMembershipId)) before after)
    (within : ∀ member ∈ members, member ∈ before.currentMembers faultTagId)
    (known : faultTagId ∈ before.projections.map (·.faultTagId)) :
    TagsSound (· = faultTagId) after := by
  refine moved.sound sound fun view inside hit => ?_
  obtain ⟨member, -, -, tagged⟩ := sound.ofTag inside within hit
  exact ⟨tagged, .inr (tagged ▸ known)⟩

theorem Moved.together (sound : TagsSound pending before)
    (moved : Moved state
      ((before.currentMembers faultTagId).map (·.membership.faultTagMembershipId)) before after) :
    ∀ member ∈ after.members faultTagId, member.state = state := by
  rw [moved.members]
  intro member inside
  obtain ⟨_, listed, rfl⟩ := List.mem_map.mp inside
  obtain ⟨_, present, -, same⟩ := sound.listed listed
  rw [MemberView.movedTo_of_mem (same ▸ List.mem_map_of_mem present)]

theorem Moved.length_members (sound : TagsSound pending before)
    (moved : Moved state ids before after) :
    (after.members faultTagId).length = (before.currentMembers faultTagId).length := by
  have counted := (sound.currentMembers_ids faultTagId).length_eq
  rw [List.length_map, List.length_map] at counted
  rw [moved.members, List.length_map]
  exact counted.symm

end Members

/-! ## Submissions -/

section Submissions

variable {rows : InventoryRows}

theorem acceptTagSubmission_advances (settled : Settled rows.tags) (call : InventoryCall)
    (faultTagId expectedFingerprint : String) (submission : TagSubmission) :
    Gives (fun after => Advances rows.tags after.tags)
      (acceptTagSubmission call faultTagId expectedFingerprint submission rows) := by
  rw [acceptTagSubmission]
  refine gives_currentTag fun detail read named => ?_
  refine gives_ensure.bind fun _ draft => (gives_any _).bind fun _ _ => ?_
  refine gives_ensure.bind fun _ nonempty => (gives_any _).bind fun pickup _ => ?_
  refine (gives_any _).bind fun _ _ => (gives_any _).bind fun snapshotHash _ => ?_
  refine (recordTagEvent_gives _ _ _ _ _ _).bind ?_
  rintro _ ⟨events, rfl⟩
  refine gives_insertKeyed.bind ?_
  rintro snapshots ⟨-, grown⟩
  let opened : TagTables := { rows.tags with events, snapshots }
  have sound : TagsSound (· = faultTagId) opened := by
    refine { settled.pend faultTagId with traced := fun snapshot inside other => ?_ }
    change snapshot ∈ snapshots at inside
    rw [grown] at inside
    rcases mem_concat inside with inside | rfl
    · exact settled.traced snapshot inside not_false
    · exact absurd rfl other
  let start : InventoryRows := { rows with tags := opened }
  have keyed : (start.tags.current.map (·.faultTagMembershipId)).Nodup := settled.keyedCurrent
  refine (moves_gives (fun drawn => drawn.2.2.membership.faultTagMembershipId)
    (fun before element held => submitMember_gives held _ element) keyed _).bind ?_
  intro after moved
  rw [drawFor_map call.toRequestCall 2 _
      fun drawn : String × TagMember => drawn.2.membership.faultTagMembershipId,
    drawFor_map call.toRequestCall _ _
      fun member : TagMember => member.membership.faultTagMembershipId] at moved
  refine (gives_any _).bind fun inputFingerprint _ => ?_
  have there : detail.projection ∈ after.tags.projections := moved.projections ▸ read
  have held : TagsSound (· = faultTagId) after.tags :=
    moved.apart sound (fun _ listed => listed) (named ▸ List.mem_map_of_mem read)
  have length : (after.tags.members faultTagId).length =
      (start.tags.currentMembers faultTagId).length := moved.length_members sound
  refine (updateTag_gives held.keyedProjections there _ _ _).bind ?_
  rintro _ ⟨-, projections, rfl, written⟩
  refine ⟨held.close written rfl (fun _ same => .inl (same.trans named.symm)) ?_ ?_, ?_⟩
  · rw [named]
    refine Fits.of_submitted rfl ?_ length.symm (moved.together sound) length.symm ⟨rfl, rfl, rfl⟩
    rw [length]
    exact Nat.pos_of_ne_zero nonempty
  · intro _
    obtain ⟨member, listed⟩ := List.exists_mem_of_length_pos (Nat.pos_of_ne_zero nonempty)
    obtain ⟨membership, tagged, -⟩ := settled.member_current listed
    have trace := moved.traces membership (List.mem_map_of_mem listed)
    rwa [tagged, ← named] at trace
  · have before : KeepsSuperseded rows.tags after.tags := .of_eq moved.projections
    refine before.trans (.of_replaced written rfl fun superseded => ?_)
    rw [draft.1] at superseded
    cases superseded

theorem latestSubmission_mem {tables : TagTables}
    (found : tables.latestSubmission faultTagId = some snapshot) :
    snapshot ∈ tables.snapshots ∧ snapshot.faultTagId = faultTagId := by
  rw [TagTables.latestSubmission] at found
  have inside := (foldl_chooses (by
    intro latest snapshot
    cases latest with
    | none => exact .inl rfl
    | some other =>
      dsimp only
      split
      · exact .inl rfl
      · exact .inr rfl) found).resolve_left (by rintro ⟨⟩)
  obtain ⟨listed, selected⟩ := List.mem_filter.mp inside
  exact ⟨listed, (of_decide_eq_true selected).1⟩

theorem requireFalseSubmission_gives (tables : TagTables)
    (faultTagId submissionEventId : String) :
    Gives (fun _ => tables.HasSubmissionHistory faultTagId)
      (requireFalseSubmission tables faultTagId submissionEventId) := by
  rw [requireFalseSubmission]
  cases found : tables.latestSubmission faultTagId with
  | none => exact gives_error _
  | some current =>
    obtain ⟨listed, here⟩ := latestSubmission_mem found
    exact (gives_any _).bind fun _ _ => (gives_any _).mono fun _ _ => ⟨current, listed, here⟩

theorem correctFalseTagSubmission_advances (settled : Settled rows.tags) (call : InventoryCall)
    (faultTagId submissionEventId : String) :
    Gives (fun after => Advances rows.tags after.tags)
      (correctFalseTagSubmission call faultTagId submissionEventId rows) := by
  rw [correctFalseTagSubmission]
  refine gives_currentTag fun detail read named => ?_
  refine (requireFalseSubmission_gives _ _ _).bind fun current history => ?_
  refine gives_ensure.bind fun _ awaiting => ?_
  refine (recordTagEvent_gives _ _ _ _ _ _).bind ?_
  rintro _ ⟨events, rfl⟩
  have trace := settled.hasTrace not_false history
  -- A replaced tag has no active member, and this one has.
  have notSuperseded : detail.projection.state ≠ .superseded := by
    intro superseded
    obtain ⟨_, inside⟩ := settled.member_of_trace trace
    obtain ⟨member, listed, rfl, -⟩ := settled.listed inside
    have inactive := (settled.fits _ read not_false).superseded superseded _ (named ▸ inside)
    exact Bool.false_ne_true (inactive.symm.trans (awaiting member listed).2)
  let start : InventoryRows := { rows with tags := { rows.tags with events } }
  have sound : TagsSound (· = faultTagId) start.tags :=
    (settled.pend faultTagId).reframe _ events _ _
  refine (moves_gives (fun drawn => drawn.2.membership.faultTagMembershipId)
    (fun before element held => withdrawMember_gives held element) sound.keyedCurrent _).bind ?_
  intro after moved
  rw [drawFor_map call.toRequestCall _ _
    fun member : TagMember => member.membership.faultTagMembershipId] at moved
  have held : TagsSound (· = faultTagId) after.tags :=
    moved.apart sound (fun _ listed => listed) (named ▸ List.mem_map_of_mem read)
  have there : detail.projection ∈ after.tags.projections := moved.projections ▸ read
  refine (gives_any _).bind fun inputFingerprint _ => ?_
  refine (updateTag_gives held.keyedProjections there _ _ _).bind ?_
  rintro _ ⟨-, projections, rfl, written⟩
  refine ⟨held.close written rfl (fun _ same => .inl (same.trans named.symm)) ?_ ?_, ?_⟩
  · rw [named]
    exact Fits.of_draft rfl (moved.together sound) ⟨rfl, rfl, rfl, rfl⟩
  · rw [named]
    exact fun _ => moved.hasTrace trace
  · have before : KeepsSuperseded rows.tags after.tags := .of_eq moved.projections
    exact before.trans (.of_replaced written rfl fun superseded =>
      absurd superseded notSuperseded)

end Submissions

end Soma.Inventory
