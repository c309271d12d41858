import Soma.Inventory.TagAggregates

/-!
Drafts of Fault Tags keep the invariant: members come and go while the tag is a
draft, and no other tag is touched. What the calls read besides the tables of tags
does not matter here.
-/

namespace Soma.Inventory

open Foundation Transaction Rows

/-- The tables of tags after a command on them: settled, and replaced tags still are. -/
structure Advances (before after : TagTables) : Prop where
  settled : Settled after
  keeps : KeepsSuperseded before after

/-- The tag is a draft, if it has a projection at all. -/
def TagTables.IsDraft (tables : TagTables) (faultTagId : String) : Prop :=
  ∀ tag ∈ tables.projections, tag.faultTagId = faultTagId → tag.state = .draft

section Members

variable {pending : String → Prop} {tables : TagTables} {faultTagId : String}

/-- The members of another tag, or of this one with the new member. -/
theorem TagsSound.addMember (sound : TagsSound pending tables) (draft : tables.IsDraft faultTagId)
    {membership : TagMembership} {current : MembershipCurrent}
    (fresh : current.faultTagMembershipId ∉ tables.current.map (·.faultTagMembershipId))
    (named : current.faultTagMembershipId = membership.faultTagMembershipId)
    (ofTag : current.faultTagId = faultTagId) (sameTag : membership.faultTagId = faultTagId)
    (state : current.state = .draft) (inactive : current.activeSubmitted = false) :
    TagsSound pending { tables with
      memberships := tables.memberships ++ [membership]
      current := tables.current ++ [current] } := by
  have views : (tables.current ++ [current]).map (·.view) = tables.views ++ [current.view] := by
    rw [List.map_append]
    rfl
  refine { sound with
    keyedCurrent := nodup_concat sound.keyedCurrent fresh
    aligned := ?_
    exclusive := ?_
    active := fun view inside => ?_
    projected := fun view inside => ?_
    traced := fun snapshot inside settled => ?_
    fits := fun tag inside settled => ?_ }
  · rw [List.map_append, List.map_append, sound.aligned, List.map_singleton, List.map_singleton,
      named, ofTag, sameTag]
  · have dropped : (tables.current ++ [current]).filter (·.activeSubmitted) =
        tables.current.filter (·.activeSubmitted) := by
      simp [List.filter_append, inactive]
    rw [Exclusive, dropped]
    exact sound.exclusive
  · change view ∈ (tables.current ++ [current]).map (·.view) at inside
    rw [views] at inside
    rcases mem_concat inside with inside | rfl
    · exact sound.active view inside
    · change current.activeSubmitted = current.state.isActive
      rw [state, inactive]
      rfl
  · change view ∈ (tables.current ++ [current]).map (·.view) at inside
    rw [views] at inside
    rcases mem_concat inside with inside | rfl
    · exact sound.projected view inside
    · exact .inl state
  · obtain ⟨row, listed, here, trace⟩ := sound.traced snapshot inside settled
    exact ⟨row, List.mem_append_left _ listed, here, trace⟩
  · change Fits (membersOf ((tables.current ++ [current]).map (·.view)) tag.faultTagId) tag
    have fits := sound.fits tag inside settled
    by_cases here : tag.faultTagId = faultTagId
    · have isDraft := draft tag inside here
      refine Fits.of_draft isDraft (fun member listed => ?_) (fits.zero isDraft)
      rw [views, membersOf, List.filter_append, List.mem_append] at listed
      rcases listed with listed | listed
      · exact fits.draft isDraft member listed
      · rw [List.mem_singleton.mp (List.mem_of_mem_filter listed)]
        exact state
    · have other : ¬ current.view.faultTagId = tag.faultTagId := fun same =>
        here (same.symm.trans ofTag)
      have same : membersOf (tables.views ++ [current.view]) tag.faultTagId =
          tables.members tag.faultTagId := by
        simp [membersOf, TagTables.members, List.filter_append, other]
      rw [views, same]
      exact fits

/-- Without a member that has left no trace. -/
theorem TagsSound.removeMember (sound : TagsSound pending tables)
    (draft : tables.IsDraft faultTagId) (membershipId : String)
    (ofTag : ∀ row ∈ tables.current, row.faultTagMembershipId = membershipId →
      row.faultTagId = faultTagId)
    (unprotected : ¬ tables.Protected membershipId) :
    TagsSound pending { tables with
      memberships := tables.memberships.filter fun row => row.faultTagMembershipId ≠ membershipId
      current := tables.current.filter fun row => row.faultTagMembershipId ≠ membershipId } := by
  have views : (tables.current.filter fun row => row.faultTagMembershipId ≠ membershipId).map
      (·.view) = tables.views.filter fun view => view.membershipId ≠ membershipId := by
    rw [TagTables.views, List.filter_map]
    rfl
  have kept : ∀ view : MemberView,
      view ∈ (tables.current.filter fun row => row.faultTagMembershipId ≠ membershipId).map
        (·.view) → view ∈ tables.views := fun view inside => by
    rw [views] at inside
    exact List.mem_of_mem_filter inside
  refine { sound with
    keyedCurrent := sound.keyedCurrent.sublist (List.filter_sublist.map _)
    aligned := ?_
    exclusive := ?_
    active := fun view inside => sound.active view (kept view inside)
    projected := fun view inside => sound.projected view (kept view inside)
    traced := fun snapshot inside settled => ?_
    fits := fun tag inside settled => ?_ }
  · have pairs := congrArg (List.filter fun pair : String × String => pair.1 ≠ membershipId)
      sound.aligned
    rw [List.filter_map, List.filter_map] at pairs
    exact pairs
  · have active : ((tables.current.filter fun row =>
        row.faultTagMembershipId ≠ membershipId).filter (·.activeSubmitted)).Sublist
          (tables.current.filter (·.activeSubmitted)) := List.filter_sublist.filter _
    obtain ⟨rma, device, spare⟩ := sound.exclusive
    exact ⟨rma.sublist (active.map _), device.sublist (active.filterMap _),
      spare.sublist (active.filterMap _)⟩
  · obtain ⟨row, listed, here, trace⟩ := sound.traced snapshot inside settled
    refine ⟨row, List.mem_filter.mpr ⟨listed, decide_eq_true fun same => ?_⟩, here, trace⟩
    exact unprotected (.inl (same ▸ trace))
  · change Fits (membersOf ((tables.current.filter _).map (·.view)) tag.faultTagId) tag
    have fits := sound.fits tag inside settled
    rw [views]
    by_cases here : tag.faultTagId = faultTagId
    · have isDraft := draft tag inside here
      refine Fits.of_draft isDraft (fun member listed => ?_) (fits.zero isDraft)
      obtain ⟨held, tagged⟩ := mem_membersOf.mp listed
      exact fits.draft isDraft member (mem_membersOf.mpr ⟨List.mem_of_mem_filter held, tagged⟩)
    · have same : membersOf (tables.views.filter fun view => view.membershipId ≠ membershipId)
          tag.faultTagId = tables.members tag.faultTagId := by
        rw [membersOf, List.filter_filter, TagTables.members, membersOf]
        refine List.filter_congr fun view held => ?_
        by_cases tagged : view.faultTagId = tag.faultTagId
        · obtain ⟨row, listed, rfl⟩ := List.mem_map.mp held
          have apart : row.view.membershipId ≠ membershipId := fun clash =>
            here (tagged.symm.trans (ofTag row listed clash))
          simp [tagged, apart]
        · simp [tagged]
      rw [same]
      exact fits

/-- A member whose unit is read again stays in place. -/
theorem TagsSound.refreshMember (sound : TagsSound pending tables)
    {memberships : List TagMembership} {current : List MembershipCurrent}
    (pairs : memberships.map (fun row => (row.faultTagMembershipId, row.faultTagId)) =
      tables.memberships.map fun row => (row.faultTagMembershipId, row.faultTagId))
    (views : current.map (·.view) = tables.views)
    (active : current.filter (·.activeSubmitted) = tables.current.filter (·.activeSubmitted)) :
    TagsSound pending { tables with memberships, current } := by
  have ids : current.map (·.faultTagMembershipId) =
      tables.current.map (·.faultTagMembershipId) := by
    have same := congrArg (List.map (·.membershipId)) views
    simpa [TagTables.views, MembershipCurrent.view, Function.comp_def] using same
  have both : current.map (fun row => (row.faultTagMembershipId, row.faultTagId)) =
      tables.current.map fun row => (row.faultTagMembershipId, row.faultTagId) := by
    have same := congrArg (List.map fun view : MemberView =>
      (view.membershipId, view.faultTagId)) views
    simpa [TagTables.views, MembershipCurrent.view, Function.comp_def] using same
  refine { sound with
    keyedCurrent := ids ▸ sound.keyedCurrent
    aligned := both.trans (sound.aligned.trans pairs.symm)
    exclusive := ?_
    active := fun view inside => sound.active view (views ▸ inside)
    projected := fun view inside => sound.projected view (views ▸ inside)
    traced := fun snapshot inside settled => ?_
    fits := fun tag inside settled => ?_ }
  · rw [Exclusive, active]
    exact sound.exclusive
  · obtain ⟨row, listed, here, trace⟩ := sound.traced snapshot inside settled
    have pair : (row.faultTagMembershipId, row.faultTagId) ∈
        memberships.map fun row => (row.faultTagMembershipId, row.faultTagId) :=
      pairs ▸ List.mem_map_of_mem listed
    obtain ⟨other, there, same⟩ := List.mem_map.mp pair
    obtain ⟨sameId, sameTag⟩ := Prod.mk.inj same
    exact ⟨other, there, sameTag.trans here, sameId ▸ trace⟩
  · change Fits (membersOf (current.map (·.view)) tag.faultTagId) tag
    rw [views]
    exact sound.fits tag inside settled

end Members

/-! ## Members of a draft -/

/-- The tags and their projections are the same. -/
structure KeepsTags (before after : TagTables) : Prop where
  projections : after.projections = before.projections
  tags : after.tags = before.tags

namespace KeepsTags

variable {first second third : TagTables}

theorem refl (tables : TagTables) : KeepsTags tables tables := ⟨rfl, rfl⟩

theorem trans (early : KeepsTags first second) (late : KeepsTags second third) :
    KeepsTags first third :=
  ⟨late.projections.trans early.projections, late.tags.trans early.tags⟩

theorem isDraft (keeps : KeepsTags first second) (draft : first.IsDraft faultTagId) :
    second.IsDraft faultTagId := by
  rw [TagTables.IsDraft, keeps.projections]
  exact draft

end KeepsTags

section Rounds

variable {pending : String → Prop} {rows : InventoryRows} {faultTagId : String}

theorem insertMembership_gives (sound : TagsSound pending rows.tags)
    (draft : rows.tags.IsDraft faultTagId) (draftRevision : Nat)
    (drawn : String × String × String) :
    Gives (fun after => TagsSound pending after.tags ∧
        KeepsTags rows.tags after.tags)
      (insertMembership faultTagId draftRevision rows drawn) := by
  obtain ⟨_, _, _⟩ := drawn
  refine (gives_any _).bind fun authority _ => ?_
  refine gives_insertKeyed.bind ?_
  rintro _ ⟨-, rfl⟩
  refine gives_insertKeyed.bind ?_
  rintro _ ⟨fresh, rfl⟩
  exact ⟨sound.addMember draft fresh rfl rfl rfl rfl rfl, rfl, rfl⟩

theorem insertMemberships_gives {rows : InventoryRows} (sound : TagsSound pending rows.tags)
    (draft : rows.tags.IsDraft faultTagId) (draftRevision : Nat)
    (drawn : List (String × String × String)) :
    Gives (fun after => TagsSound pending after.tags ∧
        KeepsTags rows.tags after.tags)
      (drawn.foldlM (insertMembership faultTagId draftRevision) rows) := by
  refine Yields.foldlM ⟨sound, .refl _⟩ ?_
  rintro before element ⟨held, same⟩
  exact (insertMembership_gives held (same.isDraft draft) draftRevision element).mono
    fun after ⟨kept, unchanged⟩ => ⟨kept, same.trans unchanged⟩

/-- Every current row was there before, with its tag. -/
def WithinCurrent (before after : TagTables) : Prop :=
  ∀ row ∈ after.current, ∃ old ∈ before.current,
    old.faultTagMembershipId = row.faultTagMembershipId ∧ old.faultTagId = row.faultTagId

theorem WithinCurrent.refl (tables : TagTables) : WithinCurrent tables tables :=
  fun row held => ⟨row, held, rfl, rfl⟩

theorem WithinCurrent.trans (early : WithinCurrent first second)
    (late : WithinCurrent second third) : WithinCurrent first third := by
  intro row listed
  obtain ⟨middle, there, sameId, sameTag⟩ := late row listed
  obtain ⟨old, held, oldId, oldTag⟩ := early middle there
  exact ⟨old, held, oldId.trans sameId, oldTag.trans sameTag⟩

theorem removeMembership_gives (sound : TagsSound pending rows.tags)
    (draft : rows.tags.IsDraft faultTagId) (member : TagMember)
    (ofTag : ∀ row ∈ rows.tags.current,
      row.faultTagMembershipId = member.membership.faultTagMembershipId →
        row.faultTagId = faultTagId) :
    Gives (fun after => TagsSound pending after.tags ∧
        KeepsTags rows.tags after.tags ∧ WithinCurrent rows.tags after.tags)
      (removeMembership member rows) := by
  refine gives_ensure.bind fun _ _ => gives_ensure.bind fun _ unprotected => ?_
  refine ⟨sound.removeMember draft _ ofTag unprotected, ⟨rfl, rfl⟩, fun row inside => ?_⟩
  exact ⟨row, List.mem_of_mem_filter inside, rfl, rfl⟩

theorem refreshMembership_gives (sound : TagsSound pending rows.tags) (draftRevision : Nat)
    (member : TagMember) (returnReason : String) :
    Gives (fun after => TagsSound pending after.tags ∧
        KeepsTags rows.tags after.tags ∧ WithinCurrent rows.tags after.tags)
      (refreshMembership faultTagId draftRevision member returnReason rows) := by
  refine (gives_any _).bind fun authority _ => ?_
  refine ⟨sound.refreshMember ?_ ?_ ?_, ⟨rfl, rfl⟩, fun row inside => ?_⟩
  · rw [List.map_map]
    refine List.map_congr_left fun row _ => ?_
    simp only [Function.comp_apply]
    split <;> rfl
  · rw [List.map_map]
    refine List.map_congr_left fun row _ => ?_
    simp only [Function.comp_apply]
    split <;> rfl
  · -- Only rows that are not active are written.
    induction rows.tags.current with
    | nil => rfl
    | cons row current ih =>
      rw [List.map_cons, List.filter_cons, List.filter_cons, ih]
      split
      · next hit => simp [hit.2.2]
      · rfl
  · obtain ⟨old, held, rfl⟩ := List.mem_map.mp inside
    refine ⟨old, held, ?_⟩
    split <;> exact ⟨rfl, rfl⟩

theorem replaceMemberships_gives (sound : TagsSound pending rows.tags)
    (draft : rows.tags.IsDraft faultTagId) (draftRevision : Nat)
    (desired : List (String × String)) :
    Gives (fun after => TagsSound pending after.tags ∧
        KeepsTags rows.tags after.tags ∧ WithinCurrent rows.tags after.tags)
      ((rows.tags.currentMembers faultTagId).foldlM
        (replaceMembership faultTagId draftRevision desired) rows) := by
  refine Yields.foldlM_mem ⟨sound, .refl _, .refl _⟩ ?_
  rintro before member inside ⟨held, same, within⟩
  obtain ⟨-, -, current, named, tagged⟩ := sound.member_current inside
  have ofTag : ∀ row ∈ before.tags.current,
      row.faultTagMembershipId = member.membership.faultTagMembershipId →
        row.faultTagId = faultTagId := by
    intro row listed own
    obtain ⟨_, there, sameId, sameTag⟩ := within row listed
    obtain rfl := List.inj_on_of_nodup_map sound.keyedCurrent there current
      (sameId.trans (own.trans named.symm))
    exact sameTag.symm.trans tagged
  have onward : Gives (fun after => TagsSound pending after.tags ∧
      KeepsTags before.tags after.tags ∧ WithinCurrent before.tags after.tags)
      (replaceMembership faultTagId draftRevision desired before member) := by
    rw [replaceMembership]
    split
    · exact removeMembership_gives held (same.isDraft draft) member ofTag
    · exact refreshMembership_gives held draftRevision member _
  exact onward.mono fun after ⟨kept, unchanged, inner⟩ =>
    ⟨kept, same.trans unchanged, within.trans inner⟩

end Rounds

/-! ## Drafts -/

section Drafts

variable {rows : InventoryRows}

theorem recordTagEvent_gives (eventId faultTagId : String) (eventKind : TagEventKind)
    (targetEventId evidenceKind : Option String) (now : Int) :
    Gives (fun after => ∃ events, after = { tables with events })
      (recordTagEvent eventId faultTagId eventKind targetEventId evidenceKind now tables) :=
  (gives_any _).bind fun events _ => ⟨events, rfl⟩

/-- A new tag: no projection knows it, and its members are drafts. -/
theorem insertTagDraft_advances (settled : Settled rows.tags) (call : InventoryCall) (drawn : Nat)
    (faultTagId : String) (trackingSequence : Nat) (trackingId : String) (draft : TagDraft) :
    Gives (fun after => Advances rows.tags after.tags)
      (insertTagDraft call drawn faultTagId trackingSequence trackingId draft rows) := by
  refine (gives_any _).bind fun _ _ => (gives_any _).bind fun _ _ => ?_
  refine gives_insertKeyed.bind ?_
  rintro tags ⟨fresh, added⟩
  refine (recordTagEvent_gives _ _ _ _ _ _).bind ?_
  rintro _ ⟨events, rfl⟩
  let opened : TagTables := { rows.tags with tags, events }
  have unknown : faultTagId ∉ rows.tags.projections.map (·.faultTagId) := fun known => by
    obtain ⟨tag, inside, rfl⟩ := List.mem_map.mp known
    exact fresh (settled.tagged tag inside)
  have sound : Settled opened := by
    refine { settled with tagged := fun tag inside => ?_ }
    change tag.faultTagId ∈ tags.map (·.faultTagId)
    rw [added, List.map_append]
    exact List.mem_append_left _ (settled.tagged tag inside)
  have isDraft : opened.IsDraft faultTagId := fun tag inside same =>
    (unknown (same ▸ List.mem_map_of_mem inside)).elim
  have members : Gives (fun after => Settled after.tags ∧ KeepsTags opened after.tags)
      ((call.drawFor (drawn + 1) draft.memberships).foldlM (insertMembership faultTagId 1)
        { rows with tags := opened }) := by
    let start : InventoryRows := { rows with tags := opened }
    have held : Settled start.tags := sound
    exact insertMemberships_gives held isDraft 1 _
  refine members.bind ?_
  rintro after ⟨held, same⟩
  refine (gives_any _).bind fun inputFingerprint _ => ?_
  refine gives_insertKeyed.bind ?_
  rintro projections ⟨-, grown⟩
  have stillUnknown : faultTagId ∉ after.tags.projections.map (·.faultTagId) := by
    rw [same.projections]
    exact unknown
  have drafts : ∀ member ∈ after.tags.members faultTagId, member.state = .draft := by
    intro member inside
    obtain ⟨view, tagged⟩ := mem_membersOf.mp inside
    exact (held.projected member view).resolve_right fun known => stillUnknown (tagged ▸ known)
  refine ⟨{ held with
    keyedProjections := ?_
    tagged := fun tag inside => ?_
    projected := fun view inside => ?_
    fits := fun tag inside settled => ?_ }, fun tag inside superseded => ?_⟩
  · rw [grown]
    exact nodup_concat held.keyedProjections stillUnknown
  · change tag ∈ projections at inside
    rw [grown] at inside
    rcases mem_concat inside with inside | rfl
    · exact held.tagged tag inside
    · change faultTagId ∈ after.tags.tags.map (·.faultTagId)
      rw [same.tags]
      change faultTagId ∈ tags.map (·.faultTagId)
      rw [added, List.map_append]
      exact List.mem_concat_self
  · change view.state = .draft ∨ view.faultTagId ∈ projections.map (·.faultTagId)
    rw [grown, List.map_append]
    exact (held.projected view inside).imp_right (List.mem_append_left _)
  · change tag ∈ projections at inside
    rw [grown] at inside
    rcases mem_concat inside with inside | rfl
    · exact held.fits tag inside settled
    · exact Fits.of_draft rfl drafts ⟨rfl, rfl, rfl, rfl⟩
  · refine ⟨tag, ?_, rfl, superseded⟩
    change tag ∈ projections
    rw [grown, same.projections]
    exact List.mem_append_left _ inside

theorem allocateFaultTagTracking_gives (tables : TagTables) :
    Gives (fun drawn => ∃ allocator, drawn.1 = { tables with allocator })
      (allocateFaultTagTracking tables) :=
  (gives_any _).bind fun _ _ => ⟨_, rfl⟩

theorem createFaultTagDraft_advances (settled : Settled rows.tags) (call : InventoryCall)
    (draft : TagDraft) :
    Gives (fun after => Advances rows.tags after.tags) (createFaultTagDraft call draft rows) := by
  refine (gives_any _).bind fun memberships _ => ?_
  refine (allocateFaultTagTracking_gives _).bind ?_
  rintro ⟨_, trackingSequence, trackingId⟩ ⟨allocator, rfl⟩
  have opened : Settled { rows.tags with allocator } := { settled with }
  have inserted : Gives (fun after => Advances { rows.tags with allocator } after.tags)
      (insertTagDraft call 1 (call.newUuid4 0).value trackingSequence trackingId
        { draft with memberships } { rows with tags := { rows.tags with allocator } }) :=
    insertTagDraft_advances opened call 1 _ trackingSequence trackingId _
  exact inserted.mono fun after advances => ⟨advances.settled, advances.keeps⟩

theorem replaceTagDraft_advances (settled : Settled rows.tags) (call : InventoryCall)
    (faultTagId : String) (baseRevision : Nat) (draft : TagDraft) :
    Gives (fun after => Advances rows.tags after.tags)
      (replaceTagDraft call faultTagId baseRevision draft rows) := by
  rw [replaceTagDraft]
  refine gives_currentTag fun detail read named => ?_
  refine gives_ensure.bind fun _ _ => gives_ensure.bind fun _ isDraft => ?_
  have open_ : rows.tags.IsDraft faultTagId := fun tag inside same => by
    obtain rfl := List.inj_on_of_nodup_map settled.keyedProjections inside read
      (same.trans named.symm)
    exact isDraft.1
  refine (gives_any _).bind fun _ _ => ?_
  refine (replaceMemberships_gives settled open_ _ _).bind ?_
  rintro replaced ⟨sound, same, -⟩
  refine (insertMemberships_gives sound (same.isDraft open_) _ _).bind ?_
  rintro grown ⟨held, kept⟩
  have there : detail.projection ∈ grown.tags.projections := by
    rw [(same.trans kept).projections]
    exact read
  refine (gives_any _).bind fun inputFingerprint _ => ?_
  let planned : TagTables := { grown.tags with
    tags := grown.tags.tags.map fun row =>
      if row.faultTagId = faultTagId then
        { row with plan := draft.plan, draftRevision := baseRevision + 1 }
      else row }
  have ids : planned.tags.map (·.faultTagId) = grown.tags.tags.map (·.faultTagId) := by
    refine map_update FaultTag.faultTagId ?_ faultTagId
    exact fun _ => rfl
  have plannedSound : Settled planned := { held with
    tagged := fun tag inside => ids ▸ held.tagged tag inside }
  have updated := updateTag_gives plannedSound.keyedProjections there
    (fun row => row.state = .draft ∧ row.currentSubmissionSnapshotId = none)
    (fun row => { row with inputFingerprint }) "Fault Tag changed during draft replacement"
  refine updated.bind ?_
  rintro _ ⟨-, projections, rfl, written⟩
  refine ⟨plannedSound.close written rfl (fun _ pending => pending.elim) ?_ ?_, ?_⟩
  · exact (plannedSound.fits _ there not_false).recolumn rfl rfl rfl rfl rfl rfl
  · exact plannedSound.hasTrace not_false
  · have before : KeepsSuperseded rows.tags planned := .of_eq (same.trans kept).projections
    exact before.trans (.of_replaced written rfl fun superseded => superseded)

theorem updateFaultTagDraft_advances (settled : Settled rows.tags) (call : InventoryCall)
    (faultTagId : String) (baseRevision : Nat) (draft : TagDraft) :
    Gives (fun after => Advances rows.tags after.tags)
      (updateFaultTagDraft call faultTagId baseRevision draft rows) := by
  refine (gives_any _).bind fun memberships _ => ?_
  dsimp only
  cases rows.tags.currentTag faultTagId with
  | none => exact gives_error _
  | some detail =>
    refine gives_ensure.bind fun _ _ => gives_ensure.bind fun _ _ => ?_
    refine (gives_any _).bind fun _ _ => ?_
    split
    · exact ⟨settled, .of_eq rfl⟩
    · exact replaceTagDraft_advances settled call faultTagId baseRevision _

end Drafts

end Soma.Inventory
