import Soma.Inventory.TagTransitions

/-!
What the warehouse says of members, and the tag that replaces or resends another.
The tags of the members the warehouse speaks of are live, and stay so while their
members move; `_rebuild_tag_projection` then settles one after the other.
-/

namespace Soma.Inventory

open Foundation Transaction Rows

/-! ## Targets -/

theorem requireTargetObligation_gives (membership : TagMembership) (current : MembershipCurrent)
    (obligation : Option ReturnObligation) :
    Gives (fun found => found.current = current)
      (requireTargetObligation membership current obligation) := by
  cases obligation with
  | none => exact gives_error _
  | some obligation => exact (gives_any _).bind fun _ _ => (gives_any _).bind fun _ _ => rfl

theorem requireWarehouseTarget_gives (rows : InventoryRows) (required : MembershipState)
    (target : String × Nat) :
    Gives (fun found => found.current ∈ rows.tags.current ∧ found.current.activeSubmitted = true ∧
        found.current.faultTagMembershipId = target.1)
      (requireWarehouseTarget rows required target) := by
  rw [requireWarehouseTarget]
  cases found : rows.warehouseAuthority target.1 with
  | none => exact gives_error _
  | some authority =>
    obtain ⟨membership, current, _⟩ := authority
    obtain ⟨row, there, rest⟩ := Option.bind_eq_some_iff.mp found
    obtain ⟨other, -, same⟩ := Option.bind_eq_some_iff.mp rest
    obtain ⟨-, rfl, -⟩ : other = membership ∧ row = current ∧ _ := by
      simpa [pure] using same
    obtain ⟨inside, named⟩ := key_of_find? there
    refine gives_ensure.bind fun _ _ => gives_ensure.bind fun _ active => ?_
    refine (requireTargetObligation_gives _ _ _).mono fun target read => ?_
    rw [read]
    exact ⟨inside, active.2, named⟩

theorem requireWarehouseTargets_gives (rows : InventoryRows) (required : MembershipState)
    (targets : List (String × Nat)) :
    Gives (fun preflight => ∀ target ∈ preflight, target.current ∈ rows.tags.current ∧
        target.current.activeSubmitted = true)
      (targets.mapM (requireWarehouseTarget rows required)) := by
  refine Yields.mapM fun target _ => ?_
  exact (requireWarehouseTarget_gives rows required target).mono
    fun found ⟨held, active, _⟩ => ⟨held, active⟩

/-! ## Rebuilding -/

/-- Some tags are live and wait for their projection to be rebuilt, but for those done. -/
structure Rebuilding (wanted done : List String) (before after : TagTables) : Prop where
  sound : TagsSound (fun faultTagId => faultTagId ∈ wanted ∧ faultTagId ∉ done) after
  ready : ∀ tag ∈ after.projections, tag.faultTagId ∈ wanted →
    Ready (after.members tag.faultTagId) tag
  traced : ∀ faultTagId ∈ wanted, after.HasSubmissionHistory faultTagId →
    after.HasTrace faultTagId
  keeps : KeepsSuperseded before after

section Rebuild

variable {wanted done ids : List String} {before after : TagTables} {state : MembershipState}

theorem Ready.moved (ready : Ready members tag) (handedIn : state.isHandedIn = true)
    (ids : List String) : Ready (members.map (MemberView.movedTo state ids)) tag where
  live := ready.live
  positive := ready.positive
  total := by rw [ready.total, List.length_map]
  handedIn := by
    intro member inside
    obtain ⟨view, held, rfl⟩ := List.mem_map.mp inside
    by_cases hit : view.membershipId ∈ ids
    · rw [MemberView.movedTo_of_mem hit]
      exact handedIn
    · rw [MemberView.movedTo_of_notMem hit]
      exact ready.handedIn view held

theorem TagsSound.live (settled : Settled before) (held : row ∈ before.current)
    (active : row.activeSubmitted = true) (inside : tag ∈ before.projections)
    (same : tag.faultTagId = row.faultTagId) : tag.state.isLive = true := by
  have fits := settled.fits tag inside not_false
  have member : row.view ∈ before.members tag.faultTagId :=
    mem_membersOf.mpr ⟨List.mem_map_of_mem held, same.symm⟩
  have isActive : row.state.isActive = true :=
    (settled.active row.view (List.mem_map_of_mem held)).symm.trans active
  cases state : tag.state with
  | submitted | inWarehouseReview | terminalCompleted | terminalWithRejected => rfl
  | draft =>
    have draft : row.state = .draft := fits.draft state row.view member
    rw [draft] at isActive
    cases isActive
  | superseded =>
    have inactive : row.activeSubmitted = false := fits.superseded state row.view member
    rw [inactive] at active
    cases active
  | cancelled => exact absurd state fits.notCancelled

/-- Active members of the wanted tags have moved to a state of members handed in. -/
theorem Moved.rebuilding (settled : Settled before) (moved : Moved state ids before after)
    (handedIn : state.isHandedIn = true)
    (targets : ∀ id ∈ ids, ∃ row ∈ before.current, row.faultTagMembershipId = id ∧
      row.activeSubmitted = true ∧ row.faultTagId ∈ wanted)
    (origins : ∀ faultTagId ∈ wanted, ∃ row ∈ before.current, row.faultTagId = faultTagId ∧
      row.activeSubmitted = true) : Rebuilding wanted [] before after where
  sound := by
    have eased : TagsSound (fun faultTagId => faultTagId ∈ wanted ∧ faultTagId ∉ []) before :=
      settled.mono fun _ none => none.elim
    refine moved.sound eased fun view inside hit => ?_
    obtain ⟨row, held, named, active, tagged⟩ := targets _ hit
    obtain ⟨_, there, rfl⟩ := List.mem_map.mp inside
    obtain rfl := List.inj_on_of_nodup_map settled.keyedCurrent held there named
    refine ⟨⟨tagged, List.not_mem_nil⟩, .inr ?_⟩
    refine (settled.projected row.view inside).resolve_left fun draft => ?_
    have isActive := (settled.active row.view inside).symm.trans active
    rw [draft] at isActive
    cases isActive
  ready := by
    rw [moved.projections]
    intro tag inside isWanted
    obtain ⟨row, held, same, active⟩ := origins _ isWanted
    have live := settled.live held active inside same.symm
    rw [moved.members]
    exact ((settled.fits tag inside not_false).ready live).moved handedIn ids
  traced := by
    intro faultTagId _ history
    rw [TagTables.HasSubmissionHistory, moved.snapshots] at history
    exact moved.hasTrace (settled.hasTrace not_false history)
  keeps := .of_eq moved.projections

/-- A tag that waited fits again. -/
theorem Rebuilding.settle (rebuilding : Rebuilding wanted done before after) {read : TagProjection}
    (isWanted : read.faultTagId ∈ wanted)
    (written : Replaced after.projections projections read next)
    (same : next.faultTagId = read.faultTagId) (fits : Fits (after.members read.faultTagId) next)
    (live : next.state.isLive = true) :
    Rebuilding wanted (done ++ [read.faultTagId]) before { after with projections } where
  sound := by
    refine rebuilding.sound.close written same (fun faultTagId waiting => ?_) fits
      (rebuilding.traced _ isWanted)
    by_cases here : faultTagId = read.faultTagId
    · exact .inl here
    · refine .inr ⟨waiting.1, fun already => ?_⟩
      rcases Rows.mem_concat already with already | already
      · exact waiting.2 already
      · exact here already
  ready := by
    intro tag inside isWanted
    rcases written.mem_next inside with rfl | inside
    · change Ready (after.members tag.faultTagId) tag
      rw [same]
      exact fits.ready live
    · exact rebuilding.ready tag inside isWanted
  traced := rebuilding.traced
  keeps := by
    refine rebuilding.keeps.trans (.of_replaced written same fun superseded => ?_)
    have wasLive := (rebuilding.ready read written.mem_old isWanted).live
    rw [superseded] at wasLive
    cases wasLive

theorem rebuildTagProjection_gives (call : InventoryCall) (isWanted : faultTagId ∈ wanted)
    (rebuilding : Rebuilding wanted done before after) :
    Gives (Rebuilding wanted (done ++ [faultTagId]) before)
      (rebuildTagProjection call after faultTagId) := by
  rw [rebuildTagProjection]
  refine gives_currentTag fun detail read named => ?_
  obtain rfl := named
  have ready := rebuilding.ready _ read isWanted
  refine (gives_any _).bind fun inputFingerprint _ => ?_
  refine (updateTag_gives rebuilding.sound.keyedProjections read _ _ _).mono ?_
  rintro _ ⟨-, _, rfl, written⟩
  exact rebuilding.settle isWanted written rfl (ready.rebuilt rfl rfl rfl rfl rfl rfl)
    (after.rebuiltState_isLive _ _)

theorem Rebuilding.advances (rebuilding : Rebuilding wanted done before after)
    (all : ∀ faultTagId ∈ wanted, faultTagId ∈ done) : Advances before after where
  settled := { rebuilding.sound with
    traced := fun snapshot inside _ => rebuilding.sound.traced snapshot inside
      fun waiting => waiting.2 (all _ waiting.1)
    fits := fun tag inside _ => rebuilding.sound.fits tag inside
      fun waiting => waiting.2 (all _ waiting.1) }
  keeps := rebuilding.keeps

theorem rebuildTagProjections_gives (call : InventoryCall) {rows : InventoryRows}
    (faultTagIds : List String) (rebuilding : Rebuilding faultTagIds [] before rows.tags) :
    Gives (fun after => Advances before after.tags)
      (rebuildTagProjections call faultTagIds rows) := by
  have order : ∀ faultTagId, faultTagId ∈ faultTagIds.dedup.insertionSort (· ≤ ·) ↔
      faultTagId ∈ faultTagIds := fun faultTagId => by
    rw [List.mem_insertionSort, List.mem_dedup]
  let followed (done : List String) (after : TagTables) : Prop :=
    Rebuilding faultTagIds done before after
  have start : followed [] rows.tags := rebuilding
  have loop : Gives (followed (faultTagIds.dedup.insertionSort (· ≤ ·)))
      ((faultTagIds.dedup.insertionSort (· ≤ ·)).foldlM (rebuildTagProjection call) rows.tags) := by
    generalize faultTagIds.dedup.insertionSort (· ≤ ·) = tags at order ⊢
    refine Yields.foldlM_done tags start fun done middle faultTagId inside waiting => ?_
    exact rebuildTagProjection_gives call ((order _).mp inside) waiting
  refine loop.bind fun tags waiting => ?_
  exact waiting.advances fun faultTagId inside => (order faultTagId).mpr inside

end Rebuild

/-! ## Attention -/

theorem rebuildMembershipAttention_gives (membershipId : String) (rows : InventoryRows) :
    Gives (fun after => after.tags = rows.tags) (rebuildMembershipAttention membershipId rows) := by
  rw [rebuildMembershipAttention]
  split
  · exact gives_error _
  · rw [rebuildRmaAttention]
    split
    · exact gives_error _
    · rfl

theorem rebuildMembershipAttentions_gives (membershipIds : List String) (rows : InventoryRows) :
    Gives (fun after => after.tags = rows.tags)
      (rebuildMembershipAttentions membershipIds rows) := by
  refine Yields.foldlM rfl fun before membershipId same => ?_
  exact (rebuildMembershipAttention_gives membershipId before).mono fun after own => own.trans same

/-! ## Receipts and decisions -/

section Warehouse

variable {rows : InventoryRows}

theorem Moved.ofTargets {preflight : List WarehouseTarget} {state : MembershipState}
    {tables after : TagTables} (settled : Settled tables)
    (found : ∀ target ∈ preflight, target.current ∈ tables.current ∧
      target.current.activeSubmitted = true)
    (moved : Moved state (preflight.map (·.current.faultTagMembershipId)) tables after)
    (handedIn : state.isHandedIn = true) :
    Rebuilding (preflight.map (·.current.faultTagId)) [] tables after := by
  refine moved.rebuilding settled handedIn (fun id hit => ?_) fun faultTagId isWanted => ?_
  · obtain ⟨target, listed, rfl⟩ := List.mem_map.mp hit
    obtain ⟨held, active⟩ := found target listed
    exact ⟨target.current, held, rfl, active, List.mem_map_of_mem listed⟩
  · obtain ⟨target, listed, rfl⟩ := List.mem_map.mp isWanted
    obtain ⟨held, active⟩ := found target listed
    exact ⟨target.current, held, rfl, active⟩

theorem settleTargets_advances {preflight : List WarehouseTarget}
    (rebuilding : Rebuilding (preflight.map (·.current.faultTagId)) [] before rows.tags)
    (call : InventoryCall) (membershipIds : List String) :
    Gives (fun after => Advances before after.tags)
      (rebuildTagProjections call (preflight.map (·.current.faultTagId)) rows >>=
        rebuildMembershipAttentions membershipIds) := by
  refine (rebuildTagProjections_gives call _ rebuilding).bind fun middle advances => ?_
  exact (rebuildMembershipAttentions_gives _ _).mono fun after same => same ▸ advances

theorem recordWarehouseReceipt_advances (settled : Settled rows.tags) (call : InventoryCall)
    (targets : List (String × Nat)) :
    Gives (fun after => Advances rows.tags after.tags)
      (recordWarehouseReceipt call targets rows) := by
  refine (gives_any _).bind fun targets _ => ?_
  refine (requireWarehouseTargets_gives rows _ targets).bind fun preflight found => ?_
  refine (moves_gives (fun drawn => drawn.2.current.faultTagMembershipId)
    (fun before element keyed => receiveMember_gives keyed element) settled.keyedCurrent _).bind ?_
  intro received moved
  rw [drawFor_map call.toRequestCall _ _
    fun target : WarehouseTarget => target.current.faultTagMembershipId] at moved
  exact settleTargets_advances (moved.ofTargets settled found rfl) call _

theorem recordWarehouseFinalDecision_advances (settled : Settled rows.tags) (call : InventoryCall)
    (decision : WarehouseDecision) (targets : List (String × Nat)) :
    Gives (fun after => Advances rows.tags after.tags)
      (recordWarehouseFinalDecision call decision targets rows) := by
  refine (gives_any _).bind fun targets _ => ?_
  refine (requireWarehouseTargets_gives rows _ targets).bind fun preflight found => ?_
  refine (moves_gives (fun drawn => drawn.2.2.current.faultTagMembershipId)
    (fun before element keyed => decideMember_gives keyed decision element)
      settled.keyedCurrent _).bind ?_
  intro decided moved
  rw [drawFor_map call.toRequestCall _ _
      fun drawn : String × WarehouseTarget => drawn.2.current.faultTagMembershipId,
    drawFor_map call.toRequestCall _ _
      fun target : WarehouseTarget => target.current.faultTagMembershipId] at moved
  have handedIn : decision.state.isHandedIn = true := by cases decision <;> rfl
  exact settleTargets_advances (moved.ofTargets settled found handedIn) call _

theorem correctFalseWarehouseReceipt_advances (settled : Settled rows.tags) (call : InventoryCall)
    (target : String × Nat) (targetEventId : String) :
    Gives (fun after => Advances rows.tags after.tags)
      (correctFalseWarehouseReceipt call target targetEventId rows) := by
  refine (requireWarehouseTarget_gives rows _ target).bind ?_
  rintro found ⟨held, active, named⟩
  refine gives_ensure.bind fun _ _ => gives_ensure.bind fun _ _ => ?_
  refine (moveMembership_gives settled.keyedCurrent _ rfl).bind fun tags moved => ?_
  have own : Moved .submittedAwaitingReceipt ([found].map (·.current.faultTagMembershipId))
      rows.tags tags := by
    rw [List.map_singleton, named]
    exact moved
  have rebuilding := own.ofTargets settled (fun other listed => by
    obtain rfl := List.mem_singleton.mp listed
    exact ⟨held, active⟩) rfl
  refine (gives_any _).bind fun rmas _ => ?_
  refine (rebuildTagProjection_gives call (List.mem_singleton_self _) rebuilding).bind ?_
  intro rebuilt waiting
  refine (rebuildMembershipAttention_gives _ _).mono fun after same => ?_
  rw [same]
  exact waiting.advances fun faultTagId isWanted => isWanted

end Warehouse

/-! ## Successors -/

section Successors

variable {rows : InventoryRows}

theorem countOf_movedTo
    (apart : ∀ member ∈ members, member.membershipId ∈ ids → member.state ≠ wanted)
    (other : moved ≠ wanted) :
    countOf (members.map (MemberView.movedTo moved ids)) wanted = countOf members wanted := by
  rw [countOf, List.countP_map, countOf]
  refine List.countP_congr fun member inside => ?_
  by_cases hit : member.membershipId ∈ ids
  · simp [MemberView.movedTo_of_mem hit, other, apart member inside hit]
  · simp [MemberView.movedTo_of_notMem hit]

/-- A tag whose active members are all replaced. -/
theorem Fits.replaced {next : TagProjection} (fits : Fits members tag)
    (active : ∀ member ∈ members, member.activeSubmitted = member.state.isActive)
    (hit : ∀ member ∈ members, member.state.isActive = true ↔ member.membershipId ∈ ids)
    (state : next.state = .superseded) (receipt : next.awaitingReceiptCount = 0)
    (review : next.awaitingFinalCount = 0) (accepted : next.acceptedCount = tag.acceptedCount)
    (rejected : next.rejectedCount = tag.rejectedCount) :
    Fits (members.map (MemberView.movedTo .superseded ids)) next := by
  have gone : ∀ wanted : MembershipState, wanted.isActive = true →
      countOf (members.map (MemberView.movedTo .superseded ids)) wanted = 0 := by
    intro wanted isActive
    refine countOf_eq_zero fun member inside same => ?_
    obtain ⟨view, held, rfl⟩ := List.mem_map.mp inside
    by_cases moved : view.membershipId ∈ ids
    · rw [MemberView.movedTo_of_mem moved] at same
      rw [← show MembershipState.superseded = wanted from same] at isActive
      cases isActive
    · rw [MemberView.movedTo_of_notMem moved] at same
      exact moved ((hit view held).mp (same ▸ isActive))
  have kept : ∀ wanted : MembershipState, wanted.isFinal = true →
      countOf (members.map (MemberView.movedTo .superseded ids)) wanted =
        countOf members wanted := by
    intro wanted isFinal
    refine countOf_movedTo (fun member inside moved same => ?_) ?_
    · have isActive := (hit member inside).mpr moved
      rw [same] at isActive
      cases wanted <;> cases isActive <;> cases isFinal
    · rintro rfl
      cases isFinal
  refine Fits.of_superseded state (fun member inside => ?_) ⟨?_, ?_, ?_, ?_⟩
  · obtain ⟨view, held, rfl⟩ := List.mem_map.mp inside
    by_cases moved : view.membershipId ∈ ids
    · rw [MemberView.movedTo_of_mem moved]
      rfl
    · rw [MemberView.movedTo_of_notMem moved, active view held, ← Bool.not_eq_true, hit view held]
      exact moved
  · rw [receipt, gone _ rfl]
  · rw [review, gone _ rfl]
  · rw [accepted, kept _ rfl, fits.counts.accepted]
  · rw [rejected, kept _ rfl, fits.counts.rejected]

theorem TagsSound.isActive_iff {pending : String → Prop} (sound : TagsSound pending tables)
    (inside : view ∈ tables.members faultTagId) :
    view.state.isActive = true ↔ view.membershipId ∈
      (tables.activeMembers faultTagId).map (·.membership.faultTagMembershipId) := by
  have held := (mem_membersOf.mp inside).1
  rw [← sound.active view held]
  constructor
  · intro active
    obtain ⟨member, listed, rfl, named⟩ := sound.listed inside
    exact named ▸ List.mem_map_of_mem (List.mem_filter.mpr ⟨listed, active⟩)
  · intro hit
    obtain ⟨member, listed, rfl, -⟩ := sound.ofTag held
      (fun member chosen => (List.mem_filter.mp chosen).1) hit
    exact (List.mem_filter.mp listed).2

theorem supersedeForReplacement_advances (settled : Settled rows.tags) (call : InventoryCall)
    (drawn : Nat) (predecessorId : String) :
    Gives (fun after => Advances rows.tags after.tags)
      (supersedeForReplacement call drawn predecessorId rows) := by
  rw [supersedeForReplacement]
  refine gives_currentTag fun detail read named => ?_
  refine gives_ensure.bind fun _ history => gives_ensure.bind fun _ _ => ?_
  refine gives_ensure.bind fun _ _ => (recordTagEvent_gives _ _ _ _ _ _).bind ?_
  rintro _ ⟨events, rfl⟩
  let start : InventoryRows := { rows with tags := { rows.tags with events } }
  have sound : TagsSound (· = predecessorId) start.tags :=
    (settled.pend predecessorId).reframe _ events _ _
  refine (moves_gives (fun drawn => drawn.2.membership.faultTagMembershipId)
    (fun before element held => supersedeMember_gives held element) sound.keyedCurrent _).bind ?_
  intro after moved
  rw [drawFor_map call.toRequestCall _ _
    fun member : TagMember => member.membership.faultTagMembershipId] at moved
  have within : ∀ member ∈ start.tags.activeMembers predecessorId,
      member ∈ start.tags.currentMembers predecessorId :=
    fun member listed => (List.mem_filter.mp listed).1
  have held : TagsSound (· = predecessorId) after.tags :=
    moved.apart sound within (named ▸ List.mem_map_of_mem read)
  have there : detail.projection ∈ after.tags.projections := moved.projections ▸ read
  refine (gives_any _).bind fun inputFingerprint _ => ?_
  refine (updateTag_gives held.keyedProjections there _ _ _).bind ?_
  rintro _ ⟨-, projections, rfl, written⟩
  refine ⟨held.close written rfl (fun _ same => .inl (same.trans named.symm)) ?_ ?_, ?_⟩
  · rw [named, moved.members]
    have fits : Fits (start.tags.members predecessorId) detail.projection :=
      named ▸ settled.fits _ read not_false
    exact fits.replaced (fun view inside => sound.active view (mem_membersOf.mp inside).1)
      (fun view inside => sound.isActive_iff inside) rfl rfl rfl rfl rfl
  · rw [named]
    exact fun _ => moved.hasTrace (settled.hasTrace not_false history)
  · have before : KeepsSuperseded rows.tags after.tags := .of_eq moved.projections
    exact before.trans (.of_replaced written rfl fun _ => rfl)

theorem preparePredecessor_advances (settled : Settled rows.tags) (call : InventoryCall)
    (drawn : Nat) (predecessorId : String) (relationType : LineageRelation)
    (memberships : List (String × String)) :
    Gives (fun after => Advances rows.tags after.tags)
      (preparePredecessor call drawn predecessorId relationType memberships rows) := by
  cases relationType with
  | correctsReplaces => exact supersedeForReplacement_advances settled call drawn predecessorId
  | resendOf => exact (gives_any _).bind fun _ _ => ⟨settled, .of_eq rfl⟩

theorem rebuildResentAttention_gives (predecessorId : String) (rows : InventoryRows)
    (membership : String × String) :
    Gives (fun after => after.tags = rows.tags)
      (rebuildResentAttention predecessorId rows membership) := by
  rw [rebuildResentAttention]
  split
  · exact gives_error _
  · exact rebuildMembershipAttention_gives _ rows

theorem createLineageSuccessor_advances (settled : Settled rows.tags) (call : InventoryCall)
    (successorId predecessorId : String) (relationType : LineageRelation) (draft : TagDraft) :
    Gives (fun after => Advances rows.tags after.tags)
      (createLineageSuccessor call successorId predecessorId relationType draft rows) := by
  refine (gives_any _).bind fun _ _ => ?_
  refine (preparePredecessor_advances settled call 1 predecessorId relationType
    draft.memberships).bind fun prepared early => ?_
  refine (allocateFaultTagTracking_gives _).bind ?_
  rintro ⟨_, trackingSequence, trackingId⟩ ⟨allocator, rfl⟩
  let opened : InventoryRows := { prepared with tags := { prepared.tags with allocator } }
  have sound : Settled opened.tags := { early.settled with }
  refine (insertTagDraft_advances sound call _ successorId trackingSequence trackingId
    draft).bind fun inserted late => ?_
  refine (gives_any _).bind fun _ _ => (gives_any _).bind fun lineage _ => ?_
  have linked : Advances rows.tags { inserted.tags with lineage } :=
    ⟨late.settled.reframe _ _ _ lineage, early.keeps.trans late.keeps⟩
  cases relationType with
  | correctsReplaces => exact linked
  | resendOf =>
    refine Yields.foldlM linked fun before membership advances => ?_
    exact (rebuildResentAttention_gives predecessorId before membership).mono
      fun after same => same ▸ advances

theorem createFaultTagSuccessor_advances (settled : Settled rows.tags) (call : InventoryCall)
    (predecessorId : String) (relationType : LineageRelation) (draft : TagDraft) :
    Gives (fun after => Advances rows.tags after.tags)
      (createFaultTagSuccessor call predecessorId relationType draft rows) := by
  refine (gives_any _).bind fun memberships _ => (gives_any _).bind fun _ _ => ?_
  refine (gives_any _).bind fun _ _ => (gives_any _).bind fun _ _ => ?_
  exact createLineageSuccessor_advances settled call _ predecessorId relationType _

end Successors

/-! ## The archive -/

section Archive

variable {rows : InventoryRows}

theorem setArchiveState_advances (settled : Settled rows.tags) (call : InventoryCall)
    (faultTagId : String) (baseRevision : Nat) (archived : Bool) :
    Gives (fun after => Advances rows.tags after.tags)
      (setArchiveState call faultTagId baseRevision archived rows) := by
  rw [setArchiveState]
  refine gives_currentTag fun detail read named => ?_
  refine gives_ensure.bind fun _ _ => gives_ensure.bind fun _ _ => ?_
  refine (recordTagEvent_gives _ _ _ _ _ _).bind ?_
  rintro _ ⟨events, rfl⟩
  refine (gives_any _).bind fun inputFingerprint _ => ?_
  have sound : Settled { rows.tags with events } := settled.reframe _ events _ _
  refine (updateTag_gives sound.keyedProjections read _ _ _).bind ?_
  rintro _ ⟨-, _, rfl, written⟩
  refine (rebuildMembershipAttentions_gives _ _).mono fun after same => ?_
  rw [same]
  refine ⟨sound.close written rfl (fun _ none => none.elim) ?_ (sound.hasTrace not_false), ?_⟩
  · exact (settled.fits _ read not_false).recolumn rfl rfl rfl rfl rfl rfl
  · exact .of_replaced written rfl fun superseded => superseded

theorem archiveOrRestoreFaultTag_advances (settled : Settled rows.tags) (call : InventoryCall)
    (faultTagId : String) (baseRevision : Nat) (archived : Bool) :
    Gives (fun after => Advances rows.tags after.tags)
      (archiveOrRestoreFaultTag call faultTagId baseRevision archived rows) := by
  rw [archiveOrRestoreFaultTag]
  cases rows.tags.currentTag faultTagId with
  | none => exact gives_error _
  | some detail =>
    refine gives_ensure.bind fun _ _ => ?_
    split
    · exact ⟨settled, .of_eq rfl⟩
    · exact setArchiveState_advances settled call faultTagId baseRevision archived

end Archive

end Soma.Inventory
