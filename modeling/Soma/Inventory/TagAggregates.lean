import Soma.Inventory.TagViews

/-!
The tables of Fault Tags between commands. `TagsSound` is the invariant: a tag and
its members fit, an active membership is alone with its RMA and its unit, and a tag
that was ever submitted has a member with a trace. Inside a command it holds but
for the tags the command is working on, the `pending` ones.
-/

namespace Soma.Inventory

open Foundation Transaction Rows

/-! ## Rules -/

section Rules

/-- What a call gives when it does not raise. -/
abbrev Gives {Result : Type} (good : Result → Prop) (outcome : Except Raised Result) : Prop :=
  Yields good (fun _ => False) outcome

variable {Row Key : Type} [DecidableEq Key]

theorem gives_error {Result : Type} {good : Result → Prop} (raised : Raised) :
    Gives good (.error raised) := not_false

theorem gives_ensure [Decidable condition] :
    Gives (fun _ => condition) (ensure condition raised) := yields_ensure fun _ => not_false

theorem gives_insertKeyed {key : Row → Key} {rows : List Row} :
    Gives (fun next => key row ∉ rows.map key ∧ next = rows ++ [row]) (insertKeyed key rows row) :=
  yields_insertKeyed not_false

theorem gives_updateOne {selected : Row → Bool} {change : Row → Row} :
    Gives (fun next => ∃ old, selected old = true ∧ Replaced rows next old (change old))
      (updateOne selected change missed rows) :=
  yields_updateOne not_false

theorem gives_any {Result : Type} (outcome : Except Raised Result) :
    Gives (fun _ => True) outcome := by
  cases outcome with
  | ok value => exact trivial
  | error raised => exact not_false

end Rules

/-! ## The invariant -/

def TagTables.views (tables : TagTables) : List MemberView := tables.current.map (·.view)

/-- The members of a tag, of which the current rows tell. -/
abbrev TagTables.members (tables : TagTables) (faultTagId : String) : List MemberView :=
  membersOf tables.views faultTagId

/-- A member of the tag has an event. -/
def TagTables.HasTrace (tables : TagTables) (faultTagId : String) : Prop :=
  ∃ row ∈ tables.memberships, row.faultTagId = faultTagId ∧
    row.faultTagMembershipId ∈ tables.membershipEvents.map (·.faultTagMembershipId)

/-- What the tables of Fault Tags agree on, but for the pending tags. -/
structure TagsSound (pending : String → Prop) (tables : TagTables) : Prop where
  keyedCurrent : (tables.current.map (·.faultTagMembershipId)).Nodup
  aligned : tables.current.map (fun row => (row.faultTagMembershipId, row.faultTagId)) =
    tables.memberships.map fun row => (row.faultTagMembershipId, row.faultTagId)
  keyedProjections : (tables.projections.map (·.faultTagId)).Nodup
  tagged : ∀ tag ∈ tables.projections, tag.faultTagId ∈ tables.tags.map (·.faultTagId)
  exclusive : Exclusive tables.current
  active : ∀ view ∈ tables.views, view.activeSubmitted = view.state.isActive
  projected : ∀ view ∈ tables.views, view.state = .draft ∨
    view.faultTagId ∈ tables.projections.map (·.faultTagId)
  traced : ∀ snapshot ∈ tables.snapshots, ¬ pending snapshot.faultTagId →
    tables.HasTrace snapshot.faultTagId
  fits : ∀ tag ∈ tables.projections, ¬ pending tag.faultTagId →
    Fits (tables.members tag.faultTagId) tag

/-- No tag is pending. -/
abbrev Settled (tables : TagTables) : Prop := TagsSound (fun _ => False) tables

namespace TagsSound

variable {pending : String → Prop} {tables : TagTables}

section

variable (sound : TagsSound pending tables)

include sound

theorem mono {wider : String → Prop}
    (more : ∀ faultTagId, pending faultTagId → wider faultTagId) : TagsSound wider tables :=
  { sound with
    traced := fun snapshot inside settled =>
      sound.traced snapshot inside fun still => settled (more _ still)
    fits := fun tag inside settled => sound.fits tag inside fun still => settled (more _ still) }

theorem reframe (allocator : Option TrackingAllocator)
    (events : List TagEvent) (membershipSnapshots : List MembershipSnapshot)
    (lineage : List TagLineage) :
    TagsSound pending { tables with allocator, events, membershipSnapshots, lineage } :=
  { sound with }

theorem keyedMemberships : (tables.memberships.map (·.faultTagMembershipId)).Nodup := by
  have same := congrArg (List.map Prod.fst) sound.aligned
  rw [List.map_map, List.map_map] at same
  exact (show tables.current.map (·.faultTagMembershipId) =
    tables.memberships.map (·.faultTagMembershipId) from same) ▸ sound.keyedCurrent

theorem sameTag (held : current ∈ tables.current) (listed : membership ∈ tables.memberships)
    (named : current.faultTagMembershipId = membership.faultTagMembershipId) :
    current.faultTagId = membership.faultTagId := by
  have pair : (current.faultTagMembershipId, current.faultTagId) ∈
      tables.memberships.map fun row => (row.faultTagMembershipId, row.faultTagId) :=
    sound.aligned ▸ List.mem_map_of_mem held
  obtain ⟨_, there, same⟩ := List.mem_map.mp pair
  obtain ⟨sameId, sameTag⟩ := Prod.mk.inj same
  obtain rfl := List.inj_on_of_nodup_map sound.keyedMemberships there listed (sameId.trans named)
  exact sameTag.symm

theorem member_current (inside : member ∈ tables.currentMembers faultTagId) :
    member.membership ∈ tables.memberships ∧ member.membership.faultTagId = faultTagId ∧
      member.current ∈ tables.current ∧
      member.current.faultTagMembershipId = member.membership.faultTagMembershipId ∧
      member.current.faultTagId = faultTagId := by
  rw [TagTables.currentMembers, List.mem_insertionSort, List.mem_filterMap] at inside
  obtain ⟨membership, listed, joined⟩ := inside
  obtain ⟨current, found, rfl⟩ := Option.map_eq_some_iff.mp joined
  obtain ⟨there, ofTag⟩ := List.mem_filter.mp listed
  obtain ⟨held, named⟩ := key_of_find? found
  have tag : membership.faultTagId = faultTagId := of_decide_eq_true ofTag
  exact ⟨there, tag, held, named, (sound.sameTag held there named).trans tag⟩

/-- It lists every member of the tag once. -/
theorem currentMembers_ids (faultTagId : String) :
    ((tables.currentMembers faultTagId).map (·.membership.faultTagMembershipId)).Perm
      ((tables.members faultTagId).map (·.membershipId)) := by
  have found : ∀ membership ∈ tables.memberships,
      ∃ member, tables.member? membership = some member ∧ member.membership = membership := by
    intro membership listed
    have pair : (membership.faultTagMembershipId, membership.faultTagId) ∈
        tables.current.map fun row => (row.faultTagMembershipId, row.faultTagId) :=
      sound.aligned ▸ List.mem_map_of_mem listed
    obtain ⟨current, held, same⟩ := List.mem_map.mp pair
    have lookup : tables.current? membership.faultTagMembershipId = some current := by
      have keyed := find?_eq_some sound.keyedCurrent held
      rwa [(Prod.mk.inj same).1] at keyed
    exact ⟨⟨membership, current⟩, by rw [TagTables.member?, lookup]; rfl, rfl⟩
  have joined : ∀ memberships : List TagMembership,
      (∀ membership ∈ memberships, membership ∈ tables.memberships) →
        (memberships.filterMap tables.member?).map (·.membership) = memberships := by
    intro memberships inside
    induction memberships with
    | nil => rfl
    | cons membership memberships ih =>
      obtain ⟨member, is, same⟩ := found membership (inside _ List.mem_cons_self)
      rw [List.filterMap_cons_some is, List.map_cons, same,
        ih fun other listed => inside other (List.mem_cons_of_mem _ listed)]
  have sorted := (List.perm_insertionSort TagMember.UpTo
    ((tables.memberships.filter (·.faultTagId = faultTagId)).filterMap tables.member?)).map
      (·.membership.faultTagMembershipId)
  refine sorted.trans (List.Perm.of_eq ?_)
  have ids := congrArg (List.map (·.faultTagMembershipId))
    (joined (tables.memberships.filter (·.faultTagId = faultTagId))
      fun membership listed => (List.mem_filter.mp listed).1)
  rw [List.map_map] at ids
  refine (show _ = _ from ids).trans ?_
  have pairs := congrArg (fun pairs : List (String × String) =>
    (pairs.filter (·.2 = faultTagId)).map (·.1)) sound.aligned
  simp only [List.filter_map, List.map_map] at pairs
  rw [TagTables.members, membersOf, TagTables.views, List.filter_map, List.map_map]
  exact pairs.symm

end

end TagsSound

/-! ## Moves -/

/-- A view after its membership moved to a state. -/
def MemberView.movedTo (state : MembershipState) (ids : List String) (view : MemberView) :
    MemberView :=
  if view.membershipId ∈ ids then { view with state, activeSubmitted := state.isActive } else view

section Views

variable {state : MembershipState} {ids : List String} {view : MemberView}

@[simp] theorem MemberView.movedTo_membershipId :
    (view.movedTo state ids).membershipId = view.membershipId := by
  unfold MemberView.movedTo
  split <;> rfl

@[simp] theorem MemberView.movedTo_faultTagId :
    (view.movedTo state ids).faultTagId = view.faultTagId := by
  unfold MemberView.movedTo
  split <;> rfl

theorem MemberView.movedTo_of_mem (inside : view.membershipId ∈ ids) :
    view.movedTo state ids = { view with state, activeSubmitted := state.isActive } :=
  if_pos inside

theorem MemberView.movedTo_of_notMem (outside : view.membershipId ∉ ids) :
    view.movedTo state ids = view :=
  if_neg outside

theorem MemberView.movedTo_append (more : List String) :
    (view.movedTo state ids).movedTo state more = view.movedTo state (ids ++ more) := by
  by_cases early : view.membershipId ∈ ids
  · by_cases late : view.membershipId ∈ more <;> simp [MemberView.movedTo, early, late]
  · by_cases late : view.membershipId ∈ more <;> simp [MemberView.movedTo, early, late]

end Views

/-- The memberships have moved to a state, each with an event, and nothing else that
the aggregate of a tag reads has changed. -/
structure Moved (state : MembershipState) (ids : List String) (before after : TagTables) :
    Prop where
  views : after.views = before.views.map (MemberView.movedTo state ids)
  exclusive : Exclusive before.current → Exclusive after.current
  traced : after.membershipEvents.map (·.faultTagMembershipId) =
    before.membershipEvents.map (·.faultTagMembershipId) ++ ids
  memberships : after.memberships = before.memberships
  projections : after.projections = before.projections
  tags : after.tags = before.tags
  snapshots : after.snapshots = before.snapshots

namespace Moved

variable {state : MembershipState} {ids more : List String} {before middle after : TagTables}

theorem none (state : MembershipState) (tables : TagTables) : Moved state [] tables tables where
  views := by
    have same : MemberView.movedTo state [] = id := funext fun _ =>
      MemberView.movedTo_of_notMem (by simp)
    rw [same, List.map_id]
  exclusive exclusive := exclusive
  traced := (List.append_nil _).symm
  memberships := rfl
  projections := rfl
  tags := rfl
  snapshots := rfl

theorem trans (first : Moved state ids before middle) (second : Moved state more middle after) :
    Moved state (ids ++ more) before after where
  views := by
    rw [second.views, first.views, List.map_map]
    exact List.map_congr_left fun view _ => view.movedTo_append more
  exclusive exclusive := second.exclusive (first.exclusive exclusive)
  traced := by rw [second.traced, first.traced, List.append_assoc]
  memberships := second.memberships.trans first.memberships
  projections := second.projections.trans first.projections
  tags := second.tags.trans first.tags
  snapshots := second.snapshots.trans first.snapshots

section

variable (moved : Moved state ids before after)

include moved

theorem members (faultTagId : String) :
    after.members faultTagId = (before.members faultTagId).map (MemberView.movedTo state ids) := by
  rw [TagTables.members, membersOf, moved.views, List.filter_map, TagTables.members, membersOf]
  congr 1
  exact List.filter_congr fun view _ => by simp

theorem members_eq (apart : ∀ view ∈ before.members faultTagId, view.membershipId ∉ ids) :
    after.members faultTagId = before.members faultTagId := by
  rw [moved.members]
  conv_rhs => rw [← List.map_id (before.members faultTagId)]
  exact List.map_congr_left fun view inside => MemberView.movedTo_of_notMem (apart view inside)

theorem currentIds :
    after.current.map (·.faultTagMembershipId) = before.current.map (·.faultTagMembershipId) := by
  have same := congrArg (List.map (·.membershipId)) moved.views
  simpa [TagTables.views, MembershipCurrent.view, Function.comp_def] using same

theorem currentPairs : after.current.map (fun row => (row.faultTagMembershipId, row.faultTagId)) =
      before.current.map fun row => (row.faultTagMembershipId, row.faultTagId) := by
  have same := congrArg (List.map fun view : MemberView =>
    (view.membershipId, view.faultTagId)) moved.views
  simpa [TagTables.views, MembershipCurrent.view, Function.comp_def] using same

/-- Moving members of pending tags keeps the invariant. -/
theorem sound {pending : String → Prop} (sound : TagsSound pending before)
    (own : ∀ view ∈ before.views, view.membershipId ∈ ids → pending view.faultTagId ∧
      (state = .draft ∨ view.faultTagId ∈ before.projections.map (·.faultTagId))) :
    TagsSound pending after where
  keyedCurrent := moved.currentIds ▸ sound.keyedCurrent
  aligned := by rw [moved.currentPairs, moved.memberships, sound.aligned]
  keyedProjections := moved.projections ▸ sound.keyedProjections
  tagged := by
    rw [moved.projections, moved.tags]
    exact sound.tagged
  exclusive := moved.exclusive sound.exclusive
  active := by
    rw [moved.views]
    intro view inside
    obtain ⟨old, held, rfl⟩ := List.mem_map.mp inside
    by_cases hit : old.membershipId ∈ ids
    · rw [MemberView.movedTo_of_mem hit]
    · rw [MemberView.movedTo_of_notMem hit]
      exact sound.active old held
  projected := by
    rw [moved.views, moved.projections]
    intro view inside
    obtain ⟨old, held, rfl⟩ := List.mem_map.mp inside
    by_cases hit : old.membershipId ∈ ids
    · rw [MemberView.movedTo_of_mem hit]
      exact (own old held hit).2
    · rw [MemberView.movedTo_of_notMem hit]
      exact sound.projected old held
  traced := by
    rw [moved.snapshots]
    intro snapshot inside settled
    obtain ⟨row, listed, tag, trace⟩ := sound.traced snapshot inside settled
    refine ⟨row, moved.memberships ▸ listed, tag, ?_⟩
    rw [moved.traced]
    exact List.mem_append_left _ trace
  fits := by
    rw [moved.projections]
    intro tag inside settled
    have apart : ∀ view ∈ before.members tag.faultTagId, view.membershipId ∉ ids := by
      intro view listed hit
      obtain ⟨held, ofTag⟩ := mem_membersOf.mp listed
      exact settled (ofTag ▸ (own view held hit).1)
    rw [moved.members_eq apart]
    exact sound.fits tag inside settled

end

end Moved

theorem moveMembership_gives {tables : TagTables}
    (keyed : (tables.current.map (·.faultTagMembershipId)).Nodup) (move : MembershipMove)
    (active : move.activeSubmitted = move.state.isActive) :
    Gives (fun after => Moved move.state [move.event.faultTagMembershipId] tables after)
      (moveMembership move tables) := by
  refine gives_insertKeyed.bind ?_
  rintro _ ⟨-, rfl⟩
  refine gives_updateOne.bind ?_
  rintro current ⟨old, selected, replaced⟩
  refine gives_ensure.bind fun _ exclusive => ?_
  obtain ⟨named, -⟩ := of_decide_eq_true selected
  refine ⟨?_, fun _ => exclusive, ?_, rfl, rfl, rfl, rfl⟩
  · change current.map (·.view) = (tables.current.map (·.view)).map _
    rw [replaced.eq_map keyed, List.map_map, List.map_map]
    refine List.map_congr_left fun row inside => ?_
    simp only [Function.comp_apply]
    by_cases same : row.faultTagMembershipId = old.faultTagMembershipId
    · obtain rfl := List.inj_on_of_nodup_map keyed inside replaced.mem_old same
      rw [if_pos rfl, MemberView.movedTo_of_mem (by
        rw [← named]
        exact List.mem_singleton_self _)]
      simp [MembershipCurrent.view, active]
    · rw [if_neg same, MemberView.movedTo_of_notMem]
      rw [List.mem_singleton, ← named]
      exact same
  · rw [List.map_append]
    rfl

/-! ## Projections -/

/-- A replaced tag stays so. -/
def KeepsSuperseded (before after : TagTables) : Prop :=
  ∀ tag ∈ before.projections, tag.state = .superseded →
    ∃ next ∈ after.projections, next.faultTagId = tag.faultTagId ∧ next.state = .superseded

theorem KeepsSuperseded.of_eq {before after : TagTables}
    (same : after.projections = before.projections) : KeepsSuperseded before after :=
  fun tag inside superseded => ⟨tag, same ▸ inside, rfl, superseded⟩

theorem KeepsSuperseded.trans (early : KeepsSuperseded first second)
    (late : KeepsSuperseded second third) : KeepsSuperseded first third := by
  intro tag inside superseded
  obtain ⟨middle, there, named, still⟩ := early tag inside superseded
  obtain ⟨last, found, same, kept⟩ := late middle there still
  exact ⟨last, found, same.trans named, kept⟩

theorem KeepsSuperseded.of_replaced {tables after : TagTables} {read next : TagProjection}
    (replaced : Replaced tables.projections after.projections read next)
    (same : next.faultTagId = read.faultTagId)
    (keeps : read.state = .superseded → next.state = .superseded) :
    KeepsSuperseded tables after := by
  intro tag inside superseded
  rcases replaced.mem_rows inside with rfl | inside
  · exact ⟨next, replaced.mem_new, same, keeps superseded⟩
  · exact ⟨tag, inside, rfl, superseded⟩

section Projections

variable {pending : String → Prop} {tables : TagTables} {read : TagProjection}

theorem updateTag_gives (keyed : (tables.projections.map (·.faultTagId)).Nodup)
    (inside : read ∈ tables.projections) (selected : TagProjection → Bool)
    (change : TagProjection → TagProjection) (missed : String) :
    Gives (fun after => selected read = true ∧ ∃ projections,
        after = { tables with projections } ∧
        Replaced tables.projections projections read
          { change read with revision := read.revision + 1 })
      (updateTag read selected change missed tables) := by
  refine gives_updateOne.bind ?_
  rintro projections ⟨_, hit, replaced⟩
  obtain ⟨named, -, chosen⟩ := of_decide_eq_true hit
  obtain rfl := List.inj_on_of_nodup_map keyed replaced.mem_old inside named
  exact ⟨chosen, projections, rfl, replaced⟩

/-- The tag that was pending fits again. -/
theorem TagsSound.close (sound : TagsSound pending tables) {settled : String → Prop}
    (replaced : Replaced tables.projections projections read next)
    (same : next.faultTagId = read.faultTagId)
    (only : ∀ faultTagId, pending faultTagId → faultTagId = read.faultTagId ∨ settled faultTagId)
    (fits : Fits (tables.members read.faultTagId) next)
    (traced : tables.HasSubmissionHistory read.faultTagId → tables.HasTrace read.faultTagId) :
    TagsSound settled { tables with projections } := by
  have ids : projections.map (·.faultTagId) = tables.projections.map (·.faultTagId) :=
    replaced.map_eq same
  refine { sound with
    keyedProjections := ids ▸ sound.keyedProjections
    tagged := fun tag inside => ?_
    projected := fun view inside => (sound.projected view inside).imp_right fun known => ids ▸ known
    traced := fun snapshot inside closed => ?_
    fits := fun tag inside closed => ?_ }
  · rcases replaced.mem_next inside with rfl | inside
    · rw [same]
      exact sound.tagged read replaced.mem_old
    · exact sound.tagged tag inside
  · by_cases open_ : pending snapshot.faultTagId
    · obtain here := (only _ open_).resolve_right closed
      change tables.HasTrace snapshot.faultTagId
      rw [here]
      exact traced ⟨snapshot, inside, here⟩
    · exact sound.traced snapshot inside open_
  · change Fits (tables.members tag.faultTagId) tag
    rcases replaced.mem_next_keyed sound.keyedProjections same inside with rfl | ⟨inside, other⟩
    · rw [same]
      exact fits
    · refine sound.fits tag inside fun open_ => ?_
      exact ((only _ open_).resolve_right closed |> other).elim

theorem TagsSound.hasTrace (sound : TagsSound pending tables) (settled : ¬ pending faultTagId)
    (history : tables.HasSubmissionHistory faultTagId) : tables.HasTrace faultTagId := by
  obtain ⟨snapshot, inside, here⟩ := history
  rw [← here] at settled ⊢
  exact sound.traced snapshot inside settled

/-- A change of columns the aggregate does not read. -/
theorem Fits.recolumn {next : TagProjection} (fits : Fits members tag)
    (state : next.state = tag.state) (total : next.submittedMemberCount = tag.submittedMemberCount)
    (receipt : next.awaitingReceiptCount = tag.awaitingReceiptCount)
    (review : next.awaitingFinalCount = tag.awaitingFinalCount)
    (accepted : next.acceptedCount = tag.acceptedCount)
    (rejected : next.rejectedCount = tag.rejectedCount) : Fits members next where
  counts := ⟨receipt.trans fits.counts.awaitingReceipt, review.trans fits.counts.awaitingFinal,
    accepted.trans fits.counts.accepted, rejected.trans fits.counts.rejected⟩
  draft := by
    rw [state]
    exact fits.draft
  ready := by
    rw [state]
    intro live
    have ready := fits.ready live
    exact ⟨state ▸ live, total ▸ ready.positive, total ▸ ready.total, ready.handedIn⟩
  terminal := by
    rw [state]
    exact fits.terminal
  superseded := by
    rw [state]
    exact fits.superseded
  notCancelled := by
    rw [state]
    exact fits.notCancelled

theorem currentTag_mem (found : tables.currentTag faultTagId = some detail) :
    detail.projection ∈ tables.projections ∧ detail.projection.faultTagId = faultTagId := by
  obtain ⟨_, _, rest⟩ := Option.bind_eq_some_iff.mp found
  obtain ⟨projection, there, same⟩ := Option.bind_eq_some_iff.mp rest
  cases same
  exact key_of_find? there

/-- A command that reads a tag first. -/
theorem gives_currentTag {Result : Type} {good : Result → Prop} {tables : TagTables}
    {body : TagDetail → Except Raised Result}
    (step : ∀ detail, detail.projection ∈ tables.projections →
      detail.projection.faultTagId = faultTagId → Gives good (body detail)) :
    Gives good (match tables.currentTag faultTagId with
      | none => .error missing
      | some detail => body detail) := by
  cases found : tables.currentTag faultTagId with
  | none => exact gives_error _
  | some detail => exact step detail (currentTag_mem found).1 (currentTag_mem found).2

end Projections

end Soma.Inventory
