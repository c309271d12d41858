import Soma.Inventory.Returns

/-!
`inventory/repositories/fault_tags.py`: drafts of Fault Tags, their submission and
its correction, warehouse receipts, corrections and final decisions, replacements,
resends and the archive.

The fingerprints of memberships and RMAs, lifecycle batches and the columns of
events and snapshots that nothing modelled reads are left out.
-/

namespace Soma.Inventory

open Foundation

/-! ## Reads -/

/-- `current_tag`. -/
structure TagDetail where
  tag : FaultTag
  projection : TagProjection

/-- One row of `current_members`. -/
structure TagMember where
  membership : TagMembership
  current : MembershipCurrent

/-- The order of `current_members`. -/
def TagMember.UpTo (member other : TagMember) : Prop :=
  member.membership.rmaId < other.membership.rmaId ∨
    (member.membership.rmaId = other.membership.rmaId ∧
      member.membership.faultTagMembershipId ≤ other.membership.faultTagMembershipId)

instance TagMember.upToDecidable (member other : TagMember) : Decidable (member.UpTo other) :=
  inferInstanceAs (Decidable (_ ∨ _ ∧ _))

namespace TagTables

def currentTag (tables : TagTables) (faultTagId : String) : Option TagDetail := do
  let tag ← tables.tags.find? (·.faultTagId = faultTagId)
  let projection ← tables.projection? faultTagId
  return ⟨tag, projection⟩

/-- The current row of a membership, joined to it. -/
def member? (tables : TagTables) (membership : TagMembership) : Option TagMember :=
  (tables.current? membership.faultTagMembershipId).map (⟨membership, ·⟩)

def currentMembers (tables : TagTables) (faultTagId : String) : List TagMember :=
  ((tables.memberships.filter (·.faultTagId = faultTagId)).filterMap tables.member?).insertionSort
    TagMember.UpTo

/-- The submission was declared false. -/
def CorrectedFalse (tables : TagTables) (snapshot : TagSnapshot) : Prop :=
  ∃ event ∈ tables.events, event.faultTagId = snapshot.faultTagId ∧
    event.eventKind = .submissionCorrectedFalse ∧
    event.targetEventId = some snapshot.submissionEventId

instance correctedFalseDecidable (tables : TagTables) (snapshot : TagSnapshot) :
    Decidable (tables.CorrectedFalse snapshot) :=
  inferInstanceAs (Decidable (∃ _ ∈ _, _))

/-- `latest_submission`: of the submissions not declared false, the one the clock
puts last. -/
def latestSubmission (tables : TagTables) (faultTagId : String) : Option TagSnapshot :=
  (tables.snapshots.filter fun snapshot =>
      snapshot.faultTagId = faultTagId ∧ ¬ tables.CorrectedFalse snapshot).foldl
    (fun latest snapshot =>
      match latest with
      | none => some snapshot
      | some other => some
          (if other.recordedAtUtc < snapshot.recordedAtUtc ∨
              (other.recordedAtUtc = snapshot.recordedAtUtc ∧
                other.faultTagSubmissionSnapshotId < snapshot.faultTagSubmissionSnapshotId) then
            snapshot
          else other)) none

def HasSubmissionHistory (tables : TagTables) (faultTagId : String) : Prop :=
  ∃ snapshot ∈ tables.snapshots, snapshot.faultTagId = faultTagId

instance hasSubmissionHistoryDecidable (tables : TagTables) (faultTagId : String) :
    Decidable (tables.HasSubmissionHistory faultTagId) :=
  inferInstanceAs (Decidable (∃ _ ∈ _, _))

/-- `correction_successor` finds a tag. -/
def HasCorrectionSuccessor (tables : TagTables) (faultTagId : String) : Prop :=
  ∃ link ∈ tables.lineage, link.predecessorFaultTagId = faultTagId ∧
    link.relationType = .correctsReplaces

instance hasCorrectionSuccessorDecidable (tables : TagTables) (faultTagId : String) :
    Decidable (tables.HasCorrectionSuccessor faultTagId) :=
  inferInstanceAs (Decidable (∃ _ ∈ _, _))

end TagTables

def InventoryRows.obligationAuthority (rows : InventoryRows) (rmaId : String) :
    Option ReturnObligation := do
  let obligation ← rows.rmas.obligation? rmaId
  let _ ← rows.rmas.lifecycle? rmaId
  return obligation

/-! ## Checks -/

/-- `FAULT_TAG_PICKUP_ORIGIN_REQUIRED`. -/
def pickupRequired (message : String) : Raised :=
  inventoryError "FAULT_TAG_PICKUP_ORIGIN_REQUIRED" message

def tagNotDraft (message : String) : Raised :=
  inventoryError "FAULT_TAG_NOT_DRAFT" message

/-- `validate_memberships`, sorted by RMA. -/
def validateMemberships (memberships : List (String × String)) :
    Except Raised (List (String × String)) := do
  ensure (memberships.length ≤ 2000) (validationError "Fault Tag membership hard limit exceeded")
  ensure (memberships.map (·.1)).Nodup
    (validationError "Fault Tag memberships contain duplicate RMA obligations")
  return memberships.insertionSort fun left right => left.1 ≤ right.1

def requireOptionalDraftReferences (call : InventoryCall) (plan : ReturnPlan) :
    Except Raised Unit :=
  match plan.returnMethod with
  | .nonPickup =>
    ensure (plan.pickupDispatchLocationId = none ∧ plan.pickupContactId = none)
      (pickupRequired "Non-pickup Fault Tag cannot carry pickup-origin references")
  | .pickup => do
    ensure (∀ locationId ∈ plan.pickupDispatchLocationId,
        (call.surroundings.dispatchLocation locationId).map (·.lifecycleState) = some "active")
      (pickupRequired "Fault Tag pickup-origin Dispatch Location is unavailable")
    ensure (∀ contactId ∈ plan.pickupContactId,
        (call.surroundings.contact contactId).map (·.lifecycleState) = some "active")
      (pickupRequired "Fault Tag pickup Contact is unavailable")

/-- What a membership takes over from the obligation of its RMA. -/
structure MemberAuthority where
  physicalConsequenceId : String
  devicePartUnitId : Option String
  sparePartUnitId : Option String
  deriving DecidableEq

/-- An active membership is about the RMA or its unit. -/
def MembershipCurrent.Occupies (row : MembershipCurrent) (rmaId : String)
    (authority : MemberAuthority) : Prop :=
  row.activeSubmitted = true ∧
    (row.rmaId = rmaId ∨
      (authority.devicePartUnitId ≠ none ∧ row.devicePartUnitId = authority.devicePartUnitId) ∨
      (authority.devicePartUnitId = none ∧ row.sparePartUnitId = authority.sparePartUnitId))

instance MembershipCurrent.occupiesDecidable (row : MembershipCurrent) (rmaId : String)
    (authority : MemberAuthority) : Decidable (row.Occupies rmaId authority) :=
  inferInstanceAs (Decidable (_ ∧ (_ ∨ _ ∨ _)))

/-- The open obligation a membership needs, with its consequence. -/
def InventoryRows.openObligation (rows : InventoryRows) (rmaId : String) :
    Option MemberAuthority := do
  let obligation ← rows.obligationAuthority rmaId
  let physicalConsequenceId ← obligation.physicalConsequenceId
  if obligation.obligationState = .open then
    some ⟨physicalConsequenceId, obligation.devicePartUnitId, obligation.sparePartUnitId⟩
  else none

def requireMembershipEligible (rows : InventoryRows) (rmaId excludingFaultTagId : String) :
    Except Raised MemberAuthority :=
  match rows.openObligation rmaId with
  | none => .error (selectionInvalid
      "RMA has no current open return obligation selected by physical consequence")
  | some authority => do
    ensure (¬ (authority.devicePartUnitId = none ↔ authority.sparePartUnitId = none))
      (integrityFailure "Open RMA return obligation has invalid typed unit authority")
    ensure (¬ ∃ row ∈ rows.tags.current, row.Occupies rmaId authority ∧
        row.faultTagId ≠ excludingFaultTagId)
      (inventoryError "FAULT_TAG_MEMBERSHIP_CONFLICT"
        "RMA return obligation or selected unit is active in another submitted Fault Tag")
    return authority

/-! ## Fingerprints -/

/-- `projection_fingerprint`. -/
def tagDraftFingerprint (python : PythonLibrary) (faultTagId : String) (plan : ReturnPlan)
    (members : List TagMembership) (archived : Bool) : Except Raised String :=
  sha256CanonicalJson python (.obj [
    ("schema", .str "SOMA_FAULT_TAG_CURRENT_V1"),
    ("fault_tag_id", .str faultTagId),
    ("state", .str "draft"),
    ("archived", .int archived.toNat),
    ("current_submission_snapshot_id", .null),
    ("draft", .obj [
      ("return_method", .str plan.returnMethod.text),
      ("pickup_dispatch_location_id", textOrNull plan.pickupDispatchLocationId),
      ("pickup_contact_id", textOrNull plan.pickupContactId),
      ("pickup_instructions", textOrNull plan.pickupInstructions)]),
    ("members", .arr (members.map fun member => .obj [
      ("fault_tag_membership_id", .str member.faultTagMembershipId),
      ("rma_id", .str member.rmaId),
      ("physical_consequence_id", .str member.physicalConsequenceId),
      ("device_part_unit_id", textOrNull member.devicePartUnitId),
      ("spare_part_unit_id", textOrNull member.sparePartUnitId),
      ("return_reason", .str member.returnReason)]))])

/-- The fingerprint of a tag that is no draft, with what else is hashed. -/
def tagFingerprint (python : PythonLibrary) (schema : String) (projection : TagProjection)
    (rest : List (String × Json)) : Except Raised String :=
  sha256CanonicalJson python (.obj ([
    ("schema", .str schema),
    ("fault_tag_id", .str projection.faultTagId),
    ("state", .str projection.state.text),
    ("archived", .int projection.archived.toNat),
    ("current_submission_snapshot_id", textOrNull projection.currentSubmissionSnapshotId)] ++
    rest))

/-- The counts of a tag that are hashed. -/
def TagProjection.counts (projection : TagProjection) : List (String × Json) := [
  ("submitted_member_count", .int projection.submittedMemberCount),
  ("awaiting_receipt_count", .int projection.awaitingReceiptCount),
  ("awaiting_final_count", .int projection.awaitingFinalCount),
  ("accepted_count", .int projection.acceptedCount),
  ("rejected_count", .int projection.rejectedCount)]

/-! ## Statements -/

/-- The partial unique indexes of active memberships. -/
def Exclusive (current : List MembershipCurrent) : Prop :=
  ((current.filter (·.activeSubmitted)).map (·.rmaId)).Nodup ∧
    ((current.filter (·.activeSubmitted)).filterMap (·.devicePartUnitId)).Nodup ∧
    ((current.filter (·.activeSubmitted)).filterMap (·.sparePartUnitId)).Nodup

instance exclusiveDecidable (current : List MembershipCurrent) : Decidable (Exclusive current) :=
  inferInstanceAs (Decidable (_ ∧ _ ∧ _))

/-- How a membership moves on: the event, the row the `UPDATE` names and its new state. -/
structure MembershipMove where
  event : MembershipEvent
  selected : MembershipCurrent → Bool
  state : MembershipState
  activeSubmitted : Bool
  missed : String

/-- The statements that move a membership on. -/
def moveMembership (move : MembershipMove) (tables : TagTables) : Except Raised TagTables := do
  let membershipEvents ← insertKeyed (·.membershipEventId) tables.membershipEvents move.event
  let current ← updateOne
    (fun row => row.faultTagMembershipId = move.event.faultTagMembershipId ∧ move.selected row)
    (fun row => { row with
      state := move.state
      activeSubmitted := move.activeSubmitted
      revision := row.revision + 1
      lastEventId := some move.event.membershipEventId })
    (invStale move.missed) tables.current
  ensure (Exclusive current) .other
  return { tables with membershipEvents, current }

/-- The `UPDATE` of a tag projection at the revision that was read. -/
def updateTag (read : TagProjection) (selected : TagProjection → Bool)
    (change : TagProjection → TagProjection) (missed : String) (tables : TagTables) :
    Except Raised TagTables := do
  let projections ← updateOne
    (fun row => row.faultTagId = read.faultTagId ∧ row.revision = read.revision ∧ selected row)
    (fun row => { change row with revision := read.revision + 1 }) (invStale missed)
    tables.projections
  return { tables with projections }

/-- The next event of a tag. -/
def recordTagEvent (eventId faultTagId : String) (eventKind : TagEventKind)
    (targetEventId evidenceKind : Option String) (now : Int) (tables : TagTables) :
    Except Raised TagTables := do
  let events ← insertKeyed (·.faultTagEventId) tables.events
    ⟨eventId, faultTagId, eventKind, targetEventId, evidenceKind, now⟩
  return { tables with events }

/-! ## Drafts -/

def allocateFaultTagTracking (tables : TagTables) : Except Raised (TagTables × Nat × String) := do
  let (allocator, sequence) ← allocateTracking tables.allocator
    "Inventory Fault Tag allocator is missing" "Fault Tag tracking sequence is exhausted"
  return ({ tables with allocator }, sequence,
    "FT-" ++ String.ofList ((toString sequence).toList.leftpad 8 '0'))

def insertMembership (faultTagId : String) (draftRevision : Nat) (rows : InventoryRows)
    (drawn : String × String × String) : Except Raised InventoryRows := do
  let (membershipId, rmaId, returnReason) := drawn
  let authority ← requireMembershipEligible rows rmaId faultTagId
  let memberships ← insertKeyed (·.faultTagMembershipId) rows.tags.memberships
    ⟨membershipId, faultTagId, rmaId, authority.physicalConsequenceId, authority.devicePartUnitId,
      authority.sparePartUnitId, returnReason, draftRevision⟩
  let current ← insertKeyed (·.faultTagMembershipId) rows.tags.current
    ⟨membershipId, faultTagId, rmaId, authority.devicePartUnitId, authority.sparePartUnitId, .draft,
      false, 1, none⟩
  return { rows with tags := { rows.tags with memberships, current } }

/-- What a draft is made of. -/
structure TagDraft where
  plan : ReturnPlan
  memberships : List (String × String)

/-- `insert_draft`, with the identifiers drawn before it. -/
def insertTagDraft (call : InventoryCall) (drawn : Nat) (faultTagId : String)
    (trackingSequence : Nat) (trackingId : String) (draft : TagDraft) (rows : InventoryRows) :
    Except Raised InventoryRows := do
  requireOptionalDraftReferences call draft.plan
  -- The tracking numbers of tags are unique too.
  ensure (trackingSequence ∉ rows.tags.tags.map (·.trackingSequence) ∧
    trackingId ∉ rows.tags.tags.map (·.trackingId)) .other
  let tags ← insertKeyed (·.faultTagId) rows.tags.tags
    ⟨faultTagId, trackingSequence, trackingId, draft.plan, 1⟩
  let tags ← recordTagEvent (call.newUuid4 drawn).value faultTagId .created none none call.now
    { rows.tags with tags }
  let rows ← (call.drawFor (drawn + 1) draft.memberships).foldlM (insertMembership faultTagId 1)
    { rows with tags }
  let members := (rows.tags.currentMembers faultTagId).map (·.membership)
  let inputFingerprint ← tagDraftFingerprint call.python faultTagId draft.plan members false
  let projections ← insertKeyed (·.faultTagId) rows.tags.projections
    ⟨faultTagId, .draft, false, none, 0, 0, 0, 0, 0, 1, inputFingerprint⟩
  return { rows with tags := { rows.tags with projections } }

def createFaultTagDraft (call : InventoryCall) (draft : TagDraft) (rows : InventoryRows) :
    Except Raised InventoryRows := do
  let memberships ← validateMemberships draft.memberships
  let (tags, trackingSequence, trackingId) ← allocateFaultTagTracking rows.tags
  insertTagDraft call 1 (call.newUuid4 0).value trackingSequence trackingId
    { draft with memberships } { rows with tags }

/-- A membership has left a trace. -/
def TagTables.Protected (tables : TagTables) (membershipId : String) : Prop :=
  membershipId ∈ tables.membershipEvents.map (·.faultTagMembershipId) ∨
    membershipId ∈ tables.membershipSnapshots.map (·.faultTagMembershipId)

instance TagTables.protectedDecidable (tables : TagTables) (membershipId : String) :
    Decidable (tables.Protected membershipId) :=
  inferInstanceAs (Decidable (_ ∨ _))

/-- A draft loses a member. -/
def removeMembership (member : TagMember) (rows : InventoryRows) : Except Raised InventoryRows := do
  let membershipId := member.membership.faultTagMembershipId
  ensure (member.current.state = .draft ∧ member.current.activeSubmitted = false)
    (tagNotDraft "Submitted Fault Tag membership cannot be removed in place")
  ensure (¬ rows.tags.Protected membershipId)
    (tagNotDraft "Fault Tag membership already has protected history")
  return { rows with tags := { rows.tags with
    current := rows.tags.current.filter fun row => row.faultTagMembershipId ≠ membershipId
    memberships := rows.tags.memberships.filter fun row =>
      row.faultTagMembershipId ≠ membershipId } }

/-- A draft keeps a member, with the unit its RMA now returns. -/
def refreshMembership (faultTagId : String) (draftRevision : Nat) (member : TagMember)
    (returnReason : String) (rows : InventoryRows) : Except Raised InventoryRows := do
  let membershipId := member.membership.faultTagMembershipId
  let authority ← requireMembershipEligible rows member.membership.rmaId faultTagId
  return { rows with tags := { rows.tags with
    memberships := rows.tags.memberships.map fun row =>
      if row.faultTagMembershipId = membershipId then { row with
        physicalConsequenceId := authority.physicalConsequenceId
        devicePartUnitId := authority.devicePartUnitId
        sparePartUnitId := authority.sparePartUnitId
        returnReason
        draftRevision }
      else row
    current := rows.tags.current.map fun row =>
      if row.faultTagMembershipId = membershipId ∧ row.state = .draft ∧
          row.activeSubmitted = false then { row with
        devicePartUnitId := authority.devicePartUnitId
        sparePartUnitId := authority.sparePartUnitId
        revision := row.revision + 1 }
      else row } }

/-- One turn of the loop over the members a draft has. -/
def replaceMembership (faultTagId : String) (draftRevision : Nat)
    (desired : List (String × String)) (rows : InventoryRows) (member : TagMember) :
    Except Raised InventoryRows :=
  match desired.find? (·.1 = member.membership.rmaId) with
  | none => removeMembership member rows
  | some (_, returnReason) => refreshMembership faultTagId draftRevision member returnReason rows

def replaceTagDraft (call : InventoryCall) (faultTagId : String) (baseRevision : Nat)
    (draft : TagDraft) (rows : InventoryRows) : Except Raised InventoryRows :=
  match rows.tags.currentTag faultTagId with
  | none => .error (invStale "Fault Tag revision changed")
  | some detail => do
    ensure (detail.projection.revision = baseRevision) (invStale "Fault Tag revision changed")
    ensure (detail.projection.state = .draft ∧
        detail.projection.currentSubmissionSnapshotId = none)
      (tagNotDraft "Fault Tag is not editable Draft authority")
    requireOptionalDraftReferences call draft.plan
    let existing := rows.tags.currentMembers faultTagId
    let rows ← existing.foldlM
      (replaceMembership faultTagId (baseRevision + 1) draft.memberships) rows
    let added := draft.memberships.filter fun membership =>
      membership.1 ∉ existing.map (·.membership.rmaId)
    let rows ← (call.drawFor 0 added).foldlM (insertMembership faultTagId (baseRevision + 1)) rows
    let tags := { rows.tags with
      tags := rows.tags.tags.map fun row =>
        if row.faultTagId = faultTagId then
          { row with plan := draft.plan, draftRevision := baseRevision + 1 }
        else row }
    let members := (tags.currentMembers faultTagId).map (·.membership)
    let inputFingerprint ← tagDraftFingerprint call.python faultTagId draft.plan members false
    let tags ← updateTag detail.projection
      (fun row => row.state = .draft ∧ row.currentSubmissionSnapshotId = none)
      (fun row => { row with inputFingerprint }) "Fault Tag changed during draft replacement" tags
    return { rows with tags }

/-- The draft is already so. -/
def TagTables.HasDraft (tables : TagTables) (detail : TagDetail) (draft : TagDraft) : Prop :=
  detail.tag.plan = draft.plan ∧
    ((tables.currentMembers detail.tag.faultTagId).map fun member =>
      (member.membership.rmaId, member.membership.returnReason)) = draft.memberships

instance TagTables.hasDraftDecidable (tables : TagTables) (detail : TagDetail)
    (draft : TagDraft) : Decidable (tables.HasDraft detail draft) :=
  inferInstanceAs (Decidable (_ ∧ _))

/-- `update_fault_tag_draft`; a draft that is already so is left alone. -/
def updateFaultTagDraft (call : InventoryCall) (faultTagId : String) (baseRevision : Nat)
    (draft : TagDraft) (rows : InventoryRows) : Except Raised InventoryRows := do
  let memberships ← validateMemberships draft.memberships
  let draft := { draft with memberships }
  match rows.tags.currentTag faultTagId with
  | none => .error (invStale "Fault Tag revision changed")
  | some detail => do
    ensure (detail.projection.revision = baseRevision) (invStale "Fault Tag revision changed")
    ensure (detail.projection.state = .draft ∧
        detail.projection.currentSubmissionSnapshotId = none)
      (tagNotDraft "Fault Tag is not editable Draft authority")
    requireOptionalDraftReferences call draft.plan
    if rows.tags.HasDraft detail draft then return rows
    else replaceTagDraft call faultTagId baseRevision draft rows

/-! ## RMAs of memberships -/

def updateRmaFaultTagProjection (rmaId : String) (membershipId : Option String)
    (tables : RmaTables) : Except Raised RmaTables :=
  match tables.lifecycle? rmaId with
  | none => .error (integrityFailure "Fault Tag membership points to missing RMA projection")
  | some read => updateRmaProjection read
      (fun row => { row with
        state :=
          if membershipId ≠ none then .faultTagged
          else if read.returnObligationOpen then .returnOpen
          else read.state
        activeFaultTagMembershipId := membershipId })
      "RMA changed during Fault Tag transition" tables

def rebuildRmaWarehouseState (rmaId : String) (membershipId : Option String) (state : RmaState)
    (obligationOpen : Bool) (tables : RmaTables) : Except Raised RmaTables :=
  match tables.lifecycle? rmaId with
  | none => .error (integrityFailure "RMA projection disappeared during warehouse transition")
  | some read => updateRmaProjection read
      (fun row => { row with
        state
        returnObligationOpen := obligationOpen
        activeFaultTagMembershipId := membershipId })
      "RMA changed during warehouse transition" tables

/-! ## Submissions -/

/-- `_pickup_snapshot`: the name and the address of the pickup origin and the contact. -/
structure PickupSnapshot where
  locationName : Option String
  locationAddress : Option String
  contact : Json

/-- The contact of a pickup as it is snapshotted. -/
def pickupContact (call : InventoryCall) (contactId : Option String) : Except Raised Json :=
  match contactId with
  | none => .ok .null
  | some contactId =>
    match call.surroundings.contact contactId with
    | none => .error (pickupRequired "Pickup Contact is unavailable")
    | some contact => do
      ensure (contact.lifecycleState = "active") (pickupRequired "Pickup Contact is unavailable")
      return .obj [
        ("contact_id", .str contactId),
        ("contact_revision_at_submission", .int contact.revision),
        ("display_name_snapshot", .str contact.name)]

/-- `_pickup_snapshot` of a pickup. -/
def pickupOrigin (call : InventoryCall) (locationId : String) (contactId : Option String) :
    Except Raised PickupSnapshot :=
  match call.surroundings.dispatchLocation locationId with
  | none => .error (pickupRequired "Pickup-origin Dispatch Location is unavailable")
  | some location => do
    ensure (location.lifecycleState = "active")
      (pickupRequired "Pickup-origin Dispatch Location is unavailable")
    ensure (location.standaloneAddressText ≠ none)
      (pickupRequired "Pickup-origin address cannot be snapshotted")
    let contact ← pickupContact call contactId
    return ⟨some location.name, location.standaloneAddressText, contact⟩

def pickupSnapshot (call : InventoryCall) (plan : ReturnPlan) : Except Raised PickupSnapshot :=
  match plan.returnMethod, plan.pickupDispatchLocationId with
  | .nonPickup, _ => .ok ⟨none, none, .null⟩
  | .pickup, none => .error (pickupRequired
      "Pickup Fault Tag requires exactly one pickup-origin Dispatch Location")
  | .pickup, some locationId => pickupOrigin call locationId plan.pickupContactId

/-- A membership still stands for what its RMA returns. -/
def requireUnchangedMember (rows : InventoryRows) (faultTagId : String) (member : TagMember) :
    Except Raised Unit := do
  let authority ← requireMembershipEligible rows member.membership.rmaId faultTagId
  ensure (authority = ⟨member.membership.physicalConsequenceId, member.membership.devicePartUnitId,
      member.membership.sparePartUnitId⟩)
    (invStale "Fault Tag membership no longer matches exact return obligation")

def RmaTables.c10? (tables : RmaTables) (rmaId : String) : Option String :=
  (tables.c10Aliases.find? fun row => row.rmaId = rmaId ∧ row.aliasKind = .current).map (·.c10)

/-- What is submitted, and on which evidence. -/
structure TagSubmission where
  effectiveSubmissionAtUtc : Option Int
  evidence : SubmissionEvidence

def tagSnapshotMaterial (detail : TagDetail) (eventId : String) (pickup : PickupSnapshot)
    (submission : TagSubmission) (rmas : RmaTables) (members : List TagMember) : Json :=
  .obj [
    ("schema", .str "SOMA_FAULT_TAG_SUBMISSION_V1"),
    ("fault_tag_id", .str detail.tag.faultTagId),
    ("submission_event_id", .str eventId),
    ("tracking_id", .str detail.tag.trackingId),
    ("return_method", .str detail.tag.plan.returnMethod.text),
    ("pickup_dispatch_location_id", textOrNull detail.tag.plan.pickupDispatchLocationId),
    ("pickup_location_name_snapshot", textOrNull pickup.locationName),
    ("pickup_location_address_snapshot", textOrNull pickup.locationAddress),
    ("pickup_contact_id", textOrNull detail.tag.plan.pickupContactId),
    ("pickup_contact_snapshot_json", pickup.contact),
    ("pickup_instructions_snapshot", textOrNull detail.tag.plan.pickupInstructions),
    ("effective_submission_at_utc", integerOrNull submission.effectiveSubmissionAtUtc),
    ("evidence_kind", .str submission.evidence.kind),
    ("evidence_id", textOrNull submission.evidence.id),
    ("members", .arr (members.map fun member => .obj [
      ("fault_tag_membership_id", .str member.membership.faultTagMembershipId),
      ("rma_id", .str member.membership.rmaId),
      ("current_c10", textOrNull (rmas.c10? member.membership.rmaId)),
      ("physical_consequence_id", .str member.membership.physicalConsequenceId),
      ("device_part_unit_id", textOrNull member.membership.devicePartUnitId),
      ("spare_part_unit_id", textOrNull member.membership.sparePartUnitId),
      ("return_reason", .str member.membership.returnReason)]))]

/-- The writes of a submission for one member. -/
def submitMember (snapshotId : String) (rows : InventoryRows)
    (drawn : String × String × TagMember) : Except Raised InventoryRows := do
  let (membershipSnapshotId, membershipEventId, member) := drawn
  let membershipId := member.membership.faultTagMembershipId
  -- A snapshot holds a membership once.
  ensure (¬ ∃ row ∈ rows.tags.membershipSnapshots,
    row.faultTagSubmissionSnapshotId = snapshotId ∧ row.faultTagMembershipId = membershipId) .other
  let membershipSnapshots ← insertKeyed (·.membershipSnapshotId) rows.tags.membershipSnapshots
    ⟨membershipSnapshotId, snapshotId, membershipId⟩
  let tags ← moveMembership {
      event := ⟨membershipEventId, membershipId, .submitted, none⟩
      selected := fun row => row.state = .draft ∧ row.activeSubmitted = false
      state := .submittedAwaitingReceipt
      activeSubmitted := true
      missed := "Fault Tag membership changed during submission" }
    { rows.tags with membershipSnapshots }
  let rmas ← updateRmaFaultTagProjection member.membership.rmaId (some membershipId) rows.rmas
  return { rows with tags, rmas }

def acceptTagSubmission (call : InventoryCall) (faultTagId expectedFingerprint : String)
    (submission : TagSubmission) (rows : InventoryRows) : Except Raised InventoryRows :=
  match rows.tags.currentTag faultTagId with
  | none => .error (invStale "Fault Tag no longer exists")
  | some detail => do
    ensure (detail.projection.state = .draft ∧
        detail.projection.currentSubmissionSnapshotId = none)
      (tagNotDraft "Fault Tag is not submission-ready Draft authority")
    ensure (detail.projection.inputFingerprint = expectedFingerprint)
      (invStale "Fault Tag draft fingerprint changed")
    let members := rows.tags.currentMembers faultTagId
    ensure (members.length ≠ 0)
      (tagNotDraft "Fault Tag submission requires one-or-more members")
    let pickup ← pickupSnapshot call detail.tag.plan
    let _ ← members.mapM (requireUnchangedMember rows faultTagId)
    let eventId := (call.newUuid4 0).value
    let snapshotId := (call.newUuid4 1).value
    let snapshotHash ← sha256CanonicalJson call.python
      (tagSnapshotMaterial detail eventId pickup submission rows.rmas members)
    let tags ← recordTagEvent eventId faultTagId .submissionAccepted none
      (some submission.evidence.kind) call.now rows.tags
    -- The event of a submission is unique too, but it was only just inserted.
    let snapshots ← insertKeyed (·.faultTagSubmissionSnapshotId) tags.snapshots
      ⟨snapshotId, faultTagId, eventId, call.now, snapshotHash⟩
    let drawn := call.drawFor 2 (call.drawFor (2 + members.length) members)
    let rows ← drawn.foldlM (submitMember snapshotId) { rows with tags := { tags with snapshots } }
    let submitted (row : TagProjection) : TagProjection := { row with
      state := .submitted
      currentSubmissionSnapshotId := some snapshotId
      submittedMemberCount := members.length
      awaitingReceiptCount := members.length
      awaitingFinalCount := 0
      acceptedCount := 0
      rejectedCount := 0 }
    let inputFingerprint ← tagFingerprint call.python "SOMA_FAULT_TAG_CURRENT_V1"
      (submitted detail.projection)
      ((submitted detail.projection).counts ++ [("snapshot_hash", .str snapshotHash)])
    let tags ← updateTag detail.projection
      (fun row => row.state = .draft ∧ row.currentSubmissionSnapshotId = none)
      (fun row => { submitted row with inputFingerprint }) "Fault Tag changed during submission"
      rows.tags
    return { rows with tags }

/-- The submission a correction is about, with what its event is based on. -/
def requireFalseSubmission (tables : TagTables) (faultTagId submissionEventId : String) :
    Except Raised TagSnapshot :=
  match tables.latestSubmission faultTagId with
  | none => .error (inventoryError "CORRECTION_TARGET_INVALID"
      "Target is not current-effective Fault Tag submission")
  | some current => do
    ensure (current.submissionEventId = submissionEventId)
      (inventoryError "CORRECTION_TARGET_INVALID"
        "Target is not current-effective Fault Tag submission")
    match tables.events.find? fun event => event.faultTagEventId = submissionEventId ∧
        event.faultTagId = faultTagId ∧ event.eventKind = .submissionAccepted with
    | none => .error (integrityFailure "Fault Tag current submission event is missing")
    | some source => do
      ensure (source.evidenceKind ≠ some "indexed_sent")
        (inventoryError "CORRECTION_TARGET_INVALID"
          "Indexed sent evidence contradicts false-submission correction")
      return current

/-- The writes of a false submission for one member. -/
def withdrawMember (rows : InventoryRows) (drawn : String × TagMember) :
    Except Raised InventoryRows := do
  let (membershipEventId, member) := drawn
  ensure (member.current.lastEventId ≠ none)
    (integrityFailure "Submitted Fault Tag membership lacks submitted event")
  let tags ← moveMembership {
      event := ⟨membershipEventId, member.membership.faultTagMembershipId, .correct,
        member.current.lastEventId⟩
      selected := fun row => row.state = .submittedAwaitingReceipt ∧ row.activeSubmitted = true
      state := .draft
      activeSubmitted := false
      missed := "Fault Tag membership changed during correction" } rows.tags
  let rmas ← updateRmaFaultTagProjection member.membership.rmaId none rows.rmas
  return { rows with tags, rmas }

def correctFalseTagSubmission (call : InventoryCall) (faultTagId submissionEventId : String)
    (rows : InventoryRows) : Except Raised InventoryRows :=
  match rows.tags.currentTag faultTagId with
  | none => .error (invStale "Fault Tag no longer exists")
  | some detail => do
    let current ← requireFalseSubmission rows.tags faultTagId submissionEventId
    let members := rows.tags.currentMembers faultTagId
    ensure (∀ member ∈ members, member.current.state = .submittedAwaitingReceipt ∧
        member.current.activeSubmitted = true)
      (inventoryError "CORRECTION_TARGET_INVALID"
        "Warehouse or later membership authority contradicts false submission")
    let tags ← recordTagEvent (call.newUuid4 0).value faultTagId .submissionCorrectedFalse
      (some submissionEventId) none call.now rows.tags
    let rows ← (call.drawFor 1 members).foldlM withdrawMember { rows with tags }
    let inputFingerprint ← tagDraftFingerprint call.python faultTagId detail.tag.plan
      (members.map (·.membership)) detail.projection.archived
    let tags ← updateTag detail.projection
      (fun row => row.currentSubmissionSnapshotId = some current.faultTagSubmissionSnapshotId)
      (fun row => { row with
        state := .draft
        currentSubmissionSnapshotId := none
        submittedMemberCount := 0
        awaitingReceiptCount := 0
        awaitingFinalCount := 0
        acceptedCount := 0
        rejectedCount := 0
        inputFingerprint }) "Fault Tag changed during false-submission correction" rows.tags
    return { rows with tags }

end Soma.Inventory
