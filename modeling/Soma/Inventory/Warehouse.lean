import Soma.Inventory.FaultTags

/-!
The second half of `inventory/repositories/fault_tags.py`: what the warehouse says
of a submitted membership, the tag that replaces or resends another and the
archive. A command that accepts a proposal of the warehouse calls the same
functions once for each of its targets.
-/

namespace Soma.Inventory

open Foundation

/-! ## Targets of the warehouse -/

/-- A membership the warehouse speaks of, with the obligation of its RMA. -/
structure WarehouseTarget where
  current : MembershipCurrent
  obligation : ReturnObligation

/-- `validate_warehouse_memberships`, sorted by membership. -/
def validateWarehouseMemberships (targets : List (String × Nat)) :
    Except Raised (List (String × Nat)) := do
  ensure (targets ≠ []) (validationError "warehouse transition requires one-or-more memberships")
  ensure (targets.length ≤ 2000) (validationError "warehouse transition hard limit exceeded")
  ensure (targets.map (·.1)).Nodup
    (validationError "warehouse transition contains duplicate memberships")
  return targets.insertionSort fun left right => left.1 ≤ right.1

/-- The membership is in another state than the one required. -/
def wrongWarehouseState (required : MembershipState) : Raised :=
  if required = .warehouseReceived then
    inventoryError "WAREHOUSE_RECEIPT_REQUIRED"
      "Fault Tag membership is not awaiting final warehouse decision"
  else inventoryError "BULK_INCOMPATIBLE" "Fault Tag membership is not awaiting warehouse receipt"

/-- `warehouse_membership_authority_set` for one membership. -/
def InventoryRows.warehouseAuthority (rows : InventoryRows) (membershipId : String) :
    Option (TagMembership × MembershipCurrent × Option ReturnObligation) := do
  let current ← rows.tags.current? membershipId
  let membership ← rows.tags.memberships.find? (·.faultTagMembershipId = membershipId)
  return (membership, current, rows.rmas.obligation? current.rmaId)

/-- The obligation a target of the warehouse needs. -/
def requireTargetObligation (membership : TagMembership) (current : MembershipCurrent)
    (obligation : Option ReturnObligation) : Except Raised WarehouseTarget :=
  match obligation with
  | none => .error (invStale "Fault Tag membership return obligation is no longer open")
  | some obligation => do
    ensure (obligation.obligationState = .open)
      (invStale "Fault Tag membership return obligation is no longer open")
    ensure (obligation.devicePartUnitId = current.devicePartUnitId ∧
        obligation.sparePartUnitId = current.sparePartUnitId ∧
        obligation.physicalConsequenceId = some membership.physicalConsequenceId)
      (invStale "Fault Tag membership no longer matches current return obligation")
    return ⟨current, obligation⟩

def requireWarehouseTarget (rows : InventoryRows) (required : MembershipState)
    (target : String × Nat) : Except Raised WarehouseTarget :=
  match rows.warehouseAuthority target.1 with
  | none => .error (invStale "Fault Tag membership revision changed")
  | some (membership, current, obligation) => do
    ensure (current.revision = target.2) (invStale "Fault Tag membership revision changed")
    ensure (current.state = required ∧ current.activeSubmitted = true)
      (wrongWarehouseState required)
    requireTargetObligation membership current obligation

/-! ## The projection of a tag -/

/-- The members of a tag in a state. -/
def TagTables.countIn (tables : TagTables) (faultTagId : String) (state : MembershipState) : Nat :=
  tables.current.countP fun row => row.faultTagId = faultTagId ∧ row.state = state

/-- The state `_rebuild_tag_projection` computes. -/
def TagTables.rebuiltState (tables : TagTables) (faultTagId : String)
    (submittedMemberCount : Nat) : TagState :=
  let count := tables.countIn faultTagId
  if 0 < submittedMemberCount ∧ submittedMemberCount ≤
      count .accepted + count .rejected + count .cancelled + count .superseded then
    if count .rejected = 0 then .terminalCompleted else .terminalWithRejected
  else if 0 < count .warehouseReceived then .inWarehouseReview
  else .submitted

def rebuildTagProjection (call : InventoryCall) (tables : TagTables) (faultTagId : String) :
    Except Raised TagTables :=
  match tables.currentTag faultTagId with
  | none => .error (integrityFailure "Fault Tag disappeared during projection rebuild")
  | some detail => do
    let rebuilt (row : TagProjection) : TagProjection := { row with
      state := tables.rebuiltState faultTagId row.submittedMemberCount
      awaitingReceiptCount := tables.countIn faultTagId .submittedAwaitingReceipt
      awaitingFinalCount := tables.countIn faultTagId .warehouseReceived
      acceptedCount := tables.countIn faultTagId .accepted
      rejectedCount := tables.countIn faultTagId .rejected }
    let inputFingerprint ← tagFingerprint call.python "SOMA_FAULT_TAG_CURRENT_V1"
      (rebuilt detail.projection) (rebuilt detail.projection).counts
    updateTag detail.projection (fun _ => true)
      (fun row => { rebuilt row with inputFingerprint })
      "Fault Tag changed during projection rebuild" tables

/-- The projections of the tags of some memberships, in the order of their identifiers. -/
def rebuildTagProjections (call : InventoryCall) (faultTagIds : List String)
    (rows : InventoryRows) : Except Raised InventoryRows := do
  let tags ← (faultTagIds.dedup.insertionSort (· ≤ ·)).foldlM (rebuildTagProjection call) rows.tags
  return { rows with tags }

/-- The attention of memberships, one after the other. -/
def rebuildMembershipAttentions (membershipIds : List String) (rows : InventoryRows) :
    Except Raised InventoryRows :=
  membershipIds.foldlM (fun rows membershipId => rebuildMembershipAttention membershipId rows) rows

/-! ## Receipts and decisions -/

/-- The writes of a warehouse receipt for one target. -/
def receiveMember (rows : InventoryRows) (drawn : String × WarehouseTarget) :
    Except Raised InventoryRows := do
  let (membershipEventId, target) := drawn
  let membershipId := target.current.faultTagMembershipId
  let tags ← moveMembership {
      event := ⟨membershipEventId, membershipId, .warehouseReceived, none⟩
      selected := fun row => row.revision = target.current.revision ∧
        row.state = .submittedAwaitingReceipt ∧ row.activeSubmitted = true
      state := .warehouseReceived
      activeSubmitted := true
      missed := "Fault Tag membership changed during warehouse receipt" } rows.tags
  let rmas ← rebuildRmaWarehouseState target.current.rmaId (some membershipId) .warehouseReceived
    true rows.rmas
  return { rows with tags, rmas }

def recordWarehouseReceipt (call : InventoryCall) (targets : List (String × Nat))
    (rows : InventoryRows) : Except Raised InventoryRows := do
  let targets ← validateWarehouseMemberships targets
  let preflight ← targets.mapM (requireWarehouseTarget rows .submittedAwaitingReceipt)
  let rows ← (call.drawFor 0 preflight).foldlM receiveMember rows
  let rows ← rebuildTagProjections call (preflight.map (·.current.faultTagId)) rows
  rebuildMembershipAttentions (targets.map (·.1)) rows

inductive WarehouseDecision where
  | accepted
  | rejected

def WarehouseDecision.state : WarehouseDecision → MembershipState
  | .accepted => .accepted
  | .rejected => .rejected

def WarehouseDecision.eventKind : WarehouseDecision → MembershipEventKind
  | .accepted => .warehouseAccepted
  | .rejected => .warehouseRejected

/-- The RMA of a membership the warehouse decided on: an acceptance closes its return. -/
def decideReturn (returnEventId : String) (decision : WarehouseDecision) (target : WarehouseTarget)
    (tables : RmaTables) : Except Raised RmaTables :=
  match decision with
  | .rejected =>
    rebuildRmaWarehouseState target.current.rmaId none .returnRejected true tables
  | .accepted => do
    ensure (target.obligation.physicalConsequenceId ≠ none)
      (integrityFailure "Open return obligation lacks physical consequence")
    let obligations ← updateOne
      (fun row => row.rmaId = target.current.rmaId ∧ row.revision = target.obligation.revision ∧
        row.obligationState = .open)
      (fun row => { row with
        obligationState := .closedAccepted
        revision := row.revision + 1
        lastEventId := some returnEventId })
      (invStale "Return obligation changed during acceptance") tables.obligations
    rebuildRmaWarehouseState target.current.rmaId none .closedAccepted false
      { tables with obligations }

/-- The writes of a final decision for one target. -/
def decideMember (decision : WarehouseDecision) (rows : InventoryRows)
    (drawn : String × String × WarehouseTarget) : Except Raised InventoryRows := do
  let (membershipEventId, returnEventId, target) := drawn
  let tags ← moveMembership {
      event := ⟨membershipEventId, target.current.faultTagMembershipId, decision.eventKind, none⟩
      selected := fun row => row.revision = target.current.revision ∧
        row.state = .warehouseReceived ∧ row.activeSubmitted = true
      state := decision.state
      activeSubmitted := false
      missed := "Fault Tag membership changed during final decision" } rows.tags
  let rmas ← decideReturn returnEventId decision target rows.rmas
  return { rows with tags, rmas }

/-- `record_warehouse_final_decision`. It looks at the membership and the obligation,
and leaves the unit that is returned as it is. -/
def recordWarehouseFinalDecision (call : InventoryCall) (decision : WarehouseDecision)
    (targets : List (String × Nat)) (rows : InventoryRows) : Except Raised InventoryRows := do
  let targets ← validateWarehouseMemberships targets
  let preflight ← targets.mapM (requireWarehouseTarget rows .warehouseReceived)
  let drawn := call.drawFor 0 (call.drawFor preflight.length preflight)
  let rows ← drawn.foldlM (decideMember decision) rows
  let rows ← rebuildTagProjections call (preflight.map (·.current.faultTagId)) rows
  rebuildMembershipAttentions (targets.map (·.1)) rows

def correctFalseWarehouseReceipt (call : InventoryCall) (target : String × Nat)
    (targetEventId : String) (rows : InventoryRows) : Except Raised InventoryRows := do
  let found ← requireWarehouseTarget rows .warehouseReceived target
  ensure (found.current.lastEventId = some targetEventId)
    (inventoryError "CORRECTION_TARGET_INVALID"
      "Target is not the current-effective warehouse receipt event")
  ensure (∃ event ∈ rows.tags.membershipEvents, event.membershipEventId = targetEventId ∧
      event.faultTagMembershipId = target.1 ∧ event.eventKind = .warehouseReceived)
    (inventoryError "CORRECTION_TARGET_INVALID" "Target event is not a warehouse receipt")
  let tags ← moveMembership {
      event := ⟨(call.newUuid4 0).value, target.1, .correct, some targetEventId⟩
      selected := fun row => row.revision = target.2 ∧ row.state = .warehouseReceived ∧
        row.activeSubmitted = true ∧ row.lastEventId = some targetEventId
      state := .submittedAwaitingReceipt
      activeSubmitted := true
      missed := "Fault Tag membership changed during warehouse receipt correction" } rows.tags
  let rmas ← rebuildRmaWarehouseState found.current.rmaId (some target.1) .faultTagged true
    rows.rmas
  let tags ← rebuildTagProjection call tags found.current.faultTagId
  rebuildMembershipAttention target.1 { rows with tags, rmas }

/-! ## Successors -/

def resendNotEligible (message : String) : Raised :=
  inventoryError "RESEND_NOT_ELIGIBLE" message

/-- The rejected member of a tag for an RMA. -/
def TagTables.rejectedMember? (tables : TagTables) (faultTagId rmaId : String) :
    Option MembershipCurrent :=
  tables.current.find? fun row => row.faultTagId = faultTagId ∧ row.rmaId = rmaId ∧
    row.state = .rejected ∧ row.activeSubmitted = false

/-- `require_resend_scope` for one RMA. -/
def requireResendMember (rows : InventoryRows) (predecessorId rmaId : String) :
    Except Raised Unit := do
  ensure (rows.tags.rejectedMember? predecessorId rmaId).isSome
    (resendNotEligible "Selected RMA is not a rejected predecessor membership")
  ensure ((rows.obligationAuthority rmaId).map (·.obligationState) = some .open)
    (resendNotEligible "Selected rejected RMA obligation is not currently open")
  ensure (¬ rows.tags.ResendExists predecessorId rmaId)
    (resendNotEligible "Selected rejected obligation already has a resend successor")

def requireResendScope (rows : InventoryRows) (predecessorId : String)
    (memberships : List (String × String)) : Except Raised Unit := do
  ensure (rows.tags.HasSubmissionHistory predecessorId)
    (resendNotEligible "Fault Tag has no submitted history")
  memberships.forM fun membership => requireResendMember rows predecessorId membership.1

/-- `REPLACEMENT_LINEAGE_CONFLICT`. -/
def replacementConflict (message : String) : Raised :=
  inventoryError "REPLACEMENT_LINEAGE_CONFLICT" message

/-- The writes of a replacement for one active member. -/
def supersedeMember (rows : InventoryRows) (drawn : String × TagMember) :
    Except Raised InventoryRows := do
  let (membershipEventId, member) := drawn
  let tags ← moveMembership {
      event := ⟨membershipEventId, member.membership.faultTagMembershipId, .superseded,
        member.current.lastEventId⟩
      selected := fun row => row.revision = member.current.revision ∧ row.activeSubmitted = true
      state := .superseded
      activeSubmitted := false
      missed := "Fault Tag membership changed during predecessor supersession" } rows.tags
  let rmas ← updateRmaFaultTagProjection member.membership.rmaId none rows.rmas
  return { rows with tags, rmas }

def TagTables.activeMembers (tables : TagTables) (faultTagId : String) : List TagMember :=
  (tables.currentMembers faultTagId).filter (·.current.activeSubmitted)

/-- `supersede_for_replacement`. The attention of its members stays as it is. -/
def supersedeForReplacement (call : InventoryCall) (drawn : Nat) (predecessorId : String)
    (rows : InventoryRows) : Except Raised InventoryRows :=
  match rows.tags.currentTag predecessorId with
  | none => .error (invStale "Predecessor Fault Tag no longer exists")
  | some detail => do
    ensure (rows.tags.HasSubmissionHistory predecessorId)
      (replacementConflict "Fault Tag replacement requires submitted predecessor history")
    ensure (¬ rows.tags.HasCorrectionSuccessor predecessorId)
      (replacementConflict "Fault Tag already has a correction successor")
    ensure (detail.projection.state ≠ .superseded)
      (replacementConflict "Fault Tag predecessor is already superseded")
    let tags ← recordTagEvent (call.newUuid4 drawn).value predecessorId .superseded none none
      call.now rows.tags
    let rows ← (call.drawFor (drawn + 1) (tags.activeMembers predecessorId)).foldlM
      supersedeMember { rows with tags }
    let superseded (row : TagProjection) : TagProjection := { row with
      state := .superseded
      awaitingReceiptCount := 0
      awaitingFinalCount := 0 }
    let inputFingerprint ← tagFingerprint call.python "SOMA_FAULT_TAG_CURRENT_V1"
      (superseded detail.projection) []
    let tags ← updateTag detail.projection (fun _ => true)
      (fun row => { superseded row with inputFingerprint })
      "Fault Tag predecessor changed during supersession" rows.tags
    return { rows with tags }

/-- The attention of the rejected members a tag resends. -/
def rebuildResentAttention (predecessorId : String) (rows : InventoryRows)
    (membership : String × String) : Except Raised InventoryRows :=
  match rows.tags.rejectedMember? predecessorId membership.1 with
  | none => .error (integrityFailure "Rejected predecessor membership disappeared during resend")
  | some member => rebuildMembershipAttention member.faultTagMembershipId rows

/-- The predecessor of a successor, before the successor is there. -/
def preparePredecessor (call : InventoryCall) (drawn : Nat) (predecessorId : String)
    (relationType : LineageRelation) (memberships : List (String × String))
    (rows : InventoryRows) : Except Raised InventoryRows :=
  match relationType with
  | .correctsReplaces => supersedeForReplacement call drawn predecessorId rows
  | .resendOf => do
    requireResendScope rows predecessorId memberships
    return rows

/-- How many identifiers the predecessor of a successor takes. -/
def TagTables.predecessorDraws (tables : TagTables) (predecessorId : String) :
    LineageRelation → Nat
  | .correctsReplaces => 1 + (tables.activeMembers predecessorId).length
  | .resendOf => 0

def createLineageSuccessor (call : InventoryCall) (successorId predecessorId : String)
    (relationType : LineageRelation) (draft : TagDraft) (rows : InventoryRows) :
    Except Raised InventoryRows := do
  ensure (successorId ≠ predecessorId)
    (replacementConflict "Fault Tag lineage cannot self-reference")
  let drawn := 1 + rows.tags.predecessorDraws predecessorId relationType
  let rows ← preparePredecessor call 1 predecessorId relationType draft.memberships rows
  let (tags, trackingSequence, trackingId) ← allocateFaultTagTracking rows.tags
  let rows ← insertTagDraft call drawn successorId trackingSequence trackingId draft
    { rows with tags }
  -- One predecessor of each kind for a successor, and one replacement of a predecessor.
  ensure (¬ ∃ link ∈ rows.tags.lineage, link.relationType = relationType ∧
    (link.successorFaultTagId = successorId ∨
      (relationType = .correctsReplaces ∧ link.predecessorFaultTagId = predecessorId))) .other
  let lineage ← insertKeyed (·.faultTagLineageId) rows.tags.lineage
    ⟨(call.newUuid4 (drawn + 1 + draft.memberships.length)).value, relationType, predecessorId,
      successorId⟩
  let rows := { rows with tags := { rows.tags with lineage } }
  match relationType with
  | .correctsReplaces => return rows
  | .resendOf => draft.memberships.foldlM (rebuildResentAttention predecessorId) rows

/-- What `_create_fault_tag_successor` checks of the predecessor first. -/
def requirePredecessor (rows : InventoryRows) (predecessorId : String)
    (relationType : LineageRelation) (memberships : List (String × String)) :
    Except Raised Unit := do
  ensure (rows.tags.currentTag predecessorId).isSome
    (invStale "Fault Tag predecessor no longer exists")
  match relationType with
  | .correctsReplaces => do
    ensure (rows.tags.HasSubmissionHistory predecessorId)
      (replacementConflict "Fault Tag replacement requires submitted predecessor history")
    ensure (¬ rows.tags.HasCorrectionSuccessor predecessorId)
      (replacementConflict "Fault Tag already has a correction successor")
  | .resendOf => requireResendScope rows predecessorId memberships

def createFaultTagSuccessor (call : InventoryCall) (predecessorId : String)
    (relationType : LineageRelation) (draft : TagDraft) (rows : InventoryRows) :
    Except Raised InventoryRows := do
  let memberships ← validateMemberships draft.memberships
  ensure (memberships ≠ [])
    (validationError "Fault Tag successor requires one-or-more memberships")
  requirePredecessor rows predecessorId relationType memberships
  requireOptionalDraftReferences call draft.plan
  createLineageSuccessor call (call.newUuid4 0).value predecessorId relationType
    { draft with memberships } rows

/-! ## The archive -/

def setArchiveState (call : InventoryCall) (faultTagId : String) (baseRevision : Nat)
    (archived : Bool) (rows : InventoryRows) : Except Raised InventoryRows :=
  match rows.tags.currentTag faultTagId with
  | none => .error (invStale "Fault Tag revision changed")
  | some detail => do
    ensure (detail.projection.revision = baseRevision) (invStale "Fault Tag revision changed")
    ensure (detail.projection.archived ≠ archived)
      (invStale "Fault Tag archive state already matches requested state")
    let tags ← recordTagEvent (call.newUuid4 0).value faultTagId
      (if archived then .archived else .restored) none none call.now rows.tags
    let inputFingerprint ← tagFingerprint call.python "SOMA_FAULT_TAG_ARCHIVE_V1"
      { detail.projection with archived } []
    let tags ← updateTag detail.projection (fun _ => true)
      (fun row => { row with archived, inputFingerprint })
      "Fault Tag changed during archive transition" tags
    let members := tags.current.filter (·.faultTagId = faultTagId)
    rebuildMembershipAttentions
      ((members.map (·.faultTagMembershipId)).insertionSort (· ≤ ·)) { rows with tags }

/-- `archive_or_restore_fault_tag`; a tag that is already so is left alone. -/
def archiveOrRestoreFaultTag (call : InventoryCall) (faultTagId : String) (baseRevision : Nat)
    (archived : Bool) (rows : InventoryRows) : Except Raised InventoryRows :=
  match rows.tags.currentTag faultTagId with
  | none => .error (invStale "Fault Tag revision changed")
  | some detail => do
    ensure (detail.projection.revision = baseRevision) (invStale "Fault Tag revision changed")
    if detail.projection.archived = archived then return rows
    else setArchiveState call faultTagId baseRevision archived rows

end Soma.Inventory
