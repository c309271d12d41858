import Soma.Inventory.Records

/-!
The attention rows of `inventory/repositories/projections.py`: what each
`rebuild_*` function evaluates on the current tables, and the row it writes or
deletes for it. The condition a row carries along is left out: nothing modelled
reads it.
-/

namespace Soma.Inventory

open Foundation

/-! ## Reads -/

def RmaTables.lifecycle? (tables : RmaTables) (rmaId : String) : Option RmaProjection :=
  tables.lifecycle.find? (·.rmaId = rmaId)

def RmaTables.obligation? (tables : RmaTables) (rmaId : String) : Option ReturnObligation :=
  tables.obligations.find? (·.rmaId = rmaId)

def RmaTables.assignment? (tables : RmaTables) (rmaId : String) : Option RmaAssignment :=
  tables.assignments.find? (·.rmaId = rmaId)

def TagTables.current? (tables : TagTables) (membershipId : String) : Option MembershipCurrent :=
  tables.current.find? (·.faultTagMembershipId = membershipId)

def TagTables.projection? (tables : TagTables) (faultTagId : String) : Option TagProjection :=
  tables.projections.find? (·.faultTagId = faultTagId)

/-! ## Rows -/

def setAttention (row : Attention) (active : Prop) [Decidable active] (rows : List Attention) :
    List Attention :=
  if active then if row ∈ rows then rows else rows ++ [row]
  else rows.filter (· ≠ row)

/-! ## RMAs -/

/-- What `rebuild_rma_attention` reads. -/
structure RmaCondition where
  state : RmaState
  assignmentPresent : Bool
  obligationState : ObligationState

def RmaTables.condition? (tables : RmaTables) (rmaId : String) : Option RmaCondition := do
  let _ ← tables.rmas.find? (·.rmaId = rmaId)
  let projection ← tables.lifecycle? rmaId
  let obligation ← tables.obligation? rmaId
  return ⟨projection.state, (tables.assignment? rmaId).isSome, obligation.obligationState⟩

def RmaCondition.AssignmentConflict (condition : RmaCondition) : Prop :=
  condition.assignmentPresent = false ∧ condition.state ≠ .closedAccepted

instance RmaCondition.assignmentConflictDecidable (condition : RmaCondition) :
    Decidable condition.AssignmentConflict :=
  inferInstanceAs (Decidable (_ ∧ _))

def rebuildRmaAttention (rmaId : String) (rows : InventoryRows) : Except Raised InventoryRows :=
  match rows.rmas.condition? rmaId with
  | none => .error (integrityFailure "RMA attention target disappeared")
  | some condition => .ok { rows with
      attention := setAttention ⟨.rma, rmaId, .returnObligationOpen⟩
        (condition.obligationState = .open)
        (setAttention ⟨.rma, rmaId, .rmaAssignmentConflict⟩ condition.AssignmentConflict
          rows.attention) }

/-! ## Memberships -/

/-- What `rebuild_fault_tag_membership_attention` reads. -/
structure MembershipCondition where
  faultTagId : String
  rmaId : String
  state : MembershipState
  obligationState : ObligationState
  resendExists : Bool

/-- A resend of the tag has the RMA among its members. -/
def TagTables.ResendExists (tables : TagTables) (faultTagId rmaId : String) : Prop :=
  ∃ link ∈ tables.lineage, link.predecessorFaultTagId = faultTagId ∧
    link.relationType = .resendOf ∧
    ∃ member ∈ tables.memberships, member.faultTagId = link.successorFaultTagId ∧
      member.rmaId = rmaId

instance TagTables.resendExistsDecidable (tables : TagTables) (faultTagId rmaId : String) :
    Decidable (tables.ResendExists faultTagId rmaId) :=
  inferInstanceAs (Decidable (∃ _ ∈ _, _))

def InventoryRows.membershipCondition? (rows : InventoryRows) (membershipId : String) :
    Option MembershipCondition := do
  let current ← rows.tags.current? membershipId
  let _ ← rows.tags.projection? current.faultTagId
  let obligation ← rows.rmas.obligation? current.rmaId
  return ⟨current.faultTagId, current.rmaId, current.state, obligation.obligationState,
    rows.tags.ResendExists current.faultTagId current.rmaId⟩

/-- The condition of `warehouse_rejected_resend_required`. -/
def MembershipCondition.ResendRequired (condition : MembershipCondition) : Prop :=
  condition.state = .rejected ∧ condition.obligationState = .open ∧
    condition.resendExists = false

instance MembershipCondition.resendRequiredDecidable (condition : MembershipCondition) :
    Decidable condition.ResendRequired :=
  inferInstanceAs (Decidable (_ ∧ _ ∧ _))

/-- `rebuild_fault_tag_membership_attention`. -/
def rebuildMembershipAttention (membershipId : String) (rows : InventoryRows) :
    Except Raised InventoryRows :=
  match rows.membershipCondition? membershipId with
  | none => .error (integrityFailure "Fault Tag membership attention target disappeared")
  | some condition => rebuildRmaAttention condition.rmaId { rows with
      attention := setAttention
        ⟨.faultTagMembership, membershipId, .warehouseRejectedResendRequired⟩
        condition.ResendRequired
        (setAttention ⟨.faultTagMembership, membershipId, .warehouseFinalDecisionPending⟩
          (condition.state = .warehouseReceived) rows.attention) }

end Soma.Inventory
