import Mathlib.Data.List.Nodup
import Soma.Theory.Rows
import Soma.Tickets.CustomerChanges

/-!
Branches as groups of members that may carry a Customer: a root RFC, its active
subordinates and the Service Requests actively linked to it. Every statement of
the ticket commands is a change of this labelling.
-/

namespace Soma.Tickets

open Agreement Rows

/-- An RFC or a Service Request. -/
inductive Member where
  | rfc (rfcId : String)
  | serviceRequest (serviceRequestId : String)

namespace TicketRows

def Subordinate (rows : TicketRows) (parentRfcId childRfcId : String) : Prop :=
  ∃ edge ∈ rows.activeEdges, edge.parentRfcId = parentRfcId ∧ edge.childRfcId = childRfcId

def Linked (rows : TicketRows) (rootRfcId serviceRequestId : String) : Prop :=
  ∃ link ∈ rows.activeLinks, link.rfcId = rootRfcId ∧ link.serviceRequestId = serviceRequestId

/-- The member belongs to the branch of the root. -/
def Contains (rows : TicketRows) (rootRfcId : String) : Member → Prop
  | .rfc rfcId => rfcId = rootRfcId ∨ rows.Subordinate rootRfcId rfcId
  | .serviceRequest serviceRequestId => rows.Linked rootRfcId serviceRequestId

/-- The known Customer of a member. -/
def customerOf (rows : TicketRows) : Member → Option String
  | .rfc rfcId => (rows.rfc? rfcId).bind (·.customerOrgId)
  | .serviceRequest serviceRequestId => rows.customerOfServiceRequest serviceRequestId

def branches (rows : TicketRows) : Labelling String Member String where
  contains := rows.Contains
  label := rows.customerOf

variable {rows : TicketRows}

/-! ## What the reads say about branches -/

theorem rfc?_mem (found : rows.rfc? rfcId = some row) : row ∈ rows.rfcs ∧ row.rfcId = rfcId :=
  key_of_find? found

theorem rfc?_of_mem (valid : rows.Constraints) (stored : row ∈ rows.rfcs) :
    rows.rfc? row.rfcId = some row :=
  find?_eq_some valid.rfcIds stored

theorem customerOf_row (valid : rows.Constraints) (stored : row ∈ rows.rfcs) :
    rows.customerOf (.rfc row.rfcId) = row.customerOrgId := by
  simp only [customerOf, rfc?_of_mem valid stored, Option.bind_some]

theorem mem_branchRows :
    row ∈ rows.branchRows rootRfcId ↔
      row ∈ rows.rfcs ∧ rows.Contains rootRfcId (.rfc row.rfcId) := by
  simp only [branchRows, List.mem_filter, decide_eq_true_eq, Contains, Subordinate]

theorem branchRow_of_known (contained : rows.Contains rootRfcId (.rfc rfcId))
    (known : rows.customerOf (.rfc rfcId) = some customer) :
    ∃ row ∈ rows.branchRows rootRfcId, row.rfcId = rfcId ∧ row.customerOrgId = some customer := by
  simp only [customerOf, Option.bind_eq_some_iff] at known
  obtain ⟨row, found, carries⟩ := known
  obtain ⟨stored, same⟩ := rfc?_mem found
  exact ⟨row, mem_branchRows.mpr ⟨stored, by rw [same]; exact contained⟩, same, carries⟩

theorem activeParent?_some (found : rows.activeParent? childRfcId = some edge) :
    edge ∈ rows.activeEdges ∧ edge.childRfcId = childRfcId :=
  key_of_find? found

theorem activeParent?_none (none : rows.activeParent? childRfcId = none) (parentRfcId : String) :
    ¬ rows.Subordinate parentRfcId childRfcId := by
  rintro ⟨edge, stored, _, child⟩
  simp only [activeParent?, List.find?_eq_none, decide_eq_true_eq] at none
  exact none edge stored child

theorem rootOf_subordinate (valid : rows.Constraints)
    (below : rows.Subordinate parentRfcId childRfcId) : rows.rootOf childRfcId = parentRfcId := by
  unfold rootOf
  cases found : rows.activeParent? childRfcId with
  | none => exact absurd below (activeParent?_none found parentRfcId)
  | some edge =>
    obtain ⟨stored, child⟩ := activeParent?_some found
    obtain ⟨edge', stored', parent, child'⟩ := below
    have same : edge = edge' :=
      List.inj_on_of_nodup_map valid.oneParent stored stored' (child.trans child'.symm)
    rw [same]
    exact parent

theorem subordinate_alone (valid : rows.Constraints)
    (below : rows.Subordinate parentRfcId childRfcId)
    (contained : rows.Contains childRfcId member) : member = .rfc childRfcId := by
  obtain ⟨edge, stored, _, child⟩ := below
  cases member with
  | rfc =>
    rcases contained with same | ⟨under, underStored, parent, _⟩
    · rw [same]
    · exact absurd (child.trans parent.symm) (valid.twoLevels under underStored edge stored)
  | serviceRequest =>
    obtain ⟨link, linkStored, root, _⟩ := contained
    exact absurd (child.trans root.symm) (valid.linkedRoots link linkStored edge stored)

/-- The branches an RFC is in: the one its root governs, and its own when it is
subordinate, which then holds nothing else. -/
theorem contains_rfc (valid : rows.Constraints) (contained : rows.Contains rootRfcId (.rfc rfcId)) :
    rootRfcId = rows.rootOf rfcId ∨
      ∀ member, rows.Contains rootRfcId member → member = .rfc rfcId := by
  rcases contained with rfl | below
  · cases found : rows.activeParent? rfcId with
    | none => simp only [rootOf, found, true_or]
    | some edge =>
      obtain ⟨stored, child⟩ := activeParent?_some found
      exact .inr fun member => subordinate_alone valid ⟨edge, stored, rfl, child⟩
  · exact .inl (rootOf_subordinate valid below).symm

/-! ## What the statements do to branches -/

theorem active_of_closed {Row : Type} {close : Row → Row} {active selected : Row → Bool}
    (closes : ∀ row, active (close row) = (active row && !selected row))
    (keeps : ∀ row, selected row = false → close row = row) (history : List Row) :
    (history.map close).filter active = (history.filter active).filter fun row => !selected row := by
  induction history with
  | nil => rfl
  | cons row _ ih =>
    simp only [List.map_cons, List.filter_cons, closes, ih]
    cases standing : active row <;> cases chosen : selected row <;> simp [chosen, keeps]

theorem activeEdges_supersede (edgeId : String) :
    (rows.supersedeEdge edgeId).activeEdges =
      rows.activeEdges.filter fun edge => !decide (edge.rfcHierarchyEdgeId = edgeId) := by
  refine active_of_closed (fun edge => ?_) (fun edge other => ?_) rows.hierarchyEdges
  · by_cases chosen : edge.rfcHierarchyEdgeId = edgeId <;> simp [closedEdge, chosen]
  · simp only [decide_eq_false_iff_not] at other
    simp only [closedEdge, other, if_false]

theorem activeLinks_unlink (linkId : String) :
    (rows.unlinkLink linkId).activeLinks =
      rows.activeLinks.filter fun link => !decide (link.srRfcLinkId = linkId) := by
  refine active_of_closed (fun link => ?_) (fun link other => ?_) rows.srRfcLinks
  · by_cases chosen : link.srRfcLinkId = linkId <;> simp [closedLink, chosen]
  · simp only [decide_eq_false_iff_not] at other
    simp only [closedLink, other, if_false]

theorem activeCustomers_supersede (relationshipId : String) :
    (rows.supersedeCustomer relationshipId).activeCustomers =
      rows.activeCustomers.filter fun row =>
        !decide (row.srCustomerRelationshipId = relationshipId) := by
  refine active_of_closed (fun row => ?_) (fun row other => ?_) rows.srCustomers
  · by_cases chosen : row.srCustomerRelationshipId = relationshipId <;> simp [closedCustomer, chosen]
  · simp only [decide_eq_false_iff_not] at other
    simp only [closedCustomer, other, if_false]

theorem insertEdge_joined (edgeId parentRfcId childRfcId : String) :
    rows.branches.Joined (rows.insertEdge edgeId parentRfcId childRfcId).branches parentRfcId
      (.rfc childRfcId) where
  labels := rfl
  members := by
    intro _ member contained
    cases member with
    | serviceRequest => exact .inl contained
    | rfc =>
      rcases contained with same | ⟨edge, stored, parent, child⟩
      · exact .inl (.inl same)
      · simp only [insertEdge, activeEdges, List.filter_append, List.mem_append,
          List.mem_filter, List.mem_singleton] at stored
        rcases stored with was | ⟨rfl, _⟩
        · exact .inl (.inr ⟨edge, List.mem_filter.mpr was, parent, child⟩)
        · exact .inr ⟨parent.symm, by rw [← child]⟩

theorem supersedeEdge_left (edgeId : String) :
    rows.branches.Left (rows.supersedeEdge edgeId).branches where
  labels := rfl
  members := by
    intro _ member contained
    cases member with
    | serviceRequest => exact contained
    | rfc =>
      rcases contained with same | ⟨edge, stored, ends⟩
      · exact .inl same
      · rw [activeEdges_supersede] at stored
        exact .inr ⟨edge, (List.mem_filter.mp stored).1, ends⟩

theorem insertLink_joined (linkId serviceRequestId rfcId : String) :
    rows.branches.Joined (rows.insertLink linkId serviceRequestId rfcId).branches rfcId
      (.serviceRequest serviceRequestId) where
  labels := rfl
  members := by
    intro _ member contained
    cases member with
    | rfc rfcId => exact .inl contained
    | serviceRequest =>
      obtain ⟨link, stored, root, linked⟩ := contained
      simp only [insertLink, activeLinks, List.filter_append, List.mem_append,
        List.mem_filter, List.mem_singleton] at stored
      rcases stored with was | ⟨rfl, _⟩
      · exact .inl ⟨link, List.mem_filter.mpr was, root, linked⟩
      · exact .inr ⟨root.symm, by rw [← linked]⟩

theorem unlinkLink_left (linkId : String) :
    rows.branches.Left (rows.unlinkLink linkId).branches where
  labels := rfl
  members := by
    intro _ member contained
    cases member with
    | rfc => exact contained
    | serviceRequest =>
      obtain ⟨link, stored, ends⟩ := contained
      rw [activeLinks_unlink] at stored
      exact ⟨link, (List.mem_filter.mp stored).1, ends⟩

theorem find_map_rfc {change : Rfc → Rfc} (keeps : ∀ row, (change row).rfcId = row.rfcId)
    (rfcId : String) (rfcs : List Rfc) :
    (rfcs.map change).find? (·.rfcId = rfcId) = (rfcs.find? (·.rfcId = rfcId)).map change := by
  induction rfcs with
  | nil => rfl
  | cons row _ ih =>
    simp only [List.map_cons, List.find?_cons, keeps, ih]
    cases decide (row.rfcId = rfcId) <;> rfl

@[simp] theorem branches_reviseRfcs (selected : Rfc → Bool) :
    (rows.reviseRfcs selected).branches = rows.branches := by
  have labels : (rows.reviseRfcs selected).customerOf = rows.customerOf := by
    funext member
    cases member with
    | serviceRequest => rfl
    | rfc rfcId =>
      simp only [customerOf, rfc?, reviseRfcs]
      rw [find_map_rfc (fun row => by split <;> rfl)]
      cases rows.rfcs.find? (·.rfcId = rfcId) with
      | none => rfl
      | some row => simp only [Option.map_some, Option.bind_some]; split <;> rfl
  simp only [branches, labels]
  rfl

@[simp] theorem branches_reviseServiceRequest (serviceRequestId : String) (baseRevision : Int) :
    (rows.reviseServiceRequest serviceRequestId baseRevision).branches = rows.branches := rfl

theorem assignRfc_relabelled (found : rows.rfc? rfcId = some row) (customer : Option String) :
    rows.branches.Relabelled (rows.assignRfc rfcId customer).branches (.rfc rfcId) customer where
  members := rfl
  others := by
    intro member distinct
    cases member with
    | serviceRequest => rfl
    | rfc other =>
      have apart : other ≠ rfcId := fun same => distinct (by rw [same])
      simp only [branches, customerOf, rfc?, assignRfc]
      rw [find_map_rfc (fun row => by split <;> rfl)]
      cases held : rows.rfcs.find? (·.rfcId = other) with
      | none => rfl
      | some row =>
        have named : row.rfcId = other := (rfc?_mem held).2
        simp only [Option.map_some, Option.bind_some, named, apart, if_false]
  taken := by
    simp only [branches, customerOf, rfc?, assignRfc]
    rw [find_map_rfc (fun row => by split <;> rfl)]
    have named : row.rfcId = rfcId := (rfc?_mem found).2
    simp only [rfc?] at found
    simp only [found, Option.map_some, Option.bind_some, named, if_true]

theorem insertCustomer_relabelled (vacant : rows.currentCustomer? serviceRequestId = none)
    (relationshipId customer : String) :
    rows.branches.Relabelled (rows.insertCustomer relationshipId serviceRequestId customer).branches
      (.serviceRequest serviceRequestId) (some customer) where
  members := rfl
  others := by
    intro member distinct
    cases member with
    | rfc => rfl
    | serviceRequest other =>
      have apart : serviceRequestId ≠ other := fun same => distinct (by rw [same])
      simp [branches, customerOf, customerOfServiceRequest, currentCustomer?, activeCustomers,
        insertCustomer, List.filter_append, List.find?_append, apart]
  taken := by
    simp only [currentCustomer?] at vacant
    simp only [branches, customerOf, customerOfServiceRequest, currentCustomer?, activeCustomers,
      insertCustomer, List.filter_append, List.find?_append] at vacant ⊢
    rw [vacant]
    simp

theorem currentCustomer?_some (found : rows.currentCustomer? serviceRequestId = some row) :
    row ∈ rows.activeCustomers ∧ row.serviceRequestId = serviceRequestId :=
  key_of_find? found

theorem find_filter_of {Row : Type} {wanted kept : Row → Bool} {rows : List Row}
    (spared : ∀ row ∈ rows, wanted row = true → kept row = true) :
    (rows.filter kept).find? wanted = rows.find? wanted := by
  induction rows with
  | nil => rfl
  | cons row _ ih =>
    have below := ih fun other stored => spared other (List.mem_cons_of_mem _ stored)
    have here := spared row List.mem_cons_self
    simp only [List.filter_cons, List.find?_cons]
    cases chosen : wanted row <;> cases stays : kept row <;>
      simp_all

theorem supersedeCustomer_relabelled (valid : rows.Constraints) {serviceRequestId : String}
    {row : SrCustomerRelationship} (found : rows.currentCustomer? serviceRequestId = some row) :
    rows.branches.Relabelled (rows.supersedeCustomer row.srCustomerRelationshipId).branches
      (.serviceRequest serviceRequestId) none := by
  obtain ⟨stored, owner⟩ := currentCustomer?_some found
  refine ⟨rfl, ?_, ?_⟩
  · intro member distinct
    cases member with
    | rfc => rfl
    | serviceRequest other =>
      simp only [branches, customerOf, customerOfServiceRequest, currentCustomer?,
        activeCustomers_supersede]
      rw [find_filter_of]
      intro held heldIn wanted
      simp only [decide_eq_true_eq] at wanted
      simp only [Bool.not_eq_true', decide_eq_false_iff_not]
      intro same
      have is := List.inj_on_of_nodup_map valid.customerIds
        (List.mem_filter.mp heldIn).1 (List.mem_filter.mp stored).1 same
      exact distinct (by rw [← wanted, is, owner])
  · simp only [branches, customerOf, customerOfServiceRequest, currentCustomer?,
      activeCustomers_supersede, Option.map_eq_none_iff, List.find?_eq_none, List.mem_filter,
      decide_eq_true_eq, Bool.not_eq_true', decide_eq_false_iff_not]
    rintro held ⟨heldIn, other⟩ same
    have is := List.inj_on_of_nodup_map valid.oneCustomer heldIn stored (same.trans owner.symm)
    exact other (by rw [is])

end TicketRows

end Soma.Tickets
