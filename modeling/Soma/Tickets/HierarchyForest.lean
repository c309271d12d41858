import Soma.Theory.Execution
import Soma.Theory.Forest
import Soma.Tickets.Branches
import Soma.Tickets.Statements

/-!
The active edges as a forest of two levels with Service Requests linked to roots
only. Each statement keeps it, so each command does whatever its reads found,
and so does every run of the commands and of the rest of the program, which
writes neither edges nor links.
-/

namespace Soma.Tickets.Statements

open Execution Foundation Transaction Forest TicketRows

/-- The shape of the hierarchy and of the links into it. -/
structure HierarchyForest (rows : TicketRows) : Prop where
  levels : TwoLevels rows.Subordinate
  oneEdge : (rows.activeEdges.map (·.childRfcId)).Nodup
  linkedRoots : ∀ parentRfcId childRfcId serviceRequestId,
    rows.Subordinate parentRfcId childRfcId → ¬ rows.Linked childRfcId serviceRequestId

variable {rows next : TicketRows}

/-! ## Reads -/

theorem not_subordinate_of_hasSubordinates (none : hasSubordinates rows rfcId = false)
    (below : String) : ¬ rows.Subordinate rfcId below := by
  rintro ⟨edge, stored, parent, -⟩
  simp only [hasSubordinates, List.any_eq_false, decide_eq_true_eq] at none
  exact none edge stored parent

theorem not_linked_of_hasDirectLink (none : hasDirectLink rows rfcId = false)
    (serviceRequestId : String) : ¬ rows.Linked rfcId serviceRequestId := by
  rintro ⟨link, stored, root, -⟩
  simp only [hasDirectLink, List.any_eq_false, decide_eq_true_eq] at none
  exact none link stored root

theorem activeEdges_insertEdge (edgeId parentRfcId childRfcId : String) :
    (rows.insertEdge edgeId parentRfcId childRfcId).activeEdges =
      rows.activeEdges ++ [⟨edgeId, parentRfcId, childRfcId, .active⟩] := by
  simp [activeEdges, TicketRows.insertEdge]

theorem subordinate_insertEdge
    (below : (rows.insertEdge edgeId parentRfcId childRfcId).Subordinate first second) :
    rows.Subordinate first second ∨ first = parentRfcId ∧ second = childRfcId := by
  obtain ⟨edge, stored, parent, child⟩ := below
  rw [activeEdges_insertEdge] at stored
  rcases Rows.mem_concat stored with was | rfl
  · exact .inl ⟨edge, was, parent, child⟩
  · exact .inr ⟨parent.symm, child.symm⟩

theorem linked_insertLink
    (linked : (rows.insertLink linkId serviceRequestId rfcId).Linked first second) :
    rows.Linked first second ∨ first = rfcId := by
  obtain ⟨link, stored, root, owner⟩ := linked
  simp only [TicketRows.insertLink, activeLinks, List.filter_append, List.mem_append,
    List.mem_filter, List.mem_singleton] at stored
  rcases stored with was | ⟨rfl, -⟩
  · exact .inl ⟨link, List.mem_filter.mpr was, root, owner⟩
  · exact .inr root.symm

/-! ## Statements -/

namespace HierarchyForest

theorem empty (edges : rows.hierarchyEdges = []) : HierarchyForest rows := by
  have noEdge : rows.activeEdges = [] := by simp [activeEdges, edges]
  have alone : ∀ parent child, ¬ rows.Subordinate parent child := by
    rintro parent child ⟨_, stored, -⟩
    rw [noEdge] at stored
    cases stored
  refine ⟨TwoLevels.none.mono alone, ?_, fun parent child _ below => absurd below (alone _ _)⟩
  rw [noEdge]
  exact List.nodup_nil

theorem mono (forest : HierarchyForest rows)
    (edges : List.Sublist next.activeEdges rows.activeEdges)
    (links : ∀ link ∈ next.activeLinks, link ∈ rows.activeLinks) : HierarchyForest next := by
  have stays : ∀ parent child, next.Subordinate parent child → rows.Subordinate parent child := by
    rintro parent child ⟨edge, stored, ends⟩
    exact ⟨edge, edges.subset stored, ends⟩
  refine ⟨forest.levels.mono stays, forest.oneEdge.sublist (edges.map _), ?_⟩
  rintro parent child serviceRequestId below ⟨link, stored, ends⟩
  exact forest.linkedRoots parent child serviceRequestId (stays _ _ below)
    ⟨link, links link stored, ends⟩

theorem elsewhere (forest : HierarchyForest rows)
    (edges : next.hierarchyEdges = rows.hierarchyEdges)
    (links : next.srRfcLinks = rows.srRfcLinks) : HierarchyForest next := by
  have sameEdges : next.activeEdges = rows.activeEdges := by simp only [activeEdges, edges]
  have sameLinks : next.activeLinks = rows.activeLinks := by simp only [activeLinks, links]
  exact forest.mono (sameEdges ▸ List.Sublist.refl _) fun link stored => sameLinks ▸ stored

end HierarchyForest

theorem keeps_insertEdge (edgeId parentRfcId childRfcId : String) :
    Keeps HierarchyForest (insertEdge edgeId parentRfcId childRfcId) := by
  intro rows next value forest ran
  simp only [insertEdge, steps_ok] at ran
  obtain ⟨⟨-, apart, -, -⟩, parentless, childless, unlinked, free, rfl⟩ := ran
  refine ⟨?_, ?_, ?_⟩
  · apply forest.levels.attach apart (activeParent?_none parentless)
      (not_subordinate_of_hasSubordinates childless) (activeParent?_none free)
    exact fun first second below => subordinate_insertEdge below
  · rw [activeEdges_insertEdge, List.map_append, List.nodup_append]
    refine ⟨forest.oneEdge, List.nodup_singleton _, ?_⟩
    intro held heldIn added addedIn same
    obtain ⟨edge, stored, rfl⟩ := List.mem_map.mp heldIn
    rw [List.map_singleton, List.mem_singleton] at addedIn
    exact activeParent?_none free edge.parentRfcId ⟨edge, stored, rfl, same.trans addedIn⟩
  · intro parent child serviceRequestId below linked
    rcases subordinate_insertEdge below with was | ⟨-, rfl⟩
    · exact forest.linkedRoots parent child serviceRequestId was linked
    · exact not_linked_of_hasDirectLink unlinked serviceRequestId linked

theorem keeps_supersedeEdge (edgeId : String) : Keeps HierarchyForest (supersedeEdge edgeId) := by
  intro rows next value forest ran
  simp only [supersedeEdge, steps_ok] at ran
  obtain rfl := ran
  apply forest.mono
  · rw [activeEdges_supersede]
    exact List.filter_sublist
  · exact fun link stored => stored

theorem keeps_insertLink (linkId serviceRequestId rfcId : String) :
    Keeps HierarchyForest (insertLink linkId serviceRequestId rfcId) := by
  intro rows next value forest ran
  simp only [insertLink, steps_ok] at ran
  obtain ⟨-, root, -, rfl⟩ := ran
  refine ⟨forest.levels, forest.oneEdge, ?_⟩
  intro parent child other below linked
  rcases linked_insertLink linked with was | rfl
  · exact forest.linkedRoots parent child other below was
  · exact activeParent?_none root parent below

theorem keeps_unlinkLink (linkId : String) : Keeps HierarchyForest (unlinkLink linkId) := by
  intro rows next value forest ran
  simp only [unlinkLink, steps_ok] at ran
  obtain rfl := ran
  apply forest.mono
  · exact List.Sublist.refl _
  · intro link stored
    rw [activeLinks_unlink] at stored
    exact List.mem_of_mem_filter stored

theorem keeps_reviseRfcs (selected : Rfc → Bool) : Keeps HierarchyForest (reviseRfcs selected) := by
  intro rows next value forest ran
  simp only [reviseRfcs, steps_ok] at ran
  obtain rfl := ran
  exact forest.elsewhere rfl rfl

theorem keeps_reviseServiceRequest (serviceRequestId : String) (baseRevision : Int) :
    Keeps HierarchyForest (reviseServiceRequest serviceRequestId baseRevision) := by
  intro rows next value forest ran
  simp only [reviseServiceRequest, steps_ok] at ran
  obtain rfl := ran
  exact forest.elsewhere rfl rfl

/-! ## Commands

What a command reads and refuses does not matter here: it writes through the
statements above. -/

theorem keeps_branchResponse (rootRfcId : String) :
    Keeps HierarchyForest (branchResponse rootRfcId) :=
  .bind .get fun _ => .bind (.attempt _) fun _ => .pure _

theorem keeps_applyAttachment (call : Call) (parentRfcId childRfcId : String) :
    Keeps HierarchyForest (applyAttachment call parentRfcId childRfcId) :=
  .bind (keeps_insertEdge _ _ _) fun _ => keeps_reviseRfcs _

theorem keeps_addSubordinate (call : Call) (parentRfcId childRfcId : String)
    (baseRevisions : List (String × Int)) :
    Keeps HierarchyForest (addSubordinate call parentRfcId childRfcId baseRevisions) := by
  unfold addSubordinate
  refine .bind (.require _ _) fun _ => .bind (.attempt _) fun _ =>
    .bind (.attempt _) fun _ => .bind (.attempt _) fun _ =>
    .bind .get fun _ => .bind (.attempt _) fun inserts => ?_
  cases inserts with
  | false => exact keeps_branchResponse parentRfcId
  | true => exact .bind (keeps_applyAttachment _ _ _) fun _ => keeps_branchResponse parentRfcId

theorem keeps_closeReviewedEdge (oldEdge : RfcHierarchyEdge) (childRfcId message : String) :
    Keeps HierarchyForest (closeReviewedEdge oldEdge childRfcId message) :=
  .bind .get fun _ => .bind (.require _ _) fun _ => keeps_supersedeEdge _

theorem keeps_reviseParticipants (participants : List String) (count : Nat) (message : String) :
    Keeps HierarchyForest (reviseParticipants participants count message) :=
  .bind .get fun _ => .bind (.require _ _) fun _ => keeps_reviseRfcs _

theorem keeps_reparentSubordinate (call : Call) (childRfcId newParentRfcId : String)
    (baseRevisions : List (String × Int)) :
    Keeps HierarchyForest (reparentSubordinate call childRfcId newParentRfcId baseRevisions) := by
  unfold reparentSubordinate applyReparent
  refine .bind (.attempt _) fun _ => .bind (.attempt _) fun _ =>
    .bind (.attempt _) fun _ => .bind (.attempt _) fun _ =>
    .bind (.attempt _) fun _ => .bind .get fun _ =>
    .bind (.attempt _) fun preview => .bind ?_ fun _ => keeps_branchResponse _
  exact .bind (keeps_closeReviewedEdge _ _ _) fun _ =>
    .bind (keeps_insertEdge _ _ _) fun _ => keeps_reviseParticipants _ _ _

theorem keeps_detachSubordinate (call : Call) (childRfcId : String)
    (baseRevisions : List (String × Int)) :
    Keeps HierarchyForest (detachSubordinate call childRfcId baseRevisions) := by
  unfold detachSubordinate applyDetach
  refine .bind (.attempt _) fun _ => .bind (.attempt _) fun _ =>
    .bind (.attempt _) fun _ => .bind (.attempt _) fun _ =>
    .bind .get fun _ => .bind (.attempt _) fun preview => .bind ?_ fun _ => keeps_branchResponse _
  exact .bind (keeps_closeReviewedEdge _ _ _) fun _ => keeps_reviseParticipants _ _ _

theorem keeps_reviseLinked (serviceRequestId rfcId : String)
    (serviceRequestRevision rfcRevision : Int) (stale : Raised) :
    Keeps HierarchyForest
      (reviseLinked serviceRequestId rfcId serviceRequestRevision rfcRevision stale) :=
  .bind .get fun _ => .bind (.require _ _) fun _ =>
    .bind (keeps_reviseServiceRequest _ _) fun _ => keeps_reviseRfcs _

theorem keeps_link (call : Call) (serviceRequestId rfcId : String)
    (serviceRequestRevision rfcRevision : Int) (subordinateOrigin : Option String) :
    Keeps HierarchyForest
      (link call serviceRequestId rfcId serviceRequestRevision rfcRevision subordinateOrigin) := by
  unfold link
  refine .bind .get fun _ => .bind (.attempt _) fun inserts => ?_
  cases inserts with
  | false => exact .pure _
  | true =>
    exact .bind (keeps_insertLink _ _ _) fun _ =>
      .bind (keeps_reviseLinked _ _ _ _ _) fun _ => .pure _

theorem keeps_unlink (call : Call) (serviceRequestId rootRfcId : String)
    (serviceRequestRevision rfcRevision : Int) :
    Keeps HierarchyForest
      (unlink call serviceRequestId rootRfcId serviceRequestRevision rfcRevision) := by
  unfold unlink
  refine .bind (.attempt _) fun _ => .bind .get fun _ => .bind (.attempt _) fun active => ?_
  cases active with
  | none => exact .pure _
  | some active =>
    exact .bind (.require _ _) fun _ => .bind (keeps_unlinkLink _) fun _ =>
      .bind (keeps_reviseLinked _ _ _ _ _) fun _ => .pure _

theorem keeps_linkSrFromReview (call : Call) (serviceRequestId requestedRfcId : String) :
    Keeps HierarchyForest (linkSrFromReview call serviceRequestId requestedRfcId) := by
  unfold linkSrFromReview
  refine .bind .get fun _ => .bind (.attempt _) fun context =>
    .bind (.require _ _) fun _ => .bind (.require _ _) fun _ => ?_
  exact .bind (keeps_insertLink _ _ _) fun _ =>
    .bind (keeps_reviseLinked _ _ _ _ _) fun _ => .pure _

/-! ## Runs -/

/-- A call of one of the services that write edges or links. -/
inductive HierarchyCommand where
  | addSubordinate (call : Call) (parentRfcId childRfcId : String)
      (baseRevisions : List (String × Int))
  | reparentSubordinate (call : Call) (childRfcId newParentRfcId : String)
      (baseRevisions : List (String × Int))
  | detachSubordinate (call : Call) (childRfcId : String) (baseRevisions : List (String × Int))
  | link (call : Call) (serviceRequestId rfcId : String)
      (serviceRequestRevision rfcRevision : Int) (subordinateOrigin : Option String)
  | unlink (call : Call) (serviceRequestId rootRfcId : String)
      (serviceRequestRevision rfcRevision : Int)
  | linkSrFromReview (call : Call) (serviceRequestId requestedRfcId : String)

/-- The rows after the command's transaction, committed or rolled back. -/
def HierarchyCommand.apply : HierarchyCommand → TicketRows → TicketRows
  | .addSubordinate call parentRfcId childRfcId baseRevisions, rows =>
    (commit (Statements.addSubordinate call parentRfcId childRfcId baseRevisions) rows).2
  | .reparentSubordinate call childRfcId newParentRfcId baseRevisions, rows =>
    (commit (Statements.reparentSubordinate call childRfcId newParentRfcId baseRevisions) rows).2
  | .detachSubordinate call childRfcId baseRevisions, rows =>
    (commit (Statements.detachSubordinate call childRfcId baseRevisions) rows).2
  | .link call serviceRequestId rfcId serviceRequestRevision rfcRevision origin, rows =>
    (commit (Statements.link call serviceRequestId rfcId serviceRequestRevision rfcRevision
      origin) rows).2
  | .unlink call serviceRequestId rootRfcId serviceRequestRevision rfcRevision, rows =>
    (commit (Statements.unlink call serviceRequestId rootRfcId serviceRequestRevision
      rfcRevision) rows).2
  | .linkSrFromReview call serviceRequestId requestedRfcId, rows =>
    (commit (Statements.linkSrFromReview call serviceRequestId requestedRfcId) rows).2

theorem HierarchyForest.command (command : HierarchyCommand) (forest : HierarchyForest rows) :
    HierarchyForest (command.apply rows) := by
  cases command with
  | addSubordinate call parent child revisions =>
    exact Transaction.commit_keeps (keeps_addSubordinate call parent child revisions) forest
  | reparentSubordinate call child parent revisions =>
    exact Transaction.commit_keeps (keeps_reparentSubordinate call child parent revisions) forest
  | detachSubordinate call child revisions =>
    exact Transaction.commit_keeps (keeps_detachSubordinate call child revisions) forest
  | link call serviceRequest rfc revision revision' origin =>
    exact Transaction.commit_keeps (keeps_link call serviceRequest rfc revision revision' origin) forest
  | unlink call serviceRequest root revision revision' =>
    exact Transaction.commit_keeps (keeps_unlink call serviceRequest root revision revision') forest
  | linkSrFromReview call serviceRequest requested =>
    exact Transaction.commit_keeps (keeps_linkSrFromReview call serviceRequest requested) forest

/-- The tables as the migration leaves them hold no edge and no link. -/
def Initially (rows : TicketRows) : Prop :=
  rows.hierarchyEdges = [] ∧ rows.srRfcLinks = []

/-- One command, or anything else the program does: no other statement of it
writes `rfc_hierarchy_edges` or `sr_rfc_links`. -/
inductive Step : TicketRows → TicketRows → Prop
  | command (rows : TicketRows) (command : HierarchyCommand) : Step rows (command.apply rows)
  | elsewhere {rows next : TicketRows} (edges : next.hierarchyEdges = rows.hierarchyEdges)
      (links : next.srRfcLinks = rows.srRfcLinks) : Step rows next

theorem reachable_commands (reached : Reachable Initially Step rows)
    (commands : List HierarchyCommand) :
    Reachable Initially Step (commands.foldl (fun rows command => command.apply rows) rows) := by
  induction commands generalizing rows with
  | nil => exact reached
  | cons command commands ih => exact ih (reached.step (.command rows command))

theorem forest_of_reachable (reached : Reachable Initially Step rows) : HierarchyForest rows := by
  apply reached.invariant HierarchyForest
  · exact fun rows initial => .empty initial.1
  · intro rows next forest stepped
    cases stepped with
    | command command => exact forest.command command
    | elsewhere edges links => exact forest.elsewhere edges links

/-- In every reachable state the active edges are a forest of depth at most one
and no child carries an active direct link. -/
theorem rfc_hierarchy_is_forest (reached : Reachable Initially Step rows) :
    (∀ rfcId, rows.activeEdges.countP (·.childRfcId = rfcId) ≤ 1) ∧
      (∀ parentRfcId childRfcId, rows.Subordinate parentRfcId childRfcId →
        ∀ above, ¬ rows.Subordinate above parentRfcId) ∧
      (∀ rfcId, ¬ Relation.TransGen rows.Subordinate rfcId rfcId) ∧
      ∀ parentRfcId childRfcId, rows.Subordinate parentRfcId childRfcId →
        ∀ serviceRequestId, ¬ rows.Linked childRfcId serviceRequestId := by
  have forest := forest_of_reachable reached
  refine ⟨fun rfcId => ?_, ?_, forest.levels.not_ancestor, ?_⟩
  · have once := List.nodup_iff_count_le_one.mp forest.oneEdge rfcId
    rw [List.count, List.countP_map] at once
    simpa [Function.comp_def, beq_eq_decide] using once
  · exact fun parent child below above => forest.levels.rootsOnly parent child above below
  · exact fun parent child below serviceRequest =>
      forest.linkedRoots parent child serviceRequest below

def sampleCall (relationshipId : Uuid4) : Call where
  relationshipId := relationshipId
  reasonCategory := "operator"
  review := .absent
  historyAuthority := .low
  serviceRequestTerminal := false
  rfcTerminal := false
  targetCustomer := .active
  classificationApplies := true

def sampleId : Uuid4 := ⟨"00000000-0000-4000-8000-000000000001", by decide +kernel⟩

def sampleId' : Uuid4 := ⟨"00000000-0000-4000-8000-000000000002", by decide +kernel⟩

def firstRfc : String := "00000000-0000-4000-8000-00000000000a"
def secondRfc : String := "00000000-0000-4000-8000-00000000000b"
def thirdRfc : String := "00000000-0000-4000-8000-00000000000c"
def onlyRequest : String := "00000000-0000-4000-8000-00000000000f"

def sampleRfc (rfcId : String) : Rfc := ⟨rfcId, none, .active, 1⟩

def sampleRows : TicketRows where
  rfcs := [sampleRfc firstRfc, sampleRfc secondRfc, sampleRfc thirdRfc]
  hierarchyEdges := []
  serviceRequests := [⟨onlyRequest, 1⟩]
  srRfcLinks := []
  srCustomers := []

/-- The second RFC goes below the first, the first is linked, and the second
moves below the third. -/
def sampleCommands : List HierarchyCommand :=
  [.addSubordinate (sampleCall sampleId) firstRfc secondRfc [(firstRfc, 1), (secondRfc, 1)],
    .link (sampleCall sampleId) onlyRequest firstRfc 1 2 none,
    .reparentSubordinate (sampleCall sampleId') secondRfc thirdRfc
      [(firstRfc, 3), (secondRfc, 2), (thirdRfc, 1)]]

def sampleEnd : TicketRows :=
  sampleCommands.foldl (fun rows command => command.apply rows) sampleRows

theorem sample_reached : Reachable Initially Step sampleEnd :=
  reachable_commands (.start ⟨rfl, rfl⟩) sampleCommands

/-- The moved RFC is below the third RFC, and only there. -/
theorem sample_moved :
    sampleEnd.activeEdges = [⟨sampleId'.value, thirdRfc, secondRfc, .active⟩] ∧
      sampleEnd.activeLinks.map (·.rfcId) = [firstRfc] ∧
      ¬ Relation.TransGen sampleEnd.Subordinate secondRfc secondRfc :=
  ⟨by decide +kernel, by decide +kernel, (rfc_hierarchy_is_forest sample_reached).2.2.1 _⟩

end Soma.Tickets.Statements
