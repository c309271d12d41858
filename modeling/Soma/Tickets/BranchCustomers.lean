import Soma.Theory.Execution
import Soma.Tickets.Branches

/-!
One branch, one Customer. No command compares a Customer with every member of
the branches it changes, so the known Customers of a branch may come to differ.
They agree along every run whose steps also agree with the members the command
does not read.
-/

namespace Soma.Tickets

open Agreement Execution Foundation Transaction

/-! ## The commands -/

/-- The commands that change branches or Customers, by hand or from
an accepted import proposal. -/
inductive Command where
  | addSubordinate (call : Call) (parentRfcId childRfcId : String)
      (baseRevisions : List (String × Int))
  | reparentSubordinate (call : Call) (childRfcId newParentRfcId : String)
      (baseRevisions : List (String × Int))
  | detachSubordinate (call : Call) (childRfcId : String) (baseRevisions : List (String × Int))
  | link (call : Call) (serviceRequestId rfcId : String) (serviceRequestRevision rfcRevision : Int)
      (subordinateOrigin : Option String)
  | linkSrFromReview (call : Call) (serviceRequestId requestedRfcId : String)
  | unlink (call : Call) (serviceRequestId rootRfcId : String)
      (serviceRequestRevision rfcRevision : Int)
  | setRfcCustomer (call : Call) (rfcId : String) (baseRevision : Int)
      (customerOrgId : Option String)
  | setRfcCustomerFromReview (call : Call) (rfcId customerOrgId : String)
      (expectedPrior : Option String)
  | setServiceRequestCustomer (call : Call) (serviceRequestId : String) (baseRevision : Int)
      (customerOrgId : Option String)
  | setServiceRequestCustomerFromReview (call : Call) (serviceRequestId customerOrgId : String)
      (expectedPrior : Option String)

/-- The tables after a call: as before when it raises. -/
def Command.apply : Command → TicketTables → TicketTables
  | .addSubordinate call parent child revisions, tables =>
    (commit (Tickets.addSubordinate call parent child revisions) tables).2
  | .reparentSubordinate call child newParent revisions, tables =>
    (commit (Tickets.reparentSubordinate call child newParent revisions) tables).2
  | .detachSubordinate call child revisions, tables =>
    (commit (Tickets.detachSubordinate call child revisions) tables).2
  | .link call serviceRequest rfc serviceRequestRevision rfcRevision origin, tables =>
    (commit (Tickets.link call serviceRequest rfc serviceRequestRevision rfcRevision origin)
      tables).2
  | .linkSrFromReview call serviceRequest rfc, tables =>
    (commit (Tickets.linkSrFromReview call serviceRequest rfc) tables).2
  | .unlink call serviceRequest rfc serviceRequestRevision rfcRevision, tables =>
    (commit (Tickets.unlink call serviceRequest rfc serviceRequestRevision rfcRevision) tables).2
  | .setRfcCustomer call rfc revision customer, tables =>
    (commit (Tickets.setRfcCustomer call rfc revision customer) tables).2
  | .setRfcCustomerFromReview call rfc customer prior, tables =>
    (commit (Tickets.setRfcCustomerFromReview call rfc customer prior) tables).2
  | .setServiceRequestCustomer call serviceRequest revision customer, tables =>
    (commit (Tickets.setServiceRequestCustomer call serviceRequest revision customer) tables).2
  | .setServiceRequestCustomerFromReview call serviceRequest customer prior, tables =>
    (commit (Tickets.setServiceRequestCustomerFromReview call serviceRequest customer prior)
      tables).2

/-- The known Customers of the root's subordinates are this one. -/
def TicketRows.SubordinatesCarry (rows : TicketRows) (rootRfcId customer : String) : Prop :=
  ∀ child, rows.Subordinate rootRfcId child →
    ∀ known, rows.customerOf (.rfc child) = some known → known = customer

/-- The known Customers of the Service Requests linked to the root, apart from
the given one, are this one. -/
def TicketRows.LinkedCarry (rows : TicketRows) (rootRfcId customer : String)
    (apartFrom : Option String) : Prop :=
  ∀ serviceRequest, rows.Linked rootRfcId serviceRequest → some serviceRequest ≠ apartFrom →
    ∀ known, rows.customerOf (.serviceRequest serviceRequest) = some known → known = customer

/-- The known Customers of the RFCs of a branch are this one. -/
def TicketRows.RfcsCarry (rows : TicketRows) (rootRfcId customer : String) : Prop :=
  ∀ rfcId, rows.Contains rootRfcId (.rfc rfcId) →
    ∀ known, rows.customerOf (.rfc rfcId) = some known → known = customer

/-- The Customer a command brings to a branch agrees with the members the
command does not compare it with. -/
def Command.Agrees (rows : TicketRows) : Command → Prop
  | .addSubordinate _ parent child _ | .reparentSubordinate _ child parent _ =>
    ∀ customer, rows.customerOf (.rfc child) = some customer →
      rows.SubordinatesCarry parent customer ∧ rows.LinkedCarry parent customer none
  | .link _ serviceRequest root _ _ _ =>
    ∀ customer, rows.customerOf (.serviceRequest serviceRequest) = some customer →
      rows.LinkedCarry root customer none
  | .linkSrFromReview _ serviceRequest rfc =>
    ∀ customer, rows.customerOf (.serviceRequest serviceRequest) = some customer →
      rows.LinkedCarry (rows.rootOf rfc) customer none
  | .setRfcCustomer _ rfc _ target =>
    ∀ customer, target = some customer → rows.LinkedCarry (rows.rootOf rfc) customer none
  | .setRfcCustomerFromReview _ rfc customer _ =>
    rows.LinkedCarry (rows.rootOf rfc) customer none
  | .setServiceRequestCustomer _ serviceRequest _ target =>
    ∀ customer, target = some customer → ∀ root, rows.Linked root serviceRequest →
      rows.RfcsCarry root customer ∧ rows.LinkedCarry root customer (some serviceRequest)
  | .setServiceRequestCustomerFromReview _ serviceRequest customer _ =>
    ∀ root, rows.Linked root serviceRequest →
      rows.RfcsCarry root customer ∧ rows.LinkedCarry root customer (some serviceRequest)
  | .detachSubordinate .. | .unlink .. => True

/-! ## What each command does to branches -/

section Effects

variable {tables next : TicketTables} {call : Call}

theorem differ_eq_false :
    differ first second = false ↔
      ∀ one other, first = some one → second = some other → one = other := by
  cases first <;> cases second <;> simp [differ]

variable {rows : TicketRows}

theorem loadRfc_ok : loadRfc rows rfcId = .ok row ↔ rows.rfc? rfcId = some row := by
  unfold loadRfc
  cases rows.rfc? rfcId <;> simp

theorem branchResponse_ok (ran : (branchResponse rootRfcId).run tables = .ok (result, next)) :
    tables = next := by
  simp only [branchResponse, steps_ok] at ran
  obtain ⟨_, _, same⟩ := ran
  exact same

variable {serviceRequestId : String}

theorem loadServiceRequest_ok :
    loadServiceRequest rows serviceRequestId = .ok row ↔
      rows.serviceRequest? serviceRequestId = some row := by
  unfold loadServiceRequest
  cases rows.serviceRequest? serviceRequestId <;> simp

variable {baseRevisions : List (String × Int)}

theorem attachment_ok (inserts : attachment rows parentRfcId childRfcId baseRevisions = .ok true) :
    ∀ one other, rows.customerOf (.rfc parentRfcId) = some one →
      rows.customerOf (.rfc childRfcId) = some other → one = other := by
  simp only [attachment, except_ok, loadRfc_ok] at inserts
  obtain ⟨parent, parentFound, child, childFound, _, rest⟩ := inserts
  have compared : differ parent.customerOrgId child.customerOrgId = false := by
    cases found : rows.activeParent? childRfcId with
    | some =>
      simp only [found, except_ok] at rest
      obtain ⟨_, returned⟩ := rest
      cases returned
    | none =>
      simp only [found, except_ok] at rest
      obtain ⟨_, _, _, compared, _⟩ := rest
      exact compared
  simp only [TicketRows.customerOf, parentFound, childFound, Option.bind_some]
  exact differ_eq_false.mp compared

variable {value : PUnit}

theorem applyAttachment_ok
    (ran : (applyAttachment call parentRfcId childRfcId).run tables = .ok (value, next)) :
    tables.rows.branches.Joined next.rows.branches parentRfcId (.rfc childRfcId) := by
  simp only [applyAttachment, steps_ok] at ran
  obtain ⟨_, inserted, revised⟩ := ran
  rw [writeTickets_ok revised, TicketRows.branches_reviseRfcs, writeTickets_ok inserted]
  exact TicketRows.insertEdge_joined ..

theorem addSubordinate_ok
    (ran : (addSubordinate call parentRfcId childRfcId baseRevisions).run tables =
      .ok (result, next)) :
    next = tables ∨
      tables.rows.branches.Joined next.rows.branches parentRfcId (.rfc childRfcId) ∧
      ∀ one other, tables.rows.customerOf (.rfc parentRfcId) = some one →
        tables.rows.customerOf (.rfc childRfcId) = some other → one = other := by
  simp only [addSubordinate, steps_ok] at ran
  obtain ⟨_, _, _, _, inserts, read, rest⟩ := ran
  cases inserts with
  | false =>
    simp only [Bool.false_eq_true, if_false] at rest
    exact .inl (branchResponse_ok rest).symm
  | true =>
    simp only [if_true, steps_ok] at rest
    obtain ⟨_, applied, responded⟩ := rest
    rw [← branchResponse_ok responded]
    exact .inr ⟨applyAttachment_ok applied, attachment_ok read⟩

theorem prepareCorrection_ok
    (read : prepareCorrection call rows childRfcId newParentRfcId baseRevisions = .ok preview) :
    evaluateHierarchy rows childRfcId newParentRfcId = .ok preview ∧ preview.blockers = [] := by
  simp only [prepareCorrection, except_ok] at read
  obtain ⟨_, evaluatedIs, _, _, unblocked, returned⟩ := read
  cases returned
  refine ⟨evaluatedIs, ?_⟩
  cases blockers : preview.blockers with
  | nil => rfl
  | cons =>
    rw [blockers] at unblocked
    cases unblocked

variable {childRfcId newParentRfcId : String}

/-- A reparent that is not blocked compared the child with its new parent. -/
theorem evaluateHierarchy_reparent_ok
    (evaluated : evaluateHierarchy rows childRfcId (some newParentRfcId) = .ok preview)
    (unblocked : preview.blockers = []) :
    ∀ one other, rows.customerOf (.rfc childRfcId) = some one →
      rows.customerOf (.rfc newParentRfcId) = some other → one = other := by
  simp only [evaluateHierarchy, except_ok, loadRfc_ok] at evaluated
  obtain ⟨child, childFound, rest⟩ := evaluated
  cases found : rows.activeParent? childRfcId with
  | none => simp only [found] at rest; cases rest
  | some =>
    simp only [found, except_ok, evaluateNewParent, loadRfc_ok] at rest
    obtain ⟨_, _, _, _, newParent, newParentFound, _, _, _, returned⟩ := rest
    cases returned
    simp only [reparentBlockers, List.append_eq_nil_iff] at unblocked
    have compared : differ child.customerOrgId newParent.customerOrgId = false := by
      cases outcome : differ child.customerOrgId newParent.customerOrgId with
      | false => rfl
      | true => simp [outcome] at unblocked
    simp only [TicketRows.customerOf, childFound, newParentFound, Option.bind_some]
    exact differ_eq_false.mp compared

theorem closeReviewedEdge_ok
    (ran : (closeReviewedEdge oldEdge childRfcId message).run tables = .ok (value, next)) :
    tables.rows.branches.Left next.rows.branches := by
  simp only [closeReviewedEdge, steps_ok] at ran
  obtain ⟨_, wrote⟩ := ran
  rw [writeTickets_ok wrote]
  exact TicketRows.supersedeEdge_left ..

theorem reviseParticipants_ok
    (ran : (reviseParticipants participants count message).run tables = .ok (value, next)) :
    next.rows.branches = tables.rows.branches := by
  simp only [reviseParticipants, steps_ok] at ran
  obtain ⟨_, wrote⟩ := ran
  rw [writeTickets_ok wrote, TicketRows.branches_reviseRfcs]

theorem applyReparent_ok
    (ran : (applyReparent call preview childRfcId newParentRfcId).run tables = .ok (value, next)) :
    tables.rows.branches.Joined next.rows.branches newParentRfcId (.rfc childRfcId) := by
  simp only [applyReparent, steps_ok] at ran
  obtain ⟨_, closed, _, inserted, revised⟩ := ran
  rw [reviseParticipants_ok revised, writeTickets_ok inserted]
  exact (closeReviewedEdge_ok closed).joined (TicketRows.insertEdge_joined ..)

theorem reparentSubordinate_ok
    (ran : (reparentSubordinate call childRfcId newParentRfcId baseRevisions).run tables =
      .ok (result, next)) :
    tables.rows.branches.Joined next.rows.branches newParentRfcId (.rfc childRfcId) ∧
      ∀ one other, tables.rows.customerOf (.rfc childRfcId) = some one →
        tables.rows.customerOf (.rfc newParentRfcId) = some other → one = other := by
  simp only [reparentSubordinate, steps_ok] at ran
  obtain ⟨_, _, _, _, _, _, read, _, wrote, responded⟩ := ran
  obtain ⟨evaluated, unblocked⟩ := prepareCorrection_ok read
  rw [← branchResponse_ok responded]
  exact ⟨applyReparent_ok wrote, evaluateHierarchy_reparent_ok evaluated unblocked⟩

theorem detachSubordinate_ok
    (ran : (detachSubordinate call childRfcId baseRevisions).run tables = .ok (result, next)) :
    tables.rows.branches.Left next.rows.branches := by
  simp only [detachSubordinate, applyDetach, steps_ok] at ran
  obtain ⟨_, _, _, _, _, _, _, ⟨_, closed, revised⟩, responded⟩ := ran
  rw [← branchResponse_ok responded, reviseParticipants_ok revised]
  exact closeReviewedEdge_ok closed

/-! ### Links -/

theorem customerWarnings_ok
    (compared : customerWarnings rows serviceRequestId rootRfcId = .ok warnings) :
    ∀ customer, rows.customerOf (.serviceRequest serviceRequestId) = some customer →
      rows.RfcsCarry rootRfcId customer := by
  simp only [customerWarnings, except_ok] at compared
  obtain ⟨agree, _⟩ := compared
  intro customer knownCustomer _ contained known rfcKnown
  obtain ⟨row, stored, _, carries⟩ := TicketRows.branchRow_of_known contained rfcKnown
  have matched := agree (rows.customerOfServiceRequest serviceRequestId) List.mem_cons_self
    row.customerOrgId (List.mem_cons_of_mem _ (List.mem_map_of_mem stored))
  exact (differ_eq_false.mp matched customer known knownCustomer carries).symm

variable {serviceRequestRevision rfcRevision : Int}

theorem reviseLinked_ok
    (ran : (reviseLinked serviceRequestId rfcId serviceRequestRevision rfcRevision stale).run
      tables = .ok (value, next)) : next.rows.branches = tables.rows.branches := by
  simp only [reviseLinked, steps_ok] at ran
  obtain ⟨_, _, first, second⟩ := ran
  rw [writeTickets_ok second, TicketRows.branches_reviseRfcs, writeTickets_ok first,
    TicketRows.branches_reviseServiceRequest]

theorem prepareLink_ok
    (inserts : prepareLink call rows serviceRequestId rfcId serviceRequestRevision rfcRevision
      subordinateOrigin = .ok true) :
    ∃ warnings, customerWarnings rows serviceRequestId rfcId = .ok warnings := by
  simp only [prepareLink, previewLink, except_bind_ok] at inserts
  obtain ⟨_, ⟨_, _, _, _, _, _, warnings, compared, _⟩, _⟩ := inserts
  exact ⟨warnings, compared⟩

variable {result : TicketMutationResult}

theorem link_ok (ran : (link call serviceRequestId rfcId serviceRequestRevision rfcRevision
      subordinateOrigin).run tables = .ok (result, next)) :
    next = tables ∨
      tables.rows.branches.Joined next.rows.branches rfcId (.serviceRequest serviceRequestId) ∧
      ∀ customer, tables.rows.customerOf (.serviceRequest serviceRequestId) = some customer →
        tables.rows.RfcsCarry rfcId customer := by
  simp only [link, steps_ok] at ran
  obtain ⟨inserts, read, rest⟩ := ran
  cases inserts with
  | false =>
    simp only [Bool.false_eq_true, if_false, pure_ok] at rest
    exact .inl rest.2.symm
  | true =>
    simp only [if_true, steps_ok] at rest
    obtain ⟨_, inserted, _, revised, _, rfl⟩ := rest
    obtain ⟨_, compared⟩ := prepareLink_ok read
    rw [reviseLinked_ok revised, writeTickets_ok inserted]
    exact .inr ⟨TicketRows.insertLink_joined .., customerWarnings_ok compared⟩

theorem unlink_ok
    (ran : (unlink call serviceRequestId rootRfcId serviceRequestRevision rfcRevision).run tables =
      .ok (result, next)) : next = tables ∨ tables.rows.branches.Left next.rows.branches := by
  simp only [unlink, steps_ok] at ran
  obtain ⟨_, active, _, rest⟩ := ran
  cases active with
  | none =>
    simp only [pure_ok] at rest
    exact .inl rest.2.symm
  | some active =>
    simp only [steps_ok] at rest
    obtain ⟨_, _, closed, _, revised, _, rfl⟩ := rest
    rw [reviseLinked_ok revised, writeTickets_ok closed]
    exact .inr (TicketRows.unlinkLink_left ..)

theorem importGoverningRoot_ok (found : importGoverningRoot rows rfcId = .ok rootRfcId) :
    rows.rootOf rfcId = rootRfcId := by
  simp only [importGoverningRoot, except_ok] at found
  obtain ⟨_, _, rest⟩ := found
  unfold TicketRows.rootOf
  cases parent : rows.activeParent? rfcId with
  | none =>
    simp only [parent] at rest
    exact Except.ok.inj rest
  | some =>
    simp only [parent, except_bind_ok] at rest
    obtain ⟨_, _, _, _, _, _, returned⟩ := rest
    exact Except.ok.inj returned

theorem linkSrFromReview_ok
    (ran : (linkSrFromReview call serviceRequestId requestedRfcId).run tables =
      .ok (result, next)) :
    tables.rows.branches.Joined next.rows.branches (tables.rows.rootOf requestedRfcId)
        (.serviceRequest serviceRequestId) ∧
      ∀ customer, tables.rows.customerOf (.serviceRequest serviceRequestId) = some customer →
        tables.rows.RfcsCarry (tables.rows.rootOf requestedRfcId) customer := by
  simp only [linkSrFromReview, steps_ok] at ran
  obtain ⟨_, read, _, _, _, inserted, _, revised, _, rfl⟩ := ran
  simp only [linkCandidateContext, except_ok] at read
  obtain ⟨_, _, _, governed, _, _, _, compared, returned⟩ := read
  cases returned
  rw [reviseLinked_ok revised, writeTickets_ok inserted, importGoverningRoot_ok governed]
  exact ⟨TicketRows.insertLink_joined .., customerWarnings_ok compared⟩

/-! ### Customers -/

theorem compareBranch_ok {rfcId customer : String} {value : Unit}
    (compared : compareBranch rows rfcId (some customer) = .ok value) (other : String)
    (contained : rows.Contains (rows.rootOf rfcId) (.rfc other)) (distinct : other ≠ rfcId)
    (known : String) (carries : rows.customerOf (.rfc other) = some known) : known = customer := by
  simp only [compareBranch, ensure_ok] at compared
  obtain ⟨row, stored, named, rowKnown⟩ := TicketRows.branchRow_of_known contained carries
  have matched := compared row stored (by rw [named]; exact distinct) (by simp [rowKnown])
  rw [rowKnown] at matched
  exact Option.some.inj matched

variable {customerOrgId : Option String}

theorem prepareRfcCustomer_ok
    (changes : prepareRfcCustomer call rows rfcId baseRevision customerOrgId = .ok true) :
    (∃ row, rows.rfc? rfcId = some row) ∧
      ∃ value, compareBranch rows rfcId customerOrgId = .ok value := by
  simp only [prepareRfcCustomer, except_ok, loadRfc_ok] at changes
  obtain ⟨row, found, _, _, rest⟩ := changes
  split at rest
  · cases rest
  · simp only [except_bind_ok] at rest
    obtain ⟨value, compared, _⟩ := rest
    exact ⟨⟨row, found⟩, value, compared⟩

theorem setRfcCustomer_ok (ran : (setRfcCustomer call rfcId baseRevision customerOrgId).run tables =
      .ok (result, next)) :
    next = tables ∨
      tables.rows.branches.Relabelled next.rows.branches (.rfc rfcId) customerOrgId ∧
      ∃ value, compareBranch tables.rows rfcId customerOrgId = .ok value := by
  simp only [setRfcCustomer, steps_ok] at ran
  obtain ⟨_, _, changes, read, rest⟩ := ran
  cases changes with
  | false =>
    simp only [Bool.false_eq_true, if_false, pure_ok] at rest
    exact .inl rest.2.symm
  | true =>
    simp only [if_true, steps_ok] at rest
    obtain ⟨_, assigned, _, rfl⟩ := rest
    obtain ⟨⟨_, found⟩, compared⟩ := prepareRfcCustomer_ok read
    rw [writeTickets_ok assigned]
    exact .inr ⟨TicketRows.assignRfc_relabelled found customerOrgId, compared⟩

theorem setRfcCustomerFromReview_ok {rfcId customerOrgId : String} {expectedPrior : Option String}
    (ran : (setRfcCustomerFromReview call rfcId customerOrgId expectedPrior).run tables =
      .ok (result, next)) :
    tables.rows.branches.Relabelled next.rows.branches (.rfc rfcId) (some customerOrgId) ∧
      ∃ value, compareBranch tables.rows rfcId (some customerOrgId) = .ok value := by
  simp only [setRfcCustomerFromReview, steps_ok] at ran
  obtain ⟨_, _, _, read, _, assigned, _, rfl⟩ := ran
  simp only [prepareRfcCustomerReview, except_bind_ok, loadRfc_ok] at read
  obtain ⟨_, found, _, _, _, _, _, _, _, _, value, compared, _⟩ := read
  rw [writeTickets_ok assigned]
  exact ⟨TicketRows.assignRfc_relabelled found _, value, compared⟩

theorem closeCurrentCustomer_ok
    (ran : (closeCurrentCustomer (tables.rows.currentCustomer? serviceRequestId)).run tables =
      .ok (value, next)) :
    tables.rows.branches.Relabelled next.rows.branches (.serviceRequest serviceRequestId) none := by
  cases found : tables.rows.currentCustomer? serviceRequestId with
  | none =>
    simp only [found, closeCurrentCustomer, pure_ok] at ran
    obtain ⟨_, rfl⟩ := ran
    refine ⟨rfl, fun _ _ => rfl, ?_⟩
    simp only [TicketRows.branches, TicketRows.customerOf, TicketRows.customerOfServiceRequest,
      found, Option.map_none]
  | some =>
    simp only [found, closeCurrentCustomer, supersedeServiceRequestCustomer, steps_ok] at ran
    obtain ⟨_, wrote⟩ := ran
    rw [writeTickets_ok wrote]
    exact TicketRows.supersedeCustomer_relabelled tables.valid found

theorem openCustomer_ok (vacant : tables.rows.customerOf (.serviceRequest serviceRequestId) = none)
    (ran : (openCustomer call serviceRequestId customerOrgId).run tables = .ok (value, next)) :
    tables.rows.branches.Relabelled next.rows.branches (.serviceRequest serviceRequestId)
      customerOrgId := by
  cases customerOrgId with
  | none =>
    simp only [openCustomer, pure_ok] at ran
    obtain ⟨_, rfl⟩ := ran
    exact ⟨rfl, fun _ _ => rfl, vacant⟩
  | some =>
    rw [writeTickets_ok ran]
    simp only [TicketRows.customerOf, TicketRows.customerOfServiceRequest,
      Option.map_eq_none_iff] at vacant
    exact TicketRows.insertCustomer_relabelled vacant _ _

theorem applyServiceRequestCustomer_ok (ran : (applyServiceRequestCustomer call serviceRequest
      (tables.rows.currentCustomer? serviceRequest.serviceRequestId) customerOrgId stale).run
      tables = .ok (value, next)) :
    tables.rows.branches.Relabelled next.rows.branches
      (.serviceRequest serviceRequest.serviceRequestId) customerOrgId := by
  simp only [applyServiceRequestCustomer, steps_ok] at ran
  obtain ⟨_, closed, _, inserted, _, _, revised, _, rfl⟩ := ran
  rw [writeTickets_ok revised, TicketRows.branches_reviseServiceRequest]
  have closing := closeCurrentCustomer_ok closed
  exact closing.trans (openCustomer_ok closing.taken inserted)

theorem setServiceRequestCustomer_ok
    (ran : (setServiceRequestCustomer call serviceRequestId baseRevision customerOrgId).run tables =
      .ok (result, next)) :
    next = tables ∨ tables.rows.branches.Relabelled next.rows.branches
      (.serviceRequest serviceRequestId) customerOrgId := by
  simp only [setServiceRequestCustomer, steps_ok] at ran
  obtain ⟨_, _, serviceRequest, read, rest⟩ := ran
  simp only [prepareServiceRequestCustomer, except_ok, loadServiceRequest_ok] at read
  obtain ⟨_, foundIs, _, _, _, returned⟩ := read
  cases returned
  have named := List.find?_some foundIs
  simp only [decide_eq_true_eq] at named
  subst named
  split at rest
  · exact .inl (pure_ok.mp rest).2.symm
  · simp only [steps_ok] at rest
    obtain ⟨_, applied, _, rfl⟩ := rest
    exact .inr (applyServiceRequestCustomer_ok applied)

theorem setServiceRequestCustomerFromReview_ok {serviceRequestId customerOrgId : String}
    {expectedPrior : Option String}
    (ran : (setServiceRequestCustomerFromReview call serviceRequestId customerOrgId
      expectedPrior).run tables = .ok (result, next)) :
    tables.rows.branches.Relabelled next.rows.branches (.serviceRequest serviceRequestId)
      (some customerOrgId) := by
  simp only [setServiceRequestCustomerFromReview, steps_ok] at ran
  obtain ⟨serviceRequest, read, _, applied, _, rfl⟩ := ran
  simp only [prepareServiceRequestCustomerReview, except_ok] at read
  obtain ⟨_, foundIs, _, _, _, _, returned⟩ := read
  cases returned
  have named : serviceRequest.serviceRequestId = serviceRequestId := by
    cases stored : tables.rows.serviceRequest? serviceRequestId with
    | none => rw [stored] at foundIs; cases foundIs
    | some =>
      rw [stored] at foundIs
      cases foundIs
      have named := List.find?_some stored
      simpa using named
  subst named
  exact applyServiceRequestCustomer_ok applied

end Effects

/-! ## The invariant -/

/-- The known Customers of every branch are equal. -/
def TicketRows.OneCustomer (rows : TicketRows) : Prop :=
  rows.branches.AllAgreed

section Fitting

variable {rows : TicketRows} {rootRfcId customer : String} {member : Member}

theorem fits_branch
    (rfcs : ∀ rfcId, rows.Contains rootRfcId (.rfc rfcId) → .rfc rfcId ≠ member →
      ∀ known, rows.customerOf (.rfc rfcId) = some known → known = customer)
    (linked : ∀ serviceRequest, rows.Linked rootRfcId serviceRequest →
      .serviceRequest serviceRequest ≠ member →
      ∀ known, rows.customerOf (.serviceRequest serviceRequest) = some known → known = customer) :
    rows.branches.Fits rootRfcId member customer := by
  intro other contained distinct known carries
  cases other with
  | rfc rfcId => exact rfcs rfcId contained distinct known carries
  | serviceRequest serviceRequest => exact linked serviceRequest contained distinct known carries

/-- A child fits a branch when its Customer is that of the parent, as far as it
is known, and of the members no command compares it with. -/
theorem child_fits
    (compared : ∀ known, rows.customerOf (.rfc rootRfcId) = some known → known = customer)
    (below : rows.SubordinatesCarry rootRfcId customer)
    (linked : rows.LinkedCarry rootRfcId customer none) :
    rows.branches.Fits rootRfcId (.rfc childRfcId) customer := by
  apply fits_branch
  · intro rfcId contained _ known carries
    rcases contained with rfl | subordinate
    · exact compared known carries
    · exact below rfcId subordinate known carries
  · exact fun serviceRequest isLinked _ => linked serviceRequest isLinked nofun

theorem rfcCustomer_fits (valid : rows.Constraints)
    (compared : compareBranch rows rfcId (some customer) = .ok value)
    (linked : rows.LinkedCarry (rows.rootOf rfcId) customer none) (root : String)
    (contained : rows.Contains root (.rfc rfcId)) :
    rows.branches.Fits root (.rfc rfcId) customer := by
  rcases TicketRows.contains_rfc valid contained with rfl | alone
  · apply fits_branch
    · intro other otherIn distinct known carries
      exact compareBranch_ok compared other otherIn (fun same => distinct (by rw [same])) known
        carries
    · exact fun serviceRequest isLinked _ => linked serviceRequest isLinked nofun
  · exact fun other otherIn distinct => absurd (alone other otherIn) distinct

theorem serviceRequestCustomer_fits (agrees : ∀ root, rows.Linked root serviceRequestId →
      rows.RfcsCarry root customer ∧ rows.LinkedCarry root customer (some serviceRequestId))
    (root : String) (contained : rows.Contains root (.serviceRequest serviceRequestId)) :
    rows.branches.Fits root (.serviceRequest serviceRequestId) customer := by
  obtain ⟨rfcs, linked⟩ := agrees root contained
  apply fits_branch
  · exact fun rfcId rfcIn _ => rfcs rfcId rfcIn
  · intro other isLinked distinct
    exact linked other isLinked fun same => distinct (by rw [Option.some.inj same])

end Fitting

section Steps

variable {tables : TicketTables}

theorem commit_keeps {Result : Type} {body : TicketBody Result}
    (held : tables.rows.OneCustomer)
    (kept : ∀ result next, body.run tables = .ok (result, next) → next.rows.OneCustomer) :
    (commit body tables).2.rows.OneCustomer := by
  cases outcome : (commit body tables).1 with
  | error => rw [commit_error outcome]; exact held
  | ok result => exact kept result _ (commit_ok outcome)

/-- **A step that agrees with the members it does not read keeps one Customer
in every branch.** -/
theorem apply_keeps_oneCustomer (held : tables.rows.OneCustomer) {command : Command}
    (agrees : command.Agrees tables.rows) : (command.apply tables).rows.OneCustomer := by
  cases command with
  | addSubordinate =>
    apply commit_keeps held
    intro result next ran
    rcases addSubordinate_ok ran with rfl | ⟨joined, compared⟩
    · exact held
    · apply held.joined joined
      intro customer carries
      obtain ⟨below, linked⟩ := agrees customer carries
      exact child_fits (fun known parentKnown => compared known customer parentKnown carries) below
        linked
  | reparentSubordinate =>
    apply commit_keeps held
    intro result next ran
    obtain ⟨joined, compared⟩ := reparentSubordinate_ok ran
    apply held.joined joined
    intro customer carries
    obtain ⟨below, linked⟩ := agrees customer carries
    exact child_fits (fun known parentKnown => (compared customer known carries parentKnown).symm)
      below linked
  | detachSubordinate =>
    apply commit_keeps held
    intro result next ran
    exact held.left (detachSubordinate_ok ran)
  | link =>
    apply commit_keeps held
    intro result next ran
    rcases link_ok ran with rfl | ⟨joined, compared⟩
    · exact held
    · apply held.joined joined
      intro customer carries
      exact fits_branch (fun rfcId rfcIn _ => compared customer carries rfcId rfcIn)
        fun other isLinked _ => agrees customer carries other isLinked nofun
  | linkSrFromReview =>
    apply commit_keeps held
    intro result next ran
    obtain ⟨joined, compared⟩ := linkSrFromReview_ok ran
    apply held.joined joined
    intro customer carries
    exact fits_branch (fun rfcId rfcIn _ => compared customer carries rfcId rfcIn)
      fun other isLinked _ => agrees customer carries other isLinked nofun
  | unlink =>
    apply commit_keeps held
    intro result next ran
    rcases unlink_ok ran with rfl | left
    · exact held
    · exact held.left left
  | setRfcCustomer =>
    apply commit_keeps held
    intro result next ran
    rcases setRfcCustomer_ok ran with rfl | ⟨relabelled, value, compared⟩
    · exact held
    · apply held.relabelled relabelled
      rintro customer rfl
      exact rfcCustomer_fits tables.valid compared (agrees customer rfl)
  | setRfcCustomerFromReview _ _ customer =>
    apply commit_keeps held
    intro result next ran
    obtain ⟨relabelled, value, compared⟩ := setRfcCustomerFromReview_ok ran
    apply held.relabelled relabelled
    rintro known ⟨⟩
    exact rfcCustomer_fits tables.valid compared agrees
  | setServiceRequestCustomer =>
    apply commit_keeps held
    intro result next ran
    rcases setServiceRequestCustomer_ok ran with rfl | relabelled
    · exact held
    · apply held.relabelled relabelled
      rintro customer rfl
      exact serviceRequestCustomer_fits (agrees customer rfl)
  | setServiceRequestCustomerFromReview _ _ customer =>
    apply commit_keeps held
    intro result next ran
    apply held.relabelled (setServiceRequestCustomerFromReview_ok ran)
    rintro known ⟨⟩
    exact serviceRequestCustomer_fits agrees

end Steps

/-! ## Refusals -/

/-- The call raises `RFC_CUSTOMER_MISMATCH`. -/
def RefusedForCustomer {Result : Type} (body : TicketBody Result) (tables : TicketTables) : Prop :=
  ∃ message, (commit body tables).1 = .error (ticketError "RFC_CUSTOMER_MISMATCH" message)

section Refusals

variable {tables : TicketTables} {call : Call} {message : String}

theorem ticketError_inj :
    ticketError code text = ticketError other text' ↔ code = other ∧ text = text' := by
  simp [ticketError]

theorem validateReasonCategory_not_mismatch :
    validateReasonCategory value ≠ .error (ticketError "RFC_CUSTOMER_MISMATCH" message) := by
  simp [validateReasonCategory, ensure_error, validationError, ticketError]

theorem validateReview_not_mismatch :
    call.validateReview ≠ .error (ticketError "RFC_CUSTOMER_MISMATCH" message) := by
  simp [Call.validateReview, ensure_error, validationError, ticketError]

theorem requireUuid4_not_mismatch :
    requireUuid4 value ≠ .error (ticketError "RFC_CUSTOMER_MISMATCH" message) := by
  simp [requireUuid4, ensure_error, validationError, ticketError]

theorem loadRfc_not_mismatch :
    loadRfc rows rfcId ≠ .error (ticketError "RFC_CUSTOMER_MISMATCH" message) := by
  unfold loadRfc
  cases rows.rfc? rfcId <;> simp [ticketError]

theorem loadServiceRequest_not_mismatch :
    loadServiceRequest rows serviceRequestId ≠
      .error (ticketError "RFC_CUSTOMER_MISMATCH" message) := by
  unfold loadServiceRequest
  cases rows.serviceRequest? serviceRequestId <;> simp [ticketError]

theorem requireTarget_not_mismatch :
    requireTarget call target ≠ .error (ticketError "RFC_CUSTOMER_MISMATCH" message) := by
  cases target with
  | none => nofun
  | some =>
    simp only [requireTarget]
    cases call.targetCustomer <;> simp [requireActiveCustomer, ticketError]

theorem writeTickets_not_mismatch {change : TicketRows → TicketRows} :
    (writeTickets change).run tables ≠
      .error (ticketError "RFC_CUSTOMER_MISMATCH" message) := by
  simp only [writeTickets, ne_eq, bind_error, get_error, setChecked_error, ticketError, false_or]
  rintro ⟨_, _, _, _, refusal⟩
  cases refusal

theorem compareBranch_of_oneCustomer (held : tables.rows.OneCustomer)
    (contained : tables.rows.Contains (tables.rows.rootOf rfcId) member)
    (carries : tables.rows.customerOf member = some customer) :
    compareBranch tables.rows rfcId (some customer) = .ok () := by
  rw [compareBranch, ensure_ok]
  intro row stored _ known
  obtain ⟨rowKnown, rowCarries⟩ := Option.ne_none_iff_exists'.mp known
  obtain ⟨rowStored, rowIn⟩ := TicketRows.mem_branchRows.mp stored
  have labelled := TicketRows.customerOf_row tables.valid rowStored
  rw [rowCarries] at labelled ⊢
  have same : rowKnown = customer :=
    held (tables.rows.rootOf rfcId) (.rfc row.rfcId) member rowIn contained _ _ labelled carries
  rw [same]

variable {customerOrgId : Option String}

theorem setRfcCustomer_not_refused
    (passes : compareBranch tables.rows rfcId customerOrgId = .ok ()) :
    ¬ RefusedForCustomer (setRfcCustomer call rfcId baseRevision customerOrgId) tables := by
  rintro ⟨_, refused⟩
  simp only [commit_raises, setRfcCustomer, bind_error, attempt_error, attempt_ok, get_error, get_ok,
    validateReasonCategory_not_mismatch, validateReview_not_mismatch, false_or] at refused
  obtain ⟨_, _, ⟨_, rfl⟩, _, _, ⟨_, rfl⟩, _, _, ⟨rfl, rfl⟩, raised | ⟨changes, _, ⟨_, rfl⟩, raised⟩⟩ :=
    refused
  · simp only [prepareRfcCustomer, except_bind_error, loadRfc_not_mismatch, ensure_error,
      requireTarget_not_mismatch, false_or] at raised
    obtain ⟨_, _, ⟨_, is⟩ | ⟨_, _, _, _, raised⟩⟩ := raised
    · simp [ticketError] at is
    · split at raised
      · cases raised
      · simp only [except_bind_error, passes] at raised
        rcases raised with raised | ⟨_, _, raised⟩ <;> cases raised
  · cases changes with
    | false => simp only [Bool.false_eq_true, if_false, pure_error] at raised
    | true =>
      simp only [if_true, bind_error, writeTickets_not_mismatch, pure_error, and_false,
        exists_false, or_false] at raised

theorem setRfcCustomerFromReview_not_refused {rfcId customerOrgId : String}
    {expectedPrior : Option String}
    (passes : compareBranch tables.rows rfcId (some customerOrgId) = .ok ()) :
    ¬ RefusedForCustomer (setRfcCustomerFromReview call rfcId customerOrgId expectedPrior)
      tables := by
  rintro ⟨_, refused⟩
  simp only [commit_raises, setRfcCustomerFromReview, bind_error, attempt_error, attempt_ok, get_error, get_ok,
    requireUuid4_not_mismatch, writeTickets_not_mismatch, pure_error, false_or, and_false,
    exists_false, or_false] at refused
  obtain ⟨_, _, ⟨_, rfl⟩, _, _, ⟨_, rfl⟩, _, _, ⟨rfl, rfl⟩, raised⟩ := refused
  simp only [prepareRfcCustomerReview, except_bind_error, loadRfc_not_mismatch, ensure_error,
    passes, false_or] at raised
  simp [ticketError_inj, importStale, pure, Except.pure] at raised

theorem closeCurrentCustomer_not_mismatch :
    (closeCurrentCustomer current).run tables ≠
      .error (ticketError "RFC_CUSTOMER_MISMATCH" message) := by
  cases current with
  | none => nofun
  | some current =>
    simp only [closeCurrentCustomer, supersedeServiceRequestCustomer, bind_error, get_error,
      require_error, writeTickets_not_mismatch, ticketError_inj, false_or, and_false, exists_false,
      or_false, ne_eq]
    simp

theorem openCustomer_not_mismatch :
    (openCustomer call serviceRequestId customerOrgId).run tables ≠
      .error (ticketError "RFC_CUSTOMER_MISMATCH" message) := by
  cases customerOrgId with
  | none => nofun
  | some => exact writeTickets_not_mismatch

theorem applyServiceRequestCustomer_not_mismatch
    (other : stale ≠ ticketError "RFC_CUSTOMER_MISMATCH" message) :
    (applyServiceRequestCustomer call serviceRequest current customerOrgId stale).run tables ≠
      .error (ticketError "RFC_CUSTOMER_MISMATCH" message) := by
  simp only [applyServiceRequestCustomer, bind_error, get_error, require_error, other,
    closeCurrentCustomer_not_mismatch, openCustomer_not_mismatch, writeTickets_not_mismatch,
    classificationFailure, ticketError_inj, false_or, and_false, ne_eq]
  simp

theorem setServiceRequestCustomer_not_refused :
    ¬ RefusedForCustomer (setServiceRequestCustomer call serviceRequestId baseRevision
      customerOrgId) tables := by
  rintro ⟨_, refused⟩
  simp only [commit_raises, setServiceRequestCustomer, bind_error, attempt_error, attempt_ok, get_error, get_ok,
    validateReasonCategory_not_mismatch, validateReview_not_mismatch, false_or] at refused
  obtain ⟨_, _, ⟨_, rfl⟩, _, _, ⟨_, rfl⟩, _, _, ⟨rfl, rfl⟩, raised | ⟨_, _, ⟨_, rfl⟩, raised⟩⟩ :=
    refused
  · simp only [prepareServiceRequestCustomer, except_bind_error, loadServiceRequest_not_mismatch,
      ensure_error, false_or] at raised
    simp [ticketError_inj, pure, Except.pure] at raised
  · split at raised
    · simp only [pure_error] at raised
    · simp only [bind_error, pure_error, and_false, exists_false, or_false] at raised
      exact applyServiceRequestCustomer_not_mismatch (by simp [ticketError]) raised

theorem setServiceRequestCustomerFromReview_not_refused {serviceRequestId customerOrgId : String}
    {expectedPrior : Option String} :
    ¬ RefusedForCustomer (setServiceRequestCustomerFromReview call serviceRequestId customerOrgId
      expectedPrior) tables := by
  rintro ⟨_, refused⟩
  simp only [commit_raises, setServiceRequestCustomerFromReview, bind_error, attempt_error, attempt_ok, get_error,
    get_ok, pure_error, and_false, exists_false, or_false, false_or] at refused
  obtain ⟨_, _, ⟨rfl, rfl⟩, raised | ⟨_, _, ⟨_, rfl⟩, raised⟩⟩ := refused
  · simp only [prepareServiceRequestCustomerReview, except_bind_error, ensure_error] at raised
    cases found : tables.rows.serviceRequest? serviceRequestId <;>
      simp [found, importStale, ticketError_inj, pure, Except.pure] at raised
  · exact applyServiceRequestCustomer_not_mismatch (by simp [importStale, ticketError]) raised

end Refusals

/-! ## Runs -/

/-- RFCs and Service Requests exist, and no relation between them is active. -/
def Unrelated (tables : TicketTables) : Prop :=
  tables.rows.activeEdges = [] ∧ tables.rows.activeLinks = []

def Step (tables next : TicketTables) : Prop :=
  ∃ command : Command, next = command.apply tables

/-- A call whose Customer agrees with the members the command does not read. -/
def AgreeingStep (tables next : TicketTables) : Prop :=
  ∃ command : Command, command.Agrees tables.rows ∧ next = command.apply tables

theorem Unrelated.oneCustomer (unrelated : Unrelated tables) : tables.rows.OneCustomer := by
  obtain ⟨edges, links⟩ := unrelated
  have alone : ∀ root member, tables.rows.Contains root member → member = .rfc root := by
    intro root member contained
    cases member with
    | rfc =>
      rcases contained with same | ⟨edge, stored, _⟩
      · rw [same]
      · rw [edges] at stored
        cases stored
    | serviceRequest serviceRequest =>
      obtain ⟨_, stored, _⟩ := contained
      rw [links] at stored
      cases stored
  intro root first second firstIn secondIn _ _ firstLabel secondLabel
  rw [alone root first firstIn] at firstLabel
  rw [alone root second secondIn, firstLabel] at secondLabel
  exact Option.some.inj secondLabel

/-- **One branch, one Customer: along every run of agreeing steps the known
Customers of every branch are equal, and giving a member the Customer of its
branch is not refused for a mismatch.** -/
theorem one_branch_one_customer {tables : TicketTables}
    (reached : Reachable Unrelated AgreeingStep tables) :
    (∀ root, tables.rows.branches.Agreed root) ∧
    (∀ call rfcId revision customer member,
      tables.rows.Contains (tables.rows.rootOf rfcId) member →
      tables.rows.customerOf member = some customer →
      ¬ RefusedForCustomer (setRfcCustomer call rfcId revision (some customer)) tables ∧
      ∀ prior, ¬ RefusedForCustomer (setRfcCustomerFromReview call rfcId customer prior) tables) ∧
    ∀ call serviceRequest revision customer,
      ¬ RefusedForCustomer
        (setServiceRequestCustomer call serviceRequest revision (some customer)) tables ∧
      ∀ prior, ¬ RefusedForCustomer
        (setServiceRequestCustomerFromReview call serviceRequest customer prior) tables := by
  have held : tables.rows.OneCustomer := by
    refine reached.invariant (fun tables => tables.rows.OneCustomer) (fun _ => Unrelated.oneCustomer) ?_
    rintro before next held ⟨command, agrees, rfl⟩
    exact apply_keeps_oneCustomer held agrees
  refine ⟨held, ?_, ?_⟩
  · intro call rfcId revision customer member contained carries
    have passes := compareBranch_of_oneCustomer held contained carries
    exact ⟨setRfcCustomer_not_refused passes, fun _ => setRfcCustomerFromReview_not_refused passes⟩
  · exact fun _ _ _ _ =>
      ⟨setServiceRequestCustomer_not_refused, fun _ => setServiceRequestCustomerFromReview_not_refused⟩

/-! ## A branch with two Customers -/

namespace Sample

def parentId : String := "0b9a1f3e-6c1d-4f52-9a3e-2d1c5b7a9e01"
def firstChildId : String := "1c8b2e4d-7d2e-4a63-8b4f-3e2d6c8bae12"
def secondChildId : String := "2d7c3d5c-8e3f-4b74-9c50-4f3e7d9cbf23"
def thirdChildId : String := "3c6d4b6a-9a4b-4c85-8d61-5a4f8eadc0a4"
def firstCustomer : String := "3e6d4c6b-9f40-4c85-ad61-504f8eadc034"
def secondCustomer : String := "4f5e5b7a-a051-4d96-be72-61509fbed145"

def call (relationshipId : Uuid4) : Call where
  relationshipId
  reasonCategory := "reviewed"
  review := .absent
  historyAuthority := .low
  serviceRequestTerminal := false
  rfcTerminal := false
  targetCustomer := .active
  classificationApplies := true

def firstEdge : Uuid4 := ⟨"506f6a89-b162-4ea7-8f83-7261a0cfe256", by decide⟩
def secondEdge : Uuid4 := ⟨"61707998-c273-4fb8-9094-8372b1d0f367", by decide⟩

/-- A parent whose Customer is unknown, and three RFCs, two of them of one Customer. -/
def start : TicketTables where
  rows := {
    rfcs := [⟨parentId, none, .active, 1⟩, ⟨firstChildId, some firstCustomer, .active, 1⟩,
      ⟨secondChildId, some secondCustomer, .active, 1⟩,
      ⟨thirdChildId, some firstCustomer, .active, 1⟩]
    hierarchyEdges := []
    serviceRequests := []
    srRfcLinks := []
    srCustomers := [] }
  valid := by decide

def attachFirst : Command :=
  .addSubordinate (call firstEdge) parentId firstChildId [(parentId, 1), (firstChildId, 1)]

def attachSecond : Command :=
  .addSubordinate (call secondEdge) parentId secondChildId [(parentId, 2), (secondChildId, 1)]

def attachThird : Command :=
  .addSubordinate (call secondEdge) parentId thirdChildId [(parentId, 2), (thirdChildId, 1)]

def attached : TicketTables := attachFirst.apply start

def joined : TicketTables := attachThird.apply attached

def split : TicketTables := attachSecond.apply attached

theorem start_unrelated : Unrelated start := ⟨rfl, rfl⟩

theorem attachFirst_agrees : attachFirst.Agrees start.rows := by
  intro _ _
  constructor
  · rintro child ⟨_, stored, _⟩
    cases stored
  · rintro serviceRequest ⟨_, stored, _⟩
    cases stored

theorem attachThird_agrees : attachThird.Agrees attached.rows := by
  have carried : (∀ edge ∈ attached.rows.activeEdges,
      attached.rows.customerOf (.rfc edge.childRfcId) = some firstCustomer) ∧
      attached.rows.customerOf (.rfc thirdChildId) = some firstCustomer ∧
      attached.rows.activeLinks = [] := by decide +kernel
  obtain ⟨edges, third, links⟩ := carried
  intro customer carries
  obtain rfl := Option.some.inj (third.symm.trans carries)
  constructor
  · rintro child ⟨edge, stored, _, rfl⟩ known carriesToo
    exact (Option.some.inj ((edges edge stored).symm.trans carriesToo)).symm
  · rintro serviceRequest ⟨_, stored, _⟩
    rw [links] at stored
    cases stored

end Sample

/-- The branch of three RFCs, two of them with a known Customer, has one, and its parent may
be given it. -/
theorem attached_branch_one_customer :
    Sample.joined.rows.Subordinate Sample.parentId Sample.firstChildId ∧
    Sample.joined.rows.Subordinate Sample.parentId Sample.thirdChildId ∧
    Sample.joined.rows.branches.Agreed Sample.parentId ∧
    ¬ RefusedForCustomer (setRfcCustomer (Sample.call Sample.firstEdge) Sample.parentId 3
      (some Sample.firstCustomer)) Sample.joined := by
  have first : Sample.joined.rows.Subordinate Sample.parentId Sample.firstChildId := by
    unfold TicketRows.Subordinate
    decide +kernel
  have third : Sample.joined.rows.Subordinate Sample.parentId Sample.thirdChildId := by
    unfold TicketRows.Subordinate
    decide +kernel
  have attached : Reachable Unrelated AgreeingStep Sample.attached :=
    .step (.start Sample.start_unrelated) ⟨Sample.attachFirst, Sample.attachFirst_agrees, rfl⟩
  have joined : Reachable Unrelated AgreeingStep Sample.joined :=
    attached.step ⟨Sample.attachThird, Sample.attachThird_agrees, rfl⟩
  obtain ⟨agreed, given, -⟩ := one_branch_one_customer joined
  refine ⟨first, third, agreed Sample.parentId,
    (given _ _ _ _ (.rfc Sample.firstChildId) ?_ (by decide +kernel)).1⟩
  rw [show Sample.joined.rows.rootOf Sample.parentId = Sample.parentId from by decide +kernel]
  exact .inr first

/-- Two children of different Customers under a parent whose Customer is
unknown: the parent can then be given neither. -/
theorem split_branch_refuses_both :
    Reachable Unrelated Step Sample.split ∧
    ¬ Sample.split.rows.branches.Agreed Sample.parentId ∧
    RefusedForCustomer (setRfcCustomer (Sample.call Sample.firstEdge) Sample.parentId 3
      (some Sample.firstCustomer)) Sample.split ∧
    RefusedForCustomer (setRfcCustomer (Sample.call Sample.firstEdge) Sample.parentId 3
      (some Sample.secondCustomer)) Sample.split := by
  refine ⟨?_, ?_, ?_, ?_⟩
  · exact .step (.step (.start Sample.start_unrelated) ⟨Sample.attachFirst, rfl⟩)
      ⟨Sample.attachSecond, rfl⟩
  · intro agreed
    have first : Sample.split.rows.Subordinate Sample.parentId Sample.firstChildId := by
      unfold TicketRows.Subordinate
      decide +kernel
    have second : Sample.split.rows.Subordinate Sample.parentId Sample.secondChildId := by
      unfold TicketRows.Subordinate
      decide +kernel
    have same := agreed (.rfc Sample.firstChildId) (.rfc Sample.secondChildId) (.inr first)
      (.inr second) Sample.firstCustomer Sample.secondCustomer (by decide +kernel)
      (by decide +kernel)
    exact absurd same (by decide)
  · exact ⟨"known RFC branch members resolve to a different Customer Organization",
      by decide +kernel⟩
  · exact ⟨"known RFC branch members resolve to a different Customer Organization",
      by decide +kernel⟩

end Soma.Tickets
