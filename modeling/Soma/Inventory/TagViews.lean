import Soma.Inventory.Warehouse

/-!
What the aggregate of a Fault Tag is about: its members by state. `Fits` says of a
tag projection and of the members of the tag that the counts are the numbers of
members in each state and that the state of the tag is the one the members give.
It is about lists of `MemberView` only, so that a statement on another tag, or on
another column, is seen to change nothing.
-/

namespace Soma.Inventory

open Foundation

/-! ## States -/

/-- The states in which a membership is `active_submitted`. -/
def MembershipState.isActive : MembershipState → Bool
  | .submittedAwaitingReceipt | .warehouseReceived => true
  | _ => false

/-- The warehouse has decided. -/
def MembershipState.isFinal : MembershipState → Bool
  | .accepted | .rejected => true
  | _ => false

def MembershipState.isHandedIn (state : MembershipState) : Bool := state.isActive || state.isFinal

def TagState.isTerminal : TagState → Bool
  | .terminalCompleted | .terminalWithRejected => true
  | _ => false

/-- Submitted and neither taken back nor replaced. -/
def TagState.isLive : TagState → Bool
  | .submitted | .inWarehouseReview | .terminalCompleted | .terminalWithRejected => true
  | _ => false

/-! ## Members -/

/-- The columns of a membership that its tag counts. -/
structure MemberView where
  membershipId : String
  faultTagId : String
  state : MembershipState
  activeSubmitted : Bool

def MembershipCurrent.view (row : MembershipCurrent) : MemberView :=
  ⟨row.faultTagMembershipId, row.faultTagId, row.state, row.activeSubmitted⟩

/-- The members of a tag. -/
def membersOf (views : List MemberView) (faultTagId : String) : List MemberView :=
  views.filter (·.faultTagId = faultTagId)

def countOf (members : List MemberView) (state : MembershipState) : Nat :=
  members.countP (·.state = state)

theorem mem_membersOf :
    view ∈ membersOf views faultTagId ↔ view ∈ views ∧ view.faultTagId = faultTagId := by
  simp [membersOf]

theorem countIn_eq (tables : TagTables) (faultTagId : String) (state : MembershipState) :
    tables.countIn faultTagId state =
      countOf (membersOf (tables.current.map (·.view)) faultTagId) state := by
  rw [countOf, membersOf, List.countP_filter, List.countP_map]
  refine List.countP_congr fun row _ => ?_
  simp [MembershipCurrent.view, and_comm]

theorem countOf_eq_zero (none : ∀ member ∈ members, member.state ≠ state) :
    countOf members state = 0 :=
  List.countP_eq_zero.mpr fun member inside same =>
    none member inside (of_decide_eq_true same)

theorem countOf_all (all : ∀ member ∈ members, member.state = state) :
    countOf members state = members.length :=
  List.countP_eq_length.mpr fun member inside => decide_eq_true (all member inside)

theorem countOf_handedIn (handedIn : ∀ member ∈ members, member.state.isHandedIn = true) :
    countOf members .submittedAwaitingReceipt + countOf members .warehouseReceived +
      countOf members .accepted + countOf members .rejected = members.length := by
  induction members with
  | nil => rfl
  | cons member members ih =>
    have rest := ih fun other inside => handedIn other (List.mem_cons_of_mem _ inside)
    have own := handedIn member List.mem_cons_self
    simp only [countOf, List.countP_cons, List.length_cons] at rest ⊢
    cases state : member.state with
    | submittedAwaitingReceipt | warehouseReceived | accepted | rejected => simp; omega
    | draft | cancelled | superseded => simp [MembershipState.isHandedIn, MembershipState.isActive,
        MembershipState.isFinal, state] at own

/-! ## Tags -/

/-- The counts of a tag are the numbers of its members. -/
structure CountsFit (members : List MemberView) (tag : TagProjection) : Prop where
  awaitingReceipt : tag.awaitingReceiptCount = countOf members .submittedAwaitingReceipt
  awaitingFinal : tag.awaitingFinalCount = countOf members .warehouseReceived
  accepted : tag.acceptedCount = countOf members .accepted
  rejected : tag.rejectedCount = countOf members .rejected

/-- What holds of a live tag before its counts are looked at. -/
structure Ready (members : List MemberView) (tag : TagProjection) : Prop where
  live : tag.state.isLive = true
  positive : 0 < tag.submittedMemberCount
  total : tag.submittedMemberCount = members.length
  handedIn : ∀ member ∈ members, member.state.isHandedIn = true

/-- The projection of a tag and its members agree. -/
structure Fits (members : List MemberView) (tag : TagProjection) : Prop where
  counts : CountsFit members tag
  draft : tag.state = .draft → ∀ member ∈ members, member.state = .draft
  ready : tag.state.isLive = true → Ready members tag
  terminal : tag.state.isLive = true →
    (tag.state.isTerminal = true ↔ ∀ member ∈ members, member.state.isFinal = true)
  superseded : tag.state = .superseded → ∀ member ∈ members, member.activeSubmitted = false
  notCancelled : tag.state ≠ .cancelled

variable {members : List MemberView} {tag : TagProjection}

theorem TagState.not_live_draft {state : TagState} (draft : state = .draft) :
    state.isLive = false := by
  rw [draft]
  rfl

theorem CountsFit.of_draft (draft : ∀ member ∈ members, member.state = .draft)
    (zero : tag.awaitingReceiptCount = 0 ∧ tag.awaitingFinalCount = 0 ∧ tag.acceptedCount = 0 ∧
      tag.rejectedCount = 0) : CountsFit members tag := by
  have none : ∀ state, state ≠ .draft → countOf members state = 0 := fun state other =>
    countOf_eq_zero fun member inside same => other (same.symm.trans (draft member inside))
  obtain ⟨receipt, final, accepted, rejected⟩ := zero
  constructor
  · rw [receipt, none _ (by decide)]
  · rw [final, none _ (by decide)]
  · rw [accepted, none _ (by decide)]
  · rw [rejected, none _ (by decide)]

theorem Fits.of_draft (state : tag.state = .draft)
    (draft : ∀ member ∈ members, member.state = .draft)
    (zero : tag.awaitingReceiptCount = 0 ∧ tag.awaitingFinalCount = 0 ∧ tag.acceptedCount = 0 ∧
      tag.rejectedCount = 0) : Fits members tag where
  counts := .of_draft draft zero
  draft _ := draft
  ready live := by
    rw [TagState.not_live_draft state] at live
    cases live
  terminal live := by
    rw [TagState.not_live_draft state] at live
    cases live
  superseded other := by
    rw [state] at other
    cases other
  notCancelled other := by
    rw [state] at other
    cases other

theorem Fits.zero (fits : Fits members tag) (state : tag.state = .draft) :
    tag.awaitingReceiptCount = 0 ∧ tag.awaitingFinalCount = 0 ∧ tag.acceptedCount = 0 ∧
      tag.rejectedCount = 0 := by
  have none : ∀ wanted, wanted ≠ .draft → countOf members wanted = 0 := fun wanted other =>
    countOf_eq_zero fun member inside same =>
      other (same.symm.trans (fits.draft state member inside))
  refine ⟨?_, ?_, ?_, ?_⟩
  · rw [fits.counts.awaitingReceipt, none _ (by decide)]
  · rw [fits.counts.awaitingFinal, none _ (by decide)]
  · rw [fits.counts.accepted, none _ (by decide)]
  · rw [fits.counts.rejected, none _ (by decide)]

/-- A tag that has just been submitted, all of whose members await their receipt. -/
theorem Fits.of_submitted (state : tag.state = .submitted)
    (positive : 0 < members.length) (total : tag.submittedMemberCount = members.length)
    (awaiting : ∀ member ∈ members, member.state = .submittedAwaitingReceipt)
    (counted : tag.awaitingReceiptCount = members.length)
    (zero : tag.awaitingFinalCount = 0 ∧ tag.acceptedCount = 0 ∧ tag.rejectedCount = 0) :
    Fits members tag where
  counts := by
    have none : ∀ wanted, wanted ≠ .submittedAwaitingReceipt → countOf members wanted = 0 :=
      fun wanted other => countOf_eq_zero fun member inside same =>
        other (same.symm.trans (awaiting member inside))
    obtain ⟨final, accepted, rejected⟩ := zero
    constructor
    · rw [counted, countOf_all awaiting]
    · rw [final, none _ (by decide)]
    · rw [accepted, none _ (by decide)]
    · rw [rejected, none _ (by decide)]
  draft other := by
    rw [state] at other
    cases other
  ready live := ⟨live, total ▸ positive, total, fun member inside => by
    rw [awaiting member inside]
    rfl⟩
  terminal _ := by
    obtain ⟨member, inside⟩ := List.exists_mem_of_length_pos positive
    refine iff_of_false (by rw [state]; decide) fun final => ?_
    have own := final member inside
    rw [awaiting member inside] at own
    cases own
  superseded other := by
    rw [state] at other
    cases other
  notCancelled other := by
    rw [state] at other
    cases other

theorem Fits.of_superseded (state : tag.state = .superseded)
    (inactive : ∀ member ∈ members, member.activeSubmitted = false)
    (counts : CountsFit members tag) : Fits members tag where
  counts := counts
  draft other := by
    rw [state] at other
    cases other
  ready live := by
    rw [state] at live
    cases live
  terminal live := by
    rw [state] at live
    cases live
  superseded _ := inactive
  notCancelled other := by
    rw [state] at other
    cases other

theorem countOf_pos (inside : member ∈ members) (same : member.state = state) :
    0 < countOf members state :=
  List.countP_pos_iff.mpr ⟨member, inside, decide_eq_true same⟩

/-- Of members handed in, all are decided on exactly when none awaits anything. -/
theorem all_final_iff (handedIn : ∀ member ∈ members, member.state.isHandedIn = true) :
    (∀ member ∈ members, member.state.isFinal = true) ↔
      countOf members .accepted + countOf members .rejected = members.length := by
  have parts := countOf_handedIn handedIn
  constructor
  · intro final
    have none : ∀ state : MembershipState, state.isFinal = false → countOf members state = 0 :=
      fun state open_ => countOf_eq_zero fun member inside same => by
        have own := final member inside
        rw [same, open_] at own
        cases own
    have receipt := none .submittedAwaitingReceipt rfl
    have review := none .warehouseReceived rfl
    omega
  · intro total member inside
    have own := handedIn member inside
    cases state : member.state with
    | accepted | rejected => rfl
    | submittedAwaitingReceipt | warehouseReceived =>
      have counted := countOf_pos inside state
      omega
    | draft | cancelled | superseded =>
      rw [state] at own
      cases own

/-- The state `_rebuild_tag_projection` computes is live. -/
theorem TagTables.rebuiltState_isLive (tables : TagTables) (faultTagId : String)
    (submittedMemberCount : Nat) :
    (tables.rebuiltState faultTagId submittedMemberCount).isLive = true := by
  simp only [TagTables.rebuiltState]
  split
  · split <;> rfl
  · split <;> rfl

theorem TagTables.rebuiltState_isTerminal (tables : TagTables) (faultTagId : String)
    (submittedMemberCount : Nat) :
    (tables.rebuiltState faultTagId submittedMemberCount).isTerminal = true ↔
      0 < submittedMemberCount ∧ submittedMemberCount ≤
        tables.countIn faultTagId .accepted + tables.countIn faultTagId .rejected +
          tables.countIn faultTagId .cancelled + tables.countIn faultTagId .superseded := by
  simp only [TagTables.rebuiltState]
  split
  · next decided =>
    refine iff_of_true ?_ decided
    split <;> rfl
  · next undecided =>
    refine iff_of_false ?_ undecided
    split <;> exact Bool.noConfusion

/-- The state and the counts `_rebuild_tag_projection` gives a live tag. -/
theorem Ready.rebuilt {tables : TagTables}
    (ready : Ready (membersOf (tables.current.map (·.view)) tag.faultTagId) tag)
    {next : TagProjection}
    (total : next.submittedMemberCount = tag.submittedMemberCount)
    (state : next.state = tables.rebuiltState tag.faultTagId tag.submittedMemberCount)
    (receipt : next.awaitingReceiptCount = tables.countIn tag.faultTagId .submittedAwaitingReceipt)
    (review : next.awaitingFinalCount = tables.countIn tag.faultTagId .warehouseReceived)
    (accepted : next.acceptedCount = tables.countIn tag.faultTagId .accepted)
    (rejected : next.rejectedCount = tables.countIn tag.faultTagId .rejected) :
    Fits (membersOf (tables.current.map (·.view)) tag.faultTagId) next := by
  have live : next.state.isLive = true := by
    rw [state]
    exact tables.rebuiltState_isLive _ _
  have apart : ∀ other : TagState, other.isLive = false → next.state ≠ other :=
    fun other dead same => by
      rw [same, dead] at live
      cases live
  have again : Ready (membersOf (tables.current.map (·.view)) tag.faultTagId) next :=
    ⟨live, total ▸ ready.positive, total ▸ ready.total, ready.handedIn⟩
  refine ⟨⟨?_, ?_, ?_, ?_⟩, fun draft => absurd draft (apart _ rfl), fun _ => again, fun _ => ?_,
    fun replaced => absurd replaced (apart _ rfl), apart _ rfl⟩
  · rw [receipt, countIn_eq]
  · rw [review, countIn_eq]
  · rw [accepted, countIn_eq]
  · rw [rejected, countIn_eq]
  · have none : ∀ wanted : MembershipState, wanted.isHandedIn = false →
        tables.countIn tag.faultTagId wanted = 0 := fun wanted outside => by
      rw [countIn_eq]
      refine countOf_eq_zero fun member inside same => ?_
      have own := ready.handedIn member inside
      rw [same, outside] at own
      cases own
    have parts := countOf_handedIn ready.handedIn
    rw [state, tables.rebuiltState_isTerminal, all_final_iff ready.handedIn,
      none .cancelled rfl, none .superseded rfl, countIn_eq, countIn_eq]
    have positive := ready.positive
    have counted := ready.total
    omega

end Soma.Inventory
