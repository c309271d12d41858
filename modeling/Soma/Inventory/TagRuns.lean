import Soma.Inventory.TagDecisions
import Soma.Inventory.ReservationRuns

/-!
Runs of the commands on Fault Tags. Between two of them anything may happen that
leaves the tables of Fault Tags alone.
-/

namespace Soma.Inventory

open Foundation Transaction Rows Execution

/-! ## Commands -/

/-- The commands that write the tables of Fault Tags. -/
inductive TagCommand where
  | createDraft (draft : TagDraft)
  | updateDraft (faultTagId : String) (baseRevision : Nat) (draft : TagDraft)
  | submit (faultTagId expectedFingerprint : String) (submission : TagSubmission)
  | correctSubmission (faultTagId submissionEventId : String)
  | receive (targets : List (String × Nat))
  | decide (decision : WarehouseDecision) (targets : List (String × Nat))
  | correctReceipt (target : String × Nat) (targetEventId : String)
  | createSuccessor (predecessorId : String) (relationType : LineageRelation) (draft : TagDraft)
  | archive (faultTagId : String) (baseRevision : Nat) (archived : Bool)

def TagCommand.execute (call : InventoryCall) :
    TagCommand → InventoryRows → Except Raised InventoryRows
  | createDraft draft => createFaultTagDraft call draft
  | updateDraft faultTagId baseRevision draft =>
    updateFaultTagDraft call faultTagId baseRevision draft
  | submit faultTagId expectedFingerprint submission =>
    acceptTagSubmission call faultTagId expectedFingerprint submission
  | correctSubmission faultTagId submissionEventId =>
    correctFalseTagSubmission call faultTagId submissionEventId
  | receive targets => recordWarehouseReceipt call targets
  | decide decision targets => recordWarehouseFinalDecision call decision targets
  | correctReceipt target targetEventId => correctFalseWarehouseReceipt call target targetEventId
  | createSuccessor predecessorId relationType draft =>
    createFaultTagSuccessor call predecessorId relationType draft
  | archive faultTagId baseRevision archived =>
    archiveOrRestoreFaultTag call faultTagId baseRevision archived

theorem TagCommand.execute_advances {rows : InventoryRows} (settled : Settled rows.tags)
    (call : InventoryCall) (command : TagCommand) :
    Gives (fun after => Advances rows.tags after.tags) (command.execute call rows) := by
  cases command with
  | createDraft draft => exact createFaultTagDraft_advances settled call draft
  | updateDraft faultTagId baseRevision draft =>
    exact updateFaultTagDraft_advances settled call faultTagId baseRevision draft
  | submit faultTagId expectedFingerprint submission =>
    exact acceptTagSubmission_advances settled call faultTagId expectedFingerprint submission
  | correctSubmission faultTagId submissionEventId =>
    exact correctFalseTagSubmission_advances settled call faultTagId submissionEventId
  | receive targets => exact recordWarehouseReceipt_advances settled call targets
  | decide decision targets =>
    exact recordWarehouseFinalDecision_advances settled call decision targets
  | correctReceipt target targetEventId =>
    exact correctFalseWarehouseReceipt_advances settled call target targetEventId
  | createSuccessor predecessorId relationType draft =>
    exact createFaultTagSuccessor_advances settled call predecessorId relationType draft
  | archive faultTagId baseRevision archived =>
    exact archiveOrRestoreFaultTag_advances settled call faultTagId baseRevision archived

/-- The tables after a command, which are as before when it raises. -/
def TagCommand.perform (command : TagCommand) (call : InventoryCall) (rows : InventoryRows) :
    InventoryRows :=
  match command.execute call rows with
  | .ok next => next
  | .error _ => rows

/-! ## Runs -/

/-- No Fault Tag yet. -/
def NoTags (rows : InventoryRows) : Prop :=
  rows.tags.tags = [] ∧ rows.tags.memberships = [] ∧ rows.tags.current = [] ∧
    rows.tags.snapshots = [] ∧ rows.tags.projections = []

/-- A command on Fault Tags, or anything that leaves their tables alone. -/
inductive TagStep : InventoryRows → InventoryRows → Prop
  | command {rows : InventoryRows} (call : InventoryCall) (command : TagCommand) :
      TagStep rows (command.perform call rows)
  | elsewhere {rows next : InventoryRows} (kept : next.tags = rows.tags) : TagStep rows next

theorem NoTags.settled (none : NoTags rows) : Settled rows.tags := by
  obtain ⟨tags, memberships, current, snapshots, projections⟩ := none
  have views : rows.tags.views = [] := by rw [TagTables.views, current, List.map_nil]
  constructor
  · rw [current]
    exact List.nodup_nil
  · rw [current, memberships]
    rfl
  · rw [projections]
    exact List.nodup_nil
  · simp [projections]
  · rw [current]
    exact ⟨List.nodup_nil, List.nodup_nil, List.nodup_nil⟩
  · simp [views]
  · simp [views]
  · simp [snapshots]
  · simp [projections]

theorem TagStep.advances {rows : InventoryRows} (settled : Settled rows.tags)
    (stepped : TagStep rows next) : Advances rows.tags next.tags := by
  cases stepped with
  | command call command =>
    unfold TagCommand.perform
    split
    · next next ran => exact (command.execute_advances settled call).returned ran
    · exact ⟨settled, .of_eq rfl⟩
  | elsewhere kept => exact ⟨kept ▸ settled, .of_eq (congrArg (·.projections) kept)⟩

theorem settled_of_reachable (reached : Reachable NoTags TagStep rows) : Settled rows.tags :=
  reached.invariant (fun rows => Settled rows.tags) (fun _ none => none.settled)
    fun _ _ settled stepped => (stepped.advances settled).settled

theorem keepsSuperseded_of_later {rows : InventoryRows} (settled : Settled rows.tags)
    (later : Later TagStep rows next) : KeepsSuperseded rows.tags next.tags :=
  Later.related (fun rows => Settled rows.tags)
    (fun (rows next : InventoryRows) => KeepsSuperseded rows.tags next.tags)
    (fun _ _ settled stepped => (stepped.advances settled).settled) (fun _ => .of_eq rfl)
    (fun {_ _ _} early late => KeepsSuperseded.trans early late)
    (fun _ _ settled stepped => (stepped.advances settled).keeps) later settled

/-! ## Agreement -/

/-- An active membership is alone with what a column names. -/
def Alone (current : List MembershipCurrent) (names : MembershipCurrent → Option String) : Prop :=
  ∀ row ∈ current, ∀ other ∈ current, row.activeSubmitted = true → other.activeSubmitted = true →
    names row ≠ none → names row = names other → row = other

/-- What the tables of Fault Tags say of one another. -/
structure TagsAgree (tables : TagTables) : Prop where
  oneOfRma : Alone tables.current fun row => some row.rmaId
  oneOfDevicePart : Alone tables.current (·.devicePartUnitId)
  oneOfSparePart : Alone tables.current (·.sparePartUnitId)
  counts : ∀ tag ∈ tables.projections,
    tag.awaitingReceiptCount = tables.countIn tag.faultTagId .submittedAwaitingReceipt ∧
    tag.awaitingFinalCount = tables.countIn tag.faultTagId .warehouseReceived ∧
    tag.acceptedCount = tables.countIn tag.faultTagId .accepted ∧
    tag.rejectedCount = tables.countIn tag.faultTagId .rejected
  terminal : ∀ tag ∈ tables.projections, tables.HasSubmissionHistory tag.faultTagId →
    tag.state ≠ .superseded → (tag.state.isTerminal = true ↔
      ∀ row ∈ tables.current, row.faultTagId = tag.faultTagId →
        row.state = .accepted ∨ row.state = .rejected)
  superseded : ∀ tag ∈ tables.projections, tag.state = .superseded →
    ∀ row ∈ tables.current, row.faultTagId = tag.faultTagId → row.activeSubmitted = false

theorem alone_of_nodup {current : List MembershipCurrent}
    {names : MembershipCurrent → Option String}
    (distinct : ((current.filter (·.activeSubmitted)).filterMap names).Nodup) :
    Alone current names := by
  intro row held other there active otherActive named same
  obtain ⟨name, own⟩ := Option.ne_none_iff_exists'.mp named
  by_contra apart
  have pairs := List.pairwise_filterMap.mp distinct
  have symmetric : Std.Symm fun one two : MembershipCurrent =>
      ∀ first, names one = some first → ∀ second, names two = some second → first ≠ second :=
    ⟨fun _ _ differ first own second others clash => differ second others first own clash.symm⟩
  have differ := pairs.forall (List.mem_filter.mpr ⟨held, active⟩)
    (List.mem_filter.mpr ⟨there, otherActive⟩) apart
  exact differ name own name (same ▸ own) rfl

theorem MembershipState.isFinal_iff {state : MembershipState} :
    state.isFinal = true ↔ state = .accepted ∨ state = .rejected := by
  cases state <;> simp [MembershipState.isFinal]

theorem TagsSound.agree (settled : Settled tables) : TagsAgree tables := by
  obtain ⟨rma, device, spare⟩ := settled.exclusive
  have member : ∀ tag : TagProjection, ∀ row ∈ tables.current, row.faultTagId = tag.faultTagId →
      row.view ∈ tables.members tag.faultTagId := fun tag row held same =>
    mem_membersOf.mpr ⟨List.mem_map_of_mem held, same⟩
  refine ⟨alone_of_nodup ?_, alone_of_nodup device, alone_of_nodup spare, fun tag inside => ?_,
    fun tag inside history replaced => ?_, fun tag inside replaced row held same => ?_⟩
  · rw [List.filterMap_eq_map']
    exact rma
  · have counts := (settled.fits tag inside not_false).counts
    rw [countIn_eq, countIn_eq, countIn_eq, countIn_eq]
    exact ⟨counts.awaitingReceipt, counts.awaitingFinal, counts.accepted, counts.rejected⟩
  · have fits := settled.fits tag inside not_false
    have views : (∀ view ∈ tables.members tag.faultTagId, view.state.isFinal = true) ↔
        ∀ row ∈ tables.current, row.faultTagId = tag.faultTagId →
          row.state = .accepted ∨ row.state = .rejected := by
      constructor
      · intro final row held same
        exact MembershipState.isFinal_iff.mp (final row.view (member tag row held same))
      · intro final view listed
        obtain ⟨row, held, rfl⟩ := List.mem_map.mp (mem_membersOf.mp listed).1
        exact MembershipState.isFinal_iff.mpr (final row held (mem_membersOf.mp listed).2)
    cases live : tag.state.isLive with
    | true => rw [fits.terminal live, views]
    | false =>
      -- Submitted and taken back: the member that left a trace is a draft.
      have draft : tag.state = .draft := by
        cases state : tag.state with
        | draft => rfl
        | submitted | inWarehouseReview | terminalCompleted | terminalWithRejected =>
          rw [state] at live
          cases live
        | cancelled => exact absurd state fits.notCancelled
        | superseded => exact absurd state replaced
      obtain ⟨view, listed⟩ := settled.member_of_trace (settled.hasTrace not_false history)
      refine iff_of_false (by rw [draft]; decide) fun final => ?_
      have own := views.mpr final view listed
      rw [fits.draft draft view listed] at own
      cases own
  · have fits := settled.fits tag inside not_false
    exact fits.superseded replaced row.view (member tag row held same)

/-- **Fault Tags and their members agree.** In every reachable state an RMA or a unit
is in one active submitted membership at most, the counts of a tag are the numbers of
its members in each state, a tag that was submitted and not replaced is terminal
exactly when the warehouse has decided on every member, a replaced tag has no active
member, and it stays replaced in every later state. -/
theorem tags_agree {rows : InventoryRows} (reached : Reachable NoTags TagStep rows) :
    TagsAgree rows.tags ∧ ∀ tag ∈ rows.tags.projections, tag.state = .superseded →
      ∀ next, Later TagStep rows next → ∃ after ∈ next.tags.projections,
        after.faultTagId = tag.faultTagId ∧ after.state = .superseded := by
  have settled := settled_of_reachable reached
  exact ⟨settled.agree, fun tag inside replaced next later =>
    keepsSuperseded_of_later settled later tag inside replaced⟩

/-! ## A sample run -/

local instance instNeZeroTagCalls : NeZero 16 := ⟨by decide⟩

def openReturn : InventoryRows := { noInventory with
  rmas := ⟨[⟨"rma", "request", "batch", 1, "BOM", "bom"⟩,
      ⟨"other", "request", "batch", 2, "BOM", "bom"⟩],
    [⟨"rma", "C1", .current⟩, ⟨"other", "C2", .current⟩], [],
    [⟨"rma", .open, none, some "unit", some "consequence", 1, none⟩,
      ⟨"other", .open, none, some "spare", some "second", 1, none⟩],
    [⟨"rma", .returnOpen, none, none, none, some "unit", true, none, 1⟩,
      ⟨"other", .returnOpen, none, none, none, some "spare", true, none, 1⟩]⟩ }

/-- A tag for the returns of two RMAs. -/
def sampleTag : TagDraft := ⟨⟨.nonPickup, none, none, none⟩, [("rma", "faulty"), ("other", "faulty")]⟩

def draftedTag : InventoryRows :=
  (TagCommand.createDraft sampleTag).perform (sampleUnitCall 1) openReturn

def submittedTag : InventoryRows :=
  (TagCommand.submit (sampleText 1 0) (String.ofList (List.replicate 64 'a'))
    ⟨none, .manual⟩).perform (sampleUnitCall 2) draftedTag

def replacedTag : InventoryRows :=
  (TagCommand.createSuccessor (sampleText 1 0) .correctsReplaces sampleTag).perform
    (sampleUnitCall 3) submittedTag

/-- A tag of two RMAs is submitted and replaced by one of the same. -/
theorem replaced_agrees :
    submittedTag.tags.current.map (·.state) =
      [.submittedAwaitingReceipt, .submittedAwaitingReceipt] ∧
    replacedTag.tags.projections.map (·.state) = [.superseded, .draft] ∧
      TagsAgree replacedTag.tags ∧ ∀ tag ∈ replacedTag.tags.projections, tag.state = .superseded →
        ∀ next, Later TagStep replacedTag next → ∃ after ∈ next.tags.projections,
          after.faultTagId = tag.faultTagId ∧ after.state = .superseded := by
  have start : Reachable NoTags TagStep openReturn := .start ⟨rfl, rfl, rfl, rfl, rfl⟩
  have drafted : Reachable NoTags TagStep draftedTag := start.step (.command _ _)
  have submitted : Reachable NoTags TagStep submittedTag := drafted.step (.command _ _)
  have replaced : Reachable NoTags TagStep replacedTag := submitted.step (.command _ _)
  exact ⟨by decide +kernel, by decide +kernel, tags_agree replaced⟩

end Soma.Inventory
