import Mathlib
import Soma.Theory.Execution
import Soma.Theory.Rows
import Soma.Reference.Review

/-!
Customer account code claims over whole runs. A Customer has one standing claim
at most, by the partial unique index. Two Customers hold one key only where a
reviewed confirmation admitted it: creating and setting refuse a key that has a
claimant, reassigning hands a claim on, so of two claims one descends from a
claim that was confirmed beside the other's (`Vouched`). And what was reviewed
is what the command finds: `customer_claims`.
-/

namespace Soma.Reference

open Foundation Transaction Execution

/-! ## Runs of the service -/

/-- One service call. -/
structure Request where
  command : CustomerCommand
  invocation : Invocation

/-- A call that was made, with the tables around it. -/
structure Entry where
  request : Request
  before : ReferenceTables
  outcome : Except Raised CommandExecutionResult
  after : ReferenceTables

/-- The durable tables and the calls that led to them. -/
structure CustomerReference where
  tables : CommandTables ReferenceTables
  history : List Entry

def CustomerReference.rows (service : CustomerReference) : ReferenceRows :=
  service.tables.domain.rows

/-- A database the migration has just prepared. -/
def CustomerReference.Migrated (service : CustomerReference) : Prop :=
  service.tables = .initial .migrated ∧ service.history = []

section Runs

variable (python : PythonLibrary) (unicode : UnicodeMatch) (registry : AuditRegistry)

/-- What a call answers, and the tables after it. -/
def CustomerReference.answer (service : CustomerReference) (request : Request) :
    Except Raised CommandExecutionResult × CommandTables ReferenceTables :=
  match request.command.call python unicode request.invocation with
  | .error raised => (.error raised, service.tables)
  | .ok call => execute python registry service.tables call

/-- The call as the history records it. -/
def CustomerReference.entry (service : CustomerReference) (request : Request) : Entry where
  request
  before := service.tables.domain
  outcome := (service.answer python unicode registry request).1
  after := (service.answer python unicode registry request).2.domain

def CustomerReference.submit (service : CustomerReference) (request : Request) :
    CustomerReference where
  tables := (service.answer python unicode registry request).2
  history := service.history ++ [service.entry python unicode registry request]

/-- Any call at any time. -/
def Submits (service next : CustomerReference) : Prop :=
  ∃ request, next = service.submit python unicode registry request

end Runs

/-- The answer is the result of running the command now, not a stored one. -/
def Accepted (outcome : Except Raised CommandExecutionResult) : Prop :=
  ∃ result, outcome = .ok result ∧ result.replayed = false

/-- The call confirmed, under review, a claim of `key` beside a standing one:
`opened` is the claim it opened and `other` one its target did not hold. -/
structure Entry.Confirms (entry : Entry) (key opened other : String) : Prop where
  accepted : Accepted entry.outcome
  confirmation : ∃ customerOrgId baseRevision accountCode hash reasonCategory contextId,
    entry.request.command = .confirmSharedClaim customerOrgId baseRevision accountCode hash
      reasonCategory contextId ∧
    (∃ claim ∈ entry.after.rows.claimants key, claim.customerOrgIdentifierId = opened ∧
      claim.customerOrgId = customerOrgId ∧
      opened ∉ entry.before.rows.identifiers.map (·.customerOrgIdentifierId)) ∧
    ∃ claim ∈ entry.before.rows.claimants key, claim.customerOrgIdentifierId = other ∧
      claim.customerOrgId ≠ customerOrgId

/-- The claim `first` was superseded by the command that opened the claim
`next` of the same key. -/
def HandedOn (identifiers : List CustomerOrgIdentifier) (first next : String) : Prop :=
  ∃ old ∈ identifiers, ∃ new ∈ identifiers, old.customerOrgIdentifierId = first ∧
    new.customerOrgIdentifierId = next ∧ old.matchKey = new.matchKey ∧
    ∃ atUtc, old.lifecycleState = .superseded atUtc new.createdCommandId

/-- The claim `last` descends from the claim `first` by reassignments. -/
def Descends (identifiers : List CustomerOrgIdentifier) : String → String → Prop :=
  Relation.ReflTransGen (HandedOn identifiers)

/-- An accepted confirmation of the key admitted a claim one of the two
descends from, beside a claim the other descends from. -/
def Vouched (history : List Entry) (identifiers : List CustomerOrgIdentifier)
    (key first second : String) : Prop :=
  ∃ entry ∈ history, ∃ opened other, entry.Confirms key opened other ∧
    ((Descends identifiers opened first ∧ Descends identifiers other second) ∨
      (Descends identifiers opened second ∧ Descends identifiers other first))

/-- Two Customers share a key only under an accepted confirmation. -/
def SharedUnderReview (history : List Entry) (rows : ReferenceRows) : Prop :=
  ∀ first ∈ rows.activeIdentifiers, ∀ second ∈ rows.activeIdentifiers,
    first.matchKey = second.matchKey → first.customerOrgId ≠ second.customerOrgId →
    Vouched history rows.identifiers first.matchKey
      first.customerOrgIdentifierId second.customerOrgIdentifierId

/-! ## The claims after a callback -/

/-- Standing claims stay or are superseded, and `added` ones are opened. -/
structure Rewrites (invocation : Invocation) (rows rows' : ReferenceRows)
    (closing : CustomerOrgIdentifier → CustomerOrgIdentifier)
    (added : List CustomerOrgIdentifier) : Prop where
  written : rows'.identifiers = rows.identifiers.map closing ++ added
  closes : ∀ row ∈ rows.identifiers, closing row = row ∨
    (row.lifecycleState = .active ∧ closing row =
      { row with lifecycleState := .superseded invocation.now invocation.commandId })

section Callbacks

variable {invocation : Invocation} {rows middle rows' : ReferenceRows}
variable {closing closing' : CustomerOrgIdentifier → CustomerOrgIdentifier}
variable {added : List CustomerOrgIdentifier} {tables next : ReferenceTables} {value : PUnit}

theorem Rewrites.of_same (same : rows'.identifiers = rows.identifiers) :
    Rewrites invocation rows rows' id [] :=
  ⟨by rw [same, List.map_id, List.append_nil], fun _ _ => .inl rfl⟩

theorem Rewrites.after_same (rewrites : Rewrites invocation middle rows' closing added)
    (same : middle.identifiers = rows.identifiers) :
    Rewrites invocation rows rows' closing added :=
  ⟨by rw [rewrites.written, same], fun row member => rewrites.closes row (same ▸ member)⟩

theorem Rewrites.then_same (rewrites : Rewrites invocation rows middle closing added)
    (same : rows'.identifiers = middle.identifiers) :
    Rewrites invocation rows rows' closing added :=
  ⟨by rw [same, rewrites.written], rewrites.closes⟩

theorem Rewrites.trans (first : Rewrites invocation rows middle closing [])
    (second : Rewrites invocation middle rows' closing' added) :
    Rewrites invocation rows rows' (fun row => closing' (closing row)) added := by
  have between := first.written
  rw [List.append_nil] at between
  constructor
  · rw [second.written, between, List.map_map]
    rfl
  · intro row member
    have written : closing row ∈ middle.identifiers := by
      rw [between]
      exact List.mem_map_of_mem member
    rcases first.closes row member with kept | ⟨standing, closed⟩
    · rw [kept]
      exact second.closes row (kept ▸ written)
    · refine .inr ⟨standing, ?_⟩
      rcases second.closes _ written with kept | ⟨again, _⟩
      · rw [kept, closed]
      · rw [closed] at again
        cases again

/-- What closing a claim, if there is one, does to a row. -/
def closedBy (invocation : Invocation) (current : Option CustomerOrgIdentifier)
    (row : CustomerOrgIdentifier) : CustomerOrgIdentifier :=
  match current with
  | none => row
  | some current =>
    row.closedAt current.customerOrgIdentifierId invocation.now invocation.commandId

theorem closeClaim_rewrites (ran : (closeClaim invocation current).run tables = .ok (value, next)) :
    Rewrites invocation tables.rows next.rows (closedBy invocation current) [] := by
  cases current with
  | none =>
    obtain ⟨_, rfl⟩ := pure_ok.mp ran
    exact .of_same rfl
  | some current =>
    constructor
    · rw [supersedeClaim_ok ran, List.append_nil]
      rfl
    · intro row member
      simp only [closeClaim, supersedeClaim, steps_ok] at ran
      obtain ⟨guarded, _⟩ := ran
      by_cases same : row.customerOrgIdentifierId = current.customerOrgIdentifierId
      · exact .inr ⟨guarded row member same, if_pos same⟩
      · exact .inl (if_neg same)

/-- The claim a callback opens. -/
def openedClaim (invocation : Invocation) (customerOrgId : String) (code : String × String) :
    CustomerOrgIdentifier :=
  ⟨invocation.identifierId.value, customerOrgId, code.1, code.2, .active, invocation.now,
    invocation.commandId⟩

variable {customerOrgId : String}

theorem openClaim_rewrites
    (ran : (openClaim invocation customerOrgId code).run tables = .ok (value, next)) :
    Rewrites invocation tables.rows next.rows id [openedClaim invocation customerOrgId code] := by
  constructor
  · rw [writeReference_ok ran, List.map_id]
    rfl
  · exact fun _ _ => .inl rfl

theorem reviseCustomer_same
    (ran : (reviseCustomer invocation customerOrgId).run tables = .ok (value, next)) :
    next.rows.identifiers = tables.rows.identifiers := by
  rw [writeReference_ok ran]
  rfl

theorem recordLifecycle_same
    (ran : (recordLifecycle invocation customerOrgId eventType reasonCategory).run tables =
      .ok (value, next)) : next.rows.identifiers = tables.rows.identifiers := by
  rw [writeReference_ok ran]
  rfl

theorem replaceClaim_rewrites
    (ran : (replaceClaim invocation customerOrgId current code).run tables = .ok (value, next)) :
    Rewrites invocation tables.rows next.rows (closedBy invocation current)
      [openedClaim invocation customerOrgId code] := by
  simp only [replaceClaim, steps_ok] at ran
  obtain ⟨_, closes, _, opens, revises⟩ := ran
  exact ((closeClaim_rewrites closes).trans (openClaim_rewrites opens)).then_same
    (reviseCustomer_same revises)

end Callbacks

/-- What a command that ran did to the claims. -/
inductive ClaimChange (request : Request) (rows rows' : ReferenceRows) : Prop
  | kept (same : rows'.identifiers = rows.identifiers)
  | opened (closing : CustomerOrgIdentifier → CustomerOrgIdentifier) (claim : CustomerOrgIdentifier)
      (rewrites : Rewrites request.invocation rows rows' closing [claim])
      (unclaimed : rows.claimants claim.matchKey = [])
  | confirmed (closing : CustomerOrgIdentifier → CustomerOrgIdentifier)
      (claim : CustomerOrgIdentifier)
      (rewrites : Rewrites request.invocation rows rows' closing [claim])
      (standing : claim.lifecycleState = .active)
      (reviewed : ∃ baseRevision accountCode hash reasonCategory contextId,
        request.command = .confirmSharedClaim claim.customerOrgId baseRevision accountCode hash
          reasonCategory contextId)
      (others : ∀ other ∈ rows.claimants claim.matchKey, other.customerOrgId ≠ claim.customerOrgId)
  | handedOn (closing : CustomerOrgIdentifier → CustomerOrgIdentifier)
      (source : CustomerOrgIdentifier) (added : Option CustomerOrgIdentifier)
      (rewrites : Rewrites request.invocation rows rows' closing added.toList)
      (owned : source ∈ rows.activeIdentifiers)
      (closed : closing source = { source with
        lifecycleState := .superseded request.invocation.now request.invocation.commandId })
      (opens : ∀ claim ∈ added, claim.matchKey = source.matchKey ∧
        claim.createdCommandId = request.invocation.commandId)

section Change

variable {request : Request} {before after : ReferenceTables}
variable {prepared : PreparedMutation ReferenceTables}

variable {claim : CustomerOrgIdentifier}

theorem mem_active {rows : ReferenceRows} : claim ∈ rows.activeIdentifiers ↔
      claim ∈ rows.identifiers ∧ claim.lifecycleState = .active := by
  simp [ReferenceRows.activeIdentifiers]

theorem mem_claimants {rows : ReferenceRows} :
    claim ∈ rows.claimants key ↔ claim ∈ rows.activeIdentifiers ∧ claim.matchKey = key := by
  simp [ReferenceRows.claimants]

theorem activeCodeClaim_of_mem (tables : ReferenceTables)
    (standing : claim ∈ tables.rows.activeIdentifiers) :
    tables.rows.activeCodeClaim claim.customerOrgId = some claim :=
  Rows.find?_eq_some tables.valid.activeClaims standing

theorem other_key (tables : ReferenceTables)
    (other : (tables.rows.activeCodeClaim customerOrgId).map (·.matchKey) ≠ some key) :
    ∀ claim ∈ tables.rows.claimants key, claim.customerOrgId ≠ customerOrgId := by
  intro claim member owner
  obtain ⟨standing, keyed⟩ := mem_claimants.mp member
  have found := activeCodeClaim_of_mem tables standing
  rw [owner] at found
  rw [found] at other
  exact other (congrArg some keyed)

theorem claimants_same {rows rows' : ReferenceRows} (same : rows'.identifiers = rows.identifiers)
    (key : String) : rows'.claimants key = rows.claimants key := by
  rw [ReferenceRows.claimants, ReferenceRows.claimants, ReferenceRows.activeIdentifiers,
    ReferenceRows.activeIdentifiers, same]

theorem initialClaim_change
    (ran : (openInitialClaim invocation code).run before = .ok (value, after)) :
    after.rows.identifiers = before.rows.identifiers ∨
    ∃ given, code = some given ∧ Rewrites invocation before.rows after.rows id
      [openedClaim invocation invocation.customerOrgId.value given] := by
  cases code with
  | none =>
    obtain ⟨_, rfl⟩ := pure_ok.mp ran
    exact .inl rfl
  | some code => exact .inr ⟨code, rfl, openClaim_rewrites ran⟩

/-- One case per command: what its callback did to the claims. -/
theorem prepared_change
    (prepares : Prepares request.invocation before.rows request.command prepared)
    (changes : prepared.Changes before after) : ClaimChange request before.rows after.rows := by
  obtain ⟨command, invocation⟩ := request
  dsimp only at prepares
  cases prepares with
  | nothing targetId revision =>
    have same : after = before := changes.applied rfl rfl
    exact .kept (by rw [same])
  | create name accountCode validName code unclaimed =>
    obtain ⟨value, ran⟩ := changes.applied rfl rfl
    simp only [applyCreate, steps_ok] at ran
    obtain ⟨inserted, inserts, _, opens, _, records, _, rfl⟩ := ran
    have first : inserted.rows.identifiers = before.rows.identifiers := by
      rw [writeReference_ok inserts]
      rfl
    have last := recordLifecycle_same records
    rcases initialClaim_change opens with same | ⟨given, rfl, rewrites⟩
    · exact .kept (by rw [last, same, first])
    · exact .opened id _ ((rewrites.after_same first).then_same last) (ensure_ok.mp unclaimed)
  | rename customerOrgId baseRevision name validName =>
    obtain ⟨value, ran⟩ := changes.applied rfl rfl
    simp only [applyDescriptive, steps_ok] at ran
    obtain ⟨_, renames, _, records, _, rfl⟩ := ran
    refine .kept ?_
    rw [recordLifecycle_same records, writeReference_ok renames]
    rfl
  | set customerOrgId baseRevision revision accountCode reasonCategory reason code other sole =>
    obtain ⟨value, ran⟩ := changes.applied rfl rfl
    simp only [applySet, steps_ok] at ran
    obtain ⟨_, replaces, _, rfl⟩ := ran
    refine .opened _ _ (replaceClaim_rewrites replaces) ?_
    exact List.eq_nil_iff_forall_not_mem.mpr fun claim member =>
      other_key before other claim member (sole claim member)
  | confirm customerOrgId baseRevision revision accountCode hash reasonCategory contextId reason
      code other =>
    obtain ⟨value, ran⟩ := changes.applied rfl rfl
    simp only [applyConfirm, steps_ok] at ran
    obtain ⟨_, replaces, _, rfl⟩ := ran
    exact .confirmed _ _ (replaceClaim_rewrites replaces) rfl ⟨_, _, _, _, _, rfl⟩
      (other_key before other)
  | reassign fromId fromRevision toId toRevision accountCode hash resultId reasonCategory contextId
      reason code source revision owned keyed =>
    obtain ⟨value, ran⟩ := changes.applied rfl rfl
    simp only [applyReassign, steps_ok] at ran
    obtain ⟨_, closes, _, settles, _, revises, _, follows, _, rfl⟩ := ran
    have source_rewrites := closeClaim_rewrites closes
    have standing := List.mem_of_find?_eq_some owned
    have source_closed : closedBy invocation (some source) source = { source with
        lifecycleState := .superseded invocation.now invocation.commandId } := if_pos rfl
    have first := reviseCustomer_same revises
    cases decided : decide
        ((before.rows.activeCodeClaim toId).map (·.matchKey) = some code.2) with
    | true =>
      rw [decided] at settles follows
      obtain ⟨_, rfl⟩ := pure_ok.mp settles
      obtain ⟨_, rfl⟩ := pure_ok.mp follows
      exact .handedOn _ source none (source_rewrites.then_same first) standing source_closed
        (by simp)
    | false =>
      rw [decided] at settles follows
      simp only [settleTarget, steps_ok] at settles
      obtain ⟨_, closes', opens⟩ := settles
      have second := reviseCustomer_same follows
      have rewrites := (source_rewrites.trans
        ((closeClaim_rewrites closes').trans (openClaim_rewrites opens))).then_same
          (second.trans first)
      refine .handedOn _ source (some _) rewrites standing ?_ ?_
      · -- the second statement finds the source superseded, or closes it the same way
        dsimp only [id]
        rw [source_closed]
        cases before.rows.activeCodeClaim toId with
        | none => rfl
        | some target =>
          simp only [closedBy, CustomerOrgIdentifier.closedAt]
          split <;> rfl
      · intro claim member
        cases member
        exact ⟨keyed.symm, rfl⟩
  | lifecycle command operation customerOrgId baseRevision reason =>
    obtain ⟨value, ran⟩ := changes.applied rfl rfl
    simp only [applyLifecycle, steps_ok] at ran
    obtain ⟨_, updates, _, records, _, rfl⟩ := ran
    refine .kept ?_
    rw [recordLifecycle_same records, writeReference_ok updates]
    rfl

end Change

/-! ## One call -/

section Submit

variable {python : PythonLibrary} {unicode : UnicodeMatch} {registry : AuditRegistry}
variable {service next : CustomerReference} {request : Request}

theorem answer_effect (python : PythonLibrary) (unicode : UnicodeMatch) (registry : AuditRegistry)
    (service : CustomerReference) (request : Request) :
    ((service.answer python unicode registry request).2 = service.tables ∧
      ¬ Accepted (service.answer python unicode registry request).1) ∨
    (Accepted (service.answer python unicode registry request).1 ∧
      Stands python unicode service.rows request.command ∧
      ∃ prepared, Prepares request.invocation service.rows request.command prepared ∧
        prepared.Changes service.tables.domain
          (service.answer python unicode registry request).2.domain) := by
  unfold CustomerReference.answer
  cases called : request.command.call python unicode request.invocation with
  | error raised => exact .inl ⟨rfl, fun ⟨_, returned, _⟩ => by cases returned⟩
  | ok call =>
    rcases execute_effect python registry service.tables call with ⟨same, replays⟩ |
      ⟨result, prepared, domain, returned, fresh, _, ran, changes⟩
    · refine .inl ⟨same, fun ⟨result, returned, fresh⟩ => ?_⟩
      rw [replays result returned] at fresh
      cases fresh
    · obtain ⟨rfl, stands, prepares⟩ := prepare_reads called ran
      exact .inr ⟨⟨result, returned, fresh⟩, stands, prepared, prepares, changes⟩

theorem submit_advances (stepped : Submits python unicode registry service next) :
    Advances service.rows next.rows := by
  obtain ⟨request, rfl⟩ := stepped
  rcases answer_effect python unicode registry service request with ⟨same, _⟩ |
    ⟨_, _, _, prepares, changes⟩
  · have unmoved : (service.submit python unicode registry request).rows = service.rows :=
      congrArg (fun tables => tables.domain.rows) same
    rw [unmoved]
    exact .refl _
  · exact prepared_advances prepares changes

theorem later_advances (later : Later (Submits python unicode registry) service next) :
    Advances service.rows next.rows := by
  induction later with
  | refl => exact .refl _
  | tail _ stepped ih => exact ih.trans (submit_advances stepped)

end Submit

/-! ## Sharing across one change -/

section Sharing

variable {invocation : Invocation} {rows rows' : ReferenceRows}
variable {closing : CustomerOrgIdentifier → CustomerOrgIdentifier}
variable {added : List CustomerOrgIdentifier}

section

variable (rewrites : Rewrites invocation rows rows' closing added)

include rewrites

theorem Rewrites.standing (member : claim ∈ rows'.activeIdentifiers) :
    claim ∈ rows.activeIdentifiers ∧ closing claim = claim ∨ claim ∈ added := by
  obtain ⟨stored, standing⟩ := mem_active.mp member
  rw [rewrites.written, List.mem_append, List.mem_map] at stored
  rcases stored with ⟨row, old, rfl⟩ | new
  · rcases rewrites.closes row old with same | ⟨_, closed⟩
    · rw [same] at standing ⊢
      exact .inl ⟨mem_active.mpr ⟨old, standing⟩, same⟩
    · rw [closed] at standing
      cases standing
  · exact .inr new

theorem Rewrites.same_claim (member : row ∈ rows.identifiers) :
    (closing row).customerOrgIdentifierId = row.customerOrgIdentifierId ∧
    (closing row).matchKey = row.matchKey ∧
    (closing row).createdCommandId = row.createdCommandId := by
  rcases rewrites.closes row member with same | ⟨_, closed⟩
  · rw [same]
    exact ⟨rfl, rfl, rfl⟩
  · rw [closed]
    exact ⟨rfl, rfl, rfl⟩

theorem Rewrites.mem_closing (member : row ∈ rows.identifiers) :
    closing row ∈ rows'.identifiers := by
  rw [rewrites.written]
  exact List.mem_append_left _ (List.mem_map_of_mem member)

theorem Rewrites.handedOn (handed : HandedOn rows.identifiers first next) :
    HandedOn rows'.identifiers first next := by
  obtain ⟨old, oldMember, new, newMember, oldId, newId, keys, atUtc, superseded⟩ := handed
  obtain ⟨newSame, newKey, newCommand⟩ := rewrites.same_claim newMember
  have unmoved : closing old = old := by
    rcases rewrites.closes old oldMember with same | ⟨standing, _⟩
    · exact same
    · rw [superseded] at standing
      cases standing
  have kept := rewrites.mem_closing oldMember
  rw [unmoved] at kept
  refine ⟨old, kept, closing new, rewrites.mem_closing newMember, oldId, newSame.trans newId,
    keys.trans newKey.symm, atUtc, ?_⟩
  rw [newCommand]
  exact superseded

theorem Rewrites.descends (descends : Descends rows.identifiers first last) :
    Descends rows'.identifiers first last :=
  Relation.ReflTransGen.mono (fun _ _ => rewrites.handedOn) _ _ descends

end

variable {history history' : List Entry} {identifiers identifiers' : List CustomerOrgIdentifier}
variable {key first second last : String}

section

variable (vouched : Vouched history identifiers key first second)

include vouched

theorem Vouched.mono (recorded : ∀ entry ∈ history, entry ∈ history')
    (kept : ∀ {first last}, Descends identifiers first last → Descends identifiers' first last) :
    Vouched history' identifiers' key first second := by
  obtain ⟨entry, member, opened, other, confirms, lines⟩ := vouched
  exact ⟨entry, recorded entry member, opened, other, confirms,
    lines.imp (fun ⟨one, two⟩ => ⟨kept one, kept two⟩) fun ⟨one, two⟩ => ⟨kept one, kept two⟩⟩

theorem Vouched.symm : Vouched history identifiers key second first := by
  obtain ⟨entry, member, opened, other, confirms, lines⟩ := vouched
  exact ⟨entry, member, opened, other, confirms, lines.symm⟩

theorem Vouched.handOn
    (handed : HandedOn identifiers second last) : Vouched history identifiers key first last := by
  obtain ⟨entry, member, opened, other, confirms, lines⟩ := vouched
  refine ⟨entry, member, opened, other, confirms, ?_⟩
  rcases lines with ⟨one, two⟩ | ⟨one, two⟩
  · exact .inl ⟨one, two.tail handed⟩
  · exact .inr ⟨one.tail handed, two⟩

end

end Sharing

section Invariant

variable {python : PythonLibrary} {unicode : UnicodeMatch} {registry : AuditRegistry}
variable {service next : CustomerReference} {history : List Entry}

theorem opened_fresh {after : ReferenceTables}
    {closing : CustomerOrgIdentifier → CustomerOrgIdentifier}
    (rewrites : Rewrites invocation rows after.rows closing [claim]) :
    claim.customerOrgIdentifierId ∉ rows.identifiers.map (·.customerOrgIdentifierId) := by
  intro taken
  obtain ⟨_, member, same⟩ := List.mem_map.mp taken
  have distinct := after.valid.identifierIds
  rw [rewrites.written, List.map_append, List.nodup_append] at distinct
  refine distinct.2.2 _ ?_ _ (List.mem_map_of_mem (List.mem_singleton_self claim)) same
  rw [← (rewrites.same_claim member).1]
  exact List.mem_map_of_mem (List.mem_map_of_mem member)

/-- Sharing stays under review across a change of the claims. -/
theorem change_shared {entry : Entry}
    (change : ClaimChange entry.request entry.before.rows entry.after.rows)
    (accepted : Accepted entry.outcome) (shared : SharedUnderReview history entry.before.rows) :
    SharedUnderReview (history ++ [entry]) entry.after.rows := by
  have recorded : ∀ past ∈ history, past ∈ history ++ [entry] :=
    fun past member => List.mem_append_left _ member
  intro first firstStands second secondStands keys owners
  cases change with
  | kept same =>
    rw [ReferenceRows.activeIdentifiers, same] at firstStands secondStands
    rw [same]
    exact (shared first firstStands second secondStands keys owners).mono recorded id
  | opened closing claim rewrites unclaimed =>
    have alone : ∀ row ∈ entry.before.rows.activeIdentifiers, row.matchKey ≠ claim.matchKey := by
      intro row standing same
      have member := mem_claimants.mpr ⟨standing, same⟩
      rw [unclaimed] at member
      cases member
    rcases rewrites.standing firstStands with ⟨firstOld, _⟩ | firstNew
    · rcases rewrites.standing secondStands with ⟨secondOld, _⟩ | secondNew
      · exact (shared first firstOld second secondOld keys owners).mono recorded rewrites.descends
      · cases List.mem_singleton.mp secondNew
        exact absurd keys (alone first firstOld)
    · cases List.mem_singleton.mp firstNew
      rcases rewrites.standing secondStands with ⟨secondOld, _⟩ | secondNew
      · exact absurd keys.symm (alone second secondOld)
      · cases List.mem_singleton.mp secondNew
        exact absurd rfl owners
  | confirmed closing claim rewrites standing reviewed others =>
    have confirms : ∀ other ∈ entry.before.rows.activeIdentifiers,
        other.matchKey = claim.matchKey →
        Vouched (history ++ [entry]) entry.after.rows.identifiers claim.matchKey
          claim.customerOrgIdentifierId other.customerOrgIdentifierId := by
      intro other member same
      obtain ⟨baseRevision, accountCode, hash, reasonCategory, contextId, command⟩ := reviewed
      have claimant := mem_claimants.mpr ⟨member, same⟩
      have stored : claim ∈ entry.after.rows.identifiers := by
        rw [rewrites.written]
        exact List.mem_concat_self
      refine ⟨entry, List.mem_concat_self, _, _,
        ⟨accepted, claim.customerOrgId, baseRevision, accountCode, hash, reasonCategory, contextId,
          command, ⟨claim, mem_claimants.mpr ⟨mem_active.mpr ⟨stored, standing⟩, rfl⟩, rfl, rfl,
            opened_fresh rewrites⟩, ⟨other, claimant, rfl, others other claimant⟩⟩, ?_⟩
      exact .inl ⟨.refl, .refl⟩
    rcases rewrites.standing firstStands with ⟨firstOld, _⟩ | firstNew
    · rcases rewrites.standing secondStands with ⟨secondOld, _⟩ | secondNew
      · exact (shared first firstOld second secondOld keys owners).mono recorded rewrites.descends
      · cases List.mem_singleton.mp secondNew
        rw [keys]
        exact (confirms first firstOld keys).symm
    · cases List.mem_singleton.mp firstNew
      rcases rewrites.standing secondStands with ⟨secondOld, _⟩ | secondNew
      · exact confirms second secondOld keys.symm
      · cases List.mem_singleton.mp secondNew
        exact absurd rfl owners
  | handedOn closing source added rewrites owned closed opens =>
    have sourceStored := (mem_active.mp owned).1
    -- the source's claim moves to the new one, and what vouched for it vouches on
    have moved : ∀ claim ∈ added.toList, ∀ other ∈ entry.before.rows.activeIdentifiers,
        closing other = other → other.matchKey = claim.matchKey →
        Vouched (history ++ [entry]) entry.after.rows.identifiers other.matchKey
          other.customerOrgIdentifierId claim.customerOrgIdentifierId := by
      intro claim new other member unmoved same
      obtain ⟨keyed, commanded⟩ := opens claim (Option.mem_toList.mp new)
      have distinct : other ≠ source := by
        intro equal
        rw [equal, closed] at unmoved
        have standing := (mem_active.mp owned).2
        rw [← unmoved] at standing
        cases standing
      have apart : other.customerOrgId ≠ source.customerOrgId := fun equal =>
        distinct (List.inj_on_of_nodup_map entry.before.valid.activeClaims member owned equal)
      have stored : claim ∈ entry.after.rows.identifiers := by
        rw [rewrites.written]
        exact List.mem_append_right _ new
      refine ((shared other member source owned (same.trans keyed) apart).mono recorded
        rewrites.descends).handOn ⟨closing source, rewrites.mem_closing sourceStored, claim, stored,
          (rewrites.same_claim sourceStored).1, rfl, ?_, entry.request.invocation.now, ?_⟩
      · rw [(rewrites.same_claim sourceStored).2.1, keyed]
      · rw [closed, commanded]
    rcases rewrites.standing firstStands with ⟨firstOld, firstKept⟩ | firstNew
    · rcases rewrites.standing secondStands with ⟨secondOld, _⟩ | secondNew
      · exact (shared first firstOld second secondOld keys owners).mono recorded rewrites.descends
      · exact moved second secondNew first firstOld firstKept keys
    · rcases rewrites.standing secondStands with ⟨secondOld, secondKept⟩ | secondNew
      · rw [keys]
        exact (moved first firstNew second secondOld secondKept keys.symm).symm
      · have same : first = second :=
          Option.some.inj ((Option.mem_toList.mp firstNew).symm.trans (Option.mem_toList.mp secondNew))
        rw [same] at owners
        exact absurd rfl owners

theorem submit_shared (stepped : Submits python unicode registry service next)
    (shared : SharedUnderReview service.history service.rows) :
    SharedUnderReview next.history next.rows := by
  obtain ⟨request, rfl⟩ := stepped
  rcases answer_effect python unicode registry service request with ⟨same, _⟩ |
    ⟨accepted, _, _, prepares, changes⟩
  · have unmoved : (service.submit python unicode registry request).rows = service.rows :=
      congrArg (fun tables => tables.domain.rows) same
    intro first firstStands second secondStands keys owners
    rw [unmoved] at firstStands secondStands ⊢
    exact (shared first firstStands second secondStands keys owners).mono
      (fun past member => List.mem_append_left _ member) id
  · have change : ClaimChange (service.entry python unicode registry request).request
        service.rows (service.answer python unicode registry request).2.domain.rows :=
      prepared_change prepares changes
    exact change_shared change accepted shared

theorem reachable_shared
    (reached : Reachable CustomerReference.Migrated (Submits python unicode registry) service) :
    SharedUnderReview service.history service.rows := by
  refine reached.invariant (fun service => SharedUnderReview service.history service.rows) ?_ ?_
  · rintro ⟨_, history⟩ ⟨rfl, rfl⟩ first firstStands
    cases firstStands
  · exact fun _ _ shared stepped => submit_shared stepped shared

end Invariant

/-- **Customer account code claims.** In every state calls of the Customer
services lead to, a Customer has at most one standing claim; two Customers hold
the same key only where an accepted confirmation admitted it; and a command
that is accepted on the hash of an earlier review, whichever calls came in
between, finds the claimants that were reviewed: no state in between had
others. -/
theorem customer_claims (python : PythonLibrary) (unicode : UnicodeMatch) (registry : AuditRegistry)
    {service : CustomerReference}
    (reached : Reachable CustomerReference.Migrated (Submits python unicode registry) service) :
    (∀ first ∈ service.rows.activeIdentifiers, ∀ second ∈ service.rows.activeIdentifiers,
      first.customerOrgId = second.customerOrgId → first = second) ∧
    SharedUnderReview service.history service.rows ∧
    ∀ reviewed snapshot later request presented,
      previewAccountCodeReview python unicode service.rows reviewed = .ok snapshot →
      Later (Submits python unicode registry) service later →
      request.command.review = some (presented, snapshot.reviewSnapshotHash) →
      Accepted (later.answer python unicode registry request).1 →
      DigestsApart python (reviewText unicode service.rows reviewed)
        (reviewText unicode later.rows presented) →
      ∀ between, Later (Submits python unicode registry) service between →
        Later (Submits python unicode registry) between later →
        ∀ key, between.rows.claimants key = service.rows.claimants key := by
  refine ⟨fun first firstStands second secondStands same => ?_, reachable_shared reached, ?_⟩
  · exact List.inj_on_of_nodup_map service.tables.domain.valid.activeClaims firstStands
      secondStands same
  · intro reviewed snapshot later request presented previewed _ presents accepted apart between
      first second key
    rcases answer_effect python unicode registry later request with ⟨_, refused⟩ | ⟨_, stands, _⟩
    · exact absurd accepted refused
    · have same := reviewed_generation previewed stands presents apart
      obtain ⟨below, kept⟩ := later_advances first
      obtain ⟨above, _⟩ := later_advances second
      exact claimants_same (kept (by omega)).1 key

/-! ## Two Customers that share a code, to see the theorem at work -/

def sampleUnicode : UnicodeMatch :=
  ⟨id, fun character => some character.toLower.toString, (· = ' ')⟩

def sampleText (digit : Fin 16) : String :=
  let run (count : Nat) : List Char :=
    List.replicate count ("0123456789abcdef".toList.getD digit.val '0')
  String.ofList (run 8 ++ '-' :: run 4 ++ '-' :: '4' :: run 3 ++ '-' :: '8' :: run 3 ++
    '-' :: run 12)

theorem sampleText_canonical : ∀ digit : Fin 16, isUuid4 (sampleText digit) = true := by
  decide +kernel

def sampleId (digit : Fin 16) : Uuid4 := ⟨sampleText digit, sampleText_canonical digit⟩

def sampleInvocation (command customer identifier event audit : Fin 16) : Invocation where
  commandId := sampleText command
  customerOrgId := sampleId customer
  identifierId := sampleId identifier
  lifecycleEventId := sampleId event
  auditEventId := sampleId audit
  now := 100
  clock := 100

local instance instNeZeroSixteen : NeZero 16 := ⟨by decide⟩

/-- The digests of the texts the sample run hashes, by their length and two characters. -/
def sampleDigests : List ((Nat × Char × Char) × String) :=
  [((204, 'b', '{'), "eecabdb662da88e9455fac629a157c96d07b35a9bbd125e0037ee9f916130a0c"),
   ((202, 'b', '{'), "b110b9e51518b51029d3b39a89607e885905bda143551b31745b30bae46d4656"),
   ((522, 'v', '8'), "ed7ce87b614fc1c74843c04eaba32e2f6f0e44f95e130d71ee28710c180cb8d2"),
   ((318, 'f', 'o'), "8c266bb41848409f9661a5cd6dbaf205d4b178900507a3ce108ca4b6cf5ea874"),
   ((85, '1', '2'), "637edcf316d93f2c19346a9b884907062453e09d885b210e141cc3094be7e0e9"),
   ((85, '1', '7'), "3b3187e10c4705848984659354b75659189200f07aa0ea470bd13af9ab1f410c"),
   ((85, '2', '7'), "54b5bca53d15894ff85fe0d50c7c01d53f8b3a73899634c163c12b71db7d9154")]

def sampleReviewHash : String := "8c266bb41848409f9661a5cd6dbaf205d4b178900507a3ce108ca4b6cf5ea874"

/-- The responses of the sample run, as they are read back. -/
def sampleResponses : List Json :=
  [response "APPLIED" 2 1, response "APPLIED" 7 1, response "APPLIED" 7 2]
where response (outcome : String) (target : Fin 16) (revision : Int) : Json :=
  .obj [("outcome", .str outcome), ("revision", .int revision), ("target_id", .str (sampleText target))]

def samplePython : PythonLibrary where
  jsonLoads text := (sampleResponses.map fun value => ((dumps value).getD "", value)).lookup text
  sha256Hex text := (sampleDigests.lookup (text.utf8ByteSize, String.Pos.Raw.get text ⟨32⟩,
    String.Pos.Raw.get text ⟨48⟩)).getD ""

def sampleCreations : List Request :=
  [⟨.create "Acme" (some "AC-1"), sampleInvocation 1 2 3 4 5⟩,
   ⟨.create "Bolt" none, sampleInvocation 6 7 3 8 9⟩]

/-- The confirmation that stands on the review of the two Customers. -/
def sampleConfirmation : Request :=
  ⟨.confirmSharedClaim (sampleText 7) 1 "AC-1" sampleReviewHash (some "same group") none,
    sampleInvocation 11 0 12 0 13⟩

def sampleService (requests : List Request) : CustomerReference :=
  requests.foldl (fun service request =>
      service.submit samplePython sampleUnicode buildReferenceAuditRegistry request)
    ⟨.initial .migrated, []⟩

/-- The second Customer holds the first's code, confirmed. -/
def sampleShared : CustomerReference := sampleService (sampleCreations ++ [sampleConfirmation])

theorem sampleService_reached (requests : List Request) :
    Reachable CustomerReference.Migrated
      (Submits samplePython sampleUnicode buildReferenceAuditRegistry) (sampleService requests) := by
  have started : ∀ service, Reachable CustomerReference.Migrated
      (Submits samplePython sampleUnicode buildReferenceAuditRegistry) service →
      Reachable CustomerReference.Migrated
        (Submits samplePython sampleUnicode buildReferenceAuditRegistry)
        (requests.foldl (fun service request =>
          service.submit samplePython sampleUnicode buildReferenceAuditRegistry request) service) := by
    induction requests with
    | nil => exact fun service reached => reached
    | cons request requests ih => exact fun service reached => ih _ (reached.step ⟨request, rfl⟩)
  exact started _ (.start ⟨rfl, rfl⟩)

/-- The theorem on a run of three calls: two Customers are created, and the
second's claim of the first's code is confirmed on a review. -/
theorem sample_shared_under_review : SharedUnderReview sampleShared.history sampleShared.rows ∧
    ∀ first ∈ sampleShared.rows.claimants "ac-1", ∀ second ∈ sampleShared.rows.claimants "ac-1",
      first.customerOrgId = second.customerOrgId → first = second := by
  obtain ⟨unique, shared, _⟩ := customer_claims samplePython sampleUnicode
    buildReferenceAuditRegistry (sampleService_reached (sampleCreations ++ [sampleConfirmation]))
  refine ⟨shared, fun first firstClaims second secondClaims => ?_⟩
  exact unique first (mem_claimants.mp firstClaims).1 second (mem_claimants.mp secondClaims).1

end Soma.Reference
