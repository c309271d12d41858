import Soma.Reference.CustomerService
import Soma.Foundation.Effects

/-!
What a review hash binds. The generation counter advances with every write to a
Customer or to a claim (`Advances`), and the canonical text of the review
document states the generation (`review_generation`). So a command that
presents the hash of an earlier review, unless two different documents have one
digest, runs at the generation of the review, and no Customer or claim was
written in between (`reviewed_generation`).
-/

namespace Soma.Reference

open Foundation Transaction

/-! ## The generation counter -/

/-- The counter never goes back, and while it stands still so do the Customers
and their claims. -/
def Advances (rows rows' : ReferenceRows) : Prop :=
  rows.customerReferenceGeneration ≤ rows'.customerReferenceGeneration ∧
  (rows'.customerReferenceGeneration = rows.customerReferenceGeneration →
    rows'.identifiers = rows.identifiers ∧ rows'.customers = rows.customers)

theorem Advances.refl (rows : ReferenceRows) : Advances rows rows :=
  ⟨le_rfl, fun _ => ⟨rfl, rfl⟩⟩

theorem Advances.trans (first : Advances rows middle) (second : Advances middle rows') :
    Advances rows rows' := by
  obtain ⟨below, kept⟩ := first
  obtain ⟨above, stays⟩ := second
  refine ⟨below.trans above, fun same => ?_⟩
  have still : middle.customerReferenceGeneration = rows.customerReferenceGeneration := by omega
  obtain ⟨claims, customers⟩ := kept still
  obtain ⟨claims', customers'⟩ := stays (by omega)
  exact ⟨claims'.trans claims, customers'.trans customers⟩

theorem map_untouched {Row : Type} {rows : List Row} {touched : Row → Bool} {change : Row → Row}
    (outside : ∀ row, touched row = false → change row = row) (none : rows.countP touched = 0) :
    rows.map change = rows := by
  rw [List.countP_eq_zero] at none
  conv_rhs => rw [← List.map_id rows]
  exact List.map_congr_left fun row member =>
    outside row (by simpa using none row member)

theorem advances_insertCustomer (row : CustomerOrganization) (rows : ReferenceRows) :
    Advances rows (rows.insertCustomer row) := by
  constructor
  · exact Nat.le_add_right _ _
  · intro same
    simp [ReferenceRows.insertCustomer, ReferenceRows.advance] at same

theorem advances_insertIdentifier (row : CustomerOrgIdentifier) (rows : ReferenceRows) :
    Advances rows (rows.insertIdentifier row) := by
  constructor
  · exact Nat.le_add_right _ _
  · intro same
    simp [ReferenceRows.insertIdentifier, ReferenceRows.advance] at same

theorem advances_updateCustomer (customerOrgId : String)
    (change : CustomerOrganization → CustomerOrganization) (rows : ReferenceRows) :
    Advances rows (rows.updateCustomer customerOrgId change) := by
  constructor
  · exact Nat.le_add_right _ _
  · intro same
    refine ⟨rfl, map_untouched ?_ (Nat.add_eq_left.mp same)⟩
    intro _ other
    rw [if_neg (of_decide_eq_false other)]

theorem advances_supersede (identifierId : String) (now : Int) (commandId : String)
    (rows : ReferenceRows) : Advances rows (rows.supersedeIdentifier identifierId now commandId) := by
  constructor
  · exact Nat.le_add_right _ _
  · intro same
    refine ⟨map_untouched ?_ (Nat.add_eq_left.mp same), rfl⟩
    intro _ other
    rw [CustomerOrgIdentifier.closedAt, if_neg (of_decide_eq_false other)]

/-- Every run of the callback advances the counter with what it writes. -/
def Advancing {Result : Type} (action : DomainAction ReferenceTables Result) : Prop :=
  ∀ tables value next, action.run tables = .ok (value, next) → Advances tables.rows next.rows

section Advancing

variable {Result Final : Type}

theorem advancing_pure (value : Result) :
    Advancing (pure value : DomainAction ReferenceTables Result) := by
  intro _ _ _ ran
  obtain ⟨_, rfl⟩ := pure_ok.mp ran
  exact .refl _

theorem advancing_bind {rest : Result → DomainAction ReferenceTables Final}
    (first : Advancing action) (second : ∀ value, Advancing (rest value)) :
    Advancing (action >>= rest) := by
  intro _ value _ ran
  obtain ⟨_, _, ran, after⟩ := bind_ok.mp ran
  exact (first _ _ _ ran).trans (second _ _ _ _ after)

theorem advancing_write {change : ReferenceRows → ReferenceRows}
    (advances : ∀ rows, Advances rows (change rows)) : Advancing (writeReference change) := by
  intro _ _ _ ran
  rw [writeReference_ok ran]
  exact advances _

theorem advancing_supersedeClaim (identifierId : String) (now : Int) (commandId : String) :
    Advancing (supersedeClaim identifierId now commandId) := by
  intro _ _ _ ran
  rw [supersedeClaim_ok ran]
  exact advances_supersede _ _ _ _

variable (invocation : Invocation)

theorem advancing_open (customerOrgId : String) (code : String × String) :
    Advancing (openClaim invocation customerOrgId code) :=
  advancing_write (advances_insertIdentifier _)

theorem advancing_close (current : Option CustomerOrgIdentifier) :
    Advancing (closeClaim invocation current) := by
  cases current with
  | none => exact advancing_pure _
  | some current => exact advancing_supersedeClaim _ _ _

section

variable (customerOrgId : String)

include customerOrgId

theorem advancing_revise : Advancing (reviseCustomer invocation customerOrgId) :=
  advancing_write (advances_updateCustomer _ _)

theorem advancing_record (eventType : LifecycleEventType)
    (reasonCategory : Option String) :
    Advancing (recordLifecycle invocation customerOrgId eventType reasonCategory) :=
  advancing_write fun _ => ⟨le_rfl, fun _ => ⟨rfl, rfl⟩⟩

theorem advancing_replace (current : Option CustomerOrgIdentifier)
    (code : String × String) : Advancing (replaceClaim invocation customerOrgId current code) :=
  advancing_bind (advancing_close invocation current) fun _ =>
    advancing_bind (advancing_open invocation customerOrgId code) fun _ =>
      advancing_revise invocation customerOrgId

theorem advancing_settle (current : Option CustomerOrgIdentifier)
    (sameCode : Bool) (code : String × String) :
    Advancing (settleTarget invocation customerOrgId current sameCode code) := by
  cases sameCode with
  | true => exact advancing_pure _
  | false =>
    exact advancing_bind (advancing_close invocation current) fun _ =>
      advancing_open invocation customerOrgId code

theorem advancing_reviseTarget (sameCode : Bool) :
    Advancing (reviseTarget invocation customerOrgId sameCode) := by
  cases sameCode with
  | true => exact advancing_pure _
  | false => exact advancing_revise invocation customerOrgId

end

theorem advancing_initial (code : Option (String × String)) :
    Advancing (openInitialClaim invocation code) := by
  cases code with
  | none => exact advancing_pure _
  | some code => exact advancing_open invocation _ code

end Advancing

/-! ## What a handler prepares -/

section Prepares

variable (python : PythonLibrary) (unicode : UnicodeMatch) (invocation : Invocation)
variable (rows : ReferenceRows)

/-- The canonical text of the document a review is about. -/
def reviewText (request : ReviewRequest) : Except Raised String := do
  let (_, matchKey) ← validateAccountCode unicode request.rawAccountCode
  let (document, _, _) ← reviewDocument rows matchKey request.proposedAction
    request.targetCustomerOrgId request.fromCustomerOrgId
  canonicalJson document

/-- The hash a command presents, if it needs one, is the hash of the document
as it is now. -/
def Stands (command : CustomerCommand) : Prop :=
  ∀ request hash, command.review = some (request, hash) →
    ∃ text, reviewText unicode rows request = .ok text ∧ python.sha256Hex text = hash

/-- The mutations a command can prepare over these rows, with the checks that
passed. -/
inductive Prepares : CustomerCommand → PreparedMutation ReferenceTables → Prop
  | nothing (command : CustomerCommand) (targetId : String) (revision : Int) :
      Prepares command (unchanged targetId revision)
  | create (name : String) (accountCode : Option String) (validName : String × String)
      (code : Option (String × String)) (unclaimed : requireUnclaimed rows code = .ok ()) :
      Prepares (.create name accountCode)
        (material "customer_organization" invocation.customerOrgId.value
          invocation.customerOrgId.value 1 (applyCreate invocation validName code))
  | rename (customerOrgId : String) (baseRevision : Int) (name : String)
      (validName : String × String) :
      Prepares (.updateDescriptive customerOrgId baseRevision name)
        (material "customer_organization" customerOrgId customerOrgId (baseRevision + 1)
          (applyDescriptive invocation customerOrgId baseRevision validName))
  | set (customerOrgId : String) (baseRevision revision : Int) (accountCode : String)
      (reasonCategory reason : Option String) (code : String × String)
      (other : (rows.activeCodeClaim customerOrgId).map (·.matchKey) ≠ some code.2)
      (sole : ∀ row ∈ rows.claimants code.2, row.customerOrgId = customerOrgId) :
      Prepares (.setAccountCode customerOrgId baseRevision accountCode reasonCategory)
        (material "customer_org_identifier" invocation.identifierId.value customerOrgId (revision + 1)
          (applySet invocation customerOrgId revision (rows.activeCodeClaim customerOrgId) code reason))
  | confirm (customerOrgId : String) (baseRevision revision : Int) (accountCode hash : String)
      (reasonCategory contextId : Option String) (reason : String) (code : String × String)
      (other : (rows.activeCodeClaim customerOrgId).map (·.matchKey) ≠ some code.2) :
      Prepares (.confirmSharedClaim customerOrgId baseRevision accountCode hash reasonCategory contextId)
        (material "customer_org_identifier" invocation.identifierId.value customerOrgId (revision + 1)
          (applyConfirm invocation customerOrgId (rows.activeCodeClaim customerOrgId) code hash
            contextId reason))
  | reassign (fromId : String) (fromRevision : Int) (toId : String) (toRevision : Int)
      (accountCode hash resultId : String) (reasonCategory contextId : Option String)
      (reason : String) (code : String × String) (source : CustomerOrgIdentifier) (revision : Int)
      (owned : rows.activeCodeClaim fromId = some source) (keyed : source.matchKey = code.2) :
      Prepares (.reassign fromId fromRevision toId toRevision accountCode hash reasonCategory contextId)
        (material "customer_org_identifier" resultId toId revision
          (applyReassign invocation fromId toId source (rows.activeCodeClaim toId)
            (decide ((rows.activeCodeClaim toId).map (·.matchKey) = some code.2)) code hash
            contextId reason))
  | lifecycle (command : CustomerCommand) (operation : LifecycleOperation) (customerOrgId : String)
      (baseRevision : Int) (reason : String) :
      Prepares command
        (material "customer_organization" customerOrgId customerOrgId (baseRevision + 1)
          (applyLifecycle operation invocation customerOrgId baseRevision reason))

end Prepares

section Inversion

variable {python : PythonLibrary} {unicode : UnicodeMatch} {invocation : Invocation}
variable {call : Call ReferenceTables} {tables next : ReferenceTables}
variable {prepared : PreparedMutation ReferenceTables}

theorem validated_same (valid : validateMatchText unicode field maxUtf8Bytes value = .ok stored) :
    stored.1 = value := by
  simp only [validateMatchText, validateSingleLineText, except_ok] at valid
  obtain ⟨_, ⟨_, _, _, _, _, _, rfl⟩, _, _, rfl⟩ := valid
  rfl

theorem review_stands {rows : ReferenceRows} {codeValue target hash : String}
    {action : ProposedAction} {source : Option String} {answer : String × Nat}
    {command : CustomerCommand}
    (reviewed : validateAccountCodeReview python unicode rows codeValue action target hash source =
      .ok answer)
    (presents : command.review = some (⟨codeValue, action, target, source, 50, none⟩, hash)) :
    Stands python unicode rows command := by
  simp only [validateAccountCodeReview, sha256CanonicalJson, except_ok] at reviewed
  obtain ⟨⟨_, _⟩, valid, ⟨_, _, _⟩, documented, _, ⟨text, encoded, rfl⟩, same,
    _⟩ := reviewed
  intro _ _ presentedIs
  rw [presents] at presentedIs
  cases presentedIs
  refine ⟨text, ?_, same⟩
  simp only [reviewText, except_ok]
  exact ⟨_, valid, _, documented, encoded⟩

theorem stands_of_none {command : CustomerCommand} (unreviewed : command.review = none) :
    Stands python unicode rows command := by
  intro _ _ presents
  rw [unreviewed] at presents
  cases presents

theorem lifecycle_prepares (command : CustomerCommand)
    (called : changeLifecycle operation invocation customerOrgId baseRevision reasonCategory
      validators = .ok call) (ran : call.prepare.run tables = .ok (prepared, next)) :
    next = tables ∧ Prepares invocation tables.rows command prepared := by
  simp only [changeLifecycle, except_ok] at called
  obtain ⟨_, _, rfl⟩ := called
  simp only [prepareLifecycle, steps_ok] at ran
  obtain ⟨_, _, rfl, rfl⟩ := ran
  exact ⟨rfl, .lifecycle _ _ _ _ _⟩

/-- **Preparing only reads**, and what it prepares passed the handler's checks. -/
theorem prepare_reads {command : CustomerCommand}
    (called : command.call python unicode invocation = .ok call)
    (ran : call.prepare.run tables = .ok (prepared, next)) :
    next = tables ∧ Stands python unicode tables.rows command ∧
      Prepares invocation tables.rows command prepared := by
  cases command with
  | create =>
    simp only [CustomerCommand.call, createCustomerOrganization, except_ok] at called
    obtain ⟨validName, _, code, _, rfl⟩ := called
    simp only [prepareCreate, steps_ok] at ran
    obtain ⟨_, unclaimed, rfl, rfl⟩ := ran
    exact ⟨rfl, stands_of_none rfl, .create _ _ _ _ unclaimed⟩
  | updateDescriptive customerOrgId baseRevision =>
    simp only [CustomerCommand.call, updateDescriptiveData, except_ok] at called
    obtain ⟨validName, _, rfl⟩ := called
    simp only [prepareDescriptive, steps_ok] at ran
    obtain ⟨_, customer, _, rfl, rfl⟩ := ran
    refine ⟨rfl, stands_of_none rfl, ?_⟩
    split
    · exact .nothing _ _ _
    · exact .rename _ _ _ _
  | setAccountCode customerOrgId baseRevision _ reasonCategory =>
    simp only [CustomerCommand.call, setCustomerAccountCode, except_ok] at called
    obtain ⟨code, _, reason, _, rfl⟩ := called
    simp only [prepareSet, steps_ok] at ran
    obtain ⟨_, customer, _, claimed, rfl⟩ := ran
    refine ⟨rfl, stands_of_none rfl, ?_⟩
    unfold prepareSetClaim at claimed
    split at claimed
    · cases claimed
      exact .nothing _ _ _
    · rename_i other
      simp only [requireSoleClaimant, except_ok] at claimed
      obtain ⟨sole, rfl⟩ := claimed
      exact .set _ _ _ _ _ _ _ other sole
  | confirmSharedClaim customerOrgId baseRevision _ _ reasonCategory =>
    simp only [CustomerCommand.call, confirmCustomerAccountCodeSharedClaim, except_ok] at called
    obtain ⟨code, valid, reason, _, rfl⟩ := called
    simp only [prepareConfirm, steps_ok] at ran
    obtain ⟨_, ⟨_, _⟩, reviewed, customer, _, rfl, rfl⟩ := ran
    rw [validated_same valid] at reviewed
    refine ⟨rfl, review_stands reviewed rfl, ?_⟩
    unfold prepareConfirmClaim
    split
    · exact .nothing _ _ _
    · rename_i other
      exact .confirm _ _ _ _ _ _ _ _ _ other
  | reassign fromId _ _ _ _ _ reasonCategory =>
    simp only [CustomerCommand.call, reassignCustomerAccountCode, except_ok] at called
    obtain ⟨code, valid, reason, _, rfl⟩ := called
    simp only [prepareReassign, steps_ok] at ran
    obtain ⟨_, ⟨codeKey, _⟩, reviewed, _, _, _, _, claimed, rfl⟩ := ran
    rw [validated_same valid] at reviewed
    refine ⟨rfl, review_stands reviewed rfl, ?_⟩
    cases owned : tables.rows.activeCodeClaim fromId with
    | none =>
      rw [owned] at claimed
      cases claimed
    | some =>
      simp only [owned, prepareReassignClaims, except_ok] at claimed
      obtain ⟨keyed, rfl⟩ := claimed
      exact .reassign _ _ _ _ _ _ _ _ _ _ (code.1, codeKey) _ _ owned keyed
  | archive customerOrgId baseRevision reasonCategory validators =>
    obtain ⟨same, prepares⟩ := lifecycle_prepares
      (.archive customerOrgId baseRevision reasonCategory validators) called ran
    exact ⟨same, stands_of_none rfl, prepares⟩
  | reactivate customerOrgId baseRevision reasonCategory validators =>
    obtain ⟨same, prepares⟩ := lifecycle_prepares
      (.reactivate customerOrgId baseRevision reasonCategory validators) called ran
    exact ⟨same, stands_of_none rfl, prepares⟩

/-- A prepared mutation advances the counter with whatever it changes. -/
theorem prepared_advances (prepares : Prepares invocation rows command prepared)
    (changes : prepared.Changes before after) : Advances before.rows after.rows := by
  have material : ∀ {resultType resultId targetId : String} {revision : Int}
      {apply : DomainAction ReferenceTables (Option AuditEmission)}, Advancing apply →
      (Reference.material resultType resultId targetId revision apply).Changes before after →
      Advances before.rows after.rows := by
    intro resultType resultId targetId revision apply advancing changes
    obtain ⟨_, ran⟩ := changes.applied rfl rfl
    exact advancing _ _ _ ran
  cases prepares with
  | nothing targetId revision =>
    have same : after = before := changes.applied rfl rfl
    rw [same]
    exact .refl _
  | create =>
    exact material (advancing_bind (advancing_write (advances_insertCustomer _)) fun _ =>
      advancing_bind (advancing_initial _ _) fun _ =>
        advancing_bind (advancing_record _ _ _ _) fun _ => advancing_pure _) changes
  | rename =>
    exact material (advancing_bind (advancing_write (advances_updateCustomer _ _)) fun _ =>
      advancing_bind (advancing_record _ _ _ _) fun _ => advancing_pure _) changes
  | set =>
    exact material (advancing_bind (advancing_replace _ _ _ _) fun _ => advancing_pure _) changes
  | confirm =>
    exact material (advancing_bind (advancing_replace _ _ _ _) fun _ => advancing_pure _) changes
  | reassign =>
    exact material (advancing_bind (advancing_close _ _) fun _ =>
      advancing_bind (advancing_settle _ _ _ _ _) fun _ =>
        advancing_bind (advancing_revise _ _) fun _ =>
          advancing_bind (advancing_reviseTarget _ _ _) fun _ => advancing_pure _) changes
  | lifecycle =>
    exact material (advancing_bind (advancing_write (advances_updateCustomer _ _)) fun _ =>
      advancing_bind (advancing_record _ _ _ _) fun _ => advancing_pure _) changes

end Inversion

/-! ## What the text of a review document states -/

theorem sorted_fields (a b c d e f g h : String) :
    ([("schema", a), ("matching_profile_id", b), ("customer_reference_generation", c),
      ("normalized_code_key", d), ("proposed_action", e), ("target", f), ("source", g),
      ("claimant_count", h)].insertionSort fun left right => left.1 ≤ right.1) =
    [("claimant_count", h), ("customer_reference_generation", c), ("matching_profile_id", b),
     ("normalized_code_key", d), ("proposed_action", e), ("schema", a), ("source", g),
     ("target", f)] := by
  simp +decide [List.insertionSort, List.orderedInsert]

/-- A number and what follows its comma can be read back. -/
theorem number_comma {first second : Nat} {rest rest' : List Char}
    (same : (toString first).toList ++ ',' :: rest = (toString second).toList ++ ',' :: rest') :
    first = second ∧ rest = rest' := by
  have digits : ∀ number : Nat, ∀ character ∈ (toString number).toList,
      (character ≠ ',' : Bool) = true := by
    intro number character member
    have digit := Nat.isDigit_of_mem_toDigits (b := 10) (n := number) (by decide) (by decide)
      (by simpa [Nat.toString_eq_ofList_toDigits] using member)
    by_cases comma : character = ','
    · subst comma
      exact absurd digit (by decide)
    · simpa using comma
  have before := congrArg (List.takeWhile (· ≠ ',')) same
  have after := congrArg (List.dropWhile (· ≠ ',')) same
  rw [List.takeWhile_append_of_pos (digits first), List.takeWhile_append_of_pos (digits second)]
    at before
  rw [List.dropWhile_append_of_pos (digits first), List.dropWhile_append_of_pos (digits second)]
    at after
  have texts : Nat.toDigits 10 first = Nat.toDigits 10 second := by
    simpa [Nat.toString_eq_ofList_toDigits] using before
  refine ⟨?_, by simpa using after⟩
  simpa using congrArg (Nat.ofDigitChars 10 · 0) texts

/-- Where the two counters stand in a review document's text. -/
theorem review_text
    (encoded : canonicalJson (.obj (reviewFields generation key action target source count)) =
      .ok text) :
    ∃ rest, text.toList = "\x7b\"claimant_count\":".toList ++ ((toString count).toList ++
      ',' :: ("\"customer_reference_generation\":".toList ++ ((toString generation).toList ++
        ',' :: rest))) := by
  simp only [canonicalJson, reviewFields, dumps, dumpsFields] at encoded
  cases written : dumps target with
  | none => simp [written] at encoded
  | some =>
    cases sourced : dumps source with
    | none => simp [written, sourced] at encoded
    | some =>
      simp only [written, sourced, Option.bind_eq_bind, Option.bind_some, Option.pure_def,
        Option.map_some, sorted_fields, Except.ok.injEq, List.map_cons,
        String.intercalate_cons_cons] at encoded
      have named : quote "claimant_count" = "\"claimant_count\"" := by decide
      have counted : quote "customer_reference_generation" =
          "\"customer_reference_generation\"" := by decide
      rw [← encoded, named, counted]
      simp only [String.toList_append, List.append_assoc]
      exact ⟨_, rfl⟩

theorem review_generation {generation generation' count count' : Nat} {key key' text : String}
    {action action' : ProposedAction} {target target' source source' : Json}
    (first : canonicalJson (.obj (reviewFields generation key action target source count)) = .ok text)
    (second : canonicalJson (.obj (reviewFields generation' key' action' target' source' count')) =
      .ok text) : generation = generation' := by
  obtain ⟨_, one⟩ := review_text first
  obtain ⟨_, other⟩ := review_text second
  rw [one] at other
  obtain ⟨_, tails⟩ := number_comma (List.append_cancel_left other)
  exact (number_comma (List.append_cancel_left tails)).1

/-! ## From the review to the command -/

/-- SHA-256 tells the two texts apart. -/
def DigestsApart (python : PythonLibrary) (first second : Except Raised String) : Prop :=
  ∀ text text', first = .ok text → second = .ok text' →
    python.sha256Hex text = python.sha256Hex text' → text = text'

theorem reviewText_generation (first : reviewText unicode rows request = .ok text)
    (second : reviewText unicode rows' request' = .ok text) :
    rows.customerReferenceGeneration = rows'.customerReferenceGeneration := by
  simp only [reviewText, reviewDocument, except_ok] at first second
  obtain ⟨_, _, _, ⟨_, _, _, _, _, _, rfl⟩, encoded⟩ := first
  obtain ⟨_, _, _, ⟨_, _, _, _, _, _, rfl⟩, encoded'⟩ := second
  exact review_generation encoded encoded'

/-- A command that stands on the hash of an earlier preview runs at the
generation of that preview. -/
theorem reviewed_generation
    (previewed : previewAccountCodeReview python unicode rows request = .ok snapshot)
    (stands : Stands python unicode rows' command)
    (presents : command.review = some (presented, snapshot.reviewSnapshotHash))
    (apart : DigestsApart python (reviewText unicode rows request)
      (reviewText unicode rows' presented)) :
    rows.customerReferenceGeneration = rows'.customerReferenceGeneration := by
  simp only [previewAccountCodeReview, sha256CanonicalJson, except_ok] at previewed
  obtain ⟨_, ⟨_, _⟩, valid, ⟨_, _, _⟩, documented, _, ⟨text, encoded, rfl⟩,
    rfl⟩ := previewed
  obtain ⟨text', current, hashed⟩ := stands _ _ presents
  have reviewed : reviewText unicode rows request = .ok text := by
    simp only [reviewText, except_ok]
    exact ⟨_, valid, _, documented, encoded⟩
  have same := apart text text' reviewed current hashed.symm
  rw [← same] at current
  exact reviewText_generation reviewed current

end Soma.Reference
