import Soma.ProductLineSla.Classification
import Soma.Theory.Execution
import Soma.Theory.Rows

/-!
Runs of the commands that classify Service Requests, with the children of
`product_line_sla/services/batch_classification.py`. Whatever a command does, of the events
and the current classifications it writes at most one move (`SlaRows.Moves`). The row that
carries the revision is deleted when a classification ends, so a later classification starts
at revision 1 again: the revision names one classification only while no Service Request
whose classification ended is classified anew.
-/

namespace Soma.ProductLineSla

open Execution Foundation Tickets Transaction

/-! ## Batches -/

def targetRejectCodes : List String :=
  ["SLA_CLASSIFICATION_CUSTOMER_UNRESOLVED", "SLA_CLASSIFICATION_CROSS_CUSTOMER",
    "SLA_CLASSIFICATION_MAPPING_MISSING", "SLA_CLASSIFICATION_MAPPING_AMBIGUOUS",
    "SLA_CLASSIFICATION_STALE", "SLA_CLASSIFICATION_INCOMPATIBLE", "SLA_INPUT_INDETERMINATE",
    "SLA_DEPENDENCY_INDETERMINATE"]

/-- Whether the batch goes on after a child that raised. -/
def rejectsTarget : Raised → Bool
  | .soma error => error.code ∈ targetRejectCodes
  | .other => false

/-- A child of a batch, with the event id and the source reading of its command. -/
structure BatchChild where
  eventId : Uuid4
  source : SourceReading
  request : ClassificationRequest

/-- The child `apply_batch` makes of a preview item; none where the item is rejected at once
or lacks an identity. -/
def batchChild (contractProductLineId : Option String) (reasonCategory : String) (eventId : Uuid4)
    (source : SourceReading) (item : ClassificationPreview) : Option BatchChild := do
  guard (item.state ∈ [.eligible, .unchanged])
  let target ← item.targetContractProductLineId
  let mappingId := if contractProductLineId.isSome then none else item.mappingId
  guard (contractProductLineId.isNone → mappingId.isSome)
  return ⟨eventId, source, {
    serviceRequestId := item.serviceRequestId
    targetContractProductLineId := target
    previewFingerprint := item.inputFingerprint
    origin := if contractProductLineId.isSome then .manualReview else .automaticMapping
    mappingId
    reasonCategory }⟩

section Runs

variable (python : PythonLibrary) (library : TextLibrary) (unicode : Reference.UnicodeMatch)

/-- The targets of `apply_batch`, each a command of its own. -/
def applyBatch : List BatchChild → Store → Store
  | [], store => store
  | child :: children, store =>
    let (outcome, next) := commit
      (classifyServiceRequest python library unicode child.source child.eventId child.request) store
    match outcome with
    | .ok _ => applyBatch children next
    | .error raised => if rejectsTarget raised then applyBatch children next else next

/-- A command, where `meets` is asked of the rows a Service Request is classified in. -/
inductive ClassificationStep (meets : SlaRows → String → Prop) : Store → Store → Prop
  | classified {store : Store} (source : SourceReading) (eventId : Uuid4)
      (request : ClassificationRequest) : meets store.sla.rows request.serviceRequestId →
      ClassificationStep meets store
        (commit (classifyServiceRequest python library unicode source eventId request) store).2
  | cleared {store : Store} (source : SourceReading) (eventId : Uuid4) (serviceRequestId : String)
      (classificationRevision : Int) (reasonCategory : String) :
      ClassificationStep meets store
        (commit (clearServiceRequestClassification library source eventId serviceRequestId
          classificationRevision reasonCategory) store).2
  | customerSet {store : Store} (context : ChangeContext) (call : Tickets.Call)
      (serviceRequestId : String) (baseRevision : Int) (customerOrgId : Option String) :
      ClassificationStep meets store (commit (setServiceRequestCustomer context call
        serviceRequestId baseRevision customerOrgId) store).2
  | customerReviewed {store : Store} (context : ChangeContext) (call : Tickets.Call)
      (serviceRequestId customerOrgId : String) (expectedPrior : Option String) :
      ClassificationStep meets store (commit (setServiceRequestCustomerFromReview context call
        serviceRequestId customerOrgId expectedPrior) store).2
  /-- Whatever leaves the events and the current classifications alone. -/
  | elsewhere {store next : Store} : next.sla.rows.events = store.sla.rows.events →
      next.sla.rows.current = store.sla.rows.current → ClassificationStep meets store next

end Runs

def Store.Unclassified (store : Store) : Prop :=
  store.sla.rows.events = [] ∧ store.sla.rows.current = []

/-- A classification that is no renewal: the Service Request has a current classification or
never had one. -/
def SlaRows.NotRenewed (rows : SlaRows) (serviceRequestId : String) : Prop :=
  rows.current? serviceRequestId = none →
    ∀ event ∈ rows.events, event.serviceRequestId ≠ serviceRequestId

/-! ## Moves -/

/-- What one command does to the events and the current classifications. -/
inductive SlaRows.Moves (meets : SlaRows → String → Prop) (rows next : SlaRows) : Prop
  | same : next.events = rows.events → next.current = rows.current → Moves meets rows next
  | assigned (event : ClassificationEvent) (row : ClassificationCurrent) :
      meets rows event.serviceRequestId →
      event.priorContractProductLineId =
        (rows.current? event.serviceRequestId).map (·.contractProductLineId) →
      event.newContractProductLineId = some row.contractProductLineId →
      row.serviceRequestId = event.serviceRequestId →
      row.revision = ((rows.current? event.serviceRequestId).map (·.revision)).getD 0 + 1 →
      next.events = rows.events ++ [event] →
      next.current = rows.current.filter (·.serviceRequestId ≠ event.serviceRequestId) ++ [row] →
      Moves meets rows next
  | ended (event : ClassificationEvent) :
      event.priorContractProductLineId =
        (rows.current? event.serviceRequestId).map (·.contractProductLineId) →
      event.newContractProductLineId = none →
      next.events = rows.events ++ [event] →
      next.current = rows.current.filter (·.serviceRequestId ≠ event.serviceRequestId) →
      Moves meets rows next

section Commands

variable {python : PythonLibrary} {library : TextLibrary} {unicode : Reference.UnicodeMatch}
variable {meets : SlaRows → String → Prop} {store next : Store}

theorem onSla_ok {Result : Type} {body : SlaBody Result} {value : Result} :
    (onSla body).run store = .ok (value, next) ↔
      ∃ sla, body.run store.sla = .ok (value, sla) ∧ next = { store with sla } := by
  change (body.run store.sla).map _ = _ ↔ _
  cases body.run store.sla with
  | error raised => simp [Except.map]
  | ok pair =>
    obtain ⟨_, sla⟩ := pair
    simp only [Except.map, Except.ok.injEq, Prod.mk.injEq]
    constructor
    · rintro ⟨rfl, rfl⟩
      exact ⟨sla, ⟨rfl, rfl⟩, rfl⟩
    · rintro ⟨_, ⟨rfl, rfl⟩, rfl⟩
      exact ⟨rfl, rfl⟩

theorem onTickets_sla {Result : Type} {body : TicketBody Result} {value : Result}
    (ran : (onTickets body).run store = .ok (value, next)) : next.sla = store.sla := by
  change (body.run store.tickets).map _ = _ at ran
  cases found : body.run store.tickets with
  | error raised => simp [found, Except.map] at ran
  | ok pair =>
    simp only [found, Except.map, Except.ok.injEq, Prod.mk.injEq] at ran
    rw [← ran.2]

theorem endClassification_ok (ran : (endClassification event).run tables = .ok (value, after)) :
    after.rows.events = tables.rows.events ++ [event] ∧ after.rows.current =
      tables.rows.current.filter (·.serviceRequestId ≠ event.serviceRequestId) := by
  simp only [endClassification, steps_ok, writeSla_ok] at ran
  obtain ⟨_, appended, cleared⟩ := ran
  rw [cleared, SlaRows.clearCurrent, appended]
  exact ⟨rfl, rfl⟩

theorem current?_mem {rows : SlaRows} (found : rows.current? serviceRequestId = some row) :
    row ∈ rows.current ∧ row.serviceRequestId = serviceRequestId :=
  Rows.key_of_find? found

/-- What is prepared is read from the rows. -/
theorem prepareClassification_current
    (prepared : prepareClassification python unicode store source request =
      .ok (current, changes)) : current = store.sla.rows.current? request.serviceRequestId := by
  simp only [prepareClassification, except_ok] at prepared
  obtain ⟨_, -, -, -, -, sr, read, prepared⟩ := prepared
  have input : sr.current = store.sla.rows.current? request.serviceRequestId := by
    unfold srInput at read
    split at read
    · cases read
    · cases read
      rfl
  split at prepared
  · cases prepared
    exact input
  · simp only [except_ok] at prepared
    obtain ⟨-, -, done⟩ := prepared
    cases done
    exact input

theorem classifyServiceRequest_moves {source : SourceReading} {eventId : Uuid4}
    {request : ClassificationRequest} {result : ClassificationMutationResult}
    (met : meets store.sla.rows request.serviceRequestId)
    (ran : (classifyServiceRequest python library unicode source eventId request).run store =
      .ok (result, next)) : store.sla.rows.Moves meets next.sla.rows := by
  simp only [classifyServiceRequest, steps_ok] at ran
  obtain ⟨-, ⟨current, changes⟩, prepared, ran⟩ := ran
  have before := prepareClassification_current prepared
  cases changes with
  | true =>
    simp only [if_pos, steps_ok, onSla_ok, writeSla_ok] at ran
    obtain ⟨_, ⟨_, events, rfl⟩, _, ⟨_, set, rfl⟩, -, rfl⟩ := ran
    refine .assigned (classificationEvent request eventId current)
      (classified request eventId current) met ?_ rfl rfl ?_ ?_ ?_
    · rw [classificationEvent, before]
    · rw [classified, classificationEvent, before]
    · rw [set, SlaRows.setCurrent, events]
      rfl
    · rw [set, SlaRows.setCurrent, events]
      rfl
  | false =>
    simp only [Bool.false_eq_true, if_false] at ran
    cases current with
    | none => simp only [throw_ok] at ran
    | some current =>
      simp only [pure_ok] at ran
      obtain ⟨-, rfl⟩ := ran
      exact .same rfl rfl

theorem clearServiceRequestClassification_ok {source : SourceReading} {eventId : Uuid4}
    {serviceRequestId reasonCategory : String} {classificationRevision : Int}
    {result : ClassificationMutationResult}
    (ran : (clearServiceRequestClassification library source eventId serviceRequestId
      classificationRevision reasonCategory).run store = .ok (result, next)) :
    ∃ row, store.sla.rows.current? serviceRequestId = some row ∧
      row.revision = classificationRevision ∧ store.sla.rows.Moves meets next.sla.rows := by
  simp only [clearServiceRequestClassification, steps_ok] at ran
  obtain ⟨-, -, _, -, ran⟩ := ran
  cases found : store.sla.rows.current? serviceRequestId with
  | none => simp only [found, throw_ok] at ran
  | some current =>
    simp only [found, steps_ok, onSla_ok] at ran
    obtain ⟨revision, _, -, -, _, ⟨sla, ended, rfl⟩, -, rfl⟩ := ran
    obtain ⟨events, cleared⟩ := endClassification_ok ended
    have owner := (current?_mem found).2
    refine ⟨current, rfl, revision, .ended _ ?_ rfl events cleared⟩
    rw [endingEvent, owner, found]
    rfl

theorem applyCustomerChange_moves {context : ChangeContext} {serviceRequestId : String}
    {newCustomerOrgId : Option String} {tables after : SlaTables} {result : ParticipantResult}
    (ran : (applyCustomerChange context serviceRequestId newCustomerOrgId).run tables =
      .ok (result, after)) : tables.rows.Moves meets after.rows := by
  simp only [applyCustomerChange, steps_ok] at ran
  obtain ⟨-, -, ran⟩ := ran
  split at ran
  · simp only [pure_ok] at ran
    exact ran.2 ▸ .same rfl rfl
  · split at ran
    · simp only [pure_ok] at ran
      exact ran.2 ▸ .same rfl rfl
    · rename_i current found
      split at ran
      · simp only [pure_ok] at ran
        exact ran.2 ▸ .same rfl rfl
      · split at ran
        · simp only [pure_ok] at ran
          exact ran.2 ▸ .same rfl rfl
        · simp only [steps_ok] at ran
          obtain ⟨_, ended, -, rfl⟩ := ran
          obtain ⟨events, cleared⟩ := endClassification_ok ended
          refine .ended _ ?_ rfl events cleared
          rw [endingEvent, (current?_mem found).2, found]
          rfl

theorem withClassification_moves {context : ChangeContext}
    {command : Tickets.Call → TicketBody TicketMutationResult} {call : Tickets.Call}
    {serviceRequestId : String} {newCustomerOrgId : Option String} {result : TicketMutationResult}
    (ran : (withClassification context command call serviceRequestId newCustomerOrgId).run store =
      .ok (result, next)) : store.sla.rows.Moves meets next.sla.rows := by
  simp only [withClassification, steps_ok] at ran
  obtain ⟨_, _, applied, ran⟩ := ran
  have kept := onTickets_sla applied
  split at ran
  · simp only [pure_ok] at ran
    obtain ⟨-, rfl⟩ := ran
    exact .same (by rw [kept]) (by rw [kept])
  · simp only [steps_ok, onSla_ok] at ran
    obtain ⟨_, _, ⟨sla, changed, rfl⟩, -, rfl⟩ := ran
    rw [kept] at changed
    exact applyCustomerChange_moves changed

/-- A command that raises leaves the store as it was. -/
theorem commit_moves {Result : Type} {body : StoreBody Result}
    (moves : ∀ value next, body.run store = .ok (value, next) →
      store.sla.rows.Moves meets next.sla.rows) :
    store.sla.rows.Moves meets (commit body store).2.sla.rows := by
  unfold commit
  cases ran : body.run store with
  | error raised => exact .same rfl rfl
  | ok pair => exact moves _ _ ran

theorem ClassificationStep.moves
    (step : ClassificationStep python library unicode meets store next) :
    store.sla.rows.Moves meets next.sla.rows := by
  cases step with
  | classified source eventId request met =>
    exact commit_moves fun _ _ ran => classifyServiceRequest_moves met ran
  | cleared source eventId serviceRequestId classificationRevision reasonCategory =>
    refine commit_moves fun _ _ ran => ?_
    obtain ⟨_, -, -, moves⟩ := clearServiceRequestClassification_ok ran
    exact moves
  | customerSet => exact commit_moves fun _ _ ran => withClassification_moves ran
  | customerReviewed => exact commit_moves fun _ _ ran => withClassification_moves ran
  | elsewhere events current => exact .same events current

/-- A batch is a run of its children. -/
theorem applyBatch_later (children : List BatchChild) (store : Store) :
    Later (ClassificationStep python library unicode fun _ _ => True) store
      (applyBatch python library unicode children store) := by
  induction children generalizing store with
  | nil => exact .refl
  | cons child children ih =>
    have first : ClassificationStep python library unicode (fun _ _ => True) store _ :=
      .classified child.source child.eventId child.request trivial
    rw [applyBatch]
    split
    rename_i outcome next ran
    rw [ran] at first
    split
    · exact .head first (ih next)
    · split
      · exact .head first (ih next)
      · exact .single first

end Commands

/-! ## Revisions -/

section Revisions

variable {python : PythonLibrary} {library : TextLibrary} {unicode : Reference.UnicodeMatch}
variable {meets : SlaRows → String → Prop} {before rows next : SlaRows}

/-- Every current classification has an event. -/
def SlaRows.Recorded (rows : SlaRows) : Prop :=
  ∀ row ∈ rows.current, ∃ event ∈ rows.events, event.serviceRequestId = row.serviceRequestId

theorem SlaRows.Moves.recorded (moves : rows.Moves meets next) (recorded : rows.Recorded) :
    next.Recorded := by
  intro row inside
  cases moves with
  | same events current =>
    rw [current] at inside
    rw [events]
    exact recorded row inside
  | assigned event assigned _ _ _ owner _ events current =>
    rw [current, List.mem_append, List.mem_singleton] at inside
    rw [events]
    rcases inside with kept | rfl
    · obtain ⟨old, listed, same⟩ := recorded row (List.mem_of_mem_filter kept)
      exact ⟨old, List.mem_append_left _ listed, same⟩
    · exact ⟨event, by simp, owner.symm⟩
  | ended event _ _ events current =>
    rw [current] at inside
    rw [events]
    obtain ⟨old, listed, same⟩ := recorded row (List.mem_of_mem_filter inside)
    exact ⟨old, List.mem_append_left _ listed, same⟩

/-- What was current once is known later, and is current still or was numbered lower. -/
structure SlaRows.Precedes (before rows : SlaRows) : Prop where
  known : ∀ row ∈ before.current, ∃ event ∈ rows.events,
    event.serviceRequestId = row.serviceRequestId
  numbered : ∀ row ∈ before.current, ∀ other ∈ rows.current,
    other.serviceRequestId = row.serviceRequestId → other = row ∨ row.revision < other.revision

theorem SlaRows.Precedes.moves (precedes : before.Precedes rows)
    (moves : rows.Moves SlaRows.NotRenewed next) : before.Precedes next := by
  obtain ⟨known, numbered⟩ := precedes
  cases moves with
  | same events current =>
    exact ⟨by rwa [events], by rwa [current]⟩
  | ended event _ _ events current =>
    refine ⟨fun row inside => ?_, fun row inside other listed => ?_⟩
    · obtain ⟨old, present, same⟩ := known row inside
      exact ⟨old, by rw [events]; exact List.mem_append_left _ present, same⟩
    · rw [current] at listed
      exact numbered row inside other (List.mem_of_mem_filter listed)
  | assigned event assigned notRenewed _ _ owner revision events current =>
    refine ⟨fun row inside => ?_, fun row inside other listed same => ?_⟩
    · obtain ⟨old, present, same⟩ := known row inside
      exact ⟨old, by rw [events]; exact List.mem_append_left _ present, same⟩
    · rw [current] at listed
      rcases Rows.mem_concat listed with kept | rfl
      · exact numbered row inside other (List.mem_of_mem_filter kept) same
      · right
        have named : event.serviceRequestId = row.serviceRequestId := owner.symm.trans same
        cases found : rows.current? event.serviceRequestId with
        | none =>
          -- a Service Request that was classified before is not classified anew
          obtain ⟨old, present, oldSame⟩ := known row inside
          exact absurd (oldSame.trans named.symm) (notRenewed found old present)
        | some held =>
          obtain ⟨present, heldOwner⟩ := current?_mem found
          rw [found, Option.map_some, Option.getD_some] at revision
          rcases numbered row inside held present (heldOwner.trans named) with rfl | lower
          · omega
          · omega

theorem precedes_of_later {store : Store} (recorded : store.sla.rows.Recorded)
    (run : Later (ClassificationStep python library unicode SlaRows.NotRenewed) store later) :
    store.sla.rows.Precedes later.sla.rows := by
  refine Later.preserves (fun last => store.sla.rows.Precedes last.sla.rows)
    (fun _ _ precedes step => precedes.moves step.moves) run ?_
  refine ⟨recorded, fun row inside other listed same => ?_⟩
  exact .inl (List.inj_on_of_nodup_map store.sla.valid.classifications.currentOwners listed inside
    same)

/-- **A revision names one classification, as long as none is renewed.** Where no Service
Request whose classification ended is classified anew, two classifications of one revision
are one, and clearing a revision seen as current clears the classification seen. -/
theorem revision_names_one_classification (python : PythonLibrary) (library : TextLibrary)
    (unicode : Reference.UnicodeMatch) {seen store : Store}
    (reached : Reachable Store.Unclassified
      (ClassificationStep python library unicode SlaRows.NotRenewed) seen)
    (run : Later (ClassificationStep python library unicode SlaRows.NotRenewed) seen store) :
    (∀ row ∈ seen.sla.rows.current, ∀ other ∈ store.sla.rows.current,
      other.serviceRequestId = row.serviceRequestId → other.revision = row.revision →
        other.classificationEventId = row.classificationEventId) ∧
    ∀ row ∈ seen.sla.rows.current, ∀ source eventId reasonCategory result next,
      (clearServiceRequestClassification library source eventId row.serviceRequestId row.revision
        reasonCategory).run store = .ok (result, next) →
      store.sla.rows.current? row.serviceRequestId = some row := by
  have recorded : seen.sla.rows.Recorded := by
    refine reached.invariant (fun last => last.sla.rows.Recorded) ?_ ?_
    · rintro last ⟨-, none⟩ row inside
      rw [none] at inside
      cases inside
    · exact fun _ _ recorded step => step.moves.recorded recorded
  have numbered := (precedes_of_later recorded run).numbered
  constructor
  · intro row inside other listed same revision
    rcases numbered row inside other listed same with rfl | lower
    · rfl
    · omega
  · intro row inside source eventId reasonCategory result next ran
    obtain ⟨current, found, revision, -⟩ : ∃ current, _ ∧ _ ∧
        store.sla.rows.Moves (fun _ _ => True) next.sla.rows :=
      clearServiceRequestClassification_ok ran
    obtain ⟨listed, same⟩ := current?_mem found
    rcases numbered row inside current listed same with rfl | lower
    · exact found
    · omega

end Revisions

/-! ## A renewed classification -/

section Renewal

def oneDigest : PythonLibrary where
  jsonLoads _ := none
  sha256Hex _ := "0123456789abcdef0123456789abcdef0123456789abcdef0123456789abcdef"

def plainLibrary : TextLibrary := ⟨id, String.length⟩

def plainUnicode : Reference.UnicodeMatch := ⟨id, fun character => some character.toString, (· = ' ')⟩

def sampleUuid (digit : Char) : String :=
  "00000000-0000-4000-8000-00000000000" ++ digit.toString

/-- A Service Request of a Customer whose Contract has the Contract Product Lines `a` and
`b`. -/
def unclassifiedSample : Store where
  tickets := ⟨{
    rfcs := []
    hierarchyEdges := []
    serviceRequests := [⟨sampleUuid '1', 1⟩]
    srRfcLinks := []
    srCustomers := [⟨sampleUuid '2', sampleUuid '1', sampleUuid '3', .active⟩] }, by decide⟩
  sla := ⟨{
    productLines := [⟨sampleUuid '4', "Line", .active, 1⟩]
    contracts := [⟨sampleUuid '5', sampleUuid '3', "Contract", "Reference", .active, 1⟩]
    contractProductLines := [
      ⟨sampleUuid 'a', sampleUuid '5', sampleUuid '4', .active, some (sampleUuid '6'), 1⟩,
      ⟨sampleUuid 'b', sampleUuid '5', sampleUuid '4', .active, some (sampleUuid '7'), 1⟩]
    policyRevisions := [⟨sampleUuid '6', sampleUuid 'a', 1, "Policy", none⟩,
      ⟨sampleUuid '7', sampleUuid 'b', 1, "Policy", none⟩]
    policyTiers := []
    mappings := []
    events := []
    current := [] }, by decide +kernel⟩

def sampleSource : SourceReading := ⟨1, none, none⟩

def classifyingAs (target : Char) : ClassificationRequest where
  serviceRequestId := sampleUuid '1'
  targetContractProductLineId := sampleUuid target
  previewFingerprint := oneDigest.sha256Hex ""
  origin := .manualReview
  mappingId := none
  reasonCategory := "reviewed"

def classifySample (target : Char) (eventId : Uuid4) (store : Store) : Store :=
  (commit (classifyServiceRequest oneDigest plainLibrary plainUnicode sampleSource eventId
    (classifyingAs target)) store).2

def clearSample (eventId : Uuid4) (store : Store) : Store :=
  (commit (clearServiceRequestClassification plainLibrary sampleSource eventId (sampleUuid '1') 1
    "reviewed") store).2

def classifiedSample : Store := classifySample 'a' ⟨sampleUuid '8', by decide +kernel⟩ unclassifiedSample

/-- Cleared and classified again, as the other Contract Product Line. -/
def renewedSample : Store :=
  classifySample 'b' ⟨sampleUuid 'c', by decide +kernel⟩
    (clearSample ⟨sampleUuid '9', by decide +kernel⟩ classifiedSample)

/-- The two classifications have one revision, and a command that clears the first clears
the second. -/
theorem renewed_shares_revision :
    Reachable Store.Unclassified
      (ClassificationStep oneDigest plainLibrary plainUnicode fun _ _ => True) classifiedSample ∧
    Later (ClassificationStep oneDigest plainLibrary plainUnicode fun _ _ => True)
      classifiedSample renewedSample ∧
    classifiedSample.sla.rows.current =
      [⟨sampleUuid '1', sampleUuid 'a', sampleUuid '8', 1⟩] ∧
    renewedSample.sla.rows.current = [⟨sampleUuid '1', sampleUuid 'b', sampleUuid 'c', 1⟩] ∧
    (clearSample ⟨sampleUuid 'd', by decide +kernel⟩ renewedSample).sla.rows.current = [] := by
  refine ⟨.step (.start ⟨rfl, rfl⟩) (.classified _ _ _ trivial), ?_, by decide +kernel,
    by decide +kernel, by decide +kernel⟩
  exact .tail (.single (.cleared ..)) (.classified _ _ _ trivial)

/-- Classified as the other Contract Product Line without being cleared. -/
def reclassifiedSample : Store :=
  classifySample 'b' ⟨sampleUuid '7', by decide +kernel⟩ classifiedSample

/-- The first classification is named by its revision, so once it is replaced, clearing that
revision is refused. -/
theorem classifiedSample_names :
    (∀ row ∈ classifiedSample.sla.rows.current, ∀ other ∈ reclassifiedSample.sla.rows.current,
      other.serviceRequestId = row.serviceRequestId → other.revision = row.revision →
        other.classificationEventId = row.classificationEventId) ∧
    reclassifiedSample.sla.rows.current = [⟨sampleUuid '1', sampleUuid 'b', sampleUuid '7', 2⟩] ∧
    ∀ eventId result next, (clearServiceRequestClassification plainLibrary sampleSource eventId
      (sampleUuid '1') 1 "reviewed").run reclassifiedSample ≠ .ok (result, next) := by
  have stored : classifiedSample.sla.rows.current =
        [⟨sampleUuid '1', sampleUuid 'a', sampleUuid '8', 1⟩] ∧
      reclassifiedSample.sla.rows.current = [⟨sampleUuid '1', sampleUuid 'b', sampleUuid '7', 2⟩] ∧
      (classifiedSample.sla.rows.current? (sampleUuid '1')).isSome ∧
      reclassifiedSample.sla.rows.current? (sampleUuid '1') ≠
        some ⟨sampleUuid '1', sampleUuid 'a', sampleUuid '8', 1⟩ := by
    decide +kernel
  obtain ⟨current, replaced, present, gone⟩ := stored
  have reached : Reachable Store.Unclassified (ClassificationStep oneDigest plainLibrary plainUnicode
      SlaRows.NotRenewed) classifiedSample :=
    .step (.start ⟨rfl, rfl⟩) (.classified _ _ _ fun _ _ => (List.not_mem_nil · |>.elim))
  have run : Later (ClassificationStep oneDigest plainLibrary plainUnicode SlaRows.NotRenewed)
      classifiedSample reclassifiedSample :=
    .single (.classified _ _ _ fun cleared =>
      absurd (cleared : classifiedSample.sla.rows.current? (sampleUuid '1') = none)
        (Option.isSome_iff_ne_none.mp present))
  obtain ⟨names, clears⟩ := revision_names_one_classification oneDigest plainLibrary plainUnicode
    reached run
  refine ⟨names, replaced, fun eventId result next ran => gone ?_⟩
  exact clears ⟨sampleUuid '1', sampleUuid 'a', sampleUuid '8', 1⟩ (by rw [current]; simp) _ _ _ _ _
    ran

end Renewal

end Soma.ProductLineSla
