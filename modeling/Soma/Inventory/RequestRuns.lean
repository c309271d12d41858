import Soma.Inventory.RequestHistory

/-!
Runs of the commands on Spare Requests, from tables without any request. In an
orderly run the lifecycle state is what the accepted facts determine, and a
terminal state stays. Two runs that are not orderly show the two ways out: the
state of a request that gets its SR7 while the response is awaited, and a
cancelled request whose submission is declared false afterwards.
-/

namespace Soma.Inventory

open Foundation Transaction Execution Rows

/-! ## Runs -/

/-- No request and no RMA, whatever number the allocator is at. -/
def NoRequests (rows : AuthorizationRows) : Prop :=
  ∃ allocator, rows = ⟨⟨allocator, [], [], [], [], [], [], [], [], []⟩, ⟨[], [], [], [], []⟩⟩

/-- A command that is allowed in the rows it meets. -/
def RequestStep (allowed : AuthorizationRows → RequestCommand → Prop)
    (rows next : AuthorizationRows) : Prop :=
  ∃ command, allowed rows command ∧ command.execute rows = next

def AnyCommand : AuthorizationRows → RequestCommand → Prop := fun _ _ => True

theorem noRequests_sound (empty : NoRequests rows) : LifecycleSound rows := by
  obtain ⟨_, rfl⟩ := empty
  constructor
  case keyed => exact List.nodup_nil
  case references => constructor <;> simp
  case projected => simp

theorem step_lifecycle (sound : LifecycleSound rows) (stepped : RequestStep Orderly rows next) :
    LifecycleStep rows next := by
  obtain ⟨_, orderly, rfl⟩ := stepped
  exact execute_step sound orderly

theorem reachable_lifecycle (reached : Reachable NoRequests (RequestStep Orderly) rows) :
    LifecycleSound rows :=
  reached.invariant LifecycleSound (fun _ => noRequests_sound)
    (fun _ _ sound stepped => (step_lifecycle sound stepped).sound)

theorem later_log (sound : LifecycleSound rows) (later : Later (RequestStep Orderly) rows next) :
    rows.requests.events <+: next.requests.events :=
  later.related LifecycleSound (fun rows next => rows.requests.events <+: next.requests.events)
    (fun _ _ sound stepped => (step_lifecycle sound stepped).sound) (fun _ => List.prefix_rfl)
    (fun first second => first.trans second)
    (fun _ _ sound stepped => (step_lifecycle sound stepped).log) sound

theorem terminalOf_later {tables next : RequestTables} (log : tables.events <+: next.events)
    (ended : tables.terminalOf spareRequestId = some action) :
    next.terminalOf spareRequestId = some action := by
  obtain ⟨_, appended⟩ := log
  rw [RequestTables.terminalOf, ← appended, List.findSome?_append]
  rw [RequestTables.terminalOf] at ended
  rw [ended]
  rfl

theorem LifecycleSound.projection_of_terminal (sound : LifecycleSound rows)
    (ended : rows.requests.terminalOf spareRequestId = some action) :
    ∃ projection, rows.requests.projection? spareRequestId = some projection ∧
      projection.lifecycleState = action.state := by
  obtain ⟨event, inside, decides⟩ := List.exists_of_findSome?_eq_some ended
  have own : event.spareRequestId = spareRequestId := by
    by_contra other
    rw [decides_other (Ne.symm other)] at decides
    cases decides
  obtain ⟨projection, held, same⟩ := List.mem_map.mp (own ▸ sound.references.events event inside)
  refine ⟨projection, ?_, ?_⟩
  · exact same ▸ find?_eq_some sound.keyed held
  · rw [(sound.projected projection held).state, same, RequestFacts.state]
    have facts : (rows.viewOf spareRequestId).facts.terminal = some action := ended
    rw [facts]

/-! ## The law -/

/-- Each projection has the state its request's facts determine, and counts its RMAs. -/
structure FollowsFacts (rows : AuthorizationRows) : Prop where
  state : ∀ projection ∈ rows.requests.projections,
    projection.lifecycleState = (rows.factsOf projection.spareRequestId).state
  count : ∀ projection ∈ rows.requests.projections,
    projection.authorizedRmaCount = rmaCount rows.rmas.rmas projection.spareRequestId

/-- An accepted terminal event decides the state of its request in every later state. -/
def EndsForEver (allowed : AuthorizationRows → RequestCommand → Prop) (rows : AuthorizationRows) :
    Prop :=
  ∀ spareRequestId action, rows.requests.terminalOf spareRequestId = some action →
    ∀ next, Later (RequestStep allowed) rows next →
      ∃ projection, next.requests.projection? spareRequestId = some projection ∧
        projection.lifecycleState = action.state

theorem LifecycleSound.followsFacts (sound : LifecycleSound rows) : FollowsFacts rows where
  state projection inside := by
    rw [factsOf_eq (sound.projected projection inside)]
    exact (sound.projected projection inside).state
  count projection inside := (sound.projected projection inside).count

/-- In every state an orderly run reaches, the lifecycle state of each request is
the one its accepted facts determine, its RMA count is the number of its RMAs,
and once it is cancelled or rejected it stays so. -/
theorem lifecycle_follows_facts {rows : AuthorizationRows}
    (reached : Reachable NoRequests (RequestStep Orderly) rows) :
    FollowsFacts rows ∧ EndsForEver Orderly rows := by
  have sound := reachable_lifecycle reached
  refine ⟨sound.followsFacts, fun spareRequestId action ended next later => ?_⟩
  exact (reachable_lifecycle (reached.later later)).projection_of_terminal
    (terminalOf_later (later_log sound later) ended)

/-! ## Sample runs -/

def sampleDigit (index : Fin 16) : Char :=
  ['0', '1', '2', '3', '4', '5', '6', '7', '8', '9', 'a', 'b', 'c', 'd', 'e', 'f'].get index

/-- The characters of an identifier made of two hexadecimal digits. -/
def sampleCharacters (call drawn : Fin 16) : List Char :=
  let run (count : Nat) : List Char := List.replicate count (sampleDigit drawn)
  List.replicate 8 (sampleDigit call) ++ '-' :: run 4 ++ '-' :: '4' :: run 3 ++
    '-' :: '8' :: run 3 ++ '-' :: run 12

def sampleText (call drawn : Fin 16) : String := String.ofList (sampleCharacters call drawn)

theorem sampleText_canonical (call drawn : Fin 16) : isUuid4 (sampleText call drawn) = true := by
  have lower : ∀ index, isLowerHex (sampleDigit index) = true := by decide
  rw [isUuid4, sampleText, String.toList_ofList, Bool.and_eq_true, List.all_eq_true]
  refine ⟨rfl, fun index inside => ?_⟩
  have within := List.mem_range.mp inside
  interval_cases index <;> first | rfl | exact lower call | exact lower drawn

def constantDigest : PythonLibrary where
  jsonLoads := fun _ => none
  sha256Hex := fun _ => String.ofList (List.replicate 64 'a')

def sampleSurroundings : RequestSurroundings where
  contact := fun _ => some ⟨"Receiver", 1, "active", none, none⟩
  dispatchLocation := fun _ => some ⟨"Depot", .standalone, some "Street 1", "active"⟩
  serviceRequestExists := fun _ => true
  spareNeed := fun _ => some ⟨"service", "BOM", "bom", "active"⟩
  devicePartUnits := []

def sampleCall (call : Fin 16) : RequestCall where
  surroundings := sampleSurroundings
  newUuid4 drawn := ⟨sampleText call (Fin.ofNat 16 drawn), sampleText_canonical _ _⟩
  now := call.val
  python := constantDigest

def sampleDraft : DraftIntent where
  serviceRequestId := "service"
  requesterContactId := "contact"
  allocations := [("need", 2)]
  mode := .delivery
  receiverContactId := "contact"
  dispatchLocationId := "location"
  origin := .somaDraft

def sampleRequestId : String := sampleText 1 0

def noRequests : AuthorizationRows :=
  ⟨⟨some ⟨1, 1⟩, [], [], [], [], [], [], [], [], []⟩, ⟨[], [], [], [], []⟩⟩

def createSample : RequestCommand := .createDraft (sampleCall 1) sampleDraft

def submitSample : RequestCommand :=
  .acceptSubmission (sampleCall 2) sampleRequestId (String.ofList (List.replicate 64 'a')) none
    .manual

def identifySample (baseRevision : Nat) : RequestCommand :=
  .assignOrCorrectSr7 (sampleCall 3) sampleRequestId baseRevision "SR70001" .assign

def draftedRows : AuthorizationRows := createSample.execute noRequests

def submittedRows : AuthorizationRows := submitSample.execute draftedRows

/-- The draft gets its SR7 before it is submitted. -/
def identifiedRows : AuthorizationRows := (identifySample 1).execute draftedRows

def acknowledgedRows : AuthorizationRows := submitSample.execute identifiedRows

def authorizedRows : AuthorizationRows :=
  (RequestCommand.acceptBatch (sampleCall 4) sampleRequestId 3 [⟨"C100001", "BOM", "bom"⟩]
    5).execute acknowledgedRows

theorem identify_draft_orderly : Orderly draftedRows (identifySample 1) := by
  intro detail read _ _
  have drafted : (draftedRows.requests.requireDetailAt sampleRequestId 1).toOption.map
      (·.projection.lifecycleState) = some .draft := by decide +kernel
  rw [read] at drafted
  have state : detail.projection.lifecycleState = .draft := Option.some.inj drafted
  rw [state]
  simp

theorem authorized_follows_facts :
    authorizedRows.requests.projections.map (fun row =>
      (row.lifecycleState, row.submittedQuantity, row.authorizedRmaCount)) =
        [(.partiallyAuthorized, 2, 1)] ∧
      FollowsFacts authorizedRows ∧ EndsForEver Orderly authorizedRows := by
  have start : Reachable NoRequests (RequestStep Orderly) noRequests := .start ⟨_, rfl⟩
  have drafted : Reachable NoRequests (RequestStep Orderly) draftedRows :=
    start.step ⟨createSample, trivial, rfl⟩
  have identified : Reachable NoRequests (RequestStep Orderly) identifiedRows :=
    drafted.step ⟨identifySample 1, identify_draft_orderly, rfl⟩
  have acknowledged : Reachable NoRequests (RequestStep Orderly) acknowledgedRows :=
    identified.step ⟨submitSample, trivial, rfl⟩
  have authorized : Reachable NoRequests (RequestStep Orderly) authorizedRows :=
    acknowledged.step ⟨.acceptBatch (sampleCall 4) sampleRequestId 3 [⟨"C100001", "BOM", "bom"⟩] 5,
      trivial, rfl⟩
  exact ⟨by decide +kernel, lifecycle_follows_facts authorized⟩

/-! ## Runs that are not orderly -/

def answeredRows : AuthorizationRows := (identifySample 2).execute submittedRows

def cancelledRows : AuthorizationRows :=
  (RequestCommand.cancelOrReject (sampleCall 5) sampleRequestId 2 .cancelled "NOT_NEEDED").execute
    submittedRows

/-- The submission of the cancelled request is declared false. -/
def reopenedRows : AuthorizationRows :=
  (RequestCommand.correctFalseSubmission (sampleCall 6) sampleRequestId (sampleText 2 0)
    "FALSE_SUBMISSION").execute cancelledRows

/-- A request with a submission and an SR7 is not acknowledged when the SR7 came
second, and a cancelled request is in draft again after its submission is
declared false. -/
theorem unanswered_and_reopened :
    (∃ rows, Reachable NoRequests (RequestStep AnyCommand) rows ∧
      rows.requests.projections.map (·.lifecycleState) = [.submittedAwaitingResponse] ∧
      (rows.factsOf sampleRequestId).state = .acknowledged ∧ ¬ FollowsFacts rows) ∧
    ∃ rows, Reachable NoRequests (RequestStep AnyCommand) rows ∧
      rows.requests.projections.map (·.lifecycleState) = [.cancelled] ∧
      ∃ next, Later (RequestStep AnyCommand) rows next ∧
        next.requests.projections.map (·.lifecycleState) = [.draft] ∧
        ¬ EndsForEver AnyCommand rows := by
  have start : Reachable NoRequests (RequestStep AnyCommand) noRequests := .start ⟨_, rfl⟩
  have drafted : Reachable NoRequests (RequestStep AnyCommand) draftedRows :=
    start.step ⟨createSample, trivial, rfl⟩
  have submitted : Reachable NoRequests (RequestStep AnyCommand) submittedRows :=
    drafted.step ⟨submitSample, trivial, rfl⟩
  constructor
  case left =>
    have answered : Reachable NoRequests (RequestStep AnyCommand) answeredRows :=
      submitted.step ⟨identifySample 2, trivial, rfl⟩
    refine ⟨answeredRows, answered, by decide +kernel, by decide +kernel, fun follows => ?_⟩
    have differs : ∃ projection ∈ answeredRows.requests.projections, projection.lifecycleState ≠
        (answeredRows.factsOf projection.spareRequestId).state := by decide +kernel
    obtain ⟨projection, inside, different⟩ := differs
    exact different (follows.state projection inside)
  case right =>
    have cancelled : Reachable NoRequests (RequestStep AnyCommand) cancelledRows :=
      submitted.step ⟨.cancelOrReject (sampleCall 5) sampleRequestId 2 .cancelled "NOT_NEEDED",
        trivial, rfl⟩
    have reopened : Later (RequestStep AnyCommand) cancelledRows reopenedRows :=
      .single ⟨.correctFalseSubmission (sampleCall 6) sampleRequestId (sampleText 2 0)
        "FALSE_SUBMISSION", trivial, rfl⟩
    refine ⟨cancelledRows, cancelled, by decide +kernel, reopenedRows, reopened, by decide +kernel,
      fun ends => ?_⟩
    have ended : cancelledRows.requests.terminalOf sampleRequestId = some .cancelled := by
      decide +kernel
    obtain ⟨projection, found, state⟩ := ends _ _ ended _ reopened
    have drafted : (reopenedRows.requests.projection? sampleRequestId).map (·.lifecycleState) =
        some .draft := by decide +kernel
    rw [found] at drafted
    cases drafted.symm.trans (congrArg some state)

end Soma.Inventory
