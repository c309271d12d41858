import Soma.Inventory.RequestCommands
import Soma.Theory.Execution

/-!
What the lifecycle state of a Spare Request says. The accepted facts of a request
stand in its event log, its submission snapshots, its SR7 aliases and the RMAs;
the projection writes the state each command expects beside them. In every run
the two agree, but for two commands: an SR7 assigned while the response is awaited
leaves the state behind, and a false submission corrected after a terminal event
takes the state back to draft.
-/

namespace Soma.Inventory

open Foundation Transaction Execution Rows

/-! ## The facts -/

/-- The accepted facts of a request: its terminal event, the quantity of its
effective submission, its official identity and its RMAs. -/
structure RequestFacts where
  terminal : Option TerminalAction
  submittedQuantity : Option Nat
  sr7 : Option String
  rmaCount : Nat

/-- The lifecycle state the facts determine. -/
def RequestFacts.state (facts : RequestFacts) : RequestState :=
  match facts.terminal with
  | some action => action.state
  | none =>
    if 0 < facts.rmaCount then
      if facts.rmaCount < facts.submittedQuantity.getD 0 then .partiallyAuthorized
      else .authorized
    else if facts.submittedQuantity = none then .draft
    else if facts.sr7 = none then .submittedAwaitingResponse
    else .acknowledged

def RequestEventKind.terminal? : RequestEventKind → Option TerminalAction
  | .cancelled => some .cancelled
  | .rejected => some .rejected
  | _ => none

/-- What a terminal event of a request decides. -/
def RequestEvent.decides (event : RequestEvent) (spareRequestId : String) : Option TerminalAction :=
  if event.spareRequestId = spareRequestId then event.eventKind.terminal? else none

namespace RequestTables

/-- The first terminal event of a request. -/
def terminalOf (tables : RequestTables) (spareRequestId : String) : Option TerminalAction :=
  tables.events.findSome? fun event => event.decides spareRequestId

/-- The quantity a submission submitted. -/
def submissionQuantity (tables : RequestTables) (snapshot : SubmissionSnapshot) : Nat :=
  ((tables.submissionAllocations.filter fun row =>
    row.submissionSnapshotId = snapshot.submissionSnapshotId).map (·.quantity)).sum

def requestIds (tables : RequestTables) : List String :=
  tables.projections.map (·.spareRequestId)

def eventIds (tables : RequestTables) : List String := tables.events.map (·.requestEventId)

end RequestTables

/-- The facts the accepted records of a request hold. -/
def AuthorizationRows.factsOf (rows : AuthorizationRows) (spareRequestId : String) :
    RequestFacts where
  terminal := rows.requests.terminalOf spareRequestId
  submittedQuantity := (rows.requests.currentEffectiveSubmission spareRequestId).map
    rows.requests.submissionQuantity
  sr7 := rows.requests.currentSr7 spareRequestId
  rmaCount := rmaCount rows.rmas.rmas spareRequestId

/-! ## The records of one request -/

/-- The records of one request, with every submission that stands. -/
structure RequestView where
  terminal : Option TerminalAction
  standing : List (SubmissionSnapshot × Nat)
  sr7 : Option String
  rmaCount : Nat

def AuthorizationRows.viewOf (rows : AuthorizationRows) (spareRequestId : String) :
    RequestView where
  terminal := rows.requests.terminalOf spareRequestId
  standing := (rows.requests.standingSubmissions spareRequestId).map fun snapshot =>
    (snapshot, rows.requests.submissionQuantity snapshot)
  sr7 := rows.requests.currentSr7 spareRequestId
  rmaCount := rmaCount rows.rmas.rmas spareRequestId

def RequestView.facts (view : RequestView) : RequestFacts where
  terminal := view.terminal
  submittedQuantity := view.standing.head?.map (·.2)
  sr7 := view.sr7
  rmaCount := view.rmaCount

/-- A projection that says what the records of its request say. -/
structure Projects (view : RequestView) (projection : RequestProjection) : Prop where
  state : projection.lifecycleState = view.facts.state
  sr7 : projection.currentSr7 = view.sr7
  standing : view.standing.map (·.1.submissionSnapshotId) =
    projection.currentSubmissionSnapshotId.toList
  quantity : projection.submittedQuantity = (view.standing.map (·.2)).sum
  count : projection.authorizedRmaCount = view.rmaCount

/-- The declared references among the tables. -/
structure References (rows : AuthorizationRows) : Prop where
  events : ∀ event ∈ rows.requests.events, event.spareRequestId ∈ rows.requests.requestIds
  targets : ∀ event ∈ rows.requests.events, ∀ target ∈ event.targetEventId,
    target ∈ rows.requests.eventIds
  snapshots : ∀ row ∈ rows.requests.snapshots, row.spareRequestId ∈ rows.requests.requestIds ∧
    row.submissionEventId ∈ rows.requests.eventIds
  allocations : ∀ row ∈ rows.requests.submissionAllocations,
    row.submissionSnapshotId ∈ rows.requests.snapshots.map (·.submissionSnapshotId)
  aliases : ∀ row ∈ rows.requests.sr7Aliases, row.spareRequestId ∈ rows.requests.requestIds
  rmas : ∀ row ∈ rows.rmas.rmas, row.spareRequestId ∈ rows.requests.requestIds

/-- Every projection says what the records of its request say. -/
structure LifecycleSound (rows : AuthorizationRows) : Prop where
  keyed : rows.requests.requestIds.Nodup
  references : References rows
  projected : ∀ projection ∈ rows.requests.projections,
    Projects (rows.viewOf projection.spareRequestId) projection

theorem RequestView.facts_of_single (projects : Projects view projection) :
    view.standing = [] ∨ ∃ only, view.standing = [only] := by
  have listed := congrArg List.length projects.standing
  rw [List.length_map] at listed
  match same : view.standing with
  | [] => exact .inl rfl
  | [only] => exact .inr ⟨only, rfl⟩
  | _ :: _ :: _ =>
    rw [same] at listed
    cases found : projection.currentSubmissionSnapshotId with
    | none => simp [found] at listed
    | some submissionSnapshotId => simp [found] at listed

theorem factsOf_eq {rows : AuthorizationRows} {projection : RequestProjection}
    (projects : Projects (rows.viewOf projection.spareRequestId) projection) :
    rows.factsOf projection.spareRequestId = (rows.viewOf projection.spareRequestId).facts := by
  have submitted : (rows.requests.currentEffectiveSubmission projection.spareRequestId).map
      rows.requests.submissionQuantity =
        (rows.viewOf projection.spareRequestId).standing.head?.map (·.2) := by
    simp only [RequestTables.currentEffectiveSubmission, AuthorizationRows.viewOf]
    rcases RequestView.facts_of_single projects with none | ⟨only, one⟩
    · simp only [AuthorizationRows.viewOf, List.map_eq_nil_iff] at none
      rw [none]
      rfl
    · simp only [AuthorizationRows.viewOf, List.map_eq_cons_iff, List.map_eq_nil_iff] at one
      obtain ⟨_, _, found, _, rfl⟩ := one
      rw [found]
      rfl
  simp only [AuthorizationRows.factsOf, RequestView.facts, AuthorizationRows.viewOf] at submitted ⊢
  rw [submitted]

theorem LifecycleSound.replace {next : AuthorizationRows} (sound : LifecycleSound rows)
    (replaced : Replaced rows.requests.projections next.requests.projections old new)
    (same : new.spareRequestId = old.spareRequestId) (references : References next)
    (others : ∀ spareRequestId, spareRequestId ≠ old.spareRequestId →
      next.viewOf spareRequestId = rows.viewOf spareRequestId)
    (projects : Projects (next.viewOf old.spareRequestId) new) : LifecycleSound next where
  keyed := by
    rw [RequestTables.requestIds, replaced.map_eq same]
    exact sound.keyed
  references := references
  projected := by
    intro projection inside
    rcases replaced.mem_next_keyed sound.keyed same inside with rfl | ⟨before, other⟩
    · rw [same]
      exact projects
    · rw [others _ other]
      exact sound.projected projection before

/-! ## What the parts of a view depend on -/

variable {tables next : RequestTables} {event : RequestEvent}

theorem terminalOf_append (events : next.events = tables.events ++ [event])
    (spareRequestId : String) :
    next.terminalOf spareRequestId =
      (tables.terminalOf spareRequestId).or (event.decides spareRequestId) := by
  rw [RequestTables.terminalOf, events, List.findSome?_append]
  simp [RequestTables.terminalOf, List.findSome?_singleton]

variable {spareRequestId : String}

theorem decides_other (other : spareRequestId ≠ event.spareRequestId) :
    event.decides spareRequestId = none :=
  if_neg fun same => other same.symm

theorem stands_append (events : next.events = tables.events ++ [event])
    (snapshot : SubmissionSnapshot) :
    next.Stands snapshot ↔ tables.Stands snapshot ∧
      ¬ (event.spareRequestId = snapshot.spareRequestId ∧
        event.eventKind = .submissionCorrectedFalse ∧
        event.targetEventId = some snapshot.submissionEventId) := by
  simp only [RequestTables.Stands, events, List.mem_append, List.mem_singleton]
  constructor
  · intro stands
    exact ⟨fun ⟨found, inside, matched⟩ => stands ⟨found, .inl inside, matched⟩,
      fun matched => stands ⟨event, .inr rfl, matched⟩⟩
  · rintro ⟨stands, unmatched⟩ ⟨found, inside | rfl, matched⟩
    · exact stands ⟨found, inside, matched⟩
    · exact unmatched matched

theorem standing_append (events : next.events = tables.events ++ [event])
    (snapshots : next.snapshots = tables.snapshots)
    (harmless : spareRequestId ≠ event.spareRequestId ∨
      event.eventKind ≠ .submissionCorrectedFalse) :
    next.standingSubmissions spareRequestId = tables.standingSubmissions spareRequestId := by
  rw [RequestTables.standingSubmissions, RequestTables.standingSubmissions, snapshots]
  refine List.filter_congr fun row _ => decide_eq_decide.mpr ?_
  rw [stands_append events]
  constructor
  · exact fun ⟨own, stands, _⟩ => ⟨own, stands⟩
  · rintro ⟨own, stands⟩
    refine ⟨own, stands, fun ⟨same, corrects, _⟩ => ?_⟩
    rcases harmless with other | kind
    · exact other (own.symm.trans same.symm)
    · exact kind corrects

theorem standing_congr (events : next.events = tables.events)
    (snapshots : next.snapshots = tables.snapshots) (spareRequestId : String) :
    next.standingSubmissions spareRequestId = tables.standingSubmissions spareRequestId := by
  rw [RequestTables.standingSubmissions, RequestTables.standingSubmissions, snapshots]
  refine List.filter_congr fun row _ => decide_eq_decide.mpr ?_
  rw [RequestTables.Stands, RequestTables.Stands, events]

theorem submissionQuantity_congr
    (allocations : next.submissionAllocations = tables.submissionAllocations) :
    next.submissionQuantity = tables.submissionQuantity := by
  funext snapshot
  rw [RequestTables.submissionQuantity, RequestTables.submissionQuantity, allocations]

theorem currentSr7_congr (aliases : next.sr7Aliases = tables.sr7Aliases) (spareRequestId : String) :
    next.currentSr7 spareRequestId = tables.currentSr7 spareRequestId := by
  rw [RequestTables.currentSr7, RequestTables.currentSr7, aliases]

theorem viewOf_congr {rows next : AuthorizationRows}
    (terminal : next.requests.terminalOf spareRequestId =
      rows.requests.terminalOf spareRequestId)
    (standing : next.requests.standingSubmissions spareRequestId =
      rows.requests.standingSubmissions spareRequestId)
    (quantity : ∀ snapshot ∈ rows.requests.snapshots,
      next.requests.submissionQuantity snapshot = rows.requests.submissionQuantity snapshot)
    (sr7 : next.requests.currentSr7 spareRequestId = rows.requests.currentSr7 spareRequestId)
    (rmas : rmaCount next.rmas.rmas spareRequestId = rmaCount rows.rmas.rmas spareRequestId) :
    next.viewOf spareRequestId = rows.viewOf spareRequestId := by
  have quantities : (rows.requests.standingSubmissions spareRequestId).map (fun snapshot =>
      (snapshot, next.requests.submissionQuantity snapshot)) =
        (rows.requests.standingSubmissions spareRequestId).map fun snapshot =>
          (snapshot, rows.requests.submissionQuantity snapshot) :=
    List.map_congr_left fun snapshot inside => by
      rw [quantity snapshot (List.mem_filter.mp inside).1]
  simp only [AuthorizationRows.viewOf, terminal, standing, quantities, sr7, rmas]

theorem viewOf_unknown (references : References rows)
    (unknown : spareRequestId ∉ rows.requests.requestIds) :
    rows.viewOf spareRequestId = ⟨none, [], none, 0⟩ := by
  have terminal : rows.requests.terminalOf spareRequestId = none :=
    List.findSome?_eq_none_iff.mpr fun event inside => decides_other fun same =>
      unknown (same ▸ references.events event inside)
  have standing : rows.requests.standingSubmissions spareRequestId = [] := by
    refine List.filter_eq_nil_iff.mpr fun row inside matched => unknown ?_
    have own := (of_decide_eq_true matched).1
    exact own ▸ (references.snapshots row inside).1
  have sr7 : rows.requests.currentSr7 spareRequestId = none := by
    rw [RequestTables.currentSr7, Option.map_eq_none_iff, List.find?_eq_none]
    intro row inside matched
    have own := (of_decide_eq_true matched).1
    exact unknown (own ▸ references.aliases row inside)
  have rmas : rmaCount rows.rmas.rmas spareRequestId = 0 := by
    refine List.countP_eq_zero.mpr fun row inside matched => unknown ?_
    exact of_decide_eq_true matched ▸ references.rmas row inside
  simp only [AuthorizationRows.viewOf, terminal, standing, sr7, rmas, List.map_nil]

end Soma.Inventory
