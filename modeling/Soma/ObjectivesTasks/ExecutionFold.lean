import Soma.ObjectivesTasks.Tables

/-!
The execution of a task as the fold of its event history:
`_fold_execution_history` and `_execution_authority` of
`services/task_execution.py`, which every writer goes through.

The fold first collects the base events as evidence, corrected in place by the
corrections that target them, and then runs what was not withdrawn through the
states of an execution. `fold_start`, `fold_end` and `fold_terminal` say what one
more event makes of a fold that succeeded.
-/

namespace Soma.ObjectivesTasks

open Foundation Transaction

/-- The columns of an execution projection that a fold derives. -/
structure FoldedExecution where
  state : ExecutionState
  actualStartUtc : Option Nat
  actualEndUtc : Option Nat
  effectiveTerminationUtc : Option Nat
  deriving DecidableEq

/-- A task nothing has happened to. -/
def FoldedExecution.idle : FoldedExecution := ⟨.notStarted, none, none, none⟩

structure Evidence where
  eventId : String
  eventKind : EventKind
  effectiveAtUtc : Option Nat
  withdrawn : Bool

/-- `evidence`, with `ordered_base_ids` as its order, and `seen_event_ids`. -/
structure Collected where
  evidence : List Evidence
  seenEventIds : List String

def Evidence.find? (evidence : List Evidence) (eventId : String) : Option Evidence :=
  List.find? (fun item => decide (item.eventId = eventId)) evidence

/-- The mutation of one item of the `evidence` dictionary. -/
def Evidence.replace (eventId : String) (change : Evidence → Evidence)
    (evidence : List Evidence) : List Evidence :=
  evidence.map fun item => if item.eventId = eventId then change item else item

/-- What a correction makes of the evidence it targets. -/
def correctEvidence (targetId : String) (action : CorrectionAction) (effectiveAt : Option Nat)
    (evidence : List Evidence) : Except Raised (List Evidence) := do
  match Evidence.find? evidence targetId with
  | none =>
    .error (integrityFailure "Task execution correction targets missing or later evidence")
  | some target => do
    ensure (target.withdrawn = false)
      (integrityFailure "Task execution correction targets non-current-effective evidence")
    match action, effectiveAt with
    | .replaceTime, none =>
      .error (integrityFailure "replace-time execution correction has no replacement instant")
    | .replaceTime, some instant =>
      .ok (Evidence.replace targetId (fun item => { item with effectiveAtUtc := some instant })
        evidence)
    | .withdraw, some _ =>
      .error (integrityFailure "withdraw execution correction unexpectedly carries effective time")
    | .withdraw, none =>
      .ok (Evidence.replace targetId (fun item => { item with withdrawn := true }) evidence)

def TaskExecutionEvent.evidence (event : TaskExecutionEvent) : Evidence :=
  ⟨event.executionEventId, event.eventKind, event.effectiveAtUtc, false⟩

/-- What a correction makes of the evidence. -/
def collectCorrection (evidence : List Evidence) (row : TaskExecutionEvent) (malformed : Raised) :
    Except Raised (List Evidence) :=
  match row.targetEventId, row.correctionAction with
  | some targetId, some action => correctEvidence targetId action row.effectiveAtUtc evidence
  | _, _ => .error malformed

/-- What a base event makes of the evidence. -/
def collectBase (evidence : List Evidence) (row : TaskExecutionEvent) (untimed : Raised) :
    Except Raised (List Evidence) := do
  ensure (row.eventKind ∈ [.start, .endEvent] → row.effectiveAtUtc ≠ none) untimed
  return evidence ++ [row.evidence]

/-- A base event without correction metadata, as evidence. -/
def collectPlain (evidence : List Evidence) (row : TaskExecutionEvent) :
    Except Raised (List Evidence) := do
  ensure (row.targetEventId = none ∧ row.correctionAction = none)
    (integrityFailure "non-correction execution event carries correction metadata")
  collectBase evidence row
    (integrityFailure "start/end execution evidence requires an effective instant")

/-- One round of the first loop of `_fold_execution_history`. -/
def collectEvent (collected : Collected) (row : TaskExecutionEvent) : Except Raised Collected := do
  storedUuid row.executionEventId "Task execution event identity"
  ensure (row.executionEventId ∉ collected.seenEventIds)
    (integrityFailure "Task execution history contains duplicate event identity")
  storedOptionalUuid row.targetEventId "Task execution correction target"
  let evidence ← (if row.eventKind = .correction then
      collectCorrection collected.evidence row
        (integrityFailure "Task execution correction history is malformed")
    else collectPlain collected.evidence row)
  return ⟨evidence, collected.seenEventIds ++ [row.executionEventId]⟩

/-- The first loop. -/
def collectEvidence (rows : List TaskExecutionEvent) : Except Raised Collected :=
  rows.foldlM collectEvent ⟨[], []⟩

/-- One round of the second loop, on evidence that was not withdrawn. -/
def runEvidence (current : FoldedExecution) (item : Evidence) : Except Raised FoldedExecution :=
  if item.withdrawn then .ok current
  else match item.eventKind with
  | .start => match current.state, item.effectiveAtUtc with
    | .notStarted, some instant => .ok ⟨.inProgress, some instant, none, none⟩
    | _, _ => .error (integrityFailure "Task execution history contains an invalid effective start")
  | .endEvent => match current.state, current.actualStartUtc, item.effectiveAtUtc with
    | .inProgress, some started, some instant => do
      ensure (started ≤ instant) (integrityFailure "Task execution end precedes accepted start")
      return { current with
        state := .ended, actualEndUtc := some instant, effectiveTerminationUtc := none }
    | _, _, _ => .error (integrityFailure "Task execution history contains an invalid effective end")
  | _ => do
    ensure (current.state ≠ .terminated)
      (integrityFailure "Task execution history contains multiple effective terminal consequences")
    return { current with
      state := .terminated, actualEndUtc := none, effectiveTerminationUtc := item.effectiveAtUtc }

def foldExecutionHistory (rows : List TaskExecutionEvent) : Except Raised FoldedExecution := do
  let collected ← collectEvidence rows
  collected.evidence.foldlM runEvidence .idle

structure ExecutionAuthority where
  revision : Nat
  folded : FoldedExecution
  lastEventId : Option String
  projectionExists : Bool
  deriving DecidableEq

/-- The derived columns of a projection. -/
def TaskExecutionProjection.folded (row : TaskExecutionProjection) : FoldedExecution :=
  ⟨row.executionState, row.actualStartUtc, row.actualEndUtc, row.effectiveTerminationUtc⟩

/-- `execution_revision` of the rows counts up from one. -/
def Contiguous (rows : List TaskExecutionEvent) : Prop :=
  rows.map (·.executionRevision) = List.range' 1 rows.length

instance (rows : List TaskExecutionEvent) : Decidable (Contiguous rows) :=
  inferInstanceAs (Decidable (_ = _))

/-- The failure of `_execution_authority` on a projection that is not the fold. -/
def projectionDisagrees : Raised :=
  integrityFailure "Task execution projection disagrees with folded immutable history"

/-- What `_execution_authority` makes of a projection and a history. -/
def checkedAuthority (projection : TaskExecutionProjection) (rows : List TaskExecutionEvent) :
    Except Raised ExecutionAuthority := do
  match rows.getLast? with
  | none => .error (integrityFailure "Task execution projection exists without history")
  | some last => do
    ensure (0 < projection.revision)
      (integrityFailure "Task execution projection revision is invalid")
    ensure (rows.length = projection.revision)
      (integrityFailure "Task execution projection revision does not equal immutable event count")
    ensure (Contiguous rows)
      (integrityFailure "Task execution history revision sequence is not contiguous")
    storedUuid projection.lastEventId "Task execution projection last event"
    storedUuid last.executionEventId "Task execution final event identity"
    ensure (projection.lastEventId = last.executionEventId)
      (integrityFailure
        "Task execution projection does not reference the final immutable revision event")
    let folded ← foldExecutionHistory rows
    ensure (projection.folded = folded) projectionDisagrees
    return ⟨projection.revision, projection.folded, some projection.lastEventId, true⟩

def executionAuthority (rows : TaskRows) (taskId : String) : Except Raised ExecutionAuthority :=
  match rows.executionProjection? taskId with
  | none => do
    ensure (rows.executionHistory taskId = [])
      (integrityFailure "Task execution history exists without current projection")
    return ⟨0, .idle, none, false⟩
  | some projection => checkedAuthority projection (rows.executionHistory taskId)

/-! ## One more event -/

variable {rows : List TaskExecutionEvent} {row : TaskExecutionEvent} {current : FoldedExecution}

theorem collectEvent_seen (ran : collectEvent collected row = .ok next) :
    next.seenEventIds = collected.seenEventIds ++ [row.executionEventId] := by
  simp only [collectEvent, except_ok] at ran
  obtain ⟨-, -, -, _, -, same⟩ := ran
  cases same
  rfl

theorem foldlM_seen (ran : rows.foldlM collectEvent collected = .ok next) :
    next.seenEventIds = collected.seenEventIds ++ rows.map (·.executionEventId) := by
  induction rows generalizing collected with
  | nil =>
    cases ran
    simp
  | cons row rows ih =>
    rw [List.foldlM_cons] at ran
    obtain ⟨_, first, rest⟩ := except_bind_ok.mp ran
    rw [ih rest, collectEvent_seen first]
    simp

theorem collectEvidence_seen (ran : collectEvidence rows = .ok collected) :
    collected.seenEventIds = rows.map (·.executionEventId) := by
  simpa using foldlM_seen ran

theorem collectEvent_base {collected : Collected} (canonical : isUuid4 row.executionEventId)
    (fresh : row.executionEventId ∉ collected.seenEventIds) (base : row.eventKind ≠ .correction)
    (plain : row.targetEventId = none ∧ row.correctionAction = none)
    (timed : row.eventKind ∈ [.start, .endEvent] → row.effectiveAtUtc ≠ none) :
    collectEvent collected row = .ok
      ⟨collected.evidence ++ [row.evidence], collected.seenEventIds ++ [row.executionEventId]⟩ := by
  have collects : collectPlain collected.evidence row = .ok (collected.evidence ++ [row.evidence]) :=
    except_bind_ok.mpr ⟨⟨⟩, ensure_ok.mpr plain,
      except_bind_ok.mpr ⟨⟨⟩, ensure_ok.mpr timed, rfl⟩⟩
  simp only [collectEvent, except_bind_ok, ensure_ok, storedUuid, if_neg base, plain.1]
  exact ⟨⟨⟩, canonical, ⟨⟩, fresh, ⟨⟩, rfl, _, collects, rfl⟩

/-- One more base event runs on what the history folded to. -/
theorem fold_append (folded : foldExecutionHistory rows = .ok current)
    (canonical : isUuid4 row.executionEventId)
    (fresh : row.executionEventId ∉ rows.map (·.executionEventId))
    (base : row.eventKind ≠ .correction)
    (plain : row.targetEventId = none ∧ row.correctionAction = none)
    (timed : row.eventKind ∈ [.start, .endEvent] → row.effectiveAtUtc ≠ none) :
    foldExecutionHistory (rows ++ [row]) = runEvidence current row.evidence := by
  obtain ⟨collected, gathered, ran⟩ := except_bind_ok.mp folded
  have extended : collectEvidence (rows ++ [row]) = .ok
      ⟨collected.evidence ++ [row.evidence], collected.seenEventIds ++ [row.executionEventId]⟩ := by
    rw [← collectEvidence_seen gathered] at fresh
    rw [collectEvidence, List.foldlM_append]
    refine except_bind_ok.mpr ⟨collected, gathered, ?_⟩
    rw [List.foldlM_cons]
    exact except_bind_ok.mpr ⟨_, collectEvent_base canonical fresh base plain timed, rfl⟩
  rw [foldExecutionHistory, extended]
  show (collected.evidence ++ [row.evidence]).foldlM runEvidence .idle = _
  rw [List.foldlM_append, ran]
  show [row.evidence].foldlM runEvidence current = _
  rw [List.foldlM_cons]
  cases runEvidence current row.evidence <;> rfl

theorem run_start {item : Evidence} (idle : current.state = .notStarted)
    (starts : item.eventKind = .start) (standing : item.withdrawn = false)
    (timed : item.effectiveAtUtc = some instant) :
    runEvidence current item = .ok ⟨.inProgress, some instant, none, none⟩ := by
  simp [runEvidence, idle, starts, standing, timed]

theorem run_end {item : Evidence} (running : current.state = .inProgress)
    (since : current.actualStartUtc = some started) (ordered : started ≤ instant)
    (ends : item.eventKind = .endEvent) (standing : item.withdrawn = false)
    (timed : item.effectiveAtUtc = some instant) :
    runEvidence current item = .ok ⟨.ended, some started, some instant, none⟩ := by
  simp only [runEvidence, running, since, ends, standing, timed, Bool.false_eq_true, if_false]
  exact except_bind_ok.mpr ⟨⟨⟩, ensure_ok.mpr ordered, rfl⟩

theorem run_terminal {item : Evidence} (unfinished : current.state ≠ .terminated)
    (terminal : item.eventKind ∉ [.start, .endEvent]) (standing : item.withdrawn = false) :
    runEvidence current item =
      .ok ⟨.terminated, current.actualStartUtc, none, item.effectiveAtUtc⟩ := by
  have consequence : runEvidence current item = (do
      ensure (current.state ≠ .terminated) (integrityFailure
        "Task execution history contains multiple effective terminal consequences")
      return { current with
        state := .terminated, actualEndUtc := none
        effectiveTerminationUtc := item.effectiveAtUtc }) := by
    unfold runEvidence
    cases kind : item.eventKind <;> simp_all
  rw [consequence]
  exact except_bind_ok.mpr ⟨⟨⟩, ensure_ok.mpr unfinished, rfl⟩

/-! ## What a fold is worth -/

/-- What the columns of a folded execution say together. -/
structure FoldedExecution.Shaped (execution : FoldedExecution) : Prop where
  notStarted : execution.state = .notStarted → execution = .idle
  inProgress : execution.state = .inProgress → execution.actualStartUtc.isSome ∧
    execution.actualEndUtc = none ∧ execution.effectiveTerminationUtc = none
  ended : execution.state = .ended → execution.actualStartUtc.isSome ∧
    execution.actualEndUtc.isSome ∧
    execution.actualStartUtc.getD 0 ≤ execution.actualEndUtc.getD 0 ∧
    execution.effectiveTerminationUtc = none
  terminated : execution.state = .terminated → execution.actualEndUtc = none

theorem FoldedExecution.idle_shaped : FoldedExecution.idle.Shaped := by
  constructor <;> simp [FoldedExecution.idle]

theorem runEvidence_shaped (shaped : current.Shaped) (ran : runEvidence current item = .ok next) :
    next.Shaped := by
  unfold runEvidence at ran
  split at ran
  · cases ran
    exact shaped
  · split at ran
    · split at ran
      · cases ran
        constructor <;> simp
      · cases ran
    · split at ran
      · rename_i started instant _ since _
        simp only [except_ok] at ran
        obtain ⟨ordered, same⟩ := ran
        cases same
        constructor <;> simp [since, ordered]
      · cases ran
    · obtain ⟨_, -, same⟩ := except_bind_ok.mp ran
      cases same
      constructor <;> simp

theorem fold_shaped (folded : foldExecutionHistory rows = .ok current) : current.Shaped := by
  obtain ⟨_, -, ran⟩ := except_bind_ok.mp folded
  have kept : ∀ (evidence : List Evidence) (first last : FoldedExecution), first.Shaped →
      evidence.foldlM runEvidence first = .ok last → last.Shaped := by
    intro evidence
    induction evidence with
    | nil =>
      intro first last shaped ran
      cases ran
      exact shaped
    | cons item evidence ih =>
      intro first last shaped ran
      rw [List.foldlM_cons] at ran
      obtain ⟨middle, one, rest⟩ := except_bind_ok.mp ran
      exact ih middle last (runEvidence_shaped shaped one) rest
  exact kept _ _ _ FoldedExecution.idle_shaped ran

end Soma.ObjectivesTasks
