import Soma.Theory.Execution
import Soma.Theory.Rows
import Soma.ObjectivesTasks.Execution
import Soma.ObjectivesTasks.Rebuild

/-!
The execution projection of every task is the fold of its event history.

A command appends one event to a task and writes the projection the fold of the
longer history has, so the two agree in every reachable state and
`_execution_authority` never refuses to read one.
-/

namespace Soma.ObjectivesTasks

open Execution Foundation Transaction Rows

variable {rows next : TaskRows} {taskId : String}

/-! ## The invariant -/

/-- A projection that says what the history of its task says. -/
structure Agrees (history : List TaskExecutionEvent) (projection : TaskExecutionProjection) :
    Prop where
  revision : projection.revision = history.length
  last : history.getLast?.map (·.executionEventId) = some projection.lastEventId
  folded : foldExecutionHistory history = .ok projection.folded

/-- Without a projection there is no history. -/
def Projected (history : List TaskExecutionEvent) : Option TaskExecutionProjection → Prop
  | none => history = []
  | some projection => Agrees history projection

/-- The execution tables after any number of commands. -/
structure HistoryFolded (rows : TaskRows) : Prop where
  keys : (rows.executionProjections.map (·.taskId)).Nodup
  eventIds : (rows.executionEvents.map (·.executionEventId)).Nodup
  canonical : ∀ event ∈ rows.executionEvents, isUuid4 event.executionEventId
  contiguous : ∀ taskId, Contiguous (rows.executionHistory taskId)
  projected : ∀ taskId, Projected (rows.executionHistory taskId) (rows.executionProjection? taskId)

variable {event : TaskExecutionEvent}

theorem executionHistory_mem :
    event ∈ rows.executionHistory taskId ↔ event ∈ rows.executionEvents ∧ event.taskId = taskId := by
  simp [TaskRows.executionHistory]

theorem foldr_max_range' (start length : Nat) (below : 0 < length) :
    (List.range' start length).foldr max 0 = start + length - 1 := by
  induction length generalizing start with
  | zero => omega
  | succ length ih =>
    rw [List.range'_succ, List.foldr_cons]
    cases length with
    | zero => simp
    | succ length =>
      rw [ih (start + 1) (by omega)]
      omega

theorem lastExecutionRevision_eq (contiguous : Contiguous (rows.executionHistory taskId)) :
    rows.lastExecutionRevision taskId = (rows.executionHistory taskId).length := by
  rw [TaskRows.lastExecutionRevision, contiguous]
  rcases Nat.eq_zero_or_pos (rows.executionHistory taskId).length with empty | inhabited
  · simp [empty]
  · rw [foldr_max_range' 1 _ inhabited]
    omega

namespace HistoryFolded

theorem elsewhere (folded : HistoryFolded rows) (events : next.executionEvents = rows.executionEvents)
    (projections : next.executionProjections = rows.executionProjections) :
    HistoryFolded next := by
  have histories : next.executionHistory = rows.executionHistory := by
    funext taskId
    simp only [TaskRows.executionHistory, events]
  have found : next.executionProjection? = rows.executionProjection? := by
    funext taskId
    simp only [TaskRows.executionProjection?, projections]
  constructor
  · rw [projections]
    exact folded.keys
  · rw [events]
    exact folded.eventIds
  · rw [events]
    exact folded.canonical
  · rw [histories]
    exact folded.contiguous
  · rw [histories, found]
    exact folded.projected

theorem empty (events : rows.executionEvents = []) (projections : rows.executionProjections = []) :
    HistoryFolded rows := by
  constructor <;>
    simp [events, projections, Contiguous, Projected, TaskRows.executionHistory,
      TaskRows.executionProjection?]

/-- Reading the execution of a task never fails, and reads its fold. -/
theorem authority (folded : HistoryFolded rows) (taskId : String) :
    ∃ authority, executionAuthority rows taskId = .ok authority ∧
      foldExecutionHistory (rows.executionHistory taskId) = .ok authority.folded ∧
      authority.revision = (rows.executionHistory taskId).length ∧
      authority.projectionExists = (rows.executionProjection? taskId).isSome ∧
      ∀ projection, rows.executionProjection? taskId = some projection →
        authority.folded = projection.folded ∧ authority.revision = projection.revision ∧
          authority.lastEventId = some projection.lastEventId := by
  have projected := folded.projected taskId
  have contiguous := folded.contiguous taskId
  unfold executionAuthority
  cases found : rows.executionProjection? taskId with
  | none =>
    rw [found] at projected
    have empty : rows.executionHistory taskId = [] := projected
    refine ⟨_, except_bind_ok.mpr ⟨⟨⟩, ensure_ok.mpr empty, rfl⟩, ?_, ?_, rfl, ?_⟩
    · rw [empty]
      rfl
    · rw [empty]
      rfl
    · rintro _ ⟨⟩
  | some projection =>
    rw [found] at projected
    obtain ⟨revision, last, fold⟩ : Agrees (rows.executionHistory taskId) projection := projected
    obtain ⟨event, final, same⟩ := Option.map_eq_some_iff.mp last
    have stored : event ∈ rows.executionEvents :=
      (executionHistory_mem.mp (List.mem_of_getLast? final)).1
    have inhabited : 0 < (rows.executionHistory taskId).length :=
      List.length_pos_of_mem (List.mem_of_getLast? final)
    refine ⟨⟨projection.revision, projection.folded, some projection.lastEventId, true⟩, ?_, fold,
      revision, rfl, ?_⟩
    · simp only [checkedAuthority, final, except_ok, storedUuid]
      refine ⟨by omega, revision.symm, contiguous, ?_, ?_, same.symm, _, fold, rfl, trivial⟩
      · rw [← same]
        exact folded.canonical event stored
      · exact folded.canonical event stored
    · rintro _ ⟨⟩
      exact ⟨rfl, rfl, rfl⟩

end HistoryFolded

/-! ## One more event and its projection -/

/-- `next` holds one more event and its task another projection. -/
structure Advanced (rows next : TaskRows) (event : TaskExecutionEvent)
    (projection : TaskExecutionProjection) : Prop where
  events : next.executionEvents = rows.executionEvents ++ [event]
  fresh : event.executionEventId ∉ rows.executionEvents.map (·.executionEventId)
  numbered : event.executionRevision = rows.lastExecutionRevision event.taskId + 1
  keys : (next.executionProjections.map (·.taskId)).Nodup
  written : next.executionProjection? event.taskId = some projection
  others : ∀ other, other ≠ event.taskId →
    next.executionProjection? other = rows.executionProjection? other

namespace Advanced

variable {event : TaskExecutionEvent} {projection : TaskExecutionProjection}

section

variable (advanced : Advanced rows next event projection)

include advanced

theorem history :
    next.executionHistory event.taskId = rows.executionHistory event.taskId ++ [event] := by
  simp [TaskRows.executionHistory, advanced.events]

theorem history_other (apart : other ≠ event.taskId) :
    next.executionHistory other = rows.executionHistory other := by
  simp [TaskRows.executionHistory, advanced.events, Ne.symm apart]

theorem authority_other (apart : other ≠ event.taskId) :
    executionAuthority next other = executionAuthority rows other := by
  unfold executionAuthority
  rw [advanced.others other apart, advanced.history_other apart]

/-- A projection with the next revision, the new event and the new fold keeps the
tables folded. -/
theorem folded (folded : HistoryFolded rows)
    (canonical : isUuid4 event.executionEventId)
    (revision : projection.revision = (rows.executionHistory event.taskId).length + 1)
    (last : projection.lastEventId = event.executionEventId)
    (fold : foldExecutionHistory (rows.executionHistory event.taskId ++ [event]) =
      .ok projection.folded) : HistoryFolded next where
  keys := advanced.keys
  eventIds := by
    rw [advanced.events, List.map_append, List.nodup_append]
    refine ⟨folded.eventIds, List.nodup_singleton _, ?_⟩
    intro held heldIn added addedIn same
    rw [List.map_singleton, List.mem_singleton] at addedIn
    exact advanced.fresh (addedIn ▸ same ▸ heldIn)
  canonical := by
    intro stored inside
    rw [advanced.events] at inside
    rcases mem_concat inside with old | rfl
    · exact folded.canonical stored old
    · exact canonical
  contiguous := by
    intro taskId
    by_cases same : taskId = event.taskId
    · subst same
      have old : (rows.executionHistory event.taskId).map (·.executionRevision) = _ :=
        folded.contiguous event.taskId
      rw [advanced.history, Contiguous, List.map_append, old, List.map_singleton,
        advanced.numbered, lastExecutionRevision_eq (folded.contiguous event.taskId),
        List.length_append, List.length_singleton, List.range'_1_concat, Nat.add_comm 1]
    · rw [advanced.history_other same]
      exact folded.contiguous taskId
  projected := by
    intro taskId
    by_cases same : taskId = event.taskId
    · subst same
      rw [advanced.written, advanced.history]
      exact ⟨by rw [revision, List.length_append, List.length_singleton],
        by rw [List.getLast?_append, last]; rfl, fold⟩
    · rw [advanced.others taskId same, advanced.history_other same]
      exact folded.projected taskId

end

end Advanced

/-! ## Statements -/

variable {value : PUnit}

theorem insertExecutionEvent_ok (ran : (insertExecutionEvent event).run rows = .ok (value, next)) :
    event.executionEventId ∉ rows.executionEvents.map (·.executionEventId) ∧
      event.executionRevision = rows.lastExecutionRevision event.taskId + 1 ∧
      next = { rows with executionEvents := rows.executionEvents ++ [event] } := by
  simp only [insertExecutionEvent, steps_ok] at ran
  obtain ⟨⟨fresh, -, -⟩, numbered, rfl⟩ := ran
  exact ⟨fresh, numbered, rfl⟩

theorem insertExecutionProjection_ok
    (ran : (insertExecutionProjection row).run rows = .ok (value, next)) :
    row.taskId ∉ rows.executionProjections.map (·.taskId) ∧
      next = { rows with executionProjections := rows.executionProjections ++ [row] } := by
  simp only [insertExecutionProjection, steps_ok] at ran
  obtain ⟨⟨fresh, -⟩, -, rfl⟩ := ran
  exact ⟨fresh, rfl⟩

theorem updateExecutionProjection_ok {selected : TaskExecutionProjection → Bool}
    {change : TaskExecutionProjection → TaskExecutionProjection}
    (ran : (updateExecutionProjection selected change lost).run rows = .ok (value, next)) :
    rows.executionProjections.countP selected = 1 ∧
      next = rows.updateExecutionProjection selected change := by
  simp only [updateExecutionProjection, steps_ok] at ran
  obtain ⟨one, -, rfl⟩ := ran
  exact ⟨one, rfl⟩

theorem incrementRevision_ok
    (ran : (incrementRevision taskId revision).run rows = .ok (value, next)) :
    next = rows.incrementRevision taskId revision := by
  simp only [incrementRevision, steps_ok] at ran
  obtain ⟨-, rfl⟩ := ran
  rfl

section Blocks

variable {event : TaskExecutionEvent} {middle : TaskRows} {value value' : PUnit}

theorem advanced_insert {projection : TaskExecutionProjection} (folded : HistoryFolded rows)
    (owner : projection.taskId = event.taskId)
    (inserted : (insertExecutionEvent event).run rows = .ok (value, middle))
    (written : (insertExecutionProjection projection).run middle = .ok (value', next)) :
    Advanced rows next event projection := by
  obtain ⟨fresh, numbered, rfl⟩ := insertExecutionEvent_ok inserted
  obtain ⟨vacant, rfl⟩ := insertExecutionProjection_ok written
  have keyed : ((rows.executionProjections ++ [projection]).map (·.taskId)).Nodup := by
    rw [List.map_append, List.nodup_append]
    refine ⟨folded.keys, List.nodup_singleton _, ?_⟩
    intro held heldIn added addedIn same
    rw [List.map_singleton, List.mem_singleton] at addedIn
    exact vacant (addedIn ▸ same ▸ heldIn)
  refine ⟨rfl, fresh, numbered, keyed, ?_, ?_⟩
  · rw [← owner]
    exact find?_eq_some keyed List.mem_concat_self
  · intro other apart
    have missed : projection.taskId ≠ other := fun same => apart (same ▸ owner)
    simp [TaskRows.executionProjection?, List.find?_append, missed]

theorem advanced_update {selected : TaskExecutionProjection → Bool}
    {change : TaskExecutionProjection → TaskExecutionProjection} (folded : HistoryFolded rows)
    (inserted : (insertExecutionEvent event).run rows = .ok (value, middle))
    (written : (updateExecutionProjection selected change lost).run middle = .ok (value', next))
    (owned : ∀ row, selected row = true → row.taskId = event.taskId)
    (kept : ∀ row, (change row).taskId = row.taskId) :
    ∃ old, rows.executionProjection? event.taskId = some old ∧ selected old = true ∧
      Advanced rows next event (change old) := by
  obtain ⟨fresh, numbered, rfl⟩ := insertExecutionEvent_ok inserted
  obtain ⟨one, rfl⟩ := updateExecutionProjection_ok written
  obtain ⟨old, hit, replaced⟩ := replaced_of_countP change one
  have owner := owned old hit
  have keyed := folded.keys
  rw [← replaced.map_eq (kept old)] at keyed
  refine ⟨old, ?_, hit, rfl, fresh, numbered, keyed, ?_, ?_⟩
  · rw [← owner]
    exact find?_eq_some folded.keys replaced.mem_old
  · rw [← owner, ← kept old]
    exact find?_eq_some keyed replaced.mem_new
  · intro other apart
    exact replaced.find?_ne (kept old) (owner ▸ apart)

end Blocks

theorem Advanced.elsewhere {last : TaskRows} (advanced : Advanced rows next event projection)
    (events : last.executionEvents = next.executionEvents)
    (projections : last.executionProjections = next.executionProjections) :
    Advanced rows last event projection where
  events := events.trans advanced.events
  fresh := advanced.fresh
  numbered := advanced.numbered
  keys := projections ▸ advanced.keys
  written := by
    rw [TaskRows.executionProjection?, projections]
    exact advanced.written
  others := by
    intro other apart
    rw [TaskRows.executionProjection?, projections]
    exact advanced.others other apart

/-! ## The execution tables -/

def TaskRows.execution (rows : TaskRows) : List TaskExecutionEvent × List TaskExecutionProjection :=
  (rows.executionEvents, rows.executionProjections)

theorem aggregateFree_execution
    (execution : List TaskExecutionEvent × List TaskExecutionProjection) :
    AggregateFree fun rows => rows.execution = execution :=
  fun _ _ same => same

theorem HistoryFolded.of_execution (folded : HistoryFolded rows)
    (same : next.execution = rows.execution) : HistoryFolded next :=
  folded.elsewhere (congrArg Prod.fst same) (congrArg Prod.snd same)

/-! ## Commands -/

/-- The writes on one task: the tables stay folded and the other tasks read as
before. -/
structure ExecutedOn (rows next : TaskRows) (taskId : String) : Prop where
  folded : HistoryFolded next
  others : ∀ other, other ≠ taskId → executionAuthority next other = executionAuthority rows other

theorem HistoryFolded.read {authority : ExecutionAuthority} (folded : HistoryFolded rows)
    (read : executionAuthority rows taskId = .ok authority) :
    foldExecutionHistory (rows.executionHistory taskId) = .ok authority.folded ∧
      authority.revision = (rows.executionHistory taskId).length ∧
      ∀ projection, rows.executionProjection? taskId = some projection →
        authority.folded = projection.folded ∧ authority.revision = projection.revision ∧
          authority.lastEventId = some projection.lastEventId := by
  obtain ⟨_, reads, fold, revision, -, columns⟩ := folded.authority taskId
  rw [read, Except.ok.injEq] at reads
  subst reads
  exact ⟨fold, revision, columns⟩

theorem fresh_in_history (fresh : eventId ∉ rows.executionEvents.map (·.executionEventId)) :
    eventId ∉ (rows.executionHistory taskId).map (·.executionEventId) := by
  intro inside
  obtain ⟨event, stored, same⟩ := List.mem_map.mp inside
  exact fresh (List.mem_map.mpr ⟨event, (executionHistory_mem.mp stored).1, same⟩)

theorem incrementRevision_execution
    (ran : (incrementRevision taskId taskRevision).run rows = .ok (value, next)) :
    next.execution = rows.execution := by
  rw [incrementRevision_ok ran]
  rfl

theorem insertOutcomeEvent_execution (ran : (insertOutcomeEvent row).run rows = .ok (value, next)) :
    next.execution = rows.execution := by
  simp only [insertOutcomeEvent, steps_ok] at ran
  obtain ⟨-, rfl⟩ := ran
  rfl

theorem insertOutcomeCurrent_execution
    (ran : (insertOutcomeCurrent row).run rows = .ok (value, next)) :
    next.execution = rows.execution := by
  simp only [insertOutcomeCurrent, steps_ok] at ran
  obtain ⟨-, -, rfl⟩ := ran
  rfl

theorem insertExecutionEvent_history
    (ran : (insertExecutionEvent event).run rows = .ok (value, next)) :
    next.executionHistory event.taskId = rows.executionHistory event.taskId ++ [event] := by
  rw [(insertExecutionEvent_ok ran).2.2]
  simp [TaskRows.executionHistory]

section Advance

variable (event : TaskExecutionEvent) {middle last : TaskRows} {value value' value'' : PUnit}
  {authority : ExecutionAuthority}

theorem executedOn_of_advanced (folded : HistoryFolded rows)
    (advanced : Advanced rows middle event projection) (canonical : isUuid4 event.executionEventId)
    (revision : projection.revision = (rows.executionHistory event.taskId).length + 1)
    (final : projection.lastEventId = event.executionEventId)
    (fold : foldExecutionHistory (rows.executionHistory event.taskId ++ [event]) =
      .ok projection.folded) (elsewhere : next.execution = middle.execution) :
    ExecutedOn rows next event.taskId := by
  have done : Advanced rows next event projection :=
    advanced.elsewhere (congrArg Prod.fst elsewhere) (congrArg Prod.snd elsewhere)
  exact ⟨done.folded folded canonical revision final fold, fun other apart => done.authority_other apart⟩

/-- The first projection of a task, or the next one. -/
theorem executedOn_insertOrAdvance {change : TaskExecutionProjection → TaskExecutionProjection}
    (folded : HistoryFolded rows) (read : executionAuthority rows taskId = .ok authority)
    (canonical : isUuid4 event.executionEventId) (on : event.taskId = taskId)
    (inserted : (insertExecutionEvent event).run rows = .ok (value, middle))
    (projected : (if authority.projectionExists then
        updateExecutionProjection
          (fun row => row.taskId = taskId ∧ row.revision = authority.revision) change lost
      else insertExecutionProjection first).run middle = .ok (value', last))
    (elsewhere : next.execution = last.execution) (owner : first.taskId = taskId)
    (kept : ∀ row, (change row).taskId = row.taskId) (written : ∀ row : TaskExecutionProjection,
      row = first ∧ authority.revision = 0 ∨
        (∃ old, old.revision = authority.revision ∧ row = change old) →
      row.revision = authority.revision + 1 ∧ row.lastEventId = event.executionEventId ∧
        foldExecutionHistory (rows.executionHistory taskId ++ [event]) = .ok row.folded) :
    ExecutedOn rows next taskId := by
  subst on
  obtain ⟨_, reads, -, length, exists_, -⟩ := folded.authority event.taskId
  rw [read, Except.ok.injEq] at reads
  subst reads
  by_cases standing : authority.projectionExists = true
  · rw [if_pos standing] at projected
    obtain ⟨old, -, hit, advanced⟩ := advanced_update folded inserted projected
      (fun _ hit => (of_decide_eq_true hit).1) kept
    obtain ⟨revision, final, fold⟩ := written _ (.inr ⟨old, (of_decide_eq_true hit).2, rfl⟩)
    exact executedOn_of_advanced event folded advanced canonical (length ▸ revision) final fold
      elsewhere
  · rw [if_neg standing] at projected
    have absent : rows.executionProjection? event.taskId = none := by
      rw [exists_] at standing
      simpa using standing
    have empty : rows.executionHistory event.taskId = [] := by
      have projected := folded.projected event.taskId
      rw [absent] at projected
      exact projected
    have zero : authority.revision = 0 := by rw [length, empty, List.length_nil]
    obtain ⟨revision, final, fold⟩ := written _ (.inl ⟨rfl, zero⟩)
    have advanced := advanced_insert folded owner inserted projected
    exact executedOn_of_advanced event folded advanced canonical (length ▸ revision) final fold
      elsewhere

end Advance

theorem fold_base (revision : Nat) (reason : Option String)
    (fold : foldExecutionHistory (rows.executionHistory taskId) = .ok current)
    (canonical : isUuid4 eventId) (fresh : eventId ∉ rows.executionEvents.map (·.executionEventId))
    (base : kind ≠ .correction) (timed : kind ∈ [EventKind.start, .endEvent] → instant ≠ none) :
    foldExecutionHistory
        (rows.executionHistory taskId ++ [baseEvent eventId taskId revision kind instant reason]) =
      runEvidence current ⟨eventId, kind, instant, false⟩ :=
  fold_append fold canonical (fresh_in_history fresh) base ⟨rfl, rfl⟩ timed

section Writes

variable {authority : ExecutionAuthority} {taskRevision instant : Nat} {eventId : String}
  {value : PUnit}

section

variable (folded : HistoryFolded rows) (read : executionAuthority rows taskId = .ok authority)

include folded read

theorem applyStart_executed
    (idle : authority.folded.state = .notStarted) (canonical : isUuid4 eventId)
    (ran : (applyStart taskId taskRevision authority eventId instant).run rows =
      .ok (value, next)) : ExecutedOn rows next taskId := by
  simp only [applyStart, insertOrAdvanceStartProjection, steps_ok] at ran
  obtain ⟨_, inserted, _, projected, revised⟩ := ran
  obtain ⟨fold, -, -⟩ := folded.read read
  have extended := fold_base (authority.revision + 1) none fold canonical (insertExecutionEvent_ok inserted).1
    (by decide : EventKind.start ≠ .correction) (fun _ => Option.some_ne_none instant)
  rw [run_start idle rfl rfl rfl] at extended
  refine executedOn_insertOrAdvance _ folded read canonical rfl inserted projected
    (incrementRevision_execution revised) rfl (fun _ => rfl) ?_
  rintro row (⟨rfl, zero⟩ | ⟨_, same, rfl⟩)
  · exact ⟨by rw [zero], rfl, extended⟩
  · exact ⟨by rw [same], rfl, extended⟩

theorem applyEnd_executed (running : authority.folded.state = .inProgress)
    (since : authority.folded.actualStartUtc = some started) (ordered : started ≤ instant)
    (canonical : isUuid4 eventId)
    (ran : (applyEnd taskId taskRevision authority eventId instant).run rows =
      .ok (value, next)) : ExecutedOn rows next taskId := by
  simp only [applyEnd, steps_ok] at ran
  obtain ⟨_, inserted, _, projected, revised⟩ := ran
  obtain ⟨fold, length, columns⟩ := folded.read read
  have extended := fold_base (authority.revision + 1) none fold canonical (insertExecutionEvent_ok inserted).1
    (by decide : EventKind.endEvent ≠ .correction) (fun _ => Option.some_ne_none instant)
  rw [run_end running since ordered rfl rfl rfl] at extended
  obtain ⟨old, found, hit, advanced⟩ := advanced_update folded inserted projected
    (fun _ hit => (of_decide_eq_true hit).1) (fun _ => rfl)
  obtain ⟨same, revision, -⟩ := columns old found
  have kept : old.actualStartUtc = some started := by
    rw [← since, same]
    rfl
  refine executedOn_of_advanced _ folded advanced canonical ?_ rfl ?_
    (incrementRevision_execution revised)
  · show old.revision + 1 = _
    rw [← revision, length]
    rfl
  · rw [TaskExecutionProjection.folded, kept]
    exact extended

theorem applyCancel_executed (idle : authority.folded.state = .notStarted)
    (unstarted : authority.folded.actualStartUtc = none)
    (ran : (applyCancel call taskId taskRevision authority instant reason).run rows =
      .ok (value, next)) : ExecutedOn rows next taskId := by
  simp only [applyCancel, insertOrAdvanceCancelProjection, steps_ok] at ran
  obtain ⟨_, inserted, _, projected, _, reviewed, _, current, revised⟩ := ran
  obtain ⟨fold, -, -⟩ := folded.read read
  have canonical := (call.newUuid4 0).canonical
  have elsewhere := (incrementRevision_execution revised).trans
    ((insertOutcomeCurrent_execution current).trans (insertOutcomeEvent_execution reviewed))
  have extended := fold_base (authority.revision + 1) (some reason) fold canonical
    (insertExecutionEvent_ok inserted).1 (by decide : EventKind.manualCancel ≠ .correction)
    (fun _ => Option.some_ne_none instant)
  have standing : authority.folded.state ≠ .terminated := by
    rw [idle]
    exact (by decide : ExecutionState.notStarted ≠ .terminated)
  rw [run_terminal standing
    (by decide : EventKind.manualCancel ∉ [EventKind.start, .endEvent]) rfl, unstarted] at extended
  refine executedOn_insertOrAdvance _ folded read canonical rfl inserted projected elsewhere rfl
    (fun _ => rfl) ?_
  rintro row (⟨rfl, zero⟩ | ⟨_, same, rfl⟩)
  · exact ⟨by rw [zero], rfl, extended⟩
  · exact ⟨by rw [same], rfl, extended⟩

omit read in
theorem applyCorrection_executed {request : CorrectionRequest}
    (read : executionAuthority rows request.taskId = .ok authority) (canonical : isUuid4 eventId)
    (ran : (applyCorrection request task authority eventId).run rows = .ok (value, next)) :
    ExecutedOn rows next request.taskId := by
  simp only [applyCorrection, steps_ok] at ran
  obtain ⟨_, inserted, _, fold, -, _, projected, revised⟩ := ran
  obtain ⟨-, length, columns⟩ := folded.read read
  obtain ⟨old, found, hit, advanced⟩ := advanced_update folded inserted projected
    (fun _ hit => (of_decide_eq_true hit).1) (fun _ => rfl)
  obtain ⟨-, revision, -⟩ := columns old found
  refine executedOn_of_advanced _ folded advanced canonical ?_ rfl ?_
    (incrementRevision_execution revised)
  · show old.revision + 1 = _
    rw [← revision, length]
    rfl
  · have longer := insertExecutionEvent_history inserted
    exact longer ▸ fold

end

end Writes

end Soma.ObjectivesTasks
