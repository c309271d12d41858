import Soma.ObjectivesTasks.ExecutionRuns
import Soma.ObjectivesTasks.OutcomeReview

/-!
The reviewed outcomes of tasks next to their executions.

The outcome tables stay sound under every command. What does not hold by itself
is that a task with a reviewed outcome has a terminal execution: a correction may
withdraw the evidence under an outcome. `Closed` says that none has.
-/

namespace Soma.ObjectivesTasks

open Execution Foundation Transaction Rows

variable {rows next : TaskRows} {taskId : String}

/-! ## The outcome tables -/

/-- A current outcome with the event it was reviewed by. -/
structure Backed (events : List TaskOutcomeEvent) (current : TaskOutcomeCurrent) : Prop where
  positive : 0 < current.revision
  canonical : isUuid4 current.outcomeEventId
  event : ∃ event ∈ events, event.outcomeEventId = current.outcomeEventId ∧
    event.taskId = current.taskId ∧ event.acceptedOutcome = current.acceptedOutcome

theorem Backed.mono (backed : Backed events current) (wider : ∀ event ∈ events, event ∈ later) :
    Backed later current := by
  obtain ⟨event, stored, same⟩ := backed.event
  exact ⟨backed.positive, backed.canonical, event, wider event stored, same⟩

/-- The outcome tables after any number of commands. -/
structure OutcomesSound (rows : TaskRows) : Prop where
  keys : (rows.outcomeCurrent.map (·.taskId)).Nodup
  eventIds : (rows.outcomeEvents.map (·.outcomeEventId)).Nodup
  backed : ∀ current ∈ rows.outcomeCurrent, Backed rows.outcomeEvents current
  unreviewed : ∀ taskId, rows.outcomeCurrent? taskId = none → rows.outcomeHistory taskId = []

/-- The tables of the reviewed outcomes. -/
def TaskRows.outcomes (rows : TaskRows) : List TaskOutcomeEvent × List TaskOutcomeCurrent :=
  (rows.outcomeEvents, rows.outcomeCurrent)

theorem outcomeCurrent?_eq (same : next.outcomes = rows.outcomes) (taskId : String) :
    next.outcomeCurrent? taskId = rows.outcomeCurrent? taskId := by
  have current : next.outcomeCurrent = rows.outcomeCurrent := congrArg Prod.snd same
  rw [TaskRows.outcomeCurrent?, TaskRows.outcomeCurrent?, current]

namespace OutcomesSound

theorem of_outcomes (sound : OutcomesSound rows) (same : next.outcomes = rows.outcomes) :
    OutcomesSound next := by
  have events : next.outcomeEvents = rows.outcomeEvents := congrArg Prod.fst same
  have current : next.outcomeCurrent = rows.outcomeCurrent := congrArg Prod.snd same
  constructor
  · rw [current]
    exact sound.keys
  · rw [events]
    exact sound.eventIds
  · rw [current, events]
    exact sound.backed
  · intro taskId absent
    rw [outcomeCurrent?_eq same] at absent
    rw [TaskRows.outcomeHistory, events]
    exact sound.unreviewed taskId absent

theorem empty (events : rows.outcomeEvents = []) (current : rows.outcomeCurrent = []) :
    OutcomesSound rows := by
  constructor <;> simp [events, current, TaskRows.outcomeHistory]

theorem hasTerminalOutcome (sound : OutcomesSound rows)
    (absent : rows.outcomeCurrent? taskId = none) : hasTerminalOutcome rows taskId = .ok false := by
  unfold Soma.ObjectivesTasks.hasTerminalOutcome
  rw [absent]
  exact except_bind_ok.mpr ⟨⟨⟩, ensure_ok.mpr (sound.unreviewed taskId absent), rfl⟩

end OutcomesSound

theorem unreviewed_of_hasTerminalOutcome (read : hasTerminalOutcome rows taskId = .ok false) :
    rows.outcomeCurrent? taskId = none := by
  unfold hasTerminalOutcome at read
  cases found : rows.outcomeCurrent? taskId with
  | none => rfl
  | some current =>
    rw [found] at read
    simp only [except_ok] at read
    obtain ⟨-, -, -, same⟩ := read
    cases same

/-! ## Statements -/

theorem insertOutcomeEvent_ok (ran : (insertOutcomeEvent event).run rows = .ok (value, next)) :
    event.outcomeEventId ∉ rows.outcomeEvents.map (·.outcomeEventId) ∧
      next = { rows with outcomeEvents := rows.outcomeEvents ++ [event] } := by
  simp only [insertOutcomeEvent, steps_ok] at ran
  obtain ⟨⟨fresh, -⟩, rfl⟩ := ran
  exact ⟨fresh, rfl⟩

theorem insertOutcomeCurrent_ok
    (ran : (insertOutcomeCurrent current).run rows = .ok (value, next)) :
    current.taskId ∉ rows.outcomeCurrent.map (·.taskId) ∧
      next = { rows with outcomeCurrent := rows.outcomeCurrent ++ [current] } := by
  simp only [insertOutcomeCurrent, steps_ok] at ran
  obtain ⟨⟨vacant, -⟩, -, rfl⟩ := ran
  exact ⟨vacant, rfl⟩

theorem updateOutcomeCurrent_ok {selected : TaskOutcomeCurrent → Bool}
    {change : TaskOutcomeCurrent → TaskOutcomeCurrent}
    (ran : (updateOutcomeCurrent selected change lost).run rows = .ok (value, next)) :
    rows.outcomeCurrent.countP selected = 1 ∧ next = rows.updateOutcomeCurrent selected change := by
  simp only [updateOutcomeCurrent, steps_ok] at ran
  obtain ⟨one, -, rfl⟩ := ran
  exact ⟨one, rfl⟩

/-- The writes on the outcome of one task: the tables stay sound and the other
tasks keep what they have. -/
structure ReviewedOn (rows next : TaskRows) (taskId : String) : Prop where
  sound : OutcomesSound next
  others : ∀ other, other ≠ taskId → next.outcomeCurrent? other = rows.outcomeCurrent? other

section Blocks

variable {event : TaskOutcomeEvent} {current : TaskOutcomeCurrent} {middle : TaskRows}
  {value value' : PUnit}

theorem history_other (inserted : (insertOutcomeEvent event).run rows = .ok (value, next))
    (apart : other ≠ event.taskId) : next.outcomeHistory other = rows.outcomeHistory other := by
  obtain ⟨-, rfl⟩ := insertOutcomeEvent_ok inserted
  simp [TaskRows.outcomeHistory, Ne.symm apart]

theorem reviewedOn_insert (sound : OutcomesSound rows)
    (inserted : (insertOutcomeEvent event).run rows = .ok (value, middle))
    (written : (insertOutcomeCurrent current).run middle = .ok (value', next))
    (backed : Backed [event] current) : ReviewedOn rows next event.taskId := by
  have history {other : String} (apart : other ≠ event.taskId) :
      middle.outcomeHistory other = rows.outcomeHistory other := history_other inserted apart
  obtain ⟨fresh, rfl⟩ := insertOutcomeEvent_ok inserted
  obtain ⟨vacant, rfl⟩ := insertOutcomeCurrent_ok written
  have owner : current.taskId = event.taskId := by
    obtain ⟨_, listed, -, same, -⟩ := backed.event
    rw [List.mem_singleton.mp listed] at same
    exact same.symm
  have others : ∀ other, other ≠ event.taskId →
      (rows.outcomeCurrent ++ [current]).find? (fun row => row.taskId = other) =
        rows.outcomeCurrent? other := fun other apart => find?_concat_ne (owner ▸ apart)
  refine ⟨⟨nodup_concat sound.keys vacant, nodup_concat sound.eventIds fresh, ?_, ?_⟩, others⟩
  · intro stored inside
    rcases Rows.mem_concat inside with old | rfl
    · exact (sound.backed stored old).mono fun event held => List.mem_append_left _ held
    · exact backed.mono fun event held => List.mem_append_right _ held
  · intro other absent
    by_cases same : other = event.taskId
    · subst same
      have present : (rows.outcomeCurrent ++ [current]).find?
          (fun row => row.taskId = current.taskId) = some current :=
        find?_eq_some (nodup_concat sound.keys vacant)
          List.mem_concat_self
      rw [owner] at present
      rw [TaskRows.outcomeCurrent?, present] at absent
      cases absent
    · have before := (others other same).symm.trans absent
      exact (history same).trans (sound.unreviewed other before)

theorem reviewedOn_update {selected : TaskOutcomeCurrent → Bool}
    {change : TaskOutcomeCurrent → TaskOutcomeCurrent} (sound : OutcomesSound rows)
    (inserted : (insertOutcomeEvent event).run rows = .ok (value, middle))
    (written : (updateOutcomeCurrent selected change lost).run middle = .ok (value', next))
    (owned : ∀ row, selected row = true → row.taskId = event.taskId)
    (kept : ∀ row, (change row).taskId = row.taskId)
    (backed : ∀ row, selected row = true → Backed [event] (change row)) :
    ReviewedOn rows next event.taskId ∧ (rows.outcomeCurrent? event.taskId).isSome := by
  have history {other : String} (apart : other ≠ event.taskId) :
      middle.outcomeHistory other = rows.outcomeHistory other := history_other inserted apart
  obtain ⟨fresh, rfl⟩ := insertOutcomeEvent_ok inserted
  obtain ⟨one, rfl⟩ := updateOutcomeCurrent_ok written
  obtain ⟨old, hit, replaced⟩ := replaced_of_countP change one
  have owner := owned old hit
  have keyed := sound.keys
  rw [← replaced.map_eq (kept old)] at keyed
  have others : ∀ other, other ≠ event.taskId →
      (TaskRows.updateOutcomeCurrent _ selected change).outcomeCurrent? other =
        rows.outcomeCurrent? other :=
    fun other apart => replaced.find?_ne (kept old) (owner ▸ apart)
  have standing : rows.outcomeCurrent? event.taskId = some old := by
    rw [← owner]
    exact find?_eq_some sound.keys replaced.mem_old
  refine ⟨⟨⟨keyed, nodup_concat sound.eventIds fresh, ?_, ?_⟩, others⟩, by simp [standing]⟩
  · intro stored inside
    rcases replaced.mem_next inside with rfl | before
    · exact (backed old hit).mono fun event held => List.mem_append_right _ held
    · exact (sound.backed stored before).mono fun event held => List.mem_append_left _ held
  · intro other absent
    by_cases same : other = event.taskId
    · subst same
      have present := find?_eq_some keyed replaced.mem_new
      rw [kept old, owner] at present
      exact absurd (present.symm.trans absent) (by simp)
    · exact (history same).trans (sound.unreviewed other ((others other same).symm.trans absent))

end Blocks

end Soma.ObjectivesTasks
