import Soma.ObjectivesTasks.Rebuildable

/-!
Every task whose execution is open can make progress, unless a correction has
stranded a reviewed outcome.

The writers of executions ask whether a task has any current outcome, and the
Objective aggregate whether its outcome still matches its execution. The two
answers differ on a task whose evidence was withdrawn under its outcome: it is
open to the aggregate, and closed to every writer.
-/

namespace Soma.ObjectivesTasks

open Execution Foundation Transaction Rows

variable {rows next : TaskRows} {taskId : String}

/-! ## Runs -/

/-- The rows of `tasks` are well formed. -/
structure TasksSound (rows : TaskRows) : Prop where
  keys : (rows.tasks.map (·.taskId)).Nodup
  canonical : ∀ task ∈ rows.tasks, isUuid4 task.taskId
  positive : ∀ task ∈ rows.tasks, 0 < task.revision

theorem TasksSound.incrementRevision (sound : TasksSound rows) (taskId : String) (revision : Nat) :
    TasksSound (rows.incrementRevision taskId revision) := by
  have ids : (rows.incrementRevision taskId revision).tasks.map (·.taskId) =
      rows.tasks.map (·.taskId) := by
    rw [TaskRows.incrementRevision, List.map_map]
    refine List.map_congr_left fun task _ => ?_
    simp only [Function.comp_apply]
    split <;> rfl
  have origin : ∀ task ∈ (rows.incrementRevision taskId revision).tasks, ∃ old ∈ rows.tasks,
      task.taskId = old.taskId ∧ old.revision ≤ task.revision := by
    intro task inside
    obtain ⟨old, held, rfl⟩ := List.mem_map.mp inside
    refine ⟨old, held, ?_⟩
    split
    · exact ⟨rfl, Nat.le_succ _⟩
    · exact ⟨rfl, Nat.le_refl _⟩
  refine ⟨ids ▸ sound.keys, ?_, ?_⟩
  · intro task inside
    obtain ⟨old, held, same, -⟩ := origin task inside
    exact same ▸ sound.canonical old held
  · intro task inside
    obtain ⟨old, held, -, later⟩ := origin task inside
    exact Nat.lt_of_lt_of_le (sound.positive old held) later

/-- What every state of a run is. -/
structure RunSound (python : PythonLibrary) (rows : TaskRows) : Prop where
  evidence : EvidenceSound rows
  tasks : TasksSound rows
  aggregates : AggregatesSound rows
  rebuildable : Rebuildable python rows

/-- Before anything was recorded about the execution of a task: the tasks are
well formed and their Objectives can be rebuilt. -/
structure Unexecuted (python : PythonLibrary) (rows : TaskRows) : Prop where
  executionEvents : rows.executionEvents = []
  executionProjections : rows.executionProjections = []
  outcomeEvents : rows.outcomeEvents = []
  outcomeCurrent : rows.outcomeCurrent = []
  tasks : TasksSound rows
  aggregates : AggregatesSound rows
  rebuildable : Rebuildable python rows

/-- One command that strands no reviewed outcome. -/
inductive UnstrandingStep (python : PythonLibrary) : TaskRows → TaskRows → Prop
  | command {rows : TaskRows} (command : TaskCommand) (allowed : command.strands rows = false) :
      UnstrandingStep python rows (command.apply python rows)

variable {python : PythonLibrary}

/-- The tables outside the evidence: most stay, the others stay well formed. -/
theorem framed_standing (digests : HexDigests python) (standing : TaskRows) :
    Framed python fun rows => rows.withoutEvidence = standing ∧ TasksSound rows ∧
      AggregatesSound rows where
  execution := by
    intro rows events projections holds
    exact ⟨holds.1, ⟨holds.2.1.keys, holds.2.1.canonical, holds.2.1.positive⟩,
      holds.2.2.keys, holds.2.2.canonical, holds.2.2.digests, holds.2.2.positive⟩
  revision := by
    intro rows taskId revision holds
    exact ⟨holds.1, holds.2.1.incrementRevision taskId revision, holds.2.2.keys,
      holds.2.2.canonical, holds.2.2.digests, holds.2.2.positive⟩
  outcome := by
    intro rows events current holds
    exact ⟨holds.1, ⟨holds.2.1.keys, holds.2.1.canonical, holds.2.1.positive⟩,
      holds.2.2.keys, holds.2.2.canonical, holds.2.2.digests, holds.2.2.positive⟩
  rebuild := by
    intro objectiveId rows next value holds ran
    have free : AggregateFree fun rows => rows.withoutEvidence = standing ∧ TasksSound rows :=
      fun _ _ holds => ⟨holds.1, holds.2.keys, holds.2.canonical, holds.2.positive⟩
    obtain ⟨same, tasks⟩ := keeps_rebuildAggregate python free objectiveId
      ⟨holds.1, holds.2.1⟩ ran
    exact ⟨same, tasks, keeps_aggregatesSound digests objectiveId holds.2.2 ran⟩

theorem Framed.command {Inv : TaskRows → Prop} (framed : Framed python Inv) (command : TaskCommand)
    (holds : Inv rows) : Inv (command.apply python rows) := by
  cases command with
  | execute command =>
    cases command with
    | start => exact commit_keeps (framed.start _ _ _ _ _) holds
    | startSelected => exact commit_keeps (framed.startSelected _ _ _ _ _ _) holds
    | finish => exact commit_keeps (framed.finish _ _ _ _ _) holds
    | correct => exact commit_keeps (framed.correct _ _ _ _) holds
    | cancel => exact commit_keeps (framed.cancel _ _ _ _ _ _ _) holds
  | review => exact commit_keeps (framed.review _ _ _) holds
  | correctOutcome => exact commit_keeps (framed.correctOutcome _ _ _) holds

theorem RunSound.step (digests : HexDigests python) (sound : RunSound python rows)
    (stepped : UnstrandingStep python rows next) : RunSound python next := by
  obtain ⟨command, allowed⟩ := stepped
  obtain ⟨same, tasks, aggregates⟩ := (framed_standing digests rows.withoutEvidence).command command
    ⟨rfl, sound.tasks, sound.aggregates⟩
  have evidence := sound.evidence.command python allowed
  exact ⟨evidence, tasks, aggregates,
    sound.rebuildable.transfer evidence.folded evidence.outcomes same⟩

theorem runSound_of_reachable (digests : HexDigests python)
    (reached : Reachable (Unexecuted python) (UnstrandingStep python) rows) :
    RunSound python rows := by
  apply reached.invariant (RunSound python)
  · intro rows initial
    have folded := HistoryFolded.empty initial.executionEvents initial.executionProjections
    have outcomes := OutcomesSound.empty initial.outcomeEvents initial.outcomeCurrent
    refine ⟨⟨folded, outcomes, ?_⟩, initial.tasks, initial.aggregates, initial.rebuildable⟩
    intro taskId reviewed
    simp [TaskRows.outcomeCurrent?, initial.outcomeCurrent] at reviewed
  · exact fun rows next sound stepped => sound.step digests stepped

theorem HistoryFolded.begun (folded : HistoryFolded rows) {authority : ExecutionAuthority}
    (read : executionAuthority rows taskId = .ok authority)
    (begun : authority.folded.state ≠ .notStarted) :
    authority.projectionExists = true ∧ 0 < authority.revision := by
  obtain ⟨_, reads, fold, length, exists_, -⟩ := folded.authority taskId
  rw [read, Except.ok.injEq] at reads
  subst reads
  have inhabited : rows.executionHistory taskId ≠ [] := by
    intro empty
    have idle : foldExecutionHistory [] = .ok .idle := rfl
    rw [empty, idle, Except.ok.injEq] at fold
    exact begun (fold ▸ rfl)
  refine ⟨?_, length ▸ List.length_pos_iff.mpr inhabited⟩
  by_contra absent
  rw [exists_, Bool.not_eq_true, Option.isSome_eq_false_iff, Option.isNone_iff_eq_none] at absent
  have projected := folded.projected taskId
  rw [absent] at projected
  exact inhabited projected

/-! ## Statements that succeed -/

section Statements

variable {event : TaskExecutionEvent} {authority : ExecutionAuthority}

theorem insertExecutionEvent_runs
    (fresh : event.executionEventId ∉ rows.executionEvents.map (·.executionEventId))
    (known : event.taskId ∈ rows.tasks.map (·.taskId)) (plain : event.targetEventId = none)
    (numbered : event.executionRevision = rows.lastExecutionRevision event.taskId + 1) :
    (insertExecutionEvent event).run rows =
      .ok (⟨⟩, { rows with executionEvents := rows.executionEvents ++ [event] }) := by
  simp only [insertExecutionEvent, steps_ok, plain]
  refine ⟨⟨fresh, known, ?_⟩, numbered, trivial⟩
  rintro _ ⟨⟩

theorem projectionGuard_inserted {row : TaskExecutionProjection} (owner : row.taskId = event.taskId)
    (last : row.lastEventId = event.executionEventId)
    (revision : row.revision = event.executionRevision)
    (length : (rows.executionHistory event.taskId).length + 1 = event.executionRevision) :
    ProjectionGuard { rows with executionEvents := rows.executionEvents ++ [event] } row := by
  refine ⟨⟨event, List.mem_concat_self, last.symm, owner.symm,
    revision.symm⟩, ?_⟩
  rw [revision, owner, ← length]
  simp [TaskRows.executionHistory]

variable {change : TaskExecutionProjection → TaskExecutionProjection} {lost : Raised}

theorem updateExecutionProjection_runs (folded : HistoryFolded rows)
    (read : executionAuthority rows event.taskId = .ok authority)
    (standing : authority.projectionExists = true)
    (numbered : event.executionRevision = authority.revision + 1)
    (kept : ∀ row, (change row).taskId = row.taskId ∧
      (change row).lastEventId = event.executionEventId ∧ (change row).revision = row.revision + 1) :
    ∃ projections, (updateExecutionProjection
        (fun row => row.taskId = event.taskId ∧ row.revision = authority.revision) change lost).run
        { rows with executionEvents := rows.executionEvents ++ [event] } =
      .ok (⟨⟩, { rows with
        executionEvents := rows.executionEvents ++ [event]
        executionProjections := projections }) := by
  obtain ⟨_, reads, -, length, exists_, columns⟩ := folded.authority event.taskId
  rw [read, Except.ok.injEq] at reads
  subst reads
  rw [exists_, Option.isSome_iff_exists] at standing
  obtain ⟨projection, stored⟩ := standing
  obtain ⟨-, revision, -⟩ := columns projection stored
  have inside : projection ∈ rows.executionProjections := List.mem_of_find?_eq_some stored
  have owner : projection.taskId = event.taskId := by simpa using List.find?_some stored
  have one : rows.executionProjections.countP (fun row =>
      decide (row.taskId = event.taskId ∧ row.revision = authority.revision)) = 1 :=
    countP_eq_one folded.keys inside (decide_eq_true ⟨owner, revision.symm⟩)
      fun row _ hit => (of_decide_eq_true hit).1.trans owner.symm
  simp only [updateExecutionProjection, steps_ok]
  refine ⟨_, one, ?_, rfl⟩
  intro row _ hit
  obtain ⟨same, current⟩ := of_decide_eq_true hit
  obtain ⟨keeps, last, next⟩ := kept row
  refine projectionGuard_inserted (keeps.trans same) last ?_ ?_
  · rw [next, current, numbered]
  · rw [numbered, length]

/-- The first projection of a task, or the next one. -/
theorem advanceProjection_runs {first : TaskExecutionProjection} (folded : HistoryFolded rows)
    (read : executionAuthority rows event.taskId = .ok authority)
    (known : event.taskId ∈ rows.tasks.map (·.taskId))
    (numbered : event.executionRevision = authority.revision + 1)
    (kept : ∀ row, (change row).taskId = row.taskId ∧
      (change row).lastEventId = event.executionEventId ∧ (change row).revision = row.revision + 1)
    (begins : first.taskId = event.taskId ∧ first.lastEventId = event.executionEventId ∧
      first.revision = 1) :
    ∃ projections, (if authority.projectionExists then
        updateExecutionProjection
          (fun row => row.taskId = event.taskId ∧ row.revision = authority.revision) change lost
      else insertExecutionProjection first).run
        { rows with executionEvents := rows.executionEvents ++ [event] } =
      .ok (⟨⟩, { rows with
        executionEvents := rows.executionEvents ++ [event]
        executionProjections := projections }) := by
  by_cases standing : authority.projectionExists = true
  · rw [if_pos standing]
    exact updateExecutionProjection_runs folded read standing numbered kept
  · rw [if_neg standing]
    obtain ⟨owner, last, one⟩ := begins
    obtain ⟨_, reads, -, length, exists_, -⟩ := folded.authority event.taskId
    rw [read, Except.ok.injEq] at reads
    subst reads
    have absent : rows.executionProjection? event.taskId = none := by
      rw [exists_] at standing
      simpa using standing
    have empty : rows.executionHistory event.taskId = [] := by
      have projected := folded.projected event.taskId
      rw [absent] at projected
      exact projected
    have vacant : first.taskId ∉ rows.executionProjections.map (·.taskId) := by
      intro inside
      obtain ⟨row, listed, same⟩ := List.mem_map.mp inside
      exact List.find?_eq_none.mp absent row listed (by simpa using same.trans owner)
    rw [length, empty, List.length_nil] at numbered
    simp only [insertExecutionProjection, steps_ok]
    refine ⟨_, ⟨vacant, owner ▸ known⟩, ?_, rfl⟩
    refine projectionGuard_inserted owner last ?_ ?_
    · rw [one, numbered]
    · rw [empty, numbered, List.length_nil]

theorem incrementRevision_runs {task : TaskRecord} (keys : (rows.tasks.map (·.taskId)).Nodup)
    (inside : task ∈ rows.tasks) :
    (incrementRevision task.taskId task.revision).run rows =
      .ok (⟨⟩, rows.incrementRevision task.taskId task.revision) := by
  have one : rows.tasks.countP (fun row =>
      decide (row.taskId = task.taskId ∧ row.revision = task.revision)) = 1 :=
    countP_eq_one keys inside (decide_eq_true ⟨rfl, rfl⟩)
      fun row _ hit => (of_decide_eq_true hit).1
  simp only [incrementRevision, steps_ok]
  exact ⟨one, trivial⟩

theorem insertOutcome_runs {reviewed : TaskOutcomeEvent} {current : TaskOutcomeCurrent}
    (fresh : reviewed.outcomeEventId ∉ rows.outcomeEvents.map (·.outcomeEventId))
    (known : reviewed.taskId ∈ rows.tasks.map (·.taskId))
    (genesis : reviewed.correctionOfEventId = none) (sound : OutcomesSound rows)
    (absent : rows.outcomeCurrent? reviewed.taskId = none)
    (owner : current.taskId = reviewed.taskId)
    (named : current.outcomeEventId = reviewed.outcomeEventId)
    (accepted : current.acceptedOutcome = reviewed.acceptedOutcome)
    (instant : current.reviewedAtUtc = reviewed.reviewedAtUtc) :
    (insertOutcomeEvent reviewed).run rows =
        .ok (⟨⟩, { rows with outcomeEvents := rows.outcomeEvents ++ [reviewed] }) ∧
      (insertOutcomeCurrent current).run
          { rows with outcomeEvents := rows.outcomeEvents ++ [reviewed] } =
        .ok (⟨⟩, { rows with
          outcomeEvents := rows.outcomeEvents ++ [reviewed]
          outcomeCurrent := rows.outcomeCurrent ++ [current] }) := by
  have vacant : current.taskId ∉ rows.outcomeCurrent.map (·.taskId) := by
    intro inside
    obtain ⟨row, listed, same⟩ := List.mem_map.mp inside
    exact List.find?_eq_none.mp absent row listed (by simpa using same.trans owner)
  have unnamed : current.outcomeEventId ∉ rows.outcomeCurrent.map (·.outcomeEventId) := by
    intro inside
    obtain ⟨row, listed, same⟩ := List.mem_map.mp inside
    obtain ⟨event, stored, matched, -⟩ := (sound.backed row listed).event
    exact fresh (List.mem_map.mpr ⟨event, stored, matched.trans (same.trans named)⟩)
  constructor
  · simp only [insertOutcomeEvent, steps_ok, genesis]
    refine ⟨⟨fresh, known, ?_⟩, trivial⟩
    rintro _ ⟨⟩
  · simp only [insertOutcomeCurrent, steps_ok]
    refine ⟨⟨vacant, unnamed⟩, ?_, trivial⟩
    exact ⟨reviewed, List.mem_concat_self, named.symm, owner.symm,
      accepted.symm, instant.symm⟩

end Statements

/-! ## Writes that succeed -/

section Writes

variable {task : TaskRecord} {authority : ExecutionAuthority} {instant : Nat}
  (sound : RunSound python rows) (inside : task ∈ rows.tasks)
  (read : executionAuthority rows task.taskId = .ok authority)

include sound inside read

theorem numbered_next : HistoryFolded rows ∧ task.taskId ∈ rows.tasks.map (·.taskId) ∧
    authority.revision + 1 = rows.lastExecutionRevision task.taskId + 1 := by
  have folded := sound.evidence.folded
  refine ⟨folded, List.mem_map_of_mem inside, ?_⟩
  rw [lastExecutionRevision_eq (folded.contiguous task.taskId), (folded.read read).2.1]

theorem applyStart_runs {eventId : String}
    (fresh : eventId ∉ rows.executionEvents.map (·.executionEventId)) :
    ∃ next, (applyStart task.taskId task.revision authority eventId instant).run rows =
      .ok (⟨⟩, next) := by
  obtain ⟨folded, known, numbered⟩ := numbered_next sound inside read
  let event := baseEvent eventId task.taskId (authority.revision + 1) .start (some instant) none
  have inserted := @insertExecutionEvent_runs rows event fresh known rfl numbered
  obtain ⟨projections, projected⟩ := @advanceProjection_runs rows event authority
    (fun row => { row with
      executionState := .inProgress
      actualStartUtc := some instant
      actualEndUtc := none
      effectiveTerminationUtc := none
      terminationReason := none
      revision := row.revision + 1
      lastEventId := eventId })
    (integrityFailure "Task execution projection changed during guarded start")
    ⟨task.taskId, .inProgress, some instant, none, none, none, 1, eventId⟩ folded read known rfl
    (fun _ => ⟨rfl, rfl, rfl⟩) ⟨rfl, rfl, rfl⟩
  have revised := @incrementRevision_runs { rows with
    executionEvents := rows.executionEvents ++ [event]
    executionProjections := projections } task sound.tasks.keys inside
  exact ⟨_, bind_ok.mpr ⟨⟨⟩, _, inserted, bind_ok.mpr ⟨⟨⟩, _, projected, revised⟩⟩⟩

theorem applyEnd_runs {eventId : String} (running : authority.folded.state = .inProgress)
    (fresh : eventId ∉ rows.executionEvents.map (·.executionEventId)) :
    ∃ next, (applyEnd task.taskId task.revision authority eventId instant).run rows =
      .ok (⟨⟩, next) := by
  obtain ⟨folded, known, numbered⟩ := numbered_next sound inside read
  obtain ⟨standing, -⟩ := folded.begun read (by rw [running]; exact (by decide :
    ExecutionState.inProgress ≠ .notStarted))
  let event := baseEvent eventId task.taskId (authority.revision + 1) .endEvent (some instant) none
  have inserted := @insertExecutionEvent_runs rows event fresh known rfl numbered
  obtain ⟨projections, projected⟩ := @updateExecutionProjection_runs rows event authority
    (fun row => { row with
      executionState := .ended
      actualEndUtc := some instant
      effectiveTerminationUtc := none
      terminationReason := none
      revision := row.revision + 1
      lastEventId := eventId })
    (integrityFailure "Task execution projection changed during guarded end") folded read standing
    rfl (fun _ => ⟨rfl, rfl, rfl⟩)
  have revised := @incrementRevision_runs { rows with
    executionEvents := rows.executionEvents ++ [event]
    executionProjections := projections } task sound.tasks.keys inside
  exact ⟨_, bind_ok.mpr ⟨⟨⟩, _, inserted, bind_ok.mpr ⟨⟨⟩, _, projected, revised⟩⟩⟩

theorem applyCancel_runs {call : Call} {reason : String}
    (fresh : (call.newUuid4 0).value ∉ rows.executionEvents.map (·.executionEventId))
    (unused : (call.newUuid4 1).value ∉ rows.outcomeEvents.map (·.outcomeEventId))
    (absent : rows.outcomeCurrent? task.taskId = none) :
    ∃ next, (applyCancel call task.taskId task.revision authority instant reason).run rows =
      .ok (⟨⟩, next) := by
  obtain ⟨folded, known, numbered⟩ := numbered_next sound inside read
  let event := baseEvent (call.newUuid4 0).value task.taskId (authority.revision + 1) .manualCancel
    (some instant) (some reason)
  have inserted := @insertExecutionEvent_runs rows event fresh known rfl numbered
  obtain ⟨projections, projected⟩ := @advanceProjection_runs rows event authority
    (fun row => { row with
      executionState := .terminated
      actualStartUtc := none
      actualEndUtc := none
      effectiveTerminationUtc := some instant
      terminationReason := some reason
      revision := row.revision + 1
      lastEventId := (call.newUuid4 0).value })
    (integrityFailure "Task execution projection changed during guarded cancellation")
    ⟨task.taskId, .terminated, none, none, some instant, some reason, 1,
      (call.newUuid4 0).value⟩ folded read known rfl (fun _ => ⟨rfl, rfl, rfl⟩) ⟨rfl, rfl, rfl⟩
  let middle := { rows with
    executionEvents := rows.executionEvents ++ [event]
    executionProjections := projections }
  obtain ⟨reviewed, current⟩ := @insertOutcome_runs middle
    ⟨(call.newUuid4 1).value, task.taskId, .cancelledWithoutExecution, none, some reason, call.now,
      call.commandId⟩
    ⟨task.taskId, (call.newUuid4 1).value, .cancelledWithoutExecution, call.now, 1, call.commandId⟩
    unused known rfl (sound.evidence.outcomes.of_outcomes rfl) absent rfl rfl rfl rfl
  exact ⟨_, bind_ok.mpr ⟨⟨⟩, _, inserted, bind_ok.mpr ⟨⟨⟩, _, projected, bind_ok.mpr ⟨⟨⟩, _,
    reviewed, bind_ok.mpr ⟨⟨⟩, _, current,
      incrementRevision_runs (by exact sound.tasks.keys) (by exact inside)⟩⟩⟩⟩⟩

end Writes

/-! ## Commands that succeed -/

/-- Identifiers that no stored event has. -/
structure FreshCall (rows : TaskRows) (call : Call) : Prop where
  execution : (call.newUuid4 0).value ∉ rows.executionEvents.map (·.executionEventId)
  outcome : (call.newUuid4 1).value ∉ rows.outcomeEvents.map (·.outcomeEventId)

section Commands

variable {task : TaskRecord} {authority : ExecutionAuthority} (digests : HexDigests python)
  (sound : RunSound python rows) (inside : task ∈ rows.tasks)
  (read : executionAuthority rows task.taskId = .ok authority)

theorem requireTask_runs (tasks : TasksSound rows) (inside : task ∈ rows.tasks)
    (missing stale : Raised) :
    requireTask rows task.taskId task.revision missing stale = .ok task := by
  have found : rows.task? task.taskId = some task := find?_eq_some tasks.keys inside
  unfold requireTask
  rw [found]
  exact except_bind_ok.mpr ⟨⟨⟩, ensure_ok.mpr rfl, rfl⟩

theorem requireRevision_natural (value : Nat) (label : String) :
    requireRevision value label true = .ok ⟨⟩ := by
  simp only [requireRevision, if_true]
  exact ensure_ok.mpr (Int.natCast_nonneg value)

theorem RunSound.unreviewed (sound : RunSound python rows)
    (read : executionAuthority rows taskId = .ok authority)
    (open_ : authority.folded.state.isTerminal = false) : rows.outcomeCurrent? taskId = none := by
  by_contra standing
  have reviewed : (rows.outcomeCurrent? taskId).isSome := Option.isSome_iff_ne_none.mpr standing
  have terminal := sound.evidence.closed taskId reviewed authority read
  rw [open_] at terminal
  cases terminal

include digests sound

theorem rebuild_runs (folded : HistoryFolded middle) (outcomes : OutcomesSound middle)
    (standing : middle.withoutEvidence = rows.withoutEvidence ∧ TasksSound middle ∧
      AggregatesSound middle) (changed : NewDigest python taskId middle) :
    ∃ next, (rebuildIfMember python taskId).run middle = .ok (⟨⟩, next) :=
  rebuildIfMember_succeeds digests standing.2.2
    (sound.rebuildable.transfer folded outcomes standing.1) changed

include inside read

/-- A task in progress can be ended at any instant not before its start. -/
theorem endTaskExecution_runs (running : authority.folded.state = .inProgress)
    (since : authority.folded.actualStartUtc = some started) (ordered : started ≤ instant)
    (fresh : FreshCall rows call)
    (changed : NewDigest python task.taskId (commit (applyEnd task.taskId task.revision authority
      (call.newUuid4 0).value instant) rows).2) :
    (commit (endTaskExecution python call task.taskId task.revision authority.revision instant)
      rows).1 = .ok ⟨false, task.taskId, task.revision + 1⟩ := by
  have absent := sound.unreviewed read (by rw [running]; rfl)
  have prepared : prepareEnd rows task.taskId task.revision authority.revision instant =
      .ok (task, authority) := by
    simp only [prepareEnd, except_ok]
    refine ⟨task, requireTask_runs sound.tasks inside _ _, authority, read, rfl, ?_, ?_, ?_⟩
    · rw [running]
      exact (by decide : ExecutionState.inProgress ≠ .notStarted)
    · rw [running]
      exact (by decide : ExecutionState.inProgress ∉ [ExecutionState.ended, .terminated])
    · simp only [since, except_ok]
      exact ⟨false, sound.evidence.outcomes.hasTerminalOutcome absent, rfl, ordered, trivial⟩
  obtain ⟨middle, applied⟩ := @applyEnd_runs _ _ _ _ instant sound inside read _ running
    fresh.execution
  rw [commit_of_ok applied] at changed
  have folded := (applyEnd_executed sound.evidence.folded read running since ordered
    (call.newUuid4 0).canonical applied).folded
  have outcomes := sound.evidence.outcomes.of_outcomes
    (keeps_applyEnd (executionFree_outcomes _) _ _ _ _ _ rfl applied)
  have standing := keeps_applyEnd (framed_standing digests rows.withoutEvidence).toExecutionFree
    _ _ _ _ _ ⟨rfl, sound.tasks, sound.aggregates⟩ applied
  obtain ⟨next, rebuilt⟩ := rebuild_runs digests sound folded outcomes standing changed
  have positive := sound.tasks.positive task inside
  have begun := (sound.evidence.folded.begun read (by rw [running]; exact (by decide :
    ExecutionState.inProgress ≠ .notStarted))).2
  have ran : (endTaskExecution python call task.taskId task.revision authority.revision
      instant).run rows = .ok (⟨false, task.taskId, task.revision + 1⟩, next) := by
    simp only [endTaskExecution, steps_ok]
    exact ⟨ensure_ok.mpr (sound.tasks.canonical task inside), ensure_ok.mpr (by omega),
      ensure_ok.mpr (by omega), by omega, (task, authority), prepared, middle, applied, next,
      rebuilt, rfl, rfl⟩
  exact congrArg Prod.fst (commit_of_ok ran)

/-- A task that has not started can be started at any instant. -/
theorem startTaskExecution_runs (idle : authority.folded.state = .notStarted)
    (valid : validateEffectiveStart effectiveStart = .ok ⟨⟩) (fresh : FreshCall rows call)
    (changed : NewDigest python task.taskId (commit (applyStart task.taskId task.revision authority
      (call.newUuid4 0).value (effectiveStart.accepted call)) rows).2) :
    (commit (startTaskExecution python call task.taskId task.revision authority.revision
      effectiveStart) rows).1 = .ok ⟨false, task.taskId, task.revision + 1⟩ := by
  have absent := sound.unreviewed read (by rw [idle]; rfl)
  have prepared : prepareStart rows task.taskId task.revision authority.revision =
      .ok (task, authority) := by
    simp only [prepareStart, admitStart, except_ok]
    refine ⟨task, requireTask_runs sound.tasks inside _ _, authority, read, rfl,
      ⟨?_, ?_, false, sound.evidence.outcomes.hasTerminalOutcome absent, rfl⟩, rfl⟩
    · rw [idle]
      exact (by decide : ExecutionState.notStarted ≠ .inProgress)
    · rw [idle]
      exact (by decide : ExecutionState.notStarted ∉ [ExecutionState.ended, .terminated])
  obtain ⟨middle, applied⟩ := @applyStart_runs _ _ _ _ (effectiveStart.accepted call) sound inside
    read _ fresh.execution
  rw [commit_of_ok applied] at changed
  have folded := (applyStart_executed sound.evidence.folded read idle
    (call.newUuid4 0).canonical applied).folded
  have outcomes := sound.evidence.outcomes.of_outcomes
    (keeps_applyStart (executionFree_outcomes _) _ _ _ _ _ rfl applied)
  have standing := keeps_applyStart (framed_standing digests rows.withoutEvidence).toExecutionFree
    _ _ _ _ _ ⟨rfl, sound.tasks, sound.aggregates⟩ applied
  obtain ⟨next, rebuilt⟩ := rebuild_runs digests sound folded outcomes standing changed
  have positive := sound.tasks.positive task inside
  have ran : (startTaskExecution python call task.taskId task.revision authority.revision
      effectiveStart).run rows = .ok (⟨false, task.taskId, task.revision + 1⟩, next) := by
    simp only [startTaskExecution, steps_ok]
    exact ⟨ensure_ok.mpr (sound.tasks.canonical task inside), ensure_ok.mpr (by omega),
      requireRevision_natural _ _, valid, (task, authority), prepared, middle, applied, next,
      rebuilt, rfl, rfl⟩
  exact congrArg Prod.fst (commit_of_ok ran)

/-- A task that has not started can be cancelled. -/
theorem cancelTaskWithoutExecution_runs (idle : authority.folded.state = .notStarted)
    (valid : validateReasonCategory reason = .ok ⟨⟩) (fresh : FreshCall rows call)
    (changed : NewDigest python task.taskId (commit (applyCancel call task.taskId task.revision
      authority instant reason) rows).2) :
    (commit (cancelTaskWithoutExecution python call task.taskId task.revision authority.revision 0
      instant reason) rows).1 = .ok ⟨false, task.taskId, task.revision + 1⟩ := by
  have absent := sound.unreviewed read (by rw [idle]; rfl)
  have unstarted : authority.folded.actualStartUtc = none := by
    rw [(fold_shaped (sound.evidence.folded.read read).1).notStarted idle]
    rfl
  have prepared : prepareCancel rows task.taskId task.revision authority.revision =
      .ok (task, authority) := by
    have found : rows.task? task.taskId = some task := find?_eq_some sound.tasks.keys inside
    unfold prepareCancel
    simp only [found, except_ok]
    refine ⟨authority, read, false, sound.evidence.outcomes.hasTerminalOutcome absent, rfl,
      fun both => both.2 unstarted, ⟨?_, rfl⟩, trivial, ⟨idle, unstarted⟩, rfl⟩
    rw [idle]
    exact (by decide : ExecutionState.notStarted ∉ [ExecutionState.ended, .terminated])
  obtain ⟨middle, applied⟩ := @applyCancel_runs _ _ _ _ instant sound inside read call reason
    fresh.execution fresh.outcome absent
  rw [commit_of_ok applied] at changed
  have folded := (applyCancel_executed sound.evidence.folded read idle unstarted applied).folded
  have outcomes := (applyCancel_reviewed sound.evidence.outcomes applied).sound
  have framed := framed_standing digests rows.withoutEvidence
  have standing := keeps_applyCancel framed.outcome framed.toExecutionFree _ _ _ _ _ _
    ⟨rfl, sound.tasks, sound.aggregates⟩ applied
  obtain ⟨next, rebuilt⟩ := rebuild_runs digests sound folded outcomes standing changed
  have positive := sound.tasks.positive task inside
  have ran : (cancelTaskWithoutExecution python call task.taskId task.revision authority.revision 0
      instant reason).run rows = .ok (⟨false, task.taskId, task.revision + 1⟩, next) := by
    simp only [cancelTaskWithoutExecution, steps_ok]
    exact ⟨ensure_ok.mpr (sound.tasks.canonical task inside), ensure_ok.mpr (by omega),
      requireRevision_natural _ _, trivial, by omega, valid, (task, authority), prepared, middle,
      applied, next, rebuilt, rfl, rfl⟩
  exact congrArg Prod.fst (commit_of_ok ran)

end Commands

/-! ## Open tasks -/

/-- The failure that says a task in progress was reviewed. -/
def reviewedBeforeEnd : Raised :=
  integrityFailure "Task has a reviewed terminal outcome before execution end"

/-- Every task whose execution is open can make progress. -/
structure Progresses (python : PythonLibrary) (rows : TaskRows) : Prop where
  ends : ∀ (call : Call) (task : TaskRecord) (authority : ExecutionAuthority)
    (started instant : Nat), task ∈ rows.tasks →
    executionAuthority rows task.taskId = .ok authority → authority.folded.state = .inProgress →
    authority.folded.actualStartUtc = some started → started ≤ instant → FreshCall rows call →
    NewDigest python task.taskId (commit (applyEnd task.taskId task.revision authority
      (call.newUuid4 0).value instant) rows).2 →
    (commit (endTaskExecution python call task.taskId task.revision authority.revision instant)
      rows).1 = .ok ⟨false, task.taskId, task.revision + 1⟩
  starts : ∀ (call : Call) (task : TaskRecord) (authority : ExecutionAuthority)
    (effectiveStart : EffectiveStart), task ∈ rows.tasks →
    executionAuthority rows task.taskId = .ok authority → authority.folded.state = .notStarted →
    validateEffectiveStart effectiveStart = .ok ⟨⟩ → FreshCall rows call →
    NewDigest python task.taskId (commit (applyStart task.taskId task.revision authority
      (call.newUuid4 0).value (effectiveStart.accepted call)) rows).2 →
    (commit (startTaskExecution python call task.taskId task.revision authority.revision
      effectiveStart) rows).1 = .ok ⟨false, task.taskId, task.revision + 1⟩
  cancels : ∀ (call : Call) (task : TaskRecord) (authority : ExecutionAuthority)
    (instant : Nat) (reason : String), task ∈ rows.tasks →
    executionAuthority rows task.taskId = .ok authority → authority.folded.state = .notStarted →
    validateReasonCategory reason = .ok ⟨⟩ → FreshCall rows call →
    NewDigest python task.taskId (commit (applyCancel call task.taskId task.revision authority
      instant reason) rows).2 →
    (commit (cancelTaskWithoutExecution python call task.taskId task.revision authority.revision 0
      instant reason) rows).1 = .ok ⟨false, task.taskId, task.revision + 1⟩
  unreviewed : ∀ (taskId : String) (taskRevision executionRevision : Int) (acceptedEnd : Nat),
    prepareEnd rows taskId taskRevision executionRevision acceptedEnd ≠ .error reviewedBeforeEnd

theorem raises_requireTask {Allowed : Raised → Prop} (absent : Allowed missing)
    (changed : Allowed stale) :
    RaisesOnly Allowed (requireTask rows taskId revision missing stale) := by
  unfold requireTask
  cases rows.task? taskId with
  | none => exact .error absent
  | some task => exact .bind (raisesOnly_ensure changed) fun _ => .ok _

/-- A task in progress is never read with an outcome. -/
theorem RunSound.prepareEnd_error (sound : RunSound python rows) (taskId : String)
    (taskRevision executionRevision : Int) (acceptedEnd : Nat) :
    prepareEnd rows taskId taskRevision executionRevision acceptedEnd ≠
      .error reviewedBeforeEnd := by
  obtain ⟨authority, read, -⟩ := sound.evidence.folded.authority taskId
  have others : RaisesOnly (· ≠ reviewedBeforeEnd)
      (prepareEnd rows taskId taskRevision executionRevision acceptedEnd) := by
    refine .bind (raises_requireTask (by decide) (by decide)) fun task =>
      .bind_of_ok (.of_ok _ read) fun found same => ?_
    rw [read, Except.ok.injEq] at same
    subst same
    refine .bind (raisesOnly_ensure (by decide)) fun _ =>
      .bind_of_ok (raisesOnly_ensure (by decide)) fun _ begun =>
      .bind_of_ok (raisesOnly_ensure (by decide)) fun _ standing => ?_
    cases since : authority.folded.actualStartUtc with
    | none => exact .error (by decide)
    | some started =>
      have running : authority.folded.state.isTerminal = false := by
        have terminal := ensure_ok.mp standing
        rw [ExecutionState.isTerminal, decide_eq_false_iff_not]
        exact terminal
      have absent := sound.unreviewed read running
      have none_ := sound.evidence.outcomes.hasTerminalOutcome absent
      refine .bind_of_ok (.of_ok _ none_) fun hasOutcome same => ?_
      rw [none_, Except.ok.injEq] at same
      subst same
      exact .bind (.of_ok ⟨⟩ rfl) fun _ => .bind (raisesOnly_ensure (by decide)) fun _ => .ok _
  exact fun raised => others raised rfl

/-- In every run whose corrections strand no reviewed outcome, every open task
can make progress in every state. -/
theorem open_tasks_progress (digests : HexDigests python)
    (reached : Reachable (Unexecuted python) (UnstrandingStep python) rows) :
    Progresses python rows := by
  have sound := runSound_of_reachable digests reached
  constructor
  · intro call task authority started instant inside read running since ordered fresh changed
    exact endTaskExecution_runs digests sound inside read running since ordered fresh changed
  · intro call task authority effectiveStart inside read idle valid fresh changed
    exact startTaskExecution_runs digests sound inside read idle valid fresh changed
  · intro call task authority instant reason inside read idle valid fresh changed
    exact cancelTaskWithoutExecution_runs digests sound inside read idle valid fresh changed
  · exact sound.prepareEnd_error

theorem constantPython_digests : HexDigests constantPython :=
  fun _ => (by decide +kernel : isSha256 (constantPython.sha256Hex "") = true)

theorem oneTask_unexecuted : Unexecuted constantPython oneTask where
  executionEvents := rfl
  executionProjections := rfl
  outcomeEvents := rfl
  outcomeCurrent := rfl
  tasks := ⟨by decide, by decide +kernel, by decide⟩
  aggregates := ⟨List.nodup_nil, by simp [oneTask], by simp [oneTask], by simp [oneTask]⟩
  rebuildable := ⟨fun _ => ⟨none, rfl, by simp⟩, rfl⟩

def secondEnd : Uuid4 := ⟨"00000000-0000-4000-8000-0000000000b4", by decide +kernel⟩

/-- The task whose end was withdrawn is ended again. -/
theorem withdrawn_task_ends :
    (commit (endTaskExecution constantPython (callWith secondEnd) onlyTask 4 3 30)
      afterWithdrawal).1 = .ok ⟨false, onlyTask, 5⟩ := by
  have started := Reachable.step (.start oneTask_unexecuted)
    (@UnstrandingStep.command constantPython _ (.execute
      (.start (callWith startEvent) onlyTask 1 0 (.instant 10))) rfl)
  have ended := started.step (.command (.execute
    (.finish (callWith endEvent) onlyTask 2 1 20)) rfl)
  have withdrawn := ended.step (.command (.execute (.correct (callWith withdrawal)
    (withdraws 3 2 endEvent 2) (constantPython.sha256Hex "") true)) (by decide +kernel))
  have inside : (⟨onlyTask, .localTask, 4⟩ : TaskRecord) ∈ afterWithdrawal.tasks ∧
      executionAuthority afterWithdrawal onlyTask =
        .ok ⟨3, ⟨.inProgress, some 10, none, none⟩, some withdrawal.value, true⟩ ∧
      secondEnd.value ∉ afterWithdrawal.executionEvents.map (·.executionEventId) ∧
      secondEnd.value ∉ afterWithdrawal.outcomeEvents.map (·.outcomeEventId) ∧
      (commit (applyEnd onlyTask 4 ⟨3, ⟨.inProgress, some 10, none, none⟩, some withdrawal.value,
        true⟩ secondEnd.value 30) afterWithdrawal).2.membership? onlyTask = none := by
    decide +kernel
  obtain ⟨inside, read, fresh, unused, alone⟩ := inside
  refine (open_tasks_progress constantPython_digests withdrawn).ends (callWith secondEnd)
    ⟨onlyTask, .localTask, 4⟩ ⟨3, ⟨.inProgress, some 10, none, none⟩, some withdrawal.value, true⟩ 10
    30 inside read rfl rfl (by decide) ⟨fresh, unused⟩ ?_
  intro membership stored derived found
  exact absurd (alone.symm.trans found) (by simp)

/-- The task is reviewed as completed before its end is withdrawn, and the
invalidation of the outcome is accepted. -/
def strandedRun : List TaskCommand :=
  [.execute (.start (callWith startEvent) onlyTask 1 0 (.instant 10)),
    .execute (.finish (callWith endEvent) onlyTask 2 1 20),
    .review (callWith startEvent) ⟨onlyTask, 3, 2, 0, none, .completed, none⟩
      (constantPython.sha256Hex ""),
    .execute (.correct (callWith withdrawal) (withdraws 4 2 endEvent 2)
      (constantPython.sha256Hex "") true)]

def afterStranding : TaskRows :=
  strandedRun.foldl (fun rows command => command.apply constantPython rows) oneTask

/-- The task is in progress since 10, and ending it at 30 is an integrity failure. -/
theorem stranded_task_cannot_end :
    (afterStranding.executionProjection? onlyTask).map (·.folded) =
        some ⟨.inProgress, some 10, none, none⟩ ∧
      (commit (endTaskExecution constantPython (callWith secondEnd) onlyTask 5 3 30)
        afterStranding).1 = .error reviewedBeforeEnd := by
  decide +kernel

end Soma.ObjectivesTasks
