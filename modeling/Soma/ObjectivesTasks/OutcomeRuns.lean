import Soma.ObjectivesTasks.CommandFrames
import Soma.ObjectivesTasks.OutcomeHistory

/-!
Runs of the commands on executions and outcomes.

A command that does not strand a reviewed outcome keeps every reviewed outcome on
a terminal execution: the writers of executions refuse a task with an outcome,
the reviews refuse an execution that is not terminal, and a correction is the one
writer that takes an execution back.
-/

namespace Soma.ObjectivesTasks

open Execution Foundation Transaction Rows

variable {rows next : TaskRows} {taskId : String}

def ExecutionState.isTerminal (state : ExecutionState) : Bool :=
  state ∈ [.ended, .terminated]

/-- No reviewed outcome stands on an execution that is open. -/
def Closed (rows : TaskRows) : Prop :=
  ∀ taskId, (rows.outcomeCurrent? taskId).isSome → ∀ authority,
    executionAuthority rows taskId = .ok authority → authority.folded.state.isTerminal

/-- The execution tables and the outcome tables, each for itself and together. -/
structure EvidenceSound (rows : TaskRows) : Prop where
  folded : HistoryFolded rows
  outcomes : OutcomesSound rows
  closed : Closed rows

/-! ## What the writes do to the evidence -/

theorem executionAuthority_eq (same : next.execution = rows.execution) (taskId : String) :
    executionAuthority next taskId = executionAuthority rows taskId := by
  have events : next.executionEvents = rows.executionEvents := congrArg Prod.fst same
  have projections : next.executionProjections = rows.executionProjections := congrArg Prod.snd same
  unfold executionAuthority
  rw [TaskRows.executionProjection?, TaskRows.executionHistory, projections, events]
  rfl

theorem executionHistory_eq (same : next.executionEvents = rows.executionEvents)
    (taskId : String) : next.executionHistory taskId = rows.executionHistory taskId := by
  rw [TaskRows.executionHistory, TaskRows.executionHistory, same]

theorem executionFree_outcomes (outcomes : List TaskOutcomeEvent × List TaskOutcomeCurrent) :
    ExecutionFree fun rows => rows.outcomes = outcomes :=
  ⟨fun _ _ _ same => same, fun _ _ _ same => same⟩

theorem outcomeFree_execution (execution : List TaskExecutionEvent × List TaskExecutionProjection) :
    OutcomeFree fun rows => rows.execution = execution :=
  fun _ _ _ same => same

theorem aggregateFree_evidence (execution : List TaskExecutionEvent × List TaskExecutionProjection)
    (outcomes : List TaskOutcomeEvent × List TaskOutcomeCurrent) :
    AggregateFree fun rows => rows.execution = execution ∧ rows.outcomes = outcomes :=
  fun _ _ same => same

theorem HistoryFolded.reads (folded : HistoryFolded rows) {authority : ExecutionAuthority}
    (extended : rows.executionHistory taskId = history)
    (fold : foldExecutionHistory history = .ok execution)
    (read : executionAuthority rows taskId = .ok authority) : authority.folded = execution := by
  have same := (folded.read read).1
  rw [extended, fold, Except.ok.injEq] at same
  exact same.symm

namespace EvidenceSound

section

variable (sound : EvidenceSound rows)

include sound

theorem of_same (execution : next.execution = rows.execution)
    (outcomes : next.outcomes = rows.outcomes) : EvidenceSound next where
  folded := sound.folded.of_execution execution
  outcomes := sound.outcomes.of_outcomes outcomes
  closed := by
    intro taskId reviewed authority read
    rw [outcomeCurrent?_eq outcomes] at reviewed
    rw [executionAuthority_eq execution] at read
    exact sound.closed taskId reviewed authority read

theorem rebuild {python : PythonLibrary} {value : Unit}
    (ran : (rebuildIfMember python taskId).run rows = .ok (value, next)) : EvidenceSound next := by
  obtain ⟨execution, outcomes⟩ := keeps_rebuildIfMember python
    (aggregateFree_evidence rows.execution rows.outcomes) taskId ⟨rfl, rfl⟩ ran
  exact sound.of_same execution outcomes

theorem executed (executed : ExecutedOn rows next taskId)
    (outcomes : next.outcomes = rows.outcomes)
    (still : (rows.outcomeCurrent? taskId).isSome → ∀ authority,
      executionAuthority next taskId = .ok authority → authority.folded.state.isTerminal) :
    EvidenceSound next where
  folded := executed.folded
  outcomes := sound.outcomes.of_outcomes outcomes
  closed := by
    intro other reviewed authority read
    rw [outcomeCurrent?_eq outcomes] at reviewed
    by_cases same : other = taskId
    · subst same
      exact still reviewed authority read
    · rw [executed.others other same] at read
      exact sound.closed other reviewed authority read

theorem reviewed (executed : ExecutedOn rows next taskId)
    (reviewed : ReviewedOn rows next taskId)
    (terminal : ∀ authority, executionAuthority next taskId = .ok authority →
      authority.folded.state.isTerminal) : EvidenceSound next where
  folded := executed.folded
  outcomes := reviewed.sound
  closed := by
    intro other standing authority read
    by_cases same : other = taskId
    · subst same
      exact terminal authority read
    · rw [reviewed.others other same] at standing
      rw [executed.others other same] at read
      exact sound.closed other standing authority read

end

end EvidenceSound

theorem executedOn_of_execution (folded : HistoryFolded rows)
    (same : next.execution = rows.execution) (taskId : String) : ExecutedOn rows next taskId :=
  ⟨folded.of_execution same, fun other _ => executionAuthority_eq same other⟩

theorem ReviewedOn.around (reviewed : ReviewedOn first last taskId)
    (before : first.outcomes = rows.outcomes) (after : next.outcomes = last.outcomes) :
    ReviewedOn rows next taskId where
  sound := reviewed.sound.of_outcomes after
  others := by
    intro other apart
    rw [outcomeCurrent?_eq after, reviewed.others other apart, outcomeCurrent?_eq before]

variable {value : PUnit}

theorem updateExecutionProjection_events {selected : TaskExecutionProjection → Bool}
    {change : TaskExecutionProjection → TaskExecutionProjection}
    (ran : (updateExecutionProjection selected change lost).run rows = .ok (value, next)) :
    next.executionEvents = rows.executionEvents := by
  rw [(updateExecutionProjection_ok ran).2]
  rfl

theorem insertExecutionProjection_events
    (ran : (insertExecutionProjection row).run rows = .ok (value, next)) :
    next.executionEvents = rows.executionEvents := by
  rw [(insertExecutionProjection_ok ran).2]

theorem applyCorrection_history
    (ran : (applyCorrection request task authority eventId).run rows = .ok (value, next)) :
    next.executionHistory request.taskId = rows.executionHistory request.taskId ++
      [request.event eventId (authority.revision + 1)
        (request.replacementEffectiveAtUtc.map Int.toNat)] := by
  simp only [applyCorrection, steps_ok] at ran
  obtain ⟨middle, inserted, _, -, -, _, projected, revised⟩ := ran
  have kept : next.executionEvents = middle.executionEvents :=
    (congrArg Prod.fst (incrementRevision_execution revised)).trans
      (updateExecutionProjection_events projected)
  exact (executionHistory_eq kept _).trans (insertExecutionEvent_history inserted)

section Cancel

variable {call : Call} {taskRevision instant : Nat} {authority : ExecutionAuthority}
  {reason : String} {value : PUnit}

theorem applyCancel_history
    (ran : (applyCancel call taskId taskRevision authority instant reason).run rows =
      .ok (value, next)) :
    next.executionHistory taskId = rows.executionHistory taskId ++
      [baseEvent (call.newUuid4 0).value taskId (authority.revision + 1) .manualCancel
        (some instant) (some reason)] := by
  simp only [applyCancel, insertOrAdvanceCancelProjection, steps_ok] at ran
  obtain ⟨middle, inserted, last, projected, _, reviewed, _, current, revised⟩ := ran
  have elsewhere : next.executionEvents = last.executionEvents :=
    congrArg Prod.fst ((incrementRevision_execution revised).trans
      ((insertOutcomeCurrent_execution current).trans (insertOutcomeEvent_execution reviewed)))
  have kept : last.executionEvents = middle.executionEvents := by
    by_cases standing : authority.projectionExists = true
    · rw [if_pos standing] at projected
      exact updateExecutionProjection_events projected
    · rw [if_neg standing] at projected
      exact insertExecutionProjection_events projected
  exact (executionHistory_eq (elsewhere.trans kept) _).trans (insertExecutionEvent_history inserted)

theorem applyCancel_reviewed (sound : OutcomesSound rows)
    (ran : (applyCancel call taskId taskRevision authority instant reason).run rows =
      .ok (value, next)) : ReviewedOn rows next taskId := by
  simp only [applyCancel, insertOrAdvanceCancelProjection, steps_ok] at ran
  obtain ⟨middle, inserted, last, projected, _, reviewed, _, current, revised⟩ := ran
  have free := executionFree_outcomes rows.outcomes
  have middling : middle.outcomes = rows.outcomes :=
    keeps_insertExecutionEvent free _ rfl inserted
  have before : last.outcomes = rows.outcomes := by
    by_cases standing : authority.projectionExists = true
    · rw [if_pos standing] at projected
      exact keeps_updateExecutionProjection free _ _ _ middling projected
    · rw [if_neg standing] at projected
      exact keeps_insertExecutionProjection free _ middling projected
  have written := reviewedOn_insert (sound.of_outcomes before) reviewed current
    ⟨Nat.one_pos, (call.newUuid4 1).canonical, _, List.mem_singleton_self _, rfl, rfl, rfl⟩
  exact written.around before
    (keeps_incrementRevision (executionFree_outcomes _) _ _ rfl revised)

end Cancel

variable {taskRevision : Nat}

theorem applyOutcomeReview_reviewed (sound : OutcomesSound rows)
    (ran : (applyOutcomeReview call request taskRevision).run rows = .ok (value, next)) :
    ReviewedOn rows next request.taskId := by
  simp only [applyOutcomeReview, steps_ok] at ran
  obtain ⟨_, reviewed, _, current, revised⟩ := ran
  have written := reviewedOn_insert sound reviewed current
    ⟨Nat.one_pos, (call.newUuid4 0).canonical, _, List.mem_singleton_self _, rfl, rfl, rfl⟩
  exact written.around rfl (keeps_incrementRevision (executionFree_outcomes _) _ _ rfl revised)

theorem applyOutcomeCorrection_reviewed (sound : OutcomesSound rows)
    (ran : (applyOutcomeCorrection call request taskRevision).run rows = .ok (value, next)) :
    ReviewedOn rows next request.taskId ∧ (rows.outcomeCurrent? request.taskId).isSome := by
  simp only [applyOutcomeCorrection, steps_ok] at ran
  obtain ⟨_, reviewed, _, current, revised⟩ := ran
  have owned : ∀ row : TaskOutcomeCurrent, decide (row.taskId = request.taskId ∧
      (row.revision : Int) = request.currentOutcomeRevision ∧
      row.outcomeEventId = request.currentOutcomeEventId) = true → row.taskId = request.taskId :=
    fun row hit => (of_decide_eq_true hit).1
  obtain ⟨written, standing⟩ := reviewedOn_update sound reviewed current owned (fun _ => rfl)
    fun row hit => ⟨Nat.succ_pos _, (call.newUuid4 0).canonical, _, List.mem_singleton_self _, rfl,
      (owned row hit).symm, rfl⟩
  exact ⟨written.around rfl
    (keeps_incrementRevision (executionFree_outcomes _) _ _ rfl revised), standing⟩

theorem applyOutcomeReview_execution
    (ran : (applyOutcomeReview call request taskRevision).run rows = .ok (value, next)) :
    next.execution = rows.execution := by
  simp only [applyOutcomeReview, steps_ok] at ran
  obtain ⟨_, reviewed, _, current, revised⟩ := ran
  exact (incrementRevision_execution revised).trans
    ((insertOutcomeCurrent_execution current).trans (insertOutcomeEvent_execution reviewed))

theorem applyOutcomeCorrection_execution
    (ran : (applyOutcomeCorrection call request taskRevision).run rows = .ok (value, next)) :
    next.execution = rows.execution := by
  simp only [applyOutcomeCorrection, steps_ok] at ran
  obtain ⟨middle, reviewed, last, current, revised⟩ := ran
  have updated : last.execution = middle.execution :=
    keeps_updateOutcomeCurrent (outcomeFree_execution _) _ _ _ rfl current
  exact (incrementRevision_execution revised).trans
    (updated.trans (insertOutcomeEvent_execution reviewed))

/-! ## What `prepare` has checked -/

section Prepared

variable {task : TaskRecord} {authority : ExecutionAuthority}

theorem admitStart_unreviewed {started terminal : Raised} {value : Unit}
    (ran : admitStart rows taskId authority started terminal = .ok value) :
    rows.outcomeCurrent? taskId = none := by
  simp only [admitStart, except_ok] at ran
  obtain ⟨-, -, _, read, absent⟩ := ran
  exact unreviewed_of_hasTerminalOutcome (absent ▸ read)

theorem prepareStart_unreviewed {taskRevision executionRevision : Int}
    (ran : prepareStart rows taskId taskRevision executionRevision = .ok (task, authority)) :
    rows.outcomeCurrent? taskId = none := by
  simp only [prepareStart, except_ok] at ran
  obtain ⟨_, -, _, -, -, admitted, -⟩ := ran
  exact admitStart_unreviewed admitted

theorem prepareSelected_unreviewed
    (ran : prepareSelected rows objectiveId request = .ok (request', task, authority)) :
    rows.outcomeCurrent? request.taskId = none := by
  simp only [prepareSelected, except_ok] at ran
  obtain ⟨_, -, -, _, -, _, -, -, admitted, -⟩ := ran
  exact admitStart_unreviewed admitted

theorem prepareEnd_unreviewed {taskRevision executionRevision : Int} {acceptedEnd : Nat}
    (ran : prepareEnd rows taskId taskRevision executionRevision acceptedEnd =
      .ok (task, authority)) : rows.outcomeCurrent? taskId = none := by
  simp only [prepareEnd, except_ok] at ran
  obtain ⟨_, -, found, -, -, -, -, ran⟩ := ran
  cases since : found.folded.actualStartUtc with
  | none => simp [since] at ran
  | some =>
    simp only [since, except_ok] at ran
    obtain ⟨_, read, absent, -⟩ := ran
    exact unreviewed_of_hasTerminalOutcome (absent ▸ read)

theorem reviewBlockers_terminal {current : OutcomeAuthority} {execution : FoldedExecution}
    {request : OutcomeReviewRequest} (clear : reviewBlockers current execution request = []) :
    execution.state.isTerminal := by
  simp only [reviewBlockers, List.append_eq_nil_iff] at clear
  obtain ⟨⟨terminal, -⟩, -⟩ := clear
  by_contra standing
  rw [ExecutionState.isTerminal, decide_eq_true_eq] at standing
  simp [standing] at terminal

theorem loadExecutionAuthority_folded (folded : HistoryFolded rows)
    (loaded : loadExecutionAuthority rows taskId = .ok execution)
    (read : executionAuthority rows taskId = .ok authority) :
    authority.folded = execution.folded := by
  obtain ⟨fold, -, columns⟩ := folded.read read
  simp only [loadExecutionAuthority, except_ok] at loaded
  obtain ⟨-, loaded⟩ := loaded
  cases found : rows.executionProjection? taskId with
  | none =>
    simp only [found, except_ok] at loaded
    obtain ⟨empty, same⟩ := loaded
    have idle : foldExecutionHistory [] = .ok .idle := rfl
    rw [empty, idle, Except.ok.injEq] at fold
    cases same
    exact fold.symm
  | some projection =>
    simp only [found, except_ok] at loaded
    obtain ⟨-, -, -, _, -, -, same⟩ := loaded
    cases same
    exact (columns projection found).1

theorem restale_ok {Result : Type} {stale : Raised} {outcome : Except Raised Result}
    {value : Result} : restale stale outcome = .ok value ↔ outcome = .ok value := by
  cases outcome with
  | ok => rfl
  | error raised => cases raised <;> simp [restale]

theorem prepareOutcomeReview_ok {python : PythonLibrary} {request : OutcomeReviewRequest}
    {fingerprint : String} {noChange : Bool} (folded : HistoryFolded rows)
    (ran : prepareOutcomeReview python rows request fingerprint = .ok (task, noChange))
    (read : executionAuthority rows request.taskId = .ok authority) :
    authority.folded.state.isTerminal := by
  simp only [prepareOutcomeReview, except_ok, restale_ok] at ran
  obtain ⟨_, evaluated, admitted, -⟩ := ran
  simp only [admitOutcomeReview, except_ok] at admitted
  obtain ⟨-, -, clear⟩ := admitted
  simp only [evaluateOutcomeReview, except_ok] at evaluated
  obtain ⟨-, -, -, -, -, _, -, _, loaded, -, _, -, -, _, -, same⟩ := evaluated
  cases same
  rw [loadExecutionAuthority_folded folded loaded read]
  exact reviewBlockers_terminal clear

end Prepared

/-! ## Commands -/

/-- The correction would leave a task that has a reviewed outcome with an
execution that is open. -/
def strandsOutcome (rows : TaskRows) (call : Call) (request : CorrectionRequest) : Bool :=
  let history := rows.executionHistory request.taskId
  let correction := request.event (call.newUuid4 0).value (history.length + 1)
    (request.replacementEffectiveAtUtc.map Int.toNat)
  (rows.outcomeCurrent? request.taskId).isSome &&
    match foldExecutionHistory (history ++ [correction]) with
    | .ok execution => !execution.state.isTerminal
    | .error _ => false

/-- A call of one of the seven services. -/
inductive TaskCommand where
  | execute (command : ExecutionCommand)
  | review (call : Call) (request : OutcomeReviewRequest) (outcomeReviewFingerprint : String)
  | correctOutcome (call : Call) (request : OutcomeCorrectionRequest)
      (correctionReviewFingerprint : String)

/-- Whether the command would strand a reviewed outcome. -/
def TaskCommand.strands (rows : TaskRows) : TaskCommand → Bool
  | .execute (.correct call request _ _) => strandsOutcome rows call request
  | _ => false

variable (python : PythonLibrary)

/-- The rows after the command's transaction, committed or rolled back. -/
def TaskCommand.apply : TaskCommand → TaskRows → TaskRows
  | .execute command, rows => command.apply python rows
  | .review call request fingerprint, rows =>
    (commit (reviewTaskOutcome python call request fingerprint) rows).2
  | .correctOutcome call request fingerprint, rows =>
    (commit (correctTaskOutcome python call request fingerprint) rows).2

section Sound

variable (call : Call)

theorem sound_startTaskExecution (taskId : String) (taskRevision executionRevision : Int)
    (effectiveStart : EffectiveStart) :
    Keeps EvidenceSound
      (startTaskExecution python call taskId taskRevision executionRevision effectiveStart) := by
  intro _ _ _ sound ran
  simp only [startTaskExecution, steps_ok] at ran
  obtain ⟨-, -, -, -, ⟨_, _⟩, prepared, _, applied, _, rebuilt, -, rfl⟩ := ran
  obtain ⟨read, idle⟩ := prepareStart_ok prepared
  have absent := prepareStart_unreviewed prepared
  have executed := applyStart_executed sound.folded read idle (call.newUuid4 0).canonical applied
  have outcomes := keeps_applyStart (executionFree_outcomes _) _ _ _ _ _ rfl applied
  exact (sound.executed executed outcomes (by simp [absent])).rebuild rebuilt

theorem sound_endTaskExecution (taskId : String)
    (taskRevision executionRevision effectiveEndUtc : Int) :
    Keeps EvidenceSound
      (endTaskExecution python call taskId taskRevision executionRevision effectiveEndUtc) := by
  intro _ _ _ sound ran
  simp only [endTaskExecution, steps_ok] at ran
  obtain ⟨-, -, -, -, ⟨_, _⟩, prepared, _, applied, _, rebuilt, -, rfl⟩ := ran
  obtain ⟨read, running, _, since, ordered⟩ := prepareEnd_ok prepared
  have absent := prepareEnd_unreviewed prepared
  have executed := applyEnd_executed sound.folded read running since ordered
    (call.newUuid4 0).canonical applied
  have outcomes := keeps_applyEnd (executionFree_outcomes _) _ _ _ _ _ rfl applied
  exact (sound.executed executed outcomes (by simp [absent])).rebuild rebuilt

theorem sound_correctTaskExecutionEvidence (sound : EvidenceSound rows)
    (allowed : strandsOutcome rows call request = false)
    (ran : (correctTaskExecutionEvidence python call request fingerprint accept).run rows =
      .ok (result, next)) : EvidenceSound next := by
  simp only [correctTaskExecutionEvidence, steps_ok] at ran
  obtain ⟨-, ⟨_, _⟩, prepared, _, applied, _, rebuilt, -, rfl⟩ := ran
  have read := prepareCorrection_ok prepared
  have executed := applyCorrection_executed sound.folded read (call.newUuid4 0).canonical applied
  have outcomes := keeps_applyCorrection (executionFree_outcomes _) _ _ _ _ rfl applied
  refine (sound.executed executed outcomes ?_).rebuild rebuilt
  intro reviewed _ readAfter
  have extended := applyCorrection_history applied
  rw [(sound.folded.read read).2.1] at extended
  have fold := (executed.folded.read readAfter).1
  rw [extended] at fold
  simpa only [strandsOutcome, reviewed, fold, Bool.true_and, Bool.not_eq_false'] using allowed

theorem sound_cancelTaskWithoutExecution (taskId : String)
    (taskRevision executionRevision outcomeRevision effectiveCancelUtc : Int)
    (reasonCategory : String) :
    Keeps EvidenceSound
      (cancelTaskWithoutExecution python call taskId taskRevision executionRevision
        outcomeRevision effectiveCancelUtc reasonCategory) := by
  intro rows _ _ sound ran
  simp only [cancelTaskWithoutExecution, steps_ok] at ran
  obtain ⟨-, -, -, -, -, -, ⟨_, authority⟩, prepared, _, applied, _, rebuilt, -, rfl⟩ := ran
  obtain ⟨read, idle, unstarted⟩ := prepareCancel_ok prepared
  have executed := applyCancel_executed sound.folded read idle unstarted applied
  refine (sound.reviewed executed (applyCancel_reviewed sound.outcomes applied) ?_).rebuild rebuilt
  intro _ readAfter
  have fold := (sound.folded.read read).1
  have fresh : (call.newUuid4 0).value ∉ rows.executionEvents.map (·.executionEventId) := by
    simp only [applyCancel, steps_ok] at applied
    obtain ⟨_, inserted, -⟩ := applied
    exact (insertExecutionEvent_ok inserted).1
  have extended := fold_base (authority.revision + 1) (some reasonCategory) fold
    (call.newUuid4 0).canonical fresh (by decide : EventKind.manualCancel ≠ .correction)
    (fun _ => Option.some_ne_none effectiveCancelUtc.toNat)
  have standing : authority.folded.state ≠ .terminated := by
    rw [idle]
    exact (by decide : ExecutionState.notStarted ≠ .terminated)
  rw [run_terminal standing
    (by decide : EventKind.manualCancel ∉ [EventKind.start, .endEvent]) rfl] at extended
  rw [executed.folded.reads (applyCancel_history applied) extended readAfter]
  rfl

theorem sound_reviewTaskOutcome (request : OutcomeReviewRequest) (fingerprint : String) :
    Keeps EvidenceSound (reviewTaskOutcome python call request fingerprint) := by
  intro _ _ _ sound ran
  simp only [reviewTaskOutcome, steps_ok] at ran
  obtain ⟨-, ⟨_, noChange⟩, prepared, ran⟩ := ran
  cases noChange with
  | true =>
    obtain ⟨-, rfl⟩ := pure_ok.mp ran
    exact sound
  | false =>
    simp only [Bool.false_eq_true, if_false, steps_ok] at ran
    obtain ⟨_, applied, _, rebuilt, -, rfl⟩ := ran
    have execution := applyOutcomeReview_execution applied
    refine (sound.reviewed (executedOn_of_execution sound.folded execution request.taskId)
      (applyOutcomeReview_reviewed sound.outcomes applied) ?_).rebuild rebuilt
    intro _ read
    rw [executionAuthority_eq execution] at read
    exact prepareOutcomeReview_ok sound.folded prepared read

theorem sound_correctTaskOutcome (request : OutcomeCorrectionRequest) (fingerprint : String) :
    Keeps EvidenceSound (correctTaskOutcome python call request fingerprint) := by
  intro _ _ _ sound ran
  simp only [correctTaskOutcome, steps_ok] at ran
  obtain ⟨-, ⟨_, noChange⟩, _, ran⟩ := ran
  cases noChange with
  | true =>
    obtain ⟨-, rfl⟩ := pure_ok.mp ran
    exact sound
  | false =>
    simp only [Bool.false_eq_true, if_false, steps_ok] at ran
    obtain ⟨_, applied, _, rebuilt, -, rfl⟩ := ran
    have execution := applyOutcomeCorrection_execution applied
    obtain ⟨written, standing⟩ := applyOutcomeCorrection_reviewed sound.outcomes applied
    refine (sound.reviewed (executedOn_of_execution sound.folded execution request.taskId)
      written ?_).rebuild rebuilt
    intro authority read
    rw [executionAuthority_eq execution] at read
    exact sound.closed _ standing authority read

/-- The selected tasks are started one after the other, none of them reviewed. -/
theorem applySelected_sound
    {selected : List (SelectedTaskExecutionStart × TaskRecord × ExecutionAuthority)}
    (sound : EvidenceSound rows) (distinct : (selected.map (·.1.taskId)).Nodup)
    (read : ∀ entry ∈ selected, executionAuthority rows entry.1.taskId = .ok entry.2.2 ∧
      entry.2.2.folded.state = .notStarted ∧ rows.outcomeCurrent? entry.1.taskId = none)
    (ran : (applySelected call instant index selected).run rows = .ok (value, next)) :
    EvidenceSound next := by
  induction selected generalizing rows index with
  | nil =>
    rw [applySelected, pure_ok] at ran
    exact ran.2 ▸ sound
  | cons entry selected ih =>
    obtain ⟨request, _, _⟩ := entry
    rw [List.map_cons, List.nodup_cons] at distinct
    rw [applySelected, bind_ok] at ran
    obtain ⟨_, _, applied, rest⟩ := ran
    obtain ⟨now, idle, absent⟩ := read _ List.mem_cons_self
    have executed := applyStart_executed sound.folded now idle (call.newUuid4 index).canonical applied
    have outcomes := keeps_applyStart (executionFree_outcomes _) _ _ _ _ _ rfl applied
    refine ih (sound.executed executed outcomes (by simp [absent])) distinct.2 ?_ rest
    intro later inside
    have apart : later.1.taskId ≠ request.taskId := fun same =>
      distinct.1 (same ▸ List.mem_map_of_mem inside)
    obtain ⟨before, unstarted, unreviewed⟩ := read later (List.mem_cons_of_mem _ inside)
    exact ⟨(executed.others _ apart).trans before, unstarted,
      (outcomeCurrent?_eq outcomes _).trans unreviewed⟩

theorem sound_startSelectedObjectiveTasks (objectiveId : String)
    (objectiveRevision objectiveEnvelopeRevision : Int)
    (selectedTasks : List SelectedTaskExecutionStart) (effectiveStart : EffectiveStart) :
    Keeps EvidenceSound
      (startSelectedObjectiveTasks python call objectiveId objectiveRevision
        objectiveEnvelopeRevision selectedTasks effectiveStart) := by
  intro _ _ _ sound ran
  simp only [startSelectedObjectiveTasks, steps_ok] at ran
  obtain ⟨-, -, -, valid, -, -, selected, prepared, middle, applied, rebuilt⟩ := ran
  have distinct : (selected.map (·.1.taskId)).Nodup := by
    rw [prepared_taskIds prepared]
    exact ((List.perm_insertionSort _ selectedTasks).map _).nodup_iff.mpr (validateSelected_ok valid)
  have started : EvidenceSound middle := by
    refine applySelected_sound call sound distinct ?_ applied
    intro _ inside
    obtain ⟨_, -, found⟩ := mem_of_image prepared inside
    obtain ⟨same, now, idle⟩ := prepareSelected_ok found
    have absent := prepareSelected_unreviewed found
    rw [← same] at now absent
    exact ⟨now, idle, absent⟩
  obtain ⟨execution, outcomes⟩ := keeps_rebuildAggregate python
    (aggregateFree_evidence middle.execution middle.outcomes) objectiveId ⟨rfl, rfl⟩ rebuilt
  exact started.of_same execution outcomes

end Sound

theorem EvidenceSound.command {command : TaskCommand} (sound : EvidenceSound rows)
    (allowed : command.strands rows = false) : EvidenceSound (command.apply python rows) := by
  cases command with
  | execute command =>
    cases command with
    | start call =>
      exact commit_keeps (sound_startTaskExecution python call _ _ _ _) sound
    | startSelected call =>
      exact commit_keeps (sound_startSelectedObjectiveTasks python call _ _ _ _ _) sound
    | finish call =>
      exact commit_keeps (sound_endTaskExecution python call _ _ _ _) sound
    | correct call request fingerprint =>
      exact commit_holds sound fun _ _ ran =>
        sound_correctTaskExecutionEvidence python call sound allowed ran
    | cancel call =>
      exact commit_keeps (sound_cancelTaskWithoutExecution python call _ _ _ _ _ _) sound
  | review call request fingerprint =>
    exact commit_keeps (sound_reviewTaskOutcome python call request fingerprint) sound
  | correctOutcome call request fingerprint =>
    exact commit_keeps (sound_correctTaskOutcome python call request fingerprint) sound

end Soma.ObjectivesTasks
