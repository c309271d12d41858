import Soma.ObjectivesTasks.ExecutionHistory

/-!
Runs of the execution commands.

Every command keeps the execution tables folded: it rolls back, or it writes one
task, or, for the selected tasks of an Objective, one task after the other.
-/

namespace Soma.ObjectivesTasks

open Execution Foundation Transaction Rows

variable {rows next : TaskRows} {taskId : String}

/-! ## What `prepare` has checked -/

section Prepared

variable {task : TaskRecord} {authority : ExecutionAuthority}

theorem admitStart_ok (ran : admitStart rows taskId authority started terminal = .ok value) :
    authority.folded.state = .notStarted := by
  simp only [admitStart, except_ok] at ran
  obtain ⟨_, terminal, _⟩ := ran
  cases state : authority.folded.state <;> simp_all

theorem prepareStart_ok
    (ran : prepareStart rows taskId taskRevision executionRevision = .ok (task, authority)) :
    executionAuthority rows taskId = .ok authority ∧ authority.folded.state = .notStarted := by
  simp only [prepareStart, except_ok] at ran
  obtain ⟨_, -, _, read, -, admitted, same⟩ := ran
  cases same
  exact ⟨read, admitStart_ok admitted⟩

theorem prepareSelected_ok
    (ran : prepareSelected rows objectiveId request = .ok (request', task, authority)) :
    request' = request ∧ executionAuthority rows request.taskId = .ok authority ∧
      authority.folded.state = .notStarted := by
  simp only [prepareSelected, except_ok] at ran
  obtain ⟨_, -, -, _, -, _, read, -, admitted, same⟩ := ran
  cases same
  exact ⟨rfl, read, admitStart_ok admitted⟩

theorem prepareEnd_ok (ran : prepareEnd rows taskId taskRevision executionRevision acceptedEnd =
      .ok (task, authority)) :
    executionAuthority rows taskId = .ok authority ∧ authority.folded.state = .inProgress ∧
      ∃ started, authority.folded.actualStartUtc = some started ∧ started ≤ acceptedEnd := by
  simp only [prepareEnd, except_ok] at ran
  obtain ⟨_, -, found, read, -, _, _, ran⟩ := ran
  cases since : found.folded.actualStartUtc with
  | none => simp [since] at ran
  | some started =>
    simp only [since, except_ok] at ran
    obtain ⟨_, -, -, ordered, same⟩ := ran
    cases same
    refine ⟨read, ?_, started, since, ordered⟩
    cases state : authority.folded.state <;> simp_all

theorem prepareCorrection_ok
    (ran : prepareCorrection python rows request fingerprint accept = .ok (task, authority)) :
    executionAuthority rows request.taskId = .ok authority := by
  simp only [prepareCorrection, except_ok] at ran
  obtain ⟨_, -, -, _, -, _, read, -, ran⟩ := ran
  split at ran
  · cases ran
  · simp only [except_ok] at ran
    obtain ⟨-, -, same⟩ := ran
    cases same
    exact read

theorem prepareCancel_ok
    (ran : prepareCancel rows taskId taskRevision executionRevision = .ok (task, authority)) :
    executionAuthority rows taskId = .ok authority ∧ authority.folded.state = .notStarted ∧
      authority.folded.actualStartUtc = none := by
  unfold prepareCancel at ran
  split at ran
  · cases ran
  · simp only [except_ok] at ran
    obtain ⟨_, read, _, -, -, -, -, -, ⟨idle, unstarted⟩, same⟩ := ran
    cases same
    exact ⟨read, idle, unstarted⟩

end Prepared

/-! ## The commands -/

variable (python : PythonLibrary) (call : Call)

theorem HistoryFolded.rebuild {middle : TaskRows} {value : Unit} (folded : HistoryFolded middle)
    (ran : (rebuildIfMember python taskId).run middle = .ok (value, next)) :
    HistoryFolded next :=
  folded.of_execution (keeps_rebuildIfMember python (aggregateFree_execution middle.execution) taskId rfl ran)

theorem keeps_startTaskExecution (taskId : String) (taskRevision executionRevision : Int)
    (effectiveStart : EffectiveStart) :
    Keeps HistoryFolded
      (startTaskExecution python call taskId taskRevision executionRevision effectiveStart) := by
  intro _ _ _ folded ran
  simp only [startTaskExecution, steps_ok] at ran
  obtain ⟨-, -, -, -, ⟨_, _⟩, prepared, _, applied, _, rebuilt, -, rfl⟩ := ran
  obtain ⟨read, idle⟩ := prepareStart_ok prepared
  exact (applyStart_executed folded read idle (call.newUuid4 0).canonical applied).folded.rebuild
    python rebuilt

theorem keeps_endTaskExecution (taskId : String)
    (taskRevision executionRevision effectiveEndUtc : Int) :
    Keeps HistoryFolded
      (endTaskExecution python call taskId taskRevision executionRevision effectiveEndUtc) := by
  intro _ _ _ folded ran
  simp only [endTaskExecution, steps_ok] at ran
  obtain ⟨-, -, -, -, ⟨_, _⟩, prepared, _, applied, _, rebuilt, -, rfl⟩ := ran
  obtain ⟨read, running, _, since, ordered⟩ := prepareEnd_ok prepared
  exact (applyEnd_executed folded read running since ordered (call.newUuid4 0).canonical
    applied).folded.rebuild python rebuilt

theorem keeps_correctTaskExecutionEvidence (request : CorrectionRequest) (fingerprint : String)
    (accept : Bool) :
    Keeps HistoryFolded
      (correctTaskExecutionEvidence python call request fingerprint accept) := by
  intro _ _ _ folded ran
  simp only [correctTaskExecutionEvidence, steps_ok] at ran
  obtain ⟨-, ⟨_, _⟩, prepared, _, applied, _, rebuilt, -, rfl⟩ := ran
  exact (applyCorrection_executed folded (prepareCorrection_ok prepared)
    (call.newUuid4 0).canonical applied).folded.rebuild python rebuilt

theorem keeps_cancelTaskWithoutExecution (taskId : String)
    (taskRevision executionRevision outcomeRevision effectiveCancelUtc : Int)
    (reasonCategory : String) :
    Keeps HistoryFolded
      (cancelTaskWithoutExecution python call taskId taskRevision executionRevision
        outcomeRevision effectiveCancelUtc reasonCategory) := by
  intro _ _ _ folded ran
  simp only [cancelTaskWithoutExecution, steps_ok] at ran
  obtain ⟨-, -, -, -, -, -, ⟨_, _⟩, prepared, _, applied, _, rebuilt, -, rfl⟩ := ran
  obtain ⟨read, idle, unstarted⟩ := prepareCancel_ok prepared
  exact (applyCancel_executed folded read idle unstarted applied).folded.rebuild python rebuilt

/-- The selected tasks are started one after the other: each is still as it was
read when its turn comes, because the tasks before it are other tasks. -/
theorem applySelected_folded
    {selected : List (SelectedTaskExecutionStart × TaskRecord × ExecutionAuthority)}
    (folded : HistoryFolded rows) (distinct : (selected.map (·.1.taskId)).Nodup)
    (read : ∀ entry ∈ selected, executionAuthority rows entry.1.taskId = .ok entry.2.2 ∧
      entry.2.2.folded.state = .notStarted)
    (ran : (applySelected call instant index selected).run rows = .ok (value, next)) :
    HistoryFolded next := by
  induction selected generalizing rows index with
  | nil =>
    rw [applySelected, pure_ok] at ran
    exact ran.2 ▸ folded
  | cons entry selected ih =>
    obtain ⟨request, _, _⟩ := entry
    rw [List.map_cons, List.nodup_cons] at distinct
    rw [applySelected, bind_ok] at ran
    obtain ⟨_, _, applied, rest⟩ := ran
    obtain ⟨now, idle⟩ := read _ List.mem_cons_self
    have executed := applyStart_executed folded now idle (call.newUuid4 index).canonical applied
    refine ih executed.folded distinct.2 ?_ rest
    intro later inside
    have apart : later.1.taskId ≠ request.taskId := fun same =>
      distinct.1 (same ▸ List.mem_map_of_mem inside)
    obtain ⟨before, unstarted⟩ := read later (List.mem_cons_of_mem _ inside)
    exact ⟨(executed.others _ apart).trans before, unstarted⟩

theorem prepared_taskIds {requests : List SelectedTaskExecutionStart}
    (ran : requests.mapM (prepareSelected rows objectiveId) = .ok selected) :
    selected.map (·.1.taskId) = requests.map (·.taskId) := by
  have visited := mapM_ok.mp ran
  clear ran
  induction visited with
  | nil => rfl
  | cons found _ ih =>
    rw [List.map_cons, List.map_cons, ih, (prepareSelected_ok found).1]

theorem validateSelected_ok (ran : validateSelected selected = .ok value) :
    (selected.map (·.taskId)).Nodup := by
  simp only [validateSelected, except_ok] at ran
  obtain ⟨-, -, distinct⟩ := ran
  exact distinct

theorem keeps_startSelectedObjectiveTasks (objectiveId : String)
    (objectiveRevision objectiveEnvelopeRevision : Int)
    (selectedTasks : List SelectedTaskExecutionStart) (effectiveStart : EffectiveStart) :
    Keeps HistoryFolded
      (startSelectedObjectiveTasks python call objectiveId objectiveRevision
        objectiveEnvelopeRevision selectedTasks effectiveStart) := by
  intro rows _ _ folded ran
  simp only [startSelectedObjectiveTasks, steps_ok] at ran
  obtain ⟨-, -, -, valid, -, -, selected, prepared, middle, applied, rebuilt⟩ := ran
  have distinct : (selected.map (·.1.taskId)).Nodup := by
    rw [prepared_taskIds prepared]
    exact ((List.perm_insertionSort _ selectedTasks).map _).nodup_iff.mpr (validateSelected_ok valid)
  have read : ∀ entry ∈ selected, executionAuthority rows entry.1.taskId = .ok entry.2.2 ∧
      entry.2.2.folded.state = .notStarted := by
    intro entry inside
    obtain ⟨_, -, found⟩ := mem_of_image prepared inside
    obtain ⟨same, now, idle⟩ := prepareSelected_ok found
    exact ⟨same ▸ now, idle⟩
  have started := applySelected_folded call folded distinct read applied
  exact started.of_execution (keeps_rebuildAggregate python
    (aggregateFree_execution middle.execution) objectiveId rfl rebuilt)

/-! ## Runs -/

/-- A call of one of the five services. -/
inductive ExecutionCommand where
  | start (call : Call) (taskId : String) (taskRevision executionRevision : Int)
      (effectiveStart : EffectiveStart)
  | startSelected (call : Call) (objectiveId : String)
      (objectiveRevision objectiveEnvelopeRevision : Int)
      (selectedTasks : List SelectedTaskExecutionStart) (effectiveStart : EffectiveStart)
  | finish (call : Call) (taskId : String)
      (taskRevision executionRevision effectiveEndUtc : Int)
  | correct (call : Call) (request : CorrectionRequest) (correctionReviewFingerprint : String)
      (acceptOutcomeInvalidation : Bool)
  | cancel (call : Call) (taskId : String)
      (taskRevision executionRevision outcomeRevision effectiveCancelUtc : Int)
      (reasonCategory : String)

/-- The rows after the command's transaction, committed or rolled back. -/
def ExecutionCommand.apply : ExecutionCommand → TaskRows → TaskRows
  | .start call taskId taskRevision executionRevision effectiveStart, rows =>
    (commit (startTaskExecution python call taskId taskRevision executionRevision
      effectiveStart) rows).2
  | .startSelected call objectiveId objectiveRevision envelopeRevision selectedTasks
      effectiveStart, rows =>
    (commit (startSelectedObjectiveTasks python call objectiveId objectiveRevision
      envelopeRevision selectedTasks effectiveStart) rows).2
  | .finish call taskId taskRevision executionRevision effectiveEndUtc, rows =>
    (commit (endTaskExecution python call taskId taskRevision executionRevision
      effectiveEndUtc) rows).2
  | .correct call request fingerprint accept, rows =>
    (commit (correctTaskExecutionEvidence python call request fingerprint accept) rows).2
  | .cancel call taskId taskRevision executionRevision outcomeRevision effectiveCancelUtc
      reasonCategory, rows =>
    (commit (cancelTaskWithoutExecution python call taskId taskRevision executionRevision
      outcomeRevision effectiveCancelUtc reasonCategory) rows).2

theorem HistoryFolded.command (command : ExecutionCommand) (folded : HistoryFolded rows) :
    HistoryFolded (command.apply python rows) := by
  cases command with
  | start call =>
    exact commit_keeps (keeps_startTaskExecution python call _ _ _ _) folded
  | startSelected call =>
    exact commit_keeps (keeps_startSelectedObjectiveTasks python call _ _ _ _ _) folded
  | finish call =>
    exact commit_keeps (keeps_endTaskExecution python call _ _ _ _) folded
  | correct call =>
    exact commit_keeps (keeps_correctTaskExecutionEvidence python call _ _ _) folded
  | cancel call =>
    exact commit_keeps (keeps_cancelTaskWithoutExecution python call _ _ _ _ _ _) folded

/-- The migration leaves no execution evidence. -/
def WithoutExecution (rows : TaskRows) : Prop :=
  rows.executionEvents = [] ∧ rows.executionProjections = []

/-- One command, or any change of the other tables. -/
inductive ExecutionStep : TaskRows → TaskRows → Prop
  | command (rows : TaskRows) (command : ExecutionCommand) :
      ExecutionStep rows (command.apply python rows)
  | elsewhere {rows next : TaskRows} (same : next.execution = rows.execution) :
      ExecutionStep rows next

theorem folded_of_reachable
    (reached : Reachable WithoutExecution (ExecutionStep python) rows) : HistoryFolded rows := by
  apply reached.invariant HistoryFolded
  · exact fun rows initial => .empty initial.1 initial.2
  · intro rows _ folded stepped
    cases stepped with
    | command command => exact folded.command python command
    | elsewhere same => exact folded.of_execution same

theorem reachable_executionCommands
    (reached : Reachable WithoutExecution (ExecutionStep python) rows)
    (commands : List ExecutionCommand) :
    Reachable WithoutExecution (ExecutionStep python)
      (commands.foldl (fun rows command => command.apply python rows) rows) := by
  induction commands generalizing rows with
  | nil => exact reached
  | cons command commands ih => exact ih (reached.step (.command rows command))

/-- In every reachable state the projection of every task is the fold of its
history, at the revision that counts its events, and reading it succeeds. -/
theorem execution_projection_refines_history
    (reached : Reachable WithoutExecution (ExecutionStep python) rows) (taskId : String) :
    foldExecutionHistory (rows.executionHistory taskId) =
        .ok (((rows.executionProjection? taskId).map (·.folded)).getD .idle) ∧
      ((rows.executionProjection? taskId).map (·.revision)).getD 0 =
        (rows.executionHistory taskId).length ∧
      (∃ authority, executionAuthority rows taskId = .ok authority) ∧
      executionAuthority rows taskId ≠ .error projectionDisagrees := by
  have folded := folded_of_reachable python reached
  obtain ⟨authority, reads, -⟩ := folded.authority taskId
  have projected := folded.projected taskId
  refine ⟨?_, ?_, ⟨authority, reads⟩, ?_⟩
  · cases found : rows.executionProjection? taskId with
    | none =>
      rw [found] at projected
      have empty : rows.executionHistory taskId = [] := projected
      rw [empty]
      rfl
    | some projection =>
      rw [found] at projected
      exact projected.folded
  · cases found : rows.executionProjection? taskId with
    | none =>
      rw [found] at projected
      have empty : rows.executionHistory taskId = [] := projected
      rw [empty]
      rfl
    | some projection =>
      rw [found] at projected
      exact projected.revision
  · rw [reads]
    simp

def constantPython : PythonLibrary where
  jsonLoads _ := none
  sha256Hex _ := "44136fa355b3678a1146ad16f7e8649e94fb4fc21fe77e8310c060f61caaff8a"

def onlyTask : String := "00000000-0000-4000-8000-0000000000aa"

def startEvent : Uuid4 := ⟨"00000000-0000-4000-8000-0000000000b1", by decide +kernel⟩
def endEvent : Uuid4 := ⟨"00000000-0000-4000-8000-0000000000b2", by decide +kernel⟩
def withdrawal : Uuid4 := ⟨"00000000-0000-4000-8000-0000000000b3", by decide +kernel⟩

/-- A call whose identifiers are all the same one. -/
def callWith (eventId : Uuid4) : Call where
  newUuid4 _ := eventId
  now := 100
  commandId := "00000000-0000-4000-8000-0000000000c1"

def oneTask : TaskRows where
  tasks := [⟨onlyTask, .localTask, 1⟩]
  wfmTaskIdentities := []
  planRevisions := []
  planCurrent := []
  executionEvents := []
  executionProjections := []
  outcomeEvents := []
  outcomeCurrent := []
  operationalCountEvents := []
  operationalCountCurrent := []
  lockEvents := []
  lockProjections := []
  sourceProjections := []
  sourceTerminalReviews := []
  objectives := []
  envelopes := []
  membershipEvents := []
  memberships := []
  aggregates := []
  objectiveReviews := []

def withdraws (taskRevision executionRevision : Int) (target : Uuid4)
    (targetRevision : Int) : CorrectionRequest where
  taskId := onlyTask
  taskRevision := taskRevision
  executionRevision := executionRevision
  targetExecutionEventId := target.value
  targetExecutionRevision := targetRevision
  correctionAction := .withdraw
  replacementEffectiveAtUtc := none
  reasonCategory := "operator"

/-- The task is started at 10 and ended at 20, and the end is withdrawn. -/
def withdrawnEnd : List ExecutionCommand :=
  [.start (callWith startEvent) onlyTask 1 0 (.instant 10),
    .finish (callWith endEvent) onlyTask 2 1 20,
    .correct (callWith withdrawal) (withdraws 3 2 endEvent 2) (constantPython.sha256Hex "") true]

def afterWithdrawal : TaskRows :=
  withdrawnEnd.foldl (fun rows command => command.apply constantPython rows) oneTask

/-- Three events fold to a task that is in progress again. -/
theorem withdrawal_folds :
    (afterWithdrawal.executionHistory onlyTask).length = 3 ∧
      (afterWithdrawal.executionProjection? onlyTask).map (·.folded) =
        some ⟨.inProgress, some 10, none, none⟩ ∧
      executionAuthority afterWithdrawal onlyTask ≠ .error projectionDisagrees :=
  ⟨by decide +kernel, by decide +kernel,
    (execution_projection_refines_history constantPython
      (reachable_executionCommands constantPython (.start ⟨rfl, rfl⟩) withdrawnEnd)
      onlyTask).2.2.2⟩

end Soma.ObjectivesTasks
