import Soma.Foundation.StrictJson

/-!
The tables of `migrations/0006_objectives_tasks.sql` that the execution, outcome
and source-terminal commands read and write: tasks with their plans, execution
and outcome histories, locks and provider projections, and the Objectives they
are members of.

Histories are append-only and projections are rewritten in place, one row per
task. Times, revisions and counts are natural numbers, as the checks of their
columns require; command ids and the columns only other commands read are left
out.
-/

namespace Soma.ObjectivesTasks

open Foundation Transaction

inductive TaskKind where
  | localTask
  | wfm
  deriving DecidableEq

structure TaskRecord where
  taskId : String
  taskKind : TaskKind
  revision : Nat
  deriving DecidableEq

/-- A row of `task_plan_revisions`. -/
structure TaskPlanRecord where
  planRevisionId : String
  taskId : String
  startUtc : Nat
  endUtc : Nat

structure TaskPlanCurrentPointer where
  taskId : String
  planRevisionId : String
  revision : Nat

/-- `event_kind` of an execution event. -/
inductive EventKind where
  | start
  | endEvent
  | manualCancel
  | rfcTerminalTerminate
  | sourceTerminalConsequence
  | correction
  deriving DecidableEq

def EventKind.text : EventKind → String
  | .start => "start"
  | .endEvent => "end"
  | .manualCancel => "manual_cancel"
  | .rfcTerminalTerminate => "rfc_terminal_terminate"
  | .sourceTerminalConsequence => "source_terminal_consequence"
  | .correction => "correction"

def EventKind.governedTerminal (kind : EventKind) : Bool :=
  kind ∈ [.rfcTerminalTerminate, .sourceTerminalConsequence]

inductive CorrectionAction where
  | replaceTime
  | withdraw
  deriving DecidableEq

def CorrectionAction.text : CorrectionAction → String
  | .replaceTime => "replace_time"
  | .withdraw => "withdraw"

structure TaskExecutionEvent where
  executionEventId : String
  taskId : String
  executionRevision : Nat
  eventKind : EventKind
  effectiveAtUtc : Option Nat
  targetEventId : Option String
  correctionAction : Option CorrectionAction
  reasonCode : Option String

inductive ExecutionState where
  | notStarted
  | inProgress
  | ended
  | terminated
  deriving DecidableEq

def ExecutionState.text : ExecutionState → String
  | .notStarted => "not_started"
  | .inProgress => "in_progress"
  | .ended => "ended"
  | .terminated => "terminated"

structure TaskExecutionProjection where
  taskId : String
  executionState : ExecutionState
  actualStartUtc : Option Nat
  actualEndUtc : Option Nat
  effectiveTerminationUtc : Option Nat
  terminationReason : Option String
  revision : Nat
  lastEventId : String

inductive AcceptedOutcome where
  | completed
  | incomplete
  | cancelledWithoutExecution
  deriving DecidableEq

def AcceptedOutcome.text : AcceptedOutcome → String
  | .completed => "completed"
  | .incomplete => "incomplete"
  | .cancelledWithoutExecution => "cancelled_without_execution"

structure TaskOutcomeEvent where
  outcomeEventId : String
  taskId : String
  acceptedOutcome : AcceptedOutcome
  correctionOfEventId : Option String
  reasonCode : Option String
  reviewedAtUtc : Nat
  commandId : String

structure TaskOutcomeCurrent where
  taskId : String
  outcomeEventId : String
  acceptedOutcome : AcceptedOutcome
  reviewedAtUtc : Nat
  revision : Nat
  lastCommandId : String

structure TaskOperationalCountCurrent where
  taskId : String
  included : Bool
  revision : Nat
  lastEventId : String

structure TaskOperationalCountEvent where
  inclusionEventId : String
  taskId : String
  included : Bool

structure TaskLockEvent where
  lockEventId : String
  taskId : String

structure TaskLockProjection where
  taskId : String
  explicitPlanLock : Bool
  explicitMembershipLock : Bool
  revision : Nat
  lastEventId : Option String

inductive ProviderLifecycleClass where
  | unknown
  | active
  | complete
  | planCancel
  deriving DecidableEq

def ProviderLifecycleClass.text : ProviderLifecycleClass → String
  | .unknown => "unknown"
  | .active => "active"
  | .complete => "complete"
  | .planCancel => "plan_cancel"

/-- `_TERMINAL_SOURCE_CLASSES`. -/
def ProviderLifecycleClass.terminal (lifecycle : ProviderLifecycleClass) : Bool :=
  lifecycle ∈ [.complete, .planCancel]

/-- A row of `wfm_source_projection_cache`. -/
structure WfmSourceProjectionRecord where
  taskId : String
  providerStatusToken : Option String
  providerLifecycleClass : ProviderLifecycleClass
  sourcePlan : Option (Nat × Nat)
  acceptedSourceObservationId : Option String
  sourceProjectionRevision : Nat
  sourceBaseToken : String

/-- `state` of a source-terminal review. -/
inductive SourceTerminalState where
  | pending
  | retainLocalWork
  | terminateLocalWork
  | superseded
  deriving DecidableEq

structure WfmSourceTerminalReviewRecord where
  sourceTerminalReviewId : String
  taskId : String
  sourceProjectionRevision : Nat
  providerLifecycleClass : ProviderLifecycleClass
  inputFingerprint : String
  state : SourceTerminalState
  localConsequenceEventId : Option String
  revision : Nat
  createdAtUtc : Nat
  decidedAtUtc : Option Nat

inductive CreationOrigin where
  | manual
  | automaticGrouping
  | historicalProviderComplete
  deriving DecidableEq

def CreationOrigin.text : CreationOrigin → String
  | .manual => "manual"
  | .automaticGrouping => "automatic_grouping"
  | .historicalProviderComplete => "historical_provider_complete"

structure Objective where
  objectiveId : String
  revision : Nat
  creationOrigin : CreationOrigin
  supersededByObjectiveId : Option String

/-- A row of `objective_envelope_projection`. -/
structure ObjectiveEnvelope where
  objectiveId : String
  startUtc : Nat
  endUtc : Nat
  memberCount : Nat
  revision : Nat

structure ObjectiveMembershipEvent where
  membershipEventId : String
  taskId : String
  toObjectiveId : Option String
  acceptedPlanRevisionId : Option String

/-- A row of `objective_task_membership_current`. -/
structure ObjectiveMembershipRecord where
  taskId : String
  objectiveId : String
  acceptedPlanRevisionId : String
  membershipRevision : Nat
  lastEventId : String

/-- `execution_state` of an Objective. -/
inductive ObjectiveState where
  | planned
  | historicalStructure
  | inProgress
  | awaitingReview
  | reviewed
  | superseded
  deriving DecidableEq

inductive AggregateOutcome where
  | completed
  | incomplete
  | cancelled
  | mixed
  | excludedFromOperationalCounts
  deriving DecidableEq

def AggregateOutcome.text : AggregateOutcome → String
  | .completed => "completed"
  | .incomplete => "incomplete"
  | .cancelled => "cancelled"
  | .mixed => "mixed"
  | .excludedFromOperationalCounts => "excluded_from_operational_counts"

inductive AttentionReason where
  | lostLastExecutable
  | mixedOutcomes
  | planMembershipMismatch
  deriving DecidableEq

/-- The columns of `objective_aggregate_projection` that a rebuild derives. -/
structure MaterialState where
  executionState : ObjectiveState
  aggregateOutcome : Option AggregateOutcome
  actualStartUtc : Option Nat
  actualEndUtc : Option Nat
  attentionReason : Option AttentionReason
  includedTaskCount : Nat
  excludedTaskCount : Nat
  deriving DecidableEq

structure ObjectiveAggregateProjection where
  objectiveId : String
  material : MaterialState
  aggregateInputFingerprint : String
  revision : Nat

structure ObjectiveReviewEvent where
  objectiveReviewEventId : String
  objectiveId : String
  reviewFingerprint : String
  derivedOutcome : AggregateOutcome
  reviewedAtUtc : Nat

structure TaskRows where
  tasks : List TaskRecord
  /-- The tasks of `wfm_task_identities`. -/
  wfmTaskIdentities : List String
  planRevisions : List TaskPlanRecord
  planCurrent : List TaskPlanCurrentPointer
  executionEvents : List TaskExecutionEvent
  executionProjections : List TaskExecutionProjection
  outcomeEvents : List TaskOutcomeEvent
  outcomeCurrent : List TaskOutcomeCurrent
  operationalCountEvents : List TaskOperationalCountEvent
  operationalCountCurrent : List TaskOperationalCountCurrent
  lockEvents : List TaskLockEvent
  lockProjections : List TaskLockProjection
  sourceProjections : List WfmSourceProjectionRecord
  sourceTerminalReviews : List WfmSourceTerminalReviewRecord
  objectives : List Objective
  envelopes : List ObjectiveEnvelope
  membershipEvents : List ObjectiveMembershipEvent
  memberships : List ObjectiveMembershipRecord
  aggregates : List ObjectiveAggregateProjection
  objectiveReviews : List ObjectiveReviewEvent

/-- A body over the task tables, inside one transaction. -/
abbrev TaskBody (Result : Type) := Body TaskRows Raised Result

namespace TaskRows

/-- `TaskRepository.get`. -/
def task? (rows : TaskRows) (taskId : String) : Option TaskRecord :=
  rows.tasks.find? (·.taskId = taskId)

/-- `.. FROM task_execution_projection WHERE task_id=?`. -/
def executionProjection? (rows : TaskRows) (taskId : String) : Option TaskExecutionProjection :=
  rows.executionProjections.find? (·.taskId = taskId)

/-- `.. FROM task_execution_events WHERE task_id=? ORDER BY execution_revision`:
`task_execution_event_insert_guard` numbers the events of a task in the order
they are inserted. -/
def executionHistory (rows : TaskRows) (taskId : String) : List TaskExecutionEvent :=
  rows.executionEvents.filter (·.taskId = taskId)

/-- `COALESCE((SELECT max(execution_revision) ..),0)`. -/
def lastExecutionRevision (rows : TaskRows) (taskId : String) : Nat :=
  ((rows.executionHistory taskId).map (·.executionRevision)).foldr max 0

def outcomeCurrent? (rows : TaskRows) (taskId : String) : Option TaskOutcomeCurrent :=
  rows.outcomeCurrent.find? (·.taskId = taskId)

/-- `.. FROM task_outcome_events WHERE task_id=?`. -/
def outcomeHistory (rows : TaskRows) (taskId : String) : List TaskOutcomeEvent :=
  rows.outcomeEvents.filter (·.taskId = taskId)

def membership? (rows : TaskRows) (taskId : String) : Option ObjectiveMembershipRecord :=
  rows.memberships.find? (·.taskId = taskId)

def objective? (rows : TaskRows) (objectiveId : String) : Option Objective :=
  rows.objectives.find? (·.objectiveId = objectiveId)

def aggregate? (rows : TaskRows) (objectiveId : String) : Option ObjectiveAggregateProjection :=
  rows.aggregates.find? (·.objectiveId = objectiveId)

end TaskRows

/-- `SomaError(code, message)`. -/
def taskError (code message : String) : Raised :=
  .soma ⟨.somaError, code, message, false⟩

def storedUuid (value label : String) : Except Raised Unit :=
  ensure (isUuid4 value) (integrityFailure ("stored " ++ label ++ " is not canonical UUIDv4"))

/-- `None`, or a stored identity. -/
def storedOptionalUuid (value : Option String) (label : String) : Except Raised Unit :=
  match value with
  | none => .ok ()
  | some value => storedUuid value label

end Soma.ObjectivesTasks
