import Soma.ObjectivesTasks.ExecutionFold

/-!
`repositories/objectives.py`: the members of an Objective and the aggregate
derived from them. A rebuild rewrites the aggregate only when the fingerprint of
its inputs changed.
-/

namespace Soma.ObjectivesTasks

open Foundation Transaction

structure MemberAuthority where
  taskId : String
  membershipRevision : Nat
  acceptedPlanRevisionId : String
  acceptedPlanStartUtc : Nat
  acceptedPlanEndUtc : Nat
  currentPlanRevision : Nat
  currentPlanRevisionId : String
  executionRevision : Nat
  execution : FoldedExecution
  outcomeRevision : Nat
  outcomeEventId : Option String
  acceptedOutcome : Option AcceptedOutcome
  operationalCountRevision : Nat
  included : Bool

/-- A value or `None`. -/
def jsonOption {Value : Type} (encode : Value → Json) : Option Value → Json
  | none => .null
  | some value => encode value

def jsonNat (value : Nat) : Json := .int value

namespace MemberAuthority

def aggregateObject (member : MemberAuthority) : Json :=
  .obj [
    ("task_id", .str member.taskId),
    ("membership_revision", jsonNat member.membershipRevision),
    ("accepted_plan", .obj [
      ("plan_revision_id", .str member.acceptedPlanRevisionId),
      ("start_utc", jsonNat member.acceptedPlanStartUtc),
      ("end_utc", jsonNat member.acceptedPlanEndUtc)]),
    ("current_plan", .obj [
      ("revision", jsonNat member.currentPlanRevision),
      ("plan_revision_id", .str member.currentPlanRevisionId)]),
    ("execution", .obj [
      ("revision", jsonNat member.executionRevision),
      ("state", .str member.execution.state.text),
      ("actual_start_utc", jsonOption jsonNat member.execution.actualStartUtc),
      ("actual_end_utc", jsonOption jsonNat member.execution.actualEndUtc),
      ("effective_termination_utc", jsonOption jsonNat member.execution.effectiveTerminationUtc)]),
    ("outcome", .obj [
      ("revision", jsonNat member.outcomeRevision),
      ("outcome_event_id", jsonOption .str member.outcomeEventId),
      ("accepted_outcome", jsonOption (fun outcome => .str outcome.text) member.acceptedOutcome)]),
    ("operational_count", .obj [
      ("revision", jsonNat member.operationalCountRevision),
      ("included", .bool member.included)])]

def reviewObject (member : MemberAuthority) : Json :=
  .obj [
    ("task_id", .str member.taskId),
    ("membership_revision", jsonNat member.membershipRevision),
    ("accepted_plan_revision_id", .str member.acceptedPlanRevisionId),
    ("execution_revision", jsonNat member.executionRevision),
    ("outcome_event_id", jsonOption .str member.outcomeEventId),
    ("outcome_revision", jsonNat member.outcomeRevision),
    ("operational_count_revision", jsonNat member.operationalCountRevision),
    ("included", .bool member.included)]

def hasStarted (member : MemberAuthority) : Bool :=
  member.execution.actualStartUtc.isSome

def locallyExecutable (member : MemberAuthority) : Bool :=
  member.execution.state = .notStarted && member.acceptedOutcome = none

end MemberAuthority

def positive (value : Nat) (label : String) : Except Raised Unit :=
  ensure (0 < value) (integrityFailure ("stored " ++ label ++ " is not a positive integer"))

def currentMembershipForTask (rows : TaskRows) (taskId : String) :
    Except Raised (Option ObjectiveMembershipRecord) :=
  match rows.membership? taskId with
  | none => .ok none
  | some membership => do
    storedUuid membership.taskId "Objective membership Task identity"
    storedUuid membership.objectiveId "Objective membership identity"
    storedUuid membership.acceptedPlanRevisionId "Objective membership plan identity"
    positive membership.membershipRevision "Objective membership revision"
    storedUuid membership.lastEventId "Objective membership event identity"
    let event := rows.membershipEvents.find? (·.membershipEventId = membership.lastEventId)
    ensure (event.isSome ∧ (event.bind (·.toObjectiveId)).isSome ∧
        (event.bind (·.acceptedPlanRevisionId)).isSome)
      (integrityFailure "Objective membership current row is not bound to immutable history")
    ensure (event.map (·.taskId) = some membership.taskId ∧
        event.bind (·.toObjectiveId) = some membership.objectiveId ∧
        event.bind (·.acceptedPlanRevisionId) = some membership.acceptedPlanRevisionId)
      (integrityFailure "Objective membership current row disagrees with immutable history")
    return some membership

/-- `_outcome_matches_execution`, and `_outcome_is_valid` of the queries. -/
def outcomeMatchesExecution (outcome : AcceptedOutcome) (execution : FoldedExecution) : Bool :=
  match outcome with
  | .completed => execution.state = .ended ∧ execution.actualStartUtc.isSome ∧
      execution.actualEndUtc.isSome
  | .incomplete => execution.state ∈ [ExecutionState.ended, .terminated] ∧
      execution.actualStartUtc.isSome
  | .cancelledWithoutExecution => execution.state = .terminated ∧
      execution.actualStartUtc = none

def validateExecutionShape (execution : FoldedExecution) : Except Raised Unit := do
  ensure (execution.state = .notStarted → execution.actualStartUtc = none ∧
      execution.actualEndUtc = none ∧ execution.effectiveTerminationUtc = none)
    (integrityFailure "not-started execution projection contains actual evidence")
  ensure (execution.state = .inProgress → execution.actualStartUtc.isSome ∧
      execution.actualEndUtc = none ∧ execution.effectiveTerminationUtc = none)
    (integrityFailure "in-progress execution projection is invalid")
  ensure (execution.state = .ended → execution.actualStartUtc.isSome ∧
      execution.actualEndUtc.isSome ∧
      execution.actualStartUtc.getD 0 ≤ execution.actualEndUtc.getD 0 ∧
      execution.effectiveTerminationUtc = none)
    (integrityFailure "ended execution projection is invalid")
  ensure (execution.state = .terminated → execution.actualEndUtc = none)
    (integrityFailure "terminated execution projection fabricates actual end")

/-! ## `_load_members` -/

/-- The pinned plan of a member. -/
def checkPinnedPlan (membership : ObjectiveMembershipRecord) (plan : TaskPlanRecord) :
    Except Raised Unit := do
  storedUuid membership.taskId "Objective member Task identity"
  positive membership.membershipRevision "Objective membership revision"
  storedUuid membership.acceptedPlanRevisionId "Objective membership pinned plan identity"
  storedUuid membership.lastEventId "Objective membership event identity"
  storedUuid plan.taskId "Objective pinned plan owner identity"
  ensure (plan.taskId = membership.taskId)
    (integrityFailure "Objective membership pins another Task's plan")
  ensure (plan.startUtc < plan.endUtc)
    (integrityFailure "Objective membership pins an invalid Task interval")

def memberCurrentPlan (rows : TaskRows) (taskId : String) :
    Except Raised TaskPlanCurrentPointer := do
  let missing := integrityFailure "current Objective member is missing current Task plan authority"
  match rows.planCurrent.find? (·.taskId = taskId) with
  | none => .error missing
  | some pointer =>
    match rows.planRevisions.find? (·.planRevisionId = pointer.planRevisionId) with
    | none => .error missing
    | some plan => do
      positive pointer.revision "current Task plan revision"
      storedUuid pointer.planRevisionId "current Task plan identity"
      storedUuid plan.taskId "current Task plan owner identity"
      ensure (plan.taskId = taskId) (integrityFailure "current Task plan belongs to another Task")
      return pointer

/-- The revision and the execution of a member. -/
def memberExecution (rows : TaskRows) (taskId : String) :
    Except Raised (Nat × FoldedExecution) := do
  let history := rows.executionHistory taskId
  ensure (rows.lastExecutionRevision taskId = history.length)
    (integrityFailure "Task execution history revision sequence is not contiguous")
  storedOptionalUuid (history.getLast?.map (·.executionEventId))
    "latest Task execution event identity"
  match rows.executionProjection? taskId with
  | none => do
    ensure (history = []) (integrityFailure "Task execution events exist without current projection")
    return (0, .idle)
  | some projection => do
    positive projection.revision "Task execution revision"
    match rows.executionEvents.find? (·.executionEventId = projection.lastEventId) with
    | none => .error (integrityFailure "Task execution projection is incomplete")
    | some last => do
      ensure (projection.revision = history.length)
        (integrityFailure "Task execution projection revision does not equal immutable event count")
      storedUuid last.taskId "Task execution last-event owner identity"
      ensure (last.taskId = taskId)
        (integrityFailure "Task execution projection points to another Task's event")
      storedUuid projection.lastEventId "Task execution projection last event identity"
      ensure (history.getLast?.map (·.executionEventId) = some projection.lastEventId)
        (integrityFailure
          "Task execution projection does not point to final immutable revision history")
      validateExecutionShape projection.folded
      return (projection.revision, projection.folded)

/-- The reviewed outcome of a member: its revision, its event, and its token
when it still matches the execution. -/
def memberOutcome (rows : TaskRows) (taskId : String) (execution : FoldedExecution) :
    Except Raised (Nat × Option String × Option AcceptedOutcome) :=
  match rows.outcomeCurrent? taskId with
  | none => .ok (0, none, none)
  | some current => do
    positive current.revision "Task outcome revision"
    storedUuid current.outcomeEventId "Task outcome event identity"
    match rows.outcomeEvents.find? (·.outcomeEventId = current.outcomeEventId) with
    | none => .error (integrityFailure "Task outcome projection is incomplete")
    | some event => do
      storedUuid event.taskId "Task outcome event owner identity"
      ensure (event.taskId = taskId ∧ event.acceptedOutcome = current.acceptedOutcome)
        (integrityFailure "Task outcome projection disagrees with immutable history")
      return (current.revision, some current.outcomeEventId,
        if outcomeMatchesExecution current.acceptedOutcome execution then
          some current.acceptedOutcome
        else none)

/-- Whether a member counts, and since which revision. -/
def memberCount (rows : TaskRows) (taskId : String) : Except Raised (Nat × Bool) :=
  match rows.operationalCountCurrent.find? (·.taskId = taskId) with
  | none => .ok (0, true)
  | some current => do
    positive current.revision "operational-count revision"
    match rows.operationalCountEvents.find? (·.inclusionEventId = current.lastEventId) with
    | none => .error (integrityFailure "operational-count projection is incomplete")
    | some event => do
      storedUuid event.taskId "operational-count event owner identity"
      ensure (event.taskId = taskId)
        (integrityFailure "operational-count projection points to another Task")
      ensure (event.included = current.included)
        (integrityFailure "operational-count projection disagrees with immutable history")
      return (current.revision, current.included)

/-- The event a membership is bound to. -/
def checkMembershipEvent (rows : TaskRows) (objectiveId : String)
    (membership : ObjectiveMembershipRecord) : Except Raised Unit := do
  let event := rows.membershipEvents.find? (·.membershipEventId = membership.lastEventId)
  ensure (event.isSome ∧ (event.bind (·.toObjectiveId)).isSome ∧
      (event.bind (·.acceptedPlanRevisionId)).isSome)
    (integrityFailure "Objective membership current authority is not bound to immutable history")
  ensure (event.map (·.taskId) = some membership.taskId ∧
      event.bind (·.toObjectiveId) = some objectiveId ∧
      event.bind (·.acceptedPlanRevisionId) = some membership.acceptedPlanRevisionId)
    (integrityFailure "Objective membership current authority disagrees with immutable history")

def loadMember (rows : TaskRows) (objectiveId : String)
    (pinned : ObjectiveMembershipRecord × TaskPlanRecord) : Except Raised MemberAuthority := do
  let (membership, plan) := pinned
  checkPinnedPlan membership plan
  let currentPlan ← memberCurrentPlan rows membership.taskId
  let (executionRevision, execution) ← memberExecution rows membership.taskId
  let (outcomeRevision, outcomeEventId, acceptedOutcome) ←
    memberOutcome rows membership.taskId execution
  let (operationalCountRevision, included) ← memberCount rows membership.taskId
  checkMembershipEvent rows objectiveId membership
  return {
    taskId := membership.taskId
    membershipRevision := membership.membershipRevision
    acceptedPlanRevisionId := membership.acceptedPlanRevisionId
    acceptedPlanStartUtc := plan.startUtc
    acceptedPlanEndUtc := plan.endUtc
    currentPlanRevision := currentPlan.revision
    currentPlanRevisionId := currentPlan.planRevisionId
    executionRevision, execution, outcomeRevision, outcomeEventId, acceptedOutcome
    operationalCountRevision, included }

/-- The members with their pinned plans, `ORDER BY m.task_id`. -/
def pinnedMembers (rows : TaskRows) (objectiveId : String) :
    List (ObjectiveMembershipRecord × TaskPlanRecord) :=
  ((rows.memberships.filter (·.objectiveId = objectiveId)).insertionSort
      fun first second => first.taskId ≤ second.taskId).filterMap fun membership =>
    (rows.planRevisions.find? (·.planRevisionId = membership.acceptedPlanRevisionId)).map
      fun plan => (membership, plan)

def loadMembers (rows : TaskRows) (objectiveId : String) : Except Raised (List MemberAuthority) := do
  let members ← (pinnedMembers rows objectiveId).mapM (loadMember rows objectiveId)
  ensure ((members.map (·.taskId)).Nodup)
    (integrityFailure "Objective aggregate member query returned duplicate Tasks")
  return members

/-! ## What a rebuild derives -/

def loadObjective (rows : TaskRows) (objectiveId : String) : Except Raised Objective :=
  match rows.objective? objectiveId with
  | none => .error (integrityFailure "Objective aggregate rebuild target does not exist")
  | some objective => do
    positive objective.revision "Objective revision"
    storedOptionalUuid objective.supersededByObjectiveId "superseding Objective identity"
    return objective

/-- `_review_fingerprint`, before hashing. -/
def reviewInput (objective : Objective) (members : List MemberAuthority) : Json :=
  .obj [
    ("schema", .str "OBJECTIVE_REVIEW_INPUT_V1"),
    ("objective_id", .str objective.objectiveId),
    ("objective_revision", jsonNat objective.revision),
    ("superseded_by_objective_id", jsonOption .str objective.supersededByObjectiveId),
    ("members", .arr (members.map (·.reviewObject)))]

/-- The later of two reviews by time and then by id. -/
def laterReview (first second : ObjectiveReviewEvent) : ObjectiveReviewEvent :=
  if second.reviewedAtUtc < first.reviewedAtUtc ∨ second.reviewedAtUtc = first.reviewedAtUtc ∧
      second.objectiveReviewEventId ≤ first.objectiveReviewEventId then first
  else second

def currentReview (rows : TaskRows) (objectiveId reviewFingerprint : String) :
    Except Raised (Option ObjectiveReviewEvent) :=
  match rows.objectiveReviews.filter fun review => review.objectiveId = objectiveId ∧
      review.reviewFingerprint = reviewFingerprint with
  | [] => .ok none
  | first :: others => do
    let review := others.foldl laterReview first
    storedUuid review.objectiveReviewEventId "Objective review event identity"
    return some review

def reviewJson (review : ObjectiveReviewEvent) : Json :=
  .obj [
    ("objective_review_event_id", .str review.objectiveReviewEventId),
    ("review_fingerprint", .str review.reviewFingerprint),
    ("derived_outcome", .str review.derivedOutcome.text)]

def deriveOutcome (members : List MemberAuthority) : Option AggregateOutcome :=
  let outcomes := (members.filter (·.included)).map (·.acceptedOutcome)
  if outcomes = [] then
    if members = [] then none else some .excludedFromOperationalCounts
  else if none ∈ outcomes then none
  else if ∀ outcome ∈ outcomes, outcome = some .completed then some .completed
  else if ∀ outcome ∈ outcomes, outcome = some .incomplete then some .incomplete
  else if (∀ outcome ∈ outcomes, outcome = some .cancelledWithoutExecution) ∧
      ∀ member ∈ members, member.hasStarted = false then some .cancelled
  else if ∃ first ∈ outcomes, ∃ second ∈ outcomes, first ≠ second then some .mixed
  else none

/-- The actual end of an Objective whose started members have all finished. -/
def deriveActualEnd (members : List MemberAuthority) : Option Nat :=
  let started := members.filter (·.hasStarted)
  if started = [] ∨ ∃ member ∈ members, member.execution.state = .inProgress then none
  else
    let times := started.map fun member =>
      member.execution.actualEndUtc <|> member.execution.effectiveTerminationUtc
    if none ∈ times then none else (times.filterMap id).max?

def deriveMaterialState (objective : Objective) (members : List MemberAuthority)
    (review : Option ObjectiveReviewEvent) : MaterialState :=
  let includedCount := members.countP (·.included)
  let starts := members.filterMap (·.execution.actualStartUtc)
  let anyInProgress : Bool := members.any (·.execution.state = .inProgress)
  let mismatch : Bool :=
    members.any fun member => member.currentPlanRevisionId ≠ member.acceptedPlanRevisionId
  let derived := deriveOutcome members
  let (state, outcome, attention) : ObjectiveState × Option AggregateOutcome ×
      Option AttentionReason :=
    if objective.supersededByObjectiveId.isSome then (.superseded, derived, none)
    else if objective.creationOrigin = .historicalProviderComplete ∧ starts = [] then
      (.historicalStructure, derived, none)
    else if anyInProgress then (.inProgress, none, none)
    else if members ≠ [] ∧ members.all (·.acceptedOutcome.isSome) then
      (if review.isSome then .reviewed else .awaitingReview, derived,
        if derived = some .mixed then some .mixedOutcomes else none)
    else if starts ≠ [] ∧ members.all (fun member => !member.locallyExecutable) then
      (.awaitingReview, none, some .lostLastExecutable)
    else (.planned, none, none)
  { executionState := state
    aggregateOutcome := outcome
    actualStartUtc := starts.min?
    actualEndUtc := deriveActualEnd members
    attentionReason := attention <|> if mismatch then some .planMembershipMismatch else none
    includedTaskCount := includedCount
    excludedTaskCount := members.length - includedCount }

def validateEnvelope (rows : TaskRows) (objectiveId : String) (members : List MemberAuthority) :
    Except Raised Unit :=
  match rows.envelopes.find? (·.objectiveId = objectiveId) with
  | none => .error (integrityFailure "current Objective is missing envelope projection")
  | some envelope => do
    ensure (members ≠ []) (integrityFailure "current Objective has no members")
    ensure (some envelope.startUtc = (members.map (·.acceptedPlanStartUtc)).min? ∧
        some envelope.endUtc = (members.map (·.acceptedPlanEndUtc)).max? ∧
        envelope.memberCount = members.length)
      (integrityFailure "Objective envelope projection disagrees with membership-pinned plans")

/-- The envelope of an Objective nothing supersedes. -/
def validateCurrentEnvelope (rows : TaskRows) (objective : Objective)
    (members : List MemberAuthority) : Except Raised Unit :=
  if objective.supersededByObjectiveId = none then
    validateEnvelope rows objective.objectiveId members
  else .ok ()

/-- The document whose digest is `aggregate_input_fingerprint`. -/
def aggregateInput (objective : Objective) (members : List MemberAuthority)
    (review : Option ObjectiveReviewEvent) : Json :=
  .obj [
    ("schema", .str "SOMA_OBJECTIVE_AGGREGATE_INPUT_V1"),
    ("objective", .obj [
      ("objective_id", .str objective.objectiveId),
      ("revision", jsonNat objective.revision),
      ("creation_origin", .str objective.creationOrigin.text),
      ("superseded_by_objective_id", jsonOption .str objective.supersededByObjectiveId)]),
    ("members", .arr (members.map (·.aggregateObject))),
    ("current_review", jsonOption reviewJson review)]

/-- `ObjectiveProjectionRepository.aggregate`: the stored aggregate. -/
def aggregate (rows : TaskRows) (objectiveId : String) :
    Except Raised (Option ObjectiveAggregateProjection) :=
  match rows.aggregate? objectiveId with
  | none => .ok none
  | some stored => do
    storedUuid stored.objectiveId "Objective aggregate identity"
    ensure (isSha256 stored.aggregateInputFingerprint)
      (integrityFailure "Objective aggregate fingerprint is invalid")
    positive stored.revision "Objective aggregate revision"
    return some stored

section Rebuild

variable (python : PythonLibrary)

/-- What a rebuild reads: the fingerprint of its inputs and the material state. -/
def deriveAggregate (rows : TaskRows) (objectiveId : String) :
    Except Raised (String × MaterialState) := do
  storedUuid objectiveId "Objective rebuild identity"
  let objective ← loadObjective rows objectiveId
  let members ← loadMembers rows objectiveId
  validateCurrentEnvelope rows objective members
  let reviewFingerprint ← sha256CanonicalJson python (reviewInput objective members)
  let review ← currentReview rows objectiveId reviewFingerprint
  let material := deriveMaterialState objective members review
  ensure (∀ current ∈ review, some current.derivedOutcome = material.aggregateOutcome)
    (integrityFailure "Objective current review outcome disagrees with current material authority")
  return (← sha256CanonicalJson python (aggregateInput objective members review), material)

/-- The rows after `UPDATE objective_aggregate_projection .. WHERE objective_id=?
AND revision=?`. -/
def TaskRows.updateAggregate (rows : TaskRows) (objectiveId : String) (revision : Nat)
    (material : MaterialState) (fingerprint : String) : TaskRows :=
  let written (row : ObjectiveAggregateProjection) : ObjectiveAggregateProjection :=
    if row.objectiveId = objectiveId ∧ row.revision = revision then
      { row with
        material := material
        aggregateInputFingerprint := fingerprint
        revision := row.revision + 1 }
    else row
  { rows with aggregates := rows.aggregates.map written }

/-- The guarded rewrite of the aggregate. -/
def updateAggregate (objectiveId : String) (revision : Nat) (material : MaterialState)
    (fingerprint : String) : TaskBody PUnit := do
  let rows : TaskRows ← get
  require (rows.aggregates.countP (fun row =>
      row.objectiveId = objectiveId ∧ row.revision = revision) = 1)
    (integrityFailure "Objective aggregate changed during guarded rebuild")
  set (rows.updateAggregate objectiveId revision material fingerprint)

def insertAggregate (row : ObjectiveAggregateProjection) : TaskBody PUnit := do
  let rows ← get
  require (row.objectiveId ∉ rows.aggregates.map (·.objectiveId)) .other
  set { rows with aggregates := rows.aggregates ++ [row] }

/-- The aggregate a rebuild returns once it has written. -/
def rebuilt (objectiveId : String) : TaskBody ObjectiveAggregateProjection := do
  let rows ← get
  let stored ← attempt (aggregate rows objectiveId)
  match stored with
  | none => throw (integrityFailure "Objective aggregate rebuild did not publish a projection")
  | some projection => return projection

def rebuildAggregate (objectiveId : String) : TaskBody ObjectiveAggregateProjection := do
  let rows ← get
  let (fingerprint, material) ← attempt (deriveAggregate python rows objectiveId)
  let existing ← attempt (aggregate rows objectiveId)
  match existing with
  | some existing =>
    if existing.aggregateInputFingerprint = fingerprint then do
      require (existing.material = material)
        (integrityFailure "Objective aggregate fingerprint agrees while material fields disagree")
      return existing
    else do
      updateAggregate objectiveId existing.revision material fingerprint
      rebuilt objectiveId
  | none => do
    insertAggregate ⟨objectiveId, material, fingerprint, 1⟩
    rebuilt objectiveId

/-- The rebuild after a change of a task that may be a member. -/
def rebuildIfMember (taskId : String) : TaskBody PUnit := do
  let rows ← get
  let membership ← attempt (currentMembershipForTask rows taskId)
  match membership with
  | none => return ⟨⟩
  | some membership => do
    let _ ← rebuildAggregate python membership.objectiveId

end Rebuild

end Soma.ObjectivesTasks
