import Mathlib
import Soma.ObjectivesTasks.RegroupCandidates

/-!
`repositories/grouping.py` with the proposal commands of `services/grouping.py`
and `jobs/grouping_recompute.py`: a recompute publishes the candidates of an
earlier snapshot as pending proposals, at once or one transaction per candidate
from a durable job, and a pending proposal is accepted or rejected. A rejection
suppresses its fingerprint until it is reconsidered.

The Objective writes of an acceptance, the durable job store and `data_version`
belong elsewhere and come with the call; audit events, times and response pages
are left out.
-/

namespace Soma.ObjectivesTasks

open Foundation Transaction

/-! ## Tables -/

inductive ProposalState where
  | pending
  | accepted
  | rejected
  | superseded
  deriving DecidableEq

structure RegroupProposal where
  proposalId : String
  proposalKind : ProposalKind
  origin : GroupingOrigin
  riskTier : RiskTier
  inputFingerprint : String
  state : ProposalState
  survivorObjectiveId : Option String
  revision : Int

/-- A row of `regroup_proposal_task_changes`. -/
structure ProposalTaskChange where
  proposalTaskChangeId : String
  proposalId : String
  change : GroupingTaskChange

/-- A row of `regroup_proposal_objective_changes`. -/
structure ProposalObjectiveChange where
  proposalObjectiveChangeId : String
  proposalId : String
  change : GroupingObjectiveChange

/-- A row of `regroup_rejection_events`; `reconsidered` says that
`reconsidered_at_utc` is set. -/
structure RegroupRejectionEvent where
  rejectionEventId : String
  proposalId : String
  inputFingerprint : String
  reasonCode : String
  reconsidered : Bool

structure GroupingRows where
  authority : GroupingTables
  commandReceipts : List String
  proposals : List RegroupProposal
  taskChanges : List ProposalTaskChange
  objectiveChanges : List ProposalObjectiveChange
  rejectionEvents : List RegroupRejectionEvent

abbrev GroupingBody (Result : Type) := Body GroupingRows Raised Result

def groupingStale (message : String) : Raised :=
  taskError "GROUPING_PROPOSAL_STALE" message

def equivalentRejection (message : String) : Raised :=
  taskError "GROUPING_EQUIVALENT_REJECTION" message

namespace GroupingRows

variable (rows : GroupingRows)

/-- `RegroupProposalRepository.get`. -/
def get? (proposalId : String) : Option RegroupProposal :=
  rows.proposals.find? (·.proposalId = proposalId)

/-- `exact_pending_by_fingerprint` finds a proposal. -/
def exactPending (fingerprint : String) : Bool :=
  rows.proposals.any fun proposal =>
    proposal.state = .pending ∧ proposal.inputFingerprint = fingerprint

def rejectionSuppressed (fingerprint : String) : Bool :=
  rows.rejectionEvents.any fun event =>
    event.inputFingerprint = fingerprint ∧ event.reconsidered = false

/-- `task_changes`, `ORDER BY task_id,proposal_task_change_id`. -/
def taskChangesOf (proposalId : String) : List GroupingTaskChange :=
  ((rows.taskChanges.filter (·.proposalId = proposalId)).insertionSort fun left right =>
    left.change.taskId < right.change.taskId ∨ (left.change.taskId = right.change.taskId ∧
      left.proposalTaskChangeId ≤ right.proposalTaskChangeId)).map (·.change)

/-- `objective_changes`, `ORDER BY COALESCE(objective_id,''),proposal_objective_change_id`. -/
def objectiveChangesOf (proposalId : String) : List GroupingObjectiveChange :=
  ((rows.objectiveChanges.filter (·.proposalId = proposalId)).insertionSort fun left right =>
    left.change.objectiveId.getD "" < right.change.objectiveId.getD "" ∨
      (left.change.objectiveId.getD "" = right.change.objectiveId.getD "" ∧
        left.proposalObjectiveChangeId ≤ right.proposalObjectiveChangeId)).map (·.change)

end GroupingRows

/-! ## Statements -/

/-- The receipt the command boundary inserts before it calls `apply`. -/
def insertGroupingReceipt (commandId : String) : GroupingBody PUnit := do
  let rows ← get
  require (commandId ∉ rows.commandReceipts) .other
  set { rows with commandReceipts := rows.commandReceipts ++ [commandId] }

/-- The identities `new_uuid4` gives one proposal and its changes. -/
structure ProposalIdentities where
  proposalId : String
  taskChangeId : Nat → String
  objectiveChangeId : Nat → String

section Insert

variable (identities : ProposalIdentities) (candidate : FingerprintedCandidate)

/-- The pending proposal of a candidate. -/
def FingerprintedCandidate.proposal : RegroupProposal where
  proposalId := identities.proposalId
  proposalKind := candidate.candidate.proposalKind
  origin := candidate.candidate.origin
  riskTier := candidate.candidate.riskTier
  inputFingerprint := candidate.inputFingerprint
  state := .pending
  survivorObjectiveId := candidate.candidate.survivorObjectiveId
  revision := 1

def FingerprintedCandidate.taskChangeRows : List ProposalTaskChange :=
  candidate.candidate.taskChanges.mapIdx fun index change =>
    ⟨identities.taskChangeId index, identities.proposalId, change⟩

def FingerprintedCandidate.objectiveChangeRows : List ProposalObjectiveChange :=
  candidate.candidate.objectiveChanges.mapIdx fun index change =>
    ⟨identities.objectiveChangeId index, identities.proposalId, change⟩

/-- `insert_candidate`, and the inserts of `apply_sync` for one candidate. -/
def insertCandidate : GroupingBody PUnit := do
  let rows ← get
  require (identities.proposalId ∉ rows.proposals.map (·.proposalId)) .other
  require (candidate.inputFingerprint.toList.length = 64) .other
  let taskChanges := rows.taskChanges ++ candidate.taskChangeRows identities
  let objectiveChanges := rows.objectiveChanges ++ candidate.objectiveChangeRows identities
  -- `uq_regroup_task_change_proposal_task` and the primary keys
  require (taskChanges.map (·.proposalTaskChangeId)).Nodup .other
  require (taskChanges.map fun row => (row.proposalId, row.change.taskId)).Nodup .other
  require (objectiveChanges.map (·.proposalObjectiveChangeId)).Nodup .other
  set { rows with
    proposals := rows.proposals ++ [candidate.proposal identities]
    taskChanges
    objectiveChanges }

end Insert

/-- `transition`: the update has to hit one pending row at the expected revision
and fingerprint. -/
def transition (proposalId : String) (expectedRevision : Int) (expectedFingerprint : String)
    (newState : ProposalState) : GroupingBody Int := do
  require (newState ≠ .pending) (integrityFailure "invalid regroup proposal transition")
  let rows ← get
  let selected (row : RegroupProposal) : Bool :=
    row.proposalId = proposalId ∧ row.state = .pending ∧ row.revision = expectedRevision ∧
      row.inputFingerprint = expectedFingerprint
  require (rows.proposals.countP selected = 1) (groupingStale "regroup proposal changed")
  set { rows with
    proposals := rows.proposals.map fun row =>
      if selected row then { row with state := newState, revision := row.revision + 1 } else row }
  return expectedRevision + 1

/-- The check every decision on a proposal starts with. -/
def pendingProposal (rows : GroupingRows) (proposalId : String) (proposalRevision : Int)
    (inputFingerprint : String) : Except Raised RegroupProposal :=
  match rows.get? proposalId with
  | none => .error (taskError "GROUPING_PROPOSAL_NOT_FOUND" "grouping proposal does not exist")
  | some proposal => do
    ensure (proposal.state = .pending ∧ proposal.revision = proposalRevision ∧
        proposal.inputFingerprint = inputFingerprint)
      (groupingStale "grouping proposal changed")
    return proposal

/-! ## Recompute -/

def groupingWorksetSoftThreshold : Nat := 100000

/-- What a recompute reads in its snapshot, before its transaction. -/
structure RecomputePlan where
  worksetCount : Option Nat
  snapshotReceiptCount : Option Nat
  candidates : List FingerprintedCandidate
  deriving DecidableEq

/-- The read snapshot of `recompute_grouping_proposals`, with the two Objectives
of a manual merge scope. -/
def planRecompute (python : PythonLibrary) (snapshot : GroupingRows) (origin : GroupingOrigin)
    (scopedIds : Option (String × String)) : Except Raised RecomputePlan :=
  match scopedIds with
  | some (first, second) => do
    let candidate ← manualExactTouchCandidate snapshot.authority first second origin
    return ⟨none, none, [← fingerprinted python candidate]⟩
  | none => do
    let worksetCount ← snapshot.authority.eligibleWorksetCount
    if groupingWorksetSoftThreshold < worksetCount then
      return ⟨some worksetCount, none, []⟩
    else
      return ⟨some worksetCount, some snapshot.commandReceipts.length,
        ← candidates python snapshot.authority origin⟩

structure RecomputeCall where
  commandId : String
  origin : GroupingOrigin
  scopedIds : Option (String × String)
  identities : List ProposalIdentities
  /-- `enqueue_or_coalesce` of the durable job store. -/
  enqueueOrCoalesce : Except Raised String

/-- `execution_mode` with the job of a deferred recompute or the proposals of a
synchronous one. -/
inductive RecomputeResult where
  | durableJob (jobId : String)
  | synchronous (proposalIds : List String)

/-- Inserts the candidates in turn under their identities. -/
def insertCandidates : List ProposalIdentities → List FingerprintedCandidate → GroupingBody PUnit
  | identities :: later, candidate :: rest => do
    insertCandidate identities candidate
    insertCandidates later rest
  | _, [] => pure ⟨⟩
  | [], _ :: _ => throw .other

/-- The transaction of `recompute_grouping_proposals` for what was planned. -/
def recomputeGroupingProposals (python : PythonLibrary) (plan : RecomputePlan)
    (call : RecomputeCall) : GroupingBody RecomputeResult := do
  let rows ← get
  let currentCount ← attempt (match call.scopedIds with
    | some (first, second) => do
      let current ← manualExactTouchCandidate rows.authority first second call.origin
      let fingerprint ← current.inputFingerprint python
      ensure (plan.candidates.map (·.inputFingerprint) = [fingerprint]) (groupingIndeterminate
        "manual merge authority changed after the stable read Snapshot")
      return none
    | none => do
      return some (← rows.authority.eligibleWorksetCount))
  if ∃ worksetCount ∈ plan.worksetCount, groupingWorksetSoftThreshold < worksetCount then do
    require (∃ count ∈ currentCount, groupingWorksetSoftThreshold < count) (groupingIndeterminate
      "grouping workset crossed the durable threshold; recompute must retry")
    insertGroupingReceipt call.commandId
    return .durableJob (← attempt call.enqueueOrCoalesce)
  else do
    require (call.scopedIds ≠ none ∨ (currentCount = plan.worksetCount ∧
        plan.snapshotReceiptCount = some rows.commandReceipts.length))
      (groupingIndeterminate "grouping authority changed after the stable read Snapshot")
    let material := plan.candidates.filter fun candidate =>
      rows.exactPending candidate.inputFingerprint = false ∧
        rows.rejectionSuppressed candidate.inputFingerprint = false
    insertGroupingReceipt call.commandId
    insertCandidates call.identities material
    return .synchronous ((call.identities.take material.length).map (·.proposalId))

/-! ## The durable job -/

/-- One round of the loop of `ObjectiveGroupingRecomputeWorker.run`: a transaction
for one candidate of the job's snapshot. `claimCurrent` and `checkpointInUow` are
what the job store answers there. The result says whether it was published. -/
def publishCandidate (claimCurrent checkpointInUow : Except Raised PUnit)
    (identities : ProposalIdentities) (candidate : FingerprintedCandidate) : GroupingBody Bool := do
  attempt claimCurrent
  let rows ← get
  if rows.exactPending candidate.inputFingerprint ∨
      rows.rejectionSuppressed candidate.inputFingerprint then
    return false
  else do
    insertCandidate identities candidate
    attempt checkpointInUow
    return true

/-! ## Decisions -/

def candidateForProposal (python : PythonLibrary) (rows : GroupingRows)
    (proposal : RegroupProposal) : Except Raised FingerprintedCandidate :=
  if proposal.proposalKind = .manualMerge then
    let objectiveIds := ((rows.objectiveChangesOf proposal.proposalId).filter
      (·.action ∈ [.retain, .supersede])).filterMap (·.objectiveId)
    match objectiveIds.insertionSort (· ≤ ·) with
    | [first, second] => do
      ensure (first ≠ second) (groupingStale "manual merge proposal scope is incomplete")
      let lost := groupingStale
        "current manual merge authority no longer reproduces reviewed proposal"
      let candidate ← match manualExactTouchCandidate rows.authority first second proposal.origin
        with
        | .error (.soma _) => .error lost
        | outcome => outcome
      let current ← fingerprinted python candidate
      ensure (current.inputFingerprint = proposal.inputFingerprint) lost
      return current
    | _ => .error (groupingStale "manual merge proposal scope is incomplete")
  else do
    let found ← candidates python rows.authority proposal.origin
    match found.filter fun current => current.inputFingerprint = proposal.inputFingerprint ∧
      current.candidate.proposalKind = proposal.proposalKind with
    | [current] => return current
    | _ => .error (groupingStale
        "current grouping authority no longer reproduces reviewed proposal")

/-- `_assert_persisted_diff`, with both diffs sorted by the keys of the code. -/
def assertPersistedDiff (candidate : RegroupCandidate) (taskRows : List GroupingTaskChange)
    (objectiveRows : List GroupingObjectiveChange) : Except Raised Unit :=
  let taskKey (change : GroupingTaskChange) : List String :=
    [change.taskId, change.fromObjectiveId.getD "", change.toObjectiveId.getD "",
      change.changeKind.text]
  let objectiveKey (change : GroupingObjectiveChange) : List String :=
    [change.objectiveId.getD "", change.action.text]
  let sortedTasks (changes : List GroupingTaskChange) :=
    changes.insertionSort fun left right => taskKey left ≤ taskKey right
  let sortedObjectives (changes : List GroupingObjectiveChange) :=
    changes.insertionSort fun left right => objectiveKey left ≤ objectiveKey right
  ensure (sortedTasks taskRows = sortedTasks candidate.taskChanges ∧
      sortedObjectives objectiveRows = sortedObjectives candidate.objectiveChanges)
    (groupingStale "persisted regroup diff disagrees with current material input")

structure AcceptCall where
  commandId : String
  proposalId : String
  proposalRevision : Int
  inputFingerprint : String
  acceptHighRisk : Bool
  /-- `data_version` is what it was when the acceptance was planned. -/
  authorityUnchanged : Bool
  /-- The Objective, membership, envelope and aggregate writes. -/
  restructure : GroupingTables → Except Raised GroupingTables

def requireRiskAccepted (proposal : RegroupProposal) (acceptHighRisk : Bool) : Except Raised Unit :=
  ensure (proposal.riskTier = .high → acceptHighRisk = true)
    (taskError "OBJECTIVE_IN_PROGRESS_RESTRUCTURE_LIMIT"
      "high-risk in-progress regroup requires explicit acceptance")

/-- The planning snapshot of `accept_regroup_proposal`. -/
def planAccept (python : PythonLibrary) (snapshot : GroupingRows) (call : AcceptCall) :
    Except Raised FingerprintedCandidate := do
  let proposal ← pendingProposal snapshot call.proposalId call.proposalRevision
    call.inputFingerprint
  requireRiskAccepted proposal call.acceptHighRisk
  let candidate ← candidateForProposal python snapshot proposal
  assertPersistedDiff candidate.candidate (snapshot.taskChangesOf call.proposalId)
    (snapshot.objectiveChangesOf call.proposalId)
  return candidate

/-- The transaction of `accept_regroup_proposal` for the planned candidate. -/
def acceptRegroupProposal (candidate : FingerprintedCandidate) (call : AcceptCall) :
    GroupingBody Int := do
  let rows ← get
  let proposal ← attempt (pendingProposal rows call.proposalId call.proposalRevision
    call.inputFingerprint)
  attempt (requireRiskAccepted proposal call.acceptHighRisk)
  require (call.authorityUnchanged = true)
    (groupingStale "grouping authority changed between planning snapshot and writer lock")
  attempt (assertPersistedDiff candidate.candidate (rows.taskChangesOf call.proposalId)
    (rows.objectiveChangesOf call.proposalId))
  require (candidate.candidate.proposalKind = .create ∨ proposal.survivorObjectiveId ≠ none)
    (integrityFailure "regroup proposal lacks survivor Objective authority")
  insertGroupingReceipt call.commandId
  let rows ← get
  let authority ← attempt (call.restructure rows.authority)
  set { rows with authority }
  transition call.proposalId call.proposalRevision call.inputFingerprint .accepted

structure RejectCall where
  commandId : String
  proposalId : String
  proposalRevision : Int
  inputFingerprint : String
  reasonCategory : String
  rejectionEventId : String

def RejectCall.event (call : RejectCall) : RegroupRejectionEvent where
  rejectionEventId := call.rejectionEventId
  proposalId := call.proposalId
  inputFingerprint := call.inputFingerprint
  reasonCode := call.reasonCategory
  reconsidered := false

/-- `reject_regroup_proposal` with `RegroupProposalRepository.reject`. -/
def rejectRegroupProposal (call : RejectCall) : GroupingBody Int := do
  let rows ← get
  let _ ← attempt (pendingProposal rows call.proposalId call.proposalRevision
    call.inputFingerprint)
  insertGroupingReceipt call.commandId
  let nextRevision ← transition call.proposalId call.proposalRevision call.inputFingerprint
    .rejected
  let rows ← get
  require (call.rejectionEventId ∉ rows.rejectionEvents.map (·.rejectionEventId)) .other
  set { rows with rejectionEvents := rows.rejectionEvents ++ [call.event] }
  return nextRevision

structure ReconsiderCall where
  commandId : String
  proposalId : String
  rejectionEventId : String
  inputFingerprint : String

/-- `reconsider_regroup_inputs` with `RegroupProposalRepository.reconsider_rejection`. -/
def reconsiderRegroupInputs (call : ReconsiderCall) : GroupingBody PUnit := do
  let rows ← get
  match rows.get? call.proposalId with
  | none =>
    throw (taskError "GROUPING_PROPOSAL_NOT_FOUND" "grouping proposal does not exist")
  | some proposal => do
    require (proposal.state = .rejected ∧ proposal.inputFingerprint = call.inputFingerprint)
      (equivalentRejection "proposal does not own the exact rejected regroup input")
    insertGroupingReceipt call.commandId
    let rows ← get
    require (rows.rejectionEvents.any fun event =>
        event.rejectionEventId = call.rejectionEventId ∧ event.proposalId = call.proposalId ∧
          event.inputFingerprint = call.inputFingerprint ∧ event.reconsidered = false)
      (equivalentRejection "exact regroup rejection is absent or already reconsidered")
    let selected (event : RegroupRejectionEvent) : Bool :=
      event.rejectionEventId = call.rejectionEventId ∧ event.reconsidered = false
    require (rows.rejectionEvents.countP selected = 1)
      (equivalentRejection "regroup rejection was already reconsidered")
    set { rows with
      rejectionEvents := rows.rejectionEvents.map fun event =>
        if selected event then { event with reconsidered := true } else event }

end Soma.ObjectivesTasks
