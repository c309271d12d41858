import Soma.Foundation.CanonicalLength
import Soma.ObjectivesTasks.ExecutionRuns
import Soma.ObjectivesTasks.SourceReviews

/-!
Which pending source-terminal reviews can be decided.

A decision with the review's own fingerprint is refused as stale exactly when
the fingerprint of the local authority is no longer the stored one. It is not as
long as the execution, the plan, the membership and the lock of the task read as
they did when the review was opened; a start of the task, or a change of a
sibling that rewrites the aggregate of its Objective, is enough to make it so.
-/

namespace Soma.ObjectivesTasks

open Execution Foundation Transaction Rows

variable {rows next : TaskRows} {taskId : String}

/-- Another answer than a stale source-terminal review. -/
def NotStale (raised : Raised) : Prop :=
  ∀ message, raised ≠ sourceTerminalStale message

theorem NotStale.of_fault (fault : Fault raised) : NotStale raised := by
  intro message
  rcases fault with rfl | ⟨_, rfl⟩ | ⟨_, rfl⟩ <;>
    simp [integrityFailure, validationError, sourceTerminalStale, taskError]

theorem notStale_task (message : String) (other : code ≠ "WFM_SOURCE_TERMINAL_STALE") :
    NotStale (taskError code message) := by
  intro message same
  simp only [sourceTerminalStale, taskError, Raised.soma.injEq, SomaError.mk.injEq] at same
  exact other same.2.1

/-- The decision on a review with what the review itself has stored. -/
def WfmSourceTerminalReviewRecord.request (review : WfmSourceTerminalReviewRecord)
    (decision : SourceTerminalDecision) (reasonCategory : String) : SourceTerminalRequest where
  sourceTerminalReviewId := review.sourceTerminalReviewId
  taskId := review.taskId
  sourceProjectionRevision := review.sourceProjectionRevision
  inputFingerprint := review.inputFingerprint
  decision := decision
  reasonCategory := reasonCategory

/-! ## What a fingerprint reads -/

theorem requireWfmTask_message (other : String)
    (found : requireWfmTask rows taskId message = .ok task) :
    requireWfmTask rows taskId other = .ok task := by
  unfold requireWfmTask at found ⊢
  split at found
  · cases found
  · simp only [except_ok] at found ⊢
    exact found

theorem requireWfmTask_raises (message : String) :
    RaisesOnly NotStale (requireWfmTask rows taskId message) := by
  unfold requireWfmTask
  split
  · exact .error (notStale_task _ (by decide))
  · exact .bind (raisesOnly_ensure (.of_fault (fault_integrity _)))
      fun _ => .ok _

variable (python : PythonLibrary)

theorem fingerprint_ok
    (computed : sourceTerminalReviewFingerprint python rows taskId = .ok fingerprint) :
    isUuid4 taskId ∧
      ∃ task source authority,
        requireWfmTask rows taskId "source-terminal review requires canonical WFM Task identity" =
          .ok task ∧
        terminalSource rows taskId = .ok source ∧ localAuthority rows taskId = .ok authority ∧
        sha256CanonicalJson python (sourceTerminalDocument taskId source.1 source.2 authority) =
          .ok fingerprint := by
  simp only [sourceTerminalReviewFingerprint, sourceTerminalReviewPayload, requireUuid4,
    except_bind_ok, ensure_ok] at computed
  obtain ⟨_, ⟨_, canonical, task, found, ⟨source, _⟩, terminal, authority, read, same⟩,
    digested⟩ := computed
  cases same
  exact ⟨canonical, task, _, authority, found, terminal, read, digested⟩

theorem localAuthority_execution (read : localAuthority rows taskId = .ok authority) :
    ∃ execution, executionAuthority rows taskId = .ok execution := by
  simp only [localAuthority, except_ok, executionFingerprintState] at read
  obtain ⟨_, ⟨execution, found, -⟩, -⟩ := read
  exact ⟨execution, found⟩

/-- Under the same source and the same local authority the fingerprint is the
same, unless the task itself is gone. -/
theorem fingerprint_same
    (computed : sourceTerminalReviewFingerprint python opened taskId = .ok fingerprint)
    (source : rows.source? taskId = opened.source? taskId)
    (same : localAuthority rows taskId = localAuthority opened taskId) :
    RaisesOnly NotStale (sourceTerminalReviewFingerprint python rows taskId) ∧
      ∀ current, sourceTerminalReviewFingerprint python rows taskId = .ok current →
        current = fingerprint := by
  obtain ⟨_, _, found, authority, -, terminal, read, digested⟩ :=
    fingerprint_ok python computed
  have sourceNow : terminalSource rows taskId = .ok found := by
    rw [← terminal]
    simp only [terminalSource, sourceProjection, source]
  have fixed : ∀ current, sourceTerminalReviewFingerprint python rows taskId = .ok current →
      current = fingerprint := by
    intro current now
    obtain ⟨-, _, _, _, -, terminal', read', digested'⟩ := fingerprint_ok python now
    rw [sourceNow, Except.ok.injEq] at terminal'
    rw [same, read, Except.ok.injEq] at read'
    subst terminal' read'
    rw [digested, Except.ok.injEq] at digested'
    exact digested'.symm
  refine ⟨?_, fixed⟩
  refine .bind (.bind (raisesOnly_ensure (.of_fault (fault_validation _)))
    fun _ => .bind (requireWfmTask_raises _) fun _ => ?_)
    fun _ => (raises_sha256CanonicalJson python _).mono fun _ => .of_fault
  rw [sourceNow, same, read]
  exact .ok _

/-! ## What a decision raises -/

section Decision

variable {call : Call} {review : WfmSourceTerminalReviewRecord}
  {decision : SourceTerminalDecision} {reasonCategory : String}

theorem requireCurrentReview_own (reviewed : SourceReviewed rows)
    (listed : review ∈ rows.sourceTerminalReviews) (undecided : Undecided review) :
    requireCurrentReview rows (review.request decision reasonCategory) = .ok review := by
  have found : rows.sourceTerminalReviews.find? (·.sourceTerminalReviewId =
      (review.request decision reasonCategory).sourceTerminalReviewId) = some review :=
    find?_eq_some reviewed.reviewIds listed
  unfold requireCurrentReview
  rw [found]
  exact except_bind_ok.mpr ⟨⟨⟩, ensure_ok.mpr ⟨rfl, rfl, rfl, undecided.pending,
    undecided.revision, undecided.consequence, undecided.decided⟩, rfl⟩

variable {source : WfmSourceProjectionRecord}

theorem requireReviewedSource_own (found : rows.source? review.taskId = some source)
    (upToDate : UpToDate review source) :
    RaisesOnly NotStale
      (requireReviewedSource rows (review.request decision reasonCategory) review) := by
  refine .bind_of_ok ?_ ?_
  · unfold sourceProjection
    split
    · exact .ok _
    · exact .bind (raisesOnly_ensure (.of_fault (fault_integrity _))) fun _ =>
        .bind (raisesOnly_ensure (.of_fault (fault_integrity _))) fun _ => .ok _
  · intro current read
    have same := sourceProjection_ok read
    rw [WfmSourceTerminalReviewRecord.request, found] at same
    subst same
    exact .of_ok ⟨⟩ (ensure_ok.mpr ⟨upToDate.terminal,
      congrArg Int.ofNat upToDate.revision, upToDate.lifecycle, upToDate.observed⟩)

theorem decideReview_raises
    (ids : (rows.sourceTerminalReviews.map (·.sourceTerminalReviewId)).Nodup)
    (listed : review ∈ rows.sourceTerminalReviews) (pending : review.state = .pending)
    (lost : Raised) :
    RaisesOnly NotStale ((decideReview review state consequence now lost).run rows) := by
  refine .run_bind (BodyRaisesOnly.get _) fun read middle found => ?_
  obtain ⟨rfl, rfl⟩ := get_ok.mp found
  refine .run_bind ?_ fun _ _ _ => BodyRaisesOnly.bind
    (.require (.of_fault fault_other)) (fun _ => .set _) _
  have one : rows.sourceTerminalReviews.countP (fun row =>
      row.sourceTerminalReviewId = review.sourceTerminalReviewId ∧ row.taskId = review.taskId ∧
        row.state = .pending ∧ row.revision = review.revision) = 1 :=
    countP_eq_one ids listed (by simp [pending]) fun row _ hit => (of_decide_eq_true hit).1
  rw [require, if_pos one]
  exact BodyRaisesOnly.pure _ _

/-- The preparation of the review's own decision, under a fingerprint that is
still the stored one. -/
theorem prepareResolution_raises (reviewed : SourceReviewed rows)
    (listed : review ∈ rows.sourceTerminalReviews) (undecided : Undecided review)
    (found : rows.source? review.taskId = some source) (upToDate : UpToDate review source)
    (readable : RaisesOnly NotStale (sourceTerminalReviewFingerprint python rows review.taskId))
    (fixed : ∀ current, sourceTerminalReviewFingerprint python rows review.taskId = .ok current →
      current = review.inputFingerprint) :
    RaisesOnly NotStale
      (prepareResolution python rows (review.request decision reasonCategory)) := by
  refine .bind (requireWfmTask_raises _) fun task => .bind_of_ok
    (.of_ok review (requireCurrentReview_own reviewed listed undecided)) ?_
  intro current own
  rw [requireCurrentReview_own reviewed listed undecided, Except.ok.injEq] at own
  subst own
  refine .bind (requireReviewedSource_own found upToDate) fun _ => .bind_of_ok readable ?_
  intro current computed
  have same := fixed current computed
  obtain ⟨-, _, _, _, -, -, local_, -⟩ := fingerprint_ok python computed
  obtain ⟨execution, read⟩ := localAuthority_execution local_
  refine .bind (.of_ok ⟨⟩ (ensure_ok.mpr ⟨rfl, same⟩)) fun _ =>
    .bind (.of_ok execution read) fun _ =>
    .bind (raisesOnly_ensure (notStale_task _ (by decide))) fun _ => .ok _

theorem prepareResolution_review
    (prepared : prepareResolution python rows request = .ok (task, found, execution)) :
    requireCurrentReview rows request = .ok found := by
  simp only [prepareResolution, except_ok] at prepared
  obtain ⟨_, -, _, current, -, _, -, -, _, -, -, same⟩ := prepared
  cases same
  exact current

theorem applyConsequence_raises (request : SourceTerminalRequest) (task : TaskRecord)
    (execution : ExecutionAuthority) (eventId : Option String) :
    BodyRaisesOnly NotStale (applyConsequence request task execution eventId) := by
  have other : NotStale .other := .of_fault fault_other
  have integrity (message : String) : NotStale (integrityFailure message) :=
    .of_fault (fault_integrity message)
  cases eventId with
  | none => exact .pure _
  | some eventId =>
    refine .bind (.bind .get fun _ => .bind (.require other) fun _ =>
      .bind (.require other) fun _ => .set _) fun _ => .bind ?_ fun _ => .bind .get fun _ =>
      .bind (.require (integrity _)) fun _ => .set _
    unfold advanceTerminationProjection
    split
    · exact .bind .get fun _ => .bind (.require other) fun _ =>
        .bind (.require other) fun _ => .set _
    · exact .bind .get fun _ => .bind (.require (integrity _)) fun _ =>
        .bind (.require other) fun _ => .set _

theorem validateSourceTerminalRequest_raises (request : SourceTerminalRequest) :
    RaisesOnly NotStale (validateSourceTerminalRequest request) := by
  have invalid (message : String) : NotStale (validationError message) :=
    .of_fault (fault_validation message)
  exact .bind (raisesOnly_ensure (invalid _)) fun _ =>
    .bind (raisesOnly_ensure (invalid _)) fun _ => .bind (raisesOnly_ensure (invalid _)) fun _ =>
    .bind (raisesOnly_ensure (invalid _)) fun _ => raisesOnly_ensure (invalid _)

theorem resolve_not_stale (reviewed : SourceReviewed rows)
    (listed : review ∈ rows.sourceTerminalReviews) (undecided : Undecided review)
    (found : rows.source? review.taskId = some source) (upToDate : UpToDate review source)
    (readable : RaisesOnly NotStale (sourceTerminalReviewFingerprint python rows review.taskId))
    (fixed : ∀ current, sourceTerminalReviewFingerprint python rows review.taskId = .ok current →
      current = review.inputFingerprint) :
    RaisesOnly NotStale ((resolveWfmSourceTerminalConsequence python call
      (review.request decision reasonCategory)).run rows) := by
  refine .run_bind (BodyRaisesOnly.attempt (validateSourceTerminalRequest_raises _) _)
    fun _ _ validated => ?_
  obtain ⟨-, rfl⟩ := attempt_ok.mp validated
  refine .run_bind (BodyRaisesOnly.get _) fun read _ got => ?_
  obtain ⟨rfl, rfl⟩ := get_ok.mp got
  refine .run_bind (BodyRaisesOnly.attempt (prepareResolution_raises python reviewed
    listed undecided found upToDate readable fixed) _) fun prepared _ done => ?_
  obtain ⟨prepares, rfl⟩ := attempt_ok.mp done
  obtain ⟨_, current, _⟩ := prepared
  have own := prepareResolution_review python prepares
  rw [requireCurrentReview_own reviewed listed undecided, Except.ok.injEq] at own
  subst own
  refine .run_bind (applyConsequence_raises _ _ _ _ _) fun _ middle applied => ?_
  have tables := keeps_applyConsequence _ _ _ _ _ rfl applied
  have reviews : middle.sourceTerminalReviews = rows.sourceTerminalReviews :=
    congrArg Prod.snd tables
  refine .run_bind (decideReview_raises (reviews ▸ reviewed.reviewIds)
    (reviews ▸ listed) undecided.pending _) fun _ after _ => ?_
  refine .run_bind ?_ fun _ _ _ => BodyRaisesOnly.pure _ _
  unfold rebuildAfter
  split
  · exact BodyRaisesOnly.pure _ _
  · exact (raises_rebuildIfMember python _ _).mono fun _ => .of_fault

theorem resolve_stale (reviewed : SourceReviewed rows)
    (listed : review ∈ rows.sourceTerminalReviews) (undecided : Undecided review)
    (found : rows.source? review.taskId = some source) (upToDate : UpToDate review source)
    (valid : validateSourceTerminalRequest (review.request decision reasonCategory) = .ok ⟨⟩)
    (computed : sourceTerminalReviewFingerprint python rows review.taskId = .ok current)
    (changed : current ≠ review.inputFingerprint) :
    (resolveWfmSourceTerminalConsequence python call
      (review.request decision reasonCategory)).run rows =
        .error (sourceTerminalStale "WFM source-terminal review authority changed") := by
  obtain ⟨-, task, _, _, exists_, terminal, -, -⟩ := fingerprint_ok python computed
  have own : requireCurrentReview rows (review.request decision reasonCategory) = .ok review :=
    requireCurrentReview_own reviewed listed undecided
  have read : sourceProjection rows review.taskId = .ok (some source) := by
    simp only [terminalSource, except_ok] at terminal
    obtain ⟨_, read, -⟩ := terminal
    have same := sourceProjection_ok read
    rw [found] at same
    rw [read, ← same]
  have accepted : requireReviewedSource rows (review.request decision reasonCategory) review =
      .ok ⟨⟩ := by
    simp only [requireReviewedSource, except_ok]
    exact ⟨_, read,
      ensure_ok.mpr ⟨upToDate.terminal, congrArg Int.ofNat upToDate.revision, upToDate.lifecycle, upToDate.observed⟩⟩
  have refused : prepareResolution python rows (review.request decision reasonCategory) =
      .error (sourceTerminalStale "WFM source-terminal review authority changed") := by
    simp only [prepareResolution, except_bind_error]
    refine .inr ⟨task, requireWfmTask_message _ exists_, .inr ⟨review, own, .inr ⟨⟨⟩, accepted,
      .inr ⟨current, computed, .inl ?_⟩⟩⟩⟩
    exact ensure_error.mpr ⟨fun same => changed same.2, rfl⟩
  unfold resolveWfmSourceTerminalConsequence
  rw [run_attempt_bind_ok valid, run_bind_of_ok (get_ok.mpr ⟨rfl, rfl⟩)]
  exact run_attempt_bind_error refused

end Decision

/-! ## Pending reviews -/

/-- A pending review is at the current revision of its source. Its own decision
is not refused as stale while the local authority of its task reads as it did
when the review was opened, and is refused, without a trace, when the
fingerprint of that authority has changed. -/
theorem pending_source_terminal_review
    (reached : Reachable WithoutSources (SourceStep python) rows)
    {review : WfmSourceTerminalReviewRecord} (listed : review ∈ rows.sourceTerminalReviews)
    (pending : review.state = .pending) :
    (∃ source, rows.source? review.taskId = some source ∧
      source.sourceProjectionRevision = review.sourceProjectionRevision) ∧
    ∃ before opened, OpenedBy python before opened rows review ∧
      ∀ call decision reasonCategory,
        (localAuthority rows review.taskId = localAuthority opened review.taskId →
          ∀ message, (commit (resolveWfmSourceTerminalConsequence python call
            (review.request decision reasonCategory)) rows).1 ≠
              .error (sourceTerminalStale message)) ∧
        ∀ current,
          validateSourceTerminalRequest (review.request decision reasonCategory) = .ok ⟨⟩ →
          sourceTerminalReviewFingerprint python rows review.taskId = .ok current →
          current ≠ review.inputFingerprint →
            commit (resolveWfmSourceTerminalConsequence python call
              (review.request decision reasonCategory)) rows =
                (.error (sourceTerminalStale "WFM source-terminal review authority changed"),
                  rows) := by
  have reviewed := SourceReviewed.of_reachable python reached
  have undecided := reviewed.undecided review listed pending
  obtain ⟨source, found, upToDate⟩ := reviewed.current review listed pending
  obtain ⟨before, opened, run⟩ := opened_of_reachable python reached listed pending
  refine ⟨⟨source, found, upToDate.revision⟩, before, opened, run, ?_⟩
  intro call decision reasonCategory
  constructor
  · intro same message refused
    obtain ⟨readable, fixed⟩ := fingerprint_same python run.opens.fingerprint run.source same
    exact raisesOnly_commit (resolve_not_stale python reviewed listed undecided found upToDate
      readable fixed) refused message rfl
  · intro current valid computed changed
    unfold commit
    rw [resolve_stale python reviewed listed undecided found upToDate valid computed changed]

/-! ## A start makes the review stale -/

def wfmTask : String := "00000000-0000-4000-8000-0000000000ab"
def wfmPlan : String := "00000000-0000-4000-8000-0000000000ac"
def observation : String := "00000000-0000-4000-8000-0000000000ad"

def firstDigest : String := "44136fa355b3678a1146ad16f7e8649e94fb4fc21fe77e8310c060f61caaff8a"
def otherDigest : String := "3216114ee7542b1a583b9a50f6a432e90907cfd8d916bb42e9532228e3205476"

/-- A library whose digests tell texts of 721 characters from all others. -/
def lengthPython : PythonLibrary where
  jsonLoads _ := none
  sha256Hex text := if text.length = 721 then firstDigest else otherDigest

def onePlannedTask : TaskRows :=
  { oneTask with
    tasks := [⟨wfmTask, .wfm, 1⟩]
    wfmTaskIdentities := [wfmTask]
    planRevisions := [⟨wfmPlan, wfmTask, 10, 20⟩]
    planCurrent := [⟨wfmTask, wfmPlan, 1⟩] }

def completed : WfmSourceProjectionMutation where
  taskId := wfmTask
  expectedSourceProjectionRevision := 0
  providerStatusToken := some "Complete"
  providerLifecycleClass := .complete
  sourcePlanStartUtc := some 10
  sourcePlanEndUtc := some 20
  acceptedSourceObservationId := some observation
  sourceBaseToken := otherDigest

def afterCompletion : TaskRows :=
  (SourceCommand.accept (callWith startEvent) completed).apply lengthPython onePlannedTask

def afterStart : TaskRows :=
  (ExecutionCommand.start (callWith endEvent) wfmTask 1 0 (.instant 12)).apply lengthPython
    afterCompletion

theorem fingerprint_of_length (read : sourceTerminalReviewPayload rows taskId = .ok document)
    (computed : sourceTerminalReviewFingerprint lengthPython rows taskId = .ok fingerprint) :
    fingerprint = if dumpsLength document = 721 then firstDigest else otherDigest := by
  simp only [sourceTerminalReviewFingerprint, except_ok] at computed
  obtain ⟨found, now, digested⟩ := computed
  rw [read, Except.ok.injEq] at now
  subst now
  simp only [sha256CanonicalJson, canonicalJson, except_ok] at digested
  obtain ⟨_, encoded, same⟩ := digested
  cases dumped : dumps document with
  | none =>
    rw [dumped] at encoded
    cases encoded
  | some found =>
    rw [dumped] at encoded
    cases encoded
    cases same
    rw [← dumps_length dumped]
    rfl

theorem payload_of_length
    (measured : (sourceTerminalReviewPayload rows taskId).toOption.map dumpsLength = some length) :
    ∃ document, sourceTerminalReviewPayload rows taskId = .ok document ∧
      dumpsLength document = length := by
  cases read : sourceTerminalReviewPayload rows taskId with
  | error raised =>
    rw [read] at measured
    cases measured
  | ok document =>
    rw [read] at measured
    exact ⟨document, rfl, Option.some.inj measured⟩

theorem onePlannedTask_empty : WithoutSources onePlannedTask :=
  rfl

theorem afterCompletion_reached :
    Reachable WithoutSources (SourceStep lengthPython) afterCompletion :=
  (Reachable.start onePlannedTask_empty).step
    (.command onePlannedTask (.accept (callWith startEvent) completed))

theorem afterCompletion_accepted :
    Accepted lengthPython onePlannedTask afterCompletion completed.taskId := by
  have returned : (commit (applyWfmSourceProjection lengthPython (callWith startEvent) completed)
      onePlannedTask).1.toOption.isSome = true := by decide +kernel
  cases outcome : (commit (applyWfmSourceProjection lengthPython (callWith startEvent) completed)
      onePlannedTask).1 with
  | error raised =>
    rw [outcome] at returned
    cases returned
  | ok result =>
    exact applyWfmSourceProjection_ok lengthPython (.empty onePlannedTask_empty) (commit_ok outcome)

theorem completion_opens : ∃ review, afterCompletion.sourceTerminalReviews = [review] ∧
    review.taskId = wfmTask ∧ review.sourceTerminalReviewId = startEvent.value ∧
      review.sourceProjectionRevision = 1 ∧
      OpenedNow lengthPython onePlannedTask afterCompletion review := by
  have shape : afterCompletion.sourceTerminalReviews.map (fun review =>
      (review.taskId, review.sourceTerminalReviewId, review.sourceProjectionRevision,
        review.state)) = [(wfmTask, startEvent.value, 1, .pending)] := by decide +kernel
  obtain ⟨review, _, same, columns, none⟩ := List.map_eq_cons_iff.mp shape
  obtain rfl := List.map_eq_nil_iff.mp none
  simp only [Prod.mk.injEq] at columns
  have listed : review ∈ afterCompletion.sourceTerminalReviews := by simp [same]
  rcases afterCompletion_accepted.pending review listed columns.2.2.2 with ⟨old, -⟩ | opened
  · cases old
  · exact ⟨review, same, columns.1, columns.2.1, columns.2.2.1, opened⟩

theorem afterStart_tables : afterStart.sourceTables = afterCompletion.sourceTables :=
  rfl

theorem afterStart_fingerprint :
    sourceTerminalReviewFingerprint lengthPython afterStart wfmTask = .ok otherDigest := by
  have readable : (sourceTerminalReviewFingerprint lengthPython afterStart
      wfmTask).toOption.isSome = true := by decide +kernel
  have measured : (sourceTerminalReviewPayload afterStart wfmTask).toOption.map dumpsLength =
      some 753 := by decide +kernel
  obtain ⟨_, read, length⟩ := payload_of_length measured
  cases computed : sourceTerminalReviewFingerprint lengthPython afterStart wfmTask with
  | error raised =>
    rw [computed] at readable
    cases readable
  | ok fingerprint => rw [fingerprint_of_length read computed, length, if_neg (by decide)]

/-- A review of the completion can be traced back to an acceptance. -/
theorem completion_review_opened : ∃ review ∈ afterCompletion.sourceTerminalReviews,
    ∃ before opened, OpenedBy lengthPython before opened afterCompletion review := by
  obtain ⟨review, one, -, -, -, opened⟩ := completion_opens
  have listed : review ∈ afterCompletion.sourceTerminalReviews := by simp [one]
  obtain ⟨-, before, state, run, -⟩ := pending_source_terminal_review lengthPython
    afterCompletion_reached listed opened.undecided.pending
  exact ⟨review, listed, before, state, run⟩

/-- A start of the task leaves its review pending at the current source revision,
and no decision on it is accepted any more. -/
theorem start_makes_review_stale :
    Reachable WithoutSources (SourceStep lengthPython) afterStart ∧
      ∃ review ∈ afterStart.sourceTerminalReviews, review.state = .pending ∧
        (∃ source, afterStart.source? review.taskId = some source ∧
          source.sourceProjectionRevision = review.sourceProjectionRevision) ∧
        ∀ decision, (commit (resolveWfmSourceTerminalConsequence lengthPython (callWith withdrawal)
          (review.request decision "operator")) afterStart).1 =
            .error (sourceTerminalStale "WFM source-terminal review authority changed") := by
  have reached : Reachable WithoutSources (SourceStep lengthPython) afterStart :=
    afterCompletion_reached.step (.elsewhere afterStart_tables)
  obtain ⟨review, one, on, named, numbered, opened⟩ := completion_opens
  have pending := opened.undecided.pending
  have listed : review ∈ afterStart.sourceTerminalReviews := by
    have same : afterStart.sourceTerminalReviews = afterCompletion.sourceTerminalReviews :=
      congrArg Prod.snd afterStart_tables
    simp [same, one]
  have reviewed := SourceReviewed.of_reachable lengthPython reached
  obtain ⟨source, found, upToDate⟩ := reviewed.current review listed pending
  refine ⟨reached, review, listed, pending, ⟨source, found, upToDate.revision⟩,
    fun decision => ?_⟩
  have measured : (sourceTerminalReviewPayload afterCompletion wfmTask).toOption.map dumpsLength =
      some 721 := by decide +kernel
  obtain ⟨document, read, length⟩ := payload_of_length measured
  have computed : sourceTerminalReviewFingerprint lengthPython afterCompletion wfmTask =
      .ok review.inputFingerprint := on ▸ opened.fingerprint
  have first : review.inputFingerprint = firstDigest := by
    rw [fingerprint_of_length read computed, if_pos length]
  have valid : validateSourceTerminalRequest (review.request decision "operator") = .ok ⟨⟩ := by
    simp only [validateSourceTerminalRequest, WfmSourceTerminalReviewRecord.request, on, named,
      numbered, first]
    decide +kernel
  have changed : otherDigest ≠ review.inputFingerprint := by
    rw [first]
    decide
  exact commit_raises.mpr (resolve_stale lengthPython reviewed listed opened.undecided found
    upToDate valid (on ▸ afterStart_fingerprint) changed)

end Soma.ObjectivesTasks
