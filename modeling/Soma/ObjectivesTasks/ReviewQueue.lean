import Soma.ObjectivesTasks.ObjectiveReview
import Soma.ObjectivesTasks.Progress

/-!
`objective_review_queue` of `queries/reviews.py`. An Objective is queued once it
is due unreviewed, awaits review, or its newest review is not of its current
state. The newest review is picked by its second and then by its random id, and
the total of a page counts only what lies behind the cursor of that page. So the
queue is exact when the reviews of an Objective fall in different seconds and
everything fits on one page.
-/

namespace Soma.ObjectivesTasks

open Execution Foundation Transaction Rows

def AttentionReason.text : AttentionReason → String
  | .lostLastExecutable => "lost_last_executable"
  | .mixedOutcomes => "mixed_outcomes"
  | .planMembershipMismatch => "plan_membership_mismatch"

inductive QueueReason where
  | dueUnreviewed
  | mixedOutcomes
  | lostLastExecutable
  | correctedAfterReview
  deriving DecidableEq

def QueueReason.text : QueueReason → String
  | .dueUnreviewed => "due_unreviewed"
  | .mixedOutcomes => "mixed_outcomes"
  | .lostLastExecutable => "lost_last_executable"
  | .correctedAfterReview => "corrected_after_review"

structure ReadTimeProjection where
  asOfUtc : Nat
  effectiveReviewState : ObjectiveState
  dueUnreviewed : Bool
  reasonCodes : List String

structure ObjectiveQueueItem where
  objectiveId : String
  reasonCode : QueueReason
  aggregateRevision : Nat
  reviewFingerprint : String
  aggregateState : ObjectiveState
  readTimeProjection : ReadTimeProjection

structure ObjectiveQueuePage where
  items : List ObjectiveQueueItem
  continuation : Option String
  exactTotal : Nat

/-- The reason of an Objective that awaits review. -/
def awaitingReason : Option AttentionReason → QueueReason
  | some .mixedOutcomes => .mixedOutcomes
  | some .lostLastExecutable => .lostLastExecutable
  | _ => .dueUnreviewed

def queueReason (stored : ObjectiveAggregateProjection) (dueUnreviewed : Bool)
    (fingerprint : String) (latest : Option ObjectiveReviewEvent) : Option QueueReason :=
  if dueUnreviewed then some .dueUnreviewed
  else if stored.material.executionState = .awaitingReview then
    some (awaitingReason stored.material.attentionReason)
  else if ∃ review ∈ latest, review.reviewFingerprint ≠ fingerprint then
    some .correctedAfterReview
  else none

section Queries

variable (python : PythonLibrary) (rows : TaskRows)

/-- `ORDER BY reviewed_at_utc DESC,objective_review_event_id DESC LIMIT 1`. -/
def latestReview (objectiveId : String) : Option ObjectiveReviewEvent :=
  match rows.objectiveReviews.filter (·.objectiveId = objectiveId) with
  | [] => none
  | first :: others => some (others.foldl laterReview first)

/-- The first half of `_objective_read_time_projection`. -/
def dueUnreviewed (objectiveId : String) (aggregateState : ObjectiveState)
    (envelopeEndUtc asOfUtc : Nat) : Except Raised Bool :=
  if aggregateState = .planned ∧ envelopeEndUtc < asOfUtc then
    match rows.objective? objectiveId with
    | none =>
      .error (integrityFailure "Objective read-time projection lacks identity authority")
    | some objective =>
      if objective.supersededByObjectiveId = none then do
        let members ← loadMembers rows objectiveId
        let fingerprint ← sha256CanonicalJson python (reviewInput objective members)
        let review ← currentReview rows objectiveId fingerprint
        return review.isNone
      else return false
  else return false

def objectiveReadTimeProjection (objectiveId : String) (aggregateState : ObjectiveState)
    (attentionReason : Option AttentionReason) (envelopeEndUtc asOfUtc : Nat) :
    Except Raised ReadTimeProjection := do
  if ← dueUnreviewed python rows objectiveId aggregateState envelopeEndUtc asOfUtc then
    return ⟨asOfUtc, .awaitingReview, true, ["due_unreviewed"]⟩
  else return ⟨asOfUtc, aggregateState, false, (attentionReason.map (·.text)).toList⟩

/-- One round of the loop, up to the filter by reason. -/
def queueItem (asOfUtc : Nat) (objective : Objective) :
    Except Raised (Option ObjectiveQueueItem) := do
  match ← aggregate rows objective.objectiveId with
  | none => .error (integrityFailure "Objective review queue lacks aggregate authority")
  | some stored => do
    let members ← loadMembers rows objective.objectiveId
    let fingerprint ← sha256CanonicalJson python (reviewInput objective members)
    match rows.envelopes.find? (·.objectiveId = objective.objectiveId) with
    | none => .error (integrityFailure "Objective review queue lacks envelope authority")
    | some envelope => do
      let readTime ← objectiveReadTimeProjection python rows objective.objectiveId
        stored.material.executionState stored.material.attentionReason envelope.endUtc asOfUtc
      return (queueReason stored readTime.dueUnreviewed fingerprint
        (latestReview rows objective.objectiveId)).map fun reasonCode => {
          objectiveId := objective.objectiveId
          reasonCode
          aggregateRevision := stored.revision
          reviewFingerprint := fingerprint
          aggregateState := stored.material.executionState
          readTimeProjection := readTime }

/-- `.. WHERE superseded_by_objective_id IS NULL ORDER BY objective_id`. -/
def standingObjectives : List Objective :=
  (rows.objectives.filter (·.supersededByObjectiveId = none)).insertionSort
    (·.objectiveId ≤ ·.objectiveId)

/-- The items before the cursor is applied. -/
def queueItems (asOfUtc : Nat) (reason : Option String) :
    Except Raised (List ObjectiveQueueItem) := do
  let found ← (standingObjectives rows).mapM (queueItem python rows asOfUtc)
  return found.reduceOption.filter fun item => ∀ wanted ∈ reason, item.reasonCode.text = wanted

def objectiveReviewQueue (asOfUtc limit : Nat) (reason after : Option String) :
    Except Raised ObjectiveQueuePage := do
  ensure (1 ≤ limit ∧ limit ≤ 500) (validationError "limit must be an integer from 1 through 500")
  ensure (∀ last ∈ after, isUuid4 last) (validationError "expected canonical lowercase UUIDv4")
  let listed ← queueItems python rows asOfUtc reason
  let items := listed.filter fun item => ∀ last ∈ after, last < item.objectiveId
  let page := items.take limit
  return {
    items := page
    continuation := if limit < items.length then page.getLast?.map (·.objectiveId) else none
    exactTotal := items.length }

/-- The pages read from a cursor on, by following the continuation. -/
inductive QueuePages (asOfUtc limit : Nat) (reason : Option String) :
    Option String → List ObjectiveQueuePage → Prop
  | last {after : Option String} {page : ObjectiveQueuePage}
      (read : objectiveReviewQueue python rows asOfUtc limit reason after = .ok page)
      (ends : page.continuation = none) : QueuePages asOfUtc limit reason after [page]
  | next {after : Option String} {page : ObjectiveQueuePage} {cursor : String}
      {pages : List ObjectiveQueuePage}
      (read : objectiveReviewQueue python rows asOfUtc limit reason after = .ok page)
      (more : page.continuation = some cursor)
      (rest : QueuePages asOfUtc limit reason (some cursor) pages) :
      QueuePages asOfUtc limit reason after (page :: pages)

end Queries

/-! ## What the queue is for -/

/-- Planned, past its end, and never reviewed as it now is. -/
def pastUnreviewed (rows : TaskRows) (asOfUtc : Nat) (objectiveId : String) (state : ObjectiveState)
    (envelopeEndUtc : Nat) (fingerprint : String) : Bool :=
  state = .planned ∧ envelopeEndUtc < asOfUtc ∧ ∀ review ∈ rows.objectiveReviews,
    review.objectiveId = objectiveId → review.reviewFingerprint ≠ fingerprint

/-- The reason of the query, with the last committed review for the newest. -/
def reasonByLast (rows : TaskRows) (asOfUtc : Nat) (objectiveId : String)
    (stored : ObjectiveAggregateProjection) (envelope : ObjectiveEnvelope) (fingerprint : String) :
    Option QueueReason :=
  queueReason stored (pastUnreviewed rows asOfUtc objectiveId stored.material.executionState
      envelope.endUtc fingerprint) fingerprint
    (rows.objectiveReviews.filter (·.objectiveId = objectiveId)).getLast?

/-- For what an Objective is to be reviewed: it is due unreviewed; it awaits review, and its
attention says more; or it is neither, and its last committed review, the last of the rows
whatever its second, is not of its current state. -/
inductive ReviewReason (rows : TaskRows) (asOfUtc : Nat) (objectiveId : String)
    (stored : ObjectiveAggregateProjection) (envelope : ObjectiveEnvelope) (fingerprint : String) :
    QueueReason → Prop
  | due (past : pastUnreviewed rows asOfUtc objectiveId stored.material.executionState
        envelope.endUtc fingerprint = true) :
      ReviewReason rows asOfUtc objectiveId stored envelope fingerprint .dueUnreviewed
  | mixed (awaits : stored.material.executionState = .awaitingReview)
      (attention : stored.material.attentionReason = some .mixedOutcomes) :
      ReviewReason rows asOfUtc objectiveId stored envelope fingerprint .mixedOutcomes
  | lost (awaits : stored.material.executionState = .awaitingReview)
      (attention : stored.material.attentionReason = some .lostLastExecutable) :
      ReviewReason rows asOfUtc objectiveId stored envelope fingerprint .lostLastExecutable
  | awaiting (awaits : stored.material.executionState = .awaitingReview)
      (unmixed : stored.material.attentionReason ≠ some .mixedOutcomes)
      (executable : stored.material.attentionReason ≠ some .lostLastExecutable) :
      ReviewReason rows asOfUtc objectiveId stored envelope fingerprint .dueUnreviewed
  | corrected (notDue : pastUnreviewed rows asOfUtc objectiveId stored.material.executionState
        envelope.endUtc fingerprint = false)
      (settled : stored.material.executionState ≠ .awaitingReview) (review : ObjectiveReviewEvent)
      (last : (rows.objectiveReviews.filter (·.objectiveId = objectiveId)).getLast? = some review)
      (changed : review.reviewFingerprint ≠ fingerprint) :
      ReviewReason rows asOfUtc objectiveId stored envelope fingerprint .correctedAfterReview

/-- What is stored about an Objective that nothing supersedes. -/
structure ObjectiveAuthority (python : PythonLibrary) (rows : TaskRows) (objective : Objective)
    (stored : ObjectiveAggregateProjection) (fingerprint : String) (envelope : ObjectiveEnvelope) :
    Prop where
  listed : objective ∈ rows.objectives
  current : objective.supersededByObjectiveId = none
  aggregated : aggregate rows objective.objectiveId = .ok (some stored)
  digested : ∃ members, loadMembers rows objective.objectiveId = .ok members ∧
    sha256CanonicalJson python (reviewInput objective members) = .ok fingerprint
  enveloped : rows.envelopes.find? (·.objectiveId = objective.objectiveId) = some envelope

/-- Why an Objective is to be reviewed. -/
def ToReview (python : PythonLibrary) (rows : TaskRows) (asOfUtc : Nat) (objectiveId : String)
    (reasonCode : QueueReason) : Prop :=
  ∃ objective stored fingerprint envelope,
    ObjectiveAuthority python rows objective stored fingerprint envelope ∧
    objective.objectiveId = objectiveId ∧
    ReviewReason rows asOfUtc objectiveId stored envelope fingerprint reasonCode

/-- The pages list each Objective to be reviewed once, and no other, and each page says how
many these are. -/
def QueueExact (python : PythonLibrary) (rows : TaskRows) (asOfUtc limit : Nat)
    (reason : Option String) : Prop :=
  ∃ pages, QueuePages python rows asOfUtc limit reason none pages ∧
    ((pages.flatMap (·.items)).map (·.objectiveId)).Nodup ∧
    (∀ objectiveId reasonCode, (∃ item ∈ pages.flatMap (·.items),
        item.objectiveId = objectiveId ∧ item.reasonCode = reasonCode) ↔
      ToReview python rows asOfUtc objectiveId reasonCode ∧
        ∀ wanted ∈ reason, reasonCode.text = wanted) ∧
    ∀ page ∈ pages, page.exactTotal = (pages.flatMap (·.items)).length

/-! ## Runs -/

/-- The reviews of an Objective fall in later and later seconds. -/
structure Chronological (rows : TaskRows) : Prop where
  ordered : rows.objectiveReviews.Pairwise fun first second =>
    first.objectiveId = second.objectiveId → first.reviewedAtUtc < second.reviewedAtUtc
  canonical : ∀ review ∈ rows.objectiveReviews, isUuid4 review.objectiveReviewEventId

/-- A review in a later second than those of its Objective before, a command on a task, or a
change of memberships: no other command writes reviews. -/
inductive ReviewStep (python : PythonLibrary) : TaskRows → TaskRows → Prop
  | review {rows next : TaskRows} {noChange : Bool} (call : ObjectiveReviewCall)
      (ran : (reviewObjective python call).run rows = .ok (noChange, next))
      (later : ∀ review ∈ rows.objectiveReviews, review.objectiveId = call.objectiveId →
        review.reviewedAtUtc < call.now) : ReviewStep python rows next
  | task {rows : TaskRows} (command : TaskCommand) :
      ReviewStep python rows (command.apply python rows)
  | membership {rows next : TaskRows} (kept : next.objectiveReviews = rows.objectiveReviews) :
      ReviewStep python rows next

variable {python : PythonLibrary} {rows next : TaskRows}

theorem Chronological.of_reviews (chronological : Chronological rows)
    (same : next.objectiveReviews = rows.objectiveReviews) : Chronological next :=
  ⟨same ▸ chronological.ordered, same ▸ chronological.canonical⟩

theorem aggregateFree_reviews (reviews : List ObjectiveReviewEvent) :
    AggregateFree fun rows => rows.objectiveReviews = reviews :=
  fun _ _ same => same

theorem framed_reviews (reviews : List ObjectiveReviewEvent) :
    Framed python fun rows => rows.objectiveReviews = reviews where
  execution _ _ _ same := same
  revision _ _ _ same := same
  outcome _ _ _ same := same
  rebuild := keeps_rebuildAggregate python (aggregateFree_reviews reviews)

theorem reviewObjective_ok (ran : (reviewObjective python call).run rows = .ok (noChange, next)) :
    next.objectiveReviews = rows.objectiveReviews ∨ ∃ outcome,
      next.objectiveReviews = rows.objectiveReviews ++ [call.event outcome] := by
  simp only [reviewObjective, steps_ok] at ran
  obtain ⟨-, ⟨outcome, unchanged⟩, -, ran⟩ := ran
  cases unchanged with
  | true =>
    obtain ⟨-, rfl⟩ := pure_ok.mp ran
    exact .inl rfl
  | false =>
    simp only [Bool.false_eq_true, if_false, steps_ok] at ran
    obtain ⟨-, _, _, rebuilt, -, rfl⟩ := ran
    exact .inr ⟨outcome, keeps_rebuildAggregate python (aggregateFree_reviews _) _ rfl rebuilt⟩

theorem Chronological.step (chronological : Chronological rows)
    (stepped : ReviewStep python rows next) : Chronological next := by
  cases stepped with
  | review call ran later =>
    rcases reviewObjective_ok ran with same | ⟨outcome, added⟩
    · exact chronological.of_reviews same
    · refine ⟨?_, ?_⟩
      · rw [added, List.pairwise_append]
        refine ⟨chronological.ordered, List.pairwise_singleton _ _, fun review inside new listed => ?_⟩
        obtain rfl := List.mem_singleton.mp listed
        exact later review inside
      · intro review inside
        rw [added] at inside
        rcases Rows.mem_concat inside with before | listed
        · exact chronological.canonical review before
        · exact listed ▸ call.reviewEventId.canonical
  | task command => exact chronological.of_reviews ((framed_reviews _).command command rfl)
  | membership kept => exact chronological.of_reviews kept

/-! ## One page -/

theorem foldl_laterReview_mem (first : ObjectiveReviewEvent) (others : List ObjectiveReviewEvent) :
    others.foldl laterReview first ∈ first :: others := by
  induction others generalizing first with
  | nil => exact List.mem_cons_self
  | cons second others ih =>
    rw [List.foldl_cons]
    have picked : laterReview first second ∈ [first, second] := by
      unfold laterReview
      split <;> simp
    rcases List.mem_cons.mp (ih (laterReview first second)) with same | inside
    · exact List.mem_append_left others (same ▸ picked)
    · exact List.mem_cons_of_mem _ (List.mem_cons_of_mem _ inside)

theorem Chronological.latestReview (chronological : Chronological rows) (objectiveId : String) :
    latestReview rows objectiveId =
      (rows.objectiveReviews.filter (·.objectiveId = objectiveId)).getLast? := by
  have ordered : (rows.objectiveReviews.filter (·.objectiveId = objectiveId)).Pairwise
      fun first second => first.reviewedAtUtc < second.reviewedAtUtc := by
    refine (chronological.ordered.sublist List.filter_sublist).imp_of_mem ?_
    intro first second firstIn secondIn before
    have own := of_decide_eq_true (List.mem_filter.mp firstIn).2
    exact before (own.trans (of_decide_eq_true (List.mem_filter.mp secondIn).2).symm)
  unfold ObjectivesTasks.latestReview
  revert ordered
  generalize rows.objectiveReviews.filter (·.objectiveId = objectiveId) = reviews
  intro ordered
  cases reviews with
  | nil => rfl
  | cons first others =>
    show some _ = _
    induction others generalizing first with
    | nil => rfl
    | cons second others ih =>
      obtain ⟨before, rest⟩ := List.pairwise_cons.mp ordered
      have later := before second List.mem_cons_self
      have picked : laterReview first second = second := if_neg (by omega)
      rw [List.foldl_cons, picked, ih second rest, List.getLast?_cons_cons]

/-- What the queue reads about each Objective nothing supersedes is there. -/
structure QueueReadable (rows : TaskRows) : Prop where
  keys : (rows.objectives.map (·.objectiveId)).Nodup
  reads : ∀ objective ∈ rows.objectives, objective.supersededByObjectiveId = none →
    (aggregate rows objective.objectiveId).toOption.join.isSome ∧
      (loadMembers rows objective.objectiveId).toOption.isSome ∧
      (rows.envelopes.find? (·.objectiveId = objective.objectiveId)).isSome

theorem reasonByLast_iff :
    reasonByLast rows asOfUtc objectiveId stored envelope fingerprint = some reasonCode ↔
      ReviewReason rows asOfUtc objectiveId stored envelope fingerprint reasonCode := by
  unfold reasonByLast queueReason
  constructor
  · intro given
    split at given
    · rename_i past
      obtain rfl := Option.some.inj given
      exact .due past
    · rename_i notDue
      split at given
      · rename_i awaits
        obtain rfl := Option.some.inj given
        unfold awaitingReason
        split
        · exact .mixed awaits ‹_›
        · exact .lost awaits ‹_›
        · rename_i unmixed executable
          exact .awaiting awaits unmixed executable
      · rename_i settled
        split at given
        · rename_i stale
          obtain ⟨review, last, changed⟩ := stale
          obtain rfl := Option.some.inj given
          exact .corrected (by simpa using notDue) settled review last changed
        · cases given
  · intro reason
    cases reason with
    | due past => rw [if_pos past]
    | mixed awaits attention => simp [pastUnreviewed, awaits, attention, awaitingReason]
    | lost awaits attention => simp [pastUnreviewed, awaits, attention, awaitingReason]
    | awaiting awaits unmixed executable =>
      have plain : awaitingReason stored.material.attentionReason = .dueUnreviewed := by
        unfold awaitingReason
        split
        · exact absurd ‹_› unmixed
        · exact absurd ‹_› executable
        · rfl
      simp [pastUnreviewed, awaits, plain]
    | corrected notDue settled review last changed =>
      rw [notDue, if_neg Bool.false_ne_true, if_neg settled, if_pos ⟨review, last, changed⟩]

section Items

variable {asOfUtc : Nat} {objective : Objective} {stored : ObjectiveAggregateProjection}
  {fingerprint : String} {envelope : ObjectiveEnvelope}

theorem dueUnreviewed_ok (chronological : Chronological rows)
    (keys : (rows.objectives.map (·.objectiveId)).Nodup)
    (authority : ObjectiveAuthority python rows objective stored fingerprint envelope)
    (state : ObjectiveState) (envelopeEndUtc : Nat) :
    dueUnreviewed python rows objective.objectiveId state envelopeEndUtc asOfUtc =
      .ok (pastUnreviewed rows asOfUtc objective.objectiveId state envelopeEndUtc fingerprint) := by
  have own : rows.objective? objective.objectiveId = some objective :=
    find?_eq_some keys authority.listed
  obtain ⟨members, loaded, digested⟩ := authority.digested
  unfold dueUnreviewed pastUnreviewed
  by_cases past : state = .planned ∧ envelopeEndUtc < asOfUtc
  · simp only [if_pos past, own, if_pos authority.current, except_ok]
    refine ⟨members, loaded, fingerprint, digested, ?_⟩
    unfold currentReview
    cases matching : rows.objectiveReviews.filter fun review =>
        review.objectiveId = objective.objectiveId ∧ review.reviewFingerprint = fingerprint with
    | nil =>
      have none := List.filter_eq_nil_iff.mp matching
      refine ⟨_, rfl, (decide_eq_true ⟨past.1, past.2, fun review inside named same => ?_⟩).symm⟩
      exact none review inside (decide_eq_true ⟨named, same⟩)
    | cons first others =>
      have found := foldl_laterReview_mem first others
      rw [← matching] at found
      obtain ⟨inside, agrees⟩ := List.mem_filter.mp found
      obtain ⟨named, same⟩ := of_decide_eq_true agrees
      refine ⟨_, except_bind_ok.mpr ⟨⟨⟩, ensure_ok.mpr (chronological.canonical _ inside), rfl⟩, ?_⟩
      exact (decide_eq_false fun due => due.2.2 _ inside named same).symm
  · rw [if_neg past, decide_eq_false fun due => past ⟨due.1, due.2.1⟩]
    rfl

theorem queueItem_ok (chronological : Chronological rows)
    (keys : (rows.objectives.map (·.objectiveId)).Nodup) (asOfUtc : Nat)
    (authority : ObjectiveAuthority python rows objective stored fingerprint envelope) :
    ∃ readTime, queueItem python rows asOfUtc objective =
      .ok ((reasonByLast rows asOfUtc objective.objectiveId stored envelope fingerprint).map
        fun reasonCode => ⟨objective.objectiveId, reasonCode, stored.revision, fingerprint,
          stored.material.executionState, readTime⟩) := by
  obtain ⟨_, loaded, digested⟩ := authority.digested
  obtain ⟨readTime, projected, isDue⟩ : ∃ readTime, objectiveReadTimeProjection python rows
      objective.objectiveId stored.material.executionState stored.material.attentionReason
      envelope.endUtc asOfUtc = .ok readTime ∧ readTime.dueUnreviewed = pastUnreviewed rows asOfUtc
        objective.objectiveId stored.material.executionState envelope.endUtc fingerprint := by
    rw [objectiveReadTimeProjection, dueUnreviewed_ok chronological keys authority]
    cases pastUnreviewed rows asOfUtc objective.objectiveId stored.material.executionState
      envelope.endUtc fingerprint <;> exact ⟨_, rfl, rfl⟩
  refine ⟨readTime, ?_⟩
  simp only [queueItem, authority.aggregated, loaded, digested, authority.enveloped, projected,
    isDue, chronological.latestReview, bind, Except.bind, reasonByLast]
  rfl

variable (python) in
theorem QueueReadable.authority (readable : QueueReadable rows)
    (standing : objective ∈ standingObjectives rows) : ∃ stored fingerprint envelope,
      ObjectiveAuthority python rows objective stored fingerprint envelope := by
  rw [standingObjectives, List.mem_insertionSort, List.mem_filter, decide_eq_true_iff] at standing
  obtain ⟨listed, current⟩ := standing
  obtain ⟨aggregated, loaded, enveloped⟩ := readable.reads objective listed current
  obtain ⟨envelope, enveloped⟩ := Option.isSome_iff_exists.mp enveloped
  cases found : aggregate rows objective.objectiveId with
  | error raised => simp [found, Except.toOption] at aggregated
  | ok held =>
    obtain ⟨stored, rfl⟩ : ∃ stored, held = some stored := by
      simpa [found, Except.toOption, Option.isSome_iff_exists] using aggregated
    cases joined : loadMembers rows objective.objectiveId with
    | error raised => simp [joined, Except.toOption] at loaded
    | ok members =>
      obtain ⟨_, digested⟩ := sha256CanonicalJson_encodes python
        (reviewInput_encodes objective members)
      exact ⟨stored, _, envelope, listed, current, found, ⟨members, joined, digested⟩, enveloped⟩

end Items

variable (python) in
theorem queueItems_exact (chronological : Chronological rows) (readable : QueueReadable rows)
    (asOfUtc : Nat) (reason : Option String) :
    ∃ items, queueItems python rows asOfUtc reason = .ok items ∧
      (items.map (·.objectiveId)).Nodup ∧
      ∀ objectiveId reasonCode,
        (∃ item ∈ items, item.objectiveId = objectiveId ∧ item.reasonCode = reasonCode) ↔
          ToReview python rows asOfUtc objectiveId reasonCode ∧
            ∀ wanted ∈ reason, reasonCode.text = wanted := by
  have item {objective stored fingerprint envelope}
      (authority : ObjectiveAuthority python rows objective stored fingerprint envelope) :=
    queueItem_ok chronological readable.keys asOfUtc authority
  obtain ⟨_, visited⟩ := mapM_succeeds fun objective standing =>
    let ⟨_, _, _, authority⟩ := readable.authority python standing
    let ⟨_, made⟩ := item authority
    ⟨_, made⟩
  refine ⟨_, by rw [queueItems, visited]; rfl, ?_, fun objectiveId reasonCode => ?_⟩
  · have ids : ((standingObjectives rows).map (·.objectiveId)).Nodup := by
      rw [standingObjectives, ((List.perm_insertionSort _ _).map _).nodup_iff]
      exact readable.keys.sublist (List.filter_sublist.map _)
    refine ids.sublist ((List.filter_sublist.map _).trans
      (sublist_reduceOption (mapM_ok.mp visited) fun objective standing item' ran => ?_))
    obtain ⟨_, _, _, authority⟩ := readable.authority python standing
    obtain ⟨_, made⟩ := item authority
    obtain ⟨_, -, rfl⟩ := Option.map_eq_some_iff.mp (Except.ok.inj (made.symm.trans ran))
    rfl
  · simp only [List.mem_filter, List.reduceOption_mem_iff, decide_eq_true_iff]
    constructor
    · rintro ⟨listed, ⟨inside, wanted⟩, rfl, rfl⟩
      obtain ⟨objective, standing, ran⟩ := mem_of_image visited inside
      obtain ⟨stored, fingerprint, envelope, authority⟩ := readable.authority python standing
      obtain ⟨_, made⟩ := item authority
      obtain ⟨reasonCode, due, rfl⟩ :=
        Option.map_eq_some_iff.mp (Except.ok.inj (made.symm.trans ran))
      exact ⟨⟨objective, stored, fingerprint, envelope, authority, rfl,
        reasonByLast_iff.mp due⟩, wanted⟩
    · rintro ⟨⟨objective, stored, fingerprint, envelope, authority, rfl, due⟩, wanted⟩
      obtain ⟨_, made⟩ := item authority
      have standing : objective ∈ standingObjectives rows := (List.mem_insertionSort _).mpr
        (List.mem_filter.mpr ⟨authority.listed, decide_eq_true authority.current⟩)
      obtain ⟨_, inside, ran⟩ := image_of_mem visited standing
      obtain rfl := Except.ok.inj (ran.symm.trans made)
      rw [reasonByLast_iff.mpr due] at inside
      exact ⟨_, ⟨inside, wanted⟩, rfl, rfl⟩

theorem objectiveReviewQueue_ok (valid : 1 ≤ limit ∧ limit ≤ 500)
    (read : queueItems python rows asOfUtc reason = .ok items) :
    objectiveReviewQueue python rows asOfUtc limit reason none = .ok {
      items := items.take limit
      continuation :=
        if limit < items.length then (items.take limit).getLast?.map (·.objectiveId) else none
      exactTotal := items.length } := by
  have all : (items.filter fun item => ∀ last ∈ (none : Option String), last < item.objectiveId) =
      items := List.filter_eq_self.mpr fun _ _ => by simp
  simp only [objectiveReviewQueue, except_ok]
  exact ⟨valid, by simp, items, read, by rw [all]⟩

/-- A second page counts less than the first. -/
theorem QueueExact.fits (valid : 1 ≤ limit ∧ limit ≤ 500)
    (read : queueItems python rows asOfUtc reason = .ok items)
    (exact : QueueExact python rows asOfUtc limit reason) : items.length ≤ limit := by
  by_contra exceeds
  obtain ⟨pages, followed, -, -, totals⟩ := exact
  have first := objectiveReviewQueue_ok valid read
  rw [if_pos (not_le.mp exceeds)] at first
  cases followed with
  | last readFirst ends =>
    obtain rfl := Except.ok.inj (first.symm.trans readFirst)
    rw [Option.map_eq_none_iff, List.getLast?_eq_none_iff, List.take_eq_nil_iff] at ends
    rcases ends with none | rfl
    · omega
    · exact exceeds (Nat.zero_le _)
  | @next _ _ cursor pages readFirst more rest =>
    obtain rfl := Except.ok.inj (first.symm.trans readFirst)
    obtain ⟨last, final, rfl⟩ := Option.map_eq_some_iff.mp more
    have total := totals _ List.mem_cons_self
    obtain ⟨second, listed, readSecond⟩ : ∃ page ∈ pages,
        objectiveReviewQueue python rows asOfUtc limit reason (some last.objectiveId) = .ok page := by
      cases rest with
      | last read => exact ⟨_, List.mem_cons_self, read⟩
      | next read => exact ⟨_, List.mem_cons_self, read⟩
    simp only [objectiveReviewQueue, except_ok, read] at readSecond
    obtain ⟨-, -, _, rfl, rfl⟩ := readSecond
    have fewer := totals _ (List.mem_cons_of_mem _ listed)
    rw [← total] at fewer
    have kept := of_decide_eq_true (List.length_filter_eq_length_iff.mp fewer last
      (List.mem_of_mem_take (List.mem_of_getLast? final)))
    exact String.lt_irrefl _ (kept _ rfl)

/-- After reviews in later and later seconds, the queue is exact when no more Objectives are to
be reviewed than fit on one page, and only then. -/
theorem objective_review_queue_exact (python : PythonLibrary) (rows : TaskRows)
    (reached : Reachable (fun rows => rows.objectiveReviews = []) (ReviewStep python) rows)
    (readable : QueueReadable rows) (asOfUtc limit : Nat) (reason : Option String)
    (valid : 1 ≤ limit ∧ limit ≤ 500) :
    QueueExact python rows asOfUtc limit reason ↔
      ∀ objectiveIds : List String, objectiveIds.Nodup →
        (∀ objectiveId ∈ objectiveIds, ∃ reasonCode,
          ToReview python rows asOfUtc objectiveId reasonCode ∧
            ∀ wanted ∈ reason, reasonCode.text = wanted) →
        objectiveIds.length ≤ limit := by
  have chronological : Chronological rows := by
    apply reached.invariant Chronological
    · intro rows none
      exact ⟨none ▸ List.Pairwise.nil, fun review inside => by simp [none] at inside⟩
    · exact fun _ _ chronological stepped => chronological.step stepped
  obtain ⟨items, read, distinct, listed⟩ :=
    queueItems_exact python chronological readable asOfUtc reason
  constructor
  · intro exact objectiveIds once due
    have within : objectiveIds ⊆ items.map (·.objectiveId) := by
      intro objectiveId inside
      obtain ⟨reasonCode, reviewable⟩ := due objectiveId inside
      obtain ⟨item, itemIn, same, -⟩ := (listed objectiveId reasonCode).mpr reviewable
      exact List.mem_map.mpr ⟨item, itemIn, same⟩
    have fewer := (List.subperm_of_subset once within).length_le
    rw [List.length_map] at fewer
    exact fewer.trans (exact.fits valid read)
  · intro fits
    have few : items.length ≤ limit := by
      rw [← List.length_map (·.objectiveId)]
      refine fits _ distinct fun objectiveId inside => ?_
      obtain ⟨item, itemIn, rfl⟩ := List.mem_map.mp inside
      exact ⟨_, (listed _ item.reasonCode).mp ⟨item, itemIn, rfl, rfl⟩⟩
    have first := objectiveReviewQueue_ok valid read
    rw [if_neg (not_lt.mpr few), List.take_of_length_le few] at first
    refine ⟨_, .last first rfl, ?_⟩
    simp only [List.flatMap_cons, List.flatMap_nil, List.append_nil, List.mem_singleton,
      forall_eq]
    exact ⟨distinct, listed, trivial⟩

def queueId (digits : String) : String :=
  "00000000-0000-4000-8000-0000000000" ++ digits

/-- Two Objectives of one task each, planned for times that touch and are over. -/
def twoDue : TaskRows where
  __ := oneTask
  tasks := ["1", "2"].map fun digit => ⟨queueId ("a" ++ digit), .localTask, 1⟩
  planRevisions := [⟨queueId "b1", queueId "a1", 0, 10⟩, ⟨queueId "b2", queueId "a2", 10, 20⟩]
  planCurrent := ["1", "2"].map fun digit => ⟨queueId ("a" ++ digit), queueId ("b" ++ digit), 1⟩
  objectives := ["1", "2"].map fun digit => ⟨queueId ("c" ++ digit), 1, .manual, none⟩
  envelopes := [⟨queueId "c1", 0, 10, 1, 1⟩, ⟨queueId "c2", 10, 20, 1, 1⟩]
  membershipEvents := ["1", "2"].map fun digit => ⟨queueId ("d" ++ digit), queueId ("a" ++ digit),
    some (queueId ("c" ++ digit)), some (queueId ("b" ++ digit))⟩
  memberships := ["1", "2"].map fun digit => ⟨queueId ("a" ++ digit), queueId ("c" ++ digit),
    queueId ("b" ++ digit), 1, queueId ("d" ++ digit)⟩
  aggregates := ["1", "2"].map fun digit => ⟨queueId ("c" ++ digit),
    ⟨.planned, none, none, none, none, 1, 0⟩, constantPython.sha256Hex "", 1⟩

theorem twoDue_readable : QueueReadable twoDue := by
  constructor <;> decide +kernel

theorem objective_review_queue_two_pages :
    Reachable (fun rows => rows.objectiveReviews = []) (ReviewStep constantPython) twoDue ∧
      ¬ QueueExact constantPython twoDue 100 1 none := by
  refine ⟨.start rfl, fun exact => ?_⟩
  have two : ((queueItems constantPython twoDue 100 none).toOption.map (·.length)) = some 2 := by
    decide +kernel
  cases read : queueItems constantPython twoDue 100 none with
  | error raised => simp [read, Except.toOption] at two
  | ok items =>
    have few := exact.fits (by decide) read
    simp only [read, Except.toOption, Option.map_some, Option.some.injEq] at two
    omega

theorem objective_review_queue_one_page : QueueExact constantPython twoDue 100 2 none :=
  (objective_review_queue_exact constantPython twoDue (.start rfl) twoDue_readable 100 2 none
    (by decide)).mpr fun objectiveIds once due => by
      have within : objectiveIds ⊆ twoDue.objectives.map (·.objectiveId) := by
        intro objectiveId inside
        obtain ⟨_, ⟨objective, _, _, _, authority, rfl, -⟩, -⟩ := due objectiveId inside
        exact List.mem_map_of_mem authority.listed
      exact (List.subperm_of_subset once within).length_le

end Soma.ObjectivesTasks
