import Soma.Inventory.RequestLifecycle

/-!
The lifecycle law of Spare Requests over runs: what each command does to the
records and the projection of its request, and that every orderly command keeps
the two in agreement.
-/

namespace Soma.Inventory

open Foundation Transaction Execution Rows

/-! ## What the commands read -/

variable {tables next : RequestTables} {rows : AuthorizationRows} {spareRequestId : String}
  {detail : RequestDetail} {projection : RequestProjection}

theorem projection?_ok (found : tables.projection? spareRequestId = some projection) :
    projection ∈ tables.projections ∧ projection.spareRequestId = spareRequestId :=
  key_of_find? found

theorem currentDetail_ok (found : tables.currentDetail spareRequestId = some detail) :
    detail.projection ∈ tables.projections ∧
      detail.projection.spareRequestId = spareRequestId := by
  simp only [RequestTables.currentDetail, Option.bind_eq_bind, Option.bind_eq_some_iff] at found
  obtain ⟨_, _, projection, read, _, _, same⟩ := found
  cases same
  exact projection?_ok read

theorem requireDetail_ok (ran : tables.requireDetail spareRequestId = .ok detail) :
    detail.projection ∈ tables.projections ∧
      detail.projection.spareRequestId = spareRequestId := by
  rw [RequestTables.requireDetail] at ran
  split at ran
  · cases ran
    exact currentDetail_ok ‹_›
  · cases ran

variable {baseRevision : Nat}

theorem requireDetailAt_ok (ran : tables.requireDetailAt spareRequestId baseRevision = .ok detail) :
    detail.projection ∈ tables.projections ∧
      detail.projection.spareRequestId = spareRequestId := by
  rw [RequestTables.requireDetailAt] at ran
  split at ran
  · simp only [except_ok] at ran
    obtain ⟨_, returned⟩ := ran
    cases returned
    exact currentDetail_ok ‹_›
  · cases ran

variable {current : SubmissionSnapshot}

theorem requireEffectiveSubmission_ok
    (ran : tables.requireEffectiveSubmission spareRequestId submissionEventId = .ok current) :
    tables.currentEffectiveSubmission spareRequestId = some current ∧
      current.submissionEventId = submissionEventId := by
  rw [RequestTables.requireEffectiveSubmission] at ran
  split at ran
  · simp only [except_ok] at ran
    obtain ⟨same, returned⟩ := ran
    cases returned
    exact ⟨‹_›, same⟩
  · cases ran

theorem mem_of_effective
    (effective : tables.currentEffectiveSubmission spareRequestId = some current) :
    current ∈ tables.standingSubmissions spareRequestId :=
  (List.perm_insertionSort _ _).subset (List.mem_of_head? effective)

theorem updateProjection_ok {guard : RequestProjection → Prop} [DecidablePred guard]
    {change : RequestProjection → RequestProjection} (keyed : tables.requestIds.Nodup)
    (inside : projection ∈ tables.projections)
    (ran : updateOne (fun row => row.spareRequestId = projection.spareRequestId ∧ guard row) change
      missed tables.projections = .ok written) :
    Replaced tables.projections written projection (change projection) := by
  obtain ⟨_, hit, replaced⟩ := updateOne_ok ran
  have own := (of_decide_eq_true hit).1
  obtain rfl := List.inj_on_of_nodup_map keyed replaced.mem_old inside own
  exact replaced

/-! ## References -/

/-- Tables that only grow by rows whose references are there. -/
theorem References.extend {after : AuthorizationRows} (references : References rows)
    (ids : rows.requests.requestIds ⊆ after.requests.requestIds)
    (logged : rows.requests.eventIds ⊆ after.requests.eventIds)
    (taken : rows.requests.snapshots.map (·.submissionSnapshotId) ⊆
      after.requests.snapshots.map (·.submissionSnapshotId))
    (events : ∀ event ∈ after.requests.events, event ∈ rows.requests.events ∨
      event.spareRequestId ∈ after.requests.requestIds ∧
        ∀ target ∈ event.targetEventId, target ∈ after.requests.eventIds)
    (snapshots : ∀ row ∈ after.requests.snapshots, row ∈ rows.requests.snapshots ∨
      row.spareRequestId ∈ after.requests.requestIds ∧
        row.submissionEventId ∈ after.requests.eventIds)
    (allocations : ∀ row ∈ after.requests.submissionAllocations,
      row ∈ rows.requests.submissionAllocations ∨
        row.submissionSnapshotId ∈ after.requests.snapshots.map (·.submissionSnapshotId))
    (aliases : ∀ row ∈ after.requests.sr7Aliases,
      row.spareRequestId ∈ rows.requests.sr7Aliases.map (·.spareRequestId) ∨
        row.spareRequestId ∈ after.requests.requestIds)
    (rmas : ∀ row ∈ after.rmas.rmas, row ∈ rows.rmas.rmas ∨
      row.spareRequestId ∈ after.requests.requestIds) : References after where
  events event inside := by
    rcases events event inside with before | ⟨known, _⟩
    · exact ids (references.events event before)
    · exact known
  targets event inside target aimed := by
    rcases events event inside with before | ⟨_, known⟩
    · exact logged (references.targets event before target aimed)
    · exact known target aimed
  snapshots row inside := by
    rcases snapshots row inside with before | known
    · exact ⟨ids (references.snapshots row before).1, logged (references.snapshots row before).2⟩
    · exact known
  allocations row inside := by
    rcases allocations row inside with before | known
    · exact taken (references.allocations row before)
    · exact known
  aliases row inside := by
    rcases aliases row inside with before | known
    · obtain ⟨held, heldIn, same⟩ := List.mem_map.mp before
      exact ids (same ▸ references.aliases held heldIn)
    · exact known
  rmas row inside := by
    rcases rmas row inside with before | known
    · exact ids (references.rmas row before)
    · exact known

/-- What a command leaves: rows that still agree, under a longer log. -/
structure LifecycleStep (rows after : AuthorizationRows) : Prop where
  sound : LifecycleSound after
  log : rows.requests.events <+: after.requests.events

theorem LifecycleSound.unchanged (sound : LifecycleSound rows) : LifecycleStep rows rows :=
  ⟨sound, List.prefix_rfl⟩

theorem LifecycleStep.trans (first : LifecycleStep rows after) (second : LifecycleStep after last) :
    LifecycleStep rows last :=
  ⟨second.sound, first.log.trans second.log⟩

theorem subset_concat {Row Key : Type} {key : Row → Key} {held : List Row} {added : Row} :
    held.map key ⊆ (held ++ [added]).map key := by
  simp

/-! ## Drafts -/

variable {after : AuthorizationRows}

variable {event : RequestEvent}

/-- An event is logged and the other records of the requests stay. -/
structure Logged (rows after : AuthorizationRows) (event : RequestEvent) : Prop where
  events : after.requests.events = rows.requests.events ++ [event]
  snapshots : after.requests.snapshots = rows.requests.snapshots
  allocations : after.requests.submissionAllocations = rows.requests.submissionAllocations
  aliases : after.requests.sr7Aliases = rows.requests.sr7Aliases

theorem viewOf_logged (logged : Logged rows after event)
    (rmas : rmaCount after.rmas.rmas spareRequestId = rmaCount rows.rmas.rmas spareRequestId)
    (harmless : spareRequestId ≠ event.spareRequestId ∨
      event.eventKind.terminal? = none ∧ event.eventKind ≠ .submissionCorrectedFalse) :
    after.viewOf spareRequestId = rows.viewOf spareRequestId := by
  obtain ⟨events, snapshots, allocations, aliases⟩ := logged
  have decides : event.decides spareRequestId = none := by
    rcases harmless with other | ⟨endsNothing, _⟩
    · exact decides_other other
    · rw [RequestEvent.decides, endsNothing, ite_self]
  refine viewOf_congr ?_ (standing_append events snapshots (harmless.imp_right (·.2)))
    (fun snapshot _ => congrFun (submissionQuantity_congr allocations) snapshot)
    (currentSr7_congr aliases spareRequestId) rmas
  rw [terminalOf_append events, decides, Option.or_none]

theorem terminalOf_silent (logged : Logged rows after event)
    (silent : event.eventKind.terminal? = none) (requestId : String) :
    after.requests.terminalOf requestId = rows.requests.terminalOf requestId := by
  rw [terminalOf_append logged.events, RequestEvent.decides, silent, ite_self, Option.or_none]

theorem viewOf_ended (requestId : String)
    (logged : Logged rows after event) (rmas : after.rmas = rows.rmas)
    (own : event.spareRequestId = requestId) (kind : event.eventKind ≠ .submissionCorrectedFalse) :
    after.viewOf requestId = { rows.viewOf requestId with
      terminal := (rows.viewOf requestId).terminal.or event.eventKind.terminal? } := by
  obtain ⟨events, snapshots, allocations, aliases⟩ := logged
  have decides : event.decides requestId = event.eventKind.terminal? := if_pos own
  simp only [AuthorizationRows.viewOf, terminalOf_append events, decides,
    standing_append events snapshots (.inr kind), submissionQuantity_congr allocations,
    currentSr7_congr aliases, rmas]

/-- A new draft has no records but its `created` event. -/
theorem LifecycleSound.opened (sound : LifecycleSound rows)
    (logged : Logged rows after event)
    (projections : after.requests.projections = rows.requests.projections ++ [projection])
    (rmas : after.rmas = rows.rmas)
    (fresh : projection.spareRequestId ∉ rows.requests.requestIds)
    (own : event.spareRequestId = projection.spareRequestId) (created : event.eventKind = .created)
    (aimless : event.targetEventId = none) (blank : Projects ⟨none, [], none, 0⟩ projection) :
    LifecycleStep rows after := by
  have ⟨events, snapshots, allocations, aliases⟩ := logged
  have ids : after.requests.requestIds = rows.requests.requestIds ++ [projection.spareRequestId] := by
    rw [RequestTables.requestIds, projections, List.map_append]
    rfl
  have eventIds : after.requests.eventIds = rows.requests.eventIds ++ [event.requestEventId] := by
    rw [RequestTables.eventIds, events, List.map_append]
    rfl
  have views (spareRequestId : String) : after.viewOf spareRequestId = rows.viewOf spareRequestId :=
    viewOf_logged logged (by rw [rmas])
      (.inr (by rw [created]; exact ⟨rfl, by simp⟩))
  refine ⟨⟨?_, ?_, ?_⟩, events ▸ List.prefix_append _ _⟩
  · rw [RequestTables.requestIds, projections]
    exact nodup_concat sound.keyed fresh
  · refine sound.references.extend (ids ▸ List.subset_append_left _ _)
      (eventIds ▸ List.subset_append_left _ _) (snapshots ▸ List.Subset.refl _) ?_
      (fun row inside => .inl (snapshots ▸ inside)) (fun row inside => .inl (allocations ▸ inside))
      (fun row inside => .inl (List.mem_map_of_mem (aliases ▸ inside)))
      (fun row inside => .inl (rmas ▸ inside))
    intro other inside
    rw [events] at inside
    rcases Rows.mem_concat inside with before | rfl
    · exact .inl before
    · refine .inr ⟨?_, fun target aimed => ?_⟩
      · rw [ids, own]
        simp
      · rw [aimless] at aimed
        cases aimed
  · intro other inside
    rw [projections] at inside
    rw [views]
    rcases Rows.mem_concat inside with before | rfl
    · exact sound.projected other before
    · rw [viewOf_unknown sound.references fresh]
      exact blank

variable {call : RequestCall}

theorem insertDraft_step (sound : LifecycleSound rows)
    (ran : insertDraft call { rows.requests with allocator } intent trackingSequence trackingId
      context = .ok next) : LifecycleStep rows { rows with requests := next } := by
  simp only [insertDraft, except_ok, insertKeyed_ok] at ran
  obtain ⟨requests, _, _, _, _, _, _, ⟨_, logged⟩, _, _,
    _, ⟨fresh, added⟩, returned⟩ := ran
  cases returned
  exact sound.opened ⟨logged, rfl, rfl, rfl⟩ added rfl fresh rfl rfl rfl ⟨rfl, rfl, rfl, rfl, rfl⟩

/-- A revised draft keeps every record and what its projection says of them. -/
theorem replaceDraft_step (sound : LifecycleSound rows)
    (ran : replaceDraft call rows.requests spareRequestId baseRevision intents mode
      receiverContactId dispatchLocationId = .ok next) :
    LifecycleStep rows { rows with requests := next } := by
  simp only [replaceDraft, except_ok] at ran
  obtain ⟨_, read, _, _, _, allocations, _, logistics, _, _, _, projections, updated,
    returned⟩ := ran
  cases returned
  obtain ⟨inside, rfl⟩ := requireDetailAt_ok read
  have replaced := updateProjection_ok sound.keyed inside updated
  have views (spareRequestId : String) :
      AuthorizationRows.viewOf
          { rows with requests := { rows.requests with allocations, logistics, projections } }
          spareRequestId = rows.viewOf spareRequestId := rfl
  have before := sound.projected _ inside
  refine ⟨sound.replace replaced rfl ?_ (fun other _ => views other) ?_, List.prefix_rfl⟩
  · refine sound.references.extend ?_ (List.Subset.refl _) (List.Subset.refl _)
      (fun row inside => .inl inside) (fun row inside => .inl inside) (fun row inside => .inl inside)
      (fun row inside => .inl (List.mem_map_of_mem inside)) (fun row inside => .inl inside)
    rw [RequestTables.requestIds, RequestTables.requestIds, replaced.map_eq rfl]
    exact List.Subset.refl _
  · exact ⟨before.state, before.sr7, before.standing, before.quantity, before.count⟩

/-! ## What a fact does to the state -/

theorem TerminalAction.state_isTerminal (action : TerminalAction) :
    action.state.isTerminal = true := by
  cases action <;> rfl

theorem RequestFacts.state_isTerminal {facts : RequestFacts} :
    facts.state.isTerminal = facts.terminal.isSome := by
  rw [RequestFacts.state]
  cases found : facts.terminal with
  | some action => exact action.state_isTerminal
  | none =>
    simp only []
    split_ifs <;> rfl

section Facts

variable {view : RequestView} {old new : RequestProjection}

section

variable (projects : Projects view old)

include projects

theorem Projects.unended
    (running : old.lifecycleState.isTerminal = false) : view.terminal = none := by
  rw [projects.state, RequestFacts.state_isTerminal] at running
  simpa [RequestView.facts] using running

theorem Projects.submitted : view.facts.submittedQuantity.getD 0 = old.submittedQuantity := by
  rw [projects.quantity]
  rcases RequestView.facts_of_single projects with none | ⟨only, one⟩
  · simp [RequestView.facts, none]
  · simp [RequestView.facts, one]

theorem Projects.accepted {snapshot : SubmissionSnapshot}
    {submitted : Nat} (drafted : old.lifecycleState = .draft)
    (state : new.lifecycleState =
      if old.currentSr7 = none then .submittedAwaitingResponse else .acknowledged)
    (sr7 : new.currentSr7 = old.currentSr7)
    (named : new.currentSubmissionSnapshotId = some snapshot.submissionSnapshotId)
    (quantity : new.submittedQuantity = submitted)
    (count : new.authorizedRmaCount = old.authorizedRmaCount) :
    Projects { view with standing := [(snapshot, submitted)] } new where
  state := by
    have unended := projects.unended (by rw [drafted]; rfl)
    have unauthorized : view.rmaCount = 0 := by
      have derived := projects.state
      rw [drafted, RequestFacts.state] at derived
      simp only [RequestView.facts, unended] at derived
      split_ifs at derived
      all_goals omega
    rw [state, projects.sr7]
    simp [RequestFacts.state, RequestView.facts, unended, unauthorized]
  sr7 := sr7.trans projects.sr7
  standing := by simp [named]
  quantity := by simp [quantity]
  count := count.trans projects.count

variable (running : old.lifecycleState.isTerminal = false)

include running

theorem Projects.ended {action : TerminalAction}
    (state : new.lifecycleState = action.state)
    (sr7 : new.currentSr7 = old.currentSr7)
    (snapshot : new.currentSubmissionSnapshotId = old.currentSubmissionSnapshotId)
    (quantity : new.submittedQuantity = old.submittedQuantity)
    (count : new.authorizedRmaCount = old.authorizedRmaCount) :
    Projects { view with terminal := view.terminal.or (some action) } new where
  state := by
    rw [state, projects.unended running]
    rfl
  sr7 := sr7.trans projects.sr7
  standing := by rw [snapshot]; exact projects.standing
  quantity := quantity.trans projects.quantity
  count := count.trans projects.count

theorem Projects.withdrawn (unauthorized : view.rmaCount = 0)
    (state : new.lifecycleState = .draft) (sr7 : new.currentSr7 = old.currentSr7)
    (unnamed : new.currentSubmissionSnapshotId = none) (quantity : new.submittedQuantity = 0)
    (count : new.authorizedRmaCount = old.authorizedRmaCount) :
    Projects { view with standing := [] } new where
  state := by
    rw [state]
    simp [RequestFacts.state, RequestView.facts, projects.unended running, unauthorized]
  sr7 := sr7.trans projects.sr7
  standing := by simp [unnamed]
  quantity := by simp [quantity]
  count := count.trans projects.count

theorem Projects.identified
    (answered : old.currentSr7 = none → old.lifecycleState ≠ .submittedAwaitingResponse)
    (state : new.lifecycleState = old.lifecycleState) (sr7 : new.currentSr7 = some official)
    (snapshot : new.currentSubmissionSnapshotId = old.currentSubmissionSnapshotId)
    (quantity : new.submittedQuantity = old.submittedQuantity)
    (count : new.authorizedRmaCount = old.authorizedRmaCount) :
    Projects { view with sr7 := some official } new where
  state := by
    have unended := projects.unended running
    have derived := projects.state
    rw [projects.sr7] at answered
    rw [state, derived]
    rw [derived] at answered
    simp only [RequestFacts.state, RequestView.facts, unended] at answered ⊢
    split_ifs at answered ⊢ <;> simp_all
  sr7 := sr7
  standing := by rw [snapshot]; exact projects.standing
  quantity := quantity.trans projects.quantity
  count := count.trans projects.count

theorem Projects.authorized (nonempty : 0 < created) (state : new.lifecycleState =
      authorizationState old.submittedQuantity (old.authorizedRmaCount + created))
    (sr7 : new.currentSr7 = old.currentSr7)
    (snapshot : new.currentSubmissionSnapshotId = old.currentSubmissionSnapshotId)
    (quantity : new.submittedQuantity = old.submittedQuantity)
    (count : new.authorizedRmaCount = old.authorizedRmaCount + created) :
    Projects { view with rmaCount := view.rmaCount + created } new where
  state := by
    have submitted := projects.submitted
    rw [state, authorizationState, projects.count, ← submitted]
    simp only [RequestFacts.state, RequestView.facts, projects.unended running]
    have authorizes : 0 < view.rmaCount + created := by omega
    rw [if_pos authorizes]
    refine if_congr ⟨fun both => both.2, fun less => ⟨by omega, less⟩⟩ rfl rfl
  sr7 := sr7.trans projects.sr7
  standing := by rw [snapshot]; exact projects.standing
  quantity := quantity.trans projects.quantity
  count := by rw [count, projects.count]

end

end Facts

/-! ## Terminal events -/

theorem References.logged (references : References rows)
    (ids : after.requests.requestIds = rows.requests.requestIds)
    (logged : Logged rows after event) (rmas : after.rmas = rows.rmas)
    (known : event.spareRequestId ∈ rows.requests.requestIds)
    (aimed : ∀ target ∈ event.targetEventId, target ∈ rows.requests.eventIds) :
    References after := by
  obtain ⟨events, snapshots, allocations, aliases⟩ := logged
  have kept : rows.requests.eventIds ⊆ after.requests.eventIds := by
    rw [RequestTables.eventIds, RequestTables.eventIds, events]
    exact subset_concat
  refine references.extend (ids ▸ List.Subset.refl _) kept (snapshots ▸ List.Subset.refl _) ?_
    (fun row inside => .inl (snapshots ▸ inside)) (fun row inside => .inl (allocations ▸ inside))
    (fun row inside => .inl (List.mem_map_of_mem (aliases ▸ inside)))
    (fun row inside => .inl (rmas ▸ inside))
  intro _ inside
  rw [events] at inside
  rcases Rows.mem_concat inside with before | rfl
  · exact .inl before
  · exact .inr ⟨ids ▸ known, fun target named => kept (aimed target named)⟩

theorem TerminalAction.terminal?_eventKind (action : TerminalAction) :
    action.eventKind.terminal? = some action := by
  cases action <;> rfl

theorem TerminalAction.eventKind_ne (action : TerminalAction) :
    action.eventKind ≠ .submissionCorrectedFalse := by
  cases action <;> simp [TerminalAction.eventKind]

variable {old new : RequestProjection}

/-- A terminal event moves its request to the terminal state. -/
theorem LifecycleSound.ended {action : TerminalAction} (sound : LifecycleSound rows)
    (replaced : Replaced rows.requests.projections after.requests.projections old new)
    (logged : Logged rows after event) (rmas : after.rmas = rows.rmas)
    (own : event.spareRequestId = old.spareRequestId) (kind : event.eventKind = action.eventKind)
    (aimless : event.targetEventId = none) (same : new.spareRequestId = old.spareRequestId)
    (projects : ∀ view, Projects view old →
      Projects { view with terminal := view.terminal.or (some action) } new) :
    LifecycleStep rows after := by
  refine ⟨sound.replace replaced same ?_ ?_ ?_, logged.events ▸ List.prefix_append _ _⟩
  · refine sound.references.logged (replaced.map_eq same) logged rmas
      (own ▸ List.mem_map_of_mem replaced.mem_old) fun target aimed => ?_
    rw [aimless] at aimed
    cases aimed
  · intro _ apart
    exact viewOf_logged logged (by rw [rmas]) (.inl (own ▸ apart))
  · rw [viewOf_ended old.spareRequestId logged rmas own
      (kind ▸ action.eventKind_ne), kind, action.terminal?_eventKind]
    exact projects _ (sound.projected old replaced.mem_old)

theorem cancelOrReject_step (sound : LifecycleSound rows)
    (ran : cancelOrReject call rows.requests rows.rmas.rmas spareRequestId baseRevision target
      reasonCode = .ok next) : LifecycleStep rows { rows with requests := next } := by
  simp only [cancelOrReject, except_ok, insertKeyed_ok] at ran
  obtain ⟨_, read, running, _, _, ⟨_, logged⟩, _, _, _, updated,
    returned⟩ := ran
  cases returned
  obtain ⟨inside, rfl⟩ := requireDetailAt_ok read
  have replaced := updateProjection_ok sound.keyed inside updated
  exact sound.ended replaced ⟨logged, rfl, rfl, rfl⟩ rfl rfl rfl rfl rfl fun view projects =>
    projects.ended running rfl rfl rfl rfl rfl

/-! ## Official identity -/

theorem retireCurrentSr7_ok {current : Option String} {retired held : List Sr7Alias}
    (ran : retireCurrentSr7 spareRequestId current held = .ok retired) :
    retired.map (·.spareRequestId) = held.map (·.spareRequestId) ∧
      ∀ other, other ≠ spareRequestId →
        retired.filter (fun row => row.spareRequestId = other ∧ row.aliasKind = .current) =
          held.filter fun row => row.spareRequestId = other ∧ row.aliasKind = .current := by
  cases current with
  | none =>
    cases ran
    exact ⟨rfl, fun _ _ => rfl⟩
  | some =>
    obtain ⟨old, hit, replaced⟩ := updateOne_ok ran
    have own : old.spareRequestId = spareRequestId := (of_decide_eq_true hit).1
    refine ⟨replaced.map_eq rfl, fun other apart => replaced.filter_eq ?_ ?_⟩
    · simp [own, Ne.symm apart]
    · simp

theorem currentSr7_eq (tables : RequestTables) (spareRequestId : String) :
    tables.currentSr7 spareRequestId = ((tables.sr7Aliases.filter fun row =>
      row.spareRequestId = spareRequestId ∧ row.aliasKind = .current).head?).map (·.sr7) := by
  rw [RequestTables.currentSr7, List.head?_filter]

/-- A request gets an SR7 that no other request loses. -/
theorem LifecycleSound.identified {retired : List Sr7Alias} {official : String}
    {current : Option String} (sound : LifecycleSound rows)
    (replaced : Replaced rows.requests.projections after.requests.projections old new)
    (events : after.requests.events = rows.requests.events)
    (snapshots : after.requests.snapshots = rows.requests.snapshots)
    (allocations : after.requests.submissionAllocations = rows.requests.submissionAllocations)
    (rmas : after.rmas = rows.rmas)
    (retires : retireCurrentSr7 old.spareRequestId current rows.requests.sr7Aliases = .ok retired)
    (gone : ¬ ∃ row ∈ retired, row.spareRequestId = old.spareRequestId ∧ row.aliasKind = .current)
    (aliases : after.requests.sr7Aliases = retired ++ [⟨old.spareRequestId, official, .current⟩])
    (same : new.spareRequestId = old.spareRequestId)
    (projects : ∀ view, Projects view old → Projects { view with sr7 := some official } new) :
    LifecycleStep rows after := by
  obtain ⟨ids, apart⟩ := retireCurrentSr7_ok retires
  have terminals (requestId : String) :
      after.requests.terminalOf requestId = rows.requests.terminalOf requestId := by
    rw [RequestTables.terminalOf, RequestTables.terminalOf, events]
  have quantities := submissionQuantity_congr allocations
  refine ⟨sound.replace replaced same ?_ ?_ ?_, events ▸ List.prefix_rfl⟩
  · refine sound.references.extend ?_ ?_ (snapshots ▸ List.Subset.refl _)
      (fun event inside => .inl (events ▸ inside)) (fun row inside => .inl (snapshots ▸ inside))
      (fun row inside => .inl (allocations ▸ inside)) ?_ (fun row inside => .inl (rmas ▸ inside))
    · rw [RequestTables.requestIds, RequestTables.requestIds, replaced.map_eq same]
      exact List.Subset.refl _
    · rw [RequestTables.eventIds, RequestTables.eventIds, events]
      exact List.Subset.refl _
    · intro row inside
      rw [aliases] at inside
      rcases Rows.mem_concat inside with before | rfl
      · exact .inl (ids ▸ List.mem_map_of_mem before)
      · refine .inr ?_
        rw [RequestTables.requestIds, replaced.map_eq same]
        exact List.mem_map_of_mem replaced.mem_old
  · intro other different
    refine viewOf_congr (terminals other) (standing_congr events snapshots other)
      (fun snapshot _ => congrFun quantities snapshot) ?_ (by rw [rmas])
    rw [currentSr7_eq, currentSr7_eq, aliases, List.filter_append, apart other different]
    simp [Ne.symm different]
  · have found : after.requests.currentSr7 old.spareRequestId = some official := by
      have none : retired.filter (fun row =>
          row.spareRequestId = old.spareRequestId ∧ row.aliasKind = .current) = [] :=
        List.filter_eq_nil_iff.mpr fun row inside hit => gone ⟨row, inside, of_decide_eq_true hit⟩
      rw [currentSr7_eq, aliases, List.filter_append, none]
      simp
    have view : after.viewOf old.spareRequestId =
        { rows.viewOf old.spareRequestId with sr7 := some official } := by
      simp only [AuthorizationRows.viewOf, terminals, standing_congr events snapshots, quantities,
        found, rmas]
    rw [view]
    exact projects _ (sound.projected old replaced.mem_old)

theorem Sr7Action.admits_ok {action : Sr7Action} {current : Option String}
    (ran : action.admits current = .ok ()) : action = .assign ↔ current = none := by
  cases action with
  | assign => simpa [Sr7Action.admits] using ran
  | correct => simpa [Sr7Action.admits] using ran

theorem assignOrCorrectSr7_step (sound : LifecycleSound rows)
    (answered : ∀ detail, rows.requests.requireDetailAt spareRequestId baseRevision = .ok detail →
      newSr7 ∉ rows.requests.sr7Aliases.map (·.sr7) → action = .assign →
      detail.projection.lifecycleState ≠ .submittedAwaitingResponse)
    (ran : assignOrCorrectSr7 call rows.requests spareRequestId baseRevision newSr7 action =
      .ok next) : LifecycleStep rows { rows with requests := next } := by
  simp only [assignOrCorrectSr7, except_ok, insertKeyed_ok] at ran
  obtain ⟨detail, read, running, admitted, fresh, _, retires, gone, _, ⟨_, added⟩,
    _, _, _, updated, returned⟩ := ran
  cases returned
  have known := answered detail read fresh
  obtain ⟨inside, rfl⟩ := requireDetailAt_ok read
  have current := (sound.projected _ inside).sr7
  have replaced := updateProjection_ok sound.keyed inside updated
  refine sound.identified replaced rfl rfl rfl rfl retires gone added rfl fun view projects =>
    projects.identified running (fun none => known ?_) rfl rfl rfl rfl rfl
  exact (Sr7Action.admits_ok admitted).mpr (current.symm.trans none)

/-! ## Submissions -/

theorem insertSubmissionAllocations_ok
    (ran : insertSubmissionAllocations call submissionSnapshotId drawn items held = .ok inserted) :
    ∃ added, inserted = held ++ added ∧
      (∀ row ∈ added, row.submissionSnapshotId = submissionSnapshotId) ∧
      added.map (·.quantity) = items.map (·.1.quantity) := by
  induction items generalizing drawn held with
  | nil =>
    cases ran
    exact ⟨[], by simp, by simp, rfl⟩
  | cons _ rest ih =>
    simp only [insertSubmissionAllocations, except_ok, insertKeyed_ok] at ran
    obtain ⟨_, ⟨_, rfl⟩, rest⟩ := ran
    obtain ⟨added, rfl, own, quantities⟩ := ih rest
    refine ⟨_ :: added, by rw [List.append_assoc, List.singleton_append], ?_, by simp [quantities]⟩
    intro row inside
    rcases List.mem_cons.mp inside with rfl | inside
    · rfl
    · exact own row inside

theorem submissionQuantity_append
    (allocations : next.submissionAllocations = tables.submissionAllocations ++ added) :
    next.submissionQuantity snapshot = tables.submissionQuantity snapshot +
      ((added.filter fun row => row.submissionSnapshotId = snapshot.submissionSnapshotId).map
        (·.quantity)).sum := by
  rw [RequestTables.submissionQuantity, RequestTables.submissionQuantity, allocations,
    List.filter_append, List.map_append, List.sum_append]

/-- A draft without a submission gets one that stands. -/
theorem LifecycleSound.accepted (sound : LifecycleSound rows)
    (replaced : Replaced rows.requests.projections after.requests.projections old new)
    (events : after.requests.events = rows.requests.events ++ [event])
    (snapshots : after.requests.snapshots = rows.requests.snapshots ++ [snapshot])
    (allocations : after.requests.submissionAllocations =
      rows.requests.submissionAllocations ++ added)
    (aliases : after.requests.sr7Aliases = rows.requests.sr7Aliases) (rmas : after.rmas = rows.rmas)
    (own : event.spareRequestId = old.spareRequestId) (kind : event.eventKind = .submissionAccepted)
    (aimless : event.targetEventId = none)
    (unlogged : event.requestEventId ∉ rows.requests.eventIds)
    (untaken : snapshot.submissionSnapshotId ∉
      rows.requests.snapshots.map (·.submissionSnapshotId))
    (belongs : snapshot.spareRequestId = old.spareRequestId)
    (names : snapshot.submissionEventId = event.requestEventId)
    (ofSnapshot : ∀ row ∈ added, row.submissionSnapshotId = snapshot.submissionSnapshotId)
    (unsubmitted : old.currentSubmissionSnapshotId = none)
    (same : new.spareRequestId = old.spareRequestId) (projects : ∀ view, Projects view old →
      Projects { view with standing := [(snapshot, (added.map (·.quantity)).sum)] } new) :
    LifecycleStep rows after := by
  have ids : after.requests.requestIds = rows.requests.requestIds := replaced.map_eq same
  have logged : after.requests.eventIds = rows.requests.eventIds ++ [event.requestEventId] := by
    rw [RequestTables.eventIds, events, List.map_append]
    rfl
  have known : old.spareRequestId ∈ rows.requests.requestIds :=
    List.mem_map_of_mem replaced.mem_old
  have terminals (requestId : String) :
      after.requests.terminalOf requestId = rows.requests.terminalOf requestId := by
    rw [terminalOf_append events, RequestEvent.decides, kind]
    simp [RequestEventKind.terminal?]
  have stands (row : SubmissionSnapshot) : after.requests.Stands row ↔ rows.requests.Stands row := by
    rw [stands_append events, kind]
    simp
  have standing (requestId : String) : after.requests.standingSubmissions requestId =
      rows.requests.standingSubmissions requestId ++
        [snapshot].filter fun row => row.spareRequestId = requestId ∧ after.requests.Stands row := by
    rw [RequestTables.standingSubmissions, snapshots, List.filter_append]
    congr 1
    exact List.filter_congr fun row _ => decide_eq_decide.mpr (and_congr_right' (stands row))
  refine ⟨sound.replace replaced same ?_ ?_ ?_, events ▸ List.prefix_append _ _⟩
  · refine sound.references.extend (ids ▸ List.Subset.refl _)
      (logged ▸ List.subset_append_left _ _) (snapshots ▸ subset_concat) ?_ ?_ ?_
      (fun row inside => .inl (List.mem_map_of_mem (aliases ▸ inside)))
      (fun row inside => .inl (rmas ▸ inside))
    · intro other inside
      rw [events] at inside
      rcases Rows.mem_concat inside with before | rfl
      · exact .inl before
      · refine .inr ⟨ids ▸ own ▸ known, fun target aimed => ?_⟩
        rw [aimless] at aimed
        cases aimed
    · intro row inside
      rw [snapshots] at inside
      rcases Rows.mem_concat inside with before | rfl
      · exact .inl before
      · refine .inr ⟨ids ▸ belongs ▸ known, ?_⟩
        rw [logged, names]
        simp
    · intro row inside
      rw [allocations] at inside
      rcases List.mem_append.mp inside with before | inside
      · exact .inl before
      · refine .inr ?_
        rw [snapshots, ofSnapshot row inside]
        simp
  · intro other different
    refine viewOf_congr (terminals other) ?_ (fun row inside => ?_) (currentSr7_congr aliases other)
      (by rw [rmas])
    · rw [standing other]
      simp [belongs, Ne.symm different]
    · have apart : added.filter (fun other =>
          other.submissionSnapshotId = row.submissionSnapshotId) = [] := by
        refine List.filter_eq_nil_iff.mpr fun other present hit => untaken ?_
        rw [← ofSnapshot other present, of_decide_eq_true hit]
        exact List.mem_map_of_mem inside
      rw [submissionQuantity_append allocations, apart]
      rfl
  · have before := sound.projected old replaced.mem_old
    have none : rows.requests.standingSubmissions old.spareRequestId = [] := by
      have listed := before.standing
      rw [unsubmitted] at listed
      simpa [AuthorizationRows.viewOf] using listed
    have standsNew : after.requests.Stands snapshot := by
      rw [stands]
      rintro ⟨other, inside, _, _, aimed⟩
      rw [names] at aimed
      exact unlogged (sound.references.targets other inside _ aimed)
    have quantity : after.requests.submissionQuantity snapshot =
        (added.map (·.quantity)).sum := by
      have earlier : rows.requests.submissionAllocations.filter (fun row =>
          row.submissionSnapshotId = snapshot.submissionSnapshotId) = [] := by
        refine List.filter_eq_nil_iff.mpr fun row inside hit => untaken ?_
        rw [← of_decide_eq_true hit]
        exact sound.references.allocations row inside
      have all : added.filter (fun row =>
          row.submissionSnapshotId = snapshot.submissionSnapshotId) = added :=
        List.filter_eq_self.mpr fun row inside => decide_eq_true (ofSnapshot row inside)
      rw [submissionQuantity_append allocations, RequestTables.submissionQuantity, earlier, all]
      simp
    have view : after.viewOf old.spareRequestId = { rows.viewOf old.spareRequestId with
        standing := [(snapshot, (added.map (·.quantity)).sum)] } := by
      simp only [AuthorizationRows.viewOf, terminals, standing, none, currentSr7_congr aliases, rmas]
      simp [belongs, standsNew, quantity]
    rw [view]
    exact projects _ before

theorem acceptSubmission_step (sound : LifecycleSound rows)
    (ran : acceptSubmission call drawn rows.requests spareRequestId expectedFingerprint
      effectiveSubmissionAtUtc evidence = .ok (next, drawnAfter)) :
    LifecycleStep rows { rows with requests := next } := by
  simp only [acceptSubmission, except_ok, insertKeyed_ok] at ran
  obtain ⟨_, read, drafted, _, ⟨unsubmitted, _⟩, _, _, _, _, _, _, _, _, _,
    _, ⟨unlogged, logged⟩, _, ⟨untaken, taken⟩, _, inserted, _, _,
    _, updated, returned⟩ := ran
  cases returned
  obtain ⟨inside, rfl⟩ := requireDetail_ok read
  obtain ⟨_, allocated, ofSnapshot, quantities⟩ := insertSubmissionAllocations_ok inserted
  have replaced := updateProjection_ok sound.keyed inside updated
  refine sound.accepted replaced logged taken allocated rfl rfl rfl rfl rfl unlogged untaken rfl rfl
    ofSnapshot unsubmitted rfl fun view projects => ?_
  rw [quantities]
  exact projects.accepted drafted rfl rfl rfl rfl rfl

/-- The one submission that stood is declared false. -/
theorem LifecycleSound.withdrawn (sound : LifecycleSound rows)
    (replaced : Replaced rows.requests.projections after.requests.projections old new)
    (logged : Logged rows after event) (rmas : after.rmas = rows.rmas)
    (own : event.spareRequestId = old.spareRequestId)
    (kind : event.eventKind = .submissionCorrectedFalse)
    (aimed : event.targetEventId = some current.submissionEventId)
    (effective : rows.requests.currentEffectiveSubmission old.spareRequestId = some current)
    (same : new.spareRequestId = old.spareRequestId)
    (projects : ∀ view, Projects view old → Projects { view with standing := [] } new) :
    LifecycleStep rows after := by
  have ⟨events, snapshots, allocations, aliases⟩ := logged
  have before := sound.projected old replaced.mem_old
  have standsNow := mem_of_effective effective
  have terminals := terminalOf_silent logged (by rw [kind]; rfl)
  refine ⟨sound.replace replaced same ?_ ?_ ?_, events ▸ List.prefix_append _ _⟩
  · refine sound.references.logged (replaced.map_eq same) logged rmas
      (own ▸ List.mem_map_of_mem replaced.mem_old) fun target named => ?_
    rw [aimed] at named
    cases named
    exact (sound.references.snapshots current (List.mem_filter.mp standsNow).1).2
  · intro other different
    exact viewOf_congr (terminals other) (standing_append events snapshots (.inl (own ▸ different)))
      (fun snapshot _ => congrFun (submissionQuantity_congr allocations) snapshot)
      (currentSr7_congr aliases other) (by rw [rmas])
  · have only : ∀ row ∈ rows.requests.standingSubmissions old.spareRequestId, row = current := by
      rcases RequestView.facts_of_single before with none | ⟨_, one⟩
      · simp only [AuthorizationRows.viewOf, List.map_eq_nil_iff] at none
        simp [none] at standsNow
      · simp only [AuthorizationRows.viewOf, List.map_eq_cons_iff, List.map_eq_nil_iff] at one
        obtain ⟨snapshot, _, found, _, rfl⟩ := one
        rw [found, List.mem_singleton] at standsNow
        intro row inside
        rw [found, List.mem_singleton] at inside
        rw [inside, standsNow]
    have none : after.requests.standingSubmissions old.spareRequestId = [] := by
      refine List.filter_eq_nil_iff.mpr fun row inside hit => ?_
      obtain ⟨belongs, stands⟩ := of_decide_eq_true hit
      obtain ⟨stood, unhit⟩ := (stands_append events row).mp stands
      have same := only row (List.mem_filter.mpr
        ⟨snapshots ▸ inside, decide_eq_true ⟨belongs, stood⟩⟩)
      exact unhit ⟨own.trans belongs.symm, kind, by rw [aimed, same]⟩
    have view : after.viewOf old.spareRequestId =
        { rows.viewOf old.spareRequestId with standing := [] } := by
      simp only [AuthorizationRows.viewOf, terminals, none, currentSr7_congr aliases, rmas,
        List.map_nil]
    rw [view]
    exact projects _ before

/-- The event is the one of the effective submission. -/
def RequestTables.EffectiveEvent (tables : RequestTables)
    (spareRequestId submissionEventId : String) : Prop :=
  ∃ current, tables.currentEffectiveSubmission spareRequestId = some current ∧
    current.submissionEventId = submissionEventId

theorem correctFalseSubmission_step (sound : LifecycleSound rows)
    (running : ∀ detail, rows.requests.requireDetail spareRequestId = .ok detail →
      rows.requests.EffectiveEvent spareRequestId submissionEventId →
      detail.projection.currentSr7 = none → detail.projection.lifecycleState.isTerminal = false)
    (ran : correctFalseSubmission call rows.requests rows.rmas.rmas spareRequestId submissionEventId
      reasonCode = .ok next) : LifecycleStep rows { rows with requests := next } := by
  simp only [correctFalseSubmission, except_ok, insertKeyed_ok] at ran
  obtain ⟨detail, read, current, target, unidentified, unauthorized, _, ⟨_, logged⟩,
    _, _, _, updated, returned⟩ := ran
  cases returned
  obtain ⟨effective, rfl⟩ := requireEffectiveSubmission_ok target
  have runs := running detail read ⟨current, effective, rfl⟩ unidentified
  obtain ⟨inside, rfl⟩ := requireDetail_ok read
  have replaced := updateProjection_ok sound.keyed inside updated
  have uncounted := (sound.projected _ inside).count
  refine sound.withdrawn replaced ⟨logged, rfl, rfl, rfl⟩ rfl rfl rfl rfl effective rfl
    fun view projects => projects.withdrawn runs ?_ rfl rfl rfl rfl rfl
  rw [← projects.count, uncounted]
  exact unauthorized

/-! ## Authorization batches -/

theorem insertRma_ok
    (ran : insertRma call spareRequestId batchId serviceRequestId drawn responseOrdinal intent held =
      .ok (written, created)) :
    ∃ row, row.spareRequestId = spareRequestId ∧ written.rmas = held.rmas ++ [row] := by
  simp only [insertRma, except_ok, insertKeyed_ok] at ran
  obtain ⟨_, ⟨_, rfl⟩, _, _, _, _, _, _, _, _, returned⟩ := ran
  cases returned
  exact ⟨_, rfl, rfl⟩

variable {intents : List RmaAuthorizationIntent}

theorem insertRmas_ok
    (ran : insertRmas call spareRequestId batchId serviceRequestId drawn responseOrdinal intents
      held = .ok (written, created)) :
    created.length = intents.length ∧ ∃ added, written.rmas = held.rmas ++ added ∧
      added.length = intents.length ∧ ∀ row ∈ added, row.spareRequestId = spareRequestId := by
  induction intents generalizing drawn responseOrdinal held created with
  | nil =>
    cases ran
    exact ⟨rfl, [], by simp, rfl, by simp⟩
  | cons _ rest ih =>
    simp only [insertRmas, except_ok] at ran
    obtain ⟨⟨_, _⟩, first, ⟨_, _⟩, rest, returned⟩ := ran
    cases returned
    obtain ⟨row, own, inserted⟩ := insertRma_ok first
    obtain ⟨counted, added, appended, length, belongs⟩ := ih rest
    refine ⟨by simp [counted], row :: added, ?_, by simp [length], ?_⟩
    · rw [appended, inserted, List.append_assoc, List.singleton_append]
    · intro other inside
      rcases List.mem_cons.mp inside with rfl | inside
      · exact own
      · exact belongs other inside

theorem requireBatchEligible_ok
    (ran : requireBatchEligible tables aliases spareRequestId expectedRequestRevision intents =
      .ok (request, projection)) :
    projection ∈ tables.projections ∧ projection.spareRequestId = spareRequestId ∧
      projection.lifecycleState.isTerminal = false := by
  rw [requireBatchEligible] at ran
  split at ran
  · simp only [except_ok] at ran
    obtain ⟨_, _, _, running, _, returned⟩ := ran
    cases returned
    obtain ⟨inside, own⟩ := projection?_ok ‹_›
    exact ⟨inside, own, running⟩
  · cases ran

/-- A batch adds its RMAs to those of its request. -/
theorem LifecycleSound.authorized (sound : LifecycleSound rows)
    (replaced : Replaced rows.requests.projections after.requests.projections old new)
    (logged : Logged rows after event) (rmas : after.rmas.rmas = rows.rmas.rmas ++ added)
    (own : event.spareRequestId = old.spareRequestId)
    (kind : event.eventKind = .authorizationProgress) (aimless : event.targetEventId = none)
    (belongs : ∀ row ∈ added, row.spareRequestId = old.spareRequestId)
    (same : new.spareRequestId = old.spareRequestId) (projects : ∀ view, Projects view old →
      Projects { view with rmaCount := view.rmaCount + added.length } new) :
    LifecycleStep rows after := by
  have ⟨events, snapshots, allocations, aliases⟩ := logged
  have known : old.spareRequestId ∈ rows.requests.requestIds :=
    List.mem_map_of_mem replaced.mem_old
  have ids : after.requests.requestIds = rows.requests.requestIds := replaced.map_eq same
  have terminals := terminalOf_silent logged (by rw [kind]; rfl)
  have quantities := submissionQuantity_congr allocations
  refine ⟨sound.replace replaced same ?_ ?_ ?_, events ▸ List.prefix_append _ _⟩
  · refine sound.references.extend (ids ▸ List.Subset.refl _) ?_ (snapshots ▸ List.Subset.refl _) ?_
      (fun row inside => .inl (snapshots ▸ inside)) (fun row inside => .inl (allocations ▸ inside))
      (fun row inside => .inl (List.mem_map_of_mem (aliases ▸ inside))) ?_
    · rw [RequestTables.eventIds, RequestTables.eventIds, events]
      exact subset_concat
    · intro other inside
      rw [events] at inside
      rcases Rows.mem_concat inside with before | rfl
      · exact .inl before
      · refine .inr ⟨ids ▸ own ▸ known, fun target aimed => ?_⟩
        rw [aimless] at aimed
        cases aimed
    · intro row inside
      rw [rmas] at inside
      rcases List.mem_append.mp inside with before | inside
      · exact .inl before
      · exact .inr (ids ▸ belongs row inside ▸ known)
  · intro other different
    refine viewOf_logged logged ?_ (.inl (own ▸ different))
    have apart : added.countP (fun row => row.spareRequestId = other) = 0 :=
      List.countP_eq_zero.mpr fun row inside hit =>
        different (by rw [← of_decide_eq_true hit, belongs row inside])
    rw [rmaCount, rmaCount, rmas, List.countP_append, apart, Nat.add_zero]
  · have counted : rmaCount after.rmas.rmas old.spareRequestId =
        rmaCount rows.rmas.rmas old.spareRequestId + added.length := by
      have all : added.countP (fun row => row.spareRequestId = old.spareRequestId) = added.length :=
        List.countP_eq_length.mpr fun row inside => decide_eq_true (belongs row inside)
      rw [rmaCount, rmaCount, rmas, List.countP_append, all]
    have standing : after.requests.standingSubmissions old.spareRequestId =
        rows.requests.standingSubmissions old.spareRequestId :=
      standing_append events snapshots (.inr (by rw [kind]; simp))
    have view : after.viewOf old.spareRequestId = { rows.viewOf old.spareRequestId with
        rmaCount := (rows.viewOf old.spareRequestId).rmaCount + added.length } := by
      simp only [AuthorizationRows.viewOf, terminals, standing, quantities, currentSr7_congr aliases,
        counted]
    rw [view]
    exact projects _ (sound.projected old replaced.mem_old)

theorem acceptAuthorizationBatch_step (sound : LifecycleSound rows) (nonempty : intents ≠ [])
    (ran : acceptAuthorizationBatch call rows.requests rows.rmas spareRequestId
      expectedRequestRevision intents acceptedAtUtc = .ok (next, rmas, accepted)) :
    LifecycleStep rows ⟨next, rmas⟩ := by
  simp only [acceptAuthorizationBatch, except_ok, insertKeyed_ok] at ran
  obtain ⟨⟨_, _⟩, eligible, _, _, ⟨_, _⟩, inserted, _,
    ⟨_, logged⟩, _, _, _, updated, returned⟩ := ran
  cases returned
  obtain ⟨inside, rfl, running⟩ := requireBatchEligible_ok eligible
  obtain ⟨counted, added, appended, length, belongs⟩ := insertRmas_ok inserted
  have replaced := updateProjection_ok sound.keyed inside updated
  have some : 0 < added.length := by
    rw [length]
    exact List.length_pos_iff.mpr nonempty
  refine sound.authorized replaced ⟨logged, rfl, rfl, rfl⟩ appended rfl rfl rfl belongs rfl
    fun view projects => projects.authorized running some ?_ rfl rfl rfl ?_
  · simp only [counted, length]
  · simp only [counted, length]

/-! ## Commands -/

/-- The commands after which the state still follows from the facts: no first SR7
for a request whose response is awaited, and no correction of the submission of a
cancelled or rejected request. -/
def Orderly (rows : AuthorizationRows) : RequestCommand → Prop
  | .assignOrCorrectSr7 _ spareRequestId baseRevision sr7 action =>
    ∀ detail, rows.requests.requireDetailAt spareRequestId baseRevision = .ok detail →
      sr7 ∉ rows.requests.sr7Aliases.map (·.sr7) → action = .assign →
      detail.projection.lifecycleState ≠ .submittedAwaitingResponse
  | .correctFalseSubmission _ spareRequestId submissionEventId _ =>
    ∀ detail, rows.requests.requireDetail spareRequestId = .ok detail →
      rows.requests.EffectiveEvent spareRequestId submissionEventId →
      detail.projection.currentSr7 = none → detail.projection.lifecycleState.isTerminal = false
  | _ => True

theorem onRequests_step {change : AuthorizationRows → Except Raised RequestTables}
    (sound : LifecycleSound rows)
    (each : ∀ written, change rows = .ok written →
      LifecycleStep rows { rows with requests := written }) :
    LifecycleStep rows (commit (onRequests change) rows).2 := by
  refine commit_holds sound.unchanged fun value after ran => ?_
  simp only [onRequests, steps_ok] at ran
  obtain ⟨written, changed, rfl⟩ := ran
  exact each written changed

theorem acceptSubmissions_step (sound : LifecycleSound rows)
    (ran : acceptSubmissions call evidenceId drawn targets rows.requests = .ok next) :
    LifecycleStep rows { rows with requests := next } := by
  induction targets generalizing drawn rows with
  | nil =>
    cases ran
    exact sound.unchanged
  | cons _ rest ih =>
    simp only [acceptSubmissions, except_ok] at ran
    obtain ⟨⟨_, _⟩, first, rest⟩ := ran
    have step := acceptSubmission_step sound first
    exact step.trans (ih step.sound rest)

/-- Every orderly command keeps the projections in agreement with the records. -/
theorem execute_step (sound : LifecycleSound rows) (orderly : Orderly rows command) :
    LifecycleStep rows (command.execute rows) := by
  cases command with
  | createDraft =>
    refine onRequests_step sound fun written ran => ?_
    simp only [except_ok, allocateSpareRequestTracking] at ran
    obtain ⟨allocations, _, _, _, _, _, ⟨tables, _, _⟩, tracked,
      inserted⟩ := ran
    split at tracked
    · cases tracked
    · simp only [except_ok] at tracked
      obtain ⟨_, returned⟩ := tracked
      cases returned
      exact insertDraft_step sound inserted
  | updateDraft _ _ _ allocations =>
    refine onRequests_step sound fun written ran => ?_
    simp only [except_ok] at ran
    obtain ⟨allocations, _, detail, _, _, _, _, ran⟩ := ran
    split at ran
    · cases ran
      exact sound.unchanged
    · exact replaceDraft_step sound ran
  | acceptSubmission =>
    refine onRequests_step sound fun written ran => ?_
    simp only [except_ok] at ran
    obtain ⟨detail, _, _, _, _, ⟨tables, _⟩, accepted, returned⟩ := ran
    cases returned
    exact acceptSubmission_step sound accepted
  | acceptProposal =>
    refine onRequests_step sound fun written ran => ?_
    simp only [except_ok] at ran
    obtain ⟨_, _, _, accepted⟩ := ran
    exact acceptSubmissions_step sound accepted
  | applyProposal =>
    refine onRequests_step sound fun written ran => ?_
    simp only [except_ok] at ran
    obtain ⟨_, accepted⟩ := ran
    exact acceptSubmissions_step sound accepted
  | correctFalseSubmission =>
    refine onRequests_step sound fun written ran => ?_
    simp only [except_ok] at ran
    obtain ⟨_, _, corrected⟩ := ran
    exact correctFalseSubmission_step sound orderly corrected
  | assignOrCorrectSr7 =>
    refine onRequests_step sound fun written ran => ?_
    simp only [except_ok] at ran
    obtain ⟨detail, _, ran⟩ := ran
    split at ran
    · cases ran
      exact sound.unchanged
    · exact assignOrCorrectSr7_step sound orderly ran
  | cancelOrReject =>
    refine onRequests_step sound fun written ran => ?_
    simp only [except_ok] at ran
    obtain ⟨detail, _, ran⟩ := ran
    split at ran
    · cases ran
      exact sound.unchanged
    · exact cancelOrReject_step sound ran
  | acceptBatch =>
    refine commit_holds sound.unchanged fun value after ran => ?_
    simp only [RequestCommand.body, acceptRmaAuthorizationBatch, validateAuthorizationIntents,
      bind_ok, get_ok, attempt_ok, set_ok, pure_ok, except_bind_ok, ensure_ok] at ran
    obtain ⟨_, _, ⟨_, _, ⟨rfl, rfl⟩, _, _, ⟨⟨_, nonempty, _⟩, rfl⟩, ⟨_, _, accepted⟩, _,
      ⟨ran, rfl⟩, _, _, rfl, _, rfl⟩, _, rfl⟩ := ran
    exact acceptAuthorizationBatch_step sound nonempty ran

end Soma.Inventory
