import Soma.ProductLineSla.ClassificationRuns
import Soma.Theory.KeysetPages
import Mathlib.Data.Prod.Lex
import Mathlib.Data.String.Basic

/-!
The classification history of `product_line_sla/queries/classification.py`. It is read by
whole second and then by event id, newest first, and a random id says nothing about which of
two events of one second came first. The pages show every event once; they show the chain of
the classifications wherever the ids follow the commands within each second.
-/

namespace Soma.ProductLineSla

open Execution Foundation Keyset Tickets

/-- A row of `sr_classification_events` with its `recorded_at_utc`. -/
structure RecordedEvent extends ClassificationEvent where
  recordedAtUtc : Nat

/-- The position in the order the history is read in: later seconds and greater ids first. -/
def RecordedEvent.position (event : RecordedEvent) : OrderDual (Lex (Nat × String)) :=
  OrderDual.toDual (toLex (event.recordedAtUtc, event.classificationEventId))

/-- The tables with the seconds the events were recorded in. -/
structure Recording where
  store : Store
  events : List RecordedEvent

/-- What a command that committed at a second leaves. -/
def Recording.after (recording : Recording) (next : Store) (now : Nat) : Recording where
  store := next
  events := recording.events ++
    (next.sla.rows.events.drop recording.store.sla.rows.events.length).map (⟨·, now⟩)

/-- The events of a Service Request, in the order the commands committed. -/
def Recording.historyOf (recording : Recording) (serviceRequestId : String) : List RecordedEvent :=
  recording.events.filter (·.serviceRequestId = serviceRequestId)

structure HistoryPage where
  page : Page RecordedEvent (OrderDual (Lex (Nat × String)))
  exactCount : Nat

/-- `history`. The cursor is a position of this Service Request: its filter fingerprint
names it. -/
def classificationHistory (recording : Recording) (serviceRequestId : String)
    (cursor : Option (OrderDual (Lex (Nat × String)))) (limit : Nat) : Except Raised HistoryPage := do
  requireUuid4 serviceRequestId
  ensure (1 ≤ limit ∧ limit ≤ 500)
    (validationError "classification page size must be an integer from 1 through 500")
  ensure (serviceRequestId ∈ recording.store.tickets.rows.serviceRequests.map (·.serviceRequestId))
    (slaError "SLA_CATALOG_NOT_FOUND" "Service Request does not exist")
  let rows := recording.historyOf serviceRequestId
  return ⟨page RecordedEvent.position rows limit cursor, rows.length⟩

/-! ## Runs -/

section Runs

variable (python : PythonLibrary) (library : TextLibrary) (unicode : Reference.UnicodeMatch)

/-- A command, at a second no event was recorded after. -/
inductive RecordingStep : Recording → Recording → Prop
  | committed {recording : Recording} {next : Store} (now : Nat) :
      ClassificationStep python library unicode (fun _ _ => True) recording.store next →
      (∀ event ∈ recording.events, event.recordedAtUtc ≤ now) →
      RecordingStep recording (recording.after next now)

end Runs

/-- Nothing is classified and nothing recorded. -/
def Recording.Empty (recording : Recording) : Prop :=
  recording.store.Unclassified ∧ recording.events = []

section Invariant

variable {python : PythonLibrary} {library : TextLibrary} {unicode : Reference.UnicodeMatch}
variable {meets : SlaRows → String → Prop} {rows next : SlaRows} {serviceRequestId owner : String}

theorem current?_cleared
    (cleared : next.current = rows.current.filter (·.serviceRequestId ≠ owner)) :
    next.current? serviceRequestId =
      if owner = serviceRequestId then none else rows.current? serviceRequestId := by
  rw [SlaRows.current?, cleared, List.find?_filter]
  by_cases same : owner = serviceRequestId
  · subst same
    rw [if_pos rfl, List.find?_eq_none]
    simp
  · rw [if_neg same, SlaRows.current?]
    congr 1
    funext row
    by_cases named : row.serviceRequestId = serviceRequestId
    · simp [named, Ne.symm same]
    · simp [named]

theorem current?_assigned {row : ClassificationCurrent} (named : row.serviceRequestId = owner)
    (assigned : next.current =
      rows.current.filter (·.serviceRequestId ≠ owner) ++ [row]) :
    next.current? serviceRequestId =
      if owner = serviceRequestId then some row else rows.current? serviceRequestId := by
  have cleared : { rows with
      current := rows.current.filter (·.serviceRequestId ≠ owner) }.current? serviceRequestId =
        if owner = serviceRequestId then none else rows.current? serviceRequestId :=
    current?_cleared rfl
  rw [SlaRows.current?] at cleared
  rw [SlaRows.current?, assigned, List.find?_append, cleared]
  by_cases same : owner = serviceRequestId
  · simp [same, named]
  · simp [same, named]

/-- The events tell how the current classifications came about. -/
structure SlaRows.Told (rows : SlaRows) : Prop where
  chained : classifications.Chained rows.events
  latest : ∀ serviceRequestId, classifications.latest rows.events serviceRequestId =
    (rows.current? serviceRequestId).map (·.contractProductLineId)

theorem SlaRows.Moves.told (moves : rows.Moves meets next) (told : rows.Told) : next.Told := by
  obtain ⟨chained, latest⟩ := told
  cases moves with
  | same events current =>
    refine ⟨by rwa [events], fun serviceRequestId => ?_⟩
    rw [events, latest, SlaRows.current?, SlaRows.current?, current]
  | assigned event row _ found left named _ events current =>
    refine ⟨?_, fun serviceRequestId => ?_⟩
    · rw [events]
      exact History.Reading.chained_append chained (found.trans (latest _).symm)
    · rw [events, History.Reading.latest_append, current?_assigned named current, latest]
      by_cases same : event.serviceRequestId = serviceRequestId
      · rw [if_pos same, if_pos (by exact same)]
        exact left
      · rw [if_neg same, if_neg (by exact same)]
  | ended event found left events current =>
    refine ⟨?_, fun serviceRequestId => ?_⟩
    · rw [events]
      exact History.Reading.chained_append chained (found.trans (latest _).symm)
    · rw [events, History.Reading.latest_append, current?_cleared current, latest]
      by_cases same : event.serviceRequestId = serviceRequestId
      · rw [if_pos same, if_pos (by exact same)]
        exact left
      · rw [if_neg same, if_neg (by exact same)]

theorem SlaRows.Moves.events_prefix (moves : rows.Moves meets next) :
    rows.events <+: next.events := by
  cases moves with
  | same events => exact ⟨[], by simp [events]⟩
  | assigned event _ _ _ _ _ _ events => exact ⟨[event], events.symm⟩
  | ended event _ _ events => exact ⟨[event], events.symm⟩

structure Recording.Sound (recording : Recording) : Prop where
  stored : recording.events.map (·.toClassificationEvent) = recording.store.sla.rows.events
  told : recording.store.sla.rows.Told
  ordered : recording.events.Pairwise fun earlier later =>
    earlier.recordedAtUtc ≤ later.recordedAtUtc

theorem Recording.Sound.step {recording after : Recording} (sound : recording.Sound)
    (step : RecordingStep python library unicode recording after) : after.Sound := by
  obtain ⟨stored, told, ordered⟩ := sound
  cases step with
  | @committed next now step past =>
    have moves := step.moves
    obtain ⟨added, events⟩ := moves.events_prefix
    have grown : (recording.after next now).events = recording.events ++ added.map (⟨·, now⟩) := by
      rw [Recording.after, ← events, List.drop_left]
    refine ⟨?_, moves.told told, ?_⟩
    · rw [grown, List.map_append, stored, List.map_map]
      exact (congrArg _ (List.map_id _)).trans events
    · rw [grown, List.pairwise_append]
      refine ⟨ordered, ?_, fun earlier inside later new => ?_⟩
      · rw [List.pairwise_map]
        exact List.pairwise_of_forall fun _ _ => le_rfl
      · obtain ⟨_, -, rfl⟩ := List.mem_map.mp new
        exact past earlier inside

theorem sound_of_recorded
    (reached : Reachable Recording.Empty (RecordingStep python library unicode) recording) :
    recording.Sound := by
  refine reached.invariant Recording.Sound ?_ fun _ _ sound step => sound.step step
  rintro recording ⟨⟨events, current⟩, none⟩
  refine ⟨by rw [none, events]; rfl, ⟨fun key => ?_, fun serviceRequestId => ?_⟩, by simp [none]⟩
  · rw [events]
    exact .nil
  · rw [events, SlaRows.current?, current]
    rfl

end Invariant

/-! ## Pages -/

/-- Within each second the ids follow the commands. -/
def IdsFollow (events : List RecordedEvent) : Prop :=
  events.Pairwise fun earlier later => earlier.recordedAtUtc = later.recordedAtUtc →
    earlier.classificationEventId < later.classificationEventId

section Pages

variable {recording : Recording} {events : List RecordedEvent} {serviceRequestId : String}

theorem RecordedEvent.position_lt {earlier later : RecordedEvent}
    (ordered : earlier.recordedAtUtc ≤ later.recordedAtUtc) :
    later.position < earlier.position ↔ (earlier.recordedAtUtc = later.recordedAtUtc →
      earlier.classificationEventId < later.classificationEventId) := by
  rw [RecordedEvent.position, RecordedEvent.position, OrderDual.toDual_lt_toDual,
    Prod.Lex.toLex_lt_toLex]
  rcases Nat.lt_or_eq_of_le ordered with before | same
  · simp [before, before.ne]
  · simp [same]

theorem Recording.Sound.positions_nodup (sound : recording.Sound) (serviceRequestId : String) :
    ((recording.historyOf serviceRequestId).map RecordedEvent.position).Nodup := by
  have ids := recording.store.sla.valid.classifications.eventIds
  rw [← sound.stored, List.map_map, List.Nodup, List.pairwise_map] at ids
  rw [List.Nodup, List.pairwise_map]
  refine (ids.filter _).imp fun apart same => apart ?_
  exact congrArg (fun position => (ofLex (OrderDual.ofDual position)).2) same

/-- The history is the reverse of the commits exactly when the ids follow them. -/
theorem inOrder_eq_reverse (ordered : events.Pairwise fun earlier later =>
      earlier.recordedAtUtc ≤ later.recordedAtUtc)
    (apart : (events.map RecordedEvent.position).Nodup) :
    inOrder RecordedEvent.position events = events.reverse ↔ IdsFollow events := by
  constructor
  · intro same
    have increasing := inOrder_increasing apart
    rw [same, List.pairwise_reverse] at increasing
    exact (ordered.and increasing).imp fun both => (RecordedEvent.position_lt both.1).mp both.2
  · intro follow
    refine inOrder_eq ?_ (List.reverse_perm events)
    rw [List.pairwise_reverse]
    exact (ordered.and follow).imp fun both => (RecordedEvent.position_lt both.1).mpr both.2

/-- Read backwards, the events tell the classifications from the current one on. -/
theorem Recording.Sound.reverse_chained (sound : recording.Sound) (serviceRequestId : String) :
    ((recording.historyOf serviceRequestId).reverse.IsChain fun item next =>
      item.priorContractProductLineId = next.newContractProductLineId) ∧
    (recording.historyOf serviceRequestId).reverse.head?.bind (·.newContractProductLineId) =
      (recording.store.sla.rows.current? serviceRequestId).map (·.contractProductLineId) := by
  have stored : classifications.of recording.store.sla.rows.events serviceRequestId =
      (recording.historyOf serviceRequestId).map (·.toClassificationEvent) := by
    rw [← sound.stored, History.Reading.of, List.filter_map]
    rfl
  have chained := sound.told.chained serviceRequestId
  have latest := sound.told.latest serviceRequestId
  rw [stored, List.isChain_map] at chained
  rw [History.Reading.latest, stored, List.getLast?_map, Option.bind_map] at latest
  rw [List.isChain_reverse, List.head?_reverse]
  exact ⟨chained, latest⟩

end Pages

/-- **The history shows every classification event once.** After any run of the commands,
under a clock that does not go back, the pages of any size show every event of a Service
Request once, by descending second and id. That is newest first exactly when within each
second the ids follow the commands, and then each item continues the next and the first one
left the current classification. -/
theorem classification_history_lists_every_event (python : PythonLibrary)
    (library : TextLibrary) (unicode : Reference.UnicodeMatch) {recording : Recording}
    (reached : Reachable Recording.Empty (RecordingStep python library unicode) recording)
    {serviceRequestId : String} (canonical : isUuid4 serviceRequestId)
    (known : serviceRequestId ∈
      recording.store.tickets.rows.serviceRequests.map (·.serviceRequestId))
    {limit : Nat} (low : 1 ≤ limit) (high : limit ≤ 500) :
    let rows := recording.historyOf serviceRequestId
    (∀ cursor, classificationHistory recording serviceRequestId cursor limit =
      .ok ⟨page RecordedEvent.position rows limit cursor, rows.length⟩) ∧
    ∃ visited, Walk RecordedEvent.position rows limit none visited ∧ visited.Perm rows ∧
      visited.Pairwise (fun item next => item.position < next.position) ∧
      (visited = rows.reverse ↔ IdsFollow rows) ∧
      (IdsFollow rows →
        visited.IsChain (fun item next =>
          item.priorContractProductLineId = next.newContractProductLineId) ∧
        visited.head?.bind (·.newContractProductLineId) =
          (recording.store.sla.rows.current? serviceRequestId).map (·.contractProductLineId)) := by
  have sound := sound_of_recorded reached
  have apart := sound.positions_nodup serviceRequestId
  have commits : inOrder RecordedEvent.position (recording.historyOf serviceRequestId) =
      (recording.historyOf serviceRequestId).reverse ↔ _ :=
    inOrder_eq_reverse (sound.ordered.filter _) apart
  refine ⟨fun cursor => ?_, _, walk_inOrder apart low, inOrder_perm, inOrder_increasing apart,
    commits, fun follow => ?_⟩
  · simp [classificationHistory, requireUuid4, canonical, ensure, low, high, known, bind,
      Except.bind, pure, Except.pure]
  · rw [commits.mpr follow]
    exact sound.reverse_chained serviceRequestId

/-! ## Two commands in one second -/

/-- Classified as `a`, and within the same second as `b` under a lesser event id. -/
def sameSecond : Recording :=
  (Recording.after ⟨unclassifiedSample, []⟩ classifiedSample 100).after reclassifiedSample 100

/-- The same a second later. -/
def nextSecond : Recording :=
  (Recording.after ⟨unclassifiedSample, []⟩ classifiedSample 100).after reclassifiedSample 101

theorem reclassified_reached {now : Nat} (later : 100 ≤ now) : Reachable Recording.Empty
    (RecordingStep oneDigest plainLibrary plainUnicode)
    ((Recording.after ⟨unclassifiedSample, []⟩ classifiedSample 100).after reclassifiedSample
      now) := by
  have first : Reachable Recording.Empty (RecordingStep oneDigest plainLibrary plainUnicode)
      (Recording.after ⟨unclassifiedSample, []⟩ classifiedSample 100) :=
    .step (.start ⟨⟨rfl, rfl⟩, rfl⟩) (.committed 100 (.classified _ _ _ trivial) (by simp))
  have recorded : ∀ event ∈ (Recording.after ⟨unclassifiedSample, []⟩ classifiedSample 100).events,
      event.recordedAtUtc ≤ 100 := by decide +kernel
  exact first.step (.committed now (.classified _ _ _ trivial) fun event inside =>
    (recorded event inside).trans later)

/-- The history opens with the event of the first command, which left `a`, though `b` is
current. -/
theorem same_second_breaks_the_chain :
    Reachable Recording.Empty (RecordingStep oneDigest plainLibrary plainUnicode) sameSecond ∧
    ((classificationHistory sameSecond (sampleUuid '1') none 500).toOption.map fun result =>
      result.page.items.map (·.newContractProductLineId)) =
        some [some (sampleUuid 'a'), some (sampleUuid 'b')] ∧
    (sameSecond.store.sla.rows.current? (sampleUuid '1')).map (·.contractProductLineId) =
      some (sampleUuid 'b') :=
  ⟨reclassified_reached le_rfl, by decide +kernel, by decide +kernel⟩

/-- Both events are shown once, and where the second comes a second later, in the order they
continue each other. -/
theorem sameSecond_lists_every_event :
    (∃ visited, Walk RecordedEvent.position (sameSecond.historyOf (sampleUuid '1')) 1 none visited ∧
      visited.Perm (sameSecond.historyOf (sampleUuid '1'))) ∧
    ∃ visited, Walk RecordedEvent.position (nextSecond.historyOf (sampleUuid '1')) 1 none visited ∧
      visited.IsChain (fun item next =>
        item.priorContractProductLineId = next.newContractProductLineId) ∧
      visited.head?.bind (·.newContractProductLineId) = some (sampleUuid 'b') := by
  have canonical : isUuid4 (sampleUuid '1') := by decide +kernel
  constructor
  · obtain ⟨-, visited, walk, all, -⟩ := classification_history_lists_every_event oneDigest
      plainLibrary plainUnicode (reclassified_reached le_rfl) canonical (by decide +kernel)
      (le_refl 1) (by omega)
    exact ⟨visited, walk, all⟩
  · obtain ⟨-, visited, walk, -, -, -, follows⟩ := classification_history_lists_every_event oneDigest
      plainLibrary plainUnicode (reclassified_reached (Nat.le_succ 100)) canonical
      (by decide +kernel) (le_refl 1) (by omega)
    obtain ⟨chained, latest⟩ := follows (by unfold IdsFollow; decide +kernel)
    exact ⟨visited, walk, chained, latest.trans (by decide +kernel)⟩

end Soma.ProductLineSla
