import Soma.Inventory.SpareNeeds
import Soma.Theory.Execution

/-!
Who owns the active key of a Service Request and a part, over every run of the
commands on Spare Needs. A command touches the rows of one Need at most, so what
holds of each Need is shown for the one it touches. Only the quantity command
touches a removed Need: it asks for no state.
-/

namespace Soma.Inventory

open Foundation Transaction Execution Rows

/-! ## The rows of one Need -/

structure NeedView where
  need : Option SpareNeedRow
  projection : Option NeedProjection
  keys : List ActiveKey
  contributors : List NeedContributor
  events : List NeedEvent
  deriving DecidableEq

def NeedTables.viewOf (tables : NeedTables) (spareNeedId : String) : NeedView where
  need := tables.need? spareNeedId
  projection := tables.projection? spareNeedId
  keys := tables.activeKeys.filter (·.spareNeedId = spareNeedId)
  contributors := tables.contributors.filter (·.spareNeedId = spareNeedId)
  events := tables.events.filter (·.spareNeedId = spareNeedId)

def NeedTables.stateOf (tables : NeedTables) (spareNeedId : String) : Option NeedState :=
  (tables.projection? spareNeedId).map (·.lifecycleState)

/-- What the rows of one Need say together. -/
structure NeedView.Sound (view : NeedView) : Prop where
  projected : view.projection.isSome ↔ view.need.isSome
  owner : ∀ need, view.need = some need → ∀ projection, view.projection = some projection →
    (projection.lifecycleState = .active ↔ need.key ∈ view.keys)
  own : ∀ key ∈ view.keys, ∃ need, view.need = some need ∧ key = need.key
  counted : ∀ projection, view.projection = some projection →
    projection.contributorCount = view.contributors.countP (·.active)
  absent : view.need = none → view.contributors = []

/-- What a run keeps of the tables. -/
structure NeedSound (tables : NeedTables) : Prop where
  needs : (tables.needs.map (·.spareNeedId)).Nodup
  projections : (tables.projections.map (·.spareNeedId)).Nodup
  pairs : (tables.activeKeys.map ActiveKey.pair).Nodup
  devices : (activeDevices tables.contributors).Nodup
  views : ∀ spareNeedId, (tables.viewOf spareNeedId).Sound

/-- Only rows of one Need are written. -/
def Touches (spareNeedId : String) (tables next : NeedTables) : Prop :=
  ∀ other, other ≠ spareNeedId → next.viewOf other = tables.viewOf other

section Views

variable {tables next : NeedTables} {spareNeedId : String}

variable {projection : NeedProjection}

theorem NeedView.sound_some {need : SpareNeedRow} {keys : List ActiveKey}
    {contributors : List NeedContributor} {events : List NeedEvent}
    (owner : projection.lifecycleState = .active ↔ need.key ∈ keys)
    (own : ∀ key ∈ keys, key = need.key)
    (counted : projection.contributorCount = contributors.countP (·.active)) :
    NeedView.Sound ⟨some need, some projection, keys, contributors, events⟩ where
  projected := by simp
  owner row same projected found := by
    cases same
    cases found
    exact owner
  own key inside := ⟨need, rfl, own key inside⟩
  counted projected found := by
    cases found
    exact counted
  absent missing := by cases missing

theorem NeedSound.held (sound : NeedSound tables) (held : tables.need? spareNeedId = some need)
    (found : tables.projection? spareNeedId = some projection) :
    (projection.lifecycleState = .active ↔
        need.key ∈ tables.activeKeys.filter (·.spareNeedId = spareNeedId)) ∧
      (∀ key ∈ tables.activeKeys.filter (·.spareNeedId = spareNeedId), key = need.key) ∧
      projection.contributorCount =
        (tables.contributors.filter (·.spareNeedId = spareNeedId)).countP (·.active) := by
  have view := sound.views spareNeedId
  refine ⟨view.owner need held projection found, ?_, view.counted projection found⟩
  intro key inside
  obtain ⟨row, same, owns⟩ := view.own key inside
  change tables.need? spareNeedId = some row at same
  rw [held] at same
  cases same
  exact owns

theorem NeedSound.after (sound : NeedSound tables) (touches : Touches spareNeedId tables next)
    (needs : (next.needs.map (·.spareNeedId)).Nodup)
    (projections : (next.projections.map (·.spareNeedId)).Nodup)
    (pairs : (next.activeKeys.map ActiveKey.pair).Nodup)
    (devices : (activeDevices next.contributors).Nodup)
    (view : (next.viewOf spareNeedId).Sound) : NeedSound next where
  needs := needs
  projections := projections
  pairs := pairs
  devices := devices
  views other := by
    by_cases same : other = spareNeedId
    · rw [same]
      exact view
    · rw [touches other same]
      exact sound.views other

theorem activeContributors_length : (tables.activeContributors spareNeedId).length =
      (tables.viewOf spareNeedId).contributors.countP (·.active) := by
  rw [NeedTables.activeContributors, List.length_insertionSort, List.length_map,
    NeedTables.viewOf, List.countP_filter, List.countP_eq_length_filter]
  congr 1
  refine List.filter_congr fun row _ => ?_
  simp [Bool.and_comm]

theorem joined?_eq_some :
    tables.joined? spareNeedId = some (need, projection) ↔
      tables.need? spareNeedId = some need ∧ tables.projection? spareNeedId = some projection := by
  simp only [NeedTables.joined?, Option.bind_eq_bind, Option.bind_eq_some_iff, pure,
    Option.some.injEq, Prod.mk.injEq]
  constructor
  · rintro ⟨_, held, _, found, rfl, rfl⟩
    exact ⟨held, found⟩
  · rintro ⟨held, found⟩
    exact ⟨need, held, projection, found, rfl, rfl⟩

end Views

/-! ## What a command does -/

/-- The rows of a removed Need stay as they are. -/
def RemovedKept (tables next : NeedTables) : Prop :=
  ∀ spareNeedId, tables.stateOf spareNeedId = some .removed →
    next.viewOf spareNeedId = tables.viewOf spareNeedId

/-- A command on a Need that is not removed. -/
structure NeedKept (tables next : NeedTables) : Prop where
  sound : NeedSound next
  removed : RemovedKept tables next

section Operations

variable {tables next : NeedTables} {spareNeedId : String}

theorem RemovedKept.refl (tables : NeedTables) : RemovedKept tables tables := fun _ _ => rfl

theorem NeedKept.refl (sound : NeedSound tables) : NeedKept tables tables :=
  ⟨sound, .refl tables⟩

theorem NeedKept.of_touches (sound : NeedSound next) (touches : Touches spareNeedId tables next)
    (standing : tables.stateOf spareNeedId ≠ some .removed) : NeedKept tables next where
  sound := sound
  removed other gone := by
    refine touches other fun same => standing ?_
    rw [← same]
    exact gone

variable {projection : NeedProjection}

theorem stateOf_eq (found : tables.projection? spareNeedId = some projection) :
    tables.stateOf spareNeedId = some projection.lifecycleState := by
  rw [NeedTables.stateOf, found]
  rfl

theorem need?_eq_none (fresh : spareNeedId ∉ tables.needs.map (·.spareNeedId)) :
    tables.need? spareNeedId = none := by
  rw [NeedTables.need?, List.find?_eq_none]
  intro row inside same
  rw [decide_eq_true_eq] at same
  exact fresh (List.mem_map.mpr ⟨row, inside, same⟩)

theorem insertActiveKey_ok :
    insertActiveKey rows row = .ok added ↔ row.spareNeedId ∉ rows.map (·.spareNeedId) ∧
      row.pair ∉ rows.map ActiveKey.pair ∧ added = rows ++ [row] := by
  simp only [insertActiveKey, except_bind_ok, ensure_ok, insertKeyed_ok]
  constructor
  · rintro ⟨_, fresh, rest⟩
    exact ⟨fresh, rest⟩
  · rintro ⟨fresh, rest⟩
    exact ⟨(), fresh, rest⟩

theorem insertContributor_ok (inserted : insertContributor rows row = .ok added)
    (devices : (activeDevices rows).Nodup) :
    (activeDevices added).Nodup ∧ added = rows ++ [row] := by
  simp only [insertContributor, except_ok, insertKeyed_ok] at inserted
  obtain ⟨single, -, rfl⟩ := inserted
  refine ⟨?_, rfl⟩
  rw [activeDevices, List.filter_append]
  by_cases active : row.active = true
  · have one : [row].filter (·.active) = [row] := by simp [active]
    rw [one]
    exact nodup_concat devices (single active)
  · have none : [row].filter (·.active) = [] := by simp [active]
    rw [none, List.append_nil]
    exact devices

/-- The tables with a new Need, active from the start. -/
def NeedTables.opened (tables : NeedTables) (need : SpareNeedRow) (event : NeedEvent)
    (added : List NeedContributor) (projection : NeedProjection) : NeedTables :=
  { tables with
    needs := tables.needs ++ [need]
    events := tables.events ++ [event]
    activeKeys := tables.activeKeys ++ [need.key]
    contributors := tables.contributors ++ added
    projections := tables.projections ++ [projection] }

variable {need : SpareNeedRow}

theorem touches_opened {event : NeedEvent} (own : ∀ row ∈ added, row.spareNeedId = need.spareNeedId)
    (eventOf : event.spareNeedId = need.spareNeedId)
    (projectionOf : projection.spareNeedId = need.spareNeedId) :
    Touches need.spareNeedId tables (tables.opened need event added projection) := by
  intro other different
  have apart : need.spareNeedId ≠ other := Ne.symm different
  have keyApart : need.key.spareNeedId ≠ other := apart
  have none : added.filter (·.spareNeedId = other) = [] := by
    rw [List.filter_eq_nil_iff]
    intro row inside
    simp [own row inside, apart]
  simp [NeedTables.opened, NeedTables.viewOf, NeedTables.need?, NeedTables.projection?,
    List.find?_append, apart, keyApart, eventOf, projectionOf, none]

theorem NeedSound.opened {event : NeedEvent} (sound : NeedSound tables)
    (fresh : need.spareNeedId ∉ tables.needs.map (·.spareNeedId))
    (unprojected : need.spareNeedId ∉ tables.projections.map (·.spareNeedId))
    (unowned : need.key.pair ∉ tables.activeKeys.map ActiveKey.pair)
    (own : ∀ row ∈ added, row.spareNeedId = need.spareNeedId)
    (active : ∀ row ∈ added, row.active = true)
    (devices : (activeDevices (tables.contributors ++ added)).Nodup)
    (eventOf : event.spareNeedId = need.spareNeedId)
    (projectionOf : projection.spareNeedId = need.spareNeedId)
    (state : projection.lifecycleState = .active)
    (count : projection.contributorCount = added.length) :
    NeedKept tables (tables.opened need event added projection) := by
  have missing : tables.need? need.spareNeedId = none := need?_eq_none fresh
  have before := sound.views need.spareNeedId
  have unseen : tables.projection? need.spareNeedId = none := by
    have hidden := before.projected
    rw [NeedTables.viewOf, missing] at hidden
    simpa using hidden
  have alone : tables.contributors.filter (·.spareNeedId = need.spareNeedId) = [] :=
    before.absent missing
  have touches : Touches need.spareNeedId tables (tables.opened need event added projection) :=
    touches_opened own eventOf projectionOf
  have view : (tables.opened need event added projection).viewOf need.spareNeedId =
      ⟨some need, some projection,
        (tables.activeKeys.filter (·.spareNeedId = need.spareNeedId)) ++ [need.key], added,
        (tables.events.filter (·.spareNeedId = need.spareNeedId)) ++ [event]⟩ := by
    have all : added.filter (·.spareNeedId = need.spareNeedId) = added := by
      rw [List.filter_eq_self]
      intro row inside
      simp [own row inside]
    have keyOf : need.key.spareNeedId = need.spareNeedId := rfl
    rw [NeedTables.need?] at missing
    rw [NeedTables.projection?] at unseen
    simp [NeedTables.opened, NeedTables.viewOf, NeedTables.need?, NeedTables.projection?,
      List.find?_append, missing, unseen, alone, all, eventOf, projectionOf, keyOf]
  have standing : tables.stateOf need.spareNeedId ≠ some .removed := by
    rw [NeedTables.stateOf, unseen]
    simp
  refine .of_touches (sound.after touches ?_ ?_ ?_ devices ?_) touches standing
  · exact nodup_concat sound.needs fresh
  · refine nodup_concat sound.projections ?_
    rw [projectionOf]
    exact unprojected
  · exact nodup_concat sound.pairs unowned
  · rw [view]
    constructor
    case projected => simp
    case owner =>
      intro row same projected found
      cases same
      cases found
      simp [state]
    case own =>
      intro key inside
      rcases Rows.mem_concat inside with old | new
      · obtain ⟨row, held, -⟩ := before.own key old
        rw [NeedTables.viewOf, missing] at held
        cases held
      · exact ⟨need, rfl, new⟩
    case counted =>
      intro projected found
      cases found
      rw [count, List.countP_eq_length.mpr active]
    case absent => simp

theorem NeedKept.trans (first : NeedKept tables next) (second : NeedKept next third) :
    NeedKept tables third where
  sound := second.sound
  removed spareNeedId gone := by
    have same := first.removed spareNeedId gone
    have still : next.stateOf spareNeedId = some .removed := by
      have projected : next.projection? spareNeedId = tables.projection? spareNeedId :=
        congrArg NeedView.projection same
      rw [NeedTables.stateOf, projected]
      exact gone
    rw [second.removed spareNeedId still, same]

theorem NeedKept.parts (sound : NeedSound tables) (allocator : Option TrackingAllocator)
    (deviceParts : List DevicePartUnit) :
    NeedKept tables { tables with allocator, deviceParts } where
  sound := ⟨sound.needs, sound.projections, sound.pairs, sound.devices, sound.views⟩
  removed _ _ := rfl

theorem allocateDevicePartSequence_kept {sequence : Nat} (sound : NeedSound tables)
    (ran : allocateDevicePartSequence tables = .ok (next, sequence)) : NeedKept tables next := by
  rw [allocateDevicePartSequence] at ran
  split at ran
  · cases ran
  · simp only [except_ok, Prod.mk.injEq] at ran
    obtain ⟨-, rfl, -⟩ := ran
    exact .parts sound _ _

theorem insertDevicePart_kept {sequence : Nat} (sound : NeedSound tables)
    (ran : insertDevicePart tables devicePartUnitId serviceRequestId bomKey sequence = .ok next) :
    NeedKept tables next := by
  simp only [insertDevicePart, except_ok] at ran
  obtain ⟨-, _, -, rfl⟩ := ran
  exact .parts sound _ _

variable {call : NeedCall}

theorem createManualNeed_kept (sound : NeedSound tables)
    (ran : createManualNeed call tables spareNeedId serviceRequestId bomCode bomKey
      plannedQuantity = .ok next) : NeedKept tables next := by
  simp only [createManualNeed, except_ok, insertKeyed_ok, insertActiveKey_ok] at ran
  obtain ⟨-, -, _, ⟨fresh, rfl⟩, _, ⟨-, rfl⟩, _, ⟨-, unowned, rfl⟩, _, ⟨unprojected, rfl⟩,
    rfl⟩ := ran
  have kept : NeedKept tables (tables.opened
      ⟨spareNeedId, serviceRequestId, bomCode, bomKey, plannedQuantity, .manual⟩
      ⟨call.newUuid4 1, spareNeedId, .created, some plannedQuantity, none⟩ []
      ⟨spareNeedId, .active, plannedQuantity, 0, 1⟩) :=
    sound.opened fresh unprojected unowned (by simp) (by simp) (by simpa using sound.devices) rfl
      rfl rfl rfl
  rw [NeedTables.opened, List.append_nil] at kept
  exact kept

theorem createNeedWithContributor_kept (sound : NeedSound tables)
    (ran : createNeedWithContributor call tables serviceRequestId bomCode bomKey devicePartUnitId =
      .ok next) : NeedKept tables next := by
  simp only [createNeedWithContributor, except_ok, insertKeyed_ok, insertActiveKey_ok] at ran
  obtain ⟨_, ⟨fresh, rfl⟩, _, ⟨-, rfl⟩, _, ⟨-, unowned, rfl⟩, _, contributed, _, ⟨unprojected, rfl⟩,
    rfl⟩ := ran
  obtain ⟨devices, rfl⟩ := insertContributor_ok contributed sound.devices
  exact sound.opened fresh unprojected unowned (by simp) (by simp) devices rfl rfl rfl rfl

variable {change : NeedProjection → NeedProjection} {activeKeys : List ActiveKey}

section

variable {events : List NeedEvent} {contributors : List NeedContributor}
  (keeps : ∀ row, (change row).spareNeedId = row.spareNeedId)

include keeps

theorem touches_update
    (eventsOf : ∀ other, other ≠ spareNeedId →
      events.filter (·.spareNeedId = other) = tables.events.filter (·.spareNeedId = other))
    (keysOf : ∀ other, other ≠ spareNeedId →
      activeKeys.filter (·.spareNeedId = other) = tables.activeKeys.filter (·.spareNeedId = other))
    (contributorsOf : ∀ other, other ≠ spareNeedId →
      contributors.filter (·.spareNeedId = other) =
        tables.contributors.filter (·.spareNeedId = other)) :
    Touches spareNeedId tables { tables with
      events, activeKeys, contributors
      projections := tables.updateProjection spareNeedId change } := by
  intro other different
  have projected := find?_update tables.projections (·.spareNeedId) keeps spareNeedId other
  rw [if_neg different] at projected
  rw [NeedTables.viewOf, NeedTables.viewOf, NeedView.mk.injEq]
  exact ⟨rfl, projected, keysOf other different, contributorsOf other different,
    eventsOf other different⟩

theorem updateProjection_find? :
    (tables.updateProjection spareNeedId change).find? (·.spareNeedId = spareNeedId) =
      (tables.projection? spareNeedId).map change := by
  have projected := find?_update tables.projections (·.spareNeedId) keeps spareNeedId spareNeedId
  rw [if_pos rfl] at projected
  exact projected

/-- What the rows of the Need an update is about have to say. -/
theorem sound_update (held : tables.need? spareNeedId = some need)
    (found : tables.projection? spareNeedId = some projection)
    (owner : (change projection).lifecycleState = .active ↔
      need.key ∈ activeKeys.filter (·.spareNeedId = spareNeedId))
    (own : ∀ key ∈ activeKeys.filter (·.spareNeedId = spareNeedId), key = need.key)
    (counted : (change projection).contributorCount =
      (contributors.filter (·.spareNeedId = spareNeedId)).countP (·.active)) :
    (({ tables with
      events, activeKeys, contributors
      projections := tables.updateProjection spareNeedId change } : NeedTables).viewOf
        spareNeedId).Sound := by
  have projected : (tables.updateProjection spareNeedId change).find?
      (·.spareNeedId = spareNeedId) = some (change projection) := by
    rw [updateProjection_find? keeps, found]
    rfl
  have view : ({ tables with
      events, activeKeys, contributors
      projections := tables.updateProjection spareNeedId change } : NeedTables).viewOf spareNeedId =
      ⟨some need, some (change projection), activeKeys.filter (·.spareNeedId = spareNeedId),
        contributors.filter (·.spareNeedId = spareNeedId),
        events.filter (·.spareNeedId = spareNeedId)⟩ := by
    rw [NeedTables.viewOf, NeedView.mk.injEq]
    exact ⟨held, projected, rfl, rfl, rfl⟩
  rw [view]
  exact NeedView.sound_some owner own counted

end

theorem NeedSound.updated (sound : NeedSound tables)
    (keeps : ∀ row, (change row).spareNeedId = row.spareNeedId) :
    ((tables.updateProjection spareNeedId change).map (·.spareNeedId)).Nodup := by
  rw [NeedTables.updateProjection, map_update _ keeps]
  exact sound.projections

theorem NeedSound.need_of_projection (sound : NeedSound tables)
    (found : tables.projection? spareNeedId = some projection) :
    ∃ need, tables.need? spareNeedId = some need := by
  have present : (tables.viewOf spareNeedId).projection.isSome := by
    rw [NeedTables.viewOf, found]
    rfl
  exact Option.isSome_iff_exists.mp ((sound.views spareNeedId).projected.mp present)

variable {reasonCode : String}

theorem changePlannedQuantity_sound (sound : NeedSound tables)
    (ran : changePlannedQuantity call tables spareNeedId baseRevision plannedQuantity reasonCode =
      .ok next) : NeedSound next ∧ Touches spareNeedId tables next := by
  rw [changePlannedQuantity] at ran
  split at ran
  · cases ran
  · rename_i projection found
    simp only [except_ok, insertKeyed_ok] at ran
    obtain ⟨-, -, _, ⟨-, rfl⟩, returned⟩ := ran
    obtain ⟨_, held⟩ := sound.need_of_projection found
    obtain ⟨owner, own, counted⟩ := sound.held held found
    have touches : Touches spareNeedId tables next := by
      rw [← returned]
      exact touches_update (fun _ => rfl)
        (fun other different => filter_concat_ne NeedEvent.spareNeedId different) (fun _ _ => rfl)
        (fun _ _ => rfl)
    have view : (next.viewOf spareNeedId).Sound := by
      rw [← returned]
      exact sound_update (fun _ => rfl) held found owner own counted
    subst returned
    exact ⟨sound.after touches sound.needs (sound.updated fun _ => rfl) sound.pairs sound.devices
      view, touches⟩

theorem addContributor_kept (sound : NeedSound tables)
    (ran : addContributor call tables spareNeedId serviceRequestId bomKey devicePartUnitId =
      .ok next) : NeedKept tables next := by
  rw [addContributor] at ran
  split at ran
  · cases ran
  · rename_i need projection joined
    obtain ⟨held, found⟩ := joined?_eq_some.mp joined
    obtain ⟨owner, own, -⟩ := sound.held held found
    simp only [except_ok] at ran
    obtain ⟨-, active, ran⟩ := ran
    split at ran
    · split at ran <;> cases ran
    · simp only [except_ok] at ran
      obtain ⟨_, contributed, returned⟩ := ran
      obtain ⟨devices, rfl⟩ := insertContributor_ok contributed sound.devices
      have touches : Touches spareNeedId tables next := by
        rw [← returned]
        exact touches_update (fun _ => rfl) (fun _ _ => rfl) (fun _ _ => rfl)
          (fun other different => filter_concat_ne NeedContributor.spareNeedId different)
      have standing : tables.stateOf spareNeedId ≠ some .removed := by
        rw [stateOf_eq found, active]
        simp
      have view : (next.viewOf spareNeedId).Sound := by
        rw [← returned]
        exact sound_update (fun _ => rfl) held found owner own activeContributors_length
      subst returned
      exact .of_touches (sound.after touches sound.needs (sound.updated fun _ => rfl) sound.pairs
        devices view) touches standing

/-- What a lifecycle change makes of the key rows. -/
theorem moveActiveKey_ok (keyOf : need.spareNeedId = spareNeedId)
    (pairs : (tables.activeKeys.map ActiveKey.pair).Nodup) (owner : current = .active ↔
      need.key ∈ tables.activeKeys.filter (·.spareNeedId = spareNeedId))
    (own : ∀ key ∈ tables.activeKeys.filter (·.spareNeedId = spareNeedId), key = need.key)
    (moved : moveActiveKey tables.activeKeys need current target = .ok activeKeys) :
    (activeKeys.map ActiveKey.pair).Nodup ∧
      (∀ other, other ≠ spareNeedId → activeKeys.filter (·.spareNeedId = other) =
        tables.activeKeys.filter (·.spareNeedId = other)) ∧
      (target = .active ↔ need.key ∈ activeKeys.filter (·.spareNeedId = spareNeedId)) ∧
      ∀ key ∈ activeKeys.filter (·.spareNeedId = spareNeedId), key = need.key := by
  rw [moveActiveKey] at moved
  split at moved
  · rename_i leaves
    simp only [except_ok] at moved
    obtain ⟨-, rfl⟩ := moved
    refine ⟨pairs.sublist (List.filter_sublist.map _), ?_, ?_, ?_⟩
    · intro other different
      rw [List.filter_filter]
      refine List.filter_congr fun key _ => ?_
      by_cases same : key.spareNeedId = other
      · have apart : key ≠ need.key := by
          intro equal
          rw [equal] at same
          exact different (same.symm.trans keyOf)
        simp [same, apart]
      · simp [same]
    · simp [leaves.2]
    · intro key inside
      simp only [List.mem_filter, decide_eq_true_eq] at inside
      exact own key (List.mem_filter.mpr ⟨inside.1.1, by simpa using inside.2⟩)
  · split at moved
    · rename_i enters
      obtain ⟨-, unowned, rfl⟩ := insertActiveKey_ok.mp moved
      refine ⟨nodup_concat pairs unowned, ?_, ?_, ?_⟩
      · intro other different
        refine filter_concat_ne ActiveKey.spareNeedId ?_
        rw [show need.key.spareNeedId = spareNeedId from keyOf]
        exact different
      · have mine : need.key.spareNeedId = spareNeedId := keyOf
        simp [enters.2, mine]
      · intro key inside
        rw [List.filter_append, List.mem_append] at inside
        rcases inside with old | new
        · exact own key old
        · exact List.mem_singleton.mp (List.mem_filter.mp new).1
    · rename_i stays enters
      cases moved
      refine ⟨pairs, fun _ _ => rfl, ?_, own⟩
      rw [← owner]
      constructor
      · intro active
        by_contra other
        exact enters ⟨other, active⟩
      · intro active
        by_contra other
        exact stays ⟨active, other⟩

section

variable (sound : NeedSound tables)

include sound

theorem changeLifecycle_sound
    (ran : changeLifecycle call tables spareNeedId baseRevision action reasonCode = .ok next) :
    NeedSound next ∧ Touches spareNeedId tables next := by
  rw [changeLifecycle] at ran
  split at ran
  · cases ran
  · rename_i need projection joined
    obtain ⟨held, found⟩ := joined?_eq_some.mp joined
    obtain ⟨owner, own, counted⟩ := sound.held held found
    simp only [except_ok, insertKeyed_ok] at ran
    obtain ⟨-, -, _, ⟨-, rfl⟩, _, moved, returned⟩ := ran
    have keyOf := (key_of_find? held).2
    obtain ⟨pairs, apart, owner', own'⟩ := moveActiveKey_ok keyOf sound.pairs owner own moved
    have touches : Touches spareNeedId tables next := by
      rw [← returned]
      exact touches_update (fun _ => rfl)
        (fun other different => filter_concat_ne NeedEvent.spareNeedId different) apart
        (fun _ _ => rfl)
    have view : (next.viewOf spareNeedId).Sound := by
      rw [← returned]
      exact sound_update (fun _ => rfl) held found owner' own' counted
    subst returned
    exact ⟨sound.after touches sound.needs (sound.updated fun _ => rfl) pairs sound.devices view,
      touches⟩

theorem deleteNeed_sound (alone : tables.contributors.filter (·.spareNeedId = spareNeedId) = []) :
    NeedSound (tables.deleteNeed spareNeedId) ∧
      Touches spareNeedId tables (tables.deleteNeed spareNeedId) := by
  have touches : Touches spareNeedId tables (tables.deleteNeed spareNeedId) := by
    intro other different
    rw [NeedTables.viewOf, NeedTables.viewOf, NeedView.mk.injEq]
    exact ⟨find?_deleted SpareNeedRow.spareNeedId _ different,
      find?_deleted NeedProjection.spareNeedId _ different,
      filter_deleted ActiveKey.spareNeedId _ different, rfl,
      filter_deleted NeedEvent.spareNeedId _ different⟩
  have view : (tables.deleteNeed spareNeedId).viewOf spareNeedId = ⟨none, none, [], [], []⟩ := by
    rw [NeedTables.viewOf, NeedView.mk.injEq]
    refine ⟨?_, ?_, ?_, alone, ?_⟩
    · simp [NeedTables.need?, NeedTables.deleteNeed]
    · simp [NeedTables.projection?, NeedTables.deleteNeed]
    · simp [NeedTables.deleteNeed]
    · simp [NeedTables.deleteNeed]
  refine ⟨sound.after touches ?_ ?_ ?_ sound.devices ?_, touches⟩
  · exact sound.needs.sublist (List.filter_sublist.map _)
  · exact sound.projections.sublist (List.filter_sublist.map _)
  · exact sound.pairs.sublist (List.filter_sublist.map _)
  · rw [view]
    constructor <;> simp

theorem createSpareNeedDraft_kept
    (ran : createSpareNeedDraft call serviceRequestId bomCode bomKey plannedQuantity tables =
      .ok next) : NeedKept tables next := by
  simp only [createSpareNeedDraft, except_ok] at ran
  obtain ⟨-, -, -, ran⟩ := ran
  exact createManualNeed_kept sound ran

theorem registerDevicePartUnit_kept
    (ran : registerDevicePartUnit call serviceRequestId deviceReferenceId bomCode bomKey faulty
      tables = .ok next) : NeedKept tables next := by
  simp only [registerDevicePartUnit, except_ok, Prod.exists] at ran
  obtain ⟨-, _, _, allocated, _, inserted, ran⟩ := ran
  have first := allocateDevicePartSequence_kept sound allocated
  have second := first.trans (insertDevicePart_kept first.sound inserted)
  split at ran
  · split at ran
    · exact second.trans (createNeedWithContributor_kept second.sound ran)
    · exact second.trans (addContributor_kept second.sound ran)
  · cases ran
    exact second

theorem setSpareNeedPlannedQuantity_sound
    (ran : setSpareNeedPlannedQuantity call spareNeedId baseRevision plannedQuantity reasonCode
      tables = .ok next) : NeedSound next ∧ Touches spareNeedId tables next := by
  simp only [setSpareNeedPlannedQuantity, except_ok] at ran
  obtain ⟨-, -, ran⟩ := ran
  split at ran
  · cases ran
  · simp only [except_ok] at ran
    obtain ⟨-, ran⟩ := ran
    split at ran
    · cases ran
      exact ⟨sound, fun _ _ => rfl⟩
    · exact changePlannedQuantity_sound sound ran

theorem changeSpareNeedLifecycle_kept
    (ran : changeSpareNeedLifecycle call spareNeedId baseRevision action reasonCode tables =
      .ok next) : NeedKept tables next := by
  simp only [changeSpareNeedLifecycle, except_ok] at ran
  obtain ⟨-, ran⟩ := ran
  split at ran
  · cases ran
  · rename_i need projection joined
    simp only [except_ok] at ran
    obtain ⟨-, allowed, ran⟩ := ran
    obtain ⟨sound', touches⟩ := changeLifecycle_sound sound ran
    refine .of_touches sound' touches ?_
    rw [stateOf_eq (joined?_eq_some.mp joined).2]
    intro removed
    rw [Option.some.inj removed] at allowed
    cases allowed

theorem hardDeleteUntouchedNeed_kept
    (ran : hardDeleteUntouchedNeed call spareNeedId expectedRevision previewStands
      deliberateConfirmation tables = .ok next) : NeedKept tables next := by
  simp only [hardDeleteUntouchedNeed, except_ok] at ran
  obtain ⟨-, -, ran⟩ := ran
  split at ran
  · cases ran
  · rename_i need projection joined
    obtain ⟨held, found⟩ := joined?_eq_some.mp joined
    have keyOf := (key_of_find? held).2
    simp only [except_ok] at ran
    obtain ⟨clear, -, -, rfl⟩ := ran
    simp only [hardDeleteBlockers, List.map_eq_nil_iff, List.filter_eq_nil_iff, List.mem_cons,
      List.not_mem_nil, or_false, forall_eq_or_imp, forall_eq, keyOf] at clear
    obtain ⟨-, active, -, alone, -⟩ := clear
    have lone : tables.contributors.filter (·.spareNeedId = spareNeedId) = [] := by
      rw [List.filter_eq_nil_iff]
      simpa using alone
    obtain ⟨sound', touches⟩ := deleteNeed_sound sound lone
    refine .of_touches sound' touches ?_
    rw [stateOf_eq found]
    have state : projection.lifecycleState = .active := by simpa using active
    rw [state]
    simp

end

end Operations

/-! ## Runs -/

/-- The quantity command does not name a removed Need with its revision and another quantity. -/
def LeavesRemoved (tables : NeedTables) : NeedCommand → Prop
  | .setPlannedQuantity call spareNeedId baseRevision plannedQuantity _ =>
    ∀ projection, tables.projection? spareNeedId = some projection →
      projection.lifecycleState = .removed →
        ¬ (0 < baseRevision ∧ projection.revision = baseRevision ∧
          projection.plannedQuantity ≠ plannedQuantity ∧
          (1 ≤ plannedQuantity ∧ plannedQuantity ≤ 1000000) ∧
          call.newUuid4 0 ∉ tables.events.map (·.needEventId))
  | _ => True

variable {tables : NeedTables}

theorem execute_sound (sound : NeedSound tables) (command : NeedCommand) :
    NeedSound (command.execute tables) := by
  rw [NeedCommand.execute]
  split
  · rename_i next ran
    cases command with
    | createDraft => exact (createSpareNeedDraft_kept sound ran).sound
    | registerDevicePart => exact (registerDevicePartUnit_kept sound ran).sound
    | setPlannedQuantity => exact (setSpareNeedPlannedQuantity_sound sound ran).1
    | changeLifecycle => exact (changeSpareNeedLifecycle_kept sound ran).sound
    | hardDelete => exact (hardDeleteUntouchedNeed_kept sound ran).sound
  · exact sound

/-- The quantity command runs to its end exactly when it finds the Need with its revision, a
quantity in range and a fresh event. -/
theorem setPlannedQuantity_changes (sound : NeedSound tables) {call : NeedCall}
    (found : tables.projection? spareNeedId = some projection)
    (runs : 0 < baseRevision ∧ projection.revision = baseRevision ∧
      projection.plannedQuantity ≠ plannedQuantity ∧
      (1 ≤ plannedQuantity ∧ plannedQuantity ≤ 1000000) ∧
      call.newUuid4 0 ∉ tables.events.map (·.needEventId)) :
    ∃ next, setSpareNeedPlannedQuantity call spareNeedId baseRevision plannedQuantity reasonCode
      tables = .ok next ∧ next.projection? spareNeedId =
        some { projection with plannedQuantity, revision := baseRevision + 1 } := by
  obtain ⟨positive, revision, differs, range, fresh⟩ := runs
  obtain ⟨need, held⟩ := sound.need_of_projection found
  have joined : tables.joined? spareNeedId = some (need, projection) :=
    joined?_eq_some.mpr ⟨held, found⟩
  refine ⟨{ tables with
    events := tables.events ++ [⟨call.newUuid4 0, spareNeedId, .plannedQuantityChanged,
      some plannedQuantity, some reasonCode⟩]
    projections := tables.updateProjection spareNeedId fun row =>
      { row with plannedQuantity, revision := baseRevision + 1 } }, ?_, ?_⟩
  · simp only [setSpareNeedPlannedQuantity, except_ok, validateBaseRevision,
      validatePlannedQuantity, joined, differs, if_false]
    refine ⟨positive, range, revision, ?_⟩
    simp only [changePlannedQuantity, found, except_ok, insertKeyed_ok]
    exact ⟨revision, differs, _, ⟨fresh, rfl⟩, rfl⟩
  · refine Eq.trans (updateProjection_find? fun _ => rfl) ?_
    rw [found]
    rfl

/-- A quantity command that is neither refused nor complete leaves the tables alone. -/
theorem setPlannedQuantity_refused {tables : NeedTables} {call : NeedCall}
    (found : tables.projection? spareNeedId = some projection)
    (stays : ¬ (0 < baseRevision ∧ projection.revision = baseRevision ∧
      projection.plannedQuantity ≠ plannedQuantity ∧
      (1 ≤ plannedQuantity ∧ plannedQuantity ≤ 1000000) ∧
      call.newUuid4 0 ∉ tables.events.map (·.needEventId)))
    (ran : setSpareNeedPlannedQuantity call spareNeedId baseRevision plannedQuantity reasonCode
      tables = .ok next) : next = tables := by
  simp only [setSpareNeedPlannedQuantity, validateBaseRevision, validatePlannedQuantity,
    except_ok] at ran
  obtain ⟨positive, range, ran⟩ := ran
  split at ran
  · cases ran
  · rename_i need projection' joined
    have same := (joined?_eq_some.mp joined).2
    rw [found] at same
    cases same
    simp only [except_ok] at ran
    obtain ⟨revision, ran⟩ := ran
    split at ran
    · cases ran
      rfl
    · rename_i differs
      simp only [changePlannedQuantity, found, except_ok, insertKeyed_ok] at ran
      obtain ⟨-, -, -, ⟨fresh, -⟩, -⟩ := ran
      exact absurd ⟨positive, revision, differs, range, fresh⟩ stays

/-- A command leaves the removed Needs as they are exactly when the condition holds. -/
theorem execute_removed_iff (sound : NeedSound tables) (command : NeedCommand) :
    RemovedKept tables (command.execute tables) ↔ LeavesRemoved tables command := by
  cases command with
  | createDraft =>
    refine iff_of_true ?_ trivial
    rw [NeedCommand.execute]
    split
    · rename_i next ran
      exact (createSpareNeedDraft_kept sound ran).removed
    · exact .refl tables
  | registerDevicePart =>
    refine iff_of_true ?_ trivial
    rw [NeedCommand.execute]
    split
    · rename_i next ran
      exact (registerDevicePartUnit_kept sound ran).removed
    · exact .refl tables
  | changeLifecycle =>
    refine iff_of_true ?_ trivial
    rw [NeedCommand.execute]
    split
    · rename_i next ran
      exact (changeSpareNeedLifecycle_kept sound ran).removed
    · exact .refl tables
  | hardDelete =>
    refine iff_of_true ?_ trivial
    rw [NeedCommand.execute]
    split
    · rename_i next ran
      exact (hardDeleteUntouchedNeed_kept sound ran).removed
    · exact .refl tables
  | setPlannedQuantity call spareNeedId baseRevision plannedQuantity reasonCode =>
    constructor
    · intro kept projection found removed runs
      obtain ⟨next, ran, changed⟩ := setPlannedQuantity_changes sound found runs
      have same := kept spareNeedId (by rw [stateOf_eq found, removed])
      have projected : next.projection? spareNeedId = tables.projection? spareNeedId := by
        rw [NeedCommand.execute, NeedCommand.run, ran] at same
        exact congrArg NeedView.projection same
      rw [changed, found] at projected
      have revision := congrArg NeedProjection.revision (Option.some.inj projected)
      have held := runs.2.1
      simp only at revision
      omega
    · intro leaves
      rw [NeedCommand.execute]
      split
      · rename_i next ran
        by_cases gone : tables.stateOf spareNeedId = some .removed
        · obtain ⟨projection, found, removed⟩ := Option.map_eq_some_iff.mp gone
          have refused := leaves projection found removed
          rw [setPlannedQuantity_refused found refused ran]
          exact .refl tables
        · obtain ⟨sound', touches⟩ := setSpareNeedPlannedQuantity_sound sound ran
          exact (NeedKept.of_touches sound' touches gone).removed
      · exact .refl tables

/-- No Need, whatever device parts are registered. -/
def NoNeeds (tables : NeedTables) : Prop :=
  tables.needs = [] ∧ tables.events = [] ∧ tables.projections = [] ∧ tables.activeKeys = [] ∧
    tables.contributors = []

/-- A command that is allowed in the tables it meets. -/
def NeedStep (allowed : NeedTables → NeedCommand → Prop) (tables next : NeedTables) : Prop :=
  ∃ command, allowed tables command ∧ command.execute tables = next

/-- Whatever the command. -/
def AnyNeedCommand : NeedTables → NeedCommand → Prop := fun _ _ => True

theorem noNeeds_sound (empty : NoNeeds tables) : NeedSound tables := by
  obtain ⟨needs, events, projections, activeKeys, contributors⟩ := empty
  have view : ∀ spareNeedId, tables.viewOf spareNeedId = ⟨none, none, [], [], []⟩ := by
    intro spareNeedId
    simp [NeedTables.viewOf, NeedTables.need?, NeedTables.projection?, needs, events, projections,
      activeKeys, contributors]
  constructor
  case needs => simp [needs]
  case projections => simp [projections]
  case pairs => simp [activeKeys]
  case devices => simp [activeDevices, contributors]
  case views =>
    intro spareNeedId
    rw [view]
    constructor <;> simp

theorem reachable_needs {allowed : NeedTables → NeedCommand → Prop}
    (reached : Reachable NoNeeds (NeedStep allowed) tables) : NeedSound tables := by
  refine reached.invariant NeedSound (fun _ => noNeeds_sound) ?_
  rintro tables _ sound ⟨command, -, rfl⟩
  exact execute_sound sound command

theorem later_removed (sound : NeedSound tables)
    (later : Later (NeedStep LeavesRemoved) tables next) : RemovedKept tables next := by
  have kept : NeedKept tables next := by
    induction later with
    | refl => exact .refl sound
    | tail earlier stepped ih =>
      obtain ⟨command, leaves, rfl⟩ := stepped
      have removed := (execute_removed_iff ih.sound command).mpr leaves
      exact ih.trans ⟨execute_sound ih.sound command, removed⟩
  exact kept.removed

/-! ## Authority -/

/-- Who is active for a Service Request and a part, and what counts for it. -/
structure NeedAuthority (tables : NeedTables) : Prop where
  single : ∀ need ∈ tables.needs, ∀ other ∈ tables.needs, need.key.pair = other.key.pair →
    tables.stateOf need.spareNeedId = some .active →
      tables.stateOf other.spareNeedId = some .active → need = other
  owner : ∀ need ∈ tables.needs,
    (tables.stateOf need.spareNeedId = some .active ↔ need.key ∈ tables.activeKeys)
  owned : ∀ key ∈ tables.activeKeys, ∃ need ∈ tables.needs, need.key = key
  counted : ∀ projection ∈ tables.projections,
    projection.contributorCount = (tables.activeContributors projection.spareNeedId).length
  contributes : ∀ row ∈ tables.contributors, ∀ other ∈ tables.contributors,
    row.active = true → other.active = true → row.devicePartUnitId = other.devicePartUnitId →
      row = other

theorem NeedSound.owner (sound : NeedSound tables) (inside : need ∈ tables.needs) :
    tables.stateOf need.spareNeedId = some .active ↔ need.key ∈ tables.activeKeys := by
  have held : tables.need? need.spareNeedId = some need := find?_eq_some sound.needs inside
  have present : (tables.viewOf need.spareNeedId).need.isSome := by
    rw [NeedTables.viewOf, held]
    rfl
  obtain ⟨_, found⟩ :=
    Option.isSome_iff_exists.mp ((sound.views need.spareNeedId).projected.mpr present)
  obtain ⟨owner, -, -⟩ := sound.held held found
  rw [stateOf_eq found, Option.some.injEq, owner, List.mem_filter]
  constructor
  · exact And.left
  · intro listed
    exact ⟨listed, decide_eq_true rfl⟩

theorem NeedSound.authority (sound : NeedSound tables) :
    NeedAuthority tables where
  single need inside other otherIn pair active otherActive := by
    have keys := List.inj_on_of_nodup_map sound.pairs ((sound.owner inside).mp active)
      ((sound.owner otherIn).mp otherActive) pair
    exact List.inj_on_of_nodup_map sound.needs inside otherIn (congrArg ActiveKey.spareNeedId keys)
  owner need inside := sound.owner inside
  owned key inside := by
    obtain ⟨need, held, same⟩ := (sound.views key.spareNeedId).own key
      (List.mem_filter.mpr ⟨inside, decide_eq_true rfl⟩)
    exact ⟨need, List.mem_of_find?_eq_some held, same.symm⟩
  counted projection inside := by
    rw [activeContributors_length]
    exact (sound.views projection.spareNeedId).counted projection
      (find?_eq_some sound.projections inside)
  contributes row inside other otherIn active otherActive same :=
    List.inj_on_of_nodup_map sound.devices (List.mem_filter.mpr ⟨inside, active⟩)
      (List.mem_filter.mpr ⟨otherIn, otherActive⟩) same

/-- In every state a run reaches the keys, the counts and the contributors agree.
A removed Need stays as it is along every further run whose quantity commands
leave removed Needs alone, and a quantity command that does not changes one. -/
theorem spare_need_authority {tables : NeedTables}
    (reached : Reachable NoNeeds (NeedStep AnyNeedCommand) tables) :
    NeedAuthority tables ∧
      (∀ next, Later (NeedStep LeavesRemoved) tables next → RemovedKept tables next) ∧
      ∀ command, RemovedKept tables (command.execute tables) ↔ LeavesRemoved tables command :=
  ⟨(reachable_needs reached).authority, fun _ => later_removed (reachable_needs reached),
    execute_removed_iff (reachable_needs reached)⟩

/-! ## A sample run -/

def runNeeds (commands : List NeedCommand) (tables : NeedTables) : NeedTables :=
  commands.foldl (fun tables command => command.execute tables) tables

theorem reachable_runNeeds (commands : List NeedCommand)
    (reached : Reachable NoNeeds (NeedStep AnyNeedCommand) tables) :
    Reachable NoNeeds (NeedStep AnyNeedCommand) (runNeeds commands tables) := by
  induction commands generalizing tables with
  | nil => exact reached
  | cons command commands ih => exact ih (reached.step ⟨command, trivial, rfl⟩)

/-- A call that draws two identifiers, with one Service Request around and nothing else. -/
def sampleNeedCall (first second : String) : NeedCall where
  surroundings := ⟨fun _ => true, fun _ => true, fun _ _ => true, [], [], [], []⟩
  newUuid4 drawn := if drawn = 0 then first else second

def sampleNeedId : String := "5f0c2a60-9a64-4f2e-8d50-0a51b3c1d2e3"

/-- A manual Need, cancelled and then removed. -/
def sampleNeedCommands : List NeedCommand := [
  .createDraft (sampleNeedCall sampleNeedId "7d1e9b34-52c8-4b0f-9c57-6f1f6e2a7b10")
    "1c3b6a52-7f0d-4e7b-8a39-d1f2c4b5a697" "BOM-1" "bom-1" 3,
  .changeLifecycle (sampleNeedCall "9e8d7c6b-5a49-4382-8b71-60f5e4d3c2b1" "") sampleNeedId 1
    .cancel "cancelled",
  .changeLifecycle (sampleNeedCall "2b4c6d8e-1f30-4a52-9b74-8c6d4e2f1a03" "") sampleNeedId 2
    .historyRemove "removed"]

def emptyNeedTables : NeedTables := ⟨some ⟨1, 1⟩, [], [], [], [], [], []⟩

def sampleRequantify : NeedCommand :=
  .setPlannedQuantity (sampleNeedCall "4a6c8e02-3b5d-4f70-8192-a3b4c5d6e7f8" "") sampleNeedId 3 5
    "recount"

def sampleNeedTables : NeedTables := runNeeds sampleNeedCommands emptyNeedTables

theorem reachable_sampleNeedTables : Reachable NoNeeds (NeedStep AnyNeedCommand) sampleNeedTables :=
  reachable_runNeeds _ (.start ⟨rfl, rfl, rfl, rfl, rfl⟩)

/-- The quantity of a removed Need can be changed. -/
theorem removed_need_requantified : ¬ ∀ tables next,
    Reachable NoNeeds (NeedStep AnyNeedCommand) tables →
      Later (NeedStep AnyNeedCommand) tables next → RemovedKept tables next := by
  intro kept
  have same := kept sampleNeedTables _ reachable_sampleNeedTables
    (.single ⟨sampleRequantify, trivial, rfl⟩) sampleNeedId
  exact absurd same (by decide +kernel)

theorem spare_need_authority_sample :
    sampleNeedTables.stateOf sampleNeedId = some .removed ∧ NeedAuthority sampleNeedTables ∧
      (∀ next, Later (NeedStep LeavesRemoved) sampleNeedTables next →
        RemovedKept sampleNeedTables next) ∧
      ∀ command, RemovedKept sampleNeedTables (command.execute sampleNeedTables) ↔
        LeavesRemoved sampleNeedTables command :=
  ⟨by decide +kernel, spare_need_authority reachable_sampleNeedTables⟩

end Soma.Inventory
