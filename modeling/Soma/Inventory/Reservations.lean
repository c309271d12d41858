import Soma.Inventory.Returns
import Soma.Theory.Pairing

/-!
Two tables tell which Spare Part Unit is reserved: the projection of a unit names
its reservation, and the row of a reservation names its unit. `Reserved` is the
invariant that they point at each other, that a unit is `reserved` exactly when it
holds a reservation and that the Task of a reservation is the one of its latest
event. The statements of `inventory/repositories/units.py` that write the two
tables one after the other keep it (`writeReservation_yields`,
`writeRelease_yields`, `writeReassignment_yields`).
-/

namespace Soma.Inventory

open Foundation Transaction Rows Soma.Pairing

/-! ## The two tables -/

/-- The reservation the projection of a unit names. -/
def heldIn (projections : List UnitProjection) (sparePartUnitId : String) : Option String :=
  (projections.find? (·.sparePartUnitId = sparePartUnitId)).bind (·.activeTaskAllocationId)

/-- The unit a reservation names. -/
def holderIn (allocations : List TaskAllocation) (allocationId : String) : Option String :=
  (allocations.find? (·.allocationId = allocationId)).map (·.sparePartUnitId)

/-- The event of a reservation that was recorded last. -/
def lastEventIn (events : List AllocationEvent) (allocationId : String) : Option AllocationEvent :=
  (events.filter (·.allocationId = allocationId)).getLast?

section Projections

variable {projections next : List UnitProjection} {old new : UnitProjection}

section

variable (keyed : (projections.map (·.sparePartUnitId)).Nodup)

include keyed

theorem heldIn_of_mem (inside : projection ∈ projections) :
    heldIn projections projection.sparePartUnitId = projection.activeTaskAllocationId := by
  rw [heldIn, find?_eq_some keyed inside]
  rfl

theorem heldIn_replaced (replaced : Replaced projections next old new)
    (same : new.sparePartUnitId = old.sparePartUnitId) :
    heldIn next =
      Function.update (heldIn projections) old.sparePartUnitId new.activeTaskAllocationId := by
  funext sparePartUnitId
  rw [heldIn, replaced.find?_eq keyed same,
    Function.update_apply]
  split
  · rfl
  · rfl

theorem heldIn_kept (replaced : Replaced projections next old new)
    (same : new.sparePartUnitId = old.sparePartUnitId)
    (kept : new.activeTaskAllocationId = old.activeTaskAllocationId) :
    heldIn next = heldIn projections := by
  rw [heldIn_replaced keyed replaced same, kept, ← heldIn_of_mem keyed replaced.mem_old,
    Function.update_eq_self]

end

theorem heldIn_concat {projection : UnitProjection}
    (fresh : projection.sparePartUnitId ∉ projections.map (·.sparePartUnitId))
    (free : projection.activeTaskAllocationId = none) :
    heldIn (projections ++ [projection]) = heldIn projections := by
  funext sparePartUnitId
  by_cases here : sparePartUnitId = projection.sparePartUnitId
  · subst here
    have missing : projections.find? (·.sparePartUnitId = projection.sparePartUnitId) = none :=
      List.find?_eq_none.mpr fun row inside same =>
        fresh (List.mem_map.mpr ⟨row, inside, of_decide_eq_true same⟩)
    rw [heldIn, heldIn, List.find?_append, missing]
    simp [free]
  · exact congrArg (·.bind (·.activeTaskAllocationId)) (find?_concat_ne here)

end Projections

section Allocations

variable {allocations next : List TaskAllocation}

theorem holderIn_of_mem (keyed : (allocations.map (·.allocationId)).Nodup)
    (inside : allocation ∈ allocations) :
    holderIn allocations allocation.allocationId = some allocation.sparePartUnitId := by
  rw [holderIn, find?_eq_some keyed inside]
  rfl

theorem holderIn_kept (keyed : (allocations.map (·.allocationId)).Nodup)
    (replaced : Replaced allocations next old new) (same : new.allocationId = old.allocationId)
    (kept : new.sparePartUnitId = old.sparePartUnitId) : holderIn next = holderIn allocations := by
  funext allocationId
  rw [holderIn, replaced.find?_eq keyed same]
  split
  · next here =>
    subst here
    rw [holderIn_of_mem keyed replaced.mem_old, Option.map_some, kept]
  · rfl

theorem holderIn_concat {allocation : TaskAllocation}
    (fresh : allocation.allocationId ∉ allocations.map (·.allocationId)) :
    holderIn (allocations ++ [allocation]) =
      Function.update (holderIn allocations) allocation.allocationId
        (some allocation.sparePartUnitId) := by
  funext allocationId
  rw [Function.update_apply]
  split
  · next here =>
    subst here
    have missing : allocations.find? (·.allocationId = allocation.allocationId) = none :=
      List.find?_eq_none.mpr fun row inside same =>
        fresh (List.mem_map.mpr ⟨row, inside, of_decide_eq_true same⟩)
    rw [holderIn, List.find?_append, missing]
    simp
  · next other =>
    exact congrArg (·.map (·.sparePartUnitId)) (find?_concat_ne other)

theorem holderIn_deleted (allocations : List TaskAllocation) (gone : String) :
    holderIn (allocations.filter fun row => row.allocationId ≠ gone) =
      Function.update (holderIn allocations) gone none := by
  funext allocationId
  rw [Function.update_apply]
  split
  · next here =>
    subst here
    have missing : (allocations.filter fun row => row.allocationId ≠ allocationId).find?
        (·.allocationId = allocationId) = none := by
      refine List.find?_eq_none.mpr fun row inside same => ?_
      exact of_decide_eq_true (List.mem_filter.mp inside).2 (of_decide_eq_true same)
    rw [holderIn, missing]
    rfl
  · next other =>
    rw [holderIn, find?_deleted TaskAllocation.allocationId allocations other]
    rfl

end Allocations

theorem lastEventIn_concat (events : List AllocationEvent) (event : AllocationEvent)
    (allocationId : String) :
    lastEventIn (events ++ [event]) allocationId =
      if event.allocationId = allocationId then some event
      else lastEventIn events allocationId := by
  rw [lastEventIn, List.filter_append]
  split
  · next here => simp [here]
  · next other => simp [other, lastEventIn]

/-! ## The invariant -/

/-- The reservation is the work of its latest event. -/
def TaskAllocation.RecordedIn (allocation : TaskAllocation) (events : List AllocationEvent) :
    Prop :=
  ∃ event, lastEventIn events allocation.allocationId = some event ∧
    event.allocationEventId = allocation.lastEventId ∧ event.taskId = allocation.taskId

/-- What the tables of units agree on between commands. -/
structure Reserved (tables : UnitTables) : Prop where
  keyedProjections : (tables.projections.map (·.sparePartUnitId)).Nodup
  keyedAllocations : (tables.allocations.map (·.allocationId)).Nodup
  described : ∀ projection ∈ tables.projections,
    projection.sparePartUnitId ∈ tables.units.map (·.sparePartUnitId)
  paired : Paired (heldIn tables.projections) (holderIn tables.allocations)
  reserved : ∀ projection ∈ tables.projections,
    projection.disposition = .reserved ↔ projection.activeTaskAllocationId ≠ none
  recorded : ∀ allocation ∈ tables.allocations, allocation.RecordedIn tables.allocationEvents

/-- The tables after a command: as they must be, with every unit still there. -/
structure Continues (before after : UnitTables) : Prop where
  reserved : Reserved after
  known : ∀ projection ∈ before.projections,
    projection.sparePartUnitId ∈ after.projections.map (·.sparePartUnitId)

theorem Continues.same {tables : UnitTables} (reserved : Reserved tables) :
    Continues tables tables :=
  ⟨reserved, fun _ inside => List.mem_map_of_mem inside⟩

theorem Continues.trans (early : Continues first second) (late : Continues second third) :
    Continues first third := by
  refine ⟨late.reserved, fun projection inside => ?_⟩
  obtain ⟨middle, there, same⟩ := List.mem_map.mp (early.known projection inside)
  rw [← same]
  exact late.known middle there

namespace Reserved

variable {tables : UnitTables}

section

variable (reserved : Reserved tables)

include reserved

theorem currentUnit (inside : projection ∈ tables.projections) :
    ∃ unit, tables.currentUnit projection.sparePartUnitId = some ⟨unit, projection⟩ := by
  obtain ⟨unit, listed, named⟩ := List.mem_map.mp (reserved.described projection inside)
  have found : (tables.units.find? (·.sparePartUnitId = projection.sparePartUnitId)).isSome :=
    List.find?_isSome.mpr ⟨unit, listed, decide_eq_true named⟩
  obtain ⟨found, first⟩ := Option.isSome_iff_exists.mp found
  refine ⟨found, ?_⟩
  have second : tables.projection? projection.sparePartUnitId = some projection :=
    find?_eq_some reserved.keyedProjections inside
  rw [UnitTables.currentUnit, first, second]
  rfl

theorem isSome_of_known (known : sparePartUnitId ∈ tables.projections.map (·.sparePartUnitId)) :
    (tables.currentUnit sparePartUnitId).isSome := by
  obtain ⟨_, inside, rfl⟩ := List.mem_map.mp known
  obtain ⟨_, found⟩ := reserved.currentUnit inside
  rw [found]
  rfl

theorem holder (inside : allocation ∈ tables.allocations) :
    ∃ projection ∈ tables.projections,
      projection.sparePartUnitId = allocation.sparePartUnitId ∧
      projection.activeTaskAllocationId = some allocation.allocationId := by
  have held := (reserved.paired _ _).mpr (holderIn_of_mem reserved.keyedAllocations inside)
  obtain ⟨projection, found, names⟩ := Option.bind_eq_some_iff.mp held
  obtain ⟨there, same⟩ := key_of_find? found
  exact ⟨projection, there, same, names⟩

theorem granted (inside : projection ∈ tables.projections)
    (names : projection.activeTaskAllocationId = some allocationId) :
    ∃ allocation, tables.allocation? allocationId = some allocation ∧
      allocation.sparePartUnitId = projection.sparePartUnitId := by
  rw [← heldIn_of_mem reserved.keyedProjections inside] at names
  exact Option.map_eq_some_iff.mp ((reserved.paired _ _).mp names)

end

end Reserved

/-! ## Errors -/

/-- The messages of the two tables in disagreement. -/
def agreementFailures : List String := [
  "Task reservation points to missing Spare Part Unit",
  "Spare Part Unit projection disagrees with current reservation",
  "Retry allocation points to missing Spare Part Unit",
  "Spare Part Unit projection disagrees with retry allocation",
  "reserved Spare Part Unit disappeared",
  "released Spare Part Unit disappeared",
  "selected Spare Part Unit disappeared",
  "Retry reassignment lost Spare Part Unit authority"]

/-- An integrity failure that tells of a disagreement. -/
def IsDisagreement (raised : Raised) : Prop :=
  ∃ message ∈ agreementFailures, raised = integrityFailure message

theorem inventoryError_fine (code message : String) :
    ¬ IsDisagreement (inventoryError code message) := by
  rintro ⟨_, _, ⟨⟩⟩

theorem invStale_fine (message : String) : ¬ IsDisagreement (invStale message) :=
  inventoryError_fine _ _

theorem selectionInvalid_fine (message : String) : ¬ IsDisagreement (selectionInvalid message) :=
  inventoryError_fine _ _

theorem validationError_fine (message : String) : ¬ IsDisagreement (validationError message) := by
  rintro ⟨_, _, ⟨⟩⟩

theorem other_fine : ¬ IsDisagreement .other := by
  rintro ⟨_, _, ⟨⟩⟩

theorem integrityFailure_fine (elsewhere : message ∉ agreementFailures) :
    ¬ IsDisagreement (integrityFailure message) := by
  rintro ⟨_, inside, same⟩
  cases same
  exact elsewhere inside

/-- A check never raises a disagreement. -/
abbrev Fine {Result : Type} (outcome : Except Raised Result) : Prop :=
  Yields (fun _ => True) IsDisagreement outcome

theorem fine_ensure [Decidable condition] (fine : ¬ IsDisagreement raised) :
    Fine (ensure condition raised) :=
  (yields_ensure fun _ => fine).mono fun _ _ => trivial

/-! ## Writes -/

section Writes

variable {tables : UnitTables}

theorem UnitCondition.initialDisposition_ne_reserved (condition : UnitCondition) :
    condition.initialDisposition ≠ .reserved := by
  cases condition <;> decide

theorem insertSparePartUnit_yields (reserved : Reserved tables) (unit : SparePartUnit)
    (condition : UnitCondition) :
    Yields (Continues tables) IsDisagreement (insertSparePartUnit tables unit condition) := by
  refine (yields_insertKeyed other_fine).bind ?_
  rintro _ ⟨_, rfl⟩
  refine (yields_insertKeyed other_fine).bind ?_
  rintro _ ⟨freshProjection, rfl⟩
  refine ⟨⟨?_, reserved.keyedAllocations, ?_, ?_, ?_, reserved.recorded⟩, ?_⟩
  · exact nodup_concat reserved.keyedProjections freshProjection
  · intro projection inside
    rw [List.map_append, List.mem_append]
    rcases Rows.mem_concat inside with inside | inside
    · exact .inl (reserved.described projection inside)
    · rw [inside]
      exact .inr (List.mem_singleton_self _)
  · rw [heldIn_concat freshProjection rfl]
    exact reserved.paired
  · intro projection inside
    rcases Rows.mem_concat inside with inside | inside
    · exact reserved.reserved projection inside
    · rw [inside]
      exact iff_of_false condition.initialDisposition_ne_reserved (by simp)
  · intro projection inside
    exact List.mem_map_of_mem (List.mem_append_left _ inside)

theorem known_of_replaced {projections next : List UnitProjection} {old new : UnitProjection}
    (replaced : Replaced projections next old new)
    (same : new.sparePartUnitId = old.sparePartUnitId) :
    ∀ projection ∈ projections,
      projection.sparePartUnitId ∈ next.map (·.sparePartUnitId) := by
  intro projection inside
  have ids : next.map (·.sparePartUnitId) = projections.map (·.sparePartUnitId) :=
    replaced.map_eq same
  rw [ids]
  exact List.mem_map_of_mem inside

/-- The parts of the invariant that speak of projections only, after one of them changed. -/
theorem Reserved.replaced (reserved : Reserved tables)
    (replaced : Replaced tables.projections next old new)
    (same : new.sparePartUnitId = old.sparePartUnitId)
    (agrees : new.disposition = .reserved ↔ new.activeTaskAllocationId ≠ none) :
    (next.map (·.sparePartUnitId)).Nodup ∧
      (∀ projection ∈ next,
        projection.sparePartUnitId ∈ tables.units.map (·.sparePartUnitId)) ∧
      ∀ projection ∈ next,
        projection.disposition = .reserved ↔ projection.activeTaskAllocationId ≠ none := by
  have ids : next.map (·.sparePartUnitId) = tables.projections.map (·.sparePartUnitId) :=
    replaced.map_eq same
  refine ⟨ids ▸ reserved.keyedProjections, ?_, ?_⟩
  · intro projection inside
    rcases replaced.mem_next inside with rfl | inside
    · rw [same]
      exact reserved.described old replaced.mem_old
    · exact reserved.described projection inside
  · intro projection inside
    rcases replaced.mem_next inside with rfl | inside
    · exact agrees
    · exact reserved.reserved projection inside

theorem attachOriginRma_yields (reserved : Reserved tables) (rmas : List Rma)
    (sparePartUnitId originRmaId : String) (expectedRevision : Nat) :
    Yields (Continues tables) IsDisagreement
      (attachOriginRma rmas tables sparePartUnitId originRmaId expectedRevision) := by
  unfold attachOriginRma
  split
  · exact invStale_fine _
  refine (fine_ensure (invStale_fine _)).bind fun _ _ => ?_
  refine (fine_ensure (inventoryError_fine _ _)).bind fun _ _ => ?_
  refine (fine_ensure (invStale_fine _)).bind fun _ _ => ?_
  refine (yields_updateOne (invStale_fine _)).bind ?_
  rintro units ⟨_, -, replacedUnit⟩
  refine (yields_updateOne (invStale_fine _)).bind ?_
  rintro projections ⟨old, -, replaced⟩
  obtain ⟨keyed, described, agrees⟩ := reserved.replaced replaced rfl
    (reserved.reserved old replaced.mem_old)
  refine ⟨⟨keyed, reserved.keyedAllocations, ?_, ?_, agrees, reserved.recorded⟩,
    known_of_replaced replaced rfl⟩
  · intro projection inside
    have ids : units.map (·.sparePartUnitId) = tables.units.map (·.sparePartUnitId) :=
      replacedUnit.map_eq rfl
    change projection.sparePartUnitId ∈ units.map (·.sparePartUnitId)
    rw [ids]
    exact described projection inside
  · rw [heldIn_kept reserved.keyedProjections replaced rfl rfl]
    exact reserved.paired

theorem TaskAllocation.RecordedIn.concat {allocation : TaskAllocation}
    (recorded : allocation.RecordedIn events) {event : AllocationEvent}
    (other : event.allocationId ≠ allocation.allocationId) :
    allocation.RecordedIn (events ++ [event]) := by
  obtain ⟨last, latest, named, task⟩ := recorded
  exact ⟨last, by rw [lastEventIn_concat, if_neg other, latest], named, task⟩

theorem TaskAllocation.recordedIn_concat {allocation : TaskAllocation} {event : AllocationEvent}
    (same : event.allocationId = allocation.allocationId)
    (named : event.allocationEventId = allocation.lastEventId)
    (task : event.taskId = allocation.taskId) : allocation.RecordedIn (events ++ [event]) :=
  ⟨event, by rw [lastEventIn_concat, if_pos same], named, task⟩

theorem writeReservation_yields (reserved : Reserved tables) (allocationId eventId : String)
    (now : Int) (intent : ReservationIntent) :
    Yields (Continues tables) IsDisagreement
      (writeReservation allocationId eventId now intent tables) := by
  refine (yields_insertKeyed other_fine).bind ?_
  rintro _ ⟨-, rfl⟩
  refine (fine_ensure other_fine).bind fun _ _ => ?_
  refine (yields_insertKeyed other_fine).bind ?_
  rintro _ ⟨fresh, rfl⟩
  refine (yields_updateOne (invStale_fine _)).bind ?_
  rintro projections ⟨_, selected, replaced⟩
  obtain ⟨unit, -, free⟩ := of_decide_eq_true selected
  obtain ⟨keyed, described, agrees⟩ := reserved.replaced replaced rfl (by simp)
  have freeUnit : heldIn tables.projections intent.sparePartUnitId = none := by
    rw [← unit, heldIn_of_mem reserved.keyedProjections replaced.mem_old, free]
  have freeRow : holderIn tables.allocations allocationId = none := by
    refine Option.map_eq_none_iff.mpr (List.find?_eq_none.mpr fun row inside same => ?_)
    exact fresh (List.mem_map.mpr ⟨row, inside, of_decide_eq_true same⟩)
  refine ⟨⟨keyed, nodup_concat reserved.keyedAllocations fresh, described, ?_, agrees, ?_⟩,
    known_of_replaced replaced rfl⟩
  · rw [heldIn_replaced reserved.keyedProjections replaced rfl, holderIn_concat fresh, unit]
    exact reserved.paired.join freeUnit freeRow
  · intro allocation inside
    rcases Rows.mem_concat inside with inside | inside
    · refine (reserved.recorded allocation inside).concat fun same => ?_
      exact fresh (List.mem_map.mpr ⟨allocation, inside, same.symm⟩)
    · rw [inside]
      exact TaskAllocation.recordedIn_concat rfl rfl rfl

theorem filter_released {allocations : List TaskAllocation}
    (keyed : (allocations.map (·.allocationId)).Nodup) (one : allocations.countP (fun row =>
      decide (row.allocationId = allocationId ∧ row.revision = revision)) = 1) :
    (allocations.filter fun row =>
        ¬ decide (row.allocationId = allocationId ∧ row.revision = revision)) =
      allocations.filter fun row => row.allocationId ≠ allocationId := by
  obtain ⟨_, inside, selected⟩ := List.countP_pos_iff.mp (by rw [one]; exact Nat.one_pos)
  obtain ⟨named, atRevision⟩ := of_decide_eq_true selected
  refine List.filter_congr fun row present => ?_
  by_cases same : row.allocationId = allocationId
  · obtain rfl := List.inj_on_of_nodup_map keyed present inside (same.trans named.symm)
    simp [same, atRevision]
  · simp [same]

theorem writeRelease_yields (reserved : Reserved tables) (eventId : String) (now : Int)
    (current : TaskAllocation) (expectedAllocationRevision : Nat) (projection : UnitProjection) :
    Yields (fun after => Continues tables after ∧
        heldIn after.projections current.sparePartUnitId = none) IsDisagreement
      (writeRelease eventId now current expectedAllocationRevision projection tables) := by
  refine (yields_insertKeyed other_fine).bind ?_
  rintro _ ⟨-, rfl⟩
  refine (yields_ensure fun _ => invStale_fine _).bind fun _ one => ?_
  refine (yields_updateOne (invStale_fine _)).bind ?_
  rintro projections ⟨_, selected, replaced⟩
  obtain ⟨unit, -, names⟩ := of_decide_eq_true selected
  obtain ⟨keyed, described, agrees⟩ := reserved.replaced replaced rfl
    (iff_of_false projection.condition.initialDisposition_ne_reserved (by simp))
  have cleared : heldIn projections =
      Function.update (heldIn tables.projections) current.sparePartUnitId none := by
    rw [heldIn_replaced reserved.keyedProjections replaced rfl, unit]
  have together :
      heldIn tables.projections current.sparePartUnitId = some current.allocationId := by
    rw [← unit, heldIn_of_mem reserved.keyedProjections replaced.mem_old, names]
  refine ⟨⟨⟨keyed, ?_, described, ?_, agrees, ?_⟩, known_of_replaced replaced rfl⟩, ?_⟩
  · exact reserved.keyedAllocations.sublist (List.filter_sublist.map _)
  · change Paired (heldIn projections) (holderIn (tables.allocations.filter _))
    rw [filter_released reserved.keyedAllocations one, holderIn_deleted, cleared]
    exact reserved.paired.part together
  · intro allocation inside
    change allocation ∈ tables.allocations.filter _ at inside
    rw [filter_released reserved.keyedAllocations one, List.mem_filter] at inside
    refine (reserved.recorded allocation inside.1).concat fun same => ?_
    exact of_decide_eq_true inside.2 same.symm
  · change heldIn projections current.sparePartUnitId = none
    rw [cleared, Function.update_self]

theorem writeReassignment_yields (reserved : Reserved tables) (eventId : String) (now : Int)
    (current : TaskAllocation) (newTaskId : String) :
    Yields (Continues tables) IsDisagreement
      (writeReassignment eventId now current newTaskId tables) := by
  refine (yields_insertKeyed other_fine).bind ?_
  rintro _ ⟨-, rfl⟩
  refine (yields_updateOne (invStale_fine _)).bind ?_
  rintro allocations ⟨_, selected, replaced⟩
  obtain ⟨named, -⟩ := of_decide_eq_true selected
  refine ⟨⟨reserved.keyedProjections, ?_, reserved.described, ?_, reserved.reserved, ?_⟩,
    fun _ inside => List.mem_map_of_mem inside⟩
  · have ids : allocations.map (·.allocationId) = tables.allocations.map (·.allocationId) :=
      replaced.map_eq rfl
    exact ids ▸ reserved.keyedAllocations
  · change Paired (heldIn tables.projections) (holderIn allocations)
    rw [holderIn_kept reserved.keyedAllocations replaced rfl rfl]
    exact reserved.paired
  · intro allocation inside
    rcases replaced.mem_next_keyed reserved.keyedAllocations
      rfl inside with rfl | ⟨inside, other⟩
    · exact TaskAllocation.recordedIn_concat named.symm rfl rfl
    · refine (reserved.recorded allocation inside).concat fun same => ?_
      exact other (same.symm.trans named.symm)

end Writes

end Soma.Inventory
