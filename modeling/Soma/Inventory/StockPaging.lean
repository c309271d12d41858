import Soma.Inventory.ReservationRuns
import Soma.Theory.KeysetPages

/-!
The Stock query of `inventory/queries/stock_needs.py` and the reservations it announces.
A page is put together from partitions and range scans; it is the keyset page of all units
under (compatibility, tracking id, unit id). Its blockers are those of `stock_blockers`,
which decide what `reserve_for_task` accepts.
-/

namespace Soma.Inventory

open Foundation Transaction Rows Keyset

/-! ## Blockers of a page -/

def InventoryRows.stockBlockersForUnits (rows : InventoryRows) (units : List UnitProjection) :
    Except Raised (List (String × List StockBlocker)) := do
  let unitIds := units.map (·.sparePartUnitId)
  ensure unitIds.Nodup
    (integrityFailure "Stock blocker batch contains duplicate Spare Part Unit ids")
  let taskIds := (rows.units.allocations.map (·.sparePartUnitId)).filter (· ∈ unitIds)
  let obligationIds := ((rows.rmas.obligations.filter (·.obligationState = .open)).filterMap
    (·.sparePartUnitId)).filter (· ∈ unitIds)
  let installedIds := (rows.consequences.current.filterMap
    (·.units.installedSparePartUnitId)).filter (· ∈ unitIds)
  return units.map fun unit => (unit.sparePartUnitId, composeStockBlockers unit
    (unit.sparePartUnitId ∈ taskIds) (unit.sparePartUnitId ∈ obligationIds)
    (unit.sparePartUnitId ∈ installedIds))

/-! ## Partitions -/

/-- `local_tracking_id`, which is drawn with the sequence. -/
def SparePartUnit.localTrackingId (unit : SparePartUnit) : Option String :=
  unit.localTrackingSequence.map fun sequence =>
    "LSU-" ++ String.ofList ((toString sequence).toList.leftpad 8 '0')

inductive StockCompatibility where
  | exact
  | incompatible
  | unknown

def StockCompatibility.rank : StockCompatibility → Nat
  | .exact => 0
  | .incompatible => 2
  | .unknown => 3

/-- The class of a unit under the BOM key a query asks for. -/
def StockCompatibility.ofUnit (requestedBomKey : Option String) (unit : SparePartUnit) :
    StockCompatibility :=
  match requestedBomKey with
  | none => .unknown
  | some bomKey => if unit.bomKey = bomKey then .exact else .incompatible

structure StockRow where
  unit : SparePartUnit
  projection : UnitProjection
  compatibility : StockCompatibility

/-- `COALESCE(u.local_tracking_id,'')`. -/
def StockRow.sortTracking (row : StockRow) : String := row.unit.localTrackingId.getD ""

/-- `ORDER BY COALESCE(u.local_tracking_id,''),u.spare_part_unit_id`. -/
def StockRow.order (row : StockRow) : Lex (String × String) :=
  toLex (row.sortTracking, row.unit.sparePartUnitId)

/-- A partition with what its predicate compares. -/
inductive StockPartition where
  | exact (bomKey : String)
  | incompatible (bomKey : String)
  | unknown

namespace StockPartition

def compatibility : StockPartition → StockCompatibility
  | .exact _ => .exact
  | .incompatible _ => .incompatible
  | .unknown => .unknown

def selects (partition : StockPartition) (unit : SparePartUnit) : Bool :=
  match partition with
  | .exact bomKey => unit.bomKey = bomKey
  | .incompatible bomKey => unit.bomKey ≠ bomKey
  | .unknown => true

/-- The units of the partition joined with their projections. -/
def rows (partition : StockPartition) (tables : UnitTables) : List StockRow :=
  (tables.units.filter partition.selects).filterMap fun unit =>
    (tables.projection? unit.sparePartUnitId).map (⟨unit, ·, partition.compatibility⟩)

end StockPartition

def stockPartitionRows (tables : UnitTables) (partition : StockPartition)
    (after : Option (String × String)) (limit : Nat) : List StockRow :=
  match after with
  | none => (inOrder StockRow.order (partition.rows tables)).take limit
  | some (afterTracking, afterUnitId) =>
    let sameTracking := (inOrder StockRow.order ((partition.rows tables).filter fun row =>
      row.sortTracking = afterTracking ∧ afterUnitId < row.unit.sparePartUnitId)).take limit
    if limit ≤ sameTracking.length then sameTracking
    else
      sameTracking ++ (inOrder StockRow.order ((partition.rows tables).filter fun row =>
        afterTracking < row.sortTracking)).take (limit - sameTracking.length)

/-! ## The query -/

/-- `bom_code` as its normalized key, or `spare_need_id`, but not both. -/
inductive StockFilter where
  | all
  | bomCode (bomKey : String)
  | spareNeed (spareNeedId : String)

def StockFilter.requestedBomKey (call : InventoryCall) :
    StockFilter → Except Raised (Option String)
  | .all => .ok none
  | .bomCode bomKey => .ok (some bomKey)
  | .spareNeed spareNeedId =>
    match call.need spareNeedId with
    | none => .error (validationError "Spare Need does not exist")
    | some need => do
      ensure (need.lifecycleState = "active") (validationError "Spare Need is not active")
      return some need.bomKey

/-- The `last_key_tuple` of a cursor of the filter: its filter fingerprint names the filter. -/
structure StockCursor where
  compatibilityRank : Nat
  tracking : String
  sparePartUnitId : String

def StockCursor.after (cursor : StockCursor) : String × String :=
  (cursor.tracking, cursor.sparePartUnitId)

def StockRow.cursor (row : StockRow) : StockCursor :=
  ⟨row.compatibility.rank, row.sortTracking, row.unit.sparePartUnitId⟩

def decodeCursor : Option StockCursor → Except Raised Unit
  | none => .ok ()
  | some cursor => do
    ensure (cursor.compatibilityRank ≤ 3) (validationError "Stock cursor key is invalid")
    requireUuid4 cursor.sparePartUnitId

/-- The rows `stock_eligibility` reads, `target_rows` at most. -/
def stockRows (tables : UnitTables) (requestedBomKey : Option String)
    (cursor : Option StockCursor) (targetRows : Nat) : Except Raised (List StockRow) :=
  let after := cursor.map (·.after)
  let mismatch := validationError "Stock cursor compatibility rank does not match filter"
  match requestedBomKey with
  | none => do
    ensure (cursor.all (·.compatibilityRank = 3)) mismatch
    return stockPartitionRows tables .unknown after targetRows
  | some bomKey => do
    ensure (cursor.all (·.compatibilityRank ∈ [0, 2])) mismatch
    if cursor.all (·.compatibilityRank = 0) then
      let rows := stockPartitionRows tables (.exact bomKey) after targetRows
      let remaining := targetRows - rows.length
      return rows ++
        if 0 < remaining then stockPartitionRows tables (.incompatible bomKey) none remaining
        else []
    else return stockPartitionRows tables (.incompatible bomKey) after targetRows

structure StockEligibilityItem where
  sparePartUnitId : String
  localTrackingId : Option String
  condition : UnitCondition
  disposition : UnitDisposition
  activeTaskAllocationId : Option String
  compatibilityClassification : StockCompatibility
  availabilityBlockers : List StockBlocker

def StockRow.item (row : StockRow) (blockers : List StockBlocker) : StockEligibilityItem where
  sparePartUnitId := row.unit.sparePartUnitId
  localTrackingId := row.unit.localTrackingId
  condition := row.projection.condition
  disposition := row.projection.disposition
  activeTaskAllocationId := row.projection.activeTaskAllocationId
  compatibilityClassification := row.compatibility
  availabilityBlockers := blockers

structure StockEligibilityPage where
  items : List StockEligibilityItem
  continuation : Option StockCursor
  exactTotal : Nat

/-- `blockers_by_unit[unit_id]`. -/
def blockersOf (blockersByUnit : List (String × List StockBlocker)) (sparePartUnitId : String) :
    Except Raised (List StockBlocker) :=
  ((blockersByUnit.find? (·.1 = sparePartUnitId)).map (·.2)).elim (.error .other) .ok

/-- The items of a page. -/
def InventoryRows.stockItems (rows : InventoryRows) (pageRows : List StockRow) :
    Except Raised (List StockEligibilityItem) := do
  let blockersByUnit ← rows.stockBlockersForUnits (pageRows.map (·.projection))
  pageRows.mapM fun row => do
    let blockers ← blockersOf blockersByUnit row.unit.sparePartUnitId
    return row.item blockers

def stockEligibility (call : InventoryCall) (rows : InventoryRows) (filter : StockFilter)
    (limit : Nat) (cursor : Option StockCursor) : Except Raised StockEligibilityPage := do
  ensure (1 ≤ limit ∧ limit ≤ 500)
    (validationError "limit must be an integer from 1 through 500")
  let requestedBomKey ← filter.requestedBomKey call
  decodeCursor cursor
  let seen ← stockRows rows.units requestedBomKey cursor (limit + 1)
  let pageRows := seen.take limit
  let items ← rows.stockItems pageRows
  return {
    items
    continuation := if limit < seen.length then pageRows.getLast?.map (·.cursor) else none
    exactTotal := (StockPartition.unknown.rows rows.units).length }

/-! ## The scans of a partition -/

/-- What keys and references say of the units: every unit has its projection, and
`new_uuid4` drew its id. -/
structure StockKeyed (tables : UnitTables) : Prop where
  units : (tables.units.map (·.sparePartUnitId)).Nodup
  projections : (tables.projections.map (·.sparePartUnitId)).Nodup
  projected : ∀ unit ∈ tables.units,
    unit.sparePartUnitId ∈ tables.projections.map (·.sparePartUnitId)
  canonical : ∀ unit ∈ tables.units, isUuid4 unit.sparePartUnitId = true

section Scans

variable {tables : UnitTables} {partition : StockPartition}

theorem StockPartition.mem_rows (inside : row ∈ partition.rows tables) :
    row.unit ∈ tables.units ∧ partition.selects row.unit = true ∧
      tables.projection? row.unit.sparePartUnitId = some row.projection ∧
      row.compatibility = partition.compatibility := by
  obtain ⟨unit, listed, joined⟩ := List.mem_filterMap.mp inside
  obtain ⟨projection, found, rfl⟩ := Option.map_eq_some_iff.mp joined
  obtain ⟨listed, selected⟩ := List.mem_filter.mp listed
  exact ⟨listed, selected, found, rfl⟩

/-- The join leaves no unit of the partition out and adds none. -/
theorem StockPartition.rows_units (keyed : StockKeyed tables) :
    (partition.rows tables).map (·.unit) = tables.units.filter partition.selects := by
  rw [StockPartition.rows, List.map_filterMap]
  refine Eq.trans (List.filterMap_congr fun unit listed => ?_) List.filterMap_some
  obtain ⟨projection, inside, named⟩ :=
    List.mem_map.mp (keyed.projected unit (List.mem_of_mem_filter listed))
  have found : tables.projection? unit.sparePartUnitId = some projection := by
    rw [← named]
    exact find?_eq_some keyed.projections inside
  rw [found]
  rfl

theorem StockPartition.rows_apart (keyed : StockKeyed tables) :
    ((partition.rows tables).map StockRow.order).Nodup := by
  have ids : ((partition.rows tables).map fun row => row.unit.sparePartUnitId).Nodup := by
    have units := keyed.units.sublist
      ((List.filter_sublist (p := partition.selects)).map (·.sparePartUnitId))
    rwa [← rows_units keyed, List.map_map] at units
  refine List.Nodup.of_map (fun order => (ofLex order).2) ?_
  rwa [List.map_map]

theorem take_scans {Row : Type} (first second : List Row) (limit : Nat) :
    (first ++ second).take limit =
      first.take limit ++ second.take (limit - (first.take limit).length) := by
  have left : limit - min limit first.length = limit - first.length := by omega
  rw [List.take_append, List.length_take, left]

theorem take_remaining {Row : Type} (first second : List Row) (limit : Nat) :
    (first.take limit ++
      if first.length < limit then second.take (limit - min limit first.length) else []) =
      (first ++ second).take limit := by
  rw [take_scans, List.length_take]
  split
  · rfl
  · rw [Nat.min_eq_left (by omega), Nat.sub_self, List.take_zero]

/-- The range scans of a partition read the rows after their cursor. -/
theorem stockPartitionRows_eq (keyed : StockKeyed tables) (after : Option (String × String))
    (limit : Nat) :
    stockPartitionRows tables partition after limit =
      (rowsAfter StockRow.order (partition.rows tables) (after.map toLex)).take limit := by
  have apart : ((partition.rows tables).map StockRow.order).Nodup :=
    StockPartition.rows_apart keyed
  cases after with
  | none => simp [stockPartitionRows, rowsAfter]
  | some after =>
    obtain ⟨afterTracking, afterUnitId⟩ := after
    have scans : rowsAfter StockRow.order (partition.rows tables)
          (some (toLex (afterTracking, afterUnitId))) =
        inOrder StockRow.order ((partition.rows tables).filter fun row =>
          row.sortTracking = afterTracking ∧ afterUnitId < row.unit.sparePartUnitId) ++
        inOrder StockRow.order ((partition.rows tables).filter fun row =>
          afterTracking < row.sortTracking) := by
      rw [inOrder_filter apart, inOrder_filter apart, rowsAfter]
      refine filter_scans (inOrder_increasing apart) ?_ ?_
      · intro first second early late
        simp only [decide_eq_true_eq] at early late
        exact Prod.Lex.toLex_lt_toLex.mpr (.inl (early.1 ▸ late))
      · intro row
        rw [Option.all_some, Bool.eq_iff_iff]
        simp only [StockRow.order, Prod.Lex.toLex_lt_toLex, Bool.or_eq_true, decide_eq_true_eq]
        rw [or_comm, eq_comm]
    rw [Option.map_some, scans, take_scans, stockPartitionRows]
    split
    · rename_i full
      rw [Nat.sub_eq_zero_of_le full, List.take_zero, List.append_nil]
    · rfl

end Scans

/-! ## The order of all rows -/

/-- The rows of a query, whatever the page. -/
def stockCandidates (tables : UnitTables) : Option String → List StockRow
  | none => StockPartition.unknown.rows tables
  | some bomKey =>
    (StockPartition.exact bomKey).rows tables ++ (StockPartition.incompatible bomKey).rows tables

abbrev StockKey := Lex (Nat × Lex (String × String))

def StockRow.key (row : StockRow) : StockKey := toLex (row.compatibility.rank, row.order)

def StockCursor.key (cursor : StockCursor) : StockKey :=
  toLex (cursor.compatibilityRank, toLex cursor.after)

section Candidates

variable {tables : UnitTables} {partition : StockPartition} {requestedBomKey : Option String}

theorem StockPartition.key_eq (inside : row ∈ partition.rows tables) :
    row.key = toLex (partition.compatibility.rank, row.order) := by
  rw [StockRow.key, (mem_rows inside).2.2.2]

theorem StockPartition.cursor_rank (inside : row ∈ partition.rows tables) :
    row.cursor.compatibilityRank = partition.compatibility.rank :=
  congrArg StockCompatibility.rank (mem_rows inside).2.2.2

theorem StockPartition.inOrder_increasing (keyed : StockKeyed tables) :
    (inOrder StockRow.order (partition.rows tables)).Pairwise
      fun first second => first.key < second.key := by
  refine (Keyset.inOrder_increasing (rows_apart keyed)).imp_of_mem ?_
  intro first second inFirst inSecond before
  rw [key_eq (inOrder_perm.mem_iff.mp inFirst), key_eq (inOrder_perm.mem_iff.mp inSecond)]
  exact Prod.Lex.toLex_lt_toLex.mpr (.inr ⟨rfl, before⟩)

theorem candidates_inOrder (keyed : StockKeyed tables) :
    inOrder StockRow.key (stockCandidates tables requestedBomKey) =
      match requestedBomKey with
      | none => inOrder StockRow.order (StockPartition.unknown.rows tables)
      | some bomKey => inOrder StockRow.order ((StockPartition.exact bomKey).rows tables) ++
          inOrder StockRow.order ((StockPartition.incompatible bomKey).rows tables) := by
  cases requestedBomKey with
  | none => exact inOrder_eq (StockPartition.inOrder_increasing keyed) inOrder_perm
  | some bomKey =>
    refine inOrder_eq (List.pairwise_append.mpr ⟨StockPartition.inOrder_increasing keyed,
      StockPartition.inOrder_increasing keyed, ?_⟩) (inOrder_perm.append inOrder_perm)
    intro first inFirst second inSecond
    rw [StockPartition.key_eq (inOrder_perm.mem_iff.mp inFirst),
      StockPartition.key_eq (inOrder_perm.mem_iff.mp inSecond)]
    exact Prod.Lex.toLex_lt_toLex.mpr (.inl Nat.zero_lt_two)

/-- What a cursor leaves of a partition: its rank decides, and within it the scans. -/
theorem partition_after (cursor : StockCursor) :
    (inOrder StockRow.order (partition.rows tables)).filter (fun row => cursor.key < row.key) =
      if cursor.compatibilityRank < partition.compatibility.rank then
        inOrder StockRow.order (partition.rows tables)
      else if cursor.compatibilityRank = partition.compatibility.rank then
        rowsAfter StockRow.order (partition.rows tables) (some (toLex cursor.after))
      else [] := by
  have compare (row : StockRow) (inside : row ∈ inOrder StockRow.order (partition.rows tables)) :
      cursor.key < row.key ↔ cursor.compatibilityRank < partition.compatibility.rank ∨
        cursor.compatibilityRank = partition.compatibility.rank ∧
          toLex cursor.after < row.order := by
    rw [StockPartition.key_eq (inOrder_perm.mem_iff.mp inside)]
    exact Prod.Lex.toLex_lt_toLex
  split
  · rename_i below
    exact List.filter_eq_self.mpr fun row inside =>
      decide_eq_true ((compare row inside).mpr (.inl below))
  · rename_i notBelow
    split
    · rename_i same
      refine List.filter_congr fun row inside => ?_
      rw [Option.all_some, decide_eq_decide, compare row inside]
      simp [same]
    · rename_i apart
      refine List.filter_eq_nil_iff.mpr fun row inside before => ?_
      rcases (compare row inside).mp (of_decide_eq_true before) with below | ⟨same, -⟩
      · exact notBelow below
      · exact apart same

/-- A cursor some row of the query shows. -/
def Shown (tables : UnitTables) (requestedBomKey : Option String) (cursor : Option StockCursor) :
    Prop :=
  ∀ key ∈ cursor, ∃ row ∈ stockCandidates tables requestedBomKey, row.cursor = key

theorem stockRows_eq (keyed : StockKeyed tables) (shown : Shown tables requestedBomKey cursor)
    (limit : Nat) :
    stockRows tables requestedBomKey cursor limit =
      .ok ((rowsAfter StockRow.key (stockCandidates tables requestedBomKey)
        (cursor.map (·.key))).take limit) := by
  have scans {partition : StockPartition} (after : Option (String × String)) (count : Nat) :
      stockPartitionRows tables partition after count = _ :=
    stockPartitionRows_eq keyed after count
  rw [rowsAfter, candidates_inOrder keyed]
  cases requestedBomKey with
  | none =>
    cases cursor with
    | none => simp [stockRows, ensure, scans, rowsAfter, pure, Except.pure, bind, Except.bind]
    | some cursor =>
      obtain ⟨row, inside, rfl⟩ := shown cursor rfl
      have rank := StockPartition.cursor_rank inside
      simp only [Option.map_some, Option.all_some]
      rw [partition_after, rank]
      simp [stockRows, ensure, rank, scans, StockPartition.compatibility,
        StockCompatibility.rank, bind, Except.bind, pure, Except.pure]
  | some bomKey =>
    cases cursor with
    | none =>
      simp [stockRows, ensure, scans, rowsAfter, take_remaining, pure, Except.pure, bind,
        Except.bind]
    | some cursor =>
      obtain ⟨row, inside, rfl⟩ := shown cursor rfl
      simp only [Option.map_some, Option.all_some]
      rw [List.filter_append, partition_after, partition_after]
      rcases List.mem_append.mp inside with inside | inside
      · have rank := StockPartition.cursor_rank inside
        simp [stockRows, ensure, rank, scans, rowsAfter, take_remaining,
          StockPartition.compatibility, StockCompatibility.rank, bind, Except.bind, pure,
          Except.pure]
      · have rank := StockPartition.cursor_rank inside
        simp [stockRows, ensure, rank, scans, StockPartition.compatibility,
          StockCompatibility.rank, bind, Except.bind, pure, Except.pure]

theorem StockPartition.mem_candidates (inside : row ∈ stockCandidates tables requestedBomKey) :
    ∃ partition : StockPartition, row ∈ partition.rows tables ∧
      row.compatibility = .ofUnit requestedBomKey row.unit := by
  cases requestedBomKey with
  | none => exact ⟨_, inside, (mem_rows inside).2.2.2⟩
  | some bomKey =>
    rcases List.mem_append.mp inside with inside | inside
    · obtain ⟨-, selected, -, compatibility⟩ := mem_rows inside
      refine ⟨_, inside, ?_⟩
      rw [compatibility, StockCompatibility.ofUnit, if_pos (of_decide_eq_true selected)]
      rfl
    · obtain ⟨-, selected, -, compatibility⟩ := mem_rows inside
      refine ⟨_, inside, ?_⟩
      rw [compatibility, StockCompatibility.ofUnit, if_neg (of_decide_eq_true selected)]
      rfl

theorem candidates_units (keyed : StockKeyed tables) :
    ((stockCandidates tables requestedBomKey).map (·.unit)).Perm tables.units := by
  cases requestedBomKey with
  | none =>
    have all : tables.units.filter StockPartition.unknown.selects = tables.units :=
      List.filter_eq_self.mpr fun _ _ => rfl
    rw [stockCandidates, StockPartition.rows_units keyed, all]
  | some bomKey =>
    have rest : (StockPartition.incompatible bomKey).selects =
        fun unit => !(StockPartition.exact bomKey).selects unit := by
      funext unit
      simp [StockPartition.selects]
    rw [stockCandidates, List.map_append, StockPartition.rows_units keyed,
      StockPartition.rows_units keyed, rest]
    exact List.filter_append_perm _ _

theorem candidates_ids (keyed : StockKeyed tables) :
    ((stockCandidates tables requestedBomKey).map (·.unit.sparePartUnitId)).Perm
      (tables.units.map (·.sparePartUnitId)) := by
  have moved : (((stockCandidates tables requestedBomKey).map (·.unit)).map
      (·.sparePartUnitId)).Perm (tables.units.map (·.sparePartUnitId)) :=
    (candidates_units keyed).map _
  rwa [List.map_map] at moved

theorem candidates_apart (keyed : StockKeyed tables) :
    ((stockCandidates tables requestedBomKey).map StockRow.key).Nodup := by
  refine List.Nodup.of_map (fun key => (ofLex (ofLex key).2).2) ?_
  rw [List.map_map]
  exact (candidates_ids keyed).nodup_iff.mpr keyed.units

end Candidates

/-! ## Blockers and pages -/

section Pages

variable {rows : InventoryRows} {call : InventoryCall} {filter : StockFilter}
  {requestedBomKey : Option String} {limit : Nat}

/-- The batch finds for each unit what `stock_blockers` finds for it alone. -/
theorem stockBlockersForUnits_eq {units : List UnitProjection}
    (apart : (units.map (·.sparePartUnitId)).Nodup)
    (current : ∀ unit ∈ units, rows.units.projection? unit.sparePartUnitId = some unit) :
    rows.stockBlockersForUnits units =
      .ok (units.map fun unit => (unit.sparePartUnitId, rows.stockBlockers unit.sparePartUnitId)) := by
  simp only [InventoryRows.stockBlockersForUnits, ensure, if_pos apart, bind, Except.bind, pure,
    Except.pure, Except.ok.injEq]
  refine List.map_congr_left fun unit inside => ?_
  have listed : unit.sparePartUnitId ∈ units.map (·.sparePartUnitId) := List.mem_map_of_mem inside
  rw [InventoryRows.stockBlockers, current unit inside]
  simp only [Prod.mk.injEq, true_and]
  have kept (found : List String) :
      unit.sparePartUnitId ∈ found.filter (· ∈ units.map (·.sparePartUnitId)) ↔
        unit.sparePartUnitId ∈ found := by
    rw [List.mem_filter, decide_eq_true_iff, and_iff_left listed]
  congr 1
  · exact decide_eq_decide.mpr ((kept _).trans List.mem_map)
  · refine decide_eq_decide.mpr ((kept _).trans (List.mem_filterMap.trans ?_))
    simp only [List.mem_filter, decide_eq_true_eq, ReturnObligation.Holds, and_assoc]
  · exact decide_eq_decide.mpr ((kept _).trans List.mem_filterMap)

/-- The item a row makes, with the blockers of its unit alone. -/
def StockRow.listed (rows : InventoryRows) (row : StockRow) : StockEligibilityItem :=
  row.item (rows.stockBlockers row.unit.sparePartUnitId)

theorem requireUuid4_ok (canonical : isUuid4 value = true) : requireUuid4 value = .ok () := by
  rw [requireUuid4, ensure, if_pos canonical]

theorem decodeCursor_ok (keyed : StockKeyed rows.units)
    (shown : Shown rows.units requestedBomKey cursor) : decodeCursor cursor = .ok () := by
  cases cursor with
  | none => rfl
  | some cursor =>
    obtain ⟨row, inside, rfl⟩ := shown cursor rfl
    obtain ⟨_, joined, -⟩ := StockPartition.mem_candidates inside
    have rank : row.cursor.compatibilityRank ≤ 3 := by
      change row.compatibility.rank ≤ 3
      cases row.compatibility <;> decide
    have canonical : isUuid4 row.cursor.sparePartUnitId = true :=
      keyed.canonical _ (StockPartition.mem_rows joined).1
    rw [decodeCursor, requireUuid4_ok canonical, ensure, if_pos rank]
    rfl

/-- The items of rows of the query are read with the blockers of each unit alone. -/
theorem stockItems_eq (keyed : StockKeyed rows.units) {pageRows : List StockRow}
    (read : pageRows.Sublist (inOrder StockRow.key (stockCandidates rows.units requestedBomKey))) :
    rows.stockItems pageRows = .ok (pageRows.map (·.listed rows)) := by
  have joined (row : StockRow) (inside : row ∈ pageRows) :
      rows.units.projection? row.unit.sparePartUnitId = some row.projection := by
    obtain ⟨_, joined, -⟩ :=
      StockPartition.mem_candidates (inOrder_perm.mem_iff.mp (read.subset inside))
    exact (StockPartition.mem_rows joined).2.2.1
  have named (row : StockRow) (inside : row ∈ pageRows) :
      row.projection.sparePartUnitId = row.unit.sparePartUnitId :=
    (key_of_find? (joined row inside)).2
  have ids : (pageRows.map (·.projection)).map (·.sparePartUnitId) =
      pageRows.map (·.unit.sparePartUnitId) := by
    rw [List.map_map]
    exact List.map_congr_left named
  have apart : (pageRows.map (·.unit.sparePartUnitId)).Nodup := by
    have whole : ((stockCandidates rows.units requestedBomKey).map
        (·.unit.sparePartUnitId)).Nodup := (candidates_ids keyed).nodup_iff.mpr keyed.units
    exact ((inOrder_perm.map _).nodup_iff.mpr whole).sublist (read.map _)
  have current (projection : UnitProjection) (inside : projection ∈ pageRows.map (·.projection)) :
      rows.units.projection? projection.sparePartUnitId = some projection := by
    obtain ⟨row, listed, rfl⟩ := List.mem_map.mp inside
    rw [named row listed]
    exact joined row listed
  rw [InventoryRows.stockItems, stockBlockersForUnits_eq (ids ▸ apart) current]
  refine mapM_ok.mpr (List.forall₂_map_right_iff.mpr (List.forall₂_same.mpr ?_))
  intro row inside
  let entries := (pageRows.map (·.projection)).map fun unit =>
    (unit.sparePartUnitId, rows.stockBlockers unit.sparePartUnitId)
  have entry : (row.unit.sparePartUnitId, rows.stockBlockers row.unit.sparePartUnitId) ∈
      entries := by
    rw [← named row inside]
    exact List.mem_map_of_mem (List.mem_map_of_mem inside)
  have keys : (entries.map Prod.fst).Nodup := by
    rw [List.map_map]
    exact ids ▸ apart
  have found := find?_eq_some keys entry
  rw [blockersOf, found]
  rfl

theorem stockEligibility_eq (keyed : StockKeyed rows.units)
    (resolved : filter.requestedBomKey call = .ok requestedBomKey) (low : 1 ≤ limit)
    (high : limit ≤ 500) (shown : Shown rows.units requestedBomKey cursor) :
    ∃ read : StockEligibilityPage, stockEligibility call rows filter limit cursor = .ok read ∧
      read.items = (page StockRow.key (stockCandidates rows.units requestedBomKey) limit
        (cursor.map (·.key))).items.map (·.listed rows) ∧
      Shown rows.units requestedBomKey read.continuation ∧
      read.continuation.map (·.key) = (page StockRow.key
        (stockCandidates rows.units requestedBomKey) limit (cursor.map (·.key))).continuation := by
  have scanned := stockRows_eq keyed shown (limit + 1)
  generalize seenIs : (rowsAfter StockRow.key (stockCandidates rows.units requestedBomKey)
    (cursor.map (·.key))).take (limit + 1) = seen at scanned
  have inside : seen.Sublist (inOrder StockRow.key (stockCandidates rows.units requestedBomKey)) :=
    seenIs ▸ (List.take_sublist _ _).trans List.filter_sublist
  have part := (List.take_sublist limit seen).trans inside
  let read : StockEligibilityPage := {
    items := (seen.take limit).map (·.listed rows)
    continuation := if limit < seen.length then (seen.take limit).getLast?.map (·.cursor) else none
    exactTotal := (StockPartition.unknown.rows rows.units).length }
  have ran : stockEligibility call rows filter limit cursor = .ok read := by
    rw [stockEligibility, ensure, if_pos ⟨low, high⟩, resolved, decodeCursor_ok keyed shown]
    simp only [bind, Except.bind, scanned, stockItems_eq keyed part]
    rfl
  refine ⟨read, ran, ?_, ?_, ?_⟩
  · rw [page, seenIs]
  · intro next continues
    change next ∈ (if limit < seen.length then _ else _) at continues
    split at continues
    · obtain ⟨last, found, rfl⟩ := Option.map_eq_some_iff.mp continues
      exact ⟨last, inOrder_perm.mem_iff.mp (part.subset (List.mem_of_getLast? found)), rfl⟩
    · cases continues
  · rw [page, seenIs]
    change Option.map _ (if limit < seen.length then _ else _) = if limit < seen.length then _ else _
    split
    · rw [Option.map_map]
      rfl
    · rfl

/-- Following the continuations from a cursor until there is none lists these items. -/
inductive StockWalk (call : InventoryCall) (rows : InventoryRows) (filter : StockFilter)
    (limit : Nat) : Option StockCursor → List StockEligibilityItem → Prop
  | last {cursor : Option StockCursor} {read : StockEligibilityPage} :
      stockEligibility call rows filter limit cursor = .ok read → read.continuation = none →
      StockWalk call rows filter limit cursor read.items
  | more {cursor : Option StockCursor} {read : StockEligibilityPage} {next : StockCursor}
      {rest : List StockEligibilityItem} :
      stockEligibility call rows filter limit cursor = .ok read →
      read.continuation = some next → StockWalk call rows filter limit (some next) rest →
      StockWalk call rows filter limit cursor (read.items ++ rest)

theorem stockWalk_of_walk (keyed : StockKeyed rows.units)
    (resolved : filter.requestedBomKey call = .ok requestedBomKey) (low : 1 ≤ limit)
    (high : limit ≤ 500)
    (walk : Walk StockRow.key (stockCandidates rows.units requestedBomKey) limit key visited)
    (cursor : Option StockCursor) (shown : Shown rows.units requestedBomKey cursor)
    (same : cursor.map (·.key) = key) :
    StockWalk call rows filter limit cursor (visited.map (·.listed rows)) := by
  induction walk generalizing cursor with
  | last stops =>
    obtain ⟨read, ran, items, -, continuation⟩ :=
      stockEligibility_eq keyed resolved low high shown
    rw [same] at items continuation
    rw [← items]
    exact .last ran (Option.map_eq_none_iff.mp (continuation.trans stops))
  | more continues _ ih =>
    obtain ⟨read, ran, items, shownNext, continuation⟩ :=
      stockEligibility_eq keyed resolved low high shown
    rw [same] at items continuation
    obtain ⟨next, there, sameNext⟩ := Option.map_eq_some_iff.mp (continuation.trans continues)
    rw [List.map_append, ← items]
    refine .more ran there (ih (some next) (there ▸ shownNext) ?_)
    rw [Option.map_some, sameNext]

end Pages

/-! ## Reservations -/

section Reservations

variable {rows : InventoryRows} {call : InventoryCall} {allocationId eventId : String}
  {intent : ReservationIntent}

/-- A reservation under the current revisions and fresh identifiers, for an active Need of
the BOM of the unit and of a Service Request of the Task. -/
structure FitsNeed (call : InventoryCall) (tables : UnitTables) (allocationId eventId : String)
    (intent : ReservationIntent) (unit : SparePartUnit) : Prop where
  task : ∃ task, call.task intent.taskId = some task ∧
    task.revision = intent.expectedTaskRevision ∧
    ∃ spareNeedId need, intent.spareNeedId = some spareNeedId ∧
      call.need spareNeedId = some need ∧ need.lifecycleState = "active" ∧
      need.bomKey = unit.bomKey ∧ need.serviceRequestId ∈ task.serviceRequestIds
  revision : ∀ projection ∈ tables.projection? unit.sparePartUnitId,
    projection.revision = intent.expectedUnitRevision
  event : eventId ∉ tables.allocationEvents.map (·.allocationEventId)
  allocation : allocationId ∉ tables.allocations.map (·.allocationId)

theorem composeStockBlockers_nil
    (free : composeStockBlockers projection task obligation installed = []) :
    projection.activeTaskAllocationId = none ∧ task = false := by
  simp only [composeStockBlockers, List.append_eq_nil_iff] at free
  obtain ⟨⟨⟨-, reservation⟩, -⟩, -⟩ := free
  simpa using reservation

theorem unblocked (free : rows.stockBlockers sparePartUnitId = []) :
    ∃ projection, rows.units.projection? sparePartUnitId = some projection ∧
      projection.activeTaskAllocationId = none ∧
      sparePartUnitId ∉ rows.units.allocations.map (·.sparePartUnitId) := by
  rw [InventoryRows.stockBlockers] at free
  split at free
  · cases free
  · rename_i projection found
    obtain ⟨inactive, unallocated⟩ := composeStockBlockers_nil free
    refine ⟨projection, found, inactive, fun allocated => ?_⟩
    exact of_decide_eq_false unallocated (List.mem_map.mp allocated)

theorem reserveForTask_accepts (keyed : StockKeyed rows.units) (inside : unit ∈ rows.units.units)
    (named : intent.sparePartUnitId = unit.sparePartUnitId)
    (free : rows.stockBlockers unit.sparePartUnitId = [])
    (fits : FitsNeed call rows.units allocationId eventId intent unit) :
    ∃ after, reserveForTask call allocationId eventId intent rows = .ok after := by
  obtain ⟨projection, found, inactive, unallocated⟩ := unblocked free
  obtain ⟨task, taskFound, taskRevision, spareNeedId, _, named', needFound, active, bom,
    linked⟩ := fits.task
  have revision := fits.revision projection found
  have detail : rows.units.currentUnit unit.sparePartUnitId = some ⟨unit, projection⟩ := by
    rw [UnitTables.currentUnit, find?_eq_some keyed.units inside, found]
    rfl
  have one : rows.units.projections.countP (fun row => row.sparePartUnitId =
      unit.sparePartUnitId ∧ row.revision = intent.expectedUnitRevision ∧
      row.activeTaskAllocationId = none) = 1 := by
    obtain ⟨listed, same⟩ := key_of_find? found
    refine countP_eq_one keyed.projections listed (by simp [same, revision, inactive]) ?_
    intro row _ selected
    simp only [decide_eq_true_eq] at selected
    rw [selected.1, same]
  have written : ∃ units,
      writeReservation allocationId eventId call.now intent rows.units = .ok units := by
    simp only [writeReservation, named, insertKeyed, updateOne, ensure, if_pos fits.event,
      if_pos unallocated, if_pos fits.allocation, if_pos one, bind, Except.bind, pure,
      Except.pure]
    exact ⟨_, rfl⟩
  obtain ⟨units, written⟩ := written
  refine ⟨{ rows with units }, ?_⟩
  have checked : requireNeedForUnit call intent.taskId unit intent.spareNeedId = .ok () := by
    simp only [requireNeedForUnit, named', requireActiveNeed, needFound, requireMatchingBom,
      taskFound, ensure, active, bom, bind, Except.bind, pure, Except.pure, Option.map_some,
      Option.getD_some, linked, or_true, true_or, if_true]
  simp only [reserveForTask, requireTaskRevision, taskFound, ensure, if_pos taskRevision,
    UnitTables.requireUnitAt, named, detail, if_pos revision, if_pos unallocated,
    InventoryRows.requireStockEligible, if_pos free, checked, written, bind, Except.bind, pure,
    Except.pure]

theorem reserveForTask_rejects
    (blocked : rows.stockBlockers intent.sparePartUnitId ≠ []) :
    ∃ raised, reserveForTask call allocationId eventId intent rows = .error raised := by
  cases ran : reserveForTask call allocationId eventId intent rows with
  | error raised => exact ⟨raised, rfl⟩
  | ok after =>
    simp only [reserveForTask, InventoryRows.requireStockEligible, except_ok] at ran
    obtain ⟨-, -, -, -, free, -⟩ := ran
    exact absurd free blocked

end Reservations

/-! ## Stock and reservations -/

def StockEligibilityItem.key (item : StockEligibilityItem) : StockKey :=
  toLex (item.compatibilityClassification.rank,
    toLex (item.localTrackingId.getD "", item.sparePartUnitId))

/-- Following the continuations lists every unit once, in order, under its class and with the
blockers `stock_blockers` gives it. -/
def ListsStock (call : InventoryCall) (rows : InventoryRows) (filter : StockFilter)
    (requestedBomKey : Option String) (limit : Nat) : Prop :=
  ∃ items, StockWalk call rows filter limit none items ∧
    (items.map (·.sparePartUnitId)).Perm (rows.units.units.map (·.sparePartUnitId)) ∧
    items.Pairwise (fun first second => first.key < second.key) ∧
    ∀ item ∈ items, ∃ unit ∈ rows.units.units,
      item.sparePartUnitId = unit.sparePartUnitId ∧
      item.localTrackingId = unit.localTrackingId ∧
      item.compatibilityClassification = .ofUnit requestedBomKey unit ∧
      item.availabilityBlockers = rows.stockBlockers unit.sparePartUnitId

theorem lists_stock {rows : InventoryRows} {filter : StockFilter} (keyed : StockKeyed rows.units)
    (resolved : filter.requestedBomKey call = .ok requestedBomKey) (low : 1 ≤ limit)
    (high : limit ≤ 500) : ListsStock call rows filter requestedBomKey limit := by
  have apart : ((stockCandidates rows.units requestedBomKey).map StockRow.key).Nodup :=
    candidates_apart keyed
  have nothing : Shown rows.units requestedBomKey none := fun _ there => by cases there
  refine ⟨_, stockWalk_of_walk keyed resolved low high (walk_inOrder apart low) none nothing rfl,
    ?_, ?_, ?_⟩
  · rw [List.map_map]
    exact (inOrder_perm.map _).trans (candidates_ids keyed)
  · rw [List.pairwise_map]
    exact inOrder_increasing apart
  · intro item inside
    obtain ⟨row, listed, rfl⟩ := List.mem_map.mp inside
    obtain ⟨_, joined, compatibility⟩ :=
      StockPartition.mem_candidates (inOrder_perm.mem_iff.mp listed)
    exact ⟨row.unit, (StockPartition.mem_rows joined).1, rfl, rfl, compatibility, rfl⟩

/-- The Stock query and `reserve_for_task` agree on every unit. -/
theorem stock_and_reservation_agree {rows : InventoryRows} (keyed : StockKeyed rows.units) :
    (∀ (call : InventoryCall) (filter : StockFilter) (requestedBomKey : Option String)
        (limit : Nat), filter.requestedBomKey call = .ok requestedBomKey → 1 ≤ limit →
        limit ≤ 500 → ListsStock call rows filter requestedBomKey limit) ∧
      ∀ unit ∈ rows.units.units, ∀ (call : InventoryCall) (allocationId eventId : String)
        (intent : ReservationIntent), intent.sparePartUnitId = unit.sparePartUnitId →
        (rows.stockBlockers unit.sparePartUnitId = [] →
          FitsNeed call rows.units allocationId eventId intent unit →
          ∃ after, reserveForTask call allocationId eventId intent rows = .ok after) ∧
        (rows.stockBlockers unit.sparePartUnitId ≠ [] →
          ∃ raised, reserveForTask call allocationId eventId intent rows = .error raised) := by
  refine ⟨fun call filter _ limit resolved low high => lists_stock keyed resolved low high, ?_⟩
  intro unit inside call allocationId eventId intent named
  exact ⟨fun free fits => reserveForTask_accepts keyed inside named free fits,
    fun blocked => reserveForTask_rejects (named ▸ blocked)⟩

/-! ## A sample Stock -/

local instance instNeZeroStockCalls : NeZero 16 := ⟨by decide⟩

def stockUnit : SparePartUnit :=
  ⟨"00000000-0000-4000-8000-000000000801", some 1, "bom", .manualLocal, none, none⟩

def faultyUnit : SparePartUnit :=
  ⟨"00000000-0000-4000-8000-000000000802", none, "bom", .legacy, none, none⟩

def sampleStock : InventoryRows :=
  { noInventory with
    units := { noInventory.units with
      units := [stockUnit, faultyUnit]
      projections := [⟨stockUnit.sparePartUnitId, .new, .available, none, 1⟩,
        ⟨faultyUnit.sparePartUnitId, .faulty, .unavailable, none, 1⟩] } }

/-- A call with an active Need of the Task's Service Request. -/
def stockNeedCall : InventoryCall :=
  { sampleUnitCall 1 with
    task := fun _ => some ⟨1, ["sr"], true, "reviewed"⟩
    need := fun _ => some ⟨"sr", "bom", "active", 1⟩ }

theorem sample_stock_reserved :
    ListsStock stockNeedCall sampleStock (.spareNeed "need") (some "bom") 1 ∧
      (∃ after, reserveForTask stockNeedCall "allocation" "event"
        ⟨"task", stockUnit.sparePartUnitId, some "need", 1, 1⟩ sampleStock = .ok after) ∧
      ∃ raised, reserveForTask stockNeedCall "allocation" "event"
        ⟨"task", faultyUnit.sparePartUnitId, some "need", 1, 1⟩ sampleStock = .error raised := by
  have keyed : StockKeyed sampleStock.units := by
    refine ⟨by decide, by decide, ?_, ?_⟩
    · exact fun unit inside => List.mem_map_of_mem (f := (·.sparePartUnitId)) inside
    · rintro unit (_ | ⟨_, _ | ⟨_, ⟨⟩⟩⟩)
      · decide +kernel
      · decide +kernel
  obtain ⟨lists, reserves⟩ := stock_and_reservation_agree keyed
  have fits : FitsNeed stockNeedCall sampleStock.units "allocation" "event"
      ⟨"task", stockUnit.sparePartUnitId, some "need", 1, 1⟩ stockUnit := by
    refine ⟨⟨_, rfl, rfl, _, _, rfl, rfl, rfl, rfl, List.mem_singleton_self _⟩, ?_, by decide,
      by decide⟩
    rintro projection ⟨⟩
    rfl
  refine ⟨lists _ _ _ 1 rfl le_rfl (by decide), ?_, ?_⟩
  · exact (reserves stockUnit (by simp [sampleStock]) _ _ _ _ rfl).1 (by decide) fits
  · exact (reserves faultyUnit (by simp [sampleStock]) _ _ _ _ rfl).2 (by decide)

end Soma.Inventory
