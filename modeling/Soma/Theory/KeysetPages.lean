import Mathlib.Data.List.Sort

/-!
Keyset paging of rows under a key that need not be theirs alone: the rows in key order, the
page after a cursor, and the walk that follows the continuations.  A walk meets every row
once exactly when no two rows share a key.
-/

namespace Soma.Keyset

variable {Row Key : Type*} [LinearOrder Key] (key : Row → Key)

def inOrder (rows : List Row) : List Row :=
  rows.insertionSort fun first second => key first ≤ key second

/-- The rows a continuation leaves: those strictly after its key. -/
def rowsAfter (rows : List Row) (cursor : Option Key) : List Row :=
  (inOrder key rows).filter fun row => cursor.all (· < key row)

structure Page (Row Key : Type*) where
  items : List Row
  continuation : Option Key

/-- One row more than the page takes is read, to see whether there is more. -/
def page (rows : List Row) (limit : Nat) (cursor : Option Key) : Page Row Key :=
  let seen := (rowsAfter key rows cursor).take (limit + 1)
  let items := seen.take limit
  { items
    continuation := if limit < seen.length then items.getLast?.map key else none }

/-- Following the continuations from a cursor until there is none shows these rows. -/
inductive Walk (rows : List Row) (limit : Nat) : Option Key → List Row → Prop
  | last {cursor : Option Key} :
      (page key rows limit cursor).continuation = none →
      Walk rows limit cursor (page key rows limit cursor).items
  | more {cursor : Option Key} {next : Key} {rest : List Row} :
      (page key rows limit cursor).continuation = some next →
      Walk rows limit (some next) rest →
      Walk rows limit cursor ((page key rows limit cursor).items ++ rest)

section Pages

variable {key : Row → Key} {rows : List Row} {limit : Nat} {cursor : Option Key}

theorem page_items : (page key rows limit cursor).items = (rowsAfter key rows cursor).take limit := by
  rw [page, List.take_take, Nat.min_eq_left (Nat.le_succ limit)]

theorem page_continuation : (page key rows limit cursor).continuation =
    if limit < (rowsAfter key rows cursor).length then
      ((rowsAfter key rows cursor).take limit).getLast?.map key
    else none := by
  rw [page, List.take_take, Nat.min_eq_left (Nat.le_succ limit), List.length_take]
  by_cases more : limit < (rowsAfter key rows cursor).length
  · rw [if_pos more, if_pos (by omega)]
  · rw [if_neg more, if_neg (by omega)]

theorem inOrder_perm : (inOrder key rows).Perm rows :=
  List.perm_insertionSort _ rows

theorem head?_inOrder (first : (inOrder key rows).head? = some row) :
    row ∈ rows ∧ ∀ other ∈ rows, key row ≤ key other := by
  obtain ⟨rest, sorted⟩ := List.head?_eq_some_iff.mp first
  have ordered : (row :: rest).Pairwise fun first second => key first ≤ key second :=
    sorted ▸ List.pairwise_insertionSort _ rows
  have listed {other : Row} : other ∈ row :: rest ↔ other ∈ rows := by
    rw [← sorted]
    exact inOrder_perm.mem_iff
  refine ⟨listed.mp List.mem_cons_self, fun other inside => ?_⟩
  rcases List.mem_cons.mp (listed.mpr inside) with rfl | later
  · exact le_rfl
  · exact (List.pairwise_cons.mp ordered).1 other later

theorem head?_inOrder_isSome (nonempty : rows ≠ []) :
    ∃ row, (inOrder key rows).head? = some row := by
  cases found : (inOrder key rows).head? with
  | some row => exact ⟨row, rfl⟩
  | none =>
    have same : (inOrder key rows).Perm rows := inOrder_perm
    rw [List.head?_eq_none_iff.mp found] at same
    exact absurd same.nil_eq.symm nonempty

theorem inOrder_increasing (apart : (rows.map key).Nodup) :
    (inOrder key rows).Pairwise fun first second => key first < key second := by
  have sorted : (inOrder key rows).Pairwise fun first second => key first ≤ key second :=
    List.pairwise_insertionSort _ rows
  have distinct : ((inOrder key rows).map key).Nodup := (inOrder_perm.map key).nodup_iff.mpr apart
  rw [List.Nodup, List.pairwise_map] at distinct
  exact (sorted.and distinct).imp fun both => lt_of_le_of_ne both.1 both.2

/-- Rows in strictly increasing order are the ones in key order. -/
theorem inOrder_eq {sorted : List Row}
    (increasing : sorted.Pairwise fun first second => key first < key second)
    (same : sorted.Perm rows) : inOrder key rows = sorted := by
  have apart : (rows.map key).Nodup := by
    rw [← (same.map key).nodup_iff, List.Nodup, List.pairwise_map]
    exact increasing.imp ne_of_lt
  refine List.Perm.eq_of_pairwise ?_ (inOrder_increasing apart) increasing
    (inOrder_perm.trans same.symm)
  intro first second _ _ before after
  exact absurd (before.trans after) (lt_irrefl _)

theorem inOrder_filter (apart : (rows.map key).Nodup) (wanted : Row → Bool) :
    inOrder key (rows.filter wanted) = (inOrder key rows).filter wanted :=
  inOrder_eq ((inOrder_increasing apart).filter _) (inOrder_perm.filter _)

/-- Two scans of which the first comes wholly before the second make one. -/
theorem filter_scans (increasing : rows.Pairwise fun first second => key first < key second)
    {early late whole : Row → Bool}
    (before : ∀ first second, early first → late second → key first < key second)
    (either : ∀ row, whole row = (early row || late row)) :
    rows.filter whole = rows.filter early ++ rows.filter late := by
  induction rows with
  | nil => rfl
  | cons head rows ih =>
    obtain ⟨least, rest⟩ := List.pairwise_cons.mp increasing
    have later := ih rest
    cases isEarly : early head with
    | true =>
      have notLate : late head = false := by
        by_contra isLate
        exact lt_irrefl _ (before head head isEarly (by simpa using isLate))
      rw [List.filter_cons_of_pos (by simp [either, isEarly]), List.filter_cons_of_pos isEarly,
        List.filter_cons_of_neg (by simp [notLate]), later, List.cons_append]
    | false =>
      cases isLate : late head with
      | true =>
        -- nothing after a row of the second scan belongs to the first
        have none : rows.filter early = [] := by
          refine List.filter_eq_nil_iff.mpr fun row inside isEarly' => ?_
          exact lt_asymm (least row inside) (before row head isEarly' isLate)
        rw [List.filter_cons_of_pos (by simp [either, isLate]),
          List.filter_cons_of_neg (by simp [isEarly]), List.filter_cons_of_pos isLate, later,
          none, List.nil_append, List.nil_append]
      | false =>
        rw [List.filter_cons_of_neg (by simp [either, isEarly, isLate]),
          List.filter_cons_of_neg (by simp [isEarly]), List.filter_cons_of_neg (by simp [isLate]),
          later]

section

variable (increasing : (inOrder key rows).Pairwise fun first second => key first < key second)

include increasing

/-- After the last row of an initial part comes the rest. -/
theorem rowsAfter_split (split : inOrder key rows = before ++ rest) :
    rowsAfter key rows (before.getLast?.map key) = rest := by
  rw [rowsAfter, split]
  rw [split, List.pairwise_append] at increasing
  obtain ⟨first, -, across⟩ := increasing
  rcases List.eq_nil_or_concat before with rfl | ⟨init, last, rfl⟩
  · simp
  · rw [List.concat_eq_append] at first across ⊢
    rw [List.getLast?_append, List.getLast?_singleton, Option.some_or, Option.map_some,
      List.filter_append]
    have gone : (init ++ [last]).filter (fun row => (some (key last)).all (· < key row)) = [] := by
      refine List.filter_eq_nil_iff.mpr fun row inside => ?_
      rw [Option.all_some, decide_eq_true_eq, not_lt]
      rcases List.mem_append.mp inside with early | same
      · exact ((List.pairwise_append.mp first).2.2 row early last List.mem_cons_self).le
      · rw [List.mem_singleton.mp same]
    have kept : rest.filter (fun row => (some (key last)).all (· < key row)) = rest := by
      refine List.filter_eq_self.mpr fun row inside => ?_
      rw [Option.all_some, decide_eq_true_eq]
      exact across last (by simp) row inside
    rw [gone, kept, List.nil_append]

theorem walk_rest (positive : 0 < limit) (split : inOrder key rows = before ++ rest) :
    Walk key rows limit (before.getLast?.map key) rest := by
  -- each page takes `limit` rows of the rest, so the rest after it is shorter
  induction length : rest.length using Nat.strong_induction_on generalizing before rest with
  | h size ih =>
    have after := rowsAfter_split increasing split
    have items : (page key rows limit (before.getLast?.map key)).items = rest.take limit := by
      rw [page_items, after]
    by_cases more : limit < rest.length
    · have taken : rest.take limit ≠ [] := by
        rw [Ne, List.take_eq_nil_iff]
        rintro (zero | empty)
        · omega
        · rw [empty, List.length_nil] at more
          omega
      have continues : (page key rows limit (before.getLast?.map key)).continuation =
          some (key ((rest.take limit).getLast taken)) := by
        rw [page_continuation, after, if_pos more, List.getLast?_eq_some_getLast taken,
          Option.map_some]
      have next : (before ++ rest.take limit).getLast?.map key =
          some (key ((rest.take limit).getLast taken)) := by
        rw [List.getLast?_append, List.getLast?_eq_some_getLast taken, Option.some_or,
          Option.map_some]
      have later : Walk key rows limit (some (key ((rest.take limit).getLast taken)))
          (rest.drop limit) := by
        rw [← next]
        refine ih (rest.drop limit).length ?_ ?_ rfl
        · rw [List.length_drop]
          omega
        · rw [List.append_assoc, List.take_append_drop, split]
      have walked := Walk.more continues later
      rwa [items, List.take_append_drop] at walked
    · have stops : (page key rows limit (before.getLast?.map key)).continuation = none := by
        rw [page_continuation, after, if_neg more]
      have walked := Walk.last stops
      rwa [items, List.take_of_length_le (by omega)] at walked

end

/-- Where no two rows share a key, the walk shows the rows once each, in order. -/
theorem walk_inOrder (apart : (rows.map key).Nodup) (positive : 0 < limit) :
    Walk key rows limit none (inOrder key rows) := by
  have whole : inOrder key rows = [] ++ inOrder key rows := rfl
  exact walk_rest (inOrder_increasing apart) positive whole

/-- One row a page: every row shown comes strictly after the one before it. -/
theorem walk_one_increasing (walk : Walk key rows 1 cursor visited) :
    visited.Pairwise (fun first second => key first < key second) ∧
      ∀ row ∈ visited, cursor.all (· < key row) := by
  have passed {cursor : Option Key} (row : Row)
      (shown : row ∈ (rowsAfter key rows cursor).take 1) : cursor.all (· < key row) :=
    (List.mem_filter.mp (List.mem_of_mem_take shown)).2
  induction walk with
  | last stops =>
    rw [page_items]
    refine ⟨?_, passed⟩
    rcases rowsAfter key rows _ with - | ⟨first, others⟩ <;> simp
  | @more cursor next rest continues _ ih =>
    obtain ⟨increasing, above⟩ := ih
    rw [page_items]
    rw [page_continuation] at continues
    split at continues
    · rcases found : rowsAfter key rows cursor with - | ⟨first, others⟩
      · rw [found] at continues
        simp at continues
      · rw [found] at continues
        obtain rfl : key first = next := by simpa using continues
        have start : cursor.all (· < key first) := passed first (by simp [found])
        have later (row : Row) (inside : row ∈ rest) : key first < key row := by
          simpa using above row inside
        refine ⟨List.pairwise_cons.mpr ⟨later, increasing⟩, ?_⟩
        rintro row (_ | ⟨_, inside⟩)
        · exact start
        · cases cursor with
          | none => rfl
          | some key' =>
            rw [Option.all_some, decide_eq_true_eq] at start ⊢
            exact start.trans (later row inside)
    · cases continues

/-- Rows that share a key are not all met by pages of one row. -/
theorem walk_one_apart (walk : Walk key rows 1 cursor visited) (all : visited.Perm rows) :
    (rows.map key).Nodup := by
  rw [← (all.map key).nodup_iff, List.Nodup, List.pairwise_map]
  exact (walk_one_increasing walk).1.imp ne_of_lt

end Pages

end Soma.Keyset
