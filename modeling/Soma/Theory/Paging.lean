import Mathlib.Data.List.Sort

/-!
Keyset paging: the rows of a strictly increasing list that come after a cursor, a page of
them, and the cursor that continues it. Pages that follow one another split the list.
-/

namespace Soma.Paging

variable {Row : Type*} [LinearOrder Row]

/-- The rows after the cursor; all of them without one. -/
def after (rows : List Row) (cursor : Option Row) : List Row :=
  rows.filter fun row => cursor.all (· < row)

/-- The rows a page is cut from: one more than it takes shows whether there is more. -/
def lookahead (rows : List Row) (cursor : Option Row) (limit : Nat) : List Row :=
  (after rows cursor).take (limit + 1)

def page (rows : List Row) (cursor : Option Row) (limit : Nat) : List Row :=
  (lookahead rows cursor limit).take limit

def nextCursor (rows : List Row) (cursor : Option Row) (limit : Nat) : Option Row :=
  if limit < (lookahead rows cursor limit).length then (page rows cursor limit).getLast? else none

section Pages

variable {rows : List Row} {cursor : Option Row} {limit : Nat}

theorem after_none (rows : List Row) : after rows none = rows :=
  List.filter_eq_self.mpr fun _ _ => rfl

theorem page_eq (rows : List Row) (cursor : Option Row) (limit : Nat) :
    page rows cursor limit = (after rows cursor).take limit := by
  rw [page, lookahead, List.take_take, Nat.min_eq_left (Nat.le_succ limit)]

theorem page_length_le (rows : List Row) (cursor : Option Row) (limit : Nat) :
    (page rows cursor limit).length ≤ limit :=
  List.length_take_le limit _

/-- Without a next cursor the page is the whole rest. -/
theorem page_last (last : nextCursor rows cursor limit = none) (positive : 0 < limit) :
    page rows cursor limit = after rows cursor := by
  rw [page_eq]
  refine List.take_of_length_le ?_
  by_contra more
  have longer : limit < (lookahead rows cursor limit).length := by
    rw [lookahead, List.length_take]
    omega
  rw [nextCursor, if_pos longer, List.getLast?_eq_none_iff, page_eq, List.take_eq_nil_iff] at last
  rcases last with rfl | empty
  · omega
  · rw [empty] at more
    exact more (Nat.zero_le _)

/-- The rows after the last of a page are those the page left. -/
theorem page_continues (increasing : rows.Pairwise (· < ·))
    (continues : nextCursor rows cursor limit = some next) :
    next ∈ page rows cursor limit ∧
      after rows cursor = page rows cursor limit ++ after rows (some next) := by
  rw [nextCursor, Option.ite_none_right_eq_some] at continues
  obtain ⟨before, seen⟩ := List.getLast?_eq_some_iff.mp continues.2
  refine ⟨seen ▸ List.mem_concat_self, ?_⟩
  have split : after rows cursor = (before ++ [next]) ++ (after rows cursor).drop limit := by
    rw [← seen, page_eq, List.take_append_drop]
  have sorted : (after rows cursor).Pairwise (· < ·) := increasing.filter _
  rw [split, List.pairwise_append, List.pairwise_append] at sorted
  obtain ⟨⟨-, -, below⟩, -, above⟩ := sorted
  have passed : cursor.all (· < next) = true := by
    have inside : next ∈ after rows cursor := by
      rw [split]
      simp
    exact (List.mem_filter.mp inside).2
  have later : after rows (some next) = (after rows cursor).filter (next < ·) := by
    rw [after, after, List.filter_filter]
    refine List.filter_congr fun row _ => ?_
    cases cursor with
    | none => simp
    | some start =>
      simp only [Option.all_some, decide_eq_true_eq] at passed
      rw [Option.all_some, Option.all_some, Bool.eq_iff_iff, Bool.and_eq_true, decide_eq_true_eq,
        decide_eq_true_eq]
      exact ⟨fun above => ⟨above, passed.trans above⟩, And.left⟩
  have kept : ((after rows cursor).drop limit).filter (next < ·) = (after rows cursor).drop limit :=
    List.filter_eq_self.mpr fun row inside =>
      decide_eq_true (above next (by simp) row inside)
  have gone : (before ++ [next]).filter (next < ·) = [] := by
    refine List.filter_eq_nil_iff.mpr fun row inside => ?_
    rw [decide_eq_true_eq, not_lt]
    rcases List.mem_append.mp inside with early | last
    · exact (below row early next List.mem_cons_self).le
    · exact (List.mem_singleton.mp last).le
  rw [later, split, List.filter_append, gone, List.nil_append, kept, seen]

end Pages

end Soma.Paging
