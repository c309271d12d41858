import Mathlib.Data.List.Range
import Soma.Theory.Execution

/-!
Numbered grants of one exclusive resource. A grant is handed out under the next
number, at most one is outstanding at a time, and settling the outstanding
grant writes its number at the end of a log. `WellKept` says the log is exactly
the numbers handed out so far without the outstanding one; `spent_forever` says
that a number which is no longer outstanding never is again, however often the
resource is handed out later. Fencing tokens, lease epochs and attempt counters
are instances.
-/

namespace Soma.Grants

open Execution

/-- The bookkeeping of one resource. -/
structure Book where
  /-- How many grants have been handed out. -/
  issued : Nat
  /-- Whether the latest grant is still held. -/
  outstanding : Bool
  /-- Numbers of the settled grants, oldest first. -/
  settled : List Nat

/-- A resource that was never handed out. -/
def Book.blank : Book := ⟨0, false, []⟩

/-- What may happen to the bookkeeping of one resource. -/
inductive Step : Book → Book → Prop
  | issue (book : Book) (free : book.outstanding = false) :
      Step book ⟨book.issued + 1, true, book.settled⟩
  | settle (book : Book) (held : book.outstanding = true) :
      Step book ⟨book.issued, false, book.settled ++ [book.issued]⟩

/-- Numbers the log must hold: all issued ones, without the outstanding one. -/
def Book.due (book : Book) : Nat :=
  if book.outstanding then book.issued - 1 else book.issued

/-- The log holds exactly the due numbers, in order and once each. -/
structure WellKept (book : Book) : Prop where
  logged : book.settled = List.range' 1 book.due
  numbered : book.outstanding = true → 0 < book.issued

theorem blank_well_kept : WellKept Book.blank :=
  ⟨rfl, by simp [Book.blank]⟩

theorem step_well_kept (kept : WellKept book) (step : Step book next) : WellKept next := by
  cases step with
  | issue free =>
    refine ⟨?_, fun _ => Nat.succ_pos _⟩
    simpa [Book.due, free] using kept.logged
  | settle held =>
    refine ⟨?_, by simp⟩
    have positive := kept.numbered held
    have logged := kept.logged
    simp only [Book.due, held, if_true] at logged
    have extend : List.range' 1 (book.issued - 1 + 1) =
        List.range' 1 (book.issued - 1) ++ [1 + 1 * (book.issued - 1)] := List.range'_concat
    rw [Nat.sub_add_cancel positive, Nat.one_mul, Nat.add_sub_cancel' positive] at extend
    simp only [Book.due, Bool.false_eq_true, if_false, logged, extend]

theorem later_well_kept (later : Later Step book next) (kept : WellKept book) : WellKept next :=
  Later.preserves WellKept (fun _ _ held step => step_well_kept held step) later kept

/-- The outstanding number is not yet in the log. -/
theorem outstanding_unlogged (kept : WellKept book) (held : book.outstanding = true) :
    book.issued ∉ book.settled := by
  rw [kept.logged, List.mem_range'_1, Book.due, if_pos held]
  have positive := kept.numbered held
  omega

/-- The grant with this number is the one now held. -/
def Current (number : Nat) (book : Book) : Prop :=
  book.outstanding = true ∧ book.issued = number

/-- The grant with this number was handed out and is no longer held. -/
def Spent (number : Nat) (book : Book) : Prop :=
  number ≤ book.issued ∧ ¬ Current number book

/-- A number handed out earlier is spent while nothing is held. -/
theorem idle_spent {book : Book} (below : number ≤ book.issued) (idle : book.outstanding = false) :
    Spent number book :=
  ⟨below, fun current => Bool.noConfusion (current.1.symm.trans idle)⟩

theorem later_issued (later : Later Step book next) (below : number ≤ book.issued) :
    number ≤ next.issued := by
  refine Later.preserves (fun book : Book => number ≤ book.issued) ?_ later below
  intro book next below step
  cases step with
  | issue free => exact Nat.le_succ_of_le below
  | settle held => exact below

theorem step_spent (spent : Spent number book) (step : Step book next) : Spent number next := by
  obtain ⟨below, _⟩ := spent
  cases step with
  | issue free =>
    refine ⟨Nat.le_succ_of_le below, fun again => ?_⟩
    have renumbered : book.issued + 1 = number := again.2
    omega
  | settle held => exact ⟨below, fun again => Bool.noConfusion again.1⟩

/-- **A spent grant stays spent.** No sequence of settlements and new grants
makes an old number current again. -/
theorem spent_forever (later : Later Step book next) (spent : Spent number book) :
    Spent number next :=
  Later.preserves (Spent number) (fun _ _ ended step => step_spent ended step) later spent

end Soma.Grants
