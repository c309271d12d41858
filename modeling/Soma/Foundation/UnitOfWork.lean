import Soma.Foundation.Errors

/-!
`persistence/uow.py`: one authoritative writer transaction over any set of
tables. The body works on a copy; `COMMIT` makes it durable, and every way out
with an exception leaves the durable tables alone, whether the write gate
refused, `BEGIN` failed, a statement or a callback raised, `COMMIT` failed or
even the rollback failed (the connection is then closed, which discards the
transaction).
-/

namespace Soma.Foundation

open Transaction

/-- Why a connection call failed: `_is_busy_error`, or anything else. -/
inductive ConnectionFault where
  | busy
  | broken

/-- What goes wrong on the connection of one transaction. -/
structure Faults where
  /-- The write gate refuses the writer. -/
  admission : Option Raised := none
  /-- Opening the connection or `BEGIN IMMEDIATE` fails. -/
  opening : Option ConnectionFault := none
  /-- The statement with this number fails. -/
  statement : Nat → Bool := fun _ => false
  committing : Option ConnectionFault := none
  /-- `ROLLBACK` fails. -/
  rollingBack : Bool := false

/-- Nothing goes wrong. -/
def Faults.quiet : Faults := {}

/-- A transaction in progress: the working copy and the statements run so far. -/
structure Session (Tables : Type) where
  tables : Tables
  executed : Nat
  failing : Nat → Bool

/-- The body of a `with UnitOfWork(...)` block. -/
abbrev Uow (Tables Result : Type) := Body (Session Tables) Raised Result

section

variable {Tables Result : Type}

/-- One SQL statement of a transaction body. -/
def statement (body : Body Tables Raised Result) : Uow Tables Result := fun session =>
  if session.failing session.executed then .error .other
  else (body.run session.tables).map fun (value, tables) =>
    (value, { session with tables, executed := session.executed + 1 })

/-- What a rollback turns a pending exception into. -/
def rolledBack (faults : Faults) (pending : Raised) : Raised :=
  if faults.rollingBack then persistenceRollbackFailure "authoritative rollback failed" else pending

/-- What `commit` raises when `COMMIT` fails. -/
def commitFailure : ConnectionFault → Raised
  | .busy => persistenceBusy "authoritative commit was busy"
  | .broken => persistenceFailure "authoritative commit failed"

/-- `with UnitOfWork(factory) as uow: body`, and the tables that are durable after it. -/
def runUnitOfWork (faults : Faults) (body : Uow Tables Result) (durable : Tables) :
    Except Raised Result × Tables :=
  match faults.admission, faults.opening with
  | some refused, _ => (.error refused, durable)
  | none, some .busy => (.error persistenceBusy, durable)
  | none, some .broken => (.error .other, durable)
  | none, none =>
    match body.run ⟨durable, 0, faults.statement⟩, faults.committing with
    | .error raised, _ => (.error (rolledBack faults raised), durable)
    | .ok _, some fault => (.error (rolledBack faults (commitFailure fault)), durable)
    | .ok (value, session), none => (.ok value, session.tables)

variable {faults : Faults} {body : Uow Tables Result} {durable : Tables}

theorem runUnitOfWork_error (failed : (runUnitOfWork faults body durable).1 = .error raised) :
    (runUnitOfWork faults body durable).2 = durable := by
  unfold runUnitOfWork at failed ⊢
  split
  · rfl
  · rfl
  · rfl
  · split
    · rfl
    · rfl
    · rename_i ran quiet
      simp only [*] at failed
      cases failed

theorem runUnitOfWork_ok (returned : (runUnitOfWork faults body durable).1 = .ok value) :
    ∃ session, body.run ⟨durable, 0, faults.statement⟩ = .ok (value, session) ∧
      (runUnitOfWork faults body durable).2 = session.tables := by
  unfold runUnitOfWork at returned ⊢
  cases admitted : faults.admission with
  | some refused => simp only [admitted] at returned; cases returned
  | none =>
    cases opened : faults.opening with
    | some fault => cases fault <;> (simp only [admitted, opened] at returned; cases returned)
    | none =>
      cases ran : body.run ⟨durable, 0, faults.statement⟩ with
      | error raised => simp only [admitted, opened, ran] at returned; cases returned
      | ok pair =>
        cases committed : faults.committing with
        | some fault => simp only [admitted, opened, ran, committed] at returned; cases returned
        | none =>
          simp only [admitted, opened, ran, committed] at returned
          cases returned
          exact ⟨pair.2, rfl, rfl⟩

theorem runUnitOfWork_quiet : runUnitOfWork Faults.quiet body durable =
    match body.run ⟨durable, 0, fun _ => false⟩ with
    | .error raised => (.error raised, durable)
    | .ok (value, session) => (.ok value, session.tables) := by
  simp only [runUnitOfWork, Faults.quiet, rolledBack, Bool.false_eq_true, if_false]
  cases body.run ⟨durable, 0, fun _ => false⟩ <;> rfl

theorem statement_ok {body : Body Tables Raised Result} {session next : Session Tables}
    {value : Result} (ran : (statement body).run session = .ok (value, next)) :
    body.run session.tables = .ok (value, next.tables) := by
  change statement body session = _ at ran
  unfold statement at ran
  split at ran
  · cases ran
  · cases outcome : body.run session.tables with
    | error raised => simp [outcome, Except.map] at ran
    | ok pair =>
      simp only [outcome, Except.map, Except.ok.injEq, Prod.mk.injEq] at ran
      obtain ⟨rfl, rfl⟩ := ran
      rfl

end

end Soma.Foundation
