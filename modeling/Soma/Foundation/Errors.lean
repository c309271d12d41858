import Soma.Theory.Programs
import Soma.Theory.Transaction

/-!
`foundation/errors.py`: the application errors with their stable codes, and
`foundation/identifiers.py`: the identifier check every job, run and command id
goes through.

A Python call either returns or raises. What it raises is a `SomaError` of some
class or any other exception, and callers do tell the two apart
(`except SomaError: raise`), so `Raised` keeps both.
-/

namespace Soma.Foundation

open Programs Transaction

/-- The subclasses of `SomaError` that callers test with `isinstance`. -/
inductive ErrorClass where
  | somaError
  | validationError
  | idempotencyConflict
  | idempotencyResultUnavailable
  | integrityFailure
  | jobClaimConflict
  | persistenceBusy
  | persistenceFailure
  | persistenceRollbackFailure
  | migrationError
  deriving DecidableEq

/-- Stable application error with a transport-safe code. -/
structure SomaError where
  raisedAs : ErrorClass
  code : String
  message : String
  retryable : Bool := false
  deriving DecidableEq

/-- What a Python call may raise: an application error, or anything else. -/
inductive Raised where
  | soma (error : SomaError)
  | other
  deriving DecidableEq

def validationError (message : String) : Raised :=
  .soma ⟨.validationError, "VALIDATION_FAILED", message, false⟩

def idempotencyConflict
    (message : String := "command replay does not match committed receipt") : Raised :=
  .soma ⟨.idempotencyConflict, "IDEMPOTENCY_CONFLICT", message, false⟩

def idempotencyResultUnavailable
    (message : String := "exact result for the committed legacy command is unavailable") : Raised :=
  .soma ⟨.idempotencyResultUnavailable, "IDEMPOTENCY_RESULT_UNAVAILABLE", message, false⟩

def integrityFailure
    (message : String := "authoritative integrity verification failed") : Raised :=
  .soma ⟨.integrityFailure, "INTEGRITY_FAILURE", message, false⟩

def jobClaimConflict
    (message : String := "durable job claim no longer matches current attempt") : Raised :=
  .soma ⟨.jobClaimConflict, "JOB_CLAIM_CONFLICT", message, true⟩

def persistenceBusy (message : String := "authoritative writer is busy") : Raised :=
  .soma ⟨.persistenceBusy, "PERSISTENCE_BUSY", message, true⟩

def persistenceFailure (message : String) : Raised :=
  .soma ⟨.persistenceFailure, "PERSISTENCE_FAILURE", message, false⟩

def persistenceRollbackFailure (message : String) : Raised :=
  .soma ⟨.persistenceRollbackFailure, "PERSISTENCE_ROLLBACK_FAILURE", message, false⟩

/-- `isinstance(exc, IntegrityFailure)`. -/
def Raised.isIntegrityFailure : Raised → Bool
  | .soma error => error.raisedAs = .integrityFailure
  | .other => false

/-- `except SomaError: raise` followed by `except Exception: raise wrapped`. -/
def rewrapOther {Result : Type} (wrapped : Raised) :
    Except Raised Result → Except Raised Result
  | .ok value => .ok value
  | .error (.soma error) => .error (.soma error)
  | .error .other => .error wrapped

/-- `except Exception: raise wrapped`, keeping only `IntegrityFailure`. -/
def rewrapUnlessIntegrity {Result : Type} (wrapped : Raised) :
    Except Raised Result → Except Raised Result
  | .ok value => .ok value
  | .error error => .error (if error.isIntegrityFailure then error else wrapped)

/-- `except Exception: raise wrapped`. -/
def rewrapAny {Result : Type} (wrapped : Raised) :
    Except Raised Result → Except Raised Result
  | .ok value => .ok value
  | .error _ => .error wrapped

section Rewrap

variable {Result : Type} {outcome : Except Raised Result} {value : Result} {wrapped : Raised}

@[simp] theorem rewrapOther_ok : rewrapOther wrapped outcome = .ok value ↔ outcome = .ok value := by
  rcases outcome with (_ | _) | _ <;> simp [rewrapOther]

@[simp] theorem rewrapAny_ok : rewrapAny wrapped outcome = .ok value ↔ outcome = .ok value := by
  cases outcome <;> simp [rewrapAny]

end Rewrap

/-- Raises unless the condition holds, outside a transaction. -/
def ensure (condition : Prop) [Decidable condition] (error : Raised) : Except Raised Unit :=
  if condition then .ok () else .error error

@[simp] theorem ensure_ok [Decidable condition] :
    ensure condition error = .ok value ↔ condition := by
  by_cases holds : condition <;> simp [ensure, holds]

theorem reads_ensure {State Event : Type} {allowed : Event → Prop} {state : State}
    {condition : Prop} [Decidable condition] {error : Raised} :
    wpOf allowed (check (ensure condition error) : Program State Event Raised Unit)
      (Post.reads state fun _ => condition) state :=
  wp_check (fun _ _ => rfl) fun _ holds => ⟨rfl, ensure_ok.mp holds⟩

theorem except_bind_ok {Result Final : Type} {outcome : Except Raised Result}
    {rest : Result → Except Raised Final} {final : Final} :
    (outcome >>= rest) = .ok final ↔ ∃ value, outcome = .ok value ∧ rest value = .ok final := by
  cases outcome <;> simp [bind, Except.bind]

/-- The rules that take a successful computation apart step by step, for `simp only`. -/
theorem except_ok :
    (∀ {Result Final : Type} {outcome : Except Raised Result} {rest : Result → Except Raised Final}
      {final : Final}, (outcome >>= rest) = .ok final ↔
        ∃ value, outcome = .ok value ∧ rest value = .ok final) ∧
    (∀ {condition : Prop} [Decidable condition] {error : Raised} {value : Unit},
      ensure condition error = .ok value ↔ condition) ∧
    (∀ {Result : Type} {returned value : Result},
      (pure returned : Except Raised Result) = .ok value ↔ returned = value) ∧
    (∀ {Error Result : Type} {returned value : Result},
      (.ok returned : Except Error Result) = .ok value ↔ returned = value) ∧
    (∀ {holds : Unit → Prop}, (∃ done, holds done) ↔ holds ()) :=
  ⟨except_bind_ok, ensure_ok, by simp [pure, Except.pure], by simp,
    ⟨fun ⟨_, holds⟩ => holds, fun holds => ⟨(), holds⟩⟩⟩

theorem ensure_error [Decidable condition] :
    ensure condition refusal = .error error ↔ ¬ condition ∧ refusal = error := by
  by_cases holds : condition <;> simp [ensure, holds]

theorem raisesOnly_ensure {Allowed : Raised → Prop} [Decidable condition]
    (allowed : Allowed refusal) : RaisesOnly Allowed (ensure condition refusal) :=
  fun _ ran => (ensure_error.mp ran).2 ▸ allowed

theorem except_bind_error {Result Final : Type} {outcome : Except Raised Result}
    {rest : Result → Except Raised Final} {error : Raised} :
    (outcome >>= rest) = .error error ↔
      outcome = .error error ∨ ∃ value, outcome = .ok value ∧ rest value = .error error := by
  cases outcome <;> simp [bind, Except.bind]

/-- A lowercase hexadecimal digit. -/
def isLowerHex (character : Char) : Bool :=
  ('0' ≤ character ∧ character ≤ '9') ∨ ('a' ≤ character ∧ character ≤ 'f')

/-- 64 lowercase hexadecimal digits, the form `hexdigest()` of SHA-256 has. -/
def isSha256 (value : String) : Bool :=
  value.toList.length = 64 && value.toList.all isLowerHex

/-- `str(uuid.UUID(value)) == value` with version 4: five lowercase hexadecimal
groups of 8, 4, 4, 4 and 12 digits, version digit 4, RFC 4122 variant. -/
def isUuid4 (value : String) : Bool :=
  let characters := value.toList
  characters.length = 36 &&
  ((List.range 36).all fun index =>
    match characters[index]? with
    | none => false
    | some character =>
      if index = 8 ∨ index = 13 ∨ index = 18 ∨ index = 23 then character = '-'
      else if index = 14 then character = '4'
      else if index = 19 then character ∈ ['8', '9', 'a', 'b']
      else isLowerHex character)

def requireUuid4 (value : String) : Except Raised Unit :=
  ensure (isUuid4 value) (validationError "expected canonical lowercase UUIDv4")

/-- What `new_uuid4` returns. -/
structure Uuid4 where
  value : String
  canonical : isUuid4 value = true

example : isUuid4 "3f2b8c1e-9d4a-4c7f-8a6b-0123456789ab" = true := by decide

end Soma.Foundation
