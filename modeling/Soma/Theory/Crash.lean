import Soma.Theory.Programs

/-!
Programs whose operations may fail or be cut off by the death of the process.
An operation that completes has its whole effect, one that fails or is cut off
has none.
-/

namespace Soma.Crash

open Programs

variable {Disk Error Result : Type}

/-- What becomes of one operation. -/
inductive Fate where
  | completes
  | fails
  | dies

/-- A value with the disk it leaves, or an exception with the disk as it was. -/
def settle (disk : Disk) : Except Error (Result × Disk) → Outcome Error Result × Disk
  | .ok (value, next) => (.returned value, next)
  | .error error => (.raised error, disk)

/-- One atomic operation on the disk. It raises `failure` when it fails; without
one it cannot fail. -/
def operation (failure : Option Error) (effect : Disk → Except Error (Result × Disk)) :
    Program Disk Fate Error Result :=
  perform fun fate disk =>
    match fate, failure with
    | some .dies, _ => (.died, disk)
    | some .fails, some error => (.raised error, disk)
    | _, _ => settle disk (effect disk)

/-- An operation that only reads. -/
def inspect (failure : Option Error) (view : Disk → Except Error Result) :
    Program Disk Fate Error Result :=
  operation failure fun disk => (view disk).map fun value => (value, disk)

section Rules

variable {allowed : Fate → Prop} {post : Post Disk Error Result} {disk : Disk}

variable {failure : Option Error}

/-- One operation, with what is owed only when the surroundings may disturb it. -/
theorem wp_operation_of {effect : Disk → Except Error (Result × Disk)}
    (died : allowed .dies → post.died disk)
    (failed : allowed .fails → ∀ error, failure = some error → post.raised error disk)
    (raised : ∀ error, effect disk = .error error → post.raised error disk)
    (returned : ∀ value next, effect disk = .ok (value, next) → post.returned value next) :
    wpOf allowed (operation failure effect) post disk := by
  have completes : post.holds (settle disk (effect disk)).1 (settle disk (effect disk)).2 := by
    cases ran : effect disk with
    | error error => exact raised error ran
    | ok pair => exact returned pair.1 pair.2 ran
  refine wp_perform completes fun fate allow => ?_
  cases fate with
  | dies => exact died allow
  | completes => exact completes
  | fails =>
    cases failure with
    | some error => exact failed allow error rfl
    | none => exact completes

theorem wp_operation {effect : Disk → Except Error (Result × Disk)} (died : post.died disk)
    (failed : ∀ error, failure = some error → post.raised error disk)
    (raised : ∀ error, effect disk = .error error → post.raised error disk)
    (returned : ∀ value next, effect disk = .ok (value, next) → post.returned value next) :
    wpOf allowed (operation failure effect) post disk :=
  wp_operation_of (fun _ => died) (fun _ => failed) raised returned

theorem wp_inspect_of {view : Disk → Except Error Result} (died : allowed .dies → post.died disk)
    (failed : allowed .fails → ∀ error, failure = some error → post.raised error disk)
    (raised : ∀ error, view disk = .error error → post.raised error disk)
    (returned : ∀ value, view disk = .ok value → post.returned value disk) :
    wpOf allowed (inspect failure view) post disk := by
  refine wp_operation_of died failed (fun error ran => ?_) (fun value next ran => ?_)
  · cases read : view disk with
    | error found =>
      rw [read] at ran
      cases ran
      exact raised error read
    | ok value =>
      rw [read] at ran
      cases ran
  · cases read : view disk with
    | error error =>
      rw [read] at ran
      cases ran
    | ok found =>
      rw [read] at ran
      cases ran
      exact returned value read

theorem wp_inspect {view : Disk → Except Error Result} (died : post.died disk)
    (failed : ∀ error, failure = some error → post.raised error disk)
    (raised : ∀ error, view disk = .error error → post.raised error disk)
    (returned : ∀ value, view disk = .ok value → post.returned value disk) :
    wpOf allowed (inspect failure view) post disk :=
  wp_inspect_of (fun _ => died) (fun _ => failed) raised returned

end Rules

/-! ## Runs that a fault may disturb -/

/-- A run ends in `goal`. Cut off or raising it leaves `kept`; when the run was
`sound`, only a fault the surroundings allow makes it do either, and then with
an exception that is tolerated. -/
def Post.disturbed (allowed : Fate → Prop) (sound : Prop) (tolerated : Error → Prop)
    (kept : Disk → Prop) (goal : Result → Disk → Prop) : Post Disk Error Result where
  returned := goal
  raised error disk := kept disk ∧ (sound → allowed .fails ∧ tolerated error)
  died disk := kept disk ∧ allowed .dies

section Disturbed

variable {Final : Type} {allowed : Fate → Prop} {sound : Prop} {tolerated : Error → Prop}
  {kept : Disk → Prop} {goal : Final → Disk → Prop} {disk : Disk}

variable {rest : Result → Program Disk Fate Error Final}

/-- One operation, then the rest from where it leaves the disk. -/
theorem wp_effect_bind {failure : Option Error} {effect : Disk → Except Error (Result × Disk)}
    (cut : kept disk) (mild : ∀ error, failure = some error → tolerated error)
    (refused : ∀ error, effect disk = .error error → ¬ sound)
    (continued : ∀ value next, effect disk = .ok (value, next) →
      wpOf allowed (rest value) (Post.disturbed allowed sound tolerated kept goal) next) :
    wpOf allowed (operation failure effect >>= rest)
      (Post.disturbed allowed sound tolerated kept goal) disk := by
  refine wp_bind (wp_operation_of (fun allow => ⟨cut, allow⟩) ?_ ?_ continued)
  · intro allow error failed
    exact ⟨cut, fun _ => ⟨allow, mild error failed⟩⟩
  · intro error ran
    exact ⟨cut, fun isSound => absurd isSound (refused error ran)⟩

theorem wp_view_bind {failure : Option Error} {view : Disk → Except Error Result} (cut : kept disk)
    (mild : ∀ error, failure = some error → tolerated error)
    (refused : ∀ error, view disk = .error error → ¬ sound)
    (continued : ∀ value, view disk = .ok value →
      wpOf allowed (rest value) (Post.disturbed allowed sound tolerated kept goal) disk) :
    wpOf allowed (inspect failure view >>= rest)
      (Post.disturbed allowed sound tolerated kept goal) disk := by
  refine wp_bind (wp_inspect_of (fun allow => ⟨cut, allow⟩) ?_ ?_ continued)
  · intro allow error failed
    exact ⟨cut, fun _ => ⟨allow, mild error failed⟩⟩
  · intro error ran
    exact ⟨cut, fun isSound => absurd isSound (refused error ran)⟩

/-- A computation that touches no state, then the rest. -/
theorem wp_check_bind {outcome : Except Error Result} (cut : kept disk)
    (refused : ∀ error, outcome = .error error → ¬ sound)
    (continued : ∀ value, outcome = .ok value →
      wpOf allowed (rest value) (Post.disturbed allowed sound tolerated kept goal) disk) :
    wpOf allowed (check outcome >>= rest)
      (Post.disturbed allowed sound tolerated kept goal) disk := by
  refine wp_bind (wp_check ?_ continued)
  intro error failed
  exact ⟨cut, fun isSound => absurd isSound (refused error failed)⟩

/-- A part of a program that ends where the rest may start. -/
theorem wp_part_bind (middle : Result → Disk → Prop) {program : Program Disk Fate Error Result}
    (part : wpOf allowed program (Post.disturbed allowed sound tolerated kept middle) disk)
    (continued : ∀ value next, middle value next →
      wpOf allowed (rest value) (Post.disturbed allowed sound tolerated kept goal) next) :
    wpOf allowed (program >>= rest) (Post.disturbed allowed sound tolerated kept goal) disk :=
  wp_bind (wp_mono part continued (fun _ _ held => held) (fun _ held => held))

end Disturbed

end Soma.Crash
