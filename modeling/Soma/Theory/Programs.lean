import Mathlib.Logic.Basic

/-!
Programs that run over a state one atomic operation at a time, with
surroundings that decide what becomes of each operation. A program returns,
raises, or is cut off at one of its operations; an exception can be handled, a
cut cannot, and what the state is at that moment stays. Cutting a program off
is also how a condition is stated that must hold all along.

`wpOf allowed program post` holds of the states from which every run whose
surroundings do only what is allowed ends as `post` says. The rules take a
program apart along its sequencing, so a proof states what holds at each
operation and nothing about the surroundings' choices.
-/

namespace Soma.Programs

variable {State Event Error Result Final : Type}

/-- How a run ends. -/
inductive Outcome (Error Result : Type) where
  | returned (value : Result)
  | raised (error : Error)
  | died
  deriving DecidableEq

/-- The state, and what the surroundings will do at the operations to come. -/
structure World (State Event : Type) where
  disk : State
  events : List Event

def Program (State Event Error Result : Type) : Type :=
  World State Event → Outcome Error Result × World State Event

instance : Monad (Program State Event Error) where
  pure value := fun world => (.returned value, world)
  bind program rest := fun world =>
    match program world with
    | (.returned value, next) => rest value next
    | (.raised error, next) => (.raised error, next)
    | (.died, next) => (.died, next)

/-- Raises `error`. -/
def raise (error : Error) : Program State Event Error Result := fun world => (.raised error, world)

/-- A computation that touches no state. -/
def check : Except Error Result → Program State Event Error Result
  | .ok value => pure value
  | .error error => raise error

/-- One atomic operation; without an event the surroundings leave it alone. -/
def perform (effect : Option Event → State → Outcome Error Result × State) :
    Program State Event Error Result := fun world =>
  match effect world.events.head? world.disk with
  | (outcome, next) => (outcome, ⟨next, world.events.tail⟩)

/-- Reads the state between two operations. -/
def observe : Program State Event Error State := fun world => (.returned world.disk, world)

/-- Turns an exception of the body into a value. -/
def caught (body : Program State Event Error Result) :
    Program State Event Error (Except Error Result) := fun world =>
  match body world with
  | (.returned value, next) => (.returned (.ok value), next)
  | (.raised error, next) => (.returned (.error error), next)
  | (.died, next) => (.died, next)

/-- Runs `handler` on an exception of the body. -/
def handle (body : Program State Event Error Result)
    (handler : Error → Program State Event Error Result) : Program State Event Error Result := do
  match ← caught body with
  | .ok value => pure value
  | .error error => handler error

/-- What a run must establish, by the way it ends. -/
structure Post (State Error Result : Type) where
  returned : Result → State → Prop
  raised : Error → State → Prop
  died : State → Prop

def Post.holds (post : Post State Error Result) : Outcome Error Result → State → Prop
  | .returned value => post.returned value
  | .raised error => post.raised error
  | .died => post.died

/-- One condition on the state, however the run ends. -/
def Post.always (condition : State → Prop) : Post State Error Result where
  returned _ := condition
  raised _ := condition
  died := condition

/-- Every run from this state with allowed events ends as `post` says, with
allowed events left. -/
def wpOf (allowed : Event → Prop) (program : Program State Event Error Result)
    (post : Post State Error Result) (state : State) : Prop :=
  ∀ events, (∀ event ∈ events, allowed event) →
    post.holds (program ⟨state, events⟩).1 (program ⟨state, events⟩).2.disk ∧
    ∀ event ∈ (program ⟨state, events⟩).2.events, allowed event

/-- Every run from this state ends as `post` says. -/
abbrev wp (program : Program State Event Error Result) (post : Post State Error Result)
    (state : State) : Prop :=
  wpOf (fun _ => True) program post state

section Rules

variable {allowed : Event → Prop} {post post' : Post State Error Result} {state : State}

variable {program : Program State Event Error Result}

theorem wp_run (held : wp program post state) (events : List Event) :
    post.holds (program ⟨state, events⟩).1 (program ⟨state, events⟩).2.disk :=
  (held events fun _ _ => trivial).1

/-- A condition that holds however a run ends holds of the state it leaves. -/
theorem wpOf_always {condition : State → Prop}
    (held : wpOf allowed program (Post.always condition) state)
    (allow : ∀ event ∈ events, allowed event) : condition (program ⟨state, events⟩).2.disk := by
  have outcome := (held events allow).1
  cases ended : (program ⟨state, events⟩).1 with
  | returned value | raised error | died =>
    rw [ended] at outcome
    exact outcome

theorem wp_always {condition : State → Prop} (held : wp program (Post.always condition) state)
    (events : List Event) : condition (program ⟨state, events⟩).2.disk :=
  wpOf_always held fun _ _ => trivial

theorem wp_mono (held : wpOf allowed program post state)
    (returned : ∀ value state, post.returned value state → post'.returned value state)
    (raised : ∀ error state, post.raised error state → post'.raised error state)
    (died : ∀ state, post.died state → post'.died state) : wpOf allowed program post' state := by
  intro events allow
  obtain ⟨outcome, rest⟩ := held events allow
  refine ⟨?_, rest⟩
  cases ended : (program ⟨state, events⟩).1 with
  | returned value =>
    rw [ended] at outcome
    exact returned value _ outcome
  | raised error =>
    rw [ended] at outcome
    exact raised error _ outcome
  | died =>
    rw [ended] at outcome
    exact died _ outcome

theorem wp_pure {value : Result} (held : post.returned value state) :
    wpOf allowed (pure value) post state :=
  fun _ allow => ⟨held, allow⟩

theorem wp_raise (held : post.raised error state) : wpOf allowed (raise error) post state :=
  fun _ allow => ⟨held, allow⟩

theorem wp_check {outcome : Except Error Result}
    (raised : ∀ error, outcome = .error error → post.raised error state)
    (returned : ∀ value, outcome = .ok value → post.returned value state) :
    wpOf allowed (check outcome) post state := by
  cases outcome with
  | error error => exact wp_raise (raised error rfl)
  | ok value => exact wp_pure (returned value rfl)

theorem wp_observe {post : Post State Error State} (held : post.returned state state) :
    wpOf allowed observe post state :=
  fun _ allow => ⟨held, allow⟩

/-- One operation: nothing happens to it, or one of the allowed events. -/
theorem wp_perform {effect : Option Event → State → Outcome Error Result × State}
    (alone : post.holds (effect none state).1 (effect none state).2)
    (held : ∀ event, allowed event →
      post.holds (effect (some event) state).1 (effect (some event) state).2) :
    wpOf allowed (perform effect) post state := by
  intro events allow
  cases events with
  | nil => exact ⟨alone, allow⟩
  | cons event rest =>
    refine ⟨held event (allow event List.mem_cons_self), fun later member => ?_⟩
    exact allow later (List.mem_cons_of_mem event member)

/-- Sequencing: the first program must end where the second may start. -/
theorem wp_bind {rest : Result → Program State Event Error Final} {post : Post State Error Final}
    (held : wpOf allowed program
      ⟨fun value => wpOf allowed (rest value) post, post.raised, post.died⟩ state) :
    wpOf allowed (program >>= rest) post state := by
  intro events allow
  obtain ⟨first, later⟩ := held events allow
  simp only [bind]
  cases ran : program ⟨state, events⟩ with
  | mk outcome next =>
    rw [ran] at first later
    cases outcome with
    | returned value => exact first next.events later
    | raised error => exact ⟨first, later⟩
    | died => exact ⟨first, later⟩

theorem wp_caught {body : Program State Event Error Result}
    {post : Post State Error (Except Error Result)}
    (held : wpOf allowed body ⟨fun value => post.returned (.ok value),
      fun error => post.returned (.error error), post.died⟩ state) :
    wpOf allowed (caught body) post state := by
  intro events allow
  obtain ⟨first, later⟩ := held events allow
  unfold caught
  cases ran : body ⟨state, events⟩ with
  | mk outcome next =>
    rw [ran] at first later
    cases outcome with
    | returned value => exact ⟨first, later⟩
    | raised error => exact ⟨first, later⟩
    | died => exact ⟨first, later⟩

theorem wp_handle {body : Program State Event Error Result}
    {handler : Error → Program State Event Error Result}
    (held : wpOf allowed body
      ⟨post.returned, fun error => wpOf allowed (handler error) post, post.died⟩ state) :
    wpOf allowed (handle body handler) post state := by
  refine wp_bind (wp_caught (wp_mono held ?_ (fun _ _ handled => handled) (fun _ died => died)))
  intro value state returned
  exact wp_pure returned

/-- A condition that both programs keep is kept by their sequence. -/
theorem wp_always_bind {rest : Result → Program State Event Error Final} {condition : State → Prop}
    (first : wpOf allowed program (Post.always condition) state)
    (continued : ∀ value now, condition now →
      wpOf allowed (rest value) (Post.always condition) now) :
    wpOf allowed (program >>= rest) (Post.always condition) state :=
  wp_bind (wp_mono first continued (fun _ _ held => held) (fun _ held => held))

end Rules

/-! ## Programs that only read -/

section Reads

variable {allowed : Event → Prop} {state : State}

/-- The state stays as it is, and a value that is returned satisfies `fact`. -/
def Post.reads (state : State) (fact : Result → Prop) : Post State Error Result where
  returned value now := now = state ∧ fact value
  raised _ now := now = state
  died now := now = state

variable {program : Program State Event Error Result}

theorem wp_reads_bind {rest : Result → Program State Event Error Final} {fact : Result → Prop}
    {post : Post State Error Final} (read : wpOf allowed program (Post.reads state fact) state)
    (continued : ∀ value, fact value → wpOf allowed (rest value) post state)
    (raised : ∀ error, post.raised error state) (died : post.died state) :
    wpOf allowed (program >>= rest) post state := by
  refine wp_bind (wp_mono read ?_ ?_ ?_)
  · rintro value _ ⟨rfl, holds⟩
    exact continued value holds
  · rintro error _ rfl
    exact raised error
  · rintro _ rfl
    exact died

theorem reads_bind {rest : Result → Program State Event Error Final} {fact : Result → Prop}
    {fact' : Final → Prop} (read : wpOf allowed program (Post.reads state fact) state)
    (continued : ∀ value, fact value →
      wpOf allowed (rest value) (Post.reads state fact') state) :
    wpOf allowed (program >>= rest) (Post.reads state fact') state :=
  wp_reads_bind read continued (fun _ => rfl) rfl

theorem reads_pure {fact : Result → Prop} (holds : fact value) :
    wpOf allowed (pure value : Program State Event Error Result) (Post.reads state fact) state :=
  wp_pure ⟨rfl, holds⟩

theorem reads_check :
    wpOf allowed (check outcome : Program State Event Error Result)
      (Post.reads state fun value => outcome = .ok value) state :=
  wp_check (fun _ _ => rfl) fun _ found => ⟨rfl, found⟩

theorem reads_mono {fact fact' : Result → Prop}
    (read : wpOf allowed program (Post.reads state fact) state)
    (weaker : ∀ value, fact value → fact' value) :
    wpOf allowed program (Post.reads state fact') state :=
  wp_mono read (fun value _ ⟨same, holds⟩ => ⟨same, weaker value holds⟩) (fun _ _ same => same)
    (fun _ same => same)

end Reads

end Soma.Programs
