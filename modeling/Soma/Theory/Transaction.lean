import Mathlib.Data.List.ReduceOption
import Soma.Theory.Rows

/-!
Transactions as state passing with exceptions. A body reads and rewrites a
working copy of the state and may raise; `commit` makes the working copy
durable only when the body returns, so a raised error leaves the state as it
was. The lemmas take a successful body apart step by step, without unfolding
the monad.
-/

namespace Soma.Transaction

universe u v

variable {State Error Result Final : Type u}

/-- A transaction body over a working copy of the state. -/
abbrev Body (State Error Result : Type u) : Type u :=
  StateT State (Except Error) Result

/-- Raises `error` unless the condition holds. -/
def require (condition : Prop) [Decidable condition] (error : Error) : Body State Error PUnit :=
  if condition then pure ⟨⟩ else throw error

/-- Runs a computation that does not touch the state. -/
def attempt (outcome : Except Error Result) : Body State Error Result :=
  fun state => outcome.map fun value => (value, state)

/-- Moves to the state built from the condition, or raises when it fails: a
write to a store whose type carries its constraints. -/
def setChecked (condition : Prop) [Decidable condition] (next : condition → State) (error : Error) :
    Body State Error PUnit :=
  if holds : condition then set (next holds) else throw error

/-- Replaces whatever the body raises by `error`. -/
def reraise (error : Error) (body : Body State Error Result) : Body State Error Result :=
  fun state => match body.run state with
    | .ok pair => .ok pair
    | .error _ => .error error

/-- Runs a body over one part of the state. -/
def within {Part : Type u} (part : State → Part) (update : Part → State → State)
    (body : Body Part Error Result) : Body State Error Result :=
  fun state => (body.run (part state)).map fun pair => (pair.1, update pair.2 state)

/-- Runs the body on the current state; only a body that returns is made durable. -/
def commit (body : Body State Error Result) (state : State) : Except Error Result × State :=
  match body.run state with
  | .ok (value, next) => (.ok value, next)
  | .error error => (.error error, state)

section Inversion

variable {state next : State} {value : Result} {error : Error}

theorem pure_ok :
    StateT.run (pure returned : Body State Error Result) state = .ok (value, next) ↔
      returned = value ∧ state = next := by
  change Except.ok (returned, state) = Except.ok (value, next) ↔ _
  simp

theorem throw_ok :
    StateT.run (throw error : Body State Error Result) state = .ok (value, next) ↔ False := by
  simp [StateT.run, throw, throwThe, MonadExceptOf.throw, StateT.lift, bind, Except.bind]

theorem bind_ok {body : Body State Error Result} {rest : Result → Body State Error Final}
    {final : Final} {last : State} :
    StateT.run (body >>= rest) state = .ok (final, last) ↔
      ∃ value middle, body.run state = .ok (value, middle) ∧
        (rest value).run middle = .ok (final, last) := by
  simp only [StateT.run, bind, StateT.bind, Except.bind]
  cases h : body state with
  | error error => simp
  | ok pair => exact ⟨fun ran => ⟨pair.1, pair.2, rfl, ran⟩, by rintro ⟨_, _, same, ran⟩; cases same; exact ran⟩

theorem require_ok {condition : Prop} [Decidable condition] {value : PUnit} :
    StateT.run (require condition error : Body State Error PUnit) state = .ok (value, next) ↔
      condition ∧ state = next := by
  by_cases holds : condition
  · simp only [require, holds, if_true, pure_ok, true_and]
  · simp only [require, holds, if_false, throw_ok, false_and]

theorem attempt_ok :
    StateT.run (attempt outcome : Body State Error Result) state = .ok (value, next) ↔
      outcome = .ok value ∧ state = next := by
  cases outcome <;> simp [attempt, StateT.run, Except.map]

theorem reraise_ok :
    (reraise error body).run state = .ok (value, next) ↔ body.run state = .ok (value, next) := by
  show reraise error body state = _ ↔ _
  unfold reraise
  cases body.run state <;> simp

theorem get_ok {read : State} :
    StateT.run (get : Body State Error State) state = .ok (read, next) ↔
      state = read ∧ state = next := by
  simp [StateT.run, get, getThe, MonadStateOf.get, StateT.get, pure, Except.pure]

theorem set_ok {written : State} {value : PUnit} :
    StateT.run (set written : Body State Error PUnit) state = .ok (value, next) ↔
      written = next := by
  change Except.ok (PUnit.unit, written) = Except.ok (value, next) ↔ _
  simp

theorem setChecked_ok {condition : Prop} [Decidable condition] {build : condition → State}
    {value : PUnit} :
    (setChecked condition build error).run state = .ok (value, next) ↔
      ∃ holds : condition, build holds = next := by
  by_cases holds : condition
  · simp only [setChecked, holds, dif_pos, set_ok, exists_true_left]
  · simp only [setChecked, holds, dif_neg, not_false_eq_true, throw_ok, false_iff]
    exact fun ⟨violated, _⟩ => violated

/-- The rules that take a successful body apart step by step, for `simp only`. -/
theorem steps_ok :
    (∀ {State Error Result Final : Type u} {body : Body State Error Result}
      {rest : Result → Body State Error Final} {final : Final} {state last : State},
      StateT.run (body >>= rest) state = .ok (final, last) ↔
        ∃ value middle, body.run state = .ok (value, middle) ∧
          (rest value).run middle = .ok (final, last)) ∧
    (∀ {State Error Result : Type u} {outcome : Except Error Result} {state next : State}
      {value : Result}, StateT.run (attempt outcome) state = .ok (value, next) ↔
        outcome = .ok value ∧ state = next) ∧
    (∀ {State Error : Type u} {condition : Prop} [Decidable condition] {error : Error}
      {state next : State} {value : PUnit},
      StateT.run (require condition error) state = .ok (value, next) ↔
        condition ∧ state = next) ∧
    (∀ {State Error : Type u} {state read next : State},
      StateT.run (get : Body State Error State) state = .ok (read, next) ↔
        state = read ∧ state = next) ∧
    (∀ {State Error : Type u} {written state next : State} {value : PUnit},
      StateT.run (set written : Body State Error PUnit) state = .ok (value, next) ↔
        written = next) ∧
    (∀ {State Error Result : Type u} {returned value : Result} {state next : State},
      StateT.run (pure returned : Body State Error Result) state = .ok (value, next) ↔
        returned = value ∧ state = next) ∧
    (∀ {State : Type u} {condition : Prop} {before : State} {holds : State → Prop},
      (∃ after, (condition ∧ before = after) ∧ holds after) ↔ condition ∧ holds before) ∧
    (∀ {State : Type u} {before : State} {holds : State → Prop},
      (∃ after, before = after ∧ holds after) ↔ holds before) ∧
    (∀ {holds : PUnit.{u + 1} → Prop}, (∃ done, holds done) ↔ holds ⟨⟩) :=
  ⟨bind_ok, attempt_ok, require_ok, get_ok, set_ok, pure_ok, by simp, by simp,
    ⟨fun ⟨_, holds⟩ => holds, fun holds => ⟨⟨⟩, holds⟩⟩⟩

theorem bind_error {body : Body State Error Result} {rest : Result → Body State Error Final} :
    StateT.run (body >>= rest) state = .error error ↔
      body.run state = .error error ∨
        ∃ value middle, body.run state = .ok (value, middle) ∧
          (rest value).run middle = .error error := by
  simp only [StateT.run, bind, StateT.bind, Except.bind]
  cases body state with
  | error raised => simp
  | ok pair =>
    obtain ⟨value, middle⟩ := pair
    constructor
    · exact fun raised => .inr ⟨value, middle, rfl, raised⟩
    · rintro (impossible | ⟨_, _, same, raised⟩)
      · cases impossible
      · cases same
        exact raised

theorem pure_error :
    StateT.run (pure returned : Body State Error Result) state = .error error ↔ False := by
  change Except.ok (returned, state) = Except.error error ↔ _
  simp

theorem throw_error :
    StateT.run (throw refusal : Body State Error Result) state = .error error ↔ refusal = error := by
  simp [StateT.run, throw, throwThe, MonadExceptOf.throw, StateT.lift, bind, Except.bind]

theorem get_error : StateT.run (get : Body State Error State) state = .error error ↔ False := by
  simp [StateT.run, get, getThe, MonadStateOf.get, StateT.get, pure, Except.pure]

theorem require_error [Decidable condition] :
    StateT.run (require condition refusal : Body State Error PUnit) state = .error error ↔
      ¬ condition ∧ refusal = error := by
  by_cases holds : condition
  · simp only [require, holds, if_true, pure_error, not_true_eq_false, false_and]
  · simp [require, holds, StateT.run, throw, throwThe, MonadExceptOf.throw, StateT.lift, bind,
      Except.bind]

theorem attempt_error :
    StateT.run (attempt outcome : Body State Error Result) state = .error error ↔
      outcome = .error error := by
  cases outcome <;> simp [attempt, StateT.run, Except.map]

theorem setChecked_error [Decidable condition] {build : condition → State} :
    (setChecked condition build refusal).run state = .error error ↔
      ¬ condition ∧ refusal = error := by
  by_cases holds : condition
  · rw [setChecked, dif_pos holds]
    change Except.ok (PUnit.unit, build holds) = Except.error error ↔ _
    simp [holds]
  · simp [setChecked, holds, StateT.run, throw, throwThe, MonadExceptOf.throw, StateT.lift, bind,
      Except.bind]

theorem run_bind_of_ok {body : Body State Error Result} {rest : Result → Body State Error Final}
    (ran : body.run state = .ok (value, next)) :
    (body >>= rest).run state = (rest value).run next := by
  simp only [StateT.run, bind, StateT.bind, Except.bind] at ran ⊢
  rw [ran]

theorem run_bind_of_error {body : Body State Error Result}
    {rest : Result → Body State Error Final} (ran : body.run state = .error error) :
    (body >>= rest).run state = .error error := by
  simp only [StateT.run, bind, StateT.bind, Except.bind] at ran ⊢
  rw [ran]

theorem attempt_bind {rest : Result → Body State Error Final} :
    (attempt (.ok value) : Body State Error Result) >>= rest = rest value := by
  funext state
  rfl

theorem run_attempt_bind_ok {rest : Result → Body State Error Final} (found : outcome = .ok value) :
    StateT.run (attempt outcome >>= rest) state = (rest value).run state :=
  run_bind_of_ok (attempt_ok.mpr ⟨found, rfl⟩)

theorem run_attempt_bind_error {rest : Result → Body State Error Final}
    (found : outcome = .error error) :
    StateT.run (attempt outcome >>= rest) state = .error error := by
  refine run_bind_of_error ?_
  rw [found]
  rfl

end Inversion

section Loops

theorem mapM_ok {Element Image : Type u} {visit : Element → Except Error Image}
    {elements : List Element} {images : List Image} :
    elements.mapM visit = .ok images ↔
      List.Forall₂ (fun element image => visit element = .ok image) elements images := by
  induction elements generalizing images with
  | nil => cases images <;> simp [pure, Except.pure]
  | cons element elements ih =>
    rw [List.mapM_cons]
    cases first : visit element with
    | error raised =>
      constructor
      · intro ran
        simp [bind, Except.bind] at ran
      · rintro (_ | ⟨visited, _⟩)
        rw [first] at visited
        cases visited
    | ok image =>
      cases others : elements.mapM visit with
      | error raised =>
        constructor
        · intro ran
          simp [bind, Except.bind] at ran
        · rintro (_ | ⟨_, rest⟩)
          rw [ih.mpr rest] at others
          cases others
      | ok tail =>
        constructor
        · intro ran
          simp only [bind, Except.bind, pure, Except.pure, Except.ok.injEq] at ran
          subst ran
          exact .cons first (ih.mp others)
        · rintro (_ | ⟨visited, rest⟩)
          rw [first] at visited
          rw [ih.mpr rest] at others
          cases visited
          cases others
          rfl

/-- A traversal that returns, returned an image of each element. -/
theorem image_of_mem {Element Image : Type u} {visit : Element → Except Error Image}
    {elements : List Element} {images : List Image} (ran : elements.mapM visit = .ok images)
    {element : Element} (inside : element ∈ elements) :
    ∃ image ∈ images, visit element = .ok image :=
  Rows.exists_of_mem_images (mapM_ok.mp ran).flip inside

theorem mem_of_image {Element Image : Type u} {visit : Element → Except Error Image}
    {elements : List Element} {images : List Image} (ran : elements.mapM visit = .ok images)
    {image : Image} (inside : image ∈ images) :
    ∃ element ∈ elements, visit element = .ok image :=
  Rows.exists_of_mem_images (mapM_ok.mp ran) inside

theorem sublist_reduceOption {Element Image : Type u} {Key : Type v}
    {visit : Element → Except Error (Option Image)} {key : Element → Key} {imageKey : Image → Key}
    {elements : List Element} {images : List (Option Image)}
    (visited : List.Forall₂ (fun element image => visit element = .ok image) elements images)
    (same : ∀ element ∈ elements, ∀ image, visit element = .ok (some image) →
      imageKey image = key element) :
    (images.reduceOption.map imageKey).Sublist (elements.map key) := by
  induction visited with
  | nil => exact .slnil
  | @cons element image elements images found _ ih =>
    have rest := ih fun other inside => same other (List.mem_cons_of_mem _ inside)
    cases image with
    | none =>
      rw [List.reduceOption_cons_of_none]
      exact rest.cons _
    | some kept =>
      rw [List.reduceOption_cons_of_some, List.map_cons, List.map_cons,
        same element List.mem_cons_self kept found]
      exact rest.cons_cons _

/-- A traversal returns when it returns on each element. -/
theorem mapM_succeeds {Element Image : Type u} {visit : Element → Except Error Image}
    {elements : List Element} (each : ∀ element ∈ elements, ∃ image, visit element = .ok image) :
    ∃ images, elements.mapM visit = .ok images := by
  induction elements with
  | nil => exact ⟨[], rfl⟩
  | cons element elements ih =>
    obtain ⟨image, found⟩ := each element List.mem_cons_self
    obtain ⟨images, rest⟩ := ih fun other inside => each other (List.mem_cons_of_mem _ inside)
    exact ⟨image :: images, mapM_ok.mpr (.cons found (mapM_ok.mp rest))⟩

/-- Where one traversal returns, so does another that returns on each element
something with the same key. -/
theorem mapM_transfer {Element Image Key : Type u} {visit visit' : Element → Except Error Image}
    {key : Image → Key} {elements : List Element} {images : List Image}
    (each : ∀ element image, visit element = .ok image →
      ∃ image', visit' element = .ok image' ∧ key image' = key image)
    (ran : elements.mapM visit = .ok images) :
    ∃ images', elements.mapM visit' = .ok images' ∧ images'.map key = images.map key := by
  have visited := mapM_ok.mp ran
  clear ran
  induction visited with
  | nil => exact ⟨[], rfl, rfl⟩
  | @cons element image elements images found _ ih =>
    obtain ⟨image', found', same⟩ := each element image found
    obtain ⟨images', rest, others⟩ := ih
    refine ⟨image' :: images', ?_, by rw [List.map_cons, List.map_cons, same, others]⟩
    exact mapM_ok.mpr (.cons found' (mapM_ok.mp rest))

/-- What every round of a loop keeps, the loop keeps. -/
theorem foldlM_keeps {Element : Type u} {round : Result → Element → Body State Error Result}
    (Kept : Result → Prop) (kept : ∀ before element after state next, Kept before →
      (round before element).run state = .ok (after, next) → Kept after) {elements : List Element}
    (holds : Kept before) (ran : (elements.foldlM round before).run state = .ok (after, next)) :
    Kept after := by
  induction elements generalizing before state with
  | nil =>
    rw [List.foldlM_nil, pure_ok] at ran
    exact ran.1 ▸ holds
  | cons element elements ih =>
    rw [List.foldlM_cons, bind_ok] at ran
    obtain ⟨_, _, first, rest⟩ := ran
    exact ih (kept _ _ _ _ _ holds first) rest

end Loops

/-! ## Invariants of a body -/

/-- A body that returns leaves the invariant as it found it. -/
def Keeps (Inv : State → Prop) (body : Body State Error Result) : Prop :=
  ∀ ⦃state next value⦄, Inv state → body.run state = .ok (value, next) → Inv next

namespace Keeps

variable {Inv : State → Prop}

protected theorem bind {body : Body State Error Result} {rest : Result → Body State Error Final}
    (first : Keeps Inv body) (others : ∀ value, Keeps Inv (rest value)) :
    Keeps Inv (body >>= rest) := by
  intro state next value holds ran
  rw [bind_ok] at ran
  obtain ⟨middle, _, ran, ran'⟩ := ran
  exact others middle (first holds ran) ran'

protected theorem pure (value : Result) : Keeps Inv (pure value : Body State Error Result) := by
  intro state next returned holds ran
  rw [pure_ok] at ran
  exact ran.2 ▸ holds

protected theorem attempt (outcome : Except Error Result) : Keeps Inv (attempt outcome) := by
  intro state next value holds ran
  rw [attempt_ok] at ran
  exact ran.2 ▸ holds

protected theorem require (condition : Prop) [Decidable condition] (error : Error) :
    Keeps Inv (require condition error) := by
  intro state next value holds ran
  rw [require_ok] at ran
  exact ran.2 ▸ holds

protected theorem throw (error : Error) : Keeps Inv (throw error : Body State Error Result) := by
  intro state next value holds ran
  rw [throw_ok] at ran
  exact ran.elim

protected theorem get : Keeps Inv (get : Body State Error State) := by
  intro state next value holds ran
  rw [get_ok] at ran
  exact ran.2 ▸ holds

end Keeps

/-! ## What a body may raise -/

/-- Whatever the computation raises is allowed. -/
def RaisesOnly (Allowed : Error → Prop) (outcome : Except Error Result) : Prop :=
  ∀ ⦃error⦄, outcome = .error error → Allowed error

/-- Whatever the body raises on some state is allowed. -/
def BodyRaisesOnly (Allowed : Error → Prop) (body : Body State Error Result) : Prop :=
  ∀ state, RaisesOnly Allowed (body.run state)

section Raises

variable {Allowed : Error → Prop}

protected theorem RaisesOnly.ok (value : Result) : RaisesOnly Allowed (.ok value) := by
  rintro error ⟨⟩

protected theorem RaisesOnly.of_ok (value : Result) (done : outcome = .ok value) :
    RaisesOnly Allowed outcome :=
  done ▸ RaisesOnly.ok value

protected theorem RaisesOnly.error {error : Error} (allowed : Allowed error) :
    RaisesOnly Allowed (.error error : Except Error Result) := by
  rintro raised ⟨⟩
  exact allowed

protected theorem RaisesOnly.bind_of_ok {rest : Result → Except Error Final}
    (first : RaisesOnly Allowed outcome)
    (others : ∀ value, outcome = .ok value → RaisesOnly Allowed (rest value)) :
    RaisesOnly Allowed (outcome >>= rest) := by
  intro error ran
  cases outcome with
  | error raised =>
    cases ran
    exact first rfl
  | ok value => exact others value rfl ran

protected theorem RaisesOnly.bind {outcome : Except Error Result} {rest : Result → Except Error Final}
    (first : RaisesOnly Allowed outcome) (others : ∀ value, RaisesOnly Allowed (rest value)) :
    RaisesOnly Allowed (outcome >>= rest) :=
  .bind_of_ok first fun value _ => others value

theorem RaisesOnly.mono {Wider : Error → Prop} {outcome : Except Error Result}
    (raises : RaisesOnly Allowed outcome) (wider : ∀ error, Allowed error → Wider error) :
    RaisesOnly Wider outcome :=
  fun error ran => wider error (raises ran)

protected theorem RaisesOnly.mapM {Element Image : Type u} {visit : Element → Except Error Image}
    (each : ∀ element, RaisesOnly Allowed (visit element)) (elements : List Element) :
    RaisesOnly Allowed (elements.mapM visit) := by
  induction elements with
  | nil => exact .ok []
  | cons element elements ih =>
    rw [List.mapM_cons]
    exact .bind (each element) fun _ => .bind ih fun _ => .ok _

protected theorem RaisesOnly.run_bind {body : Body State Error Result}
    {rest : Result → Body State Error Final} {state : State}
    (first : RaisesOnly Allowed (body.run state))
    (others : ∀ value middle, body.run state = .ok (value, middle) →
      RaisesOnly Allowed ((rest value).run middle)) :
    RaisesOnly Allowed (StateT.run (body >>= rest) state) := by
  intro error ran
  rcases bind_error.mp ran with raised | ⟨value, middle, done, raised⟩
  · exact first raised
  · exact others value middle done raised

protected theorem BodyRaisesOnly.bind {body : Body State Error Result}
    {rest : Result → Body State Error Final} (first : BodyRaisesOnly Allowed body)
    (others : ∀ value, BodyRaisesOnly Allowed (rest value)) :
    BodyRaisesOnly Allowed (body >>= rest) :=
  fun state => .run_bind (first state) fun value middle _ => others value middle

protected theorem BodyRaisesOnly.pure (value : Result) :
    BodyRaisesOnly Allowed (pure value : Body State Error Result) :=
  fun _ _ ran => (pure_error.mp ran).elim

protected theorem BodyRaisesOnly.get : BodyRaisesOnly Allowed (get : Body State Error State) :=
  fun _ _ ran => (get_error.mp ran).elim

protected theorem BodyRaisesOnly.set (written : State) :
    BodyRaisesOnly Allowed (set written : Body State Error PUnit) := by
  rintro state error ⟨⟩

protected theorem BodyRaisesOnly.throw (allowed : Allowed error) :
    BodyRaisesOnly Allowed (throw error : Body State Error Result) :=
  fun _ _ ran => throw_error.mp ran ▸ allowed

protected theorem BodyRaisesOnly.require [Decidable condition] (allowed : Allowed error) :
    BodyRaisesOnly Allowed (require condition error : Body State Error PUnit) :=
  fun _ _ ran => (require_error.mp ran).2 ▸ allowed

protected theorem BodyRaisesOnly.attempt (raises : RaisesOnly Allowed outcome) :
    BodyRaisesOnly Allowed (attempt outcome : Body State Error Result) :=
  fun _ _ ran => raises (attempt_error.mp ran)

end Raises

theorem ok_of_toOption {Error Result : Type u} {outcome : Except Error Result} {value : Result}
    (returned : outcome.toOption = some value) : outcome = .ok value := by
  cases outcome with
  | error raised => cases returned
  | ok found => exact congrArg Except.ok (Option.some.inj returned)

section Commit

variable {body : Body State Error Result} {state : State} {value : Result} {error : Error}

theorem commit_ok (ran : (commit body state).1 = .ok value) :
    body.run state = .ok (value, (commit body state).2) := by
  unfold commit at ran ⊢
  cases h : body.run state with
  | error error => simp [h] at ran
  | ok pair =>
    simp only [h, Except.ok.injEq] at ran
    rw [← ran]

theorem commit_of_ok (ran : body.run state = .ok (value, next)) :
    commit body state = (.ok value, next) := by
  unfold commit
  rw [ran]

theorem commit_raises : (commit body state).1 = .error error ↔ body.run state = .error error := by
  unfold commit
  cases body.run state <;> simp

/-- A transaction rolls back or ends where its body returns. -/
theorem commit_holds {Inv : State → Prop} (holds : Inv state)
    (done : ∀ value next, body.run state = .ok (value, next) → Inv next) :
    Inv (commit body state).2 := by
  unfold commit
  cases ran : body.run state with
  | error raised => exact holds
  | ok pair => exact done _ _ ran

theorem commit_keeps {Inv : State → Prop} (keeps : Keeps Inv body) (holds : Inv state) :
    Inv (commit body state).2 :=
  commit_holds holds fun _ _ ran => keeps holds ran

theorem raisesOnly_commit {Allowed : Error → Prop} (raises : RaisesOnly Allowed (body.run state)) :
    RaisesOnly Allowed (commit body state).1 :=
  fun _ ran => raises (commit_raises.mp ran)

/-- A raised error rolls every write back. -/
theorem commit_error (raised : (commit body state).1 = .error error) :
    (commit body state).2 = state := by
  unfold commit at raised ⊢
  cases h : body.run state with
  | error error => rfl
  | ok pair => simp [h] at raised

end Commit

end Soma.Transaction
