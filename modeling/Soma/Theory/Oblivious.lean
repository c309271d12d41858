import Soma.Theory.Transaction

/-!
Bodies that read through a cache. A cache is coherent when what it holds is what a
read would give; a body is oblivious of the cache when it returns or raises the
same from every coherent one and leaves a coherent one behind. What is put
together from oblivious bodies is oblivious.
-/

namespace Soma.Transaction

universe u

variable {State Error Result Final Element : Type u}

/-- The body does not let the cache show, and keeps it coherent. -/
structure Oblivious (coherent : State → Prop) (body : Body State Error Result) : Prop where
  same : ∀ state other, coherent state → coherent other →
    (body.run state).map Prod.fst = (body.run other).map Prod.fst
  kept : ∀ state value next, coherent state → body.run state = .ok (value, next) → coherent next

namespace Oblivious

variable {coherent : State → Prop} {body : Body State Error Result}

/-- What is returned from one coherent cache is returned from any other. -/
theorem returned (oblivious : Oblivious coherent body) {state other next : State} {value : Result}
    (here : coherent state) (there : coherent other) (ran : body.run state = .ok (value, next)) :
    ∃ last, body.run other = .ok (value, last) := by
  have same := oblivious.same state other here there
  rw [ran] at same
  cases outcome : body.run other with
  | error error =>
    rw [outcome] at same
    cases same
  | ok pair =>
    rw [outcome] at same
    cases same
    exact ⟨pair.2, rfl⟩

theorem raised (oblivious : Oblivious coherent body) {state other : State} {error : Error}
    (here : coherent state) (there : coherent other) (ran : body.run state = .error error) :
    body.run other = .error error := by
  have same := oblivious.same state other here there
  rw [ran] at same
  cases outcome : body.run other with
  | error error =>
    rw [outcome] at same
    cases same
    rfl
  | ok pair =>
    rw [outcome] at same
    cases same

theorem attempt (outcome : Except Error Result) :
    Oblivious coherent (Transaction.attempt outcome) where
  same _ _ _ _ := by cases outcome <;> rfl
  kept _ _ _ here ran := (attempt_ok.mp ran).2 ▸ here

theorem pure (value : Result) : Oblivious coherent (Pure.pure value : Body State Error Result) :=
  attempt (.ok value)

theorem require (condition : Prop) [Decidable condition] (error : Error) :
    Oblivious coherent (Transaction.require condition error) where
  same _ _ _ _ := by
    by_cases holds : condition
    · rw [Transaction.require, if_pos holds]
      rfl
    · rw [Transaction.require, if_neg holds]
      rfl
  kept _ _ _ here ran := (require_ok.mp ran).2 ▸ here

theorem bind {rest : Result → Body State Error Final} (first : Oblivious coherent body)
    (second : ∀ value, Oblivious coherent (rest value)) : Oblivious coherent (body >>= rest) where
  same state other here there := by
    cases outcome : body.run state with
    | error error =>
      rw [run_bind_of_error outcome, run_bind_of_error (first.raised here there outcome)]
    | ok pair =>
      obtain ⟨_, returns⟩ := first.returned here there outcome
      rw [run_bind_of_ok outcome, run_bind_of_ok returns]
      exact (second pair.1).same _ _ (first.kept _ _ _ here outcome)
        (first.kept _ _ _ there returns)
  kept state value next here ran := by
    obtain ⟨middle, _, early, late⟩ := bind_ok.mp ran
    exact (second middle).kept _ _ _ (first.kept _ _ _ here early) late

end Oblivious

end Soma.Transaction
