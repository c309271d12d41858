import Soma.Theory.Transaction

/-!
What a call comes to, said of its value and of its error at once: `Yields good
wrong` holds of a call that returns a good value or raises nothing wrong. Calls
in a row and loops have one rule each.
-/

namespace Soma.Transaction

universe u

variable {Error : Type} {Result Image Element : Type u} {good : Result → Prop}
  {wrong : Error → Prop}

/-- A returned value is good, and a raised error is not of the wrong kind. -/
def Yields (good : Result → Prop) (wrong : Error → Prop) : Except Error Result → Prop
  | .ok value => good value
  | .error raised => ¬ wrong raised

namespace Yields

variable {outcome : Except Error Result}

theorem returned (yields : Yields good wrong outcome) {value : Result} (ran : outcome = .ok value) :
    good value := by
  rw [ran] at yields
  exact yields

theorem raised (yields : Yields good wrong outcome) {error : Error} (ran : outcome = .error error) :
    ¬ wrong error := by
  rw [ran] at yields
  exact yields

theorem mono {better : Result → Prop} (yields : Yields better wrong outcome)
    (weaker : ∀ value, better value → good value) : Yields good wrong outcome := by
  cases outcome with
  | ok value => exact weaker value yields
  | error error => exact yields

theorem bind {next : Result → Except Error Image} {final : Image → Prop}
    (first : Yields good wrong outcome)
    (second : ∀ value, good value → Yields final wrong (next value)) :
    Yields final wrong (outcome >>= next) := by
  cases outcome with
  | ok value => exact second value first
  | error error => exact first

variable {round : Result → Element → Except Error Result}

/-- A loop that is followed through the elements it has done. -/
theorem foldlM_done {start : Result} {good : List Element → Result → Prop} (elements : List Element)
    (holds : good [] start) (rounds : ∀ done before, ∀ element ∈ elements, good done before →
      Yields (good (done ++ [element])) wrong (round before element)) :
    Yields (good elements) wrong (elements.foldlM round start) := by
  have rest : ∀ (done left : List Element) (before : Result), (∀ element ∈ left,
      element ∈ elements) → good done before →
        Yields (good (done ++ left)) wrong (left.foldlM round before) := by
    intro done left
    induction left generalizing done with
    | nil =>
      intro before _ kept
      rw [List.append_nil]
      exact kept
    | cons element left ih =>
      intro before inside kept
      rw [List.foldlM_cons]
      have first := rounds done before element (inside _ List.mem_cons_self) kept
      refine first.bind fun next done => ?_
      have later := ih (_ ++ [element]) next
        (fun other listed => inside other (List.mem_cons_of_mem _ listed)) done
      rwa [List.append_assoc, List.singleton_append] at later
  exact rest [] elements start (fun _ inside => inside) holds

/-- A loop whose rounds, each for one of its elements, keep what holds at its start. -/
theorem foldlM_mem {elements : List Element} {start : Result} (holds : good start)
    (rounds : ∀ before, ∀ element ∈ elements, good before →
      Yields good wrong (round before element)) : Yields good wrong (elements.foldlM round start) :=
  have followed : Yields ((fun _ => good) elements) wrong (elements.foldlM round start) :=
    foldlM_done elements holds fun _ => rounds
  followed

theorem foldlM {elements : List Element} {start : Result} (holds : good start)
    (rounds : ∀ before element, good before → Yields good wrong (round before element)) :
    Yields good wrong (elements.foldlM round start) :=
  foldlM_mem holds fun before element _ => rounds before element

theorem mapM {visit : Element → Except Error Image} {good : Image → Prop} {elements : List Element}
    (each : ∀ element ∈ elements, Yields good wrong (visit element)) :
    Yields (fun images => ∀ image ∈ images, good image) wrong (elements.mapM visit) := by
  induction elements with
  | nil => exact fun image inside => absurd inside List.not_mem_nil
  | cons element elements ih =>
    rw [List.mapM_cons]
    refine (each element List.mem_cons_self).bind fun image first => ?_
    refine (ih fun other inside => each other (List.mem_cons_of_mem _ inside)).bind ?_
    intro images rest other inside
    rcases List.mem_cons.mp inside with rfl | inside
    · exact first
    · exact rest other inside

end Yields

end Soma.Transaction
