import Mathlib.Data.List.Chain

/-!
Append-only histories of keyed values. An event belongs to a key and says which
value it found and which it left, where a value may be absent. A history is
`Chained` when every event found what the event of its key before it left, and
appending an event that found the latest value keeps it so.
-/

namespace Soma.History

/-- How the events of a history are read. -/
structure Reading (Event Key Value : Type*) where
  key : Event → Key
  found : Event → Option Value
  left : Event → Option Value

namespace Reading

variable {Event Key Value : Type*} [DecidableEq Key] (reading : Reading Event Key Value)

/-- The events of a key. -/
def of (events : List Event) (key : Key) : List Event :=
  events.filter fun event => reading.key event = key

/-- The value the events leave of a key. -/
def latest (events : List Event) (key : Key) : Option Value :=
  (reading.of events key).getLast?.bind reading.left

/-- Every event found what the event of its key before it left. -/
def Chained (events : List Event) : Prop :=
  ∀ key, (reading.of events key).IsChain fun earlier later =>
    reading.found later = reading.left earlier

variable {reading} {events : List Event} {event : Event} {key : Key}

theorem of_append : reading.of (events ++ [event]) key =
    if reading.key event = key then reading.of events key ++ [event]
    else reading.of events key := by
  rw [of, List.filter_append]
  by_cases same : reading.key event = key
  · simp [of, same]
  · simp [of, same]

theorem latest_append : reading.latest (events ++ [event]) key =
    if reading.key event = key then reading.left event else reading.latest events key := by
  rw [latest, of_append]
  by_cases same : reading.key event = key
  · simp [same]
  · simp [same, latest]

theorem chained_append (chained : reading.Chained events)
    (found : reading.found event = reading.latest events (reading.key event)) :
    reading.Chained (events ++ [event]) := by
  intro key
  rw [of_append]
  by_cases same : reading.key event = key
  · subst same
    rw [if_pos rfl]
    refine List.isChain_append.mpr ⟨chained _, .singleton _, fun last inside next there => ?_⟩
    rw [latest, Option.mem_def.mp inside] at found
    cases there
    exact found
  · rw [if_neg same]
    exact chained key

end Reading

end Soma.History
