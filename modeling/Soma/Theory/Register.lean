import Mathlib.Data.List.Induction
import Mathlib.Data.List.Sort

/-!
A register offered stamped values one after another. It keeps the entries that
change its value and lets one that repeats it pass, so the entries it kept are
not all it was offered. It admits a change only under a newer stamp. What it
then holds is the last value offered, and the newest entry it kept.
-/

namespace Soma.Register

/-- A value and the stamp it was offered under. -/
structure Entry (Value Stamp : Type*) where
  value : Value
  stamp : Stamp
  deriving DecidableEq

variable {Value Stamp : Type*} {newer : Stamp → Stamp → Prop}

theorem below_last {Element : Type*} {below : Element → Element → Prop} {elements : List Element}
    {last : Element} (ordered : elements.Pairwise below) (ends : elements.getLast? = some last) :
    ∀ element ∈ elements, element = last ∨ below element last := by
  obtain ⟨_, rfl⟩ := List.getLast?_eq_some_iff.mp ends
  intro element inside
  rcases List.mem_append.mp inside with earlier | final
  · exact .inr ((List.pairwise_append.mp ordered).2.2 element earlier last (by simp))
  · exact .inl (List.mem_singleton.mp final)

/-- Lists with increasing stamps and the same entries are the same list. -/
theorem same_of_same_entries [Std.Irrefl newer] [Std.Asymm newer]
    {left right : List (Entry Value Stamp)}
    (increasingLeft : left.Pairwise fun old new => newer old.stamp new.stamp)
    (increasingRight : right.Pairwise fun old new => newer old.stamp new.stamp)
    (same : ∀ entry, entry ∈ left ↔ entry ∈ right) : left = right := by
  have : Std.Irrefl fun old new : Entry Value Stamp => newer old.stamp new.stamp :=
    ⟨fun entry => irrefl_of newer entry.stamp⟩
  have : Std.Antisymm fun old new : Entry Value Stamp => newer old.stamp new.stamp :=
    ⟨fun _ _ above below => (asymm_of newer above below).elim⟩
  exact List.Pairwise.eq_of_mem_iff increasingLeft increasingRight same

variable [DecidableEq Value]

/-- The register already holds the value of the entry. -/
def Repeats (kept : List (Entry Value Stamp)) (entry : Entry Value Stamp) : Prop :=
  kept.getLast?.map (·.value) = some entry.value

instance (kept : List (Entry Value Stamp)) (entry : Entry Value Stamp) :
    Decidable (Repeats kept entry) :=
  inferInstanceAs (Decidable (_ = _))

/-- Keeps an entry that changes the value. -/
def keep (kept : List (Entry Value Stamp)) (entry : Entry Value Stamp) : List (Entry Value Stamp) :=
  if Repeats kept entry then kept else kept ++ [entry]

/-- The entries kept of those offered. -/
def kept (offered : List (Entry Value Stamp)) : List (Entry Value Stamp) := offered.foldl keep []

/-- A change comes under a newer stamp than the entry it replaces. -/
def Admits (newer : Stamp → Stamp → Prop) (kept : List (Entry Value Stamp))
    (entry : Entry Value Stamp) : Prop :=
  Repeats kept entry ∨ ∀ last ∈ kept.getLast?, newer last.stamp entry.stamp

/-- Every entry was admitted by the register as the entries before it left it. -/
inductive Admitted (newer : Stamp → Stamp → Prop) : List (Entry Value Stamp) → Prop where
  | empty : Admitted newer []
  | offer {offered : List (Entry Value Stamp)} {entry : Entry Value Stamp} :
      Admitted newer offered → Admits newer (kept offered) entry →
        Admitted newer (offered ++ [entry])

variable {offered : List (Entry Value Stamp)} {entry : Entry Value Stamp}

@[simp] theorem kept_nil : kept ([] : List (Entry Value Stamp)) = [] := rfl

theorem kept_append (entry : Entry Value Stamp) :
    kept (offered ++ [entry]) = keep (kept offered) entry := by
  simp [kept]

theorem keep_of_repeats (repeats : Repeats held entry) : keep held entry = held := by
  rw [keep, if_pos repeats]

theorem keep_of_changes (changes : ¬ Repeats held entry) : keep held entry = held ++ [entry] := by
  rw [keep, if_neg changes]

/-- Kept or not, the value offered last is the value held. -/
theorem held_keep (held : List (Entry Value Stamp)) (entry : Entry Value Stamp) :
    (keep held entry).getLast?.map (·.value) = some entry.value := by
  by_cases repeats : Repeats held entry
  · rw [keep_of_repeats repeats]
    exact repeats
  · rw [keep_of_changes repeats]
    simp

theorem held_is_last_offered :
    (kept offered).getLast?.map (·.value) = offered.getLast?.map (·.value) := by
  induction offered using List.reverseRecOn with
  | nil => rfl
  | append_singleton offered entry _ =>
    rw [kept_append, held_keep]
    simp

section Order

variable [IsTrans Stamp newer]

/-- The entries of a register that admits only newer changes have increasing stamps. -/
theorem kept_increasing (admitted : Admitted newer offered) :
    (kept offered).Pairwise fun old new => newer old.stamp new.stamp := by
  induction admitted with
  | empty => exact List.Pairwise.nil
  | @offer offered entry _ admits ih =>
    rw [kept_append]
    by_cases repeats : Repeats (kept offered) entry
    · rwa [keep_of_repeats repeats]
    · rw [keep_of_changes repeats]
      have newest := admits.resolve_left repeats
      refine List.pairwise_append.mpr ⟨ih, List.pairwise_singleton _ _, ?_⟩
      intro old inside new final
      obtain rfl := List.mem_singleton.mp final
      cases ends : (kept offered).getLast? with
      | none =>
        rw [List.getLast?_eq_none_iff.mp ends] at inside
        cases inside
      | some last =>
        have above := newest last ends
        rcases below_last ih ends old inside with rfl | below
        · exact above
        · exact IsTrans.trans _ _ _ below above

end Order

end Soma.Register
