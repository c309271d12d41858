import Mathlib.Logic.Basic

/-!
Labels that agree within groups. Members belong to groups, and some members
carry a label; a group is agreed when its labelled members carry one label. The
rules say when a change keeps a group agreed: members may leave, and one member
may join or take a new label that fits the others.
-/

namespace Soma.Agreement

universe u v w

/-- Which members a group has, and the labels that are known. -/
structure Labelling (Group : Type u) (Member : Type v) (Label : Type w) where
  contains : Group → Member → Prop
  label : Member → Option Label

variable {Group : Type u} {Member : Type v} {Label : Type w}

namespace Labelling

/-- The known labels of the group are one label. -/
def Agreed (state : Labelling Group Member Label) (group : Group) : Prop :=
  ∀ first second, state.contains group first → state.contains group second →
    ∀ label label', state.label first = some label → state.label second = some label' →
      label = label'

/-- The label is the one every other labelled member of the group carries. -/
def Fits (state : Labelling Group Member Label) (group : Group) (member : Member) (label : Label) :
    Prop :=
  ∀ other, state.contains group other → other ≠ member → ∀ known, state.label other = some known →
    known = label

variable {state next : Labelling Group Member Label} {group : Group} {member : Member}

/-- Members may leave, and the labels of those that stay are not touched. -/
theorem Agreed.shrink (agreed : state.Agreed group)
    (stays : ∀ other, next.contains group other →
      state.contains group other ∧ next.label other = state.label other) :
    next.Agreed group := by
  intro first second firstIn secondIn label label' firstLabel secondLabel
  obtain ⟨firstWas, firstSame⟩ := stays first firstIn
  obtain ⟨secondWas, secondSame⟩ := stays second secondIn
  rw [firstSame] at firstLabel
  rw [secondSame] at secondLabel
  exact agreed first second firstWas secondWas label label' firstLabel secondLabel

/-- One member may join or be relabelled when its label fits the others. -/
theorem Agreed.with_member (agreed : state.Agreed group) (member : Member)
    (others : ∀ other, other ≠ member → next.contains group other →
      state.contains group other ∧ next.label other = state.label other)
    (fits : ∀ label, next.label member = some label → state.Fits group member label) :
    next.Agreed group := by
  have matched : ∀ other, other ≠ member → next.contains group other →
      ∀ label known, next.label member = some label → next.label other = some known →
        known = label := by
    intro other distinct contained label known memberLabel otherLabel
    obtain ⟨was, same⟩ := others other distinct contained
    rw [same] at otherLabel
    exact fits label memberLabel other was distinct known otherLabel
  intro first second firstIn secondIn label label' firstLabel secondLabel
  by_cases firstIs : first = member
  · subst firstIs
    by_cases secondIs : second = first
    · subst secondIs
      rw [firstLabel] at secondLabel
      exact Option.some.inj secondLabel
    · exact (matched second secondIs secondIn label label' firstLabel secondLabel).symm
  · by_cases secondIs : second = member
    · subst secondIs
      exact matched first firstIs firstIn label' label secondLabel firstLabel
    · obtain ⟨firstWas, firstSame⟩ := others first firstIs firstIn
      obtain ⟨secondWas, secondSame⟩ := others second secondIs secondIn
      rw [firstSame] at firstLabel
      rw [secondSame] at secondLabel
      exact agreed first second firstWas secondWas label label' firstLabel secondLabel

/-! ## Changes of a labelling -/

/-- Members may have left their groups; nothing else happened. -/
structure Left (before next : Labelling Group Member Label) : Prop where
  members : ∀ group other, next.contains group other → before.contains group other
  labels : next.label = before.label

/-- One member joined one group, and members may have left theirs. -/
structure Joined (before next : Labelling Group Member Label) (group : Group) (member : Member) :
    Prop where
  members : ∀ group' other, next.contains group' other →
    before.contains group' other ∨ (group' = group ∧ other = member)
  labels : next.label = before.label

/-- One member took another label, or none. -/
structure Relabelled (before next : Labelling Group Member Label) (member : Member)
    (label : Option Label) : Prop where
  members : next.contains = before.contains
  others : ∀ other, other ≠ member → next.label other = before.label other
  taken : next.label member = label

theorem Left.joined (left : state.Left middle) (joined : middle.Joined next group member) :
    state.Joined next group member where
  members group' other contained :=
    (joined.members group' other contained).imp_left (left.members group' other)
  labels := joined.labels.trans left.labels

/-- Of two new labels of a member the second counts. -/
theorem Relabelled.trans (earlier : state.Relabelled middle member first)
    (later : middle.Relabelled next member second) : state.Relabelled next member second where
  members := later.members.trans earlier.members
  others other distinct := (later.others other distinct).trans (earlier.others other distinct)
  taken := later.taken

/-- Every group is agreed. -/
def AllAgreed (state : Labelling Group Member Label) : Prop :=
  ∀ group, state.Agreed group

theorem AllAgreed.left (agreed : state.AllAgreed) (left : state.Left next) : next.AllAgreed :=
  fun group => (agreed group).shrink fun other contained =>
    ⟨left.members group other contained, congrFun left.labels other⟩

theorem AllAgreed.joined (agreed : state.AllAgreed) (joined : state.Joined next group member)
    (fits : ∀ label, state.label member = some label → state.Fits group member label) :
    next.AllAgreed := by
  intro group'
  by_cases same : group' = group
  · subst same
    apply (agreed group').with_member member
    · intro other distinct contained
      rcases joined.members group' other contained with was | ⟨_, is⟩
      · exact ⟨was, congrFun joined.labels other⟩
      · exact absurd is distinct
    · intro label carries
      rw [joined.labels] at carries
      exact fits label carries
  · apply (agreed group').shrink
    intro other contained
    rcases joined.members group' other contained with was | ⟨is, _⟩
    · exact ⟨was, congrFun joined.labels other⟩
    · exact absurd is same

theorem AllAgreed.relabelled {label : Option Label} (agreed : state.AllAgreed)
    (relabelled : state.Relabelled next member label)
    (fits : ∀ known, label = some known → ∀ group, state.contains group member →
      state.Fits group member known) :
    next.AllAgreed := by
  intro group
  by_cases contained : state.contains group member
  · apply (agreed group).with_member member
    · intro other distinct otherIn
      rw [relabelled.members] at otherIn
      exact ⟨otherIn, relabelled.others other distinct⟩
    · intro known carries
      rw [relabelled.taken] at carries
      exact fits known carries group contained
  · apply (agreed group).shrink
    intro other otherIn
    rw [relabelled.members] at otherIn
    have distinct : other ≠ member := fun same => contained (same ▸ otherIn)
    exact ⟨otherIn, relabelled.others other distinct⟩

end Labelling

end Soma.Agreement
