import Soma.Theory.Execution
import Soma.Theory.Tally
import Soma.ProductLineSla.CohortState

/-!
How the cohorts of a month evolve. What `calculate_month` shows of a cohort is a
function of the states of its members (`Shows`); the members met are its won
members, those exceeded its lost ones, so the laws of a contest decided member
by member apply.

`cohort_state_evolution` is the main result: the bounds and tests of one
reading, and over any run of readings that a breached cohort stays breached and
a cohort met by its terminal members stays met.
-/

namespace Soma.ProductLineSla

open Foundation Tickets Transaction Execution Grouping

/-! ## The groups -/

/-- What the loop over the pages keeps: the members are gathered by cohort, and
every cohort is of the month. -/
structure Gathered (calendarMonth : String) (groups : Groups) : Prop where
  grouped : Grouped CanonicalCohortMember.cohortKey groups
  monthly : ∀ group ∈ groups, group.1.calendarMonth = calendarMonth

variable {calendarMonth : String} {groups : Groups}

theorem Gathered.nil : Gathered calendarMonth [] :=
  ⟨Grouped.nil, by simp⟩

theorem Gathered.addMember (gathered : Gathered calendarMonth groups)
    {member : CanonicalCohortMember} (monthly : member.cohortKey.calendarMonth = calendarMonth) :
    Gathered calendarMonth (addMember groups member) where
  grouped := gathered.grouped.append member
  monthly := by
    intro group inside
    rcases mem_append inside with old | ⟨named, -⟩
    · exact gathered.monthly group old
    · rw [named, monthly]

variable {members : List CanonicalCohortMember}

theorem Gathered.addMembers (gathered : Gathered calendarMonth groups)
    (monthly : ∀ member ∈ members, member.cohortKey.calendarMonth = calendarMonth) :
    Gathered calendarMonth (members.foldl ProductLineSla.addMember groups) := by
  induction members generalizing groups with
  | nil => exact gathered
  | cons member members ih =>
    have first := gathered.addMember (monthly member List.mem_cons_self)
    exact ih first fun other inside => monthly other (List.mem_cons_of_mem _ inside)

theorem Gathered.placeIndividual (gathered : Gathered calendarMonth groups)
    (placed : placeIndividual calendarMonth bounds groups individual = .ok next) :
    Gathered calendarMonth next := by
  unfold ProductLineSla.placeIndividual at placed
  split at placed
  · cases placed
    exact gathered
  split at placed
  · cases placed
    exact gathered
  split at placed
  · cases placed
  · simp only [except_ok] at placed
    obtain ⟨-, placed⟩ := placed
    cases placed
    refine gathered.addMembers fun member inside => ?_
    obtain ⟨_, -, rfl⟩ := List.mem_map.mp inside
    rfl

theorem Gathered.placePages {request : MonthRequest}
    (gathered : Gathered request.calendarMonth groups)
    (placed : (placePages request bounds rounds cursor groups).run before = .ok (next, after)) :
    Gathered request.calendarMonth next := by
  induction rounds generalizing cursor groups before with
  | zero =>
    rw [ProductLineSla.placePages, throw_ok] at placed
    exact placed.elim
  | succ rounds ih =>
    simp only [ProductLineSla.placePages, steps_ok] at placed
    obtain ⟨_, _, middle, _, folded, placed⟩ := placed
    have gatheredPage : Gathered request.calendarMonth middle := by
      refine foldlM_keeps (Gathered request.calendarMonth) ?_ gathered folded
      intro before slaInput after state next holds ran
      simp only [placeItem, steps_ok] at ran
      obtain ⟨_, _, _, ran, -⟩ := ran
      exact holds.placeIndividual ran
    split at placed
    · rw [pure_ok] at placed
      exact placed.1 ▸ gatheredPage
    · exact ih gatheredPage placed

theorem Gathered.sortGroups (gathered : Gathered calendarMonth groups) :
    Gathered calendarMonth (sortGroups groups) where
  grouped := gathered.grouped.reorder (fun _ => rfl) (fun _ => List.perm_insertionSort _ _)
    (List.perm_insertionSort _ _)
  monthly := by
    intro group inside
    obtain ⟨source, listed, rfl⟩ := List.mem_map.mp inside
    exact gathered.monthly source ((List.perm_insertionSort _ _).mem_iff.mp listed)

/-! ## What a cohort shows of its members -/

/-- How many members are in a state. -/
def countIn (members : List CanonicalCohortMember) (state : IndividualState) : Nat :=
  members.countP (·.state = state)

theorem foldl_counts (members : List CanonicalCohortMember) (counts : StateCounts) :
    members.foldl (fun counts member => counts.add member.state) counts =
      ⟨counts.terminalMet + countIn members .terminalMet,
        counts.terminalExceeded + countIn members .terminalExceeded,
        counts.activeWithin + countIn members .activeWithin,
        counts.activeExceeded + countIn members .activeExceeded⟩ := by
  induction members generalizing counts with
  | nil => rfl
  | cons member members ih =>
    rw [List.foldl_cons, ih]
    simp only [countIn, List.countP_cons]
    cases member.state <;> simp [StateCounts.add] <;> omega

theorem countStates_eq (members : List CanonicalCohortMember) :
    countStates members =
      ⟨countIn members .terminalMet, countIn members .terminalExceeded,
        countIn members .activeWithin, countIn members .activeExceeded⟩ := by
  simp [countStates, foldl_counts]

theorem countIn_sum (members : List CanonicalCohortMember) :
    countIn members .terminalMet + countIn members .terminalExceeded +
      countIn members .activeWithin + countIn members .activeExceeded = members.length := by
  induction members with
  | nil => rfl
  | cons member members ih =>
    simp only [countIn, List.countP_cons, List.length_cons] at ih ⊢
    cases member.state <;> simp <;> omega

/-- What `calculate_month` shows of the members of a cohort. -/
structure Shows (cohort : CohortProjection) (monthClosed : Bool)
    (members : List CanonicalCohortMember) : Prop where
  required : ∀ member ∈ members,
    member.tierResult.requiredPercentageMillionths = cohort.requiredPercentageMillionths
  denominator : cohort.denominator = members.length
  terminalMet : cohort.terminalMetCount = countIn members .terminalMet
  terminalExceeded : cohort.terminalExceededCount = countIn members .terminalExceeded
  activeWithin : cohort.activeWithinCount = countIn members .activeWithin
  activeExceeded : cohort.activeExceededCount = countIn members .activeExceeded
  lower : cohort.lowerBoundMetCount = cohort.terminalMetCount
  best : cohort.bestPossibleMetCount = cohort.terminalMetCount + cohort.activeWithinCount
  isFinal : cohort.isFinal = true ↔
    monthClosed = true ∧ cohort.activeWithinCount = 0 ∧ cohort.activeExceededCount = 0
  state : cohort.state =
    cohortState ⟨cohort.terminalMetCount, cohort.terminalExceededCount, cohort.activeWithinCount,
        cohort.activeExceededCount⟩ cohort.isFinal
      (passesPercentage cohort.lowerBoundMetCount cohort.denominator
        cohort.requiredPercentageMillionths)
      (passesPercentage cohort.bestPossibleMetCount cohort.denominator
        cohort.requiredPercentageMillionths)

variable {key : CohortKeyParts}

theorem closeCohort_shows
    (closed : closeCohort request monthClosed (key, members) = .ok (some cohort))
    (monthly : key.calendarMonth = request.calendarMonth) :
    cohort.parts = key ∧ members ≠ [] ∧ Shows cohort monthClosed members := by
  cases members with
  | nil => cases closed
  | cons first others =>
    simp only [closeCohort, except_ok] at closed
    obtain ⟨same, _, -, _, -, closed⟩ := closed
    cases closed
    refine ⟨?_, by simp, ?_, rfl, ?_, ?_, ?_, ?_, rfl, rfl, ?_, rfl⟩
    · simp only [CohortProjection.parts, ← monthly]
    · intro member inside
      rcases List.mem_cons.mp inside with rfl | inside
      · rfl
      · have agrees := List.all_eq_true.mp same member inside
        simp only [sameAuthority, Bool.decide_and, Bool.and_eq_true, decide_eq_true_eq] at agrees
        exact agrees.2.1
    all_goals simp [countStates_eq]

theorem closeCohort_some {cohort? : Option CohortProjection}
    (closed : closeCohort request monthClosed (key, members) = .ok cohort?)
    (inhabited : members ≠ []) : ∃ cohort, cohort? = some cohort := by
  cases members with
  | nil => exact absurd rfl inhabited
  | cons first others =>
    simp only [closeCohort, except_ok] at closed
    obtain ⟨-, _, -, _, -, closed⟩ := closed
    cases closed
    exact ⟨_, rfl⟩

theorem Shows.of_perm {arranged : List CanonicalCohortMember}
    (shows : Shows cohort monthClosed members) (moved : arranged.Perm members) :
    Shows cohort monthClosed arranged where
  required := fun member inside => shows.required member (moved.mem_iff.mp inside)
  denominator := shows.denominator.trans moved.length_eq.symm
  terminalMet := shows.terminalMet.trans (moved.countP_eq _).symm
  terminalExceeded := shows.terminalExceeded.trans (moved.countP_eq _).symm
  activeWithin := shows.activeWithin.trans (moved.countP_eq _).symm
  activeExceeded := shows.activeExceeded.trans (moved.countP_eq _).symm
  lower := shows.lower
  best := shows.best
  isFinal := shows.isFinal
  state := shows.state

/-! ## Readings of a month -/

/-- A month that was calculated, at some instant and over some accepted state. -/
structure MonthReading where
  request : MonthRequest
  readCache : Option IndividualSlaReadCache
  projection : CohortMonthProjection
  leftCache : Option IndividualSlaReadCache
  calculated : calculateMonth request readCache = .ok (projection, leftCache)

namespace MonthReading

variable (reading : MonthReading)

def monthClosed : Bool :=
  reading.projection.monthEndUtc ≤ reading.projection.asOfUtc

def membersOf (key : CohortKeyParts) : List CanonicalCohortMember :=
  reading.projection.membersOf key

theorem groups_closed : ∃ groups closed,
    Gathered reading.request.calendarMonth groups ∧
    groups.mapM (closeCohort reading.request reading.monthClosed) = .ok closed ∧
    reading.projection.cohorts = closed.filterMap id ∧
    reading.projection.members.Perm (values groups) := by
  have calculated := reading.calculated
  simp only [calculateMonth, except_ok] at calculated
  obtain ⟨_, -, ⟨groups, _⟩, placed, closed, closes, calculated⟩ := calculated
  have gathered := (Gathered.nil.placePages placed).sortGroups
  simp only [Prod.mk.injEq] at calculated
  refine ⟨sortGroups groups, closed, gathered, ?_, ?_, ?_⟩
  · rw [monthClosed, ← calculated.1]
    exact closes
  · rw [← calculated.1]
  · rw [← calculated.1]
    exact List.perm_insertionSort _ _

variable {reading}

theorem shows (inside : cohort ∈ reading.projection.cohorts) :
    reading.membersOf cohort.parts ≠ [] ∧
      Shows cohort reading.monthClosed (reading.membersOf cohort.parts) := by
  obtain ⟨_, _, gathered, closes, cohorts, members⟩ := reading.groups_closed
  rw [cohorts] at inside
  obtain ⟨cohort?, listed, same⟩ := List.mem_filterMap.mp inside
  obtain rfl : cohort? = some cohort := same
  obtain ⟨⟨_, held⟩, listed, closesTo⟩ := mem_of_image closes listed
  obtain ⟨rfl, inhabited, shown⟩ := closeCohort_shows closesTo (gathered.monthly _ listed)
  have listedMembers : (reading.membersOf cohort.parts).Perm held := by
    rw [← gathered.grouped.filter_values listed]
    exact members.filter _
  refine ⟨?_, shown.of_perm listedMembers⟩
  intro empty
  rw [empty] at listedMembers
  exact inhabited listedMembers.nil_eq.symm

theorem cohort_of_members (inhabited : reading.membersOf key ≠ []) :
    ∃ cohort ∈ reading.projection.cohorts, cohort.parts = key := by
  obtain ⟨_, _, gathered, closes, cohorts, members⟩ := reading.groups_closed
  obtain ⟨member, listed⟩ := List.exists_mem_of_ne_nil _ inhabited
  obtain ⟨listed, named⟩ := List.mem_filter.mp listed
  obtain ⟨⟨name, _⟩, inside, belongs⟩ := List.mem_flatMap.mp (members.mem_iff.mp listed)
  have sameKey : name = key :=
    (gathered.grouped.named _ inside member belongs).symm.trans (of_decide_eq_true named)
  obtain ⟨cohort?, inClosed, closesTo⟩ := image_of_mem closes inside
  obtain ⟨cohort, rfl⟩ := closeCohort_some closesTo (List.ne_nil_of_mem belongs)
  refine ⟨cohort, ?_, ?_⟩
  · rw [cohorts]
    exact List.mem_filterMap.mpr ⟨_, inClosed, rfl⟩
  · rw [(closeCohort_shows closesTo (gathered.monthly _ inside)).1, sameKey]

end MonthReading

/-! ## Members as they are decided -/

/-- A met member is won, an exceeded one lost. -/
def IndividualState.standing : IndividualState → Tally.Standing
  | .terminalMet => .won
  | .activeWithin => .undecided
  | .terminalExceeded => .lost
  | .activeExceeded => .lost

/-- The state of a member if every member still within its time is met. -/
def IndividualState.turned : IndividualState → IndividualState
  | .activeWithin => .terminalMet
  | state => state

/-- The moves of a member: out of active-within to anywhere, and from
active-exceeded to terminal-exceeded. -/
def IndividualState.Moves (before after : IndividualState) : Prop :=
  before = after ∨ before = .activeWithin ∨
    (before = .activeExceeded ∧ after = .terminalExceeded)

/-- One Service Request under one required percentage, later on. -/
def MemberStep (before after : CanonicalCohortMember) : Prop :=
  before.serviceRequestId = after.serviceRequestId ∧
    before.tierResult.requiredPercentageMillionths =
      after.tierResult.requiredPercentageMillionths ∧
    before.state.Moves after.state

/-- A cohort of fixed membership in two readings: its members are the same
Service Requests, each of which stays or moves. -/
def CohortStep (key : CohortKeyParts) (before after : MonthReading) : Prop :=
  Multiset.Rel MemberStep (before.membersOf key : Multiset CanonicalCohortMember)
    (after.membersOf key)

theorem IndividualState.Moves.settles {before : IndividualState} (moves : before.Moves after) :
    before.standing.Settles after.standing := by
  rcases moves with rfl | rfl | ⟨rfl, rfl⟩
  · exact .inr rfl
  · exact .inl rfl
  · exact .inr rfl

theorem IndividualState.Moves.trans {first : IndividualState} (before : first.Moves second)
    (after : second.Moves third) : first.Moves third := by
  rcases before with rfl | rfl | ⟨rfl, rfl⟩
  · exact after
  · exact .inr (.inl rfl)
  · rcases after with rfl | impossible | ⟨impossible, -⟩
    · exact .inr (.inr ⟨rfl, rfl⟩)
    · cases impossible
    · cases impossible

instance : IsTrans CanonicalCohortMember MemberStep where
  trans _ _ _ before after :=
    ⟨before.1.trans after.1, before.2.1.trans after.2.1, before.2.2.trans after.2.2⟩

theorem CohortStep.refl (key : CohortKeyParts) (reading : MonthReading) :
    CohortStep key reading reading :=
  Multiset.rel_refl_of_refl_on fun _ _ => ⟨rfl, rfl, .inl rfl⟩

theorem CohortStep.of_later (later : Later (CohortStep key) first last) :
    CohortStep key first last := by
  induction later with
  | refl => exact .refl key first
  | tail _ step ih => exact Multiset.Rel.trans MemberStep ih step

/-- The standings of the members of a cohort. -/
def standings (members : List CanonicalCohortMember) : Multiset Tally.Standing :=
  (members : Multiset CanonicalCohortMember).map (·.state.standing)

variable {before after : MonthReading}

theorem CohortStep.settled (step : CohortStep key before after) :
    Tally.Settled (standings (before.membersOf key)) (standings (after.membersOf key)) := by
  refine Multiset.rel_map.mpr (step.mono fun _ _ _ _ moved => ?_)
  exact moved.2.2.settles

theorem standings_cons (member : CanonicalCohortMember) (members : List CanonicalCohortMember) :
    standings (member :: members) = member.state.standing ::ₘ standings members :=
  rfl

theorem secured_standings (members : List CanonicalCohortMember) :
    Tally.secured (standings members) = countIn members .terminalMet := by
  induction members with
  | nil => rfl
  | cons member members ih =>
    rw [standings_cons, Tally.secured_cons, ih]
    simp only [countIn, List.countP_cons]
    cases member.state <;> simp [IndividualState.standing]

theorem attainable_standings (members : List CanonicalCohortMember) :
    Tally.attainable (standings members) =
      countIn members .terminalMet + countIn members .activeWithin := by
  induction members with
  | nil => rfl
  | cons member members ih =>
    rw [standings_cons, Tally.attainable_cons, ih]
    simp only [countIn, List.countP_cons]
    cases member.state <;> simp [IndividualState.standing] <;> omega

theorem countIn_turned (members : List CanonicalCohortMember) :
    (members.map (·.state.turned)).count .terminalMet =
      countIn members .terminalMet + countIn members .activeWithin := by
  induction members with
  | nil => rfl
  | cons member members ih =>
    rw [List.map_cons, List.count_cons, ih]
    simp only [countIn, List.countP_cons]
    cases member.state <;> simp [IndividualState.turned] <;> omega

theorem passesPercentage_upward (denominator required : Nat) :
    Monotone fun met => passesPercentage met denominator required = true := by
  intro less more order
  simp only [passesPercentage, decide_eq_true_eq, le_Prop_eq]
  omega

/-- A percentage the lower bound passes is passed by the best case, so a cohort
is breached exactly when its best case fails. -/
theorem cohortState_breached (closing : lowerPasses = true → bestPasses = true) :
    cohortState counts isFinal lowerPasses bestPasses = .breached ↔ bestPasses = false := by
  unfold cohortState
  cases bestPasses with
  | false =>
    have fails : lowerPasses = false := by simpa using closing
    simp [fails]
  | true =>
    split
    · simp
    · split
      · simp_all
      · split
        · simp
        · split <;> simp

theorem cohortState_met :
    cohortState counts isFinal true true ≠ .breached ∧
      cohortState counts isFinal true true ≠ .atRisk := by
  cases isFinal <;> simp [cohortState]

namespace Shows

variable {cohort : CohortProjection} {monthClosed : Bool} {members : List CanonicalCohortMember}

section

variable (shows : Shows cohort monthClosed members)

include shows

theorem counts_sum :
    cohort.terminalMetCount + cohort.terminalExceededCount + cohort.activeWithinCount +
      cohort.activeExceededCount = cohort.denominator := by
  rw [shows.terminalMet, shows.terminalExceeded, shows.activeWithin, shows.activeExceeded,
    shows.denominator]
  exact countIn_sum members

theorem lower_passes_best (passes : passesPercentage cohort.lowerBoundMetCount cohort.denominator
      cohort.requiredPercentageMillionths = true) :
    passesPercentage cohort.bestPossibleMetCount cohort.denominator
      cohort.requiredPercentageMillionths = true := by
  have order : cohort.lowerBoundMetCount ≤ cohort.bestPossibleMetCount := by
    rw [shows.lower, shows.best]
    exact Nat.le_add_right _ _
  exact passesPercentage_upward _ _ order passes

theorem isFinal_iff : cohort.isFinal = true ↔ monthClosed = true ∧ ∀ member ∈ members,
      member.state ≠ .activeWithin ∧ member.state ≠ .activeExceeded := by
  rw [shows.isFinal, shows.activeWithin, shows.activeExceeded, countIn, countIn,
    List.countP_eq_zero, List.countP_eq_zero]
  simp only [decide_eq_true_eq]
  constructor
  · rintro ⟨closed, within, exceeded⟩
    exact ⟨closed, fun member inside => ⟨within member inside, exceeded member inside⟩⟩
  · rintro ⟨closed, settled⟩
    exact ⟨closed, fun member inside => (settled member inside).1,
      fun member inside => (settled member inside).2⟩

theorem breached_iff : cohort.state = .breached ↔
      passesPercentage (Tally.attainable (standings members)) members.length
        cohort.requiredPercentageMillionths = false := by
  have attainable : Tally.attainable (standings members) = cohort.bestPossibleMetCount := by
    rw [attainable_standings, shows.best, shows.terminalMet, shows.activeWithin]
  rw [shows.state, cohortState_breached shows.lower_passes_best, attainable, shows.denominator]

theorem met (passes : passesPercentage cohort.terminalMetCount cohort.denominator
      cohort.requiredPercentageMillionths = true) :
    cohort.state ≠ .breached ∧ cohort.state ≠ .atRisk := by
  rw [← shows.lower] at passes
  rw [shows.state, shows.lower_passes_best passes, passes]
  exact cohortState_met

end

end Shows

/-- Readings a run connects keep a cohort: the later one shows it with the same
number of members and the same required percentage, on settled standings. -/
theorem CohortStep.later_cohort (inside : cohort ∈ before.projection.cohorts)
    (step : CohortStep cohort.parts before after) :
    ∃ later ∈ after.projection.cohorts, later.parts = cohort.parts := by
  refine MonthReading.cohort_of_members fun none => ?_
  have emptied : (before.membersOf cohort.parts : Multiset CanonicalCohortMember) = 0 := by
    rw [CohortStep, none] at step
    exact Multiset.rel_zero_right.mp step
  exact (MonthReading.shows inside).1 (Multiset.coe_eq_zero _ |>.mp emptied)

theorem CohortStep.same_contest (inside : cohort ∈ before.projection.cohorts)
    (listed : later ∈ after.projection.cohorts) (same : later.parts = cohort.parts)
    (step : CohortStep cohort.parts before after) :
    later.denominator = cohort.denominator ∧
      later.requiredPercentageMillionths = cohort.requiredPercentageMillionths := by
  have first := MonthReading.shows inside
  have second := MonthReading.shows listed
  rw [same] at second
  constructor
  · rw [first.2.denominator, second.2.denominator]
    exact (Multiset.card_eq_card_of_rel step).symm
  · obtain ⟨member, inMembers⟩ := List.exists_mem_of_ne_nil _ first.1
    obtain ⟨moved, inMoved, steps⟩ := Multiset.exists_mem_of_rel_of_mem step inMembers
    rw [← first.2.required member inMembers, ← second.2.required moved inMoved]
    exact steps.2.1.symm

/-- **The states of a cohort.** In every reading of a month, the counts of a
cohort sum to its denominator and bound what can be met, it is final exactly
when the month is closed and no member is active, and it is breached exactly
when turning every member within its time into a met one misses the required
percentage. Along every run of readings in which the membership of a cohort is
fixed and its members only move forward, the cohort is shown throughout, stays
breached once breached, and stays clear of breached and at risk once its
terminal members meet the percentage. -/
theorem cohort_state_evolution : (∀ reading : MonthReading, ∀ cohort ∈ reading.projection.cohorts,
      let members := reading.projection.membersOf cohort.parts
      cohort.denominator = members.length ∧
      cohort.terminalMetCount + cohort.terminalExceededCount + cohort.activeWithinCount +
        cohort.activeExceededCount = cohort.denominator ∧
      0 ≤ cohort.lowerBoundMetCount ∧
      cohort.lowerBoundMetCount ≤ cohort.bestPossibleMetCount ∧
      cohort.bestPossibleMetCount ≤ cohort.denominator ∧
      (cohort.isFinal = true ↔
        reading.projection.monthEndUtc ≤ reading.projection.asOfUtc ∧
          ∀ member ∈ members, member.state ≠ .activeWithin ∧ member.state ≠ .activeExceeded) ∧
      (cohort.state = .breached ↔
        (members.map (·.state.turned)).count .terminalMet * 100000000 <
          cohort.requiredPercentageMillionths * members.length)) ∧
    ∀ (first last : MonthReading) (cohort : CohortProjection),
      cohort ∈ first.projection.cohorts → Later (CohortStep cohort.parts) first last →
      (∃ later ∈ last.projection.cohorts, later.parts = cohort.parts) ∧
      ∀ later ∈ last.projection.cohorts, later.parts = cohort.parts →
        (cohort.state = .breached → later.state = .breached) ∧
        (passesPercentage cohort.terminalMetCount cohort.denominator
            cohort.requiredPercentageMillionths = true →
          later.state ≠ .breached ∧ later.state ≠ .atRisk) := by
  constructor
  · intro reading cohort inside members
    obtain ⟨inhabited, shows⟩ := MonthReading.shows inside
    have sum := shows.counts_sum
    refine ⟨shows.denominator, sum, Nat.zero_le _, ?_, ?_, ?_, ?_⟩
    · rw [shows.lower, shows.best]
      exact Nat.le_add_right _ _
    · rw [shows.best]
      omega
    · rw [shows.isFinal_iff, MonthReading.monthClosed, decide_eq_true_eq]
      rfl
    · rw [shows.breached_iff, attainable_standings, ← countIn_turned, passesPercentage,
        decide_eq_false_iff_not, Nat.not_le]
      rfl
  · intro first last cohort inside run
    have step := CohortStep.of_later run
    refine ⟨step.later_cohort inside, fun later listed same => ?_⟩
    obtain ⟨sameDenominator, sameRequired⟩ := step.same_contest inside listed same
    have before := (MonthReading.shows inside).2
    have after := (MonthReading.shows listed).2
    rw [same] at after
    constructor
    · rw [before.breached_iff, after.breached_iff, ← before.denominator, ← after.denominator,
        sameDenominator, sameRequired, ← Bool.not_eq_true, ← Bool.not_eq_true]
      exact step.settled.missed (passesPercentage_upward _ _)
    · intro passes
      refine after.met ?_
      rw [sameDenominator, sameRequired, after.terminalMet, ← secured_standings]
      rw [before.terminalMet, ← secured_standings] at passes
      exact step.settled.reached (passesPercentage_upward _ _) passes

/-! ## A cohort of two Service Requests -/

/-- A canonical UUID, by its last digits. -/
def slaId (digits : String) : String := "00000000-0000-4000-8000-000000000" ++ digits

/-- A one hour tier that 95 per cent must meet, and two Service Requests in it. -/
def sampleSla : SlaRows where
  productLines := []
  contracts := [⟨slaId "00c", slaId "00a", "Support", "C-1", .active, 1⟩]
  contractProductLines :=
    [⟨slaId "0cb", slaId "00c", slaId "0bb", .active, some (slaId "0dd"), 1⟩]
  policyRevisions := [⟨slaId "0dd", slaId "0cb", 1, "Default", none⟩]
  policyTiers := [⟨slaId "0ee", slaId "0dd", .critical, 1, 95000000,
    ⟨3600, 1, by decide, by decide, by decide⟩, none⟩]
  mappings := []
  events := []
  current := [⟨slaId "001", slaId "0cb", slaId "0f1", 1⟩, ⟨slaId "002", slaId "0cb", slaId "0f2", 1⟩]

/-- The report date, the severity and the status of a Service Request reported at 1770000000. -/
def sampleObservations (digit status : String) (chronology : Nat) : List SrSourceFieldObservation :=
  [⟨slaId ("b" ++ digit ++ "1"), slaId ("00" ++ digit), .reportDate, .instant 1770000000,
      some 1770000000, .sourceChronology, slaId ("e" ++ digit ++ "1")⟩,
    ⟨slaId ("b" ++ digit ++ "2"), slaId ("00" ++ digit), .customerSeverity, .controlled "Critical",
      some 1770000000, .sourceChronology, slaId ("e" ++ digit ++ "2")⟩,
    ⟨slaId ("b" ++ digit ++ "3"), slaId ("00" ++ digit), .status, .controlled status,
      some chronology, .sourceChronology, slaId ("e" ++ digit ++ "3")⟩]

/-- The status given is that of the first Service Request; the second is resolved in time. -/
def sampleTickets (status : String) (chronology : Nat) : SourceRows where
  serviceRequests := [⟨slaId "001", none⟩, ⟨slaId "002", none⟩]
  activeCustomers := [⟨slaId "0a1", slaId "001", slaId "00a"⟩, ⟨slaId "0a2", slaId "002", slaId "00a"⟩]
  projections := ["1", "2"].map fun digit => ⟨slaId ("00" ++ digit), some (slaId ("b" ++ digit ++ "1")),
    some (slaId ("b" ++ digit ++ "2")), some (slaId ("b" ++ digit ++ "3")), none, none, 1⟩
  observations :=
    sampleObservations "1" status chronology ++ sampleObservations "2" "Resolved" 1770001800

def sampleRequest (status : String) (chronology asOfUtc : Nat) : MonthRequest where
  python := ⟨fun _ => none, fun text => text⟩
  zone := none
  reader := ⟨sampleTickets status chronology, sampleSla⟩
  calendarMonth := "2026-02"
  asOfUtc
  customerScope := none

/-- The reading a request gives when it returns. -/
def MonthReading.of (request : MonthRequest) (ran : (calculateMonth request none).isOk = true) :
    MonthReading :=
  match outcome : calculateMonth request none with
  | .ok (projection, leftCache) => ⟨request, none, projection, leftCache, outcome⟩
  | .error _ => absurd ran (by rw [outcome]; simp [Except.isOk, Except.toBool])

theorem MonthReading.of_calculated {request : MonthRequest}
    (ran : (calculateMonth request none).isOk = true) :
    calculateMonth request none =
      .ok ((MonthReading.of request ran).projection, (MonthReading.of request ran).leftCache) := by
  unfold MonthReading.of
  split
  · assumption
  · rename_i failed
    simp [failed, Except.isOk, Except.toBool] at ran

def overdueRequest : MonthRequest :=
  sampleRequest "Customer Agreed Suspend" 1770000000 1770007200

def resolvedRequest : MonthRequest :=
  sampleRequest "Resolved" 1770010800 1770014400

instance : DecidableRel IndividualState.Moves :=
  fun _ _ => inferInstanceAs (Decidable (_ ∨ _ ∨ _))

instance : DecidableRel MemberStep :=
  fun _ _ => inferInstanceAs (Decidable (_ ∧ _ ∧ _))

theorem rel_of_forall₂ {before after : List CanonicalCohortMember}
    (steps : List.Forall₂ MemberStep before after) :
    Multiset.Rel MemberStep (before : Multiset CanonicalCohortMember) after := by
  induction steps with
  | nil => exact .zero
  | cons step _ ih => exact .cons step ih

/-- Both months are calculated, and the overdue one has breached a cohort of two. -/
theorem sample_months : ∃ overdue : (calculateMonth overdueRequest none).isOk = true,
    ∃ resolved : (calculateMonth resolvedRequest none).isOk = true,
      ∃ cohort ∈ (MonthReading.of _ overdue).projection.cohorts,
        (cohort.state = .breached ∧ cohort.denominator = 2) ∧
        List.Forall₂ MemberStep ((MonthReading.of _ overdue).membersOf cohort.parts)
          ((MonthReading.of _ resolved).membersOf cohort.parts) := by
  decide +kernel

def sampleOverdue : MonthReading :=
  .of overdueRequest sample_months.fst

def sampleResolved : MonthReading :=
  .of resolvedRequest sample_months.snd.fst

/-- A breached cohort stays so once its overdue Service Request is resolved. -/
theorem sample_stays_breached :
    ∃ cohort ∈ sampleOverdue.projection.cohorts, cohort.state = .breached ∧ cohort.denominator = 2 ∧
      ∃ later ∈ sampleResolved.projection.cohorts, later.parts = cohort.parts ∧
        later.state = .breached := by
  obtain ⟨cohort, inside, ⟨state, two⟩, steps⟩ := sample_months.snd.snd
  have evolution := cohort_state_evolution.2 sampleOverdue sampleResolved cohort inside
    (.single (rel_of_forall₂ steps))
  obtain ⟨later, listed, same⟩ := evolution.1
  exact ⟨cohort, inside, state, two, later, listed, same, (evolution.2 later listed same).1 state⟩

end Soma.ProductLineSla
