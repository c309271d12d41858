import Soma.Theory.Rows
import Soma.Imports.Finalization

/-!
`derive_publication_counters` under the writes of the import commands. What a run
is counted by are its own observations, findings and proposals, so a write that
keeps these keeps its counters (`SameEvidence.counters`); one decided proposal,
a set of follow-ons and a superseded remainder change them the way the commands
change the stored ones (`counters_decided`, `counters_followed`,
`counters_superseded`).
-/

namespace Soma.Imports

open Rows

variable {rows next : ImportRows} {importRunId : String}

/-- The rows counted for a run are the same. -/
structure SameEvidence (rows next : ImportRows) (importRunId : String) : Prop where
  observations : next.observations.filter (·.importRunId = importRunId) =
    rows.observations.filter (·.importRunId = importRunId)
  findings : next.findings.filter (·.importRunId = importRunId) =
    rows.findings.filter (·.importRunId = importRunId)
  proposals : next.proposalsOf importRunId = rows.proposalsOf importRunId

namespace SameEvidence

/-- The rows behind the counters are all a change keeps, and the counters with them. -/
theorem counters (same : SameEvidence rows next importRunId) :
    next.derivePublicationCounters importRunId = rows.derivePublicationCounters importRunId := by
  have counted : ∀ valid : SourceObservation → Bool,
      next.observations.countP (fun row => row.importRunId = importRunId ∧ valid row) =
        rows.observations.countP (fun row => row.importRunId = importRunId ∧ valid row) := by
    intro valid
    have split : ∀ observations : List SourceObservation,
        observations.countP (fun row => row.importRunId = importRunId ∧ valid row) =
          (observations.filter (·.importRunId = importRunId)).countP valid := by
      intro observations
      rw [List.countP_filter]
      congr 1
      ext row
      simp [Bool.and_comm]
    rw [split, split, same.observations]
  have warned : next.findings.countP
        (fun row => row.importRunId = importRunId ∧ row.severity = .warning) =
      rows.findings.countP (fun row => row.importRunId = importRunId ∧ row.severity = .warning) := by
    have split : ∀ findings : List ImportFinding,
        findings.countP (fun row => row.importRunId = importRunId ∧ row.severity = .warning) =
          (findings.filter (·.importRunId = importRunId)).countP (·.severity = .warning) := by
      intro findings
      rw [List.countP_filter]
      congr 1
      ext row
      simp [Bool.and_comm]
    rw [split, split, same.findings]
  have all := counted fun _ => true
  have valid := counted (·.identityValid)
  have invalid := counted fun row => !row.identityValid
  simp only [and_true, Bool.not_eq_true'] at all valid invalid
  unfold ImportRows.derivePublicationCounters ImportRows.proposalsIn
  simp only [same.proposals, warned, all, valid, Bool.not_eq_true, invalid]

end SameEvidence

theorem sameEvidence_of_proposals {proposals : List Proposal}
    (same : proposals.filter (·.importRunId = importRunId) = rows.proposalsOf importRunId) :
    SameEvidence rows { rows with proposals } importRunId :=
  ⟨rfl, rfl, same⟩

/-! ## Counts of proposals -/

theorem length_proposalsOf :
    (rows.proposalsOf importRunId).length = rows.proposals.countP (·.importRunId = importRunId) :=
  List.countP_eq_length_filter.symm

theorem length_proposalsIn :
    (rows.proposalsIn importRunId state).length =
      rows.proposals.countP fun row => row.importRunId = importRunId ∧ row.proposalState = state := by
  unfold ImportRows.proposalsIn ImportRows.proposalsOf
  rw [List.filter_filter, List.countP_eq_length_filter]
  congr 2
  ext row
  simp [Bool.and_comm]

theorem derive_eq (rows : ImportRows) (importRunId : String) :
    rows.derivePublicationCounters importRunId =
      { rows.derivePublicationCounters importRunId with
        proposalCount := rows.proposals.countP (·.importRunId = importRunId)
        pendingProposalCount := rows.proposals.countP fun row =>
          row.importRunId = importRunId ∧ row.proposalState = .pending
        acceptedProposalCount := rows.proposals.countP fun row =>
          row.importRunId = importRunId ∧ row.proposalState = .accepted
        rejectedProposalCount := rows.proposals.countP fun row =>
          row.importRunId = importRunId ∧ row.proposalState = .rejected
        deferredProposalCount := rows.proposals.countP fun row =>
          row.importRunId = importRunId ∧ row.proposalState = .deferred } := by
  simp only [ImportRows.derivePublicationCounters, length_proposalsOf, length_proposalsIn]

theorem counters_decided (rows : ImportRows) (replaced : Replaced rows.proposals proposals old new)
    (pending : old.proposalState = .pending) (same : new.importRunId = old.importRunId)
    (decided : new.proposalState ≠ .pending) :
    ({ rows with proposals } : ImportRows).derivePublicationCounters old.importRunId =
      (rows.derivePublicationCounters old.importRunId).decided new.proposalState := by
  have all := replaced.countP_add (·.importRunId = old.importRunId)
  have counted : ∀ state, _ := fun state =>
    replaced.countP_add fun row => row.importRunId = old.importRunId ∧ row.proposalState = state
  have ofPending := counted .pending
  have ofAccepted := counted .accepted
  have ofRejected := counted .rejected
  have ofDeferred := counted .deferred
  simp only [same, pending, decided, decide_true, if_true, true_and, decide_false, if_false,
    reduceCtorEq, Bool.false_eq_true, and_true, and_false] at all ofPending ofAccepted ofRejected ofDeferred
  rw [derive_eq, derive_eq rows]
  simp only [Counters.decided, ImportRows.derivePublicationCounters, Counters.mk.injEq, true_and]
  simp only [decide_eq_true_eq] at ofAccepted ofRejected ofDeferred
  omega

theorem counters_followed (rows : ImportRows) (appended : proposals = rows.proposals ++ added)
    (fresh : ∀ row ∈ added, row.importRunId = importRunId ∧ row.proposalState = .pending) :
    ({ rows with proposals } : ImportRows).derivePublicationCounters importRunId =
      (rows.derivePublicationCounters importRunId).followed added.length := by
  have all : added.countP (fun row => decide (row.importRunId = importRunId)) = added.length :=
    List.countP_eq_length.mpr fun row inside => by simp [(fresh row inside).1]
  have waiting : added.countP (fun row =>
      decide (row.importRunId = importRunId ∧ row.proposalState = .pending)) = added.length :=
    List.countP_eq_length.mpr fun row inside => by simp [fresh row inside]
  have none : ∀ state, state ≠ .pending → added.countP (fun row =>
      decide (row.importRunId = importRunId ∧ row.proposalState = state)) = 0 := by
    intro state other
    refine List.countP_eq_zero.mpr fun row inside => ?_
    simp [(fresh row inside).2, Ne.symm other]
  subst appended
  rw [derive_eq, derive_eq rows]
  simp only [Counters.followed, ImportRows.derivePublicationCounters, List.countP_append, all,
    waiting, none _ (by decide : ProposalState.accepted ≠ .pending),
    none _ (by decide : ProposalState.rejected ≠ .pending),
    none _ (by decide : ProposalState.deferred ≠ .pending), Nat.add_zero]

/-- `UPDATE reconciliation_proposals SET proposal_state='superseded' ..` on what is pending. -/
def supersede (importRunId : String) (row : Proposal) : Proposal :=
  if row.importRunId = importRunId ∧ row.proposalState = .pending then
    { row with proposalState := .superseded, revision := row.revision + 1 }
  else row

theorem countP_supersede (proposals : List Proposal) (other : state ≠ .superseded) :
    (proposals.map (supersede importRunId)).countP
        (fun row => row.importRunId = importRunId ∧ row.proposalState = state) =
      if state = .pending then 0
      else proposals.countP fun row => row.importRunId = importRunId ∧ row.proposalState = state := by
  rw [List.countP_map]
  by_cases pending : state = .pending
  · rw [if_pos pending, List.countP_eq_zero]
    intro row _
    subst pending
    simp only [Function.comp_apply, supersede]
    split <;> simp_all
  · rw [if_neg pending]
    refine List.countP_congr fun row _ => ?_
    simp only [Function.comp_apply, supersede]
    split
    · rename_i selected
      simp [selected, Ne.symm other, Ne.symm pending]
    · rfl

theorem counters_superseded (rows : ImportRows) (importRunId : String) :
    ({ rows with proposals := rows.proposals.map (supersede importRunId) } :
        ImportRows).derivePublicationCounters importRunId =
      { rows.derivePublicationCounters importRunId with pendingProposalCount := 0 } := by
  have all : (rows.proposals.map (supersede importRunId)).countP (·.importRunId = importRunId) =
      rows.proposals.countP (·.importRunId = importRunId) := by
    rw [List.countP_map]
    refine List.countP_congr fun row _ => ?_
    simp only [Function.comp_apply, supersede]
    split <;> simp
  rw [derive_eq, derive_eq rows]
  simp only [ImportRows.derivePublicationCounters, all,
    countP_supersede _ (by decide : ProposalState.pending ≠ .superseded),
    countP_supersede _ (by decide : ProposalState.accepted ≠ .superseded),
    countP_supersede _ (by decide : ProposalState.rejected ≠ .superseded),
    countP_supersede _ (by decide : ProposalState.deferred ≠ .superseded), reduceCtorEq, if_true,
    if_false]

theorem sameEvidence_superseded (rows : ImportRows) (apart : other ≠ importRunId) :
    SameEvidence rows { rows with proposals := rows.proposals.map (supersede importRunId) }
      other := by
  refine sameEvidence_of_proposals ?_
  unfold ImportRows.proposalsOf
  induction rows.proposals with
  | nil => rfl
  | cons row proposals ih =>
    by_cases own : row.importRunId = importRunId ∧ row.proposalState = .pending
    · have elsewhere : row.importRunId ≠ other := fun same => apart (same.symm.trans own.1)
      simp [supersede, own, own.1 ▸ elsewhere, ih]
    · simp [supersede, own, ih, List.filter_cons]

end Soma.Imports
