import Soma.Imports.Standing
import Soma.Theory.KeysetPages
import Mathlib.Data.List.Dedup
import Mathlib.Data.Prod.Lex
import Mathlib.Data.String.Basic

/-!
`reconciliation/advanced_search_disappearance.py`: the Service Requests of the last
checkpointed population that a new Advanced Search run no longer shows. The previous
population is looked up from the checkpoint, behind rowless replays; a finalized run
without rows leaves a checkpoint from which there is none to find (`Populated`).
-/

namespace Soma.Imports

open Foundation Transaction Rows Execution Keyset

/-! ## The builder -/

/-- What the builder reads beside the import tables: two columns of a valid observation, by
its id, and the Service Requests with the presence of each. Staged numbers are official. -/
structure DisappearanceReader where
  canonicalPrimaryId : String → String
  rowLogicalSha256 : String → String
  getByOfficial : String → Option String
  warningActive : String → Bool
  sourcePresenceBaseToken : String → String

/-- `PopulationAbsenceProposalDraft`, with the hash of the row it rests on. -/
structure AbsenceDraft where
  importRunId : String
  priorSourceObservationId : String
  priorRowLogicalSha256 : String
  targetInternalId : String
  targetBusinessId : String
  baseStateTokenSha256 : String

def RunState.isFinalRowBearing (state : RunState) : Bool :=
  state ∈ [.accepted, .partiallyAccepted, .rejected]

def ImportRows.hasRows (rows : ImportRows) (importRunId : String) : Bool :=
  rows.observations.any (·.importRunId = importRunId)

def currentRunAuthority (rows : ImportRows) (importRunId : String) : Except Raised ImportRun :=
  match rows.run? importRunId with
  | none => .error (importError "IMPORT_RUN_NOT_FOUND"
      "Advanced Search disappearance parent run does not exist")
  | some run => do
    ensure (run.sourceFamily = .advancedSearchSr ∧ run.sourceProfileId = "ADVANCED_SEARCH_SR_V1")
      (importError "IMPORT_SOURCE_PROFILE_MISMATCH"
        "Advanced Search disappearance parent run uses stale source profiles")
    ensure (run.runState = .validating ∧ 1 ≤ run.revision) (importError "IMPORT_RUN_STALE"
      "Advanced Search disappearance proposals require the current validating run")
    return run

/-- The valid rows of a run: the number of each and its observation. -/
def DisappearanceReader.population (reader : DisappearanceReader) (rows : ImportRows)
    (importRunId : String) : List (String × String) :=
  (rows.observations.filter fun row => row.importRunId = importRunId ∧ row.identityValid).map
    fun row => (reader.canonicalPrimaryId row.sourceObservationId, row.sourceObservationId)

/-- The run a checkpoint names agrees with it. -/
def SourceCheckpoint.Describes (checkpoint : SourceCheckpoint) (run : ImportRun) : Prop :=
  run.sourceFamily = .advancedSearchSr ∧ run.sourceProfileId = checkpoint.sourceProfileId ∧
    run.chronologyKind = checkpoint.chronologyKind ∧
    run.chronologyValue = checkpoint.chronologyValue ∧
    run.logicalFingerprint = some checkpoint.logicalFingerprint ∧
    (run.runState.isFinalRowBearing = true ∨ run.runState = .noop)

instance describesDecidable (checkpoint : SourceCheckpoint) (run : ImportRun) :
    Decidable (checkpoint.Describes run) :=
  inferInstanceAs (Decidable (_ ∧ _))

/-- The runs whose published population a rowless replay repeats. -/
def SourceCheckpoint.repeats (checkpoint : SourceCheckpoint) (rows : ImportRows)
    (run : ImportRun) : Bool :=
  run.sourceFamily = .advancedSearchSr ∧ run.sourceProfileId = checkpoint.sourceProfileId ∧
    run.chronologyKind = checkpoint.chronologyKind ∧
    run.chronologyValue ≤ checkpoint.chronologyValue ∧
    run.logicalFingerprint = some checkpoint.logicalFingerprint ∧
    run.runState.isFinalRowBearing = true ∧ rows.hasRows run.importRunId = true

/-- `ORDER BY candidate_chronology_value DESC, import_run_id ASC`. -/
def ImportRun.latestFirst (run : ImportRun) : Lex (OrderDual Nat × String) :=
  toLex (OrderDual.toDual run.chronologyValue, run.importRunId)

def resolvePriorPopulationRun (rows : ImportRows) : Except Raised (Option String) :=
  match rows.checkpoint? .advancedSearchSr with
  | none => .ok none
  | some checkpoint =>
    match rows.run? checkpoint.acceptedImportRunId with
    | none => .error (integrityFailure
        "Advanced Search checkpoint points to a missing import run")
    | some run => do
      ensure (checkpoint.Describes run) (integrityFailure
        "Advanced Search checkpoint authority disagrees with its accepted run")
      if run.runState.isFinalRowBearing then
        ensure (rows.hasRows run.importRunId = true) (integrityFailure
          "Advanced Search finalized checkpoint run has no row-bearing published population")
        return some run.importRunId
      else
        ensure (rows.hasRows run.importRunId = false) (integrityFailure
          "Advanced Search rowless lineage fallback requires a rowless noop checkpoint run")
        match (inOrder ImportRun.latestFirst (rows.runs.filter (checkpoint.repeats rows))).head? with
        | none => .error (integrityFailure ("Advanced Search checkpoint has no row-bearing " ++
            "published representative for its logical population"))
        | some prior => return some prior.importRunId

/-- The draft of a number of the prior population, unless it is still there, not known, or
under an active warning. -/
def DisappearanceReader.absence (reader : DisappearanceReader) (importRunId : String)
    (currentIdentities : List String) (prior : String × String) : Option AbsenceDraft :=
  if prior.1 ∈ currentIdentities then none
  else do
    let serviceRequestId ← reader.getByOfficial prior.1
    if reader.warningActive serviceRequestId then none
    else some {
      importRunId
      priorSourceObservationId := prior.2
      priorRowLogicalSha256 := reader.rowLogicalSha256 prior.2
      targetInternalId := serviceRequestId
      targetBusinessId := prior.1
      baseStateTokenSha256 := reader.sourcePresenceBaseToken serviceRequestId }

/-- `GROUP BY canonical_primary_id ORDER BY canonical_primary_id`, with the least observation
of each number. -/
def representatives (population : List (String × String)) : List (String × String) :=
  (inOrder id (population.map (·.1)).dedup).filterMap fun number =>
    (inOrder Prod.snd (population.filter (·.1 = number))).head?

/-- `build_advanced_search_sr_disappearance_proposals`. -/
def buildDisappearanceProposals (rows : ImportRows) (reader : DisappearanceReader)
    (importRunId logicalFingerprintSha256 : String) : Except Raised (List AbsenceDraft) := do
  requireUuid4 importRunId
  let run ← currentRunAuthority rows importRunId
  ensure (isSha256 logicalFingerprintSha256) (integrityFailure
    "Advanced Search current logical fingerprint is not lowercase SHA-256 hex")
  let currentIdentities := (reader.population rows run.importRunId).map (·.1)
  match ← resolvePriorPopulationRun rows with
  | none => return []
  | some priorRunId =>
    return (representatives (reader.population rows priorRunId)).filterMap
      (reader.absence run.importRunId currentIdentities)

/-! ## Its result -/

/-- The run has observations. -/
def ImportRows.Observes (rows : ImportRows) (importRunId : String) : Prop :=
  ∃ row ∈ rows.observations, row.importRunId = importRunId

/-- A valid observation of the run shows the Service Request of this number. -/
def ImportRows.Shows (rows : ImportRows) (reader : DisappearanceReader) (importRunId : String)
    (number sourceObservationId : String) : Prop :=
  ∃ row ∈ rows.observations, row.importRunId = importRunId ∧ row.identityValid = true ∧
    row.sourceObservationId = sourceObservationId ∧
    reader.canonicalPrimaryId sourceObservationId = number

/-- The run published rows of the checkpointed content and was decided, no later than the
checkpoint. -/
def SourceCheckpoint.PublishedBy (checkpoint : SourceCheckpoint) (rows : ImportRows)
    (run : ImportRun) : Prop :=
  run.sourceFamily = .advancedSearchSr ∧ run.sourceProfileId = checkpoint.sourceProfileId ∧
    run.chronologyKind = checkpoint.chronologyKind ∧
    run.chronologyValue ≤ checkpoint.chronologyValue ∧
    run.logicalFingerprint = some checkpoint.logicalFingerprint ∧
    run.runState ∈ [.accepted, .partiallyAccepted, .rejected] ∧ rows.Observes run.importRunId

/-- The run whose population a checkpoint stands for. -/
def SourceCheckpoint.StandsFor (checkpoint : SourceCheckpoint) (rows : ImportRows)
    (prior : ImportRun) : Prop :=
  ∃ run ∈ rows.runs, run.importRunId = checkpoint.acceptedImportRunId ∧
    if run.runState = .noop then
      ¬ rows.Observes run.importRunId ∧ prior ∈ rows.runs ∧ checkpoint.PublishedBy rows prior ∧
        ∀ other ∈ rows.runs, checkpoint.PublishedBy rows other →
          prior.latestFirst ≤ other.latestFirst
    else rows.Observes run.importRunId ∧ prior = run

/-- One draft for each number of the checkpointed population whose Service Request is known
and not under an active warning and which the run no longer shows, and no other. -/
def DisappearancesExact (rows : ImportRows) (reader : DisappearanceReader) (importRunId : String)
    (drafts : List AbsenceDraft) : Prop :=
  match rows.checkpoint? .advancedSearchSr with
  | none => drafts = []
  | some checkpoint => ∃ prior, checkpoint.StandsFor rows prior ∧
      (drafts.map (·.targetBusinessId)).Nodup ∧
      (∀ number, number ∈ drafts.map (·.targetBusinessId) ↔
        (∃ serviceRequestId, reader.getByOfficial number = some serviceRequestId ∧
          reader.warningActive serviceRequestId = false) ∧
        (∃ observed, rows.Shows reader prior.importRunId number observed) ∧
        ¬ ∃ observed, rows.Shows reader importRunId number observed) ∧
      ∀ draft ∈ drafts, draft.importRunId = importRunId ∧
        reader.getByOfficial draft.targetBusinessId = some draft.targetInternalId ∧
        rows.Shows reader prior.importRunId draft.targetBusinessId draft.priorSourceObservationId

/-- The checkpointed run owns rows, or repeats, without rows of its own, the population of a
finalized run that does. -/
def ImportRows.Populated (rows : ImportRows) : Prop :=
  ∀ checkpoint ∈ rows.checkpoint? .advancedSearchSr, ∀ run ∈ rows.runs,
    run.importRunId = checkpoint.acceptedImportRunId →
    if run.runState = .noop then
      ¬ rows.Observes run.importRunId ∧ ∃ prior ∈ rows.runs, checkpoint.PublishedBy rows prior
    else rows.Observes run.importRunId

instance populatedDecidable (rows : ImportRows) : Decidable rows.Populated := by
  letI (p q : Prop) [Decidable p] [Decidable q] : Decidable (p → q) := instDecidableForall
  unfold ImportRows.Populated SourceCheckpoint.PublishedBy ImportRows.Observes
  infer_instance

section Readings

variable {rows : ImportRows} {reader : DisappearanceReader}

theorem hasRows_eq_true : rows.hasRows importRunId = true ↔ rows.Observes importRunId := by
  simp [ImportRows.hasRows, ImportRows.Observes]

theorem hasRows_eq_false : rows.hasRows importRunId = false ↔ ¬ rows.Observes importRunId := by
  rw [← hasRows_eq_true, Bool.not_eq_true]

theorem repeats_eq_true {checkpoint : SourceCheckpoint} :
    checkpoint.repeats rows run = true ↔ checkpoint.PublishedBy rows run := by
  rw [SourceCheckpoint.repeats, decide_eq_true_iff, SourceCheckpoint.PublishedBy, ← hasRows_eq_true,
    RunState.isFinalRowBearing, decide_eq_true_iff]

theorem mem_population :
    (number, observed) ∈ reader.population rows importRunId ↔
      rows.Shows reader importRunId number observed := by
  simp only [DisappearanceReader.population, List.mem_map, List.mem_filter, decide_eq_true_eq,
    Prod.mk.injEq, ImportRows.Shows]
  constructor
  · rintro ⟨row, ⟨inside, own, valid⟩, named, rfl⟩
    exact ⟨row, inside, own, valid, rfl, named⟩
  · rintro ⟨row, inside, own, valid, rfl, named⟩
    exact ⟨row, ⟨inside, own, valid⟩, named, rfl⟩

theorem mem_population_numbers :
    number ∈ (reader.population rows importRunId).map (·.1) ↔
      ∃ observed, rows.Shows reader importRunId number observed := by
  simp only [← mem_population, List.mem_map, Prod.exists, exists_and_right, exists_eq_right]

end Readings

section Representatives

variable {population : List (String × String)}

theorem mem_representatives (inside : entry ∈ representatives population) : entry ∈ population := by
  obtain ⟨_, -, first⟩ := List.mem_filterMap.mp inside
  exact List.mem_of_mem_filter (head?_inOrder first).1

theorem representatives_numbers :
    (representatives population).map (·.1) = inOrder id (population.map (·.1)).dedup := by
  rw [representatives, List.map_filterMap]
  refine Eq.trans (List.filterMap_congr fun number listed => ?_) List.filterMap_some
  obtain ⟨entry, inside, rfl⟩ :=
    List.mem_map.mp (List.mem_dedup.mp (inOrder_perm.mem_iff.mp listed))
  have own : population.filter (·.1 = entry.1) ≠ [] :=
    List.ne_nil_of_mem (List.mem_filter.mpr ⟨inside, decide_eq_true rfl⟩)
  obtain ⟨first, found⟩ : ∃ first,
      (inOrder Prod.snd (population.filter (·.1 = entry.1))).head? = some first :=
    head?_inOrder_isSome own
  have same := of_decide_eq_true (List.mem_filter.mp (head?_inOrder found).1).2
  rw [found, Option.map_some, same]

theorem mem_numbers :
    number ∈ (representatives population).map (·.1) ↔ number ∈ population.map (·.1) := by
  rw [representatives_numbers, inOrder_perm.mem_iff, List.mem_dedup]

theorem numbers_nodup : ((representatives population).map (·.1)).Nodup := by
  rw [representatives_numbers]
  exact inOrder_perm.nodup_iff.mpr (List.nodup_dedup _)

end Representatives

section Drafts

variable {rows : ImportRows} {reader : DisappearanceReader} {importRunId : String}
  {current : List String}

theorem absence_some :
    reader.absence importRunId current prior = some draft ↔
      prior.1 ∉ current ∧ ∃ serviceRequestId, reader.getByOfficial prior.1 = some serviceRequestId ∧
        reader.warningActive serviceRequestId = false ∧
        draft = ⟨importRunId, prior.2, reader.rowLogicalSha256 prior.2, serviceRequestId, prior.1,
          reader.sourcePresenceBaseToken serviceRequestId⟩ := by
  rw [DisappearanceReader.absence]
  split
  · rename_i still
    exact iff_of_false (by simp) fun away => away.1 still
  · rename_i away
    simp only [bind, Option.bind_eq_some_iff, away, not_false_eq_true, true_and]
    refine exists_congr fun serviceRequestId => and_congr_right fun _ => ?_
    cases reader.warningActive serviceRequestId <;> simp [eq_comm]

theorem drafts_numbers (entries : List (String × String)) :
    ((entries.filterMap (reader.absence importRunId current)).map (·.targetBusinessId)).Sublist
      (entries.map (·.1)) := by
  induction entries with
  | nil => exact .slnil
  | cons entry entries ih =>
    cases made : reader.absence importRunId current entry with
    | none =>
      rw [List.filterMap_cons_none made]
      exact ih.cons _
    | some draft =>
      obtain ⟨-, _, -, -, rfl⟩ := absence_some.mp made
      rw [List.filterMap_cons_some made]
      exact ih.cons_cons _

theorem drafts_exact (population : List (String × String)) :
    let drafts := (representatives population).filterMap (reader.absence importRunId current)
    (drafts.map (·.targetBusinessId)).Nodup ∧
      (∀ number, number ∈ drafts.map (·.targetBusinessId) ↔
        (∃ serviceRequestId, reader.getByOfficial number = some serviceRequestId ∧
          reader.warningActive serviceRequestId = false) ∧
        number ∈ population.map (·.1) ∧ number ∉ current) ∧
      ∀ draft ∈ drafts, draft.importRunId = importRunId ∧
        reader.getByOfficial draft.targetBusinessId = some draft.targetInternalId ∧
        (draft.targetBusinessId, draft.priorSourceObservationId) ∈ population := by
  refine ⟨numbers_nodup.sublist (drafts_numbers _), fun number => ?_, ?_⟩
  · simp only [List.mem_map, List.mem_filterMap]
    constructor
    · rintro ⟨draft, ⟨entry, inside, made⟩, rfl⟩
      obtain ⟨away, serviceRequestId, known, quiet, rfl⟩ := absence_some.mp made
      exact ⟨⟨serviceRequestId, known, quiet⟩, ⟨entry, mem_representatives inside, rfl⟩, away⟩
    · rintro ⟨⟨serviceRequestId, known, quiet⟩, ⟨entry, inside, rfl⟩, away⟩
      obtain ⟨first, listed, same⟩ :=
        List.mem_map.mp (mem_numbers.mpr (List.mem_map_of_mem (f := Prod.fst) inside))
      refine ⟨_, ⟨first, listed, absence_some.mpr ⟨?_, serviceRequestId, ?_, quiet, rfl⟩⟩, same⟩
      · rwa [same]
      · rwa [same]
  · intro draft inside
    obtain ⟨entry, listed, made⟩ := List.mem_filterMap.mp inside
    obtain ⟨-, serviceRequestId, known, -, rfl⟩ := absence_some.mp made
    exact ⟨rfl, known, mem_representatives listed⟩

end Drafts

section Resolution

variable {rows : ImportRows} {checkpoint : SourceCheckpoint}

/-- What a checkpoint of a reachable state is backed by. -/
theorem accepted_run (valid : rows.Constraints) (sound : Sound rows)
    (found : rows.checkpoint? .advancedSearchSr = some checkpoint) :
    ∃ run ∈ rows.runs, rows.run? checkpoint.acceptedImportRunId = some run ∧
      run.importRunId = checkpoint.acceptedImportRunId ∧ checkpoint.Describes run := by
  obtain ⟨inside, family⟩ := checkpoint?_some found
  obtain ⟨run, listed, ended, _, fingerprint, same⟩ :=
    sound.backed checkpoint inside
  have named : run.importRunId = checkpoint.acceptedImportRunId := by rw [same]; rfl
  refine ⟨run, listed, named ▸ find?_eq_some valid.runIds listed, named, ?_, ?_, ?_, ?_, ?_, ?_⟩
  · rw [← family, same]
    rfl
  · rw [same]
    rfl
  · rw [same]
    rfl
  · rw [same]
    rfl
  · rw [same, fingerprint]
    rfl
  · revert ended
    cases run.runState <;> simp [RunState.isFinalRowBearing]

/-- The checkpointed run decides what its checkpoint stands for. -/
theorem standsFor_iff (valid : rows.Constraints) (listed : run ∈ rows.runs)
    (named : run.importRunId = checkpoint.acceptedImportRunId) :
    checkpoint.StandsFor rows prior ↔
      if run.runState = .noop then
        ¬ rows.Observes run.importRunId ∧ prior ∈ rows.runs ∧ checkpoint.PublishedBy rows prior ∧
          ∀ other ∈ rows.runs, checkpoint.PublishedBy rows other →
            prior.latestFirst ≤ other.latestFirst
      else rows.Observes run.importRunId ∧ prior = run := by
  constructor
  · rintro ⟨other, otherListed, otherNamed, stands⟩
    obtain rfl := List.inj_on_of_nodup_map valid.runIds otherListed listed
      (otherNamed.trans named.symm)
    exact stands
  · intro stands
    exact ⟨run, listed, named, stands⟩

theorem repeated_first (first : (inOrder ImportRun.latestFirst
      (rows.runs.filter (checkpoint.repeats rows))).head? = some prior) :
    prior ∈ rows.runs ∧ checkpoint.PublishedBy rows prior ∧ ∀ other ∈ rows.runs,
      checkpoint.PublishedBy rows other → prior.latestFirst ≤ other.latestFirst := by
  obtain ⟨inside, least⟩ := head?_inOrder first
  obtain ⟨listed, repeated⟩ := List.mem_filter.mp inside
  exact ⟨listed, repeats_eq_true.mp repeated, fun other there again =>
    least other (List.mem_filter.mpr ⟨there, repeats_eq_true.mpr again⟩)⟩

theorem repeated_exists (listed : prior ∈ rows.runs)
    (published : checkpoint.PublishedBy rows prior) :
    ∃ first, (inOrder ImportRun.latestFirst
      (rows.runs.filter (checkpoint.repeats rows))).head? = some first :=
  head?_inOrder_isSome
    (List.ne_nil_of_mem (List.mem_filter.mpr ⟨listed, repeats_eq_true.mpr published⟩))

theorem resolve_ok (valid : rows.Constraints) (sound : Sound rows)
    (found : rows.checkpoint? .advancedSearchSr = some checkpoint) :
    resolvePriorPopulationRun rows = .ok answer ↔
      ∃ prior, checkpoint.StandsFor rows prior ∧ answer = some prior.importRunId := by
  obtain ⟨run, listed, looked, named, describes⟩ := accepted_run valid sound found
  simp only [resolvePriorPopulationRun, found, looked, standsFor_iff valid listed named]
  rcases describes.2.2.2.2.2 with final | noop
  · have ended : run.runState ≠ .noop := by
      rintro noop
      rw [noop] at final
      cases final
    simp only [except_bind_ok, ensure_ok, final, if_true, if_neg ended, pure, Except.pure,
      Except.ok.injEq, hasRows_eq_true]
    constructor
    · rintro ⟨-, -, -, hasRows, rfl⟩
      exact ⟨run, ⟨hasRows, rfl⟩, rfl⟩
    · rintro ⟨_, ⟨hasRows, rfl⟩, rfl⟩
      exact ⟨(), describes, (), hasRows, rfl⟩
  · have unfinished : run.runState.isFinalRowBearing = false := by rw [noop]; rfl
    simp only [except_bind_ok, ensure_ok, unfinished, Bool.false_eq_true, if_false, if_pos noop,
      hasRows_eq_false]
    cases first : (inOrder ImportRun.latestFirst
        (rows.runs.filter (checkpoint.repeats rows))).head? with
    | none =>
      simp only [reduceCtorEq, and_false, exists_false, false_iff]
      rintro ⟨prior, ⟨-, priorListed, repeated, -⟩, -⟩
      obtain ⟨other, there⟩ := repeated_exists priorListed repeated
      rw [first] at there
      cases there
    | some prior =>
      obtain ⟨priorListed, repeated, least⟩ := repeated_first first
      simp only [pure, Except.pure, Except.ok.injEq]
      constructor
      · rintro ⟨-, -, -, rowless, rfl⟩
        exact ⟨prior, ⟨rowless, priorListed, repeated, least⟩, rfl⟩
      · rintro ⟨other, ⟨rowless, otherListed, again, otherLeast⟩, rfl⟩
        have same : prior.latestFirst = other.latestFirst :=
          le_antisymm (least other otherListed again) (otherLeast prior priorListed repeated)
        have ids : prior.importRunId = other.importRunId := congrArg (fun key => (ofLex key).2) same
        exact ⟨(), describes, (), rowless, congrArg some ids⟩

theorem populated_iff (valid : rows.Constraints) (sound : Sound rows)
    (found : rows.checkpoint? .advancedSearchSr = some checkpoint) :
    rows.Populated ↔ ∃ prior, checkpoint.StandsFor rows prior := by
  obtain ⟨run, listed, -, named, -⟩ := accepted_run valid sound found
  simp only [standsFor_iff valid listed named]
  constructor
  · intro populated
    have own := populated checkpoint found run listed named
    split at own
    · rename_i noop
      obtain ⟨rowless, prior, priorListed, repeated⟩ := own
      obtain ⟨first, there⟩ := repeated_exists priorListed repeated
      refine ⟨first, ?_⟩
      rw [if_pos noop]
      exact ⟨rowless, repeated_first there⟩
    · rename_i ended
      refine ⟨run, ?_⟩
      rw [if_neg ended]
      exact ⟨own, rfl⟩
  · rintro ⟨prior, stands⟩ other there otherRun otherListed otherNamed
    cases found.symm.trans there
    obtain rfl := List.inj_on_of_nodup_map valid.runIds otherListed listed
      (otherNamed.trans named.symm)
    split at stands
    · rename_i noop
      rw [if_pos noop]
      exact ⟨stands.1, prior, stands.2.1, stands.2.2.1⟩
    · rename_i ended
      rw [if_neg ended]
      exact stands.1

end Resolution

/-- In a reachable state, a validating Advanced Search run gets the exact drafts just when the
checkpointed population has rows. -/
theorem disappearances_exact_iff {python : PythonLibrary} {tables : ImportTables}
    (reached : Reachable (· = ImportTables.migrated) (Executes python) tables)
    (reader : DisappearanceReader) {run : ImportRun} (inside : run ∈ tables.rows.runs)
    (family : run.sourceFamily = .advancedSearchSr)
    (profile : run.sourceProfileId = "ADVANCED_SEARCH_SR_V1")
    (validating : run.runState = .validating) {logicalFingerprintSha256 : String}
    (hashed : isSha256 logicalFingerprintSha256 = true) :
    (∃ drafts, buildDisappearanceProposals tables.rows reader run.importRunId
        logicalFingerprintSha256 = .ok drafts ∧
      DisappearancesExact tables.rows reader run.importRunId drafts) ↔ tables.rows.Populated := by
  have standing := reachable_standing reached
  have authority : currentRunAuthority tables.rows run.importRunId = .ok run := by
    have revision : 1 ≤ run.revision := (tables.valid.runChecks run inside).1
    rw [currentRunAuthority, run?_of_mem tables.valid inside]
    simp only [ensure, family, profile, validating, revision, true_and, if_true]
    rfl
  have built : buildDisappearanceProposals tables.rows reader run.importRunId
      logicalFingerprintSha256 = (resolvePriorPopulationRun tables.rows).map fun prior =>
        prior.elim [] fun priorRunId =>
          (representatives (reader.population tables.rows priorRunId)).filterMap
            (reader.absence run.importRunId
              ((reader.population tables.rows run.importRunId).map (·.1))) := by
    rw [buildDisappearanceProposals, requireUuid4, ensure, if_pos (standing.canonical run inside),
      authority]
    simp only [bind, Except.bind, ensure, if_pos hashed]
    rcases resolvePriorPopulationRun tables.rows with _ | _ | _ <;> rfl
  rw [built]
  cases found : tables.rows.checkpoint? .advancedSearchSr with
  | none =>
    have answer : resolvePriorPopulationRun tables.rows = .ok none := by
      rw [resolvePriorPopulationRun, found]
    have populated : tables.rows.Populated := by
      intro checkpoint there
      rw [found] at there
      cases there
    refine iff_of_true ⟨[], by rw [answer]; rfl, ?_⟩ populated
    rw [DisappearancesExact, found]
  | some checkpoint =>
    rw [populated_iff tables.valid standing.sound found]
    constructor
    · rintro ⟨drafts, -, drafted⟩
      rw [DisappearancesExact, found] at drafted
      obtain ⟨prior, stands, -⟩ := drafted
      exact ⟨prior, stands⟩
    · rintro ⟨prior, stands⟩
      have answer := (resolve_ok tables.valid standing.sound found).mpr ⟨prior, stands, rfl⟩
      refine ⟨_, by rw [answer]; rfl, ?_⟩
      rw [DisappearancesExact, found]
      obtain ⟨once, numbers, named⟩ := drafts_exact (reader.population tables.rows prior.importRunId)
      refine ⟨prior, stands, once, fun number => ?_, fun draft inside => ?_⟩
      · refine (numbers number).trans ?_
        rw [mem_population_numbers, mem_population_numbers]
      · obtain ⟨own, known, shown⟩ := named draft inside
        exact ⟨own, known, mem_population.mp shown⟩

/-! ## Samples -/

def priorRunId : String := "3f2b8c1e-9d4a-4c7f-8a6b-0123456789ab"

def laterRunId : String := "3f2b8c1e-9d4a-4c7f-8a6b-0123456789ac"

def sampleFingerprint : String := String.ofList (List.replicate 64 'b')

def absentObservation : Uuid4 := ⟨"00000000-0000-4000-8000-000000000901", by decide +kernel⟩

def startAdvancedSearch (importRunId : String) (chronologyValue : Nat) : ImportCommand :=
  .start importRunId .advancedSearchSr "ADVANCED_SEARCH_SR_V1" .filesystemMtimeNs chronologyValue 0

def afterExport (staged : List ImportCommand) : ImportTables :=
  afterCommands ([startAdvancedSearch priorRunId 10] ++ staged ++
    [.publish {
        importRunId := priorRunId
        expectedRevision := 1
        logicalFingerprint := sampleFingerprint
        writes := []
        suppressed := fun _ => false
        reconciliationFindings := []
        now := 0 },
      .finalize priorRunId 2 0, startAdvancedSearch laterRunId 20]) .migrated

def sampleReader : DisappearanceReader where
  canonicalPrimaryId _ := "12345678"
  rowLogicalSha256 _ := sampleFingerprint
  getByOfficial _ := some "sr"
  warningActive _ := false
  sourcePresenceBaseToken _ := sampleFingerprint

def laterRun : ImportRun where
  importRunId := laterRunId
  sourceFamily := .advancedSearchSr
  sourceProfileId := "ADVANCED_SEARCH_SR_V1"
  chronologyKind := .filesystemMtimeNs
  chronologyValue := 20
  logicalFingerprint := none
  runState := .validating
  startedAtUtc := 0
  stagedAtUtc := none
  completedAtUtc := none
  counters := .zero
  revision := 1

theorem shown_rows_drafted :
    ∃ drafts, buildDisappearanceProposals
        (afterExport [.stage priorRunId 1 [(absentObservation, true)]]).rows sampleReader laterRunId
        sampleFingerprint = .ok drafts ∧
      DisappearancesExact (afterExport [.stage priorRunId 1 [(absentObservation, true)]]).rows
        sampleReader laterRunId drafts := by
  have listed : laterRun ∈ (afterExport [.stage priorRunId 1 [(absentObservation, true)]]).rows.runs :=
    by decide +kernel
  exact (disappearances_exact_iff (afterCommands_reached _ (.start rfl)) sampleReader listed rfl rfl
    rfl (by decide +kernel)).mpr (by decide +kernel)

/-- A finalized export without rows fails the run after it. -/
theorem empty_export_fails :
    Reachable (· = ImportTables.migrated) (Executes samplePython) (afterExport []) ∧
      laterRun ∈ (afterExport []).rows.runs ∧
      buildDisappearanceProposals (afterExport []).rows sampleReader laterRunId sampleFingerprint =
        .error (integrityFailure
          "Advanced Search finalized checkpoint run has no row-bearing published population") :=
  ⟨afterCommands_reached _ (.start rfl), by decide +kernel, by rfl⟩

end Soma.Imports
