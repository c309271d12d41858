import Soma.Imports.LogicalFrames

/-!
What `partition_row_variants` keeps of the rows. Under digests that tell the
frames of the rows apart, the variants with their counts are exactly the
multiset of row frames (`frames_of_variants`), and every variant is determined
by that multiset and one of its rows (`variant_of_row`).
-/

namespace Soma.Imports

open Foundation Transaction Frames Grouping

variable {sha256 : Sha256}

/-- Prepared rows: framed, with digests that tell their frames apart. -/
structure Prepared (sha256 : Sha256) (prepared : List PreparedRow) : Prop where
  framed : ∀ entry ∈ prepared, ∃ frame, rowFrame sha256 entry.1 = .ok frame
  apart : ∀ entry ∈ prepared, ∀ other ∈ prepared, entry.2 = other.2 →
    rowFrame sha256 entry.1 = rowFrame sha256 other.1

namespace Prepared

variable {prepared : List PreparedRow} (facts : Prepared sha256 prepared)

include facts

theorem of_subset (within : ∀ entry ∈ part, entry ∈ prepared) : Prepared sha256 part where
  framed := fun entry inside => facts.framed entry (within entry inside)
  apart := fun entry inside other inside' =>
    facts.apart entry (within entry inside) other (within other inside')

theorem same_content (inside : entry ∈ prepared) (inside' : other ∈ prepared)
    (digests : entry.2 = other.2) : rowContent sha256 entry.1 = rowContent sha256 other.1 := by
  obtain ⟨_, framed⟩ := facts.framed entry inside
  have framed' := (facts.apart entry inside other inside' digests).symm.trans framed
  exact decodes_row.unique framed framed'

theorem same_state (inside : entry ∈ prepared) (inside' : other ∈ prepared)
    (digests : entry.2 = other.2) : entry.1.identityState = other.1.identityState :=
  congrArg RowContent.identityState (facts.same_content inside inside' digests)

theorem same_identity (inside : entry ∈ prepared) (inside' : other ∈ prepared)
    (digests : entry.2 = other.2) : identityKey entry.1 = identityKey other.1 := by
  have contents := facts.same_content inside inside' digests
  have entity := congrArg RowContent.entityKind contents
  have primary := congrArg RowContent.canonicalPrimaryId contents
  have parent := congrArg RowContent.canonicalParentRfcNo contents
  simp only [rowContent] at entity primary parent
  simp [identityKey, entity, primary, parent]

end Prepared

/-! ## The frames of the variants -/

/-- The frame of a variant's row, once for each of its occurrences. -/
def occurrences (sha256 : Sha256) (variant : LogicalRowVariant) : List (Except Raised Bytes) :=
  List.replicate variant.duplicateCount (rowFrame sha256 variant.row)

theorem occurrences_rowVariant (inhabited : ∀ group ∈ groups, group.2 ≠ [])
    (same : ∀ group ∈ groups, ∀ entry ∈ group.2, ∀ other ∈ group.2,
      rowFrame sha256 entry.1 = rowFrame sha256 other.1) :
    (groups.filterMap (rowVariant conflicts)).flatMap (occurrences sha256) =
      (values groups).map fun entry => rowFrame sha256 entry.1 := by
  induction groups with
  | nil => rfl
  | cons group groups ih =>
    obtain ⟨_, held⟩ := group
    cases held with
    | nil => exact absurd rfl (inhabited _ List.mem_cons_self)
    | cons first others =>
      have rest := ih (fun group inside => inhabited group (List.mem_cons_of_mem _ inside))
        (fun group inside => same group (List.mem_cons_of_mem _ inside))
      have all : (first :: others).map (fun entry => rowFrame sha256 entry.1) =
          List.replicate (first :: others).length (rowFrame sha256 first.1) := by
        refine List.eq_replicate_iff.mpr ⟨List.length_map _, fun frame inside => ?_⟩
        obtain ⟨entry, listed, rfl⟩ := List.mem_map.mp inside
        exact same _ List.mem_cons_self entry listed first List.mem_cons_self
      rw [values, List.flatMap_cons, List.map_append, ← values, ← rest, all]
      rfl

variable {prepared : List PreparedRow}

theorem occurrences_gather (facts : Prepared sha256 prepared) (conflicts : Nat) :
    (((gather Prod.snd prepared).filterMap (rowVariant conflicts)).flatMap
      (occurrences sha256)).Perm (prepared.map fun entry => rowFrame sha256 entry.1) := by
  have within : ∀ group ∈ gather Prod.snd prepared, ∀ entry ∈ group.2,
      entry ∈ prepared ∧ entry.2 = group.1 := by
    intro group inside entry held
    have found := (held_gather inside).mem_iff.mp held
    exact ⟨(List.mem_filter.mp found).1, of_decide_eq_true (List.mem_filter.mp found).2⟩
  rw [occurrences_rowVariant (fun group inside => gather_inhabited inside)
    (fun group inside entry held other held' => by
      have first := within group inside entry held
      have second := within group inside other held'
      exact facts.apart entry first.1 other second.1 (first.2.trans second.2.symm))]
  exact (values_gather prepared).map _

/-- **Frames of the variants.** The variants of prepared rows, each as often as
it occurs, have the frames of the rows. -/
theorem frames_of_variants (facts : Prepared sha256 prepared) :
    ((partitionPrepared prepared).flatMap (occurrences sha256)).Perm
      (prepared.map fun entry => rowFrame sha256 entry.1) := by
  have split : ((prepared.filter (·.1.identityState = "valid")) ++
      (prepared.filter (·.1.identityState ≠ "valid"))).Perm prepared := by
    simpa using List.filter_append_perm (fun entry : PreparedRow =>
      decide (entry.1.identityState = "valid")) prepared
  refine List.Perm.trans ?_ (split.map _)
  rw [partitionPrepared, List.flatMap_append, List.map_append, List.flatMap_assoc]
  refine List.Perm.append ?_ ?_
  · have byIdentity : ∀ group ∈ gather (fun entry : PreparedRow => identityKey entry.1)
        (prepared.filter (·.1.identityState = "valid")),
        ((identityVariants group.2).flatMap (occurrences sha256)).Perm
          (group.2.map fun entry => rowFrame sha256 entry.1) := by
      intro group inside
      refine occurrences_gather (facts.of_subset fun entry held => ?_) _
      have found := (held_gather inside).mem_iff.mp held
      exact (List.mem_filter.mp (List.mem_filter.mp found).1).1
    refine (List.Perm.flatMap_left _ byIdentity).trans ?_
    rw [← List.map_flatMap]
    exact (values_gather _).map _
  · refine occurrences_gather (facts.of_subset fun entry inside => ?_) 1
    exact (List.mem_filter.mp inside).1

/-! ## Each variant -/

/-- How many variants the identity of a row has. -/
def conflictsOf (prepared : List PreparedRow) (row : LogicalRow) : Nat :=
  if row.identityState = "valid" then
    ((prepared.filter fun entry =>
      entry.1.identityState = "valid" ∧ identityKey entry.1 = identityKey row).map
        Prod.snd).toFinset.card
  else 1

/-- The variant of a row among all prepared rows. -/
def variantOf (prepared : List PreparedRow) (entry : PreparedRow) : LogicalRowVariant where
  classification :=
    if 1 < conflictsOf prepared entry.1 then .conflictMember
    else if 1 < prepared.countP (·.2 = entry.2) then .equivalentDuplicate
    else .unique
  duplicateCount := prepared.countP (·.2 = entry.2)
  conflictVariantCount := conflictsOf prepared entry.1
  row := entry.1
  rowLogicalSha256 := entry.2

theorem rowVariant_some (found : rowVariant conflicts group = some variant) :
    ∃ first ∈ group.2, variant =
      { classification :=
          if 1 < conflicts then .conflictMember
          else if 1 < group.2.length then .equivalentDuplicate
          else .unique
        duplicateCount := group.2.length
        conflictVariantCount := conflicts
        row := first.1
        rowLogicalSha256 := group.1 } := by
  obtain ⟨first, head, rfl⟩ := Option.map_eq_some_iff.mp found
  exact ⟨first, List.mem_of_head? head, rfl⟩

/-- **Each variant.** A variant is the one of some row, whose counts depend only
on the digests of all rows. -/
theorem variant_of_row (facts : Prepared sha256 prepared)
    (inside : variant ∈ partitionPrepared prepared) :
    ∃ entry ∈ prepared, variant = variantOf prepared entry := by
  rcases List.mem_append.mp inside with inside | inside
  · obtain ⟨⟨_, held⟩, listed, inside⟩ := List.mem_flatMap.mp inside
    obtain ⟨⟨digest, same⟩, listed', found⟩ := List.mem_filterMap.mp inside
    obtain ⟨first, member, rfl⟩ := rowVariant_some found
    have heldPerm := held_gather listed
    have samePerm := held_gather listed'
    obtain ⟨inHeld, digests⟩ := List.mem_filter.mp (samePerm.mem_iff.mp member)
    obtain ⟨inValid, keys⟩ := List.mem_filter.mp (heldPerm.mem_iff.mp inHeld)
    obtain ⟨inPrepared, valid⟩ := List.mem_filter.mp inValid
    simp only [decide_eq_true_eq] at digests keys valid
    have count : same.length = prepared.countP (·.2 = first.2) := by
      rw [samePerm.length_eq, ← List.countP_eq_length_filter, heldPerm.countP_eq,
        List.countP_filter, List.countP_filter]
      refine List.countP_congr fun entry listed => ?_
      simp only [Bool.and_eq_true, decide_eq_true_eq]
      constructor
      · rintro ⟨⟨digest', -⟩, -⟩
        exact digest'.trans digests.symm
      · intro equal
        refine ⟨⟨equal.trans digests, ?_⟩, ?_⟩
        · exact (facts.same_identity listed inPrepared equal).trans keys
        · exact (facts.same_state listed inPrepared equal).trans valid
    have conflicts : (gather Prod.snd held).length = conflictsOf prepared first.1 := by
      rw [length_gather, conflictsOf, if_pos valid]
      congr 1
      ext digest'
      simp only [List.mem_toFinset, List.mem_map, heldPerm.mem_iff, List.mem_filter,
        decide_eq_true_eq, keys]
      constructor
      · rintro ⟨entry, ⟨⟨listed, state⟩, named⟩, rfl⟩
        exact ⟨entry, ⟨listed, state, named⟩, rfl⟩
      · rintro ⟨entry, ⟨listed, state, named⟩, rfl⟩
        exact ⟨entry, ⟨⟨listed, state⟩, named⟩, rfl⟩
    refine ⟨first, inPrepared, ?_⟩
    simp only [variantOf, count, conflicts, digests]
  · obtain ⟨⟨digest, same⟩, listed, found⟩ := List.mem_filterMap.mp inside
    obtain ⟨first, member, rfl⟩ := rowVariant_some found
    have samePerm := held_gather listed
    obtain ⟨inInvalid, digests⟩ := List.mem_filter.mp (samePerm.mem_iff.mp member)
    obtain ⟨inPrepared, invalid⟩ := List.mem_filter.mp inInvalid
    simp only [decide_eq_true_eq] at digests invalid
    have count : same.length = prepared.countP (·.2 = first.2) := by
      rw [samePerm.length_eq, ← List.countP_eq_length_filter, List.countP_filter]
      refine List.countP_congr fun entry listed => ?_
      simp only [Bool.and_eq_true, decide_eq_true_eq]
      constructor
      · rintro ⟨digest', -⟩
        exact digest'.trans digests.symm
      · intro equal
        refine ⟨equal.trans digests, ?_⟩
        rw [facts.same_state listed inPrepared equal]
        exact invalid
    have conflicts : conflictsOf prepared first.1 = 1 := by
      rw [conflictsOf, if_neg invalid]
    refine ⟨first, inPrepared, ?_⟩
    simp only [variantOf, count, conflicts, digests]

theorem digests_rowVariant {conflicts : Nat} {groups : List (String × List PreparedRow)}
    (inhabited : ∀ group ∈ groups, group.2 ≠ []) :
    (groups.filterMap (rowVariant conflicts)).map (·.rowLogicalSha256) =
      groups.map Prod.fst := by
  induction groups with
  | nil => rfl
  | cons group groups ih =>
    obtain ⟨_, held⟩ := group
    have rest := ih fun group inside => inhabited group (List.mem_cons_of_mem _ inside)
    cases held with
    | nil => exact absurd rfl (inhabited _ List.mem_cons_self)
    | cons first others =>
      rw [List.map_cons, ← rest]
      rfl

theorem digests_gather (prepared : List PreparedRow) (conflicts : Nat) :
    ((gather Prod.snd prepared).filterMap (rowVariant conflicts)).map (·.rowLogicalSha256) =
      (gather Prod.snd prepared).map Prod.fst :=
  digests_rowVariant fun _ inside => gather_inhabited inside

theorem mem_digests :
    digest ∈ (partitionPrepared prepared).map (·.rowLogicalSha256) ↔
      digest ∈ prepared.map Prod.snd := by
  rw [partitionPrepared, List.map_append, List.map_flatMap, List.mem_append, List.mem_flatMap,
    digests_gather, mem_keys_gather]
  simp only [identityVariants, digests_gather, mem_keys_gather]
  simp only [List.mem_map, List.mem_filter]
  constructor
  · rintro (⟨_, inside, entry, held, rfl⟩ | ⟨entry, ⟨listed, -⟩, rfl⟩)
    · have found := (held_gather inside).mem_iff.mp held
      exact ⟨entry, (List.mem_filter.mp (List.mem_filter.mp found).1).1, rfl⟩
    · exact ⟨entry, listed, rfl⟩
  · rintro ⟨entry, listed, rfl⟩
    by_cases valid : entry.1.identityState = "valid"
    · have named : identityKey entry.1 ∈ (gather (fun entry : PreparedRow => identityKey entry.1)
          (prepared.filter (·.1.identityState = "valid"))).map Prod.fst :=
        mem_keys_gather.mpr (List.mem_map.mpr
          ⟨entry, List.mem_filter.mpr ⟨listed, by simpa using valid⟩, rfl⟩)
      obtain ⟨⟨_, held⟩, inside, rfl⟩ := List.mem_map.mp named
      refine .inl ⟨_, inside, entry, (held_gather inside).mem_iff.mpr ?_, rfl⟩
      exact List.mem_filter.mpr ⟨List.mem_filter.mpr ⟨listed, by simpa using valid⟩, by simp_all⟩
    · exact .inr ⟨entry, ⟨listed, by simpa using valid⟩, rfl⟩

theorem digests_nodup (facts : Prepared sha256 prepared) :
    ((partitionPrepared prepared).map (·.rowLogicalSha256)).Nodup := by
  have inGroup : ∀ group ∈ gather (fun entry : PreparedRow => identityKey entry.1)
      (prepared.filter (·.1.identityState = "valid")), ∀ digest,
      digest ∈ (identityVariants group.2).map (·.rowLogicalSha256) →
      ∃ entry ∈ prepared, entry.1.identityState = "valid" ∧ identityKey entry.1 = group.1 ∧
        entry.2 = digest := by
    intro group inside digest listed
    rw [identityVariants, digests_gather, mem_keys_gather] at listed
    obtain ⟨entry, held, rfl⟩ := List.mem_map.mp listed
    have found := List.mem_filter.mp ((held_gather inside).mem_iff.mp held)
    have valid := List.mem_filter.mp found.1
    simp only [decide_eq_true_eq] at found valid
    exact ⟨entry, valid.1, valid.2, found.2, rfl⟩
  rw [partitionPrepared, List.map_append, List.map_flatMap, List.nodup_append]
  refine ⟨List.nodup_flatMap.mpr ⟨?_, ?_⟩, ?_, ?_⟩
  · intro group inside
    rw [identityVariants, digests_gather]
    exact (grouped_gather group.2).distinct
  · have keys : ((gather (fun entry : PreparedRow => identityKey entry.1)
        (prepared.filter (·.1.identityState = "valid"))).map Prod.fst).Nodup :=
      (grouped_gather _).distinct
    rw [List.Nodup, List.pairwise_map] at keys
    refine keys.imp_of_mem fun {first second} inside inside' differ digest listed listed' => ?_
    obtain ⟨entry, held, -, named, rfl⟩ := inGroup first inside digest listed
    obtain ⟨other, held', -, named', equal⟩ := inGroup second inside' _ listed'
    exact differ (named.symm.trans ((facts.same_identity held held' equal.symm).trans named'))
  · rw [digests_gather]
    exact (grouped_gather _).distinct
  · intro digest listed digest' listed' equal
    subst equal
    obtain ⟨group, inside, listed⟩ := List.mem_flatMap.mp listed
    obtain ⟨entry, held, valid, -, named⟩ := inGroup group inside digest listed
    rw [digests_gather, mem_keys_gather] at listed'
    obtain ⟨other, found, named'⟩ := List.mem_map.mp listed'
    obtain ⟨held', invalid⟩ := List.mem_filter.mp found
    simp only [decide_eq_true_eq] at invalid
    exact invalid ((facts.same_state held held' (named.trans named'.symm)).symm.trans valid)

end Soma.Imports
