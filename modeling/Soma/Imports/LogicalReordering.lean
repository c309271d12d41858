import Mathlib
import Soma.Imports.LogicalInjectivity

/-!
What the order of a source file does not change. Fields and findings are sorted
before they are framed and variants before they are joined, so a file read in
another order has the same fingerprint (`fingerprint_of_reordered`). The variants
themselves are one for each identity and row digest that occurs
(`partition_facts`); a row without a usable identity has none to conflict on.
-/

namespace Soma.Imports

open Foundation Transaction Frames Grouping

variable {sha256 : Sha256}

/-! ## Rows in another order -/

/-- The same row with its fields and findings in another order. -/
structure Rearranged (row other : LogicalRow) : Prop where
  identityState : row.identityState = other.identityState
  entityKind : row.entityKind = other.entityKind
  canonicalPrimaryId : row.canonicalPrimaryId = other.canonicalPrimaryId
  canonicalParentRfcNo : row.canonicalParentRfcNo = other.canonicalParentRfcNo
  fields : row.fields.Perm other.fields
  findings : row.findings.Perm other.findings

/-- The same input with its rows, their fields and findings and the global
findings in another order. -/
structure Reordered (input other : LogicalInput) : Prop where
  profile : input.profile = other.profile
  rows : ∃ arranged, input.rows.Perm arranged ∧ List.Forall₂ Rearranged arranged other.rows
  globalFindings : input.globalFindings.Perm other.globalFindings

theorem Rearranged.symm {row other : LogicalRow} (same : Rearranged row other) :
    Rearranged other row :=
  ⟨same.identityState.symm, same.entityKind.symm, same.canonicalPrimaryId.symm,
    same.canonicalParentRfcNo.symm, same.fields.symm, same.findings.symm⟩

variable {input other : LogicalInput}

theorem Reordered.symm (same : Reordered input other) : Reordered other input := by
  obtain ⟨_, moved, aligned⟩ := same.rows
  obtain ⟨back, aligned', moved'⟩ := List.perm_comp_forall₂ moved aligned
  refine ⟨same.profile.symm, ⟨back, moved'.symm, ?_⟩, same.globalFindings.symm⟩
  exact (List.Forall₂.flip aligned').imp fun _ _ rearranged => rearranged.symm

theorem sortedFields_of_perm {row other : LogicalRow} (moved : row.fields.Perm other.fields)
    (distinct : (row.fields.map (·.fieldKey)).Nodup) : sortedFields row = sortedFields other := by
  refine List.Perm.eq_of_pairwise ?_ (List.pairwise_insertionSort _ _)
    (List.pairwise_insertionSort _ _)
    ((List.perm_insertionSort _ _).trans (moved.trans (List.perm_insertionSort _ _).symm))
  intro first second inside inside' before after
  have listed := (List.perm_insertionSort _ _).mem_iff.mp inside
  have listed' := moved.mem_iff.mpr ((List.perm_insertionSort _ _).mem_iff.mp inside')
  exact List.inj_on_of_nodup_map distinct listed listed' (le_antisymm before after)

theorem sortedFindings_of_perm {findings : List LogicalFinding} (moved : findings.Perm others) :
    sortedFindings findings = sortedFindings others :=
  sortedFindings_eq.mpr (moved.filter _)

theorem rowFrame_rearranged {row other : LogicalRow} (same : Rearranged row other) :
    rowFrame sha256 row = rowFrame sha256 other := by
  obtain ⟨state, kind, primary, parent, moved, found⟩ := same
  have keys : (row.fields.map (·.fieldKey)).Nodup ↔ (other.fields.map (·.fieldKey)).Nodup :=
    (moved.map _).nodup_iff
  rw [rowFrame, rowFrame, state, kind, primary, parent, sortedFindings_of_perm found]
  by_cases distinct : (row.fields.map (·.fieldKey)).Nodup
  · rw [ensure, ensure, ensure, ensure, if_pos distinct, if_pos (keys.mp distinct),
      sortedFields_of_perm moved distinct]
  · rw [ensure, ensure, ensure, ensure, if_neg distinct, if_neg (mt keys.mpr distinct)]
    rfl

variable {rows others : List LogicalRow}

theorem rowFrames_rearranged (aligned : List.Forall₂ Rearranged rows others) :
    rows.map (rowFrame sha256) = others.map (rowFrame sha256) := by
  induction aligned with
  | nil => rfl
  | cons same _ ih => rw [List.map_cons, List.map_cons, rowFrame_rearranged same, ih]

theorem rowFrames_reordered (same : Reordered input other) :
    (input.rows.map (rowFrame sha256)).Perm (other.rows.map (rowFrame sha256)) := by
  obtain ⟨_, moved, aligned⟩ := same.rows
  rw [← rowFrames_rearranged aligned]
  exact moved.map _

/-! ## The fingerprint -/

/-- The digest and the length of the stream, when there is one. -/
def fingerprint? (sha256 : Sha256) (input : LogicalInput) : Option (String × Nat) :=
  (computeLogicalFingerprint sha256 input).toOption.map fun result =>
    (result.logicalFingerprintSha256, result.streamBytes)

theorem fingerprint?_eq_some :
    fingerprint? sha256 input = some (digest, bytes) ↔
      ∃ stream variants, logicalStream sha256 input = .ok (stream, variants) ∧
        sha256 stream = digest ∧ stream.length = bytes := by
  rw [fingerprint?, computeLogicalFingerprint]
  cases ran : logicalStream sha256 input with
  | error raised => simp [bind, Except.bind, Except.toOption]
  | ok result =>
    obtain ⟨stream, variants⟩ := result
    simp [bind, Except.bind, Except.toOption, pure, Except.pure]

theorem prepares_of_frames (ran : rows.mapM (prepareRow sha256) = .ok prepared)
    (frames : (rows.map (rowFrame sha256)).Perm (others.map (rowFrame sha256))) :
    ∃ prepared', others.mapM (prepareRow sha256) = .ok prepared' := by
  refine mapM_succeeds fun row inside => ?_
  obtain ⟨_, listed, same⟩ :=
    List.mem_map.mp (frames.mem_iff.mpr (List.mem_map.mpr ⟨row, inside, rfl⟩))
  obtain ⟨_, -, made⟩ := image_of_mem ran listed
  simp only [prepareRow, except_ok] at made
  obtain ⟨frame, framed, -⟩ := made
  refine ⟨(row, sha256 frame), ?_⟩
  simp only [prepareRow, except_ok]
  exact ⟨frame, same ▸ framed, rfl⟩

theorem CollisionFree.of_frames (apart : CollisionFree sha256 rows)
    (frames : (rows.map (rowFrame sha256)).Perm (others.map (rowFrame sha256))) :
    CollisionFree sha256 (rows ++ others) := by
  have source : ∀ row ∈ rows ++ others, ∃ origin ∈ rows,
      rowFrame sha256 origin = rowFrame sha256 row := by
    intro row inside
    rcases List.mem_append.mp inside with inside | inside
    · exact ⟨row, inside, rfl⟩
    · exact List.mem_map.mp (frames.mem_iff.mpr (List.mem_map.mpr ⟨row, inside, rfl⟩))
  intro row inside other inside' frame frame' framed framed' digests
  obtain ⟨origin, listed, same⟩ := source row inside
  obtain ⟨origin', listed', same'⟩ := source other inside'
  exact apart origin listed origin' listed' frame frame' (same.trans framed)
    (same'.trans framed') digests

/-- A stream over the same profile, findings and framed variants is the same. -/
theorem logicalStream_of_parts (parts : StreamParts sha256 input stream)
    (profile : input.profile = other.profile)
    (findings : sortedFindings input.globalFindings = sortedFindings other.globalFindings)
    (ran : other.rows.mapM (prepareRow sha256) = .ok prepared)
    (variants : (sortedVariants parts.prepared).map (variantContent sha256) =
      (sortedVariants prepared).map (variantContent sha256)) :
    logicalStream sha256 other = .ok (stream, sortedVariants prepared) := by
  have framed : ∀ list : List LogicalRowVariant, list.mapM (variantFrame sha256) =
      (list.map (variantContent sha256)).mapM contentFrame := fun list => by
    rw [List.mapM_map]
    rfl
  have frames : (sortedVariants prepared).mapM (variantFrame sha256) = .ok parts.variants := by
    rw [framed, ← variants, ← framed]
    exact parts.framesVariants
  have count : frameInteger (sortedVariants prepared).length = .ok parts.variantCount := by
    have lengths := congrArg List.length variants
    rw [List.length_map, List.length_map] at lengths
    rw [← lengths]
    exact parts.framesVariantCount
  simp only [logicalStream, partitionRowVariants, except_bind_ok, ← profile, ← findings]
  exact ⟨_, ⟨prepared, ran, rfl⟩, _, parts.framesMagic, _, parts.framesFamily, _,
    parts.framesProfile, _, parts.framesHeaders, _, parts.framesVocabulary, _, parts.framesParser,
    _, parts.framesFindingCount, _, parts.framesFindings, _, count, _, frames,
    congrArg (fun joined => Except.ok (joined, sortedVariants prepared)) parts.joined.symm⟩

theorem logicalStream_reordered (same : Reordered input other)
    (apart : CollisionFree sha256 input.rows)
    (ran : logicalStream sha256 input = .ok (stream, variants)) :
    ∃ variants', logicalStream sha256 other = .ok (stream, variants') := by
  obtain ⟨parts⟩ := logicalStream_parts ran
  have frames : (input.rows.map (rowFrame sha256)).Perm (other.rows.map (rowFrame sha256)) :=
    rowFrames_reordered same
  obtain ⟨_, prepares⟩ := prepares_of_frames parts.prepares frames
  have facts := Prepared.of_collisionFree (apart.of_frames frames) parts.prepares prepares
  refine ⟨_, logicalStream_of_parts parts same.profile
    (sortedFindings_of_perm same.globalFindings) prepares (sortedVariants_agree facts ?_)⟩
  rw [digests_of_prepared parts.prepares, digests_of_prepared prepares]
  exact frames.map _

theorem fingerprint_of_reordered (same : Reordered input other)
    (apart : CollisionFree sha256 input.rows) :
    fingerprint? sha256 input = fingerprint? sha256 other := by
  have apart' : CollisionFree sha256 other.rows := by
    have both := apart.of_frames (rowFrames_reordered same)
    exact fun row inside other inside' =>
      both row (List.mem_append_right _ inside) other (List.mem_append_right _ inside')
  refine Option.ext fun found => ?_
  obtain ⟨_, _⟩ := found
  rw [fingerprint?_eq_some, fingerprint?_eq_some]
  constructor
  · rintro ⟨stream, variants, ran, digests, lengths⟩
    obtain ⟨variants', ran'⟩ := logicalStream_reordered same apart ran
    exact ⟨stream, variants', ran', digests, lengths⟩
  · rintro ⟨stream, variants, ran, digests, lengths⟩
    obtain ⟨variants', ran'⟩ := logicalStream_reordered same.symm apart' ran
    exact ⟨stream, variants', ran', digests, lengths⟩

/-! ## The variants -/

/-- The identity of a row, when it has a usable one. -/
def identity? (row : LogicalRow) : Option (String × Option String × Option String) :=
  if row.identityState = "valid" then some (identityKey row) else none

/-- What a variant stands for. -/
def variantClass (variant : LogicalRowVariant) :
    Option (String × Option String × Option String) × String :=
  (identity? variant.row, variant.rowLogicalSha256)

/-- What a prepared row belongs to. -/
def rowClass (entry : PreparedRow) : Option (String × Option String × Option String) × String :=
  (identity? entry.1, entry.2)

/-- The identity occurs with more than one digest. -/
def Conflicting (prepared : List PreparedRow)
    (identity : Option (String × Option String × Option String)) : Prop :=
  identity ≠ none ∧ ∃ entry ∈ prepared, identity? entry.1 = identity ∧
    ∃ other ∈ prepared, identity? other.1 = identity ∧ entry.2 ≠ other.2

section Groups

variable {prepared held : List PreparedRow} {conflicts : Nat}

theorem mem_gathered (inside : variant ∈ (gather Prod.snd held).filterMap (rowVariant conflicts)) :
    (∃ entry ∈ held, entry.1 = variant.row ∧ entry.2 = variant.rowLogicalSha256) ∧
      (variant.classification = .conflictMember ↔ 1 < conflicts) := by
  obtain ⟨⟨_, _⟩, listed, found⟩ := List.mem_filterMap.mp inside
  obtain ⟨first, member, rfl⟩ := rowVariant_some found
  obtain ⟨inHeld, named⟩ := List.mem_filter.mp ((held_gather listed).mem_iff.mp member)
  refine ⟨⟨first, inHeld, rfl, of_decide_eq_true named⟩, ?_⟩
  dsimp only
  by_cases conflicting : 1 < conflicts
  · simp [conflicting]
  · rw [if_neg conflicting]
    split <;> simp [conflicting]

theorem sum_gathered (held : List PreparedRow) (conflicts : Nat) :
    (((gather Prod.snd held).filterMap (rowVariant conflicts)).map (·.duplicateCount)).sum =
      held.length := by
  have counts : ∀ groups : List (String × List PreparedRow), (∀ group ∈ groups, group.2 ≠ []) →
      ((groups.filterMap (rowVariant conflicts)).map (·.duplicateCount)).sum =
        (values groups).length := by
    intro groups inhabited
    induction groups with
    | nil => rfl
    | cons group groups ih =>
      have rest := ih fun group inside => inhabited group (List.mem_cons_of_mem _ inside)
      obtain ⟨_, same⟩ := group
      cases same with
      | nil => exact absurd rfl (inhabited _ List.mem_cons_self)
      | cons first others =>
        rw [values, List.flatMap_cons, List.length_append, ← values, ← rest]
        rfl
  rw [counts _ fun _ inside => gather_inhabited inside]
  exact (values_gather held).length_eq

theorem identity_of_group (inside : group ∈ gather (fun entry : PreparedRow => identityKey entry.1)
      (prepared.filter (·.1.identityState = "valid"))) :
    entry ∈ group.2 ↔ entry ∈ prepared ∧ identity? entry.1 = some group.1 := by
  rw [(held_gather inside).mem_iff, List.mem_filter, List.mem_filter, identity?]
  simp only [decide_eq_true_eq]
  constructor
  · rintro ⟨⟨listed, valid⟩, named⟩
    exact ⟨listed, by rw [if_pos valid, named]⟩
  · rintro ⟨listed, named⟩
    split at named
    case isTrue valid => exact ⟨⟨listed, valid⟩, Option.some.inj named⟩
    case isFalse => cases named

theorem identity?_eq_none : identity? row = none ↔ ¬ row.identityState = "valid" := by
  rw [identity?]
  split
  case isTrue valid => simp [valid]
  case isFalse invalid => simp [invalid]

theorem one_lt_gathered (held : List PreparedRow) :
    1 < (gather Prod.snd held).length ↔ ∃ entry ∈ held, ∃ other ∈ held, entry.2 ≠ other.2 := by
  rw [length_gather, Finset.one_lt_card]
  simp only [List.mem_toFinset, List.mem_map]
  constructor
  · rintro ⟨_, ⟨entry, inside, rfl⟩, _, ⟨other, inside', rfl⟩, different⟩
    exact ⟨entry, inside, other, inside', different⟩
  · rintro ⟨entry, inside, other, inside', different⟩
    exact ⟨_, ⟨entry, inside, rfl⟩, _, ⟨other, inside', rfl⟩, different⟩

theorem variant_facts (inside : variant ∈ partitionPrepared prepared) :
    variantClass variant ∈ prepared.map rowClass ∧
      (variant.classification = .conflictMember ↔ Conflicting prepared (identity? variant.row)) := by
  rcases List.mem_append.mp inside with inside | inside
  · obtain ⟨group, listed, inside⟩ := List.mem_flatMap.mp inside
    obtain ⟨⟨entry, member, row, digest⟩, marked⟩ := mem_gathered inside
    obtain ⟨inPrepared, named⟩ := (identity_of_group listed).mp member
    have own : identity? variant.row = some group.1 := row ▸ named
    refine ⟨List.mem_map.mpr ⟨entry, inPrepared, by rw [rowClass, variantClass, ← row, ← digest]⟩,
      marked.trans ((one_lt_gathered group.2).trans ?_)⟩
    rw [Conflicting, own]
    constructor
    · rintro ⟨first, firstIn, second, secondIn, different⟩
      obtain ⟨firstListed, firstNamed⟩ := (identity_of_group listed).mp firstIn
      obtain ⟨secondListed, secondNamed⟩ := (identity_of_group listed).mp secondIn
      exact ⟨by simp, first, firstListed, firstNamed, second, secondListed, secondNamed, different⟩
    · rintro ⟨-, first, firstListed, firstNamed, second, secondListed, secondNamed, different⟩
      exact ⟨first, (identity_of_group listed).mpr ⟨firstListed, firstNamed⟩, second,
        (identity_of_group listed).mpr ⟨secondListed, secondNamed⟩, different⟩
  · obtain ⟨⟨entry, member, row, digest⟩, marked⟩ := mem_gathered inside
    obtain ⟨inPrepared, invalid⟩ := List.mem_filter.mp member
    have own : identity? variant.row = none :=
      row ▸ identity?_eq_none.mpr (of_decide_eq_true invalid)
    refine ⟨List.mem_map.mpr ⟨entry, inPrepared, by rw [rowClass, variantClass, ← row, ← digest]⟩,
      ?_⟩
    rw [marked, own, Conflicting]
    simp

theorem mem_variantClasses (inside : entry ∈ prepared) :
    rowClass entry ∈ (partitionPrepared prepared).map variantClass := by
  rw [partitionPrepared, List.map_append, List.mem_append]
  cases identity : identity? entry.1 with
  | none =>
    have invalid := identity?_eq_none.mp identity
    have named : entry.2 ∈ (((gather Prod.snd (prepared.filter (·.1.identityState ≠ "valid"))
        ).filterMap (rowVariant 1)).map (·.rowLogicalSha256)) := by
      rw [digests_gather, mem_keys_gather]
      exact List.mem_map.mpr ⟨entry, List.mem_filter.mpr ⟨inside, by simpa using invalid⟩, rfl⟩
    obtain ⟨variant, listed, digest⟩ := List.mem_map.mp named
    obtain ⟨⟨other, member, row, -⟩, -⟩ := mem_gathered listed
    have own : identity? variant.row = none :=
      row ▸ identity?_eq_none.mpr (of_decide_eq_true (List.mem_filter.mp member).2)
    exact .inr (List.mem_map.mpr ⟨variant, listed, by rw [variantClass, rowClass, own, identity,
      digest]⟩)
  | some key =>
    have valid : entry.1.identityState = "valid" := by
      by_contra invalid
      rw [identity?_eq_none.mpr invalid] at identity
      cases identity
    have keyed : identityKey entry.1 = key := by
      rw [identity?, if_pos valid] at identity
      exact Option.some.inj identity
    have grouped : key ∈ (gather (fun entry : PreparedRow => identityKey entry.1)
        (prepared.filter (·.1.identityState = "valid"))).map Prod.fst :=
      mem_keys_gather.mpr (List.mem_map.mpr
        ⟨entry, List.mem_filter.mpr ⟨inside, by simpa using valid⟩, keyed⟩)
    obtain ⟨group, listed, rfl⟩ := List.mem_map.mp grouped
    have named : entry.2 ∈ (identityVariants group.2).map (·.rowLogicalSha256) := by
      rw [identityVariants, digests_gather, mem_keys_gather]
      exact List.mem_map.mpr ⟨entry, (identity_of_group listed).mpr ⟨inside, identity⟩, rfl⟩
    obtain ⟨variant, listed', digest⟩ := List.mem_map.mp named
    obtain ⟨⟨other, member, row, -⟩, -⟩ := mem_gathered listed'
    have own : identity? variant.row = some group.1 :=
      row ▸ ((identity_of_group listed).mp member).2
    refine .inl (List.mem_map.mpr ⟨variant, List.mem_flatMap.mpr ⟨group, listed, listed'⟩, ?_⟩)
    rw [variantClass, rowClass, own, identity, digest]

theorem gathered_nodup (held : List PreparedRow) (conflicts : Nat) :
    (((gather Prod.snd held).filterMap (rowVariant conflicts)).map variantClass).Nodup := by
  refine List.Nodup.of_map Prod.snd ?_
  rw [List.map_map]
  change (((gather Prod.snd held).filterMap (rowVariant conflicts)).map
    (·.rowLogicalSha256)).Nodup
  rw [digests_gather]
  exact (grouped_gather held).distinct

theorem variantClasses_nodup (prepared : List PreparedRow) :
    ((partitionPrepared prepared).map variantClass).Nodup := by
  have identified : ∀ group ∈ gather (fun entry : PreparedRow => identityKey entry.1)
      (prepared.filter (·.1.identityState = "valid")),
      ∀ named ∈ (identityVariants group.2).map variantClass, named.1 = some group.1 := by
    intro group listed named inside
    obtain ⟨variant, held, rfl⟩ := List.mem_map.mp inside
    obtain ⟨⟨entry, member, row, -⟩, -⟩ := mem_gathered held
    have own := ((identity_of_group listed).mp member).2
    rw [row] at own
    exact own
  rw [partitionPrepared, List.map_append, List.map_flatMap, List.nodup_append]
  refine ⟨List.nodup_flatMap.mpr ⟨fun group _ => gathered_nodup _ _, ?_⟩, gathered_nodup _ _, ?_⟩
  · have keys : ((gather (fun entry : PreparedRow => identityKey entry.1)
        (prepared.filter (·.1.identityState = "valid"))).map Prod.fst).Nodup :=
      (grouped_gather _).distinct
    rw [List.Nodup, List.pairwise_map] at keys
    refine keys.imp_of_mem fun {first second} inside inside' differ named listed listed' => ?_
    exact differ (Option.some.inj
      ((identified first inside named listed).symm.trans (identified second inside' named listed')))
  · rintro named listed other listed' rfl
    obtain ⟨group, inside, listed⟩ := List.mem_flatMap.mp listed
    have some := identified group inside named listed
    obtain ⟨variant, held, rfl⟩ := List.mem_map.mp listed'
    obtain ⟨⟨entry, member, row, -⟩, -⟩ := mem_gathered held
    have none : identity? variant.row = none :=
      row ▸ identity?_eq_none.mpr (of_decide_eq_true (List.mem_filter.mp member).2)
    exact absurd (none.symm.trans some) (by simp)

theorem sum_duplicates (prepared : List PreparedRow) :
    ((partitionPrepared prepared).map (·.duplicateCount)).sum = prepared.length := by
  have valid : ∀ groups : List ((String × Option String × Option String) × List PreparedRow),
      ((groups.flatMap fun group => identityVariants group.2).map (·.duplicateCount)).sum =
        (values groups).length := by
    intro groups
    induction groups with
    | nil => rfl
    | cons group groups ih =>
      rw [List.flatMap_cons, List.map_append, List.sum_append, ih, identityVariants, sum_gathered,
        values, values, List.flatMap_cons, List.length_append]
  rw [partitionPrepared, List.map_append, List.sum_append, valid, sum_gathered,
    (values_gather _).length_eq]
  have split := (List.filter_append_perm (fun entry : PreparedRow =>
    decide (entry.1.identityState = "valid")) prepared).length_eq
  rw [List.length_append] at split
  simpa using split

end Groups

/-- The variants of rows: one for each identity and row digest, counting all rows,
marked when the identity occurs with more than one digest. -/
structure PartitionFacts (prepared : List PreparedRow) (variants : List LogicalRowVariant) :
    Prop where
  distinct : (variants.map variantClass).Nodup
  classes : ∀ named, named ∈ variants.map variantClass ↔ named ∈ prepared.map rowClass
  counted : (variants.map (·.duplicateCount)).sum = prepared.length
  marked : ∀ variant ∈ variants, variant.classification = .conflictMember ↔
    Conflicting prepared (identity? variant.row)

theorem partition_facts (ran : partitionRowVariants sha256 rows = .ok variants) :
    ∃ prepared, rows.mapM (prepareRow sha256) = .ok prepared ∧ PartitionFacts prepared variants := by
  simp only [partitionRowVariants, except_bind_ok] at ran
  obtain ⟨prepared, prepares, sorted⟩ := ran
  obtain rfl : sortedVariants prepared = variants := Except.ok.inj sorted
  have moved : (sortedVariants prepared).Perm (partitionPrepared prepared) :=
    List.perm_insertionSort _ _
  refine ⟨prepared, prepares, ?_, fun named => ?_, ?_, fun variant inside => ?_⟩
  · rw [(moved.map variantClass).nodup_iff]
    exact variantClasses_nodup prepared
  · rw [(moved.map variantClass).mem_iff]
    constructor
    · intro inside
      obtain ⟨variant, listed, rfl⟩ := List.mem_map.mp inside
      exact (variant_facts listed).1
    · intro inside
      obtain ⟨_, listed, rfl⟩ := List.mem_map.mp inside
      exact mem_variantClasses listed
  · rw [(moved.map _).sum_eq, sum_duplicates]
  · exact (variant_facts (moved.mem_iff.mp inside)).2

/-- **Order does not matter.** Under digests that tell the frames of the rows apart,
the fingerprint of an input is that of the input in any other order, and rows
always partition into one variant for each identity and digest. -/
theorem logical_order_free (sha256 : Sha256) :
    (∀ input other : LogicalInput, Reordered input other → CollisionFree sha256 input.rows →
      fingerprint? sha256 input = fingerprint? sha256 other) ∧
    ∀ rows variants, partitionRowVariants sha256 rows = .ok variants →
      ∃ prepared, rows.mapM (prepareRow sha256) = .ok prepared ∧
        PartitionFacts prepared variants :=
  ⟨fun _ _ same apart => fingerprint_of_reordered same apart, fun _ _ ran => partition_facts ran⟩

/-- Three rows of one RFC, two of them alike, with the rows and their fields in this order or
the other. -/
def titledInput (swapped : Bool) : LogicalInput :=
  let title : LogicalField := ⟨"title", "core", "usable", "text", none, some "T", some "T", none⟩
  let titled := { sampleRow "Open" with
    fields := if swapped then [title, sampleField "Open"] else [sampleField "Open", title] }
  { sampleInput "Open" with
    rows := if swapped then [titled, titled, sampleRow "Open"]
      else [sampleRow "Open", titled, titled] }

/-- The digests of the titled and the untitled frame. -/
def titledSha256 : Sha256 := fun frame =>
  sampleSha256 (if utf8 "title" <:+: frame then utf8 "R2" else [])

theorem fingerprint_of_swapped_fields :
    fingerprint? titledSha256 (titledInput false) = fingerprint? titledSha256 (titledInput true) ∧
      ∃ variants prepared, (titledInput false).rows.mapM (prepareRow titledSha256) = .ok prepared ∧
        PartitionFacts prepared variants ∧
        variants.map (·.duplicateCount) = [2, 1] := by
  have evaluated : CollisionFree titledSha256 (titledInput false).rows ∧
      ((partitionRowVariants titledSha256 (titledInput false).rows).toOption.map fun variants =>
        variants.map (·.duplicateCount)) = some [2, 1] := by
    decide +kernel
  obtain ⟨apart, counts⟩ := evaluated
  refine ⟨(logical_order_free titledSha256).1 (titledInput false) (titledInput true)
    ⟨rfl, ⟨[(titledInput false).rows[1], (titledInput false).rows[1], sampleRow "Open"], ?_, ?_⟩,
      .refl _⟩ apart, ?_⟩
  · exact .trans (.swap _ _ _) (.cons _ (.swap _ _ _))
  · exact .cons ⟨rfl, rfl, rfl, rfl, .swap _ _ _, .refl _⟩
      (.cons ⟨rfl, rfl, rfl, rfl, .swap _ _ _, .refl _⟩
        (.cons ⟨rfl, rfl, rfl, rfl, .refl _, .refl _⟩ .nil))
  · obtain ⟨variants, ran, counted⟩ := Option.map_eq_some_iff.mp counts
    obtain ⟨prepared, prepares, facts⟩ := (logical_order_free titledSha256).2 _ _ (ok_of_toOption ran)
    exact ⟨variants, prepared, prepares, facts, counted⟩

end Soma.Imports
