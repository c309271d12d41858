import Soma.Imports.RowVariants

/-!
How much of its input `SOMA_IMPORT_LOGICAL_V1` encodes. Two streams are equal
exactly when the profiles, the multisets of row frames and the multisets of
framed findings agree, and the frames of a sequence of fields, findings or rows
determine all that is framed of it (`logical_stream_injective`). What is not
framed is left out by design: the source text of a usable or blank field, and
the order of the fields and findings of a row.
-/

namespace Soma.Imports

open Foundation Transaction Frames Grouping

variable {sha256 : Sha256}

/-- SHA-256 tells the frames of these rows apart. -/
def CollisionFree (sha256 : Sha256) (rows : List LogicalRow) : Prop :=
  ∀ row ∈ rows, ∀ other ∈ rows, ∀ frame frame', rowFrame sha256 row = .ok frame →
    rowFrame sha256 other = .ok frame' → sha256 frame = sha256 frame' → frame = frame'

/-- The frames the rows have. -/
def framesOf (sha256 : Sha256) (rows : List LogicalRow) : List Bytes :=
  rows.filterMap fun row => (rowFrame sha256 row).toOption

theorem mem_framesOf {frame : Bytes} :
    frame ∈ framesOf sha256 rows ↔ ∃ row ∈ rows, rowFrame sha256 row = .ok frame := by
  rw [framesOf, List.mem_filterMap]
  exact ⟨fun ⟨row, inside, framed⟩ => ⟨row, inside, ok_of_toOption framed⟩,
    fun ⟨row, inside, framed⟩ => ⟨row, inside, by rw [framed]; rfl⟩⟩

instance collisionFreeDecidable (rows : List LogicalRow) : Decidable (CollisionFree sha256 rows) :=
  decidable_of_iff (∀ frame ∈ framesOf sha256 rows, ∀ frame' ∈ framesOf sha256 rows,
      sha256 frame = sha256 frame' → frame = frame') <| by
    simp only [mem_framesOf]
    exact ⟨fun free row inside other inside' frame frame' framed framed' =>
        free frame ⟨row, inside, framed⟩ frame' ⟨other, inside', framed'⟩,
      fun free frame ⟨row, inside, framed⟩ frame' ⟨other, inside', framed'⟩ =>
        free row inside other inside' frame frame' framed framed'⟩

/-! ## Reordered images -/

theorem exists_perm_map {Value Image : Type} (view : Value → Image) {values : List Value}
    {images : List Image} (moved : images.Perm (values.map view)) :
    ∃ arranged : List Value, arranged.Perm values ∧ arranged.map view = images := by
  have imaged : List.Forall₂ (fun image value => image = view value) (values.map view) values := by
    rw [List.forall₂_map_left_iff]
    exact List.forall₂_same.mpr fun _ _ => rfl
  obtain ⟨arranged, images', order⟩ := List.perm_comp_forall₂ moved imaged
  refine ⟨arranged, order, ?_⟩
  clear order imaged moved
  induction images' with
  | nil => rfl
  | cons first _ ih => rw [List.map_cons, ← first, ih]

/-- What an image determines, a reordering of images determines up to order. -/
theorem flatMap_perm_of_map {Value Image Part : Type} {view : Value → Image}
    {parts : Value → List Part} {values others : List Value}
    (determined : ∀ value ∈ values, ∀ other ∈ others, view value = view other →
      (parts value).Perm (parts other))
    (moved : (values.map view).Perm (others.map view)) :
    (values.flatMap parts).Perm (others.flatMap parts) := by
  obtain ⟨arranged, order, images⟩ := exists_perm_map view moved
  refine List.Perm.trans ?_ (order.flatMap_right parts)
  have within : ∀ other ∈ arranged, other ∈ others := fun other inside =>
    order.mem_iff.mp inside
  clear order moved
  induction values generalizing arranged with
  | nil =>
    obtain rfl := List.map_eq_nil_iff.mp images
    exact .refl _
  | cons value values ih =>
    cases arranged with
    | nil => cases images
    | cons other arranged =>
      rw [List.map_cons, List.map_cons] at images
      obtain ⟨same, rest⟩ := List.cons.inj images
      rw [List.flatMap_cons, List.flatMap_cons]
      refine (determined value List.mem_cons_self other (within other List.mem_cons_self)
        same.symm).append ?_
      exact ih (fun value inside => determined value (List.mem_cons_of_mem _ inside)) arranged rest
        fun other inside => within other (List.mem_cons_of_mem _ inside)

/-! ## Findings -/

theorem findingSortKey_injective (same : findingSortKey first = findingSortKey second) :
    first = second := by
  have codes : first.findingCode = second.findingCode :=
    congrArg (fun key => (ofLex key).1) same
  have severities : first.severity = second.severity :=
    congrArg (fun key => (ofLex (ofLex key).2).1) same
  have scopes : first.scopeKind = second.scopeKind :=
    congrArg (fun key => (ofLex (ofLex (ofLex key).2).2).1) same
  have keys : first.fieldKey = second.fieldKey :=
    congrArg (fun key => (ofLex (ofLex (ofLex key).2).2).2) same
  obtain ⟨_, severity, _, key⟩ := first
  simp only at codes severities scopes keys
  rw [codes, severities, scopes, keys]

theorem sortedFindings_eq :
    sortedFindings findings = sortedFindings others ↔
      (framedFindings findings).Perm (framedFindings others) := by
  constructor
  · intro same
    have sorted : (sortedFindings findings).Perm (framedFindings findings) :=
      List.perm_insertionSort _ _
    rw [same] at sorted
    exact sorted.symm.trans (List.perm_insertionSort _ _)
  · intro moved
    refine List.Perm.eq_of_pairwise ?_ (List.pairwise_insertionSort _ _)
      (List.pairwise_insertionSort _ _)
      ((List.perm_insertionSort _ _).trans (moved.trans (List.perm_insertionSort _ _).symm))
    intro first second _ _ before after
    exact findingSortKey_injective (le_antisymm before after)

theorem findings_perm {findings others : List LogicalFinding} {frames : List Bytes}
    (framed : findings.mapM findingFrame = .ok frames)
    (moved : (findings.map findingFrame).Perm (others.map findingFrame)) :
    findings.Perm others := by
  have single : (findings.flatMap fun finding => [finding]).Perm
      (others.flatMap fun finding => [finding]) := by
    refine flatMap_perm_of_map (fun finding inside other _ same => ?_) moved
    obtain ⟨_, -, framed⟩ := image_of_mem framed inside
    rw [show finding = other from decodes_finding.unique framed (same.symm.trans framed)]
  simpa using single

/-! ## Variants -/

/-- What is framed of a variant. -/
def variantContent (sha256 : Sha256) (variant : LogicalRowVariant) :
    RowClassification × Nat × Nat × Except Raised Bytes :=
  (variant.classification, variant.duplicateCount, variant.conflictVariantCount,
    rowFrame sha256 variant.row)

theorem RowClassification.text_injective {first second : RowClassification}
    (same : first.text = second.text) : first = second := by
  cases first <;> cases second <;> first | rfl | (exact absurd same (by decide))

theorem decodes_variant : Decodes (Framed (variantFrame sha256)) (variantContent sha256) := by
  intro first second left right leftRest rightRest framed framed' same
  simp only [Framed, variantFrame, except_bind_ok] at framed framed'
  obtain ⟨_, classed, _, counted, _, numbered, _, rowed,
    framed⟩ := framed
  obtain ⟨_, classed', _, counted', _, numbered', _, rowed',
    framed'⟩ := framed'
  obtain rfl := Except.ok.inj framed
  obtain rfl := Except.ok.inj framed'
  simp only [List.append_assoc] at same
  obtain ⟨classes, rfl, behind₁⟩ := decodes_text classed classed' same
  obtain ⟨counts, rfl, behind₂⟩ := decodes_integer counted counted' behind₁
  obtain ⟨numbers, rfl, behind₃⟩ := decodes_integer numbered numbered' behind₂
  obtain ⟨-, rfl, behind₄⟩ := decodes_row rowed rowed' behind₃
  refine ⟨?_, rfl, behind₄⟩
  rw [variantContent, variantContent, RowClassification.text_injective classes,
    Int.ofNat.inj counts, Int.ofNat.inj numbers, rowed, rowed']

/-- The frame of a variant with this content. -/
def contentFrame (content : RowClassification × Nat × Nat × Except Raised Bytes) :
    Except Raised Bytes := do
  let classification ← frameText content.1.text
  let duplicates ← frameInteger content.2.1
  let conflicts ← frameInteger content.2.2.1
  let row ← content.2.2.2
  return classification ++ (duplicates ++ (conflicts ++ row))

theorem sortKey_congr {first second : LogicalRowVariant}
    (state : first.row.identityState = second.row.identityState)
    (primary : first.row.canonicalPrimaryId = second.row.canonicalPrimaryId)
    (parent : first.row.canonicalParentRfcNo = second.row.canonicalParentRfcNo)
    (digest : first.rowLogicalSha256 = second.rowLogicalSha256) :
    variantSortKey first = variantSortKey second := by
  rw [variantSortKey, variantSortKey, state, primary, parent, digest]

theorem digest_of_sortKey (same : variantSortKey first = variantSortKey second) :
    first.rowLogicalSha256 = second.rowLogicalSha256 :=
  congrArg (fun key => (ofLex (ofLex (ofLex key).2).2).2) same

/-- The variants in the order of their keys. -/
def sortedVariants (prepared : List PreparedRow) : List LogicalRowVariant :=
  (partitionPrepared prepared).insertionSort fun left right =>
    variantSortKey left ≤ variantSortKey right

/-- What orders a variant, with what is framed of it. -/
def keyedContent (sha256 : Sha256) (variant : LogicalRowVariant) :=
  (variantSortKey variant, variantContent sha256 variant)

section Agreement

variable {left right : List PreparedRow} (facts : Prepared sha256 (left ++ right))
  (digests : (left.map Prod.snd).Perm (right.map Prod.snd))

include facts digests

theorem conflictsOf_agree (inside : entry ∈ left) (inside' : other ∈ right)
    (same : entry.2 = other.2) : conflictsOf left entry.1 = conflictsOf right other.1 := by
  have inLeft : ∀ {row}, row ∈ left → row ∈ left ++ right := List.mem_append_left _
  have inRight : ∀ {row}, row ∈ right → row ∈ left ++ right := List.mem_append_right _
  have state := facts.same_state (inLeft inside) (inRight inside') same
  have identity := facts.same_identity (inLeft inside) (inRight inside') same
  rw [conflictsOf, conflictsOf, state]
  split
  case isFalse => rfl
  case isTrue valid =>
    congr 1
    ext digest
    simp only [List.mem_toFinset, List.mem_map, List.mem_filter, decide_eq_true_eq, identity]
    constructor
    · rintro ⟨row, ⟨listed, valid, named⟩, rfl⟩
      obtain ⟨row', listed', equal⟩ :=
        List.mem_map.mp (digests.mem_iff.mp (List.mem_map.mpr ⟨row, listed, rfl⟩))
      refine ⟨row', ⟨listed', ?_, ?_⟩, equal⟩
      · exact (facts.same_state (inRight listed') (inLeft listed) equal).trans valid
      · exact (facts.same_identity (inRight listed') (inLeft listed) equal).trans named
    · rintro ⟨row, ⟨listed, valid, named⟩, rfl⟩
      obtain ⟨row', listed', equal⟩ :=
        List.mem_map.mp (digests.mem_iff.mpr (List.mem_map.mpr ⟨row, listed, rfl⟩))
      refine ⟨row', ⟨listed', ?_, ?_⟩, equal⟩
      · exact (facts.same_state (inLeft listed') (inRight listed) equal).trans valid
      · exact (facts.same_identity (inLeft listed') (inRight listed) equal).trans named

/-- Rows of the two lists with one digest have the same variant, but for what
is not framed of them. -/
theorem variantOf_agree (inside : entry ∈ left) (inside' : other ∈ right)
    (same : entry.2 = other.2) :
    variantSortKey (variantOf left entry) = variantSortKey (variantOf right other) ∧
      variantContent sha256 (variantOf left entry) =
        variantContent sha256 (variantOf right other) := by
  have inBoth := List.mem_append_left right inside
  have inBoth' := List.mem_append_right left inside'
  have conflicts := conflictsOf_agree facts digests inside inside' same
  have counts : left.countP (·.2 = entry.2) = right.countP (·.2 = other.2) := by
    have counted := digests.countP_eq (· = other.2)
    rw [List.countP_map, List.countP_map] at counted
    rw [same]
    exact counted
  have frames := facts.apart entry inBoth other inBoth' same
  have contents := facts.same_content inBoth inBoth' same
  have state := congrArg RowContent.identityState contents
  have primary := congrArg RowContent.canonicalPrimaryId contents
  have parent := congrArg RowContent.canonicalParentRfcNo contents
  simp only [rowContent] at state primary parent
  constructor
  · exact sortKey_congr state primary parent same
  · simp only [variantContent, variantOf, conflicts, counts, frames]

theorem keyedContent_subset {content} (inside : content ∈
      (partitionPrepared left).map (keyedContent sha256)) :
    content ∈ (partitionPrepared right).map (keyedContent sha256) := by
  obtain ⟨_, listed, rfl⟩ := List.mem_map.mp inside
  obtain ⟨entry, inLeft, rfl⟩ := variant_of_row
    (facts.of_subset fun _ => List.mem_append_left right) listed
  obtain ⟨_, listed', named⟩ := List.mem_map.mp (mem_digests.mpr
    (digests.mem_iff.mp (List.mem_map.mpr ⟨entry, inLeft, rfl⟩)))
  obtain ⟨_, inRight, rfl⟩ := variant_of_row
    (facts.of_subset fun _ => List.mem_append_right left) listed'
  obtain ⟨keys, contents⟩ := variantOf_agree facts digests inLeft inRight named.symm
  refine List.mem_map.mpr ⟨_, listed', ?_⟩
  rw [keyedContent, keyedContent, keys, contents]

end Agreement

variable {left right : List PreparedRow}

theorem Prepared.swap (facts : Prepared sha256 (left ++ right)) : Prepared sha256 (right ++ left) :=
  facts.of_subset fun _ inside => (List.perm_append_comm.mem_iff).mp inside

/-- The variants of two lists of rows with the same frames are framed alike. -/
theorem sortedVariants_agree (facts : Prepared sha256 (left ++ right))
    (digests : (left.map Prod.snd).Perm (right.map Prod.snd)) :
    (sortedVariants left).map (variantContent sha256) =
      (sortedVariants right).map (variantContent sha256) := by
  have nodup : ∀ {prepared : List PreparedRow}, Prepared sha256 prepared →
      ((partitionPrepared prepared).map (keyedContent sha256)).Nodup := by
    intro prepared facts
    refine List.Nodup.of_map (fun content => (ofLex (ofLex (ofLex content.1).2).2).2) ?_
    rw [List.map_map]
    exact digests_nodup facts
  have sorted : ∀ prepared : List PreparedRow, ((sortedVariants prepared).map
      (keyedContent sha256)).Perm ((partitionPrepared prepared).map (keyedContent sha256)) :=
    fun prepared => (List.perm_insertionSort _ _).map _
  have ordered : ∀ prepared : List PreparedRow, ((sortedVariants prepared).map
      (keyedContent sha256)).Pairwise fun first second => first.1 ≤ second.1 := fun prepared =>
    List.pairwise_map.mpr (List.pairwise_insertionSort _ _)
  have moved : ((partitionPrepared left).map (keyedContent sha256)).Perm
      ((partitionPrepared right).map (keyedContent sha256)) := by
    refine (List.perm_ext_iff_of_nodup
      (nodup (facts.of_subset fun _ => List.mem_append_left right))
      (nodup (facts.of_subset fun _ => List.mem_append_right left))).mpr fun content => ?_
    exact ⟨keyedContent_subset facts digests, keyedContent_subset facts.swap digests.symm⟩
  have same : (sortedVariants left).map (keyedContent sha256) =
      (sortedVariants right).map (keyedContent sha256) := by
    refine List.Perm.eq_of_pairwise ?_ (ordered left) (ordered right)
      ((sorted left).trans (moved.trans (sorted right).symm))
    intro first second inside inside' before after
    -- equal keys have equal digests, which no two variants share
    have both := (sorted left).mem_iff.mp inside
    have both' := moved.mem_iff.mpr ((sorted right).mem_iff.mp inside')
    obtain ⟨_, listed, rfl⟩ := List.mem_map.mp both
    obtain ⟨_, listed', rfl⟩ := List.mem_map.mp both'
    have digest := digest_of_sortKey (le_antisymm before after)
    have unique := List.inj_on_of_nodup_map
      (digests_nodup (facts.of_subset fun _ => List.mem_append_left right))
    rw [unique listed listed' digest]
  have contents := congrArg (List.map Prod.snd) same
  rw [List.map_map, List.map_map] at contents
  exact contents

/-! ## The stream -/

/-- The digest of a frame, if there is one. -/
def digestOf (sha256 : Sha256) : Except Raised Bytes → String
  | .ok frame => sha256 frame
  | .error _ => ""

variable {prepared : List PreparedRow}

/-- Prepared rows are the rows with the digests of their frames. -/
theorem prepared_rows {rows : List LogicalRow} (ran : rows.mapM (prepareRow sha256) = .ok prepared)
    :
    prepared.map Prod.fst = rows ∧
      ∀ entry ∈ prepared, ∃ frame, rowFrame sha256 entry.1 = .ok frame ∧
        entry.2 = sha256 frame := by
  have each : ∀ row entry, prepareRow sha256 row = .ok entry → entry.1 = row ∧
      ∃ frame, rowFrame sha256 entry.1 = .ok frame ∧ entry.2 = sha256 frame := by
    intro row entry made
    simp only [prepareRow, except_ok] at made
    obtain ⟨frame, framed, made⟩ := made
    cases made
    exact ⟨rfl, frame, framed, rfl⟩
  constructor
  · have visited := mapM_ok.mp ran
    clear ran
    induction visited with
    | nil => rfl
    | cons first _ ih => rw [List.map_cons, ih, (each _ _ first).1]
  · intro entry inside
    obtain ⟨row, -, made⟩ := mem_of_image ran inside
    exact (each row entry made).2

theorem frames_of_prepared {rows : List LogicalRow}
    (ran : rows.mapM (prepareRow sha256) = .ok prepared) :
    prepared.map (fun entry => rowFrame sha256 entry.1) = rows.map (rowFrame sha256) := by
  conv_rhs => rw [← (prepared_rows ran).1, List.map_map]
  rfl

theorem digests_of_prepared {rows : List LogicalRow}
    (ran : rows.mapM (prepareRow sha256) = .ok prepared) :
    prepared.map Prod.snd = (rows.map (rowFrame sha256)).map (digestOf sha256) := by
  rw [← frames_of_prepared ran, List.map_map]
  refine List.map_congr_left fun entry inside => ?_
  obtain ⟨_, framed, digest⟩ := (prepared_rows ran).2 entry inside
  simp only [Function.comp_apply, framed, digestOf, digest]

theorem Prepared.of_collisionFree (apart : CollisionFree sha256 (rows ++ others))
    (ran : rows.mapM (prepareRow sha256) = .ok left)
    (ran' : others.mapM (prepareRow sha256) = .ok right) : Prepared sha256 (left ++ right) := by
  have each : ∀ entry ∈ left ++ right, entry.1 ∈ rows ++ others ∧
      ∃ frame, rowFrame sha256 entry.1 = .ok frame ∧ entry.2 = sha256 frame := by
    intro entry inside
    rcases List.mem_append.mp inside with inside | inside
    · have row : entry.1 ∈ rows := by
        rw [← (prepared_rows ran).1]
        exact List.mem_map.mpr ⟨entry, inside, rfl⟩
      exact ⟨List.mem_append_left _ row, (prepared_rows ran).2 entry inside⟩
    · have row : entry.1 ∈ others := by
        rw [← (prepared_rows ran').1]
        exact List.mem_map.mpr ⟨entry, inside, rfl⟩
      exact ⟨List.mem_append_right _ row, (prepared_rows ran').2 entry inside⟩
  constructor
  · intro entry inside
    obtain ⟨-, frame, framed, -⟩ := each entry inside
    exact ⟨frame, framed⟩
  · intro entry inside other inside' same
    obtain ⟨listed, frame, framed, digest⟩ := each entry inside
    obtain ⟨listed', frame', framed', digest'⟩ := each other inside'
    have digests : sha256 frame = sha256 frame' := digest.symm.trans (same.trans digest')
    rw [framed, framed', apart _ listed _ listed' _ _ framed framed' digests]

/-- The parts a stream is put together from. -/
structure StreamParts (sha256 : Sha256) (input : LogicalInput) (stream : Bytes) where
  prepared : List PreparedRow
  magic : Bytes
  family : Bytes
  profile : Bytes
  headers : Bytes
  vocabulary : Bytes
  parser : Bytes
  findingCount : Bytes
  findings : List Bytes
  variantCount : Bytes
  variants : List Bytes
  prepares : input.rows.mapM (prepareRow sha256) = .ok prepared
  framesMagic : frameText "SOMA_IMPORT_LOGICAL_V1" = .ok magic
  framesFamily : frameText input.profile.sourceFamily = .ok family
  framesProfile : frameText input.profile.sourceProfileId = .ok profile
  framesHeaders : frameText input.profile.headerRegistryId = .ok headers
  framesVocabulary : frameText input.profile.vocabularyRegistryId = .ok vocabulary
  framesParser : frameText input.profile.parserProfileId = .ok parser
  framesFindingCount : frameInteger (sortedFindings input.globalFindings).length = .ok findingCount
  framesFindings : (sortedFindings input.globalFindings).mapM findingFrame = .ok findings
  framesVariantCount : frameInteger (sortedVariants prepared).length = .ok variantCount
  framesVariants : (sortedVariants prepared).mapM (variantFrame sha256) = .ok variants
  joined : stream = magic ++ (family ++ (profile ++ (headers ++ (vocabulary ++ (parser ++
    (findingCount ++ (findings.flatten ++ (variantCount ++ variants.flatten))))))))

theorem logicalStream_parts (ran : logicalStream sha256 input = .ok (stream, variants)) :
    Nonempty (StreamParts sha256 input stream) := by
  simp only [logicalStream, partitionRowVariants, except_bind_ok] at ran
  obtain ⟨found, ⟨prepared, prepares, sorted⟩, magic, framesMagic, family, framesFamily, profile,
    framesProfile, headers, framesHeaders, vocabulary, framesVocabulary, parser, framesParser,
    findingCount, framesFindingCount, findings, framesFindings, variantCount, framesVariantCount,
    frames, framesVariants, ran⟩ := ran
  obtain rfl : sortedVariants prepared = found := Except.ok.inj sorted
  exact ⟨{
    prepared, magic, family, profile, headers, vocabulary, parser, findingCount, findings,
    variantCount, variants := frames, prepares, framesMagic, framesFamily, framesProfile,
    framesHeaders, framesVocabulary, framesParser, framesFindingCount, framesFindings,
    framesVariantCount, framesVariants, joined := (congrArg Prod.fst (Except.ok.inj ran)).symm }⟩

namespace StreamParts

variable {left right : LogicalInput} {stream stream' : Bytes}

theorem decode (parts : StreamParts sha256 left stream) (parts' : StreamParts sha256 right stream')
    (same : stream = stream') :
    left.profile = right.profile ∧
      sortedFindings left.globalFindings = sortedFindings right.globalFindings ∧
      (sortedVariants parts.prepared).map (variantContent sha256) =
        (sortedVariants parts'.prepared).map (variantContent sha256) := by
  rw [parts.joined, parts'.joined] at same
  obtain ⟨-, -, behind₁⟩ := decodes_text parts.framesMagic parts'.framesMagic same
  obtain ⟨families, -, behind₂⟩ := decodes_text parts.framesFamily parts'.framesFamily behind₁
  obtain ⟨profiles, -, behind₃⟩ := decodes_text parts.framesProfile parts'.framesProfile behind₂
  obtain ⟨headers, -, behind₄⟩ := decodes_text parts.framesHeaders parts'.framesHeaders behind₃
  obtain ⟨vocabularies, -, behind₅⟩ :=
    decodes_text parts.framesVocabulary parts'.framesVocabulary behind₄
  obtain ⟨parsers, -, behind₆⟩ := decodes_text parts.framesParser parts'.framesParser behind₅
  obtain ⟨numbers, -, behind₇⟩ :=
    decodes_integer parts.framesFindingCount parts'.framesFindingCount behind₆
  obtain ⟨findings, -, behind₈⟩ := decodes_finding.list (Int.ofNat.inj numbers)
    (framesOf_mapM parts.framesFindings) (framesOf_mapM parts'.framesFindings) behind₇
  obtain ⟨counts, -, behind₉⟩ :=
    decodes_integer parts.framesVariantCount parts'.framesVariantCount behind₈
  have ends : parts.variants.flatten ++ [] = parts'.variants.flatten ++ [] := by
    rw [List.append_nil, List.append_nil, behind₉]
  obtain ⟨variants, -⟩ := decodes_variant.list (Int.ofNat.inj counts)
    (framesOf_mapM parts.framesVariants) (framesOf_mapM parts'.framesVariants) ends
  exact ⟨ProfileIdentity.ext families profiles headers vocabularies parsers,
    by simpa using findings, variants⟩

theorem encode (parts : StreamParts sha256 left stream) (parts' : StreamParts sha256 right stream')
    (profiles : left.profile = right.profile)
    (findings : sortedFindings left.globalFindings = sortedFindings right.globalFindings)
    (variants : (sortedVariants parts.prepared).map (variantContent sha256) =
      (sortedVariants parts'.prepared).map (variantContent sha256)) : stream = stream' := by
  have frames : (sortedVariants parts.prepared).mapM (variantFrame sha256) =
      (sortedVariants parts'.prepared).mapM (variantFrame sha256) := by
    have framed : ∀ list : List LogicalRowVariant, list.mapM (variantFrame sha256) =
        (list.map (variantContent sha256)).mapM contentFrame := fun list => by
      rw [List.mapM_map]
      rfl
    rw [framed, framed, variants]
  have counts : (sortedVariants parts.prepared).length = (sortedVariants parts'.prepared).length := by
    simpa using congrArg List.length variants
  have sameMagic := Except.ok.inj (parts.framesMagic.symm.trans parts'.framesMagic)
  have sameFamily := Except.ok.inj
    (parts.framesFamily.symm.trans (profiles ▸ parts'.framesFamily))
  have sameProfile := Except.ok.inj
    (parts.framesProfile.symm.trans (profiles ▸ parts'.framesProfile))
  have sameHeaders := Except.ok.inj
    (parts.framesHeaders.symm.trans (profiles ▸ parts'.framesHeaders))
  have sameVocabulary := Except.ok.inj
    (parts.framesVocabulary.symm.trans (profiles ▸ parts'.framesVocabulary))
  have sameParser := Except.ok.inj
    (parts.framesParser.symm.trans (profiles ▸ parts'.framesParser))
  have sameCount := Except.ok.inj
    (parts.framesFindingCount.symm.trans (findings ▸ parts'.framesFindingCount))
  have sameFindings := Except.ok.inj
    (parts.framesFindings.symm.trans (findings ▸ parts'.framesFindings))
  have sameNumber := Except.ok.inj
    (parts.framesVariantCount.symm.trans (counts ▸ parts'.framesVariantCount))
  have sameVariants := Except.ok.inj
    (parts.framesVariants.symm.trans (frames.trans parts'.framesVariants))
  rw [parts.joined, parts'.joined, sameMagic, sameFamily, sameProfile, sameHeaders,
    sameVocabulary, sameParser, sameCount, sameFindings, sameNumber, sameVariants]

end StreamParts

/-- The framed findings of all the rows of an input. -/
def rowFindings (rows : List LogicalRow) : List LogicalFinding :=
  rows.flatMap fun row => framedFindings row.findings

theorem rowFindings_perm {rows others : List LogicalRow}
    (framed : ∀ row ∈ rows, ∃ frame, rowFrame sha256 row = .ok frame)
    (moved : (rows.map (rowFrame sha256)).Perm (others.map (rowFrame sha256))) :
    (rowFindings rows).Perm (rowFindings others) := by
  refine flatMap_perm_of_map (fun row inside other _ same => ?_) moved
  obtain ⟨frame, framed⟩ := framed row inside
  have contents := decodes_row.unique framed (same.symm.trans framed)
  exact sortedFindings_eq.mp (congrArg RowContent.findings contents)

/-- **Equal streams.** Under digests that tell the frames of the rows apart, two
streams are equal exactly when the profiles, the multisets of row frames and the
multisets of framed findings agree. -/
theorem stream_eq_iff {left right : LogicalInput}
    (apart : CollisionFree sha256 (left.rows ++ right.rows))
    (ran : logicalStream sha256 left = .ok (stream, variants))
    (ran' : logicalStream sha256 right = .ok (stream', variants')) :
    stream = stream' ↔
      left.profile = right.profile ∧
      (left.rows.map (rowFrame sha256)).Perm (right.rows.map (rowFrame sha256)) ∧
      ((framedFindings left.globalFindings).map findingFrame).Perm
        ((framedFindings right.globalFindings).map findingFrame) ∧
      ((rowFindings left.rows).map findingFrame).Perm
        ((rowFindings right.rows).map findingFrame) := by
  obtain ⟨parts⟩ := logicalStream_parts ran
  obtain ⟨parts'⟩ := logicalStream_parts ran'
  have facts := Prepared.of_collisionFree apart parts.prepares parts'.prepares
  have facts₁ := facts.of_subset fun _ => List.mem_append_left parts'.prepared
  have facts₂ := facts.of_subset fun _ => List.mem_append_right parts.prepared
  constructor
  · intro same
    obtain ⟨profiles, findings, contents⟩ := parts.decode parts' same
    have sorted : ∀ prepared, (sortedVariants prepared).Perm (partitionPrepared prepared) :=
      fun prepared => List.perm_insertionSort _ _
    have occurs : (sortedVariants parts.prepared).flatMap (occurrences sha256) =
        (sortedVariants parts'.prepared).flatMap (occurrences sha256) := by
      have spread : ∀ list : List LogicalRowVariant, list.flatMap (occurrences sha256) =
          (list.map (variantContent sha256)).flatMap fun content =>
            List.replicate content.2.1 content.2.2.2 := fun list => by
        rw [List.flatMap_map]
        rfl
      rw [spread, spread, contents]
    have rows : (left.rows.map (rowFrame sha256)).Perm (right.rows.map (rowFrame sha256)) := by
      rw [← frames_of_prepared parts.prepares, ← frames_of_prepared parts'.prepares]
      have first := ((sorted _).flatMap_right (occurrences sha256)).trans (frames_of_variants facts₁)
      have second := ((sorted _).flatMap_right (occurrences sha256)).trans
        (frames_of_variants facts₂)
      exact first.symm.trans (occurs ▸ second)
    refine ⟨profiles, rows, (sortedFindings_eq.mp findings).map _, ?_⟩
    refine (rowFindings_perm (fun row inside => ?_) rows).map _
    rw [← (prepared_rows parts.prepares).1] at inside
    obtain ⟨entry, listed, rfl⟩ := List.mem_map.mp inside
    exact facts₁.framed entry listed
  · rintro ⟨profiles, rows, findings, -⟩
    refine parts.encode parts' profiles ?_ ?_
    · refine sortedFindings_eq.mpr ?_
      have sorted : ∀ list, (sortedFindings list).Perm (framedFindings list) :=
        fun list => List.perm_insertionSort _ _
      refine (sorted left.globalFindings).symm.trans ?_
      refine List.Perm.trans ?_ (sorted right.globalFindings)
      exact findings_perm parts.framesFindings
        (((sorted _).map _).trans (findings.trans ((sorted _).map _).symm))
    · refine sortedVariants_agree facts ?_
      rw [digests_of_prepared parts.prepares, digests_of_prepared parts'.prepares]
      exact rows.map _

/-- **The logical encoding.** Under digests that tell the frames of the rows
apart, two streams are equal exactly when the profiles, the multisets of row
frames and the multisets of framed findings agree. A word is the frames of at
most one sequence of findings, and of fields or rows that agree in all that is
framed of them. -/
theorem logical_stream_injective (sha256 : Sha256) :
    (∀ (left right : LogicalInput) (stream stream' : Bytes)
        (variants variants' : List LogicalRowVariant),
      CollisionFree sha256 (left.rows ++ right.rows) →
      logicalStream sha256 left = .ok (stream, variants) →
      logicalStream sha256 right = .ok (stream', variants') →
      (stream = stream' ↔
        left.profile = right.profile ∧
        (left.rows.map (rowFrame sha256)).Perm (right.rows.map (rowFrame sha256)) ∧
        ((framedFindings left.globalFindings).map findingFrame).Perm
          ((framedFindings right.globalFindings).map findingFrame) ∧
        ((rowFindings left.rows).map findingFrame).Perm
          ((rowFindings right.rows).map findingFrame))) ∧
    (∀ (fields others : List LogicalField) (word : Bytes),
      FramesOf (Framed (fieldFrame sha256)) fields word →
      FramesOf (Framed (fieldFrame sha256)) others word →
      fields.map (fieldContent sha256) = others.map (fieldContent sha256)) ∧
    (∀ (findings others : List LogicalFinding) (word : Bytes),
      FramesOf (Framed findingFrame) findings word →
      FramesOf (Framed findingFrame) others word → findings = others) ∧
    (∀ (rows others : List LogicalRow) (word : Bytes),
      FramesOf (Framed (rowFrame sha256)) rows word →
      FramesOf (Framed (rowFrame sha256)) others word →
      rows.map (rowContent sha256) = others.map (rowContent sha256)) := by
  refine ⟨?_, ?_, ?_, ?_⟩
  · intro left right stream stream' variants variants' apart ran ran'
    exact stream_eq_iff apart ran ran'
  · intro fields others word framed framed'
    exact decodes_field.sequence fieldFrame_ne_nil framed framed'
  · intro findings others word framed framed'
    simpa using decodes_finding.sequence findingFrame_ne_nil framed framed'
  · intro rows others word framed framed'
    exact decodes_row.sequence rowFrame_ne_nil framed framed'

/-! ## One status, written in two ways -/

/-- A status read from a cell with this text. -/
def sampleField (sourceText : String) : LogicalField :=
  ⟨"status", "core", "usable", "text", none, some sourceText, some "Open", none⟩

def sampleRow (sourceText : String) : LogicalRow :=
  ⟨"valid", "rfc", some "R1", none, [sampleField sourceText], []⟩

/-- Two RFCs, the first with its status from a cell with this text. -/
def sampleInput (sourceText : String) : LogicalInput :=
  ⟨⟨"rfc", "p", "h", "v", "q"⟩,
    [sampleRow sourceText, { sampleRow "Open" with canonicalPrimaryId := some "R2" }], []⟩

/-- The digests of the sample frames, told apart by the `2` of the second RFC. -/
def sampleSha256 : Sha256 := fun frame =>
  if utf8 "R2" <:+: frame then
    "3e23e8160039594a33894f6564e1b1348bbd7a0088d42c4acb73eeaed59c009d"
  else "dc4a74cbd62e60bfeaa783fef7ef3f7450a2f404289450f057485e598fc1b1e0"

/-- Two different sequences of fields have one frame: the text of the source
cell is not framed beside the value read from it. -/
theorem different_fields_one_frame :
    [sampleField "Open"] ≠ [sampleField " Open "] ∧
      ∃ word, FramesOf (Framed (fieldFrame sampleSha256)) [sampleField "Open"] word ∧
        FramesOf (Framed (fieldFrame sampleSha256)) [sampleField " Open "] word := by
  have framed : (fieldFrame sampleSha256 (sampleField "Open")).isOk = true := by decide +kernel
  have same : fieldFrame sampleSha256 (sampleField " Open ") =
      fieldFrame sampleSha256 (sampleField "Open") := by decide +kernel
  cases ran : fieldFrame sampleSha256 (sampleField "Open") with
  | error raised =>
    rw [ran] at framed
    cases framed
  | ok word =>
    refine ⟨by decide, [word].flatten, ⟨[word], .cons ran .nil, rfl⟩, [word], .cons ?_ .nil, rfl⟩
    exact same.trans ran

/-- Two inputs that say the same in different source text have one stream. -/
theorem sample_streams_equal :
    (logicalStream sampleSha256 (sampleInput "Open")).toOption.map Prod.fst =
      (logicalStream sampleSha256 (sampleInput " Open ")).toOption.map Prod.fst := by
  have framed : (logicalStream sampleSha256 (sampleInput "Open")).isOk = true ∧
      (logicalStream sampleSha256 (sampleInput " Open ")).isOk = true ∧
      CollisionFree sampleSha256 ((sampleInput "Open").rows ++ (sampleInput " Open ").rows) ∧
      (sampleInput "Open").rows.map (rowFrame sampleSha256) =
        (sampleInput " Open ").rows.map (rowFrame sampleSha256) := by
    decide +kernel
  obtain ⟨streamed, streamed', apart, same⟩ := framed
  cases ran : logicalStream sampleSha256 (sampleInput "Open") with
  | error raised =>
    rw [ran] at streamed
    cases streamed
  | ok pair =>
    cases ran' : logicalStream sampleSha256 (sampleInput " Open ") with
    | error raised =>
      rw [ran'] at streamed'
      cases streamed'
    | ok pair' =>
      have streams := ((logical_stream_injective sampleSha256).1 _ _ _ _ _ _ apart ran ran').mpr
        ⟨rfl, .of_eq same, .refl _, .refl _⟩
      simp [Except.toOption, streams]

end Soma.Imports
