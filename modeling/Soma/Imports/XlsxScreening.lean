import Soma.Imports.XlsxPreflight
import Soma.Theory.Rows

/-!
Which parts of an accepted package have been searched for DTD and entity
declarations. The search goes by the suffix of the part's name and looks at
bytes; the relationships lead to any part, and the XML reader takes a part in
UTF-16 as well. The targets are screened exactly when their names have the
suffix and those in UTF-16 declare nothing.
-/

namespace Soma.Imports

open Foundation Transaction

/-! ## What a part declares -/

/-- Pairs of bytes, the higher first. -/
def bigEndianUnits : Bytes → List Nat
  | high :: low :: rest => (high.toNat * 256 + low.toNat) :: bigEndianUnits rest
  | _ => []

/-- Pairs of bytes, the lower first. -/
def littleEndianUnits : Bytes → List Nat
  | low :: high :: rest => (high.toNat * 256 + low.toNat) :: littleEndianUnits rest
  | _ => []

/-- Whether an XML reader takes the bytes for UTF-16: they start with a byte order mark, or
one of the first two is zero, as no other encoding has it. -/
def isUtf16 : Bytes → Bool
  | first :: second :: _ =>
    (first, second) ∈ [(254, 255), (255, 254)] ∨ first = 0 ∨ second = 0
  | _ => false

/-- The text an XML reader sees. Every other encoding it knows has the bytes of ASCII for ASCII. -/
def xmlText : Bytes → List Nat
  | 254 :: 255 :: rest => bigEndianUnits rest
  | 255 :: 254 :: rest => littleEndianUnits rest
  | 0 :: second :: rest => bigEndianUnits (0 :: second :: rest)
  | first :: 0 :: rest => littleEndianUnits (first :: 0 :: rest)
  | data => data.map UInt8.toNat

/-- The text has a document type or an entity declaration. -/
def Declares (data : Bytes) : Prop :=
  ∃ marker ∈ declarationMarkers, marker.map UInt8.toNat <:+: xmlText data

theorem xmlText_of_ascii (ascii : isUtf16 data = false) : xmlText data = data.map UInt8.toNat := by
  unfold xmlText
  split <;> simp_all [isUtf16]

theorem upperByte_marker (listed : marker ∈ declarationMarkers) :
    marker.map upperByte = marker := by
  simp only [declarationMarkers, List.mem_cons, List.not_mem_nil, or_false] at listed
  rcases listed with rfl | rfl <;> decide

theorem toNat_injective : Function.Injective UInt8.toNat := fun _ _ same => UInt8.toNat_inj.mp same

theorem not_declares_of_search (ascii : isUtf16 data = false)
    (searched : rejectXmlDeclarations data = .ok done) : ¬ Declares data := by
  rintro ⟨marker, listed, inside⟩
  rw [xmlText_of_ascii ascii, List.infix_map_iff] at inside
  obtain ⟨_, infixed, same⟩ := inside
  obtain rfl := List.map_injective_iff.mpr toNat_injective same
  rw [rejectXmlDeclarations, ensure_ok] at searched
  refine searched marker listed ?_
  have upper := infixed.map upperByte
  rwa [upperByte_marker listed] at upper

/-! ## The loops -/

/-- What holds at the start of a loop and after each round holds at its end. -/
theorem foldlM_invariant {Element Total : Type} {round : Total → Element → Except Raised Total}
    (Invariant : List Element → Total → Prop) {elements : List Element} {start last : Total}
    (base : Invariant [] start)
    (kept : ∀ seen total element next, Invariant seen total → round total element = .ok next →
      Invariant (seen ++ [element]) next)
    (ran : elements.foldlM round start = .ok last) : Invariant elements last := by
  have general : ∀ rest seen total, Invariant seen total → rest.foldlM round total = .ok last →
      Invariant (seen ++ rest) last := by
    intro rest
    induction rest with
    | nil =>
      intro seen total holds returned
      cases returned
      rwa [List.append_nil]
    | cons element rest ih =>
      intro seen total holds returned
      rw [List.foldlM_cons, except_bind_ok] at returned
      obtain ⟨next, stepped, returned⟩ := returned
      have further := ih (seen ++ [element]) next (kept seen total element next holds stepped)
        returned
      rwa [List.append_assoc] at further
  exact general elements [] start base ran

section Screening

variable {library : OoxmlLibrary}

theorem addEntry_names {infos : List ZipInfo}
    (ran : infos.foldlM (addEntry library) ⟨[], 0⟩ = .ok entries) :
    (entries.normalized.map (·.1)).Nodup := by
  refine foldlM_invariant (fun _ entries => (entries.normalized.map (·.1)).Nodup)
    List.nodup_nil ?_ ran
  intro _ entries info next distinct added
  rw [addEntry] at added
  split at added
  · cases added
    exact distinct
  · simp only [except_ok] at added
    obtain ⟨_, -, fresh, -, rfl⟩ := added
    exact Rows.nodup_concat distinct fresh

theorem readBounded_ok (read : readBounded info = .ok data) : info.content = some data := by
  simp only [readBounded, except_ok] at read
  obtain ⟨-, read⟩ := read
  split at read
  · cases read
  · rename_i content held
    simp only [except_ok] at read
    obtain ⟨⟨bounded, -⟩, rfl⟩ := read
    rw [held, List.take_of_length_le]
    rw [List.length_take] at bounded
    omega

theorem validateRelationships_known
    (ran : validateRelationships library data name knownParts = .ok relationships) :
    ∀ relation ∈ relationships, relation.targetPart ∈ knownParts := by
  intro relation inside
  simp only [validateRelationships, except_ok] at ran
  obtain ⟨_, -, visited⟩ := ran
  obtain ⟨_, -, checked⟩ := mem_of_image visited inside
  simp only [validateRelationship, except_ok] at checked
  obtain ⟨-, -, _, -, known, rfl⟩ := checked
  exact known

/-- What the second loop has of the parts it has seen. -/
structure Screened (library : OoxmlLibrary) (knownParts : List Text)
    (seen : List (Text × ZipInfo)) (screening : Screening) : Prop where
  found : ∀ name data, (name, data) ∈ screening.searched → hasXmlSuffix library name = true ∧
    rejectXmlDeclarations data = .ok () ∧ ∃ info, (name, info) ∈ seen ∧ info.content = some data
  all : ∀ name info, (name, info) ∈ seen → hasXmlSuffix library name = true →
    ∃ data, (name, data) ∈ screening.searched
  known : ∀ set ∈ screening.relationshipSets, ∀ relation ∈ set.2,
    relation.targetPart ∈ knownParts

theorem addRelationships_known
    (known : ∀ set ∈ sets, ∀ relation ∈ set.2, relation.targetPart ∈ knownParts)
    (ran : addRelationships library knownParts sets name data = .ok next) :
    ∀ set ∈ next, ∀ relation ∈ set.2, relation.targetPart ∈ knownParts := by
  rw [addRelationships] at ran
  split at ran
  · simp only [except_ok] at ran
    obtain ⟨_, validated, rfl⟩ := ran
    intro set inside
    rcases Rows.mem_concat inside with old | new
    · exact known set old
    · rw [new]
      exact validateRelationships_known validated
  · cases ran
    exact known

theorem Screened.step {knownParts : List Text} {seen : List (Text × ZipInfo)}
    {screening next : Screening} {part : Text × ZipInfo}
    (screened : Screened library knownParts seen screening)
    (ran : screenPart library knownParts screening part = .ok next) :
    Screened library knownParts (seen ++ [part]) next := by
  rw [screenPart] at ran
  split at ran
  · rename_i suffix
    simp only [except_ok] at ran
    obtain ⟨data, read, clean, -, _, related, rfl⟩ := ran
    constructor
    case found =>
      intro name held listed
      rcases Rows.mem_concat listed with old | new
      · obtain ⟨suffix, clean, info, inside, content⟩ := screened.found name held old
        exact ⟨suffix, clean, info, List.mem_append_left _ inside, content⟩
      · cases new
        exact ⟨suffix, clean, part.2, List.mem_concat_self,
          readBounded_ok read⟩
    case all =>
      intro name info inside wanted
      rcases Rows.mem_concat inside with old | new
      · obtain ⟨held, listed⟩ := screened.all name info old wanted
        exact ⟨held, List.mem_append_left _ listed⟩
      · rw [← new]
        exact ⟨data, List.mem_concat_self⟩
    case known => exact addRelationships_known screened.known related
  · rename_i plain
    cases ran
    constructor
    case found =>
      intro name data listed
      obtain ⟨suffix, clean, info, inside, content⟩ := screened.found name data listed
      exact ⟨suffix, clean, info, List.mem_append_left _ inside, content⟩
    case all =>
      intro name info inside wanted
      rcases Rows.mem_concat inside with old | new
      · exact screened.all name info old wanted
      · rw [← new] at plain
        exact absurd wanted plain
    case known => exact screened.known

theorem preflightXlsx_ok {source : Bytes} {accepted : AcceptedPackage}
    (ran : preflightXlsx library source = .ok accepted) :
    (accepted.entries.normalized.map (·.1)).Nodup ∧
      Screened library (accepted.entries.normalized.map (·.1)) accepted.entries.normalized
        accepted.screening := by
  simp only [preflightXlsx, except_ok] at ran
  obtain ⟨-, -, ran⟩ := ran
  split at ran
  · cases ran
  · simp only [inspectEntries, except_ok] at ran
    obtain ⟨-, entries, added, -, screening, screened, -, rfl⟩ := ran
    refine ⟨addEntry_names added, foldlM_invariant (Screened library _) ?_ ?_ screened⟩
    · constructor <;> simp
    · intro seen total part next holds ran
      exact holds.step ran

end Screening

/-! ## Internal targets -/

/-- The parts the relationships of a package lead to. -/
def AcceptedPackage.targets (accepted : AcceptedPackage) : List Text :=
  accepted.screening.relationshipSets.flatMap fun set => set.2.map (·.targetPart)

/-- The bytes of a part. -/
def AcceptedPackage.contentOf (accepted : AcceptedPackage) (name : Text) : Option Bytes := do
  let part ← accepted.entries.normalized.find? (·.1 = name)
  part.2.content

/-- The part has been searched and declares nothing. -/
def AcceptedPackage.ScreenedPart (accepted : AcceptedPackage) (name : Text) : Prop :=
  ∃ data, (name, data) ∈ accepted.screening.searched ∧ ¬ Declares data

/-- The search sees the part: its name has the suffix, and in UTF-16 it declares nothing. -/
def AcceptedPackage.VisiblePart (accepted : AcceptedPackage) (library : OoxmlLibrary)
    (name : Text) : Prop :=
  hasXmlSuffix library name = true ∧
    ∀ data, accepted.contentOf name = some data → isUtf16 data = true → ¬ Declares data

/-- Every internal target of an accepted package is screened exactly when the
name of each has the suffix of XML and those in UTF-16 declare nothing. -/
theorem targets_screened_iff {library : OoxmlLibrary} {source : Bytes} {accepted : AcceptedPackage}
    (ran : preflightXlsx library source = .ok accepted) :
    (∀ name ∈ accepted.targets, accepted.ScreenedPart name) ↔
      ∀ name ∈ accepted.targets, accepted.VisiblePart library name := by
  obtain ⟨distinct, screened⟩ := preflightXlsx_ok ran
  refine forall₂_congr fun name target => ?_
  constructor
  · rintro ⟨data, listed, quiet⟩
    obtain ⟨suffix, -, info, inside, content⟩ := screened.found name data listed
    refine ⟨suffix, fun held found _ => ?_⟩
    have looked : accepted.entries.normalized.find? (·.1 = name) = some (name, info) :=
      Rows.find?_eq_some distinct inside
    simp only [AcceptedPackage.contentOf, looked, Option.bind_eq_bind, Option.bind_some] at found
    rw [content] at found
    cases found
    exact quiet
  · rintro ⟨suffix, quiet⟩
    simp only [AcceptedPackage.targets, List.mem_flatMap, List.mem_map] at target
    obtain ⟨set, setIn, relation, relationIn, rfl⟩ := target
    have known := screened.known set setIn relation relationIn
    obtain ⟨⟨_, info⟩, inside, rfl⟩ := List.mem_map.mp known
    obtain ⟨data, listed⟩ := screened.all _ info inside suffix
    obtain ⟨-, clean, held, found, content⟩ := screened.found _ data listed
    refine ⟨data, listed, ?_⟩
    by_cases ascii : isUtf16 data = false
    · exact not_declares_of_search ascii clean
    · refine quiet data ?_ (by simpa using ascii)
      have looked := Rows.find?_eq_some distinct found
      simp only [AcceptedPackage.contentOf, Option.bind_eq_bind]
      rw [looked]
      exact content

/-! ## A sample package -/

def asciiBytes (text : String) : Bytes := text.toList.map fun character => .ofNat character.toNat

def littleEndian : Nat → Nat → Bytes
  | 0, _ => []
  | width + 1, number => .ofNat (number % 256) :: littleEndian width (number / 256)

/-- A stored entry: its name, its text in pieces and the CRC-32 of the text. -/
structure StoredEntry where
  name : String
  text : List String
  crc : Nat

def StoredEntry.data (entry : StoredEntry) : Bytes := entry.text.flatMap asciiBytes

def StoredEntry.fields (entry : StoredEntry) : Bytes :=
  [20, 0, 0, 0, 0, 0, 0, 0, 33, 0] ++ littleEndian 4 entry.crc ++
    littleEndian 4 entry.data.length ++ littleEndian 4 entry.data.length ++
    littleEndian 2 entry.name.length ++ [0, 0]

def StoredEntry.localEntry (entry : StoredEntry) : Bytes :=
  [80, 75, 3, 4] ++ entry.fields ++ asciiBytes entry.name ++ entry.data

def StoredEntry.directoryEntry (entry : StoredEntry) (offset : Nat) : Bytes :=
  [80, 75, 1, 2, 20, 0] ++ entry.fields ++ List.replicate 10 0 ++ littleEndian 4 offset ++
    asciiBytes entry.name

def archiveParts (entries : List StoredEntry) : Bytes × Bytes :=
  entries.foldl (fun parts entry =>
    (parts.1 ++ entry.localEntry, parts.2 ++ entry.directoryEntry parts.1.length)) ([], [])

def archive (entries : List StoredEntry) : Bytes :=
  let (files, directory) := archiveParts entries
  files ++ directory ++ [80, 75, 5, 6, 0, 0, 0, 0] ++ littleEndian 2 entries.length ++
    littleEndian 2 entries.length ++ littleEndian 4 directory.length ++
    littleEndian 4 files.length ++ [0, 0]

def StoredEntry.info (entry : StoredEntry) : ZipInfo where
  origFilename := entry.name.toList
  isDir := false
  externalAttr := 0
  flagBits := 0
  compressType := 0
  fileSize := entry.data.length
  compressSize := entry.data.length
  content := some entry.data

def sampleManifest : StoredEntry := ⟨"[Content_Types].xml", [
  "<Types><Override PartName=\"/xl/workbook.xml\"",
  " ContentType=\"application/vnd.openxmlformats",
  "-officedocument.spreadsheetml.sheet.main+xml\"", "/></Types>"], 3921001668⟩

def sampleRelationships (name kind target : String) (crc : Nat) : StoredEntry := ⟨name, [
  "<Relationships><Relationship Type=\"/", kind, "\" Target=\"", target, "\"/></Relationships>"],
  crc⟩

def sampleRoot : StoredEntry :=
  sampleRelationships "_rels/.rels" "officeDocument" "xl/workbook.xml" 45066251

def sampleSheets : StoredEntry :=
  sampleRelationships "xl/_rels/workbook.xml.rels" "worksheet" "worksheets/sheet1.dat" 68089037

/-- A workbook whose only worksheet is a part with another suffix, with a document type. -/
def sampleEntries : List StoredEntry := [sampleManifest, sampleRoot,
  ⟨"xl/workbook.xml", ["<workbook/>"], 328769230⟩, sampleSheets,
  ⟨"xl/worksheets/sheet1.dat", ["<!DOCTYPE a><a/>"], 2725433323⟩]

def sampleManifestElements : List XmlElement := [
  ⟨"Types".toList, []⟩,
  ⟨"Override".toList, [("PartName".toList, "/xl/workbook.xml".toList),
    ("ContentType".toList, supportedWorkbookContentType)]⟩]

def sampleRelationshipElements (kind target : String) : List XmlElement := [
  ⟨"Relationships".toList, []⟩,
  ⟨"Relationship".toList, [("Type".toList, '/' :: kind.toList),
    ("Target".toList, target.toList)]⟩]

def sampleOoxml : OoxmlLibrary where
  lower text := text.map Char.toLower
  upper text := text.map Char.toUpper
  urlsplit target := some ⟨[], [], target, [], []⟩
  unquote text := text
  infolist source :=
    if source = archive sampleEntries then some (sampleEntries.map (·.info)) else none
  fromstring data :=
    if data = sampleManifest.data then some sampleManifestElements
    else if data = sampleRoot.data then
      some (sampleRelationshipElements "officeDocument" "xl/workbook.xml")
    else if data = sampleSheets.data then
      some (sampleRelationshipElements "worksheet" "worksheets/sheet1.dat")
    else none
  iterparse _ := ([], false)

theorem archive_length : (archive sampleEntries).length = 951 := by
  decide +kernel

theorem preflight_sample : preflightXlsx sampleOoxml (archive sampleEntries) =
    inspectEntries sampleOoxml (sampleEntries.map (·.info)) := by
  refine preflightXlsx_of_infolist ?_ ?_ ?_
  · rw [← List.length_pos_iff, archive_length]
    decide
  · rw [archive_length]
    decide
  · simp only [sampleOoxml, if_true]

theorem inspect_sample : ((inspectEntries sampleOoxml (sampleEntries.map (·.info))).toOption.map
    fun accepted => decide (∃ name ∈ accepted.targets,
      name ∉ accepted.screening.searched.map (·.1))) = some true := by
  decide +kernel

theorem sample_accepted : ∃ accepted,
    preflightXlsx sampleOoxml (archive sampleEntries) = .ok accepted ∧
      ∃ name ∈ accepted.targets, name ∉ accepted.screening.searched.map (·.1) := by
  rw [preflight_sample]
  obtain ⟨accepted, found, facts⟩ := Option.map_eq_some_iff.mp inspect_sample
  refine ⟨accepted, ?_, of_decide_eq_true facts⟩
  cases outcome : inspectEntries sampleOoxml (sampleEntries.map (·.info)) with
  | error raised =>
    rw [outcome] at found
    cases found
  | ok value =>
    rw [outcome] at found
    cases found
    rfl

/-- A package is accepted with a target that has not been searched. -/
theorem target_unscreened : ¬ ∀ library source accepted,
    preflightXlsx library source = .ok accepted →
      ∀ name ∈ accepted.targets, accepted.ScreenedPart name := by
  intro screened
  obtain ⟨accepted, ran, name, target, unsearched⟩ := sample_accepted
  obtain ⟨data, searched, -⟩ := screened _ _ accepted ran name target
  exact unsearched (List.mem_map.mpr ⟨(name, data), searched, rfl⟩)

theorem targets_screened_sample : ∃ accepted,
    preflightXlsx sampleOoxml (archive sampleEntries) = .ok accepted ∧
      ((∀ name ∈ accepted.targets, accepted.ScreenedPart name) ↔
        ∀ name ∈ accepted.targets, accepted.VisiblePart sampleOoxml name) := by
  obtain ⟨accepted, ran, -⟩ := sample_accepted
  exact ⟨accepted, ran, targets_screened_iff ran⟩

end Soma.Imports
