import Mathlib
import Soma.Imports.LogicalFingerprint

/-!
`ticket_import/parsing/xlsx_security.py`: what a workbook has to be before it is
read. The path is taken as the bytes acquired from it; that they stay the same
while they are copied is left out.

The readers of the standard library come with the call: the ZIP directory, the
XML parser, the URL functions and the case mappings of `str`. Texts are lists of
characters.
-/

namespace Soma.Imports

open Foundation Transaction

abbrev Text := List Char

/-! ## The standard library -/

/-- What `urlsplit` takes a target apart into. -/
structure SplitUrl where
  scheme : Text
  netloc : Text
  path : Text
  query : Text
  fragment : Text

/-- An element, with its attributes. -/
structure XmlElement where
  tag : Text
  attrib : List (Text × Text)

/-- A `ZipInfo`, with the bytes `open` reads of the entry; there are none of a damaged one. -/
structure ZipInfo where
  origFilename : Text
  isDir : Bool
  externalAttr : Nat
  flagBits : Nat
  compressType : Nat
  fileSize : Int
  compressSize : Int
  content : Option Bytes

structure OoxmlLibrary where
  lower : Text → Text
  upper : Text → Text
  /-- `urlsplit`, unless it raises a `ValueError`. -/
  urlsplit : Text → Option SplitUrl
  unquote : Text → Text
  /-- `ZipFile.infolist`, unless the container is damaged. -/
  infolist : Bytes → Option (List ZipInfo)
  /-- The elements of `fromstring` in document order, unless the text is not well-formed. -/
  fromstring : Bytes → Option (List XmlElement)
  /-- The tags `iterparse` ends before the text is over, and whether it is well-formed. -/
  iterparse : Bytes → List Text × Bool

/-- `posixpath.normpath`. -/
def normpath (path : Text) : Text :=
  let initialSlashes :=
    if ['/'] <+: path then if ['/', '/'] <+: path ∧ ¬ ['/', '/', '/'] <+: path then 2 else 1 else 0
  let components := (path.splitOn '/').foldl (fun (kept : List Text) component =>
    if component = [] ∨ component = ['.'] then kept
    else if component ≠ ['.', '.'] ∨ (initialSlashes = 0 ∧ kept = []) ∨
        kept.getLast? = some ['.', '.'] then kept ++ [component]
    else kept.dropLast) []
  let joined := List.replicate initialSlashes '/' ++ ['/'].intercalate components
  if path = [] ∨ joined = [] then ['.'] else joined

/-- `posixpath.join` of two parts. -/
def posixJoin (first second : Text) : Text :=
  if ['/'] <+: second then second
  else if first = [] ∨ first.getLast? = some '/' then first ++ second
  else first ++ '/' :: second

def rstripSlash (value : Text) : Text := value.rdropWhile (· = '/')

/-- `posixpath.dirname`. -/
def posixDirname (path : Text) : Text :=
  let head := path.rdropWhile (· ≠ '/')
  if head.all (· = '/') then head else rstripSlash head

/-- `value.rsplit(separator, 1)[-1]`. -/
def afterLast (separator : Char) (value : Text) : Text := value.rtakeWhile (· ≠ separator)

/-- `element.attrib.get(name, "")`. -/
def XmlElement.get (element : XmlElement) (name : Text) : Text :=
  ((element.attrib.find? (·.1 = name)).map (·.2)).getD []

/-! ## Limits and names -/

def maxCompressedFileBytes : Nat := 104857600
def maxTotalExpandedBytes : Int := 536870912
def maxSinglePartBytes : Nat := 134217728
def maxZipEntries : Nat := 4096
def maxExpansionRatio : Int := 100
def maxSharedStrings : Nat := 1000000

def requiredParts : List Text :=
  ["[Content_Types].xml".toList, "_rels/.rels".toList, "xl/workbook.xml".toList,
    "xl/_rels/workbook.xml.rels".toList]

def xmlSuffixes : List Text := [".xml".toList, ".rels".toList]

def windowsDeviceNames : List Text :=
  let ports (kind : Text) : List Text :=
    ['1', '2', '3', '4', '5', '6', '7', '8', '9'].map fun index => kind ++ [index]
  [['C', 'O', 'N'], ['P', 'R', 'N'], ['A', 'U', 'X'], ['N', 'U', 'L'],
    ['C', 'L', 'O', 'C', 'K', '$']] ++ ports ['C', 'O', 'M'] ++ ports ['L', 'P', 'T']

def activeNameMarkers : List Text :=
  ["activex/", "customui/", "embeddings/", "vbaproject.bin", "vbadata.xml"].map String.toList

def forbiddenContentTypeMarkers : List Text :=
  ["macroenabled", "vnd.ms-office.vbaproject", "activex", "oleobject"].map String.toList

def forbiddenRelationshipTypeNames : List Text :=
  ["externallink", "attachedtemplate", "oleobject", "activex", "package", "connections",
    "querytable"].map String.toList

def supportedWorkbookContentType : Text :=
  "application/vnd.openxmlformats-officedocument.spreadsheetml.sheet.main+xml".toList

def unsafeContainer (message : String) : Raised :=
  .soma ⟨.somaError, "XLSX_UNSAFE_CONTAINER", message, false⟩

def resourceLimit (message : String) : Raised :=
  .soma ⟨.somaError, "XLSX_RESOURCE_LIMIT", message, false⟩

/-! ## Part names -/

def validatePartSegment (library : OoxmlLibrary) (segment : Text) : Except Raised Unit :=
  if segment = [] ∨ segment = ['.'] then return ()
  else do
    ensure (segment ≠ ['.', '.']) (unsafeContainer "ZIP part name contains parent traversal")
    ensure (segment.getLast? ≠ some ' ' ∧ segment.getLast? ≠ some '.')
      (unsafeContainer "ZIP part name contains a Windows-ambiguous segment")
    ensure (segment.all fun character => 32 ≤ character.toNat)
      (unsafeContainer "ZIP part name contains a control character")
    ensure (library.upper (segment.takeWhile (· ≠ '.')) ∉ windowsDeviceNames)
      (unsafeContainer "ZIP part name contains a Windows device-like segment")

/-- `_DRIVE_PREFIX.match`. -/
def hasDrivePrefix : Text → Bool
  | letter :: ':' :: _ => letter.isAlpha
  | _ => false

def normalizePartName (library : OoxmlLibrary) (raw : Text) : Except Raised Text := do
  ensure (raw ≠ [] ∧ '\x00' ∉ raw ∧ '\\' ∉ raw)
    (unsafeContainer "ZIP part name violates the normalized OOXML namespace")
  ensure (¬ ['/'] <+: raw ∧ ¬ hasDrivePrefix raw ∧ ':' ∉ raw)
    (unsafeContainer "ZIP part name uses an absolute, drive or alternate-stream form")
  (raw.splitOn '/').forM (validatePartSegment library)
  let normalized := normpath raw
  ensure (normalized ≠ [] ∧ normalized ≠ ['.'] ∧ normalized ≠ ['.', '.'] ∧
      ¬ ['.', '.', '/'] <+: normalized ∧ ¬ ['/'] <+: normalized)
    (unsafeContainer "ZIP part escapes the OOXML namespace")
  return normalized

/-- `lowered.endswith(_XML_SUFFIXES)`. -/
def hasXmlSuffix (library : OoxmlLibrary) (name : Text) : Bool :=
  xmlSuffixes.any fun suffix => suffix.isSuffixOf (library.lower name)

/-! ## XML -/

def upperByte (byte : UInt8) : UInt8 :=
  if 97 ≤ byte.toNat ∧ byte.toNat ≤ 122 then byte - 32 else byte

/-- `<!DOCTYPE` and `<!ENTITY`. -/
def declarationMarkers : List Bytes :=
  [[60, 33, 68, 79, 67, 84, 89, 80, 69], [60, 33, 69, 78, 84, 73, 84, 89]]

def rejectXmlDeclarations (data : Bytes) : Except Raised Unit :=
  ensure (∀ marker ∈ declarationMarkers, ¬ marker <:+: data.map upperByte)
    (unsafeContainer "OOXML XML contains a forbidden DTD/entity declaration")

def readBounded (info : ZipInfo) : Except Raised Bytes := do
  ensure (info.fileSize ≤ maxSinglePartBytes)
    (resourceLimit "OOXML part exceeds the single-part expanded-byte ceiling")
  match info.content with
  | none =>
    .error (unsafeContainer "selected workbook is not a supported ZIP-based OOXML container")
  | some content => do
    let data := content.take (maxSinglePartBytes + 1)
    ensure (data.length ≤ maxSinglePartBytes ∧ (data.length : Int) = info.fileSize)
      (resourceLimit "OOXML part expansion exceeded its declared or allowed size")
    return data

def validateSharedStringCount (library : OoxmlLibrary) (data : Bytes) : Except Raised Unit := do
  let (tags, wellFormed) := library.iterparse data
  ensure (tags.countP (afterLast '}' · = ['s', 'i']) ≤ maxSharedStrings)
    (resourceLimit "XLSX shared-string table exceeds the configured ceiling")
  ensure wellFormed (unsafeContainer "OOXML shared-string table is not well-formed XML")

def parseXml (library : OoxmlLibrary) (data : Bytes) (label : String) :
    Except Raised (List XmlElement) := do
  rejectXmlDeclarations data
  match library.fromstring data with
  | none => .error (unsafeContainer s!"OOXML {label} is malformed")
  | some elements => return elements

def validateContentTypes (library : OoxmlLibrary) (data : Bytes) : Except Raised Unit := do
  let elements ← parseXml library data "content-types manifest"
  let contentType (element : XmlElement) : Text :=
    library.lower (element.get "ContentType".toList)
  ensure (∀ element ∈ elements, ∀ marker ∈ forbiddenContentTypeMarkers,
      ¬ marker <:+: contentType element)
    (unsafeContainer "OOXML content type declares active or macro-enabled content")
  ensure (∃ element ∈ elements, afterLast '}' element.tag = "Override".toList ∧
      element.get "PartName".toList = "/xl/workbook.xml".toList ∧
      contentType element = supportedWorkbookContentType)
    (unsafeContainer "OOXML content types do not declare a supported XLSX workbook")

/-! ## Relationships -/

/-- `rsplit("/_rels/", 1)`, when there is one. -/
def splitRelationshipName (name : Text) : Option (Text × Text) :=
  let marker := "/_rels/".toList
  ((List.range (name.length + 1)).reverse.find? fun index => marker <+: name.drop index).map
    fun index => (name.take index, name.drop (index + marker.length))

def relationshipBaseDirectory (relationshipPartName : Text) : Except Raised Text :=
  if relationshipPartName = "_rels/.rels".toList then return []
  else
    match splitRelationshipName relationshipPartName with
    | none => .error (unsafeContainer "OOXML relationship part name is not structurally valid")
    | some (container, relationName) => do
      ensure (".rels".toList <:+ relationshipPartName)
        (unsafeContainer "OOXML relationship part name is not structurally valid")
      let sourceName := relationName.take (relationName.length - 5)
      ensure (sourceName ≠ []) (unsafeContainer "OOXML relationship part has no source part")
      return posixDirname (posixJoin container sourceName)

def resolveRelationshipTarget (library : OoxmlLibrary) (relationshipPartName target : Text) :
    Except Raised Text := do
  ensure (target ≠ []) (unsafeContainer "OOXML relationship target is empty")
  match library.urlsplit target with
  | none => .error .other
  | some parsed => do
    ensure (parsed.scheme = [] ∧ parsed.netloc = [] ∧ parsed.query = [] ∧ parsed.fragment = [])
      (unsafeContainer "OOXML relationship target references an external or non-part URI")
    let decoded := library.unquote parsed.path
    ensure (decoded ≠ [] ∧ '\\' ∉ decoded)
      (unsafeContainer "OOXML relationship target uses an unsafe path form")
    if ['/'] <+: decoded then do
      let packageAbsolute := decoded.drop 1
      ensure (packageAbsolute ≠ [] ∧ ¬ ['/'] <+: packageAbsolute ∧ ¬ hasDrivePrefix packageAbsolute)
        (unsafeContainer "OOXML relationship target uses an unsafe package-root path")
      normalizePartName library packageAbsolute
    else do
      ensure (¬ hasDrivePrefix decoded)
        (unsafeContainer "OOXML relationship target uses an unsafe path form")
      let baseDirectory ← relationshipBaseDirectory relationshipPartName
      let resolved := normpath (posixJoin baseDirectory decoded)
      ensure (resolved ≠ ['.', '.'] ∧ ¬ ['.', '.', '/'] <+: resolved ∧ ¬ ['/'] <+: resolved)
        (unsafeContainer "OOXML relationship target escapes the package namespace")
      normalizePartName library resolved

structure Relationship where
  relationshipType : Text
  targetPart : Text

def relationshipTypeName (library : OoxmlLibrary) (relationshipType : Text) : Text :=
  library.lower (afterLast '/' (rstripSlash relationshipType))

/-- One `Relationship` element. -/
def validateRelationship (library : OoxmlLibrary) (relationshipPartName : Text)
    (knownParts : List Text) (relation : XmlElement) : Except Raised Relationship := do
  let relationshipType := relation.get "Type".toList
  ensure (library.lower (relation.get "TargetMode".toList) ≠ "external".toList)
    (unsafeContainer "OOXML relationship requires an external resource")
  ensure (relationshipTypeName library relationshipType ∉ forbiddenRelationshipTypeNames)
    (unsafeContainer "OOXML relationship declares unsupported active/external content")
  let targetPart ← resolveRelationshipTarget library relationshipPartName
    (relation.get "Target".toList)
  ensure (targetPart ∈ knownParts)
    (unsafeContainer "OOXML relationship targets a missing package part")
  return ⟨relationshipType, targetPart⟩

def validateRelationships (library : OoxmlLibrary) (data : Bytes) (relationshipPartName : Text)
    (knownParts : List Text) : Except Raised (List Relationship) := do
  let elements ← parseXml library data "relationship part"
  (elements.filter fun element => afterLast '}' element.tag = "Relationship".toList).mapM
    (validateRelationship library relationshipPartName knownParts)

def validateRequiredRelationshipGraph (library : OoxmlLibrary)
    (relationshipSets : List (Text × List Relationship)) : Except Raised Unit := do
  let relationsOf (part suffix : String) : List Relationship :=
    ((relationshipSets.lookup part.toList).getD []).filter
      fun relation => suffix.toList <:+ library.lower relation.relationshipType
  let rootOfficeDocuments := relationsOf "_rels/.rels" "/officedocument"
  ensure (rootOfficeDocuments.length = 1 ∧
      rootOfficeDocuments.head?.map (·.targetPart) = some "xl/workbook.xml".toList)
    (unsafeContainer "OOXML package does not designate exactly one supported workbook root")
  let workbookWorksheets := relationsOf "xl/_rels/workbook.xml.rels" "/worksheet"
  ensure (workbookWorksheets ≠ [])
    (unsafeContainer "OOXML workbook has no supported worksheet relationship")
  ensure (∀ relation ∈ workbookWorksheets, "xl/worksheets/".toList <+: relation.targetPart)
    (unsafeContainer
      "OOXML worksheet relationship resolves outside the supported worksheet namespace")

/-! ## The preflight -/

/-- What the first loop has of the entries it has seen. -/
structure Entries where
  normalized : List (Text × ZipInfo)
  totalExpanded : Int

/-- What the first loop asks of an entry. -/
def validateEntry (library : OoxmlLibrary) (info : ZipInfo) (name : Text) (totalExpanded : Int) :
    Except Raised Unit := do
  ensure ((info.externalAttr / 2 ^ 16) % 2 ^ 16 / 2 ^ 12 ≠ 10)
    (unsafeContainer "XLSX contains a symbolic-link ZIP entry")
  ensure (info.flagBits % 2 = 0)
    (unsafeContainer "encrypted/password-protected XLSX archives are unsupported")
  ensure (info.compressType = 0 ∨ info.compressType = 8)
    (unsafeContainer "XLSX uses an unsupported ZIP compression method")
  ensure (0 ≤ info.fileSize ∧ 0 ≤ info.compressSize)
    (unsafeContainer "XLSX ZIP metadata contains invalid part sizes")
  ensure (info.fileSize ≤ maxSinglePartBytes)
    (resourceLimit "XLSX part exceeds the single-part expanded-byte ceiling")
  ensure (totalExpanded ≤ maxTotalExpandedBytes)
    (resourceLimit "XLSX expanded content exceeds the configured ceiling")
  ensure (info.fileSize = 0 ∨
      info.compressSize ≠ 0 ∧ info.fileSize ≤ info.compressSize * maxExpansionRatio)
    (resourceLimit "XLSX part exceeds the expansion-ratio ceiling")
  ensure (∀ marker ∈ activeNameMarkers, ¬ marker <:+: library.lower name)
    (unsafeContainer "XLSX contains unsupported active or embedded package content")

/-- The name of an entry as the archive has it; there is none of the root directory. -/
def rawName (info : ZipInfo) : Option Text :=
  if info.isDir then
    if rstripSlash info.origFilename = [] then none else some (rstripSlash info.origFilename)
  else some info.origFilename

/-- One round of the first loop. -/
def addEntry (library : OoxmlLibrary) (entries : Entries) (info : ZipInfo) :
    Except Raised Entries :=
  match rawName info with
  | none => return entries
  | some raw => do
    let name ← normalizePartName library raw
    ensure (name ∉ entries.normalized.map (·.1))
      (unsafeContainer "XLSX contains duplicate normalized ZIP part names")
    let totalExpanded := entries.totalExpanded + info.fileSize
    validateEntry library info name totalExpanded
    return ⟨entries.normalized ++ [(name, info)], totalExpanded⟩

/-- What the second loop has read. The source keeps `relationshipSets` only;
`searched` are the parts it has searched for declarations, with their bytes. -/
structure Screening where
  searched : List (Text × Bytes)
  relationshipSets : List (Text × List Relationship)

/-- The manifest and the shared strings are looked at more closely. -/
def validateKnownPart (library : OoxmlLibrary) (name : Text) (data : Bytes) :
    Except Raised Unit := do
  if name = "[Content_Types].xml".toList then validateContentTypes library data else return ()
  if library.lower name = "xl/sharedstrings.xml".toList then
    validateSharedStringCount library data
  else return ()

/-- `relationship_sets[name] = _validate_relationships(...)` of a relationship part. -/
def addRelationships (library : OoxmlLibrary) (knownParts : List Text)
    (relationshipSets : List (Text × List Relationship)) (name : Text) (data : Bytes) :
    Except Raised (List (Text × List Relationship)) :=
  if ".rels".toList <:+ library.lower name then do
    let relationships ← validateRelationships library data name knownParts
    return relationshipSets ++ [(name, relationships)]
  else return relationshipSets

/-- One round of the second loop. -/
def screenPart (library : OoxmlLibrary) (knownParts : List Text) (screening : Screening)
    (part : Text × ZipInfo) : Except Raised Screening :=
  if hasXmlSuffix library part.1 then do
    let data ← readBounded part.2
    rejectXmlDeclarations data
    validateKnownPart library part.1 data
    let relationshipSets ←
      addRelationships library knownParts screening.relationshipSets part.1 data
    return ⟨screening.searched ++ [(part.1, data)], relationshipSets⟩
  else return screening

/-- An accepted package: what the loops have made of it. -/
structure AcceptedPackage where
  entryCount : Nat
  entries : Entries
  screening : Screening

/-- What `preflight_xlsx` does with the entries of the archive. -/
def inspectEntries (library : OoxmlLibrary) (infos : List ZipInfo) :
    Except Raised AcceptedPackage := do
  ensure (infos.length ≤ maxZipEntries)
    (resourceLimit "XLSX ZIP entry count exceeds the configured ceiling")
  let entries ← infos.foldlM (addEntry library) ⟨[], 0⟩
  let knownParts := entries.normalized.map (·.1)
  ensure (∀ part ∈ requiredParts, part ∈ knownParts)
    (unsafeContainer "XLSX is missing required workbook/content-type relationship parts")
  let screening ← entries.normalized.foldlM (screenPart library knownParts) ⟨[], []⟩
  validateRequiredRelationshipGraph library screening.relationshipSets
  return ⟨infos.length, entries, screening⟩

/-- `preflight_xlsx` of the acquired bytes. -/
def preflightXlsx (library : OoxmlLibrary) (source : Bytes) : Except Raised AcceptedPackage := do
  ensure (source ≠ [])
    (unsafeContainer "selected workbook is not a nonempty regular ZIP-based XLSX file")
  ensure (source.length ≤ maxCompressedFileBytes)
    (resourceLimit "XLSX compressed file exceeds the configured ceiling")
  match library.infolist source with
  | none =>
    .error (unsafeContainer "selected workbook is not a supported ZIP-based OOXML container")
  | some infos => inspectEntries library infos

theorem preflightXlsx_of_infolist {library : OoxmlLibrary} {source : Bytes} {infos : List ZipInfo}
    (filled : source ≠ []) (bounded : source.length ≤ maxCompressedFileBytes)
    (listed : library.infolist source = some infos) :
    preflightXlsx library source = inspectEntries library infos := by
  simp only [preflightXlsx, ensure, filled, bounded, listed, ne_eq, not_false_eq_true, if_true,
    bind, Except.bind]

end Soma.Imports
