import Mathlib.Data.List.Sort
import Soma.Foundation.Files
import Soma.Migrations.Statements

/-!
`foundation/migrations/manifest.py` and `runner.py`. A database is its schema,
its `schema_migrations` ledger and its journal mode; SQLite itself, which says
what a statement does to a working copy and whether the ledger takes a row, is
a parameter. A transaction works on a copy and its `COMMIT` is one operation;
so is `os.replace`. Every statement and every file operation may fail or be the
last one the process lives to see.
-/

namespace Soma.Migrations

open Foundation Crash Programs

structure MigrationEntry where
  sequence : Nat
  migrationId : String
  filename : String
  sha256 : String

/-- A row of `schema_migrations`. -/
structure LedgerRow where
  sequence : Nat
  migrationId : String
  sha256 : String
  appliedAtUtc : Nat
  appVersion : String

/-- What the runner compares of a ledger row. -/
def LedgerRow.identity (row : LedgerRow) : Nat × String × String :=
  (row.sequence, row.migrationId, row.sha256)

def MigrationEntry.identity (entry : MigrationEntry) : Nat × String × String :=
  (entry.sequence, entry.migrationId, entry.sha256)

/-- SQLite, on what a database holds besides its ledger. -/
structure Sqlite where
  Schema : Type
  empty : Schema
  completeStatement : String → Bool
  execute : String → Schema × List LedgerRow → Except Raised (Schema × List LedgerRow)
  admitLedgerRow : Schema → List LedgerRow → LedgerRow → Bool

/-- What Python makes of the bytes of a file and the characters of its name. -/
structure BytesLibrary where
  sha256Hex : Bytes → String
  decodeUtf8 : Bytes → Option String
  isNfc : String → Bool
  /-- The value of a decimal digit of any script, which `\d` matches and `int` reads. -/
  decimal : Char → Option Nat

def migrationError (code message : String) : Raised :=
  .soma ⟨.migrationError, code, message, false⟩

/-- A slug of `_MIGRATION_FILENAME`. -/
def isSlug (slug : List Char) : Bool :=
  slug ≠ [] && slug.all fun character =>
    ('a' ≤ character ∧ character ≤ 'z') ∨ ('0' ≤ character ∧ character ≤ '9') ∨ character = '_'

/-- `MigrationEntry.path_sequence`: the number of `dddd_slug.sql`. -/
def pathSequence (bytes : BytesLibrary) (filename : String) : Option Nat := do
  let digits ← (filename.toList.take 4).mapM bytes.decimal
  let rest := filename.toList.drop 4
  if digits.length = 4 ∧ rest.head? = some '_' ∧ ['.', 's', 'q', 'l'].isSuffixOf rest ∧
      isSlug ((rest.drop 1).take (rest.length - 5)) then
    some (digits.foldl (fun number digit => 10 * number + digit) 0)
  else none

/-- One package: its manifest, the files of its migration directory and its
version, with what the host proves and the verifier checks. -/
structure Package (sqlite : Sqlite) where
  entries : List MigrationEntry
  listing : List String
  file : String → Option Bytes
  appVersion : String
  ownershipProven : Bool
  verifier : sqlite.Schema × List LedgerRow → Except Raised Unit

section Manifest

variable {sqlite : Sqlite} (bytes : BytesLibrary) (package : Package sqlite)

def validatedRawBytes (entry : MigrationEntry) : Except Raised Bytes :=
  match package.file entry.filename with
  | none => .error (migrationError "MIGRATION_FILE_MISSING" "migration file is unavailable")
  | some raw => do
    ensure (¬ [0xef, 0xbb, 0xbf] <+: raw)
      (migrationError "MIGRATION_BYTES_INVALID" "UTF-8 BOM is forbidden")
    ensure ((13 : UInt8) ∉ raw)
      (migrationError "MIGRATION_BYTES_INVALID" "CR/CRLF bytes are forbidden")
    ensure ([10] <:+ raw ∧ ¬ [10, 10] <:+ raw)
      (migrationError "MIGRATION_BYTES_INVALID" "exactly one final LF is required")
    match bytes.decodeUtf8 raw with
    | none => throw (migrationError "MIGRATION_BYTES_INVALID" "migration is not strict UTF-8")
    | some text =>
      ensure (bytes.isNfc text = true)
        (migrationError "MIGRATION_BYTES_INVALID" "migration text is not NFC")
      return raw

def rawBytes (entry : MigrationEntry) : Except Raised Bytes := do
  let raw ← validatedRawBytes bytes package entry
  ensure (bytes.sha256Hex raw = entry.sha256)
    (migrationError "MIGRATION_HASH_MISMATCH" "migration bytes disagree with the accepted manifest")
  return raw

def migrationText (entry : MigrationEntry) : Except Raised String := do
  let raw ← rawBytes bytes package entry
  match bytes.decodeUtf8 raw with
  | none => throw .other
  | some text => return text

/-- The loop of `validate`, from the entry with `expectedSequence` on. -/
def validateEntries (expectedSequence : Nat) (seen : List MigrationEntry) :
    List MigrationEntry → Except Raised Unit
  | [] => .ok ()
  | entry :: entries => do
    ensure (entry.sequence = expectedSequence ∧
        pathSequence bytes entry.filename = some expectedSequence)
      (migrationError "MIGRATION_MANIFEST_INVALID"
        "migration sequence must start at 1 and be contiguous")
    ensure (entry.migrationId ∉ seen.map (·.migrationId) ∧ entry.filename ∉ seen.map (·.filename))
      (migrationError "MIGRATION_MANIFEST_INVALID" "migration IDs and filenames must be unique")
    let _ ← rawBytes bytes package entry
    validateEntries (expectedSequence + 1) (seen ++ [entry]) entries

/-- `MigrationManifest.validate`. -/
def validateManifest : Except Raised Unit := do
  validateEntries bytes package 1 [] package.entries
  let onDisk := package.listing.filter fun name => (pathSequence bytes name).isSome
  ensure ((∀ name ∈ onDisk, name ∈ package.entries.map (·.filename)) ∧
      ∀ entry ∈ package.entries, entry.filename ∈ onDisk)
    (migrationError "MIGRATION_MANIFEST_INVALID" "listed migration files differ from directory")

end Manifest

/-! ## The runner -/

/-- A database file. -/
structure Database (sqlite : Sqlite) where
  content : sqlite.Schema × List LedgerRow
  wal : Bool

/-- The data directory: the canonical database and the databases under
initialization, by the id in their name, with their sidecar files. -/
structure Disk (sqlite : Sqlite) where
  canonical : Option (Database sqlite)
  temporaries : Nat → Option (Database sqlite)
  sidecars : Nat → List String
  directoryExists : Bool
  nextId : Nat

/-- The path a connection is opened on. -/
inductive Location where
  | canonical
  | temporary (id : Nat)

namespace Disk

variable {sqlite : Sqlite}

def database (disk : Disk sqlite) : Location → Option (Database sqlite)
  | .canonical => disk.canonical
  | .temporary id => disk.temporaries id

def setTemporary (disk : Disk sqlite) (id : Nat) (database : Option (Database sqlite)) :
    Disk sqlite :=
  { disk with
    temporaries := fun other => if other = id then database else disk.temporaries other }

def set (disk : Disk sqlite) (location : Location) (database : Database sqlite) : Disk sqlite :=
  match location with
  | .canonical => { disk with canonical := some database }
  | .temporary id => disk.setTemporary id (some database)

end Disk

section Runner

variable {sqlite : Sqlite} (bytes : BytesLibrary) (package : Package sqlite) (clock : Nat)

/-- A program over the data directory. -/
abbrev RunnerProgram (sqlite : Sqlite) (Result : Type) := Program (Disk sqlite) Fate Raised Result

variable {Result : Type}

/-- A connection or a statement that may fail with an exception of the driver. -/
def onDatabase (location : Location)
    (effect : Database sqlite → Except Raised (Result × Database sqlite)) :
    RunnerProgram sqlite Result :=
  operation (some osError) fun disk => match disk.database location with
    | none => .error osError
    | some database => do
      let (value, next) ← effect database
      return (value, disk.set location next)

/-- What `open_authoritative` hands a reader. -/
def openDatabase (location : Location) (requireWal : Bool) :
    RunnerProgram sqlite (sqlite.Schema × List LedgerRow) :=
  inspect (some osError) fun disk => match disk.database location with
    | none => .error osError
    | some database => do
      ensure (requireWal = true → database.wal = true) osError
      return database.content

def ensureRuntimeWal (location : Location) : RunnerProgram sqlite Unit :=
  onDatabase location fun database => .ok ((), { database with wal := true })

/-- The statements of a migration, on the working copy of its transaction. -/
def executeStatements : List String → sqlite.Schema × List LedgerRow →
    RunnerProgram sqlite (sqlite.Schema × List LedgerRow)
  | [], working => pure working
  | statement :: statements, working => do
    let working ← inspect (some osError) fun _ => sqlite.execute statement working
    executeStatements statements working

/-- The `INSERT INTO schema_migrations` of `_apply_entry`, on the working copy. -/
def insertLedgerRow (row : LedgerRow) (working : sqlite.Schema × List LedgerRow) :
    Except Raised (sqlite.Schema × List LedgerRow) := do
  ensure (sqlite.admitLedgerRow working.1 working.2 row = true) osError
  return (working.1, working.2 ++ [row])

/-- The row `_apply_entry` records. -/
def ledgerRow (entry : MigrationEntry) : LedgerRow where
  sequence := entry.sequence
  migrationId := entry.migrationId
  sha256 := entry.sha256
  appliedAtUtc := clock
  appVersion := package.appVersion

/-- What `_apply_entry` executes of an entry's text. -/
def scriptOf (entry : MigrationEntry) : Except Raised MigrationScript := do
  let text ← migrationText bytes package entry
  return iterMigrationStatements sqlite.completeStatement text

def applyEntry (location : Location) (entry : MigrationEntry) (requireWal : Bool) :
    RunnerProgram sqlite Unit := do
  let script ← check (scriptOf bytes package entry)
  let working ← openDatabase location requireWal
  let working ← executeStatements script.statements working
  check (ensure (script.incomplete = false)
    (migrationError "MIGRATION_SYNTAX_INCOMPLETE" "migration contains an incomplete SQL tail"))
  let working ← inspect (some osError) fun _ =>
    insertLedgerRow (ledgerRow package clock entry) working
  onDatabase location fun database => .ok ((), { database with content := working })

/-- Applies entries in order. -/
def applyEntries (location : Location) (requireWal : Bool) :
    List MigrationEntry → RunnerProgram sqlite Unit
  | [] => pure ()
  | entry :: entries => do
    applyEntry bytes package clock location entry requireWal
    applyEntries location requireWal entries

/-- `ORDER BY sequence`. -/
def ledgerOrder (rows : List LedgerRow) : List LedgerRow :=
  rows.insertionSort fun left right => left.sequence ≤ right.sequence

/-- `_read_ledger`. A database without the ledger's table (`INVALID_DATABASE`) holds no entry
of a release, and no package of one entry or more leaves such a one. -/
def readLedger : RunnerProgram sqlite (List LedgerRow) := do
  let content ← openDatabase .canonical true
  return ledgerOrder content.2

/-- The loop of `_reconcile_ledger`. -/
def reconcileRows : List LedgerRow → List MigrationEntry → Except Raised Unit
  | [], _ => .ok ()
  | _ :: _, [] => .error .other
  | row :: rows, expected :: entries => do
    ensure (row.sequence = expected.sequence)
      (migrationError "LEDGER_MISMATCH" "database migration sequence contains a gap or reorder")
    ensure (row.migrationId = expected.migrationId ∧ row.sha256 = expected.sha256)
      (migrationError "LEDGER_MISMATCH" "database migration ledger disagrees")
    reconcileRows rows entries

/-- `_reconcile_ledger`: the entries still to apply. -/
def reconcileLedger (applied : List LedgerRow) : Except Raised (List MigrationEntry) := do
  ensure (applied.length ≤ package.entries.length)
    (migrationError "UNSUPPORTED_FUTURE_VERSION" "database migration ledger is ahead of this package")
  reconcileRows applied package.entries
  return package.entries.drop applied.length

/-- The verifier on an open connection. -/
def verifyDatabase (location : Location) (requireWal : Bool) : RunnerProgram sqlite Unit := do
  let content ← openDatabase location requireWal
  check (package.verifier content)

def migrateExisting : RunnerProgram sqlite Nat := do
  ensureRuntimeWal .canonical
  let applied ← readLedger
  let pending ← check (reconcileLedger package applied)
  applyEntries bytes package clock .canonical true pending
  verifyDatabase package .canonical true
  return package.entries.length

/-- `uuid.uuid4()` in the name of the temporary database. -/
def drawTemporary : RunnerProgram sqlite Nat :=
  operation none fun disk => .ok (disk.nextId, { disk with nextId := disk.nextId + 1 })

/-- The first connection of a clean initialization makes an empty database in
`DELETE` mode. -/
def createTemporary (id : Nat) : RunnerProgram sqlite Unit :=
  operation (some osError) fun disk =>
    .ok ((), disk.setTemporary id (some ⟨(sqlite.empty, []), false⟩))

/-- Removes the sidecars of a temporary database. -/
def unlinkSidecars (id : Nat) : RunnerProgram sqlite Unit :=
  operation (some osError) fun disk =>
    .ok ((), { disk with sidecars := fun other => if other = id then [] else disk.sidecars other })

/-- `os.replace(temp_path, canonical)`. -/
def publishTemporary (id : Nat) : RunnerProgram sqlite Unit :=
  operation (some osError) fun disk => match disk.temporaries id with
    | none => .error osError
    | some database => .ok ((), { disk.setTemporary id none with canonical := some database })

/-- The `candidate.unlink(missing_ok=True)` of the handler, with `OSError` ignored. -/
def discardTemporary (id : Nat) : RunnerProgram sqlite Unit := do
  handle (operation (some osError) fun disk => .ok ((), disk.setTemporary id none)) fun _ => pure ()
  handle (unlinkSidecars id) fun _ => pure ()

/-- The body of `_initialize_clean`. -/
def initializeTemporary (id : Nat) : RunnerProgram sqlite Nat := do
  createTemporary id
  applyEntries bytes package clock (.temporary id) false package.entries
  verifyDatabase package (.temporary id) false
  unlinkSidecars id
  publishTemporary id
  ensureRuntimeWal .canonical
  return package.entries.length

def initializeClean : RunnerProgram sqlite Nat := do
  let ready ← inspect none fun disk => .ok disk.directoryExists
  check (ensure (ready = true)
    (migrationError "INSTANCE_LAYOUT_INVALID" "canonical data directory must already exist"))
  let id ← drawTemporary
  handle (initializeTemporary bytes package clock id) fun error => do
    discardTemporary id
    raise error

def initializeOrMigrate : RunnerProgram sqlite Nat := do
  check (ensure (package.ownershipProven = true)
    (migrationError "INSTANCE_OWNERSHIP_REQUIRED" "canonical data-instance ownership is not proven"))
  check (validateManifest bytes package)
  let present ← inspect none fun disk => .ok disk.canonical.isSome
  if present then migrateExisting bytes package clock else initializeClean bytes package clock

end Runner

end Soma.Migrations
