import Soma.Foundation.Files

/-!
`persistence/backup_snapshot.py` and the start-up path of
`migrations/runner.py`: verifying a restore stage, putting it in place of the
live database, and what the next start makes of the files it finds.

The connections the code opens on a database are parameters: what they write
and how they end is quantified over by the results. The providers' paths are
resolved, so `resolve` and the symbolic link tests have nothing left to do.
-/

namespace Soma.Foundation

open Crash Programs

structure DatabaseRestoreVerification where
  stagePath : Path
  sizeBytes : Nat
  sha256 : String
  dataInstanceId : String
  migrationSequence : Nat
  migrationId : Option String
  integrityState : String

structure RestoreCommitResult where
  liveDatabasePath : Path
  emergencyDatabasePath : Path
  dataInstanceId : String
  sha256 : String
  deriving DecidableEq

/-- `BackupSnapshotProvider`, with what `_verified_stages` remembers. -/
structure BackupSnapshotProvider where
  livePath : Path
  owned : Bool
  verifiedStages : List (Path × String)

/-- What `_identity` reads after the schema was verified. -/
structure DatabaseIdentity where
  dataInstanceId : String
  migrationSequence : Nat
  migrationId : Option String

instance (entry : Option Entry) : Decidable (∃ bytes, entry = some (.file bytes)) :=
  match entry with
  | some (.file bytes) => .isTrue ⟨bytes, rfl⟩
  | some .special => .isFalse (by simp)
  | none => .isFalse (by simp)

/-- `MigrationError(code, message)`. -/
def migrationError (code message : String) : Raised :=
  .soma ⟨.migrationError, code, message, false⟩

def requirePlainFile (path : Path) (label : String) : FileProgram Unit := do
  let entry ← look fun files => .ok (files.entry path)
  check (ensure (∃ bytes, entry = some (.file bytes))
    (validationError (label ++ " must be an existing ordinary file")))

def ensureNoSidecars (path : Path) : FileProgram Unit := do
  let present ← look fun files => .ok (path.sidecars.filter fun sidecar => (files.entry sidecar).isSome)
  check (ensure (present = [])
    (persistenceFailure "database replacement requires sidecar-free verified files"))

section Provider

variable (digest : Bytes → String)

/-- The checks of `replace_live_database_from_verified_stage` on the stage; its digest. -/
def admitStage (provider : BackupSnapshotProvider) (descriptor : DatabaseRestoreVerification) :
    FileProgram String := do
  check (ensure provider.owned
    (persistenceFailure "canonical data-instance ownership is required for restore"))
  check (ensure (descriptor.integrityState = "VERIFIED")
    (validationError "restore stage is not verified"))
  let stage := descriptor.stagePath
  let found ← pathExists stage
  check (ensure found osError)
  match provider.verifiedStages.lookup stage with
  | none => raise (validationError "restore stage was not verified by this provider")
  | some remembered =>
    let sha256 ← sha256File digest stage
    check (ensure (sha256 = descriptor.sha256 ∧ sha256 = remembered)
      (integrityFailure "verified restore stage changed before replacement"))
    let sizeBytes ← statSize stage
    check (ensure (sizeBytes = descriptor.sizeBytes)
      (integrityFailure "verified restore stage size changed before replacement"))
    return sha256

/-- The live path must be free, or an ordinary file. -/
def requirePlainIfPresent (path : Path) (label : String) : FileProgram Unit := do
  if ← pathExists path then requirePlainFile path label

/-- All three files must be on one device. -/
def requireSameDevice (live stage emergency : Path) : FileProgram Unit := do
  let liveDevice ← statDevice live.directory
  let stageDevice ← statDevice stage.directory
  check (ensure (liveDevice = stageDevice)
    (persistenceFailure "restore stage must share the live database filesystem"))
  if ← pathExists live then
    let emergencyDevice ← statDevice emergency.directory
    check (ensure (liveDevice = emergencyDevice)
      (persistenceFailure "emergency recovery path must share the live database filesystem"))

/-- The checks on the three paths, up to the first rename. -/
def admitPaths (live stage emergency : Path) : FileProgram Unit := do
  let parent ← look fun files => .ok (files.device emergency.directory).isSome
  check (ensure parent (validationError "restore emergency path parent is unavailable"))
  let taken ← pathExists emergency
  check (ensure (emergency ≠ live ∧ emergency ≠ stage ∧ taken = false)
    (validationError "restore emergency path must be a distinct absent path"))
  requirePlainIfPresent live "live database"
  ensureNoSidecars live
  ensureNoSidecars stage
  requireSameDevice live stage emergency

/-- Moves the live database aside when there is one. -/
def setAside (live emergency : Path) (priorExisted : Bool) : FileProgram Unit :=
  if priorExisted then osReplace live emergency else pure ()

/-- Verifies the published database and answers the command. -/
def confirmPublished (descriptor : DatabaseRestoreVerification) (live emergency : Path)
    (sha256 : String) (connection : Connection DatabaseIdentity) :
    FileProgram RestoreCommitResult := do
  let published ← sha256File digest live
  check (ensure (published = sha256)
    (integrityFailure "published restored database bytes differ from verified stage"))
  let identity ← runConnection live connection
  check (ensure (identity.dataInstanceId = descriptor.dataInstanceId)
    (integrityFailure "published restored database identity differs from verified stage"))
  return ⟨live, emergency, identity.dataInstanceId, published⟩

/-- What a failed rollback raises. -/
def rollbackFailure : Raised :=
  persistenceFailure "restore replacement failed and prior live database could not be recovered"

/-- Moves `source` back to `target` when `source` is there. -/
def moveBack (source target : Path) (wanted : Bool) : FileProgram Unit :=
  if wanted then do
    if ← pathExists source then osReplace source target
  else pure ()

/-- The `except BaseException` block: undoes the renames and raises again. -/
def rollBack (live stage emergency : Path) (priorExisted published : Bool) (pending : Raised) :
    FileProgram RestoreCommitResult := do
  handle (do moveBack live stage published; moveBack emergency live priorExisted)
    fun _ => raise rollbackFailure
  raise pending

/-- The `try` statement of the command. Its one `except` block is entered with
`published` still false from the renames, and with it set from what follows them. -/
def exchange (descriptor : DatabaseRestoreVerification) (live emergency : Path) (sha256 : String)
    (priorExisted : Bool) (connection : Connection DatabaseIdentity) :
    FileProgram RestoreCommitResult := do
  let stage := descriptor.stagePath
  match ← caught (do setAside live emergency priorExisted; osReplace stage live) with
  | .error pending => rollBack live stage emergency priorExisted false pending
  | .ok _ =>
    handle (confirmPublished digest descriptor live emergency sha256 connection)
      fun pending => rollBack live stage emergency priorExisted true pending

def replaceLiveDatabaseFromVerifiedStage (provider : BackupSnapshotProvider)
    (descriptor : DatabaseRestoreVerification) (emergency : Path)
    (connection : Connection DatabaseIdentity) : FileProgram RestoreCommitResult := do
  let sha256 ← admitStage digest provider descriptor
  admitPaths provider.livePath descriptor.stagePath emergency
  let priorExisted ← pathExists provider.livePath
  exchange digest descriptor provider.livePath emergency sha256 priorExisted connection

end Provider

/-! ## The next start -/

/-- What the connections of one start do, and the temporary name a clean
database is built under. -/
structure Startup where
  canonical : Path
  owned : Bool
  manifest : Except Raised Unit
  entries : Nat
  temporary : Path
  /-- Migrating and verifying an existing database. -/
  existing : Connection Unit
  /-- Building, migrating and verifying the temporary database. -/
  building : Connection Unit
  /-- `_ensure_runtime_wal` on the published clean database. -/
  configuring : Connection Unit

def migrateExisting (startup : Startup) : FileProgram Nat := do
  runConnection startup.canonical startup.existing
  return startup.entries

/-- Removes the temporary database and its sidecars. -/
def discardAll : List Path → FileProgram Unit
  | [] => pure ()
  | path :: paths => do
    discard path
    discardAll paths

def unlinkSidecars : List Path → FileProgram Unit
  | [] => pure ()
  | path :: paths => do
    operation (some osError) fun files => .ok ((), files.put path none)
    unlinkSidecars paths

/-- Builds the temporary database and publishes it. -/
def buildClean (startup : Startup) : FileProgram Nat := do
  operation (some osError) fun files => .ok ((), files.put startup.temporary (some (.file [])))
  runConnection startup.temporary startup.building
  unlinkSidecars startup.temporary.sidecars
  osReplace startup.temporary startup.canonical
  runConnection startup.canonical startup.configuring
  return startup.entries

def initializeClean (startup : Startup) : FileProgram Nat := do
  let parent ← look fun files => .ok (files.device startup.canonical.directory).isSome
  check (ensure parent (migrationError "INSTANCE_LAYOUT_INVALID"
    "canonical data directory must already exist"))
  handle (buildClean startup) fun pending => do
    discardAll (startup.temporary :: startup.temporary.sidecars)
    raise pending

def initializeOrMigrate (startup : Startup) : FileProgram Nat := do
  check (ensure startup.owned (migrationError "INSTANCE_OWNERSHIP_REQUIRED"
    "canonical data-instance ownership is not proven"))
  check startup.manifest
  if ← pathExists startup.canonical then migrateExisting startup else initializeClean startup

end Soma.Foundation
