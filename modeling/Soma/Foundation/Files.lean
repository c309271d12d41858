import Soma.Theory.Crash
import Soma.Foundation.Errors

/-!
The file operations the persistence layer is built from. Paths are resolved,
absolute and free of symbolic links. `os.replace` is atomic: it happens as a
whole, or fails or is cut off without effect.
-/

namespace Soma.Foundation

open Crash Programs

/-- A resolved path: the directory it lies in and its last component. -/
structure Path where
  directory : String
  name : String
  deriving DecidableEq

/-- `Path(str(path) + suffix)`. -/
def Path.suffixed (path : Path) (suffix : String) : Path :=
  { path with name := path.name ++ suffix }

/-- The files SQLite keeps beside a database. -/
def Path.sidecars (path : Path) : List Path :=
  ["-wal", "-shm", "-journal"].map path.suffixed

abbrev Bytes := List UInt8

/-- What a path names: an ordinary file, or something else that exists. -/
inductive Entry where
  | file (bytes : Bytes)
  | special
  deriving DecidableEq

/-- The entries by path, and the device of every existing directory. -/
structure FileSystem where
  entry : Path → Option Entry
  device : String → Option Nat

namespace FileSystem

def put (files : FileSystem) (path : Path) (content : Option Entry) : FileSystem :=
  { files with entry := fun other => if other = path then content else files.entry other }

@[simp] theorem put_entry (files : FileSystem) (path other : Path) (content : Option Entry) :
    (files.put path content).entry other = if other = path then content else files.entry other :=
  rfl

@[simp] theorem put_device (files : FileSystem) (path : Path) (content : Option Entry) :
    (files.put path content).device = files.device :=
  rfl

/-- What `os.replace` makes of the file system. -/
def moved (files : FileSystem) (source target : Path) (content : Entry) : FileSystem :=
  if source = target then files else (files.put target (some content)).put source none

end FileSystem

/-- A program over the file system. -/
abbrev FileProgram (Result : Type) := Program FileSystem Fate Raised Result

def osError : Raised := .other

section

variable {Result : Type} {post : Post FileSystem Raised Result} {files : FileSystem}

/-- A read of the file system; it may fail. -/
def look (view : FileSystem → Except Raised Result) : FileProgram Result :=
  inspect (some osError) view

def pathExists (path : Path) : FileProgram Bool :=
  look fun files => .ok (files.entry path).isSome

/-- `_sha256_file`, over the digest of bytes. -/
def sha256File (digest : Bytes → String) (path : Path) : FileProgram String :=
  look fun files => match files.entry path with
    | some (.file bytes) => .ok (digest bytes)
    | _ => .error osError

/-- `path.stat().st_size`. -/
def statSize (path : Path) : FileProgram Nat :=
  look fun files => match files.entry path with
    | some (.file bytes) => .ok bytes.length
    | some .special => .ok 0
    | none => .error osError

/-- `path.stat().st_dev` of a directory. -/
def statDevice (directory : String) : FileProgram Nat :=
  look fun files => match files.device directory with
    | some device => .ok device
    | none => .error osError

/-- `os.replace(source, target)`: fails unless the source is there, the target's
directory is there on the same device, and the target is no directory. -/
def osReplace (source target : Path) : FileProgram Unit :=
  operation (some osError) fun files =>
    match files.entry source with
    | none => .error osError
    | some content =>
      if (files.device target.directory).isSome ∧
          files.device source.directory = files.device target.directory ∧
          files.entry target ≠ some .special then
        .ok ((), files.moved source target content)
      else .error osError

/-- `path.unlink(missing_ok=True)` with `OSError` ignored. -/
def discard (path : Path) : FileProgram Unit :=
  handle (operation (some osError) fun files => .ok ((), files.put path none))
    fun _ => pure ()

theorem wp_look {view : FileSystem → Except Raised Result} (died : post.died files)
    (raised : ∀ error, post.raised error files)
    (returned : ∀ value, view files = .ok value → post.returned value files) :
    wp (look view) post files :=
  wp_inspect died (fun error _ => raised error) (fun error _ => raised error) returned

theorem wp_pathExists {post : Post FileSystem Raised Bool} (died : post.died files)
    (raised : ∀ error, post.raised error files)
    (returned : post.returned (files.entry path).isSome files) :
    wp (pathExists path) post files :=
  wp_look died raised fun _ found => Except.ok.inj found ▸ returned

theorem wp_sha256File {digest : Bytes → String} {post : Post FileSystem Raised String}
    (died : post.died files) (raised : ∀ error, post.raised error files)
    (returned : ∀ bytes, files.entry path = some (.file bytes) →
      post.returned (digest bytes) files) : wp (sha256File digest path) post files := by
  refine wp_look died raised fun value found => ?_
  split at found
  · rename_i bytes stored
    cases found
    exact returned bytes stored
  · cases found

theorem wp_osReplace {post : Post FileSystem Raised Unit} (died : post.died files)
    (raised : ∀ error, post.raised error files)
    (returned : ∀ content, files.entry source = some content →
      post.returned () (files.moved source target content)) :
    wp (osReplace source target) post files := by
  refine wp_operation died (fun error _ => raised error) (fun error _ => raised error)
    fun value next ran => ?_
  split at ran
  · cases ran
  · rename_i content stored
    split at ran
    · cases ran
      exact returned content stored
    · cases ran

end

/-! ## What an open SQLite connection does to its files -/

/-- One change an open connection makes on disk: the database file stays where
it is, its sidecars come and go. -/
structure Touch where
  database : Bytes → Bytes
  sidecar : Path → Option Entry → Option Entry

def FileSystem.touched (files : FileSystem) (path : Path) (touch : Touch) : FileSystem :=
  { files with entry := fun other =>
      if other = path then
        (files.entry path).map fun
          | .file bytes => .file (touch.database bytes)
          | .special => .special
      else if other ∈ path.sidecars then touch.sidecar other (files.entry other)
      else files.entry other }

/-- What one connection does between opening and closing, and how it ends. -/
structure Connection (Result : Type) where
  touches : List Touch
  outcome : Except Raised Result

/-- The changes of a connection, one after the other. -/
def touchAll (path : Path) : List Touch → FileProgram Unit
  | [] => pure ()
  | touch :: touches => do
    operation (some osError) fun files => .ok ((), files.touched path touch)
    touchAll path touches

/-- Opens the database, works on it and closes it. -/
def runConnection {Result : Type} (path : Path) (connection : Connection Result) :
    FileProgram Result := do
  touchAll path connection.touches
  check connection.outcome

/-- The content of a database after some changes. -/
def rewritten (touches : List Touch) (bytes : Bytes) : Bytes :=
  touches.foldl (fun bytes touch => touch.database bytes) bytes

section

variable {files : FileSystem} {path : Path}

theorem touched_other (apart : other ≠ path) (beside : other ∉ path.sidecars) :
    (files.touched path touch).entry other = files.entry other := by
  simp [FileSystem.touched, apart, beside]

theorem touched_database (stored : files.entry path = some (.file bytes)) :
    (files.touched path touch).entry path = some (.file (touch.database bytes)) := by
  simp [FileSystem.touched, stored]

/-- A content some part of a connection's changes has reached. -/
def Reopened (touches : List Touch) (start bytes : Bytes) : Prop :=
  ∃ part, part <+: touches ∧ bytes = rewritten part start

theorem reopened_none (touches : List Touch) (start : Bytes) : Reopened touches start start :=
  ⟨[], List.nil_prefix, rfl⟩

/-- What every change of a connection carries along with the content holds
wherever the connection is cut. -/
theorem wp_touchAll {post : Post FileSystem Raised Unit} (start : Bytes)
    (Held : Bytes → FileSystem → Prop)
    (kept : ∀ touch bytes now, Held bytes now → Held (touch.database bytes) (now.touched path touch))
    (held : Held start files)
    (returned : ∀ now, Held (rewritten touches start) now → post.returned () now)
    (raised : ∀ error now bytes, Reopened touches start bytes → Held bytes now →
      post.raised error now)
    (died : ∀ now bytes, Reopened touches start bytes → Held bytes now → post.died now) :
    wp (touchAll path touches) post files := by
  induction touches generalizing start files with
  | nil => exact wp_pure (returned files held)
  | cons touch touches ih =>
    have first := reopened_none (touch :: touches) start
    have further : ∀ bytes, Reopened touches (touch.database start) bytes →
        Reopened (touch :: touches) start bytes := by
      rintro bytes ⟨part, isPart, rfl⟩
      exact ⟨touch :: part, List.cons_prefix_cons.mpr ⟨rfl, isPart⟩, rfl⟩
    refine wp_bind (wp_operation (died _ _ first held) (fun error _ => raised error _ _ first held)
      (fun error _ => raised error _ _ first held) ?_)
    rintro _ _ ran
    cases ran
    refine ih _ (kept touch _ _ held) returned ?_ ?_
    · exact fun error now bytes part => raised error now bytes (further bytes part)
    · exact fun now bytes part => died now bytes (further bytes part)

end

end Soma.Foundation
