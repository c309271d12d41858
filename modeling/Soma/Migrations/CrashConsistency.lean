import Soma.Theory.Execution
import Soma.Migrations.Runner

/-!
What every run of the migration runner leaves, wherever it fails or is cut off.
The database holds some number `k` of the release's entries: its ledger rows
carry their identities and its content is the one replaying their statements
makes. One entry moves `k` to `k + 1` in one commit (`wp_applyEntry`), clean
initialization shows the canonical path nothing before `k` is the whole
manifest, and a run that nothing disturbs ends there (`initializeOrMigrate_outcome`).
-/

namespace Soma.Migrations

open Foundation Crash Execution Programs

section

variable {sqlite : Sqlite} (bytes : BytesLibrary) (releases : List MigrationEntry)
  (script : MigrationEntry → Except Raised MigrationScript)

/-- What replaying entries, each with the ledger row it left, makes of a content. -/
def replay : List (MigrationEntry × LedgerRow) → sqlite.Schema × List LedgerRow →
    Except Raised (sqlite.Schema × List LedgerRow)
  | [], content => .ok content
  | (entry, row) :: rest, content => do
    let found ← script entry
    let working ← found.statements.foldlM (fun working statement =>
      sqlite.execute statement working) content
    ensure (found.incomplete = false)
      (migrationError "MIGRATION_SYNTAX_INCOMPLETE" "migration contains an incomplete SQL tail")
    let working ← insertLedgerRow row working
    replay rest working

/-- The content is the one the first `count` entries of the release make. -/
structure Holds (count : Nat) (content : sqlite.Schema × List LedgerRow) : Prop where
  bounded : count ≤ releases.length
  ledger : content.2.map (·.identity) = (releases.take count).map (·.identity)
  replayed : replay script ((releases.take count).zip content.2) (sqlite.empty, []) = .ok content

variable (sqlite) in
/-- No statement of the release changes a row of the ledger. -/
def KeepsLedger : Prop :=
  ∀ entry ∈ releases, ∀ found, script entry = .ok found → ∀ statement ∈ found.statements,
    ∀ content after, sqlite.execute statement content = .ok after → after.2 = content.2

/-- A package of the release: its manifest is the release up to some entry, the first at
least, and its files hold the accepted texts. -/
structure Releases (package : Package sqlite) : Prop where
  nonempty : package.entries ≠ []
  entries : package.entries = releases.take package.entries.length
  texts : ∀ entry ∈ package.entries, scriptOf bytes package entry = script entry

/-- What an undisturbed run of a package needs: a valid manifest, an owned
instance, and entries that execute, are recorded and verify. -/
structure Executable (package : Package sqlite) : Prop where
  owned : package.ownershipProven = true
  valid : validateManifest bytes package = .ok ()
  executes : ∀ count ≤ package.entries.length, ∀ rows : List LedgerRow,
    rows.map (·.identity) = (package.entries.take count).map (·.identity) →
    ∃ content, replay script ((package.entries.take count).zip rows) (sqlite.empty, []) = .ok content
  verifies : ∀ content : sqlite.Schema × List LedgerRow,
    Holds releases script package.entries.length content → package.verifier content = .ok ()

end

section Replay

variable {sqlite : Sqlite} {releases : List MigrationEntry}
  {script : MigrationEntry → Except Raised MigrationScript}
  {content after : sqlite.Schema × List LedgerRow} {count : Nat}

theorem replay_append (ran : replay script first content = .ok after) :
    replay script (first ++ second) content = replay script second after := by
  induction first generalizing content with
  | nil =>
    cases ran
    rfl
  | cons head rest ih =>
    obtain ⟨_, _⟩ := head
    simp only [replay, except_bind_ok] at ran
    obtain ⟨_, read, _, executed, _, complete, _, admitted, later⟩ := ran
    simp only [List.cons_append, replay, read, executed, complete, admitted, ih later, bind,
      Except.bind]

theorem Holds.length (holds : Holds releases script count content) : content.2.length = count := by
  have lengths := congrArg List.length holds.ledger
  rwa [List.length_map, List.length_map, List.length_take, Nat.min_eq_left holds.bounded] at lengths

theorem holds_empty : Holds releases script 0 (sqlite.empty, []) :=
  ⟨Nat.zero_le _, rfl, rfl⟩

theorem Holds.zip_next (holds : Holds releases script count content)
    (next : releases[count]? = some entry) (row : LedgerRow) :
    (releases.take (count + 1)).zip (content.2 ++ [row]) =
      (releases.take count).zip content.2 ++ [(entry, row)] := by
  have same : (releases.take count).length = content.2.length := by
    rw [holds.length, List.length_take, Nat.min_eq_left holds.bounded]
  rw [List.take_add_one, next, Option.toList_some, List.zip_append same]
  rfl

theorem Holds.next (holds : Holds releases script count content) {entry : MigrationEntry}
    {row : LedgerRow} (next : releases[count]? = some entry) (same : row.identity = entry.identity)
    (ran : replay script [(entry, row)] content = .ok after)
    (recorded : after.2 = content.2 ++ [row]) : Holds releases script (count + 1) after where
  bounded := (List.getElem?_eq_some_iff.mp next).1
  ledger := by
    rw [recorded, List.map_append, holds.ledger, List.take_add_one, next, Option.toList_some,
      List.map_append, List.map_singleton, List.map_singleton, same]
  replayed := by
    rw [recorded, holds.zip_next next, replay_append holds.replayed, ran]

theorem foldlM_ledger {statements : List String}
    (keeps : ∀ statement ∈ statements, ∀ content after : sqlite.Schema × List LedgerRow,
      sqlite.execute statement content = .ok after → after.2 = content.2)
    (ran : statements.foldlM (fun working statement => sqlite.execute statement working) content =
      .ok after) : after.2 = content.2 := by
  induction statements generalizing content with
  | nil =>
    cases ran
    rfl
  | cons statement rest ih =>
    rw [List.foldlM_cons, except_bind_ok] at ran
    obtain ⟨middle, executed, later⟩ := ran
    have kept := keeps statement List.mem_cons_self content middle executed
    rw [ih (fun other member => keeps other (List.mem_cons_of_mem _ member)) later, kept]

end Replay

section Runs

variable {sqlite : Sqlite} {bytes : BytesLibrary} {releases : List MigrationEntry}
  {script : MigrationEntry → Except Raised MigrationScript} {package : Package sqlite} {clock : Nat}
  {allowed : Fate → Prop} {sound : Prop} {kept : Disk sqlite → Prop}

/-- How a run of the runner may end: any exception is tolerated. -/
abbrev ends {Result : Type} (allowed : Fate → Prop) (sound : Prop) (kept : Disk sqlite → Prop)
    (goal : Result → Disk sqlite → Prop) : Post (Disk sqlite) Raised Result :=
  Post.disturbed allowed sound (fun _ => True) kept goal

variable {disk : Disk sqlite}

theorem wp_executeStatements {statements : List String} {working : sqlite.Schema × List LedgerRow}
    {goal : sqlite.Schema × List LedgerRow → Disk sqlite → Prop} (cut : kept disk)
    (refused : ∀ error, statements.foldlM (fun working statement =>
      sqlite.execute statement working) working = .error error → ¬ sound)
    (returned : ∀ after, statements.foldlM (fun working statement =>
      sqlite.execute statement working) working = .ok after → goal after disk) :
    wpOf allowed (executeStatements statements working) (ends allowed sound kept goal) disk := by
  induction statements generalizing working with
  | nil => exact wp_pure (returned working rfl)
  | cons statement rest ih =>
    refine wp_view_bind cut (fun _ _ => trivial) ?_ ?_
    · intro error failed
      refine refused error ?_
      rw [List.foldlM_cons, failed]
      rfl
    · intro middle executed
      refine ih ?_ ?_
      · intro error failed
        refine refused error ?_
        rw [List.foldlM_cons, executed]
        exact failed
      · intro after ran
        refine returned after ?_
        rw [List.foldlM_cons, executed]
        exact ran

@[simp] theorem set_database (disk : Disk sqlite) (location : Location)
    (database : Database sqlite) : (disk.set location database).database location = some database := by
  cases location <;> simp [Disk.set, Disk.database, Disk.setTemporary]

@[simp] theorem set_set (disk : Disk sqlite) (location : Location)
    (first second : Database sqlite) :
    (disk.set location first).set location second = disk.set location second := by
  cases location with
  | canonical => rfl
  | temporary id =>
    simp only [Disk.set, Disk.setTemporary, Disk.mk.injEq, true_and, and_true]
    funext other
    by_cases same : other = id <;> simp [same]

/-- A connection that finds its database in the mode it requires reads it. -/
theorem wp_openDatabase_bind {Result : Type} {location : Location} {requireWal : Bool}
    {database : Database sqlite}
    {rest : sqlite.Schema × List LedgerRow → RunnerProgram sqlite Result}
    {goal : Result → Disk sqlite → Prop} (cut : kept disk)
    (found : disk.database location = some database)
    (readable : requireWal = true → database.wal = true)
    (continued : wpOf allowed (rest database.content) (ends allowed sound kept goal) disk) :
    wpOf allowed (openDatabase location requireWal >>= rest) (ends allowed sound kept goal) disk := by
  have opened : (ensure (requireWal = true → database.wal = true) osError >>= fun _ =>
      (pure database.content : Except Raised (sqlite.Schema × List LedgerRow))) =
      .ok database.content := by
    rw [ensure, if_pos readable]
    rfl
  refine wp_view_bind cut (fun _ _ => trivial) ?_ ?_
  · intro error failed
    simp only [found] at failed
    rw [opened] at failed
    cases failed
  · intro content read
    simp only [found] at read
    rw [opened] at read
    cases read
    exact continued

theorem wp_ensureRuntimeWal_bind {Result : Type} (location : Location) {database : Database sqlite}
    {rest : Unit → RunnerProgram sqlite Result} {goal : Result → Disk sqlite → Prop}
    (cut : kept disk) (found : disk.database location = some database)
    (continued : wpOf allowed (rest ()) (ends allowed sound kept goal)
      (disk.set location { database with wal := true })) :
    wpOf allowed (ensureRuntimeWal location >>= rest) (ends allowed sound kept goal) disk := by
  unfold ensureRuntimeWal onDatabase
  refine wp_effect_bind cut (fun _ _ => trivial) ?_ ?_
  · intro error failed
    simp only [found] at failed
    cases failed
  · intro value next ran
    simp only [found] at ran
    cases ran
    exact continued

/-- One entry: wherever it is cut the database is as it was, and its commit
leaves one entry more. -/
theorem wp_applyEntry {location : Location} {requireWal : Bool} {entry : MigrationEntry}
    {database : Database sqlite} {count : Nat} {goal : Unit → Disk sqlite → Prop}
    (keeps : KeepsLedger sqlite releases script) (next : releases[count]? = some entry)
    (texts : scriptOf bytes package entry = script entry)
    (holds : Holds releases script count database.content)
    (readable : requireWal = true → database.wal = true) (cut : kept (disk.set location database))
    (succeeds : sound → ∃ content,
      replay script [(entry, ledgerRow package clock entry)] database.content = .ok content)
    (returned : ∀ content, Holds releases script (count + 1) content →
      goal () (disk.set location ⟨content, database.wal⟩)) :
    wpOf allowed (applyEntry bytes package clock location entry requireWal)
      (ends allowed sound kept goal) (disk.set location database) := by
  have member : entry ∈ releases := List.mem_of_getElem? next
  have unless_sound : ∀ error,
      replay script [(entry, ledgerRow package clock entry)] database.content = .error error →
      ¬ sound := by
    intro error failed isSound
    obtain ⟨content, ran⟩ := succeeds isSound
    rw [ran] at failed
    cases failed
  refine wp_check_bind cut ?_ fun found read => ?_
  · intro error failed
    refine unless_sound error ?_
    rw [texts] at failed
    simp only [replay, failed]
    rfl
  rw [texts] at read
  refine wp_openDatabase_bind cut (set_database disk location database) readable ?_
  refine wp_part_bind (fun after now => now = disk.set location database ∧
    found.statements.foldlM (fun working statement => sqlite.execute statement working)
      database.content = .ok after) (wp_executeStatements cut ?_ ?_) ?_
  · intro error failed
    refine unless_sound error ?_
    simp only [replay, read, bind, Except.bind] at failed ⊢
    rw [failed]
  · exact fun after ran => ⟨rfl, ran⟩
  rintro after _ ⟨rfl, executed⟩
  refine wp_check_bind cut ?_ fun _ complete => ?_
  · intro error failed
    refine unless_sound error ?_
    simp only [replay, read, executed, failed, bind, Except.bind]
  refine wp_view_bind cut (fun _ _ => trivial) ?_ fun inserted admitted => ?_
  · intro error failed
    refine unless_sound error ?_
    simp only [replay, read, executed, complete, failed, bind, Except.bind]
  have ran : replay script [(entry, ledgerRow package clock entry)] database.content =
      .ok inserted := by
    simp only [replay, read, executed, complete, admitted, bind, Except.bind]
  have recorded : inserted.2 = database.content.2 ++ [ledgerRow package clock entry] := by
    simp only [insertLedgerRow, except_ok] at admitted
    obtain ⟨_, same⟩ := admitted
    cases same
    rw [foldlM_ledger (keeps entry member found read) executed]
  have held := holds.next next rfl ran recorded
  refine wp_operation_of (fun allow => ⟨cut, allow⟩)
    (fun allow error _ => ⟨cut, fun _ => ⟨allow, trivial⟩⟩) ?_ ?_
  · intro error failed
    simp only [set_database] at failed
    cases failed
  · intro value now committed
    simp only [set_database, set_set] at committed
    cases committed
    exact returned inserted held

/-- Some entries in order: wherever they are cut the database holds a number of
entries between the first and the last. -/
theorem wp_applyEntries (location : Location) (disk : Disk sqlite) (database : Database sqlite)
    (count : Nat) {requireWal : Bool} {pending : List MigrationEntry} {goal : Unit → Disk sqlite → Prop} (keeps : KeepsLedger sqlite releases script)
    (inOrder : pending <+: releases.drop count)
    (texts : ∀ entry ∈ pending, scriptOf bytes package entry = script entry)
    (holds : Holds releases script count database.content)
    (readable : requireWal = true → database.wal = true)
    (cut : ∀ held content, Holds releases script held content → count ≤ held →
      kept (disk.set location ⟨content, database.wal⟩))
    (succeeds : sound → ∀ held entry (content : sqlite.Schema × List LedgerRow),
      Holds releases script held content → held < count + pending.length → releases[held]? = some entry → ∃ after,
      replay script [(entry, ledgerRow package clock entry)] content = .ok after)
    (returned : ∀ content, Holds releases script (count + pending.length) content →
      goal () (disk.set location ⟨content, database.wal⟩)) :
    wpOf allowed (applyEntries bytes package clock location requireWal pending)
      (ends allowed sound kept goal) (disk.set location database) := by
  induction pending generalizing count database with
  | nil => exact wp_pure (returned database.content holds)
  | cons entry rest ih =>
    obtain ⟨others, split⟩ := inOrder
    have next : releases[count]? = some entry := by
      rw [← List.head?_drop, ← split]
      rfl
    have later : rest <+: releases.drop (count + 1) := by
      refine ⟨others, ?_⟩
      rw [← List.tail_drop, ← split]
      rfl
    have length : count + 1 + rest.length = count + (entry :: rest).length := by
      rw [List.length_cons]
      omega
    refine wp_part_bind (fun _ now => ∃ content,
      Holds releases script (count + 1) content ∧ now = disk.set location ⟨content, database.wal⟩)
      (wp_applyEntry keeps next (texts entry List.mem_cons_self) holds readable
        (cut count database.content holds (Nat.le_refl _)) ?_ ?_) ?_
    · intro isSound
      refine succeeds isSound count entry database.content holds ?_ next
      rw [List.length_cons]
      omega
    · exact fun content held => ⟨content, held, rfl⟩
    rintro _ _ ⟨content, held, rfl⟩
    refine ih ⟨content, database.wal⟩ (count + 1) later
      (fun other member => texts other (List.mem_cons_of_mem _ member)) held readable ?_ ?_ ?_
    · exact fun reached after holdsAfter further => cut reached after holdsAfter (by omega)
    · intro isSound reached other after holdsAfter before
      exact succeeds isSound reached other after holdsAfter (length ▸ before)
    · exact fun after holdsAfter => returned after (length ▸ holdsAfter)

end Runs

/-! ## Reading the ledger back -/

section Ledger

variable {sqlite : Sqlite} {bytes : BytesLibrary} {package : Package sqlite}

theorem validateEntries_sequence
    (valid : validateEntries bytes package expected seen entries = .ok ()) :
    entries.map (·.sequence) = List.range' expected entries.length := by
  induction entries generalizing expected seen with
  | nil => rfl
  | cons entry rest ih =>
    simp only [validateEntries, except_ok] at valid
    obtain ⟨⟨numbered, _⟩, _, _, _, later⟩ := valid
    rw [List.map_cons, ih later, numbered, List.length_cons, List.range'_succ]

variable {rows : List LedgerRow}

theorem ledgerOrder_self (valid : validateManifest bytes package = .ok ())
    (same : rows.map (·.identity) = (package.entries.take count).map (·.identity)) :
    ledgerOrder rows = rows := by
  simp only [validateManifest, except_ok] at valid
  obtain ⟨numbered, _⟩ := valid
  have sequences : rows.map (·.sequence) = (List.range' 1 package.entries.length).take count := by
    rw [← validateEntries_sequence numbered, ← List.map_take]
    have firsts := congrArg (List.map Prod.fst) same
    rwa [List.map_map, List.map_map] at firsts
  have ascending : (rows.map (·.sequence)).Pairwise (· ≤ ·) := by
    rw [sequences]
    exact (List.pairwise_le_range' (s := 1)).sublist (List.take_sublist _ _)
  have sorted : rows.Pairwise fun left right => left.sequence ≤ right.sequence :=
    List.pairwise_map.mp ascending
  exact sorted.insertionSort_eq

theorem reconcileRows_same {entries : List MigrationEntry}
    (same : rows.map (·.identity) = (entries.take rows.length).map (·.identity)) :
    reconcileRows rows entries = .ok () := by
  induction rows generalizing entries with
  | nil => rfl
  | cons row rest ih =>
    cases entries with
    | nil => cases same
    | cons entry others =>
      simp only [List.length_cons, List.take_succ_cons, List.map_cons, List.cons.injEq] at same
      obtain ⟨first, later⟩ := same
      simp only [LedgerRow.identity, MigrationEntry.identity, Prod.mk.injEq] at first
      simp only [reconcileRows, ensure, first, and_self, if_true, bind, Except.bind]
      exact ih later

/-- A ledger that is no longer than the manifest and carries its identities is
reconciled to the entries behind it. -/
theorem reconcileLedger_same (short : rows.length ≤ package.entries.length)
    (same : rows.map (·.identity) = (package.entries.take rows.length).map (·.identity)) :
    reconcileLedger package rows = .ok (package.entries.drop rows.length) := by
  simp only [reconcileLedger, ensure, short, if_true, reconcileRows_same same, bind, Except.bind,
    pure, Except.pure]

theorem reconcileLedger_ok (reconciled : reconcileLedger package rows = .ok pending) :
    rows.length ≤ package.entries.length ∧ pending = package.entries.drop rows.length := by
  simp only [reconcileLedger, except_ok] at reconciled
  obtain ⟨short, _, same⟩ := reconciled
  cases same
  exact ⟨short, rfl⟩

end Ledger

/-! ## Whole runs -/

section Outcome

variable {sqlite : Sqlite}

/-- What a run may do to the canonical database: publish it whole where there
was none, or add entries to the ones it holds. -/
structure Progressed (releases : List MigrationEntry)
    (script : MigrationEntry → Except Raised MigrationScript) (total : Nat)
    (before after : Disk sqlite) : Prop where
  clean : before.canonical = none → ∀ database, after.canonical = some database →
    Holds releases script total database.content
  onward : ∀ database count, before.canonical = some database →
    Holds releases script count database.content → ∃ later reached,
      after.canonical = some later ∧ Holds releases script reached later.content ∧ count ≤ reached

/-- A run of the package that nothing disturbs can end: the package is
executable, the directory is there and the database is not ahead of it. -/
structure Ready (bytes : BytesLibrary) (releases : List MigrationEntry)
    (script : MigrationEntry → Except Raised MigrationScript) (package : Package sqlite)
    (disk : Disk sqlite) : Prop where
  executable : Executable bytes releases script package
  directory : disk.directoryExists = true
  notAhead : ∀ database, disk.canonical = some database →
    database.content.2.length ≤ package.entries.length

/-- A run moves the canonical database onward wherever it ends, and returns
with the manifest of the package in it. -/
abbrev migrates (bytes : BytesLibrary) (releases : List MigrationEntry)
    (script : MigrationEntry → Except Raised MigrationScript) (package : Package sqlite)
    (allowed : Fate → Prop) (disk : Disk sqlite) :=
  ends allowed (Ready bytes releases script package disk)
    (Progressed releases script package.entries.length disk) fun total after =>
      total = package.entries.length ∧ Progressed releases script package.entries.length disk after ∧
      ∃ migrated, after.canonical = some migrated ∧
        Holds releases script package.entries.length migrated.content

variable {bytes : BytesLibrary} {releases : List MigrationEntry}
  {script : MigrationEntry → Except Raised MigrationScript} {package : Package sqlite} {clock : Nat}
  {allowed : Fate → Prop} {disk : Disk sqlite} {database : Database sqlite} {count : Nat}

theorem progressed_absent {after : Disk sqlite} (absent : disk.canonical = none)
    (still : after.canonical = none) : Progressed releases script total disk after where
  clean _ database found := by
    rw [still] at found
    cases found
  onward database count found := by
    rw [absent] at found
    cases found

theorem progressed_published {after : Disk sqlite} (absent : disk.canonical = none)
    (published : after.canonical = some database)
    (holds : Holds releases script total database.content) :
    Progressed releases script total disk after where
  clean _ found stored := by
    rw [published] at stored
    cases stored
    exact holds
  onward database count found := by
    rw [absent] at found
    cases found

theorem progressed_set (present : disk.canonical = some database)
    (holds : Holds releases script count database.content)
    (held : Holds releases script reached content) (further : count ≤ reached) :
    Progressed releases script total disk (disk.set .canonical ⟨content, wal⟩) where
  clean absent := by
    rw [present] at absent
    cases absent
  onward found start stored held' := by
    rw [present] at stored
    cases stored
    refine ⟨⟨content, wal⟩, reached, rfl, held, ?_⟩
    rw [← held'.length, holds.length]
    exact further

theorem Executable.next (executable : Executable bytes releases script package)
    (release : Releases bytes releases script package) {held : Nat} {entry : MigrationEntry}
    {content : sqlite.Schema × List LedgerRow} (holds : Holds releases script held content)
    (within : held < package.entries.length) (found : releases[held]? = some entry) :
    ∃ after, replay script [(entry, ledgerRow package clock entry)] content = .ok after := by
  have same : ∀ part ≤ package.entries.length, package.entries.take part = releases.take part := by
    intro part small
    rw [release.entries, List.take_take, Nat.min_eq_left small]
  have rows : (content.2 ++ [ledgerRow package clock entry]).map (·.identity) =
      (package.entries.take (held + 1)).map (·.identity) := by
    rw [same _ within, List.map_append, holds.ledger, List.take_add_one, found,
      Option.toList_some, List.map_append]
    rfl
  obtain ⟨after, ran⟩ := executable.executes (held + 1) within _ rows
  rw [same _ within, holds.zip_next found, replay_append holds.replayed] at ran
  exact ⟨after, ran⟩

theorem wp_migrateExisting (release : Releases bytes releases script package)
    (keeps : KeepsLedger sqlite releases script)
    (present : disk.canonical = some database)
    (holds : Holds releases script count database.content) :
    wpOf allowed (migrateExisting bytes package clock)
      (migrates bytes releases script package allowed disk) disk := by
  have entriesLe : package.entries.length ≤ releases.length := by
    have lengths := congrArg List.length release.entries
    rw [List.length_take] at lengths
    omega
  have progressed : ∀ {reached : Nat} {content : sqlite.Schema × List LedgerRow} (wal : Bool),
      Holds releases script reached content → count ≤ reached →
      Progressed releases script package.entries.length disk
        (disk.set .canonical ⟨content, wal⟩) :=
    fun _ held further => progressed_set present holds held further
  have start : Progressed releases script package.entries.length disk disk := by
    have unchanged : disk.set .canonical ⟨database.content, database.wal⟩ = disk := by
      simp only [Disk.set, ← present]
    have kept := progressed database.wal holds (Nat.le_refl count)
    rwa [unchanged] at kept
  have kept := progressed true holds (Nat.le_refl count)
  unfold migrateExisting
  refine wp_ensureRuntimeWal_bind .canonical start present ?_
  refine wp_bind (wp_openDatabase_bind kept
    (set_database disk .canonical ⟨database.content, true⟩) (fun _ => rfl) (wp_pure ?_))
  refine wp_check_bind kept ?_ fun pending reconciled => ?_
  · intro error failed ready
    have small := ready.notAhead database present
    have same : database.content.2.map (·.identity) =
        (package.entries.take database.content.2.length).map (·.identity) := by
      rw [release.entries, List.take_take, Nat.min_eq_left small, holds.length, holds.ledger]
    rw [ledgerOrder_self ready.executable.valid same, reconcileLedger_same small same] at failed
    cases failed
  obtain ⟨short, rfl⟩ := reconcileLedger_ok reconciled
  have length : (ledgerOrder database.content.2).length = count := by
    rw [ledgerOrder, List.length_insertionSort, holds.length]
  rw [length] at short ⊢
  have total : count + (package.entries.drop count).length = package.entries.length := by
    rw [List.length_drop]
    omega
  have inOrder : package.entries.drop count <+: releases.drop count := by
    rw [release.entries, List.drop_take]
    exact List.take_prefix _ _
  refine wp_part_bind (fun _ now => ∃ content,
    Holds releases script package.entries.length content ∧
      now = disk.set .canonical ⟨content, true⟩)
    (wp_applyEntries .canonical disk ⟨database.content, true⟩ count keeps inOrder
      (fun entry member => release.texts entry (List.mem_of_mem_drop member)) holds (fun _ => rfl)
      (fun reached content held further => progressed true held further) ?_ ?_) ?_
  · intro ready reached entry content held before found
    exact ready.executable.next release held (total ▸ before) found
  · exact fun content held => ⟨content, total ▸ held, rfl⟩
  rintro _ _ ⟨content, held, rfl⟩
  have done := progressed true held short
  refine wp_bind (wp_openDatabase_bind done (set_database disk .canonical ⟨content, true⟩)
    (fun _ => rfl) ?_)
  refine wp_check ?_ fun _ _ => wp_pure ⟨rfl, done, _, rfl, held⟩
  intro error failed
  refine ⟨done, fun ready => ?_⟩
  rw [ready.executable.verifies content held] at failed
  cases failed

theorem wp_discardTemporary {id : Nat} :
    wpOf allowed (discardTemporary id) (Post.mk (fun _ after => after.canonical = disk.canonical)
      (fun _ _ => False) fun after => after.canonical = disk.canonical ∧ allowed .dies) disk := by
  unfold discardTemporary
  refine wp_bind (wp_handle (wp_operation_of (fun allow => ⟨rfl, allow⟩) ?_ ?_ ?_))
  · exact fun _ _ _ => wp_pure (wp_handle (wp_operation_of (fun allow => ⟨rfl, allow⟩)
      (fun _ _ _ => wp_pure rfl) (fun _ failed => nomatch failed)
      (fun _ _ ran => by cases ran; rfl)))
  · exact fun _ failed => nomatch failed
  · rintro _ _ ran
    cases ran
    exact wp_handle (wp_operation_of (fun allow => ⟨rfl, allow⟩)
      (fun _ _ _ => wp_pure rfl) (fun _ failed => nomatch failed)
      (fun _ _ ran => by cases ran; rfl))

/-- The temporary database of a clean initialization, up to its publication. -/
theorem wp_initializeTemporary {id : Nat} {drawn : Disk sqlite}
    (release : Releases bytes releases script package)
    (keeps : KeepsLedger sqlite releases script) (absent : disk.canonical = none)
    (still : drawn.canonical = none) :
    wpOf allowed (initializeTemporary bytes package clock id)
      (migrates bytes releases script package allowed disk) drawn := by
  have untouched : ∀ after : Disk sqlite, after.canonical = none →
      Progressed releases script package.entries.length disk after :=
    fun _ still => progressed_absent absent still
  have atTemporary : ∀ database, (drawn.set (.temporary id) database).canonical = none :=
    fun _ => still
  have entriesLe : package.entries <+: releases := by
    rw [release.entries]
    exact List.take_prefix _ _
  unfold initializeTemporary createTemporary
  refine wp_effect_bind (untouched drawn still) (fun _ _ => trivial) ?_ ?_
  · intro error failed
    cases failed
  intro _ created ran
  cases ran
  refine wp_part_bind (fun _ now => ∃ content,
    Holds releases script package.entries.length content ∧
      now = drawn.set (.temporary id) ⟨content, false⟩)
    (wp_applyEntries (.temporary id) drawn ⟨(sqlite.empty, []), false⟩ 0 keeps entriesLe release.texts holds_empty
      (fun required => nomatch required) (fun _ _ _ _ => untouched _ (atTemporary _)) ?_ ?_) ?_
  · intro ready reached entry content held before found
    rw [Nat.zero_add] at before
    exact ready.executable.next release held before found
  · intro content held
    rw [Nat.zero_add] at held
    exact ⟨content, held, rfl⟩
  rintro _ _ ⟨content, held, rfl⟩
  refine wp_bind (wp_openDatabase_bind (untouched _ (atTemporary _))
    (set_database drawn (.temporary id) ⟨content, false⟩) (fun required => nomatch required) ?_)
  refine wp_check ?_ fun _ _ => ?_
  · intro error failed
    refine ⟨untouched _ (atTemporary _), fun ready => ?_⟩
    rw [ready.executable.verifies content held] at failed
    cases failed
  unfold unlinkSidecars
  refine wp_effect_bind (untouched _ (atTemporary _)) (fun _ _ => trivial) ?_ ?_
  · intro error failed
    cases failed
  intro _ cleared ran
  have same : cleared.canonical = none ∧
      cleared.temporaries id = some ⟨content, false⟩ := by
    cases ran
    exact ⟨still, set_database drawn (.temporary id) ⟨content, false⟩⟩
  unfold publishTemporary
  refine wp_effect_bind (untouched _ same.1) (fun _ _ => trivial) ?_ ?_
  · intro error failed
    simp only [same.2] at failed
    cases failed
  intro _ published ran
  simp only [same.2] at ran
  cases ran
  have done : ∀ after : Disk sqlite, ∀ wal, after.canonical = some ⟨content, wal⟩ →
      Progressed releases script package.entries.length disk after :=
    fun after wal published => progressed_published absent published held
  refine wp_ensureRuntimeWal_bind .canonical (done _ false rfl) rfl (wp_pure ?_)
  exact ⟨rfl, done _ true rfl, _, rfl, held⟩

theorem wp_initializeClean (release : Releases bytes releases script package)
    (keeps : KeepsLedger sqlite releases script) (absent : disk.canonical = none) :
    wpOf allowed (initializeClean bytes package clock)
      (migrates bytes releases script package allowed disk) disk := by
  have untouched : ∀ after : Disk sqlite, after.canonical = none →
      Progressed releases script package.entries.length disk after :=
    fun _ still => progressed_absent absent still
  unfold initializeClean
  refine wp_view_bind (untouched disk absent) (fun _ _ => trivial) ?_ fun ready read => ?_
  · intro error failed
    cases failed
  cases read
  refine wp_check_bind (untouched disk absent) ?_ fun _ _ => ?_
  · intro error failed isReady
    simp only [ensure, isReady.directory, if_true] at failed
    cases failed
  unfold drawTemporary
  refine wp_effect_bind (untouched disk absent) (fun _ _ => trivial) ?_ ?_
  · intro error failed
    cases failed
  intro id drawn named
  cases named
  have still : ({ disk with nextId := disk.nextId + 1 } : Disk sqlite).canonical = none := absent
  generalize ({ disk with nextId := disk.nextId + 1 } : Disk sqlite) = drawn at still ⊢
  refine wp_handle (wp_mono (wp_initializeTemporary release keeps absent still)
    (fun _ _ held => held) ?_ (fun _ held => held))
  rintro error cut ⟨kept, owed⟩
  have moved : ∀ after : Disk sqlite, after.canonical = cut.canonical →
      Progressed releases script package.entries.length disk after := by
    intro after same
    exact ⟨fun none database found => kept.clean none database (same ▸ found),
      fun start count stored holds => same ▸ kept.onward start count stored holds⟩
  refine wp_bind (wp_mono wp_discardTemporary ?_ (fun _ _ never => never.elim) ?_)
  · exact fun _ after same => wp_raise ⟨moved after same, owed⟩
  · rintro after ⟨same, allow⟩
    exact ⟨moved after same, allow⟩

variable (allowed clock) in
/-- **Every run of the runner**, whatever disturbs it, moves the canonical
database onward, and one that nothing disturbs ends with the full manifest. -/
theorem initializeOrMigrate_outcome (release : Releases bytes releases script package)
    (keeps : KeepsLedger sqlite releases script)
    (consistent : ∀ database, disk.canonical = some database →
      ∃ count, Holds releases script count database.content) :
    wpOf allowed (initializeOrMigrate bytes package clock)
      (migrates bytes releases script package allowed disk) disk := by
  have start : Progressed releases script package.entries.length disk disk := by
    refine ⟨fun absent _ found => ?_, fun database count found holds => ?_⟩
    · rw [absent] at found
      cases found
    · exact ⟨database, count, found, holds, Nat.le_refl count⟩
  unfold initializeOrMigrate
  refine wp_check_bind start ?_ fun _ _ => ?_
  · intro error failed ready
    simp only [ensure, ready.executable.owned, if_true] at failed
    cases failed
  refine wp_check_bind start ?_ fun _ _ => ?_
  · intro error failed ready
    rw [ready.executable.valid] at failed
    cases failed
  refine wp_view_bind start (fun _ _ => trivial) ?_ fun present read => ?_
  · intro error failed
    cases failed
  cases read
  cases stored : disk.canonical with
  | none => exact wp_initializeClean release keeps stored
  | some database =>
    obtain ⟨count, holds⟩ := consistent database stored
    exact wp_migrateExisting release keeps stored holds

end Outcome

/-! ## Every rerun -/

/-- The data directory, with the size of the manifest that first published a
canonical database in it. -/
structure Installation (sqlite : Sqlite) where
  disk : Disk sqlite
  createdBy : Option Nat

section Reruns

variable {sqlite : Sqlite} (bytes : BytesLibrary) (releases : List MigrationEntry)
  (script : MigrationEntry → Except Raised MigrationScript)

def Uninitialized (state : Installation sqlite) : Prop :=
  state.disk.canonical = none ∧ state.createdBy = none

/-- One run of some package of the release, disturbed in any way. -/
inductive RunnerStep : Installation sqlite → Installation sqlite → Prop
  | run (state : Installation sqlite) (package : Package sqlite) (clock : Nat) (events : List Fate)
      (after : Disk sqlite) (release : Releases bytes releases script package)
      (ran : (initializeOrMigrate bytes package clock ⟨state.disk, events⟩).2.disk = after) :
      RunnerStep state ⟨after, if state.disk.canonical.isNone && after.canonical.isSome
        then some package.entries.length else state.createdBy⟩

/-- The invariant over runs. -/
def Consistent (state : Installation sqlite) : Prop :=
  match state.disk.canonical with
  | none => state.createdBy = none
  | some database => ∃ count, Holds releases script count database.content ∧
      ∀ total ∈ state.createdBy, total ≤ count

variable {bytes releases script}

theorem Consistent.holds (consistent : Consistent releases script state)
    (found : state.disk.canonical = some database) :
    ∃ count, Holds releases script count database.content ∧ ∀ total ∈ state.createdBy,
      total ≤ count := by
  unfold Consistent at consistent
  rwa [found] at consistent

/-- A run keeps the invariant, wherever it ends. -/
theorem runnerStep_consistent (keeps : KeepsLedger sqlite releases script)
    {state next : Installation sqlite} (consistent : Consistent releases script state)
    (stepped : RunnerStep bytes releases script state next) : Consistent releases script next := by
  obtain ⟨package, clock, events, after, release, ran⟩ := stepped
  have outcome := wp_run (initializeOrMigrate_outcome clock (fun _ => True) release keeps fun database found =>
      (consistent.holds found).imp fun _ held => held.1) events
  have progressed : Progressed releases script package.entries.length state.disk after := by
    rw [← ran]
    cases ended : (initializeOrMigrate bytes package clock ⟨state.disk, events⟩).1 with
    | returned total =>
      rw [ended] at outcome
      exact outcome.2.1
    | raised error =>
      rw [ended] at outcome
      exact outcome.1
    | died =>
      rw [ended] at outcome
      exact outcome.1
  unfold Consistent
  cases before : state.disk.canonical with
  | none =>
    cases published : after.canonical with
    | none =>
      unfold Consistent at consistent
      rw [before] at consistent
      simpa using consistent
    | some database =>
      refine ⟨package.entries.length, progressed.clean before database published, ?_⟩
      simp
  | some database =>
    obtain ⟨count, holds, created⟩ := consistent.holds before
    obtain ⟨_, reached, found, held, further⟩ := progressed.onward database count before holds
    rw [found]
    refine ⟨reached, held, fun total member => ?_⟩
    simp only [Option.isNone_some, Bool.false_and, Bool.false_eq_true, if_false] at member
    exact Nat.le_trans (created total member) further

/-- **Crash consistency of migrations.** Whatever packages of one release ran
and wherever each was cut off, the canonical database holds the first entries
of the release, its ledger and its content exactly theirs, at least as many as
the manifest of the package that created it; and a run of a package that is
ready and undisturbed ends with its full manifest. -/
theorem migration_crash_consistency (keeps : KeepsLedger sqlite releases script)
    {state : Installation sqlite}
    (reached : Reachable Uninitialized (RunnerStep bytes releases script) state) :
    (∀ database, state.disk.canonical = some database →
      ∃ count, Holds releases script count database.content ∧
        ∀ total ∈ state.createdBy, total ≤ count) ∧
    ∀ package clock, Releases bytes releases script package →
      Ready bytes releases script package state.disk →
      ∃ after database, initializeOrMigrate bytes package clock ⟨state.disk, []⟩ =
          (.returned package.entries.length, after) ∧
        after.disk.canonical = some database ∧
        Holds releases script package.entries.length database.content := by
  have consistent : Consistent releases script state := by
    refine reached.invariant (Consistent releases script) ?_ ?_
    · rintro start ⟨absent, unmade⟩
      unfold Consistent
      rw [absent]
      exact unmade
    · exact fun _ _ held stepped => runnerStep_consistent keeps held stepped
  refine ⟨fun database found => consistent.holds found, fun package clock release ready => ?_⟩
  have outcome := (initializeOrMigrate_outcome clock (fun _ => False) release keeps fun database found =>
      (consistent.holds found).imp fun _ held => held.1) [] fun _ none => nomatch none
  cases ended : initializeOrMigrate bytes package clock ⟨state.disk, []⟩ with
  | mk result after =>
    rw [ended] at outcome
    cases result with
    | returned total =>
      obtain ⟨⟨rfl, _, database, found, held⟩, _⟩ := outcome
      exact ⟨after, database, rfl, found, held⟩
    | raised error => exact (outcome.1.2 ready).1.elim
    | died => exact outcome.1.2.elim

end Reruns

/-! ## A small release -/

/-- SQLite on scripts of `CREATE TABLE` statements: a table is made once, and
the ledger table takes rows of new sequence and id. -/
def sampleSqlite : Sqlite where
  Schema := List String
  empty := []
  completeStatement text := [';', '\n'].isSuffixOf text.toList
  execute statement content :=
    if statement = "DELETE FROM schema_migrations;" then .ok (content.1, [])
    else if statement ∈ content.1 then .error .other
    else .ok (statement :: content.1, content.2)
  admitLedgerRow tables ledger row :=
    "CREATE TABLE schema_migrations (sequence);" ∈ tables &&
      row.sequence ∉ ledger.map (·.sequence) && row.migrationId ∉ ledger.map (·.migrationId)

def sampleLedgerText : String := "CREATE TABLE schema_migrations (sequence);\n"

def sampleBytes (text : String) : Bytes := text.toList.map fun character => character.toNat.toUInt8

def sampleLibrary : BytesLibrary where
  sha256Hex raw :=
    if raw = sampleBytes sampleLedgerText then
      "48f83c45b18375c751ffec8fa5a55c9542af8391a2bb1b81823916877afedd7e"
    else if raw = sampleBytes (sampleLedgerText ++ sampleLedgerText) then
      "5801e6fcacd7c0c974b8700a1f80f0e271cf86b0abafb58bb66b0e7a2ed0f02c"
    else "1fbea8b737025dea6d32daf1853f72eab6b4128f770b75af6459ff82f8744482"
  decodeUtf8 raw := some (String.ofList (raw.map fun byte => Char.ofNat byte.toNat))
  isNfc _ := true
  decimal character := if character.isDigit then some (character.toNat - '0'.toNat) else none

def samplePackage (files : List (MigrationEntry × String)) : Package sampleSqlite where
  entries := files.map (·.1)
  listing := files.map (·.1.filename)
  file name := (files.find? (·.1.filename = name)).map fun found => sampleBytes found.2
  appVersion := "1.0"
  ownershipProven := true
  verifier _ := .ok ()

def ledgerEntry : MigrationEntry :=
  ⟨1, "0001_ledger", "0001_ledger.sql",
    "48f83c45b18375c751ffec8fa5a55c9542af8391a2bb1b81823916877afedd7e"⟩

/-- A manifest whose only file makes its table twice. -/
def repeatedEntry : MigrationEntry :=
  ⟨1, "0001_ledger", "0001_ledger.sql",
    "5801e6fcacd7c0c974b8700a1f80f0e271cf86b0abafb58bb66b0e7a2ed0f02c"⟩

def clearingEntry : MigrationEntry :=
  ⟨2, "0002_clear", "0002_clear.sql",
    "1fbea8b737025dea6d32daf1853f72eab6b4128f770b75af6459ff82f8744482"⟩

def ledgerPackage : Package sampleSqlite := samplePackage [(ledgerEntry, sampleLedgerText)]

def repeatedPackage : Package sampleSqlite :=
  samplePackage [(repeatedEntry, sampleLedgerText ++ sampleLedgerText)]

def clearingPackage : Package sampleSqlite :=
  samplePackage [(ledgerEntry, sampleLedgerText),
    (clearingEntry, "DELETE FROM schema_migrations;\n")]

def emptyDisk : Disk sampleSqlite := ⟨none, fun _ => none, fun _ => [], true, 0⟩

/-- A valid manifest alone promises neither: one with a statement SQLite
refuses is never completed, and one that deletes ledger rows leaves a ledger
that is no prefix of it. -/
theorem valid_manifest_not_enough :
    (validateManifest sampleLibrary repeatedPackage = .ok () ∧
      (initializeOrMigrate sampleLibrary repeatedPackage 5 ⟨emptyDisk, []⟩).1 =
        .raised .other ∧
      (initializeOrMigrate sampleLibrary repeatedPackage 5
        ⟨emptyDisk, []⟩).2.disk.canonical.isNone = true) ∧
    validateManifest sampleLibrary clearingPackage = .ok () ∧
    (initializeOrMigrate sampleLibrary clearingPackage 5 ⟨emptyDisk, []⟩).1 = .returned 2 ∧
    (initializeOrMigrate sampleLibrary clearingPackage 5
      ⟨emptyDisk, []⟩).2.disk.canonical.map (fun database => database.content.2.map (·.sequence)) =
      some [2] := by
  decide +kernel

def sampleScript : MigrationEntry → Except Raised MigrationScript :=
  scriptOf sampleLibrary ledgerPackage

theorem sampleScript_ledger : sampleScript ledgerEntry =
    .ok ⟨["CREATE TABLE schema_migrations (sequence);"], false⟩ := by
  decide +kernel

theorem sample_keepsLedger : KeepsLedger sampleSqlite [ledgerEntry] sampleScript := by
  intro entry member found read statement inScript content after executed
  rw [List.mem_singleton.mp member, sampleScript_ledger] at read
  cases read
  rw [List.mem_singleton.mp inScript] at executed
  simp only [sampleSqlite, String.reduceEq, if_false] at executed
  split at executed
  · cases executed
  · cases executed
    rfl

theorem sample_releases : Releases sampleLibrary [ledgerEntry] sampleScript ledgerPackage :=
  ⟨List.cons_ne_nil _ _, rfl, fun _ _ => rfl⟩

theorem sample_executable : Executable sampleLibrary [ledgerEntry] sampleScript ledgerPackage where
  owned := rfl
  valid := by decide +kernel
  verifies _ _ := rfl
  executes := by
    intro count small rows same
    have length := congrArg List.length same
    match count, rows with
    | 0, [] => exact ⟨([], []), rfl⟩
    | 0, _ :: _ => cases length
    | 1, [] => cases length
    | 1, _ :: _ :: _ => cases length
    | 1, [row] =>
      refine ⟨(["CREATE TABLE schema_migrations (sequence);"], [row]), ?_⟩
      show @replay sampleSqlite sampleScript [(ledgerEntry, row)]
        (sampleSqlite.empty, []) = _
      simp [replay, sampleScript_ledger, sampleSqlite, insertLedgerRow, ensure, bind, Except.bind,
        pure, Except.pure]
    | count + 2, _ => exact absurd small (by simp [ledgerPackage, samplePackage])

/-- The sample directory after a first run that died at its fourth operation. -/
def interruptedDisk : Disk sampleSqlite :=
  (initializeOrMigrate sampleLibrary ledgerPackage 5
    ⟨emptyDisk, [.completes, .completes, .completes, .dies]⟩).2.disk

/-- A rerun after that death ends with the manifest. -/
theorem interrupted_initialization_completes :
    ∃ after database,
      initializeOrMigrate sampleLibrary ledgerPackage 7 ⟨interruptedDisk, []⟩ =
        (.returned 1, after) ∧
      after.disk.canonical = some database ∧
      Holds [ledgerEntry] sampleScript 1 database.content :=
  (migration_crash_consistency sample_keepsLedger
    ((@Reachable.start _ Uninitialized
      (RunnerStep sampleLibrary [ledgerEntry] sampleScript) ⟨emptyDisk, none⟩ ⟨rfl, rfl⟩).step
      (.run _ ledgerPackage 5 [.completes, .completes, .completes, .dies] interruptedDisk
        sample_releases rfl))).2 ledgerPackage 7 sample_releases
    ⟨sample_executable, rfl, fun _ found => nomatch found⟩

end Soma.Migrations
