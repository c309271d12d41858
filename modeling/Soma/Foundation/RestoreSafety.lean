import Soma.Foundation.Restore

/-!
What a restore replacement leaves behind, however it ends. The prior database
and the stage move between three paths, and every point of the command is in
one of three stances: nothing moved (`intact`), the prior database set aside
(`parted`), the stage published (`published`). One lemma per rename gives the
stance it leads to; `restore_replacement` collects them and adds what the next
start makes of each stance.
-/

namespace Soma.Foundation

open Crash Programs

variable {Result : Type} {files : FileSystem} {live stage emergency : Path}
variable {prior : Option Entry} {bytes staged : Bytes}

/-! ## What the reads tell -/

theorem reads_look {view : FileSystem → Except Raised Result} :
    wp (look view) (Post.reads files fun value => view files = .ok value) files :=
  wp_look rfl (fun _ => rfl) fun _ found => ⟨rfl, found⟩

theorem reads_exists :
    wp (pathExists path) (Post.reads files fun found => found = (files.entry path).isSome) files :=
  wp_pathExists rfl (fun _ => rfl) ⟨rfl, rfl⟩

theorem reads_sha256 {digest : Bytes → String} :
    wp (sha256File digest path)
      (Post.reads files fun sha256 => ∃ bytes, files.entry path = some (.file bytes) ∧
        sha256 = digest bytes) files :=
  wp_sha256File rfl (fun _ => rfl) fun bytes stored => ⟨rfl, bytes, stored, rfl⟩

theorem reads_noSidecars :
    wp (ensureNoSidecars path)
      (Post.reads files fun _ => ∀ sidecar ∈ path.sidecars, files.entry sidecar = none) files := by
  refine reads_bind reads_look fun present found => ?_
  refine reads_mono reads_ensure fun _ none sidecar member => ?_
  cases found
  have absent := List.filter_eq_nil_iff.mp none sidecar member
  exact Option.not_isSome_iff_eq_none.mp absent

theorem reads_plain : wp (requirePlainFile path label) (Post.reads files fun _ => True) files :=
  reads_bind reads_look fun _ _ => reads_mono reads_ensure fun _ _ => trivial

/-! ## What the checks establish -/

/-- What the command has checked when it starts to rename. -/
structure Admitted (files : FileSystem) (live stage emergency : Path) (staged : Bytes) : Prop where
  staged : files.entry stage = some (.file staged)
  free : files.entry emergency = none
  apartLive : emergency ≠ live
  apartStage : emergency ≠ stage
  bare : ∀ sidecar ∈ live.sidecars, files.entry sidecar = none

theorem admitStage_reads {digest : Bytes → String} :
    wp (admitStage digest provider descriptor)
      (Post.reads files fun sha256 => sha256 = descriptor.sha256 ∧
        ∃ bytes, files.entry descriptor.stagePath = some (.file bytes) ∧ sha256 = digest bytes)
      files := by
  unfold admitStage
  refine reads_bind reads_ensure fun _ _ => reads_bind reads_ensure fun _ _ =>
    reads_bind reads_exists fun _ _ => reads_bind reads_ensure fun _ _ => ?_
  cases provider.verifiedStages.lookup descriptor.stagePath with
  | none => exact wp_raise rfl
  | some remembered =>
    refine reads_bind reads_sha256 fun sha256 stored => reads_bind reads_ensure fun _ same =>
      reads_bind reads_look fun _ _ => reads_bind reads_ensure fun _ _ => ?_
    exact reads_pure ⟨same.1, stored⟩

theorem requirePlainIfPresent_reads :
    wp (requirePlainIfPresent path label) (Post.reads files fun _ => True) files := by
  refine reads_bind reads_exists fun found _ => ?_
  cases found with
  | true => exact reads_plain
  | false => exact reads_pure trivial

theorem requireSameDevice_reads :
    wp (requireSameDevice live stage emergency) (Post.reads files fun _ => True) files := by
  refine reads_bind reads_look fun _ _ => reads_bind reads_look fun _ _ =>
    reads_bind reads_ensure fun _ _ => reads_bind reads_exists fun found _ => ?_
  cases found with
  | true =>
    exact reads_bind reads_look fun _ _ => reads_mono reads_ensure fun _ _ => trivial
  | false => exact reads_pure trivial

theorem admitPaths_reads :
    wp (admitPaths live stage emergency)
      (Post.reads files fun _ => emergency ≠ live ∧ emergency ≠ stage ∧
        files.entry emergency = none ∧ ∀ sidecar ∈ live.sidecars, files.entry sidecar = none)
      files := by
  unfold admitPaths
  refine reads_bind reads_look fun _ _ => reads_bind reads_ensure fun _ _ =>
    reads_bind reads_exists fun taken found => reads_bind reads_ensure fun _ distinct =>
    reads_bind requirePlainIfPresent_reads fun _ _ => reads_bind reads_noSidecars fun _ bare =>
    reads_bind reads_noSidecars fun _ _ => ?_
  refine reads_mono requireSameDevice_reads fun _ _ => ?_
  obtain ⟨apartLive, apartStage, free⟩ := distinct
  rw [found, Option.isSome_eq_false_iff, Option.isNone_iff_eq_none] at free
  exact ⟨apartLive, apartStage, free, bare⟩

/-! ## Where the two databases are -/

/-- How far the command got. -/
inductive Stance where
  | intact
  | parted
  | published
  deriving DecidableEq

/-- Where the prior database and the stage, now with content `bytes`, are. -/
def Stance.Holds (live stage emergency : Path) (prior : Option Entry) (bytes : Bytes)
    (files : FileSystem) : Stance → Prop
  | .intact => files.entry live = prior ∧ files.entry stage = some (.file bytes) ∧
      files.entry emergency = none
  | .parted => files.entry live = none ∧ files.entry emergency = prior ∧
      if stage = live then prior = some (.file bytes)
      else files.entry stage = some (.file bytes)
  | .published => files.entry live = some (.file bytes) ∧ files.entry stage = none ∧
      files.entry emergency = prior

theorem admitted_intact (admitted : Admitted files live stage emergency staged) :
    Stance.intact.Holds live stage emergency (files.entry live) staged files :=
  ⟨rfl, admitted.staged, admitted.free⟩

theorem moved_aside (intact : Stance.intact.Holds live stage emergency prior bytes files)
    (apartLive : emergency ≠ live) (apartStage : emergency ≠ stage)
    (stored : files.entry live = some content) :
    Stance.parted.Holds live stage emergency prior bytes (files.moved live emergency content) := by
  obtain ⟨same, staged, _⟩ := intact
  have present : prior = some content := same.symm.trans stored
  rw [FileSystem.moved, if_neg apartLive.symm]
  refine ⟨by simp, by simp [apartLive, present], ?_⟩
  by_cases shared : stage = live
  · rw [if_pos shared, ← same, ← shared, staged]
  · rw [if_neg shared]
    simp [shared, apartStage.symm, staged]

theorem moved_published (parted : Stance.parted.Holds live stage emergency prior bytes files)
    (apart : stage ≠ live) (apartLive : emergency ≠ live) (apartStage : emergency ≠ stage)
    (stored : files.entry stage = some content) :
    Stance.published.Holds live stage emergency prior bytes (files.moved stage live content) := by
  obtain ⟨_, aside, staged⟩ := parted
  rw [if_neg apart] at staged
  have same : content = .file bytes := Option.some.inj (stored.symm.trans staged)
  rw [FileSystem.moved, if_neg apart]
  exact ⟨by simp [apart.symm, same], by simp, by simp [apartLive, apartStage, aside]⟩

theorem moved_unpublished
    (published : Stance.published.Holds live stage emergency prior bytes files)
    (apart : stage ≠ live) (apartLive : emergency ≠ live) (apartStage : emergency ≠ stage)
    (stored : files.entry live = some content) :
    Stance.parted.Holds live stage emergency prior bytes (files.moved live stage content) := by
  obtain ⟨placed, _, aside⟩ := published
  have same : content = .file bytes := Option.some.inj (stored.symm.trans placed)
  rw [FileSystem.moved, if_neg apart.symm]
  refine ⟨by simp, by simp [apartLive, apartStage, aside], ?_⟩
  rw [if_neg apart]
  simp [apart, same]

theorem moved_back (parted : Stance.parted.Holds live stage emergency prior bytes files)
    (apartLive : emergency ≠ live) (apartStage : emergency ≠ stage)
    (stored : files.entry emergency = some content) :
    Stance.intact.Holds live stage emergency prior bytes (files.moved emergency live content) := by
  obtain ⟨_, aside, staged⟩ := parted
  have present : prior = some content := aside.symm.trans stored
  rw [FileSystem.moved, if_neg apartLive]
  refine ⟨by simp [apartLive.symm, present], ?_, by simp⟩
  by_cases shared : stage = live
  · rw [if_pos shared] at staged
    simp [shared, apartLive.symm, ← present, staged]
  · rw [if_neg shared] at staged
    simp [shared, apartStage.symm, staged]

theorem parted_none (parted : Stance.parted.Holds live stage emergency none bytes files) :
    Stance.intact.Holds live stage emergency none bytes files := by
  obtain ⟨absent, aside, staged⟩ := parted
  by_cases shared : stage = live
  · rw [if_pos shared] at staged
    cases staged
  · rw [if_neg shared] at staged
    exact ⟨absent, staged, aside⟩

/-- The three paths are apart, and neither the stage nor the emergency copy is
in the place of a sidecar of the live database. -/
structure Apart (live stage emergency : Path) : Prop where
  stageLive : stage ≠ live
  emergencyLive : emergency ≠ live
  emergencyStage : emergency ≠ stage
  stageBeside : stage ∉ live.sidecars
  emergencyBeside : emergency ∉ live.sidecars

theorem Admitted.apart (admitted : Admitted files live stage emergency staged)
    (beside : emergency ∉ live.sidecars) (stageApart : stage ≠ live) :
    Apart live stage emergency := by
  refine ⟨stageApart, admitted.apartLive, admitted.apartStage, fun sidecar => ?_, beside⟩
  have absent := admitted.bare stage sidecar
  rw [admitted.staged] at absent
  cases absent

theorem touched_published {touch : Touch} (apart : Apart live stage emergency)
    (published : Stance.published.Holds live stage emergency prior bytes files) :
    Stance.published.Holds live stage emergency prior (touch.database bytes)
      (files.touched live touch) := by
  obtain ⟨placed, absent, aside⟩ := published
  refine ⟨touched_database placed, ?_, ?_⟩
  · rw [touched_other apart.stageLive apart.stageBeside]
    exact absent
  · rw [touched_other apart.emergencyLive apart.emergencyBeside]
    exact aside

/-! ## The steps of the command -/

section Command

variable {descriptor : DatabaseRestoreVerification} {digest : Bytes → String}
variable {connection : Connection DatabaseIdentity} {touches : List Touch}

/-- How the command may end once it has been admitted. -/
def settledPost (descriptor : DatabaseRestoreVerification) (live stage emergency : Path)
    (prior : Option Entry) (touches : List Touch) (staged : Bytes) :
    Post FileSystem Raised RestoreCommitResult where
  returned result now :=
    result = ⟨live, emergency, descriptor.dataInstanceId, descriptor.sha256⟩ ∧
    Stance.published.Holds live stage emergency prior (rewritten touches staged) now
  raised error now := ∃ stance : Stance, ∃ bytes, Reopened touches staged bytes ∧
    stance.Holds live stage emergency prior bytes now ∧
    (stance = .intact ∨ error = rollbackFailure)
  died now := ∃ stance : Stance, ∃ bytes, Reopened touches staged bytes ∧
    stance.Holds live stage emergency prior bytes now

/-- Bringing the prior database back ends intact, or stays parted when it fails. -/
theorem wp_moveBack_prior {post : Post FileSystem Raised Unit} (apartLive : emergency ≠ live)
    (apartStage : emergency ≠ stage) (start : Stance) (unpublished : start ≠ .published)
    (held : start.Holds live stage emergency prior bytes files)
    (returned : ∀ now, Stance.intact.Holds live stage emergency prior bytes now →
      post.returned () now)
    (raised : ∀ error, post.raised error files) (died : post.died files) :
    wp (moveBack emergency live prior.isSome) post files := by
  cases prior with
  | none =>
    cases start with
    | intact => exact wp_pure (returned files held)
    | parted => exact wp_pure (returned files (parted_none held))
    | published => exact absurd rfl unpublished
  | some content =>
    refine wp_bind (wp_pathExists died raised ?_)
    cases start with
    | intact =>
      have absent : (files.entry emergency).isSome = false := by rw [held.2.2]; rfl
      rw [absent]
      exact wp_pure (returned files held)
    | parted =>
      have present : (files.entry emergency).isSome = true := by rw [held.2.1]; rfl
      rw [present]
      exact wp_osReplace died raised fun _ stored =>
        returned _ (moved_back held apartLive apartStage stored)
    | published => exact absurd rfl unpublished

/-- The `except` block before the stage was published. -/
theorem rollBack_unpublished (apartLive : emergency ≠ live) (apartStage : emergency ≠ stage)
    (start : Stance) (unpublished : start ≠ .published) (part : Reopened touches staged bytes)
    (held : start.Holds live stage emergency prior bytes files) :
    wp (rollBack live stage emergency prior.isSome false pending)
      (settledPost descriptor live stage emergency prior touches staged) files := by
  refine wp_bind (wp_handle (wp_bind (wp_pure ?_)))
  refine wp_moveBack_prior apartLive apartStage start unpublished held ?_ ?_ ?_
  · intro now intact
    exact wp_raise ⟨.intact, bytes, part, intact, .inl rfl⟩
  · intro error
    exact wp_raise ⟨start, bytes, part, held, .inr rfl⟩
  · exact ⟨start, bytes, part, held⟩

/-- The `except` block after the stage was published. -/
theorem rollBack_published (apart : Apart live stage emergency)
    (part : Reopened touches staged bytes)
    (held : Stance.published.Holds live stage emergency prior bytes files) :
    wp (rollBack live stage emergency prior.isSome true pending)
      (settledPost descriptor live stage emergency prior touches staged) files := by
  have present : (files.entry live).isSome = true := by rw [held.1]; rfl
  have failed : ∃ stance : Stance, ∃ bytes, Reopened touches staged bytes ∧
      stance.Holds live stage emergency prior bytes files ∧
      (stance = .intact ∨ rollbackFailure = rollbackFailure) :=
    ⟨.published, bytes, part, held, .inr rfl⟩
  have cut : ∃ stance : Stance, ∃ bytes, Reopened touches staged bytes ∧
      stance.Holds live stage emergency prior bytes files :=
    ⟨.published, bytes, part, held⟩
  refine wp_bind (wp_handle (wp_bind (wp_bind (wp_pathExists cut (fun _ => wp_raise failed) ?_))))
  rw [present]
  refine wp_osReplace cut (fun _ => wp_raise failed) fun content stored => ?_
  have parted := moved_unpublished held apart.stageLive apart.emergencyLive apart.emergencyStage stored
  refine wp_moveBack_prior apart.emergencyLive apart.emergencyStage .parted (by decide) parted
    ?_ ?_ ?_
  · intro now intact
    exact wp_raise ⟨.intact, bytes, part, intact, .inl rfl⟩
  · intro error
    exact wp_raise ⟨.parted, bytes, part, parted, .inr rfl⟩
  · exact ⟨.parted, bytes, part, parted⟩

theorem confirmPublished_settles (apart : Apart live stage emergency)
    (held : Stance.published.Holds live stage emergency prior staged files) :
    wp (handle (confirmPublished digest descriptor live emergency descriptor.sha256 connection)
        fun pending => rollBack live stage emergency prior.isSome true pending)
      (settledPost descriptor live stage emergency prior connection.touches staged) files := by
  have start := reopened_none connection.touches staged
  refine wp_handle (wp_reads_bind reads_sha256 (fun published _ => ?_)
    (fun _ => rollBack_published apart start held) ⟨.published, staged, start, held⟩)
  refine wp_reads_bind reads_ensure (fun _ equal => ?_)
    (fun _ => rollBack_published apart start held) ⟨.published, staged, start, held⟩
  refine wp_bind (wp_bind (wp_touchAll staged
    (fun bytes now => Stance.published.Holds live stage emergency prior bytes now)
    (fun _ _ _ => touched_published apart) held ?_ ?_ ?_))
  · intro now reopened
    have whole : Reopened connection.touches staged (rewritten connection.touches staged) :=
      ⟨_, List.prefix_rfl, rfl⟩
    refine wp_check (fun error _ => rollBack_published apart whole reopened) fun identity _ => ?_
    refine wp_reads_bind reads_ensure (fun _ known => ?_)
      (fun _ => rollBack_published apart whole reopened)
      ⟨.published, _, whole, reopened⟩
    refine wp_pure ⟨?_, reopened⟩
    rw [known, equal]
  · intro error now bytes part reopened
    exact rollBack_published apart part reopened
  · intro now bytes part reopened
    exact ⟨.published, bytes, part, reopened⟩

theorem exchange_settles
    (admitted : Admitted files live descriptor.stagePath emergency staged)
    (beside : emergency ∉ live.sidecars) :
    wp (exchange digest descriptor live emergency descriptor.sha256 (files.entry live).isSome
        connection)
      (settledPost descriptor live descriptor.stagePath emergency (files.entry live)
        connection.touches staged) files := by
  generalize named : descriptor.stagePath = stage at admitted
  rw [exchange, named]
  have start := reopened_none connection.touches staged
  have intact := admitted_intact admitted
  -- publishing the stage from a state where the live path is free
  have publish : ∀ now, Stance.parted.Holds live stage emergency (files.entry live) staged now →
      wp (osReplace stage live)
        ⟨fun value now => Stance.published.Holds live stage emergency (files.entry live) staged now ∧
            stage ≠ live,
          fun error now => Stance.parted.Holds live stage emergency (files.entry live) staged now,
          fun now => Stance.parted.Holds live stage emergency (files.entry live) staged now⟩ now := by
    intro now parted
    refine wp_osReplace parted (fun _ => parted) fun content stored => ?_
    have apart : stage ≠ live := by
      rintro rfl
      rw [parted.1] at stored
      cases stored
    exact ⟨moved_published parted apart admitted.apartLive admitted.apartStage stored, apart⟩
  have confirm : ∀ now, Stance.published.Holds live stage emergency (files.entry live) staged now ∧
      stage ≠ live → wp (handle
          (confirmPublished digest descriptor live emergency descriptor.sha256 connection)
          fun pending => rollBack live stage emergency (files.entry live).isSome true pending)
        (settledPost descriptor live stage emergency (files.entry live) connection.touches staged)
        now :=
    fun now ⟨published, apart⟩ => confirmPublished_settles (admitted.apart beside apart) published
  have undo : ∀ pending (stance : Stance) now, stance ≠ .published →
      stance.Holds live stage emergency (files.entry live) staged now →
      wp (rollBack live stage emergency (files.entry live).isSome false pending)
        (settledPost descriptor live stage emergency (files.entry live) connection.touches staged)
        now :=
    fun pending stance now unpublished held =>
      rollBack_unpublished admitted.apartLive admitted.apartStage stance unpublished start held
  refine wp_bind (wp_caught (wp_bind ?_))
  cases present : files.entry live with
  | none =>
    rw [present] at intact publish confirm undo
    have parted : Stance.parted.Holds live stage emergency none staged files := by
      refine ⟨intact.1, intact.2.2, ?_⟩
      have apart : stage ≠ live := by
        rintro rfl
        rw [admitted.staged] at present
        cases present
      rw [if_neg apart]
      exact admitted.staged
    refine wp_pure (wp_mono (publish files parted) (fun _ => confirm) (fun error now held => ?_)
      (fun now held => ⟨.parted, staged, start, held⟩))
    exact undo error .parted now (by decide) held
  | some content =>
    rw [present] at intact publish confirm undo
    refine wp_osReplace ⟨.intact, staged, start, intact⟩
      (fun error => undo error .intact files (by decide) intact) fun found stored => ?_
    have parted := moved_aside intact admitted.apartLive admitted.apartStage stored
    refine wp_mono (publish _ parted) (fun _ => confirm) (fun error now held => ?_)
      (fun now held => ⟨.parted, staged, start, held⟩)
    exact undo error .parted now (by decide) held

/-- How the whole command may end. -/
def replacedPost (digest : Bytes → String) (files : FileSystem)
    (descriptor : DatabaseRestoreVerification) (live emergency : Path) (touches : List Touch) :
    Post FileSystem Raised RestoreCommitResult :=
  let settled staged := settledPost descriptor live descriptor.stagePath emergency
    (files.entry live) touches staged
  let admitted staged := files.entry descriptor.stagePath = some (.file staged) ∧
    digest staged = descriptor.sha256
  { returned := fun result now => ∃ staged, admitted staged ∧ (settled staged).returned result now
    raised := fun error now => now = files ∨ ∃ staged, admitted staged ∧
      (settled staged).raised error now
    died := fun now => now = files ∨ ∃ staged, admitted staged ∧ (settled staged).died now }

theorem replacement_settles {provider : BackupSnapshotProvider}
    (beside : emergency ∉ provider.livePath.sidecars) :
    wp (replaceLiveDatabaseFromVerifiedStage digest provider descriptor emergency connection)
      (replacedPost digest files descriptor provider.livePath emergency connection.touches)
      files := by
  refine wp_reads_bind admitStage_reads ?_ (fun _ => .inl rfl) (.inl rfl)
  rintro sha256 ⟨rfl, staged, stored, same⟩
  refine wp_reads_bind admitPaths_reads ?_ (fun _ => .inl rfl) (.inl rfl)
  rintro _ ⟨apartLive, apartStage, free, bare⟩
  refine wp_reads_bind reads_exists ?_ (fun _ => .inl rfl) (.inl rfl)
  rintro _ rfl
  refine wp_mono (exchange_settles ⟨stored, free, apartLive, apartStage, bare⟩ beside) ?_ ?_ ?_
  · exact fun result now settled => ⟨staged, ⟨stored, same.symm⟩, settled⟩
  · exact fun error now settled => .inr ⟨staged, ⟨stored, same.symm⟩, settled⟩
  · exact fun now settled => .inr ⟨staged, ⟨stored, same.symm⟩, settled⟩

end Command

/-! ## The next start -/

section Start

variable {startup : Startup} {path : Path} {content : Option Entry}

/-- The start has nothing to do with this path. -/
structure Untouched (startup : Startup) (path : Path) : Prop where
  canonical : path ≠ startup.canonical
  beside : path ∉ startup.canonical.sidecars
  temporary : path ∉ startup.temporary :: startup.temporary.sidecars

theorem put_kept (apart : path ≠ other) (kept : files.entry path = content)
    (written : Option Entry) : (files.put other written).entry path = content := by
  simp [apart, kept]

theorem touchAll_keeps (apart : path ≠ other) (beside : path ∉ other.sidecars)
    (kept : files.entry path = content) :
    wp (touchAll other touches) (Post.always fun now => now.entry path = content) files := by
  refine wp_touchAll [] (fun _ now => now.entry path = content) (fun touch _ now held => ?_) kept
    (fun _ held => held) (fun _ _ _ _ held => held) (fun _ _ _ held => held)
  rw [touched_other apart beside]
  exact held

theorem runConnection_keeps (apart : path ≠ other) (beside : path ∉ other.sidecars)
    (kept : files.entry path = content) :
    wp (runConnection other connection) (Post.always fun now => now.entry path = content) files :=
  wp_always_bind (touchAll_keeps apart beside kept) fun _ _ held =>
    wp_check (fun _ _ => held) fun _ _ => held

theorem discardAll_keeps (apart : path ∉ paths) (kept : files.entry path = content) :
    wp (discardAll paths) (Post.always fun now => now.entry path = content) files := by
  induction paths generalizing files with
  | nil => exact wp_pure kept
  | cons other paths ih =>
    obtain ⟨first, rest⟩ := not_or.mp (mt List.mem_cons.mpr apart)
    refine wp_always_bind (wp_handle (wp_operation kept (fun _ _ => wp_pure kept)
      (fun _ _ => wp_pure kept) ?_)) fun _ _ held => ih rest held
    rintro _ _ ran
    cases ran
    exact put_kept first kept none

theorem unlinkSidecars_keeps (apart : path ∉ paths) (kept : files.entry path = content) :
    wp (unlinkSidecars paths) (Post.always fun now => now.entry path = content) files := by
  induction paths generalizing files with
  | nil => exact wp_pure kept
  | cons other paths ih =>
    obtain ⟨first, rest⟩ := not_or.mp (mt List.mem_cons.mpr apart)
    refine wp_always_bind (wp_operation kept (fun _ _ => kept) (fun _ _ => kept) ?_)
      fun _ _ held => ih rest held
    rintro _ _ ran
    cases ran
    exact put_kept first kept none

theorem buildClean_keeps (untouched : Untouched startup path) (kept : files.entry path = content) :
    wp (buildClean startup) (Post.always fun now => now.entry path = content) files := by
  obtain ⟨canonical, beside, temporary⟩ := untouched
  obtain ⟨apart, sidecar⟩ := not_or.mp (mt List.mem_cons.mpr temporary)
  refine wp_always_bind (wp_operation kept (fun _ _ => kept) (fun _ _ => kept) ?_) fun _ _ held =>
    wp_always_bind (runConnection_keeps apart sidecar held) fun _ _ held =>
    wp_always_bind (unlinkSidecars_keeps sidecar held) fun _ now held => ?_
  · rintro _ _ ran
    cases ran
    exact put_kept apart kept _
  · refine wp_always_bind (wp_osReplace held (fun _ => held) fun found _ => ?_) fun _ _ held =>
      wp_always_bind (runConnection_keeps canonical beside held) fun _ _ held => wp_pure held
    unfold FileSystem.moved
    split
    · exact held
    · exact put_kept apart (put_kept canonical held _) _

theorem initializeClean_keeps (untouched : Untouched startup path)
    (kept : files.entry path = content) :
    wp (initializeClean startup) (Post.always fun now => now.entry path = content) files := by
  refine wp_reads_bind reads_look (fun _ _ => ?_) (fun _ => kept) kept
  refine wp_reads_bind reads_ensure (fun _ _ => ?_) (fun _ => kept) kept
  refine wp_handle (wp_mono (buildClean_keeps untouched kept) (fun _ _ held => held)
    (fun pending now held => ?_) fun _ held => held)
  exact wp_always_bind (discardAll_keeps untouched.temporary held) fun _ _ held => wp_raise held

/-- An existing live database is migrated in place, never replaced. -/
theorem initializeOrMigrate_existing
    (present : files.entry startup.canonical = some (.file bytes)) :
    wp (initializeOrMigrate startup) (Post.always fun now => ∃ bytes',
      Reopened startup.existing.touches bytes bytes' ∧
        now.entry startup.canonical = some (.file bytes')) files := by
  have start : ∃ bytes', Reopened startup.existing.touches bytes bytes' ∧
      files.entry startup.canonical = some (.file bytes') :=
    ⟨bytes, reopened_none _ bytes, present⟩
  refine wp_reads_bind reads_ensure (fun _ _ => ?_) (fun _ => start) start
  refine wp_reads_bind reads_check (fun _ _ => ?_) (fun _ => start) start
  refine wp_reads_bind reads_exists (fun found same => ?_) (fun _ => start) start
  rw [same, present]
  refine wp_always_bind (wp_bind (wp_touchAll bytes
    (fun bytes now => now.entry startup.canonical = some (.file bytes))
    (fun _ _ _ => touched_database) present ?_ ?_ ?_)) fun _ _ held => wp_pure held
  · intro now migrated
    have whole : ∃ bytes', Reopened startup.existing.touches bytes bytes' ∧
        now.entry startup.canonical = some (.file bytes') :=
      ⟨_, ⟨_, List.prefix_rfl, rfl⟩, migrated⟩
    exact wp_check (fun _ _ => whole) fun _ _ => whole
  · exact fun _ now bytes' part migrated => ⟨bytes', part, migrated⟩
  · exact fun now bytes' part migrated => ⟨bytes', part, migrated⟩

theorem initializeOrMigrate_absent (absent : files.entry startup.canonical = none)
    (untouched : Untouched startup path) (kept : files.entry path = content) :
    wp (initializeOrMigrate startup) (Post.always fun now => now.entry path = content) files := by
  refine wp_reads_bind reads_ensure (fun _ _ => ?_) (fun _ => kept) kept
  refine wp_reads_bind reads_check (fun _ _ => ?_) (fun _ => kept) kept
  refine wp_reads_bind reads_exists (fun found same => ?_) (fun _ => kept) kept
  rw [same, absent]
  exact initializeClean_keeps untouched kept

end Start

/-! ## The command and the start after it -/

/-- **Restore replacement**, at every point it may fail or be cut off. The prior
database and the verified stage are always in one of three stances, of which
only `published` survives a return and only `intact` an exception other than a
failed rollback; a live path is missing only while the prior database is at the
emergency path. The next start migrates a live database it finds in place, and
where it finds none it leaves the prior database at the emergency path. -/
theorem restore_replacement (digest : Bytes → String) (provider : BackupSnapshotProvider)
    (descriptor : DatabaseRestoreVerification) (emergency : Path)
    (connection : Connection DatabaseIdentity)
    (beside : emergency ∉ provider.livePath.sidecars) (files : FileSystem) (fates : List Fate) :
    let live := provider.livePath
    let stage := descriptor.stagePath
    let prior := files.entry live
    let ended := replaceLiveDatabaseFromVerifiedStage digest provider descriptor emergency
      connection ⟨files, fates⟩
    let now := ended.2.disk
    let Verified staged := files.entry stage = some (.file staged) ∧
      digest staged = descriptor.sha256
    (∀ result, ended.1 = .returned result → ∃ staged, Verified staged ∧
      result = ⟨live, emergency, descriptor.dataInstanceId, descriptor.sha256⟩ ∧
      Stance.published.Holds live stage emergency prior (rewritten connection.touches staged) now) ∧
    (∀ error, ended.1 = .raised error → error ≠ rollbackFailure → now = files ∨
      ∃ staged bytes, Verified staged ∧ Reopened connection.touches staged bytes ∧
        Stance.intact.Holds live stage emergency prior bytes now) ∧
    (now = files ∨ ∃ staged bytes, ∃ stance : Stance, Verified staged ∧
      Reopened connection.touches staged bytes ∧ stance.Holds live stage emergency prior bytes now) ∧
    ∀ startup later, startup.canonical = live →
      (∀ path ∈ startup.temporary :: startup.temporary.sidecars, now.entry path = none) →
      let next := (initializeOrMigrate startup ⟨now, later⟩).2.disk
      (∀ bytes, now.entry live = some (.file bytes) → ∃ bytes',
        Reopened startup.existing.touches bytes bytes' ∧
        next.entry live = some (.file bytes')) ∧
      (∀ content, prior = some content → now.entry live = none →
        next.entry emergency = some content) := by
  intro live stage prior ended now Verified
  have settled : (replacedPost digest files descriptor live emergency connection.touches).holds
      ended.1 now := wp_run (replacement_settles beside) fates
  have placed : now = files ∨ ∃ staged bytes, ∃ stance : Stance, Verified staged ∧
      Reopened connection.touches staged bytes ∧
      stance.Holds live stage emergency prior bytes now := by
    cases outcome : ended.1 with
    | returned result =>
      rw [outcome] at settled
      obtain ⟨staged, verified, _, published⟩ := settled
      exact .inr ⟨staged, _, .published, verified, ⟨_, List.prefix_rfl, rfl⟩, published⟩
    | raised error =>
      rw [outcome] at settled
      obtain same | ⟨staged, verified, stance, bytes, part, held, _⟩ := settled
      · exact .inl same
      · exact .inr ⟨staged, bytes, stance, verified, part, held⟩
    | died =>
      rw [outcome] at settled
      obtain same | ⟨staged, verified, stance, bytes, part, held⟩ := settled
      · exact .inl same
      · exact .inr ⟨staged, bytes, stance, verified, part, held⟩
  refine ⟨fun result returned => ?_, fun error raised sound => ?_, placed, ?_⟩
  · rw [returned] at settled
    obtain ⟨staged, verified, answer, published⟩ := settled
    exact ⟨staged, verified, answer, published⟩
  · rw [raised] at settled
    obtain same | ⟨staged, verified, stance, bytes, part, held, rolledBack⟩ := settled
    · exact .inl same
    · obtain rfl | failed := rolledBack
      · exact .inr ⟨staged, bytes, verified, part, held⟩
      · exact absurd failed sound
  · intro startup later same unused next
    have existing : ∀ bytes, now.entry live = some (.file bytes) → ∃ bytes',
        Reopened startup.existing.touches bytes bytes' ∧
        next.entry live = some (.file bytes') := by
      rw [← same]
      exact fun bytes present => wp_always (initializeOrMigrate_existing present) later
    refine ⟨existing, fun content existed absent => ?_⟩
    have aside : now.entry emergency = some content := by
      obtain unchanged | ⟨_, _, stance, _, _, held⟩ := placed
      · rw [unchanged] at absent
        cases absent.symm.trans existed
      · cases stance with
        | intact => cases absent.symm.trans (held.1.trans existed)
        | parted => exact held.2.1.trans existed
        | published => cases absent.symm.trans held.1
    have apart : emergency ≠ live := by
      rintro rfl
      cases absent.symm.trans aside
    refine wp_always (initializeOrMigrate_absent (same ▸ absent)
      ⟨same ▸ apart, same ▸ beside, fun member => ?_⟩ aside) later
    cases (unused _ member).symm.trans aside

/-! ## A small restore, to run the command on -/

def sampleLive : Path := ⟨"/data", "soma.db"⟩
def sampleStage : Path := ⟨"/data", "stage.db"⟩
def sampleEmergency : Path := ⟨"/data", "prior.db"⟩

def sampleFiles : FileSystem where
  entry path := if path = sampleLive then some (.file [1])
    else if path = sampleStage then some (.file [2]) else none
  device directory := if directory = "/data" then some 0 else none

def sampleStageDigest : String := "dbc1b4c900ffe48d575b5da5c638040125f65db0fe3e24494b76ea986457d986"

def sampleRestore (fates : List Fate) : Outcome Raised RestoreCommitResult × World FileSystem Fate :=
  replaceLiveDatabaseFromVerifiedStage (fun _ => sampleStageDigest)
    ⟨sampleLive, true, [(sampleStage, sampleStageDigest)]⟩
    ⟨sampleStage, 1, sampleStageDigest, "3f2b8c1e-9d4a-4c7f-8a6b-0123456789ab", 1, none, "VERIFIED"⟩
    sampleEmergency
    ⟨[], .ok ⟨"3f2b8c1e-9d4a-4c7f-8a6b-0123456789ab", 1, none⟩⟩ ⟨sampleFiles, fates⟩

def sampleAnswer : RestoreCommitResult :=
  ⟨sampleLive, sampleEmergency, "3f2b8c1e-9d4a-4c7f-8a6b-0123456789ab", sampleStageDigest⟩

/-- An uninterrupted restore publishes the stage and keeps the prior database. -/
theorem restored_sample :
    (sampleRestore []).2.disk.entry sampleLive = some (.file [2]) ∧
    (sampleRestore []).2.disk.entry sampleEmergency = some (.file [1]) := by
  have returned : (sampleRestore []).1 = .returned sampleAnswer := by decide +kernel
  obtain ⟨staged, ⟨stored, _⟩, _, published⟩ :=
    (restore_replacement (fun _ => sampleStageDigest)
      ⟨sampleLive, true, [(sampleStage, sampleStageDigest)]⟩
      ⟨sampleStage, 1, sampleStageDigest, "3f2b8c1e-9d4a-4c7f-8a6b-0123456789ab", 1, none,
        "VERIFIED"⟩
      sampleEmergency ⟨[], .ok ⟨"3f2b8c1e-9d4a-4c7f-8a6b-0123456789ab", 1, none⟩⟩ (by decide)
      sampleFiles []).1 sampleAnswer returned
  have same : staged = [2] := by
    have expected : sampleFiles.entry sampleStage = some (.file [2]) := by decide
    exact Entry.file.inj (Option.some.inj (stored.symm.trans expected))
  rw [same] at published
  exact ⟨published.1, published.2.2⟩

/-- A start on the sample directory whose clean database reads `[9]`. -/
def sampleStartup : Startup where
  canonical := sampleLive
  owned := true
  manifest := .ok ()
  entries := 0
  temporary := ⟨"/data", ".soma.db.init-3f2b8c1e-9d4a-4c7f-8a6b-0123456789ab.tmp"⟩
  existing := ⟨[], .ok ()⟩
  building := ⟨[⟨fun _ => [9], fun _ entry => entry⟩], .ok ()⟩
  configuring := ⟨[], .ok ()⟩

/-- A process that dies between the two renames leaves no live database, and the
next start puts a clean one in its place. -/
theorem death_between_renames :
    let cut := (sampleRestore (List.replicate 15 .completes ++ [.dies])).2.disk
    sampleFiles.entry sampleLive = some (.file [1]) ∧ cut.entry sampleLive = none ∧
    (initializeOrMigrate sampleStartup ⟨cut, []⟩).2.disk.entry sampleLive = some (.file [9]) := by
  decide +kernel

end Soma.Foundation
