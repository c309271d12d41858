import Soma.Runtime.Ownership

/-!
`_close_runtime_resources`, stage by stage. Each stage either releases its
resource or has the ownership retained, and a later stage keeps what an earlier
one released (`Closing`); so the lock, whose stage comes last, is released only
after everything else (`closeRuntimeResources_owned`).
-/

namespace Soma.Runtime

open Crash Foundation Programs

/-- What the stages before the lock release. -/
inductive Resource where
  | pool (pool : Pool)
  | server
  | loopback
  | writes
  | security
  | registry
  deriving DecidableEq

def Resource.Released (host : Host) : Resource → Prop
  | .pool name => host.runtime.executor name = none
  | .server => host.runtime.serverStarted = false
  | .loopback => host.runtime.loopbackBound = false
  | .writes => host.gate.active = 0
  | .security => host.runtime.securityStarted = false
  | .registry => host.runtime.registryPublished = false

variable {Result : Type} {host next : Host} {quiet : Prop} {cleanup : Cleanup}
variable {done : List Resource}

/-- A cleanup in progress, after the stages of `done`. -/
structure Closing (quiet : Prop) (done : List Resource) (cleanup : Cleanup) (host : Host) :
    Prop where
  owned : Owned host
  closed : host.gate.accepting = false
  released : cleanup.retain = false → ∀ resource ∈ done, resource.Released host
  noted : cleanup.retain = true → cleanup.failures ≠ []
  clean : quiet → cleanup.failures = []

theorem Closing.follows (closing : Closing quiet done cleanup host) (follows : Follows host next) :
    Closing quiet done cleanup next := by
  refine ⟨closing.owned.follows follows, follows.accepting.trans closing.closed,
    fun kept resource member => ?_, closing.noted, closing.clean⟩
  have released := closing.released kept resource member
  cases resource with
  | writes =>
    have bound := follows.writers closing.closed
    have none : host.gate.active = 0 := released
    change next.gate.active = 0
    omega
  | pool | server | loopback | security | registry =>
    simp only [Resource.Released, follows.runtime] at released ⊢
    exact released

/-- A stage that fails and retains ownership is in keeping with any cleanup that is not quiet. -/
theorem closing_failed (owned : Owned host) (closed : host.gate.accepting = false)
    (noisy : ¬ quiet) (stage : String) : Closing quiet done (cleanup.failRetaining stage) host :=
  ⟨owned, closed, (fun kept => by cases kept), (fun _ => by simp [Cleanup.failRetaining]),
    fun calm => absurd calm noisy⟩

/-- One more resource is released, and none of the others is taken back. -/
theorem Closing.release (closing : Closing quiet done cleanup host) (owned : Owned next)
    (closed : next.gate.accepting = false) (resource : Resource)
    (released : cleanup.retain = false → resource.Released next)
    (kept : ∀ other : Resource, other.Released host → other.Released next) :
    Closing quiet (resource :: done) cleanup next := by
  refine ⟨owned, closed, fun sound other member => ?_, closing.noted, closing.clean⟩
  obtain rfl | earlier := List.mem_cons.mp member
  · exact released sound
  · exact kept other (closing.released sound other earlier)

/-- How a stage may end. -/
def closingPost (quiet : Prop) (done : List Resource) : Post Host Raised Cleanup where
  returned := Closing quiet done
  raised _ _ := False
  died now := ¬ quiet ∧ Safe now

theorem wp_stage {name : String} {body : HostProgram Result} {rest : Result → HostProgram Cleanup}
    (ran : wpOf (Allowed quiet) body
      ⟨fun value => wpOf (Allowed quiet) (rest value) (closingPost quiet done),
        fun _ now => ¬ quiet ∧ Owned now ∧ now.gate.accepting = false,
        fun now => ¬ quiet ∧ Safe now⟩ host) :
    wpOf (Allowed quiet) (stage name cleanup body rest) (closingPost quiet done) host := by
  refine wp_bind (wp_caught (wp_mono ran (fun _ _ held => held) ?_ (fun _ died => died)))
  rintro error now ⟨noisy, owned, closed⟩
  exact wp_pure (closing_failed owned closed noisy name)

theorem Closing.wp_call (closing : Closing quiet done cleanup host)
    {effect : Turn → Host → Except Raised (Result × Host)} {post : Result → Host → Prop}
    (completed : ∀ turn next, Allowed quiet turn → Follows host next →
      ∃ value now, effect turn next = .ok (value, now) ∧ post value now) :
    wpOf (Allowed quiet) (call effect) ⟨post,
      fun _ now => ¬ quiet ∧ Owned now ∧ now.gate.accepting = false,
      fun now => ¬ quiet ∧ Safe now⟩ host := by
  refine Runtime.wp_call (fun noisy next follows => ⟨noisy, (closing.owned.follows follows).safe⟩)
    (fun noisy turn next _ follows => ⟨noisy, closing.owned.follows follows,
      follows.accepting.trans closing.closed⟩) fun turn next allow follows => ?_
  obtain ⟨value, now, ran, held⟩ := completed turn next allow follows
  rw [ran]
  exact held

theorem Closing.wp_step (closing : Closing quiet done cleanup host) {change : Host → Host}
    {post : Post Host Raised Unit} (died : ∀ now, ¬ quiet ∧ Safe now → post.died now)
    (returned : ∀ next, Follows host next → post.returned () (change next)) :
    wpOf (Allowed quiet) (step change) post host :=
  Runtime.wp_step (fun noisy next follows =>
    died next ⟨noisy, (closing.owned.follows follows).safe⟩) returned

/-! ## The stages -/

theorem Closing.poolQuiesced (closing : Closing quiet done cleanup host) (pool : Pool) :
    Closing quiet done cleanup { host with runtime := host.runtime.quiesced pool } := by
  refine ⟨closing.owned.poolQuiesced pool, closing.closed, fun kept resource member => ?_,
    closing.noted, closing.clean⟩
  have released := closing.released kept resource member
  cases resource with
  | pool other =>
    change (host.runtime.quiesced pool).executor other = none
    have absent : host.runtime.executor other = none := released
    simp only [HostRuntime.quiesced, HostRuntime.setExecutor]
    split
    · rename_i same
      rw [← same, absent]
      rfl
    · exact absent
  | server | loopback | writes | security | registry => exact released

theorem quiescePool_closing (pool : Pool) (closing : Closing quiet done cleanup host) :
    wpOf (Allowed quiet) (quiescePool pool cleanup) (closingPost quiet done) host := by
  refine wp_bind (wp_observe ?_)
  dsimp only
  split
  · refine wp_stage (closing.wp_call fun turn next allow follows => ⟨(), _, rfl, wp_pure ?_⟩)
    exact (closing.follows follows).poolQuiesced pool
  · exact wp_pure closing

section

variable (closing : Closing quiet done cleanup host)

include closing

theorem Closing.note (noisy : ¬ quiet) (stage : String) :
    Closing quiet done (cleanup.fail stage) host :=
  ⟨closing.owned, closing.closed, closing.released, (fun _ => by simp [Cleanup.fail]),
    fun calm => absurd calm noisy⟩

theorem requestStop_closing : wpOf (Allowed quiet) (requestStop cleanup)
      ⟨fun cleanup now => Closing quiet done cleanup now ∧ (quiet → now.serverRunning = false),
        fun _ _ => False, fun now => ¬ quiet ∧ Safe now⟩ host := by
  refine wp_bind (wp_caught (Runtime.wp_call
    (fun noisy next follows => ⟨noisy, (closing.owned.follows follows).safe⟩) ?_ ?_))
  · intro noisy turn next _ follows
    exact wp_pure ⟨(closing.follows follows).note noisy _, fun calm => absurd calm noisy⟩
  · intro turn next allow follows
    have later := closing.follows follows
    refine wp_pure ⟨⟨{ later.owned with server := fun running => ?_ }, later.closed,
      fun kept resource member => ?_, later.noted, later.clean⟩, fun calm => ?_⟩
    · exact later.owned.server (Bool.and_eq_true_iff.mp running).1
    · have released := later.released kept resource member
      cases resource <;> exact released
    · simp [settle, (allow.2 calm).2]

/-- `_server_is_stopped`, which believes only a probe that answers. -/
theorem serverIsStopped_closing (stopped : quiet → host.serverRunning = false) :
    wpOf (Allowed quiet) serverIsStopped
      ⟨fun answer now => Closing quiet done cleanup now ∧
          (answer = true → now.serverRunning = false) ∧ (quiet → answer = true),
        fun _ _ => False, fun now => ¬ quiet ∧ Safe now⟩ host := by
  refine wp_handle (Runtime.wp_call
    (fun noisy next follows => ⟨noisy, (closing.owned.follows follows).safe⟩) ?_ ?_)
  · intro noisy turn next _ follows
    exact wp_pure ⟨closing.follows follows, (fun answer => by cases answer),
      fun calm => absurd calm noisy⟩
  · intro turn next allow follows
    refine ⟨closing.follows follows, fun answer => ?_, fun calm => ?_⟩
    · simpa [settle] using answer
    · have silent : next.serverRunning = false := by
        refine Bool.eq_false_iff.mpr fun running => ?_
        cases (stopped calm).symm.trans (follows.server running)
      simp [silent]

theorem confirmStopped_closing (stopped : quiet → host.serverRunning = false) :
    wpOf (Allowed quiet) (confirmStopped cleanup) (closingPost quiet (.server :: done)) host := by
  refine wp_bind (wp_mono (serverIsStopped_closing closing stopped) ?_
    (fun _ _ impossible => impossible) (fun _ died => died))
  rintro answer now ⟨closing, ended, calm⟩
  cases answer with
  | true =>
    refine wp_bind (closing.wp_step (fun _ died => died) fun last follows => wp_pure ?_)
    have latest := closing.follows follows
    have silent : last.serverRunning = false := by
      refine Bool.eq_false_iff.mpr fun running => ?_
      cases (ended rfl).symm.trans (follows.server running)
    refine latest.release (latest.owned.serverClosed silent) latest.closed .server
      (fun _ => rfl) fun resource released => ?_
    cases resource <;> first | rfl | exact released
  | false =>
    refine wp_pure (closing_failed closing.owned closing.closed (fun quiet => ?_) _)
    cases calm quiet

theorem closeServer_closing :
    wpOf (Allowed quiet) (closeServer cleanup) (closingPost quiet (.server :: done)) host := by
  refine wp_bind (wp_observe ?_)
  dsimp only
  split
  · refine wp_bind (wp_mono (requestStop_closing closing) ?_ (fun _ _ impossible => impossible)
      (fun _ died => died))
    rintro cleanup now ⟨closing, stopped⟩
    exact confirmStopped_closing closing stopped
  · rename_i unmarked
    exact wp_pure (closing.release closing.owned closing.closed .server
      (fun _ => Bool.eq_false_iff.mpr unmarked) fun _ released => released)

theorem closeLoopback_closing :
    wpOf (Allowed quiet) (closeLoopback cleanup) (closingPost quiet (.loopback :: done)) host := by
  refine wp_bind (wp_observe ?_)
  dsimp only
  split
  · refine wp_stage (closing.wp_call fun turn next allow follows => ⟨(), _, rfl, ?_⟩)
    have later := closing.follows follows
    refine wp_bind (later.wp_step (fun _ died => died) fun last follows => wp_pure ?_)
    have latest := later.follows follows
    refine latest.release latest.owned.loopbackClosed latest.closed .loopback (fun _ => rfl) ?_
    intro resource released
    cases resource <;> first | rfl | exact released
  · rename_i unmarked
    exact wp_pure (closing.release closing.owned closing.closed .loopback
      (fun _ => Bool.eq_false_iff.mpr unmarked) fun _ released => released)

end

theorem quiesced_closed (runtime : HostRuntime) (pool : Pool) :
    ((runtime.quiesced pool).executor pool).any (·.accepting) = false := by
  simp only [HostRuntime.quiesced, HostRuntime.setExecutor, if_true]
  cases runtime.executor pool <;> rfl

/-- A pool that admits nothing reports drained exactly when nothing is outstanding in it. -/
theorem drainExecutor_closing (closing : Closing quiet done cleanup host)
    (shut : (host.runtime.executor pool).any (·.accepting) = false) :
    wpOf (Allowed quiet) (drainExecutor pool)
      ⟨fun drained now => Closing quiet done cleanup now ∧ (drained = true → now.outstanding pool = 0) ∧
          (now.runtime.executor pool).any (·.accepting) = false ∧ (quiet → drained = true),
        fun _ now => ¬ quiet ∧ Owned now ∧ now.gate.accepting = false,
        fun now => ¬ quiet ∧ Safe now⟩ host := by
  refine closing.wp_call fun turn next allow follows => ⟨_, _, rfl, ?_⟩
  have later := closing.follows follows
  have still : (next.runtime.executor pool).any (·.accepting) = false := by
    rw [follows.runtime]
    exact shut
  cases timely : turn.timely with
  | true =>
    have drains : Follows next (next.setOutstanding pool 0) :=
      setOutstanding_follows fun _ => Nat.zero_le _
    exact ⟨later.follows drains, fun drained => by simpa using drained, still,
      fun _ => by simp [Host.setOutstanding]⟩
  | false =>
    refine ⟨later, fun drained => by simpa using drained, still, fun calm => ?_⟩
    cases timely.symm.trans (allow.2 calm).2

theorem closeExecutor_closing (pool : Pool) (closing : Closing quiet done cleanup host) :
    wpOf (Allowed quiet) (closeExecutor pool cleanup) (closingPost quiet (.pool pool :: done))
      host := by
  refine wp_bind (wp_observe ?_)
  dsimp only
  split
  · refine wp_stage (closing.wp_call fun turn next allow follows => ⟨(), _, rfl, ?_⟩)
    have later := (closing.follows follows).poolQuiesced pool
    refine wp_stage (wp_mono (drainExecutor_closing later (quiesced_closed next.runtime pool)) ?_
      (fun _ _ failed => failed) (fun _ died => died))
    rintro drained now ⟨closing, empty, shut, calm⟩
    cases drained with
    | false =>
      refine wp_pure (closing_failed closing.owned closing.closed (fun quiet => ?_) _)
      cases calm quiet
    | true =>
      refine wp_bind (closing.wp_step (fun _ died => died) fun last follows => wp_pure ?_)
      have latest := closing.follows follows
      have none : last.outstanding pool = 0 := by
        have bound := follows.work pool shut
        have before := empty rfl
        omega
      refine latest.release (latest.owned.poolClosed none) latest.closed (.pool pool)
        (fun _ => by simp [Resource.Released, HostRuntime.setExecutor]) fun resource released => ?_
      cases resource with
      | pool other =>
        have absent : last.runtime.executor other = Option.none := released
        simp [Resource.Released, HostRuntime.setExecutor, absent]
      | server | loopback | writes | security | registry => exact released
  · rename_i absent
    exact wp_pure (closing.release closing.owned closing.closed (.pool pool)
      (fun _ => by simpa [Resource.Released] using absent) fun _ released => released)

/-- The writes are released once none is active, with the gate already closed. -/
theorem drainWrites_closing (closing : Closing quiet done cleanup host) :
    wpOf (Allowed quiet) (drainWrites cleanup) (closingPost quiet (.writes :: done)) host := by
  refine wp_stage (closing.wp_call fun turn next allow follows => ⟨_, _, rfl, ?_⟩)
  have later := closing.follows follows
  cases timely : turn.timely with
  | true =>
    have drains : Follows next { next with gate := { next.gate with active := 0 } } :=
      ⟨rfl, rfl, rfl, rfl, rfl, rfl, fun _ => Nat.zero_le _, fun _ _ => Nat.le_refl _,
        fun held => held⟩
    have latest := later.follows drains
    simp only [if_true, decide_true]
    refine wp_pure (latest.release latest.owned latest.closed .writes (fun _ => rfl)
      fun _ released => released)
  | false =>
    simp only [Bool.false_eq_true, if_false, decide_eq_true_eq]
    split
    · rename_i drained
      exact wp_pure (later.release later.owned later.closed .writes (fun _ => drained)
        fun _ released => released)
    · refine wp_pure (closing_failed later.owned later.closed (fun calm => ?_) _)
      cases timely.symm.trans (allow.2 calm).2

theorem closeSecurity_closing (closing : Closing quiet done cleanup host) :
    wpOf (Allowed quiet) (closeSecurity cleanup) (closingPost quiet (.security :: done)) host := by
  have unmarked : ∀ cleanup' : Cleanup, (cleanup'.retain = false →
      host.runtime.securityStarted = false) → cleanup' = cleanup →
      wpOf (Allowed quiet) (return cleanup' : HostProgram Cleanup)
        (closingPost quiet (.security :: done)) host := by
    rintro _ released rfl
    exact wp_pure (closing.release closing.owned closing.closed .security released
      fun _ held => held)
  refine wp_bind (wp_observe ?_)
  dsimp only
  split
  · rename_i run dataInstanceId current identity
    split
    · rename_i condition
      obtain ⟨sound, marked⟩ := condition
      refine wp_stage (Runtime.wp_call
        (fun noisy next follows => ⟨noisy, (closing.owned.follows follows).safe⟩) ?_ ?_)
      · intro noisy turn next _ follows
        have later := closing.follows follows
        refine ⟨noisy, later.owned.closeRefused ?_ ?_, later.closed⟩
        · rw [follows.runtime, current]
        · rw [follows.runtime, marked]
      · intro turn next allow follows
        have later := closing.follows follows
        have current' : next.runtime.runId = some run := by rw [follows.runtime, current]
        have marked' : next.runtime.securityStarted = true := by rw [follows.runtime, marked]
        have released : Closing quiet (.security :: done) cleanup { next with
            security := .closeRun run true :: next.security
            runtime := { next.runtime with securityStarted := false } } := by
          refine later.release (later.owned.securityClosed current' marked') later.closed .security
            (fun _ => rfl) fun resource held => ?_
          cases resource <;> first | rfl | exact held
        -- between the provider's answer and the cleared flag the lock is still held
        refine wp_bind (Runtime.wp_step (fun noisy last after => ⟨noisy, safe_of_held ?_ ?_ ?_⟩)
          fun last after => wp_pure (released.follows
            (after.changed ({ · with securityStarted := false }) fun _ => rfl)))
        · exact (lockHeld_congr after.runtime).mpr (later.owned.held_of_security marked')
        · intro accepted
          cases (after.accepting.trans later.closed).symm.trans accepted
        · rw [after.security]
          exact released.owned.disciplined
    · rename_i condition
      refine unmarked cleanup (fun sound => ?_) rfl
      exact Bool.eq_false_iff.mpr fun marked => condition ⟨sound, marked⟩
  · rename_i missing
    refine unmarked cleanup (fun _ => Bool.eq_false_iff.mpr fun marked => ?_) rfl
    obtain ⟨run, dataInstanceId⟩ := closing.owned.identified (.inl marked)
    obtain ⟨run, current⟩ := Option.isSome_iff_exists.mp run
    obtain ⟨dataInstanceId, identity⟩ := Option.isSome_iff_exists.mp dataInstanceId
    exact missing run dataInstanceId current identity

theorem mem_withoutRecord (member : other ∈ withoutRecord registry record) :
    other ∈ registry ∧ other ≠ record := by
  unfold withoutRecord at member
  split at member
  · cases member
  · rename_i differs
    refine ⟨member, fun same => differs ?_⟩
    rw [← same]
    exact member

theorem removeRegistry_closing (closing : Closing quiet done cleanup host) :
    wpOf (Allowed quiet) (removeRegistry cleanup) (closingPost quiet (.registry :: done)) host := by
  have unmarked : ∀ cleanup' : Cleanup, (cleanup'.retain = false →
      host.runtime.registryPublished = false) → cleanup' = cleanup →
      wpOf (Allowed quiet) (return cleanup' : HostProgram Cleanup)
        (closingPost quiet (.registry :: done)) host := by
    rintro _ released rfl
    exact wp_pure (closing.release closing.owned closing.closed .registry released
      fun _ held => held)
  refine wp_bind (wp_observe ?_)
  dsimp only
  split
  · rename_i run dataInstanceId current identity
    split
    · rename_i condition
      refine wp_stage (closing.wp_call fun turn next allow follows => ⟨(), _, rfl, ?_⟩)
      have later := closing.follows follows
      have removed : ∀ record ∈ withoutRecord next.registry ⟨run, dataInstanceId⟩,
          next.runtime.runId ≠ some record.runId := by
        intro record member same
        obtain ⟨stored, other⟩ := mem_withoutRecord member
        have mine := (later.owned.record record stored same).2
        rw [follows.runtime, identity] at mine
        rw [follows.runtime, current] at same
        apply other
        rw [Option.some.inj same, Option.some.inj mine]
      have owned : Owned
          { next with registry := withoutRecord next.registry ⟨run, dataInstanceId⟩ } :=
        { later.owned with
          record := fun record member same => absurd same (removed record member)
          recordDrawn := fun record member =>
            later.owned.recordDrawn record (mem_withoutRecord member).1 }
      have unlinked : Closing quiet done cleanup
          { next with registry := withoutRecord next.registry ⟨run, dataInstanceId⟩ } := by
        refine ⟨owned, later.closed, fun kept resource member => ?_, later.noted, later.clean⟩
        have released := later.released kept resource member
        cases resource <;> exact released
      refine wp_bind (unlinked.wp_step (fun _ died => died) fun last after => wp_pure ?_)
      have latest := unlinked.follows after
      refine latest.release (latest.owned.registryClosed ?_) latest.closed .registry
        (fun _ => rfl) fun resource released => ?_
      · rw [after.registry, after.runtime]
        exact removed
      · cases resource <;> first | rfl | exact released
    · rename_i condition
      refine unmarked cleanup (fun sound => ?_) rfl
      exact Bool.eq_false_iff.mpr fun marked => condition ⟨sound, marked⟩
  · rename_i missing
    refine unmarked cleanup (fun _ => Bool.eq_false_iff.mpr fun marked => ?_) rfl
    obtain ⟨run, dataInstanceId⟩ := closing.owned.identified (.inr marked)
    obtain ⟨run, current⟩ := Option.isSome_iff_exists.mp run
    obtain ⟨dataInstanceId, identity⟩ := Option.isSome_iff_exists.mp dataInstanceId
    exact missing run dataInstanceId current identity

/-! ## The lock, and the whole cleanup -/

/-- The stages before the lock. -/
def stages : List Resource :=
  [.registry, .security, .writes, .pool .background, .pool .request, .loopback, .server]

theorem Owned.unlocked (owned : Owned host) (closed : host.gate.accepting = false)
    (released : ∀ resource ∈ stages, resource.Released host) {lock : Option DataInstanceLock}
    (bare : lock.isSome = true → host.runtime.lock.isSome = true) :
    Owned { host with runtime := { host.runtime with lock } } :=
  { owned with
    admits := fun accepted => by cases closed.symm.trans accepted
    writers := fun _ => released .writes (by decide)
    released := fun _ => ⟨fun pool => released (.pool pool) (by cases pool <;> decide),
      released .server (by decide), released .security (by decide), released .registry (by decide)⟩
    stopped := fun stopped => by
      have none := owned.stopped stopped
      simp_all [HostRuntime.hasRuntimeResources] }

/-- How the cleanup may end. -/
def closedPost (quiet : Prop) : Post Host Raised Unit where
  returned _ now := Owned now ∧ now.gate.accepting = false ∧
    now.runtime.hasRuntimeResources = false
  raised _ now := ¬ quiet ∧ Owned now ∧ now.gate.accepting = false
  died now := ¬ quiet ∧ Safe now

/-- The lock goes last, and goes only when no stage failed. -/
theorem closeLock_closing (closing : Closing quiet stages cleanup host) :
    wpOf (Allowed quiet) (closeLock cleanup)
      ⟨fun cleanup now => Closing quiet stages cleanup now ∧
          (cleanup.failures = [] → now.runtime.lock = none),
        fun _ _ => False, fun now => ¬ quiet ∧ Safe now⟩ host := by
  refine wp_bind (wp_observe ?_)
  dsimp only
  split
  · rename_i condition
    obtain ⟨sound, present⟩ := condition
    -- with every other stage released, dropping the lock leaves nothing behind
    have dropped : ∀ (lock : Option DataInstanceLock) (now : Host),
        Closing quiet stages cleanup now →
        (lock.isSome = true → now.runtime.lock.isSome = true) →
        Closing quiet stages cleanup { now with runtime := { now.runtime with lock } } := by
      intro lock now closing bare
      refine ⟨closing.owned.unlocked closing.closed (closing.released sound) bare,
        closing.closed, fun kept resource member => ?_, closing.noted, closing.clean⟩
      have released := closing.released kept resource member
      cases resource <;> exact released
    have bare : ∀ lock : Option DataInstanceLock,
        (lock.map fun _ => (⟨false⟩ : DataInstanceLock)).isSome = true → lock.isSome = true := by
      intro lock present
      rwa [Option.isSome_map] at present
    refine wp_bind (wp_caught (Runtime.wp_call
      (fun noisy next follows => ⟨noisy, (closing.owned.follows follows).safe⟩) ?_ ?_))
    · intro noisy turn next _ follows
      have released := dropped _ next (closing.follows follows) (bare next.runtime.lock)
      exact wp_pure ⟨released.note noisy _, fun none => by simp [Cleanup.fail] at none⟩
    · intro turn next allow follows
      have released := dropped _ next (closing.follows follows) (bare next.runtime.lock)
      refine wp_bind (released.wp_step (fun _ died => died) fun last after =>
        wp_pure ⟨?_, fun _ => rfl⟩)
      exact dropped none last (released.follows after) (by simp)
  · rename_i condition
    refine wp_pure ⟨closing, fun clean => ?_⟩
    by_contra present
    refine condition ⟨?_, Option.isSome_iff_ne_none.mpr present⟩
    exact Bool.eq_false_iff.mpr fun retained => closing.noted retained clean

theorem wp_next_stage {program : HostProgram Cleanup} {rest : Cleanup → HostProgram Unit}
    (ran : wpOf (Allowed quiet) program (closingPost quiet done) host)
    (continued : ∀ cleanup now, Closing quiet done cleanup now →
      wpOf (Allowed quiet) (rest cleanup) (closedPost quiet) now) :
    wpOf (Allowed quiet) (program >>= rest) (closedPost quiet) host :=
  wp_bind (wp_mono ran continued (fun _ _ impossible => impossible.elim) fun _ died => died)

/-- Released stages and no lock: nothing of the runtime is left. -/
theorem released_bare (released : ∀ resource ∈ stages, resource.Released host)
    (unlocked : host.runtime.lock = none) : host.runtime.hasRuntimeResources = false := by
  have request : host.runtime.executor .request = none := released (.pool .request) (by decide)
  have background : host.runtime.executor .background = none :=
    released (.pool .background) (by decide)
  have server : host.runtime.serverStarted = false := released .server (by decide)
  have loopback : host.runtime.loopbackBound = false := released .loopback (by decide)
  have security : host.runtime.securityStarted = false := released .security (by decide)
  have registry : host.runtime.registryPublished = false := released .registry (by decide)
  simp [HostRuntime.hasRuntimeResources, request, background, server, loopback, security, registry,
    unlocked]

/-- **Cleanup.** It keeps every resource owned, and when it returns it has
released all of them; in quiet surroundings it returns. -/
theorem closeRuntimeResources_owned (owned : Owned host) :
    wpOf (Allowed quiet) closeRuntimeResources (closedPost quiet) host := by
  refine wp_bind (Runtime.wp_step (fun noisy next follows => ⟨noisy, (owned.follows follows).safe⟩)
    fun next follows => ?_)
  have started : Closing quiet [] {} { next with gate := next.gate.quiesce } :=
    ⟨(owned.follows follows).gateQuiesced, rfl, (fun _ _ member => by cases member),
      (fun retained => by cases retained), fun _ => rfl⟩
  refine wp_next_stage (quiescePool_closing .request started) fun _ _ closing =>
    wp_next_stage (quiescePool_closing .background closing) fun _ _ closing =>
    wp_next_stage (closeServer_closing closing) fun _ _ closing =>
    wp_next_stage (closeLoopback_closing closing) fun _ _ closing =>
    wp_next_stage (closeExecutor_closing .request closing) fun _ _ closing =>
    wp_next_stage (closeExecutor_closing .background closing) fun _ _ closing =>
    wp_next_stage (drainWrites_closing closing) fun _ _ closing =>
    wp_next_stage (closeSecurity_closing closing) fun _ _ closing =>
    wp_next_stage (removeRegistry_closing closing) fun _ _ closing => ?_
  refine wp_bind (wp_mono (closeLock_closing closing) ?_ (fun _ _ impossible => impossible.elim)
    fun _ died => died)
  rintro cleanup now ⟨closing, unlocked⟩
  refine wp_check (fun _ failed => ⟨fun calm => ?_, closing.owned, closing.closed⟩) fun _ passed => ?_
  · rw [ensure, if_pos (closing.clean calm)] at failed
    cases failed
  · have clean := ensure_ok.mp passed
    have sound : cleanup.retain = false :=
      Bool.eq_false_iff.mpr fun retained => closing.noted retained clean
    exact ⟨closing.owned, closing.closed, released_bare (closing.released sound) (unlocked clean)⟩

end Soma.Runtime
