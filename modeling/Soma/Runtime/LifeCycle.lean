import Soma.Runtime.Cleanup
import Soma.Theory.Execution

/-!
The methods of a host keep every resource owned, wherever a collaborator
raises, so any sequence of them is safe at every moment (`instance_ownership`).
A start goes through three states of knowledge: nothing is owned, the lock is
held by a new run (`Starting`), and the gate is open to a verified run.
-/

namespace Soma.Runtime

open Crash Execution Foundation Programs

variable {Result : Type} {host next : Host} {quiet : Prop} {run : RunId}

/-! ## Statements and calls of a method -/

section Rules

variable {fact : Result → Host → Prop}

/-- How a part of a method ends: with `fact` when it returns, otherwise with
every resource owned; cut off, it is safe. -/
def partPost (fact : Result → Host → Prop) : Post Host Raised Result where
  returned := fact
  raised _ := Owned
  died := Safe

theorem Owned.wp_step (owned : Owned host) {change : Host → Host} {fact : Unit → Host → Prop}
    (returned : ∀ next, Follows host next → fact () (change next)) :
    wpOf (Allowed quiet) (step change) (partPost fact) host :=
  Runtime.wp_step (fun _ _ follows => (owned.follows follows).safe) returned

theorem Owned.wp_call (owned : Owned host) {effect : Turn → Host → Except Raised (Result × Host)}
    (returned : ∀ turn next value now, Follows host next → effect turn next = .ok (value, now) →
      fact value now) :
    wpOf (Allowed quiet) (call effect) (partPost fact) host := by
  refine Runtime.wp_call (fun _ next follows => (owned.follows follows).safe)
    (fun _ turn next _ follows => owned.follows follows) fun turn next _ follows => ?_
  cases ran : effect turn next with
  | error error => exact owned.follows follows
  | ok pair => exact returned turn next pair.1 pair.2 follows ran

theorem Owned.wp_callUnit (owned : Owned host) {fact : Unit → Host → Prop}
    (returned : ∀ next, Follows host next → fact () next) :
    wpOf (Allowed quiet) callUnit (partPost fact) host :=
  owned.wp_call fun _ next _ _ follows ran => by
    cases ran
    exact returned next follows

theorem wp_next {Final : Type} {program : HostProgram Result} {rest : Result → HostProgram Final}
    {fact' : Final → Host → Prop} (fact : Result → Host → Prop)
    (ran : wpOf (Allowed quiet) program (partPost fact) host)
    (continued : ∀ value now, fact value now →
      wpOf (Allowed quiet) (rest value) (partPost fact') now) :
    wpOf (Allowed quiet) (program >>= rest) (partPost fact') host :=
  wp_bind (wp_mono ran continued (fun _ _ owned => owned) fun _ safe => safe)

theorem Owned.wp_ensure (owned : Owned host) {Final : Type} [Decidable condition]
    {rest : Unit → HostProgram Final} {fact : Final → Host → Prop}
    (continued : condition → wpOf (Allowed quiet) (rest ()) (partPost fact) host) :
    wpOf (Allowed quiet) (check (ensure condition error) >>= rest) (partPost fact) host :=
  wp_reads_bind reads_ensure (fun _ holds => continued holds) (fun _ => owned) owned.safe

theorem wp_observed {Final : Type} {rest : Host → HostProgram Final} {post : Post Host Raised Final}
    (continued : wpOf (Allowed quiet) (rest host) post host) :
    wpOf (Allowed quiet) (observe >>= rest) post host :=
  wp_bind (wp_observe continued)

end Rules

/-! ## What the statements of a start keep -/

theorem Owned.setState (owned : Owned host) (active : state ≠ .stopped) :
    Owned { host with runtime := { host.runtime with state } } :=
  { owned with stopped := fun stopped => absurd stopped active }

theorem Owned.setStopped (owned : Owned host) (bare : host.runtime.hasRuntimeResources = false) :
    Owned { host with runtime := { host.runtime with state := .stopped } } :=
  { owned with stopped := fun _ => bare }

theorem Owned.setCodes (owned : Owned host) (codes : List String) :
    Owned { host with runtime := { host.runtime with recentErrorCodes := codes } } :=
  { owned with stopped := owned.stopped }

/-- A host that owns nothing. -/
structure Bare (host : Host) : Prop where
  unlocked : host.runtime.lock = none
  executors : ∀ pool, host.runtime.executor pool = none
  server : host.runtime.serverStarted = false
  security : host.runtime.securityStarted = false
  registry : host.runtime.registryPublished = false

theorem bare_of_resources (none : host.runtime.hasRuntimeResources = false) : Bare host := by
  simp only [HostRuntime.hasRuntimeResources, Bool.or_eq_false_iff, Option.isSome_eq_false_iff,
    Option.isNone_iff_eq_none] at none
  obtain ⟨⟨⟨⟨⟨⟨request, background⟩, server⟩, _⟩, registry⟩, security⟩, lock⟩ := none
  refine ⟨lock, fun pool => ?_, server, security, registry⟩
  cases pool with
  | request => exact request
  | background => exact background

theorem Bare.unheld (bare : Bare host) : ¬ host.lockHeld := by
  rw [Host.lockHeld, bare.unlocked]
  exact fun held => by cases held

theorem Owned.newRun (owned : Owned host) (bare : Bare host) :
    Owned { host with
      runtime := { host.runtime with runId := some host.drawn }, drawn := host.drawn + 1 } :=
  { owned with
    admits := fun accepted => absurd (owned.admits accepted).1 bare.unheld
    security := by
      have none := owned.security
      simp only [bare.security] at none ⊢
      exact none
    identified := fun marked => by
      rw [bare.security, bare.registry] at marked
      exact absurd marked (by simp)
    record := fun record member same => by
      have earlier := owned.recordDrawn record member
      have later : host.drawn = record.runId := Option.some.inj same
      exact absurd later (Nat.ne_of_gt earlier)
    recordDrawn := fun record member => Nat.lt_succ_of_lt (owned.recordDrawn record member)
    runDrawn := fun run member => by
      have same : host.drawn = run := Option.some.inj member
      exact same ▸ Nat.lt_succ_self _
    stopped := owned.stopped }

theorem Bare.follows (bare : Bare host) (follows : Follows host next) : Bare next := by
  obtain ⟨_, _, _, _, _⟩ := bare
  constructor <;> rw [follows.runtime] <;> assumption

/-- A start under way: it has a run, and nothing of that run yet. -/
structure Starting (run : RunId) (host : Host) : Prop where
  owned : Owned host
  current : host.runtime.runId = some run
  active : host.runtime.state ≠ .stopped
  security : host.runtime.securityStarted = false
  registry : host.runtime.registryPublished = false

theorem Starting.follows (starting : Starting run host) (follows : Follows host next) :
    Starting run next := by
  obtain ⟨owned, _, _, _, _⟩ := starting
  refine ⟨owned.follows follows, ?_, ?_, ?_, ?_⟩ <;> rw [follows.runtime] <;> assumption

theorem Starting.unrecorded (starting : Starting run host) (record : RuntimeRegistryRecord)
    (member : record ∈ host.registry) : host.runtime.runId ≠ some record.runId := by
  intro same
  cases starting.registry.symm.trans (starting.owned.record record member same).1

/-- The same, holding the lock. -/
structure Holding (run : RunId) (host : Host) : Prop extends Starting run host where
  held : host.lockHeld

theorem Holding.follows (holding : Holding run host) (follows : Follows host next) :
    Holding run next :=
  ⟨holding.toStarting.follows follows, (lockHeld_congr follows.runtime).mpr holding.held⟩

theorem Holding.setState (holding : Holding run host) (active : state ≠ .stopped) :
    Holding run { host with runtime := { host.runtime with state } } :=
  { holding with owned := holding.owned.setState active, active }

theorem Starting.locked (starting : Starting run host) :
    Holding run { host with runtime := { host.runtime with lock := some ⟨true⟩ } } :=
  { starting with
    owned := { starting.owned with
      admits := fun accepted => ⟨rfl, (starting.owned.admits accepted).2⟩
      writers := fun released => absurd rfl released
      released := fun released => absurd rfl released
      stopped := fun stopped => absurd stopped starting.active }
    held := rfl }

theorem Holding.readIdentity (holding : Holding run host) (dataInstanceId : String)
    (sequence : Nat) :
    Holding run { host with runtime := { host.runtime with
      dataInstanceId := some dataInstanceId, migrationSequence := sequence } } :=
  { holding with
    owned := { holding.owned with
      identified := fun marked => by
        rw [holding.security, holding.registry] at marked
        exact absurd marked (by simp)
      record := fun record member same => absurd same (holding.unrecorded record member)
      stopped := holding.owned.stopped } }

/-- Ownership is taken and the schema verified: the gate may open. -/
structure Verified (run : RunId) (host : Host) : Prop extends Holding run host where
  identified : host.runtime.dataInstanceId.isSome
  verified : host.verifiedRun = some run

theorem Verified.follows (verified : Verified run host) (follows : Follows host next) :
    Verified run next := by
  refine ⟨verified.toHolding.follows follows, ?_, ?_⟩
  · rw [follows.runtime]
    exact verified.identified
  · rw [follows.verifiedRun, verified.verified]

theorem Holding.verify (holding : Holding run host)
    (identified : host.runtime.dataInstanceId.isSome) :
    Verified run { host with
      runtime := { host.runtime with integrityState := "VERIFIED" }, verifiedRun := some run } :=
  { holding with
    owned := { holding.owned with
      admits := fun accepted => by
        have admitted := holding.owned.admits accepted
        exact ⟨admitted.1, admitted.2.1, holding.current.symm⟩
      stopped := holding.owned.stopped }
    identified
    verified := rfl }

theorem Verified.withGate (verified : Verified run host) (gate : WriteAdmissionGate) :
    Verified run { host with gate } :=
  { verified with
    owned := { verified.owned with
      admits := fun _ => by
        refine ⟨verified.held, ?_, verified.verified.trans verified.current.symm⟩
        rw [verified.current]
        rfl
      writers := fun released => absurd verified.held released } }

theorem newRun_owned (owned : Owned host) (bare : Bare host)
    (active : host.runtime.state ≠ .stopped) :
    wpOf (Allowed quiet) newRun (partPost Starting) host := by
  refine wp_observed (wp_next (fun _ now => Starting host.drawn now) (owned.wp_step ?_)
    fun _ _ starting => wp_pure starting)
  intro next follows
  have later := bare.follows follows
  rw [← follows.runtime] at active
  exact ⟨(owned.follows follows).newRun later, congrArg some follows.drawn, active,
    later.security, later.registry⟩

/-- After the first half of a start, the run holds a verified instance. -/
theorem takeOwnership_owned (owned : Owned host) (bare : Bare host)
    (active : host.runtime.state ≠ .stopped) :
    wpOf (Allowed quiet) takeOwnership (partPost Verified) host := by
  refine wp_next (fun _ now => Owned now ∧ Bare now ∧ now.runtime.state ≠ .stopped)
    (owned.wp_callUnit fun next follows => ?_) ?_
  · refine ⟨owned.follows follows, bare.follows follows, ?_⟩
    rw [follows.runtime]
    exact active
  rintro _ now ⟨owned, bare, active⟩
  refine wp_next Starting (newRun_owned owned bare active) fun run now starting => ?_
  refine wp_next (fun _ => Holding run) (starting.owned.wp_call fun _ next _ _ follows ran => ?_)
    fun _ now holding => ?_
  · cases ran
    exact (starting.follows follows).locked
  refine wp_next (fun _ => Holding run)
    (holding.owned.wp_callUnit fun next follows => holding.follows follows) fun _ now holding => ?_
  refine wp_next (fun _ => Holding run) (holding.owned.wp_step fun next follows =>
    (holding.follows follows).setState (by decide)) fun _ now holding => ?_
  refine wp_next (fun _ => Holding run)
    (holding.owned.wp_callUnit fun next follows => holding.follows follows) fun _ now holding => ?_
  refine wp_next (fun _ => Holding run) (holding.owned.wp_step fun next follows =>
    (holding.follows follows).setState (by decide)) fun _ now holding => ?_
  refine wp_next (fun _ now => Holding run now ∧ now.runtime.dataInstanceId.isSome)
    (holding.owned.wp_call fun _ next _ _ follows ran => ?_) ?_
  · cases ran
    exact ⟨(holding.follows follows).readIdentity _ _, rfl⟩
  rintro _ now ⟨holding, identified⟩
  refine wp_observed (holding.owned.wp_ensure fun _ => ?_)
  refine wp_next (fun _ => Verified run) (holding.owned.wp_step fun next follows => ?_)
    fun _ now verified => ?_
  · refine (holding.follows follows).verify ?_
    rw [follows.runtime]
    exact identified
  refine wp_next (fun _ => Verified run) (verified.owned.wp_call fun _ next _ _ follows ran => ?_)
    fun _ now verified => wp_pure verified
  cases reopened : next.gate.reopen with
  | error error =>
    rw [reopened] at ran
    cases ran
  | ok gate =>
    rw [reopened] at ran
    cases ran
    exact (verified.follows follows).withGate gate

/-! ## From the open gate to a ready host -/

theorem Verified.executorCreated (verified : Verified run host) (pool : Pool) :
    Verified run { host with runtime := host.runtime.setExecutor pool (some ⟨true⟩) } :=
  { verified with
    owned := { verified.owned with
      work := fun other absent => by
        simp only [HostRuntime.setExecutor] at absent
        split at absent
        · cases absent
        · exact verified.owned.work other absent
      released := fun released => absurd verified.held released
      stopped := fun stopped => absurd stopped verified.active } }

theorem Verified.loopbackBound (verified : Verified run host) :
    Verified run { host with runtime := { host.runtime with loopbackBound := true } } :=
  { verified with
    owned := { verified.owned with stopped := fun stopped => absurd stopped verified.active } }

theorem createExecutor_verified (verified : Verified run host) (pool : Pool) :
    wpOf (Allowed quiet) (createExecutor pool) (partPost fun _ => Verified run) host :=
  verified.owned.wp_call fun _ next _ _ follows ran => by
    cases ran
    exact (verified.follows follows).executorCreated pool

theorem Follows.called (follows : Follows host next) (call : SecurityCall) :
    Follows { host with security := call :: host.security }
      { next with security := call :: next.security } :=
  { follows with security := congrArg (call :: ·) follows.security }

/-- The host's cleanup ownership of the security run begins. -/
def Host.marked (host : Host) : Host :=
  { host with runtime := { host.runtime with securityStarted := true } }

/-- A run the security provider has been asked to prepare. -/
structure Running (run : RunId) (host : Host) : Prop where
  owned : Owned host
  held : host.lockHeld
  current : host.runtime.runId = some run
  active : host.runtime.state ≠ .stopped
  identified : host.runtime.dataInstanceId.isSome

theorem Running.follows (running : Running run host) (follows : Follows host next) :
    Running run next := by
  obtain ⟨owned, held, _, _, _⟩ := running
  refine ⟨owned.follows follows, (lockHeld_congr follows.runtime).mpr held, ?_, ?_, ?_⟩ <;>
    rw [follows.runtime] <;> assumption

theorem Verified.prepared (verified : Verified run host) :
    Running run { host.marked with security := .prepareRun run :: host.marked.security } :=
  { verified with
    owned := { verified.owned with
      security := verified.current.symm
      disciplined := by
        refine ⟨?_, verified.owned.disciplined⟩
        change openRun host.security = none
        rw [verified.owned.security, verified.security]
        rfl
      identified := fun _ => by
        refine ⟨?_, verified.identified⟩
        change host.runtime.runId.isSome
        rw [verified.current]
        rfl
      released := fun released => absurd verified.held released
      stopped := fun stopped => absurd stopped verified.active } }

theorem Verified.marked_safe (verified : Verified run host) (follows : Follows host.marked next) :
    Safe next := by
  refine safe_of_held ((lockHeld_congr follows.runtime).mpr verified.held) (fun accepted => ?_) ?_
  · rw [follows.accepting] at accepted
    rw [follows.runtime, follows.verifiedRun]
    exact (verified.owned.admits accepted).2
  · rw [follows.security]
    exact verified.owned.disciplined

/-- Whether or not it raises, `prepare_run` leaves a run that close_run will end. -/
theorem prepareRun_running (verified : Verified run host) :
    wpOf (Allowed quiet) (prepareRun run) (partPost fun _ => Running run) host.marked := by
  have prepared : ∀ next, Follows host.marked next →
      Running run { next with security := .prepareRun run :: next.security } :=
    fun next follows => verified.prepared.follows (follows.called (.prepareRun run))
  refine Runtime.wp_call (fun _ next follows => verified.marked_safe follows) ?_ ?_
  · exact fun _ _ next _ follows => (prepared next follows).owned
  · exact fun _ next _ follows => prepared next follows

section

variable (running : Running run host)

include running

theorem Running.setState (active : state ≠ .stopped) :
    Running run { host with runtime := { host.runtime with state } } :=
  { running with owned := running.owned.setState active, active }

theorem Running.serverMarked :
    Running run { host with runtime := { host.runtime with serverStarted := true } } :=
  { running with
    owned := { running.owned with
      server := fun _ => rfl
      released := fun released => absurd running.held released
      stopped := fun stopped => absurd stopped running.active } }

theorem Running.serverStarted (marked : host.runtime.serverStarted = true) :
    Running run { host with serverRunning := true } :=
  { running with owned := { running.owned with server := fun _ => marked } }

theorem startServer_running (marked : host.runtime.serverStarted = true) :
    wpOf (Allowed quiet) startServer (partPost fun _ => Running run) host := by
  have started : ∀ next, Follows host next → Running run { next with serverRunning := true } :=
    fun next follows => (running.follows follows).serverStarted (by rw [follows.runtime, marked])
  refine Runtime.wp_call (fun _ next follows => (running.owned.follows follows).safe) ?_ ?_
  · exact fun _ _ next _ follows => (started next follows).owned
  · exact fun _ next _ follows => started next follows

end

/-- The registry holds this run's record. -/
def Host.recorded (host : Host) (run : RunId) : Host :=
  { host with registry := some ⟨run, host.runtime.dataInstanceId.getD ""⟩ }

theorem Running.published (running : Running run host) :
    Running run { host.recorded run with
      runtime := { (host.recorded run).runtime with registryPublished := true } } :=
  { running with
    owned := { running.owned with
      identified := fun _ => by
        refine ⟨?_, running.identified⟩
        change host.runtime.runId.isSome
        rw [running.current]
        rfl
      record := fun record member _ => by
        obtain ⟨dataInstanceId, identity⟩ := Option.isSome_iff_exists.mp running.identified
        have same := Option.some.inj member
        refine ⟨rfl, ?_⟩
        change host.runtime.dataInstanceId = some record.dataInstanceId
        rw [← same, identity]
        rfl
      recordDrawn := fun record member => by
        have same := Option.some.inj member
        rw [← same]
        exact running.owned.runDrawn run running.current
      released := fun released => absurd running.held released
      stopped := fun stopped => absurd stopped running.active } }

/-- `publish`, when it has no effect if it raises. -/
theorem publish_recorded (running : Running run host) :
    wpOf (Allowed quiet) (publish run (host.runtime.dataInstanceId.getD ""))
      (partPost fun _ now => ∃ before, Running run before ∧ now = before.recorded run) host := by
  refine Runtime.wp_call (fun _ next follows => (running.owned.follows follows).safe) ?_ ?_
  · intro _ turn next prompt follows
    rw [if_neg (by rw [prompt]; exact Bool.false_ne_true)]
    exact running.owned.follows follows
  · intro turn next _ follows
    have same : next.runtime.dataInstanceId = host.runtime.dataInstanceId := by
      rw [follows.runtime]
    refine ⟨next, running.follows follows, ?_⟩
    rw [Host.recorded, same]
    rfl

theorem markPublished_running (running : Running run host) :
    wpOf (Allowed quiet) (setRuntime ({ · with registryPublished := true }))
      (partPost fun _ => Running run) (host.recorded run) := by
  refine Runtime.wp_step (fun _ next follows => ?_) fun next follows => ?_
  · refine safe_of_held ((lockHeld_congr follows.runtime).mpr running.held) (fun accepted => ?_) ?_
    · rw [follows.accepting] at accepted
      rw [follows.runtime, follows.verifiedRun]
      exact (running.owned.admits accepted).2
    · rw [follows.security]
      exact running.owned.disciplined
  · exact running.published.follows
      (follows.changed ({ · with registryPublished := true }) fun _ => rfl)

/-- The second half of a start, wherever it ends, leaves an owned host. -/
theorem bringUp_owned (verified : Verified run host) :
    wpOf (Allowed quiet) (bringUp run) (partPost fun _ => Owned) host := by
  refine wp_next (fun _ => Verified run)
    (verified.owned.wp_callUnit fun next follows => verified.follows follows)
    fun _ now verified => ?_
  refine wp_next (fun _ => Verified run) (createExecutor_verified verified .request)
    fun _ now verified => ?_
  refine wp_next (fun _ => Verified run) (createExecutor_verified verified .background)
    fun _ now verified => ?_
  refine wp_next (fun _ => Verified run) (verified.owned.wp_call fun _ next _ _ follows ran => ?_)
    fun _ now verified => ?_
  · cases ran
    exact (verified.follows follows).loopbackBound
  refine wp_next (fun _ now => ∃ before, Verified run before ∧ now = before.marked)
    (verified.owned.wp_step fun next follows => ⟨next, verified.follows follows, rfl⟩) ?_
  rintro _ _ ⟨before, verified, rfl⟩
  refine wp_next (fun _ => Running run) (prepareRun_running verified) fun _ now running => ?_
  refine wp_next (fun _ => Running run) (running.owned.wp_step fun next follows =>
    (running.follows follows).setState (by decide)) fun _ now running => ?_
  refine wp_next (fun _ now => Running run now ∧ now.runtime.serverStarted = true)
    (running.owned.wp_step fun next follows =>
      ⟨(running.follows follows).serverMarked, rfl⟩) ?_
  rintro _ now ⟨running, marked⟩
  refine wp_next (fun _ => Running run) (startServer_running running marked)
    fun _ now running => wp_observed ?_
  refine wp_next _ (publish_recorded running) ?_
  rintro _ _ ⟨before, running, rfl⟩
  refine wp_next (fun _ => Running run) (markPublished_running running) fun _ now running => ?_
  refine wp_next (fun _ => Running run) (running.owned.wp_call fun _ next _ _ follows ran => ?_)
    fun _ now running => ?_
  · cases ran
    exact running.follows follows
  refine running.owned.wp_ensure fun _ => ?_
  exact running.owned.wp_step fun next follows => ((running.follows follows).setState (by decide)).owned

/-! ## The methods -/

section

variable (owned : Owned host)

include owned

theorem recordErrorCode_owned (code : String) :
    wpOf (Allowed quiet) (recordErrorCode code) (partPost fun _ => Owned) host :=
  owned.wp_ensure fun _ => owned.wp_step fun _ follows => (owned.follows follows).setCodes _

theorem closeRuntimeResources_part : wpOf (Allowed quiet) closeRuntimeResources
      (partPost fun _ now => Owned now ∧ now.runtime.hasRuntimeResources = false) host :=
  wp_mono (closeRuntimeResources_owned owned) (fun _ _ ⟨owned, _, bare⟩ => ⟨owned, bare⟩)
    (fun _ _ ⟨_, owned, _⟩ => owned) (fun _ ⟨_, safe⟩ => safe)

/-- A failed start cleans up and leaves an owned host. -/
theorem failStart_owned (error : Raised) :
    wpOf (Allowed quiet) (failStart error) (partPost fun _ => Owned) host := by
  refine wp_next (fun _ => Owned) (recordErrorCode_owned owned _) fun _ now owned => ?_
  refine wp_next (fun _ => Owned) (owned.wp_step fun next follows =>
    (owned.follows follows).gateQuiesced) fun _ now owned => ?_
  refine wp_next (fun _ => Owned) (owned.wp_step fun next follows =>
    (owned.follows follows).setState (by decide)) fun _ now owned => ?_
  refine wp_next (fun _ => Owned) ?_ fun _ now owned => wp_raise owned
  refine wp_handle (wp_mono (closeRuntimeResources_part owned) (fun _ _ ⟨owned, _⟩ => owned) ?_
    fun _ safe => safe)
  exact fun error now owned => recordErrorCode_owned owned _

/-- A start, whether it succeeds or fails, leaves an owned host. -/
theorem start_owned : wpOf (Allowed quiet) start (partPost fun _ => Owned) host := by
  refine wp_observed (owned.wp_ensure fun inactive => owned.wp_ensure fun unowned => ?_)
  have bare : host.runtime.hasRuntimeResources = false := by
    obtain stopped | failed := inactive
    · exact owned.stopped stopped
    · exact Bool.eq_false_iff.mpr fun resources => unowned ⟨failed, resources⟩
  refine wp_next (fun _ now => Owned now ∧ Bare now ∧ now.runtime.state ≠ .stopped)
    (owned.wp_step fun next follows => ?_) ?_
  · have later := (bare_of_resources bare).follows follows
    refine ⟨(owned.follows follows).setState (by decide), ?_, by simp⟩
    exact ⟨later.unlocked, later.executors, later.server, later.security, later.registry⟩
  rintro _ now ⟨owned, bare, active⟩
  refine wp_handle (wp_mono (wp_next _ (takeOwnership_owned owned bare active)
    fun run now verified => bringUp_owned verified) (fun _ _ owned => owned) ?_ fun _ safe => safe)
  exact fun error now owned => failStart_owned owned error

theorem quiesceExecutor_owned (pool : Pool) :
    wpOf (Allowed quiet) (quiesceExecutor pool) (partPost fun _ => Owned) host :=
  owned.wp_call fun _ next _ _ follows ran => by
    cases ran
    exact (owned.follows follows).poolQuiesced pool

theorem quiesceIfPresent_owned (pool : Pool) :
    wpOf (Allowed quiet) (quiesceIfPresent pool) (partPost fun _ => Owned) host := by
  refine wp_observed ?_
  split
  · exact quiesceExecutor_owned owned pool
  · exact wp_pure owned

theorem quiesce_owned : wpOf (Allowed quiet) quiesce (partPost fun _ => Owned) host := by
  refine wp_observed (owned.wp_ensure fun _ => ?_)
  split
  · exact wp_pure owned
  refine owned.wp_ensure fun _ => ?_
  refine wp_next (fun _ => Owned) (owned.wp_step fun next follows =>
    (owned.follows follows).gateQuiesced) fun _ now owned => ?_
  refine wp_next (fun _ => Owned) (owned.wp_step fun next follows =>
    (owned.follows follows).setState (by decide)) fun _ now owned => ?_
  refine wp_next (fun _ => Owned) (quiesceIfPresent_owned owned .request) fun _ now owned => ?_
  refine wp_next (fun _ => Owned) (quiesceIfPresent_owned owned .background) fun _ now owned => ?_
  exact wp_pure owned

theorem requestShutdown_owned (run : RunId) (dataInstanceId : String) :
    wpOf (Allowed quiet) (requestShutdown run dataInstanceId) (partPost fun _ => Owned) host := by
  refine wp_observed (owned.wp_ensure fun _ => ?_)
  split
  · exact wp_pure owned
  refine owned.wp_ensure fun _ => ?_
  refine wp_next (fun _ => Owned) (owned.wp_call fun _ next _ _ follows ran => ?_)
    fun _ now owned => ?_
  · cases entered : next.gate.enter with
    | error error =>
      rw [entered] at ran
      cases ran
    | ok gate =>
      rw [entered] at ran
      cases ran
      exact owned.follows follows
  exact wp_next (fun _ => Owned) (quiesce_owned owned) fun _ _ owned => wp_pure owned

theorem drainExecutor_owned (pool : Pool) :
    wpOf (Allowed quiet) (drainExecutor pool) (partPost fun _ => Owned) host :=
  owned.wp_call fun turn next _ _ follows ran => by
    cases ran
    split
    · exact (owned.follows follows).follows (setOutstanding_follows fun _ => Nat.zero_le _)
    · exact owned.follows follows

theorem drainIfPresent_owned (pool : Pool) :
    wpOf (Allowed quiet) (drainIfPresent pool) (partPost fun _ => Owned) host := by
  refine wp_observed ?_
  split
  · exact wp_next (fun _ => Owned) (quiesceExecutor_owned owned pool)
      fun _ _ owned => drainExecutor_owned owned pool
  · exact wp_pure owned

theorem waitForDrain_owned : wpOf (Allowed quiet) waitForDrain (partPost fun _ => Owned) host :=
  owned.wp_call fun turn next _ _ follows ran => by
    cases ran
    split
    · refine (owned.follows follows).follows ?_
      exact ⟨rfl, rfl, rfl, rfl, rfl, rfl, fun _ => Nat.zero_le _, fun _ _ => Nat.le_refl _,
        fun held => held⟩
    · exact owned.follows follows

theorem ensureQuiescing_owned (state : HostState) :
    wpOf (Allowed quiet) (ensureQuiescing state) (partPost fun _ => Owned) host := by
  unfold ensureQuiescing
  split
  · exact wp_pure owned
  · exact wp_next (fun _ => Owned) (quiesce_owned owned) fun _ _ owned => wp_pure owned

/-- A shutdown, complete or not, leaves an owned host. -/
theorem shutdown_owned (graceSeconds : Int) :
    wpOf (Allowed quiet) (shutdown graceSeconds) (partPost fun _ => Owned) host := by
  refine owned.wp_ensure fun _ => wp_observed (owned.wp_ensure fun _ => ?_)
  refine wp_next (fun _ => Owned) (ensureQuiescing_owned owned _) fun _ now owned => ?_
  refine wp_next (fun _ => Owned) (waitForDrain_owned owned) fun _ now owned => ?_
  refine owned.wp_ensure fun _ => ?_
  refine wp_next (fun _ => Owned) (drainIfPresent_owned owned .request) fun _ now owned => ?_
  refine wp_next (fun _ => Owned) (drainIfPresent_owned owned .background) fun _ now owned => ?_
  refine owned.wp_ensure fun _ => ?_
  refine wp_next (fun _ => Owned)
    (owned.wp_callUnit fun next follows => owned.follows follows) fun _ now owned => ?_
  refine wp_next _ (closeRuntimeResources_part owned) ?_
  rintro _ now ⟨owned, bare⟩
  refine wp_next (fun _ => Owned) (owned.wp_step fun next follows => ?_)
    fun _ _ owned => wp_pure owned
  refine (owned.follows follows).setStopped ?_
  rw [follows.runtime]
  exact bare

theorem retryFailedCleanup_owned (graceSeconds : Int) :
    wpOf (Allowed quiet) (retryFailedCleanup graceSeconds) (partPost fun _ => Owned) host := by
  refine owned.wp_ensure fun _ => wp_observed (owned.wp_ensure fun _ => ?_)
  exact wp_next _ (closeRuntimeResources_part owned)
    fun _ _ ⟨owned, _⟩ => wp_observed (wp_pure owned)

/-- Every operation of the host keeps ownership. -/
theorem operation_owned (operation : Operation) :
    wpOf (Allowed quiet) operation.run (partPost fun _ => Owned) host := by
  cases operation with
  | start => exact start_owned owned
  | requestShutdown run dataInstanceId =>
    exact wp_next (fun _ => Owned) (requestShutdown_owned owned run dataInstanceId)
      fun _ _ owned => wp_pure owned
  | quiesce =>
    exact wp_next (fun _ => Owned) (quiesce_owned owned) fun _ _ owned => wp_pure owned
  | shutdown graceSeconds =>
    exact wp_next (fun _ => Owned) (shutdown_owned owned graceSeconds)
      fun _ _ owned => wp_pure owned
  | retryFailedCleanup graceSeconds =>
    exact wp_next (fun _ => Owned) (retryFailedCleanup_owned owned graceSeconds)
      fun _ _ owned => wp_pure owned
  | meanwhile => exact owned.wp_step fun _ follows => owned.follows follows

end

/-! ## Runs -/

/-- No `publish` of the script raises after its `os.replace`. -/
def Sound (script : List Turn) : Prop := ∀ turn ∈ script, turn.late = false

/-- No call of the script raises, and every wait ends in time. -/
def Cooperative (script : List Turn) : Prop :=
  ∀ turn ∈ script, turn.late = false ∧ turn.fate = .completes ∧ turn.timely = true

/-- One operation, run to its end. -/
def Step (host next : Host) : Prop :=
  ∃ operation script, Sound script ∧ (Operation.run operation ⟨host, script⟩).1 ≠ .died ∧
    (Operation.run operation ⟨host, script⟩).2.disk = next

/-- Something of this host's run is still there. -/
def InUse (host : Host) : Prop :=
  host.lockHeld ∨ host.serverRunning = true ∨ (∃ pool, host.outstanding pool ≠ 0) ∨
  host.gate.active ≠ 0 ∨ openRun host.security ≠ none ∨
  ∃ record ∈ host.registry, host.runtime.runId = some record.runId

theorem sound_allowed (sound : Sound script) : ∀ turn ∈ script, Allowed False turn :=
  fun turn member => ⟨sound turn member, fun impossible => impossible.elim⟩

/-- And so does every run of them. -/
theorem reachable_owned (earlier : ∀ record ∈ registry, record.runId < drawn)
    (reached : Reachable (· = Host.initial target registry drawn) Step host) : Owned host := by
  refine reached.invariant Owned ?_ ?_
  · rintro _ rfl
    exact owned_initial target registry drawn earlier
  · rintro host _ owned ⟨operation, script, sound, alive, rfl⟩
    have outcome := (operation_owned owned operation script (sound_allowed sound)).1
    cases ended : (operation.run ⟨host, script⟩).1 with
    | returned value | raised error =>
      rw [ended] at outcome
      exact outcome
    | died => exact absurd ended alive

theorem unused_of_bare (owned : Owned host) (bare : host.runtime.hasRuntimeResources = false) :
    ¬ InUse host := by
  have unheld := (bare_of_resources bare).unheld
  obtain ⟨work, server, writers, security, record⟩ := owned.safe.released unheld
  rintro (held | running | ⟨pool, busy⟩ | active | opened | ⟨found, member, same⟩)
  · exact unheld held
  · cases server.symm.trans running
  · exact busy (work pool)
  · exact active writers
  · exact opened security
  · exact record found member same

/-- **Instance ownership.** In every run in which `publish` never raises after
its `os.replace`, over whatever others do and whichever calls raise: the host is
safe at every moment of its next operation; a failed host that still owns or
uses anything refuses to start; and a retried cleanup of a failed host releases
everything as soon as no collaborator fails. -/
theorem instance_ownership (target : Nat) (registry : Option RuntimeRegistryRecord) (drawn : RunId)
    (earlier : ∀ record ∈ registry, record.runId < drawn) (host : Host)
    (reached : Reachable (· = Host.initial target registry drawn) Step host) :
    (∀ operation script, Sound script → Safe (Operation.run operation ⟨host, script⟩).2.disk) ∧
    (host.runtime.state = .failed → host.runtime.hasRuntimeResources = true ∨ InUse host →
      ∀ script, start ⟨host, script⟩ = (.raised (alreadyOwned
        "failed runtime still owns resources pending safe cleanup"), ⟨host, script⟩)) ∧
    (host.runtime.state = .failed → ∀ script graceSeconds, Cooperative script → 0 ≤ graceSeconds →
      let ended := retryFailedCleanup graceSeconds ⟨host, script⟩
      ended.1 = .returned true ∧ ended.2.disk.runtime.hasRuntimeResources = false ∧
      ¬ InUse ended.2.disk) := by
  have owned := reachable_owned earlier reached
  refine ⟨fun operation script sound => ?_, fun failed used script => ?_, ?_⟩
  · have outcome := (operation_owned owned operation script (sound_allowed sound)).1
    cases ended : (operation.run ⟨host, script⟩).1 with
    | returned value | raised error =>
      rw [ended] at outcome
      exact Owned.safe outcome
    | died =>
      rw [ended] at outcome
      exact outcome
  · have resources : host.runtime.hasRuntimeResources = true := by
      obtain resources | used := used
      · exact resources
      · by_contra bare
        exact unused_of_bare owned (Bool.eq_false_iff.mpr bare) used
    simp [start, observe, bind, check, ensure, raise, failed, resources, pure]
  · intro failed script graceSeconds cooperative grace
    have released : wpOf (Allowed True) (retryFailedCleanup graceSeconds)
        ⟨fun value now => value = true ∧ Owned now ∧ now.runtime.hasRuntimeResources = false,
          fun _ _ => False, fun _ => False⟩ host := by
      unfold retryFailedCleanup
      rw [ensure, if_pos grace]
      refine wp_bind (wp_pure (wp_observed ?_))
      rw [ensure, if_pos failed]
      refine wp_bind (wp_pure (wp_bind (wp_mono (closeRuntimeResources_owned owned) ?_ ?_ ?_)))
      · rintro _ now ⟨owned, _, bare⟩
        refine wp_observed (wp_pure ⟨?_, owned, bare⟩)
        rw [bare]
        rfl
      · rintro _ _ ⟨noisy, _⟩
        exact noisy trivial
      · rintro _ ⟨noisy, _⟩
        exact noisy trivial
    have outcome := (released script fun turn member =>
      ⟨(cooperative turn member).1, fun _ => (cooperative turn member).2⟩).1
    intro ended
    cases way : ended.1 with
    | returned value =>
      rw [way] at outcome
      obtain ⟨rfl, owned, bare⟩ := outcome
      exact ⟨rfl, bare, unused_of_bare owned bare⟩
    | raised error =>
      rw [way] at outcome
      exact outcome.elim
    | died =>
      rw [way] at outcome
      exact outcome.elim

/-! ## Two failed starts -/

def sampleHost : Host := Host.initial 0 none 0

/-- A start that fails in `prepare_run`, with no cleanup call succeeding. -/
def refusedScript : List Turn := List.replicate 16 ({} : Turn) ++ List.replicate 40 { fate := .fails }

def refusedHost : Host := (Operation.run .start ⟨sampleHost, refusedScript⟩).2.disk

/-- The failed host keeps its lock until a retried cleanup releases everything. -/
theorem refused_start_cleaned_up :
    refusedHost.lockHeld ∧ (retryFailedCleanup 30 ⟨refusedHost, []⟩).1 = .returned true ∧
    ¬ InUse (retryFailedCleanup 30 ⟨refusedHost, []⟩).2.disk := by
  have reached : Reachable (· = sampleHost) Step refusedHost := by
    have begun : Reachable (· = sampleHost) Step sampleHost := .start rfl
    refine begun.step ⟨.start, refusedScript, fun turn member => ?_, ?_, rfl⟩
    · obtain ordinary | failing := List.mem_append.mp member
      · rw [List.eq_of_mem_replicate ordinary]
      · rw [List.eq_of_mem_replicate failing]
    · decide +kernel
  have state : refusedHost.runtime.state = .failed := by decide +kernel
  obtain ⟨returned, _, unused⟩ :=
    (instance_ownership 0 none 0 (by simp) refusedHost reached).2.2 state [] 30
      (by simp [Cooperative]) (by decide)
  exact ⟨by decide +kernel, returned, unused⟩

/-- A start whose `publish` raises after its `os.replace`, followed by a clean cleanup. -/
def lateScript : List Turn := List.replicate 20 ({} : Turn) ++ [{ fate := .fails, late := true }]

/-- The lock is released while the registry still names the run. -/
theorem late_publish_strands_record :
    let failed := (Operation.run .start ⟨sampleHost, lateScript⟩).2.disk
    failed.runtime.state = .failed ∧ ¬ failed.lockHeld ∧
    failed.runtime.hasRuntimeResources = false ∧ failed.runtime.runId = some 0 ∧
    failed.registry = some ⟨0, ""⟩ := by
  decide +kernel

end Soma.Runtime
