import Soma.Runtime.Host

/-!
Ownership of a data instance over the host's life. Every resource a method
acquires is marked as the host's before it can be left behind (`Owned`), and
the cleanup releases the lock only when everything else is released, which
`Closing` tracks stage by stage. What must hold at every moment is `Safe`; it
is also proved where a method is cut off between two of its steps.

`quiet` stands for surroundings in which no call raises and every wait ends in
time: the same induction then shows that a cleanup releases everything.
-/

namespace Soma.Runtime

open Crash Foundation Programs

variable {Result : Type} {host next : Host} {quiet : Prop}

/-! ## The security provider's calls -/

/-- The run that was prepared and not closed since. -/
def openRun : List SecurityCall → Option RunId
  | [] => none
  | .prepareRun run :: _ => some run
  | .closeRun _ false :: earlier => openRun earlier
  | .closeRun run true :: earlier => if openRun earlier = some run then none else openRun earlier

/-- Every run is prepared when none is open, and only the open run is closed. -/
def Disciplined : List SecurityCall → Prop
  | [] => True
  | .prepareRun _ :: earlier => openRun earlier = none ∧ Disciplined earlier
  | .closeRun run _ :: earlier => openRun earlier = some run ∧ Disciplined earlier

/-! ## What others can do between two steps -/

/-- Nothing the host owns changes, and nobody comes in where the host has closed. -/
structure Follows (host next : Host) : Prop where
  runtime : next.runtime = host.runtime
  accepting : next.gate.accepting = host.gate.accepting
  registry : next.registry = host.registry
  security : next.security = host.security
  verifiedRun : next.verifiedRun = host.verifiedRun
  drawn : next.drawn = host.drawn
  writers : host.gate.accepting = false → next.gate.active ≤ host.gate.active
  work : ∀ pool, (host.runtime.executor pool).any (·.accepting) = false →
    next.outstanding pool ≤ host.outstanding pool
  server : next.serverRunning = true → host.serverRunning = true

theorem Follows.refl (host : Host) : Follows host host :=
  ⟨rfl, rfl, rfl, rfl, rfl, rfl, fun _ => Nat.le_refl _, fun _ _ => Nat.le_refl _,
    fun held => held⟩

theorem Follows.trans (first : Follows host middle) (second : Follows middle next) :
    Follows host next where
  runtime := second.runtime.trans first.runtime
  accepting := second.accepting.trans first.accepting
  registry := second.registry.trans first.registry
  security := second.security.trans first.security
  verifiedRun := second.verifiedRun.trans first.verifiedRun
  drawn := second.drawn.trans first.drawn
  writers closed := Nat.le_trans (second.writers (first.accepting.trans closed)) (first.writers closed)
  work pool closed :=
    Nat.le_trans (second.work pool (by rw [first.runtime]; exact closed)) (first.work pool closed)
  server running := first.server (second.server running)

theorem setOutstanding_follows (bound : (host.runtime.executor pool).any (·.accepting) = false →
      count ≤ host.outstanding pool) : Follows host (host.setOutstanding pool count) := by
  refine ⟨rfl, rfl, rfl, rfl, rfl, rfl, fun _ => Nat.le_refl _, fun other closed => ?_, fun held => held⟩
  simp only [Host.setOutstanding]
  split
  · rename_i same
    subst same
    exact bound closed
  · exact Nat.le_refl _

theorem act_follows (host : Host) (other : Other) : Follows host (other.act host) := by
  cases other with
  | writerEnters =>
    cases admitted : host.gate.accepting with
    | false =>
      simp only [Other.act, WriteAdmissionGate.enter, admitted]
      exact Follows.refl host
    | true =>
      simp only [Other.act, WriteAdmissionGate.enter, admitted, if_true]
      refine ⟨rfl, admitted.symm, rfl, rfl, rfl, rfl, fun closed => ?_, fun _ _ => Nat.le_refl _,
        fun held => held⟩
      cases admitted.symm.trans closed
  | writerLeaves =>
    simp only [Other.act, WriteAdmissionGate.exit]
    split
    · refine ⟨rfl, rfl, rfl, rfl, rfl, rfl, fun _ => ?_, fun _ _ => Nat.le_refl _, fun held => held⟩
      exact Nat.sub_le _ _
    · exact Follows.refl host
  | workSubmitted pool =>
    simp only [Other.act]
    split
    · rename_i accepted
      refine setOutstanding_follows fun closed => ?_
      cases accepted.symm.trans closed
    · exact Follows.refl host
  | workEnds pool => exact setOutstanding_follows fun _ => Nat.sub_le _ _
  | serverEnds =>
    refine ⟨rfl, rfl, rfl, rfl, rfl, rfl, fun _ => Nat.le_refl _, fun _ _ => Nat.le_refl _, fun running => ?_⟩
    cases running

theorem after_follows (host : Host) (turn : Turn) : Follows host (host.after turn) := by
  unfold Host.after
  induction turn.others generalizing host with
  | nil => exact Follows.refl host
  | cons other others ih => exact (act_follows host other).trans (ih (other.act host))

/-! ## Steps and calls -/

/-- The turns a run may take: `publish` never raises after its `os.replace`, and
in quiet surroundings no call raises and every wait ends in time. -/
def Allowed (quiet : Prop) (turn : Turn) : Prop :=
  turn.late = false ∧ (quiet → turn.fate = .completes ∧ turn.timely = true)

theorem allowed_default (quiet : Prop) : Allowed quiet {} :=
  ⟨rfl, fun _ => ⟨rfl, rfl⟩⟩

section Steps

variable {post : Post Host Raised Result}

/-- A step of the host comes after a turn of the others, and a quiet host is not killed before
it. -/
theorem wp_step {change : Host → Host} {post : Post Host Raised Unit}
    (died : ¬ quiet → ∀ next, Follows host next → post.died next)
    (returned : ∀ next, Follows host next → post.returned () (change next)) :
    wpOf (Allowed quiet) (step change) post host := by
  refine wp_perform (returned _ (after_follows host {})) fun turn allow => ?_
  have follows := after_follows host turn
  simp only [Option.getD_some]
  cases fate : turn.fate with
  | dies =>
    refine died (fun calm => ?_) _ follows
    cases fate.symm.trans (allow.2 calm).1
  | completes | fails => exact returned _ follows

/-- A call of the host completes, raises or dies; the last two only where it is not quiet. -/
theorem wp_call {effect : Turn → Host → Except Raised (Result × Host)}
    {failing : Turn → Host → Host}
    (died : ¬ quiet → ∀ next, Follows host next → post.died next)
    (raised : ¬ quiet → ∀ turn next, turn.late = false → Follows host next →
      post.raised turn.error (failing turn next))
    (completed : ∀ turn next, Allowed quiet turn → Follows host next →
      post.holds (settle next (effect turn next)).1 (settle next (effect turn next)).2) :
    wpOf (Allowed quiet) (call effect failing) post host := by
  refine wp_perform (completed {} _ (allowed_default quiet) (after_follows host {}))
    fun turn allow => ?_
  have follows := after_follows host turn
  simp only [Option.getD_some]
  cases fate : turn.fate with
  | dies =>
    refine died (fun calm => ?_) _ follows
    cases fate.symm.trans (allow.2 calm).1
  | fails =>
    refine raised (fun calm => ?_) turn _ allow.1 follows
    cases fate.symm.trans (allow.2 calm).1
  | completes => exact completed turn _ allow follows

end Steps

/-! ## The invariant -/

/-- Every resource in use is marked as the host's. -/
structure Owned (host : Host) : Prop where
  admits : host.gate.accepting = true → host.lockHeld ∧ host.runtime.runId.isSome ∧
    host.verifiedRun = host.runtime.runId
  writers : ¬ host.lockHeld → host.gate.active = 0
  work : ∀ pool, host.runtime.executor pool = none → host.outstanding pool = 0
  server : host.serverRunning = true → host.runtime.serverStarted = true
  security : openRun host.security =
    if host.runtime.securityStarted then host.runtime.runId else none
  disciplined : Disciplined host.security
  identified : host.runtime.securityStarted = true ∨ host.runtime.registryPublished = true →
    host.runtime.runId.isSome ∧ host.runtime.dataInstanceId.isSome
  record : ∀ record ∈ host.registry, host.runtime.runId = some record.runId →
    host.runtime.registryPublished = true ∧
    host.runtime.dataInstanceId = some record.dataInstanceId
  recordDrawn : ∀ record ∈ host.registry, record.runId < host.drawn
  runDrawn : ∀ run ∈ host.runtime.runId, run < host.drawn
  released : ¬ host.lockHeld → (∀ pool, host.runtime.executor pool = none) ∧
    host.runtime.serverStarted = false ∧ host.runtime.securityStarted = false ∧
    host.runtime.registryPublished = false
  stopped : host.runtime.state = .stopped → host.runtime.hasRuntimeResources = false

/-- What must hold at every moment. -/
structure Safe (host : Host) : Prop where
  admits : host.gate.accepting = true → host.lockHeld ∧ host.runtime.runId.isSome ∧
    host.verifiedRun = host.runtime.runId
  released : ¬ host.lockHeld → (∀ pool, host.outstanding pool = 0) ∧ host.serverRunning = false ∧
    host.gate.active = 0 ∧ openRun host.security = none ∧
    ∀ record ∈ host.registry, host.runtime.runId ≠ some record.runId
  disciplined : Disciplined host.security

theorem lockHeld_congr (same : next.runtime = host.runtime) : next.lockHeld ↔ host.lockHeld := by
  rw [Host.lockHeld, Host.lockHeld, same]

/-- Other threads cannot take ownership away. -/
theorem Owned.follows (owned : Owned host) (follows : Follows host next) : Owned next := by
  obtain ⟨runtime, accepting, registry, security, verifiedRun, drawn, writers, work, server⟩ :=
    follows
  have held := lockHeld_congr runtime
  constructor
  · rw [accepting, held, runtime, verifiedRun]
    exact owned.admits
  · rw [held]
    intro released
    have closed : host.gate.accepting = false :=
      Bool.eq_false_iff.mpr fun accepted => released (owned.admits accepted).1
    have bound := writers closed
    have none := owned.writers released
    omega
  · intro pool absent
    rw [runtime] at absent
    have bound := work pool (by rw [absent]; rfl)
    have none := owned.work pool absent
    omega
  · rw [runtime]
    exact fun running => owned.server (server running)
  · rw [security, runtime]
    exact owned.security
  · rw [security]
    exact owned.disciplined
  · rw [runtime]
    exact owned.identified
  · rw [registry, runtime]
    exact owned.record
  · rw [registry, drawn]
    exact owned.recordDrawn
  · rw [runtime, drawn]
    exact owned.runDrawn
  · rw [held, runtime]
    exact owned.released
  · rw [runtime]
    exact owned.stopped

/-- An owned host never uses an instance it does not hold. -/
theorem Owned.safe (owned : Owned host) : Safe host := by
  refine ⟨owned.admits, fun released => ?_, owned.disciplined⟩
  obtain ⟨executors, server, security, registry⟩ := owned.released released
  refine ⟨fun pool => owned.work pool (executors pool), ?_, owned.writers released, ?_, ?_⟩
  · refine Bool.eq_false_iff.mpr fun running => ?_
    cases server.symm.trans (owned.server running)
  · rw [owned.security, security]
    rfl
  · intro record member same
    cases registry.symm.trans (owned.record record member same).1

theorem safe_of_held (held : host.lockHeld)
    (admits : host.gate.accepting = true → host.runtime.runId.isSome ∧
      host.verifiedRun = host.runtime.runId)
    (disciplined : Disciplined host.security) : Safe host :=
  ⟨fun accepted => ⟨held, admits accepted⟩, fun released => absurd held released, disciplined⟩

theorem owned_initial (target : Nat) (registry : Option RuntimeRegistryRecord) (drawn : RunId)
    (earlier : ∀ record ∈ registry, record.runId < drawn) :
    Owned (Host.initial target registry drawn) := by
  constructor
  case recordDrawn => exact earlier
  all_goals simp [Host.initial, Host.lockHeld, openRun, Disciplined, HostRuntime.hasRuntimeResources]

/-! ## What a statement of the host keeps -/

theorem Follows.changed (follows : Follows host next) (change : HostRuntime → HostRuntime)
    (executors : ∀ pool, (change host.runtime).executor pool = host.runtime.executor pool) :
    Follows { host with runtime := change host.runtime }
      { next with runtime := change next.runtime } := by
  obtain ⟨runtime, accepting, registry, security, verifiedRun, drawn, writers, work, server⟩ :=
    follows
  refine ⟨congrArg change runtime, accepting, registry, security, verifiedRun, drawn, writers,
    fun pool closed => work pool ?_, server⟩
  rw [← executors pool]
  exact closed

section

variable (owned : Owned host)

include owned

theorem Owned.gateQuiesced : Owned { host with gate := host.gate.quiesce } :=
  { owned with
    admits := fun accepted => by cases accepted
    writers := owned.writers }

theorem Owned.poolQuiesced (pool : Pool) :
    Owned { host with runtime := host.runtime.quiesced pool } :=
  { owned with
    work := fun other absent => by
      refine owned.work other ?_
      simp only [HostRuntime.quiesced, HostRuntime.setExecutor] at absent
      split at absent
      · rename_i same
        rw [same]
        exact Option.map_eq_none_iff.mp absent
      · exact absent
    released := fun released => by
      obtain ⟨executors, rest⟩ := owned.released released
      refine ⟨fun other => ?_, rest⟩
      simp only [HostRuntime.quiesced, HostRuntime.setExecutor, executors, Option.map_none, ite_self]
    stopped := fun stopped => by
      rw [← owned.stopped stopped]
      cases pool <;>
        simp [HostRuntime.hasRuntimeResources, HostRuntime.quiesced, HostRuntime.setExecutor] }

theorem Owned.poolClosed (drained : host.outstanding pool = 0) :
    Owned { host with runtime := host.runtime.setExecutor pool none } :=
  { owned with
    work := fun other absent => by
      simp only [HostRuntime.setExecutor] at absent
      split at absent
      · rename_i same
        rw [same]
        exact drained
      · exact owned.work other absent
    released := fun released => by
      obtain ⟨executors, rest⟩ := owned.released released
      refine ⟨fun other => ?_, rest⟩
      simp only [HostRuntime.setExecutor, executors, ite_self]
    stopped := fun stopped => by
      have none := owned.stopped stopped
      cases pool <;> simp_all [HostRuntime.hasRuntimeResources, HostRuntime.setExecutor] }

theorem Owned.serverClosed (ended : host.serverRunning = false) :
    Owned { host with runtime := { host.runtime with serverStarted := false } } :=
  { owned with
    server := fun running => by cases ended.symm.trans running
    released := fun released => by
      obtain ⟨executors, _, rest⟩ := owned.released released
      exact ⟨executors, rfl, rest⟩
    stopped := fun stopped => by
      have none := owned.stopped stopped
      simp_all [HostRuntime.hasRuntimeResources] }

theorem Owned.loopbackClosed :
    Owned { host with runtime := { host.runtime with loopbackBound := false } } :=
  { owned with
    stopped := fun stopped => by
      have none := owned.stopped stopped
      simp_all [HostRuntime.hasRuntimeResources] }

theorem Owned.registryClosed
    (removed : ∀ record ∈ host.registry, host.runtime.runId ≠ some record.runId) :
    Owned { host with runtime := { host.runtime with registryPublished := false } } :=
  { owned with
    identified := fun marked => owned.identified (marked.imp_right fun published => by cases published)
    record := fun record member same => absurd same (removed record member)
    released := fun released => by
      obtain ⟨executors, server, security, _⟩ := owned.released released
      exact ⟨executors, server, security, rfl⟩
    stopped := fun stopped => by
      have none := owned.stopped stopped
      simp_all [HostRuntime.hasRuntimeResources] }

theorem Owned.held_of_security (marked : host.runtime.securityStarted = true) : host.lockHeld := by
  by_contra released
  cases marked.symm.trans (owned.released released).2.2.1

theorem Owned.open_run (current : host.runtime.runId = some run)
    (marked : host.runtime.securityStarted = true) : openRun host.security = some run := by
  rw [owned.security, marked, if_pos rfl, current]

theorem Owned.closeRefused (current : host.runtime.runId = some run)
    (marked : host.runtime.securityStarted = true) :
    Owned { host with security := .closeRun run false :: host.security } :=
  { owned with
    security := owned.security
    disciplined := ⟨owned.open_run current marked, owned.disciplined⟩ }

theorem Owned.securityClosed (current : host.runtime.runId = some run)
    (marked : host.runtime.securityStarted = true) :
    Owned { host with
      security := .closeRun run true :: host.security
      runtime := { host.runtime with securityStarted := false } } :=
  { owned with
    security := by
      simp only [openRun, owned.open_run current marked, if_true]
      rfl
    disciplined := ⟨owned.open_run current marked, owned.disciplined⟩
    identified := fun marked => owned.identified (marked.imp_left fun started => by cases started)
    released := fun released => absurd (owned.held_of_security marked) released
    stopped := fun stopped => by
      have none := owned.stopped stopped
      simp_all [HostRuntime.hasRuntimeResources] }

end

end Soma.Runtime
