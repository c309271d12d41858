import Soma.Theory.Crash
import Soma.Foundation.Errors

/-!
`runtime/host.py`: the life cycle of one host process over a data instance.

The host's own fields change only in its methods. The writers it admitted, the
work it accepted and the server it started go on by themselves, so every atomic
step of a method is preceded by whatever they do (`Turn`), and every call to a
collaborator may raise. What the collaborators keep, the registry file and the
calls the security provider has seen, is part of the state.

Run identifiers come from `new_uuid4`; they are numbered in the order they are
drawn, so that a new one is none of the earlier ones. The text of foreign
exceptions is left out of cleanup messages.
-/

namespace Soma.Runtime

open Crash Foundation Programs

abbrev RunId := Nat

inductive HostState where
  | starting
  | migrating
  | verifying
  | listeningNotReady
  | ready
  | quiescing
  | stopped
  | failed
  deriving DecidableEq

structure WriteAdmissionGate where
  accepting : Bool
  active : Nat

def WriteAdmissionGate.quiesce (gate : WriteAdmissionGate) : WriteAdmissionGate :=
  { gate with accepting := false }

def WriteAdmissionGate.reopen (gate : WriteAdmissionGate) : Except Raised WriteAdmissionGate :=
  if gate.active = 0 then .ok { gate with accepting := true } else .error .other

def WriteAdmissionGate.enter (gate : WriteAdmissionGate) : Except Raised WriteAdmissionGate :=
  if gate.accepting then .ok { gate with active := gate.active + 1 }
  else .error (.soma ⟨.somaError, "HOST_QUIESCING", "new authoritative writes are disabled", false⟩)

def WriteAdmissionGate.exit (gate : WriteAdmissionGate) : Except Raised WriteAdmissionGate :=
  if 0 < gate.active then .ok { gate with active := gate.active - 1 } else .error .other

/-- The two executors of a host. -/
inductive Pool where
  | request
  | background
  deriving DecidableEq

def Pool.fieldName : Pool → String
  | .request => "_request_executor"
  | .background => "_background_executor"

/-- `HostExecutor`, less its futures, which are counted in the host's state. -/
structure HostExecutor where
  accepting : Bool

structure DataInstanceLock where
  held : Bool
  deriving DecidableEq

/-- The fields of `RuntimeRegistryRecord` that `remove_owned` compares. -/
structure RuntimeRegistryRecord where
  runId : RunId
  dataInstanceId : String
  deriving DecidableEq

/-- A call the security provider has seen. -/
inductive SecurityCall where
  | prepareRun (run : RunId)
  | closeRun (run : RunId) (succeeded : Bool)

/-- The fields of a `HostRuntime`. -/
structure HostRuntime where
  targetMigrationSequence : Nat
  state : HostState
  lock : Option DataInstanceLock
  loopbackBound : Bool
  executor : Pool → Option HostExecutor
  runId : Option RunId
  dataInstanceId : Option String
  migrationSequence : Nat
  integrityState : String
  registryPublished : Bool
  serverStarted : Bool
  securityStarted : Bool
  recentErrorCodes : List String

/-- A host and what it shares with others. -/
structure Host where
  runtime : HostRuntime
  gate : WriteAdmissionGate
  /-- Futures of the current executor that are not done. -/
  outstanding : Pool → Nat
  serverRunning : Bool
  registry : Option RuntimeRegistryRecord
  /-- The security provider's calls, latest first. -/
  security : List SecurityCall
  /-- The run whose migration sequence was verified last. -/
  verifiedRun : Option RunId
  /-- How many run identifiers have been drawn. -/
  drawn : RunId

/-- The canonical lock is held. -/
def Host.lockHeld (host : Host) : Prop := host.runtime.lock = some ⟨true⟩

instance (host : Host) : Decidable host.lockHeld :=
  inferInstanceAs (Decidable (_ = _))

/-- A host before its first start, over whatever an earlier process left in the registry. -/
def Host.initial (targetMigrationSequence : Nat) (registry : Option RuntimeRegistryRecord)
    (drawn : RunId) : Host where
  runtime := {
    targetMigrationSequence
    state := .stopped
    lock := none
    loopbackBound := false
    executor _ := none
    runId := none
    dataInstanceId := none
    migrationSequence := 0
    integrityState := "NOT_VERIFIED"
    registryPublished := false
    serverStarted := false
    securityStarted := false
    recentErrorCodes := [] }
  gate := ⟨false, 0⟩
  outstanding _ := 0
  serverRunning := false
  registry
  security := []
  verifiedRun := none
  drawn

/-! ## What goes on beside the host -/

/-- What writers, accepted work and the server do by themselves. -/
inductive Other where
  | writerEnters
  | writerLeaves
  | workSubmitted (pool : Pool)
  | workEnds (pool : Pool)
  | serverEnds

def Host.setOutstanding (host : Host) (pool : Pool) (count : Nat) : Host :=
  { host with outstanding := fun other => if other = pool then count else host.outstanding other }

def Other.act (host : Host) : Other → Host
  | .writerEnters => { host with gate := host.gate.enter.toOption.getD host.gate }
  | .writerLeaves => { host with gate := host.gate.exit.toOption.getD host.gate }
  | .workSubmitted pool =>
    -- `HostExecutor.submit` refuses once the executor is quiesced
    if (host.runtime.executor pool).any (·.accepting) then
      host.setOutstanding pool (host.outstanding pool + 1)
    else host
  | .workEnds pool => host.setOutstanding pool (host.outstanding pool - 1)
  | .serverEnds => { host with serverRunning := false }

/-- What happens at one step of a method: first what others do, then the step,
which may be a call that raises. -/
structure Turn where
  others : List Other := []
  fate : Fate := .completes
  error : Raised := .other
  /-- What the call waits for ends before its deadline. -/
  timely : Bool := true
  /-- `publish` raised only after its `os.replace`. -/
  late : Bool := false
  /-- What a database read or a health probe finds. -/
  identity : String × Nat := ("", 0)
  healthy : Bool := true

def Host.after (host : Host) (turn : Turn) : Host :=
  turn.others.foldl Other.act host

abbrev HostProgram (Result : Type) := Program Host Turn Raised Result

/-- One statement of the host itself. -/
def step (change : Host → Host) : HostProgram Unit :=
  perform fun event host =>
    let turn := event.getD {}
    match turn.fate with
    | .dies => (.died, host.after turn)
    | _ => (.returned (), change (host.after turn))

/-- One call to a collaborator; `failing` is what a call that raises has done. -/
def call {Result : Type} (effect : Turn → Host → Except Raised (Result × Host))
    (failing : Turn → Host → Host := fun _ host => host) : HostProgram Result :=
  perform fun event host =>
    let turn := event.getD {}
    match turn.fate with
    | .dies => (.died, host.after turn)
    | .fails => (.raised turn.error, failing turn (host.after turn))
    | .completes => settle (host.after turn) (effect turn (host.after turn))

/-- A call that changes nothing the host owns. -/
def callUnit : HostProgram Unit := call fun _ host => .ok ((), host)

def setRuntime (change : HostRuntime → HostRuntime) : HostProgram Unit :=
  step fun host => { host with runtime := change host.runtime }

def setState (state : HostState) : HostProgram Unit := setRuntime ({ · with state })

def quiesceGate : HostProgram Unit := step fun host => { host with gate := host.gate.quiesce }

def HostRuntime.setExecutor (runtime : HostRuntime) (pool : Pool) (value : Option HostExecutor) :
    HostRuntime :=
  { runtime with executor := fun other => if other = pool then value else runtime.executor other }

/-- The executor of a pool, when there is one, accepts no more work. -/
def HostRuntime.quiesced (runtime : HostRuntime) (pool : Pool) : HostRuntime :=
  runtime.setExecutor pool ((runtime.executor pool).map fun _ => ⟨false⟩)

/-! ## Diagnostics -/

/-- `re.fullmatch(r"[A-Z][A-Z0-9_]{0,63}", code)`. -/
def validErrorCode (code : String) : Bool :=
  match code.toList with
  | [] => false
  | first :: rest => ('A' ≤ first ∧ first ≤ 'Z') && rest.length ≤ 63 &&
      rest.all fun character => ('A' ≤ character ∧ character ≤ 'Z') ||
        ('0' ≤ character ∧ character ≤ '9') || character = '_'

/-- `exc.code if isinstance(exc, SomaError) else "INTERNAL_ERROR"`. -/
def errorCode : Raised → String
  | .soma error => error.code
  | .other => "INTERNAL_ERROR"

/-- `record_error_code`; the deque keeps the last 32. -/
def recordErrorCode (code : String) : HostProgram Unit := do
  check (ensure (validErrorCode code) .other)
  setRuntime fun runtime => { runtime with
    recentErrorCodes := (runtime.recentErrorCodes ++ [code]).drop (runtime.recentErrorCodes.length + 1 - 32) }

def hostError (code message : String) : Raised := .soma ⟨.somaError, code, message, false⟩

/-! ## Cleanup -/

def HostRuntime.hasRuntimeResources (runtime : HostRuntime) : Bool :=
  (runtime.executor .request).isSome || (runtime.executor .background).isSome ||
  runtime.serverStarted || runtime.loopbackBound || runtime.registryPublished ||
  runtime.securityStarted || runtime.lock.isSome

/-- `failures` by stage, and `retain_ownership`. -/
structure Cleanup where
  failures : List String := []
  retain : Bool := false

def Cleanup.fail (cleanup : Cleanup) (stage : String) : Cleanup :=
  { cleanup with failures := cleanup.failures ++ [stage] }

def Cleanup.failRetaining (cleanup : Cleanup) (stage : String) : Cleanup :=
  { failures := cleanup.failures ++ [stage], retain := true }

/-- `try: body / except BaseException: retain ownership / else: rest`. -/
def stage {Result : Type} (name : String) (cleanup : Cleanup) (body : HostProgram Result)
    (rest : Result → HostProgram Cleanup) : HostProgram Cleanup := do
  match ← caught body with
  | .error _ => return cleanup.failRetaining name
  | .ok value => rest value

/-- `HostExecutor.quiesce`. -/
def quiesceExecutor (pool : Pool) : HostProgram Unit :=
  call fun _ host => .ok ((), { host with runtime := host.runtime.quiesced pool })

/-- Quiesces an executor that is there. -/
def quiescePool (pool : Pool) (cleanup : Cleanup) : HostProgram Cleanup := do
  let host ← observe
  if (host.runtime.executor pool).isSome then
    stage (pool.fieldName ++ ".quiesce") cleanup (quiesceExecutor pool) fun _ => return cleanup
  else return cleanup

/-- `server.stop(timeout)`: a timely stop ends the server. -/
def stopServer : HostProgram Unit :=
  call fun turn host => .ok ((), { host with serverRunning := host.serverRunning && !turn.timely })

def serverIsStopped : HostProgram Bool :=
  handle (call fun _ host => .ok (!host.serverRunning, host)) fun _ => return false

/-- Asks the server to stop; a refusal is noted. -/
def requestStop (cleanup : Cleanup) : HostProgram Cleanup := do
  match ← caught stopServer with
  | .error _ => return cleanup.fail "server.stop"
  | .ok _ => return cleanup

/-- Believes only the probe. -/
def confirmStopped (cleanup : Cleanup) : HostProgram Cleanup := do
  if ← serverIsStopped then
    setRuntime ({ · with serverStarted := false })
    return cleanup
  else return cleanup.failRetaining "server.drain"

/-- The server's part of the cleanup. -/
def closeServer (cleanup : Cleanup) : HostProgram Cleanup := do
  let host ← observe
  if host.runtime.serverStarted then confirmStopped (← requestStop cleanup)
  else return cleanup

/-- `_loopback.close()` and forgetting the socket. -/
def closeLoopback (cleanup : Cleanup) : HostProgram Cleanup := do
  let host ← observe
  if host.runtime.loopbackBound then
    stage "loopback.close" cleanup callUnit fun _ => do
      setRuntime ({ · with loopbackBound := false })
      return cleanup
  else return cleanup

/-- `executor.state().outstanding == 0 or executor.drain(timeout)`: a timely
drain waits until all work is done. -/
def drainExecutor (pool : Pool) : HostProgram Bool :=
  call fun turn host =>
    let host := if turn.timely then host.setOutstanding pool 0 else host
    .ok (host.outstanding pool = 0, host)

/-- `executor.close()`, which cancels what has not begun, then its drain. -/
def closeExecutor (pool : Pool) (cleanup : Cleanup) : HostProgram Cleanup := do
  let host ← observe
  if (host.runtime.executor pool).isSome then
    stage (pool.fieldName ++ ".close") cleanup (quiesceExecutor pool) fun _ =>
      stage (pool.fieldName ++ ".drain") cleanup (drainExecutor pool) fun drained =>
        if drained then do
          setRuntime (·.setExecutor pool none)
          return cleanup
        else return cleanup.failRetaining (pool.fieldName ++ ".drain")
  else return cleanup

/-- `_write_gate.active == 0 or _write_gate.wait_for_drain(timeout)`. -/
def waitForDrain : HostProgram Bool :=
  call fun turn host =>
    let host := if turn.timely then { host with gate := { host.gate with active := 0 } } else host
    .ok (host.gate.active = 0, host)

def drainWrites (cleanup : Cleanup) : HostProgram Cleanup :=
  stage "write_gate.drain" cleanup waitForDrain fun drained =>
    return if drained then cleanup else cleanup.failRetaining "write_gate.drain"

/-- `close_run`; the provider sees the call whether or not it raises. -/
def closeRun (run : RunId) : HostProgram Unit :=
  call (fun _ host => .ok ((), { host with security := .closeRun run true :: host.security }))
    fun _ host => { host with security := .closeRun run false :: host.security }

def closeSecurity (cleanup : Cleanup) : HostProgram Cleanup := do
  let host ← observe
  match host.runtime.runId, host.runtime.dataInstanceId with
  | some run, some _ =>
    if cleanup.retain = false ∧ host.runtime.securityStarted then
      stage "run_security.close_run" cleanup (closeRun run) fun _ => do
        setRuntime ({ · with securityStarted := false })
        return cleanup
    else return cleanup
  | _, _ => return cleanup

/-- A registry once this record is gone; any other record stays. -/
def withoutRecord (registry : Option RuntimeRegistryRecord) (record : RuntimeRegistryRecord) :
    Option RuntimeRegistryRecord :=
  if registry = some record then none else registry

/-- `RuntimeRegistry.remove_owned`. -/
def removeOwned (record : RuntimeRegistryRecord) : HostProgram Unit :=
  call fun _ host => .ok ((), { host with registry := withoutRecord host.registry record })

def removeRegistry (cleanup : Cleanup) : HostProgram Cleanup := do
  let host ← observe
  match host.runtime.runId, host.runtime.dataInstanceId with
  | some run, some dataInstanceId =>
    if cleanup.retain = false ∧ host.runtime.registryPublished then
      stage "runtime_registry.remove_owned" cleanup (removeOwned ⟨run, dataInstanceId⟩) fun _ => do
        setRuntime ({ · with registryPublished := false })
        return cleanup
    else return cleanup
  | _, _ => return cleanup

/-- `DataInstanceLock.release`: closing the handle drops the lock even when
unlocking raised. -/
def releaseLock : HostProgram Unit :=
  let dropped (host : Host) : Host :=
    { host with runtime := { host.runtime with lock := host.runtime.lock.map fun _ => ⟨false⟩ } }
  call (fun _ host => .ok ((), dropped host)) fun _ => dropped

def closeLock (cleanup : Cleanup) : HostProgram Cleanup := do
  let host ← observe
  if cleanup.retain = false ∧ host.runtime.lock.isSome then
    match ← caught releaseLock with
    | .error _ => return cleanup.fail "instance_lock.release"
    | .ok _ =>
      setRuntime ({ · with lock := none })
      return cleanup
  else return cleanup

def closeRuntimeResources : HostProgram Unit := do
  quiesceGate
  let cleanup ← quiescePool .request {}
  let cleanup ← quiescePool .background cleanup
  let cleanup ← closeServer cleanup
  let cleanup ← closeLoopback cleanup
  let cleanup ← closeExecutor .request cleanup
  let cleanup ← closeExecutor .background cleanup
  let cleanup ← drainWrites cleanup
  let cleanup ← closeSecurity cleanup
  let cleanup ← removeRegistry cleanup
  let cleanup ← closeLock cleanup
  check (ensure (cleanup.failures = []) (hostError "INTERNAL_ERROR"
    ("runtime cleanup incomplete: " ++ "; ".intercalate cleanup.failures)))

def unwindFailedStart : HostProgram Unit :=
  handle closeRuntimeResources fun error => recordErrorCode (errorCode error)

/-! ## The methods -/

/-- Draws the identifier of a new run. -/
def newRun : HostProgram RunId := do
  let host ← observe
  step fun host => { host with
    runtime := { host.runtime with runId := some host.drawn }, drawn := host.drawn + 1 }
  return host.drawn

/-- `DataInstanceLock.acquire`. -/
def acquireLock : HostProgram Unit :=
  call fun _ host => .ok ((), { host with runtime := { host.runtime with lock := some ⟨true⟩ } })

/-- `_read_current_identity` and the fields it fills. -/
def readIdentity : HostProgram Unit :=
  call fun turn host => .ok ((), { host with runtime := { host.runtime with
    dataInstanceId := some turn.identity.1, migrationSequence := turn.identity.2 } })

/-- Ownership, migration and verification, up to the open write gate. -/
def takeOwnership : HostProgram RunId := do
  callUnit
  let run ← newRun
  acquireLock
  callUnit
  setState .migrating
  callUnit
  setState .verifying
  readIdentity
  let host ← observe
  check (ensure (host.runtime.migrationSequence = host.runtime.targetMigrationSequence)
    (integrityFailure "runtime migration sequence is not current"))
  step fun host => { host with
    runtime := { host.runtime with integrityState := "VERIFIED" }, verifiedRun := some run }
  call fun _ host => host.gate.reopen.map fun gate => ((), { host with gate })
  return run

/-- `HostExecutor(max_workers, name)`. -/
def createExecutor (pool : Pool) : HostProgram Unit :=
  call fun _ host => .ok ((), { host with runtime := host.runtime.setExecutor pool (some ⟨true⟩) })

/-- `prepare_run`; the provider sees the call whether or not it raises. -/
def prepareRun (run : RunId) : HostProgram Unit :=
  let seen (host : Host) : Host := { host with security := .prepareRun run :: host.security }
  call (fun _ host => .ok ((), seen host)) fun _ => seen

/-- `server.start`; one that raises may have left a listener running. -/
def startServer : HostProgram Unit :=
  let running (host : Host) : Host := { host with serverRunning := true }
  call (fun _ host => .ok ((), running host)) fun _ => running

/-- `RuntimeRegistry.publish`. -/
def publish (run : RunId) (dataInstanceId : String) : HostProgram Unit :=
  let replaced (host : Host) : Host := { host with registry := some ⟨run, dataInstanceId⟩ }
  call (fun _ host => .ok ((), replaced host)) fun turn host =>
    if turn.late then replaced host else host

/-- Executors, socket, security, server and registry, in this order. -/
def bringUp (run : RunId) : HostProgram Unit := do
  callUnit
  createExecutor .request
  createExecutor .background
  call fun _ host => .ok ((), { host with runtime := { host.runtime with loopbackBound := true } })
  -- cleanup ownership begins before the call, not after it
  setRuntime ({ · with securityStarted := true })
  prepareRun run
  setState .listeningNotReady
  setRuntime ({ · with serverStarted := true })
  startServer
  let host ← observe
  publish run (host.runtime.dataInstanceId.getD "")
  setRuntime ({ · with registryPublished := true })
  let healthy ← call fun turn host => .ok (turn.healthy, host)
  check (ensure healthy (hostError "SECURITY_NOT_READY"
    "authenticated runtime self-health did not verify current run"))
  setState .ready

/-- The `except` block of `start`. -/
def failStart (error : Raised) : HostProgram Unit := do
  recordErrorCode (errorCode error)
  quiesceGate
  setState .failed
  unwindFailedStart
  raise error

def alreadyOwned (message : String) : Raised := hostError "INSTANCE_OWNED" message

/-- `HostRuntime.start`. -/
def start : HostProgram Unit := do
  let host ← observe
  check (ensure (host.runtime.state = .stopped ∨ host.runtime.state = .failed)
    (alreadyOwned "this HostRuntime is already active"))
  check (ensure (¬ (host.runtime.state = .failed ∧ host.runtime.hasRuntimeResources = true))
    (alreadyOwned "failed runtime still owns resources pending safe cleanup"))
  setState .starting
  handle (do bringUp (← takeOwnership)) failStart

/-- What `quiesce` and `shutdown` answer. -/
inductive ShutdownState where
  | quiescing
  | alreadyQuiescing
  | stopped

/-- `ready` or `listeningNotReady`. -/
def HostState.available (state : HostState) : Bool :=
  state = .ready || state = .listeningNotReady

def quiesceIfPresent (pool : Pool) : HostProgram Unit := do
  let host ← observe
  if (host.runtime.executor pool).isSome then quiesceExecutor pool else pure ()

/-- `HostRuntime.quiesce`. -/
def quiesce : HostProgram ShutdownState := do
  let host ← observe
  check (ensure (host.runtime.runId.isSome ∧ host.runtime.dataInstanceId.isSome)
    (hostError "HOST_NOT_READY" "runtime is not active"))
  if host.runtime.state = .quiescing then return .alreadyQuiescing
  else
    check (ensure host.runtime.state.available
      (hostError "HOST_NOT_READY" "runtime cannot quiesce from current state"))
    quiesceGate
    setState .quiescing
    quiesceIfPresent .request
    quiesceIfPresent .background
    return .quiescing

/-- `HostRuntime.request_shutdown` for the run and data instance it names. The
command is one authoritative write: it needs the open gate and leaves it again. -/
def requestShutdown (run : RunId) (dataInstanceId : String) : HostProgram ShutdownState := do
  let host ← observe
  check (ensure (host.runtime.runId = some run ∧ host.runtime.dataInstanceId = some dataInstanceId)
    (hostError "FORBIDDEN" "shutdown run/data identity does not match current host"))
  if host.runtime.state = .quiescing then return .alreadyQuiescing
  else
    check (ensure host.runtime.state.available
      (hostError "HOST_NOT_READY" "runtime is not available for shutdown"))
    call fun _ host => host.gate.enter.map fun _ => ((), host)
    let _ ← quiesce
    return .quiescing

def drainIfPresent (pool : Pool) : HostProgram Bool := do
  let host ← observe
  if (host.runtime.executor pool).isSome then
    quiesceExecutor pool
    drainExecutor pool
  else return true

/-- Quiesces a host that is not quiescing yet. -/
def ensureQuiescing (state : HostState) : HostProgram Unit :=
  if state = .quiescing then pure ()
  else do
    let _ ← quiesce
    return ()

/-- `HostRuntime.shutdown`. -/
def shutdown (graceSeconds : Int) : HostProgram ShutdownState := do
  check (ensure (0 ≤ graceSeconds) .other)
  let host ← observe
  check (ensure (host.runtime.runId.isSome ∧ host.runtime.dataInstanceId.isSome)
    (hostError "HOST_NOT_READY" "runtime is not active"))
  ensureQuiescing host.runtime.state
  let drained ← waitForDrain
  check (ensure drained (hostError "INTERNAL_ERROR"
    "active authoritative writes did not drain before shutdown deadline"))
  let requests ← drainIfPresent .request
  let background ← drainIfPresent .background
  check (ensure (requests ∧ background) (hostError "INTERNAL_ERROR"
    "runtime work did not drain before shutdown deadline"))
  -- the truncating checkpoint
  callUnit
  closeRuntimeResources
  setState .stopped
  return .stopped

/-- `HostRuntime.retry_failed_cleanup`. -/
def retryFailedCleanup (graceSeconds : Int) : HostProgram Bool := do
  check (ensure (0 ≤ graceSeconds) .other)
  let host ← observe
  check (ensure (host.runtime.state = .failed)
    (hostError "HOST_NOT_READY" "only a failed runtime can retry cleanup"))
  closeRuntimeResources
  let host ← observe
  return !host.runtime.hasRuntimeResources

/-- What may be asked of a host, or nothing for a while. -/
inductive Operation where
  | start
  | requestShutdown (run : RunId) (dataInstanceId : String)
  | quiesce
  | shutdown (graceSeconds : Int)
  | retryFailedCleanup (graceSeconds : Int)
  | meanwhile

def Operation.run : Operation → HostProgram Unit
  | .start => Runtime.start
  | .requestShutdown run dataInstanceId => do
    let _ ← Runtime.requestShutdown run dataInstanceId
    return ()
  | .quiesce => do
    let _ ← Runtime.quiesce
    return ()
  | .shutdown graceSeconds => do
    let _ ← Runtime.shutdown graceSeconds
    return ()
  | .retryFailedCleanup graceSeconds => do
    let _ ← Runtime.retryFailedCleanup graceSeconds
    return ()
  | .meanwhile => step fun host => host

end Soma.Runtime
