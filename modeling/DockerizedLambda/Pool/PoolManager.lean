import DockerizedLambda.Lib.Table
import DockerizedLambda.Pool.Config
import DockerizedLambda.Pool.Host

/-! `HostPoolManager`. Every task of the pool is cut at its awaits and at the points
where it takes or releases the state lock; a step of the model is one piece of one task,
in any order the lock allows. A critical section that awaits something keeps the lock,
with what it holds in its local variables, as the `Guard`.

Dropping a host or a port that a task has let go of is a step of its own, and so is the
drop of the port after the host that owned it: the model has every interleaving of the
source and may delay a drop further. -/

namespace DockerizedLambda

open Transition

structure HostPoolManagerState where
  availableHosts : List HostInstance
  leasedHosts : Table Uuid HostInstance

/-- `spawn_new_host` and the `create_container` inside it, by the call being awaited. -/
inductive Spawn
  | allocate
  | create (port : AllocatedPort)
  | start (port : AllocatedPort) (containerId : ContainerId)
  | inspect (port : AllocatedPort) (containerId : ContainerId)
deriving DecidableEq, Repr

/-- Who runs `spawn_new_host`: a request's `lease_host`, or `run_scaling_policy` with the
iterations still to come after this one. -/
inductive Spawner
  | leaseHost (request : Nat)
  | runScalingPolicy (remaining : Nat)
deriving DecidableEq, Repr

/-- The holder of the state lock, suspended inside its critical section. -/
inductive Guard
  | spawning (caller : Spawner) (spawn : Spawn)
  | returnHostInternal (leaseId : Uuid) (host : HostInstance)
  | reapExpiredHosts (rest expired stillValid : List HostInstance)
deriving DecidableEq, Repr

/-- A `lease_host` call that waits without the lock. -/
inductive LeaseStage
  | lockWait
  | readyWait (leaseId : Uuid) (containerId : ContainerId) (port : UInt16) (attempt : Nat)
  | relockWait (leaseId : Uuid) (containerId : ContainerId) (port : UInt16)
      (readyResult : Except PoolError Bool)
deriving DecidableEq, Repr

structure LeaseCall where
  request : Nat
  stage : LeaseStage
deriving DecidableEq, Repr

inductive ReturnStage
  | recv
  | lockWait (leaseId : Uuid)
  | checking (leaseId : Uuid)
deriving DecidableEq, Repr

inductive CleanupStage
  | recv
  | inspecting (containerId : ContainerId)
  | stopping (containerId : ContainerId)
deriving DecidableEq, Repr

inductive Worker
  | processHostLeaseReturns
  | handleContainerCleanup
  | reapExpiredHosts
  | runScalingPolicy
deriving DecidableEq, Repr

/-- `shutdown_all_containers`. From `drained` on it is remembered whether the drain loop
ended because it saw `leased_hosts` empty. -/
inductive ShutdownStage
  | notStarted
  | draining (startTime : Nat)
  | drained (sawEmpty : Bool)
  | aborted (sawEmpty : Bool)
  | collected (sawEmpty : Bool) (allHosts : List HostInstance)
  | cleaning (sawEmpty : Bool) (containers : List ContainerId)
  | stopping (sawEmpty : Bool) (containerId : ContainerId) (rest : List ContainerId)
  | complete (sawEmpty : Bool)
deriving DecidableEq, Repr

def leaseReleaseCapacity : Nat := 1000
def cleanupCapacity : Nat := 1000

structure HostPoolManager where
  state : HostPoolManagerState
  guard : Option Guard
  shutdownFlag : Bool
  leaseRelease : Channel Uuid leaseReleaseCapacity
  cleanup : Channel ContainerId cleanupCapacity
  portManager : PortManager
  docker : Docker
  clock : Nat
  calls : List LeaseCall
  leases : List HostLease
  returns : ReturnStage
  cleaner : CleanupStage
  dead : List Worker
  shutdown : ShutdownStage
  /-- Hosts and ports whose owner has let go of them and whose `drop` is still to run. -/
  dropping : List HostInstance
  droppingPorts : List AllocatedPort
  /-- History: the results of `lease_host`, the lease ids drawn, the container ids that
  `create_container` returned, those that the drop of a host could and could not send for
  cleanup, and those the cleanup task has dealt with. -/
  returned : List (Nat × Except PoolError HostLease)
  issued : List Uuid
  spawned : List ContainerId
  sent : List ContainerId
  unsent : List ContainerId
  stopped : List ContainerId
  stopFailed : List ContainerId

def Spawn.port : Spawn → Option AllocatedPort
  | .allocate => none
  | .create port => some port
  | .start port _ => some port
  | .inspect port _ => some port

def Spawn.call : Spawn → Option DockerCall
  | .allocate => none
  | .create port => some (.create port.port)
  | .start _ containerId => some (.start containerId)
  | .inspect _ _ => none

def ShutdownStage.workersAborted : ShutdownStage → Bool
  | .notStarted | .draining _ | .drained _ => false
  | _ => true

/-- The lock after one iteration of the caller's spawn: `lease_host` releases it, the loop
of `run_scaling_policy` keeps it until its last iteration. -/
def Spawner.next : Spawner → Option Guard
  | .leaseHost _ => none
  | .runScalingPolicy 0 => none
  | .runScalingPolicy (n + 1) => some (.spawning (.runScalingPolicy n) .allocate)

def Spawner.failed (error : PoolError) : Spawner → List (Nat × Except PoolError HostLease)
  | .leaseHost request => [(request, .error error)]
  | .runScalingPolicy _ => []

namespace HostPoolManager

def new (cfg : PoolConfig) : HostPoolManager where
  state := ⟨[], ∅⟩
  guard := none
  shutdownFlag := false
  leaseRelease := Channel.empty
  cleanup := Channel.empty
  portManager := PortManager.new cfg.portRange
  docker := Docker.empty
  clock := 0
  calls := []
  leases := []
  returns := .recv
  cleaner := .recv
  dead := []
  shutdown := .notStarted
  dropping := []
  droppingPorts := []
  returned := []
  issued := []
  spawned := []
  sent := []
  unsent := []
  stopped := []
  stopFailed := []

/-! ### Drops -/

/-- `HostInstance::drop`: the container id is sent for cleanup, and a refusal only logged.
The port field is left to be dropped next. -/
def dropHost (s : HostPoolManager) (host : HostInstance) : HostPoolManager :=
  { s with
    cleanup := s.cleanup.offer host.containerId
    sent := if s.cleanup.accepts then s.sent ++ [host.containerId] else s.sent
    unsent := if s.cleanup.accepts then s.unsent else host.containerId :: s.unsent
    droppingPorts := host.allocatedPort :: s.droppingPorts }

def dropPort (s : HostPoolManager) (port : AllocatedPort) : HostPoolManager :=
  { s with portManager := s.portManager.drop port }

def dropLease (s : HostPoolManager) (lease : HostLease) : HostPoolManager :=
  { s with
    leases := s.leases.erase lease
    leaseRelease := s.leaseRelease.offer lease.leaseId }

def dropSpawn (s : HostPoolManager) (spawn : Spawn) : HostPoolManager :=
  { s with
    portManager := spawn.port.elim s.portManager s.portManager.drop
    docker := spawn.call.elim s.docker s.docker.abandon }

/-! ### Tasks -/

/-- An aborted task is torn down at its next pending await: it still runs through a lock
or a channel that lets it pass at once, never through a call to the daemon. -/
def polled (s : HostPoolManager) (w : Worker) : Prop :=
  w ∉ s.dead ∧ s.shutdown.workersAborted = false

instance (s : HostPoolManager) (w : Worker) : Decidable (s.polled w) :=
  inferInstanceAs (Decidable (_ ∧ _))

def callerPolled (s : HostPoolManager) : Spawner → Prop
  | .leaseHost _ => True
  | .runScalingPolicy _ => s.polled .runScalingPolicy

instance (s : HostPoolManager) (caller : Spawner) : Decidable (s.callerPolled caller) :=
  match caller with
  | .leaseHost _ => inferInstanceAs (Decidable True)
  | .runScalingPolicy _ => inferInstanceAs (Decidable (s.polled _))

/-! ### `lease_host` -/

/-- Up to the first await: the shutdown flag is read, the state lock is asked for. -/
def leaseHost (s : HostPoolManager) (request : Nat) : HostPoolManager :=
  if s.shutdownFlag then
    { s with returned := (request, .error .shuttingDown) :: s.returned }
  else { s with calls := ⟨request, .lockWait⟩ :: s.calls }

def insertLease (s : HostPoolManager) (request : Nat) (leaseId : Uuid) (host : HostInstance) :
    HostPoolManager :=
  let containerId := host.containerId
  let port := host.allocatedPort.port
  let state := { s.state with leasedHosts := s.state.leasedHosts.insert leaseId host }
  if host.healthCheckTested then
    { s with
      guard := none, state, issued := leaseId :: s.issued
      leases := ⟨containerId, port, leaseId⟩ :: s.leases
      returned := (request, .ok ⟨containerId, port, leaseId⟩) :: s.returned }
  else
    { s with
      guard := none, state, issued := leaseId :: s.issued
      calls := ⟨request, .readyWait leaseId containerId port 1⟩ :: s.calls }

def leaseHostLocked (cfg : PoolConfig) (s : HostPoolManager) (request : Nat) (leaseId : Uuid) :
    Option HostPoolManager :=
  if ⟨request, .lockWait⟩ ∈ s.calls ∧ s.guard = none ∧ leaseId ∉ s.issued then
    let s := { s with calls := s.calls.erase ⟨request, .lockWait⟩ }
    match s.state.availableHosts with
    | host :: rest =>
      some ({ s with state := { s.state with availableHosts := rest } }.insertLease
        request leaseId host)
    | [] =>
      -- only the leased hosts count, as no host is idle here
      if cfg.maxInstances ≤ Table.size s.state.leasedHosts then
        some { s with returned := (request, .error .maxInstancesReached) :: s.returned }
      else some { s with guard := some (.spawning (.leaseHost request) .allocate) }
  else none

def healthChecked (s : HostPoolManager) (call : LeaseCall) (probe : Probe) :
    Option HostPoolManager :=
  match call.stage with
  | .readyWait leaseId containerId port attempt =>
    if call ∈ s.calls then
      let stage := match readyAttempt attempt (healthCheck probe) with
        | some readyResult => .relockWait leaseId containerId port readyResult
        -- the sleep until the next attempt is whatever ticks come before its step
        | none => .readyWait leaseId containerId port (attempt + 1)
      some { s with calls := ⟨call.request, stage⟩ :: s.calls.erase call }
    else none
  | _ => none

def removeDead (s : HostPoolManager) (leaseId : Uuid) : HostPoolManager :=
  { s with
    state := { s.state with leasedHosts := s.state.leasedHosts.erase leaseId }
    dropping := (s.state.leasedHosts.lookup leaseId).toList ++ s.dropping }

def leaseHostRelocked (s : HostPoolManager) (call : LeaseCall) : Option HostPoolManager :=
  match call.stage with
  | .relockWait leaseId containerId port readyResult =>
    if call ∈ s.calls ∧ s.guard = none then
      let s := { s with calls := s.calls.erase call }
      match readyResult with
      | .ok true =>
        match s.state.leasedHosts.lookup leaseId with
        | some host =>
          let host := { host with healthCheckTested := true }
          let lease : HostLease := ⟨containerId, port, leaseId⟩
          some { s with
            state := { s.state with leasedHosts := s.state.leasedHosts.insert leaseId host }
            leases := lease :: s.leases
            returned := (call.request, .ok lease) :: s.returned }
        -- only the shutdown can have taken the entry of a lease that is not out yet
        | none =>
          some { s with returned := (call.request, .error (.invalidLease leaseId)) :: s.returned }
      | .ok false =>
        some { s.removeDead leaseId with
          returned := (call.request, .error .containerNotReady) :: s.returned }
      | .error e =>
        some { s.removeDead leaseId with
          returned := (call.request, .error e) :: s.returned }
    else none
  | _ => none

def cancelLease (s : HostPoolManager) (call : LeaseCall) : Option HostPoolManager :=
  if call ∈ s.calls then some { s with calls := s.calls.erase call } else none

def cancelSpawn (s : HostPoolManager) : Option HostPoolManager :=
  match s.guard with
  | some (.spawning (.leaseHost _) spawn) =>
    -- a container created by then has no `HostInstance` and is never sent for cleanup
    some { s.dropSpawn spawn with guard := none }
  | _ => none

/-! ### `spawn_new_host` -/

def spawnFailed (s : HostPoolManager) (caller : Spawner) (error : PoolError) : HostPoolManager :=
  { s with guard := caller.next, returned := caller.failed error ++ s.returned }

def allocatePort (s : HostPoolManager) : Option HostPoolManager :=
  match s.guard with
  | some (.spawning caller .allocate) =>
    match s.portManager.allocatePort with
    | (.ok port, portManager) =>
      some { s with portManager, guard := some (.spawning caller (.create port)) }
    | (.error e, portManager) =>
      some ({ s with portManager }.spawnFailed caller (.portAllocation e))
  | _ => none

def createContainer (s : HostPoolManager) (result : Except DockerError ContainerId) :
    Option HostPoolManager :=
  match s.guard with
  | some (.spawning caller (.create port)) =>
    if s.callerPolled caller then
      match result with
      | .ok containerId =>
        if containerId ∈ s.docker.ids then none
        else some { s with
          docker := s.docker.create containerId port.port
          guard := some (.spawning caller (.start port containerId)) }
      | .error e =>
        some ({ s.dropPort port with docker := s.docker.createFailed port.port e }.spawnFailed
          caller (.docker e))
    else none
  | _ => none

/-- The daemon creates the container, but `create_container` sees an error. -/
def createUnanswered (s : HostPoolManager) (containerId : ContainerId) (e : ApiError) :
    Option HostPoolManager :=
  match s.guard with
  | some (.spawning caller (.create port)) =>
    if s.callerPolled caller ∧ containerId ∉ s.docker.ids then
      some ({ s.dropPort port with docker := s.docker.create containerId port.port }.spawnFailed
        caller (.docker (.api e)))
    else none
  | _ => none

def startContainer (s : HostPoolManager) (result : Except ApiError Unit) :
    Option HostPoolManager :=
  match s.guard with
  | some (.spawning caller (.start port containerId)) =>
    if s.callerPolled caller then
      match result with
      | .ok _ =>
        some { s with
          docker := s.docker.update containerId .start
          guard := some (.spawning caller (.inspect port containerId)) }
      -- the port goes back, and nothing removes the created container
      | .error e =>
        some ({ s.dropPort port with docker := s.docker.abandon (.start containerId) }.spawnFailed
          caller (.docker (.api e)))
    else none
  | _ => none

def startUnanswered (s : HostPoolManager) (e : ApiError) : Option HostPoolManager :=
  match s.guard with
  | some (.spawning caller (.start port containerId)) =>
    if s.callerPolled caller then
      some ({ s.dropPort port with docker := s.docker.update containerId .start }.spawnFailed
        caller (.docker (.api e)))
    else none
  | _ => none

/-- The inspection of a started container is only logged, whatever it answers. -/
def inspectContainer (s : HostPoolManager) (_result : Except ApiError Unit) (leaseId : Uuid) :
    Option HostPoolManager :=
  match s.guard with
  | some (.spawning caller (.inspect port containerId)) =>
    if s.callerPolled caller then
      let host := HostInstance.new containerId port s.clock
      -- `create_container` returns here
      let s := { s with spawned := containerId :: s.spawned }
      match caller with
      | .leaseHost request =>
        if leaseId ∈ s.issued then none else some (s.insertLease request leaseId host)
      | .runScalingPolicy _ =>
        some { s with
          state := { s.state with availableHosts := s.state.availableHosts ++ [host] }
          guard := caller.next }
    else none
  | _ => none

/-! ### `process_host_lease_returns` -/

def recvReturn (s : HostPoolManager) : Option HostPoolManager :=
  if .processHostLeaseReturns ∉ s.dead ∧ s.returns = .recv then
    s.leaseRelease.recv.map fun (leaseId, leaseRelease) =>
      { s with leaseRelease, returns := .lockWait leaseId }
  else none

def returnHostLocked (cfg : PoolConfig) (s : HostPoolManager) : Option HostPoolManager :=
  match s.returns with
  | .lockWait leaseId =>
    if .processHostLeaseReturns ∉ s.dead ∧ s.guard = none then
      let leasedHosts := s.state.leasedHosts.erase leaseId
      match s.state.leasedHosts.lookup leaseId with
      | some host =>
        -- expiry is tested before the daemon is asked; the expired host is dropped unlocked
        if host.isExpired s.clock cfg.instanceTtl then
          some { s with
            state := { s.state with leasedHosts }
            returns := .recv
            dropping := host :: s.dropping }
        else
          some { s with
            state := { s.state with leasedHosts }
            returns := .checking leaseId
            guard := some (.returnHostInternal leaseId host) }
      | none => some { s with returns := .recv }   -- Err(InvalidLease), logged by the worker
    else none
  | _ => none

def containerInfo (s : HostPoolManager) (result : Except ApiError Unit) : Option HostPoolManager :=
  match s.guard with
  | some (.returnHostInternal _ host) =>
    if s.polled .processHostLeaseReturns then
      match result with
      | .ok _ =>
        some { s with
          state := { s.state with availableHosts := s.state.availableHosts ++ [host] }
          guard := none
          returns := .recv }
      | .error _ => some { s.dropHost host with guard := none, returns := .recv }
    else none
  | _ => none

/-! ### `handle_container_cleanup` -/

def recvCleanup (s : HostPoolManager) : Option HostPoolManager :=
  if .handleContainerCleanup ∉ s.dead ∧ s.cleaner = .recv then
    s.cleanup.recv.map fun (containerId, cleanup) =>
      { s with cleanup, cleaner := .inspecting containerId }
  else none

def cleanupDone (s : HostPoolManager) (containerId : ContainerId) :
    Except DockerError Unit → HostPoolManager
  | .ok _ => { s with cleaner := .recv, stopped := s.stopped ++ [containerId] }
  | .error _ => { s with cleaner := .recv, stopFailed := s.stopFailed ++ [containerId] }

def inspectCleanup (s : HostPoolManager) (result : Except ApiError Unit) : Option HostPoolManager :=
  match s.cleaner with
  | .inspecting containerId =>
    if s.polled .handleContainerCleanup then
      match stopContainerInspected result with
      | none => some { s with cleaner := .stopping containerId }
      | some done => some (s.cleanupDone containerId done)
    else none
  | _ => none

def stopCleanup (s : HostPoolManager) (result : Except ApiError Unit) : Option HostPoolManager :=
  match s.cleaner with
  | .stopping containerId =>
    if s.polled .handleContainerCleanup then
      match result with
      | .ok _ =>
        some ({ s with docker := s.docker.update containerId .stop }.cleanupDone
          containerId (.ok ()))
      | .error e => some (s.cleanupDone containerId (.error (.api e)))
    else none
  | _ => none

/-! ### `reap_expired_hosts` -/

def lockReap (s : HostPoolManager) : Option HostPoolManager :=
  if .reapExpiredHosts ∉ s.dead ∧ s.guard = none then
    some { s with
      state := { s.state with availableHosts := [] }
      guard := some (.reapExpiredHosts s.state.availableHosts [] []) }
  else none

/-- The partition tests the hosts one by one, each at the time its turn comes. -/
def testReap (cfg : PoolConfig) (s : HostPoolManager) : Option HostPoolManager :=
  match s.guard with
  | some (.reapExpiredHosts (host :: rest) expired stillValid) =>
    if host.isExpired s.clock cfg.instanceTtl then
      some { s with guard := some (.reapExpiredHosts rest (expired ++ [host]) stillValid) }
    else some { s with guard := some (.reapExpiredHosts rest expired (stillValid ++ [host])) }
  | _ => none

def unlockReap (s : HostPoolManager) : Option HostPoolManager :=
  match s.guard with
  | some (.reapExpiredHosts [] expired stillValid) =>
    some { s with
      state := { s.state with availableHosts := stillValid }
      guard := none
      -- `expired` outlives the lock guard
      dropping := expired ++ s.dropping }
  | _ => none

/-! ### `run_scaling_policy` -/

def lockScaling (cfg : PoolConfig) (s : HostPoolManager) : Option HostPoolManager :=
  if .runScalingPolicy ∉ s.dead ∧ s.guard = none then
    let totalHostCount := Table.size s.state.leasedHosts + s.state.availableHosts.length
    let needed := cfg.minInstances - totalHostCount
    -- a spawn that fails is not tried again: the loop runs `needed` times in any case
    match needed with
    | 0 => some s
    | n + 1 => some { s with guard := some (.spawning (.runScalingPolicy n) .allocate) }
  else none

/-! ### `shutdown_all_containers` -/

def shutdownTimeout : Nat := 30 * nanosPerSecond

def startShutdown (s : HostPoolManager) : Option HostPoolManager :=
  if s.shutdown = .notStarted then
    some { s with shutdownFlag := true, shutdown := .draining s.clock }
  else none

def sampleDrain (s : HostPoolManager) : Option HostPoolManager :=
  match s.shutdown with
  | .draining startTime =>
    if s.guard = none then
      if Table.size s.state.leasedHosts = 0 then some { s with shutdown := .drained true }
      -- timed out: hosts may still be leased from here on
      else if shutdownTimeout < s.clock - startTime then
        some { s with shutdown := .drained false }
      else some s
    else none
  | _ => none

def abortWorkers (s : HostPoolManager) : Option HostPoolManager :=
  match s.shutdown with
  -- `abort` only asks: each worker stops by a step of its own
  | .drained sawEmpty => some { s with shutdown := .aborted sawEmpty }
  | _ => none

/-- An aborted worker is torn down where it waits: its locals and its receiver are dropped.
The reaper never waits inside its critical section. -/
def tearDown (s : HostPoolManager) : Worker → Option HostPoolManager
  | .processHostLeaseReturns =>
    let s := { s with
      leaseRelease := s.leaseRelease.close
      returns := .recv
      dead := .processHostLeaseReturns :: s.dead }
    match s.guard with
    | some (.returnHostInternal _ host) => some { s.dropHost host with guard := none }
    | _ => some s
  | .handleContainerCleanup =>
    -- the ids still queued and the one in hand are lost with the task
    some { s with
      cleanup := s.cleanup.close
      cleaner := .recv
      dead := .handleContainerCleanup :: s.dead }
  | .reapExpiredHosts =>
    match s.guard with
    | some (.reapExpiredHosts _ _ _) => none
    | _ => some { s with dead := .reapExpiredHosts :: s.dead }
  | .runScalingPolicy =>
    let s := { s with dead := .runScalingPolicy :: s.dead }
    match s.guard with
    | some (.spawning (.runScalingPolicy _) spawn) =>
      some { s.dropSpawn spawn with guard := none }
    | _ => some s

def workerAborted (s : HostPoolManager) (w : Worker) : Option HostPoolManager :=
  if s.shutdown.workersAborted ∧ w ∉ s.dead then s.tearDown w else none

def collectAllHosts (s : HostPoolManager) : Option HostPoolManager :=
  match s.shutdown with
  | .aborted sawEmpty =>
    if s.guard = none then
      some { s with
        state := ⟨[], ∅⟩
        shutdown := .collected sawEmpty
          (s.state.availableHosts ++ Table.values s.state.leasedHosts) }
    else none
  | _ => none

def dropCollected (s : HostPoolManager) : Option HostPoolManager :=
  match s.shutdown with
  | .collected sawEmpty (host :: rest) =>
    some ({ s with shutdown := .collected sawEmpty rest }.dropHost host)
  | _ => none

def listManagedContainers (s : HostPoolManager) (result : Except ApiError Unit) :
    Option HostPoolManager :=
  match s.shutdown with
  | .collected sawEmpty [] =>
    match result with
    | .ok _ => some { s with shutdown := .cleaning sawEmpty s.docker.present }
    | .error _ => some { s with shutdown := .complete sawEmpty }
  | _ => none

/-- The first half of a forced `stop_container`. Its errors are ignored. -/
def forceInspect (s : HostPoolManager) (result : Except ApiError Unit) : Option HostPoolManager :=
  match s.shutdown with
  | .cleaning sawEmpty (containerId :: rest) =>
    match stopContainerInspected result with
    | none => some { s with shutdown := .stopping sawEmpty containerId rest }
    | some _ => some { s with shutdown := .cleaning sawEmpty rest }
  | _ => none

def forceStop (s : HostPoolManager) (result : Except ApiError Unit) : Option HostPoolManager :=
  match s.shutdown with
  | .stopping sawEmpty containerId rest =>
    match result with
    | .ok _ =>
      some { s with
        docker := s.docker.update containerId .stop
        shutdown := .cleaning sawEmpty rest }
    | .error _ => some { s with shutdown := .cleaning sawEmpty rest }
  | .cleaning sawEmpty [] => some { s with shutdown := .complete sawEmpty }
  | _ => none

/-! ### The system -/

inductive Action
  | tick (elapsed : Nat)
  | leaseHost (request : Nat)
  | leaseHostLocked (request : Nat) (leaseId : Uuid)
  | healthChecked (call : LeaseCall) (probe : Probe)
  | leaseHostRelocked (call : LeaseCall)
  | cancelLease (call : LeaseCall)
  | cancelSpawn
  | allocatePort
  | createContainer (result : Except DockerError ContainerId)
  | createUnanswered (containerId : ContainerId) (error : ApiError)
  | startContainer (result : Except ApiError Unit)
  | startUnanswered (error : ApiError)
  | inspectContainer (result : Except ApiError Unit) (leaseId : Uuid)
  | dropLease (lease : HostLease)
  | dropHost (host : HostInstance)
  | dropPort (port : AllocatedPort)
  | recvReturn
  | returnHostLocked
  | containerInfo (result : Except ApiError Unit)
  | recvCleanup
  | inspectCleanup (result : Except ApiError Unit)
  | stopCleanup (result : Except ApiError Unit)
  | lockReap
  | testReap
  | unlockReap
  | lockScaling
  | recvPort
  | reinsertPort
  | startShutdown
  | sampleDrain
  | abortWorkers
  | workerAborted (worker : Worker)
  | collectAllHosts
  | dropCollected
  | listManagedContainers (result : Except ApiError Unit)
  | forceInspect (result : Except ApiError Unit)
  | forceStop (result : Except ApiError Unit)
  | daemon (event : DaemonEvent)
deriving DecidableEq, Repr

def step (cfg : PoolConfig) (s : HostPoolManager) : Action → Option HostPoolManager
  | .tick elapsed => some { s with clock := s.clock + elapsed }
  | .leaseHost request => some (s.leaseHost request)
  | .leaseHostLocked request leaseId => s.leaseHostLocked cfg request leaseId
  | .healthChecked call probe => s.healthChecked call probe
  | .leaseHostRelocked call => s.leaseHostRelocked call
  | .cancelLease call => s.cancelLease call
  | .cancelSpawn => s.cancelSpawn
  | .allocatePort => s.allocatePort
  | .createContainer result => s.createContainer result
  | .createUnanswered containerId error => s.createUnanswered containerId error
  | .startContainer result => s.startContainer result
  | .startUnanswered error => s.startUnanswered error
  | .inspectContainer result leaseId => s.inspectContainer result leaseId
  | .dropLease lease => if lease ∈ s.leases then some (s.dropLease lease) else none
  | .dropHost host =>
    if host ∈ s.dropping then some ({ s with dropping := s.dropping.erase host }.dropHost host)
    else none
  | .dropPort port =>
    if port ∈ s.droppingPorts then
      some ({ s with droppingPorts := s.droppingPorts.erase port }.dropPort port)
    else none
  | .recvReturn => s.recvReturn
  | .returnHostLocked => s.returnHostLocked cfg
  | .containerInfo result => s.containerInfo result
  | .recvCleanup => s.recvCleanup
  | .inspectCleanup result => s.inspectCleanup result
  | .stopCleanup result => s.stopCleanup result
  | .lockReap => s.lockReap
  | .testReap => s.testReap cfg
  | .unlockReap => s.unlockReap
  | .lockScaling => s.lockScaling cfg
  | .recvPort => s.portManager.recvPort.map fun portManager => { s with portManager }
  | .reinsertPort => s.portManager.reinsert.map fun portManager => { s with portManager }
  | .startShutdown => s.startShutdown
  | .sampleDrain => s.sampleDrain
  | .abortWorkers => s.abortWorkers
  | .workerAborted worker => s.workerAborted worker
  | .collectAllHosts => s.collectAllHosts
  | .dropCollected => s.dropCollected
  | .listManagedContainers result => s.listManagedContainers result
  | .forceInspect result => s.forceInspect result
  | .forceStop result => s.forceStop result
  | .daemon event => (s.docker.act event).map fun docker => { s with docker }

def system (cfg : PoolConfig) : System HostPoolManager Action := ⟨new cfg, step cfg⟩

def leaseSpawned (request : Nat) (leaseId : Uuid) (containerId : ContainerId) (port : UInt16) :
    List Action :=
  [.leaseHost request, .leaseHostLocked request leaseId, .allocatePort,
    .createContainer (.ok containerId), .startContainer (.ok ()),
    .inspectContainer (.ok ()) leaseId,
    .healthChecked ⟨request, .readyWait leaseId containerId port 1⟩ (.response true),
    .leaseHostRelocked ⟨request, .relockWait leaseId containerId port (.ok true)⟩]

end HostPoolManager

end DockerizedLambda
