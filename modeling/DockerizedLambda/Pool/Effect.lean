import DockerizedLambda.Pool.PoolManager

/-! What one step of the pool can do: each branch of each task, with the guards under which
it is taken and the state it leaves. Every invariant is derived from this list. -/

namespace DockerizedLambda

open Transition

def Guard.ownStep : Guard → HostPoolManager.Action → Bool
  | .spawning _ _, .cancelSpawn => true
  | .spawning _ _, .allocatePort => true
  | .spawning _ _, .createContainer _ => true
  | .spawning _ _, .createUnanswered _ _ => true
  | .spawning _ _, .startContainer _ => true
  | .spawning _ _, .startUnanswered _ => true
  | .spawning _ _, .inspectContainer _ _ => true
  | .spawning _ _, .workerAborted .runScalingPolicy => true
  | .returnHostInternal _ _, .containerInfo _ => true
  | .returnHostInternal _ _, .workerAborted .processHostLeaseReturns => true
  | .reapExpiredHosts _ _ _, .testReap => true
  | .reapExpiredHosts _ _ _, .unlockReap => true
  | _, _ => false

namespace HostPoolManager

inductive Effect (cfg : PoolConfig) (s : HostPoolManager) : Action → HostPoolManager → Prop
  | tick (elapsed : Nat) : Effect cfg s (.tick elapsed) { s with clock := s.clock + elapsed }
  | leaseRefused {request : Nat} (hflag : s.shutdownFlag = true) :
      Effect cfg s (.leaseHost request)
        { s with returned := (request, .error .shuttingDown) :: s.returned }
  | leaseAsked {request : Nat} (hflag : s.shutdownFlag = false) :
      Effect cfg s (.leaseHost request) { s with calls := ⟨request, .lockWait⟩ :: s.calls }
  | leaseTested {request : Nat} {leaseId : Uuid} {host : HostInstance} {rest : List HostInstance}
      (hcall : ⟨request, .lockWait⟩ ∈ s.calls) (hguard : s.guard = none)
      (hfresh : leaseId ∉ s.issued) (havail : s.state.availableHosts = host :: rest)
      (htested : host.healthCheckTested = true) :
      Effect cfg s (.leaseHostLocked request leaseId)
        { s with
          state := ⟨rest, s.state.leasedHosts.insert leaseId host⟩
          guard := none
          calls := s.calls.erase ⟨request, .lockWait⟩
          issued := leaseId :: s.issued
          leases := ⟨host.containerId, host.allocatedPort.port, leaseId⟩ :: s.leases
          returned := (request, .ok ⟨host.containerId, host.allocatedPort.port, leaseId⟩) ::
            s.returned }
  | leaseUntested {request : Nat} {leaseId : Uuid} {host : HostInstance} {rest : List HostInstance}
      (hcall : ⟨request, .lockWait⟩ ∈ s.calls) (hguard : s.guard = none)
      (hfresh : leaseId ∉ s.issued) (havail : s.state.availableHosts = host :: rest)
      (htested : host.healthCheckTested = false) :
      Effect cfg s (.leaseHostLocked request leaseId)
        { s with
          state := ⟨rest, s.state.leasedHosts.insert leaseId host⟩
          guard := none
          calls := ⟨request, .readyWait leaseId host.containerId host.allocatedPort.port 1⟩ ::
            s.calls.erase ⟨request, .lockWait⟩
          issued := leaseId :: s.issued }
  | leaseFull {request : Nat} {leaseId : Uuid} (hcall : ⟨request, .lockWait⟩ ∈ s.calls)
      (hguard : s.guard = none) (havail : s.state.availableHosts = [])
      (hfull : cfg.maxInstances ≤ Table.size s.state.leasedHosts) (hfresh : leaseId ∉ s.issued) :
      Effect cfg s (.leaseHostLocked request leaseId)
        { s with
          calls := s.calls.erase ⟨request, .lockWait⟩
          returned := (request, .error .maxInstancesReached) :: s.returned }
  | leaseSpawning {request : Nat} {leaseId : Uuid} (hcall : ⟨request, .lockWait⟩ ∈ s.calls)
      (hguard : s.guard = none) (havail : s.state.availableHosts = [])
      (hroom : Table.size s.state.leasedHosts < cfg.maxInstances) (hfresh : leaseId ∉ s.issued) :
      Effect cfg s (.leaseHostLocked request leaseId)
        { s with
          calls := s.calls.erase ⟨request, .lockWait⟩
          guard := some (.spawning (.leaseHost request) .allocate) }
  | readyAgain {request attempt : Nat} {leaseId : Uuid} {containerId : ContainerId} {port : UInt16}
      {probe : Probe} (hcall : ⟨request, .readyWait leaseId containerId port attempt⟩ ∈ s.calls)
      (hready : readyAttempt attempt (healthCheck probe) = none) :
      Effect cfg s (.healthChecked ⟨request, .readyWait leaseId containerId port attempt⟩ probe)
        { s with
          calls := ⟨request, .readyWait leaseId containerId port (attempt + 1)⟩ ::
            s.calls.erase ⟨request, .readyWait leaseId containerId port attempt⟩ }
  | readyDone {request attempt : Nat} {leaseId : Uuid} {containerId : ContainerId} {port : UInt16}
      {probe : Probe} {readyResult : Except PoolError Bool}
      (hcall : ⟨request, .readyWait leaseId containerId port attempt⟩ ∈ s.calls)
      (hready : readyAttempt attempt (healthCheck probe) = some readyResult) :
      Effect cfg s (.healthChecked ⟨request, .readyWait leaseId containerId port attempt⟩ probe)
        { s with
          calls := ⟨request, .relockWait leaseId containerId port readyResult⟩ ::
            s.calls.erase ⟨request, .readyWait leaseId containerId port attempt⟩ }
  | readyConfirmed {request : Nat} {leaseId : Uuid} {containerId : ContainerId} {port : UInt16}
      {host : HostInstance}
      (hcall : ⟨request, .relockWait leaseId containerId port (.ok true)⟩ ∈ s.calls)
      (hguard : s.guard = none) (hhost : s.state.leasedHosts.lookup leaseId = some host) :
      Effect cfg s (.leaseHostRelocked ⟨request, .relockWait leaseId containerId port (.ok true)⟩)
        { s with
          state := ⟨s.state.availableHosts,
            s.state.leasedHosts.insert leaseId { host with healthCheckTested := true }⟩
          calls := s.calls.erase ⟨request, .relockWait leaseId containerId port (.ok true)⟩
          leases := ⟨containerId, port, leaseId⟩ :: s.leases
          returned := (request, .ok ⟨containerId, port, leaseId⟩) :: s.returned }
  | readyInvalid {request : Nat} {leaseId : Uuid} {containerId : ContainerId} {port : UInt16}
      (hcall : ⟨request, .relockWait leaseId containerId port (.ok true)⟩ ∈ s.calls)
      (hguard : s.guard = none) (hhost : s.state.leasedHosts.lookup leaseId = none) :
      Effect cfg s (.leaseHostRelocked ⟨request, .relockWait leaseId containerId port (.ok true)⟩)
        { s with
          calls := s.calls.erase ⟨request, .relockWait leaseId containerId port (.ok true)⟩
          returned := (request, .error (.invalidLease leaseId)) :: s.returned }
  | notReady {request : Nat} {leaseId : Uuid} {containerId : ContainerId} {port : UInt16}
      {readyResult : Except PoolError Bool} {e : PoolError}
      (hcall : ⟨request, .relockWait leaseId containerId port readyResult⟩ ∈ s.calls)
      (hguard : s.guard = none)
      (hready : readyResult = .ok false ∧ e = .containerNotReady ∨ readyResult = .error e) :
      Effect cfg s (.leaseHostRelocked ⟨request, .relockWait leaseId containerId port readyResult⟩)
        { s with
          state := ⟨s.state.availableHosts, s.state.leasedHosts.erase leaseId⟩
          calls := s.calls.erase ⟨request, .relockWait leaseId containerId port readyResult⟩
          dropping := (s.state.leasedHosts.lookup leaseId).toList ++ s.dropping
          returned := (request, .error e) :: s.returned }
  | cancelLease {call : LeaseCall} (hcall : call ∈ s.calls) :
      Effect cfg s (.cancelLease call) { s with calls := s.calls.erase call }
  | cancelSpawn {request : Nat} {spawn : Spawn}
      (hguard : s.guard = some (.spawning (.leaseHost request) spawn)) :
      Effect cfg s .cancelSpawn
        { s with
          guard := none
          portManager := spawn.port.elim s.portManager s.portManager.drop
          docker := spawn.call.elim s.docker s.docker.abandon }
  | portAllocated {caller : Spawner} {port : AllocatedPort}
      (hguard : s.guard = some (.spawning caller .allocate))
      (hport : s.portManager.allocatePort.1 = .ok port) :
      Effect cfg s .allocatePort
        { s with
          portManager := s.portManager.allocatePort.2
          guard := some (.spawning caller (.create port)) }
  | portsExhausted {caller : Spawner} {e : PortError}
      (hguard : s.guard = some (.spawning caller .allocate))
      (hport : s.portManager.allocatePort.1 = .error e) :
      Effect cfg s .allocatePort
        { s with
          portManager := s.portManager.allocatePort.2
          guard := caller.next
          returned := caller.failed (.portAllocation e) ++ s.returned }
  | created {caller : Spawner} {port : AllocatedPort} {containerId : ContainerId}
      (hguard : s.guard = some (.spawning caller (.create port))) (hpoll : s.callerPolled caller)
      (hfresh : containerId ∉ s.docker.ids) :
      Effect cfg s (.createContainer (.ok containerId))
        { s with
          docker := s.docker.create containerId port.port
          guard := some (.spawning caller (.start port containerId)) }
  | createFailed {caller : Spawner} {port : AllocatedPort} {e : DockerError}
      (hguard : s.guard = some (.spawning caller (.create port))) (hpoll : s.callerPolled caller) :
      Effect cfg s (.createContainer (.error e))
        { s with
          portManager := s.portManager.drop port
          docker := s.docker.createFailed port.port e
          guard := caller.next
          returned := caller.failed (.docker e) ++ s.returned }
  | createdUnanswered {caller : Spawner} {port : AllocatedPort} {containerId : ContainerId}
      {e : ApiError} (hguard : s.guard = some (.spawning caller (.create port)))
      (hpoll : s.callerPolled caller) (hfresh : containerId ∉ s.docker.ids) :
      Effect cfg s (.createUnanswered containerId e)
        { s with
          portManager := s.portManager.drop port
          docker := s.docker.create containerId port.port
          guard := caller.next
          returned := caller.failed (.docker (.api e)) ++ s.returned }
  | started {caller : Spawner} {port : AllocatedPort} {containerId : ContainerId}
      (hguard : s.guard = some (.spawning caller (.start port containerId)))
      (hpoll : s.callerPolled caller) :
      Effect cfg s (.startContainer (.ok ()))
        { s with
          docker := s.docker.update containerId .start
          guard := some (.spawning caller (.inspect port containerId)) }
  | startFailed {caller : Spawner} {port : AllocatedPort} {containerId : ContainerId} {e : ApiError}
      (hguard : s.guard = some (.spawning caller (.start port containerId)))
      (hpoll : s.callerPolled caller) :
      Effect cfg s (.startContainer (.error e))
        { s with
          portManager := s.portManager.drop port
          docker := s.docker.abandon (.start containerId)
          guard := caller.next
          returned := caller.failed (.docker (.api e)) ++ s.returned }
  | startedUnanswered {caller : Spawner} {port : AllocatedPort} {containerId : ContainerId}
      {e : ApiError} (hguard : s.guard = some (.spawning caller (.start port containerId)))
      (hpoll : s.callerPolled caller) :
      Effect cfg s (.startUnanswered e)
        { s with
          portManager := s.portManager.drop port
          docker := s.docker.update containerId .start
          guard := caller.next
          returned := caller.failed (.docker (.api e)) ++ s.returned }
  | hostLeased {request : Nat} {port : AllocatedPort} {containerId : ContainerId} {leaseId : Uuid}
      {result : Except ApiError Unit}
      (hguard : s.guard = some (.spawning (.leaseHost request) (.inspect port containerId)))
      (hfresh : leaseId ∉ s.issued) :
      Effect cfg s (.inspectContainer result leaseId)
        { s with
          state := ⟨s.state.availableHosts,
            s.state.leasedHosts.insert leaseId (.new containerId port s.clock)⟩
          guard := none
          calls := ⟨request, .readyWait leaseId containerId port.port 1⟩ :: s.calls
          issued := leaseId :: s.issued
          spawned := containerId :: s.spawned }
  | hostAdded {n : Nat} {port : AllocatedPort} {containerId : ContainerId} {leaseId : Uuid}
      {result : Except ApiError Unit}
      (hguard : s.guard = some (.spawning (.runScalingPolicy n) (.inspect port containerId)))
      (hpoll : s.polled .runScalingPolicy) :
      Effect cfg s (.inspectContainer result leaseId)
        { s with
          state := ⟨s.state.availableHosts ++ [.new containerId port s.clock], s.state.leasedHosts⟩
          guard := (Spawner.runScalingPolicy n).next
          spawned := containerId :: s.spawned }
  | leaseDropped {lease : HostLease} (hlease : lease ∈ s.leases) :
      Effect cfg s (.dropLease lease)
        { s with
          leases := s.leases.erase lease
          leaseRelease := s.leaseRelease.offer lease.leaseId }
  | hostDropped {host : HostInstance} (hhost : host ∈ s.dropping) :
      Effect cfg s (.dropHost host) ({ s with dropping := s.dropping.erase host }.dropHost host)
  | portDropped {port : AllocatedPort} (hport : port ∈ s.droppingPorts) :
      Effect cfg s (.dropPort port)
        { s with
          droppingPorts := s.droppingPorts.erase port
          portManager := s.portManager.drop port }
  | returnReceived {leaseId : Uuid} {leaseRelease : Channel Uuid leaseReleaseCapacity}
      (halive : .processHostLeaseReturns ∉ s.dead) (hstage : s.returns = .recv)
      (hrecv : s.leaseRelease.recv = some (leaseId, leaseRelease)) :
      Effect cfg s .recvReturn { s with leaseRelease, returns := .lockWait leaseId }
  | returnExpired {leaseId : Uuid} {host : HostInstance}
      (halive : .processHostLeaseReturns ∉ s.dead) (hstage : s.returns = .lockWait leaseId)
      (hguard : s.guard = none) (hhost : s.state.leasedHosts.lookup leaseId = some host)
      (hexpired : host.isExpired s.clock cfg.instanceTtl = true) :
      Effect cfg s .returnHostLocked
        { s with
          state := ⟨s.state.availableHosts, s.state.leasedHosts.erase leaseId⟩
          returns := .recv
          dropping := host :: s.dropping }
  | returnChecking {leaseId : Uuid} {host : HostInstance}
      (halive : .processHostLeaseReturns ∉ s.dead) (hstage : s.returns = .lockWait leaseId)
      (hguard : s.guard = none) (hhost : s.state.leasedHosts.lookup leaseId = some host)
      (hfresh : host.isExpired s.clock cfg.instanceTtl = false) :
      Effect cfg s .returnHostLocked
        { s with
          state := ⟨s.state.availableHosts, s.state.leasedHosts.erase leaseId⟩
          returns := .checking leaseId
          guard := some (.returnHostInternal leaseId host) }
  | returnInvalid {leaseId : Uuid} (halive : .processHostLeaseReturns ∉ s.dead)
      (hstage : s.returns = .lockWait leaseId) (hguard : s.guard = none)
      (hhost : s.state.leasedHosts.lookup leaseId = none) :
      Effect cfg s .returnHostLocked { s with returns := .recv }
  | hostReturned {leaseId : Uuid} {host : HostInstance}
      (hguard : s.guard = some (.returnHostInternal leaseId host))
      (hpoll : s.polled .processHostLeaseReturns) :
      Effect cfg s (.containerInfo (.ok ()))
        { s with
          state := ⟨s.state.availableHosts ++ [host], s.state.leasedHosts⟩
          guard := none
          returns := .recv }
  | hostGone {leaseId : Uuid} {host : HostInstance} {e : ApiError}
      (hguard : s.guard = some (.returnHostInternal leaseId host))
      (hpoll : s.polled .processHostLeaseReturns) :
      Effect cfg s (.containerInfo (.error e))
        { s.dropHost host with guard := none, returns := .recv }
  | cleanupReceived {containerId : ContainerId} {cleanup : Channel ContainerId cleanupCapacity}
      (halive : .handleContainerCleanup ∉ s.dead) (hstage : s.cleaner = .recv)
      (hrecv : s.cleanup.recv = some (containerId, cleanup)) :
      Effect cfg s .recvCleanup { s with cleanup, cleaner := .inspecting containerId }
  | cleanupStopping {containerId : ContainerId} (hstage : s.cleaner = .inspecting containerId)
      (hpoll : s.polled .handleContainerCleanup) :
      Effect cfg s (.inspectCleanup (.ok ())) { s with cleaner := .stopping containerId }
  | cleanupGone {containerId : ContainerId} {message : String}
      (hstage : s.cleaner = .inspecting containerId) (hpoll : s.polled .handleContainerCleanup) :
      Effect cfg s (.inspectCleanup (.error (.dockerResponseServerError 404 message)))
        { s with cleaner := .recv, stopped := s.stopped ++ [containerId] }
  | cleanupUnknown {containerId : ContainerId} {e : ApiError}
      (hstage : s.cleaner = .inspecting containerId) (hpoll : s.polled .handleContainerCleanup)
      (hunknown : stopContainerInspected (.error e) = some (.error (.api e))) :
      Effect cfg s (.inspectCleanup (.error e))
        { s with cleaner := .recv, stopFailed := s.stopFailed ++ [containerId] }
  | cleanupStopped {containerId : ContainerId} (hstage : s.cleaner = .stopping containerId)
      (hpoll : s.polled .handleContainerCleanup) :
      Effect cfg s (.stopCleanup (.ok ()))
        { s with
          docker := s.docker.update containerId .stop
          cleaner := .recv
          stopped := s.stopped ++ [containerId] }
  | cleanupFailed {containerId : ContainerId} {e : ApiError}
      (hstage : s.cleaner = .stopping containerId) (hpoll : s.polled .handleContainerCleanup) :
      Effect cfg s (.stopCleanup (.error e))
        { s with cleaner := .recv, stopFailed := s.stopFailed ++ [containerId] }
  | reapLocked (halive : .reapExpiredHosts ∉ s.dead) (hguard : s.guard = none) :
      Effect cfg s .lockReap
        { s with
          state := ⟨[], s.state.leasedHosts⟩
          guard := some (.reapExpiredHosts s.state.availableHosts [] []) }
  | reapExpired {host : HostInstance} {rest expired stillValid : List HostInstance}
      (hguard : s.guard = some (.reapExpiredHosts (host :: rest) expired stillValid))
      (hexpired : host.isExpired s.clock cfg.instanceTtl = true) :
      Effect cfg s .testReap
        { s with guard := some (.reapExpiredHosts rest (expired ++ [host]) stillValid) }
  | reapKept {host : HostInstance} {rest expired stillValid : List HostInstance}
      (hguard : s.guard = some (.reapExpiredHosts (host :: rest) expired stillValid))
      (hvalid : host.isExpired s.clock cfg.instanceTtl = false) :
      Effect cfg s .testReap
        { s with guard := some (.reapExpiredHosts rest expired (stillValid ++ [host])) }
  | reapUnlocked {expired stillValid : List HostInstance}
      (hguard : s.guard = some (.reapExpiredHosts [] expired stillValid)) :
      Effect cfg s .unlockReap
        { s with
          state := ⟨stillValid, s.state.leasedHosts⟩
          guard := none
          dropping := expired ++ s.dropping }
  | scalingSpawning {n : Nat} (halive : .runScalingPolicy ∉ s.dead) (hguard : s.guard = none)
      (hneeded : Table.size s.state.leasedHosts + s.state.availableHosts.length + (n + 1) =
        cfg.minInstances) :
      Effect cfg s .lockScaling
        { s with guard := some (.spawning (.runScalingPolicy n) .allocate) }
  | scalingIdle (halive : .runScalingPolicy ∉ s.dead) (hguard : s.guard = none)
      (henough :
        cfg.minInstances ≤ Table.size s.state.leasedHosts + s.state.availableHosts.length) :
      Effect cfg s .lockScaling s
  | portReceived {portManager : PortManager} (hrecv : s.portManager.recvPort = some portManager) :
      Effect cfg s .recvPort { s with portManager }
  | portReinserted {portManager : PortManager}
      (hport : s.portManager.reinsert = some portManager) :
      Effect cfg s .reinsertPort { s with portManager }
  | shutdownStarted (hstage : s.shutdown = .notStarted) :
      Effect cfg s .startShutdown { s with shutdownFlag := true, shutdown := .draining s.clock }
  | drainedEmpty {startTime : Nat} (hstage : s.shutdown = .draining startTime)
      (hguard : s.guard = none) (hempty : Table.size s.state.leasedHosts = 0) :
      Effect cfg s .sampleDrain { s with shutdown := .drained true }
  | drainTimeout {startTime : Nat} (hstage : s.shutdown = .draining startTime)
      (hguard : s.guard = none) (hleased : Table.size s.state.leasedHosts ≠ 0)
      (htimeout : shutdownTimeout < s.clock - startTime) :
      Effect cfg s .sampleDrain { s with shutdown := .drained false }
  | drainWaiting {startTime : Nat} (hstage : s.shutdown = .draining startTime)
      (hguard : s.guard = none) (hleased : Table.size s.state.leasedHosts ≠ 0)
      (hwait : s.clock - startTime ≤ shutdownTimeout) : Effect cfg s .sampleDrain s
  | workersAborted {sawEmpty : Bool} (hstage : s.shutdown = .drained sawEmpty) :
      Effect cfg s .abortWorkers { s with shutdown := .aborted sawEmpty }
  | returnsTornDown (haborted : s.shutdown.workersAborted = true)
      (halive : .processHostLeaseReturns ∉ s.dead)
      (hguard : ∀ leaseId host, s.guard ≠ some (.returnHostInternal leaseId host)) :
      Effect cfg s (.workerAborted .processHostLeaseReturns)
        { s with
          leaseRelease := s.leaseRelease.close
          returns := .recv
          dead := .processHostLeaseReturns :: s.dead }
  | returnsTornDownHolding {leaseId : Uuid} {host : HostInstance}
      (haborted : s.shutdown.workersAborted = true) (halive : .processHostLeaseReturns ∉ s.dead)
      (hguard : s.guard = some (.returnHostInternal leaseId host)) :
      Effect cfg s (.workerAborted .processHostLeaseReturns)
        { s.dropHost host with
          guard := none
          leaseRelease := s.leaseRelease.close
          returns := .recv
          dead := .processHostLeaseReturns :: s.dead }
  | cleanupTornDown (haborted : s.shutdown.workersAborted = true)
      (halive : .handleContainerCleanup ∉ s.dead) :
      Effect cfg s (.workerAborted .handleContainerCleanup)
        { s with
          cleanup := s.cleanup.close
          cleaner := .recv
          dead := .handleContainerCleanup :: s.dead }
  | reaperTornDown (haborted : s.shutdown.workersAborted = true)
      (halive : .reapExpiredHosts ∉ s.dead)
      (hguard : ∀ rest expired stillValid,
        s.guard ≠ some (.reapExpiredHosts rest expired stillValid)) :
      Effect cfg s (.workerAborted .reapExpiredHosts)
        { s with dead := .reapExpiredHosts :: s.dead }
  | scalingTornDown (haborted : s.shutdown.workersAborted = true)
      (halive : .runScalingPolicy ∉ s.dead)
      (hguard : ∀ n spawn, s.guard ≠ some (.spawning (.runScalingPolicy n) spawn)) :
      Effect cfg s (.workerAborted .runScalingPolicy)
        { s with dead := .runScalingPolicy :: s.dead }
  | scalingTornDownHolding {n : Nat} {spawn : Spawn}
      (haborted : s.shutdown.workersAborted = true) (halive : .runScalingPolicy ∉ s.dead)
      (hguard : s.guard = some (.spawning (.runScalingPolicy n) spawn)) :
      Effect cfg s (.workerAborted .runScalingPolicy)
        { s with
          guard := none
          portManager := spawn.port.elim s.portManager s.portManager.drop
          docker := spawn.call.elim s.docker s.docker.abandon
          dead := .runScalingPolicy :: s.dead }
  | collected {sawEmpty : Bool} (hstage : s.shutdown = .aborted sawEmpty)
      (hguard : s.guard = none) :
      Effect cfg s .collectAllHosts
        { s with
          state := ⟨[], ∅⟩
          shutdown := .collected sawEmpty
            (s.state.availableHosts ++ Table.values s.state.leasedHosts) }
  | collectedDropped {sawEmpty : Bool} {host : HostInstance} {rest : List HostInstance}
      (hstage : s.shutdown = .collected sawEmpty (host :: rest)) :
      Effect cfg s .dropCollected
        ({ s with shutdown := .collected sawEmpty rest }.dropHost host)
  | containersListed {sawEmpty : Bool} (hstage : s.shutdown = .collected sawEmpty []) :
      Effect cfg s (.listManagedContainers (.ok ()))
        { s with shutdown := .cleaning sawEmpty s.docker.present }
  | listingFailed {sawEmpty : Bool} {e : ApiError} (hstage : s.shutdown = .collected sawEmpty []) :
      Effect cfg s (.listManagedContainers (.error e)) { s with shutdown := .complete sawEmpty }
  | forceInspected {sawEmpty : Bool} {containerId : ContainerId} {rest : List ContainerId}
      (hstage : s.shutdown = .cleaning sawEmpty (containerId :: rest)) :
      Effect cfg s (.forceInspect (.ok ()))
        { s with shutdown := .stopping sawEmpty containerId rest }
  | forceSkipped {sawEmpty : Bool} {containerId : ContainerId} {rest : List ContainerId}
      {e : ApiError} (hstage : s.shutdown = .cleaning sawEmpty (containerId :: rest)) :
      Effect cfg s (.forceInspect (.error e)) { s with shutdown := .cleaning sawEmpty rest }
  | forceStopped {sawEmpty : Bool} {containerId : ContainerId} {rest : List ContainerId}
      (hstage : s.shutdown = .stopping sawEmpty containerId rest) :
      Effect cfg s (.forceStop (.ok ()))
        { s with
          docker := s.docker.update containerId .stop
          shutdown := .cleaning sawEmpty rest }
  | forceStopFailed {sawEmpty : Bool} {containerId : ContainerId} {rest : List ContainerId}
      {e : ApiError} (hstage : s.shutdown = .stopping sawEmpty containerId rest) :
      Effect cfg s (.forceStop (.error e)) { s with shutdown := .cleaning sawEmpty rest }
  | shutdownComplete {sawEmpty : Bool} {result : Except ApiError Unit}
      (hstage : s.shutdown = .cleaning sawEmpty []) :
      Effect cfg s (.forceStop result) { s with shutdown := .complete sawEmpty }
  | daemonActed {event : DaemonEvent} {docker : Docker} (hact : s.docker.act event = some docker) :
      Effect cfg s (.daemon event) { s with docker }

variable {cfg : PoolConfig} {s s' : HostPoolManager}

theorem leaseHost_effect (request : Nat) :
    Effect cfg s (.leaseHost request) (s.leaseHost request) := by
  unfold leaseHost
  split_ifs with hflag
  · exact .leaseRefused hflag
  · exact .leaseAsked (Bool.eq_false_of_not_eq_true hflag)

theorem leaseHostLocked_effect {request : Nat} {leaseId : Uuid}
    (h : s.leaseHostLocked cfg request leaseId = some s') :
    Effect cfg s (.leaseHostLocked request leaseId) s' := by
  unfold leaseHostLocked at h
  split_ifs at h with hg
  obtain ⟨hcall, hguard, hfresh⟩ := hg
  cases havail : s.state.availableHosts with
  | nil =>
    simp only [havail] at h
    split_ifs at h with hfull
    · obtain rfl := Option.some.inj h
      exact .leaseFull hcall hguard havail hfull hfresh
    · obtain rfl := Option.some.inj h
      exact .leaseSpawning hcall hguard havail (Nat.lt_of_not_le hfull) hfresh
  | cons host rest =>
    simp only [havail] at h
    obtain rfl := Option.some.inj h
    unfold insertLease
    split_ifs with htested
    · exact .leaseTested hcall hguard hfresh havail htested
    · exact .leaseUntested hcall hguard hfresh havail (Bool.eq_false_of_not_eq_true htested)

theorem healthChecked_effect {call : LeaseCall} {probe : Probe}
    (h : s.healthChecked call probe = some s') : Effect cfg s (.healthChecked call probe) s' := by
  obtain ⟨request, stage⟩ := call
  cases stage with
  | readyWait leaseId containerId port attempt =>
    simp only [healthChecked] at h
    split_ifs at h with hcall
    obtain rfl := Option.some.inj h
    cases hready : readyAttempt attempt (healthCheck probe) with
    | none => exact .readyAgain hcall hready
    | some readyResult => exact .readyDone hcall hready
  | lockWait
  | relockWait => cases h

theorem leaseHostRelocked_effect {call : LeaseCall} (h : s.leaseHostRelocked call = some s') :
    Effect cfg s (.leaseHostRelocked call) s' := by
  obtain ⟨request, stage⟩ := call
  cases stage with
  | relockWait leaseId containerId port readyResult =>
    simp only [leaseHostRelocked] at h
    split_ifs at h with hg
    obtain ⟨hcall, hguard⟩ := hg
    match readyResult with
    | .ok true =>
      cases hhost : s.state.leasedHosts.lookup leaseId with
      | none =>
        simp only [hhost] at h
        obtain rfl := Option.some.inj h
        exact .readyInvalid hcall hguard hhost
      | some host =>
        simp only [hhost] at h
        obtain rfl := Option.some.inj h
        exact .readyConfirmed hcall hguard hhost
    | .ok false =>
      obtain rfl := Option.some.inj h
      exact .notReady hcall hguard (.inl ⟨rfl, rfl⟩)
    | .error e =>
      obtain rfl := Option.some.inj h
      exact .notReady hcall hguard (.inr rfl)
  | lockWait
  | readyWait => cases h

theorem cancelSpawn_effect (h : s.cancelSpawn = some s') : Effect cfg s .cancelSpawn s' := by
  unfold cancelSpawn at h
  split at h
  next hguard =>
    obtain rfl := Option.some.inj h
    exact .cancelSpawn hguard
  next => cases h

theorem allocatePort_effect (h : s.allocatePort = some s') : Effect cfg s .allocatePort s' := by
  unfold allocatePort at h
  split at h
  next caller hguard =>
    cases hport : s.portManager.allocatePort.1 with
    | ok port =>
      rw [show s.portManager.allocatePort = (.ok port, s.portManager.allocatePort.2) from
        Prod.ext hport rfl] at h
      obtain rfl := Option.some.inj h
      exact .portAllocated hguard hport
    | error e =>
      rw [show s.portManager.allocatePort = (.error e, s.portManager.allocatePort.2) from
        Prod.ext hport rfl] at h
      obtain rfl := Option.some.inj h
      exact .portsExhausted hguard hport
  next => cases h

theorem createContainer_effect {result : Except DockerError ContainerId}
    (h : s.createContainer result = some s') : Effect cfg s (.createContainer result) s' := by
  unfold createContainer at h
  split at h
  next caller port hguard =>
    split_ifs at h with hpoll
    cases result with
    | ok containerId =>
      simp only at h
      split_ifs at h with hfresh
      obtain rfl := Option.some.inj h
      exact .created hguard hpoll hfresh
    | error e =>
      obtain rfl := Option.some.inj h
      exact .createFailed hguard hpoll
  next => cases h

theorem createUnanswered_effect {containerId : ContainerId} {e : ApiError}
    (h : s.createUnanswered containerId e = some s') :
    Effect cfg s (.createUnanswered containerId e) s' := by
  unfold createUnanswered at h
  split at h
  next caller port hguard =>
    split_ifs at h with hg
    obtain rfl := Option.some.inj h
    exact .createdUnanswered hguard hg.1 hg.2
  next => cases h

theorem startContainer_effect {result : Except ApiError Unit}
    (h : s.startContainer result = some s') : Effect cfg s (.startContainer result) s' := by
  unfold startContainer at h
  split at h
  next caller port containerId hguard =>
    split_ifs at h with hpoll
    cases result with
    | ok _ =>
      obtain rfl := Option.some.inj h
      exact .started hguard hpoll
    | error e =>
      obtain rfl := Option.some.inj h
      exact .startFailed hguard hpoll
  next => cases h

theorem startUnanswered_effect {e : ApiError} (h : s.startUnanswered e = some s') :
    Effect cfg s (.startUnanswered e) s' := by
  unfold startUnanswered at h
  split at h
  next caller port containerId hguard =>
    split_ifs at h with hpoll
    obtain rfl := Option.some.inj h
    exact .startedUnanswered hguard hpoll
  next => cases h

theorem inspectContainer_effect {result : Except ApiError Unit} {leaseId : Uuid}
    (h : s.inspectContainer result leaseId = some s') :
    Effect cfg s (.inspectContainer result leaseId) s' := by
  unfold inspectContainer at h
  split at h
  next caller port containerId hguard =>
    split_ifs at h with hpoll
    cases caller with
    | leaseHost request =>
      simp only at h
      split_ifs at h with hfresh
      obtain rfl := Option.some.inj h
      exact .hostLeased hguard hfresh
    | runScalingPolicy n =>
      obtain rfl := Option.some.inj h
      exact .hostAdded hguard hpoll
  next => cases h

theorem recvReturn_effect (h : s.recvReturn = some s') : Effect cfg s .recvReturn s' := by
  unfold recvReturn at h
  split_ifs at h with hg
  obtain ⟨⟨leaseId, leaseRelease⟩, hrecv, rfl⟩ := Option.map_eq_some_iff.mp h
  exact .returnReceived hg.1 hg.2 hrecv

theorem returnHostLocked_effect (h : s.returnHostLocked cfg = some s') :
    Effect cfg s .returnHostLocked s' := by
  unfold returnHostLocked at h
  split at h
  next leaseId hstage =>
    split_ifs at h with hg
    obtain ⟨halive, hguard⟩ := hg
    cases hhost : s.state.leasedHosts.lookup leaseId with
    | none =>
      simp only [hhost] at h
      obtain rfl := Option.some.inj h
      exact .returnInvalid halive hstage hguard hhost
    | some host =>
      simp only [hhost] at h
      split_ifs at h with hexpired
      · obtain rfl := Option.some.inj h
        exact .returnExpired halive hstage hguard hhost hexpired
      · obtain rfl := Option.some.inj h
        exact .returnChecking halive hstage hguard hhost (Bool.eq_false_of_not_eq_true hexpired)
  next => cases h

theorem containerInfo_effect {result : Except ApiError Unit}
    (h : s.containerInfo result = some s') :
    Effect cfg s (.containerInfo result) s' := by
  unfold containerInfo at h
  split at h
  next leaseId host hguard =>
    split_ifs at h with hpoll
    cases result with
    | ok _ =>
      obtain rfl := Option.some.inj h
      exact .hostReturned hguard hpoll
    | error e =>
      obtain rfl := Option.some.inj h
      exact .hostGone hguard hpoll
  next => cases h

theorem recvCleanup_effect (h : s.recvCleanup = some s') : Effect cfg s .recvCleanup s' := by
  unfold recvCleanup at h
  split_ifs at h with hg
  obtain ⟨⟨containerId, cleanup⟩, hrecv, rfl⟩ := Option.map_eq_some_iff.mp h
  exact .cleanupReceived hg.1 hg.2 hrecv

theorem inspectCleanup_effect {result : Except ApiError Unit}
    (h : s.inspectCleanup result = some s') : Effect cfg s (.inspectCleanup result) s' := by
  unfold inspectCleanup at h
  split at h
  next containerId hstage =>
    split_ifs at h with hpoll
    split at h
    next hr =>
      unfold stopContainerInspected at hr
      split at hr <;> cases hr
      obtain rfl := Option.some.inj h
      exact .cleanupStopping hstage hpoll
    next done hr =>
      obtain rfl := Option.some.inj h
      have hcopy := hr
      unfold stopContainerInspected at hr
      split at hr <;> cases hr
      · exact .cleanupGone hstage hpoll
      · exact .cleanupUnknown hstage hpoll hcopy
  next => cases h

theorem stopCleanup_effect {result : Except ApiError Unit} (h : s.stopCleanup result = some s') :
    Effect cfg s (.stopCleanup result) s' := by
  unfold stopCleanup at h
  split at h
  next containerId hstage =>
    split_ifs at h with hpoll
    cases result with
    | ok _ =>
      obtain rfl := Option.some.inj h
      exact .cleanupStopped hstage hpoll
    | error e =>
      obtain rfl := Option.some.inj h
      exact .cleanupFailed hstage hpoll
  next => cases h

theorem lockReap_effect (h : s.lockReap = some s') : Effect cfg s .lockReap s' := by
  unfold lockReap at h
  split_ifs at h with hg
  obtain rfl := Option.some.inj h
  exact .reapLocked hg.1 hg.2

theorem testReap_effect (h : s.testReap cfg = some s') : Effect cfg s .testReap s' := by
  unfold testReap at h
  split at h
  next host rest expired stillValid hguard =>
    split_ifs at h with hexpired
    · obtain rfl := Option.some.inj h
      exact .reapExpired hguard hexpired
    · obtain rfl := Option.some.inj h
      exact .reapKept hguard (Bool.eq_false_of_not_eq_true hexpired)
  next => cases h

theorem unlockReap_effect (h : s.unlockReap = some s') : Effect cfg s .unlockReap s' := by
  unfold unlockReap at h
  split at h
  next expired stillValid hguard =>
    obtain rfl := Option.some.inj h
    exact .reapUnlocked hguard
  next => cases h

theorem lockScaling_effect (h : s.lockScaling cfg = some s') : Effect cfg s .lockScaling s' := by
  unfold lockScaling at h
  split_ifs at h with hg
  simp only at h
  split at h
  next hn =>
    obtain rfl := Option.some.inj h
    exact .scalingIdle hg.1 hg.2 (by omega)
  next n hn =>
    obtain rfl := Option.some.inj h
    exact .scalingSpawning hg.1 hg.2 (by omega)

theorem sampleDrain_effect (h : s.sampleDrain = some s') : Effect cfg s .sampleDrain s' := by
  unfold sampleDrain at h
  split at h
  next startTime hstage =>
    split_ifs at h with hguard hempty htimeout
    · obtain rfl := Option.some.inj h
      exact .drainedEmpty hstage hguard hempty
    · obtain rfl := Option.some.inj h
      exact .drainTimeout hstage hguard hempty htimeout
    · obtain rfl := Option.some.inj h
      exact .drainWaiting hstage hguard hempty (Nat.le_of_not_lt htimeout)
  next => cases h

theorem workerAborted_effect {w : Worker} (h : s.workerAborted w = some s') :
    Effect cfg s (.workerAborted w) s' := by
  unfold workerAborted at h
  split_ifs at h with hg
  obtain ⟨haborted, halive⟩ := hg
  cases w with
  | processHostLeaseReturns =>
    simp only [tearDown] at h
    split at h
    next leaseId host hguard =>
      obtain rfl := Option.some.inj h
      exact .returnsTornDownHolding haborted halive hguard
    next hguard =>
      obtain rfl := Option.some.inj h
      exact .returnsTornDown haborted halive hguard
  | handleContainerCleanup =>
    obtain rfl := Option.some.inj h
    exact .cleanupTornDown haborted halive
  | reapExpiredHosts =>
    simp only [tearDown] at h
    split at h
    next => cases h
    next hguard =>
      obtain rfl := Option.some.inj h
      exact .reaperTornDown haborted halive hguard
  | runScalingPolicy =>
    simp only [tearDown] at h
    split at h
    next n spawn hguard =>
      obtain rfl := Option.some.inj h
      exact .scalingTornDownHolding haborted halive hguard
    next hguard =>
      obtain rfl := Option.some.inj h
      exact .scalingTornDown haborted halive hguard

theorem collectAllHosts_effect (h : s.collectAllHosts = some s') :
    Effect cfg s .collectAllHosts s' := by
  unfold collectAllHosts at h
  split at h
  next sawEmpty hstage =>
    split_ifs at h with hguard
    obtain rfl := Option.some.inj h
    exact .collected hstage hguard
  next => cases h

theorem listManagedContainers_effect {result : Except ApiError Unit}
    (h : s.listManagedContainers result = some s') :
    Effect cfg s (.listManagedContainers result) s' := by
  unfold listManagedContainers at h
  split at h
  next sawEmpty hstage =>
    cases result with
    | ok _ =>
      obtain rfl := Option.some.inj h
      exact .containersListed hstage
    | error e =>
      obtain rfl := Option.some.inj h
      exact .listingFailed hstage
  next => cases h

theorem forceInspect_effect {result : Except ApiError Unit} (h : s.forceInspect result = some s') :
    Effect cfg s (.forceInspect result) s' := by
  unfold forceInspect at h
  split at h
  next sawEmpty containerId rest hstage =>
    cases result with
    | ok _ =>
      obtain rfl := Option.some.inj h
      exact .forceInspected hstage
    | error e =>
      obtain ⟨done, hdone⟩ := stopContainerInspected_error e
      rw [hdone] at h
      obtain rfl := Option.some.inj h
      exact .forceSkipped hstage
  next => cases h

theorem forceStop_effect {result : Except ApiError Unit} (h : s.forceStop result = some s') :
    Effect cfg s (.forceStop result) s' := by
  unfold forceStop at h
  split at h
  next sawEmpty containerId rest hstage =>
    cases result with
    | ok _ =>
      obtain rfl := Option.some.inj h
      exact .forceStopped hstage
    | error e =>
      obtain rfl := Option.some.inj h
      exact .forceStopFailed hstage
  next sawEmpty hstage =>
    obtain rfl := Option.some.inj h
    exact .shutdownComplete hstage
  next => cases h

theorem effect_of_step {a : Action} (h : step cfg s a = some s') : Effect cfg s a s' := by
  cases a with
  | tick elapsed =>
    obtain rfl := Option.some.inj h
    exact .tick elapsed
  | leaseHost request =>
    obtain rfl := Option.some.inj h
    exact leaseHost_effect request
  | leaseHostLocked => exact leaseHostLocked_effect h
  | healthChecked => exact healthChecked_effect h
  | leaseHostRelocked => exact leaseHostRelocked_effect h
  | cancelLease call =>
    simp only [step, cancelLease] at h
    split_ifs at h with hcall
    obtain rfl := Option.some.inj h
    exact .cancelLease hcall
  | cancelSpawn => exact cancelSpawn_effect h
  | allocatePort => exact allocatePort_effect h
  | createContainer => exact createContainer_effect h
  | createUnanswered => exact createUnanswered_effect h
  | startContainer => exact startContainer_effect h
  | startUnanswered => exact startUnanswered_effect h
  | inspectContainer => exact inspectContainer_effect h
  | dropLease lease =>
    simp only [step] at h
    split_ifs at h with hlease
    obtain rfl := Option.some.inj h
    exact .leaseDropped hlease
  | dropHost host =>
    simp only [step] at h
    split_ifs at h with hhost
    obtain rfl := Option.some.inj h
    exact .hostDropped hhost
  | dropPort port =>
    simp only [step] at h
    split_ifs at h with hport
    obtain rfl := Option.some.inj h
    exact .portDropped hport
  | recvReturn => exact recvReturn_effect h
  | returnHostLocked => exact returnHostLocked_effect h
  | containerInfo => exact containerInfo_effect h
  | recvCleanup => exact recvCleanup_effect h
  | inspectCleanup => exact inspectCleanup_effect h
  | stopCleanup => exact stopCleanup_effect h
  | lockReap => exact lockReap_effect h
  | testReap => exact testReap_effect h
  | unlockReap => exact unlockReap_effect h
  | lockScaling => exact lockScaling_effect h
  | recvPort =>
    obtain ⟨portManager, hrecv, rfl⟩ := Option.map_eq_some_iff.mp h
    exact .portReceived hrecv
  | reinsertPort =>
    obtain ⟨portManager, hport, rfl⟩ := Option.map_eq_some_iff.mp h
    exact .portReinserted hport
  | startShutdown =>
    simp only [step, startShutdown] at h
    split_ifs at h with hstage
    obtain rfl := Option.some.inj h
    exact .shutdownStarted hstage
  | sampleDrain => exact sampleDrain_effect h
  | abortWorkers =>
    simp only [step, abortWorkers] at h
    split at h
    next sawEmpty hstage =>
      obtain rfl := Option.some.inj h
      exact .workersAborted hstage
    next => cases h
  | workerAborted => exact workerAborted_effect h
  | collectAllHosts => exact collectAllHosts_effect h
  | dropCollected =>
    simp only [step, dropCollected] at h
    split at h
    next sawEmpty host rest hstage =>
      obtain rfl := Option.some.inj h
      exact .collectedDropped hstage
    next => cases h
  | listManagedContainers => exact listManagedContainers_effect h
  | forceInspect => exact forceInspect_effect h
  | forceStop => exact forceStop_effect h
  | daemon event =>
    obtain ⟨docker, hact, rfl⟩ := Option.map_eq_some_iff.mp h
    exact .daemonActed hact

/-- The list is exact: where its guards hold, the step is taken. -/
theorem step_of_effect {a : Action} (he : Effect cfg s a s') : step cfg s a = some s' := by
  cases he with
  | tick => rfl
  | leaseRefused hflag => simp only [step, leaseHost, hflag, if_true]
  | leaseAsked hflag => simp only [step, leaseHost, hflag, Bool.false_eq_true, if_false]
  | leaseTested hcall hguard hfresh havail htested =>
    simp only [step, leaseHostLocked, if_pos (And.intro hcall (And.intro hguard hfresh)), havail,
      insertLease, htested, if_true]
  | leaseUntested hcall hguard hfresh havail htested =>
    simp only [step, leaseHostLocked, if_pos (And.intro hcall (And.intro hguard hfresh)), havail,
      insertLease, htested, Bool.false_eq_true, if_false]
  | leaseFull hcall hguard havail hfull hfresh =>
    simp only [step, leaseHostLocked, if_pos (And.intro hcall (And.intro hguard hfresh)), havail,
      if_pos hfull]
  | leaseSpawning hcall hguard havail hroom hfresh =>
    simp only [step, leaseHostLocked, if_pos (And.intro hcall (And.intro hguard hfresh)), havail,
      if_neg (Nat.not_le_of_lt hroom)]
  | readyAgain hcall hready
  | readyDone hcall hready => simp only [step, healthChecked, if_pos hcall, hready]
  | readyConfirmed hcall hguard hhost
  | readyInvalid hcall hguard hhost =>
    simp only [step, leaseHostRelocked, if_pos (And.intro hcall hguard), hhost]
  | notReady hcall hguard hready =>
    rcases hready with ⟨rfl, rfl⟩ | rfl <;>
      simp only [step, leaseHostRelocked, if_pos (And.intro hcall hguard), removeDead]
  | cancelLease hcall => simp only [step, cancelLease, if_pos hcall]
  | cancelSpawn hguard => simp only [step, cancelSpawn, hguard, dropSpawn]
  | @portAllocated caller port hguard hport =>
    have he : s.portManager.allocatePort = (.ok port, s.portManager.allocatePort.2) :=
      Prod.ext hport rfl
    simp only [step, allocatePort, hguard]
    rw [he]
  | @portsExhausted caller e hguard hport =>
    have he : s.portManager.allocatePort = (.error e, s.portManager.allocatePort.2) :=
      Prod.ext hport rfl
    simp only [step, allocatePort, hguard]
    rw [he]
    rfl
  | created hguard hpoll hfresh =>
    simp only [step, createContainer, hguard, if_pos hpoll, if_neg hfresh]
  | createFailed hguard hpoll =>
    simp only [step, createContainer, hguard, if_pos hpoll, spawnFailed, dropPort]
  | createdUnanswered hguard hpoll hfresh =>
    simp only [step, createUnanswered, hguard, if_pos (And.intro hpoll hfresh), spawnFailed,
      dropPort]
  | started hguard hpoll => simp only [step, startContainer, hguard, if_pos hpoll]
  | startFailed hguard hpoll =>
    simp only [step, startContainer, hguard, if_pos hpoll, spawnFailed, dropPort]
  | startedUnanswered hguard hpoll =>
    simp only [step, startUnanswered, hguard, if_pos hpoll, spawnFailed, dropPort]
  | hostLeased hguard hfresh =>
    simp only [step, inspectContainer, hguard, callerPolled, if_true, if_neg hfresh]
    rfl
  | @hostAdded n port containerId leaseId result hguard hpoll =>
    have hcaller : s.callerPolled (.runScalingPolicy n) := hpoll
    simp only [step, inspectContainer, hguard, if_pos hcaller]
  | leaseDropped hlease => simp only [step, if_pos hlease, dropLease]
  | hostDropped hhost => simp only [step, if_pos hhost]
  | portDropped hport => simp only [step, if_pos hport, dropPort]
  | returnReceived halive hstage hrecv =>
    simp only [step, recvReturn, if_pos (And.intro halive hstage), hrecv, Option.map_some]
  | returnExpired halive hstage hguard hhost hexpired =>
    simp only [step, returnHostLocked, hstage, if_pos (And.intro halive hguard), hhost, hexpired,
      if_true]
  | returnChecking halive hstage hguard hhost hfresh =>
    simp only [step, returnHostLocked, hstage, if_pos (And.intro halive hguard), hhost, hfresh,
      Bool.false_eq_true, if_false]
  | returnInvalid halive hstage hguard hhost =>
    simp only [step, returnHostLocked, hstage, if_pos (And.intro halive hguard), hhost]
  | hostReturned hguard hpoll
  | hostGone hguard hpoll => simp only [step, containerInfo, hguard, if_pos hpoll]
  | cleanupReceived halive hstage hrecv =>
    simp only [step, recvCleanup, if_pos (And.intro halive hstage), hrecv, Option.map_some]
  | cleanupStopping hstage hpoll =>
    simp only [step, inspectCleanup, hstage, if_pos hpoll, stopContainerInspected]
  | cleanupGone hstage hpoll =>
    simp only [step, inspectCleanup, hstage, if_pos hpoll, stopContainerInspected, cleanupDone]
  | cleanupUnknown hstage hpoll hunknown =>
    simp only [step, inspectCleanup, hstage, if_pos hpoll, hunknown, cleanupDone]
  | cleanupStopped hstage hpoll
  | cleanupFailed hstage hpoll =>
    simp only [step, stopCleanup, hstage, if_pos hpoll, cleanupDone]
  | reapLocked halive hguard =>
    simp only [step, lockReap, if_pos (And.intro halive hguard)]
  | reapExpired hguard hexpired => simp only [step, testReap, hguard, hexpired, if_true]
  | reapKept hguard hvalid =>
    simp only [step, testReap, hguard, hvalid, Bool.false_eq_true, if_false]
  | reapUnlocked hguard => simp only [step, unlockReap, hguard]
  | @scalingSpawning n halive hguard hneeded =>
    have hn : cfg.minInstances -
        (Table.size s.state.leasedHosts + s.state.availableHosts.length) = n + 1 := by omega
    simp only [step, lockScaling, if_pos (And.intro halive hguard), hn]
  | scalingIdle halive hguard henough =>
    simp only [step, lockScaling, if_pos (And.intro halive hguard), Nat.sub_eq_zero_of_le henough]
  | portReceived hrecv => simp only [step, hrecv, Option.map_some]
  | portReinserted hport => simp only [step, hport, Option.map_some]
  | shutdownStarted hstage => simp only [step, startShutdown, if_pos hstage]
  | drainedEmpty hstage hguard hempty =>
    simp only [step, sampleDrain, hstage, if_pos hguard, if_pos hempty]
  | drainTimeout hstage hguard hleased htimeout =>
    simp only [step, sampleDrain, hstage, if_pos hguard, if_neg hleased, if_pos htimeout]
  | drainWaiting hstage hguard hleased hwait =>
    simp only [step, sampleDrain, hstage, if_pos hguard, if_neg hleased,
      if_neg (Nat.not_lt_of_le hwait)]
  | workersAborted hstage => simp only [step, abortWorkers, hstage]
  | returnsTornDown haborted halive hguard =>
    simp only [step, workerAborted, if_pos (And.intro haborted halive), tearDown]
  | returnsTornDownHolding haborted halive hguard =>
    simp only [step, workerAborted, if_pos (And.intro haborted halive), tearDown, hguard]
    rfl
  | cleanupTornDown haborted halive
  | reaperTornDown haborted halive hguard
  | scalingTornDown haborted halive hguard =>
    simp only [step, workerAborted, if_pos (And.intro haborted halive), tearDown]
  | scalingTornDownHolding haborted halive hguard =>
    simp only [step, workerAborted, if_pos (And.intro haborted halive), tearDown, hguard,
      dropSpawn]
  | collected hstage hguard => simp only [step, collectAllHosts, hstage, if_pos hguard]
  | collectedDropped hstage => simp only [step, dropCollected, hstage]
  | containersListed hstage
  | listingFailed hstage => simp only [step, listManagedContainers, hstage]
  | forceInspected hstage => simp only [step, forceInspect, hstage, stopContainerInspected]
  | @forceSkipped sawEmpty containerId rest e hstage =>
    obtain ⟨done, hdone⟩ := stopContainerInspected_error e
    simp only [step, forceInspect, hstage, hdone]
  | forceStopped hstage
  | forceStopFailed hstage
  | shutdownComplete hstage => simp only [step, forceStop, hstage]
  | daemonActed hact => simp only [step, hact, Option.map_some]

theorem step_iff_effect {a : Action} : step cfg s a = some s' ↔ Effect cfg s a s' :=
  ⟨effect_of_step, step_of_effect⟩

theorem run_effect {tr : List (HostPoolManager × Action)} {a : Action}
    (h : Run (system cfg) tr s) (he : Effect cfg s a s') : Run (system cfg) ((s, a) :: tr) s' :=
  h.next (step_of_effect he)

theorem Effect.locked {a : Action} {guard : Guard} (he : Effect cfg s a s')
    (hg : s.guard = some guard) (hown : guard.ownStep a = false) :
    s'.guard = s.guard ∧ s'.state = s.state := by
  -- nobody but its holder gets at the lock, or at the state under it
  cases he with
  | leaseTested _ hguard
  | leaseUntested _ hguard
  | leaseSpawning _ hguard
  | readyConfirmed _ hguard
  | notReady _ hguard
  | returnExpired _ _ hguard
  | returnChecking _ _ hguard
  | reapLocked _ hguard
  | scalingSpawning _ hguard
  | collected _ hguard => exact absurd (hguard.symm.trans hg) nofun
  | cancelSpawn hguard
  | portAllocated hguard
  | portsExhausted hguard
  | created hguard
  | createFailed hguard
  | createdUnanswered hguard
  | started hguard
  | startFailed hguard
  | startedUnanswered hguard
  | hostLeased hguard
  | hostAdded hguard
  | hostReturned hguard
  | hostGone hguard
  | reapExpired hguard
  | reapKept hguard
  | reapUnlocked hguard
  | returnsTornDownHolding _ _ hguard
  | scalingTornDownHolding _ _ hguard =>
    obtain rfl := Option.some.inj (hg.symm.trans hguard)
    cases hown
  | _ => exact ⟨rfl, rfl⟩

end HostPoolManager

end DockerizedLambda
