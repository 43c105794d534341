import DockerizedLambda.Docker.DockerManager
import DockerizedLambda.Port.PortManager
import DockerizedLambda.Models.Lambda

/-! Hosts, leases and the errors of the pool. Instants and durations are nanoseconds. -/

namespace DockerizedLambda

inductive PoolError
  | invalidLease (leaseId : Uuid)
  | containerNotReady
  | docker (error : DockerError)
  | noAvailablePorts
  | portAllocation (error : PortError)
  | maxInstancesReached
  | shuttingDown
deriving DecidableEq, Repr

structure HostInstance where
  containerId : ContainerId
  allocatedPort : AllocatedPort
  createdAt : Nat
  healthCheckTested : Bool
deriving DecidableEq, Repr

namespace HostInstance

def new (containerId : ContainerId) (allocatedPort : AllocatedPort) (now : Nat) : HostInstance :=
  ⟨containerId, allocatedPort, now, false⟩

/-- `Instant::duration_since` is zero when the instants are the other way round. -/
def isExpired (host : HostInstance) (now ttl : Nat) : Bool := decide (ttl < now - host.createdAt)

end HostInstance

structure HostLease where
  containerId : ContainerId
  port : UInt16
  leaseId : Uuid
deriving DecidableEq, Repr

def readyMaxAttempts : Nat := 10

/-- One round of the loop of `wait_for_container_ready`: its result, or `none` when the
loop sleeps and goes on to the next attempt. -/
def readyAttempt (attempt : Nat) : Except DockerError Bool → Option (Except PoolError Bool)
  | .ok true => some (.ok true)
  | .ok false => if attempt < readyMaxAttempts then none else some (.ok false)
  | .error e => if attempt < readyMaxAttempts then none else some (.error (.docker e))

theorem attempt_lt_of_again {attempt : Nat} {result : Except DockerError Bool}
    (h : readyAttempt attempt result = none) : attempt < readyMaxAttempts := by
  unfold readyAttempt at h
  split at h
  · cases h
  · split_ifs at h with hless
    exact hless
  · split_ifs at h with hless
    exact hless

end DockerizedLambda
