import DockerizedLambda.Pool.PoolManager
import DockerizedLambda.Gateway.Error
import DockerizedLambda.Http.Message

/-! `GatewayServer::forward_to_lambda`, one execution a request, on top of the pool. An
execution is cut at its awaits; what `lease_host` returns it takes up in the same step. The
invocations are what happens in the containers and on the connections to them. -/

namespace DockerizedLambda

open Transition

def leaseMaxAttempts : Nat := 3

def retryDelay (attempt : Nat) : Nat := 50000000 * attempt

/-- `forward_to_lambda` by what it awaits. From `collecting` on it holds no lease. -/
inductive ForwardStage
  | leasing (bodyBytes : Bytes) (attempt : Nat)
  | backoff (bodyBytes : Bytes) (attempt wakeTime : Nat)
  | requesting (bodyBytes : Bytes) (lease : HostLease) (startTime : Nat) (sent : Bool)
  | collecting (leaseId : Uuid) (parts : ResponseParts)
deriving DecidableEq, Repr

/-- A `POST /invoke` that was sent under a lease: whether the container is still handling
it, and whether the gateway is still waiting for the response or reading its body. -/
structure Invocation where
  lease : HostLease
  bodyBytes : Bytes
  handling : Bool
  reading : Bool
deriving DecidableEq, Repr

def Invocation.isOpen (i : Invocation) : Bool := i.handling || i.reading

structure GatewayServer where
  pool : HostPoolManager
  forwards : Table Nat ForwardStage
  invocations : List Invocation
  /-- History: the requests that came in, and what was returned for them. -/
  started : List Nat
  answered : List (Nat × Except GatewayError Response)

namespace GatewayServer

def new (cfg : PoolConfig) : GatewayServer where
  pool := HostPoolManager.new cfg
  forwards := ∅
  invocations := []
  started := []
  answered := []

def goOn (g : GatewayServer) (request : Nat) (stage : ForwardStage) : GatewayServer :=
  { g with forwards := g.forwards.insert request stage }

def finish (g : GatewayServer) (request : Nat) (result : Except GatewayError Response) :
    GatewayServer :=
  { g with forwards := g.forwards.erase request, answered := (request, result) :: g.answered }

def settle (g : GatewayServer) (leaseId : Uuid) (f : Invocation → Invocation) : GatewayServer :=
  { g with
    invocations := (g.invocations.map fun i => if i.lease.leaseId = leaseId then f i else i).filter
      Invocation.isOpen }

def stopReading (g : GatewayServer) (leaseId : Uuid) : GatewayServer :=
  g.settle leaseId fun i => { i with reading := false }

def stopHandling (g : GatewayServer) (leaseId : Uuid) : GatewayServer :=
  g.settle leaseId fun i => { i with handling := false }

def breakOff (g : GatewayServer) (leaseId : Uuid) : GatewayServer :=
  g.settle leaseId fun i => { i with handling := false, reading := false }

def dropLease (g : GatewayServer) (lease : HostLease) : GatewayServer :=
  { g with pool := g.pool.dropLease lease }

/-! ### `lease_host_with_retry` -/

def leaseReturned (g : GatewayServer) (request : Nat) (result : Except PoolError HostLease) :
    GatewayServer :=
  match g.forwards.lookup request with
  | some (.leasing bodyBytes attempt) =>
    match result with
    -- the URL is a port number, so building the request cannot fail
    | .ok lease => g.goOn request (.requesting bodyBytes lease g.pool.clock false)
    | .error .shuttingDown => g.finish request (.error .shuttingDown)
    | .error .maxInstancesReached => g.finish request (.error (.pool .maxInstancesReached))
    | .error .containerNotReady =>
      if attempt < leaseMaxAttempts then
        g.goOn request (.backoff bodyBytes attempt (g.pool.clock + retryDelay attempt))
      else g.finish request (.error (.pool .containerNotReady))
    | .error e => g.finish request (.error (.pool e))
  | _ => g

def newResult (before after : HostPoolManager) : Option (Nat × Except PoolError HostLease) :=
  if after.returned.length = before.returned.length then none else after.returned.head?

def poolStep (cfg : PoolConfig) (g : GatewayServer) (a : HostPoolManager.Action) :
    Option GatewayServer :=
  (g.pool.step cfg a).map fun pool =>
    match newResult g.pool pool with
    | some (request, result) => { g with pool }.leaseReturned request result
    | none => { g with pool }

/-- The steps of the pool that no execution takes by itself. -/
def internal : HostPoolManager.Action → Bool
  | .leaseHost _ | .cancelLease _ | .cancelSpawn | .dropLease _ => false
  | _ => true

/-! ### `forward_to_lambda` -/

/-- The request has been converted and serialised, or this has failed. -/
def forwardToLambda (cfg : PoolConfig) (g : GatewayServer) (request : Nat)
    (body : Except GatewayError Bytes) : Option GatewayServer :=
  if request ∈ g.started then none
  else
    let g := { g with started := request :: g.started }
    match body with
    | .ok bodyBytes => (g.goOn request (.leasing bodyBytes 1)).poolStep cfg (.leaseHost request)
    | .error e => some (g.finish request (.error e))

def retry (cfg : PoolConfig) (g : GatewayServer) (request : Nat) : Option GatewayServer :=
  match g.forwards.lookup request with
  | some (.backoff bodyBytes attempt wakeTime) =>
    if wakeTime ≤ g.pool.clock then
      (g.goOn request (.leasing bodyBytes (attempt + 1))).poolStep cfg (.leaseHost request)
    else none
  | _ => none

def sendInvoke (g : GatewayServer) (request : Nat) : Option GatewayServer :=
  match g.forwards.lookup request with
  | some (.requesting bodyBytes lease startTime false) =>
    some { g.goOn request (.requesting bodyBytes lease startTime true) with
      invocations := ⟨lease, bodyBytes, true, true⟩ :: g.invocations }
  | _ => none

def requestFailed (g : GatewayServer) (request : Nat) (message : String) : Option GatewayServer :=
  match g.forwards.lookup request with
  | some (.requesting _ lease _ _) =>
    let dropped := (g.breakOff lease.leaseId).dropLease lease
    some (dropped.finish request (.error (.httpClient message)))
  | _ => none

/-- The timeout drops the request, which the container may still be handling. -/
def requestTimedOut (requestTimeout : Nat) (g : GatewayServer) (request : Nat) :
    Option GatewayServer :=
  match g.forwards.lookup request with
  | some (.requesting _ lease startTime _) =>
    if startTime + requestTimeout ≤ g.pool.clock then
      some (((g.stopReading lease.leaseId).dropLease lease).finish request (.error .timeout))
    else none
  | _ => none

/-- `client.request` returns with the head of the response, and the lease is dropped. -/
def responseHead (g : GatewayServer) (request : Nat) (parts : ResponseParts) :
    Option GatewayServer :=
  match g.forwards.lookup request with
  | some (.requesting _ lease _ true) =>
    -- the invocation stays open: the body is still to be read
    some ((g.dropLease lease).goOn request (.collecting lease.leaseId parts))
  | _ => none

def bodyCollected (g : GatewayServer) (request : Nat) (body : Bytes) : Option GatewayServer :=
  match g.forwards.lookup request with
  | some (.collecting leaseId parts) =>
    some ((g.stopReading leaseId).finish request (.ok ⟨parts, body⟩))
  | _ => none

def bodyFailed (g : GatewayServer) (request : Nat) (message : String) : Option GatewayServer :=
  match g.forwards.lookup request with
  | some (.collecting leaseId _) =>
    some ((g.breakOff leaseId).finish request (.error (.http message)))
  | _ => none

def cancelLeasing (g : GatewayServer) (request : Nat) : Option HostPoolManager :=
  match g.pool.calls.find? fun call => call.request = request with
  | some call => g.pool.cancelLease call
  | none =>
    match g.pool.guard with
    -- a call that is not waiting without the lock is the one that spawns under it
    | some (.spawning (.leaseHost spawner) _) =>
      if spawner = request then g.pool.cancelSpawn else none
    | _ => none

/-- The client has closed its connection, and the future of the execution is dropped with
all that it holds. -/
def cancelForward (g : GatewayServer) (request : Nat) : Option GatewayServer :=
  let gone := { g with forwards := g.forwards.erase request }
  match g.forwards.lookup request with
  | some (.leasing _ _) => (g.cancelLeasing request).map fun pool => { gone with pool }
  | some (.backoff _ _ _) => some gone
  | some (.requesting _ lease _ _) => some ((gone.stopReading lease.leaseId).dropLease lease)
  | some (.collecting leaseId _) => some (gone.stopReading leaseId)
  | none => none

/-! ### The system -/

inductive Action
  | pool (action : HostPoolManager.Action)
  | forwardToLambda (request : Nat) (body : Except GatewayError Bytes)
  | retry (request : Nat)
  | sendInvoke (request : Nat)
  | requestFailed (request : Nat) (message : String)
  | requestTimedOut (request : Nat)
  | responseHead (request : Nat) (parts : ResponseParts)
  | bodyCollected (request : Nat) (body : Bytes)
  | bodyFailed (request : Nat) (message : String)
  | cancelForward (request : Nat)
  | handled (leaseId : Uuid)
deriving DecidableEq, Repr

def step (cfg : PoolConfig) (requestTimeout : Nat) (g : GatewayServer) :
    Action → Option GatewayServer
  | .pool action => if internal action then g.poolStep cfg action else none
  | .forwardToLambda request body => g.forwardToLambda cfg request body
  | .retry request => g.retry cfg request
  | .sendInvoke request => g.sendInvoke request
  | .requestFailed request message => g.requestFailed request message
  | .requestTimedOut request => g.requestTimedOut requestTimeout request
  | .responseHead request parts => g.responseHead request parts
  | .bodyCollected request body => g.bodyCollected request body
  | .bodyFailed request message => g.bodyFailed request message
  | .cancelForward request => g.cancelForward request
  | .handled leaseId => some (g.stopHandling leaseId)

def system (cfg : PoolConfig) (requestTimeout : Nat) : System GatewayServer Action :=
  ⟨new cfg, step cfg requestTimeout⟩

end GatewayServer

end DockerizedLambda
