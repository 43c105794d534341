import DockerizedLambda.Gateway.Convert
import DockerizedLambda.Gateway.Requests
import DockerizedLambda.Runtime.Served

/-! The gateway and the runtimes in its containers, with the connections between them. The two
sides take their steps in any order; what one of them reads off a connection is what the other
has written to it, or an error. -/

namespace DockerizedLambda

open Transition

/-- The connections to a runtime: the one that `forward_to_lambda` opens for a request, and those
of other clients, the health checks among them. -/
inductive Connection
  | invoke (request : Nat)
  | other (n : Nat)
deriving DecidableEq, Repr

/-- What lies between the two sides: `form_urlencoded::parse`, `serde_json::to_vec`, what the
client of a connection reads of a response that the server has written to it, and the port that
a container is told. -/
structure Wire where
  crates : Crates
  parse : Bytes → List (String × String)
  toVec : LambdaRequest → Except String Bytes
  readsHead : Response → ResponseParts → Bool
  readsBody : Response → Bytes → Bool
  lambdaPort : ContainerId → UInt16

structure LambdaRequest.Agrees (r r' : LambdaRequest) : Prop where
  requestId : r.requestId = r'.requestId
  method : r.method = r'.method
  path : r.path = r'.path
  queryParameters : ∀ key, r.queryParameters.lookup key = r'.queryParameters.lookup key
  headers : ∀ name, r.headers.lookup name = r'.headers.lookup name
  body : r.body = r'.body
  remoteAddr : r.remoteAddr = r'.remoteAddr
  timestamp : r.timestamp = r'.timestamp

structure Wire.Lawful (w : Wire) : Prop where
  fromStr_toVec : ∀ r b, w.toVec r = .ok b → ∃ text r',
    Utf8.decode b = some text ∧ w.crates.fromStr text = .ok r' ∧ r'.Agrees r

structure Arrival where
  request : Nat
  incoming : IncomingRequest
  newV4 : Uuid
  now : Nat

structure Deployment where
  gateway : GatewayServer
  runtimes : ContainerId → LambdaServer Connection
  /-- History: the requests as they came in, and what was sent for them to which container. -/
  arrived : List Arrival
  sent : List (Nat × ContainerId × Bytes)

def Arrival.lambdaRequest (w : Wire) (arrival : Arrival) : Except ConvertError LambdaRequest :=
  httpToLambdaRequest w.parse arrival.newV4 arrival.now arrival.incoming

/-- The first part of `forward_to_lambda`: the request is converted and serialised. -/
def Arrival.bodyBytes (w : Wire) (arrival : Arrival) : Except GatewayError Bytes :=
  match arrival.lambdaRequest w with
  | .error e => .error (.convert e)
  | .ok lambdaRequest =>
    match w.toVec lambdaRequest with
    | .error message => .error (.json message)
    | .ok bodyBytes => .ok bodyBytes

namespace Deployment

def new (w : Wire) (cfg : PoolConfig) : Deployment where
  gateway := GatewayServer.new cfg
  runtimes := fun containerId => LambdaServer.new (w.lambdaPort containerId)
  arrived := []
  sent := []

def responses (d : Deployment) (request : Nat) : List Response :=
  d.sent.flatMap fun (r, containerId, _) =>
    if r = request then
      (d.runtimes containerId).responded.filterMap fun (connection, response) =>
        if connection = .invoke request then some response else none
    else []

def alone : GatewayServer.Action → Bool
  | .forwardToLambda _ _ | .sendInvoke _ | .responseHead _ _ | .bodyCollected _ _ => false
  | _ => true

def gatewayStep (cfg : PoolConfig) (requestTimeout : Nat) (d : Deployment)
    (a : GatewayServer.Action) : Option Deployment :=
  (d.gateway.step cfg requestTimeout a).map fun gateway => { d with gateway }

def arrive (w : Wire) (cfg : PoolConfig) (d : Deployment) (arrival : Arrival) :
    Option Deployment :=
  (d.gateway.forwardToLambda cfg arrival.request (arrival.bodyBytes w)).map fun gateway =>
    { d with gateway, arrived := arrival :: d.arrived }

def sendInvoke (d : Deployment) (request : Nat) : Option Deployment :=
  match d.gateway.forwards.lookup request with
  | some (.requesting bodyBytes lease _ _) =>
    (d.gateway.sendInvoke request).bind fun gateway =>
      ((d.runtimes lease.containerId).connect (.invoke request)).map fun runtime =>
        { d with
          gateway
          runtimes := Function.update d.runtimes lease.containerId runtime
          sent := (request, lease.containerId, bodyBytes) :: d.sent }
  | _ => none

def responseHead (w : Wire) (d : Deployment) (request : Nat) (parts : ResponseParts) :
    Option Deployment :=
  if (d.responses request).any fun response => w.readsHead response parts then
    (d.gateway.responseHead request parts).map fun gateway => { d with gateway }
  else none

def bodyCollected (w : Wire) (d : Deployment) (request : Nat) (body : Bytes) :
    Option Deployment :=
  if (d.responses request).any fun response => w.readsBody response body then
    (d.gateway.bodyCollected request body).map fun gateway => { d with gateway }
  else none

def readable (d : Deployment) (containerId : ContainerId) :
    LambdaServer.Action Connection → Bool
  | .connect (.invoke _) => false
  | .requestHead head =>
    match (d.runtimes containerId).phase with
    | .serving (.invoke _) _ => head = .invoke
    | _ => true
  | .bodyCollected (.ok bytes) =>
    match (d.runtimes containerId).phase with
    | .serving (.invoke request) _ => (request, containerId, bytes) ∈ d.sent
    | _ => true
  | _ => true

def runtimeStep (w : Wire) (d : Deployment) (containerId : ContainerId)
    (a : LambdaServer.Action Connection) : Option Deployment :=
  if d.readable containerId a then
    ((d.runtimes containerId).step w.crates a).map fun runtime =>
      { d with runtimes := Function.update d.runtimes containerId runtime }
  else none

inductive Action
  | gateway (action : GatewayServer.Action)
  | arrive (arrival : Arrival)
  | sendInvoke (request : Nat)
  | responseHead (request : Nat) (parts : ResponseParts)
  | bodyCollected (request : Nat) (body : Bytes)
  | runtime (containerId : ContainerId) (action : LambdaServer.Action Connection)

def step (w : Wire) (cfg : PoolConfig) (requestTimeout : Nat) (d : Deployment) :
    Action → Option Deployment
  | .gateway action => if alone action then d.gatewayStep cfg requestTimeout action else none
  | .arrive arrival => d.arrive w cfg arrival
  | .sendInvoke request => d.sendInvoke request
  | .responseHead request parts => d.responseHead w request parts
  | .bodyCollected request body => d.bodyCollected w request body
  | .runtime containerId action => d.runtimeStep w containerId action

def system (w : Wire) (cfg : PoolConfig) (requestTimeout : Nat) : System Deployment Action :=
  ⟨new w cfg, step w cfg requestTimeout⟩

end Deployment

end DockerizedLambda
