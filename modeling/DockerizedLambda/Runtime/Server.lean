import DockerizedLambda.Lib.Transition
import DockerizedLambda.Runtime.Response

/-! `LambdaServer::start`. The loop serves one connection after the other and spawns nothing:
while a connection is served, others queue up with the listener. A connection carries one
request, as keep-alive is off. -/

namespace DockerizedLambda

open Transition

structure RequestHead where
  method : String
  path : String
deriving DecidableEq, Repr

inductive ServeStage
  | reading
  | collecting
  | handling (lambdaRequest : LambdaRequest)
  | responding

inductive ServerPhase (κ : Type)
  | binding
  | accepting
  | serving (connection : κ) (stage : ServeStage)
  | stopped (error : RuntimeError)
  | panicked

/-- The histories say, by connection, which requests have been read, what their bodies came
to, what the user handler was called with and returned, and what was answered. -/
structure LambdaServer (κ : Type) where
  port : UInt16
  phase : ServerPhase κ
  /-- Connections that the listener has not handed out. -/
  backlog : List κ
  connected : List κ
  accepted : List κ
  heads : List (κ × RequestHead)
  bodies : List (κ × Except String Bytes)
  called : List (κ × LambdaRequest)
  results : List (κ × LambdaResponse × Nat)
  responded : List (κ × Response)

def RequestHead.health : RequestHead := ⟨"GET", "/health"⟩

def RequestHead.invoke : RequestHead := ⟨"POST", "/invoke"⟩

namespace LambdaServer

variable {κ : Type} [DecidableEq κ]

def new (port : UInt16) : LambdaServer κ where
  port := port
  phase := .binding
  backlog := []
  connected := []
  accepted := []
  heads := []
  bodies := []
  called := []
  results := []
  responded := []

def addr (port : UInt16) : String := "0.0.0.0:" ++ toString port.toNat

/-! ### `handle_request` -/

/-- An error here is the panic of the `unwrap`, as in the next definition. -/
def handleHealth (c : Crates) : Except HttpError Response :=
  ((Builder.new.status 200).header c.http contentType "application/json").body
    (Utf8.encode "\x7b\"status\":\"healthy\"\x7d")

def handleNotFound (c : Crates) : Except HttpError Response :=
  ((Builder.new.status 404).header c.http contentType "application/json").body
    (Utf8.encode "\x7b\"error\":\"Not Found\"\x7d")

/-- The rest of `handle_invoke` when the user handler has returned. -/
def answerInvoke (c : Crates) (lambdaRequest : LambdaRequest) (lambdaResponse : LambdaResponse)
    (handlerDuration : Nat) : Except HttpError Response :=
  match LambdaHandler.buildHttpResponse c { lambdaResponse with
      executionTimeMs := handlerDuration, requestId := lambdaRequest.requestId } with
  | .ok response => .ok response
  | .error e => LambdaHandler.errorResponse c e

/-- `handle_request` in one go, given what the body comes to and how long the handler takes. -/
def handleRequest (c : Crates) (handler : LambdaHandler) (head : RequestHead)
    (body : Except String Bytes) (handlerDuration : Nat) : Except HttpError Response :=
  if head = .health then handleHealth c
  else if head = .invoke then handler.handleInvoke c body handlerDuration
  else handleNotFound c

/-! ### The loop -/

def respond (s : LambdaServer κ) (connection : κ) : Except HttpError Response → LambdaServer κ
  | .ok response =>
    { s with
      phase := .serving connection .responding
      responded := s.responded ++ [(connection, response)] }
  | .error _ => { s with phase := .panicked }

def bind (s : LambdaServer κ) (result : Except String Unit) : Option (LambdaServer κ) :=
  match s.phase with
  | .binding =>
    match result with
    | .ok _ => some { s with phase := .accepting }
    | .error e =>
      some { s with
        phase := .stopped (.serverStart ("Failed to bind to " ++ addr s.port ++ ": " ++ e)) }
  | _ => none

def listening (s : LambdaServer κ) : Bool :=
  match s.phase with
  | .accepting | .serving _ _ => true
  | _ => false

def connect (s : LambdaServer κ) (connection : κ) : Option (LambdaServer κ) :=
  if s.listening = true ∧ connection ∉ s.connected then
    some { s with
      backlog := s.backlog ++ [connection]
      connected := s.connected ++ [connection] }
  else none

def accept (s : LambdaServer κ) (result : Except String Unit) : Option (LambdaServer κ) :=
  match s.phase with
  | .accepting =>
    match result with
    | .ok _ =>
      match s.backlog with
      | connection :: backlog =>
        some { s with
          phase := .serving connection .reading
          backlog
          accepted := s.accepted ++ [connection] }
      | [] => none
    | .error e =>
      some { s with
        phase := .stopped (.serverStart ("TCP listen failed to accept connection: " ++ e)) }
  | _ => none

def requestHead (c : Crates) (s : LambdaServer κ) (head : RequestHead) :
    Option (LambdaServer κ) :=
  match s.phase with
  | .serving connection .reading =>
    let s := { s with heads := s.heads ++ [(connection, head)] }
    if head = .health then some (s.respond connection (handleHealth c))
    else if head = .invoke then some { s with phase := .serving connection .collecting }
    else some (s.respond connection (handleNotFound c))
  | _ => none

def bodyCollected (c : Crates) (s : LambdaServer κ) (body : Except String Bytes) :
    Option (LambdaServer κ) :=
  match s.phase with
  | .serving connection .collecting =>
    let s := { s with bodies := s.bodies ++ [(connection, body)] }
    match LambdaHandler.parseRequest c body with
    | .ok lambdaRequest =>
      some { s with
        phase := .serving connection (.handling lambdaRequest)
        called := s.called ++ [(connection, lambdaRequest)] }
    | .error e => some (s.respond connection (LambdaHandler.errorResponse c e))
  | _ => none

def handled (c : Crates) (s : LambdaServer κ) (lambdaResponse : LambdaResponse)
    (handlerDuration : Nat) : Option (LambdaServer κ) :=
  match s.phase with
  | .serving connection (.handling lambdaRequest) =>
    let s := { s with results := s.results ++ [(connection, lambdaResponse, handlerDuration)] }
    some (s.respond connection (answerInvoke c lambdaRequest lambdaResponse handlerDuration))
  | _ => none

/-- Nothing between the handler and `start` catches a panic. -/
def handlerPanicked (s : LambdaServer κ) : Option (LambdaServer κ) :=
  match s.phase with
  | .serving _ (.handling _) => some { s with phase := .panicked }
  | _ => none

/-- `serve_connection` returns: the response has been written, or the connection has failed,
which drops whatever was under way on it. -/
def connectionEnded (s : LambdaServer κ) : Option (LambdaServer κ) :=
  match s.phase with
  | .serving _ _ => some { s with phase := .accepting }
  | _ => none

inductive Action (κ : Type)
  | bind (result : Except String Unit)
  | connect (connection : κ)
  | accept (result : Except String Unit)
  | requestHead (head : RequestHead)
  | bodyCollected (body : Except String Bytes)
  | handled (lambdaResponse : LambdaResponse) (handlerDuration : Nat)
  | handlerPanicked
  | connectionEnded

def step (c : Crates) (s : LambdaServer κ) : Action κ → Option (LambdaServer κ)
  | .bind result => s.bind result
  | .connect connection => s.connect connection
  | .accept result => s.accept result
  | .requestHead head => s.requestHead c head
  | .bodyCollected body => s.bodyCollected c body
  | .handled lambdaResponse handlerDuration => s.handled c lambdaResponse handlerDuration
  | .handlerPanicked => s.handlerPanicked
  | .connectionEnded => s.connectionEnded

def system (κ : Type) [DecidableEq κ] (c : Crates) (port : UInt16) :
    System (LambdaServer κ) (Action κ) :=
  ⟨new port, step c⟩

end LambdaServer

end DockerizedLambda
