import DockerizedLambda.Http.Builder
import DockerizedLambda.Lib.Multimap
import DockerizedLambda.Lib.Utf8
import DockerizedLambda.Models.Lambda

/-! `LambdaHandler`: from the request of the gateway to the HTTP response. -/

namespace DockerizedLambda

open Multimap

inductive CustomHeader
  | functionName
  | lambdaPort
  | errorType
  | handlerVersion
  | processingDelayMs
  | lambdaRequestId
  | lambdaExecutionTimeMs
deriving DecidableEq, Repr

def CustomHeader.asRef : CustomHeader → String
  | functionName => "x-function-name"
  | lambdaPort => "x-lambda-port"
  | errorType => "x-error-type"
  | handlerVersion => "x-handler-version"
  | processingDelayMs => "x-processing-delay-ms"
  | lambdaRequestId => "x-lambda-request-id"
  | lambdaExecutionTimeMs => "x-lambda-execution-time-ms"

def contentType : String := "content-type"

inductive RuntimeError
  | serverStart (message : String)
  | requestParsing (message : String)
  | responseBuilding (message : String)
  | handlerError (message : String)
deriving DecidableEq, Repr

def RuntimeError.display : RuntimeError → String
  | serverStart message => "Server start error: " ++ message
  | requestParsing message => "Request parsing error: " ++ message
  | responseBuilding message => "Response building error: " ++ message
  | handlerError message => "Handler error: " ++ message

/-- What the runtime calls: `http`, the tables of Unicode, `Uuid::to_string`, the order in which
`HashMap` is iterated, the text of a `FromUtf8Error`, and of `serde_json` reading a request and
writing a string. -/
structure Crates where
  http : HttpCrate
  unicode : UnicodeTables
  uuidToString : Uuid → String
  intoIter : Table String String → List (String × String)
  utf8Error : Bytes → String
  fromStr : String → Except String LambdaRequest
  jsonString : String → String

structure Crates.Lawful (c : Crates) : Prop where
  http : c.http.Lawful
  uuid_visible : ∀ id, visibleText (c.uuidToString id)
  intoIter_perm : ∀ headers, (c.intoIter headers).Perm (pairs headers)

structure LambdaHandler where
  userHandler : LambdaRequest → LambdaResponse

namespace LambdaHandler

variable (c : Crates)

/-- The body is what collecting it returns. -/
def parseRequest (body : Except String Bytes) : Except RuntimeError LambdaRequest :=
  match body with
  | .error e => .error (.requestParsing ("Failed to read body: " ++ e))
  | .ok bodyBytes =>
    match Utf8.decode bodyBytes with
    | none => .error (.requestParsing ("Body is not valid UTF-8: " ++ c.utf8Error bodyBytes))
    | some bodyString =>
      match c.fromStr bodyString with
      | .error e => .error (.requestParsing ("Failed to parse LambdaRequest JSON: " ++ e))
      | .ok lambdaRequest => .ok lambdaRequest

def addHeader (state : Builder × Bool) (field : String × String) : Builder × Bool :=
  (state.1.header c.http field.1 field.2,
    if c.unicode.toLowercase field.1 = contentType then true else state.2)

def addHeaders (builder : Builder) : Option (Table String String) → Builder × Bool
  | some headers => (c.intoIter headers).foldl (addHeader c) (builder, false)
  | none => (builder, false)

def buildHttpResponse (r : LambdaResponse) : Except RuntimeError Response :=
  let builder := ((Builder.new.status r.statusCode.code).header c.http
    CustomHeader.lambdaRequestId.asRef (c.uuidToString r.requestId)).header c.http
    CustomHeader.lambdaExecutionTimeMs.asRef (toString (asMillis r.executionTimeMs))
  let (builder, hasContentType) := addHeaders c builder r.headers
  let builder :=
    if hasContentType then builder else builder.header c.http contentType "application/json"
  match builder.body (Utf8.encode r.body) with
  | .ok response => .ok response
  | .error e => .error (.responseBuilding ("Failed to build response: " ++ c.http.display e))

def processInvoke (handler : LambdaHandler) (body : Except String Bytes) (handlerDuration : Nat) :
    Except RuntimeError Response :=
  match parseRequest c body with
  | .error e => .error e
  | .ok lambdaRequest =>
    buildHttpResponse c { handler.userHandler lambdaRequest with
      executionTimeMs := handlerDuration
      requestId := lambdaRequest.requestId }

def errorBody (error : RuntimeError) : String :=
  "\x7b\"error\":" ++ c.jsonString error.display ++ "\x7d"

/-- An error here is the panic of the `unwrap`. -/
def errorResponse (error : RuntimeError) : Except HttpError Response :=
  ((Builder.new.status 500).header c.http contentType "application/json").body
    (Utf8.encode (errorBody c error))

def handleInvoke (handler : LambdaHandler) (body : Except String Bytes) (handlerDuration : Nat) :
    Except HttpError Response :=
  match processInvoke c handler body handlerDuration with
  | .ok response => .ok response
  | .error e => errorResponse c e

end LambdaHandler

end DockerizedLambda
