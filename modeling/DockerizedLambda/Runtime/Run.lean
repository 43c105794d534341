import DockerizedLambda.Lib.Decimal
import DockerizedLambda.Runtime.Server

/-! `run`: the runtime finds the port that it is to listen on in its environment. -/

namespace DockerizedLambda

def lambdaPortEnv : String := "LAMBDA_PORT"

/-- `std::env::var`: the value of the first entry for the key. -/
def envVar (env : List String) (key : String) : Option String :=
  env.findSome? fun entry =>
    if (key ++ "=").toList.isPrefixOf entry.toList then
      some (String.ofList (entry.toList.drop (key ++ "=").length))
    else none

/-- `str::parse::<u16>`. -/
def parsePort (text : String) : Except Decimal.IntErrorKind UInt16 :=
  (Decimal.fromStr 65535 text.toList).map UInt16.ofNat

def intErrorKindText : Decimal.IntErrorKind → String
  | .empty => "Empty"
  | .invalidDigit => "InvalidDigit"
  | .posOverflow => "PosOverflow"

/-- The port, or the text of the panic of an `expect`. -/
def portFromEnv (env : List String) : Except String UInt16 :=
  match envVar env lambdaPortEnv with
  | none => .error "LAMBDA_PORT environment variable must be set by the gateway: NotPresent"
  | some text =>
    match parsePort text with
    | .ok port => .ok port
    | .error kind =>
      .error ("LAMBDA_PORT must be a valid port number: ParseIntError \x7b kind: " ++
        intErrorKindText kind ++ " \x7d")

def runServer {κ : Type} (env : List String) : Except String (LambdaServer κ) :=
  (portFromEnv env).map LambdaServer.new

end DockerizedLambda
