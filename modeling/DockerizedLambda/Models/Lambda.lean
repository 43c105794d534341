import DockerizedLambda.Lib.Table

/-! What the gateway and the runtime exchange. Instants and durations are nanoseconds, and an
`http::Method` is its name. -/

namespace DockerizedLambda

abbrev Uuid := BitVec 128

inductive IpAddr
  | v4 (octets : BitVec 32)
  | v6 (octets : BitVec 128)
deriving DecidableEq, Repr

structure SocketAddr where
  ip : IpAddr
  port : UInt16
deriving DecidableEq, Repr

structure StatusCode where
  code : Nat
  inRange : 100 ≤ code ∧ code < 1000
deriving DecidableEq, Repr

structure LambdaRequest where
  requestId : Uuid
  method : String
  path : String
  queryParameters : Table String String
  headers : Table String String
  body : String
  remoteAddr : Option IpAddr
  timestamp : Nat

structure LambdaResponse where
  statusCode : StatusCode
  headers : Option (Table String String)
  body : String
  requestId : Uuid
  executionTimeMs : Nat

def asMillis (duration : Nat) : Nat := duration / 1000000

end DockerizedLambda
