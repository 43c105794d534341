import DockerizedLambda.Pool.Host

namespace DockerizedLambda

inductive ConvertError
  | bodyRead (message : String)
  | invalidUtf8
  | invalidHeader (message : String)
  | missingHeader (message : String)
  | invalidUri (message : String)
deriving DecidableEq, Repr

inductive GatewayError
  | pool (error : PoolError)
  | docker (error : DockerError)
  | convert (error : ConvertError)
  | httpClient (message : String)
  | http (message : String)
  | json (message : String)
  | utf8 (message : String)
  | invalidHeader (message : String)
  | noAvailableHosts
  | timeout
  | internal (message : String)
  | shuttingDown
deriving DecidableEq, Repr

def ConvertError.display : ConvertError → String
  | bodyRead message => "Failed to read request body: " ++ message
  | invalidUtf8 => "Invalid UTF-8 in request body"
  | invalidHeader message => "Invalid header value: " ++ message
  | missingHeader message => "Missing required header: " ++ message
  | invalidUri message => "Invalid URI: " ++ message

namespace GatewayError

def statusCode : GatewayError → Nat
  | pool _ => 503
  | docker _ => 500
  | convert _ => 400
  | httpClient _ => 502
  | http _ => 500
  | json _ => 400
  | utf8 _ => 400
  | invalidHeader _ => 400
  | noAvailableHosts => 503
  | timeout => 504
  | internal _ => 500
  | shuttingDown => 503

def errorMessage : GatewayError → String
  | pool _ => "Service temporarily unavailable"
  | docker _ => "Internal server error"
  | convert e => "Invalid request: " ++ e.display
  | noAvailableHosts => "No available Lambda instances"
  | timeout => "Request timeout"
  | shuttingDown => "Gateway is shutting down"
  | _ => "Internal server error"

end GatewayError

end DockerizedLambda
