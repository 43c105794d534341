import DockerizedLambda.Docker.DockerManager
import DockerizedLambda.Lib.Table
import DockerizedLambda.Pool.Config

/-! What `create_container` asks the daemon for. -/

namespace DockerizedLambda

/-- The CPU limit, a float, is left out. -/
structure DockerConfig where
  binaryPath : String
  binaryName : String
  memoryLimitMb : UInt64
deriving DecidableEq, Repr

structure PortBinding where
  hostIp : String
  hostPort : String
deriving DecidableEq, Repr

inductive RestartPolicyName
  | empty
  | no
  | always
  | unlessStopped
  | onFailure
deriving DecidableEq, Repr

structure HostConfig where
  portBindings : Table String (List PortBinding)
  memory : Int64
  autoRemove : Bool
  restartPolicy : RestartPolicyName
  binds : List String

structure ContainerCreateBody where
  image : String
  cmd : List String
  env : List String
  exposedPorts : List String
  workingDir : String
  entrypoint : List String
  labels : Table String String
  hostConfig : HostConfig

def localhost : String := "127.0.0.1"
def protocolTcp : String := "tcp"
def containerImage : String := "alpine:latest"
def containerNamePrefix : String := "lambda"
def containerRandomIdLength : Nat := 12
def containerWorkingDir : String := "/app"
def containerBinaryMountPath : String := "/app/lambda"
def containerBinaryRoMountSuffix : String := ":ro"
def envLambdaPortKey : String := "LAMBDA_PORT"
def envRustLog : String := "RUST_LOG=info"
def labelManagedByKey : String := "managed-by"
def labelManagedByValue : String := "lambda-gateway"
def labelFunctionNameKey : String := "function-name"
def labelPortKey : String := "port"
def filterManagedByLabel : String := "managed-by=lambda-gateway"

def portText (port : UInt16) : String := toString port.toNat

namespace DockerConfig

def binaryFullPath (config : DockerConfig) : String := joinPath config.binaryPath config.binaryName

def containerName (config : DockerConfig) (port : UInt16) (randomId : String) : String :=
  containerNamePrefix ++ "-" ++ config.binaryName ++ "-" ++ portText port ++ "-" ++ randomId

def containerPort (port : UInt16) : String := portText port ++ "/" ++ protocolTcp

def hostConfig (config : DockerConfig) (absoluteBinaryPath : String) (port : UInt16) :
    HostConfig where
  portBindings :=
    (∅ : Table String (List PortBinding)).insert (containerPort port)
      [⟨localhost, portText port⟩]
  memory := (config.memoryLimitMb * 1024 * 1024).toInt64
  autoRemove := true
  restartPolicy := .no
  binds := [absoluteBinaryPath ++ ":" ++ containerBinaryMountPath ++ containerBinaryRoMountSuffix]

def createBody (config : DockerConfig) (absoluteBinaryPath : String) (port : UInt16) :
    ContainerCreateBody where
  image := containerImage
  cmd := [absoluteBinaryPath]
  env := [envLambdaPortKey ++ "=" ++ portText port, envRustLog]
  exposedPorts := [containerPort port]
  workingDir := containerWorkingDir
  entrypoint := [containerBinaryMountPath]
  labels :=
    (((∅ : Table String String).insert labelManagedByKey labelManagedByValue).insert
      labelFunctionNameKey config.binaryName).insert labelPortKey (portText port)
  hostConfig := config.hostConfig absoluteBinaryPath port

/-- `create_container` up to the daemon's `create_container`. -/
def createRequest (canonicalize : String → Option String) (config : DockerConfig)
    (port : UInt16) (randomId : String) : Except DockerError (String × ContainerCreateBody) :=
  match canonicalize config.binaryFullPath with
  | some absoluteBinaryPath =>
    .ok (config.containerName port randomId, config.createBody absoluteBinaryPath port)
  | none => .error (.binaryNotFound config.binaryFullPath)

end DockerConfig

/-- What the daemon forwards to the container: connections to a port of this host, by the port
inside that they are for. -/
def HostConfig.Publishes (c : HostConfig) (hostPort containerPort : UInt16) : Prop :=
  ∃ bindings, c.portBindings.lookup (DockerConfig.containerPort containerPort) = some bindings ∧
    ⟨localhost, portText hostPort⟩ ∈ bindings

def ContainerCreateBody.hasLabel (body : ContainerCreateBody) (filter : String) : Bool :=
  body.labels.entries.any fun label => label.1 ++ "=" ++ label.2 = filter

end DockerizedLambda
