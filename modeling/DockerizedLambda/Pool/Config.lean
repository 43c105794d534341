import DockerizedLambda.Port.PortManager

/-! The configuration and its validation, in `main` and in the pool. -/

namespace DockerizedLambda

structure PoolConfig where
  maxInstances : Nat
  minInstances : Nat
  instanceTtl : Nat
  binaryPath : String
  binaryName : String
  portRange : PortRange
deriving DecidableEq, Repr

inductive ConfigError
  | invalidValue (message : String)
  | invalidPath (message : String)
deriving DecidableEq, Repr

def joinPath (path name : String) : String :=
  if name.startsWith "/" then name
  else if path.isEmpty || path.endsWith "/" then path ++ name
  else path ++ "/" ++ name

def PoolConfig.validate (pathExists : String → Bool) (c : PoolConfig) :
    Except ConfigError Unit :=
  if c.maxInstances = 0 then .error (.invalidValue "max_instances must be > 0")
  else if c.maxInstances < c.minInstances then
    .error (.invalidValue "min_instances cannot exceed max_instances")
  else if c.portRange.finish ≤ c.portRange.start then
    .error (.invalidValue "port_range.start must be < port_range.end")
  else if !pathExists c.binaryPath then
    .error (.invalidPath ("Binary path does not exist: " ++ c.binaryPath.quote))
  else if !pathExists (joinPath c.binaryPath c.binaryName) then
    .error (.invalidPath ("Binary not found: " ++ (joinPath c.binaryPath c.binaryName).quote))
  else .ok ()

structure GatewayConfig where
  maxInstances : Nat
  minInstances : Nat
  instanceTtl : Nat
  binaryPath : String
  binaryName : String
  portRange : PortRange
deriving DecidableEq, Repr

def GatewayConfig.validate (pathExists : String → Bool) (c : GatewayConfig) :
    Except String Unit :=
  if c.maxInstances = 0 then .error "max_instances must be > 0"
  else if c.maxInstances < c.minInstances then
    .error "min_instances cannot exceed max_instances"
  else if c.portRange.finish ≤ c.portRange.start then
    .error "port_range.start must be < port_range.end"
  else if !pathExists c.binaryPath then
    .error ("Binary path does not exist: " ++ c.binaryPath.quote)
  else if !pathExists (joinPath c.binaryPath c.binaryName) then
    .error ("Binary not found: " ++ (joinPath c.binaryPath c.binaryName).quote)
  else .ok ()

/-- The pool configuration that `main` builds. -/
def GatewayConfig.poolConfig (c : GatewayConfig) : PoolConfig where
  maxInstances := c.maxInstances
  minInstances := c.minInstances
  instanceTtl := c.instanceTtl
  binaryPath := c.binaryPath
  binaryName := c.binaryName
  portRange := c.portRange

def nanosPerSecond : Nat := 1000000000

def GatewayConfig.default : GatewayConfig where
  maxInstances := 10
  minInstances := 1
  instanceTtl := 30 * nanosPerSecond
  binaryPath := "./functions"
  binaryName := "hello-lambda"
  portRange := ⟨8081, 9000⟩

def GatewayConfig.small : GatewayConfig where
  maxInstances := 2
  minInstances := 1
  instanceTtl := 30 * nanosPerSecond
  binaryPath := "./functions"
  binaryName := "hello-lambda"
  portRange := ⟨8081, 8084⟩

theorem PoolConfig.validate_bounds {pathExists : String → Bool} {c : PoolConfig}
    (h : c.validate pathExists = .ok ()) :
    0 < c.maxInstances ∧ c.minInstances ≤ c.maxInstances ∧
      c.portRange.start < c.portRange.finish := by
  unfold validate at h
  split_ifs at h with hmax hmin hrange
  exact ⟨Nat.pos_of_ne_zero hmax, Nat.le_of_not_lt hmin, UInt16.not_le.mp hrange⟩

theorem GatewayConfig.validate_iff (pathExists : String → Bool) (c : GatewayConfig) :
    c.validate pathExists = .ok () ↔ c.poolConfig.validate pathExists = .ok () := by
  unfold validate PoolConfig.validate poolConfig
  split_ifs <;> simp [*]

theorem GatewayConfig.default_valid {pathExists : String → Bool}
    (h : ∀ path, pathExists path = true) :
    GatewayConfig.default.validate pathExists = .ok () := by
  simp only [validate, h, Bool.not_true, Bool.false_eq_true, if_false]
  decide

end DockerizedLambda
