import DockerizedLambda.Docker.Create
import DockerizedLambda.Runtime.Run

/-! A container and the runtime in it. The gateway writes the port into the environment and
into the port binding of the container that it creates, as text; the runtime reads it back and
listens where the binding leads. -/

namespace DockerizedLambda

structure DockerConfig.Wired (config : DockerConfig) (port : UInt16) (name : String)
    (body : ContainerCreateBody) : Prop where
  listens : ∀ κ : Type, runServer (κ := κ) body.env = .ok (LambdaServer.new port)
  published : ∀ hostPort containerPort,
    body.hostConfig.Publishes hostPort containerPort ↔ hostPort = port ∧ containerPort = port
  named : ∀ port' randomId, randomId.length = containerRandomIdLength →
    config.containerName port' randomId = name → port' = port
  managed : body.hasLabel filterManagedByLabel = true

variable {canonicalize : String → Option String} {config : DockerConfig} {port port' : UInt16}
  {randomId randomId' name absoluteBinaryPath : String} {body : ContainerCreateBody}

theorem portText_toList (port : UInt16) :
    (portText port).toList = Nat.toDigits 10 port.toNat := Nat.toList_repr

theorem portText_inj (h : portText port = portText port') : port = port' := by
  have hdigits := congrArg String.toList h
  rw [portText_toList, portText_toList] at hdigits
  exact UInt16.toNat_inj.mp (Decimal.toDigits_inj hdigits)

theorem parsePort_portText (port : UInt16) : parsePort (portText port) = .ok port := by
  have hmax : port.toNat ≤ 65535 := Nat.le_of_lt_succ port.toNat_lt
  rw [parsePort, portText_toList, Decimal.fromStr_toDigits hmax]
  exact congrArg Except.ok UInt16.ofNat_toNat

theorem envVar_head (key value : String) (rest : List String) :
    envVar ((key ++ "=" ++ value) :: rest) key = some value := by
  have hprefix : (key ++ "=").toList.isPrefixOf (key ++ "=" ++ value).toList = true := by
    rw [String.toList_append (s := key ++ "="), List.isPrefixOf_iff_prefix]
    exact List.prefix_append _ _
  have hrest : (key ++ "=" ++ value).toList.drop (key ++ "=").length = value.toList := by
    rw [String.toList_append (s := key ++ "="), ← String.length_toList]
    exact List.drop_left
  rw [envVar, List.findSome?_cons, if_pos hprefix, hrest, String.ofList_toList]

theorem portFromEnv_createBody :
    portFromEnv (config.createBody absoluteBinaryPath port).env = .ok port := by
  have hvalue : envVar (config.createBody absoluteBinaryPath port).env lambdaPortEnv =
      some (portText port) := envVar_head _ _ _
  rw [portFromEnv, hvalue]
  dsimp only
  rw [parsePort_portText]

theorem runServer_createBody (κ : Type) : runServer (κ := κ)
    (config.createBody absoluteBinaryPath port).env = .ok (LambdaServer.new port) := by
  rw [runServer, portFromEnv_createBody]
  rfl

theorem containerPort_inj
    (h : DockerConfig.containerPort port = DockerConfig.containerPort port') : port = port' := by
  have htext := (String.append_left_inj _).mp ((String.append_left_inj _).mp h)
  exact portText_inj htext

theorem publishes_iff {hostPort containerPort : UInt16} :
    (config.hostConfig absoluteBinaryPath port).Publishes hostPort containerPort ↔
      hostPort = port ∧ containerPort = port := by
  constructor
  · rintro ⟨bindings, hlookup, hmem⟩
    rcases Table.lookup_insert_cases hlookup with ⟨hport, rfl⟩ | ⟨-, hempty⟩
    · have hhost := congrArg PortBinding.hostPort (List.mem_singleton.mp hmem)
      exact ⟨portText_inj hhost, containerPort_inj hport⟩
    · cases hempty
  · rintro ⟨rfl, rfl⟩
    exact ⟨_, AList.lookup_insert _, List.mem_singleton.mpr rfl⟩

theorem containerName_inj (hlen : randomId.length = randomId'.length)
    (h : config.containerName port randomId = config.containerName port' randomId') :
    port = port' := by
  have hlists := congrArg String.toList h
  simp only [DockerConfig.containerName, String.toList_append] at hlists
  rw [← String.length_toList, ← String.length_toList] at hlen
  obtain ⟨hfirst, -⟩ := List.append_inj' hlists hlen
  obtain ⟨hsecond, -⟩ := List.append_inj' hfirst rfl
  have hport := List.append_cancel_left hsecond
  exact portText_inj (String.toList_inj.mp hport)

theorem createBody_managed :
    (config.createBody absoluteBinaryPath port).hasLabel filterManagedByLabel = true := by
  rw [ContainerCreateBody.hasLabel, List.any_eq_true]
  refine ⟨⟨labelManagedByKey, labelManagedByValue⟩, ?_, by decide⟩
  rw [← AList.mem_lookup_iff]
  rfl

/-- A container that is created for a port runs a server on this port, is reached under it and
under no other one, has no name that one for another port may have, and is listed as managed. -/
theorem container_wired (hlen : randomId.length = containerRandomIdLength)
    (h : config.createRequest canonicalize port randomId = .ok (name, body)) :
    config.Wired port name body := by
  unfold DockerConfig.createRequest at h
  split at h
  next absoluteBinaryPath _ =>
    obtain ⟨rfl, rfl⟩ := Prod.mk.inj (Except.ok.inj h)
    exact ⟨runServer_createBody, fun _ _ => publishes_iff,
      fun port' randomId' hlen' hname => containerName_inj (hlen'.trans hlen.symm) hname,
      createBody_managed⟩
  next => cases h

theorem container_wired_hello : ∃ body,
    DockerConfig.createRequest (fun path => some ("/srv/" ++ path))
      ⟨"functions", "hello-lambda", 128⟩ 8081 "aB3dE5gH7jK9" =
        .ok ("lambda-hello-lambda-8081-aB3dE5gH7jK9", body) ∧
    DockerConfig.Wired ⟨"functions", "hello-lambda", 128⟩ 8081
      "lambda-hello-lambda-8081-aB3dE5gH7jK9" body := by
  obtain ⟨body, hbody⟩ : ∃ body, DockerConfig.createRequest (fun path => some ("/srv/" ++ path))
      ⟨"functions", "hello-lambda", 128⟩ 8081 "aB3dE5gH7jK9" =
        .ok ("lambda-hello-lambda-8081-aB3dE5gH7jK9", body) := ⟨_, rfl⟩
  exact ⟨body, hbody, container_wired rfl hbody⟩

end DockerizedLambda
