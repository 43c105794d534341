import DockerizedLambda.Pool.Containers
import DockerizedLambda.Pool.Daemon

/-! When a port is used again. The drop of a host hands the container to one task and the
port to another, and nothing orders the two: only the rotation of the free ports keeps the
port back. What holds is that a port in use has one owner. -/

namespace DockerizedLambda

open Transition

namespace HostPoolManager

structure PortsApart (s : HostPoolManager) (released : List ContainerId) : Prop where
  atAllocation : ∀ caller port, s.guard = some (.spawning caller (.create port)) →
    ∀ c ∈ s.docker.containers, c.status.wasStarted = true → c.port = port.port → c.id ∈ released
  always : ((s.docker.containers.filter fun c =>
    c.status.wasStarted = true ∧ c.id ∉ released).map Container.port).Nodup

/-- A container is started of which no host will be made: its spawn is given up after the
start, or the start call is carried out and not answered with its success. -/
def LosesStarted (s : HostPoolManager) : Action → Prop
  | .cancelSpawn => ∃ caller port c, s.guard = some (.spawning caller (.inspect port c))
  | .startUnanswered _ | .daemon (.starts _) => True
  | _ => False

def Holds (s : HostPoolManager) (c : Container) : Prop :=
  (c.id, ⟨c.port⟩) ∈ s.identities ∨
    ∃ caller, s.guard = some (.spawning caller (.inspect ⟨c.port⟩ c.id))

structure Bound (s : HostPoolManager) : Prop where
  idsNodup : s.docker.ids.Nodup
  spawning : ∀ port containerId, s.resources.spawning = some (port, some containerId) →
    ∀ c ∈ s.docker.containers, c.id = containerId → c.port = port.port
  started : ∀ c ∈ s.docker.containers, c.status.wasStarted = true →
    c.id ∈ s.sent ++ s.unsent ∨ s.Holds c

variable {cfg : PoolConfig} {s s' : HostPoolManager} {a : Action}

theorem host_kept {r r' : Resources} (hs : Resources.Step r r') {x : ContainerId × AllocatedPort}
    (hx : x ∈ r.hosts) : x ∈ r'.hosts ∨ x.1 ∈ r'.sent ++ r'.unsent := by
  cases hs with
  | hosted => exact .inl (Multiset.mem_cons_of_mem hx)
  | hostSent hhosts =>
    rw [hhosts] at hx
    rcases Multiset.mem_cons.mp hx with rfl | hx
    · exact .inr (List.mem_append_left _ (List.mem_append_right _ List.mem_cons_self))
    · exact .inl hx
  | hostUnsent hhosts =>
    rw [hhosts] at hx
    rcases Multiset.mem_cons.mp hx with rfl | hx
    · exact .inr (List.mem_append_right _ List.mem_cons_self)
    · exact .inl hx
  | _ => exact .inl hx

theorem offered_kept {r r' : Resources} (hs : Resources.Step r r') {c : ContainerId}
    (hc : c ∈ r.sent ++ r.unsent) : c ∈ r'.sent ++ r'.unsent := by
  cases hs with
  | hostSent =>
    rcases List.mem_append.mp hc with hc | hc
    · exact List.mem_append_left _ (List.mem_append_left _ hc)
    · exact List.mem_append_right _ hc
  | hostUnsent =>
    rcases List.mem_append.mp hc with hc | hc
    · exact List.mem_append_left _ hc
    · exact List.mem_append_right _ (List.mem_cons_of_mem _ hc)
  | _ => exact hc

theorem spawning_cases {r r' : Resources} (hs : Resources.Step r r') {port : AllocatedPort}
    {c : ContainerId} (h : r'.spawning = some (port, some c)) :
    r.spawning = some (port, some c) ∨ r.spawning = some (port, none) ∧ c ∉ r.containers := by
  cases hs with
  | allocated
  | abandoned
  | hosted => cases h
  | created hspawn hfresh =>
    cases h
    exact .inr ⟨hspawn, hfresh⟩
  | _ => exact .inl h

theorem mem_identities (host : HostInstance)
    (hh : host ∈ s.state.availableHosts ∨ host ∈ Table.values s.state.leasedHosts) :
    (host.containerId, host.allocatedPort) ∈ s.identities := by
  refine List.mem_map_of_mem (f := HostInstance.identity) ?_
  rcases hh with hh | hh
  · exact List.mem_append_left _ hh
  · exact List.mem_append_right _ (List.mem_append_left _ hh)

theorem Effect.inspecting (he : Effect cfg s a s') (hok : ¬ s.LosesStarted a)
    (hb : s'.shutdown.workersAborted = false) {caller : Spawner} {port : AllocatedPort}
    {c : ContainerId} (hg : s.guard = some (.spawning caller (.inspect port c))) :
    s'.guard = s.guard ∨ (c, port) ∈ s'.identities := by
  cases he with
  | @hostLeased request _ _ leaseId _ hguard hfresh =>
    cases hguard.symm.trans hg
    exact .inr (mem_identities (.new c port s.clock)
      (.inr (Table.mem_values.mpr ⟨leaseId, AList.lookup_insert _⟩)))
  | @hostAdded n _ _ leaseId _ hguard =>
    cases hguard.symm.trans hg
    exact .inr (mem_identities (.new c port s.clock)
      (.inl (List.mem_append_right _ List.mem_cons_self)))
  | cancelSpawn => exact absurd ⟨_, _, _, hg⟩ hok
  | scalingTornDownHolding haborted => exact absurd (hb.symm.trans haborted) Bool.false_ne_true
  | leaseTested _ hguard | leaseUntested _ hguard | leaseSpawning _ hguard | reapLocked _ hguard
  | scalingSpawning _ hguard => exact absurd (hg.symm.trans hguard) nofun
  | portAllocated hguard | portsExhausted hguard | created hguard | createFailed hguard
  | createdUnanswered hguard | started hguard | startFailed hguard | startedUnanswered hguard
  | hostReturned hguard | hostGone hguard | reapExpired hguard | reapKept hguard
  | reapUnlocked hguard =>
    exact absurd (hg.symm.trans hguard) nofun
  | returnChecking _ _ hguard | returnsTornDownHolding _ _ hguard =>
    exact absurd (hg.symm.trans hguard) nofun
  | _ => exact .inl rfl

theorem Effect.container_cases (he : Effect cfg s a s') (hok : ¬ s.LosesStarted a)
    {c : Container} (hc : c ∈ s'.docker.containers) :
    (c.id ∉ s.docker.ids ∧ c.status = .created ∧
      ∀ port, s'.resources.spawning = some (port, some c.id) →
        s.resources.spawning = some (port, some c.id) ∨ c.port = port.port) ∨
    ∃ k ∈ s.docker.containers, k.id = c.id ∧ k.port = c.port ∧
      (k.status.wasStarted = c.status.wasStarted ∨
        ∃ caller port, s.guard = some (.spawning caller (.start port c.id)) ∧
          s'.guard = some (.spawning caller (.inspect port c.id))) := by
  have hkept : s'.docker.containers = s.docker.containers → ∃ k ∈ s.docker.containers,
      k.id = c.id ∧ k.port = c.port ∧ (k.status.wasStarted = c.status.wasStarted ∨
        ∃ caller port, s.guard = some (.spawning caller (.start port c.id)) ∧
          s'.guard = some (.spawning caller (.inspect port c.id))) :=
    fun h => ⟨c, h ▸ hc, rfl, rfl, .inl rfl⟩
  cases he with
  | cancelSpawn
  | scalingTornDownHolding => exact .inr (hkept (Docker.containers_elim_abandon _ _))
  | createFailed => exact .inr (hkept (Docker.containers_createFailed _ _ _))
  | created _ _ hfresh =>
    rcases List.mem_cons.mp hc with rfl | hc
    · refine .inl ⟨hfresh, rfl, fun port hspawn => .inr ?_⟩
      cases hspawn
      rfl
    · exact .inr ⟨c, hc, rfl, rfl, .inl rfl⟩
  | @createdUnanswered caller _ _ _ _ _ hfresh =>
    rcases List.mem_cons.mp hc with rfl | hc
    · exact .inl ⟨hfresh, rfl, fun port hspawn =>
        absurd (caller.next_resources.symm.trans hspawn) nofun⟩
    · exact .inr ⟨c, hc, rfl, rfl, .inl rfl⟩
  | started hguard =>
    obtain ⟨k, hk, ⟨rfl, rfl⟩ | ⟨_, rfl⟩⟩ := Docker.mem_update hc
    · exact .inr ⟨k, hk, rfl, rfl, .inr ⟨_, _, hguard, rfl⟩⟩
    · exact .inr ⟨c, hk, rfl, rfl, .inl rfl⟩
  | startedUnanswered => exact absurd trivial hok
  | cleanupStopped
  | forceStopped =>
    obtain ⟨k, hk, ⟨rfl, rfl⟩ | ⟨_, rfl⟩⟩ := Docker.mem_update hc
    · exact .inr ⟨k, hk, rfl, rfl, .inl k.status.wasStarted_stop.symm⟩
    · exact .inr ⟨c, hk, rfl, rfl, .inl rfl⟩
  | @daemonActed event docker hact =>
    rcases Docker.act_cases hact with
      ⟨port, id, rfl, hfresh, h⟩ | ⟨id, rfl, -, h⟩ | ⟨id, rfl, h⟩
    · rcases List.mem_cons.mp (h ▸ hc) with rfl | hc
      · exact .inl ⟨hfresh, rfl, fun port hspawn => .inl hspawn⟩
      · exact .inr ⟨c, hc, rfl, rfl, .inl rfl⟩
    · exact absurd trivial hok
    · obtain ⟨k, hk, ⟨rfl, rfl⟩ | ⟨_, rfl⟩⟩ := Docker.mem_update (h ▸ hc)
      · exact .inr ⟨k, hk, rfl, rfl, .inl k.status.wasStarted_finish.symm⟩
      · exact .inr ⟨c, hk, rfl, rfl, .inl rfl⟩
  | _ => exact .inr ⟨c, hc, rfl, rfl, .inl rfl⟩

theorem Effect.holds (he : Effect cfg s a s') (hw : s.WellFormed) (hok : ¬ s.LosesStarted a)
    (hb : s'.shutdown.workersAborted = false) {c : Container}
    (h : c.id ∈ s.sent ++ s.unsent ∨ s.Holds c) :
    c.id ∈ s'.sent ++ s'.unsent ∨ s'.Holds c := by
  have hstep := he.resources_step hw
  rcases h with h | h | ⟨caller, hg⟩
  · exact .inl (offered_kept hstep h)
  · rcases host_kept hstep (Multiset.mem_coe.mpr h) with h | h
    · exact .inr (.inl (Multiset.mem_coe.mp h))
    · exact .inl h
  · rcases he.inspecting hok hb hg with h | h
    · exact .inr (.inr ⟨caller, h.trans hg⟩)
    · exact .inr (.inl h)

theorem spawning_step (he : Effect cfg s a s') (hw : s.WellFormed)
    (hsound : s.resources.Sound cfg.portRange) (hok : ¬ s.LosesStarted a) (h : s.Bound)
    (port : AllocatedPort) (containerId : ContainerId)
    (hspawn : s'.resources.spawning = some (port, some containerId)) :
    ∀ c ∈ s'.docker.containers, c.id = containerId → c.port = port.port := by
  rintro c hc rfl
  rcases he.container_cases hok hc with ⟨hfresh, _, hport⟩ | ⟨k, hk, hid, hport, _⟩
  · rcases hport port hspawn with hold | hport
    · refine absurd (hsound.known c.id ?_) hfresh
      rw [Resources.spawningIds, hold]
      exact List.mem_cons_self
    · exact hport
  · rcases spawning_cases (he.resources_step hw) hspawn with hold | ⟨_, hfresh⟩
    · exact hport.symm.trans (h.spawning port c.id hold k hk hid)
    · exact absurd (hid ▸ List.mem_map_of_mem hk) hfresh

theorem started_step (he : Effect cfg s a s') (hw : s.WellFormed) (hok : ¬ s.LosesStarted a)
    (hb : s'.shutdown.workersAborted = false) (h : s.Bound) (c : Container)
    (hc : c ∈ s'.docker.containers) (hstarted : c.status.wasStarted = true) :
    c.id ∈ s'.sent ++ s'.unsent ∨ s'.Holds c := by
  rcases he.container_cases hok hc with ⟨_, hcreated, _⟩ | ⟨k, hk, hid, hport, hcase⟩
  · rw [hcreated] at hstarted
    cases hstarted
  · rcases hcase with hsame | ⟨caller, port, hg, hg'⟩
    · have hkept := he.holds hw hok hb (h.started k hk (hsame.trans hstarted))
      rwa [Holds, hid, hport] at hkept
    · have hp := h.spawning port c.id (spawning_of_guard hg) k hk hid
      refine .inr (.inr ⟨caller, ?_⟩)
      rw [hg', ← hport, hp]

theorem bound_new : (new cfg).Bound := ⟨List.nodup_nil, nofun, nofun⟩

theorem bound_run {tr : List (HostPoolManager × Action)} (h : Run (system cfg) tr s)
    (hbefore : s.shutdown.workersAborted = false) (hok : ∀ p ∈ tr, ¬ p.1.LosesStarted p.2) :
    s.Bound := by
  have key := h.invariant_where (C := fun s a => ¬ s.LosesStarted a)
    (I := fun s => s.shutdown.workersAborted = false → s.Bound)
    (fun _ => bound_new) (fun hr hok hi hs hb => ?_) hok
  · exact key hbefore
  · have he := effect_of_step hs
    have hw := wellFormed_run hr
    have hbound := hi (he.before_abort hb).1
    exact ⟨he.ids_nodup hbound.idsNodup, spawning_step he hw (sound_run hr) hok hbound,
      started_step he hw hok hb hbound⟩

section Held

variable {portRange : PortRange} {x y : ContainerId × AllocatedPort}

theorem port_owner (h : s.resources.Sound portRange) (hx : x ∈ s.identities)
    (hy : y ∈ s.identities) (hport : x.2 = y.2) : x = y :=
  Multiset.inj_on_of_nodup_map (Multiset.nodup_add.mp (Resources.owned_ports_nodup h)).2.1
    x (Multiset.mem_coe.mpr hx) y (Multiset.mem_coe.mpr hy) hport

theorem spawning_port_unowned (h : s.resources.Sound portRange) {port : AllocatedPort}
    {container : Option ContainerId} (hspawn : s.resources.spawning = some (port, container))
    (hx : x ∈ s.identities) : x.2 ≠ port := by
  have hnodup := Resources.owned_ports_nodup h
  rw [Resources.spawningPorts, hspawn, Option.elim_some, Multiset.singleton_add,
    Multiset.nodup_cons] at hnodup
  rintro rfl
  exact hnodup.1 (Multiset.mem_map_of_mem Prod.snd (Multiset.mem_coe.mpr hx))

theorem holds_unique (h : s.resources.Sound portRange) {c k : Container} (hc : s.Holds c)
    (hk : s.Holds k) (hport : c.port = k.port) : c.id = k.id := by
  -- a port in use has one owner
  rcases hc with hc | ⟨_, hgc⟩ <;> rcases hk with hk | ⟨_, hgk⟩
  · exact congrArg Prod.fst (port_owner h hc hk (congrArg AllocatedPort.mk hport))
  · exact absurd (congrArg AllocatedPort.mk hport)
      (spawning_port_unowned h (spawning_of_guard hgk) hc)
  · exact absurd (congrArg AllocatedPort.mk hport.symm)
      (spawning_port_unowned h (spawning_of_guard hgc) hk)
  · have hspawn := (spawning_of_guard hgc).symm.trans (spawning_of_guard hgk)
    exact Option.some.inj (congrArg Prod.snd (Option.some.inj hspawn))

end Held

theorem ports_apart {tr : List (HostPoolManager × Action)} (h : Run (system cfg) tr s)
    (hbefore : s.shutdown.workersAborted = false) (hok : ∀ p ∈ tr, ¬ p.1.LosesStarted p.2) :
    s.PortsApart (s.sent ++ s.unsent) := by
  have hsound := sound_run h
  have hbound := bound_run h hbefore hok
  refine ⟨fun caller port hg c hc hstarted hport => ?_, ?_⟩
  · rcases hbound.started c hc hstarted with hdropped | hidentity | ⟨_, hinspect⟩
    · exact hdropped
    · exact absurd (congrArg AllocatedPort.mk hport)
        (spawning_port_unowned hsound (spawning_of_guard hg) hidentity)
    · exact absurd (hg.symm.trans hinspect) nofun
  -- two that run on one port have the same owner, and an owner has one container
  · refine (hbound.idsNodup.of_map.filter _).map_on fun c hc k hk hport => ?_
    obtain ⟨hc, hcs⟩ := List.mem_filter.mp hc
    obtain ⟨hk, hks⟩ := List.mem_filter.mp hk
    obtain ⟨hcs, hcr⟩ := of_decide_eq_true hcs
    obtain ⟨hks, hkr⟩ := of_decide_eq_true hks
    have hid := holds_unique hsound ((hbound.started c hc hcs).resolve_left hcr)
      ((hbound.started k hk hks).resolve_left hkr) hport
    exact List.inj_on_of_nodup_map hbound.idsNodup hc hk hid

def singleHost : PoolConfig where
  maxInstances := 1
  minInstances := 1
  instanceTtl := 30 * nanosPerSecond
  binaryPath := "./functions"
  binaryName := "hello-lambda"
  portRange := ⟨8081, 8082⟩

def spawnReaped : List Action :=
  [.lockScaling, .allocatePort, .createContainer (.ok "c1"), .startContainer (.ok ()),
    .inspectContainer (.ok ()) 0, .tick 31000000000, .lockReap, .testReap, .unlockReap,
    .dropHost ⟨"c1", ⟨8081⟩, 0, false⟩, .dropPort ⟨8081⟩, .recvPort, .reinsertPort, .recvCleanup]

theorem not_losesStarted (hcancel : a ≠ .cancelSpawn) (hunanswered : ∀ e, a ≠ .startUnanswered e)
    (hstarts : ∀ c, a ≠ .daemon (.starts c)) : ¬ s.LosesStarted a := by
  cases a with
  | cancelSpawn => exact absurd rfl hcancel
  | startUnanswered e => exact absurd rfl (hunanswered e)
  | daemon event =>
    cases event with
    | starts c => exact absurd rfl (hstarts c)
    | _ => exact id
  | _ => exact id

theorem ports_apart_after_return :
    ∃ tr s, Run (system singleHost) tr s ∧ s.sent = ["c1"] ∧ s.stopped = [] ∧
      s.PortsApart (s.sent ++ s.unsent) := by
  obtain ⟨tr, s, ht, hstage, hsent, hstopped, hok⟩ : ∃ tr s,
      (system singleHost).trace [] (new singleHost)
        (spawnReaped ++ [.lockScaling, .allocatePort]) = some (tr, s) ∧
      s.shutdown.workersAborted = false ∧ s.sent = ["c1"] ∧ s.stopped = [] ∧
      ∀ a ∈ tr.map Prod.snd, a ≠ .cancelSpawn ∧ (∀ e, a ≠ .startUnanswered e) ∧
        ∀ c, a ≠ .daemon (.starts c) := ⟨_, _, rfl, rfl, rfl, rfl, by simp⟩
  have hr := Run.start.trace ht
  refine ⟨tr, s, hr, hsent, hstopped, ports_apart hr hstage fun p hp => ?_⟩
  obtain ⟨hcancel, hunanswered, hstarts⟩ := hok _ (List.mem_map_of_mem hp)
  exact not_losesStarted hcancel hunanswered hstarts

theorem port_used_twice : ∃ tr s, Run (system singleHost) tr s ∧ s.shutdown = .notStarted ∧
    (∀ p ∈ tr, p.2.Succeeds) ∧
    s.guard = some (.spawning (.runScalingPolicy 0) (.create ⟨8081⟩)) ∧
    s.docker.containers = [⟨"c1", 8081, .started⟩] ∧ s.stopped = [] ∧
    ¬ s.PortsApart s.stopped := by
  obtain ⟨tr, s, ht, hstage, hok, hg, hcontainers, hstopped⟩ : ∃ tr s,
      (system singleHost).trace [] (new singleHost)
        (spawnReaped ++ [.lockScaling, .allocatePort]) = some (tr, s) ∧
      s.shutdown = .notStarted ∧ (∀ a ∈ tr.map Prod.snd, a.Succeeds) ∧
      s.guard = some (.spawning (.runScalingPolicy 0) (.create ⟨8081⟩)) ∧
      s.docker.containers = [⟨"c1", 8081, .started⟩] ∧ s.stopped = [] :=
    ⟨_, _, rfl, rfl, by simp [Action.Succeeds], rfl, rfl, rfl⟩
  refine ⟨tr, s, Run.start.trace ht, hstage, fun p hp => hok _ (List.mem_map_of_mem hp), hg,
    hcontainers, hstopped, fun hports => ?_⟩
  have hc : ⟨"c1", 8081, .started⟩ ∈ s.docker.containers := by
    rw [hcontainers]
    exact List.mem_cons_self
  have hreleased := hports.atAllocation _ _ hg _ hc rfl rfl
  rw [hstopped] at hreleased
  cases hreleased

end HostPoolManager

end DockerizedLambda
