import DockerizedLambda.Port.Conservation
import DockerizedLambda.Docker.DockerManager
import Mathlib.Algebra.Order.Group.Multiset
import Mathlib.Tactic.Abel

/-! The life of a host, seen from its resources: a port is allocated, a container created
on it, both wrapped in a host, and the host dropped, which offers the container for
cleanup and then gives the port back. Nothing else happens to the ports. -/

namespace DockerizedLambda

structure Resources where
  ports : PortManager
  containers : List ContainerId
  spawning : Option (AllocatedPort × Option ContainerId)
  hosts : Multiset (ContainerId × AllocatedPort)
  droppingPorts : Multiset AllocatedPort
  spawned : List ContainerId
  sent : List ContainerId
  unsent : List ContainerId

namespace Resources

inductive Step (r : Resources) : Resources → Prop
  | idle : Step r r
  | portStep {b : PortManager.Action} {ports : PortManager} (hstep : r.ports.step b = some ports)
      (hlive : ports.live = r.ports.live) : Step r { r with ports }
  | allocated {port : AllocatedPort} (hspawn : r.spawning = none)
      (hport : r.ports.allocatePort.1 = .ok port) :
      Step r { r with ports := r.ports.allocatePort.2, spawning := some (port, none) }
  | created {port : AllocatedPort} {containerId : ContainerId}
      (hspawn : r.spawning = some (port, none)) (hfresh : containerId ∉ r.containers) :
      Step r { r with
        containers := containerId :: r.containers
        spawning := some (port, some containerId) }
  | abandoned {port : AllocatedPort} {container : Option ContainerId}
      {containers : List ContainerId} (hspawn : r.spawning = some (port, container))
      (hkept : r.containers ⊆ containers) :
      Step r { r with containers, ports := r.ports.drop port, spawning := none }
  | appeared {containers : List ContainerId} (hkept : r.containers ⊆ containers) :
      Step r { r with containers }
  | hosted {port : AllocatedPort} {containerId : ContainerId}
      (hspawn : r.spawning = some (port, some containerId)) :
      Step r { r with
        spawning := none
        hosts := (containerId, port) ::ₘ r.hosts
        spawned := containerId :: r.spawned }
  | hostSent {port : AllocatedPort} {containerId : ContainerId}
      {rest : Multiset (ContainerId × AllocatedPort)}
      (hhosts : r.hosts = (containerId, port) ::ₘ rest) :
      Step r { r with
        hosts := rest
        droppingPorts := port ::ₘ r.droppingPorts
        sent := r.sent ++ [containerId] }
  | hostUnsent {port : AllocatedPort} {containerId : ContainerId}
      {rest : Multiset (ContainerId × AllocatedPort)}
      (hhosts : r.hosts = (containerId, port) ::ₘ rest) :
      Step r { r with
        hosts := rest
        droppingPorts := port ::ₘ r.droppingPorts
        unsent := containerId :: r.unsent }
  | portDropped {port : AllocatedPort} {rest : Multiset AllocatedPort}
      (hport : r.droppingPorts = port ::ₘ rest) :
      Step r { r with ports := r.ports.drop port, droppingPorts := rest }

def spawningPorts (r : Resources) : Multiset AllocatedPort :=
  r.spawning.elim 0 fun p => {p.1}

def spawningIds (r : Resources) : List ContainerId :=
  r.spawning.elim [] fun p => p.2.toList

def hostIds (r : Resources) : Multiset ContainerId := r.hosts.map Prod.fst

def hostPorts (r : Resources) : Multiset AllocatedPort := r.hosts.map Prod.snd

structure Sound (portRange : PortRange) (r : Resources) : Prop where
  conserved : PortManager.Conserved portRange r.ports
  owners : (r.ports.live : Multiset AllocatedPort) =
    r.spawningPorts + r.hostPorts + r.droppingPorts
  ledger : (r.spawned : Multiset ContainerId) = r.hostIds + r.sent + r.unsent
  distinct : (r.spawningIds ++ r.spawned).Nodup
  known : ∀ containerId ∈ r.spawningIds ++ r.spawned, containerId ∈ r.containers

variable {portRange : PortRange} {r r' : Resources}

theorem allocatePort_ok {m : PortManager} {port : AllocatedPort}
    (h : m.allocatePort.1 = .ok port) : m.allocatePort.2.live = port :: m.live := by
  unfold PortManager.allocatePort at h ⊢
  split at h
  next p rest hpop =>
    simp only [Except.ok.injEq] at h
    subst h
    rfl
  next => cases h

theorem drop_live {m : PortManager} (hopen : m.portRelease.closed = false) (port : AllocatedPort) :
    (m.drop port).live = m.live.erase port := by
  rcases PortManager.drop_cases hopen port with ⟨_, c, _, hd⟩ | ⟨_, hd⟩ <;> rw [hd]

theorem spawning_owners (h : Sound portRange r) {port : AllocatedPort}
    {container : Option ContainerId} (hspawn : r.spawning = some (port, container)) :
    (r.ports.live : Multiset AllocatedPort) = port ::ₘ (r.hostPorts + r.droppingPorts) := by
  rw [h.owners, spawningPorts, hspawn, Option.elim_some, Multiset.singleton_add,
    Multiset.cons_add]

theorem dropping_owners (h : Sound portRange r) {port : AllocatedPort}
    {rest : Multiset AllocatedPort} (hport : r.droppingPorts = port ::ₘ rest) :
    (r.ports.live : Multiset AllocatedPort) = port ::ₘ (r.spawningPorts + r.hostPorts + rest) := by
  rw [h.owners, hport, Multiset.add_cons]

theorem owners_drop (h : Sound portRange r) {port : AllocatedPort} {rest : Multiset AllocatedPort}
    (hlive : (r.ports.live : Multiset AllocatedPort) = port ::ₘ rest) :
    port ∈ r.ports.live ∧ ((r.ports.drop port).live : Multiset AllocatedPort) = rest := by
  constructor
  · rw [← Multiset.mem_coe, hlive]
    exact Multiset.mem_cons_self _ _
  · rw [drop_live h.conserved.opened, ← Multiset.coe_erase, hlive, Multiset.erase_cons_head]

theorem ports_step (h : Sound portRange r) (hs : Step r r') :
    r'.ports = r.ports ∨ ∃ b, r.ports.step b = some r'.ports := by
  cases hs with
  | portStep hstep => exact .inr ⟨_, hstep⟩
  | allocated => exact .inr ⟨.allocatePort, rfl⟩
  | abandoned hspawn =>
    exact .inr ⟨.drop _, if_pos (owners_drop h (spawning_owners h hspawn)).1⟩
  | portDropped hport =>
    exact .inr ⟨.drop _, if_pos (owners_drop h (dropping_owners h hport)).1⟩
  | _ => exact .inl rfl

theorem owners_step (h : Sound portRange r) (hs : Step r r') :
    (r'.ports.live : Multiset AllocatedPort) =
      r'.spawningPorts + r'.hostPorts + r'.droppingPorts := by
  have ho := h.owners
  cases hs with
  | idle
  | appeared => exact ho
  | portStep hstep hlive =>
    change (_ : Multiset AllocatedPort) = r.spawningPorts + r.hostPorts + r.droppingPorts
    rw [hlive, ho]
  | allocated hspawn hport =>
    simp only [spawningPorts, hspawn, Option.elim_none] at ho
    simp only [allocatePort_ok hport, ← Multiset.cons_coe, ho, spawningPorts, Option.elim_some,
      ← Multiset.singleton_add]
    change {_} + (0 + r.hostPorts + r.droppingPorts) = {_} + r.hostPorts + r.droppingPorts
    abel
  | created hspawn hfresh =>
    simp only [spawningPorts, hspawn, Option.elim_some] at ho
    exact ho
  | abandoned hspawn =>
    rw [(owners_drop h (spawning_owners h hspawn)).2]
    exact congrArg (· + r.droppingPorts) (zero_add r.hostPorts).symm
  | hosted hspawn =>
    rw [spawning_owners h hspawn]
    simp only [spawningPorts, hostPorts, Option.elim_none, ← Multiset.singleton_add,
      Multiset.map_add, Multiset.map_singleton]
    abel
  | @hostSent port containerId rest hhosts | @hostUnsent port containerId rest hhosts =>
    simp only [hostPorts, hhosts, Multiset.map_cons] at ho
    change _ = r.spawningPorts + rest.map Prod.snd + (port ::ₘ r.droppingPorts)
    simp only [ho, ← Multiset.singleton_add]
    abel
  | portDropped hport => exact (owners_drop h (dropping_owners h hport)).2

theorem ledger_step (h : Sound portRange r) (hs : Step r r') :
    (r'.spawned : Multiset ContainerId) = r'.hostIds + r'.sent + r'.unsent := by
  have hl := h.ledger
  cases hs with
  | hosted =>
    simp only [hostIds, ← Multiset.cons_coe, hl, ← Multiset.singleton_add, Multiset.map_add,
      Multiset.map_singleton]
    abel
  | @hostSent port containerId rest hhosts =>
    simp only [hostIds, hhosts, Multiset.map_cons] at hl
    change _ = rest.map Prod.fst + ↑(r.sent ++ [containerId]) + ↑r.unsent
    simp only [hl, ← Multiset.coe_add, Multiset.coe_singleton, ← Multiset.singleton_add]
    abel
  | @hostUnsent port containerId rest hhosts =>
    simp only [hostIds, hhosts, Multiset.map_cons] at hl
    change _ = rest.map Prod.fst + ↑r.sent + ↑(containerId :: r.unsent)
    simp only [hl, ← Multiset.cons_coe, ← Multiset.singleton_add]
    abel
  | _ => exact hl

theorem ids_step (h : Sound portRange r) (hs : Step r r') :
    (r'.spawningIds ++ r'.spawned).Nodup ∧
      ∀ c ∈ r'.spawningIds ++ r'.spawned, c ∈ r'.containers := by
  have hd := h.distinct
  have hk := h.known
  cases hs with
  | allocated hspawn =>
    simp only [spawningIds, hspawn, Option.elim_none] at hd hk
    exact ⟨hd, hk⟩
  | created hspawn hfresh =>
    simp only [spawningIds, hspawn, Option.elim_some, Option.toList_none, List.nil_append] at hd hk
    constructor
    · exact List.nodup_cons.mpr ⟨fun hm => hfresh (hk _ hm), hd⟩
    · exact List.forall_mem_cons.mpr
        ⟨List.mem_cons_self, fun c hc => List.mem_cons_of_mem _ (hk c hc)⟩
  | abandoned hspawn hkept =>
    exact ⟨hd.sublist (List.sublist_append_right _ _),
      fun c hc => hkept (hk c (List.mem_append_right _ hc))⟩
  | appeared hkept => exact ⟨hd, fun c hc => hkept (hk c hc)⟩
  | hosted hspawn =>
    simp only [spawningIds, hspawn, Option.elim_some, Option.toList_some,
      List.singleton_append] at hd hk
    exact ⟨hd, hk⟩
  | _ => exact ⟨hd, hk⟩

theorem sound_step (h : Sound portRange r) (hs : Step r r') : Sound portRange r' := by
  obtain ⟨hd, hk⟩ := ids_step h hs
  refine ⟨?_, owners_step h hs, ledger_step h hs, hd, hk⟩
  rcases ports_step h hs with he | ⟨b, hstep⟩
  · rw [he]
    exact h.conserved
  · exact PortManager.conserved_step h.conserved hstep

theorem owned_ports_nodup (h : Sound portRange r) : (r.spawningPorts + r.hostPorts).Nodup := by
  have hlive := Multiset.coe_nodup.mpr (PortManager.nodup_live h.conserved).of_map
  rw [h.owners] at hlive
  exact (Multiset.nodup_add.mp hlive).1

end Resources

end DockerizedLambda
