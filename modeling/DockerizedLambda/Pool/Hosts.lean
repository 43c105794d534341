import DockerizedLambda.Pool.Effect
import DockerizedLambda.Pool.Resources

/-! Where the hosts of a pool are, and the refinement of the resource machine: whatever a
task does, it moves hosts around or takes one step in a host's life. -/

namespace DockerizedLambda

open Transition

def HostInstance.identity (host : HostInstance) : ContainerId × AllocatedPort :=
  (host.containerId, host.allocatedPort)

def Guard.hosts : Guard → List HostInstance
  | .spawning _ _ => []
  | .returnHostInternal _ host => [host]
  | .reapExpiredHosts rest expired stillValid => rest ++ (expired ++ stillValid)

def Guard.resources : Guard → Option (AllocatedPort × Option ContainerId)
  | .spawning _ .allocate => none
  | .spawning _ (.create port) => some (port, none)
  | .spawning _ (.start port containerId) => some (port, some containerId)
  | .spawning _ (.inspect port containerId) => some (port, some containerId)
  | .returnHostInternal _ _ => none
  | .reapExpiredHosts _ _ _ => none

def Guard.returning : Guard → Option Uuid
  | .returnHostInternal leaseId _ => some leaseId
  | _ => none

def ReturnStage.checked : ReturnStage → Option Uuid
  | .checking leaseId => some leaseId
  | _ => none

def ShutdownStage.hosts : ShutdownStage → List HostInstance
  | .collected _ allHosts => allHosts
  | _ => []

theorem Spawner.next_hosts (caller : Spawner) : caller.next.elim [] Guard.hosts = [] := by
  cases caller with
  | leaseHost => rfl
  | runScalingPolicy n => cases n <;> rfl

theorem Spawner.next_resources (caller : Spawner) : caller.next.bind Guard.resources = none := by
  cases caller with
  | leaseHost => rfl
  | runScalingPolicy n => cases n <;> rfl

theorem Spawner.next_returning (caller : Spawner) : caller.next.bind Guard.returning = none := by
  cases caller with
  | leaseHost => rfl
  | runScalingPolicy n => cases n <;> rfl

namespace HostPoolManager

def hosts (s : HostPoolManager) : List HostInstance :=
  s.state.availableHosts ++ (Table.values s.state.leasedHosts ++
    (s.guard.elim [] Guard.hosts ++ (s.dropping ++ s.shutdown.hosts)))

def identities (s : HostPoolManager) : List (ContainerId × AllocatedPort) :=
  s.hosts.map HostInstance.identity

def resources (s : HostPoolManager) : Resources where
  ports := s.portManager
  containers := s.docker.ids
  spawning := s.guard.bind Guard.resources
  hosts := s.identities
  droppingPorts := s.droppingPorts
  spawned := s.spawned
  sent := s.sent
  unsent := s.unsent

structure WellFormed (s : HostPoolManager) : Prop where
  keysIssued : ∀ leaseId ∈ s.state.leasedHosts, leaseId ∈ s.issued
  reaping : ∀ rest expired stillValid,
    s.guard = some (.reapExpiredHosts rest expired stillValid) → s.state.availableHosts = []
  checking : s.returns.checked = s.guard.bind Guard.returning

variable {cfg : PoolConfig} {s s' : HostPoolManager} {a : Action}

theorem keysIssued_insert {t : Table Uuid HostInstance} {issued : List Uuid}
    (h : ∀ k ∈ t, k ∈ issued) (leaseId : Uuid) (host : HostInstance) :
    ∀ k ∈ t.insert leaseId host, k ∈ leaseId :: issued := by
  intro k hk
  rcases (AList.mem_insert t).mp hk with rfl | hk
  · exact List.mem_cons_self
  · exact List.mem_cons_of_mem _ (h k hk)

theorem Effect.keysIssued (he : Effect cfg s a s') (h : ∀ k ∈ s.state.leasedHosts, k ∈ s.issued) :
    ∀ k ∈ s'.state.leasedHosts, k ∈ s'.issued := by
  cases he with
  | leaseTested
  | leaseUntested
  | hostLeased => exact keysIssued_insert h _ _
  | readyConfirmed _ _ hhost =>
    intro k hk
    rcases (AList.mem_insert _).mp hk with rfl | hk
    · exact h _ (Table.lookup_mem hhost)
    · exact h k hk
  | notReady
  | returnExpired
  | returnChecking => exact fun k hk => h k (AList.mem_erase.mp hk).2
  | collected => exact fun k hk => absurd hk (AList.notMem_empty k)
  | _ => exact h

theorem Spawner.next_ne_reaping (caller : Spawner) (rest expired stillValid : List HostInstance) :
    caller.next ≠ some (.reapExpiredHosts rest expired stillValid) := by
  cases caller with
  | leaseHost => exact nofun
  | runScalingPolicy n => cases n <;> exact nofun

theorem Spawner.next_ne_returning (caller : Spawner) (leaseId : Uuid) (host : HostInstance) :
    caller.next ≠ some (.returnHostInternal leaseId host) := by
  cases caller with
  | leaseHost => exact nofun
  | runScalingPolicy n => cases n <;> exact nofun

theorem Effect.reaping (he : Effect cfg s a s')
    (h : ∀ rest expired stillValid, s.guard = some (.reapExpiredHosts rest expired stillValid) →
      s.state.availableHosts = []) :
    ∀ rest expired stillValid, s'.guard = some (.reapExpiredHosts rest expired stillValid) →
      s'.state.availableHosts = [] := by
  intro rest expired stillValid hg
  cases he with
  | reapLocked => rfl
  | reapExpired hguard
  | reapKept hguard => exact h _ _ _ hguard
  | portsExhausted
  | createFailed
  | createdUnanswered
  | startFailed
  | startedUnanswered
  | hostAdded => exact absurd hg (Spawner.next_ne_reaping _ _ _ _)
  | readyConfirmed _ hguard
  | notReady _ hguard
  | returnExpired _ _ hguard => exact absurd (hguard.symm.trans hg) nofun
  | collected => rfl
  | _ => first | exact h _ _ _ hg | cases hg

theorem Effect.checking (he : Effect cfg s a s')
    (h : s.returns.checked = s.guard.bind Guard.returning) :
    s'.returns.checked = s'.guard.bind Guard.returning := by
  cases he with
  | leaseTested _ hguard
  | leaseUntested _ hguard => exact h.trans (by rw [hguard])
  | leaseSpawning _ hguard
  | cancelSpawn hguard
  | portAllocated hguard => exact h.trans (by rw [hguard]; rfl)
  | portsExhausted hguard => exact h.trans (by rw [hguard, Spawner.next_returning]; rfl)
  | created hguard => exact h.trans (by rw [hguard]; rfl)
  | createFailed hguard
  | createdUnanswered hguard => exact h.trans (by rw [hguard, Spawner.next_returning]; rfl)
  | started hguard => exact h.trans (by rw [hguard]; rfl)
  | startFailed hguard
  | startedUnanswered hguard => exact h.trans (by rw [hguard, Spawner.next_returning]; rfl)
  | hostLeased hguard => exact h.trans (by rw [hguard]; rfl)
  | hostAdded hguard => exact h.trans (by rw [hguard, Spawner.next_returning]; rfl)
  | returnReceived _ hstage
  | returnExpired _ hstage
  | returnInvalid _ hstage => rwa [hstage] at h
  | reapLocked _ hguard
  | reapExpired hguard
  | reapKept hguard
  | reapUnlocked hguard
  | scalingSpawning _ hguard => exact h.trans (by rw [hguard]; rfl)
  | returnsTornDown _ _ hguard =>
    cases hg : s.guard with
    | none => rfl
    | some g =>
      cases g with
      | returnHostInternal leaseId host => exact absurd hg (hguard _ _)
      | spawning
      | reapExpiredHosts => rfl
  | scalingTornDownHolding _ _ hguard => exact h.trans (by rw [hguard]; rfl)
  | _ => first | exact h | rfl

theorem Effect.wellFormed (he : Effect cfg s a s') (h : s.WellFormed) : s'.WellFormed :=
  ⟨he.keysIssued h.keysIssued, he.reaping h.reaping, he.checking h.checking⟩

theorem wellFormed_new : (new cfg).WellFormed :=
  ⟨fun k hk => absurd hk (AList.notMem_empty k), nofun, rfl⟩

theorem wellFormed_run {tr : List (HostPoolManager × Action)} (h : Run (system cfg) tr s) :
    s.WellFormed :=
  h.invariant (I := WellFormed) wellFormed_new fun _ hi hs => (effect_of_step hs).wellFormed hi

theorem moved_step (hspawn : s'.guard.bind Guard.resources = s.guard.bind Guard.resources)
    (hhosts : s'.identities.Perm s.identities)
    (hports : s'.portManager = s.portManager := by rfl)
    (hids : s'.docker.ids = s.docker.ids := by rfl)
    (hdrop : s'.droppingPorts = s.droppingPorts := by rfl)
    (hspawned : s'.spawned = s.spawned := by rfl) (hsent : s'.sent = s.sent := by rfl)
    (hunsent : s'.unsent = s.unsent := by rfl) : Resources.Step s.resources s'.resources := by
  have he : s'.resources = s.resources := by
    simp only [resources, hports, hids, hspawn, hdrop, hspawned, hsent, hunsent,
      Multiset.coe_eq_coe.mpr hhosts]
  rw [he]
  exact .idle

theorem dropHost_step {host : HostInstance}
    (hspawn : s'.guard.bind Guard.resources = s.guard.bind Guard.resources)
    (hhosts : s.identities.Perm (host.identity :: s'.identities))
    (hsent : s'.sent = (s.dropHost host).sent := by rfl)
    (hunsent : s'.unsent = (s.dropHost host).unsent := by rfl)
    (hdrop : s'.droppingPorts = (s.dropHost host).droppingPorts := by rfl)
    (hports : s'.portManager = s.portManager := by rfl)
    (hids : s'.docker.ids = s.docker.ids := by rfl)
    (hspawned : s'.spawned = s.spawned := by rfl) : Resources.Step s.resources s'.resources := by
  have hperm : s.resources.hosts = host.identity ::ₘ (s'.identities : Multiset _) :=
    Multiset.coe_eq_coe.mpr hhosts
  have hstep : s'.resources = { s.resources with
      hosts := s'.identities
      droppingPorts := (s.dropHost host).droppingPorts
      sent := (s.dropHost host).sent
      unsent := (s.dropHost host).unsent } := by
    simp only [resources, hports, hids, hspawn, hdrop, hspawned, hsent, hunsent]
  rw [hstep]
  cases ha : s.cleanup.accepts with
  | true =>
    simp only [dropHost, ha, if_true]
    exact .hostSent hperm
  | false =>
    simp only [dropHost, ha, Bool.false_eq_true, if_false]
    exact .hostUnsent hperm

theorem portManager_step {b : PortManager.Action}
    (hstep : s.portManager.step b = some s'.portManager)
    (hlive : s'.portManager.live = s.portManager.live)
    (hspawn : s'.guard.bind Guard.resources = s.guard.bind Guard.resources)
    (hhosts : s'.identities = s.identities)
    (hids : s'.docker.ids = s.docker.ids := by rfl)
    (hdrop : s'.droppingPorts = s.droppingPorts := by rfl)
    (hspawned : s'.spawned = s.spawned := by rfl) (hsent : s'.sent = s.sent := by rfl)
    (hunsent : s'.unsent = s.unsent := by rfl) : Resources.Step s.resources s'.resources := by
  have he : s'.resources = { s.resources with ports := s'.portManager } := by
    simp only [resources, hids, hspawn, hdrop, hspawned, hsent, hunsent, hhosts]
  rw [he]
  exact .portStep hstep hlive

theorem spawning_of_guard {guard : Guard} (hguard : s.guard = some guard) :
    s.resources.spawning = guard.resources := by
  rw [resources, hguard]
  rfl

theorem abandoned_step {caller : Spawner} {spawn : Spawn}
    (hguard : s.guard = some (.spawning caller spawn))
    (hspawn : s'.guard.bind Guard.resources = none)
    (hhosts : s'.identities = s.identities)
    (hids : s.docker.ids ⊆ s'.docker.ids)
    (hports : s'.portManager = spawn.port.elim s.portManager s.portManager.drop := by rfl)
    (hdrop : s'.droppingPorts = s.droppingPorts := by rfl)
    (hspawned : s'.spawned = s.spawned := by rfl) (hsent : s'.sent = s.sent := by rfl)
    (hunsent : s'.unsent = s.unsent := by rfl) : Resources.Step s.resources s'.resources := by
  have hstep : s'.resources = { s.resources with
      ports := spawn.port.elim s.portManager s.portManager.drop
      containers := s'.docker.ids
      spawning := none } := by
    simp only [resources, hports, hspawn, hdrop, hspawned, hsent, hunsent, hhosts]
  have hold := spawning_of_guard hguard
  rw [hstep]
  cases spawn with
  | allocate =>
    have hr : { s.resources with
        ports := s.portManager
        containers := s'.docker.ids
        spawning := none } = { s.resources with containers := s'.docker.ids } := by
      simp only [resources, hguard, Option.bind_some, Guard.resources]
    change Resources.Step s.resources { s.resources with
      ports := s.portManager
      containers := s'.docker.ids
      spawning := none }
    rw [hr]
    exact .appeared hids
  | create port
  | start port containerId
  | inspect port containerId => exact .abandoned hold hids

theorem lost_ids {d : Docker} (spawn : Spawn) : d.ids ⊆ (spawn.call.elim d d.abandon).ids := by
  rw [Docker.ids_congr (d.containers_elim_abandon spawn.call)]
  exact List.Subset.refl _

theorem identities_of_guard
    (hguard : s'.guard.elim [] Guard.hosts = s.guard.elim [] Guard.hosts)
    (hstate : s'.state = s.state := by rfl) (hdropping : s'.dropping = s.dropping := by rfl)
    (hshutdown : s'.shutdown.hosts = s.shutdown.hosts := by rfl) :
    s'.identities = s.identities := by
  simp only [identities, hosts, hguard, hstate, hdropping, hshutdown]

theorem hosted_step {port : AllocatedPort} {containerId : ContainerId}
    (hold : s.resources.spawning = some (port, some containerId))
    (hspawn : s'.guard.bind Guard.resources = none)
    (hhosts : s'.identities.Perm ((containerId, port) :: s.identities))
    (hspawned : s'.spawned = containerId :: s.spawned := by rfl)
    (hports : s'.portManager = s.portManager := by rfl)
    (hids : s'.docker.ids = s.docker.ids := by rfl)
    (hdrop : s'.droppingPorts = s.droppingPorts := by rfl)
    (hsent : s'.sent = s.sent := by rfl) (hunsent : s'.unsent = s.unsent := by rfl) :
    Resources.Step s.resources s'.resources := by
  have he : s'.resources = { s.resources with
      spawning := none
      hosts := (containerId, port) ::ₘ s.resources.hosts
      spawned := containerId :: s.resources.spawned } := by
    simp only [resources, hports, hids, hspawn, hdrop, hspawned, hsent, hunsent,
      Multiset.cons_coe, Multiset.coe_eq_coe.mpr hhosts]
  rw [he]
  exact .hosted hold

theorem allocatePort_error_live {m : PortManager} {e : PortError}
    (h : m.allocatePort.1 = .error e) : m.allocatePort.2.live = m.live := by
  have hq := PortManager.allocatePort_error h
  unfold PortManager.allocatePort
  rw [QueueSet.popFront_nil hq]

theorem recvPort_live {m m' : PortManager} (h : m.recvPort = some m') : m'.live = m.live := by
  obtain ⟨_, _, _, _, rfl⟩ := PortManager.recvPort_cases h
  rfl

theorem reinsert_live {m m' : PortManager} (h : m.reinsert = some m') : m'.live = m.live := by
  obtain ⟨_, _, rfl⟩ := PortManager.reinsert_cases h
  rfl

theorem count_identities (x : ContainerId × AllocatedPort) (s : HostPoolManager) :
    s.identities.count x = (s.state.availableHosts.map HostInstance.identity).count x +
      (((Table.values s.state.leasedHosts).map HostInstance.identity).count x +
        (((s.guard.elim [] Guard.hosts).map HostInstance.identity).count x +
          ((s.dropping.map HostInstance.identity).count x +
            (s.shutdown.hosts.map HostInstance.identity).count x))) := by
  simp only [identities, hosts, List.map_append, List.count_append]

theorem count_values_erase {t : Table Uuid HostInstance} {leaseId : Uuid} {host : HostInstance}
    (h : t.lookup leaseId = some host) (x : ContainerId × AllocatedPort) :
    ((Table.values t).map HostInstance.identity).count x =
      (host.identity :: (Table.values (t.erase leaseId)).map HostInstance.identity).count x :=
  ((Table.values_perm_erase h).map _).count_eq x

theorem count_values_insert {t : Table Uuid HostInstance} {leaseId : Uuid}
    (h : leaseId ∉ t) (host : HostInstance) (x : ContainerId × AllocatedPort) :
    ((Table.values (t.insert leaseId host)).map HostInstance.identity).count x =
      (host.identity :: (Table.values t).map HostInstance.identity).count x := by
  rw [Table.values_insert_of_notMem h]
  rfl

theorem Effect.resources_step (he : Effect cfg s a s') (hw : s.WellFormed) :
    Resources.Step s.resources s'.resources := by
  have hk := hw.keysIssued
  cases he with
  | @leaseTested request leaseId host rest _ hguard hfresh havail
  | @leaseUntested request leaseId host rest _ hguard hfresh havail =>
    refine moved_step (by rw [hguard]) ?_
    rw [List.perm_iff_count]
    intro x
    have hv := count_values_insert (fun hm => hfresh (hk _ hm)) host x
    simp only [count_identities, havail, hguard, hv, List.map_cons, List.count_cons]
    omega
  | leaseSpawning _ hguard =>
    exact moved_step (by rw [hguard]; rfl)
      (List.Perm.of_eq (identities_of_guard (by rw [hguard]; rfl)))
  | @readyConfirmed request leaseId containerId port host _ _ hhost =>
    refine moved_step rfl ?_
    rw [List.perm_iff_count]
    intro x
    have hv := count_values_erase hhost x
    simp only [count_identities, hv, Table.values_insert, List.map_cons]
    rfl
  | @notReady request leaseId containerId port readyResult e _ _ _ =>
    refine moved_step rfl ?_
    cases hhost : s.state.leasedHosts.lookup leaseId with
    | none =>
      have he := Table.erase_of_notMem (Table.notMem_of_lookup hhost)
      simp only [identities, hosts, he, Option.toList_none, List.nil_append]
      exact List.Perm.refl _
    | some host =>
      rw [List.perm_iff_count]
      intro x
      have hv := count_values_erase hhost x
      simp only [count_identities, hv, Option.toList_some, List.singleton_append, List.map_cons,
        List.count_cons]
      omega
  | @cancelSpawn request spawn hguard =>
    exact abandoned_step hguard rfl (identities_of_guard (by rw [hguard]; rfl)) (lost_ids _)
  | @portAllocated caller port hguard hport =>
    have hold : s.resources.spawning = none := spawning_of_guard hguard
    have hstep := Resources.Step.allocated hold hport
    simpa only [resources, identities, hosts, hguard, Option.bind_some, Guard.resources,
      Option.elim_some, Guard.hosts] using hstep
  | @portsExhausted caller e hguard hport =>
    have hstep : s.portManager.step .allocatePort = some s.portManager.allocatePort.2 := rfl
    refine portManager_step hstep (allocatePort_error_live hport) ?_ (identities_of_guard ?_)
    · rw [hguard]
      exact caller.next_resources
    · rw [hguard]
      exact caller.next_hosts
  | @created caller port containerId hguard _ hfresh =>
    have hold : s.resources.spawning = some (port, none) := spawning_of_guard hguard
    have hstep := Resources.Step.created hold hfresh
    simpa only [resources, identities, hosts, hguard, Option.bind_some, Guard.resources,
      Option.elim_some, Guard.hosts, Docker.ids_create] using hstep
  | @createFailed caller port e hguard =>
    have hids := Docker.ids_congr (s.docker.containers_createFailed port.port e)
    refine abandoned_step hguard caller.next_resources (identities_of_guard ?_)
      (hids ▸ List.Subset.refl _)
    rw [hguard]
    exact caller.next_hosts
  | @createdUnanswered caller port containerId e hguard =>
    refine abandoned_step hguard caller.next_resources (identities_of_guard ?_)
      (List.subset_cons_self _ _)
    rw [hguard]
    exact caller.next_hosts
  | started hguard =>
    refine moved_step (by rw [hguard]; rfl)
      (List.Perm.of_eq (identities_of_guard (by rw [hguard]; rfl))) rfl ?_
    exact Docker.ids_update _ _ _
  | @startFailed caller port containerId e hguard =>
    refine abandoned_step hguard caller.next_resources (identities_of_guard ?_)
      (List.Subset.refl _)
    rw [hguard]
    exact caller.next_hosts
  | @startedUnanswered caller port containerId e hguard =>
    refine abandoned_step hguard caller.next_resources (identities_of_guard ?_)
      (Docker.ids_update _ _ _ ▸ List.Subset.refl _)
    rw [hguard]
    exact caller.next_hosts
  | @hostLeased request port containerId leaseId result hguard hfresh =>
    have hold : s.resources.spawning = some (port, some containerId) := spawning_of_guard hguard
    refine hosted_step hold rfl ?_
    rw [List.perm_iff_count]
    intro x
    have hv := count_values_insert (fun hm => hfresh (hk _ hm))
      (HostInstance.new containerId port s.clock) x
    have hnew : (HostInstance.new containerId port s.clock).identity = (containerId, port) := rfl
    simp only [count_identities, hguard, hv, hnew, List.count_cons, Option.elim_some,
      Option.elim_none, Guard.hosts]
    omega
  | @hostAdded n port containerId leaseId result hguard hpoll =>
    have hold : s.resources.spawning = some (port, some containerId) := spawning_of_guard hguard
    refine hosted_step hold (Spawner.next_resources _) ?_
    rw [List.perm_iff_count]
    intro x
    have hnew : (HostInstance.new containerId port s.clock).identity = (containerId, port) := rfl
    simp only [count_identities, hguard, hnew, Spawner.next_hosts, List.count_cons,
      Option.elim_some, Guard.hosts, List.map_append, List.count_append, List.map_cons,
      List.map_nil, List.count_nil]
    omega
  | @hostDropped host hhost =>
    refine dropHost_step rfl ?_
    rw [List.perm_iff_count]
    intro x
    have hd := ((List.perm_cons_erase hhost).map HostInstance.identity).count_eq x
    simp only [count_identities, hd, dropHost, List.map_cons, List.count_cons]
    omega
  | @portDropped port hport =>
    have hrest : s.resources.droppingPorts = port ::ₘ (s.droppingPorts.erase port : Multiset _) :=
      Multiset.coe_eq_coe.mpr (List.perm_cons_erase hport)
    exact .portDropped hrest
  | @returnExpired leaseId host _ _ _ hhost _ =>
    refine moved_step rfl ?_
    rw [List.perm_iff_count]
    intro x
    have hv := count_values_erase hhost x
    simp only [count_identities, hv, List.map_cons, List.count_cons]
    omega
  | @returnChecking leaseId host _ _ hguard hhost _ =>
    refine moved_step (by rw [hguard]; rfl) ?_
    rw [List.perm_iff_count]
    intro x
    have hv := count_values_erase hhost x
    simp only [count_identities, hv, hguard, List.count_cons, Option.elim_some, Option.elim_none,
      Guard.hosts, List.map_cons, List.map_nil, List.count_nil]
    omega
  | @hostReturned leaseId host hguard _ =>
    refine moved_step (by rw [hguard]; rfl) ?_
    rw [List.perm_iff_count]
    intro x
    simp only [count_identities, hguard, List.map_append, List.count_append, List.count_cons,
      Option.elim_some, Option.elim_none, Guard.hosts, List.map_cons, List.map_nil, List.count_nil]
    omega
  | @hostGone leaseId host e hguard _ =>
    refine dropHost_step (by rw [hguard]; rfl) ?_
    rw [List.perm_iff_count]
    intro x
    simp only [count_identities, hguard, dropHost, List.count_cons, Option.elim_some,
      Option.elim_none, Guard.hosts, List.map_cons, List.map_nil, List.count_nil]
    omega
  | reapLocked _ hguard =>
    refine moved_step (by rw [hguard]; rfl) ?_
    rw [List.perm_iff_count]
    intro x
    simp only [count_identities, hguard, Option.elim_some, Option.elim_none, Guard.hosts,
      List.map_append, List.count_append, List.map_nil, List.count_nil]
    omega
  | reapExpired hguard _
  | reapKept hguard _ =>
    refine moved_step (by rw [hguard]; rfl) ?_
    rw [List.perm_iff_count]
    intro x
    simp only [count_identities, hguard, Option.elim_some, Guard.hosts, List.map_append,
      List.count_append, List.map_cons, List.map_nil, List.count_cons, List.count_nil]
    omega
  | @reapUnlocked expired stillValid hguard =>
    have hempty := hw.reaping _ _ _ hguard
    refine moved_step (by rw [hguard]; rfl) ?_
    rw [List.perm_iff_count]
    intro x
    simp only [count_identities, hguard, hempty, Option.elim_some, Option.elim_none, Guard.hosts,
      List.map_append, List.count_append, List.map_nil, List.count_nil]
    omega
  | scalingSpawning _ hguard =>
    exact moved_step (by rw [hguard]; rfl)
      (List.Perm.of_eq (identities_of_guard (by rw [hguard]; rfl)))
  | portReceived hrecv =>
    exact portManager_step (b := .recvPort) hrecv (recvPort_live hrecv) rfl rfl
  | portReinserted hport =>
    exact portManager_step (b := .reinsert) hport (reinsert_live hport) rfl rfl
  | shutdownStarted hstage
  | drainedEmpty hstage
  | drainTimeout hstage
  | workersAborted hstage =>
    exact moved_step rfl (List.Perm.of_eq (identities_of_guard rfl rfl rfl (by rw [hstage]; rfl)))
  | @returnsTornDownHolding leaseId host _ _ hguard =>
    refine dropHost_step (by rw [hguard]; rfl) ?_
    rw [List.perm_iff_count]
    intro x
    simp only [count_identities, hguard, dropHost, List.count_cons, Option.elim_some,
      Option.elim_none, Guard.hosts, List.map_cons, List.map_nil, List.count_nil]
    omega
  | scalingTornDownHolding _ _ hguard =>
    exact abandoned_step hguard rfl (identities_of_guard (by rw [hguard]; rfl)) (lost_ids _)
  | cleanupStopped => exact moved_step rfl (List.Perm.refl _) rfl (Docker.ids_update _ _ _)
  | @collected sawEmpty hstage _ =>
    refine moved_step rfl ?_
    rw [List.perm_iff_count]
    intro x
    simp only [count_identities, hstage, ShutdownStage.hosts, Table.values_empty, List.map_append,
      List.count_append, List.map_nil, List.count_nil]
    omega
  | @collectedDropped sawEmpty host rest hstage =>
    refine dropHost_step rfl ?_
    rw [List.perm_iff_count]
    intro x
    simp only [count_identities, hstage, ShutdownStage.hosts, dropHost, List.map_cons,
      List.count_cons]
    omega
  | containersListed hstage
  | listingFailed hstage =>
    exact moved_step rfl (List.Perm.of_eq (identities_of_guard rfl rfl rfl (by rw [hstage]; rfl)))
  | forceStopped hstage =>
    exact moved_step rfl (List.Perm.of_eq (identities_of_guard rfl rfl rfl (by rw [hstage]; rfl)))
      rfl (Docker.ids_update _ _ _)
  | forceInspected hstage
  | forceSkipped hstage
  | forceStopFailed hstage
  | shutdownComplete hstage =>
    exact moved_step rfl (List.Perm.of_eq (identities_of_guard rfl rfl rfl (by rw [hstage]; rfl)))
  | daemonActed hact => exact .appeared (Docker.ids_of_act hact)
  | _ => exact .idle

theorem sound_new : (new cfg).resources.Sound cfg.portRange :=
  ⟨PortManager.conserved_new _, rfl, rfl, List.nodup_nil, nofun⟩

theorem sound_run {tr : List (HostPoolManager × Action)} (h : Run (system cfg) tr s) :
    s.resources.Sound cfg.portRange :=
  h.invariant (I := fun s => s.resources.Sound cfg.portRange) sound_new fun hr hi hs =>
    Resources.sound_step hi ((effect_of_step hs).resources_step (wellFormed_run hr))

theorem portManager_run {tr : List (HostPoolManager × Action)} (h : Run (system cfg) tr s) :
    ∃ tr', Run (PortManager.system cfg.portRange) tr' s.portManager := by
  refine h.map portManager rfl fun hr hs => ?_
  exact Resources.ports_step (sound_run hr) ((effect_of_step hs).resources_step (wellFormed_run hr))

theorem spawned_perm {portRange : PortRange} (h : s.resources.Sound portRange) :
    s.spawned.Perm (s.hosts.map HostInstance.containerId ++ (s.sent ++ s.unsent)) := by
  have hl := h.ledger
  have hids : s.resources.hostIds = (s.hosts.map HostInstance.containerId : List ContainerId) := by
    simp only [Resources.hostIds, resources, identities, Multiset.map_coe, List.map_map]
    rfl
  rw [hids, Multiset.coe_add, Multiset.coe_add, Multiset.coe_eq_coe, List.append_assoc] at hl
  exact hl

theorem containers_nodup {portRange : PortRange} (h : s.resources.Sound portRange) :
    (s.resources.spawningIds ++
      (s.hosts.map HostInstance.containerId ++ (s.sent ++ s.unsent))).Nodup :=
  ((spawned_perm h).append_left _).nodup_iff.mp h.distinct

theorem ports_nodup {portRange : PortRange} (h : s.resources.Sound portRange) :
    (s.hosts.map fun host => host.allocatedPort.port).Nodup := by
  have hports : s.resources.hostPorts =
      (s.hosts.map HostInstance.allocatedPort : List AllocatedPort) := by
    simp only [Resources.hostPorts, resources, identities, Multiset.map_coe, List.map_map]
    rfl
  have hnodup := (Multiset.nodup_add.mp (Resources.owned_ports_nodup h)).2.1
  rw [hports] at hnodup
  have hnodup := Multiset.coe_nodup.mp hnodup
  have hinj : Function.Injective AllocatedPort.port := by
    intro p q he
    cases p
    exact congrArg AllocatedPort.mk he
  simpa only [List.map_map, Function.comp_def] using hnodup.map hinj

end HostPoolManager

end DockerizedLambda
