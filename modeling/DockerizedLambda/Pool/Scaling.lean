import DockerizedLambda.Pool.Capacity
import DockerizedLambda.Pool.Spawn

/-! One run of `run_scaling_policy`. Its loop keeps the lock, so nobody else adds or takes a
host meanwhile; and as long as no port is on its way, every port is available or owned by a
host in the pool, so that the hosts there can be are counted by the ports. -/

namespace DockerizedLambda

open Transition

namespace HostPoolManager

def totalHostCount (s : HostPoolManager) : Nat :=
  Table.size s.state.leasedHosts + s.state.availableHosts.length

def remaining (s : HostPoolManager) : Nat := s.guard.elim 0 Guard.reserved

def Scales (s : HostPoolManager) : Prop :=
  ∃ n spawn, s.guard = some (.spawning (.runScalingPolicy n) spawn)

def Action.DockerFails : Action → Prop
  | .createContainer (.error _) | .createUnanswered _ _ => True
  | .startContainer (.error _) | .startUnanswered _ => True
  | _ => False

structure AllPlaced (s : HostPoolManager) : Prop where
  transit : s.portManager.inTransit = []
  dropping : s.dropping = []
  droppingPorts : s.droppingPorts = []
  collected : s.shutdown.hosts = []

variable {cfg : PoolConfig} {s s' : HostPoolManager} {a : Action}

theorem remaining_spawning {n : Nat} {spawn : Spawn}
    (hg : s.guard = some (.spawning (.runScalingPolicy n) spawn)) : s.remaining = n + 1 := by
  rw [remaining, hg]
  rfl

theorem spawnResult_of_other {caller : Spawner} {spawn : Spawn}
    (hown : (Guard.spawning caller spawn).ownStep a = false) : spawnResult s a = none := by
  cases a <;> first | rfl | cases hown

structure ScalingStep (s : HostPoolManager) (n : Nat) (a : Action) (s' : HostPoolManager) :
    Prop where
  leased : s'.state.leasedHosts = s.state.leasedHosts
  available : s'.state.availableHosts =
    s.state.availableHosts ++ (spawnResult s a).toList.filterMap Except.toOption
  remaining_le : (spawnResult s a).toList.length + s'.remaining ≤ n + 1
  remaining_eq : a ≠ .workerAborted .runScalingPolicy →
    (spawnResult s a).toList.length + s'.remaining = n + 1

theorem ScalingStep.unended {n : Nat} (hresult : spawnResult s a = none)
    (hstate : s'.state = s.state) (hle : s'.remaining ≤ n + 1)
    (heq : a ≠ .workerAborted .runScalingPolicy → s'.remaining = n + 1) :
    ScalingStep s n a s' := by
  refine ⟨?_, ?_, ?_, ?_⟩
  · rw [hstate]
  · rw [hstate, hresult]
    exact (List.append_nil _).symm
  · rw [hresult]
    exact (Nat.zero_add _).trans_le hle
  · rw [hresult]
    exact fun hne => (Nat.zero_add _).trans (heq hne)

theorem ScalingStep.ended {n : Nat} {result : Except PoolError HostInstance}
    (hresult : spawnResult s a = some result)
    (hleased : s'.state.leasedHosts = s.state.leasedHosts)
    (havailable : s'.state.availableHosts = s.state.availableHosts ++ result.toOption.toList)
    (hguard : s'.guard = (Spawner.runScalingPolicy n).next) : ScalingStep s n a s' := by
  have hremaining : 1 + s'.remaining = n + 1 := by
    rw [remaining, hguard, Nat.add_comm]
    exact (Spawner.runScalingPolicy n).next_reserved
  refine ⟨hleased, ?_, ?_, ?_⟩
  · rw [havailable, hresult]
    cases result <;> rfl
  · rw [hresult]
    exact hremaining.le
  · rw [hresult]
    exact fun _ => hremaining

theorem Effect.scaling_step (he : Effect cfg s a s') {n : Nat} {spawn : Spawn}
    (hg : s.guard = some (.spawning (.runScalingPolicy n) spawn)) : ScalingStep s n a s' := by
  have hcaller : ∀ {caller : Spawner} {spawn' : Spawn},
      s.guard = some (.spawning caller spawn') → caller = .runScalingPolicy n := fun hguard =>
    (Guard.spawning.inj (Option.some.inj (hguard.symm.trans hg))).1
  cases hown : (Guard.spawning (.runScalingPolicy n) spawn).ownStep a with
  | false =>
    obtain ⟨hguard, hstate⟩ := he.locked hg hown
    have hremaining : s'.remaining = n + 1 := remaining_spawning (hguard.trans hg)
    exact .unended (spawnResult_of_other hown) hstate hremaining.le fun _ => hremaining
  | true =>
    cases he with
    | portAllocated hguard hport =>
      obtain rfl := hcaller hguard
      exact .unended (by rw [spawnResult, hguard, hport]) rfl le_rfl fun _ => rfl
    | created hguard
    | started hguard =>
      obtain rfl := hcaller hguard
      exact .unended rfl rfl le_rfl fun _ => rfl
    | portsExhausted hguard hport =>
      obtain rfl := hcaller hguard
      refine .ended (by rw [spawnResult, hguard, hport]) rfl ?_ rfl
      exact (List.append_nil _).symm
    | createFailed hguard
    | createdUnanswered hguard
    | startFailed hguard
    | startedUnanswered hguard =>
      obtain rfl := hcaller hguard
      refine .ended (by rw [spawnResult, hguard]) rfl ?_ rfl
      exact (List.append_nil _).symm
    | hostAdded hguard =>
      obtain rfl := Spawner.runScalingPolicy.inj (hcaller hguard)
      exact .ended (by rw [spawnResult, hguard]) rfl rfl rfl
    | cancelSpawn hguard
    | hostLeased hguard => cases hcaller hguard
    | scalingTornDown _ _ hguard => exact absurd hg (hguard _ _)
    | scalingTornDownHolding =>
      exact .unended rfl rfl (Nat.zero_le _) fun hne => absurd rfl hne
    | _ => cases hown

structure ScalingLoop (cfg : PoolConfig) (before : HostPoolManager)
    (results : List (Except PoolError HostInstance)) (s : HostPoolManager) : Prop where
  leased : s.state.leasedHosts = before.state.leasedHosts
  available : s.state.availableHosts =
    before.state.availableHosts ++ results.filterMap Except.toOption
  balance : before.totalHostCount + (results.length + s.remaining) ≤
    max before.totalHostCount cfg.minInstances

theorem ScalingLoop.total {before : HostPoolManager}
    {results : List (Except PoolError HostInstance)} (h : ScalingLoop cfg before results s) :
    s.totalHostCount =
      before.totalHostCount + (results.filterMap Except.toOption).length := by
  simp only [totalHostCount, h.leased, h.available, List.length_append]
  omega

theorem lockScaling_loop {before s₁ : HostPoolManager}
    (hlock : step cfg before .lockScaling = some s₁) : ScalingLoop cfg before [] s₁ ∧
      before.totalHostCount + s₁.remaining = max before.totalHostCount cfg.minInstances ∧
      s₁.portManager = before.portManager ∧ before.guard = none := by
  cases effect_of_step hlock with
  | @scalingSpawning n _ hguard hneeded =>
    have hbalance : before.totalHostCount + (n + 1) =
        max before.totalHostCount cfg.minInstances := by
      unfold totalHostCount
      omega
    refine ⟨⟨rfl, (List.append_nil _).symm, ?_⟩, hbalance, rfl, hguard⟩
    exact (congrArg _ (Nat.zero_add _)).trans_le hbalance.le
  | scalingIdle _ hguard henough =>
    have hremaining : before.remaining = 0 := by
      rw [remaining, hguard]
      rfl
    have hbalance : before.totalHostCount + before.remaining =
        max before.totalHostCount cfg.minInstances := by
      rw [hremaining]
      unfold totalHostCount
      omega
    refine ⟨⟨rfl, (List.append_nil _).symm, ?_⟩, hbalance, rfl, hguard⟩
    exact (congrArg _ (Nat.zero_add _)).trans_le hbalance.le

theorem ScalingLoop.step {before : HostPoolManager}
    {results : List (Except PoolError HostInstance)} (h : ScalingLoop cfg before results s)
    (he : Effect cfg s a s') (hscales : s.Scales) :
    ScalingLoop cfg before (results ++ (spawnResult s a).toList) s' := by
  obtain ⟨n, spawn, hg⟩ := hscales
  have hstep := he.scaling_step hg
  have hremaining : s.remaining = n + 1 := remaining_spawning hg
  have hbalance := h.balance
  have hle := hstep.remaining_le
  refine ⟨hstep.leased.trans h.leased, ?_, ?_⟩
  · rw [hstep.available, h.available, List.filterMap_append, List.append_assoc]
  · rw [List.length_append]
    omega

section Run

variable {earlier during : List (HostPoolManager × Action)} {before : HostPoolManager}

theorem scaling_loop_run (h : Run (system cfg) (during ++ (before, .lockScaling) :: earlier) s)
    (hscales : ∀ p ∈ during, p.1.Scales) :
    ScalingLoop cfg before (outputs spawnResult during) s := by
  obtain ⟨_, s₁, hlock, hrun⟩ := h.split
  clear h
  induction hrun with
  | start => exact (lockScaling_loop hlock).1
  | next _ hs ih =>
    have hi := ih fun p hp => hscales p (List.mem_cons_of_mem _ hp)
    exact hi.step (effect_of_step hs) (hscales _ List.mem_cons_self)

theorem scaling_balance_run (h : Run (system cfg) (during ++ (before, .lockScaling) :: earlier) s)
    (hscales : ∀ p ∈ during, p.1.Scales)
    (hkept : ∀ p ∈ during, p.2 ≠ .workerAborted .runScalingPolicy) :
    before.totalHostCount + ((outputs spawnResult during).length + s.remaining) =
      max before.totalHostCount cfg.minInstances := by
  obtain ⟨_, s₁, hlock, hrun⟩ := h.split
  clear h
  induction hrun with
  | start => exact (congrArg _ (Nat.zero_add _)).trans (lockScaling_loop hlock).2.1
  | @next during u s a hr hs ih =>
    have hi := ih (fun p hp => hscales p (List.mem_cons_of_mem _ hp))
      fun p hp => hkept p (List.mem_cons_of_mem _ hp)
    obtain ⟨n, spawn, hg⟩ := hscales _ List.mem_cons_self
    have he : Effect cfg u a s := effect_of_step hs
    have hstep := (he.scaling_step hg).remaining_eq (hkept _ List.mem_cons_self)
    have hremaining : u.remaining = n + 1 := remaining_spawning hg
    rw [outputs, List.length_append]
    omega

structure FreshSince (before : HostPoolManager)
    (results : List (Except PoolError HostInstance)) (s : HostPoolManager) : Prop where
  grown : ∀ c ∈ before.docker.ids, c ∈ s.docker.ids
  spawning : ∀ c, s.guard.bind Guard.container = some c → c ∉ before.docker.ids
  hosts : ∀ host ∈ results.filterMap Except.toOption,
    host.healthCheckTested = false ∧ host.containerId ∉ before.docker.ids

theorem FreshSince.step {results : List (Except PoolError HostInstance)}
    (h : FreshSince before results s) (he : Effect cfg s a s') :
    FreshSince before (results ++ (spawnResult s a).toList) s' := by
  refine ⟨fun c hc => he.ids_mono (h.grown c hc), fun c hc => ?_, fun host hh => ?_⟩
  · rcases he.spawning_container hc with hold | hnew
    · exact h.spawning c hold
    · exact fun hbefore => hnew (h.grown c hbefore)
  · rw [List.filterMap_append] at hh
    rcases List.mem_append.mp hh with hh | hh
    · exact h.hosts host hh
    · obtain ⟨result, hr, hok⟩ := List.mem_filterMap.mp hh
      cases result with
      | error e => cases hok
      | ok created =>
        obtain rfl := Option.some.inj hok
        obtain ⟨caller, port, hg, hnew⟩ := spawnResult_eq_ok (Option.mem_toList.mp hr)
        refine ⟨hnew ▸ rfl, h.spawning _ ?_⟩
        rw [hg]
        rfl

theorem fresh_run (h : Run (system cfg) (during ++ (before, .lockScaling) :: earlier) s) :
    FreshSince before (outputs spawnResult during) s := by
  obtain ⟨_, s₁, hlock, hrun⟩ := h.split
  clear h
  induction hrun with
  | start =>
    have he : Effect cfg before .lockScaling s₁ := effect_of_step hlock
    cases he with
    | scalingSpawning => exact ⟨fun _ => id, nofun, fun _ hh => absurd hh List.not_mem_nil⟩
    | scalingIdle _ hguard =>
      refine ⟨fun _ => id, fun c hc => ?_, fun _ hh => absurd hh List.not_mem_nil⟩
      have hnone : before.guard.bind Guard.container = none := by rw [hguard]; rfl
      exact absurd (hnone.symm.trans hc) nofun
  | next _ hs ih => exact ih.step (effect_of_step hs)

end Run

theorem ports_counted {tr : List (HostPoolManager × Action)} (h : Run (system cfg) tr s)
    (hsize : cfg.portRange.ports.length ≤ portReleaseChannelCapacity) (hplaced : s.AllPlaced)
    (hguard : s.guard = none ∨ s.Scales) :
    s.portManager.availablePorts.queue.length + s.resources.spawningPorts.card +
      s.totalHostCount = cfg.portRange.ports.length := by
  obtain ⟨_, hports⟩ := portManager_run h
  have hleaked := PortManager.leaked_run hsize hports
  have hplaces := (sound_run h).conserved.places.length_eq
  have howners := congrArg Multiset.card (sound_run h).owners
  have hhosts : s.guard.elim [] Guard.hosts = [] := by
    rcases hguard with hg | ⟨n, spawn, hg⟩ <;> rw [hg] <;> rfl
  have htotal : s.resources.hostPorts.card = s.totalHostCount := by
    simp only [Resources.hostPorts, resources, identities, hosts, hhosts, hplaced.dropping,
      hplaced.collected, totalHostCount, Table.values, Table.size, List.append_nil,
      Multiset.map_coe, Multiset.coe_card, List.length_map, List.length_append]
    exact Nat.add_comm _ _
  have hdropping : s.resources.droppingPorts = 0 := by
    simp only [resources, hplaced.droppingPorts, Multiset.coe_nil]
  rw [hdropping, add_zero, Multiset.card_add, htotal, Multiset.coe_card] at howners
  change s.portManager.live.length = _ at howners
  change cfg.portRange.ports.length =
    (s.portManager.availablePorts.queue ++ (s.portManager.livePorts ++
      (s.portManager.inTransit ++ s.portManager.leaked))).length at hplaces
  rw [hplaced.transit, hleaked] at hplaces
  simp only [PortManager.livePorts, List.append_nil, List.length_append, List.length_map]
    at hplaces
  omega

theorem allocatePort_inTransit (m : PortManager) : m.allocatePort.2.inTransit = m.inTransit := by
  unfold PortManager.allocatePort
  split <;> rfl

theorem Effect.allPlaced (he : Effect cfg s a s') (h : s.AllPlaced) (hscales : s.Scales)
    (hdocker : ¬ a.DockerFails) (hkept : a ≠ .workerAborted .runScalingPolicy) :
    s'.AllPlaced := by
  -- under the policy's lock nothing leaves its place, as long as no spawn fails
  obtain ⟨n, spawn, hg⟩ := hscales
  obtain ⟨htransit, hdropping, hports, hcollected⟩ := h
  obtain ⟨hreturning, hmessages⟩ := List.append_eq_nil_iff.mp htransit
  cases he with
  | portAllocated
  | portsExhausted =>
    exact ⟨(allocatePort_inTransit _).trans htransit, hdropping, hports, hcollected⟩
  | createFailed
  | createdUnanswered
  | startFailed
  | startedUnanswered => exact absurd trivial hdocker
  | notReady _ hguard
  | returnExpired _ _ hguard
  | reapUnlocked hguard
  | hostGone hguard
  | returnsTornDownHolding _ _ hguard
  | cancelSpawn hguard
  | collected _ hguard => exact absurd (hguard.symm.trans hg) nofun
  | scalingTornDownHolding => exact absurd rfl hkept
  | hostDropped hhost => exact absurd (hdropping ▸ hhost) List.not_mem_nil
  | portDropped hport => exact absurd (hports ▸ hport) List.not_mem_nil
  | portReceived hrecv =>
    obtain ⟨_, _, _, hmessage, _⟩ := PortManager.recvPort_cases hrecv
    have hsome := (Channel.recv_eq_some hmessage).1
    exact absurd (hmessages.symm.trans hsome) nofun
  | portReinserted hport =>
    unfold PortManager.reinsert at hport
    split at hport
    next port hsome => rw [hsome] at hreturning; cases hreturning
    next => cases hport
  | collectedDropped hstage =>
    rw [hstage] at hcollected
    cases hcollected
  | _ =>
    first
    | exact ⟨htransit, hdropping, hports, hcollected⟩
    | exact ⟨htransit, hdropping, hports, rfl⟩

theorem Effect.exhausted (he : Effect cfg s a s') {caller : Spawner} {spawn : Spawn}
    {error : PoolError} (hg : s.guard = some (.spawning caller spawn))
    (hfail : spawnResult s a = some (.error error)) (hdocker : ¬ a.DockerFails) :
    spawn = .allocate ∧ s.portManager.availablePorts.queue = [] := by
  -- with Docker at work, an attempt fails for want of a port only
  cases he with
  | portsExhausted hguard hport =>
    obtain ⟨rfl, rfl⟩ := Guard.spawning.inj (Option.some.inj (hguard.symm.trans hg))
    exact ⟨rfl, PortManager.allocatePort_error hport⟩
  | createFailed
  | createdUnanswered
  | startFailed
  | startedUnanswered => exact absurd trivial hdocker
  | portAllocated hguard hport => simp [spawnResult, hguard, hport] at hfail
  | hostLeased hguard
  | hostAdded hguard => simp [spawnResult, hguard] at hfail
  | _ => cases hfail

def Filling (cfg : PoolConfig) (before s : HostPoolManager) : Prop :=
  s.totalHostCount + s.remaining = max before.totalHostCount cfg.minInstances ∨
    s.totalHostCount = cfg.portRange.ports.length

theorem Filling.step {tr : List (HostPoolManager × Action)} {before : HostPoolManager}
    (h : Filling cfg before s) (hr : Run (system cfg) tr s) (he : Effect cfg s a s')
    (hsize : cfg.portRange.ports.length ≤ portReleaseChannelCapacity) (hplaced : s.AllPlaced)
    (hscales : s.Scales) (hdocker : ¬ a.DockerFails)
    (hkept : a ≠ .workerAborted .runScalingPolicy) : Filling cfg before s' := by
  have hcount := ports_counted hr hsize hplaced (.inr hscales)
  obtain ⟨n, spawn, hg⟩ := hscales
  have hstep := he.scaling_step hg
  have hremaining : s.remaining = n + 1 := remaining_spawning hg
  have hbalance := hstep.remaining_eq hkept
  have htotal : s'.totalHostCount = s.totalHostCount +
      ((spawnResult s a).toList.filterMap Except.toOption).length := by
    simp only [totalHostCount, hstep.leased, hstep.available, List.length_append]
    omega
  have hspawning : s.resources.spawningPorts.card = spawn.port.toList.length := by
    rw [Resources.spawningPorts, spawning_of_guard hg]
    cases spawn <;> rfl
  cases hresult : spawnResult s a with
  | none =>
    rw [hresult] at htotal hbalance
    simp only [Option.toList_none, List.filterMap_nil, List.length_nil] at htotal hbalance
    unfold Filling at h ⊢
    omega
  | some result =>
    rw [hresult] at htotal hbalance
    simp only [Option.toList_some, List.length_singleton] at htotal hbalance
    cases result with
    | ok host =>
      obtain ⟨_, port, hinspect, _⟩ := spawnResult_eq_ok hresult
      obtain ⟨_, rfl⟩ := Guard.spawning.inj (Option.some.inj (hg.symm.trans hinspect))
      have hone : s.resources.spawningPorts.card = 1 := hspawning
      have hadded : s'.totalHostCount = s.totalHostCount + 1 := htotal
      unfold Filling at h ⊢
      omega
    | error e =>
      obtain ⟨rfl, hempty⟩ := he.exhausted hg hresult hdocker
      have hzero : s.resources.spawningPorts.card = 0 := hspawning
      have hsame : s'.totalHostCount = s.totalHostCount := htotal
      rw [hempty, hzero, List.length_nil] at hcount
      exact .inr (by omega)

section Filling

variable {earlier during : List (HostPoolManager × Action)} {before : HostPoolManager}

theorem filling_run (h : Run (system cfg) (during ++ (before, .lockScaling) :: earlier) s)
    (hscales : ∀ p ∈ during, p.1.Scales) (hplaced : before.AllPlaced)
    (hdocker : ∀ p ∈ during, ¬ p.2.DockerFails)
    (hkept : ∀ p ∈ during, p.2 ≠ .workerAborted .runScalingPolicy)
    (hsize : cfg.portRange.ports.length ≤ portReleaseChannelCapacity) :
    s.AllPlaced ∧ Filling cfg before s := by
  obtain ⟨hbefore, s₁, hlock, hrun⟩ := h.split
  clear h
  induction hrun with
  | start =>
    obtain ⟨hloop, hbalance, hports, _⟩ := lockScaling_loop hlock
    have he : Effect cfg before .lockScaling s₁ := effect_of_step hlock
    have htotal : s₁.totalHostCount = before.totalHostCount := hloop.total
    refine ⟨?_, .inl (htotal ▸ hbalance)⟩
    cases he with
    | scalingSpawning => exact ⟨hplaced.transit, hplaced.dropping, hplaced.droppingPorts,
        hplaced.collected⟩
    | scalingIdle => exact hplaced
  | @next during u s a hr hs ih =>
    obtain ⟨hi, hfilling⟩ := ih (fun p hp => hscales p (List.mem_cons_of_mem _ hp))
      (fun p hp => hdocker p (List.mem_cons_of_mem _ hp))
      fun p hp => hkept p (List.mem_cons_of_mem _ hp)
    have hu := (hbefore.next hlock).append hr
    have he : Effect cfg u a s := effect_of_step hs
    have hscale := hscales _ List.mem_cons_self
    have hd := hdocker _ List.mem_cons_self
    have hk := hkept _ List.mem_cons_self
    exact ⟨he.allPlaced hi hscale hd hk, hfilling.step hu he hsize hi hscale hd hk⟩

end Filling

structure ScalingExact (cfg : PoolConfig) (before : HostPoolManager)
    (during : List (HostPoolManager × Action)) (s : HostPoolManager) : Prop where
  leased : s.state.leasedHosts = before.state.leasedHosts
  available : s.state.availableHosts =
    before.state.availableHosts ++ (outputs spawnResult during).filterMap Except.toOption
  fresh : ∀ host ∈ (outputs spawnResult during).filterMap Except.toOption,
    host.healthCheckTested = false ∧ host.containerId ∉ before.docker.ids
  distinct : (((outputs spawnResult during).filterMap Except.toOption).map
    HostInstance.containerId).Nodup
  bounded : s.totalHostCount ≤ max before.totalHostCount cfg.minInstances
  attempts : s.guard = none → (∀ p ∈ during, p.2 ≠ .workerAborted .runScalingPolicy) →
    before.totalHostCount + (outputs spawnResult during).length =
      max before.totalHostCount cfg.minInstances
  reached : cfg.portRange.ports.length ≤ portReleaseChannelCapacity → before.AllPlaced →
    (∀ p ∈ during, ¬ p.2.DockerFails) → s.guard = none →
    (∀ p ∈ during, p.2 ≠ .workerAborted .runScalingPolicy) →
      s.totalHostCount =
        max before.totalHostCount (min cfg.minInstances cfg.portRange.ports.length)

theorem scaling_exact {earlier during : List (HostPoolManager × Action)}
    {before : HostPoolManager}
    (h : Run (system cfg) (during ++ (before, .lockScaling) :: earlier) s)
    (hscales : ∀ p ∈ during, p.1.Scales) : ScalingExact cfg before during s := by
  have hloop := scaling_loop_run h hscales
  have hfresh := fresh_run h
  have htotal := hloop.total
  have hsuccesses := List.length_filterMap_le Except.toOption (outputs spawnResult during)
  refine ⟨hloop.leased, hloop.available, hfresh.hosts, ?_, ?_, fun hg hkept => ?_,
    fun hsize hplaced hdocker hg hkept => ?_⟩
  · have hnodup : (s.hosts.map HostInstance.containerId).Nodup :=
      (List.nodup_append.mp (containers_nodup (sound_run h))).2.1.of_append_left
    rw [hosts, List.map_append, hloop.available, List.map_append] at hnodup
    exact hnodup.of_append_left.of_append_right
  · have hbalance := hloop.balance
    omega
  · have hbalance := scaling_balance_run h hscales hkept
    rw [remaining, hg] at hbalance
    exact hbalance
  · obtain ⟨hplaced', hfilling⟩ := filling_run h hscales hplaced hdocker hkept hsize
    have hcount := ports_counted h hsize hplaced' (.inl hg)
    have hbalance := hloop.balance
    have hremaining : s.remaining = 0 := by
      rw [remaining, hg]
      rfl
    unfold Filling at hfilling
    omega

def scarcePorts : PoolConfig where
  maxInstances := 3
  minInstances := 3
  instanceTtl := 30 * nanosPerSecond
  binaryPath := "./functions"
  binaryName := "hello-lambda"
  portRange := ⟨8081, 8083⟩

theorem scaling_exact_on_two_ports :
    ∃ during s, Run (system scarcePorts) (during ++ [(new scarcePorts, .lockScaling)]) s ∧
      s.state.availableHosts.map HostInstance.containerId = ["c1", "c2"] ∧
      (outputs spawnResult during).length = 3 ∧
      ScalingExact scarcePorts (new scarcePorts) during s := by
  obtain ⟨tr, s, ht, hfirst, hidle, hlength, hguards⟩ : ∃ tr s,
      (system scarcePorts).trace [] (new scarcePorts)
        [.lockScaling, .allocatePort, .createContainer (.ok "c1"), .startContainer (.ok ()),
          .inspectContainer (.ok ()) 0, .allocatePort, .createContainer (.ok "c2"),
          .startContainer (.ok ()), .inspectContainer (.ok ()) 0, .allocatePort] = some (tr, s) ∧
      tr = tr.dropLast ++ [(new scarcePorts, .lockScaling)] ∧
      s.state.availableHosts.map HostInstance.containerId = ["c1", "c2"] ∧
      (outputs spawnResult tr.dropLast).length = 3 ∧
      tr.dropLast.map (fun p => p.1.guard) =
        [some (.spawning (.runScalingPolicy 0) .allocate),
          some (.spawning (.runScalingPolicy 1) (.inspect ⟨8082⟩ "c2")),
          some (.spawning (.runScalingPolicy 1) (.start ⟨8082⟩ "c2")),
          some (.spawning (.runScalingPolicy 1) (.create ⟨8082⟩)),
          some (.spawning (.runScalingPolicy 1) .allocate),
          some (.spawning (.runScalingPolicy 2) (.inspect ⟨8081⟩ "c1")),
          some (.spawning (.runScalingPolicy 2) (.start ⟨8081⟩ "c1")),
          some (.spawning (.runScalingPolicy 2) (.create ⟨8081⟩)),
          some (.spawning (.runScalingPolicy 2) .allocate)] := ⟨_, _, rfl, rfl, rfl, rfl, rfl⟩
  have hr := Run.start.trace ht
  rw [hfirst] at hr
  have hscales : ∀ p ∈ tr.dropLast, p.1.Scales := fun p hp => by
    have hg := List.mem_map_of_mem (f := fun p => p.1.guard) hp
    rw [hguards] at hg
    unfold Scales
    generalize p.1.guard = guard at hg
    revert guard
    simp
  exact ⟨tr.dropLast, s, hr, hidle, hlength, scaling_exact hr hscales⟩

end HostPoolManager

end DockerizedLambda
