import DockerizedLambda.Pool.Hosts

/-! The capacity bound. `lease_host` compares the leased hosts alone with `max_instances`,
and `run_scaling_policy` all hosts with `min_instances`; both check while no other host is
about to be added, because the lock is held until the host they spawn is. -/

namespace DockerizedLambda

open Transition

def Spawner.needed : Spawner → Nat
  | .leaseHost _ => 1
  | .runScalingPolicy n => n + 1

def Guard.reserved : Guard → Nat
  | .spawning caller _ => caller.needed
  | .returnHostInternal _ _ => 1
  | .reapExpiredHosts rest expired stillValid =>
    rest.length + (expired.length + stillValid.length)

def Guard.spawning? : Guard → Bool
  | .spawning _ _ => true
  | _ => false

theorem Spawner.next_reserved (caller : Spawner) :
    caller.next.elim 0 Guard.reserved + 1 = caller.needed := by
  cases caller with
  | leaseHost => rfl
  | runScalingPolicy n => cases n <;> rfl

theorem Spawner.next_reserved_le (caller : Spawner) :
    caller.next.elim 0 Guard.reserved ≤ caller.needed :=
  Nat.le_of_succ_le caller.next_reserved.le

theorem Spawner.needed_pos (caller : Spawner) : 0 < caller.needed :=
  caller.next_reserved ▸ Nat.succ_pos _

namespace HostPoolManager

def load (s : HostPoolManager) : Nat :=
  s.state.availableHosts.length +
    (Table.size s.state.leasedHosts + s.guard.elim 0 Guard.reserved)

def spawningCount (s : HostPoolManager) : Nat :=
  s.guard.elim 0 fun g => if g.spawning? then 1 else 0

variable {cfg : PoolConfig} {s s' : HostPoolManager} {a : Action}

theorem load_le_of (havail : s'.state.availableHosts = s.state.availableHosts)
    (hleased : s'.state.leasedHosts = s.state.leasedHosts)
    (hguard : s'.guard.elim 0 Guard.reserved ≤ s.guard.elim 0 Guard.reserved) :
    s'.load ≤ s.load := by
  unfold load
  rw [havail, hleased]
  exact Nat.add_le_add_left (Nat.add_le_add_left hguard _) _

theorem Effect.load_le (he : Effect cfg s a s') :
    s'.load ≤ s.load ∨ s'.load ≤ cfg.maxInstances ∨ s'.load ≤ cfg.minInstances := by
  cases he with
  | @leaseTested request leaseId host rest _ hguard _ havail _
  | @leaseUntested request leaseId host rest _ hguard _ havail _ =>
    have hsize := Table.size_insert_le s.state.leasedHosts leaseId host
    simp only [load, hguard, havail, List.length_cons, Option.elim_none]
    omega
  | leaseSpawning _ _ havail hroom =>
    -- no host is idle here, so the test of the leased ones is a test of them all
    simp only [load, havail, List.length_nil, Option.elim_some, Guard.reserved, Spawner.needed]
    omega
  | @readyConfirmed request leaseId containerId port host _ _ hhost =>
    have hsize := Table.size_erase hhost
    simp only [load, Table.size_insert]
    omega
  | @notReady request leaseId =>
    have hsize := Table.size_erase_le s.state.leasedHosts leaseId
    simp only [load]
    omega
  | cancelSpawn hguard => exact .inl (load_le_of rfl rfl (Nat.zero_le _))
  | portAllocated hguard => exact .inl (load_le_of rfl rfl (by rw [hguard]; rfl))
  | portsExhausted hguard =>
    refine .inl (load_le_of rfl rfl ?_)
    rw [hguard]
    exact Spawner.next_reserved_le _
  | created hguard => exact .inl (load_le_of rfl rfl (by rw [hguard]; rfl))
  | createFailed hguard
  | createdUnanswered hguard =>
    refine .inl (load_le_of rfl rfl ?_)
    rw [hguard]
    exact Spawner.next_reserved_le _
  | started hguard => exact .inl (load_le_of rfl rfl (by rw [hguard]; rfl))
  | startFailed hguard
  | startedUnanswered hguard =>
    refine .inl (load_le_of rfl rfl ?_)
    rw [hguard]
    exact Spawner.next_reserved_le _
  | @hostLeased request port containerId leaseId _ hguard _ =>
    have hsize := Table.size_insert_le s.state.leasedHosts leaseId (.new containerId port s.clock)
    simp only [load, hguard, Option.elim_some, Option.elim_none, Guard.reserved, Spawner.needed]
    omega
  | @hostAdded n port containerId leaseId _ hguard _ =>
    have hnext := (Spawner.runScalingPolicy n).next_reserved
    simp only [load, hguard, Option.elim_some, Guard.reserved, ← hnext, List.length_append,
      List.length_singleton]
    omega
  | @returnExpired leaseId =>
    have hsize := Table.size_erase_le s.state.leasedHosts leaseId
    simp only [load]
    omega
  | @returnChecking leaseId host _ _ hguard hhost =>
    have hsize := Table.size_erase hhost
    simp only [load, hguard, Option.elim_some, Option.elim_none, Guard.reserved]
    omega
  | hostReturned hguard =>
    simp only [load, hguard, Option.elim_some, Option.elim_none, Guard.reserved,
      List.length_append, List.length_singleton]
    omega
  | hostGone hguard => exact .inl (load_le_of rfl rfl (Nat.zero_le _))
  | reapLocked _ hguard =>
    simp only [load, hguard, Option.elim_some, Option.elim_none, Guard.reserved, List.length_nil]
    omega
  | reapExpired hguard
  | reapKept hguard =>
    simp only [load, hguard, Option.elim_some, Guard.reserved, List.length_append,
      List.length_cons, List.length_nil]
    omega
  | reapUnlocked hguard =>
    simp only [load, hguard, Option.elim_some, Option.elim_none, Guard.reserved, List.length_nil]
    omega
  | scalingSpawning _ _ hneeded =>
    simp only [load, Option.elim_some, Guard.reserved, Spawner.needed]
    omega
  | returnsTornDownHolding _ _ hguard
  | scalingTornDownHolding _ _ hguard => exact .inl (load_le_of rfl rfl (Nat.zero_le _))
  | collected =>
    simp only [load, List.length_nil, Table.size_empty]
    omega
  | _ => exact .inl le_rfl

theorem load_run {tr : List (HostPoolManager × Action)} (h : Run (system cfg) tr s) {n : Nat}
    (hmax : cfg.maxInstances ≤ n) (hmin : cfg.minInstances ≤ n) : s.load ≤ n := by
  refine h.invariant (I := fun s => s.load ≤ n) (Nat.zero_le n) fun _ hi hs => ?_
  rcases (effect_of_step hs).load_le with hle | hle | hle
  · exact hle.trans hi
  · exact hle.trans hmax
  · exact hle.trans hmin

theorem spawningCount_le (s : HostPoolManager) :
    s.spawningCount ≤ s.guard.elim 0 Guard.reserved := by
  unfold spawningCount
  cases s.guard with
  | none => exact le_rfl
  | some g =>
    cases g with
    | spawning caller spawn => exact caller.needed_pos
    | returnHostInternal
    | reapExpiredHosts => exact Nat.zero_le _

theorem capacity_bound {pathExists : String → Bool} {c : GatewayConfig}
    (hv : c.validate pathExists = .ok ()) {tr : List (HostPoolManager × Action)}
    (h : Run (system c.poolConfig) tr s) :
    s.state.availableHosts.length + Table.size s.state.leasedHosts + s.spawningCount ≤
      c.maxInstances := by
  have hbounds := PoolConfig.validate_bounds ((GatewayConfig.validate_iff pathExists c).mp hv)
  have hload := load_run h le_rfl hbounds.2.1
  have hspawn := s.spawningCount_le
  unfold load at hload
  calc
    _ ≤ s.state.availableHosts.length + Table.size s.state.leasedHosts +
        s.guard.elim 0 Guard.reserved := Nat.add_le_add_left hspawn _
    _ = s.state.availableHosts.length +
        (Table.size s.state.leasedHosts + s.guard.elim 0 Guard.reserved) := Nat.add_assoc _ _ _
    _ ≤ c.maxInstances := hload

theorem capacity_bound_while_spawning :
    ∃ tr s, Run (system GatewayConfig.small.poolConfig) tr s ∧
      Table.size s.state.leasedHosts = 1 ∧ s.spawningCount = 1 ∧
      s.state.availableHosts.length + Table.size s.state.leasedHosts + s.spawningCount ≤
        GatewayConfig.small.maxInstances := by
  obtain ⟨tr, s, ht, hleased, hspawn⟩ : ∃ tr s,
      (system GatewayConfig.small.poolConfig).trace [] (new GatewayConfig.small.poolConfig)
        [.leaseHost 0, .leaseHostLocked 0 1, .allocatePort, .createContainer (.ok "c1"),
          .startContainer (.ok ()), .inspectContainer (.ok ()) 1, .leaseHost 1,
          .leaseHostLocked 1 2] = some (tr, s) ∧
      Table.size s.state.leasedHosts = 1 ∧ s.spawningCount = 1 := ⟨_, _, rfl, rfl, rfl⟩
  have hr := Run.start.trace ht
  have hv : GatewayConfig.small.validate (fun _ => true) = .ok () := rfl
  exact ⟨tr, s, hr, hleased, hspawn, capacity_bound hv hr⟩

end HostPoolManager

end DockerizedLambda
