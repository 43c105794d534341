import DockerizedLambda.Pool.Capacity
import DockerizedLambda.Pool.Leases

/-! Leases are given back. A lease id in `leased_hosts` has an owner as long as no call is
abandoned between the entry of its host and the construction of its `HostLease`, and a
dropped lease always reaches the task that returns its host. -/

namespace DockerizedLambda

open Transition

namespace HostPoolManager

/-- The future of a `lease_host` call is dropped after its host has been entered in
`leased_hosts` and before a `HostLease` stands for it. -/
def Action.AbandonsLease : Action → Prop
  | .cancelLease call => call.lease ≠ none
  | _ => False

structure LeasesOwned (s : HostPoolManager) : Prop where
  owned : ∀ leaseId ∈ s.state.leasedHosts,
    (∃ call ∈ s.calls, ∃ lease, call.lease = some lease ∧ lease.leaseId = leaseId) ∨
    (∃ lease ∈ s.leases, lease.leaseId = leaseId) ∨
    leaseId ∈ s.leaseRelease.messages ∨ s.returns = .lockWait leaseId
  released : s.calls = [] → s.leases = [] → s.leaseRelease.messages = [] → s.returns = .recv →
    Table.size s.state.leasedHosts = 0

variable {cfg : PoolConfig} {s s' : HostPoolManager} {a : Action}

theorem awaited_eq_some {stage : ReturnStage} {leaseId : Uuid} :
    stage.awaited = some leaseId ↔ stage = .lockWait leaseId := by
  cases stage <;> simp [ReturnStage.awaited]

theorem mem_tickets {lease : HostLease} :
    lease ∈ s.tickets ↔ (∃ call ∈ s.calls, call.lease = some lease) ∨ lease ∈ s.leases := by
  simp only [tickets, List.mem_append, List.mem_filterMap]

theorem mem_owners {leaseId : Uuid} :
    leaseId ∈ s.owners ↔ (∃ lease ∈ s.tickets, lease.leaseId = leaseId) ∨
      leaseId ∈ s.leaseRelease.messages ∨ s.returns = .lockWait leaseId := by
  simp only [owners, List.mem_append, List.mem_map, Option.mem_toList, awaited_eq_some]

theorem messages_lt {tr : List (HostPoolManager × Action)} (h : Run (system cfg) tr s)
    (hbefore : s.shutdown.hostsCollected = false) {lease : HostLease} (hl : lease ∈ s.leases) :
    s.leaseRelease.messages.length < Table.size s.state.leasedHosts := by
  -- a live lease leaves room in the release channel, since it and the messages own different
  -- entries of `leased_hosts`
  have hle := owners_length_le (registry_sound_run h) (entered_run h hbefore)
  have hpos : 0 < s.leases.length := List.length_pos_of_mem hl
  simp only [owners, tickets, List.length_append, List.length_map] at hle
  omega

theorem size_le_load (s : HostPoolManager) : Table.size s.state.leasedHosts ≤ s.load :=
  (Nat.le_add_right _ _).trans (Nat.le_add_left _ _)

theorem release_accepted {tr : List (HostPoolManager × Action)} (h : Run (system cfg) tr s)
    (hbefore : s.shutdown.workersAborted = false) (hmax : cfg.maxInstances ≤ leaseReleaseCapacity)
    (hmin : cfg.minInstances ≤ leaseReleaseCapacity) {lease : HostLease} (hl : lease ∈ s.leases) :
    s.leaseRelease.accepts = true := by
  have hlt := messages_lt h (ShutdownStage.before_collect_of_abort hbefore) hl
  have hle := s.size_le_load.trans (load_run h hmax hmin)
  exact Channel.accepts_iff.mpr ⟨(working_run h hbefore).releaseOpen, hlt.trans_le hle⟩

theorem owned_run {tr : List (HostPoolManager × Action)} (h : Run (system cfg) tr s)
    (hbefore : s.shutdown.workersAborted = false) (hmax : cfg.maxInstances ≤ leaseReleaseCapacity)
    (hmin : cfg.minInstances ≤ leaseReleaseCapacity) (hkept : ∀ p ∈ tr, ¬ p.2.AbandonsLease) :
    s.registry.Owned := by
  have key := h.invariant_where (C := fun _ a => ¬ a.AbandonsLease)
    (I := fun s => s.shutdown.workersAborted = false → s.registry.Owned)
    (fun _ k hk => absurd hk (AList.notMem_empty k)) (fun hr hkept hi hs hb => ?_) hkept
  · exact key hbefore
  · have he := effect_of_step hs
    obtain ⟨hb, hne⟩ := he.before_abort hb
    rcases he.registry (wellFormed_run hr) with hm | ⟨hd, _⟩ | ⟨_, he⟩
    · exact hm.owned (hi hb)
    -- of the steps that disown an entry, two do not need an aborted worker
    · cases he with
      | cancelLease => exact absurd hd hkept
      | leaseDropped hlease =>
        have haccepts := release_accepted hr hb hmax hmin hlease
        exact absurd (haccepts.symm.trans hd) nofun
      | returnsTornDown
      | returnsTornDownHolding
      | cleanupTornDown
      | reaperTornDown
      | scalingTornDown
      | scalingTornDownHolding => exact absurd rfl (hne _)
      | _ => exact absurd hd id
    · exact he ▸ Registry.Owned.clear

theorem leases_owned (hmax : cfg.maxInstances ≤ leaseReleaseCapacity)
    (hmin : cfg.minInstances ≤ leaseReleaseCapacity) {tr : List (HostPoolManager × Action)}
    (h : Run (system cfg) tr s) (hbefore : s.shutdown = .notStarted)
    (hkept : ∀ p ∈ tr, ¬ p.2.AbandonsLease) : s.LeasesOwned := by
  have howned := owned_run h (by rw [hbefore]; rfl) hmax hmin hkept
  have hmem : ∀ leaseId ∈ s.state.leasedHosts, leaseId ∈ s.owners := howned
  refine ⟨fun leaseId hk => ?_, fun hcalls hleases hmsgs hreturns => ?_⟩
  · rcases mem_owners.mp (hmem leaseId hk) with ⟨lease, hticket, hid⟩ | hreleased
    · rcases mem_tickets.mp hticket with ⟨call, hcall, hl⟩ | hl
      · exact .inl ⟨call, hcall, lease, hl, hid⟩
      · exact .inr (.inl ⟨lease, hl, hid⟩)
    · exact .inr (.inr hreleased)
  have hnone : s.owners = [] := by
    simp only [owners, tickets, hcalls, hleases, hmsgs, hreturns, ReturnStage.awaited,
      List.filterMap_nil, List.map_nil, Option.toList_none, List.append_nil]
  rw [← Table.keys_length, List.length_eq_zero_iff]
  refine List.eq_nil_iff_forall_not_mem.mpr fun k hk => ?_
  have := hmem k hk
  rw [hnone] at this
  exact List.not_mem_nil this

theorem leases_owned_after_drop :
    ∃ tr s, Run (system GatewayConfig.small.poolConfig) tr s ∧ s.leaseRelease.messages = [1] ∧
      s.LeasesOwned := by
  obtain ⟨tr, s, ht, hmsgs, hstage, hkept⟩ : ∃ tr s,
      (system GatewayConfig.small.poolConfig).trace [] (new GatewayConfig.small.poolConfig)
        (leaseSpawned 0 1 "c1" 8081 ++
          [.dropLease ⟨"c1", 8081, 1⟩]) = some (tr, s) ∧
      s.leaseRelease.messages = [1] ∧ s.shutdown = .notStarted ∧
      ∀ p ∈ tr.map Prod.snd, ¬ p.AbandonsLease :=
    ⟨_, _, rfl, rfl, rfl, by simp [Action.AbandonsLease]⟩
  have hr := Run.start.trace ht
  exact ⟨tr, s, hr, hmsgs, leases_owned (by decide) (by decide) hr hstage
    fun p hp => hkept _ (List.mem_map_of_mem hp)⟩

theorem abandoned_lease_not_owned :
    ∃ tr s, Run (system GatewayConfig.small.poolConfig) tr s ∧ s.shutdown = .notStarted ∧
      GatewayConfig.small.maxInstances ≤ leaseReleaseCapacity ∧ ¬ s.LeasesOwned := by
  obtain ⟨tr, s, ht, hstage, hnone, hsize⟩ : ∃ tr s,
      (system GatewayConfig.small.poolConfig).trace [] (new GatewayConfig.small.poolConfig)
        [.leaseHost 0, .leaseHostLocked 0 1, .allocatePort, .createContainer (.ok "c1"),
          .startContainer (.ok ()), .inspectContainer (.ok ()) 1,
          .cancelLease ⟨0, .readyWait 1 "c1" 8081 1⟩] = some (tr, s) ∧
      s.shutdown = .notStarted ∧
      (s.calls = [] ∧ s.leases = [] ∧ s.leaseRelease.messages = [] ∧ s.returns = .recv) ∧
      Table.size s.state.leasedHosts = 1 := ⟨_, _, rfl, rfl, ⟨rfl, rfl, rfl, rfl⟩, rfl⟩
  refine ⟨tr, s, Run.start.trace ht, hstage, by decide, fun ho => ?_⟩
  have hzero := ho.released hnone.1 hnone.2.1 hnone.2.2.1 hnone.2.2.2
  rw [hsize] at hzero
  cases hzero

end HostPoolManager

end DockerizedLambda
