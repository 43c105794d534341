import DockerizedLambda.Pool.Hosts

/-! How old an idle host can be. A reap is one critical section, and so are the test and the
push of a host that is returned: whatever is idle after a reap was tested, or created, at
some time after that reap has taken the lock. -/

namespace DockerizedLambda

open Transition

theorem HostInstance.not_expired {host : HostInstance} {now ttl : Nat}
    (h : host.isExpired now ttl = false) : now ≤ host.createdAt + ttl := by
  have hle := of_decide_eq_false h
  omega

namespace HostPoolManager

def Kept (s : HostPoolManager) (host : HostInstance) : Prop :=
  host ∈ s.state.availableHosts ∨ ∃ leaseId, s.guard = some (.returnHostInternal leaseId host)

def lockTime : List (HostPoolManager × Action) → Option Nat
  | [] => none
  | (s, .lockReap) :: _ => some s.clock
  | _ :: tr => lockTime tr

def lastReap : List (HostPoolManager × Action) → Option Nat
  | [] => none
  | (_, .unlockReap) :: tr => lockTime tr
  | _ :: tr => lastReap tr

def testedHost (s : HostPoolManager) : Action → Option (HostInstance × Nat)
  | .testReap =>
    match s.guard with
    | some (.reapExpiredHosts (host :: _) _ _) => some (host, s.clock)
    | _ => none
  | _ => none

def hostsFound (expired : Bool) (ttl : Nat) (tested : List (HostInstance × Nat)) :
    List HostInstance :=
  (tested.filter fun p => p.1.isExpired p.2 ttl == expired).map Prod.fst

variable {cfg : PoolConfig} {s s' : HostPoolManager} {a : Action}
  {tr : List (HostPoolManager × Action)}

theorem lockTime_cons (hne : a ≠ .lockReap) : lockTime ((s, a) :: tr) = lockTime tr := by
  cases a <;> first | rfl | exact absurd rfl hne

theorem lastReap_cons (hne : a ≠ .unlockReap) : lastReap ((s, a) :: tr) = lastReap tr := by
  cases a <;> first | rfl | exact absurd rfl hne

theorem testedHost_none (hne : a ≠ .testReap) : testedHost s a = none := by
  cases a <;> first | rfl | exact absurd rfl hne

theorem hostsFound_concat (expired : Bool) (ttl : Nat) (tested : List (HostInstance × Nat))
    (host : HostInstance) (now : Nat) :
    hostsFound expired ttl (tested ++ [(host, now)]) =
      hostsFound expired ttl tested ++ if host.isExpired now ttl = expired then [host] else [] := by
  simp only [hostsFound, List.filter_append, List.map_append, List.filter_singleton]
  by_cases he : host.isExpired now ttl = expired
  · simp only [he, BEq.rfl, cond_true, List.map_cons, List.map_nil, if_true]
  · simp only [beq_eq_false_iff_ne.mpr he, cond_false, List.map_nil, if_neg he]

theorem Effect.clock_mono (he : Effect cfg s a s') : s.clock ≤ s'.clock := by
  cases he with
  | tick => exact Nat.le_add_right _ _
  | _ => exact Nat.le_refl _

theorem Effect.kept_cases (he : Effect cfg s a s') (hne : a ≠ .unlockReap) {host : HostInstance}
    (hh : s'.Kept host) : s.Kept host ∨ s.clock ≤ host.createdAt + cfg.instanceTtl := by
  rcases hh with hh | ⟨leaseId, hg⟩
  · cases he with
    | leaseTested _ _ _ havail
    | leaseUntested _ _ _ havail => exact .inl (.inl (havail ▸ List.mem_cons_of_mem _ hh))
    | hostAdded =>
      rcases List.mem_append.mp hh with hh | hh
      · exact .inl (.inl hh)
      · obtain rfl := List.mem_singleton.mp hh
        exact .inr (Nat.le_add_right _ _)
    | hostReturned hguard =>
      rcases List.mem_append.mp hh with hh | hh
      · exact .inl (.inl hh)
      · obtain rfl := List.mem_singleton.mp hh
        exact .inl (.inr ⟨_, hguard⟩)
    | reapLocked => exact absurd hh List.not_mem_nil
    | reapUnlocked => exact absurd rfl hne
    | collected => exact absurd hh List.not_mem_nil
    | _ => exact .inl (.inl hh)
  · cases he with
    | returnChecking _ _ _ _ hfresh =>
      obtain ⟨_, rfl⟩ := Guard.returnHostInternal.inj (Option.some.inj hg)
      exact .inr (HostInstance.not_expired hfresh)
    | portsExhausted
    | createFailed
    | createdUnanswered
    | startFailed
    | startedUnanswered
    | hostAdded => exact absurd hg (Spawner.next_ne_returning _ _ _)
    | _ => first | exact .inl (.inr ⟨_, hg⟩) | cases hg

theorem Effect.reaping_cases (he : Effect cfg s a s') {rest expired stillValid : List HostInstance}
    (hg : s'.guard = some (.reapExpiredHosts rest expired stillValid)) :
    a = .lockReap ∧ stillValid = [] ∨
      a ≠ .lockReap ∧ ∃ rest₀ expired₀ stillValid₀,
        s.guard = some (.reapExpiredHosts rest₀ expired₀ stillValid₀) ∧
        ∀ host ∈ stillValid,
          host ∈ stillValid₀ ∨ s.clock ≤ host.createdAt + cfg.instanceTtl := by
  cases he with
  | reapLocked =>
    obtain ⟨_, _, rfl⟩ := Guard.reapExpiredHosts.inj (Option.some.inj hg)
    exact .inl ⟨rfl, rfl⟩
  | reapExpired hguard =>
    obtain ⟨_, _, rfl⟩ := Guard.reapExpiredHosts.inj (Option.some.inj hg)
    exact .inr ⟨nofun, _, _, _, hguard, fun _ => .inl⟩
  | reapKept hguard hvalid =>
    obtain ⟨_, _, rfl⟩ := Guard.reapExpiredHosts.inj (Option.some.inj hg)
    refine .inr ⟨nofun, _, _, _, hguard, fun host hh => ?_⟩
    rcases List.mem_append.mp hh with hh | hh
    · exact .inl hh
    · obtain rfl := List.mem_singleton.mp hh
      exact .inr (HostInstance.not_expired hvalid)
  | portsExhausted
  | createFailed
  | createdUnanswered
  | startFailed
  | startedUnanswered
  | hostAdded => exact absurd hg (Spawner.next_ne_reaping _ _ _ _)
  | _ => first | exact .inr ⟨nofun, _, _, _, hg, fun _ => .inl⟩ | cases hg

structure Aged (cfg : PoolConfig) (tr : List (HostPoolManager × Action)) (s : HostPoolManager) :
    Prop where
  past : ∀ T, lastReap tr = some T → T ≤ s.clock
  kept : ∀ T, lastReap tr = some T → ∀ host, s.Kept host → T ≤ host.createdAt + cfg.instanceTtl
  reaping : ∀ rest expired stillValid,
    s.guard = some (.reapExpiredHosts rest expired stillValid) →
      ∃ T, lockTime tr = some T ∧ T ≤ s.clock ∧
        ∀ host ∈ stillValid, T ≤ host.createdAt + cfg.instanceTtl

theorem Effect.aged (he : Effect cfg s a s') (h : Aged cfg tr s) : Aged cfg ((s, a) :: tr) s' := by
  have hclock := he.clock_mono
  by_cases hunlock : a = .unlockReap
  · subst hunlock
    cases he with
    | reapUnlocked hguard =>
      obtain ⟨T₀, hT₀, hle, hvalid⟩ := h.reaping _ _ _ hguard
      have hlast : ∀ T, lastReap ((s, .unlockReap) :: tr) = some T → T = T₀ := fun T hT =>
        Option.some.inj (hT.symm.trans hT₀)
      refine ⟨fun T hT => hlast T hT ▸ hle, fun T hT host hh => ?_, nofun⟩
      rcases hh with hh | ⟨_, hg⟩
      · exact hlast T hT ▸ hvalid host hh
      · cases hg
  · refine ⟨fun T hT => ?_, fun T hT host hh => ?_, fun rest expired stillValid hg => ?_⟩
    · rw [lastReap_cons hunlock] at hT
      exact (h.past T hT).trans hclock
    · rw [lastReap_cons hunlock] at hT
      rcases he.kept_cases hunlock hh with hk | hfresh
      · exact h.kept T hT host hk
      · exact (h.past T hT).trans hfresh
    · rcases he.reaping_cases hg with ⟨rfl, rfl⟩ | ⟨hlock, rest₀, expired₀, stillValid₀, hg₀, hv⟩
      · exact ⟨s.clock, rfl, hclock, nofun⟩
      · obtain ⟨T, hT, hle, hvalid⟩ := h.reaping _ _ _ hg₀
        refine ⟨T, (lockTime_cons hlock).trans hT, hle.trans hclock, fun host hh => ?_⟩
        exact (hv host hh).elim (hvalid host) hle.trans

theorem aged_run (h : Run (system cfg) tr s) : Aged cfg tr s := by
  induction h with
  | start => exact ⟨nofun, nofun, nofun⟩
  | next _ hs ih => exact (effect_of_step hs).aged ih

def Reaping (cfg : PoolConfig) (before : HostPoolManagerState)
    (tested : List (HostInstance × Nat)) (s : HostPoolManager) : Prop :=
  ∃ rest, s.guard = some (.reapExpiredHosts rest (hostsFound true cfg.instanceTtl tested)
      (hostsFound false cfg.instanceTtl tested)) ∧
    before.availableHosts = tested.map Prod.fst ++ rest ∧
    s.state.leasedHosts = before.leasedHosts

theorem Effect.reaping_step (he : Effect cfg s a s') {before : HostPoolManagerState}
    {tested : List (HostInstance × Nat)} (h : Reaping cfg before tested s)
    (hunlock : a ≠ .unlockReap) : Reaping cfg before (tested ++ (testedHost s a).toList) s' := by
  obtain ⟨rest, hg, hbefore, hleased⟩ := h
  by_cases htest : a = .testReap
  · subst htest
    cases he with
    | @reapExpired host rest' _ _ hguard hexpired =>
      obtain ⟨rfl, rfl, rfl⟩ :=
        Guard.reapExpiredHosts.inj (Option.some.inj (hguard.symm.trans hg))
      have ht : testedHost s .testReap = some (host, s.clock) := by simp only [testedHost, hguard]
      refine ⟨rest', ?_, ?_, hleased⟩
      · simp [ht, hostsFound_concat, hexpired]
      · simp [ht, hbefore]
    | @reapKept host rest' _ _ hguard hvalid =>
      obtain ⟨rfl, rfl, rfl⟩ :=
        Guard.reapExpiredHosts.inj (Option.some.inj (hguard.symm.trans hg))
      have ht : testedHost s .testReap = some (host, s.clock) := by simp only [testedHost, hguard]
      refine ⟨rest', ?_, ?_, hleased⟩
      · simp [ht, hostsFound_concat, hvalid]
      · simp [ht, hbefore]
  · have hown : (Guard.reapExpiredHosts rest (hostsFound true cfg.instanceTtl tested)
        (hostsFound false cfg.instanceTtl tested)).ownStep a = false := by
      cases a <;> first | rfl | exact absurd rfl htest | exact absurd rfl hunlock
    obtain ⟨hguard, hstate⟩ := he.locked hg hown
    rw [testedHost_none htest, Option.toList_none, List.append_nil]
    exact ⟨rest, hguard.trans hg, hbefore, hstate ▸ hleased⟩

theorem reaping_run {before : HostPoolManager} {s₁ : HostPoolManager}
    (hlock : step cfg before .lockReap = some s₁)
    (h : Run ((system cfg).startingAt s₁) tr s) (hunlock : ∀ p ∈ tr, p.2 ≠ .unlockReap) :
    Reaping cfg before.state (outputs testedHost tr) s := by
  induction h with
  | start =>
    cases effect_of_step hlock with
    | reapLocked => exact ⟨before.state.availableHosts, rfl, rfl, rfl⟩
  | next _ hs ih =>
    have hi := ih fun p hp => hunlock p (List.mem_cons_of_mem _ hp)
    exact (effect_of_step hs).reaping_step hi (hunlock _ List.mem_cons_self)

structure BoundedStaleness (cfg : PoolConfig) (tr : List (HostPoolManager × Action))
    (s : HostPoolManager) : Prop where
  age : ∀ T, lastReap tr = some T → T ≤ s.clock ∧
    ∀ host ∈ s.state.availableHosts, s.clock - host.createdAt ≤ cfg.instanceTtl + (s.clock - T)
  reaped : ∀ ending during before earlier,
    tr = (ending, .unlockReap) :: (during ++ (before, .lockReap) :: earlier) →
    (∀ p ∈ during, p.2 ≠ .unlockReap) →
      (outputs testedHost during).map Prod.fst = before.state.availableHosts ∧
      s.state.availableHosts = hostsFound false cfg.instanceTtl (outputs testedHost during) ∧
      s.dropping =
        hostsFound true cfg.instanceTtl (outputs testedHost during) ++ ending.dropping ∧
      s.state.leasedHosts = before.state.leasedHosts

theorem idle_hosts_fresh (h : Run (system cfg) tr s) : BoundedStaleness cfg tr s := by
  refine ⟨fun T hT => ⟨(aged_run h).past T hT, fun host hh => ?_⟩, ?_⟩
  · have hpast := (aged_run h).past T hT
    have hkept := (aged_run h).kept T hT host (.inl hh)
    omega
  · rintro ending during before earlier rfl hunlock
    cases h with
    | next hr hs =>
      obtain ⟨_, s₁, hlock, hrun⟩ := hr.split
      obtain ⟨rest, hg, hbefore, hleased⟩ := reaping_run hlock hrun hunlock
      have he : Effect cfg ending .unlockReap s := effect_of_step hs
      cases he with
      | reapUnlocked hguard =>
        obtain ⟨rfl, rfl, rfl⟩ :=
          Guard.reapExpiredHosts.inj (Option.some.inj (hguard.symm.trans hg))
        rw [List.append_nil] at hbefore
        exact ⟨hbefore.symm, rfl, rfl, hleased⟩

theorem idle_host_fresh_after_slow_return :
    ∃ tr s, Run (system GatewayConfig.small.poolConfig) tr s ∧
      lastReap tr = some (25 * nanosPerSecond) ∧ s.clock = 51 * nanosPerSecond ∧
      s.dropping.map HostInstance.containerId = ["c1"] ∧
      s.state.availableHosts = [⟨"c2", ⟨8082⟩, 10 * nanosPerSecond, true⟩] ∧
      BoundedStaleness GatewayConfig.small.poolConfig tr s := by
  obtain ⟨tr, s, ht, hlast, hclock, hdropping, hidle⟩ : ∃ tr s,
      (system GatewayConfig.small.poolConfig).trace [] (new GatewayConfig.small.poolConfig)
        (leaseSpawned 0 1 "c1" 8081 ++ .tick (10 * nanosPerSecond) :: leaseSpawned 1 2 "c2" 8082 ++
          [.dropLease ⟨"c1", 8081, 1⟩, .recvReturn, .returnHostLocked, .containerInfo (.ok ()),
          .tick (15 * nanosPerSecond), .lockReap, .tick (6 * nanosPerSecond), .testReap,
          .unlockReap, .dropLease ⟨"c2", 8082, 2⟩, .recvReturn, .returnHostLocked,
          .tick (20 * nanosPerSecond), .containerInfo (.ok ())]) = some (tr, s) ∧
      lastReap tr = some (25 * nanosPerSecond) ∧ s.clock = 51 * nanosPerSecond ∧
      s.dropping.map HostInstance.containerId = ["c1"] ∧
      s.state.availableHosts = [⟨"c2", ⟨8082⟩, 10 * nanosPerSecond, true⟩] :=
    ⟨_, _, rfl, rfl, rfl, rfl, rfl⟩
  have hr := Run.start.trace ht
  exact ⟨tr, s, hr, hlast, hclock, hdropping, hidle, idle_hosts_fresh hr⟩

end HostPoolManager

end DockerizedLambda
