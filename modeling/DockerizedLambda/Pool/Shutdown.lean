import DockerizedLambda.Pool.Containers

/-! Shutdown. The flag is read before the state lock is asked for, so a lease that read it
unset may still be waiting for the lock while the pool drains and is emptied. Without such
a lease the pool stays empty: only the lock's holder can enter a host, and no call that may
become one is left. -/

namespace DockerizedLambda

open Transition

def ShutdownStage.drainedEmpty : ShutdownStage → Bool
  | .notStarted | .draining _ => false
  | .drained sawEmpty => sawEmpty
  | .aborted sawEmpty => sawEmpty
  | .collected sawEmpty _ => sawEmpty
  | .cleaning sawEmpty _ => sawEmpty
  | .stopping sawEmpty _ _ => sawEmpty
  | .complete sawEmpty => sawEmpty

def ShutdownStage.returned : ShutdownStage → Bool
  | .complete _ => true
  | _ => false

theorem ShutdownStage.collected_of_returned {stage : ShutdownStage}
    (h : stage.returned = true) : stage.hostsCollected = true := by
  cases stage <;> first | rfl | cases h

theorem Spawner.next_ne_leasing {caller : Spawner} (request : Nat) (spawn : Spawn) :
    caller.next ≠ some (.spawning (.leaseHost request) spawn) := by
  cases caller with
  | leaseHost => exact nofun
  | runScalingPolicy n => cases n <;> exact nofun

namespace HostPoolManager

def NoneWaiting (s : HostPoolManager) : Prop := ∀ call ∈ s.calls, call.stage ≠ .lockWait

/-- No call waits for the lock where the drain loop sees `leased_hosts` empty and where the
hosts are collected, and no task is still dropping a host where the shutdown returns. -/
def Seals (s : HostPoolManager) : Action → Prop
  | .sampleDrain => Table.size s.state.leasedHosts = 0 → s.NoneWaiting
  | .collectAllHosts => s.NoneWaiting
  | .listManagedContainers (.error _) => s.dropping = []
  | .forceStop _ => (∃ sawEmpty, s.shutdown = .cleaning sawEmpty []) → s.dropping = []
  | _ => True

structure ShutdownSealed (s : HostPoolManager) : Prop where
  drained : s.shutdown.drainedEmpty = true → s.state.leasedHosts = ∅
  collected : s.shutdown.hostsCollected = true → s.state = ⟨[], ∅⟩
  returned : s.shutdown.returned = true → ∀ c ∈ s.spawned, c ∈ s.sent ++ s.unsent

structure Sealed (s : HostPoolManager) : Prop where
  flag : s.shutdownFlag = true
  leased : s.state.leasedHosts = ∅
  waiting : s.NoneWaiting
  leasing : ∀ request spawn, s.guard ≠ some (.spawning (.leaseHost request) spawn)

structure Emptied (s : HostPoolManager) : Prop where
  available : s.state.availableHosts = []
  guard : s.guard.elim [] Guard.hosts = []

variable {cfg : PoolConfig} {s s' : HostPoolManager} {a : Action}

theorem Sealed.lookup (h : s.Sealed) (leaseId : Uuid) :
    s.state.leasedHosts.lookup leaseId = none := by
  rw [h.leased]
  rfl

theorem Sealed.erase (h : s.Sealed) (leaseId : Uuid) : s.state.leasedHosts.erase leaseId = ∅ := by
  rw [Table.erase_of_notMem]
  · exact h.leased
  · rw [h.leased]
    exact AList.notMem_empty leaseId

theorem NoneWaiting.erase (h : s.NoneWaiting) (call : LeaseCall) :
    ∀ c ∈ s.calls.erase call, c.stage ≠ .lockWait :=
  fun c hc => h c (List.mem_of_mem_erase hc)

theorem NoneWaiting.goOn (h : s.NoneWaiting) (call : LeaseCall) {new : LeaseCall}
    (hnew : new.stage ≠ .lockWait) : ∀ c ∈ new :: s.calls.erase call, c.stage ≠ .lockWait := by
  intro c hc
  rcases List.mem_cons.mp hc with rfl | hc
  · exact hnew
  · exact h.erase call c hc

theorem spawn_goesOn {caller : Spawner} {old new : Spawn}
    (hguard : s.guard = some (.spawning caller old))
    (h : ∀ request spawn, s.guard ≠ some (.spawning (.leaseHost request) spawn))
    (request : Nat) (spawn : Spawn) :
    some (Guard.spawning caller new) ≠ some (.spawning (.leaseHost request) spawn) := by
  intro he
  cases he
  exact h request old hguard

theorem Effect.sealed (he : Effect cfg s a s') (h : s.Sealed) : s'.Sealed := by
  -- only a call that waits for the lock, or spawns under it, can lease a host
  have hflag := h.flag
  have hlookup := h.lookup
  have hleased := h.leased
  have hwaiting := h.waiting
  have hleasing := h.leasing
  cases he with
  | leaseAsked hunset => exact absurd (hflag.symm.trans hunset) nofun
  | leaseTested hcall | leaseUntested hcall | leaseFull hcall | leaseSpawning hcall =>
    exact absurd rfl (hwaiting _ hcall)
  | readyAgain
  | readyDone => exact ⟨hflag, hleased, hwaiting.goOn _ nofun, hleasing⟩
  | readyConfirmed _ _ hhost => exact absurd ((hlookup _).symm.trans hhost) nofun
  | readyInvalid => exact ⟨hflag, hleased, hwaiting.erase _, hleasing⟩
  | notReady => exact ⟨hflag, h.erase _, hwaiting.erase _, hleasing⟩
  | cancelLease => exact ⟨hflag, hleased, hwaiting.erase _, hleasing⟩
  | cancelSpawn hguard => exact absurd hguard (hleasing _ _)
  | portAllocated hguard
  | created hguard
  | started hguard => exact ⟨hflag, hleased, hwaiting, spawn_goesOn hguard hleasing⟩
  | portsExhausted
  | createFailed
  | createdUnanswered
  | startFailed
  | startedUnanswered => exact ⟨hflag, hleased, hwaiting, Spawner.next_ne_leasing⟩
  | hostLeased hguard => exact absurd hguard (hleasing _ _)
  | hostAdded => exact ⟨hflag, hleased, hwaiting, Spawner.next_ne_leasing⟩
  | returnExpired _ _ _ hhost
  | returnChecking _ _ _ hhost => exact absurd ((hlookup _).symm.trans hhost) nofun
  | hostReturned
  | hostGone => exact ⟨hflag, hleased, hwaiting, nofun⟩
  | reapLocked | reapExpired | reapKept | reapUnlocked | scalingSpawning
  | returnsTornDownHolding | scalingTornDownHolding =>
    exact ⟨hflag, hleased, hwaiting, nofun⟩
  | shutdownStarted => exact ⟨rfl, hleased, hwaiting, hleasing⟩
  | collected => exact ⟨hflag, rfl, hwaiting, hleasing⟩
  | _ => exact ⟨hflag, hleased, hwaiting, hleasing⟩

theorem Effect.emptied (he : Effect cfg s a s') (haborted : s.shutdown.workersAborted = true)
    (hs : s.Sealed) (h : s.Emptied) : s'.Emptied := by
  -- an aborted worker gets no further than its next call to the daemon
  have havailable := h.available
  have hheld := h.guard
  cases he with
  | leaseTested hcall | leaseUntested hcall | leaseFull hcall | leaseSpawning hcall =>
    exact absurd rfl (hs.waiting _ hcall)
  | cancelSpawn
  | portAllocated
  | created
  | started => exact ⟨havailable, rfl⟩
  | portsExhausted
  | createFailed
  | createdUnanswered
  | startFailed
  | startedUnanswered => exact ⟨havailable, Spawner.next_hosts _⟩
  | hostLeased hguard => exact absurd hguard (hs.leasing _ _)
  | hostAdded _ hpoll
  | hostReturned _ hpoll
  | hostGone _ hpoll => exact absurd (haborted.symm.trans hpoll.2) nofun
  | returnChecking _ _ _ hhost => exact absurd ((hs.lookup _).symm.trans hhost) nofun
  | reapLocked =>
    refine ⟨rfl, ?_⟩
    rw [havailable]
    rfl
  | reapExpired hguard
  | reapKept hguard =>
    rw [hguard] at hheld
    cases hheld
  | reapUnlocked hguard =>
    rw [hguard] at hheld
    exact ⟨(List.append_eq_nil_iff.mp (List.append_eq_nil_iff.mp hheld).2).2, rfl⟩
  | scalingSpawning
  | returnsTornDownHolding
  | scalingTornDownHolding => exact ⟨havailable, rfl⟩
  | collected => exact ⟨rfl, hheld⟩
  | _ => exact ⟨havailable, hheld⟩

theorem Effect.dropping_nil (he : Effect cfg s a s') (hs : s.Sealed) (h : s.Emptied)
    (hd : s.dropping = []) : s'.dropping = [] := by
  cases he with
  | notReady =>
    rw [hs.lookup, hd]
    rfl
  | hostDropped hhost => exact absurd (hd ▸ hhost) List.not_mem_nil
  | returnExpired _ _ _ hhost => exact absurd ((hs.lookup _).symm.trans hhost) nofun
  | reapUnlocked hguard =>
    have hheld := h.guard
    rw [hguard] at hheld
    rw [(List.append_eq_nil_iff.mp (List.append_eq_nil_iff.mp hheld).2).1, hd]
    rfl
  | _ => exact hd

structure Sealing (s : HostPoolManager) : Prop where
  flag : s.shutdown ≠ .notStarted → s.shutdownFlag = true
  sealed : s.shutdown.drainedEmpty = true ∨ s.shutdown.hostsCollected = true → s.Sealed
  emptied : s.shutdown.hostsCollected = true → s.Emptied
  dropped : s.shutdown.returned = true → s.dropping = []

theorem aborted_of_collected (h : s.shutdown.hostsCollected = true) :
    s.shutdown.workersAborted = true := by
  by_contra hne
  have hfalse := ShutdownStage.before_collect_of_abort (Bool.eq_false_of_not_eq_true hne)
  exact absurd (h.symm.trans hfalse) nofun

theorem Effect.flag_kept (he : Effect cfg s a s')
    (h : s.shutdown ≠ .notStarted → s.shutdownFlag = true) :
    s'.shutdown ≠ .notStarted → s'.shutdownFlag = true := by
  intro hstarted
  cases he with
  | shutdownStarted => rfl
  | drainedEmpty hstage
  | drainTimeout hstage
  | workersAborted hstage
  | collected hstage
  | collectedDropped hstage
  | containersListed hstage
  | listingFailed hstage
  | forceInspected hstage
  | forceSkipped hstage
  | forceStopped hstage
  | forceStopFailed hstage
  | shutdownComplete hstage => exact h (by rw [hstage]; nofun)
  | _ => exact h hstarted

theorem Effect.seals (he : Effect cfg s a s') (hok : s.Seals a) (h : s.Sealing)
    (hstage' : s'.shutdown.drainedEmpty = true ∨ s'.shutdown.hostsCollected = true) :
    s'.Sealed := by
  by_cases hbefore : s.shutdown.drainedEmpty = true ∨ s.shutdown.hostsCollected = true
  · exact he.sealed (h.sealed hbefore)
  -- the table is seen empty by a sample of the drain, or emptied by the collection
  · cases he with
    | shutdownStarted
    | drainTimeout => rcases hstage' with hstage' | hstage' <;> cases hstage'
    | drainedEmpty hstage hguard hempty =>
      have hflag := h.flag (by rw [hstage]; nofun)
      refine ⟨hflag, Table.eq_empty_of_size hempty, hok hempty, fun request spawn hg => ?_⟩
      exact absurd (hguard.symm.trans hg) nofun
    | workersAborted hstage =>
      rw [hstage] at hbefore
      exact absurd hstage' hbefore
    | collected hstage hguard =>
      have hflag := h.flag (by rw [hstage]; nofun)
      refine ⟨hflag, rfl, hok, fun request spawn hg => ?_⟩
      exact absurd (hguard.symm.trans hg) nofun
    | collectedDropped hstage
    | containersListed hstage
    | listingFailed hstage
    | forceInspected hstage
    | forceSkipped hstage
    | forceStopped hstage
    | forceStopFailed hstage
    | shutdownComplete hstage => exact absurd (.inr (by rw [hstage]; rfl)) hbefore
    | _ => exact absurd hstage' hbefore

theorem Effect.empties (he : Effect cfg s a s') (h : s.Sealing)
    (hcollected : s'.shutdown.hostsCollected = true) : s'.Emptied := by
  by_cases hbefore : s.shutdown.hostsCollected = true
  · exact he.emptied (aborted_of_collected hbefore) (h.sealed (.inr hbefore)) (h.emptied hbefore)
  · cases he with
    | shutdownStarted
    | drainedEmpty
    | drainTimeout
    | workersAborted => cases hcollected
    | collected _ hguard =>
      refine ⟨rfl, ?_⟩
      rw [hguard]
      rfl
    | collectedDropped hstage
    | containersListed hstage
    | listingFailed hstage
    | forceInspected hstage
    | forceSkipped hstage
    | forceStopped hstage
    | forceStopFailed hstage
    | shutdownComplete hstage => exact absurd (by rw [hstage]; rfl) hbefore
    | _ => exact absurd hcollected hbefore

theorem Effect.dropped (he : Effect cfg s a s') (hok : s.Seals a) (h : s.Sealing)
    (hreturned : s'.shutdown.returned = true) : s'.dropping = [] := by
  by_cases hbefore : s.shutdown.returned = true
  · have hcollected := ShutdownStage.collected_of_returned hbefore
    exact he.dropping_nil (h.sealed (.inr hcollected)) (h.emptied hcollected) (h.dropped hbefore)
  · cases he with
    | shutdownStarted
    | drainedEmpty
    | drainTimeout
    | workersAborted
    | collected
    | collectedDropped
    | containersListed => cases hreturned
    | listingFailed => exact hok
    | forceInspected
    | forceSkipped
    | forceStopped
    | forceStopFailed => cases hreturned
    | shutdownComplete hstage => exact hok ⟨_, hstage⟩
    | _ => exact absurd hreturned hbefore

theorem sealing_new : (new cfg).Sealing := by
  refine ⟨fun h => absurd rfl h, fun h => ?_, nofun, nofun⟩
  rcases h with h | h <;> cases h

theorem sealing_run {tr : List (HostPoolManager × Action)} (h : Run (system cfg) tr s)
    (hok : ∀ p ∈ tr, p.1.Seals p.2) : s.Sealing := by
  refine h.invariant_where (C := Seals) (I := Sealing) sealing_new (fun _ hok hi hs => ?_) hok
  have he := effect_of_step hs
  exact ⟨he.flag_kept hi.flag, he.seals hok hi, he.empties hi, he.dropped hok hi⟩

theorem shutdown_sealed {tr : List (HostPoolManager × Action)} (h : Run (system cfg) tr s)
    (hok : ∀ p ∈ tr, p.1.Seals p.2) : s.ShutdownSealed := by
  -- with nothing idle, nothing leased and nothing in anybody's hands, every host has gone
  have hsealing := sealing_run h hok
  refine ⟨fun hdrained => (hsealing.sealed (.inl hdrained)).leased, fun hcollected => ?_,
    fun hreturned c hc => ?_⟩
  · have hleased := (hsealing.sealed (.inr hcollected)).leased
    have havailable := (hsealing.emptied hcollected).available
    cases hstate : s.state with
    | mk availableHosts leasedHosts =>
      rw [hstate] at hleased havailable
      rw [← hleased, ← havailable]
  · have hcollected := ShutdownStage.collected_of_returned hreturned
    have hempty := hsealing.emptied hcollected
    have hleased := (hsealing.sealed (.inr hcollected)).leased
    have hshutdown : s.shutdown.hosts = [] := by
      cases hstage : s.shutdown with
      | complete => rfl
      | _ => rw [hstage] at hreturned; cases hreturned
    have hhosts : s.hosts = [] := by
      rw [hosts, hempty.available, hempty.guard, hleased, hsealing.dropped hreturned, hshutdown]
      rfl
    have hspawned := (spawned_perm (sound_run h)).mem_iff.mp hc
    rwa [hhosts] at hspawned

theorem shutdown_sealed_after_collect :
    ∃ tr s, Run (system GatewayConfig.small.poolConfig) tr s ∧ s.shutdown = .complete true ∧
      s.spawned = ["c1"] ∧ s.ShutdownSealed := by
  obtain ⟨tr, s, ht, hstage, hspawned, hok⟩ : ∃ tr s,
      (system GatewayConfig.small.poolConfig).trace [] (new GatewayConfig.small.poolConfig)
        [.lockScaling, .allocatePort, .createContainer (.ok "c1"), .startContainer (.ok ()),
          .inspectContainer (.ok ()) 0, .startShutdown, .leaseHost 1, .sampleDrain, .abortWorkers,
          .collectAllHosts, .dropCollected, .dropPort ⟨8081⟩, .listManagedContainers (.ok ()),
          .forceInspect (.ok ()), .forceStop (.ok ()), .forceStop (.ok ())] = some (tr, s) ∧
      s.shutdown = .complete true ∧ s.spawned = ["c1"] ∧ ∀ p ∈ tr, p.1.Seals p.2 :=
    ⟨_, _, rfl, rfl, rfl, by simp [Seals, NoneWaiting, new, dropHost, dropPort, leaseHost]⟩
  have hr := Run.start.trace ht
  exact ⟨tr, s, hr, hstage, hspawned, shutdown_sealed hr hok⟩

/-- The call reads the flag before the shutdown sets it, and gets the lock after the end. -/
theorem host_leased_after_shutdown :
    ∃ tr s, Run (system GatewayConfig.small.poolConfig) tr s ∧ s.shutdown = .complete true ∧
      (∀ p ∈ tr, p.2.Succeeds) ∧ Table.size s.state.leasedHosts = 1 ∧ s.spawned = ["c1"] ∧
      s.sent ++ s.unsent = [] ∧ ¬ s.ShutdownSealed := by
  obtain ⟨tr, s, ht, hstage, hok, hleased, hspawned, hsent⟩ : ∃ tr s,
      (system GatewayConfig.small.poolConfig).trace [] (new GatewayConfig.small.poolConfig)
        [.leaseHost 1, .startShutdown, .sampleDrain, .abortWorkers, .collectAllHosts,
          .listManagedContainers (.ok ()), .forceStop (.ok ()), .leaseHostLocked 1 7,
          .allocatePort, .createContainer (.ok "c1"), .startContainer (.ok ()),
          .inspectContainer (.ok ()) 7] = some (tr, s) ∧
      s.shutdown = .complete true ∧ (∀ a ∈ tr.map Prod.snd, a.Succeeds) ∧
      Table.size s.state.leasedHosts = 1 ∧ s.spawned = ["c1"] ∧ s.sent ++ s.unsent = [] :=
    ⟨_, _, rfl, rfl, by simp [Action.Succeeds], rfl, rfl, rfl⟩
  refine ⟨tr, s, Run.start.trace ht, hstage, fun p hp => hok _ (List.mem_map_of_mem hp), hleased,
    hspawned, hsent, fun hsealed => ?_⟩
  have hempty := hsealed.drained (by rw [hstage]; rfl)
  rw [hempty] at hleased
  cases hleased

end HostPoolManager

end DockerizedLambda
