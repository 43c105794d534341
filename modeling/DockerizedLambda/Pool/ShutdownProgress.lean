import DockerizedLambda.Pool.Progress

/-! The shutdown gets to its end. It needs the lock twice, and it may have to wait for the
drain to time out; but it waits for no lease, for no request and for no worker. -/

namespace DockerizedLambda

open Transition

namespace HostPoolManager

variable {cfg : PoolConfig} {s s' : HostPoolManager} {a : Action}
  {tr : List (HostPoolManager × Action)}

def Action.ofShutdown : Action → Bool
  | .tick _ => true
  | .sampleDrain => true
  | .abortWorkers => true
  | .collectAllHosts => true
  | .dropCollected => true
  | .listManagedContainers _ => true
  | .forceInspect _ => true
  | .forceStop _ => true
  | _ => false

def ShutdownGoesOn (s : HostPoolManager) (a : Action) : Prop :=
  a.Succeeds ∧ (a.ofShutdown = true ∨ s.holderStep a = true)

theorem Effect.goesOn (he : Effect cfg s a s') (hok : a.Succeeds) (hown : a.ofShutdown = true) :
    (system cfg).Reaches ShutdownGoesOn s s' := .single (step_of_effect he) ⟨hok, .inl hown⟩

theorem collected_dropped (cfg : PoolConfig) {sawEmpty : Bool} {hosts : List HostInstance}
    (hstage : s.shutdown = .collected sawEmpty hosts) :
    ∃ s', (system cfg).Reaches ShutdownGoesOn s s' ∧ s'.shutdown = .collected sawEmpty [] := by
  induction hosts generalizing s with
  | nil => exact ⟨s, .refl s, hstage⟩
  | cons host hosts ih =>
    obtain ⟨s', hreach, hstage'⟩ := @ih
      ({ s with shutdown := .collected sawEmpty hosts }.dropHost host) rfl
    have hdrop : Effect cfg s .dropCollected _ := .collectedDropped hstage
    exact ⟨s', (hdrop.goesOn trivial rfl).trans hreach, hstage'⟩

theorem stopping_completed (cfg : PoolConfig) {sawEmpty : Bool} {containerId : ContainerId}
    {rest : List ContainerId} (hstage : s.shutdown = .stopping sawEmpty containerId rest)
    (hloop : ∀ s₁ : HostPoolManager, s₁.shutdown = .cleaning sawEmpty rest →
      ∃ s', (system cfg).Reaches ShutdownGoesOn s₁ s' ∧ s'.shutdown = .complete sawEmpty) :
    ∃ s', (system cfg).Reaches ShutdownGoesOn s s' ∧ s'.shutdown = .complete sawEmpty := by
  obtain ⟨s', hreach, hstage'⟩ := hloop
    { s with
      docker := s.docker.update containerId .stop
      shutdown := .cleaning sawEmpty rest } rfl
  have hstop : Effect cfg s (.forceStop (.ok ())) _ := .forceStopped hstage
  exact ⟨s', (hstop.goesOn trivial rfl).trans hreach, hstage'⟩

theorem cleaning_completed (cfg : PoolConfig) {sawEmpty : Bool} {containers : List ContainerId}
    (hstage : s.shutdown = .cleaning sawEmpty containers) :
    ∃ s', (system cfg).Reaches ShutdownGoesOn s s' ∧ s'.shutdown = .complete sawEmpty := by
  induction containers generalizing s with
  | nil =>
    have hdone : Effect cfg s (.forceStop (.ok ())) _ := .shutdownComplete hstage
    exact ⟨_, hdone.goesOn trivial rfl, rfl⟩
  | cons containerId containers ih =>
    have hfound : Effect cfg s (.forceInspect (.ok ())) _ := .forceInspected hstage
    obtain ⟨s', hreach, hstage'⟩ := stopping_completed cfg
      (s := { s with shutdown := .stopping sawEmpty containerId containers }) rfl
      fun _ hstage₁ => ih hstage₁
    exact ⟨s', (hfound.goesOn trivial rfl).trans hreach, hstage'⟩

theorem collected_completed (cfg : PoolConfig) {sawEmpty : Bool} {hosts : List HostInstance}
    (hstage : s.shutdown = .collected sawEmpty hosts) :
    ∃ s', (system cfg).Reaches ShutdownGoesOn s s' ∧ s'.shutdown = .complete sawEmpty := by
  obtain ⟨s₁, hdropped, hstage₁⟩ := collected_dropped cfg hstage
  have hlist : Effect cfg s₁ (.listManagedContainers (.ok ())) _ := .containersListed hstage₁
  obtain ⟨s₂, hcleaned, hstage₂⟩ := cleaning_completed cfg
    (s := { s₁ with shutdown := .cleaning sawEmpty s₁.docker.present }) rfl
  exact ⟨s₂, (hdropped.trans (hlist.goesOn trivial rfl)).trans hcleaned, hstage₂⟩

theorem aborted_completed (cfg : PoolConfig) {sawEmpty : Bool}
    (hstage : s.shutdown = .aborted sawEmpty) (hfree : s.guard = none) :
    ∃ s', (system cfg).Reaches ShutdownGoesOn s s' ∧ s'.shutdown = .complete sawEmpty := by
  have hcollect : Effect cfg s .collectAllHosts _ := .collected hstage hfree
  obtain ⟨s', hreach, hstage'⟩ := collected_completed cfg
    (s := { s with
      state := ⟨[], ∅⟩
      shutdown := .collected sawEmpty
        (s.state.availableHosts ++ Table.values s.state.leasedHosts) }) rfl
  exact ⟨s', (hcollect.goesOn trivial rfl).trans hreach, hstage'⟩

theorem drained_completed (cfg : PoolConfig) {sawEmpty : Bool}
    (hstage : s.shutdown = .drained sawEmpty) (hfree : s.guard = none) :
    ∃ s', (system cfg).Reaches ShutdownGoesOn s s' ∧ s'.shutdown = .complete sawEmpty := by
  have habort : Effect cfg s .abortWorkers _ := .workersAborted hstage
  obtain ⟨s', hreach, hstage'⟩ := aborted_completed cfg
    (s := { s with shutdown := .aborted sawEmpty }) rfl hfree
  exact ⟨s', (habort.goesOn trivial rfl).trans hreach, hstage'⟩

theorem draining_completed (cfg : PoolConfig) {startTime : Nat}
    (hstage : s.shutdown = .draining startTime) (hfree : s.guard = none) :
    ∃ s' sawEmpty, (system cfg).Reaches ShutdownGoesOn s s' ∧
      s'.shutdown = .complete sawEmpty := by
  -- hosts that stay leased hold the drain up until its time is over, not longer
  by_cases hempty : Table.size s.state.leasedHosts = 0
  · have hsample : Effect cfg s .sampleDrain _ := .drainedEmpty hstage hfree hempty
    obtain ⟨s', hreach, hstage'⟩ := drained_completed cfg
      (s := { s with shutdown := .drained true }) rfl hfree
    exact ⟨s', true, (hsample.goesOn trivial rfl).trans hreach, hstage'⟩
  · let elapsed := startTime + shutdownTimeout + 1
    let late := { s with clock := s.clock + elapsed }
    have htick : Effect cfg s (.tick elapsed) late := .tick elapsed
    have hlate : shutdownTimeout < late.clock - startTime := by
      simp only [late, elapsed]
      omega
    have hsample : Effect cfg late .sampleDrain _ := .drainTimeout hstage hfree hempty hlate
    obtain ⟨s', hreach, hstage'⟩ := drained_completed cfg
      (s := { late with shutdown := .drained false }) rfl hfree
    have hfirst := (htick.goesOn trivial rfl).trans (hsample.goesOn trivial rfl)
    exact ⟨s', false, hfirst.trans hreach, hstage'⟩

/-- Once it has been started, the shutdown can always be brought to its end, with nobody's
help but that of the lock's holder: no lease has to come back, no worker to answer. -/
theorem shutdown_can_return (h : Run (system cfg) tr s) (hstarted : s.shutdown ≠ .notStarted)
    (hids : s.issued.length < 2 ^ 128) :
    ∃ s', (system cfg).Reaches ShutdownGoesOn s s' ∧ s'.shutdown.returned = true := by
  have hfinish : ∀ {s₁ s₂ : HostPoolManager} {sawEmpty : Bool},
      (system cfg).Reaches ShutdownGoesOn s s₁ → (system cfg).Reaches ShutdownGoesOn s₁ s₂ →
      s₂.shutdown = .complete sawEmpty →
      ∃ s', (system cfg).Reaches ShutdownGoesOn s s' ∧ s'.shutdown.returned = true :=
    fun h₁ h₂ hstage => ⟨_, h₁.trans h₂, by rw [hstage]; rfl⟩
  obtain ⟨s₁, hreach, hkept, hfree⟩ := unlocked_reached h hids
  have hfirst : (system cfg).Reaches ShutdownGoesOn s s₁ :=
    hreach.mono fun _ _ hown => ⟨hown.2, .inr hown.1⟩
  cases hstage : s.shutdown with
  | notStarted => exact absurd hstage hstarted
  | draining startTime =>
    obtain ⟨s₂, _, hrest, hdone⟩ := draining_completed cfg (hkept.trans hstage) hfree
    exact hfinish hfirst hrest hdone
  | drained sawEmpty =>
    obtain ⟨s₂, hrest, hdone⟩ := drained_completed cfg (hkept.trans hstage) hfree
    exact hfinish hfirst hrest hdone
  | aborted sawEmpty =>
    obtain ⟨s₂, hrest, hdone⟩ := aborted_completed cfg (hkept.trans hstage) hfree
    exact hfinish hfirst hrest hdone
  | collected sawEmpty hosts =>
    obtain ⟨s₂, hrest, hdone⟩ := collected_completed cfg hstage
    exact hfinish (.refl s) hrest hdone
  | cleaning sawEmpty containers =>
    obtain ⟨s₂, hrest, hdone⟩ := cleaning_completed cfg hstage
    exact hfinish (.refl s) hrest hdone
  | stopping sawEmpty containerId rest =>
    obtain ⟨s₂, hrest, hdone⟩ := stopping_completed cfg hstage
      fun _ hstage₁ => cleaning_completed cfg hstage₁
    exact hfinish (.refl s) hrest hdone
  | complete sawEmpty => exact hfinish (.refl s) (.refl s) hstage

theorem shutdown_can_return_leased :
    ∃ tr s, Run (system GatewayConfig.small.poolConfig) tr s ∧ s.shutdown = .draining 0 ∧
      Table.size s.state.leasedHosts = 1 ∧ s.guard.isSome = true ∧
      ∃ s', (system GatewayConfig.small.poolConfig).Reaches ShutdownGoesOn s s' ∧
        s'.shutdown.returned = true := by
  obtain ⟨tr, s, ht, hstage, hleased, hheld, hids⟩ : ∃ tr s,
      (system GatewayConfig.small.poolConfig).trace [] (new GatewayConfig.small.poolConfig)
        (leaseSpawned 0 1 "c1" 8081 ++ [.leaseHost 1, .leaseHostLocked 1 2, .allocatePort,
          .startShutdown]) = some (tr, s) ∧
      s.shutdown = .draining 0 ∧ Table.size s.state.leasedHosts = 1 ∧ s.guard.isSome = true ∧
      s.issued.length = 1 := ⟨_, _, rfl, rfl, rfl, rfl, rfl⟩
  have hr := Run.start.trace ht
  have hroom : s.issued.length < 2 ^ 128 := by
    rw [hids]
    decide
  exact ⟨tr, s, hr, hstage, hleased, hheld,
    shutdown_can_return hr (by rw [hstage]; exact nofun) hroom⟩

end HostPoolManager

end DockerizedLambda
