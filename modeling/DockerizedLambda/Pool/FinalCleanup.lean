import DockerizedLambda.Pool.Daemon
import DockerizedLambda.Pool.Shutdown

/-! The end of the shutdown. Tearing down the workers loses whatever they had in hand, and a
spawn that broke off has left its container behind; `cleanup_all_containers` still finds these
containers, because it asks the daemon. -/

namespace DockerizedLambda

open Transition

def Docker.StoppedExcept (d : Docker) (ids : List ContainerId) : Prop :=
  ∀ c ∈ d.containers, c.status = .started → c.id ∈ ids

/-- The containers that `cleanup_all_containers` has listed and not dealt with yet. -/
def ShutdownStage.listed : ShutdownStage → Option (List ContainerId)
  | .cleaning _ containers => some containers
  | .stopping _ containerId rest => some (containerId :: rest)
  | .complete _ => some []
  | _ => none

theorem ShutdownStage.collected_of_listed {stage : ShutdownStage} {ids : List ContainerId}
    (h : stage.listed = some ids) : stage.hostsCollected = true := by
  cases stage <;> first | rfl | cases h

namespace Docker

variable {d d' : Docker} {ids : List ContainerId}

theorem stoppedExcept_present (d : Docker) : d.StoppedExcept d.present := by
  intro c hc hstatus
  exact mem_present.mpr ⟨c, hc, by rw [hstatus]; rfl, rfl⟩

theorem StoppedExcept.congr (h : d.StoppedExcept ids) (hd : d'.containers = d.containers) :
    d'.StoppedExcept ids := fun c hc => h c (hd ▸ hc)

theorem StoppedExcept.update (h : d.StoppedExcept ids) {f : ContainerStatus → ContainerStatus}
    (hf : ∀ status, f status ≠ .started) (id : ContainerId) :
    (d.update id f).StoppedExcept ids := by
  intro c hc hstatus
  obtain ⟨k, hk, ⟨-, rfl⟩ | ⟨-, rfl⟩⟩ := mem_update hc
  · exact absurd hstatus (hf _)
  · exact h c hk hstatus

theorem StoppedExcept.stopped {id : ContainerId} (h : d.StoppedExcept (id :: ids)) :
    (d.update id .stop).StoppedExcept ids := by
  intro c hc hstatus
  obtain ⟨k, hk, ⟨-, rfl⟩ | ⟨hid, rfl⟩⟩ := mem_update hc
  · exact absurd hstatus (ContainerStatus.stop_ne_started _)
  · exact (List.mem_cons.mp (h c hk hstatus)).resolve_left hid

theorem StoppedExcept.skipped {id : ContainerId} (h : d.StoppedExcept (id :: ids))
    (hgone : ∀ c ∈ d.containers, c.id = id → c.status ≠ .started) : d.StoppedExcept ids := by
  intro c hc hstatus
  exact (List.mem_cons.mp (h c hc hstatus)).resolve_left fun hid => hgone c hc hid hstatus

end Docker

namespace HostPoolManager

/-- No call waits for the lock where the hosts are collected. The daemon lists the
containers, does not fail to find one that runs, stops those it is asked to stop, and starts
none after the listing. -/
def CleansUp (s : HostPoolManager) : Action → Prop
  | .collectAllHosts => s.NoneWaiting
  | .listManagedContainers (.error _) | .forceStop (.error _) => False
  | .forceInspect (.error _) => ∀ sawEmpty containerId rest,
    s.shutdown = .cleaning sawEmpty (containerId :: rest) →
      ∀ c ∈ s.docker.containers, c.id = containerId → c.status ≠ .started
  | .daemon (.starts _) => s.shutdown.listed = none
  | _ => True

structure Cleaning (s : HostPoolManager) : Prop where
  flag : s.shutdown ≠ .notStarted → s.shutdownFlag = true
  sealed : s.shutdown.hostsCollected = true → s.Sealed
  left : ∀ containers, s.shutdown.listed = some containers → s.docker.StoppedExcept containers

variable {cfg : PoolConfig} {s s' : HostPoolManager} {a : Action}

theorem Effect.stays_stopped (he : Effect cfg s a s') (hok : s.CleansUp a) (hs : s.Sealed)
    {ids containers : List ContainerId} (hlisted : s.shutdown.listed = some containers)
    (h : s.docker.StoppedExcept ids) : s'.docker.StoppedExcept ids := by
  have haborted := aborted_of_collected (ShutdownStage.collected_of_listed hlisted)
  have hidle : ∀ {caller : Spawner} {spawn : Spawn}, s.guard = some (.spawning caller spawn) →
      ¬ s.callerPolled caller := by
    intro caller spawn hguard hpoll
    cases caller with
    | leaseHost request => exact hs.leasing request spawn hguard
    | runScalingPolicy n => exact absurd (haborted.symm.trans hpoll.2) nofun
  cases he with
  | created hguard hpoll
  | createdUnanswered hguard hpoll
  | started hguard hpoll
  | startedUnanswered hguard hpoll => exact absurd hpoll (hidle hguard)
  | cancelSpawn
  | scalingTornDownHolding => exact h.congr (Docker.containers_elim_abandon _ _)
  | createFailed => exact h.congr (Docker.containers_createFailed _ _ _)
  | cleanupStopped
  | forceStopped => exact h.update ContainerStatus.stop_ne_started _
  | @daemonActed event docker hact =>
    rcases Docker.act_cases hact with ⟨port, id, -, -, hd⟩ | ⟨id, rfl, -, -⟩ | ⟨id, -, hd⟩
    · intro c hc hstatus
      rcases List.mem_cons.mp (hd ▸ hc) with rfl | hc
      · cases hstatus
      · exact h c hc hstatus
    · exact absurd (hlisted.symm.trans hok) nofun
    · exact (h.update ContainerStatus.finish_ne_started id).congr hd
  | _ => exact h

theorem Effect.sealed_on (he : Effect cfg s a s') (hok : s.CleansUp a) (h : s.Cleaning)
    (hcollected : s'.shutdown.hostsCollected = true) : s'.Sealed := by
  by_cases hbefore : s.shutdown.hostsCollected = true
  · exact he.sealed (h.sealed hbefore)
  · cases he with
    | shutdownStarted
    | drainedEmpty
    | drainTimeout
    | workersAborted => cases hcollected
    | collected hstage hguard =>
      have hflag := h.flag (by rw [hstage]; nofun)
      refine ⟨hflag, rfl, hok, fun request spawn hg => ?_⟩
      exact absurd (hguard.symm.trans hg) nofun
    | collectedDropped hstage
    | containersListed hstage
    | listingFailed hstage
    | forceInspected hstage
    | forceSkipped hstage
    | forceStopped hstage
    | forceStopFailed hstage
    | shutdownComplete hstage => exact absurd (by rw [hstage]; rfl) hbefore
    | _ => exact absurd hcollected hbefore

theorem Effect.left_on (he : Effect cfg s a s') (hok : s.CleansUp a) (h : s.Cleaning)
    {containers : List ContainerId} (hlisted : s'.shutdown.listed = some containers) :
    s'.docker.StoppedExcept containers := by
  have hkept : s.shutdown.listed = some containers → s'.docker.StoppedExcept containers :=
    fun hbefore => he.stays_stopped hok (h.sealed (ShutdownStage.collected_of_listed hbefore))
      hbefore (h.left _ hbefore)
  cases he with
  | shutdownStarted
  | drainedEmpty
  | drainTimeout
  | workersAborted
  | collected
  | collectedDropped => cases hlisted
  | containersListed =>
    obtain rfl := Option.some.inj hlisted
    exact Docker.stoppedExcept_present _
  | listingFailed
  | forceStopFailed => exact absurd hok id
  | forceInspected hstage =>
    obtain rfl := Option.some.inj hlisted
    exact h.left _ (by rw [hstage]; rfl)
  | forceSkipped hstage =>
    obtain rfl := Option.some.inj hlisted
    exact (h.left _ (by rw [hstage]; rfl)).skipped (hok _ _ _ hstage)
  | forceStopped hstage =>
    obtain rfl := Option.some.inj hlisted
    exact (h.left _ (by rw [hstage]; rfl)).stopped
  | shutdownComplete hstage =>
    obtain rfl := Option.some.inj hlisted
    exact h.left _ (by rw [hstage]; rfl)
  | _ => exact hkept hlisted

theorem cleaning_run {tr : List (HostPoolManager × Action)} (h : Run (system cfg) tr s)
    (hok : ∀ p ∈ tr, p.1.CleansUp p.2) : s.Cleaning := by
  refine h.invariant_where (C := CleansUp) (I := Cleaning) ?_ (fun _ hok hi hs => ?_) hok
  · exact ⟨fun hstarted => absurd rfl hstarted, nofun, nofun⟩
  · have he := effect_of_step hs
    exact ⟨he.flag_kept hi.flag, he.sealed_on hok hi, fun _ hlisted => he.left_on hok hi hlisted⟩

/-- Whatever the pool has lost of its containers on the way, none is left running. -/
theorem shutdown_stops_all {tr : List (HostPoolManager × Action)} (h : Run (system cfg) tr s)
    (hok : ∀ p ∈ tr, p.1.CleansUp p.2) (hreturned : s.shutdown.returned = true) :
    ∀ c ∈ s.docker.containers, c.status ≠ .started := by
  intro c hc hstatus
  have hlisted : s.shutdown.listed = some [] := by
    cases hstage : s.shutdown with
    | complete => rfl
    | _ => rw [hstage] at hreturned; cases hreturned
  exact List.not_mem_nil ((cleaning_run h hok).left _ hlisted c hc hstatus)

theorem cleansUp_of_quiet (hcalls : a = .collectAllHosts → s.calls = [])
    (hstarts : ∀ c, a = .daemon (.starts c) → s.shutdown = .notStarted)
    (hok : ∀ e, a ≠ .listManagedContainers (.error e) ∧ a ≠ .forceInspect (.error e) ∧
      a ≠ .forceStop (.error e)) : s.CleansUp a := by
  cases a with
  | collectAllHosts =>
    intro call hcall
    rw [hcalls rfl] at hcall
    cases hcall
  | listManagedContainers result =>
    cases result with
    | ok => trivial
    | error e => exact absurd rfl (hok e).1
  | forceInspect result =>
    cases result with
    | ok => trivial
    | error e => exact absurd rfl (hok e).2.1
  | forceStop result =>
    cases result with
    | ok => trivial
    | error e => exact absurd rfl (hok e).2.2
  | daemon event =>
    cases event with
    | starts c =>
      change s.shutdown.listed = none
      rw [hstarts c rfl]
      rfl
    | _ => trivial
  | _ => trivial

theorem shutdown_stops_all_lost :
    ∃ tr s, Run (system GatewayConfig.small.poolConfig) tr s ∧
      s.docker.containers =
        [⟨"c3", 8083, .stopped⟩, ⟨"c2", 8082, .created⟩, ⟨"c1", 8081, .stopped⟩] ∧
      s.sent = [] ∧ ∀ c ∈ s.docker.containers, c.status ≠ .started := by
  obtain ⟨tr, s, ht, hreturned, hcontainers, hsent, hquiet, hstarts, hok⟩ : ∃ tr s,
      (system GatewayConfig.small.poolConfig).trace [] (new GatewayConfig.small.poolConfig)
        [.leaseHost 0, .leaseHostLocked 0 1, .allocatePort, .createContainer (.ok "c1"),
          .startContainer (.error (.transport "timeout")), .daemon (.starts "c1"),
          .leaseHost 1, .leaseHostLocked 1 2, .allocatePort,
          .createContainer (.error (.api (.transport "timeout"))), .daemon (.creates 8082 "c2"),
          .leaseHost 2, .leaseHostLocked 2 3, .allocatePort, .createContainer (.ok "c3"),
          .startContainer (.ok ()), .inspectContainer (.ok ()) 3,
          .cancelLease ⟨2, .readyWait 3 "c3" 8083 1⟩, .startShutdown,
          .tick (31 * nanosPerSecond), .sampleDrain, .abortWorkers,
          .workerAborted .handleContainerCleanup, .collectAllHosts, .dropCollected,
          .listManagedContainers (.ok ()), .forceInspect (.ok ()), .forceStop (.ok ()),
          .forceInspect (.ok ()), .forceStop (.ok ()), .forceInspect (.ok ()),
          .forceStop (.ok ()), .forceStop (.ok ())] = some (tr, s) ∧
      s.shutdown.returned = true ∧
      s.docker.containers =
        [⟨"c3", 8083, .stopped⟩, ⟨"c2", 8082, .created⟩, ⟨"c1", 8081, .stopped⟩] ∧
      s.sent = [] ∧
      (tr.all fun p => p.2 ≠ .collectAllHosts || p.1.calls.isEmpty) = true ∧
      (tr.all fun p => p.2 ≠ .daemon (.starts "c1") || p.1.shutdown == .notStarted) = true ∧
      ∀ a ∈ tr.map Prod.snd, (∀ c, a = .daemon (.starts c) → c = "c1") ∧
        ∀ e, a ≠ .listManagedContainers (.error e) ∧ a ≠ .forceInspect (.error e) ∧
          a ≠ .forceStop (.error e) :=
    ⟨_, _, rfl, rfl, rfl, rfl, rfl, rfl, by simp⟩
  have hr := Run.start.trace ht
  have hclean : ∀ p ∈ tr, p.1.CleansUp p.2 := by
    intro p hp
    obtain ⟨hone, hok⟩ := hok _ (List.mem_map_of_mem hp)
    refine cleansUp_of_quiet (fun hcollect => ?_) (fun c hstart => ?_) hok
    · simpa [hcollect] using List.all_eq_true.mp hquiet p hp
    · obtain rfl := hone c hstart
      simpa [hstart] using List.all_eq_true.mp hstarts p hp
  exact ⟨tr, s, hr, hcontainers, hsent, shutdown_stops_all hr hclean hreturned⟩

end HostPoolManager

end DockerizedLambda
