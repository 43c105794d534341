import DockerizedLambda.Lib.Progress
import DockerizedLambda.Pool.Cleanup
import Mathlib.Data.Fintype.EquivFin

/-! What becomes of the containers. A dropped host is handed to the cleanup task by a send
that may be refused, and nothing bounds the number of hosts waiting for that task: neither
the capacity of the pool nor its ports, which are both free again at once. -/

namespace DockerizedLambda

open Transition

namespace HostPoolManager

def Action.Succeeds : Action → Prop
  | .cancelLease _ | .cancelSpawn => False
  | .createContainer (.error _) | .createUnanswered _ _ => False
  | .startContainer (.error _) | .startUnanswered _ => False
  | .inspectContainer (.error _) _ | .containerInfo (.error _) => False
  | .inspectCleanup (.error _) | .stopCleanup (.error _) => False
  | .listManagedContainers (.error _) => False
  | .forceInspect (.error _) | .forceStop (.error _) => False
  | _ => True

def FindsRoom (s : HostPoolManager) : Action → Prop
  | .dropHost _ => s.cleanup.messages.length < cleanupCapacity
  | _ => True

def ContainersAccounted (s : HostPoolManager) : Prop :=
  ∀ c ∈ s.spawned, (s.hosts.map HostInstance.containerId).count c + s.pending.count c +
    s.stopped.count c = 1

variable {cfg : PoolConfig} {s s' : HostPoolManager} {a : Action}

theorem Effect.nothing_lost (he : Effect cfg s a s') (hw : s.Working) (hok : a.Succeeds)
    (hroom : s.FindsRoom a) (hb : s'.shutdown.workersAborted = false)
    (h : s.unsent = [] ∧ s.stopFailed = []) : s'.unsent = [] ∧ s'.stopFailed = [] := by
  cases he with
  | @hostDropped host =>
    have haccepts : s.cleanup.accepts = true := Channel.accepts_iff.mpr ⟨hw.cleanupOpen, hroom⟩
    refine ⟨?_, h.2⟩
    simp only [dropHost, haccepts, if_true]
    exact h.1
  | hostGone
  | cleanupUnknown
  | cleanupFailed => exact absurd hok id
  | returnsTornDownHolding haborted => exact absurd (hb.symm.trans haborted) Bool.false_ne_true
  | collectedDropped => cases hb
  | _ => exact h

theorem nothing_lost_run {tr : List (HostPoolManager × Action)} (h : Run (system cfg) tr s)
    (hbefore : s.shutdown.workersAborted = false)
    (hok : ∀ p ∈ tr, p.2.Succeeds ∧ p.1.FindsRoom p.2) : s.unsent = [] ∧ s.stopFailed = [] := by
  have key := h.invariant_where (C := fun s a => a.Succeeds ∧ s.FindsRoom a)
    (I := fun s => s.shutdown.workersAborted = false → s.unsent = [] ∧ s.stopFailed = [])
    (fun _ => ⟨rfl, rfl⟩) (fun hr hok hi hs hb => ?_) hok
  · exact key hbefore
  · have he := effect_of_step hs
    have hbs := (he.before_abort hb).1
    exact he.nothing_lost (working_run hr hbs) hok.1 hok.2 hb (hi hbs)

theorem containers_accounted {tr : List (HostPoolManager × Action)} (h : Run (system cfg) tr s)
    (hbefore : s.shutdown = .notStarted) (hok : ∀ p ∈ tr, p.2.Succeeds)
    (hroom : ∀ p ∈ tr, p.1.FindsRoom p.2) : s.ContainersAccounted := by
  have hbefore : s.shutdown.workersAborted = false := by rw [hbefore]; rfl
  have hsound := sound_run h
  obtain ⟨hunsent, hfailed⟩ := nothing_lost_run h hbefore fun p hp => ⟨hok p hp, hroom p hp⟩
  have hpipelined := pipelined_run h hbefore
  rw [Pipelined, hfailed, List.nil_append] at hpipelined
  intro c hc
  have hspawned := (spawned_perm hsound).count_eq c
  have hsent := hpipelined.count_eq c
  have hone := List.count_eq_one_of_mem (List.nodup_append.mp hsound.distinct).2.1 hc
  simp only [hunsent, List.append_nil, List.count_append] at hspawned hsent
  change s.spawned.count c = 1 at hone
  omega

theorem containers_accounted_after_expiry :
    ∃ tr s, Run (system GatewayConfig.small.poolConfig) tr s ∧ s.spawned = ["c1"] ∧
      s.pending = ["c1"] ∧ s.ContainersAccounted := by
  obtain ⟨tr, s, ht, hstage, hspawned, hpending, hok, hroom⟩ : ∃ tr s,
      (system GatewayConfig.small.poolConfig).trace [] (new GatewayConfig.small.poolConfig)
        [.lockScaling, .allocatePort, .createContainer (.ok "c1"), .startContainer (.ok ()),
          .inspectContainer (.ok ()) 0, .tick 31000000000, .lockReap, .testReap, .unlockReap,
          .dropHost ⟨"c1", ⟨8081⟩, 0, false⟩] = some (tr, s) ∧
      s.shutdown = .notStarted ∧ s.spawned = ["c1"] ∧ s.pending = ["c1"] ∧
      (∀ a ∈ tr.map Prod.snd, a.Succeeds) ∧ ∀ p ∈ tr, p.1.FindsRoom p.2 :=
    ⟨_, _, rfl, rfl, rfl, rfl, by simp [Action.Succeeds], by simp [FindsRoom, cleanupCapacity, new]⟩
  have hr := Run.start.trace ht
  exact ⟨tr, s, hr, hspawned, hpending, containers_accounted hr hstage
    (fun p hp => hok _ (List.mem_map_of_mem hp)) hroom⟩

theorem fresh_containerId (ids : List ContainerId) : ∃ c, c ∉ ids := by
  have hinf : Infinite String :=
    Infinite.of_surjective String.toList fun l => ⟨String.ofList l, by simp⟩
  obtain ⟨c, hc⟩ := Infinite.exists_notMem_finset ids.toFinset
  exact ⟨c, fun hm => hc (List.mem_toFinset.mpr hm)⟩

theorem Effect.succeeds (he : Effect cfg s a s') (hok : a.Succeeds) :
    (system cfg).Reaches (fun _ a => a.Succeeds) s s' := .single (step_of_effect he) hok

def manyHosts : PoolConfig where
  maxInstances := 1002
  minInstances := 1002
  instanceTtl := 30 * nanosPerSecond
  binaryPath := "./functions"
  binaryName := "hello-lambda"
  portRange := ⟨8000, 9100⟩

structure Growing (n : Nat) (s : HostPoolManager) : Prop where
  leased : s.state.leasedHosts = ∅
  idle : s.state.availableHosts.length = n
  created : ∀ host ∈ s.state.availableHosts, host.createdAt = 0
  clock : s.clock = 0
  guard : s.guard = (Spawner.runScalingPolicy (1002 - n)).next
  dead : s.dead = []
  shutdown : s.shutdown = .notStarted
  ports : n + s.portManager.availablePorts.queue.length = 1100
  dropping : s.dropping = []
  spawned : s.spawned.length = n
  stopped : s.stopped = []

theorem growing_zero : ∃ s, (system manyHosts).Reaches (fun _ a => a.Succeeds) (new manyHosts) s ∧
    Growing 0 s := by
  have hlock : Effect manyHosts (new manyHosts) .lockScaling _ :=
    .scalingSpawning (n := 1001) List.not_mem_nil rfl rfl
  have hports : (PortManager.new manyHosts.portRange).availablePorts.queue.length = 1100 := by
    rw [(PortManager.availablePorts_new _).2, PortRange.ports_length]
    rfl
  exact ⟨_, hlock.succeeds trivial, rfl, rfl, nofun, rfl, rfl, rfl, rfl,
    (Nat.zero_add _).trans hports, rfl, rfl, rfl⟩

theorem growing_next {n : Nat} (hs : Growing n s) (hn : n < 1002) :
    ∃ s', (system manyHosts).Reaches (fun _ a => a.Succeeds) s s' ∧ Growing (n + 1) s' := by
  obtain ⟨remaining, hremaining⟩ : ∃ remaining, 1002 - n = remaining + 1 := ⟨1001 - n, by omega⟩
  have hg : s.guard = some (.spawning (.runScalingPolicy remaining) .allocate) := by
    rw [hs.guard, hremaining]
    rfl
  have hpolled : ∀ s₁ : HostPoolManager, s₁.dead = s.dead → s₁.shutdown = s.shutdown →
      s₁.polled .runScalingPolicy := by
    intro s₁ hdead hstage
    rw [polled, hdead, hs.dead, hstage, hs.shutdown]
    exact ⟨List.not_mem_nil, rfl⟩
  obtain ⟨port, rest, hqueue⟩ : ∃ port rest,
      s.portManager.availablePorts.queue = port :: rest := by
    have hports := hs.ports
    apply List.exists_cons_of_length_pos
    omega
  have hpop := QueueSet.popFront_cons hqueue
  have hport : s.portManager.allocatePort.1 = .ok ⟨port⟩ := by
    rw [PortManager.allocatePort, hpop]
  have hrest : s.portManager.allocatePort.2.availablePorts.queue = rest := by
    rw [PortManager.allocatePort, hpop]
  obtain ⟨c, hfresh⟩ := fresh_containerId s.docker.ids
  have hallocate : Effect manyHosts s .allocatePort _ := .portAllocated hg hport
  have hcreate : Effect manyHosts _ (.createContainer (.ok c)) _ :=
    .created (s := { s with
      portManager := s.portManager.allocatePort.2
      guard := some (.spawning (.runScalingPolicy remaining) (.create ⟨port⟩)) })
      rfl (hpolled _ rfl rfl) hfresh
  have hstart : Effect manyHosts _ (.startContainer (.ok ())) _ :=
    .started (s := { s with
      portManager := s.portManager.allocatePort.2
      docker := s.docker.create c port
      guard := some (.spawning (.runScalingPolicy remaining) (.start ⟨port⟩ c)) })
      rfl (hpolled _ rfl rfl)
  have hadd : Effect manyHosts _ (.inspectContainer (.ok ()) 0) _ :=
    .hostAdded (s := { s with
      portManager := s.portManager.allocatePort.2
      docker := (s.docker.create c port).update c .start
      guard := some (.spawning (.runScalingPolicy remaining) (.inspect ⟨port⟩ c)) })
      rfl (hpolled _ rfl rfl)
  have hfirst := (hallocate.succeeds trivial).trans (hcreate.succeeds trivial)
  have hlast := (hstart.succeeds trivial).trans (hadd.succeeds trivial)
  refine ⟨_, hfirst.trans hlast, hs.leased, ?_, fun host hh => ?_, hs.clock, ?_, hs.dead,
    hs.shutdown, ?_, hs.dropping, ?_, hs.stopped⟩
  · rw [List.length_append, hs.idle, List.length_singleton]
  · rcases List.mem_append.mp hh with hh | hh
    · exact hs.created host hh
    · obtain rfl := List.mem_singleton.mp hh
      exact hs.clock
  · have hleft : 1002 - (n + 1) = remaining := by omega
    rw [hleft]
  · have hports := hs.ports
    rw [hqueue, List.length_cons] at hports
    rw [hrest]
    omega
  · exact congrArg (· + 1) hs.spawned

theorem growing_run {n : Nat} (hn : n ≤ 1002) : ∃ s,
    (system manyHosts).Reaches (fun _ a => a.Succeeds) (new manyHosts) s ∧ Growing n s := by
  induction n with
  | zero => exact growing_zero
  | succ n ih =>
    obtain ⟨s, hreach, hs⟩ := ih (by omega)
    obtain ⟨s', hnext, hs'⟩ := growing_next hs hn
    exact ⟨s', hreach.trans hnext, hs'⟩

theorem all_expired {rest expired : List HostInstance}
    (hg : s.guard = some (.reapExpiredHosts rest expired []))
    (hrest : ∀ host ∈ rest, host.isExpired s.clock cfg.instanceTtl = true) :
    (system cfg).Reaches (fun _ a => a.Succeeds) s
      { s with guard := some (.reapExpiredHosts [] (expired ++ rest) []) } := by
  induction rest generalizing s expired with
  | nil =>
    have hsame : { s with guard := some (.reapExpiredHosts [] (expired ++ []) []) } = s := by
      rw [List.append_nil, ← hg]
    rw [hsame]
    exact .refl s
  | cons host rest ih =>
    have htest : Effect cfg s .testReap _ := .reapExpired hg (hrest host List.mem_cons_self)
    have hlater := @ih
      { s with guard := some (.reapExpiredHosts rest (expired ++ [host]) []) } _ rfl
      fun host hh => hrest host (List.mem_cons_of_mem _ hh)
    rw [List.append_assoc] at hlater
    exact (htest.succeeds trivial).trans hlater

theorem all_dropped (cfg : PoolConfig) {hosts : List HostInstance}
    (hdropping : s.dropping = hosts) :
    ∃ s', (system cfg).Reaches (fun _ a => a.Succeeds) s s' ∧ s'.dropping = [] ∧
      s'.state = s.state ∧ s'.guard = s.guard ∧ s'.shutdown = s.shutdown ∧
      s'.spawned = s.spawned ∧ s'.stopped = s.stopped := by
  induction hosts generalizing s with
  | nil => exact ⟨s, .refl s, hdropping, rfl, rfl, rfl, rfl, rfl⟩
  | cons host rest ih =>
    have hdrop : Effect cfg s (.dropHost host) _ :=
      .hostDropped (by rw [hdropping]; exact List.mem_cons_self)
    obtain ⟨s', hreach, hkept⟩ := @ih ({ s with dropping := s.dropping.erase host }.dropHost host)
      (by change s.dropping.erase host = rest; rw [hdropping, List.erase_cons_head])
    exact ⟨s', (hdrop.succeeds trivial).trans hreach, hkept⟩

theorem pending_length_le (s : HostPoolManager) : s.pending.length ≤ cleanupCapacity + 1 := by
  -- the cleanup task has one container in hand at most, the channel has the rest
  have hbound := s.cleanup.bounded
  have hcurrent : s.cleaner.current.toList.length ≤ 1 := by
    cases s.cleaner.current with
    | none => exact Nat.zero_le _
    | some => exact le_rfl
  rw [pending, List.length_append]
  omega

/-- More hosts expire in one reap than the cleanup channel and the cleanup task can hold. -/
theorem container_forgotten : ∃ tr s, Run (system manyHosts) tr s ∧ s.shutdown = .notStarted ∧
    (∀ p ∈ tr, p.2.Succeeds) ∧ ¬ s.ContainersAccounted := by
  obtain ⟨s₁, hgrown, hs⟩ := growing_run le_rfl
  have hexpired : ∀ host ∈ s₁.state.availableHosts,
      host.isExpired (s₁.clock + 31 * nanosPerSecond) manyHosts.instanceTtl = true := by
    intro host hh
    rw [HostInstance.isExpired, hs.created host hh, hs.clock]
    rfl
  have htick : Effect manyHosts s₁ (.tick (31 * nanosPerSecond)) _ := .tick _
  have hlock : Effect manyHosts _ .lockReap _ :=
    .reapLocked (s := { s₁ with clock := s₁.clock + 31 * nanosPerSecond })
      (hs.dead ▸ List.not_mem_nil) hs.guard
  have htests := @all_expired manyHosts { s₁ with
    clock := s₁.clock + 31 * nanosPerSecond
    state := ⟨[], s₁.state.leasedHosts⟩
    guard := some (.reapExpiredHosts s₁.state.availableHosts [] []) } _ _ rfl hexpired
  have hunlock : Effect manyHosts _ .unlockReap _ := .reapUnlocked (s := { s₁ with
    clock := s₁.clock + 31 * nanosPerSecond
    state := ⟨[], s₁.state.leasedHosts⟩
    guard := some (.reapExpiredHosts [] ([] ++ s₁.state.availableHosts) []) }) rfl
  have hreap := ((htick.succeeds trivial).trans (hlock.succeeds trivial)).trans
    (htests.trans (hunlock.succeeds trivial))
  obtain ⟨s, hdrops, hdropping, hstate, hguard, hstage, hspawned, hstopped⟩ := @all_dropped
    { s₁ with
      clock := s₁.clock + 31 * nanosPerSecond
      state := ⟨[], s₁.state.leasedHosts⟩
      guard := none
      dropping := ([] ++ s₁.state.availableHosts) ++ s₁.dropping } manyHosts _ rfl
  obtain ⟨tr, hr, hok⟩ := (hgrown.trans hreap).trans hdrops
  have hrun : Run (system manyHosts) tr s := hr
  refine ⟨tr, s, hrun, hstage.trans hs.shutdown, hok, fun hall => ?_⟩
  have hnodup : s.spawned.Nodup := (List.nodup_append.mp (sound_run hrun).distinct).2.1
  have hhosts : s.hosts = [] := by
    rw [hosts, hstate, hguard, hdropping, hstage, hs.leased, hs.shutdown]
    rfl
  have hsub : s.spawned ⊆ s.pending := fun c hc => by
    have hone := hall c hc
    rw [hhosts, hstopped, hs.stopped] at hone
    simp only [List.map_nil, List.count_nil, Nat.zero_add, Nat.add_zero] at hone
    exact List.count_pos_iff.mp (by omega)
  have hlen := (List.subperm_of_subset hnodup hsub).length_le
  have hpending := pending_length_le s
  rw [hspawned, hs.spawned] at hlen
  simp only [cleanupCapacity] at hpending
  omega

end HostPoolManager

end DockerizedLambda
