import DockerizedLambda.Lib.Progress
import DockerizedLambda.Pool.Capacity
import DockerizedLambda.Pool.Shutdown
import Mathlib.Data.BitVec

/-! The lock. Its holder waits for nothing but the daemon: it takes the lock once, and
every step that it takes under it brings it nearer to the release. So no order of the tasks
leaves the lock taken for good. -/

namespace DockerizedLambda

open Transition

def Spawn.work : Spawn → Nat
  | .allocate => 4
  | .create _ => 3
  | .start _ _ => 2
  | .inspect _ _ => 1

def Spawner.remaining : Spawner → Nat
  | .leaseHost _ => 0
  | .runScalingPolicy n => n

def Guard.work : Guard → Nat
  | .spawning caller spawn => spawn.work + 4 * caller.remaining
  | .returnHostInternal _ _ => 1
  | .reapExpiredHosts rest _ _ => rest.length + 1

def Guard.worker : Guard → Option Worker
  | .spawning (.leaseHost _) _ => none
  | .spawning (.runScalingPolicy _) _ => some .runScalingPolicy
  | .returnHostInternal _ _ => some .processHostLeaseReturns
  | .reapExpiredHosts _ _ _ => some .reapExpiredHosts

def Guard.holderStep (guard : Guard) : HostPoolManager.Action → Bool
  | .workerAborted w => guard.worker == some w
  | a => guard.ownStep a

theorem Spawn.work_pos (spawn : Spawn) : 0 < spawn.work := by cases spawn <;> exact Nat.succ_pos _

theorem Spawn.work_le (spawn : Spawn) : spawn.work ≤ 4 := by
  cases spawn <;> simp only [work] <;> omega

theorem Guard.work_le (guard : Guard) : guard.work ≤ 4 * guard.reserved + 1 := by
  cases guard with
  | spawning caller spawn =>
    have hspawn := spawn.work_le
    have hneeded : caller.needed = caller.remaining + 1 := by cases caller <;> rfl
    simp only [work, reserved]
    omega
  | returnHostInternal
  | reapExpiredHosts =>
    simp only [work, reserved]
    omega

theorem Spawner.next_work (caller : Spawner) :
    caller.next.elim 0 Guard.work ≤ 4 * caller.remaining := by
  cases caller with
  | leaseHost => exact Nat.zero_le _
  | runScalingPolicy n =>
    cases n with
    | zero => exact Nat.zero_le _
    | succ n =>
      simp only [next, Option.elim, Guard.work, Spawn.work, remaining]
      omega

theorem Spawner.next_worker {caller : Spawner} {w : Worker} {spawn : Spawn}
    (h : caller.next.bind Guard.worker = some w) :
    (Guard.spawning caller spawn).worker = some w := by
  cases caller with
  | leaseHost => cases h
  | runScalingPolicy n =>
    cases n with
    | zero => cases h
    | succ n => exact h

theorem Guard.of_worker {guard : Guard} {w : Worker} (h : guard.worker = some w) :
    (w = .runScalingPolicy ∧ ∃ n spawn, guard = .spawning (.runScalingPolicy n) spawn) ∨
    (w = .processHostLeaseReturns ∧ ∃ leaseId host, guard = .returnHostInternal leaseId host) ∨
    (w = .reapExpiredHosts ∧ ∃ rest expired stillValid,
      guard = .reapExpiredHosts rest expired stillValid) := by
  cases guard with
  | spawning caller spawn =>
    cases caller with
    | leaseHost => cases h
    | runScalingPolicy n => exact .inl ⟨(Option.some.inj h).symm, n, spawn, rfl⟩
  | returnHostInternal leaseId host =>
    exact .inr (.inl ⟨(Option.some.inj h).symm, leaseId, host, rfl⟩)
  | reapExpiredHosts rest expired stillValid =>
    exact .inr (.inr ⟨(Option.some.inj h).symm, rest, expired, stillValid, rfl⟩)

theorem Guard.worker_caller {caller : Spawner} (spawn spawn' : Spawn) :
    (Guard.spawning caller spawn).worker = (Guard.spawning caller spawn').worker := by
  cases caller <;> rfl

theorem fresh_leaseId {ids : List Uuid} (h : ids.length < 2 ^ 128) : ∃ leaseId, leaseId ∉ ids := by
  by_contra hall
  have hmem : ∀ leaseId : Uuid, leaseId ∈ ids := fun id => by_contra fun hid => hall ⟨id, hid⟩
  have hsub : (List.finRange (2 ^ 128)).map BitVec.ofFin ⊆ ids := fun id _ => hmem id
  have hnodup := (List.nodup_finRange (2 ^ 128)).map (fun i j hij => BitVec.ofFin.inj hij)
  have hlen := (List.subperm_of_subset hnodup hsub).length_le
  rw [List.length_map, List.length_finRange] at hlen
  omega

namespace HostPoolManager

def lockWork (s : HostPoolManager) : Nat := s.guard.elim 0 Guard.work

def holderStep (s : HostPoolManager) (a : Action) : Bool :=
  s.guard.elim false fun guard => guard.holderStep a

def Attended (s : HostPoolManager) : Prop := ∀ w, s.guard.bind Guard.worker = some w → w ∉ s.dead

variable {cfg : PoolConfig} {s s' : HostPoolManager} {a : Action} {guard : Guard}
  {tr : List (HostPoolManager × Action)}

theorem lockWork_spawning {caller : Spawner} {spawn : Spawn}
    (hguard : s.guard = some (.spawning caller spawn)) :
    s.lockWork = spawn.work + 4 * caller.remaining := by rw [lockWork, hguard]; rfl

theorem lockWork_next {caller : Spawner} {spawn : Spawn}
    (hguard : s.guard = some (.spawning caller spawn)) (hguard' : s'.guard = caller.next) :
    s'.lockWork < s.lockWork := by
  have hpos := spawn.work_pos
  have hnext := caller.next_work
  rw [lockWork_spawning hguard, lockWork, hguard']
  omega

theorem Effect.tornDown {w : Worker} (he : Effect cfg s (.workerAborted w) s') :
    s'.dead = w :: s.dead ∧ (s'.guard = none ∧ s.guard.bind Guard.worker = some w ∨
      s'.guard = s.guard ∧ s.guard.bind Guard.worker ≠ some w) := by
  -- a worker that is torn down gives up the lock, or somebody else has it
  cases he with
  | returnsTornDownHolding _ _ hguard
  | scalingTornDownHolding _ _ hguard => exact ⟨rfl, .inl ⟨rfl, hguard ▸ rfl⟩⟩
  | returnsTornDown _ _ hguard
  | reaperTornDown _ _ hguard
  | scalingTornDown _ _ hguard =>
    refine ⟨rfl, .inr ⟨rfl, fun hw => ?_⟩⟩
    obtain ⟨guard, hg, hworker⟩ := Option.bind_eq_some_iff.mp hw
    obtain ⟨hw, n, spawn, rfl⟩ | ⟨hw, leaseId, host, rfl⟩ | ⟨hw, rest, expired, stillValid, rfl⟩ :=
      Guard.of_worker hworker <;> first | exact hguard _ _ hg | exact hguard _ _ _ hg | cases hw
  | cleanupTornDown =>
    refine ⟨rfl, .inr ⟨rfl, fun hw => ?_⟩⟩
    obtain ⟨guard, hg, hworker⟩ := Option.bind_eq_some_iff.mp hw
    obtain ⟨hw, -⟩ | ⟨hw, -⟩ | ⟨hw, -⟩ := Guard.of_worker hworker <;> cases hw

theorem lockWork_released (hg : s.guard = some guard) (hguard' : s'.guard = none) :
    s'.lockWork < s.lockWork := by
  rw [lockWork, hguard', lockWork, hg]
  cases guard with
  | spawning caller spawn => exact Nat.lt_of_lt_of_le spawn.work_pos (Nat.le_add_right _ _)
  | returnHostInternal => exact Nat.zero_lt_one
  | reapExpiredHosts rest => exact Nat.succ_pos _

theorem Effect.work_less (he : Effect cfg s a s') (hg : s.guard = some guard)
    (hown : guard.holderStep a = true) : s'.lockWork < s.lockWork := by
  by_cases habort : ∃ w, a = .workerAborted w
  · obtain ⟨w, rfl⟩ := habort
    rcases he.tornDown.2 with ⟨hguard', -⟩ | ⟨-, hunheld⟩
    · exact lockWork_released hg hguard'
    · refine absurd ?_ hunheld
      rw [hg]
      exact eq_of_beq hown
  cases he with
  | cancelSpawn
  | hostLeased
  | hostReturned
  | hostGone
  | reapUnlocked => exact lockWork_released hg rfl
  | portAllocated hguard
  | created hguard
  | started hguard =>
    rw [lockWork_spawning hguard, lockWork_spawning rfl]
    exact Nat.add_lt_add_right (Nat.lt_succ_self _) _
  | portsExhausted hguard
  | createFailed hguard
  | createdUnanswered hguard
  | startFailed hguard
  | startedUnanswered hguard
  | hostAdded hguard => exact lockWork_next hguard rfl
  | reapExpired hguard
  | reapKept hguard =>
    rw [lockWork, lockWork, hguard]
    exact Nat.lt_succ_self _
  | returnsTornDown | returnsTornDownHolding | cleanupTornDown | reaperTornDown
  | scalingTornDown | scalingTornDownHolding => exact absurd ⟨_, rfl⟩ habort
  | _ => cases guard <;> cases hown

theorem Effect.guard_kept (he : Effect cfg s a s') (hg : s.guard = some guard)
    (hother : guard.holderStep a = false) : s'.guard = s.guard := by
  by_cases habort : ∃ w, a = .workerAborted w
  · obtain ⟨w, rfl⟩ := habort
    rcases he.tornDown.2 with ⟨-, hheld⟩ | ⟨hkept, -⟩
    · rw [hg] at hheld
      exact absurd (beq_iff_eq.mpr hheld) (Bool.eq_false_iff.mp hother)
    · exact hkept
  · refine (he.locked hg ?_).1
    cases a with
    | workerAborted w => exact absurd ⟨w, rfl⟩ habort
    | _ => exact hother

theorem Effect.lockWork_le (he : Effect cfg s a s') (hheld : s.guard ≠ none) :
    s'.lockWork ≤ s.lockWork := by
  obtain ⟨guard, hg⟩ := Option.ne_none_iff_exists'.mp hheld
  by_cases hown : guard.holderStep a = true
  · exact (he.work_less hg hown).le
  · have hkept := he.guard_kept hg (Bool.eq_false_of_not_eq_true hown)
    rw [lockWork, hkept, lockWork]

theorem Attended.goOn (h : s.Attended) (hguard : ∀ w, s'.guard.bind Guard.worker = some w →
    s.guard.bind Guard.worker = some w) (hdead : s'.dead = s.dead) : s'.Attended := by
  intro w hw
  rw [hdead]
  exact h w (hguard w hw)

theorem Attended.next (h : s.Attended) {caller : Spawner} {spawn : Spawn}
    (hguard : s.guard = some (.spawning caller spawn)) (hguard' : s'.guard = caller.next)
    (hdead : s'.dead = s.dead) : s'.Attended := by
  refine h.goOn (fun w hw => ?_) hdead
  rw [hguard]
  rw [hguard'] at hw
  exact Spawner.next_worker hw

theorem Effect.attended (he : Effect cfg s a s') (h : s.Attended) : s'.Attended := by
  -- a worker takes the lock alive, and is torn down together with what it holds
  by_cases habort : ∃ w, a = .workerAborted w
  · obtain ⟨w, rfl⟩ := habort
    obtain ⟨hdead, hguard⟩ := he.tornDown
    intro w' hw' hmem
    rcases hguard with ⟨hguard, -⟩ | ⟨hguard, hunheld⟩
    · rw [hguard] at hw'
      cases hw'
    · rw [hguard] at hw'
      rw [hdead] at hmem
      rcases List.mem_cons.mp hmem with rfl | hmem
      · exact hunheld hw'
      · exact h w' hw' hmem
  cases he with
  | leaseTested
  | leaseUntested
  | leaseSpawning
  | cancelSpawn
  | hostLeased
  | hostReturned
  | hostGone
  | reapUnlocked => exact nofun
  | portAllocated hguard
  | created hguard
  | started hguard =>
    refine h.goOn (fun w hw => ?_) rfl
    rw [hguard]
    exact (Guard.worker_caller _ _).trans hw
  | portsExhausted hguard
  | createFailed hguard
  | createdUnanswered hguard
  | startFailed hguard
  | startedUnanswered hguard
  | hostAdded hguard => exact h.next hguard rfl rfl
  | returnChecking halive
  | reapLocked halive
  | scalingSpawning halive =>
    intro w hw
    obtain rfl := Option.some.inj hw
    exact halive
  | reapExpired hguard
  | reapKept hguard =>
    refine h.goOn (fun w hw => ?_) rfl
    rw [hguard]
    exact hw
  | returnsTornDown | returnsTornDownHolding | cleanupTornDown | reaperTornDown
  | scalingTornDown | scalingTornDownHolding => exact absurd ⟨_, rfl⟩ habort
  | _ => exact h

theorem attended_run (h : Run (system cfg) tr s) : s.Attended := by
  refine h.invariant (I := Attended) (fun w hw => ?_) fun _ hi hs => (effect_of_step hs).attended hi
  cases hw

theorem Attended.goes_on (h : s.Attended) (hids : s.issued.length < 2 ^ 128)
    (hg : s.guard = some guard) :
    ∃ a s', Effect cfg s a s' ∧ guard.holderStep a = true ∧ a.Succeeds := by
  have htorn : ∀ {w}, guard.worker = some w → s.polled w ∨
      w ∉ s.dead ∧ s.shutdown.workersAborted = true := by
    intro w hw
    have halive := h w (by rw [hg]; exact hw)
    cases haborted : s.shutdown.workersAborted with
    | false => exact .inl ⟨halive, haborted⟩
    | true => exact .inr ⟨halive, rfl⟩
  cases guard with
  | spawning caller spawn =>
    by_cases hpoll : s.callerPolled caller
    · cases spawn with
      | allocate =>
        cases hport : s.portManager.allocatePort.1 with
        | ok port => exact ⟨_, _, .portAllocated hg hport, rfl, trivial⟩
        | error e => exact ⟨_, _, .portsExhausted hg hport, rfl, trivial⟩
      | create port =>
        obtain ⟨containerId, hfresh⟩ := fresh_containerId s.docker.ids
        exact ⟨_, _, .created hg hpoll hfresh, rfl, trivial⟩
      | start port containerId => exact ⟨_, _, .started hg hpoll, rfl, trivial⟩
      | inspect port containerId =>
        cases caller with
        | leaseHost request =>
          obtain ⟨leaseId, hfresh⟩ := fresh_leaseId hids
          exact ⟨.inspectContainer (.ok ()) leaseId, _, .hostLeased hg hfresh, rfl, trivial⟩
        | runScalingPolicy n =>
          exact ⟨.inspectContainer (.ok ()) 0, _, .hostAdded hg hpoll, rfl, trivial⟩
    · cases caller with
      | leaseHost => exact absurd trivial hpoll
      | runScalingPolicy n =>
        obtain ⟨halive, haborted⟩ := (htorn rfl).resolve_left hpoll
        exact ⟨_, _, .scalingTornDownHolding haborted halive hg, rfl, trivial⟩
  | returnHostInternal leaseId host =>
    rcases htorn rfl with hpoll | ⟨halive, haborted⟩
    · exact ⟨_, _, .hostReturned hg hpoll, rfl, trivial⟩
    · exact ⟨_, _, .returnsTornDownHolding haborted halive hg, rfl, trivial⟩
  | reapExpiredHosts rest expired stillValid =>
    cases rest with
    | nil => exact ⟨_, _, .reapUnlocked hg, rfl, trivial⟩
    | cons host rest =>
      cases hexpired : host.isExpired s.clock cfg.instanceTtl with
      | true => exact ⟨_, _, .reapExpired hg hexpired, rfl, trivial⟩
      | false => exact ⟨_, _, .reapKept hg hexpired, rfl, trivial⟩

def HolderSucceeds (s : HostPoolManager) (a : Action) : Prop :=
  s.holderStep a = true ∧ a.Succeeds

theorem holderStep_eq (hg : s.guard = some guard) (a : Action) :
    s.holderStep a = guard.holderStep a := by rw [holderStep, hg]; rfl

theorem Effect.held (he : Effect cfg s a s') (hg : s.guard = some guard)
    (hown : guard.holderStep a = true) :
    s'.shutdown = s.shutdown ∧ (s'.issued = s.issued ∨ s'.guard = none) := by
  -- its holder neither moves the shutdown on nor draws more than one lease id
  cases he with
  | leaseTested
  | leaseUntested
  | shutdownStarted
  | drainedEmpty
  | drainTimeout
  | workersAborted
  | collected
  | collectedDropped
  | containersListed
  | listingFailed
  | forceInspected
  | forceSkipped
  | forceStopped
  | forceStopFailed
  | shutdownComplete => cases guard <;> cases hown
  | hostLeased => exact ⟨rfl, .inr rfl⟩
  | _ => exact ⟨rfl, .inl rfl⟩

theorem unlocked_reached (h : Run (system cfg) tr s) (hids : s.issued.length < 2 ^ 128) :
    ∃ s', (system cfg).Reaches HolderSucceeds s s' ∧ s'.shutdown = s.shutdown ∧
      s'.guard = none := by
  let I := fun s₁ : HostPoolManager => (∃ tr₁, Run (system cfg) tr₁ s₁) ∧
    s₁.shutdown = s.shutdown ∧ (s₁.guard ≠ none → s₁.issued.length < 2 ^ 128)
  have hdown : ∀ s₁, I s₁ → ¬ s₁.guard = none → ∃ s₂,
      (system cfg).Reaches HolderSucceeds s₁ s₂ ∧ I s₂ ∧ s₂.lockWork < s₁.lockWork := by
    rintro s₁ ⟨⟨tr₁, hr⟩, hstage, hids₁⟩ hheld
    obtain ⟨guard, hg⟩ := Option.ne_none_iff_exists'.mp hheld
    obtain ⟨a, s₂, he, hown, hok⟩ := (attended_run hr).goes_on (hids₁ hheld) hg
    obtain ⟨hkept, hdrawn⟩ := he.held hg hown
    refine ⟨s₂, .single (step_of_effect he) ⟨(holderStep_eq hg a).trans hown, hok⟩,
      ⟨⟨_, run_effect hr he⟩, hkept.trans hstage, fun hheld₂ => ?_⟩, he.work_less hg hown⟩
    rw [hdrawn.resolve_right hheld₂]
    exact hids₁ hheld
  obtain ⟨s', hreach, ⟨-, hstage, -⟩, hfree⟩ :=
    System.Reaches.of_measure lockWork hdown ⟨⟨tr, h⟩, rfl, fun _ => hids⟩
  exact ⟨s', hreach, hstage, hfree⟩

theorem lockWork_bound (h : Run (system cfg) tr s) :
    s.lockWork ≤ 4 * max cfg.maxInstances cfg.minInstances + 1 := by
  have hload := load_run h (Nat.le_max_left _ _) (Nat.le_max_right _ _)
  have hwork : s.lockWork ≤ 4 * s.guard.elim 0 Guard.reserved + 1 := by
    unfold lockWork
    cases s.guard with
    | none => exact Nat.zero_le _
    | some guard => exact guard.work_le
  unfold load at hload
  omega

/-- No critical section waits for another task, and none has more steps than the pool may
have hosts to spawn or to look at. -/
theorem lock_released (h : Run (system cfg) tr s) (hids : s.issued.length < 2 ^ 128) :
    (∃ s', (system cfg).Reaches HolderSucceeds s s' ∧ s'.guard = none) ∧
    ∀ tr' s', Run ((system cfg).startingAt s) tr' s' → (∀ p ∈ tr', p.1.guard ≠ none) →
      tr'.countP (fun p => p.1.holderStep p.2) ≤
        4 * max cfg.maxInstances cfg.minInstances + 1 := by
  refine ⟨?_, fun tr' s' hr' hheld => ?_⟩
  · obtain ⟨s', hreach, -, hfree⟩ := unlocked_reached h hids
    exact ⟨s', hreach, hfree⟩
  · have hcount := hr'.count_le (C := fun s _ => s.guard ≠ none) lockWork
      (fun p => p.1.holderStep p.2) (fun hne hs => (effect_of_step hs).lockWork_le hne) ?_ hheld
    · have hbound := lockWork_bound h
      change tr'.countP _ + s'.lockWork ≤ s.lockWork at hcount
      omega
    · intro s₁ a s₂ hne hs hown
      obtain ⟨guard, hg⟩ := Option.ne_none_iff_exists'.mp hne
      exact (effect_of_step hs).work_less hg ((holderStep_eq hg a).symm.trans hown)

theorem lock_released_scaling :
    ∃ tr s, Run (system GatewayConfig.small.poolConfig) tr s ∧ s.lockWork = 3 ∧
      (∃ s', (system GatewayConfig.small.poolConfig).Reaches HolderSucceeds s s' ∧
        s'.guard = none) ∧
      ∀ tr' s', Run ((system GatewayConfig.small.poolConfig).startingAt s) tr' s' →
        (∀ p ∈ tr', p.1.guard ≠ none) → tr'.countP (fun p => p.1.holderStep p.2) ≤ 9 := by
  obtain ⟨tr, s, ht, hwork, hids⟩ : ∃ tr s,
      (system GatewayConfig.small.poolConfig).trace [] (new GatewayConfig.small.poolConfig)
        [.lockScaling, .allocatePort, .startShutdown] = some (tr, s) ∧
      s.lockWork = 3 ∧ s.issued.length = 0 := ⟨_, _, rfl, rfl, rfl⟩
  have hr := Run.start.trace ht
  have hroom : s.issued.length < 2 ^ 128 := by
    rw [hids]
    decide
  exact ⟨tr, s, hr, hwork, lock_released hr hroom⟩

end HostPoolManager

end DockerizedLambda
