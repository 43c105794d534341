import DockerizedLambda.Pool.Daemon
import DockerizedLambda.Pool.Hosts

/-! What `spawn_new_host` returns, and what it leaves behind. Whatever way an attempt ends,
the port is released by its `Drop`; for the container there is no such guard. What Docker
has is up to the daemon: it may have carried out a call that fails, and may do so later. -/

namespace DockerizedLambda

open Transition

def Spawn.container : Spawn → Option ContainerId
  | .allocate => none
  | .create _ => none
  | .start _ containerId => some containerId
  | .inspect _ containerId => some containerId

def Guard.container : Guard → Option ContainerId
  | .spawning _ spawn => spawn.container
  | .returnHostInternal _ _ => none
  | .reapExpiredHosts _ _ _ => none

@[simp] theorem Spawner.next_container (caller : Spawner) :
    caller.next.bind Guard.container = none := by
  cases caller with
  | leaseHost => rfl
  | runScalingPolicy n => cases n <;> rfl

theorem Spawner.next_ne_self (caller : Spawner) (spawn : Spawn) :
    caller.next ≠ some (.spawning caller spawn) := by
  -- the loop counts down, so the same caller is never seen in two attempts
  cases caller with
  | leaseHost => exact nofun
  | runScalingPolicy n =>
    cases n with
    | zero => exact nofun
    | succ n =>
      intro he
      have hn := Spawner.runScalingPolicy.inj (Guard.spawning.inj (Option.some.inj he)).1
      omega

namespace HostPoolManager

def spawnResult (s : HostPoolManager) : Action → Option (Except PoolError HostInstance)
  | .allocatePort =>
    match s.guard, s.portManager.allocatePort.1 with
    | some (.spawning _ .allocate), .error e => some (.error (.portAllocation e))
    | _, _ => none
  | .createContainer (.error e) =>
    match s.guard with
    | some (.spawning _ (.create _)) => some (.error (.docker e))
    | _ => none
  | .createUnanswered _ e =>
    match s.guard with
    | some (.spawning _ (.create _)) => some (.error (.docker (.api e)))
    | _ => none
  | .startContainer (.error e) | .startUnanswered e =>
    match s.guard with
    | some (.spawning _ (.start _ _)) => some (.error (.docker (.api e)))
    | _ => none
  | .inspectContainer _ _ =>
    match s.guard with
    | some (.spawning _ (.inspect port containerId)) => some (.ok (.new containerId port s.clock))
    | _ => none
  | _ => none

/-- A container that is in Docker and will be in no host: its attempt ends here without one, or
the daemon creates it for a call that has been given up. -/
def leftBehind (s : HostPoolManager) : Action → Option ContainerId
  | .createUnanswered containerId _ => some containerId
  | .startContainer (.error _) | .startUnanswered _ => s.guard.bind Guard.container
  | .cancelSpawn => s.guard.bind Guard.container
  | .workerAborted .runScalingPolicy =>
    match s.guard with
    | some (.spawning (.runScalingPolicy _) spawn) => spawn.container
    | _ => none
  | .daemon (.creates _ containerId) => some containerId
  | _ => none

structure SpawnAttempt (cfg : PoolConfig) (earlier during : List (HostPoolManager × Action))
    (before s : HostPoolManager) (caller : Spawner) (spawn : Spawn) : Prop where
  reached : Run (system cfg) earlier before
  began : before.guard = some (.spawning caller .allocate)
  under : Run ((system cfg).startingAt before) during s
  kept : ∀ p ∈ during, ∃ spawn, p.1.guard = some (.spawning caller spawn)
  now : s.guard = some (.spawning caller spawn)

def CreatedSince (during : List (HostPoolManager × Action)) (spawn : Spawn) (c : ContainerId) :
    Prop :=
  spawn.container = some c ∨ ∃ port, .daemon (.creates port c) ∈ during.map Prod.snd

structure LeavesNothing (during : List (HostPoolManager × Action))
    (before last s : HostPoolManager) (spawn : Spawn) : Prop where
  port : ∀ port, spawn.port = some port →
    s.portManager.portRelease.messages = last.portManager.portRelease.messages ++ [port.port]
  old : ∀ c ∈ s.docker.present, c ∈ before.docker.present
  kept : ∀ c ∈ before.docker.present,
    c ∈ s.docker.present ∨ c ∈ outputs endedContainer during

/-- The daemon has not carried out a create call that fails, every container that it has
created since the attempt began is gone again, and the channel takes the port. -/
structure NothingLeft (during : List (HostPoolManager × Action)) (last : HostPoolManager)
    (a : Action) (spawn : Spawn) : Prop where
  uncreated : ∀ c e, a ≠ .createUnanswered c e
  gone : ∀ c, CreatedSince during spawn c → .daemon (.ends c) ∈ during.map Prod.snd
  port : spawn.port ≠ none → last.portManager.portRelease.accepts = true

variable {cfg : PoolConfig} {s s' : HostPoolManager} {a : Action}
  {tr : List (HostPoolManager × Action)}

theorem spawnResult_eq_ok {host : HostInstance} (h : spawnResult s a = some (.ok host)) :
    ∃ caller port, s.guard = some (.spawning caller (.inspect port host.containerId)) ∧
      host = .new host.containerId port s.clock := by
  unfold spawnResult at h
  split at h
  · split at h <;> simp at h
  · split at h <;> simp at h
  · split at h <;> simp at h
  · split at h <;> simp at h
  · split at h <;> simp at h
  · split at h
    next caller port containerId hg =>
      obtain rfl := Except.ok.inj (Option.some.inj h)
      exact ⟨caller, port, hg, rfl⟩
    next => cases h
  · cases h

structure Attempted (during : List (HostPoolManager × Action)) (before s : HostPoolManager)
    (spawn : Spawn) : Prop where
  grown : before.docker.ids ⊆ s.docker.ids
  fresh : ∀ c, CreatedSince during spawn c → c ∉ before.docker.ids
  old : ∀ c ∈ s.docker.present, c ∈ before.docker.present ∨ CreatedSince during spawn c
  kept : ∀ c ∈ before.docker.present,
    c ∈ s.docker.present ∨ c ∈ outputs endedContainer during
  ended : ∀ c, .daemon (.ends c) ∈ during.map Prod.snd → c ∈ s.docker.ids
  unstarted : (∀ port c, spawn ≠ .inspect port c) → ∀ c, CreatedSince during spawn c →
    s.Unstarted c ∧ (c ∈ s.docker.present ↔ .daemon (.ends c) ∉ during.map Prod.snd)

theorem Effect.attempt_cases (he : Effect cfg s a s') {caller : Spawner} {spawn spawn' : Spawn}
    (hg : s.guard = some (.spawning caller spawn))
    (hg' : s'.guard = some (.spawning caller spawn')) :
    (spawn' = spawn ∧ ∀ c, createdContainer a = some c → ∃ port, a = .daemon (.creates port c)) ∨
    spawn.container = none ∧ spawn'.container = createdContainer a ∨
    ∃ port c, spawn = .start port c ∧ spawn' = .inspect port c ∧ createdContainer a = none := by
  cases he with
  | portAllocated hguard =>
    obtain ⟨rfl, rfl⟩ := Guard.spawning.inj (Option.some.inj (hguard.symm.trans hg))
    obtain ⟨_, rfl⟩ := Guard.spawning.inj (Option.some.inj hg')
    exact .inr (.inl ⟨rfl, rfl⟩)
  | created hguard =>
    obtain ⟨rfl, rfl⟩ := Guard.spawning.inj (Option.some.inj (hguard.symm.trans hg))
    obtain ⟨_, rfl⟩ := Guard.spawning.inj (Option.some.inj hg')
    exact .inr (.inl ⟨rfl, rfl⟩)
  | started hguard =>
    obtain ⟨rfl, rfl⟩ := Guard.spawning.inj (Option.some.inj (hguard.symm.trans hg))
    obtain ⟨_, rfl⟩ := Guard.spawning.inj (Option.some.inj hg')
    exact .inr (.inr ⟨_, _, rfl, rfl, rfl⟩)
  | portsExhausted hguard
  | createFailed hguard
  | createdUnanswered hguard
  | startFailed hguard
  | startedUnanswered hguard
  | hostAdded hguard =>
    obtain ⟨rfl, rfl⟩ := Guard.spawning.inj (Option.some.inj (hguard.symm.trans hg))
    exact absurd hg' (Spawner.next_ne_self _ _)
  | leaseSpawning _ hguard
  | scalingSpawning _ hguard => exact absurd (hguard.symm.trans hg) nofun
  | @daemonActed event =>
    obtain ⟨_, rfl⟩ := Guard.spawning.inj (Option.some.inj (hg.symm.trans hg'))
    refine .inl ⟨rfl, fun c hc => ?_⟩
    cases event with
    | creates port id =>
      obtain rfl := Option.some.inj hc
      exact ⟨port, rfl⟩
    | _ => cases hc
  | _ =>
    first
    | cases hg'
    | obtain ⟨_, rfl⟩ := Guard.spawning.inj (Option.some.inj (hg.symm.trans hg'))
      exact .inl ⟨rfl, nofun⟩

theorem createdSince_next (he : Effect cfg s a s') (during : List (HostPoolManager × Action))
    {caller : Spawner} {spawn spawn' : Spawn} (hg : s.guard = some (.spawning caller spawn))
    (hg' : s'.guard = some (.spawning caller spawn')) {c : ContainerId} :
    CreatedSince ((s, a) :: during) spawn' c ↔
      CreatedSince during spawn c ∨ createdContainer a = some c := by
  have hlate : (∃ port, .daemon (.creates port c) ∈ ((s, a) :: during).map Prod.snd) ↔
      (∃ port, a = .daemon (.creates port c)) ∨
        ∃ port, .daemon (.creates port c) ∈ during.map Prod.snd := by
    simp only [List.map_cons, List.mem_cons, exists_or, eq_comm]
  have hcreated : (∃ port, a = .daemon (.creates port c)) → createdContainer a = some c := by
    rintro ⟨port, rfl⟩
    rfl
  simp only [CreatedSince, hlate]
  rcases he.attempt_cases hg hg' with ⟨rfl, hdaemon⟩ | ⟨hnone, hnew⟩ | ⟨port, id, rfl, rfl, hnone⟩
  · have hiff : (∃ port, a = .daemon (.creates port c)) ↔ createdContainer a = some c :=
      ⟨hcreated, hdaemon c⟩
    rw [hiff, or_comm (a := createdContainer a = some c), ← or_assoc]
  · rw [hnone, hnew]
    constructor
    · rintro (h | h | h)
      · exact .inr h
      · exact .inr (hcreated h)
      · exact .inl (.inr h)
    · rintro ((h | h) | h)
      · cases h
      · exact .inr (.inr h)
      · exact .inl h
  · rw [hnone] at hcreated ⊢
    constructor
    · rintro (h | h | h)
      · exact .inl (.inl h)
      · exact .inr (hcreated h)
      · exact .inl (.inr h)
    · rintro ((h | h) | h)
      · exact .inl h
      · exact .inr (.inr h)
      · cases h

theorem start_known (h : Run (system cfg) tr s) {c : ContainerId}
    (hcall : s.Starting c ∨ .start c ∈ s.docker.abandoned) : c ∈ s.docker.ids := by
  have hstarting : ∀ {tr s}, Run (system cfg) tr s → s.Starting c → c ∈ s.docker.ids := by
    rintro tr s hr ⟨caller, port, hg⟩
    refine (sound_run hr).known c (List.mem_append_left _ ?_)
    rw [Resources.spawningIds, spawning_of_guard hg]
    exact List.mem_cons_self
  have habandoned : .start c ∈ s.docker.abandoned → c ∈ s.docker.ids := by
    refine h.invariant (I := fun s => .start c ∈ s.docker.abandoned → c ∈ s.docker.ids)
      (fun hcall => absurd hcall List.not_mem_nil) ?_
    intro tr s a s' hr hi hs hcall
    have he := effect_of_step hs
    rcases he.abandoned_cases hcall with hcall | ⟨hcall, -⟩
    · exact he.ids_mono (hi hcall)
    · exact he.ids_mono (hstarting hr hcall)
  exact hcall.elim (hstarting h) habandoned

theorem Effect.created_unstarted (he : Effect cfg s a s') (h : Run (system cfg) tr s)
    {c : ContainerId} (hc : createdContainer a = some c) :
    c ∉ s.docker.ids ∧ c ∈ s'.docker.present ∧ s'.Unstarted c := by
  obtain ⟨hfresh, port, hcontainers⟩ := he.created_spec hc
  have hnew : ⟨c, port, .created⟩ ∈ s'.docker.containers := by
    rw [hcontainers]
    exact List.mem_cons_self
  refine ⟨hfresh, Docker.mem_present.mpr ⟨_, hnew, rfl, rfl⟩,
    List.mem_map_of_mem (f := Container.id) hnew, fun hcall => ?_, fun k hk hid => ?_⟩
  · rcases he.abandoned_cases hcall with hcall | ⟨hcall, -⟩
    · exact hfresh (start_known h (.inr hcall))
    · exact hfresh (start_known h (.inl hcall))
  · rw [hcontainers] at hk
    rcases List.mem_cons.mp hk with rfl | hk
    · rfl
    · exact absurd (hid ▸ List.mem_map_of_mem (f := Container.id) hk) hfresh

theorem Attempted.next {earlier during : List (HostPoolManager × Action)}
    {before : HostPoolManager} {caller : Spawner} {spawn spawn' : Spawn}
    (h : Attempted during before s spawn) (hr : Run (system cfg) earlier s)
    (he : Effect cfg s a s') (hg : s.guard = some (.spawning caller spawn))
    (hg' : s'.guard = some (.spawning caller spawn')) :
    Attempted ((s, a) :: during) before s' spawn' := by
  have hsince := fun {c : ContainerId} => createdSince_next he during (c := c) hg hg'
  refine ⟨fun _ hc => he.ids_mono (h.grown hc), fun c hc => ?_, fun c hc => ?_, fun c hc => ?_,
    fun c hc => ?_, fun hinspect c hc => ?_⟩
  · rcases hsince.mp hc with hc | hc
    · exact h.fresh c hc
    · exact fun hold => (he.created_spec hc).1 (h.grown hold)
  · rcases he.present_cases hc with hc | ⟨hc, -⟩
    · exact (h.old c hc).imp_right fun hc => hsince.mpr (.inl hc)
    · exact .inr (hsince.mpr (.inr hc))
  · rw [outputs, List.mem_append]
    rcases h.kept c hc with hc | hc
    · exact (he.present_kept hc).imp_right fun hend => .inr (Option.mem_toList.mpr hend)
    · exact .inr (.inl hc)
  · rcases List.mem_cons.mp hc with rfl | hc
    · exact he.ids_mono (Docker.present_subset_ids _ he.ends_present)
    · exact he.ids_mono (h.ended c hc)
  · have hnotyet : ∀ port c, spawn ≠ .inspect port c := by
      rcases he.attempt_cases hg hg' with ⟨rfl, -⟩ | ⟨hnone, -⟩ | ⟨port, id, -, rfl, -⟩
      · exact hinspect
      · rintro port c rfl
        cases hnone
      · exact absurd rfl (hinspect port id)
    rcases hsince.mp hc with hc | hc
    · obtain ⟨hunstarted, hpresent⟩ := h.unstarted hnotyet c hc
      refine ⟨he.unstarted hunstarted fun hstarting => ?_, ?_⟩
      · obtain ⟨_, port, hstart⟩ := hstarting
        obtain ⟨rfl, rfl⟩ := Guard.spawning.inj (Option.some.inj (hg.symm.trans hstart))
        rcases he.attempt_cases hg hg' with ⟨rfl, -⟩ | ⟨hnone, -⟩ | ⟨_, _, -, rfl, -⟩
        · exact ⟨_, _, hg'⟩
        · cases hnone
        · exact absurd rfl (hinspect _ _)
      · rw [he.unstarted_present hunstarted, hpresent, List.map_cons, List.mem_cons, not_or,
          ne_comm]
    · obtain ⟨hfresh, hpresent, hunstarted⟩ := he.created_unstarted hr hc
      refine ⟨hunstarted, iff_of_true hpresent fun hends => ?_⟩
      rcases List.mem_cons.mp hends with rfl | hends
      · cases hc
      · exact hfresh (h.ended c hends)

theorem attempted {earlier during : List (HostPoolManager × Action)} {before : HostPoolManager}
    {caller : Spawner} {spawn : Spawn}
    (h : SpawnAttempt cfg earlier during before s caller spawn) :
    Attempted during before s spawn := by
  obtain ⟨hreached, hbegan, hunder, hkept, hnow⟩ := h
  induction hunder generalizing spawn with
  | start =>
    obtain ⟨_, rfl⟩ := Guard.spawning.inj (Option.some.inj (hbegan.symm.trans hnow))
    have hnone : ∀ c, ¬ CreatedSince [] .allocate c := by
      rintro c (hc | ⟨port, hc⟩) <;> cases hc
    exact ⟨List.Subset.refl _, fun c hc => absurd hc (hnone c), fun c => .inl, fun c => .inl,
      nofun, fun _ c hc => absurd hc (hnone c)⟩
  | next hr hs ih =>
    obtain ⟨spawn₀, hg⟩ := hkept _ List.mem_cons_self
    have hbefore := ih (fun p hp => hkept p (List.mem_cons_of_mem _ hp)) hg
    exact hbefore.next (hreached.append hr) (effect_of_step hs) hg hnow

theorem drop_messages {m : PortManager} (hopen : m.portRelease.closed = false)
    (port : AllocatedPort) :
    (m.drop port).portRelease.messages = m.portRelease.messages ++ [port.port] ↔
      m.portRelease.accepts = true := by
  -- a dropped port is on its way back just when the channel takes it
  have haccepts : m.portRelease.accepts = true ↔
      m.portRelease.messages.length < portReleaseChannelCapacity :=
    Channel.accepts_iff.trans (and_iff_right hopen)
  rcases PortManager.drop_cases hopen port with ⟨hroom, c, hsend, hd⟩ | ⟨hsend, hd⟩
  · rw [hd]
    exact iff_of_true (Channel.trySend_ok hsend).2.2.1 (haccepts.mpr hroom)
  · rw [hd]
    refine iff_of_false (fun he => ?_) fun ha => ?_
    · have hlength := congrArg List.length he
      simp at hlength
    · obtain ⟨_, hsent⟩ := Channel.trySend_room port.port hopen (haccepts.mp ha)
      exact absurd (hsent.symm.trans hsend) nofun

theorem Effect.failed_cases (he : Effect cfg s a s') {caller : Spawner} {spawn : Spawn}
    {error : PoolError} (hg : s.guard = some (.spawning caller spawn))
    (hfail : spawnResult s a = some (.error error)) :
    spawn = .allocate ∧ (∀ c e, a ≠ .createUnanswered c e) ∧
      s'.docker.present = s.docker.present ∨
    ∃ port, spawn.port = some port ∧ (∀ p c, spawn ≠ .inspect p c) ∧
      s'.portManager = s.portManager.drop port ∧
      ((∀ c e, a ≠ .createUnanswered c e) ∧ s'.docker.present = s.docker.present ∨
        ∃ c e, a = .createUnanswered c e ∧ createdContainer a = some c ∧
          c ∈ s'.docker.present) := by
  cases he with
  | portsExhausted hguard =>
    obtain ⟨rfl, rfl⟩ := Guard.spawning.inj (Option.some.inj (hguard.symm.trans hg))
    exact .inl ⟨rfl, nofun, rfl⟩
  | createFailed hguard =>
    obtain ⟨rfl, rfl⟩ := Guard.spawning.inj (Option.some.inj (hguard.symm.trans hg))
    exact .inr ⟨_, rfl, nofun, rfl,
      .inl ⟨nofun, Docker.present_congr (s.docker.containers_createFailed _ _)⟩⟩
  | createdUnanswered hguard =>
    obtain ⟨rfl, rfl⟩ := Guard.spawning.inj (Option.some.inj (hguard.symm.trans hg))
    exact .inr ⟨_, rfl, nofun, rfl, .inr ⟨_, _, rfl, rfl, List.mem_cons_self⟩⟩
  | startFailed hguard =>
    obtain ⟨rfl, rfl⟩ := Guard.spawning.inj (Option.some.inj (hguard.symm.trans hg))
    exact .inr ⟨_, rfl, nofun, rfl, .inl ⟨nofun, rfl⟩⟩
  | startedUnanswered hguard =>
    obtain ⟨rfl, rfl⟩ := Guard.spawning.inj (Option.some.inj (hguard.symm.trans hg))
    exact .inr ⟨_, rfl, nofun, rfl,
      .inl ⟨nofun, Docker.present_update ContainerStatus.isPresent_start⟩⟩
  | portAllocated hguard hport => simp [spawnResult, hguard, hport] at hfail
  | hostLeased hguard
  | hostAdded hguard => simp [spawnResult, hguard] at hfail
  | _ => cases hfail

theorem failed_attempt_clean {earlier during : List (HostPoolManager × Action)}
    {before : HostPoolManager} {caller : Spawner} {spawn : Spawn} {error : PoolError}
    (h : SpawnAttempt cfg earlier during before s caller spawn) (he : Effect cfg s a s')
    (hfail : spawnResult s a = some (.error error)) :
    LeavesNothing during before s s' spawn ↔ NothingLeft during s a spawn := by
  have hatt := attempted h
  have hopen := (sound_run (h.reached.append h.under)).conserved.opened
  have hinspect : ∀ port c, spawn ≠ .inspect port c := by
    rcases he.failed_cases h.now hfail with ⟨rfl, -⟩ | ⟨port, -, hinspect, -⟩
    · exact nofun
    · exact hinspect
  have hports : ∀ port, spawn.port = some port →
      (s'.portManager.portRelease.messages = s.portManager.portRelease.messages ++ [port.port] ↔
        s.portManager.portRelease.accepts = true) := by
    intro port hport
    rcases he.failed_cases h.now hfail with ⟨rfl, -⟩ | ⟨held, hheld, -, hdropped, -⟩
    · cases hport
    · obtain rfl := Option.some.inj (hport.symm.trans hheld)
      rw [hdropped]
      exact drop_messages hopen port
  have hdocker : (∀ c e, a ≠ .createUnanswered c e) ∧ s'.docker.present = s.docker.present ∨
      ∃ c e, a = .createUnanswered c e ∧ createdContainer a = some c ∧
        c ∈ s'.docker.present := by
    rcases he.failed_cases h.now hfail with ⟨-, hkept⟩ | ⟨_, -, -, -, hcases⟩
    · exact .inl hkept
    · exact hcases
  constructor
  · intro hclean
    have hold : ∀ c, c ∈ s'.docker.present → c ∈ before.docker.ids := fun c hc =>
      Docker.present_subset_ids _ (hclean.old c hc)
    have huncreated : (∀ c e, a ≠ .createUnanswered c e) ∧
        s'.docker.present = s.docker.present := by
      refine hdocker.resolve_right ?_
      rintro ⟨c, e, -, hc, hpresent⟩
      exact (he.created_spec hc).1 (hatt.grown (hold c hpresent))
    refine ⟨huncreated.1, fun c hc => ?_, fun hport => ?_⟩
    · by_contra hends
      have hpresent := (hatt.unstarted hinspect c hc).2.mpr hends
      exact hatt.fresh c hc (hold c (huncreated.2 ▸ hpresent))
    · obtain ⟨port, hport⟩ := Option.ne_none_iff_exists'.mp hport
      exact (hports port hport).mp (hclean.port port hport)
  · intro hnothing
    have hkept : s'.docker.present = s.docker.present := by
      rcases hdocker with ⟨-, hkept⟩ | ⟨c, e, ha, -⟩
      · exact hkept
      · exact absurd ha (hnothing.uncreated c e)
    refine ⟨fun port hport => ?_, fun c hc => ?_, fun c hc => ?_⟩
    · exact (hports port hport).mpr (hnothing.port (by rw [hport]; exact nofun))
    · rw [hkept] at hc
      refine (hatt.old c hc).resolve_right fun hsince => ?_
      exact (hatt.unstarted hinspect c hsince).2.mp hc (hnothing.gone c hsince)
    · rw [hkept]
      exact hatt.kept c hc

theorem Effect.spawning_container (he : Effect cfg s a s') {c : ContainerId}
    (hc : s'.guard.bind Guard.container = some c) :
    s.guard.bind Guard.container = some c ∨ c ∉ s.docker.ids := by
  -- a container under construction is one that Docker did not have before
  cases he with
  | created _ _ hfresh =>
    obtain rfl := Option.some.inj hc
    exact .inr hfresh
  | started hguard =>
    obtain rfl := Option.some.inj hc
    exact .inl (by rw [hguard]; rfl)
  | portsExhausted
  | createFailed
  | createdUnanswered
  | startFailed
  | startedUnanswered
  | hostAdded =>
    rw [Spawner.next_container] at hc
    cases hc
  | _ => first | exact .inl hc | cases hc

def Ledger (s : HostPoolManager) (lost : List ContainerId) : Prop :=
  s.docker.ids.Perm ((s.guard.bind Guard.container).toList ++ (s.spawned ++ lost))

theorem Effect.ledger (he : Effect cfg s a s') {lost : List ContainerId} (h : s.Ledger lost) :
    s'.Ledger (lost ++ (leftBehind s a).toList) := by
  have hcount := fun x => h.count_eq x
  have hkept : s'.docker.ids = s.docker.ids →
      s'.guard.bind Guard.container = s.guard.bind Guard.container → s'.spawned = s.spawned →
      leftBehind s a = none → s'.Ledger (lost ++ (leftBehind s a).toList) := by
    intro hids hguard hspawned hleft
    rwa [Ledger, hids, hguard, hspawned, hleft, Option.toList_none, List.append_nil]
  -- an attempt that ends with the container it may have, and without a host
  have hended : s'.docker.ids = s.docker.ids → s'.guard.bind Guard.container = none →
      s'.spawned = s.spawned → leftBehind s a = s.guard.bind Guard.container →
      s'.Ledger (lost ++ (leftBehind s a).toList) := by
    intro hids hguard hspawned hleft
    unfold Ledger
    rw [List.perm_iff_count]
    intro x
    have hx := hcount x
    simp only [hids, hguard, hspawned, hleft, Option.toList_none, List.count_append,
      List.count_nil] at hx ⊢
    omega
  -- a container that no attempt will have to do with
  have hstray : ∀ c, s'.docker.ids = c :: s.docker.ids →
      s'.guard.bind Guard.container = s.guard.bind Guard.container → s'.spawned = s.spawned →
      leftBehind s a = some c → s'.Ledger (lost ++ (leftBehind s a).toList) := by
    intro c hids hguard hspawned hleft
    unfold Ledger
    rw [List.perm_iff_count]
    intro x
    have hx := hcount x
    simp only [hids, hguard, hspawned, hleft, Option.toList_some, List.count_append,
      List.count_cons, List.count_nil] at hx ⊢
    omega
  have hwrapped : ∀ c, s.guard.bind Guard.container = some c → s'.docker.ids = s.docker.ids →
      s'.guard.bind Guard.container = none → s'.spawned = c :: s.spawned →
      leftBehind s a = none → s'.Ledger (lost ++ (leftBehind s a).toList) := by
    intro c hc hids hguard hspawned hleft
    rw [Ledger, hids, hguard, hspawned, hleft, Option.toList_none, List.append_nil]
    rwa [Ledger, hc] at h
  have hidle : s.guard.bind Guard.container = none → s'.docker.ids = s.docker.ids →
      s'.guard.bind Guard.container = none → s'.spawned = s.spawned → leftBehind s a = none →
      s'.Ledger (lost ++ (leftBehind s a).toList) := fun hnone hids hguard hspawned hleft =>
    hkept hids (hguard.trans hnone.symm) hspawned hleft
  cases he with
  | leaseTested _ hguard
  | leaseUntested _ hguard
  | leaseSpawning _ hguard
  | returnChecking _ _ hguard
  | reapLocked _ hguard
  | scalingSpawning _ hguard
  | portAllocated hguard
  | hostReturned hguard
  | hostGone hguard
  | reapExpired hguard
  | reapKept hguard
  | reapUnlocked hguard
  | returnsTornDownHolding _ _ hguard => exact hidle (hguard ▸ rfl) rfl rfl rfl rfl
  | portsExhausted hguard =>
    exact hidle (hguard ▸ rfl) rfl (Spawner.next_container _) rfl rfl
  | createFailed hguard =>
    exact hidle (hguard ▸ rfl) (Docker.ids_congr (s.docker.containers_createFailed _ _))
      (Spawner.next_container _) rfl rfl
  | @createdUnanswered caller _ c _ hguard =>
    exact hstray c rfl (caller.next_container.trans (hguard ▸ rfl)) rfl rfl
  | startFailed => exact hended rfl (Spawner.next_container _) rfl rfl
  | startedUnanswered =>
    exact hended (Docker.ids_update _ _ _) (Spawner.next_container _) rfl rfl
  | cancelSpawn =>
    exact hended (Docker.ids_congr (Docker.containers_elim_abandon _ _)) rfl rfl rfl
  | scalingTornDownHolding _ _ hguard =>
    exact hended (Docker.ids_congr (Docker.containers_elim_abandon _ _)) rfl rfl
      (by simp only [leftBehind, hguard, Option.bind_some, Guard.container])
  | scalingTornDown _ _ hguard => exact hkept rfl rfl rfl (by simp only [leftBehind])
  | @created _ _ c hguard =>
    have hids : s.docker.ids.Perm (s.spawned ++ lost) := by
      rwa [Ledger, hguard] at h
    change (c :: s.docker.ids).Perm (c :: (s.spawned ++ (lost ++ [])))
    rw [List.append_nil]
    exact hids.cons c
  | started hguard => exact hkept (Docker.ids_update _ _ _) (hguard ▸ rfl) rfl rfl
  | hostLeased hguard => exact hwrapped _ (hguard ▸ rfl) rfl rfl rfl rfl
  | hostAdded hguard =>
    exact hwrapped _ (hguard ▸ rfl) rfl (Spawner.next_container _) rfl rfl
  | cleanupStopped
  | forceStopped => exact hkept (Docker.ids_update _ _ _) rfl rfl rfl
  | @daemonActed event docker hact =>
    rcases Docker.act_cases hact with ⟨port, c, rfl, -, h⟩ | ⟨id, rfl, -, h⟩ | ⟨id, rfl, h⟩
    · exact hstray c (congrArg (List.map Container.id) h) rfl rfl rfl
    · exact hkept ((Docker.ids_congr h).trans (Docker.ids_update _ _ _)) rfl rfl rfl
    · exact hkept ((Docker.ids_congr h).trans (Docker.ids_update _ _ _)) rfl rfl rfl
  | _ => exact hkept rfl rfl rfl rfl

theorem ledger_run (h : Run (system cfg) tr s) : s.Ledger (outputs leftBehind tr) := by
  induction h with
  | start => exact List.Perm.refl _
  | next _ hs ih => exact (effect_of_step hs).ledger ih

def ContainersWrapped (s : HostPoolManager) : Prop :=
  s.docker.ids.Perm ((s.guard.bind Guard.container).toList ++ s.spawned)

theorem wrapped_iff (h : Run (system cfg) tr s) :
    s.ContainersWrapped ↔ ∀ p ∈ tr, leftBehind p.1 p.2 = none := by
  have hledger := ledger_run h
  rw [← outputs_eq_nil]
  constructor
  · intro hwrapped
    have hlength := hledger.length_eq.symm.trans hwrapped.length_eq
    simp only [List.length_append] at hlength
    exact List.eq_nil_of_length_eq_zero (by omega)
  · intro hnone
    rwa [Ledger, hnone, List.append_nil] at hledger

/-- The attempt that fails with the latest step has left nothing behind just when its calls and
the daemon have left nothing; and every container created has become a host just when no step
has left one behind. -/
theorem failed_spawns_clean (h : Run (system cfg) tr s) :
    (∀ earlier during before last a caller spawn error, tr = (last, a) :: (during ++ earlier) →
      SpawnAttempt cfg earlier during before last caller spawn →
      spawnResult last a = some (.error error) →
        (LeavesNothing during before last s spawn ↔ NothingLeft during last a spawn)) ∧
    (s.ContainersWrapped ↔ ∀ p ∈ tr, leftBehind p.1 p.2 = none) := by
  refine ⟨?_, wrapped_iff h⟩
  rintro earlier during before last a caller spawn error rfl hattempt hfail
  cases h with
  | next _ hs => exact failed_attempt_clean hattempt (effect_of_step hs) hfail

def noSuchImage : DockerError := .api (.dockerResponseServerError 404 "No such image")

theorem failed_spawns_clean_after_create_error :
    ∃ earlier before last s,
      Run (system { GatewayConfig.small with minInstances := 2 }.poolConfig)
        ((last, .createContainer (.error noSuchImage)) ::
          ([(before, .allocatePort)] ++ earlier)) s ∧
      SpawnAttempt { GatewayConfig.small with minInstances := 2 }.poolConfig earlier
        [(before, .allocatePort)] before last (.runScalingPolicy 1) (.create ⟨8081⟩) ∧
      s.guard = some (.spawning (.runScalingPolicy 0) .allocate) ∧
      LeavesNothing [(before, .allocatePort)] before last s (.create ⟨8081⟩) ∧
      s.ContainersWrapped := by
  obtain ⟨before, last, s, ht, hbegan, hnow, hfail, haccepts, hg⟩ : ∃ before last s,
      (system { GatewayConfig.small with minInstances := 2 }.poolConfig).trace []
        (new { GatewayConfig.small with minInstances := 2 }.poolConfig)
        [.lockScaling, .allocatePort, .createContainer (.error noSuchImage)] =
        some ([(last, .createContainer (.error noSuchImage)), (before, .allocatePort),
          (new { GatewayConfig.small with minInstances := 2 }.poolConfig, .lockScaling)], s) ∧
      before.guard = some (.spawning (.runScalingPolicy 1) .allocate) ∧
      last.guard = some (.spawning (.runScalingPolicy 1) (.create ⟨8081⟩)) ∧
      spawnResult last (.createContainer (.error noSuchImage)) =
        some (.error (.docker noSuchImage)) ∧
      last.portManager.portRelease.accepts = true ∧
      s.guard = some (.spawning (.runScalingPolicy 0) .allocate) :=
    ⟨_, _, _, rfl, rfl, rfl, rfl, rfl, rfl⟩
  have hr := Run.start.trace ht
  cases hr with
  | next hr₁ hs =>
  cases hr₁ with
  | next hr₂ hs₁ =>
  have hattempt : SpawnAttempt _ _ [(before, .allocatePort)] before last (.runScalingPolicy 1)
      (.create ⟨8081⟩) :=
    ⟨hr₂, hbegan, Run.start.next hs₁, List.forall_mem_singleton.mpr ⟨_, hbegan⟩, hnow⟩
  have hrun := (hr₂.next hs₁).next hs
  obtain ⟨hclean, hwrapped⟩ := failed_spawns_clean hrun
  refine ⟨_, before, last, s, hrun, hattempt, hg, ?_, ?_⟩
  · refine (hclean _ _ _ _ _ _ _ _ rfl hattempt hfail).mpr ⟨nofun, ?_, fun _ => haccepts⟩
    rintro c (hc | ⟨port, hc⟩)
    · cases hc
    · simp at hc
  · refine hwrapped.mpr ?_
    simp only [List.forall_mem_cons]
    exact ⟨rfl, rfl, rfl, List.forall_mem_nil _⟩

theorem container_left_behind :
    ∃ earlier during before last s,
      Run (system GatewayConfig.small.poolConfig)
        ((last, .startUnanswered (.transport "connection reset")) :: (during ++ earlier)) s ∧
      SpawnAttempt GatewayConfig.small.poolConfig earlier during before last (.leaseHost 0)
        (.start ⟨8081⟩ "c1") ∧
      s.returned = [(0, .error (.docker (.api (.transport "connection reset"))))] ∧
      s.portManager.portRelease.messages = [8081] ∧
      s.docker.containers = [⟨"c1", 8081, .started⟩] ∧ s.spawned = [] ∧ s.guard = none ∧
      ¬ LeavesNothing during before last s (.start ⟨8081⟩ "c1") ∧ ¬ s.ContainersWrapped := by
  obtain ⟨u₁, u₂, u₃, last, s, ht, hbegan, hcreate, hnow, hreturned, hport, hbefore, hcontainers,
      hspawned, hg⟩ : ∃ u₁ u₂ u₃ last s,
      (system GatewayConfig.small.poolConfig).trace [] (new GatewayConfig.small.poolConfig)
        [.leaseHost 0, .leaseHostLocked 0 1, .allocatePort, .createContainer (.ok "c1"),
          .startUnanswered (.transport "connection reset")] =
        some ([(last, .startUnanswered (.transport "connection reset")),
          (u₃, .createContainer (.ok "c1")), (u₂, .allocatePort), (u₁, .leaseHostLocked 0 1),
          (new GatewayConfig.small.poolConfig, .leaseHost 0)], s) ∧
      u₂.guard = some (.spawning (.leaseHost 0) .allocate) ∧
      u₃.guard = some (.spawning (.leaseHost 0) (.create ⟨8081⟩)) ∧
      last.guard = some (.spawning (.leaseHost 0) (.start ⟨8081⟩ "c1")) ∧
      s.returned = [(0, .error (.docker (.api (.transport "connection reset"))))] ∧
      s.portManager.portRelease.messages = [8081] ∧ u₂.docker.containers = [] ∧
      s.docker.containers = [⟨"c1", 8081, .started⟩] ∧ s.spawned = [] ∧ s.guard = none :=
    ⟨_, _, _, _, _, rfl, rfl, rfl, rfl, rfl, rfl, rfl, rfl, rfl, rfl⟩
  have hr := Run.start.trace ht
  cases hr with
  | next hr₃ hs =>
  cases hr₃ with
  | next hr₂ hs₃ =>
  cases hr₂ with
  | next hr₁ hs₂ =>
  refine ⟨_, [(u₃, .createContainer (.ok "c1")), (u₂, .allocatePort)], u₂, last, s,
    ((hr₁.next hs₂).next hs₃).next hs, ?_, hreturned, hport, hcontainers, hspawned, hg, ?_, ?_⟩
  · refine ⟨hr₁, hbegan, (Run.start.next hs₂).next hs₃, ?_, hnow⟩
    exact List.forall_mem_cons.mpr ⟨⟨_, hcreate⟩, List.forall_mem_singleton.mpr ⟨_, hbegan⟩⟩
  · intro hclean
    have hold := hclean.old "c1" (by rw [Docker.present, hcontainers]; exact List.mem_cons_self)
    rw [Docker.present, hbefore] at hold
    cases hold
  · intro hwrapped
    have hlength := hwrapped.length_eq
    rw [Docker.ids, hcontainers, hspawned, hg] at hlength
    cases hlength

end HostPoolManager

end DockerizedLambda
