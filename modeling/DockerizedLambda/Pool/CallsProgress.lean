import DockerizedLambda.Pool.Calls
import DockerizedLambda.Pool.Progress
import Mathlib.Algebra.BigOperators.Group.List.Basic

/-! No call of `lease_host` is stuck. It waits for the lock, whose holder can always go on, for
a health check of its own host, and for nothing else. -/

namespace DockerizedLambda

open Transition

def LeaseStage.work : LeaseStage → Nat
  | .lockWait => 17
  | .readyWait _ _ _ attempt => 2 + (readyMaxAttempts - attempt)
  | .relockWait _ _ _ _ => 1

def LeaseStage.draws : LeaseStage → Nat
  | .lockWait => 1
  | _ => 0

def LeaseCall.total (f : LeaseStage → Nat) (calls : List LeaseCall) : Nat :=
  (calls.map fun call => f call.stage).sum

theorem LeaseStage.work_pos (stage : LeaseStage) : 0 < stage.work := by
  cases stage with
  | lockWait
  | relockWait => exact Nat.succ_pos _
  | readyWait =>
    rw [work]
    omega

theorem LeaseStage.draws_le (stage : LeaseStage) : stage.draws ≤ 1 := by
  cases stage with
  | lockWait => exact le_rfl
  | readyWait
  | relockWait => exact Nat.zero_le _

namespace HostPoolManager

variable {cfg : PoolConfig} {s s' : HostPoolManager} {a : Action} {guard : Guard}
  {tr : List (HostPoolManager × Action)}

def Action.ofCall : Action → Bool
  | .leaseHostLocked _ _ => true
  | .healthChecked _ _ => true
  | .leaseHostRelocked _ => true
  | _ => false

def CallGoesOn (probes : HostPoolManager → LeaseCall → Probe) (s : HostPoolManager)
    (a : Action) : Prop :=
  a.Succeeds ∧ (a.ofCall = true ∨ s.holderStep a = true) ∧
    ∀ call probe, a = .healthChecked call probe → probe = probes s call

def spawningCalls (s : HostPoolManager) : Nat := (s.guard.bind Guard.request).toList.length

def callsWork (s : HostPoolManager) : Nat :=
  LeaseCall.total LeaseStage.work s.calls + (12 * s.spawningCalls + s.lockWork)

def idsNeeded (s : HostPoolManager) : Nat :=
  s.issued.length + (LeaseCall.total LeaseStage.draws s.calls + s.spawningCalls)

theorem total_erase (f : LeaseStage → Nat) {call : LeaseCall} {calls : List LeaseCall}
    (hcall : call ∈ calls) :
    f call.stage + LeaseCall.total f (calls.erase call) = LeaseCall.total f calls :=
  List.sum_map_erase (fun call => f call.stage) hcall

theorem total_cons (f : LeaseStage → Nat) (call : LeaseCall) (calls : List LeaseCall) :
    LeaseCall.total f (call :: calls) = f call.stage + LeaseCall.total f calls := by
  rw [LeaseCall.total, List.map_cons, List.sum_cons, LeaseCall.total]

theorem total_append (f : LeaseStage → Nat) (calls calls' : List LeaseCall) :
    LeaseCall.total f (calls ++ calls') = LeaseCall.total f calls + LeaseCall.total f calls' := by
  rw [LeaseCall.total, List.map_append, List.sum_append, LeaseCall.total, LeaseCall.total]

theorem spawningCalls_free (hfree : s.guard = none) : s.spawningCalls = 0 := by
  rw [spawningCalls, hfree]
  rfl

theorem lockWork_free (hfree : s.guard = none) : s.lockWork = 0 := by rw [lockWork, hfree]; rfl

theorem Effect.held_calls (he : Effect cfg s a s') (hg : s.guard = some guard)
    (hown : guard.holderStep a = true) :
    (s'.calls = s.calls ∧ s'.issued = s.issued ∧ s'.spawningCalls ≤ s.spawningCalls) ∨
    (s.spawningCalls = 1 ∧ s'.guard = none ∧ s'.issued.length = s.issued.length + 1 ∧
      ∃ request leaseId containerId port,
        s'.calls = ⟨request, .readyWait leaseId containerId port 1⟩ :: s.calls) := by
  have hkept : ∀ {s₁ : HostPoolManager}, s₁.guard.bind Guard.request = none →
      s₁.spawningCalls ≤ s.spawningCalls := by
    intro s₁ hnone
    rw [spawningCalls, hnone]
    exact Nat.zero_le _
  have hsame : ∀ {s₁ : HostPoolManager},
      s₁.guard.bind Guard.request = s.guard.bind Guard.request →
      s₁.spawningCalls ≤ s.spawningCalls := by
    intro s₁ heq
    rw [spawningCalls, heq, spawningCalls]
  cases he with
  | cancelSpawn
  | hostReturned
  | hostGone
  | reapUnlocked
  | returnsTornDownHolding
  | scalingTornDownHolding => exact .inl ⟨rfl, rfl, hkept rfl⟩
  | portsExhausted
  | createFailed
  | createdUnanswered
  | startFailed
  | startedUnanswered
  | hostAdded => exact .inl ⟨rfl, rfl, hkept (Spawner.next_request _)⟩
  | portAllocated hguard
  | created hguard
  | started hguard
  | reapExpired hguard
  | reapKept hguard => exact .inl ⟨rfl, rfl, hsame (hguard ▸ rfl)⟩
  | hostLeased hguard =>
    refine .inr ⟨?_, rfl, rfl, _, _, _, _, rfl⟩
    rw [spawningCalls, hguard]
    rfl
  | returnsTornDown
  | cleanupTornDown
  | reaperTornDown
  | scalingTornDown => exact .inl ⟨rfl, rfl, le_rfl⟩
  | _ => cases guard <;> cases hown

theorem Effect.held_onward (he : Effect cfg s a s') (hg : s.guard = some guard)
    (hown : guard.holderStep a = true) :
    s'.callsWork < s.callsWork ∧ s'.idsNeeded ≤ s.idsNeeded := by
  have hless := he.work_less hg hown
  unfold callsWork idsNeeded
  obtain ⟨hcalls, hissued, hspawning⟩ | ⟨hspawning, hfree, hissued, _, _, _, _, hcalls⟩ :=
    he.held_calls hg hown
  · rw [hcalls, hissued]
    omega
  · rw [hcalls, total_cons, total_cons, lockWork_free hfree, spawningCalls_free hfree, hissued,
      hspawning]
    simp only [LeaseStage.work, LeaseStage.draws, readyMaxAttempts]
    omega

theorem call_moved {call : LeaseCall} (new : List LeaseCall) (hfree : s.guard = none)
    (hcall : call ∈ s.calls) (hcalls : s'.calls = new ++ s.calls.erase call)
    (hfree' : s'.guard = none) (hless : LeaseCall.total LeaseStage.work new < call.stage.work)
    (hids : s'.issued.length + LeaseCall.total LeaseStage.draws new ≤
      s.issued.length + call.stage.draws) :
    s'.callsWork < s.callsWork ∧ s'.idsNeeded ≤ s.idsNeeded := by
  have hwork := total_erase LeaseStage.work hcall
  have hdraws := total_erase LeaseStage.draws hcall
  unfold callsWork idsNeeded
  rw [lockWork_free hfree, spawningCalls_free hfree, lockWork_free hfree',
    spawningCalls_free hfree', hcalls, total_append, total_append]
  omega

theorem call_locked {request : Nat} (hfree : s.guard = none)
    (hcall : ⟨request, .lockWait⟩ ∈ s.calls)
    (hcalls : s'.calls = s.calls.erase ⟨request, .lockWait⟩)
    (hguard' : s'.guard = some (.spawning (.leaseHost request) .allocate))
    (hissued : s'.issued = s.issued) :
    s'.callsWork < s.callsWork ∧ s'.idsNeeded ≤ s.idsNeeded := by
  have hwork := total_erase LeaseStage.work hcall
  have hdraws := total_erase LeaseStage.draws hcall
  have hspawning : s'.spawningCalls = 1 := by
    rw [spawningCalls, hguard']
    rfl
  unfold callsWork idsNeeded
  rw [lockWork_free hfree, spawningCalls_free hfree, lockWork_spawning hguard', hspawning, hcalls,
    hissued]
  simp only [LeaseStage.work, LeaseStage.draws, Spawn.work, Spawner.remaining] at hwork hdraws ⊢
  omega

theorem call_onward (probes : HostPoolManager → LeaseCall → Probe) (hfree : s.guard = none)
    (hids : s.idsNeeded < 2 ^ 128) {call : LeaseCall} (hcall : call ∈ s.calls) :
    ∃ a s', Effect cfg s a s' ∧ s.CallGoesOn probes a ∧
      s'.callsWork < s.callsWork ∧ s'.idsNeeded ≤ s.idsNeeded := by
  obtain ⟨request, stage⟩ := call
  cases stage with
  | lockWait =>
    have hroom : s.issued.length < 2 ^ 128 := by
      simp only [idsNeeded] at hids
      omega
    obtain ⟨leaseId, hfresh⟩ := fresh_leaseId hroom
    cases havail : s.state.availableHosts with
    | nil =>
      by_cases hfull : cfg.maxInstances ≤ Table.size s.state.leasedHosts
      · refine ⟨_, _, .leaseFull hcall hfree havail hfull hfresh, ⟨trivial, .inl rfl, nofun⟩, ?_⟩
        exact call_moved [] hfree hcall rfl hfree (LeaseStage.work_pos _)
          (Nat.le_add_right _ _)
      · refine ⟨_, _, .leaseSpawning hcall hfree havail (Nat.lt_of_not_le hfull) hfresh,
          ⟨trivial, .inl rfl, nofun⟩, ?_⟩
        exact call_locked hfree hcall rfl rfl rfl
    | cons host rest =>
      cases htested : host.healthCheckTested with
      | true =>
        refine ⟨_, _, .leaseTested hcall hfree hfresh havail htested,
          ⟨trivial, .inl rfl, nofun⟩, ?_⟩
        exact call_moved [] hfree hcall rfl rfl (LeaseStage.work_pos _) le_rfl
      | false =>
        refine ⟨_, _, .leaseUntested hcall hfree hfresh havail htested,
          ⟨trivial, .inl rfl, nofun⟩, ?_⟩
        refine call_moved [_] hfree hcall rfl rfl ?_ le_rfl
        change 11 < 17
        omega
  | readyWait leaseId containerId port attempt =>
    let call : LeaseCall := ⟨request, .readyWait leaseId containerId port attempt⟩
    have hanswer : s.CallGoesOn probes (.healthChecked call (probes s call)) := by
      refine ⟨trivial, .inl rfl, fun call' probe heq => ?_⟩
      obtain ⟨rfl, rfl⟩ := Action.healthChecked.inj heq
      rfl
    cases hready : readyAttempt attempt (healthCheck (probes s call)) with
    | none =>
      have hless := attempt_lt_of_again hready
      refine ⟨_, _, .readyAgain hcall hready, hanswer, ?_⟩
      refine call_moved [_] hfree hcall rfl hfree ?_ le_rfl
      change 2 + (readyMaxAttempts - (attempt + 1)) < 2 + (readyMaxAttempts - attempt)
      omega
    | some readyResult =>
      refine ⟨_, _, .readyDone hcall hready, hanswer, ?_⟩
      refine call_moved [_] hfree hcall rfl hfree ?_ le_rfl
      change 1 < 2 + (readyMaxAttempts - attempt)
      omega
  | relockWait leaseId containerId port readyResult =>
    have hmoved : ∀ {s₁ : HostPoolManager}, s₁.calls = s.calls.erase _ → s₁.guard = none →
        s₁.issued = s.issued → s₁.callsWork < s.callsWork ∧ s₁.idsNeeded ≤ s.idsNeeded :=
      fun hcalls hfree' hissued => call_moved [] hfree hcall hcalls hfree'
        Nat.zero_lt_one (by rw [hissued]; exact le_rfl)
    have honward : ∀ {stage}, s.CallGoesOn probes (.leaseHostRelocked ⟨request, stage⟩) :=
      ⟨trivial, .inl rfl, nofun⟩
    rcases readyResult with e | _ | _
    · exact ⟨_, _, .notReady hcall hfree (.inr rfl), honward, hmoved rfl hfree rfl⟩
    · exact ⟨_, _, .notReady hcall hfree (.inl ⟨rfl, rfl⟩), honward, hmoved rfl hfree rfl⟩
    · cases hhost : s.state.leasedHosts.lookup leaseId with
      | some host =>
        exact ⟨_, _, .readyConfirmed hcall hfree hhost, honward, hmoved rfl hfree rfl⟩
      | none => exact ⟨_, _, .readyInvalid hcall hfree hhost, honward, hmoved rfl hfree rfl⟩

theorem callsWork_asked {request : Nat} (hcalls : s'.calls = ⟨request, .lockWait⟩ :: s.calls)
    (hguard : s'.guard = s.guard) : s'.callsWork = LeaseStage.lockWait.work + s.callsWork := by
  rw [callsWork, callsWork, hcalls, total_cons, spawningCalls, lockWork, hguard, spawningCalls,
    lockWork, Nat.add_assoc]

theorem idsNeeded_asked {request : Nat} (hcalls : s'.calls = ⟨request, .lockWait⟩ :: s.calls)
    (hguard : s'.guard = s.guard) (hissued : s'.issued = s.issued) :
    s'.idsNeeded = LeaseStage.lockWait.draws + s.idsNeeded := by
  rw [idsNeeded, idsNeeded, hcalls, total_cons, spawningCalls, hguard, spawningCalls, hissued]
  dsimp only
  omega

theorem total_draws_le (calls : List LeaseCall) :
    LeaseCall.total LeaseStage.draws calls ≤ calls.length := by
  induction calls with
  | nil => exact le_rfl
  | cons call calls ih =>
    have hone := call.stage.draws_le
    rw [total_cons, List.length_cons]
    omega

theorem idsNeeded_le (s : HostPoolManager) :
    s.idsNeeded ≤ s.issued.length + s.openCalls.length := by
  have hcalls := total_draws_le s.calls
  rw [idsNeeded, openCalls, spawningCalls, List.length_append, List.length_map]
  omega

theorem calls_onward (probes : HostPoolManager → LeaseCall → Probe) (h : Run (system cfg) tr s)
    (hids : s.idsNeeded < 2 ^ 128) (hopen : s.openCalls ≠ []) :
    ∃ a s', Effect cfg s a s' ∧ s.CallGoesOn probes a ∧ s'.callsWork < s.callsWork ∧
      s'.idsNeeded ≤ s.idsNeeded := by
  cases hg : s.guard with
  | some guard =>
    have hroom : s.issued.length < 2 ^ 128 := by
      simp only [idsNeeded] at hids
      omega
    obtain ⟨a, s', he, hown, hok⟩ := (attended_run h).goes_on hroom hg
    have hholder := (holderStep_eq hg a).trans hown
    refine ⟨a, s', he, ⟨hok, .inr hholder, fun call probe heq => ?_⟩, he.held_onward hg hown⟩
    subst heq
    cases guard <;> cases hown
  | none =>
    rw [openCalls, hg] at hopen
    have hcalls : s.calls ≠ [] := fun hnil => hopen (by rw [hnil]; rfl)
    obtain ⟨call, hcall⟩ := List.exists_mem_of_ne_nil s.calls hcalls
    exact call_onward probes hg hids hcall

/-- All calls that are under way can be brought to their return, without any new one and
whatever their health checks come to, by the holder of the lock and the calls themselves. -/
theorem calls_can_return (probes : HostPoolManager → LeaseCall → Probe)
    (h : Run (system cfg) tr s) (hids : s.issued.length + s.openCalls.length < 2 ^ 128) :
    ∃ s', (system cfg).Reaches (CallGoesOn probes) s s' ∧ s'.openCalls = [] := by
  let I := fun s₁ : HostPoolManager =>
    (∃ tr₁, Run (system cfg) tr₁ s₁) ∧ s₁.idsNeeded < 2 ^ 128
  have hdown : ∀ s₁, I s₁ → ¬ s₁.openCalls = [] → ∃ s₂,
      (system cfg).Reaches (CallGoesOn probes) s₁ s₂ ∧ I s₂ ∧ s₂.callsWork < s₁.callsWork := by
    rintro s₁ ⟨⟨tr₁, hr⟩, hids₁⟩ hopen
    obtain ⟨a, s₂, he, hok, hless, hneeded⟩ := calls_onward probes hr hids₁ hopen
    exact ⟨s₂, .single (step_of_effect he) hok, ⟨⟨_, run_effect hr he⟩, hneeded.trans_lt hids₁⟩,
      hless⟩
  obtain ⟨s', hreach, -, hdone⟩ :=
    System.Reaches.of_measure callsWork hdown ⟨⟨tr, h⟩, s.idsNeeded_le.trans_lt hids⟩
  exact ⟨s', hreach, hdone⟩

theorem calls_can_return_three :
    ∃ tr s, Run (system GatewayConfig.small.poolConfig) tr s ∧ s.openCalls = [2, 0, 1] ∧
      ∃ s', (system GatewayConfig.small.poolConfig).Reaches
        (CallGoesOn fun _ _ => .timeout) s s' ∧ s'.openCalls = [] := by
  obtain ⟨tr, s, ht, hopen, hids⟩ : ∃ tr s,
      (system GatewayConfig.small.poolConfig).trace [] (new GatewayConfig.small.poolConfig)
        [.leaseHost 0, .leaseHostLocked 0 1, .allocatePort, .createContainer (.ok "c1"),
          .startContainer (.ok ()), .inspectContainer (.ok ()) 1, .leaseHost 1,
          .leaseHostLocked 1 2, .leaseHost 2] = some (tr, s) ∧
      s.openCalls = [2, 0, 1] ∧ s.issued.length = 1 := ⟨_, _, rfl, rfl, rfl⟩
  have hr := Run.start.trace ht
  refine ⟨tr, s, hr, hopen, calls_can_return (fun _ _ => .timeout) hr ?_⟩
  rw [hopen, hids]
  decide

end HostPoolManager

end DockerizedLambda
