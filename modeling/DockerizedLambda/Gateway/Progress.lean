import DockerizedLambda.Gateway.Requests
import DockerizedLambda.Pool.CallsProgress

/-! No request hangs for want of another one. Whatever the containers do, a request that is
under way gets its lease, or an error for it, and after that its timeout is enough to answer
it; only for the end of a body that is being read there is no timeout. -/

namespace DockerizedLambda

open Transition

def ForwardStage.work : ForwardStage → Nat
  | .leasing _ attempt => 1 + 20 * (leaseMaxAttempts - attempt)
  | .backoff _ attempt _ => 21 + 20 * (leaseMaxAttempts - (attempt + 1))
  | .requesting _ _ _ _ => 1
  | .collecting _ _ => 1

def ForwardStage.draws : ForwardStage → Nat
  | .leasing _ attempt => leaseMaxAttempts - attempt
  | .backoff _ attempt _ => 1 + (leaseMaxAttempts - (attempt + 1))
  | .requesting _ _ _ _ => 0
  | .collecting _ _ => 0

theorem ForwardStage.work_pos (stage : ForwardStage) : 0 < stage.work := by
  cases stage <;> simp only [work] <;> omega

theorem ForwardStage.draws_le (stage : ForwardStage) : stage.draws ≤ leaseMaxAttempts := by
  cases stage <;> simp only [draws, leaseMaxAttempts] <;> omega

namespace GatewayServer

def GoesOn (probes : HostPoolManager → LeaseCall → Probe) (g : GatewayServer) : Action → Prop
  | .pool (.healthChecked call probe) => probe = probes g.pool call
  | .pool b => b.Succeeds
  | .retry _ => True
  | .requestTimedOut _ => True
  | .bodyCollected _ _ => True
  | _ => False

def work (g : GatewayServer) : Nat :=
  Table.total ForwardStage.work g.forwards + g.pool.callsWork

def idsNeeded (g : GatewayServer) : Nat :=
  Table.total ForwardStage.draws g.forwards + g.pool.idsNeeded

def later (g : GatewayServer) (elapsed : Nat) : GatewayServer :=
  { g with pool := { g.pool with clock := g.pool.clock + elapsed } }

variable {cfg : PoolConfig} {requestTimeout : Nat} {g g' : GatewayServer} {a : Action}
  {probes : HostPoolManager → LeaseCall → Probe}
  {tr : List (GatewayServer × Action)}

structure Nearer (g g' : GatewayServer) : Prop where
  work : g'.work < g.work
  ids : g'.idsNeeded ≤ g.idsNeeded

theorem Nearer.finished {request : Nat} {stage : ForwardStage}
    (hlookup : g.forwards.lookup request = some stage)
    (hforwards : g'.forwards = g.forwards.erase request)
    (hwork : g'.pool.callsWork = g.pool.callsWork) (hids : g'.pool.idsNeeded = g.pool.idsNeeded) :
    Nearer g g' := by
  have hpos := stage.work_pos
  have htotal := Table.total_erase ForwardStage.work hlookup
  have hdraws := Table.total_erase ForwardStage.draws hlookup
  constructor
  · simp only [GatewayServer.work, hforwards, hwork, htotal]
    omega
  · simp only [idsNeeded, hforwards, hids, hdraws]
    omega

theorem Nearer.pooled {pool : HostPoolManager} (hpool : g'.pool = pool)
    (hless : pool.callsWork < g.pool.callsWork) (hneeded : pool.idsNeeded ≤ g.pool.idsNeeded)
    (hwork : Table.total ForwardStage.work g'.forwards ≤ Table.total ForwardStage.work g.forwards)
    (hdraws : Table.total ForwardStage.draws g'.forwards ≤
      Table.total ForwardStage.draws g.forwards) : Nearer g g' := by
  constructor
  · rw [GatewayServer.work, GatewayServer.work, hpool]
    omega
  · rw [idsNeeded, idsNeeded, hpool]
    omega

theorem total_leaseSettled (f : ForwardStage → Nat) {request attempt : Nat} {bodyBytes : Bytes}
    (hlookup : g.forwards.lookup request = some (.leasing bodyBytes attempt))
    (outcome : Option (Except GatewayError HostLease))
    (hretry : outcome = none → ∀ wakeTime,
      f (.backoff bodyBytes attempt wakeTime) ≤ f (.leasing bodyBytes attempt))
    (hlease : ∀ lease startTime,
      f (.requesting bodyBytes lease startTime false) ≤ f (.leasing bodyBytes attempt)) :
    Table.total f (g.leaseSettled request bodyBytes attempt outcome).forwards ≤
      Table.total f g.forwards := by
  rw [Table.total_erase f hlookup]
  cases outcome with
  | none => exact Nat.add_le_add_right (hretry rfl _) _
  | some outcome =>
    cases outcome with
    | ok lease => exact Nat.add_le_add_right (hlease _ _) _
    | error e => exact Nat.le_add_left _ _

theorem internal_of_goesOn {s : HostPoolManager} {b : HostPoolManager.Action}
    (h : s.CallGoesOn probes b) : internal b = true := by
  obtain ⟨hok, hown, -⟩ := h
  cases b with
  | leaseHost
  | dropLease =>
    rcases hown with hcall | hholder
    · cases hcall
    · cases hg : s.guard with
      | none =>
        rw [HostPoolManager.holderStep, hg] at hholder
        cases hholder
      | some guard =>
        rw [HostPoolManager.holderStep_eq hg] at hholder
        cases guard <;> cases hholder
  | cancelLease
  | cancelSpawn => exact absurd hok id
  | _ => rfl

theorem goesOn (hs : g.step cfg requestTimeout a = some g') (hok : g.GoesOn probes a) :
    (system cfg requestTimeout).Reaches (GoesOn probes) g g' :=
  System.Reaches.single (M := system cfg requestTimeout) hs hok

theorem goesOn_of_call {b : HostPoolManager.Action} (h : g.pool.CallGoesOn probes b) :
    g.GoesOn probes (.pool b) := by
  obtain ⟨hok, -, hanswer⟩ := h
  cases b with
  | healthChecked call probe => exact hanswer call probe rfl
  | _ => exact hok

theorem pool_onward (probes : HostPoolManager → LeaseCall → Probe)
    (h : Run (system cfg requestTimeout) tr g) (hids : g.idsNeeded < 2 ^ 128)
    (hopen : g.pool.openCalls ≠ []) :
    ∃ g', (system cfg requestTimeout).Reaches (GoesOn probes) g g' ∧ Nearer g g' := by
  obtain ⟨tr', hr⟩ := pool_run h
  have hroom : g.pool.idsNeeded < 2 ^ 128 := Nat.lt_of_le_of_lt (Nat.le_add_left _ _) hids
  obtain ⟨b, pool, he, hok, hless, hneeded⟩ :=
    HostPoolManager.calls_onward probes hr hroom hopen
  have hinternal := internal_of_goesOn hok
  have hpool := HostPoolManager.step_of_effect he
  obtain ⟨g', hs⟩ : ∃ g', g.step cfg requestTimeout (.pool b) = some g' := by
    rw [step, if_pos hinternal, poolStep, hpool]
    exact ⟨_, rfl⟩
  refine ⟨g', goesOn hs (goesOn_of_call hok), ?_⟩
  cases moves_of_run_step h hs with
  | pooled _ hstep =>
    obtain rfl := Option.some.inj (hpool.symm.trans hstep)
    exact Nearer.pooled rfl hless hneeded le_rfl le_rfl
  | @returned _ pool' request attempt bodyBytes result _ hstep _ hlookup =>
    obtain rfl := Option.some.inj (hpool.symm.trans hstep)
    have hlookup' : { g with pool }.forwards.lookup request = _ := hlookup
    have hattempt : leaseHostWithRetry.round attempt result = none → attempt < leaseMaxAttempts :=
      fun hnone => (RetryLoop.round_eq_none hnone).2
    refine Nearer.pooled (leaseSettled_pool _ _ _ _ _) hless hneeded
      (total_leaseSettled _ hlookup' _ (fun hnone _ => ?_) fun _ _ => ?_)
      (total_leaseSettled _ hlookup' _ (fun hnone _ => ?_) fun _ _ => Nat.zero_le _)
    · have hless := hattempt hnone
      simp only [ForwardStage.work]
      omega
    · exact Nat.le_add_right _ _
    · have hless := hattempt hnone
      simp only [ForwardStage.draws]
      omega

theorem ticked (probes : HostPoolManager → LeaseCall → Probe) (cfg : PoolConfig)
    (requestTimeout : Nat) (g : GatewayServer) (elapsed : Nat) :
    (system cfg requestTimeout).Reaches (GoesOn probes) g (g.later elapsed) := by
  have hstep : g.pool.step cfg (.tick elapsed) = some _ := rfl
  exact goesOn (a := .pool (.tick elapsed)) (poolStep_unreturned hstep rfl) trivial

theorem Nearer.retried {request attempt wakeTime : Nat} {bodyBytes : Bytes}
    (hlookup : g.forwards.lookup request = some (.backoff bodyBytes attempt wakeTime))
    (hcalls : g'.pool.calls = ⟨request, .lockWait⟩ :: g.pool.calls)
    (hguard : g'.pool.guard = g.pool.guard) (hissued : g'.pool.issued = g.pool.issued)
    (hforwards : g'.forwards = g.forwards.insert request (.leasing bodyBytes (attempt + 1))) :
    Nearer g g' := by
  have hwork := Table.total_erase ForwardStage.work hlookup
  have hdraws := Table.total_erase ForwardStage.draws hlookup
  have hcallsWork := HostPoolManager.callsWork_asked hcalls hguard
  have hneeded := HostPoolManager.idsNeeded_asked hcalls hguard hissued
  constructor
  · rw [GatewayServer.work, GatewayServer.work, hforwards, Table.total_insert, hwork, hcallsWork]
    simp only [ForwardStage.work, LeaseStage.work]
    omega
  · rw [idsNeeded, idsNeeded, hforwards, Table.total_insert, hdraws, hneeded]
    simp only [ForwardStage.draws, LeaseStage.draws]
    omega

theorem execution_onward (probes : HostPoolManager → LeaseCall → Probe)
    (h : Run (system cfg requestTimeout) tr g) (hopen : g.pool.openCalls = []) {request : Nat}
    {stage : ForwardStage} (hlookup : g.forwards.lookup request = some stage) :
    ∃ g', (system cfg requestTimeout).Reaches (GoesOn probes) g g' ∧ Nearer g g' := by
  cases stage with
  | leasing bodyBytes attempt =>
    have hmem := ((consistent_run h).calls.leasing request).mpr ⟨bodyBytes, attempt, hlookup⟩
    rw [hopen] at hmem
    cases hmem
  | backoff bodyBytes attempt wakeTime =>
    have htick := ticked probes cfg requestTimeout g wakeTime
    have hlookup₁ : (g.later wakeTime).forwards.lookup request = _ := hlookup
    have hwake : wakeTime ≤ (g.later wakeTime).pool.clock := Nat.le_add_left _ _
    obtain ⟨tr₁, hr₁⟩ := htick.run h
    obtain ⟨g', hs⟩ : ∃ g', (g.later wakeTime).step cfg requestTimeout (.retry request) =
        some g' := by
      simp only [step, retry, hlookup₁, if_pos hwake]
      exact ⟨_, rfl⟩
    refine ⟨g', htick.trans (goesOn hs trivial), ?_⟩
    cases moves_of_run_step hr₁ hs with
    | askedAgain hlookup' =>
      cases hlookup₁.symm.trans hlookup'
      exact Nearer.retried hlookup rfl rfl rfl rfl
    | refusedAgain => exact Nearer.finished hlookup rfl rfl rfl
  | requesting bodyBytes lease startTime sent =>
    have htick := ticked probes cfg requestTimeout g (startTime + requestTimeout)
    have hlookup₁ : (g.later (startTime + requestTimeout)).forwards.lookup request = _ := hlookup
    have htimeout : startTime + requestTimeout ≤
        (g.later (startTime + requestTimeout)).pool.clock := Nat.le_add_left _ _
    have hs : (g.later (startTime + requestTimeout)).step cfg requestTimeout
        (.requestTimedOut request) =
        some ((((g.later (startTime + requestTimeout)).stopReading lease.leaseId).dropLease
          lease).finish request (.error .timeout)) := by
      simp only [step, requestTimedOut, hlookup₁, if_pos htimeout]
    exact ⟨_, htick.trans (goesOn hs trivial), Nearer.finished hlookup rfl rfl rfl⟩
  | collecting leaseId parts =>
    have hs : g.step cfg requestTimeout (.bodyCollected request []) =
        some ((g.stopReading leaseId).finish request (.ok ⟨parts, []⟩)) := by
      simp only [step, bodyCollected, hlookup]
    exact ⟨_, goesOn hs trivial, Nearer.finished hlookup rfl rfl rfl⟩

theorem Moves.started_kept (hm : Moves cfg requestTimeout g a g') (hok : g.GoesOn probes a) :
    g'.started = g.started := by
  cases hm with
  | asked | refused | rejected => exact absurd hok id
  | returned => exact leaseSettled_started _ _ _ _ _
  | _ => rfl

theorem answered_of_goesOn (h : Run (system cfg requestTimeout) tr g)
    (hreach : (system cfg requestTimeout).Reaches (GoesOn probes) g g') :
    (g'.answered.map Prod.fst ++ g'.forwards.keys).Perm
      (g.answered.map Prod.fst ++ g.forwards.keys) := by
  let I := fun g₁ : GatewayServer => ∃ tr₁, Run (system cfg requestTimeout) tr₁ g₁ ∧
    outputs cancelled tr₁ = outputs cancelled tr ∧ g₁.started = g.started
  obtain ⟨tr', hr', hgone, hstarted⟩ : I g' := by
    refine hreach.invariant (fun {g₁ a g₂} hok hi hs => ?_) ⟨tr, h, rfl, rfl⟩
    obtain ⟨tr₁, hr₁, hgone, hstarted⟩ := hi
    refine ⟨_, hr₁.next hs, ?_, ?_⟩
    · cases a with
      | cancelForward => exact absurd hok id
      | _ => exact (List.append_nil _).trans hgone
    · exact ((moves_of_run_step hr₁ hs).started_kept hok).trans hstarted
  have hbefore := (consistent_run h).accounted
  have hafter := (consistent_run hr').accounted
  rw [Accounted, List.perm_iff_count] at hbefore hafter
  rw [List.perm_iff_count]
  intro request
  have hb := hbefore request
  have ha := hafter request
  rw [hgone, hstarted] at ha
  simp only [List.count_append] at hb ha ⊢
  omega

theorem idsNeeded_le (h : Run (system cfg requestTimeout) tr g) :
    g.idsNeeded ≤ g.pool.issued.length + 4 * Table.size g.forwards := by
  have hsync := (consistent_run h).calls
  have hsub : g.pool.openCalls ⊆ g.forwards.keys := by
    intro request hmem
    obtain ⟨_, _, hlookup⟩ := (hsync.leasing request).mp hmem
    exact Table.lookup_mem hlookup
  have hopen := (List.subperm_of_subset hsync.once hsub).length_le
  have hpool := g.pool.idsNeeded_le
  have hdraws := Table.total_le ForwardStage.draws_le g.forwards
  rw [Table.keys_length] at hopen
  rw [idsNeeded]
  simp only [leaseMaxAttempts] at hdraws
  omega

/-- Every request that is under way can be answered, without any new one and whatever the
health checks come to: by the pool's own steps, the retries, the timeouts, and the end of the
bodies that are being read. -/
theorem requests_can_be_answered (probes : HostPoolManager → LeaseCall → Probe)
    (h : Run (system cfg requestTimeout) tr g)
    (hids : g.pool.issued.length + 4 * Table.size g.forwards < 2 ^ 128) :
    ∃ g', (system cfg requestTimeout).Reaches (GoesOn probes) g g' ∧ g'.forwards = ∅ ∧
      (g'.answered.map Prod.fst).Perm (g.answered.map Prod.fst ++ g.forwards.keys) := by
  let I := fun g₁ : GatewayServer =>
    (∃ tr₁, Run (system cfg requestTimeout) tr₁ g₁) ∧ g₁.idsNeeded < 2 ^ 128
  have hdown : ∀ g₁, I g₁ → ¬ g₁.forwards = ∅ → ∃ g₂,
      (system cfg requestTimeout).Reaches (GoesOn probes) g₁ g₂ ∧ I g₂ ∧
        g₂.work < g₁.work := by
    rintro g₁ ⟨⟨tr₁, hr⟩, hids₁⟩ hbusy
    obtain ⟨g₂, hreach, hnearer⟩ : ∃ g₂,
        (system cfg requestTimeout).Reaches (GoesOn probes) g₁ g₂ ∧ Nearer g₁ g₂ := by
      by_cases hopen : g₁.pool.openCalls = []
      · have hkeys : g₁.forwards.keys ≠ [] := by
          intro hnil
          apply hbusy
          apply Table.eq_empty_of_size
          rw [← Table.keys_length, hnil]
          rfl
        obtain ⟨request, hmem⟩ := List.exists_mem_of_ne_nil g₁.forwards.keys hkeys
        obtain ⟨stage, hlookup⟩ := Option.isSome_iff_exists.mp (AList.lookup_isSome.mpr hmem)
        exact execution_onward probes hr hopen hlookup
      · exact pool_onward probes hr hids₁ hopen
    exact ⟨g₂, hreach, ⟨hreach.run hr, Nat.lt_of_le_of_lt hnearer.ids hids₁⟩, hnearer.work⟩
  obtain ⟨g', hreach, -, hdone⟩ := System.Reaches.of_measure work hdown
    ⟨⟨tr, h⟩, Nat.lt_of_le_of_lt (idsNeeded_le h) hids⟩
  refine ⟨g', hreach, hdone, ?_⟩
  have hanswered := answered_of_goesOn h hreach
  rw [hdone] at hanswered
  exact (List.Perm.of_eq (List.append_nil _).symm).trans hanswered

theorem requests_can_be_answered_two :
    ∃ tr g, Run (system GatewayConfig.small.poolConfig (5 * nanosPerSecond)) tr g ∧
      g.forwards.keys = [1, 0] ∧ g.answered = [] ∧
      ∃ g', (system GatewayConfig.small.poolConfig (5 * nanosPerSecond)).Reaches
        (GoesOn fun _ _ => .timeout) g g' ∧ g'.forwards = ∅ ∧
        (g'.answered.map Prod.fst).Perm (g.answered.map Prod.fst ++ g.forwards.keys) := by
  obtain ⟨tr, g, ht, hkeys, hanswered, hissued⟩ : ∃ tr g,
      (system GatewayConfig.small.poolConfig (5 * nanosPerSecond)).trace []
        (new GatewayConfig.small.poolConfig)
        (forwardSpawned 0 [] 1 "c1" 8081 ++ [.sendInvoke 0, .forwardToLambda 1 (.ok []),
          .pool .startShutdown]) = some (tr, g) ∧
      g.forwards.keys = [1, 0] ∧ g.answered = [] ∧ g.pool.issued.length = 1 :=
    ⟨_, _, rfl, rfl, rfl, rfl⟩
  have hr := Run.start.trace ht
  refine ⟨tr, g, hr, hkeys, hanswered, requests_can_be_answered (fun _ _ => .timeout) hr ?_⟩
  rw [hissued, ← Table.keys_length, hkeys]
  decide

end GatewayServer

end DockerizedLambda
