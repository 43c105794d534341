import DockerizedLambda.Gateway.Retry

/-! When an execution asks the pool for a host. Between two calls lies at least the pause of
`lease_host_with_retry`, and the request timeout starts after the last of them. -/

namespace DockerizedLambda

open Transition

namespace GatewayServer

def callTime (request : Nat) (g : GatewayServer) : Action → Option Nat
  | .forwardToLambda r (.ok _) => if r = request then some g.pool.clock else none
  | .retry r => if r = request then some g.pool.clock else none
  | _ => none

def callTimes (tr : List (GatewayServer × Action)) (request : Nat) : List Nat :=
  outputs (callTime request) tr

def Spaced (times : List Nat) : Prop :=
  ∀ init t t' rest, times = init ++ t :: t' :: rest → t + retryDelay (init.length + 1) ≤ t'

def Timed (clock : Nat) (times : List Nat) : ForwardStage → Prop
  | .leasing _ attempt => times.length = attempt
  | .backoff _ attempt wakeTime =>
    times.length = attempt ∧ ∀ t ∈ times, t + retryDelay attempt ≤ wakeTime
  | .requesting _ _ startTime _ => startTime ≤ clock ∧ ∀ t ∈ times, t ≤ startTime
  | .collecting _ _ => True

structure Pacing (tr : List (GatewayServer × Action)) (g : GatewayServer) : Prop where
  past : ∀ r, ∀ t ∈ callTimes tr r, t ≤ g.pool.clock
  spaced : ∀ r, Spaced (callTimes tr r)
  few : ∀ r, (callTimes tr r).length ≤ leaseMaxAttempts
  unstarted : ∀ r ∉ g.started, callTimes tr r = []
  stages : ∀ r stage, g.forwards.lookup r = some stage →
    Timed g.pool.clock (callTimes tr r) stage

variable {cfg : PoolConfig} {requestTimeout : Nat} {g g' : GatewayServer} {a : Action}
  {tr : List (GatewayServer × Action)}

theorem Spaced.concat {times : List Nat} (h : Spaced times) {t' : Nat}
    (hlast : ∀ t ∈ times, t + retryDelay times.length ≤ t') : Spaced (times ++ [t']) := by
  intro init t u rest heq
  rcases rest.eq_nil_or_concat with rfl | ⟨rest, last, rfl⟩
  · have hsplit : times ++ [t'] = (init ++ [t]) ++ [u] := by rw [heq, List.append_assoc]; rfl
    obtain ⟨htimes, hu⟩ := List.append_inj' hsplit rfl
    have hlength : times.length = init.length + 1 := by
      rw [htimes, List.length_append, List.length_singleton]
    rw [← hlength, ← List.singleton_inj.mp hu]
    exact hlast t (htimes ▸ List.mem_append_right _ List.mem_cons_self)
  · have hsplit : times ++ [t'] = (init ++ t :: u :: rest) ++ [last] := by
      rw [heq, List.concat_eq_append, List.append_assoc, List.cons_append, List.cons_append]
    obtain ⟨htimes, -⟩ := List.append_inj' hsplit rfl
    exact h init t u rest htimes

theorem Timed.later {clock clock' : Nat} {times : List Nat} {stage : ForwardStage}
    (h : Timed clock times stage) (hclock : clock ≤ clock') : Timed clock' times stage := by
  cases stage with
  | requesting => exact ⟨h.1.trans hclock, h.2⟩
  | _ => exact h

theorem callTimes_none (tr : List (GatewayServer × Action)) {r : Nat} (h : callTime r g a = none) :
    callTimes ((g, a) :: tr) r = callTimes tr r := by
  rw [callTimes, outputs, h]
  exact List.append_nil _

theorem callTimes_some (tr : List (GatewayServer × Action)) {r t : Nat}
    (h : callTime r g a = some t) :
    callTimes ((g, a) :: tr) r = callTimes tr r ++ [t] := by
  rw [callTimes, outputs, h]
  rfl

theorem Moves.clock_mono (hm : Moves cfg requestTimeout g a g') :
    g.pool.clock ≤ g'.pool.clock := by
  cases hm with
  | pooled _ hstep
  | cancelledLeasing _ hstep => exact (HostPoolManager.effect_of_step hstep).clock_mono
  | returned _ hstep =>
    rw [leaseSettled_pool]
    exact (HostPoolManager.effect_of_step hstep).clock_mono
  | _ => exact Nat.le_refl _

theorem Moves.started_mono (hm : Moves cfg requestTimeout g a g') {r : Nat}
    (h : r ∈ g.started) : r ∈ g'.started := by
  cases hm with
  | asked
  | refused
  | rejected => exact List.mem_cons_of_mem _ h
  | returned =>
    rw [leaseSettled_started]
    exact h
  | _ => exact h

theorem Pacing.quiet (h : Pacing tr g) (hm : Moves cfg requestTimeout g a g')
    (hnone : ∀ r, callTime r g a = none)
    (hstages : ∀ r stage, g'.forwards.lookup r = some stage →
      g.forwards.lookup r = some stage ∨ Timed g'.pool.clock (callTimes tr r) stage) :
    Pacing ((g, a) :: tr) g' := by
  have htimes := fun r => callTimes_none tr (hnone r)
  refine ⟨fun r t ht => ?_, fun r => ?_, fun r => ?_, fun r hr => ?_, fun r stage hlookup => ?_⟩
  · rw [htimes] at ht
    exact (h.past r t ht).trans hm.clock_mono
  · rw [htimes]
    exact h.spaced r
  · rw [htimes]
    exact h.few r
  · rw [htimes]
    exact h.unstarted r fun hr' => hr (hm.started_mono hr')
  · rw [htimes]
    rcases hstages r stage hlookup with hlookup | htimed
    · exact (h.stages r stage hlookup).later hm.clock_mono
    · exact htimed

theorem Pacing.called (h : Pacing tr g) (hm : Moves cfg requestTimeout g a g') {request : Nat}
    (hself : callTime request g a = some g.pool.clock)
    (hother : ∀ r, r ≠ request → callTime r g a = none)
    (hpause : ∀ t ∈ callTimes tr request,
      t + retryDelay (callTimes tr request).length ≤ g.pool.clock)
    (hfew : (callTimes tr request).length < leaseMaxAttempts) (hstarted : request ∈ g'.started)
    (hkept : ∀ r, r ≠ request → g'.forwards.lookup r = g.forwards.lookup r)
    (hstage : ∀ stage, g'.forwards.lookup request = some stage →
      ∃ bodyBytes, stage = .leasing bodyBytes ((callTimes tr request).length + 1)) :
    Pacing ((g, a) :: tr) g' := by
  have hsame := callTimes_some tr hself
  have hrest := fun r hr => callTimes_none tr (hother r hr)
  refine ⟨fun r t ht => ?_, fun r => ?_, fun r => ?_, fun r hr => ?_, fun r stage hlookup => ?_⟩
  all_goals rcases eq_or_ne r request with rfl | hr'
  · rw [hsame] at ht
    rcases List.mem_append.mp ht with ht | ht
    · exact (h.past r t ht).trans hm.clock_mono
    · exact (List.mem_singleton.mp ht).le.trans hm.clock_mono
  · rw [hrest r hr'] at ht
    exact (h.past r t ht).trans hm.clock_mono
  · rw [hsame]
    exact (h.spaced r).concat hpause
  · rw [hrest r hr']
    exact h.spaced r
  · rw [hsame, List.length_append, List.length_singleton]
    exact hfew
  · rw [hrest r hr']
    exact h.few r
  · exact absurd hstarted hr
  · rw [hrest r hr']
    exact h.unstarted r fun h' => hr (hm.started_mono h')
  · obtain ⟨bodyBytes, rfl⟩ := hstage stage hlookup
    rw [hsame]
    exact List.length_append
  · rw [hrest r hr']
    rw [hkept r hr'] at hlookup
    exact (h.stages r stage hlookup).later hm.clock_mono

theorem Pacing.goesOn (h : Pacing tr g) (hm : Moves cfg requestTimeout g a g') {request : Nat}
    {stage : ForwardStage} (hnone : ∀ r, callTime r g a = none)
    (hforwards : g'.forwards = g.forwards.insert request stage)
    (htimed : Timed g'.pool.clock (callTimes tr request) stage) : Pacing ((g, a) :: tr) g' := by
  refine h.quiet hm hnone fun r stage' hlookup => ?_
  rw [hforwards] at hlookup
  rcases Table.lookup_insert_cases hlookup with ⟨rfl, rfl⟩ | ⟨-, hlookup⟩
  · exact .inr htimed
  · exact .inl hlookup

theorem Pacing.ended (h : Pacing tr g) (hm : Moves cfg requestTimeout g a g') {request : Nat}
    (hnone : ∀ r, callTime r g a = none)
    (hforwards : g'.forwards = g.forwards.erase request) : Pacing ((g, a) :: tr) g' := by
  refine h.quiet hm hnone fun r stage hlookup => .inl ?_
  rw [hforwards] at hlookup
  exact Table.lookup_of_erase hlookup

theorem Pacing.settles (h : Pacing tr g) {b : HostPoolManager.Action} {pool : HostPoolManager}
    {request attempt : Nat} {bodyBytes : Bytes} (outcome : Option (Except GatewayError HostLease))
    (hlookup : g.forwards.lookup request = some (.leasing bodyBytes attempt))
    (hm : Moves cfg requestTimeout g (.pool b)
      ({ g with pool }.leaseSettled request bodyBytes attempt outcome)) :
    Pacing ((g, .pool b) :: tr)
      ({ g with pool }.leaseSettled request bodyBytes attempt outcome) := by
  have hlength : (callTimes tr request).length = attempt := h.stages request _ hlookup
  have hclock := hm.clock_mono
  rw [leaseSettled_pool] at hclock
  have hpast : ∀ t ∈ callTimes tr request, t ≤ pool.clock := fun t ht =>
    (h.past request t ht).trans hclock
  cases outcome with
  | none =>
    exact h.goesOn hm (fun _ => rfl) rfl
      ⟨hlength, fun t ht => Nat.add_le_add_right (hpast t ht) _⟩
  | some result =>
    cases result with
    | ok lease => exact h.goesOn hm (fun _ => rfl) rfl ⟨Nat.le_refl _, hpast⟩
    | error e => exact h.ended hm (fun _ => rfl) rfl

theorem callTime_self {request : Nat} (h : a = .retry request ∨
    ∃ bodyBytes, a = .forwardToLambda request (.ok bodyBytes)) :
    callTime request g a = some g.pool.clock ∧ ∀ r, r ≠ request → callTime r g a = none := by
  rcases h with rfl | ⟨bodyBytes, rfl⟩
  · exact ⟨if_pos rfl, fun r hr => if_neg (Ne.symm hr)⟩
  · exact ⟨if_pos rfl, fun r hr => if_neg (Ne.symm hr)⟩

theorem Pacing.first (h : Pacing tr g) {request : Nat} {bodyBytes : Bytes}
    (hm : Moves cfg requestTimeout g (.forwardToLambda request (.ok bodyBytes)) g')
    (hnew : request ∉ g.started) (hstarted : request ∈ g'.started)
    (hkept : ∀ r, r ≠ request → g'.forwards.lookup r = g.forwards.lookup r)
    (hstage : ∀ stage, g'.forwards.lookup request = some stage → stage = .leasing bodyBytes 1) :
    Pacing ((g, .forwardToLambda request (.ok bodyBytes)) :: tr) g' := by
  obtain ⟨hself, hother⟩ := callTime_self (g := g) (.inr ⟨bodyBytes, rfl⟩)
  have hnil := h.unstarted request hnew
  refine h.called hm hself hother ?_ ?_ hstarted hkept fun stage hlookup => ⟨bodyBytes, ?_⟩
  · rw [hnil]
    exact nofun
  · rw [hnil]
    decide
  · rw [hnil]
    exact hstage stage hlookup

theorem Pacing.again (h : Pacing tr g) (hf : Following tr g) {request attempt wakeTime : Nat}
    {bodyBytes : Bytes} (hm : Moves cfg requestTimeout g (.retry request) g')
    (hlookup : g.forwards.lookup request = some (.backoff bodyBytes attempt wakeTime))
    (hwake : wakeTime ≤ g.pool.clock) (hstarted : request ∈ g.started)
    (hkept : ∀ r, r ≠ request → g'.forwards.lookup r = g.forwards.lookup r)
    (hstage : ∀ stage, g'.forwards.lookup request = some stage →
      stage = .leasing bodyBytes (attempt + 1)) : Pacing ((g, .retry request) :: tr) g' := by
  obtain ⟨hself, hother⟩ := callTime_self (g := g) (.inl rfl)
  obtain ⟨hlength, hpause⟩ := h.stages request _ hlookup
  obtain ⟨hnone, hresults⟩ := hf.stages request _ hlookup
  have hfew := (RetryLoop.run_eq_none hnone).2
  refine h.called hm hself hother ?_ ?_ (hm.started_mono hstarted) hkept
    fun stage hl => ⟨bodyBytes, ?_⟩
  · rw [hlength]
    exact fun t ht => (hpause t ht).trans hwake
  · rw [hlength, ← hresults]
    exact hfew
  · rw [hlength]
    exact hstage stage hl

theorem Pacing.step (h : Pacing tr g) (hf : Following tr g) (hc : Consistent tr g)
    (hm : Moves cfg requestTimeout g a g') : Pacing ((g, a) :: tr) g' := by
  have hinsert : ∀ {request : Nat} {stage stage' : ForwardStage},
      (g.forwards.insert request stage').lookup request = some stage → stage = stage' :=
    fun hl => (Option.some.inj ((AList.lookup_insert g.forwards).symm.trans hl)).symm
  have herase : ∀ {request : Nat} {stage stage' : ForwardStage},
      (g.forwards.erase request).lookup request = some stage → stage = stage' :=
    fun hl => absurd ((AList.lookup_erase _ g.forwards).symm.trans hl) nofun
  have hmoves := hm
  cases hm with
  | pooled
  | handled => exact h.quiet hmoves (fun _ => rfl) fun _ _ hl => .inl hl
  | returned _ _ _ hlookup => exact h.settles _ hlookup hmoves
  | asked hnew =>
    exact h.first hmoves hnew List.mem_cons_self (fun r hr => AList.lookup_insert_ne hr)
      fun _ hl => hinsert hl
  | refused hnew =>
    exact h.first hmoves hnew List.mem_cons_self (fun r hr => AList.lookup_erase_ne hr)
      fun _ hl => herase hl
  | askedAgain hlookup hwake =>
    exact h.again hf hmoves hlookup hwake (hc.accounted.mem (Table.lookup_mem hlookup))
      (fun r hr => AList.lookup_insert_ne hr) fun _ hl => hinsert hl
  | refusedAgain hlookup hwake =>
    exact h.again hf hmoves hlookup hwake (hc.accounted.mem (Table.lookup_mem hlookup))
      (fun r hr => AList.lookup_erase_ne hr) fun _ hl => herase hl
  | sent hlookup =>
    have htimed := h.stages _ _ hlookup
    exact h.goesOn hmoves (fun _ => rfl) rfl htimed
  | responseHead hlookup => exact h.goesOn hmoves (fun _ => rfl) rfl trivial
  | rejected
  | requestFailed
  | requestTimedOut
  | bodyCollected
  | bodyFailed
  | cancelledLeasing
  | cancelledWaiting
  | cancelledRequesting
  | cancelledCollecting => exact h.ended hmoves (fun _ => rfl) rfl

theorem pacing_run (h : Run (system cfg requestTimeout) tr g) : Pacing tr g := by
  induction h with
  | start =>
    have hspaced : Spaced [] := fun init t t' rest heq =>
      absurd (congrArg List.length heq) (by simp)
    exact ⟨nofun, fun _ => hspaced, fun _ => Nat.zero_le _, fun _ _ => rfl, nofun⟩
  | next hr hs ih => exact ih.step (following_run hr) (consistent_run hr) (moves_of_run_step hr hs)

/-- Each execution calls `lease_host` at most three times and pauses between two calls, and one
that times out has waited for the whole request timeout since its last call. -/
theorem retries_paced (h : Run (system cfg requestTimeout) tr g) (request : Nat) :
    (callTimes tr request).length ≤ leaseMaxAttempts ∧ Spaced (callTimes tr request) ∧
      ∀ later g₀ earlier, tr = later ++ (g₀, .requestTimedOut request) :: earlier →
        ∀ t ∈ callTimes earlier request, t + requestTimeout ≤ g₀.pool.clock := by
  have hpacing := pacing_run h
  refine ⟨hpacing.few request, hpacing.spaced request, fun later g₀ earlier heq t ht => ?_⟩
  rw [heq] at h
  obtain ⟨hr, g₁, hs, -⟩ := h.split
  have hm : Moves cfg requestTimeout g₀ (.requestTimedOut request) g₁ := moves_of_run_step hr hs
  cases hm with
  | requestTimedOut hlookup htimeout =>
    obtain ⟨-, hcalled⟩ := (pacing_run hr).stages request _ hlookup
    exact (Nat.add_le_add_right (hcalled t ht) _).trans htimeout

theorem retries_paced_second :
    ∃ tr g, Run (system GatewayConfig.small.poolConfig (5 * nanosPerSecond)) tr g ∧
      callTimes tr 0 = [0, retryDelay 1] ∧ (callTimes tr 0).length ≤ leaseMaxAttempts ∧
      Spaced (callTimes tr 0) ∧ ∀ later g₀ earlier,
        tr = later ++ (g₀, .requestTimedOut 0) :: earlier →
          ∀ t ∈ callTimes earlier 0, t + 5 * nanosPerSecond ≤ g₀.pool.clock := by
  obtain ⟨tr, g, ht, htimes⟩ : ∃ tr g,
      (system GatewayConfig.small.poolConfig (5 * nanosPerSecond)).trace []
        (new GatewayConfig.small.poolConfig)
        (forwardRetried 0 [] ++ [.sendInvoke 0, .pool (.tick (5 * nanosPerSecond)),
          .requestTimedOut 0]) = some (tr, g) ∧
      callTimes tr 0 = [0, retryDelay 1] := ⟨_, _, rfl, rfl⟩
  have hr := Run.start.trace ht
  exact ⟨tr, g, hr, htimes, retries_paced hr 0⟩

end GatewayServer

end DockerizedLambda
