import DockerizedLambda.Gateway.Requests
import DockerizedLambda.Pool.Staleness

/-! `lease_host_with_retry` as the loop it is. Cut at its awaits and interleaved with all other
executions, each of them still does what the loop does with the results of its own calls, and
keeps to its pauses. -/

namespace DockerizedLambda

open Transition

def HostPoolManager.results (s : HostPoolManager) (request : Nat) :
    List (Except PoolError HostLease) :=
  (s.returned.filterMap fun r => if r.1 = request then some r.2 else none).reverse

namespace HostPoolManager

variable {s s' : HostPoolManager} {request : Nat} {result : Except PoolError HostLease}

theorem results_kept (h : s'.returned = s.returned) : s'.results = s.results := by
  funext r
  rw [results, results, h]

theorem results_returned (h : s'.returned = (request, result) :: s.returned) :
    s'.results request = s.results request ++ [result] := by
  unfold results
  rw [h]
  simp

theorem results_other (h : s'.returned = (request, result) :: s.returned) {r : Nat}
    (hr : r ≠ request) : s'.results r = s.results r := by
  unfold results
  rw [h]
  simp [Ne.symm hr]

end HostPoolManager

namespace GatewayServer

def Follows (results : List (Except PoolError HostLease)) : ForwardStage → Prop
  | .leasing _ attempt =>
    leaseHostWithRetry.run results = none ∧ results.length + 1 = attempt
  | .backoff _ attempt _ => leaseHostWithRetry.run results = none ∧ results.length = attempt
  | .requesting _ lease _ _ => leaseHostWithRetry.EndsWith results (.ok lease)
  | .collecting leaseId _ =>
    ∃ lease, leaseHostWithRetry.EndsWith results (.ok lease) ∧ lease.leaseId = leaseId

def ExchangeError (e : GatewayError) : Prop :=
  e = .timeout ∨ (∃ message, e = .httpClient message) ∨ ∃ message, e = .http message

inductive Explained (tr : List (GatewayServer × Action)) (request : Nat)
    (results : List (Except PoolError HostLease)) : Except GatewayError Response → Prop
  | rejected {g : GatewayServer} {e : GatewayError} (hresults : results = [])
      (hconvert : (g, .forwardToLambda request (.error e)) ∈ tr) :
      Explained tr request results (.error e)
  | unleased {e : GatewayError} (hends : leaseHostWithRetry.EndsWith results (.error e)) :
      Explained tr request results (.error e)
  | failed {lease : HostLease} {e : GatewayError}
      (hends : leaseHostWithRetry.EndsWith results (.ok lease)) (hexchange : ExchangeError e) :
      Explained tr request results (.error e)
  | responded {lease : HostLease} {response : Response}
      (hends : leaseHostWithRetry.EndsWith results (.ok lease)) :
      Explained tr request results (.ok response)

structure Following (tr : List (GatewayServer × Action)) (g : GatewayServer) : Prop where
  unstarted : ∀ r ∉ g.started, g.pool.results r = []
  settled : ∀ r, leaseHostWithRetry.run (g.pool.results r) = none ∨
    ∃ outcome, leaseHostWithRetry.EndsWith (g.pool.results r) outcome
  stages : ∀ r stage, g.forwards.lookup r = some stage → Follows (g.pool.results r) stage
  answers : ∀ r result, (r, result) ∈ g.answered →
    Explained tr r (g.pool.results r) result

variable {cfg : PoolConfig} {requestTimeout : Nat} {g g' : GatewayServer} {a : Action}
  {tr : List (GatewayServer × Action)}

theorem Explained.later {request : Nat} {results : List (Except PoolError HostLease)}
    {result : Except GatewayError Response} {p : GatewayServer × Action}
    (h : Explained tr request results result) : Explained (p :: tr) request results result := by
  cases h with
  | rejected hresults hconvert => exact .rejected hresults (List.mem_cons_of_mem _ hconvert)
  | unleased hends => exact .unleased hends
  | failed hends hexchange => exact .failed hends hexchange
  | responded hends => exact .responded hends

theorem Following.kept (h : Following tr g) (hreturned : g'.pool.returned = g.pool.returned)
    (hstarted : ∀ r ∈ g.started, r ∈ g'.started)
    (hstages : ∀ r stage, g'.forwards.lookup r = some stage →
      g.forwards.lookup r = some stage ∨ Follows (g.pool.results r) stage)
    (hanswers : ∀ r result, (r, result) ∈ g'.answered →
      (r, result) ∈ g.answered ∨ Explained ((g, a) :: tr) r (g.pool.results r) result) :
    Following ((g, a) :: tr) g' := by
  have hresults := HostPoolManager.results_kept hreturned
  refine ⟨fun r hr => ?_, fun r => ?_, fun r stage hlookup => ?_, fun r result hmem => ?_⟩
  · rw [hresults]
    exact h.unstarted r fun hr' => hr (hstarted r hr')
  · rw [hresults]
    exact h.settled r
  · rw [hresults]
    rcases hstages r stage hlookup with hlookup | hfollows
    · exact h.stages r stage hlookup
    · exact hfollows
  · rw [hresults]
    rcases hanswers r result hmem with hmem | hexplained
    · exact (h.answers r result hmem).later
    · exact hexplained

theorem Following.returned (h : Following tr g) {request : Nat}
    {result : Except PoolError HostLease}
    (hreturned : g'.pool.returned = (request, result) :: g.pool.returned)
    (hnone : leaseHostWithRetry.run (g.pool.results request) = none)
    (hunanswered : ∀ result', (request, result') ∉ g.answered)
    (hstarted : ∀ r ∈ g.started, r ∈ g'.started) (hrequest : request ∈ g'.started)
    (hother : ∀ r, r ≠ request → g'.forwards.lookup r = g.forwards.lookup r)
    (hstage : ∀ stage, g'.forwards.lookup request = some stage →
      Follows (g.pool.results request ++ [result]) stage)
    (hanswers : ∀ r result', (r, result') ∈ g'.answered → (r, result') ∈ g.answered ∨
      r = request ∧ Explained ((g, a) :: tr) r (g.pool.results request ++ [result]) result') :
    Following ((g, a) :: tr) g' := by
  have hsame := HostPoolManager.results_returned hreturned
  have hresults := fun r => HostPoolManager.results_other hreturned (r := r)
  refine ⟨fun r hr => ?_, fun r => ?_, fun r stage hlookup => ?_, fun r result' hmem => ?_⟩
  · have hne : r ≠ request := by
      rintro rfl
      exact hr hrequest
    rw [hresults r hne]
    exact h.unstarted r fun hr' => hr (hstarted r hr')
  · by_cases hr : r = request
    · rw [hr, hsame]
      cases hround : leaseHostWithRetry.round ((g.pool.results request).length + 1) result with
      | none => exact .inl ((RetryLoop.run_concat hnone result).trans hround)
      | some outcome => exact .inr ⟨outcome, RetryLoop.endsWith_concat hnone hround⟩
    · rw [hresults r hr]
      exact h.settled r
  · by_cases hr : r = request
    · rw [hr] at hlookup ⊢
      rw [hsame]
      exact hstage stage hlookup
    · rw [hresults r hr]
      exact h.stages r stage ((hother r hr).symm.trans hlookup)
  · rcases hanswers r result' hmem with hmem | ⟨hr, hexplained⟩
    · have hne : r ≠ request := by
        rintro rfl
        exact hunanswered result' hmem
      rw [hresults r hne]
      exact (h.answers r result' hmem).later
    · rw [hr] at hexplained ⊢
      rw [hsame]
      exact hexplained

theorem answered_not_waiting (hc : Consistent tr g) {request : Nat} (hmem : request ∈ g.forwards)
    (result : Except GatewayError Response) : (request, result) ∉ g.answered := by
  intro hanswered
  have hnodup := hc.accounted.nodup_iff.mp hc.once
  exact (List.nodup_append.mp hnodup).2.2 request (List.mem_map_of_mem hanswered) request
    (List.mem_append_right _ hmem) rfl

theorem answered_not_new (hc : Consistent tr g) {request : Nat} (hnew : request ∉ g.started)
    (result : Except GatewayError Response) : (request, result) ∉ g.answered := fun hanswered =>
  hnew (hc.accounted.mem_iff.mpr (List.mem_append_left _ (List.mem_map_of_mem hanswered)))

theorem Following.goesOn (h : Following tr g) {request : Nat} {stage : ForwardStage}
    (hreturned : g'.pool.returned = g.pool.returned) (hanswered : g'.answered = g.answered)
    (hstarted : ∀ r ∈ g.started, r ∈ g'.started)
    (hforwards : g'.forwards = g.forwards.insert request stage)
    (hfollows : Follows (g.pool.results request) stage) : Following ((g, a) :: tr) g' := by
  refine h.kept hreturned hstarted (fun r stage' hlookup => ?_) fun r result hmem => ?_
  · rw [hforwards] at hlookup
    rcases Table.lookup_insert_cases hlookup with ⟨rfl, rfl⟩ | ⟨-, hlookup⟩
    · exact .inr hfollows
    · exact .inl hlookup
  · rw [hanswered] at hmem
    exact .inl hmem

theorem Following.ended (h : Following tr g) {request : Nat}
    {result : Except GatewayError Response} (hreturned : g'.pool.returned = g.pool.returned)
    (hstarted : ∀ r ∈ g.started, r ∈ g'.started)
    (hforwards : g'.forwards = g.forwards.erase request)
    (hanswered : g'.answered = (request, result) :: g.answered)
    (hexplained : Explained ((g, a) :: tr) request (g.pool.results request) result) :
    Following ((g, a) :: tr) g' := by
  refine h.kept hreturned hstarted (fun r stage hlookup => ?_) fun r result' hmem => ?_
  · rw [hforwards] at hlookup
    exact .inl (Table.lookup_of_erase hlookup)
  · rw [hanswered] at hmem
    rcases List.mem_cons.mp hmem with heq | hmem
    · cases heq
      exact .inr hexplained
    · exact .inl hmem

theorem Following.leaves (h : Following tr g) {request : Nat}
    (hreturned : g'.pool.returned = g.pool.returned) (hstarted : g'.started = g.started)
    (hforwards : g'.forwards = g.forwards.erase request) (hanswered : g'.answered = g.answered) :
    Following ((g, a) :: tr) g' := by
  refine h.kept hreturned (fun r hr => hstarted ▸ hr) (fun r stage hlookup => ?_)
    fun r result hmem => .inl (hanswered ▸ hmem)
  rw [hforwards] at hlookup
  exact .inl (Table.lookup_of_erase hlookup)

theorem Following.refused (h : Following tr g) {request : Nat}
    (hreturned : g'.pool.returned = (request, .error .shuttingDown) :: g.pool.returned)
    (hnone : leaseHostWithRetry.run (g.pool.results request) = none)
    (hunanswered : ∀ result, (request, result) ∉ g.answered)
    (hstarted : ∀ r ∈ g.started, r ∈ g'.started) (hrequest : request ∈ g'.started)
    (hforwards : g'.forwards = g.forwards.erase request)
    (hanswered : g'.answered = (request, .error .shuttingDown) :: g.answered) :
    Following ((g, a) :: tr) g' := by
  have hround : leaseHostWithRetry.round ((g.pool.results request).length + 1)
      (.error .shuttingDown) = some (.error .shuttingDown) := rfl
  refine h.returned hreturned hnone hunanswered hstarted hrequest (fun r hr => ?_)
    (fun stage hlookup => ?_) fun r result hmem => ?_
  · rw [hforwards]
    exact AList.lookup_erase_ne hr
  · rw [hforwards, AList.lookup_erase] at hlookup
    cases hlookup
  · rw [hanswered] at hmem
    rcases List.mem_cons.mp hmem with heq | hmem
    · cases heq
      exact .inr ⟨rfl, .unleased (RetryLoop.endsWith_concat hnone hround)⟩
    · exact .inl hmem

theorem Following.settles (h : Following tr g) {pool : HostPoolManager} {request attempt : Nat}
    {bodyBytes : Bytes} {result : Except PoolError HostLease}
    (hreturned : pool.returned = (request, result) :: g.pool.returned)
    (hlookup : g.forwards.lookup request = some (.leasing bodyBytes attempt))
    (hunanswered : ∀ result', (request, result') ∉ g.answered) (hrequest : request ∈ g.started) :
    Following ((g, a) :: tr) ({ g with pool }.leaseSettled request bodyBytes attempt
      (leaseHostWithRetry.round attempt result)) := by
  obtain ⟨hnone, hattempt⟩ := h.stages request _ hlookup
  have hinsert : ∀ {stage stage' : ForwardStage},
      (g.forwards.insert request stage').lookup request = some stage → stage' = stage :=
    fun hl => Option.some.inj ((AList.lookup_insert g.forwards).symm.trans hl)
  rw [← hattempt]
  have hother := fun r (hr : r ≠ request) => leaseSettled_other { g with pool } hr bodyBytes
    ((g.pool.results request).length + 1)
    (leaseHostWithRetry.round ((g.pool.results request).length + 1) result)
  cases hround : leaseHostWithRetry.round ((g.pool.results request).length + 1) result with
  | none =>
    rw [hround] at hother
    refine h.returned hreturned hnone hunanswered (fun _ hr => hr) hrequest hother
      (fun stage hl => ?_) fun _ _ hmem => .inl hmem
    obtain rfl := hinsert hl
    refine ⟨(RetryLoop.run_concat hnone result).trans hround, ?_⟩
    rw [List.length_append, List.length_singleton]
  | some outcome =>
    have hends := RetryLoop.endsWith_concat hnone hround
    rw [hround] at hother
    cases outcome with
    | ok lease =>
      refine h.returned hreturned hnone hunanswered (fun _ hr => hr) hrequest hother
        (fun stage hl => ?_) fun _ _ hmem => .inl hmem
      obtain rfl := hinsert hl
      exact hends
    | error e =>
      refine h.returned hreturned hnone hunanswered (fun _ hr => hr) hrequest hother
        (fun stage hl => ?_) fun r result' hmem => ?_
      · cases (AList.lookup_erase request g.forwards).symm.trans hl
      · rcases List.mem_cons.mp hmem with heq | hmem
        · cases heq
          exact .inr ⟨rfl, .unleased hends⟩
        · exact .inl hmem

theorem Following.step (h : Following tr g) (hc : Consistent tr g)
    (hm : Moves cfg requestTimeout g a g') : Following ((g, a) :: tr) g' := by
  have hlater : ∀ {request r : Nat}, r ∈ g.started → r ∈ request :: g.started :=
    List.mem_cons_of_mem _
  cases hm with
  | pooled _ _ hreturned =>
    exact h.kept hreturned (fun _ hr => hr) (fun _ _ hl => .inl hl) fun _ _ hmem => .inl hmem
  | handled => exact h.kept rfl (fun _ hr => hr) (fun _ _ hl => .inl hl) fun _ _ hmem => .inl hmem
  | returned _ _ hreturned hlookup =>
    have hmem := Table.lookup_mem hlookup
    exact h.settles hreturned hlookup (answered_not_waiting hc hmem) (hc.accounted.mem hmem)
  | @asked request bodyBytes hnew =>
    have hfollows : Follows (g.pool.results request) (.leasing bodyBytes 1) := by
      rw [h.unstarted request hnew]
      exact ⟨rfl, rfl⟩
    exact h.goesOn rfl rfl (fun _ hr => hlater hr) rfl hfollows
  | @refused request bodyBytes hnew =>
    have hnone : leaseHostWithRetry.run (g.pool.results request) = none := by
      rw [h.unstarted request hnew]
      rfl
    exact h.refused rfl hnone (answered_not_new hc hnew) (fun _ hr => hlater hr)
      List.mem_cons_self rfl rfl
  | rejected hnew =>
    exact h.ended rfl (fun _ hr => hlater hr) rfl rfl
      (.rejected (h.unstarted _ hnew) List.mem_cons_self)
  | askedAgain hlookup =>
    obtain ⟨hnone, hlength⟩ := h.stages _ _ hlookup
    exact h.goesOn rfl rfl (fun _ hr => hr) rfl ⟨hnone, congrArg (· + 1) hlength⟩
  | refusedAgain hlookup =>
    have hmem := Table.lookup_mem hlookup
    exact h.refused rfl (h.stages _ _ hlookup).1 (answered_not_waiting hc hmem) (fun _ hr => hr)
      (hc.accounted.mem hmem) rfl rfl
  | sent hlookup =>
    have hends := h.stages _ _ hlookup
    exact h.goesOn rfl rfl (fun _ hr => hr) rfl hends
  | requestFailed hlookup =>
    exact h.ended rfl (fun _ hr => hr) rfl rfl
      (.failed (h.stages _ _ hlookup) (.inr (.inl ⟨_, rfl⟩)))
  | requestTimedOut hlookup =>
    exact h.ended rfl (fun _ hr => hr) rfl rfl (.failed (h.stages _ _ hlookup) (.inl rfl))
  | responseHead hlookup =>
    exact h.goesOn rfl rfl (fun _ hr => hr) rfl ⟨_, h.stages _ _ hlookup, rfl⟩
  | bodyCollected hlookup =>
    obtain ⟨lease, hends, -⟩ := h.stages _ _ hlookup
    exact h.ended rfl (fun _ hr => hr) rfl rfl (.responded hends)
  | bodyFailed hlookup =>
    obtain ⟨lease, hends, -⟩ := h.stages _ _ hlookup
    exact h.ended rfl (fun _ hr => hr) rfl rfl (.failed hends (.inr (.inr ⟨_, rfl⟩)))
  | cancelledLeasing _ hstep hcancel =>
    have hreturned := ((HostPoolManager.effect_of_step hstep).call_cancelled hcancel).2
    exact h.leaves hreturned rfl rfl rfl
  | cancelledWaiting
  | cancelledRequesting
  | cancelledCollecting => exact h.leaves rfl rfl rfl rfl

theorem following_run (h : Run (system cfg requestTimeout) tr g) : Following tr g := by
  induction h with
  | start => exact ⟨fun _ _ => rfl, fun _ => .inl rfl, nofun, nofun⟩
  | next hr hs ih => exact ih.step (consistent_run hr) (moves_of_run_step hr hs)

theorem settle_eq_none {result : Except PoolError HostLease}
    (h : leaseHostWithRetry.settle result = none) : result = .error .containerNotReady := by
  cases result with
  | ok lease => cases h
  | error e =>
    cases e with
    | containerNotReady => rfl
    | _ => cases h

/-- Whatever the interleaving, an execution does what the loop does with the results of its own
calls, of which there are at most three, each but the last a container that was not ready. -/
theorem retries_follow (h : Run (system cfg requestTimeout) tr g) :
    Following tr g ∧ ∀ request, (g.pool.results request).length ≤ leaseMaxAttempts ∧
      ∀ init last, g.pool.results request = init ++ [last] →
        ∀ result ∈ init, result = .error .containerNotReady := by
  have hfollowing := following_run h
  refine ⟨hfollowing, fun request => ?_⟩
  rcases hfollowing.settled request with hnone | ⟨outcome, hends⟩
  · obtain ⟨hsettle, hlength⟩ := RetryLoop.run_eq_none hnone
    refine ⟨Nat.le_of_lt hlength, fun init last heq result hmem => settle_eq_none ?_⟩
    exact hsettle result (heq ▸ List.mem_append_left _ hmem)
  · refine ⟨hends.length_le, fun init last heq result hmem => settle_eq_none ?_⟩
    obtain ⟨init', last', heq', hsettle, -⟩ := hends.cases
    obtain ⟨rfl, -⟩ := List.append_inj' (heq.symm.trans heq') rfl
    exact hsettle result hmem

def forwardRetried (request : Nat) (bodyBytes : Bytes) : List Action :=
  [.forwardToLambda request (.ok bodyBytes), .pool (.leaseHostLocked request 1),
    .pool .allocatePort, .pool (.createContainer (.ok "c1")), .pool (.startContainer (.ok ())),
    .pool (.inspectContainer (.ok ()) 1)] ++
  (List.range readyMaxAttempts).map (fun n =>
    .pool (.healthChecked ⟨request, .readyWait 1 "c1" 8081 (n + 1)⟩ .connectionError)) ++
  [.pool (.leaseHostRelocked ⟨request, .relockWait 1 "c1" 8081 (.ok false)⟩),
    .pool (.tick (retryDelay 1)), .retry request, .pool (.leaseHostLocked request 2),
    .pool .allocatePort, .pool (.createContainer (.ok "c2")), .pool (.startContainer (.ok ())),
    .pool (.inspectContainer (.ok ()) 2),
    .pool (.healthChecked ⟨request, .readyWait 2 "c2" 8082 1⟩ (.response true)),
    .pool (.leaseHostRelocked ⟨request, .relockWait 2 "c2" 8082 (.ok true)⟩)]

theorem retries_follow_second :
    ∃ tr g, Run (system GatewayConfig.small.poolConfig (5 * nanosPerSecond)) tr g ∧
      g.pool.results 0 = [.error .containerNotReady, .ok ⟨"c2", 8082, 2⟩] ∧
      Following tr g ∧ ∀ request, (g.pool.results request).length ≤ leaseMaxAttempts ∧
        ∀ init last, g.pool.results request = init ++ [last] →
          ∀ result ∈ init, result = .error .containerNotReady := by
  obtain ⟨tr, g, ht, hresults⟩ : ∃ tr g,
      (system GatewayConfig.small.poolConfig (5 * nanosPerSecond)).trace []
        (new GatewayConfig.small.poolConfig) (forwardRetried 0 []) = some (tr, g) ∧
      g.pool.results 0 = [.error .containerNotReady, .ok ⟨"c2", 8082, 2⟩] := ⟨_, _, rfl, rfl⟩
  have hr := Run.start.trace ht
  exact ⟨tr, g, hr, hresults, retries_follow hr⟩

end GatewayServer

end DockerizedLambda
