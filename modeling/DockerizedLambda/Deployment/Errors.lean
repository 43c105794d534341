import DockerizedLambda.Deployment.EndToEnd
import DockerizedLambda.Gateway.ErrorResponse
import DockerizedLambda.Gateway.Retry

/-! What an error that the client gets says about its request: whether it was the request's own
fault, whether there was no container for it, and whether it may have been handled. -/

namespace DockerizedLambda

open Transition

namespace GatewayServer

variable {cfg : PoolConfig} {requestTimeout : Nat} {g g' : GatewayServer} {a : Action}

theorem ExchangeError.status {e : GatewayError} (h : ExchangeError e) :
    e.statusCode = 500 ∨ e.statusCode = 502 ∨ e.statusCode = 504 := by
  rcases h with rfl | ⟨message, rfl⟩ | ⟨message, rfl⟩
  · exact .inr (.inr rfl)
  · exact .inr (.inl rfl)
  · exact .inl rfl

theorem EndsWith_status {results : List (Except PoolError HostLease)} {e : GatewayError}
    (h : leaseHostWithRetry.EndsWith results (.error e)) : e.statusCode = 503 := by
  obtain ⟨init, last, -, -, hlast⟩ := h.cases
  rcases hlast with hsettle | ⟨-, -, hgiveUp⟩
  · cases last with
    | ok lease => cases hsettle
    | error e' => cases e' <;> cases hsettle <;> rfl
  · cases hgiveUp
    rfl

theorem mem_cons_answered {request r : Nat} {e : GatewayError}
    {result : Except GatewayError Response} {answered : List (Nat × Except GatewayError Response)}
    (hmem : (r, .error e) ∈ (request, result) :: answered) :
    (r, .error e) ∈ answered ∨ r = request ∧ .error e = result := by
  rcases List.mem_cons.mp hmem with heq | hmem
  · exact .inr (Prod.mk.inj heq)
  · exact .inl hmem

theorem Moves.errors (hm : Moves cfg requestTimeout g a g') {r : Nat} {e : GatewayError}
    (hmem : (r, .error e) ∈ g'.answered) : (r, .error e) ∈ g.answered ∨ ExchangeError e ∨
      r ∉ g.started ∨ ∃ stage b, g.forwards.lookup r = some stage ∧ stage.toSend = some b := by
  cases hm with
  | @returned _ pool request attempt bodyBytes result _ _ _ hlookup =>
    have hsend : ∃ stage b, g.forwards.lookup request = some stage ∧ stage.toSend = some b :=
      ⟨_, bodyBytes, hlookup, rfl⟩
    generalize leaseHostWithRetry.round attempt result = outcome at hmem
    cases outcome with
    | none => exact .inl hmem
    | some outcome =>
      cases outcome with
      | ok lease => exact .inl hmem
      | error e' =>
        rcases mem_cons_answered hmem with hmem | ⟨rfl, -⟩
        · exact .inl hmem
        · exact .inr (.inr (.inr hsend))
  | refused hnew
  | rejected hnew =>
    rcases mem_cons_answered hmem with hmem | ⟨rfl, -⟩
    · exact .inl hmem
    · exact .inr (.inr (.inl hnew))
  | refusedAgain hlookup =>
    rcases mem_cons_answered hmem with hmem | ⟨rfl, -⟩
    · exact .inl hmem
    · exact .inr (.inr (.inr ⟨_, _, hlookup, rfl⟩))
  | requestFailed =>
    rcases mem_cons_answered hmem with hmem | ⟨-, he⟩
    · exact .inl hmem
    · cases he
      exact .inr (.inl (.inr (.inl ⟨_, rfl⟩)))
  | requestTimedOut =>
    rcases mem_cons_answered hmem with hmem | ⟨-, he⟩
    · exact .inl hmem
    · cases he
      exact .inr (.inl (.inl rfl))
  | bodyFailed =>
    rcases mem_cons_answered hmem with hmem | ⟨-, he⟩
    · exact .inl hmem
    · cases he
      exact .inr (.inl (.inr (.inr ⟨_, rfl⟩)))
  | bodyCollected =>
    rcases mem_cons_answered hmem with hmem | ⟨-, he⟩
    · exact .inl hmem
    · cases he
  | _ => exact .inl hmem

end GatewayServer

namespace Deployment

variable {w : Wire} {cfg : PoolConfig} {requestTimeout : Nat} {d d' : Deployment} {a : Action}
  {tr : List (Deployment × Action)}

def SentErrors (d : Deployment) : Prop :=
  ∀ r e, (r, .error e) ∈ d.gateway.answered → r ∈ d.sent.map Prod.fst →
    GatewayServer.ExchangeError e

theorem Moves.sent (hm : Moves w cfg requestTimeout d a d') :
    d'.sent = d.sent ∨ ∃ request stage entry, a = .sendInvoke request ∧
      d.gateway.forwards.lookup request = some stage ∧ d'.sent = (request, entry) :: d.sent := by
  cases hm with
  | sendInvoke hlookup => exact .inr ⟨_, _, _, rfl, hlookup, rfl⟩
  | _ => exact .inl rfl

theorem Moves.sentErrors (hm : Moves w cfg requestTimeout d a d') (h : SentErrors d)
    (hr : Run (system w cfg requestTimeout) tr d) : SentErrors d' := by
  intro r e hmem hsent
  have hlinked := linked_run hr
  have hgateway := gateway_run hr
  obtain ⟨hmoves, hstays⟩ := hm.gateway_step
  -- what was answered before, and what only now, to a request that has been sent before
  have hold : r ∈ d.sent.map Prod.fst → GatewayServer.ExchangeError e := by
    intro hbefore
    cases haction : gatewayAction w d a with
    | none =>
      rw [hstays haction] at hmem
      exact h r e hmem hbefore
    | some b =>
      have hm := GatewayServer.moves_of_run_step hgateway (hmoves b haction)
      rcases hm.errors hmem with hmem | hexchange | hnew | ⟨stage, b, hlookup, hsend⟩
      · exact h r e hmem hbefore
      · exact hexchange
      · exact absurd hbefore (hlinked.unsent hnew)
      · exact absurd hbefore ((hlinked.stages r stage hlookup).toSend b hsend).1
  rcases hm.sent with heq | ⟨request, stage, entry, rfl, hlookup, heq⟩
  · rw [heq] at hsent
    exact hold hsent
  · rw [heq] at hsent
    rcases List.mem_cons.mp hsent with rfl | hbefore
    · -- a request that is being sent has not been answered
      have hm := GatewayServer.moves_of_run_step hgateway (hmoves _ rfl)
      have hwaiting := GatewayServer.answered_not_waiting (GatewayServer.consistent_run hgateway)
        (Table.lookup_mem hlookup)
      generalize hgateway' : d'.gateway = g' at hm hmem
      cases hm with
      | sent => exact absurd hmem (hwaiting _)
    · exact hold hbefore

theorem sentErrors_run (h : Run (system w cfg requestTimeout) tr d) : SentErrors d :=
  h.invariant (I := SentErrors) (fun _ _ hmem => absurd hmem List.not_mem_nil)
    fun hr hi hs => (moves_of_step hs).sentErrors hi hr

theorem arrived_run (h : Run (system w cfg requestTimeout) tr d) {d₀ : Deployment}
    {arrival : Arrival} (hmem : (d₀, .arrive arrival) ∈ tr) : arrival ∈ d.arrived := by
  induction h with
  | start => cases hmem
  | @next tr d d' a _ hs ih =>
    have hgrows : d.arrived ⊆ d'.arrived ∧ ∀ other, a = .arrive other → other ∈ d'.arrived := by
      cases (moves_of_step hs : Moves w cfg requestTimeout d a d') with
      | arrive =>
        refine ⟨List.subset_cons_self _ _, fun _ heq => ?_⟩
        cases heq
        exact List.mem_cons_self
      | _ => exact ⟨fun _ => id, nofun⟩
    rcases List.mem_cons.mp hmem with heq | hmem
    · cases heq
      exact hgrows.2 arrival rfl
    · exact hgrows.1 (ih hmem)

theorem Arrival.bodyBytes_status {arrival : Arrival} {e : GatewayError}
    (h : arrival.bodyBytes w = .error e) : e.statusCode = 400 := by
  unfold Arrival.bodyBytes at h
  split at h
  next =>
    obtain rfl := Except.error.inj h
    rfl
  next =>
    split at h
    next =>
      obtain rfl := Except.error.inj h
      rfl
    next => cases h

theorem rejected_arrival (h : Run (system w cfg requestTimeout) tr d) {g : GatewayServer}
    {request : Nat} {e : GatewayError}
    (hmem : (g, .forwardToLambda request (.error e)) ∈
      Run.projected gateway (gatewayAction w) tr) :
    ∃ arrival ∈ d.arrived, arrival.request = request ∧ arrival.bodyBytes w = .error e := by
  obtain ⟨d₀, a, hstep, -, haction⟩ := Run.of_mem_projected hmem
  cases a with
  | arrive arrival =>
    obtain ⟨hrequest, hbody⟩ := GatewayServer.Action.forwardToLambda.inj (Option.some.inj haction)
    exact ⟨arrival, arrived_run h hstep, hrequest, hbody⟩
  | gateway action =>
    obtain rfl := Option.some.inj haction
    obtain ⟨later, earlier, rfl⟩ := List.append_of_mem hstep
    obtain ⟨-, d₁, hs, -⟩ := h.split
    have hm : Moves w cfg requestTimeout d₀
        (.gateway (.forwardToLambda request (.error e))) d₁ := moves_of_step hs
    cases hm with
    | gateway halone => cases halone
  | _ => cases haction

inductive Failed (w : Wire) (d : Deployment) (request : Nat) (e : GatewayError) : Nat → Prop
  | unconverted {arrival : Arrival} (harrived : arrival ∈ d.arrived)
      (hrequest : arrival.request = request) (hconvert : arrival.bodyBytes w = .error e)
      (hunsent : ∀ containerId, .invoke request ∉ (d.runtimes containerId).connected) :
      Failed w d request e 400
  | unleased (hends : leaseHostWithRetry.EndsWith (d.gateway.pool.results request) (.error e))
      (hunsent : ∀ containerId, .invoke request ∉ (d.runtimes containerId).connected) :
      Failed w d request e 503
  | broken {lease : HostLease} {status : Nat}
      (hends : leaseHostWithRetry.EndsWith (d.gateway.pool.results request) (.ok lease))
      (hstatus : status = 500 ∨ status = 502 ∨ status = 504) :
      Failed w d request e status

/-- A client that gets no response of a container gets a JSON error. Its status is 400 or 503 only
if the request has reached no container, and any other one only after a host was leased for it. -/
theorem error_answers {http : HttpCrate} (hc : http.Lawful) (hroom : 0 < http.maxFields)
    (toVec : ErrorDocument → Except String Bytes) (now : Nat)
    (h : Run (system w cfg requestTimeout) tr d) {request : Nat} {e : GatewayError}
    (hanswer : (request, .error e) ∈ d.gateway.answered) :
    ∃ response, GatewayServer.handleRequest http toVec now (.error e) = .ok response ∧
      response.parts.headers = [("content-type", "application/json")] ∧
      response.body = (match toVec ⟨response.parts.status, e.errorMessage, now⟩ with
        | .ok bytes => bytes
        | .error _ => Utf8.encode "Internal server error") ∧
      Failed w d request e response.parts.status := by
  refine ⟨_, GatewayServer.errorResponse_eq hc hroom e, rfl, rfl, ?_⟩
  have hlinked := linked_run h
  -- an error other than the exchange's leaves the request unsent
  have hunsent : e.statusCode = 400 ∨ e.statusCode = 503 →
      ∀ containerId, .invoke request ∉ (d.runtimes containerId).connected := by
    intro hstatus containerId hconnected
    obtain ⟨b, hsent⟩ := hlinked.connected containerId request hconnected
    have hexchange := sentErrors_run h request e hanswer (List.mem_map_of_mem hsent)
    have hother := hexchange.status
    omega
  show Failed w d request e e.statusCode
  cases (GatewayServer.following_run (gateway_run h)).answers request _ hanswer with
  | rejected _ hconvert =>
    obtain ⟨arrival, harrived, hrequest, hbody⟩ := rejected_arrival h hconvert
    have hstatus := Arrival.bodyBytes_status hbody
    rw [hstatus]
    exact .unconverted harrived hrequest hbody (hunsent (.inl hstatus))
  | unleased hends =>
    have hstatus := GatewayServer.EndsWith_status hends
    rw [hstatus]
    exact .unleased hends (hunsent (.inr hstatus))
  | failed hends hexchange => exact .broken hends hexchange.status

def shutdownJson : String :=
  "\x7b\"error\":\x7b\"message\":\"Gateway is shutting down\",\"status\":503," ++
  "\"timestamp\":\"1970-01-01T00:00:00Z\"\x7d\x7d"

def shutdownToVec (document : ErrorDocument) : Except String Bytes :=
  if document = ⟨503, "Gateway is shutting down", 0⟩ then .ok (Utf8.encode shutdownJson)
  else .error "another document"

theorem error_answers_shutting_down :
    ∃ tr d response,
      Run (system plainWire GatewayConfig.small.poolConfig (5 * nanosPerSecond)) tr d ∧
      d.gateway.answered = [(0, .error .shuttingDown)] ∧
      GatewayServer.handleRequest HttpCrate.tokens shutdownToVec 0 (.error .shuttingDown) =
        .ok response ∧
      response.parts.headers = [("content-type", "application/json")] ∧
      response.body = Utf8.encode shutdownJson ∧
      Failed plainWire d 0 .shuttingDown response.parts.status := by
  have hrefused : ((system plainWire GatewayConfig.small.poolConfig (5 * nanosPerSecond)).trace []
      (new plainWire GatewayConfig.small.poolConfig)
      [.gateway (.pool .startShutdown),
        .arrive ⟨0, ⟨"GET", "/", none, [], .ok [], none⟩, 7, 0⟩]).map
      (fun run => run.2.gateway.answered) = some [(0, .error .shuttingDown)] := by
    decide +kernel
  obtain ⟨⟨tr, d⟩, ht, hanswered⟩ := Option.map_eq_some_iff.mp hrefused
  have hr := Run.start.trace ht
  have hmem : (0, .error .shuttingDown) ∈ d.gateway.answered := hanswered ▸ List.mem_cons_self
  obtain ⟨response, hresponse, hheaders, hbody, hfailed⟩ :=
    error_answers HttpCrate.tokens_lawful (by decide) shutdownToVec 0 hr hmem
  refine ⟨tr, d, response, hr, hanswered, hresponse, hheaders, ?_, hfailed⟩
  have hstatus : response.parts.status = 503 := by
    rw [GatewayServer.handleRequest, GatewayServer.errorResponse_eq HttpCrate.tokens_lawful
      (by decide)] at hresponse
    obtain rfl := Except.ok.inj hresponse
    rfl
  rw [hbody, hstatus]
  rfl

end Deployment

end DockerizedLambda
