import DockerizedLambda.Deployment.Sides

/-! From a client's request to the response that it gets: whatever the two sides do in between,
in whatever order, the response is the one that a container's user handler made of this request,
and the handler has been called for it no more than once. -/

namespace DockerizedLambda

open Transition

namespace Deployment

structure Joined (w : Wire) (d : Deployment) (request : Nat) (stage : ForwardStage) : Prop where
  toSend : ∀ b, stage.toSend = some b → request ∉ d.sent.map Prod.fst ∧
    ∃ arrival ∈ d.arrived, arrival.request = request ∧ arrival.bodyBytes w = .ok b
  head : ∀ parts, stage.head = some parts →
    ∃ response ∈ d.responses request, w.readsHead response parts = true

structure Linked (w : Wire) (d : Deployment) : Prop where
  orderly : ∀ containerId, LambdaServer.Orderly w.crates (d.runtimes containerId)
  arrived : d.arrived.map Arrival.request = d.gateway.started
  once : (d.sent.map Prod.fst).Nodup
  origin : ∀ r containerId b, (r, containerId, b) ∈ d.sent →
    ∃ arrival ∈ d.arrived, arrival.request = r ∧ arrival.bodyBytes w = .ok b
  connected : ∀ containerId r, Connection.invoke r ∈ (d.runtimes containerId).connected →
    ∃ b, (r, containerId, b) ∈ d.sent
  heads : ∀ containerId r head, (Connection.invoke r, head) ∈ (d.runtimes containerId).heads →
    head = .invoke
  bodies : ∀ containerId r b, (Connection.invoke r, .ok b) ∈ (d.runtimes containerId).bodies →
    (r, containerId, b) ∈ d.sent
  stages : ∀ r stage, d.gateway.forwards.lookup r = some stage → Joined w d r stage
  answers : ∀ r response, (r, .ok response) ∈ d.gateway.answered →
    (∃ written ∈ d.responses r, w.readsHead written response.parts = true) ∧
      ∃ written ∈ d.responses r, w.readsBody written response.body = true

variable {w : Wire} {cfg : PoolConfig} {requestTimeout : Nat} {d d' : Deployment} {a : Action}
  {tr : List (Deployment × Action)}

theorem mem_responses {request : Nat} {response : Response} :
    response ∈ d.responses request ↔ ∃ containerId b, (request, containerId, b) ∈ d.sent ∧
      (.invoke request, response) ∈ (d.runtimes containerId).responded := by
  unfold responses
  rw [List.mem_flatMap]
  constructor
  · rintro ⟨⟨r, containerId, b⟩, hsent, hmem⟩
    dsimp only at hmem
    split at hmem
    next hr =>
      obtain ⟨⟨connection, other⟩, hresponded, heq⟩ := List.mem_filterMap.mp hmem
      dsimp only at heq
      split_ifs at heq with hconnection
      obtain rfl := Option.some.inj heq
      subst hr hconnection
      exact ⟨containerId, b, hsent, hresponded⟩
    next => cases hmem
  · rintro ⟨containerId, b, hsent, hresponded⟩
    refine ⟨(request, containerId, b), hsent, ?_⟩
    dsimp only
    rw [if_pos rfl]
    exact List.mem_filterMap.mpr ⟨_, hresponded, if_pos rfl⟩

theorem responses_mono (hsent : d.sent ⊆ d'.sent)
    (hresponded : ∀ containerId,
      (d.runtimes containerId).responded ⊆ (d'.runtimes containerId).responded) (request : Nat) :
    d.responses request ⊆ d'.responses request := by
  intro response hmem
  obtain ⟨containerId, b, hs, hr⟩ := mem_responses.mp hmem
  exact mem_responses.mpr ⟨containerId, b, hsent hs, hresponded containerId hr⟩

theorem Joined.mono {request : Nat} {stage : ForwardStage} (h : Joined w d request stage)
    (hsent : d'.sent = d.sent) (harrived : d.arrived ⊆ d'.arrived)
    (hresponses : d.responses request ⊆ d'.responses request) : Joined w d' request stage := by
  refine ⟨fun b hb => ?_, fun parts hparts => ?_⟩
  · obtain ⟨hnew, arrival, hmem, harrival⟩ := h.toSend b hb
    rw [hsent]
    exact ⟨hnew, arrival, harrived hmem, harrival⟩
  · obtain ⟨response, hmem, hread⟩ := h.head parts hparts
    exact ⟨response, hresponses hmem, hread⟩

/-! ### The steps of the gateway -/

theorem Linked.apart (h : Linked w d) {g : GatewayServer}
    (ha : GatewayServer.Apart d.gateway g) : Linked w { d with gateway := g } := by
  refine { h with arrived := ?_, stages := ?_, answers := ?_ }
  · exact h.arrived.trans ha.started.symm
  · intro r stage' hlookup
    obtain ⟨stage, hbefore, hsend, hhead⟩ := ha.stages r stage' hlookup
    have hjoined := h.stages r stage hbefore
    exact ⟨fun b hb => hjoined.toSend b (hsend b hb),
      fun parts hparts => hjoined.head parts (hhead parts hparts)⟩
  · exact fun r response hmem => h.answers r response (ha.answers r response hmem)

theorem Linked.unsent (h : Linked w d) {request : Nat} (hnew : request ∉ d.gateway.started) :
    request ∉ d.sent.map Prod.fst := by
  intro hmem
  obtain ⟨⟨r, containerId, b⟩, hsent, rfl⟩ := List.mem_map.mp hmem
  obtain ⟨arrival, harrival, rfl, -⟩ := h.origin r containerId b hsent
  exact hnew (h.arrived ▸ List.mem_map_of_mem harrival)

theorem Linked.arrives (h : Linked w d) {g : GatewayServer} {arrival : Arrival}
    (hstarted : g.started = arrival.request :: d.gateway.started)
    (hstages : ∀ r stage, g.forwards.lookup r = some stage →
      d.gateway.forwards.lookup r = some stage ∨ r = arrival.request ∧
        r ∉ d.gateway.started ∧ ∃ b, stage = .leasing b 1 ∧ arrival.bodyBytes w = .ok b)
    (hanswers : ∀ r response, (r, .ok response) ∈ g.answered →
      (r, .ok response) ∈ d.gateway.answered) :
    Linked w { d with gateway := g, arrived := arrival :: d.arrived } := by
  refine { h with arrived := ?_, origin := ?_, stages := ?_, answers := ?_ }
  · exact (congrArg (arrival.request :: ·) h.arrived).trans hstarted.symm
  · intro r containerId b hsent
    obtain ⟨other, hother, horigin⟩ := h.origin r containerId b hsent
    exact ⟨other, List.mem_cons_of_mem _ hother, horigin⟩
  · intro r stage hlookup
    rcases hstages r stage hlookup with hlookup | ⟨hr, hnew, b, rfl, hb⟩
    · exact (h.stages r stage hlookup).mono rfl (List.subset_cons_self _ _) fun _ => id
    · refine ⟨fun b' hb' => ⟨h.unsent hnew, arrival, List.mem_cons_self, hr.symm, ?_⟩, nofun⟩
      cases hb'
      exact hb
  · exact fun r response hmem => h.answers r response (hanswers r response hmem)

theorem Linked.arrive (h : Linked w d) {g : GatewayServer} {arrival : Arrival}
    (hm : GatewayServer.Moves cfg requestTimeout d.gateway
      (.forwardToLambda arrival.request (arrival.bodyBytes w)) g) :
    Linked w { d with gateway := g, arrived := arrival :: d.arrived } := by
  generalize hbody : arrival.bodyBytes w = body at hm
  cases hm with
  | asked hnew =>
    refine h.arrives rfl (fun r stage hlookup => ?_) fun _ _ hmem => hmem
    rcases Table.lookup_insert_cases hlookup with ⟨hr, hstage⟩ | ⟨-, hlookup⟩
    · exact .inr ⟨hr, hr ▸ hnew, _, hstage, hbody⟩
    · exact .inl hlookup
  | refused
  | rejected =>
    exact h.arrives rfl (fun r stage hlookup => .inl (Table.lookup_of_erase hlookup))
      fun _ _ => GatewayServer.ok_of_cons_error

theorem Linked.responseHead (h : Linked w d) {g : GatewayServer} {request : Nat}
    {parts : ResponseParts}
    (hm : GatewayServer.Moves cfg requestTimeout d.gateway (.responseHead request parts) g)
    (hread : ∃ response ∈ d.responses request, w.readsHead response parts = true) :
    Linked w { d with gateway := g } := by
  cases hm with
  | responseHead hlookup =>
    refine { h with stages := fun r stage hl => ?_ }
    rcases Table.lookup_insert_cases hl with ⟨rfl, rfl⟩ | ⟨-, hl⟩
    · refine ⟨nofun, fun parts' hparts => ?_⟩
      obtain rfl := Option.some.inj hparts
      exact hread
    · exact (h.stages r stage hl).mono rfl (fun _ => id) fun _ => id

theorem Linked.bodyCollected (h : Linked w d) {g : GatewayServer} {request : Nat} {body : Bytes}
    (hm : GatewayServer.Moves cfg requestTimeout d.gateway (.bodyCollected request body) g)
    (hread : ∃ response ∈ d.responses request, w.readsBody response body = true) :
    Linked w { d with gateway := g } := by
  cases hm with
  | bodyCollected hlookup =>
    refine { h with stages := fun r stage hl => ?_, answers := fun r response hmem => ?_ }
    · exact (h.stages r stage (Table.lookup_of_erase hl)).mono rfl (fun _ => id) fun _ => id
    · rcases List.mem_cons.mp hmem with heq | hmem
      · cases heq
        exact ⟨(h.stages _ _ hlookup).head _ rfl, hread⟩
      · exact h.answers r response hmem

/-! ### The steps of a runtime -/

theorem Linked.runtime (h : Linked w d) {containerId : ContainerId}
    {action : LambdaServer.Action Connection} {runtime : LambdaServer Connection}
    (hreadable : d.readable containerId action = true)
    (hm : LambdaServer.Moves w.crates (d.runtimes containerId) action runtime) :
    Linked w { d with runtimes := Function.update d.runtimes containerId runtime } := by
  have hresponses : ∀ r, d.responses r ⊆
      responses { d with runtimes := Function.update d.runtimes containerId runtime } r := by
    refine responses_mono (fun _ => id) ?_
    refine (Function.forall_update_iff d.runtimes
      fun c (rt : LambdaServer Connection) => (d.runtimes c).responded ⊆ rt.responded).mpr ?_
    exact ⟨hm.responded, fun _ _ => fun _ => id⟩
  refine { h with
    orderly := ?_, connected := ?_, heads := ?_, bodies := ?_, stages := ?_, answers := ?_ }
  · exact (Function.forall_update_iff d.runtimes
      fun _ (rt : LambdaServer Connection) => LambdaServer.Orderly w.crates rt).mpr
        ⟨hm.orderly (h.orderly containerId), fun c _ => h.orderly c⟩
  · refine (Function.forall_update_iff d.runtimes fun c (rt : LambdaServer Connection) =>
      ∀ r, Connection.invoke r ∈ rt.connected → ∃ b, (r, c, b) ∈ d.sent).mpr
        ⟨fun r hr => ?_, fun c _ => h.connected c⟩
    rcases hm.connected_cases hr with hr | rfl
    · exact h.connected containerId r hr
    · cases hreadable
  · refine (Function.forall_update_iff d.runtimes fun _ (rt : LambdaServer Connection) =>
      ∀ r head, (Connection.invoke r, head) ∈ rt.heads → head = .invoke).mpr
        ⟨fun r head hr => ?_, fun c _ => h.heads c⟩
    rcases hm.heads_cases hr with hr | ⟨rfl, hphase⟩
    · exact h.heads containerId r head hr
    · simp only [readable, hphase] at hreadable
      exact of_decide_eq_true hreadable
  · refine (Function.forall_update_iff d.runtimes fun c (rt : LambdaServer Connection) =>
      ∀ r b, (Connection.invoke r, .ok b) ∈ rt.bodies → (r, c, b) ∈ d.sent).mpr
        ⟨fun r b hr => ?_, fun c _ => h.bodies c⟩
    rcases hm.bodies_cases hr with hr | ⟨rfl, hphase⟩
    · exact h.bodies containerId r b hr
    · simp only [readable, hphase] at hreadable
      exact of_decide_eq_true hreadable
  · exact fun r stage hlookup =>
      (h.stages r stage hlookup).mono rfl (fun _ => id) (hresponses r)
  · intro r response hmem
    obtain ⟨⟨written, hwritten, hhead⟩, written', hwritten', hbody⟩ := h.answers r response hmem
    exact ⟨⟨written, hresponses r hwritten, hhead⟩, written', hresponses r hwritten', hbody⟩

/-! ### The step that both take -/

theorem Linked.sendInvoke (h : Linked w d) {g : GatewayServer}
    {runtime : LambdaServer Connection} {request startTime : Nat} {b : Bytes} {lease : HostLease}
    (hlookup : d.gateway.forwards.lookup request = some (.requesting b lease startTime false))
    (hforwards : g.forwards =
      d.gateway.forwards.insert request (.requesting b lease startTime true))
    (hstarted : g.started = d.gateway.started) (hanswered : g.answered = d.gateway.answered)
    (hm : LambdaServer.Moves w.crates (d.runtimes lease.containerId)
      (.connect (.invoke request)) runtime) :
    Linked w { d with
      gateway := g
      runtimes := Function.update d.runtimes lease.containerId runtime
      sent := (request, lease.containerId, b) :: d.sent } := by
  obtain ⟨hnew, arrival, harrival, horigin⟩ := (h.stages request _ hlookup).toSend b rfl
  have hsent : d.sent ⊆ (request, lease.containerId, b) :: d.sent := List.subset_cons_self _ _
  have hresponses : ∀ r, d.responses r ⊆
      responses { d with
        runtimes := Function.update d.runtimes lease.containerId runtime
        sent := (request, lease.containerId, b) :: d.sent } r := by
    refine responses_mono hsent ?_
    refine (Function.forall_update_iff d.runtimes
      fun c (rt : LambdaServer Connection) => (d.runtimes c).responded ⊆ rt.responded).mpr ?_
    exact ⟨hm.responded, fun _ _ => fun _ => id⟩
  refine {
    orderly := ?_
    arrived := h.arrived.trans hstarted.symm
    once := List.nodup_cons.mpr ⟨hnew, h.once⟩
    origin := ?_
    connected := ?_
    heads := ?_
    bodies := ?_
    stages := ?_
    answers := ?_ }
  · exact (Function.forall_update_iff d.runtimes
      fun _ (rt : LambdaServer Connection) => LambdaServer.Orderly w.crates rt).mpr
        ⟨hm.orderly (h.orderly _), fun c _ => h.orderly c⟩
  · intro r containerId b' hmem
    rcases List.mem_cons.mp hmem with heq | hmem
    · cases heq
      exact ⟨arrival, harrival, horigin⟩
    · exact h.origin r containerId b' hmem
  · refine (Function.forall_update_iff d.runtimes fun c (rt : LambdaServer Connection) =>
      ∀ r, Connection.invoke r ∈ rt.connected →
        ∃ b', (r, c, b') ∈ (request, lease.containerId, b) :: d.sent).mpr
        ⟨fun r hr => ?_, fun c _ r hr => ?_⟩
    · rcases hm.connected_cases hr with hr | heq
      · obtain ⟨b', hb'⟩ := h.connected _ r hr
        exact ⟨b', hsent hb'⟩
      · cases heq
        exact ⟨b, List.mem_cons_self⟩
    · obtain ⟨b', hb'⟩ := h.connected c r hr
      exact ⟨b', hsent hb'⟩
  · refine (Function.forall_update_iff d.runtimes fun _ (rt : LambdaServer Connection) =>
      ∀ r head, (Connection.invoke r, head) ∈ rt.heads → head = .invoke).mpr
        ⟨fun r head hr => ?_, fun c _ => h.heads c⟩
    rcases hm.heads_cases hr with hr | ⟨heq, -⟩
    · exact h.heads _ r head hr
    · cases heq
  · refine (Function.forall_update_iff d.runtimes fun c (rt : LambdaServer Connection) =>
      ∀ r b', (Connection.invoke r, .ok b') ∈ rt.bodies →
        (r, c, b') ∈ (request, lease.containerId, b) :: d.sent).mpr
        ⟨fun r b' hr => ?_, fun c _ r b' hr => hsent (h.bodies c r b' hr)⟩
    rcases hm.bodies_cases hr with hr | ⟨heq, -⟩
    · exact hsent (h.bodies _ r b' hr)
    · cases heq
  · intro r stage hl
    dsimp only at hl
    rw [hforwards] at hl
    rcases Table.lookup_insert_cases hl with ⟨rfl, rfl⟩ | ⟨hne, hl⟩
    · exact ⟨nofun, nofun⟩
    · obtain ⟨htoSend, hhead⟩ := h.stages r stage hl
      refine ⟨fun b' hb' => ?_, fun parts hparts => ?_⟩
      · obtain ⟨hunsent, hfrom⟩ := htoSend b' hb'
        exact ⟨fun hmem => (List.mem_cons.mp hmem).elim hne hunsent, hfrom⟩
      · obtain ⟨response, hmem, hread⟩ := hhead parts hparts
        exact ⟨response, hresponses r hmem, hread⟩
  · intro r response hmem
    dsimp only at hmem
    rw [hanswered] at hmem
    obtain ⟨⟨written, hwritten, hhead⟩, written', hwritten', hbody⟩ := h.answers r response hmem
    exact ⟨⟨written, hresponses r hwritten, hhead⟩, written', hresponses r hwritten', hbody⟩

theorem Moves.linked (hm : Moves w cfg requestTimeout d a d') (h : Linked w d)
    {tr' : List (GatewayServer × GatewayServer.Action)}
    (hr : Run (GatewayServer.system cfg requestTimeout) tr' d.gateway) : Linked w d' := by
  cases hm with
  | gateway halone hstep =>
    exact h.apart ((GatewayServer.moves_of_run_step hr hstep).apart halone)
  | arrive hstep => exact h.arrive (GatewayServer.moves_of_run_step hr hstep)
  | sendInvoke hlookup hstep hconnect =>
    cases GatewayServer.moves_of_run_step hr hstep with
    | sent hbefore =>
      obtain ⟨rfl, rfl, rfl, rfl⟩ := ForwardStage.requesting.inj
        (Option.some.inj (hlookup.symm.trans hbefore))
      exact h.sendInvoke hlookup rfl rfl rfl (LambdaServer.moves_of_step hconnect)
  | responseHead hread hstep =>
    exact h.responseHead (GatewayServer.moves_of_run_step hr hstep) hread
  | bodyCollected hread hstep =>
    exact h.bodyCollected (GatewayServer.moves_of_run_step hr hstep) hread
  | runtime hreadable hstep => exact h.runtime hreadable (LambdaServer.moves_of_step hstep)

theorem linked_run (h : Run (system w cfg requestTimeout) tr d) : Linked w d := by
  induction h with
  | start =>
    exact {
      orderly := fun _ => LambdaServer.orderly_run .start
      arrived := rfl
      once := List.nodup_nil
      origin := nofun
      connected := nofun
      heads := nofun
      bodies := nofun
      stages := nofun
      answers := nofun }
  | next hr hs ih => exact (moves_of_step hs).linked ih (gateway_run hr)

/-! ### A wire that is lawful -/

def isInvokeRequest (r : LambdaRequest) : Bool :=
  r.requestId == 7 && r.method == "GET" && r.path == "/" && r.queryParameters.entries.isEmpty &&
    r.headers.entries.isEmpty && r.body == "" && r.remoteAddr.isNone && r.timestamp == 0

def plainWire : Wire where
  crates := LambdaHandler.plainCrates
  parse _ := []
  toVec r :=
    if isInvokeRequest r then .ok (Utf8.encode LambdaHandler.invokeJson)
    else .error "key must be a string"
  readsHead response parts := response.parts = parts
  readsBody response body := response.body = body
  lambdaPort _ := 8081

theorem eq_invokeRequest {r : LambdaRequest} (h : isInvokeRequest r = true) :
    r = LambdaHandler.invokeRequest := by
  unfold isInvokeRequest at h
  simp only [Bool.and_eq_true, beq_iff_eq, List.isEmpty_iff, Option.isNone_iff_eq_none] at h
  obtain ⟨⟨⟨⟨⟨⟨⟨hid, hmethod⟩, hpath⟩, hquery⟩, hheaders⟩, hbody⟩, haddr⟩, htime⟩ := h
  obtain ⟨_, _, _, queryParameters, headers, _, _, _⟩ := r
  obtain rfl : queryParameters = ∅ := AList.ext hquery
  obtain rfl : headers = ∅ := AList.ext hheaders
  subst hid hmethod hpath hbody haddr htime
  rfl

theorem plainWire_lawful : plainWire.Lawful where
  fromStr_toVec r b h := by
    have hfrom : LambdaHandler.plainCrates.fromStr LambdaHandler.invokeJson =
        .ok LambdaHandler.invokeRequest := by
      unfold LambdaHandler.plainCrates
      dsimp only
      rw [if_pos rfl]
    unfold plainWire at h
    dsimp only at h
    split at h
    next hr =>
      obtain rfl := Except.ok.inj h
      obtain rfl := eq_invokeRequest hr
      exact ⟨_, _, Utf8.decode_encode _, hfrom, rfl, rfl, rfl, fun _ => rfl, fun _ => rfl, rfl,
        rfl, rfl⟩
    next => cases h

def plainInvoke : List Action :=
  .arrive ⟨0, ⟨"GET", "/", none, [], .ok [], none⟩, 7, 0⟩ ::
  (HostPoolManager.leaseSpawned 0 1 "c1" 8081).tail.map (fun b => .gateway (.pool b)) ++
  [.runtime "c1" (.bind (.ok ())), .sendInvoke 0, .runtime "c1" (.accept (.ok ())),
    .runtime "c1" (.requestHead .invoke),
    .runtime "c1" (.bodyCollected (.ok (Utf8.encode LambdaHandler.invokeJson))),
    .runtime "c1" (.handled LambdaHandler.plainResponse 5000000)]

/-! ### What becomes of a request -/

theorem sent_unique (h : Linked w d) {r : Nat} {c c' : ContainerId} {b b' : Bytes}
    (hsent : (r, c, b) ∈ d.sent) (hsent' : (r, c', b') ∈ d.sent) : c = c' ∧ b = b' := by
  have heq := List.inj_on_of_nodup_map h.once hsent hsent' rfl
  exact Prod.mk.inj (Prod.mk.inj heq).2

theorem Linked.body_sent (h : Linked w d) {containerId : ContainerId} {r : Nat}
    {body : Except String Bytes}
    (hbody : (Connection.invoke r, body) ∈ (d.runtimes containerId).bodies)
    {lambdaRequest : LambdaRequest}
    (hparse : LambdaHandler.parseRequest w.crates body = .ok lambdaRequest) :
    ∃ b, body = .ok b ∧ (r, containerId, b) ∈ d.sent := by
  cases body with
  | error e => cases hparse
  | ok b => exact ⟨b, rfl, h.bodies containerId r b hbody⟩

theorem Linked.parsed_own (h : Linked w d) (hw : w.Lawful) {containerId : ContainerId} {r : Nat}
    {b : Bytes} (hsent : (r, containerId, b) ∈ d.sent) :
    ∃ arrival ∈ d.arrived, arrival.request = r ∧ ∃ lambdaRequest lambdaRequest',
      arrival.lambdaRequest w = .ok lambdaRequest ∧ lambdaRequest'.Agrees lambdaRequest ∧
        LambdaHandler.parseRequest w.crates (.ok b) = .ok lambdaRequest' := by
  obtain ⟨arrival, harrival, hr, hbytes⟩ := h.origin r containerId b hsent
  unfold Arrival.bodyBytes at hbytes
  cases hconvert : arrival.lambdaRequest w with
  | error e =>
    rw [hconvert] at hbytes
    cases hbytes
  | ok lambdaRequest =>
    rw [hconvert] at hbytes
    dsimp only at hbytes
    split at hbytes
    next => cases hbytes
    next bodyBytes hvec =>
      obtain rfl := Except.ok.inj hbytes
      obtain ⟨text, lambdaRequest', hdecode, hfrom, hagrees⟩ := hw.fromStr_toVec _ _ hvec
      refine ⟨arrival, harrival, hr, lambdaRequest, lambdaRequest', hconvert, hagrees, ?_⟩
      rw [LambdaHandler.parseRequest, hdecode]
      dsimp only
      rw [hfrom]

/-- However often and in whatever order the two sides fail, time out and are cancelled, the user
handler is called for a request at most once, in one container, and with this very request. -/
theorem handled_once (hw : w.Lawful) (h : Run (system w cfg requestTimeout) tr d)
    (request : Nat) :
    (∀ containerId lambdaRequest',
      (.invoke request, lambdaRequest') ∈ (d.runtimes containerId).called →
        ∃ arrival ∈ d.arrived, arrival.request = request ∧ ∃ lambdaRequest,
          arrival.lambdaRequest w = .ok lambdaRequest ∧ lambdaRequest'.Agrees lambdaRequest) ∧
    (∀ containerId containerId' lambdaRequest lambdaRequest',
      (.invoke request, lambdaRequest) ∈ (d.runtimes containerId).called →
      (.invoke request, lambdaRequest') ∈ (d.runtimes containerId').called →
        containerId = containerId') ∧
    ∀ containerId, ((d.runtimes containerId).called.map Prod.fst).Nodup := by
  have hlinked := linked_run h
  have hsent : ∀ containerId lambdaRequest',
      (.invoke request, lambdaRequest') ∈ (d.runtimes containerId).called →
        ∃ b, (request, containerId, b) ∈ d.sent ∧
          LambdaHandler.parseRequest w.crates (.ok b) = .ok lambdaRequest' := by
    intro containerId lambdaRequest' hcalled
    obtain ⟨body, hbody, hparse⟩ := (hlinked.orderly containerId).calls _ _ hcalled
    obtain ⟨b, rfl, hb⟩ := hlinked.body_sent hbody hparse
    exact ⟨b, hb, hparse⟩
  refine ⟨fun containerId lambdaRequest' hcalled => ?_, fun c c' _ _ hc hc' => ?_,
    fun containerId => ?_⟩
  · obtain ⟨b, hb, hparse⟩ := hsent containerId lambdaRequest' hcalled
    obtain ⟨arrival, harrival, hr, lambdaRequest, other, hconvert, hagrees, hparse'⟩ :=
      hlinked.parsed_own hw hb
    obtain rfl := Except.ok.inj (hparse'.symm.trans hparse)
    exact ⟨arrival, harrival, hr, lambdaRequest, hconvert, hagrees⟩
  · obtain ⟨b, hb, -⟩ := hsent c _ hc
    obtain ⟨b', hb', -⟩ := hsent c' _ hc'
    exact (sent_unique hlinked hb hb').1
  · have hruntime := hlinked.orderly containerId
    have haccepted : (d.runtimes containerId).accepted.Nodup := by
      have honce := hruntime.once
      rw [hruntime.order] at honce
      exact (List.nodup_append.mp honce).1
    exact haccepted.sublist hruntime.called

theorem handled_once_plain :
    ∃ tr d, Run (system plainWire GatewayConfig.small.poolConfig (5 * nanosPerSecond)) tr d ∧
      (d.runtimes "c1").called.map Prod.fst = [.invoke 0] ∧
      (∀ containerId containerId' lambdaRequest lambdaRequest',
        (.invoke 0, lambdaRequest) ∈ (d.runtimes containerId).called →
        (.invoke 0, lambdaRequest') ∈ (d.runtimes containerId').called →
          containerId = containerId') := by
  have hplain : ((system plainWire GatewayConfig.small.poolConfig (5 * nanosPerSecond)).trace []
      (new plainWire GatewayConfig.small.poolConfig) plainInvoke).map
      (fun run => (run.2.runtimes "c1").called.map Prod.fst) = some [.invoke 0] := by
    decide +kernel
  obtain ⟨⟨tr, d⟩, ht, hcalled⟩ := Option.map_eq_some_iff.mp hplain
  have hr := Run.start.trace ht
  exact ⟨tr, d, hr, hcalled, (handled_once plainWire_lawful hr 0).2.1⟩

theorem responses_unique (h : Linked w d) {r : Nat} {response response' : Response}
    (hmem : response ∈ d.responses r) (hmem' : response' ∈ d.responses r) :
    response = response' := by
  obtain ⟨c, b, hsent, hr⟩ := mem_responses.mp hmem
  obtain ⟨c', b', hsent', hr'⟩ := mem_responses.mp hmem'
  obtain ⟨rfl, -⟩ := sent_unique h hsent hsent'
  have hruntime := h.orderly c
  have honce := hruntime.once
  rw [hruntime.order] at honce
  have hnodup := (List.nodup_append.mp honce).1.sublist hruntime.responded
  exact (Prod.mk.inj (List.inj_on_of_nodup_map hnodup hr hr' rfl)).2

inductive MadeOf (w : Wire) (d : Deployment) (request : Nat) (lambdaRequest : LambdaRequest)
    (response : Response) : Prop
  | handled {containerId : ContainerId} {lambdaRequest' : LambdaRequest} {handler : LambdaHandler}
      {handlerDuration : Nat} {b : Bytes} (hsent : (request, containerId, b) ∈ d.sent)
      (hagrees : lambdaRequest'.Agrees lambdaRequest)
      (hcalled : (.invoke request, lambdaRequest') ∈ (d.runtimes containerId).called)
      (hresult : (.invoke request, handler.userHandler lambdaRequest', handlerDuration) ∈
        (d.runtimes containerId).results)
      (hresponse : handler.handleInvoke w.crates (.ok b) handlerDuration = .ok response) :
      MadeOf w d request lambdaRequest response
  | unread {message : String}
      (hresponse : LambdaHandler.errorResponse w.crates
        (.requestParsing ("Failed to read body: " ++ message)) = .ok response) :
      MadeOf w d request lambdaRequest response

theorem Linked.madeOf (h : Linked w d) (hw : w.Lawful) {request : Nat} {written : Response}
    (hwritten : written ∈ d.responses request) :
    ∃ arrival ∈ d.arrived, arrival.request = request ∧ ∃ lambdaRequest,
      arrival.lambdaRequest w = .ok lambdaRequest ∧
        MadeOf w d request lambdaRequest written := by
  obtain ⟨containerId, b, hsent, hresponded⟩ := mem_responses.mp hwritten
  obtain ⟨arrival, harrival, hr, lambdaRequest, lambdaRequest', hconvert, hagrees, hparse⟩ :=
    h.parsed_own hw hsent
  refine ⟨arrival, harrival, hr, lambdaRequest, hconvert, ?_⟩
  cases (h.orderly containerId).answers _ _ hresponded with
  | unread hread hinvoke => exact absurd (h.heads _ _ _ hread) hinvoke
  | @unparsed body e hread hcollected hfailed hresponse =>
    cases body with
    | ok b' =>
      obtain ⟨-, rfl⟩ := sent_unique h hsent (h.bodies _ _ _ hcollected)
      cases hparse.symm.trans hfailed
    | error message =>
      have hanswered := hresponse ⟨fun _ => LambdaHandler.plainResponse⟩ 0
      rw [LambdaServer.handleRequest_invoke, LambdaServer.handleInvoke_unparsed rfl] at hanswered
      exact .unread hanswered
  | @invoked body lambdaRequest'' handler handlerDuration hread hcollected hparsed hcalled hresult
      hresponse =>
    obtain ⟨b', rfl, hsent'⟩ := h.body_sent hcollected hparsed
    obtain ⟨-, rfl⟩ := sent_unique h hsent hsent'
    obtain rfl := Except.ok.inj (hparse.symm.trans hparsed)
    rw [LambdaServer.handleRequest_invoke] at hresponse
    exact .handled hsent hagrees hcalled hresult hresponse

theorem Linked.written (h : Linked w d) {request : Nat} {response : Response}
    (hanswer : (request, .ok response) ∈ d.gateway.answered) :
    ∃ written ∈ d.responses request,
      w.readsHead written response.parts = true ∧ w.readsBody written response.body = true := by
  obtain ⟨⟨written, hwritten, hhead⟩, written', hwritten', hbody⟩ :=
    h.answers request response hanswer
  obtain rfl := responses_unique h hwritten hwritten'
  exact ⟨written, hwritten, hhead, hbody⟩

/-- A client whose request is answered with a response gets the one that its own request was
answered with in the container, never another request's. -/
theorem answered_by_own_handler (hw : w.Lawful) (h : Run (system w cfg requestTimeout) tr d)
    {request : Nat} {response : Response}
    (hanswer : (request, .ok response) ∈ d.gateway.answered) :
    ∃ arrival ∈ d.arrived, arrival.request = request ∧ ∃ lambdaRequest,
      arrival.lambdaRequest w = .ok lambdaRequest ∧ ∃ written,
        w.readsHead written response.parts = true ∧ w.readsBody written response.body = true ∧
          MadeOf w d request lambdaRequest written := by
  have hlinked := linked_run h
  obtain ⟨written, hwritten, hhead, hbody⟩ := hlinked.written hanswer
  obtain ⟨arrival, harrival, hr, lambdaRequest, hconvert, hmade⟩ := hlinked.madeOf hw hwritten
  exact ⟨arrival, harrival, hr, lambdaRequest, hconvert, written, hhead, hbody, hmade⟩

theorem answered_by_own_handler_plain :
    ∃ tr d response,
      Run (system plainWire GatewayConfig.small.poolConfig (5 * nanosPerSecond)) tr d ∧
      (0, .ok response) ∈ d.gateway.answered ∧
      ∃ arrival ∈ d.arrived, arrival.request = 0 ∧ ∃ lambdaRequest,
        arrival.lambdaRequest plainWire = .ok lambdaRequest ∧ ∃ written,
          plainWire.readsHead written response.parts = true ∧
            plainWire.readsBody written response.body = true ∧
              MadeOf plainWire d 0 lambdaRequest written := by
  let response : Response := ⟨⟨200, [
    ("x-lambda-request-id", "00000000-0000-0000-0000-000000000007"),
    ("x-lambda-execution-time-ms", "5"), ("cache-control", "no-store"),
    ("content-type", "text/plain")]⟩, Utf8.encode "ok"⟩
  have hplain : ((system plainWire GatewayConfig.small.poolConfig (5 * nanosPerSecond)).trace []
      (new plainWire GatewayConfig.small.poolConfig)
      (plainInvoke ++ [.responseHead 0 response.parts, .bodyCollected 0 response.body])).map
      (fun run => run.2.gateway.answered) = some [(0, .ok response)] := by
    decide +kernel
  obtain ⟨⟨tr, d⟩, ht, hanswered⟩ := Option.map_eq_some_iff.mp hplain
  have hr := Run.start.trace ht
  have hmem : (0, .ok response) ∈ d.gateway.answered := hanswered ▸ List.mem_cons_self
  exact ⟨tr, d, response, hr, hmem, answered_by_own_handler plainWire_lawful hr hmem⟩

end Deployment

end DockerizedLambda
