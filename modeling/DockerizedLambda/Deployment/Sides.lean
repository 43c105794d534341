import DockerizedLambda.Deployment.System

/-! What one step of either side does to the part of its state that the other side can tell. -/

namespace DockerizedLambda

open Transition

/-! ### What one step of a runtime adds -/

namespace LambdaServer

variable {κ : Type} {c : Crates} {s s' : LambdaServer κ} {a : Action κ} {k : κ}

theorem respond_responded (s : LambdaServer κ) (k : κ) (result : Except HttpError Response) :
    s.responded ⊆ (s.respond k result).responded := by
  cases result with
  | ok response => exact List.subset_append_left _ _
  | error e => exact fun _ => id

theorem respond_heads (s : LambdaServer κ) (k : κ) (result : Except HttpError Response) :
    (s.respond k result).heads = s.heads := by cases result <;> rfl

theorem respond_bodies (s : LambdaServer κ) (k : κ) (result : Except HttpError Response) :
    (s.respond k result).bodies = s.bodies := by cases result <;> rfl

theorem respond_connected (s : LambdaServer κ) (k : κ) (result : Except HttpError Response) :
    (s.respond k result).connected = s.connected := by cases result <;> rfl

theorem Moves.responded (hm : Moves c s a s') : s.responded ⊆ s'.responded := by
  cases hm with
  | @answered k head result =>
    exact respond_responded { s with heads := s.heads ++ [(k, head)] } k result
  | @unparsed k body e =>
    exact respond_responded { s with bodies := s.bodies ++ [(k, body)] } k _
  | @handled k _ lambdaResponse handlerDuration =>
    exact respond_responded
      { s with results := s.results ++ [(k, lambdaResponse, handlerDuration)] } k _
  | _ => exact fun _ => id

theorem Moves.connected_cases (hm : Moves c s a s') (hk : k ∈ s'.connected) :
    k ∈ s.connected ∨ a = .connect k := by
  cases hm with
  | connected =>
    rcases List.mem_append.mp hk with hk | hk
    · exact .inl hk
    · exact .inr (congrArg Action.connect (List.mem_singleton.mp hk).symm)
  | answered
  | unparsed
  | handled =>
    rw [respond_connected] at hk
    exact .inl hk
  | _ => exact .inl hk

theorem Moves.heads_cases (hm : Moves c s a s') {head : RequestHead}
    (hk : (k, head) ∈ s'.heads) :
    (k, head) ∈ s.heads ∨ a = .requestHead head ∧ s.phase = .serving k .reading := by
  cases hm with
  | answered hphase =>
    rw [respond_heads] at hk
    rcases List.mem_append.mp hk with hk | hk
    · exact .inl hk
    · cases List.mem_singleton.mp hk
      exact .inr ⟨rfl, hphase⟩
  | invoked hphase =>
    rcases List.mem_append.mp hk with hk | hk
    · exact .inl hk
    · cases List.mem_singleton.mp hk
      exact .inr ⟨rfl, hphase⟩
  | unparsed
  | handled =>
    rw [respond_heads] at hk
    exact .inl hk
  | _ => exact .inl hk

theorem Moves.bodies_cases (hm : Moves c s a s') {body : Except String Bytes}
    (hk : (k, body) ∈ s'.bodies) :
    (k, body) ∈ s.bodies ∨ a = .bodyCollected body ∧ s.phase = .serving k .collecting := by
  cases hm with
  | parsed hphase =>
    rcases List.mem_append.mp hk with hk | hk
    · exact .inl hk
    · cases List.mem_singleton.mp hk
      exact .inr ⟨rfl, hphase⟩
  | unparsed hphase =>
    rw [respond_bodies] at hk
    rcases List.mem_append.mp hk with hk | hk
    · exact .inl hk
    · cases List.mem_singleton.mp hk
      exact .inr ⟨rfl, hphase⟩
  | answered
  | handled =>
    rw [respond_bodies] at hk
    exact .inl hk
  | _ => exact .inl hk

end LambdaServer

/-! ### What one step of the gateway adds -/

def ForwardStage.toSend : ForwardStage → Option Bytes
  | .leasing bodyBytes _ => some bodyBytes
  | .backoff bodyBytes _ _ => some bodyBytes
  | .requesting bodyBytes _ _ false => some bodyBytes
  | _ => none

def ForwardStage.head : ForwardStage → Option ResponseParts
  | .collecting _ parts => some parts
  | _ => none

namespace GatewayServer

variable {cfg : PoolConfig} {requestTimeout : Nat} {g g' : GatewayServer} {a : Action}

structure Apart (g g' : GatewayServer) : Prop where
  started : g'.started = g.started
  stages : ∀ r stage', g'.forwards.lookup r = some stage' →
    ∃ stage, g.forwards.lookup r = some stage ∧
      (∀ b, stage'.toSend = some b → stage.toSend = some b) ∧
      ∀ parts, stage'.head = some parts → stage.head = some parts
  answers : ∀ r response, (r, .ok response) ∈ g'.answered → (r, .ok response) ∈ g.answered

theorem Apart.same (hstarted : g'.started = g.started) (hforwards : g'.forwards = g.forwards)
    (hanswered : g'.answered = g.answered) : Apart g g' := by
  refine ⟨hstarted, fun r stage hlookup => ?_, fun r response hmem => hanswered ▸ hmem⟩
  rw [hforwards] at hlookup
  exact ⟨stage, hlookup, fun _ => id, fun _ => id⟩

theorem Apart.goesOn {request : Nat} {stage stage' : ForwardStage}
    (hstarted : g'.started = g.started) (hanswered : g'.answered = g.answered)
    (hforwards : g'.forwards = g.forwards.insert request stage')
    (hlookup : g.forwards.lookup request = some stage)
    (hsend : ∀ b, stage'.toSend = some b → stage.toSend = some b)
    (hhead : stage'.head = none) : Apart g g' := by
  refine ⟨hstarted, fun r other hother => ?_, fun r response hmem => hanswered ▸ hmem⟩
  rw [hforwards] at hother
  rcases Table.lookup_insert_cases hother with ⟨rfl, rfl⟩ | ⟨-, hother⟩
  · refine ⟨stage, hlookup, hsend, fun parts hparts => ?_⟩
    rw [hhead] at hparts
    cases hparts
  · exact ⟨other, hother, fun _ => id, fun _ => id⟩

theorem Apart.leaves {request : Nat} (hstarted : g'.started = g.started)
    (hforwards : g'.forwards = g.forwards.erase request)
    (hanswers : ∀ r response, (r, .ok response) ∈ g'.answered →
      (r, .ok response) ∈ g.answered) : Apart g g' := by
  refine ⟨hstarted, fun r stage hlookup => ?_, hanswers⟩
  rw [hforwards] at hlookup
  exact ⟨stage, Table.lookup_of_erase hlookup, fun _ => id, fun _ => id⟩

theorem ok_of_cons_error {request r : Nat} {e : GatewayError} {response : Response}
    {answered : List (Nat × Except GatewayError Response)}
    (hmem : (r, .ok response) ∈ (request, .error e) :: answered) :
    (r, .ok response) ∈ answered := by
  rcases List.mem_cons.mp hmem with heq | hmem
  · cases heq
  · exact hmem

theorem Apart.settled {request attempt : Nat} {bodyBytes : Bytes} (pool : HostPoolManager)
    (hlookup : g.forwards.lookup request = some (.leasing bodyBytes attempt))
    (outcome : Option (Except GatewayError HostLease)) :
    Apart g ({ g with pool }.leaseSettled request bodyBytes attempt outcome) := by
  cases outcome with
  | none => exact .goesOn rfl rfl rfl hlookup (fun _ => id) rfl
  | some result =>
    cases result with
    | ok lease => exact .goesOn rfl rfl rfl hlookup (fun _ => id) rfl
    | error e => exact .leaves rfl rfl fun _ _ => ok_of_cons_error

theorem Moves.apart (hm : Moves cfg requestTimeout g a g') (halone : Deployment.alone a = true) :
    Apart g g' := by
  cases hm with
  | pooled
  | handled => exact .same rfl rfl rfl
  | @returned _ pool _ _ _ _ _ _ _ hlookup => exact .settled pool hlookup _
  | asked
  | refused
  | rejected
  | sent
  | responseHead
  | bodyCollected => cases halone
  | askedAgain hlookup => exact .goesOn rfl rfl rfl hlookup (fun _ => id) rfl
  | refusedAgain
  | requestFailed
  | requestTimedOut
  | bodyFailed => exact .leaves rfl rfl fun _ _ => ok_of_cons_error
  | cancelledLeasing
  | cancelledWaiting
  | cancelledRequesting
  | cancelledCollecting => exact .leaves rfl rfl fun _ _ => id

end GatewayServer

/-! ### What one step of the deployment is -/

namespace Deployment

inductive Moves (w : Wire) (cfg : PoolConfig) (requestTimeout : Nat) (d : Deployment) :
    Action → Deployment → Prop
  | gateway {action : GatewayServer.Action} {g : GatewayServer} (halone : alone action = true)
      (hstep : d.gateway.step cfg requestTimeout action = some g) :
      Moves w cfg requestTimeout d (.gateway action) { d with gateway := g }
  | arrive {arrival : Arrival} {g : GatewayServer}
      (hstep : d.gateway.step cfg requestTimeout
        (.forwardToLambda arrival.request (arrival.bodyBytes w)) = some g) :
      Moves w cfg requestTimeout d (.arrive arrival)
        { d with gateway := g, arrived := arrival :: d.arrived }
  | sendInvoke {request startTime : Nat} {b : Bytes} {lease : HostLease} {sent : Bool}
      {g : GatewayServer} {runtime : LambdaServer Connection}
      (hlookup : d.gateway.forwards.lookup request = some (.requesting b lease startTime sent))
      (hstep : d.gateway.step cfg requestTimeout (.sendInvoke request) = some g)
      (hconnect : (d.runtimes lease.containerId).step w.crates (.connect (.invoke request)) =
        some runtime) :
      Moves w cfg requestTimeout d (.sendInvoke request)
        { d with
          gateway := g
          runtimes := Function.update d.runtimes lease.containerId runtime
          sent := (request, lease.containerId, b) :: d.sent }
  | responseHead {request : Nat} {parts : ResponseParts} {g : GatewayServer}
      (hread : ∃ response ∈ d.responses request, w.readsHead response parts = true)
      (hstep : d.gateway.step cfg requestTimeout (.responseHead request parts) = some g) :
      Moves w cfg requestTimeout d (.responseHead request parts) { d with gateway := g }
  | bodyCollected {request : Nat} {body : Bytes} {g : GatewayServer}
      (hread : ∃ response ∈ d.responses request, w.readsBody response body = true)
      (hstep : d.gateway.step cfg requestTimeout (.bodyCollected request body) = some g) :
      Moves w cfg requestTimeout d (.bodyCollected request body) { d with gateway := g }
  | runtime {containerId : ContainerId} {action : LambdaServer.Action Connection}
      {runtime : LambdaServer Connection} (hreadable : d.readable containerId action = true)
      (hstep : (d.runtimes containerId).step w.crates action = some runtime) :
      Moves w cfg requestTimeout d (.runtime containerId action)
        { d with runtimes := Function.update d.runtimes containerId runtime }

variable {w : Wire} {cfg : PoolConfig} {requestTimeout : Nat} {d d' : Deployment} {a : Action}

theorem moves_of_step (hs : step w cfg requestTimeout d a = some d') :
    Moves w cfg requestTimeout d a d' := by
  cases a with
  | gateway action =>
    simp only [step, gatewayStep] at hs
    split_ifs at hs with halone
    obtain ⟨g, hg, rfl⟩ := Option.map_eq_some_iff.mp hs
    exact .gateway halone hg
  | arrive arrival =>
    obtain ⟨g, hg, rfl⟩ := Option.map_eq_some_iff.mp hs
    exact .arrive hg
  | sendInvoke request =>
    simp only [step, sendInvoke] at hs
    split at hs
    next hlookup =>
      obtain ⟨g, hg, hs⟩ := Option.bind_eq_some_iff.mp hs
      obtain ⟨runtime, hconnect, rfl⟩ := Option.map_eq_some_iff.mp hs
      exact .sendInvoke hlookup hg hconnect
    next => cases hs
  | responseHead request parts =>
    simp only [step, responseHead] at hs
    split_ifs at hs with hread
    obtain ⟨g, hg, rfl⟩ := Option.map_eq_some_iff.mp hs
    exact .responseHead (List.any_eq_true.mp hread) hg
  | bodyCollected request body =>
    simp only [step, bodyCollected] at hs
    split_ifs at hs with hread
    obtain ⟨g, hg, rfl⟩ := Option.map_eq_some_iff.mp hs
    exact .bodyCollected (List.any_eq_true.mp hread) hg
  | runtime containerId action =>
    simp only [step, runtimeStep] at hs
    split_ifs at hs with hreadable
    obtain ⟨runtime, hruntime, rfl⟩ := Option.map_eq_some_iff.mp hs
    exact .runtime hreadable hruntime

def gatewayAction (w : Wire) (_ : Deployment) : Action → Option GatewayServer.Action
  | .gateway action => some action
  | .arrive arrival => some (.forwardToLambda arrival.request (arrival.bodyBytes w))
  | .sendInvoke request => some (.sendInvoke request)
  | .responseHead request parts => some (.responseHead request parts)
  | .bodyCollected request body => some (.bodyCollected request body)
  | .runtime _ _ => none

theorem Moves.gateway_step (hm : Moves w cfg requestTimeout d a d') :
    (∀ b, gatewayAction w d a = some b →
      d.gateway.step cfg requestTimeout b = some d'.gateway) ∧
    (gatewayAction w d a = none → d'.gateway = d.gateway) := by
  cases hm with
  | runtime => exact ⟨nofun, fun _ => rfl⟩
  | gateway _ hstep
  | arrive hstep
  | sendInvoke _ hstep
  | responseHead _ hstep
  | bodyCollected _ hstep => exact ⟨fun b hb => Option.some.inj hb ▸ hstep, nofun⟩

theorem gateway_run {tr : List (Deployment × Action)}
    (h : Run (system w cfg requestTimeout) tr d) :
    Run (GatewayServer.system cfg requestTimeout)
      (Run.projected gateway (gatewayAction w) tr) d.gateway :=
  h.project gateway (gatewayAction w) rfl fun _ hs => (moves_of_step hs).gateway_step

end Deployment

end DockerizedLambda
