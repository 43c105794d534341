import DockerizedLambda.Runtime.Server

/-! The loop of `start`, cut at its awaits, still serves the connections in turn: each one is
answered at most once, with what `handle_request` makes of its request. -/

namespace DockerizedLambda

open Transition

namespace LambdaServer

variable {κ : Type}

inductive Moves (c : Crates) (s : LambdaServer κ) : Action κ → LambdaServer κ → Prop
  | bound (hphase : s.phase = .binding) :
      Moves c s (.bind (.ok ())) { s with phase := .accepting }
  | bindFailed {e : String} (hphase : s.phase = .binding) :
      Moves c s (.bind (.error e)) { s with
        phase := .stopped (.serverStart ("Failed to bind to " ++ addr s.port ++ ": " ++ e)) }
  | connected {k : κ} (hlistening : s.listening = true) (hnew : k ∉ s.connected) :
      Moves c s (.connect k) { s with
        backlog := s.backlog ++ [k], connected := s.connected ++ [k] }
  | accepted {k : κ} {rest : List κ} (hphase : s.phase = .accepting)
      (hbacklog : s.backlog = k :: rest) :
      Moves c s (.accept (.ok ())) { s with
        phase := .serving k .reading, backlog := rest, accepted := s.accepted ++ [k] }
  | acceptFailed {e : String} (hphase : s.phase = .accepting) :
      Moves c s (.accept (.error e)) { s with
        phase := .stopped (.serverStart ("TCP listen failed to accept connection: " ++ e)) }
  | answered {k : κ} {head : RequestHead} {result : Except HttpError Response}
      (hphase : s.phase = .serving k .reading) (hinvoke : head ≠ .invoke)
      (hplain : result = handleHealth c ∨ result = handleNotFound c)
      (hresult : ∀ handler body handlerDuration,
        handleRequest c handler head body handlerDuration = result) :
      Moves c s (.requestHead head)
        ({ s with heads := s.heads ++ [(k, head)] }.respond k result)
  | invoked {k : κ} (hphase : s.phase = .serving k .reading) :
      Moves c s (.requestHead .invoke) { s with
        heads := s.heads ++ [(k, .invoke)], phase := .serving k .collecting }
  | parsed {k : κ} {body : Except String Bytes} {lambdaRequest : LambdaRequest}
      (hphase : s.phase = .serving k .collecting)
      (hparse : LambdaHandler.parseRequest c body = .ok lambdaRequest) :
      Moves c s (.bodyCollected body) { s with
        bodies := s.bodies ++ [(k, body)]
        phase := .serving k (.handling lambdaRequest)
        called := s.called ++ [(k, lambdaRequest)] }
  | unparsed {k : κ} {body : Except String Bytes} {e : RuntimeError}
      (hphase : s.phase = .serving k .collecting)
      (hparse : LambdaHandler.parseRequest c body = .error e) :
      Moves c s (.bodyCollected body)
        ({ s with bodies := s.bodies ++ [(k, body)] }.respond k (LambdaHandler.errorResponse c e))
  | handled {k : κ} {lambdaRequest : LambdaRequest} {lambdaResponse : LambdaResponse}
      {handlerDuration : Nat} (hphase : s.phase = .serving k (.handling lambdaRequest)) :
      Moves c s (.handled lambdaResponse handlerDuration)
        ({ s with results := s.results ++ [(k, lambdaResponse, handlerDuration)] }.respond k
          (answerInvoke c lambdaRequest lambdaResponse handlerDuration))
  | handlerPanicked {k : κ} {lambdaRequest : LambdaRequest}
      (hphase : s.phase = .serving k (.handling lambdaRequest)) :
      Moves c s .handlerPanicked { s with phase := .panicked }
  | connectionEnded {k : κ} {stage : ServeStage} (hphase : s.phase = .serving k stage) :
      Moves c s .connectionEnded { s with phase := .accepting }

variable {c : Crates} {s s' : LambdaServer κ} {a : Action κ}
  {tr : List (LambdaServer κ × Action κ)}

theorem moves_of_step [DecidableEq κ] (h : s.step c a = some s') : Moves c s a s' := by
  cases a with
  | bind result =>
    simp only [step, bind] at h
    split at h
    next hphase =>
      cases result with
      | ok =>
        obtain rfl := Option.some.inj h
        exact .bound hphase
      | error e =>
        obtain rfl := Option.some.inj h
        exact .bindFailed hphase
    next => cases h
  | connect k =>
    simp only [step, connect] at h
    split_ifs at h with hguard
    obtain rfl := Option.some.inj h
    exact .connected hguard.1 hguard.2
  | accept result =>
    simp only [step, accept] at h
    split at h
    next hphase =>
      cases result with
      | ok =>
        cases hbacklog : s.backlog with
        | nil =>
          rw [hbacklog] at h
          cases h
        | cons k rest =>
          rw [hbacklog] at h
          obtain rfl := Option.some.inj h
          exact .accepted hphase hbacklog
      | error e =>
        obtain rfl := Option.some.inj h
        exact .acceptFailed hphase
    next => cases h
  | requestHead head =>
    simp only [step, requestHead] at h
    split at h
    next hphase =>
      split_ifs at h with hhealth hinvoke
      · obtain rfl := Option.some.inj h
        subst hhealth
        exact .answered hphase (by decide) (.inl rfl) fun _ _ _ => if_pos rfl
      · obtain rfl := Option.some.inj h
        subst hinvoke
        exact .invoked hphase
      · obtain rfl := Option.some.inj h
        exact .answered hphase hinvoke (.inr rfl) fun _ _ _ =>
          (if_neg hhealth).trans (if_neg hinvoke)
    next => cases h
  | bodyCollected body =>
    simp only [step, bodyCollected] at h
    split at h
    next hphase =>
      cases hparse : LambdaHandler.parseRequest c body with
      | ok lambdaRequest =>
        rw [hparse] at h
        obtain rfl := Option.some.inj h
        exact .parsed hphase hparse
      | error e =>
        rw [hparse] at h
        obtain rfl := Option.some.inj h
        exact .unparsed hphase hparse
    next => cases h
  | handled lambdaResponse handlerDuration =>
    simp only [step, handled] at h
    split at h
    next hphase =>
      obtain rfl := Option.some.inj h
      exact .handled hphase
    next => cases h
  | handlerPanicked =>
    simp only [step, handlerPanicked] at h
    split at h
    next hphase =>
      obtain rfl := Option.some.inj h
      exact .handlerPanicked hphase
    next => cases h
  | connectionEnded =>
    simp only [step, connectionEnded] at h
    split at h
    next hphase =>
      obtain rfl := Option.some.inj h
      exact .connectionEnded hphase
    next => cases h

def InTurn {β : Type} (order : List κ) (history : List (κ × β)) : Prop :=
  (history.map Prod.fst).Sublist order

inductive Answered (c : Crates) (s : LambdaServer κ) (k : κ) (response : Response) : Prop
  | unread {head : RequestHead} (hhead : (k, head) ∈ s.heads) (hinvoke : head ≠ .invoke)
      (hresponse : ∀ handler body handlerDuration,
        handleRequest c handler head body handlerDuration = .ok response)
  | unparsed {body : Except String Bytes} {e : RuntimeError} (hhead : (k, .invoke) ∈ s.heads)
      (hbody : (k, body) ∈ s.bodies) (hparse : LambdaHandler.parseRequest c body = .error e)
      (hresponse : ∀ handler handlerDuration,
        handleRequest c handler .invoke body handlerDuration = .ok response)
  | invoked {body : Except String Bytes} {lambdaRequest : LambdaRequest} {handler : LambdaHandler}
      {handlerDuration : Nat} (hhead : (k, .invoke) ∈ s.heads) (hbody : (k, body) ∈ s.bodies)
      (hparse : LambdaHandler.parseRequest c body = .ok lambdaRequest)
      (hcalled : (k, lambdaRequest) ∈ s.called)
      (hresult : (k, handler.userHandler lambdaRequest, handlerDuration) ∈ s.results)
      (hresponse : handleRequest c handler .invoke body handlerDuration = .ok response)

def Upcoming (s : LambdaServer κ) (earlier : List κ) : ServeStage → Prop
  | .reading =>
    InTurn earlier s.heads ∧ InTurn earlier s.bodies ∧ InTurn earlier s.called ∧
      InTurn earlier s.results ∧ InTurn earlier s.responded
  | .collecting =>
    InTurn earlier s.bodies ∧ InTurn earlier s.called ∧ InTurn earlier s.results ∧
      InTurn earlier s.responded
  | .handling _ => InTurn earlier s.results ∧ InTurn earlier s.responded
  | .responding => True

def Known (c : Crates) (s : LambdaServer κ) (k : κ) : ServeStage → Prop
  | .collecting => (k, .invoke) ∈ s.heads
  | .handling lambdaRequest =>
    (k, .invoke) ∈ s.heads ∧ (k, lambdaRequest) ∈ s.called ∧
      ∃ body, (k, body) ∈ s.bodies ∧ LambdaHandler.parseRequest c body = .ok lambdaRequest
  | _ => True

structure Histories (c : Crates) (s : LambdaServer κ) : Prop where
  order : s.connected = s.accepted ++ s.backlog
  once : s.connected.Nodup
  heads : InTurn s.accepted s.heads
  bodies : InTurn s.accepted s.bodies
  called : InTurn s.accepted s.called
  results : InTurn s.accepted s.results
  responded : InTurn s.accepted s.responded
  calls : ∀ k lambdaRequest, (k, lambdaRequest) ∈ s.called →
    ∃ body, (k, body) ∈ s.bodies ∧ LambdaHandler.parseRequest c body = .ok lambdaRequest
  answers : ∀ k response, (k, response) ∈ s.responded → Answered c s k response

structure Orderly (c : Crates) (s : LambdaServer κ) : Prop extends Histories c s where
  current : ∀ k stage, s.phase = .serving k stage →
    ∃ earlier, s.accepted = earlier ++ [k] ∧ s.Upcoming earlier stage ∧ Known c s k stage

theorem InTurn.later {β : Type} {order : List κ} {history : List (κ × β)}
    (h : InTurn order history) (more : List κ) : InTurn (order ++ more) history :=
  h.trans (List.sublist_append_left _ _)

theorem InTurn.concat {β : Type} {order earlier : List κ} {k : κ} {history : List (κ × β)}
    (h : InTurn earlier history) (horder : order = earlier ++ [k]) (x : β) :
    InTurn order (history ++ [(k, x)]) := by
  rw [InTurn, List.map_append, horder]
  exact h.append (List.Sublist.refl [k])

theorem handleRequest_invoke (handler : LambdaHandler) (body : Except String Bytes)
    (handlerDuration : Nat) : handleRequest c handler .invoke body handlerDuration =
      handler.handleInvoke c body handlerDuration :=
  (if_neg (by decide)).trans (if_pos rfl)

theorem handleInvoke_unparsed {handler : LambdaHandler} {body : Except String Bytes}
    {handlerDuration : Nat} {e : RuntimeError}
    (hparse : LambdaHandler.parseRequest c body = .error e) :
    handler.handleInvoke c body handlerDuration = LambdaHandler.errorResponse c e := by
  rw [LambdaHandler.handleInvoke, LambdaHandler.processInvoke, hparse]

theorem handleInvoke_parsed {handler : LambdaHandler} {body : Except String Bytes}
    {handlerDuration : Nat} {lambdaRequest : LambdaRequest}
    (hparse : LambdaHandler.parseRequest c body = .ok lambdaRequest) :
    handler.handleInvoke c body handlerDuration =
      answerInvoke c lambdaRequest (handler.userHandler lambdaRequest) handlerDuration := by
  rw [LambdaHandler.handleInvoke, LambdaHandler.processInvoke_eq hparse]
  rfl

theorem Answered.mono {k : κ} {response : Response} (h : Answered c s k response)
    (hheads : s.heads ⊆ s'.heads) (hbodies : s.bodies ⊆ s'.bodies)
    (hcalled : s.called ⊆ s'.called) (hresults : s.results ⊆ s'.results) :
    Answered c s' k response := by
  cases h with
  | unread hhead hinvoke hresponse => exact .unread (hheads hhead) hinvoke hresponse
  | unparsed hhead hbody hparse hresponse =>
    exact .unparsed (hheads hhead) (hbodies hbody) hparse hresponse
  | invoked hhead hbody hparse hcall hresult hresponse =>
    exact .invoked (hheads hhead) (hbodies hbody) hparse (hcalled hcall) (hresults hresult)
      hresponse

theorem Histories.answersIn (h : Histories c s) (hheads : s.heads ⊆ s'.heads)
    (hbodies : s.bodies ⊆ s'.bodies) (hcalled : s.called ⊆ s'.called)
    (hresults : s.results ⊆ s'.results) (k : κ) (response : Response)
    (hmem : (k, response) ∈ s.responded) : Answered c s' k response :=
  (h.answers k response hmem).mono hheads hbodies hcalled hresults

theorem Histories.moved (h : Histories c s) (phase : ServerPhase κ) :
    Histories c { s with phase } :=
  { h with answers := h.answersIn (fun _ => id) (fun _ => id) (fun _ => id) (fun _ => id) }

theorem Orderly.moved (h : Orderly c s) {phase : ServerPhase κ}
    (hphase : ∀ k stage, phase ≠ .serving k stage) : Orderly c { s with phase } :=
  { h.toHistories.moved phase with current := fun k stage hs => absurd hs (hphase k stage) }

theorem Histories.respond (h : Histories c s) {earlier : List κ} {k : κ}
    {result : Except HttpError Response} (haccepted : s.accepted = earlier ++ [k])
    (hresponded : InTurn earlier s.responded)
    (hanswer : ∀ response, result = .ok response → Answered c s k response) :
    Orderly c (s.respond k result) := by
  cases result with
  | error e => exact { h.moved .panicked with current := nofun }
  | ok response =>
    refine { h with responded := ?_, answers := ?_, current := ?_ }
    · exact hresponded.concat haccepted response
    · intro l other hmem
      have hanswered : Answered c s l other := by
        rcases List.mem_append.mp hmem with hmem | hmem
        · exact h.answers l other hmem
        · cases List.mem_singleton.mp hmem
          exact hanswer response rfl
      exact hanswered.mono (fun _ => id) (fun _ => id) (fun _ => id) (fun _ => id)
    · rintro l stage hs
      cases hs
      exact ⟨earlier, haccepted, trivial, trivial⟩

theorem Histories.headRead (h : Histories c s) {earlier : List κ} {k : κ}
    (haccepted : s.accepted = earlier ++ [k]) (hheads : InTurn earlier s.heads)
    (head : RequestHead) : Histories c { s with heads := s.heads ++ [(k, head)] } :=
  { h with
    heads := hheads.concat haccepted head
    answers := h.answersIn (List.subset_append_left _ _) (fun _ => id) (fun _ => id) (fun _ => id) }

theorem Histories.bodyRead (h : Histories c s) {earlier : List κ} {k : κ}
    (haccepted : s.accepted = earlier ++ [k]) (hbodies : InTurn earlier s.bodies)
    (body : Except String Bytes) : Histories c { s with bodies := s.bodies ++ [(k, body)] } :=
  { h with
    bodies := hbodies.concat haccepted body
    calls := fun l lambdaRequest hmem => by
      obtain ⟨other, hother, hparse⟩ := h.calls l lambdaRequest hmem
      exact ⟨other, List.mem_append_left _ hother, hparse⟩
    answers := h.answersIn (fun _ => id) (List.subset_append_left _ _) (fun _ => id) (fun _ => id) }

theorem Histories.calledWith (h : Histories c s) {earlier : List κ} {k : κ}
    (haccepted : s.accepted = earlier ++ [k]) (hcalled : InTurn earlier s.called)
    {body : Except String Bytes} {lambdaRequest : LambdaRequest} (hbody : (k, body) ∈ s.bodies)
    (hparse : LambdaHandler.parseRequest c body = .ok lambdaRequest) :
    Histories c { s with called := s.called ++ [(k, lambdaRequest)] } :=
  { h with
    called := hcalled.concat haccepted lambdaRequest
    calls := fun l other hmem => by
      rcases List.mem_append.mp hmem with hmem | hmem
      · exact h.calls l other hmem
      · cases List.mem_singleton.mp hmem
        exact ⟨body, hbody, hparse⟩
    answers := h.answersIn (fun _ => id) (fun _ => id) (List.subset_append_left _ _) (fun _ => id) }

theorem Histories.resulted (h : Histories c s) {earlier : List κ} {k : κ}
    (haccepted : s.accepted = earlier ++ [k]) (hresults : InTurn earlier s.results)
    (result : LambdaResponse × Nat) :
    Histories c { s with results := s.results ++ [(k, result)] } :=
  { h with
    results := hresults.concat haccepted result
    answers := h.answersIn (fun _ => id) (fun _ => id) (fun _ => id) (List.subset_append_left _ _) }

theorem Moves.orderly (hm : Moves c s a s') (h : Orderly c s) : Orderly c s' := by
  cases hm with
  | bound
  | bindFailed
  | acceptFailed
  | handlerPanicked
  | connectionEnded => exact h.moved nofun
  | @connected k hlistening hnew =>
    refine { h with order := ?_, once := ?_, answers := ?_ }
    · show s.connected ++ [k] = s.accepted ++ (s.backlog ++ [k])
      rw [h.order, List.append_assoc]
    · exact List.nodup_append.mpr ⟨h.once, List.nodup_singleton k, fun l hl l' hl' he =>
        hnew (List.mem_singleton.mp hl' ▸ he ▸ hl)⟩
    · exact h.answersIn (fun _ => id) (fun _ => id) (fun _ => id) (fun _ => id)
  | @accepted k rest hphase hbacklog =>
    refine {
      order := ?_
      once := h.once
      heads := h.heads.later _
      bodies := h.bodies.later _
      called := h.called.later _
      results := h.results.later _
      responded := h.responded.later _
      calls := h.calls
      answers := h.answersIn (fun _ => id) (fun _ => id) (fun _ => id) (fun _ => id)
      current := ?_ }
    · show s.connected = s.accepted ++ [k] ++ rest
      rw [h.order, hbacklog, List.append_assoc, List.singleton_append]
    · rintro l stage hs
      cases hs
      exact ⟨s.accepted, rfl, ⟨h.heads, h.bodies, h.called, h.results, h.responded⟩, trivial⟩
  | @answered k head result hphase hinvoke _ hresult =>
    obtain ⟨earlier, haccepted, ⟨hheads, -, -, -, hresponded⟩, -⟩ := h.current k _ hphase
    refine (h.headRead haccepted hheads head).respond haccepted hresponded fun response hok => ?_
    exact .unread (List.mem_append_right _ List.mem_cons_self) hinvoke fun handler body duration =>
      (hresult handler body duration).trans hok
  | @invoked k hphase =>
    obtain ⟨earlier, haccepted, ⟨hheads, hbodies, hcalled, hresults, hresponded⟩, -⟩ :=
      h.current k _ hphase
    refine { (h.headRead haccepted hheads .invoke).moved (.serving k .collecting) with
      current := ?_ }
    rintro l stage hs
    cases hs
    exact ⟨earlier, haccepted, ⟨hbodies, hcalled, hresults, hresponded⟩,
      List.mem_append_right _ List.mem_cons_self⟩
  | @parsed k body lambdaRequest hphase hparse =>
    obtain ⟨earlier, haccepted, ⟨hbodies, hcalled, hresults, hresponded⟩, hhead⟩ :=
      h.current k _ hphase
    have hread := h.bodyRead haccepted hbodies body
    have hcall := hread.calledWith haccepted hcalled
      (List.mem_append_right _ List.mem_cons_self) hparse
    refine { hcall.moved (.serving k (.handling lambdaRequest)) with current := ?_ }
    rintro l stage hs
    cases hs
    exact ⟨earlier, haccepted, ⟨hresults, hresponded⟩, hhead,
      List.mem_append_right _ List.mem_cons_self, body,
      List.mem_append_right _ List.mem_cons_self, hparse⟩
  | @unparsed k body e hphase hparse =>
    obtain ⟨earlier, haccepted, ⟨hbodies, -, -, hresponded⟩, hhead⟩ := h.current k _ hphase
    refine (h.bodyRead haccepted hbodies body).respond haccepted hresponded fun response hok => ?_
    refine .unparsed hhead (List.mem_append_right _ List.mem_cons_self) hparse ?_
    intro handler duration
    rw [handleRequest_invoke, handleInvoke_unparsed hparse]
    exact hok
  | @handled k lambdaRequest lambdaResponse handlerDuration hphase =>
    obtain ⟨earlier, haccepted, ⟨hresults, hresponded⟩, hhead, hcalled, body, hbody, hparse⟩ :=
      h.current k _ hphase
    have hhistories := h.resulted haccepted hresults (lambdaResponse, handlerDuration)
    refine hhistories.respond haccepted hresponded fun response hok => ?_
    have hresult : (k, (LambdaHandler.mk fun _ => lambdaResponse).userHandler lambdaRequest,
        handlerDuration) ∈ s.results ++ [(k, lambdaResponse, handlerDuration)] :=
      List.mem_append_right _ List.mem_cons_self
    refine .invoked hhead hbody hparse hcalled hresult ?_
    rw [handleRequest_invoke, handleInvoke_parsed hparse]
    exact hok

theorem orderly_run [DecidableEq κ] {port : UInt16} (h : Run (system κ c port) tr s) :
    Orderly c s := by
  refine h.invariant (I := Orderly c) ?_ fun _ hi hs => (moves_of_step hs).orderly hi
  have hempty : ∀ {β : Type}, InTurn ([] : List κ) ([] : List (κ × β)) := List.Sublist.refl _
  exact {
    order := rfl
    once := List.nodup_nil
    heads := hempty
    bodies := hempty
    called := hempty
    results := hempty
    responded := hempty
    calls := nofun
    answers := nofun
    current := nofun }

/-- The connections are served in the order in which they came in, none is lost, and each has at
most one request, one call of the handler and one response, which is `handle_request`'s. -/
theorem served_in_turn [DecidableEq κ] {port : UInt16} (h : Run (system κ c port) tr s) :
    Histories c s :=
  (orderly_run h).toHistories

theorem served_in_turn_two :
    ∃ tr s, Run (system Nat LambdaHandler.plainCrates 8081) tr s ∧ s.accepted = [0, 1] ∧
      s.responded.map Prod.fst = [0, 1] ∧ Histories LambdaHandler.plainCrates s := by
  have hserved : ((system Nat LambdaHandler.plainCrates 8081).trace [] (new 8081)
      [.bind (.ok ()), .connect 0, .connect 1, .accept (.ok ()), .requestHead .health,
        .connectionEnded, .accept (.ok ()), .requestHead .invoke,
        .bodyCollected (.ok (Utf8.encode LambdaHandler.invokeJson)),
        .handled LambdaHandler.plainResponse 5000000]).map
      (fun run => (run.2.accepted, run.2.responded.map Prod.fst)) = some ([0, 1], [0, 1]) := by
    decide +kernel
  obtain ⟨⟨tr, s⟩, ht, hhistories⟩ := Option.map_eq_some_iff.mp hserved
  obtain ⟨haccepted, hresponded⟩ := Prod.mk.inj hhistories
  have hr := Run.start.trace ht
  exact ⟨tr, s, hr, haccepted, hresponded, served_in_turn hr⟩

/-! ### What ends the loop -/

/-- How the loop has ended: by an error that `start` returns, or by a panic. -/
def ended (s : LambdaServer κ) : Option (Option RuntimeError) :=
  match s.phase with
  | .stopped error => some (some error)
  | .panicked => some none
  | _ => none

def fatal (s : LambdaServer κ) : Action κ → Option (Option RuntimeError)
  | .bind (.error e) =>
    some (some (.serverStart ("Failed to bind to " ++ addr s.port ++ ": " ++ e)))
  | .accept (.error e) =>
    some (some (.serverStart ("TCP listen failed to accept connection: " ++ e)))
  | .handlerPanicked => some none
  | _ => none

theorem Moves.not_ended (hm : Moves c s a s') : s.ended = none := by
  have hnone : ∀ {phase : ServerPhase κ}, s.phase = phase → (∀ e, phase ≠ .stopped e) →
      phase ≠ .panicked → s.ended = none := by
    rintro phase hphase hstopped hpanicked
    unfold ended
    rw [hphase]
    cases phase with
    | stopped e => exact absurd rfl (hstopped e)
    | panicked => exact absurd rfl hpanicked
    | _ => rfl
  cases hm with
  | connected hlistening =>
    unfold listening at hlistening
    split at hlistening
    next hphase => exact hnone hphase nofun nofun
    next hphase => exact hnone hphase nofun nofun
    next => cases hlistening
  | bound hphase
  | bindFailed hphase
  | accepted hphase
  | acceptFailed hphase
  | answered hphase
  | invoked hphase
  | parsed hphase
  | unparsed hphase
  | handled hphase
  | handlerPanicked hphase
  | connectionEnded hphase => exact hnone hphase nofun nofun

theorem respond_not_ended {k : κ} {result : Except HttpError Response}
    (hok : ∃ response, result = .ok response) : (s.respond k result).ended = none := by
  obtain ⟨response, rfl⟩ := hok
  rfl

section Lawful

variable (hc : c.Lawful) (hroom : 0 < c.http.maxFields)
include hc hroom

theorem jsonResponse_ok {code : Nat} (hcode : 100 ≤ code ∧ code < 1000) (bytes : Bytes) :
    ((Builder.new.status code).header c.http contentType "application/json").body bytes =
      .ok ⟨⟨code, [storedField (contentType, "application/json")]⟩, bytes⟩ := by
  have hheader : Builder.header c.http (.ok ⟨code, []⟩) contentType "application/json" =
      .ok ⟨code, [storedField (contentType, "application/json")]⟩ :=
    Builder.header_accepted hc.http (LambdaHandler.accepts_json hc) hroom
  have hstatus : Builder.new.status code = .ok ⟨code, []⟩ := if_pos hcode
  rw [hstatus, hheader]
  rfl

theorem errorResponse_ok (e : RuntimeError) :
    ∃ response, LambdaHandler.errorResponse c e = .ok response :=
  ⟨_, jsonResponse_ok hc hroom (by decide) _⟩

theorem answerInvoke_ok (lambdaRequest : LambdaRequest) (lambdaResponse : LambdaResponse)
    (handlerDuration : Nat) :
    ∃ response, answerInvoke c lambdaRequest lambdaResponse handlerDuration = .ok response := by
  unfold answerInvoke
  split
  next response _ => exact ⟨response, rfl⟩
  next e _ => exact errorResponse_ok hc hroom e

theorem Moves.ended (hm : Moves c s a s') : s'.ended = s.fatal a := by
  have hkept := hm.not_ended
  cases hm with
  | connected => exact hkept
  | answered _ _ hplain =>
    refine respond_not_ended ?_
    rcases hplain with rfl | rfl
    · exact ⟨_, jsonResponse_ok hc hroom (by decide) _⟩
    · exact ⟨_, jsonResponse_ok hc hroom (by decide) _⟩
  | unparsed => exact respond_not_ended (errorResponse_ok hc hroom _)
  | handled => exact respond_not_ended (answerInvoke_ok hc hroom _ _ _)
  | _ => rfl

/-- Whatever is sent to it and whatever the user handler returns, the server goes on: its loop
ends with an error of the listener or the handler's own panic, and with nothing else. -/
theorem ended_by [DecidableEq κ] {port : UInt16} (h : Run (system κ c port) tr s) :
    outputs fatal tr = s.ended.toList := by
  induction h with
  | start => rfl
  | @next tr s s' a hr hs ih =>
    have hm : Moves c s a s' := moves_of_step hs
    rw [outputs, ih, hm.not_ended, hm.ended hc hroom]
    rfl

end Lawful

theorem ended_by_panic :
    ∃ tr s, Run (system Nat LambdaHandler.plainCrates 8081) tr s ∧ s.ended = some none ∧
      outputs fatal tr = s.ended.toList := by
  have hserved : ((system Nat LambdaHandler.plainCrates 8081).trace [] (new 8081)
      [.bind (.ok ()), .connect 0, .connect 1, .accept (.ok ()), .requestHead .invoke,
        .bodyCollected (.error "reset"), .connectionEnded, .accept (.ok ()), .requestHead .invoke,
        .bodyCollected (.ok (Utf8.encode LambdaHandler.invokeJson)), .handlerPanicked]).map
      (fun run => run.2.ended) = some (some none) := by
    decide +kernel
  obtain ⟨⟨tr, s⟩, ht, hended⟩ := Option.map_eq_some_iff.mp hserved
  have hr := Run.start.trace ht
  exact ⟨tr, s, hr, hended, ended_by LambdaHandler.plainCrates_lawful (by decide) hr⟩

end LambdaServer

end DockerizedLambda
