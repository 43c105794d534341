import DockerizedLambda.Gateway.Forwards
import DockerizedLambda.Lib.RetryLoop
import DockerizedLambda.Pool.Calls

/-! What one step does to the executions of `forward_to_lambda`. The pool returns a result to a
request, and the gateway looks up the execution it is for: the two agree on who is waiting, so
that no result comes to nothing. -/

namespace DockerizedLambda

open Transition

def leaseHostWithRetry :
    RetryLoop (Except PoolError HostLease) (Except GatewayError HostLease) where
  maxAttempts := leaseMaxAttempts
  hasAttempt := by decide
  settle
    | .ok lease => some (.ok lease)
    | .error .shuttingDown => some (.error .shuttingDown)
    | .error .containerNotReady => none
    | .error e => some (.error (.pool e))
  giveUp _ := .error (.pool .containerNotReady)

namespace GatewayServer

def leaseSettled (g : GatewayServer) (request : Nat) (bodyBytes : Bytes) (attempt : Nat) :
    Option (Except GatewayError HostLease) → GatewayServer
  | none => g.goOn request (.backoff bodyBytes attempt (g.pool.clock + retryDelay attempt))
  | some (.ok lease) => g.goOn request (.requesting bodyBytes lease g.pool.clock false)
  | some (.error e) => g.finish request (.error e)

structure Synced (pending : List Nat) (forwards : Forwards) : Prop where
  once : pending.Nodup
  leasing : ∀ request, request ∈ pending ↔
    ∃ bodyBytes attempt, forwards.lookup request = some (.leasing bodyBytes attempt)

inductive Moves (cfg : PoolConfig) (requestTimeout : Nat) (g : GatewayServer) :
    Action → GatewayServer → Prop
  | pooled {b : HostPoolManager.Action} {pool : HostPoolManager} (hinternal : internal b = true)
      (hstep : g.pool.step cfg b = some pool) (hreturned : pool.returned = g.pool.returned) :
      Moves cfg requestTimeout g (.pool b) { g with pool }
  | returned {b : HostPoolManager.Action} {pool : HostPoolManager} {request attempt : Nat}
      {bodyBytes : Bytes} {result : Except PoolError HostLease} (hinternal : internal b = true)
      (hstep : g.pool.step cfg b = some pool)
      (hreturned : pool.returned = (request, result) :: g.pool.returned)
      (hlookup : g.forwards.lookup request = some (.leasing bodyBytes attempt)) :
      Moves cfg requestTimeout g (.pool b)
        ({ g with pool }.leaseSettled request bodyBytes attempt
          (leaseHostWithRetry.round attempt result))
  | asked {request : Nat} {bodyBytes : Bytes} (hnew : request ∉ g.started)
      (hflag : g.pool.shutdownFlag = false) :
      Moves cfg requestTimeout g (.forwardToLambda request (.ok bodyBytes))
        ({ g with
          started := request :: g.started
          pool := { g.pool with calls := ⟨request, .lockWait⟩ :: g.pool.calls } }.goOn request
            (.leasing bodyBytes 1))
  | refused {request : Nat} {bodyBytes : Bytes} (hnew : request ∉ g.started)
      (hflag : g.pool.shutdownFlag = true) :
      Moves cfg requestTimeout g (.forwardToLambda request (.ok bodyBytes))
        ({ g with
          started := request :: g.started
          pool := { g.pool with
            returned := (request, .error .shuttingDown) :: g.pool.returned } }.finish request
              (.error .shuttingDown))
  | rejected {request : Nat} {e : GatewayError} (hnew : request ∉ g.started) :
      Moves cfg requestTimeout g (.forwardToLambda request (.error e))
        ({ g with started := request :: g.started }.finish request (.error e))
  | askedAgain {request attempt wakeTime : Nat} {bodyBytes : Bytes}
      (hlookup : g.forwards.lookup request = some (.backoff bodyBytes attempt wakeTime))
      (hwake : wakeTime ≤ g.pool.clock) (hflag : g.pool.shutdownFlag = false) :
      Moves cfg requestTimeout g (.retry request)
        ({ g with
          pool := { g.pool with calls := ⟨request, .lockWait⟩ :: g.pool.calls } }.goOn request
            (.leasing bodyBytes (attempt + 1)))
  | refusedAgain {request attempt wakeTime : Nat} {bodyBytes : Bytes}
      (hlookup : g.forwards.lookup request = some (.backoff bodyBytes attempt wakeTime))
      (hwake : wakeTime ≤ g.pool.clock) (hflag : g.pool.shutdownFlag = true) :
      Moves cfg requestTimeout g (.retry request)
        ({ g with
          pool := { g.pool with
            returned := (request, .error .shuttingDown) :: g.pool.returned } }.finish request
              (.error .shuttingDown))
  | sent {request startTime : Nat} {bodyBytes : Bytes} {lease : HostLease}
      (hlookup : g.forwards.lookup request = some (.requesting bodyBytes lease startTime false)) :
      Moves cfg requestTimeout g (.sendInvoke request)
        { g.goOn request (.requesting bodyBytes lease startTime true) with
          invocations := ⟨lease, bodyBytes, true, true⟩ :: g.invocations }
  | requestFailed {request startTime : Nat} {bodyBytes : Bytes} {lease : HostLease} {sent : Bool}
      {message : String}
      (hlookup : g.forwards.lookup request = some (.requesting bodyBytes lease startTime sent)) :
      Moves cfg requestTimeout g (.requestFailed request message)
        (((g.breakOff lease.leaseId).dropLease lease).finish request
          (.error (.httpClient message)))
  | requestTimedOut {request startTime : Nat} {bodyBytes : Bytes} {lease : HostLease} {sent : Bool}
      (hlookup : g.forwards.lookup request = some (.requesting bodyBytes lease startTime sent))
      (htimeout : startTime + requestTimeout ≤ g.pool.clock) :
      Moves cfg requestTimeout g (.requestTimedOut request)
        (((g.stopReading lease.leaseId).dropLease lease).finish request (.error .timeout))
  | responseHead {request startTime : Nat} {bodyBytes : Bytes} {lease : HostLease}
      {parts : ResponseParts}
      (hlookup : g.forwards.lookup request = some (.requesting bodyBytes lease startTime true)) :
      Moves cfg requestTimeout g (.responseHead request parts)
        ((g.dropLease lease).goOn request (.collecting lease.leaseId parts))
  | bodyCollected {request : Nat} {leaseId : Uuid} {parts : ResponseParts} {body : Bytes}
      (hlookup : g.forwards.lookup request = some (.collecting leaseId parts)) :
      Moves cfg requestTimeout g (.bodyCollected request body)
        ((g.stopReading leaseId).finish request (.ok ⟨parts, body⟩))
  | bodyFailed {request : Nat} {leaseId : Uuid} {parts : ResponseParts} {message : String}
      (hlookup : g.forwards.lookup request = some (.collecting leaseId parts)) :
      Moves cfg requestTimeout g (.bodyFailed request message)
        ((g.breakOff leaseId).finish request (.error (.http message)))
  | cancelledLeasing {request attempt : Nat} {bodyBytes : Bytes} {b : HostPoolManager.Action}
      {pool : HostPoolManager}
      (hlookup : g.forwards.lookup request = some (.leasing bodyBytes attempt))
      (hstep : g.pool.step cfg b = some pool) (hcancel : g.pool.cancelled b = some request) :
      Moves cfg requestTimeout g (.cancelForward request)
        { g with pool, forwards := g.forwards.erase request }
  | cancelledWaiting {request attempt wakeTime : Nat} {bodyBytes : Bytes}
      (hlookup : g.forwards.lookup request = some (.backoff bodyBytes attempt wakeTime)) :
      Moves cfg requestTimeout g (.cancelForward request)
        { g with forwards := g.forwards.erase request }
  | cancelledRequesting {request startTime : Nat} {bodyBytes : Bytes} {lease : HostLease}
      {sent : Bool}
      (hlookup : g.forwards.lookup request = some (.requesting bodyBytes lease startTime sent)) :
      Moves cfg requestTimeout g (.cancelForward request)
        (({ g with forwards := g.forwards.erase request }.stopReading lease.leaseId).dropLease
          lease)
  | cancelledCollecting {request : Nat} {leaseId : Uuid} {parts : ResponseParts}
      (hlookup : g.forwards.lookup request = some (.collecting leaseId parts)) :
      Moves cfg requestTimeout g (.cancelForward request)
        ({ g with forwards := g.forwards.erase request }.stopReading leaseId)
  | handled {leaseId : Uuid} :
      Moves cfg requestTimeout g (.handled leaseId) (g.stopHandling leaseId)

variable {cfg : PoolConfig} {requestTimeout : Nat} {g g' : GatewayServer} {a : Action}
  {tr : List (GatewayServer × Action)}

theorem newResult_eq {s s' : HostPoolManager} {new : Option (Nat × Except PoolError HostLease)}
    (h : s'.returned = new.toList ++ s.returned) : newResult s s' = new := by
  cases new with
  | none => exact if_pos (congrArg List.length h)
  | some r => exact newResult_cons h

theorem poolStep_unreturned {b : HostPoolManager.Action} {pool : HostPoolManager}
    (hstep : g.pool.step cfg b = some pool) (hreturned : pool.returned = g.pool.returned) :
    g.poolStep cfg b = some { g with pool } := by
  have hnew : newResult g.pool pool = none := newResult_eq hreturned
  unfold poolStep
  rw [hstep, Option.map_some, hnew]

theorem poolStep_returned {b : HostPoolManager.Action} {pool : HostPoolManager} {request : Nat}
    {result : Except PoolError HostLease} (hstep : g.pool.step cfg b = some pool)
    (hreturned : pool.returned = (request, result) :: g.pool.returned) :
    g.poolStep cfg b = some ({ g with pool }.leaseReturned request result) := by
  unfold poolStep
  rw [hstep, Option.map_some, newResult_cons hreturned]

theorem leaseReturned_round {request attempt : Nat} {bodyBytes : Bytes}
    (hlookup : g.forwards.lookup request = some (.leasing bodyBytes attempt))
    (result : Except PoolError HostLease) : g.leaseReturned request result =
      g.leaseSettled request bodyBytes attempt (leaseHostWithRetry.round attempt result) := by
  unfold leaseReturned
  rw [hlookup]
  cases result with
  | ok lease => rfl
  | error e =>
    cases e with
    | containerNotReady =>
      dsimp only [RetryLoop.round, leaseHostWithRetry]
      split_ifs <;> rfl
    | _ => rfl

theorem internal_calls {s : HostPoolManager} {b : HostPoolManager.Action}
    (h : internal b = true) : s.asked b = none ∧ s.cancelled b = none := by
  cases b with
  | leaseHost => cases h
  | cancelLease => cases h
  | cancelSpawn => cases h
  | _ => exact ⟨rfl, rfl⟩

theorem poolStep_moves (hsync : Synced g.pool.openCalls g.forwards) {b : HostPoolManager.Action}
    (hinternal : internal b = true) (h : g.poolStep cfg b = some g') :
    Moves cfg requestTimeout g (.pool b) g' := by
  obtain ⟨pool, hstep, -⟩ := Option.map_eq_some_iff.mp h
  obtain ⟨new, hreturned, hopen⟩ := (HostPoolManager.effect_of_step hstep).calls
  obtain ⟨hasked, hcancelled⟩ := internal_calls hinternal (s := g.pool)
  cases new with
  | none =>
    obtain rfl := Option.some.inj (h.symm.trans (poolStep_unreturned hstep hreturned))
    exact .pooled hinternal hstep hreturned
  | some r =>
    obtain ⟨request, result⟩ := r
    rw [hasked, hcancelled] at hopen
    have hmem : request ∈ g.pool.openCalls := hopen.mem_iff.mp List.mem_cons_self
    obtain ⟨bodyBytes, attempt, hlookup⟩ := (hsync.leasing request).mp hmem
    have hlookup' : { g with pool }.forwards.lookup request = some (.leasing bodyBytes attempt) :=
      hlookup
    obtain rfl := Option.some.inj (h.symm.trans (poolStep_returned hstep hreturned))
    rw [leaseReturned_round hlookup']
    exact .returned hinternal hstep hreturned hlookup

theorem cancelLeasing_cancels (cfg : PoolConfig) {request : Nat} {pool : HostPoolManager}
    (h : g.cancelLeasing request = some pool) :
    ∃ b, g.pool.step cfg b = some pool ∧ g.pool.cancelled b = some request := by
  unfold cancelLeasing at h
  split at h
  next call hfind =>
    have hrequest : call.request = request := by simpa using List.find?_some hfind
    exact ⟨.cancelLease call, h, congrArg some hrequest⟩
  next =>
    split at h
    next hguard =>
      split_ifs at h with hspawner
      refine ⟨.cancelSpawn, h, ?_⟩
      rw [HostPoolManager.cancelled, hguard, ← hspawner]
      rfl
    next => cases h

theorem poolStep_leaseHost {request attempt : Nat} {bodyBytes : Bytes}
    (h : (g.goOn request (.leasing bodyBytes attempt)).poolStep cfg (.leaseHost request) =
      some g') :
    (g.pool.shutdownFlag = false ∧
      g' = { g with
        pool := { g.pool with calls := ⟨request, .lockWait⟩ :: g.pool.calls } }.goOn request
          (.leasing bodyBytes attempt)) ∨
    g.pool.shutdownFlag = true ∧
      g' = ({ g with
        pool := { g.pool with
          returned := (request, .error .shuttingDown) :: g.pool.returned } }.finish request
            (.error .shuttingDown)) := by
  -- the first await of `lease_host`, taken with the step that calls it
  cases hflag : g.pool.shutdownFlag with
  | false =>
    have hpool : g.pool.leaseHost request =
        { g.pool with calls := ⟨request, .lockWait⟩ :: g.pool.calls } :=
      if_neg (by rw [hflag]; decide)
    have hstep : (g.goOn request (.leasing bodyBytes attempt)).pool.step cfg
        (.leaseHost request) = some _ := congrArg some hpool
    exact .inl ⟨rfl, Option.some.inj (h.symm.trans (poolStep_unreturned hstep rfl))⟩
  | true =>
    have hpool : g.pool.leaseHost request =
        { g.pool with returned := (request, .error .shuttingDown) :: g.pool.returned } :=
      if_pos hflag
    have hstep : (g.goOn request (.leasing bodyBytes attempt)).pool.step cfg
        (.leaseHost request) = some _ := congrArg some hpool
    refine .inr ⟨rfl, ?_⟩
    rw [Option.some.inj (h.symm.trans (poolStep_returned hstep rfl)),
      leaseReturned_round (AList.lookup_insert _)]
    exact congrArg (fun forwards => GatewayServer.mk _ forwards _ _ _) (Table.erase_insert _ _ _)

theorem cancelForward_moves {request : Nat} (h : g.cancelForward request = some g') :
    Moves cfg requestTimeout g (.cancelForward request) g' := by
  unfold cancelForward at h
  split at h
  next hlookup =>
    obtain ⟨pool, hpool, rfl⟩ := Option.map_eq_some_iff.mp h
    obtain ⟨b, hstep, hcancel⟩ := cancelLeasing_cancels cfg hpool
    exact .cancelledLeasing hlookup hstep hcancel
  next hlookup =>
    obtain rfl := Option.some.inj h
    exact .cancelledWaiting hlookup
  next hlookup =>
    obtain rfl := Option.some.inj h
    exact .cancelledRequesting hlookup
  next hlookup =>
    obtain rfl := Option.some.inj h
    exact .cancelledCollecting hlookup
  next => cases h

theorem moves_of_step (hsync : Synced g.pool.openCalls g.forwards)
    (h : g.step cfg requestTimeout a = some g') : Moves cfg requestTimeout g a g' := by
  cases a with
  | pool b =>
    simp only [step] at h
    split_ifs at h with hinternal
    exact poolStep_moves hsync hinternal h
  | forwardToLambda request body =>
    simp only [step, forwardToLambda] at h
    split_ifs at h with hstarted
    cases body with
    | ok bodyBytes =>
      rcases poolStep_leaseHost h with ⟨hflag, rfl⟩ | ⟨hflag, rfl⟩
      · exact .asked hstarted hflag
      · exact .refused hstarted hflag
    | error e =>
      obtain rfl := Option.some.inj h
      exact .rejected hstarted
  | retry request =>
    simp only [step, retry] at h
    split at h
    next hlookup =>
      split_ifs at h with hwake
      rcases poolStep_leaseHost h with ⟨hflag, rfl⟩ | ⟨hflag, rfl⟩
      · exact .askedAgain hlookup hwake hflag
      · exact .refusedAgain hlookup hwake hflag
    next => cases h
  | sendInvoke request =>
    simp only [step, sendInvoke] at h
    split at h
    next hlookup =>
      obtain rfl := Option.some.inj h
      exact .sent hlookup
    next => cases h
  | requestFailed request message =>
    simp only [step, requestFailed] at h
    split at h
    next hlookup =>
      obtain rfl := Option.some.inj h
      exact .requestFailed hlookup
    next => cases h
  | requestTimedOut request =>
    simp only [step, requestTimedOut] at h
    split at h
    next hlookup =>
      split_ifs at h with htimeout
      obtain rfl := Option.some.inj h
      exact .requestTimedOut hlookup htimeout
    next => cases h
  | responseHead request parts =>
    simp only [step, responseHead] at h
    split at h
    next hlookup =>
      obtain rfl := Option.some.inj h
      exact .responseHead hlookup
    next => cases h
  | bodyCollected request body =>
    simp only [step, bodyCollected] at h
    split at h
    next hlookup =>
      obtain rfl := Option.some.inj h
      exact .bodyCollected hlookup
    next => cases h
  | bodyFailed request message =>
    simp only [step, bodyFailed] at h
    split at h
    next hlookup =>
      obtain rfl := Option.some.inj h
      exact .bodyFailed hlookup
    next => cases h
  | cancelForward request => exact cancelForward_moves h
  | handled leaseId =>
    obtain rfl := Option.some.inj h
    exact .handled

/-! ### The calls and the executions agree -/

theorem Synced.asked {calls : List Nat} {forwards : Forwards} (h : Synced calls forwards)
    {request attempt : Nat} {bodyBytes : Bytes} (hnew : request ∉ calls) :
    Synced (request :: calls) (forwards.insert request (.leasing bodyBytes attempt)) := by
  refine ⟨List.nodup_cons.mpr ⟨hnew, h.once⟩, fun r => ?_⟩
  by_cases hr : r = request
  · subst hr
    exact ⟨fun _ => ⟨bodyBytes, attempt, AList.lookup_insert _⟩, fun _ => List.mem_cons_self⟩
  · rw [AList.lookup_insert_ne hr, List.mem_cons, or_iff_right hr]
    exact h.leasing r

theorem Synced.ended {calls rest : List Nat} {forwards forwards' : Forwards}
    (h : Synced calls forwards) {request : Nat} (hcalls : (request :: rest).Perm calls)
    (hother : ∀ r, r ≠ request → forwards'.lookup r = forwards.lookup r)
    (hgone : ∀ bodyBytes attempt, forwards'.lookup request ≠ some (.leasing bodyBytes attempt)) :
    Synced rest forwards' := by
  have hnodup := hcalls.nodup_iff.mpr h.once
  refine ⟨(List.nodup_cons.mp hnodup).2, fun r => ?_⟩
  by_cases hr : r = request
  · subst hr
    refine iff_of_false (List.nodup_cons.mp hnodup).1 ?_
    rintro ⟨bodyBytes, attempt, hlookup⟩
    exact hgone bodyBytes attempt hlookup
  · rw [hother r hr, ← h.leasing r, ← hcalls.mem_iff, List.mem_cons, or_iff_right hr]

theorem Synced.moved {calls : List Nat} {forwards forwards' : Forwards}
    (h : Synced calls forwards) {request : Nat}
    (hbefore : ∀ bodyBytes attempt, forwards.lookup request ≠ some (.leasing bodyBytes attempt))
    (hother : ∀ r, r ≠ request → forwards'.lookup r = forwards.lookup r)
    (hafter : ∀ bodyBytes attempt, forwards'.lookup request ≠ some (.leasing bodyBytes attempt)) :
    Synced calls forwards' := by
  refine ⟨h.once, fun r => ?_⟩
  by_cases hr : r = request
  · subst hr
    rw [h.leasing r]
    refine iff_of_false ?_ ?_
    · rintro ⟨bodyBytes, attempt, hlookup⟩
      exact hbefore bodyBytes attempt hlookup
    · rintro ⟨bodyBytes, attempt, hlookup⟩
      exact hafter bodyBytes attempt hlookup
  · rw [hother r hr]
    exact h.leasing r

theorem Synced.perm {calls calls' : List Nat} {forwards : Forwards} (h : Synced calls forwards)
    (hp : calls'.Perm calls) : Synced calls' forwards :=
  ⟨hp.nodup_iff.mpr h.once, fun request => hp.mem_iff.trans (h.leasing request)⟩

theorem leaseSettled_pool (g : GatewayServer) (request : Nat) (bodyBytes : Bytes) (attempt : Nat)
    (outcome : Option (Except GatewayError HostLease)) :
    (g.leaseSettled request bodyBytes attempt outcome).pool = g.pool := by
  cases outcome with
  | none => rfl
  | some result => cases result <;> rfl

theorem leaseSettled_started (g : GatewayServer) (request : Nat) (bodyBytes : Bytes)
    (attempt : Nat) (outcome : Option (Except GatewayError HostLease)) :
    (g.leaseSettled request bodyBytes attempt outcome).started = g.started := by
  cases outcome with
  | none => rfl
  | some result => cases result <;> rfl

theorem leaseSettled_other (g : GatewayServer) {request r : Nat} (hr : r ≠ request)
    (bodyBytes : Bytes) (attempt : Nat) (outcome : Option (Except GatewayError HostLease)) :
    (g.leaseSettled request bodyBytes attempt outcome).forwards.lookup r =
      g.forwards.lookup r := by
  cases outcome with
  | none => exact AList.lookup_insert_ne hr
  | some result =>
    cases result with
    | ok lease => exact AList.lookup_insert_ne hr
    | error e => exact AList.lookup_erase_ne hr

theorem leaseSettled_not_leasing (g : GatewayServer) (request : Nat) (bodyBytes : Bytes)
    (attempt : Nat) (outcome : Option (Except GatewayError HostLease)) (bytes : Bytes) (n : Nat) :
    (g.leaseSettled request bodyBytes attempt outcome).forwards.lookup request ≠
      some (.leasing bytes n) := by
  intro h
  cases outcome with
  | none => cases (AList.lookup_insert g.forwards).symm.trans h
  | some result =>
    cases result with
    | ok lease => cases (AList.lookup_insert g.forwards).symm.trans h
    | error e => cases (AList.lookup_erase request g.forwards).symm.trans h

theorem not_leasing_of_lookup {forwards : Forwards} {request : Nat} {stage : ForwardStage}
    (hlookup : forwards.lookup request = some stage)
    (hstage : ∀ bodyBytes attempt, stage ≠ .leasing bodyBytes attempt) (bytes : Bytes) (n : Nat) :
    forwards.lookup request ≠ some (.leasing bytes n) :=
  fun h => hstage bytes n (Option.some.inj (hlookup.symm.trans h))

theorem Synced.goesOn {calls : List Nat} {forwards : Forwards} (h : Synced calls forwards)
    {request : Nat} {stage stage' : ForwardStage}
    (hlookup : forwards.lookup request = some stage)
    (hstage : ∀ bodyBytes attempt, stage ≠ .leasing bodyBytes attempt)
    (hstage' : ∀ bodyBytes attempt, stage' ≠ .leasing bodyBytes attempt) :
    Synced calls (forwards.insert request stage') :=
  h.moved (not_leasing_of_lookup hlookup hstage) (fun _ hr => AList.lookup_insert_ne hr)
    (not_leasing_of_lookup (AList.lookup_insert _) hstage')

theorem Synced.erased {calls : List Nat} {forwards : Forwards} (h : Synced calls forwards)
    {request : Nat} (hbefore : ∀ bodyBytes attempt,
      forwards.lookup request ≠ some (.leasing bodyBytes attempt)) :
    Synced calls (forwards.erase request) := by
  refine h.moved hbefore (fun _ hr => AList.lookup_erase_ne hr) fun bodyBytes attempt hlookup => ?_
  cases (AList.lookup_erase request forwards).symm.trans hlookup

theorem openCalls_internal {b : HostPoolManager.Action} {pool : HostPoolManager}
    {new : Option (Nat × Except PoolError HostLease)} (hinternal : internal b = true)
    (hstep : g.pool.step cfg b = some pool)
    (hreturned : pool.returned = new.toList ++ g.pool.returned) :
    ((new.map Prod.fst).toList ++ pool.openCalls).Perm g.pool.openCalls := by
  obtain ⟨new', hreturned', hopen⟩ := (HostPoolManager.effect_of_step hstep).calls
  obtain rfl : new' = new := (newResult_eq hreturned').symm.trans (newResult_eq hreturned)
  obtain ⟨hasked, hcancelled⟩ := internal_calls hinternal (s := g.pool)
  rw [hasked, hcancelled] at hopen
  exact hopen

theorem Synced.not_open {calls : List Nat} {forwards : Forwards} (h : Synced calls forwards)
    {request : Nat} (hnone : ∀ bodyBytes attempt,
      forwards.lookup request ≠ some (.leasing bodyBytes attempt)) : request ∉ calls := by
  intro hmem
  obtain ⟨bodyBytes, attempt, hlookup⟩ := (h.leasing request).mp hmem
  exact hnone bodyBytes attempt hlookup

theorem Moves.synced (hm : Moves cfg requestTimeout g a g')
    (hsync : Synced g.pool.openCalls g.forwards)
    (hstarted : ∀ r ∈ g.forwards, r ∈ g.started) : Synced g'.pool.openCalls g'.forwards := by
  have hnone : ∀ {request}, request ∉ g.started → ∀ bodyBytes attempt,
      g.forwards.lookup request ≠ some (.leasing bodyBytes attempt) :=
    fun hnew _ _ hlookup => hnew (hstarted _ (Table.lookup_mem hlookup))
  cases hm with
  | pooled hinternal hstep hreturned =>
    have hreturned' : _ = (none : Option (Nat × Except PoolError HostLease)).toList ++ _ :=
      hreturned
    exact hsync.perm (openCalls_internal hinternal hstep hreturned')
  | @returned _ _ request attempt bodyBytes result hinternal hstep hreturned hlookup =>
    have hreturned' : _ = (some (request, result)).toList ++ _ := hreturned
    rw [leaseSettled_pool]
    exact hsync.ended (openCalls_internal hinternal hstep hreturned')
      (fun r hr => leaseSettled_other _ hr _ _ _) (leaseSettled_not_leasing _ _ _ _ _)
  | asked hnew => exact hsync.asked (hsync.not_open (hnone hnew))
  | refused hnew
  | rejected hnew => exact hsync.erased (hnone hnew)
  | askedAgain hlookup =>
    exact hsync.asked (hsync.not_open (not_leasing_of_lookup hlookup nofun))
  | refusedAgain hlookup
  | requestFailed hlookup
  | requestTimedOut hlookup
  | bodyCollected hlookup
  | bodyFailed hlookup
  | cancelledWaiting hlookup
  | cancelledRequesting hlookup
  | cancelledCollecting hlookup => exact hsync.erased (not_leasing_of_lookup hlookup nofun)
  | sent hlookup
  | responseHead hlookup => exact hsync.goesOn hlookup nofun nofun
  | @cancelledLeasing request _ _ _ _ hlookup hstep hcancel =>
    obtain ⟨hcalls, -⟩ := (HostPoolManager.effect_of_step hstep).call_cancelled hcancel
    refine hsync.ended hcalls (fun r hr => AList.lookup_erase_ne hr) fun bodyBytes attempt h => ?_
    cases (AList.lookup_erase request g.forwards).symm.trans h
  | handled => exact hsync

end GatewayServer

end DockerizedLambda
