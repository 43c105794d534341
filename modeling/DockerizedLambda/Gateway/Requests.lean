import DockerizedLambda.Gateway.Moves

/-! What becomes of a request. The gateway spawns a task a connection, and the executions share
nothing but the pool; still each request is answered at most once, and every lease that the pool
has given out is in the hands of one execution. -/

namespace DockerizedLambda

open Transition

namespace GatewayServer

def cancelled (_ : GatewayServer) : Action → Option Nat
  | .cancelForward request => some request
  | _ => none

structure InStep (g : GatewayServer) : Prop where
  calls : Synced g.pool.openCalls g.forwards
  leases : (heldLeases g.forwards).Perm g.pool.leases

def forwardSpawned (request : Nat) (bodyBytes : Bytes) (leaseId : Uuid)
    (containerId : ContainerId) (port : UInt16) : List Action :=
  .forwardToLambda request (.ok bodyBytes) ::
    (HostPoolManager.leaseSpawned request leaseId containerId port).tail.map .pool

variable {cfg : PoolConfig} {requestTimeout : Nat} {g g' : GatewayServer} {a : Action}
  {tr : List (GatewayServer × Action)}

theorem keys_insert {forwards : Forwards} {request : Nat} (h : request ∈ forwards)
    (stage : ForwardStage) : (forwards.insert request stage).keys.Perm forwards.keys := by
  rw [AList.keys_insert]
  exact (List.perm_cons_erase h).symm

theorem keys_erase {forwards : Forwards} {request : Nat} (h : request ∈ forwards) :
    (request :: (forwards.erase request).keys).Perm forwards.keys := by
  rw [AList.keys_erase]
  exact (List.perm_cons_erase h).symm

theorem keys_of_new {forwards : Forwards} {request : Nat} (h : request ∉ forwards)
    (stage : ForwardStage) : (forwards.insert request stage).keys = request :: forwards.keys := by
  rw [AList.keys_insert, List.erase_of_not_mem h]

def Accounted (gone : List Nat) (g : GatewayServer) : Prop :=
  g.started.Perm (g.answered.map Prod.fst ++ (gone ++ g.forwards.keys))

theorem Accounted.mem {gone : List Nat} (h : Accounted gone g) {request : Nat}
    (hmem : request ∈ g.forwards) : request ∈ g.started :=
  h.mem_iff.mpr (List.mem_append_right _ (List.mem_append_right _ hmem))

theorem Accounted.goesOn {gone : List Nat} (h : Accounted gone g)
    (hstarted : g'.started = g.started) (hanswered : g'.answered = g.answered)
    (hkeys : g'.forwards.keys.Perm g.forwards.keys) : Accounted gone g' := by
  rw [Accounted, hstarted, hanswered]
  exact h.trans ((hkeys.symm.append_left _).append_left _)

theorem Accounted.answers {gone : List Nat} (h : Accounted gone g) {request : Nat}
    {result : Except GatewayError Response} (hmem : request ∈ g.forwards)
    (hstarted : g'.started = g.started) (hanswered : g'.answered = (request, result) :: g.answered)
    (hforwards : g'.forwards = g.forwards.erase request) : Accounted gone g' := by
  have hcount := fun r => h.count_eq r
  have hkeys := fun r => (keys_erase hmem).count_eq r
  rw [Accounted, hstarted, hanswered, hforwards, List.perm_iff_count]
  intro r
  have hc := hcount r
  have hk := hkeys r
  simp only [List.map_cons, List.count_append, List.count_cons] at hc hk ⊢
  omega

theorem Accounted.leaves {gone : List Nat} (h : Accounted gone g) {request : Nat}
    (hmem : request ∈ g.forwards) (hstarted : g'.started = g.started)
    (hanswered : g'.answered = g.answered) (hforwards : g'.forwards = g.forwards.erase request) :
    Accounted (gone ++ [request]) g' := by
  have hkeys := keys_erase hmem
  rw [Accounted, hstarted, hanswered, hforwards, List.append_assoc]
  exact h.trans ((hkeys.symm.append_left _).append_left _)

theorem Accounted.arrives {gone : List Nat} (h : Accounted gone g) {request : Nat}
    {stage : ForwardStage} (hnew : request ∉ g.started)
    (hstarted : g'.started = request :: g.started) (hanswered : g'.answered = g.answered)
    (hforwards : g'.forwards = g.forwards.insert request stage) : Accounted gone g' := by
  have hkeys := keys_of_new (fun hmem => hnew (h.mem hmem)) stage
  rw [Accounted, hstarted, hanswered, hforwards, hkeys]
  have hp := (h.cons request).trans List.perm_middle.symm
  exact hp.trans (List.perm_middle.symm.append_left _)

theorem Accounted.rejects {gone : List Nat} (h : Accounted gone g) {request : Nat}
    {result : Except GatewayError Response} (hnew : request ∉ g.started)
    (hstarted : g'.started = request :: g.started)
    (hanswered : g'.answered = (request, result) :: g.answered)
    (hforwards : g'.forwards = g.forwards.erase request) : Accounted gone g' := by
  have hmem : request ∉ g.forwards := fun hmem => hnew (h.mem hmem)
  rw [Accounted, hstarted, hanswered, hforwards, Table.erase_of_notMem hmem]
  exact h.cons request

theorem Accounted.settled {gone : List Nat} (h : Accounted gone g) {request : Nat}
    (hmem : request ∈ g.forwards) (bodyBytes : Bytes) (attempt : Nat)
    (outcome : Option (Except GatewayError HostLease)) :
    Accounted gone (g.leaseSettled request bodyBytes attempt outcome) := by
  cases outcome with
  | none => exact h.goesOn rfl rfl (keys_insert hmem _)
  | some result =>
    cases result with
    | ok lease => exact h.goesOn rfl rfl (keys_insert hmem _)
    | error e => exact h.answers hmem rfl rfl rfl

theorem Moves.accounted (hm : Moves cfg requestTimeout g a g') {gone : List Nat}
    (h : Accounted gone g) : Accounted (gone ++ (cancelled g a).toList) g' := by
  have hnil : gone ++ (none : Option Nat).toList = gone := List.append_nil gone
  cases hm with
  | pooled
  | handled => exact hnil.symm ▸ h
  | @returned _ pool _ _ _ _ _ _ _ hlookup =>
    have hpool : Accounted gone { g with pool } := h
    exact hnil.symm ▸ hpool.settled (Table.lookup_mem hlookup) _ _ _
  | asked hnew => exact hnil.symm ▸ h.arrives hnew rfl rfl rfl
  | refused hnew
  | rejected hnew => exact hnil.symm ▸ h.rejects hnew rfl rfl rfl
  | askedAgain hlookup
  | sent hlookup
  | responseHead hlookup =>
    exact hnil.symm ▸ h.goesOn rfl rfl (keys_insert (Table.lookup_mem hlookup) _)
  | refusedAgain hlookup
  | requestFailed hlookup
  | requestTimedOut hlookup
  | bodyCollected hlookup
  | bodyFailed hlookup =>
    exact hnil.symm ▸ h.answers (Table.lookup_mem hlookup) rfl rfl rfl
  | cancelledLeasing hlookup
  | cancelledWaiting hlookup
  | cancelledRequesting hlookup
  | cancelledCollecting hlookup =>
    exact h.leaves (Table.lookup_mem hlookup) rfl rfl rfl

theorem Moves.started (hm : Moves cfg requestTimeout g a g') (h : g.started.Nodup) :
    g'.started.Nodup := by
  cases hm with
  | asked hnew
  | refused hnew
  | rejected hnew => exact List.nodup_cons.mpr ⟨hnew, h⟩
  | returned =>
    rw [leaseSettled_started]
    exact h
  | _ => exact h

structure Consistent (tr : List (GatewayServer × Action)) (g : GatewayServer) : Prop where
  calls : Synced g.pool.openCalls g.forwards
  once : g.started.Nodup
  accounted : Accounted (outputs cancelled tr) g

theorem consistent_run (h : Run (system cfg requestTimeout) tr g) : Consistent tr g := by
  induction h with
  | start =>
    refine ⟨⟨List.nodup_nil, fun request => iff_of_false List.not_mem_nil ?_⟩, List.nodup_nil,
      List.Perm.refl _⟩
    rintro ⟨_, _, hlookup⟩
    cases hlookup
  | next _ hs ih =>
    have hm := moves_of_step ih.calls hs
    exact ⟨hm.synced ih.calls fun _ => ih.accounted.mem, hm.started ih.once,
      hm.accounted ih.accounted⟩

theorem moves_of_run_step (h : Run (system cfg requestTimeout) tr g)
    (hs : g.step cfg requestTimeout a = some g') : Moves cfg requestTimeout g a g' :=
  moves_of_step (consistent_run h).calls hs

/-! ### Leases -/

theorem held_erase {forwards : Forwards} {request : Nat} {stage : ForwardStage}
    (hlookup : forwards.lookup request = some stage) :
    (heldLeases forwards).Perm (stage.lease.toList ++ heldLeases (forwards.erase request)) :=
  Table.filterMap_perm_erase ForwardStage.lease hlookup

theorem held_insert (forwards : Forwards) (request : Nat) (stage : ForwardStage) :
    heldLeases (forwards.insert request stage) =
      stage.lease.toList ++ heldLeases (forwards.erase request) :=
  Table.filterMap_insert ForwardStage.lease forwards request stage

theorem held_goesOn {forwards : Forwards} {request : Nat} {stage stage' : ForwardStage}
    (hlookup : forwards.lookup request = some stage) (hlease : stage'.lease = stage.lease) :
    (heldLeases (forwards.insert request stage')).Perm (heldLeases forwards) := by
  rw [held_insert, hlease]
  exact (held_erase hlookup).symm

theorem held_ended {forwards : Forwards} {request : Nat} {stage : ForwardStage}
    (hlookup : forwards.lookup request = some stage) (hlease : stage.lease = none) :
    (heldLeases (forwards.erase request)).Perm (heldLeases forwards) := by
  have hp := held_erase hlookup
  rw [hlease] at hp
  exact hp.symm

theorem held_of_new {forwards : Forwards} {request : Nat} (h : request ∉ forwards) :
    heldLeases (forwards.erase request) = heldLeases forwards := by
  rw [Table.erase_of_notMem h]

theorem held_dropped {forwards : Forwards} {request : Nat} {stage : ForwardStage}
    {lease : HostLease} {leases : List HostLease} (h : (heldLeases forwards).Perm leases)
    (hlookup : forwards.lookup request = some stage) (hlease : stage.lease = some lease) :
    (heldLeases (forwards.erase request)).Perm (leases.erase lease) := by
  have hp := held_erase hlookup
  rw [hlease] at hp
  have hdropped := (hp.symm.trans h).erase lease
  rwa [Option.toList_some, List.singleton_append, List.erase_cons_head] at hdropped

theorem leases_unreturned {b : HostPoolManager.Action} {pool : HostPoolManager}
    (hstep : g.pool.step cfg b = some pool) (hdrop : ∀ lease, b ≠ .dropLease lease)
    (hnew : ∀ request lease, newResult g.pool pool ≠ some (request, .ok lease)) :
    pool.leases = g.pool.leases := by
  rcases newResult_cases (HostPoolManager.effect_of_step hstep) hdrop with
    ⟨hleases, -⟩ | ⟨request, lease, hresult, -⟩
  · exact hleases
  · exact absurd hresult (hnew request lease)

theorem leases_returned {b : HostPoolManager.Action} {pool : HostPoolManager} {request : Nat}
    {lease : HostLease} (hstep : g.pool.step cfg b = some pool)
    (hdrop : ∀ lease, b ≠ .dropLease lease)
    (hnew : newResult g.pool pool = some (request, .ok lease)) :
    pool.leases = lease :: g.pool.leases := by
  rcases newResult_cases (HostPoolManager.effect_of_step hstep) hdrop with
    ⟨-, hnone⟩ | ⟨_, _, hresult, hleases, -⟩
  · exact absurd hnew (hnone request lease)
  · cases hresult.symm.trans hnew
    exact hleases

theorem dropLease_not_internal {b : HostPoolManager.Action} (h : internal b = true)
    (lease : HostLease) : b ≠ .dropLease lease := by
  rintro rfl
  cases h

theorem lease_of_round {attempt : Nat} {result : Except PoolError HostLease} {lease : HostLease}
    (h : leaseHostWithRetry.round attempt result = some (.ok lease)) : result = .ok lease := by
  rcases RetryLoop.round_eq_some h with hsettle | ⟨-, -, hgiveUp⟩
  · cases result with
    | ok lease' =>
      cases hsettle
      rfl
    | error e => cases e <;> cases hsettle
  · cases hgiveUp

theorem settled_error (g : GatewayServer) {request attempt : Nat} {bodyBytes : Bytes}
    (hlookup : g.forwards.lookup request = some (.leasing bodyBytes attempt)) (e : PoolError) :
    (heldLeases (g.leaseSettled request bodyBytes attempt
      (leaseHostWithRetry.round attempt (.error e))).forwards).Perm (heldLeases g.forwards) := by
  cases hround : leaseHostWithRetry.round attempt (.error e) with
  | none => exact held_goesOn hlookup rfl
  | some outcome =>
    cases outcome with
    | ok lease => cases lease_of_round hround
    | error e' => exact held_ended hlookup rfl

theorem Moves.leases (hm : Moves cfg requestTimeout g a g')
    (hstarted : ∀ r ∈ g.forwards, r ∈ g.started)
    (h : (heldLeases g.forwards).Perm g.pool.leases) :
    (heldLeases g'.forwards).Perm g'.pool.leases := by
  cases hm with
  | pooled hinternal hstep hreturned =>
    have hnew : newResult g.pool _ = none := newResult_eq hreturned
    have hleases := leases_unreturned hstep (dropLease_not_internal hinternal) fun _ _ hr =>
      absurd (hnew.symm.trans hr) nofun
    exact hleases ▸ h
  | @returned _ pool request attempt bodyBytes result hinternal hstep hreturned hlookup =>
    have hdrop := dropLease_not_internal hinternal
    have hnew : newResult g.pool pool = some (request, result) := newResult_cons hreturned
    rw [leaseSettled_pool]
    cases result with
    | ok lease =>
      have hround : leaseHostWithRetry.round attempt (.ok lease) = some (.ok lease) := rfl
      rw [hround, leases_returned hstep hdrop hnew, leaseSettled, goOn, held_insert]
      exact ((held_ended hlookup rfl).trans h).cons lease
    | error e =>
      have hleases := leases_unreturned hstep hdrop fun _ _ hr =>
        absurd (hnew.symm.trans hr) nofun
      have hheld := settled_error { g with pool } hlookup e
      rw [hleases]
      exact hheld.trans h
  | asked hnew =>
    have hnot := fun hmem => hnew (hstarted _ hmem)
    refine List.Perm.trans ?_ h
    rw [goOn, held_insert, held_of_new hnot]
    exact List.Perm.refl _
  | refused hnew
  | rejected hnew =>
    rw [finish, held_of_new fun hmem => hnew (hstarted _ hmem)]
    exact h
  | askedAgain hlookup
  | sent hlookup => exact (held_goesOn hlookup rfl).trans h
  | refusedAgain hlookup
  | bodyCollected hlookup
  | bodyFailed hlookup
  | cancelledWaiting hlookup
  | cancelledCollecting hlookup => exact (held_ended hlookup rfl).trans h
  | requestFailed hlookup
  | requestTimedOut hlookup
  | cancelledRequesting hlookup => exact held_dropped h hlookup rfl
  | responseHead hlookup =>
    rw [goOn, held_insert]
    exact held_dropped h hlookup rfl
  | @cancelledLeasing _ _ _ b _ hlookup hstep hcancel =>
    have hdrop : ∀ lease, b ≠ .dropLease lease := by
      rintro lease rfl
      cases hcancel
    have hnew : newResult g.pool _ = none :=
      newResult_eq ((HostPoolManager.effect_of_step hstep).call_cancelled hcancel).2
    have hleases := leases_unreturned hstep hdrop fun _ _ hr =>
      absurd (hnew.symm.trans hr) nofun
    exact hleases ▸ (held_ended hlookup rfl).trans h
  | handled => exact h

theorem leases_run (h : Run (system cfg requestTimeout) tr g) :
    (heldLeases g.forwards).Perm g.pool.leases := by
  refine h.invariant (I := fun g => (heldLeases g.forwards).Perm g.pool.leases)
    (List.Perm.refl _) fun hr hi hs => ?_
  exact (moves_of_run_step hr hs).leases (fun _ => (consistent_run hr).accounted.mem) hi

/-- Every call of `lease_host` has one execution that waits for it, and every `HostLease` one
that holds it. -/
theorem in_step (h : Run (system cfg requestTimeout) tr g) : g.InStep :=
  ⟨(consistent_run h).calls, leases_run h⟩

theorem in_step_mixed :
    ∃ tr g, Run (system GatewayConfig.small.poolConfig (5 * nanosPerSecond)) tr g ∧
      g.pool.openCalls = [1] ∧ g.pool.leases = [⟨"c1", 8081, 1⟩] ∧ g.InStep := by
  obtain ⟨tr, g, ht, hcalls, hleases⟩ : ∃ tr g,
      (system GatewayConfig.small.poolConfig (5 * nanosPerSecond)).trace []
        (new GatewayConfig.small.poolConfig)
        (forwardSpawned 0 [] 1 "c1" 8081 ++ [.forwardToLambda 1 (.ok [])]) = some (tr, g) ∧
      g.pool.openCalls = [1] ∧ g.pool.leases = [⟨"c1", 8081, 1⟩] := ⟨_, _, rfl, rfl, rfl⟩
  have hr := Run.start.trace ht
  exact ⟨tr, g, hr, hcalls, hleases, in_step hr⟩

/-- No request is lost, none is answered twice, and none is answered when its client has gone. -/
theorem requests_conserved (h : Run (system cfg requestTimeout) tr g) : g.started.Nodup ∧
    g.started.Perm (g.answered.map Prod.fst ++ (outputs cancelled tr ++ g.forwards.keys)) :=
  ⟨(consistent_run h).once, (consistent_run h).accounted⟩

theorem requests_conserved_mixed :
    ∃ tr g, Run (system GatewayConfig.small.poolConfig (5 * nanosPerSecond)) tr g ∧
      g.answered = [(0, .error .timeout)] ∧ g.forwards.keys = [2] ∧ g.started.Nodup ∧
      g.started.Perm (g.answered.map Prod.fst ++ (outputs cancelled tr ++ g.forwards.keys)) := by
  obtain ⟨tr, g, ht, hanswered, hkeys⟩ : ∃ tr g,
      (system GatewayConfig.small.poolConfig (5 * nanosPerSecond)).trace []
        (new GatewayConfig.small.poolConfig)
        (forwardSpawned 0 [] 1 "c1" 8081 ++ [.forwardToLambda 1 (.ok []),
          .forwardToLambda 2 (.ok []), .cancelForward 1, .pool (.tick (6 * nanosPerSecond)),
          .requestTimedOut 0]) = some (tr, g) ∧
      g.answered = [(0, .error .timeout)] ∧ g.forwards.keys = [2] := ⟨_, _, rfl, rfl, rfl⟩
  have hr := Run.start.trace ht
  exact ⟨tr, g, hr, hanswered, hkeys, requests_conserved hr⟩

end GatewayServer

end DockerizedLambda
