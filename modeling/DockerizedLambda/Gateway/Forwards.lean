import DockerizedLambda.Gateway.Server
import DockerizedLambda.Pool.Exclusive

/-! What one step of the gateway can do, as far as leases go: the pool takes a step, a lease
comes back from it, a request is sent under a lease, or a lease is dropped. -/

namespace DockerizedLambda

open Transition

def ForwardStage.lease : ForwardStage → Option HostLease
  | .requesting _ lease _ _ => some lease
  | _ => none

def ForwardStage.unsent : ForwardStage → Option HostLease
  | .requesting _ lease _ false => some lease
  | _ => none

theorem ForwardStage.lease_of_unsent {stage : ForwardStage} {lease : HostLease}
    (h : stage.unsent = some lease) : stage.lease = some lease := by
  cases stage with
  | requesting bodyBytes held startTime sent =>
    cases sent with
    | false => exact h
    | true => cases h
  | _ => cases h

namespace GatewayServer

abbrev Forwards := Table Nat ForwardStage

def heldLeases (forwards : Forwards) : List HostLease :=
  (Table.values forwards).filterMap ForwardStage.lease

def unsentLeases (forwards : Forwards) : List HostLease :=
  (Table.values forwards).filterMap ForwardStage.unsent

def used (g : GatewayServer) : List HostLease := g.invocations.map Invocation.lease

structure Gains (gained : List HostLease) (old new : Forwards) : Prop where
  held : (heldLeases new).Subperm (gained ++ heldLeases old)
  unsent : unsentLeases new ⊆ gained ++ unsentLeases old

theorem Gains.refl (forwards : Forwards) : Gains [] forwards forwards :=
  ⟨List.Subperm.refl _, List.Subset.refl _⟩

theorem Gains.trans {gained : List HostLease} {a b c : Forwards} (hab : Gains [] a b)
    (hbc : Gains gained b c) : Gains gained a c := by
  refine ⟨hbc.held.trans ((List.Subperm.refl gained).append hab.held), fun lease hl => ?_⟩
  rcases List.mem_append.mp (hbc.unsent hl) with hl | hl
  · exact List.mem_append_left _ hl
  · exact List.mem_append_right _ (hab.unsent hl)

theorem Gains.erase (forwards : Forwards) (request : Nat) :
    Gains [] forwards (forwards.erase request) := by
  have hsub := Table.values_erase_sublist forwards request
  exact ⟨(hsub.filterMap _).subperm, (hsub.filterMap _).subset⟩

theorem Gains.replace (forwards : Forwards) (request : Nat) (stage : ForwardStage) :
    Gains stage.lease.toList (forwards.erase request) (forwards.insert request stage) := by
  refine ⟨?_, ?_⟩
  · rw [heldLeases, Table.filterMap_insert]
    exact List.Subperm.refl _
  · rw [unsentLeases, Table.filterMap_insert]
    intro lease hl
    rcases List.mem_append.mp hl with hl | hl
    · have hlease := ForwardStage.lease_of_unsent (Option.mem_toList.mp hl)
      exact List.mem_append_left _ (Option.mem_toList.mpr hlease)
    · exact List.mem_append_right _ hl

theorem Gains.insert (forwards : Forwards) (request : Nat) (stage : ForwardStage) :
    Gains stage.lease.toList forwards (forwards.insert request stage) :=
  (Gains.erase forwards request).trans (Gains.replace forwards request stage)

inductive Effect (cfg : PoolConfig) (g : GatewayServer) (a : Action) (g' : GatewayServer) : Prop
  | pooled {b : HostPoolManager.Action} (hstep : g.pool.step cfg b = some g'.pool)
      (hdrop : ∀ lease, b ≠ .dropLease lease) (hrecv : b = .recvReturn → a = .pool .recvReturn)
      (hforwards : Gains [] g.forwards g'.forwards) (hused : g'.used = g.used)
  | leased {b : HostPoolManager.Action} {request : Nat} {lease : HostLease}
      (hstep : g.pool.step cfg b = some g'.pool) (hdrop : ∀ lease, b ≠ .dropLease lease)
      (hrecv : b = .recvReturn → a = .pool .recvReturn)
      (hresult : newResult g.pool g'.pool = some (request, .ok lease))
      (hforwards : Gains [lease] g.forwards g'.forwards) (hused : g'.used = g.used)
  | sent {request startTime : Nat} {bodyBytes : Bytes} {lease : HostLease}
      (hlookup : g.forwards.lookup request = some (.requesting bodyBytes lease startTime false))
      (hpool : g'.pool = g.pool)
      (hforwards : g'.forwards =
        g.forwards.insert request (.requesting bodyBytes lease startTime true))
      (hused : g'.used = lease :: g.used)
  | released {request startTime : Nat} {bodyBytes : Bytes} {lease : HostLease} {sent : Bool}
      (hlookup : g.forwards.lookup request = some (.requesting bodyBytes lease startTime sent))
      (hpool : g'.pool = g.pool.dropLease lease)
      (hforwards : Gains [] (g.forwards.erase request) g'.forwards)
      (hused : g'.used.Sublist g.used)
  | quiet (hpool : g'.pool = g.pool) (hforwards : Gains [] g.forwards g'.forwards)
      (hused : g'.used.Sublist g.used)

variable {cfg : PoolConfig} {requestTimeout : Nat} {g g' : GatewayServer} {a : Action}

theorem settle_used (g : GatewayServer) (leaseId : Uuid) {f : Invocation → Invocation}
    (hf : ∀ i, (f i).lease = i.lease) : (g.settle leaseId f).used.Sublist g.used := by
  have hmap : (g.invocations.map fun i => if i.lease.leaseId = leaseId then f i else i).map
      Invocation.lease = g.used := by
    rw [List.map_map]
    apply List.map_congr_left
    intro i _
    simp only [Function.comp_apply]
    split_ifs
    · exact hf i
    · rfl
  rw [← hmap]
  exact List.filter_sublist.map _

theorem stopReading_used (g : GatewayServer) (leaseId : Uuid) :
    (g.stopReading leaseId).used.Sublist g.used := settle_used g leaseId fun _ => rfl

theorem stopHandling_used (g : GatewayServer) (leaseId : Uuid) :
    (g.stopHandling leaseId).used.Sublist g.used := settle_used g leaseId fun _ => rfl

theorem breakOff_used (g : GatewayServer) (leaseId : Uuid) :
    (g.breakOff leaseId).used.Sublist g.used := settle_used g leaseId fun _ => rfl

theorem leaseReturned_cases (g : GatewayServer) (request : Nat)
    (result : Except PoolError HostLease) :
    (g.leaseReturned request result).pool = g.pool ∧
    (g.leaseReturned request result).used = g.used ∧
    (Gains [] g.forwards (g.leaseReturned request result).forwards ∨
      ∃ lease, result = .ok lease ∧
        Gains [lease] g.forwards (g.leaseReturned request result).forwards) := by
  have hended := Gains.erase g.forwards request
  unfold leaseReturned
  split
  next bodyBytes attempt _ =>
    split
    next lease =>
      exact ⟨rfl, rfl, .inr ⟨lease, rfl, Gains.insert g.forwards request (.requesting _ _ _ _)⟩⟩
    next => exact ⟨rfl, rfl, .inl hended⟩
    next => exact ⟨rfl, rfl, .inl hended⟩
    next =>
      split_ifs
      · exact ⟨rfl, rfl, .inl (Gains.insert g.forwards request (.backoff _ _ _))⟩
      · exact ⟨rfl, rfl, .inl hended⟩
    next => exact ⟨rfl, rfl, .inl hended⟩
  next => exact ⟨rfl, rfl, .inl (Gains.refl _)⟩

theorem poolStep_effect {g₀ : GatewayServer} {b : HostPoolManager.Action}
    (h : g₀.poolStep cfg b = some g') (hpool : g₀.pool = g.pool) (hused : g₀.used = g.used)
    (hforwards : Gains [] g.forwards g₀.forwards) (hdrop : ∀ lease, b ≠ .dropLease lease)
    (hrecv : b = .recvReturn → a = .pool .recvReturn) : Effect cfg g a g' := by
  obtain ⟨pool, hstep, rfl⟩ := Option.map_eq_some_iff.mp h
  rw [hpool] at hstep ⊢
  cases hresult : newResult g.pool pool with
  | none => exact .pooled hstep hdrop hrecv hforwards hused
  | some r =>
    obtain ⟨request, result⟩ := r
    obtain ⟨hp, hu, hf⟩ := leaseReturned_cases { g₀ with pool } request result
    have hstep' := hstep.trans (congrArg some hp.symm)
    rcases hf with hf | ⟨lease, rfl, hf⟩
    · exact .pooled hstep' hdrop hrecv (hforwards.trans hf) (hu.trans hused)
    · have hresult' := (congrArg (newResult g.pool) hp).trans hresult
      exact .leased hstep' hdrop hrecv hresult' (hforwards.trans hf) (hu.trans hused)

theorem cancelLeasing_step (cfg : PoolConfig) {request : Nat} {pool : HostPoolManager}
    (h : g.cancelLeasing request = some pool) :
    ∃ b, g.pool.step cfg b = some pool ∧ (∀ lease, b ≠ .dropLease lease) ∧ b ≠ .recvReturn := by
  unfold cancelLeasing at h
  split at h
  next call _ => exact ⟨.cancelLease call, h, nofun, nofun⟩
  next =>
    split at h
    next =>
      split_ifs at h
      exact ⟨.cancelSpawn, h, nofun, nofun⟩
    next => cases h

theorem cancelForward_effect {request : Nat} (h : g.cancelForward request = some g') :
    Effect cfg g (.cancelForward request) g' := by
  have hended := Gains.erase g.forwards request
  unfold cancelForward at h
  split at h
  next =>
    obtain ⟨pool, hpool, rfl⟩ := Option.map_eq_some_iff.mp h
    obtain ⟨b, hstep, hdrop, hrecv⟩ := cancelLeasing_step cfg hpool
    exact .pooled hstep hdrop (fun hb => absurd hb hrecv) hended rfl
  next =>
    obtain rfl := Option.some.inj h
    exact .quiet rfl hended (List.Sublist.refl _)
  next lease _ _ hlookup =>
    obtain rfl := Option.some.inj h
    exact .released hlookup rfl (Gains.refl _) (stopReading_used _ lease.leaseId)
  next leaseId _ _ =>
    obtain rfl := Option.some.inj h
    exact .quiet rfl hended (stopReading_used _ leaseId)
  next => cases h

theorem effect_of_step (h : g.step cfg requestTimeout a = some g') : Effect cfg g a g' := by
  cases a with
  | pool b =>
    simp only [step] at h
    split_ifs at h with hinternal
    refine poolStep_effect h rfl rfl (Gains.refl _) ?_ fun hb => congrArg _ hb
    rintro lease rfl
    cases hinternal
  | forwardToLambda request body =>
    simp only [step, forwardToLambda] at h
    split_ifs at h
    cases body with
    | ok bodyBytes =>
      exact poolStep_effect h rfl rfl (Gains.insert _ request (.leasing bodyBytes 1)) nofun nofun
    | error e =>
      obtain rfl := Option.some.inj h
      exact .quiet rfl (Gains.erase _ _) (List.Sublist.refl _)
  | retry request =>
    simp only [step, retry] at h
    split at h
    next bodyBytes attempt wakeTime _ =>
      split_ifs at h
      exact poolStep_effect h rfl rfl
        (Gains.insert _ request (.leasing bodyBytes (attempt + 1))) nofun nofun
    next => cases h
  | sendInvoke request =>
    simp only [step, sendInvoke] at h
    split at h
    next hlookup =>
      obtain rfl := Option.some.inj h
      exact .sent hlookup rfl rfl rfl
    next => cases h
  | requestFailed request message =>
    simp only [step, requestFailed] at h
    split at h
    next lease _ _ hlookup =>
      obtain rfl := Option.some.inj h
      exact .released hlookup rfl (Gains.refl _) (breakOff_used g lease.leaseId)
    next => cases h
  | requestTimedOut request =>
    simp only [step, requestTimedOut] at h
    split at h
    next lease _ _ hlookup =>
      split_ifs at h
      obtain rfl := Option.some.inj h
      exact .released hlookup rfl (Gains.refl _) (stopReading_used g lease.leaseId)
    next => cases h
  | responseHead request parts =>
    simp only [step, responseHead] at h
    split at h
    next lease _ hlookup =>
      obtain rfl := Option.some.inj h
      exact .released hlookup rfl (Gains.replace _ request (.collecting _ parts))
        (List.Sublist.refl _)
    next => cases h
  | bodyCollected request body =>
    simp only [step, bodyCollected] at h
    split at h
    next leaseId parts _ =>
      obtain rfl := Option.some.inj h
      exact .quiet rfl (Gains.erase _ _) (stopReading_used g leaseId)
    next => cases h
  | bodyFailed request message =>
    simp only [step, bodyFailed] at h
    split at h
    next leaseId _ _ =>
      obtain rfl := Option.some.inj h
      exact .quiet rfl (Gains.erase _ _) (breakOff_used g leaseId)
    next => cases h
  | cancelForward request => exact cancelForward_effect h
  | handled leaseId =>
    obtain rfl := Option.some.inj h
    exact .quiet rfl (Gains.refl _) (stopHandling_used g leaseId)

theorem newResult_cons {s s' : HostPoolManager} {r : Nat × Except PoolError HostLease}
    (h : s'.returned = r :: s.returned) : newResult s s' = some r := by
  simp [newResult, h]

theorem newResult_cases {s s' : HostPoolManager} {b : HostPoolManager.Action}
    (he : HostPoolManager.Effect cfg s b s') (hdrop : ∀ lease, b ≠ .dropLease lease) :
    (s'.leases = s.leases ∧ ∀ request lease, newResult s s' ≠ some (request, .ok lease)) ∨
    ∃ request lease, newResult s s' = some (request, .ok lease) ∧ s'.leases = lease :: s.leases ∧
      (lease.leaseId ∉ s.issued ∨ lease ∈ s.calls.filterMap LeaseCall.lease) := by
  cases he with
  | leaseTested hcall hguard hfresh =>
    exact .inr ⟨_, _, newResult_cons rfl, rfl, .inl hfresh⟩
  | readyConfirmed hcall =>
    refine .inr ⟨_, _, newResult_cons rfl, rfl, .inr ?_⟩
    exact List.mem_filterMap.mpr ⟨_, hcall, rfl⟩
  | leaseDropped => exact absurd rfl (hdrop _)
  | @portsExhausted caller
  | @createFailed caller
  | @createdUnanswered caller
  | @startFailed caller
  | @startedUnanswered caller =>
    refine .inl ⟨rfl, ?_⟩
    cases caller <;> simp [newResult, Spawner.failed]
  | hostDropped
  | hostGone
  | returnsTornDownHolding
  | collectedDropped => exact .inl ⟨rfl, by simp [newResult, HostPoolManager.dropHost]⟩
  | _ => exact .inl ⟨rfl, by simp [newResult]⟩

theorem held_of_lookup {forwards : Forwards} {request startTime : Nat} {bodyBytes : Bytes}
    {lease : HostLease} {sent : Bool}
    (h : forwards.lookup request = some (.requesting bodyBytes lease startTime sent)) :
    (heldLeases forwards).Perm (lease :: heldLeases (forwards.erase request)) :=
  Table.filterMap_perm_erase ForwardStage.lease h

theorem held_run {tr : List (GatewayServer × Action)}
    (h : Run (system cfg requestTimeout) tr g) :
    (heldLeases g.forwards).Subperm g.pool.leases := by
  refine h.invariant (I := fun g => (heldLeases g.forwards).Subperm g.pool.leases) ?_
    fun _ hheld hs => ?_
  · exact List.nil_subperm
  cases effect_of_step hs with
  | pooled hstep hdrop _ hforwards =>
    have hsub := hforwards.held.trans hheld
    rcases newResult_cases (HostPoolManager.effect_of_step hstep) hdrop with
      ⟨hleases, _⟩ | ⟨_, lease, _, hleases, _⟩
    · rwa [hleases]
    · rw [hleases]
      exact hsub.trans (List.sublist_cons_self lease _).subperm
  | leased hstep hdrop _ hresult hforwards =>
    rcases newResult_cases (HostPoolManager.effect_of_step hstep) hdrop with
      ⟨_, hnone⟩ | ⟨_, lease, hnew, hleases, _⟩
    · exact absurd hresult (hnone _ _)
    · cases hresult.symm.trans hnew
      rw [hleases]
      exact hforwards.held.trans ((List.subperm_cons _).mpr hheld)
  | sent hlookup hpool hforwards =>
    rw [hpool, hforwards, heldLeases, Table.filterMap_insert]
    exact (held_of_lookup hlookup).symm.subperm.trans hheld
  | @released request startTime bodyBytes lease sent hlookup hpool hforwards =>
    have hsub := ((held_of_lookup hlookup).symm.subperm.trans hheld).erase lease
    rw [List.erase_cons_head] at hsub
    rw [hpool]
    exact hforwards.held.trans hsub
  | quiet hpool hforwards =>
    rw [hpool]
    exact hforwards.held.trans hheld

theorem mem_of_held {pool : HostPoolManager} {forwards : Forwards} {request startTime : Nat}
    {bodyBytes : Bytes} {lease : HostLease} {sent : Bool}
    (hheld : (heldLeases forwards).Subperm pool.leases)
    (h : forwards.lookup request = some (.requesting bodyBytes lease startTime sent)) :
    lease ∈ pool.leases :=
  hheld.subset ((held_of_lookup h).mem_iff.mpr List.mem_cons_self)

theorem pool_run {tr : List (GatewayServer × Action)}
    (h : Run (system cfg requestTimeout) tr g) :
    ∃ tr', Run (HostPoolManager.system cfg) tr' g.pool := by
  refine h.map pool rfl fun hr hs => ?_
  cases effect_of_step hs with
  | pooled hstep
  | leased hstep => exact .inr ⟨_, hstep⟩
  | sent _ hpool => exact .inl hpool
  | @released _ _ _ lease _ hlookup hpool =>
    refine .inr ⟨.dropLease lease, ?_⟩
    rw [hpool]
    exact if_pos (mem_of_held (held_run hr) hlookup)
  | quiet hpool => exact .inl hpool

end GatewayServer

end DockerizedLambda
