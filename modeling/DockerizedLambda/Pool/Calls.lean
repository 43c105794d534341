import DockerizedLambda.Pool.Effect

/-! The calls of `lease_host`, from the request's side. Whatever order the lock lets them in,
a call that was made is still waiting or spawning, or it has returned once, or its future was
dropped. -/

namespace DockerizedLambda

open Transition

def Spawner.request : Spawner → Option Nat
  | .leaseHost request => some request
  | .runScalingPolicy _ => none

def Guard.request : Guard → Option Nat
  | .spawning caller _ => caller.request
  | _ => none

theorem Spawner.next_request (caller : Spawner) : caller.next.bind Guard.request = none := by
  cases caller with
  | leaseHost => rfl
  | runScalingPolicy n => cases n <;> rfl

namespace HostPoolManager

def openCalls (s : HostPoolManager) : List Nat :=
  s.calls.map LeaseCall.request ++ (s.guard.bind Guard.request).toList

def asked (_ : HostPoolManager) : Action → Option Nat
  | .leaseHost request => some request
  | _ => none

def cancelled (s : HostPoolManager) : Action → Option Nat
  | .cancelLease call => some call.request
  | .cancelSpawn => s.guard.bind Guard.request
  | _ => none

structure CallsStep (s : HostPoolManager) (a : Action) (s' : HostPoolManager)
    (new : Option (Nat × Except PoolError HostLease)) : Prop where
  returned : s'.returned = new.toList ++ s.returned
  kept : ((new.map Prod.fst).toList ++ ((cancelled s a).toList ++ s'.openCalls)).Perm
    ((asked s a).toList ++ s.openCalls)

variable {cfg : PoolConfig} {s s' : HostPoolManager} {a : Action}
  {tr : List (HostPoolManager × Action)}

theorem openCalls_left {call : LeaseCall} (hcall : call ∈ s.calls)
    (hcalls : s'.calls = s.calls.erase call)
    (hguard : s'.guard.bind Guard.request = s.guard.bind Guard.request) :
    (call.request :: s'.openCalls).Perm s.openCalls := by
  rw [openCalls, openCalls, hcalls, hguard]
  exact ((List.perm_cons_erase hcall).symm.map LeaseCall.request).append_right _

theorem openCalls_goesOn {call new : LeaseCall} (hcall : call ∈ s.calls)
    (hcalls : s'.calls = new :: s.calls.erase call) (hrequest : new.request = call.request)
    (hguard : s'.guard.bind Guard.request = s.guard.bind Guard.request) :
    s'.openCalls.Perm s.openCalls := by
  rw [openCalls, openCalls, hcalls, hguard, List.map_cons, hrequest]
  exact ((List.perm_cons_erase hcall).symm.map LeaseCall.request).append_right _

theorem openCalls_locked {request : Nat} (hcall : ⟨request, .lockWait⟩ ∈ s.calls)
    (hcalls : s'.calls = s.calls.erase ⟨request, .lockWait⟩) (hguard : s.guard = none)
    (hguard' : s'.guard.bind Guard.request = some request) : s'.openCalls.Perm s.openCalls := by
  have hp := (List.perm_cons_erase hcall).symm.map LeaseCall.request
  rw [openCalls, openCalls, hcalls, hguard, hguard']
  exact (List.perm_append_singleton _ _).trans (hp.trans (List.Perm.of_eq (List.append_nil _).symm))

theorem openCalls_unlocked {request : Nat} (hguard : s.guard.bind Guard.request = some request) :
    (request :: s.calls.map LeaseCall.request).Perm s.openCalls := by
  rw [openCalls, hguard]
  exact (List.perm_append_singleton _ _).symm

theorem openCalls_of_unguarded (hguard : s.guard.bind Guard.request = none) :
    s.openCalls = s.calls.map LeaseCall.request := by
  rw [openCalls, hguard]
  exact List.append_nil _

theorem Effect.calls (he : Effect cfg s a s') : ∃ new, CallsStep s a s' new := by
  have hkept : s'.openCalls.Perm s.openCalls → s'.returned = s.returned → cancelled s a = none →
      asked s a = none → ∃ new, CallsStep s a s' new := by
    intro hopen hreturned hcancelled hasked
    refine ⟨none, hreturned, ?_⟩
    rw [hcancelled, hasked]
    exact hopen
  have hreturns : ∀ {request result}, (request :: s'.openCalls).Perm s.openCalls →
      s'.returned = (request, result) :: s.returned → cancelled s a = none → asked s a = none →
      ∃ new, CallsStep s a s' new := by
    intro request result hopen hreturned hcancelled hasked
    refine ⟨some (request, result), hreturned, ?_⟩
    rw [hcancelled, hasked]
    exact hopen
  have hunlocked : s'.calls = s.calls → s'.guard.bind Guard.request = s.guard.bind Guard.request →
      s'.openCalls.Perm s.openCalls := by
    intro hcalls hguard
    rw [HostPoolManager.openCalls, HostPoolManager.openCalls, hcalls, hguard]
  cases he with
  | @leaseRefused request => exact ⟨some (request, .error .shuttingDown), rfl, List.Perm.refl _⟩
  | leaseAsked => exact ⟨none, rfl, List.Perm.refl _⟩
  | leaseTested hcall hguard =>
    exact hreturns (openCalls_left hcall rfl (hguard ▸ rfl)) rfl rfl rfl
  | leaseUntested hcall hguard =>
    exact hkept (openCalls_goesOn hcall rfl rfl (hguard ▸ rfl)) rfl rfl rfl
  | leaseSpawning hcall hguard => exact hkept (openCalls_locked hcall rfl hguard rfl) rfl rfl rfl
  | leaseFull hcall
  | readyConfirmed hcall
  | readyInvalid hcall
  | notReady hcall => exact hreturns (openCalls_left hcall rfl rfl) rfl rfl rfl
  | readyAgain hcall
  | readyDone hcall => exact hkept (openCalls_goesOn hcall rfl rfl rfl) rfl rfl rfl
  | cancelLease hcall => exact ⟨none, rfl, openCalls_left hcall rfl rfl⟩
  | @cancelSpawn request _ hguard =>
    have hrequest : s.guard.bind Guard.request = some request := hguard ▸ rfl
    refine ⟨none, rfl, ?_⟩
    rw [cancelled, hrequest, openCalls_of_unguarded rfl]
    exact openCalls_unlocked hrequest
  | @portsExhausted caller _ hguard
  | @createFailed caller _ _ hguard
  | @createdUnanswered caller _ _ _ hguard
  | @startFailed caller _ _ _ hguard
  | @startedUnanswered caller _ _ _ hguard =>
    cases caller with
    | leaseHost request =>
      have hrequest : s.guard.bind Guard.request = some request := hguard ▸ rfl
      refine hreturns ?_ rfl rfl rfl
      rw [openCalls_of_unguarded rfl]
      exact openCalls_unlocked hrequest
    | runScalingPolicy n =>
      exact hkept (hunlocked rfl ((Spawner.next_request _).trans (hguard ▸ rfl))) rfl rfl rfl
  | @hostLeased request _ _ _ _ hguard =>
    have hrequest : s.guard.bind Guard.request = some request := hguard ▸ rfl
    refine hkept ?_ rfl rfl rfl
    rw [openCalls_of_unguarded rfl]
    exact openCalls_unlocked hrequest
  | hostAdded hguard =>
    exact hkept (hunlocked rfl ((Spawner.next_request _).trans (hguard ▸ rfl))) rfl rfl rfl
  | portAllocated hguard
  | created hguard
  | started hguard
  | returnChecking _ _ hguard
  | hostReturned hguard
  | hostGone hguard
  | reapLocked _ hguard
  | reapExpired hguard
  | reapKept hguard
  | reapUnlocked hguard
  | scalingSpawning _ hguard
  | returnsTornDownHolding _ _ hguard
  | scalingTornDownHolding _ _ hguard => exact hkept (hunlocked rfl (hguard ▸ rfl)) rfl rfl rfl
  | _ => exact hkept (hunlocked rfl rfl) rfl rfl rfl

theorem Effect.call_cancelled (he : Effect cfg s a s') {request : Nat}
    (hcancel : cancelled s a = some request) :
    (request :: s'.openCalls).Perm s.openCalls ∧ s'.returned = s.returned := by
  cases he with
  | cancelLease hcall =>
    obtain rfl := Option.some.inj hcancel
    exact ⟨openCalls_left hcall rfl rfl, rfl⟩
  | cancelSpawn hguard =>
    rw [openCalls_of_unguarded rfl]
    exact ⟨openCalls_unlocked hcancel, rfl⟩
  | _ => cases hcancel

/-- No call is lost, and none returns twice: those that were made are the ones that have
returned, the ones whose future was dropped, and the ones still under way. -/
theorem calls_conserved (h : Run (system cfg) tr s) :
    (outputs asked tr).Perm
      (s.returned.map Prod.fst ++ (outputs cancelled tr ++ s.openCalls)) := by
  induction h with
  | start => exact List.Perm.refl _
  | @next tr s s' a hr hs ih =>
    obtain ⟨new, hreturned, hopen⟩ := (effect_of_step hs : Effect cfg s a s').calls
    rw [List.perm_iff_count] at ih hopen ⊢
    intro request
    have hbefore := ih request
    have hstep := hopen request
    have hnew : new.toList.map Prod.fst = (new.map Prod.fst).toList := by cases new <;> rfl
    rw [hreturned, List.map_append, hnew]
    simp only [outputs, List.count_append] at hbefore hstep ⊢
    omega

theorem calls_conserved_mixed :
    ∃ tr s, Run (system GatewayConfig.small.poolConfig) tr s ∧ outputs asked tr = [0, 1, 2] ∧
      outputs cancelled tr = [1] ∧ s.openCalls = [2] ∧ (outputs asked tr).Perm
        (s.returned.map Prod.fst ++ (outputs cancelled tr ++ s.openCalls)) := by
  obtain ⟨tr, s, ht, hasked, hcancelled, hopen⟩ : ∃ tr s,
      (system GatewayConfig.small.poolConfig).trace [] (new GatewayConfig.small.poolConfig)
        (leaseSpawned 0 1 "c1" 8081 ++ [.leaseHost 1, .leaseHost 2, .cancelLease ⟨1, .lockWait⟩,
          .leaseHostLocked 2 2]) = some (tr, s) ∧
      outputs asked tr = [0, 1, 2] ∧ outputs cancelled tr = [1] ∧ s.openCalls = [2] :=
    ⟨_, _, rfl, rfl, rfl, rfl⟩
  have hr := Run.start.trace ht
  exact ⟨tr, s, hr, hasked, hcancelled, hopen, calls_conserved hr⟩

end HostPoolManager

end DockerizedLambda
