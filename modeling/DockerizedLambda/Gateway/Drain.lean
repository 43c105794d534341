import DockerizedLambda.Gateway.Requests
import DockerizedLambda.Pool.Ownership
import DockerizedLambda.Pool.Shutdown

/-! The drain, as the requests see it. `wait_for_requests_to_drain` looks at `leased_hosts` only.
Where it sees no entry, there is no lease and no call that could still become one, unless a call
has read the flag before and waits for the lock; so nothing new is sent to a container from then
on. What the drain does not wait for is the rest of a response whose head has been read. -/

namespace DockerizedLambda

open Transition

namespace HostPoolManager

structure Quiet (s : HostPoolManager) : Prop where
  sealed : s.Sealed
  calls : s.calls = []
  leases : s.leases = []

variable {cfg : PoolConfig} {s s' : HostPoolManager} {a : Action}
  {tr : List (HostPoolManager × Action)}

theorem Effect.quiet (he : Effect cfg s a s') (h : s.Quiet) : s'.Quiet := by
  have hsealed := he.sealed h.sealed
  have hcalls := h.calls
  have hleases := h.leases
  have hnone : ∀ {call}, call ∉ s.calls := fun hcall => List.not_mem_nil (hcalls ▸ hcall)
  cases he with
  | leaseAsked hunset => exact absurd (h.sealed.flag.symm.trans hunset) nofun
  | leaseTested hcall
  | leaseUntested hcall
  | leaseFull hcall
  | leaseSpawning hcall
  | readyAgain hcall
  | readyDone hcall
  | readyConfirmed hcall
  | readyInvalid hcall
  | notReady hcall
  | cancelLease hcall => exact absurd hcall hnone
  | hostLeased hguard => exact absurd hguard (h.sealed.leasing _ _)
  | leaseDropped hlease => exact absurd (hleases ▸ hlease) List.not_mem_nil
  | _ => exact ⟨hsealed, hcalls, hleases⟩

theorem Quiet.openCalls (h : s.Quiet) : s.openCalls = [] := by
  have hnone : s.guard.bind Guard.request = none := by
    cases hguard : s.guard with
    | none => rfl
    | some guard =>
      cases guard with
      | spawning caller spawn =>
        cases caller with
        | leaseHost request => exact absurd hguard (h.sealed.leasing request spawn)
        | runScalingPolicy => rfl
      | _ => rfl
  rw [HostPoolManager.openCalls, h.calls, hnone]
  rfl

theorem quiet_of_empty (h : Run (system cfg) tr s) (hsealed : s.Sealed)
    (hbefore : s.shutdown.hostsCollected = false) : s.Quiet := by
  -- an empty table has no lease outside, and no call that waits for its host
  have hentered := entered_run h hbefore
  have hnone : s.tickets = [] := by
    refine List.eq_nil_iff_forall_not_mem.mpr fun lease hl => ?_
    have hentry : lease.leaseId ∈ s.state.leasedHosts :=
      hentered _ (mem_owners.mpr (.inl ⟨lease, hl, rfl⟩))
    rw [hsealed.leased] at hentry
    exact AList.notMem_empty _ hentry
  obtain ⟨hwaiting, hleases⟩ := List.append_eq_nil_iff.mp hnone
  refine ⟨hsealed, List.eq_nil_iff_forall_not_mem.mpr fun call hcall => ?_, hleases⟩
  have hlease := List.filterMap_eq_nil_iff.mp hwaiting call hcall
  cases hstage : call.stage with
  | lockWait => exact hsealed.waiting call hcall hstage
  | readyWait
  | relockWait =>
    rw [LeaseCall.lease, hstage] at hlease
    cases hlease

def DrainsLast (s : HostPoolManager) : Action → Prop
  | .sampleDrain => Table.size s.state.leasedHosts = 0 → s.NoneWaiting
  | _ => True

structure Draining (s : HostPoolManager) : Prop where
  flag : s.shutdown ≠ .notStarted → s.shutdownFlag = true
  quiet : s.shutdown.drainedEmpty = true → s.Quiet

theorem Effect.draining (he : Effect cfg s a s') (hr : Run (system cfg) tr s)
    (hok : s.DrainsLast a) (h : s.Draining) : s'.Draining := by
  refine ⟨he.flag_kept h.flag, fun hdrained => ?_⟩
  by_cases hbefore : s.shutdown.drainedEmpty = true
  · exact he.quiet (h.quiet hbefore)
  · have hr' := run_effect hr he
    cases he with
    | shutdownStarted
    | drainTimeout => cases hdrained
    | drainedEmpty hstage hguard hempty =>
      have hflag := h.flag (by rw [hstage]; nofun)
      refine quiet_of_empty hr' ⟨hflag, Table.eq_empty_of_size hempty, hok hempty, ?_⟩ rfl
      exact fun request spawn hg => absurd (hguard.symm.trans hg) nofun
    | workersAborted hstage
    | collected hstage
    | collectedDropped hstage
    | containersListed hstage
    | listingFailed hstage
    | forceInspected hstage
    | forceSkipped hstage
    | forceStopped hstage
    | forceStopFailed hstage
    | shutdownComplete hstage =>
      rw [hstage] at hbefore
      exact absurd hdrained hbefore
    | _ => exact absurd hdrained hbefore

end HostPoolManager

namespace GatewayServer

def Winding : ForwardStage → Prop
  | .leasing _ _ => False
  | .backoff _ _ _ => True
  | .requesting _ _ _ _ => False
  | .collecting _ _ => True

def DrainsLast (g : GatewayServer) : Action → Prop
  | .pool b => g.pool.DrainsLast b
  | _ => True

variable {cfg : PoolConfig} {requestTimeout : Nat} {g g' : GatewayServer} {a : Action}
  {tr : List (GatewayServer × Action)}

theorem drainsLast_of_quiet (h : a = .pool .sampleDrain → g.pool.calls = []) :
    g.DrainsLast a := by
  cases a with
  | pool b =>
    cases b with
    | sampleDrain =>
      intro _ call hcall
      exact absurd (h rfl ▸ hcall) List.not_mem_nil
    | _ => trivial
  | _ => trivial

theorem Moves.pool_effect (hm : Moves cfg requestTimeout g a g')
    (hheld : (heldLeases g.forwards).Perm g.pool.leases) (hok : g.DrainsLast a) :
    g'.pool = g.pool ∨
      ∃ b, HostPoolManager.Effect cfg g.pool b g'.pool ∧ g.pool.DrainsLast b := by
  have hdropped : ∀ {request startTime : Nat} {bodyBytes : Bytes} {lease : HostLease}
      {sent : Bool},
      g.forwards.lookup request = some (.requesting bodyBytes lease startTime sent) →
        ∃ b, HostPoolManager.Effect cfg g.pool b (g.pool.dropLease lease) ∧
          g.pool.DrainsLast b := by
    intro request startTime bodyBytes lease sent hlookup
    exact ⟨_, .leaseDropped (mem_of_held hheld.subperm hlookup), trivial⟩
  cases hm with
  | pooled _ hstep => exact .inr ⟨_, HostPoolManager.effect_of_step hstep, hok⟩
  | returned _ hstep =>
    rw [leaseSettled_pool]
    exact .inr ⟨_, HostPoolManager.effect_of_step hstep, hok⟩
  | asked _ hflag
  | askedAgain _ _ hflag => exact .inr ⟨_, .leaseAsked hflag, trivial⟩
  | refused _ hflag
  | refusedAgain _ _ hflag => exact .inr ⟨_, .leaseRefused hflag, trivial⟩
  | requestFailed hlookup
  | requestTimedOut hlookup
  | responseHead hlookup
  | cancelledRequesting hlookup => exact .inr (hdropped hlookup)
  | @cancelledLeasing _ _ _ b _ _ hstep hcancel =>
    refine .inr ⟨b, HostPoolManager.effect_of_step hstep, ?_⟩
    cases b with
    | sampleDrain => cases hcancel
    | _ => trivial
  | _ => exact .inl rfl

theorem draining_run (h : Run (system cfg requestTimeout) tr g)
    (hok : ∀ p ∈ tr, p.1.DrainsLast p.2) : g.pool.Draining := by
  refine h.invariant_where (C := DrainsLast) (I := fun g => g.pool.Draining)
    ⟨fun hstarted => absurd rfl hstarted, fun hdrained => ?_⟩ (fun hr hok hi hs => ?_) hok
  · cases hdrained
  obtain ⟨tr', hpool⟩ := pool_run hr
  rcases (moves_of_run_step hr hs).pool_effect (leases_run hr) hok with heq | ⟨b, he, hlast⟩
  · rw [heq]
    exact hi
  · exact he.draining hpool hlast hi

/-- Once the drain has seen `leased_hosts` empty, no call of `lease_host` is under way, nobody has
a lease, and no request is sent: what is not answered yet is asleep or reads the rest of a body. -/
theorem drained_quiet (h : Run (system cfg requestTimeout) tr g)
    (hok : ∀ p ∈ tr, p.1.DrainsLast p.2) (hdrained : g.pool.shutdown.drainedEmpty = true) :
    g.pool.openCalls = [] ∧ g.pool.leases = [] ∧
      ∀ request stage, g.forwards.lookup request = some stage → Winding stage := by
  have hquiet := (draining_run h hok).quiet hdrained
  have hsync := (consistent_run h).calls
  have hopen := hquiet.openCalls
  refine ⟨hopen, hquiet.leases, fun request stage hlookup => ?_⟩
  cases stage with
  | leasing bodyBytes attempt =>
    have hmem := (hsync.leasing request).mpr ⟨bodyBytes, attempt, hlookup⟩
    exact absurd (hopen ▸ hmem) List.not_mem_nil
  | requesting bodyBytes lease startTime sent =>
    have hlease := mem_of_held (leases_run h).subperm hlookup
    exact absurd (hquiet.leases ▸ hlease) List.not_mem_nil
  | _ => trivial

theorem drained_quiet_collecting :
    ∃ tr g, Run (system GatewayConfig.small.poolConfig (5 * nanosPerSecond)) tr g ∧
      g.forwards.lookup 0 = some (.collecting 1 ⟨200, []⟩) ∧
      g.pool.openCalls = [] ∧ g.pool.leases = [] ∧
      ∀ request stage, g.forwards.lookup request = some stage → Winding stage := by
  obtain ⟨tr, g, ht, hdrained, hlookup, hok⟩ : ∃ tr g,
      (system GatewayConfig.small.poolConfig (5 * nanosPerSecond)).trace []
        (new GatewayConfig.small.poolConfig)
        (forwardSpawned 0 [] 1 "c1" 8081 ++ [.sendInvoke 0, .responseHead 0 ⟨200, []⟩,
          .pool .recvReturn, .pool .returnHostLocked, .pool (.containerInfo (.ok ())),
          .pool .startShutdown, .pool .sampleDrain]) = some (tr, g) ∧
      g.pool.shutdown.drainedEmpty = true ∧
      g.forwards.lookup 0 = some (.collecting 1 ⟨200, []⟩) ∧
      (tr.all fun p => p.2 ≠ .pool .sampleDrain || p.1.pool.calls.isEmpty) = true :=
    ⟨_, _, rfl, rfl, rfl, rfl⟩
  have hr := Run.start.trace ht
  have hlast : ∀ p ∈ tr, p.1.DrainsLast p.2 := by
    intro p hp
    have hquiet := List.all_eq_true.mp hok p hp
    refine drainsLast_of_quiet fun hsample => ?_
    simpa [hsample] using hquiet
  exact ⟨tr, g, hr, hlookup, drained_quiet hr hlast hdrained⟩

end GatewayServer

end DockerizedLambda
