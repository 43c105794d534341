import DockerizedLambda.Lib.Registry
import DockerizedLambda.Pool.Hosts

/-! Who gives a leased host back. A lease id is owned by the call that waits for its host,
then by the lease handed out, then by the message that releases it, until the message is
taken up by `return_host_internal`. -/

namespace DockerizedLambda

open Transition

def LeaseStage.lease : LeaseStage → Option HostLease
  | .lockWait => none
  | .readyWait leaseId containerId port _ => some ⟨containerId, port, leaseId⟩
  | .relockWait leaseId containerId port _ => some ⟨containerId, port, leaseId⟩

def LeaseCall.lease (call : LeaseCall) : Option HostLease := call.stage.lease

def ReturnStage.awaited : ReturnStage → Option Uuid
  | .lockWait leaseId => some leaseId
  | _ => none

def ShutdownStage.hostsCollected : ShutdownStage → Bool
  | .notStarted | .draining _ | .drained _ | .aborted _ => false
  | _ => true

theorem ShutdownStage.before_collect_of_abort {stage : ShutdownStage}
    (h : stage.workersAborted = false) : stage.hostsCollected = false := by
  cases stage <;> first | rfl | cases h

namespace HostPoolManager

def tickets (s : HostPoolManager) : List HostLease :=
  s.calls.filterMap LeaseCall.lease ++ s.leases

def owners (s : HostPoolManager) : List Uuid :=
  s.tickets.map HostLease.leaseId ++ (s.leaseRelease.messages ++ s.returns.awaited.toList)

def registry (s : HostPoolManager) : Registry Uuid where
  drawn := {leaseId | leaseId ∈ s.issued}
  entries := {leaseId | leaseId ∈ s.state.leasedHosts}
  owners := s.owners

def Disowns (s : HostPoolManager) : Action → Prop
  | .cancelLease call => call.lease ≠ none
  | .dropLease _ => s.leaseRelease.accepts = false
  | .workerAborted worker => worker = .processHostLeaseReturns
  | _ => False

variable {cfg : PoolConfig} {s s' : HostPoolManager} {a : Action}

theorem tickets_perm {call : LeaseCall} (hcall : call ∈ s.calls) (new : List LeaseCall)
    (given : List HostLease) (hcalls : s'.calls = new ++ s.calls.erase call)
    (hleases : s'.leases = given ++ s.leases) :
    (call.lease.toList ++ s'.tickets).Perm
      (new.filterMap LeaseCall.lease ++ given ++ s.tickets) := by
  have hp := (List.perm_cons_erase hcall).filterMap LeaseCall.lease
  have hcons : (call :: s.calls.erase call).filterMap LeaseCall.lease =
      call.lease.toList ++ (s.calls.erase call).filterMap LeaseCall.lease := by
    rw [List.filterMap_cons]
    cases call.lease <;> rfl
  rw [hcons] at hp
  have hcount := fun x => hp.count_eq x
  rw [List.perm_iff_count]
  intro x
  have hx := hcount x
  simp only [tickets, hcalls, hleases, List.filterMap_append, List.count_append] at hx ⊢
  omega

theorem tickets_ended {call : LeaseCall} (hcall : call ∈ s.calls) (hlease : call.lease = none)
    (hcalls : s'.calls = s.calls.erase call) (hleases : s'.leases = s.leases) :
    s'.tickets.Perm s.tickets := by
  have hp := tickets_perm hcall [] [] hcalls hleases
  rwa [hlease] at hp

theorem tickets_waiting {call new : LeaseCall} (hcall : call ∈ s.calls)
    (hcalls : s'.calls = new :: s.calls.erase call) (hlease : new.lease = call.lease)
    (hleases : s'.leases = s.leases) : s'.tickets.Perm s.tickets := by
  have hp := tickets_perm hcall [new] [] hcalls hleases
  have hnew : [new].filterMap LeaseCall.lease = call.lease.toList := by
    rw [← hlease, List.filterMap_cons]
    cases new.lease <;> rfl
  rw [hnew, List.append_nil] at hp
  exact (List.perm_append_left_iff _).mp hp

theorem tickets_confirmed {call : LeaseCall} {lease : HostLease} (hcall : call ∈ s.calls)
    (hlease : call.lease = some lease) (hcalls : s'.calls = s.calls.erase call)
    (hleases : s'.leases = lease :: s.leases) : s'.tickets.Perm s.tickets := by
  have hp := tickets_perm hcall [] [lease] hcalls hleases
  rw [hlease] at hp
  exact hp.cons_inv

theorem tickets_left {call : LeaseCall} {lease : HostLease} (hcall : call ∈ s.calls)
    (hlease : call.lease = some lease) (hcalls : s'.calls = s.calls.erase call)
    (hleases : s'.leases = s.leases) : s.tickets.Perm (lease :: s'.tickets) := by
  have hp := tickets_perm hcall [] [] hcalls hleases
  rw [hlease] at hp
  exact hp.symm

theorem tickets_granted {request : Nat} {lease : HostLease}
    (hcall : ⟨request, .lockWait⟩ ∈ s.calls)
    (hnew : s'.calls = s.calls.erase ⟨request, .lockWait⟩ ∧ s'.leases = lease :: s.leases ∨
      s'.calls = ⟨request, .readyWait lease.leaseId lease.containerId lease.port 1⟩ ::
        s.calls.erase ⟨request, .lockWait⟩ ∧ s'.leases = s.leases) :
    s'.tickets.Perm (lease :: s.tickets) := by
  rcases hnew with ⟨hcalls, hleases⟩ | ⟨hcalls, hleases⟩
  · exact tickets_perm hcall [] [lease] hcalls hleases
  · exact tickets_perm hcall [⟨request, _⟩] [] hcalls hleases

theorem tickets_drop {lease : HostLease} (hlease : lease ∈ s.leases)
    (hcalls : s'.calls = s.calls) (hleases : s'.leases = s.leases.erase lease) :
    s.tickets.Perm (lease :: s'.tickets) := by
  unfold tickets
  rw [hcalls, hleases]
  exact ((List.perm_cons_erase hlease).append_left _).trans List.perm_middle

theorem owners_kept (hp : s'.tickets.Perm s.tickets)
    (hrelease : s'.leaseRelease = s.leaseRelease := by rfl)
    (hreturns : s'.returns.awaited = s.returns.awaited := by rfl) : s'.owners.Perm s.owners := by
  unfold owners
  rw [hrelease, hreturns]
  exact (hp.map _).append_right _

theorem owners_granted (lease : HostLease) (hp : s'.tickets.Perm (lease :: s.tickets))
    (hrelease : s'.leaseRelease = s.leaseRelease := by rfl)
    (hreturns : s'.returns.awaited = s.returns.awaited := by rfl) :
    s'.owners.Perm (lease.leaseId :: s.owners) := by
  unfold owners
  rw [hrelease, hreturns]
  exact (hp.map _).append_right _

theorem owners_left (lease : HostLease) (hp : s.tickets.Perm (lease :: s'.tickets))
    (hrelease : s'.leaseRelease = s.leaseRelease := by rfl)
    (hreturns : s'.returns.awaited = s.returns.awaited := by rfl) :
    s.owners.Perm (lease.leaseId :: s'.owners) :=
  owners_granted lease hp hrelease.symm hreturns.symm

theorem kept_move (howners : s'.owners.Perm s.owners)
    (hkeys : ∀ leaseId, leaseId ∈ s'.state.leasedHosts ↔ leaseId ∈ s.state.leasedHosts)
    (hissued : s'.issued = s.issued) : Registry.Move s.registry s'.registry := by
  have he : s'.registry = s.registry := by
    simp only [registry, hissued, hkeys, Multiset.coe_eq_coe.mpr howners]
  rw [he]
  exact .idle

theorem granted_move {leaseId : Uuid} {host : HostInstance} (hfresh : leaseId ∉ s.issued)
    (howners : s'.owners.Perm (leaseId :: s.owners))
    (hkeys : s'.state.leasedHosts = s.state.leasedHosts.insert leaseId host)
    (hissued : s'.issued = leaseId :: s.issued) : Registry.Move s.registry s'.registry := by
  have he : s'.registry = ⟨insert leaseId s.registry.drawn, insert leaseId s.registry.entries,
      leaseId ::ₘ s.registry.owners⟩ := by
    have hd : {k | k ∈ leaseId :: s.issued} = insert leaseId {k | k ∈ s.issued} := by
      ext k
      exact List.mem_cons
    have ht : {k | k ∈ s.state.leasedHosts.insert leaseId host} =
        insert leaseId {k | k ∈ s.state.leasedHosts} := by
      ext k
      exact AList.mem_insert _
    simp only [registry, hissued, hkeys, hd, ht, Multiset.cons_coe, Multiset.coe_eq_coe.mpr howners]
  rw [he]
  exact .granted hfresh

theorem returned_move (leaseId : Uuid) (howners : s.owners.Perm (leaseId :: s'.owners))
    (hkeys : s'.state.leasedHosts = s.state.leasedHosts.erase leaseId)
    (hissued : s'.issued = s.issued) : Registry.Move s.registry s'.registry := by
  have ho : s.registry.owners = leaseId ::ₘ (s'.owners : Multiset _) :=
    Multiset.coe_eq_coe.mpr howners
  have he : s'.registry = ⟨s.registry.drawn, s.registry.entries \ {leaseId}, s'.owners⟩ := by
    have ht : {k | k ∈ s.state.leasedHosts.erase leaseId} =
        {k | k ∈ s.state.leasedHosts} \ {leaseId} := by
      ext k
      exact AList.mem_erase.trans and_comm
    simp only [registry, hissued, hkeys, ht]
  rw [he]
  exact .returned ho

theorem owners_takenOut {leaseId : Uuid} (hstage : s.returns = .lockWait leaseId)
    (hdone : s'.returns.awaited = none) (htickets : s'.tickets = s.tickets := by rfl)
    (hrelease : s'.leaseRelease = s.leaseRelease := by rfl) :
    s.owners.Perm (leaseId :: s'.owners) := by
  have hawaited : s.returns.awaited = some leaseId := by
    rw [hstage]
    rfl
  simp only [owners, htickets, hrelease, hawaited, hdone, Option.toList_some, Option.toList_none,
    List.append_nil]
  rw [← List.append_assoc]
  exact List.perm_append_singleton _ _

theorem WellFormed.awaited_none (hw : s.WellFormed) {leaseId : Uuid} {host : HostInstance}
    (hguard : s.guard = some (.returnHostInternal leaseId host)) : s.returns.awaited = none := by
  have hc := hw.checking
  rw [hguard] at hc
  cases hr : s.returns with
  | lockWait =>
    rw [hr] at hc
    cases hc
  | recv
  | checking => rfl

theorem Effect.registry (he : Effect cfg s a s') (hw : s.WellFormed) :
    Registry.Move s.registry s'.registry ∨
    (s.Disowns a ∧ ∃ rest ≤ s.registry.owners,
      s'.registry = ⟨s.registry.drawn, s.registry.entries, rest⟩) ∨
    (a = .collectAllHosts ∧ s'.registry = ⟨s.registry.drawn, ∅, s.registry.owners⟩) := by
  cases he with
  | leaseAsked => exact .inl (kept_move (List.Perm.refl _) (fun _ => Iff.rfl) rfl)
  | @leaseTested request leaseId host rest hcall _ hfresh =>
    let lease : HostLease := ⟨host.containerId, host.allocatedPort.port, leaseId⟩
    refine .inl (granted_move hfresh (owners_granted lease ?_) rfl rfl)
    exact tickets_granted hcall (.inl ⟨rfl, rfl⟩)
  | @leaseUntested request leaseId host rest hcall _ hfresh =>
    let lease : HostLease := ⟨host.containerId, host.allocatedPort.port, leaseId⟩
    refine .inl (granted_move hfresh (owners_granted lease ?_) rfl rfl)
    exact tickets_granted hcall (.inr ⟨rfl, rfl⟩)
  | leaseFull hcall
  | leaseSpawning hcall =>
    exact .inl (kept_move (owners_kept (tickets_ended hcall rfl rfl rfl)) (fun _ => Iff.rfl) rfl)
  | readyAgain hcall
  | readyDone hcall =>
    exact .inl (kept_move (owners_kept (tickets_waiting hcall rfl rfl rfl)) (fun _ => Iff.rfl) rfl)
  | readyConfirmed hcall _ hhost =>
    refine .inl (kept_move (owners_kept (tickets_confirmed hcall rfl rfl rfl)) (fun k => ?_) rfl)
    rw [AList.mem_insert]
    exact or_iff_right_of_imp fun hk => hk ▸ Table.lookup_mem hhost
  | @readyInvalid request leaseId containerId port hcall _ hhost =>
    let lease : HostLease := ⟨containerId, port, leaseId⟩
    refine .inl (returned_move _ (owners_left lease (tickets_left hcall rfl rfl rfl)) ?_ rfl)
    exact (Table.erase_of_notMem (Table.notMem_of_lookup hhost)).symm
  | @notReady request leaseId containerId port _ _ hcall =>
    let lease : HostLease := ⟨containerId, port, leaseId⟩
    exact .inl (returned_move _ (owners_left lease (tickets_left hcall rfl rfl rfl)) rfl rfl)
  | @cancelLease call hcall =>
    cases hl : call.lease with
    | none =>
      exact .inl (kept_move (owners_kept (tickets_ended hcall hl rfl rfl)) (fun _ => Iff.rfl) rfl)
    | some lease =>
      have hp : s.owners.Perm (lease.leaseId :: owners { s with calls := s.calls.erase call }) :=
        owners_left lease (tickets_left hcall hl rfl rfl)
      refine .inr (.inl ⟨fun hn => absurd (hl.symm.trans hn) nofun, _, ?_, rfl⟩)
      exact (List.sublist_cons_self _ _).subperm.trans hp.symm.subperm
  | @hostLeased request port containerId leaseId _ _ hfresh =>
    let lease : HostLease := ⟨containerId, port.port, leaseId⟩
    exact .inl (granted_move hfresh (owners_granted lease (List.Perm.refl _)) rfl rfl)
  | @leaseDropped lease hlease =>
    have hp : s.owners.Perm (lease.leaseId :: owners { s with leases := s.leases.erase lease }) :=
      owners_left lease (tickets_drop hlease rfl rfl)
    cases haccepts : s.leaseRelease.accepts with
    | true =>
      refine .inl (kept_move (List.Perm.trans ?_ hp.symm) (fun _ => Iff.rfl) rfl)
      rw [List.perm_iff_count]
      intro x
      simp only [owners, tickets, (Channel.offer_accepted haccepts _).1, List.count_append,
        List.count_cons, List.count_nil]
      omega
    | false =>
      rw [Channel.offer_refused haccepts]
      refine .inr (.inl ⟨haccepts, _, ?_, rfl⟩)
      exact (List.sublist_cons_self _ _).subperm.trans hp.symm.subperm
  | @returnReceived leaseId _ _ hstage hrecv =>
    refine .inl (kept_move ?_ (fun _ => Iff.rfl) rfl)
    rw [List.perm_iff_count]
    intro x
    simp only [owners, tickets, hstage, (Channel.recv_eq_some hrecv).1, ReturnStage.awaited,
      Option.toList_none, Option.toList_some, List.count_append, List.count_cons, List.count_nil]
    omega
  | returnExpired _ hstage
  | returnChecking _ hstage => exact .inl (returned_move _ (owners_takenOut hstage rfl) rfl rfl)
  | returnInvalid _ hstage _ hhost =>
    refine .inl (returned_move _ (owners_takenOut hstage rfl) ?_ rfl)
    exact (Table.erase_of_notMem (Table.notMem_of_lookup hhost)).symm
  | hostReturned hguard
  | hostGone hguard =>
    refine .inl (kept_move (owners_kept (List.Perm.refl _) rfl ?_) (fun _ => Iff.rfl) rfl)
    exact (hw.awaited_none hguard).symm
  | returnsTornDown
  | returnsTornDownHolding =>
    refine .inr (.inl ⟨rfl, _, ?_, rfl⟩)
    exact (List.Sublist.append_left (List.nil_sublist _) _).subperm
  | collected =>
    refine .inr (.inr ⟨rfl, ?_⟩)
    simp only [registry, AList.notMem_empty, Set.ofPred_false, owners, tickets]
  | _ => exact .inl .idle

theorem Effect.follows (he : Effect cfg s a s') (hw : s.WellFormed) :
    Registry.Follows s'.registry s.registry := by
  rcases he.registry hw with hm | ⟨_, rest, hle, he⟩ | ⟨_, he⟩
  · exact hm.follows
  · rw [he]
    exact ⟨fun _ hk => hk, fun _ => .inl, fun _ hk => .inl (Multiset.mem_of_le hle hk)⟩
  · rw [he]
    exact ⟨fun _ hk => hk, fun _ hk => absurd hk (Set.notMem_empty _), fun _ => .inl⟩

theorem Effect.before_collect (he : Effect cfg s a s')
    (h : s'.shutdown.hostsCollected = false) :
    s.shutdown.hostsCollected = false ∧ a ≠ .collectAllHosts := by
  cases he with
  | shutdownStarted hstage
  | drainedEmpty hstage
  | drainTimeout hstage
  | workersAborted hstage => exact ⟨by rw [hstage]; rfl, nofun⟩
  | collected
  | collectedDropped
  | containersListed
  | listingFailed
  | forceInspected
  | forceSkipped
  | forceStopped
  | forceStopFailed
  | shutdownComplete => cases h
  | _ => exact ⟨h, nofun⟩

theorem registry_sound_run {tr : List (HostPoolManager × Action)} (h : Run (system cfg) tr s) :
    s.registry.Sound := by
  refine h.invariant (I := fun s => s.registry.Sound)
    ⟨Multiset.nodup_zero, nofun, fun k hk => absurd hk (AList.notMem_empty k)⟩ fun hr hi hs => ?_
  rcases (effect_of_step hs).registry (wellFormed_run hr) with hm | ⟨_, rest, hle, he⟩ | ⟨_, he⟩
  · exact hm.sound hi
  · exact he ▸ hi.disown hle
  · exact he ▸ hi.clear

theorem entered_run {tr : List (HostPoolManager × Action)} (h : Run (system cfg) tr s)
    (hbefore : s.shutdown.hostsCollected = false) : s.registry.Entered := by
  have key := h.invariant (I := fun s => s.shutdown.hostsCollected = false → s.registry.Entered)
    (fun _ => nofun) fun hr hi hs hb => by
      have he := effect_of_step hs
      obtain ⟨hb, hne⟩ := he.before_collect hb
      rcases he.registry (wellFormed_run hr) with hm | ⟨_, rest, hle, he⟩ | ⟨ha, _⟩
      · exact hm.entered (registry_sound_run hr) (hi hb)
      · exact he ▸ (hi hb).disown hle
      · exact absurd ha hne
  exact key hbefore

theorem owners_length_le (hs : s.registry.Sound) (he : s.registry.Entered) :
    s.owners.length ≤ Table.size s.state.leasedHosts := by
  have hnodup : s.owners.Nodup := Multiset.coe_nodup.mp hs.once
  have hsub : s.owners ⊆ s.state.leasedHosts.keys := fun k hk => he k hk
  rw [← Table.keys_length]
  exact (List.subperm_of_subset hnodup hsub).length_le

structure Working (s : HostPoolManager) : Prop where
  alive : s.dead = []
  releaseOpen : s.leaseRelease.closed = false
  cleanupOpen : s.cleanup.closed = false

theorem Effect.before_abort (he : Effect cfg s a s') (h : s'.shutdown.workersAborted = false) :
    s.shutdown.workersAborted = false ∧ ∀ worker, a ≠ .workerAborted worker := by
  cases he with
  | shutdownStarted hstage
  | drainedEmpty hstage
  | drainTimeout hstage => exact ⟨by rw [hstage]; rfl, nofun⟩
  | workersAborted => cases h
  | returnsTornDown haborted
  | returnsTornDownHolding haborted
  | cleanupTornDown haborted
  | reaperTornDown haborted
  | scalingTornDown haborted
  | scalingTornDownHolding haborted => exact absurd (h.symm.trans haborted) Bool.false_ne_true
  | collected
  | collectedDropped
  | containersListed
  | listingFailed
  | forceInspected
  | forceSkipped
  | forceStopped
  | forceStopFailed
  | shutdownComplete => cases h
  | _ => exact ⟨h, nofun⟩

theorem Effect.working (he : Effect cfg s a s') (h : s.Working)
    (hne : ∀ worker, a ≠ .workerAborted worker) : s'.Working := by
  obtain ⟨hdead, hrelease, hcleanup⟩ := h
  cases he with
  | leaseDropped => exact ⟨hdead, (Channel.offer_closed _ _).trans hrelease, hcleanup⟩
  | hostDropped
  | hostGone
  | collectedDropped => exact ⟨hdead, hrelease, (Channel.offer_closed _ _).trans hcleanup⟩
  | returnReceived _ _ hrecv =>
    exact ⟨hdead, (Channel.recv_eq_some hrecv).2.trans hrelease, hcleanup⟩
  | cleanupReceived _ _ hrecv =>
    exact ⟨hdead, hrelease, (Channel.recv_eq_some hrecv).2.trans hcleanup⟩
  | returnsTornDown
  | returnsTornDownHolding
  | cleanupTornDown
  | reaperTornDown
  | scalingTornDown
  | scalingTornDownHolding => exact absurd rfl (hne _)
  | _ => exact ⟨hdead, hrelease, hcleanup⟩

theorem working_run {tr : List (HostPoolManager × Action)} (h : Run (system cfg) tr s)
    (hbefore : s.shutdown.workersAborted = false) : s.Working := by
  have key := h.invariant (I := fun s => s.shutdown.workersAborted = false → s.Working)
    (fun _ => ⟨rfl, rfl, rfl⟩) fun _ hi hs hb => by
      have he := effect_of_step hs
      obtain ⟨hb, hne⟩ := he.before_abort hb
      exact he.working (hi hb) hne
  exact key hbefore

end HostPoolManager

end DockerizedLambda
