import DockerizedLambda.Gateway.Forwards
import DockerizedLambda.Pool.Config

/-! One invocation at a time. A container is free for the next request once its lease has
been returned, and a lease may be dropped while the invocation sent under it is still open.
So what keeps two invocations apart is that nobody takes up the release before the end. -/

namespace DockerizedLambda

open Transition

namespace HostPoolManager

variable {cfg : PoolConfig} {s s' : HostPoolManager} {b : Action}

theorem Effect.awaited_cases (he : Effect cfg s b s') :
    s'.returns.awaited = none ∨ s'.returns.awaited = s.returns.awaited ∨
      b = .recvReturn ∧ s'.returns.awaited = s.leaseRelease.messages.head? := by
  cases he with
  | returnReceived _ _ hrecv =>
    rw [(Channel.recv_eq_some hrecv).1]
    exact .inr (.inr ⟨rfl, rfl⟩)
  | returnExpired
  | returnChecking
  | returnInvalid
  | hostReturned
  | hostGone
  | returnsTornDown
  | returnsTornDownHolding => exact .inl rfl
  | _ => exact .inr (.inl rfl)

theorem Effect.not_ended (he : Effect cfg s b s') {l : List HostLease} {lease : HostLease}
    (hids : ((s.tickets ++ l).map HostLease.leaseId).Nodup) (hl : lease ∈ l)
    (hkept : s.returns.awaited ≠ some lease.leaseId) : ¬ s.EndsLease lease.leaseId b := by
  intro hend
  cases b with
  | returnHostLocked =>
    have hstage : s.returns = .lockWait lease.leaseId := hend
    rw [hstage] at hkept
    exact hkept rfl
  | leaseHostRelocked call =>
    obtain ⟨containerId, port, readyResult, hstage, _⟩ := hend
    have hcall : call ∈ s.calls := by cases he <;> assumption
    have hlease : call.lease = some ⟨containerId, port, lease.leaseId⟩ := by
      rw [LeaseCall.lease, hstage]
      rfl
    have hticket : ⟨containerId, port, lease.leaseId⟩ ∈ s.tickets :=
      List.mem_append_left _ (List.mem_filterMap.mpr ⟨call, hcall, hlease⟩)
    rw [List.map_append] at hids
    exact (List.nodup_append.mp hids).2.2 _ (List.mem_map_of_mem hticket) _
      (List.mem_map_of_mem hl) rfl
  | _ => exact hend

end HostPoolManager

namespace GatewayServer

def ReleasedAfterUse (g : GatewayServer) (a : Action) : Prop :=
  a = .pool .recvReturn →
    ∀ i ∈ g.invocations, g.pool.leaseRelease.messages.head? ≠ some i.lease.leaseId

instance (g : GatewayServer) (a : Action) : Decidable (g.ReleasedAfterUse a) :=
  inferInstanceAs (Decidable (_ → _))

structure OneInvocation (g : GatewayServer) : Prop where
  distinct : (g.invocations.map fun i => i.lease.containerId).Nodup
  notIdle : ∀ i ∈ g.invocations, ∀ host ∈ g.pool.state.availableHosts,
    host.containerId ≠ i.lease.containerId
  notLeased : ∀ i ∈ g.invocations, ∀ lease ∈ g.pool.leases,
    lease.containerId = i.lease.containerId → lease = i.lease

def abandoned (pool : HostPoolManager) (used : List HostLease) : List HostLease :=
  used.filter fun lease => lease ∉ pool.leases

structure Tracked (pool : HostPoolManager) (unsent used : List HostLease) : Prop where
  exclusive : pool.Exclusive (pool.tickets ++ abandoned pool used)
  once : (used.map HostLease.leaseId).Nodup
  kept : ∀ lease ∈ used, pool.returns.awaited ≠ some lease.leaseId
  fresh : ∀ lease ∈ unsent, ∀ other ∈ used, other.leaseId ≠ lease.leaseId

variable {cfg : PoolConfig} {requestTimeout : Nat} {g g' : GatewayServer} {a : Action}
  {s s' : HostPoolManager} {b : HostPoolManager.Action} {unsent used : List HostLease}

theorem mem_claimed {lease : HostLease} (hl : lease ∈ used) :
    lease ∈ s.leases ++ abandoned s used := by
  by_cases hlive : lease ∈ s.leases
  · exact List.mem_append_left _ hlive
  · exact List.mem_append_right _ (List.mem_filter.mpr ⟨hl, decide_eq_true hlive⟩)

theorem claimed_subset {lease : HostLease} (hl : lease ∈ s.leases ++ abandoned s used) :
    lease ∈ s.tickets ++ abandoned s used := by
  rcases List.mem_append.mp hl with hl | hl
  · exact List.mem_append_left _ (List.mem_append_right _ hl)
  · exact List.mem_append_right _ hl

theorem abandoned_sublist (hleases : s.leases ⊆ s'.leases) :
    (abandoned s' used).Sublist (abandoned s used) := by
  apply List.monotone_filter_right
  intro lease hl
  exact decide_eq_true fun hm => of_decide_eq_true hl (hleases hm)

theorem Tracked.mono {unsent' used' : List HostLease} (h : Tracked s unsent used)
    (hunsent : unsent' ⊆ unsent) (hused : used'.Sublist used) : Tracked s unsent' used' := by
  have hsub : (abandoned s used').Sublist (abandoned s used) := hused.filter _
  exact ⟨h.exclusive.of_subperm ((List.Subperm.refl _).append hsub.subperm),
    h.once.sublist (hused.map _), fun lease hl => h.kept lease (hused.subset hl),
    fun lease hl other ho => h.fresh lease (hunsent hl) other (hused.subset ho)⟩

theorem Tracked.pool_step {tr : List (HostPoolManager × HostPoolManager.Action)}
    (hr : Run (HostPoolManager.system cfg) tr s) (he : HostPoolManager.Effect cfg s b s')
    (hdrop : ∀ lease, b ≠ .dropLease lease)
    (hrecv : b = .recvReturn → ∀ lease ∈ used,
      s.leaseRelease.messages.head? ≠ some lease.leaseId)
    (h : Tracked s unsent used) : Tracked s' unsent used := by
  have hleases : s.leases ⊆ s'.leases := by
    rcases newResult_cases he hdrop with ⟨hleases, _⟩ | ⟨_, lease, _, hleases, _⟩ <;> rw [hleases]
    · exact List.Subset.refl _
    · exact List.subset_cons_self lease _
  have hexclusive := he.exclusive_beside (HostPoolManager.wellFormed_run hr)
    (HostPoolManager.sound_run hr) (HostPoolManager.owners_nodup hr) h.exclusive fun lease hl =>
      he.not_ended h.exclusive.ids hl (h.kept lease (List.mem_of_mem_filter hl))
  refine ⟨hexclusive.of_subperm ?_, h.once, fun lease hl => ?_, h.fresh⟩
  · exact (List.Subperm.refl _).append (abandoned_sublist hleases).subperm
  · rcases he.awaited_cases with hnone | hsame | ⟨hb, hhead⟩
    · rw [hnone]
      exact nofun
    · rw [hsame]
      exact h.kept lease hl
    · rw [hhead]
      exact hrecv hb lease hl

theorem Tracked.fresh_result {lease : HostLease} (h : Tracked s unsent used)
    (hnew : lease.leaseId ∉ s.issued ∨ lease ∈ s.calls.filterMap LeaseCall.lease) :
    ∀ other ∈ used, other.leaseId ≠ lease.leaseId := by
  -- nothing has been sent under a lease that is only just returned
  intro other ho hid
  have hclaimed := mem_claimed (s := s) ho
  rcases hnew with hfresh | hcall
  · exact hfresh (hid ▸ h.exclusive.issued other (claimed_subset hclaimed))
  · have hids := h.exclusive.ids
    rw [HostPoolManager.tickets, List.append_assoc, List.map_append] at hids
    exact (List.nodup_append.mp hids).2.2 _ (List.mem_map_of_mem hcall) _
      (List.mem_map_of_mem hclaimed) hid.symm

theorem Tracked.send {tr : List (HostPoolManager × HostPoolManager.Action)}
    (hr : Run (HostPoolManager.system cfg) tr s) (h : Tracked s unsent used)
    {unsent' : List HostLease} {lease : HostLease} (hlive : lease ∈ s.leases)
    (hunsent : lease ∈ unsent) (hsub : unsent' ⊆ unsent)
    (hother : ∀ l ∈ unsent', lease.leaseId ≠ l.leaseId) : Tracked s unsent' (lease :: used) := by
  have habandoned : abandoned s (lease :: used) = abandoned s used :=
    List.filter_cons_of_neg fun hm => of_decide_eq_true hm hlive
  refine ⟨habandoned ▸ h.exclusive, List.nodup_cons.mpr ⟨fun hm => ?_, h.once⟩, ?_, ?_⟩
  · obtain ⟨other, ho, hid⟩ := List.mem_map.mp hm
    exact h.fresh lease hunsent other ho hid
  · refine List.forall_mem_cons.mpr ⟨fun hawaited => ?_, h.kept⟩
    -- a lease that is held has no message on its way
    have hticket : lease.leaseId ∈ s.tickets.map HostLease.leaseId :=
      List.mem_map_of_mem (List.mem_append_right _ hlive)
    have hmessage : lease.leaseId ∈ s.leaseRelease.messages ++ s.returns.awaited.toList := by
      rw [hawaited]
      exact List.mem_append_right _ List.mem_cons_self
    exact (List.nodup_append.mp (HostPoolManager.owners_nodup hr)).2.2 _ hticket _ hmessage rfl
  · intro l hl
    exact List.forall_mem_cons.mpr ⟨hother l hl, h.fresh l (hsub hl)⟩

theorem Tracked.drop {tr : List (HostPoolManager × HostPoolManager.Action)}
    (hr : Run (HostPoolManager.system cfg) tr s) (h : Tracked s unsent used) {lease : HostLease}
    (hlive : lease ∈ s.leases) : Tracked (s.dropLease lease) unsent used := by
  have he : HostPoolManager.Effect cfg s (.dropLease lease) (s.dropLease lease) :=
    .leaseDropped hlive
  have hexclusive := he.exclusive (HostPoolManager.wellFormed_run hr) h.exclusive fun _ _ => id
  refine ⟨?_, h.once, h.kept, h.fresh⟩
  have hnodup : (abandoned (s.dropLease lease) used).Nodup := h.once.of_map.filter _
  have hsub : (abandoned (s.dropLease lease) used).Subperm (lease :: abandoned s used) := by
    refine List.subperm_of_subset hnodup fun l hl => ?_
    obtain ⟨hl, hgone⟩ := List.mem_filter.mp hl
    by_cases hlease : l = lease
    · exact hlease ▸ List.mem_cons_self
    · refine List.mem_cons_of_mem _ (List.mem_filter.mpr ⟨hl, decide_eq_true fun hm => ?_⟩)
      exact of_decide_eq_true hgone ((List.mem_erase_of_ne hlease).mpr hm)
  have htickets : s.tickets.Perm (lease :: (s.dropLease lease).tickets) :=
    HostPoolManager.tickets_drop hlive rfl rfl
  refine hexclusive.of_subperm (((List.Subperm.refl _).append hsub).trans ?_)
  exact (List.perm_middle.trans (htickets.symm.append_right _)).subperm

theorem unsent_of_sent {forwards : Forwards} {request startTime : Nat} {bodyBytes : Bytes}
    {lease : HostLease}
    (hlookup : forwards.lookup request = some (.requesting bodyBytes lease startTime false))
    (hids : ((heldLeases forwards).map HostLease.leaseId).Nodup) :
    lease ∈ unsentLeases forwards ∧
      ∀ l ∈ unsentLeases (forwards.insert request (.requesting bodyBytes lease startTime true)),
        l ∈ unsentLeases forwards ∧ lease.leaseId ≠ l.leaseId := by
  -- an execution sends one request under its lease, and no other one has that lease
  have hunsent := Table.filterMap_perm_erase ForwardStage.unsent hlookup
  refine ⟨hunsent.mem_iff.mpr List.mem_cons_self, fun l hl => ?_⟩
  rw [unsentLeases, Table.filterMap_insert] at hl
  refine ⟨hunsent.mem_iff.mpr (List.mem_cons_of_mem _ hl), fun hid => ?_⟩
  have hheld : l ∈ heldLeases (forwards.erase request) := by
    obtain ⟨stage, hstage, hu⟩ := List.mem_filterMap.mp hl
    exact List.mem_filterMap.mpr ⟨stage, hstage, ForwardStage.lease_of_unsent hu⟩
  have hids := ((held_of_lookup hlookup).map HostLease.leaseId).nodup_iff.mp hids
  exact (List.nodup_cons.mp hids).1 (hid ▸ List.mem_map_of_mem hheld)

theorem tracked_run {tr : List (GatewayServer × Action)}
    (h : Run (system cfg requestTimeout) tr g) (hok : ∀ p ∈ tr, p.1.ReleasedAfterUse p.2) :
    Tracked g.pool (unsentLeases g.forwards) g.used := by
  refine h.invariant_where (C := ReleasedAfterUse)
    (I := fun g => Tracked g.pool (unsentLeases g.forwards) g.used) ?_ ?_ hok
  · exact ⟨⟨nofun, nofun, List.nodup_nil, List.nodup_nil⟩, List.nodup_nil, nofun, nofun⟩
  intro _ g a g' hrun hok hi hs
  obtain ⟨_, hr⟩ := pool_run hrun
  have hheld := held_run hrun
  have hreleased : a = .pool .recvReturn → ∀ lease ∈ g.used,
      g.pool.leaseRelease.messages.head? ≠ some lease.leaseId := by
    intro ha lease hl
    obtain ⟨i, hi, rfl⟩ := List.mem_map.mp hl
    exact hok ha i hi
  cases effect_of_step hs with
  | pooled hstep hdrop hrecv hforwards hused =>
    have he := HostPoolManager.effect_of_step hstep
    have hpool := hi.pool_step hr he hdrop fun hb => hreleased (hrecv hb)
    rw [hused]
    exact hpool.mono hforwards.unsent (List.Sublist.refl _)
  | leased hstep hdrop hrecv hresult hforwards hused =>
    have he := HostPoolManager.effect_of_step hstep
    have hpool := hi.pool_step hr he hdrop fun hb => hreleased (hrecv hb)
    rw [hused]
    rcases newResult_cases he hdrop with ⟨_, hnone⟩ | ⟨_, lease, hnew, _, hfresh⟩
    · exact absurd hresult (hnone _ _)
    -- nothing was sent under a lease that this step has only just returned
    · cases hresult.symm.trans hnew
      refine ⟨hpool.exclusive, hpool.once, hpool.kept, fun l hl => ?_⟩
      rcases List.mem_cons.mp (hforwards.unsent hl) with rfl | hl
      · exact hi.fresh_result hfresh
      · exact hpool.fresh l hl
  | sent hlookup hpool hforwards hused =>
    -- no other execution holds the lease
    have hids := (HostPoolManager.exclusive_run hr).ids.sublist
      ((List.sublist_append_right _ _).map _)
    obtain ⟨hunsent, hother⟩ :=
      unsent_of_sent hlookup (HostPoolManager.nodup_map_of_subperm _ hids hheld)
    rw [hpool, hforwards, hused]
    exact hi.send hr (mem_of_held hheld hlookup) hunsent
      (fun l hl => (hother l hl).1) (fun l hl => (hother l hl).2)
  | @released request _ _ lease _ hlookup hpool hforwards hused =>
    have hdropped := hi.drop hr (mem_of_held hheld hlookup)
    have hunsent := List.Subset.trans hforwards.unsent (Gains.erase g.forwards request).unsent
    rw [hpool]
    exact hdropped.mono hunsent hused
  | quiet hpool hforwards hused =>
    rw [hpool]
    exact hi.mono hforwards.unsent hused

theorem invocations_exclusive {tr : List (GatewayServer × Action)}
    (h : Run (system cfg requestTimeout) tr g) (hok : ∀ p ∈ tr, p.1.ReleasedAfterUse p.2) :
    g.OneInvocation := by
  obtain ⟨_, hr⟩ := pool_run h
  have htracked := tracked_run h hok
  have hclaimed : ∀ i ∈ g.invocations, i.lease ∈ g.pool.tickets ++ abandoned g.pool g.used :=
    fun i hi => claimed_subset (mem_claimed (List.mem_map_of_mem hi))
  have hsame : ∀ {x y : HostLease}, x ∈ g.pool.tickets ++ abandoned g.pool g.used →
      y ∈ g.pool.tickets ++ abandoned g.pool g.used → x.containerId = y.containerId → x = y :=
    fun hx hy he => List.inj_on_of_nodup_map htracked.exclusive.distinct hx hy he
  have honce : (g.invocations.map fun i => i.lease.leaseId).Nodup := by
    have := htracked.once
    rwa [used, List.map_map] at this
  refine ⟨?_, fun i hi host hh => ?_, fun i hi lease hl he => ?_⟩
  · refine honce.of_map.map_on fun i hi j hj he => ?_
    have hlease := hsame (hclaimed i hi) (hclaimed j hj) he
    exact List.inj_on_of_nodup_map honce hi hj (congrArg HostLease.leaseId hlease)
  · have hbusy := (htracked.exclusive.placed _ (hclaimed i hi)).mem_busy
    have hnodup := (List.nodup_append.mp (HostPoolManager.busy_nodup
      (HostPoolManager.sound_run hr))).2.1
    exact (List.nodup_append.mp hnodup).2.2 _ (List.mem_map_of_mem hh) _ hbusy
  · have hlive : lease ∈ g.pool.tickets ++ abandoned g.pool g.used :=
      List.mem_append_left _ (List.mem_append_right _ hl)
    exact hsame hlive (hclaimed i hi) he

theorem invocations_exclusive_in_turn :
    ∃ tr g, Run (system GatewayConfig.small.poolConfig (5 * nanosPerSecond)) tr g ∧
      g.invocations = [⟨⟨"c1", 8081, 2⟩, [], true, true⟩] ∧ g.OneInvocation := by
  obtain ⟨tr, g, ht, hopen, hok⟩ : ∃ tr g,
      (system GatewayConfig.small.poolConfig (5 * nanosPerSecond)).trace []
        (new GatewayConfig.small.poolConfig)
        [.forwardToLambda 0 (.ok []), .pool (.leaseHostLocked 0 1), .pool .allocatePort,
          .pool (.createContainer (.ok "c1")), .pool (.startContainer (.ok ())),
          .pool (.inspectContainer (.ok ()) 1),
          .pool (.healthChecked ⟨0, .readyWait 1 "c1" 8081 1⟩ (.response true)),
          .pool (.leaseHostRelocked ⟨0, .relockWait 1 "c1" 8081 (.ok true)⟩), .sendInvoke 0,
          .responseHead 0 ⟨200, []⟩, .handled 1, .bodyCollected 0 [], .pool .recvReturn,
          .pool .returnHostLocked, .pool (.containerInfo (.ok ())), .forwardToLambda 1 (.ok []),
          .pool (.leaseHostLocked 1 2), .sendInvoke 1] = some (tr, g) ∧
      g.invocations = [⟨⟨"c1", 8081, 2⟩, [], true, true⟩] ∧ ∀ p ∈ tr, p.1.ReleasedAfterUse p.2 :=
    ⟨_, _, rfl, rfl, by decide⟩
  have hr := Run.start.trace ht
  exact ⟨tr, g, hr, hopen, invocations_exclusive hr hok⟩

/-- The lease is dropped with the head of the response, and the container serves a second
request while the gateway is still reading the body of the first response. -/
theorem container_invoked_twice :
    ∃ tr g, Run (system GatewayConfig.small.poolConfig (5 * nanosPerSecond)) tr g ∧
      g.invocations = [⟨⟨"c1", 8081, 2⟩, [], true, true⟩, ⟨⟨"c1", 8081, 1⟩, [], true, true⟩] ∧
      ¬ g.OneInvocation := by
  obtain ⟨tr, g, ht, hopen⟩ : ∃ tr g,
      (system GatewayConfig.small.poolConfig (5 * nanosPerSecond)).trace []
        (new GatewayConfig.small.poolConfig)
        [.forwardToLambda 0 (.ok []), .pool (.leaseHostLocked 0 1), .pool .allocatePort,
          .pool (.createContainer (.ok "c1")), .pool (.startContainer (.ok ())),
          .pool (.inspectContainer (.ok ()) 1),
          .pool (.healthChecked ⟨0, .readyWait 1 "c1" 8081 1⟩ (.response true)),
          .pool (.leaseHostRelocked ⟨0, .relockWait 1 "c1" 8081 (.ok true)⟩), .sendInvoke 0,
          .responseHead 0 ⟨200, []⟩, .pool .recvReturn, .pool .returnHostLocked,
          .pool (.containerInfo (.ok ())), .forwardToLambda 1 (.ok []),
          .pool (.leaseHostLocked 1 2), .sendInvoke 1] = some (tr, g) ∧
      g.invocations = [⟨⟨"c1", 8081, 2⟩, [], true, true⟩, ⟨⟨"c1", 8081, 1⟩, [], true, true⟩] :=
    ⟨_, _, rfl, rfl⟩
  refine ⟨tr, g, Run.start.trace ht, hopen, fun hone => ?_⟩
  have hdistinct := hone.distinct
  rw [hopen] at hdistinct
  exact absurd hdistinct (by decide)

end GatewayServer

end DockerizedLambda
