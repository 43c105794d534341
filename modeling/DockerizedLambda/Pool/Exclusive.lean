import DockerizedLambda.Pool.Ownership

/-! Exclusive leasing. A lease is a copy of its host's container id and port, tied to the
host by the entry under its lease id; nothing but the end of that very lease takes the
entry away, and every container is in one place. -/

namespace DockerizedLambda

open Transition

structure HostInstance.Backs (host : HostInstance) (lease : HostLease) : Prop where
  containerId : host.containerId = lease.containerId
  port : host.allocatedPort.port = lease.port

namespace HostPoolManager

def gone (s : HostPoolManager) : List ContainerId :=
  s.shutdown.hosts.map HostInstance.containerId ++ (s.sent ++ s.unsent)

def Placed (s : HostPoolManager) (lease : HostLease) : Prop :=
  (∃ host, s.state.leasedHosts.lookup lease.leaseId = some host ∧ host.Backs lease) ∨
    s.state.leasedHosts.lookup lease.leaseId = none ∧ lease.containerId ∈ s.gone

def EndsLease (s : HostPoolManager) (leaseId : Uuid) : Action → Prop
  | .returnHostLocked => s.returns = .lockWait leaseId
  | .leaseHostRelocked call => ∃ containerId port readyResult,
      call.stage = .relockWait leaseId containerId port readyResult ∧ readyResult ≠ .ok true
  | _ => False

variable {cfg : PoolConfig} {s s' : HostPoolManager} {a : Action}

theorem mem_gone {c : ContainerId} :
    c ∈ s.gone ↔ (∃ host ∈ s.shutdown.hosts, host.containerId = c) ∨ c ∈ s.sent ++ s.unsent := by
  simp only [gone, List.mem_append, List.mem_map]

theorem dropHost_offered (s : HostPoolManager) (host : HostInstance) (c : ContainerId) :
    c ∈ (s.dropHost host).sent ++ (s.dropHost host).unsent ↔
      c = host.containerId ∨ c ∈ s.sent ++ s.unsent := by
  cases ha : s.cleanup.accepts with
  | true =>
    simp only [dropHost, ha, if_true, List.mem_append, List.mem_singleton]
    by_cases hc : c = host.containerId <;> simp [hc]
  | false =>
    simp only [dropHost, ha, Bool.false_eq_true, if_false, List.mem_append, List.mem_cons]
    by_cases hc : c = host.containerId <;> simp [hc]

theorem dropHost_gone (s : HostPoolManager) (host : HostInstance) (c : ContainerId) :
    c ∈ (s.dropHost host).gone ↔ c = host.containerId ∨ c ∈ s.gone := by
  rw [mem_gone, mem_gone, dropHost_offered, or_left_comm]
  rfl

theorem gone_eq (hhosts : s'.shutdown.hosts = s.shutdown.hosts)
    (hsent : s'.sent = s.sent := by rfl) (hunsent : s'.unsent = s.unsent := by rfl) :
    s'.gone = s.gone := by
  unfold gone
  rw [hhosts, hsent, hunsent]

theorem Effect.gone_mono (he : Effect cfg s a s') {c : ContainerId} (hc : c ∈ s.gone) :
    c ∈ s'.gone := by
  have hkept : s'.shutdown.hosts = s.shutdown.hosts → s'.sent = s.sent → s'.unsent = s.unsent →
      c ∈ s'.gone := fun hh hs hu => (gone_eq hh hs hu).symm ▸ hc
  cases he with
  | hostDropped
  | hostGone
  | returnsTornDownHolding => exact (dropHost_gone _ _ c).mpr (.inr hc)
  | shutdownStarted hstage
  | drainedEmpty hstage
  | drainTimeout hstage
  | workersAborted hstage => exact hkept (by rw [hstage]; rfl) rfl rfl
  | collected hstage =>
    rw [mem_gone, hstage] at hc
    exact mem_gone.mpr (hc.imp (fun ⟨_, hh, _⟩ => absurd hh List.not_mem_nil) id)
  | @collectedDropped sawEmpty host rest hstage =>
    refine (dropHost_gone _ _ c).mpr ?_
    rw [mem_gone, hstage] at hc
    rcases hc with ⟨h, hh, rfl⟩ | hc
    · rcases List.mem_cons.mp hh with rfl | hh
      · exact .inl rfl
      · exact .inr (mem_gone.mpr (.inl ⟨h, hh, rfl⟩))
    · exact .inr (mem_gone.mpr (.inr hc))
  | containersListed hstage
  | listingFailed hstage
  | forceInspected hstage
  | forceSkipped hstage
  | forceStopped hstage
  | forceStopFailed hstage
  | shutdownComplete hstage => exact hkept (by rw [hstage]; rfl) rfl rfl
  | _ => exact hc

theorem placed_of_lookup {lease : HostLease} (hp : s.Placed lease)
    (hlookup : s'.state.leasedHosts.lookup lease.leaseId =
      s.state.leasedHosts.lookup lease.leaseId)
    (hgone : ∀ {c}, c ∈ s.gone → c ∈ s'.gone) : s'.Placed lease := by
  rcases hp with ⟨host, hl, hb⟩ | ⟨hl, hg⟩
  · exact .inl ⟨host, hlookup.trans hl, hb⟩
  · exact .inr ⟨hlookup.trans hl, hgone hg⟩

theorem Effect.placed (he : Effect cfg s a s') {lease : HostLease}
    (hissued : lease.leaseId ∈ s.issued) (hkept : ¬ s.EndsLease lease.leaseId a)
    (hp : s.Placed lease) : s'.Placed lease := by
  have hgone : ∀ {c}, c ∈ s.gone → c ∈ s'.gone := he.gone_mono
  cases he with
  | leaseTested _ _ hfresh
  | leaseUntested _ _ hfresh
  | hostLeased _ hfresh =>
    exact placed_of_lookup hp (AList.lookup_insert_ne fun hk => hfresh (hk ▸ hissued)) hgone
  | @readyConfirmed request leaseId containerId port host _ _ hhost =>
    by_cases hk : lease.leaseId = leaseId
    · subst hk
      rcases hp with ⟨h, hl, hb⟩ | ⟨hl, _⟩
      · obtain rfl := Option.some.inj (hhost.symm.trans hl)
        exact .inl ⟨_, AList.lookup_insert _, hb.containerId, hb.port⟩
      · exact absurd (hhost.symm.trans hl) nofun
    · exact placed_of_lookup hp (AList.lookup_insert_ne hk) hgone
  | @notReady request leaseId containerId port readyResult e _ _ hready =>
    have hne : lease.leaseId ≠ leaseId := by
      rintro rfl
      refine hkept ⟨containerId, port, readyResult, rfl, ?_⟩
      rcases hready with ⟨rfl, _⟩ | rfl <;> exact nofun
    exact placed_of_lookup hp (AList.lookup_erase_ne hne) hgone
  | returnExpired _ hstage
  | returnChecking _ hstage =>
    refine placed_of_lookup hp (AList.lookup_erase_ne ?_) hgone
    rintro rfl
    exact hkept hstage
  | collected =>
    refine .inr ⟨rfl, ?_⟩
    rcases hp with ⟨host, hl, hb⟩ | ⟨_, hg⟩
    · have hv : host ∈ Table.values s.state.leasedHosts := Table.mem_values.mpr ⟨_, hl⟩
      exact mem_gone.mpr (.inl ⟨host, List.mem_append_right _ hv, hb.containerId⟩)
    · exact hgone hg
  | _ => exact placed_of_lookup hp rfl hgone

structure Grants (s s' : HostPoolManager) (lease : HostLease) : Prop where
  fresh : lease.leaseId ∉ s.issued
  issued : lease.leaseId ∈ s'.issued
  placed : s'.Placed lease
  unclaimed : lease.containerId ∈ s.state.availableHosts.map HostInstance.containerId ∨
    lease.containerId ∈ s.resources.spawningIds

theorem subperm_of_perm_cons {l r : List HostLease} (lease : HostLease)
    (hp : l.Perm (lease :: r)) : r.Subperm l :=
  (List.sublist_cons_self lease r).subperm.trans hp.symm.subperm

theorem Effect.tickets (he : Effect cfg s a s') :
    s'.tickets.Subperm s.tickets ∨
      ∃ lease, s.Grants s' lease ∧ s'.tickets.Perm (lease :: s.tickets) := by
  cases he with
  | @leaseTested request leaseId host rest hcall _ hfresh havail =>
    refine .inr ⟨⟨host.containerId, host.allocatedPort.port, leaseId⟩, ⟨hfresh, ?_, ?_, ?_⟩, ?_⟩
    · exact List.mem_cons_self
    · exact .inl ⟨host, AList.lookup_insert _, rfl, rfl⟩
    · rw [havail]
      exact .inl List.mem_cons_self
    · exact tickets_granted hcall (.inl ⟨rfl, rfl⟩)
  | @leaseUntested request leaseId host rest hcall _ hfresh havail =>
    refine .inr ⟨⟨host.containerId, host.allocatedPort.port, leaseId⟩, ⟨hfresh, ?_, ?_, ?_⟩, ?_⟩
    · exact List.mem_cons_self
    · exact .inl ⟨host, AList.lookup_insert _, rfl, rfl⟩
    · rw [havail]
      exact .inl List.mem_cons_self
    · exact tickets_granted hcall (.inr ⟨rfl, rfl⟩)
  | @hostLeased request port containerId leaseId _ hguard hfresh =>
    refine .inr ⟨⟨containerId, port.port, leaseId⟩, ⟨hfresh, ?_, ?_, .inr ?_⟩, List.Perm.refl _⟩
    · exact List.mem_cons_self
    · exact .inl ⟨_, AList.lookup_insert _, rfl, rfl⟩
    · simp only [Resources.spawningIds, resources, hguard, Option.bind_some, Guard.resources,
        Option.elim_some, Option.toList_some, List.mem_singleton]
  | leaseFull hcall
  | leaseSpawning hcall =>
    refine .inl (List.Perm.subperm ?_)
    exact tickets_ended hcall rfl rfl rfl
  | readyAgain hcall
  | readyDone hcall =>
    refine .inl (List.Perm.subperm ?_)
    exact tickets_waiting hcall rfl rfl rfl
  | readyConfirmed hcall =>
    refine .inl (List.Perm.subperm ?_)
    exact tickets_confirmed hcall rfl rfl rfl
  | @readyInvalid request leaseId containerId port hcall
  | @notReady request leaseId containerId port _ _ hcall =>
    refine .inl (subperm_of_perm_cons ⟨containerId, port, leaseId⟩ ?_)
    exact tickets_left hcall rfl rfl rfl
  | cancelLease hcall =>
    exact .inl ((List.erase_sublist.filterMap _).append (List.Sublist.refl _)).subperm
  | leaseDropped hlease =>
    exact .inl ((List.Sublist.refl _).append List.erase_sublist).subperm
  | _ => exact .inl (List.Perm.refl _).subperm

theorem Effect.ended_owners (he : Effect cfg s a s') {leaseId : Uuid}
    (hend : s.EndsLease leaseId a) : s.owners.Perm (leaseId :: s'.owners) := by
  cases he with
  | @readyConfirmed _ _ _ _ _ _ _ _
  | readyInvalid =>
    obtain ⟨_, _, _, hstage, hne⟩ := hend
    obtain ⟨_, _, _, rfl⟩ := LeaseStage.relockWait.inj hstage
    exact absurd rfl hne
  | @notReady request id containerId port _ _ hcall =>
    obtain ⟨_, _, _, hstage, _⟩ := hend
    obtain ⟨rfl, rfl, rfl, rfl⟩ := LeaseStage.relockWait.inj hstage
    exact owners_left ⟨containerId, port, id⟩ (tickets_left hcall rfl rfl rfl)
  | returnExpired
  | returnChecking
  | returnInvalid => exact owners_takenOut hend rfl
  | _ => exact absurd hend id

def busy (s : HostPoolManager) : List ContainerId :=
  (Table.values s.state.leasedHosts ++ (s.guard.elim [] Guard.hosts ++ (s.dropping ++
    s.shutdown.hosts))).map HostInstance.containerId ++ (s.sent ++ s.unsent)

theorem busy_nodup {portRange : PortRange} (h : s.resources.Sound portRange) :
    (s.resources.spawningIds ++
      (s.state.availableHosts.map HostInstance.containerId ++ s.busy)).Nodup := by
  have hnodup := containers_nodup h
  simpa only [hosts, busy, List.map_append, List.append_assoc] using hnodup

theorem Placed.mem_busy {lease : HostLease} (hp : s.Placed lease) :
    lease.containerId ∈ s.busy := by
  rcases hp with ⟨host, hl, hb⟩ | ⟨_, hg⟩
  · have hv : host ∈ Table.values s.state.leasedHosts := Table.mem_values.mpr ⟨_, hl⟩
    refine List.mem_append_left _ ?_
    exact List.mem_map.mpr ⟨host, List.mem_append_left _ hv, hb.containerId⟩
  · rcases mem_gone.mp hg with ⟨host, hh, he⟩ | hd
    · refine List.mem_append_left _ (List.mem_map.mpr ⟨host, ?_, he⟩)
      exact List.mem_append_right _ (List.mem_append_right _ (List.mem_append_right _ hh))
    · exact List.mem_append_right _ hd

structure Exclusive (s : HostPoolManager) (leases : List HostLease) : Prop where
  issued : ∀ lease ∈ leases, lease.leaseId ∈ s.issued
  placed : ∀ lease ∈ leases, s.Placed lease
  distinct : (leases.map HostLease.containerId).Nodup
  ids : (leases.map HostLease.leaseId).Nodup

theorem nodup_map_of_subperm {α : Type} {l r : List HostLease} (f : HostLease → α)
    (h : (l.map f).Nodup) (hsub : r.Subperm l) : (r.map f).Nodup := by
  have hle : (r : Multiset HostLease).map f ≤ (l : Multiset HostLease).map f :=
    Multiset.map_le_map hsub
  exact Multiset.coe_nodup.mp (Multiset.nodup_of_le hle (Multiset.coe_nodup.mpr h))

theorem Exclusive.of_subperm {l r : List HostLease} (h : s.Exclusive l) (hsub : r.Subperm l) :
    s.Exclusive r :=
  ⟨fun lease hl => h.issued lease (hsub.subset hl), fun lease hl => h.placed lease (hsub.subset hl),
    nodup_map_of_subperm _ h.distinct hsub, nodup_map_of_subperm _ h.ids hsub⟩

theorem Effect.exclusive (he : Effect cfg s a s') (hw : s.WellFormed) {l : List HostLease}
    (h : s.Exclusive l) (hkept : ∀ lease ∈ l, ¬ s.EndsLease lease.leaseId a) : s'.Exclusive l :=
  ⟨fun lease hl => (he.follows hw).drawn _ (h.issued lease hl),
    fun lease hl => he.placed (h.issued lease hl) (hkept lease hl) (h.placed lease hl), h.distinct,
    h.ids⟩

theorem Exclusive.grant {portRange : PortRange} (hs : s.resources.Sound portRange)
    {l : List HostLease} {lease : HostLease} (hold : s.Exclusive l) (h : s'.Exclusive l)
    (hg : s.Grants s' lease) : s'.Exclusive (lease :: l) := by
  refine ⟨?_, ?_, List.nodup_cons.mpr ⟨?_, h.distinct⟩, List.nodup_cons.mpr ⟨?_, h.ids⟩⟩
  · exact List.forall_mem_cons.mpr ⟨hg.issued, h.issued⟩
  · exact List.forall_mem_cons.mpr ⟨hg.placed, h.placed⟩
  · intro hm
    obtain ⟨other, hother, hc⟩ := List.mem_map.mp hm
    have hbusy := (hold.placed other hother).mem_busy
    rw [hc] at hbusy
    obtain ⟨_, hrest, hspawn⟩ := List.nodup_append.mp (busy_nodup hs)
    obtain ⟨_, _, havail⟩ := List.nodup_append.mp hrest
    rcases hg.unclaimed with ha | ha
    · exact havail _ ha _ hbusy rfl
    · exact hspawn _ ha _ (List.mem_append_right _ hbusy) rfl
  · intro hm
    obtain ⟨other, hother, hid⟩ := List.mem_map.mp hm
    exact hg.fresh (hid ▸ hold.issued other hother)

theorem Effect.exclusive_beside {portRange : PortRange} (he : Effect cfg s a s')
    (hw : s.WellFormed) (hs : s.resources.Sound portRange) (hnodup : s.owners.Nodup)
    {l : List HostLease} (h : s.Exclusive (s.tickets ++ l))
    (hkept : ∀ lease ∈ l, ¬ s.EndsLease lease.leaseId a) : s'.Exclusive (s'.tickets ++ l) := by
  -- a lease that is still held after the step has not been ended by it
  have hheld : ∀ lease ∈ s'.tickets, ¬ s.EndsLease lease.leaseId a := fun lease hl hend => by
    have hp := (he.ended_owners hend).nodup_iff.mp hnodup
    exact (List.nodup_cons.mp hp).1 (List.mem_append_left _ (List.mem_map_of_mem hl))
  rcases he.tickets with hsub | ⟨lease, hg, hp⟩
  · refine he.exclusive hw (h.of_subperm (hsub.append (List.Subperm.refl l))) fun lease hl => ?_
    rcases List.mem_append.mp hl with hl | hl
    · exact hheld lease hl
    · exact hkept lease hl
  · have hold : s'.Exclusive (s.tickets ++ l) := he.exclusive hw h fun other ho => by
      rcases List.mem_append.mp ho with ho | ho
      · exact hheld other (hp.mem_iff.mpr (List.mem_cons_of_mem _ ho))
      · exact hkept other ho
    exact (h.grant hs hold hg).of_subperm (hp.append_right l).subperm

theorem owners_nodup {tr : List (HostPoolManager × Action)} (h : Run (system cfg) tr s) :
    s.owners.Nodup := Multiset.coe_nodup.mp (registry_sound_run h).once

theorem exclusive_run {tr : List (HostPoolManager × Action)} (h : Run (system cfg) tr s) :
    s.Exclusive s.tickets := by
  refine h.invariant (I := fun s => s.Exclusive s.tickets)
    ⟨nofun, nofun, List.nodup_nil, List.nodup_nil⟩ fun hr hi hs => ?_
  have hstep := (effect_of_step hs).exclusive_beside (wellFormed_run hr) (sound_run hr)
    (owners_nodup hr) (l := []) (by rwa [List.append_nil]) nofun
  rwa [List.append_nil] at hstep

theorem entry_of_ticket {tr : List (HostPoolManager × Action)} (h : Run (system cfg) tr s)
    (hbefore : s.shutdown.hostsCollected = false) {lease : HostLease} (hl : lease ∈ s.tickets) :
    ∃ host, s.state.leasedHosts.lookup lease.leaseId = some host ∧ host.Backs lease := by
  -- until the hosts are collected, a lease finds its host under its lease id
  have hkey : lease.leaseId ∈ s.state.leasedHosts :=
    entered_run h hbefore _ (mem_owners.mpr (.inl ⟨lease, hl, rfl⟩))
  rcases (exclusive_run h).placed lease hl with he | ⟨hnone, _⟩
  · exact he
  · exact absurd hkey (Table.notMem_of_lookup hnone)

theorem leases_nodup {β : Type} {f : HostLease → β} {g : HostInstance → β}
    (hids : (s.leases.map HostLease.leaseId).Nodup)
    (hg : ((Table.values s.state.leasedHosts).map g).Nodup)
    (hfg : ∀ lease ∈ s.leases, ∃ host,
      s.state.leasedHosts.lookup lease.leaseId = some host ∧ g host = f lease) :
    (s.leases.map f).Nodup := by
  refine List.Nodup.map_on (fun x hx y hy he => ?_) hids.of_map
  obtain ⟨v, hv, hgv⟩ := hfg x hx
  obtain ⟨w, hw, hgw⟩ := hfg y hy
  have hid : x.leaseId = y.leaseId := Table.lookup_inj hg hv hw (hgv.trans (he.trans hgw.symm))
  exact List.inj_on_of_nodup_map hids hx hy hid

structure ExclusiveLeasing (s : HostPoolManager) : Prop where
  containers : ((s.state.availableHosts ++ Table.values s.state.leasedHosts).map
    HostInstance.containerId).Nodup
  ports : ((s.state.availableHosts ++ Table.values s.state.leasedHosts).map
    fun host => host.allocatedPort.port).Nodup
  entered : ∀ lease ∈ s.leases, ∃ host, s.state.leasedHosts.lookup lease.leaseId = some host ∧
    host.containerId = lease.containerId ∧ host.allocatedPort.port = lease.port
  leaseContainers : (s.leases.map HostLease.containerId).Nodup
  leasePorts : (s.leases.map HostLease.port).Nodup
  notIdle : ∀ lease ∈ s.leases, ∀ host ∈ s.state.availableHosts,
    host.containerId ≠ lease.containerId ∧ host.allocatedPort.port ≠ lease.port

theorem leasing_exclusive {tr : List (HostPoolManager × Action)} (h : Run (system cfg) tr s)
    (hbefore : s.shutdown.hostsCollected = false) : s.ExclusiveLeasing := by
  have hs := sound_run h
  have hsub : (s.state.availableHosts ++ Table.values s.state.leasedHosts).Sublist s.hosts :=
    (List.Sublist.refl _).append (List.sublist_append_left _ _)
  have hcontainers : ((s.state.availableHosts ++ Table.values s.state.leasedHosts).map
      HostInstance.containerId).Nodup :=
    (((List.nodup_append.mp (containers_nodup hs)).2.1).of_append_left).sublist (hsub.map _)
  have hports := (ports_nodup hs).sublist (hsub.map _)
  have hentered : ∀ lease ∈ s.leases, ∃ host,
      s.state.leasedHosts.lookup lease.leaseId = some host ∧
      host.containerId = lease.containerId ∧ host.allocatedPort.port = lease.port :=
    fun lease hl => by
      obtain ⟨host, hhost, hb⟩ := entry_of_ticket h hbefore (List.mem_append_right _ hl)
      exact ⟨host, hhost, hb.containerId, hb.port⟩
  have hids : (s.leases.map HostLease.leaseId).Nodup :=
    (owners_nodup h).of_append_left.sublist ((List.sublist_append_right _ _).map _)
  rw [List.map_append] at hcontainers hports
  refine ⟨List.map_append ▸ hcontainers, List.map_append ▸ hports, hentered, ?_, ?_, ?_⟩
  · refine leases_nodup hids hcontainers.of_append_right fun lease hl => ?_
    obtain ⟨host, hhost, hc, _⟩ := hentered lease hl
    exact ⟨host, hhost, hc⟩
  · refine leases_nodup hids hports.of_append_right fun lease hl => ?_
    obtain ⟨host, hhost, _, hp⟩ := hentered lease hl
    exact ⟨host, hhost, hp⟩
  · intro lease hl host hh
    obtain ⟨leased, hhost, hc, hp⟩ := hentered lease hl
    have hv : leased ∈ Table.values s.state.leasedHosts := Table.mem_values.mpr ⟨_, hhost⟩
    constructor
    · intro he
      exact (List.nodup_append.mp hcontainers).2.2 _ (List.mem_map_of_mem hh) _
        (List.mem_map_of_mem hv) (he.trans hc.symm)
    · intro he
      exact (List.nodup_append.mp hports).2.2 _ (List.mem_map_of_mem hh) _
        (List.mem_map_of_mem hv) (he.trans hp.symm)

theorem leasing_exclusive_beside_idle :
    ∃ tr s, Run (system GatewayConfig.small.poolConfig) tr s ∧
      s.leases = [⟨"c1", 8081, 1⟩] ∧
      s.state.availableHosts.map HostInstance.containerId = ["c2"] ∧ s.ExclusiveLeasing := by
  obtain ⟨tr, s, ht, hstage, hleases, hidle⟩ : ∃ tr s,
      (system GatewayConfig.small.poolConfig).trace [] (new GatewayConfig.small.poolConfig)
        (leaseSpawned 0 1 "c1" 8081 ++ leaseSpawned 1 2 "c2" 8082 ++
          [.dropLease ⟨"c2", 8082, 2⟩, .recvReturn, .returnHostLocked,
          .containerInfo (.ok ())]) = some (tr, s) ∧
      s.shutdown.hostsCollected = false ∧ s.leases = [⟨"c1", 8081, 1⟩] ∧
      s.state.availableHosts.map HostInstance.containerId = ["c2"] := ⟨_, _, rfl, rfl, rfl, rfl⟩
  have hr := Run.start.trace ht
  exact ⟨tr, s, hr, hleases, hidle, leasing_exclusive hr hstage⟩

end HostPoolManager

end DockerizedLambda
