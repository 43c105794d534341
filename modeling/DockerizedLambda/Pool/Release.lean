import DockerizedLambda.Pool.Ownership

/-! The way of a lease id through the release channel: every drop of a lease is one
message, and every message takes one entry out of `leased_hosts`. -/

namespace DockerizedLambda

open Transition

def ReturnStage.processing (stage : ReturnStage) : Option Uuid := stage.awaited.or stage.checked

namespace HostPoolManager

def releasing (s : HostPoolManager) : List Uuid :=
  s.leases.map HostLease.leaseId ++ (s.leaseRelease.messages ++ s.returns.processing.toList)

def Action.drops (leaseId : Uuid) : Action → Bool
  | .dropLease lease => decide (lease.leaseId = leaseId)
  | _ => false

def takesOut (leaseId : Uuid) (s : HostPoolManager) : Action → Bool
  | .returnHostLocked => decide (s.returns.awaited = some leaseId)
  | _ => false

def dropCount (leaseId : Uuid) (tr : List (HostPoolManager × Action)) : Nat :=
  tr.countP fun p => p.2.drops leaseId

def takenOutCount (leaseId : Uuid) (tr : List (HostPoolManager × Action)) : Nat :=
  tr.countP fun p => takesOut leaseId p.1 p.2

variable {cfg : PoolConfig} {s s' : HostPoolManager} {a : Action}

theorem checked_run {tr : List (HostPoolManager × Action)} (h : Run (system cfg) tr s) :
    ∀ k, s.returns.checked = some k → k ∈ s.issued ∧ k ∉ s.state.leasedHosts := by
  refine h.invariant (I := fun s => ∀ k, s.returns.checked = some k →
    k ∈ s.issued ∧ k ∉ s.state.leasedHosts) nofun fun hr hi hs => ?_
  have he := effect_of_step hs
  have hf := he.follows (wellFormed_run hr)
  intro k hk
  cases he with
  | returnChecking _ _ _ hhost =>
    obtain rfl := Option.some.inj hk
    exact ⟨(wellFormed_run hr).keysIssued _ (Table.lookup_mem hhost),
      fun hm => (AList.mem_erase.mp hm).1 rfl⟩
  | _ =>
    first
    | cases hk
    | exact ⟨hf.drawn k (hi k hk).1, fun hm => (hf.entries k hm).elim (hi k hk).2 fun hn =>
        hn (hi k hk).1⟩

theorem Effect.release_count (he : Effect cfg s a s') (hw : s.WellFormed)
    (hroom : ∀ lease ∈ s.leases, s.leaseRelease.accepts = true)
    (hne : ∀ worker, a ≠ .workerAborted worker) (k : Uuid) :
    s'.leaseRelease.messages.count k + s'.returns.awaited.toList.count k +
        (if takesOut k s a then 1 else 0) =
      s.leaseRelease.messages.count k + s.returns.awaited.toList.count k +
        (if a.drops k then 1 else 0) := by
  -- one step, seen by one lease id: a drop puts it in the channel, the receive takes it to the
  -- worker, and `leased_hosts.remove` takes it away
  cases he with
  | @leaseDropped lease hlease =>
    simp only [(Channel.offer_accepted (hroom lease hlease) _).1, takesOut, Action.drops,
      List.count_append, List.count_singleton, Bool.false_eq_true, if_false, decide_eq_true_eq,
      beq_iff_eq]
    omega
  | returnReceived _ hstage hrecv =>
    simp only [(Channel.recv_eq_some hrecv).1, hstage, takesOut, Action.drops,
      ReturnStage.awaited, Option.toList_none, Option.toList_some, List.count_cons,
      List.count_nil, Bool.false_eq_true, if_false]
    omega
  | returnExpired _ hstage
  | returnChecking _ hstage
  | returnInvalid _ hstage =>
    simp only [hstage, takesOut, Action.drops, ReturnStage.awaited, Option.toList_none,
      Option.toList_some, List.count_singleton, List.count_nil, Option.some.injEq,
      decide_eq_true_eq, beq_iff_eq, Bool.false_eq_true, if_false]
    omega
  | hostReturned hguard
  | hostGone hguard =>
    rw [hw.awaited_none hguard]
    rfl
  | returnsTornDown
  | returnsTornDownHolding => exact absurd rfl (hne _)
  | _ => rfl

theorem accounted_run {tr : List (HostPoolManager × Action)} (h : Run (system cfg) tr s)
    (hbefore : s.shutdown.workersAborted = false) (hmax : cfg.maxInstances ≤ leaseReleaseCapacity)
    (hmin : cfg.minInstances ≤ leaseReleaseCapacity) (k : Uuid) :
    dropCount k tr = s.leaseRelease.messages.count k + s.returns.awaited.toList.count k +
      takenOutCount k tr := by
  induction h with
  | start => rfl
  | next hr hs ih =>
    have he := effect_of_step hs
    obtain ⟨hb, hne⟩ := he.before_abort hbefore
    have hcount := he.release_count (wellFormed_run hr)
      (fun _ hl => release_accepted hr hb hmax hmin hl) hne k
    have htail := ih hb
    simp only [dropCount, takenOutCount, List.countP_cons] at htail ⊢
    omega

theorem Effect.takesOut_owners (he : Effect cfg s a s') {k : Uuid} (ht : takesOut k s a = true) :
    s.owners.Perm (k :: s'.owners) := by
  -- `leased_hosts.remove` is reached by the owner of the entry, which is then no owner any more
  cases he with
  | returnExpired _ hstage
  | returnChecking _ hstage
  | returnInvalid _ hstage =>
    have hk : s.returns.awaited = some k := of_decide_eq_true ht
    exact owners_takenOut (awaited_eq_some.mp hk) rfl
  | _ => cases ht

theorem takenOut_run {tr : List (HostPoolManager × Action)} (h : Run (system cfg) tr s) (k : Uuid) :
    takenOutCount k tr = 0 ∨ takenOutCount k tr = 1 ∧ k ∈ s.issued ∧ k ∉ s.owners := by
  induction h with
  | start => exact .inl rfl
  | @next tr s s' a hr hs ih =>
    have he := effect_of_step hs
    have hf := he.follows (wellFormed_run hr)
    have hcount : takenOutCount k ((s, a) :: tr) =
        takenOutCount k tr + if takesOut k s a then 1 else 0 := List.countP_cons
    cases ht : takesOut k s a with
    | false =>
      rw [hcount, ht]
      refine ih.imp id fun hi => ⟨hi.1, hf.drawn k hi.2.1, fun hm => ?_⟩
      exact (hf.owners k hm).elim hi.2.2 fun hn => hn hi.2.1
    | true =>
      have hp := he.takesOut_owners ht
      have hsound := registry_sound_run hr
      have hk : k ∈ s.owners := hp.mem_iff.mpr List.mem_cons_self
      have hnodup : (k :: s'.owners).Nodup := hp.nodup_iff.mp (Multiset.coe_nodup.mp hsound.once)
      have hzero : takenOutCount k tr = 0 := ih.resolve_right fun hi => hi.2.2 hk
      rw [hcount, ht, hzero]
      exact .inr ⟨rfl, hf.drawn k (hsound.ownersDrawn k hk), (List.nodup_cons.mp hnodup).1⟩

structure ReleasesKept (cfg : PoolConfig) (tr : List (HostPoolManager × Action))
    (s : HostPoolManager) : Prop where
  distinct : s.releasing.Nodup
  entered : ∀ leaseId ∈ s.releasing,
    leaseId ∈ s.state.leasedHosts ∨ s.returns = .checking leaseId
  room : ∀ lease ∈ s.leases, s.leaseRelease.messages.length < cfg.maxInstances
  sent : ∀ lease ∈ s.leases, ∃ c, s.leaseRelease.trySend lease.leaseId = .ok c
  valid : ∀ leaseId, s.returns = .lockWait leaseId → ∃ host,
    s.state.leasedHosts.lookup leaseId = some host
  removed : ∀ leaseId s', s.returns = .lockWait leaseId →
    s.step cfg .returnHostLocked = some s' →
      s'.state.leasedHosts = s.state.leasedHosts.erase leaseId ∧
      Table.size s.state.leasedHosts = Table.size s'.state.leasedHosts + 1
  once : ∀ leaseId, dropCount leaseId tr ≤ 1
  accounted : ∀ leaseId, dropCount leaseId tr =
    s.leaseRelease.messages.count leaseId + s.returns.awaited.toList.count leaseId +
      takenOutCount leaseId tr

theorem processing_cases (stage : ReturnStage) :
    stage.processing.toList = stage.awaited.toList ++ stage.checked.toList := by
  cases stage <;> rfl

theorem checked_eq_some {stage : ReturnStage} {leaseId : Uuid} :
    stage.checked = some leaseId ↔ stage = .checking leaseId := by
  cases stage <;> simp [ReturnStage.checked]

theorem Effect.removes_entry (he : Effect cfg s .returnHostLocked s') {leaseId : Uuid}
    (hstage : s.returns = .lockWait leaseId) :
    s'.state.leasedHosts = s.state.leasedHosts.erase leaseId := by
  cases he with
  | returnExpired _ hreturns
  | returnChecking _ hreturns =>
    obtain rfl := ReturnStage.lockWait.inj (hstage.symm.trans hreturns)
    rfl
  | returnInvalid _ hreturns _ hhost =>
    obtain rfl := ReturnStage.lockWait.inj (hstage.symm.trans hreturns)
    exact (Table.erase_of_notMem (Table.notMem_of_lookup hhost)).symm

theorem releasing_nodup {tr : List (HostPoolManager × Action)} (h : Run (system cfg) tr s)
    (hbefore : s.shutdown.hostsCollected = false) : s.releasing.Nodup := by
  -- live leases and messages are owners, and a host being checked has none
  have hsound := registry_sound_run h
  have hsub : (s.leases.map HostLease.leaseId ++ (s.leaseRelease.messages ++
      s.returns.awaited.toList)).Sublist s.owners :=
    List.Sublist.append_right ((List.sublist_append_right _ _).map _) _
  have hnodup := (Multiset.coe_nodup.mp hsound.once).sublist hsub
  unfold releasing
  rw [processing_cases]
  cases hc : s.returns.checked with
  | none => simpa only [Option.toList_none, List.append_nil] using hnodup
  | some k =>
    -- the entry of the id in hand has been removed, so no owner has that id
    have hk := (checked_run h k hc).2
    have hnot : k ∉ s.owners := fun hm => hk (entered_run h hbefore k hm)
    simp only [Option.toList_some, ← List.append_assoc] at hnodup ⊢
    refine List.nodup_append.mpr ⟨hnodup, List.nodup_singleton k, ?_⟩
    rintro x hx y hy rfl
    obtain rfl := List.mem_singleton.mp hy
    simp only [List.append_assoc] at hx
    exact hnot (hsub.subset hx)

theorem releases_kept {pathExists : String → Bool} (hv : cfg.validate pathExists = .ok ())
    (hmax : cfg.maxInstances ≤ leaseReleaseCapacity) {tr : List (HostPoolManager × Action)}
    (h : Run (system cfg) tr s) (hbefore : s.shutdown.workersAborted = false) :
    ReleasesKept cfg tr s := by
  have hle := (PoolConfig.validate_bounds hv).2.1
  have hcollect := ShutdownStage.before_collect_of_abort hbefore
  have hentered := entered_run h hcollect
  have haccounted := accounted_run h hbefore hmax (hle.trans hmax)
  have hvalid : ∀ leaseId, s.returns = .lockWait leaseId →
      ∃ host, s.state.leasedHosts.lookup leaseId = some host := fun leaseId hstage =>
    Option.isSome_iff_exists.mp (AList.lookup_isSome.mpr
      (hentered leaseId (mem_owners.mpr (.inr (.inr hstage)))))
  refine ⟨releasing_nodup h hcollect, ?_, ?_, ?_, hvalid, ?_, ?_, haccounted⟩
  · intro leaseId hm
    simp only [releasing, processing_cases, List.mem_append, Option.mem_toList] at hm
    rcases hm with hm | hm | hm | hm
    · obtain ⟨lease, hl, hid⟩ := List.mem_map.mp hm
      have hticket : lease ∈ s.tickets := List.mem_append_right _ hl
      exact .inl (hentered leaseId (mem_owners.mpr (.inl ⟨lease, hticket, hid⟩)))
    · exact .inl (hentered leaseId (mem_owners.mpr (.inr (.inl hm))))
    · exact .inl (hentered leaseId (mem_owners.mpr (.inr (.inr (awaited_eq_some.mp hm)))))
    · exact .inr (checked_eq_some.mp hm)
  · intro lease hl
    have hlt := messages_lt h hcollect hl
    exact hlt.trans_le (s.size_le_load.trans (load_run h le_rfl hle))
  · intro lease hl
    obtain ⟨hopen, hroom⟩ :=
      Channel.accepts_iff.mp (release_accepted h hbefore hmax (hle.trans hmax) hl)
    exact Channel.trySend_room lease.leaseId hopen hroom
  · intro leaseId s' hstage hs
    obtain ⟨host, hhost⟩ := hvalid leaseId hstage
    have he := (effect_of_step hs).removes_entry hstage
    exact ⟨he, by rw [he, Table.size_erase hhost]⟩
  · intro leaseId
    have hle : s.leaseRelease.messages.count leaseId + s.returns.awaited.toList.count leaseId ≤
        s.owners.count leaseId := by
      simp only [owners, List.count_append]
      omega
    -- the one message of a lease is on its way or has been taken out, not both
    have hcount := haccounted leaseId
    have hnodup : s.owners.Nodup := Multiset.coe_nodup.mp (registry_sound_run h).once
    rcases takenOut_run h leaseId with hzero | ⟨hone, _, hnot⟩
    · have honce := List.nodup_iff_count_le_one.mp hnodup leaseId
      omega
    · have hnone := List.count_eq_zero_of_not_mem hnot
      omega

theorem releases_kept_after_return :
    ∃ tr s, Run (system GatewayConfig.small.poolConfig) tr s ∧ s.leaseRelease.messages = [2] ∧
      takenOutCount 1 tr = 1 ∧ ReleasesKept GatewayConfig.small.poolConfig tr s := by
  obtain ⟨tr, s, ht, hstage, hmsgs, hcount⟩ : ∃ tr s,
      (system GatewayConfig.small.poolConfig).trace [] (new GatewayConfig.small.poolConfig)
        (leaseSpawned 0 1 "c1" 8081 ++
          [.dropLease ⟨"c1", 8081, 1⟩, .recvReturn, .returnHostLocked, .containerInfo (.ok ()),
          .leaseHost 1, .leaseHostLocked 1 2, .dropLease ⟨"c1", 8081, 2⟩]) = some (tr, s) ∧
      s.shutdown.workersAborted = false ∧ s.leaseRelease.messages = [2] ∧
      takenOutCount 1 tr = 1 := ⟨_, _, rfl, rfl, rfl, rfl⟩
  have hr := Run.start.trace ht
  have hv : GatewayConfig.small.poolConfig.validate (fun _ => true) = .ok () := rfl
  exact ⟨tr, s, hr, hmsgs, hcount, releases_kept hv (by decide) hr hstage⟩

theorem processed_message_without_entry :
    ∃ tr s, Run (system GatewayConfig.small.poolConfig) tr s ∧
      GatewayConfig.small.poolConfig.validate (fun _ => true) = .ok () ∧
      GatewayConfig.small.maxInstances ≤ leaseReleaseCapacity ∧
      s.shutdown.workersAborted = false ∧
      ¬ ∀ leaseId ∈ s.releasing, leaseId ∈ s.state.leasedHosts := by
  obtain ⟨tr, s, ht, hstage, hrel, hkeys⟩ : ∃ tr s,
      (system GatewayConfig.small.poolConfig).trace [] (new GatewayConfig.small.poolConfig)
        (leaseSpawned 0 1 "c1" 8081 ++
          [.dropLease ⟨"c1", 8081, 1⟩, .recvReturn, .returnHostLocked]) = some (tr, s) ∧
      s.shutdown.workersAborted = false ∧ s.releasing = [1] ∧
      s.state.leasedHosts.keys = [] := ⟨_, _, rfl, rfl, rfl, rfl⟩
  refine ⟨tr, s, Run.start.trace ht, rfl, by decide, hstage, fun hall => ?_⟩
  have hmem : (1 : Uuid) ∈ s.state.leasedHosts.keys := hall 1 (by rw [hrel]; exact .head _)
  rw [hkeys] at hmem
  cases hmem

end HostPoolManager

end DockerizedLambda
