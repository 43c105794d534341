import DockerizedLambda.Pool.Exclusive

/-! Cleanup. A host is sent for cleanup when it is dropped, and nothing in the pool drops a
host except for one of four reasons; what is sent is stopped by one task in turn. -/

namespace DockerizedLambda

open Transition

def CleanupStage.current : CleanupStage → Option ContainerId
  | .recv => none
  | .inspecting containerId => some containerId
  | .stopping containerId => some containerId

def Guard.expired : Guard → List HostInstance
  | .reapExpiredHosts _ expired _ => expired
  | _ => []

theorem Spawner.next_expired (caller : Spawner) : caller.next.elim [] Guard.expired = [] := by
  cases caller with
  | leaseHost => rfl
  | runScalingPolicy n => cases n <;> rfl

namespace HostPoolManager

def pending (s : HostPoolManager) : List ContainerId :=
  s.cleaner.current.toList ++ s.cleanup.messages

def Discards (cfg : PoolConfig) (s : HostPoolManager) (containerId : ContainerId) :
    Action → Prop
  | .leaseHostRelocked call => ∃ leaseId c port readyResult host,
      call.stage = .relockWait leaseId c port readyResult ∧ readyResult ≠ .ok true ∧
      s.state.leasedHosts.lookup leaseId = some host ∧ host.containerId = containerId
  | .returnHostLocked => ∃ leaseId host, s.returns = .lockWait leaseId ∧
      s.state.leasedHosts.lookup leaseId = some host ∧ host.containerId = containerId ∧
      host.isExpired s.clock cfg.instanceTtl = true
  | .containerInfo (.error _) => ∃ leaseId host,
      s.guard = some (.returnHostInternal leaseId host) ∧ host.containerId = containerId
  | .testReap => ∃ host rest expired stillValid,
      s.guard = some (.reapExpiredHosts (host :: rest) expired stillValid) ∧
      host.containerId = containerId ∧ host.isExpired s.clock cfg.instanceTtl = true
  | _ => False

def discarded (s : HostPoolManager) : List ContainerId :=
  (s.guard.elim [] Guard.expired ++ s.dropping).map HostInstance.containerId ++
    (s.sent ++ s.unsent)

variable {cfg : PoolConfig} {s s' : HostPoolManager} {a : Action}

theorem mem_discarded {c : ContainerId} :
    c ∈ s.discarded ↔ (∃ host ∈ s.guard.elim [] Guard.expired, host.containerId = c) ∨
      (∃ host ∈ s.dropping, host.containerId = c) ∨ c ∈ s.sent ++ s.unsent := by
  simp only [discarded, List.map_append, List.mem_append, List.mem_map, or_assoc]

theorem discarded_of {c : ContainerId} (hc : c ∈ s'.discarded)
    (hguard : ∀ host ∈ s'.guard.elim [] Guard.expired, host ∈ s.guard.elim [] Guard.expired)
    (hdropping : s'.dropping = s.dropping := by rfl) (hsent : s'.sent = s.sent := by rfl)
    (hunsent : s'.unsent = s.unsent := by rfl) : c ∈ s.discarded := by
  rw [mem_discarded, hdropping, hsent, hunsent] at hc
  rw [mem_discarded]
  exact hc.imp (fun ⟨host, hh, he⟩ => ⟨host, hguard host hh, he⟩) id

theorem next_discarded {c : ContainerId} {caller : Spawner} (hguard : s'.guard = caller.next)
    (hc : c ∈ s'.discarded) (hdropping : s'.dropping = s.dropping := by rfl)
    (hsent : s'.sent = s.sent := by rfl) (hunsent : s'.unsent = s.unsent := by rfl) :
    c ∈ s.discarded := by
  refine discarded_of hc (fun host hh => ?_) hdropping hsent hunsent
  rw [hguard, caller.next_expired] at hh
  exact absurd hh List.not_mem_nil

theorem Effect.discarded (he : Effect cfg s a s') (hne : ∀ worker, a ≠ .workerAborted worker)
    (hcollect : s'.shutdown.hostsCollected = false) {c : ContainerId} (hc : c ∈ s'.discarded) :
    c ∈ s.discarded ∨ s.Discards cfg c a := by
  have hnone : ∀ host : HostInstance, host ∈ [] → host ∈ s.guard.elim [] Guard.expired :=
    fun _ hh => absurd hh List.not_mem_nil
  cases he with
  -- the lock changes hands, and no host is put aside
  | leaseTested
  | leaseUntested
  | leaseSpawning
  | cancelSpawn
  | portAllocated
  | created
  | started
  | hostLeased
  | returnChecking
  | hostReturned
  | reapLocked
  | scalingSpawning => exact .inl (discarded_of hc hnone)
  | portsExhausted
  | createFailed
  | createdUnanswered
  | startFailed
  | startedUnanswered
  | hostAdded => exact .inl (next_discarded rfl hc)
  | @notReady request leaseId containerId port readyResult e _ _ hready =>
    rw [mem_discarded] at hc
    rcases hc with hc | ⟨host, hh, he⟩ | hc
    · exact .inl (mem_discarded.mpr (.inl hc))
    · rcases List.mem_append.mp hh with hh | hh
      · refine .inr ⟨leaseId, containerId, port, readyResult, host, rfl, ?_,
          Option.mem_toList.mp hh, he⟩
        rcases hready with ⟨rfl, _⟩ | rfl <;> exact nofun
      · exact .inl (mem_discarded.mpr (.inr (.inl ⟨host, hh, he⟩)))
    · exact .inl (mem_discarded.mpr (.inr (.inr hc)))
  | @hostDropped host hhost =>
    rw [mem_discarded] at hc
    rcases hc with hc | ⟨other, ho, he⟩ | hc
    · exact .inl (mem_discarded.mpr (.inl hc))
    · exact .inl (mem_discarded.mpr (.inr (.inl ⟨other, List.mem_of_mem_erase ho, he⟩)))
    · rcases (dropHost_offered _ host c).mp hc with rfl | hc
      · exact .inl (mem_discarded.mpr (.inr (.inl ⟨host, hhost, rfl⟩)))
      · exact .inl (mem_discarded.mpr (.inr (.inr hc)))
  | @returnExpired leaseId host _ hstage _ hhost hexpired =>
    rw [mem_discarded] at hc
    rcases hc with hc | ⟨other, ho, rfl⟩ | hc
    · exact .inl (mem_discarded.mpr (.inl hc))
    · rcases List.mem_cons.mp ho with rfl | ho
      · exact .inr ⟨leaseId, other, hstage, hhost, rfl, hexpired⟩
      · exact .inl (mem_discarded.mpr (.inr (.inl ⟨other, ho, rfl⟩)))
    · exact .inl (mem_discarded.mpr (.inr (.inr hc)))
  | @hostGone leaseId host e hguard _ =>
    rw [mem_discarded] at hc
    rcases hc with ⟨other, ho, _⟩ | hc | hc
    · exact absurd ho List.not_mem_nil
    · exact .inl (mem_discarded.mpr (.inr (.inl hc)))
    · rcases (dropHost_offered s host c).mp hc with rfl | hc
      · exact .inr ⟨leaseId, host, hguard, rfl⟩
      · exact .inl (mem_discarded.mpr (.inr (.inr hc)))
  | @reapExpired host rest expired stillValid hguard hexpired =>
    rw [mem_discarded] at hc
    rcases hc with ⟨other, ho, rfl⟩ | hc
    · rcases List.mem_append.mp ho with ho | ho
      · refine .inl (mem_discarded.mpr (.inl ⟨other, ?_, rfl⟩))
        rw [hguard]
        exact ho
      · obtain rfl := List.mem_singleton.mp ho
        exact .inr ⟨other, rest, expired, stillValid, hguard, rfl, hexpired⟩
    · exact .inl (mem_discarded.mpr (.inr hc))
  | reapKept hguard =>
    refine .inl (discarded_of hc fun host hh => ?_)
    rw [hguard]
    exact hh
  | reapUnlocked hguard =>
    rw [mem_discarded] at hc
    rcases hc with ⟨other, ho, _⟩ | ⟨other, ho, he⟩ | hc
    · exact absurd ho List.not_mem_nil
    · rcases List.mem_append.mp ho with ho | ho
      · refine .inl (mem_discarded.mpr (.inl ⟨other, ?_, he⟩))
        rw [hguard]
        exact ho
      · exact .inl (mem_discarded.mpr (.inr (.inl ⟨other, ho, he⟩)))
    · exact .inl (mem_discarded.mpr (.inr (.inr hc)))
  | returnsTornDown
  | returnsTornDownHolding
  | scalingTornDownHolding => exact absurd rfl (hne _)
  | collectedDropped => cases hcollect
  | _ => exact .inl hc

theorem discarded_run {tr : List (HostPoolManager × Action)} (h : Run (system cfg) tr s)
    (hbefore : s.shutdown.workersAborted = false) :
    ∀ c ∈ s.discarded, ∃ p ∈ tr, p.1.Discards cfg c p.2 := by
  induction h with
  | start => exact fun c hc => absurd hc List.not_mem_nil
  | @next tr s s' a hr hs ih =>
    have he := effect_of_step hs
    obtain ⟨hb, hne⟩ := he.before_abort hbefore
    intro c hc
    rcases he.discarded hne (ShutdownStage.before_collect_of_abort hbefore) hc with hc | hd
    · obtain ⟨p, hp, hd⟩ := ih hb c hc
      exact ⟨p, List.mem_cons_of_mem _ hp, hd⟩
    · exact ⟨(s, a), List.mem_cons_self, hd⟩

def Pipelined (s : HostPoolManager) : Prop :=
  s.sent.Perm (s.stopped ++ (s.stopFailed ++ s.pending))

theorem pipelined_dropHost (h : s.Pipelined) (host : HostInstance) :
    (s.dropHost host).Pipelined := by
  unfold Pipelined pending at h ⊢
  cases ha : s.cleanup.accepts with
  | true =>
    have hmsgs := (Channel.offer_accepted ha host.containerId).1
    have hp := h.append_right [host.containerId]
    simpa only [dropHost, ha, if_true, hmsgs, List.append_assoc] using hp
  | false =>
    simpa only [dropHost, ha, Bool.false_eq_true, if_false, Channel.offer_refused ha] using h

theorem Effect.pipelined (he : Effect cfg s a s') (hne : ∀ worker, a ≠ .workerAborted worker)
    (h : s.Pipelined) : s'.Pipelined := by
  cases he with
  | hostDropped
  | hostGone
  | collectedDropped => exact pipelined_dropHost h _
  | cleanupReceived _ hstage hrecv =>
    simpa only [Pipelined, pending, hstage, (Channel.recv_eq_some hrecv).1, CleanupStage.current,
      Option.toList_none, Option.toList_some, List.nil_append, List.singleton_append] using h
  | cleanupStopping hstage =>
    simpa only [Pipelined, pending, hstage, CleanupStage.current] using h
  | cleanupGone hstage
  | cleanupStopped hstage =>
    simp only [Pipelined, pending, hstage, CleanupStage.current, Option.toList_none,
      Option.toList_some, List.nil_append, List.singleton_append] at h ⊢
    refine h.trans ?_
    rw [List.append_assoc]
    exact (List.perm_middle.append_left _)
  | cleanupUnknown hstage
  | cleanupFailed hstage =>
    simpa only [Pipelined, pending, hstage, CleanupStage.current, Option.toList_none,
      Option.toList_some, List.nil_append, List.append_assoc] using h
  | returnsTornDownHolding
  | cleanupTornDown => exact absurd rfl (hne _)
  | _ => exact h

theorem pipelined_run {tr : List (HostPoolManager × Action)} (h : Run (system cfg) tr s)
    (hbefore : s.shutdown.workersAborted = false) : s.Pipelined := by
  have key := h.invariant (I := fun s => s.shutdown.workersAborted = false → s.Pipelined)
    (fun _ => List.Perm.refl _) fun _ hi hs hb => by
      have he := effect_of_step hs
      obtain ⟨hb, hne⟩ := he.before_abort hb
      exact he.pipelined hne (hi hb)
  exact key hbefore

structure CleanupSafe (cfg : PoolConfig) (tr : List (HostPoolManager × Action))
    (s : HostPoolManager) : Prop where
  notInUse : ∀ c ∈ s.pending, (∀ host ∈ s.state.availableHosts, host.containerId ≠ c) ∧
    (∀ host ∈ Table.values s.state.leasedHosts, host.containerId ≠ c) ∧
    ∀ lease ∈ s.leases, lease.containerId ≠ c
  once : (s.sent ++ s.unsent).Nodup
  reason : ∀ c ∈ s.sent, ∃ p ∈ tr, p.1.Discards cfg c p.2

theorem cleanup_safe {tr : List (HostPoolManager × Action)} (h : Run (system cfg) tr s)
    (hbefore : s.shutdown.workersAborted = false) : CleanupSafe cfg tr s := by
  have hnodup := (List.nodup_append.mp (containers_nodup (sound_run h))).2.1
  obtain ⟨_, honce, hdisjoint⟩ := List.nodup_append.mp hnodup
  have hpipelined := pipelined_run h hbefore
  have hsent : ∀ c ∈ s.pending, c ∈ s.sent ++ s.unsent := fun c hc =>
    List.mem_append_left _ (hpipelined.mem_iff.mpr
      (List.mem_append_right _ (List.mem_append_right _ hc)))
  have hhosts : ∀ c ∈ s.pending, ∀ host ∈ s.hosts, host.containerId ≠ c := fun c hc host hh =>
    hdisjoint _ (List.mem_map_of_mem hh) c (hsent c hc)
  refine ⟨fun c hc => ⟨fun host hh => ?_, fun host hh => ?_, fun lease hl => ?_⟩, honce, ?_⟩
  · exact hhosts c hc host (List.mem_append_left _ hh)
  · exact hhosts c hc host (List.mem_append_right _ (List.mem_append_left _ hh))
  · have hcollect := ShutdownStage.before_collect_of_abort hbefore
    obtain ⟨host, hhost, hb⟩ := entry_of_ticket h hcollect (List.mem_append_right _ hl)
    have hv : host ∈ Table.values s.state.leasedHosts := Table.mem_values.mpr ⟨_, hhost⟩
    exact hb.containerId ▸ hhosts c hc host (List.mem_append_right _ (List.mem_append_left _ hv))
  · intro c hc
    exact discarded_run h hbefore c (List.mem_append_right _ (List.mem_append_left _ hc))

theorem cleanup_safe_after_expiry :
    ∃ tr s, Run (system GatewayConfig.small.poolConfig) tr s ∧ s.pending = ["c1"] ∧
      CleanupSafe GatewayConfig.small.poolConfig tr s := by
  obtain ⟨tr, s, ht, hstage, hpending⟩ : ∃ tr s,
      (system GatewayConfig.small.poolConfig).trace [] (new GatewayConfig.small.poolConfig)
        (leaseSpawned 0 1 "c1" 8081 ++
          [.dropLease ⟨"c1", 8081, 1⟩, .recvReturn, .tick 31000000000, .returnHostLocked,
          .dropHost ⟨"c1", ⟨8081⟩, 0, true⟩, .recvCleanup]) = some (tr, s) ∧
      s.shutdown.workersAborted = false ∧ s.pending = ["c1"] := ⟨_, _, rfl, rfl, rfl⟩
  have hr := Run.start.trace ht
  exact ⟨tr, s, hr, hpending, cleanup_safe hr hstage⟩

end HostPoolManager

end DockerizedLambda
