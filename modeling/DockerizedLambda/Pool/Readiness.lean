import DockerizedLambda.Pool.Exclusive
import DockerizedLambda.Pool.Spawn

/-! Which hosts have passed a readiness check. The flag is read under one acquisition of
the lock and set under another one; in between the entry belongs to the call that waits. -/

namespace DockerizedLambda

open Transition

theorem probe_of_ready {attempt : Nat} {probe : Probe}
    (h : readyAttempt attempt (healthCheck probe) = some (.ok true)) : probe = .response true := by
  cases probe with
  | response isSuccess =>
    cases isSuccess with
    | true => rfl
    | false => simp [healthCheck, readyAttempt] at h
  | connectionError
  | timeout => simp [healthCheck, readyAttempt] at h

namespace HostPoolManager

def passedCheck (_ : HostPoolManager) : Action → Option (ContainerId × UInt16)
  | .healthChecked ⟨_, .readyWait _ containerId port _⟩ (.response true) => some (containerId, port)
  | _ => none

def scaledHost (s : HostPoolManager) (a : Action) : Option HostInstance :=
  match s.guard, spawnResult s a with
  | some (.spawning (.runScalingPolicy _) _), some (.ok host) => some host
  | _, _ => none

def pushedBack (s : HostPoolManager) : Action → Option HostInstance
  | .containerInfo (.ok _) =>
    match s.guard with
    | some (.returnHostInternal _ host) => some host
    | _ => none
  | _ => none

def Checked (tr : List (HostPoolManager × Action)) (containerId : ContainerId) (port : UInt16) :
    Prop :=
  (containerId, port) ∈ outputs passedCheck tr

def NeverLeased (tr : List (HostPoolManager × Action)) (containerId : ContainerId) : Prop :=
  ∀ p ∈ tr, ∀ leaseId host, p.1.state.leasedHosts.lookup leaseId = some host →
    host.containerId ≠ containerId

def Idle (s : HostPoolManager) (host : HostInstance) : Prop :=
  host ∈ s.state.availableHosts ∨ ∃ rest expired stillValid,
    s.guard = some (.reapExpiredHosts rest expired stillValid) ∧ host ∈ rest ++ stillValid

def settled (s : HostPoolManager) : List Uuid :=
  s.leases.map HostLease.leaseId ++ (s.leaseRelease.messages ++ s.returns.awaited.toList)

variable {cfg : PoolConfig} {s s' : HostPoolManager} {a : Action}
  {tr : List (HostPoolManager × Action)}

theorem Checked.later {c : ContainerId} {port : UInt16} (h : Checked tr c port) :
    Checked ((s, a) :: tr) c port := List.mem_append_left _ h

theorem mem_settled {k : Uuid} :
    k ∈ s.settled ↔ (∃ lease ∈ s.leases, lease.leaseId = k) ∨ k ∈ s.leaseRelease.messages ∨
      s.returns = .lockWait k := by
  simp only [settled, List.mem_append, List.mem_map, Option.mem_toList, awaited_eq_some]

theorem settled_owners {k : Uuid} (h : k ∈ s.settled) : k ∈ s.owners := by
  refine mem_owners.mpr ((mem_settled.mp h).imp_left ?_)
  rintro ⟨lease, hl, rfl⟩
  exact ⟨lease, List.mem_append_right _ hl, rfl⟩

theorem Effect.idle_cases (he : Effect cfg s a s') {host : HostInstance} (hh : s'.Idle host) :
    s.Idle host ∨ pushedBack s a = some host ∨ scaledHost s a = some host := by
  rcases hh with hh | ⟨rest, expired, stillValid, hg, hh⟩
  · cases he with
    | leaseTested _ _ _ havail
    | leaseUntested _ _ _ havail => exact .inl (.inl (havail ▸ List.mem_cons_of_mem _ hh))
    | hostAdded hguard =>
      rcases List.mem_append.mp hh with hh | hh
      · exact .inl (.inl hh)
      · obtain rfl := List.mem_singleton.mp hh
        exact .inr (.inr (by simp only [scaledHost, spawnResult, hguard]))
    | hostReturned hguard =>
      rcases List.mem_append.mp hh with hh | hh
      · exact .inl (.inl hh)
      · obtain rfl := List.mem_singleton.mp hh
        exact .inr (.inl (by simp only [pushedBack, hguard]))
    | reapLocked => exact absurd hh List.not_mem_nil
    | reapUnlocked hguard => exact .inl (.inr ⟨_, _, _, hguard, hh⟩)
    | collected => exact absurd hh List.not_mem_nil
    | _ => exact .inl (.inl hh)
  · cases he with
    | reapLocked =>
      obtain ⟨rfl, _, rfl⟩ := Guard.reapExpiredHosts.inj (Option.some.inj hg)
      rw [List.append_nil] at hh
      exact .inl (.inl hh)
    | reapExpired hguard =>
      obtain ⟨rfl, _, rfl⟩ := Guard.reapExpiredHosts.inj (Option.some.inj hg)
      exact .inl (.inr ⟨_, _, _, hguard, List.mem_cons_of_mem _ hh⟩)
    | @reapKept tested _ _ _ hguard =>
      obtain ⟨rfl, _, rfl⟩ := Guard.reapExpiredHosts.inj (Option.some.inj hg)
      refine .inl (.inr ⟨_, _, _, hguard, ?_⟩)
      simp only [List.mem_append, List.mem_cons, List.not_mem_nil] at hh ⊢
      tauto
    | portsExhausted
    | createFailed
    | createdUnanswered
    | startFailed
    | startedUnanswered
    | hostAdded => exact absurd hg (Spawner.next_ne_reaping _ _ _ _)
    | _ => first | exact .inl (.inr ⟨_, _, _, hg, hh⟩) | cases hg

theorem Effect.entry_cases (he : Effect cfg s a s') {k : Uuid} {host : HostInstance}
    (hk : s'.state.leasedHosts.lookup k = some host) :
    s.state.leasedHosts.lookup k = some host ∨
    k ∉ s.issued ∧ (s.Idle host ∨ host.healthCheckTested = false) ∨
    ∃ request containerId port entry,
      ⟨request, .relockWait k containerId port (.ok true)⟩ ∈ s.calls ∧
      s.state.leasedHosts.lookup k = some entry ∧
      host = { entry with healthCheckTested := true } := by
  cases he with
  | leaseTested _ _ hfresh havail
  | leaseUntested _ _ hfresh havail =>
    rcases Table.lookup_insert_cases hk with ⟨rfl, rfl⟩ | ⟨_, hk⟩
    · exact .inr (.inl ⟨hfresh, .inl (.inl (havail ▸ List.mem_cons_self))⟩)
    · exact .inl hk
  | hostLeased _ hfresh =>
    rcases Table.lookup_insert_cases hk with ⟨rfl, rfl⟩ | ⟨_, hk⟩
    · exact .inr (.inl ⟨hfresh, .inr rfl⟩)
    · exact .inl hk
  | readyConfirmed hcall _ hhost =>
    rcases Table.lookup_insert_cases hk with ⟨rfl, rfl⟩ | ⟨_, hk⟩
    · exact .inr (.inr ⟨_, _, _, _, hcall, hhost, rfl⟩)
    · exact .inl hk
  | notReady
  | returnExpired
  | returnChecking => exact .inl (Table.lookup_of_erase hk)
  | collected => cases hk
  | _ => exact .inl hk

theorem Effect.returning_cases (he : Effect cfg s a s') {k : Uuid} {host : HostInstance}
    (hg : s'.guard = some (.returnHostInternal k host)) :
    s.guard = some (.returnHostInternal k host) ∨
      k ∈ s.settled ∧ s.state.leasedHosts.lookup k = some host := by
  cases he with
  | returnChecking _ hstage _ hhost =>
    obtain ⟨rfl, rfl⟩ := Guard.returnHostInternal.inj (Option.some.inj hg)
    exact .inr ⟨mem_settled.mpr (.inr (.inr hstage)), hhost⟩
  | portsExhausted
  | createFailed
  | createdUnanswered
  | startFailed
  | startedUnanswered
  | hostAdded => exact absurd hg (Spawner.next_ne_returning _ _ _)
  | _ => first | exact .inl hg | cases hg

theorem Effect.settled_cases (he : Effect cfg s a s') {k : Uuid} (hk : k ∈ s'.settled) :
    k ∈ s.settled ∨
      ∀ host, s'.state.leasedHosts.lookup k = some host → host.healthCheckTested = true := by
  rw [mem_settled] at hk ⊢
  cases he with
  | leaseTested _ _ _ _ htested =>
    refine hk.elim (fun ⟨lease, hl, hid⟩ => ?_) fun hk => .inl (.inr hk)
    rcases List.mem_cons.mp hl with rfl | hl
    · refine .inr fun host hh => ?_
      obtain rfl := hid
      obtain rfl := Option.some.inj ((AList.lookup_insert _).symm.trans hh)
      exact htested
    · exact .inl (.inl ⟨lease, hl, hid⟩)
  | readyConfirmed =>
    refine hk.elim (fun ⟨lease, hl, hid⟩ => ?_) fun hk => .inl (.inr hk)
    rcases List.mem_cons.mp hl with rfl | hl
    · refine .inr fun host hh => ?_
      obtain rfl := hid
      obtain rfl := Option.some.inj ((AList.lookup_insert _).symm.trans hh)
      rfl
    · exact .inl (.inl ⟨lease, hl, hid⟩)
  | @leaseDropped lease hlease =>
    rcases hk with ⟨other, hl, hid⟩ | hk | hk
    · exact .inl (.inl ⟨other, List.mem_of_mem_erase hl, hid⟩)
    · cases haccepts : s.leaseRelease.accepts with
      | true =>
        rw [(Channel.offer_accepted haccepts _).1] at hk
        rcases List.mem_append.mp hk with hk | hk
        · exact .inl (.inr (.inl hk))
        · exact .inl (.inl ⟨lease, hlease, (List.mem_singleton.mp hk).symm⟩)
      | false =>
        rw [Channel.offer_refused haccepts] at hk
        exact .inl (.inr (.inl hk))
    · exact .inl (.inr (.inr hk))
  | returnReceived _ _ hrecv =>
    have hmessages := (Channel.recv_eq_some hrecv).1
    rcases hk with hk | hk | hk
    · exact .inl (.inl hk)
    · exact .inl (.inr (.inl (hmessages ▸ List.mem_cons_of_mem _ hk)))
    · obtain rfl := ReturnStage.lockWait.inj hk
      exact .inl (.inr (.inl (hmessages ▸ List.mem_cons_self)))
  | returnExpired
  | returnChecking
  | returnInvalid
  | hostReturned
  | hostGone => exact .inl (hk.imp_right fun hk => hk.elim .inl nofun)
  | returnsTornDown
  | returnsTornDownHolding => exact .inl (hk.imp_right fun hk => hk.elim nofun nofun)
  | _ => exact .inl hk

theorem Effect.confirmed_cases (he : Effect cfg s a s') {request : Nat} {k : Uuid}
    {containerId : ContainerId} {port : UInt16}
    (hcall : ⟨request, .relockWait k containerId port (.ok true)⟩ ∈ s'.calls) :
    ⟨request, .relockWait k containerId port (.ok true)⟩ ∈ s.calls ∨
      passedCheck s a = some (containerId, port) := by
  -- a call comes out of its readiness check with success only after a check that passed
  cases he with
  | leaseAsked
  | hostLeased => exact .inl ((List.mem_cons.mp hcall).resolve_left nofun)
  | leaseUntested
  | readyAgain =>
    exact .inl (List.mem_of_mem_erase ((List.mem_cons.mp hcall).resolve_left nofun))
  | @readyDone request attempt leaseId c p probe readyResult _ hready =>
    rcases List.mem_cons.mp hcall with he | hcall
    · obtain ⟨_, hstage⟩ := LeaseCall.mk.inj he
      obtain ⟨rfl, rfl, rfl, rfl⟩ := LeaseStage.relockWait.inj hstage
      obtain rfl := probe_of_ready hready
      exact .inr rfl
    · exact .inl (List.mem_of_mem_erase hcall)
  | leaseTested
  | leaseFull
  | leaseSpawning
  | readyConfirmed
  | readyInvalid
  | notReady
  | cancelLease => exact .inl (List.mem_of_mem_erase hcall)
  | _ => exact .inl hcall

theorem Effect.returned_cases (he : Effect cfg s a s') {request : Nat} {lease : HostLease}
    (hr : (request, .ok lease) ∈ s'.returned) :
    (request, .ok lease) ∈ s.returned ∨
    (∃ host, s.Idle host ∧ host.healthCheckTested = true ∧ host.Backs lease) ∨
    ⟨request, .relockWait lease.leaseId lease.containerId lease.port (.ok true)⟩ ∈ s.calls := by
  cases he with
  | @leaseTested _ leaseId host _ _ _ _ havail htested =>
    rcases List.mem_cons.mp hr with he | hr
    · obtain rfl := Except.ok.inj (Prod.mk.inj he).2
      exact .inr (.inl ⟨host, .inl (havail ▸ List.mem_cons_self), htested, rfl, rfl⟩)
    · exact .inl hr
  | readyConfirmed hcall =>
    rcases List.mem_cons.mp hr with he | hr
    · obtain ⟨rfl, hlease⟩ := Prod.mk.inj he
      obtain rfl := Except.ok.inj hlease
      exact .inr (.inr hcall)
    · exact .inl hr
  | leaseRefused
  | leaseFull
  | readyInvalid
  | notReady => exact .inl ((List.mem_cons.mp hr).resolve_left nofun)
  | @portsExhausted caller
  | @createFailed caller
  | @createdUnanswered caller
  | @startFailed caller
  | @startedUnanswered caller =>
    cases caller with
    | leaseHost => exact .inl ((List.mem_cons.mp hr).resolve_left nofun)
    | runScalingPolicy => exact .inl hr
  | _ => exact .inl hr

structure Ready (tr : List (HostPoolManager × Action)) (s : HostPoolManager) : Prop where
  idle : ∀ host, s.Idle host → host.healthCheckTested = true →
    Checked tr host.containerId host.allocatedPort.port
  unchecked : ∀ host, s.Idle host → host.healthCheckTested = false →
    host ∈ outputs scaledHost tr ∧ NeverLeased tr host.containerId
  entered : ∀ leaseId host, s.state.leasedHosts.lookup leaseId = some host →
    host.healthCheckTested = true → Checked tr host.containerId host.allocatedPort.port
  settled : ∀ leaseId ∈ s.settled, ∀ host, s.state.leasedHosts.lookup leaseId = some host →
    host.healthCheckTested = true
  returning : ∀ leaseId host, s.guard = some (.returnHostInternal leaseId host) →
    host.healthCheckTested = true ∧ Checked tr host.containerId host.allocatedPort.port
  confirmed : ∀ request leaseId containerId port,
    ⟨request, .relockWait leaseId containerId port (.ok true)⟩ ∈ s.calls →
      Checked tr containerId port
  returned : ∀ request lease, (request, .ok lease) ∈ s.returned →
    Checked tr lease.containerId lease.port

theorem ready_new : Ready [] (new cfg) where
  idle host hh := by
    rcases hh with hh | ⟨_, _, _, hg, _⟩
    · exact absurd hh List.not_mem_nil
    · cases hg
  unchecked host hh := by
    rcases hh with hh | ⟨_, _, _, hg, _⟩
    · exact absurd hh List.not_mem_nil
    · cases hg
  entered _ _ h := by cases h
  settled _ hk := absurd hk List.not_mem_nil
  returning _ _ h := by cases h
  confirmed _ _ _ _ h := absurd h List.not_mem_nil
  returned _ _ h := absurd h List.not_mem_nil

theorem Effect.spawned_mono (he : Effect cfg s a s') {c : ContainerId} (hc : c ∈ s.spawned) :
    c ∈ s'.spawned := by
  cases he with
  | hostLeased
  | hostAdded => exact List.mem_cons_of_mem _ hc
  | _ => exact hc

section Sound

variable {portRange : PortRange} {k : Uuid} {host leased : HostInstance}

theorem spawned_of_leased (hs : s.resources.Sound portRange)
    (hk : s.state.leasedHosts.lookup k = some leased) : leased.containerId ∈ s.spawned := by
  have hv : leased ∈ Table.values s.state.leasedHosts := Table.mem_values.mpr ⟨k, hk⟩
  have hhosts : leased ∈ s.hosts := List.mem_append_right _ (List.mem_append_left _ hv)
  apply (spawned_perm hs).mem_iff.mpr
  exact List.mem_append_left _ (List.mem_map_of_mem hhosts)

theorem idle_not_leased (hs : s.resources.Sound portRange) (hh : s.Idle host)
    (hk : s.state.leasedHosts.lookup k = some leased) :
    leased.containerId ≠ host.containerId := by
  have hv : leased ∈ Table.values s.state.leasedHosts := Table.mem_values.mpr ⟨k, hk⟩
  have hnodup : (s.hosts.map HostInstance.containerId).Nodup :=
    (List.nodup_append.mp (containers_nodup hs)).2.1.of_append_left
  simp only [hosts, List.map_append] at hnodup
  obtain ⟨_, hrest, havail⟩ := List.nodup_append.mp hnodup
  obtain ⟨_, _, hleased⟩ := List.nodup_append.mp hrest
  rcases hh with hh | ⟨rest, expired, stillValid, hg, hh⟩
  · refine (havail _ (List.mem_map_of_mem hh) _ ?_).symm
    exact List.mem_append_left _ (List.mem_map_of_mem hv)
  · have hguard : host ∈ s.guard.elim [] Guard.hosts := by
      rw [hg]
      simp only [Option.elim_some, Guard.hosts, List.mem_append] at hh ⊢
      tauto
    refine hleased _ (List.mem_map_of_mem hv) _ ?_
    exact List.mem_append_left _ (List.mem_map_of_mem hguard)

theorem spawning_not_spawned (hs : s.resources.Sound portRange) {n : Nat} {port : AllocatedPort}
    {c : ContainerId} (hg : s.guard = some (.spawning (.runScalingPolicy n) (.inspect port c))) :
    c ∉ s.spawned := by
  -- a container that is being spawned has not been leased yet
  have hspawning : s.resources.spawningIds = [c] := by
    rw [Resources.spawningIds, spawning_of_guard hg]
    rfl
  have hnodup := hs.distinct
  rw [hspawning] at hnodup
  exact (List.nodup_cons.mp hnodup).1

end Sound

theorem leased_before_run (h : Run (system cfg) tr s) : ∀ p ∈ tr, ∀ k host,
    p.1.state.leasedHosts.lookup k = some host → host.containerId ∈ s.spawned := by
  induction h with
  | start => exact fun p hp => absurd hp List.not_mem_nil
  | @next tr s s' a hr hs ih =>
    have he := effect_of_step hs
    intro p hp k host hk
    rcases List.mem_cons.mp hp with rfl | hp
    · exact he.spawned_mono (spawned_of_leased (sound_run hr) hk)
    · exact he.spawned_mono (ih p hp k host hk)

theorem NeverLeased.cons {c : ContainerId} (h : NeverLeased tr c)
    (hs : ∀ k host, s.state.leasedHosts.lookup k = some host → host.containerId ≠ c) :
    NeverLeased ((s, a) :: tr) c := List.forall_mem_cons.mpr ⟨hs, h⟩

theorem scaledHost_eq_some {host : HostInstance} (h : scaledHost s a = some host) :
    host.healthCheckTested = false ∧ ∃ n port,
      s.guard = some (.spawning (.runScalingPolicy n) (.inspect port host.containerId)) := by
  unfold scaledHost at h
  split at h
  next n spawn created hg hresult =>
    obtain rfl := Option.some.inj h
    obtain ⟨caller, port, hguard, hnew⟩ := spawnResult_eq_ok hresult
    obtain ⟨rfl, rfl⟩ := Guard.spawning.inj (Option.some.inj (hg.symm.trans hguard))
    exact ⟨hnew ▸ rfl, n, port, hguard⟩
  next => cases h

theorem pushedBack_eq_some {host : HostInstance} (h : pushedBack s a = some host) :
    ∃ leaseId, s.guard = some (.returnHostInternal leaseId host) := by
  unfold pushedBack at h
  split at h
  · split at h
    next hg =>
      obtain rfl := Option.some.inj h
      exact ⟨_, hg⟩
    next => cases h
  · cases h

theorem confirmed_entry (h : Run (system cfg) tr s) {request : Nat} {k : Uuid} {c : ContainerId}
    {port : UInt16} {entry : HostInstance}
    (hcall : ⟨request, .relockWait k c port (.ok true)⟩ ∈ s.calls)
    (hk : s.state.leasedHosts.lookup k = some entry) :
    entry.containerId = c ∧ entry.allocatedPort.port = port := by
  have hticket : (⟨c, port, k⟩ : HostLease) ∈ s.tickets := mem_tickets.mpr (.inl ⟨_, hcall, rfl⟩)
  rcases (exclusive_run h).placed _ hticket with ⟨host, hl, hb⟩ | ⟨hnone, _⟩
  · obtain rfl := Option.some.inj (hk.symm.trans hl)
    exact ⟨hb.containerId, hb.port⟩
  · exact absurd (hk.symm.trans hnone) nofun

theorem Ready.entry (hi : Ready tr s) (h : Run (system cfg) tr s) (he : Effect cfg s a s')
    {k : Uuid} {host : HostInstance} (hk : s'.state.leasedHosts.lookup k = some host)
    (htested : host.healthCheckTested = true) :
    Checked tr host.containerId host.allocatedPort.port := by
  rcases he.entry_cases hk with hold | ⟨_, hidle | hnew⟩ | ⟨_, c, port, entry, hcall, hentry, rfl⟩
  · exact hi.entered k host hold htested
  · exact hi.idle host hidle htested
  · exact absurd (htested.symm.trans hnew) nofun
  · obtain ⟨hc, hp⟩ := confirmed_entry h hcall hentry
    change Checked tr entry.containerId entry.allocatedPort.port
    rw [hc, hp]
    exact hi.confirmed _ _ _ _ hcall

theorem Ready.step (hi : Ready tr s) (h : Run (system cfg) tr s) (he : Effect cfg s a s') :
    Ready ((s, a) :: tr) s' := by
  have hs := sound_run h
  refine ⟨?_, ?_, ?_, ?_, ?_, ?_, ?_⟩
  · intro host hh htested
    rcases he.idle_cases hh with hh | hh | hh
    · exact (hi.idle host hh htested).later
    · obtain ⟨k, hg⟩ := pushedBack_eq_some hh
      exact (hi.returning k host hg).2.later
    · exact absurd (htested.symm.trans (scaledHost_eq_some hh).1) nofun
  · intro host hh hunchecked
    rcases he.idle_cases hh with hh | hh | hh
    · obtain ⟨hscaled, hnever⟩ := hi.unchecked host hh hunchecked
      exact ⟨List.mem_append_left _ hscaled, hnever.cons fun _ _ => idle_not_leased hs hh⟩
    · obtain ⟨k, hg⟩ := pushedBack_eq_some hh
      exact absurd (hunchecked.symm.trans (hi.returning k host hg).1) nofun
    · obtain ⟨_, n, port, hg⟩ := scaledHost_eq_some hh
      have hnew := spawning_not_spawned hs hg
      have hnever : NeverLeased tr host.containerId := fun p hp k leased hk he =>
        hnew (he ▸ leased_before_run h p hp k leased hk)
      have hscaled : host ∈ outputs scaledHost ((s, a) :: tr) :=
        mem_outputs.mpr ⟨(s, a), List.mem_cons_self, hh⟩
      refine ⟨hscaled, hnever.cons fun k leased hk he => ?_⟩
      exact hnew (he ▸ spawned_of_leased hs hk)
  · intro k host hk htested
    exact (hi.entry h he hk htested).later
  · intro k hk host hl
    rcases he.settled_cases hk with hk | htested
    · rcases he.entry_cases hl with hold | ⟨hnew, _⟩ | ⟨_, _, _, _, _, _, rfl⟩
      · exact hi.settled k hk host hold
      · exact absurd ((registry_sound_run h).ownersDrawn k (settled_owners hk)) hnew
      · rfl
    · exact htested host hl
  · intro k host hg
    rcases he.returning_cases hg with hg | ⟨hk, hl⟩
    · exact (hi.returning k host hg).imp_right Checked.later
    · have htested := hi.settled k hk host hl
      exact ⟨htested, (hi.entered k host hl htested).later⟩
  · intro request k c port hcall
    rcases he.confirmed_cases hcall with hcall | hpassed
    · exact (hi.confirmed request k c port hcall).later
    · exact mem_outputs.mpr ⟨(s, a), List.mem_cons_self, hpassed⟩
  · intro request lease hr
    rcases he.returned_cases hr with hr | ⟨host, hh, htested, hb⟩ | hcall
    · exact (hi.returned request lease hr).later
    · have hchecked := hi.idle host hh htested
      rw [hb.containerId, hb.port] at hchecked
      exact hchecked.later
    · exact (hi.confirmed _ _ _ _ hcall).later

theorem ready_run (h : Run (system cfg) tr s) : Ready tr s := by
  induction h with
  | start => exact ready_new
  | next hr hs ih => exact ih.step hr (effect_of_step hs)

theorem pushedBack_run (h : Run (system cfg) tr s) :
    ∀ host ∈ outputs pushedBack tr, host.healthCheckTested = true := by
  induction h with
  | start => exact fun host hh => absurd hh List.not_mem_nil
  | next hr hs ih =>
    intro host hh
    rcases List.mem_append.mp hh with hh | hh
    · exact ih host hh
    · obtain ⟨leaseId, hg⟩ := pushedBack_eq_some (Option.mem_toList.mp hh)
      exact ((ready_run hr).returning leaseId host hg).1

theorem separated_run (h : Run (system cfg) tr s) : ∀ k ∈ s.owners,
    k ∈ s.state.leasedHosts ∨ ∃ v, (v, .collectAllHosts) ∈ tr ∧ k ∈ v.state.leasedHosts := by
  induction h with
  | start => exact fun k hk => absurd hk List.not_mem_nil
  | @next tr s s' a hr hs ih =>
    have he := effect_of_step hs
    have hold : ∀ k ∈ s.owners, k ∉ s.state.leasedHosts →
        ∃ v, (v, .collectAllHosts) ∈ (s, a) :: tr ∧ k ∈ v.state.leasedHosts := fun k hk hn => by
      obtain ⟨v, hv, hentry⟩ := (ih k hk).resolve_left hn
      exact ⟨v, List.mem_cons_of_mem _ hv, hentry⟩
    intro k hk
    rcases he.registry (wellFormed_run hr) with hm | ⟨_, rest, hle, hreg⟩ | ⟨rfl, hreg⟩
    · exact (hm.owner_kept (registry_sound_run hr) hk).imp_right fun hn => hold k hn.1 hn.2
    · have howners : (s'.owners : Multiset Uuid) = rest := congrArg Registry.owners hreg
      have hentries : k ∈ s'.state.leasedHosts ↔ k ∈ s.state.leasedHosts :=
        Set.ext_iff.mp (congrArg Registry.entries hreg) k
      rw [hentries]
      refine or_iff_not_imp_left.mpr (hold k (Multiset.mem_of_le hle ?_))
      exact howners ▸ hk
    · have howners : (s'.owners : Multiset Uuid) = s.owners := congrArg Registry.owners hreg
      have hkey : k ∈ s.owners := Multiset.mem_coe.mp (howners ▸ hk)
      by_cases hentry : k ∈ s.state.leasedHosts
      · exact .inr ⟨s, List.mem_cons_self, hentry⟩
      · exact .inr (hold k hkey hentry)

structure ReadinessChecked (tr : List (HostPoolManager × Action)) (s : HostPoolManager) :
    Prop where
  returned : ∀ request lease, (request, .ok lease) ∈ s.returned →
    Checked tr lease.containerId lease.port
  leased : ∀ lease ∈ s.leases, ∃ host,
    s.state.leasedHosts.lookup lease.leaseId = some host ∧ host.healthCheckTested = true
  pushedBack : ∀ host ∈ outputs pushedBack tr, host.healthCheckTested = true
  unchecked : ∀ host ∈ s.state.availableHosts, host.healthCheckTested = false →
    host ∈ outputs scaledHost tr ∧ NeverLeased tr host.containerId ∧
      ∀ leaseId leased, s.state.leasedHosts.lookup leaseId = some leased →
        leased.containerId ≠ host.containerId

/-- Where the latest step has raised `InvalidLease` after a successful readiness check, the
hosts were collected after the entry of the call's host and before this step. -/
def InvalidLeaseExplained (tr : List (HostPoolManager × Action)) (s : HostPoolManager) : Prop :=
  ∀ earlier u request leaseId containerId port,
    tr = (u, .leaseHostRelocked ⟨request, .relockWait leaseId containerId port (.ok true)⟩) ::
      earlier →
    s.returned = (request, .error (.invalidLease leaseId)) :: u.returned →
      ∃ later v sooner, earlier = later ++ (v, .collectAllHosts) :: sooner ∧
        leaseId ∈ v.state.leasedHosts

theorem invalid_lease_explained (h : Run (system cfg) tr s) : InvalidLeaseExplained tr s := by
  rintro earlier u request k c port rfl hreturned
  cases h with
  | next hr hs =>
    have he : Effect cfg u
        (.leaseHostRelocked ⟨request, .relockWait k c port (.ok true)⟩) s := effect_of_step hs
    cases he with
    | readyConfirmed => exact absurd (Prod.mk.inj (List.cons.inj hreturned).1).2 nofun
    | readyInvalid hcall _ hnone =>
      have howner : k ∈ u.owners :=
        mem_owners.mpr (.inl ⟨⟨c, port, k⟩, mem_tickets.mpr (.inl ⟨_, hcall, rfl⟩), rfl⟩)
      obtain ⟨v, hv, hentry⟩ :=
        (separated_run hr k howner).resolve_left (Table.notMem_of_lookup hnone)
      obtain ⟨later, sooner, rfl⟩ := List.append_of_mem hv
      exact ⟨later, v, sooner, rfl, hentry⟩
    | notReady _ _ hready => exact absurd hready (by simp)

theorem served_hosts_checked (h : Run (system cfg) tr s) :
    (s.shutdown.hostsCollected = false → ReadinessChecked tr s) ∧ InvalidLeaseExplained tr s := by
  refine ⟨fun hbefore => ⟨(ready_run h).returned, ?_, pushedBack_run h, ?_⟩,
    invalid_lease_explained h⟩
  · intro lease hl
    obtain ⟨host, hhost, _⟩ := entry_of_ticket h hbefore (mem_tickets.mpr (.inr hl))
    have hk : lease.leaseId ∈ s.settled := mem_settled.mpr (.inl ⟨lease, hl, rfl⟩)
    exact ⟨host, hhost, (ready_run h).settled _ hk host hhost⟩
  · intro host hh hunchecked
    obtain ⟨hscaled, hnever⟩ := (ready_run h).unchecked host (.inl hh) hunchecked
    exact ⟨hscaled, hnever, fun _ _ => idle_not_leased (sound_run h) (.inl hh)⟩

theorem served_hosts_checked_in_turn :
    (∃ tr s, Run (system { GatewayConfig.small with minInstances := 2 }.poolConfig) tr s ∧
      s.state.availableHosts.map HostInstance.healthCheckTested = [false, true] ∧
      ReadinessChecked tr s) ∧
    ∃ tr s, Run (system GatewayConfig.small.poolConfig) tr s ∧
      s.returned = [(0, .error (.invalidLease 1))] ∧ InvalidLeaseExplained tr s := by
  constructor
  · obtain ⟨tr, s, ht, hstage, hidle⟩ : ∃ tr s,
        (system { GatewayConfig.small with minInstances := 2 }.poolConfig).trace []
          (new { GatewayConfig.small with minInstances := 2 }.poolConfig)
          [.lockScaling, .allocatePort, .createContainer (.ok "c1"), .startContainer (.ok ()),
            .inspectContainer (.ok ()) 0, .allocatePort, .createContainer (.ok "c2"),
            .startContainer (.ok ()), .inspectContainer (.ok ()) 0,
            .leaseHost 0, .leaseHostLocked 0 1,
            .healthChecked ⟨0, .readyWait 1 "c1" 8081 1⟩ (.response true),
            .leaseHostRelocked ⟨0, .relockWait 1 "c1" 8081 (.ok true)⟩,
            .dropLease ⟨"c1", 8081, 1⟩, .recvReturn, .returnHostLocked,
            .containerInfo (.ok ())] = some (tr, s) ∧
        s.shutdown.hostsCollected = false ∧
        s.state.availableHosts.map HostInstance.healthCheckTested = [false, true] :=
      ⟨_, _, rfl, rfl, rfl⟩
    have hr := Run.start.trace ht
    exact ⟨tr, s, hr, hidle, (served_hosts_checked hr).1 hstage⟩
  · obtain ⟨tr, s, ht, hreturned⟩ : ∃ tr s,
        (system GatewayConfig.small.poolConfig).trace [] (new GatewayConfig.small.poolConfig)
          [.leaseHost 0, .leaseHostLocked 0 1, .allocatePort, .createContainer (.ok "c1"),
            .startContainer (.ok ()), .inspectContainer (.ok ()) 1,
            .healthChecked ⟨0, .readyWait 1 "c1" 8081 1⟩ (.response true), .startShutdown,
            .tick (31 * nanosPerSecond), .sampleDrain, .abortWorkers, .collectAllHosts,
            .leaseHostRelocked ⟨0, .relockWait 1 "c1" 8081 (.ok true)⟩] = some (tr, s) ∧
        s.returned = [(0, .error (.invalidLease 1))] := ⟨_, _, rfl, rfl⟩
    have hr := Run.start.trace ht
    exact ⟨tr, s, hr, hreturned, (served_hosts_checked hr).2⟩

end HostPoolManager

end DockerizedLambda
