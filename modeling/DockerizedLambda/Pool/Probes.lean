import DockerizedLambda.Lib.RetryLoop
import DockerizedLambda.Pool.Exclusive

/-! `wait_for_container_ready` as the loop it is. The steps of the pool interleave the rounds of
many such loops; each of them sees its own health checks, in order, and no others. -/

namespace DockerizedLambda

open Transition

def readyLoop : RetryLoop (Except DockerError Bool) (Except PoolError Bool) where
  maxAttempts := readyMaxAttempts
  hasAttempt := by decide
  settle
    | .ok true => some (.ok true)
    | _ => none
  giveUp
    | .ok _ => .ok false
    | .error e => .error (.docker e)

theorem readyAttempt_eq_round (attempt : Nat) (result : Except DockerError Bool) :
    readyAttempt attempt result = readyLoop.round attempt result := by
  cases result with
  | ok ready => cases ready <;> rfl
  | error e => rfl

namespace HostPoolManager

def probed (leaseId : Uuid) (_ : HostPoolManager) : Action → Option (Except DockerError Bool)
  | .healthChecked ⟨_, .readyWait k _ _ _⟩ probe =>
    if k = leaseId then some (healthCheck probe) else none
  | _ => none

def checks (tr : List (HostPoolManager × Action)) (leaseId : Uuid) :
    List (Except DockerError Bool) :=
  outputs (probed leaseId) tr

structure Probing (tr : List (HostPoolManager × Action)) (s : HostPoolManager) : Prop where
  fresh : ∀ k, k ∉ s.issued → checks tr k = []
  followed : ∀ k, readyLoop.run (checks tr k) = none ∨
    ∃ result, readyLoop.EndsWith (checks tr k) result
  waiting : ∀ request k c p n, ⟨request, .readyWait k c p n⟩ ∈ s.calls →
    readyLoop.run (checks tr k) = none ∧ (checks tr k).length + 1 = n
  decided : ∀ request k c p result, ⟨request, .relockWait k c p result⟩ ∈ s.calls →
    readyLoop.EndsWith (checks tr k) result
  notReady : ∀ request, (request, .error .containerNotReady) ∈ s.returned →
    ∃ k, readyLoop.EndsWith (checks tr k) (.ok false)

variable {cfg : PoolConfig} {s s' : HostPoolManager} {a : Action}
  {tr : List (HostPoolManager × Action)} {k : Uuid}

theorem checks_kept (h : probed k s a = none) : checks ((s, a) :: tr) k = checks tr k := by
  rw [checks, outputs, h]
  exact List.append_nil _

theorem checks_probed {request n : Nat} {c : ContainerId} {p : UInt16} {probe : Probe} :
    checks ((s, .healthChecked ⟨request, .readyWait k c p n⟩ probe) :: tr) k =
      checks tr k ++ [healthCheck probe] := by
  rw [checks, outputs, probed, if_pos rfl]
  rfl

theorem checks_other {request n : Nat} {c : ContainerId} {p : UInt16} {probe : Probe} {l : Uuid}
    (h : l ≠ k) : checks ((s, .healthChecked ⟨request, .readyWait l c p n⟩ probe) :: tr) k =
      checks tr k := checks_kept (if_neg h)

theorem checks_ok {result : Except DockerError Bool} (h : result ∈ checks tr k) :
    ∃ ready, result = .ok ready := by
  obtain ⟨⟨s, a⟩, -, hp⟩ := mem_outputs.mp h
  unfold probed at hp
  split at hp
  next probe _ =>
    split_ifs at hp
    obtain rfl := Option.some.inj hp
    cases probe with
    | response isSuccess => exact ⟨isSuccess, rfl⟩
    | connectionError => exact ⟨false, rfl⟩
    | timeout => exact ⟨false, rfl⟩
  next => cases hp

theorem leaseId_of_other_call (h : Run (system cfg) tr s) {call other : LeaseCall} {l : Uuid}
    (hcall : call ∈ s.calls) (hk : call.lease.map HostLease.leaseId = some k)
    (hother : other ∈ s.calls.erase call) (hl : other.lease.map HostLease.leaseId = some l) :
    k ≠ l := by
  -- two calls that wait for a host wait under different lease ids
  obtain ⟨lease, hlease, rfl⟩ := Option.map_eq_some_iff.mp hk
  obtain ⟨lease', hlease', rfl⟩ := Option.map_eq_some_iff.mp hl
  have hnodup := (owners_nodup h).sublist (List.sublist_append_left _ _)
  have hp := ((List.perm_cons_erase hcall).filterMap LeaseCall.lease).map HostLease.leaseId
  rw [List.filterMap_cons, hlease, List.map_cons] at hp
  have hwaiting := hp.nodup_iff.mp (hnodup.sublist ((List.sublist_append_left _ _).map _))
  intro he
  apply (List.nodup_cons.mp hwaiting).1
  rw [he]
  exact List.mem_map_of_mem (List.mem_filterMap.mpr ⟨other, hother, hlease'⟩)

theorem Probing.kept (hi : Probing tr s) (hprobed : ∀ k, probed k s a = none)
    (hcalls : ∀ call ∈ s'.calls, call ∈ s.calls ∨ call.stage = .lockWait)
    (hreturned : ∀ request, (request, .error .containerNotReady) ∈ s'.returned →
      (request, .error .containerNotReady) ∈ s.returned ∨
        ∃ k, readyLoop.EndsWith (checks tr k) (.ok false))
    (hissued : ∀ k ∈ s.issued, k ∈ s'.issued) : Probing ((s, a) :: tr) s' := by
  have hsame : ∀ k, checks ((s, a) :: tr) k = checks tr k := fun k => checks_kept (hprobed k)
  refine ⟨fun k hk => ?_, fun k => ?_, fun request k c p n hcall => ?_,
    fun request k c p result hcall => ?_, fun request hr => ?_⟩
  · rw [hsame]
    exact hi.fresh k fun hk' => hk (hissued k hk')
  · rw [hsame]
    exact hi.followed k
  · rw [hsame]
    rcases hcalls _ hcall with hcall | hstage
    · exact hi.waiting request k c p n hcall
    · cases hstage
  · rw [hsame]
    rcases hcalls _ hcall with hcall | hstage
    · exact hi.decided request k c p result hcall
    · cases hstage
  · obtain ⟨k, hk⟩ := (hreturned request hr).elim (hi.notReady request) id
    exact ⟨k, (hsame k).symm ▸ hk⟩

theorem Probing.begun (hi : Probing tr s) {request : Nat} {c : ContainerId} {p : UInt16}
    (hprobed : ∀ k, probed k s a = none) (hfresh : k ∉ s.issued)
    (hcalls : ∀ call ∈ s'.calls, call = ⟨request, .readyWait k c p 1⟩ ∨ call ∈ s.calls)
    (hreturned : s'.returned = s.returned) (hissued : s'.issued = k :: s.issued) :
    Probing ((s, a) :: tr) s' := by
  have hsame : ∀ k, checks ((s, a) :: tr) k = checks tr k := fun k => checks_kept (hprobed k)
  refine ⟨fun l hl => ?_, fun l => ?_, fun request l c p n hcall => ?_,
    fun request l c p result hcall => ?_, fun request hr => ?_⟩
  · rw [hsame]
    rw [hissued] at hl
    exact hi.fresh l fun hl' => hl (List.mem_cons_of_mem k hl')
  · rw [hsame]
    exact hi.followed l
  · rw [hsame]
    rcases hcalls _ hcall with hnew | hcall
    · cases hnew
      rw [hi.fresh k hfresh]
      exact ⟨rfl, rfl⟩
    · exact hi.waiting request l c p n hcall
  · rw [hsame]
    rcases hcalls _ hcall with hnew | hcall
    · cases hnew
    · exact hi.decided request l c p result hcall
  · rw [hreturned] at hr
    obtain ⟨l, hl⟩ := hi.notReady request hr
    exact ⟨l, (hsame l).symm ▸ hl⟩

theorem Probing.checked (hi : Probing tr s) (h : Run (system cfg) tr s) {request n : Nat}
    {c : ContainerId} {p : UInt16} {probe : Probe} {stage : LeaseStage}
    (hcall : ⟨request, .readyWait k c p n⟩ ∈ s.calls)
    (hstage : readyLoop.round n (healthCheck probe) = none ∧ stage = .readyWait k c p (n + 1) ∨
      ∃ result, readyLoop.round n (healthCheck probe) = some result ∧
        stage = .relockWait k c p result)
    (hcalls : s'.calls = ⟨request, stage⟩ :: s.calls.erase ⟨request, .readyWait k c p n⟩)
    (hreturned : s'.returned = s.returned) (hissued : s'.issued = s.issued) :
    Probing ((s, .healthChecked ⟨request, .readyWait k c p n⟩ probe) :: tr) s' := by
  obtain ⟨hnone, hlength⟩ := hi.waiting request k c p n hcall
  have hrun : readyLoop.run (checks tr k ++ [healthCheck probe]) =
      readyLoop.round n (healthCheck probe) := by
    rw [RetryLoop.run_concat hnone, hlength]
  have hends : ∀ {result}, readyLoop.round n (healthCheck probe) = some result →
      readyLoop.EndsWith (checks tr k ++ [healthCheck probe]) result := fun hround =>
    ⟨_, _, rfl, hnone, hrun.trans hround⟩
  have hother : ∀ {call : LeaseCall} {l : Uuid},
      call ∈ s.calls.erase ⟨request, .readyWait k c p n⟩ →
      call.lease.map HostLease.leaseId = some l → k ≠ l := fun hmem hl =>
    leaseId_of_other_call h hcall rfl hmem hl
  refine ⟨fun l hl => ?_, fun l => ?_, fun request' l c' p' m hmem => ?_,
    fun request' l c' p' result hmem => ?_, fun request' hr => ?_⟩
  · have howner : k ∈ s.owners := mem_owners.mpr (.inl ⟨⟨c, p, k⟩, ?_, rfl⟩)
    · have hk : k ∈ s.issued := (registry_sound_run h).ownersDrawn k howner
      rw [hissued] at hl
      have hne : k ≠ l := by
        rintro rfl
        exact hl hk
      rw [checks_other hne]
      exact hi.fresh l hl
    · exact mem_tickets.mpr (.inl ⟨_, hcall, rfl⟩)
  · by_cases hl : k = l
    · rw [← hl, checks_probed]
      rcases hstage with ⟨hround, -⟩ | ⟨result, hround, -⟩
      · exact .inl (hrun.trans hround)
      · exact .inr ⟨result, hends hround⟩
    · rw [checks_other hl]
      exact hi.followed l
  · rw [hcalls] at hmem
    rcases List.mem_cons.mp hmem with hnew | hmem
    · obtain ⟨-, rfl⟩ := LeaseCall.mk.inj hnew
      rcases hstage with ⟨hround, hstage⟩ | ⟨_, -, hstage⟩
      · cases hstage
        rw [checks_probed]
        refine ⟨hrun.trans hround, ?_⟩
        rw [List.length_append, List.length_singleton, hlength]
      · cases hstage
    · rw [checks_other (hother hmem rfl)]
      exact hi.waiting request' l c' p' m (List.mem_of_mem_erase hmem)
  · rw [hcalls] at hmem
    rcases List.mem_cons.mp hmem with hnew | hmem
    · obtain ⟨-, rfl⟩ := LeaseCall.mk.inj hnew
      rcases hstage with ⟨-, hstage⟩ | ⟨_, hround, hstage⟩
      · cases hstage
      · cases hstage
        rw [checks_probed]
        exact hends hround
    · rw [checks_other (hother hmem rfl)]
      exact hi.decided request' l c' p' result (List.mem_of_mem_erase hmem)
  · rw [hreturned] at hr
    obtain ⟨l, hl⟩ := hi.notReady request' hr
    -- the loop of this lease has ended, the one that goes on is another one
    have hne : k ≠ l := by
      rintro rfl
      obtain ⟨_, _, -, -, hsome⟩ := hl
      exact absurd (hnone.symm.trans hsome) nofun
    exact ⟨l, (checks_other hne).symm ▸ hl⟩

theorem eq_false_of_unsettled {result : Except DockerError Bool} (h : result ∈ checks tr k)
    (hsettle : readyLoop.settle result = none) : result = .ok false := by
  obtain ⟨ready, rfl⟩ := checks_ok h
  cases ready with
  | false => rfl
  | true => cases hsettle

theorem checks_ended {result : Except PoolError Bool}
    (h : readyLoop.EndsWith (checks tr k) result) :
    (result = .ok true ∧ ∃ n < readyMaxAttempts,
      checks tr k = List.replicate n (.ok false) ++ [.ok true]) ∨
    result = .ok false ∧ checks tr k = List.replicate readyMaxAttempts (.ok false) := by
  have hle : (checks tr k).length ≤ readyMaxAttempts := h.length_le
  obtain ⟨init, last, hresults, hinit, hlast⟩ := h.cases
  have hmem : ∀ r ∈ init, r ∈ checks tr k := fun r hr => hresults ▸ List.mem_append_left _ hr
  have hlastmem : last ∈ checks tr k :=
    hresults ▸ List.mem_append_right _ List.mem_cons_self
  have hfailed : init = List.replicate init.length (.ok false) :=
    List.eq_replicate_iff.mpr ⟨rfl, fun r hr => eq_false_of_unsettled (hmem r hr) (hinit r hr)⟩
  rcases hlast with hsettle | ⟨hsettle, hlength, hresult⟩
  · obtain ⟨ready, rfl⟩ := checks_ok hlastmem
    cases ready with
    | false => cases hsettle
    | true =>
      refine .inl ⟨(Option.some.inj hsettle).symm, init.length, ?_, hfailed ▸ hresults⟩
      rw [hresults, List.length_append, List.length_singleton] at hle
      exact hle
  · obtain rfl := eq_false_of_unsettled hlastmem hsettle
    refine .inr ⟨hresult, List.eq_replicate_iff.mpr ⟨hlength, fun r hr => ?_⟩⟩
    rw [hresults] at hr
    rcases List.mem_append.mp hr with hr | hr
    · exact eq_false_of_unsettled (hmem r hr) (hinit r hr)
    · exact List.mem_singleton.mp hr

theorem notReady_of_cons {request request' : Nat} {result : Except PoolError HostLease}
    (h : (request, .error .containerNotReady) ∈ (request', result) :: s.returned)
    (hne : result ≠ .error .containerNotReady) :
    (request, .error .containerNotReady) ∈ s.returned := by
  rcases List.mem_cons.mp h with hnew | h
  · exact absurd (Prod.mk.inj hnew).2.symm hne
  · exact h

theorem Probing.step (hi : Probing tr s) (h : Run (system cfg) tr s) (he : Effect cfg s a s') :
    Probing ((s, a) :: tr) s' := by
  have hsub : ∀ call, s.calls.erase call ⊆ s.calls := fun call => List.erase_subset
  cases he with
  | leaseRefused =>
    exact hi.kept (fun _ => rfl) (fun _ hcall => .inl hcall)
      (fun _ hr => .inl (notReady_of_cons hr nofun)) fun _ => id
  | leaseAsked =>
    refine hi.kept (fun _ => rfl) (fun call hcall => ?_) (fun _ => .inl) fun _ => id
    rcases List.mem_cons.mp hcall with rfl | hcall
    · exact .inr rfl
    · exact .inl hcall
  | leaseTested =>
    exact hi.kept (fun _ => rfl) (fun _ hcall => .inl (hsub _ hcall))
      (fun _ hr => .inl (notReady_of_cons hr nofun)) fun _ => List.mem_cons_of_mem _
  | leaseUntested _ _ hfresh =>
    exact hi.begun (fun _ => rfl) hfresh
      (fun call hcall => (List.mem_cons.mp hcall).imp_right fun hm => hsub _ hm) rfl rfl
  | hostLeased _ hfresh =>
    exact hi.begun (fun _ => rfl) hfresh (fun call hcall => List.mem_cons.mp hcall) rfl rfl
  | readyAgain hcall hready =>
    rw [readyAttempt_eq_round] at hready
    exact hi.checked h hcall (.inl ⟨hready, rfl⟩) rfl rfl rfl
  | readyDone hcall hready =>
    rw [readyAttempt_eq_round] at hready
    exact hi.checked h hcall (.inr ⟨_, hready, rfl⟩) rfl rfl rfl
  | leaseFull
  | readyConfirmed
  | readyInvalid =>
    exact hi.kept (fun _ => rfl) (fun _ hcall => .inl (hsub _ hcall))
      (fun _ hr => .inl (notReady_of_cons hr nofun)) fun _ => id
  | @notReady _ k _ _ readyResult e hcall _ hready =>
    have hends := hi.decided _ _ _ _ _ hcall
    have hfailed : readyLoop.EndsWith (checks tr k) (.ok false) := by
      rcases hready with ⟨rfl, -⟩ | rfl
      · exact hends
      · rcases checks_ended hends with ⟨hresult, -⟩ | ⟨hresult, -⟩ <;> cases hresult
    exact hi.kept (fun _ => rfl) (fun _ hcall => .inl (hsub _ hcall))
      (fun _ _ => .inr ⟨k, hfailed⟩) fun _ => id
  | leaseSpawning
  | cancelLease =>
    exact hi.kept (fun _ => rfl) (fun _ hcall => .inl (hsub _ hcall)) (fun _ => .inl) fun _ => id
  | @portsExhausted caller
  | @createFailed caller
  | @createdUnanswered caller
  | @startFailed caller
  | @startedUnanswered caller =>
    refine hi.kept (fun _ => rfl) (fun _ => .inl) (fun request hr => .inl ?_) fun _ => id
    cases caller with
    | leaseHost => exact notReady_of_cons hr nofun
    | runScalingPolicy => exact hr
  | _ => exact hi.kept (fun _ => rfl) (fun _ => .inl) (fun _ => .inl) fun _ => id

theorem probing_run (h : Run (system cfg) tr s) : Probing tr s := by
  induction h with
  | start => exact ⟨fun _ _ => rfl, fun _ => .inl rfl, nofun, nofun, nofun⟩
  | next hr hs ih => exact ih.step hr (effect_of_step hs)

structure ReadinessDecided (tr : List (HostPoolManager × Action)) (s : HostPoolManager) :
    Prop where
  bounded : ∀ k, (checks tr k).length ≤ readyMaxAttempts
  waiting : ∀ request k c p n, ⟨request, .readyWait k c p n⟩ ∈ s.calls →
    n ≤ readyMaxAttempts ∧ checks tr k = List.replicate (n - 1) (.ok false)
  decided : ∀ request k c p result, ⟨request, .relockWait k c p result⟩ ∈ s.calls →
    (result = .ok true ∧ ∃ n < readyMaxAttempts,
      checks tr k = List.replicate n (.ok false) ++ [.ok true]) ∨
    result = .ok false ∧ checks tr k = List.replicate readyMaxAttempts (.ok false)
  notReady : ∀ request, (request, .error .containerNotReady) ∈ s.returned →
    ∃ k, checks tr k = List.replicate readyMaxAttempts (.ok false)

/-- Each readiness check is its loop: at most ten health checks, ended by the first that passes. -/
theorem readiness_decided (h : Run (system cfg) tr s) : ReadinessDecided tr s := by
  have hi := probing_run h
  refine ⟨fun k => ?_, fun request k c p n hcall => ?_, fun request k c p result hcall => ?_,
    fun request hr => ?_⟩
  · rcases hi.followed k with hnone | ⟨_, hends⟩
    · exact (RetryLoop.run_eq_none hnone).2.le
    · exact hends.length_le
  · obtain ⟨hnone, rfl⟩ := hi.waiting request k c p n hcall
    obtain ⟨hsettle, hlength⟩ := RetryLoop.run_eq_none hnone
    refine ⟨hlength, List.eq_replicate_iff.mpr ⟨rfl, fun r hr => ?_⟩⟩
    exact eq_false_of_unsettled hr (hsettle r hr)
  · exact checks_ended (hi.decided request k c p result hcall)
  · obtain ⟨k, hk⟩ := hi.notReady request hr
    rcases checks_ended hk with ⟨hresult, -⟩ | ⟨-, hchecks⟩
    · cases hresult
    · exact ⟨k, hchecks⟩

theorem readiness_decided_second :
    ∃ tr s, Run (system GatewayConfig.small.poolConfig) tr s ∧
      s.calls = [⟨0, .relockWait 1 "c1" 8081 (.ok true)⟩] ∧ ReadinessDecided tr s := by
  obtain ⟨tr, s, ht, hcalls⟩ : ∃ tr s,
      (system GatewayConfig.small.poolConfig).trace [] (new GatewayConfig.small.poolConfig)
        [.leaseHost 0, .leaseHostLocked 0 1, .allocatePort, .createContainer (.ok "c1"),
          .startContainer (.ok ()), .inspectContainer (.ok ()) 1,
          .healthChecked ⟨0, .readyWait 1 "c1" 8081 1⟩ .connectionError,
          .healthChecked ⟨0, .readyWait 1 "c1" 8081 2⟩ (.response true)] = some (tr, s) ∧
      s.calls = [⟨0, .relockWait 1 "c1" 8081 (.ok true)⟩] := ⟨_, _, rfl, rfl⟩
  have hr := Run.start.trace ht
  exact ⟨tr, s, hr, hcalls, readiness_decided hr⟩

end HostPoolManager

end DockerizedLambda
