import DockerizedLambda.Pool.Effect

/-! What a step of the pool does to the containers, whoever takes it: it creates one, or
those with one id change their status, and only if the daemon says so is one gone. -/

namespace DockerizedLambda

open Transition

namespace HostPoolManager

def createdContainer : Action → Option ContainerId
  | .createContainer (.ok containerId) => some containerId
  | .createUnanswered containerId _ => some containerId
  | .daemon (.creates _ containerId) => some containerId
  | _ => none

def endedContainer (s : HostPoolManager) : Action → Option ContainerId
  | .stopCleanup (.ok _) =>
    match s.cleaner with
    | .stopping containerId => some containerId
    | _ => none
  | .forceStop (.ok _) =>
    match s.shutdown with
    | .stopping _ containerId _ => some containerId
    | _ => none
  | .daemon (.ends containerId) => some containerId
  | _ => none

def Starting (s : HostPoolManager) (c : ContainerId) : Prop :=
  ∃ caller port, s.guard = some (.spawning caller (.start port c))

inductive ContainersStep (s : HostPoolManager) (a : Action) (s' : HostPoolManager) : Prop
  | kept (h : s'.docker.containers = s.docker.containers)
  | created {id : ContainerId} {port : UInt16} (ha : createdContainer a = some id)
      (hfresh : id ∉ s.docker.ids)
      (h : s'.docker.containers = ⟨id, port, .created⟩ :: s.docker.containers)
  | started {id : ContainerId}
      (hcall : s.Starting id ∧ ¬ s'.Starting id ∨ .start id ∈ s.docker.abandoned)
      (h : s'.docker.containers = (s.docker.update id .start).containers)
  | stopped {id : ContainerId} (ha : endedContainer s a = some id)
      (h : s'.docker.containers = (s.docker.update id .stop).containers)
  | finished {id : ContainerId} (ha : a = .daemon (.ends id))
      (h : s'.docker.containers = (s.docker.update id .finish).containers)

variable {cfg : PoolConfig} {s s' : HostPoolManager} {a : Action} {c : ContainerId}

theorem not_starting_of_next {caller : Spawner} (hguard : s.guard = caller.next) :
    ¬ s.Starting c := by
  rintro ⟨other, port, hstarting⟩
  rw [hguard] at hstarting
  cases caller with
  | leaseHost => cases hstarting
  | runScalingPolicy n => cases n <;> cases hstarting

theorem Effect.containers_step (he : Effect cfg s a s') :
    ContainersStep s a s' := by
  cases he with
  | cancelSpawn
  | scalingTornDownHolding => exact .kept (Docker.containers_elim_abandon _ _)
  | created _ _ hfresh
  | createdUnanswered _ _ hfresh => exact .created rfl hfresh rfl
  | createFailed => exact .kept (Docker.containers_createFailed _ _ _)
  | started hguard => exact .started (.inl ⟨⟨_, _, hguard⟩, nofun⟩) rfl
  | startedUnanswered hguard =>
    exact .started (.inl ⟨⟨_, _, hguard⟩, not_starting_of_next rfl⟩) rfl
  | cleanupStopped hstage
  | forceStopped hstage => exact .stopped (by rw [endedContainer, hstage]) rfl
  | @daemonActed event docker hact =>
    rcases Docker.act_cases hact with
      ⟨port, id, rfl, hfresh, h⟩ | ⟨id, -, hcall, h⟩ | ⟨id, rfl, h⟩
    · exact .created rfl hfresh h
    · exact .started (.inr hcall) h
    · exact .finished rfl h
  | _ => exact .kept rfl

theorem Effect.created_spec (he : Effect cfg s a s') (hc : createdContainer a = some c) :
    c ∉ s.docker.ids ∧
      ∃ port, s'.docker.containers = ⟨c, port, .created⟩ :: s.docker.containers := by
  cases he with
  | created _ _ hfresh
  | createdUnanswered _ _ hfresh =>
    obtain rfl := Option.some.inj hc
    exact ⟨hfresh, _, rfl⟩
  | daemonActed hact =>
    rcases Docker.act_cases hact with ⟨port, id, rfl, hfresh, h⟩ | ⟨id, rfl, -⟩ | ⟨id, rfl, -⟩
    · obtain rfl := Option.some.inj hc
      exact ⟨hfresh, port, h⟩
    · cases hc
    · cases hc
  | _ => cases hc

theorem Effect.ids_cases (he : Effect cfg s a s') :
    s'.docker.ids = s.docker.ids ∨
      ∃ id, createdContainer a = some id ∧ id ∉ s.docker.ids ∧
        s'.docker.ids = id :: s.docker.ids := by
  cases he.containers_step with
  | kept h => exact .inl (Docker.ids_congr h)
  | created ha hfresh h =>
    refine .inr ⟨_, ha, hfresh, ?_⟩
    rw [Docker.ids, h]
    rfl
  | started _ h
  | stopped _ h
  | finished _ h => exact .inl ((Docker.ids_congr h).trans (Docker.ids_update _ _ _))

theorem Effect.ids_mono (he : Effect cfg s a s') : s.docker.ids ⊆ s'.docker.ids := by
  rcases he.ids_cases with h | ⟨id, -, -, h⟩
  · rw [h]
    exact List.Subset.refl _
  · rw [h]
    exact List.subset_cons_self _ _

theorem Effect.ids_nodup (he : Effect cfg s a s') (h : s.docker.ids.Nodup) :
    s'.docker.ids.Nodup := by
  rcases he.ids_cases with hids | ⟨id, -, hfresh, hids⟩
  · exact hids ▸ h
  · exact hids ▸ List.nodup_cons.mpr ⟨hfresh, h⟩

theorem Effect.present_cases (he : Effect cfg s a s') (hc : c ∈ s'.docker.present) :
    c ∈ s.docker.present ∨ createdContainer a = some c ∧ c ∉ s.docker.ids := by
  have hkept : ∀ {id f}, (∀ status : ContainerStatus, (f status).isPresent = true →
      status.isPresent = true) → s'.docker.containers = (s.docker.update id f).containers →
      c ∈ s.docker.present := by
    intro id f hf h
    rw [Docker.present_congr h] at hc
    exact Docker.present_update_subset hf hc
  cases he.containers_step with
  | kept h => exact .inl (Docker.present_congr h ▸ hc)
  | created ha hfresh h =>
    rw [Docker.present, h] at hc
    rcases List.mem_cons.mp hc with rfl | hc
    · exact .inr ⟨ha, hfresh⟩
    · exact .inl hc
  | started _ h => exact .inl (hkept (fun status hs => by rwa [status.isPresent_start] at hs) h)
  | stopped _ h => exact .inl (hkept (fun _ => ContainerStatus.isPresent_of_stop) h)
  | finished _ h => exact .inl (hkept (fun _ => ContainerStatus.isPresent_of_finish) h)

theorem Effect.present_kept (he : Effect cfg s a s') (hc : c ∈ s.docker.present) :
    c ∈ s'.docker.present ∨ endedContainer s a = some c := by
  have hother : ∀ {id f}, s'.docker.containers = (s.docker.update id f).containers → c ≠ id →
      c ∈ s'.docker.present := by
    intro id f h hne
    rw [Docker.present_congr h]
    exact (Docker.mem_present_update_of_ne hne).mpr hc
  cases he.containers_step with
  | kept h => exact .inl (Docker.present_congr h ▸ hc)
  | created _ _ h =>
    refine .inl ?_
    rw [Docker.present, h]
    exact List.mem_cons_of_mem _ hc
  | started _ h =>
    refine .inl ?_
    rw [Docker.present_congr h, Docker.present_update ContainerStatus.isPresent_start]
    exact hc
  | @stopped id ha h =>
    by_cases hid : c = id
    · exact .inr (hid ▸ ha)
    · exact .inl (hother h hid)
  | @finished id ha h =>
    by_cases hid : c = id
    · subst hid ha
      exact .inr rfl
    · exact .inl (hother h hid)

theorem Effect.abandoned_cases (he : Effect cfg s a s')
    (hcall : .start c ∈ s'.docker.abandoned) :
    .start c ∈ s.docker.abandoned ∨ s.Starting c ∧ ¬ s'.Starting c := by
  have hlost : ∀ {caller spawn}, s.guard = some (.spawning caller spawn) → ¬ s'.Starting c →
      .start c ∈ (spawn.call.elim s.docker s.docker.abandon).abandoned →
      .start c ∈ s.docker.abandoned ∨ s.Starting c ∧ ¬ s'.Starting c := by
    intro caller spawn hguard hnext hcall
    cases spawn with
    | allocate
    | inspect => exact .inl hcall
    | create port => exact .inl ((List.mem_cons.mp hcall).resolve_left nofun)
    | start port id =>
      rcases List.mem_cons.mp hcall with heq | hcall
      · cases heq
        exact .inr ⟨⟨_, _, hguard⟩, hnext⟩
      · exact .inl hcall
  cases he with
  | cancelSpawn hguard => exact hlost hguard nofun hcall
  | scalingTornDownHolding _ _ hguard => exact hlost hguard nofun hcall
  | @createFailed caller port e =>
    cases e with
    | api e => exact .inl ((List.mem_cons.mp hcall).resolve_left nofun)
    | _ => exact .inl hcall
  | startFailed hguard => exact hlost hguard (not_starting_of_next rfl) hcall
  | daemonActed hact => exact .inl (Docker.abandoned_of_act hact hcall)
  | _ => exact .inl hcall

structure Unstarted (s : HostPoolManager) (c : ContainerId) : Prop where
  known : c ∈ s.docker.ids
  uncalled : .start c ∉ s.docker.abandoned
  idle : ∀ k ∈ s.docker.containers, k.id = c → k.status.wasStarted = false

theorem Effect.unstarted (he : Effect cfg s a s') (h : s.Unstarted c)
    (hwaits : s.Starting c → s'.Starting c) : s'.Unstarted c := by
  refine ⟨he.ids_mono h.known, fun hcall => ?_, fun k hk hid => ?_⟩
  · rcases he.abandoned_cases hcall with hcall | ⟨hstarting, hover⟩
    · exact h.uncalled hcall
    · exact hover (hwaits hstarting)
  · have hkept : ∀ {id f}, (id = c → ∀ status : ContainerStatus,
        (f status).wasStarted = status.wasStarted) →
        s'.docker.containers = (s.docker.update id f).containers → k.status.wasStarted = false := by
      intro id f hf hcontainers
      rw [hcontainers] at hk
      obtain ⟨k₀, hk₀, ⟨hid₀, rfl⟩ | ⟨-, rfl⟩⟩ := Docker.mem_update hk
      · exact (hf (hid₀.symm.trans hid) _).trans (h.idle k₀ hk₀ hid)
      · exact h.idle k hk₀ hid
    cases he.containers_step with
    | kept hcontainers => exact h.idle k (hcontainers ▸ hk) hid
    | created _ hfresh hcontainers =>
      rw [hcontainers] at hk
      rcases List.mem_cons.mp hk with rfl | hk
      · cases hid
        exact absurd h.known hfresh
      · exact h.idle k hk hid
    | started hcall hcontainers =>
      refine hkept (fun heq => ?_) hcontainers
      subst heq
      rcases hcall with ⟨hstarting, hover⟩ | hcall
      · exact absurd (hwaits hstarting) hover
      · exact absurd hcall h.uncalled
    | stopped _ hcontainers => exact hkept (fun _ => ContainerStatus.wasStarted_stop) hcontainers
    | finished _ hcontainers =>
      exact hkept (fun _ => ContainerStatus.wasStarted_finish) hcontainers

theorem Effect.unstarted_present (he : Effect cfg s a s') (h : s.Unstarted c) :
    c ∈ s'.docker.present ↔ a ≠ .daemon (.ends c) ∧ c ∈ s.docker.present := by
  by_cases hends : a = .daemon (.ends c)
  · subst hends
    cases he with
    | daemonActed hact =>
      obtain ⟨-, rfl⟩ := Docker.ends_of_act hact
      exact iff_of_false (Docker.not_mem_present_finish _ _) fun hc => hc.1 rfl
  · rw [and_iff_right hends]
    cases he.containers_step with
    | kept hcontainers => rw [Docker.present_congr hcontainers]
    | @created id port _ hfresh hcontainers =>
      rw [Docker.present, hcontainers]
      refine List.mem_cons.trans (or_iff_right fun heq => ?_)
      cases heq
      exact hfresh h.known
    | started _ hcontainers =>
      rw [Docker.present_congr hcontainers, Docker.present_update ContainerStatus.isPresent_start]
    | @stopped id _ hcontainers =>
      rw [Docker.present_congr hcontainers]
      by_cases hid : c = id
      · subst hid
        refine ⟨fun hc => Docker.present_update_subset (fun _ => ContainerStatus.isPresent_of_stop)
          hc, fun hc => ?_⟩
        obtain ⟨k, hk, hpresent, hid⟩ := Docker.mem_present.mp hc
        refine Docker.mem_present.mpr ⟨{ k with status := k.status.stop }, ?_, ?_, hid⟩
        · exact List.mem_map.mpr ⟨k, hk, if_pos hid⟩
        · have hidle := h.idle k hk hid
          change k.status.stop.isPresent = true
          cases hstatus : k.status with
          | created => rfl
          | started => rw [hstatus] at hidle; cases hidle
          | stopped => rw [hstatus] at hpresent; cases hpresent
          | removed => rw [hstatus] at hpresent; cases hpresent
      · exact Docker.mem_present_update_of_ne hid
    | @finished id ha hcontainers =>
      rw [Docker.present_congr hcontainers]
      refine Docker.mem_present_update_of_ne fun hid => hends ?_
      rw [ha, hid]

theorem Effect.ends_present (he : Effect cfg s (.daemon (.ends c)) s') :
    c ∈ s.docker.present := by
  cases he with
  | daemonActed hact => exact (Docker.ends_of_act hact).1

end HostPoolManager

end DockerizedLambda
