import Mathlib.Data.List.Basic

/-! `DockerManager`: the Docker API as the pool sees it. What the daemon answers is an input
of the model, and so is what it does about a call that it does not answer. -/

namespace DockerizedLambda

abbrev ContainerId := String

/-- The API client's error: a response of the daemon, or no response at all. -/
inductive ApiError
  | dockerResponseServerError (statusCode : Nat) (message : String)
  | transport (message : String)
deriving DecidableEq, Repr

inductive DockerError
  | api (error : ApiError)
  | http (message : String)
  | timeout
  | containerNotFound (containerId : ContainerId)
  | binaryNotFound (path : String)
deriving DecidableEq, Repr

/-- `auto_remove` is set: a container that stops is gone. -/
inductive ContainerStatus
  | created
  | started
  | stopped
  | removed
deriving DecidableEq, Repr

namespace ContainerStatus

def wasStarted : ContainerStatus → Bool
  | .started | .stopped => true
  | .created | .removed => false

def isPresent : ContainerStatus → Bool
  | .created | .started => true
  | .stopped | .removed => false

def start : ContainerStatus → ContainerStatus
  | .created => .started
  | status => status

def stop : ContainerStatus → ContainerStatus
  | .started => .stopped
  -- not modified (304)
  | status => status

def finish : ContainerStatus → ContainerStatus
  | .created => .removed
  | .started => .stopped
  | status => status

@[simp] theorem wasStarted_stop (status : ContainerStatus) :
    status.stop.wasStarted = status.wasStarted := by
  cases status <;> rfl

@[simp] theorem wasStarted_finish (status : ContainerStatus) :
    status.finish.wasStarted = status.wasStarted := by
  cases status <;> rfl

@[simp] theorem isPresent_start (status : ContainerStatus) :
    status.start.isPresent = status.isPresent := by
  cases status <;> rfl

theorem isPresent_of_stop {status : ContainerStatus} (h : status.stop.isPresent = true) :
    status.isPresent = true := by
  cases status <;> first | rfl | cases h

theorem isPresent_of_finish {status : ContainerStatus} (h : status.finish.isPresent = true) :
    status.isPresent = true := by
  cases status <;> first | rfl | cases h

theorem stop_ne_started (status : ContainerStatus) : status.stop ≠ .started := by
  cases status <;> exact nofun

theorem finish_ne_started (status : ContainerStatus) : status.finish ≠ .started := by
  cases status <;> exact nofun

end ContainerStatus

structure Container where
  id : ContainerId
  port : UInt16
  status : ContainerStatus
deriving DecidableEq, Repr

inductive DockerCall
  | create (port : UInt16)
  | start (containerId : ContainerId)
deriving DecidableEq, Repr

/-- What the daemon does when nobody waits for it: it carries out a call whose caller has
given up, or a container is gone, by itself or by a stop that was never answered. -/
inductive DaemonEvent
  | creates (port : UInt16) (containerId : ContainerId)
  | starts (containerId : ContainerId)
  | ends (containerId : ContainerId)
deriving DecidableEq, Repr

structure Docker where
  containers : List Container
  /-- Calls that were not answered with their success: the daemon may still carry them out. -/
  abandoned : List DockerCall
deriving DecidableEq, Repr

namespace Docker

def empty : Docker := ⟨[], []⟩

def ids (d : Docker) : List ContainerId := d.containers.map Container.id

/-- What a listing with `all: true` shows. -/
def present (d : Docker) : List ContainerId :=
  (d.containers.filter fun c => c.status.isPresent).map Container.id

def create (d : Docker) (id : ContainerId) (port : UInt16) : Docker :=
  { d with containers := ⟨id, port, .created⟩ :: d.containers }

def update (d : Docker) (id : ContainerId) (f : ContainerStatus → ContainerStatus) : Docker :=
  { d with
    containers := d.containers.map fun c =>
      if c.id = id then { c with status := f c.status } else c }

def abandon (d : Docker) (call : DockerCall) : Docker :=
  { d with abandoned := call :: d.abandoned }

/-- `create_container` has failed: a missing binary it finds before it calls the daemon. -/
def createFailed (d : Docker) (port : UInt16) : DockerError → Docker
  | .api _ => d.abandon (.create port)
  | _ => d

def act (d : Docker) : DaemonEvent → Option Docker
  | .creates port id =>
    if .create port ∈ d.abandoned ∧ id ∉ d.ids then
      some ({ d with abandoned := d.abandoned.erase (.create port) }.create id port)
    else none
  | .starts id =>
    if .start id ∈ d.abandoned then
      some ({ d with abandoned := d.abandoned.erase (.start id) }.update id .start)
    else none
  | .ends id => if id ∈ d.present then some (d.update id .finish) else none

variable {d d' : Docker} {id : ContainerId} {c : Container}

@[simp] theorem ids_create (d : Docker) (id : ContainerId) (port : UInt16) :
    (d.create id port).ids = id :: d.ids := rfl

@[simp] theorem ids_update (d : Docker) (id : ContainerId)
    (f : ContainerStatus → ContainerStatus) : (d.update id f).ids = d.ids := by
  simp only [ids, update, List.map_map]
  apply List.map_congr_left
  intro c _
  simp only [Function.comp_apply]
  split_ifs <;> rfl

@[simp] theorem containers_createFailed (d : Docker) (port : UInt16) (e : DockerError) :
    (d.createFailed port e).containers = d.containers := by
  cases e <;> rfl

@[simp] theorem containers_elim_abandon (d : Docker) (call : Option DockerCall) :
    (call.elim d d.abandon).containers = d.containers := by
  cases call <;> rfl

theorem ids_congr (h : d'.containers = d.containers) : d'.ids = d.ids :=
  congrArg (List.map Container.id) h

theorem present_congr (h : d'.containers = d.containers) : d'.present = d.present := by
  rw [present, h, present]

theorem mem_update {f : ContainerStatus → ContainerStatus}
    (hc : c ∈ (d.update id f).containers) :
    ∃ k ∈ d.containers, k.id = id ∧ c = { k with status := f k.status } ∨ k.id ≠ id ∧ c = k := by
  obtain ⟨k, hk, rfl⟩ := List.mem_map.mp hc
  refine ⟨k, hk, ?_⟩
  by_cases hid : k.id = id
  · exact .inl ⟨hid, if_pos hid⟩
  · exact .inr ⟨hid, if_neg hid⟩

theorem mem_present {id : ContainerId} :
    id ∈ d.present ↔ ∃ c ∈ d.containers, c.status.isPresent = true ∧ c.id = id := by
  simp only [present, List.mem_map, List.mem_filter, and_assoc]

theorem present_update_subset {f : ContainerStatus → ContainerStatus}
    (hf : ∀ status, (f status).isPresent = true → status.isPresent = true) :
    (d.update id f).present ⊆ d.present := by
  intro x hx
  obtain ⟨c, hc, hpresent, rfl⟩ := mem_present.mp hx
  obtain ⟨k, hk, ⟨-, rfl⟩ | ⟨-, rfl⟩⟩ := mem_update hc
  · exact mem_present.mpr ⟨k, hk, hf k.status hpresent, rfl⟩
  · exact mem_present.mpr ⟨c, hk, hpresent, rfl⟩

@[simp] theorem present_update {f : ContainerStatus → ContainerStatus}
    (hf : ∀ status, (f status).isPresent = status.isPresent) :
    (d.update id f).present = d.present := by
  have hkept : ((fun c : Container => c.status.isPresent) ∘ fun c : Container =>
      if c.id = id then { c with status := f c.status } else c) = fun c => c.status.isPresent := by
    funext c
    simp only [Function.comp_apply]
    split_ifs
    · exact hf c.status
    · rfl
  simp only [present, update, List.filter_map, hkept, List.map_map]
  apply List.map_congr_left
  intro c _
  simp only [Function.comp_apply]
  split_ifs <;> rfl

theorem mem_present_update_of_ne {f : ContainerStatus → ContainerStatus} {x : ContainerId}
    (hne : x ≠ id) : x ∈ (d.update id f).present ↔ x ∈ d.present := by
  constructor
  · intro hx
    obtain ⟨c, hc, hpresent, rfl⟩ := mem_present.mp hx
    obtain ⟨k, hk, ⟨rfl, rfl⟩ | ⟨-, rfl⟩⟩ := mem_update hc
    · exact absurd rfl hne
    · exact mem_present.mpr ⟨c, hk, hpresent, rfl⟩
  · intro hx
    obtain ⟨c, hc, hpresent, rfl⟩ := mem_present.mp hx
    exact mem_present.mpr ⟨c, List.mem_map.mpr ⟨c, hc, if_neg hne⟩, hpresent, rfl⟩

theorem not_mem_present_finish (d : Docker) (id : ContainerId) :
    id ∉ (d.update id .finish).present := by
  intro hx
  obtain ⟨c, hc, hpresent, rfl⟩ := mem_present.mp hx
  obtain ⟨k, -, ⟨-, rfl⟩ | ⟨hne, rfl⟩⟩ := mem_update hc
  · revert hpresent
    cases k.status <;> exact nofun
  · exact hne rfl

theorem present_subset_ids (d : Docker) : d.present ⊆ d.ids := by
  intro x hx
  obtain ⟨c, hc, -, rfl⟩ := mem_present.mp hx
  exact List.mem_map_of_mem hc

theorem act_cases {event : DaemonEvent} (h : d.act event = some d') :
    (∃ port id, event = .creates port id ∧ id ∉ d.ids ∧
      d'.containers = ⟨id, port, .created⟩ :: d.containers) ∨
    (∃ id, event = .starts id ∧ .start id ∈ d.abandoned ∧
      d'.containers = (d.update id .start).containers) ∨
    ∃ id, event = .ends id ∧ d'.containers = (d.update id .finish).containers := by
  cases event with
  | creates port id =>
    simp only [act] at h
    split_ifs at h with hcall
    obtain rfl := Option.some.inj h
    exact .inl ⟨port, id, rfl, hcall.2, rfl⟩
  | starts id =>
    simp only [act] at h
    split_ifs at h with hcall
    obtain rfl := Option.some.inj h
    exact .inr (.inl ⟨id, rfl, hcall, rfl⟩)
  | ends id =>
    simp only [act] at h
    split_ifs at h
    obtain rfl := Option.some.inj h
    exact .inr (.inr ⟨id, rfl, rfl⟩)

theorem ends_of_act (h : d.act (.ends id) = some d') :
    id ∈ d.present ∧ d' = d.update id .finish := by
  simp only [act] at h
  split_ifs at h with hpresent
  exact ⟨hpresent, (Option.some.inj h).symm⟩

theorem abandoned_of_act {event : DaemonEvent} (h : d.act event = some d') :
    d'.abandoned ⊆ d.abandoned := by
  cases event with
  | creates port id =>
    simp only [act] at h
    split_ifs at h
    obtain rfl := Option.some.inj h
    exact List.erase_subset
  | starts id =>
    simp only [act] at h
    split_ifs at h
    obtain rfl := Option.some.inj h
    exact List.erase_subset
  | ends id =>
    simp only [act] at h
    split_ifs at h
    obtain rfl := Option.some.inj h
    exact List.Subset.refl _

theorem ids_of_act {event : DaemonEvent} (h : d.act event = some d') : d.ids ⊆ d'.ids := by
  rcases act_cases h with ⟨port, id, -, -, hc⟩ | ⟨id, -, -, hc⟩ | ⟨id, -, hc⟩
  · rw [ids, ids, hc]
    exact List.subset_cons_self _ _
  · rw [ids_congr hc, ids_update]
    exact List.Subset.refl _
  · rw [ids_congr hc, ids_update]
    exact List.Subset.refl _

end Docker

inductive Probe
  | response (isSuccess : Bool)
  | connectionError
  | timeout
deriving DecidableEq, Repr

def healthCheck : Probe → Except DockerError Bool
  | .response isSuccess => .ok isSuccess
  | .connectionError => .ok false
  | .timeout => .ok false

/-- The first half of `stop_container`: its result when there is nothing to stop, `none`
when the stop call has to be made. -/
def stopContainerInspected : Except ApiError Unit → Option (Except DockerError Unit)
  | .ok _ => none
  | .error (.dockerResponseServerError 404 _) => some (.ok ())
  | .error e => some (.error (.api e))

theorem stopContainerInspected_error (e : ApiError) :
    ∃ result, stopContainerInspected (.error e) = some result := by
  unfold stopContainerInspected
  split
  next h => cases h
  next => exact ⟨_, rfl⟩
  next => exact ⟨_, rfl⟩

end DockerizedLambda
