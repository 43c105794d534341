import DockerizedLambda.Port.PortManager
import Mathlib.Data.List.Perm.Basic
import Mathlib.Data.List.Range

/-! Conservation of ports. The available queue, the live owners, the ports on their way
back and the leaked ports always hold, together, each port of the range exactly once. -/

namespace DockerizedLambda

open Transition

theorem PortRange.ports_nodup (r : PortRange) : r.ports.Nodup := by
  apply List.Nodup.map_on _ List.nodup_range'
  intro a ha b hb he
  have hf := r.finish.toNat_lt
  simp only [List.mem_range'_1] at ha hb
  have hn := congrArg UInt16.toNat he
  have hsize : UInt16.size = 65536 := rfl
  rwa [UInt16.toNat_ofNat_of_lt' (by omega), UInt16.toNat_ofNat_of_lt' (by omega)] at hn

theorem PortRange.ports_length (r : PortRange) :
    r.ports.length = r.finish.toNat - r.start.toNat := by
  rw [ports, List.length_map, List.length_range']

namespace PortManager

variable {portRange : PortRange} {m m' : PortManager} {a : Action}

structure Conserved (portRange : PortRange) (m : PortManager) : Prop where
  agree : m.availablePorts.Agree
  opened : m.portRelease.closed = false
  places : portRange.ports.Perm
    (m.availablePorts.queue ++ (m.livePorts ++ (m.inTransit ++ m.leaked)))

theorem availablePorts_new (portRange : PortRange) :
    (new portRange).availablePorts.Agree ∧
      (new portRange).availablePorts.queue = portRange.ports := by
  have hn := portRange.ports_nodup
  exact QueueSet.foldl_pushBack
    (QueueSet.agree_withCapacity (portRange.finish.toNat - portRange.start.toNat))
    (show ([] ++ portRange.ports).Nodup by simpa using hn)

theorem conserved_new (portRange : PortRange) : Conserved portRange (new portRange) := by
  obtain ⟨hagree, hqueue⟩ := availablePorts_new portRange
  refine ⟨hagree, rfl, ?_⟩
  change portRange.ports.Perm (_ ++ [])
  rw [List.append_nil]
  exact List.Perm.of_eq hqueue.symm

theorem livePorts_perm_erase {p : AllocatedPort} (hp : p ∈ m.live) :
    m.livePorts.Perm (p.port :: (m.live.erase p).map AllocatedPort.port) :=
  (List.perm_cons_erase hp).map AllocatedPort.port

theorem drop_cases (hopen : m.portRelease.closed = false) (p : AllocatedPort) :
    (m.portRelease.messages.length < portReleaseChannelCapacity ∧
      ∃ c, m.portRelease.trySend p.port = .ok c ∧
        m.drop p = { m with portRelease := c, live := m.live.erase p }) ∨
    (m.portRelease.trySend p.port = .error .full ∧
      m.drop p = { m with live := m.live.erase p, leaked := p.port :: m.leaked }) := by
  unfold drop
  cases hs : m.portRelease.trySend p.port with
  | ok c => exact .inl ⟨(Channel.trySend_ok hs).2.1, c, rfl, rfl⟩
  | error e =>
    rcases Channel.trySend_error hs with ⟨hclosed, _⟩ | ⟨_, _, rfl⟩
    · exact absurd hclosed (by simp [hopen])
    · exact .inr ⟨rfl, rfl⟩

theorem conserved_allocatePort (h : Conserved portRange m) :
    Conserved portRange m.allocatePort.2 := by
  unfold allocatePort
  cases hq : m.availablePorts.queue with
  | nil =>
    rw [QueueSet.popFront_nil hq]
    exact h
  | cons port rest =>
    have hagree := QueueSet.agree_popFront h.agree
    rw [QueueSet.popFront_cons hq] at hagree ⊢
    refine ⟨hagree, h.opened, h.places.trans ?_⟩
    rw [hq]
    change (port :: (rest ++ _)).Perm (rest ++ (port :: _))
    exact List.perm_middle.symm

theorem conserved_drop (h : Conserved portRange m) {p : AllocatedPort} (hp : p ∈ m.live) :
    Conserved portRange (m.drop p) := by
  have hl := livePorts_perm_erase hp
  have hcount := fun x => hl.count_eq x
  rcases drop_cases h.opened p with ⟨_, c, hs, hd⟩ | ⟨_, hd⟩
  · obtain ⟨_, _, hmsgs, hclosed⟩ := Channel.trySend_ok hs
    rw [hd]
    refine ⟨h.agree, hclosed, h.places.trans ?_⟩
    rw [List.perm_iff_count]
    intro x
    have hx := hcount x
    simp only [livePorts, inTransit, hmsgs, List.count_append, List.count_cons,
      List.count_nil] at hx ⊢
    omega
  · rw [hd]
    refine ⟨h.agree, h.opened, h.places.trans ?_⟩
    rw [List.perm_iff_count]
    intro x
    have hx := hcount x
    simp only [livePorts, inTransit, List.count_append, List.count_cons] at hx ⊢
    omega

theorem recvPort_cases (h : m.recvPort = some m') :
    ∃ port c, m.returning = none ∧ m.portRelease.recv = some (port, c) ∧
      m' = { m with portRelease := c, returning := some port } := by
  unfold recvPort at h
  split at h
  next port c hr hc => exact ⟨port, c, hr, hc, (Option.some.inj h).symm⟩
  next => cases h

theorem reinsert_cases (h : m.reinsert = some m') :
    ∃ port, m.returning = some port ∧
      m' = { m with availablePorts := (m.availablePorts.pushBack port).1, returning := none } := by
  unfold reinsert at h
  split at h
  next port hr => exact ⟨port, hr, (Option.some.inj h).symm⟩
  next => cases h

theorem step_drop {p : AllocatedPort} (h : m.step (.drop p) = some m') :
    p ∈ m.live ∧ m' = m.drop p := by
  simp only [step] at h
  split_ifs at h with hp
  exact ⟨hp, (Option.some.inj h).symm⟩

theorem conserved_recvPort (h : Conserved portRange m) (hs : m.recvPort = some m') :
    Conserved portRange m' := by
  obtain ⟨port, c, hr, hc, rfl⟩ := recvPort_cases hs
  obtain ⟨hmsgs, hclosed⟩ := Channel.recv_eq_some hc
  refine ⟨h.agree, hclosed.trans h.opened, h.places.trans (List.Perm.of_eq ?_)⟩
  simp only [livePorts, inTransit, hr, hmsgs, Option.toList_none, Option.toList_some,
    List.nil_append, List.singleton_append]

theorem nodup_places (h : Conserved portRange m) :
    (m.availablePorts.queue ++ (m.livePorts ++ (m.inTransit ++ m.leaked))).Nodup :=
  h.places.nodup_iff.mp portRange.ports_nodup

theorem returning_not_available (h : Conserved portRange m) {port : UInt16}
    (hr : m.returning = some port) : port ∉ m.availablePorts.queue := by
  -- a port that waits to be re-inserted is not in the available queue
  intro hq
  have hd := (List.nodup_append.mp (nodup_places h)).2.2
  refine hd port hq port ?_ rfl
  simp [inTransit, hr]

theorem conserved_reinsert (h : Conserved portRange m) (hs : m.reinsert = some m') :
    Conserved portRange m' := by
  obtain ⟨port, hr, rfl⟩ := reinsert_cases hs
  have hagree := QueueSet.agree_pushBack h.agree port
  rw [QueueSet.pushBack_fresh h.agree (returning_not_available h hr)] at hagree ⊢
  refine ⟨hagree, h.opened, h.places.trans ?_⟩
  rw [List.perm_iff_count]
  intro x
  simp only [livePorts, inTransit, hr, List.count_append, Option.toList_some,
    Option.toList_none, List.count_nil]
  omega

theorem conserved_step (h : Conserved portRange m) (hs : m.step a = some m') :
    Conserved portRange m' := by
  cases a with
  | allocatePort =>
    obtain rfl := Option.some.inj hs
    exact conserved_allocatePort h
  | drop p =>
    obtain ⟨hp, rfl⟩ := step_drop hs
    exact conserved_drop h hp
  | recvPort => exact conserved_recvPort h hs
  | reinsert => exact conserved_reinsert h hs

theorem conserved_run {tr : List (PortManager × Action)} (h : Run (system portRange) tr m) :
    Conserved portRange m :=
  h.invariant (I := Conserved portRange) (conserved_new portRange)
    fun _ hi hs => conserved_step hi hs

theorem nodup_live (h : Conserved portRange m) : m.livePorts.Nodup :=
  (List.nodup_append.mp (List.nodup_append.mp (nodup_places h)).2.1).1

theorem leaked_step (h : Conserved portRange m) (hs : m.step a = some m') :
    m'.leaked = m.leaked ∨ ∃ p, a = .drop p ∧ m.portRelease.trySend p.port = .error .full ∧
      m'.leaked = p.port :: m.leaked := by
  cases a with
  | allocatePort =>
    obtain rfl := Option.some.inj hs
    unfold allocatePort
    split <;> exact .inl rfl
  | drop p =>
    obtain ⟨-, rfl⟩ := step_drop hs
    rcases drop_cases h.opened p with ⟨_, c, _, hd⟩ | ⟨hfull, hd⟩
    · exact .inl (by rw [hd])
    · exact .inr ⟨p, rfl, hfull, by rw [hd]⟩
  | recvPort =>
    obtain ⟨_, _, _, _, rfl⟩ := recvPort_cases hs
    exact .inl rfl
  | reinsert =>
    obtain ⟨_, _, rfl⟩ := reinsert_cases hs
    exact .inl rfl

theorem release_room (h : Conserved portRange m)
    (hsize : portRange.ports.length ≤ portReleaseChannelCapacity) {p : AllocatedPort}
    (hp : p ∈ m.live) : m.portRelease.messages.length < portReleaseChannelCapacity := by
  -- with at most as many ports as the channel holds, a live owner always finds room
  have hlen := h.places.length_eq
  have hpos : 0 < m.live.length := List.length_pos_of_mem hp
  simp only [livePorts, inTransit, List.length_append, List.length_map] at hlen
  omega

theorem leaked_run (hsize : portRange.ports.length ≤ portReleaseChannelCapacity)
    {tr : List (PortManager × Action)} (h : Run (system portRange) tr m) : m.leaked = [] := by
  refine h.invariant (I := fun m => m.leaked = []) rfl ?_
  intro tr s a s' hr hnil hs
  have hc := conserved_run hr
  rcases leaked_step hc hs with he | ⟨p, rfl, hfull, _⟩
  · exact he.trans hnil
  · have hp : p ∈ s.live := by
      by_contra hp
      simp [system, step, hp] at hs
    obtain ⟨c, hc'⟩ := Channel.trySend_room p.port hc.opened (release_room hc hsize hp)
    rw [hc'] at hfull
    cases hfull

theorem allocatePort_error {e : PortError} (h : m.allocatePort.1 = .error e) :
    m.availablePorts.queue = [] := by
  unfold allocatePort at h
  cases hq : m.availablePorts.queue with
  | nil => rfl
  | cons port rest =>
    rw [QueueSet.popFront_cons hq] at h
    cases h

structure PortsAccounted (portRange : PortRange) (m : PortManager) : Prop where
  onePlace : ∀ port, m.availablePorts.queue.count port + m.livePorts.count port +
    m.inTransit.count port + m.leaked.count port = if port ∈ portRange.ports then 1 else 0
  ownersDistinct : m.livePorts.Nodup
  noDuplicateReturn : ∀ port, m.returning = some port → (m.availablePorts.pushBack port).2 = true
  leakOnlyWhenFull : ∀ a m', m.step a = some m' → m'.leaked = m.leaked ∨
    ∃ p, a = .drop p ∧ m.portRelease.trySend p.port = .error .full ∧
      m'.leaked = p.port :: m.leaked
  smallRange : portRange.ports.length ≤ portReleaseChannelCapacity →
    (∀ p ∈ m.live, ∃ c, m.portRelease.trySend p.port = .ok c) ∧ m.leaked = [] ∧
      ∀ e, m.allocatePort.1 = .error e →
        ∀ port ∈ portRange.ports, port ∈ m.livePorts ∨ port ∈ m.inTransit

theorem ports_accounted {tr : List (PortManager × Action)} (h : Run (system portRange) tr m) :
    PortsAccounted portRange m := by
  have hc := conserved_run h
  refine ⟨fun port => ?_, nodup_live hc, fun port hr => ?_, fun a m' hs => leaked_step hc hs,
    fun hsize => ⟨fun p hp => ?_, leaked_run hsize h, fun e he port hport => ?_⟩⟩
  · have hcount := hc.places.count_eq port
    simp only [List.count_append] at hcount
    rw [Nat.add_assoc, Nat.add_assoc, ← hcount]
    exact portRange.ports_nodup.count
  · rw [QueueSet.pushBack_fresh hc.agree (returning_not_available hc hr)]
  · exact Channel.trySend_room p.port hc.opened (release_room hc hsize hp)
  · have hm := (hc.places.mem_iff (a := port)).mp hport
    rw [allocatePort_error he, leaked_run hsize h] at hm
    simpa using hm

example : (PortRange.mk 8081 9000).ports.length ≤ portReleaseChannelCapacity := by
  rw [PortRange.ports_length]
  decide

theorem ports_accounted_after_return :
    ∃ tr m, Run (system ⟨8081, 8083⟩) tr m ∧ m.availablePorts.queue = [8082, 8081] ∧
      PortsAccounted ⟨8081, 8083⟩ m := by
  obtain ⟨tr, m, ht, hq⟩ : ∃ tr m, (system ⟨8081, 8083⟩).trace [] (new ⟨8081, 8083⟩)
      [.allocatePort, .drop ⟨8081⟩, .recvPort, .reinsert] = some (tr, m) ∧
      m.availablePorts.queue = [8082, 8081] := ⟨_, _, rfl, rfl⟩
  have hr := Run.start.trace ht
  exact ⟨tr, m, hr, hq, ports_accounted hr⟩

end PortManager

end DockerizedLambda
