import DockerizedLambda.Lib.Fifo
import DockerizedLambda.Port.Conservation

/-! The rotation of the ports. Both the available queue and the way back to it are first
in, first out, so a port comes up again after all that were available when it returned. -/

namespace DockerizedLambda

open Transition

namespace PortManager

def allocated (m : PortManager) : Action → Option UInt16
  | .allocatePort =>
    match m.allocatePort.1 with
    | .ok p => some p.port
    | .error _ => none
  | _ => none

def released (m : PortManager) : Action → Option UInt16
  | .drop p =>
    match m.portRelease.trySend p.port with
    | .ok _ => some p.port
    | .error _ => none
  | _ => none

def reinserted (m : PortManager) : Action → Option UInt16
  | .reinsert => m.returning
  | _ => none

variable {portRange : PortRange} {m m' : PortManager} {a : Action}

theorem allocated_cons {port : UInt16} {rest : List UInt16}
    (hq : m.availablePorts.queue = port :: rest) : allocated m .allocatePort = some port := by
  unfold allocated allocatePort
  rw [QueueSet.popFront_cons hq]

theorem allocated_eq_some {port : UInt16} (h : allocated m a = some port) :
    a = .allocatePort ∧ ∃ rest, m.availablePorts.queue = port :: rest ∧
      m.allocatePort.2.availablePorts.queue = rest := by
  cases a with
  | allocatePort =>
    cases hq : m.availablePorts.queue with
    | nil =>
      unfold allocated allocatePort at h
      rw [QueueSet.popFront_nil hq] at h
      cases h
    | cons head rest =>
      obtain rfl := Option.some.inj ((allocated_cons hq).symm.trans h)
      refine ⟨rfl, rest, rfl, ?_⟩
      unfold allocatePort
      rw [QueueSet.popFront_cons hq]
  | _ => cases h

theorem available_step (h : Conserved portRange m) (hs : m.step a = some m') :
    m.availablePorts.queue ++ (reinserted m a).toList =
      (allocated m a).toList ++ m'.availablePorts.queue := by
  cases a with
  | allocatePort =>
    obtain rfl := Option.some.inj hs
    cases hq : m.availablePorts.queue with
    | nil =>
      unfold allocated allocatePort
      rw [QueueSet.popFront_nil hq, hq]
      rfl
    | cons port rest =>
      rw [allocated_cons hq, allocatePort, QueueSet.popFront_cons hq]
      exact List.append_nil _
  | drop p =>
    obtain ⟨-, rfl⟩ := step_drop hs
    have hd : (m.drop p).availablePorts = m.availablePorts := by
      rcases drop_cases h.opened p with ⟨_, c, _, hd⟩ | ⟨_, hd⟩ <;> rw [hd]
    rw [hd]
    exact List.append_nil _
  | recvPort =>
    obtain ⟨_, _, _, _, rfl⟩ := recvPort_cases hs
    exact List.append_nil _
  | reinsert =>
    obtain ⟨port, hr, rfl⟩ := reinsert_cases hs
    rw [QueueSet.pushBack_fresh h.agree (returning_not_available h hr)]
    simp [reinserted, allocated, hr]

theorem transit_step (h : Conserved portRange m) (hs : m.step a = some m') :
    m.inTransit ++ (released m a).toList = (reinserted m a).toList ++ m'.inTransit := by
  cases a with
  | allocatePort =>
    obtain rfl := Option.some.inj hs
    have hkept : m.allocatePort.2.inTransit = m.inTransit := by
      unfold allocatePort
      split <;> rfl
    rw [hkept]
    exact List.append_nil _
  | drop p =>
    obtain ⟨-, rfl⟩ := step_drop hs
    rcases drop_cases h.opened p with ⟨_, c, hsend, hd⟩ | ⟨hfull, hd⟩
    · obtain ⟨_, _, hmessages, _⟩ := Channel.trySend_ok hsend
      simp [hd, released, reinserted, inTransit, hsend, hmessages]
    · simp [hd, released, reinserted, inTransit, hfull]
  | recvPort =>
    obtain ⟨port, c, hr, hc, rfl⟩ := recvPort_cases hs
    simp [released, reinserted, inTransit, hr, (Channel.recv_eq_some hc).1]
  | reinsert =>
    obtain ⟨port, hr, rfl⟩ := reinsert_cases hs
    simp [released, reinserted, inTransit, hr]

section Runs

variable {earlier later : List (PortManager × Action)} {m₀ : PortManager}

theorem available_run (h₀ : Run (system portRange) earlier m₀)
    (h : Run ((system portRange).startingAt m₀) later m) :
    m₀.availablePorts.queue ++ outputs reinserted later =
      outputs allocated later ++ m.availablePorts.queue :=
  h.fifo (q := fun m => m.availablePorts.queue) fun hr hs =>
    available_step (conserved_run (h₀.append hr)) hs

theorem transit_run (h : Run (system portRange) later m) :
    outputs released later = outputs reinserted later ++ m.inTransit :=
  h.fifo (q := inTransit) fun hr hs => transit_step (conserved_run hr) hs

theorem rotation_run (h : Run (system portRange) (later ++ (m₀, .reinsert) :: earlier) m)
    {port : UInt16} (hport : m₀.returning = some port) :
    m₀.availablePorts.queue ++ port :: outputs reinserted later =
      outputs allocated later ++ m.availablePorts.queue := by
  obtain ⟨h₀, m₁, hs, h₁⟩ := h.split
  have hstep := available_step (a := .reinsert) (conserved_run h₀) hs
  have hqueue : m₁.availablePorts.queue = m₀.availablePorts.queue ++ [port] := by
    rw [reinserted, hport] at hstep
    exact hstep.symm
  rw [← available_run (h₀.next hs) h₁, hqueue, List.append_assoc, List.singleton_append]

theorem allocated_fresh (h : Run (system portRange) earlier m₀) {port : UInt16}
    (hport : allocated m₀ .allocatePort = some port) :
    port ∉ m₀.allocatePort.2.availablePorts.queue := by
  obtain ⟨_, rest, hq, hrest⟩ := allocated_eq_some hport
  have hnodup := (conserved_run h).agree.nodup
  rw [hq, List.nodup_cons] at hnodup
  rw [hrest]
  exact hnodup.1

theorem reinserted_between {between : List (PortManager × Action)} {m₁ : PortManager}
    (h : Run (system portRange) (between ++ (m₁, .allocatePort) :: earlier) m) {port : UInt16}
    (h₁ : allocated m₁ .allocatePort = some port) (hq : port ∈ m.availablePorts.queue) :
    ∃ after m₀ before, between = after ++ (m₀, .reinsert) :: before ∧
      m₀.returning = some port := by
  -- a port that was allocated comes back before it is allocated again
  obtain ⟨hr, m₂, hs, hrun⟩ := h.split
  obtain rfl := Option.some.inj hs
  have hlaw := available_run (hr.next hs) hrun
  have hmem : port ∈ m₁.allocatePort.2.availablePorts.queue ++ outputs reinserted between := by
    rw [hlaw]
    exact List.mem_append_right _ hq
  have hback := (List.mem_append.mp hmem).resolve_left (allocated_fresh hr h₁)
  obtain ⟨⟨m₀, a⟩, hp, hreturn⟩ := mem_outputs.mp hback
  cases a with
  | reinsert =>
    obtain ⟨after, before, rfl⟩ := List.append_of_mem hp
    exact ⟨after, m₀, before, rfl, hreturn⟩
  | _ => cases hreturn

end Runs

structure PortsRotate (portRange : PortRange) (tr : List (PortManager × Action)) : Prop where
  nextAllocations : ∀ later m₀ earlier port, tr = later ++ (m₀, .reinsert) :: earlier →
    m₀.returning = some port →
      (outputs allocated later).take (m₀.availablePorts.queue.length + 1) <+:
        m₀.availablePorts.queue ++ [port]
  gracePeriod : ∀ later m₂ between m₁ earlier port,
    tr = later ++ (m₂, .allocatePort) :: (between ++ (m₁, .allocatePort) :: earlier) →
    allocated m₂ .allocatePort = some port → allocated m₁ .allocatePort = some port →
    port ∉ outputs allocated between →
      ∃ after m₀ before, between = after ++ (m₀, .reinsert) :: before ∧
        m₀.returning = some port ∧ outputs allocated after = m₀.availablePorts.queue ∧
        m₀.availablePorts.queue.Nodup
  releaseOrder : outputs allocated tr <+: portRange.ports ++ outputs released tr

theorem ports_rotate {tr : List (PortManager × Action)} (h : Run (system portRange) tr m) :
    PortsRotate portRange tr := by
  refine ⟨?_, ?_, ?_⟩
  · rintro later m₀ earlier port rfl hport
    have hlaw := rotation_run h hport
    have hprefix : outputs allocated later <+:
        (m₀.availablePorts.queue ++ [port]) ++ outputs reinserted later := by
      rw [List.append_assoc, List.singleton_append, hlaw]
      exact List.prefix_append _ _
    have htake := hprefix.take (m₀.availablePorts.queue.length + 1)
    rwa [List.take_left' (by simp)] at htake
  · rintro later m₂ between m₁ earlier port rfl h₂ h₁ hnone
    obtain ⟨hr, _, _⟩ := h.split
    obtain ⟨_, rest, hq, _⟩ := allocated_eq_some h₂
    obtain ⟨after, m₀, before, rfl, hport⟩ :=
      reinserted_between hr h₁ (hq ▸ List.mem_cons_self)
    rw [List.append_assoc, List.cons_append] at hr
    have hlaw := rotation_run hr hport
    have hconserved := conserved_run hr.split.1
    have hafter : port ∉ outputs allocated after := by
      rw [outputs_append] at hnone
      exact fun hm => hnone (List.mem_append_right _ hm)
    rw [hq] at hlaw
    refine ⟨after, m₀, before, rfl, hport, ?_, hconserved.agree.nodup⟩
    exact (List.eq_of_append_cons_eq (returning_not_available hconserved hport) hafter hlaw).symm
  · have hlaw := available_run .start h
    have hnew : (system portRange).init.availablePorts.queue = portRange.ports :=
      (availablePorts_new portRange).2
    rw [hnew] at hlaw
    rw [transit_run h, ← List.append_assoc, hlaw, List.append_assoc]
    exact List.prefix_append _ _

theorem ports_rotate_twice :
    ∃ tr m, Run (system ⟨8081, 8084⟩) tr m ∧
      outputs allocated tr = [8081, 8082, 8083, 8082, 8081] ∧ PortsRotate ⟨8081, 8084⟩ tr := by
  obtain ⟨tr, m, ht, hallocated⟩ : ∃ tr m, (system ⟨8081, 8084⟩).trace [] (new ⟨8081, 8084⟩)
      [.allocatePort, .allocatePort, .drop ⟨8082⟩, .recvPort, .reinsert, .drop ⟨8081⟩,
        .allocatePort, .recvPort, .allocatePort, .drop ⟨8082⟩, .reinsert, .recvPort, .reinsert,
        .allocatePort] = some (tr, m) ∧
      outputs allocated tr = [8081, 8082, 8083, 8082, 8081] := ⟨_, _, rfl, rfl⟩
  have hr := Run.start.trace ht
  exact ⟨tr, m, hr, hallocated, ports_rotate hr⟩

end PortManager

end DockerizedLambda
