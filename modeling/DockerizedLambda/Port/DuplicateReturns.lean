import DockerizedLambda.DataStructure.QueueHistory
import DockerizedLambda.Port.Conservation

/-! A `PortManager` whose release channel carries any messages at all, repeated ones too.
What keeps its queue within the range is the `QueueSet` alone. -/

namespace DockerizedLambda

open Transition

namespace PortManager

inductive Feeding
  | manager (action : Action)
  | send (port : UInt16)
deriving DecidableEq, Repr

def feed (portRange : PortRange) (m : PortManager) : Feeding → Option PortManager
  | .manager action => m.step action
  | .send port =>
    if port ∈ portRange.ports then some { m with portRelease := m.portRelease.offer port }
    else none

def fedSystem (portRange : PortRange) : System PortManager Feeding :=
  ⟨new portRange, feed portRange⟩

structure WithinRange (portRange : PortRange) (m : PortManager) : Prop where
  agree : m.availablePorts.Agree
  available : m.availablePorts.queue ⊆ portRange.ports
  live : m.livePorts ⊆ portRange.ports
  messages : m.portRelease.messages ⊆ portRange.ports
  returning : m.returning.toList ⊆ portRange.ports

variable {portRange : PortRange} {m m' : PortManager} {a : Action}

theorem offer_subset {c : Channel UInt16 portReleaseChannelCapacity} {ports : List UInt16}
    (h : c.messages ⊆ ports) {port : UInt16} (hp : port ∈ ports) :
    (c.offer port).messages ⊆ ports := by
  cases ha : c.accepts with
  | true =>
    rw [(Channel.offer_accepted ha port).1]
    exact List.append_subset.mpr ⟨h, List.cons_subset.mpr ⟨hp, List.nil_subset _⟩⟩
  | false => rwa [Channel.offer_refused ha]

theorem drop_fields (m : PortManager) (p : AllocatedPort) :
    (m.drop p).availablePorts = m.availablePorts ∧ (m.drop p).live = m.live.erase p ∧
      (m.drop p).returning = m.returning ∧
      (m.drop p).portRelease = m.portRelease.offer p.port := by
  unfold drop Channel.offer
  cases hs : m.portRelease.trySend p.port with
  | ok c => exact ⟨rfl, rfl, rfl, rfl⟩
  | error e => cases e <;> exact ⟨rfl, rfl, rfl, rfl⟩

theorem withinRange_new (portRange : PortRange) : WithinRange portRange (new portRange) := by
  obtain ⟨hagree, hqueue⟩ := availablePorts_new portRange
  exact ⟨hagree, (List.Perm.of_eq hqueue).subset, List.nil_subset _, List.nil_subset _,
    List.nil_subset _⟩

theorem withinRange_step (h : WithinRange portRange m) (hs : m.step a = some m') :
    WithinRange portRange m' := by
  cases a with
  | allocatePort =>
    obtain rfl := Option.some.inj hs
    unfold allocatePort
    cases hq : m.availablePorts.queue with
    | nil =>
      rw [QueueSet.popFront_nil hq]
      exact h
    | cons port rest =>
      have hagree := QueueSet.agree_popFront h.agree
      have havailable := h.available
      rw [hq, List.cons_subset] at havailable
      rw [QueueSet.popFront_cons hq] at hagree ⊢
      exact ⟨hagree, havailable.2, List.cons_subset.mpr ⟨havailable.1, h.live⟩, h.messages,
        h.returning⟩
  | drop p =>
    obtain ⟨hp, rfl⟩ := step_drop hs
    obtain ⟨havailable, hlive, hreturning, hrelease⟩ := drop_fields m p
    have hport : p.port ∈ portRange.ports := h.live (List.mem_map_of_mem hp)
    refine ⟨by rw [havailable]; exact h.agree, by rw [havailable]; exact h.available, ?_, ?_,
      by rw [hreturning]; exact h.returning⟩
    · rw [livePorts, hlive]
      exact fun x hx => h.live (List.map_subset _ List.erase_subset hx)
    · rw [hrelease]
      exact offer_subset h.messages hport
  | recvPort =>
    obtain ⟨port, c, _, hc, rfl⟩ := recvPort_cases hs
    have hmessages := h.messages
    rw [(Channel.recv_eq_some hc).1, List.cons_subset] at hmessages
    exact ⟨h.agree, h.available, h.live, hmessages.2,
      List.cons_subset.mpr ⟨hmessages.1, List.nil_subset _⟩⟩
  | reinsert =>
    obtain ⟨port, hr, rfl⟩ := reinsert_cases hs
    have hport : port ∈ portRange.ports := h.returning (by rw [hr]; exact List.mem_cons_self)
    refine ⟨QueueSet.agree_pushBack h.agree port, ?_, h.live, h.messages, List.nil_subset _⟩
    intro x hx
    rcases (QueueSet.mem_step h.agree (a := .pushBack port) rfl rfl).mp hx with hnew | ⟨hold, _⟩
    · obtain ⟨he, _⟩ := QueueSet.accepted_eq_some.mp hnew
      cases he
      exact hport
    · exact h.available hold

theorem withinRange_run {tr : List (PortManager × Feeding)} (h : Run (fedSystem portRange) tr m) :
    WithinRange portRange m := by
  refine h.invariant (I := WithinRange portRange) (withinRange_new portRange) ?_
  intro _ s a s' _ hi hs
  cases a with
  | manager action => exact withinRange_step hi hs
  | send port =>
    simp only [fedSystem, feed] at hs
    split_ifs at hs with hport
    obtain rfl := Option.some.inj hs
    exact ⟨hi.agree, hi.available, hi.live, offer_subset hi.messages hport, hi.returning⟩

theorem fed_queue_length {tr : List (PortManager × Feeding)} (h : Run (fedSystem portRange) tr m) :
    m.availablePorts.queue.length ≤ portRange.ports.length := by
  have hw := withinRange_run h
  exact (List.subperm_of_subset hw.agree.nodup hw.available).length_le

end PortManager

namespace QueueSet

theorem duplicate_free_fifo {α : Type*} [DecidableEq α] {start q : QueueSet α}
    (hc : Created start) {tr : List (QueueSet α × Action α)} (h : Run (system start) tr q)
    {portRange : PortRange} {fed : List (PortManager × PortManager.Feeding)} {m : PortManager}
    (hm : Run (PortManager.fedSystem portRange) fed m) :
    DuplicateFreeFifo tr q ∧ m.availablePorts.queue.length ≤ portRange.ports.length :=
  ⟨duplicateFreeFifo_run hc h, PortManager.fed_queue_length hm⟩

theorem duplicate_free_fifo_after_repeats :
    ∃ tr q fed m, Run (system (withCapacity 2 : QueueSet Nat)) tr q ∧ q.queue = [8, 7] ∧
      Run (PortManager.fedSystem ⟨8081, 8083⟩) fed m ∧ m.availablePorts.queue = [8082, 8081] ∧
      DuplicateFreeFifo tr q ∧
      m.availablePorts.queue.length ≤ (PortRange.mk 8081 8083).ports.length := by
  obtain ⟨tr, q, ht, hq⟩ : ∃ tr q, (system (withCapacity 2 : QueueSet Nat)).trace []
      (withCapacity 2) [.pushBack 5, .clear, .pushBack 7, .pushBack 7, .pushBack 8, .popFront,
        .shrinkToFit, .pushBack 7] = some (tr, q) ∧ q.queue = [8, 7] := ⟨_, _, rfl, by decide⟩
  obtain ⟨fed, m, hf, hm⟩ : ∃ fed m, (PortManager.fedSystem ⟨8081, 8083⟩).trace []
      (PortManager.new ⟨8081, 8083⟩) [.manager .allocatePort, .send 8081, .send 8081,
        .manager (.drop ⟨8081⟩), .manager .recvPort, .manager .reinsert, .manager .recvPort,
        .manager .reinsert, .manager .recvPort, .manager .reinsert] = some (fed, m) ∧
      m.availablePorts.queue = [8082, 8081] := ⟨_, _, rfl, rfl⟩
  have hr := Run.start.trace ht
  have hfed := Run.start.trace hf
  obtain ⟨hfifo, hlength⟩ := duplicate_free_fifo (.withCapacity 2) hr hfed
  exact ⟨tr, q, fed, m, hr, hq, hfed, hm, hfifo, hlength⟩

end QueueSet

end DockerizedLambda
