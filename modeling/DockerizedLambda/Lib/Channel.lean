import Mathlib.Data.List.Basic

/-! A bounded channel: a queue of at most `cap` messages, sent to without blocking
and closed for good when its receiver is dropped. -/

inductive TrySendError
  | full
  | closed
deriving DecidableEq, Repr

structure Channel (α : Type*) (cap : Nat) where
  messages : List α
  closed : Bool
  bounded : messages.length ≤ cap

namespace Channel

variable {α : Type*} {cap : Nat}

def empty : Channel α cap := ⟨[], false, Nat.zero_le _⟩

/-- A closed channel refuses before it looks for room. -/
def trySend (c : Channel α cap) (a : α) : Except TrySendError (Channel α cap) :=
  if c.closed then .error .closed
  else if h : c.messages.length < cap then
    .ok ⟨c.messages ++ [a], false, by simpa using Nat.succ_le_of_lt h⟩
  else .error .full

def accepts (c : Channel α cap) : Bool := !c.closed && decide (c.messages.length < cap)

/-- A send whose refusal is only reported. -/
def offer (c : Channel α cap) (a : α) : Channel α cap :=
  match c.trySend a with
  | .ok c' => c'
  | .error _ => c

def recv (c : Channel α cap) : Option (α × Channel α cap) :=
  match c with
  | ⟨[], _, _⟩ => none
  | ⟨a :: rest, closed, h⟩ => some (a, ⟨rest, closed, by simp at h; omega⟩)

/-- The receiver is dropped, and with it every message still in the channel. -/
def close (_ : Channel α cap) : Channel α cap := ⟨[], true, Nat.zero_le _⟩

@[simp] theorem empty_messages : (empty : Channel α cap).messages = [] := rfl

theorem trySend_ok {c c' : Channel α cap} {a : α} (h : c.trySend a = .ok c') :
    c.closed = false ∧ c.messages.length < cap ∧
      c'.messages = c.messages ++ [a] ∧ c'.closed = false := by
  unfold trySend at h
  split_ifs at h with hclosed hroom
  obtain rfl := Except.ok.inj h
  exact ⟨by simpa using hclosed, hroom, rfl, rfl⟩

theorem trySend_error {c : Channel α cap} {a : α} {e : TrySendError}
    (h : c.trySend a = .error e) :
    c.closed = true ∧ e = .closed ∨ c.closed = false ∧ c.messages.length = cap ∧ e = .full := by
  unfold trySend at h
  split_ifs at h with hclosed hroom
  · exact .inl ⟨hclosed, (Except.error.inj h).symm⟩
  · have hle := c.bounded
    exact .inr ⟨by simpa using hclosed, by omega, (Except.error.inj h).symm⟩

theorem accepts_iff {c : Channel α cap} :
    c.accepts = true ↔ c.closed = false ∧ c.messages.length < cap := by
  simp [accepts]

theorem accepts_eq_false_iff {c : Channel α cap} :
    c.accepts = false ↔ c.closed = true ∨ c.messages.length = cap := by
  have hle := c.bounded
  simp only [accepts, Bool.and_eq_false_iff, Bool.not_eq_false', decide_eq_false_iff_not]
  constructor <;> rintro (h | h)
  · exact .inl h
  · exact .inr (by omega)
  · exact .inl h
  · exact .inr (by omega)

theorem offer_accepted {c : Channel α cap} (h : c.accepts = true) (a : α) :
    (c.offer a).messages = c.messages ++ [a] ∧ (c.offer a).closed = false := by
  obtain ⟨hopen, hroom⟩ := accepts_iff.mp h
  simp [offer, trySend, hopen, hroom]

theorem offer_refused {c : Channel α cap} (h : c.accepts = false) (a : α) : c.offer a = c := by
  rcases accepts_eq_false_iff.mp h with hc | hc
  · simp [offer, trySend, hc]
  · by_cases hclosed : c.closed = true <;> simp [offer, trySend, hc, hclosed]

@[simp] theorem offer_closed (c : Channel α cap) (a : α) : (c.offer a).closed = c.closed := by
  cases h : c.accepts with
  | true => rw [(offer_accepted h a).2, (accepts_iff.mp h).1]
  | false => rw [offer_refused h]

theorem trySend_room {c : Channel α cap} (a : α) (hopen : c.closed = false)
    (hroom : c.messages.length < cap) : ∃ c', c.trySend a = .ok c' := by
  simp [trySend, hopen, hroom]

theorem recv_eq_some {c c' : Channel α cap} {a : α} (h : c.recv = some (a, c')) :
    c.messages = a :: c'.messages ∧ c'.closed = c.closed := by
  obtain ⟨messages, closed, hle⟩ := c
  cases messages with
  | nil => simp [recv] at h
  | cons b rest =>
    obtain ⟨rfl, rfl⟩ := Prod.mk.inj (Option.some.inj h)
    exact ⟨rfl, rfl⟩

end Channel
