import Mathlib.Data.Finset.Basic
import Mathlib.Data.List.Nodup
import Mathlib.Data.List.Dedup
import Mathlib.Data.Finset.Dedup

/-! `QueueSet`: a queue and the set of its elements, kept side by side. The hash set
is a finite set; the capacities that `with_capacity`, `reserve` and `shrink_to_fit`
manage are not observable. -/

namespace DockerizedLambda

structure QueueSet (α : Type*) where
  queue : List α
  set : Finset α

namespace QueueSet

variable {α : Type*} [DecidableEq α]

def new : QueueSet α := ⟨[], ∅⟩

def withCapacity (_capacity : Nat) : QueueSet α := ⟨[], ∅⟩

def pushBack (q : QueueSet α) (value : α) : QueueSet α × Bool :=
  if value ∈ q.set then (q, false)
  else (⟨q.queue ++ [value], insert value q.set⟩, true)

def popFront (q : QueueSet α) : Option α × QueueSet α :=
  match q.queue with
  | [] => (none, q)
  | value :: rest => (some value, ⟨rest, q.set.erase value⟩)

def front (q : QueueSet α) : Option α := q.queue.head?

def back (q : QueueSet α) : Option α := q.queue.getLast?

def contains (q : QueueSet α) (value : α) : Bool := decide (value ∈ q.set)

def len (q : QueueSet α) : Nat := q.queue.length

def isEmpty (q : QueueSet α) : Bool := q.queue.isEmpty

def clear (_ : QueueSet α) : QueueSet α := ⟨[], ∅⟩

def get (q : QueueSet α) (index : Nat) : Option α := q.queue[index]?

def shrinkToFit (q : QueueSet α) : QueueSet α := q

def reserve (q : QueueSet α) (_additional : Nat) : QueueSet α := q

structure Agree (q : QueueSet α) : Prop where
  nodup : q.queue.Nodup
  mem_set : ∀ a, a ∈ q.set ↔ a ∈ q.queue

omit [DecidableEq α] in
theorem agree_withCapacity (n : Nat) : (withCapacity n : QueueSet α).Agree :=
  ⟨List.nodup_nil, fun a => by simp [withCapacity]⟩

theorem pushBack_fresh {q : QueueSet α} (h : q.Agree) {a : α} (ha : a ∉ q.queue) :
    q.pushBack a = (⟨q.queue ++ [a], insert a q.set⟩, true) :=
  if_neg fun hm => ha ((h.mem_set a).mp hm)

theorem agree_pushBack {q : QueueSet α} (h : q.Agree) (a : α) : (q.pushBack a).1.Agree := by
  unfold pushBack
  split_ifs with hm
  · exact h
  · have ha : a ∉ q.queue := fun hq => hm ((h.mem_set a).mpr hq)
    refine ⟨?_, fun b => ?_⟩
    · rw [List.nodup_append]
      exact ⟨h.nodup, List.nodup_singleton a, by
        rintro b hb c hc rfl
        exact ha (List.mem_singleton.mp hc ▸ hb)⟩
    · simp only [Finset.mem_insert, List.mem_append, List.mem_singleton, h.mem_set, or_comm]

theorem popFront_cons {q : QueueSet α} {a : α} {rest : List α} (hq : q.queue = a :: rest) :
    q.popFront = (some a, ⟨rest, q.set.erase a⟩) := by
  unfold popFront
  rw [hq]

theorem popFront_nil {q : QueueSet α} (hq : q.queue = []) : q.popFront = (none, q) := by
  unfold popFront
  rw [hq]

theorem agree_popFront {q : QueueSet α} (h : q.Agree) : q.popFront.2.Agree := by
  cases hq : q.queue with
  | nil => rwa [popFront_nil hq]
  | cons a rest =>
    have hn := h.nodup
    rw [hq, List.nodup_cons] at hn
    rw [popFront_cons hq]
    refine ⟨hn.2, fun b => ?_⟩
    simp only [Finset.mem_erase, h.mem_set, hq, List.mem_cons]
    constructor
    · rintro ⟨hne, rfl | hb⟩
      · exact absurd rfl hne
      · exact hb
    · intro hb
      exact ⟨fun he => hn.1 (he ▸ hb), .inr hb⟩

theorem foldl_pushBack {q : QueueSet α} (h : q.Agree) {xs : List α}
    (hn : (q.queue ++ xs).Nodup) :
    (xs.foldl (fun q a => (q.pushBack a).1) q).Agree ∧
      (xs.foldl (fun q a => (q.pushBack a).1) q).queue = q.queue ++ xs := by
  induction xs generalizing q with
  | nil => exact ⟨h, (List.append_nil _).symm⟩
  | cons a xs ih =>
    have ha : a ∉ q.queue := by
      intro hq
      exact (List.nodup_append.mp hn).2.2 a hq a List.mem_cons_self rfl
    have hpush := pushBack_fresh h ha
    have hagree := agree_pushBack h a
    rw [List.foldl_cons]
    have hn' : ((q.pushBack a).1.queue ++ xs).Nodup := by
      rw [hpush]
      simpa using hn
    obtain ⟨hi, he⟩ := ih hagree hn'
    refine ⟨hi, he.trans ?_⟩
    rw [hpush]
    simp

end QueueSet

end DockerizedLambda
