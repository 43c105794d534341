import DockerizedLambda.Lib.Fifo
import DockerizedLambda.DataStructure.QueueSet
import Mathlib.Data.Finset.Card

/-! The operations of a `QueueSet` in any order, against what a queue without duplicates
should have done with the values that went into it. -/

namespace DockerizedLambda.QueueSet

open Transition

variable {α : Type*} [DecidableEq α]

inductive Action (α : Type*)
  | pushBack (value : α)
  | popFront
  | clear
  | reserve (additional : Nat)
  | shrinkToFit
deriving DecidableEq, Repr

def step (q : QueueSet α) : Action α → Option (QueueSet α)
  | .pushBack value => some (q.pushBack value).1
  | .popFront => some q.popFront.2
  | .clear => some q.clear
  | .reserve additional => some (q.reserve additional)
  | .shrinkToFit => some q.shrinkToFit

inductive Created : QueueSet α → Prop
  | new : Created new
  | withCapacity (capacity : Nat) : Created (withCapacity capacity)

def system (start : QueueSet α) : System (QueueSet α) (Action α) := ⟨start, step⟩

def accepted (q : QueueSet α) : Action α → Option α
  | .pushBack value => if (q.pushBack value).2 then some value else none
  | _ => none

def popped (q : QueueSet α) : Action α → Option α
  | .popFront => q.popFront.1
  | _ => none

def clears : Action α → Bool
  | .clear => true
  | _ => false

def Held (value : α) (tr : List (QueueSet α × Action α)) : Prop :=
  ∃ later q earlier, tr = later ++ (q, .pushBack value) :: earlier ∧
    (q.pushBack value).2 = true ∧ ∀ p ∈ later, p.2 ≠ .clear ∧ popped p.1 p.2 ≠ some value

variable {start q q' : QueueSet α} {a : Action α} {tr : List (QueueSet α × Action α)}

omit [DecidableEq α] in
theorem Created.empty (h : Created start) : start = ⟨[], ∅⟩ := by
  cases h <;> rfl

theorem agree_step (h : q.Agree) (hs : q.step a = some q') : q'.Agree := by
  cases a with
  | pushBack value => exact Option.some.inj hs ▸ agree_pushBack h value
  | popFront => exact Option.some.inj hs ▸ agree_popFront h
  | clear => exact Option.some.inj hs ▸ agree_withCapacity 0
  | reserve
  | shrinkToFit => exact Option.some.inj hs ▸ h

theorem agree_run (hc : Created start) (h : Run (system start) tr q) : q.Agree := by
  refine h.invariant (I := Agree) ?_ fun _ hi hs => agree_step hi hs
  rw [system, hc.empty]
  exact agree_withCapacity 0

theorem accepted_eq_some {value : α} :
    accepted q a = some value ↔ a = .pushBack value ∧ (q.pushBack value).2 = true := by
  cases a with
  | pushBack w =>
    by_cases hw : (q.pushBack w).2 = true
    · simp only [accepted, hw, if_true, Option.some.injEq, Action.pushBack.injEq]
      exact ⟨fun he => ⟨he, he ▸ hw⟩, And.left⟩
    · simp only [accepted, hw, Action.pushBack.injEq]
      exact ⟨nofun, fun ⟨he, hv⟩ => absurd (he ▸ hv) hw⟩
  | _ => exact ⟨nofun, fun ⟨he, _⟩ => nomatch he⟩

theorem accepted_fresh (h : q.Agree) {value : α} (hnew : accepted q a = some value) :
    value ∉ q.queue := by
  obtain ⟨rfl, htrue⟩ := accepted_eq_some.mp hnew
  intro hq
  have hset : value ∈ q.set := (h.mem_set value).mpr hq
  unfold pushBack at htrue
  rw [if_pos hset] at htrue
  cases htrue

theorem queue_step (ha : clears a = false) (hs : q.step a = some q') :
    q.queue ++ (accepted q a).toList = (popped q a).toList ++ q'.queue := by
  cases a with
  | pushBack value =>
    obtain rfl := Option.some.inj hs
    by_cases hset : value ∈ q.set
    · have hpush : q.pushBack value = (q, false) := if_pos hset
      simp [accepted, popped, hpush]
    · have hpush : q.pushBack value = (⟨q.queue ++ [value], insert value q.set⟩, true) :=
        if_neg hset
      simp [accepted, popped, hpush]
  | popFront =>
    obtain rfl := Option.some.inj hs
    unfold popped
    cases hq : q.queue with
    | nil => rw [popFront_nil hq, hq]; rfl
    | cons value rest => rw [popFront_cons hq]; exact List.append_nil _
  | clear => cases ha
  | reserve
  | shrinkToFit => exact Option.some.inj hs ▸ List.append_nil _

theorem mem_step (h : q.Agree) (ha : clears a = false) (hs : q.step a = some q') {value : α} :
    value ∈ q'.queue ↔ accepted q a = some value ∨ value ∈ q.queue ∧ popped q a ≠ some value := by
  -- the queue has no duplicates, so a value that is popped is not in it any more
  have hqueue := queue_step ha hs
  have hmem : value ∈ q.queue ∨ accepted q a = some value ↔
      popped q a = some value ∨ value ∈ q'.queue := by
    rw [← Option.mem_toList, ← Option.mem_toList, ← List.mem_append, ← List.mem_append, hqueue]
  have hnodup : ((popped q a).toList ++ q'.queue).Nodup := by
    rw [← hqueue, List.nodup_append]
    refine ⟨h.nodup, Option.toList_nodup _, fun x hx y hy he => ?_⟩
    exact accepted_fresh h (Option.mem_toList.mp hy) (he ▸ hx)
  have hpopped : popped q a = some value → value ∉ q'.queue := fun hp hq =>
    (List.nodup_append.mp hnodup).2.2 value (Option.mem_toList.mpr hp) value hq rfl
  constructor
  · intro hq
    rcases hmem.mpr (.inr hq) with hold | hnew
    · exact .inr ⟨hold, fun hp => hpopped hp hq⟩
    · exact .inl hnew
  · rintro (hnew | ⟨hold, hkept⟩)
    · obtain ⟨rfl, _⟩ := accepted_eq_some.mp hnew
      exact (hmem.mp (.inr hnew)).resolve_left nofun
    · exact (hmem.mp (.inl hold)).resolve_left hkept

theorem accepted_run (hc : Created start) (h : Run (system start) tr q) :
    outputs accepted (since clears tr) = outputs popped (since clears tr) ++ q.queue := by
  refine h.fifo_since (q := queue) ?_ (fun ha hs => ?_) fun ha hs => queue_step ha hs
  · rw [system, hc.empty]
  · rename_i s a s'
    cases a with
    | clear => exact Option.some.inj hs ▸ rfl
    | _ => cases ha

theorem held_nil (value : α) : ¬ Held value [] := by
  rintro ⟨later, _, earlier, he, _⟩
  exact absurd (congrArg List.length he) (by simp)

theorem held_cons {value : α} : Held value ((q, a) :: tr) ↔
    accepted q a = some value ∨ Held value tr ∧ a ≠ .clear ∧ popped q a ≠ some value := by
  constructor
  · rintro ⟨later, q₁, earlier, he, hnew, hlater⟩
    cases later with
    | nil =>
      obtain ⟨⟨rfl, rfl⟩, rfl⟩ := List.cons.inj he |>.imp_left Prod.mk.inj
      exact .inl (accepted_eq_some.mpr ⟨rfl, hnew⟩)
    | cons p later =>
      obtain ⟨rfl, rfl⟩ := List.cons.inj he
      have hp := hlater _ List.mem_cons_self
      refine .inr ⟨⟨later, q₁, earlier, rfl, hnew, fun p hp => ?_⟩, hp⟩
      exact hlater p (List.mem_cons_of_mem _ hp)
  · rintro (hnew | ⟨⟨later, q₁, earlier, rfl, hnew, hlater⟩, hkept⟩)
    · obtain ⟨rfl, htrue⟩ := accepted_eq_some.mp hnew
      exact ⟨[], q, tr, rfl, htrue, nofun⟩
    · exact ⟨(q, a) :: later, q₁, earlier, rfl, hnew, List.forall_mem_cons.mpr ⟨hkept, hlater⟩⟩

theorem held_run (hc : Created start) (h : Run (system start) tr q) (value : α) :
    Held value tr ↔ value ∈ q.queue := by
  induction h with
  | start =>
    rw [system, hc.empty]
    exact iff_of_false (held_nil value) List.not_mem_nil
  | @next tr q q' a hr hs ih =>
    have hagree := agree_run hc hr
    rw [held_cons, ih]
    cases ha : clears a with
    | true =>
      cases a with
      | clear =>
        obtain rfl := Option.some.inj hs
        exact iff_of_false (by simp [accepted]) List.not_mem_nil
      | _ => cases ha
    | false =>
      have hne : a ≠ .clear := by rintro rfl; cases ha
      have hq' : value ∈ _ ↔ _ := mem_step hagree ha hs
      simp only [hq', hne, ne_eq, not_false_eq_true, true_and]

structure DuplicateFreeFifo (tr : List (QueueSet α × Action α)) (q : QueueSet α) : Prop where
  nodup : q.queue.Nodup
  memSet : ∀ value, value ∈ q.set ↔ value ∈ q.queue
  contains : ∀ value, q.contains value = true ↔ ∃ index, q.get index = some value
  len : q.len = q.set.card
  refused : ∀ value, (q.pushBack value).2 = false ↔ Held value tr
  unchanged : ∀ value, (q.pushBack value).2 = false → (q.pushBack value).1 = q
  order : outputs popped (since clears tr) ++ q.queue = outputs accepted (since clears tr)

theorem pushBack_refused {value : α} : (q.pushBack value).2 = false ↔ value ∈ q.set := by
  unfold pushBack
  split_ifs with hset <;> simp [hset]

theorem set_eq_toFinset (h : q.Agree) : q.set = q.queue.toFinset := by
  ext value
  rw [h.mem_set, List.mem_toFinset]

theorem duplicateFreeFifo_run (hc : Created start) (h : Run (system start) tr q) :
    DuplicateFreeFifo tr q := by
  have hagree := agree_run hc h
  refine ⟨hagree.nodup, hagree.mem_set, fun value => ?_, ?_, fun value => ?_, fun value hv => ?_,
    (accepted_run hc h).symm⟩
  · rw [contains, decide_eq_true_iff, hagree.mem_set]
    exact List.mem_iff_getElem?
  · rw [len, set_eq_toFinset hagree, List.toFinset_card_of_nodup hagree.nodup]
  · rw [pushBack_refused, hagree.mem_set, held_run hc h]
  · rw [pushBack, if_pos (pushBack_refused.mp hv)]

end DockerizedLambda.QueueSet
