import Mathlib.Data.List.Basic

/-! A loop that goes through a bounded number of attempts: `for attempt in 1..=max`. A result
may settle it, and the last attempt ends it in any case. The results come in one after the
other, so that the loop can be followed while it waits for the next one. -/

structure RetryLoop (α β : Type*) where
  maxAttempts : Nat
  hasAttempt : 0 < maxAttempts
  /-- What a result returns from the loop at once; `none` asks for another attempt. -/
  settle : α → Option β
  /-- What the last attempt returns when its result asks for another one. -/
  giveUp : α → β

namespace RetryLoop

variable {α β : Type*}

def round (loop : RetryLoop α β) (attempt : Nat) (result : α) : Option β :=
  match loop.settle result with
  | some b => some b
  | none => if attempt < loop.maxAttempts then none else some (loop.giveUp result)

def runFrom (loop : RetryLoop α β) (attempt : Nat) : List α → Option β
  | [] => none
  | result :: results =>
    match loop.round attempt result with
    | some b => some b
    | none => loop.runFrom (attempt + 1) results

def run (loop : RetryLoop α β) : List α → Option β := loop.runFrom 1

def EndsWith (loop : RetryLoop α β) (results : List α) (b : β) : Prop :=
  ∃ init last, results = init ++ [last] ∧ loop.run init = none ∧ loop.run results = some b

variable {loop : RetryLoop α β} {attempt : Nat} {results : List α} {result : α} {b : β}

theorem runFrom_append (h : loop.runFrom attempt results = none) (more : List α) :
    loop.runFrom attempt (results ++ more) = loop.runFrom (attempt + results.length) more := by
  induction results generalizing attempt with
  | nil => rfl
  | cons r results ih =>
    rw [runFrom] at h
    rw [List.cons_append, runFrom]
    cases hround : loop.round attempt r with
    | some b =>
      rw [hround] at h
      exact absurd h nofun
    | none =>
      rw [hround] at h
      rw [List.length_cons, Nat.add_comm results.length 1, ← Nat.add_assoc]
      exact ih h

theorem run_concat (h : loop.run results = none) (result : α) :
    loop.run (results ++ [result]) = loop.round (results.length + 1) result := by
  rw [run, runFrom_append h, Nat.add_comm, runFrom]
  cases loop.round (results.length + 1) result <;> rfl

theorem round_eq_none (h : loop.round attempt result = none) :
    loop.settle result = none ∧ attempt < loop.maxAttempts := by
  unfold round at h
  cases hsettle : loop.settle result with
  | some b =>
    rw [hsettle] at h
    exact absurd h nofun
  | none =>
    rw [hsettle] at h
    dsimp only at h
    split_ifs at h with hlt
    exact ⟨rfl, hlt⟩

theorem round_eq_some (h : loop.round attempt result = some b) : loop.settle result = some b ∨
    loop.settle result = none ∧ loop.maxAttempts ≤ attempt ∧ b = loop.giveUp result := by
  unfold round at h
  cases hsettle : loop.settle result with
  | some b' =>
    rw [hsettle] at h
    exact .inl h
  | none =>
    rw [hsettle] at h
    dsimp only at h
    split_ifs at h with hlt
    exact .inr ⟨rfl, Nat.le_of_not_lt hlt, (Option.some.inj h).symm⟩

theorem runFrom_eq_none (hle : attempt ≤ loop.maxAttempts)
    (h : loop.runFrom attempt results = none) :
    (∀ r ∈ results, loop.settle r = none) ∧ attempt + results.length ≤ loop.maxAttempts := by
  induction results generalizing attempt with
  | nil => exact ⟨nofun, hle⟩
  | cons r results ih =>
    rw [runFrom] at h
    cases hround : loop.round attempt r with
    | some b =>
      rw [hround] at h
      exact absurd h nofun
    | none =>
      rw [hround] at h
      obtain ⟨hsettle, hlt⟩ := round_eq_none hround
      obtain ⟨hrest, hlength⟩ := ih hlt h
      refine ⟨List.forall_mem_cons.mpr ⟨hsettle, hrest⟩, ?_⟩
      rw [List.length_cons]
      omega

theorem run_eq_none (h : loop.run results = none) :
    (∀ r ∈ results, loop.settle r = none) ∧ results.length < loop.maxAttempts := by
  obtain ⟨hsettle, hlength⟩ := runFrom_eq_none loop.hasAttempt h
  exact ⟨hsettle, by omega⟩

theorem endsWith_concat (h : loop.run results = none)
    (hround : loop.round (results.length + 1) result = some b) :
    loop.EndsWith (results ++ [result]) b :=
  ⟨results, result, rfl, h, (run_concat h result).trans hround⟩

theorem EndsWith.cases (h : loop.EndsWith results b) :
    ∃ init last, results = init ++ [last] ∧ (∀ r ∈ init, loop.settle r = none) ∧
      (loop.settle last = some b ∨ loop.settle last = none ∧
        results.length = loop.maxAttempts ∧ b = loop.giveUp last) := by
  obtain ⟨init, last, rfl, hinit, hrun⟩ := h
  obtain ⟨hsettle, hlength⟩ := run_eq_none hinit
  refine ⟨init, last, rfl, hsettle, ?_⟩
  rw [run_concat hinit] at hrun
  rcases round_eq_some hrun with hlast | ⟨hlast, hmax, hb⟩
  · exact .inl hlast
  · refine .inr ⟨hlast, ?_, hb⟩
    rw [List.length_append, List.length_singleton]
    omega

theorem EndsWith.length_le (h : loop.EndsWith results b) :
    results.length ≤ loop.maxAttempts := by
  obtain ⟨init, last, rfl, hinit, -⟩ := h
  rw [List.length_append, List.length_singleton]
  exact (run_eq_none hinit).2

end RetryLoop
