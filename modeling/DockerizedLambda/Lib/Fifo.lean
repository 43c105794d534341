import DockerizedLambda.Lib.Transition

/-! First in, first out. What every step adds at the back of a sequence and takes from
its front, a whole run adds and takes in the same order. -/

namespace Transition

variable {σ α β : Type*} {M : System σ α} {q : σ → List β}
  {entered left : σ → α → Option β} {tr : List (σ × α)} {s : σ}

def since (reset : α → Bool) (tr : List (σ × α)) : List (σ × α) :=
  tr.takeWhile fun p => !reset p.2

namespace Run

theorem fifo (hs : ∀ {tr s a s'}, Run M tr s → M.step s a = some s' →
      q s ++ (entered s a).toList = (left s a).toList ++ q s')
    (h : Run M tr s) :
    q M.init ++ outputs entered tr = outputs left tr ++ q s := by
  induction h with
  | start => rw [outputs, outputs, List.append_nil, List.nil_append]
  | @next tr s s' a hr hstep ih =>
    calc q M.init ++ (outputs entered tr ++ (entered s a).toList)
        = (q M.init ++ outputs entered tr) ++ (entered s a).toList :=
          (List.append_assoc _ _ _).symm
      _ = outputs left tr ++ (q s ++ (entered s a).toList) := by
          rw [ih, List.append_assoc]
      _ = (outputs left tr ++ (left s a).toList) ++ q s' := by
          rw [hs hr hstep, List.append_assoc]

theorem fifo_since {reset : α → Bool} (h0 : q M.init = [])
    (hreset : ∀ {s a s'}, reset a = true → M.step s a = some s' → q s' = [])
    (hs : ∀ {s a s'}, reset a = false → M.step s a = some s' →
      q s ++ (entered s a).toList = (left s a).toList ++ q s')
    (h : Run M tr s) :
    outputs entered (since reset tr) = outputs left (since reset tr) ++ q s := by
  induction h with
  | start => rw [h0]; rfl
  | @next tr s s' a hr hstep ih =>
    cases ha : reset a with
    | true =>
      rw [since, List.takeWhile_cons_of_neg (by simp [ha]), hreset ha hstep]
      rfl
    | false =>
      have hsince : since reset ((s, a) :: tr) = (s, a) :: since reset tr :=
        List.takeWhile_cons_of_pos (by simp [ha])
      rw [hsince, outputs, outputs, ih, List.append_assoc, hs ha hstep, List.append_assoc]

end Run

end Transition

theorem List.eq_of_append_cons_eq {α : Type*} {x : α} {xs ys zs ws : List α} (hx : x ∉ xs)
    (hy : x ∉ ys) (h : xs ++ x :: zs = ys ++ x :: ws) : xs = ys := by
  induction xs generalizing ys with
  | nil =>
    cases ys with
    | nil => rfl
    | cons y ys => exact absurd ((List.cons.inj h).1 ▸ List.mem_cons_self) hy
  | cons a xs ih =>
    cases ys with
    | nil => exact absurd ((List.cons.inj h).1 ▸ List.mem_cons_self) hx
    | cons y ys =>
      obtain ⟨rfl, htail⟩ := List.cons.inj h
      rw [ih (List.not_mem_of_not_mem_cons hx) (List.not_mem_of_not_mem_cons hy) htail]
