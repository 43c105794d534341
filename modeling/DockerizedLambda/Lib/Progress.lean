import DockerizedLambda.Lib.Transition

/-! Progress. A measure that steps bring down says that a system can get somewhere, when
such a step is always there to take, and how long it can stay, when no step avoids it. -/

namespace Transition

variable {σ α : Type*}

def System.Reaches (M : System σ α) (C : σ → α → Prop) (s s' : σ) : Prop :=
  ∃ tr, Run (M.startingAt s) tr s' ∧ ∀ p ∈ tr, C p.1 p.2

namespace System.Reaches

variable {M : System σ α} {C D : σ → α → Prop} {s s₁ s₂ : σ} {a : α}

theorem refl (s : σ) : M.Reaches C s s := ⟨[], .start, fun _ hp => absurd hp List.not_mem_nil⟩

theorem trans (h : M.Reaches C s s₁) (h' : M.Reaches C s₁ s₂) : M.Reaches C s s₂ := by
  obtain ⟨tr, hr, hc⟩ := h
  obtain ⟨tr', hr', hc'⟩ := h'
  refine ⟨tr' ++ tr, hr.append hr', fun p hp => ?_⟩
  rcases List.mem_append.mp hp with hp | hp
  · exact hc' p hp
  · exact hc p hp

theorem single (hs : M.step s a = some s₁) (hc : C s a) : M.Reaches C s s₁ := by
  refine ⟨[(s, a)], Run.start.next hs, fun p hp => ?_⟩
  obtain rfl := List.mem_singleton.mp hp
  exact hc

theorem mono (h : M.Reaches C s s₁) (hcd : ∀ s a, C s a → D s a) : M.Reaches D s s₁ := by
  obtain ⟨tr, hr, hc⟩ := h
  exact ⟨tr, hr, fun p hp => hcd _ _ (hc p hp)⟩

theorem run {tr : List (σ × α)} (h : M.Reaches C s s₁) (hr : Run M tr s) :
    ∃ tr', Run M tr' s₁ := by
  obtain ⟨tr', hr', _⟩ := h
  exact ⟨_, hr.append hr'⟩

theorem invariant {I : σ → Prop} (hs : ∀ {s a s'}, C s a → I s → M.step s a = some s' → I s')
    (h : M.Reaches C s s₁) (hi : I s) : I s₁ := by
  obtain ⟨tr, hr, hc⟩ := h
  exact Run.invariant_where (M := M.startingAt s) (I := I) (C := C) hi
    (fun _ hc hi hstep => hs hc hi hstep) hr hc

/-- Where one can always get nearer to `P`, `P` can be reached. -/
theorem of_measure {I P : σ → Prop} (μ : σ → Nat)
    (hs : ∀ s, I s → ¬ P s → ∃ s', M.Reaches C s s' ∧ I s' ∧ μ s' < μ s)
    {s : σ} (hi : I s) : ∃ s', M.Reaches C s s' ∧ I s' ∧ P s' := by
  induction hn : μ s using Nat.strongRecOn generalizing s with
  | _ n ih =>
    by_cases hp : P s
    · exact ⟨s, refl s, hi, hp⟩
    · obtain ⟨s₁, hnearer, hi₁, hlt⟩ := hs s hi hp
      obtain ⟨s₂, hreach, hi₂, hp₂⟩ := ih (μ s₁) (hn ▸ hlt) hi₁ rfl
      exact ⟨s₂, hnearer.trans hreach, hi₂, hp₂⟩

end System.Reaches

/-- Of the steps that bring the measure down, a run in which no step brings it up has no
more than the measure allowed at its start. -/
theorem Run.count_le {M : System σ α} {C : σ → α → Prop} (μ : σ → Nat) (p : σ × α → Bool)
    (hle : ∀ {s a s'}, C s a → M.step s a = some s' → μ s' ≤ μ s)
    (hlt : ∀ {s a s'}, C s a → M.step s a = some s' → p (s, a) = true → μ s' < μ s)
    {tr : List (σ × α)} {s : σ} (h : Run M tr s) (hc : ∀ q ∈ tr, C q.1 q.2) :
    tr.countP p + μ s ≤ μ M.init := by
  induction h with
  | start => exact Nat.le_of_eq (Nat.zero_add _)
  | @next tr s s' a hr hstep ih =>
    have htail := ih fun q hq => hc q (List.mem_cons_of_mem _ hq)
    have hlast : C s a := hc _ List.mem_cons_self
    by_cases hp : p (s, a) = true
    · have hdown := hlt hlast hstep hp
      rw [List.countP_cons_of_pos hp]
      omega
    · have hkept := hle hlast hstep
      rw [List.countP_cons_of_neg hp]
      omega

end Transition
