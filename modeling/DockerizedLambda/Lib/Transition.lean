import Mathlib.Logic.Relation
import Mathlib.Data.List.Basic

/-! Systems that move by a computed partial step, and their runs. A run keeps the
steps it has taken, latest first, each with the state it left, so that a property
of a state can speak about what happened on the way to it. -/

namespace Transition

structure System (σ α : Type*) where
  init : σ
  step : σ → α → Option σ

variable {σ α τ β : Type*}

inductive Run (M : System σ α) : List (σ × α) → σ → Prop
  | start : Run M [] M.init
  | next {tr : List (σ × α)} {s s' : σ} {a : α} :
      Run M tr s → M.step s a = some s' → Run M ((s, a) :: tr) s'

variable {M : System σ α} {N : System τ β}

namespace Run

/-- The invariant rule. The step case may use whatever is known of the run so far,
and the condition `C` that every step of the run meets in the state it leaves. -/
theorem invariant_where {C : σ → α → Prop} {I : σ → Prop} (h0 : I M.init)
    (hs : ∀ {tr s a s'}, Run M tr s → C s a → I s → M.step s a = some s' → I s')
    {tr : List (σ × α)} {s : σ} (h : Run M tr s) (hc : ∀ p ∈ tr, C p.1 p.2) : I s := by
  induction h with
  | start => exact h0
  | next hr hstep ih =>
    have htail := ih fun p hp => hc p (List.mem_cons_of_mem _ hp)
    exact hs hr (hc _ List.mem_cons_self) htail hstep

theorem invariant {I : σ → Prop} (h0 : I M.init)
    (hs : ∀ {tr s a s'}, Run M tr s → I s → M.step s a = some s' → I s')
    {tr : List (σ × α)} {s : σ} (h : Run M tr s) : I s :=
  h.invariant_where (C := fun _ _ => True) h0 (fun hr _ hi => hs hr hi) fun _ _ => trivial

theorem map (f : σ → τ) (h0 : f M.init = N.init)
    (hs : ∀ {tr s a s'}, Run M tr s → M.step s a = some s' →
      f s' = f s ∨ ∃ b, N.step (f s) b = some (f s'))
    {tr : List (σ × α)} {s : σ} (h : Run M tr s) : ∃ tr', Run N tr' (f s) := by
  induction h with
  | start => exact ⟨[], h0 ▸ start⟩
  | next hr hstep ih =>
    obtain ⟨tr', hr'⟩ := ih
    rcases hs hr hstep with he | ⟨b, hb⟩
    · exact ⟨tr', he ▸ hr'⟩
    · exact ⟨_, hr'.next hb⟩

def projected (f : σ → τ) (p : σ → α → Option β) : List (σ × α) → List (τ × β)
  | [] => []
  | (s, a) :: tr =>
    match p s a with
    | some b => (f s, b) :: projected f p tr
    | none => projected f p tr

theorem of_mem_projected {f : σ → τ} {p : σ → α → Option β} {tr : List (σ × α)} {q : τ × β}
    (h : q ∈ projected f p tr) : ∃ s a, (s, a) ∈ tr ∧ f s = q.1 ∧ p s a = some q.2 := by
  induction tr with
  | nil => cases h
  | cons step tr ih =>
    obtain ⟨s, a⟩ := step
    rw [projected] at h
    cases hp : p s a with
    | none =>
      rw [hp] at h
      obtain ⟨s', a', hmem, hq⟩ := ih h
      exact ⟨s', a', List.mem_cons_of_mem _ hmem, hq⟩
    | some b =>
      rw [hp] at h
      rcases List.mem_cons.mp h with rfl | h
      · exact ⟨s, a, List.mem_cons_self, rfl, hp⟩
      · obtain ⟨s', a', hmem, hq⟩ := ih h
        exact ⟨s', a', List.mem_cons_of_mem _ hmem, hq⟩

theorem project (f : σ → τ) (p : σ → α → Option β) (h0 : f M.init = N.init)
    (hs : ∀ {tr s a s'}, Run M tr s → M.step s a = some s' →
      (∀ b, p s a = some b → N.step (f s) b = some (f s')) ∧ (p s a = none → f s' = f s))
    {tr : List (σ × α)} {s : σ} (h : Run M tr s) : Run N (projected f p tr) (f s) := by
  induction h with
  | start => exact h0 ▸ start
  | @next tr s s' a hr hstep ih =>
    obtain ⟨hmoves, hstays⟩ := hs hr hstep
    rw [projected]
    cases hp : p s a with
    | none =>
      rw [hstays hp]
      exact ih
    | some b => exact ih.next (hmoves b hp)

end Run

def System.startingAt (M : System σ α) (s : σ) : System σ α := ⟨s, M.step⟩

theorem Run.append {tr tr' : List (σ × α)} {s s' : σ} (h : Run M tr s)
    (h' : Run (M.startingAt s) tr' s') : Run M (tr' ++ tr) s' := by
  induction h' with
  | start => exact h
  | next _ hstep ih => exact ih.next hstep

theorem Run.split {tr tr' : List (σ × α)} {s s' : σ} {a : α}
    (h : Run M (tr' ++ (s, a) :: tr) s') :
    Run M tr s ∧ ∃ s₁, M.step s a = some s₁ ∧ Run (M.startingAt s₁) tr' s' := by
  induction tr' generalizing s' with
  | nil =>
    cases h with
    | next hr hstep => exact ⟨hr, s', hstep, .start⟩
  | cons p tr' ih =>
    cases h with
    | next hr hstep =>
      obtain ⟨hr, s₁, hs, hr'⟩ := ih hr
      exact ⟨hr, s₁, hs, hr'.next hstep⟩

def outputs (f : σ → α → Option β) : List (σ × α) → List β
  | [] => []
  | (s, a) :: tr => outputs f tr ++ (f s a).toList

section Outputs

variable {f : σ → α → Option β}

theorem outputs_eq_nil {tr : List (σ × α)} :
    outputs f tr = [] ↔ ∀ p ∈ tr, f p.1 p.2 = none := by
  induction tr with
  | nil => simp [outputs]
  | cons p tr ih => simp [outputs, ih, and_comm]

theorem outputs_append (tr' tr : List (σ × α)) :
    outputs f (tr' ++ tr) = outputs f tr ++ outputs f tr' := by
  induction tr' with
  | nil => exact (List.append_nil _).symm
  | cons p tr' ih => rw [List.cons_append, outputs, outputs, ih, List.append_assoc]

theorem mem_outputs {x : β} {tr : List (σ × α)} :
    x ∈ outputs f tr ↔ ∃ p ∈ tr, f p.1 p.2 = some x := by
  induction tr with
  | nil => simp [outputs]
  | cons p tr ih => simp [outputs, ih, or_comm]

end Outputs

/-- Run a list of actions, on top of the steps already taken. -/
def System.trace (M : System σ α) : List (σ × α) → σ → List α → Option (List (σ × α) × σ)
  | tr, s, [] => some (tr, s)
  | tr, s, a :: as => (M.step s a).bind fun s' => M.trace ((s, a) :: tr) s' as

theorem Run.trace {tr tr' : List (σ × α)} {s s' : σ} {as : List α} (h : Run M tr s)
    (ht : M.trace tr s as = some (tr', s')) : Run M tr' s' := by
  induction as generalizing tr s with
  | nil =>
    obtain ⟨rfl, rfl⟩ := Prod.mk.inj (Option.some.inj ht)
    exact h
  | cons a as ih =>
    obtain ⟨s₁, hs, ht⟩ := Option.bind_eq_some_iff.mp ht
    exact ih (h.next hs) ht

end Transition
