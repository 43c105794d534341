import Mathlib.Data.Multiset.ZeroCons
import Mathlib.Data.Set.Insert
import Mathlib.Order.BooleanAlgebra.Set

/-! Entries that are owed back. An id is drawn once and entered; whoever owns it gives the
entry back in the end, or goes away without it. -/

structure Registry (κ : Type*) where
  drawn : Set κ
  entries : Set κ
  owners : Multiset κ

namespace Registry

variable {κ : Type*} {r r' : Registry κ}

inductive Move (r : Registry κ) : Registry κ → Prop
  | idle : Move r r
  | granted {k : κ} (hfresh : k ∉ r.drawn) :
      Move r ⟨insert k r.drawn, insert k r.entries, k ::ₘ r.owners⟩
  | returned {k : κ} {rest : Multiset κ} (howner : r.owners = k ::ₘ rest) :
      Move r ⟨r.drawn, r.entries \ {k}, rest⟩

structure Sound (r : Registry κ) : Prop where
  once : r.owners.Nodup
  ownersDrawn : ∀ k ∈ r.owners, k ∈ r.drawn
  entriesDrawn : ∀ k ∈ r.entries, k ∈ r.drawn

def Entered (r : Registry κ) : Prop := ∀ k ∈ r.owners, k ∈ r.entries

def Owned (r : Registry κ) : Prop := ∀ k ∈ r.entries, k ∈ r.owners

theorem Move.sound (hm : Move r r') (h : r.Sound) : r'.Sound := by
  cases hm with
  | idle => exact h
  | @granted k hfresh =>
    refine ⟨?_, ?_, ?_⟩
    · exact Multiset.nodup_cons.mpr ⟨fun hk => hfresh (h.ownersDrawn k hk), h.once⟩
    · intro j hj
      rcases Multiset.mem_cons.mp hj with rfl | hj
      · exact Set.mem_insert _ _
      · exact Set.mem_insert_of_mem _ (h.ownersDrawn j hj)
    · intro j hj
      rcases hj with rfl | hj
      · exact Set.mem_insert _ _
      · exact Set.mem_insert_of_mem _ (h.entriesDrawn j hj)
  | @returned k rest howner =>
    have hnodup := h.once
    rw [howner] at hnodup
    refine ⟨(Multiset.nodup_cons.mp hnodup).2, fun j hj => ?_, fun j hj => h.entriesDrawn j hj.1⟩
    apply h.ownersDrawn
    rw [howner]
    exact Multiset.mem_cons_of_mem hj

theorem Move.entered (hm : Move r r') (h : r.Sound) (he : r.Entered) : r'.Entered := by
  cases hm with
  | idle => exact he
  | granted =>
    intro j hj
    rcases Multiset.mem_cons.mp hj with rfl | hj
    · exact Set.mem_insert _ _
    · exact Set.mem_insert_of_mem _ (he j hj)
  | @returned k rest howner =>
    have hnodup := h.once
    rw [howner] at hnodup
    intro j hj
    refine ⟨he j ?_, ?_⟩
    · rw [howner]
      exact Multiset.mem_cons_of_mem hj
    · rintro rfl
      exact (Multiset.nodup_cons.mp hnodup).1 hj

theorem Move.owner_kept (hm : Move r r') (h : r.Sound) {k : κ} (hk : k ∈ r'.owners) :
    k ∈ r'.entries ∨ k ∈ r.owners ∧ k ∉ r.entries := by
  -- an owner without its entry has lost it before
  cases hm with
  | idle => exact or_iff_not_imp_left.mpr fun hn => ⟨hk, hn⟩
  | granted =>
    rcases Multiset.mem_cons.mp hk with rfl | hk
    · exact .inl (Set.mem_insert _ _)
    · exact or_iff_not_imp_left.mpr fun hn => ⟨hk, fun he => hn (Set.mem_insert_of_mem _ he)⟩
  | @returned j rest howner =>
    have hnodup := h.once
    rw [howner] at hnodup
    have hne : k ≠ j := by
      rintro rfl
      exact (Multiset.nodup_cons.mp hnodup).1 hk
    refine or_iff_not_imp_left.mpr fun hn => ⟨?_, fun he => hn ⟨he, hne⟩⟩
    rw [howner]
    exact Multiset.mem_cons_of_mem hk

theorem Move.owned (hm : Move r r') (ho : r.Owned) : r'.Owned := by
  cases hm with
  | idle => exact ho
  | granted =>
    intro j hj
    rcases hj with rfl | hj
    · exact Multiset.mem_cons_self _ _
    · exact Multiset.mem_cons_of_mem (ho j hj)
  | returned howner =>
    intro j hj
    have hm := ho j hj.1
    rw [howner] at hm
    rcases Multiset.mem_cons.mp hm with rfl | hm
    · exact absurd rfl hj.2
    · exact hm

structure Follows (r' r : Registry κ) : Prop where
  drawn : ∀ k ∈ r.drawn, k ∈ r'.drawn
  entries : ∀ k ∈ r'.entries, k ∈ r.entries ∨ k ∉ r.drawn
  owners : ∀ k ∈ r'.owners, k ∈ r.owners ∨ k ∉ r.drawn

theorem Move.follows (hm : Move r r') : Follows r' r := by
  cases hm with
  | idle => exact ⟨fun _ hk => hk, fun _ => .inl, fun _ => .inl⟩
  | granted hfresh =>
    refine ⟨fun _ hk => Set.mem_insert_of_mem _ hk, fun k hk => ?_, fun k hk => ?_⟩
    · exact hk.elim (fun he => .inr (he ▸ hfresh)) .inl
    · exact (Multiset.mem_cons.mp hk).elim (fun he => .inr (he ▸ hfresh)) .inl
  | returned howner =>
    refine ⟨fun _ hk => hk, fun _ hk => .inl hk.1, fun k hk => .inl ?_⟩
    rw [howner]
    exact Multiset.mem_cons_of_mem hk

theorem Sound.disown (h : r.Sound) {rest : Multiset κ} (hle : rest ≤ r.owners) :
    Sound ⟨r.drawn, r.entries, rest⟩ :=
  ⟨Multiset.nodup_of_le hle h.once, fun k hk => h.ownersDrawn k (Multiset.mem_of_le hle hk),
    h.entriesDrawn⟩

theorem Entered.disown (he : r.Entered) {rest : Multiset κ} (hle : rest ≤ r.owners) :
    Entered ⟨r.drawn, r.entries, rest⟩ := fun k hk => he k (Multiset.mem_of_le hle hk)

theorem Sound.clear (h : r.Sound) : Sound ⟨r.drawn, ∅, r.owners⟩ :=
  ⟨h.once, h.ownersDrawn, fun _ hk => absurd hk (Set.notMem_empty _)⟩

theorem Owned.clear : Owned ⟨r.drawn, ∅, r.owners⟩ := fun _ hk => absurd hk (Set.notMem_empty _)

end Registry
