import Mathlib.Data.List.AList
import Mathlib.Data.List.Perm.Basic

/-! Finite maps with one value type, seen as bags of values: what an insertion, a
removal or an update does to the multiset of entries. -/

abbrev Table (κ β : Type*) := AList fun _ : κ => β

namespace Table

variable {κ β γ : Type*}

def values (t : Table κ β) : List β := t.entries.map Sigma.snd

def total (f : β → Nat) (t : Table κ β) : Nat := (values t).foldr (fun v n => f v + n) 0

def size (t : Table κ β) : Nat := t.entries.length

@[simp] theorem values_empty : values (∅ : Table κ β) = [] := rfl
@[simp] theorem size_empty : size (∅ : Table κ β) = 0 := rfl
@[simp] theorem keys_length (t : Table κ β) : t.keys.length = size t := List.length_map _

theorem eq_empty_of_size {t : Table κ β} (h : size t = 0) : t = ∅ :=
  AList.ext (List.length_eq_zero_iff.mp h)

variable [DecidableEq κ] {t : Table κ β} {k : κ} {v : β}

theorem mem_values : v ∈ values t ↔ ∃ k, t.lookup k = some v := by
  constructor
  · intro h
    obtain ⟨⟨k, w⟩, hm, rfl⟩ := List.mem_map.mp h
    exact ⟨k, AList.mem_lookup_iff.mpr hm⟩
  · rintro ⟨k, h⟩
    exact List.mem_map.mpr ⟨⟨k, v⟩, AList.mem_lookup_iff.mp h, rfl⟩

theorem lookup_mem (h : t.lookup k = some v) : k ∈ t :=
  AList.lookup_isSome.mp (by rw [h]; rfl)

theorem lookup_insert_cases {l : κ} {w : β} (h : (t.insert k v).lookup l = some w) :
    l = k ∧ w = v ∨ l ≠ k ∧ t.lookup l = some w := by
  by_cases hl : l = k
  · subst hl
    exact .inl ⟨rfl, Option.some.inj (h.symm.trans (AList.lookup_insert t))⟩
  · exact .inr ⟨hl, (AList.lookup_insert_ne hl).symm.trans h⟩

theorem lookup_of_erase {l : κ} {w : β} (h : (t.erase k).lookup l = some w) :
    t.lookup l = some w := by
  by_cases hl : l = k
  · subst hl
    exact absurd (h.symm.trans (AList.lookup_erase l t)) nofun
  · exact (AList.lookup_erase_ne hl).symm.trans h

theorem entries_perm_erase (h : t.lookup k = some v) :
    t.entries.Perm (⟨k, v⟩ :: (t.erase k).entries) := by
  obtain ⟨w, xs, ys, hx, he, hk⟩ := List.exists_of_kerase (lookup_mem h)
  have hm : (⟨k, w⟩ : Sigma fun _ : κ => β) ∈ t.entries := by
    rw [he]
    exact List.mem_append_right _ List.mem_cons_self
  have hw : t.lookup k = some w := AList.mem_lookup_iff.mpr hm
  obtain rfl : v = w := Option.some.inj (h.symm.trans hw)
  change t.entries.Perm (⟨k, v⟩ :: t.entries.kerase k)
  rw [hk, he]
  exact List.perm_middle

theorem values_perm_erase (h : t.lookup k = some v) :
    (values t).Perm (v :: values (t.erase k)) := (entries_perm_erase h).map _

theorem filterMap_perm_erase (f : β → Option γ) (h : t.lookup k = some v) :
    ((values t).filterMap f).Perm ((f v).toList ++ (values (t.erase k)).filterMap f) := by
  have hp := (values_perm_erase h).filterMap f
  rw [List.filterMap_cons] at hp
  cases hv : f v with
  | none
  | some w => rwa [hv] at hp

theorem filterMap_insert (f : β → Option γ) (t : Table κ β) (k : κ) (v : β) :
    (values (t.insert k v)).filterMap f =
      (f v).toList ++ (values (t.erase k)).filterMap f := by
  change (v :: values (t.erase k)).filterMap f = _
  rw [List.filterMap_cons]
  cases f v <;> rfl

theorem total_erase (f : β → Nat) (h : t.lookup k = some v) :
    total f t = f v + total f (t.erase k) := by
  have hcomm : LeftCommutative fun (v : β) (n : Nat) => f v + n :=
    ⟨fun _ _ _ => Nat.add_left_comm ..⟩
  exact (values_perm_erase h).foldr_eq 0

theorem total_insert (f : β → Nat) (t : Table κ β) (k : κ) (v : β) :
    total f (t.insert k v) = f v + total f (t.erase k) := rfl

omit [DecidableEq κ] in
theorem total_le {f : β → Nat} {n : Nat} (h : ∀ v, f v ≤ n) (t : Table κ β) :
    total f t ≤ n * size t := by
  have key : ∀ l : List β, l.foldr (fun v n => f v + n) 0 ≤ n * l.length := by
    intro l
    induction l with
    | nil => exact Nat.le_refl _
    | cons v l ih =>
      have hv := h v
      rw [List.foldr_cons, List.length_cons, Nat.mul_succ]
      omega
  have hlen : (values t).length = size t := List.length_map _
  rw [total, ← hlen]
  exact key (values t)

theorem values_erase_sublist (t : Table κ β) (k : κ) :
    (values (t.erase k)).Sublist (values t) :=
  (List.kerase_sublist k t.entries).map _

theorem size_erase (h : t.lookup k = some v) : size t = size (t.erase k) + 1 := by
  have hp := (entries_perm_erase h).length_eq
  simpa only [size, List.length_cons] using hp

theorem values_insert (t : Table κ β) (k : κ) (v : β) :
    values (t.insert k v) = v :: values (t.erase k) := rfl

theorem size_insert (t : Table κ β) (k : κ) (v : β) :
    size (t.insert k v) = size (t.erase k) + 1 := rfl

theorem erase_of_notMem (h : k ∉ t) : t.erase k = t :=
  AList.ext (List.kerase_of_notMem_keys h)

theorem values_insert_of_notMem (h : k ∉ t) (v : β) : values (t.insert k v) = v :: values t := by
  rw [values_insert, erase_of_notMem h]

theorem erase_insert (t : Table κ β) (k : κ) (v : β) : (t.insert k v).erase k = t.erase k :=
  AList.ext (List.kerase_cons_eq rfl)

theorem size_erase_le (t : Table κ β) (k : κ) : size (t.erase k) ≤ size t := by
  by_cases h : k ∈ t
  · obtain ⟨v, hv⟩ := Option.isSome_iff_exists.mp (AList.lookup_isSome.mpr h)
    have hs := size_erase hv
    omega
  · rw [erase_of_notMem h]

theorem size_insert_le (t : Table κ β) (k : κ) (v : β) : size (t.insert k v) ≤ size t + 1 := by
  rw [size_insert]
  exact Nat.succ_le_succ (size_erase_le t k)

theorem lookup_inj {f : β → γ} (hf : ((values t).map f).Nodup) {k l : κ} {v w : β}
    (hk : t.lookup k = some v) (hl : t.lookup l = some w) (he : f v = f w) : k = l := by
  by_contra hne
  have hp := (values_perm_erase hk).map f
  have hw : w ∈ values (t.erase k) :=
    mem_values.mpr ⟨l, (AList.lookup_erase_ne (Ne.symm hne)).trans hl⟩
  have hnot := (List.nodup_cons.mp (hp.nodup_iff.mp hf)).1
  exact hnot (he ▸ List.mem_map_of_mem hw)

theorem notMem_of_lookup (h : t.lookup k = none) : k ∉ t := AList.lookup_eq_none.mp h

end Table
