import Mathlib.Data.List.Induction
import DockerizedLambda.Lib.Table

/-! Multimaps as lists of pairs: what is under a key, and how much of it survives when the
pairs are collected into a map that has one value a key. -/

namespace Multimap

variable {κ β : Type*} [DecidableEq κ]

def valuesAt (k : κ) (l : List (κ × β)) : List β := (l.filter fun p => p.1 = k).map Prod.snd

def collect (l : List (κ × β)) : Table κ β := l.foldl (fun t p => t.insert p.1 p.2) ∅

def pairs (t : Table κ β) : List (κ × β) := t.entries.map fun e => (e.1, e.2)

def SingleValued (l : List (κ × β)) : Prop := ∀ p ∈ l, ∀ p' ∈ l, p.1 = p'.1 → p.2 = p'.2

instance [DecidableEq β] (l : List (κ × β)) : Decidable (SingleValued l) :=
  inferInstanceAs (Decidable (∀ p ∈ l, ∀ p' ∈ l, p.1 = p'.1 → p.2 = p'.2))

variable {l l' : List (κ × β)} {p : κ × β} {k : κ} {v : β}

@[simp] theorem valuesAt_nil (k : κ) : valuesAt k ([] : List (κ × β)) = [] := rfl

theorem valuesAt_cons (k : κ) (p : κ × β) (l : List (κ × β)) :
    valuesAt k (p :: l) = if p.1 = k then p.2 :: valuesAt k l else valuesAt k l := by
  by_cases hk : p.1 = k
  · rw [if_pos hk, valuesAt, List.filter_cons_of_pos (by simpa using hk), List.map_cons]
    rfl
  · rw [if_neg hk, valuesAt, List.filter_cons_of_neg (by simpa using hk)]
    rfl

theorem valuesAt_append (k : κ) (l l' : List (κ × β)) :
    valuesAt k (l ++ l') = valuesAt k l ++ valuesAt k l' := by
  rw [valuesAt, List.filter_append, List.map_append]
  rfl

theorem mem_valuesAt : v ∈ valuesAt k l ↔ (k, v) ∈ l := by
  induction l with
  | nil => simp only [valuesAt_nil, List.not_mem_nil]
  | cons p l ih =>
    rw [valuesAt_cons, List.mem_cons, ← ih, Prod.ext_iff]
    by_cases hk : p.1 = k
    · subst hk
      rw [if_pos rfl, List.mem_cons]
      simp only [true_and]
    · simp only [if_neg hk, Ne.symm hk, false_and, false_or]

theorem valuesAt_eq_nil : valuesAt k l = [] ↔ ∀ p ∈ l, p.1 ≠ k := by
  rw [List.eq_nil_iff_forall_not_mem]
  constructor
  · rintro h ⟨_, v⟩ hp rfl
    exact h v (mem_valuesAt.mpr hp)
  · intro h v hv
    exact h _ (mem_valuesAt.mp hv) rfl

theorem valuesAt_perm (k : κ) (h : l.Perm l') : (valuesAt k l).Perm (valuesAt k l') :=
  (h.filter _).map _

@[simp] theorem collect_append_singleton (l : List (κ × β)) (p : κ × β) :
    collect (l ++ [p]) = (collect l).insert p.1 p.2 := List.foldl_append

theorem lookup_collect (l : List (κ × β)) (k : κ) :
    (collect l).lookup k = (valuesAt k l).getLast? := by
  induction l using List.reverseRecOn with
  | nil => rfl
  | append_singleton l p ih =>
    rw [collect_append_singleton, valuesAt_append, valuesAt_cons]
    by_cases hk : p.1 = k
    · subst hk
      rw [AList.lookup_insert, if_pos rfl, valuesAt_nil, List.getLast?_append]
      rfl
    · rw [AList.lookup_insert_ne (Ne.symm hk), if_neg hk, valuesAt_nil, List.append_nil, ih]

theorem mem_of_lookup_collect (h : (collect l).lookup k = some v) : (k, v) ∈ l := by
  rw [lookup_collect] at h
  exact mem_valuesAt.mp (List.mem_of_getLast? h)

theorem exists_lookup_collect (h : p ∈ l) : ∃ v, (collect l).lookup p.1 = some v := by
  have hmem : p.2 ∈ valuesAt p.1 l := mem_valuesAt.mpr h
  rw [lookup_collect]
  exact ⟨_, List.getLast?_eq_some_getLast (List.ne_nil_of_mem hmem)⟩

theorem pairs_collect (honce : (l.map Prod.fst).Nodup) : (pairs (collect l)).Perm l := by
  induction l using List.reverseRecOn with
  | nil => exact List.Perm.refl _
  | append_singleton l p ih =>
    rw [List.map_append] at honce
    obtain ⟨hrest, -, hnew⟩ := List.nodup_append.mp honce
    have hkey : p.1 ∉ collect l := by
      intro hmem
      obtain ⟨v, hv⟩ := Option.isSome_iff_exists.mp (AList.lookup_isSome.mpr hmem)
      have hp := List.mem_map_of_mem (f := Prod.fst) (mem_of_lookup_collect hv)
      exact hnew p.1 hp p.1 List.mem_cons_self rfl
    rw [collect_append_singleton, pairs, AList.entries_insert_of_notMem hkey, List.map_cons]
    exact ((ih hrest).cons p).trans (List.perm_append_singleton p l).symm

theorem collect_keeps_iff :
    (∀ p ∈ l, (collect l).lookup p.1 = some p.2) ↔ SingleValued l := by
  constructor
  · intro h p hp p' hp' hk
    have hl : some p.2 = some p'.2 := by rw [← h p hp, hk, h p' hp']
    exact Option.some.inj hl
  · intro h p hp
    obtain ⟨v, hv⟩ := exists_lookup_collect hp
    rw [hv, h p hp _ (mem_of_lookup_collect hv) rfl]

end Multimap
