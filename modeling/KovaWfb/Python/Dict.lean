/-
# `dict`

A Python `dict` is the list of its entries in insertion order, each key once.
`dictSet` assigns an entry and `List.lookup` reads one (`lookup_dictSet`).
-/

import Mathlib.Data.List.Nodup
import Mathlib.Tactic.Abel
import Mathlib.Tactic.Common

namespace KovaWfb

variable {κ ν : Type} [DecidableEq κ]

/-- `dict[key] = value`: a known key keeps its place. -/
def dictSet (key : κ) (value : ν) : List (κ × ν) → List (κ × ν)
  | [] => [(key, value)]
  | (k, v) :: rest => if k = key then (k, value) :: rest else (k, v) :: dictSet key value rest

variable {key key' : κ} {value value' : ν} {entries : List (κ × ν)}

section

variable [BEq κ] [LawfulBEq κ]

theorem lookup_cons_eq {entry : κ × ν} :
    (entry :: entries).lookup key = if key = entry.1 then some entry.2 else entries.lookup key := by
  rw [List.lookup_cons]
  by_cases h : key = entry.1
  · rw [if_pos h, beq_iff_eq.mpr h]
  · rw [if_neg h, beq_false_of_ne h]

/-- **An entry reads back**, and the others are as they were. -/
theorem lookup_dictSet :
    (dictSet key value entries).lookup key' =
      if key' = key then some value else entries.lookup key' := by
  induction entries with
  | nil => exact lookup_cons_eq
  | cons entry rest ih =>
    obtain ⟨k, v⟩ := entry
    by_cases hk : k = key
    · subst hk
      rw [dictSet, if_pos rfl, lookup_cons_eq, lookup_cons_eq]
      by_cases h : key' = k
      · rw [if_pos h, if_pos h]
      · rw [if_neg h, if_neg h, if_neg h]
    · rw [dictSet, if_neg hk, lookup_cons_eq, lookup_cons_eq, ih]
      by_cases h : key' = k
      · rw [if_pos h, if_neg fun heq => hk (h.symm.trans heq), if_pos h]
      · rw [if_neg h, if_neg h]

/-- A sum over the values changes by what the value of the key was and is. -/
theorem sum_dictSet {M : Type} [AddCommMonoid M] (f : ν → M) (key : κ) (value : ν)
    (entries : List (κ × ν)) :
    ((dictSet key value entries).map fun entry => f entry.2).sum +
        ((entries.lookup key).map f).getD 0 =
      (entries.map fun entry => f entry.2).sum + f value := by
  induction entries with
  | nil =>
    rw [dictSet, List.lookup_nil, List.map_cons, List.sum_cons, List.map_nil, List.sum_nil, zero_add,
      add_zero]
    exact add_zero _
  | cons entry rest ih =>
    obtain ⟨k, v⟩ := entry
    rw [lookup_cons_eq]
    by_cases hk : k = key
    · rw [dictSet, if_pos hk, if_pos hk.symm]
      simp only [List.map_cons, List.sum_cons, Option.map_some, Option.getD_some]
      abel
    · rw [dictSet, if_neg hk, if_neg (Ne.symm hk)]
      rw [List.map_cons, List.sum_cons, List.map_cons, List.sum_cons, add_assoc, ih, add_assoc]

omit [DecidableEq κ] in
/-- What is read is there. -/
theorem mem_of_lookup (h : entries.lookup key = some value) : (key, value) ∈ entries := by
  obtain ⟨before, after, rfl, -⟩ := List.lookup_eq_some_iff.mp h
  exact List.mem_append_right _ (List.mem_cons_self ..)

omit [DecidableEq κ] in
/-- Where each key is there once, what is read is what is there. -/
theorem lookup_eq_some_iff_mem (h : (entries.map Prod.fst).Nodup) :
    entries.lookup key = some value ↔ (key, value) ∈ entries := by
  refine ⟨mem_of_lookup, fun hmem => ?_⟩
  obtain ⟨before, after, rfl⟩ := List.append_of_mem hmem
  refine List.lookup_eq_some_iff.mpr ⟨before, after, rfl, fun entry hentry => ?_⟩
  rw [List.map_append, List.map_cons] at h
  have hne := (List.nodup_append.mp h).2.2 entry.1 (List.mem_map_of_mem hentry) key
    (List.mem_cons_self ..)
  exact bne_iff_ne.mpr hne.symm

end

theorem mem_of_mem_dictSet {entry : κ × ν} (h : entry ∈ dictSet key value entries) :
    entry = (key, value) ∨ entry ∈ entries := by
  induction entries with
  | nil => exact Or.inl (List.mem_singleton.mp h)
  | cons first rest ih =>
    obtain ⟨k, v⟩ := first
    by_cases hk : k = key
    · rw [dictSet, if_pos hk, hk] at h
      exact (List.mem_cons.mp h).imp_right (List.mem_cons_of_mem _)
    · rw [dictSet, if_neg hk] at h
      rcases List.mem_cons.mp h with rfl | h
      · exact Or.inr (List.mem_cons_self ..)
      · exact (ih h).imp_right (List.mem_cons_of_mem _)

/-- Each key stays there once. -/
theorem nodup_keys_dictSet (h : (entries.map Prod.fst).Nodup) :
    ((dictSet key value entries).map Prod.fst).Nodup := by
  induction entries with
  | nil => exact List.nodup_singleton key
  | cons entry rest ih =>
    obtain ⟨k, v⟩ := entry
    obtain ⟨hnotin, hrest⟩ := List.nodup_cons.mp h
    by_cases hk : k = key
    · rw [dictSet, if_pos hk]
      exact h
    · rw [dictSet, if_neg hk]
      refine List.nodup_cons.mpr ⟨fun hmem => ?_, ih hrest⟩
      obtain ⟨entry, hentry, heq⟩ := List.mem_map.mp hmem
      rcases mem_of_mem_dictSet hentry with rfl | hentry
      · exact hk heq.symm
      · exact hnotin (List.mem_map.mpr ⟨entry, hentry, heq⟩)

/-- The last assignment counts. -/
theorem dictSet_dictSet :
    dictSet key value' (dictSet key value entries) = dictSet key value' entries := by
  induction entries with
  | nil => exact if_pos rfl
  | cons entry rest ih =>
    obtain ⟨k, v⟩ := entry
    by_cases hk : k = key
    · rw [dictSet, if_pos hk, dictSet, if_pos hk, dictSet, if_pos hk]
    · rw [dictSet, if_neg hk, dictSet, if_neg hk, dictSet, if_neg hk, ih]

end KovaWfb
