/-
# A set with first-in first-out eviction

A duplicate filter with bounded memory keeps a set of keys for the membership
test and a queue of the same keys for their age.  `FifoSet.remember` inserts an
absent key at the back of the queue and then pops the front while the queue is
longer than the limit.

`FifoSet` carries its invariant: the queue has no repetitions, the set is exactly
the queue, and the queue is not longer than the limit.  `Traces w ks w'` says that
`w'` arose from `w` by newly remembering `ks`, one after the other.  Along such a
history a newly remembered key stays as long as fewer than `limit` other keys are
newly remembered (`Traces.mem_of_card_lt`).
-/

import Mathlib.Data.Finset.Card
import Mathlib.Tactic.Common

/-- A set of keys with the queue of the same keys, oldest first, bounded by
`limit`. -/
structure FifoSet (α : Type*) [DecidableEq α] where
  limit : ℕ
  seen : Finset α
  order : List α
  limit_pos : 0 < limit
  order_nodup : order.Nodup
  seen_eq : seen = order.toFinset
  length_le : order.length ≤ limit

namespace FifoSet

variable {α : Type*} [DecidableEq α]

instance : Membership α (FifoSet α) := ⟨fun w k => k ∈ w.seen⟩

instance (w : FifoSet α) (k : α) : Decidable (k ∈ w) :=
  inferInstanceAs (Decidable (k ∈ w.seen))

theorem mem_iff_mem_seen {w : FifoSet α} {k : α} : k ∈ w ↔ k ∈ w.seen := Iff.rfl

theorem mem_iff_mem_order {w : FifoSet α} {k : α} : k ∈ w ↔ k ∈ w.order := by
  rw [mem_iff_mem_seen, w.seen_eq, List.mem_toFinset]

/-- The empty set with the given limit. -/
def empty (limit : ℕ) (h : 0 < limit) : FifoSet α where
  limit := limit
  seen := ∅
  order := []
  limit_pos := h
  order_nodup := List.nodup_nil
  seen_eq := rfl
  length_le := Nat.zero_le _

@[simp] theorem not_mem_empty {limit : ℕ} {h : 0 < limit} {k : α} :
    ¬ k ∈ (empty limit h : FifoSet α) := by
  rw [mem_iff_mem_order]
  exact List.not_mem_nil

/-- The eviction loop: pop the oldest key, and take it out of the set, while the
queue is longer than the limit. -/
def evict (limit : ℕ) : Finset α → List α → Finset α × List α
  | seen, [] => (seen, [])
  | seen, old :: order =>
      if limit < order.length + 1 then evict limit (seen.erase old) order
      else (seen, old :: order)

/-- The loop leaves the last `limit` keys of the queue. -/
theorem evict_order (limit : ℕ) (seen : Finset α) (order : List α) :
    (evict limit seen order).2 = order.drop (order.length - limit) := by
  induction order generalizing seen with
  | nil => simp [evict]
  | cons old order ih =>
    by_cases h : limit < order.length + 1
    · rw [evict, if_pos h, ih, List.length_cons, Nat.succ_sub (by omega), List.drop_succ_cons]
    · rw [evict, if_neg h, List.length_cons, Nat.sub_eq_zero_of_le (by omega), List.drop_zero]

/-- The loop keeps the set and the queue in step. -/
theorem evict_seen (limit : ℕ) (order : List α) (h : order.Nodup) :
    (evict limit order.toFinset order).1 = (evict limit order.toFinset order).2.toFinset := by
  induction order with
  | nil => rfl
  | cons old order ih =>
    obtain ⟨hold, hnd⟩ := List.nodup_cons.mp h
    by_cases hlt : limit < order.length + 1
    · have herase : (old :: order).toFinset.erase old = order.toFinset := by
        rw [List.toFinset_cons, Finset.erase_insert (by simpa using hold)]
      rw [evict, if_pos hlt, herase]
      exact ih hnd
    · rw [evict, if_neg hlt]

/-- One more key at the back, then the eviction loop. -/
def push (w : FifoSet α) (k : α) (hk : ¬ k ∈ w) : FifoSet α :=
  have hnd : (w.order ++ [k]).Nodup := by
    rw [mem_iff_mem_order] at hk
    exact List.nodup_append.mpr ⟨w.order_nodup, List.nodup_singleton k, by
      rintro a ha b hb rfl
      exact hk (List.mem_singleton.mp hb ▸ ha)⟩
  have hseen : insert k w.seen = (w.order ++ [k]).toFinset := by
    rw [w.seen_eq]
    ext a
    simp only [Finset.mem_insert, List.mem_toFinset, List.mem_append, List.mem_singleton]
    exact or_comm
  { limit := w.limit
    seen := (evict w.limit (insert k w.seen) (w.order ++ [k])).1
    order := (evict w.limit (insert k w.seen) (w.order ++ [k])).2
    limit_pos := w.limit_pos
    order_nodup := by rw [evict_order]; exact hnd.sublist (List.drop_sublist _ _)
    seen_eq := by rw [hseen]; exact evict_seen w.limit _ hnd
    length_le := by rw [evict_order, List.length_drop]; omega }

/-- Insert a key; `false` and no change when it is already there. -/
def remember (w : FifoSet α) (k : α) : Bool × FifoSet α :=
  if hk : k ∈ w then (false, w) else (true, w.push k hk)

@[simp] theorem remember_fst (w : FifoSet α) (k : α) : (w.remember k).1 = !decide (k ∈ w) := by
  unfold remember
  split <;> simp_all

theorem remember_of_mem {w : FifoSet α} {k : α} (h : k ∈ w) : w.remember k = (false, w) := by
  rw [remember, dif_pos h]

@[simp] theorem remember_limit (w : FifoSet α) (k : α) : (w.remember k).2.limit = w.limit := by
  unfold remember
  split <;> rfl

theorem remember_order_of_not_mem {w : FifoSet α} {k : α} (h : ¬ k ∈ w) :
    (w.remember k).2.order = (w.order ++ [k]).drop ((w.order ++ [k]).length - w.limit) := by
  rw [remember, dif_neg h]
  exact evict_order _ _ _

/-- A remembered key is present. -/
@[simp] theorem mem_remember_self (w : FifoSet α) (k : α) : k ∈ (w.remember k).2 := by
  by_cases h : k ∈ w
  · rwa [remember_of_mem h]
  · have hpos := w.limit_pos
    rw [mem_iff_mem_order, remember_order_of_not_mem h, List.drop_append]
    refine List.mem_append_right _ ?_
    rw [show (w.order ++ [k]).length - w.limit - w.order.length = 0 by
      rw [List.length_append, List.length_singleton]; omega, List.drop_zero]
    exact List.mem_singleton_self k

/-- Remembering adds no key but the one remembered. -/
theorem mem_of_mem_remember {w : FifoSet α} {k k' : α} (h : k' ∈ (w.remember k).2) :
    k' = k ∨ k' ∈ w := by
  by_cases hk : k ∈ w
  · rw [remember_of_mem hk] at h
    exact Or.inr h
  · rw [mem_iff_mem_order, remember_order_of_not_mem hk] at h
    rcases List.mem_append.mp (List.mem_of_mem_drop h) with h | h
    · exact Or.inr (mem_iff_mem_order.mpr h)
    · exact Or.inl (List.mem_singleton.mp h)

theorem not_mem_remember {w : FifoSet α} {k k' : α} (hne : k' ≠ k) (h : ¬ k' ∈ w) :
    ¬ k' ∈ (w.remember k).2 := fun hmem =>
  (mem_of_mem_remember hmem).elim hne h

/-! ### Which keys were newly remembered -/

/-- The keys `w'` holds and `w` does not. -/
def newKeys (w w' : FifoSet α) : List α := w'.order.filter (· ∉ w.order)

/-- `Traces w ks w'`: newly remembering the keys `ks`, in order, leads from `w`
to `w'`. -/
inductive Traces : FifoSet α → List α → FifoSet α → Prop where
  | refl (w : FifoSet α) : Traces w [] w
  | remember {w w' : FifoSet α} {ks : List α} {k : α} :
      Traces w ks w' → ¬ k ∈ w' → Traces w (ks ++ [k]) (w'.remember k).2

theorem Traces.trans {w w' w'' : FifoSet α} {ks ls : List α} (h : Traces w ks w')
    (h' : Traces w' ls w'') : Traces w (ks ++ ls) w'' := by
  induction h' with
  | refl => rwa [List.append_nil]
  | remember _ hk ih =>
    rw [← List.append_assoc]
    exact ih.remember hk

theorem Traces.limit_eq {w w' : FifoSet α} {ks : List α} (h : Traces w ks w') :
    w'.limit = w.limit := by
  induction h with
  | refl => rfl
  | remember _ _ ih => rw [remember_limit, ih]

/-- What stands behind a newly remembered key was newly remembered after it, as
long as fewer than `limit` other keys were. -/
theorem Traces.order_eq_of_card_lt {w w' : FifoSet α} {ks : List α} {k : α} (hk : ¬ k ∈ w)
    (h : Traces (w.remember k).2 ks w') (hlt : (ks.toFinset.erase k).card < w.limit) :
    ∃ older newer, w'.order = older ++ k :: newer ∧ ∀ a ∈ newer, a ∈ ks ∧ a ≠ k := by
  generalize hw : (w.remember k).2 = w₀ at h
  induction h with
  | refl =>
    subst hw
    have hpos := w.limit_pos
    rw [remember_order_of_not_mem hk, List.drop_append_of_le_length
      (by rw [List.length_append, List.length_singleton]; omega)]
    exact ⟨_, [], rfl, by simp⟩
  | @remember w' ks k' ht hk' ih =>
    have hsub : ks.toFinset.erase k ⊆ (ks ++ [k']).toFinset.erase k :=
      Finset.erase_subset_erase k fun a ha => by
        rw [List.mem_toFinset] at ha ⊢
        exact List.mem_append_left _ ha
    obtain ⟨older, newer, horder, hnewer⟩ := ih (lt_of_le_of_lt (Finset.card_le_card hsub) hlt)
    have hne : k' ≠ k := by
      rintro rfl
      exact hk' (mem_iff_mem_order.mpr (horder ▸ List.mem_append_right _ (List.mem_cons_self ..)))
    have hnewer' : ∀ a ∈ newer ++ [k'], a ∈ ks ++ [k'] ∧ a ≠ k := by
      intro a ha
      rcases List.mem_append.mp ha with ha | ha
      · exact ⟨List.mem_append_left _ (hnewer a ha).1, (hnewer a ha).2⟩
      · obtain rfl := List.mem_singleton.mp ha
        exact ⟨List.mem_append_right _ (List.mem_singleton_self a), hne⟩
    -- The keys behind `k` are distinct, so they are fewer than `limit`.
    have hnodup : (newer ++ [k']).Nodup := by
      have hall := w'.order_nodup
      rw [horder] at hall
      have hk'' : ¬ k' ∈ newer := fun hm => hk' (mem_iff_mem_order.mpr
        (horder ▸ List.mem_append_right _ (List.mem_cons_of_mem _ hm)))
      exact List.nodup_append.mpr ⟨(List.nodup_cons.mp (List.nodup_append.mp hall).2.1).2,
        List.nodup_singleton k', by
          rintro a ha b hb rfl
          exact hk'' (List.mem_singleton.mp hb ▸ ha)⟩
    have hcard : (newer ++ [k']).length ≤ ((ks ++ [k']).toFinset.erase k).card := by
      rw [← List.toFinset_card_of_nodup hnodup]
      refine Finset.card_le_card fun a ha => ?_
      obtain ⟨hmem, hne'⟩ := hnewer' a (List.mem_toFinset.mp ha)
      exact Finset.mem_erase.mpr ⟨hne', List.mem_toFinset.mpr hmem⟩
    have hlimit : w'.limit = w.limit := by rw [ht.limit_eq, ← hw, remember_limit]
    rw [List.length_append, List.length_singleton] at hcard
    refine ⟨older.drop ((w'.order ++ [k']).length - w'.limit), newer ++ [k'], ?_, hnewer'⟩
    rw [remember_order_of_not_mem hk', horder, List.append_assoc, List.cons_append,
      List.drop_append_of_le_length]
    rw [List.length_append, List.length_cons, List.length_append, List.length_singleton]
    omega

/-- **A newly remembered key stays while fewer than `limit` other keys are newly
remembered.** -/
theorem Traces.mem_of_card_lt {w w' : FifoSet α} {ks : List α} {k : α} (hk : ¬ k ∈ w)
    (h : Traces (w.remember k).2 ks w') (hlt : (ks.toFinset.erase k).card < w.limit) : k ∈ w' := by
  obtain ⟨older, newer, horder, -⟩ := h.order_eq_of_card_lt hk hlt
  rw [mem_iff_mem_order, horder]
  exact List.mem_append_right _ (List.mem_cons_self ..)

/-- It stays in any case while fewer than `limit` keys are. -/
theorem Traces.mem_of_length_lt {w w' : FifoSet α} {ks : List α} {k : α} (hk : ¬ k ∈ w)
    (h : Traces (w.remember k).2 ks w') (hlt : ks.length < w.limit) : k ∈ w' := by
  refine h.mem_of_card_lt hk (lt_of_le_of_lt ?_ hlt)
  exact (Finset.card_le_card (Finset.erase_subset _ _)).trans (List.toFinset_card_le _)

/-- A newly remembered key that is still there has at most `limit - 1` newly remembered
keys behind it. -/
theorem Traces.length_lt_of_mem {w w' : FifoSet α} {ks : List α} {k : α} (hk : ¬ k ∈ w)
    (h : Traces (w.remember k).2 ks w') (hnot : k ∉ ks) (hmem : k ∈ w') : ks.length < w.limit := by
  have hbehind : ∃ older, w'.order = older ++ k :: ks := by
    generalize hw : (w.remember k).2 = w₀ at h
    induction h with
    | refl =>
      subst hw
      have hpos := w.limit_pos
      rw [remember_order_of_not_mem hk, List.drop_append_of_le_length
        (by rw [List.length_append, List.length_singleton]; omega)]
      exact ⟨_, rfl⟩
    | @remember w' ks k' ht hk' ih =>
      have hne : k ≠ k' := fun he => hnot (he ▸ List.mem_append_right _ (List.mem_singleton_self _))
      have hold : k ∈ w' := (mem_of_mem_remember hmem).resolve_left hne
      obtain ⟨older, horder⟩ := ih (fun hm => hnot (List.mem_append_left _ hm)) hold
      rw [mem_iff_mem_order, remember_order_of_not_mem hk', horder, List.append_assoc,
        List.cons_append, List.drop_append] at hmem
      rw [remember_order_of_not_mem hk', horder, List.append_assoc, List.cons_append,
        List.drop_append]
      -- The key is still there, so nothing behind it was dropped.
      rcases Nat.lt_or_ge older.length
        ((older ++ k :: (ks ++ [k'])).length - w'.limit) with hlt | hge
      · exfalso
        rw [List.drop_eq_nil_of_le hlt.le, List.nil_append] at hmem
        obtain ⟨n, hn⟩ : ∃ n, (older ++ k :: (ks ++ [k'])).length - w'.limit - older.length = n + 1 :=
          ⟨_, (Nat.succ_pred_eq_of_pos (by omega)).symm⟩
        rw [hn, List.drop_succ_cons] at hmem
        rcases List.mem_append.mp (List.mem_of_mem_drop hmem) with hm | hm
        · exact hnot (List.mem_append_left _ hm)
        · exact hne (List.mem_singleton.mp hm)
      · rw [Nat.sub_eq_zero_of_le hge, List.drop_zero]
        exact ⟨_, rfl⟩
  obtain ⟨older, horder⟩ := hbehind
  have hle := w'.length_le
  rw [h.limit_eq, remember_limit, horder, List.length_append, List.length_cons] at hle
  omega

/-- One `remember` newly remembers the key or nothing. -/
theorem traces_remember (w : FifoSet α) (k : α) :
    Traces w (if k ∈ w then [] else [k]) (w.remember k).2 := by
  by_cases h : k ∈ w
  · rw [if_pos h, remember_of_mem h]
    exact .refl w
  · rw [if_neg h]
    exact (Traces.refl w).remember h

/-- The newly remembered key is what distinguishes the two queues. -/
theorem newKeys_remember (w : FifoSet α) (k : α) :
    newKeys w (w.remember k).2 = if k ∈ w then [] else [k] := by
  by_cases h : k ∈ w
  · rw [if_pos h, remember_of_mem h, newKeys, List.filter_eq_nil_iff]
    simp
  · have hpos := w.limit_pos
    have hk : ¬ k ∈ w.order := fun hm => h (mem_iff_mem_order.mpr hm)
    rw [if_neg h, newKeys, remember_order_of_not_mem h, List.drop_append, List.filter_append]
    rw [show (w.order ++ [k]).length - w.limit - w.order.length = 0 by
      rw [List.length_append, List.length_singleton]; omega, List.drop_zero]
    have hold : (w.order.drop ((w.order ++ [k]).length - w.limit)).filter (· ∉ w.order) = [] := by
      rw [List.filter_eq_nil_iff]
      intro a ha
      simpa using List.mem_of_mem_drop ha
    rw [hold, List.nil_append, List.filter_singleton]
    simp [hk]

@[simp] theorem newKeys_self (w : FifoSet α) : newKeys w w = [] := by
  rw [newKeys, List.filter_eq_nil_iff]
  simp

/-- A step that remembers at most one key is traced by what it newly
remembered. -/
theorem traces_newKeys {w w' : FifoSet α} (h : w' = w ∨ ∃ k, w' = (w.remember k).2) :
    Traces w (newKeys w w') w' := by
  rcases h with rfl | ⟨k, rfl⟩
  · rw [newKeys_self]
    exact .refl _
  · rw [newKeys_remember]
    exact traces_remember w k

end FifoSet
