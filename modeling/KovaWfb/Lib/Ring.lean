/-
# A bounded queue in a ring of slots

A ring keeps its elements in `size` slots from `head` on, `count` of them, around the end,
and `tail` is the slot after the last one.  Slots are reused without being cleared, so what
the ring holds is only what `contents` reads: pushing writes the slot at `tail`, which no
element occupies (`contents_push`), popping leaves the slots as they are (`contents_pop`).
-/

import Mathlib.Algebra.Order.Ring.Nat
import Mathlib.Tactic.Common

namespace Ring

variable {α : Type} {slots slots' : ℕ → α} {size head tail count : ℕ}

/-- The elements in a ring, oldest first. -/
def contents (slots : ℕ → α) (size head count : ℕ) : List α :=
  (List.range count).map fun i => slots ((head + i) % size)

/-- The three indices of a ring. -/
structure Valid (size head tail count : ℕ) : Prop where
  head_lt : head < size
  tail_eq : tail = (head + count) % size
  count_le : count ≤ size

theorem valid_empty (hsize : 0 < size) : Valid size 0 0 0 where
  head_lt := hsize
  tail_eq := (Nat.zero_mod size).symm
  count_le := Nat.zero_le size

theorem Valid.tail_lt (h : Valid size head tail count) : tail < size := by
  rw [h.tail_eq]
  exact Nat.mod_lt _ (by have := h.head_lt; omega)

theorem Valid.push (h : Valid size head tail count) (hroom : count < size) :
    Valid size head ((tail + 1) % size) (count + 1) where
  head_lt := h.head_lt
  tail_eq := by rw [h.tail_eq, Nat.mod_add_mod, Nat.add_assoc]
  count_le := hroom

theorem Valid.pop (h : Valid size head tail (count + 1)) :
    Valid size ((head + 1) % size) tail count where
  head_lt := Nat.mod_lt _ (by have := h.head_lt; omega)
  tail_eq := by rw [h.tail_eq, Nat.mod_add_mod, Nat.add_right_comm, Nat.add_assoc]
  count_le := by have := h.count_le; omega

/-- Fewer than a whole turn apart, two positions are two slots. -/
theorem slot_ne {i j : ℕ} (hij : i < j) (hj : j < size) : (head + i) % size ≠ (head + j) % size := by
  intro heq
  have hsub : (head + j - (head + i)) % size = 0 := Nat.sub_mod_eq_zero_of_mod_eq heq.symm
  rw [Nat.add_sub_add_left, Nat.mod_eq_of_lt (by omega)] at hsub
  omega

@[simp] theorem contents_zero : contents slots size head 0 = [] := rfl

/-- **Pushing appends**: only the slot at `tail` changes. -/
theorem contents_push {a : α} (h : Valid size head tail count) (hroom : count < size)
    (hsame : ∀ i, i < size → i ≠ tail → slots' i = slots i) (hnew : slots' tail = a) :
    contents slots' size head (count + 1) = contents slots size head count ++ [a] := by
  have hsize : 0 < size := by have := h.head_lt; omega
  rw [contents, List.range_succ, List.map_append, List.map_singleton, ← h.tail_eq, hnew]
  congr 1
  refine List.map_congr_left fun i hi => hsame _ (Nat.mod_lt _ hsize) ?_
  rw [h.tail_eq]
  exact slot_ne (List.mem_range.1 hi) hroom

/-- **Popping takes the oldest one.** -/
theorem contents_pop (hhead : head < size) :
    contents slots size head (count + 1) =
      slots head :: contents slots size ((head + 1) % size) count := by
  rw [contents, List.range_succ_eq_map, List.map_cons, List.map_map, Nat.add_zero,
    Nat.mod_eq_of_lt hhead]
  congr 1
  refine List.map_congr_left fun i _ => ?_
  simp only [Function.comp_apply]
  rw [Nat.mod_add_mod, Nat.succ_eq_add_one, Nat.add_right_comm, Nat.add_assoc]

end Ring
