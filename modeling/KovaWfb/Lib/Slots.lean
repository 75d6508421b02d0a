/-
# Time slots of one length

Time is cut into slots of `len` units, the slot with number 0 starting at time 0.
`slotAt` is the slot a time falls into and `untilNext` how long it is to the next
one.  Within that distance the slot stays, at it the slot is the next one
(`slotAt_add_of_lt`, `slotAt_add_untilNext`), and clocks less than a slot apart are in
the same slot or in neighbouring ones (`slotAt_add_le`).
-/

import Mathlib.Algebra.Order.Ring.Int
import Mathlib.Tactic.Common

namespace Slots

variable {len t d : ℤ}

/-- The slot of a time. -/
def slotAt (len t : ℤ) : ℤ := t / len

/-- How long it is until the next slot. -/
def untilNext (len t : ℤ) : ℤ := len - t % len

theorem slotAt_nonneg (hlen : 0 < len) (ht : 0 ≤ t) : 0 ≤ slotAt len t :=
  Int.ediv_nonneg ht hlen.le

theorem untilNext_pos (hlen : 0 < len) : 0 < untilNext len t := by
  have h := Int.emod_lt_of_pos t hlen
  rw [untilNext]
  omega

/-- A time is in the slot whose two ends enclose it. -/
theorem slotAt_eq_iff (hlen : 0 < len) {slot : ℤ} :
    slotAt len t = slot ↔ slot * len ≤ t ∧ t < slot * len + len := by
  rw [slotAt, Int.ediv_eq_iff_of_pos hlen]

/-- The next slot starts when the current one ends. -/
theorem slot_end : slotAt len t * len + len = t + untilNext len t := by
  have h := Int.ediv_mul_add_emod t len
  rw [slotAt, untilNext]
  omega

theorem slot_start_le (hlen : 0 < len) : slotAt len t * len ≤ t :=
  ((slotAt_eq_iff hlen).1 rfl).1

/-- **Before the next slot the slot stays.** -/
theorem slotAt_add_of_lt (hlen : 0 < len) (hd : 0 ≤ d) (hlt : d < untilNext len t) :
    slotAt len (t + d) = slotAt len t := by
  have hstart := slot_start_le (t := t) hlen
  have hend := @slot_end len t
  rw [slotAt_eq_iff hlen]
  omega

/-- **At the next slot the slot is one more.** -/
theorem slotAt_add_untilNext (hlen : 0 < len) :
    slotAt len (t + untilNext len t) = slotAt len t + 1 := by
  rw [slotAt_eq_iff hlen, add_mul, one_mul, slot_end]
  omega

/-- **Less than a slot later the slot is at most one more.** -/
theorem slotAt_add_le (hlen : 0 < len) (hd : 0 ≤ d) (hlt : d < len) :
    slotAt len t ≤ slotAt len (t + d) ∧ slotAt len (t + d) ≤ slotAt len t + 1 := by
  refine ⟨Int.ediv_le_ediv hlen (by omega), ?_⟩
  have hstep : slotAt len (t + len) = slotAt len t + 1 := by
    rw [slotAt, slotAt, Int.add_ediv_of_dvd_right (dvd_refl len), Int.ediv_self hlen.ne']
  rw [← hstep]
  exact Int.ediv_le_ediv hlen (by omega)

end Slots
