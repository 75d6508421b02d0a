/-
# Integer division, list indices and `int` of Python

`a // b` rounds down and `a % b` has the sign of `b`; `xs[i]` counts from the end for a
negative index, and `int(x)` cuts off the fraction.  Where Python raises (`ZeroDivisionError`,
`IndexError`) the result is `none`.
-/

import Mathlib.Algebra.Order.Ring.Int
import Mathlib.Data.Rat.Cast.Order
import Mathlib.Tactic.Common

namespace KovaWfb

/-- `a // b`. -/
def floorDiv (a b : ℤ) : Option ℤ := if b = 0 then none else some (a.fdiv b)

/-- `a % b`. -/
def floorMod (a b : ℤ) : Option ℤ := if b = 0 then none else some (a.fmod b)

/-- `xs[i]`. -/
def listIndex {α : Type} (xs : List α) (i : ℤ) : Option α :=
  if 0 ≤ i then xs[i.toNat]?
  else if 0 ≤ xs.length + i then xs[(xs.length + i).toNat]?
  else none

/-- `int(x)`. -/
def truncate (x : ℚ) : ℤ := if 0 ≤ x then x.floor else x.ceil

theorem floorDiv_of_pos {a b : ℤ} (hb : 0 < b) : floorDiv a b = some (a / b) := by
  rw [floorDiv, if_neg hb.ne', Int.fdiv_eq_ediv_of_nonneg a hb.le]

theorem floorMod_of_pos {a b : ℤ} (hb : 0 < b) : floorMod a b = some (a % b) := by
  rw [floorMod, if_neg hb.ne', Int.fmod_eq_emod_of_nonneg a hb.le]

theorem listIndex_of_lt {α : Type} {xs : List α} {i : ℤ} (hi : 0 ≤ i) (hlt : i.toNat < xs.length) :
    listIndex xs i = some xs[i.toNat] := by
  rw [listIndex, if_pos hi, List.getElem?_eq_getElem hlt]

/-- A positive bound is reached by `max(0, int(x))` when `x` reaches it. -/
theorem le_max_truncate_iff {x : ℚ} {n : ℤ} (hn : 0 < n) : n ≤ max 0 (truncate x) ↔ (n : ℚ) ≤ x := by
  by_cases hx : 0 ≤ x
  · rw [truncate, if_pos hx, le_max_iff, ← Rat.le_floor_iff]
    exact or_iff_right (by omega)
  · have hceil : x.ceil ≤ 0 := Rat.ceil_le_iff.mpr (by exact_mod_cast (not_le.mp hx).le)
    rw [truncate, if_neg hx, max_eq_left hceil]
    refine iff_of_false (by omega) fun h => hx (le_trans ?_ h)
    exact_mod_cast hn.le

end KovaWfb
