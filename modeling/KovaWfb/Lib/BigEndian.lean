/-
# Fixed-width big-endian fields

A wire format with network byte order is a sequence of unsigned fields of fixed
width followed by a payload.  `toBE w v` writes one field, `field b off w` reads
the field of width `w` at offset `off` of the byte string `b`.  Both directions
of the round trip are here: a field that was written is read back
(`field_toBE_append`, `field_skip_append`), and writing back what was read gives
the bytes that were read (`toBE_field_append_drop`).
-/

import Mathlib.Algebra.Order.Ring.Nat
import Mathlib.Tactic.Positivity
import Mathlib.Tactic.Ring

namespace BigEndian

/-- The `w` bytes of `v`, most significant first; bits above `8 * w` are
dropped. -/
def toBE : ℕ → ℕ → List UInt8
  | 0, _ => []
  | w + 1, v => UInt8.ofNat (v / 256 ^ w % 256) :: toBE w v

/-- The number with the given bytes, most significant first. -/
def ofBE : List UInt8 → ℕ
  | [] => 0
  | b :: bs => b.toNat * 256 ^ bs.length + ofBE bs

@[simp] theorem length_toBE (w v : ℕ) : (toBE w v).length = w := by
  induction w with
  | zero => rfl
  | succ w ih => simp only [toBE, List.length_cons, ih]

theorem ofBE_lt (l : List UInt8) : ofBE l < 256 ^ l.length := by
  induction l with
  | nil => simp [ofBE]
  | cons b bs ih =>
    have hb : b.toNat + 1 ≤ 256 := b.toNat_lt
    have hmul : (b.toNat + 1) * 256 ^ bs.length ≤ 256 * 256 ^ bs.length :=
      Nat.mul_le_mul_right _ hb
    rw [ofBE, List.length_cons, pow_succ']
    rw [Nat.add_mul, Nat.one_mul] at hmul
    omega

/-- Reading back what was written gives the value modulo the width. -/
theorem ofBE_toBE (w v : ℕ) : ofBE (toBE w v) = v % 256 ^ w := by
  induction w with
  | zero => simp [toBE, ofBE, Nat.mod_one]
  | succ w ih =>
    have hb : (UInt8.ofNat (v / 256 ^ w % 256)).toNat = v / 256 ^ w % 256 := by
      rw [UInt8.toNat_ofNat']
      exact Nat.mod_eq_of_lt (Nat.mod_lt _ (by norm_num))
    rw [toBE, ofBE, length_toBE, hb, ih, Nat.mod_pow_succ, Nat.mul_comm, Nat.add_comm]

theorem ofBE_toBE_of_lt {w v : ℕ} (h : v < 256 ^ w) : ofBE (toBE w v) = v := by
  rw [ofBE_toBE, Nat.mod_eq_of_lt h]

/-- Digits above the width do not matter. -/
theorem toBE_mul_pow_add (w n c v : ℕ) (h : w ≤ n) :
    toBE w (c * 256 ^ n + v) = toBE w v := by
  induction w with
  | zero => rfl
  | succ w ih =>
    obtain ⟨k, rfl⟩ := Nat.exists_eq_add_of_le h
    have hpow : c * 256 ^ (w + 1 + k) + v = (c * 256 ^ k) * 256 * 256 ^ w + v := by
      rw [pow_add, pow_succ]; ring
    have hdiv : (c * 256 ^ (w + 1 + k) + v) / 256 ^ w % 256 = v / 256 ^ w % 256 := by
      rw [hpow, Nat.add_comm, Nat.add_mul_div_right _ _ (by positivity), Nat.add_mul_mod_self_right]
    rw [toBE, toBE, hdiv, ih (by omega)]

/-- Writing back what was read gives the bytes that were read. -/
theorem toBE_ofBE (l : List UInt8) : toBE l.length (ofBE l) = l := by
  induction l with
  | nil => rfl
  | cons b bs ih =>
    have hr := ofBE_lt bs
    have hq : (b.toNat * 256 ^ bs.length + ofBE bs) / 256 ^ bs.length = b.toNat := by
      rw [Nat.add_comm, Nat.add_mul_div_right _ _ (by positivity), Nat.div_eq_of_lt hr, Nat.zero_add]
    rw [List.length_cons, ofBE, toBE, hq, toBE_mul_pow_add _ _ _ _ le_rfl, ih,
      Nat.mod_eq_of_lt b.toNat_lt, UInt8.ofNat_toNat]

/-! ### Fields at an offset -/

/-- The unsigned field of width `w` at offset `off`. -/
def field (b : List UInt8) (off w : ℕ) : ℕ := ofBE ((b.drop off).take w)

theorem field_lt (b : List UInt8) (off w : ℕ) : field b off w < 256 ^ w :=
  (ofBE_lt _).trans_le (Nat.pow_le_pow_right (by norm_num) (List.length_take_le _ _))

/-- The field just written at the front is read back. -/
@[simp] theorem field_toBE_append (w v : ℕ) (r : List UInt8) :
    field (toBE w v ++ r) 0 w = v % 256 ^ w := by
  have h : ((toBE w v ++ r).drop 0).take w = toBE w v := by
    rw [List.drop_zero]
    exact List.take_left' (length_toBE w v)
  rw [field, h, ofBE_toBE]

/-- A field behind the one at the front is read from the rest. -/
@[simp] theorem field_skip_append (k v : ℕ) (r : List UInt8) (off w : ℕ) (h : k ≤ off) :
    field (toBE k v ++ r) off w = field r (off - k) w := by
  rw [field, field, List.drop_append, length_toBE, List.drop_eq_nil_of_le (by rw [length_toBE]; exact h),
    List.nil_append]

/-- Writing a field back in front of what follows it restores the bytes from
its offset on. -/
theorem toBE_field_append_drop {b : List UInt8} {off w : ℕ} (h : off + w ≤ b.length) :
    toBE w (field b off w) ++ b.drop (off + w) = b.drop off := by
  have hlen : ((b.drop off).take w).length = w := by
    rw [List.length_take, List.length_drop]; omega
  have hback := toBE_ofBE ((b.drop off).take w)
  rw [hlen] at hback
  rw [field, hback, ← List.drop_drop, List.take_append_drop]

example : field (toBE 1 7 ++ (toBE 4 500 ++ toBE 2 3)) 1 4 = 500 := by decide

end BigEndian
