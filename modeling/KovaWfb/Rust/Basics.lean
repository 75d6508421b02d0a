/-
# Rust control flow: panics

`src/rx.rs` and `src/tx.rs` index slices, cut ranges out of them and subtract `usize`
values, and each of these panics where it is not defined.  They are modelled in `Rust`, where
code returns a value or panics.  A `usize` is a natural number: every sum in the modelled
code is at most a few bytes above the length of a slice.

`Returns x P` says that the code `x` does not panic and returns a value with the
property `P`; the rules below take such a statement apart along the code.
-/

import KovaWfb.Python.Basics
import Mathlib.Data.Nat.Notation

namespace KovaWfb

/-- The panics of the modelled code; `loop` is none of them and stands for a loop that
was not seen to end. -/
inductive Panic
  | indexOutOfBounds
  | rangeOutOfBounds
  | lengthMismatch
  | subtractWithOverflow
  | loop
  deriving DecidableEq, Repr

/-- Code that returns a value or panics. -/
abbrev Rust (α : Type) := Except Panic α

namespace Rust

variable {α β : Type}

/-- `xs[i]`. -/
def index (xs : List α) (i : ℕ) : Rust α :=
  match xs[i]? with
  | some a => .ok a
  | none => .error .indexOutOfBounds

/-- `xs[i] = a`. -/
def assign (xs : List α) (i : ℕ) (a : α) : Rust (List α) :=
  if i < xs.length then .ok (xs.set i a) else .error .indexOutOfBounds

/-- `xs[i] = a` for an array. -/
def assignArray {n : ℕ} (xs : Vector α n) (i : ℕ) (a : α) : Rust (Vector α n) :=
  if h : i < n then .ok (xs.set i a h) else .error .indexOutOfBounds

/-- `&xs[a..b]`. -/
def slice (xs : List α) (a b : ℕ) : Rust (List α) :=
  if a ≤ b ∧ b ≤ xs.length then .ok ((xs.drop a).take (b - a)) else .error .rangeOutOfBounds

/-- `xs[a..b].copy_from_slice(ys)`. -/
def copyFromSlice (xs : List α) (a b : ℕ) (ys : List α) : Rust (List α) :=
  if a ≤ b ∧ b ≤ xs.length then
    if ys.length = b - a then .ok (xs.take a ++ (ys ++ xs.drop b)) else .error .lengthMismatch
  else .error .rangeOutOfBounds

/-- `a - b`. -/
def sub (a b : ℕ) : Rust ℕ :=
  if b ≤ a then .ok (a - b) else .error .subtractWithOverflow

/-! ### Code that returns -/

/-- **The code does not panic**, and what it returns satisfies `P`. -/
def Returns (x : Rust α) (P : α → Prop) : Prop := ∃ a, x = .ok a ∧ P a

variable {P : α → Prop} {Q : β → Prop}

theorem returns_ok {a : α} (h : P a) : Returns (.ok a) P := ⟨a, rfl, h⟩

@[simp] theorem ok_bind (a : α) (f : α → Rust β) : ((.ok a : Rust α) >>= f) = f a := rfl

theorem Returns.bind {x : Rust α} {f : α → Rust β} (hx : Returns x P)
    (hf : ∀ a, P a → Returns (f a) Q) : Returns (x >>= f) Q := by
  obtain ⟨a, rfl, hP⟩ := hx
  exact hf a hP

theorem returns_ite {c : Prop} [Decidable c] {x y : Rust α} (hx : c → Returns x P)
    (hy : ¬ c → Returns y P) : Returns (if c then x else y) P := by
  split
  · exact hx ‹_›
  · exact hy ‹_›

variable {xs ys : List α} {i a b : ℕ}

@[simp] theorem index_eq_ok {v : α} : index xs i = .ok v ↔ xs[i]? = some v := by
  unfold index
  split <;> simp_all

theorem returns_index (h : i < xs.length) : Returns (index xs i) fun v => xs[i]? = some v :=
  ⟨xs[i], index_eq_ok.2 (List.getElem?_eq_getElem h), List.getElem?_eq_getElem h⟩

theorem index_eq_getD (h : i < xs.length) (d : α) : index xs i = .ok (xs.getD i d) := by
  rw [index_eq_ok, List.getD_eq_getElem?_getD, List.getElem?_eq_getElem h, Option.getD_some]

theorem assign_of_lt {v : α} (h : i < xs.length) : assign xs i v = .ok (xs.set i v) := if_pos h

theorem assignArray_of_lt {n : ℕ} {xs : Vector α n} {v : α} (h : i < n) :
    assignArray xs i v = .ok (xs.set i v h) := dif_pos h

theorem slice_of_le (hab : a ≤ b) (hb : b ≤ xs.length) :
    slice xs a b = .ok ((xs.drop a).take (b - a)) := if_pos ⟨hab, hb⟩

theorem returns_slice (hab : a ≤ b) (hb : b ≤ xs.length) :
    Returns (slice xs a b) fun v => v = (xs.drop a).take (b - a) ∧ v.length = b - a := by
  refine ⟨_, slice_of_le hab hb, rfl, ?_⟩
  rw [List.length_take, List.length_drop]
  omega

theorem copyFromSlice_of_le (hab : a ≤ b) (hb : b ≤ xs.length) (hlen : ys.length = b - a) :
    copyFromSlice xs a b ys = .ok (xs.take a ++ (ys ++ xs.drop b)) := by
  rw [copyFromSlice, if_pos ⟨hab, hb⟩, if_pos hlen]

/-- What a range holds after it was copied into, and what every other place holds. -/
theorem getElem?_copied (ha : a + ys.length ≤ xs.length) (i : ℕ) :
    (xs.take a ++ (ys ++ xs.drop (a + ys.length)))[i]? =
      if a ≤ i ∧ i < a + ys.length then ys[i - a]? else xs[i]? := by
  have hlen : (xs.take a).length = a := by
    rw [List.length_take]
    omega
  rcases Nat.lt_or_ge i a with hi | hi
  · rw [if_neg (by omega), List.getElem?_append_left (by omega), List.getElem?_take_of_lt hi]
  · rw [List.getElem?_append_right (by omega), hlen]
    rcases Nat.lt_or_ge i (a + ys.length) with hin | hout
    · rw [if_pos ⟨hi, hin⟩, List.getElem?_append_left (by omega)]
    · rw [if_neg (by omega), List.getElem?_append_right (by omega), List.getElem?_drop]
      congr 1
      omega

/-- A range is determined by its places. -/
theorem drop_take_congr {zs : List α} {n : ℕ} (h : ∀ i, a ≤ i → i < a + n → xs[i]? = zs[i]?) :
    (xs.drop a).take n = (zs.drop a).take n := by
  refine List.ext_getElem? fun i => ?_
  rcases Nat.lt_or_ge i n with hi | hi
  · rw [List.getElem?_take_of_lt hi, List.getElem?_take_of_lt hi, List.getElem?_drop, List.getElem?_drop]
    exact h _ (by omega) (by omega)
  · rw [List.getElem?_eq_none, List.getElem?_eq_none]
    · exact Nat.le_trans (List.length_take_le ..) hi
    · exact Nat.le_trans (List.length_take_le ..) hi

theorem sub_of_le (h : b ≤ a) : sub a b = .ok (a - b) := if_pos h

end Rust

end KovaWfb
