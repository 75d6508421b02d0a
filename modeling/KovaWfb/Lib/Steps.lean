/-
# Steps from number to number of a list

A receiver that keeps only the last number it saw can count what happens between
neighbours: the numbers it is taken past (`skipped`) and a number that comes again at once
(`copies`).  What it cannot see is what came before: how often a number came again at all
(`repeats`) and which numbers between the ends never came (`missing`).

The first count is the second one exactly when the copies of a number are adjacent
(`copies_eq_repeats_iff`); then the numbers skipped are no more than the missing ones
exactly when the steps up and the number of steps down fit between the ends
(`skipped_le_missing_iff`).
-/

import Mathlib.Algebra.Order.Group.Int
import Mathlib.Data.Finset.Card
import Mathlib.Order.Bounds.Basic
import Mathlib.Tactic.Common

namespace Steps

/-- The sum of `f` over the steps of a list, the first one from `last` if there is one. -/
def sumFrom (f : ℤ → ℤ → ℤ) : Option ℤ → List ℤ → ℤ
  | _, [] => 0
  | none, x :: xs => sumFrom f (some x) xs
  | some last, x :: xs => f last x + sumFrom f (some x) xs

/-- How many numbers lie between two, when the second one is larger. -/
def between (x y : ℤ) : ℤ := max 0 (y - x - 1)

/-- The numbers that the steps go past. -/
def skipped (xs : List ℤ) : ℤ := sumFrom between none xs

/-- How far the steps go up. -/
def climb (xs : List ℤ) : ℤ := sumFrom (fun x y => max 0 (y - x)) none xs

/-- How many steps go down. -/
def descents (xs : List ℤ) : ℤ := sumFrom (fun x y => if y < x then 1 else 0) none xs

/-- How many steps stay. -/
def copies (xs : List ℤ) : ℤ := sumFrom (fun x y => if x = y then 1 else 0) none xs

/-- How often a number came that had come before. -/
def repeats (xs : List ℤ) : ℤ := xs.length - xs.toFinset.card

/-- How many numbers between two ends never came. -/
def missing (lo hi : ℤ) (xs : List ℤ) : ℤ :=
  ((Finset.range (hi + 1 - lo).toNat).filter fun k : ℕ => lo + k ∉ xs).card

/-- A number that comes again comes again at once. -/
def CopiesAdjacent : List ℤ → Prop
  | [] => True
  | [_] => True
  | x :: y :: rest => (x ∈ y :: rest → x = y) ∧ CopiesAdjacent (y :: rest)

instance CopiesAdjacent.decidable : DecidablePred CopiesAdjacent
  | [] => .isTrue trivial
  | [_] => .isTrue trivial
  | x :: y :: rest =>
    have := decidable (y :: rest)
    inferInstanceAs (Decidable ((x ∈ y :: rest → x = y) ∧ CopiesAdjacent (y :: rest)))

variable {x y lo hi : ℤ} {xs : List ℤ}

/-! ### Copies -/

theorem repeats_cons : repeats (x :: xs) = repeats xs + if x ∈ xs then 1 else 0 := by
  rw [repeats, repeats, List.toFinset_cons, Finset.card_insert_eq_ite, List.length_cons]
  simp only [List.mem_toFinset]
  split <;> push_cast <;> omega

theorem copies_cons_cons :
    copies (x :: y :: xs) = copies (y :: xs) + if x = y then 1 else 0 := add_comm _ _

theorem copies_le_repeats : copies xs ≤ repeats xs := by
  induction xs with
  | nil => exact le_rfl
  | cons x xs ih =>
    cases xs with
    | nil => exact le_of_eq rfl
    | cons y xs =>
      rw [copies_cons_cons, repeats_cons]
      refine add_le_add ih ?_
      by_cases h : x = y
      · rw [if_pos h, if_pos (h ▸ List.mem_cons_self)]
      · rw [if_neg h]
        split <;> decide

/-- **Every repeat is a copy of the number before it** when the copies are adjacent. -/
theorem copies_eq_repeats_iff : copies xs = repeats xs ↔ CopiesAdjacent xs := by
  induction xs with
  | nil => exact iff_of_true rfl trivial
  | cons x xs ih =>
    cases xs with
    | nil => exact iff_of_true rfl trivial
    | cons y xs =>
      have hle : copies (y :: xs) ≤ repeats (y :: xs) := copies_le_repeats
      rw [copies_cons_cons, repeats_cons, CopiesAdjacent, ← ih]
      by_cases hxy : x = y
      · rw [if_pos hxy, if_pos (hxy ▸ List.mem_cons_self), add_left_inj]
        exact (and_iff_right fun _ => hxy).symm
      · by_cases hmem : x ∈ y :: xs
        · rw [if_neg hxy, if_pos hmem]
          exact iff_of_false (by omega) fun h => hxy (h.1 hmem)
        · rw [if_neg hxy, if_neg hmem, add_left_inj]
          exact (and_iff_right fun h => absurd h hmem).symm

/-! ### Numbers that are skipped -/

/-- Each step goes up, goes down or stays. -/
theorem skipped_add_length (hxs : xs ≠ []) :
    skipped xs + xs.length = climb xs + descents xs + copies xs + 1 := by
  induction xs with
  | nil => exact absurd rfl hxs
  | cons x xs ih =>
    cases xs with
    | nil => rfl
    | cons y xs =>
      have hrest := ih (List.cons_ne_nil y xs)
      simp only [skipped, climb, descents, copies, sumFrom, List.length_cons, between] at hrest ⊢
      push_cast at hrest ⊢
      rcases lt_trichotomy x y with h | h | h
      · rw [if_neg (by omega), if_neg (by omega), max_eq_right (by omega), max_eq_right (by omega)]
        omega
      · rw [if_neg (by omega), if_pos h, max_eq_left (by omega), max_eq_left (by omega)]
        omega
      · rw [if_pos h, if_neg (by omega), max_eq_left (by omega), max_eq_left (by omega)]
        omega

theorem missing_eq (hlo : IsLeast {x | x ∈ xs} lo) (hhi : IsGreatest {x | x ∈ xs} hi) :
    missing lo hi xs = hi - lo + 1 - xs.toFinset.card := by
  have hle : lo ≤ hi := hhi.2 hlo.1
  -- The numbers that came are those at a distance from `lo` that came.
  have himage : ((Finset.range (hi + 1 - lo).toNat).filter fun k : ℕ => lo + k ∈ xs).image
      (fun k : ℕ => lo + k) = xs.toFinset := by
    ext x
    simp only [Finset.mem_image, Finset.mem_filter, Finset.mem_range, List.mem_toFinset]
    constructor
    · rintro ⟨k, ⟨-, hk⟩, rfl⟩
      exact hk
    · intro hx
      have hlox : lo ≤ x := hlo.2 hx
      have hxhi : x ≤ hi := hhi.2 hx
      have heq : lo + ((x - lo).toNat : ℤ) = x := by omega
      exact ⟨(x - lo).toNat, ⟨by omega, heq.symm ▸ hx⟩, heq⟩
  have hcame : ((Finset.range (hi + 1 - lo).toNat).filter fun k : ℕ => lo + k ∈ xs).card =
      xs.toFinset.card := by
    rw [← himage, Finset.card_image_of_injective]
    exact fun k k' h => Int.ofNat_inj.1 (add_left_cancel h)
  have hsum := Finset.card_filter_add_card_filter_not (s := Finset.range (hi + 1 - lo).toNat)
    fun k : ℕ => lo + k ∈ xs
  rw [hcame, Finset.card_range] at hsum
  rw [missing]
  omega

/-- **No more numbers are skipped than are missing** when the way up and the steps down fit
between the ends. -/
theorem skipped_le_missing_iff (hadjacent : CopiesAdjacent xs) (hlo : IsLeast {x | x ∈ xs} lo)
    (hhi : IsGreatest {x | x ∈ xs} hi) :
    skipped xs ≤ missing lo hi xs ↔ climb xs + descents xs ≤ hi - lo := by
  have hsteps := skipped_add_length (List.ne_nil_of_mem hlo.1)
  have hcopies := copies_eq_repeats_iff.2 hadjacent
  rw [repeats] at hcopies
  rw [missing_eq hlo hhi]
  omega

/-! ### Going through other numbers -/

/-- The numbers between the last one, if there is one, and the next. -/
def after : Option ℤ → ℤ → ℤ
  | none, _ => 0
  | some last, x => between last x

/-- The next number is at most one above the last. -/
def NotAhead (last : Option ℤ) (x : ℤ) : Prop := ∀ l ∈ last, x ≤ l + 1

instance (last : Option ℤ) : Decidable (NotAhead last x) :=
  inferInstanceAs (Decidable (∀ l ∈ last, x ≤ l + 1))

theorem sumFrom_between_cons (last : Option ℤ) :
    sumFrom between last (x :: xs) = after last x + sumFrom between (some x) xs := by
  cases last with
  | none => exact (zero_add _).symm
  | some l => rfl

theorem after_eq_zero_iff {last : Option ℤ} : after last x = 0 ↔ NotAhead last x := by
  cases last with
  | none => exact iff_of_true rfl fun l hl => by cases hl
  | some l =>
    simp only [after, between, NotAhead, Option.mem_def, Option.some.injEq, forall_eq']
    omega

/-- The same numbers are skipped from two places: they are the same, or none are. -/
theorem after_eq_iff {last last' : Option ℤ} :
    after last x = after last' x ↔ last = last' ∨ NotAhead last x ∧ NotAhead last' x := by
  rw [← after_eq_zero_iff, ← after_eq_zero_iff]
  constructor
  · intro h
    by_cases hzero : after last x = 0
    · exact Or.inr ⟨hzero, h ▸ hzero⟩
    · refine Or.inl ?_
      cases last with
      | none => exact absurd rfl hzero
      | some l =>
        cases last' with
        | none => exact absurd h hzero
        | some l' =>
          simp only [after, between] at h hzero
          congr 1
          omega
  · rintro (rfl | ⟨h, h'⟩)
    · rfl
    · rw [h, h']

/-- Two running sums agree at every point when the first terms agree and the rests do. -/
theorem forall_running_eq_iff {f g f' g' : ℕ → ℤ} {c d : ℤ} (hzero : f 0 = g 0)
    (hf : ∀ k, f (k + 1) = c + f' k) (hg : ∀ k, g (k + 1) = d + g' k) (hzero' : f' 0 = g' 0) :
    (∀ k, f k = g k) ↔ c = d ∧ ∀ k, f' k = g' k := by
  constructor
  · intro h
    have hfirst : c = d := by
      have hone := h 1
      rw [hf, hg, hzero'] at hone
      exact add_right_cancel hone
    refine ⟨hfirst, fun k => ?_⟩
    have hnext := h (k + 1)
    rw [hf, hg, hfirst] at hnext
    exact add_left_cancel hnext
  · rintro ⟨rfl, h⟩ k
    cases k with
    | zero => exact hzero
    | succ k => rw [hf, hg, h k]

/-! ### Numbers that increase -/

/-- **Of numbers that increase**, the steps go past those that do not come. -/
theorem sumFrom_between_increasing {last : ℤ} (h : (x :: xs).Pairwise (· < ·))
    (hlast : (x :: xs).getLast? = some last) :
    sumFrom between (some x) xs = last - x - xs.length := by
  induction xs generalizing x with
  | nil =>
    obtain rfl := Option.some.inj hlast
    simp [sumFrom]
  | cons y xs ih =>
    obtain ⟨hx, hrest⟩ := List.pairwise_cons.mp h
    have hxy : x < y := hx y List.mem_cons_self
    rw [List.getLast?_cons_cons] at hlast
    rw [sumFrom, ih hrest hlast, between, List.length_cons]
    push_cast
    omega

/-- Numbers that increase never stay. -/
theorem sumFrom_same_increasing (h : (x :: xs).Pairwise (· < ·)) :
    sumFrom (fun x y => if x = y then 1 else 0) (some x) xs = 0 := by
  induction xs generalizing x with
  | nil => rfl
  | cons y xs ih =>
    obtain ⟨hx, hrest⟩ := List.pairwise_cons.mp h
    rw [sumFrom, ih hrest, if_neg (hx y List.mem_cons_self).ne, add_zero]

end Steps
