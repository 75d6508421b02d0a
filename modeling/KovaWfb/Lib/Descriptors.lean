/-
# A table of numbered resources

A process has a table of descriptors: a number is free or names an open resource of
one owner.  Opening takes any free number, closing frees whatever the number names at
that moment, whoever asks for it.  So a close is harmless to the others exactly when
the number still names a resource of the one who asks (`Table.release_of_owned`); a
second close of the same number is not, once the number was handed out again.
-/

import Mathlib.Data.Nat.Notation
import Mathlib.Logic.Function.Basic
import Mathlib.Tactic.Common

namespace Descriptors

/-- Who owns what each number names, `none` for a free number. -/
abbrev Table (ω : Type) := ℕ → Option ω

namespace Table

variable {ω : Type} {T : Table ω} {fd n : ℕ} {o o' : ω}

/-- A resource of `o` is opened under the number `fd`. -/
def acquire (T : Table ω) (fd : ℕ) (o : ω) : Table ω := Function.update T fd (some o)

/-- `close(fd)`. -/
def release (T : Table ω) (fd : ℕ) : Table ω := Function.update T fd none

@[simp] theorem acquire_self : T.acquire fd o fd = some o := Function.update_self ..

@[simp] theorem release_self : T.release fd fd = none := Function.update_self ..

theorem eq_some_of_acquire (h : T.acquire fd o n = some o') : (n = fd ∧ o' = o) ∨ T n = some o' := by
  by_cases hn : n = fd
  · subst hn
    rw [acquire_self] at h
    exact Or.inl ⟨rfl, (Option.some.inj h).symm⟩
  · rw [acquire, Function.update_of_ne hn] at h
    exact Or.inr h

theorem eq_some_of_release (h : T.release fd n = some o) : n ≠ fd ∧ T n = some o := by
  by_cases hn : n = fd
  · subst hn
    rw [release_self] at h
    cases h
  · rw [release, Function.update_of_ne hn] at h
    exact ⟨hn, h⟩

/-- Taking a free number takes nothing from anyone. -/
theorem acquire_of_free (hfree : T fd = none) (h : T n = some o') : T.acquire fd o n = some o' := by
  have hn : n ≠ fd := by
    rintro rfl
    cases hfree.symm.trans h
  rw [acquire, Function.update_of_ne hn]
  exact h

/-- **Closing what one owns takes nothing from anyone else.** -/
theorem release_of_owned (howned : T fd = some o) (h : T n = some o') (hne : o' ≠ o) :
    T.release fd n = some o' := by
  have hn : n ≠ fd := by
    rintro rfl
    exact hne (Option.some.inj (h.symm.trans howned))
  rw [release, Function.update_of_ne hn]
  exact h

end Table

end Descriptors
