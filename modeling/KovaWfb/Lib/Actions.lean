/-
# Runs of a machine that takes actions or refuses them

`step s a` is the state behind the action `a`, if the machine takes it in the state `s`.  What
every action keeps, every run keeps (`run_keeps`), and a run over two lists is a run over the
first and then one over the second (`run_append_eq_some`).
-/

import Mathlib.Data.List.Basic

namespace Actions

variable {σ α : Type*} {step : σ → α → Option σ} {s s' s'' : σ} {a : α} {actions pre post : List α}

/-- The state behind some actions, if the machine takes them all. -/
def run (step : σ → α → Option σ) : σ → List α → Option σ
  | s, [] => some s
  | s, a :: rest => (step s a).bind fun s' => run step s' rest

theorem run_cons_eq_some :
    run step s (a :: post) = some s'' ↔ ∃ s', step s a = some s' ∧ run step s' post = some s'' :=
  Option.bind_eq_some_iff

theorem run_append_eq_some :
    run step s (pre ++ post) = some s'' ↔
      ∃ s', run step s pre = some s' ∧ run step s' post = some s'' := by
  induction pre generalizing s with
  | nil => simp [run]
  | cons a pre ih =>
    simp only [List.cons_append, run_cons_eq_some, ih]
    constructor
    · rintro ⟨s₁, hfirst, s₂, hpre, hpost⟩
      exact ⟨s₂, ⟨s₁, hfirst, hpre⟩, hpost⟩
    · rintro ⟨s₂, ⟨s₁, hfirst, hpre⟩, hpost⟩
      exact ⟨s₁, hfirst, s₂, hpre, hpost⟩

/-- **What the allowed actions keep, their runs keep.** -/
theorem run_keeps {P : σ → Prop} {Allowed : α → Prop}
    (hstep : ∀ {s a s'}, P s → Allowed a → step s a = some s' → P s') (hs : P s)
    (hactions : ∀ a ∈ actions, Allowed a) (h : run step s actions = some s') : P s' := by
  induction actions generalizing s with
  | nil => exact Option.some.inj h ▸ hs
  | cons a actions ih =>
    obtain ⟨s₁, hfirst, hrest⟩ := run_cons_eq_some.mp h
    exact ih (hstep hs (hactions a List.mem_cons_self) hfirst)
      (fun b hb => hactions b (List.mem_cons_of_mem a hb)) hrest

end Actions
