/-
# Two runs side by side

A program over a mutable state that can fail is an `EStateM ε σ α`.  Two such
programs are related when from related states both return related values or both
fail with the same error, and the states they leave are related again.

The rules follow the shape of a program, so a relation between two runs is
established one statement at a time: sequencing (`Related.bind`), reading the
state (`Related.get_bind`) and writing it (`Related.modify_bind`).  `Alike` is the
same notion for programs without a state.
-/

import Mathlib.Tactic.Common

namespace Relational

variable {ε σ τ α β γ δ : Type}

/-- Two results agree: both hold related values, or both the same error, in
related states. -/
inductive Agree (R : σ → τ → Prop) (V : α → β → Prop) :
    EStateM.Result ε σ α → EStateM.Result ε τ β → Prop
  | ok {a : α} {b : β} {s : σ} {t : τ} (hV : V a b) (hR : R s t) : Agree R V (.ok a s) (.ok b t)
  | error {e : ε} {s : σ} {t : τ} (hR : R s t) : Agree R V (.error e s) (.error e t)

/-- From related states the programs end in results that agree. -/
def Related (R : σ → τ → Prop) (V : α → β → Prop) (x : EStateM ε σ α) (y : EStateM ε τ β) : Prop :=
  ∀ s t, R s t → Agree R V (x s) (y t)

variable {R : σ → τ → Prop} {V : α → β → Prop} {W : γ → δ → Prop}

theorem Related.pure {a : α} {b : β} (h : V a b) :
    Related R V (pure a : EStateM ε σ α) (pure b : EStateM ε τ β) :=
  fun _ _ hR => .ok h hR

theorem Related.bind {x : EStateM ε σ α} {y : EStateM ε τ β} {f : α → EStateM ε σ γ}
    {g : β → EStateM ε τ δ} (hx : Related R V x y) (hf : ∀ a b, V a b → Related R W (f a) (g b)) :
    Related R W (x >>= f) (y >>= g) := by
  intro s t hR
  change Agree R W (EStateM.bind x f s) (EStateM.bind y g t)
  have h := hx s t hR
  unfold EStateM.bind
  cases hxs : x s with
  | ok a s' =>
    cases hyt : y t with
    | ok b t' =>
      rw [hxs, hyt] at h
      cases h with
      | ok hV hR' => exact hf a b hV s' t' hR'
    | error e t' =>
      rw [hxs, hyt] at h
      cases h
  | error e s' =>
    cases hyt : y t with
    | ok b t' =>
      rw [hxs, hyt] at h
      cases h
    | error e' t' =>
      rw [hxs, hyt] at h
      cases h with
      | error hR' => exact .error hR'

theorem Related.get_bind {f : σ → EStateM ε σ γ} {g : τ → EStateM ε τ δ}
    (h : ∀ s t, R s t → Related R W (f s) (g t)) : Related R W (get >>= f) (get >>= g) :=
  fun s t hR => h s t hR s t hR

theorem Related.modify_bind {p : σ → σ} {q : τ → τ} {f : PUnit → EStateM ε σ γ}
    {g : PUnit → EStateM ε τ δ} (hpq : ∀ s t, R s t → R (p s) (q t))
    (h : Related R W (f ⟨⟩) (g ⟨⟩)) : Related R W (modify p >>= f) (modify q >>= g) :=
  fun s t hR => h (p s) (q t) (hpq s t hR)

/-- Two stateless results are alike: related values, or the same error. -/
inductive Alike (V : α → β → Prop) : Except ε α → Except ε β → Prop
  | ok {a : α} {b : β} (hV : V a b) : Alike V (.ok a) (.ok b)
  | error (e : ε) : Alike V (.error e) (.error e)

theorem Alike.refl (x : Except ε α) : Alike (· = ·) x x := by
  cases x with
  | ok a => exact .ok rfl
  | error e => exact .error e

theorem Alike.bind {x : Except ε α} {y : Except ε β} {f : α → Except ε γ} {g : β → Except ε δ}
    (hx : Alike V x y) (hf : ∀ a b, V a b → Alike W (f a) (g b)) : Alike W (x >>= f) (y >>= g) := by
  cases hx with
  | ok hV => exact hf _ _ hV
  | error e => exact .error e

/-- The same first statement on both sides. -/
theorem Alike.bind_same {x : Except ε α} {f : α → Except ε γ} {g : α → Except ε δ}
    (hf : ∀ a, Alike W (f a) (g a)) : Alike W (x >>= f) (x >>= g) :=
  (Alike.refl x).bind fun a _ h => h ▸ hf a

end Relational
