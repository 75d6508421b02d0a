/-
# Python control flow: exceptions and mutable state

`python/src/wfb_rs_py/app_proto.py` is pure code that raises: it is modelled in
`Py`, where a value is returned or an exception is raised.  The main loops of
`python/examples/*.py` mutate local variables and raise: they are modelled in
`PyM σ`, where what was assigned before a raise stays assigned, as in Python.

`raiseIf c e` is the statement `if c: raise e`.  The lemmas `*_eq_ok` turn "this
code returned" into the facts its checks established, one conjunct for each
statement; every codec in this development is inverted with them once.
-/

import Mathlib.Tactic.Common

namespace KovaWfb

/-- A byte string. -/
abbrev Bytes := List UInt8

/-- The exceptions the modelled code raises or lets through.  `AppFrameError` is
`app_proto.AppFrameError`, a subclass of `ValueError`; the others are Python's,
and `wfbRsError` is the one the radio binding raises for a failed call. -/
inductive PyError
  | appFrameError (msg : String)
  | valueError (msg : String)
  | structError (msg : String)
  | typeError (msg : String)
  | attributeError (msg : String)
  | indexError (msg : String)
  | overflowError (msg : String)
  | runtimeError (msg : String)
  | wfbRsError (msg : String)
  deriving DecidableEq, Repr

/-- `isinstance(exc, ValueError)`. -/
def PyError.isValueError : PyError → Bool
  | .appFrameError _ | .valueError _ => true
  | _ => false

/-- Code that returns a value or raises. -/
abbrev Py (α : Type) := Except PyError α

/-- `if c: raise e`. -/
def raiseIf (c : Prop) [Decidable c] (e : PyError) : Py Unit :=
  if c then .error e else .ok ()

@[simp] theorem raiseIf_eq_ok {c : Prop} [Decidable c] {e : PyError} {u : Unit} :
    raiseIf c e = .ok u ↔ ¬ c := by
  unfold raiseIf
  split <;> simp_all

@[simp] theorem raiseIf_eq_error {c : Prop} [Decidable c] {e e' : PyError} :
    raiseIf c e = .error e' ↔ c ∧ e = e' := by
  unfold raiseIf
  split <;> simp_all

theorem Py.bind_eq_ok {α β : Type} {x : Py α} {f : α → Py β} {b : β} :
    (x >>= f) = .ok b ↔ ∃ a, x = .ok a ∧ f a = .ok b := by
  cases x <;> simp [bind, Except.bind]

theorem Py.bind_eq_error {α β : Type} {x : Py α} {f : α → Py β} {e : PyError} :
    (x >>= f) = .error e ↔ x = .error e ∨ ∃ a, x = .ok a ∧ f a = .error e := by
  cases x <;> simp [bind, Except.bind]

theorem Py.ok_bind {α β : Type} (a : α) (f : α → Py β) : ((.ok a : Py α) >>= f) = f a := rfl

theorem Py.error_bind {α β : Type} (e : PyError) (f : α → Py β) :
    ((.error e : Py α) >>= f) = .error e := rfl

theorem Py.pure_eq_ok {α : Type} {a b : α} : (pure a : Py α) = .ok b ↔ a = b := by
  simp [pure, Except.pure]

theorem Py.raiseIf_bind_eq_ok {α : Type} {c : Prop} [Decidable c] {e : PyError} {f : Unit → Py α}
    {b : α} : (raiseIf c e >>= f) = .ok b ↔ ¬ c ∧ f () = .ok b := by
  rw [Py.bind_eq_ok]
  simp only [raiseIf_eq_ok]
  exact ⟨fun ⟨(), hc, h⟩ => ⟨hc, h⟩, fun ⟨hc, h⟩ => ⟨(), hc, h⟩⟩

/-- Only `AppFrameError` is raised. -/
def Py.OnlyAppFrameError {α : Type} (x : Py α) : Prop :=
  ∀ e, x = .error e → ∃ msg, e = .appFrameError msg

theorem Py.onlyAppFrameError_ok {α : Type} (a : α) : Py.OnlyAppFrameError (.ok a) :=
  fun _ h => by cases h

theorem Py.onlyAppFrameError_of_eq_ok {α : Type} {x : Py α} {a : α} (h : x = .ok a) :
    Py.OnlyAppFrameError x := h ▸ Py.onlyAppFrameError_ok a

theorem Py.onlyAppFrameError_raiseIf (c : Prop) [Decidable c] (msg : String) :
    Py.OnlyAppFrameError (raiseIf c (.appFrameError msg)) :=
  fun _ h => ⟨msg, (raiseIf_eq_error.mp h).2.symm⟩

theorem Py.OnlyAppFrameError.bind {α β : Type} {x : Py α} {f : α → Py β}
    (hx : Py.OnlyAppFrameError x) (hf : ∀ a, x = .ok a → Py.OnlyAppFrameError (f a)) :
    Py.OnlyAppFrameError (x >>= f) := fun e h =>
  (Py.bind_eq_error.mp h).elim (hx e) fun ⟨a, ha, he⟩ => hf a ha e he

/-- Code over a mutable state; what was assigned before a raise persists. -/
abbrev PyM (σ α : Type) := EStateM PyError σ α

namespace PyM

variable {σ α β : Type}

/-- Pure code run from stateful code. -/
def lift (x : Py α) : PyM σ α := fun s =>
  match x with
  | .ok a => .ok a s
  | .error e => .error e s

instance : MonadLift Py (PyM σ) := ⟨lift⟩

/-- `try: x except AppFrameError as exc`, the handler getting `str(exc)`; every
other exception goes on. -/
def exceptAppFrameError (x : PyM σ α) : PyM σ (Except String α) := fun s =>
  match x s with
  | .ok a s' => .ok (.ok a) s'
  | .error (.appFrameError msg) s' => .ok (.error msg) s'
  | .error e s' => .error e s'

@[simp] theorem lift_ok (a : α) (s : σ) : lift (.ok a) s = .ok a s := rfl

@[simp] theorem lift_error (e : PyError) (s : σ) : (lift (.error e) : PyM σ α) s = .error e s := rfl

theorem bind_apply (x : PyM σ α) (f : α → PyM σ β) (s : σ) :
    (x >>= f) s = match x s with
      | .ok a s' => f a s'
      | .error e s' => .error e s' := by
  change EStateM.bind x f s = _
  rw [EStateM.bind]
  cases x s <;> rfl

theorem pure_apply (a : α) (s : σ) : (pure a : PyM σ α) s = .ok a s := rfl

theorem get_apply (s : σ) : (get : PyM σ σ) s = .ok s s := rfl

theorem set_apply (s s' : σ) : (set s' : PyM σ PUnit) s = .ok ⟨⟩ s' := rfl

theorem monadLift_apply (x : Py α) (s : σ) : (liftM x : PyM σ α) s = lift x s := rfl

theorem get_bind_apply (f : σ → PyM σ β) (s : σ) : (get >>= f) s = f s s := rfl

theorem modify_bind_apply (g : σ → σ) (f : PUnit → PyM σ β) (s : σ) :
    (modify g >>= f) s = f ⟨⟩ (g s) := rfl

theorem bind_eq_ok {x : PyM σ α} {f : α → PyM σ β} {s s'' : σ} {b : β} :
    (x >>= f) s = .ok b s'' ↔ ∃ a s', x s = .ok a s' ∧ f a s' = .ok b s'' := by
  rw [bind_apply]
  cases x s <;> simp

theorem lift_bind_eq_ok {x : Py α} {f : α → PyM σ β} {s s' : σ} {b : β} :
    (liftM x >>= f : PyM σ β) s = .ok b s' ↔ ∃ a, x = .ok a ∧ f a s = .ok b s' := by
  rw [bind_apply, monadLift_apply]
  cases x <;> simp

theorem lift_bind_of_eq_ok {x : Py α} {a : α} (h : x = .ok a) (f : α → PyM σ β) (s : σ) :
    (liftM x >>= f : PyM σ β) s = f a s := by
  rw [h]
  rfl

theorem lift_bind_of_eq_error {x : Py α} {e : PyError} (h : x = .error e) (f : α → PyM σ β) (s : σ) :
    (liftM x >>= f : PyM σ β) s = .error e s := by
  rw [h]
  rfl

theorem lift_bind_eq_error {x : Py α} {f : α → PyM σ β} {s s' : σ} {e : PyError} :
    (liftM x >>= f : PyM σ β) s = .error e s' ↔
      (x = .error e ∧ s = s') ∨ ∃ a, x = .ok a ∧ f a s = .error e s' := by
  rw [bind_apply, monadLift_apply]
  cases x <;> simp

/-- Code after a `try` runs on the value or on the message of an
`AppFrameError`. -/
theorem exceptAppFrameError_bind_eq_ok {x : PyM σ α} {f : Except String α → PyM σ β} {s s'' : σ}
    {b : β} :
    (exceptAppFrameError x >>= f) s = .ok b s'' ↔
      (∃ a s', x s = .ok a s' ∧ f (.ok a) s' = .ok b s'') ∨
        ∃ msg s', x s = .error (.appFrameError msg) s' ∧ f (.error msg) s' = .ok b s'' := by
  rw [bind_apply, exceptAppFrameError]
  cases x s with
  | ok a s' => simp
  | error e s' => cases e <;> simp

theorem exceptAppFrameError_lift_bind_eq_ok {x : Py α} {f : Except String α → PyM σ β}
    {s s'' : σ} {b : β} :
    (exceptAppFrameError (liftM x) >>= f) s = .ok b s'' ↔
      (∃ a, x = .ok a ∧ f (.ok a) s = .ok b s'') ∨
        ∃ msg, x = .error (.appFrameError msg) ∧ f (.error msg) s = .ok b s'' := by
  rw [exceptAppFrameError_bind_eq_ok]
  cases x <;> simp [monadLift_apply]

theorem exceptAppFrameError_lift_bind_of_eq_ok {x : Py α} {a : α} (h : x = .ok a)
    (f : Except String α → PyM σ β) (s : σ) :
    (exceptAppFrameError (liftM x) >>= f) s = f (.ok a) s := by
  rw [h, bind_apply]
  rfl

/-- Where pure code raises nothing but `AppFrameError`, the code after the `try` always
runs. -/
theorem exceptAppFrameError_lift_bind {x : Py α} (hx : Py.OnlyAppFrameError x) :
    (∃ a, x = .ok a ∧ ∀ (f : Except String α → PyM σ β) s,
        (exceptAppFrameError (liftM x) >>= f) s = f (.ok a) s) ∨
      ∃ msg, x = .error (.appFrameError msg) ∧ ∀ (f : Except String α → PyM σ β) s,
        (exceptAppFrameError (liftM x) >>= f) s = f (.error msg) s := by
  cases x with
  | ok a => exact Or.inl ⟨a, rfl, exceptAppFrameError_lift_bind_of_eq_ok rfl⟩
  | error e =>
    obtain ⟨msg, rfl⟩ := hx e rfl
    exact Or.inr ⟨msg, rfl, fun f s => by rw [bind_apply]; rfl⟩

end PyM

/-- The value a result returns, `none` when it raised. -/
def resultValue? {σ α : Type} : EStateM.Result PyError σ α → Option α
  | .ok a _ => some a
  | .error _ _ => none

/-- Code returned, if something can be said of the value it returned. -/
theorem exists_eq_ok_of_map {σ α β : Type} {r : EStateM.Result PyError σ α} {f : α → β} {x : β}
    (h : (resultValue? r).map f = some x) : ∃ a s, r = .ok a s ∧ f a = x := by
  cases r with
  | ok a s => exact ⟨a, s, rfl, Option.some.inj h⟩
  | error e s => cases h

theorem Py.exists_eq_ok_of_map {α β : Type} {r : Py α} {f : α → β} {x : β}
    (h : r.toOption.map f = some x) : ∃ a, r = .ok a ∧ f a = x := by
  cases r with
  | ok a => exact ⟨a, rfl, Option.some.inj h⟩
  | error e => cases h

/-- Code that raised did not return. -/
theorem Py.not_returns_error {α : Type} (e : PyError) : ¬ ∃ a, (.error e : Py α) = .ok a := by
  rintro ⟨_, h⟩
  cases h

theorem not_returns_error {σ α : Type} (e : PyError) (s : σ) :
    ¬ ∃ a s', (.error e s : EStateM.Result PyError σ α) = .ok a s' := by
  rintro ⟨_, _, h⟩
  cases h

/-- Code returned where there is a value. -/
theorem returns_iff_isSome {σ α : Type} {r : EStateM.Result PyError σ α} :
    (∃ a s, r = .ok a s) ↔ (resultValue? r).isSome = true := by
  cases r with
  | ok a s => exact iff_of_true ⟨a, s, rfl⟩ rfl
  | error e s => exact iff_of_false (not_returns_error e s) Bool.false_ne_true

/-- The state a result leaves, also when it raised. -/
def resultState {σ α : Type} : EStateM.Result PyError σ α → σ
  | .ok _ s => s
  | .error _ s => s

/-- Whether something is returned that has the property. -/
instance decidableExistsOk {ε α : Type} {p : α → Prop} [DecidablePred p] :
    {x : Except ε α} → Decidable (∃ a, x = .ok a ∧ p a)
  | .ok a => decidable_of_iff (p a) ⟨fun hp => ⟨a, rfl, hp⟩, fun ⟨_, h, hp⟩ =>
      Except.ok.inj h ▸ hp⟩
  | .error _ => .isFalse fun ⟨_, h, _⟩ => nomatch h

/-- Whether all that is returned has the property. -/
instance decidableForallOk {ε α : Type} {p : α → Prop} [DecidablePred p] :
    {x : Except ε α} → Decidable (∀ a, x = .ok a → p a)
  | .ok a => decidable_of_iff (p a) ⟨fun hp _ h => Except.ok.inj h ▸ hp, fun h => h a rfl⟩
  | .error _ => .isTrue fun _ h => nomatch h

end KovaWfb
