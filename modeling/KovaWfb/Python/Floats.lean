/-
# Arithmetic of floats

`a - b`, `a * b` and `a / d` of doubles: the double nearest to the exact result, and the rules
for infinite numbers and NaN.  `max` and `min` keep their first argument when the comparison
fails, so they never return a NaN that comes second.  `round(value)` rounds half to even and
raises for infinite numbers (`OverflowError`) and for NaN (`ValueError`).

A zero has no sign here: no program takes anything from the sign of a zero.
-/

import KovaWfb.Python.Numbers

namespace KovaWfb

deriving instance DecidableEq for JsonFloat

/-- The double nearest to a number. -/
def toDouble (value : ℚ) : JsonFloat := nearestDouble (decide (value < 0)) value.num.natAbs value.den

/-- `a - b`. -/
def JsonFloat.sub : JsonFloat → JsonFloat → JsonFloat
  | .finite a, .finite b => toDouble (a - b)
  | .nan, _ | _, .nan => .nan
  | .infinite negative, .finite _ => .infinite negative
  | .finite _, .infinite negative => .infinite !negative
  | .infinite negative, .infinite negative' =>
      if negative = negative' then .nan else .infinite negative

/-- `a + b`, both finite. -/
def addDouble (a b : ℚ) : JsonFloat := toDouble (a + b)

/-- `a * b`. -/
def JsonFloat.mul : JsonFloat → JsonFloat → JsonFloat
  | .finite a, .finite b => toDouble (a * b)
  | .nan, _ | _, .nan => .nan
  | .infinite negative, .finite b | .finite b, .infinite negative =>
      if b = 0 then .nan else .infinite (negative ^^ decide (b < 0))
  | .infinite negative, .infinite negative' => .infinite (negative ^^ negative')

/-- `a / d` for a positive `d`. -/
def JsonFloat.over (d : ℕ) : JsonFloat → JsonFloat
  | .finite a => toDouble (a / d)
  | a => a

/-- `max(0.0, min(top, value))`. -/
def clampTo (top : ℚ) : JsonFloat → ℚ
  | .finite value => max 0 (min top value)
  | .infinite negative => if negative then 0 else top
  | .nan => top

/-- `max(0.0, value)`. -/
def JsonFloat.atLeastZero : JsonFloat → JsonFloat
  | .finite value => .finite (max 0 value)
  | .infinite negative => if negative then .finite 0 else .infinite false
  | .nan => .finite 0

/-- `round(value)`. -/
def JsonFloat.round : JsonFloat → Py ℤ
  | .finite value =>
      let magnitude := roundHalfEven value.num.natAbs value.den
      pure (if value < 0 then -magnitude else magnitude)
  | .infinite _ => .error (.overflowError "cannot convert float infinity to integer")
  | .nan => .error (.valueError "cannot convert float NaN to integer")

theorem clampTo_bounds {top : ℚ} (htop : 0 ≤ top) (value : JsonFloat) :
    0 ≤ clampTo top value ∧ clampTo top value ≤ top := by
  cases value with
  | finite value => exact ⟨le_max_left _ _, max_le htop (min_le_left _ _)⟩
  | infinite negative =>
    cases negative
    · exact ⟨htop, le_rfl⟩
    · exact ⟨le_rfl, htop⟩
  | nan => exact ⟨htop, le_rfl⟩

end KovaWfb
