/-
# `int(value)`, `float(value)` and `bool(value)`

The conversions of what `json.loads` returns.  `float(text)` reads the numerals of every
script that `int(text)` reads, with a point, an exponent or single underscores between digits,
and the words `inf`, `infinity` and `nan` in any case.

A numeral beyond every double is read as infinite, but an integer beyond every double raises
`OverflowError`, as an infinite number does in `int`.  `floatOfInt_cases`: the double nearest
to an integer is finite below `2 ^ 1024 - 2 ^ 970`, the middle between the largest double and
`2 ^ 1024`.
-/

import KovaWfb.Python.Loads
import Mathlib.Tactic.NormNum

namespace KovaWfb

/-! ### `float(text)` -/

/-- The text without its underscores, if each of them stands between two digits. -/
def dropUnderscores : List Char → Option (List Char)
  | [] => some []
  | '_' :: _ => none
  | c :: '_' :: d :: cs =>
      if isDigit c ∧ isDigit d then (dropUnderscores (d :: cs)).map (c :: ·) else none
  | c :: cs => (dropUnderscores cs).map (c :: ·)

/-- The digits behind a decimal point, and what the point and they take of the text. -/
def floatFraction : List Char → List Char × ℕ
  | '.' :: cs => (cs.takeWhile isDigit, (cs.takeWhile isDigit).length + 1)
  | _ => ([], 0)

/-- A number without its sign: digits with a point in front of them, among them or behind
them, and an exponent. -/
def floatDecimal (negative : Bool) (cs : List Char) : Option JsonFloat :=
  let whole := cs.takeWhile isDigit
  let (fraction, length) := floatFraction (cs.drop whole.length)
  let rest := cs.drop (whole.length + length)
  if whole ++ fraction = [] then none
  else if rest = [] then some (floatValue negative whole fraction 0)
  else
    match scanExponent rest with
    | some (exponent, count) =>
        if count = rest.length then some (floatValue negative whole fraction exponent) else none
    | none => none

/-- A number or one of the words, without its sign. -/
def floatUnsigned (negative : Bool) (cs : List Char) : Option JsonFloat :=
  let word := lower (String.ofList cs)
  if word = "inf" ∨ word = "infinity" then some (.infinite negative)
  else if word = "nan" then some .nan
  else (dropUnderscores cs).bind (floatDecimal negative)

/-- `float(text)`; `none` is `ValueError`. -/
def floatText (text : String) : Option JsonFloat :=
  match stripBy isAsciiSpace (text.toList.map toAsciiNumeral) with
  | '-' :: cs => floatUnsigned true cs
  | '+' :: cs => floatUnsigned false cs
  | cs => floatUnsigned false cs

/-! ### Conversions -/

/-- `int(value)`. -/
def Json.toInt : Json → Py ℤ
  | .int value => pure value
  | .bool value => pure (if value then 1 else 0)
  | .float (.finite value) => pure (value.num.tdiv value.den)
  | .float (.infinite _) => .error (.overflowError "cannot convert float infinity to integer")
  | .float .nan => .error (.valueError "cannot convert float NaN to integer")
  | .str text =>
      match intBase10 text with
      | some value => pure value
      | none => .error (.valueError ("invalid literal for int() with base 10: '" ++ text ++ "'"))
  | .null => .error (.typeError "int() argument must be a string, not 'NoneType'")
  | .arr _ => .error (.typeError "int() argument must be a string, not 'list'")
  | .obj _ => .error (.typeError "int() argument must be a string, not 'dict'")

/-- `float(value)` of an integer. -/
def floatOfInt (value : ℤ) : Py JsonFloat :=
  match nearestDouble (decide (value < 0)) value.natAbs 1 with
  | .infinite _ => .error (.overflowError "int too large to convert to float")
  | double => pure double

/-- `float(value)`. -/
def Json.toFloat : Json → Py JsonFloat
  | .float value => pure value
  | .int value => floatOfInt value
  | .bool value => pure (.finite (if value then 1 else 0))
  | .str text =>
      match floatText text with
      | some value => pure value
      | none => .error (.valueError ("could not convert string to float: '" ++ text ++ "'"))
  | .null => .error (.typeError "float() argument must be a string or a real number, not 'NoneType'")
  | .arr _ => .error (.typeError "float() argument must be a string or a real number, not 'list'")
  | .obj _ => .error (.typeError "float() argument must be a string or a real number, not 'dict'")

/-- `bool(value)`. -/
def JsonDoc.truthy : JsonDoc → Bool
  | .null => false
  | .bool value => value
  | .int value => value != 0
  | .float (.finite value) => value != 0
  | .float _ => true
  | .str text => !text.isEmpty
  | .arr items => !items.isEmpty
  | .obj fields => !fields.isEmpty

/-! ### Integers beyond every double -/

/-- From here on the nearest double of an integer is infinite. -/
def doubleLimit : ℕ := 2 ^ 1024 - 2 ^ 970

theorem roundHalfEven_one (n : ℕ) : roundHalfEven n 1 = n := by
  rw [roundHalfEven, Nat.mod_one, if_pos (by decide), Nat.div_one]

theorem div_le_roundHalfEven (n d : ℕ) : n / d ≤ roundHalfEven n d := by
  unfold roundHalfEven
  split_ifs <;> omega

theorem roundHalfEven_le (n d : ℕ) : roundHalfEven n d ≤ n / d + 1 := by
  unfold roundHalfEven
  split_ifs <;> omega

/-- The double nearest to an integer: 53 bits of it, rounded. -/
theorem nearestDouble_one {negative : Bool} {n : ℕ} (hn : n ≠ 0) :
    nearestDouble negative n 1 =
      let value : ℕ := roundHalfEven n (2 ^ (n.log2 - 52)) * 2 ^ (n.log2 - 52)
      if 2 ^ 1024 ≤ value then .infinite negative
      else .finite (if negative then -(value : ℚ) else value) := by
  have hlog : Nat.log2 1 = 0 := by decide
  have hexponent : ¬ n * 2 ^ (-(n.log2 : ℤ)).toNat < 2 ^ n.log2 := by
    rw [show (-(n.log2 : ℤ)).toNat = 0 by omega, pow_zero, mul_one, not_lt]
    exact Nat.log2_self_le hn
  have hvalue : ((roundHalfEven (n * 2 ^ (52 - n.log2)) (2 ^ (n.log2 - 52)) *
      2 ^ (n.log2 - 52) : ℕ) : ℚ) / ((2 ^ (52 - n.log2) : ℕ) : ℚ) =
      ((roundHalfEven n (2 ^ (n.log2 - 52)) * 2 ^ (n.log2 - 52) : ℕ) : ℚ) := by
    rcases Nat.le_total n.log2 52 with hle | hge
    · rw [Nat.sub_eq_zero_of_le hle, pow_zero, roundHalfEven_one, roundHalfEven_one, mul_one,
        mul_one, Nat.cast_mul, mul_div_cancel_right₀]
      exact Nat.cast_ne_zero.2 (Nat.two_pow_pos _).ne'
    · rw [Nat.sub_eq_zero_of_le hge, pow_zero, mul_one, Nat.cast_one, div_one]
  have hunit : max ((n.log2 : ℤ) - 52) (-1074) = n.log2 - 52 := by omega
  have hup : ((n.log2 : ℤ) - 52).toNat = n.log2 - 52 := by omega
  have hdown : (-((n.log2 : ℤ) - 52)).toNat = 52 - n.log2 := by omega
  rw [nearestDouble, if_neg hn]
  simp only [hlog, Nat.cast_zero, sub_zero, Int.toNat_natCast, one_mul, if_neg hexponent, hunit,
    hup, hdown, hvalue]
  refine if_congr ?_ rfl rfl
  rw [← Nat.cast_le (α := ℚ)]
  simp only [Nat.cast_pow, Nat.cast_ofNat]

/-- An even number is reached from half a step below it on. -/
theorem le_roundHalfEven_iff {n half m : ℕ} (hhalf : 0 < half) (hm : m % 2 = 0) :
    m ≤ roundHalfEven n (2 * half) ↔ m * (2 * half) ≤ n + half := by
  have hn : n / (2 * half) * (2 * half) + n % (2 * half) = n := Nat.div_add_mod' n _
  have hr : n % (2 * half) < 2 * half := Nat.mod_lt _ (by omega)
  have hle := roundHalfEven_le n (2 * half)
  have hge := div_le_roundHalfEven n (2 * half)
  rcases Nat.lt_trichotomy m (n / (2 * half) + 1) with hlt | heq | hgt
  · have := Nat.mul_le_mul_right (2 * half) (Nat.le_of_lt_succ hlt)
    omega
  · have hmul : m * (2 * half) = n / (2 * half) * (2 * half) + 2 * half := by
      rw [heq, Nat.add_mul, one_mul]
    unfold roundHalfEven
    split_ifs <;> omega
  · have := Nat.mul_le_mul_right (2 * half) (Nat.succ_le_of_lt hgt)
    rw [Nat.succ_eq_add_one, Nat.add_mul, Nat.add_mul, one_mul] at this
    omega

/-- **The nearest double of an integer is infinite from `doubleLimit` on.** -/
theorem rounded_overflows_iff {n : ℕ} (hn : n ≠ 0) :
    2 ^ 1024 ≤ roundHalfEven n (2 ^ (n.log2 - 52)) * 2 ^ (n.log2 - 52) ↔ doubleLimit ≤ n := by
  have hself : 2 ^ n.log2 ≤ n := Nat.log2_self_le hn
  have hlt : n < 2 ^ (n.log2 + 1) := Nat.lt_log2_self
  have hdiv := Nat.div_mul_le_self n (2 ^ (n.log2 - 52))
  rcases Nat.lt_trichotomy n.log2 1023 with hlog | hlog | hlog
  · have hpow : 2 ^ (n.log2 + 1) ≤ 2 ^ 1023 := pow_le_pow_right₀ (by decide) hlog
    have hstep : 2 ^ (n.log2 - 52) ≤ 2 ^ 970 := pow_le_pow_right₀ (by decide) (by omega)
    have hround := Nat.mul_le_mul_right (2 ^ (n.log2 - 52))
      (roundHalfEven_le n (2 ^ (n.log2 - 52)))
    have hsum : 2 ^ 1023 + 2 ^ 970 ≤ doubleLimit := by decide +kernel
    have hlimit : doubleLimit < 2 ^ 1024 := by decide +kernel
    rw [Nat.add_mul, one_mul] at hround
    refine iff_of_false (fun h => ?_) (fun h => ?_) <;> omega
  · have hhalf : 2 ^ (n.log2 - 52) = 2 * 2 ^ 970 := by rw [hlog, ← pow_succ']
    have hlimit : 2 ^ 53 * (2 * 2 ^ 970) = doubleLimit + 2 ^ 970 := by decide +kernel
    rw [hhalf, show 2 ^ 1024 = 2 ^ 53 * (2 * 2 ^ 970) by decide +kernel,
      Nat.mul_le_mul_right_iff (by decide +kernel),
      le_roundHalfEven_iff (by decide +kernel) (by decide +kernel), hlimit,
      Nat.add_le_add_iff_right]
  · have hpow : 2 ^ 1024 ≤ 2 ^ n.log2 := pow_le_pow_right₀ (by decide) hlog
    have hlimit : doubleLimit < 2 ^ 1024 := by decide +kernel
    have hstep : 2 ^ n.log2 = 2 ^ 52 * 2 ^ (n.log2 - 52) := by rw [← pow_add]; congr 1; omega
    have hquotient : 2 ^ 52 ≤ n / 2 ^ (n.log2 - 52) :=
      (Nat.le_div_iff_mul_le (Nat.two_pow_pos _)).2 (hstep ▸ hself)
    have hround := Nat.mul_le_mul_right (2 ^ (n.log2 - 52))
      (hquotient.trans (div_le_roundHalfEven n (2 ^ (n.log2 - 52))))
    rw [← hstep] at hround
    exact iff_of_true (hpow.trans hround) (hlimit.le.trans (hpow.trans hself))

/-- **`float` of an integer returns** below `doubleLimit`, and raises `OverflowError` beyond. -/
theorem floatOfInt_cases (value : ℤ) :
    (value.natAbs < doubleLimit ∧ ∃ double, floatOfInt value = .ok double) ∨
      (doubleLimit ≤ value.natAbs ∧ ∃ msg, floatOfInt value = .error (.overflowError msg)) := by
  by_cases hzero : value.natAbs = 0
  · refine Or.inl ⟨?_, .finite 0, ?_⟩
    · rw [hzero]
      decide +kernel
    · rw [floatOfInt, nearestDouble, if_pos hzero]
      rfl
  · rw [floatOfInt, nearestDouble_one hzero]
    by_cases hlimit : doubleLimit ≤ value.natAbs
    · refine Or.inr ⟨hlimit, ?_⟩
      dsimp only
      rw [if_pos ((rounded_overflows_iff hzero).2 hlimit)]
      exact ⟨_, rfl⟩
    · refine Or.inl ⟨Nat.lt_of_not_le hlimit, ?_⟩
      dsimp only
      rw [if_neg (mt (rounded_overflows_iff hzero).1 hlimit)]
      exact ⟨_, rfl⟩

/-- The integer has a double. -/
def HasDouble (value : ℤ) : Prop := value.natAbs < doubleLimit

instance (value : ℤ) : Decidable (HasDouble value) := inferInstanceAs (Decidable (_ < _))

/-- `ms / 1000.0`: `ms` is converted first.  The quotient is not rounded, times being rational
numbers. -/
def secondsOfMs (ms : ℤ) : Py ℚ := do
  let _ ← floatOfInt ms
  pure (ms / 1000)

theorem secondsOfMs_of_hasDouble {ms : ℤ} (h : HasDouble ms) : secondsOfMs ms = .ok (ms / 1000) := by
  obtain ⟨-, double, hfloat⟩ | ⟨hle, -⟩ := floatOfInt_cases ms
  · exact Py.bind_eq_ok.2 ⟨double, hfloat, rfl⟩
  · exact absurd h (not_lt.2 hle)

/-- It raises for the others. -/
theorem secondsOfMs_of_not_hasDouble {ms : ℤ} (h : ¬ HasDouble ms) :
    ∃ msg, secondsOfMs ms = .error (.overflowError msg) := by
  obtain ⟨hlt, -⟩ | ⟨-, msg, hfloat⟩ := floatOfInt_cases ms
  · exact absurd hlt h
  · exact ⟨msg, Py.bind_eq_error.2 (Or.inl hfloat)⟩

theorem secondsOfMs_eq_ok_iff {ms : ℤ} {s : ℚ} :
    secondsOfMs ms = .ok s ↔ HasDouble ms ∧ s = ms / 1000 := by
  by_cases h : HasDouble ms
  · rw [secondsOfMs_of_hasDouble h, Except.ok.injEq, eq_comm]
    exact (and_iff_right h).symm
  · obtain ⟨msg, herror⟩ := secondsOfMs_of_not_hasDouble h
    rw [herror]
    exact iff_of_false nofun fun hboth => h hboth.1

end KovaWfb
