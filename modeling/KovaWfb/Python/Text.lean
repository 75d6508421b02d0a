/-
# Python text: `strip`, `lower`, `int`, hex, base64, UTF-8

The string operations `app_proto.py` and the C2 programs apply to configuration
and JSON text, as CPython documents them.

* `strip` removes the code points `str.isspace` accepts.
* `lower` maps `A`-`Z`, and U+212A KELVIN SIGN, the only code point outside ASCII
  whose lower case is ASCII.  Other code points are kept: they occur in no table
  and no numeral, with or without their lower case.
* `intBase0` is `int(text, 0)` and `intBase10` is `int(text)`: a sign, a base
  prefix, digits of any script with single underscores between them, at most 4300
  decimal digits.
* `hex` and `fromhex` are the methods of `bytes`; `fromhex_hex` is their round
  trip.
* `b64encode` is `base64.b64encode`, `decodeUtf8Replace` is
  `data.decode("utf-8", errors="replace")`: every maximal part of a character that
  is broken off becomes one U+FFFD.
-/

import KovaWfb.Python.Basics
import Mathlib.Tactic.IntervalCases

namespace KovaWfb

/-- `str.isspace` of one code point. -/
def isSpace (c : Char) : Bool :=
  let n := c.toNat
  (0x09 ≤ n && n ≤ 0x0d) || (0x1c ≤ n && n ≤ 0x20) || n == 0x85 || n == 0xa0 || n == 0x1680 ||
    (0x2000 ≤ n && n ≤ 0x200a) || n == 0x2028 || n == 0x2029 || n == 0x202f || n == 0x205f ||
    n == 0x3000

/-- The whitespace of C's `isspace`: what `int` and `bytes.fromhex` skip. -/
def isAsciiSpace (c : Char) : Bool :=
  let n := c.toNat
  (0x09 ≤ n && n ≤ 0x0d) || n == 0x20

/-- Drop the leading and trailing characters that satisfy `p`. -/
def stripBy (p : Char → Bool) (cs : List Char) : List Char :=
  ((cs.dropWhile p).reverse.dropWhile p).reverse

/-- `text.strip()`. -/
def strip (text : String) : String := String.ofList (stripBy isSpace text.toList)

/-- The lower case of one code point, where it is or becomes ASCII. -/
def lowerChar (c : Char) : Char :=
  if 0x41 ≤ c.toNat ∧ c.toNat ≤ 0x5a then Char.ofNat (c.toNat + 32)
  else if c.toNat = 0x212a then 'k'
  else c

/-- `text.lower()`. -/
def lower (text : String) : String := String.ofList (text.toList.map lowerChar)

/-! ### `int(text, 0)` and `int(text)` -/

/-- The zeros of the decimal digit blocks of Unicode; each starts ten consecutive
digits. -/
def decimalZeros : List ℕ :=
  [0x30, 0x660, 0x6f0, 0x7c0, 0x966, 0x9e6, 0xa66, 0xae6, 0xb66, 0xbe6, 0xc66, 0xce6, 0xd66, 0xde6,
   0xe50, 0xed0, 0xf20, 0x1040, 0x1090, 0x17e0, 0x1810, 0x1946, 0x19d0, 0x1a80, 0x1a90, 0x1b50,
   0x1bb0, 0x1c40, 0x1c50, 0xa620, 0xa8d0, 0xa900, 0xa9d0, 0xa9f0, 0xaa50, 0xabf0, 0xff10, 0x104a0,
   0x10d30, 0x11066, 0x110f0, 0x11136, 0x111d0, 0x112f0, 0x11450, 0x114d0, 0x11650, 0x116c0,
   0x11730, 0x118e0, 0x11950, 0x11c50, 0x11d50, 0x11da0, 0x16a60, 0x16ac0, 0x16b50, 0x1d7ce,
   0x1d7d8, 0x1d7e2, 0x1d7ec, 0x1d7f6, 0x1e140, 0x1e2f0, 0x1e950, 0x1fbf0]

/-- `int` first rewrites digits of other scripts and spaces to ASCII; anything
else outside ASCII becomes `?`. -/
def toAsciiNumeral (c : Char) : Char :=
  if c.toNat < 0x80 then c
  else if isSpace c then ' '
  else match decimalZeros.find? fun z => z ≤ c.toNat && c.toNat < z + 10 with
    | some z => Char.ofNat (0x30 + (c.toNat - z))
    | none => '?'

/-- The value of a digit or letter as a digit. -/
def digitValue (c : Char) : Option ℕ :=
  let n := c.toNat
  if 0x30 ≤ n ∧ n ≤ 0x39 then some (n - 0x30)
  else if 0x61 ≤ n ∧ n ≤ 0x7a then some (n - 0x61 + 10)
  else if 0x41 ≤ n ∧ n ≤ 0x5a then some (n - 0x41 + 10)
  else none

/-- Digits of `base`, with single underscores between them. -/
def parseDigits (base : ℕ) : List Char → ℕ → Option ℕ
  | [], _ => none
  | [c], acc =>
      match digitValue c with
      | some d => if d < base then some (acc * base + d) else none
      | none => none
  | c :: '_' :: cs, acc =>
      match digitValue c with
      | some d => if d < base then parseDigits base cs (acc * base + d) else none
      | none => none
  | c :: c' :: cs, acc =>
      match digitValue c with
      | some d => if d < base then parseDigits base (c' :: cs) (acc * base + d) else none
      | none => none

/-- Decimal digits, at most `sys.int_info.default_max_str_digits` of them. -/
def parseDecimal (cs : List Char) : Option ℕ :=
  if 4300 < (cs.filter (· != '_')).length then none else parseDigits 10 cs 0

/-- One underscore may stand between a base prefix and the first digit. -/
def skipUnderscore : List Char → List Char
  | '_' :: cs => cs
  | cs => cs

/-- A numeral whose prefix names its base; without a prefix only zero may start
with the digit `0`. -/
def parseBase0 : List Char → Option ℕ
  | '0' :: 'x' :: cs | '0' :: 'X' :: cs => parseDigits 16 (skipUnderscore cs) 0
  | '0' :: 'o' :: cs | '0' :: 'O' :: cs => parseDigits 8 (skipUnderscore cs) 0
  | '0' :: 'b' :: cs | '0' :: 'B' :: cs => parseDigits 2 (skipUnderscore cs) 0
  | '0' :: cs =>
      match parseDecimal ('0' :: cs) with
      | some 0 => some 0
      | _ => none
  | cs => parseDecimal cs

/-- Optional sign, then the numeral. -/
def parseSigned (numeral : List Char → Option ℕ) : List Char → Option ℤ
  | '-' :: cs => (numeral cs).map fun n => -(n : ℤ)
  | '+' :: cs => (numeral cs).map fun n => (n : ℤ)
  | cs => (numeral cs).map fun n => (n : ℤ)

/-- `int(text, 0)`; `none` is `ValueError`. -/
def intBase0 (text : String) : Option ℤ :=
  parseSigned parseBase0 (stripBy isAsciiSpace (text.toList.map toAsciiNumeral))

/-- `int(text)`; `none` is `ValueError`. -/
def intBase10 (text : String) : Option ℤ :=
  parseSigned parseDecimal (stripBy isAsciiSpace (text.toList.map toAsciiNumeral))

example : intBase0 "0x_1F" = some 31 ∧ intBase0 "01" = none ∧ intBase0 " +7 " = some 7 ∧
    intBase10 "007" = some 7 ∧ intBase0 "1__0" = none := by decide

/-! ### Hex -/

/-- The hex digit of a number below sixteen. -/
def hexDigit (n : ℕ) : Char :=
  if n < 10 then Char.ofNat (0x30 + n) else Char.ofNat (0x61 + (n - 10))

/-- The value of a hex digit. -/
def hexValue (c : Char) : Option ℕ :=
  match digitValue c with
  | some d => if d < 16 then some d else none
  | none => none

/-- The characters of `data.hex()`. -/
def hexChars : Bytes → List Char
  | [] => []
  | b :: bs => hexDigit (b.toNat / 16) :: hexDigit (b.toNat % 16) :: hexChars bs

/-- `data.hex()`. -/
def hex (data : Bytes) : String := String.ofList (hexChars data)

/-- Pairs of hex digits, with whitespace between pairs only. -/
def fromhexChars : List Char → Option Bytes
  | [] => some []
  | [c] => if isAsciiSpace c then some [] else none
  | c :: c' :: cs =>
      if isAsciiSpace c then fromhexChars (c' :: cs)
      else match hexValue c, hexValue c' with
        | some hi, some lo => (fromhexChars cs).map (UInt8.ofNat (hi * 16 + lo) :: ·)
        | _, _ => none

/-- `bytes.fromhex(text)`; `none` is `ValueError`. -/
def fromhex (text : String) : Option Bytes := fromhexChars text.toList

theorem hexValue_hexDigit {n : ℕ} (h : n < 16) : hexValue (hexDigit n) = some n := by
  interval_cases n <;> rfl

theorem isAsciiSpace_hexDigit {n : ℕ} (h : n < 16) : isAsciiSpace (hexDigit n) = false := by
  interval_cases n <;> rfl

theorem fromhexChars_hexChars (data : Bytes) : fromhexChars (hexChars data) = some data := by
  induction data with
  | nil => rfl
  | cons b bs ih =>
    have hb : b.toNat < 256 := b.toNat_lt
    have hhi : b.toNat / 16 < 16 := by omega
    have hlo : b.toNat % 16 < 16 := Nat.mod_lt _ (by decide)
    have hbyte : UInt8.ofNat (b.toNat / 16 * 16 + b.toNat % 16) = b := by
      rw [Nat.div_add_mod' b.toNat 16, UInt8.ofNat_toNat]
    rw [hexChars, fromhexChars, isAsciiSpace_hexDigit hhi, hexValue_hexDigit hhi,
      hexValue_hexDigit hlo, ih]
    simp [hbyte]

/-- **Hex text round trip.** -/
theorem fromhex_hex (data : Bytes) : fromhex (hex data) = some data := by
  rw [fromhex, hex, String.toList_ofList, fromhexChars_hexChars]

/-! ### base64 and UTF-8 -/

/-- A base64 digit. -/
def base64Digit (n : ℕ) : Char :=
  if n < 26 then Char.ofNat (0x41 + n)
  else if n < 52 then Char.ofNat (0x61 + (n - 26))
  else if n < 62 then Char.ofNat (0x30 + (n - 52))
  else if n = 62 then '+'
  else '/'

/-- Four digits for three bytes, padded with `=` at the end. -/
def base64Chars : Bytes → List Char
  | [] => []
  | [a] => [base64Digit (a.toNat / 4), base64Digit (a.toNat % 4 * 16), '=', '=']
  | [a, b] => [base64Digit (a.toNat / 4), base64Digit (a.toNat % 4 * 16 + b.toNat / 16),
      base64Digit (b.toNat % 16 * 4), '=']
  | a :: b :: c :: rest => base64Digit (a.toNat / 4) ::
      base64Digit (a.toNat % 4 * 16 + b.toNat / 16) ::
      base64Digit (b.toNat % 16 * 4 + c.toNat / 64) :: base64Digit (c.toNat % 64) ::
      base64Chars rest

/-- `base64.b64encode(data).decode("ascii")`. -/
def b64encode (data : Bytes) : String := String.ofList (base64Chars data)

/-- U+FFFD. -/
def replacementChar : Char := Char.ofNat 0xfffd

/-- Where a UTF-8 decoder stands: the bits read of a character and the ranges of the
bytes it still needs, none between characters. -/
abbrev Utf8State := ℕ × List (ℕ × ℕ)

/-- A byte where a character has to start. -/
def utf8Start (b : ℕ) : List Char × Utf8State :=
  let tail := (0x80, 0xbf)
  if b < 0x80 then ([Char.ofNat b], (0, []))
  else if 0xc2 ≤ b ∧ b ≤ 0xdf then ([], (b - 0xc0, [tail]))
  else if b = 0xe0 then ([], (0, [(0xa0, 0xbf), tail]))
  else if b = 0xed then ([], (0xd, [(0x80, 0x9f), tail]))
  else if 0xe1 ≤ b ∧ b ≤ 0xef then ([], (b - 0xe0, [tail, tail]))
  else if b = 0xf0 then ([], (0, [(0x90, 0xbf), tail, tail]))
  else if 0xf1 ≤ b ∧ b ≤ 0xf3 then ([], (b - 0xf0, [tail, tail, tail]))
  else if b = 0xf4 then ([], (4, [(0x80, 0x8f), tail, tail]))
  else ([replacementChar], (0, []))

/-- One more byte.  One that does not continue the character starts the next. -/
def utf8Step : Utf8State → ℕ → List Char × Utf8State
  | (_, []), b => utf8Start b
  | (bits, (low, high) :: rest), b =>
      if low ≤ b ∧ b ≤ high then
        match rest with
        | [] => ([Char.ofNat (bits * 64 + (b - 0x80))], (0, []))
        | next :: more => ([], (bits * 64 + (b - 0x80), next :: more))
      else (replacementChar :: (utf8Start b).1, (utf8Start b).2)

/-- The characters of a byte string. -/
def utf8Chars : Utf8State → Bytes → List Char
  | (_, []), [] => []
  | (_, _ :: _), [] => [replacementChar]
  | state, b :: bs => (utf8Step state b.toNat).1 ++ utf8Chars (utf8Step state b.toNat).2 bs

/-- `data.decode("utf-8", errors="replace")`. -/
def decodeUtf8Replace (data : Bytes) : String := String.ofList (utf8Chars (0, []) data)

example : b64encode [0x4d, 0x61] = "TWE=" ∧
    (utf8Chars (0, []) [0xc3, 0xa9, 0xe2, 0x82, 0x41, 0xff]).map Char.toNat =
      [0xe9, 0xfffd, 0x41, 0xfffd] := by decide

/-! ### Bytes in messages -/

/-- `f"0x{value:02x}"` of a byte value. -/
def hexByteText (value : ℤ) : String :=
  "0x" ++ String.ofList [hexDigit (value.toNat / 16), hexDigit (value.toNat % 16)]

end KovaWfb
