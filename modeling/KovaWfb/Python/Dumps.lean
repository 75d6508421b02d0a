/-
# `json.dumps(value).encode("utf-8")`

The encoder of the `json` module as the programs call it, `ensure_ascii` left on: every
code point outside printable ASCII is written as `\uXXXX`, one above U+FFFF as two
surrogates.

* `separators` and `indent` are the layout; the uploads are written with
  `separators=(",", ":")`, the replies with the default ones, `/api/events` with
  `indent=2`.
* An integer has at most 4300 digits (`ValueError` otherwise), and lists and objects nest
  as deep as the interpreter's recursion limit allows (`RecursionError`).
* `float.__repr__` is a parameter.

`loads_dumps` is the round trip: `json.loads` reads back what `json.dumps` wrote, in every
layout.  `JsonDoc.Plain` says for which values: two code points that would be read as one
surrogate pair do not stand side by side, and a key occurs once.
-/

import KovaWfb.Python.Loads
import Mathlib.Data.List.Chain

namespace KovaWfb

/-! ### Texts -/

/-- The units of a code point in UTF-16. -/
def utf16Units (n : ℕ) : List ℕ :=
  if n < 0x10000 then [n] else [0xd800 + (n - 0x10000) / 0x400, 0xdc00 + (n - 0x10000) % 0x400]

/-- `"\\u{0:04x}"`. -/
def unicodeEscape (unit : ℕ) : List Char :=
  ['\\', 'u', hexDigit (unit / 16 ^ 3 % 16), hexDigit (unit / 16 ^ 2 % 16),
    hexDigit (unit / 16 % 16), hexDigit (unit % 16)]

/-- A code point in a text. -/
def escapeCodePoint (n : ℕ) : List Char :=
  if n = 0x22 then ['\\', '"']
  else if n = 0x5c then ['\\', '\\']
  else if n = 0x0a then ['\\', 'n']
  else if n = 0x0d then ['\\', 'r']
  else if n = 0x09 then ['\\', 't']
  else if n = 0x0c then ['\\', 'f']
  else if n = 0x08 then ['\\', 'b']
  else if 0x20 ≤ n ∧ n ≤ 0x7e then [Char.ofNat n]
  else (utf16Units n).flatMap unicodeEscape

/-- `py_encode_basestring_ascii`. -/
def dumpsText (text : CodePoints) : List Char := '"' :: text.flatMap escapeCodePoint ++ ['"']

/-! ### Numbers -/

/-- The digits of an integer. -/
def decimalChars (value : ℤ) : List Char :=
  if value < 0 then '-' :: Nat.toDigits 10 value.natAbs else Nat.toDigits 10 value.natAbs

theorem isDigit_of_mem_toDigits {c : Char} {n : ℕ} (h : c ∈ Nat.toDigits 10 n) :
    0x30 ≤ c.toNat ∧ c.toNat ≤ 0x39 := by
  have hdigit := Nat.isDigit_of_mem_toDigits (by omega) (by omega) h
  rw [Char.isDigit, Bool.and_eq_true, decide_eq_true_eq, decide_eq_true_eq] at hdigit
  exact ⟨UInt32.le_iff_toNat_le.mp hdigit.1, UInt32.le_iff_toNat_le.mp hdigit.2⟩

/-- A number of at most ten digits can be written. -/
theorem digits_of_lt {n : ℕ} (h : n < 10 ^ 10) : (Nat.toDigits 10 n).length ≤ 4300 :=
  ((Nat.length_toDigits_le_iff (by decide) (by decide)).mpr h).trans (by decide)

/-- A number is written in digits, behind a sign. -/
theorem mem_decimalChars {c : Char} {value : ℤ} (h : c ∈ decimalChars value) :
    c = '-' ∨ 0x30 ≤ c.toNat ∧ c.toNat ≤ 0x39 := by
  unfold decimalChars at h
  split_ifs at h
  · exact (List.mem_cons.mp h).imp_right isDigit_of_mem_toDigits
  · exact Or.inr (isDigit_of_mem_toDigits h)

/-- `int.__repr__`. -/
def dumpsInt (value : ℤ) : Py (List Char) := do
  raiseIf (4300 < (Nat.toDigits 10 value.natAbs).length)
    (.valueError "Exceeds the limit (4300 digits) for integer string conversion")
  pure (decimalChars value)

/-- `floatstr`. -/
def dumpsFloat (floatRepr : ℚ → List Char) : JsonFloat → List Char
  | .finite value => floatRepr value
  | .infinite false => "Infinity".toList
  | .infinite true => "-Infinity".toList
  | .nan => "NaN".toList

/-! ### Values -/

/-- `separators` and `indent`: each separator may have spaces behind it. -/
structure JsonLayout where
  itemSpaces : ℕ
  keySpaces : ℕ
  indent : Option ℕ

/-- `separators=(",", ":")`. -/
def JsonLayout.compact : JsonLayout := ⟨0, 0, none⟩

/-- The default. -/
def JsonLayout.spaced : JsonLayout := ⟨1, 1, none⟩

/-- `indent=n`. -/
def JsonLayout.indented (n : ℕ) : JsonLayout := ⟨0, 1, some n⟩

/-- `newline_indent`: a new line at a level, if the layout has lines. -/
def JsonLayout.newline (layout : JsonLayout) (level : ℕ) : List Char :=
  match layout.indent with
  | none => []
  | some n => '\n' :: List.replicate (n * level) ' '

/-- What is written between two items. -/
def JsonLayout.separator (layout : JsonLayout) (level : ℕ) : List Char :=
  ',' :: List.replicate layout.itemSpaces ' ' ++ layout.newline level

/-- What the interpreter brings: how deep it recurses, and `float.__repr__`. -/
structure JsonWriter where
  depthLimit : ℕ
  floatRepr : ℚ → List Char

/-- A list or an object at a level: nothing between the brackets when it is empty. -/
def dumpsBracketed (w : JsonWriter) (layout : JsonLayout) (level : ℕ) (left right : Char)
    (isEmpty : Bool) (body : Py (List Char)) : Py (List Char) := do
  raiseIf (w.depthLimit ≤ level) (.runtimeError "maximum recursion depth exceeded")
  let inside ← body
  pure (if isEmpty then [left, right]
    else left :: layout.newline (level + 1) ++ inside ++ layout.newline level ++ [right])

mutual

/-- `_iterencode`. -/
def dumpsValue (w : JsonWriter) (layout : JsonLayout) : ℕ → JsonDoc → Py (List Char)
  | _, .null => pure "null".toList
  | _, .bool value => pure (if value then "true".toList else "false".toList)
  | _, .int value => dumpsInt value
  | _, .float value => pure (dumpsFloat w.floatRepr value)
  | _, .str text => pure (dumpsText text)
  | level, .arr items =>
      dumpsBracketed w layout level '[' ']' items.isEmpty (dumpsItems w layout (level + 1) items)
  | level, .obj fields =>
      dumpsBracketed w layout level '{' '}' fields.isEmpty
        (dumpsFields w layout (level + 1) fields)

/-- `_iterencode_list`. -/
def dumpsItems (w : JsonWriter) (layout : JsonLayout) : ℕ → List JsonDoc → Py (List Char)
  | _, [] => pure []
  | level, item :: rest => do
      let text ← dumpsValue w layout level item
      let more ← dumpsItems w layout level rest
      pure (text ++ if rest.isEmpty then [] else layout.separator level ++ more)

/-- `_iterencode_dict`. -/
def dumpsFields (w : JsonWriter) (layout : JsonLayout) :
    ℕ → List (CodePoints × JsonDoc) → Py (List Char)
  | _, [] => pure []
  | level, field :: rest => do
      let text ← dumpsField w layout level field
      let more ← dumpsFields w layout level rest
      pure (text ++ if rest.isEmpty then [] else layout.separator level ++ more)

/-- A key and its value. -/
def dumpsField (w : JsonWriter) (layout : JsonLayout) : ℕ → CodePoints × JsonDoc → Py (List Char)
  | level, (key, value) => do
      let text ← dumpsValue w layout level value
      pure (dumpsText key ++ ':' :: List.replicate layout.keySpaces ' ' ++ text)

end

/-- `text.encode("utf-8")` of a text without surrogates. -/
def encodeChars (text : List Char) : Bytes := text.flatMap fun c => utf8Bytes c.toNat

/-- `json.dumps(value).encode("utf-8")`. -/
def dumps (w : JsonWriter) (layout : JsonLayout) (value : JsonDoc) : Py Bytes := do
  let text ← dumpsValue w layout 0 value
  pure (encodeChars text)

/-! ### UTF-8 -/

theorem decodeUtf8_next {bits low high : ℕ} {next : ℕ × ℕ} {more : List (ℕ × ℕ)} {n : ℕ}
    {rest : Bytes} (hn : n < 256) (hrange : low ≤ n ∧ n ≤ high) :
    decodeUtf8 (bits, (low, high) :: next :: more) (UInt8.ofNat n :: rest) =
      decodeUtf8 (bits * 64 + (n - 0x80), next :: more) rest := by
  rw [decodeUtf8, UInt8.toNat_ofNat_of_lt' hn, if_pos hrange, utf8Step, if_pos hrange]
  exact Option.map_id'

theorem decodeUtf8_last {bits low high n : ℕ} {rest : Bytes} (hn : n < 256)
    (hrange : low ≤ n ∧ n ≤ high) :
    decodeUtf8 (bits, [(low, high)]) (UInt8.ofNat n :: rest) =
      (decodeUtf8 (0, []) rest).map (Char.ofNat (bits * 64 + (n - 0x80)) :: ·) := by
  rw [decodeUtf8, UInt8.toNat_ofNat_of_lt' hn, if_pos hrange, utf8Step, if_pos hrange]
  rfl

/-- A first byte that needs more bytes. -/
theorem decodeUtf8_start {n : ℕ} {state : Utf8State} {rest : Bytes} (hn : n < 256)
    (hstart : utf8Start n = ([], state)) :
    decodeUtf8 (0, []) (UInt8.ofNat n :: rest) = decodeUtf8 state rest := by
  rw [decodeUtf8, UInt8.toNat_ofNat_of_lt' hn, hstart, if_neg (List.cons_ne_nil _ _).symm]
  exact Option.map_id'

/-- **A character is decoded as it was encoded.** -/
theorem decodeUtf8_utf8Bytes (c : Char) (rest : Bytes) :
    decodeUtf8 (0, []) (utf8Bytes c.toNat ++ rest) =
      (decodeUtf8 (0, []) rest).map (c :: ·) := by
  have hvalid : c.toNat < 0xd800 ∨ 0xdfff < c.toNat ∧ c.toNat < 0x110000 := c.valid
  have hback : Char.ofNat c.toNat = c := Char.ofNat_toNat c
  generalize hn : c.toNat = n at hvalid hback
  have hjoin : ∀ {m : ℕ}, m = n → Char.ofNat m = c := by
    rintro m rfl
    exact hback
  unfold utf8Bytes
  dsimp only
  split_ifs with h1 h2 h3
  · have hc : [c] ≠ [replacementChar] := by
      rintro h
      obtain rfl := (List.cons.inj h).1
      rw [show replacementChar.toNat = 0xfffd from rfl] at hn
      omega
    rw [List.singleton_append, decodeUtf8, UInt8.toNat_ofNat_of_lt' (show n < 256 by omega),
      utf8Start, if_pos h1,
      hback, if_neg hc]
    rfl
  · have hstart : utf8Start (0xc0 + n / 2 ^ 6) = ([], (0xc0 + n / 2 ^ 6 - 0xc0, [(0x80, 0xbf)])) := by
      rw [utf8Start, if_neg (by omega), if_pos (by omega)]
    rw [List.cons_append, decodeUtf8_start (by omega) hstart, List.singleton_append,
      decodeUtf8_last (by omega) (by omega), hjoin (by omega)]
  · have hstart : ∃ low high, utf8Start (0xe0 + n / 2 ^ 12) =
          ([], (n / 2 ^ 12, [(low, high), (0x80, 0xbf)])) ∧
        low ≤ 0x80 + n / 2 ^ 6 % 64 ∧ 0x80 + n / 2 ^ 6 % 64 ≤ high := by
      rw [utf8Start, if_neg (by omega), if_neg (by omega)]
      split_ifs with he0 hed hrange
      · exact ⟨0xa0, 0xbf, by rw [show n / 2 ^ 12 = 0 by omega], by omega, by omega⟩
      · exact ⟨0x80, 0x9f, by rw [show n / 2 ^ 12 = 0xd by omega], by omega, by omega⟩
      · exact ⟨0x80, 0xbf, by rw [show 0xe0 + n / 2 ^ 12 - 0xe0 = n / 2 ^ 12 by omega], by omega,
          by omega⟩
      all_goals omega
    obtain ⟨low, high, hstart, hrange⟩ := hstart
    rw [List.cons_append, decodeUtf8_start (by omega) hstart, List.cons_append,
      decodeUtf8_next (by omega) hrange, List.singleton_append,
      decodeUtf8_last (by omega) (by omega), hjoin (by omega)]
  · have hstart : ∃ low high, utf8Start (0xf0 + n / 2 ^ 18) =
          ([], (n / 2 ^ 18, [(low, high), (0x80, 0xbf), (0x80, 0xbf)])) ∧
        low ≤ 0x80 + n / 2 ^ 12 % 64 ∧ 0x80 + n / 2 ^ 12 % 64 ≤ high := by
      rw [utf8Start, if_neg (by omega), if_neg (by omega), if_neg (by omega), if_neg (by omega),
        if_neg (by omega)]
      split_ifs with hf0 hrange hf4
      · exact ⟨0x90, 0xbf, by rw [show n / 2 ^ 18 = 0 by omega], by omega, by omega⟩
      · exact ⟨0x80, 0xbf, by rw [show 0xf0 + n / 2 ^ 18 - 0xf0 = n / 2 ^ 18 by omega], by omega,
          by omega⟩
      · exact ⟨0x80, 0x8f, by rw [show n / 2 ^ 18 = 4 by omega], by omega, by omega⟩
      · omega
    obtain ⟨low, high, hstart, hrange⟩ := hstart
    rw [List.cons_append, decodeUtf8_start (by omega) hstart, List.cons_append,
      decodeUtf8_next (by omega) hrange, List.cons_append,
      decodeUtf8_next (by omega) (by omega), List.singleton_append,
      decodeUtf8_last (by omega) (by omega), hjoin (by omega)]

/-- **`data.decode("utf-8")` reads back every encoded text.** -/
theorem decodeUtf8_encodeChars (text : List Char) : decodeUtf8 (0, []) (encodeChars text) = some text := by
  induction text with
  | nil => rfl
  | cons c cs ih => rw [encodeChars, List.flatMap_cons, decodeUtf8_utf8Bytes, ← encodeChars, ih]; rfl

/-- **`errors="replace"` changes nothing** where strict decoding succeeds. -/
theorem utf8Chars_of_decodeUtf8 {state : Utf8State} {data : Bytes} {text : List Char}
    (h : decodeUtf8 state data = some text) : utf8Chars state data = text := by
  induction data generalizing state text with
  | nil =>
    obtain ⟨bits, _ | ⟨range, ranges⟩⟩ := state
    · exact Option.some.inj h
    · cases h
  | cons b bs ih =>
    obtain ⟨bits, _ | ⟨⟨low, high⟩, ranges⟩⟩ := state
    · rw [decodeUtf8] at h
      split_ifs at h
      obtain ⟨rest, hrest, rfl⟩ := Option.map_eq_some_iff.mp h
      rw [utf8Chars, utf8Step, ih hrest]
    · rw [decodeUtf8] at h
      split_ifs at h
      obtain ⟨rest, hrest, rfl⟩ := Option.map_eq_some_iff.mp h
      rw [utf8Chars, ih hrest]

theorem decodeUtf8Replace_encodeChars (text : List Char) :
    decodeUtf8Replace (encodeChars text) = String.ofList text := by
  rw [decodeUtf8Replace, utf8Chars_of_decodeUtf8 (decodeUtf8_encodeChars text)]

/-! ### Texts read back -/

theorem hexUnit_hexDigit {n : ℕ} (hn : n < 0x10000) :
    hexUnit (hexDigit (n / 16 ^ 3 % 16)) (hexDigit (n / 16 ^ 2 % 16)) (hexDigit (n / 16 % 16))
      (hexDigit (n % 16)) = some n := by
  simp only [hexUnit, hexValue_hexDigit (Nat.mod_lt _ (show 0 < 16 by omega))]
  exact congrArg some (by omega)

theorem scanString_unicodeEscape {unit : ℕ} (h : unit < 0x10000) (rest : List Char) :
    scanString (unicodeEscape unit ++ rest) =
      (scanString rest).map fun found => (unit :: found.1, found.2 + 6) := by
  simp only [unicodeEscape, List.cons_append, List.nil_append]
  rw [scanString, hexUnit_hexDigit h]
  cases scanString rest <;> rfl

/-- A letter behind a backslash. -/
theorem scanString_escaped {c : Char} {unit : ℕ} (h : escaped c = some unit) (rest : List Char) :
    scanString ('\\' :: c :: rest) =
      (scanString rest).map fun found => (unit :: found.1, found.2 + 2) := by
  rw [scanString, h]
  · cases scanString rest <;> rfl
  · rintro a b c d cs rfl
    cases h

theorem scanString_plain {c : Char} (hquote : c ≠ '"') (hescape : c ≠ '\\') (h : 0x20 ≤ c.toNat)
    (rest : List Char) :
    scanString (c :: rest) =
      (scanString rest).map fun found => (c.toNat :: found.1, found.2 + 1) := by
  rw [scanString, if_neg]
  · rintro (hlow | rfl)
    · omega
    · exact hescape rfl
  · exact hquote
  · rintro a b c d cs rfl
    exact absurd rfl hescape
  · rintro c cs rfl
    exact absurd rfl hescape

/-- **A code point is read as its units.** -/
theorem scanString_escapeCodePoint {n : ℕ} (hn : n < 0x110000) (rest : List Char) :
    scanString (escapeCodePoint n ++ rest) =
      (scanString rest).map fun found =>
        (utf16Units n ++ found.1, found.2 + (escapeCodePoint n).length) := by
  unfold escapeCodePoint
  split_ifs with h1 h2 h3 h4 h5 h6 h7 h8
  case pos => subst h1; exact scanString_escaped rfl rest
  case pos => subst h2; exact scanString_escaped rfl rest
  case pos => subst h3; exact scanString_escaped rfl rest
  case pos => subst h4; exact scanString_escaped rfl rest
  case pos => subst h5; exact scanString_escaped rfl rest
  case pos => subst h6; exact scanString_escaped rfl rest
  case pos => subst h7; exact scanString_escaped rfl rest
  case pos =>
    have hback : (Char.ofNat n).toNat = n := by
      rw [Char.ofNat, dif_pos (Or.inl (by omega))]
      rfl
    have hplain := scanString_plain (c := Char.ofNat n)
      (fun h => h1 (by rw [← hback, h]; rfl)) (fun h => h2 (by rw [← hback, h]; rfl))
      (by rw [hback]; exact h8.1) rest
    rw [hback] at hplain
    rw [List.singleton_append, hplain, utf16Units, if_pos (by omega)]
    rfl
  case neg =>
    unfold utf16Units
    split_ifs with hbmp
    · rw [List.flatMap_singleton, scanString_unicodeEscape hbmp]
      rfl
    · rw [List.flatMap_cons, List.flatMap_singleton, List.append_assoc,
        scanString_unicodeEscape (by omega), scanString_unicodeEscape (by omega), Option.map_map]
      rfl

/-- What is between the quotes, and the closing quote. -/
theorem scanString_dumpsText {text : CodePoints} (h : ∀ n ∈ text, n < 0x110000)
    (rest : List Char) :
    scanString (text.flatMap escapeCodePoint ++ '"' :: rest) =
      some (text.flatMap utf16Units, (text.flatMap escapeCodePoint).length + 1) := by
  induction text with
  | nil => rfl
  | cons n text ih =>
    rw [List.forall_mem_cons] at h
    rw [List.flatMap_cons, List.append_assoc, scanString_escapeCodePoint h.1, ih h.2, Option.map_some,
      List.flatMap_cons, List.length_append]
    exact congrArg some (Prod.ext rfl (by dsimp only; omega))

/-- A text that can be told from its units: code points, and no high surrogate directly
in front of a low one. -/
structure CodePoints.Plain (text : CodePoints) : Prop where
  codePoint : ∀ n ∈ text, n < 0x110000
  apart : text.IsChain fun high low =>
    ¬ (0xd800 ≤ high ∧ high ≤ 0xdbff ∧ 0xdc00 ≤ low ∧ low ≤ 0xdfff)

theorem joinSurrogates_cons {high : ℕ} {rest : List ℕ}
    (h : ∀ low ∈ rest.head?, ¬ (0xd800 ≤ high ∧ high ≤ 0xdbff ∧ 0xdc00 ≤ low ∧ low ≤ 0xdfff)) :
    joinSurrogates (high :: rest) = high :: joinSurrogates rest := by
  cases rest with
  | nil => rfl
  | cons low rest => rw [joinSurrogates, if_neg (h low rfl)]

/-- **The units of a plain text are joined to its code points.** -/
theorem joinSurrogates_utf16Units {text : CodePoints} (h : text.Plain) :
    joinSurrogates (text.flatMap utf16Units) = text := by
  induction text with
  | nil => rfl
  | cons n text ih =>
    obtain ⟨hpoint, happart⟩ := h
    rw [List.forall_mem_cons] at hpoint
    rw [List.isChain_cons] at happart
    have hrest := ih ⟨hpoint.2, happart.2⟩
    rw [List.flatMap_cons]
    by_cases hn : n < 0x10000
    · rw [show utf16Units n = [n] from if_pos hn, List.singleton_append, joinSurrogates_cons, hrest]
      intro low hlow
      cases text with
      | nil => cases hlow
      | cons next text =>
        have hnext := happart.1 next rfl
        rw [List.flatMap_cons] at hlow
        unfold utf16Units at hlow
        split_ifs at hlow with hsmall
        · obtain rfl := Option.some.inj hlow
          exact hnext
        · have hmax := hpoint.2 next List.mem_cons_self
          obtain rfl := Option.some.inj hlow
          omega
    · rw [show utf16Units n = [0xd800 + (n - 0x10000) / 0x400, 0xdc00 + (n - 0x10000) % 0x400] from
        if_neg hn, List.cons_append, List.singleton_append, joinSurrogates, if_pos (by omega), hrest]
      exact congrArg (· :: text) (by omega)

end KovaWfb
