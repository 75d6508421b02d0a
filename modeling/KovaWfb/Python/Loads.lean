/-
# `json.loads(data.decode("utf-8"))`

The standard library's decoder as the C programs call it on a datagram: strict
UTF-8, then the scanner of the `json` module.

* A text may end up with lone surrogates: `\ud800` is read as that code point, and a
  high one is joined with a low one that follows.  A JSON text is therefore a list of
  code points; it can be printed and encoded when none of them is a surrogate.
* An integer has at most 4300 digits (`ValueError` otherwise), a number with a
  fraction or an exponent is the nearest double, `NaN` and the infinities are read.
* Of a key that occurs twice the last value counts, at the first one's place.
* Objects and lists nest as deep as the interpreter's recursion limit allows, a
  parameter here; one level more is `RecursionError`.

The document is cut into tokens, where every position either starts a token or is
skipped by the one before, and the tokens drive a machine with the stack of open
lists and objects.  A token is judged where the scanner would read it: a numeral that
is too long is no error behind the end of the document.
-/

import KovaWfb.Python.Json
import KovaWfb.Python.Text

namespace KovaWfb

/-! ### Texts -/

/-- A Python text. -/
abbrev CodePoints := List ℕ

/-- The code points no encoding has. -/
def isSurrogate (n : ℕ) : Bool := 0xd800 ≤ n && n ≤ 0xdfff

/-- The text with U+FFFD for every lone surrogate. -/
def CodePoints.shown (text : CodePoints) : String :=
  String.ofList (text.map fun n => if isSurrogate n then replacementChar else Char.ofNat n)

/-- The text, if it has no lone surrogate. -/
def CodePoints.text? (text : CodePoints) : Option String :=
  if text.any isSurrogate then none else some text.shown

/-- The UTF-8 bytes of a code point. -/
def utf8Bytes (n : ℕ) : Bytes :=
  let tail (shift : ℕ) := UInt8.ofNat (0x80 + n / 2 ^ shift % 64)
  if n < 0x80 then [UInt8.ofNat n]
  else if n < 0x800 then [UInt8.ofNat (0xc0 + n / 2 ^ 6), tail 0]
  else if n < 0x10000 then [UInt8.ofNat (0xe0 + n / 2 ^ 12), tail 6, tail 0]
  else [UInt8.ofNat (0xf0 + n / 2 ^ 18), tail 12, tail 6, tail 0]

/-- `text.encode("utf-8")`; `none` is `UnicodeEncodeError`. -/
def CodePoints.encodeUtf8 (text : CodePoints) : Option Bytes :=
  if text.any isSurrogate then none else some (text.flatMap utf8Bytes)

/-- A high surrogate and the low one that follows it are one code point. -/
def joinSurrogates : List ℕ → CodePoints
  | high :: low :: rest =>
      if 0xd800 ≤ high ∧ high ≤ 0xdbff ∧ 0xdc00 ≤ low ∧ low ≤ 0xdfff then
        (0x10000 + (high - 0xd800) * 0x400 + (low - 0xdc00)) :: joinSurrogates rest
      else high :: joinSurrogates (low :: rest)
  | rest => rest

/-- `data.decode("utf-8")`; `none` is `UnicodeDecodeError`. -/
def decodeUtf8 : Utf8State → Bytes → Option (List Char)
  | (_, pending), [] => if pending.isEmpty then some [] else none
  | (_, []), b :: bs =>
      if (utf8Start b.toNat).1 = [replacementChar] then none
      else (decodeUtf8 (utf8Start b.toNat).2 bs).map ((utf8Start b.toNat).1 ++ ·)
  | (bits, (low, high) :: rest), b :: bs =>
      if low ≤ b.toNat ∧ b.toNat ≤ high then
        (decodeUtf8 (utf8Step (bits, (low, high) :: rest) b.toNat).2 bs).map
          ((utf8Step (bits, (low, high) :: rest) b.toNat).1 ++ ·)
      else none

/-! ### Documents -/

/-- What `json.loads` returns. -/
inductive JsonDoc
  | null
  | bool (value : Bool)
  | int (value : ℤ)
  | float (value : JsonFloat)
  | str (text : CodePoints)
  | arr (items : List JsonDoc)
  | obj (fields : List (CodePoints × JsonDoc))

/-- The fields of an object, each key once. -/
abbrev DocFields := List (CodePoints × JsonDoc)

/-- The code points of a text without surrogates. -/
def codePoints (text : String) : CodePoints := text.toList.map Char.toNat

/-- `fields.get(name)`. -/
def DocFields.get (fields : DocFields) (name : String) : Option JsonDoc :=
  List.lookup (codePoints name) fields

/-- `fields[key] = value`. -/
def DocFields.set : DocFields → CodePoints → JsonDoc → DocFields
  | [], key, value => [(key, value)]
  | field :: rest, key, value =>
      if field.1 = key then (key, value) :: rest else field :: DocFields.set rest key value

mutual

/-- The value with its lone surrogates replaced. -/
def JsonDoc.toJson : JsonDoc → Json
  | .null => .null
  | .bool value => .bool value
  | .int value => .int value
  | .float value => .float value
  | .str text => .str text.shown
  | .arr items => .arr (itemsToJson items)
  | .obj fields => .obj (fieldsToJson fields)

/-- The items of a list. -/
def itemsToJson : List JsonDoc → List Json
  | [] => []
  | item :: rest => item.toJson :: itemsToJson rest

/-- The fields of an object. -/
def fieldsToJson : List (CodePoints × JsonDoc) → JsonFields
  | [] => []
  | field :: rest => fieldToJson field :: fieldsToJson rest

/-- A field of an object. -/
def fieldToJson : CodePoints × JsonDoc → String × Json
  | (key, value) => (key.shown, value.toJson)

end

mutual

/-- How deep lists and objects nest in the value. -/
def JsonDoc.depth : JsonDoc → ℕ
  | .arr items => itemsDepth items + 1
  | .obj fields => fieldsDepth fields + 1
  | _ => 0

/-- The deepest item. -/
def itemsDepth : List JsonDoc → ℕ
  | [] => 0
  | item :: rest => max item.depth (itemsDepth rest)

/-- The deepest field. -/
def fieldsDepth : List (CodePoints × JsonDoc) → ℕ
  | [] => 0
  | field :: rest => max (fieldDepth field) (fieldsDepth rest)

/-- The depth of a field's value. -/
def fieldDepth : CodePoints × JsonDoc → ℕ
  | (_, value) => value.depth

end

/-! ### Numbers -/

/-- `n / d` to the nearest integer, a tie to the even one. -/
def roundHalfEven (n d : ℕ) : ℕ :=
  if 2 * (n % d) < d then n / d
  else if d < 2 * (n % d) then n / d + 1
  else n / d + n / d % 2

/-- The double nearest to `n / d`: 53 significant bits, none below `2 ^ -1074`. -/
def nearestDouble (negative : Bool) (n d : ℕ) : JsonFloat :=
  if n = 0 then .finite 0
  else
    -- `n / d` over a power of two, as a fraction.
    let scaled (e : ℤ) : ℕ × ℕ := (n * 2 ^ (-e).toNat, d * 2 ^ e.toNat)
    let e : ℤ := Nat.log2 n - Nat.log2 d
    let exponent := if (scaled e).1 < (scaled e).2 then e - 1 else e
    let unit := max (exponent - 52) (-1074)
    let mantissa := roundHalfEven (scaled unit).1 (scaled unit).2
    let value : ℚ := (mantissa * 2 ^ unit.toNat : ℕ) / (2 ^ (-unit).toNat : ℕ)
    if 2 ^ 1024 ≤ value then .infinite negative
    else .finite (if negative then -value else value)

/-- A decimal digit. -/
def isDigit (c : Char) : Bool := '0' ≤ c && c ≤ '9'

/-- The number that decimal digits write. -/
def decimalValue (digits : List Char) : ℕ :=
  digits.foldl (fun n c => n * 10 + (c.toNat - 0x30)) 0

/-- `float(text)` for a sign, the digits before and behind the point, and an exponent. -/
def floatValue (negative : Bool) (whole fraction : List Char) (exponent : ℤ) : JsonFloat :=
  let scale := exponent - fraction.length
  nearestDouble negative (decimalValue (whole ++ fraction) * 10 ^ scale.toNat)
    (10 ^ (-scale).toNat)

/-- A token of a document. -/
inductive JsonToken
  | openObject
  | closeObject
  | openArray
  | closeArray
  | comma
  | colon
  | str (text : CodePoints)
  | int (numeral : String)
  | value (value : JsonDoc)
  | invalid

/-- The digits behind a decimal point: `(\.\d+)?`. -/
def scanFraction : List Char → List Char
  | '.' :: cs => cs.takeWhile isDigit
  | _ => []

/-- The exponent and its characters: `([eE][-+]?\d+)?`. -/
def scanExponent : List Char → Option (ℤ × ℕ)
  | c :: cs =>
      if c = 'e' ∨ c = 'E' then
        let (sign, rest) : ℤ × List Char := match cs with
          | '-' :: cs => (-1, cs)
          | '+' :: cs => (1, cs)
          | cs => (1, cs)
        let digits := rest.takeWhile isDigit
        if digits = [] then none
        else some (sign * decimalValue digits, 1 + (cs.length - rest.length) + digits.length)
      else none
  | [] => none

/-- A number without its sign and what it takes of the document: `(0|[1-9]\d*)`, a
fraction and an exponent. -/
def scanNumber (negative : Bool) (cs : List Char) : JsonToken × ℕ :=
  let whole := match cs with
    | '0' :: _ => ['0']
    | cs => cs.takeWhile isDigit
  if whole = [] then (.invalid, 0)
  else
    let rest := cs.drop whole.length
    let fraction := scanFraction rest
    let fractionLength := if fraction = [] then 0 else fraction.length + 1
    let length := whole.length + fractionLength
    match scanExponent (rest.drop fractionLength) with
    | some (exponent, count) =>
        (.value (.float (floatValue negative whole fraction exponent)), length + count)
    | none =>
        if fraction = [] then
          (.int (String.ofList (if negative then '-' :: whole else whole)), length)
        else (.value (.float (floatValue negative whole fraction 0)), length)

/-! ### Tokens -/

/-- `\uXXXX`. -/
def hexUnit (a b c d : Char) : Option ℕ :=
  match hexValue a, hexValue b, hexValue c, hexValue d with
  | some a, some b, some c, some d => some (((a * 16 + b) * 16 + c) * 16 + d)
  | _, _, _, _ => none

/-- The character that a backslash and `c` stand for. -/
def escaped (c : Char) : Option ℕ :=
  if c = '"' ∨ c = '\\' ∨ c = '/' then some c.toNat
  else if c = 'b' then some 0x08
  else if c = 'f' then some 0x0c
  else if c = 'n' then some 0x0a
  else if c = 'r' then some 0x0d
  else if c = 't' then some 0x09
  else none

/-- A text behind its opening quote and what it takes of the document, the closing
quote included; a control character has to be escaped. -/
def scanString : List Char → Option (List ℕ × ℕ)
  | [] => none
  | '"' :: _ => some ([], 1)
  | '\\' :: 'u' :: a :: b :: c :: d :: cs =>
      match hexUnit a b c d, scanString cs with
      | some unit, some (units, count) => some (unit :: units, count + 6)
      | _, _ => none
  | '\\' :: c :: cs =>
      match escaped c, scanString cs with
      | some unit, some (units, count) => some (unit :: units, count + 2)
      | _, _ => none
  | c :: cs =>
      if c.toNat < 0x20 ∨ c = '\\' then none
      else (scanString cs).map fun found => (c.toNat :: found.1, found.2 + 1)

/-- The constants of the format. -/
def jsonConstants : List (List Char × JsonDoc) :=
  [("null".toList, .null), ("true".toList, .bool true), ("false".toList, .bool false),
   ("NaN".toList, .float .nan), ("Infinity".toList, .float (.infinite false)),
   ("-Infinity".toList, .float (.infinite true))]

/-- The token that starts at a character, if it is no space, and what it takes of the
rest of the document. -/
def tokenAt (c : Char) (cs : List Char) : Option JsonToken × ℕ :=
  match jsonConstants.find? fun constant => constant.1.isPrefixOf (c :: cs) with
  | some constant => (some (.value constant.2), constant.1.length - 1)
  | none =>
      if c = ' ' ∨ c = '\t' ∨ c = '\n' ∨ c = '\r' then (none, 0)
      else if c = '{' then (some .openObject, 0)
      else if c = '}' then (some .closeObject, 0)
      else if c = '[' then (some .openArray, 0)
      else if c = ']' then (some .closeArray, 0)
      else if c = ',' then (some .comma, 0)
      else if c = ':' then (some .colon, 0)
      else if c = '"' then
        match scanString cs with
        | some (units, count) => (some (.str (joinSurrogates units)), count)
        | none => (some .invalid, 0)
      else if c = '-' then
        let (token, count) := scanNumber true cs
        (some token, count)
      else
        let (token, count) := scanNumber false (c :: cs)
        (some token, count - 1)

/-- The tokens of a document, behind characters that belong to the token before. -/
def tokens : ℕ → List Char → List JsonToken
  | _, [] => []
  | skip + 1, _ :: cs => tokens skip cs
  | 0, c :: cs => (tokenAt c cs).1.toList ++ tokens (tokenAt c cs).2 cs

/-! ### The machine -/

/-- What `json.loads(data.decode("utf-8"))` raises: `UnicodeDecodeError` or
`JSONDecodeError`, or another exception. -/
inductive LoadsError
  | notJson
  | raised (error : PyError)

/-- A list or an object that is open: what is in it, and the key whose value is
read. -/
inductive JsonFrame
  | arr (items : List JsonDoc)
  | obj (fields : DocFields) (key : CodePoints)

/-- What may come next. -/
inductive JsonMode
  | value
  | itemOrClose
  | key
  | keyOrClose
  | colon
  | commaOrClose
  | done (doc : JsonDoc)

/-- Where the scanner stands. -/
structure JsonScan where
  mode : JsonMode
  stack : List JsonFrame

/-- A value is complete. -/
def placeValue (value : JsonDoc) : List JsonFrame → JsonScan
  | [] => ⟨.done value, []⟩
  | .arr items :: stack => ⟨.commaOrClose, .arr (items ++ [value]) :: stack⟩
  | .obj fields key :: stack => ⟨.commaOrClose, .obj (fields.set key value) key :: stack⟩

/-- One more list or object. -/
def pushFrame (depthLimit : ℕ) (mode : JsonMode) (frame : JsonFrame) (stack : List JsonFrame) :
    Except LoadsError JsonScan :=
  if stack.length < depthLimit then .ok ⟨mode, frame :: stack⟩
  else .error (.raised (.runtimeError "maximum recursion depth exceeded"))

/-- A token where a value has to start. -/
def startValue (depthLimit : ℕ) (stack : List JsonFrame) : JsonToken → Except LoadsError JsonScan
  | .str text => .ok (placeValue (.str text) stack)
  | .int numeral =>
      match intBase10 numeral with
      | some value => .ok (placeValue (.int value) stack)
      | none => .error (.raised (.valueError
          "Exceeds the limit (4300 digits) for integer string conversion"))
  | .value value => .ok (placeValue value stack)
  | .openArray => pushFrame depthLimit .itemOrClose (.arr []) stack
  | .openObject => pushFrame depthLimit .keyOrClose (.obj [] []) stack
  | _ => .error .notJson

/-- One token. -/
def jsonStep (depthLimit : ℕ) (scan : JsonScan) (token : JsonToken) : Except LoadsError JsonScan :=
  match scan.mode, scan.stack, token with
  | .value, stack, token => startValue depthLimit stack token
  | .itemOrClose, .arr items :: stack, .closeArray => .ok (placeValue (.arr items) stack)
  | .itemOrClose, stack, token => startValue depthLimit stack token
  | .key, .obj fields _ :: stack, .str key => .ok ⟨.colon, .obj fields key :: stack⟩
  | .keyOrClose, .obj fields _ :: stack, .str key => .ok ⟨.colon, .obj fields key :: stack⟩
  | .keyOrClose, .obj fields _ :: stack, .closeObject => .ok (placeValue (.obj fields) stack)
  | .colon, stack, .colon => .ok ⟨.value, stack⟩
  | .commaOrClose, .arr items :: stack, .comma => .ok ⟨.value, .arr items :: stack⟩
  | .commaOrClose, .arr items :: stack, .closeArray => .ok (placeValue (.arr items) stack)
  | .commaOrClose, .obj fields key :: stack, .comma => .ok ⟨.key, .obj fields key :: stack⟩
  | .commaOrClose, .obj fields _ :: stack, .closeObject => .ok (placeValue (.obj fields) stack)
  | _, _, _ => .error .notJson

/-- The document the tokens write. -/
def parseTokens (depthLimit : ℕ) : JsonScan → List JsonToken → Except LoadsError JsonDoc
  | ⟨.done doc, _⟩, [] => .ok doc
  | _, [] => .error .notJson
  | scan, token :: rest =>
      match jsonStep depthLimit scan token with
      | .ok scan => parseTokens depthLimit scan rest
      | .error error => .error error

/-- `json.loads(text)`, with the depth the interpreter allows. -/
def loadsText (depthLimit : ℕ) (text : List Char) : Except LoadsError JsonDoc :=
  parseTokens depthLimit ⟨.value, []⟩ (tokens 0 text)

/-- `json.loads(data.decode("utf-8"))`. -/
def loads (depthLimit : ℕ) (data : Bytes) : Except LoadsError JsonDoc :=
  match decodeUtf8 (0, []) data with
  | none => .error .notJson
  | some text => loadsText depthLimit text

/-! ### What is raised -/

/-- `ValueError` or `RecursionError`. -/
def LoadsError.IsPlain : LoadsError → Prop
  | .notJson => True
  | .raised error => ∀ msg, error ≠ .appFrameError msg

theorem startValue_plain {depthLimit : ℕ} {stack : List JsonFrame} {token : JsonToken}
    {error : LoadsError} (h : startValue depthLimit stack token = .error error) : error.IsPlain := by
  have hpush : ∀ mode frame, pushFrame depthLimit mode frame stack = .error error →
      error.IsPlain := by
    intro mode frame h
    rw [pushFrame] at h
    split at h <;> cases h
    exact fun _ => PyError.noConfusion
  cases token with
  | openArray => exact hpush _ _ h
  | openObject => exact hpush _ _ h
  | int numeral =>
    rw [startValue] at h
    split at h <;> cases h
    exact fun _ => PyError.noConfusion
  | str text => cases h
  | value value => cases h
  | closeObject => cases h; trivial
  | closeArray => cases h; trivial
  | comma => cases h; trivial
  | colon => cases h; trivial
  | invalid => cases h; trivial

theorem jsonStep_plain {depthLimit : ℕ} {scan : JsonScan} {token : JsonToken} {error : LoadsError}
    (h : jsonStep depthLimit scan token = .error error) : error.IsPlain := by
  unfold jsonStep at h
  split at h
  case h_1 => exact startValue_plain h
  case h_3 => exact startValue_plain h
  all_goals cases h
  all_goals trivial

theorem parseTokens_plain {depthLimit : ℕ} {tokens : List JsonToken} {scan : JsonScan}
    {error : LoadsError} (h : parseTokens depthLimit scan tokens = .error error) :
    error.IsPlain := by
  induction tokens generalizing scan with
  | nil =>
    obtain ⟨mode, stack⟩ := scan
    cases mode <;> cases h <;> trivial
  | cons token rest ih =>
    rw [parseTokens] at h
    split at h
    · exact ih h
    · rename_i hstep
      cases h
      exact jsonStep_plain hstep

/-- **`json.loads` raises no `AppFrameError`.** -/
theorem loadsText_raised {depthLimit : ℕ} {text : List Char} {error : PyError}
    (h : loadsText depthLimit text = .error (.raised error)) (msg : String) :
    error ≠ .appFrameError msg :=
  parseTokens_plain h msg

end KovaWfb
