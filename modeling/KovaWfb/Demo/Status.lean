/-
# What a status payload says: `parse_status_payload`

`demo/dashboard_server.py`, lines 78 to 97 and 255 to 292.  A text is a JSON object, or words
`key=value` with numbers among the values, or a message; `readStatus` is what
`ingest_observation` makes of it, line by line (418, 422, 425, 437, 438 and 444).

Two kinds of exceptions are not caught.  `json.loads` raises `JSONDecodeError`, which is, but
also `ValueError` for an integer of more than 4300 digits and `RecursionError` for a document
that nests too deep.  And `_coerce_int` and `_coerce_float` catch `TypeError` and `ValueError`,
not the `OverflowError` of `int` for an infinite number and of `float` for an integer beyond
every double.  `readStatus_cases` says when.

`str(value)` nests no deeper than `json.loads` did further down the stack.
-/

import KovaWfb.Demo.Dashboard
import KovaWfb.Python.Numbers

namespace KovaWfb

/-! ### Coercions -/

/-- `None` for `None`; `try: return convert(value)`, and `None` on `TypeError` and
`ValueError`. -/
def coerce {α : Type} (convert : Json → Py α) : JsonDoc → Py (Option α)
  | .null => pure none
  | value =>
    match convert value.toJson with
    | .ok result => pure (some result)
    | .error (.typeError _) => pure none
    | .error error => if error.isValueError then pure none else .error error

/-- `_coerce_int`. -/
def coerceInt : JsonDoc → Py (Option ℤ) := coerce Json.toInt

/-- `_coerce_float`. -/
def coerceFloat : JsonDoc → Py (Option JsonFloat) := coerce Json.toFloat

/-- An infinite number, which no integer is near. -/
def JsonDoc.Infinite : JsonDoc → Prop
  | .float (.infinite _) => True
  | _ => False

/-- An integer beyond every double. -/
def JsonDoc.BeyondDouble : JsonDoc → Prop
  | .int value => doubleLimit ≤ value.natAbs
  | _ => False

instance : (value : JsonDoc) → Decidable value.Infinite
  | .float (.infinite _) => .isTrue trivial
  | .float (.finite _) | .float .nan | .null | .bool _ | .int _ | .str _ | .arr _ | .obj _ =>
      .isFalse id

instance : (value : JsonDoc) → Decidable value.BeyondDouble
  | .int value => inferInstanceAs (Decidable (doubleLimit ≤ value.natAbs))
  | .null | .bool _ | .float _ | .str _ | .arr _ | .obj _ => .isFalse id

/-- **`_coerce_int` raises `OverflowError`** on infinite numbers, and nothing else on any
value. -/
theorem coerceInt_cases (value : JsonDoc) :
    (¬ value.Infinite ∧ ∃ result, coerceInt value = .ok result) ∨
      (value.Infinite ∧ ∃ msg, coerceInt value = .error (.overflowError msg)) := by
  cases value with
  | float number =>
    cases number with
    | infinite negative => exact Or.inr ⟨trivial, _, rfl⟩
    | finite number => exact Or.inl ⟨id, _, rfl⟩
    | nan => exact Or.inl ⟨id, _, rfl⟩
  | str text =>
    refine Or.inl ⟨id, ?_⟩
    rw [coerceInt, coerce, JsonDoc.toJson, Json.toInt]
    · cases intBase10 text.shown <;> exact ⟨_, rfl⟩
    · exact JsonDoc.noConfusion
  | null => exact Or.inl ⟨id, _, rfl⟩
  | bool value => exact Or.inl ⟨id, _, rfl⟩
  | int value => exact Or.inl ⟨id, _, rfl⟩
  | arr items => exact Or.inl ⟨id, _, rfl⟩
  | obj fields => exact Or.inl ⟨id, _, rfl⟩

/-- **`_coerce_float` raises `OverflowError`** on integers beyond every double, and nothing else
on any value. -/
theorem coerceFloat_cases (value : JsonDoc) :
    (¬ value.BeyondDouble ∧ ∃ result, coerceFloat value = .ok result) ∨
      (value.BeyondDouble ∧ ∃ msg, coerceFloat value = .error (.overflowError msg)) := by
  cases value with
  | int number =>
    obtain ⟨hlt, double, h⟩ | ⟨hle, msg, h⟩ := floatOfInt_cases number
    · refine Or.inl ⟨Nat.not_le_of_lt hlt, some double, ?_⟩
      rw [coerceFloat, coerce, JsonDoc.toJson, Json.toFloat, h]
      · rfl
      · exact JsonDoc.noConfusion
    · refine Or.inr ⟨hle, msg, ?_⟩
      rw [coerceFloat, coerce, JsonDoc.toJson, Json.toFloat, h]
      · rfl
      · exact JsonDoc.noConfusion
  | str text =>
    refine Or.inl ⟨id, ?_⟩
    rw [coerceFloat, coerce, JsonDoc.toJson, Json.toFloat]
    · cases floatText text.shown <;> exact ⟨_, rfl⟩
    · exact JsonDoc.noConfusion
  | null => exact Or.inl ⟨id, _, rfl⟩
  | bool value => exact Or.inl ⟨id, _, rfl⟩
  | float number => exact Or.inl ⟨id, _, rfl⟩
  | arr items => exact Or.inl ⟨id, _, rfl⟩
  | obj fields => exact Or.inl ⟨id, _, rfl⟩

/-! ### The fields -/

/-- `status.get(name)`. -/
def DocFields.value (fields : DocFields) (name : String) : JsonDoc := (fields.get name).getD .null

/-- `fields.setdefault(name, value)`. -/
def DocFields.setDefault (fields : DocFields) (name : String) (value : JsonDoc) : DocFields :=
  if (fields.get name).isSome then fields else fields.set (codePoints name) value

/-- `text.split()`. -/
def splitWords (text : List Char) : List (List Char) :=
  (text.splitOnP isSpace).filter (· ≠ [])

/-- What stands behind `=`: an integer if it is written the way it is printed, or a float, or
the text. -/
def statusValue (raw : String) : Py JsonDoc := do
  let intValue ← coerceInt (.str (codePoints raw))
  let floatValue ← coerceFloat (.str (codePoints raw))
  pure (match intValue.filter fun value => toString value = raw, floatValue with
    | some value, _ => .int value
    | none, some value => .float value
    | none, none => .str (codePoints raw))

/-- One word of the text. -/
def addWord (values : DocFields) (token : List Char) : Py DocFields :=
  if '=' ∉ token then pure values
  else do
    let head := token.takeWhile (· ≠ '=')
    let key := stripBy isSpace head
    let rawValue := stripBy isSpace (token.drop (head.length + 1))
    if key = [] then pure values
    else do
      let value ← statusValue (String.ofList rawValue)
      pure (values.set (key.map Char.toNat) value)

/-- `parse_status_payload`, with the depth that `json.loads` may go. -/
def parseStatusPayload (depthLimit : ℕ) (payload : Bytes) : Py DocFields :=
  let text := safeText payload
  if text = "" then pure []
  else
    match loadsText depthLimit text.toList with
    | .ok (.obj parsed) => pure (DocFields.setDefault parsed "message" (.str (codePoints text)))
    | .error (.raised error) => .error error
    | _ => do
      let normalized := text.toList.map fun c => if c = ';' ∨ c = ',' then ' ' else c
      let values ← (splitWords normalized).foldlM addWord []
      if values.isEmpty then pure [(codePoints "message", .str (codePoints text))]
      else pure (DocFields.setDefault values "message" (.str (codePoints text)))

/-! ### The status -/

/-- The recursion limit, and `str(value)` of floats, lists and objects. -/
structure Interpreter where
  depthLimit : ℕ
  repr : JsonDoc → String

/-- `str(value)`. -/
def Interpreter.str (py : Interpreter) : JsonDoc → String
  | .null => "None"
  | .bool value => if value then "True" else "False"
  | .int value => toString value
  | .str text => text.shown
  | value => py.repr value

/-- `str(value or ...)`, if it is the value that is shown. -/
def Interpreter.strOr (py : Interpreter) (value : JsonDoc) : Option String :=
  if value.truthy then some (py.str value) else none

/-- What `ingest_observation` reads of a payload. -/
def readStatus (py : Interpreter) : StatusReader := fun payload => do
  let status ← parseStatusPayload py.depthLimit payload
  let label :=
    if (status.value "label").truthy then status.value "label" else status.value "name"
  pure
    { message := py.strOr (status.value "message")
      label := match label with
        | .null => none
        | label => some (py.str label)
      kind := py.strOr (status.value "kind")
      x := coerceFloat (status.value "x")
      y := coerceFloat (status.value "y")
      battery := coerceInt (status.value "battery") }

/-! ### What raises -/

theorem statusValue_returns (raw : String) : ∃ value, statusValue raw = .ok value := by
  obtain ⟨-, intValue, hint⟩ | ⟨h, -⟩ := coerceInt_cases (.str (codePoints raw))
  · obtain ⟨-, floatValue, hfloat⟩ | ⟨h, -⟩ := coerceFloat_cases (.str (codePoints raw))
    · rw [statusValue, hint, Py.ok_bind, hfloat, Py.ok_bind]
      exact ⟨_, rfl⟩
    · exact h.elim
  · exact h.elim

theorem addWord_returns (values : DocFields) (token : List Char) :
    ∃ values', addWord values token = .ok values' := by
  obtain ⟨value, h⟩ := statusValue_returns (String.ofList
    (stripBy isSpace (token.drop ((token.takeWhile (· ≠ '=')).length + 1))))
  unfold addWord
  dsimp only
  rw [h, Py.ok_bind]
  split_ifs
  · exact ⟨values, Py.pure_eq_ok.2 rfl⟩
  · exact ⟨_, Py.pure_eq_ok.2 rfl⟩
  · exact ⟨_, Py.pure_eq_ok.2 rfl⟩

/-- A text of words raises nothing. -/
theorem foldlM_addWord_returns (tokens : List (List Char)) (values : DocFields) :
    ∃ values', tokens.foldlM addWord values = (.ok values' : Py DocFields) := by
  induction tokens generalizing values with
  | nil => exact ⟨values, rfl⟩
  | cons token tokens ih =>
    obtain ⟨values', h⟩ := addWord_returns values token
    rw [List.foldlM_cons, h, Py.ok_bind]
    exact ih values'

/-- `json.loads` of the text raises something else than `JSONDecodeError`. -/
def LoadsRaises (depthLimit : ℕ) (payload : Bytes) : Prop :=
  ∃ error, loadsText depthLimit (safeText payload).toList = .error (.raised error)

instance (depthLimit : ℕ) (payload : Bytes) : Decidable (LoadsRaises depthLimit payload) :=
  match h : loadsText depthLimit (safeText payload).toList with
  | .error (.raised error) => .isTrue ⟨error, h⟩
  | .error .notJson => .isFalse fun ⟨_, h'⟩ => nomatch h.symm.trans h'
  | .ok _ => .isFalse fun ⟨_, h'⟩ => nomatch h.symm.trans h'

/-- **`parse_status_payload` returns** unless `json.loads` raises. -/
theorem parseStatusPayload_cases (depthLimit : ℕ) (payload : Bytes) :
    (¬ LoadsRaises depthLimit payload ∧
        ∃ fields, parseStatusPayload depthLimit payload = .ok fields) ∨
      ∃ error, loadsText depthLimit (safeText payload).toList = .error (.raised error) ∧
        parseStatusPayload depthLimit payload = .error error := by
  unfold parseStatusPayload LoadsRaises
  dsimp only
  by_cases hempty : safeText payload = ""
  · refine Or.inl ⟨?_, [], if_pos hempty⟩
    rw [hempty]
    rintro ⟨error, h⟩
    cases h
  · rw [if_neg hempty]
    obtain ⟨values, hvalues⟩ := foldlM_addWord_returns (splitWords ((safeText payload).toList.map
      fun c => if c = ';' ∨ c = ',' then ' ' else c)) []
    rcases loadsText depthLimit (safeText payload).toList with
      (_ | error) | (_ | _ | _ | _ | _ | _ | parsed)
    case error.raised => exact Or.inr ⟨error, rfl, rfl⟩
    case ok.obj => exact Or.inl ⟨fun ⟨_, h⟩ => (by cases h), _, rfl⟩
    all_goals
      refine Or.inl ⟨fun ⟨_, h⟩ => (by cases h), ?_⟩
      dsimp only
      rw [hvalues, Py.ok_bind]
      split_ifs <;> exact ⟨_, rfl⟩

/-- A number of the status is one that `_coerce_float` or `_coerce_int` raises on. -/
def Overflows (depthLimit : ℕ) (payload : Bytes) : Prop :=
  ∃ fields, parseStatusPayload depthLimit payload = .ok fields ∧
    ((fields.value "x").BeyondDouble ∨ (fields.value "y").BeyondDouble ∨
      (fields.value "battery").Infinite)

instance (depthLimit : ℕ) (payload : Bytes) : Decidable (Overflows depthLimit payload) :=
  decidableExistsOk

theorem not_overflows_of_loadsRaises {depthLimit : ℕ} {payload : Bytes}
    (h : LoadsRaises depthLimit payload) : ¬ Overflows depthLimit payload := by
  rintro ⟨fields, hfields, -⟩
  obtain ⟨hloads, -⟩ | ⟨error, -, hparse⟩ := parseStatusPayload_cases depthLimit payload
  · exact hloads h
  · cases hparse.symm.trans hfields

/-- Where a number of the status raises, it raises `OverflowError`. -/
structure Status.OnlyOverflows (status : Status) : Prop where
  x : ∀ error, status.x = .error error → ∃ msg, error = .overflowError msg
  y : ∀ error, status.y = .error error → ∃ msg, error = .overflowError msg
  battery : ∀ error, status.battery = .error error → ∃ msg, error = .overflowError msg

/-- A number is read, or raises `OverflowError`. -/
theorem returns_iff_of_cases {α : Type} {bad : Prop} {x : Py α}
    (h : (¬ bad ∧ ∃ result, x = .ok result) ∨ (bad ∧ ∃ msg, x = .error (.overflowError msg))) :
    ((∃ result, x = .ok result) ↔ ¬ bad) ∧
      ∀ error, x = .error error → ∃ msg, error = .overflowError msg := by
  obtain ⟨hbad, result, rfl⟩ | ⟨hbad, msg, rfl⟩ := h
  · exact ⟨iff_of_true ⟨result, rfl⟩ hbad, fun error h => by cases h⟩
  · refine ⟨iff_of_false (Py.not_returns_error _) (not_not_intro hbad), fun error h => ?_⟩
    exact ⟨msg, (Except.error.inj h).symm⟩

/-- **A status is read** unless `json.loads` raises, and its numbers raise where they overflow. -/
theorem readStatus_cases (py : Interpreter) (payload : Bytes) :
    (LoadsRaises py.depthLimit payload ∧ ∃ error, readStatus py payload = .error error ∧
        ∀ msg, error ≠ .appFrameError msg) ∨
      (¬ LoadsRaises py.depthLimit payload ∧ ∃ status, readStatus py payload = .ok status ∧
        status.OnlyOverflows ∧ (status.Readable ↔ ¬ Overflows py.depthLimit payload)) := by
  obtain ⟨hloads, fields, h⟩ | ⟨error, hloads, h⟩ :=
    parseStatusPayload_cases py.depthLimit payload
  · obtain ⟨hx, hxError⟩ := returns_iff_of_cases (coerceFloat_cases (fields.value "x"))
    obtain ⟨hy, hyError⟩ := returns_iff_of_cases (coerceFloat_cases (fields.value "y"))
    obtain ⟨hbattery, hbatteryError⟩ :=
      returns_iff_of_cases (coerceInt_cases (fields.value "battery"))
    refine Or.inr ⟨hloads, ?_⟩
    rw [readStatus, h, Py.ok_bind]
    refine ⟨_, rfl, ⟨hxError, hyError, hbatteryError⟩, ?_, ?_⟩
    · rintro ⟨hxValue, hyValue, hbatteryValue⟩ ⟨fields', hfields', hbad⟩
      obtain rfl := Except.ok.inj (h.symm.trans hfields')
      exact hbad.elim (hx.1 hxValue) fun hbad => hbad.elim (hy.1 hyValue) (hbattery.1 hbatteryValue)
    · intro hno
      exact ⟨hx.2 fun hbad => hno ⟨fields, h, Or.inl hbad⟩,
        hy.2 fun hbad => hno ⟨fields, h, Or.inr (Or.inl hbad)⟩,
        hbattery.2 fun hbad => hno ⟨fields, h, Or.inr (Or.inr hbad)⟩⟩
  · refine Or.inl ⟨⟨error, hloads⟩, error, ?_, loadsText_raised hloads⟩
    rw [readStatus, h]
    rfl

end KovaWfb
