/-
# How long a document gets

A bound for the text that `json.dumps` writes on one line, computed from the value
(`length_dumpsValue_le`), and for its bytes.
-/

import KovaWfb.Python.JsonRoundTrip

namespace KovaWfb

/-- The length of a text in quotes. -/
def textSize (text : CodePoints) : ℕ := (text.map fun n => (escapeCodePoint n).length).sum + 2

mutual

/-- The length of a value's text, a separator counted behind every item. -/
def docSize (floatRepr : ℚ → List Char) (layout : JsonLayout) : JsonDoc → ℕ
  | .null => 4
  | .bool _ => 5
  | .int value => (decimalChars value).length
  | .float value => (dumpsFloat floatRepr value).length
  | .str text => textSize text
  | .arr items => itemsSize floatRepr layout items + 2
  | .obj fields => fieldsSize floatRepr layout fields + 2

/-- The items of a list. -/
def itemsSize (floatRepr : ℚ → List Char) (layout : JsonLayout) : List JsonDoc → ℕ
  | [] => 0
  | item :: rest => docSize floatRepr layout item + (layout.itemSpaces + 1) +
      itemsSize floatRepr layout rest

/-- The fields of an object. -/
def fieldsSize (floatRepr : ℚ → List Char) (layout : JsonLayout) :
    List (CodePoints × JsonDoc) → ℕ
  | [] => 0
  | field :: rest => fieldSize floatRepr layout field + (layout.itemSpaces + 1) +
      fieldsSize floatRepr layout rest

/-- A key and its value. -/
def fieldSize (floatRepr : ℚ → List Char) (layout : JsonLayout) : CodePoints × JsonDoc → ℕ
  | (key, value) => textSize key + (layout.keySpaces + 1) + docSize floatRepr layout value

end

theorem length_dumpsText (text : CodePoints) : (dumpsText text).length = textSize text := by
  rw [dumpsText, List.length_append, List.length_cons, List.length_flatMap, textSize]
  rfl

section

variable {w : JsonWriter} {layout : JsonLayout}

theorem length_separator (hline : layout.indent = none) (level : ℕ) :
    (layout.separator level).length = layout.itemSpaces + 1 := by
  simp only [JsonLayout.separator, JsonLayout.newline, hline, List.append_nil, List.length_cons,
    List.length_replicate]

mutual

/-- **The text of a value is no longer than its size.** -/
theorem length_dumpsValue_le (hline : layout.indent = none) : ∀ (value : JsonDoc) {level : ℕ}
    {text : List Char}, dumpsValue w layout level value = .ok text →
      text.length ≤ docSize w.floatRepr layout value
  | .null, _, _, h => by
    obtain rfl := Py.pure_eq_ok.mp h
    exact le_rfl
  | .bool value, _, _, h => by
    obtain rfl := Py.pure_eq_ok.mp h
    cases value <;> rw [docSize] <;> decide
  | .int value, _, _, h => by
    rw [dumpsValue, dumpsInt, Py.raiseIf_bind_eq_ok, Py.pure_eq_ok] at h
    obtain ⟨-, rfl⟩ := h
    exact le_rfl
  | .float value, _, _, h => by
    obtain rfl := Py.pure_eq_ok.mp h
    exact le_rfl
  | .str text, _, _, h => by
    obtain rfl := Py.pure_eq_ok.mp h
    exact (length_dumpsText text).le
  | .arr items, _, _, h => by
    rw [dumpsValue, dumpsBracketed_eq_ok] at h
    obtain ⟨-, inside, hinside, rfl⟩ := h
    have hitems := length_dumpsItems_le hline items hinside
    simp only [JsonLayout.newline, hline, List.append_nil]
    rw [docSize]
    split_ifs
    · rw [List.length_cons, List.length_singleton]
      omega
    · rw [List.length_append, List.length_append, List.length_singleton, List.length_singleton]
      omega
  | .obj fields, _, _, h => by
    rw [dumpsValue, dumpsBracketed_eq_ok] at h
    obtain ⟨-, inside, hinside, rfl⟩ := h
    have hfields := length_dumpsFields_le hline fields hinside
    simp only [JsonLayout.newline, hline, List.append_nil]
    rw [docSize]
    split_ifs
    · rw [List.length_cons, List.length_singleton]
      omega
    · rw [List.length_append, List.length_append, List.length_singleton, List.length_singleton]
      omega

theorem length_dumpsItems_le (hline : layout.indent = none) : ∀ (items : List JsonDoc) {level : ℕ}
    {text : List Char}, dumpsItems w layout level items = .ok text →
      text.length ≤ itemsSize w.floatRepr layout items
  | [], _, _, h => by
    obtain rfl := Py.pure_eq_ok.mp h
    exact Nat.zero_le _
  | item :: items, level, _, h => by
    simp only [dumpsItems, Py.bind_eq_ok, Py.pure_eq_ok] at h
    obtain ⟨text, htext, more, hmore, rfl⟩ := h
    have hitem := length_dumpsValue_le hline item htext
    have hitems := length_dumpsItems_le hline items hmore
    have hseparator := length_separator hline level
    rw [itemsSize, List.length_append]
    split_ifs
    · rw [List.length_nil]
      omega
    · rw [List.length_append]
      omega

theorem length_dumpsFields_le (hline : layout.indent = none) :
    ∀ (fields : List (CodePoints × JsonDoc)) {level : ℕ} {text : List Char},
      dumpsFields w layout level fields = .ok text →
        text.length ≤ fieldsSize w.floatRepr layout fields
  | [], _, _, h => by
    obtain rfl := Py.pure_eq_ok.mp h
    exact Nat.zero_le _
  | (key, value) :: fields, level, _, h => by
    simp only [dumpsFields, dumpsField, Py.bind_eq_ok, Py.pure_eq_ok] at h
    obtain ⟨_, ⟨text, htext, rfl⟩, more, hmore, rfl⟩ := h
    have hvalue := length_dumpsValue_le hline value htext
    have hfields := length_dumpsFields_le hline fields hmore
    have hseparator := length_separator hline level
    have hkey := length_dumpsText key
    rw [fieldsSize, fieldSize]
    split_ifs <;> simp only [List.length_append, List.length_cons, List.length_replicate,
      List.length_nil] <;> omega

end

end

theorem length_utf8Bytes_le (n : ℕ) : (utf8Bytes n).length ≤ 4 := by
  unfold utf8Bytes
  dsimp only
  split_ifs <;> simp

/-- At most four bytes a character. -/
theorem length_encodeChars_le (text : List Char) : (encodeChars text).length ≤ 4 * text.length := by
  induction text with
  | nil => exact le_rfl
  | cons c cs ih =>
    have hc := length_utf8Bytes_le c.toNat
    rw [encodeChars, List.flatMap_cons, List.length_append, List.length_cons, ← encodeChars]
    omega

/-- **The bytes of a value.** -/
theorem length_dumps_le {w : JsonWriter} {layout : JsonLayout} (hline : layout.indent = none)
    {value : JsonDoc} {data : Bytes} (h : dumps w layout value = .ok data) :
    data.length ≤ 4 * docSize w.floatRepr layout value := by
  obtain ⟨text, htext, h⟩ := Py.bind_eq_ok.mp h
  obtain rfl := Py.pure_eq_ok.mp h
  have hbytes := length_encodeChars_le text
  have hsize := length_dumpsValue_le hline value htext
  omega

end KovaWfb
