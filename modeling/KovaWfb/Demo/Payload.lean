/-
# Objects that a program writes for the dashboard

`demo/node_status_tx.py` and `sim_loop` of `demo/dashboard_server.py` write a status with
`json.dumps`, and `parse_status_payload` takes the text off its spaces and reads it
(`parseStatusPayload_of_dumps`).
-/

import KovaWfb.Demo.Status
import KovaWfb.Python.LoadsPlain

namespace KovaWfb

section

variable {w : JsonWriter} {layout : JsonLayout} {depthLimit : ℕ} {payload : Bytes}

/-- Where an object is written, every value in it is. -/
theorem dumpsValue_of_mem_fields {level : ℕ} {fields : DocFields} {text : List Char}
    (h : dumpsFields w layout level fields = .ok text) {key : CodePoints} {value : JsonDoc}
    (hmem : (key, value) ∈ fields) : ∃ text, dumpsValue w layout level value = .ok text := by
  induction fields generalizing text with
  | nil => exact absurd hmem List.not_mem_nil
  | cons field rest ih =>
    obtain ⟨first, hfirst, h⟩ := Py.bind_eq_ok.mp h
    obtain ⟨more, hmore, -⟩ := Py.bind_eq_ok.mp h
    obtain rfl | hrest := List.mem_cons.mp hmem
    · obtain ⟨text, htext, -⟩ := Py.bind_eq_ok.mp hfirst
      exact ⟨text, htext⟩
    · exact ih hmore hrest

/-- An integer that is written has at most 4300 digits. -/
theorem digits_of_dumpsInt {value : ℤ} (h : ∃ text, dumpsInt value = .ok text) :
    (Nat.toDigits 10 value.natAbs).length ≤ 4300 := by
  obtain ⟨text, h⟩ := h
  exact not_lt.mp (Py.raiseIf_bind_eq_ok.mp h).1

/-- A text between braces has no space at its ends. -/
theorem strip_braces (inside : List Char) :
    strip (String.ofList ('{' :: inside ++ ['}'])) = String.ofList ('{' :: inside ++ ['}']) := by
  have hopen : isSpace '{' = false := by decide
  have hclose : isSpace '}' = false := by decide
  rw [strip, String.toList_ofList, stripBy, List.cons_append, List.dropWhile_cons_of_neg
    (by simp [hopen]), ← List.cons_append, List.reverse_append, List.reverse_singleton,
    List.singleton_append, List.dropWhile_cons_of_neg (by simp [hclose]), List.reverse_cons,
    List.reverse_reverse]

/-- **An object that is written is read back** from its text without the spaces around it. -/
theorem loadsText_of_dumps {fields : DocFields} (hne : fields ≠ [])
    (hplain : (JsonDoc.obj fields).Plain w.floatRepr)
    (hwrite : (JsonDoc.obj fields).depth ≤ w.depthLimit)
    (hread : (JsonDoc.obj fields).depth ≤ depthLimit)
    (h : dumps w .compact (.obj fields) = .ok payload) :
    safeText payload ≠ "" ∧
      loadsText depthLimit (safeText payload).toList = .ok (.obj fields) := by
  obtain ⟨text, htext, hpayload⟩ := Py.bind_eq_ok.mp h
  obtain ⟨-, inside, -, hbraces⟩ := dumpsBracketed_eq_ok.mp htext
  rw [List.isEmpty_eq_false_iff.mpr hne] at hbraces
  have htext' : '{' :: inside ++ ['}'] = text := by
    rw [← hbraces]
    simp [JsonLayout.newline, JsonLayout.compact]
  obtain ⟨data, hdata, hloads⟩ := @loads_dumps w .compact depthLimit _ hplain hwrite hread
  obtain rfl := Except.ok.inj (hdata.symm.trans h)
  rw [← Py.pure_eq_ok.mp hpayload, loads, decodeUtf8_encodeChars] at hloads
  have hsafe : safeText data = String.ofList text := by
    rw [safeText, ← Py.pure_eq_ok.mp hpayload, decodeUtf8Replace_encodeChars, ← htext',
      strip_braces]
  rw [hsafe, String.toList_ofList]
  refine ⟨?_, hloads⟩
  rw [← htext']
  simp

/-- **`parse_status_payload` reads it back**, when it has a message. -/
theorem parseStatusPayload_of_dumps {fields : DocFields} (hmessage : (fields.get "message").isSome)
    (hplain : (JsonDoc.obj fields).Plain w.floatRepr)
    (hwrite : (JsonDoc.obj fields).depth ≤ w.depthLimit)
    (hread : (JsonDoc.obj fields).depth ≤ depthLimit)
    (h : dumps w .compact (.obj fields) = .ok payload) :
    parseStatusPayload depthLimit payload = .ok fields := by
  have hne : fields ≠ [] := by
    rintro rfl
    cases hmessage
  obtain ⟨hnonempty, hloads⟩ := loadsText_of_dumps hne hplain hwrite hread h
  unfold parseStatusPayload
  dsimp only
  rw [hloads, if_neg hnonempty]
  dsimp only
  rw [DocFields.setDefault, if_pos hmessage]
  rfl

end

theorem truthy_codePoints (text : String) :
    (JsonDoc.str (codePoints text)).truthy = !decide (text = "") := by
  have hempty : (text.toList.map Char.toNat).isEmpty = decide (text = "") := by
    rw [Bool.eq_iff_iff, List.isEmpty_iff, List.map_eq_nil_iff, decide_eq_true_iff,
      String.toList_eq_nil_iff]
  rw [JsonDoc.truthy, codePoints, hempty]

theorem strOr_codePoints {py : Interpreter} (text : String) :
    py.strOr (.str (codePoints text)) = if text = "" then none else some text := by
  rw [Interpreter.strOr, truthy_codePoints, Interpreter.str, shown_codePoints]
  by_cases h : text = "" <;> simp [h]

end KovaWfb
