/-
# `json.loads` reads back what `json.dumps` wrote

The text of a value is cut into the tokens of the value (`tokens_dumpsValue`), in every
layout: a number ends where the separator, the new line or the bracket behind it starts.
The tokens drive the machine to the value (`parseTokens_docTokens`), whatever list or
object is open around it.  `loads_dumps` puts the two together.
-/

import KovaWfb.Python.Dumps

namespace KovaWfb

/-! ### Numerals -/

theorem isDigit_iff {c : Char} : isDigit c = true ↔ 0x30 ≤ c.toNat ∧ c.toNat ≤ 0x39 := by
  rw [isDigit, Bool.and_eq_true, decide_eq_true_eq, decide_eq_true_eq, Char.le_def, Char.le_def,
    UInt32.le_iff_toNat_le, UInt32.le_iff_toNat_le]
  rfl

/-- Only zero starts with the digit zero. -/
theorem toDigits_head {n : ℕ} (hn : 0 < n) : ∃ c cs, Nat.toDigits 10 n = c :: cs ∧ c ≠ '0' := by
  induction n using Nat.strongRecOn with
  | ind n ih =>
    rw [Nat.toDigits_eq_if (by omega)]
    split_ifs with hsmall
    · refine ⟨_, [], rfl, ?_⟩
      interval_cases n <;> decide
    · obtain ⟨c, cs, heq, hc⟩ := ih (n / 10) (by omega) (by omega)
      exact ⟨c, cs ++ [_], by rw [heq, List.cons_append], hc⟩

/-- What `int(text)` makes of digits. -/
theorem parseDigits_of_digits {cs : List Char} (hcs : ∀ c ∈ cs, 0x30 ≤ c.toNat ∧ c.toNat ≤ 0x39)
    (hne : cs ≠ []) (acc : ℕ) : parseDigits 10 cs acc = some (Nat.ofDigitChars 10 cs acc) := by
  have hdigit : ∀ c : Char, 0x30 ≤ c.toNat ∧ c.toNat ≤ 0x39 →
      digitValue c = some (c.toNat - 0x30) := fun c hc => by rw [digitValue, if_pos hc]
  induction cs generalizing acc with
  | nil => exact absurd rfl hne
  | cons c cs ih =>
    rw [List.forall_mem_cons] at hcs
    rw [Nat.ofDigitChars_cons]
    cases cs with
    | nil =>
      rw [parseDigits, hdigit c hcs.1]
      dsimp only
      rw [if_pos (by omega), Nat.ofDigitChars_nil, Nat.mul_comm]
      rfl
    | cons next cs =>
      have hnext := (List.forall_mem_cons.mp hcs.2).1
      rw [parseDigits, hdigit c hcs.1]
      · dsimp only
        rw [if_pos (by omega), ih hcs.2 (List.cons_ne_nil _ _), Nat.mul_comm]
        rfl
      · rintro rfl
        exact absurd hnext (by decide)

theorem stripBy_of_none {p : Char → Bool} {cs : List Char} (h : ∀ c ∈ cs, p c = false) :
    stripBy p cs = cs := by
  have hdrop : ∀ cs : List Char, (∀ c ∈ cs, p c = false) → cs.dropWhile p = cs := by
    intro cs h
    cases cs with
    | nil => rfl
    | cons c cs => rw [List.dropWhile_cons_of_neg (by rw [h c List.mem_cons_self]; decide)]
  rw [stripBy, hdrop cs h, hdrop _ fun c hc => h c (List.mem_reverse.mp hc), List.reverse_reverse]

/-- `parseDecimal` reads back the digits of a number. -/
theorem parseDecimal_toDigits {n : ℕ} (h : (Nat.toDigits 10 n).length ≤ 4300) :
    parseDecimal (Nat.toDigits 10 n) = some n := by
  have hfilter : (Nat.toDigits 10 n).filter (· != '_') = Nat.toDigits 10 n := by
    refine List.filter_eq_self.mpr fun c hc => ?_
    rw [bne_iff_ne]
    rintro rfl
    exact Nat.underscore_not_in_toDigits hc
  rw [parseDecimal, hfilter, if_neg (by omega),
    parseDigits_of_digits (fun c hc => isDigit_of_mem_toDigits hc) Nat.toDigits_ne_nil,
    Nat.ofDigitChars_ten_toDigits]

/-- **`int(text)` reads back a decimal text** of at most 4300 digits. -/
theorem intBase10_decimalChars {value : ℤ}
    (h : (Nat.toDigits 10 value.natAbs).length ≤ 4300) :
    intBase10 (String.ofList (decimalChars value)) = some value := by
  have hmap : (decimalChars value).map toAsciiNumeral = decimalChars value := by
    refine (List.map_congr_left fun c hc => ?_).trans (List.map_id _)
    rw [toAsciiNumeral, if_pos, id]
    rcases mem_decimalChars hc with rfl | hdigit
    · decide
    · omega
  have hspace : ∀ c ∈ decimalChars value, isAsciiSpace c = false := by
    intro c hc
    rcases mem_decimalChars hc with rfl | hdigit
    · decide
    · rw [isAsciiSpace, Bool.or_eq_false_iff]
      simp only [Bool.and_eq_false_iff, decide_eq_false_iff_not, beq_eq_false_iff_ne]
      omega
  rw [intBase10, String.toList_ofList, hmap, stripBy_of_none hspace, decimalChars]
  split_ifs with hneg
  · rw [parseSigned, parseDecimal_toDigits h]
    exact congrArg some (show -(value.natAbs : ℤ) = value by omega)
  · rw [parseSigned, parseDecimal_toDigits h]
    · exact congrArg some (show (value.natAbs : ℤ) = value by omega)
    · intro cs hcs
      exact absurd (isDigit_of_mem_toDigits (hcs ▸ List.mem_cons_self)) (by decide)
    · intro cs hcs
      exact absurd (isDigit_of_mem_toDigits (hcs ▸ List.mem_cons_self)) (by decide)

/-- What may stand behind a number. -/
def NumberEnd (rest : List Char) : Prop :=
  ∀ c ∈ rest.head?, isDigit c = false ∧ c ≠ '.' ∧ c ≠ 'e' ∧ c ≠ 'E'

theorem takeWhile_digits {n : ℕ} {rest : List Char} (hrest : NumberEnd rest) :
    (Nat.toDigits 10 n ++ rest).takeWhile isDigit = Nat.toDigits 10 n := by
  rw [List.takeWhile_append_of_pos fun c hc => isDigit_iff.mpr (isDigit_of_mem_toDigits hc)]
  cases rest with
  | nil => rw [List.takeWhile_nil, List.append_nil]
  | cons c rest =>
    rw [List.takeWhile_cons_of_neg (by rw [(hrest c rfl).1]; decide), List.append_nil]

theorem scanFraction_of_end {rest : List Char} (hrest : NumberEnd rest) : scanFraction rest = [] := by
  cases rest with
  | nil => rfl
  | cons c rest =>
    rw [scanFraction]
    rintro cs h
    exact (hrest c rfl).2.1 (List.cons.inj h).1

theorem scanExponent_of_end {rest : List Char} (hrest : NumberEnd rest) :
    scanExponent rest = none := by
  cases rest with
  | nil => rfl
  | cons c rest =>
    unfold scanExponent
    exact if_neg (not_or.mpr (hrest c rfl).2.2)

/-- **Digits are read as an integer** in front of anything that does not go on with the
number. -/
theorem scanNumber_digits {negative : Bool} {n : ℕ} {rest : List Char} (hrest : NumberEnd rest) :
    scanNumber negative (Nat.toDigits 10 n ++ rest) =
      (.int (String.ofList (if negative then '-' :: Nat.toDigits 10 n else Nat.toDigits 10 n)),
        (Nat.toDigits 10 n).length) := by
  rcases Nat.eq_zero_or_pos n with rfl | hn
  · rw [Nat.toDigits_zero, List.singleton_append, scanNumber]
    dsimp only
    rw [if_neg (List.cons_ne_nil _ _), List.length_singleton, List.drop_one, List.tail_cons,
      scanFraction_of_end hrest, if_pos rfl, List.drop_zero, scanExponent_of_end hrest]
    rfl
  · obtain ⟨c, cs, heq, hc⟩ := toDigits_head hn
    have hwhole := takeWhile_digits (n := n) hrest
    rw [heq, List.cons_append] at hwhole
    rw [heq, List.cons_append, scanNumber]
    · dsimp only
      rw [hwhole, if_neg (List.cons_ne_nil _ _), ← List.cons_append, List.drop_left,
        scanFraction_of_end hrest, if_pos rfl, List.drop_zero, scanExponent_of_end hrest]
      rfl
    · rintro tail h
      exact hc (List.cons.inj h).1

theorem digit_cases {c : Char} (hc : isDigit c = true) :
    c ∈ ['0', '1', '2', '3', '4', '5', '6', '7', '8', '9'] := by
  obtain ⟨hlow, hhigh⟩ := isDigit_iff.mp hc
  have hback := Char.ofNat_toNat c
  generalize c.toNat = n at hlow hhigh hback
  subst hback
  interval_cases n <;> decide

/-- No constant starts with a digit. -/
theorem tokenAt_digit {c : Char} (hc : isDigit c = true) (cs : List Char) :
    tokenAt c cs = (some (scanNumber false (c :: cs)).1, (scanNumber false (c :: cs)).2 - 1) := by
  have hcases := digit_cases hc
  simp only [List.mem_cons, List.not_mem_nil, or_false] at hcases
  rcases hcases with rfl | rfl | rfl | rfl | rfl | rfl | rfl | rfl | rfl | rfl <;> rfl

theorem tokenAt_minus {c : Char} (hc : isDigit c = true) (cs : List Char) :
    tokenAt '-' (c :: cs) = (some (scanNumber true (c :: cs)).1, (scanNumber true (c :: cs)).2) := by
  have hcases := digit_cases hc
  simp only [List.mem_cons, List.not_mem_nil, or_false] at hcases
  rcases hcases with rfl | rfl | rfl | rfl | rfl | rfl | rfl | rfl | rfl | rfl <;> rfl

/-! ### Tokens -/

/-- Characters that belong to the token before are passed over. -/
theorem tokens_skip (token rest : List Char) : tokens token.length (token ++ rest) = tokens 0 rest := by
  induction token with
  | nil => rfl
  | cons c token ih => exact ih

theorem tokens_token {c : Char} {cs rest : List Char} {token : JsonToken}
    (h : tokenAt c (cs ++ rest) = (some token, cs.length)) :
    tokens 0 (c :: cs ++ rest) = token :: tokens 0 rest := by
  rw [List.cons_append, tokens, h]
  exact congrArg (token :: ·) (tokens_skip cs rest)

theorem tokens_spaces (n : ℕ) (rest : List Char) :
    tokens 0 (List.replicate n ' ' ++ rest) = tokens 0 rest := by
  induction n with
  | zero => rfl
  | succ n ih => exact ih

theorem tokens_newline (layout : JsonLayout) (level : ℕ) (rest : List Char) :
    tokens 0 (layout.newline level ++ rest) = tokens 0 rest := by
  unfold JsonLayout.newline
  cases layout.indent with
  | none => rfl
  | some n => exact tokens_spaces _ rest

theorem tokens_separator (layout : JsonLayout) (level : ℕ) (rest : List Char) :
    tokens 0 (layout.separator level ++ rest) = .comma :: tokens 0 rest := by
  rw [JsonLayout.separator, List.append_assoc, List.cons_append]
  show JsonToken.comma :: tokens 0 _ = _
  rw [tokens_spaces, tokens_newline]

theorem tokenAt_quote {cs : List Char} {units : List ℕ} {count : ℕ}
    (h : scanString cs = some (units, count)) :
    tokenAt '"' cs = (some (.str (joinSurrogates units)), count) := by
  simp [tokenAt, jsonConstants, h]

theorem tokens_dumpsText {text : CodePoints} (h : text.Plain) (rest : List Char) :
    tokens 0 (dumpsText text ++ rest) = .str text :: tokens 0 rest := by
  have hscan : tokenAt '"' (text.flatMap escapeCodePoint ++ ['"'] ++ rest) =
      (some (.str text), (text.flatMap escapeCodePoint ++ ['"']).length) := by
    rw [List.append_assoc, List.singleton_append, tokenAt_quote (scanString_dumpsText h.codePoint rest),
      joinSurrogates_utf16Units h, List.length_append]
    rfl
  exact tokens_token hscan

theorem tokens_decimalChars {value : ℤ} {rest : List Char} (hrest : NumberEnd rest) :
    tokens 0 (decimalChars value ++ rest) =
      .int (String.ofList (decimalChars value)) :: tokens 0 rest := by
  obtain ⟨c, cs, heq⟩ := List.exists_cons_of_ne_nil
    (Nat.toDigits_ne_nil (n := value.natAbs) (b := 10))
  have hc : isDigit c = true := isDigit_iff.mpr (isDigit_of_mem_toDigits (heq ▸ List.mem_cons_self))
  have hscan : ∀ negative, scanNumber negative (Nat.toDigits 10 value.natAbs ++ rest) = _ :=
    fun negative => scanNumber_digits hrest
  rw [heq] at hscan
  unfold decimalChars
  split_ifs with hneg
  · rw [heq]
    refine tokens_token ?_
    rw [List.cons_append, tokenAt_minus hc, ← List.cons_append, hscan]
    rfl
  · rw [heq]
    refine tokens_token ?_
    rw [tokenAt_digit hc, ← List.cons_append, hscan]
    rfl

mutual

/-- The tokens of a value. -/
def docTokens : JsonDoc → List JsonToken
  | .null => [.value .null]
  | .bool value => [.value (.bool value)]
  | .int value => [.int (String.ofList (decimalChars value))]
  | .float value => [.value (.float value)]
  | .str text => [.str text]
  | .arr items => .openArray :: (itemsTokens items ++ [.closeArray])
  | .obj fields => .openObject :: (fieldsTokens fields ++ [.closeObject])

/-- The tokens between the brackets of a list. -/
def itemsTokens : List JsonDoc → List JsonToken
  | [] => []
  | item :: rest => docTokens item ++ if rest.isEmpty then [] else .comma :: itemsTokens rest

/-- The tokens between the brackets of an object. -/
def fieldsTokens : List (CodePoints × JsonDoc) → List JsonToken
  | [] => []
  | field :: rest => fieldTokens field ++ if rest.isEmpty then [] else .comma :: fieldsTokens rest

/-- The tokens of a key and its value. -/
def fieldTokens : CodePoints × JsonDoc → List JsonToken
  | (key, value) => .str key :: .colon :: docTokens value

end

/-- The scanner reads what `float.__repr__` writes of a number. -/
def ReadsBack (floatRepr : ℚ → List Char) (value : ℚ) : Prop :=
  ∀ rest, NumberEnd rest →
    tokens 0 (floatRepr value ++ rest) = .value (.float (.finite value)) :: tokens 0 rest

mutual

/-- A value whose texts are plain, whose integers have at most 4300 digits, whose objects
have each key once and whose floats read back. -/
def JsonDoc.Plain (floatRepr : ℚ → List Char) : JsonDoc → Prop
  | .null => True
  | .bool _ => True
  | .int value => (Nat.toDigits 10 value.natAbs).length ≤ 4300
  | .float value => ∀ q, value = .finite q → ReadsBack floatRepr q
  | .str text => text.Plain
  | .arr items => ItemsPlain floatRepr items
  | .obj fields => (fields.map Prod.fst).Nodup ∧ FieldsPlain floatRepr fields

/-- Every item is plain. -/
def ItemsPlain (floatRepr : ℚ → List Char) : List JsonDoc → Prop
  | [] => True
  | item :: rest => item.Plain floatRepr ∧ ItemsPlain floatRepr rest

/-- Every field is plain. -/
def FieldsPlain (floatRepr : ℚ → List Char) : List (CodePoints × JsonDoc) → Prop
  | [] => True
  | field :: rest => FieldPlain floatRepr field ∧ FieldsPlain floatRepr rest

/-- The key and its value are plain. -/
def FieldPlain (floatRepr : ℚ → List Char) : CodePoints × JsonDoc → Prop
  | (key, value) => key.Plain ∧ value.Plain floatRepr

end

section

variable {w : JsonWriter} {layout : JsonLayout}

theorem numberEnd_cons {c : Char} {rest : List Char}
    (h : isDigit c = false ∧ c ≠ '.' ∧ c ≠ 'e' ∧ c ≠ 'E') : NumberEnd (c :: rest) := by
  intro c' hc'
  obtain rfl := Option.some.inj hc'
  exact h

theorem numberEnd_newline {level : ℕ} {rest : List Char} (h : NumberEnd rest) :
    NumberEnd (layout.newline level ++ rest) := by
  unfold JsonLayout.newline
  cases layout.indent with
  | none => exact h
  | some n => exact numberEnd_cons (by decide)

theorem numberEnd_separator {level : ℕ} {rest : List Char} :
    NumberEnd (layout.separator level ++ rest) := numberEnd_cons (by decide)

/-- **What is written for a list or an object.** -/
theorem dumpsBracketed_eq_ok {level : ℕ} {left right : Char} {isEmpty : Bool}
    {body : Py (List Char)} {text : List Char} :
    dumpsBracketed w layout level left right isEmpty body = .ok text ↔
      level < w.depthLimit ∧ ∃ inside, body = .ok inside ∧
        (if isEmpty then [left, right]
          else left :: layout.newline (level + 1) ++ inside ++ layout.newline level ++ [right]) =
          text := by
  simp only [dumpsBracketed, Py.bind_eq_ok, raiseIf_eq_ok, Py.pure_eq_ok, not_le, exists_const]

/-- The tokens of a list or an object are those between the brackets. -/
theorem tokens_bracketed {level : ℕ} {left right : Char} {isEmpty : Bool} {inside text : List Char}
    {opening closing : JsonToken} {between : List JsonToken}
    (htext : (if isEmpty then [left, right]
      else left :: layout.newline (level + 1) ++ inside ++ layout.newline level ++ [right]) = text)
    (hleft : ∀ rest, tokens 0 (left :: rest) = opening :: tokens 0 rest)
    (hright : ∀ rest, tokens 0 (right :: rest) = closing :: tokens 0 rest)
    (hend : ∀ rest, NumberEnd (right :: rest)) (hempty : isEmpty = true → between = [])
    (hinside : ∀ rest, NumberEnd rest → tokens 0 (inside ++ rest) = between ++ tokens 0 rest)
    (rest : List Char) :
    tokens 0 (text ++ rest) = opening :: (between ++ [closing]) ++ tokens 0 rest := by
  subst htext
  split_ifs with h
  · rw [hempty h, List.cons_append, hleft, List.singleton_append, hright]
    rfl
  · simp only [List.cons_append, List.append_assoc, List.nil_append]
    rw [hleft, tokens_newline, hinside _ (numberEnd_newline (hend rest)), tokens_newline, hright]

mutual

/-- **The text of a value is cut into the tokens of the value.** -/
theorem tokens_dumpsValue : ∀ (value : JsonDoc) {level : ℕ} {text rest : List Char},
    value.Plain w.floatRepr → dumpsValue w layout level value = .ok text → NumberEnd rest →
      tokens 0 (text ++ rest) = docTokens value ++ tokens 0 rest
  | .null, _, _, _, _, h, _ => by
    obtain rfl := Py.pure_eq_ok.mp h
    rfl
  | .bool true, _, _, _, _, h, _ => by
    obtain rfl := Py.pure_eq_ok.mp h
    rfl
  | .bool false, _, _, _, _, h, _ => by
    obtain rfl := Py.pure_eq_ok.mp h
    rfl
  | .int value, _, _, _, _, h, hrest => by
    rw [dumpsValue, dumpsInt, Py.raiseIf_bind_eq_ok, Py.pure_eq_ok] at h
    obtain ⟨-, rfl⟩ := h
    exact tokens_decimalChars hrest
  | .float value, _, _, _, hplain, h, hrest => by
    obtain rfl := Py.pure_eq_ok.mp h
    cases value with
    | finite q => exact hplain q rfl _ hrest
    | infinite negative => cases negative <;> rfl
    | nan => rfl
  | .str text, _, _, _, hplain, h, _ => by
    obtain rfl := Py.pure_eq_ok.mp h
    exact tokens_dumpsText hplain _
  | .arr items, _, _, _, hplain, h, _ => by
    rw [dumpsValue, dumpsBracketed_eq_ok] at h
    obtain ⟨-, inside, hinside, htext⟩ := h
    refine tokens_bracketed htext (fun _ => rfl) (fun _ => rfl)
      (fun _ => numberEnd_cons (by decide)) ?_
      (fun _ hrest => tokens_dumpsItems items hplain hinside hrest) _
    intro hempty
    rw [List.isEmpty_iff.mp hempty, itemsTokens]
  | .obj fields, _, _, _, hplain, h, _ => by
    rw [dumpsValue, dumpsBracketed_eq_ok] at h
    obtain ⟨-, inside, hinside, htext⟩ := h
    refine tokens_bracketed htext (fun _ => rfl) (fun _ => rfl)
      (fun _ => numberEnd_cons (by decide)) ?_
      (fun _ hrest => tokens_dumpsFields fields hplain.2 hinside hrest) _
    intro hempty
    rw [List.isEmpty_iff.mp hempty, fieldsTokens]

theorem tokens_dumpsItems : ∀ (items : List JsonDoc) {level : ℕ} {text rest : List Char},
    ItemsPlain w.floatRepr items → dumpsItems w layout level items = .ok text → NumberEnd rest →
      tokens 0 (text ++ rest) = itemsTokens items ++ tokens 0 rest
  | [], _, _, _, _, h, _ => by
    obtain rfl := Py.pure_eq_ok.mp h
    rfl
  | item :: items, _, _, _, hplain, h, hrest => by
    simp only [dumpsItems, Py.bind_eq_ok, Py.pure_eq_ok] at h
    obtain ⟨text, htext, more, hmore, rfl⟩ := h
    rw [itemsTokens, List.append_assoc, List.append_assoc]
    split_ifs with hlast
    · exact tokens_dumpsValue item hplain.1 htext hrest
    · rw [List.append_assoc, tokens_dumpsValue item hplain.1 htext numberEnd_separator,
        tokens_separator, tokens_dumpsItems items hplain.2 hmore hrest]
      rfl

theorem tokens_dumpsFields : ∀ (fields : List (CodePoints × JsonDoc)) {level : ℕ}
    {text rest : List Char}, FieldsPlain w.floatRepr fields →
      dumpsFields w layout level fields = .ok text → NumberEnd rest →
      tokens 0 (text ++ rest) = fieldsTokens fields ++ tokens 0 rest
  | [], _, _, _, _, h, _ => by
    obtain rfl := Py.pure_eq_ok.mp h
    rfl
  | field :: fields, _, _, _, hplain, h, hrest => by
    simp only [dumpsFields, Py.bind_eq_ok, Py.pure_eq_ok] at h
    obtain ⟨text, htext, more, hmore, rfl⟩ := h
    rw [fieldsTokens, List.append_assoc, List.append_assoc]
    split_ifs with hlast
    · exact tokens_dumpsField field hplain.1 htext hrest
    · rw [List.append_assoc, tokens_dumpsField field hplain.1 htext numberEnd_separator,
        tokens_separator, tokens_dumpsFields fields hplain.2 hmore hrest]
      rfl

theorem tokens_dumpsField : ∀ (field : CodePoints × JsonDoc) {level : ℕ} {text rest : List Char},
    FieldPlain w.floatRepr field → dumpsField w layout level field = .ok text → NumberEnd rest →
      tokens 0 (text ++ rest) = fieldTokens field ++ tokens 0 rest
  | (key, value), _, _, rest, hplain, h, hrest => by
    simp only [dumpsField, Py.bind_eq_ok, Py.pure_eq_ok] at h
    obtain ⟨text, htext, rfl⟩ := h
    rw [List.append_assoc, List.append_assoc, tokens_dumpsText hplain.1, List.cons_append]
    show JsonToken.str key :: .colon :: tokens 0 _ = _
    rw [tokens_spaces, tokens_dumpsValue value hplain.2 htext hrest]
    rfl

end

end

/-! ### The machine -/

section

variable {w : JsonWriter} {layout : JsonLayout} {depthLimit : ℕ}

/-- A new key is appended. -/
theorem DocFields.set_of_notMem {fields : DocFields} {key : CodePoints} {value : JsonDoc}
    (h : key ∉ fields.map Prod.fst) : fields.set key value = fields ++ [(key, value)] := by
  induction fields with
  | nil => rfl
  | cons field rest ih =>
    rw [List.map_cons, List.mem_cons, not_or] at h
    rw [DocFields.set, if_neg (Ne.symm h.1), ih h.2, List.cons_append]

theorem parseTokens_step {scan scan' : JsonScan} {token : JsonToken} {rest : List JsonToken}
    (h : jsonStep depthLimit scan token = .ok scan') :
    parseTokens depthLimit scan (token :: rest) = parseTokens depthLimit scan' rest := by
  obtain ⟨mode, stack⟩ := scan
  cases mode <;> rw [parseTokens, h]

/-- What opens a list or an object is pushed while the stack is low enough. -/
theorem pushFrame_of_lt {mode : JsonMode} {frame : JsonFrame} {stack : List JsonFrame}
    (h : stack.length < depthLimit) :
    pushFrame depthLimit mode frame stack = .ok ⟨mode, frame :: stack⟩ := if_pos h

theorem jsonStep_value {stack : List JsonFrame} {token : JsonToken} :
    jsonStep depthLimit ⟨.value, stack⟩ token = startValue depthLimit stack token := rfl

/-- In front of a list's first item a value may start, or the list end. -/
theorem jsonStep_itemOrClose {stack : List JsonFrame} {token : JsonToken}
    (h : token ≠ .closeArray) :
    jsonStep depthLimit ⟨.itemOrClose, stack⟩ token = jsonStep depthLimit ⟨.value, stack⟩ token := by
  cases token <;> first | rfl | exact absurd rfl h | (rcases stack with _ | ⟨_ | _, _⟩ <;> rfl)

theorem docTokens_head (value : JsonDoc) :
    ∃ token rest, docTokens value = token :: rest ∧ token ≠ .closeArray := by
  cases value <;> exact ⟨_, _, rfl, JsonToken.noConfusion⟩

theorem parseTokens_openArray {stack : List JsonFrame} {rest : List JsonToken}
    (h : stack.length < depthLimit) :
    parseTokens depthLimit ⟨.value, stack⟩ (.openArray :: rest) =
      parseTokens depthLimit ⟨.itemOrClose, .arr [] :: stack⟩ rest :=
  parseTokens_step (pushFrame_of_lt h)

theorem parseTokens_openObject {stack : List JsonFrame} {rest : List JsonToken}
    (h : stack.length < depthLimit) :
    parseTokens depthLimit ⟨.value, stack⟩ (.openObject :: rest) =
      parseTokens depthLimit ⟨.keyOrClose, .obj [] [] :: stack⟩ rest :=
  parseTokens_step (pushFrame_of_lt h)

mutual

/-- **The tokens of a value drive the machine to the value.** -/
theorem parseTokens_docTokens : ∀ (value : JsonDoc) (stack : List JsonFrame)
    (rest : List JsonToken) {floatRepr : ℚ → List Char},
    value.Plain floatRepr → stack.length + value.depth ≤ depthLimit →
      parseTokens depthLimit ⟨.value, stack⟩ (docTokens value ++ rest) =
        parseTokens depthLimit (placeValue value stack) rest
  | .null, _, _, _, _, _ => parseTokens_step rfl
  | .bool _, _, _, _, _, _ => parseTokens_step rfl
  | .int value, stack, _, _, hplain, _ => by
    refine parseTokens_step ?_
    rw [jsonStep_value, startValue, intBase10_decimalChars hplain]
  | .float _, _, _, _, _, _ => parseTokens_step rfl
  | .str _, _, _, _, _, _ => parseTokens_step rfl
  | .arr items, stack, rest, _, hplain, hdepth => by
    rw [JsonDoc.depth] at hdepth
    rw [docTokens, List.cons_append, parseTokens_openArray (by omega), List.append_assoc]
    cases items with
    | nil => exact parseTokens_step rfl
    | cons item items =>
      have hitems := parseTokens_itemsTokens (item :: items) stack [] rest (List.cons_ne_nil _ _)
        hplain (by omega)
      obtain ⟨token, more, hhead, hne⟩ := docTokens_head item
      rw [List.nil_append] at hitems
      rw [← hitems, itemsTokens, hhead, List.cons_append, List.cons_append, parseTokens,
        parseTokens, jsonStep_itemOrClose hne]
  | .obj fields, stack, rest, _, hplain, hdepth => by
    rw [JsonDoc.depth] at hdepth
    rw [docTokens, List.cons_append, parseTokens_openObject (by omega), List.append_assoc]
    cases fields with
    | nil => exact parseTokens_step rfl
    | cons field fields =>
      have hfields := parseTokens_fieldsTokens (field :: fields) stack [] [] rest
        (List.cons_ne_nil _ _) hplain.2 hplain.1 (by omega)
      rw [List.nil_append] at hfields
      rw [← hfields, fieldsTokens, fieldTokens, List.cons_append, List.cons_append]
      exact (parseTokens_step rfl).trans (parseTokens_step rfl).symm

/-- The items of a list, behind those that are read. -/
theorem parseTokens_itemsTokens : ∀ (items : List JsonDoc) (stack : List JsonFrame)
    (read : List JsonDoc) (rest : List JsonToken) {floatRepr : ℚ → List Char},
    items ≠ [] → ItemsPlain floatRepr items → stack.length + itemsDepth items + 1 ≤ depthLimit →
      parseTokens depthLimit ⟨.value, .arr read :: stack⟩
          (itemsTokens items ++ ([.closeArray] ++ rest)) =
        parseTokens depthLimit (placeValue (.arr (read ++ items)) stack) rest
  | [], _, _, _, _, hne, _, _ => absurd rfl hne
  | item :: items, stack, read, rest, _, _, hplain, hdepth => by
    rw [itemsDepth] at hdepth
    rw [itemsTokens, List.append_assoc,
      parseTokens_docTokens item _ _ hplain.1 (by rw [List.length_cons]; omega)]
    by_cases hlast : items = []
    · subst hlast
      exact parseTokens_step rfl
    · have hnext := parseTokens_itemsTokens items stack (read ++ [item]) rest hlast hplain.2
        (by omega)
      rw [show read ++ [item] ++ items = read ++ item :: items from List.append_assoc _ _ _] at hnext
      rw [← hnext, if_neg (by rwa [List.isEmpty_iff])]
      exact parseTokens_step rfl

/-- The fields of an object, behind those that are read. -/
theorem parseTokens_fieldsTokens : ∀ (fields : List (CodePoints × JsonDoc))
    (stack : List JsonFrame) (read : DocFields) (key : CodePoints) (rest : List JsonToken)
    {floatRepr : ℚ → List Char}, fields ≠ [] → FieldsPlain floatRepr fields →
      ((read ++ fields).map Prod.fst).Nodup →
      stack.length + fieldsDepth fields + 1 ≤ depthLimit →
      parseTokens depthLimit ⟨.key, .obj read key :: stack⟩
          (fieldsTokens fields ++ ([.closeObject] ++ rest)) =
        parseTokens depthLimit (placeValue (.obj (read ++ fields)) stack) rest
  | [], _, _, _, _, _, hne, _, _, _ => absurd rfl hne
  | (name, value) :: fields, stack, read, _, rest, _, _, hplain, hkeys, hdepth => by
    rw [fieldsDepth, fieldDepth] at hdepth
    have hnew : name ∉ read.map Prod.fst := by
      rw [List.map_append, List.nodup_append] at hkeys
      exact fun h => hkeys.2.2 _ h _ List.mem_cons_self rfl
    have hvalue := fun rest => parseTokens_docTokens value (.obj read name :: stack) rest
      hplain.1.2 (by rw [List.length_cons]; omega)
    rw [fieldsTokens, fieldTokens, List.append_assoc]
    refine (parseTokens_step rfl).trans ((parseTokens_step rfl).trans ((hvalue _).trans ?_))
    rw [placeValue, DocFields.set_of_notMem hnew]
    by_cases hlast : fields = []
    · subst hlast
      exact parseTokens_step rfl
    · have hnext := parseTokens_fieldsTokens fields stack (read ++ [(name, value)]) name rest hlast
        hplain.2 (by rwa [List.append_assoc]) (by omega)
      rw [show read ++ [(name, value)] ++ fields = read ++ (name, value) :: fields from
        List.append_assoc _ _ _] at hnext
      rw [← hnext, if_neg (by rwa [List.isEmpty_iff])]
      exact parseTokens_step rfl

end

mutual

/-- **A plain value that is not too deep is written.** -/
theorem dumpsValue_returns : ∀ (value : JsonDoc) (level : ℕ), value.Plain w.floatRepr →
    level + value.depth ≤ w.depthLimit → ∃ text, dumpsValue w layout level value = .ok text
  | .null, _, _, _ => ⟨_, rfl⟩
  | .bool _, _, _, _ => ⟨_, rfl⟩
  | .int _, _, hplain, _ =>
    ⟨_, Py.raiseIf_bind_eq_ok.mpr ⟨not_lt.mpr hplain, rfl⟩⟩
  | .float _, _, _, _ => ⟨_, rfl⟩
  | .str _, _, _, _ => ⟨_, rfl⟩
  | .arr items, level, hplain, hdepth => by
    rw [JsonDoc.depth] at hdepth
    obtain ⟨inside, hinside⟩ := dumpsItems_returns items (level + 1) hplain (by omega)
    exact ⟨_, dumpsBracketed_eq_ok.mpr ⟨by omega, inside, hinside, rfl⟩⟩
  | .obj fields, level, hplain, hdepth => by
    rw [JsonDoc.depth] at hdepth
    obtain ⟨inside, hinside⟩ := dumpsFields_returns fields (level + 1) hplain.2 (by omega)
    exact ⟨_, dumpsBracketed_eq_ok.mpr ⟨by omega, inside, hinside, rfl⟩⟩

theorem dumpsItems_returns : ∀ (items : List JsonDoc) (level : ℕ), ItemsPlain w.floatRepr items →
    level + itemsDepth items ≤ w.depthLimit → ∃ text, dumpsItems w layout level items = .ok text
  | [], _, _, _ => ⟨_, rfl⟩
  | item :: items, level, hplain, hdepth => by
    rw [itemsDepth] at hdepth
    obtain ⟨text, htext⟩ := dumpsValue_returns item level hplain.1 (by omega)
    obtain ⟨more, hmore⟩ := dumpsItems_returns items level hplain.2 (by omega)
    simp only [dumpsItems, Py.bind_eq_ok, Py.pure_eq_ok]
    exact ⟨_, text, htext, more, hmore, rfl⟩

theorem dumpsFields_returns : ∀ (fields : List (CodePoints × JsonDoc)) (level : ℕ),
    FieldsPlain w.floatRepr fields → level + fieldsDepth fields ≤ w.depthLimit →
      ∃ text, dumpsFields w layout level fields = .ok text
  | [], _, _, _ => ⟨_, rfl⟩
  | (key, value) :: fields, level, hplain, hdepth => by
    rw [fieldsDepth, fieldDepth] at hdepth
    obtain ⟨text, htext⟩ := dumpsValue_returns value level hplain.1.2 (by omega)
    obtain ⟨more, hmore⟩ := dumpsFields_returns fields level hplain.2 (by omega)
    simp only [dumpsFields, dumpsField, Py.bind_eq_ok, Py.pure_eq_ok]
    exact ⟨_, _, ⟨text, htext, rfl⟩, more, hmore, rfl⟩

end

/-- **`json.loads` reads back what `json.dumps` wrote**, in every layout, and `json.dumps`
returns. -/
theorem loads_dumps {value : JsonDoc} (hplain : value.Plain w.floatRepr)
    (hwrite : value.depth ≤ w.depthLimit) (hread : value.depth ≤ depthLimit) :
    ∃ data, dumps w layout value = .ok data ∧ loads depthLimit data = .ok value := by
  obtain ⟨text, htext⟩ : ∃ text, dumpsValue w layout 0 value = .ok text :=
    dumpsValue_returns value 0 hplain (by omega)
  refine ⟨encodeChars text, Py.bind_eq_ok.mpr ⟨text, htext, rfl⟩, ?_⟩
  have htokens : tokens 0 text = docTokens value := by
    have hend : NumberEnd [] := fun _ h => by cases h
    have h := tokens_dumpsValue value hplain htext hend
    rwa [List.append_nil, tokens, List.append_nil] at h
  have hparse : parseTokens depthLimit ⟨.value, []⟩ (docTokens value ++ []) =
      parseTokens depthLimit (placeValue value []) [] :=
    parseTokens_docTokens value [] [] hplain (by rw [List.length_nil]; omega)
  rw [loads, decodeUtf8_encodeChars]
  show loadsText depthLimit text = _
  rw [loadsText, htokens, ← List.append_nil (docTokens value), hparse]
  rfl

end

end KovaWfb
