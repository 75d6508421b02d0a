/-
# What `json.loads` returns can be written again

Every document that is read is plain (`loads_plain`): its texts have no surrogates that
could be joined, its integers at most 4300 digits, its objects each key once, and it nests
no deeper than the reader's limit.  So it can be written again and read back.

`Json.doc` is the document of a value whose texts are ordinary ones.
-/

import KovaWfb.Python.JsonRoundTrip

namespace KovaWfb

/-! ### Texts -/

/-- The first code point of joined units is a unit, or lies above U+FFFF. -/
theorem head_joinSurrogates {units : List ℕ} {n : ℕ} (h : n ∈ (joinSurrogates units).head?) :
    n ∈ units.head? ∨ 0x10000 ≤ n := by
  unfold joinSurrogates at h
  split at h
  · split_ifs at h with hpair
    · obtain rfl := Option.some.inj h
      exact Or.inr (by omega)
    · exact Or.inl h
  · exact Or.inl h

/-- **Joined units are plain.** -/
theorem plain_joinSurrogates {units : List ℕ} (h : ∀ n ∈ units, n < 0x110000) :
    CodePoints.Plain (joinSurrogates units) := by
  induction units using joinSurrogates.induct with
  | case1 high low rest hpair ih =>
    rw [joinSurrogates, if_pos hpair]
    simp only [List.forall_mem_cons] at h
    have hrest := ih h.2.2
    refine ⟨List.forall_mem_cons.mpr ⟨by omega, hrest.codePoint⟩,
      List.isChain_cons.mpr ⟨fun _ _ => by omega, hrest.apart⟩⟩
  | case2 high low rest hpair ih =>
    rw [joinSurrogates, if_neg hpair]
    rw [List.forall_mem_cons] at h
    have hrest := ih h.2
    refine ⟨List.forall_mem_cons.mpr ⟨h.1, hrest.codePoint⟩,
      List.isChain_cons.mpr ⟨fun next hnext => ?_, hrest.apart⟩⟩
    rcases head_joinSurrogates hnext with hlow | hlarge
    · obtain rfl := Option.some.inj hlow
      exact hpair
    · omega
  | case3 units hunits =>
    have hshort : units = [] ∨ ∃ n, units = [n] := by
      rcases units with _ | ⟨high, _ | ⟨low, rest⟩⟩
      · exact Or.inl rfl
      · exact Or.inr ⟨high, rfl⟩
      · exact absurd rfl (hunits high low rest)
    rcases hshort with rfl | ⟨n, rfl⟩
    · exact ⟨h, List.isChain_nil⟩
    · exact ⟨h, List.isChain_singleton n⟩

theorem hexValue_lt {c : Char} {value : ℕ} (h : hexValue c = some value) : value < 16 := by
  unfold hexValue at h
  split at h
  · split_ifs at h with hlt
    exact Option.some.inj h ▸ hlt
  · cases h

theorem hexUnit_lt {a b c d : Char} {unit : ℕ} (h : hexUnit a b c d = some unit) :
    unit < 0x10000 := by
  unfold hexUnit at h
  split at h
  · rename_i ha hb hc hd
    have hltA := hexValue_lt ha
    have hltB := hexValue_lt hb
    have hltC := hexValue_lt hc
    have hltD := hexValue_lt hd
    obtain rfl := Option.some.inj h
    omega
  · cases h

theorem escaped_lt {c : Char} {unit : ℕ} (h : escaped c = some unit) : unit < 0x80 := by
  unfold escaped at h
  split_ifs at h with hself
  · obtain rfl := Option.some.inj h
    rcases hself with rfl | rfl | rfl <;> decide
  all_goals
    obtain rfl := Option.some.inj h
    omega

/-- **The units of a text are code points.** -/
theorem lt_of_mem_scanString {cs : List Char} {units : List ℕ} {count : ℕ}
    (h : scanString cs = some (units, count)) : ∀ n ∈ units, n < 0x110000 := by
  fun_induction scanString cs generalizing units count with
  | case1 => cases h
  | case2 rest =>
    obtain rfl := (Prod.mk.inj (Option.some.inj h)).1
    exact fun n hn => absurd hn List.not_mem_nil
  | case3 a b c d cs unit more moreCount hmore hunit ih =>
    obtain rfl := (Prod.mk.inj (Option.some.inj h)).1
    exact List.forall_mem_cons.mpr ⟨(hexUnit_lt hunit).trans (by omega), ih hmore⟩
  | case4 => cases h
  | case5 c cs hshape unit more moreCount hmore hunit ih =>
    obtain rfl := (Prod.mk.inj (Option.some.inj h)).1
    exact List.forall_mem_cons.mpr ⟨(escaped_lt hunit).trans (by omega), ih hmore⟩
  | case6 => cases h
  | case7 => cases h
  | case8 c cs hquote hshape hescape hplain ih =>
    obtain ⟨found, hfound, heq⟩ := Option.map_eq_some_iff.mp h
    obtain rfl := (Prod.mk.inj heq).1
    have hvalid : c.toNat < 0xd800 ∨ 0xdfff < c.toNat ∧ c.toNat < 0x110000 := c.valid
    exact List.forall_mem_cons.mpr ⟨by omega, ih hfound⟩

/-! ### Numerals -/

theorem ne_underscore_of_digitValue {c : Char} {d : ℕ} (h : digitValue c = some d) :
    (c != '_') = true := by
  rw [bne_iff_ne]
  rintro rfl
  cases h

theorem digit_step {base acc d m : ℕ} (hd : d < base) :
    (acc * base + d + 1) * base ^ m ≤ (acc + 1) * base ^ (m + 1) := by
  rw [pow_succ', ← mul_assoc]
  exact Nat.mul_le_mul_right _ (by rw [Nat.add_mul]; omega)

/-- Digits write a number below the power of the base. -/
theorem parseDigits_lt {base : ℕ} {cs : List Char} {acc n : ℕ}
    (h : parseDigits base cs acc = some n) :
    n < (acc + 1) * base ^ (cs.filter (· != '_')).length := by
  fun_induction parseDigits base cs acc with
  | case2 c acc d hd hlt =>
    obtain rfl := Option.some.inj h
    rw [List.filter_cons_of_pos (p := (· != '_')) (ne_underscore_of_digitValue hd), List.filter_nil]
    have hone : (acc * base + d + 1) * base ^ 0 ≤ (acc + 1) * base ^ (0 + 1) := digit_step hlt
    rw [pow_zero, Nat.mul_one] at hone
    exact (Nat.lt_succ_self _).trans_le hone
  | case5 c cs acc d hd hlt ih =>
    rw [List.filter_cons_of_pos (p := (· != '_')) (ne_underscore_of_digitValue hd),
      List.filter_cons_of_neg (by decide)]
    exact (ih h).trans_le (digit_step hlt)
  | case8 c next cs acc hshape d hd hlt ih =>
    rw [List.filter_cons_of_pos (p := (· != '_')) (ne_underscore_of_digitValue hd)]
    exact (ih h).trans_le (digit_step hlt)
  | _ => cases h

theorem digits_of_parseDecimal {cs : List Char} {n : ℕ} (h : parseDecimal cs = some n) :
    (Nat.toDigits 10 n).length ≤ 4300 := by
  unfold parseDecimal at h
  split_ifs at h with hlong
  have hlt := parseDigits_lt h
  rw [Nat.zero_add, Nat.one_mul] at hlt
  have hpow := Nat.pow_le_pow_right (show 0 < 10 by decide) (not_lt.mp hlong)
  exact (Nat.length_toDigits_le_iff (by decide) (by decide)).mpr (hlt.trans_le hpow)

theorem natAbs_of_parseSigned {numeral : List Char → Option ℕ} {cs : List Char} {value : ℤ}
    (h : parseSigned numeral cs = some value) : ∃ cs', numeral cs' = some value.natAbs := by
  unfold parseSigned at h
  split at h
  all_goals
    obtain ⟨n, hn, rfl⟩ := Option.map_eq_some_iff.mp h
    obtain ⟨m, hm, heq⟩ := Option.bind_eq_some_iff.mp hn
    obtain rfl := Option.some.inj heq
  · exact ⟨_, by rw [Int.natAbs_neg]; exact hm⟩
  · exact ⟨_, hm⟩
  · exact ⟨_, hm⟩

/-- **What `int(text)` accepts has at most 4300 digits.** -/
theorem digits_of_intBase10 {numeral : String} {value : ℤ} (h : intBase10 numeral = some value) :
    (Nat.toDigits 10 value.natAbs).length ≤ 4300 := by
  obtain ⟨cs, hcs⟩ := natAbs_of_parseSigned h
  exact digits_of_parseDecimal hcs

/-! ### Tokens -/

/-- A token that stands for a plain text or a plain value that is no list and no object. -/
def JsonToken.Plain (floatRepr : ℚ → List Char) : JsonToken → Prop
  | .str text => text.Plain
  | .value doc => doc.Plain floatRepr ∧ doc.depth = 0
  | _ => True

section

variable {floatRepr : ℚ → List Char}

theorem plain_constant {constant : List Char × JsonDoc} (h : constant ∈ jsonConstants) :
    constant.2.Plain floatRepr ∧ constant.2.depth = 0 := by
  simp only [jsonConstants, List.mem_cons, List.not_mem_nil, or_false] at h
  rcases h with rfl | rfl | rfl | rfl | rfl | rfl
  all_goals simp [JsonDoc.Plain, JsonDoc.depth]

/-- A number is an integer, a float or no number. -/
theorem scanNumber_cases (negative : Bool) (cs : List Char) :
    (∃ numeral, (scanNumber negative cs).1 = .int numeral) ∨
      (∃ value, (scanNumber negative cs).1 = .value (.float value)) ∨
      (scanNumber negative cs).1 = .invalid := by
  unfold scanNumber
  dsimp only
  split_ifs
  · exact Or.inr (Or.inr rfl)
  all_goals
    split
    · exact Or.inr (Or.inl ⟨_, rfl⟩)
    · first
        | exact Or.inl ⟨_, rfl⟩
        | exact Or.inr (Or.inl ⟨_, rfl⟩)

theorem plain_scanNumber {negative : Bool} {cs : List Char}
    (h : ∀ q, (scanNumber negative cs).1 = .value (.float (.finite q)) → ReadsBack floatRepr q) :
    (scanNumber negative cs).1.Plain floatRepr := by
  rcases scanNumber_cases negative cs with ⟨numeral, heq⟩ | ⟨value, heq⟩ | heq
  · rw [heq]
    trivial
  · rw [heq]
    refine ⟨fun q hq => h q ?_, rfl⟩
    rw [heq, hq]
  · rw [heq]
    trivial

/-- **Every token is plain**, when the float it stands for reads back. -/
theorem plain_tokenAt {c : Char} {cs : List Char} {token : JsonToken}
    (h : (tokenAt c cs).1 = some token)
    (hfloat : ∀ q, token = .value (.float (.finite q)) → ReadsBack floatRepr q) :
    token.Plain floatRepr := by
  unfold tokenAt at h
  split at h
  · rename_i constant hconstant
    obtain rfl := Option.some.inj h
    exact plain_constant (List.mem_of_find?_eq_some hconstant)
  · split_ifs at h
    iterate 6
      obtain rfl := Option.some.inj h
      trivial
    · split at h
      · rename_i units count hscan
        obtain rfl := Option.some.inj h
        exact plain_joinSurrogates (lt_of_mem_scanString hscan)
      · obtain rfl := Option.some.inj h
        trivial
    · obtain rfl := Option.some.inj h
      exact plain_scanNumber hfloat
    · obtain rfl := Option.some.inj h
      exact plain_scanNumber hfloat

theorem plain_tokens {skip : ℕ} {cs : List Char}
    (hfloat : ∀ q, .value (.float (.finite q)) ∈ tokens skip cs → ReadsBack floatRepr q) :
    ∀ token ∈ tokens skip cs, token.Plain floatRepr := by
  fun_induction tokens skip cs with
  | case1 => exact fun token h => absurd h List.not_mem_nil
  | case2 skip c cs ih => exact ih hfloat
  | case3 c cs ih =>
    intro token htoken
    rcases List.mem_append.mp htoken with hhere | hlater
    · exact plain_tokenAt (Option.mem_toList.mp hhere) fun q hq => hfloat q (hq ▸ htoken)
    · exact ih (fun q hq => hfloat q (List.mem_append_right _ hq)) token hlater

/-! ### The machine -/

/-- What an open list or object holds is plain. -/
def JsonFrame.Plain (floatRepr : ℚ → List Char) : JsonFrame → Prop
  | .arr items => ItemsPlain floatRepr items
  | .obj fields key =>
      (fields.map Prod.fst).Nodup ∧ FieldsPlain floatRepr fields ∧ key.Plain

/-- The depth of what it holds. -/
def JsonFrame.depth : JsonFrame → ℕ
  | .arr items => itemsDepth items
  | .obj fields _ => fieldsDepth fields

/-- The open lists and objects are plain and nest no deeper than the limit. -/
def StackPlain (floatRepr : ℚ → List Char) (depthLimit : ℕ) : List JsonFrame → Prop
  | [] => True
  | frame :: stack => frame.Plain floatRepr ∧ stack.length + frame.depth + 1 ≤ depthLimit ∧
      StackPlain floatRepr depthLimit stack

/-- So is a document that is complete. -/
structure JsonScan.Plain (floatRepr : ℚ → List Char) (depthLimit : ℕ) (scan : JsonScan) : Prop where
  stack : StackPlain floatRepr depthLimit scan.stack
  done : ∀ doc, scan.mode = .done doc → doc.Plain floatRepr ∧ doc.depth ≤ depthLimit

variable {depthLimit : ℕ}

theorem itemsPlain_append {items : List JsonDoc} {item : JsonDoc} (h : ItemsPlain floatRepr items)
    (hitem : item.Plain floatRepr) : ItemsPlain floatRepr (items ++ [item]) := by
  induction items with
  | nil => exact ⟨hitem, trivial⟩
  | cons first items ih => exact ⟨h.1, ih h.2⟩

theorem itemsDepth_append (items : List JsonDoc) (item : JsonDoc) :
    itemsDepth (items ++ [item]) = max (itemsDepth items) item.depth := by
  induction items with
  | nil => simp only [List.nil_append, itemsDepth, Nat.max_comm]
  | cons first items ih => rw [List.cons_append, itemsDepth, itemsDepth, ih, Nat.max_assoc]

theorem fieldsPlain_set {fields : DocFields} {key : CodePoints} {value : JsonDoc}
    (h : FieldsPlain floatRepr fields) (hkey : key.Plain) (hvalue : value.Plain floatRepr) :
    FieldsPlain floatRepr (fields.set key value) := by
  induction fields with
  | nil => exact ⟨⟨hkey, hvalue⟩, trivial⟩
  | cons field fields ih =>
    rw [DocFields.set]
    split_ifs
    · exact ⟨⟨hkey, hvalue⟩, h.2⟩
    · exact ⟨h.1, ih h.2⟩

theorem fieldsDepth_set_le (fields : DocFields) (key : CodePoints) (value : JsonDoc) :
    fieldsDepth (fields.set key value) ≤ max (fieldsDepth fields) value.depth := by
  induction fields with
  | nil => simp only [DocFields.set, fieldsDepth, fieldDepth, Nat.max_comm, le_refl]
  | cons field fields ih =>
    rw [DocFields.set]
    split_ifs
    · rw [fieldsDepth, fieldsDepth, fieldDepth]
      omega
    · rw [fieldsDepth, fieldsDepth]
      omega

theorem nodup_set {fields : DocFields} (h : (fields.map Prod.fst).Nodup) (key : CodePoints)
    (value : JsonDoc) : ((fields.set key value).map Prod.fst).Nodup := by
  have hkeys : ∀ {name : CodePoints} {fields : DocFields},
      name ∈ (fields.set key value).map Prod.fst → name = key ∨ name ∈ fields.map Prod.fst := by
    intro name fields hname
    induction fields with
    | nil => exact Or.inl (List.mem_singleton.mp hname)
    | cons field fields ih =>
      rw [DocFields.set] at hname
      split_ifs at hname with hsame
      · rw [List.map_cons, List.mem_cons] at hname
        exact hname.imp_right (List.mem_cons_of_mem _)
      · rw [List.map_cons, List.mem_cons] at hname
        rcases hname with rfl | hname
        · exact Or.inr List.mem_cons_self
        · exact (ih hname).imp_right (List.mem_cons_of_mem _)
  induction fields with
  | nil => exact List.pairwise_singleton _ key
  | cons field fields ih =>
    rw [List.map_cons, List.nodup_cons] at h
    rw [DocFields.set]
    split_ifs with hsame
    · rw [List.map_cons, List.nodup_cons]
      exact ⟨hsame ▸ h.1, h.2⟩
    · rw [List.map_cons, List.nodup_cons]
      exact ⟨fun hmem => (hkeys hmem).elim hsame h.1, ih h.2⟩

/-- **A plain value is placed where it fits.** -/
theorem plain_placeValue {value : JsonDoc} {stack : List JsonFrame}
    (hvalue : value.Plain floatRepr) (hdepth : stack.length + value.depth ≤ depthLimit)
    (hstack : StackPlain floatRepr depthLimit stack) :
    (placeValue value stack).Plain floatRepr depthLimit := by
  rcases stack with _ | ⟨items | ⟨fields, key⟩, stack⟩
  · refine ⟨trivial, fun doc hdoc => ?_⟩
    obtain rfl := JsonMode.done.inj hdoc
    exact ⟨hvalue, by rw [List.length_nil] at hdepth; omega⟩
  · obtain ⟨hframe, hfits, hrest⟩ := hstack
    rw [List.length_cons] at hdepth
    refine ⟨⟨itemsPlain_append hframe hvalue, ?_, hrest⟩, fun _ h => by cases h⟩
    rw [JsonFrame.depth, itemsDepth_append]
    rw [JsonFrame.depth] at hfits
    omega
  · obtain ⟨⟨hkeys, hframe, hkey⟩, hfits, hrest⟩ := hstack
    rw [List.length_cons] at hdepth
    have hset := fieldsDepth_set_le fields key value
    refine ⟨⟨⟨nodup_set hkeys key value, fieldsPlain_set hframe hkey hvalue, hkey⟩, ?_, hrest⟩,
      fun _ h => by cases h⟩
    rw [JsonFrame.depth] at hfits ⊢
    omega

theorem plain_pushFrame {mode : JsonMode} {frame : JsonFrame} {stack : List JsonFrame}
    {scan : JsonScan} (h : pushFrame depthLimit mode frame stack = .ok scan)
    (hframe : frame.Plain floatRepr) (hempty : frame.depth = 0) (hmode : ∀ doc, mode ≠ .done doc)
    (hstack : StackPlain floatRepr depthLimit stack) : scan.Plain floatRepr depthLimit := by
  unfold pushFrame at h
  split_ifs at h with hlt
  obtain rfl := Except.ok.inj h
  exact ⟨⟨hframe, by omega, hstack⟩, fun doc hdoc => absurd hdoc (hmode doc)⟩

theorem plain_startValue {stack : List JsonFrame} {token : JsonToken} {scan : JsonScan}
    (h : startValue depthLimit stack token = .ok scan) (htoken : token.Plain floatRepr)
    (hstack : StackPlain floatRepr depthLimit stack) (hlength : stack.length ≤ depthLimit) :
    scan.Plain floatRepr depthLimit := by
  cases token with
  | str text =>
    obtain rfl := Except.ok.inj h
    exact plain_placeValue htoken hlength hstack
  | int numeral =>
    rw [startValue] at h
    split at h
    · rename_i value hvalue
      obtain rfl := Except.ok.inj h
      exact plain_placeValue (digits_of_intBase10 hvalue) hlength hstack
    · cases h
  | value value =>
    obtain rfl := Except.ok.inj h
    exact plain_placeValue htoken.1 (by rw [htoken.2]; exact hlength) hstack
  | openArray => exact plain_pushFrame h trivial rfl (fun _ => JsonMode.noConfusion) hstack
  | openObject =>
    have hempty : CodePoints.Plain [] := ⟨fun _ h => absurd h List.not_mem_nil, List.isChain_nil⟩
    exact plain_pushFrame h ⟨List.nodup_nil, trivial, hempty⟩ rfl (fun _ => JsonMode.noConfusion)
      hstack
  | _ => cases h

theorem StackPlain.length_le {stack : List JsonFrame} (h : StackPlain floatRepr depthLimit stack) :
    stack.length ≤ depthLimit := by
  cases stack with
  | nil => exact Nat.zero_le _
  | cons frame stack =>
    have hfits := h.2.1
    rw [List.length_cons]
    omega

/-- A list or an object that ends becomes a value of the one around it. -/
theorem StackPlain.close_arr {items : List JsonDoc} {stack : List JsonFrame}
    (h : StackPlain floatRepr depthLimit (.arr items :: stack)) :
    (placeValue (.arr items) stack).Plain floatRepr depthLimit :=
  plain_placeValue h.1 h.2.1 h.2.2

theorem StackPlain.close_obj {fields : DocFields} {key : CodePoints} {stack : List JsonFrame}
    (h : StackPlain floatRepr depthLimit (.obj fields key :: stack)) :
    (placeValue (.obj fields) stack).Plain floatRepr depthLimit :=
  plain_placeValue ⟨h.1.1, h.1.2.1⟩ h.2.1 h.2.2

/-- A key takes the place of the one before it. -/
theorem StackPlain.key {fields : DocFields} {key name : CodePoints} {stack : List JsonFrame}
    (h : StackPlain floatRepr depthLimit (.obj fields key :: stack)) (hname : name.Plain) :
    StackPlain floatRepr depthLimit (.obj fields name :: stack) :=
  ⟨⟨h.1.1, h.1.2.1, hname⟩, h.2⟩

/-- **A step keeps the scan plain.** -/
theorem plain_jsonStep {scan scan' : JsonScan} {token : JsonToken}
    (h : jsonStep depthLimit scan token = .ok scan') (htoken : token.Plain floatRepr)
    (hscan : scan.Plain floatRepr depthLimit) : scan'.Plain floatRepr depthLimit := by
  obtain ⟨mode, stack⟩ := scan
  obtain ⟨hstack, -⟩ := hscan
  have hlength := hstack.length_le
  dsimp only at hstack hlength
  unfold jsonStep at h
  split at h
  case h_1 | h_3 => exact plain_startValue h htoken hstack hlength
  case h_2 | h_9 =>
    obtain rfl := Except.ok.inj h
    rename_i heq
    subst heq
    exact hstack.close_arr
  case h_6 | h_11 =>
    obtain rfl := Except.ok.inj h
    rename_i heq
    subst heq
    exact hstack.close_obj
  case h_4 | h_5 =>
    obtain rfl := Except.ok.inj h
    rename_i heq
    subst heq
    exact ⟨hstack.key htoken, fun _ h => by cases h⟩
  case h_7 =>
    obtain rfl := Except.ok.inj h
    exact ⟨hstack, fun _ h => by cases h⟩
  case h_8 | h_10 =>
    obtain rfl := Except.ok.inj h
    rename_i heq
    subst heq
    exact ⟨hstack, fun _ h => by cases h⟩
  case h_12 => cases h

theorem plain_parseTokens {rest : List JsonToken} {scan : JsonScan} {doc : JsonDoc}
    (h : parseTokens depthLimit scan rest = .ok doc)
    (hrest : ∀ token ∈ rest, token.Plain floatRepr) (hscan : scan.Plain floatRepr depthLimit) :
    doc.Plain floatRepr ∧ doc.depth ≤ depthLimit := by
  induction rest generalizing scan with
  | nil =>
    obtain ⟨mode, stack⟩ := scan
    cases mode with
    | done found =>
      obtain rfl := Except.ok.inj h
      exact hscan.done found rfl
    | _ => cases h
  | cons token rest ih =>
    rw [List.forall_mem_cons] at hrest
    rw [parseTokens] at h
    split at h
    · rename_i hstep
      exact ih h hrest.2 (plain_jsonStep hstep hrest.1 hscan)
    · cases h

/-- **What `json.loads` returns is plain** and nests no deeper than the limit. -/
theorem loads_plain {data : Bytes} {doc : JsonDoc} (h : loads depthLimit data = .ok doc)
    (hfloat : ∀ text q, decodeUtf8 (0, []) data = some text →
      .value (.float (.finite q)) ∈ tokens 0 text → ReadsBack floatRepr q) :
    doc.Plain floatRepr ∧ doc.depth ≤ depthLimit := by
  unfold loads at h
  split at h
  · cases h
  · rename_i text htext
    exact plain_parseTokens h (plain_tokens fun q hq => hfloat text q htext hq)
      ⟨trivial, fun _ hmode => by cases hmode⟩

/-! ### Room to nest -/

theorem pushFrame_mono {limit : ℕ} (hle : depthLimit ≤ limit) {mode : JsonMode} {frame : JsonFrame}
    {stack : List JsonFrame} {scan : JsonScan}
    (h : pushFrame depthLimit mode frame stack = .ok scan) :
    pushFrame limit mode frame stack = .ok scan := by
  unfold pushFrame at h ⊢
  split_ifs at h with hlt
  rw [if_pos (hlt.trans_le hle), h]

theorem startValue_mono {limit : ℕ} (hle : depthLimit ≤ limit) {stack : List JsonFrame}
    {token : JsonToken} {scan : JsonScan} (h : startValue depthLimit stack token = .ok scan) :
    startValue limit stack token = .ok scan := by
  cases token with
  | openArray => exact pushFrame_mono hle h
  | openObject => exact pushFrame_mono hle h
  | _ => exact h

/-- **More room changes no step that is taken.** -/
theorem jsonStep_mono {limit : ℕ} (hle : depthLimit ≤ limit) {scan scan' : JsonScan}
    {token : JsonToken} (h : jsonStep depthLimit scan token = .ok scan') :
    jsonStep limit scan token = .ok scan' := by
  unfold jsonStep at h ⊢
  split at h
  case h_1 | h_3 => exact startValue_mono hle h
  all_goals exact h

theorem parseTokens_mono {limit : ℕ} (hle : depthLimit ≤ limit) {rest : List JsonToken}
    {scan : JsonScan} {doc : JsonDoc} (h : parseTokens depthLimit scan rest = .ok doc) :
    parseTokens limit scan rest = .ok doc := by
  induction rest generalizing scan with
  | nil =>
    obtain ⟨mode, stack⟩ := scan
    cases mode <;> exact h
  | cons token rest ih =>
    rw [parseTokens] at h
    split at h
    · rename_i hstep
      rw [parseTokens, jsonStep_mono hle hstep]
      exact ih h
    · cases h

/-- **What a reader with less room reads**, one with more room reads too. -/
theorem loads_mono {limit : ℕ} (hle : depthLimit ≤ limit) {data : Bytes} {doc : JsonDoc}
    (h : loads depthLimit data = .ok doc) : loads limit data = .ok doc := by
  unfold loads at h ⊢
  split at h
  · cases h
  · exact parseTokens_mono hle h

end

/-! ### Values with ordinary texts -/

mutual

/-- The value as a document. -/
def Json.doc : Json → JsonDoc
  | .null => .null
  | .bool value => .bool value
  | .int value => .int value
  | .float value => .float value
  | .str text => .str (codePoints text)
  | .arr items => .arr (itemsDoc items)
  | .obj fields => .obj (fieldsDoc fields)

/-- The items of a list. -/
def itemsDoc : List Json → List JsonDoc
  | [] => []
  | item :: rest => item.doc :: itemsDoc rest

/-- The fields of an object. -/
def fieldsDoc : List (String × Json) → DocFields
  | [] => []
  | field :: rest => fieldDoc field :: fieldsDoc rest

/-- A field of an object. -/
def fieldDoc : String × Json → CodePoints × JsonDoc
  | (key, value) => (codePoints key, value.doc)

end

theorem not_surrogate (c : Char) : isSurrogate c.toNat = false := by
  have hvalid : c.toNat < 0xd800 ∨ 0xdfff < c.toNat ∧ c.toNat < 0x110000 := c.valid
  rw [isSurrogate, Bool.and_eq_false_iff, decide_eq_false_iff_not, decide_eq_false_iff_not]
  omega

theorem shown_codePoints (text : String) : (codePoints text).shown = text := by
  have hmap : (codePoints text).map
      (fun n => if isSurrogate n then replacementChar else Char.ofNat n) = text.toList := by
    rw [codePoints, List.map_map]
    refine (List.map_congr_left fun c _ => ?_).trans (List.map_id _)
    rw [Function.comp_apply, not_surrogate, if_neg Bool.false_ne_true, Char.ofNat_toNat, id]
  rw [CodePoints.shown, hmap, String.ofList_toList]

/-- A text of characters is plain. -/
theorem plain_codePoints (text : String) : (codePoints text).Plain where
  codePoint := by
    intro n hn
    obtain ⟨c, -, rfl⟩ := List.mem_map.mp hn
    have hvalid : c.toNat < 0xd800 ∨ 0xdfff < c.toNat ∧ c.toNat < 0x110000 := c.valid
    omega
  apart := by
    rw [codePoints, List.isChain_map, List.isChain_iff_getElem]
    intro i hi hpair
    have hvalid : ∀ c : Char, c.toNat < 0xd800 ∨ 0xdfff < c.toNat ∧ c.toNat < 0x110000 :=
      fun c => c.valid
    have hhigh := hvalid text.toList[i]
    omega

mutual

/-- **The document says what the value says.** -/
theorem toJson_doc : ∀ value : Json, value.doc.toJson = value
  | .null => rfl
  | .bool _ => rfl
  | .int _ => rfl
  | .float _ => rfl
  | .str text => congrArg Json.str (shown_codePoints text)
  | .arr items => congrArg Json.arr (itemsToJson_itemsDoc items)
  | .obj fields => congrArg Json.obj (fieldsToJson_fieldsDoc fields)

theorem itemsToJson_itemsDoc : ∀ items : List Json, itemsToJson (itemsDoc items) = items
  | [] => rfl
  | item :: rest => by rw [itemsDoc, itemsToJson, toJson_doc item, itemsToJson_itemsDoc rest]

theorem fieldsToJson_fieldsDoc : ∀ fields : List (String × Json),
    fieldsToJson (fieldsDoc fields) = fields
  | [] => rfl
  | field :: rest => by
    rw [fieldsDoc, fieldsToJson, fieldToJson_fieldDoc field, fieldsToJson_fieldsDoc rest]

theorem fieldToJson_fieldDoc : ∀ field : String × Json, fieldToJson (fieldDoc field) = field
  | (key, value) => by rw [fieldDoc, fieldToJson, shown_codePoints, toJson_doc value]

end

end KovaWfb
