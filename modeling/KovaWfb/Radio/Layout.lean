/-
# A radiotap header that is laid out as the standard says

What a capture puts in front of a frame: version 0, a length, one present word and the
arguments of the fields whose bits are set, in increasing order, each behind the padding
that its alignment asks for (`Laid`).  Alignments and sizes are those of `field_layout`, so
the fields are 0 to 17 and 19 to 22.

On such a header `radiotap_meta_from_packet` finds every argument where it was put, whatever
the padding holds and whatever follows the header (`radiotapMetaFromPacket_bytes`): what it
reports is read off the arguments (`RtHeader.rtMeta`).
-/

import KovaWfb.Radio.Radiotap
import Mathlib.Data.Nat.Bitwise

namespace KovaWfb

open BigEndian Rust

/-- A field of a header: the padding in front of its argument, and the argument. -/
structure RtField where
  index : ℕ
  pad : Bytes
  arg : Bytes
  deriving DecidableEq, Repr

/-- The bytes of a field. -/
def RtField.bytes (f : RtField) : Bytes := f.pad ++ f.arg

/-- The fields lie behind each other from an offset on, with increasing indices from
`least` on, each argument at its alignment and of its size. -/
inductive Laid : ℕ → ℕ → List RtField → Prop
  | nil (off least : ℕ) : Laid off least []
  | cons {off least align size : ℕ} {f : RtField} {fields : List RtField} (hindex : least ≤ f.index)
      (hlayout : fieldLayout f.index = some (align, size)) (hpad : f.pad.length < align)
      (haligned : align ∣ off + f.pad.length) (harg : f.arg.length = size)
      (hrest : Laid (off + f.pad.length + size) (f.index + 1) fields) : Laid off least (f :: fields)

/-- The present word: the bits of the fields. -/
def presentWord : List RtField → ℕ
  | [] => 0
  | f :: fields => 2 ^ f.index ||| presentWord fields

/-- A radiotap header. -/
structure RtHeader where
  pad : UInt8
  fields : List RtField
  laid : Laid 8 0 fields

namespace RtHeader

/-- `it_len`. -/
def length (h : RtHeader) : ℕ := 8 + (h.fields.flatMap RtField.bytes).length

/-- The header's bytes; the numbers are little-endian. -/
def bytes (h : RtHeader) : Bytes :=
  [0, h.pad] ++ ((toBE 2 h.length).reverse ++ ((toBE 4 (presentWord h.fields)).reverse ++
    h.fields.flatMap RtField.bytes))

/-- The argument of a field, if it is present. -/
def arg (h : RtHeader) (index : ℕ) : Option Bytes :=
  (h.fields.find? (·.index = index)).map RtField.arg

/-- What the header says, read off the arguments. -/
def rtMeta (h : RtHeader) : RadiotapMeta where
  rtFlags := (h.arg rtapFlags).elim 0 (·.getD 0 0)
  selfInjected := (h.arg rtapTxFlags).isSome
  freq := (h.arg rtapChannel).elim 0 fun b => UInt16.ofNat (ofBE [b.getD 1 0, b.getD 0 0])
  antenna := (h.arg rtapAntenna).elim (Vector.replicate 4 0xff) fun b => #v[b.getD 0 0, 0xff, 0xff, 0xff]
  rssi := (h.arg rtapDbmAntsignal).elim (Vector.replicate 4 Int8.minValue)
    fun b => #v[(b.getD 0 0).toInt8, Int8.minValue, Int8.minValue, Int8.minValue]
  noise := (h.arg rtapDbmAntnoise).elim (Vector.replicate 4 Int8.maxValue)
    fun b => #v[(b.getD 0 0).toInt8, Int8.maxValue, Int8.maxValue, Int8.maxValue]
  antCount := if (h.arg rtapAntenna).isSome then 1 else 0
  mcsIndex := (h.arg rtapMcs).elim 0 fun b =>
    if b.getD 0 0 &&& rtapMcsHaveMcs ≠ 0 then b.getD 2 0 &&& 0x7f else 0
  bandwidth := (h.arg rtapMcs).elim 20 fun b =>
    if b.getD 0 0 &&& rtapMcsHaveBw ≠ 0 ∧ b.getD 1 0 &&& 0x01 ≠ 0 then 40 else 20
  radiotapLen := h.length

end RtHeader

/-! ### Alignments and sizes -/

theorem fieldLayout_bounds {i align size : ℕ} (h : fieldLayout i = some (align, size)) :
    i ≤ 22 ∧ (∃ n ≤ 3, align = 2 ^ n) ∧ 1 ≤ size ∧ size ≤ 12 := by
  unfold fieldLayout at h
  split at h <;> cases h <;> decide

/-- Rounding a small number up by masking. -/
theorem alignUp_eq {off pad align n : ℕ} (hpow : align = 2 ^ n) (hn : n ≤ 3) (hoff : off < 2 ^ 60)
    (hpad : pad < align) (haligned : align ∣ off + pad) : alignUp off align = .ok (off + pad) := by
  unfold alignUp
  split
  · have hzero : pad = 0 := by omega
    rw [hzero]
    rfl
  · rename_i halign
    have hle : align ≤ 2 ^ 3 := hpow ▸ Nat.pow_le_pow_right Nat.two_pos hn
    rw [sub_of_le (by omega), ok_bind]
    have hmask : (off + (align - 1)) &&& (2 ^ 64 - 1 - (align - 1)) =
        (off + (align - 1)) / align * align := by
      refine Nat.eq_of_testBit_eq fun i => ?_
      have hcompl : 2 ^ 64 - 1 - (align - 1) = 2 ^ 64 - ((align - 1) + 1) := by omega
      have hhigh : 64 ≤ i → (off + (2 ^ n - 1)).testBit i = false := fun hi =>
        Nat.testBit_lt_two_pow (Nat.lt_of_lt_of_le (show _ < 2 ^ 64 by omega)
          (Nat.pow_le_pow_right Nat.two_pos hi))
      rw [Nat.testBit_and, hcompl, Nat.testBit_two_pow_sub_succ (by omega), hpow,
        Nat.testBit_two_pow_sub_one, Nat.testBit_mul_two_pow, Nat.testBit_div_two_pow]
      rcases Nat.lt_or_ge i n with hlow | hge
      · simp [hlow, Nat.not_le.2 hlow]
      · rw [Nat.sub_add_cancel hge]
        rcases Nat.lt_or_ge i 64 with hi | hi
        · simp [hi, hge, Nat.not_lt.2 hge]
        · simp [hhigh hi]
    have hround : (off + (align - 1)) / align * align = off + pad := by
      obtain ⟨c, hc⟩ := haligned
      have hsplit : off + (align - 1) = (align - 1 - pad) + align * c := by omega
      rw [hsplit, Nat.add_mul_div_left _ _ (by omega), Nat.div_eq_of_lt (by omega), Nat.zero_add, hc,
        Nat.mul_comm]
    rw [hmask, hround]
    rfl

/-- Each field takes at most 19 bytes, its padding included. -/
theorem Laid.length_le {off least : ℕ} {fields : List RtField} (h : Laid off least fields)
    (hleast : least ≤ 23) : (fields.flatMap RtField.bytes).length ≤ 19 * (23 - least) := by
  induction h with
  | nil => exact Nat.zero_le _
  | @cons off least align size f fields hindex hlayout hpad haligned harg hrest ih =>
    obtain ⟨hi, ⟨n, hn, rfl⟩, hsize⟩ := fieldLayout_bounds hlayout
    have hrec := ih (by omega)
    have hle : 2 ^ n ≤ 2 ^ 3 := Nat.pow_le_pow_right Nat.two_pos hn
    rw [List.flatMap_cons, List.length_append, RtField.bytes, List.length_append]
    omega

/-! ### The present word -/

theorem testBit_presentWord (fields : List RtField) (i : ℕ) :
    (presentWord fields).testBit i = fields.any (·.index = i) := by
  induction fields with
  | nil => exact Nat.zero_testBit i
  | cons f fields ih => rw [presentWord, Nat.testBit_or, ih, Nat.testBit_two_pow, List.any_cons]

theorem Laid.index_ge {off least : ℕ} {fields : List RtField} (h : Laid off least fields) :
    ∀ f ∈ fields, least ≤ f.index ∧ f.index ≤ 22 := by
  induction h with
  | nil => exact fun f hf => absurd hf List.not_mem_nil
  | cons hindex hlayout _ _ _ _ ih =>
    intro f hf
    rcases List.mem_cons.1 hf with rfl | hf
    · exact ⟨hindex, (fieldLayout_bounds hlayout).1⟩
    · exact ⟨by have := (ih f hf).1; omega, (ih f hf).2⟩

theorem Laid.presentWord_lt {off least : ℕ} {fields : List RtField} (h : Laid off least fields) :
    presentWord fields < 2 ^ 23 := by
  refine Nat.lt_pow_two_of_testBit _ fun i hi => ?_
  rw [testBit_presentWord, List.any_eq_false]
  intro f hf
  have := (h.index_ge f hf).2
  simp only [decide_eq_true_eq]
  omega

/-! ### The loop over the fields -/

namespace FieldState

/-- `xs[i] = a` where `i` is a place of the array. -/
def put {α : Type} (xs : Vector α 4) (i : ℕ) (a : α) : Vector α 4 :=
  if h : i < 4 then xs.set i a h else xs

/-- What the loop body does with the argument of a field, when four antennas were not seen
yet: which field sets which variable. -/
def take (st : FieldState) (f : RtField) : FieldState :=
  let b (n : ℕ) := f.arg.getD n 0
  { st with
    rtFlags := if f.index = rtapFlags then b 0 else st.rtFlags
    freq := if f.index = rtapChannel then UInt16.ofNat (ofBE [b 1, b 0]) else st.freq
    rssi := if f.index = rtapDbmAntsignal then put st.rssi st.antIdx (b 0).toInt8 else st.rssi
    noise := if f.index = rtapDbmAntnoise then put st.noise st.antIdx (b 0).toInt8 else st.noise
    antenna := if f.index = rtapAntenna then put st.antenna st.antIdx (b 0) else st.antenna
    antIdx := if f.index = rtapAntenna then st.antIdx + 1 else st.antIdx
    selfInjected := if f.index = rtapTxFlags then true else st.selfInjected
    mcsIndex :=
      if f.index = rtapMcs then
        if b 0 &&& rtapMcsHaveMcs ≠ 0 then b 2 &&& 0x7f else st.mcsIndex
      else st.mcsIndex
    bandwidth :=
      if f.index = rtapMcs then
        if b 0 &&& rtapMcsHaveBw ≠ 0 ∧ b 1 &&& 0x01 ≠ 0 then 40 else st.bandwidth
      else st.bandwidth }

/-- The same variables at another offset. -/
def atOff (st : FieldState) (off : ℕ) : FieldState := { st with curOff := off }

theorem take_atOff (st : FieldState) (f : RtField) (off : ℕ) :
    (st.atOff off).take f = (st.take f).atOff off := rfl

theorem foldl_take_atOff (fields : List RtField) (st : FieldState) (off : ℕ) :
    fields.foldl take (st.atOff off) = (fields.foldl take st).atOff off := by
  induction fields generalizing st with
  | nil => rfl
  | cons f fields ih => rw [List.foldl_cons, take_atOff, ih, List.foldl_cons]

end FieldState

theorem freq_of_word (a b c d : UInt8) :
    UInt16.ofNat (ofBE [d, c, b, a] &&& 0xffff) = UInt16.ofNat (ofBE [b, a]) := by
  refine congrArg UInt16.ofNat ?_
  have ha := a.toNat_lt
  have hb := b.toNat_lt
  rw [show (0xffff : ℕ) = 2 ^ 16 - 1 from rfl, Nat.and_two_pow_sub_one_eq_mod]
  simp only [ofBE, List.length_cons, List.length_nil]
  omega

theorem leU32_of_length {x : Bytes} (h : x.length = 4) :
    leU32 x = .ok (ofBE [x.getD 3 0, x.getD 2 0, x.getD 1 0, x.getD 0 0]) := by
  unfold leU32
  rw [index_eq_getD (by omega) 0, index_eq_getD (by omega) 0, index_eq_getD (by omega) 0,
    index_eq_getD (by omega) 0]
  rfl

theorem takeField_eq {st : FieldState} {f : RtField} {align : ℕ}
    (hlayout : fieldLayout f.index = some (align, f.arg.length)) (hant : st.antIdx < 4) :
    takeField st f.arg f.index = .ok (st.take f) := by
  have hput : ∀ {α : Type} (xs : Vector α 4) (v : α),
      assignArray xs st.antIdx v = .ok (FieldState.put xs st.antIdx v) := by
    intro α xs v
    rw [assignArray_of_lt hant, FieldState.put, dif_pos hant]
  unfold takeField FieldState.take
  generalize f.index = i at hlayout
  split
  case h_1 | h_2 | h_3 =>
    obtain ⟨-, hlen⟩ := Prod.mk.inj (Option.some.inj hlayout)
    rw [if_pos hant, index_eq_getD (by omega) 0, ok_bind, hput]
    rfl
  case h_4 =>
    obtain ⟨-, hlen⟩ := Prod.mk.inj (Option.some.inj hlayout)
    rw [leU32_of_length hlen.symm, ok_bind, freq_of_word]
    rfl
  case h_5 =>
    obtain ⟨-, hlen⟩ := Prod.mk.inj (Option.some.inj hlayout)
    rw [index_eq_getD (by omega) 0]
    rfl
  case h_6 => rfl
  case h_7 =>
    obtain ⟨-, hlen⟩ := Prod.mk.inj (Option.some.inj hlayout)
    obtain ⟨b₀, b₁, b₂, harg⟩ := List.length_eq_three.1 hlen.symm
    simp only [harg]
    by_cases hmcs : b₀ &&& rtapMcsHaveMcs = 0 <;> by_cases hbw : b₀ &&& rtapMcsHaveBw = 0 <;>
      by_cases hbit : b₁ &&& 1 = 0 <;>
        simp [hmcs, hbw, hbit, index, bind, Except.bind, pure, Except.pure]
  case h_8 =>
    simp_all
    rfl

theorem bit_clear_iff (w i : ℕ) : w &&& (1 <<< i) = 0 ↔ w.testBit i = false := by
  rw [Nat.one_shiftLeft, Nat.and_two_pow]
  cases w.testBit i <;> simp

/-- A field that is not present. -/
theorem fieldLoop_skip {pkt : Bytes} {words : List ℕ} {w remaining i : ℕ} {st : FieldState}
    (hword : index words (i / 32) = .ok w) (hclear : w.testBit (i % 32) = false) :
    fieldLoop pkt words (remaining + 1) i st = fieldLoop pkt words remaining (i + 1) st := by
  rw [fieldLoop, hword, ok_bind, if_pos ((bit_clear_iff w _).2 hclear)]

/-- A field that is present, with its argument where the loop looks for it. -/
theorem fieldLoop_take {pkt tail : Bytes} {words : List ℕ} {w align : ℕ} {st : FieldState}
    {f : RtField} (remaining : ℕ) (hword : index words (f.index / 32) = .ok w)
    (hset : w.testBit (f.index % 32) = true) (hant : st.antIdx < 4)
    (hlayout : fieldLayout f.index = some (align, f.arg.length)) (hoff : st.curOff < 2 ^ 60)
    (hpad : f.pad.length < align) (haligned : align ∣ st.curOff + f.pad.length)
    (hbytes : pkt.drop st.curOff = f.bytes ++ tail) :
    fieldLoop pkt words (remaining + 1) f.index st = fieldLoop pkt words remaining (f.index + 1)
        ((st.take f).atOff (st.curOff + f.pad.length + f.arg.length)) ∧
      pkt.drop (st.curOff + f.pad.length + f.arg.length) = tail := by
  obtain ⟨-, ⟨n, hn, hpow⟩, -⟩ := fieldLayout_bounds hlayout
  rw [RtField.bytes, List.append_assoc] at hbytes
  have harg : pkt.drop (st.curOff + f.pad.length) = f.arg ++ tail := by
    rw [← List.drop_drop, hbytes, List.drop_left]
  have hrest : pkt.drop (st.curOff + f.pad.length + f.arg.length) = tail := by
    rw [← List.drop_drop, harg, List.drop_left]
  refine ⟨?_, hrest⟩
  have hend : st.curOff + f.pad.length + f.arg.length ≤ pkt.length := by
    have hpos := (fieldLayout_bounds hlayout).2.2
    have hlen := congrArg List.length harg
    rw [List.length_drop, List.length_append] at hlen
    omega
  have hcut : slice pkt (st.curOff + f.pad.length) (st.curOff + f.pad.length + f.arg.length) =
      .ok f.arg := by
    rw [slice_of_le (by omega) hend, Nat.add_sub_cancel_left, harg, List.take_left]
  have htake : takeField { st with curOff := st.curOff + f.pad.length } f.arg f.index =
      .ok ((st.take f).atOff (st.curOff + f.pad.length)) := by
    have hroom : (st.atOff (st.curOff + f.pad.length)).antIdx < 4 := hant
    exact (takeField_eq hlayout hroom).trans (congrArg Except.ok (FieldState.take_atOff ..))
  rw [fieldLoop, hword, ok_bind, if_neg (by rw [bit_clear_iff, hset]; simp), if_neg (by omega), hlayout]
  dsimp only
  rw [alignUp_eq hpow hn hoff hpad haligned, ok_bind, if_neg (Nat.not_lt.2 hend), hcut, ok_bind, htake,
    ok_bind]
  rfl

/-- **The loop finds every argument where it was put.**  From a field index on, with the
fields from there on laid out behind the offset reached, it takes them all. -/
theorem fieldLoop_laid {pkt tail : Bytes} {w remaining i : ℕ} {st : FieldState} {fields : List RtField}
    (hlaid : Laid st.curOff i fields) (hi : i + remaining = 32)
    (hbits : ∀ j, i ≤ j → w.testBit j = fields.any (·.index = j))
    (hbytes : pkt.drop st.curOff = fields.flatMap RtField.bytes ++ tail)
    (hsmall : st.curOff ≤ 8 + 19 * i) (hant : st.antIdx ≤ if i ≤ rtapAntenna then 0 else 1) :
    ∃ off, fieldLoop pkt [w] remaining i st = .ok (some ((fields.foldl FieldState.take st).atOff off)) := by
  induction remaining generalizing i st fields with
  | zero =>
    cases hlaid with
    | nil => exact ⟨st.curOff, rfl⟩
    | cons hindex hlayout =>
      have := (fieldLayout_bounds hlayout).1
      omega
  | succ remaining ih =>
    have hmod : i % 32 = i := Nat.mod_eq_of_lt (by omega)
    have hword : index [w] (i / 32) = .ok w := by
      rw [Nat.div_eq_of_lt (by omega)]
      rfl
    have hskip : (∀ f ∈ fields, f.index ≠ i) → Laid st.curOff (i + 1) fields →
        ∃ off, fieldLoop pkt [w] (remaining + 1) i st =
          .ok (some ((fields.foldl FieldState.take st).atOff off)) := by
      intro hne hlaid'
      have hclear : w.testBit i = false := by
        rw [hbits i le_rfl, List.any_eq_false]
        exact fun g hg => by simpa using hne g hg
      have hantNext : st.antIdx ≤ if i + 1 ≤ rtapAntenna then 0 else 1 := by
        refine hant.trans ?_
        split <;> split <;> omega
      rw [fieldLoop_skip hword (by rw [hmod]; exact hclear)]
      exact ih hlaid' (by omega) (fun j hj => hbits j (by omega)) hbytes (by omega) hantNext
    cases hlaid with
    | nil => exact hskip (fun f hf => absurd hf List.not_mem_nil) (.nil ..)
    | @cons _ _ align size f fields hindex hlayout hpad haligned harg hrest =>
      rcases Nat.lt_or_eq_of_le hindex with hlater | hnow
      · refine hskip (fun g hg => ?_) (.cons hlater hlayout hpad haligned harg hrest)
        rcases List.mem_cons.1 hg with rfl | hg
        · omega
        · have := (hrest.index_ge g hg).1
          omega
      · subst hnow
        subst harg
        obtain ⟨-, ⟨n, hn, hpow⟩, hsize⟩ := fieldLayout_bounds hlayout
        have hle : align ≤ 2 ^ 3 := hpow ▸ Nat.pow_le_pow_right Nat.two_pos hn
        have hset : w.testBit f.index = true := by
          rw [hbits _ le_rfl, List.any_cons, decide_eq_true rfl, Bool.true_or]
        have hroom : st.antIdx < 4 := by split at hant <;> omega
        rw [List.flatMap_cons, List.append_assoc] at hbytes
        obtain ⟨htake, hrest'⟩ := fieldLoop_take remaining hword (by rw [hmod]; exact hset)
          hroom hlayout (by omega) hpad haligned hbytes
        have hbitsNext : ∀ j, f.index + 1 ≤ j → w.testBit j = fields.any (·.index = j) := by
          intro j hj
          rw [hbits j (by omega), List.any_cons, decide_eq_false (by omega), Bool.false_or]
        have hantTaken : (st.take f).antIdx ≤ if f.index + 1 ≤ rtapAntenna then 0 else 1 := by
          have hantenna : rtapAntenna = 11 := rfl
          show (if f.index = rtapAntenna then st.antIdx + 1 else st.antIdx) ≤ _
          split_ifs at hant ⊢ <;> omega
        obtain ⟨off, hloop⟩ := @ih (f.index + 1)
          ((st.take f).atOff (st.curOff + f.pad.length + f.arg.length)) fields hrest (by omega) hbitsNext
          hrest' (show st.curOff + f.pad.length + f.arg.length ≤ _ by omega) hantTaken
        refine ⟨off, htake.trans (hloop.trans ?_)⟩
        rw [FieldState.foldl_take_atOff]
        rfl

/-! ### What the arguments say -/

theorem foldl_take_of_ne {β : Type} (π : FieldState → β) {i : ℕ}
    (hother : ∀ st f, f.index ≠ i → π (st.take f) = π st) {fields : List RtField}
    (hne : ∀ f ∈ fields, f.index ≠ i) (st : FieldState) : π (fields.foldl FieldState.take st) = π st := by
  induction fields generalizing st with
  | nil => rfl
  | cons f fields ih =>
    rw [List.foldl_cons, ih (fun g hg => hne g (List.mem_cons_of_mem f hg))]
    exact hother st f (hne f List.mem_cons_self)

/-- A variable that only field `i` sets is what the argument of field `i` says. -/
theorem foldl_take_eq {β : Type} (π : FieldState → β) (i : ℕ) (init : β) (g : Bytes → β)
    (hother : ∀ st f, f.index ≠ i → π (st.take f) = π st)
    (hself : ∀ st f, f.index = i → π st = init → (i ≤ rtapAntenna → st.antIdx = 0) →
      π (st.take f) = g f.arg)
    {off least : ℕ} {fields : List RtField} (hlaid : Laid off least fields) {st : FieldState}
    (hinit : π st = init) (hant : st.antIdx = 0 ∨ rtapAntenna < least) :
    π (fields.foldl FieldState.take st) = ((fields.find? (·.index = i)).map RtField.arg).elim init g := by
  induction hlaid generalizing st with
  | nil => exact hinit
  | @cons off least align size f fields hindex hlayout hpad haligned harg hrest ih =>
    rw [List.foldl_cons]
    by_cases hi : f.index = i
    · have hlater : ∀ g ∈ fields, g.index ≠ i := fun g hg => by
        have := (hrest.index_ge g hg).1
        omega
      rw [List.find?_cons_of_pos (p := fun e : RtField => decide (e.index = i)) (decide_eq_true hi),
        foldl_take_of_ne π hother hlater]
      exact hself st f hi hinit fun hle => hant.resolve_right (by omega)
    · rw [List.find?_cons_of_neg (p := fun e : RtField => decide (e.index = i)) (by simpa using hi)]
      refine ih ((hother st f hi).trans hinit) ?_
      show (if _ then _ else _) = 0 ∨ _
      split <;> omega

theorem leU16_reverse {v : ℕ} (h : v < 256 ^ 2) : leU16 (toBE 2 v).reverse = .ok v := by
  conv_rhs => rw [← ofBE_toBE_of_lt h]
  rfl

theorem leU32_reverse {v : ℕ} (h : v < 256 ^ 4) : leU32 (toBE 4 v).reverse = .ok v := by
  conv_rhs => rw [← ofBE_toBE_of_lt h]
  rfl

theorem presentWords_single {pkt : Bytes} {w fuel : ℕ} (hfuel : 0 < fuel) (hlen : 8 ≤ pkt.length)
    (hslice : slice pkt 4 8 = .ok (toBE 4 w).reverse) (hw : w < 2 ^ 31) :
    presentWords pkt fuel 4 [] = .ok (some [w]) := by
  obtain ⟨fuel, rfl⟩ := Nat.exists_eq_add_one_of_ne_zero (Nat.pos_iff_ne_zero.1 hfuel)
  have hmask : w &&& 0x7fffffff = w := Nat.and_two_pow_sub_one_of_lt_two_pow hw
  have hlast : w &&& 0x80000000 = 0 := by
    have hbit : w.testBit 31 = false := Nat.testBit_lt_two_pow hw
    exact (bit_clear_iff w 31).2 hbit
  unfold presentWords
  rw [if_neg (by omega), hslice, ok_bind, leU32_reverse (hw.trans (by decide)), ok_bind]
  simp only [hmask, hlast]
  rfl

namespace RtHeader

theorem length_bounds (h : RtHeader) : 8 ≤ h.length ∧ h.length ≤ 445 := by
  have := h.laid.length_le (by decide)
  rw [length]
  omega

theorem length_bytes (h : RtHeader) : h.bytes.length = h.length := by
  simp only [bytes, length, List.length_append, List.length_reverse, length_toBE, List.length_cons,
    List.length_nil]
  omega

/-- **A header that is laid out as the standard says is read as it was written**, whatever
follows it. -/
theorem radiotapMetaFromPacket_bytes (h : RtHeader) (rest : Bytes) :
    radiotapMetaFromPacket (h.bytes ++ rest) = .ok (some h.rtMeta) := by
  obtain ⟨hmin, hmax⟩ := h.length_bounds
  have hlen : (h.bytes ++ rest).length = h.length + rest.length := by
    rw [List.length_append, length_bytes]
  have hword := h.laid.presentWord_lt
  have hversion : index (h.bytes ++ rest) 0 = .ok 0 := rfl
  have hlenSlice : slice (h.bytes ++ rest) 2 4 = .ok (toBE 2 h.length).reverse := by
    rw [slice_of_le (by decide) (by omega)]
    rfl
  have hpresent : slice (h.bytes ++ rest) 4 8 = .ok (toBE 4 (presentWord h.fields)).reverse := by
    rw [slice_of_le (by decide) (by omega)]
    rfl
  have hfields : (h.bytes ++ rest).drop 8 = h.fields.flatMap RtField.bytes ++ rest := rfl
  obtain ⟨off, hloop⟩ : ∃ off, fieldLoop (h.bytes ++ rest) [presentWord h.fields] 32 0 { curOff := 8 } =
      .ok (some ((h.fields.foldl FieldState.take { curOff := 8 }).atOff off)) :=
    fieldLoop_laid h.laid rfl (fun j _ => testBit_presentWord h.fields j) hfields (by decide) (by decide)
  unfold radiotapMetaFromPacket
  rw [if_neg (by omega), hversion, ok_bind, if_neg (by decide), hlenSlice, ok_bind,
    leU16_reverse (by omega), ok_bind, if_neg (by omega),
    presentWords_single (by omega) (by omega) hpresent (by omega), ok_bind]
  dsimp only
  rw [if_neg (by rw [List.length_singleton]; omega)]
  rw [show fieldLoop (h.bytes ++ rest) [presentWord h.fields] ([presentWord h.fields].length * 32) 0
    { curOff := 8 + 4 * ([presentWord h.fields].length - 1) } = _ from hloop, ok_bind]
  have hread : ∀ {β : Type} (π : FieldState → β) (i : ℕ) (init : β) (g : Bytes → β),
      (∀ st f, f.index ≠ i → π (st.take f) = π st) →
      (∀ st f, f.index = i → π st = init → (i ≤ rtapAntenna → st.antIdx = 0) → π (st.take f) = g f.arg) →
      π { curOff := 8 } = init →
      π (h.fields.foldl FieldState.take { curOff := 8 }) = (h.arg i).elim init g :=
    fun π i init g hother hself hinit => foldl_take_eq π i init g hother hself h.laid hinit (Or.inl rfl)
  have hflags := hread FieldState.rtFlags rtapFlags 0 (·.getD 0 0)
    (fun _ _ hne => if_neg hne) (fun _ _ hi _ _ => if_pos hi) rfl
  have hself := hread FieldState.selfInjected rtapTxFlags false (fun _ => true)
    (fun _ _ hne => if_neg hne) (fun _ _ hi _ _ => if_pos hi) rfl
  have hfreq := hread FieldState.freq rtapChannel 0 (fun b => UInt16.ofNat (ofBE [b.getD 1 0, b.getD 0 0]))
    (fun _ _ hne => if_neg hne) (fun _ _ hi _ _ => if_pos hi) rfl
  have hantenna := hread FieldState.antenna rtapAntenna (Vector.replicate 4 0xff)
    (fun b => #v[b.getD 0 0, 0xff, 0xff, 0xff]) (fun _ _ hne => if_neg hne)
    (fun st f hi hst hidx => (if_pos hi).trans (by rw [hst, hidx le_rfl]; rfl)) rfl
  have hrssi := hread FieldState.rssi rtapDbmAntsignal (Vector.replicate 4 Int8.minValue)
    (fun b => #v[(b.getD 0 0).toInt8, Int8.minValue, Int8.minValue, Int8.minValue])
    (fun _ _ hne => if_neg hne)
    (fun st f hi hst hidx => (if_pos hi).trans (by rw [hst, hidx (by decide)]; rfl)) rfl
  have hnoise := hread FieldState.noise rtapDbmAntnoise (Vector.replicate 4 Int8.maxValue)
    (fun b => #v[(b.getD 0 0).toInt8, Int8.maxValue, Int8.maxValue, Int8.maxValue])
    (fun _ _ hne => if_neg hne)
    (fun st f hi hst hidx => (if_pos hi).trans (by rw [hst, hidx (by decide)]; rfl)) rfl
  have hcount := hread FieldState.antIdx rtapAntenna 0 (fun _ => 1) (fun _ _ hne => if_neg hne)
    (fun st f hi hst _ => (if_pos hi).trans (by rw [hst])) rfl
  have hmcs := hread FieldState.mcsIndex rtapMcs 0
    (fun b => if b.getD 0 0 &&& rtapMcsHaveMcs ≠ 0 then b.getD 2 0 &&& 0x7f else 0)
    (fun _ _ hne => if_neg hne) (fun st f hi hst _ => (if_pos hi).trans (by rw [hst])) rfl
  have hbandwidth := hread FieldState.bandwidth rtapMcs 20
    (fun b => if b.getD 0 0 &&& rtapMcsHaveBw ≠ 0 ∧ b.getD 1 0 &&& 0x01 ≠ 0 then 40 else 20)
    (fun _ _ hne => if_neg hne) (fun st f hi hst _ => (if_pos hi).trans (by rw [hst])) rfl
  refine congrArg (Except.ok ∘ some) ?_
  simp only [FieldState.atOff, rtMeta, hflags, hself, hfreq, hantenna, hrssi, hnoise, hcount, hmcs, hbandwidth]
  cases h.arg rtapTxFlags <;> cases h.arg rtapAntenna <;> rfl

end RtHeader

end KovaWfb
