/-
# The radiotap header of a captured packet

`radiotap_meta_from_packet` of `src/rx.rs`, lines 75 to 237.

The parser reads the present words, as many as their extension bits chain, and then walks
the set bits in order, each field at the next offset of its alignment.  It bounds itself by
the length of the packet, not by the header's own length, and stops early at a field it has
no layout for or once four antennas were seen.

Both loops end and no access is out of bounds, whatever the packet holds
(`radiotapMetaFromPacket_returns`).
-/

import KovaWfb.Radio.Proto

namespace KovaWfb

open BigEndian

/-! ### Radiotap field indices and bits -/

@[match_pattern] abbrev rtapTsft : ℕ := 0
@[match_pattern] abbrev rtapFlags : ℕ := 1
@[match_pattern] abbrev rtapRate : ℕ := 2
@[match_pattern] abbrev rtapChannel : ℕ := 3
@[match_pattern] abbrev rtapFhss : ℕ := 4
@[match_pattern] abbrev rtapDbmAntsignal : ℕ := 5
@[match_pattern] abbrev rtapDbmAntnoise : ℕ := 6
@[match_pattern] abbrev rtapLockQuality : ℕ := 7
@[match_pattern] abbrev rtapTxAttenuation : ℕ := 8
@[match_pattern] abbrev rtapDbTxAttenuation : ℕ := 9
@[match_pattern] abbrev rtapDbmTxPower : ℕ := 10
@[match_pattern] abbrev rtapAntenna : ℕ := 11
@[match_pattern] abbrev rtapDbAntsignal : ℕ := 12
@[match_pattern] abbrev rtapDbAntnoise : ℕ := 13
@[match_pattern] abbrev rtapRxFlags : ℕ := 14
@[match_pattern] abbrev rtapTxFlags : ℕ := 15
@[match_pattern] abbrev rtapRtsRetries : ℕ := 16
@[match_pattern] abbrev rtapDataRetries : ℕ := 17
@[match_pattern] abbrev rtapMcs : ℕ := 19
@[match_pattern] abbrev rtapAmpduStatus : ℕ := 20
@[match_pattern] abbrev rtapVht : ℕ := 21
@[match_pattern] abbrev rtapTimestamp : ℕ := 22

abbrev rtapFFcs : UInt8 := 0x10
abbrev rtapFBadfcs : UInt8 := 0x40

abbrev rtapMcsHaveMcs : UInt8 := 0x02
abbrev rtapMcsHaveBw : UInt8 := 0x01

/-! ### The parser -/

/-- `le_u16`. -/
def leU16 (x : Bytes) : Rust ℕ := do
  return ofBE [← Rust.index x 1, ← Rust.index x 0]

/-- `le_u32`. -/
def leU32 (x : Bytes) : Rust ℕ := do
  return ofBE [← Rust.index x 3, ← Rust.index x 2, ← Rust.index x 1, ← Rust.index x 0]

/-- `align_up`; `!` is the complement of a 64-bit number. -/
def alignUp (v align : ℕ) : Rust ℕ := do
  if align ≤ 1 then
    return v
  let mask ← Rust.sub align 1
  return (v + mask) &&& (2 ^ 64 - 1 - mask)

/-- `RadiotapMeta`. -/
structure RadiotapMeta where
  rtFlags : UInt8
  selfInjected : Bool
  freq : UInt16
  antenna : Vector UInt8 4
  rssi : Vector Int8 4
  noise : Vector Int8 4
  antCount : UInt8
  mcsIndex : UInt8
  bandwidth : UInt8
  radiotapLen : ℕ
  deriving DecidableEq

/-- The loop over the present words from `pOff` on; `none` is its `return None`. -/
def presentWords (pkt : Bytes) : ℕ → ℕ → List ℕ → Rust (Option (List ℕ))
  | 0, _, _ => .error .loop
  | fuel + 1, pOff, words => do
    if pOff + 4 > pkt.length then
      return none
    let w ← leU32 (← Rust.slice pkt pOff (pOff + 4))
    let words := words ++ [w &&& 0x7fffffff]
    if w &&& 0x80000000 ≠ 0 then
      presentWords pkt fuel (pOff + 4) words
    else
      return some words

/-- `field_layout`: the alignment and the size of a field. -/
def fieldLayout : ℕ → Option (ℕ × ℕ)
  | rtapTsft => some (8, 8)
  | rtapFlags => some (1, 1)
  | rtapRate => some (1, 1)
  | rtapChannel => some (2, 4)
  | rtapFhss => some (2, 2)
  | rtapDbmAntsignal => some (1, 1)
  | rtapDbmAntnoise => some (1, 1)
  | rtapLockQuality => some (2, 2)
  | rtapTxAttenuation => some (2, 2)
  | rtapDbTxAttenuation => some (2, 2)
  | rtapDbmTxPower => some (1, 1)
  | rtapAntenna => some (1, 1)
  | rtapDbAntsignal => some (1, 1)
  | rtapDbAntnoise => some (1, 1)
  | rtapRxFlags => some (2, 2)
  | rtapTxFlags => some (2, 2)
  | rtapRtsRetries => some (1, 1)
  | rtapDataRetries => some (1, 1)
  | rtapMcs => some (1, 3)
  | rtapAmpduStatus => some (4, 8)
  | rtapVht => some (2, 12)
  | rtapTimestamp => some (8, 12)
  | _ => none

/-- The variables of the loop over the fields. -/
structure FieldState where
  antenna : Vector UInt8 4 := Vector.replicate 4 0xff
  rssi : Vector Int8 4 := Vector.replicate 4 Int8.minValue
  noise : Vector Int8 4 := Vector.replicate 4 Int8.maxValue
  antIdx : ℕ := 0
  rtFlags : UInt8 := 0
  selfInjected : Bool := false
  freq : UInt16 := 0
  mcsIndex : UInt8 := 0
  bandwidth : UInt8 := 20
  curOff : ℕ

/-- The body of the loop once the bytes of a field were cut out. -/
def takeField (st : FieldState) (bytes : Bytes) : ℕ → Rust FieldState
  | rtapAntenna => do
    if st.antIdx < 4 then
      let antenna ← Rust.assignArray st.antenna st.antIdx (← Rust.index bytes 0)
      return { st with antenna, antIdx := st.antIdx + 1 }
    return st
  | rtapDbmAntsignal => do
    if st.antIdx < 4 then
      let rssi ← Rust.assignArray st.rssi st.antIdx (← Rust.index bytes 0).toInt8
      return { st with rssi }
    return st
  | rtapDbmAntnoise => do
    if st.antIdx < 4 then
      let noise ← Rust.assignArray st.noise st.antIdx (← Rust.index bytes 0).toInt8
      return { st with noise }
    return st
  | rtapChannel => do
    let word ← leU32 bytes
    return { st with freq := UInt16.ofNat (word &&& 0xffff) }
  | rtapFlags => do
    return { st with rtFlags := ← Rust.index bytes 0 }
  | rtapTxFlags => do
    return { st with selfInjected := true }
  | rtapMcs => do
    let mcsHave ← Rust.index bytes 0
    let mut st := st
    if mcsHave &&& rtapMcsHaveMcs ≠ 0 then
      st := { st with mcsIndex := (← Rust.index bytes 2) &&& 0x7f }
    if mcsHave &&& rtapMcsHaveBw ≠ 0 then
      if (← Rust.index bytes 1) &&& 0x01 ≠ 0 then
        st := { st with bandwidth := 40 }
    return st
  | _ => return st

/-- The loop over the fields from `fieldIndex` on, `remaining` of them; `none` is its
`return None`, and a `break` returns the variables. -/
def fieldLoop (pkt : Bytes) (words : List ℕ) : ℕ → ℕ → FieldState → Rust (Option FieldState)
  | 0, _, st => return some st
  | remaining + 1, fieldIndex, st => do
    let word ← Rust.index words (fieldIndex / 32)
    if word &&& (1 <<< (fieldIndex % 32)) = 0 then
      fieldLoop pkt words remaining (fieldIndex + 1) st
    else if st.antIdx ≥ 4 then
      return some st
    else
      match fieldLayout fieldIndex with
      | none => return some st
      | some (align, size) =>
        let curOff ← alignUp st.curOff align
        if curOff + size > pkt.length then
          return none
        let fieldBytes ← Rust.slice pkt curOff (curOff + size)
        let st ← takeField { st with curOff } fieldBytes fieldIndex
        fieldLoop pkt words remaining (fieldIndex + 1) { st with curOff := curOff + size }

/-- `radiotap_meta_from_packet`. -/
def radiotapMetaFromPacket (pkt : Bytes) : Rust (Option RadiotapMeta) := do
  if pkt.length < 8 then
    return none
  let version ← Rust.index pkt 0
  if version ≠ 0 then
    return none
  let radiotapLen ← leU16 (← Rust.slice pkt 2 4)
  if radiotapLen > pkt.length then
    return none
  let some presentWords ← presentWords pkt pkt.length 4 [] | return none
  let argsOffset := 8 + 4 * (presentWords.length - 1)
  if argsOffset > pkt.length then
    return none
  let some st ← fieldLoop pkt presentWords (presentWords.length * 32) 0 { curOff := argsOffset }
    | return none
  return some {
    rtFlags := st.rtFlags, selfInjected := st.selfInjected, freq := st.freq,
    antenna := st.antenna, rssi := st.rssi, noise := st.noise,
    antCount := UInt8.ofNat st.antIdx, mcsIndex := st.mcsIndex, bandwidth := st.bandwidth,
    radiotapLen }

/-! ### No panic and no endless loop -/

section Safety

open Rust

theorem leU16_returns {x : Bytes} (h : x.length = 2) : Returns (leU16 x) fun _ => True := by
  unfold leU16
  refine (returns_index (by omega)).bind fun b _ => ?_
  refine (returns_index (by omega)).bind fun c _ => ?_
  exact returns_ok trivial

theorem leU32_returns {x : Bytes} (h : x.length = 4) : Returns (leU32 x) fun _ => True := by
  unfold leU32
  refine (returns_index (by omega)).bind fun b _ => ?_
  refine (returns_index (by omega)).bind fun c _ => ?_
  refine (returns_index (by omega)).bind fun d _ => ?_
  refine (returns_index (by omega)).bind fun e _ => ?_
  exact returns_ok trivial

theorem alignUp_returns (v align : ℕ) : Returns (alignUp v align) fun _ => True := by
  unfold alignUp
  refine returns_ite (fun _ => returns_ok trivial) fun halign => ?_
  rw [sub_of_le (by omega)]
  exact returns_ok trivial

/-- Every round of the loop moves four bytes on inside the packet, so as many rounds as the
packet has bytes are enough. -/
theorem presentWords_returns {pkt : Bytes} {fuel pOff : ℕ} {words : List ℕ}
    (hoff : pOff ≤ pkt.length) (hfuel : pkt.length < pOff + 4 * fuel) :
    Returns (presentWords pkt fuel pOff words) fun _ => True := by
  induction fuel generalizing pOff words with
  | zero => omega
  | succ fuel ih =>
    unfold presentWords
    refine returns_ite (fun _ => returns_ok trivial) fun hlong => ?_
    refine (returns_slice (by omega) (by omega)).bind fun bytes hbytes => ?_
    refine (leU32_returns (by omega)).bind fun w _ => ?_
    refine returns_ite (fun _ => ?_) fun _ => returns_ok trivial
    exact ih (by omega) (by omega)

theorem takeField_returns (st : FieldState) {bytes : Bytes} {field align size : ℕ}
    (hlayout : fieldLayout field = some (align, size)) (hlen : bytes.length = size) :
    Returns (takeField st bytes field) fun _ => True := by
  unfold takeField
  split <;> try obtain ⟨rfl, rfl⟩ := Prod.mk.inj (Option.some.inj hlayout)
  case h_1 | h_2 | h_3 =>
    refine returns_ite (fun hant => ?_) fun _ => returns_ok trivial
    refine (returns_index (by omega)).bind fun b _ => ?_
    rw [assignArray_of_lt hant]
    exact returns_ok trivial
  case h_4 => exact (leU32_returns hlen).bind fun w _ => returns_ok trivial
  case h_5 => exact (returns_index (by omega)).bind fun b _ => returns_ok trivial
  case h_6 => exact returns_ok trivial
  case h_7 =>
    refine (returns_index (by omega)).bind fun mcsHave _ => ?_
    refine returns_ite (fun _ => (returns_index (by omega)).bind fun b _ => ?_) fun _ => ?_ <;>
    · refine returns_ite (fun _ => (returns_index (by omega)).bind fun c _ => ?_) fun _ => returns_ok trivial
      exact returns_ite (fun _ => returns_ok trivial) fun _ => returns_ok trivial
  case h_8 => exact returns_ok trivial

theorem fieldLoop_returns {pkt : Bytes} {words : List ℕ} {remaining fieldIndex : ℕ} {st : FieldState}
    (hwords : fieldIndex + remaining ≤ words.length * 32) :
    Returns (fieldLoop pkt words remaining fieldIndex st) fun _ => True := by
  induction remaining generalizing fieldIndex st with
  | zero => exact returns_ok trivial
  | succ remaining ih =>
    unfold fieldLoop
    refine (returns_index (by omega)).bind fun word _ => ?_
    refine returns_ite (fun _ => ih (by omega)) fun _ => ?_
    refine returns_ite (fun _ => returns_ok trivial) fun _ => ?_
    split
    · exact returns_ok trivial
    · rename_i align size hlayout
      refine (alignUp_returns _ _).bind fun curOff _ => ?_
      refine returns_ite (fun _ => returns_ok trivial) fun hfits => ?_
      refine (returns_slice (by omega) (by omega)).bind fun bytes hbytes => ?_
      refine (takeField_returns _ hlayout (by omega)).bind fun st' _ => ?_
      exact ih (by omega)

/-- **Parsing a radiotap header never panics**, for any packet. -/
theorem radiotapMetaFromPacket_returns (pkt : Bytes) :
    Returns (radiotapMetaFromPacket pkt) fun _ => True := by
  unfold radiotapMetaFromPacket
  refine returns_ite (fun _ => returns_ok trivial) fun hlong => ?_
  refine (returns_index (by omega)).bind fun version _ => ?_
  refine returns_ite (fun _ => returns_ok trivial) fun _ => ?_
  refine (returns_slice (by omega) (by omega)).bind fun bytes hbytes => ?_
  refine (leU16_returns (by omega)).bind fun radiotapLen _ => ?_
  refine returns_ite (fun _ => returns_ok trivial) fun _ => ?_
  refine (presentWords_returns (by omega) (by omega)).bind fun words _ => ?_
  split
  · rename_i words
    refine returns_ite (fun _ => returns_ok trivial) fun _ => ?_
    refine (fieldLoop_returns (by omega)).bind fun st _ => ?_
    split <;> exact returns_ok trivial
  · exact returns_ok trivial

end Safety

end KovaWfb
