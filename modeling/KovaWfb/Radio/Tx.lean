/-
# The transmitter

`src/tx.rs`, lines 11 to 57 and 123 to 258: the two header templates, `WfbTx::open`,
`build_radiotap_ht` and `send`.

Opening the packet socket and `sendmsg` are outside: what they return is an argument, and
what `sendmsg` is handed is part of the result.  The constant offsets into the two header
arrays are inside them, so patching an array is total here.

The `k`-th payload that is not too long goes out behind the three headers, with the
sequence control `16 k` of the 802.11 header; a longer one is refused and changes nothing
(`WfbTx.run_spec`).
-/

import KovaWfb.Radio.Proto

namespace KovaWfb

open BigEndian

/-- `RADIOTAP_HT_TEMPLATE`. -/
def radiotapHtTemplate : Bytes :=
  [0x00, 0x00, 0x0d, 0x00, 0x00, 0x80, 0x08, 0x00, 0x08, 0x00, 0x37, 0x00, 0x00]

abbrev radiotapHeaderHtLen : ℕ := 13
abbrev mcsFlagsOff : ℕ := 11
abbrev mcsIdxOff : ℕ := 12

abbrev mcsBw20 : UInt8 := 0
abbrev mcsBw40 : UInt8 := 1

/-- `IEEE80211_HEADER_TEMPLATE`. -/
def ieee80211HeaderTemplate : Bytes :=
  [0x08, 0x01, 0x00, 0x00,
    0xff, 0xff, 0xff, 0xff, 0xff, 0xff,
    0x57, 0x42, 0xaa, 0xbb, 0xcc, 0xdd,
    0x57, 0x42, 0xaa, 0xbb, 0xcc, 0xdd,
    0x00, 0x00]

abbrev srcMacThirdByte : ℕ := 12
abbrev dstMacThirdByte : ℕ := 18
abbrev frameSeqLb : ℕ := 22
abbrev frameSeqHb : ℕ := 23

/-- `xs[off..off + n].copy_from_slice(ys)` for `n` bytes `ys` and a range inside of the
array. -/
def patch (xs : Bytes) (off : ℕ) (ys : Bytes) : Bytes :=
  xs.take off ++ (ys ++ xs.drop (off + ys.length))

/-- `WfbTx`, without the descriptor. -/
structure WfbTx where
  streamId : UInt32
  frameType : UInt8
  ieee80211Seq : UInt16
  ieeeHdr : Bytes
  radiotapHt : Bytes
  deriving DecidableEq, Repr

/-- `libc::iovec`. -/
structure Iovec where
  base : Bytes
  len : ℕ

/-- The bytes it stands for. -/
def Iovec.bytes (v : Iovec) : Bytes := v.base.take v.len

/-- One call of `send`, with the error `sendmsg` ends in if it does. -/
structure SendCall where
  payload : Bytes
  seq : UInt32
  errno : Option ℕ

/-- What a `send` returns, and what it handed to the socket. -/
structure Sent where
  result : Except WfbError Unit
  handed : Option Bytes

namespace WfbTx

/-- `WfbTx::build_radiotap_ht`. -/
def buildRadiotapHt (tx : WfbTx) (mcsIndex bandwidth : UInt8) : Except WfbError WfbTx := do
  if mcsIndex > 0x0f then
    .error (.invalidArgument s!"mcs_index must be <= 0x0f, got {mcsIndex}")
  else
    let bw ← if bandwidth = 20 then .ok mcsBw20
      else if bandwidth = 40 then .ok mcsBw40
      else .error (.invalidArgument s!"bandwidth must be 20 or 40, got {bandwidth}")
    let radiotapHt := radiotapHtTemplate.set mcsFlagsOff bw
    let radiotapHt := radiotapHt.set mcsIdxOff mcsIndex
    return { tx with radiotapHt }

/-- `WfbTx::open`; `socket` is what `open_pfpacket_tx_socket` returns. -/
def openTx (cfg : WfbTxConfig) (socket : Except WfbError Unit) : Except WfbError WfbTx :=
  if cfg.iface.isEmpty then .error (.invalidArgument "iface is empty")
  else if cfg.streamId = 0 then .error (.invalidArgument "stream_id=0 is disallowed")
  else if cfg.frameType ≠ wfbFrameTypeData ∧ cfg.frameType ≠ wfbFrameTypeRts then
    .error (.invalidArgument "frame_type must be DATA or RTS")
  else
    let mcsIndex := if cfg.mcsIndex = 0 then 1 else cfg.mcsIndex
    let bandwidth := if cfg.bandwidth = 0 then 20 else cfg.bandwidth
    match socket with
    | .error e => .error e
    | .ok () =>
      let ieeeHdr := ieee80211HeaderTemplate.set 0 cfg.frameType
      let streamIdBe := toBE 4 cfg.streamId.toNat
      let ieeeHdr := patch ieeeHdr srcMacThirdByte streamIdBe
      let ieeeHdr := patch ieeeHdr dstMacThirdByte streamIdBe
      buildRadiotapHt
        { streamId := cfg.streamId, frameType := cfg.frameType, ieee80211Seq := 0, ieeeHdr,
          radiotapHt := radiotapHtTemplate } mcsIndex bandwidth

/-- `WfbTx::send`. -/
def send (tx : WfbTx) (c : SendCall) : Sent × WfbTx :=
  let maxPayload := computeMaxPayload
  if c.payload.length > maxPayload then
    ({ result := .error (.invalidArgument
        s!"payload too large: {c.payload.length} > {maxPayload}"), handed := none }, tx)
  else
    let hdr : WfbFrameHeader := {
      version := wfbProtoVersion, seq := c.seq,
      payloadLen := UInt16.ofNat c.payload.length, flags := 0 }
    let hdrBytes := hdr.encode
    let seq16 := tx.ieee80211Seq
    let ieeeHdr := (tx.ieeeHdr.set frameSeqLb (seq16 &&& 0xff).toUInt8).set frameSeqHb
      ((seq16 >>> 8) &&& 0xff).toUInt8
    let iovecs : List Iovec := [
      { base := tx.radiotapHt, len := radiotapHeaderHtLen },
      { base := ieeeHdr, len := ieee80211HeaderLen },
      { base := hdrBytes, len := hdrBytes.length },
      { base := c.payload, len := c.payload.length }]
    ({ result := match c.errno with
        | some errno => .error (.io errno)
        | none => .ok ()
       handed := some (iovecs.flatMap Iovec.bytes) },
      { tx with ieeeHdr, ieee80211Seq := tx.ieee80211Seq + 16 })

/-- Calls of `send` one after the other. -/
def run (tx : WfbTx) : List SendCall → List Sent
  | [] => []
  | c :: calls => (tx.send c).1 :: (tx.send c).2.run calls

end WfbTx

/-! ### What goes out -/

/-- The radiotap header a configuration stands for. -/
def txRadiotap (cfg : WfbTxConfig) : Bytes :=
  [0x00, 0x00, 0x0d, 0x00, 0x00, 0x80, 0x08, 0x00, 0x08, 0x00, 0x37,
    if cfg.bandwidth = 40 then 1 else 0, if cfg.mcsIndex = 0 then 1 else cfg.mcsIndex]

/-- The 802.11 header: a broadcast whose second and third addresses carry the stream id,
and the sequence control, low byte first. -/
def ieee80211Header (frameType : UInt8) (streamId : UInt32) (seqCtl : ℕ) : Bytes :=
  [frameType, 0x01, 0x00, 0x00, 0xff, 0xff, 0xff, 0xff, 0xff, 0xff] ++
    ([0x57, 0x42] ++ (toBE 4 streamId.toNat ++ ([0x57, 0x42] ++ (toBE 4 streamId.toNat ++
      [UInt8.ofNat seqCtl, UInt8.ofNat (seqCtl / 256)]))))

/-- The 802.11 header, the WFB header and the payload of the `k`-th frame. -/
def mpdu (cfg : WfbTxConfig) (k : ℕ) (c : SendCall) : Bytes :=
  ieee80211Header cfg.frameType cfg.streamId (16 * k % 2 ^ 16) ++
    (WfbFrameHeader.encode {
      version := wfbProtoVersion, seq := c.seq,
      payloadLen := UInt16.ofNat c.payload.length, flags := 0 } ++ c.payload)

namespace WfbTx

/-- The state of a transmitter before its `k`-th frame; the last two bytes of the 802.11
header are left from the frame before. -/
structure Ready (cfg : WfbTxConfig) (k : ℕ) (tx : WfbTx) : Prop where
  seq_eq : tx.ieee80211Seq = UInt16.ofNat (16 * k)
  radiotap_eq : tx.radiotapHt = txRadiotap cfg
  ieee_eq : ∃ seqCtl, tx.ieeeHdr = ieee80211Header cfg.frameType cfg.streamId seqCtl

theorem buildRadiotapHt_eq_ok {tx tx' : WfbTx} {mcsIndex bandwidth : UInt8}
    (h : buildRadiotapHt tx mcsIndex bandwidth = .ok tx') :
    tx' = { tx with radiotapHt := [0x00, 0x00, 0x0d, 0x00, 0x00, 0x80, 0x08, 0x00, 0x08, 0x00, 0x37,
      if bandwidth = 40 then 1 else 0, mcsIndex] } := by
  unfold buildRadiotapHt at h
  split at h
  · cases h
  by_cases h20 : bandwidth = 20
  · subst h20
    exact (Except.ok.inj h).symm
  · by_cases h40 : bandwidth = 40
    · subst h40
      exact (Except.ok.inj h).symm
    · rw [if_neg h20, if_neg h40] at h
      cases h

theorem ready_of_openTx {cfg : WfbTxConfig} {socket : Except WfbError Unit} {tx : WfbTx}
    (hopen : openTx cfg socket = .ok tx) : Ready cfg 0 tx := by
  unfold openTx at hopen
  split at hopen
  · cases hopen
  split at hopen
  · cases hopen
  split at hopen
  · cases hopen
  dsimp only at hopen
  split at hopen
  · cases hopen
  rw [buildRadiotapHt_eq_ok hopen]
  refine ⟨rfl, ?_, 0, rfl⟩
  have hbandwidth : ((if cfg.bandwidth = 0 then 20 else cfg.bandwidth) = 40) ↔ cfg.bandwidth = 40 := by
    split
    · rename_i hzero
      rw [hzero]
      decide
    · exact Iff.rfl
  rw [txRadiotap]
  simp only [hbandwidth]

theorem low_byte (s : UInt16) : (s &&& 0xff).toUInt8 = UInt8.ofNat s.toNat := by
  refine UInt8.toNat_inj.1 ?_
  rw [UInt16.toNat_toUInt8, UInt16.toNat_and, UInt8.toNat_ofNat']
  exact (congrArg (· % 256) (Nat.and_two_pow_sub_one_eq_mod s.toNat 8)).trans (Nat.mod_mod _ _)

theorem high_byte (s : UInt16) : ((s >>> 8) &&& 0xff).toUInt8 = UInt8.ofNat (s.toNat / 256) := by
  rw [low_byte, UInt16.toNat_shiftRight]
  exact congrArg UInt8.ofNat (Nat.shiftRight_eq_div_pow s.toNat 8)

/-- **One call of `send`** on a transmitter that is ready for its `k`-th frame. -/
theorem send_spec {cfg : WfbTxConfig} {k : ℕ} {tx : WfbTx} (hready : Ready cfg k tx) (c : SendCall) :
    (computeMaxPayload < c.payload.length ∧ (tx.send c).1.handed = none ∧
        (∃ msg, (tx.send c).1.result = .error (.invalidArgument msg)) ∧ Ready cfg k (tx.send c).2) ∨
      (c.payload.length ≤ computeMaxPayload ∧
        (tx.send c).1.handed = some (txRadiotap cfg ++ mpdu cfg k c) ∧
        Ready cfg (k + 1) (tx.send c).2) := by
  obtain ⟨hseq, hradiotap, seqCtl, hieee⟩ := hready
  unfold send
  dsimp only
  rcases Nat.lt_or_ge computeMaxPayload c.payload.length with hlong | hfits
  · rw [if_pos hlong]
    exact Or.inl ⟨hlong, rfl, ⟨_, rfl⟩, hseq, hradiotap, seqCtl, hieee⟩
  · rw [if_neg (Nat.not_lt.2 hfits)]
    have hnext : ∀ lb hb, ((tx.ieeeHdr.set frameSeqLb lb).set frameSeqHb hb) =
        [cfg.frameType, 0x01, 0x00, 0x00, 0xff, 0xff, 0xff, 0xff, 0xff, 0xff] ++
          ([0x57, 0x42] ++ (toBE 4 cfg.streamId.toNat ++ ([0x57, 0x42] ++
            (toBE 4 cfg.streamId.toNat ++ [lb, hb])))) := by
      intro lb hb
      rw [hieee]
      rfl
    have hpatched : (tx.ieeeHdr.set frameSeqLb (tx.ieee80211Seq &&& 0xff).toUInt8).set frameSeqHb
        ((tx.ieee80211Seq >>> 8) &&& 0xff).toUInt8 =
          ieee80211Header cfg.frameType cfg.streamId (16 * k % 2 ^ 16) := by
      rw [hnext, low_byte, high_byte, hseq]
      rfl
    refine Or.inr ⟨hfits, ?_, ?_, hradiotap, _, hpatched⟩
    · rw [hpatched, hradiotap]
      simp only [List.flatMap_cons, List.flatMap_nil, Iovec.bytes, List.take_length, List.append_nil]
      rfl
    · rw [hseq, Nat.mul_succ, UInt16.ofNat_add]
      rfl

/-- The payloads that `send` does not refuse. -/
def fitting (calls : List SendCall) : List SendCall :=
  calls.filter (·.payload.length ≤ computeMaxPayload)

/-- **What a sequence of calls hands to the socket**: the payloads that fit, each behind
the headers of its number among them. -/
theorem run_spec {cfg : WfbTxConfig} {k : ℕ} {tx : WfbTx} (hready : Ready cfg k tx)
    (calls : List SendCall) :
    (tx.run calls).filterMap Sent.handed =
        (fitting calls).mapIdx (fun i c => txRadiotap cfg ++ mpdu cfg (k + i) c) ∧
      List.Forall₂ (fun c sent => computeMaxPayload < c.payload.length →
        sent.handed = none ∧ ∃ msg, sent.result = .error (.invalidArgument msg))
        calls (tx.run calls) := by
  induction calls generalizing k tx with
  | nil => exact ⟨rfl, .nil⟩
  | cons c calls ih =>
    rcases send_spec hready c with ⟨hlong, hnone, herror, hnext⟩ | ⟨hfits, hhanded, hnext⟩
    · obtain ⟨hrest, hrefused⟩ := ih hnext
      have hfilter : fitting (c :: calls) = fitting calls :=
        List.filter_cons_of_neg (by simpa using hlong)
      refine ⟨?_, .cons (fun _ => ⟨hnone, herror⟩) hrefused⟩
      rw [run, List.filterMap_cons, hnone, hrest, hfilter]
    · obtain ⟨hrest, hrefused⟩ := ih hnext
      have hfilter : fitting (c :: calls) = c :: fitting calls :=
        List.filter_cons_of_pos (by simpa using hfits)
      refine ⟨?_, .cons (fun hlong => absurd hfits (Nat.not_le.2 hlong)) hrefused⟩
      rw [run, List.filterMap_cons, hhanded, hrest, hfilter, List.mapIdx_cons]
      simp only [Nat.add_zero, Nat.add_right_comm, Nat.add_assoc]

end WfbTx

end KovaWfb
