/-
# What is sent is received

`WfbTx::send` of `src/tx.rs` and `parse_and_enqueue_one_packet` of `src/rx.rs` compute
their offsets on their own: the transmitter writes a radiotap header of 13 bytes, the
capture on the other side puts its own in front of the frame, and an FCS behind it or not.

Whatever fields that header has, the frame that `send` handed to the socket is found behind
it, and `recv` returns its payload and the metadata of the header (`tx_rx_round_trip`).
-/

import KovaWfb.Radio.Fifo
import KovaWfb.Radio.Layout
import KovaWfb.Radio.Tx

namespace KovaWfb

open BigEndian Rust WfbRx

/-! ### The WFB header -/

theorem WfbFrameHeader.decode_encode (h : WfbFrameHeader) :
    decode h.encode = .ok (.ok (h, wfbPlaintextHdrLen)) := by
  have hseq : UInt32.ofNat (ofBE (toBE 4 h.seq.toNat)) = h.seq := by
    rw [ofBE_toBE_of_lt h.seq.toNat_lt, UInt32.ofNat_toNat]
  have hlen : UInt16.ofNat (ofBE (toBE 2 h.payloadLen.toNat)) = h.payloadLen := by
    rw [ofBE_toBE_of_lt h.payloadLen.toNat_lt, UInt16.ofNat_toNat]
  have hdecode : decode h.encode = .ok (.ok ({
      version := h.version, seq := UInt32.ofNat (ofBE (toBE 4 h.seq.toNat)),
      payloadLen := UInt16.ofNat (ofBE (toBE 2 h.payloadLen.toNat)), flags := h.flags },
      wfbPlaintextHdrLen)) := rfl
  rw [hdecode, hseq, hlen]

/-! ### A frame behind a radiotap header -/

/-- The metadata of a frame with a sequence number behind a radiotap header. -/
def RtHeader.metadata (h : RtHeader) (seq : UInt32) : WfbRxMeta where
  seq := seq
  flags := 0
  freq := h.rtMeta.freq
  mcsIndex := h.rtMeta.mcsIndex
  bandwidth := h.rtMeta.bandwidth
  antenna := h.rtMeta.antenna
  rssi := h.rtMeta.rssi
  noise := h.rtMeta.noise
  antennaCount := h.rtMeta.antCount
  truncated := false

/-- **The receiver finds the payload** behind any radiotap header, and in front of the FCS. -/
theorem WfbRx.decodePacket_laid {rx : WfbRx} {h : RtHeader} {ieee payload fcs : Bytes} {seq : UInt32}
    (hieee : ieee.length = ieee80211HeaderLen) (hpayload : payload.length ≤ computeMaxPayload)
    (hmax : rx.maxPayload = computeMaxPayload)
    (hself : rx.ignoreSelfInjected = true → h.rtMeta.selfInjected = false)
    (hbad : h.rtMeta.rtFlags &&& rtapFBadfcs = 0)
    (hfcs : fcs.length = if h.rtMeta.rtFlags &&& rtapFFcs ≠ 0 then 4 else 0) :
    rx.decodePacket (h.bytes ++ (ieee ++ (WfbFrameHeader.encode {
        version := wfbProtoVersion, seq, payloadLen := UInt16.ofNat payload.length, flags := 0 } ++
          payload) ++ fcs)) = .ok (some (payload, h.metadata seq)) := by
  have hmaxPayload := computeMaxPayload_eq
  have hieeeLen : ieee80211HeaderLen = 24 := rfl
  have hpayloadLen : (UInt16.ofNat payload.length).toNat = payload.length := by
    rw [UInt16.toNat_ofNat', Nat.mod_eq_of_lt (by omega)]
  have hhdr := WfbFrameHeader.length_encode
    { version := wfbProtoVersion, seq, payloadLen := UInt16.ofNat payload.length, flags := 0 }
  have hdecode := WfbFrameHeader.decode_encode
    { version := wfbProtoVersion, seq, payloadLen := UInt16.ofNat payload.length, flags := 0 }
  generalize WfbFrameHeader.encode _ = hdr at hhdr hdecode ⊢
  have hhdrLen : hdr.length = 8 := hhdr
  have hlen : (h.bytes ++ (ieee ++ (hdr ++ payload) ++ fcs)).length =
      h.length + 24 + 8 + payload.length + fcs.length := by
    simp only [List.length_append, h.length_bytes, hieee, hhdrLen, hieeeLen]
    omega
  have hstripped : strippedLen (h.bytes ++ (ieee ++ (hdr ++ payload) ++ fcs)) h.rtMeta.rtFlags =
      h.length + 24 + 8 + payload.length := by
    unfold strippedLen
    rw [hlen]
    by_cases hflag : h.rtMeta.rtFlags &&& rtapFFcs ≠ 0
    · rw [if_pos hflag] at hfcs
      rw [if_pos ⟨hflag, by omega⟩]
      omega
    · rw [if_neg hflag] at hfcs
      rw [if_neg fun hboth => hflag hboth.1]
      omega
  have hdropIeee : (h.bytes ++ (ieee ++ (hdr ++ payload) ++ fcs)).drop (h.length + 24) =
      hdr ++ (payload ++ fcs) := by
    rw [← List.drop_drop, List.drop_left' h.length_bytes, List.append_assoc,
      List.drop_left' (hieee.trans hieeeLen), List.append_assoc]
  have hslice : slice (h.bytes ++ (ieee ++ (hdr ++ payload) ++ fcs)) (h.length + 24) (h.length + 24 + 8) =
      .ok hdr := by
    rw [slice_of_le (by omega) (by omega), hdropIeee, Nat.add_sub_cancel_left, List.take_left' hhdrLen]
  have hsliceP : slice (h.bytes ++ (ieee ++ (hdr ++ payload) ++ fcs)) (h.length + 24 + 8)
      (h.length + 24 + 8 + payload.length) = .ok payload := by
    rw [slice_of_le (by omega) (by omega), ← List.drop_drop, hdropIeee, Nat.add_sub_cancel_left,
      List.drop_left' hhdrLen, List.take_left]
  unfold decodePacket
  rw [h.radiotapMetaFromPacket_bytes, ok_bind]
  dsimp only
  rw [if_neg (fun hboth => by rw [hself hboth.2] at hboth; cases hboth.1), effectiveLen_eq, hstripped,
    ok_bind, if_neg (not_not.2 hbad)]
  have hrtLen : h.rtMeta.radiotapLen = h.length := rfl
  rw [hrtLen, hieeeLen, if_neg (by omega), sub_of_le (by omega), ok_bind, sub_of_le (by omega), ok_bind,
    if_neg (by omega), if_neg (by omega), hslice, ok_bind, hdecode, ok_bind]
  dsimp only
  rw [if_neg (by decide), if_neg (by omega), sub_of_le (by omega), ok_bind, hpayloadLen,
    if_neg (by omega), if_neg (by omega), hsliceP]
  rfl

theorem deliver_fits {f : RxFrame} {buf : Bytes} (h : f.payload.length ≤ buf.length)
    (hcut : f.metadata.truncated = false) :
    deliver f buf = .frame f.payload.length f.metadata (f.payload ++ buf.drop f.payload.length) := by
  rw [deliver, Nat.min_eq_left h, List.take_of_length_le h, decide_eq_false (Nat.not_lt.2 h), ← hcut]

@[simp] theorem length_ieee80211Header (frameType : UInt8) (streamId : UInt32) (seqCtl : ℕ) :
    (ieee80211Header frameType streamId seqCtl).length = ieee80211HeaderLen := by
  simp [ieee80211Header]

/-- **What is sent is received.**  The `k`-th payload that is not too long goes out behind
the three headers with the sequence control `16 k`; a longer one is refused.  Behind any
radiotap header, with an FCS or without, the receiver finds the frame, enqueues it and
returns its payload in the call that gets to it. -/
theorem tx_rx_round_trip (cfg : WfbTxConfig) (socket : Except WfbError Unit) (tx : WfbTx)
    (hopen : WfbTx.openTx cfg socket = .ok tx) (calls : List SendCall) :
    (tx.run calls).filterMap Sent.handed =
        (WfbTx.fitting calls).mapIdx (fun k c => txRadiotap cfg ++ mpdu cfg k c) ∧
      List.Forall₂ (fun c sent => computeMaxPayload < c.payload.length →
        sent.handed = none ∧ ∃ msg, sent.result = .error (.invalidArgument msg))
        calls (tx.run calls) ∧
      ∀ k c, (WfbTx.fitting calls)[k]? = some c →
      ∀ rxCfg rx, Reachable rxCfg rx → rx.ringCount < rx.ringSize →
      ∀ (h : RtHeader) (fcs : Bytes), h.rtMeta.rtFlags &&& rtapFBadfcs = 0 →
        (rx.ignoreSelfInjected = true → h.arg rtapTxFlags = none) →
        (fcs.length = if h.rtMeta.rtFlags &&& rtapFFcs ≠ 0 then 4 else 0) →
        ∃ rx', rx.parseAndEnqueueOnePacket (h.bytes ++ (mpdu cfg k c ++ fcs)) = .ok rx' ∧
          rx'.frames = rx.frames ++ [⟨c.payload, h.metadata c.seq⟩] ∧
          ∀ (recvs : List Call) (r : Call), (∀ r ∈ recvs, r.buf ≠ []) → recvs[rx.ringCount]? = some r →
            computeMaxPayload ≤ r.buf.length →
            ∃ received rx'', rx'.run recvs = .ok (received, rx'') ∧
              received[rx.ringCount]? = some (.frame c.payload.length (h.metadata c.seq)
                (c.payload ++ r.buf.drop c.payload.length)) := by
  obtain ⟨hhanded, hrefused⟩ := WfbTx.run_spec (WfbTx.ready_of_openTx hopen) calls
  simp only [Nat.zero_add] at hhanded
  refine ⟨hhanded, hrefused, fun k c hk rxCfg rx hreach hroom h fcs hbad hself hfcs => ?_⟩
  have hfits : c.payload.length ≤ computeMaxPayload := by
    have hmem := List.mem_filter.1 (List.mem_of_getElem? hk)
    simpa using hmem.2
  obtain ⟨hwell, -⟩ := hreach.wellFormed
  have hself' : rx.ignoreSelfInjected = true → h.rtMeta.selfInjected = false := fun hignore => by
    rw [RtHeader.rtMeta, hself hignore]
    rfl
  have hdecode : rx.decodePacket (h.bytes ++ (mpdu cfg k c ++ fcs)) =
      .ok (some (c.payload, h.metadata c.seq)) :=
    decodePacket_laid (length_ieee80211Header ..) hfits hwell.maxPayload_eq hself' hbad hfcs
  obtain ⟨rx', hparse, hwell', -, hframes⟩ := parse_frames hwell (h.bytes ++ (mpdu cfg k c ++ fcs))
  have haccepts : rx.accepts (h.bytes ++ (mpdu cfg k c ++ fcs)) = some ⟨c.payload, h.metadata c.seq⟩ := by
    rw [accepts, hdecode]
  rw [haccepts, Option.toList_some, List.take_of_length_le
    (by rw [List.length_append, length_frames]; exact hroom)] at hframes
  refine ⟨rx', hparse, hframes, fun recvs r hbuf hr hlen => ?_⟩
  obtain ⟨rx'', hrun, -⟩ := run_spec hwell' recvs hbuf
  refine ⟨_, rx'', hrun, ?_⟩
  have hat : rx'.frames[rx.ringCount]? = some ⟨c.payload, h.metadata c.seq⟩ := by
    rw [hframes, ← length_frames, List.getElem?_concat_length]
  rw [Fifo.run_getElem? _ _ hat hr]
  exact congrArg some (deliver_fits (hfits.trans hlen) rfl)

/-- A capture with a clock, an FCS flag, a rate, a channel, a signal and, behind a byte of
padding, receive flags. -/
def captureFields : List RtField :=
  [{ index := rtapTsft, pad := [], arg := [1, 2, 3, 4, 5, 6, 7, 8] },
    { index := rtapFlags, pad := [], arg := [0x10] },
    { index := rtapRate, pad := [], arg := [2] },
    { index := rtapChannel, pad := [], arg := [0x85, 0x09, 0xa0, 0x00] },
    { index := rtapDbmAntsignal, pad := [], arg := [0xd0] },
    { index := rtapRxFlags, pad := [0x55], arg := [0, 0] }]

theorem captureFields_laid : Laid 8 0 captureFields :=
  .cons (by decide) rfl (by decide) (by decide) rfl <|
  .cons (by decide) rfl (by decide) (by decide) rfl <|
  .cons (by decide) rfl (by decide) (by decide) rfl <|
  .cons (by decide) rfl (by decide) (by decide) rfl <|
  .cons (by decide) rfl (by decide) (by decide) rfl <|
  .cons (by decide) rfl (by decide) (by decide) rfl (.nil ..)

def captureHeader : RtHeader where
  pad := 0
  fields := captureFields
  laid := captureFields_laid

/-- Three bytes sent and captured with an FCS. -/
theorem tx_rx_round_trip_sample :
    ∃ tx rx rx', WfbTx.openTx
        { iface := "wlan0", streamId := 7, frameType := wfbFrameTypeData, mcsIndex := 0, bandwidth := 0 }
        (.ok ()) = .ok tx ∧
      openRx { iface := "wlan1", streamId := 7, ignoreSelfInjected := true, ringSize := 4 } (.ok ()) =
        .ok rx ∧
      rx.parseAndEnqueueOnePacket (captureHeader.bytes ++ (mpdu
          { iface := "wlan0", streamId := 7, frameType := wfbFrameTypeData, mcsIndex := 0, bandwidth := 0 }
          0 { payload := [10, 20, 30], seq := 5, errno := none } ++ [0xde, 0xad, 0xbe, 0xef])) = .ok rx' ∧
      rx'.frames = [⟨[10, 20, 30], captureHeader.metadata 5⟩] := by
  obtain ⟨-, -, hreceived⟩ := tx_rx_round_trip
    { iface := "wlan0", streamId := 7, frameType := wfbFrameTypeData, mcsIndex := 0, bandwidth := 0 }
    (.ok ()) _ rfl [{ payload := [10, 20, 30], seq := 5, errno := none }]
  obtain ⟨rx', hparse, hframes, -⟩ := hreceived 0 _ rfl
    { iface := "wlan1", streamId := 7, ignoreSelfInjected := true, ringSize := 4 } _
    (.opened (show openRx _ (.ok ()) = .ok _ from rfl)) (by decide) captureHeader [0xde, 0xad, 0xbe, 0xef]
    (by decide) (fun _ => rfl) rfl
  exact ⟨_, _, rx', rfl, rfl, hparse, hframes⟩

end KovaWfb
