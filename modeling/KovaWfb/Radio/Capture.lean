/-
# What a captured packet does

`parse_and_enqueue_one_packet` of `src/rx.rs`, lines 377 to 450, on any packet.

Three lengths bound a frame: that of the packet without its FCS, the radiotap header's own
length and the WFB header's payload length.  The radiotap parser looks only at the first of
them, and whatever it reports, the checks of the frame parser in front of each subtraction
and each range are enough: no access panics (`WfbRx.decodePacket_returns`).  A frame that
is enqueued is a range of the stripped packet of at most `max_payload` bytes
(`CutFrom`, `WfbRx.parse_spec`).
-/

import KovaWfb.Radio.RxRing

namespace KovaWfb

open Rust

theorem WfbFrameHeader.decode_of_length {buf : Bytes} (h : buf.length = 8) :
    ∃ sh, WfbFrameHeader.decode buf = .ok (.ok (sh, wfbPlaintextHdrLen)) := by
  have hlong : ¬ buf.length < wfbPlaintextHdrLen := by rw [h]; decide
  unfold WfbFrameHeader.decode
  rw [if_neg hlong, slice_of_le (by omega) (by omega), slice_of_le (by omega) (by omega),
    index_eq_getD (by omega) 0, index_eq_getD (by omega) 0]
  exact ⟨_, rfl⟩

/-- The length of a packet without its FCS. -/
def strippedLen (pkt : Bytes) (rtFlags : UInt8) : ℕ :=
  if rtFlags &&& rtapFFcs ≠ 0 ∧ 4 ≤ pkt.length then pkt.length - 4 else pkt.length

theorem strippedLen_le (pkt : Bytes) (rtFlags : UInt8) : strippedLen pkt rtFlags ≤ pkt.length := by
  unfold strippedLen
  split <;> omega

theorem WfbRx.effectiveLen_eq (pkt : Bytes) (rtFlags : UInt8) :
    effectiveLen pkt.length rtFlags = .ok (strippedLen pkt rtFlags) := by
  unfold effectiveLen strippedLen
  by_cases hfcs : rtFlags &&& rtapFFcs ≠ 0
  · by_cases hlen : 4 ≤ pkt.length
    · rw [if_pos hfcs, if_pos hlen, if_pos ⟨hfcs, hlen⟩, sub_of_le hlen]
    · rw [if_pos hfcs, if_neg hlen, if_neg fun h => hlen h.2]
      rfl
  · rw [if_neg hfcs, if_neg fun h => hfcs h.1]
    rfl

/-- The payload is the range of the packet from `start` on, in front of the FCS and not
too long for a slot. -/
structure CutFrom (rx : WfbRx) (pkt payload : Bytes) (start : ℕ) : Prop where
  inside : ∃ radiotap, radiotapMetaFromPacket pkt = .ok (some radiotap) ∧
    start + payload.length ≤ strippedLen pkt radiotap.rtFlags
  range : payload = (pkt.drop start).take payload.length
  fits : payload.length ≤ rx.maxPayload

/-- **Decoding never panics**, and a payload is a range of its packet. -/
theorem WfbRx.decodePacket_returns (rx : WfbRx) (pkt : Bytes) :
    Returns (rx.decodePacket pkt) fun r =>
      ∀ payload metadata, r = some (payload, metadata) → ∃ start, CutFrom rx pkt payload start := by
  have hnone : Returns (.ok none) fun r : Option (Bytes × WfbRxMeta) =>
      ∀ payload metadata, r = some (payload, metadata) → ∃ start, CutFrom rx pkt payload start :=
    returns_ok fun payload metadata h => by cases h
  unfold decodePacket
  obtain ⟨radiotap, hradiotap, -⟩ := radiotapMetaFromPacket_returns pkt
  rw [hradiotap, ok_bind]
  split
  · rename_i radiotap
    have hle := strippedLen_le pkt radiotap.rtFlags
    refine returns_ite (fun _ => hnone) fun _ => ?_
    rw [effectiveLen_eq, ok_bind]
    refine returns_ite (fun _ => hnone) fun _ => ?_
    refine returns_ite (fun _ => hnone) fun hlong => ?_
    rw [sub_of_le (by omega), ok_bind, sub_of_le (by omega), ok_bind]
    refine returns_ite (fun _ => hnone) fun hieee => ?_
    dsimp only
    refine returns_ite (fun _ => hnone) fun hstart => ?_
    refine (returns_slice (by omega) (by omega)).bind fun hdr hhdr => ?_
    obtain ⟨sh, hsh⟩ := WfbFrameHeader.decode_of_length (hhdr.2.trans (by omega))
    rw [hsh, ok_bind]
    refine returns_ite (fun _ => hnone) fun _ => ?_
    refine returns_ite (fun _ => hnone) fun _ => ?_
    rw [sub_of_le (by omega), ok_bind]
    refine returns_ite (fun _ => hnone) fun havail => ?_
    refine returns_ite (fun _ => hnone) fun hmax => ?_
    refine (returns_slice (by omega) (by omega)).bind fun bytes hbytes => ?_
    refine returns_ok fun payload metadata h => ?_
    obtain ⟨rfl, -⟩ := Prod.mk.inj (Option.some.inj h)
    have hlen : bytes.length = sh.payloadLen.toNat := by omega
    refine ⟨radiotap.radiotapLen + ieee80211HeaderLen + 8, ⟨radiotap, hradiotap, ?_⟩, ?_, ?_⟩
    · rw [hlen]
      omega
    · rw [hlen]
      simpa only [Nat.add_sub_cancel_left] using hbytes.1
    · omega
  · exact hnone

namespace WfbRx

/-- **What handling one packet does**: nothing, or it appends the frame it holds. -/
theorem parse_spec {rx : WfbRx} (h : rx.WellFormed) (pkt : Bytes) :
    (rx.decodePacket pkt = .ok none ∧ rx.parseAndEnqueueOnePacket pkt = .ok rx) ∨
      ∃ f start, rx.decodePacket pkt = .ok (some (f.payload, f.metadata)) ∧
        CutFrom rx pkt f.payload start ∧
        (rx.ringSize ≤ rx.ringCount ∧ rx.parseAndEnqueueOnePacket pkt = .ok rx ∨
          rx.ringCount < rx.ringSize ∧ rx.parseAndEnqueueOnePacket pkt = .ok (rx.enqueued f)) := by
  obtain ⟨decoded, hdecoded, hcut⟩ := rx.decodePacket_returns pkt
  unfold parseAndEnqueueOnePacket
  rw [hdecoded, ok_bind]
  rcases decoded with _ | ⟨payload, metadata⟩
  · exact Or.inl ⟨rfl, rfl⟩
  · obtain ⟨start, hstart⟩ := hcut payload metadata rfl
    refine Or.inr ⟨⟨payload, metadata⟩, start, rfl, hstart, ?_⟩
    rcases Nat.lt_or_ge rx.ringCount rx.ringSize with hroom | hfull
    · exact Or.inr ⟨hroom, enqueueDecoded_of_room h hroom (f := ⟨payload, metadata⟩) hstart.fits⟩
    · exact Or.inl ⟨hfull, if_pos hfull⟩

end WfbRx

end KovaWfb
