/-
# No packet makes the receiver panic

`parse_and_enqueue_one_packet` of `src/rx.rs` on any packet and in any state that a
receiver can reach: every index, range and subtraction is defined, the loops end, and a
frame that is enqueued is written into its own slot of `ring_payload_store`
(`parse_safe`).  The packets are what a radio received, so a panic would be one that a
sender can cause.
-/

import KovaWfb.Radio.Fifo

namespace KovaWfb

open WfbRx

/-- A payload was written into the slot at `ring_tail`, and nothing outside of it. -/
structure Written (rx rx' : WfbRx) (payload : Bytes) : Prop where
  slot : rx.ringTail * rx.maxPayload + payload.length ≤ (rx.ringTail + 1) * rx.maxPayload ∧
    (rx.ringTail + 1) * rx.maxPayload ≤ rx.ringPayloadStore.length
  store : ∀ i, rx'.ringPayloadStore[i]? =
    if rx.ringTail * rx.maxPayload ≤ i ∧ i < rx.ringTail * rx.maxPayload + payload.length then
      payload[i - rx.ringTail * rx.maxPayload]?
    else rx.ringPayloadStore[i]?
  len : rx'.ringPayloadLen = rx.ringPayloadLen.set rx.ringTail payload.length
  count : rx.ringCount < rx.ringSize ∧ rx'.ringCount = rx.ringCount + 1

/-- **Parsing a packet is safe**: it returns, and either changes nothing or enqueues a range
of the packet without its FCS, short enough for its slot. -/
theorem parse_safe (cfg : WfbRxConfig) (rx : WfbRx) (hreach : Reachable cfg rx) (pkt : Bytes) :
    ∃ rx', rx.parseAndEnqueueOnePacket pkt = .ok rx' ∧
      (rx' = rx ∨ ∃ payload start, CutFrom rx pkt payload start ∧ Written rx rx' payload) := by
  obtain ⟨hwell, -⟩ := hreach.wellFormed
  rcases parse_spec hwell pkt with ⟨-, hparse⟩ | ⟨f, start, -, hcut, ⟨-, hparse⟩ | ⟨hroom, hparse⟩⟩
  · exact ⟨rx, hparse, Or.inl rfl⟩
  · exact ⟨rx, hparse, Or.inl rfl⟩
  · refine ⟨rx.enqueued f, hparse, Or.inr ⟨f.payload, start, hcut, ?_⟩⟩
    have hbound := hwell.slot_bound hwell.ring.tail_lt
    have hfits := hcut.fits
    rw [← Nat.succ_mul] at hbound
    refine ⟨⟨?_, hbound⟩, enqueued_store hwell hcut.fits, rfl, hroom, rfl⟩
    rw [Nat.succ_mul]
    omega

/-- A packet whose present words never end, handed to a receiver just opened. -/
theorem parse_safe_sample :
    ∃ rx rx', openRx { iface := "wlan0", streamId := 1, ignoreSelfInjected := true, ringSize := 0 }
        (.ok ()) = .ok rx ∧
      rx.parseAndEnqueueOnePacket [0, 0, 8, 0, 0, 0, 0, 0x80, 0, 0, 0, 0x80] = .ok rx' := by
  obtain ⟨rx', hparse, -⟩ := parse_safe
    { iface := "wlan0", streamId := 1, ignoreSelfInjected := true, ringSize := 0 } _
    (.opened (show openRx _ (.ok ()) = .ok _ from rfl)) [0, 0, 8, 0, 0, 0, 0, 0x80, 0, 0, 0, 0x80]
  exact ⟨_, rx', rfl, hparse⟩

end KovaWfb
