/-
# The receiver

`src/rx.rs`, lines 239 to 503: `WfbRx::open`, `enqueue_decoded`, `pop_one`,
`drain_pcap_nonblock`, `parse_and_enqueue_one_packet` and `recv`.

The `pcap::Capture` and `poll` are outside: what they do in one `recv` is a list of
wake-ups, each with the packets that `next_packet` hands out before it first fails.  A
list that ran out stands for a deadline that passed.
-/

import KovaWfb.Radio.Radiotap

namespace KovaWfb

/-- `WfbRx`, without the interface name, the descriptor and the capture. -/
structure WfbRx where
  ignoreSelfInjected : Bool
  maxPayload : ℕ
  ringSize : ℕ
  ringCount : ℕ
  ringHead : ℕ
  ringTail : ℕ
  ringPayloadStore : Bytes
  ringPayloadLen : List ℕ
  ringMeta : List WfbRxMeta

/-- `ring_size.clamp(2, 128)`, 16 for 0. -/
def clampRingSize (ringSize : ℕ) : ℕ :=
  let ringSize := if ringSize = 0 then 16 else ringSize
  max 2 (min ringSize 128)

namespace WfbRx

/-- `WfbRx::open`; `pcap` is what opening the capture and installing its filter
gives. -/
def openRx (cfg : WfbRxConfig) (pcap : Except String Unit) : Except WfbError WfbRx :=
  if cfg.iface.isEmpty then .error (.invalidArgument "iface is empty")
  else if cfg.streamId = 0 then .error (.invalidArgument "stream_id=0 is disallowed")
  else
    let ringSize := clampRingSize cfg.ringSize
    let maxPayload := computeMaxPayload
    if maxPayload < 1 then .error (.invalidArgument "max payload too small")
    else match pcap with
      | .error e => .error (.pcap e)
      | .ok () =>
          .ok { ignoreSelfInjected := cfg.ignoreSelfInjected, maxPayload, ringSize,
                ringCount := 0, ringHead := 0, ringTail := 0,
                ringPayloadStore := List.replicate (ringSize * maxPayload) 0,
                ringPayloadLen := List.replicate ringSize 0,
                ringMeta := List.replicate ringSize default }

/-- `WfbRx::enqueue_decoded`. -/
def enqueueDecoded (rx : WfbRx) (payload : Bytes) (metadata : WfbRxMeta) : Rust WfbRx := do
  if rx.ringCount ≥ rx.ringSize then
    return rx
  let idx := rx.ringTail
  let ringPayloadLen ← Rust.assign rx.ringPayloadLen idx payload.length
  let ringMeta ← Rust.assign rx.ringMeta idx metadata
  let dstOff := idx * rx.maxPayload
  let ringPayloadStore ←
    Rust.copyFromSlice rx.ringPayloadStore dstOff (dstOff + payload.length) payload
  return { rx with
    ringPayloadLen, ringMeta, ringPayloadStore
    ringTail := (rx.ringTail + 1) % rx.ringSize
    ringCount := rx.ringCount + 1 }

/-- `WfbRx::pop_one`: the number of bytes copied, the metadata, the buffer and the
receiver after it. -/
def popOne (rx : WfbRx) (buf : Bytes) : Rust (ℕ × WfbRxMeta × Bytes × WfbRx) := do
  let idx := rx.ringHead
  let payloadLen ← Rust.index rx.ringPayloadLen idx
  let toCopy := min payloadLen buf.length
  let srcOff := idx * rx.maxPayload
  let buf ← Rust.copyFromSlice buf 0 toCopy
    (← Rust.slice rx.ringPayloadStore srcOff (srcOff + toCopy))
  let metadata ← Rust.index rx.ringMeta idx
  let ringCount ← Rust.sub rx.ringCount 1
  return (toCopy, { metadata with truncated := decide (toCopy ≠ payloadLen) }, buf,
    { rx with ringHead := (rx.ringHead + 1) % rx.ringSize, ringCount })

/-- The `effective_len` of `parse_and_enqueue_one_packet`: the packet without its FCS. -/
def effectiveLen (len : ℕ) (rtFlags : UInt8) : Rust ℕ := do
  if rtFlags &&& rtapFFcs ≠ 0 then
    if len ≥ 4 then
      return ← Rust.sub len 4
  return len

/-- `parse_and_enqueue_one_packet` up to its call of `enqueue_decoded`: the payload and
the metadata of the frame in a packet, `none` where it returns before. -/
def decodePacket (rx : WfbRx) (pkt : Bytes) : Rust (Option (Bytes × WfbRxMeta)) := do
  let some radiotap ← radiotapMetaFromPacket pkt | return none
  if radiotap.selfInjected ∧ rx.ignoreSelfInjected then
    return none
  let effectiveLen ← effectiveLen pkt.length radiotap.rtFlags
  if radiotap.rtFlags &&& rtapFBadfcs ≠ 0 then
    return none
  if effectiveLen ≤ radiotap.radiotapLen + ieee80211HeaderLen then
    return none
  let afterRtLen ← Rust.sub effectiveLen radiotap.radiotapLen
  let afterIeeeLen ← Rust.sub afterRtLen ieee80211HeaderLen
  if afterIeeeLen < 8 then
    return none
  let ieeeStart := radiotap.radiotapLen
  let shStart := ieeeStart + ieee80211HeaderLen
  let plaintextHdrLen := 8
  if shStart + plaintextHdrLen > effectiveLen then
    return none
  let .ok (sh, _) ← WfbFrameHeader.decode (← Rust.slice pkt shStart (shStart + plaintextHdrLen))
    | return none
  if sh.version ≠ wfbProtoVersion then
    return none
  let payloadLen := sh.payloadLen.toNat
  let payloadStart := shStart + plaintextHdrLen
  if payloadStart > effectiveLen then
    return none
  let payloadAvail ← Rust.sub effectiveLen payloadStart
  if payloadLen > payloadAvail then
    return none
  if payloadLen > rx.maxPayload then
    return none
  let payload ← Rust.slice pkt payloadStart (payloadStart + payloadLen)
  return some (payload, {
    seq := sh.seq, flags := sh.flags, freq := radiotap.freq, mcsIndex := radiotap.mcsIndex,
    bandwidth := radiotap.bandwidth, antenna := radiotap.antenna, rssi := radiotap.rssi,
    noise := radiotap.noise, antennaCount := radiotap.antCount, truncated := false })

/-- `WfbRx::parse_and_enqueue_one_packet`. -/
def parseAndEnqueueOnePacket (rx : WfbRx) (pkt : Bytes) : Rust WfbRx := do
  let some (payload, metadata) ← rx.decodePacket pkt | return rx
  rx.enqueueDecoded payload metadata

/-- `WfbRx::drain_pcap_nonblock`, over the packets until `next_packet` fails. -/
def drainPcapNonblock (rx : WfbRx) : List Bytes → Rust WfbRx
  | [] => return rx
  | pkt :: packets => do
    let rx ← rx.parseAndEnqueueOnePacket pkt
    rx.drainPcapNonblock packets

/-- One round of the loop of `recv`: how `poll` or the clock ends its wait. -/
inductive Wake
  /-- `elapsed >= timeout`, or `poll` returned 0. -/
  | timedOut
  /-- `poll` failed with `EINTR`. -/
  | interrupted
  /-- `poll` failed otherwise. -/
  | failed (errno : ℕ)
  /-- The packets of the drain that follows. -/
  | ready (packets : List Bytes)
  deriving DecidableEq, Repr

/-- What a `recv` returns, with the buffer as it leaves it. -/
inductive Received
  | frame (n : ℕ) (metadata : WfbRxMeta) (buf : Bytes)
  | nothing
  | error (e : WfbError)
  deriving DecidableEq

/-- The loop of `recv`. -/
def recvLoop (rx : WfbRx) (buf : Bytes) (wakes : List Wake) : Rust (Received × WfbRx) := do
  if rx.ringCount > 0 then
    let (n, metadata, buf, rx) ← rx.popOne buf
    return (.frame n metadata buf, rx)
  match wakes with
  | [] | .timedOut :: _ => return (.nothing, rx)
  | .failed errno :: _ => return (.error (.io errno), rx)
  | .interrupted :: wakes => rx.recvLoop buf wakes
  | .ready packets :: wakes => do
    let rx ← rx.drainPcapNonblock packets
    rx.recvLoop buf wakes

/-- `WfbRx::recv`. -/
def recv (rx : WfbRx) (buf : Bytes) (wakes : List Wake) : Rust (Received × WfbRx) := do
  if buf.isEmpty then
    return (.error (.invalidArgument "recv buffer must be non-empty"), rx)
  if rx.ringCount > 0 then
    let (n, metadata, buf, rx) ← rx.popOne buf
    return (.frame n metadata buf, rx)
  rx.recvLoop buf wakes

end WfbRx

end KovaWfb
