/-
# The frame header, the configurations and the metadata of the radio library

`src/proto.rs`: the plaintext WFB header (`WfbFrameHeader::encode`, `decode`, lines 71 to
111), the largest payload (16 to 19) and the types that `WfbTx` and `WfbRx` share.  A
header that was encoded is decoded to itself (`WfbFrameHeader.decode_encode`).
-/

import KovaWfb.Lib.BigEndian
import KovaWfb.Rust.Basics

namespace KovaWfb

open BigEndian

def wfbProtoVersion : UInt8 := 0

def wfbFrameTypeData : UInt8 := 0x08

def wfbFrameTypeRts : UInt8 := 0xb4

abbrev wifiMtu : ℕ := 4045
abbrev ieee80211HeaderLen : ℕ := 24
abbrev wfbPlaintextHdrLen : ℕ := 1 + 4 + 2 + 1

/-- `compute_max_payload`. -/
def computeMaxPayload : ℕ := wifiMtu - ieee80211HeaderLen - wfbPlaintextHdrLen

theorem computeMaxPayload_eq : computeMaxPayload = 4013 := rfl

inductive WfbError
  | invalidArgument (msg : String)
  | io (errno : ℕ)
  | pcap (msg : String)
  deriving DecidableEq, Repr

structure WfbTxConfig where
  iface : String
  streamId : UInt32
  frameType : UInt8
  mcsIndex : UInt8
  bandwidth : UInt8
  deriving DecidableEq, Repr

/-- `WfbRxConfig`, without `rcv_buf_size`, which nothing reads. -/
structure WfbRxConfig where
  iface : String
  streamId : UInt32
  ignoreSelfInjected : Bool
  ringSize : ℕ
  deriving DecidableEq, Repr

structure WfbRxMeta where
  seq : UInt32 := 0
  flags : UInt8 := 0
  freq : UInt16 := 0
  mcsIndex : UInt8 := 0
  bandwidth : UInt8 := 0
  antenna : Vector UInt8 4 := Vector.replicate 4 0
  rssi : Vector Int8 4 := Vector.replicate 4 0
  noise : Vector Int8 4 := Vector.replicate 4 0
  antennaCount : UInt8 := 0
  truncated : Bool := false
  deriving DecidableEq

/-- `WfbRxMeta::default()`. -/
instance : Inhabited WfbRxMeta := ⟨{}⟩

structure WfbFrameHeader where
  version : UInt8
  seq : UInt32
  payloadLen : UInt16
  flags : UInt8
  deriving DecidableEq, Repr

namespace WfbFrameHeader

/-- `WfbFrameHeader::encode`. -/
def encode (h : WfbFrameHeader) : Bytes :=
  [h.version] ++ (toBE 4 h.seq.toNat ++ (toBE 2 h.payloadLen.toNat ++ [h.flags]))

/-- `WfbFrameHeader::decode`. -/
def decode (buf : Bytes) : Rust (Except WfbError (WfbFrameHeader × ℕ)) := do
  if buf.length < wfbPlaintextHdrLen then
    return .error (.invalidArgument s!"buffer too small for hdr: {buf.length}")
  let version ← Rust.index buf 0
  let seq ← Rust.slice buf 1 5
  let payloadLen ← Rust.slice buf 5 7
  let flags ← Rust.index buf 7
  return .ok ({ version, seq := UInt32.ofNat (ofBE seq),
                payloadLen := UInt16.ofNat (ofBE payloadLen), flags }, wfbPlaintextHdrLen)

@[simp] theorem length_encode (h : WfbFrameHeader) : h.encode.length = wfbPlaintextHdrLen := by
  simp [encode, wfbPlaintextHdrLen]

end WfbFrameHeader

end KovaWfb
