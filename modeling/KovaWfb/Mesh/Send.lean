/-
# Origination: `send_route` and `send_route_v2`

`python/examples/mesh_txrx.py`, lines 719 to 743 and 1880 to 1966, and the radio
call they end in (`Tx.send` of `python/src/wfb_rs_py/api.py`, lines 78 to 103).

Everything that can raise comes before the first assignment, so a call either
returns the frame it sent and advances the counters, or raises and leaves the
state as it was (`sendRoute_eq_ok`, `sendRouteV2_eq_ok`).
-/

import KovaWfb.Mesh.Crypto
import KovaWfb.Radio.Proto

namespace KovaWfb

/-! ### The radio -/

/-- What is handed to the radio: the payload and its sequence number. -/
structure RadioFrame where
  payload : Bytes
  seq : ℤ
  deriving DecidableEq, Repr

/-- `Tx.send` on an open handle. -/
def txSend (env : Env) (frame : RadioFrame) : Py Unit := do
  raiseIf (computeMaxPayload < frame.payload.length)
    (.valueError s!"payload too large: {frame.payload.length} > {computeMaxPayload}")
  match env.radio with
  | none => pure ()
  | some error => .error (.wfbRsError error)

theorem txSend_eq_ok {env : Env} {frame : RadioFrame} {u : Unit} :
    txSend env frame = .ok u ↔ frame.payload.length ≤ computeMaxPayload ∧ env.radio = none := by
  simp only [txSend, Py.bind_eq_ok, raiseIf_eq_ok, not_lt, exists_const]
  refine and_congr_right fun _ => ?_
  cases env.radio with
  | none => simp [Py.pure_eq_ok]
  | some error => simp

/-! ### The outer frame -/

/-- The frame `_encode_outer_route_frame` and `_encode_outer_route_v2_frame`
build: own sender id, no flags. -/
def outerFrame (senderId messageType appSeq : ℤ) (routePayload : Bytes) : AppFrame :=
  ⟨version, messageType, senderId, 0, appSeq, routePayload⟩

/-- `_encode_outer_route_frame`. -/
def encodeOuterRouteFrame (senderId appSeq : ℤ) (routePayload : Bytes) : Py Bytes :=
  encodeFrame senderId (.int msgRouteData) appSeq routePayload 0

/-- `_encode_outer_route_v2_frame`. -/
def encodeOuterRouteV2Frame (senderId appSeq : ℤ) (routePayload : Bytes) : Py Bytes :=
  encodeFrame senderId (.int msgRouteV2) appSeq routePayload 0

theorem encodeFrame_int_eq_ok {senderId messageType appSeq : ℤ} {p b : Bytes} :
    encodeFrame senderId (.int messageType) appSeq p 0 = .ok b ↔
      (outerFrame senderId messageType appSeq p).Valid ∧
        (outerFrame senderId messageType appSeq p).bytes = b := by
  rw [encodeFrame_eq_ok_iff]
  constructor
  · rintro ⟨t, ht, hv, hb⟩
    obtain ⟨-, rfl⟩ := namedValue_int_eq_ok.mp ht
    exact ⟨hv, hb⟩
  · rintro ⟨hv, hb⟩
    exact ⟨messageType, namedValue_int hv.messageType, hv, hb⟩

theorem outerFrame_valid (cfg : NodeConfig) {messageType : ℤ} (seq : SeqNo) {p : Bytes}
    (ht : FitsWidth 1 messageType) (hp : FitsWidth 2 p.length) :
    (outerFrame cfg.senderId messageType seq.value p).Valid :=
  ⟨rfl, ht, cfg.senderId_ne, cfg.senderId_fits, show FitsWidth 1 0 by decide, seq.fits, hp⟩

/-! ### Origination -/

/-- What a call sent: the sequence number, whether the payload was encrypted, and
the frame. -/
structure SentRoute where
  seqSent : ℤ
  secured : Bool
  frame : RadioFrame
  deriving DecidableEq

/-- What a `send_route_v2` call sent: also the key and the route it decoded. -/
structure SentRouteV2 where
  seqSent : ℤ
  crypto : CryptoConfig
  route : RouteDataV2
  frame : RadioFrame

/-- `send_route`. -/
def sendRoute (A : Aead) (cfg : NodeConfig) (env : Env) (innerType : ℤ) (payload : Bytes)
    (destinationId ttl : ℤ) : PyM NodeState SentRoute := do
  let s ← get
  let seqSent := s.nextOriginSeq.value
  let routedPayload ← encryptMeshPayload A cfg env cfg.senderId destinationId ttl seqSent innerType
    payload
  let routePayload ← encodeRouteDataPayload cfg.senderId destinationId ttl seqSent (.int innerType)
    routedPayload
  let frame ← encodeOuterRouteFrame cfg.senderId s.nextOuterSeq.value routePayload
  txSend env ⟨frame, s.nextRfSeq.value⟩
  modify (NodeState.rememberSeen [cfg.senderId, seqSent])
  modify NodeState.advanceOrigin
  modify NodeState.advanceTx
  pure { seqSent, secured := (cfg.meshCryptoFor innerType).isSome,
         frame := ⟨frame, s.nextRfSeq.value⟩ }

/-- `send_route_v2`. -/
def sendRouteV2 (A : Aead) (cfg : NodeConfig) (env : Env) (innerType : ℤ) (payload : Bytes)
    (destinationType destinationId ttl trafficClass : ℤ) : PyM NodeState SentRouteV2 := do
  let s ← get
  let seqSent := s.nextOriginSeq.value
  let (e2ePayload, crypto) ← encryptE2ePayload A cfg env cfg.originType cfg.senderId
    destinationType destinationId seqSent trafficClass innerType payload
  let routePayload ← encodeRouteV2Payload (.int cfg.originType) cfg.senderId (.int destinationType)
    destinationId ttl seqSent (.int trafficClass) (.int innerType) e2ePayload
  let route ← decodeRouteV2Payload routePayload
  let frame ← encodeOuterRouteV2Frame cfg.senderId s.nextOuterSeq.value routePayload
  txSend env ⟨frame, s.nextRfSeq.value⟩
  modify (NodeState.rememberSeen [cfg.originType, cfg.senderId, seqSent])
  modify NodeState.advanceOrigin
  modify NodeState.advanceTx
  pure { seqSent, crypto, route, frame := ⟨frame, s.nextRfSeq.value⟩ }

theorem encodeRouteV2Payload_int_eq_ok {ot oid dt did ttl seq tc t : ℤ} {p b : Bytes} :
    encodeRouteV2Payload (.int ot) oid (.int dt) did ttl seq (.int tc) (.int t) p = .ok b ↔
      RouteDataV2.Valid ⟨routeV2Version, ot, oid, dt, did, ttl, seq, tc, t, p⟩ ∧
        RouteDataV2.bytes ⟨routeV2Version, ot, oid, dt, did, ttl, seq, tc, t, p⟩ = b := by
  rw [encodeRouteV2Payload_eq_ok_iff]
  constructor
  · rintro ⟨ot', dt', tc', t', hot, hdt, htc, ht, hv, hb⟩
    obtain ⟨-, rfl⟩ := namedValue_int_eq_ok.mp hot
    obtain ⟨-, rfl⟩ := namedValue_int_eq_ok.mp hdt
    obtain ⟨-, rfl⟩ := namedValue_int_eq_ok.mp htc
    obtain ⟨-, rfl⟩ := namedValue_int_eq_ok.mp ht
    exact ⟨hv, hb⟩
  · rintro ⟨hv, hb⟩
    exact ⟨_, _, _, _, namedValue_int hv.origin.type, namedValue_int hv.destination.type,
      namedValue_int hv.trafficClass, namedValue_int hv.innerType, hv, hb⟩

theorem encodeRouteDataPayload_int_eq_ok {oid did ttl seq t : ℤ} {p b : Bytes} :
    encodeRouteDataPayload oid did ttl seq (.int t) p = .ok b ↔
      RouteData.Valid ⟨oid, did, ttl, seq, t, p⟩ ∧ RouteData.bytes ⟨oid, did, ttl, seq, t, p⟩ = b := by
  rw [encodeRouteDataPayload_eq_ok_iff]
  constructor
  · rintro ⟨t', ht, hv, hb⟩
    obtain ⟨-, rfl⟩ := namedValue_int_eq_ok.mp ht
    exact ⟨hv, hb⟩
  · rintro ⟨hv, hb⟩
    exact ⟨t, namedValue_int hv.innerType, hv, hb⟩

/-- The state after an origination that remembered `key`. -/
def NodeState.originated (key : List ℤ) (s : NodeState) : NodeState :=
  (s.rememberSeen key).advanceOrigin.advanceTx

/-- **A `send_route` that returns** sent the frame of a valid packet, protected
under its own fields, and remembered its own key. -/
theorem sendRoute_eq_ok {A : Aead} {cfg : NodeConfig} {env : Env} {innerType destinationId ttl : ℤ}
    {payload : Bytes} {s s' : NodeState} {r : SentRoute} :
    sendRoute A cfg env innerType payload destinationId ttl s = .ok r s' ↔
      ∃ routed, encryptMeshPayload A cfg env cfg.senderId destinationId ttl s.nextOriginSeq.value
          innerType payload = .ok routed ∧
        let route : RouteData := ⟨cfg.senderId, destinationId, ttl, s.nextOriginSeq.value, innerType,
          routed⟩
        let frame := outerFrame cfg.senderId msgRouteData s.nextOuterSeq.value route.bytes
        route.Valid ∧ frame.Valid ∧ frame.bytes.length ≤ computeMaxPayload ∧ env.radio = none ∧
          r = ⟨s.nextOriginSeq.value, (cfg.meshCryptoFor innerType).isSome,
            ⟨frame.bytes, s.nextRfSeq.value⟩⟩ ∧
          s' = s.originated [cfg.senderId, s.nextOriginSeq.value] := by
  simp only [sendRoute, PyM.get_bind_apply, PyM.lift_bind_eq_ok, PyM.modify_bind_apply,
    PyM.pure_apply, encodeRouteDataPayload_int_eq_ok, encodeOuterRouteFrame, encodeFrame_int_eq_ok,
    txSend_eq_ok, EStateM.Result.ok.injEq, exists_const]
  constructor
  · rintro ⟨routed, hrouted, _, ⟨hv, rfl⟩, _, ⟨hf, rfl⟩, ⟨hlen, hradio⟩, rfl, rfl⟩
    exact ⟨routed, hrouted, hv, hf, hlen, hradio, rfl, rfl⟩
  · rintro ⟨routed, hrouted, hv, hf, hlen, hradio, rfl, rfl⟩
    exact ⟨routed, hrouted, _, ⟨hv, rfl⟩, _, ⟨hf, rfl⟩, ⟨hlen, hradio⟩, rfl, rfl⟩

/-- **A `send_route_v2` that returns** sent the frame of a valid packet with
registered types, protected under its own fields, and remembered its own key. -/
theorem sendRouteV2_eq_ok {A : Aead} {cfg : NodeConfig} {env : Env}
    {innerType destinationType destinationId ttl trafficClass : ℤ} {payload : Bytes}
    {s s' : NodeState} {r : SentRouteV2} :
    sendRouteV2 A cfg env innerType payload destinationType destinationId ttl trafficClass s =
        .ok r s' ↔
      ∃ e2e c, encryptE2ePayload A cfg env cfg.originType cfg.senderId destinationType destinationId
          s.nextOriginSeq.value trafficClass innerType payload = .ok (e2e, c) ∧
        let route : RouteDataV2 := ⟨routeV2Version, cfg.originType, cfg.senderId, destinationType,
          destinationId, ttl, s.nextOriginSeq.value, trafficClass, innerType, e2e⟩
        let frame := outerFrame cfg.senderId msgRouteV2 s.nextOuterSeq.value route.bytes
        route.Valid ∧ trafficClasses.Has trafficClass ∧ messageTypes.Has innerType ∧ frame.Valid ∧
          frame.bytes.length ≤ computeMaxPayload ∧ env.radio = none ∧
          r = ⟨s.nextOriginSeq.value, c, route, ⟨frame.bytes, s.nextRfSeq.value⟩⟩ ∧
          s' = s.originated [cfg.originType, cfg.senderId, s.nextOriginSeq.value] := by
  simp only [sendRouteV2, PyM.get_bind_apply, PyM.lift_bind_eq_ok, PyM.modify_bind_apply,
    PyM.pure_apply, encodeRouteV2Payload_int_eq_ok, decodeRouteV2Payload_eq_ok_iff,
    encodeOuterRouteV2Frame, encodeFrame_int_eq_ok, txSend_eq_ok, EStateM.Result.ok.injEq,
    exists_const, Prod.exists]
  constructor
  · rintro ⟨e2e, c, he2e, _, ⟨hv, rfl⟩, route, ⟨hv', htc, htype, hbytes⟩, _, ⟨hf, rfl⟩,
      ⟨hlen, hradio⟩, rfl, rfl⟩
    -- Decoding the packet gives the packet that was encoded.
    obtain rfl := RouteDataV2.bytes_inj hv' hv hbytes
    exact ⟨e2e, c, he2e, hv, htc, htype, hf, hlen, hradio, rfl, rfl⟩
  · rintro ⟨e2e, c, he2e, hv, htc, htype, hf, hlen, hradio, rfl, rfl⟩
    exact ⟨e2e, c, he2e, _, ⟨hv, rfl⟩, _, ⟨hv, htc, htype, rfl⟩, _, ⟨hf, rfl⟩, ⟨hlen, hradio⟩,
      rfl, rfl⟩

end KovaWfb
