/-
# The codecs of `app_proto`: app frame, `route_data`, `route_v2`, sync, status

`python/src/wfb_rs_py/app_proto.py`, lines 106 to 235 (the message classes) and
374 to 676 (the five plain encode and decode pairs).

Every message class has its wire image `bytes` and the predicate `Valid` that its
fields fit the format.  The encoder accepts exactly the arguments of valid
messages and returns their image (`encode*_eq_ok_iff`); the decoder accepts
exactly the images of valid messages whose types are registered and returns the
message (`decode*_eq_ok_iff`).  Both directions of every round trip, and which
bytes a decoder rejects, are read off these two equivalences.
-/

import KovaWfb.AppProto.Names

namespace KovaWfb

open BigEndian

/-- The check and message shared by the length fields of the formats. -/
def requireLength (what : String) (header : ℤ) (payload : Bytes) : Py Unit :=
  raiseIf (header ≠ payload.length)
    (.appFrameError s!"{what} mismatch: header={header} actual={payload.length}")

@[simp] theorem requireLength_eq_ok {what : String} {n : ℤ} {p : Bytes} {u : Unit} :
    requireLength what n p = .ok u ↔ n = p.length := by
  rw [requireLength, raiseIf_eq_ok, not_not]

/-- A payload length that fits its field. -/
theorem fitsWidth_length {w : ℕ} {p : Bytes} : FitsWidth w (p.length : ℤ) ↔ p.length < 256 ^ w := by
  unfold FitsWidth
  constructor
  · rintro ⟨-, h⟩
    exact_mod_cast h
  · intro h
    exact ⟨Int.natCast_nonneg _, by exact_mod_cast h⟩

theorem not_maxU16_lt_iff {p : Bytes} : ¬ maxU16 < (p.length : ℤ) ↔ FitsWidth 2 (p.length : ℤ) := by
  rw [fitsWidth_length, maxU16]
  omega

/-! ### App frame -/

/-- `class AppFrame`. -/
@[ext]
structure AppFrame where
  version : ℤ
  messageType : ℤ
  senderId : ℤ
  flags : ℤ
  appSeq : ℤ
  payload : Bytes
  deriving DecidableEq, Repr

/-- `encode_frame`. -/
def encodeFrame (senderId : ℤ) (messageType : NameOrInt) (appSeq : ℤ) (payload : Bytes)
    (flags : ℤ) : Py Bytes := do
  raiseIf (senderId = 0) (.appFrameError "sender_id 0 is reserved")
  requireU8 "sender_id" senderId
  let msgType ← messageTypeValue messageType
  requireU8 "flags" flags
  requireU32 "app_seq" appSeq
  raiseIf (maxU16 < payload.length)
    (.appFrameError s!"payload too large for u16 length: {payload.length}")
  let header ← pack [(1, version), (1, msgType), (1, senderId), (1, flags), (4, appSeq),
    (2, payload.length)]
  pure (header ++ payload)

/-- `decode_frame`. -/
def decodeFrame (frame : Bytes) (allowUnknownMessageType : Bool) : Py AppFrame := do
  raiseIf (frame.length < headerSize)
    (.appFrameError s!"frame too short: {frame.length} < {headerSize}")
  let version := unpack frame 0 1
  let msgType := unpack frame 1 1
  let senderId := unpack frame 2 1
  let flags := unpack frame 3 1
  let appSeq := unpack frame 4 4
  let payloadLen := unpack frame 8 2
  let payload := frame.drop headerSize
  raiseIf (version ≠ KovaWfb.version) (.appFrameError s!"unsupported version: {version}")
  raiseIf (senderId = 0) (.appFrameError "sender_id 0 is reserved")
  requireLength "payload_len" payloadLen payload
  raiseIf (allowUnknownMessageType = false ∧ ¬ messageTypes.Has msgType)
    (.appFrameError ("unknown message type: " ++ hexByteText msgType))
  pure { version, messageType := msgType, senderId, flags, appSeq, payload }

/-- The fields of a frame fit the format. -/
structure AppFrame.Valid (f : AppFrame) : Prop where
  version : f.version = KovaWfb.version
  messageType : FitsWidth 1 f.messageType
  senderId_ne : f.senderId ≠ 0
  senderId : FitsWidth 1 f.senderId
  flags : FitsWidth 1 f.flags
  appSeq : FitsWidth 4 f.appSeq
  payload : FitsWidth 2 f.payload.length

/-- The header fields of a frame. -/
def AppFrame.header (f : AppFrame) : List (ℕ × ℤ) :=
  [(1, f.version), (1, f.messageType), (1, f.senderId), (1, f.flags), (4, f.appSeq),
    (2, f.payload.length)]

/-- The wire image of a frame. -/
def AppFrame.bytes (f : AppFrame) : Bytes := packBytes f.header ++ f.payload

theorem AppFrame.Valid.fits {f : AppFrame} (h : f.Valid) : ∀ x ∈ f.header, FitsWidth x.1 x.2 := by
  have hver : FitsWidth 1 f.version := by rw [h.version]; decide
  simp [AppFrame.header, hver, h.messageType, h.senderId, h.flags, h.appSeq, h.payload]

theorem AppFrame.length_bytes (f : AppFrame) : f.bytes.length = headerSize + f.payload.length := by
  rw [AppFrame.bytes, List.length_append, length_packBytes]
  rfl

/-- **`encode_frame` accepts the arguments of valid frames.** -/
theorem encodeFrame_eq_ok_iff {senderId appSeq flags : ℤ} {m : NameOrInt} {payload b : Bytes} :
    encodeFrame senderId m appSeq payload flags = .ok b ↔
      ∃ t, messageTypeValue m = .ok t ∧
        AppFrame.Valid ⟨version, t, senderId, flags, appSeq, payload⟩ ∧
        AppFrame.bytes ⟨version, t, senderId, flags, appSeq, payload⟩ = b := by
  simp only [encodeFrame, Py.bind_eq_ok, raiseIf_eq_ok, requireU8_eq_ok, requireU32_eq_ok,
    pack_eq_ok, Py.pure_eq_ok, exists_const]
  constructor
  · rintro ⟨h0, hs, t, ht, hf, hq, hlen, _, ⟨hfit, rfl⟩, rfl⟩
    exact ⟨t, ht, ⟨rfl, namedValue_fits messageTypes_bytewise ht, h0, hs, hf, hq,
      hfit (2, _) (by simp)⟩, rfl⟩
  · rintro ⟨t, ht, hv, rfl⟩
    exact ⟨hv.senderId_ne, hv.senderId, t, ht, hv.flags, hv.appSeq,
      not_maxU16_lt_iff.mpr hv.payload, _, ⟨hv.fits, rfl⟩, rfl⟩

/-- **`decode_frame` accepts the images of valid frames.** -/
theorem decodeFrame_eq_ok_iff {b : Bytes} {allow : Bool} {f : AppFrame} :
    decodeFrame b allow = .ok f ↔
      f.Valid ∧ (allow = true ∨ messageTypes.Has f.messageType) ∧ f.bytes = b := by
  simp only [decodeFrame, Py.bind_eq_ok, raiseIf_eq_ok, requireLength_eq_ok, Py.pure_eq_ok,
    exists_const]
  constructor
  · rintro ⟨hlen, hver, hs, hpl, htype, rfl⟩
    have himage := packBytes_fieldsAt_append_drop b [1, 1, 1, 1, 4, 2] (not_lt.mp hlen)
    have hfit := unpack_fits b 8 2
    simp only [fieldsAt, Nat.reduceAdd, hpl] at himage hfit
    refine ⟨⟨not_not.mp hver, unpack_fits _ _ _, hs, unpack_fits _ _ _, unpack_fits _ _ _,
      unpack_fits _ _ _, hfit⟩, ?_, himage⟩
    by_cases ha : allow = true
    · exact Or.inl ha
    · exact Or.inr (by simpa [ha] using htype)
  · rintro ⟨hv, htype, hb⟩
    obtain ⟨hlen, hfields, hdrop⟩ := packBytes_append_eq hv.fits hb
    change b.drop headerSize = _ at hdrop
    simp only [AppFrame.header, List.map_cons, List.map_nil, fieldsAt, List.cons.injEq,
      Prod.mk.injEq, true_and, and_true, Nat.reduceAdd] at hfields
    obtain ⟨h0, h1, h2, h3, h4, h5⟩ := hfields
    rw [hdrop, h0, h1, h2, h3, h4, h5]
    refine ⟨not_lt.mpr hlen, not_not.mpr hv.version, hv.senderId_ne, rfl, ?_, rfl⟩
    rintro ⟨ha, hn⟩
    exact htype.elim (fun h => by simp [h] at ha) hn

/-- **Two valid frames with the same image are equal.** -/
theorem AppFrame.bytes_inj {f f' : AppFrame} (h : f.Valid) (h' : f'.Valid)
    (he : f.bytes = f'.bytes) : f = f' := by
  obtain ⟨hheader, hpayload⟩ := packBytes_inj h.fits h'.fits rfl he
  simp only [AppFrame.header, List.cons.injEq, Prod.mk.injEq, true_and, and_true] at hheader
  obtain ⟨h0, h1, h2, h3, h4, -⟩ := hheader
  exact AppFrame.ext h0 h1 h2 h3 h4 hpayload

theorem requireLength_onlyAppFrameError (what : String) (n : ℤ) (p : Bytes) :
    Py.OnlyAppFrameError (requireLength what n p) := Py.onlyAppFrameError_raiseIf _ _

/-- Encoding a frame raises nothing but `AppFrameError`: the checks leave `struct` no
value out of range. -/
theorem encodeFrame_onlyAppFrameError (senderId : ℤ) (m : NameOrInt) (appSeq : ℤ) (payload : Bytes)
    (flags : ℤ) : Py.OnlyAppFrameError (encodeFrame senderId m appSeq payload flags) := by
  unfold encodeFrame
  refine (Py.onlyAppFrameError_raiseIf _ _).bind fun _ h0 => ?_
  refine (requireFits_onlyAppFrameError _ _ _ _).bind fun _ hs => ?_
  refine (namedValue_onlyAppFrameError _ _ _ _).bind fun t ht => ?_
  refine (requireFits_onlyAppFrameError _ _ _ _).bind fun _ hf => ?_
  refine (requireFits_onlyAppFrameError _ _ _ _).bind fun _ hq => ?_
  refine (Py.onlyAppFrameError_raiseIf _ _).bind fun _ hlen => ?_
  have hv : AppFrame.Valid ⟨version, t, senderId, flags, appSeq, payload⟩ :=
    ⟨rfl, namedValue_fits messageTypes_bytewise ht, raiseIf_eq_ok.mp h0, requireU8_eq_ok.mp hs,
      requireU8_eq_ok.mp hf, requireU32_eq_ok.mp hq, not_maxU16_lt_iff.mp (raiseIf_eq_ok.mp hlen)⟩
  exact (Py.onlyAppFrameError_of_eq_ok (pack_of_fits hv.fits)).bind fun _ _ =>
    Py.onlyAppFrameError_ok _

theorem decodeFrame_onlyAppFrameError (b : Bytes) (allow : Bool) :
    Py.OnlyAppFrameError (decodeFrame b allow) := by
  refine (Py.onlyAppFrameError_raiseIf _ _).bind fun _ _ => ?_
  refine (Py.onlyAppFrameError_raiseIf _ _).bind fun _ _ => ?_
  refine (Py.onlyAppFrameError_raiseIf _ _).bind fun _ _ => ?_
  refine (requireLength_onlyAppFrameError _ _ _).bind fun _ _ => ?_
  exact (Py.onlyAppFrameError_raiseIf _ _).bind fun _ _ => Py.onlyAppFrameError_ok _

/-! ### `route_data` -/

/-- `class RouteData`. -/
@[ext]
structure RouteData where
  originSenderId : ℤ
  destinationId : ℤ
  ttl : ℤ
  originSeq : ℤ
  innerType : ℤ
  innerPayload : Bytes
  deriving DecidableEq, Repr

/-- `RouteData.dedupe_key`. -/
def RouteData.dedupeKey (r : RouteData) : List ℤ := [r.originSenderId, r.originSeq]

/-- `RouteData.decremented_ttl`. -/
def RouteData.decrementedTtl (r : RouteData) : Py RouteData := do
  raiseIf (r.ttl ≤ 0) (.appFrameError "cannot decrement route_data ttl below zero")
  pure { r with ttl := r.ttl - 1 }

/-- `encode_route_data_payload`. -/
def encodeRouteDataPayload (originSenderId destinationId ttl originSeq : ℤ) (innerType : NameOrInt)
    (innerPayload : Bytes) : Py Bytes := do
  raiseIf (originSenderId = 0) (.appFrameError "origin_sender_id 0 is reserved")
  requireU8 "origin_sender_id" originSenderId
  requireU8 "destination_id" destinationId
  requireU8 "ttl" ttl
  requireU32 "origin_seq" originSeq
  let msgType ← messageTypeValue innerType
  raiseIf (msgType = msgRouteData) (.appFrameError "route_data cannot carry nested route_data")
  raiseIf (maxU16 < innerPayload.length)
    (.appFrameError s!"inner_payload too large for u16 length: {innerPayload.length}")
  let header ← pack [(1, originSenderId), (1, destinationId), (1, ttl), (4, originSeq),
    (1, msgType), (2, innerPayload.length)]
  pure (header ++ innerPayload)

/-- `decode_route_data_payload`. -/
def decodeRouteDataPayload (payload : Bytes) : Py RouteData := do
  raiseIf (payload.length < routeDataPayloadSize)
    (.appFrameError s!"route_data payload too short: {payload.length} < {routeDataPayloadSize}")
  let originSenderId := unpack payload 0 1
  let destinationId := unpack payload 1 1
  let ttl := unpack payload 2 1
  let originSeq := unpack payload 3 4
  let innerType := unpack payload 7 1
  let innerPayloadLen := unpack payload 8 2
  let innerPayload := payload.drop routeDataPayloadSize
  raiseIf (originSenderId = 0) (.appFrameError "origin_sender_id 0 is reserved")
  requireLength "inner_payload_len" innerPayloadLen innerPayload
  raiseIf (innerType = msgRouteData) (.appFrameError "route_data cannot carry nested route_data")
  raiseIf (¬ messageTypes.Has innerType)
    (.appFrameError ("unknown route_data inner_type: " ++ hexByteText innerType))
  pure { originSenderId, destinationId, ttl, originSeq, innerType, innerPayload }

/-- The fields of a `route_data` packet fit the format. -/
structure RouteData.Valid (r : RouteData) : Prop where
  originSenderId_ne : r.originSenderId ≠ 0
  originSenderId : FitsWidth 1 r.originSenderId
  destinationId : FitsWidth 1 r.destinationId
  ttl : FitsWidth 1 r.ttl
  originSeq : FitsWidth 4 r.originSeq
  innerType : FitsWidth 1 r.innerType
  innerType_ne : r.innerType ≠ msgRouteData
  innerPayload : FitsWidth 2 r.innerPayload.length

/-- The header fields of a `route_data` packet. -/
def RouteData.header (r : RouteData) : List (ℕ × ℤ) :=
  [(1, r.originSenderId), (1, r.destinationId), (1, r.ttl), (4, r.originSeq), (1, r.innerType),
    (2, r.innerPayload.length)]

/-- The wire image of a `route_data` packet. -/
def RouteData.bytes (r : RouteData) : Bytes := packBytes r.header ++ r.innerPayload

theorem RouteData.Valid.fits {r : RouteData} (h : r.Valid) :
    ∀ x ∈ r.header, FitsWidth x.1 x.2 := by
  simp [RouteData.header, h.originSenderId, h.destinationId, h.ttl, h.originSeq, h.innerType,
    h.innerPayload]

theorem RouteData.length_bytes (r : RouteData) :
    r.bytes.length = routeDataPayloadSize + r.innerPayload.length := by
  rw [RouteData.bytes, List.length_append, length_packBytes]
  rfl

theorem RouteData.decrementedTtl_eq_ok {r r' : RouteData} :
    r.decrementedTtl = .ok r' ↔ 0 < r.ttl ∧ r' = { r with ttl := r.ttl - 1 } := by
  simp only [RouteData.decrementedTtl, Py.bind_eq_ok, raiseIf_eq_ok, Py.pure_eq_ok, exists_const,
    not_le]
  exact and_congr_right fun _ => eq_comm

/-- **`encode_route_data_payload` accepts the arguments of valid packets.** -/
theorem encodeRouteDataPayload_eq_ok_iff {originSenderId destinationId ttl originSeq : ℤ}
    {m : NameOrInt} {payload b : Bytes} :
    encodeRouteDataPayload originSenderId destinationId ttl originSeq m payload = .ok b ↔
      ∃ t, messageTypeValue m = .ok t ∧
        RouteData.Valid ⟨originSenderId, destinationId, ttl, originSeq, t, payload⟩ ∧
        RouteData.bytes ⟨originSenderId, destinationId, ttl, originSeq, t, payload⟩ = b := by
  simp only [encodeRouteDataPayload, Py.bind_eq_ok, raiseIf_eq_ok, requireU8_eq_ok,
    requireU32_eq_ok, pack_eq_ok, Py.pure_eq_ok, exists_const]
  constructor
  · rintro ⟨h0, ho, hd, ht, hq, t, htype, hne, hlen, _, ⟨hfit, rfl⟩, rfl⟩
    exact ⟨t, htype, ⟨h0, ho, hd, ht, hq, namedValue_fits messageTypes_bytewise htype, hne,
      hfit (2, _) (by simp)⟩, rfl⟩
  · rintro ⟨t, htype, hv, rfl⟩
    exact ⟨hv.originSenderId_ne, hv.originSenderId, hv.destinationId, hv.ttl, hv.originSeq, t,
      htype, hv.innerType_ne, not_maxU16_lt_iff.mpr hv.innerPayload, _, ⟨hv.fits, rfl⟩, rfl⟩

/-- **`decode_route_data_payload` accepts the images of valid packets with a
registered inner type.** -/
theorem decodeRouteDataPayload_eq_ok_iff {b : Bytes} {r : RouteData} :
    decodeRouteDataPayload b = .ok r ↔
      r.Valid ∧ messageTypes.Has r.innerType ∧ r.bytes = b := by
  simp only [decodeRouteDataPayload, Py.bind_eq_ok, raiseIf_eq_ok, requireLength_eq_ok,
    Py.pure_eq_ok, exists_const]
  constructor
  · rintro ⟨hlen, h0, hpl, hne, htype, rfl⟩
    have himage := packBytes_fieldsAt_append_drop b [1, 1, 1, 4, 1, 2] (not_lt.mp hlen)
    have hfit := unpack_fits b 8 2
    simp only [fieldsAt, Nat.reduceAdd, hpl] at himage hfit
    exact ⟨⟨h0, unpack_fits _ _ _, unpack_fits _ _ _, unpack_fits _ _ _, unpack_fits _ _ _,
      unpack_fits _ _ _, hne, hfit⟩, not_not.mp htype, himage⟩
  · rintro ⟨hv, htype, hb⟩
    obtain ⟨hlen, hfields, hdrop⟩ := packBytes_append_eq hv.fits hb
    change b.drop routeDataPayloadSize = _ at hdrop
    simp only [RouteData.header, List.map_cons, List.map_nil, fieldsAt, List.cons.injEq,
      Prod.mk.injEq, true_and, and_true, Nat.reduceAdd] at hfields
    obtain ⟨h0, h1, h2, h3, h4, h5⟩ := hfields
    rw [hdrop, h0, h1, h2, h3, h4, h5]
    exact ⟨not_lt.mpr hlen, hv.originSenderId_ne, rfl, hv.innerType_ne, not_not.mpr htype, rfl⟩

/-- **Two valid packets with the same image are equal.** -/
theorem RouteData.bytes_inj {r r' : RouteData} (h : r.Valid) (h' : r'.Valid)
    (he : r.bytes = r'.bytes) : r = r' := by
  obtain ⟨hheader, hpayload⟩ := packBytes_inj h.fits h'.fits rfl he
  simp only [RouteData.header, List.cons.injEq, Prod.mk.injEq, true_and, and_true] at hheader
  obtain ⟨h0, h1, h2, h3, h4, -⟩ := hheader
  exact RouteData.ext h0 h1 h2 h3 h4 hpayload

theorem decodeRouteDataPayload_onlyAppFrameError (b : Bytes) :
    Py.OnlyAppFrameError (decodeRouteDataPayload b) := by
  refine (Py.onlyAppFrameError_raiseIf _ _).bind fun _ _ => ?_
  refine (Py.onlyAppFrameError_raiseIf _ _).bind fun _ _ => ?_
  refine (requireLength_onlyAppFrameError _ _ _).bind fun _ _ => ?_
  refine (Py.onlyAppFrameError_raiseIf _ _).bind fun _ _ => ?_
  exact (Py.onlyAppFrameError_raiseIf _ _).bind fun _ _ => Py.onlyAppFrameError_ok _

/-! ### `route_v2` -/

/-- `class RouteDataV2`. -/
@[ext]
structure RouteDataV2 where
  routeVersion : ℤ
  originType : ℤ
  originId : ℤ
  destinationType : ℤ
  destinationId : ℤ
  ttl : ℤ
  originSeq : ℤ
  trafficClass : ℤ
  innerType : ℤ
  innerPayload : Bytes
  deriving DecidableEq, Repr

/-- `RouteDataV2.dedupe_key`. -/
def RouteDataV2.dedupeKey (r : RouteDataV2) : List ℤ := [r.originType, r.originId, r.originSeq]

/-- `RouteDataV2.decremented_ttl`. -/
def RouteDataV2.decrementedTtl (r : RouteDataV2) : Py RouteDataV2 := do
  raiseIf (r.ttl ≤ 0) (.appFrameError "cannot decrement route_v2 ttl below zero")
  pure { r with ttl := r.ttl - 1 }

/-- `_require_origin_address`. -/
def requireOriginAddress (addressType addressId : ℤ) : Py Unit := do
  requireU8 "origin_type" addressType
  requireU8 "origin_id" addressId
  raiseIf (addressType = addrBroadcast) (.appFrameError "origin_type broadcast is invalid")
  raiseIf (¬ addressTypes.Has addressType)
    (.appFrameError ("unknown origin_type: " ++ hexByteText addressType))
  raiseIf (addressId = 0) (.appFrameError "origin_id 0 is reserved")

/-- `_require_destination_address`. -/
def requireDestinationAddress (addressType addressId : ℤ) : Py Unit := do
  requireU8 "destination_type" addressType
  requireU8 "destination_id" addressId
  raiseIf (¬ addressTypes.Has addressType)
    (.appFrameError ("unknown destination_type: " ++ hexByteText addressType))
  if addressType = addrBroadcast then
    raiseIf (addressId ≠ 0) (.appFrameError "broadcast destination_id must be 0")
  else
    raiseIf (addressId = 0) (.appFrameError "destination_id 0 is reserved for broadcast")

/-- `encode_route_v2_payload`. -/
def encodeRouteV2Payload (originType : NameOrInt) (originId : ℤ) (destinationType : NameOrInt)
    (destinationId ttl originSeq : ℤ) (trafficClass innerType : NameOrInt)
    (innerPayload : Bytes) : Py Bytes := do
  let encodedOriginType ← addressTypeValue originType
  let encodedDestinationType ← addressTypeValue destinationType
  let encodedTrafficClass ← trafficClassValue trafficClass
  requireOriginAddress encodedOriginType originId
  requireDestinationAddress encodedDestinationType destinationId
  requireU8 "ttl" ttl
  requireU32 "origin_seq" originSeq
  let msgType ← messageTypeValue innerType
  raiseIf (msgType = msgRouteData ∨ msgType = msgRouteV2)
    (.appFrameError "route_v2 cannot carry nested route packets")
  raiseIf (maxU16 < innerPayload.length)
    (.appFrameError s!"inner_payload too large for u16 length: {innerPayload.length}")
  let header ← pack [(1, routeV2Version), (1, encodedOriginType), (1, originId),
    (1, encodedDestinationType), (1, destinationId), (1, ttl), (4, originSeq),
    (1, encodedTrafficClass), (1, msgType), (2, innerPayload.length)]
  pure (header ++ innerPayload)

/-- `decode_route_v2_payload`. -/
def decodeRouteV2Payload (payload : Bytes) : Py RouteDataV2 := do
  raiseIf (payload.length < routeV2PayloadSize)
    (.appFrameError s!"route_v2 payload too short: {payload.length} < {routeV2PayloadSize}")
  let routeVersion := unpack payload 0 1
  let originType := unpack payload 1 1
  let originId := unpack payload 2 1
  let destinationType := unpack payload 3 1
  let destinationId := unpack payload 4 1
  let ttl := unpack payload 5 1
  let originSeq := unpack payload 6 4
  let trafficClass := unpack payload 10 1
  let innerType := unpack payload 11 1
  let innerPayloadLen := unpack payload 12 2
  let innerPayload := payload.drop routeV2PayloadSize
  raiseIf (routeVersion ≠ routeV2Version)
    (.appFrameError s!"unsupported route_v2 version: {routeVersion}")
  requireOriginAddress originType originId
  requireDestinationAddress destinationType destinationId
  raiseIf (¬ trafficClasses.Has trafficClass)
    (.appFrameError ("unknown traffic_class: " ++ hexByteText trafficClass))
  requireLength "inner_payload_len" innerPayloadLen innerPayload
  raiseIf (innerType = msgRouteData ∨ innerType = msgRouteV2)
    (.appFrameError "route_v2 cannot carry nested route packets")
  raiseIf (¬ messageTypes.Has innerType)
    (.appFrameError ("unknown route_v2 inner_type: " ++ hexByteText innerType))
  pure { routeVersion, originType, originId, destinationType, destinationId, ttl, originSeq,
         trafficClass, innerType, innerPayload }

/-- A registered address that can originate: a node or the C2 side, with an id. -/
structure IsOriginAddress (addressType addressId : ℤ) : Prop where
  type : FitsWidth 1 addressType
  id : FitsWidth 1 addressId
  type_ne : addressType ≠ addrBroadcast
  registered : addressTypes.Has addressType
  id_ne : addressId ≠ 0

/-- A registered address that can be sent to: broadcast with id 0, or a node or
the C2 side with an id. -/
structure IsDestinationAddress (addressType addressId : ℤ) : Prop where
  type : FitsWidth 1 addressType
  id : FitsWidth 1 addressId
  registered : addressTypes.Has addressType
  id_zero_iff : addressType = addrBroadcast ↔ addressId = 0

theorem requireOriginAddress_eq_ok {t i : ℤ} {u : Unit} :
    requireOriginAddress t i = .ok u ↔ IsOriginAddress t i := by
  simp only [requireOriginAddress, Py.bind_eq_ok, requireU8_eq_ok, raiseIf_eq_ok, exists_const]
  constructor
  · rintro ⟨ht, hi, hne, hr, hi0⟩
    exact ⟨ht, hi, hne, not_not.mp hr, hi0⟩
  · intro h
    exact ⟨h.type, h.id, h.type_ne, not_not.mpr h.registered, h.id_ne⟩

theorem requireDestinationAddress_eq_ok {t i : ℤ} {u : Unit} :
    requireDestinationAddress t i = .ok u ↔ IsDestinationAddress t i := by
  have hlast : (if t = addrBroadcast then
        raiseIf (i ≠ 0) (.appFrameError "broadcast destination_id must be 0")
      else raiseIf (i = 0) (.appFrameError "destination_id 0 is reserved for broadcast")) = .ok u ↔
      (t = addrBroadcast ↔ i = 0) := by
    split <;> simp [raiseIf_eq_ok, *]
  simp only [requireDestinationAddress, Py.bind_eq_ok, requireU8_eq_ok, raiseIf_eq_ok,
    exists_const, hlast]
  constructor
  · rintro ⟨ht, hi, hr, hz⟩
    exact ⟨ht, hi, not_not.mp hr, hz⟩
  · intro h
    exact ⟨h.type, h.id, not_not.mpr h.registered, h.id_zero_iff⟩

/-- The fields of a `route_v2` packet fit the format. -/
structure RouteDataV2.Valid (r : RouteDataV2) : Prop where
  routeVersion : r.routeVersion = routeV2Version
  origin : IsOriginAddress r.originType r.originId
  destination : IsDestinationAddress r.destinationType r.destinationId
  ttl : FitsWidth 1 r.ttl
  originSeq : FitsWidth 4 r.originSeq
  trafficClass : FitsWidth 1 r.trafficClass
  innerType : FitsWidth 1 r.innerType
  innerType_ne : ¬ (r.innerType = msgRouteData ∨ r.innerType = msgRouteV2)
  innerPayload : FitsWidth 2 r.innerPayload.length

/-- The header fields of a `route_v2` packet. -/
def RouteDataV2.header (r : RouteDataV2) : List (ℕ × ℤ) :=
  [(1, r.routeVersion), (1, r.originType), (1, r.originId), (1, r.destinationType),
    (1, r.destinationId), (1, r.ttl), (4, r.originSeq), (1, r.trafficClass), (1, r.innerType),
    (2, r.innerPayload.length)]

/-- The wire image of a `route_v2` packet. -/
def RouteDataV2.bytes (r : RouteDataV2) : Bytes := packBytes r.header ++ r.innerPayload

theorem RouteDataV2.Valid.fits {r : RouteDataV2} (h : r.Valid) :
    ∀ x ∈ r.header, FitsWidth x.1 x.2 := by
  have hver : FitsWidth 1 r.routeVersion := by rw [h.routeVersion]; decide
  simp [RouteDataV2.header, hver, h.origin.type, h.origin.id, h.destination.type,
    h.destination.id, h.ttl, h.originSeq, h.trafficClass, h.innerType, h.innerPayload]

theorem RouteDataV2.length_bytes (r : RouteDataV2) :
    r.bytes.length = routeV2PayloadSize + r.innerPayload.length := by
  rw [RouteDataV2.bytes, List.length_append, length_packBytes]
  rfl

theorem RouteDataV2.decrementedTtl_eq_ok {r r' : RouteDataV2} :
    r.decrementedTtl = .ok r' ↔ 0 < r.ttl ∧ r' = { r with ttl := r.ttl - 1 } := by
  simp only [RouteDataV2.decrementedTtl, Py.bind_eq_ok, raiseIf_eq_ok, Py.pure_eq_ok,
    exists_const, not_le]
  exact and_congr_right fun _ => eq_comm

/-- **`encode_route_v2_payload` accepts the arguments of valid packets.** -/
theorem encodeRouteV2Payload_eq_ok_iff {originType destinationType trafficClass m : NameOrInt}
    {originId destinationId ttl originSeq : ℤ} {payload b : Bytes} :
    encodeRouteV2Payload originType originId destinationType destinationId ttl originSeq
        trafficClass m payload = .ok b ↔
      ∃ ot dt tc t, addressTypeValue originType = .ok ot ∧
        addressTypeValue destinationType = .ok dt ∧ trafficClassValue trafficClass = .ok tc ∧
        messageTypeValue m = .ok t ∧
        RouteDataV2.Valid ⟨routeV2Version, ot, originId, dt, destinationId, ttl, originSeq, tc, t,
          payload⟩ ∧
        RouteDataV2.bytes ⟨routeV2Version, ot, originId, dt, destinationId, ttl, originSeq, tc, t,
          payload⟩ = b := by
  simp only [encodeRouteV2Payload, Py.bind_eq_ok, raiseIf_eq_ok, requireU8_eq_ok,
    requireU32_eq_ok, requireOriginAddress_eq_ok, requireDestinationAddress_eq_ok, pack_eq_ok,
    Py.pure_eq_ok, exists_const]
  constructor
  · rintro ⟨ot, hot, dt, hdt, tc, htc, ho, hd, httl, hq, t, ht, hne, hlen, _, ⟨hfit, rfl⟩, rfl⟩
    exact ⟨ot, dt, tc, t, hot, hdt, htc, ht,
      ⟨rfl, ho, hd, httl, hq, namedValue_fits trafficClasses_bytewise htc,
        namedValue_fits messageTypes_bytewise ht, hne, hfit (2, _) (by simp)⟩, rfl⟩
  · rintro ⟨ot, dt, tc, t, hot, hdt, htc, ht, hv, rfl⟩
    exact ⟨ot, hot, dt, hdt, tc, htc, hv.origin, hv.destination, hv.ttl, hv.originSeq, t, ht,
      hv.innerType_ne, not_maxU16_lt_iff.mpr hv.innerPayload, _, ⟨hv.fits, rfl⟩, rfl⟩

/-- **`decode_route_v2_payload` accepts the images of valid packets with a
registered traffic class and inner type.** -/
theorem decodeRouteV2Payload_eq_ok_iff {b : Bytes} {r : RouteDataV2} :
    decodeRouteV2Payload b = .ok r ↔
      r.Valid ∧ trafficClasses.Has r.trafficClass ∧ messageTypes.Has r.innerType ∧
        r.bytes = b := by
  simp only [decodeRouteV2Payload, Py.bind_eq_ok, raiseIf_eq_ok, requireLength_eq_ok,
    requireOriginAddress_eq_ok, requireDestinationAddress_eq_ok, Py.pure_eq_ok, exists_const]
  constructor
  · rintro ⟨hlen, hver, ho, hd, htc, hpl, hne, htype, rfl⟩
    have himage := packBytes_fieldsAt_append_drop b [1, 1, 1, 1, 1, 1, 4, 1, 1, 2]
      (not_lt.mp hlen)
    have hfit := unpack_fits b 12 2
    simp only [fieldsAt, Nat.reduceAdd, hpl] at himage hfit
    exact ⟨⟨not_not.mp hver, ho, hd, unpack_fits _ _ _, unpack_fits _ _ _, unpack_fits _ _ _,
      unpack_fits _ _ _, hne, hfit⟩, not_not.mp htc, not_not.mp htype, himage⟩
  · rintro ⟨hv, htc, htype, hb⟩
    obtain ⟨hlen, hfields, hdrop⟩ := packBytes_append_eq hv.fits hb
    change b.drop routeV2PayloadSize = _ at hdrop
    simp only [RouteDataV2.header, List.map_cons, List.map_nil, fieldsAt, List.cons.injEq,
      Prod.mk.injEq, true_and, and_true, Nat.reduceAdd] at hfields
    obtain ⟨h0, h1, h2, h3, h4, h5, h6, h7, h8, h9⟩ := hfields
    rw [hdrop, h0, h1, h2, h3, h4, h5, h6, h7, h8, h9]
    exact ⟨not_lt.mpr hlen, not_not.mpr hv.routeVersion, hv.origin, hv.destination,
      not_not.mpr htc, rfl, hv.innerType_ne, not_not.mpr htype, rfl⟩

/-- **Two valid packets with the same image are equal.** -/
theorem RouteDataV2.bytes_inj {r r' : RouteDataV2} (h : r.Valid) (h' : r'.Valid)
    (he : r.bytes = r'.bytes) : r = r' := by
  obtain ⟨hheader, hpayload⟩ := packBytes_inj h.fits h'.fits rfl he
  simp only [RouteDataV2.header, List.cons.injEq, Prod.mk.injEq, true_and, and_true] at hheader
  obtain ⟨h0, h1, h2, h3, h4, h5, h6, h7, h8, -⟩ := hheader
  exact RouteDataV2.ext h0 h1 h2 h3 h4 h5 h6 h7 h8 hpayload

theorem requireOriginAddress_onlyAppFrameError (t i : ℤ) :
    Py.OnlyAppFrameError (requireOriginAddress t i) := by
  refine (requireFits_onlyAppFrameError _ _ _ _).bind fun _ _ => ?_
  refine (requireFits_onlyAppFrameError _ _ _ _).bind fun _ _ => ?_
  refine (Py.onlyAppFrameError_raiseIf _ _).bind fun _ _ => ?_
  refine (Py.onlyAppFrameError_raiseIf _ _).bind fun _ _ => ?_
  exact Py.onlyAppFrameError_raiseIf _ _

theorem requireDestinationAddress_onlyAppFrameError (t i : ℤ) :
    Py.OnlyAppFrameError (requireDestinationAddress t i) := by
  refine (requireFits_onlyAppFrameError _ _ _ _).bind fun _ _ => ?_
  refine (requireFits_onlyAppFrameError _ _ _ _).bind fun _ _ => ?_
  refine (Py.onlyAppFrameError_raiseIf _ _).bind fun _ _ => ?_
  split
  · exact Py.onlyAppFrameError_raiseIf _ _
  · exact Py.onlyAppFrameError_raiseIf _ _

theorem encodeRouteV2Payload_onlyAppFrameError (originType : NameOrInt) (originId : ℤ)
    (destinationType : NameOrInt) (destinationId ttl originSeq : ℤ) (trafficClass m : NameOrInt)
    (payload : Bytes) :
    Py.OnlyAppFrameError (encodeRouteV2Payload originType originId destinationType destinationId ttl
      originSeq trafficClass m payload) := by
  unfold encodeRouteV2Payload
  refine (namedValue_onlyAppFrameError _ _ _ _).bind fun ot _ => ?_
  refine (namedValue_onlyAppFrameError _ _ _ _).bind fun dt _ => ?_
  refine (namedValue_onlyAppFrameError _ _ _ _).bind fun tc htc => ?_
  refine (requireOriginAddress_onlyAppFrameError _ _).bind fun _ ho => ?_
  refine (requireDestinationAddress_onlyAppFrameError _ _).bind fun _ hd => ?_
  refine (requireFits_onlyAppFrameError _ _ _ _).bind fun _ httl => ?_
  refine (requireFits_onlyAppFrameError _ _ _ _).bind fun _ hq => ?_
  refine (namedValue_onlyAppFrameError _ _ _ _).bind fun t ht => ?_
  refine (Py.onlyAppFrameError_raiseIf _ _).bind fun _ hne => ?_
  refine (Py.onlyAppFrameError_raiseIf _ _).bind fun _ hlen => ?_
  have hv : RouteDataV2.Valid ⟨routeV2Version, ot, originId, dt, destinationId, ttl, originSeq, tc,
      t, payload⟩ :=
    ⟨rfl, requireOriginAddress_eq_ok.mp ho, requireDestinationAddress_eq_ok.mp hd,
      requireU8_eq_ok.mp httl, requireU32_eq_ok.mp hq, namedValue_fits trafficClasses_bytewise htc,
      namedValue_fits messageTypes_bytewise ht, raiseIf_eq_ok.mp hne,
      not_maxU16_lt_iff.mp (raiseIf_eq_ok.mp hlen)⟩
  exact (Py.onlyAppFrameError_of_eq_ok (pack_of_fits hv.fits)).bind fun _ _ =>
    Py.onlyAppFrameError_ok _

theorem decodeRouteV2Payload_onlyAppFrameError (b : Bytes) :
    Py.OnlyAppFrameError (decodeRouteV2Payload b) := by
  refine (Py.onlyAppFrameError_raiseIf _ _).bind fun _ _ => ?_
  refine (Py.onlyAppFrameError_raiseIf _ _).bind fun _ _ => ?_
  refine (requireOriginAddress_onlyAppFrameError _ _).bind fun _ _ => ?_
  refine (requireDestinationAddress_onlyAppFrameError _ _).bind fun _ _ => ?_
  refine (Py.onlyAppFrameError_raiseIf _ _).bind fun _ _ => ?_
  refine (requireLength_onlyAppFrameError _ _ _).bind fun _ _ => ?_
  refine (Py.onlyAppFrameError_raiseIf _ _).bind fun _ _ => ?_
  exact (Py.onlyAppFrameError_raiseIf _ _).bind fun _ _ => Py.onlyAppFrameError_ok _

/-! ### Sync -/

/-- `class SyncStatus`. -/
@[ext]
structure SyncStatus where
  utcMs : ℤ
  slot : ℤ
  channel : ℤ
  nextHopMs : ℤ
  deriving DecidableEq, Repr

/-- `encode_sync_payload`. -/
def encodeSyncPayload (utcMs slot channel nextHopMs : ℤ) : Py Bytes := do
  requireU64 "utc_ms" utcMs
  requireU32 "slot" slot
  requireU16 "channel" channel
  requireU32 "next_hop_ms" nextHopMs
  pack [(8, utcMs), (4, slot), (2, channel), (4, nextHopMs)]

/-- The check that `decode_sync_payload` and `decode_status_payload` share. -/
def requireSize (what : String) (size : ℕ) (payload : Bytes) : Py Unit :=
  raiseIf (payload.length ≠ size)
    (.appFrameError s!"{what} payload length mismatch: expected={size} actual={payload.length}")

@[simp] theorem requireSize_eq_ok {what : String} {n : ℕ} {p : Bytes} {u : Unit} :
    requireSize what n p = .ok u ↔ p.length = n := by
  rw [requireSize, raiseIf_eq_ok, not_not]

/-- `decode_sync_payload`. -/
def decodeSyncPayload (payload : Bytes) : Py SyncStatus := do
  requireSize "sync" syncPayloadSize payload
  pure { utcMs := unpack payload 0 8, slot := unpack payload 8 4, channel := unpack payload 12 2,
         nextHopMs := unpack payload 14 4 }

/-- The fields of a sync message fit the format. -/
structure SyncStatus.Valid (s : SyncStatus) : Prop where
  utcMs : FitsWidth 8 s.utcMs
  slot : FitsWidth 4 s.slot
  channel : FitsWidth 2 s.channel
  nextHopMs : FitsWidth 4 s.nextHopMs

/-- The fields of a sync message. -/
def SyncStatus.header (s : SyncStatus) : List (ℕ × ℤ) :=
  [(8, s.utcMs), (4, s.slot), (2, s.channel), (4, s.nextHopMs)]

/-- The wire image of a sync message. -/
def SyncStatus.bytes (s : SyncStatus) : Bytes := packBytes s.header

theorem SyncStatus.Valid.fits {s : SyncStatus} (h : s.Valid) :
    ∀ x ∈ s.header, FitsWidth x.1 x.2 := by
  simp [SyncStatus.header, h.utcMs, h.slot, h.channel, h.nextHopMs]

/-- **`encode_sync_payload` accepts the arguments of valid messages.** -/
theorem encodeSyncPayload_eq_ok_iff {utcMs slot channel nextHopMs : ℤ} {b : Bytes} :
    encodeSyncPayload utcMs slot channel nextHopMs = .ok b ↔
      SyncStatus.Valid ⟨utcMs, slot, channel, nextHopMs⟩ ∧
        SyncStatus.bytes ⟨utcMs, slot, channel, nextHopMs⟩ = b := by
  simp only [encodeSyncPayload, Py.bind_eq_ok, requireU64_eq_ok, requireU32_eq_ok,
    requireU16_eq_ok, pack_eq_ok, exists_const]
  constructor
  · rintro ⟨hu, hs, hc, hn, -, rfl⟩
    exact ⟨⟨hu, hs, hc, hn⟩, rfl⟩
  · rintro ⟨hv, rfl⟩
    exact ⟨hv.utcMs, hv.slot, hv.channel, hv.nextHopMs, hv.fits, rfl⟩

/-- **`decode_sync_payload` accepts the images of valid messages.** -/
theorem decodeSyncPayload_eq_ok_iff {b : Bytes} {s : SyncStatus} :
    decodeSyncPayload b = .ok s ↔ s.Valid ∧ s.bytes = b := by
  simp only [decodeSyncPayload, Py.bind_eq_ok, requireSize_eq_ok, Py.pure_eq_ok, exists_const]
  constructor
  · rintro ⟨hlen, rfl⟩
    have himage := packBytes_fieldsAt_append_drop b [8, 4, 2, 4] hlen.ge
    rw [List.drop_eq_nil_of_le (by simp [hlen]), List.append_nil] at himage
    exact ⟨⟨unpack_fits _ _ _, unpack_fits _ _ _, unpack_fits _ _ _, unpack_fits _ _ _⟩, himage⟩
  · rintro ⟨hv, rfl⟩
    have hfields := fieldsAt_packBytes hv.fits []
    rw [List.append_nil] at hfields
    simp only [SyncStatus.header, List.map_cons, List.map_nil, fieldsAt, List.cons.injEq,
      Prod.mk.injEq, true_and, and_true, Nat.reduceAdd] at hfields
    obtain ⟨h0, h1, h2, h3⟩ := hfields
    refine ⟨length_packBytes _, ?_⟩
    rw [SyncStatus.bytes, SyncStatus.header, h0, h1, h2, h3]

/-- **Two valid sync messages with the same image are equal.** -/
theorem SyncStatus.bytes_inj {s s' : SyncStatus} (h : s.Valid) (h' : s'.Valid)
    (he : s.bytes = s'.bytes) : s = s' := by
  have hheader := packBytes_inj_nil h.fits h'.fits rfl he
  simp only [SyncStatus.header, List.cons.injEq, Prod.mk.injEq, true_and, and_true] at hheader
  obtain ⟨h0, h1, h2, h3⟩ := hheader
  exact SyncStatus.ext h0 h1 h2 h3

theorem decodeSyncPayload_onlyAppFrameError (b : Bytes) :
    Py.OnlyAppFrameError (decodeSyncPayload b) :=
  (Py.onlyAppFrameError_raiseIf _ _).bind fun _ _ => Py.onlyAppFrameError_ok _

/-! ### Status -/

/-- `class StatusPayload`. -/
@[ext]
structure StatusPayload where
  statusVersion : ℤ
  uptimeS : ℤ
  batteryPct : Option ℤ
  peerCount : ℤ
  flags : ℤ
  deriving DecidableEq, Repr

/-- The battery byte `encode_status_payload` writes. -/
def encodedBatteryPct : Option ℤ → Py ℤ
  | none => pure statusBatteryUnknown
  | some batteryPct => do
      raiseIf (¬ (0 ≤ batteryPct ∧ batteryPct ≤ 100))
        (.appFrameError "battery_pct must be in range 0..100 or None for unknown")
      pure batteryPct

/-- `encode_status_payload`. -/
def encodeStatusPayload (uptimeS : ℤ) (batteryPct : Option ℤ) (peerCount flags version : ℤ) :
    Py Bytes := do
  requireU8 "status_version" version
  raiseIf (version ≠ statusVersion) (.appFrameError s!"unsupported status_version: {version}")
  requireU32 "uptime_s" uptimeS
  requireU8 "peer_count" peerCount
  requireU8 "flags" flags
  let encoded ← encodedBatteryPct batteryPct
  pack [(1, version), (4, uptimeS), (1, encoded), (1, peerCount), (1, flags)]

/-- The battery percentage `decode_status_payload` reads off its byte. -/
def decodedBatteryPct (batteryPct : ℤ) : Py (Option ℤ) :=
  if batteryPct = statusBatteryUnknown then pure none
  else if 0 ≤ batteryPct ∧ batteryPct ≤ 100 then pure (some batteryPct)
  else .error (.appFrameError ("status battery_pct must be in range 0..100 or " ++
    s!"{statusBatteryUnknown} for unknown, got {batteryPct}"))

/-- `decode_status_payload`. -/
def decodeStatusPayload (payload : Bytes) : Py StatusPayload := do
  requireSize "status" statusPayloadSize payload
  let version := unpack payload 0 1
  raiseIf (version ≠ statusVersion) (.appFrameError s!"unsupported status_version: {version}")
  let batteryPct ← decodedBatteryPct (unpack payload 5 1)
  pure { statusVersion := version, uptimeS := unpack payload 1 4, batteryPct,
         peerCount := unpack payload 6 1, flags := unpack payload 7 1 }

/-- The fields of a status message fit the format. -/
structure StatusPayload.Valid (s : StatusPayload) : Prop where
  statusVersion : s.statusVersion = KovaWfb.statusVersion
  uptimeS : FitsWidth 4 s.uptimeS
  batteryPct : ∀ pct, s.batteryPct = some pct → 0 ≤ pct ∧ pct ≤ 100
  peerCount : FitsWidth 1 s.peerCount
  flags : FitsWidth 1 s.flags

/-- The battery byte on the wire. -/
def StatusPayload.batteryByte (s : StatusPayload) : ℤ := s.batteryPct.getD statusBatteryUnknown

/-- The fields of a status message on the wire. -/
def StatusPayload.header (s : StatusPayload) : List (ℕ × ℤ) :=
  [(1, s.statusVersion), (4, s.uptimeS), (1, s.batteryByte), (1, s.peerCount), (1, s.flags)]

/-- The wire image of a status message. -/
def StatusPayload.bytes (s : StatusPayload) : Bytes := packBytes s.header

theorem encodedBatteryPct_eq_ok {battery : Option ℤ} {v : ℤ} :
    encodedBatteryPct battery = .ok v ↔
      (∀ pct, battery = some pct → 0 ≤ pct ∧ pct ≤ 100) ∧ battery.getD statusBatteryUnknown = v := by
  cases battery with
  | none => simp [encodedBatteryPct, Py.pure_eq_ok]
  | some pct =>
    simp only [encodedBatteryPct, Py.bind_eq_ok, raiseIf_eq_ok, Py.pure_eq_ok, exists_const,
      not_not, Option.some.injEq, forall_eq', Option.getD_some]

theorem decodedBatteryPct_eq_ok {v : ℤ} {battery : Option ℤ} :
    decodedBatteryPct v = .ok battery ↔
      (∀ pct, battery = some pct → 0 ≤ pct ∧ pct ≤ 100) ∧ battery.getD statusBatteryUnknown = v := by
  unfold decodedBatteryPct
  constructor
  · intro h
    split at h
    · rename_i hv
      obtain rfl := Py.pure_eq_ok.mp h
      exact ⟨nofun, hv.symm⟩
    · split at h
      · rename_i hv
        obtain rfl := Py.pure_eq_ok.mp h
        exact ⟨fun _ hp => Option.some.inj hp ▸ hv, rfl⟩
      · cases h
  · rintro ⟨hpct, rfl⟩
    cases battery with
    | none => rfl
    | some pct =>
      have hp := hpct pct rfl
      rw [Option.getD_some, if_neg (by simp only [statusBatteryUnknown]; omega), if_pos hp]
      rfl

theorem StatusPayload.Valid.fits {s : StatusPayload} (h : s.Valid) :
    ∀ x ∈ s.header, FitsWidth x.1 x.2 := by
  have hver : FitsWidth 1 s.statusVersion := by rw [h.statusVersion]; decide
  have hbattery : FitsWidth 1 s.batteryByte := by
    unfold StatusPayload.batteryByte
    cases hb : s.batteryPct with
    | none => exact ⟨by decide, by decide⟩
    | some pct =>
      have hp := h.batteryPct pct hb
      exact ⟨hp.1, by simp only [Option.getD_some]; omega⟩
  simp [StatusPayload.header, hver, h.uptimeS, hbattery, h.peerCount, h.flags]

/-- **`encode_status_payload` accepts the arguments of valid messages.** -/
theorem encodeStatusPayload_eq_ok_iff {uptimeS peerCount flags version : ℤ}
    {batteryPct : Option ℤ} {b : Bytes} :
    encodeStatusPayload uptimeS batteryPct peerCount flags version = .ok b ↔
      StatusPayload.Valid ⟨version, uptimeS, batteryPct, peerCount, flags⟩ ∧
        StatusPayload.bytes ⟨version, uptimeS, batteryPct, peerCount, flags⟩ = b := by
  simp only [encodeStatusPayload, Py.bind_eq_ok, requireU8_eq_ok, requireU32_eq_ok,
    raiseIf_eq_ok, encodedBatteryPct_eq_ok, pack_eq_ok, exists_const]
  constructor
  · rintro ⟨-, hver, hu, hp, hf, _, ⟨hb, rfl⟩, -, rfl⟩
    exact ⟨⟨not_not.mp hver, hu, hb, hp, hf⟩, rfl⟩
  · rintro ⟨hv, rfl⟩
    have hver : FitsWidth 1 version := hv.fits (1, version) (by simp [StatusPayload.header])
    exact ⟨hver, not_not.mpr hv.statusVersion, hv.uptimeS, hv.peerCount, hv.flags, _,
      ⟨hv.batteryPct, rfl⟩, hv.fits, rfl⟩

/-- Encoding a status message raises nothing but `AppFrameError`. -/
theorem encodeStatusPayload_onlyAppFrameError (uptimeS : ℤ) (batteryPct : Option ℤ)
    (peerCount flags version : ℤ) :
    Py.OnlyAppFrameError (encodeStatusPayload uptimeS batteryPct peerCount flags version) := by
  have hbattery : Py.OnlyAppFrameError (encodedBatteryPct batteryPct) := by
    cases batteryPct with
    | none => exact Py.onlyAppFrameError_ok _
    | some pct => exact (Py.onlyAppFrameError_raiseIf _ _).bind fun _ _ => Py.onlyAppFrameError_ok _
  unfold encodeStatusPayload
  refine (requireFits_onlyAppFrameError _ _ _ _).bind fun _ _ => ?_
  refine (Py.onlyAppFrameError_raiseIf _ _).bind fun _ hversion => ?_
  refine (requireFits_onlyAppFrameError _ _ _ _).bind fun _ huptime => ?_
  refine (requireFits_onlyAppFrameError _ _ _ _).bind fun _ hpeers => ?_
  refine (requireFits_onlyAppFrameError _ _ _ _).bind fun _ hflags => ?_
  refine hbattery.bind fun encoded hencoded => ?_
  obtain ⟨hpct, rfl⟩ := encodedBatteryPct_eq_ok.mp hencoded
  have hv : StatusPayload.Valid ⟨version, uptimeS, batteryPct, peerCount, flags⟩ :=
    ⟨not_not.mp (raiseIf_eq_ok.mp hversion), requireU32_eq_ok.mp huptime, hpct,
      requireU8_eq_ok.mp hpeers, requireU8_eq_ok.mp hflags⟩
  exact Py.onlyAppFrameError_of_eq_ok (pack_of_fits hv.fits)

/-- **`decode_status_payload` accepts the images of valid messages.** -/
theorem decodeStatusPayload_eq_ok_iff {b : Bytes} {s : StatusPayload} :
    decodeStatusPayload b = .ok s ↔ s.Valid ∧ s.bytes = b := by
  simp only [decodeStatusPayload, Py.bind_eq_ok, requireSize_eq_ok, raiseIf_eq_ok, Py.pure_eq_ok,
    decodedBatteryPct_eq_ok, exists_const]
  constructor
  · rintro ⟨hlen, hver, battery, ⟨hpct, hbyte⟩, rfl⟩
    have himage := packBytes_fieldsAt_append_drop b [1, 4, 1, 1, 1] hlen.ge
    rw [List.drop_eq_nil_of_le (by simp [hlen]), List.append_nil] at himage
    refine ⟨⟨not_not.mp hver, unpack_fits _ _ _, hpct, unpack_fits _ _ _, unpack_fits _ _ _⟩, ?_⟩
    rw [StatusPayload.bytes, StatusPayload.header, StatusPayload.batteryByte, hbyte]
    exact himage
  · rintro ⟨hv, rfl⟩
    have hfields := fieldsAt_packBytes hv.fits []
    rw [List.append_nil] at hfields
    simp only [StatusPayload.header, List.map_cons, List.map_nil, fieldsAt, List.cons.injEq,
      Prod.mk.injEq, true_and, and_true, Nat.reduceAdd] at hfields
    obtain ⟨h0, h1, h2, h3, h4⟩ := hfields
    refine ⟨length_packBytes _, ?_⟩
    rw [StatusPayload.bytes, StatusPayload.header, h0, h1, h2, h3, h4]
    exact ⟨not_not.mpr hv.statusVersion, s.batteryPct, ⟨hv.batteryPct, rfl⟩, rfl⟩

/-- **Two valid status messages with the same image are equal:** no battery
percentage is written as the byte for an unknown one. -/
theorem StatusPayload.bytes_inj {s s' : StatusPayload} (h : s.Valid) (h' : s'.Valid)
    (he : s.bytes = s'.bytes) : s = s' := by
  have hheader := packBytes_inj_nil h.fits h'.fits rfl he
  simp only [StatusPayload.header, List.cons.injEq, Prod.mk.injEq, true_and, and_true] at hheader
  obtain ⟨h0, h1, hbattery, h3, h4⟩ := hheader
  -- Both percentages are what the decoder reads off the shared byte.
  have hread := decodedBatteryPct_eq_ok.mpr ⟨h.batteryPct, rfl⟩
  have hread' := decodedBatteryPct_eq_ok.mpr ⟨h'.batteryPct, rfl⟩
  change decodedBatteryPct s.batteryByte = _ at hread
  rw [hbattery] at hread
  exact StatusPayload.ext h0 h1 (Except.ok.inj (hread.symm.trans hread')) h3 h4

theorem decodedBatteryPct_onlyAppFrameError (v : ℤ) :
    Py.OnlyAppFrameError (decodedBatteryPct v) := by
  unfold decodedBatteryPct
  split
  · exact Py.onlyAppFrameError_ok _
  · split
    · exact Py.onlyAppFrameError_ok _
    · exact fun e he => ⟨_, (Except.error.inj he).symm⟩

theorem decodeStatusPayload_onlyAppFrameError (b : Bytes) :
    Py.OnlyAppFrameError (decodeStatusPayload b) := by
  refine (Py.onlyAppFrameError_raiseIf _ _).bind fun _ _ => ?_
  refine (Py.onlyAppFrameError_raiseIf _ _).bind fun _ _ => ?_
  exact (decodedBatteryPct_onlyAppFrameError _).bind fun _ _ => Py.onlyAppFrameError_ok _

end KovaWfb
