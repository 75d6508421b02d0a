/-
# When an origination is sent

`send_route` and `send_route_v2` of `python/examples/mesh_txrx.py`, lines 1880 to
1966, with a radio that does not fail.

The codec checks its arguments against the width of their fields and raises
`AppFrameError`; what the three headers and the wrapper add up to is checked by the
radio alone, which raises `ValueError`.  A `route_v2` frame is 60 bytes longer than its
payload, a `route_data` frame 20, or 56 under the mesh key.
-/

import KovaWfb.Mesh.Send

namespace KovaWfb

section

variable {A : Aead} {cfg : NodeConfig} {env : Env}
  {innerType destinationType destinationId ttl trafficClass : ℤ} {payload : Bytes} {s : NodeState}

/-! ### `send_route_v2` -/

/-- What has to hold for `send_route_v2` to reach the radio. -/
structure RouteV2Encodes (cfg : NodeConfig) (innerType : ℤ) (payload : Bytes)
    (destinationType destinationId ttl trafficClass : ℤ) : Prop where
  key : (e2eCryptoForOutbound cfg trafficClass).isSome
  origin : addressTypes.Has cfg.originType
  destination : IsDestinationAddress destinationType destinationId
  ttl : FitsWidth 1 ttl
  innerType_ne : ¬ (innerType = msgRouteData ∨ innerType = msgRouteV2)
  registered : messageTypes.Has innerType
  payload : (payload.length : ℤ) + 50 ≤ maxU16

/-- What the associated data of the packet binds. -/
def NodeConfig.e2eBinding (cfg : NodeConfig) (innerType : ℤ) (payload : Bytes)
    (destinationType destinationId trafficClass seq : ℤ) : E2eBinding :=
  ⟨cfg.originType, cfg.senderId, destinationType, destinationId, seq, trafficClass, innerType,
    payload.length⟩

/-- The packet that is sent under the key `c`. -/
def NodeConfig.routeV2 (cfg : NodeConfig) (A : Aead) (env : Env) (c : CryptoConfig) (innerType : ℤ)
    (payload : Bytes) (destinationType destinationId ttl trafficClass seq : ℤ) : RouteDataV2 :=
  ⟨routeV2Version, cfg.originType, cfg.senderId, destinationType, destinationId, ttl, seq,
    trafficClass, innerType, (c.wrap A env.urandom payload
      (cfg.e2eBinding innerType payload destinationType destinationId trafficClass seq).bytes).bytes⟩

theorem NodeConfig.length_routeV2 (hA : A.LengthPreserving chacha20Poly1305TagSize)
    (c : CryptoConfig) (seq : ℤ) :
    (cfg.routeV2 A env c innerType payload destinationType destinationId ttl trafficClass
      seq).bytes.length = payload.length + 50 := by
  rw [RouteDataV2.length_bytes]
  simp only [NodeConfig.routeV2]
  rw [c.length_wrap hA _ _ env.urandom_length]
  simp only [routeV2PayloadSize]
  omega

theorem NodeConfig.origin_valid (cfg : NodeConfig) (h : addressTypes.Has cfg.originType) :
    IsOriginAddress cfg.originType cfg.senderId :=
  ⟨cfg.originType_fits, cfg.senderId_fits, cfg.originType_ne, h, cfg.senderId_ne⟩

/-- A traffic class with a key is registered. -/
theorem trafficClass_has {c : CryptoConfig} (h : e2eCryptoForOutbound cfg trafficClass = some c) :
    trafficClasses.Has trafficClass := by
  unfold e2eCryptoForOutbound at h
  split_ifs at h with huplink hdownlink
  · rw [huplink]
    decide
  · rw [hdownlink]
    decide

theorem RouteV2Encodes.binding_valid
    (h : RouteV2Encodes cfg innerType payload destinationType destinationId ttl trafficClass)
    (seq : SeqNo) :
    (cfg.e2eBinding innerType payload destinationType destinationId trafficClass seq.value).Valid := by
  obtain ⟨c, hc⟩ := Option.isSome_iff_exists.mp h.key
  have hlen : FitsWidth 2 (payload.length : ℤ) :=
    fitsWidth_two_iff.mpr ⟨Int.natCast_nonneg _, by have := h.payload; omega⟩
  exact ⟨cfg.origin_valid h.origin, h.destination, seq.fits,
    (trafficClass_has hc).fits trafficClasses_bytewise, h.registered.fits messageTypes_bytewise,
    h.innerType_ne, h.registered, hlen⟩

theorem RouteV2Encodes.route_valid (hA : A.LengthPreserving chacha20Poly1305TagSize)
    (h : RouteV2Encodes cfg innerType payload destinationType destinationId ttl trafficClass)
    (env : Env) (c : CryptoConfig) (seq : SeqNo) :
    (cfg.routeV2 A env c innerType payload destinationType destinationId ttl trafficClass
      seq.value).Valid := by
  have hb := h.binding_valid seq
  refine ⟨rfl, hb.origin, h.destination, h.ttl, seq.fits, hb.trafficClass, hb.innerType,
    h.innerType_ne, fitsWidth_two_iff.mpr ⟨Int.natCast_nonneg _, ?_⟩⟩
  simp only [NodeConfig.routeV2]
  rw [c.length_wrap hA _ _ env.urandom_length]
  have hlen := h.payload
  push_cast
  omega

/-- The frame around a packet of this node is valid when the packet fits. -/
theorem RouteV2Encodes.frame_valid (hA : A.LengthPreserving chacha20Poly1305TagSize)
    (h : RouteV2Encodes cfg innerType payload destinationType destinationId ttl trafficClass)
    (env : Env) (c : CryptoConfig) (seq appSeq : SeqNo) :
    (outerFrame cfg.senderId msgRouteV2 appSeq.value (cfg.routeV2 A env c innerType payload
      destinationType destinationId ttl trafficClass seq.value).bytes).Valid := by
  refine outerFrame_valid cfg appSeq (by decide) (fitsWidth_two_iff.mpr ⟨Int.natCast_nonneg _, ?_⟩)
  rw [NodeConfig.length_routeV2 hA]
  have hlen := h.payload
  push_cast
  omega

/-- Where the call reaches the radio, it was given what it encodes. -/
theorem RouteV2Encodes.of_encoded (hA : A.LengthPreserving chacha20Poly1305TagSize)
    {e2e : Bytes} {c : CryptoConfig} {seq appSeq : ℤ}
    (hencrypt : encryptE2ePayload A cfg env cfg.originType cfg.senderId destinationType destinationId
      seq trafficClass innerType payload = .ok (e2e, c))
    (hroute : RouteDataV2.Valid ⟨routeV2Version, cfg.originType, cfg.senderId, destinationType,
      destinationId, ttl, seq, trafficClass, innerType, e2e⟩)
    (hframe : (outerFrame cfg.senderId msgRouteV2 appSeq (RouteDataV2.bytes ⟨routeV2Version,
      cfg.originType, cfg.senderId, destinationType, destinationId, ttl, seq, trafficClass, innerType,
      e2e⟩)).Valid) :
    RouteV2Encodes cfg innerType payload destinationType destinationId ttl trafficClass ∧
      e2eCryptoForOutbound cfg trafficClass = some c ∧
      cfg.routeV2 A env c innerType payload destinationType destinationId ttl trafficClass seq =
        ⟨routeV2Version, cfg.originType, cfg.senderId, destinationType, destinationId, ttl, seq,
          trafficClass, innerType, e2e⟩ := by
  obtain ⟨hc, hbinding, rfl⟩ := (encryptE2ePayload_eq_ok_iff A cfg env
    (cfg.e2eBinding innerType payload destinationType destinationId trafficClass seq) rfl).mp hencrypt
  have hlen := (fitsWidth_two_iff.mp hframe.payload).2
  change ((cfg.routeV2 A env c innerType payload destinationType destinationId ttl trafficClass
    seq).bytes.length : ℤ) ≤ maxU16 at hlen
  rw [NodeConfig.length_routeV2 hA] at hlen
  exact ⟨⟨Option.isSome_iff_exists.mpr ⟨c, hc⟩, hroute.origin.registered, hroute.destination,
    hroute.ttl, hroute.innerType_ne, hbinding.registered, by push_cast at hlen; exact hlen⟩, hc, rfl⟩

/-- **A `send_route_v2` that reaches the radio** is sent if the frame is small enough
for it, and raises `ValueError` otherwise. -/
theorem sendRouteV2_of_encodes (hA : A.LengthPreserving chacha20Poly1305TagSize)
    (hradio : env.radio = none)
    (h : RouteV2Encodes cfg innerType payload destinationType destinationId ttl trafficClass)
    {c : CryptoConfig} (hc : e2eCryptoForOutbound cfg trafficClass = some c) :
    let route := cfg.routeV2 A env c innerType payload destinationType destinationId ttl trafficClass
      s.nextOriginSeq.value
    let frame := (outerFrame cfg.senderId msgRouteV2 s.nextOuterSeq.value route.bytes).bytes
    frame.length = payload.length + 60 ∧
      sendRouteV2 A cfg env innerType payload destinationType destinationId ttl trafficClass s =
        if payload.length + 60 ≤ computeMaxPayload then
          .ok ⟨s.nextOriginSeq.value, c, route, ⟨frame, s.nextRfSeq.value⟩⟩
            (s.originated [cfg.originType, cfg.senderId, s.nextOriginSeq.value])
        else .error (.valueError s!"payload too large: {frame.length} > {computeMaxPayload}") s := by
  intro route frame
  have hvalid := h.route_valid hA env c s.nextOriginSeq
  have hframe := h.frame_valid hA env c s.nextOriginSeq s.nextOuterSeq
  have hlength : frame.length = payload.length + 60 := by
    rw [AppFrame.length_bytes]
    simp only [outerFrame]
    rw [NodeConfig.length_routeV2 hA]
    simp only [headerSize]
    omega
  refine ⟨hlength, ?_⟩
  have hencrypt : encryptE2ePayload A cfg env cfg.originType cfg.senderId destinationType
      destinationId s.nextOriginSeq.value trafficClass innerType payload =
        .ok (route.innerPayload, c) :=
    (encryptE2ePayload_eq_ok_iff A cfg env (cfg.e2eBinding innerType payload destinationType
      destinationId trafficClass s.nextOriginSeq.value) rfl).mpr
      ⟨hc, h.binding_valid s.nextOriginSeq, rfl⟩
  have hencode : encodeRouteV2Payload (.int cfg.originType) cfg.senderId (.int destinationType)
      destinationId ttl s.nextOriginSeq.value (.int trafficClass) (.int innerType)
      route.innerPayload = .ok route.bytes := encodeRouteV2Payload_int_eq_ok.mpr ⟨hvalid, rfl⟩
  have hdecode : decodeRouteV2Payload route.bytes = .ok route :=
    decodeRouteV2Payload_eq_ok_iff.mpr ⟨hvalid, trafficClass_has hc, h.registered, rfl⟩
  have houter : encodeOuterRouteV2Frame cfg.senderId s.nextOuterSeq.value route.bytes = .ok frame :=
    encodeFrame_int_eq_ok.mpr ⟨hframe, rfl⟩
  rw [sendRouteV2, PyM.get_bind_apply, PyM.lift_bind_of_eq_ok hencrypt]
  simp only
  rw [PyM.lift_bind_of_eq_ok hencode, PyM.lift_bind_of_eq_ok hdecode, PyM.lift_bind_of_eq_ok houter]
  by_cases hfit : payload.length + 60 ≤ computeMaxPayload
  · have hsent : txSend env ⟨frame, s.nextRfSeq.value⟩ = .ok () :=
      txSend_eq_ok.mpr ⟨by rw [hlength]; exact hfit, hradio⟩
    rw [if_pos hfit, PyM.lift_bind_of_eq_ok hsent]
    rfl
  · rw [if_neg hfit]
    have hlarge : txSend env ⟨frame, s.nextRfSeq.value⟩ =
        .error (.valueError s!"payload too large: {frame.length} > {computeMaxPayload}") := by
      rw [txSend, Py.bind_eq_error]
      exact Or.inl (raiseIf_eq_error.mpr ⟨by rw [hlength]; omega, rfl⟩)
    exact PyM.lift_bind_of_eq_error hlarge _ _

/-- **A `send_route_v2` that does not reach the radio** raises `AppFrameError` and leaves
the state alone. -/
theorem sendRouteV2_of_not_encodes (hA : A.LengthPreserving chacha20Poly1305TagSize)
    (h : ¬ RouteV2Encodes cfg innerType payload destinationType destinationId ttl trafficClass)
    (env : Env) (s : NodeState) :
    ∃ msg, sendRouteV2 A cfg env innerType payload destinationType destinationId ttl trafficClass s =
      .error (.appFrameError msg) s := by
  cases hsend : sendRouteV2 A cfg env innerType payload destinationType destinationId ttl
      trafficClass s with
  | ok r s' =>
    obtain ⟨e2e, c, hencrypt, hroute, -, -, hframe, -⟩ := sendRouteV2_eq_ok.mp hsend
    exact absurd (RouteV2Encodes.of_encoded hA hencrypt hroute hframe).1 h
  | error e s' =>
    rw [sendRouteV2, PyM.get_bind_apply, PyM.lift_bind_eq_error] at hsend
    obtain ⟨he, rfl⟩ | ⟨⟨e2e, c⟩, hencrypt, hsend⟩ := hsend
    · obtain ⟨msg, rfl⟩ := encryptE2ePayload_onlyAppFrameError _ _ _ _ _ _ _ _ _ _ _ e he
      exact ⟨msg, rfl⟩
    simp only [PyM.lift_bind_eq_error] at hsend
    obtain ⟨he, rfl⟩ | ⟨_, hencode, hsend⟩ := hsend
    · obtain ⟨msg, rfl⟩ := encodeRouteV2Payload_onlyAppFrameError _ _ _ _ _ _ _ _ _ e he
      exact ⟨msg, rfl⟩
    obtain ⟨he, rfl⟩ | ⟨route, hdecode, hsend⟩ := hsend
    · obtain ⟨msg, rfl⟩ := decodeRouteV2Payload_onlyAppFrameError _ e he
      exact ⟨msg, rfl⟩
    obtain ⟨he, rfl⟩ | ⟨_, houter, -⟩ := hsend
    · obtain ⟨msg, rfl⟩ := encodeFrame_onlyAppFrameError _ _ _ _ _ e he
      exact ⟨msg, rfl⟩
    obtain ⟨hroute, rfl⟩ := encodeRouteV2Payload_int_eq_ok.mp hencode
    obtain ⟨hframe, -⟩ := encodeFrame_int_eq_ok.mp houter
    exact absurd (RouteV2Encodes.of_encoded hA hencrypt hroute hframe).1 h

/-- **A `send_route_v2` returns** when it reaches the radio with a frame that fits. -/
theorem sendRouteV2_returns_iff (hA : A.LengthPreserving chacha20Poly1305TagSize)
    (hradio : env.radio = none) :
    (∃ r s', sendRouteV2 A cfg env innerType payload destinationType destinationId ttl trafficClass
        s = .ok r s') ↔
      RouteV2Encodes cfg innerType payload destinationType destinationId ttl trafficClass ∧
        payload.length + 60 ≤ computeMaxPayload := by
  by_cases hencodes :
      RouteV2Encodes cfg innerType payload destinationType destinationId ttl trafficClass
  · obtain ⟨c, hc⟩ := Option.isSome_iff_exists.mp hencodes.key
    rw [(sendRouteV2_of_encodes hA hradio hencodes hc).2]
    by_cases hfit : payload.length + 60 ≤ computeMaxPayload
    · rw [if_pos hfit]
      exact iff_of_true ⟨_, _, rfl⟩ ⟨hencodes, hfit⟩
    · rw [if_neg hfit]
      exact iff_of_false (not_returns_error _ _) fun h => hfit h.2
  · obtain ⟨msg, hsend⟩ := sendRouteV2_of_not_encodes hA hencodes env s
    rw [hsend]
    exact iff_of_false (not_returns_error _ _) fun h => hencodes h.1

/-- What `send_route_v2` raises is a `ValueError`. -/
theorem sendRouteV2_error_isValueError (hA : A.LengthPreserving chacha20Poly1305TagSize)
    (hradio : env.radio = none) {error : PyError} {s' : NodeState}
    (h : sendRouteV2 A cfg env innerType payload destinationType destinationId ttl trafficClass s =
      .error error s') : error.isValueError = true := by
  by_cases hencodes :
      RouteV2Encodes cfg innerType payload destinationType destinationId ttl trafficClass
  · obtain ⟨c, hc⟩ := Option.isSome_iff_exists.mp hencodes.key
    rw [(sendRouteV2_of_encodes hA hradio hencodes hc).2] at h
    split_ifs at h
    cases h
    rfl
  · obtain ⟨msg, hsend⟩ := sendRouteV2_of_not_encodes hA hencodes env s
    rw [hsend] at h
    cases h
    rfl

/-! ### `send_route` -/

/-- What the mesh key adds to a payload. -/
def NodeConfig.meshOverhead (cfg : NodeConfig) (innerType : ℤ) : ℕ :=
  if (cfg.meshCryptoFor innerType).isSome then 36 else 0

theorem length_encryptMeshPayload (hA : A.LengthPreserving chacha20Poly1305TagSize) {seq : ℤ}
    {routed : Bytes}
    (h : encryptMeshPayload A cfg env cfg.senderId destinationId ttl seq innerType payload =
      .ok routed) :
    routed.length = payload.length + cfg.meshOverhead innerType := by
  obtain ⟨hnone, rfl⟩ | ⟨c, hc, -, rfl⟩ := (encryptMeshPayload_eq_ok_iff A cfg env
    ⟨cfg.senderId, destinationId, ttl, seq, innerType, payload.length⟩ rfl).mp h
  · rw [NodeConfig.meshOverhead, hnone]
    rfl
  · rw [NodeConfig.meshOverhead, hc, c.length_wrap hA _ _ env.urandom_length]
    rfl

/-- A payload whose length fits can be encrypted for the mesh, if its fields fit too. -/
theorem exists_encryptMeshPayload {seq : SeqNo} (hdestination : FitsWidth 1 destinationId)
    (httl : FitsWidth 1 ttl) (htype : FitsWidth 1 innerType)
    (hlen : FitsWidth 2 (payload.length : ℤ)) :
    ∃ routed, encryptMeshPayload A cfg env cfg.senderId destinationId ttl seq.value innerType
      payload = .ok routed := by
  have hiff := fun b => @encryptMeshPayload_eq_ok_iff A cfg env
    ⟨cfg.senderId, destinationId, ttl, seq.value, innerType, payload.length⟩ payload b rfl
  cases hc : cfg.meshCryptoFor innerType with
  | none => exact ⟨payload, (hiff payload).mpr (Or.inl ⟨hc, rfl⟩)⟩
  | some c =>
    exact ⟨_, (hiff _).mpr (Or.inr ⟨c, hc, RouteBinding.fits_iff.mpr
      ⟨cfg.senderId_fits, hdestination, httl, seq.fits, htype, hlen⟩, rfl⟩)⟩

/-- The frame of a `route_data` packet of this node is its payload behind both headers. -/
theorem length_outerRouteFrame (seq appSeq : SeqNo) (routed : Bytes) :
    (outerFrame cfg.senderId msgRouteData appSeq.value
      (RouteData.bytes ⟨cfg.senderId, destinationId, ttl, seq.value, innerType,
        routed⟩)).bytes.length = routed.length + 20 := by
  rw [AppFrame.length_bytes]
  simp only [outerFrame]
  rw [RouteData.length_bytes]
  simp only [headerSize, routeDataPayloadSize]
  omega

/-- A `send_route` whose payload could be encrypted returns when its frame fits the radio. -/
theorem sendRoute_returns_of_encrypts (hradio : env.radio = none)
    (hdestination : FitsWidth 1 destinationId) (httl : FitsWidth 1 ttl)
    (htype : FitsWidth 1 innerType) (hne : innerType ≠ msgRouteData) {routed : Bytes}
    (hencrypt : encryptMeshPayload A cfg env cfg.senderId destinationId ttl s.nextOriginSeq.value
      innerType payload = .ok routed)
    (hfit : routed.length + 20 ≤ computeMaxPayload) :
    ∃ r s', sendRoute A cfg env innerType payload destinationId ttl s = .ok r s' := by
  rw [computeMaxPayload_eq] at hfit
  have hrouteFits : FitsWidth 2 (routed.length : ℤ) :=
    fitsWidth_two_iff.mpr ⟨Int.natCast_nonneg _, by rw [maxU16]; omega⟩
  let route : RouteData :=
    ⟨cfg.senderId, destinationId, ttl, s.nextOriginSeq.value, innerType, routed⟩
  have hroute : route.Valid :=
    ⟨cfg.senderId_ne, cfg.senderId_fits, hdestination, httl, s.nextOriginSeq.fits, htype, hne,
      hrouteFits⟩
  have hbytes : route.bytes.length = routed.length + 10 := by
    rw [RouteData.length_bytes, Nat.add_comm]
  have hframe : (outerFrame cfg.senderId msgRouteData s.nextOuterSeq.value route.bytes).Valid :=
    outerFrame_valid cfg s.nextOuterSeq (by decide)
      (fitsWidth_two_iff.mpr ⟨Int.natCast_nonneg _, by rw [hbytes, maxU16]; omega⟩)
  refine ⟨_, _, sendRoute_eq_ok.mpr ⟨routed, hencrypt, hroute, hframe, ?_, hradio, rfl, rfl⟩⟩
  rw [length_outerRouteFrame, computeMaxPayload_eq]
  exact hfit

/-- **A `send_route` returns** when its frame fits the radio, and raises otherwise. -/
theorem sendRoute_returns_iff (hA : A.LengthPreserving chacha20Poly1305TagSize)
    (hradio : env.radio = none) (hdestination : FitsWidth 1 destinationId) (httl : FitsWidth 1 ttl)
    (htype : FitsWidth 1 innerType) (hne : innerType ≠ msgRouteData) :
    (∃ r s', sendRoute A cfg env innerType payload destinationId ttl s = .ok r s') ↔
      payload.length + cfg.meshOverhead innerType + 20 ≤ computeMaxPayload := by
  constructor
  · rintro ⟨r, s', h⟩
    obtain ⟨routed, hencrypt, -, -, hfit, -⟩ := sendRoute_eq_ok.mp h
    rw [length_outerRouteFrame, length_encryptMeshPayload hA hencrypt] at hfit
    exact hfit
  · intro h
    have hpayload : FitsWidth 2 (payload.length : ℤ) :=
      fitsWidth_two_iff.mpr
        ⟨Int.natCast_nonneg _, by rw [computeMaxPayload_eq] at h; rw [maxU16]; omega⟩
    obtain ⟨routed, hencrypt⟩ := @exists_encryptMeshPayload A cfg env innerType destinationId ttl
      payload s.nextOriginSeq hdestination httl htype hpayload
    refine sendRoute_returns_of_encrypts hradio hdestination httl htype hne hencrypt ?_
    rw [length_encryptMeshPayload hA hencrypt]
    exact h

end

end KovaWfb
