/-
# Which originations are sound

The origination steps of `python/examples/mesh_txrx.py` against what their handlers
suggest: a step is idle, logs an error, or hands the radio a frame that fits and that a
peer decodes back to the fields it was sent with (`StepSound`).

`main` checks its arguments against the width of their fields.  What the steps need
beyond that is in `C2UplinkConfig.Handled` and `OriginConfig.Handled`, and
`origination_sound_iff` says that it is exactly what they need.
-/

import KovaWfb.Mesh.Originate

namespace KovaWfb

/-! ### Sound steps -/

/-- What a route packet is sent with. -/
structure OriginFields where
  innerType : ℤ
  destinationType : ℤ
  destinationId : ℤ
  ttl : ℤ
  trafficClass : ℤ

/-- The arguments of the periodic C2 image. -/
def C2UplinkConfig.fields (uplink : C2UplinkConfig) : OriginFields :=
  ⟨uplink.innerType, addrC2, uplink.destinationId, uplink.ttl, trafficC2Uplink⟩

/-- The arguments of the configured message. -/
def OriginConfig.fields {cfg : NodeConfig} (origin : OriginConfig cfg) : OriginFields :=
  ⟨origin.innerType, origin.destinationType, origin.destinationId, origin.ttl, origin.trafficClass⟩

/-- What was sent fits the radio, and a peer decodes it back to the fields and to the
protected payload. -/
def OriginOutcome.Sound (A : Aead) (cfg : NodeConfig) (env : OriginEnv) (fields : OriginFields)
    (payload : Py Bytes) (seq : ℤ) : OriginOutcome → Prop
  | .idle | .logged _ => True
  | .sent packet => packet.frame.payload.length ≤ computeMaxPayload ∧
      ∃ plaintext routed, payload = .ok plaintext ∧
        encryptMeshPayload A cfg env.toEnv cfg.senderId fields.destinationId fields.ttl seq
          fields.innerType plaintext = .ok routed ∧
        CarriesRoute packet.frame.payload
          ⟨cfg.senderId, fields.destinationId, fields.ttl, seq, fields.innerType, routed⟩
  | .sentV2 packet => packet.frame.payload.length ≤ computeMaxPayload ∧
      ∃ plaintext e2e crypto, payload = .ok plaintext ∧
        encryptE2ePayload A cfg env.toEnv cfg.originType cfg.senderId fields.destinationType
          fields.destinationId seq fields.trafficClass fields.innerType plaintext =
            .ok (e2e, crypto) ∧
        CarriesRouteV2 packet.frame.payload
          ⟨routeV2Version, cfg.originType, cfg.senderId, fields.destinationType,
            fields.destinationId, fields.ttl, seq, fields.trafficClass, fields.innerType, e2e⟩

/-- A step from `s` does not raise, and what it sends is sound. -/
def StepSound (A : Aead) (cfg : NodeConfig) (env : OriginEnv) (fields : OriginFields)
    (payload : Py Bytes) (s : LoopState) (result : EStateM.Result PyError LoopState OriginOutcome) :
    Prop :=
  ∃ outcome s', result = .ok outcome s' ∧
    outcome.Sound A cfg env fields payload s.node.nextOriginSeq.value

/-! ### What the steps need -/

/-- An image that can be built is sent under these conditions. -/
structure C2UplinkConfig.Sent (uplink : C2UplinkConfig) (cfg : NodeConfig) : Prop where
  origin : addressTypes.Has cfg.originType
  registered : messageTypes.Has uplink.innerType
  fits : uplink.payloadSize + 60 ≤ computeMaxPayload

/-- The image has a header and its interval a double, `sendto` to the local tap, if any, raises at
most an `OSError`, and the POST, if any, gets a harmless reply. -/
structure C2UplinkConfig.Handled (uplink : C2UplinkConfig) (cfg : NodeConfig) (env : OriginEnv) :
    Prop where
  headerFits : uplink.HeaderFits
  interval : HasDouble uplink.intervalMs
  tap : uplink.Sent cfg → cfg.localC2Tap = true → env.tap = .ok ()
  reply : uplink.Sent cfg → cfg.c2HttpForward = true → env.http.Harmless env.depthLimit

/-- The configured message is registered and fits, its class is one that is originated
by a registered type of origin, the tap, if any, raises at most an `OSError`, and the POST, if
any, gets a harmless reply. -/
structure OriginConfig.SendHandled {cfg : NodeConfig} (origin : OriginConfig cfg) (env : OriginEnv)
    (size : ℕ) : Prop where
  registered : messageTypes.Has origin.innerType
  mesh : origin.trafficClass = trafficMesh →
    size + cfg.meshOverhead origin.innerType + 20 ≤ computeMaxPayload
  routeV2 : origin.trafficClass ≠ trafficMesh →
    (origin.trafficClass = trafficC2Uplink ∨ origin.trafficClass = trafficC2Downlink) ∧
      addressTypes.Has cfg.originType ∧ size + 60 ≤ computeMaxPayload
  tap : origin.trafficClass = trafficC2Uplink → cfg.localC2Tap = true → env.tap = .ok ()
  reply : origin.trafficClass = trafficC2Uplink → cfg.c2HttpForward = true →
    env.http.Harmless env.depthLimit

/-- It can be sent so, and its interval has a double. -/
structure OriginConfig.Handled {cfg : NodeConfig} (origin : OriginConfig cfg) (env : OriginEnv)
    (size : ℕ) : Prop extends origin.SendHandled env size where
  interval : HasDouble origin.txIntervalMs

section

variable {A : Aead} {cfg : NodeConfig} {origin : OriginConfig cfg} {gradient : Gradient}
  {env : OriginEnv} {fields : OriginFields} {payload : Bytes} {s s' : LoopState}

/-! ### Frames that are sent -/

/-- **A `send_route_v2` that returns is sound.** -/
theorem sendRouteV2_sound (fields : OriginFields) {sent : SentRouteV2} {node : NodeState}
    (h : sendRouteV2 A cfg env.toEnv fields.innerType payload fields.destinationType
      fields.destinationId fields.ttl fields.trafficClass s.node = .ok sent node) :
    (OriginOutcome.sentV2 sent).Sound A cfg env fields (.ok payload) s.node.nextOriginSeq.value := by
  obtain ⟨e2e, c, hencrypt, hroute, hclass, htype, hframe, hfit, -, rfl, -⟩ := sendRouteV2_eq_ok.mp h
  exact ⟨hfit, payload, e2e, c, rfl, hencrypt,
    carriesRouteV2_outerFrame hroute hclass htype hframe⟩

/-- **A `send_route` that returns is sound** exactly when the type of the payload is
registered. -/
theorem sendRoute_sound_iff (fields : OriginFields) {sent : SentRoute} {node : NodeState}
    (h : sendRoute A cfg env.toEnv fields.innerType payload fields.destinationId fields.ttl s.node =
      .ok sent node) :
    (OriginOutcome.sent sent).Sound A cfg env fields (.ok payload) s.node.nextOriginSeq.value ↔
      messageTypes.Has fields.innerType := by
  obtain ⟨routed, hencrypt, hroute, hframe, hfit, -, rfl, -⟩ := sendRoute_eq_ok.mp h
  constructor
  · rintro ⟨-, _, _, -, -, f, -, -, hdecode⟩
    exact (decodeRouteDataPayload_eq_ok_iff.mp hdecode).2.1
  · intro htype
    exact ⟨hfit, payload, routed, rfl, hencrypt, carriesRoute_outerFrame hroute htype hframe⟩

/-- The POST behind a packet returns unless it is made and gets a harmful reply. -/
theorem postSentRoute_eq_ok_iff {route : RouteDataV2} :
    postSentRoute cfg env route = .ok () ↔
      (cfg.c2HttpForward = true ∧ route.IsUplink → env.http.Harmless env.depthLimit) := by
  unfold postSentRoute
  by_cases hpost : cfg.c2HttpForward = true ∧ route.IsUplink
  · rw [if_pos hpost, forall_prop_of_true hpost, ← postC2Upload_returns_iff, Py.bind_eq_ok]
    exact exists_congr fun _ => and_iff_left rfl
  · rw [if_neg hpost]
    exact iff_of_true rfl fun h => absurd h hpost

/-- What a packet is handed on to returns when both the tap and the POST do. -/
theorem handOnSentRoute_eq_ok_iff {route : RouteDataV2} :
    handOnSentRoute cfg env route = .ok () ↔
      (cfg.localC2Tap = true ∧ route.IsUplink → env.tap = .ok ()) ∧
        (cfg.c2HttpForward = true ∧ route.IsUplink → env.http.Harmless env.depthLimit) := by
  have htap : emitLocalC2Tap cfg env route = .ok () ↔
      (cfg.localC2Tap = true ∧ route.IsUplink → env.tap = .ok ()) := by
    unfold emitLocalC2Tap
    by_cases huplink : cfg.localC2Tap = true ∧ route.IsUplink
    · rw [if_pos huplink, forall_prop_of_true huplink]
    · rw [if_neg huplink]
      exact iff_of_true rfl fun h => absurd h huplink
  rw [handOnSentRoute, Py.bind_eq_ok, ← htap, ← postSentRoute_eq_ok_iff]
  exact ⟨fun ⟨_, h⟩ => h, fun h => ⟨(), h⟩⟩

/-! ### The periodic C2 image -/

/-- The arguments of an image that is sent are ones the encoders accept. -/
theorem C2UplinkConfig.encodes_iff {uplink : C2UplinkConfig} (hkey : cfg.c2UplinkCrypto.isSome)
    (hlength : payload.length + 60 ≤ computeMaxPayload) :
    RouteV2Encodes cfg uplink.innerType payload addrC2 uplink.destinationId uplink.ttl
        trafficC2Uplink ↔
      addressTypes.Has cfg.originType ∧ messageTypes.Has uplink.innerType := by
  constructor
  · intro h
    exact ⟨h.origin, h.registered⟩
  · rintro ⟨horigin, htype⟩
    have hid := uplink.destinationId_range
    have httl := uplink.ttl_range
    rw [computeMaxPayload_eq] at hlength
    refine ⟨hkey, horigin, ⟨by decide, ⟨by omega, by omega⟩, by decide, ?_⟩, ⟨httl.1, by omega⟩,
      fun h => ?_, htype, by rw [maxU16]; omega⟩
    · exact iff_of_false (by decide) (by omega)
    · exact uplink.innerType_allowed (h.elim Or.inl fun h => Or.inr (Or.inl h))

/-- **An image that can be built** is sent under the conditions of `Sent`, and what is
raised otherwise is a `ValueError`. -/
theorem sendC2Uplink_of_headerFits (hA : A.LengthPreserving chacha20Poly1305TagSize)
    (hradio : env.radio = none) {uplink : C2UplinkConfig} (hkey : cfg.c2UplinkCrypto.isSome)
    (hfits : uplink.HeaderFits) :
    (∃ sent s', sendC2Uplink A cfg gradient env uplink s = .ok sent s' ∧ uplink.Sent cfg ∧
        sent.route.IsUplink ∧
        (OriginOutcome.sentV2 sent).Sound A cfg env uplink.fields
          (buildC2UplinkPayload gradient uplink s.c2UplinkCounter) s.node.nextOriginSeq.value) ∨
      ∃ error s', sendC2Uplink A cfg gradient env uplink s = .error error s' ∧
        error.isValueError = true ∧ ¬ uplink.Sent cfg := by
  rw [sendC2Uplink, PyM.get_bind_apply]
  cases hbuild : buildC2UplinkPayload gradient uplink s.c2UplinkCounter with
  | error error =>
    refine Or.inr ⟨error, s, PyM.lift_bind_of_eq_error rfl _ _,
      (buildC2UplinkPayload_error hbuild).mpr hfits, fun hsent => ?_⟩
    have hsmall := hsent.fits
    rw [computeMaxPayload_eq] at hsmall
    obtain ⟨_, hok, -⟩ := buildC2UplinkPayload_eq_ok_iff.mpr
      ⟨hfits, by rw [maxU16]; omega, rfl⟩
    rw [hbuild] at hok
    cases hok
  | ok image =>
    obtain ⟨-, -, hsize⟩ := buildC2UplinkPayload_eq_ok_iff.mp ⟨image, hbuild, rfl⟩
    rw [PyM.lift_bind_of_eq_ok rfl, onNode]
    cases hsend : sendRouteV2 A cfg env.toEnv uplink.innerType image addrC2 uplink.destinationId
        uplink.ttl trafficC2Uplink s.node with
    | error error node =>
      refine Or.inr ⟨error, _, rfl, sendRouteV2_error_isValueError hA hradio hsend, fun hsent => ?_⟩
      have hlength : image.length + 60 ≤ computeMaxPayload := by
        rw [← hsize]
        exact hsent.fits
      obtain ⟨_, _, hok⟩ := (sendRouteV2_returns_iff (s := s.node) hA hradio).mpr
        ⟨(C2UplinkConfig.encodes_iff hkey hlength).mpr ⟨hsent.origin, hsent.registered⟩, hlength⟩
      rw [hsend] at hok
      cases hok
    | ok sent node =>
      obtain ⟨hencodes, hlength⟩ :=
        (sendRouteV2_returns_iff (s := s.node) hA hradio).mp ⟨sent, node, hsend⟩
      have hroute : sent.route.IsUplink := by
        obtain ⟨_, _, -, -, -, -, -, -, -, rfl, -⟩ := sendRouteV2_eq_ok.mp hsend
        exact ⟨rfl, rfl⟩
      exact Or.inl ⟨sent, _, rfl,
        ⟨hencodes.origin, hencodes.registered, by rw [hsize]; exact hlength⟩, hroute,
        sendRouteV2_sound uplink.fields hsend⟩

/-- An image without a header raises past the handler. -/
theorem sendC2Uplink_of_not_headerFits {uplink : C2UplinkConfig} (hfits : ¬ uplink.HeaderFits) :
    ∃ error s', sendC2Uplink A cfg gradient env uplink s = .error error s' ∧
      error.isValueError = false := by
  rw [sendC2Uplink, PyM.get_bind_apply]
  cases hbuild : buildC2UplinkPayload gradient uplink s.c2UplinkCounter with
  | error error =>
    refine ⟨error, s, PyM.lift_bind_of_eq_error rfl _ _, ?_⟩
    exact Bool.eq_false_iff.mpr fun h => hfits ((buildC2UplinkPayload_error hbuild).mp h)
  | ok image =>
    exact absurd (buildC2UplinkPayload_eq_ok_iff.mp ⟨image, hbuild, rfl⟩).1 hfits

theorem StepSound.idle {result : EStateM.Result PyError LoopState OriginOutcome} {payload : Py Bytes}
    (h : result = .ok .idle s) : StepSound A cfg env fields payload s result :=
  ⟨.idle, s, h, trivial⟩

theorem stepSound_ok_iff {payload : Py Bytes} {outcome : OriginOutcome} :
    StepSound A cfg env fields payload s (.ok outcome s') ↔
      outcome.Sound A cfg env fields payload s.node.nextOriginSeq.value := by
  constructor
  · rintro ⟨_, _, h, hsound⟩
    cases h
    exact hsound
  · exact fun hsound => ⟨outcome, s', rfl, hsound⟩

theorem not_stepSound_error {payload : Py Bytes} (error : PyError) (s' : LoopState) :
    ¬ StepSound A cfg env fields payload s (.error error s') := by
  rintro ⟨_, _, h, -⟩
  cases h

theorem exceptValueError_of_ok {α : Type} {x : PyM LoopState α} {a : α} (h : x s = .ok a s') :
    exceptValueError x s = .ok (.ok a) s' := by
  rw [exceptValueError, h]

theorem exceptValueError_of_error {α : Type} {x : PyM LoopState α} {error : PyError}
    (h : x s = .error error s') :
    exceptValueError x s = if error.isValueError then .ok (.error error) s' else .error error s' := by
  rw [exceptValueError, h]

/-- **A step that sets its next time** is sound when what it did is, and the interval has a
double. -/
theorem stepSound_next_iff {payload : Py Bytes} {outcome : OriginOutcome} {ms : ℤ}
    {next : ℚ → LoopState → LoopState} :
    StepSound A cfg env fields payload s ((do
        let intervalS ← liftM (secondsOfMs ms)
        modify (next intervalS)
        pure outcome : PyM LoopState OriginOutcome) s') ↔
      outcome.Sound A cfg env fields payload s.node.nextOriginSeq.value ∧ HasDouble ms := by
  by_cases hinterval : HasDouble ms
  · rw [PyM.lift_bind_of_eq_ok (secondsOfMs_of_hasDouble hinterval), and_iff_left hinterval]
    exact stepSound_ok_iff
  · obtain ⟨msg, herror⟩ := secondsOfMs_of_not_hasDouble hinterval
    rw [PyM.lift_bind_of_eq_error herror]
    exact iff_of_false (not_stepSound_error _ _) fun h => hinterval h.2

/-- **Which images the loop survives.** -/
theorem c2UplinkStep_sound_iff (hA : A.LengthPreserving chacha20Poly1305TagSize)
    (hradio : env.radio = none) {uplink : C2UplinkConfig} (huplink : origin.c2Uplink = some uplink) :
    StepSound A cfg env uplink.fields (buildC2UplinkPayload gradient uplink s.c2UplinkCounter) s
        (c2UplinkStep A cfg origin gradient env s) ↔
      (s.ShouldSendC2Uplink env → uplink.Handled cfg env) := by
  have hkey : cfg.c2UplinkCrypto.isSome :=
    origin.c2Uplink_key (by rw [huplink]; rfl)
  rw [c2UplinkStep, PyM.get_bind_apply, huplink]
  simp only
  by_cases hdue : s.ShouldSendC2Uplink env
  swap
  · rw [if_pos hdue]
    exact iff_of_true (StepSound.idle rfl) fun h => absurd h hdue
  rw [if_neg (not_not.mpr hdue), forall_prop_of_true hdue, PyM.bind_apply]
  by_cases hfits : uplink.HeaderFits
  swap
  · obtain ⟨error, s₁, hsend, herror⟩ := @sendC2Uplink_of_not_headerFits A cfg gradient env s _ hfits
    rw [exceptValueError_of_error hsend, herror]
    exact iff_of_false (not_stepSound_error _ _) fun h => hfits h.headerFits
  obtain ⟨sent, s₁, hsend, hcond, hroute, hsound⟩ | ⟨error, s₁, hsend, herror, hcond⟩ :=
    @sendC2Uplink_of_headerFits A cfg gradient env s hA hradio _ hkey hfits
  · rw [exceptValueError_of_ok hsend]
    simp only
    cases hpost : handOnSentRoute cfg env sent.route with
    | ok u =>
      obtain ⟨htap, hreply⟩ := handOnSentRoute_eq_ok_iff.mp hpost
      rw [PyM.lift_bind_of_eq_ok rfl, PyM.modify_bind_apply]
      refine stepSound_next_iff.trans ⟨fun h => ?_, fun h => ⟨hsound, h.interval⟩⟩
      exact ⟨hfits, h.2, fun _ hon => htap ⟨hon, hroute⟩, fun _ hon => hreply ⟨hon, hroute⟩⟩
    | error error =>
      rw [PyM.lift_bind_of_eq_error rfl]
      refine iff_of_false (not_stepSound_error _ _) fun h => ?_
      have hok : handOnSentRoute cfg env sent.route = .ok () :=
        handOnSentRoute_eq_ok_iff.mpr ⟨fun hp => h.tap hcond hp.1, fun hp => h.reply hcond hp.1⟩
      rw [hpost] at hok
      cases hok
  · rw [exceptValueError_of_error hsend, herror]
    refine stepSound_next_iff.trans ⟨fun h => ?_, fun h => ⟨trivial, h.interval⟩⟩
    exact ⟨hfits, h.2, fun hsent => absurd hsent hcond, fun hsent => absurd hsent hcond⟩

theorem c2UplinkStep_of_none (h : origin.c2Uplink = none) :
    c2UplinkStep A cfg origin gradient env s = .ok .idle s := by
  rw [c2UplinkStep, PyM.get_bind_apply, h]
  rfl

/-! ### The configured message -/

/-- **A payload that is not to be had** only puts the message off, if the interval has a
double. -/
theorem putOffMessage_eq {s : LoopState} (h : HasDouble origin.txIntervalMs) :
    putOffMessage origin env s =
      .ok none { s with nextTxAt := env.monotonic + origin.txIntervalS } := by
  rw [putOffMessage, PyM.lift_bind_of_eq_ok (secondsOfMs_of_hasDouble h)]
  rfl

theorem putOffMessage_error {s : LoopState} (h : ¬ HasDouble origin.txIntervalMs) :
    ∃ error, putOffMessage origin env s = .error error s := by
  obtain ⟨msg, herror⟩ := secondsOfMs_of_not_hasDouble h
  exact ⟨_, PyM.lift_bind_of_eq_error herror _ _⟩

/-- The step of the payload, by whether there is one. -/
theorem originPayloadStep_apply :
    originPayloadStep cfg origin env s =
      match buildOriginPayload cfg origin env s.node with
      | .ok payload => .ok payload s
      | .error _ => putOffMessage origin env s := by
  rw [originPayloadStep, PyM.get_bind_apply]
  rcases hbuild : buildOriginPayload cfg origin env s.node with (msg | error) | payload
  · rfl
  · simp only
    rw [if_pos (buildOriginPayload_error hbuild)]
  · rfl

/-- **Which payloads the loop survives.** -/
theorem originPayloadStep_returns_iff :
    (∃ payload s', originPayloadStep cfg origin env s = .ok payload s') ↔
      (origin.SourceFails env → HasDouble origin.txIntervalMs) := by
  rw [originPayloadStep_apply, ← @buildOriginPayload_fails_iff cfg origin env s.node]
  cases buildOriginPayload cfg origin env s.node with
  | ok payload => exact iff_of_true ⟨payload, s, rfl⟩ nofun
  | error error =>
    rw [forall_prop_of_true ⟨error, rfl⟩]
    by_cases hinterval : HasDouble origin.txIntervalMs
    · exact iff_of_true ⟨none, _, putOffMessage_eq hinterval⟩ hinterval
    · obtain ⟨error', herror⟩ := @putOffMessage_error cfg origin env s hinterval
      rw [herror]
      exact iff_of_false (not_returns_error _ _) hinterval

/-- What the step leaves: the state but for the time of the next message, and a payload that was
built. -/
theorem originPayloadStep_spec {originPayload : Option Bytes}
    (h : originPayloadStep cfg origin env s = .ok originPayload s') :
    s'.node = s.node ∧
      ∀ p, originPayload = some p → buildOriginPayload cfg origin env s.node = .ok (some p) := by
  rw [originPayloadStep_apply] at h
  cases hbuild : buildOriginPayload cfg origin env s.node with
  | ok payload =>
    rw [hbuild] at h
    cases h
    exact ⟨rfl, fun p hp => by rw [hp]⟩
  | error error =>
    rw [hbuild] at h
    dsimp only at h
    by_cases hinterval : HasDouble origin.txIntervalMs
    · rw [putOffMessage_eq hinterval] at h
      cases h
      exact ⟨rfl, nofun⟩
    · obtain ⟨error', herror⟩ := @putOffMessage_error cfg origin env s hinterval
      cases herror.symm.trans h

/-- The arguments of a message that is sent with `route_v2` are ones the encoders accept. -/
theorem OriginConfig.encodes_iff (hsource : origin.source ≠ .none)
    (hlength : payload.length + 60 ≤ computeMaxPayload) :
    RouteV2Encodes cfg origin.innerType payload origin.destinationType origin.destinationId
        origin.ttl origin.trafficClass ↔
      (origin.trafficClass = trafficC2Uplink ∨ origin.trafficClass = trafficC2Downlink) ∧
        addressTypes.Has cfg.originType ∧ messageTypes.Has origin.innerType := by
  have hid := origin.destinationId_range
  have httl := origin.ttl_range
  rw [computeMaxPayload_eq] at hlength
  constructor
  · intro h
    refine ⟨?_, h.origin, h.registered⟩
    by_contra hclass
    have hkey := h.key
    rw [e2eCryptoForOutbound, if_neg fun h => hclass (Or.inl h),
      if_neg fun h => hclass (Or.inr h)] at hkey
    cases hkey
  · rintro ⟨hclass, horigin, htype⟩
    have hkey : (e2eCryptoForOutbound cfg origin.trafficClass).isSome := by
      obtain h | h := hclass
      · rw [h]
        exact origin.uplink_key hsource h
      · rw [h]
        exact origin.downlink_key hsource h
    have hdestination : addressTypes.Has origin.destinationType := by
      obtain h | h := hclass
      · rw [origin.uplink_destination h]
        decide
      · rw [origin.downlink_destination h]
        decide
    exact ⟨hkey, horigin, ⟨origin.destinationType_fits, ⟨hid.1, by omega⟩, hdestination,
      origin.broadcast_iff⟩, ⟨httl.1, by omega⟩,
      fun h => origin.innerType_allowed (h.elim Or.inl fun h => Or.inr (Or.inl h)), htype,
      by rw [maxU16]; omega⟩

/-- A message of the mesh class. -/
theorem sendOrigin_mesh_sound_iff (hA : A.LengthPreserving chacha20Poly1305TagSize)
    (hradio : env.radio = none) (hclass : origin.trafficClass = trafficMesh) :
    StepSound A cfg env origin.fields (.ok payload) s (sendOrigin A cfg origin env payload s) ↔
      origin.SendHandled env payload.length := by
  have hid := origin.destinationId_range
  have httl := origin.ttl_range
  have hreturns := @sendRoute_returns_iff A cfg env.toEnv origin.innerType origin.destinationId
    origin.ttl payload s.node hA hradio ⟨hid.1, by omega⟩ ⟨httl.1, by omega⟩ origin.innerType_fits
    fun h => origin.innerType_allowed (Or.inl h)
  have hmesh : origin.SendHandled env payload.length ↔ messageTypes.Has origin.innerType ∧
      payload.length + cfg.meshOverhead origin.innerType + 20 ≤ computeMaxPayload := by
    constructor
    · intro h
      exact ⟨h.registered, h.mesh hclass⟩
    · rintro ⟨htype, hfits⟩
      have hne : origin.trafficClass ≠ trafficC2Uplink := by
        rw [hclass]
        decide
      exact ⟨htype, fun _ => hfits, fun h => absurd hclass h, fun h => absurd h hne,
        fun h => absurd h hne⟩
  rw [sendOrigin, if_neg (not_not.mpr hclass), PyM.bind_apply, hmesh, ← hreturns, onNode]
  cases hsend : sendRoute A cfg env.toEnv origin.innerType payload origin.destinationId origin.ttl
      s.node with
  | ok sent node =>
    have hsound := sendRoute_sound_iff (s := s) origin.fields hsend
    constructor
    · rintro ⟨outcome, s', h, houtcome⟩
      cases h
      exact ⟨hsound.mp houtcome, sent, node, rfl⟩
    · rintro ⟨htype, -⟩
      exact ⟨_, _, rfl, hsound.mpr htype⟩
  | error error node =>
    exact iff_of_false (not_stepSound_error _ _) fun h => not_returns_error _ _ h.2

/-- A message of another class. -/
theorem sendOrigin_routeV2_sound_iff (hA : A.LengthPreserving chacha20Poly1305TagSize)
    (hradio : env.radio = none) (hsource : origin.source ≠ .none)
    (hclass : origin.trafficClass ≠ trafficMesh) :
    StepSound A cfg env origin.fields (.ok payload) s (sendOrigin A cfg origin env payload s) ↔
      origin.SendHandled env payload.length := by
  have hreturns := @sendRouteV2_returns_iff A cfg env.toEnv origin.innerType origin.destinationType
    origin.destinationId origin.ttl origin.trafficClass payload s.node hA hradio
  rw [sendOrigin, if_pos hclass, PyM.bind_apply, onNode]
  cases hsend : sendRouteV2 A cfg env.toEnv origin.innerType payload origin.destinationType
      origin.destinationId origin.ttl origin.trafficClass s.node with
  | error error node =>
    refine iff_of_false (not_stepSound_error _ _) fun h => ?_
    obtain ⟨hkey, horigin, hlength⟩ := h.routeV2 hclass
    obtain ⟨_, _, hok⟩ := hreturns.mpr
      ⟨(OriginConfig.encodes_iff hsource hlength).mpr ⟨hkey, horigin, h.registered⟩, hlength⟩
    rw [hsend] at hok
    cases hok
  | ok sent node =>
    obtain ⟨hencodes, hlength⟩ := hreturns.mp ⟨sent, node, hsend⟩
    obtain ⟨hkey, horigin, htype⟩ := (OriginConfig.encodes_iff hsource hlength).mp hencodes
    have hroute : sent.route.IsUplink ↔ origin.trafficClass = trafficC2Uplink := by
      obtain ⟨_, _, -, -, -, -, -, -, -, rfl, -⟩ := sendRouteV2_eq_ok.mp hsend
      exact ⟨And.left, fun h => ⟨h, origin.uplink_destination h⟩⟩
    simp only
    cases hpost : handOnSentRoute cfg env sent.route with
    | ok u =>
      obtain ⟨htap, hreply⟩ := handOnSentRoute_eq_ok_iff.mp hpost
      rw [PyM.lift_bind_of_eq_ok rfl]
      exact iff_of_true ⟨_, _, rfl, sendRouteV2_sound origin.fields hsend⟩
        ⟨htype, fun h => absurd h hclass, fun _ => ⟨hkey, horigin, hlength⟩,
          fun h hon => htap ⟨hon, hroute.mpr h⟩, fun h hon => hreply ⟨hon, hroute.mpr h⟩⟩
    | error error =>
      rw [PyM.lift_bind_of_eq_error rfl]
      refine iff_of_false (not_stepSound_error _ _) fun h => ?_
      have hok : handOnSentRoute cfg env sent.route = .ok () :=
        handOnSentRoute_eq_ok_iff.mpr ⟨fun hp => h.tap (hroute.mp hp.2) hp.1,
          fun hp => h.reply (hroute.mp hp.2) hp.1⟩
      rw [hpost] at hok
      cases hok

/-- **Which messages the loop survives.** -/
theorem originateStep_sound_iff (hA : A.LengthPreserving chacha20Poly1305TagSize)
    (hradio : env.radio = none) (hsource : origin.source ≠ .none) :
    StepSound A cfg env origin.fields (.ok payload) s
        (originateStep A cfg origin env (some payload) s) ↔
      (s.ShouldOriginate origin env → origin.Handled env payload.length) := by
  rw [originateStep, PyM.get_bind_apply]
  simp only
  by_cases hdue : s.ShouldOriginate origin env
  swap
  · rw [if_pos hdue]
    exact iff_of_true (StepSound.idle rfl) fun h => absurd h hdue
  rw [if_neg (not_not.mpr hdue), forall_prop_of_true hdue, PyM.bind_apply]
  have hsend : StepSound A cfg env origin.fields (.ok payload) s
      (sendOrigin A cfg origin env payload s) ↔ origin.SendHandled env payload.length := by
    by_cases hclass : origin.trafficClass = trafficMesh
    · exact sendOrigin_mesh_sound_iff hA hradio hclass
    · exact sendOrigin_routeV2_sound_iff hA hradio hsource hclass
  have hhandled : origin.Handled env payload.length ↔
      origin.SendHandled env payload.length ∧ HasDouble origin.txIntervalMs :=
    ⟨fun h => ⟨h.toSendHandled, h.interval⟩, fun h => ⟨h.1, h.2⟩⟩
  rw [hhandled, ← hsend]
  cases sendOrigin A cfg origin env payload s with
  | error error s₁ =>
    exact iff_of_false (not_stepSound_error _ _) fun h => not_stepSound_error _ _ h.1
  | ok outcome s₁ =>
    dsimp only
    rw [PyM.modify_bind_apply, stepSound_ok_iff]
    exact stepSound_next_iff

/-! ### Passes of the loop -/

/-- The step of the periodic C2 image is idle where there is none, and sound where there
is one. -/
def C2UplinkSound (A : Aead) (cfg : NodeConfig) (origin : OriginConfig cfg) (gradient : Gradient)
    (env : OriginEnv) (s : LoopState) : Prop :=
  match origin.c2Uplink with
  | none => c2UplinkStep A cfg origin gradient env s = .ok .idle s
  | some uplink => StepSound A cfg env uplink.fields
      (buildC2UplinkPayload gradient uplink s.c2UplinkCounter) s
      (c2UplinkStep A cfg origin gradient env s)

/-- An image that is due is handled. -/
def C2UplinkHandled (cfg : NodeConfig) (origin : OriginConfig cfg) (env : OriginEnv)
    (s : LoopState) : Prop :=
  ∀ uplink, origin.c2Uplink = some uplink → s.ShouldSendC2Uplink env → uplink.Handled cfg env

/-- The step of the configured message is idle where there is none, and sound where there
is one. -/
def OriginateSound (A : Aead) (cfg : NodeConfig) (origin : OriginConfig cfg) (env : OriginEnv)
    (originPayload : Option Bytes) (s : LoopState) : Prop :=
  match originPayload with
  | none => originateStep A cfg origin env none s = .ok .idle s
  | some payload => StepSound A cfg env origin.fields (.ok payload) s
      (originateStep A cfg origin env (some payload) s)

/-- A message that is due is handled. -/
def OriginateHandled (cfg : NodeConfig) (origin : OriginConfig cfg) (env : OriginEnv)
    (originPayload : Option Bytes) (s : LoopState) : Prop :=
  ∀ payload, originPayload = some payload → s.ShouldOriginate origin env →
    origin.Handled env payload.length

theorem C2UplinkSound.returns (h : C2UplinkSound A cfg origin gradient env s) :
    ∃ outcome s', c2UplinkStep A cfg origin gradient env s = .ok outcome s' := by
  unfold C2UplinkSound at h
  cases huplink : origin.c2Uplink with
  | none =>
    rw [huplink] at h
    exact ⟨_, _, h⟩
  | some uplink =>
    rw [huplink] at h
    obtain ⟨outcome, s', hstep, -⟩ := h
    exact ⟨outcome, s', hstep⟩

theorem OriginateSound.returns {originPayload : Option Bytes}
    (h : OriginateSound A cfg origin env originPayload s) :
    ∃ outcome s', originateStep A cfg origin env originPayload s = .ok outcome s' := by
  cases originPayload with
  | none => exact ⟨_, _, h⟩
  | some payload =>
    obtain ⟨outcome, s', hstep, -⟩ := h
    exact ⟨outcome, s', hstep⟩

theorem c2UplinkSound_iff (hA : A.LengthPreserving chacha20Poly1305TagSize)
    (hradio : env.radio = none) :
    C2UplinkSound A cfg origin gradient env s ↔ C2UplinkHandled cfg origin env s := by
  unfold C2UplinkSound C2UplinkHandled
  cases huplink : origin.c2Uplink with
  | none =>
    refine iff_of_true (c2UplinkStep_of_none huplink) fun uplink h => ?_
    cases h
  | some uplink =>
    simp only [Option.some.injEq, forall_eq']
    exact c2UplinkStep_sound_iff hA hradio huplink

/-- The payload of a pass comes from a source. -/
theorem originateSound_iff (hA : A.LengthPreserving chacha20Poly1305TagSize)
    (hradio : env.radio = none) {originPayload : Option Bytes}
    (h : originPayloadStep cfg origin env s = .ok originPayload s') {t : LoopState} :
    OriginateSound A cfg origin env originPayload t ↔
      OriginateHandled cfg origin env originPayload t := by
  obtain ⟨-, hbuild⟩ := originPayloadStep_spec h
  cases originPayload with
  | none => exact iff_of_true rfl nofun
  | some payload =>
    have hsource := (buildOriginPayload_length (hbuild payload rfl)).1
    simp only [OriginateHandled, Option.some.injEq, forall_eq']
    exact originateStep_sound_iff hA hradio hsource

/-- One pass: the surroundings, and what the rest of the loop makes of the state before the
payload is built and between the two steps. -/
structure LoopPass where
  env : OriginEnv
  before : LoopState → LoopState
  between : LoopState → LoopState

/-- The origination of one pass. -/
def originPass (A : Aead) (cfg : NodeConfig) (origin : OriginConfig cfg) (gradient : Gradient)
    (pass : LoopPass) : PyM LoopState (OriginOutcome × OriginOutcome) := do
  modify pass.before
  let originPayload ← originPayloadStep cfg origin pass.env
  let image ← c2UplinkStep A cfg origin gradient pass.env
  modify pass.between
  let message ← originateStep A cfg origin pass.env originPayload
  pure (image, message)

/-- The passes of a run. -/
def originRun (A : Aead) (cfg : NodeConfig) (origin : OriginConfig cfg) (gradient : Gradient) :
    List LoopPass → PyM LoopState (List (OriginOutcome × OriginOutcome))
  | [] => pure []
  | pass :: passes => do
      let outcome ← originPass A cfg origin gradient pass
      let outcomes ← originRun A cfg origin gradient passes
      pure (outcome :: outcomes)

/-- The image and the message are handled whenever they are due. -/
structure LoopPass.Handled (cfg : NodeConfig) (origin : OriginConfig cfg) (pass : LoopPass) :
    Prop where
  radio : pass.env.radio = none
  image : ∀ uplink, origin.c2Uplink = some uplink → uplink.Handled cfg pass.env
  message : origin.source ≠ .none → origin.Handled pass.env (origin.payloadSize pass.env)

theorem originPass_returns (hA : A.LengthPreserving chacha20Poly1305TagSize) {pass : LoopPass}
    (h : pass.Handled cfg origin) :
    ∃ outcomes s', originPass A cfg origin gradient pass s = .ok outcomes s' := by
  rw [originPass, PyM.modify_bind_apply, PyM.bind_apply]
  have hinterval : origin.SourceFails pass.env → HasDouble origin.txIntervalMs :=
    fun hfails => (h.message hfails.source_ne).interval
  obtain ⟨originPayload, s₁, hpayload⟩ :=
    (@originPayloadStep_returns_iff cfg origin pass.env (pass.before s)).mpr hinterval
  obtain ⟨-, hbuild⟩ := originPayloadStep_spec hpayload
  have himage : C2UplinkSound A cfg origin gradient pass.env s₁ :=
    (c2UplinkSound_iff hA h.radio).mpr fun uplink huplink _ => h.image uplink huplink
  obtain ⟨image, s₂, hstep⟩ := himage.returns
  have hmessage : OriginateSound A cfg origin pass.env originPayload (pass.between s₂) := by
    refine (originateSound_iff hA h.radio hpayload).mpr fun payload hp _ => ?_
    obtain ⟨hsource, hlength⟩ := buildOriginPayload_length (hbuild payload hp)
    rw [hlength]
    exact h.message hsource
  obtain ⟨message, s₃, hlast⟩ := hmessage.returns
  refine ⟨(image, message), s₃, ?_⟩
  simp only [hpayload]
  rw [PyM.bind_apply, hstep]
  simp only
  rw [PyM.modify_bind_apply, PyM.bind_apply, hlast]
  rfl

/-- **Origination does not stop the loop** in a run whose passes are all handled, whatever
the rest of the loop does to the state. -/
theorem originRun_returns (hA : A.LengthPreserving chacha20Poly1305TagSize)
    {passes : List LoopPass} (h : ∀ pass ∈ passes, pass.Handled cfg origin) :
    ∃ outcomes s', originRun A cfg origin gradient passes s = .ok outcomes s' ∧
      outcomes.length = passes.length := by
  induction passes generalizing s with
  | nil => exact ⟨[], s, rfl, rfl⟩
  | cons pass passes ih =>
    obtain ⟨outcome, s₁, hpass⟩ := @originPass_returns A cfg origin gradient s hA pass
      (h pass List.mem_cons_self)
    obtain ⟨outcomes, s', hrun, hlength⟩ := ih (s := s₁) fun p hp => h p (List.mem_cons_of_mem _ hp)
    refine ⟨outcome :: outcomes, s', ?_, by rw [List.length_cons, hlength, List.length_cons]⟩
    rw [originRun, PyM.bind_apply, hpass]
    simp only
    rw [PyM.bind_apply, hrun]
    rfl

end

theorem pos_two : 0 < 2 := by decide
theorem interval_pos : (0 : ℤ) < 1000 := by decide
theorem interval_nonneg : (0 : ℤ) ≤ 1000 := by decide
theorem interval_hasDouble : HasDouble 1000 := by decide +kernel
theorem ttl_two : (0 : ℤ) ≤ 2 ∧ (2 : ℤ) ≤ 255 := by decide
theorem broadcast_range : (0 : ℤ) ≤ 0 ∧ (0 : ℤ) ≤ 255 := by decide
theorem broadcast_fits : FitsWidth 1 addrBroadcast := by decide
theorem text_fits : FitsWidth 1 msgText := by decide
theorem text_allowed : ¬ (msgText = msgRouteData ∨ msgText = msgRouteV2 ∨ msgText = msgSync) := by
  decide

/-- An image one pixel high to run the model with. -/
def C2UplinkConfig.sample (width : ℕ) (hwidth : 0 < width) : C2UplinkConfig where
  destinationId := 1
  ttl := 2
  innerType := msgText
  imageWidth := width
  imageHeight := 1
  imageFormat := .grayscale
  imageStyle := .random
  intervalMs := 1000
  destinationId_range := senderId_one
  ttl_range := ttl_two
  innerType_fits := text_fits
  innerType_allowed := text_allowed
  imageWidth_pos := hwidth
  imageHeight_pos := Nat.one_pos
  intervalMs_pos := interval_pos

/-- A class without an end-to-end key. -/
def KeylessClass (trafficClass : ℤ) : Prop :=
  trafficClass = trafficMesh ∨ trafficClass = trafficC2Broadcast

theorem KeylessClass.fits {trafficClass : ℤ} (h : KeylessClass trafficClass) :
    FitsWidth 1 trafficClass := by
  obtain rfl | rfl := h
  · decide
  · decide

theorem KeylessClass.ne_uplink {trafficClass : ℤ} (h : KeylessClass trafficClass) :
    trafficClass ≠ trafficC2Uplink := by
  obtain rfl | rfl := h
  · decide
  · decide

theorem KeylessClass.ne_downlink {trafficClass : ℤ} (h : KeylessClass trafficClass) :
    trafficClass ≠ trafficC2Downlink := by
  obtain rfl | rfl := h
  · decide
  · decide

/-- The message "hi" to everyone, and an image, to run the model with. -/
def OriginConfig.sample (trafficClass : ℤ) (hclass : KeylessClass trafficClass)
    (txIntervalMs : ℤ) (hinterval : 0 ≤ txIntervalMs) (image : C2UplinkConfig) :
    OriginConfig (NodeConfig.sampleOrigin 1 senderId_one) where
  source := .message [104, 105]
  innerType := msgText
  destinationType := addrBroadcast
  destinationId := 0
  ttl := 2
  trafficClass := trafficClass
  count := 0
  txIntervalMs := txIntervalMs
  c2Uplink := some image
  innerType_fits := text_fits
  innerType_allowed := text_allowed
  destinationType_fits := broadcast_fits
  destinationId_range := broadcast_range
  broadcast_iff := iff_of_true rfl rfl
  ttl_range := ttl_two
  trafficClass_fits := hclass.fits
  uplink_destination h := absurd h hclass.ne_uplink
  downlink_destination h := absurd h hclass.ne_downlink
  uplink_key _ h := absurd h hclass.ne_uplink
  downlink_key _ h := absurd h hclass.ne_downlink
  c2Uplink_key _ := rfl
  messageFile := nofun
  statusAuto := nofun
  count_nonneg := le_rfl
  txIntervalMs_nonneg := hinterval

/-- Surroundings and a state to run the model with. -/
def OriginEnv.sample : OriginEnv where
  toEnv := Env.sample
  startedAt := 0
  messageFile := .error "no message file"
  degradedLink := false
  tap := .ok ()
  http := .unreachable "no server"
  depthLimit := 1000

def LoopState.sample : LoopState where
  node := NodeState.initial (NodeConfig.sampleOrigin 1 senderId_one) SeqNo.one 0 none
  txGuardUntil := 0
  nextTxAt := 0
  nextC2UplinkAt := 0
  originatedCount := 0
  c2UplinkCounter := 0

def Gradient.sample : Gradient where
  gray _ := 0
  color _ _ _ _ _ := (0, 0, 0)

/-- The classes of the message and the images of the samples. -/
def originMesh : OriginConfig (NodeConfig.sampleOrigin 1 senderId_one) :=
  OriginConfig.sample trafficMesh (Or.inl rfl) 1000 interval_nonneg (C2UplinkConfig.sample 2 pos_two)

end KovaWfb
