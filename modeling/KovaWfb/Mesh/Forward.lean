/-
# The receive step is total and forwards faithfully

Of the receive branch of `python/examples/mesh_txrx.py` (lines 2284 to 2606): on
every payload the radio can deliver it returns, and what it transmits is the
received packet with one hop less in a fresh outer frame of the same length.

The proof follows the source: every decoder and both decryptions raise nothing
but `AppFrameError`, which is caught (`*_onlyAppFrameError`), and what a decoder
let through the encoders accept (`forwardRouteData_total`, `forwardRouteV2_total`).
-/

import KovaWfb.Mesh.Receive

namespace KovaWfb

variable {A : Aead} {cfg : NodeConfig} {env : Env}

/-- The payload a packet carries in the clear: its own when nothing protects its
type, else what opens under the mesh key. -/
inductive PlaintextOf (A : Aead) (cfg : NodeConfig) (r : RouteData) (p : Bytes) : Prop
  | clear (hkey : cfg.meshCryptoFor r.innerType = none) (hp : r.innerPayload = p)
  | opened (c : CryptoConfig) (secure : SecurePayload)
      (hkey : cfg.meshCryptoFor r.innerType = some c)
      (hopen : openMeshPayload A c r = .ok (secure, p))

theorem plaintextOf_of_decrypt {r : RouteData} {s s' : NodeState} {p : Bytes} {secured : Bool}
    (h : decryptMeshPayload A cfg r s = .ok (p, secured) s') : PlaintextOf A cfg r p := by
  obtain ⟨hkey, hp, -, -⟩ | ⟨c, secure, hkey, hopen, -, -, -⟩ := decryptMeshPayload_eq_ok_iff.mp h
  · exact .clear hkey hp
  · exact .opened c secure hkey hopen

/-- What opened is as long as its wrapper less header and tag. -/
theorem openMeshPayload_length (hA : A.LengthPreserving chacha20Poly1305TagSize)
    {c : CryptoConfig} {r : RouteData} {secure : SecurePayload} {p : Bytes}
    (h : openMeshPayload A c r = .ok (secure, p)) :
    secure.plaintextLen = p.length ∧
      r.innerPayload.length = securePayloadSize + (p.length + chacha20Poly1305TagSize) := by
  obtain ⟨hv, hb, -, -, hdec⟩ := openMeshPayload_eq_ok_iff.mp h
  have hlen := hA.length_of_decrypt _ _ _ _ _ hdec
  refine ⟨?_, ?_⟩
  · unfold SecurePayload.plaintextLen
    rw [hlen]
    push_cast
    omega
  · rw [← hb, hv.length_bytes, hlen]

/-- A packet carries one plaintext at most. -/
theorem PlaintextOf.unique {r : RouteData} {p q : Bytes} (h : PlaintextOf A cfg r p)
    (h' : PlaintextOf A cfg r q) : p = q := by
  cases h with
  | clear hkey hp =>
    cases h' with
    | clear _ hq => exact hp.symm.trans hq
    | opened c secure hkey' => exact absurd (hkey.symm.trans hkey') (by simp)
  | opened c secure hkey hopen =>
    cases h' with
    | clear hkey' => exact absurd (hkey'.symm.trans hkey) (by simp)
    | opened c' secure' hkey' hopen' =>
      obtain rfl := Option.some.inj (hkey.symm.trans hkey')
      exact (Prod.mk.inj (Except.ok.inj (hopen.symm.trans hopen'))).2

/-- Which plaintext a packet carries depends on the mesh key only. -/
theorem PlaintextOf.congr {cfg' : NodeConfig} {r : RouteData} {p : Bytes}
    (h : PlaintextOf A cfg r p)
    (hkey : cfg'.meshCryptoFor r.innerType = cfg.meshCryptoFor r.innerType) :
    PlaintextOf A cfg' r p := by
  cases h with
  | clear hnone hp => exact .clear (hkey.trans hnone) hp
  | opened c secure hsome hopen => exact .opened c secure (hkey.trans hsome) hopen

/-- **A packet protected by `encrypt_mesh_payload` carries the plaintext.** -/
theorem plaintextOf_of_encrypt {r : RouteData}
    (hA : cfg.meshCryptoFor r.innerType ≠ none → A.Correct chacha20Poly1305TagSize) {p : Bytes}
    (h : encryptMeshPayload A cfg env r.originSenderId r.destinationId r.ttl r.originSeq r.innerType
      p = .ok r.innerPayload) : PlaintextOf A cfg r p := by
  obtain ⟨hkey, hp⟩ | ⟨c, hkey, hfits, hb⟩ :=
    (encryptMeshPayload_eq_ok_iff A cfg env (r.binding p.length) rfl).mp h
  · exact .clear hkey hp.symm
  · change cfg.meshCryptoFor r.innerType = some c at hkey
    have hA := hA (by rw [hkey]; exact Option.some_ne_none c)
    have hlen := c.wrap_plaintextLen hA.toLengthPreserving env.urandom p (r.binding p.length).bytes
    refine .opened c _ hkey (openMeshPayload_eq_ok_iff.mpr
      ⟨c.wrap_valid hA.toLengthPreserving env.urandom_length, hb, ⟨rfl, rfl, rfl⟩, ?_, ?_⟩)
    · rw [hlen]
      exact hfits
    · rw [hlen]
      exact hA.decrypt_encrypt _ _ _ _

/-- **Protecting a plaintext again always succeeds** and keeps the length. -/
theorem encryptMeshPayload_hop (env : Env) (hA : A.LengthPreserving chacha20Poly1305TagSize)
    {r : RouteData} (hr : r.Valid) (ht : 0 < r.ttl) {p : Bytes} (hp : PlaintextOf A cfg r p) :
    ∃ routed, encryptMeshPayload A cfg env r.originSenderId r.destinationId (r.ttl - 1) r.originSeq
        r.innerType p = .ok routed ∧ routed.length = r.innerPayload.length := by
  have hiff := fun b => @encryptMeshPayload_eq_ok_iff A cfg env ((r.hop p).binding p.length) p b rfl
  cases hp with
  | clear hkey hp => exact ⟨p, (hiff p).mpr (Or.inl ⟨hkey, rfl⟩), by rw [hp]⟩
  | opened c secure hkey hopen =>
    obtain ⟨hplen, hinner⟩ := openMeshPayload_length hA hopen
    obtain ⟨-, -, -, hfits, -⟩ := openMeshPayload_eq_ok_iff.mp hopen
    obtain ⟨-, -, -, -, -, hplain⟩ := RouteBinding.fits_iff.mp hfits
    change FitsWidth 2 secure.plaintextLen at hplain
    rw [hplen] at hplain
    have hhop : (r.hop []).Valid := hr.hop ht (show FitsWidth 2 0 by decide)
    have hfits' : ((r.hop p).binding p.length).Fits := hhop.binding_fits hplain
    refine ⟨_, (hiff _).mpr (Or.inr ⟨c, hkey, hfits', rfl⟩), ?_⟩
    have hct := hA.length_encrypt c.key env.urandom p
      (c.authHeader ++ ((r.hop p).binding p.length).bytes)
    rw [(c.wrap_valid hA env.urandom_length).length_bytes, hinner, ← hct]
    rfl

/-- **A decoded `route_data` packet that fits the radio can be forwarded**, by a
frame of the same length. -/
theorem forwardRouteData_total (hA : A.LengthPreserving chacha20Poly1305TagSize) {r : RouteData}
    (hr : r.Valid) {p : Bytes} (hp : PlaintextOf A cfg r p)
    (hlen : headerSize + r.bytes.length ≤ computeMaxPayload) (hradio : env.radio = none)
    (s : NodeState) : ∃ f s', forwardRouteData A cfg env r p s = .ok f s' := by
  simp only [forwardRouteData_eq_ok_iff]
  by_cases ht : r.ttl ≤ 0
  · exact ⟨none, s, Or.inl ⟨ht, rfl, rfl⟩⟩
  · have ht' : 0 < r.ttl := not_le.mp ht
    obtain ⟨routed, hrouted, hrlen⟩ := encryptMeshPayload_hop env hA hr ht' hp
    have hv : (r.hop routed).Valid := hr.hop ht' (by rw [hrlen]; exact hr.innerPayload)
    have hbytes : (r.hop routed).bytes.length = r.bytes.length := by
      rw [RouteData.length_bytes, RouteData.length_bytes]
      simp only [RouteData.hop, hrlen]
    refine ⟨_, _, Or.inr ⟨ht', routed, hrouted, hv, ?_, ?_, hradio, rfl, rfl⟩⟩
    · refine outerFrame_valid cfg s.nextOuterSeq (by decide) (fitsWidth_length.mpr ?_)
      rw [hbytes]
      simp only [computeMaxPayload_eq, headerSize] at hlen
      omega
    · rw [AppFrame.length_bytes]
      simp only [outerFrame, hbytes]
      exact hlen

/-- **A decoded `route_v2` packet that fits the radio can be forwarded.** -/
theorem forwardRouteV2_total (cfg : NodeConfig) {r : RouteDataV2} (hr : r.Valid)
    (hlen : headerSize + r.bytes.length ≤ computeMaxPayload) (hradio : env.radio = none)
    (s : NodeState) : ∃ f s', forwardRouteV2 cfg env r s = .ok f s' := by
  simp only [forwardRouteV2_eq_ok_iff hr]
  by_cases ht : r.ttl ≤ 0
  · exact ⟨none, s, Or.inl ⟨ht, rfl, rfl⟩⟩
  · have hbytes : r.hop.bytes.length = r.bytes.length := by
      rw [RouteDataV2.length_bytes, RouteDataV2.length_bytes]
      rfl
    refine ⟨_, _, Or.inr ⟨not_le.mp ht, ?_, ?_, hradio, rfl, rfl⟩⟩
    · refine outerFrame_valid cfg s.nextOuterSeq (by decide) (fitsWidth_length.mpr ?_)
      rw [hbytes]
      simp only [computeMaxPayload_eq, headerSize] at hlen
      omega
    · rw [AppFrame.length_bytes]
      simp only [outerFrame, hbytes]
      exact hlen

/-! ### Totality -/

theorem receiveRouteData_total (hA : A.LengthPreserving chacha20Poly1305TagSize) {frame : AppFrame}
    (hlen : headerSize + frame.payload.length ≤ computeMaxPayload) (hradio : env.radio = none)
    (s : NodeState) : ∃ v s', ReceivesData A cfg env frame s v s' := by
  cases hroute : decodeRouteDataPayload frame.payload with
  | error e =>
    obtain ⟨msg, rfl⟩ := decodeRouteDataPayload_onlyAppFrameError _ e hroute
    exact ⟨_, _, .invalid msg hroute⟩
  | ok route =>
    obtain ⟨hv, -, hbytes⟩ := decodeRouteDataPayload_eq_ok_iff.mp hroute
    by_cases hown : route.originSenderId = cfg.senderId
    · exact ⟨_, _, .own route hroute hown⟩
    by_cases hseen : route.dedupeKey ∈ s.seen
    · exact ⟨_, _, .duplicate route hroute hown hseen⟩
    cases hauth : decryptMeshPayload A cfg route (s.notePeer cfg env frame.senderId) with
    | ok opened s₁ =>
      obtain ⟨p, secured⟩ := opened
      obtain ⟨d, hd⟩ := deliverRouteData_eq cfg env route p (s₁.rememberSeen route.dedupeKey)
      obtain ⟨f, s', hf⟩ := forwardRouteData_total hA hv (plaintextOf_of_decrypt hauth)
        (by rw [hbytes]; exact hlen) hradio (s₁.rememberSeen route.dedupeKey)
      exact ⟨_, _, .accepted ⟨route, p, secured, d, f⟩ s₁ s' hroute hown hseen hauth hd hf⟩
    | error e s₁ =>
      obtain ⟨rfl, c, -, hopen⟩ := decryptMeshPayload_error hauth
      obtain ⟨msg, rfl⟩ : ∃ msg, e = .appFrameError msg :=
        hopen.elim (openMeshPayload_onlyAppFrameError hv e) fun h => ⟨_, h⟩
      exact ⟨_, _, .authFail route msg hroute hown hseen hauth⟩

theorem receiveRouteV2_total (A : Aead) (cfg : NodeConfig) {frame : AppFrame}
    (hlen : headerSize + frame.payload.length ≤ computeMaxPayload) (hradio : env.radio = none)
    (s : NodeState) : ∃ v s', ReceivesV2 A cfg env frame s v s' := by
  cases hroute : decodeRouteV2Payload frame.payload with
  | error e =>
    obtain ⟨msg, rfl⟩ := decodeRouteV2Payload_onlyAppFrameError _ e hroute
    exact ⟨_, _, .invalid msg hroute⟩
  | ok route =>
    obtain ⟨hv, -, -, hbytes⟩ := decodeRouteV2Payload_eq_ok_iff.mp hroute
    let posted := uploadTo cfg.c2HttpForward cfg env s route
    let tapped := uploadTo cfg.localC2Tap cfg env s route
    have hforward := forwardRouteV2_total cfg hv (by rw [hbytes]; exact hlen) hradio
    by_cases hown : routeV2IsOwn cfg route
    · exact ⟨_, _, .own route hroute hown⟩
    by_cases hseen : route.dedupeKey ∈ s.seen
    · exact ⟨_, _, .duplicate route hroute hown hseen⟩
    cases hsecure : decodeSecurePayload route.innerPayload with
    | error e =>
      obtain ⟨msg, rfl⟩ := decodeSecurePayload_onlyAppFrameError _ e hsecure
      exact ⟨_, _, .invalidE2e route msg hroute hown hseen hsecure⟩
    | ok secure =>
      by_cases hkey : routeV2Delivered cfg route = true ∧
          (e2eCryptoForInbound cfg route secure).isSome = true
      · cases hauth : decryptE2ePayload A cfg route (s.notePeer cfg env frame.senderId) with
        | ok opened s₁ =>
          obtain ⟨p, secure'⟩ := opened
          obtain rfl := decryptE2ePayload_secure hsecure hauth
          obtain ⟨f, s', hf⟩ := hforward (s₁.rememberSeen route.dedupeKey)
          exact ⟨.v2 ⟨route, secure', some p, routeV2Delivered cfg route, posted, tapped, f⟩, s',
            .accepted _ s₁ s' hroute hown hseen hsecure rfl (Or.inr ⟨hkey, p, rfl, hauth⟩) rfl rfl hf⟩
        | error e s₁ =>
          obtain ⟨rfl, hopen⟩ := decryptE2ePayload_error hauth
          obtain ⟨msg, rfl⟩ : ∃ msg, e = .appFrameError msg :=
            hopen.elim (openE2ePayload_onlyAppFrameError A cfg route e) fun h => ⟨_, h⟩
          exact ⟨_, _, .authFail route msg secure hroute hown hseen hsecure hkey hauth⟩
      · obtain ⟨f, s', hf⟩ := hforward
          ((s.notePeer cfg env frame.senderId).rememberSeen route.dedupeKey)
        exact ⟨.v2 ⟨route, secure, none, routeV2Delivered cfg route, posted, tapped, f⟩, s',
          .accepted _ _ s' hroute hown hseen hsecure rfl (Or.inl ⟨hkey, rfl, rfl⟩) rfl rfl hf⟩

/-- **The receive branch returns** on every payload the radio can deliver. -/
theorem receive_total (hA : A.LengthPreserving chacha20Poly1305TagSize) {payload : Bytes}
    (hlen : payload.length ≤ computeMaxPayload) (hradio : env.radio = none) (s : NodeState) :
    ∃ v s', receive A cfg env payload s = .ok v s' := by
  simp only [receive_eq_ok_iff]
  cases hframe : decodeFrame payload false with
  | error e =>
    obtain ⟨msg, rfl⟩ := decodeFrame_onlyAppFrameError _ _ e hframe
    exact ⟨_, _, .invalid msg hframe⟩
  | ok frame =>
    obtain ⟨-, -, hbytes⟩ := decodeFrame_eq_ok_iff.mp hframe
    have hlen' : headerSize + frame.payload.length ≤ computeMaxPayload := by
      rwa [← frame.length_bytes, hbytes]
    by_cases hv2 : frame.messageType = msgRouteV2
    · obtain ⟨v, s', h⟩ := receiveRouteV2_total A cfg hlen' hradio s
      exact ⟨v, s', .v2 frame v s' hframe hv2 h⟩
    by_cases hdata : frame.messageType = msgRouteData
    · obtain ⟨v, s', h⟩ := receiveRouteData_total hA hlen' hradio s
      exact ⟨v, s', .data frame v s' hframe hdata h⟩
    exact ⟨_, _, .other frame hframe hv2 hdata⟩

/-! ### Faithfulness -/

/-- The route a forwarded payload `q` carries, against the route received: one
hop less and nothing else, except that a protected `route_data` payload is
wrapped anew around the same plaintext, in the same length. -/
inductive ForwardedRoute (A : Aead) (cfg : NodeConfig) (f : AppFrame) (q : Bytes) : Prop
  | v2 (r : RouteDataV2) (htype : f.messageType = msgRouteV2)
      (hroute : decodeRouteV2Payload f.payload = .ok r) (httl : 0 < r.ttl)
      (hforward : decodeRouteV2Payload q = .ok { r with ttl := r.ttl - 1 })
  | clear (r : RouteData) (htype : f.messageType = msgRouteData)
      (hroute : decodeRouteDataPayload f.payload = .ok r) (httl : 0 < r.ttl)
      (hkey : cfg.meshCryptoFor r.innerType = none)
      (hforward : decodeRouteDataPayload q = .ok { r with ttl := r.ttl - 1 })
  | secure (r : RouteData) (c : CryptoConfig) (secure secure' : SecurePayload)
      (p innerPayload : Bytes) (htype : f.messageType = msgRouteData)
      (hroute : decodeRouteDataPayload f.payload = .ok r) (httl : 0 < r.ttl)
      (hkey : cfg.meshCryptoFor r.innerType = some c)
      (hforward : decodeRouteDataPayload q = .ok { r with ttl := r.ttl - 1, innerPayload })
      (hlen : innerPayload.length = r.innerPayload.length)
      (hopen : openMeshPayload A c r = .ok (secure, p))
      (hopen' : openMeshPayload A c { r with ttl := r.ttl - 1, innerPayload } = .ok (secure', p))

/-- The frame a node transmits for a received payload: the received frame with
own sender id, no flags and own sequence number, around a forwarded route. -/
structure ForwardOf (A : Aead) (cfg : NodeConfig) (s : NodeState) (payload : Bytes)
    (sent : RadioFrame) (f : AppFrame) (q : Bytes) : Prop where
  received : decodeFrame payload false = .ok f
  forwarded : decodeFrame sent.payload false =
    .ok { f with senderId := cfg.senderId, flags := 0, appSeq := s.nextOuterSeq.value, payload := q }
  length_eq : sent.payload.length = payload.length
  route : ForwardedRoute A cfg f q

/-- A fresh outer frame decodes to the received frame with its three fields and
the payload replaced. -/
theorem decodeFrame_outerFrame {f : AppFrame} (hf : f.Valid)
    (htype : messageTypes.Has f.messageType) {senderId appSeq : ℤ} {q : Bytes}
    (hv : (outerFrame senderId f.messageType appSeq q).Valid) :
    decodeFrame (outerFrame senderId f.messageType appSeq q).bytes false =
      .ok { f with senderId := senderId, flags := 0, appSeq := appSeq, payload := q } := by
  have heq : outerFrame senderId f.messageType appSeq q =
      { f with senderId := senderId, flags := 0, appSeq := appSeq, payload := q } := by
    rw [outerFrame, ← hf.version]
  rw [← heq]
  exact decodeFrame_eq_ok_iff.mpr ⟨hv, Or.inr htype, rfl⟩

/-- A `route_data` packet and its next hop with the same plaintext. -/
theorem forwardedRoute_of_plaintextOf {f : AppFrame} {r : RouteData} {routed p : Bytes}
    (htype : f.messageType = msgRouteData) (hroute : decodeRouteDataPayload f.payload = .ok r)
    (httl : 0 < r.ttl) (hforward : decodeRouteDataPayload (r.hop routed).bytes = .ok (r.hop routed))
    (hlen : routed.length = r.innerPayload.length) (hplain : PlaintextOf A cfg r p)
    (hplain' : PlaintextOf A cfg (r.hop routed) p) :
    ForwardedRoute A cfg f (r.hop routed).bytes := by
  cases hplain with
  | clear hkey hp =>
    cases hplain' with
    | clear _ hp' =>
      obtain rfl : routed = r.innerPayload := hp'.trans hp.symm
      exact .clear r htype hroute httl hkey hforward
    | opened c secure hkey' => exact absurd (hkey.symm.trans hkey') (by simp)
  | opened c secure hkey hopen =>
    cases hplain' with
    | clear hkey' => exact absurd (hkey.symm.trans hkey') (by simp)
    | opened c' secure' hkey' hopen' =>
      obtain rfl : c = c' := Option.some.inj (hkey.symm.trans hkey')
      exact .secure r c secure secure' p routed htype hroute httl hkey hforward hlen hopen hopen'

/-- What the `route_v2` branch transmits. -/
theorem receivesV2_sent {payload : Bytes} {f : AppFrame} {s s' : NodeState} {v : Verdict}
    {sent : RadioFrame} (hframe : decodeFrame payload false = .ok f)
    (hv2 : f.messageType = msgRouteV2) (h : ReceivesV2 A cfg env f s v s')
    (hsent : v.sent = some sent) : ∃ q, ForwardOf A cfg s payload sent f q := by
  obtain ⟨hf, htype, hfb⟩ := decodeFrame_eq_ok_iff.mp hframe
  cases h with
  | invalid | own | duplicate | invalidE2e | authFail => cases hsent
  | accepted a s₁ _ hroute hown hseen hsecure hdelivered hauth hposted htapped hforward =>
    obtain ⟨hr, htc, hinner, hrb⟩ := decodeRouteV2Payload_eq_ok_iff.mp hroute
    change a.forwarded = some sent at hsent
    obtain ⟨replay, rfl⟩ := AcceptedV2.auth_frame hauth
    rw [hsent, forwardRouteV2_eq_ok_iff hr] at hforward
    obtain ⟨-, hnone, -⟩ | ⟨httl, hv, -, -, heq, -⟩ := hforward
    · cases hnone
    obtain rfl := Option.some.inj heq
    rw [← hv2] at hv
    refine ⟨a.route.hop.bytes, hframe, ?_, ?_, .v2 a.route hv2 hroute httl ?_⟩
    · rw [← hv2]
      exact decodeFrame_outerFrame hf (by rw [hv2]; decide) hv
    · rw [AppFrame.length_bytes, ← hfb, AppFrame.length_bytes, ← hrb]
      simp only [outerFrame, RouteDataV2.length_bytes]
      rfl
    · exact decodeRouteV2Payload_eq_ok_iff.mpr ⟨hr.hop httl, htc, hinner, rfl⟩

/-- What the `route_data` branch transmits. -/
theorem receivesData_sent (hA : A.Correct chacha20Poly1305TagSize) {payload : Bytes} {f : AppFrame}
    {s s' : NodeState} {v : Verdict} {sent : RadioFrame} (hframe : decodeFrame payload false = .ok f)
    (hdata : f.messageType = msgRouteData) (h : ReceivesData A cfg env f s v s')
    (hsent : v.sent = some sent) : ∃ q, ForwardOf A cfg s payload sent f q := by
  obtain ⟨hf, htype, hfb⟩ := decodeFrame_eq_ok_iff.mp hframe
  cases h with
  | invalid | own | duplicate | authFail => cases hsent
  | accepted a s₁ _ hroute hown hseen hauth hdeliver hforward =>
    obtain ⟨hr, hinner, hrb⟩ := decodeRouteDataPayload_eq_ok_iff.mp hroute
    change a.forwarded = some sent at hsent
    have hplain := plaintextOf_of_decrypt hauth
    obtain ⟨replay, rfl⟩ := decryptMeshPayload_frame hauth
    rw [hsent, forwardRouteData_eq_ok_iff] at hforward
    obtain ⟨-, hnone, -⟩ | ⟨httl, routed, hrouted, hrv, hv, -, -, heq, -⟩ := hforward
    · cases hnone
    obtain rfl := Option.some.inj heq
    obtain ⟨routed', hrouted', hlen⟩ := encryptMeshPayload_hop env hA.toLengthPreserving hr httl hplain
    obtain rfl := Except.ok.inj (hrouted.symm.trans hrouted')
    have hdecode : decodeRouteDataPayload (a.route.hop routed).bytes = .ok (a.route.hop routed) :=
      decodeRouteDataPayload_eq_ok_iff.mpr ⟨hrv, hinner, rfl⟩
    rw [← hdata] at hv
    refine ⟨(a.route.hop routed).bytes, hframe, ?_, ?_, forwardedRoute_of_plaintextOf hdata hroute httl
      hdecode hlen hplain (plaintextOf_of_encrypt (fun _ => hA) hrouted)⟩
    · rw [← hdata]
      exact decodeFrame_outerFrame hf (by rw [hdata]; decide) hv
    · rw [AppFrame.length_bytes, ← hfb, AppFrame.length_bytes, ← hrb]
      simp only [outerFrame, RouteData.length_bytes, RouteData.hop, hlen]

/-- **What `receive` transmits is a faithful forward.** -/
theorem receive_sent (hA : A.Correct chacha20Poly1305TagSize) {payload : Bytes}
    {s s' : NodeState} {v : Verdict} {sent : RadioFrame}
    (h : receive A cfg env payload s = .ok v s') (hsent : v.sent = some sent) :
    ∃ f q, ForwardOf A cfg s payload sent f q := by
  cases receive_eq_ok_iff.mp h with
  | invalid | other => cases hsent
  | v2 f _ _ hframe hv2 hreceive => exact ⟨f, receivesV2_sent hframe hv2 hreceive hsent⟩
  | data f _ _ hframe hdata hreceive => exact ⟨f, receivesData_sent hA hframe hdata hreceive hsent⟩

/-- **The receive step is total and forwards faithfully.** -/
theorem receive_total_and_faithful (hA : A.Correct chacha20Poly1305TagSize) (cfg : NodeConfig)
    (env : Env) (s : NodeState) (payload : Bytes) (hlen : payload.length ≤ computeMaxPayload)
    (hradio : env.radio = none) :
    ∃ v s', receive A cfg env payload s = .ok v s' ∧
      ∀ sent, v.sent = some sent → ∃ f q, ForwardOf A cfg s payload sent f q := by
  obtain ⟨v, s', h⟩ := receive_total hA.toLengthPreserving hlen hradio s
  exact ⟨v, s', h, fun sent hsent => receive_sent hA h hsent⟩

/-- A relay that holds the sample mesh key. -/
def sampleRelay : NodeConfig := NodeConfig.sampleMember 1 senderId_one

/-- A sync beacon of node 2. -/
def sampleBeacon (originSeq : ℤ) : RouteData := ⟨2, 0, 3, originSeq, msgSync, List.replicate 18 0⟩

/-- The frame node 2 sends it in. -/
def sampleFrame (originSeq : ℤ) : Bytes :=
  (outerFrame 2 msgRouteData 1 (sampleBeacon originSeq).bytes).bytes

/-- The frame of a data packet that an origin sealed under the sample mesh key. -/
def sealedFrame (A : Aead) (originId originSeq ttl : ℤ) (plaintext : Bytes) : Bytes :=
  let d : RouteBinding := ⟨originId, 0, ttl, originSeq, msgData, plaintext.length⟩
  let inner := (CryptoConfig.sample.wrap A Env.sample.urandom plaintext d.bytes).bytes
  (outerFrame originId msgRouteData 1
    (RouteData.bytes ⟨originId, 0, ttl, originSeq, msgData, inner⟩)).bytes

/-- A relay on the data packet of node 7. -/
theorem receive_total_and_faithful_sample :
    ∃ v s', receive Aead.checksum sampleRelay Env.sample (sampleFrame 7)
        (NodeState.initial sampleRelay .one 0 none) = .ok v s' ∧
      ∀ sent, v.sent = some sent → ∃ f q, ForwardOf Aead.checksum sampleRelay
        (NodeState.initial sampleRelay .one 0 none) (sampleFrame 7) sent f q :=
  receive_total_and_faithful Aead.checksum_lawful.toCorrect sampleRelay Env.sample _ (sampleFrame 7)
    (by decide) rfl

end KovaWfb
