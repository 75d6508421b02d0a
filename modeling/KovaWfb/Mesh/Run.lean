/-
# Runs of a node

The loop of `python/examples/mesh_txrx.py` (lines 2048 to 2606) seen from outside:
a node receives payloads, originates packets and, in between, tracks its link and
hops channels.  `AcceptsData` and `AcceptsV2` say what accepting a packet took and
did; `NodeStep` is one turn, `NodeRun` a run, and each turn remembers at most one
key in each of the two windows (`NodeStep.windows`), so a run is a history of newly
remembered keys (`NodeRun.traces_seen`, `NodeRun.traces_replay`).
-/

import KovaWfb.Mesh.Forward

namespace KovaWfb

variable {A : Aead} {cfg : NodeConfig} {env : Env}

/-! ### The packet in a payload -/

/-- The payload is a frame with this `route_data` packet. -/
def CarriesRoute (payload : Bytes) (r : RouteData) : Prop :=
  ∃ f, decodeFrame payload false = .ok f ∧ f.messageType = msgRouteData ∧
    decodeRouteDataPayload f.payload = .ok r

/-- The payload is a frame with this `route_v2` packet. -/
def CarriesRouteV2 (payload : Bytes) (r : RouteDataV2) : Prop :=
  ∃ f, decodeFrame payload false = .ok f ∧ f.messageType = msgRouteV2 ∧
    decodeRouteV2Payload f.payload = .ok r

theorem CarriesRouteV2.valid {payload : Bytes} {r : RouteDataV2} (h : CarriesRouteV2 payload r) :
    r.Valid := by
  obtain ⟨f, -, -, hroute⟩ := h
  exact (decodeRouteV2Payload_eq_ok_iff.mp hroute).1

/-- An outer frame carries the packet it was built around, if the packet's type is
registered. -/
theorem carriesRoute_outerFrame {senderId appSeq : ℤ} {r : RouteData} (hr : r.Valid)
    (htype : messageTypes.Has r.innerType)
    (hf : (outerFrame senderId msgRouteData appSeq r.bytes).Valid) :
    CarriesRoute (outerFrame senderId msgRouteData appSeq r.bytes).bytes r :=
  have hregistered : messageTypes.Has msgRouteData := by decide
  ⟨_, decodeFrame_eq_ok_iff.mpr ⟨hf, Or.inr hregistered, rfl⟩, rfl,
    decodeRouteDataPayload_eq_ok_iff.mpr ⟨hr, htype, rfl⟩⟩

theorem carriesRouteV2_outerFrame {senderId appSeq : ℤ} {r : RouteDataV2} (hr : r.Valid)
    (hclass : trafficClasses.Has r.trafficClass) (htype : messageTypes.Has r.innerType)
    (hf : (outerFrame senderId msgRouteV2 appSeq r.bytes).Valid) :
    CarriesRouteV2 (outerFrame senderId msgRouteV2 appSeq r.bytes).bytes r :=
  have hregistered : messageTypes.Has msgRouteV2 := by decide
  ⟨_, decodeFrame_eq_ok_iff.mpr ⟨hf, Or.inr hregistered, rfl⟩, rfl,
    decodeRouteV2Payload_eq_ok_iff.mpr ⟨hr, hclass, htype, rfl⟩⟩

/-- What an outer frame carries is the packet it was built around. -/
theorem CarriesRoute.eq_of_outerFrame {senderId appSeq : ℤ} {r r' : RouteData} (hr : r.Valid)
    (hf : (outerFrame senderId msgRouteData appSeq r.bytes).Valid)
    (h : CarriesRoute (outerFrame senderId msgRouteData appSeq r.bytes).bytes r') : r' = r := by
  obtain ⟨f, hframe, -, hroute⟩ := h
  obtain ⟨hf', -, hfb⟩ := decodeFrame_eq_ok_iff.mp hframe
  obtain rfl := AppFrame.bytes_inj hf' hf hfb
  obtain ⟨hr', -, hrb⟩ := decodeRouteDataPayload_eq_ok_iff.mp hroute
  exact RouteData.bytes_inj hr' hr hrb

theorem CarriesRouteV2.eq_of_outerFrame {senderId appSeq : ℤ} {r r' : RouteDataV2} (hr : r.Valid)
    (hf : (outerFrame senderId msgRouteV2 appSeq r.bytes).Valid)
    (h : CarriesRouteV2 (outerFrame senderId msgRouteV2 appSeq r.bytes).bytes r') : r' = r := by
  obtain ⟨f, hframe, -, hroute⟩ := h
  obtain ⟨hf', -, hfb⟩ := decodeFrame_eq_ok_iff.mp hframe
  obtain rfl := AppFrame.bytes_inj hf' hf hfb
  obtain ⟨hr', -, -, hrb⟩ := decodeRouteV2Payload_eq_ok_iff.mp hroute
  exact RouteDataV2.bytes_inj hr' hr hrb

/-! ### Accepting a packet -/

/-- What names an authenticated `route_data` packet: domain, origin, key epoch and
origin sequence number. -/
def meshAuthKey (c : CryptoConfig) (route : RouteData) : List ℤ :=
  [c.securityDomain, route.originSenderId, c.keyEpoch, route.originSeq]

/-- The replay key of a packet that opened is built from the configured key. -/
theorem meshReplayKey_eq {c : CryptoConfig} {r : RouteData} {secure : SecurePayload} {p : Bytes}
    (h : openMeshPayload A c r = .ok (secure, p)) : meshReplayKey secure r = meshAuthKey c r := by
  obtain ⟨-, -, hnames, -, -⟩ := openMeshPayload_eq_ok_iff.mp h
  rw [meshReplayKey, meshAuthKey, hnames.securityDomain, hnames.keyEpoch]

/-- What follows the acceptance of a `route_data` packet: nothing at the end of
its hops, else the packet with one hop less under the node's own counters. -/
def ForwardsData (A : Aead) (cfg : NodeConfig) (env : Env) (r : RouteData) (p : Bytes)
    (s : NodeState) (forwarded : Option RadioFrame) : Prop :=
  (r.ttl ≤ 0 ∧ forwarded = none) ∨
  (0 < r.ttl ∧ ∃ routed, encryptMeshPayload A cfg env r.originSenderId r.destinationId (r.ttl - 1)
      r.originSeq r.innerType p = .ok routed ∧
    let frame := outerFrame cfg.senderId msgRouteData s.nextOuterSeq.value (r.hop routed).bytes
    (r.hop routed).Valid ∧ frame.Valid ∧ frame.bytes.length ≤ computeMaxPayload ∧
      env.radio = none ∧ forwarded = some ⟨frame.bytes, s.nextRfSeq.value⟩)

/-- The same for a `route_v2` packet, whose payload stays. -/
def ForwardsV2 (cfg : NodeConfig) (env : Env) (r : RouteDataV2) (s : NodeState)
    (forwarded : Option RadioFrame) : Prop :=
  (r.ttl ≤ 0 ∧ forwarded = none) ∨
  (0 < r.ttl ∧
    let frame := outerFrame cfg.senderId msgRouteV2 s.nextOuterSeq.value r.hop.bytes
    frame.Valid ∧ frame.bytes.length ≤ computeMaxPayload ∧ env.radio = none ∧
      forwarded = some ⟨frame.bytes, s.nextRfSeq.value⟩)

/-- What it takes to accept a `route_data` packet, and what accepting it does. -/
structure AcceptsData (A : Aead) (cfg : NodeConfig) (env : Env) (payload : Bytes)
    (a : AcceptedData) (s s' : NodeState) : Prop where
  carries : CarriesRoute payload a.route
  not_own : a.route.originSenderId ≠ cfg.senderId
  not_seen : ¬ a.route.dedupeKey ∈ s.seen
  auth : (cfg.meshCryptoFor a.route.innerType = none ∧ a.route.innerPayload = a.plaintext ∧
      a.secured = false ∧ s'.secureReplay = s.secureReplay) ∨
    ∃ c secure, cfg.meshCryptoFor a.route.innerType = some c ∧
      openMeshPayload A c a.route = .ok (secure, a.plaintext) ∧ a.secured = true ∧
      ¬ meshAuthKey c a.route ∈ s.secureReplay ∧
      s'.secureReplay = (s.secureReplay.remember (meshAuthKey c a.route)).2
  delivery : ∃ m, deliverRouteData cfg env a.route a.plaintext m = .ok a.delivery m
  seen_eq : s'.seen = (s.seen.remember a.route.dedupeKey).2
  forward : ForwardsData A cfg env a.route a.plaintext s a.forwarded

/-- What it takes to accept a `route_v2` packet, and what accepting it does. -/
structure AcceptsV2 (A : Aead) (cfg : NodeConfig) (env : Env) (payload : Bytes)
    (a : AcceptedV2) (s s' : NodeState) : Prop where
  carries : CarriesRouteV2 payload a.route
  not_own : ¬ routeV2IsOwn cfg a.route
  not_seen : ¬ a.route.dedupeKey ∈ s.seen
  delivered_eq : a.delivered = routeV2Delivered cfg a.route
  auth : (a.plaintext = none ∧ s'.secureReplay = s.secureReplay) ∨
    ∃ p, a.plaintext = some p ∧ openE2ePayload A cfg a.route = .ok (a.secure, p) ∧
      ¬ e2eReplayKey a.secure a.route ∈ s.secureReplay ∧
      s'.secureReplay = (s.secureReplay.remember (e2eReplayKey a.secure a.route)).2
  seen_eq : s'.seen = (s.seen.remember a.route.dedupeKey).2
  forward : ForwardsV2 cfg env a.route s a.forwarded

/-- Forwarding leaves the windows alone. -/
theorem forwardRouteData_windows {r : RouteData} {p : Bytes} {s s' : NodeState}
    {f : Option RadioFrame} (h : forwardRouteData A cfg env r p s = .ok f s') :
    s'.seen = s.seen ∧ s'.secureReplay = s.secureReplay ∧ ForwardsData A cfg env r p s f := by
  obtain ⟨ht, rfl, rfl⟩ | ⟨ht, routed, hrouted, hv, hf, hlen, hradio, rfl, rfl⟩ :=
    forwardRouteData_eq_ok_iff.mp h
  · exact ⟨rfl, rfl, Or.inl ⟨ht, rfl⟩⟩
  · exact ⟨rfl, rfl, Or.inr ⟨ht, routed, hrouted, hv, hf, hlen, hradio, rfl⟩⟩

theorem forwardRouteV2_windows {r : RouteDataV2} (hr : r.Valid) {s s' : NodeState}
    {f : Option RadioFrame} (h : forwardRouteV2 cfg env r s = .ok f s') :
    s'.seen = s.seen ∧ s'.secureReplay = s.secureReplay ∧ ForwardsV2 cfg env r s f := by
  obtain ⟨ht, rfl, rfl⟩ | ⟨ht, hf, hlen, hradio, rfl, rfl⟩ := (forwardRouteV2_eq_ok_iff hr).mp h
  · exact ⟨rfl, rfl, Or.inl ⟨ht, rfl⟩⟩
  · exact ⟨rfl, rfl, Or.inr ⟨ht, hf, hlen, hradio, rfl⟩⟩

/-- **What an accepted `route_data` packet took and did.** -/
theorem receive_data_accepts {payload : Bytes} {s s' : NodeState} {a : AcceptedData}
    (h : receive A cfg env payload s = .ok (.data a) s') : AcceptsData A cfg env payload a s s' := by
  cases receive_eq_ok_iff.mp h with
  | v2 f _ _ _ _ hreceive => nomatch hreceive
  | data f _ _ hframe hdata hreceive =>
    cases hreceive with
    | accepted _ s₁ _ hroute hown hseen hauth hdeliver hforward =>
      have hcarries : CarriesRoute payload a.route := ⟨f, hframe, hdata, hroute⟩
      obtain ⟨hseen', hreplay', hfwd⟩ := forwardRouteData_windows hforward
      obtain ⟨hkey, hp, hsec, rfl⟩ | ⟨c, secure, hkey, hopen, hnew, hsec, rfl⟩ :=
        decryptMeshPayload_eq_ok_iff.mp hauth
      · exact ⟨hcarries, hown, hseen, Or.inl ⟨hkey, hp, hsec, hreplay'⟩, ⟨_, hdeliver⟩, hseen', hfwd⟩
      · rw [meshReplayKey_eq hopen] at hnew hreplay'
        exact ⟨hcarries, hown, hseen, Or.inr ⟨c, secure, hkey, hopen, hsec, hnew, hreplay'⟩,
          ⟨_, hdeliver⟩, hseen', hfwd⟩

/-- **What an accepted `route_v2` packet took and did.** -/
theorem receive_v2_accepts {payload : Bytes} {s s' : NodeState} {a : AcceptedV2}
    (h : receive A cfg env payload s = .ok (.v2 a) s') : AcceptsV2 A cfg env payload a s s' := by
  cases receive_eq_ok_iff.mp h with
  | data f _ _ _ _ hreceive => nomatch hreceive
  | v2 f _ _ hframe hv2 hreceive =>
    cases hreceive with
    | accepted _ s₁ _ hroute hown hseen hsecure hdelivered hauth _ _ hforward =>
      have hcarries : CarriesRouteV2 payload a.route := ⟨f, hframe, hv2, hroute⟩
      obtain ⟨hseen', hreplay', hfwd⟩ := forwardRouteV2_windows hcarries.valid hforward
      obtain ⟨-, hp, rfl⟩ | ⟨-, p, hp, hdec⟩ := hauth
      · exact ⟨hcarries, hown, hseen, hdelivered, Or.inl ⟨hp, hreplay'⟩, hseen', hfwd⟩
      · obtain ⟨hopen, hnew, rfl⟩ := decryptE2ePayload_eq_ok_iff.mp hdec
        exact ⟨hcarries, hown, hseen, hdelivered, Or.inr ⟨p, hp, hopen, hnew, hreplay'⟩, hseen', hfwd⟩

/-- **What carries a `route_v2` packet** is received as one. -/
theorem receive_of_carriesV2 {payload : Bytes} {r : RouteDataV2} {s s' : NodeState} {v : Verdict}
    (h : receive A cfg env payload s = .ok v s') (hcarries : CarriesRouteV2 payload r) :
    ∃ f, decodeFrame payload false = .ok f ∧ decodeRouteV2Payload f.payload = .ok r ∧
      ReceivesV2 A cfg env f s v s' := by
  obtain ⟨f, hframe, hv2, hroute⟩ := hcarries
  refine ⟨f, hframe, hroute, ?_⟩
  cases receive_eq_ok_iff.mp h with
  | invalid msg hframe' => cases hframe.symm.trans hframe'
  | other f' hframe' hv2' =>
    obtain rfl := Except.ok.inj (hframe.symm.trans hframe')
    exact absurd hv2 hv2'
  | v2 f' _ _ hframe' _ hreceive =>
    obtain rfl := Except.ok.inj (hframe.symm.trans hframe')
    exact hreceive
  | data f' _ _ hframe' hdata =>
    obtain rfl := Except.ok.inj (hframe.symm.trans hframe')
    exact absurd (hdata.symm.trans hv2) (by decide)

/-- **What carries a `route_data` packet** is received as one. -/
theorem receive_of_carries {payload : Bytes} {r : RouteData} {s s' : NodeState} {v : Verdict}
    (h : receive A cfg env payload s = .ok v s') (hcarries : CarriesRoute payload r) :
    ∃ f, decodeFrame payload false = .ok f ∧ decodeRouteDataPayload f.payload = .ok r ∧
      ReceivesData A cfg env f s v s' := by
  obtain ⟨f, hframe, hdata, hroute⟩ := hcarries
  refine ⟨f, hframe, hroute, ?_⟩
  cases receive_eq_ok_iff.mp h with
  | invalid msg hframe' => cases hframe.symm.trans hframe'
  | other f' hframe' _ hdata' =>
    obtain rfl := Except.ok.inj (hframe.symm.trans hframe')
    exact absurd hdata hdata'
  | v2 f' _ _ hframe' hv2 =>
    obtain rfl := Except.ok.inj (hframe.symm.trans hframe')
    exact absurd (hdata.symm.trans hv2) (by decide)
  | data f' _ _ hframe' _ hreceive =>
    obtain rfl := Except.ok.inj (hframe.symm.trans hframe')
    exact hreceive

/-- A packet that carries a plaintext is decrypted, unless its replay key is
known. -/
theorem decryptMeshPayload_of_plaintextOf {r : RouteData} {p : Bytes} (h : PlaintextOf A cfg r p)
    {s : NodeState}
    (hs : ∀ c, cfg.meshCryptoFor r.innerType = some c → ¬ meshAuthKey c r ∈ s.secureReplay) :
    ∃ secured s', decryptMeshPayload A cfg r s = .ok (p, secured) s' := by
  cases h with
  | clear hkey hp => exact ⟨false, s, decryptMeshPayload_eq_ok_iff.mpr (Or.inl ⟨hkey, hp, rfl, rfl⟩)⟩
  | opened c secure hkey hopen =>
    have hnew : ¬ meshReplayKey secure r ∈ s.secureReplay := by
      rw [meshReplayKey_eq hopen]
      exact hs c hkey
    exact ⟨true, _, decryptMeshPayload_eq_ok_iff.mpr
      (Or.inr ⟨c, secure, hkey, hopen, hnew, rfl, rfl⟩)⟩

/-- **A `route_data` packet that is new to the node is accepted**, with the plaintext
it carries. -/
theorem receive_data_of_fresh {payload : Bytes} {r : RouteData} {p : Bytes} {s s' : NodeState}
    {v : Verdict} (h : receive A cfg env payload s = .ok v s') (hcarries : CarriesRoute payload r)
    (hplain : PlaintextOf A cfg r p) (hown : r.originSenderId ≠ cfg.senderId)
    (hseen : ¬ r.dedupeKey ∈ s.seen)
    (hreplay : ∀ c, cfg.meshCryptoFor r.innerType = some c → ¬ meshAuthKey c r ∈ s.secureReplay) :
    ∃ a, v = .data a ∧ a.route = r ∧ a.plaintext = p := by
  obtain ⟨f, -, hroute, hreceive⟩ := receive_of_carries h hcarries
  obtain ⟨secured, s₁, hdec⟩ := decryptMeshPayload_of_plaintextOf hplain
    (s := s.notePeer cfg env f.senderId) hreplay
  cases hreceive with
  | invalid msg hroute' => cases hroute.symm.trans hroute'
  | own r' hroute' hown' =>
    obtain rfl := Except.ok.inj (hroute.symm.trans hroute')
    exact absurd hown' hown
  | duplicate r' hroute' _ hseen' =>
    obtain rfl := Except.ok.inj (hroute.symm.trans hroute')
    exact absurd hseen' hseen
  | authFail r' msg hroute' _ _ hauth =>
    obtain rfl := Except.ok.inj (hroute.symm.trans hroute')
    cases hdec.symm.trans hauth
  | accepted a s₂ _ hroute' _ _ hauth =>
    obtain rfl := Except.ok.inj (hroute.symm.trans hroute')
    obtain ⟨heq, -⟩ := EStateM.Result.ok.inj (hdec.symm.trans hauth)
    exact ⟨a, rfl, rfl, (Prod.mk.inj heq).1.symm⟩

/-- **A `route_v2` packet that is new to a node without a key for it is
accepted.** -/
theorem receive_v2_of_fresh {payload : Bytes} {r : RouteDataV2} {secure : SecurePayload}
    {s s' : NodeState} {v : Verdict} (h : receive A cfg env payload s = .ok v s')
    (hcarries : CarriesRouteV2 payload r) (hsecure : decodeSecurePayload r.innerPayload = .ok secure)
    (hkey : e2eCryptoForInbound cfg r secure = none) (hown : ¬ routeV2IsOwn cfg r)
    (hseen : ¬ r.dedupeKey ∈ s.seen) : ∃ a, v = .v2 a ∧ a.route = r := by
  obtain ⟨f, -, hroute, hreceive⟩ := receive_of_carriesV2 h hcarries
  cases hreceive with
  | invalid msg hroute' => cases hroute.symm.trans hroute'
  | own r' hroute' hown' =>
    obtain rfl := Except.ok.inj (hroute.symm.trans hroute')
    exact absurd hown' hown
  | duplicate r' hroute' _ hseen' =>
    obtain rfl := Except.ok.inj (hroute.symm.trans hroute')
    exact absurd hseen' hseen
  | invalidE2e r' msg hroute' _ _ hsecure' =>
    obtain rfl := Except.ok.inj (hroute.symm.trans hroute')
    cases hsecure.symm.trans hsecure'
  | authFail r' msg secure' hroute' _ _ hsecure' hkey' =>
    obtain rfl := Except.ok.inj (hroute.symm.trans hroute')
    obtain rfl := Except.ok.inj (hsecure.symm.trans hsecure')
    rw [hkey] at hkey'
    cases hkey'.2
  | accepted a s₁ _ hroute' =>
    exact ⟨a, rfl, Except.ok.inj (hroute'.symm.trans hroute)⟩

/-- `w'` is `w` with at most one more key remembered. -/
def RemembersAtMostOne (w w' : FifoSet (List ℤ)) : Prop := w' = w ∨ ∃ k, w' = (w.remember k).2

/-- **One received payload remembers at most one key in each window.** -/
theorem receive_windows {payload : Bytes} {s s' : NodeState} {v : Verdict}
    (h : receive A cfg env payload s = .ok v s') :
    RemembersAtMostOne s.seen s'.seen ∧ RemembersAtMostOne s.secureReplay s'.secureReplay := by
  cases receive_eq_ok_iff.mp h with
  | invalid | other => exact ⟨Or.inl rfl, Or.inl rfl⟩
  | v2 f _ _ hframe hv2 hreceive =>
    cases hreceive with
    | invalid | duplicate | invalidE2e | authFail => exact ⟨Or.inl rfl, Or.inl rfl⟩
    | own => exact ⟨Or.inr ⟨_, rfl⟩, Or.inl rfl⟩
    | accepted a s₁ _ =>
      have ha := receive_v2_accepts h
      refine ⟨Or.inr ⟨_, ha.seen_eq⟩, ?_⟩
      obtain ⟨-, heq⟩ | ⟨p, -, -, -, heq⟩ := ha.auth
      · exact Or.inl heq
      · exact Or.inr ⟨_, heq⟩
  | data f _ _ hframe hdata hreceive =>
    cases hreceive with
    | invalid | duplicate | authFail => exact ⟨Or.inl rfl, Or.inl rfl⟩
    | own => exact ⟨Or.inr ⟨_, rfl⟩, Or.inl rfl⟩
    | accepted a s₁ _ =>
      have ha := receive_data_accepts h
      refine ⟨Or.inr ⟨_, ha.seen_eq⟩, ?_⟩
      obtain ⟨-, -, -, heq⟩ | ⟨c, secure, -, -, -, -, heq⟩ := ha.auth
      · exact Or.inl heq
      · exact Or.inr ⟨_, heq⟩

/-! ### Steps and runs -/

/-- One turn of the loop, with its outcome.  A failed origination is only logged
when it was requested by local control; the others end the loop. -/
inductive NodeEvent
  | received (env : Env) (payload : Bytes) (verdict : Verdict)
  | sentRoute (env : Env) (innerType : ℤ) (payload : Bytes) (destinationId ttl : ℤ)
      (sent : SentRoute)
  | sentRouteV2 (env : Env) (innerType : ℤ) (payload : Bytes)
      (destinationType destinationId ttl trafficClass : ℤ) (sent : SentRouteV2)
  | sendFailed (error : PyError)
  | idle

/-- What one turn does to the state. -/
inductive NodeStep (A : Aead) (cfg : NodeConfig) : NodeState → NodeEvent → NodeState → Prop
  | receive (env : Env) (payload : Bytes) (v : Verdict) (s s' : NodeState)
      (h : receive A cfg env payload s = .ok v s') : NodeStep A cfg s (.received env payload v) s'
  | sendRoute (env : Env) (innerType : ℤ) (payload : Bytes) (destinationId ttl : ℤ)
      (sent : SentRoute) (s s' : NodeState)
      (h : sendRoute A cfg env innerType payload destinationId ttl s = .ok sent s') :
      NodeStep A cfg s (.sentRoute env innerType payload destinationId ttl sent) s'
  | sendRouteV2 (env : Env) (innerType : ℤ) (payload : Bytes)
      (destinationType destinationId ttl trafficClass : ℤ) (sent : SentRouteV2) (s s' : NodeState)
      (h : sendRouteV2 A cfg env innerType payload destinationType destinationId ttl trafficClass s =
        .ok sent s') :
      NodeStep A cfg s
        (.sentRouteV2 env innerType payload destinationType destinationId ttl trafficClass sent) s'
  | sendFailed (env : Env) (innerType : ℤ) (payload : Bytes)
      (destinationType destinationId ttl trafficClass : ℤ) (error : PyError) (s s' : NodeState)
      (h : KovaWfb.sendRoute A cfg env innerType payload destinationId ttl s = .error error s' ∨
        KovaWfb.sendRouteV2 A cfg env innerType payload destinationType destinationId ttl
          trafficClass s = .error error s') :
      NodeStep A cfg s (.sendFailed error) s'
  | idle (linkHealth : LinkHealth) (channel : Option ℤ) (s : NodeState) :
      NodeStep A cfg s .idle { s with linkHealth, currentChannel := channel }

/-- One turn of a run, with the states around it. -/
structure Tick where
  before : NodeState
  event : NodeEvent
  after : NodeState

/-- The keys a turn newly remembered for deduplication. -/
def Tick.newSeen (t : Tick) : List (List ℤ) := FifoSet.newKeys t.before.seen t.after.seen

/-- The keys a turn newly remembered in the replay window. -/
def Tick.newReplay (t : Tick) : List (List ℤ) :=
  FifoSet.newKeys t.before.secureReplay t.after.secureReplay

/-- The `route_data` packet a turn accepted. -/
def Tick.acceptedRoute (t : Tick) : Option RouteData :=
  match t.event with
  | .received _ _ (.data a) => some a.route
  | _ => none

/-- A run: the turns between two states. -/
inductive NodeRun (A : Aead) (cfg : NodeConfig) : NodeState → List Tick → NodeState → Prop
  | nil (s : NodeState) : NodeRun A cfg s [] s
  | cons {s s' s'' : NodeState} {e : NodeEvent} {ticks : List Tick}
      (step : NodeStep A cfg s e s') (rest : NodeRun A cfg s' ticks s'') :
      NodeRun A cfg s (⟨s, e, s'⟩ :: ticks) s''

theorem NodeRun.append_iff {s s' : NodeState} {ticks ticks' : List Tick} :
    NodeRun A cfg s (ticks ++ ticks') s' ↔
      ∃ m, NodeRun A cfg s ticks m ∧ NodeRun A cfg m ticks' s' := by
  constructor
  · intro h
    induction ticks generalizing s with
    | nil => exact ⟨s, .nil s, h⟩
    | cons t ticks ih =>
      cases h with
      | cons step rest =>
        obtain ⟨m, h₁, h₂⟩ := ih rest
        exact ⟨m, .cons step h₁, h₂⟩
  · rintro ⟨m, h₁, h₂⟩
    induction h₁ with
    | nil => exact h₂
    | cons step _ ih => exact .cons step (ih h₂)

/-- A turn of a run, the run up to it and the run after it. -/
theorem NodeRun.at_turn {s s' : NodeState} {pre post : List Tick} {t : Tick}
    (h : NodeRun A cfg s (pre ++ t :: post) s') :
    NodeRun A cfg s pre t.before ∧ NodeStep A cfg t.before t.event t.after ∧
      NodeRun A cfg t.after post s' := by
  obtain ⟨_, hpre, hrest⟩ := NodeRun.append_iff.mp h
  cases hrest with
  | cons hstep hpost => exact ⟨hpre, hstep, hpost⟩

/-- Two turns of a run, and the run between them. -/
theorem NodeRun.between {s s' : NodeState} {pre mid post : List Tick} {t₁ t₂ : Tick}
    (h : NodeRun A cfg s (pre ++ t₁ :: (mid ++ t₂ :: post)) s') :
    NodeRun A cfg s pre t₁.before ∧ NodeStep A cfg t₁.before t₁.event t₁.after ∧
      NodeRun A cfg t₁.after mid t₂.before ∧ NodeStep A cfg t₂.before t₂.event t₂.after := by
  obtain ⟨hpre, hstep₁, hrest⟩ := h.at_turn
  obtain ⟨hmid, hstep₂, -⟩ := hrest.at_turn
  exact ⟨hpre, hstep₁, hmid, hstep₂⟩

/-- A failed origination leaves the state alone. -/
theorem sendRoute_error {innerType destinationId ttl : ℤ} {payload : Bytes} {s s' : NodeState}
    {e : PyError} (h : sendRoute A cfg env innerType payload destinationId ttl s = .error e s') :
    s' = s := by
  simp only [sendRoute, PyM.get_bind_apply, PyM.lift_bind_eq_error, PyM.modify_bind_apply,
    PyM.pure_apply] at h
  grind

theorem sendRouteV2_error {innerType destinationType destinationId ttl trafficClass : ℤ}
    {payload : Bytes} {s s' : NodeState} {e : PyError}
    (h : sendRouteV2 A cfg env innerType payload destinationType destinationId ttl trafficClass s =
      .error e s') : s' = s := by
  simp only [sendRouteV2, PyM.get_bind_apply, PyM.lift_bind_eq_error, PyM.modify_bind_apply,
    PyM.pure_apply] at h
  grind

/-- **One turn remembers at most one key in each window.** -/
theorem NodeStep.windows {s s' : NodeState} {e : NodeEvent} (h : NodeStep A cfg s e s') :
    RemembersAtMostOne s.seen s'.seen ∧ RemembersAtMostOne s.secureReplay s'.secureReplay := by
  cases h with
  | receive _ _ _ _ _ h => exact receive_windows h
  | sendRoute _ _ _ _ _ _ _ _ h =>
    obtain ⟨_, -, -, -, -, -, -, rfl⟩ := sendRoute_eq_ok.mp h
    exact ⟨Or.inr ⟨_, rfl⟩, Or.inl rfl⟩
  | sendRouteV2 _ _ _ _ _ _ _ _ _ _ h =>
    obtain ⟨_, _, -, -, -, -, -, -, -, -, rfl⟩ := sendRouteV2_eq_ok.mp h
    exact ⟨Or.inr ⟨_, rfl⟩, Or.inl rfl⟩
  | sendFailed _ _ _ _ _ _ _ _ _ _ h =>
    obtain rfl : s' = s := h.elim sendRoute_error sendRouteV2_error
    exact ⟨Or.inl rfl, Or.inl rfl⟩
  | idle => exact ⟨Or.inl rfl, Or.inl rfl⟩

/-- **A run is a history of newly remembered dedupe keys.** -/
theorem NodeRun.traces_seen {s s' : NodeState} {ticks : List Tick} (h : NodeRun A cfg s ticks s') :
    FifoSet.Traces s.seen (ticks.flatMap Tick.newSeen) s'.seen := by
  induction h with
  | nil s => exact .refl _
  | cons step _ ih =>
    rw [List.flatMap_cons]
    exact (FifoSet.traces_newKeys step.windows.1).trans ih

/-- **A run is a history of newly remembered replay keys.** -/
theorem NodeRun.traces_replay {s s' : NodeState} {ticks : List Tick}
    (h : NodeRun A cfg s ticks s') :
    FifoSet.Traces s.secureReplay (ticks.flatMap Tick.newReplay) s'.secureReplay := by
  induction h with
  | nil s => exact .refl _
  | cons step _ ih =>
    rw [List.flatMap_cons]
    exact (FifoSet.traces_newKeys step.windows.2).trans ih

/-- The turns of a node that receives one payload after the other, up to the first
that raises. -/
def receiveTicks (A : Aead) (cfg : NodeConfig) : NodeState → List (Env × Bytes) → List Tick
  | _, [] => []
  | s, (env, payload) :: rest =>
      match receive A cfg env payload s with
      | .ok v s' => ⟨s, .received env payload v, s'⟩ :: receiveTicks A cfg s' rest
      | .error _ _ => []

theorem receiveTicks_eq_cons {s : NodeState} {env : Env} {payload : Bytes}
    {rest : List (Env × Bytes)} {t : Tick} {ticks : List Tick}
    (h : receiveTicks A cfg s ((env, payload) :: rest) = t :: ticks) :
    ∃ v, receive A cfg env payload s = .ok v t.after ∧ t.event = .received env payload v ∧
      NodeStep A cfg s t.event t.after ∧ receiveTicks A cfg t.after rest = ticks := by
  cases hreceive : receive A cfg env payload s with
  | ok v s' =>
    simp only [receiveTicks, hreceive, List.cons.injEq] at h
    obtain ⟨rfl, rfl⟩ := h
    exact ⟨v, rfl, rfl, .receive env payload v s s' hreceive, rfl⟩
  | error e s' =>
    simp only [receiveTicks, hreceive] at h
    cases h

/-- Running one payload tells whether it is accepted, and what `g` sees of the
packet. -/
theorem accepted_of_receiveTicks {α : Type} {g : RouteData → α} {x : α} {s : NodeState} {env : Env}
    {payload : Bytes} (h : ((receiveTicks A cfg s [(env, payload)]).map fun t =>
      t.acceptedRoute.map g) = [some x]) :
    ∃ a s', receive A cfg env payload s = .ok (.data a) s' ∧ g a.route = x := by
  obtain ⟨t, _, hticks, ht, -⟩ := List.map_eq_cons_iff.mp h
  obtain ⟨v, hreceive, hevent, -, -⟩ := receiveTicks_eq_cons hticks
  simp only [Tick.acceptedRoute, hevent] at ht
  cases v with
  | dropped | v2 => cases ht
  | data a => exact ⟨a, _, hreceive, Option.some.inj ht⟩

theorem receiveTicks_run (A : Aead) (cfg : NodeConfig) (s : NodeState) (received : List (Env × Bytes)) :
    ∃ s', NodeRun A cfg s (receiveTicks A cfg s received) s' := by
  induction received generalizing s with
  | nil => exact ⟨s, .nil s⟩
  | cons r rest ih =>
    obtain ⟨env, payload⟩ := r
    cases h : receive A cfg env payload s with
    | ok v s₁ =>
      obtain ⟨s', hrun⟩ := ih s₁
      simp only [receiveTicks, h]
      exact ⟨s', .cons (.receive env payload v s s₁ h) hrun⟩
    | error e s₁ =>
      simp only [receiveTicks, h]
      exact ⟨s, .nil s⟩

end KovaWfb
