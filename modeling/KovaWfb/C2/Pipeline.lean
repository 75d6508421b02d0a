/-
# The uplink pipeline

An uplink goes from the node that originates it (`send_route_v2`) over any number of
relays to a mesh node or a gateway, which uploads it, and to the server.  Each of them
writes the same metadata in its own form.  `uplink_pipeline` says that they agree: the
server opens the upload under the associated data the origin used, gets the payload
the origin sent, and computes a dedupe key that depends on the origination alone.

A relay is a node that forwards what it received (`relayFrame`,
`receive_forwards_relayFrame`).
-/

import KovaWfb.C2.Gateway
import KovaWfb.C2.Server
import KovaWfb.Mesh.Run

namespace KovaWfb

/-! ### Relays -/

/-- What a relay makes of a frame: decode it, take one hop off, encode it under its own
sender id and sequence number. -/
def relayFrame (cfg : NodeConfig) (outerSeq : SeqNo) (payload : Bytes) : Py Bytes := do
  let frame ← decodeFrame payload false
  let route ← decodeRouteV2Payload frame.payload
  let forwarded ← route.decrementedTtl
  let forwardPayload ← encodeRouteV2Payload (.int forwarded.originType) forwarded.originId
    (.int forwarded.destinationType) forwarded.destinationId forwarded.ttl forwarded.originSeq
    (.int forwarded.trafficClass) (.int forwarded.innerType) forwarded.innerPayload
  encodeOuterRouteV2Frame cfg.senderId outerSeq.value forwardPayload

/-- What a chain of relays makes of a frame. -/
def relayFrames : List (NodeConfig × SeqNo) → Bytes → Py Bytes
  | [], payload => pure payload
  | (cfg, outerSeq) :: relays, payload => do
      let next ← relayFrame cfg outerSeq payload
      relayFrames relays next

/-- The packet in a frame after `hops` relays. -/
def RouteDataV2.hops (r : RouteDataV2) (hops : ℕ) : RouteDataV2 := { r with ttl := r.ttl - hops }

/-- **A relay passes a packet on** while it has hops left. -/
theorem relayFrame_eq_ok {payload : Bytes} {r : RouteDataV2} (h : CarriesRouteV2 payload r)
    (ht : 0 < r.ttl) (cfg : NodeConfig) (outerSeq : SeqNo) :
    relayFrame cfg outerSeq payload =
        .ok (outerFrame cfg.senderId msgRouteV2 outerSeq.value r.hop.bytes).bytes ∧
      CarriesRouteV2 (outerFrame cfg.senderId msgRouteV2 outerSeq.value r.hop.bytes).bytes
        r.hop := by
  obtain ⟨frame, hframe, -, hroute⟩ := h
  obtain ⟨hv, hclass, htype, hbytes⟩ := decodeRouteV2Payload_eq_ok_iff.mp hroute
  obtain ⟨hvf, -, -⟩ := decodeFrame_eq_ok_iff.mp hframe
  have hlen : FitsWidth 2 (r.hop.bytes.length : ℤ) := by
    have hfits := hvf.payload
    rw [← hbytes, RouteDataV2.length_bytes] at hfits
    rw [RouteDataV2.length_bytes]
    exact hfits
  have hvalid := outerFrame_valid cfg outerSeq (show FitsWidth 1 msgRouteV2 by decide) hlen
  refine ⟨?_, carriesRouteV2_outerFrame (hv.hop ht) hclass htype hvalid⟩
  have hhop : r.hop = ⟨routeV2Version, r.hop.originType, r.hop.originId, r.hop.destinationType,
      r.hop.destinationId, r.hop.ttl, r.hop.originSeq, r.hop.trafficClass, r.hop.innerType,
      r.hop.innerPayload⟩ := by
    rw [← (hv.hop ht).routeVersion]
  simp only [relayFrame, Py.bind_eq_ok, RouteDataV2.decrementedTtl_eq_ok,
    encodeRouteV2Payload_int_eq_ok, encodeOuterRouteV2Frame, encodeFrame_int_eq_ok]
  exact ⟨frame, hframe, r, hroute, r.hop, ⟨ht, rfl⟩, r.hop.bytes, ⟨hhop ▸ hv.hop ht, by rw [← hhop]⟩,
    hvalid, rfl⟩

/-- **So does a chain of relays**, one hop less for each. -/
theorem relayFrames_eq_ok {payload : Bytes} {r : RouteDataV2} (h : CarriesRouteV2 payload r)
    (relays : List (NodeConfig × SeqNo)) (ht : (relays.length : ℤ) ≤ r.ttl) :
    ∃ last, relayFrames relays payload = .ok last ∧
      CarriesRouteV2 last (r.hops relays.length) := by
  induction relays generalizing payload r with
  | nil =>
    have hsame : r.hops 0 = r := by rw [RouteDataV2.hops, Nat.cast_zero, sub_zero]
    exact ⟨payload, rfl, by rwa [List.length_nil, hsame]⟩
  | cons relay relays ih =>
    obtain ⟨cfg, outerSeq⟩ := relay
    rw [List.length_cons, Nat.cast_succ] at ht
    obtain ⟨hnext, hcarries⟩ := relayFrame_eq_ok h (by omega) cfg outerSeq
    obtain ⟨last, hlast, hroute⟩ := ih hcarries (show (relays.length : ℤ) ≤ r.ttl - 1 by omega)
    refine ⟨last, Py.bind_eq_ok.mpr ⟨_, hnext, hlast⟩, ?_⟩
    have hhops : r.hop.hops relays.length = r.hops (relays.length + 1) := by
      simp only [RouteDataV2.hops, RouteDataV2.hop, Nat.cast_succ, RouteDataV2.mk.injEq, true_and,
        and_true]
      omega
    rwa [hhops] at hroute

/-- **A node that forwards a `route_v2` packet is a relay.** -/
theorem receive_forwards_relayFrame {A : Aead} {cfg : NodeConfig} {env : Env} {payload : Bytes}
    {s s' : NodeState} {a : AcceptedV2} {f : RadioFrame}
    (h : receive A cfg env payload s = .ok (.v2 a) s') (hf : a.forwarded = some f) :
    relayFrame cfg s.nextOuterSeq payload = .ok f.payload := by
  have haccepts := receive_v2_accepts h
  obtain ⟨-, hnone⟩ | ⟨ht, -, -, -, hsome⟩ := haccepts.forward
  · cases hnone.symm.trans hf
  · obtain rfl := Option.some.inj (hf.symm.trans hsome)
    exact (relayFrame_eq_ok haccepts.carries ht cfg s.nextOuterSeq).1

/-! ### Uploads -/

/-- Who uploads: a mesh node with `build_c2_upload`, or a gateway with
`_post_c2_upload`. -/
inductive Uploader
  | mesh (cfg : NodeConfig) (env : Env) (state : NodeState)
  | gateway (cfg : GatewayConfig) (channel : Option ℤ) (utcMs : ℤ)

/-- The object it sends. -/
def Uploader.upload : Uploader → RouteDataV2 → JsonFields
  | .mesh cfg env state, route => buildC2Upload cfg env state route
  | .gateway cfg channel utcMs, route => gatewayUpload cfg channel utcMs route

theorem Uploader.readUpload_eq (u : Uploader) {r : RouteDataV2} (hr : r.Valid) (hu : r.IsUplink)
    (htype : messageTypes.Has r.innerType) : readUpload (u.upload r) = .ok r.uploaded := by
  cases u with
  | mesh cfg env state => exact readUpload_c2Upload hr hu htype
  | gateway cfg channel utcMs => exact readUpload_c2Upload hr hu htype

/-- The gateway looks up an uplink whose wrapper decodes. -/
theorem rfUplink_eq_some {payload : Bytes} {r : RouteDataV2} (h : CarriesRouteV2 payload r)
    (hu : r.IsUplink) {secure : SecurePayload}
    (hsecure : decodeSecurePayload r.innerPayload = .ok secure) : rfUplink payload = some r := by
  obtain ⟨frame, hframe, htype, hroute⟩ := h
  have huplink : ¬ (r.trafficClass ≠ trafficC2Uplink ∨ r.destinationType ≠ addrC2) := by
    rintro (hne | hne)
    · exact hne hu.1
    · exact hne hu.2
  rw [rfUplink, hframe]
  simp only
  rw [if_neg (not_not.mpr htype), hroute]
  simp only
  rw [if_neg huplink, hsecure]

/-- **The server opens what a holder of the key wrapped** for the fields it reads. -/
theorem openUpload_of_wrap {A : Aead} (hA : A.Correct chacha20Poly1305TagSize) {c : CryptoConfig}
    (hdomain : c.securityDomain = secDomainNodeToC2) {ring : C2Keyring} {k : C2Key}
    (hring : ring.get c.securityDomain c.keyId c.keyEpoch = some k) (hkey : k.key = c.key)
    {upload : JsonFields} {r : UploadRoute} (hread : readUpload upload = .ok r) {nonce p : Bytes}
    (hnonce : nonce.length = chacha20Poly1305NonceSize) (hvalid : (r.binding p.length).Valid)
    (hpayload : (c.wrap A nonce p (r.binding p.length).bytes).bytes = r.innerPayload) :
    openUpload A ring upload =
      .ok ⟨r, c.wrap A nonce p (r.binding p.length).bytes, k, (r.binding p.length).bytes, p⟩ := by
  have hwrap : (c.wrap A nonce p (r.binding p.length).bytes).Valid :=
    c.wrap_valid hA.toLengthPreserving hnonce
  have hlen := c.wrap_plaintextLen hA.toLengthPreserving nonce p (r.binding p.length).bytes
  have hopen : A.decrypt k.key nonce (A.encrypt c.key nonce p
      (c.authHeader ++ (r.binding p.length).bytes)) (c.authHeader ++ (r.binding p.length).bytes) =
        some p := by
    rw [hkey]
    exact hA.decrypt_encrypt _ _ _ _
  refine openUpload_eq_ok_iff.mpr ⟨hread, hwrap, hpayload, hdomain, hring, ?_, ?_, hopen⟩
  · rw [hlen]
    exact hvalid
  · rw [hlen]

/-- **The uplink pipeline.**  An uplink that `send_route_v2` sent passes any chain of
relays no longer than its ttl.  The frame behind them carries an uplink that nodes and
gateways upload, and `ingest` opens each upload under the origin's associated data,
gets the payload the origin sent, and records it under the same dedupe key. -/
theorem uplink_pipeline {A : Aead} (hA : A.Correct chacha20Poly1305TagSize) {cfg : NodeConfig}
    {env : Env} {innerType c2Id ttl : ℤ} {payload : Bytes} {s s' : NodeState} {sent : SentRouteV2}
    (hsend : sendRouteV2 A cfg env innerType payload addrC2 c2Id ttl trafficC2Uplink s = .ok sent s')
    {store : C2EventStore} {k : C2Key}
    (hring : store.keyring.get sent.crypto.securityDomain sent.crypto.keyId sent.crypto.keyEpoch =
      some k)
    (hkey : k.key = sent.crypto.key) (relays : List (NodeConfig × SeqNo))
    (hrelays : (relays.length : ℤ) ≤ ttl) :
    ∃ last route, relayFrames relays sent.frame.payload = .ok last ∧ CarriesRouteV2 last route ∧
      route.IsUplink ∧ rfUplink last = some route ∧
      ∀ (u : Uploader) (nowMs : ℤ) (clientIp : String), ∃ o,
        openUpload A store.keyring (u.upload route) = .ok o ∧
        ingest A nowMs clientIp (u.upload route) store =
          (liftM (uploadEvent nowMs clientIp (u.upload route) o) >>= record o.dedupeKey :
            PyM C2EventStore C2Event) store ∧
        routeV2E2eAad ⟨cfg.originType, cfg.senderId, addrC2, c2Id, sent.seqSent, trafficC2Uplink,
          innerType, payload.length⟩ = .ok o.aad ∧
        o.plaintext = payload ∧
        o.dedupeKey = [cfg.originType, cfg.senderId, sent.seqSent, sent.crypto.securityDomain,
          sent.crypto.keyId, sent.crypto.keyEpoch] := by
  obtain ⟨e2e, c, hencrypt, hv, hclass, htype, hvf, -, -, rfl, -⟩ := sendRouteV2_eq_ok.mp hsend
  -- What the origin sent: the wrapper of the payload under its own binding.
  obtain ⟨hcrypto, hbound, rfl⟩ := (encryptE2ePayload_eq_ok_iff A cfg env
    ⟨cfg.originType, cfg.senderId, addrC2, c2Id, s.nextOriginSeq.value, trafficC2Uplink, innerType,
      payload.length⟩ rfl).mp hencrypt
  have hdomain : c.securityDomain = secDomainNodeToC2 := by
    rw [e2eCryptoForOutbound, if_pos rfl] at hcrypto
    exact cfg.c2UplinkCrypto_domain c hcrypto
  obtain ⟨last, hlast, hcarries⟩ := relayFrames_eq_ok
    (carriesRouteV2_outerFrame hv hclass htype hvf) relays hrelays
  -- The hops change the ttl only, which neither the binding nor the dedupe key has.
  have hopen : ∀ u : Uploader, openUpload A store.keyring (u.upload _) = .ok _ := fun u =>
    openUpload_of_wrap hA hdomain hring hkey
      (u.readUpload_eq hcarries.valid ⟨rfl, rfl⟩ htype) env.urandom_length hbound rfl
  exact ⟨last, _, hlast, hcarries, ⟨rfl, rfl⟩, rfUplink_eq_some hcarries ⟨rfl, rfl⟩
      (c.decodeSecurePayload_wrap hA.toLengthPreserving env.urandom_length),
    fun u nowMs clientIp => ⟨_, hopen u, ingest_of_openUpload (hopen u),
      routeV2E2eAad_eq_ok.mpr ⟨hbound, rfl⟩, rfl, rfl⟩⟩

/-- Node 2 sends to `c2:1` with two hops, node 1 relays, and whoever then uploads, the
server opens the payload. -/
theorem uplink_pipeline_sample :
    ∃ sent s', sendRouteV2 Aead.checksum (NodeConfig.sampleOrigin 2 senderId_two) Env.sample msgText
        [104, 105] addrC2 1 2 trafficC2Uplink
        (NodeState.initial (NodeConfig.sampleOrigin 2 senderId_two) ⟨7, by decide, by decide⟩ 0 none) =
          .ok sent s' ∧
      ∃ last route, relayFrames [(NodeConfig.sampleOrigin 1 senderId_one, .one)]
          sent.frame.payload = .ok last ∧ CarriesRouteV2 last route ∧
        ∀ u : Uploader, ∃ o, openUpload Aead.checksum [C2Key.sample] (u.upload route) = .ok o ∧
          o.plaintext = [104, 105] ∧ o.dedupeKey = [addrNode, 2, 7, secDomainNodeToC2, 1, 1] := by
  obtain ⟨sent, s', hsend, hsent⟩ := exists_eq_ok_of_map (r := sendRouteV2 Aead.checksum
      (NodeConfig.sampleOrigin 2 senderId_two) Env.sample msgText [104, 105] addrC2 1 2
      trafficC2Uplink
      (NodeState.initial (NodeConfig.sampleOrigin 2 senderId_two) ⟨7, by decide, by decide⟩ 0 none))
    (f := fun sent => (sent.seqSent, sent.crypto.securityDomain, sent.crypto.keyId,
      sent.crypto.keyEpoch, sent.crypto.key))
    (x := (7, secDomainNodeToC2, 1, 1, C2Key.sample.key)) (by decide +kernel)
  simp only [Prod.mk.injEq] at hsent
  obtain ⟨hseq, hdomain, hid, hepoch, hkey⟩ := hsent
  have hring : (C2EventStore.initial [C2Key.sample] 10).keyring.get sent.crypto.securityDomain
      sent.crypto.keyId sent.crypto.keyEpoch = some C2Key.sample := by
    rw [hdomain, hid, hepoch]
    rfl
  obtain ⟨last, route, hlast, hcarries, -, -, hupload⟩ := uplink_pipeline
    Aead.checksum_lawful.toCorrect hsend hring hkey.symm
    [(NodeConfig.sampleOrigin 1 senderId_one, .one)] (by decide)
  refine ⟨sent, s', hsend, last, route, hlast, hcarries, fun u => ?_⟩
  obtain ⟨o, hopen, -, -, hplaintext, hdedupe⟩ := hupload u 0 ""
  rw [hseq, hdomain, hid, hepoch] at hdedupe
  exact ⟨o, hopen, hplaintext, hdedupe⟩

end KovaWfb
