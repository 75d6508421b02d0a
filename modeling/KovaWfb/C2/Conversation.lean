/-
# The conversation with the C2 server

A POST from end to end, in bytes: `json.dumps` of the upload in the client
(`post_c2_upload` of `python/examples/mesh_txrx.py`, lines 1852 to 1878, and
`_post_c2_upload` of `python/examples/c2_gateway.py`, 303 to 351), `do_POST` in the server,
and the reply in the client's log.

`upload_over_http`: the server ingests the object the client built, and the log says
whether the server knew it.  `uplink_over_http` puts this behind the radio: what
`send_route_v2` sent, over any relays, by whichever program uploads it, is stored once.
-/

import KovaWfb.C2.Http
import KovaWfb.C2.IngestErrors
import KovaWfb.C2.Pipeline
import KovaWfb.Python.JsonSize

namespace KovaWfb

/-! ### The request -/

/-- The numbers of an upload that no field of the packet bounds. -/
structure UploadNumbers (gatewayId : ℤ) (channel : Option ℤ) (receivedAtMs : ℤ) : Prop where
  gatewayId : Printable gatewayId
  channel : ∀ n ∈ channel, Printable n
  receivedAtMs : Printable receivedAtMs

theorem plain_c2Upload {gatewayId receivedAtMs : ℤ} {channel : Option ℤ} {r : RouteDataV2}
    {floatRepr : ℚ → List Char} (hr : r.Valid)
    (h : UploadNumbers gatewayId channel receivedAtMs) :
    (Json.obj (c2Upload gatewayId channel receivedAtMs r)).doc.Plain floatRepr := by
  have hroute : (Json.obj (uploadRoute r)).doc.Plain floatRepr := by
    refine ⟨?_, ⟨plain_codePoints _, plain_codePoints _⟩,
      ⟨plain_codePoints _, digits_of_fitsWidth hr.origin.id (by decide)⟩,
      ⟨plain_codePoints _, plain_codePoints _⟩,
      ⟨plain_codePoints _, digits_of_fitsWidth hr.destination.id (by decide)⟩,
      ⟨plain_codePoints _, digits_of_fitsWidth hr.ttl (by decide)⟩,
      ⟨plain_codePoints _, digits_of_fitsWidth hr.originSeq (by decide)⟩,
      ⟨plain_codePoints _, plain_codePoints _⟩, ⟨plain_codePoints _, plain_codePoints _⟩,
      ⟨plain_codePoints _, plain_codePoints _⟩, trivial⟩
    show (["origin_type", "origin_id", "destination_type", "destination_id", "ttl", "origin_seq",
      "traffic_class", "inner_type", "inner_payload_hex"].map codePoints).Nodup
    decide
  have hchannel : (Json.ofOption channel).doc.Plain floatRepr := by
    cases channel with
    | none => trivial
    | some n => exact h.channel n rfl
  refine ⟨?_, ⟨plain_codePoints _, h.gatewayId⟩, ⟨plain_codePoints _, hchannel⟩,
    ⟨plain_codePoints _, h.receivedAtMs⟩, ⟨plain_codePoints _, hroute⟩, trivial⟩
  show (["gateway_id", "channel", "received_at_ms", "route"].map codePoints).Nodup
  decide

theorem depth_c2Upload (gatewayId receivedAtMs : ℤ) (channel : Option ℤ) (r : RouteDataV2) :
    (Json.obj (c2Upload gatewayId channel receivedAtMs r)).doc.depth = 2 := by
  cases channel <;> rfl

/-- The request that `urllib` makes of a body. -/
def uploadRequest (body : Bytes) (clientIp : String) (nowMs : ℤ) : HttpRequest :=
  ⟨"/ingest", some (toString body.length), body, clientIp, nowMs⟩

theorem readBody_uploadRequest {body : Bytes} {clientIp : String} {nowMs : ℤ} {rt : ServerRuntime}
    (hpos : 0 < body.length) (hmax : body.length ≤ 1000000) :
    readBody rt (uploadRequest body clientIp nowMs) = .ok body := by
  have hint : intBase10 (toString body.length) = some (body.length : ℤ) := by
    have hdigits : (Nat.toDigits 10 (body.length : ℤ).natAbs).length ≤ 4300 :=
      digits_of_lt (by omega)
    have h := intBase10_decimalChars hdigits
    rwa [decimalChars, if_neg (by omega), Int.natAbs_natCast, ← Nat.toString_eq_ofList_toDigits] at h
  unfold readBody
  dsimp only [uploadRequest, Option.getD_some]
  rw [hint]
  dsimp only
  rw [Py.raiseIf_bind_eq_ok, Int.toNat_natCast, List.take_length]
  exact ⟨by omega, rfl⟩

/-- The upload that a body writes. -/
theorem bodyUpload_of_loads {rt : ServerRuntime} {body : Bytes} {upload : JsonFields}
    (h : loads rt.loadsDepth body = .ok (Json.obj upload).doc) :
    bodyUpload rt body = .ok upload := by
  rw [bodyUpload, h]
  dsimp only
  rw [toJson_doc]
  rfl

/-! ### Sizes -/

theorem length_escapeCodePoint_le (n : ℕ) : (escapeCodePoint n).length ≤ 12 := by
  unfold escapeCodePoint utf16Units
  split_ifs <;> simp [unicodeEscape]

theorem textSize_le (text : CodePoints) : textSize text ≤ 12 * text.length + 2 := by
  have hsum : ∀ text : CodePoints,
      (text.map fun n => (escapeCodePoint n).length).sum ≤ 12 * text.length := by
    intro text
    induction text with
    | nil => exact le_rfl
    | cons n text ih =>
      have hn := length_escapeCodePoint_le n
      rw [List.map_cons, List.sum_cons, List.length_cons]
      omega
  exact Nat.add_le_add_right (hsum text) 2

/-- The name of a value is short. -/
theorem textSize_valueName_le (table : Registry)
    (htable : ∀ entry ∈ table, textSize (codePoints entry.1) ≤ 50) (value : ℤ) :
    textSize (codePoints (valueName table value)) ≤ 50 := by
  unfold valueName
  split
  · rename_i entry hentry
    exact htable entry (List.mem_of_find?_eq_some hentry)
  · have hlength : (codePoints (hexByteText value)).length = 4 := by
      simp [codePoints, hexByteText]
    have hsize := textSize_le (codePoints (hexByteText value))
    omega

theorem length_decimalChars_le {value : ℤ} {digits : ℕ}
    (h : (Nat.toDigits 10 value.natAbs).length ≤ digits) :
    (decimalChars value).length ≤ digits + 1 := by
  unfold decimalChars
  split_ifs
  · rw [List.length_cons]
    omega
  · omega

theorem length_decimalChars_of_fitsWidth {width : ℕ} {value : ℤ} (h : FitsWidth width value)
    (hw : width ≤ 4) : (decimalChars value).length ≤ 11 := by
  have hpow : (256 : ℤ) ^ width ≤ 256 ^ 4 := pow_le_pow_right₀ (by decide) hw
  obtain ⟨hlow, hhigh⟩ := h
  exact length_decimalChars_le
    ((Nat.length_toDigits_le_iff (by decide) (by decide)).mpr (by omega))

/-- Hex digits need no escape. -/
theorem textSize_hex (data : Bytes) : textSize (codePoints (hex data)) = 2 * data.length + 2 := by
  have hdigit : ∀ n < 16, (escapeCodePoint (hexDigit n).toNat).length = 1 := by decide
  have hsum : ((codePoints (hex data)).map fun n => (escapeCodePoint n).length).sum =
      2 * data.length := by
    rw [codePoints, hex, String.toList_ofList]
    induction data with
    | nil => rfl
    | cons b bs ih =>
      have hb := UInt8.toNat_lt b
      simp only [hexChars, List.map_cons, List.sum_cons, hdigit _ (show b.toNat / 16 < 16 by omega),
        hdigit _ (Nat.mod_lt _ (show 0 < 16 by decide)), ih, List.length_cons]
      omega
  rw [textSize, hsum]

theorem size_shownInt {upload : JsonFields} {name : String} {value : ℤ} {width : ℕ}
    {floatRepr : ℚ → List Char} (h : FitsWidth width value) (hw : width ≤ 4) :
    docSize floatRepr .spaced (shownInt upload name value).doc ≤ 11 := by
  obtain hint | ⟨given, hbool⟩ := shownInt_cases upload name value
  · rw [hint]
    exact length_decimalChars_of_fitsWidth h hw
  · rw [hbool]
    exact (show 5 ≤ 11 by decide)

theorem size_acceptedReply {upload : JsonFields} {event : C2Event} {floatRepr : ℚ → List Char}
    (hid : FitsWidth 1 event.originId) (hseq : FitsWidth 4 event.originSeq) :
    docSize floatRepr .spaced (acceptedReply upload event).doc ≤ 100 := by
  have hlid : docSize floatRepr .spaced (shownInt upload "origin_id" event.originId).doc ≤ 11 :=
    size_shownInt hid (by decide)
  have hlseq : docSize floatRepr .spaced (shownInt upload "origin_seq" event.originSeq).doc ≤ 11 :=
    size_shownInt hseq (by decide)
  have hok : textSize (codePoints "ok") = 4 := by decide
  have hduplicate : textSize (codePoints "duplicate") = 11 := by decide
  have horigin : textSize (codePoints "origin_id") = 11 := by decide
  have hnumber : textSize (codePoints "origin_seq") = 12 := by decide
  simp only [acceptedReply, Json.doc, fieldsDoc, fieldDoc, docSize, fieldsSize, fieldSize,
    JsonLayout.spaced] at hlid hlseq ⊢
  omega

/-- **An upload is no longer than the server takes**: at most 64 KiB of payload. -/
theorem size_c2Upload {gatewayId receivedAtMs : ℤ} {channel : Option ℤ} {r : RouteDataV2}
    {floatRepr : ℚ → List Char} (hr : r.Valid)
    (h : UploadNumbers gatewayId channel receivedAtMs) :
    docSize floatRepr .compact (Json.obj (c2Upload gatewayId channel receivedAtMs r)).doc ≤
      2 * r.innerPayload.length + 14000 := by
  have haddress := fun value => textSize_valueName_le addressTypes (by decide) value
  have hclass := textSize_valueName_le trafficClasses (by decide) r.trafficClass
  have htype := textSize_valueName_le messageTypes (by decide) r.innerType
  have horigin := haddress r.originType
  have hdestination := haddress r.destinationType
  have hhex := textSize_hex r.innerPayload
  have hid := length_decimalChars_of_fitsWidth hr.origin.id (by decide)
  have hdid := length_decimalChars_of_fitsWidth hr.destination.id (by decide)
  have httl := length_decimalChars_of_fitsWidth hr.ttl (by decide)
  have hseq := length_decimalChars_of_fitsWidth hr.originSeq (by decide)
  have hgateway := length_decimalChars_le h.gatewayId
  have hms := length_decimalChars_le h.receivedAtMs
  have hchannel : docSize floatRepr .compact (Json.ofOption channel).doc ≤ 4301 := by
    cases channel with
    | none => exact (show 4 ≤ 4301 by decide)
    | some n => exact length_decimalChars_le (h.channel n rfl)
  have hname : ∀ name ∈ ["gateway_id", "channel", "received_at_ms", "route", "origin_type",
      "origin_id", "destination_type", "destination_id", "ttl", "origin_seq", "traffic_class",
      "inner_type", "inner_payload_hex"], textSize (codePoints name) ≤ 20 := by decide
  simp only [List.forall_mem_cons] at hname
  simp only [c2Upload, uploadRoute, Json.doc, fieldsDoc, fieldDoc, docSize, fieldsSize, fieldSize,
    JsonLayout.compact, addressTypeName, trafficClassName, messageTypeName] at hchannel ⊢
  omega

/-! ### Over HTTP -/

section

variable {A : Aead} {rt : ServerRuntime} {w : JsonWriter} {replyDepth : ℕ}

/-- **What the client logs of a reply** to an upload that was taken. -/
theorem postC2Upload_accepted {upload : JsonFields} {event : C2Event}
    (hid : FitsWidth 1 event.originId) (hseq : FitsWidth 4 event.originSeq)
    (hwrite : 1 ≤ rt.json.depthLimit) (hread : 1 ≤ replyDepth) :
    ∃ body, sendJson rt 200 (acceptedReply upload event) = .ok ⟨200, body, "application/json"⟩ ∧
      postC2Upload replyDepth (.answered 200 body) =
        .ok (true, "http_status=200 duplicate=" ++ toString event.duplicate.toNat) := by
  have hplain : (acceptedReply upload event).doc.Plain rt.json.floatRepr :=
    plain_acceptedReply hid hseq
  have hdepth := depth_acceptedReply upload event
  obtain ⟨body, hsend, hloads⟩ := sendJson_reads 200 hplain (hdepth.trans_le hwrite)
    (hdepth.trans_le hread)
  refine ⟨body, hsend, ?_⟩
  obtain ⟨_, hdumps, heq⟩ := Py.bind_eq_ok.mp hsend
  have hbody := congrArg HttpResponse.body (Py.pure_eq_ok.mp heq)
  dsimp only at hbody
  subst hbody
  have hlength := length_dumps_le rfl hdumps
  have hsize : docSize rt.json.floatRepr .spaced (acceptedReply upload event).doc ≤ 100 :=
    size_acceptedReply hid hseq
  obtain ⟨text, -, htext⟩ := Py.bind_eq_ok.mp hdumps
  obtain rfl := Py.pure_eq_ok.mp htext
  rw [loads, decodeUtf8_encodeChars] at hloads
  dsimp only at hloads
  have hreply : (acceptedReply upload event).doc = .obj [(codePoints "ok", .bool true),
      (codePoints "duplicate", .bool event.duplicate),
      (codePoints "origin_id", (shownInt upload "origin_id" event.originId).doc),
      (codePoints "origin_seq", (shownInt upload "origin_seq" event.originSeq).doc)] := rfl
  have hduplicate : replyDuplicate replyDepth (String.ofList text) = .ok (some event.duplicate) := by
    rw [replyDuplicate, String.toList_ofList, hloads, hreply]
    rfl
  rw [postC2Upload, if_pos (by decide), List.take_of_length_le (by omega),
    decodeUtf8Replace_encodeChars, hduplicate]
  rfl

/-- **An upload over HTTP**: the server ingests the object that the client built, and the
client logs whether it was known. -/
theorem upload_over_http {upload : JsonFields}
    (hplain : (Json.obj upload).doc.Plain w.floatRepr)
    (hwrite : (Json.obj upload).doc.depth ≤ w.depthLimit)
    (hread : (Json.obj upload).doc.depth ≤ rt.loadsDepth)
    (hsize : docSize w.floatRepr .compact (Json.obj upload).doc ≤ 250000)
    (hreply : 1 ≤ rt.json.depthLimit) (hclient : 1 ≤ replyDepth) :
    ∃ body, dumps w .compact (Json.obj upload).doc = .ok body ∧
      ∀ clientIp nowMs store event store', ingest A nowMs clientIp upload store = .ok event store' →
        ∃ response, doPost A rt (uploadRequest body clientIp nowMs) store = .ok response store' ∧
          postC2Upload replyDepth (.answered response.status response.body) =
            .ok (true, "http_status=200 duplicate=" ++ toString event.duplicate.toNat) := by
  obtain ⟨body, hbody, hloads⟩ : ∃ body, dumps w .compact (Json.obj upload).doc = .ok body ∧
    loads rt.loadsDepth body = .ok (Json.obj upload).doc := loads_dumps hplain hwrite hread
  refine ⟨body, hbody, fun clientIp nowMs store event store' hingest => ?_⟩
  have hlength := length_dumps_le rfl hbody
  have hpos : 0 < body.length := by
    rcases body with _ | ⟨b, bs⟩
    · cases hloads
    · exact Nat.succ_pos _
  obtain ⟨o, opened, hopen, hopened, hevent⟩ := ingest_eq_ok hingest
  have hids := showsIds_of_openUpload hopen hopened
  have hid : FitsWidth 1 event.originId := by rw [hevent]; exact hids.id
  have hseq : FitsWidth 4 event.originSeq := by rw [hevent]; exact hids.seq
  obtain ⟨reply, hsend, hlog⟩ : ∃ reply, sendJson rt 200 (acceptedReply upload event) =
      .ok ⟨200, reply, "application/json"⟩ ∧ postC2Upload replyDepth (.answered 200 reply) =
        .ok (true, "http_status=200 duplicate=" ++ toString event.duplicate.toNat) :=
    postC2Upload_accepted hid hseq hreply hclient
  refine ⟨⟨200, reply, "application/json"⟩, ?_, hlog⟩
  have hpost : postIngest A rt (uploadRequest body clientIp nowMs) store =
      .ok (upload, event) store' := by
    rw [postIngest_eq, readBody_uploadRequest hpos (by omega), Py.ok_bind, bodyUpload_of_loads hloads]
    dsimp only [IngestCall.run, uploadRequest]
    rw [hingest]
  rw [doPost, if_neg (by exact not_not.mpr rfl), hpost]
  dsimp only
  rw [hsend]
  rfl

end

/-! ### From the radio to the store -/

/-- The numbers of an uploader that no field of the packet bounds. -/
def Uploader.Numbers : Uploader → Prop
  | .mesh _ env state => (∀ n ∈ state.currentChannel, Printable n) ∧ Printable env.utcMs
  | .gateway _ channel utcMs => (∀ n ∈ channel, Printable n) ∧ Printable utcMs

theorem Uploader.uploadNumbers {u : Uploader} (h : u.Numbers) (r : RouteDataV2) :
    ∃ gatewayId channel receivedAtMs, u.upload r = c2Upload gatewayId channel receivedAtMs r ∧
      UploadNumbers gatewayId channel receivedAtMs := by
  cases u with
  | mesh cfg env state =>
    exact ⟨_, _, _, rfl, digits_of_fitsWidth cfg.senderId_fits (by decide), h.1, h.2⟩
  | gateway cfg channel utcMs =>
    exact ⟨_, _, _, rfl, digits_of_fitsWidth cfg.gatewayId_fits (by decide), h.1, h.2⟩

/-- An image with its header can be shown, and so can every other payload. -/
theorem eventContent_returns {plaintext : Bytes} (h : ImageHeaderComplete plaintext) :
    ∃ content, eventContent plaintext = .ok content := by
  unfold eventContent
  split_ifs with hmagic
  · have hlong := h hmagic
    obtain ⟨width, hwidth⟩ := byteAt_of_lt (show 4 < plaintext.length by omega)
    obtain ⟨height, hheight⟩ := byteAt_of_lt (show 5 < plaintext.length by omega)
    obtain ⟨pixelFormat, hpixel⟩ := byteAt_of_lt (show 6 < plaintext.length by omega)
    simp only [hwidth, hheight, hpixel, Py.ok_bind]
    exact ⟨_, rfl⟩
  · exact ⟨_, rfl⟩

/-- **What `ingest` does with an upload that opens** and whose payload can be shown: a known
one leaves the store alone, a new one is stored in front. -/
theorem ingest_of_tracks {A : Aead} {store : C2EventStore} {w : FifoSet (List ℤ)}
    (htracks : store.Tracks w) {upload : JsonFields} {o : OpenedUpload}
    (hopen : openUpload A store.keyring upload = .ok o) (hshown : ImageHeaderComplete o.plaintext)
    (nowMs : ℤ) (clientIp : String) :
    ∃ event store', ingest A nowMs clientIp upload store = .ok event store' ∧
      event.duplicate = decide (o.dedupeKey ∈ store.seen) ∧
      (o.dedupeKey ∈ store.seen → store' = store) ∧
      (o.dedupeKey ∉ store.seen → o.dedupeKey ∈ store'.seen ∧
        store'.events = (event :: store.events).take store.maxEvents ∧
        eventContent o.plaintext = .ok (event.image, event.payloadText)) := by
  obtain ⟨content, hcontent⟩ := eventContent_returns hshown
  have hevent : ∃ event, uploadEvent nowMs clientIp upload o = .ok event ∧
      eventContent o.plaintext = .ok (event.image, event.payloadText) :=
    ⟨_, Py.bind_eq_ok.mpr ⟨content, hcontent, rfl⟩, hcontent⟩
  obtain ⟨event, hevent, hshows⟩ := hevent
  obtain ⟨hkey, hduplicate⟩ := uploadEvent_dedupeKey hopen hevent
  have hrun : ingest A nowMs clientIp upload store = record o.dedupeKey event store := by
    rw [ingest_of_openUpload hopen, PyM.bind_apply, PyM.monadLift_apply, hevent]
    rfl
  by_cases hseen : o.dedupeKey ∈ store.seen
  · refine ⟨_, _, hrun.trans (record_of_mem hseen), (decide_eq_true hseen).symm, fun _ => rfl,
      fun h => absurd hseen h⟩
  · have hw : ¬ o.dedupeKey ∈ w := by
      rw [htracks.seen] at hseen
      exact hseen
    obtain ⟨hrecord, htracks'⟩ := record_of_not_mem htracks hkey hw
    refine ⟨_, _, hrun.trans hrecord, hduplicate.trans (decide_eq_false hseen).symm,
      fun h => absurd h hseen, fun _ => ⟨?_, rfl, hshows⟩⟩
    rw [htracks'.seen]
    exact FifoSet.mem_remember_self w o.dedupeKey

/-- What a node sent as an uplink arrives behind the relays, and every uploader's object of it
is opened by the server to what the node sent. -/
theorem relayed_uplink_opens {A : Aead} (hA : A.Correct chacha20Poly1305TagSize)
    {cfg : NodeConfig} {env : Env} {innerType c2Id ttl : ℤ} {payload : Bytes} {s s' : NodeState}
    {sent : SentRouteV2}
    (hsend : sendRouteV2 A cfg env innerType payload addrC2 c2Id ttl trafficC2Uplink s = .ok sent s')
    {ring : C2Keyring} {k : C2Key}
    (hring : ring.get sent.crypto.securityDomain sent.crypto.keyId sent.crypto.keyEpoch = some k)
    (hkey : k.key = sent.crypto.key) (relays : List (NodeConfig × SeqNo))
    (hrelays : (relays.length : ℤ) ≤ ttl) :
    ∃ last route, relayFrames relays sent.frame.payload = .ok last ∧ CarriesRouteV2 last route ∧
      route.Valid ∧ ∀ u : Uploader, ∃ o, openUpload A ring (u.upload route) = .ok o ∧
        o.plaintext = payload ∧
        o.dedupeKey = [cfg.originType, cfg.senderId, sent.seqSent, sent.crypto.securityDomain,
          sent.crypto.keyId, sent.crypto.keyEpoch] := by
  obtain ⟨e2e, c, hencrypt, hv, hclass, htype, hvf, -, -, rfl, -⟩ := sendRouteV2_eq_ok.mp hsend
  obtain ⟨hcrypto, hbound, rfl⟩ := (encryptE2ePayload_eq_ok_iff A cfg env
    ⟨cfg.originType, cfg.senderId, addrC2, c2Id, s.nextOriginSeq.value, trafficC2Uplink, innerType,
      payload.length⟩ rfl).mp hencrypt
  have hdomain : c.securityDomain = secDomainNodeToC2 := by
    rw [e2eCryptoForOutbound, if_pos rfl] at hcrypto
    exact cfg.c2UplinkCrypto_domain c hcrypto
  obtain ⟨last, hlast, hcarries⟩ := relayFrames_eq_ok
    (carriesRouteV2_outerFrame hv hclass htype hvf) relays hrelays
  have hopen : ∀ u : Uploader, openUpload A ring (u.upload _) = .ok _ := fun u =>
    openUpload_of_wrap hA hdomain hring hkey
      (u.readUpload_eq hcarries.valid ⟨rfl, rfl⟩ htype) env.urandom_length hbound rfl
  exact ⟨last, _, hlast, hcarries, hcarries.valid, fun u => ⟨_, hopen u, rfl, rfl⟩⟩

/-- **An uplink over the radio and HTTP is stored once.**  What `send_route_v2` sent passes
any chain of relays no longer than its ttl; the mesh node or gateway behind them writes its
upload as JSON; in every store that a run reaches, the server answers 200, the client logs
whether the origination was known, a known one leaves the store alone, and a new one is
stored in front of the events with the payload that the origin sent. -/
theorem uplink_over_http {A : Aead} (hA : A.Correct chacha20Poly1305TagSize) {cfg : NodeConfig}
    {env : Env} {innerType c2Id ttl : ℤ} {payload : Bytes} {s s' : NodeState} {sent : SentRouteV2}
    (hsend : sendRouteV2 A cfg env innerType payload addrC2 c2Id ttl trafficC2Uplink s = .ok sent s')
    (hshown : ImageHeaderComplete payload) {ring : C2Keyring} {k : C2Key}
    (hring : ring.get sent.crypto.securityDomain sent.crypto.keyId sent.crypto.keyEpoch = some k)
    (hkey : k.key = sent.crypto.key) (relays : List (NodeConfig × SeqNo))
    (hrelays : (relays.length : ℤ) ≤ ttl) {rt : ServerRuntime} {w : JsonWriter} {replyDepth : ℕ}
    (hwrite : 2 ≤ w.depthLimit) (hread : 2 ≤ rt.loadsDepth) (hreply : 1 ≤ rt.json.depthLimit)
    (hclient : 1 ≤ replyDepth) :
    ∃ last route, relayFrames relays sent.frame.payload = .ok last ∧ CarriesRouteV2 last route ∧
      ∀ u : Uploader, u.Numbers →
        ∃ body, dumps w .compact (Json.obj (u.upload route)).doc = .ok body ∧
          ∀ (clientIp : String) (nowMs : ℤ) {maxEvents : ℕ} {recorded : List (List ℤ × C2Event)}
            {store : C2EventStore}, 1 ≤ maxEvents →
            IngestRun A ring maxEvents recorded
              (⟨store, fun _ => none⟩ : IngestThreads Unit) →
            ∃ key response store',
              key = [cfg.originType, cfg.senderId, sent.seqSent, sent.crypto.securityDomain,
                sent.crypto.keyId, sent.crypto.keyEpoch] ∧
              doPost A rt (uploadRequest body clientIp nowMs) store = .ok response store' ∧
              postC2Upload replyDepth (.answered response.status response.body) =
                .ok (true, "http_status=200 duplicate=" ++
                  toString (decide (key ∈ store.seen)).toNat) ∧
              (key ∈ store.seen → store' = store) ∧
              (key ∉ store.seen → key ∈ store'.seen ∧
                ∃ event, store'.events = (event :: store.events).take maxEvents ∧
                  eventContent payload = .ok (event.image, event.payloadText)) := by
  obtain ⟨last, route, hlast, hcarries, hvalid, hopens⟩ :=
    relayed_uplink_opens hA hsend hring hkey relays hrelays
  refine ⟨last, route, hlast, hcarries, fun u hnumbers => ?_⟩
  obtain ⟨o, hopen, rfl, hdedupe⟩ := hopens u
  obtain ⟨gatewayId, channel, receivedAtMs, hupload, hprintable⟩ := u.uploadNumbers hnumbers route
  rw [hupload] at hopen ⊢
  have hplain : (Json.obj (c2Upload gatewayId channel receivedAtMs route)).doc.Plain w.floatRepr :=
    plain_c2Upload hvalid hprintable
  have hdepth := depth_c2Upload gatewayId receivedAtMs channel route
  have hsize : docSize w.floatRepr .compact
      (Json.obj (c2Upload gatewayId channel receivedAtMs route)).doc ≤ _ :=
    size_c2Upload hvalid hprintable
  have hpayload := hvalid.innerPayload.2
  obtain ⟨body, hbody, hpost⟩ := upload_over_http (A := A) hplain (hdepth ▸ hwrite)
    (hdepth ▸ hread) (by omega) hreply hclient
  refine ⟨body, hbody, fun clientIp nowMs maxEvents recorded store hmax hrun => ?_⟩
  have hshows := hrun.shows hmax
  obtain ⟨v, htracks⟩ := hshows.tracked
  have hkeyring : store.keyring = ring := hshows.keyring
  have hmaxEvents : store.maxEvents = maxEvents := hshows.maxEvents_eq
  rw [← hkeyring] at hopen
  obtain ⟨event, store', hingest, hduplicate, hknown, hnew⟩ :=
    ingest_of_tracks htracks hopen hshown nowMs clientIp
  obtain ⟨response, hresponse, hlog⟩ := hpost clientIp nowMs store event store' hingest
  refine ⟨o.dedupeKey, response, store', hdedupe, hresponse, hduplicate ▸ hlog, hknown, fun h => ?_⟩
  obtain ⟨hseen, hevents, hcontent⟩ := hnew h
  exact ⟨hseen, event, hmaxEvents ▸ hevents, hcontent⟩

/-- Node 2 sends to `c2:1` with two hops, node 1 relays, and gateway 7 uploads to an empty
store: the payload is stored, and the log says that it was new. -/
theorem uplink_over_http_sample :
    ∃ sent s', sendRouteV2 Aead.checksum (NodeConfig.sampleOrigin 2 senderId_two) Env.sample msgText
        [104, 105] addrC2 1 2 trafficC2Uplink
        (NodeState.initial (NodeConfig.sampleOrigin 2 senderId_two) ⟨7, by decide, by decide⟩ 0 none) =
          .ok sent s' ∧
      ∃ last route body response store', relayFrames [(NodeConfig.sampleOrigin 1 senderId_one, .one)]
          sent.frame.payload = .ok last ∧
        dumps ServerRuntime.sample.json .compact
          (Json.obj ((Uploader.gateway ⟨7, 10, by decide, by decide⟩ (some 6) 0).upload route)).doc =
            .ok body ∧
        doPost Aead.checksum ServerRuntime.sample (uploadRequest body "127.0.0.1" 0)
          (C2EventStore.initial [C2Key.sample] 10) = .ok response store' ∧
        postC2Upload 100 (.answered response.status response.body) =
          .ok (true, "http_status=200 duplicate=0") ∧
        ∃ event, store'.events = [event] ∧
          eventContent [104, 105] = .ok (event.image, event.payloadText) := by
  obtain ⟨sent, s', hsend, hsent⟩ := exists_eq_ok_of_map (r := sendRouteV2 Aead.checksum
      (NodeConfig.sampleOrigin 2 senderId_two) Env.sample msgText [104, 105] addrC2 1 2
      trafficC2Uplink
      (NodeState.initial (NodeConfig.sampleOrigin 2 senderId_two) ⟨7, by decide, by decide⟩ 0 none))
    (f := fun sent => (sent.seqSent, sent.crypto.securityDomain, sent.crypto.keyId,
      sent.crypto.keyEpoch, sent.crypto.key))
    (x := (7, secDomainNodeToC2, 1, 1, C2Key.sample.key)) (by decide +kernel)
  simp only [Prod.mk.injEq] at hsent
  obtain ⟨hseq, hdomain, hid, hepoch, hkey⟩ := hsent
  have hring : C2Keyring.get [C2Key.sample] sent.crypto.securityDomain sent.crypto.keyId
      sent.crypto.keyEpoch = some C2Key.sample := by
    rw [hdomain, hid, hepoch]
    rfl
  obtain ⟨last, route, hlast, -, hupload⟩ := uplink_over_http
    Aead.checksum_lawful.toCorrect hsend (fun h => absurd h (by decide)) hring hkey.symm
    [(NodeConfig.sampleOrigin 1 senderId_one, .one)] (by decide)
    (show 2 ≤ ServerRuntime.sample.json.depthLimit by decide)
    (show 2 ≤ ServerRuntime.sample.loadsDepth by decide)
    (show 1 ≤ ServerRuntime.sample.json.depthLimit by decide) (show 1 ≤ 100 by decide)
  have hnumbers : (Uploader.gateway ⟨7, 10, by decide, by decide⟩ (some 6) 0).Numbers := by
    refine ⟨fun n hn => ?_, by decide⟩
    obtain rfl := Option.some.inj hn
    decide
  obtain ⟨body, hbody, hpost⟩ := hupload _ hnumbers
  obtain ⟨key, response, store', -, hresponse, hlog, -, hnew⟩ :=
    hpost "127.0.0.1" 0 (show 1 ≤ 10 by decide) IngestRun.initial
  have hempty : key ∉ (C2EventStore.initial [C2Key.sample] 10).seen := Finset.notMem_empty key
  rw [decide_eq_false hempty] at hlog
  obtain ⟨-, event, hevents, hcontent⟩ := hnew hempty
  exact ⟨sent, s', hsend, last, route, body, response, store', hlast, hbody, hresponse, hlog, event,
    hevents, hcontent⟩

end KovaWfb
