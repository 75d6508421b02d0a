/-
# End-to-end integrity

What the server records and what a node decrypts under an end-to-end key was
encrypted by a call of `encrypt_e2e_payload` on the same fields and the same
plaintext, whatever relays and gateways did with it.

The parties' calls are a list (`SealCall`), and the cipher is ideal for a key when
it opens nothing under it but what those calls encrypted (`IdealUnder`).  The same
key bytes may serve any number of domains: the domain, the key id and the epoch are
in the authenticated header, and the associated data of the two kinds of packet are
disjoint.
-/

import KovaWfb.C2.Server
import KovaWfb.Mesh.Crypto

namespace KovaWfb

/-! ### Calls -/

/-- One call of `encrypt_e2e_payload`: who made it and with which arguments. -/
structure E2eCall where
  cfg : NodeConfig
  env : Env
  originType : ℤ
  originId : ℤ
  destinationType : ℤ
  destinationId : ℤ
  originSeq : ℤ
  trafficClass : ℤ
  innerType : ℤ
  plaintext : Bytes

/-- One call of `encrypt_mesh_payload`. -/
structure MeshCall where
  cfg : NodeConfig
  env : Env
  originSenderId : ℤ
  destinationId : ℤ
  ttl : ℤ
  originSeq : ℤ
  innerType : ℤ
  plaintext : Bytes

/-- What an end-to-end call returns. -/
def E2eCall.result (A : Aead) (call : E2eCall) : Py (Bytes × CryptoConfig) :=
  encryptE2ePayload A call.cfg call.env call.originType call.originId call.destinationType
    call.destinationId call.originSeq call.trafficClass call.innerType call.plaintext

/-- What an end-to-end call binds. -/
def E2eCall.binding (call : E2eCall) : E2eBinding :=
  ⟨call.originType, call.originId, call.destinationType, call.destinationId, call.originSeq,
    call.trafficClass, call.innerType, call.plaintext.length⟩

/-- What a mesh call binds. -/
def MeshCall.binding (call : MeshCall) : RouteBinding :=
  ⟨call.originSenderId, call.destinationId, call.ttl, call.originSeq, call.innerType,
    call.plaintext.length⟩

/-- A call that encrypts under a configured key. -/
inductive SealCall
  | e2e (call : E2eCall)
  | mesh (call : MeshCall)

/-- The encryptions of a call. -/
def SealCall.sealings (A : Aead) : SealCall → List Sealed
  | .e2e call => encryptE2eSealings A call.cfg call.env call.binding call.plaintext
  | .mesh call => encryptMeshSealings A call.cfg call.env call.binding call.plaintext

/-- Under `key` the cipher opens nothing but what the calls encrypted. -/
def IdealUnder (A : Aead) (calls : List SealCall) (key : Bytes) : Prop :=
  ∀ nonce c, A.OpensOnly (calls.flatMap fun call => call.sealings A) key nonce c

/-- A holder of `key`, under the name the wrapper gives it, called
`encrypt_e2e_payload` on the fields `d` and the plaintext `p`, and the call
returned. -/
def SealedEndToEnd (A : Aead) (calls : List SealCall) (domain keyId keyEpoch : ℤ) (key : Bytes)
    (d : E2eBinding) (p : Bytes) : Prop :=
  ∃ call payload crypto, .e2e call ∈ calls ∧ call.result A = .ok (payload, crypto) ∧
    crypto.securityDomain = domain ∧ crypto.keyId = keyId ∧ crypto.keyEpoch = keyEpoch ∧
    crypto.key = key ∧ call.binding = d ∧ call.plaintext = p

/-- The header names the key: equal headers name equal keys. -/
theorem SecurePayload.Valid.names_of_authHeader_eq {s : SecurePayload} (h : s.Valid)
    {c : CryptoConfig} (he : s.authHeader = c.authHeader) : s.Names c := by
  have hc : ∀ x ∈ [(1, KovaWfb.secureVersion), (1, c.securityDomain), (2, c.keyId), (4, c.keyEpoch)],
      FitsWidth x.1 x.2 := by
    have hver : FitsWidth 1 KovaWfb.secureVersion := by decide
    simp [hver, c.domain_fits, c.keyId_fits, c.keyEpoch_fits]
  have heq := packBytes_inj_nil h.fits hc rfl he
  simp only [SecurePayload.header, List.cons.injEq, Prod.mk.injEq, true_and, and_true] at heq
  obtain ⟨-, hd, hk, he⟩ := heq
  exact ⟨hd, hk, he⟩

/-- **What opens under the associated data of a binding was encrypted end to end for
that binding.** -/
theorem IdealUnder.sealedEndToEnd {A : Aead} {calls : List SealCall} {key : Bytes}
    (hideal : IdealUnder A calls key) {s : SecurePayload} (hs : s.Valid) {d : E2eBinding}
    (hd : d.Valid) {p : Bytes}
    (hopen : A.decrypt key s.nonce s.ciphertextAndTag (s.authHeader ++ d.bytes) = some p) :
    SealedEndToEnd A calls s.securityDomain s.keyId s.keyEpoch key d p := by
  obtain ⟨call, hcall, hmem⟩ := List.mem_flatMap.mp (hideal _ _ _ _ hopen)
  cases call with
  | mesh call =>
    -- The associated data of mesh packets starts with another tag.
    obtain ⟨c, -, -, heq⟩ := mem_encryptMeshSealings.mp hmem
    have haad : s.authHeader ++ d.bytes = c.authHeader ++ call.binding.bytes :=
      congrArg Sealed.aad heq
    obtain ⟨-, hbytes⟩ := List.append_inj haad
      (by rw [s.length_authHeader, c.length_authHeader])
    exact absurd hbytes.symm (call.binding.bytes_ne d)
  | e2e call =>
    obtain ⟨c, hc, hvalid, heq⟩ := mem_encryptE2eSealings.mp hmem
    have haad : s.authHeader ++ d.bytes = c.authHeader ++ call.binding.bytes :=
      congrArg Sealed.aad heq
    obtain ⟨hheader, hbytes⟩ := List.append_inj haad
      (by rw [s.length_authHeader, c.length_authHeader])
    have hnames := hs.names_of_authHeader_eq hheader
    have hresult : call.result A =
        .ok ((c.wrap A call.env.urandom call.plaintext call.binding.bytes).bytes, c) :=
      (encryptE2ePayload_eq_ok_iff A call.cfg call.env call.binding rfl).mpr ⟨hc, hvalid, rfl⟩
    have hkey : key = c.key := congrArg Sealed.key heq
    have hp : p = call.plaintext := congrArg Sealed.plaintext heq
    exact ⟨call, _, c, hcall, hresult, hnames.securityDomain.symm, hnames.keyId.symm,
      hnames.keyEpoch.symm, hkey.symm, E2eBinding.bytes_inj hvalid hd hbytes.symm, hp.symm⟩

/-! ### The server and the nodes -/

/-- The event says these fields and this plaintext: its names read back as the
values, and its payload fields are those of the plaintext. -/
structure C2Event.Records (event : C2Event) (d : E2eBinding) (p : Bytes) : Prop where
  originType : addressTypeValue (.name event.originType) = .ok d.originType
  originId : event.originId = d.originId
  destinationType : addressTypeValue (.name event.destinationType) = .ok d.destinationType
  destinationId : event.destinationId = d.destinationId
  originSeq : event.originSeq = d.originSeq
  trafficClass : trafficClassValue (.name event.trafficClass) = .ok d.trafficClass
  innerType : messageTypeValue (.name event.innerType) = .ok d.innerType
  payloadLen : event.payloadLen = p.length
  content : eventContent p = .ok (event.image, event.payloadText)

/-- Whether it is a duplicate is no part of it. -/
theorem C2Event.Records.withDuplicate {event : C2Event} {d : E2eBinding} {p : Bytes}
    (h : event.Records d p) (duplicate : Bool) :
    ({ event with duplicate } : C2Event).Records d p :=
  ⟨h.originType, h.originId, h.destinationType, h.destinationId, h.originSeq, h.trafficClass,
    h.innerType, h.payloadLen, h.content⟩

/-- The event of an opened upload says what was opened, and under which key. -/
theorem uploadEvent_records {nowMs : ℤ} {clientIp : String} {upload : JsonFields}
    {o : OpenedUpload} {event : C2Event} (h : uploadEvent nowMs clientIp upload o = .ok event)
    (hclass : o.route.trafficClass = trafficC2Uplink) {n : ℤ} (hvalid : (o.route.binding n).Valid) :
    event.Records (o.route.binding n) o.plaintext ∧ event.keyId = o.secure.keyId ∧
      event.keyEpoch = o.secure.keyEpoch := by
  simp only [uploadEvent, Py.bind_eq_ok, Py.pure_eq_ok, Prod.exists] at h
  obtain ⟨image, text, hcontent, rfl⟩ := h
  have htraffic : trafficClasses.Has o.route.trafficClass := by
    rw [hclass]
    decide
  exact ⟨⟨namedValue_valueName.2.2.1 hvalid.origin.registered, rfl,
    namedValue_valueName.2.2.1 hvalid.destination.registered, rfl, rfl,
    namedValue_valueName.2.2.2 htraffic, namedValue_valueName.1 hvalid.registered, rfl, hcontent⟩,
    rfl, rfl⟩

/-- **End-to-end integrity.**  For every upload that the server turns into an event
and every packet that a node decrypts end to end, a holder of the key called
`encrypt_e2e_payload` on exactly the fields and the plaintext recorded. -/
theorem e2e_integrity (A : Aead) (calls : List SealCall) :
    (∀ (store store' : C2EventStore) (nowMs : ℤ) (clientIp : String) (upload : JsonFields)
        (event : C2Event),
      (∀ k ∈ store.keyring, IdealUnder A calls k.key) →
      ingest A nowMs clientIp upload store = .ok event store' →
      ∃ k ∈ store.keyring, event.keyId = k.keyId ∧ event.keyEpoch = k.keyEpoch ∧
        ∃ d p, event.Records d p ∧
          SealedEndToEnd A calls secDomainNodeToC2 k.keyId k.keyEpoch k.key d p) ∧
    (∀ (cfg : NodeConfig) (route : RouteDataV2) (s s' : NodeState) (p : Bytes)
        (secure : SecurePayload),
      (∀ c ∈ cfg.c2UplinkKeyring ++ cfg.c2DownlinkKeyring, IdealUnder A calls c.key) →
      decryptE2ePayload A cfg route s = .ok (p, secure) s' →
      ∃ c ∈ cfg.c2UplinkKeyring ++ cfg.c2DownlinkKeyring, secure.Names c ∧
        SealedEndToEnd A calls c.securityDomain c.keyId c.keyEpoch c.key (route.binding p.length)
          p) := by
  constructor
  · intro store store' nowMs clientIp upload event hideal h
    obtain ⟨o, opened, hopen, hevent, rfl⟩ := ingest_eq_ok h
    obtain ⟨hread, hv, -, hdomain, hkey, hvalid, hbytes, hdec⟩ := openUpload_eq_ok_iff.mp hopen
    obtain ⟨hmem, -, hid, hepoch⟩ := C2Keyring.get_eq_some hkey
    obtain ⟨hrecords, hkeyId, hkeyEpoch⟩ :=
      uploadEvent_records hevent (readUpload_uplink hread).2 hvalid
    rw [← hbytes] at hdec
    have hsealed := (hideal _ hmem).sealedEndToEnd hv hvalid hdec
    rw [hdomain, ← hid, ← hepoch] at hsealed
    exact ⟨o.key, hmem, hkeyId.trans hid.symm, hkeyEpoch.trans hepoch.symm, _, _,
      hrecords.withDuplicate _, hsealed⟩
  · intro cfg route s s' p secure hideal h
    obtain ⟨hopen, -, -⟩ := decryptE2ePayload_eq_ok_iff.mp h
    obtain ⟨hv, -, c, hc, hvalid, hdec⟩ := openE2ePayload_eq_ok_iff.mp hopen
    have hnames := e2eCryptoForInbound_names hc
    have hmem := e2eCryptoForInbound_mem hc
    rw [← hnames.authHeader_eq hv] at hdec
    have hsealed := (hideal c hmem).sealedEndToEnd hv hvalid hdec
    -- The length that is bound is the length of what was encrypted.
    have hlen : secure.plaintextLen = p.length := by
      obtain ⟨call, _, _, -, -, -, -, -, -, hbinding, rfl⟩ := hsealed
      exact (congrArg E2eBinding.plaintextLen hbinding).symm
    rw [hlen, hnames.securityDomain, hnames.keyId, hnames.keyEpoch] at hsealed
    exact ⟨c, hmem, hnames, hsealed⟩

/-! ### Node 2 encrypts for the C2 side and, with the same key bytes, for the mesh -/

/-- Its end-to-end call. -/
def sampleE2eCall : E2eCall :=
  ⟨NodeConfig.sampleOrigin 2 senderId_two, Env.sample, addrNode, 2, addrC2, 1, 1, trafficC2Uplink,
    msgText, [104, 105]⟩

/-- Its mesh call. -/
def sampleMeshCall : MeshCall :=
  ⟨NodeConfig.sampleOrigin 2 senderId_two, Env.sample, 2, 0, 3, 1, msgText, [104, 105]⟩

/-- The encryption of the end-to-end call. -/
def sampleE2eSealing : Sealed where
  key := CryptoConfig.sampleUplink.key
  nonce := Env.sample.urandom
  aad := CryptoConfig.sampleUplink.authHeader ++ sampleE2eCall.binding.bytes
  plaintext := [104, 105]
  ciphertext := List.replicate 18 0

/-- The encryption of the mesh call. -/
def sampleMeshSealing : Sealed where
  key := CryptoConfig.sample.key
  nonce := Env.sample.urandom
  aad := CryptoConfig.sample.authHeader ++ sampleMeshCall.binding.bytes
  plaintext := [104, 105]
  ciphertext := List.replicate 18 1

/-- The cipher that opens only these two. -/
def sampleE2eCipher : Aead := Aead.table [sampleE2eSealing, sampleMeshSealing]

/-- The packet of the end-to-end call, as it arrives with two hops left. -/
def sampleE2eRoute : RouteDataV2 where
  routeVersion := routeV2Version
  originType := addrNode
  originId := 2
  destinationType := addrC2
  destinationId := 1
  ttl := 2
  originSeq := 1
  trafficClass := trafficC2Uplink
  innerType := msgText
  innerPayload := (CryptoConfig.sampleUplink.wrap sampleE2eCipher Env.sample.urandom [104, 105]
    sampleE2eCall.binding.bytes).bytes

theorem sampleE2eCipher_idealUnder (key : Bytes) :
    IdealUnder sampleE2eCipher [.e2e sampleE2eCall, .mesh sampleMeshCall] key := by
  have hlog : [SealCall.e2e sampleE2eCall, .mesh sampleMeshCall].flatMap
      (fun call => call.sealings sampleE2eCipher) = [sampleE2eSealing, sampleMeshSealing] := by
    decide +kernel
  intro nonce c
  rw [hlog]
  exact Aead.table_opensOnly _ _ _ _

/-- The server and the node `c2:1` open the same uplink, and both find what node 2 sealed. -/
theorem e2e_integrity_sample :
    (∃ event d p, (resultValue? (ingest sampleE2eCipher 0 "" (c2Upload 9 none 0 sampleE2eRoute)
          (C2EventStore.initial [C2Key.sample] 10))) = some event ∧ event.Records d p ∧
        SealedEndToEnd sampleE2eCipher [.e2e sampleE2eCall, .mesh sampleMeshCall] secDomainNodeToC2
          1 1 C2Key.sample.key d p) ∧
    ∃ p secure s', decryptE2ePayload sampleE2eCipher NodeConfig.sampleC2 sampleE2eRoute
        (NodeState.initial NodeConfig.sampleC2 .one 0 none) =
          .ok (p, secure) s' ∧
      SealedEndToEnd sampleE2eCipher [.e2e sampleE2eCall, .mesh sampleMeshCall] secDomainNodeToC2
        1 1 CryptoConfig.sampleUplink.key (sampleE2eRoute.binding p.length) p := by
  have hideal := sampleE2eCipher_idealUnder
  constructor
  · obtain ⟨event, store', h, -⟩ := exists_eq_ok_of_map (r := ingest sampleE2eCipher 0 ""
      (c2Upload 9 none 0 sampleE2eRoute) (C2EventStore.initial [C2Key.sample] 10))
      (f := fun event => event.originId) (x := 2) (by decide +kernel)
    obtain ⟨k, hk, -, -, d, p, hrecords, hsealed⟩ :=
      (e2e_integrity sampleE2eCipher [.e2e sampleE2eCall, .mesh sampleMeshCall]).1 _ _ _ _ _ _
        (fun k _ => hideal k.key) h
    obtain rfl := List.mem_singleton.mp hk
    rw [h]
    exact ⟨event, d, p, rfl, hrecords, hsealed⟩
  · obtain ⟨⟨p, secure⟩, s', h, -⟩ := exists_eq_ok_of_map (r := decryptE2ePayload sampleE2eCipher
      NodeConfig.sampleC2 sampleE2eRoute
      (NodeState.initial NodeConfig.sampleC2 .one 0 none))
      (f := Prod.fst) (x := [104, 105]) (by decide +kernel)
    obtain ⟨c, hc, -, hsealed⟩ :=
      (e2e_integrity sampleE2eCipher [.e2e sampleE2eCall, .mesh sampleMeshCall]).2 _ _ _ _ _ _
        (fun c _ => hideal c.key) h
    obtain rfl := List.mem_singleton.mp hc
    exact ⟨p, secure, s', h, hsealed⟩

end KovaWfb
