/-
# Payload protection in a mesh node

`python/examples/mesh_txrx.py`, lines 295 to 341 (the associated data) and 1616
to 1808 (`encrypt_mesh_payload`, `decrypt_mesh_payload`, `encrypt_e2e_payload`,
`decrypt_e2e_payload` and what they share).

Both decryptions check, decrypt and only then enter the replay window, so each is
a pure part (`openMeshPayload`, `openE2ePayload`) followed by `remember`.  The two
kinds of associated data are injective and no byte string is of both kinds
(`RouteBinding.bytes_inj`, `E2eBinding.bytes_inj`, `RouteBinding.bytes_ne`).
-/

import KovaWfb.Mesh.State

namespace KovaWfb

/-! ### Associated data -/

/-- `b"rtv1"`. -/
def routeTag : Bytes := [0x72, 0x74, 0x76, 0x31]

/-- The keyword arguments of `_secure_route_aad`: what the associated data of a
`route_data` packet binds. -/
@[ext]
structure RouteBinding where
  originSenderId : ℤ
  destinationId : ℤ
  ttl : ℤ
  originSeq : ℤ
  innerType : ℤ
  plaintextLen : ℤ
  deriving DecidableEq, Repr

/-- The fields of a binding on the wire. -/
def RouteBinding.header (d : RouteBinding) : List (ℕ × ℤ) :=
  [(1, d.originSenderId), (1, d.destinationId), (1, d.ttl), (4, d.originSeq), (1, d.innerType),
    (2, d.plaintextLen)]

/-- The fields of a binding fit the format. -/
def RouteBinding.Fits (d : RouteBinding) : Prop := ∀ x ∈ d.header, FitsWidth x.1 x.2

instance (d : RouteBinding) : Decidable d.Fits := inferInstanceAs (Decidable (∀ _ ∈ _, _))

/-- The associated data of a binding. -/
def RouteBinding.bytes (d : RouteBinding) : Bytes := routeTag ++ packBytes d.header

/-- `_secure_route_aad`. -/
def secureRouteAad (d : RouteBinding) : Py Bytes := do
  raiseIf (¬ (0 ≤ d.plaintextLen ∧ d.plaintextLen ≤ maxU16))
    (.appFrameError s!"secure plaintext_len must fit in u16: {d.plaintextLen}")
  let fields ← pack d.header
  pure (routeTag ++ fields)

/-- `_route_v2_e2e_aad`. -/
def routeV2E2eAad (d : E2eBinding) : Py Bytes :=
  encodeRouteV2E2eAssociatedData (.int d.originType) d.originId (.int d.destinationType)
    d.destinationId d.originSeq (.int d.trafficClass) (.int d.innerType) d.plaintextLen

theorem RouteBinding.fits_iff {d : RouteBinding} :
    d.Fits ↔ FitsWidth 1 d.originSenderId ∧ FitsWidth 1 d.destinationId ∧ FitsWidth 1 d.ttl ∧
      FitsWidth 4 d.originSeq ∧ FitsWidth 1 d.innerType ∧ FitsWidth 2 d.plaintextLen := by
  simp [RouteBinding.Fits, RouteBinding.header]

theorem secureRouteAad_eq_ok {d : RouteBinding} {b : Bytes} :
    secureRouteAad d = .ok b ↔ d.Fits ∧ d.bytes = b := by
  simp only [secureRouteAad, Py.bind_eq_ok, raiseIf_eq_ok, not_not, pack_eq_ok, Py.pure_eq_ok,
    exists_const]
  constructor
  · rintro ⟨-, _, ⟨hfit, rfl⟩, rfl⟩
    exact ⟨hfit, rfl⟩
  · rintro ⟨hfit, rfl⟩
    obtain ⟨-, -, -, -, -, hlen⟩ := RouteBinding.fits_iff.mp hfit
    exact ⟨fitsWidth_two_iff.mp hlen, _, ⟨hfit, rfl⟩, rfl⟩

theorem routeV2E2eAad_eq_ok {d : E2eBinding} {b : Bytes} :
    routeV2E2eAad d = .ok b ↔ d.Valid ∧ d.bytes = b := encodeRouteV2E2eAssociatedData_int_eq_ok

/-- **The associated data of a `route_data` packet is injective** in every field
it binds. -/
theorem RouteBinding.bytes_inj {d d' : RouteBinding} (h : d.Fits) (h' : d'.Fits)
    (he : d.bytes = d'.bytes) : d = d' := by
  have heq := packBytes_inj_nil h h' rfl (List.append_cancel_left he)
  simp only [RouteBinding.header, List.cons.injEq, Prod.mk.injEq, true_and, and_true] at heq
  obtain ⟨h0, h1, h2, h3, h4, h5⟩ := heq
  exact RouteBinding.ext h0 h1 h2 h3 h4 h5

/-- **The two kinds of associated data are disjoint.** -/
theorem RouteBinding.bytes_ne (d : RouteBinding) (e : E2eBinding) : d.bytes ≠ e.bytes := by
  intro h
  have htag : routeTag = e2eTag := (List.append_inj h rfl).1
  exact absurd htag (by decide)

/-! ### Keys -/

/-- The eight header bytes authenticated under a configured key. -/
def CryptoConfig.authHeader (c : CryptoConfig) : Bytes :=
  packBytes [(1, secureVersion), (1, c.securityDomain), (2, c.keyId), (4, c.keyEpoch)]

/-- The wrapper around a plaintext under a configured key. -/
def CryptoConfig.wrap (c : CryptoConfig) (A : Aead) (nonce plaintext aad : Bytes) : SecurePayload :=
  { secureVersion := secureVersion, securityDomain := c.securityDomain, keyId := c.keyId,
    keyEpoch := c.keyEpoch, nonce,
    ciphertextAndTag := A.encrypt c.key nonce plaintext (c.authHeader ++ aad) }

/-- The record of the encryption in `wrap`. -/
def CryptoConfig.sealing (c : CryptoConfig) (A : Aead) (nonce plaintext aad : Bytes) : Sealed :=
  A.sealing c.key nonce plaintext (c.authHeader ++ aad)

/-- The wrapper names the configured key. -/
structure SecurePayload.Names (s : SecurePayload) (c : CryptoConfig) : Prop where
  securityDomain : s.securityDomain = c.securityDomain
  keyId : s.keyId = c.keyId
  keyEpoch : s.keyEpoch = c.keyEpoch

theorem CryptoConfig.length_authHeader (c : CryptoConfig) : c.authHeader.length = 8 :=
  length_packBytes _

theorem SecurePayload.Names.authHeader_eq {s : SecurePayload} {c : CryptoConfig}
    (h : s.Names c) (hv : s.Valid) : s.authHeader = c.authHeader := by
  rw [SecurePayload.authHeader, SecurePayload.header, CryptoConfig.authHeader, hv.secureVersion,
    h.securityDomain, h.keyId, h.keyEpoch]

theorem CryptoConfig.wrap_valid (c : CryptoConfig) {A : Aead}
    (hA : A.LengthPreserving chacha20Poly1305TagSize) {nonce plaintext aad : Bytes}
    (hn : nonce.length = chacha20Poly1305NonceSize) : (c.wrap A nonce plaintext aad).Valid := by
  refine ⟨rfl, c.domain_fits, c.keyId_fits, c.keyEpoch_fits, hn, ?_⟩
  rw [wrap, hA.length_encrypt]
  exact Nat.le_add_left _ _

theorem CryptoConfig.wrap_plaintextLen (c : CryptoConfig) {A : Aead}
    (hA : A.LengthPreserving chacha20Poly1305TagSize) (nonce plaintext aad : Bytes) :
    (c.wrap A nonce plaintext aad).plaintextLen = plaintext.length := by
  rw [SecurePayload.plaintextLen, wrap, hA.length_encrypt]
  push_cast
  omega

/-- A wrapper is 36 bytes longer than its plaintext. -/
theorem CryptoConfig.length_wrap (c : CryptoConfig) {A : Aead}
    (hA : A.LengthPreserving chacha20Poly1305TagSize) {nonce : Bytes} (plaintext aad : Bytes)
    (hn : nonce.length = chacha20Poly1305NonceSize) :
    (c.wrap A nonce plaintext aad).bytes.length = plaintext.length + 36 := by
  rw [(c.wrap_valid hA hn).length_bytes, wrap, hA.length_encrypt]
  simp only [securePayloadSize, chacha20Poly1305TagSize]
  omega

/-- A wrapper under a configured key decodes. -/
theorem CryptoConfig.decodeSecurePayload_wrap (c : CryptoConfig) {A : Aead}
    (hA : A.LengthPreserving chacha20Poly1305TagSize) {nonce plaintext aad : Bytes}
    (hn : nonce.length = chacha20Poly1305NonceSize) :
    decodeSecurePayload (c.wrap A nonce plaintext aad).bytes = .ok (c.wrap A nonce plaintext aad) :=
  decodeSecurePayload_eq_ok_iff.mpr ⟨c.wrap_valid hA hn, c.domain_registered, rfl⟩

/-- Under a configured key, wrapping always succeeds. -/
theorem CryptoConfig.encodeSecurePayload_eq (c : CryptoConfig) (A : Aead) (env : Env)
    (plaintext aad : Bytes) :
    encodeSecurePayload A env.urandom c.key (.int c.securityDomain) c.keyId c.keyEpoch plaintext aad
      none = .ok (c.wrap A env.urandom plaintext aad).bytes :=
  encodeSecurePayload_eq_ok_iff.mpr ⟨c.key_length, c.securityDomain, namedValue_int c.domain_fits,
    c.keyId_fits, c.keyEpoch_fits, env.urandom_length, rfl⟩

/-- `validate_secure_key`, and the same three checks in `decrypt_mesh_payload`. -/
def validateSecureKey (secure : SecurePayload) (crypto : CryptoConfig) : Py Unit := do
  raiseIf (secure.securityDomain ≠ crypto.securityDomain)
    (.appFrameError ("unexpected security_domain: " ++ securityDomainName secure.securityDomain ++
      " expected=" ++ securityDomainName crypto.securityDomain))
  raiseIf (secure.keyId ≠ crypto.keyId)
    (.appFrameError s!"unexpected key_id: {secure.keyId} expected={crypto.keyId}")
  raiseIf (secure.keyEpoch ≠ crypto.keyEpoch)
    (.appFrameError s!"unexpected key_epoch: {secure.keyEpoch} expected={crypto.keyEpoch}")

@[simp] theorem validateSecureKey_eq_ok {s : SecurePayload} {c : CryptoConfig} {u : Unit} :
    validateSecureKey s c = .ok u ↔ s.Names c := by
  simp only [validateSecureKey, Py.bind_eq_ok, raiseIf_eq_ok, not_not, exists_const]
  exact ⟨fun ⟨hd, hk, he⟩ => ⟨hd, hk, he⟩, fun h => ⟨h.securityDomain, h.keyId, h.keyEpoch⟩⟩

theorem validateSecureKey_onlyAppFrameError (s : SecurePayload) (c : CryptoConfig) :
    Py.OnlyAppFrameError (validateSecureKey s c) := by
  refine (Py.onlyAppFrameError_raiseIf _ _).bind fun _ _ => ?_
  exact (Py.onlyAppFrameError_raiseIf _ _).bind fun _ _ => Py.onlyAppFrameError_raiseIf _ _

/-! ### `route_data` under the mesh key -/

/-- What the associated data of a `route_data` packet binds. -/
def RouteData.binding (r : RouteData) (plaintextLen : ℤ) : RouteBinding :=
  ⟨r.originSenderId, r.destinationId, r.ttl, r.originSeq, r.innerType, plaintextLen⟩

theorem RouteData.Valid.binding_fits {r : RouteData} (h : r.Valid) {n : ℤ} (hn : FitsWidth 2 n) :
    (r.binding n).Fits :=
  RouteBinding.fits_iff.mpr
    ⟨h.originSenderId, h.destinationId, h.ttl, h.originSeq, h.innerType, hn⟩

/-- `encrypt_mesh_payload`. -/
def encryptMeshPayload (A : Aead) (cfg : NodeConfig) (env : Env)
    (originSenderId destinationId ttl originSeq innerType : ℤ) (plaintext : Bytes) : Py Bytes :=
  match cfg.meshCryptoFor innerType with
  | none => pure plaintext
  | some crypto => do
      let aad ← secureRouteAad
        ⟨originSenderId, destinationId, ttl, originSeq, innerType, plaintext.length⟩
      encodeSecurePayload A env.urandom crypto.key (.int crypto.securityDomain) crypto.keyId
        crypto.keyEpoch plaintext aad none

/-- The checks and the decryption of `decrypt_mesh_payload`, which leave the
state alone. -/
def openMeshPayload (A : Aead) (crypto : CryptoConfig) (route : RouteData) :
    Py (SecurePayload × Bytes) := do
  let secure ← decodeSecurePayload route.innerPayload
  validateSecureKey secure crypto
  let aad ← secureRouteAad (route.binding secure.plaintextLen)
  let plaintext ← decryptSecurePayload A secure crypto.key aad
  pure (secure, plaintext)

/-- The key of `decrypt_mesh_payload` in the replay window. -/
def meshReplayKey (secure : SecurePayload) (route : RouteData) : List ℤ :=
  [secure.securityDomain, route.originSenderId, secure.keyEpoch, route.originSeq]

/-- `if not secure_replay.remember(key): raise AppFrameError`. -/
def requireFresh (key : List ℤ) : PyM NodeState Unit := do
  let s ← get
  set (s.rememberReplay key)
  raiseIf ((s.secureReplay.remember key).1 = false) (.appFrameError "secure replay detected")

/-- `decrypt_mesh_payload`: the payload and whether it was encrypted. -/
def decryptMeshPayload (A : Aead) (cfg : NodeConfig) (route : RouteData) :
    PyM NodeState (Bytes × Bool) :=
  match cfg.meshCryptoFor route.innerType with
  | none => pure (route.innerPayload, false)
  | some crypto => do
      let (secure, plaintext) ← openMeshPayload A crypto route
      requireFresh (meshReplayKey secure route)
      pure (plaintext, true)

/-- **What opens under the mesh key.** -/
theorem openMeshPayload_eq_ok_iff {A : Aead} {c : CryptoConfig} {r : RouteData}
    {s : SecurePayload} {p : Bytes} :
    openMeshPayload A c r = .ok (s, p) ↔
      s.Valid ∧ s.bytes = r.innerPayload ∧ s.Names c ∧ (r.binding s.plaintextLen).Fits ∧
        A.decrypt c.key s.nonce s.ciphertextAndTag
          (c.authHeader ++ (r.binding s.plaintextLen).bytes) = some p := by
  simp only [openMeshPayload, Py.bind_eq_ok, decodeSecurePayload_eq_ok_iff,
    validateSecureKey_eq_ok, secureRouteAad_eq_ok, Py.pure_eq_ok, Prod.mk.injEq, exists_const]
  constructor
  · rintro ⟨s', ⟨hv, -, hb⟩, hnames, _, ⟨hfit, rfl⟩, p', hdec, rfl, rfl⟩
    obtain ⟨-, hopen⟩ := (decryptSecurePayload_eq_ok_iff hv).mp hdec
    rw [hnames.authHeader_eq hv] at hopen
    exact ⟨hv, hb, hnames, hfit, hopen⟩
  · rintro ⟨hv, hb, hnames, hfit, hopen⟩
    have hreg : securityDomains.Has s.securityDomain := by
      rw [hnames.securityDomain]
      exact c.domain_registered
    rw [← hnames.authHeader_eq hv] at hopen
    exact ⟨s, ⟨hv, hreg, hb⟩, hnames, _, ⟨hfit, rfl⟩, p,
      (decryptSecurePayload_eq_ok_iff hv).mpr ⟨c.key_length, hopen⟩, rfl, rfl⟩

theorem openMeshPayload_onlyAppFrameError {A : Aead} {c : CryptoConfig} {r : RouteData}
    (hr : r.Valid) : Py.OnlyAppFrameError (openMeshPayload A c r) := by
  refine (decodeSecurePayload_onlyAppFrameError _).bind fun s hs => ?_
  obtain ⟨hv, -, hb⟩ := decodeSecurePayload_eq_ok_iff.mp hs
  refine (validateSecureKey_onlyAppFrameError _ _).bind fun _ _ => ?_
  -- The plaintext is shorter than the payload, whose length has a u16 field.
  have hlen : FitsWidth 2 s.plaintextLen := by
    have hpayload := hr.innerPayload.2
    rw [← hb, hv.length_bytes] at hpayload
    refine ⟨hv.plaintextLen_nonneg, ?_⟩
    unfold SecurePayload.plaintextLen
    push_cast at hpayload
    omega
  refine (Py.onlyAppFrameError_of_eq_ok
    (secureRouteAad_eq_ok.mpr ⟨hr.binding_fits hlen, rfl⟩)).bind fun aad _ => ?_
  exact (decryptSecurePayload_onlyAppFrameError hv _ _).bind fun _ _ => Py.onlyAppFrameError_ok _

theorem requireFresh_apply (key : List ℤ) (s : NodeState) :
    requireFresh key s =
      if key ∈ s.secureReplay then .error (.appFrameError "secure replay detected") s
      else .ok () (s.rememberReplay key) := by
  by_cases h : key ∈ s.secureReplay
  · have hstate : s.rememberReplay key = s := by
      rw [NodeState.rememberReplay, FifoSet.remember_of_mem h]
    rw [if_pos h]
    simp only [requireFresh, PyM.bind_apply, PyM.get_apply, PyM.set_apply, PyM.monadLift_apply,
      FifoSet.remember_of_mem h, raiseIf, if_true, PyM.lift_error, hstate]
  · rw [if_neg h]
    simp only [requireFresh, PyM.bind_apply, PyM.get_apply, PyM.set_apply, PyM.monadLift_apply,
      FifoSet.remember_fst, h, raiseIf]
    rfl

theorem requireFresh_bind_eq_ok {α : Type} {key : List ℤ} {f : Unit → PyM NodeState α}
    {s s' : NodeState} {a : α} :
    (requireFresh key >>= f) s = .ok a s' ↔
      ¬ key ∈ s.secureReplay ∧ f () (s.rememberReplay key) = .ok a s' := by
  rw [PyM.bind_apply, requireFresh_apply]
  by_cases h : key ∈ s.secureReplay
  · simp [h]
  · simp [h]

/-- A failed `remember` leaves the state alone, and so does code that then
returns. -/
theorem requireFresh_bind_pure_error {α : Type} {key : List ℤ} {a : α} {s s' : NodeState}
    {e : PyError} (h : (requireFresh key >>= fun _ => pure a) s = .error e s') :
    e = .appFrameError "secure replay detected" ∧ s' = s := by
  rw [PyM.bind_apply, requireFresh_apply] at h
  by_cases hk : key ∈ s.secureReplay
  · rw [if_pos hk] at h
    obtain ⟨rfl, rfl⟩ := EStateM.Result.error.inj h
    exact ⟨rfl, rfl⟩
  · rw [if_neg hk] at h
    cases h

/-- **When `decrypt_mesh_payload` returns**, and what it leaves. -/
theorem decryptMeshPayload_eq_ok_iff {A : Aead} {cfg : NodeConfig} {r : RouteData}
    {s s' : NodeState} {p : Bytes} {secured : Bool} :
    decryptMeshPayload A cfg r s = .ok (p, secured) s' ↔
      (cfg.meshCryptoFor r.innerType = none ∧ r.innerPayload = p ∧ secured = false ∧ s = s') ∨
      ∃ c secure, cfg.meshCryptoFor r.innerType = some c ∧ openMeshPayload A c r = .ok (secure, p) ∧
        ¬ meshReplayKey secure r ∈ s.secureReplay ∧ secured = true ∧
        s.rememberReplay (meshReplayKey secure r) = s' := by
  unfold decryptMeshPayload
  cases hc : cfg.meshCryptoFor r.innerType with
  | none => simp [PyM.pure_apply, and_assoc, eq_comm]
  | some c =>
    simp only [PyM.lift_bind_eq_ok, requireFresh_bind_eq_ok, PyM.pure_apply,
      EStateM.Result.ok.injEq, Prod.mk.injEq, Prod.exists, reduceCtorEq, false_and, false_or,
      Option.some.injEq]
    constructor
    · rintro ⟨secure, p', hopen, hnew, ⟨rfl, rfl⟩, rfl⟩
      exact ⟨c, secure, rfl, hopen, hnew, rfl, rfl⟩
    · rintro ⟨c', secure, rfl, hopen, hnew, rfl, rfl⟩
      exact ⟨secure, p, hopen, hnew, ⟨rfl, rfl⟩, rfl⟩

/-- **`decrypt_mesh_payload` changes the replay window only.** -/
theorem decryptMeshPayload_frame {A : Aead} {cfg : NodeConfig} {r : RouteData} {s s' : NodeState}
    {p : Bytes} {secured : Bool} (h : decryptMeshPayload A cfg r s = .ok (p, secured) s') :
    ∃ replay, s' = { s with secureReplay := replay } := by
  obtain ⟨-, -, -, rfl⟩ | ⟨c, secure, -, -, -, -, rfl⟩ := decryptMeshPayload_eq_ok_iff.mp h
  · exact ⟨s.secureReplay, rfl⟩
  · exact ⟨_, rfl⟩

/-- **A failed `decrypt_mesh_payload` leaves the state alone**, a detected replay
included. -/
theorem decryptMeshPayload_error {A : Aead} {cfg : NodeConfig} {r : RouteData}
    {s s' : NodeState} {e : PyError} (h : decryptMeshPayload A cfg r s = .error e s') :
    s' = s ∧ ∃ c, cfg.meshCryptoFor r.innerType = some c ∧
      (openMeshPayload A c r = .error e ∨ e = .appFrameError "secure replay detected") := by
  unfold decryptMeshPayload at h
  cases hc : cfg.meshCryptoFor r.innerType with
  | none =>
    simp only [hc] at h
    cases h
  | some c =>
    simp only [hc, PyM.lift_bind_eq_error] at h
    obtain ⟨hopen, rfl⟩ | ⟨opened, -, h⟩ := h
    · exact ⟨rfl, c, rfl, Or.inl hopen⟩
    · obtain ⟨rfl, rfl⟩ := requireFresh_bind_pure_error h
      exact ⟨rfl, c, rfl, Or.inr rfl⟩

/-! ### `route_v2` under an end-to-end key -/

/-- What the associated data of a `route_v2` packet binds. -/
def RouteDataV2.binding (r : RouteDataV2) (plaintextLen : ℤ) : E2eBinding :=
  ⟨r.originType, r.originId, r.destinationType, r.destinationId, r.originSeq, r.trafficClass,
    r.innerType, plaintextLen⟩

/-- `e2e_crypto_for_outbound`. -/
def e2eCryptoForOutbound (cfg : NodeConfig) (routeTrafficClass : ℤ) : Option CryptoConfig :=
  if routeTrafficClass = trafficC2Uplink then cfg.c2UplinkCrypto
  else if routeTrafficClass = trafficC2Downlink then cfg.c2DownlinkCrypto
  else none

/-- `e2e_crypto_for_inbound`. -/
def e2eCryptoForInbound (cfg : NodeConfig) (route : RouteDataV2) (secure : SecurePayload) :
    Option CryptoConfig :=
  if route.trafficClass = trafficC2Uplink then
    if route.destinationType = addrC2 ∧ cfg.originType = addrC2 then
      cfg.c2UplinkKeyring.get secure.securityDomain secure.keyId secure.keyEpoch
    else none
  else if route.trafficClass = trafficC2Downlink then
    if route.destinationType = addrNode ∧ cfg.originType = addrNode then
      cfg.c2DownlinkKeyring.get secure.securityDomain secure.keyId secure.keyEpoch
    else none
  else none

/-- `encrypt_e2e_payload`: the payload and the key it is under. -/
def encryptE2ePayload (A : Aead) (cfg : NodeConfig) (env : Env)
    (originType originId destinationType destinationId originSeq trafficClass innerType : ℤ)
    (plaintext : Bytes) : Py (Bytes × CryptoConfig) :=
  match e2eCryptoForOutbound cfg trafficClass with
  | none => .error (.appFrameError ("no E2E crypto configured for traffic_class=" ++
      trafficClassName trafficClass))
  | some crypto => do
      let aad ← routeV2E2eAad ⟨originType, originId, destinationType, destinationId, originSeq,
        trafficClass, innerType, plaintext.length⟩
      let payload ← encodeSecurePayload A env.urandom crypto.key (.int crypto.securityDomain)
        crypto.keyId crypto.keyEpoch plaintext aad none
      pure (payload, crypto)

/-- The checks and the decryption of `decrypt_e2e_payload`, which leave the state
alone. -/
def openE2ePayload (A : Aead) (cfg : NodeConfig) (route : RouteDataV2) :
    Py (SecurePayload × Bytes) := do
  let secure ← decodeSecurePayload route.innerPayload
  match e2eCryptoForInbound cfg route secure with
  | none => .error (.appFrameError "no matching local E2E key for this endpoint")
  | some crypto => do
      validateSecureKey secure crypto
      let aad ← routeV2E2eAad (route.binding secure.plaintextLen)
      let plaintext ← decryptSecurePayload A secure crypto.key aad
      pure (secure, plaintext)

/-- The key of `decrypt_e2e_payload` in the replay window. -/
def e2eReplayKey (secure : SecurePayload) (route : RouteDataV2) : List ℤ :=
  [secure.securityDomain, route.originType, route.originId, secure.keyEpoch, route.originSeq]

/-- `decrypt_e2e_payload`. -/
def decryptE2ePayload (A : Aead) (cfg : NodeConfig) (route : RouteDataV2) :
    PyM NodeState (Bytes × SecurePayload) := do
  let (secure, plaintext) ← openE2ePayload A cfg route
  requireFresh (e2eReplayKey secure route)
  pure (plaintext, secure)

/-- The key found for a packet is the one its wrapper names. -/
theorem e2eCryptoForInbound_names {cfg : NodeConfig} {r : RouteDataV2} {s : SecurePayload}
    {c : CryptoConfig} (h : e2eCryptoForInbound cfg r s = some c) : s.Names c := by
  have hget : ∀ {ring : Keyring}, ring.get s.securityDomain s.keyId s.keyEpoch = some c →
      s.Names c := fun hring => by
    obtain ⟨-, hd, hk, he⟩ := Keyring.get_eq_some hring
    exact ⟨hd.symm, hk.symm, he.symm⟩
  unfold e2eCryptoForInbound at h
  split at h
  · split at h
    · exact hget h
    · cases h
  · split at h
    · split at h
      · exact hget h
      · cases h
    · cases h

/-- The key found for a packet is one of the node's. -/
theorem e2eCryptoForInbound_mem {cfg : NodeConfig} {r : RouteDataV2} {s : SecurePayload}
    {c : CryptoConfig} (h : e2eCryptoForInbound cfg r s = some c) :
    c ∈ cfg.c2UplinkKeyring ++ cfg.c2DownlinkKeyring := by
  unfold e2eCryptoForInbound at h
  split at h
  · split at h
    · exact List.mem_append_left _ (Keyring.get_eq_some h).1
    · cases h
  · split at h
    · split at h
      · exact List.mem_append_right _ (Keyring.get_eq_some h).1
      · cases h
    · cases h

/-- **What opens under an end-to-end key.** -/
theorem openE2ePayload_eq_ok_iff {A : Aead} {cfg : NodeConfig} {r : RouteDataV2}
    {s : SecurePayload} {p : Bytes} :
    openE2ePayload A cfg r = .ok (s, p) ↔
      s.Valid ∧ s.bytes = r.innerPayload ∧ ∃ c, e2eCryptoForInbound cfg r s = some c ∧
        (r.binding s.plaintextLen).Valid ∧
        A.decrypt c.key s.nonce s.ciphertextAndTag
          (c.authHeader ++ (r.binding s.plaintextLen).bytes) = some p := by
  simp only [openE2ePayload, Py.bind_eq_ok, decodeSecurePayload_eq_ok_iff]
  constructor
  · rintro ⟨s', ⟨hv, -, hb⟩, h⟩
    cases hc : e2eCryptoForInbound cfg r s' with
    | none =>
      rw [hc] at h
      cases h
    | some c =>
      rw [hc] at h
      simp only [Py.bind_eq_ok, validateSecureKey_eq_ok, routeV2E2eAad_eq_ok, Py.pure_eq_ok,
        Prod.mk.injEq, exists_const] at h
      obtain ⟨hnames, _, ⟨hvalid, rfl⟩, p', hdec, rfl, rfl⟩ := h
      obtain ⟨-, hopen⟩ := (decryptSecurePayload_eq_ok_iff hv).mp hdec
      rw [hnames.authHeader_eq hv] at hopen
      exact ⟨hv, hb, c, hc, hvalid, hopen⟩
  · rintro ⟨hv, hb, c, hc, hvalid, hopen⟩
    have hnames := e2eCryptoForInbound_names hc
    have hreg : securityDomains.Has s.securityDomain := by
      rw [hnames.securityDomain]
      exact c.domain_registered
    rw [← hnames.authHeader_eq hv] at hopen
    refine ⟨s, ⟨hv, hreg, hb⟩, ?_⟩
    rw [hc]
    simp only [Py.bind_eq_ok, validateSecureKey_eq_ok, routeV2E2eAad_eq_ok, Py.pure_eq_ok,
      Prod.mk.injEq, exists_const, true_and]
    exact ⟨hnames, _, ⟨hvalid, rfl⟩, p,
      (decryptSecurePayload_eq_ok_iff hv).mpr ⟨c.key_length, hopen⟩, rfl⟩

theorem openE2ePayload_onlyAppFrameError (A : Aead) (cfg : NodeConfig) (r : RouteDataV2) :
    Py.OnlyAppFrameError (openE2ePayload A cfg r) := by
  refine (decodeSecurePayload_onlyAppFrameError _).bind fun s hs => ?_
  obtain ⟨hv, -, -⟩ := decodeSecurePayload_eq_ok_iff.mp hs
  cases e2eCryptoForInbound cfg r s with
  | none => exact fun e he => ⟨_, (Except.error.inj he).symm⟩
  | some c =>
    refine (validateSecureKey_onlyAppFrameError _ _).bind fun _ _ => ?_
    refine (encodeRouteV2E2eAssociatedData_onlyAppFrameError _ _ _ _ _ _ _ _).bind fun aad _ => ?_
    exact (decryptSecurePayload_onlyAppFrameError hv _ _).bind fun _ _ => Py.onlyAppFrameError_ok _

/-- **When `decrypt_e2e_payload` returns**, and what it leaves. -/
theorem decryptE2ePayload_eq_ok_iff {A : Aead} {cfg : NodeConfig} {r : RouteDataV2}
    {s s' : NodeState} {p : Bytes} {secure : SecurePayload} :
    decryptE2ePayload A cfg r s = .ok (p, secure) s' ↔
      openE2ePayload A cfg r = .ok (secure, p) ∧ ¬ e2eReplayKey secure r ∈ s.secureReplay ∧
        s.rememberReplay (e2eReplayKey secure r) = s' := by
  simp only [decryptE2ePayload, PyM.lift_bind_eq_ok, requireFresh_bind_eq_ok, PyM.pure_apply,
    EStateM.Result.ok.injEq, Prod.mk.injEq, Prod.exists]
  constructor
  · rintro ⟨secure', p', hopen, hnew, ⟨rfl, rfl⟩, rfl⟩
    exact ⟨hopen, hnew, rfl⟩
  · rintro ⟨hopen, hnew, rfl⟩
    exact ⟨secure, p, hopen, hnew, ⟨rfl, rfl⟩, rfl⟩

/-- **`decrypt_e2e_payload` changes the replay window only.** -/
theorem decryptE2ePayload_frame {A : Aead} {cfg : NodeConfig} {r : RouteDataV2} {s s' : NodeState}
    {p : Bytes} {secure : SecurePayload} (h : decryptE2ePayload A cfg r s = .ok (p, secure) s') :
    ∃ replay, s' = { s with secureReplay := replay } := by
  obtain ⟨-, -, rfl⟩ := decryptE2ePayload_eq_ok_iff.mp h
  exact ⟨_, rfl⟩

/-- **A failed `decrypt_e2e_payload` leaves the state alone**, a detected replay
included. -/
theorem decryptE2ePayload_error {A : Aead} {cfg : NodeConfig} {r : RouteDataV2}
    {s s' : NodeState} {e : PyError} (h : decryptE2ePayload A cfg r s = .error e s') :
    s' = s ∧ (openE2ePayload A cfg r = .error e ∨ e = .appFrameError "secure replay detected") := by
  simp only [decryptE2ePayload, PyM.lift_bind_eq_error] at h
  obtain ⟨hopen, rfl⟩ | ⟨opened, -, h⟩ := h
  · exact ⟨rfl, Or.inl hopen⟩
  · obtain ⟨rfl, rfl⟩ := requireFresh_bind_pure_error h
    exact ⟨rfl, Or.inr rfl⟩

/-! ### Encryption -/

/-- **What `encrypt_mesh_payload` returns**, per kind of packet. -/
theorem encryptMeshPayload_eq_ok_iff (A : Aead) (cfg : NodeConfig) (env : Env) (d : RouteBinding)
    {p b : Bytes} (hlen : d.plaintextLen = p.length) :
    encryptMeshPayload A cfg env d.originSenderId d.destinationId d.ttl d.originSeq d.innerType p =
        .ok b ↔
      (cfg.meshCryptoFor d.innerType = none ∧ p = b) ∨
      ∃ c, cfg.meshCryptoFor d.innerType = some c ∧ d.Fits ∧
        (c.wrap A env.urandom p d.bytes).bytes = b := by
  unfold encryptMeshPayload
  cases hc : cfg.meshCryptoFor d.innerType with
  | none => simp [Py.pure_eq_ok]
  | some c =>
    rw [← hlen]
    simp only [Py.bind_eq_ok, secureRouteAad_eq_ok, c.encodeSecurePayload_eq, Except.ok.injEq,
      reduceCtorEq, false_and, Option.some.injEq, exists_eq_left', false_or]
    constructor
    · rintro ⟨_, ⟨hfit, rfl⟩, rfl⟩
      exact ⟨hfit, rfl⟩
    · rintro ⟨hfit, rfl⟩
      exact ⟨_, ⟨hfit, rfl⟩, rfl⟩

/-- **What `encrypt_e2e_payload` returns.** -/
theorem encryptE2ePayload_eq_ok_iff (A : Aead) (cfg : NodeConfig) (env : Env) (d : E2eBinding)
    {p b : Bytes} {c : CryptoConfig} (hlen : d.plaintextLen = p.length) :
    encryptE2ePayload A cfg env d.originType d.originId d.destinationType d.destinationId
        d.originSeq d.trafficClass d.innerType p = .ok (b, c) ↔
      e2eCryptoForOutbound cfg d.trafficClass = some c ∧ d.Valid ∧
        (c.wrap A env.urandom p d.bytes).bytes = b := by
  unfold encryptE2ePayload
  cases hc : e2eCryptoForOutbound cfg d.trafficClass with
  | none => simp
  | some c' =>
    rw [← hlen]
    simp only [Py.bind_eq_ok, routeV2E2eAad_eq_ok, c'.encodeSecurePayload_eq, Except.ok.injEq,
      Py.pure_eq_ok, Prod.mk.injEq, Option.some.injEq, exists_eq_left']
    constructor
    · rintro ⟨_, ⟨hvalid, rfl⟩, rfl, rfl⟩
      exact ⟨rfl, hvalid, rfl⟩
    · rintro ⟨rfl, hvalid, rfl⟩
      exact ⟨_, ⟨hvalid, rfl⟩, rfl, rfl⟩

/-- End-to-end encryption raises nothing but `AppFrameError`. -/
theorem encryptE2ePayload_onlyAppFrameError (A : Aead) (cfg : NodeConfig) (env : Env)
    (originType originId destinationType destinationId originSeq trafficClass innerType : ℤ)
    (p : Bytes) :
    Py.OnlyAppFrameError (encryptE2ePayload A cfg env originType originId destinationType
      destinationId originSeq trafficClass innerType p) := by
  unfold encryptE2ePayload
  split
  · exact fun e he => ⟨_, (Except.error.inj he).symm⟩
  rename_i c hc
  refine (encodeRouteV2E2eAssociatedData_onlyAppFrameError _ _ _ _ _ _ _ _).bind fun aad _ => ?_
  exact (Py.onlyAppFrameError_of_eq_ok (c.encodeSecurePayload_eq A env p aad)).bind fun _ _ =>
    Py.onlyAppFrameError_ok _

/-! ### Which encryptions a call performs -/

/-- The encryptions of one `encrypt_mesh_payload` call. -/
def encryptMeshSealings (A : Aead) (cfg : NodeConfig) (env : Env) (d : RouteBinding)
    (plaintext : Bytes) : List Sealed :=
  match cfg.meshCryptoFor d.innerType, secureRouteAad d with
  | some crypto, .ok aad => [crypto.sealing A env.urandom plaintext aad]
  | _, _ => []

/-- The encryptions of one `encrypt_e2e_payload` call. -/
def encryptE2eSealings (A : Aead) (cfg : NodeConfig) (env : Env) (d : E2eBinding)
    (plaintext : Bytes) : List Sealed :=
  match e2eCryptoForOutbound cfg d.trafficClass, routeV2E2eAad d with
  | some crypto, .ok aad => [crypto.sealing A env.urandom plaintext aad]
  | _, _ => []

theorem mem_encryptMeshSealings {A : Aead} {cfg : NodeConfig} {env : Env} {d : RouteBinding}
    {p : Bytes} {e : Sealed} :
    e ∈ encryptMeshSealings A cfg env d p ↔ ∃ c, cfg.meshCryptoFor d.innerType = some c ∧ d.Fits ∧
      e = c.sealing A env.urandom p d.bytes := by
  unfold encryptMeshSealings
  constructor
  · intro h
    split at h
    · rename_i c aad hc haad
      obtain ⟨hfits, rfl⟩ := secureRouteAad_eq_ok.mp haad
      exact ⟨c, hc, hfits, List.mem_singleton.mp h⟩
    · cases h
  · rintro ⟨c, hc, hfits, rfl⟩
    rw [hc, secureRouteAad_eq_ok.mpr ⟨hfits, rfl⟩]
    exact List.mem_singleton_self _

theorem mem_encryptE2eSealings {A : Aead} {cfg : NodeConfig} {env : Env} {d : E2eBinding}
    {p : Bytes} {e : Sealed} :
    e ∈ encryptE2eSealings A cfg env d p ↔ ∃ c, e2eCryptoForOutbound cfg d.trafficClass = some c ∧
      d.Valid ∧ e = c.sealing A env.urandom p d.bytes := by
  unfold encryptE2eSealings
  constructor
  · intro h
    split at h
    · rename_i c aad hc haad
      obtain ⟨hvalid, rfl⟩ := routeV2E2eAad_eq_ok.mp haad
      exact ⟨c, hc, hvalid, List.mem_singleton.mp h⟩
    · cases h
  · rintro ⟨c, hc, hvalid, rfl⟩
    rw [hc, routeV2E2eAad_eq_ok.mpr ⟨hvalid, rfl⟩]
    exact List.mem_singleton_self _

/-- **No encryption goes unrecorded**: what `encrypt_mesh_payload` returns under a key is
the wrapper around the ciphertext of a recorded encryption. -/
theorem encryptMeshPayload_recorded {A : Aead} {cfg : NodeConfig} {env : Env} {d : RouteBinding}
    {p b : Bytes} (hlen : d.plaintextLen = p.length)
    (h : encryptMeshPayload A cfg env d.originSenderId d.destinationId d.ttl d.originSeq d.innerType
      p = .ok b) :
    (cfg.meshCryptoFor d.innerType = none ∧ p = b) ∨
      ∃ e ∈ encryptMeshSealings A cfg env d p, ∃ w : SecurePayload, w.bytes = b ∧
        w.nonce = e.nonce ∧ w.ciphertextAndTag = e.ciphertext := by
  obtain hclear | ⟨c, hc, hfits, rfl⟩ := (encryptMeshPayload_eq_ok_iff A cfg env d hlen).mp h
  · exact Or.inl hclear
  · exact Or.inr ⟨_, mem_encryptMeshSealings.mpr ⟨c, hc, hfits, rfl⟩, _, rfl, rfl, rfl⟩

/-- The same for `encrypt_e2e_payload`, which never returns a payload in the clear. -/
theorem encryptE2ePayload_recorded {A : Aead} {cfg : NodeConfig} {env : Env} {d : E2eBinding}
    {p b : Bytes} {c : CryptoConfig} (hlen : d.plaintextLen = p.length)
    (h : encryptE2ePayload A cfg env d.originType d.originId d.destinationType d.destinationId
      d.originSeq d.trafficClass d.innerType p = .ok (b, c)) :
    ∃ e ∈ encryptE2eSealings A cfg env d p, ∃ w : SecurePayload, w.bytes = b ∧
      w.nonce = e.nonce ∧ w.ciphertextAndTag = e.ciphertext := by
  obtain ⟨hc, hvalid, rfl⟩ := (encryptE2ePayload_eq_ok_iff A cfg env d hlen).mp h
  exact ⟨_, mem_encryptE2eSealings.mpr ⟨c, hc, hvalid, rfl⟩, _, rfl, rfl, rfl⟩

/-- An encryption under `c` and the associated data of a packet binds that packet:
it is no end-to-end encryption, and no other packet's. -/
theorem CryptoConfig.sealing_aad_eq {c c' : CryptoConfig} {A : Aead} {nonce p : Bytes}
    {d d' : RouteBinding} (hd : d.Fits) (hd' : d'.Fits)
    (h : (c'.sealing A nonce p d'.bytes).aad = c.authHeader ++ d.bytes) : d' = d := by
  have happend : c'.authHeader ++ d'.bytes = c.authHeader ++ d.bytes := h
  obtain ⟨-, hbytes⟩ := List.append_inj happend (by rw [length_authHeader, length_authHeader])
  exact RouteBinding.bytes_inj hd' hd hbytes

theorem CryptoConfig.sealing_aad_ne {c c' : CryptoConfig} {A : Aead} {nonce p : Bytes}
    {d : RouteBinding} {d' : E2eBinding} :
    (c'.sealing A nonce p d'.bytes).aad ≠ c.authHeader ++ d.bytes := by
  intro h
  have happend : c'.authHeader ++ d'.bytes = c.authHeader ++ d.bytes := h
  obtain ⟨-, hbytes⟩ := List.append_inj happend (by rw [length_authHeader, length_authHeader])
  exact d.bytes_ne d' hbytes.symm

end KovaWfb
