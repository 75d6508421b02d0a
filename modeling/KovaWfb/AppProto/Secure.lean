/-
# The secure wrapper of `app_proto` and the data it authenticates

`python/src/wfb_rs_py/app_proto.py`, lines 236 to 254 (`SecurePayload`), 710 to
764 (the associated data of an end-to-end payload) and 767 to 880 (the wrapper).

The cipher is a parameter: the wrapper calls it with the key, the nonce and
`authHeader ++ associatedData`, where `authHeader` is the eight header bytes of
version, domain, key id and epoch.  As with the plain codecs, `encode` and
`decode` are inverted once (`encodeSecurePayload_eq_ok_iff`,
`decodeSecurePayload_eq_ok_iff`), and what the associated data pins down is
`E2eBinding.bytes_inj`.
-/

import KovaWfb.AppProto.Codec
import KovaWfb.Lib.Aead

namespace KovaWfb

/-- `class SecurePayload`. -/
@[ext]
structure SecurePayload where
  secureVersion : ℤ
  securityDomain : ℤ
  keyId : ℤ
  keyEpoch : ℤ
  nonce : Bytes
  ciphertextAndTag : Bytes
  deriving DecidableEq, Repr

/-- `SecurePayload.plaintext_len`. -/
def SecurePayload.plaintextLen (s : SecurePayload) : ℤ :=
  (s.ciphertextAndTag.length : ℤ) - chacha20Poly1305TagSize

/-- `_require_aead_key`. -/
def requireAeadKey (key : Bytes) : Py Unit :=
  raiseIf (key.length ≠ chacha20Poly1305KeySize)
    (.appFrameError ("ChaCha20-Poly1305 key must be " ++
      s!"{chacha20Poly1305KeySize} bytes, got {key.length}"))

/-- `SECURE_PAYLOAD.pack`, whose last field `12s` is padded or cut to size. -/
def packSecurePayload (secureVersion securityDomain keyId keyEpoch : ℤ) (nonce : Bytes) :
    Py Bytes := do
  let header ← pack [(1, secureVersion), (1, securityDomain), (2, keyId), (4, keyEpoch)]
  pure (header ++ (nonce ++ List.replicate chacha20Poly1305NonceSize 0).take
    chacha20Poly1305NonceSize)

/-- `_secure_auth_header`. -/
def secureAuthHeader (secureVersion securityDomain keyId keyEpoch : ℤ) : Py Bytes := do
  let packed ← packSecurePayload secureVersion securityDomain keyId keyEpoch
    (List.replicate chacha20Poly1305NonceSize 0)
  pure (packed.take 8)

/-- `_secure_aad`. -/
def secureAad (payload : SecurePayload) (associatedData : Bytes) : Py Bytes := do
  let authHeader ← secureAuthHeader payload.secureVersion payload.securityDomain payload.keyId
    payload.keyEpoch
  pure (authHeader ++ associatedData)

/-- `encode_secure_payload`; `urandom` is what `os.urandom` returns, used when no
nonce is given. -/
def encodeSecurePayload (A : Aead) (urandom : Bytes) (key : Bytes) (securityDomain : NameOrInt)
    (keyId keyEpoch : ℤ) (plaintext associatedData : Bytes) (nonce : Option Bytes) :
    Py Bytes := do
  requireAeadKey key
  let domain ← securityDomainValue securityDomain
  requireU16 "key_id" keyId
  requireU32 "key_epoch" keyEpoch
  let nonce := nonce.getD urandom
  raiseIf (nonce.length ≠ chacha20Poly1305NonceSize)
    (.appFrameError ("ChaCha20-Poly1305 nonce must be " ++
      s!"{chacha20Poly1305NonceSize} bytes, got {nonce.length}"))
  let authHeader ← secureAuthHeader secureVersion domain keyId keyEpoch
  let ciphertextAndTag := A.encrypt key nonce plaintext (authHeader ++ associatedData)
  let header ← packSecurePayload secureVersion domain keyId keyEpoch nonce
  pure (header ++ ciphertextAndTag)

/-- `decode_secure_payload`. -/
def decodeSecurePayload (payload : Bytes) : Py SecurePayload := do
  raiseIf (payload.length < securePayloadSize + chacha20Poly1305TagSize)
    (.appFrameError ("secure payload too short: " ++
      s!"{payload.length} < {securePayloadSize + chacha20Poly1305TagSize}"))
  let secureVersion := unpack payload 0 1
  let domain := unpack payload 1 1
  let keyId := unpack payload 2 2
  let keyEpoch := unpack payload 4 4
  let nonce := (payload.drop 8).take chacha20Poly1305NonceSize
  let ciphertextAndTag := payload.drop securePayloadSize
  raiseIf (secureVersion ≠ KovaWfb.secureVersion)
    (.appFrameError s!"unsupported secure_version: {secureVersion}")
  raiseIf (¬ securityDomains.Has domain)
    (.appFrameError ("unknown security_domain: " ++ hexByteText domain))
  pure { secureVersion, securityDomain := domain, keyId, keyEpoch, nonce,
         ciphertextAndTag }

/-- `decrypt_secure_payload`. -/
def decryptSecurePayload (A : Aead) (payload : SecurePayload) (key associatedData : Bytes) :
    Py Bytes := do
  requireAeadKey key
  let aad ← secureAad payload associatedData
  match A.decrypt key payload.nonce payload.ciphertextAndTag aad with
  | some plaintext => pure plaintext
  | none => .error (.appFrameError "secure payload authentication failed")

/-- The fields of a secure wrapper fit the format. -/
structure SecurePayload.Valid (s : SecurePayload) : Prop where
  secureVersion : s.secureVersion = KovaWfb.secureVersion
  securityDomain : FitsWidth 1 s.securityDomain
  keyId : FitsWidth 2 s.keyId
  keyEpoch : FitsWidth 4 s.keyEpoch
  nonce : s.nonce.length = chacha20Poly1305NonceSize
  ciphertextAndTag : chacha20Poly1305TagSize ≤ s.ciphertextAndTag.length

/-- The header fields that are authenticated. -/
def SecurePayload.header (s : SecurePayload) : List (ℕ × ℤ) :=
  [(1, s.secureVersion), (1, s.securityDomain), (2, s.keyId), (4, s.keyEpoch)]

/-- The eight authenticated header bytes. -/
def SecurePayload.authHeader (s : SecurePayload) : Bytes := packBytes s.header

/-- The wire image of a secure wrapper. -/
def SecurePayload.bytes (s : SecurePayload) : Bytes :=
  s.authHeader ++ (s.nonce ++ s.ciphertextAndTag)

theorem SecurePayload.Valid.fits {s : SecurePayload} (h : s.Valid) :
    ∀ x ∈ s.header, FitsWidth x.1 x.2 := by
  have hver : FitsWidth 1 s.secureVersion := by rw [h.secureVersion]; decide
  simp [SecurePayload.header, hver, h.securityDomain, h.keyId, h.keyEpoch]

theorem SecurePayload.length_authHeader (s : SecurePayload) : s.authHeader.length = 8 := by
  rw [SecurePayload.authHeader, length_packBytes]
  rfl

theorem SecurePayload.Valid.length_bytes {s : SecurePayload} (h : s.Valid) :
    s.bytes.length = securePayloadSize + s.ciphertextAndTag.length := by
  rw [SecurePayload.bytes, List.length_append, List.length_append, s.length_authHeader, h.nonce]
  simp only [securePayloadSize, chacha20Poly1305NonceSize]
  omega

theorem SecurePayload.Valid.plaintextLen_nonneg {s : SecurePayload} (h : s.Valid) :
    0 ≤ s.plaintextLen := by
  have hct := h.ciphertextAndTag
  unfold SecurePayload.plaintextLen
  omega

@[simp] theorem requireAeadKey_eq_ok {key : Bytes} {u : Unit} :
    requireAeadKey key = .ok u ↔ key.length = chacha20Poly1305KeySize := by
  rw [requireAeadKey, raiseIf_eq_ok, not_not]

theorem packSecurePayload_eq_ok {v d k e : ℤ} {nonce b : Bytes}
    (hn : nonce.length = chacha20Poly1305NonceSize) :
    packSecurePayload v d k e nonce = .ok b ↔
      (∀ x ∈ [(1, v), (1, d), (2, k), (4, e)], FitsWidth x.1 x.2) ∧
        packBytes [(1, v), (1, d), (2, k), (4, e)] ++ nonce = b := by
  rw [packSecurePayload, Py.bind_eq_ok]
  rw [← hn, List.take_left]
  simp only [pack_eq_ok, Py.pure_eq_ok]
  constructor
  · rintro ⟨_, ⟨hfit, rfl⟩, rfl⟩
    exact ⟨hfit, rfl⟩
  · rintro ⟨hfit, rfl⟩
    exact ⟨_, ⟨hfit, rfl⟩, rfl⟩

theorem secureAuthHeader_eq_ok {v d k e : ℤ} {b : Bytes} :
    secureAuthHeader v d k e = .ok b ↔
      (∀ x ∈ [(1, v), (1, d), (2, k), (4, e)], FitsWidth x.1 x.2) ∧
        packBytes [(1, v), (1, d), (2, k), (4, e)] = b := by
  have hlen : (packBytes [(1, v), (1, d), (2, k), (4, e)]).length = 8 := length_packBytes _
  simp only [secureAuthHeader, Py.bind_eq_ok, packSecurePayload_eq_ok List.length_replicate,
    Py.pure_eq_ok]
  constructor
  · rintro ⟨_, ⟨hfit, rfl⟩, rfl⟩
    exact ⟨hfit, by rw [← hlen, List.take_left]⟩
  · rintro ⟨hfit, rfl⟩
    exact ⟨_, ⟨hfit, rfl⟩, by rw [← hlen, List.take_left]⟩

/-- The associated data of a decoded wrapper never fails to be built. -/
theorem secureAad_eq {s : SecurePayload} (h : s.Valid) (associatedData : Bytes) :
    secureAad s associatedData = .ok (s.authHeader ++ associatedData) := by
  rw [secureAad, secureAuthHeader_eq_ok.mpr ⟨h.fits, rfl⟩]
  rfl

/-- **`encode_secure_payload` accepts the arguments of valid wrappers**, and
calls the cipher once, under the header it writes. -/
theorem encodeSecurePayload_eq_ok_iff {A : Aead} {urandom key plaintext ad b : Bytes}
    {m : NameOrInt} {keyId keyEpoch : ℤ} {nonce : Option Bytes} :
    encodeSecurePayload A urandom key m keyId keyEpoch plaintext ad nonce = .ok b ↔
      key.length = chacha20Poly1305KeySize ∧ ∃ d, securityDomainValue m = .ok d ∧
        FitsWidth 2 keyId ∧ FitsWidth 4 keyEpoch ∧
        (nonce.getD urandom).length = chacha20Poly1305NonceSize ∧
        SecurePayload.bytes ⟨secureVersion, d, keyId, keyEpoch, nonce.getD urandom,
          A.encrypt key (nonce.getD urandom) plaintext
            (SecurePayload.authHeader ⟨secureVersion, d, keyId, keyEpoch, [], []⟩ ++ ad)⟩ = b := by
  simp only [encodeSecurePayload, Py.bind_eq_ok, requireAeadKey_eq_ok, requireU16_eq_ok,
    requireU32_eq_ok, raiseIf_eq_ok, secureAuthHeader_eq_ok, Py.pure_eq_ok, exists_const]
  refine and_congr_right fun hkey => exists_congr fun d => and_congr_right fun hd => ?_
  have hd1 : FitsWidth 1 d := namedValue_fits securityDomains_bytewise hd
  constructor
  · rintro ⟨hk, he, hn, _, ⟨hfit, rfl⟩, header, hheader, rfl⟩
    obtain ⟨-, rfl⟩ := (packSecurePayload_eq_ok (not_not.mp hn)).mp hheader
    exact ⟨hk, he, not_not.mp hn, (List.append_assoc ..).symm⟩
  · rintro ⟨hk, he, hn, rfl⟩
    have hfit : ∀ x ∈ [(1, secureVersion), (1, d), (2, keyId), (4, keyEpoch)],
        FitsWidth x.1 x.2 := by
      have hver : FitsWidth 1 secureVersion := by decide
      simp [hver, hd1, hk, he]
    exact ⟨hk, he, not_not.mpr hn, _, ⟨hfit, rfl⟩, _, (packSecurePayload_eq_ok hn).mpr ⟨hfit, rfl⟩,
      List.append_assoc ..⟩

/-- **`decode_secure_payload` accepts the images of valid wrappers with a
registered domain.** -/
theorem decodeSecurePayload_eq_ok_iff {b : Bytes} {s : SecurePayload} :
    decodeSecurePayload b = .ok s ↔
      s.Valid ∧ securityDomains.Has s.securityDomain ∧ s.bytes = b := by
  simp only [decodeSecurePayload, Py.bind_eq_ok, raiseIf_eq_ok, Py.pure_eq_ok, exists_const]
  constructor
  · rintro ⟨hlen, hver, hdom, rfl⟩
    have hlen' : securePayloadSize + chacha20Poly1305TagSize ≤ b.length := not_lt.mp hlen
    simp only [securePayloadSize, chacha20Poly1305TagSize] at hlen'
    have himage := packBytes_fieldsAt_append_drop b [1, 1, 2, 4] (by
      simp only [List.sum_cons, List.sum_nil]; omega)
    refine ⟨⟨not_not.mp hver, unpack_fits _ _ _, unpack_fits _ _ _, unpack_fits _ _ _, ?_, ?_⟩,
      not_not.mp hdom, ?_⟩
    · simp only [List.length_take, List.length_drop, chacha20Poly1305NonceSize]
      omega
    · simp only [List.length_drop, securePayloadSize, chacha20Poly1305TagSize]
      omega
    · have hrest : (b.drop 8).take chacha20Poly1305NonceSize ++ b.drop securePayloadSize =
          b.drop 8 := by
        have hsplit : (b.drop 8).drop chacha20Poly1305NonceSize = b.drop securePayloadSize :=
          List.drop_drop
        rw [← hsplit, List.take_append_drop]
      rw [SecurePayload.bytes]
      simp only [hrest]
      exact himage
  · rintro ⟨hv, hdom, hb⟩
    obtain ⟨-, hfields, hdrop⟩ := packBytes_append_eq hv.fits hb
    have hlen : b.length = securePayloadSize + s.ciphertextAndTag.length := by
      rw [← hb, hv.length_bytes]
    have hct := hv.ciphertextAndTag
    change b.drop 8 = _ at hdrop
    have hdrop' : b.drop securePayloadSize = s.ciphertextAndTag := by
      have hsplit : (b.drop 8).drop chacha20Poly1305NonceSize = b.drop securePayloadSize :=
        List.drop_drop
      rw [← hsplit, hdrop, ← hv.nonce, List.drop_left]
    simp only [SecurePayload.header, List.map_cons, List.map_nil, fieldsAt, List.cons.injEq,
      Prod.mk.injEq, true_and, and_true, Nat.reduceAdd] at hfields
    obtain ⟨h0, h1, h2, h3⟩ := hfields
    rw [hdrop, hdrop', ← hv.nonce, List.take_left, h0, h1, h2, h3]
    exact ⟨by omega, not_not.mpr hv.secureVersion, not_not.mpr hdom, rfl⟩

/-- **`decrypt_secure_payload` returns what the cipher opens** under the
wrapper's own header and the associated data. -/
theorem decryptSecurePayload_eq_ok_iff {A : Aead} {s : SecurePayload} (h : s.Valid)
    {key ad p : Bytes} :
    decryptSecurePayload A s key ad = .ok p ↔
      key.length = chacha20Poly1305KeySize ∧
        A.decrypt key s.nonce s.ciphertextAndTag (s.authHeader ++ ad) = some p := by
  simp only [decryptSecurePayload, Py.bind_eq_ok, requireAeadKey_eq_ok, secureAad_eq h,
    Except.ok.injEq, exists_eq_left', exists_const]
  refine and_congr_right fun _ => ?_
  cases A.decrypt key s.nonce s.ciphertextAndTag (s.authHeader ++ ad) with
  | none => simp
  | some q => simp [Py.pure_eq_ok]

/-- **Two valid wrappers with the same image are equal.** -/
theorem SecurePayload.bytes_inj {s s' : SecurePayload} (h : s.Valid) (h' : s'.Valid)
    (he : s.bytes = s'.bytes) : s = s' := by
  obtain ⟨hheader, hrest⟩ := packBytes_inj h.fits h'.fits rfl he
  obtain ⟨hnonce, hct⟩ := List.append_inj hrest (by rw [h.nonce, h'.nonce])
  simp only [SecurePayload.header, List.cons.injEq, Prod.mk.injEq, true_and, and_true] at hheader
  obtain ⟨h0, h1, h2, h3⟩ := hheader
  exact SecurePayload.ext h0 h1 h2 h3 hnonce hct

/-! ### What only raises `AppFrameError` -/

theorem decodeSecurePayload_onlyAppFrameError (b : Bytes) :
    Py.OnlyAppFrameError (decodeSecurePayload b) := by
  refine (Py.onlyAppFrameError_raiseIf _ _).bind fun _ _ => ?_
  refine (Py.onlyAppFrameError_raiseIf _ _).bind fun _ _ => ?_
  exact (Py.onlyAppFrameError_raiseIf _ _).bind fun _ _ => Py.onlyAppFrameError_ok _

theorem decryptSecurePayload_onlyAppFrameError {A : Aead} {s : SecurePayload} (h : s.Valid)
    (key ad : Bytes) : Py.OnlyAppFrameError (decryptSecurePayload A s key ad) := by
  refine (Py.onlyAppFrameError_raiseIf _ _).bind fun _ _ => ?_
  refine (Py.onlyAppFrameError_of_eq_ok (secureAad_eq h ad)).bind fun aad _ => ?_
  cases A.decrypt key s.nonce s.ciphertextAndTag aad with
  | none => exact fun e he => ⟨_, (Except.error.inj he).symm⟩
  | some p => exact Py.onlyAppFrameError_ok _

/-! ### The associated data of an end-to-end payload -/

/-- `b"e2e1"`. -/
def e2eTag : Bytes := [0x65, 0x32, 0x65, 0x31]

/-- `encode_route_v2_e2e_associated_data`. -/
def encodeRouteV2E2eAssociatedData (originType : NameOrInt) (originId : ℤ)
    (destinationType : NameOrInt) (destinationId originSeq : ℤ) (trafficClass innerType : NameOrInt)
    (innerPlaintextLen : ℤ) : Py Bytes := do
  let encodedOriginType ← addressTypeValue originType
  let encodedDestinationType ← addressTypeValue destinationType
  let encodedTrafficClass ← trafficClassValue trafficClass
  requireOriginAddress encodedOriginType originId
  requireDestinationAddress encodedDestinationType destinationId
  requireU32 "origin_seq" originSeq
  requireU16 "inner_plaintext_len" innerPlaintextLen
  let msgType ← messageTypeValue innerType
  raiseIf (msgType = msgRouteData ∨ msgType = msgRouteV2)
    (.appFrameError "route_v2 cannot carry nested route packets")
  raiseIf (¬ messageTypes.Has msgType)
    (.appFrameError ("unknown route_v2 inner_type: " ++ hexByteText msgType))
  let fields ← pack [(1, routeV2Version), (1, encodedOriginType), (1, originId),
    (1, encodedDestinationType), (1, destinationId), (4, originSeq), (1, encodedTrafficClass),
    (1, msgType), (2, innerPlaintextLen)]
  pure (e2eTag ++ fields)

/-- What the associated data of an end-to-end payload binds: every field of the
route but the hop count, and the length of the plaintext. -/
@[ext]
structure E2eBinding where
  originType : ℤ
  originId : ℤ
  destinationType : ℤ
  destinationId : ℤ
  originSeq : ℤ
  trafficClass : ℤ
  innerType : ℤ
  plaintextLen : ℤ
  deriving DecidableEq, Repr

/-- The fields of a binding are those of a packet that can be sent. -/
structure E2eBinding.Valid (d : E2eBinding) : Prop where
  origin : IsOriginAddress d.originType d.originId
  destination : IsDestinationAddress d.destinationType d.destinationId
  originSeq : FitsWidth 4 d.originSeq
  trafficClass : FitsWidth 1 d.trafficClass
  innerType : FitsWidth 1 d.innerType
  innerType_ne : ¬ (d.innerType = msgRouteData ∨ d.innerType = msgRouteV2)
  registered : messageTypes.Has d.innerType
  plaintextLen : FitsWidth 2 d.plaintextLen

/-- The fields of a binding on the wire. -/
def E2eBinding.header (d : E2eBinding) : List (ℕ × ℤ) :=
  [(1, routeV2Version), (1, d.originType), (1, d.originId), (1, d.destinationType),
    (1, d.destinationId), (4, d.originSeq), (1, d.trafficClass), (1, d.innerType),
    (2, d.plaintextLen)]

/-- The associated data of a binding. -/
def E2eBinding.bytes (d : E2eBinding) : Bytes := e2eTag ++ packBytes d.header

theorem E2eBinding.Valid.fits {d : E2eBinding} (h : d.Valid) :
    ∀ x ∈ d.header, FitsWidth x.1 x.2 := by
  have hver : FitsWidth 1 routeV2Version := by decide
  simp [E2eBinding.header, hver, h.origin.type, h.origin.id, h.destination.type, h.destination.id,
    h.originSeq, h.trafficClass, h.innerType, h.plaintextLen]

/-- **The end-to-end associated data is injective** in every field it binds. -/
theorem E2eBinding.bytes_inj {d d' : E2eBinding} (h : d.Valid) (h' : d'.Valid)
    (he : d.bytes = d'.bytes) : d = d' := by
  have heq := packBytes_inj_nil h.fits h'.fits rfl (List.append_cancel_left he)
  simp only [E2eBinding.header, List.cons.injEq, Prod.mk.injEq, true_and, and_true] at heq
  obtain ⟨h0, h1, h2, h3, h4, h5, h6, h7⟩ := heq
  exact E2eBinding.ext h0 h1 h2 h3 h4 h5 h6 h7

/-- **The associated data exists for the fields of valid bindings.** -/
theorem encodeRouteV2E2eAssociatedData_eq_ok_iff
    {originType destinationType trafficClass m : NameOrInt}
    {originId destinationId originSeq plaintextLen : ℤ} {b : Bytes} :
    encodeRouteV2E2eAssociatedData originType originId destinationType destinationId originSeq
        trafficClass m plaintextLen = .ok b ↔
      ∃ ot dt tc t, addressTypeValue originType = .ok ot ∧
        addressTypeValue destinationType = .ok dt ∧ trafficClassValue trafficClass = .ok tc ∧
        messageTypeValue m = .ok t ∧
        E2eBinding.Valid ⟨ot, originId, dt, destinationId, originSeq, tc, t, plaintextLen⟩ ∧
        E2eBinding.bytes ⟨ot, originId, dt, destinationId, originSeq, tc, t, plaintextLen⟩ = b := by
  simp only [encodeRouteV2E2eAssociatedData, Py.bind_eq_ok, raiseIf_eq_ok, requireU16_eq_ok,
    requireU32_eq_ok, requireOriginAddress_eq_ok, requireDestinationAddress_eq_ok, pack_eq_ok,
    Py.pure_eq_ok, exists_const]
  constructor
  · rintro ⟨ot, hot, dt, hdt, tc, htc, ho, hd, hq, hp, t, ht, hne, hreg, _, ⟨-, rfl⟩, rfl⟩
    exact ⟨ot, dt, tc, t, hot, hdt, htc, ht,
      ⟨ho, hd, hq, namedValue_fits trafficClasses_bytewise htc,
        namedValue_fits messageTypes_bytewise ht, hne, not_not.mp hreg, hp⟩, rfl⟩
  · rintro ⟨ot, dt, tc, t, hot, hdt, htc, ht, hv, rfl⟩
    exact ⟨ot, hot, dt, hdt, tc, htc, hv.origin, hv.destination, hv.originSeq, hv.plaintextLen, t,
      ht, hv.innerType_ne, not_not.mpr hv.registered, _, ⟨hv.fits, rfl⟩, rfl⟩

/-- The associated data of typed fields is that of their binding. -/
theorem encodeRouteV2E2eAssociatedData_int_eq_ok {d : E2eBinding} {b : Bytes} :
    encodeRouteV2E2eAssociatedData (.int d.originType) d.originId (.int d.destinationType)
        d.destinationId d.originSeq (.int d.trafficClass) (.int d.innerType) d.plaintextLen = .ok b ↔
      d.Valid ∧ d.bytes = b := by
  rw [encodeRouteV2E2eAssociatedData_eq_ok_iff]
  constructor
  · rintro ⟨ot, dt, tc, t, hot, hdt, htc, ht, hv, hb⟩
    obtain ⟨-, rfl⟩ := namedValue_int_eq_ok.mp hot
    obtain ⟨-, rfl⟩ := namedValue_int_eq_ok.mp hdt
    obtain ⟨-, rfl⟩ := namedValue_int_eq_ok.mp htc
    obtain ⟨-, rfl⟩ := namedValue_int_eq_ok.mp ht
    exact ⟨hv, hb⟩
  · rintro ⟨hv, hb⟩
    exact ⟨_, _, _, _, namedValue_int hv.origin.type, namedValue_int hv.destination.type,
      namedValue_int hv.trafficClass, namedValue_int hv.innerType, hv, hb⟩

/-- Building the associated data raises nothing but `AppFrameError`: the checks
leave `struct` no value out of range. -/
theorem encodeRouteV2E2eAssociatedData_onlyAppFrameError
    (originType destinationType trafficClass m : NameOrInt)
    (originId destinationId originSeq plaintextLen : ℤ) :
    Py.OnlyAppFrameError (encodeRouteV2E2eAssociatedData originType originId destinationType
      destinationId originSeq trafficClass m plaintextLen) := by
  unfold encodeRouteV2E2eAssociatedData
  refine (namedValue_onlyAppFrameError _ _ _ _).bind fun ot _ => ?_
  refine (namedValue_onlyAppFrameError _ _ _ _).bind fun dt _ => ?_
  refine (namedValue_onlyAppFrameError _ _ _ _).bind fun tc htc => ?_
  refine (requireOriginAddress_onlyAppFrameError _ _).bind fun _ ho => ?_
  refine (requireDestinationAddress_onlyAppFrameError _ _).bind fun _ hd => ?_
  refine (requireFits_onlyAppFrameError _ _ _ _).bind fun _ hq => ?_
  refine (requireFits_onlyAppFrameError _ _ _ _).bind fun _ hp => ?_
  refine (namedValue_onlyAppFrameError _ _ _ _).bind fun t ht => ?_
  refine (Py.onlyAppFrameError_raiseIf _ _).bind fun _ hne => ?_
  refine (Py.onlyAppFrameError_raiseIf _ _).bind fun _ hreg => ?_
  have hv : E2eBinding.Valid ⟨ot, originId, dt, destinationId, originSeq, tc, t, plaintextLen⟩ :=
    ⟨requireOriginAddress_eq_ok.mp ho, requireDestinationAddress_eq_ok.mp hd,
      requireU32_eq_ok.mp hq, namedValue_fits trafficClasses_bytewise htc,
      namedValue_fits messageTypes_bytewise ht, raiseIf_eq_ok.mp hne,
      not_not.mp (raiseIf_eq_ok.mp hreg), requireU16_eq_ok.mp hp⟩
  exact (Py.onlyAppFrameError_of_eq_ok (pack_of_fits hv.fits)).bind fun _ _ =>
    Py.onlyAppFrameError_ok _

/-- Key bytes to run the model with. -/
def sampleKey : Bytes := List.replicate chacha20Poly1305KeySize 7

theorem length_sampleKey : sampleKey.length = chacha20Poly1305KeySize := List.length_replicate

end KovaWfb
