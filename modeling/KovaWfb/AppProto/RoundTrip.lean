/-
# The six wire formats are exact

For each encode and decode pair of `python/src/wfb_rs_py/app_proto.py`: what the
decoder accepts is what the encoder writes, byte for byte, and what the encoder
writes is read back, unless a type in it is not registered.

`WireExact` is the statement for one pair.  It follows from the two inversions of
the pair (`WireExact.of_iff`), so each format only supplies those.
-/

import KovaWfb.AppProto.Secure

namespace KovaWfb

/-- One encode and decode pair is exact.  `Denotes a m`: the arguments `a` mean
the message `m` (a name means its value).  `reencode m` encodes the fields of a
decoded message.  `Registered m`: the types the decoder looks up are known. -/
structure WireExact {α μ : Type} (encode : α → Py Bytes) (decode : Bytes → Py μ)
    (reencode : μ → Py Bytes) (Denotes : α → μ → Prop) (Registered : μ → Prop) : Prop where
  /-- Re-encoding the decoded fields gives the byte string back. -/
  reencode_eq : ∀ b m, decode b = .ok m → reencode m = .ok b
  /-- So does encoding any arguments that mean the decoded message. -/
  encode_eq : ∀ a b m, decode b = .ok m → Denotes a m → encode a = .ok b
  /-- No two byte strings mean the same message. -/
  decode_inj : ∀ b b' m, decode b = .ok m → decode b' = .ok m → b = b'
  /-- What the encoder writes is read back, or refused for an unregistered type. -/
  decode_eq : ∀ a b, encode a = .ok b → ∃ m, Denotes a m ∧
    (Registered m → decode b = .ok m) ∧
    (¬ Registered m → ∃ msg, decode b = .error (.appFrameError msg))

/-- A pair is exact when both functions are about the same images of the same
valid messages. -/
theorem WireExact.of_iff {α μ : Type} {encode : α → Py Bytes} {decode : Bytes → Py μ}
    {reencode : μ → Py Bytes} {Denotes : α → μ → Prop} {Registered : μ → Prop}
    (Valid : μ → Prop) (bytes : μ → Bytes)
    (hencode : ∀ a b, encode a = .ok b ↔ ∃ m, Denotes a m ∧ Valid m ∧ bytes m = b)
    (hdecode : ∀ b m, decode b = .ok m ↔ Valid m ∧ Registered m ∧ bytes m = b)
    (honly : ∀ b, Py.OnlyAppFrameError (decode b))
    (hinj : ∀ m m', Valid m → Valid m' → bytes m = bytes m' → m = m')
    (hre : ∀ m, Valid m → reencode m = .ok (bytes m)) :
    WireExact encode decode reencode Denotes Registered where
  reencode_eq b m h := by
    obtain ⟨hv, -, rfl⟩ := (hdecode b m).mp h
    exact hre m hv
  encode_eq a b m h hden := by
    obtain ⟨hv, -, hb⟩ := (hdecode b m).mp h
    exact (hencode a b).mpr ⟨m, hden, hv, hb⟩
  decode_inj b b' m h h' := ((hdecode b m).mp h).2.2.symm.trans ((hdecode b' m).mp h').2.2
  decode_eq a b h := by
    obtain ⟨m, hden, hv, hb⟩ := (hencode a b).mp h
    refine ⟨m, hden, fun hreg => (hdecode b m).mpr ⟨hv, hreg, hb⟩, fun hunreg => ?_⟩
    cases hd : decode b with
    | ok m' =>
      obtain ⟨hv', hreg', hb'⟩ := (hdecode b m').mp hd
      rw [hinj m m' hv hv' (hb.trans hb'.symm)] at hunreg
      exact absurd hreg' hunreg
    | error e =>
      obtain ⟨msg, rfl⟩ := honly b e hd
      exact ⟨msg, rfl⟩

/-! ### Arguments -/

/-- The arguments of `encode_frame`. -/
structure FrameArgs where
  senderId : ℤ
  messageType : NameOrInt
  appSeq : ℤ
  payload : Bytes
  flags : ℤ

def FrameArgs.encode (a : FrameArgs) : Py Bytes :=
  encodeFrame a.senderId a.messageType a.appSeq a.payload a.flags

/-- The arguments mean the frame. -/
def FrameArgs.Denotes (a : FrameArgs) (f : AppFrame) : Prop :=
  f.version = version ∧ messageTypeValue a.messageType = .ok f.messageType ∧
    f.senderId = a.senderId ∧ f.flags = a.flags ∧ f.appSeq = a.appSeq ∧ f.payload = a.payload

/-- The fields of a decoded frame as arguments. -/
def AppFrame.args (f : AppFrame) : FrameArgs :=
  ⟨f.senderId, .int f.messageType, f.appSeq, f.payload, f.flags⟩

/-- The arguments of `encode_route_data_payload`. -/
structure RouteDataArgs where
  originSenderId : ℤ
  destinationId : ℤ
  ttl : ℤ
  originSeq : ℤ
  innerType : NameOrInt
  innerPayload : Bytes

def RouteDataArgs.encode (a : RouteDataArgs) : Py Bytes :=
  encodeRouteDataPayload a.originSenderId a.destinationId a.ttl a.originSeq a.innerType
    a.innerPayload

/-- The arguments mean the packet. -/
def RouteDataArgs.Denotes (a : RouteDataArgs) (r : RouteData) : Prop :=
  r.originSenderId = a.originSenderId ∧ r.destinationId = a.destinationId ∧ r.ttl = a.ttl ∧
    r.originSeq = a.originSeq ∧ messageTypeValue a.innerType = .ok r.innerType ∧
    r.innerPayload = a.innerPayload

/-- The fields of a decoded packet as arguments. -/
def RouteData.args (r : RouteData) : RouteDataArgs :=
  ⟨r.originSenderId, r.destinationId, r.ttl, r.originSeq, .int r.innerType, r.innerPayload⟩

/-- The arguments of `encode_route_v2_payload`. -/
structure RouteV2Args where
  originType : NameOrInt
  originId : ℤ
  destinationType : NameOrInt
  destinationId : ℤ
  ttl : ℤ
  originSeq : ℤ
  trafficClass : NameOrInt
  innerType : NameOrInt
  innerPayload : Bytes

def RouteV2Args.encode (a : RouteV2Args) : Py Bytes :=
  encodeRouteV2Payload a.originType a.originId a.destinationType a.destinationId a.ttl a.originSeq
    a.trafficClass a.innerType a.innerPayload

/-- The arguments mean the packet. -/
def RouteV2Args.Denotes (a : RouteV2Args) (r : RouteDataV2) : Prop :=
  r.routeVersion = routeV2Version ∧ addressTypeValue a.originType = .ok r.originType ∧
    r.originId = a.originId ∧ addressTypeValue a.destinationType = .ok r.destinationType ∧
    r.destinationId = a.destinationId ∧ r.ttl = a.ttl ∧ r.originSeq = a.originSeq ∧
    trafficClassValue a.trafficClass = .ok r.trafficClass ∧
    messageTypeValue a.innerType = .ok r.innerType ∧ r.innerPayload = a.innerPayload

/-- The fields of a decoded packet as arguments. -/
def RouteDataV2.args (r : RouteDataV2) : RouteV2Args :=
  ⟨.int r.originType, r.originId, .int r.destinationType, r.destinationId, r.ttl, r.originSeq,
    .int r.trafficClass, .int r.innerType, r.innerPayload⟩

/-- The arguments of `encode_sync_payload`: the fields of the message. -/
def SyncStatus.encode (s : SyncStatus) : Py Bytes :=
  encodeSyncPayload s.utcMs s.slot s.channel s.nextHopMs

/-- The arguments of `encode_status_payload`: the fields of the message. -/
def StatusPayload.encode (s : StatusPayload) : Py Bytes :=
  encodeStatusPayload s.uptimeS s.batteryPct s.peerCount s.flags s.statusVersion

/-- The arguments of `encode_secure_payload`, and what `os.urandom` returns. -/
structure SecureArgs where
  urandom : Bytes
  key : Bytes
  securityDomain : NameOrInt
  keyId : ℤ
  keyEpoch : ℤ
  plaintext : Bytes
  associatedData : Bytes
  nonce : Option Bytes

def SecureArgs.encode (A : Aead) (a : SecureArgs) : Py Bytes :=
  encodeSecurePayload A a.urandom a.key a.securityDomain a.keyId a.keyEpoch a.plaintext
    a.associatedData a.nonce

/-- The arguments mean the wrapper: its header fields and nonce are theirs, and
it decrypts under their key and associated data to their plaintext. -/
def SecureArgs.Denotes (A : Aead) (a : SecureArgs) (s : SecurePayload) : Prop :=
  s.secureVersion = secureVersion ∧ securityDomainValue a.securityDomain = .ok s.securityDomain ∧
    s.keyId = a.keyId ∧ s.keyEpoch = a.keyEpoch ∧ s.nonce = a.nonce.getD a.urandom ∧
    decryptSecurePayload A s a.key a.associatedData = .ok a.plaintext

/-- The fields of a decoded wrapper packed again. -/
def SecurePayload.repack (s : SecurePayload) : Py Bytes := do
  let header ← packSecurePayload s.secureVersion s.securityDomain s.keyId s.keyEpoch s.nonce
  pure (header ++ s.ciphertextAndTag)

/-! ### The six pairs -/

theorem frame_wireExact (allow : Bool) :
    WireExact FrameArgs.encode (decodeFrame · allow) (fun f => f.args.encode) FrameArgs.Denotes
      (fun f => allow = true ∨ messageTypes.Has f.messageType) := by
  refine WireExact.of_iff AppFrame.Valid AppFrame.bytes ?_
    (fun _ _ => decodeFrame_eq_ok_iff) (decodeFrame_onlyAppFrameError · allow)
    (fun _ _ => AppFrame.bytes_inj) ?_
  · intro a b
    rw [FrameArgs.encode, encodeFrame_eq_ok_iff]
    constructor
    · rintro ⟨t, ht, hv, hb⟩
      exact ⟨_, ⟨rfl, ht, rfl, rfl, rfl, rfl⟩, hv, hb⟩
    · rintro ⟨⟨_, t, _, _, _, _⟩, ⟨rfl, ht, rfl, rfl, rfl, rfl⟩, hv, hb⟩
      exact ⟨t, ht, hv, hb⟩
  · rintro ⟨_, t, s, fl, q, p⟩ hv
    obtain rfl := hv.version
    exact encodeFrame_eq_ok_iff.mpr ⟨t, namedValue_int hv.messageType, hv, rfl⟩

theorem routeData_wireExact :
    WireExact RouteDataArgs.encode decodeRouteDataPayload (fun r => r.args.encode)
      RouteDataArgs.Denotes (fun r => messageTypes.Has r.innerType) := by
  refine WireExact.of_iff RouteData.Valid RouteData.bytes ?_
    (fun _ _ => decodeRouteDataPayload_eq_ok_iff) decodeRouteDataPayload_onlyAppFrameError
    (fun _ _ => RouteData.bytes_inj) ?_
  · intro a b
    rw [RouteDataArgs.encode, encodeRouteDataPayload_eq_ok_iff]
    constructor
    · rintro ⟨t, ht, hv, hb⟩
      exact ⟨_, ⟨rfl, rfl, rfl, rfl, ht, rfl⟩, hv, hb⟩
    · rintro ⟨⟨_, _, _, _, t, _⟩, ⟨rfl, rfl, rfl, rfl, ht, rfl⟩, hv, hb⟩
      exact ⟨t, ht, hv, hb⟩
  · intro r hv
    exact encodeRouteDataPayload_eq_ok_iff.mpr
      ⟨r.innerType, namedValue_int hv.innerType, hv, rfl⟩

theorem routeV2_wireExact :
    WireExact RouteV2Args.encode decodeRouteV2Payload (fun r => r.args.encode)
      RouteV2Args.Denotes
      (fun r => trafficClasses.Has r.trafficClass ∧ messageTypes.Has r.innerType) := by
  refine WireExact.of_iff RouteDataV2.Valid RouteDataV2.bytes ?_
    (fun _ _ => by rw [decodeRouteV2Payload_eq_ok_iff, and_assoc])
    decodeRouteV2Payload_onlyAppFrameError (fun _ _ => RouteDataV2.bytes_inj) ?_
  · intro a b
    rw [RouteV2Args.encode, encodeRouteV2Payload_eq_ok_iff]
    constructor
    · rintro ⟨ot, dt, tc, t, hot, hdt, htc, ht, hv, hb⟩
      exact ⟨_, ⟨rfl, hot, rfl, hdt, rfl, rfl, rfl, htc, ht, rfl⟩, hv, hb⟩
    · rintro ⟨⟨_, ot, _, dt, _, _, _, tc, t, _⟩,
        ⟨rfl, hot, rfl, hdt, rfl, rfl, rfl, htc, ht, rfl⟩, hv, hb⟩
      exact ⟨ot, dt, tc, t, hot, hdt, htc, ht, hv, hb⟩
  · rintro ⟨_, ot, _, dt, _, _, _, tc, t, _⟩ hv
    obtain rfl := hv.routeVersion
    exact encodeRouteV2Payload_eq_ok_iff.mpr ⟨ot, dt, tc, t, namedValue_int hv.origin.type,
      namedValue_int hv.destination.type, namedValue_int hv.trafficClass,
      namedValue_int hv.innerType, hv, rfl⟩

theorem sync_wireExact :
    WireExact SyncStatus.encode decodeSyncPayload SyncStatus.encode Eq (fun _ => True) := by
  have hencode : ∀ (s : SyncStatus) b, s.encode = .ok b ↔ s.Valid ∧ s.bytes = b :=
    fun _ _ => encodeSyncPayload_eq_ok_iff
  refine WireExact.of_iff SyncStatus.Valid SyncStatus.bytes (fun s b => ?_) (fun _ _ => ?_)
    decodeSyncPayload_onlyAppFrameError (fun _ _ => SyncStatus.bytes_inj)
    (fun s hv => (hencode s _).mpr ⟨hv, rfl⟩)
  · rw [hencode, exists_eq_left']
  · rw [decodeSyncPayload_eq_ok_iff, true_and]

theorem status_wireExact :
    WireExact StatusPayload.encode decodeStatusPayload StatusPayload.encode Eq
      (fun _ => True) := by
  have hencode : ∀ (s : StatusPayload) b, s.encode = .ok b ↔ s.Valid ∧ s.bytes = b :=
    fun _ _ => encodeStatusPayload_eq_ok_iff
  refine WireExact.of_iff StatusPayload.Valid StatusPayload.bytes (fun s b => ?_)
    (fun _ _ => ?_) decodeStatusPayload_onlyAppFrameError (fun _ _ => StatusPayload.bytes_inj)
    (fun s hv => (hencode s _).mpr ⟨hv, rfl⟩)
  · rw [hencode, exists_eq_left']
  · rw [decodeStatusPayload_eq_ok_iff, true_and]

/-- With a lawful cipher, the arguments a wrapper is made of are those it
decrypts with. -/
theorem SecureArgs.encode_eq_ok_iff {A : Aead} (hA : A.Lawful chacha20Poly1305TagSize)
    (a : SecureArgs) (b : Bytes) :
    a.encode A = .ok b ↔ ∃ s, a.Denotes A s ∧ s.Valid ∧ s.bytes = b := by
  rw [SecureArgs.encode, encodeSecurePayload_eq_ok_iff]
  constructor
  · rintro ⟨hkey, d, hd, hk, he, hn, hb⟩
    have hv : SecurePayload.Valid ⟨secureVersion, d, a.keyId, a.keyEpoch, a.nonce.getD a.urandom,
        A.encrypt a.key (a.nonce.getD a.urandom) a.plaintext (SecurePayload.authHeader
          ⟨secureVersion, d, a.keyId, a.keyEpoch, [], []⟩ ++ a.associatedData)⟩ :=
      ⟨rfl, namedValue_fits securityDomains_bytewise hd, hk, he, hn,
        by rw [hA.length_encrypt]; exact Nat.le_add_left _ _⟩
    refine ⟨_, ⟨rfl, hd, rfl, rfl, rfl, ?_⟩, hv, hb⟩
    exact (decryptSecurePayload_eq_ok_iff hv).mpr ⟨hkey, hA.decrypt_encrypt ..⟩
  · rintro ⟨⟨_, d, k, e, n, c⟩, ⟨rfl, hd, rfl, rfl, rfl, hdec⟩, hv, hb⟩
    obtain ⟨hkey, hopen⟩ := (decryptSecurePayload_eq_ok_iff hv).mp hdec
    have hc : A.encrypt a.key (a.nonce.getD a.urandom) a.plaintext (SecurePayload.authHeader
        ⟨secureVersion, d, a.keyId, a.keyEpoch, [], []⟩ ++ a.associatedData) = c :=
      hA.encrypt_of_decrypt _ _ _ _ _ hopen
    exact ⟨hkey, d, hd, hv.keyId, hv.keyEpoch, hv.nonce, by rw [hc, hb]⟩

theorem secure_wireExact {A : Aead} (hA : A.Lawful chacha20Poly1305TagSize) :
    WireExact (SecureArgs.encode A) decodeSecurePayload SecurePayload.repack
      (SecureArgs.Denotes A) (fun s => securityDomains.Has s.securityDomain) := by
  refine WireExact.of_iff SecurePayload.Valid SecurePayload.bytes (SecureArgs.encode_eq_ok_iff hA)
    (fun _ _ => decodeSecurePayload_eq_ok_iff) decodeSecurePayload_onlyAppFrameError
    (fun _ _ => SecurePayload.bytes_inj) ?_
  intro s hv
  rw [SecurePayload.repack, (packSecurePayload_eq_ok hv.nonce).mpr ⟨hv.fits, rfl⟩]
  exact congrArg Except.ok (List.append_assoc ..)

/-- **The six wire formats are exact**, the app frame with and without
`allow_unknown_message_type`, and the secure wrapper over any lawful cipher. -/
theorem wire_formats_exact {A : Aead} (hA : A.Lawful chacha20Poly1305TagSize) :
    (∀ allow, WireExact FrameArgs.encode (decodeFrame · allow) (fun f => f.args.encode)
      FrameArgs.Denotes (fun f => allow = true ∨ messageTypes.Has f.messageType)) ∧
    WireExact RouteDataArgs.encode decodeRouteDataPayload (fun r => r.args.encode)
      RouteDataArgs.Denotes (fun r => messageTypes.Has r.innerType) ∧
    WireExact RouteV2Args.encode decodeRouteV2Payload (fun r => r.args.encode)
      RouteV2Args.Denotes
      (fun r => trafficClasses.Has r.trafficClass ∧ messageTypes.Has r.innerType) ∧
    WireExact SyncStatus.encode decodeSyncPayload SyncStatus.encode Eq (fun _ => True) ∧
    WireExact StatusPayload.encode decodeStatusPayload StatusPayload.encode Eq (fun _ => True) ∧
    WireExact (SecureArgs.encode A) decodeSecurePayload SecurePayload.repack
      (SecureArgs.Denotes A) (fun s => securityDomains.Has s.securityDomain) :=
  ⟨frame_wireExact, routeData_wireExact, routeV2_wireExact, sync_wireExact, status_wireExact,
    secure_wireExact hA⟩

/-- The checksum cipher is one to which the six formats apply. -/
theorem wire_formats_exact_checksum :
    WireExact (SecureArgs.encode Aead.checksum) decodeSecurePayload SecurePayload.repack
      (SecureArgs.Denotes Aead.checksum) (fun s => securityDomains.Has s.securityDomain) :=
  (wire_formats_exact Aead.checksum_lawful).2.2.2.2.2

end KovaWfb
