/-
# The C2 server: `C2EventStore.ingest`

`python/examples/c2_http_server.py`, lines 37 to 239: an upload object is parsed,
its payload is opened under the keyring, and what it says is recorded as an event
unless its dedupe key is known.

`openUpload` is everything before the event: it reads the store's keyring and
nothing else, and `openUpload_eq_ok_iff` says what it accepts.  `record` is the
section under the lock.  Python's `True` and `False` are the integers 1 and 0, also
where they stand for an id.
-/

import KovaWfb.AppProto.Secure
import KovaWfb.C2.Upload
import KovaWfb.Python.Dict

namespace KovaWfb

/-! ### Reading a field of the route object -/

/-- The integer that a `bool` is. -/
def boolInt (b : Bool) : ℤ := if b then 1 else 0

/-- `_field_int`. -/
def fieldInt (route : JsonFields) (name : String) : Py ℤ :=
  match route.get name with
  | some (.int value) => pure value
  | some (.bool value) => pure (boolInt value)
  | some (.str text) =>
      match intBase0 text with
      | some value => pure value
      | none => .error (.valueError ("invalid literal for int() with base 0: '" ++ text ++ "'"))
  | _ => .error (.appFrameError ("route." ++ name ++ " must be an integer"))

/-- `_field_u8` and `_field_u32`: `0 <= value <= bound` or `AppFrameError`. -/
def fieldFits (width : String) (bound : ℤ) (route : JsonFields) (name : String) : Py ℤ := do
  let value ← fieldInt route name
  raiseIf (¬ (0 ≤ value ∧ value ≤ bound))
    (.appFrameError ("route." ++ name ++ " must fit in " ++ width))
  pure value

def fieldU8 : JsonFields → String → Py ℤ := fieldFits "u8" maxU8
def fieldU32 : JsonFields → String → Py ℤ := fieldFits "u32" maxU32

/-- What the conversions of `app_proto` make of a parsed value: an integer or a text,
and `value.strip()` fails on everything else. -/
def Json.nameOrInt : Json → Py NameOrInt
  | .int value => pure (.int value)
  | .bool value => pure (.int (boolInt value))
  | .str text => pure (.name text)
  | value => .error (.attributeError ("'" ++ value.typeName ++ "' object has no attribute 'strip'"))

/-- `_field_address_type`, `_field_traffic_class` and `_field_message_type`. -/
def fieldNamed (convert : NameOrInt → Py ℤ) (route : JsonFields) (name : String) : Py ℤ :=
  match route.get name with
  | none | some .null => .error (.appFrameError ("route." ++ name ++ " is required"))
  | some value => do
      let argument ← value.nameOrInt
      convert argument

def fieldAddressType : JsonFields → String → Py ℤ := fieldNamed addressTypeValue
def fieldTrafficClass : JsonFields → String → Py ℤ := fieldNamed trafficClassValue
def fieldMessageType : JsonFields → String → Py ℤ := fieldNamed messageTypeValue

/-! ### Opening an upload -/

/-- What `ingest` reads from the route object. -/
structure UploadRoute where
  originType : ℤ
  originId : ℤ
  destinationType : ℤ
  destinationId : ℤ
  ttl : ℤ
  originSeq : ℤ
  trafficClass : ℤ
  innerType : ℤ
  innerPayload : Bytes
  deriving DecidableEq, Repr

/-- The fields of an upload, read and checked. -/
def readUpload (upload : JsonFields) : Py UploadRoute :=
  match upload.get "route" with
  | some (.obj route) => do
      let originType ← fieldAddressType route "origin_type"
      let originId ← fieldU8 route "origin_id"
      let destinationType ← fieldAddressType route "destination_type"
      let destinationId ← fieldU8 route "destination_id"
      let ttl ← fieldU8 route "ttl"
      let originSeq ← fieldU32 route "origin_seq"
      let trafficClass ← fieldTrafficClass route "traffic_class"
      let innerType ← fieldMessageType route "inner_type"
      match JsonFields.get route "inner_payload_hex" with
      | some (.str innerPayloadHex) => do
          raiseIf (destinationType ≠ addrC2)
            (.appFrameError "only destination_type=c2 uploads are accepted")
          raiseIf (trafficClass ≠ trafficC2Uplink)
            (.appFrameError "only traffic_class=c2_uplink uploads are accepted")
          match fromhex innerPayloadHex with
          | none => .error (.appFrameError "route.inner_payload_hex is not valid hex")
          | some innerPayload =>
              pure { originType, originId, destinationType, destinationId, ttl, originSeq,
                     trafficClass, innerType, innerPayload }
      | _ => .error (.appFrameError "route.inner_payload_hex must be a hex string")
  | _ => .error (.appFrameError "upload must contain a route object")

/-- `class C2Key`, with a key of the length `_parse_key_hex` checks. -/
structure C2Key where
  securityDomain : ℤ
  keyId : ℤ
  keyEpoch : ℤ
  key : Bytes
  label : String
  key_length : key.length = chacha20Poly1305KeySize

/-- The keyring of the server: `dict` from (domain, key id, epoch), the newest entry
first. -/
abbrev C2Keyring := List C2Key

/-- `self._keyring.get((domain, key_id, key_epoch))`. -/
def C2Keyring.get (ring : C2Keyring) (domain keyId keyEpoch : ℤ) : Option C2Key :=
  ring.find? fun k => k.securityDomain = domain ∧ k.keyId = keyId ∧ k.keyEpoch = keyEpoch

/-- The local variables of `ingest` once the payload is decrypted. -/
structure OpenedUpload where
  route : UploadRoute
  secure : SecurePayload
  key : C2Key
  aad : Bytes
  plaintext : Bytes

/-- `dedupe_key`. -/
def OpenedUpload.dedupeKey (o : OpenedUpload) : List ℤ :=
  [o.route.originType, o.route.originId, o.route.originSeq, o.secure.securityDomain,
    o.secure.keyId, o.secure.keyEpoch]

/-- `ingest` up to the decryption. -/
def openUpload (A : Aead) (ring : C2Keyring) (upload : JsonFields) : Py OpenedUpload := do
  let route ← readUpload upload
  let secure ← decodeSecurePayload route.innerPayload
  raiseIf (secure.securityDomain ≠ secDomainNodeToC2)
    (.appFrameError ("unexpected security_domain: " ++ securityDomainName secure.securityDomain ++
      "; expected=node_to_c2"))
  match ring.get secure.securityDomain secure.keyId secure.keyEpoch with
  | none => .error (.appFrameError ("no key for secure payload: domain=" ++
      securityDomainName secure.securityDomain ++
      s!" key_id={secure.keyId} key_epoch={secure.keyEpoch}"))
  | some key => do
      let aad ← encodeRouteV2E2eAssociatedData (.int route.originType) route.originId
        (.int route.destinationType) route.destinationId route.originSeq (.int route.trafficClass)
        (.int route.innerType) secure.plaintextLen
      let plaintext ← decryptSecurePayload A secure key.key aad
      pure { route, secure, key, aad, plaintext }

theorem C2Keyring.get_eq_some {ring : C2Keyring} {domain keyId keyEpoch : ℤ} {k : C2Key}
    (h : ring.get domain keyId keyEpoch = some k) :
    k ∈ ring ∧ k.securityDomain = domain ∧ k.keyId = keyId ∧ k.keyEpoch = keyEpoch := by
  refine ⟨List.mem_of_find?_eq_some h, ?_⟩
  simpa only [decide_eq_true_eq] using List.find?_some h

/-- A key to run the model with: the uplink key of the sample node. -/
def C2Key.sample : C2Key where
  securityDomain := secDomainNodeToC2
  keyId := 1
  keyEpoch := 1
  key := sampleKey
  label := "c2_uplink_crypto"
  key_length := length_sampleKey

/-- What the associated data of an upload binds. -/
def UploadRoute.binding (r : UploadRoute) (plaintextLen : ℤ) : E2eBinding :=
  ⟨r.originType, r.originId, r.destinationType, r.destinationId, r.originSeq, r.trafficClass,
    r.innerType, plaintextLen⟩

/-- The server takes uplinks only. -/
theorem readUpload_uplink {upload : JsonFields} {r : UploadRoute}
    (h : readUpload upload = .ok r) :
    r.destinationType = addrC2 ∧ r.trafficClass = trafficC2Uplink := by
  unfold readUpload at h
  split at h
  · simp only [Py.bind_eq_ok] at h
    obtain ⟨_, -, _, -, _, -, _, -, _, -, _, -, _, -, _, -, h⟩ := h
    split at h
    · simp only [Py.raiseIf_bind_eq_ok, not_not] at h
      obtain ⟨hdest, hclass, h⟩ := h
      split at h
      · cases h
      · obtain rfl := Py.pure_eq_ok.mp h
        exact ⟨hdest, hclass⟩
    · cases h
  · cases h

/-- The route object of an upload, as the server should read it. -/
def RouteDataV2.uploaded (r : RouteDataV2) : UploadRoute :=
  ⟨r.originType, r.originId, r.destinationType, r.destinationId, r.ttl, r.originSeq,
    r.trafficClass, r.innerType, r.innerPayload⟩

theorem fieldFits_of_int {width name : String} {bound value : ℤ} {route : JsonFields}
    (hget : route.get name = some (.int value)) (h : 0 ≤ value ∧ value ≤ bound) :
    fieldFits width bound route name = .ok value := by
  have hint : fieldInt route name = .ok value := by
    rw [fieldInt, hget]
    rfl
  rw [fieldFits, Py.bind_eq_ok]
  refine ⟨value, hint, ?_⟩
  rw [Py.raiseIf_bind_eq_ok]
  exact ⟨not_not.mpr h, rfl⟩

theorem fieldNamed_of_str {convert : NameOrInt → Py ℤ} {name text : String} {value : ℤ}
    {route : JsonFields} (hget : route.get name = some (.str text))
    (h : convert (.name text) = .ok value) : fieldNamed convert route name = .ok value := by
  rw [fieldNamed, hget]
  exact h

/-- **The server reads the uploads of both programs as they were written**: names and
hex read back as the values. -/
theorem readUpload_c2Upload {gatewayId receivedAtMs : ℤ} {channel : Option ℤ} {r : RouteDataV2}
    (hr : r.Valid) (hu : r.IsUplink) (htype : messageTypes.Has r.innerType) :
    readUpload (c2Upload gatewayId channel receivedAtMs r) = .ok r.uploaded := by
  have hclass : trafficClasses.Has r.trafficClass := by
    rw [hu.1]
    decide
  have hroute : (c2Upload gatewayId channel receivedAtMs r).get "route" =
      some (.obj (uploadRoute r)) := rfl
  have hhex : JsonFields.get (uploadRoute r) "inner_payload_hex" =
      some (.str (hex r.innerPayload)) := rfl
  rw [readUpload, hroute]
  simp only [Py.bind_eq_ok]
  refine ⟨_, fieldNamed_of_str rfl (namedValue_valueName.2.2.1 hr.origin.registered),
    _, fieldFits_of_int rfl (fitsWidth_one_iff.mp hr.origin.id),
    _, fieldNamed_of_str rfl (namedValue_valueName.2.2.1 hr.destination.registered),
    _, fieldFits_of_int rfl (fitsWidth_one_iff.mp hr.destination.id),
    _, fieldFits_of_int rfl (fitsWidth_one_iff.mp hr.ttl),
    _, fieldFits_of_int rfl (fitsWidth_four_iff.mp hr.originSeq),
    _, fieldNamed_of_str rfl (namedValue_valueName.2.2.2 hclass),
    _, fieldNamed_of_str rfl (namedValue_valueName.1 htype), ?_⟩
  rw [hhex]
  simp only [Py.raiseIf_bind_eq_ok, not_not, fromhex_hex]
  exact ⟨hu.2, hu.1, rfl⟩

/-- **What the server opens.** -/
theorem openUpload_eq_ok_iff {A : Aead} {ring : C2Keyring} {upload : JsonFields}
    {o : OpenedUpload} :
    openUpload A ring upload = .ok o ↔
      readUpload upload = .ok o.route ∧ o.secure.Valid ∧ o.secure.bytes = o.route.innerPayload ∧
        o.secure.securityDomain = secDomainNodeToC2 ∧
        ring.get o.secure.securityDomain o.secure.keyId o.secure.keyEpoch = some o.key ∧
        (o.route.binding o.secure.plaintextLen).Valid ∧
        (o.route.binding o.secure.plaintextLen).bytes = o.aad ∧
        A.decrypt o.key.key o.secure.nonce o.secure.ciphertextAndTag
          (o.secure.authHeader ++ o.aad) = some o.plaintext := by
  have haad : ∀ (r : UploadRoute) (n : ℤ) (b : Bytes),
      encodeRouteV2E2eAssociatedData (.int r.originType) r.originId (.int r.destinationType)
          r.destinationId r.originSeq (.int r.trafficClass) (.int r.innerType) n = .ok b ↔
        (r.binding n).Valid ∧ (r.binding n).bytes = b := fun r n b =>
    encodeRouteV2E2eAssociatedData_int_eq_ok (d := r.binding n)
  simp only [openUpload, Py.bind_eq_ok, raiseIf_eq_ok, not_not, decodeSecurePayload_eq_ok_iff,
    exists_const]
  constructor
  · rintro ⟨route, hroute, secure, ⟨hv, -, hb⟩, hdomain, h⟩
    cases hkey : ring.get secure.securityDomain secure.keyId secure.keyEpoch with
    | none =>
      rw [hkey] at h
      cases h
    | some key =>
      rw [hkey] at h
      simp only [Py.bind_eq_ok, haad, Py.pure_eq_ok] at h
      obtain ⟨aad, ⟨hvalid, haad⟩, plaintext, hdec, rfl⟩ := h
      exact ⟨hroute, hv, hb, hdomain, hkey, hvalid, haad,
        ((decryptSecurePayload_eq_ok_iff hv).mp hdec).2⟩
  · rintro ⟨hroute, hv, hb, hdomain, hkey, hvalid, hbytes, hopen⟩
    have hreg : securityDomains.Has o.secure.securityDomain := by
      rw [hdomain]
      decide
    refine ⟨o.route, hroute, o.secure, ⟨hv, hreg, hb⟩, hdomain, ?_⟩
    rw [hkey]
    simp only [Py.bind_eq_ok, haad, Py.pure_eq_ok]
    exact ⟨o.aad, ⟨hvalid, hbytes⟩, o.plaintext,
      (decryptSecurePayload_eq_ok_iff hv).mpr ⟨o.key.key_length, hopen⟩, rfl⟩

/-! ### Events -/

/-- `KOVA_IMAGE_MAGIC`. -/
def kovaImageMagic : Bytes := [0x4b, 0x4f, 0x56, 0x41]

/-- The image fields of an event. -/
structure EventImage where
  width : ℤ
  height : ℤ
  pixelFormat : String
  dataB64 : String
  deriving DecidableEq, Repr

/-- An event: what the server keeps of an upload. -/
structure C2Event where
  receivedAtMs : ℤ
  clientIp : String
  gatewayId : Json
  gatewayChannel : Json
  originType : String
  originId : ℤ
  destinationType : String
  destinationId : ℤ
  ttl : ℤ
  originSeq : ℤ
  trafficClass : String
  innerType : String
  securityDomain : String
  keyId : ℤ
  keyEpoch : ℤ
  keyLabel : String
  payloadLen : ℤ
  duplicate : Bool
  image : Option EventImage
  payloadText : String

/-- `data[index]`. -/
def byteAt (data : Bytes) (index : ℕ) : Py ℤ :=
  match data[index]? with
  | some b => pure b.toNat
  | none => .error (.indexError "index out of range")

/-- What an event shows of a plaintext: an image when it starts with the magic, and
a text. -/
def eventContent (plaintext : Bytes) : Py (Option EventImage × String) :=
  if plaintext.take 4 = kovaImageMagic then do
    let width ← byteAt plaintext 4
    let height ← byteAt plaintext 5
    let pixelFormat ← byteAt plaintext 6
    pure (some { width, height, pixelFormat := if pixelFormat = 1 then "rgb" else "grayscale",
                 dataB64 := b64encode (plaintext.drop 7) },
      s!"[image {width}x{height}]")
  else pure (none, decodeUtf8Replace plaintext)

/-- The event of an opened upload. -/
def uploadEvent (nowMs : ℤ) (clientIp : String) (upload : JsonFields) (o : OpenedUpload) :
    Py C2Event := do
  let (image, payloadText) ← eventContent o.plaintext
  pure {
    receivedAtMs := nowMs
    clientIp
    gatewayId := (upload.get "gateway_id").getD .null
    gatewayChannel := (upload.get "channel").getD .null
    originType := addressTypeName o.route.originType
    originId := o.route.originId
    destinationType := addressTypeName o.route.destinationType
    destinationId := o.route.destinationId
    ttl := o.route.ttl
    originSeq := o.route.originSeq
    trafficClass := trafficClassName o.route.trafficClass
    innerType := messageTypeName o.route.innerType
    securityDomain := securityDomainName o.secure.securityDomain
    keyId := o.secure.keyId
    keyEpoch := o.secure.keyEpoch
    keyLabel := o.key.label
    payloadLen := o.plaintext.length
    duplicate := false
    image
    payloadText }

/-! ### The store -/

/-- `class C2EventStore`: the events newest first, the latest one of each node, the
dedupe keys. -/
structure C2EventStore where
  keyring : C2Keyring
  maxEvents : ℕ
  events : List C2Event
  latestByNode : List (ℤ × C2Event)
  seen : Finset (List ℤ)

/-- `C2EventStore(keyring, max_events)`. -/
def C2EventStore.initial (keyring : C2Keyring) (maxEvents : ℕ) : C2EventStore :=
  { keyring, maxEvents, events := [], latestByNode := [], seen := ∅ }

/-- The dedupe key as the eviction rebuilds it from an event. -/
def C2Event.dedupeKey (old : C2Event) : Py (List ℤ) := do
  let originType ← addressTypeValue (.name old.originType)
  let securityDomain ← securityDomainValue (.name old.securityDomain)
  pure [originType, old.originId, old.originSeq, securityDomain, old.keyId, old.keyEpoch]

/-- The eviction loop over the events, oldest first. -/
def evictEvents (maxEvents : ℕ) : Finset (List ℤ) → List C2Event →
    Py (Finset (List ℤ) × List C2Event)
  | seen, [] => pure (seen, [])
  | seen, old :: newer =>
      if maxEvents < newer.length + 1 then do
        let key ← old.dedupeKey
        evictEvents maxEvents (seen.erase key) newer
      else pure (seen, old :: newer)

/-- The section of `ingest` under the lock. -/
def record (dedupeKey : List ℤ) (event : C2Event) : PyM C2EventStore C2Event := do
  let store ← get
  if dedupeKey ∈ store.seen then pure { event with duplicate := true }
  else do
    let seen := insert dedupeKey store.seen
    let latestByNode := dictSet event.originId event store.latestByNode
    set { store with seen, latestByNode, events := event :: store.events }
    let (seen, oldestFirst) ← evictEvents store.maxEvents seen (event :: store.events).reverse
    set { store with seen, latestByNode, events := oldestFirst.reverse }
    pure event

/-- `C2EventStore.ingest`. -/
def ingest (A : Aead) (nowMs : ℤ) (clientIp : String) (upload : JsonFields) :
    PyM C2EventStore C2Event := do
  let store ← get
  let o ← openUpload A store.keyring upload
  let event ← uploadEvent nowMs clientIp upload o
  record o.dedupeKey event

/-- The section under the lock returns the event, marked when it is a duplicate. -/
theorem record_eq_ok {key : List ℤ} {event event' : C2Event} {store store' : C2EventStore}
    (h : record key event store = .ok event' store') :
    event' = { event with duplicate := event.duplicate || decide (key ∈ store.seen) } := by
  rw [record, PyM.get_bind_apply] at h
  by_cases hseen : key ∈ store.seen
  · rw [if_pos hseen, PyM.pure_apply] at h
    obtain ⟨rfl, -⟩ := EStateM.Result.ok.inj h
    simp [hseen]
  · rw [if_neg hseen, PyM.bind_eq_ok] at h
    obtain ⟨_, _, -, h⟩ := h
    obtain ⟨_, -, h⟩ := PyM.lift_bind_eq_ok.mp h
    rw [PyM.bind_eq_ok] at h
    obtain ⟨_, _, -, h⟩ := h
    obtain ⟨rfl, -⟩ := EStateM.Result.ok.inj h
    simp [hseen]

/-- Once the upload is open, `ingest` builds the event and records it. -/
theorem ingest_of_openUpload {A : Aead} {nowMs : ℤ} {clientIp : String} {upload : JsonFields}
    {store : C2EventStore} {o : OpenedUpload} (h : openUpload A store.keyring upload = .ok o) :
    ingest A nowMs clientIp upload store =
      (liftM (uploadEvent nowMs clientIp upload o) >>= record o.dedupeKey :
        PyM C2EventStore C2Event) store := by
  rw [ingest, PyM.get_bind_apply, PyM.bind_apply, PyM.monadLift_apply, h]
  rfl

/-- **The event `ingest` returns** shows an upload that opened. -/
theorem ingest_eq_ok {A : Aead} {nowMs : ℤ} {clientIp : String} {upload : JsonFields}
    {store store' : C2EventStore} {event : C2Event}
    (h : ingest A nowMs clientIp upload store = .ok event store') :
    ∃ o opened, openUpload A store.keyring upload = .ok o ∧
      uploadEvent nowMs clientIp upload o = .ok opened ∧
      event = { opened with duplicate := opened.duplicate || decide (o.dedupeKey ∈ store.seen) } := by
  rw [ingest, PyM.get_bind_apply] at h
  obtain ⟨o, ho, h⟩ := PyM.lift_bind_eq_ok.mp h
  obtain ⟨opened, hopened, h⟩ := PyM.lift_bind_eq_ok.mp h
  exact ⟨o, opened, ho, hopened, record_eq_ok h⟩

end KovaWfb
