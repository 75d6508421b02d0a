/-
# Which uploads `ingest` rejects cleanly

`C2EventStore.ingest` and the field readers of `python/examples/c2_http_server.py` (59 to
239), and the handler of `do_POST` (443 to 468), which answers 400 to `AppFrameError` and
`ValueError` and lets everything else end the request without an answer.

Two things get past it.  A named field that is a float, a list or an object has no
`strip`, and a plaintext that starts like an image is indexed up to its seventh byte.
`ingest_rejects_cleanly_iff` says that there is nothing else, and that a rejected upload
leaves the store alone.
-/

import KovaWfb.C2.StoreInvariant

namespace KovaWfb

/-! ### Handled exceptions -/

/-- What is raised is an `AppFrameError` or a `ValueError`. -/
def Py.Clean {α : Type} (x : Py α) : Prop := ∀ e, x = .error e → e.isValueError = true

section

variable {α β : Type} {x : Py α}

theorem Py.clean_ok (a : α) : Py.Clean (.ok a : Py α) := fun _ h => by cases h

theorem Py.clean_error {e : PyError} : Py.Clean (.error e : Py α) ↔ e.isValueError = true :=
  ⟨fun h => h e rfl, fun h _ he => Except.error.inj he ▸ h⟩

theorem Py.OnlyAppFrameError.clean (h : Py.OnlyAppFrameError x) : x.Clean := by
  intro e he
  obtain ⟨msg, rfl⟩ := h e he
  rfl

/-- **Code is clean** when each statement is, where it is reached. -/
theorem Py.clean_bind {f : α → Py β} :
    (x >>= f).Clean ↔ x.Clean ∧ ∀ a, x = .ok a → (f a).Clean := by
  cases x with
  | error e =>
    rw [Py.error_bind, Py.clean_error, Py.clean_error]
    exact ⟨fun h => ⟨h, fun a ha => by cases ha⟩, And.left⟩
  | ok a =>
    rw [Py.ok_bind]
    exact ⟨fun h => ⟨Py.clean_ok a, fun a' ha => Except.ok.inj ha ▸ h⟩, fun h => h.2 a rfl⟩

/-- After a statement that is always clean only the rest counts. -/
theorem Py.clean_bind_of_clean (hx : x.Clean) {f : α → Py β} :
    (x >>= f).Clean ↔ ∀ a, x = .ok a → (f a).Clean :=
  Py.clean_bind.trans (and_iff_right hx)

end

/-! ### The fields -/

/-- The value is `null`, a boolean, an integer or a text. -/
def Json.IsNamed : Json → Prop
  | .float _ | .arr _ | .obj _ => False
  | _ => True

/-- The field is missing or holds such a value. -/
def JsonFields.Named (route : JsonFields) (name : String) : Prop :=
  ∀ value, route.get name = some value → value.IsNamed

/-- The fields that are converted from names hold such values, as far as they are reached. -/
structure NamesHandled (route : JsonFields) : Prop where
  originType : route.Named "origin_type"
  destinationType : ∀ originType originId, fieldAddressType route "origin_type" = .ok originType →
    fieldU8 route "origin_id" = .ok originId → route.Named "destination_type"
  trafficClass : ∀ originType originId destinationType destinationId ttl originSeq,
    fieldAddressType route "origin_type" = .ok originType →
    fieldU8 route "origin_id" = .ok originId →
    fieldAddressType route "destination_type" = .ok destinationType →
    fieldU8 route "destination_id" = .ok destinationId → fieldU8 route "ttl" = .ok ttl →
    fieldU32 route "origin_seq" = .ok originSeq → route.Named "traffic_class"
  innerType : ∀ originType originId destinationType destinationId ttl originSeq trafficClass,
    fieldAddressType route "origin_type" = .ok originType →
    fieldU8 route "origin_id" = .ok originId →
    fieldAddressType route "destination_type" = .ok destinationType →
    fieldU8 route "destination_id" = .ok destinationId → fieldU8 route "ttl" = .ok ttl →
    fieldU32 route "origin_seq" = .ok originSeq →
    fieldTrafficClass route "traffic_class" = .ok trafficClass → route.Named "inner_type"

/-- A plaintext that starts with the magic of an image has the whole header. -/
def ImageHeaderComplete (plaintext : Bytes) : Prop :=
  plaintext.take 4 = kovaImageMagic → 7 ≤ plaintext.length

/-- The payload of the upload authenticates to the plaintext under a key of the keyring. -/
def Authenticates (A : Aead) (ring : C2Keyring) (upload : JsonFields) (plaintext : Bytes) : Prop :=
  ∃ (r : UploadRoute) (secure : SecurePayload) (key : C2Key), readUpload upload = .ok r ∧
    secure.Valid ∧ secure.bytes = r.innerPayload ∧
    secure.securityDomain = secDomainNodeToC2 ∧
    ring.get secure.securityDomain secure.keyId secure.keyEpoch = some key ∧
    (r.binding secure.plaintextLen).Valid ∧
    A.decrypt key.key secure.nonce secure.ciphertextAndTag
      (secure.authHeader ++ (r.binding secure.plaintextLen).bytes) = some plaintext

/-- The upload's named fields are handled, and what it authenticates has its header. -/
structure UploadHandled (A : Aead) (ring : C2Keyring) (upload : JsonFields) : Prop where
  names : ∀ route, upload.get "route" = some (.obj route) → NamesHandled route
  image : ∀ plaintext, Authenticates A ring upload plaintext → ImageHeaderComplete plaintext

section

variable {route : JsonFields} {name : String}

theorem fieldFits_clean (width : String) (bound : ℤ) :
    (fieldFits width bound route name).Clean := by
  rw [fieldFits, Py.clean_bind]
  refine ⟨?_, fun value _ => (Py.clean_bind_of_clean (Py.onlyAppFrameError_raiseIf _ _).clean).mpr
    fun _ _ => Py.clean_ok value⟩
  unfold fieldInt
  split
  · exact Py.clean_ok _
  · exact Py.clean_ok _
  · split
    · exact Py.clean_ok _
    · exact Py.clean_error.mpr rfl
  · exact Py.clean_error.mpr rfl

/-- **A named field is read cleanly** when its value is an integer or a text, or none. -/
theorem fieldNamed_clean_iff {convert : NameOrInt → Py ℤ}
    (hconvert : ∀ argument, (convert argument).OnlyAppFrameError) :
    (fieldNamed convert route name).Clean ↔ route.Named name := by
  unfold fieldNamed JsonFields.Named
  cases hget : route.get name with
  | none => exact iff_of_true (Py.clean_error.mpr rfl) fun _ h => by cases h
  | some value =>
    have hread : (∀ value', some value = some value' → value'.IsNamed) ↔ value.IsNamed :=
      ⟨fun h => h value rfl, fun h _ heq => Option.some.inj heq ▸ h⟩
    rw [hread]
    cases value with
    | null => exact iff_of_true (Py.clean_error.mpr rfl) trivial
    | bool value => exact iff_of_true (hconvert _).clean trivial
    | int value => exact iff_of_true (hconvert _).clean trivial
    | str text => exact iff_of_true (hconvert _).clean trivial
    | float value => exact iff_of_false (fun h => Bool.false_ne_true (h _ rfl)) id
    | arr items => exact iff_of_false (fun h => Bool.false_ne_true (h _ rfl)) id
    | obj fields => exact iff_of_false (fun h => Bool.false_ne_true (h _ rfl)) id

theorem fieldAddressType_clean_iff : (fieldAddressType route name).Clean ↔ route.Named name :=
  fieldNamed_clean_iff fun _ => namedValue_onlyAppFrameError _ _ _ _

theorem fieldTrafficClass_clean_iff : (fieldTrafficClass route name).Clean ↔ route.Named name :=
  fieldNamed_clean_iff fun _ => namedValue_onlyAppFrameError _ _ _ _

theorem fieldMessageType_clean_iff : (fieldMessageType route name).Clean ↔ route.Named name :=
  fieldNamed_clean_iff fun _ => namedValue_onlyAppFrameError _ _ _ _

theorem fieldU8_clean : (fieldU8 route name).Clean := fieldFits_clean _ _

theorem fieldU32_clean : (fieldU32 route name).Clean := fieldFits_clean _ _

end

/-! ### The upload -/

/-- **An upload is read cleanly** when its named fields are handled. -/
theorem readUpload_clean_iff {upload : JsonFields} :
    (readUpload upload).Clean ↔
      ∀ route, upload.get "route" = some (.obj route) → NamesHandled route := by
  unfold readUpload
  split
  · rename_i route hroute
    have hread : (∀ route', upload.get "route" = some (.obj route') → NamesHandled route') ↔
        NamesHandled route := by
      constructor
      · exact fun h => h route hroute
      · intro h route' hroute'
        obtain rfl := Json.obj.inj (Option.some.inj (hroute.symm.trans hroute'))
        exact h
    rw [hread]
    simp only [Py.clean_bind, fieldAddressType_clean_iff, fieldTrafficClass_clean_iff,
      fieldMessageType_clean_iff, fieldU8_clean, fieldU32_clean, true_and]
    constructor
    · rintro ⟨horigin, h⟩
      exact ⟨horigin, fun ot oid h₁ h₂ => (h ot h₁ oid h₂).1,
        fun ot oid dt did ttl seq h₁ h₂ h₃ h₄ h₅ h₆ =>
          ((h ot h₁ oid h₂).2 dt h₃ did h₄ ttl h₅ seq h₆).1,
        fun ot oid dt did ttl seq tc h₁ h₂ h₃ h₄ h₅ h₆ h₇ =>
          (((h ot h₁ oid h₂).2 dt h₃ did h₄ ttl h₅ seq h₆).2 tc h₇).1⟩
    · intro h
      refine ⟨h.originType, fun ot h₁ oid h₂ => ⟨h.destinationType ot oid h₁ h₂,
        fun dt h₃ did h₄ ttl h₅ seq h₆ => ⟨h.trafficClass ot oid dt did ttl seq h₁ h₂ h₃ h₄ h₅ h₆,
          fun tc h₇ => ⟨h.innerType ot oid dt did ttl seq tc h₁ h₂ h₃ h₄ h₅ h₆ h₇,
            fun it _ => ?_⟩⟩⟩⟩
      -- What comes after the fields only raises `AppFrameError`.
      split
      · refine Py.clean_bind.mpr ⟨(Py.onlyAppFrameError_raiseIf _ _).clean, fun _ _ => ?_⟩
        refine Py.clean_bind.mpr ⟨(Py.onlyAppFrameError_raiseIf _ _).clean, fun _ _ => ?_⟩
        split
        · exact Py.clean_error.mpr rfl
        · exact Py.clean_ok _
      · exact Py.clean_error.mpr rfl
  · rename_i hroute
    refine iff_of_true (Py.clean_error.mpr rfl) fun route h => absurd h (hroute route)

/-- **An upload is opened cleanly** when it is read cleanly. -/
theorem openUpload_clean_iff {A : Aead} {ring : C2Keyring} {upload : JsonFields} :
    (openUpload A ring upload).Clean ↔ (readUpload upload).Clean := by
  rw [openUpload, Py.clean_bind]
  refine and_iff_left fun route _ => ?_
  refine Py.clean_bind.mpr
    ⟨(decodeSecurePayload_onlyAppFrameError _).clean, fun secure hsecure => ?_⟩
  have hvalid := (decodeSecurePayload_eq_ok_iff.mp hsecure).1
  refine Py.clean_bind.mpr ⟨(Py.onlyAppFrameError_raiseIf _ _).clean, fun _ _ => ?_⟩
  split
  · exact Py.clean_error.mpr rfl
  · refine Py.clean_bind.mpr
      ⟨(encodeRouteV2E2eAssociatedData_onlyAppFrameError _ _ _ _ _ _ _ _ :
        Py.OnlyAppFrameError _).clean, fun aad _ => ?_⟩
    refine Py.clean_bind.mpr
      ⟨(decryptSecurePayload_onlyAppFrameError hvalid _ _).clean, fun _ _ => Py.clean_ok _⟩

/-- Reading a byte that is there, and one that is not. -/
theorem byteAt_clean_iff {data : Bytes} {index : ℕ} :
    (byteAt data index).Clean ↔ index < data.length := by
  unfold byteAt
  by_cases h : index < data.length
  · rw [List.getElem?_eq_getElem h]
    exact iff_of_true (Py.clean_ok _) h
  · rw [List.getElem?_eq_none (not_lt.mp h)]
    exact iff_of_false (fun hclean => Bool.false_ne_true (hclean _ rfl)) h

theorem byteAt_of_lt {data : Bytes} {index : ℕ} (h : index < data.length) :
    ∃ value, byteAt data index = .ok value := by
  rw [byteAt, List.getElem?_eq_getElem h]
  exact ⟨_, rfl⟩

/-- **A plaintext is shown cleanly** when an image has its header. -/
theorem eventContent_clean_iff {plaintext : Bytes} :
    (eventContent plaintext).Clean ↔ ImageHeaderComplete plaintext := by
  unfold eventContent ImageHeaderComplete
  by_cases hmagic : plaintext.take 4 = kovaImageMagic
  · rw [if_pos hmagic, forall_prop_of_true hmagic]
    constructor
    · intro h
      obtain ⟨hwidth, h⟩ := Py.clean_bind.mp h
      obtain ⟨width, hwidth⟩ := byteAt_of_lt (byteAt_clean_iff.mp hwidth)
      obtain ⟨hheight, h⟩ := Py.clean_bind.mp (h width hwidth)
      obtain ⟨height, hheight⟩ := byteAt_of_lt (byteAt_clean_iff.mp hheight)
      exact byteAt_clean_iff.mp (Py.clean_bind.mp (h height hheight)).1
    · intro hlong
      refine Py.clean_bind.mpr ⟨byteAt_clean_iff.mpr (by omega), fun width _ => ?_⟩
      refine Py.clean_bind.mpr ⟨byteAt_clean_iff.mpr (by omega), fun height _ => ?_⟩
      exact Py.clean_bind.mpr ⟨byteAt_clean_iff.mpr hlong, fun _ _ => Py.clean_ok _⟩
  · rw [if_neg hmagic]
    exact iff_of_true (Py.clean_ok _) fun h => absurd h hmagic

/-! ### The call -/

section

variable {A : Aead} {ring : C2Keyring} {call : IngestCall}

/-- The call is answered with an event, or raises what the handler turns into an answer and
leaves the store as it was. -/
def IngestCall.RejectsCleanly (A : Aead) (store : C2EventStore) (call : IngestCall) : Prop :=
  (∃ event store', call.run A store = .ok event store') ∨
    ∃ e, call.run A store = .error e store ∧ e.isValueError = true

theorem authenticates_iff {upload : JsonFields} {plaintext : Bytes} :
    Authenticates A ring upload plaintext ↔
      ∃ o, openUpload A ring upload = .ok o ∧ o.plaintext = plaintext := by
  constructor
  · rintro ⟨r, secure, key, hread, hvalid, hbytes, hdomain, hkey, hbinding, hopen⟩
    exact ⟨⟨r, secure, key, (r.binding secure.plaintextLen).bytes, plaintext⟩,
      openUpload_eq_ok_iff.mpr ⟨hread, hvalid, hbytes, hdomain, hkey, hbinding, rfl, hopen⟩, rfl⟩
  · rintro ⟨o, ho, rfl⟩
    obtain ⟨hread, hvalid, hbytes, hdomain, hkey, hbinding, haad, hopen⟩ :=
      openUpload_eq_ok_iff.mp ho
    exact ⟨o.route, o.secure, o.key, hread, hvalid, hbytes, hdomain, hkey, hbinding,
      haad ▸ hopen⟩

/-- **The part before the lock is clean** when the upload is handled. -/
theorem prepareIngest_clean_iff :
    (prepareIngest A ring call).Clean ↔ UploadHandled A ring call.upload := by
  rw [prepareIngest, Py.clean_bind, openUpload_clean_iff, readUpload_clean_iff]
  have hevent : ∀ o : OpenedUpload, (do
      let event ← uploadEvent call.nowMs call.clientIp call.upload o
      pure (o.dedupeKey, event) : Py (List ℤ × C2Event)).Clean ↔
        ImageHeaderComplete o.plaintext := by
    intro o
    rw [Py.clean_bind, uploadEvent, Py.clean_bind, eventContent_clean_iff]
    exact ⟨fun h => h.1.1, fun h => ⟨⟨h, fun _ _ => Py.clean_ok _⟩, fun _ _ => Py.clean_ok _⟩⟩
  constructor
  · rintro ⟨hnames, hopen⟩
    refine ⟨hnames, fun plaintext hplaintext => ?_⟩
    obtain ⟨o, ho, rfl⟩ := authenticates_iff.mp hplaintext
    exact (hevent o).mp (hopen o ho)
  · intro h
    exact ⟨h.names, fun o ho =>
      (hevent o).mpr (h.image o.plaintext (authenticates_iff.mpr ⟨o, ho, rfl⟩))⟩

/-- **What a call raises** comes from the part before the lock, and the store is as it was. -/
theorem IngestCall.run_eq_error_iff {store store' : C2EventStore} {w : FifoSet (List ℤ)}
    (h : store.Tracks w) {e : PyError} :
    call.run A store = .error e store' ↔
      prepareIngest A store.keyring call = .error e ∧ store' = store := by
  rw [ingest_eq_prepare, PyM.bind_apply, PyM.monadLift_apply]
  cases hprepare : prepareIngest A store.keyring call with
  | error e' =>
    constructor
    · intro herror
      obtain ⟨rfl, rfl⟩ := EStateM.Result.error.inj herror
      exact ⟨rfl, rfl⟩
    · rintro ⟨heq, rfl⟩
      rw [Except.error.inj heq]
      rfl
  | ok entry =>
    obtain ⟨hkey, -⟩ := prepareIngest_eq_ok hprepare
    obtain ⟨event', store'', hrecord, -⟩ := record_tracks h hkey
    refine iff_of_false (fun herror => ?_) fun herror => by cases herror.1
    cases hrecord.symm.trans herror

end

/-- **Which uploads are rejected cleanly.**  In every state of the store that a run reaches,
a call returns an event, or raises `AppFrameError` or `ValueError` with the events, the
latest events and the dedupe keys as they were, exactly when no named field that is reached
is a float, a list or an object, and a plaintext that authenticates and starts like an image
has the whole header. -/
theorem ingest_rejects_cleanly_iff (A : Aead) (ring : C2Keyring) {ι : Type} [DecidableEq ι]
    {maxEvents : ℕ} (hmax : 1 ≤ maxEvents) {recorded : List (List ℤ × C2Event)}
    {s : IngestThreads ι} (hrun : IngestRun A ring maxEvents recorded s) (call : IngestCall) :
    call.RejectsCleanly A s.store ↔ UploadHandled A ring call.upload := by
  have hshows := hrun.shows hmax
  obtain ⟨w, htracks⟩ := hshows.tracked
  rw [← prepareIngest_clean_iff, ← hshows.keyring]
  constructor
  · rintro hclean e hprepare
    have herror := (call.run_eq_error_iff htracks).mpr ⟨hprepare, rfl⟩
    obtain ⟨event, store', hok⟩ | ⟨e', herror', hvalue⟩ := hclean
    · cases herror.symm.trans hok
    · obtain ⟨rfl, -⟩ := EStateM.Result.error.inj (herror.symm.trans herror')
      exact hvalue
  · intro hclean
    cases hcall : call.run A s.store with
    | ok event store' => exact Or.inl ⟨event, store', hcall⟩
    | error e store' =>
      obtain ⟨hprepare, rfl⟩ := (call.run_eq_error_iff htracks).mp hcall
      exact Or.inr ⟨e, hcall, hclean e hprepare⟩

/-- The handler of the request has an answer for how the call ends. -/
def IngestCall.answered (A : Aead) (store : C2EventStore) (call : IngestCall) : Bool :=
  match call.run A store with
  | .ok _ _ => true
  | .error e _ => e.isValueError

theorem IngestCall.RejectsCleanly.answered {A : Aead} {store : C2EventStore} {call : IngestCall}
    (h : call.RejectsCleanly A store) : call.answered A store = true := by
  unfold IngestCall.answered
  obtain ⟨event, store', hok⟩ | ⟨e, herror, hvalue⟩ := h
  · rw [hok]
  · rw [herror]
    exact hvalue

/-- A route whose origin type is a number with a fraction. -/
def floatOriginCall : IngestCall := ⟨0, "", [("route", .obj [("origin_type", .float (.finite (3 / 2)))])]⟩

/-- An uplink whose plaintext is the magic of an image and nothing more. -/
def shortImageCall : IngestCall :=
  let d : E2eBinding := ⟨addrNode, 2, addrC2, 1, 7, trafficC2Uplink, msgText, 4⟩
  ⟨0, "", c2Upload 1 none 0 { storedUplink 7 with
    innerPayload := (CryptoConfig.sampleUplink.wrap Aead.checksum Env.sample.urandom
      kovaImageMagic d.bytes).bytes }⟩

/-- **Two uploads get no answer**: a float for a name, and an image without its header. -/
theorem ingest_ends_without_answer :
    ¬ floatOriginCall.RejectsCleanly Aead.checksum sampleStore ∧
      ¬ shortImageCall.RejectsCleanly Aead.checksum sampleStore := by
  have hfloat : floatOriginCall.answered Aead.checksum sampleStore = false := by decide +kernel
  have himage : shortImageCall.answered Aead.checksum sampleStore = false := by decide +kernel
  exact ⟨fun h => Bool.false_ne_true (hfloat.symm.trans h.answered),
    fun h => Bool.false_ne_true (himage.symm.trans h.answered)⟩

/-- An uplink of a node is answered, and so its upload is handled. -/
theorem ingest_rejects_cleanly_sample :
    1 ≤ 1 ∧ (sampleCall 7).RejectsCleanly Aead.checksum sampleStore ∧
      UploadHandled Aead.checksum [C2Key.sample] (sampleCall 7).upload := by
  obtain ⟨event, hrun, -⟩ := sampleCall_recorded
  have hclean : (sampleCall 7).RejectsCleanly Aead.checksum sampleStore := Or.inl ⟨event, _, hrun⟩
  have hinitial : IngestRun Aead.checksum [C2Key.sample] 1 []
      (⟨sampleStore, fun _ => none⟩ : IngestThreads Unit) := IngestRun.initial
  exact ⟨le_rfl, hclean,
    (ingest_rejects_cleanly_iff Aead.checksum [C2Key.sample] le_rfl hinitial
      (sampleCall 7)).mp hclean⟩

end KovaWfb
