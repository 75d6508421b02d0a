/-
# The C2 server: `do_POST`

`C2Handler` of `python/examples/c2_http_server.py`, lines 443 to 468, and `_send` (476 to
488): the length of the body, the body as JSON, `ingest`, and the reply.  `AppFrameError`
and `ValueError` are answered with 400; any other exception ends the request without an
answer.

Each request has a thread of its own, but the store is touched under its lock only, so a
run of the server is a list of requests in the order in which they get the lock.
`accepted_responses_are_events`: what the clients read in the replies is what the server
stores.
-/

import KovaWfb.C2.StoreInvariant
import KovaWfb.C2.Post
import KovaWfb.Python.LoadsPlain

namespace KovaWfb

/-! ### The handler -/

/-- What the interpreter brings to the server: the encoder and the decoder of `json`, and
`str(exc)` of what `json.loads` raises on data that is no JSON and `int` on a text that is
no number. -/
structure ServerRuntime where
  json : JsonWriter
  loadsDepth : ℕ
  decodeError : Bytes → String
  intError : String → String

/-- A POST: its path, the `Content-Length` header, the bytes that follow, where it comes from
and when. -/
structure HttpRequest where
  path : String
  contentLength : Option String
  stream : Bytes
  clientIp : String
  nowMs : ℤ

/-- What `_send` writes. -/
structure HttpResponse where
  status : ℤ
  body : Bytes
  contentType : String

/-- `str(exc)`. -/
def PyError.text : PyError → String
  | .appFrameError msg | .valueError msg | .structError msg | .typeError msg | .attributeError msg
  | .indexError msg | .overflowError msg | .runtimeError msg | .wfbRsError msg => msg

/-- `self.rfile.read(length)`, for a length that is accepted. -/
def readBody (rt : ServerRuntime) (request : HttpRequest) : Py Bytes :=
  let header := request.contentLength.getD "0"
  match intBase10 header with
  | none => .error (.valueError (rt.intError header))
  | some length => do
      raiseIf (length ≤ 0 ∨ 1000000 < length) (.appFrameError "invalid Content-Length")
      pure (request.stream.take length.toNat)

/-- The upload in a body. -/
def bodyUpload (rt : ServerRuntime) (body : Bytes) : Py JsonFields :=
  match loads rt.loadsDepth body with
  | .error .notJson => .error (.valueError (rt.decodeError body))
  | .error (.raised error) => .error error
  | .ok doc =>
      match doc.toJson with
      | .obj upload => pure upload
      | _ => .error (.appFrameError "request body must be a JSON object")

/-- The `try` block: the event, behind the upload it was made of. -/
def postIngest (A : Aead) (rt : ServerRuntime) (request : HttpRequest) :
    PyM C2EventStore (JsonFields × C2Event) := do
  let body ← liftM (readBody rt request)
  let upload ← liftM (bodyUpload rt body)
  let event ← ingest A request.nowMs request.clientIp upload
  pure (upload, event)

/-- An integer of an event as it is written: `True` and `False` are integers too, and stay as
the route object had them. -/
def shownInt (upload : JsonFields) (name : String) (value : ℤ) : Json :=
  match upload.get "route" with
  | some (.obj route) =>
      match JsonFields.get route name with
      | some (.bool given) => .bool given
      | _ => .int value
  | _ => .int value

/-- The reply to an upload that was taken. -/
def acceptedReply (upload : JsonFields) (event : C2Event) : Json :=
  .obj [("ok", .bool true), ("duplicate", .bool event.duplicate),
    ("origin_id", shownInt upload "origin_id" event.originId),
    ("origin_seq", shownInt upload "origin_seq" event.originSeq)]

/-- The reply to one that was not. -/
def rejectedReply (error : PyError) : Json := .obj [("ok", .bool false), ("error", .str error.text)]

/-- `self._send(status, json.dumps(reply).encode("utf-8"), "application/json")`. -/
def sendJson (rt : ServerRuntime) (status : ℤ) (reply : Json) : Py HttpResponse := do
  let body ← dumps rt.json .spaced reply.doc
  pure { status, body, contentType := "application/json" }

/-- `do_POST`. -/
def doPost (A : Aead) (rt : ServerRuntime) (request : HttpRequest) :
    PyM C2EventStore HttpResponse := fun store =>
  if request.path ≠ "/ingest" then
    .ok ⟨404, encodeChars "not found\n".toList, "text/plain"⟩ store
  else match postIngest A rt request store with
    | .ok (upload, event) store' => PyM.lift (sendJson rt 200 (acceptedReply upload event)) store'
    | .error error store' =>
        if error.isValueError then PyM.lift (sendJson rt 400 (rejectedReply error)) store'
        else .error error store'

/-- A request that raised has no answer. -/
def serve (A : Aead) (rt : ServerRuntime) (store : C2EventStore) (request : HttpRequest) :
    Option HttpResponse × C2EventStore :=
  match doPost A rt request store with
  | .ok response store' => (some response, store')
  | .error _ store' => (none, store')

/-- A run of the server: the answers, and the store behind them. -/
def serveAll (A : Aead) (rt : ServerRuntime) :
    C2EventStore → List HttpRequest → List (Option HttpResponse) × C2EventStore
  | store, [] => ([], store)
  | store, request :: requests =>
      let (response, store') := serve A rt store request
      let (responses, last) := serveAll A rt store' requests
      (response :: responses, last)

/-! ### What a client reads -/

/-- A number that `json.dumps` can write. -/
def Printable (value : ℤ) : Prop := (Nat.toDigits 10 value.natAbs).length ≤ 4300

instance (value : ℤ) : Decidable (Printable value) := inferInstanceAs (Decidable (_ ≤ _))

theorem digits_of_fitsWidth {width : ℕ} {value : ℤ} (h : FitsWidth width value) (hw : width ≤ 4) :
    Printable value := by
  have hpow : (256 : ℤ) ^ width ≤ 256 ^ 4 := pow_le_pow_right₀ (by decide) hw
  obtain ⟨hlow, hhigh⟩ := h
  exact digits_of_lt (by omega)

theorem shownInt_cases (upload : JsonFields) (name : String) (value : ℤ) :
    shownInt upload name value = .int value ∨ ∃ given, shownInt upload name value = .bool given := by
  unfold shownInt
  split
  · split
    · exact Or.inr ⟨_, rfl⟩
    · exact Or.inl rfl
  · exact Or.inl rfl

theorem plain_shownInt {upload : JsonFields} {name : String} {value : ℤ} {width : ℕ}
    {floatRepr : ℚ → List Char} (h : FitsWidth width value) (hw : width ≤ 4) :
    (shownInt upload name value).doc.Plain floatRepr := by
  obtain hint | ⟨given, hbool⟩ := shownInt_cases upload name value
  · rw [hint]
    exact digits_of_fitsWidth h hw
  · rw [hbool]
    trivial

theorem plain_acceptedReply {upload : JsonFields} {event : C2Event} {floatRepr : ℚ → List Char}
    (hid : FitsWidth 1 event.originId) (hseq : FitsWidth 4 event.originSeq) :
    (acceptedReply upload event).doc.Plain floatRepr := by
  refine ⟨?_, ⟨plain_codePoints _, trivial⟩, ⟨plain_codePoints _, trivial⟩,
    ⟨plain_codePoints _, plain_shownInt hid (by decide)⟩,
    ⟨plain_codePoints _, plain_shownInt hseq (by decide)⟩, trivial⟩
  show ([codePoints "ok", codePoints "duplicate", codePoints "origin_id",
    codePoints "origin_seq"] : List CodePoints).Nodup
  decide

theorem plain_rejectedReply (error : PyError) {floatRepr : ℚ → List Char} :
    (rejectedReply error).doc.Plain floatRepr := by
  refine ⟨?_, ⟨plain_codePoints _, trivial⟩, ⟨plain_codePoints _, plain_codePoints _⟩, trivial⟩
  show ([codePoints "ok", codePoints "error"] : List CodePoints).Nodup
  decide

/-- The depth of a reply. -/
theorem depth_acceptedReply (upload : JsonFields) (event : C2Event) :
    (acceptedReply upload event).doc.depth = 1 := by
  have hflat : ∀ name value, (shownInt upload name value).doc.depth = 0 := by
    intro name value
    obtain hint | ⟨given, hbool⟩ := shownInt_cases upload name value
    · rw [hint]
      rfl
    · rw [hbool]
      rfl
  simp only [acceptedReply, Json.doc, fieldsDoc, fieldDoc, JsonDoc.depth, fieldsDepth, fieldDepth,
    hflat]
  rfl

/-- A value that is an integer, `bool` included. -/
def JsonDoc.asInt? : JsonDoc → Option ℤ
  | .int value => some value
  | .bool value => some (boolInt value)
  | _ => none

/-- An integer of the route object is written as a value that is this integer. -/
theorem asInt_shownInt {upload route : JsonFields} {name width : String} {bound value : ℤ}
    (hroute : upload.get "route" = some (.obj route))
    (h : fieldFits width bound route name = .ok value) :
    (shownInt upload name value).doc.asInt? = some value := by
  obtain ⟨found, hint, h⟩ := Py.bind_eq_ok.mp h
  obtain ⟨-, h⟩ := Py.raiseIf_bind_eq_ok.mp h
  obtain rfl := Py.pure_eq_ok.mp h
  rw [shownInt, hroute]
  dsimp only
  split
  · rename_i given hgiven
    rw [fieldInt, hgiven] at hint
    exact congrArg some (Py.pure_eq_ok.mp hint)
  · rfl

/-- What a reply shows of an upload that was read. -/
theorem asInt_of_readUpload {upload : JsonFields} {r : UploadRoute}
    (h : readUpload upload = .ok r) :
    (shownInt upload "origin_id" r.originId).doc.asInt? = some r.originId ∧
      (shownInt upload "origin_seq" r.originSeq).doc.asInt? = some r.originSeq := by
  unfold readUpload at h
  split at h
  · rename_i route hroute
    simp only [Py.bind_eq_ok] at h
    obtain ⟨_, -, _, hid, _, -, _, -, _, -, _, hseq, _, -, _, -, h⟩ := h
    split at h
    · simp only [Py.raiseIf_bind_eq_ok] at h
      obtain ⟨-, -, h⟩ := h
      split at h
      · cases h
      · obtain rfl := Py.pure_eq_ok.mp h
        exact ⟨asInt_shownInt hroute hid, asInt_shownInt hroute hseq⟩
    · cases h
  · cases h

/-- The origin and the sequence number of a new event, as a client reads them in the reply. -/
def accepted (depthLimit : ℕ) (response : HttpResponse) : Option (ℤ × ℤ) :=
  if response.status = 200 then
    match loads depthLimit response.body with
    | .ok (.obj reply) =>
        match DocFields.get reply "duplicate", (DocFields.get reply "origin_id").bind JsonDoc.asInt?,
          (DocFields.get reply "origin_seq").bind JsonDoc.asInt? with
        | some (.bool false), some originId, some originSeq => some (originId, originSeq)
        | _, _, _ => none
    | _ => none
  else none

/-- **A reply reads back.** -/
theorem sendJson_reads {rt : ServerRuntime} (status : ℤ) {reply : Json} {depthLimit : ℕ}
    (hplain : reply.doc.Plain rt.json.floatRepr) (hwrite : reply.doc.depth ≤ rt.json.depthLimit)
    (hread : reply.doc.depth ≤ depthLimit) :
    ∃ body, sendJson rt status reply = .ok ⟨status, body, "application/json"⟩ ∧
      loads depthLimit body = .ok reply.doc := by
  obtain ⟨body, hbody, hloads⟩ : ∃ body, dumps rt.json .spaced reply.doc = .ok body ∧
    loads depthLimit body = .ok reply.doc := loads_dumps hplain hwrite hread
  exact ⟨body, Py.bind_eq_ok.mpr ⟨body, hbody, rfl⟩, hloads⟩

theorem accepted_of_reads {upload : JsonFields} {event : C2Event} {depthLimit : ℕ} {body : Bytes}
    {contentType : String}
    (hid : (shownInt upload "origin_id" event.originId).doc.asInt? = some event.originId)
    (hseq : (shownInt upload "origin_seq" event.originSeq).doc.asInt? = some event.originSeq)
    (h : loads depthLimit body = .ok (acceptedReply upload event).doc) :
    accepted depthLimit ⟨200, body, contentType⟩ =
      if event.duplicate then none else some (event.originId, event.originSeq) := by
  obtain ⟨reply, hreply, hduplicate, horigin, hnumber⟩ : ∃ reply,
      (acceptedReply upload event).doc = .obj reply ∧
        DocFields.get reply "duplicate" = some (.bool event.duplicate) ∧
        DocFields.get reply "origin_id" = some (shownInt upload "origin_id" event.originId).doc ∧
        DocFields.get reply "origin_seq" = some (shownInt upload "origin_seq" event.originSeq).doc :=
    ⟨_, rfl, rfl, rfl, rfl⟩
  rw [accepted, if_pos rfl, h, hreply]
  dsimp only
  rw [hduplicate, horigin, hnumber, Option.bind_some, Option.bind_some, hid, hseq]
  cases event.duplicate <;> rfl

/-! ### Runs -/

section

variable {A : Aead} {ring : C2Keyring} {maxEvents : ℕ}

/-- The ids of an event fit in their fields, and can be read where they are written. -/
structure ShowsIds (upload : JsonFields) (event : C2Event) : Prop where
  id : FitsWidth 1 event.originId
  seq : FitsWidth 4 event.originSeq
  shownId : (shownInt upload "origin_id" event.originId).doc.asInt? = some event.originId
  shownSeq : (shownInt upload "origin_seq" event.originSeq).doc.asInt? = some event.originSeq

theorem showsIds_of_openUpload {nowMs : ℤ} {clientIp : String} {upload : JsonFields}
    {o : OpenedUpload} {event : C2Event} (hopen : openUpload A ring upload = .ok o)
    (hevent : uploadEvent nowMs clientIp upload o = .ok event) : ShowsIds upload event := by
  obtain ⟨hread, -, -, -, -, hvalid, -, -⟩ := openUpload_eq_ok_iff.mp hopen
  obtain ⟨content, -, hevent⟩ := Py.bind_eq_ok.mp hevent
  obtain rfl := Py.pure_eq_ok.mp hevent
  obtain ⟨hid, hseq⟩ := asInt_of_readUpload hread
  exact ⟨hvalid.origin.id, hvalid.originSeq, hid, hseq⟩

theorem showsIds_of_prepareIngest {call : IngestCall} {entry : List ℤ × C2Event}
    (h : prepareIngest A ring call = .ok entry) : ShowsIds call.upload entry.2 := by
  obtain ⟨o, hopen, h⟩ := Py.bind_eq_ok.mp h
  obtain ⟨event, hevent, h⟩ := Py.bind_eq_ok.mp h
  obtain rfl := Py.pure_eq_ok.mp h
  exact showsIds_of_openUpload hopen hevent

/-- **How a call can end** in a store that a run reaches: it raises and leaves the store
alone, or its event is known and it does so too, or the event is recorded. -/
theorem IngestRun.call_cases {recorded : List (List ℤ × C2Event)} {store : C2EventStore}
    (hmax : 1 ≤ maxEvents) (hrun : IngestRun A ring maxEvents recorded (⟨store, fun _ => none⟩ :
      IngestThreads Unit)) (call : IngestCall) :
    (∃ error, call.run A store = .error error store) ∨
      ∃ entry store', prepareIngest A ring call = .ok entry ∧
        ((call.run A store = .ok { entry.2 with duplicate := true } store) ∨
          (call.run A store = .ok entry.2 store' ∧
            IngestRun A ring maxEvents (recorded ++ [entry]) (⟨store', fun _ => none⟩ :
              IngestThreads Unit))) := by
  have hshows := hrun.shows hmax
  have hkeyring := hshows.keyring
  dsimp only at hkeyring
  cases hprepare : prepareIngest A ring call with
  | error error =>
    refine Or.inl ⟨error, ?_⟩
    rw [ingest_eq_prepare, hkeyring, PyM.bind_apply, PyM.monadLift_apply, hprepare]
    rfl
  | ok entry =>
    have hstep : IngestStep A (⟨store, fun _ => none⟩ : IngestThreads Unit) .prepared
        ⟨store, Function.update (fun _ => none) () (some entry)⟩ :=
      .prepare () call entry rfl (by rw [hkeyring, hprepare])
    have hprepared := hrun.step hstep
    have hwaiting : (⟨store, Function.update (fun _ => none) () (some entry)⟩ :
        IngestThreads Unit).waiting () = some (entry.1, entry.2) := by
      exact Function.update_self (f := fun _ => none) () (some entry)
    have hcall : call.run A store = record entry.1 entry.2 store := by
      rw [ingest_eq_prepare, hkeyring, PyM.bind_apply, PyM.monadLift_apply, hprepare]
      rfl
    rcases (hprepared.shows hmax).record_cases hwaiting with hknown | ⟨w, -, -, hnew, -⟩
    · exact Or.inr ⟨entry, store, rfl, Or.inl (hcall.trans hknown)⟩
    · have hrecorded : IngestOutcome.recorded (.answered entry.1 entry.2) = [entry] := by
        rw [IngestOutcome.recorded_answered, (prepareIngest_eq_ok hprepare).2]
        rfl
      have hanswered := hprepared.step (.answer () entry.1 entry.2 entry.2 _ hwaiting hnew)
      rw [IngestOutcome.recorded_prepared, List.append_nil, hrecorded, Function.update_idem,
        Function.update_eq_self_iff.mpr rfl] at hanswered
      exact Or.inr ⟨entry, _, rfl, Or.inr ⟨hcall.trans hnew, hanswered⟩⟩

/-- The upload of a request is read before the store is touched. -/
theorem postIngest_eq (rt : ServerRuntime) (request : HttpRequest) (store : C2EventStore) :
    postIngest A rt request store =
      match readBody rt request >>= bodyUpload rt with
      | .error error => .error error store
      | .ok upload =>
          match IngestCall.run A ⟨request.nowMs, request.clientIp, upload⟩ store with
          | .ok event store' => .ok (upload, event) store'
          | .error error store' => .error error store' := by
  rw [postIngest, PyM.bind_apply, PyM.monadLift_apply]
  cases readBody rt request with
  | error error => rfl
  | ok body =>
    show ((liftM (bodyUpload rt body) >>= fun upload => ingest A request.nowMs request.clientIp
      upload >>= fun event => pure (upload, event) : PyM C2EventStore (JsonFields × C2Event))
        store) = _
    rw [PyM.bind_apply, PyM.monadLift_apply, Py.ok_bind]
    cases bodyUpload rt body with
    | error error => rfl
    | ok upload =>
      dsimp only [PyM.lift_ok]
      rw [PyM.bind_apply, IngestCall.run]
      dsimp only
      cases ingest A request.nowMs request.clientIp upload store <;> rfl

/-- What a request recorded, as the reply tells it. -/
def toldBy (depthLimit : ℕ) (response : Option HttpResponse) : List (ℤ × ℤ) :=
  (response.bind (accepted depthLimit)).toList

variable {rt : ServerRuntime} {depthLimit : ℕ}

/-- A request that raises is answered with another status than 200, if at all. -/
theorem serve_of_error {store : C2EventStore} {request : HttpRequest} {error : PyError}
    (hpath : request.path = "/ingest") (h : postIngest A rt request store = .error error store)
    (hwrite : 1 ≤ rt.json.depthLimit) (hread : 1 ≤ depthLimit) :
    (serve A rt store request).2 = store ∧ toldBy depthLimit (serve A rt store request).1 = [] := by
  rw [serve, doPost, if_neg (not_not.mpr hpath), h]
  dsimp only
  split_ifs with hvalue
  · obtain ⟨body, hbody, -⟩ := sendJson_reads 400 (plain_rejectedReply error) hwrite hread
    rw [hbody]
    exact ⟨rfl, rfl⟩
  · exact ⟨rfl, rfl⟩

/-- One that returns an event is answered with its reply. -/
theorem serve_of_ok {store store' : C2EventStore} {request : HttpRequest} {upload : JsonFields}
    {event : C2Event} (hpath : request.path = "/ingest")
    (h : postIngest A rt request store = .ok (upload, event) store')
    (hids : ShowsIds upload event) (hwrite : 1 ≤ rt.json.depthLimit) (hread : 1 ≤ depthLimit) :
    (serve A rt store request).2 = store' ∧ toldBy depthLimit (serve A rt store request).1 =
      if event.duplicate then [] else [(event.originId, event.originSeq)] := by
  have hdepth := depth_acceptedReply upload event
  obtain ⟨body, hbody, hloads⟩ := sendJson_reads 200 (plain_acceptedReply hids.id hids.seq)
    (hdepth.trans_le hwrite) (hdepth.trans_le hread)
  rw [serve, doPost, if_neg (not_not.mpr hpath), h]
  dsimp only
  rw [hbody]
  refine ⟨rfl, ?_⟩
  show (accepted depthLimit ⟨200, body, "application/json"⟩).toList = _
  rw [accepted_of_reads hids.shownId hids.shownSeq hloads]
  cases event.duplicate <;> rfl

/-- What a request takes to the lock. -/
def HttpRequest.Prepares (A : Aead) (rt : ServerRuntime) (ring : C2Keyring) (request : HttpRequest)
    (entry : List ℤ × C2Event) : Prop :=
  ∃ upload, readBody rt request >>= bodyUpload rt = .ok upload ∧
    prepareIngest A ring ⟨request.nowMs, request.clientIp, upload⟩ = .ok entry

/-- **One request**: what its answer tells is what was recorded. -/
theorem IngestRun.serve {recorded : List (List ℤ × C2Event)} {store : C2EventStore}
    (hmax : 1 ≤ maxEvents) (hrun : IngestRun A ring maxEvents recorded (⟨store, fun _ => none⟩ :
      IngestThreads Unit)) (hwrite : 1 ≤ rt.json.depthLimit) (hread : 1 ≤ depthLimit)
    (request : HttpRequest) :
    ∃ new, IngestRun A ring maxEvents (recorded ++ new)
        (⟨(KovaWfb.serve A rt store request).2, fun _ => none⟩ : IngestThreads Unit) ∧
      (∀ entry ∈ new, request.Prepares A rt ring entry) ∧
      new.map (fun r => (r.2.originId, r.2.originSeq)) =
        toldBy depthLimit (KovaWfb.serve A rt store request).1 := by
  have hnone : ∀ {store' : C2EventStore} {told : List (ℤ × ℤ)}, store' = store ∧ told = [] →
      ∃ new, IngestRun A ring maxEvents (recorded ++ new)
          (⟨store', fun _ => none⟩ : IngestThreads Unit) ∧
        (∀ entry ∈ new, request.Prepares A rt ring entry) ∧
        new.map (fun r => (r.2.originId, r.2.originSeq)) = told := by
    rintro _ _ ⟨rfl, rfl⟩
    exact ⟨[], by rwa [List.append_nil], fun _ h => absurd h List.not_mem_nil, rfl⟩
  by_cases hpath : request.path = "/ingest"
  case neg =>
    refine hnone ?_
    rw [KovaWfb.serve, doPost, if_pos hpath]
    exact ⟨rfl, rfl⟩
  have hpost := postIngest_eq (A := A) rt request store
  cases hupload : readBody rt request >>= bodyUpload rt with
  | error error =>
    rw [hupload] at hpost
    exact hnone (serve_of_error hpath hpost hwrite hread)
  | ok upload =>
    rw [hupload] at hpost
    dsimp only at hpost
    obtain ⟨error, herror⟩ | ⟨entry, store', hprepare, hcall⟩ :=
      hrun.call_cases hmax ⟨request.nowMs, request.clientIp, upload⟩
    · rw [herror] at hpost
      exact hnone (serve_of_error hpath hpost hwrite hread)
    · have hids := showsIds_of_prepareIngest hprepare
      rcases hcall with hknown | ⟨hnew, hrun'⟩
      · rw [hknown] at hpost
        exact hnone (serve_of_ok hpath hpost ⟨hids.id, hids.seq, hids.shownId, hids.shownSeq⟩
          hwrite hread)
      · rw [hnew] at hpost
        obtain ⟨hstore, htold⟩ := serve_of_ok hpath hpost hids hwrite hread
        rw [(prepareIngest_eq_ok hprepare).2] at htold
        exact ⟨[entry], by rwa [hstore],
          List.forall_mem_singleton.mpr ⟨upload, hupload, hprepare⟩, htold.symm⟩

theorem IngestRun.serveAll {recorded : List (List ℤ × C2Event)} {store : C2EventStore}
    (hmax : 1 ≤ maxEvents) (hrun : IngestRun A ring maxEvents recorded (⟨store, fun _ => none⟩ :
      IngestThreads Unit)) (hwrite : 1 ≤ rt.json.depthLimit) (hread : 1 ≤ depthLimit)
    (requests : List HttpRequest) :
    ∃ new, IngestRun A ring maxEvents (recorded ++ new)
        (⟨(KovaWfb.serveAll A rt store requests).2, fun _ => none⟩ : IngestThreads Unit) ∧
      (∀ entry ∈ new, ∃ request ∈ requests, request.Prepares A rt ring entry) ∧
      new.map (fun r => (r.2.originId, r.2.originSeq)) =
        (KovaWfb.serveAll A rt store requests).1.flatMap (toldBy depthLimit) := by
  induction requests generalizing recorded store with
  | nil => exact ⟨[], by rwa [List.append_nil], fun _ h => absurd h List.not_mem_nil, rfl⟩
  | cons request requests ih =>
    obtain ⟨first, hfirst, hprepares, htold⟩ := hrun.serve hmax hwrite hread request
    obtain ⟨rest, hrest, hpreparesRest, htoldRest⟩ := ih hfirst
    rw [List.append_assoc] at hrest
    refine ⟨first ++ rest, hrest, List.forall_mem_append.mpr ⟨?_, ?_⟩, ?_⟩
    · exact fun entry h => ⟨request, List.mem_cons_self, hprepares entry h⟩
    · intro entry h
      obtain ⟨later, hlater, hentry⟩ := hpreparesRest entry h
      exact ⟨later, List.mem_cons_of_mem _ hlater, hentry⟩
    · rw [List.map_append, htold, htoldRest]
      rfl

/-- **The replies tell the store.**  After any requests, in the order in which they got the
lock, the events are those whose reply said 200 and not `duplicate`, newest first and at
most `max_events` of them, under the ids the reply gave; everything else a client can be
told, or not told, leaves the store alone. -/
theorem accepted_responses_are_events (A : Aead) (rt : ServerRuntime) (ring : C2Keyring)
    {maxEvents depthLimit : ℕ} (hmax : 1 ≤ maxEvents) (hwrite : 1 ≤ rt.json.depthLimit)
    (hread : 1 ≤ depthLimit) (requests : List HttpRequest) :
    (serveAll A rt (C2EventStore.initial ring maxEvents) requests).2.events.map
        (fun event => (event.originId, event.originSeq)) =
      ((serveAll A rt (C2EventStore.initial ring maxEvents) requests).1.flatMap
        (toldBy depthLimit)).reverse.take maxEvents := by
  obtain ⟨recorded, hrun, -, htold⟩ := (IngestRun.initial : IngestRun A ring maxEvents []
    (⟨C2EventStore.initial ring maxEvents, fun _ => none⟩ : IngestThreads Unit)).serveAll hmax
      hwrite hread requests
  have hevents := (hrun.shows hmax).events
  dsimp only at hevents
  rw [hevents, ← htold, List.nil_append, ← List.map_take, List.map_map, ← List.map_reverse,
    List.map_take]
  rfl

end

/-- Surroundings to run the model in: a recursion limit, and no floats to write. -/
def ServerRuntime.sample : ServerRuntime where
  json := ⟨100, fun _ => "0.0".toList⟩
  loadsDepth := 100
  decodeError := fun _ => "Expecting value"
  intError := fun _ => "invalid literal for int()"

/-- The POST of a call. -/
def uploadPost (call : IngestCall) : HttpRequest :=
  match dumps ServerRuntime.sample.json .compact (Json.obj call.upload).doc with
  | .ok body => ⟨"/ingest", some (toString body.length), body, "127.0.0.1", 0⟩
  | .error _ => ⟨"/ingest", none, [], "127.0.0.1", 0⟩

/-- The POST of the sample call. -/
def samplePost : HttpRequest := uploadPost (sampleCall 7)

/-- Of an upload, a body that is no JSON and a replay, the first is stored. -/
theorem accepted_responses_are_events_sample :
    (serveAll Aead.checksum ServerRuntime.sample (C2EventStore.initial [C2Key.sample] 10)
      [samplePost, ⟨"/ingest", some "1", [0], "127.0.0.1", 0⟩, samplePost]).2.events.map
        (fun event => (event.originId, event.originSeq)) = [(2, 7)] := by
  have htold : (serveAll Aead.checksum ServerRuntime.sample (C2EventStore.initial [C2Key.sample] 10)
      [samplePost, ⟨"/ingest", some "1", [0], "127.0.0.1", 0⟩, samplePost]).1.flatMap (toldBy 100) =
        [(2, 7)] := by
    decide +kernel
  rw [accepted_responses_are_events Aead.checksum ServerRuntime.sample [C2Key.sample]
    (show 1 ≤ 10 by decide) (show 1 ≤ ServerRuntime.sample.json.depthLimit by decide)
    (show 1 ≤ 100 by decide), htold]
  rfl

end KovaWfb
