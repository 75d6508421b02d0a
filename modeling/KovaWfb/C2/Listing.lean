/-
# What the C2 server shows

`do_GET` of `python/examples/c2_http_server.py`, lines 425 to 441: the page, the events and
the latest event of each node as JSON, behind any requests before it.

`listings_read_back`: what a client reads in the JSON are the events that the store holds and
the newest event of each node by node id, under the numbers that the replies told.
`page_shows_latest` is the same of the page, read by `html.unescape`.

An upload may ask for more than the server can write: `/events` and `/latest` have no handler
for an object that nests too deep, nor the page for a surrogate in a text.  `UploadClear` says
for which uploads this does not happen; those that the mesh node and the gateway write are
(`clear_c2Upload`).
-/

import KovaWfb.C2.Conversation
import KovaWfb.C2.Page

namespace KovaWfb

/-! ### `do_GET` -/

/-- The image fields of an event. -/
def imageFields : Option EventImage → JsonFields
  | some image => [("is_image", .bool true), ("image_width", .int image.width),
      ("image_height", .int image.height), ("image_pixel_format", .str image.pixelFormat),
      ("image_data_b64", .str image.dataB64)]
  | none => [("is_image", .bool false)]

/-- The fields of an event, its integers as numbers. -/
def C2Event.fields (event : C2Event) : JsonFields :=
  [("received_at_ms", .int event.receivedAtMs),
   ("client_ip", .str event.clientIp),
   ("gateway_id", event.gatewayId),
   ("gateway_channel", event.gatewayChannel),
   ("origin_type", .str event.originType),
   ("origin_id", .int event.originId),
   ("destination_type", .str event.destinationType),
   ("destination_id", .int event.destinationId),
   ("ttl", .int event.ttl),
   ("origin_seq", .int event.originSeq),
   ("traffic_class", .str event.trafficClass),
   ("inner_type", .str event.innerType),
   ("security_domain", .str event.securityDomain),
   ("key_id", .int event.keyId),
   ("key_epoch", .int event.keyEpoch),
   ("key_label", .str event.keyLabel),
   ("payload_len", .int event.payloadLen),
   ("duplicate", .bool event.duplicate)] ++
  imageFields event.image ++ [("payload_text", .str event.payloadText)]

/-- The `dict` of an event. -/
def C2Event.json (event : C2Event) : Json := .obj event.fields

/-- `{name: events}`. -/
def listing (name : String) (events : List C2Event) : Json :=
  .obj [(name, .arr (events.map C2Event.json))]

/-- A listing as it is sent. -/
def sendListing (rt : ServerRuntime) (name : String) (events : List C2Event) : Py HttpResponse := do
  let body ← dumps rt.json (.indented 2) (listing name events).doc
  pure ⟨200, body, "application/json"⟩

/-- `do_GET`. -/
def doGet (rt : ServerRuntime) (page : PageText) (path : String) (store : C2EventStore) :
    Py HttpResponse :=
  if path = "/" ∨ path = "/index.html" then
    pure ⟨200, renderHtml page store.latest, "text/html; charset=utf-8"⟩
  else if path = "/events" then sendListing rt "events" store.events
  else if path = "/latest" then sendListing rt "nodes" store.latest
  else if path = "/health" then
    pure ⟨200, encodeChars "\x7b\"ok\":true\x7d\n".toList, "application/json"⟩
  else pure ⟨404, encodeChars "not found\n".toList, "text/plain"⟩

/-! ### Events that can be written -/

/-- An event that `json.dumps` can write: its numbers are not too long, and what the gateway
said of itself can be written and nests to a depth at most. -/
structure C2Event.Writable (floatRepr : ℚ → List Char) (depth : ℕ) (event : C2Event) : Prop where
  numbers : ∀ value ∈ [event.receivedAtMs, event.originId, event.destinationId, event.ttl,
    event.originSeq, event.keyId, event.keyEpoch, event.payloadLen], Printable value
  image : ∀ image ∈ event.image, Printable image.width ∧ Printable image.height
  gateway : ∀ value ∈ [event.gatewayId, event.gatewayChannel],
    value.doc.Plain floatRepr ∧ value.doc.depth ≤ depth

section

variable {floatRepr : ℚ → List Char} {fields : JsonFields}

theorem map_fst_fieldsDoc :
    (fieldsDoc fields).map Prod.fst = fields.map fun field => codePoints field.1 := by
  induction fields with
  | nil => rfl
  | cons field fields ih => rw [fieldsDoc, List.map_cons, List.map_cons, ih, fieldDoc]

theorem codePoints_injective : Function.Injective codePoints := fun text text' h => by
  rw [← shown_codePoints text, h, shown_codePoints]

/-- An object is plain when its keys are apart and its values are plain. -/
theorem plain_obj (hkeys : (fields.map Prod.fst).Nodup)
    (hvalues : ∀ field ∈ fields, field.2.doc.Plain floatRepr) :
    (Json.obj fields).doc.Plain floatRepr := by
  have hfields : ∀ fields : JsonFields, (∀ field ∈ fields, field.2.doc.Plain floatRepr) →
      FieldsPlain floatRepr (fieldsDoc fields) := by
    intro fields h
    induction fields with
    | nil => trivial
    | cons field fields ih =>
      rw [List.forall_mem_cons] at h
      obtain ⟨name, value⟩ := field
      exact ⟨⟨plain_codePoints _, h.1⟩, ih h.2⟩
  refine ⟨?_, hfields fields hvalues⟩
  rw [map_fst_fieldsDoc]
  have hmap := hkeys.map codePoints_injective
  rwa [List.map_map] at hmap

theorem depth_obj_le {depth : ℕ} (h : ∀ field ∈ fields, field.2.doc.depth ≤ depth) :
    (Json.obj fields).doc.depth ≤ depth + 1 := by
  have hfields : ∀ fields : JsonFields, (∀ field ∈ fields, field.2.doc.depth ≤ depth) →
      fieldsDepth (fieldsDoc fields) ≤ depth := by
    intro fields h
    induction fields with
    | nil => exact Nat.zero_le _
    | cons field fields ih =>
      rw [List.forall_mem_cons] at h
      obtain ⟨name, value⟩ := field
      exact Nat.max_le.mpr ⟨h.1, ih h.2⟩
  exact Nat.add_le_add_right (hfields fields h) 1

theorem plain_arr {items : List Json} (h : ∀ item ∈ items, item.doc.Plain floatRepr) :
    (Json.arr items).doc.Plain floatRepr := by
  have hitems : ∀ items : List Json, (∀ item ∈ items, item.doc.Plain floatRepr) →
      ItemsPlain floatRepr (itemsDoc items) := by
    intro items h
    induction items with
    | nil => trivial
    | cons item items ih =>
      rw [List.forall_mem_cons] at h
      exact ⟨h.1, ih h.2⟩
  exact hitems items h

theorem depth_arr_le {depth : ℕ} {items : List Json} (h : ∀ item ∈ items, item.doc.depth ≤ depth) :
    (Json.arr items).doc.depth ≤ depth + 1 := by
  have hitems : ∀ items : List Json, (∀ item ∈ items, item.doc.depth ≤ depth) →
      itemsDepth (itemsDoc items) ≤ depth := by
    intro items h
    induction items with
    | nil => exact Nat.zero_le _
    | cons item items ih =>
      rw [List.forall_mem_cons] at h
      exact Nat.max_le.mpr ⟨h.1, ih h.2⟩
  exact Nat.add_le_add_right (hitems items h) 1

variable {depth : ℕ} {event : C2Event} {events : List C2Event}

/-- The names of the fields. -/
theorem C2Event.nodup_fields (event : C2Event) : (event.fields.map Prod.fst).Nodup := by
  have himage : ∀ image, ((imageFields image).map Prod.fst) =
      if image.isSome then ["is_image", "image_width", "image_height", "image_pixel_format",
        "image_data_b64"] else ["is_image"] := by
    intro image
    cases image <;> rfl
  rw [C2Event.fields, List.map_append, List.map_append, himage]
  cases event.image.isSome
  · show (["received_at_ms", "client_ip", "gateway_id", "gateway_channel", "origin_type", "origin_id",
      "destination_type", "destination_id", "ttl", "origin_seq", "traffic_class", "inner_type",
      "security_domain", "key_id", "key_epoch", "key_label", "payload_len", "duplicate", "is_image",
      "payload_text"] : List String).Nodup
    decide
  · show (["received_at_ms", "client_ip", "gateway_id", "gateway_channel", "origin_type", "origin_id",
      "destination_type", "destination_id", "ttl", "origin_seq", "traffic_class", "inner_type",
      "security_domain", "key_id", "key_epoch", "key_label", "payload_len", "duplicate", "is_image",
      "image_width", "image_height", "image_pixel_format", "image_data_b64",
      "payload_text"] : List String).Nodup
    decide

theorem C2Event.Writable.values (h : event.Writable floatRepr depth) :
    ∀ field ∈ event.fields, field.2.doc.Plain floatRepr ∧ field.2.doc.depth ≤ depth := by
  have htext : ∀ text : String,
      (Json.str text).doc.Plain floatRepr ∧ (Json.str text).doc.depth ≤ depth :=
    fun _ => ⟨plain_codePoints _, Nat.zero_le _⟩
  have hbool : ∀ value : Bool,
      (Json.bool value).doc.Plain floatRepr ∧ (Json.bool value).doc.depth ≤ depth :=
    fun _ => ⟨trivial, Nat.zero_le _⟩
  have hint : ∀ {value}, Printable value →
      (Json.int value).doc.Plain floatRepr ∧ (Json.int value).doc.depth ≤ depth :=
    fun hvalue => ⟨hvalue, Nat.zero_le _⟩
  have himage : ∀ field ∈ imageFields event.image,
      field.2.doc.Plain floatRepr ∧ field.2.doc.depth ≤ depth := by
    have hsize := h.image
    cases hcase : event.image with
    | none => exact List.forall_mem_singleton.mpr (hbool _)
    | some image =>
      obtain ⟨hwidth, hheight⟩ := hsize image hcase
      simp only [imageFields, List.forall_mem_cons]
      exact ⟨hbool _, hint hwidth, hint hheight, htext _, htext _, fun _ h => absurd h List.not_mem_nil⟩
  obtain ⟨hnumbers, -, hgateway⟩ := h
  simp only [List.forall_mem_cons] at hnumbers hgateway
  obtain ⟨hms, hid, hdestination, httl, hseq, hkey, hepoch, hlen, -⟩ := hnumbers
  rw [C2Event.fields, List.forall_mem_append, List.forall_mem_append, List.forall_mem_singleton]
  refine ⟨⟨?_, himage⟩, htext _⟩
  simp only [List.forall_mem_cons]
  exact ⟨hint hms, htext _, hgateway.1, hgateway.2.1, htext _, hint hid, htext _, hint hdestination,
    hint httl, hint hseq, htext _, htext _, htext _, hint hkey, hint hepoch, htext _, hint hlen,
    hbool _, fun _ h => absurd h List.not_mem_nil⟩

/-- **A listing reads back.** -/
theorem sendListing_reads {rt : ServerRuntime} {depthLimit : ℕ} (name : String)
    (hevents : ∀ event ∈ events, event.Writable rt.json.floatRepr depth)
    (hwrite : depth + 3 ≤ rt.json.depthLimit) (hread : depth + 3 ≤ depthLimit) :
    ∃ body, sendListing rt name events = .ok ⟨200, body, "application/json"⟩ ∧
      loads depthLimit body = .ok (listing name events).doc := by
  have hitem : ∀ item ∈ events.map C2Event.json,
      item.doc.Plain rt.json.floatRepr ∧ item.doc.depth ≤ depth + 1 := by
    intro item hitem
    obtain ⟨event, hevent, rfl⟩ := List.mem_map.mp hitem
    have hvalues := (hevents event hevent).values
    exact ⟨plain_obj event.nodup_fields fun field hfield => (hvalues field hfield).1,
      depth_obj_le fun field hfield => (hvalues field hfield).2⟩
  have hplain : (listing name events).doc.Plain rt.json.floatRepr :=
    plain_obj (List.nodup_singleton _)
      (List.forall_mem_singleton.mpr (plain_arr fun item h => (hitem item h).1))
  have hdepth : (listing name events).doc.depth ≤ depth + 3 :=
    depth_obj_le (List.forall_mem_singleton.mpr (depth_arr_le fun item h => (hitem item h).2))
  obtain ⟨body, hbody, hloads⟩ : ∃ body, dumps rt.json (.indented 2) (listing name events).doc =
      .ok body ∧ loads depthLimit body = .ok (listing name events).doc :=
    loads_dumps hplain (hdepth.trans hwrite) (hdepth.trans hread)
  exact ⟨body, Py.bind_eq_ok.mpr ⟨body, hbody, rfl⟩, hloads⟩

end
/-! ### What an upload may hold -/

/-- An upload whose event can be written: what the gateway says of itself can be, to a depth,
and the integers of the route are no `bool`s, which would be written as such. -/
structure UploadClear (floatRepr : ℚ → List Char) (depth : ℕ) (upload : JsonFields) : Prop where
  gateway : ∀ name ∈ ["gateway_id", "channel"], ∀ value, upload.get name = some value →
    value.doc.Plain floatRepr ∧ value.doc.depth ≤ depth
  integers : ∀ route, upload.get "route" = some (.obj route) →
    ∀ name ∈ ["origin_id", "destination_id", "ttl", "origin_seq"], ∀ given,
      JsonFields.get route name ≠ some (.bool given)

/-- The upload in a request, its texts without surrogates. -/
def HttpRequest.Wrote (rt : ServerRuntime) (request : HttpRequest) (upload : JsonFields) : Prop :=
  ∃ body, readBody rt request = .ok body ∧ loads rt.loadsDepth body = .ok (Json.obj upload).doc

/-- A request at a time that can be written, with an upload that can, if it has one. -/
structure HttpRequest.Clear (rt : ServerRuntime) (depth : ℕ) (request : HttpRequest) : Prop where
  nowMs : Printable request.nowMs
  upload : ∀ upload, readBody rt request >>= bodyUpload rt = .ok upload →
    request.Wrote rt upload ∧ UploadClear rt.json.floatRepr depth upload

section

variable {A : Aead} {ring : C2Keyring} {rt : ServerRuntime} {floatRepr : ℚ → List Char} {depth : ℕ}

theorem fits_of_fieldU8 {route : JsonFields} {name : String} {value : ℤ}
    (h : fieldU8 route name = .ok value) : FitsWidth 1 value := by
  obtain ⟨found, -, h⟩ := Py.bind_eq_ok.mp h
  obtain ⟨hfits, h⟩ := Py.raiseIf_bind_eq_ok.mp h
  obtain rfl := Py.pure_eq_ok.mp h
  exact fitsWidth_one_iff.mpr (not_not.mp hfits)

theorem fits_ttl_of_readUpload {upload : JsonFields} {r : UploadRoute}
    (h : readUpload upload = .ok r) : FitsWidth 1 r.ttl := by
  unfold readUpload at h
  split at h
  · simp only [Py.bind_eq_ok] at h
    obtain ⟨_, -, _, -, _, -, _, -, _, httl, _, -, _, -, _, -, h⟩ := h
    split at h
    · simp only [Py.raiseIf_bind_eq_ok] at h
      obtain ⟨-, -, h⟩ := h
      split at h
      · cases h
      · obtain rfl := Py.pure_eq_ok.mp h
        exact fits_of_fieldU8 httl
    · cases h
  · cases h

theorem printable_byteAt {data : Bytes} {index : ℕ} {value : ℤ} (h : byteAt data index = .ok value) :
    Printable value := by
  unfold byteAt at h
  split at h
  · rename_i b _
    obtain rfl := Py.pure_eq_ok.mp h
    have hb := UInt8.toNat_lt b
    exact digits_of_fitsWidth (show FitsWidth 1 (b.toNat : ℤ) from ⟨by omega, by omega⟩) (by decide)
  · cases h

theorem printable_image {plaintext : Bytes} {image : EventImage} {payloadText : String}
    (h : eventContent plaintext = .ok (some image, payloadText)) :
    Printable image.width ∧ Printable image.height := by
  unfold eventContent at h
  split_ifs at h
  · obtain ⟨width, hwidth, h⟩ := Py.bind_eq_ok.mp h
    obtain ⟨height, hheight, h⟩ := Py.bind_eq_ok.mp h
    obtain ⟨pixelFormat, -, h⟩ := Py.bind_eq_ok.mp h
    obtain rfl := Option.some.inj (Prod.ext_iff.mp (Py.pure_eq_ok.mp h)).1
    exact ⟨printable_byteAt hwidth, printable_byteAt hheight⟩
  · cases h

/-- The image of an event stands between quotes. -/
theorem scriptChar_imageOf {call : IngestCall} {entry : List ℤ × C2Event}
    (h : prepareIngest A ring call = .ok entry) {image : EventImage} (himage : image ∈ entry.2.image) :
    (∀ c ∈ image.dataB64.toList, ScriptChar c) ∧ ∀ c ∈ image.pixelFormat.toList, ScriptChar c := by
  obtain ⟨o, -, h⟩ := Py.bind_eq_ok.mp h
  obtain ⟨event, hevent, h⟩ := Py.bind_eq_ok.mp h
  obtain rfl := Py.pure_eq_ok.mp h
  obtain ⟨⟨shown, payloadText⟩, hcontent, hevent⟩ := Py.bind_eq_ok.mp hevent
  obtain rfl := Py.pure_eq_ok.mp hevent
  obtain rfl : shown = some image := himage
  exact scriptChar_image hcontent

/-- **The event of a clear upload can be written.** -/
theorem writable_of_prepareIngest (hA : A.LengthPreserving chacha20Poly1305TagSize)
    {call : IngestCall} {entry : List ℤ × C2Event} (h : prepareIngest A ring call = .ok entry)
    (hms : Printable call.nowMs) (hclear : UploadClear floatRepr depth call.upload) :
    entry.2.Writable floatRepr depth := by
  obtain ⟨o, hopen, h⟩ := Py.bind_eq_ok.mp h
  obtain ⟨event, hevent, h⟩ := Py.bind_eq_ok.mp h
  obtain rfl := Py.pure_eq_ok.mp h
  obtain ⟨hread, hsecure, -, -, -, hvalid, -, hdecrypt⟩ := openUpload_eq_ok_iff.mp hopen
  obtain ⟨⟨image, payloadText⟩, hcontent, hevent⟩ := Py.bind_eq_ok.mp hevent
  obtain rfl := Py.pure_eq_ok.mp hevent
  have hlen : FitsWidth 2 (o.plaintext.length : ℤ) := by
    have hciphertext := hA.length_of_decrypt _ _ _ _ _ hdecrypt
    have hfits : FitsWidth 2 o.secure.plaintextLen := hvalid.plaintextLen
    rwa [SecurePayload.plaintextLen, hciphertext, Nat.cast_add, add_sub_cancel_right] at hfits
  have hfits : ∀ {width : ℕ} {value : ℤ}, FitsWidth width value → width ≤ 4 → Printable value :=
    digits_of_fitsWidth
  constructor
  · simp only [List.forall_mem_cons]
    exact ⟨hms, hfits hvalid.origin.id (by decide), hfits hvalid.destination.id (by decide),
      hfits (fits_ttl_of_readUpload hread) (by decide), hfits hvalid.originSeq (by decide),
      hfits hsecure.keyId (by decide), hfits hsecure.keyEpoch (by decide), hfits hlen (by decide),
      fun _ h => absurd h List.not_mem_nil⟩
  · rintro shown rfl
    exact printable_image hcontent
  · have hgiven : ∀ name ∈ ["gateway_id", "channel"],
        ((call.upload.get name).getD .null).doc.Plain floatRepr ∧
          ((call.upload.get name).getD .null).doc.depth ≤ depth := by
      intro name hname
      have hvalue := hclear.gateway name hname
      cases hget : call.upload.get name with
      | none => exact ⟨trivial, Nat.zero_le _⟩
      | some value => exact hvalue value hget
    rw [List.forall_mem_cons, List.forall_mem_singleton] at hgiven ⊢
    exact hgiven

/-- The uploads of the programs are clear. -/
theorem clear_c2Upload {gatewayId receivedAtMs : ℤ} {channel : Option ℤ} {r : RouteDataV2}
    (h : UploadNumbers gatewayId channel receivedAtMs) :
    UploadClear floatRepr depth (c2Upload gatewayId channel receivedAtMs r) := by
  constructor
  · have hchannel : (Json.ofOption channel).doc.Plain floatRepr ∧
        (Json.ofOption channel).doc.depth ≤ depth := by
      cases channel with
      | none => exact ⟨trivial, Nat.zero_le _⟩
      | some n => exact ⟨h.channel n rfl, Nat.zero_le _⟩
    rw [List.forall_mem_cons, List.forall_mem_singleton]
    constructor
    · rintro value hvalue
      obtain rfl := Option.some.inj hvalue
      exact ⟨h.gatewayId, Nat.zero_le _⟩
    · rintro value hvalue
      obtain rfl := Option.some.inj hvalue
      exact hchannel
  · intro route hroute
    obtain rfl := Json.obj.inj (Option.some.inj hroute)
    have hgiven : ∀ name ∈ ["origin_id", "destination_id", "ttl", "origin_seq"],
        ∃ value, JsonFields.get (uploadRoute r) name = some (.int value) := by
      simp only [List.forall_mem_cons]
      exact ⟨⟨_, rfl⟩, ⟨_, rfl⟩, ⟨_, rfl⟩, ⟨_, rfl⟩, fun _ h => absurd h List.not_mem_nil⟩
    intro name hname given hget
    obtain ⟨value, hvalue⟩ := hgiven name hname
    cases hvalue.symm.trans hget

/-- A request in which a client wrote a clear upload is clear. -/
theorem clear_uploadRequest {w : JsonWriter} {upload : JsonFields} {body : Bytes} {clientIp : String}
    {nowMs : ℤ} (hbody : dumps w .compact (Json.obj upload).doc = .ok body)
    (hplain : (Json.obj upload).doc.Plain w.floatRepr)
    (hwrite : (Json.obj upload).doc.depth ≤ w.depthLimit)
    (hread : (Json.obj upload).doc.depth ≤ rt.loadsDepth)
    (hsize : docSize w.floatRepr .compact (Json.obj upload).doc ≤ 250000)
    (hms : Printable nowMs) (hclear : UploadClear rt.json.floatRepr depth upload) :
    (uploadRequest body clientIp nowMs).Clear rt depth := by
  have hloads : loads rt.loadsDepth body = .ok (Json.obj upload).doc := by
    obtain ⟨written, hwritten, hloads⟩ : ∃ written, dumps w .compact (Json.obj upload).doc =
      .ok written ∧ loads rt.loadsDepth written = .ok (Json.obj upload).doc :=
        loads_dumps hplain hwrite hread
    obtain rfl := Except.ok.inj (hbody.symm.trans hwritten)
    exact hloads
  have hlength := length_dumps_le rfl hbody
  have hpos : 0 < body.length := by
    rcases body with _ | ⟨b, bs⟩
    · cases hloads
    · exact Nat.succ_pos _
  have hbody' : readBody rt (uploadRequest body clientIp nowMs) = .ok body :=
    readBody_uploadRequest hpos (by omega)
  refine ⟨hms, fun found hfound => ?_⟩
  rw [hbody', Py.ok_bind, bodyUpload_of_loads hloads] at hfound
  obtain rfl := Except.ok.inj hfound
  exact ⟨⟨body, hbody', hloads⟩, hclear⟩

end
/-! ### Behind any requests -/

section

variable {ι : Type} {ring : C2Keyring} {maxEvents : ℕ} {recorded : List (List ℤ × C2Event)}
  {s : IngestThreads ι}

theorem C2EventStore.mem_latest {store : C2EventStore} {event : C2Event} :
    event ∈ store.latest ↔ ∃ id, (id, event) ∈ store.latestByNode := by
  simp only [latest, List.mem_map, List.mem_mergeSort, Prod.exists, exists_eq_right]

/-- **`latest()` is sorted by the node**, with one event of each. -/
theorem C2EventStore.LatestByOrigin.sorted {store : C2EventStore} (h : store.LatestByOrigin) :
    (store.latest.map C2Event.originId).Pairwise (· < ·) := by
  have hperm := List.mergeSort_perm store.latestByNode fun a b => a.1 ≤ b.1
  have hle : (store.latestByNode.mergeSort fun a b => a.1 ≤ b.1).Pairwise fun a b =>
      (decide (a.1 ≤ b.1)) = true :=
    List.pairwise_mergeSort
      (fun a b c hab hbc => decide_eq_true ((of_decide_eq_true hab).trans (of_decide_eq_true hbc)))
      (fun a b => by simp only [Bool.or_eq_true, decide_eq_true_eq]; exact le_total _ _)
      store.latestByNode
  have hne : (store.latestByNode.mergeSort fun a b => a.1 ≤ b.1).Pairwise fun a b => a.1 ≠ b.1 :=
    List.pairwise_map.mp ((hperm.map Prod.fst).nodup_iff.mpr h.nodup)
  have hids : store.latest.map C2Event.originId =
      (store.latestByNode.mergeSort fun a b => a.1 ≤ b.1).map Prod.fst := by
    rw [latest, List.map_map]
    exact List.map_congr_left fun entry hentry => h.origin entry (List.mem_mergeSort.mp hentry)
  rw [hids, List.pairwise_map]
  exact hle.imp₂ (fun _ _ hab hne => lt_of_le_of_ne (of_decide_eq_true hab) hne) hne

/-- What `latest()` shows was recorded. -/
theorem IngestThreads.Shows.recorded_of_mem_latest (h : s.Shows ring maxEvents recorded)
    {event : C2Event} (hevent : event ∈ s.store.latest) : ∃ key, (key, event) ∈ recorded := by
  obtain ⟨id, hid⟩ := C2EventStore.mem_latest.mp hevent
  have hlookup := (lookup_eq_some_iff_mem h.byOrigin.nodup).mpr hid
  rw [h.latest] at hlookup
  obtain ⟨entry, hentry, rfl⟩ := List.mem_map.mp (List.mem_of_find?_eq_some hlookup)
  exact ⟨entry.1, List.mem_reverse.mp hentry⟩

/-- And so was what `events()` shows. -/
theorem IngestThreads.Shows.recorded_of_mem_events (h : s.Shows ring maxEvents recorded)
    {event : C2Event} (hevent : event ∈ s.store.events) : ∃ key, (key, event) ∈ recorded := by
  rw [h.events] at hevent
  obtain ⟨entry, hentry, rfl⟩ := List.mem_map.mp (List.mem_of_mem_take hevent)
  exact ⟨entry.1, List.mem_reverse.mp hentry⟩

end

section

variable {A : Aead} {rt : ServerRuntime} {ring : C2Keyring} {maxEvents depthLimit depth : ℕ}
  {requests : List HttpRequest}

/-- The store behind a list of requests. -/
def storeAfter (A : Aead) (rt : ServerRuntime) (ring : C2Keyring) (maxEvents : ℕ)
    (requests : List HttpRequest) : C2EventStore :=
  (serveAll A rt (C2EventStore.initial ring maxEvents) requests).2

/-- What the replies to them told, in order. -/
def toldAfter (A : Aead) (rt : ServerRuntime) (ring : C2Keyring) (maxEvents depthLimit : ℕ)
    (requests : List HttpRequest) : List (ℤ × ℤ) :=
  (serveAll A rt (C2EventStore.initial ring maxEvents) requests).1.flatMap (toldBy depthLimit)

/-- **The run behind a list of requests.** -/
theorem exists_run_of_requests (A : Aead) (ring : C2Keyring) (hmax : 1 ≤ maxEvents)
    (hwrite : 1 ≤ rt.json.depthLimit) (hread : 1 ≤ depthLimit) (requests : List HttpRequest) :
    ∃ recorded, IngestThreads.Shows ring maxEvents recorded
        (⟨storeAfter A rt ring maxEvents requests, fun _ => none⟩ : IngestThreads Unit) ∧
      (∀ entry ∈ recorded, ∃ request ∈ requests, request.Prepares A rt ring entry) ∧
      recorded.map (fun r => (r.2.originId, r.2.originSeq)) =
        toldAfter A rt ring maxEvents depthLimit requests := by
  obtain ⟨recorded, hrun, hprepares, htold⟩ := (IngestRun.initial : IngestRun A ring maxEvents []
    (⟨C2EventStore.initial ring maxEvents, fun _ => none⟩ : IngestThreads Unit)).serveAll hmax
      hwrite hread requests
  rw [List.nil_append] at hrun
  exact ⟨recorded, hrun.shows hmax, hprepares, htold⟩

/-- An entry of a clear request can be written. -/
theorem HttpRequest.Clear.writable {request : HttpRequest} (h : request.Clear rt depth)
    (hA : A.LengthPreserving chacha20Poly1305TagSize) {entry : List ℤ × C2Event}
    (hprepares : request.Prepares A rt ring entry) : entry.2.Writable rt.json.floatRepr depth := by
  obtain ⟨upload, hupload, hprepare⟩ := hprepares
  exact writable_of_prepareIngest hA hprepare h.nowMs (h.upload upload hupload).2

/-- **The listings read back.**  After any requests, in the order in which they got the lock,
`/events` and `/latest` are JSON that a client reads back as what the server stores; `/latest`
has one node after the other, each with the sequence number that the last reply told of it,
and no other node. -/
theorem listings_read_back (hA : A.LengthPreserving chacha20Poly1305TagSize) (page : PageText)
    (hmax : 1 ≤ maxEvents) (hwrite : depth + 3 ≤ rt.json.depthLimit) (hread : depth + 3 ≤ depthLimit)
    (hclear : ∀ request ∈ requests, request.Clear rt depth) :
    (∃ body, doGet rt page "/events" (storeAfter A rt ring maxEvents requests) =
        .ok ⟨200, body, "application/json"⟩ ∧
      loads depthLimit body =
        .ok (listing "events" (storeAfter A rt ring maxEvents requests).events).doc) ∧
    (∃ body, doGet rt page "/latest" (storeAfter A rt ring maxEvents requests) =
        .ok ⟨200, body, "application/json"⟩ ∧
      loads depthLimit body =
        .ok (listing "nodes" (storeAfter A rt ring maxEvents requests).latest).doc) ∧
    ((storeAfter A rt ring maxEvents requests).latest.map C2Event.originId).Pairwise (· < ·) ∧
    ∀ originId, ((storeAfter A rt ring maxEvents requests).latest.find? fun event =>
        event.originId = originId).map C2Event.originSeq =
      ((toldAfter A rt ring maxEvents depthLimit requests).reverse.find? fun told =>
        told.1 = originId).map Prod.snd := by
  obtain ⟨recorded, hshows, hprepares, htold⟩ : ∃ recorded, IngestThreads.Shows ring maxEvents
        recorded (⟨storeAfter A rt ring maxEvents requests, fun _ => none⟩ : IngestThreads Unit) ∧
      (∀ entry ∈ recorded, ∃ request ∈ requests, request.Prepares A rt ring entry) ∧
      recorded.map (fun r => (r.2.originId, r.2.originSeq)) =
        toldAfter A rt ring maxEvents depthLimit requests :=
    exists_run_of_requests A ring hmax (by omega) (by omega) requests
  have hwritable : ∀ {key event}, (key, event) ∈ recorded →
      event.Writable rt.json.floatRepr depth := by
    intro key event hentry
    obtain ⟨request, hrequest, hentryOf⟩ := hprepares _ hentry
    exact (hclear request hrequest).writable hA hentryOf
  refine ⟨?_, ?_, hshows.byOrigin.sorted, fun originId => ?_⟩
  · exact sendListing_reads "events" (fun event hevent => by
      obtain ⟨key, hentry⟩ := hshows.recorded_of_mem_events hevent
      exact hwritable hentry) hwrite hread
  · exact sendListing_reads "nodes" (fun event hevent => by
      obtain ⟨key, hentry⟩ := hshows.recorded_of_mem_latest hevent
      exact hwritable hentry) hwrite hread
  · rw [hshows.byOrigin.find?_latest, hshows.latest, ← htold, ← List.map_reverse, List.find?_map,
      List.find?_map, Option.map_map, Option.map_map]
    rfl

/-- **The page shows the latest payloads.**  After any requests, `/` is a page whose table,
between the constant head and the script, has the tags of the server and no others at its
angle brackets and between them, escaped, what nodes and gateways sent.  The lines of the
script are a call each for the images, whose strings end where they should, and nothing in
them ends the script.  Each event shown is one that some request wrote and that opened under
the keyring. -/
theorem page_shows_latest (A : Aead) (rt : ServerRuntime) (page : PageText) (tables : HtmlTables)
    (ring : C2Keyring)
    (hmax : 1 ≤ maxEvents) (hwrite : 1 ≤ rt.json.depthLimit)
    (hclear : ∀ request ∈ requests, request.Clear rt depth) :
    ∃ body table lines, doGet rt page "/" (storeAfter A rt ring maxEvents requests) =
        .ok ⟨200, body, "text/html; charset=utf-8"⟩ ∧
      decodeUtf8 (0, []) body = some (joinLines ([page.head, table, "<script>".toList] ++ lines ++
        ["</script>".toList, "</body>".toList, "</html>".toList])) ∧
      htmlTokens tables table = tableTokens page (storeAfter A rt ring maxEvents requests).latest ∧
      lines.map (List.splitOn '\'') = (storeAfter A rt ring maxEvents requests).latest.filterMap
        (fun event => event.image.map (drawParts event)) ∧
      (∀ line ∈ lines, ∀ c ∈ line, PlainChar c) ∧
      ∀ event ∈ (storeAfter A rt ring maxEvents requests).latest, ∃ request ∈ requests,
        ∃ upload key, request.Wrote rt upload ∧
          prepareIngest A ring ⟨request.nowMs, request.clientIp, upload⟩ = .ok (key, event) := by
  obtain ⟨recorded, hshows, hprepares, -⟩ : ∃ recorded, IngestThreads.Shows ring maxEvents
        recorded (⟨storeAfter A rt ring maxEvents requests, fun _ => none⟩ : IngestThreads Unit) ∧
      (∀ entry ∈ recorded, ∃ request ∈ requests, request.Prepares A rt ring entry) ∧
      recorded.map (fun r => (r.2.originId, r.2.originSeq)) =
        toldAfter A rt ring maxEvents 1 requests :=
    exists_run_of_requests A ring hmax hwrite le_rfl requests
  generalize storeAfter A rt ring maxEvents requests = store at hshows ⊢
  have hevents : ∀ event ∈ store.latest, ∃ request ∈ requests, ∃ upload key,
      request.Wrote rt upload ∧
        prepareIngest A ring ⟨request.nowMs, request.clientIp, upload⟩ = .ok (key, event) := by
    intro event hevent
    obtain ⟨key, hentry⟩ := hshows.recorded_of_mem_latest hevent
    obtain ⟨request, hrequest, upload, hupload, hprepare⟩ := hprepares _ hentry
    exact ⟨request, hrequest, upload, key, ((hclear request hrequest).upload upload hupload).1,
      hprepare⟩
  have hdraws : ∀ event ∈ store.latest, ∀ image, event.image = some image →
      (drawLine event image).splitOn '\'' = drawParts event image ∧
        ∀ c ∈ drawLine event image, PlainChar c := by
    intro event hevent image himage
    obtain ⟨request, -, upload, key, -, hprepare⟩ := hevents event hevent
    obtain ⟨hdata, hformat⟩ := scriptChar_imageOf hprepare himage
    exact splitOn_drawLine hdata hformat
  refine ⟨_, _, drawLines store.latest, rfl, decodeUtf8_encodeChars _,
    htmlTokens_tablePieces tables page store.latest, ?_, fun line hline => ?_, hevents⟩
  · rw [drawLines, List.map_filterMap]
    refine List.filterMap_congr fun event hevent => ?_
    rw [Option.map_map]
    cases himage : event.image with
    | none => rfl
    | some image => exact congrArg some (hdraws event hevent image himage).1
  · obtain ⟨event, hevent, hdraw⟩ := List.mem_filterMap.mp hline
    obtain ⟨image, himage, rfl⟩ := Option.map_eq_some_iff.mp hdraw
    exact (hdraws event hevent image himage).2

end

/-- A POST of an uplink is clear. -/
theorem clear_uploadPost {originSeq originId : ℤ} {payload : Bytes}
    (hvalid : (storedUplink originSeq originId payload).Valid) :
    (uploadPost (sampleCall originSeq originId payload)).Clear ServerRuntime.sample 0 := by
  have hnumbers : UploadNumbers 1 none 0 := ⟨by decide, fun _ h => absurd h.symm (by simp), by decide⟩
  have hplain : (Json.obj (sampleCall originSeq originId payload).upload).doc.Plain
      ServerRuntime.sample.json.floatRepr :=
    plain_c2Upload hvalid hnumbers
  have hdepth : (Json.obj (sampleCall originSeq originId payload).upload).doc.depth = 2 :=
    depth_c2Upload 1 0 none _
  have hwrite : (Json.obj (sampleCall originSeq originId payload).upload).doc.depth ≤
      ServerRuntime.sample.json.depthLimit := hdepth.trans_le (by decide)
  have hread : (Json.obj (sampleCall originSeq originId payload).upload).doc.depth ≤
      ServerRuntime.sample.loadsDepth := hdepth.trans_le (by decide)
  have hsize : docSize ServerRuntime.sample.json.floatRepr .compact
      (Json.obj (sampleCall originSeq originId payload).upload).doc ≤ 250000 := by
    have hbound : docSize ServerRuntime.sample.json.floatRepr .compact
        (Json.obj (sampleCall originSeq originId payload).upload).doc ≤ _ :=
      size_c2Upload hvalid hnumbers
    have hpayload := hvalid.innerPayload.2
    omega
  obtain ⟨body, hbody, -⟩ : ∃ body, dumps ServerRuntime.sample.json .compact
      (Json.obj (sampleCall originSeq originId payload).upload).doc = .ok body ∧
    loads ServerRuntime.sample.loadsDepth body = .ok _ := loads_dumps hplain hwrite hread
  have hpost : uploadPost (sampleCall originSeq originId payload) =
      uploadRequest body "127.0.0.1" 0 := by
    rw [uploadPost, hbody]
    rfl
  rw [hpost]
  exact clear_uploadRequest hbody hplain hwrite hread hsize (by decide) (clear_c2Upload hnumbers)

theorem clear_samplePost : samplePost.Clear ServerRuntime.sample 0 :=
  clear_uploadPost (valid_storedUplink ⟨by decide, by decide, by decide, by decide, by decide⟩
    (by decide) (by decide +kernel))

/-- Behind an upload and its replay, the listings show the one event. -/
theorem listings_read_back_sample :
    ∃ body, doGet ServerRuntime.sample ⟨[], fun _ => ""⟩ "/latest"
        (storeAfter Aead.checksum ServerRuntime.sample [C2Key.sample] 10 [samplePost, samplePost]) =
          .ok ⟨200, body, "application/json"⟩ ∧
      loads 100 body = .ok (listing "nodes" (storeAfter Aead.checksum ServerRuntime.sample
        [C2Key.sample] 10 [samplePost, samplePost]).latest).doc := by
  have hclear : ∀ request ∈ [samplePost, samplePost], request.Clear ServerRuntime.sample 0 := by
    rw [List.forall_mem_cons, List.forall_mem_singleton]
    exact ⟨clear_samplePost, clear_samplePost⟩
  have hlistings := @listings_read_back Aead.checksum ServerRuntime.sample [C2Key.sample] 10 100 0
    [samplePost, samplePost] Aead.checksum_lawful.toLengthPreserving ⟨[], fun _ => ""⟩ (by decide)
    (by decide) (by decide) hclear
  exact hlistings.2.1

/-- The entries of the tables for what `html.escape` writes. -/
def HtmlTables.sample : HtmlTables where
  html5 name := [(['a', 'm', 'p', ';'], ['&']), (['l', 't', ';'], ['<']), (['g', 't', ';'], ['>']),
    (['q', 'u', 'o', 't', ';'], ['"'])].lookup name
  invalidCharrefs _ := none
  invalidCodepoints _ := false
  amp := rfl
  lt := rfl
  gt := rfl
  quot := rfl
  apostrophe_charref := rfl
  apostrophe_codepoint := rfl

def PageText.sample : PageText where
  head := "<body>".toList
  repr _ := ""

/-- A payload that tries to end its cell and to begin a script. -/
def markupText : List Char := "</td><script>alert('&lt;')</script>\r".toList

/-- Two pixels with a tag in them. -/
def imagePayload : Bytes := kovaImageMagic ++ [2, 1, 1, 0xff, 0, 0, 0x3c, 0x62, 0x3e]

/-- The uploads of both. -/
def markupPosts : List HttpRequest :=
  [uploadPost (sampleCall 7 2 (encodeChars markupText)), uploadPost (sampleCall 5 3 imagePayload)]

/-- The markup is the text of its cell, and the image is drawn by one call. -/
theorem page_shows_latest_sample :
    ∃ body table lines node₂ node₃, doGet ServerRuntime.sample PageText.sample "/"
        (storeAfter Aead.checksum ServerRuntime.sample [C2Key.sample] 10 markupPosts) =
          .ok ⟨200, body, "text/html; charset=utf-8"⟩ ∧
      decodeUtf8 (0, []) body = some (joinLines ([PageText.sample.head, table,
        "<script>".toList] ++ lines ++ ["</script>".toList, "</body>".toList, "</html>".toList])) ∧
      htmlTokens HtmlTables.sample table = tableTokens PageText.sample [node₂, node₃] ∧
      .text markupText ∈ htmlTokens HtmlTables.sample table ∧
      lines.map (List.splitOn '\'') = [drawParts node₃ ⟨2, 1, "rgb", "/wAAPGI+"⟩] := by
  have hevents : (storeAfter Aead.checksum ServerRuntime.sample [C2Key.sample] 10
      markupPosts).latestByNode.map
        (fun entry => (entry.1, entry.2.image, entry.2.payloadText.toList)) =
      [(2, none, markupText), (3, some ⟨2, 1, "rgb", "/wAAPGI+"⟩, "[image 2x1]".toList)] := by
    decide +kernel
  obtain ⟨⟨id₂, node₂⟩, rest, hlist, hnode₂, hrest⟩ := List.map_eq_cons_iff.mp hevents
  obtain ⟨⟨id₃, node₃⟩, rest, rfl, hnode₃, hnil⟩ := List.map_eq_cons_iff.mp hrest
  obtain rfl := List.map_eq_nil_iff.mp hnil
  simp only [Prod.mk.injEq] at hnode₂ hnode₃
  obtain ⟨rfl, himage₂, htext₂⟩ := hnode₂
  obtain ⟨rfl, himage₃, -⟩ := hnode₃
  have hlatest : (storeAfter Aead.checksum ServerRuntime.sample [C2Key.sample] 10
      markupPosts).latest = [node₂, node₃] := by
    rw [C2EventStore.latest, hlist, List.mergeSort_of_pairwise (by simp)]
    rfl
  have hclear : ∀ request ∈ markupPosts, request.Clear ServerRuntime.sample 0 := by
    have hmarkup : (storedUplink 7 2 (encodeChars markupText)).Valid :=
      valid_storedUplink ⟨by decide, by decide, by decide, by decide, by decide⟩ (by decide)
        (by decide +kernel)
    have himage : (storedUplink 5 3 imagePayload).Valid :=
      valid_storedUplink ⟨by decide, by decide, by decide, by decide, by decide⟩ (by decide)
        (by decide +kernel)
    rw [markupPosts, List.forall_mem_cons, List.forall_mem_singleton]
    exact ⟨clear_uploadPost hmarkup, clear_uploadPost himage⟩
  obtain ⟨body, table, lines, hget, hbody, htable, hlines, -, -⟩ := page_shows_latest Aead.checksum
    ServerRuntime.sample PageText.sample HtmlTables.sample [C2Key.sample] (show 1 ≤ 10 by decide)
    (show 1 ≤ ServerRuntime.sample.json.depthLimit by decide) hclear
  rw [hlatest] at htable hlines
  have hshown : .text node₂.payloadText.toList ∈ tableTokens PageText.sample [node₂, node₃] :=
    text_mem_tableTokens List.mem_cons_self himage₂ (by rw [htext₂]; decide)
  rw [htext₂, ← htable] at hshown
  refine ⟨body, table, lines, node₂, node₃, hget, hbody, htable, hshown, ?_⟩
  rw [hlines]
  simp only [List.filterMap_cons, himage₂, himage₃, Option.map_none, Option.map_some,
    List.filterMap_nil]

end KovaWfb
