/-
# The local tap and the server

`drain_local_tap` and `_post_c2_upload_object` of `python/examples/c2_gateway.py`, lines 594
to 635 and 354 to 382, in bytes: the datagram is read as JSON and, if its key is new, what
was read is written again for the POST.

`tap_transparent`: the server does with the POST what it would have done with the datagram,
and the datagrams that a mesh node sends are posted byte for byte.
-/

import KovaWfb.C2.Conversation
import KovaWfb.C2.ControlInput

namespace KovaWfb

/-- The bodies that the tap posts, each behind the datagram it is of. -/
abbrev TapPosts := List (Bytes × Bytes)

/-- The body of the POST of a datagram. -/
def tapBody (loadsDepth : ℕ) (w : JsonWriter) (data : Bytes) : Py Bytes :=
  match loads loadsDepth data with
  | .ok doc => dumps w .compact doc
  | .error _ => .error (.valueError "tap payload is no JSON")

/-- `drain_local_tap` for one datagram, up to the body of its POST. -/
def tapPost (loadsDepth : ℕ) (w : JsonWriter) (data : Bytes) : PyM GatewayState TapPosts := do
  match ← tapDatagram loadsDepth w.depthLimit data with
  | .posted _ => do
      let body ← liftM (tapBody loadsDepth w data)
      pure [(data, body)]
  | _ => pure []

/-- A run of the tap. -/
def tapRun (loadsDepth : ℕ) (w : JsonWriter) : List Bytes → PyM GatewayState TapPosts
  | [] => pure []
  | data :: rest => do
      let posts ← tapPost loadsDepth w data
      let later ← tapRun loadsDepth w rest
      pure (posts ++ later)

/-- `repr` of every float in a datagram reads back. -/
def FloatsReadBack (floatRepr : ℚ → List Char) (data : Bytes) : Prop :=
  ∀ text q, decodeUtf8 (0, []) data = some text →
    .value (.float (.finite q)) ∈ tokens 0 text → ReadsBack floatRepr q

/-- A finite float. -/
def JsonToken.isFloat : JsonToken → Bool
  | .value (.float (.finite _)) => true
  | _ => false

theorem floatsReadBack_of_none {floatRepr : ℚ → List Char} {data : Bytes} {text : List Char}
    (htext : decodeUtf8 (0, []) data = some text)
    (h : ∀ token ∈ tokens 0 text, token.isFloat = false) : FloatsReadBack floatRepr data := by
  intro other q hother hq
  obtain rfl := Option.some.inj (htext.symm.trans hother)
  cases h _ hq

section

variable {loadsDepth : ℕ} {w : JsonWriter} {data : Bytes} {s s' : GatewayState}

/-- **What a turn of the tap posts**: nothing, or what the datagram says, written again. -/
theorem tapPost_eq_ok {posts : TapPosts} (h : tapPost loadsDepth w data s = .ok posts s') :
    posts = [] ∨ ∃ doc body, loads loadsDepth data = .ok doc ∧ doc.depth ≤ w.depthLimit ∧
      dumps w .compact doc = .ok body ∧ posts = [(data, body)] := by
  obtain ⟨verdict, s₁, hverdict, h⟩ := PyM.bind_eq_ok.1 h
  cases verdict with
  | posted upload =>
    obtain ⟨body, hbody, hpure⟩ := PyM.lift_bind_eq_ok.1 h
    obtain ⟨rfl, rfl⟩ := hpure
    cases hloads : loads loadsDepth data with
    | error error =>
      rw [tapBody, hloads] at hbody
      cases hbody
    | ok doc =>
      rw [tapBody, hloads] at hbody
      rw [tapDatagram, hloads] at hverdict
      dsimp only at hbody hverdict
      refine Or.inr ⟨doc, body, rfl, ?_, hbody, rfl⟩
      cases hread : readTap (.ok doc.toJson) with
      | error error =>
        rw [tapDoc_of_error hread] at hverdict
        split_ifs at hverdict
        cases hverdict
      | ok read =>
        rw [tapDoc_of_ok hread] at hverdict
        split_ifs at hverdict with hseen hdepth
        · cases hverdict
        · exact hdepth
  | _ =>
    obtain ⟨rfl, rfl⟩ := h
    exact Or.inl rfl

/-- The tap reads the datagram of a node as the upload it is of. -/
theorem loads_upload {u : Uploader} (hu : u.Numbers) {r : RouteDataV2} (hr : r.Valid)
    (hwrite : 2 ≤ w.depthLimit) (hread : 2 ≤ loadsDepth) {body : Bytes}
    (hbody : dumps w .compact (Json.obj (u.upload r)).doc = .ok body) :
    loads loadsDepth body = .ok (Json.obj (u.upload r)).doc := by
  obtain ⟨gatewayId, channel, receivedAtMs, hupload, hprintable⟩ := u.uploadNumbers hu r
  rw [hupload] at hbody ⊢
  have hdepth := depth_c2Upload gatewayId receivedAtMs channel r
  obtain ⟨again, hagain, hloads⟩ : ∃ again,
      dumps w .compact (Json.obj (c2Upload gatewayId channel receivedAtMs r)).doc = .ok again ∧
        loads loadsDepth again = .ok (Json.obj (c2Upload gatewayId channel receivedAtMs r)).doc :=
    loads_dumps (plain_c2Upload hr hprintable) (hdepth ▸ hwrite) (hdepth ▸ hread)
  obtain rfl := Except.ok.inj (hbody.symm.trans hagain)
  exact hloads

/-- **A node's datagram is posted byte for byte**, once as long as its key is known. -/
theorem tap_reposts {u : Uploader} (hu : u.Numbers) {r : RouteDataV2} (hr : r.Valid)
    (hwrite : 2 ≤ w.depthLimit) (hread : 2 ≤ loadsDepth) {body : Bytes}
    (hbody : dumps w .compact (Json.obj (u.upload r)).doc = .ok body) :
    tapPost loadsDepth w body s =
      if [r.originId, r.originSeq] ∈ s.seen then .ok [] s
      else .ok [(body, body)] { s with seen := (s.seen.remember [r.originId, r.originSeq]).2 } := by
  have hloads := loads_upload hu hr hwrite hread hbody
  obtain ⟨gatewayId, channel, receivedAtMs, hupload, -⟩ := u.uploadNumbers hu r
  rw [hupload] at hbody hloads
  have hdepth := depth_c2Upload gatewayId receivedAtMs channel r
  have hkey : readTap (.ok (Json.obj (c2Upload gatewayId channel receivedAtMs r)).doc.toJson) =
      .ok (c2Upload gatewayId channel receivedAtMs r, [r.originId, r.originSeq]) := by
    rw [toJson_doc, readTap_upload]
  rw [tapPost, PyM.bind_apply, tapDatagram, hloads]
  dsimp only
  rw [tapDoc_of_ok hkey, hdepth, if_pos hwrite]
  by_cases hseen : [r.originId, r.originSeq] ∈ s.seen
  · rw [if_pos hseen, if_pos hseen]
    rfl
  · rw [if_neg hseen, if_neg hseen]
    refine PyM.lift_bind_of_eq_ok (a := body) ?_ _ _
    rw [tapBody, hloads]
    exact hbody

/-- **A document written again is the same request**: the server reads the same upload in
both bodies, and does the same with it. -/
theorem doPost_dumps {A : Aead} {rt : ServerRuntime} (hread : loadsDepth ≤ rt.loadsDepth)
    {doc : JsonDoc} (hloads : loads loadsDepth data = .ok doc)
    (hfloat : FloatsReadBack w.floatRepr data) {body : Bytes}
    (hbody : dumps w .compact doc = .ok body) (hdepth : doc.depth ≤ w.depthLimit)
    (hdata : data.length ≤ 1000000) (hlength : body.length ≤ 1000000) (clientIp : String)
    (nowMs : ℤ) (store : C2EventStore) :
    doPost A rt (uploadRequest body clientIp nowMs) store =
      doPost A rt (uploadRequest data clientIp nowMs) store := by
  obtain ⟨hplain, hfits⟩ := loads_plain hloads hfloat
  obtain ⟨again, hagain, hsame⟩ : ∃ again, dumps w .compact doc = .ok again ∧
    loads rt.loadsDepth again = .ok doc := loads_dumps hplain hdepth (hfits.trans hread)
  obtain rfl := Except.ok.inj (hbody.symm.trans hagain)
  have hpos : ∀ bytes : Bytes, loads rt.loadsDepth bytes = .ok doc → 0 < bytes.length := by
    rintro (_ | ⟨b, bs⟩) h
    · cases h
    · exact Nat.succ_pos _
  have hother := loads_mono hread hloads
  have hupload : readBody rt (uploadRequest body clientIp nowMs) >>= bodyUpload rt =
      readBody rt (uploadRequest data clientIp nowMs) >>= bodyUpload rt := by
    rw [readBody_uploadRequest (hpos body hsame) hlength,
      readBody_uploadRequest (hpos data hother) hdata, Py.ok_bind, Py.ok_bind, bodyUpload,
      bodyUpload, hsame, hother]
  have hpost : postIngest A rt (uploadRequest body clientIp nowMs) store =
      postIngest A rt (uploadRequest data clientIp nowMs) store := by
    rw [postIngest_eq, postIngest_eq, hupload]
    rfl
  rw [doPost, doPost, hpost]
  rfl

/-- **What a run of the tap posts**: some of the datagrams, in their order, each written
again. -/
theorem tapRun_posts {datagrams : List Bytes} {posts : TapPosts}
    (hrun : tapRun loadsDepth w datagrams s = .ok posts s') :
    (posts.map Prod.fst).Sublist datagrams ∧
      ∀ post ∈ posts, ∃ doc, loads loadsDepth post.1 = .ok doc ∧ doc.depth ≤ w.depthLimit ∧
        dumps w .compact doc = .ok post.2 := by
  induction datagrams generalizing s posts with
  | nil =>
    obtain ⟨rfl, rfl⟩ := hrun
    exact ⟨List.Sublist.slnil, fun post hpost => absurd hpost List.not_mem_nil⟩
  | cons data rest ih =>
    obtain ⟨first, s₁, hfirst, hrun⟩ := PyM.bind_eq_ok.1 hrun
    obtain ⟨later, s₂, hlater, hpure⟩ := PyM.bind_eq_ok.1 hrun
    obtain ⟨rfl, rfl⟩ := hpure
    obtain ⟨hsublist, hposts⟩ := ih hlater
    rcases tapPost_eq_ok hfirst with rfl | ⟨doc, body, hloads, hdepth, hbody, rfl⟩
    · exact ⟨hsublist.cons data, hposts⟩
    · exact ⟨hsublist.cons_cons data, List.forall_mem_cons.mpr ⟨⟨doc, hloads, hdepth, hbody⟩, hposts⟩⟩

/-- **The tap is transparent.**  Whatever datagrams arrive, each POST is of one of them, in
their order, and whenever the server gets it, it answers and stores as if the datagram itself
had been posted.  A datagram that a node writes is posted byte for byte, unless its key is
known when its turn comes. -/
theorem tap_transparent (A : Aead) {rt : ServerRuntime} (hread : loadsDepth ≤ rt.loadsDepth)
    {datagrams : List Bytes} {posts : TapPosts}
    (hrun : tapRun loadsDepth w datagrams s = .ok posts s')
    (hfloat : ∀ data ∈ datagrams, FloatsReadBack w.floatRepr data) :
    (posts.map Prod.fst).Sublist datagrams ∧
      (∀ post ∈ posts, post.1.length ≤ 1000000 → post.2.length ≤ 1000000 →
        ∀ clientIp nowMs store, doPost A rt (uploadRequest post.2 clientIp nowMs) store =
          doPost A rt (uploadRequest post.1 clientIp nowMs) store) ∧
      ∀ (u : Uploader) (r : RouteDataV2) (body : Bytes), u.Numbers → r.Valid → 2 ≤ w.depthLimit →
        2 ≤ loadsDepth → dumps w .compact (Json.obj (u.upload r)).doc = .ok body →
          (∀ post ∈ posts, post.1 = body → post.2 = body) ∧
          ∀ now, tapPost loadsDepth w body now =
            if [r.originId, r.originSeq] ∈ now.seen then .ok [] now
            else .ok [(body, body)]
              { now with seen := (now.seen.remember [r.originId, r.originSeq]).2 } := by
  obtain ⟨hsublist, hposts⟩ := tapRun_posts hrun
  refine ⟨hsublist, fun post hpost hdata hlength clientIp nowMs store => ?_,
    fun u r body hu hr hwrite hnest hbody => ⟨fun post hpost hsame => ?_,
      fun now => tap_reposts hu hr hwrite hnest hbody⟩⟩
  · obtain ⟨doc, hloads, hdepth, hbody⟩ := hposts post hpost
    exact doPost_dumps hread hloads (hfloat _ (hsublist.subset (List.mem_map_of_mem hpost))) hbody
      hdepth hdata hlength clientIp nowMs store
  · obtain ⟨doc, hloads, -, hwritten⟩ := hposts post hpost
    rw [hsame, loads_upload hu hr hwrite hnest hbody] at hloads
    obtain rfl := Except.ok.inj hloads
    exact Except.ok.inj (hwritten.symm.trans hbody)

end

/-- An upload with spaces in it. -/
def spacedSeven : Bytes :=
  asciiBytes "\x7b\"route\": \x7b\"origin_id\": 7, \"origin_seq\": \"3\"\x7d\x7d"

/-- A mesh node that hands its uplinks to the tap. -/
def tappingNode : Uploader :=
  .mesh (NodeConfig.sampleOrigin 2 senderId_two) Env.sample
    (NodeState.initial (NodeConfig.sampleOrigin 2 senderId_two) SeqNo.one 0 none)

/-- What it sends there. -/
def tappedUplink : Bytes :=
  ((dumps ServerRuntime.sample.json .compact
    (Json.obj (tappingNode.upload (storedUplink 7))).doc).toOption).getD []

/-- Of an upload, a datagram that is no JSON, the upload in another spelling and a node's
uplink twice, the first is posted without its spaces and the uplink once as it is. -/
theorem tap_transparent_sample :
    ∃ posts s', tapRun 100 ServerRuntime.sample.json
        [spacedSeven, [0], uploadSeven, tappedUplink, tappedUplink]
        (GatewayState.initial GatewayConfig.sample) = .ok posts s' ∧
      posts = [(spacedSeven, uploadSeven), (tappedUplink, tappedUplink)] ∧
      (∀ store, doPost Aead.checksum ServerRuntime.sample (uploadRequest uploadSeven "" 0) store =
        doPost Aead.checksum ServerRuntime.sample (uploadRequest spacedSeven "" 0) store) ∧
      tapPost 100 ServerRuntime.sample.json tappedUplink (GatewayState.initial GatewayConfig.sample) =
        .ok [(tappedUplink, tappedUplink)] { GatewayState.initial GatewayConfig.sample with
          seen := ((GatewayState.initial GatewayConfig.sample).seen.remember [2, 7]).2 } := by
  obtain ⟨posts, s', hrun, hposts⟩ := exists_eq_ok_of_map (r := tapRun 100 ServerRuntime.sample.json
      [spacedSeven, [0], uploadSeven, tappedUplink, tappedUplink]
      (GatewayState.initial GatewayConfig.sample))
    (f := id) (x := [(spacedSeven, uploadSeven), (tappedUplink, tappedUplink)]) (by decide +kernel)
  rw [id] at hposts
  have hfloat : ∀ data ∈ [spacedSeven, [0], uploadSeven, tappedUplink, tappedUplink],
      FloatsReadBack ServerRuntime.sample.json.floatRepr data := by
    have hnone : ∀ data ∈ [spacedSeven, [0], uploadSeven, tappedUplink, tappedUplink],
        decodeUtf8 (0, []) data = some (data.map fun b => Char.ofNat b.toNat) ∧
          ∀ token ∈ tokens 0 (data.map fun b => Char.ofNat b.toNat), token.isFloat = false := by
      decide +kernel
    exact fun data hdata => floatsReadBack_of_none (hnone data hdata).1 (hnone data hdata).2
  obtain ⟨-, hsame, hown⟩ := tap_transparent Aead.checksum
    (show 100 ≤ ServerRuntime.sample.loadsDepth by decide) hrun hfloat
  have hvalid : (storedUplink 7).Valid :=
    valid_storedUplink ⟨by decide, by decide, by decide, by decide, by decide⟩ (by decide)
      (by decide +kernel)
  have hwritten : dumps ServerRuntime.sample.json .compact
      (Json.obj (tappingNode.upload (storedUplink 7))).doc = .ok tappedUplink := by
    have hsome : (dumps ServerRuntime.sample.json .compact
        (Json.obj (tappingNode.upload (storedUplink 7))).doc).toOption.map (fun _ => ()) = some () := by
      decide +kernel
    obtain ⟨body, hdumps, -⟩ := Py.exists_eq_ok_of_map hsome
    rw [tappedUplink, hdumps]
    rfl
  obtain ⟨-, hturn⟩ := hown tappingNode (storedUplink 7) tappedUplink
    ⟨fun _ h => absurd h.symm (Option.some_ne_none _), by decide⟩ hvalid (by decide) (by decide)
    hwritten
  rw [hposts] at hsame
  exact ⟨posts, s', hrun, hposts,
    hsame _ List.mem_cons_self (by decide) (by decide) "" 0, hturn _⟩

end KovaWfb
