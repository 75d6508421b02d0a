/-
# Datagrams that stop a process

The two sockets that take JSON from other programs: local control of
`python/examples/mesh_txrx.py` and the local tap of `python/examples/c2_gateway.py`,
lines 594 to 635.

The gateway turns what it reads into integers and catches `TypeError` and `ValueError`,
which leaves the `OverflowError` of an infinite float, and the `RecursionError` of a
document that nests too deeply, when it is read or when it is written for the POST.
`control_input_returns_iff` says for both programs which datagrams they survive.
-/

import KovaWfb.Mesh.LocalControl

namespace KovaWfb

/-! ### The local tap -/

/-- `drain_local_tap` for a document, the `json.dumps` of the POST included. -/
def tapDoc (dumpsDepth : ℕ) (doc : JsonDoc) : PyM GatewayState GatewayVerdict := do
  match ← drainLocalTap (.ok doc.toJson) with
  | .posted upload => do
      liftM (raiseIf (dumpsDepth < doc.depth) (.runtimeError "maximum recursion depth exceeded"))
      pure (.posted upload)
  | verdict => pure verdict

/-- `drain_local_tap` for one datagram. -/
def tapDatagram (loadsDepth dumpsDepth : ℕ) (data : Bytes) : PyM GatewayState GatewayVerdict :=
  match loads loadsDepth data with
  | .ok doc => tapDoc dumpsDepth doc
  | .error .notJson => drainLocalTap (.error (.valueError "tap payload is no JSON"))
  | .error (.raised error) => drainLocalTap (.error error)

/-- An infinite float. -/
def Json.IsInfinite (value : Json) : Prop := ∃ negative, value = .float (.infinite negative)

/-- The `route` object of an upload. -/
def tapRoute : Json → Option JsonFields
  | .obj upload =>
      match JsonFields.get upload "route" with
      | some (.obj route) => some route
      | _ => none
  | _ => none

/-- `route.get(name)`. -/
def tapField (route : JsonFields) (name : String) : Json := (JsonFields.get route name).getD .null

/-- The ids of a route that are read are not infinite, and a new upload nests as deep as
`json.dumps` can write. -/
structure TapRouteHandled (dumpsDepth : ℕ) (doc : JsonDoc) (s : GatewayState) (route : JsonFields) :
    Prop where
  originId : ¬ (tapField route "origin_id").IsInfinite
  originSeq : ∀ originId, (tapField route "origin_id").toInt = .ok originId →
    ¬ (tapField route "origin_seq").IsInfinite
  dumps : ∀ originId originSeq, (tapField route "origin_id").toInt = .ok originId →
    (tapField route "origin_seq").toInt = .ok originSeq →
      [originId, originSeq] ∈ s.seen ∨ doc.depth ≤ dumpsDepth

/-- A document ends in a POST, a duplicate or a rejection. -/
def TapDocHandled (dumpsDepth : ℕ) (doc : JsonDoc) (s : GatewayState) : Prop :=
  ∀ route, tapRoute doc.toJson = some route → TapRouteHandled dumpsDepth doc s route

/-- A datagram does: `json.loads` raises at most what the tap catches, and a document is
one that does. -/
def TapHandled (loadsDepth dumpsDepth : ℕ) (data : Bytes) (s : GatewayState) : Prop :=
  match loads loadsDepth data with
  | .ok doc => TapDocHandled dumpsDepth doc s
  | .error .notJson => True
  | .error (.raised error) => error.isTapReject = true

/-- What `int` raises of an infinite float, and nothing else, passes the tap's handler. -/
theorem Json.toInt_isTapReject {value : Json} {error : PyError} (h : value.toInt = .error error) :
    error.isTapReject = true ↔ ¬ value.IsInfinite := by
  by_cases hinfinite : value.IsInfinite
  · obtain ⟨negative, rfl⟩ := hinfinite
    cases h
    exact iff_of_false Bool.false_ne_true (not_not.mpr ⟨negative, rfl⟩)
  refine iff_of_true ?_ hinfinite
  rcases value with _ | value | value | (value | negative | _) | text | items | fields
  case float.infinite => exact absurd ⟨negative, rfl⟩ hinfinite
  case str =>
    simp only [Json.toInt] at h
    split at h
    · cases h
    · cases h
      rfl
  all_goals
    cases h
    try rfl

theorem Json.not_isInfinite_of_toInt {value : Json} {n : ℤ} (h : value.toInt = .ok n) :
    ¬ value.IsInfinite := by
  rintro ⟨negative, rfl⟩
  cases h

/-- A datagram with a `route` object is read as far as its ids can be converted. -/
theorem readTap_of_tapRoute {doc : Json} {route : JsonFields} (h : tapRoute doc = some route) :
    ∃ upload, readTap (.ok doc) =
      (tapField route "origin_id").toInt >>= fun originId =>
        (tapField route "origin_seq").toInt >>= fun originSeq =>
          pure (upload, [originId, originSeq]) := by
  unfold tapRoute at h
  split at h
  · rename_i upload
    split at h
    · rename_i fields hroute
      obtain rfl := Option.some.inj h
      refine ⟨upload, ?_⟩
      simp only [readTap, Py.ok_bind, hroute]
      rfl
    · cases h
  · cases h

/-- A datagram without one is rejected. -/
theorem readTap_of_tapRoute_eq_none {doc : Json} (h : tapRoute doc = none) :
    ∃ msg, readTap (.ok doc) = .error (.valueError msg) := by
  cases doc with
  | obj upload =>
    refine ⟨"tap payload route must be a JSON object", ?_⟩
    rcases hroute : JsonFields.get upload "route" with _ | (_ | _ | _ | _ | _ | _ | route)
    case some.obj =>
      simp only [tapRoute, hroute, reduceCtorEq] at h
    all_goals simp only [readTap, Py.ok_bind, hroute]
  | _ => exact ⟨"tap payload must be a JSON object", rfl⟩

section

variable {loadsDepth dumpsDepth : ℕ} {data : Bytes} {s : GatewayState}

/-- A document that the tap gets no key of. -/
theorem tapDoc_of_error {doc : JsonDoc} {error : PyError}
    (h : readTap (.ok doc.toJson) = .error error) : tapDoc dumpsDepth doc s =
      if error.isTapReject then .ok (.tapReject error) s else .error error s := by
  rw [tapDoc, PyM.bind_apply, drainLocalTap_of_error h]
  split_ifs <;> rfl

/-- One that it gets a key of: a new upload is remembered, then written. -/
theorem tapDoc_of_ok {doc : JsonDoc} {upload : JsonFields} {key : List ℤ}
    (h : readTap (.ok doc.toJson) = .ok (upload, key)) : tapDoc dumpsDepth doc s =
      if key ∈ s.seen then .ok .tapDuplicate s
      else if doc.depth ≤ dumpsDepth then
        .ok (.posted upload) { s with seen := (s.seen.remember key).2 }
      else .error (.runtimeError "maximum recursion depth exceeded")
        { s with seen := (s.seen.remember key).2 } := by
  rw [tapDoc, PyM.bind_apply, drainLocalTap_of_ok h]
  split_ifs with hseen hdepth
  · rfl
  · exact PyM.lift_bind_of_eq_ok (a := ()) (raiseIf_eq_ok.mpr (not_lt.mpr hdepth)) _ _
  · exact PyM.lift_bind_of_eq_error (raiseIf_eq_error.mpr ⟨not_le.mp hdepth, rfl⟩) _ _

/-- The tap survives an exception that its handler names. -/
theorem reject_returns_iff {error : PyError} :
    (∃ verdict s', (if error.isTapReject then .ok (.tapReject error) s else .error error s :
      EStateM.Result PyError GatewayState GatewayVerdict) = .ok verdict s') ↔
      error.isTapReject = true := by
  by_cases hreject : error.isTapReject = true
  · rw [if_pos hreject]
    exact iff_of_true ⟨_, _, rfl⟩ hreject
  · rw [if_neg hreject]
    exact iff_of_false (not_returns_error _ _) hreject

theorem drainLocalTap_error_returns_iff {datagram : Py Json} {error : PyError}
    (h : readTap datagram = .error error) :
    (∃ verdict s', drainLocalTap datagram s = .ok verdict s') ↔ error.isTapReject = true := by
  rw [drainLocalTap_of_error h]
  exact reject_returns_iff

theorem tapDoc_error_returns_iff {doc : JsonDoc} {error : PyError}
    (h : readTap (.ok doc.toJson) = .error error) :
    (∃ verdict s', tapDoc dumpsDepth doc s = .ok verdict s') ↔ error.isTapReject = true := by
  rw [tapDoc_of_error h]
  exact reject_returns_iff

/-- The tap survives an upload that it knows or that can be written. -/
theorem tapDoc_ok_returns_iff {doc : JsonDoc} {upload : JsonFields} {key : List ℤ}
    (h : readTap (.ok doc.toJson) = .ok (upload, key)) :
    (∃ verdict s', tapDoc dumpsDepth doc s = .ok verdict s') ↔
      key ∈ s.seen ∨ doc.depth ≤ dumpsDepth := by
  rw [tapDoc_of_ok h]
  by_cases hseen : key ∈ s.seen
  · rw [if_pos hseen]
    exact iff_of_true ⟨_, _, rfl⟩ (Or.inl hseen)
  rw [if_neg hseen]
  by_cases hdepth : doc.depth ≤ dumpsDepth
  · rw [if_pos hdepth]
    exact iff_of_true ⟨_, _, rfl⟩ (Or.inr hdepth)
  · rw [if_neg hdepth]
    exact iff_of_false (not_returns_error _ _) fun hor => hor.elim hseen hdepth

theorem tapDoc_route_returns_iff {doc : JsonDoc} {route : JsonFields}
    (h : tapRoute doc.toJson = some route) :
    (∃ verdict s', tapDoc dumpsDepth doc s = .ok verdict s') ↔
      TapRouteHandled dumpsDepth doc s route := by
  obtain ⟨upload, hread⟩ := readTap_of_tapRoute h
  cases hid : (tapField route "origin_id").toInt with
  | error error =>
    rw [hid, Py.error_bind] at hread
    rw [tapDoc_error_returns_iff hread, Json.toInt_isTapReject hid]
    refine ⟨fun hfinite => ⟨hfinite, ?_, ?_⟩, TapRouteHandled.originId⟩
    · rw [hid]
      nofun
    · rw [hid]
      nofun
  | ok originId =>
    have hidFinite := Json.not_isInfinite_of_toInt hid
    rw [hid, Py.ok_bind] at hread
    cases hseq : (tapField route "origin_seq").toInt with
    | error error =>
      rw [hseq, Py.error_bind] at hread
      rw [tapDoc_error_returns_iff hread, Json.toInt_isTapReject hseq]
      refine ⟨fun hfinite => ⟨hidFinite, fun _ _ => hfinite, ?_⟩, fun hr => hr.originSeq _ hid⟩
      rw [hseq]
      nofun
    | ok originSeq =>
      have hseqFinite := Json.not_isInfinite_of_toInt hseq
      rw [hseq, Py.ok_bind] at hread
      rw [tapDoc_ok_returns_iff hread]
      refine ⟨fun hor => ⟨hidFinite, fun _ _ => hseqFinite, fun i q hi hq => ?_⟩,
        fun hr => hr.dumps _ _ hid hseq⟩
      obtain rfl := Except.ok.inj (hid.symm.trans hi)
      obtain rfl := Except.ok.inj (hseq.symm.trans hq)
      exact hor

theorem tapDoc_returns_iff {doc : JsonDoc} :
    (∃ verdict s', tapDoc dumpsDepth doc s = .ok verdict s') ↔ TapDocHandled dumpsDepth doc s := by
  cases hroute : tapRoute doc.toJson with
  | none =>
    obtain ⟨msg, hread⟩ := readTap_of_tapRoute_eq_none hroute
    refine (tapDoc_error_returns_iff hread).trans (iff_of_true rfl fun route h => ?_)
    rw [hroute] at h
    cases h
  | some route =>
    rw [tapDoc_route_returns_iff hroute]
    refine ⟨fun h route' hroute' => ?_, fun h => h route hroute⟩
    obtain rfl := Option.some.inj (hroute.symm.trans hroute')
    exact h

/-- **Which datagrams the local tap survives.** -/
theorem tapDatagram_returns_iff :
    (∃ verdict s', tapDatagram loadsDepth dumpsDepth data s = .ok verdict s') ↔
      TapHandled loadsDepth dumpsDepth data s := by
  unfold tapDatagram TapHandled
  cases loads loadsDepth data with
  | ok doc => exact tapDoc_returns_iff
  | error error =>
    cases error with
    | notJson =>
      have hread : readTap (.error (.valueError "tap payload is no JSON")) = .error _ := rfl
      exact (drainLocalTap_error_returns_iff hread).trans (iff_of_true rfl trivial)
    | raised error =>
      have hread : readTap (.error error) = .error error := rfl
      exact drainLocalTap_error_returns_iff hread

end

/-! ### Both programs -/

/-- **Which datagrams the two programs survive.**  A datagram of local control ends in a
rejection, a send error or a frame, and one of the gateway's tap in a POST, a duplicate
or a rejection, exactly under the conditions on what it contains; everything else raises
through the handlers. -/
theorem control_input_returns_iff {A : Aead} (hA : A.LengthPreserving chacha20Poly1305TagSize)
    {env : Env} (hradio : env.radio = none) (cfg : NodeConfig) (control : LocalControlConfig)
    (loadsDepth dumpsDepth : ℕ) (data : Bytes) (source : String) (s : NodeState)
    (g : GatewayState) :
    ((∃ outcome s', localControl A cfg env control loadsDepth data source s = .ok outcome s') ↔
        LocalControlHandled cfg control loadsDepth data) ∧
      ((∃ verdict g', tapDatagram loadsDepth dumpsDepth data g = .ok verdict g') ↔
        TapHandled loadsDepth dumpsDepth data g) :=
  ⟨localControl_returns_iff hA hradio, tapDatagram_returns_iff⟩

/-- Local control as `main` sets it up by default. -/
def LocalControlConfig.sample : LocalControlConfig where
  c2Id := 1
  ttl := 2
  c2Id_range := by decide
  ttl_range := by decide

/-- A text of ASCII characters as a datagram. -/
def asciiBytes (text : String) : Bytes := text.toList.map fun c => UInt8.ofNat c.toNat

theorem gatewayId_one : FitsWidth 1 1 := by decide

/-- A gateway to run the model with. -/
def GatewayConfig.sample : GatewayConfig where
  gatewayId := 1
  seenLimit := 4
  gatewayId_fits := gatewayId_one
  seenLimit_pos := Nat.succ_pos 3

/-- A message, a request without a name for its traffic class, an upload and one whose id
is infinite. -/
def messageHi : Bytes := asciiBytes "\x7b\"message\":\"hi\"\x7d"
def nullTrafficClass : Bytes := asciiBytes "\x7b\"traffic_class\":null\x7d"
def uploadSeven : Bytes :=
  asciiBytes "\x7b\"route\":\x7b\"origin_id\":7,\"origin_seq\":\"3\"\x7d\x7d"
def infiniteOriginId : Bytes := asciiBytes "\x7b\"route\":\x7b\"origin_id\":Infinity\x7d\x7d"

/-- What the two programs do with a datagram, as samples. -/
def controlOnSample (data : Bytes) : EStateM.Result PyError NodeState LocalControlOutcome :=
  localControl Aead.checksum (NodeConfig.sampleOrigin 1 senderId_one) Env.sample
    LocalControlConfig.sample 1000 data "127.0.0.1:9000"
    (NodeState.initial (NodeConfig.sampleOrigin 1 senderId_one) SeqNo.one 0 none)

def tapOnSample (data : Bytes) : EStateM.Result PyError GatewayState GatewayVerdict :=
  tapDatagram 1000 1000 data (GatewayState.initial GatewayConfig.sample)

/-- **Two datagrams that stop a process**: `null` has no `strip`, and the infinite float
has no integer. -/
theorem control_input_raises : (¬ ∃ outcome s, controlOnSample nullTrafficClass = .ok outcome s) ∧
    ¬ ∃ verdict s, tapOnSample infiniteOriginId = .ok verdict s := by
  rw [returns_iff_isSome, returns_iff_isSome]
  decide +kernel

/-- The conditions hold of the message and of the upload, and not of those datagrams. -/
theorem control_input_returns_iff_sample :
    (LocalControlHandled (NodeConfig.sampleOrigin 1 senderId_one) LocalControlConfig.sample 1000
        messageHi ∧
      ¬ LocalControlHandled (NodeConfig.sampleOrigin 1 senderId_one) LocalControlConfig.sample 1000
        nullTrafficClass) ∧
    TapHandled 1000 1000 uploadSeven (GatewayState.initial GatewayConfig.sample) ∧
      ¬ TapHandled 1000 1000 infiniteOriginId (GatewayState.initial GatewayConfig.sample) := by
  have hboth := fun data => @control_input_returns_iff Aead.checksum
    Aead.checksum_lawful.toLengthPreserving Env.sample rfl (NodeConfig.sampleOrigin 1 senderId_one)
    LocalControlConfig.sample 1000 1000 data "127.0.0.1:9000"
    (NodeState.initial (NodeConfig.sampleOrigin 1 senderId_one) SeqNo.one 0 none)
    (GatewayState.initial GatewayConfig.sample)
  have hcontrol := fun data => (hboth data).1.symm.trans
    (returns_iff_isSome (r := controlOnSample data))
  have htap := fun data => (hboth data).2.symm.trans (returns_iff_isSome (r := tapOnSample data))
  rw [hcontrol, hcontrol, htap, htap]
  decide +kernel

end KovaWfb
