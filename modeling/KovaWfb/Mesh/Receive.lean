/-
# The receive branch of the main loop

`python/examples/mesh_txrx.py`, lines 2284 to 2606: one received payload, from
`decode_frame` to the forward.  The log lines are modelled by the verdict, which
says which of them was printed and carries the data it was printed from.

`ReceivesV2`, `ReceivesData` and `Receives` list every way a frame can be dealt
with, one constructor for each way out of the source; `receive_eq_ok_iff` says
that the code does exactly that.
-/

import KovaWfb.C2.Upload
import KovaWfb.Mesh.Send

namespace KovaWfb

/-! ### Verdicts -/

/-- Why a frame was dropped. -/
inductive Drop
  | invalidAppFrame (error : String)
  | otherType
  | invalidRouteV2 (error : String)
  | ownRouteV2
  | duplicateRouteV2
  | invalidE2e (error : String)
  | authFailV2 (error : String)
  | invalidRoute (error : String)
  | ownRoute
  | duplicateRoute
  | authFail (error : String)
  deriving DecidableEq

/-- What became of the payload of an accepted `route_data` packet here. -/
inductive Delivery
  | transit
  | invalidSync (error : String)
  | sync (status : SyncStatus) (localState : Option ScheduleState) (localChannel : ℤ)
  | invalidStatus (error : String)
  | status (status : StatusPayload)
  | payload
  deriving DecidableEq

/-- An accepted `route_data` packet: its plaintext, whether it was encrypted,
what became of it and what was forwarded. -/
structure AcceptedData where
  route : RouteData
  plaintext : Bytes
  secured : Bool
  delivery : Delivery
  forwarded : Option RadioFrame

/-- An accepted `route_v2` packet: the wrapper, the plaintext if it was decrypted
here, whether it was addressed here, what was uploaded and forwarded. -/
structure AcceptedV2 where
  route : RouteDataV2
  secure : SecurePayload
  plaintext : Option Bytes
  delivered : Bool
  posted : Option JsonFields
  tapped : Option JsonFields
  forwarded : Option RadioFrame

/-- The outcome for one received payload. -/
inductive Verdict
  | dropped (drop : Drop)
  | data (accepted : AcceptedData)
  | v2 (accepted : AcceptedV2)

/-- The frame the step transmitted. -/
def Verdict.sent : Verdict → Option RadioFrame
  | .dropped _ => none
  | .data a => a.forwarded
  | .v2 a => a.forwarded

/-- The packet was accepted. -/
def Verdict.accepted : Verdict → Bool
  | .dropped _ => false
  | .data _ | .v2 _ => true

/-! ### The `route_data` branch -/

/-- The `if delivered:` block: what the payload decodes to. -/
def deliverRouteData (cfg : NodeConfig) (env : Env) (route : RouteData) (routePayload : Bytes) :
    PyM NodeState Delivery := do
  if ¬ (route.destinationId = 0 ∨ route.destinationId = cfg.senderId) then pure .transit
  else if route.innerType = msgSync then do
    match ← PyM.exceptAppFrameError (liftM (decodeSyncPayload routePayload)) with
    | .error error => pure (.invalidSync error)
    | .ok sync => do
        let s ← get
        pure (.sync sync (cfg.schedule.map fun h => h.state env.utcMs) (s.currentChannel.getD 0))
  else if route.innerType = msgStatus then do
    match ← PyM.exceptAppFrameError (liftM (decodeStatusPayload routePayload)) with
    | .error error => pure (.invalidStatus error)
    | .ok status => pure (.status status)
  else pure .payload

/-- The forward of a `route_data` packet, re-encrypted under the new hop count. -/
def forwardRouteData (A : Aead) (cfg : NodeConfig) (env : Env) (route : RouteData)
    (routePayload : Bytes) : PyM NodeState (Option RadioFrame) :=
  if route.ttl ≤ 0 then pure none
  else do
    let s ← get
    let forwarded ← route.decrementedTtl
    let forwardInnerPayload ← encryptMeshPayload A cfg env forwarded.originSenderId
      forwarded.destinationId forwarded.ttl forwarded.originSeq forwarded.innerType routePayload
    let forwardPayload ← encodeRouteDataPayload forwarded.originSenderId forwarded.destinationId
      forwarded.ttl forwarded.originSeq (.int forwarded.innerType) forwardInnerPayload
    let forwardFrame ← encodeOuterRouteFrame cfg.senderId s.nextOuterSeq.value forwardPayload
    txSend env ⟨forwardFrame, s.nextRfSeq.value⟩
    modify NodeState.advanceTx
    pure (some ⟨forwardFrame, s.nextRfSeq.value⟩)

/-- The branch for `message_type == MSG_ROUTE_DATA`. -/
def receiveRouteData (A : Aead) (cfg : NodeConfig) (env : Env) (frame : AppFrame) :
    PyM NodeState Verdict := do
  match ← PyM.exceptAppFrameError (liftM (decodeRouteDataPayload frame.payload)) with
  | .error error => pure (.dropped (.invalidRoute error))
  | .ok route => do
      modify (NodeState.notePeer cfg env frame.senderId)
      if route.originSenderId = cfg.senderId then do
        modify (NodeState.rememberSeen route.dedupeKey)
        pure (.dropped .ownRoute)
      else do
        let s ← get
        if route.dedupeKey ∈ s.seen then pure (.dropped .duplicateRoute)
        else do
          match ← PyM.exceptAppFrameError (decryptMeshPayload A cfg route) with
          | .error error => pure (.dropped (.authFail error))
          | .ok (routePayload, routeSecured) => do
              modify (NodeState.rememberSeen route.dedupeKey)
              let delivery ← deliverRouteData cfg env route routePayload
              let forwarded ← forwardRouteData A cfg env route routePayload
              pure (.data { route, plaintext := routePayload, secured := routeSecured, delivery,
                            forwarded })

/-! ### The `route_v2` branch -/

/-- `route_v2_is_own`. -/
def routeV2IsOwn (cfg : NodeConfig) (route : RouteDataV2) : Prop :=
  route.originType = cfg.originType ∧ route.originId = cfg.senderId

instance (cfg : NodeConfig) (route : RouteDataV2) : Decidable (routeV2IsOwn cfg route) :=
  inferInstanceAs (Decidable (_ ∧ _))

/-- `route_v2_delivered`. -/
def routeV2Delivered (cfg : NodeConfig) (route : RouteDataV2) : Bool :=
  route.destinationType = addrBroadcast ∨
    (route.destinationType = cfg.originType ∧ route.destinationId = cfg.senderId)

/-- The forward of a `route_v2` packet, its payload untouched. -/
def forwardRouteV2 (cfg : NodeConfig) (env : Env) (route : RouteDataV2) :
    PyM NodeState (Option RadioFrame) :=
  if route.ttl ≤ 0 then pure none
  else do
    let s ← get
    let forwarded ← route.decrementedTtl
    let forwardPayload ← encodeRouteV2Payload (.int forwarded.originType) forwarded.originId
      (.int forwarded.destinationType) forwarded.destinationId forwarded.ttl forwarded.originSeq
      (.int forwarded.trafficClass) (.int forwarded.innerType) forwarded.innerPayload
    let forwardFrame ← encodeOuterRouteV2Frame cfg.senderId s.nextOuterSeq.value forwardPayload
    txSend env ⟨forwardFrame, s.nextRfSeq.value⟩
    modify NodeState.advanceTx
    pure (some ⟨forwardFrame, s.nextRfSeq.value⟩)

/-- `build_c2_upload`. -/
def buildC2Upload (cfg : NodeConfig) (env : Env) (s : NodeState) (route : RouteDataV2) :
    JsonFields :=
  c2Upload cfg.senderId s.currentChannel env.utcMs route

/-- `post_c2_upload` and `emit_local_c2_tap`: the object that goes out when the
sink is configured and the packet is an uplink. -/
def uploadTo (enabled : Bool) (cfg : NodeConfig) (env : Env) (s : NodeState) (route : RouteDataV2) :
    Option JsonFields :=
  if enabled = true ∧ route.IsUplink then
    some (buildC2Upload cfg env s route)
  else none

/-- What follows once a `route_v2` packet is remembered. -/
def relayRouteV2 (cfg : NodeConfig) (env : Env) (route : RouteDataV2) (secure : SecurePayload)
    (plaintext : Option Bytes) : PyM NodeState Verdict := do
  let s ← get
  let forwarded ← forwardRouteV2 cfg env route
  pure (.v2 { route, secure, plaintext, delivered := routeV2Delivered cfg route,
              posted := uploadTo cfg.c2HttpForward cfg env s route,
              tapped := uploadTo cfg.localC2Tap cfg env s route, forwarded })

/-- The branch for `message_type == MSG_ROUTE_V2`. -/
def receiveRouteV2 (A : Aead) (cfg : NodeConfig) (env : Env) (frame : AppFrame) :
    PyM NodeState Verdict := do
  match ← PyM.exceptAppFrameError (liftM (decodeRouteV2Payload frame.payload)) with
  | .error error => pure (.dropped (.invalidRouteV2 error))
  | .ok route => do
      modify (NodeState.notePeer cfg env frame.senderId)
      if routeV2IsOwn cfg route then do
        modify (NodeState.rememberSeen route.dedupeKey)
        pure (.dropped .ownRouteV2)
      else do
        let s ← get
        if route.dedupeKey ∈ s.seen then pure (.dropped .duplicateRouteV2)
        else do
          match ← PyM.exceptAppFrameError (liftM (decodeSecurePayload route.innerPayload)) with
          | .error error => pure (.dropped (.invalidE2e error))
          | .ok secure =>
              if routeV2Delivered cfg route = true ∧
                  (e2eCryptoForInbound cfg route secure).isSome = true then do
                match ← PyM.exceptAppFrameError (decryptE2ePayload A cfg route) with
                | .error error => pure (.dropped (.authFailV2 error))
                | .ok (routePayload, secure) => do
                    modify (NodeState.rememberSeen route.dedupeKey)
                    relayRouteV2 cfg env route secure (some routePayload)
              else do
                modify (NodeState.rememberSeen route.dedupeKey)
                relayRouteV2 cfg env route secure none

/-- One received payload. -/
def receive (A : Aead) (cfg : NodeConfig) (env : Env) (payload : Bytes) : PyM NodeState Verdict := do
  match ← PyM.exceptAppFrameError (liftM (decodeFrame payload false)) with
  | .error error => pure (.dropped (.invalidAppFrame error))
  | .ok frame =>
      if frame.messageType = msgRouteV2 then receiveRouteV2 A cfg env frame
      else if frame.messageType ≠ msgRouteData then pure (.dropped .otherType)
      else receiveRouteData A cfg env frame

/-! ### Forwards -/

/-- The packet a node forwards: one hop less, the payload as it was protected
again. -/
def RouteData.hop (r : RouteData) (innerPayload : Bytes) : RouteData :=
  { r with ttl := r.ttl - 1, innerPayload }

/-- The packet a node forwards: one hop less. -/
def RouteDataV2.hop (r : RouteDataV2) : RouteDataV2 := { r with ttl := r.ttl - 1 }

theorem RouteDataV2.Valid.hop {r : RouteDataV2} (h : r.Valid) (ht : 0 < r.ttl) : r.hop.Valid :=
  ⟨h.routeVersion, h.origin, h.destination,
    ⟨by have := ht; simp only [RouteDataV2.hop]; omega,
      by have := h.ttl.2; simp only [RouteDataV2.hop]; omega⟩,
    h.originSeq, h.trafficClass, h.innerType, h.innerType_ne, h.innerPayload⟩

theorem RouteData.Valid.hop {r : RouteData} (h : r.Valid) (ht : 0 < r.ttl) {p : Bytes}
    (hp : FitsWidth 2 p.length) : (r.hop p).Valid :=
  ⟨h.originSenderId_ne, h.originSenderId, h.destinationId,
    ⟨by have := ht; simp only [RouteData.hop]; omega,
      by have := h.ttl.2; simp only [RouteData.hop]; omega⟩,
    h.originSeq, h.innerType, h.innerType_ne, hp⟩

/-- **What a node forwards of a `route_data` packet.** -/
theorem forwardRouteData_eq_ok_iff {A : Aead} {cfg : NodeConfig} {env : Env} {r : RouteData}
    {p : Bytes} {s s' : NodeState} {f : Option RadioFrame} :
    forwardRouteData A cfg env r p s = .ok f s' ↔
      (r.ttl ≤ 0 ∧ f = none ∧ s' = s) ∨
      (0 < r.ttl ∧ ∃ routed, encryptMeshPayload A cfg env r.originSenderId r.destinationId
          (r.ttl - 1) r.originSeq r.innerType p = .ok routed ∧
        let frame := outerFrame cfg.senderId msgRouteData s.nextOuterSeq.value (r.hop routed).bytes
        (r.hop routed).Valid ∧ frame.Valid ∧ frame.bytes.length ≤ computeMaxPayload ∧
          env.radio = none ∧ f = some ⟨frame.bytes, s.nextRfSeq.value⟩ ∧ s' = s.advanceTx) := by
  unfold forwardRouteData
  by_cases ht : r.ttl ≤ 0
  · simp [ht, PyM.pure_apply, eq_comm]
  · rw [if_neg ht]
    simp only [PyM.get_bind_apply, PyM.lift_bind_eq_ok, PyM.modify_bind_apply, PyM.pure_apply,
      RouteData.decrementedTtl_eq_ok, encodeRouteDataPayload_int_eq_ok, encodeOuterRouteFrame,
      encodeFrame_int_eq_ok, txSend_eq_ok, EStateM.Result.ok.injEq, exists_const, ht, false_and,
      false_or]
    constructor
    · rintro ⟨_, ⟨hpos, rfl⟩, routed, hrouted, _, ⟨hv, rfl⟩, _, ⟨hf, rfl⟩, ⟨hlen, hradio⟩, rfl, rfl⟩
      exact ⟨hpos, routed, hrouted, hv, hf, hlen, hradio, rfl, rfl⟩
    · rintro ⟨hpos, routed, hrouted, hv, hf, hlen, hradio, rfl, rfl⟩
      exact ⟨_, ⟨hpos, rfl⟩, routed, hrouted, _, ⟨hv, rfl⟩, _, ⟨hf, rfl⟩, ⟨hlen, hradio⟩, rfl, rfl⟩

/-- **What a node forwards of a `route_v2` packet.** -/
theorem forwardRouteV2_eq_ok_iff {cfg : NodeConfig} {env : Env} {r : RouteDataV2} (hr : r.Valid)
    {s s' : NodeState} {f : Option RadioFrame} :
    forwardRouteV2 cfg env r s = .ok f s' ↔
      (r.ttl ≤ 0 ∧ f = none ∧ s' = s) ∨
      (0 < r.ttl ∧
        let frame := outerFrame cfg.senderId msgRouteV2 s.nextOuterSeq.value r.hop.bytes
        frame.Valid ∧ frame.bytes.length ≤ computeMaxPayload ∧ env.radio = none ∧
          f = some ⟨frame.bytes, s.nextRfSeq.value⟩ ∧ s' = s.advanceTx) := by
  unfold forwardRouteV2
  by_cases ht : r.ttl ≤ 0
  · simp [ht, PyM.pure_apply, eq_comm]
  · have hhop : r.hop = ⟨routeV2Version, r.originType, r.originId, r.destinationType,
        r.destinationId, r.ttl - 1, r.originSeq, r.trafficClass, r.innerType, r.innerPayload⟩ := by
      rw [← hr.routeVersion]
      rfl
    rw [if_neg ht]
    simp only [PyM.get_bind_apply, PyM.lift_bind_eq_ok, PyM.modify_bind_apply, PyM.pure_apply,
      RouteDataV2.decrementedTtl_eq_ok, encodeRouteV2Payload_int_eq_ok, encodeOuterRouteV2Frame,
      encodeFrame_int_eq_ok, txSend_eq_ok, EStateM.Result.ok.injEq, exists_const, ht, false_and,
      false_or, hhop]
    constructor
    · rintro ⟨_, ⟨hpos, rfl⟩, _, ⟨hv, rfl⟩, _, ⟨hf, rfl⟩, ⟨hlen, hradio⟩, rfl, rfl⟩
      exact ⟨hpos, hf, hlen, hradio, rfl, rfl⟩
    · rintro ⟨hpos, hf, hlen, hradio, rfl, rfl⟩
      exact ⟨_, ⟨hpos, rfl⟩, _, ⟨hhop ▸ hr.hop hpos, rfl⟩, _, ⟨hf, rfl⟩, ⟨hlen, hradio⟩, rfl, rfl⟩

/-! ### Every way a received payload can be dealt with -/

/-- What the node makes of a delivered payload reads the state and leaves it. -/
theorem deliverRouteData_eq (cfg : NodeConfig) (env : Env) (r : RouteData) (p : Bytes)
    (s : NodeState) : ∃ d, deliverRouteData cfg env r p s = .ok d s := by
  unfold deliverRouteData
  split
  · exact ⟨_, rfl⟩
  · split
    · obtain ⟨sync, -, hsync⟩ | ⟨msg, -, hsync⟩ :=
        PyM.exceptAppFrameError_lift_bind (decodeSyncPayload_onlyAppFrameError p)
      · exact ⟨_, hsync _ s⟩
      · exact ⟨_, hsync _ s⟩
    · split
      · obtain ⟨status, -, hstatus⟩ | ⟨msg, -, hstatus⟩ :=
          PyM.exceptAppFrameError_lift_bind (decodeStatusPayload_onlyAppFrameError p)
        · exact ⟨_, hstatus _ s⟩
        · exact ⟨_, hstatus _ s⟩
      · exact ⟨_, rfl⟩

section Outcomes

variable (A : Aead) (cfg : NodeConfig) (env : Env)

/-- Every way the `route_data` branch ends, from the state `s` after the frame
was decoded. -/
inductive ReceivesData (frame : AppFrame) (s : NodeState) : Verdict → NodeState → Prop
  | invalid (msg : String)
      (hroute : decodeRouteDataPayload frame.payload = .error (.appFrameError msg)) :
      ReceivesData frame s (.dropped (.invalidRoute msg)) s
  | own (route : RouteData) (hroute : decodeRouteDataPayload frame.payload = .ok route)
      (hown : route.originSenderId = cfg.senderId) :
      ReceivesData frame s (.dropped .ownRoute)
        ((s.notePeer cfg env frame.senderId).rememberSeen route.dedupeKey)
  | duplicate (route : RouteData) (hroute : decodeRouteDataPayload frame.payload = .ok route)
      (hown : route.originSenderId ≠ cfg.senderId) (hseen : route.dedupeKey ∈ s.seen) :
      ReceivesData frame s (.dropped .duplicateRoute) (s.notePeer cfg env frame.senderId)
  | authFail (route : RouteData) (msg : String)
      (hroute : decodeRouteDataPayload frame.payload = .ok route)
      (hown : route.originSenderId ≠ cfg.senderId) (hseen : ¬ route.dedupeKey ∈ s.seen)
      (hauth : decryptMeshPayload A cfg route (s.notePeer cfg env frame.senderId) =
        .error (.appFrameError msg) (s.notePeer cfg env frame.senderId)) :
      ReceivesData frame s (.dropped (.authFail msg)) (s.notePeer cfg env frame.senderId)
  | accepted (a : AcceptedData) (s₁ s' : NodeState)
      (hroute : decodeRouteDataPayload frame.payload = .ok a.route)
      (hown : a.route.originSenderId ≠ cfg.senderId) (hseen : ¬ a.route.dedupeKey ∈ s.seen)
      (hauth : decryptMeshPayload A cfg a.route (s.notePeer cfg env frame.senderId) =
        .ok (a.plaintext, a.secured) s₁)
      (hdeliver : deliverRouteData cfg env a.route a.plaintext (s₁.rememberSeen a.route.dedupeKey) =
        .ok a.delivery (s₁.rememberSeen a.route.dedupeKey))
      (hforward : forwardRouteData A cfg env a.route a.plaintext
        (s₁.rememberSeen a.route.dedupeKey) = .ok a.forwarded s') :
      ReceivesData frame s (.data a) s'

/-- Every way the `route_v2` branch ends. -/
inductive ReceivesV2 (frame : AppFrame) (s : NodeState) : Verdict → NodeState → Prop
  | invalid (msg : String)
      (hroute : decodeRouteV2Payload frame.payload = .error (.appFrameError msg)) :
      ReceivesV2 frame s (.dropped (.invalidRouteV2 msg)) s
  | own (route : RouteDataV2) (hroute : decodeRouteV2Payload frame.payload = .ok route)
      (hown : routeV2IsOwn cfg route) :
      ReceivesV2 frame s (.dropped .ownRouteV2)
        ((s.notePeer cfg env frame.senderId).rememberSeen route.dedupeKey)
  | duplicate (route : RouteDataV2) (hroute : decodeRouteV2Payload frame.payload = .ok route)
      (hown : ¬ routeV2IsOwn cfg route) (hseen : route.dedupeKey ∈ s.seen) :
      ReceivesV2 frame s (.dropped .duplicateRouteV2) (s.notePeer cfg env frame.senderId)
  | invalidE2e (route : RouteDataV2) (msg : String)
      (hroute : decodeRouteV2Payload frame.payload = .ok route)
      (hown : ¬ routeV2IsOwn cfg route) (hseen : ¬ route.dedupeKey ∈ s.seen)
      (hsecure : decodeSecurePayload route.innerPayload = .error (.appFrameError msg)) :
      ReceivesV2 frame s (.dropped (.invalidE2e msg)) (s.notePeer cfg env frame.senderId)
  | authFail (route : RouteDataV2) (msg : String) (secure : SecurePayload)
      (hroute : decodeRouteV2Payload frame.payload = .ok route)
      (hown : ¬ routeV2IsOwn cfg route) (hseen : ¬ route.dedupeKey ∈ s.seen)
      (hsecure : decodeSecurePayload route.innerPayload = .ok secure)
      (hkey : routeV2Delivered cfg route = true ∧
        (e2eCryptoForInbound cfg route secure).isSome = true)
      (hauth : decryptE2ePayload A cfg route (s.notePeer cfg env frame.senderId) =
        .error (.appFrameError msg) (s.notePeer cfg env frame.senderId)) :
      ReceivesV2 frame s (.dropped (.authFailV2 msg)) (s.notePeer cfg env frame.senderId)
  | accepted (a : AcceptedV2) (s₁ s' : NodeState)
      (hroute : decodeRouteV2Payload frame.payload = .ok a.route)
      (hown : ¬ routeV2IsOwn cfg a.route) (hseen : ¬ a.route.dedupeKey ∈ s.seen)
      (hsecure : decodeSecurePayload a.route.innerPayload = .ok a.secure)
      (hdelivered : a.delivered = routeV2Delivered cfg a.route)
      (hauth : (¬ (a.delivered = true ∧ (e2eCryptoForInbound cfg a.route a.secure).isSome = true) ∧
          a.plaintext = none ∧ s₁ = s.notePeer cfg env frame.senderId) ∨
        ((a.delivered = true ∧ (e2eCryptoForInbound cfg a.route a.secure).isSome = true) ∧
          ∃ p, a.plaintext = some p ∧
            decryptE2ePayload A cfg a.route (s.notePeer cfg env frame.senderId) =
              .ok (p, a.secure) s₁))
      (hposted : a.posted = uploadTo cfg.c2HttpForward cfg env s a.route)
      (htapped : a.tapped = uploadTo cfg.localC2Tap cfg env s a.route)
      (hforward : forwardRouteV2 cfg env a.route (s₁.rememberSeen a.route.dedupeKey) =
        .ok a.forwarded s') :
      ReceivesV2 frame s (.v2 a) s'

/-- Every way a received payload is dealt with. -/
inductive Receives (payload : Bytes) (s : NodeState) : Verdict → NodeState → Prop
  | invalid (msg : String) (hframe : decodeFrame payload false = .error (.appFrameError msg)) :
      Receives payload s (.dropped (.invalidAppFrame msg)) s
  | other (frame : AppFrame) (hframe : decodeFrame payload false = .ok frame)
      (hv2 : frame.messageType ≠ msgRouteV2) (hdata : frame.messageType ≠ msgRouteData) :
      Receives payload s (.dropped .otherType) s
  | v2 (frame : AppFrame) (v : Verdict) (s' : NodeState)
      (hframe : decodeFrame payload false = .ok frame) (hv2 : frame.messageType = msgRouteV2)
      (hreceive : ReceivesV2 A cfg env frame s v s') : Receives payload s v s'
  | data (frame : AppFrame) (v : Verdict) (s' : NodeState)
      (hframe : decodeFrame payload false = .ok frame) (hdata : frame.messageType = msgRouteData)
      (hreceive : ReceivesData A cfg env frame s v s') : Receives payload s v s'

variable {A cfg env}

/-- **The `route_data` branch does exactly what `ReceivesData` lists.** -/
theorem receiveRouteData_eq_ok_iff {frame : AppFrame} {s s' : NodeState} {v : Verdict} :
    receiveRouteData A cfg env frame s = .ok v s' ↔ ReceivesData A cfg env frame s v s' := by
  rw [receiveRouteData, PyM.exceptAppFrameError_lift_bind_eq_ok]
  constructor
  · rintro (⟨route, hroute, h⟩ | ⟨msg, hroute, h⟩)
    · simp only [PyM.modify_bind_apply] at h
      by_cases hown : route.originSenderId = cfg.senderId
      · rw [if_pos hown] at h
        obtain ⟨rfl, rfl⟩ := EStateM.Result.ok.inj h
        exact .own route hroute hown
      · rw [if_neg hown, PyM.get_bind_apply] at h
        by_cases hseen : route.dedupeKey ∈ s.seen
        · rw [if_pos (by exact hseen)] at h
          obtain ⟨rfl, rfl⟩ := EStateM.Result.ok.inj h
          exact .duplicate route hroute hown hseen
        · rw [if_neg (by exact hseen), PyM.exceptAppFrameError_bind_eq_ok] at h
          obtain ⟨⟨p, secured⟩, s₁, hauth, h⟩ | ⟨msg, s₁, hauth, h⟩ := h
          · simp only [PyM.modify_bind_apply, PyM.bind_eq_ok] at h
            obtain ⟨delivery, s₂, hdeliver, forwarded, s₃, hforward, h⟩ := h
            obtain ⟨d, hd⟩ := deliverRouteData_eq cfg env route p (s₁.rememberSeen route.dedupeKey)
            rw [hd] at hdeliver
            obtain ⟨rfl, rfl⟩ := EStateM.Result.ok.inj hdeliver
            obtain ⟨rfl, rfl⟩ := EStateM.Result.ok.inj h
            exact .accepted _ s₁ _ hroute hown hseen hauth hd hforward
          · obtain ⟨rfl, -⟩ := decryptMeshPayload_error hauth
            obtain ⟨rfl, rfl⟩ := EStateM.Result.ok.inj h
            exact .authFail route msg hroute hown hseen hauth
    · obtain ⟨rfl, rfl⟩ := EStateM.Result.ok.inj h
      exact .invalid msg hroute
  · intro h
    cases h with
    | invalid msg hroute => exact Or.inr ⟨msg, hroute, rfl⟩
    | own route hroute hown =>
      refine Or.inl ⟨route, hroute, ?_⟩
      simp only [PyM.modify_bind_apply, if_pos hown]
      rfl
    | duplicate route hroute hown hseen =>
      refine Or.inl ⟨route, hroute, ?_⟩
      simp only [PyM.modify_bind_apply, if_neg hown, PyM.get_bind_apply]
      rw [if_pos (by exact hseen)]
      rfl
    | authFail route msg hroute hown hseen hauth =>
      refine Or.inl ⟨route, hroute, ?_⟩
      simp only [PyM.modify_bind_apply, if_neg hown, PyM.get_bind_apply]
      rw [if_neg (by exact hseen), PyM.exceptAppFrameError_bind_eq_ok]
      exact Or.inr ⟨msg, _, hauth, rfl⟩
    | accepted a s₁ _ hroute hown hseen hauth hdeliver hforward =>
      refine Or.inl ⟨a.route, hroute, ?_⟩
      simp only [PyM.modify_bind_apply, if_neg hown, PyM.get_bind_apply]
      rw [if_neg (by exact hseen), PyM.exceptAppFrameError_bind_eq_ok]
      refine Or.inl ⟨(a.plaintext, a.secured), s₁, hauth, ?_⟩
      simp only [PyM.modify_bind_apply, PyM.bind_eq_ok]
      exact ⟨_, _, hdeliver, _, _, hforward, rfl⟩

/-- The upload object depends on the state through the channel only. -/
theorem uploadTo_congr {enabled : Bool} {r : RouteDataV2} {s s' : NodeState}
    (h : s.currentChannel = s'.currentChannel) :
    uploadTo enabled cfg env s r = uploadTo enabled cfg env s' r := by
  rw [uploadTo, uploadTo, buildC2Upload, buildC2Upload, h]

theorem relayRouteV2_eq_ok_iff {r : RouteDataV2} {secure : SecurePayload} {p : Option Bytes}
    {s s' : NodeState} {v : Verdict} :
    relayRouteV2 cfg env r secure p s = .ok v s' ↔
      ∃ forwarded, forwardRouteV2 cfg env r s = .ok forwarded s' ∧
        v = .v2 ⟨r, secure, p, routeV2Delivered cfg r, uploadTo cfg.c2HttpForward cfg env s r,
          uploadTo cfg.localC2Tap cfg env s r, forwarded⟩ := by
  simp only [relayRouteV2, PyM.get_bind_apply, PyM.bind_eq_ok, PyM.pure_apply,
    EStateM.Result.ok.injEq]
  constructor
  · rintro ⟨forwarded, _, hforward, rfl, rfl⟩
    exact ⟨forwarded, hforward, rfl⟩
  · rintro ⟨forwarded, hforward, rfl⟩
    exact ⟨forwarded, s', hforward, rfl, rfl⟩

/-- A decrypted wrapper is the one that was decoded before. -/
theorem decryptE2ePayload_secure {r : RouteDataV2} {s s' : NodeState} {p : Bytes}
    {secure secure' : SecurePayload} (hsecure : decodeSecurePayload r.innerPayload = .ok secure)
    (h : decryptE2ePayload A cfg r s = .ok (p, secure') s') : secure' = secure := by
  obtain ⟨hopen, -, -⟩ := decryptE2ePayload_eq_ok_iff.mp h
  obtain ⟨hv', hb', -⟩ := openE2ePayload_eq_ok_iff.mp hopen
  obtain ⟨hv, -, hb⟩ := decodeSecurePayload_eq_ok_iff.mp hsecure
  exact SecurePayload.bytes_inj hv' hv (hb'.trans hb.symm)

theorem decryptE2ePayload_channel {r : RouteDataV2} {s s' : NodeState} {p : Bytes}
    {secure : SecurePayload} (h : decryptE2ePayload A cfg r s = .ok (p, secure) s') :
    s'.currentChannel = s.currentChannel := by
  obtain ⟨replay, rfl⟩ := decryptE2ePayload_frame h
  rfl

/-- Accepting a `route_v2` packet, decrypted or not, changes the replay window only,
before the packet is remembered. -/
theorem AcceptedV2.auth_frame {a : AcceptedV2} {keyed : Prop} {s s₁ : NodeState}
    (h : (¬ keyed ∧ a.plaintext = none ∧ s₁ = s) ∨ (keyed ∧ ∃ p, a.plaintext = some p ∧
      decryptE2ePayload A cfg a.route s = .ok (p, a.secure) s₁)) :
    ∃ replay, s₁ = { s with secureReplay := replay } := by
  obtain ⟨-, -, rfl⟩ | ⟨-, p, -, hdec⟩ := h
  · exact ⟨s₁.secureReplay, rfl⟩
  · exact decryptE2ePayload_frame hdec

section NewRouteV2

variable {frame : AppFrame} {route : RouteDataV2} {secure : SecurePayload} {s s' : NodeState}
  {v : Verdict}

/-- The `route_v2` branch on a new packet, behind the decoding of its wrapper. -/
theorem receiveRouteV2_of_secure (hroute : decodeRouteV2Payload frame.payload = .ok route)
    (hown : ¬ routeV2IsOwn cfg route) (hseen : ¬ route.dedupeKey ∈ s.seen)
    (hsecure : decodeSecurePayload route.innerPayload = .ok secure) :
    receiveRouteV2 A cfg env frame s =
      (if routeV2Delivered cfg route = true ∧
          (e2eCryptoForInbound cfg route secure).isSome = true then do
        match ← PyM.exceptAppFrameError (decryptE2ePayload A cfg route) with
        | .error error => pure (.dropped (.authFailV2 error))
        | .ok (routePayload, secure) => do
            modify (NodeState.rememberSeen route.dedupeKey)
            relayRouteV2 cfg env route secure (some routePayload)
      else do
        modify (NodeState.rememberSeen route.dedupeKey)
        relayRouteV2 cfg env route secure none : PyM NodeState Verdict)
      (s.notePeer cfg env frame.senderId) := by
  rw [receiveRouteV2, PyM.exceptAppFrameError_lift_bind_of_eq_ok hroute]
  simp only [PyM.modify_bind_apply, if_neg hown, PyM.get_bind_apply]
  rw [if_neg (by exact hseen), PyM.exceptAppFrameError_lift_bind_of_eq_ok hsecure]

/-- A new packet that the node has no key for is remembered and relayed. -/
theorem receiveRouteV2_unkeyed_iff (hroute : decodeRouteV2Payload frame.payload = .ok route)
    (hown : ¬ routeV2IsOwn cfg route) (hseen : ¬ route.dedupeKey ∈ s.seen)
    (hsecure : decodeSecurePayload route.innerPayload = .ok secure)
    (hkey : ¬ (routeV2Delivered cfg route = true ∧
      (e2eCryptoForInbound cfg route secure).isSome = true)) :
    receiveRouteV2 A cfg env frame s = .ok v s' ↔
      ∃ forwarded, forwardRouteV2 cfg env route
          ((s.notePeer cfg env frame.senderId).rememberSeen route.dedupeKey) = .ok forwarded s' ∧
        v = .v2 ⟨route, secure, none, routeV2Delivered cfg route,
          uploadTo cfg.c2HttpForward cfg env s route, uploadTo cfg.localC2Tap cfg env s route,
          forwarded⟩ := by
  rw [receiveRouteV2_of_secure hroute hown hseen hsecure, if_neg hkey, PyM.modify_bind_apply,
    relayRouteV2_eq_ok_iff]
  rfl

/-- One that it has a key for is relayed when it decrypts, and is not remembered when it does
not. -/
theorem receiveRouteV2_keyed_iff (hroute : decodeRouteV2Payload frame.payload = .ok route)
    (hown : ¬ routeV2IsOwn cfg route) (hseen : ¬ route.dedupeKey ∈ s.seen)
    (hsecure : decodeSecurePayload route.innerPayload = .ok secure)
    (hkey : routeV2Delivered cfg route = true ∧
      (e2eCryptoForInbound cfg route secure).isSome = true) :
    receiveRouteV2 A cfg env frame s = .ok v s' ↔
      (∃ p s₁ forwarded, decryptE2ePayload A cfg route (s.notePeer cfg env frame.senderId) =
          .ok (p, secure) s₁ ∧
        forwardRouteV2 cfg env route (s₁.rememberSeen route.dedupeKey) = .ok forwarded s' ∧
        v = .v2 ⟨route, secure, some p, routeV2Delivered cfg route,
          uploadTo cfg.c2HttpForward cfg env s route, uploadTo cfg.localC2Tap cfg env s route,
          forwarded⟩) ∨
      ∃ msg, decryptE2ePayload A cfg route (s.notePeer cfg env frame.senderId) =
          .error (.appFrameError msg) (s.notePeer cfg env frame.senderId) ∧
        v = .dropped (.authFailV2 msg) ∧ s' = s.notePeer cfg env frame.senderId := by
  have hupload : ∀ {p s₁}, decryptE2ePayload A cfg route (s.notePeer cfg env frame.senderId) =
      .ok (p, secure) s₁ → ∀ enabled, uploadTo enabled cfg env (s₁.rememberSeen route.dedupeKey)
        route = uploadTo enabled cfg env s route := by
    intro p s₁ hauth enabled
    have hchannel := decryptE2ePayload_channel hauth
    exact uploadTo_congr hchannel
  rw [receiveRouteV2_of_secure hroute hown hseen hsecure, if_pos hkey,
    PyM.exceptAppFrameError_bind_eq_ok]
  simp only [PyM.modify_bind_apply, relayRouteV2_eq_ok_iff]
  constructor
  · rintro (⟨⟨p, secure'⟩, s₁, hauth, forwarded, hforward, rfl⟩ | ⟨msg, s₁, hauth, h⟩)
    · obtain rfl := decryptE2ePayload_secure hsecure hauth
      rw [hupload hauth, hupload hauth]
      exact Or.inl ⟨p, s₁, forwarded, hauth, hforward, rfl⟩
    · obtain ⟨rfl, -⟩ := decryptE2ePayload_error hauth
      obtain ⟨rfl, rfl⟩ := EStateM.Result.ok.inj h
      exact Or.inr ⟨msg, hauth, rfl, rfl⟩
  · rintro (⟨p, s₁, forwarded, hauth, hforward, rfl⟩ | ⟨msg, hauth, rfl, rfl⟩)
    · refine Or.inl ⟨(p, secure), s₁, hauth, forwarded, hforward, ?_⟩
      rw [hupload hauth, hupload hauth]
    · exact Or.inr ⟨msg, _, hauth, rfl⟩

end NewRouteV2

/-- **The `route_v2` branch does exactly what `ReceivesV2` lists.** -/
theorem receiveRouteV2_eq_ok_iff {frame : AppFrame} {s s' : NodeState} {v : Verdict} :
    receiveRouteV2 A cfg env frame s = .ok v s' ↔ ReceivesV2 A cfg env frame s v s' := by
  constructor
  · intro h
    have hbranch := h
    rw [receiveRouteV2, PyM.exceptAppFrameError_lift_bind_eq_ok] at hbranch
    obtain ⟨route, hroute, hbranch⟩ | ⟨msg, hroute, hbranch⟩ := hbranch
    · simp only [PyM.modify_bind_apply] at hbranch
      by_cases hown : routeV2IsOwn cfg route
      · rw [if_pos hown] at hbranch
        obtain ⟨rfl, rfl⟩ := EStateM.Result.ok.inj hbranch
        exact .own route hroute hown
      · rw [if_neg hown, PyM.get_bind_apply] at hbranch
        by_cases hseen : route.dedupeKey ∈ s.seen
        · rw [if_pos (by exact hseen)] at hbranch
          obtain ⟨rfl, rfl⟩ := EStateM.Result.ok.inj hbranch
          exact .duplicate route hroute hown hseen
        · rw [if_neg (by exact hseen), PyM.exceptAppFrameError_lift_bind_eq_ok] at hbranch
          obtain ⟨secure, hsecure, -⟩ | ⟨msg, hsecure, hbranch⟩ := hbranch
          · by_cases hkey : routeV2Delivered cfg route = true ∧
                (e2eCryptoForInbound cfg route secure).isSome = true
            · rw [receiveRouteV2_keyed_iff hroute hown hseen hsecure hkey] at h
              obtain ⟨p, s₁, forwarded, hauth, hforward, rfl⟩ | ⟨msg, hauth, rfl, rfl⟩ := h
              · exact .accepted _ s₁ _ hroute hown hseen hsecure rfl
                  (Or.inr ⟨hkey, p, rfl, hauth⟩) rfl rfl hforward
              · exact .authFail route msg secure hroute hown hseen hsecure hkey hauth
            · rw [receiveRouteV2_unkeyed_iff hroute hown hseen hsecure hkey] at h
              obtain ⟨forwarded, hforward, rfl⟩ := h
              exact .accepted _ _ _ hroute hown hseen hsecure rfl (Or.inl ⟨hkey, rfl, rfl⟩)
                rfl rfl hforward
          · obtain ⟨rfl, rfl⟩ := EStateM.Result.ok.inj hbranch
            exact .invalidE2e route msg hroute hown hseen hsecure
    · obtain ⟨rfl, rfl⟩ := EStateM.Result.ok.inj hbranch
      exact .invalid msg hroute
  · intro h
    cases h with
    | invalid msg hroute =>
      rw [receiveRouteV2, PyM.exceptAppFrameError_lift_bind_eq_ok]
      exact Or.inr ⟨msg, hroute, rfl⟩
    | own route hroute hown =>
      rw [receiveRouteV2, PyM.exceptAppFrameError_lift_bind_of_eq_ok hroute]
      simp only [PyM.modify_bind_apply, if_pos hown]
      rfl
    | duplicate route hroute hown hseen =>
      rw [receiveRouteV2, PyM.exceptAppFrameError_lift_bind_of_eq_ok hroute]
      simp only [PyM.modify_bind_apply, if_neg hown, PyM.get_bind_apply]
      rw [if_pos (by exact hseen)]
      rfl
    | invalidE2e route msg hroute hown hseen hsecure =>
      rw [receiveRouteV2, PyM.exceptAppFrameError_lift_bind_of_eq_ok hroute]
      simp only [PyM.modify_bind_apply, if_neg hown, PyM.get_bind_apply]
      rw [if_neg (by exact hseen), PyM.exceptAppFrameError_lift_bind_eq_ok]
      exact Or.inr ⟨msg, hsecure, rfl⟩
    | authFail route msg secure hroute hown hseen hsecure hkey hauth =>
      exact (receiveRouteV2_keyed_iff hroute hown hseen hsecure hkey).mpr
        (Or.inr ⟨msg, hauth, rfl, rfl⟩)
    | accepted a s₁ _ hroute hown hseen hsecure hdelivered hauth hposted htapped hforward =>
      obtain ⟨route, secure, plaintext, delivered, posted, tapped, forwarded⟩ := a
      simp only at hroute hown hseen hsecure hdelivered hauth hposted htapped hforward
      subst hdelivered hposted htapped
      obtain ⟨hkey, rfl, rfl⟩ | ⟨hkey, p, rfl, hauth⟩ := hauth
      · exact (receiveRouteV2_unkeyed_iff hroute hown hseen hsecure hkey).mpr
          ⟨forwarded, hforward, rfl⟩
      · exact (receiveRouteV2_keyed_iff hroute hown hseen hsecure hkey).mpr
          (Or.inl ⟨p, s₁, forwarded, hauth, hforward, rfl⟩)

/-- **The receive branch does exactly what `Receives` lists.** -/
theorem receive_eq_ok_iff {payload : Bytes} {s s' : NodeState} {v : Verdict} :
    receive A cfg env payload s = .ok v s' ↔ Receives A cfg env payload s v s' := by
  have hne : msgRouteData ≠ msgRouteV2 := by decide
  rw [receive, PyM.exceptAppFrameError_lift_bind_eq_ok]
  constructor
  · rintro (⟨frame, hframe, h⟩ | ⟨msg, hframe, h⟩)
    · simp only at h
      by_cases hv2 : frame.messageType = msgRouteV2
      · rw [if_pos hv2, receiveRouteV2_eq_ok_iff] at h
        exact .v2 frame v s' hframe hv2 h
      · rw [if_neg hv2] at h
        by_cases hdata : frame.messageType = msgRouteData
        · rw [if_neg (not_not.mpr hdata), receiveRouteData_eq_ok_iff] at h
          exact .data frame v s' hframe hdata h
        · rw [if_pos hdata] at h
          obtain ⟨rfl, rfl⟩ := EStateM.Result.ok.inj h
          exact .other frame hframe hv2 hdata
    · obtain ⟨rfl, rfl⟩ := EStateM.Result.ok.inj h
      exact .invalid msg hframe
  · intro h
    cases h with
    | invalid msg hframe => exact Or.inr ⟨msg, hframe, rfl⟩
    | other frame hframe hv2 hdata =>
      refine Or.inl ⟨frame, hframe, ?_⟩
      simp only [if_neg hv2, if_pos hdata]
      rfl
    | v2 frame _ _ hframe hv2 hreceive =>
      refine Or.inl ⟨frame, hframe, ?_⟩
      simp only [if_pos hv2]
      exact receiveRouteV2_eq_ok_iff.mpr hreceive
    | data frame _ _ hframe hdata hreceive =>
      refine Or.inl ⟨frame, hframe, ?_⟩
      have hv2 : frame.messageType ≠ msgRouteV2 := by rw [hdata]; exact hne
      simp only [if_neg hv2, if_neg (not_not.mpr hdata)]
      exact receiveRouteData_eq_ok_iff.mpr hreceive

end Outcomes

end KovaWfb
