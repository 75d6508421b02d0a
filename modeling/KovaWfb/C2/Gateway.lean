/-
# The C2 gateway

`python/examples/c2_gateway.py`: the receive branch of the loop of `main` (lines 706
to 774), `drain_local_tap` for one datagram (594 to 635) and the object that
`_post_c2_upload` sends (309 to 330).

A datagram is what `json.loads` made of it, or the exception it raised.  The answer
to a POST goes into a log line only.  `gatewayReceive_eq` and `drainLocalTap_upload`
say what the two branches do: each looks an uplink up in the same window, under its
own key, and posts it when the key is new.
-/

import KovaWfb.C2.Upload
import KovaWfb.AppProto.Secure
import KovaWfb.Lib.FifoSet
import KovaWfb.Python.Numbers

namespace KovaWfb

/-- What `main` has accepted when the loop starts. -/
structure GatewayConfig where
  gatewayId : ℤ
  seenLimit : ℕ
  gatewayId_fits : FitsWidth 1 gatewayId
  seenLimit_pos : 0 < seenLimit

/-- What the loop mutates: `SeenRoutes` and the channel. -/
structure GatewayState where
  seen : FifoSet (List ℤ)
  currentChannel : Option ℤ

/-- The state `main` enters the loop with. -/
def GatewayState.initial (cfg : GatewayConfig) : GatewayState :=
  { seen := FifoSet.empty cfg.seenLimit cfg.seenLimit_pos, currentChannel := none }

/-- The outcome for one frame or datagram. -/
inductive GatewayVerdict
  | invalidAppFrame (error : String)
  | otherType
  | invalidRouteV2 (error : String)
  | notC2Uplink
  | invalidE2e (error : String)
  | duplicateC2Uplink
  | tapReject (error : PyError)
  | tapDuplicate
  | posted (upload : JsonFields)

/-- The uplink was dropped as a duplicate. -/
def GatewayVerdict.isDuplicate : GatewayVerdict → Bool
  | .duplicateC2Uplink | .tapDuplicate => true
  | _ => false

/-- The uplink was posted. -/
def GatewayVerdict.isPosted : GatewayVerdict → Bool
  | .posted _ => true
  | _ => false

/-- `seen.remember(key)`. -/
def rememberUplink (key : List ℤ) : PyM GatewayState Bool := do
  let s ← get
  set { s with seen := (s.seen.remember key).2 }
  pure (s.seen.remember key).1

/-! ### RF -/

/-- The object `_post_c2_upload` sends. -/
def gatewayUpload (cfg : GatewayConfig) (channel : Option ℤ) (utcMs : ℤ) (route : RouteDataV2) :
    JsonFields :=
  c2Upload cfg.gatewayId channel utcMs route

/-- One received payload. -/
def gatewayReceive (cfg : GatewayConfig) (utcMs : ℤ) (payload : Bytes) :
    PyM GatewayState GatewayVerdict := do
  match ← PyM.exceptAppFrameError (liftM (decodeFrame payload false)) with
  | .error error => pure (.invalidAppFrame error)
  | .ok frame =>
      if frame.messageType ≠ msgRouteV2 then pure .otherType
      else do
        match ← PyM.exceptAppFrameError (liftM (decodeRouteV2Payload frame.payload)) with
        | .error error => pure (.invalidRouteV2 error)
        | .ok route =>
            if route.trafficClass ≠ trafficC2Uplink ∨ route.destinationType ≠ addrC2 then
              pure .notC2Uplink
            else do
              match ← PyM.exceptAppFrameError (liftM (decodeSecurePayload route.innerPayload)) with
              | .error error => pure (.invalidE2e error)
              | .ok _ => do
                  if ← rememberUplink route.dedupeKey then do
                    let s ← get
                    pure (.posted (gatewayUpload cfg s.currentChannel utcMs route))
                  else pure .duplicateC2Uplink

/-! ### The local tap -/

/-- The `try` block: the upload and its key. -/
def readTap (datagram : Py Json) : Py (JsonFields × List ℤ) := do
  match ← datagram with
  | .obj upload =>
      match JsonFields.get upload "route" with
      | some (.obj route) => do
          let originId ← ((JsonFields.get route "origin_id").getD .null).toInt
          let originSeq ← ((JsonFields.get route "origin_seq").getD .null).toInt
          pure (upload, [originId, originSeq])
      | _ => .error (.valueError "tap payload route must be a JSON object")
  | _ => .error (.valueError "tap payload must be a JSON object")

/-- `except (UnicodeDecodeError, json.JSONDecodeError, TypeError, ValueError)`. -/
def PyError.isTapReject : PyError → Bool
  | .typeError _ => true
  | error => error.isValueError

/-- `drain_local_tap` for one datagram. -/
def drainLocalTap (datagram : Py Json) : PyM GatewayState GatewayVerdict :=
  match readTap datagram with
  | .error error =>
      if error.isTapReject then pure (.tapReject error) else liftM (.error error : Py GatewayVerdict)
  | .ok (upload, key) => do
      if ← rememberUplink key then pure (.posted upload) else pure .tapDuplicate

/-! ### What the two branches do -/

/-- The uplink a received payload carries, if the gateway gets as far as looking it
up. -/
def rfUplink (payload : Bytes) : Option RouteDataV2 :=
  match decodeFrame payload false with
  | .error _ => none
  | .ok frame =>
      if frame.messageType ≠ msgRouteV2 then none
      else match decodeRouteV2Payload frame.payload with
        | .error _ => none
        | .ok route =>
            if route.trafficClass ≠ trafficC2Uplink ∨ route.destinationType ≠ addrC2 then none
            else match decodeSecurePayload route.innerPayload with
              | .error _ => none
              | .ok _ => some route

theorem rememberUplink_apply (key : List ℤ) (s : GatewayState) :
    rememberUplink key s = if key ∈ s.seen then .ok false s
      else .ok true { s with seen := (s.seen.remember key).2 } := by
  rw [rememberUplink, PyM.get_bind_apply, PyM.bind_apply, PyM.set_apply]
  simp only [PyM.pure_apply, FifoSet.remember_fst]
  by_cases h : key ∈ s.seen
  · simp [h, FifoSet.remember_of_mem h]
  · simp [h]

/-- **What the gateway does with a received payload**: one that carries no uplink
leaves the state alone, an uplink is looked up under its typed origin and sequence
number. -/
theorem gatewayReceive_eq (cfg : GatewayConfig) (utcMs : ℤ) (payload : Bytes) (s : GatewayState) :
    match rfUplink payload with
    | none => ∃ v, gatewayReceive cfg utcMs payload s = .ok v s ∧ v.isPosted = false ∧
        v.isDuplicate = false
    | some route => gatewayReceive cfg utcMs payload s =
        if route.dedupeKey ∈ s.seen then .ok .duplicateC2Uplink s
        else .ok (.posted (gatewayUpload cfg s.currentChannel utcMs route))
          { s with seen := (s.seen.remember route.dedupeKey).2 } := by
  unfold rfUplink gatewayReceive
  obtain ⟨frame, hframe, hrun⟩ | ⟨error, hframe, hrun⟩ :=
    PyM.exceptAppFrameError_lift_bind (decodeFrame_onlyAppFrameError payload false)
  case inr =>
    rw [hrun, hframe]
    exact ⟨_, rfl, rfl, rfl⟩
  rw [hrun, hframe]
  simp only
  by_cases htype : frame.messageType ≠ msgRouteV2
  · rw [if_pos htype, if_pos htype]
    exact ⟨_, rfl, rfl, rfl⟩
  rw [if_neg htype, if_neg htype]
  obtain ⟨route, hroute, hrun⟩ | ⟨error, hroute, hrun⟩ :=
    PyM.exceptAppFrameError_lift_bind (decodeRouteV2Payload_onlyAppFrameError frame.payload)
  case inr =>
    rw [hrun, hroute]
    exact ⟨_, rfl, rfl, rfl⟩
  rw [hrun, hroute]
  simp only
  by_cases huplink : route.trafficClass ≠ trafficC2Uplink ∨ route.destinationType ≠ addrC2
  · rw [if_pos huplink, if_pos huplink]
    exact ⟨_, rfl, rfl, rfl⟩
  rw [if_neg huplink, if_neg huplink]
  obtain ⟨secure, hsecure, hrun⟩ | ⟨error, hsecure, hrun⟩ :=
    PyM.exceptAppFrameError_lift_bind (decodeSecurePayload_onlyAppFrameError route.innerPayload)
  case inr =>
    rw [hrun, hsecure]
    exact ⟨_, rfl, rfl, rfl⟩
  rw [hrun, hsecure]
  simp only
  rw [PyM.bind_apply, rememberUplink_apply]
  by_cases hseen : route.dedupeKey ∈ s.seen
  · rw [if_pos hseen, if_pos hseen]
    rfl
  · rw [if_neg hseen, if_neg hseen]
    rfl

/-- A datagram that the tap gets no key of leaves the state alone. -/
theorem drainLocalTap_of_error {datagram : Py Json} {error : PyError}
    (h : readTap datagram = .error error) (s : GatewayState) :
    drainLocalTap datagram s =
      if error.isTapReject then .ok (.tapReject error) s else .error error s := by
  rw [drainLocalTap, h]
  dsimp only
  split_ifs <;> rfl

/-- One that it gets a key of is looked up. -/
theorem drainLocalTap_of_ok {datagram : Py Json} {upload : JsonFields} {key : List ℤ}
    (h : readTap datagram = .ok (upload, key)) (s : GatewayState) :
    drainLocalTap datagram s = if key ∈ s.seen then .ok .tapDuplicate s
      else .ok (.posted upload) { s with seen := (s.seen.remember key).2 } := by
  rw [drainLocalTap, h]
  dsimp only
  rw [PyM.bind_apply, rememberUplink_apply]
  split_ifs <;> rfl

theorem readTap_upload (gatewayId : ℤ) (channel : Option ℤ) (receivedAtMs : ℤ)
    (route : RouteDataV2) :
    readTap (.ok (.obj (c2Upload gatewayId channel receivedAtMs route))) =
      .ok (c2Upload gatewayId channel receivedAtMs route, [route.originId, route.originSeq]) := rfl

/-- **What the gateway does with an upload object from the tap**: it is looked up
under the origin's id and sequence number. -/
theorem drainLocalTap_upload (gatewayId : ℤ) (channel : Option ℤ) (receivedAtMs : ℤ)
    (route : RouteDataV2) (s : GatewayState) :
    drainLocalTap (.ok (.obj (c2Upload gatewayId channel receivedAtMs route))) s =
      if [route.originId, route.originSeq] ∈ s.seen then .ok .tapDuplicate s
      else .ok (.posted (c2Upload gatewayId channel receivedAtMs route))
        { s with seen := (s.seen.remember [route.originId, route.originSeq]).2 } :=
  drainLocalTap_of_ok (readTap_upload gatewayId channel receivedAtMs route) s

end KovaWfb
