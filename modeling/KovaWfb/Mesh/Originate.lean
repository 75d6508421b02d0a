/-
# Origination: what `main` sends on its own

`python/examples/mesh_txrx.py`: the arguments that `main` accepts (lines 1055 to 1193 and
1341 to 1402), the payloads (`_build_image_frame`, 365 to 399, and 1510 to 1550) and the
origination steps of the loop (2079 to 2128 and 2182 to 2247).

The periodic C2 image is sent under a handler for `AppFrameError`, `ValueError` and
`KeyError`, which leaves the `struct.error` of an image that is too wide or too high.
The configured message is sent under no handler, so whatever the encoders or the radio
refuse ends the loop.  Both go on to the local tap, where an `OSError` is handled, and to a
POST, both under no other handler; and an interval of milliseconds that has no double raises
when the next time is set.

The colours of the gradient come from floating-point arithmetic: a parameter, whose
values are bytes because `v` is between 0 and 1 there.  The lines of the log are left out.
-/

import KovaWfb.Mesh.Outbound
import KovaWfb.Mesh.Run
import KovaWfb.C2.Post
import KovaWfb.Python.Numbers

namespace KovaWfb

/-! ### Arguments -/

/-- Where the payload of the configured message comes from. -/
inductive OriginSource
  | none
  | message (payload : Bytes)
  | messageFile (payload : Bytes) (reload : Bool)
  | statusAuto

/-- `PIXEL_FMT_GRAYSCALE` and `PIXEL_FMT_RGB`. -/
inductive PixelFormat
  | grayscale
  | rgb

/-- The byte of a pixel format. -/
def PixelFormat.value : PixelFormat → ℤ
  | .grayscale => 0
  | .rgb => 1

/-- How many bytes a pixel takes. -/
def PixelFormat.size : PixelFormat → ℕ
  | .grayscale => 1
  | .rgb => 3

/-- `--c2-uplink-image-style`. -/
inductive ImageStyle
  | gradient
  | random

/-- The `--c2-uplink` arguments that `main` accepts. -/
structure C2UplinkConfig where
  destinationId : ℤ
  ttl : ℤ
  innerType : ℤ
  imageWidth : ℕ
  imageHeight : ℕ
  imageFormat : PixelFormat
  imageStyle : ImageStyle
  intervalMs : ℤ
  destinationId_range : 1 ≤ destinationId ∧ destinationId ≤ 255
  ttl_range : 0 ≤ ttl ∧ ttl ≤ 255
  innerType_fits : FitsWidth 1 innerType
  innerType_allowed : ¬ (innerType = msgRouteData ∨ innerType = msgRouteV2 ∨ innerType = msgSync)
  imageWidth_pos : 0 < imageWidth
  imageHeight_pos : 0 < imageHeight
  intervalMs_pos : 0 < intervalMs

/-- `args.c2_uplink_interval_ms / 1000.0`, where it is one. -/
def C2UplinkConfig.intervalS (uplink : C2UplinkConfig) : ℚ := uplink.intervalMs / 1000

/-- The arguments of origination that `main` accepts, for a node. -/
structure OriginConfig (cfg : NodeConfig) where
  source : OriginSource
  innerType : ℤ
  destinationType : ℤ
  destinationId : ℤ
  ttl : ℤ
  trafficClass : ℤ
  count : ℤ
  txIntervalMs : ℤ
  c2Uplink : Option C2UplinkConfig
  innerType_fits : FitsWidth 1 innerType
  innerType_allowed : ¬ (innerType = msgRouteData ∨ innerType = msgRouteV2 ∨ innerType = msgSync)
  destinationType_fits : FitsWidth 1 destinationType
  destinationId_range : 0 ≤ destinationId ∧ destinationId ≤ 255
  broadcast_iff : destinationType = addrBroadcast ↔ destinationId = 0
  ttl_range : 0 ≤ ttl ∧ ttl ≤ 255
  trafficClass_fits : FitsWidth 1 trafficClass
  uplink_destination : trafficClass = trafficC2Uplink → destinationType = addrC2
  downlink_destination : trafficClass = trafficC2Downlink → destinationType = addrNode
  uplink_key : source ≠ .none → trafficClass = trafficC2Uplink → cfg.c2UplinkCrypto.isSome
  downlink_key : source ≠ .none → trafficClass = trafficC2Downlink → cfg.c2DownlinkCrypto.isSome
  c2Uplink_key : c2Uplink.isSome → cfg.c2UplinkCrypto.isSome
  messageFile : ∀ payload reload, source = .messageFile payload reload →
    innerType = msgData ∧ (payload.length : ℤ) ≤ maxU16
  statusAuto : source = .statusAuto → innerType = msgStatus
  count_nonneg : 0 ≤ count
  txIntervalMs_nonneg : 0 ≤ txIntervalMs

/-- `args.tx_interval_ms / 1000.0`, where it is one. -/
def OriginConfig.txIntervalS {cfg : NodeConfig} (origin : OriginConfig cfg) : ℚ :=
  origin.txIntervalMs / 1000

/-- What the outside world answers during one pass of the loop: also the message file,
whether `link_health.state` is one of the degraded ones, the C2 server, and how `sendto` to the
local tap ends, an `OSError` being handled. -/
structure OriginEnv extends Env where
  startedAt : ℚ
  messageFile : Except String Bytes
  degradedLink : Bool
  tap : Py Unit
  http : HttpReply
  depthLimit : ℕ

/-- What origination mutates. -/
structure LoopState where
  node : NodeState
  txGuardUntil : ℚ
  nextTxAt : ℚ
  nextC2UplinkAt : ℚ
  originatedCount : ℤ
  c2UplinkCounter : ℤ

/-! ### Payloads -/

/-- The colours of the gradient: the gray of a hue, and the colour of a pixel. -/
structure Gradient where
  gray : ℤ → UInt8
  color : ℤ → ℕ → ℕ → ℕ → ℕ → UInt8 × UInt8 × UInt8

/-- `value % 256` as a byte. -/
def lowByte (value : ℤ) : UInt8 := UInt8.ofNat (value % 256).toNat

/-- One pixel of an image. -/
def imagePixel (gradient : Gradient) (width height : ℕ) (format : PixelFormat) (counter : ℤ)
    (style : ImageStyle) (x y : ℕ) : Bytes :=
  let hue := (counter * 13 + x * 7 + y * 3) % 360
  match format, style with
  | .grayscale, .gradient => [gradient.gray hue]
  | .grayscale, .random => [lowByte (counter + x + y)]
  | .rgb, .gradient =>
      let (r, g, b) := gradient.color hue x width y height
      [r, g, b]
  | .rgb, .random =>
      [lowByte (counter * 7 + x * 3), lowByte (counter * 11 + y * 5),
        lowByte (counter * 17 + (x + y) * 2)]

/-- The pixels of an image, row by row. -/
def imagePixels (gradient : Gradient) (width height : ℕ) (format : PixelFormat) (counter : ℤ)
    (style : ImageStyle) : Bytes :=
  (List.range height).flatMap fun y =>
    (List.range width).flatMap fun x => imagePixel gradient width height format counter style x y

/-- `_build_image_frame`.  A `bytearray` counts up to `2 ^ 63`; whether there is memory for
it is left out. -/
def buildImageFrame (gradient : Gradient) (width height : ℕ) (format : PixelFormat) (counter : ℤ)
    (style : ImageStyle) : Py Bytes := do
  raiseIf (2 ^ 63 ≤ width * height * format.size)
    (.overflowError "cannot fit 'int' into an index-sized integer")
  let header ← pack [(1, width), (1, height), (1, format.value)]
  pure (kovaImageMagic ++ header ++ imagePixels gradient width height format counter style)

/-- `build_c2_uplink_payload`. -/
def buildC2UplinkPayload (gradient : Gradient) (uplink : C2UplinkConfig) (counter : ℤ) :
    Py Bytes := do
  let frame ← buildImageFrame gradient uplink.imageWidth uplink.imageHeight uplink.imageFormat
    counter uplink.imageStyle
  raiseIf (maxU16 < frame.length)
    (.valueError s!"c2 uplink image payload too large: {frame.length}")
  pure frame

/-- `status_flags`. -/
def statusFlags (cfg : NodeConfig) (env : OriginEnv) : ℤ :=
  0x08 + (if cfg.meshCrypto.isSome then 0x04 else 0) + (if env.degradedLink then 0x01 else 0)

/-- `build_auto_status_payload`.  The table of peers was pruned for the same `now` by
`link_health.evaluate`. -/
def buildAutoStatusPayload (cfg : NodeConfig) (env : OriginEnv) (s : NodeState) : Py Bytes :=
  let uptimeS := (max 0 (env.monotonic - env.startedAt)).floor
  let peers := (s.linkHealth.pruneStalePeers cfg.peerTimeoutS env.monotonic).peersLastSeen
  encodeStatusPayload uptimeS none (min 255 peers.length) (statusFlags cfg env) statusVersion

/-- What building the payload raises. -/
inductive SourceError
  | osError (msg : String)
  | raised (error : PyError)

/-- `read_message_file`. -/
def readMessageFile : Except String Bytes → Except SourceError Bytes
  | .error msg => .error (.osError msg)
  | .ok payload =>
      if maxU16 < payload.length then
        .error (.raised (.valueError
          s!"message file payload must fit in u16 length, got {payload.length} bytes"))
      else .ok payload

/-- `build_origin_payload`. -/
def buildOriginPayload (cfg : NodeConfig) (origin : OriginConfig cfg) (env : OriginEnv)
    (s : NodeState) : Except SourceError (Option Bytes) :=
  match origin.source with
  | .statusAuto =>
      match buildAutoStatusPayload cfg env s with
      | .ok payload => .ok (some payload)
      | .error error => .error (.raised error)
  | .messageFile _ true =>
      match readMessageFile env.messageFile with
      | .ok payload => .ok (some payload)
      | .error error => .error error
  | .messageFile payload false => .ok (some payload)
  | .message payload => .ok (some payload)
  | .none => .ok none

/-! ### The steps -/

/-- Code of the node inside the loop. -/
def onNode {α : Type} (x : PyM NodeState α) : PyM LoopState α := fun s =>
  match x s.node with
  | .ok a node => .ok a { s with node }
  | .error error node => .error error { s with node }

/-- `except (AppFrameError, ValueError, KeyError)`; what is sent here raises no `KeyError`. -/
def exceptValueError {α : Type} (x : PyM LoopState α) : PyM LoopState (Except PyError α) := fun s =>
  match x s with
  | .ok a s' => .ok (.ok a) s'
  | .error error s' => if error.isValueError then .ok (.error error) s' else .error error s'

/-- What a step comes to. -/
inductive OriginOutcome
  | idle
  | logged (error : PyError)
  | sent (sent : SentRoute)
  | sentV2 (sent : SentRouteV2)

/-- The handler of the payload, behind the log: the next message is put off. -/
def putOffMessage {cfg : NodeConfig} (origin : OriginConfig cfg) (env : OriginEnv) :
    PyM LoopState (Option Bytes) := do
  let intervalS ← liftM (secondsOfMs origin.txIntervalMs)
  modify fun s => { s with nextTxAt := env.monotonic + intervalS }
  pure none

/-- The payload of the pass, or `none` after an error that was logged. -/
def originPayloadStep (cfg : NodeConfig) (origin : OriginConfig cfg) (env : OriginEnv) :
    PyM LoopState (Option Bytes) := do
  let s ← get
  match buildOriginPayload cfg origin env s.node with
  | .ok payload => pure payload
  | .error (.osError _) => putOffMessage origin env
  | .error (.raised error) =>
      if error.isValueError then putOffMessage origin env
      else liftM (.error error : Py (Option Bytes))

/-- `emit_local_c2_tap`. -/
def emitLocalC2Tap (cfg : NodeConfig) (env : OriginEnv) (route : RouteDataV2) : Py Unit :=
  if cfg.localC2Tap ∧ route.IsUplink then env.tap else pure ()

/-- The POST behind a packet that was sent, with the guards of `post_c2_upload`. -/
def postSentRoute (cfg : NodeConfig) (env : OriginEnv) (route : RouteDataV2) : Py Unit :=
  if cfg.c2HttpForward ∧ route.IsUplink then do
    let _ ← postC2Upload env.depthLimit env.http
    pure ()
  else pure ()

/-- What a packet that was sent is handed on to: the local tap and the C2 server. -/
def handOnSentRoute (cfg : NodeConfig) (env : OriginEnv) (route : RouteDataV2) : Py Unit := do
  emitLocalC2Tap cfg env route
  postSentRoute cfg env route

/-- `should_send_c2_uplink`, where the image is enabled. -/
def LoopState.ShouldSendC2Uplink (s : LoopState) (env : OriginEnv) : Prop :=
  s.nextC2UplinkAt ≤ env.monotonic ∧ s.txGuardUntil ≤ env.monotonic

instance (s : LoopState) (env : OriginEnv) : Decidable (s.ShouldSendC2Uplink env) :=
  inferInstanceAs (Decidable (_ ∧ _))

/-- The `try` block of the periodic C2 image. -/
def sendC2Uplink (A : Aead) (cfg : NodeConfig) (gradient : Gradient) (env : OriginEnv)
    (uplink : C2UplinkConfig) : PyM LoopState SentRouteV2 := do
  let s ← get
  let c2Payload ← liftM (buildC2UplinkPayload gradient uplink s.c2UplinkCounter)
  onNode (sendRouteV2 A cfg env.toEnv uplink.innerType c2Payload addrC2 uplink.destinationId
    uplink.ttl trafficC2Uplink)

/-- The step of the periodic C2 image. -/
def c2UplinkStep (A : Aead) (cfg : NodeConfig) (origin : OriginConfig cfg) (gradient : Gradient)
    (env : OriginEnv) : PyM LoopState OriginOutcome := do
  let s ← get
  match origin.c2Uplink with
  | none => pure .idle
  | some uplink =>
      if ¬ s.ShouldSendC2Uplink env then pure .idle
      else do
        let outcome ← match ← exceptValueError (sendC2Uplink A cfg gradient env uplink) with
          | .error error => pure (.logged error)
          | .ok sent => do
              liftM (handOnSentRoute cfg env sent.route)
              modify fun s => { s with c2UplinkCounter := s.c2UplinkCounter + 1 }
              pure (.sentV2 sent)
        let intervalS ← liftM (secondsOfMs uplink.intervalMs)
        modify fun s => { s with nextC2UplinkAt := env.monotonic + intervalS }
        pure outcome

/-- `should_originate`, where there is a payload. -/
def LoopState.ShouldOriginate {cfg : NodeConfig} (s : LoopState) (origin : OriginConfig cfg)
    (env : OriginEnv) : Prop :=
  (origin.count = 0 ∨ s.originatedCount < origin.count) ∧ s.nextTxAt ≤ env.monotonic ∧
    s.txGuardUntil ≤ env.monotonic

instance {cfg : NodeConfig} (s : LoopState) (origin : OriginConfig cfg) (env : OriginEnv) :
    Decidable (s.ShouldOriginate origin env) :=
  inferInstanceAs (Decidable (_ ∧ _ ∧ _))

/-- What the step of the configured message sends. -/
def sendOrigin (A : Aead) (cfg : NodeConfig) (origin : OriginConfig cfg) (env : OriginEnv)
    (payload : Bytes) : PyM LoopState OriginOutcome :=
  if origin.trafficClass ≠ trafficMesh then do
    let sent ← onNode (sendRouteV2 A cfg env.toEnv origin.innerType payload origin.destinationType
      origin.destinationId origin.ttl origin.trafficClass)
    liftM (handOnSentRoute cfg env sent.route)
    pure (.sentV2 sent)
  else do
    let sent ← onNode (sendRoute A cfg env.toEnv origin.innerType payload origin.destinationId
      origin.ttl)
    pure (.sent sent)

/-- The step of the configured message, for the payload of the pass. -/
def originateStep (A : Aead) (cfg : NodeConfig) (origin : OriginConfig cfg) (env : OriginEnv)
    (originPayload : Option Bytes) : PyM LoopState OriginOutcome := do
  let s ← get
  match originPayload with
  | none => pure .idle
  | some payload =>
      if ¬ s.ShouldOriginate origin env then pure .idle
      else do
        let outcome ← sendOrigin A cfg origin env payload
        modify fun s => { s with originatedCount := s.originatedCount + 1 }
        let intervalS ← liftM (secondsOfMs origin.txIntervalMs)
        modify fun s => { s with nextTxAt := env.monotonic + intervalS }
        pure outcome

/-! ### When there is a payload -/

section

variable {gradient : Gradient} {width height : ℕ} {format : PixelFormat} {counter : ℤ}
  {style : ImageStyle}

theorem length_imagePixel (x y : ℕ) :
    (imagePixel gradient width height format counter style x y).length = format.size := by
  cases format with
  | grayscale =>
    cases style with
    | gradient => rfl
    | random => rfl
  | rgb =>
    cases style with
    | gradient => rfl
    | random => rfl

theorem length_imagePixels :
    (imagePixels gradient width height format counter style).length =
      height * (width * format.size) := by
  simp only [imagePixels, List.length_flatMap, length_imagePixel, List.map_const',
    List.length_range, List.sum_replicate_nat]

/-- How long the frame of an image is. -/
def imageFrameSize (width height : ℕ) (format : PixelFormat) : ℕ := 7 + width * height * format.size

/-- The header of an image has a byte for the width and one for the height. -/
theorem buildImageFrame_of_le (hwidth : width ≤ 255) (hheight : height ≤ 255) :
    ∃ frame, buildImageFrame gradient width height format counter style = .ok frame ∧
      frame.length = imageFrameSize width height format := by
  have hsize : width * height * format.size ≤ 255 * 255 * 3 :=
    Nat.mul_le_mul (Nat.mul_le_mul hwidth hheight) (by cases format <;> decide)
  have hheader : ∀ f ∈ [((1 : ℕ), (width : ℤ)), (1, (height : ℤ)), (1, format.value)],
      FitsWidth f.1 f.2 := by
    have hw : FitsWidth 1 width := ⟨Int.natCast_nonneg _, by omega⟩
    have hh : FitsWidth 1 height := ⟨Int.natCast_nonneg _, by omega⟩
    have hf : FitsWidth 1 format.value := by cases format <;> decide
    simp [hw, hh, hf]
  refine ⟨kovaImageMagic ++ packBytes [(1, (width : ℤ)), (1, (height : ℤ)), (1, format.value)] ++
    imagePixels gradient width height format counter style, ?_, ?_⟩
  · rw [buildImageFrame, Py.bind_eq_ok]
    refine ⟨(), raiseIf_eq_ok.mpr (by omega), ?_⟩
    rw [pack_of_fits hheader]
    rfl
  · rw [List.length_append, List.length_append, length_packBytes, length_imagePixels,
      imageFrameSize, Nat.mul_comm width height, Nat.mul_assoc]
    rfl

/-- An image that is wider or higher has no header, and the exception is none of those the
loop handles. -/
theorem buildImageFrame_of_not_le (h : ¬ (width ≤ 255 ∧ height ≤ 255)) :
    ∃ error, buildImageFrame gradient width height format counter style = .error error ∧
      error.isValueError = false := by
  have hpack : pack [(1, (width : ℤ)), (1, (height : ℤ)), (1, format.value)] =
      .error (.structError "argument out of range") := by
    rw [pack, if_neg]
    intro hfits
    simp only [List.forall_mem_cons, FitsWidth] at hfits
    omega
  by_cases hsize : 2 ^ 63 ≤ width * height * format.size
  · exact ⟨_, Py.bind_eq_error.mpr (Or.inl (raiseIf_eq_error.mpr ⟨hsize, rfl⟩)), rfl⟩
  · refine ⟨.structError "argument out of range", ?_, rfl⟩
    rw [buildImageFrame, Py.bind_eq_error]
    refine Or.inr ⟨(), raiseIf_eq_ok.mpr hsize, ?_⟩
    rw [hpack]
    rfl

end

/-- The image of an uplink is narrow and low enough for its header. -/
def C2UplinkConfig.HeaderFits (uplink : C2UplinkConfig) : Prop :=
  uplink.imageWidth ≤ 255 ∧ uplink.imageHeight ≤ 255

/-- How long the payload of an uplink is. -/
def C2UplinkConfig.payloadSize (uplink : C2UplinkConfig) : ℕ :=
  imageFrameSize uplink.imageWidth uplink.imageHeight uplink.imageFormat

section

variable {gradient : Gradient} {uplink : C2UplinkConfig} {counter : ℤ}

/-- **An uplink payload that raises** raises a `ValueError` exactly when its header fits. -/
theorem buildC2UplinkPayload_error {error : PyError}
    (h : buildC2UplinkPayload gradient uplink counter = .error error) :
    error.isValueError = true ↔ uplink.HeaderFits := by
  by_cases hfits : uplink.HeaderFits
  · obtain ⟨frame, hframe, -⟩ := @buildImageFrame_of_le gradient _ _ uplink.imageFormat counter
      uplink.imageStyle hfits.1 hfits.2
    rw [buildC2UplinkPayload, hframe, Py.ok_bind, Py.bind_eq_error] at h
    obtain h | ⟨_, -, h⟩ := h
    · obtain ⟨-, rfl⟩ := raiseIf_eq_error.mp h
      exact iff_of_true rfl hfits
    · cases h
  · obtain ⟨error', herror, hkind⟩ := @buildImageFrame_of_not_le gradient _ _ uplink.imageFormat
      counter uplink.imageStyle hfits
    rw [buildC2UplinkPayload, herror, Py.error_bind] at h
    obtain rfl := Except.error.inj h
    rw [hkind]
    exact iff_of_false Bool.false_ne_true hfits

/-- **An uplink payload is built** when its header fits and its length has two bytes. -/
theorem buildC2UplinkPayload_eq_ok_iff {n : ℕ} :
    (∃ payload, buildC2UplinkPayload gradient uplink counter = .ok payload ∧ payload.length = n) ↔
      uplink.HeaderFits ∧ (uplink.payloadSize : ℤ) ≤ maxU16 ∧ uplink.payloadSize = n := by
  by_cases hfits : uplink.HeaderFits
  · obtain ⟨frame, hframe, hlength⟩ := @buildImageFrame_of_le gradient _ _ uplink.imageFormat
      counter uplink.imageStyle hfits.1 hfits.2
    change frame.length = uplink.payloadSize at hlength
    rw [buildC2UplinkPayload, hframe, Py.ok_bind]
    simp only [Py.bind_eq_ok, raiseIf_eq_ok, Py.pure_eq_ok, exists_const, not_lt]
    constructor
    · rintro ⟨_, ⟨hle, rfl⟩, rfl⟩
      rw [hlength] at hle
      exact ⟨hfits, hle, hlength.symm⟩
    · rintro ⟨-, hle, rfl⟩
      rw [← hlength] at hle ⊢
      exact ⟨frame, ⟨hle, rfl⟩, rfl⟩
  · obtain ⟨error, herror, -⟩ := @buildImageFrame_of_not_le gradient _ _ uplink.imageFormat
      counter uplink.imageStyle hfits
    rw [buildC2UplinkPayload, herror, Py.error_bind]
    refine iff_of_false ?_ fun h => hfits h.1
    rintro ⟨_, h, -⟩
    cases h

end

/-- How long the configured payload is. -/
def OriginConfig.payloadSize {cfg : NodeConfig} (origin : OriginConfig cfg) (env : OriginEnv) : ℕ :=
  match origin.source with
  | .none => 0
  | .message payload | .messageFile payload false => payload.length
  | .messageFile _ true => (env.messageFile.toOption.getD []).length
  | .statusAuto => statusPayloadSize

section

variable {cfg : NodeConfig} {origin : OriginConfig cfg} {env : OriginEnv} {s : NodeState}

theorem readMessageFile_eq_ok {file : Except String Bytes} {payload : Bytes}
    (h : readMessageFile file = .ok payload) : file = .ok payload := by
  cases file with
  | error msg => cases h
  | ok read =>
    simp only [readMessageFile] at h
    by_cases hlarge : maxU16 < (read.length : ℤ)
    · rw [if_pos hlarge] at h
      cases h
    · rw [if_neg hlarge] at h
      cases h
      rfl

theorem readMessageFile_error {file : Except String Bytes} {error : PyError}
    (h : readMessageFile file = .error (.raised error)) : error.isValueError = true := by
  cases file with
  | error msg => cases h
  | ok read =>
    simp only [readMessageFile] at h
    by_cases hlarge : maxU16 < (read.length : ℤ)
    · rw [if_pos hlarge] at h
      cases h
      rfl
    · rw [if_neg hlarge] at h
      cases h

theorem buildOriginPayload_length {payload : Bytes}
    (h : buildOriginPayload cfg origin env s = .ok (some payload)) :
    origin.source ≠ .none ∧ payload.length = origin.payloadSize env := by
  unfold buildOriginPayload at h
  unfold OriginConfig.payloadSize
  rcases hsource : origin.source with _ | static | ⟨static, _ | _⟩ | _ <;> rw [hsource] at h
  · cases h
  · cases h
    exact ⟨nofun, rfl⟩
  · cases h
    exact ⟨nofun, rfl⟩
  · simp only at h
    cases hread : readMessageFile env.messageFile with
    | error error =>
      rw [hread] at h
      cases h
    | ok read =>
      rw [hread] at h
      cases h
      rw [readMessageFile_eq_ok hread]
      exact ⟨nofun, rfl⟩
  · simp only at h
    cases hstatus : buildAutoStatusPayload cfg env s with
    | error error =>
      rw [hstatus] at h
      cases h
    | ok encoded =>
      rw [hstatus] at h
      cases h
      obtain ⟨-, hbytes⟩ := encodeStatusPayload_eq_ok_iff.mp hstatus
      rw [← hbytes]
      exact ⟨nofun, length_packBytes _⟩

/-- What building the payload raises is an `OSError` or a `ValueError`. -/
theorem buildOriginPayload_error {error : PyError}
    (h : buildOriginPayload cfg origin env s = .error (.raised error)) :
    error.isValueError = true := by
  unfold buildOriginPayload at h
  rcases hsource : origin.source with _ | static | ⟨static, _ | _⟩ | _ <;> rw [hsource] at h
  · cases h
  · cases h
  · cases h
  · simp only at h
    cases hread : readMessageFile env.messageFile with
    | error error =>
      rw [hread] at h
      cases h
      exact readMessageFile_error hread
    | ok read =>
      rw [hread] at h
      cases h
  · simp only at h
    cases hstatus : buildAutoStatusPayload cfg env s with
    | error error =>
      rw [hstatus] at h
      cases h
      obtain ⟨msg, rfl⟩ := encodeStatusPayload_onlyAppFrameError _ _ _ _ _ _ hstatus
      rfl
    | ok encoded =>
      rw [hstatus] at h
      cases h

/-- The message file cannot be read or is too long, or the node has been up for 2³² seconds. -/
def OriginConfig.SourceFails {cfg : NodeConfig} (origin : OriginConfig cfg) (env : OriginEnv) :
    Prop :=
  match origin.source with
  | .messageFile _ true => ∀ payload, env.messageFile = .ok payload → maxU16 < payload.length
  | .statusAuto => 2 ^ 32 ≤ env.monotonic - env.startedAt
  | .none | .message _ | .messageFile _ false => False

theorem readMessageFile_returns_iff {file : Except String Bytes} :
    (∃ payload, readMessageFile file = .ok payload) ↔
      ¬ ∀ payload, file = .ok payload → maxU16 < payload.length := by
  cases file with
  | error msg => exact iff_of_false nofun fun h => h nofun
  | ok payload =>
    simp only [readMessageFile, Except.ok.injEq, forall_eq']
    split_ifs with hlarge
    · exact iff_of_false nofun (not_not.mpr hlarge)
    · exact iff_of_true ⟨payload, rfl⟩ hlarge

/-- The other fields of a status message always fit. -/
theorem buildAutoStatusPayload_returns_iff :
    (∃ payload, buildAutoStatusPayload cfg env s = .ok payload) ↔
      ¬ 2 ^ 32 ≤ env.monotonic - env.startedAt := by
  have hpeers : ∀ n : ℕ, FitsWidth 1 (min 255 (n : ℤ)) := fun n => by
    rw [FitsWidth]
    omega
  have hflags : FitsWidth 1 (statusFlags cfg env) := by
    unfold statusFlags
    split_ifs <;> decide
  have huptime : FitsWidth 4 (max 0 (env.monotonic - env.startedAt)).floor ↔
      ¬ 2 ^ 32 ≤ env.monotonic - env.startedAt := by
    have hnonneg : 0 ≤ (max 0 (env.monotonic - env.startedAt)).floor :=
      Rat.le_floor_iff.mpr (le_max_left _ _)
    rw [FitsWidth, and_iff_right hnonneg, Rat.floor_lt_iff, max_lt_iff, not_le]
    norm_num
  simp only [buildAutoStatusPayload, encodeStatusPayload_eq_ok_iff, ← huptime]
  constructor
  · rintro ⟨_, hvalid, -⟩
    exact hvalid.uptimeS
  · intro hfits
    refine ⟨_, ⟨rfl, hfits, ?_, hpeers _, hflags⟩, rfl⟩
    rintro pct ⟨⟩

theorem OriginConfig.SourceFails.source_ne (h : origin.SourceFails env) :
    origin.source ≠ .none := by
  intro hsource
  rw [OriginConfig.SourceFails, hsource] at h
  exact h

/-- **When there is no payload to be had.** -/
theorem buildOriginPayload_fails_iff :
    (∃ error, buildOriginPayload cfg origin env s = .error error) ↔ origin.SourceFails env := by
  unfold buildOriginPayload OriginConfig.SourceFails
  rcases hsource : origin.source with _ | static | ⟨static, _ | _⟩ | _ <;> simp only
  · exact iff_of_false nofun id
  · exact iff_of_false nofun id
  · exact iff_of_false nofun id
  · rw [← not_iff_not, ← readMessageFile_returns_iff]
    cases readMessageFile env.messageFile with
    | error error => exact iff_of_false (not_not.mpr ⟨error, rfl⟩) nofun
    | ok payload => exact iff_of_true nofun ⟨payload, rfl⟩
  · rw [← not_iff_not, ← buildAutoStatusPayload_returns_iff]
    cases buildAutoStatusPayload cfg env s with
    | error error => exact iff_of_false (not_not.mpr ⟨_, rfl⟩) nofun
    | ok payload => exact iff_of_true nofun ⟨payload, rfl⟩

end

end KovaWfb
