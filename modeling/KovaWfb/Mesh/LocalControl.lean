/-
# Local control: a datagram becomes a C2 uplink

`python/examples/mesh_txrx.py`, lines 1426 to 1508 (`decode_local_c2_message` and
`drain_local_control_socket`) and 2136 to 2181, where the main loop sends what was
queued; the tap and the POST behind that send are in `Mesh.MainLoop`.

The drain catches `AppFrameError` and `ValueError` and prints what it caught, the send
catches `AppFrameError` alone.  Printing fails for a text with a lone surrogate, which
the conversions of names quote as they found it; every other message quotes texts
escaped, if at all.
-/

import KovaWfb.Mesh.Outbound
import KovaWfb.Python.Loads
import KovaWfb.C2.Server
import KovaWfb.C2.Gateway

namespace KovaWfb

/-! ### Exceptions that are printed -/

/-- An exception, and whether its message can be printed. -/
structure Raised where
  error : PyError
  printable : Bool

/-- Code whose exceptions have a message that can be printed. -/
def Py.printable {α : Type} : Py α → Except Raised α
  | .ok a => .ok a
  | .error error => .error ⟨error, true⟩

/-- `if c: raise AppFrameError(msg)`. -/
def rejectIf (c : Prop) [Decidable c] (msg : String) : Except Raised Unit :=
  (raiseIf c (.appFrameError msg)).printable

/-! ### Reading the request -/

/-- What `main` has accepted for local control. -/
structure LocalControlConfig where
  c2Id : ℤ
  ttl : ℤ
  c2Id_range : 1 ≤ c2Id ∧ c2Id ≤ 255
  ttl_range : 0 ≤ ttl ∧ ttl ≤ 255

/-- `class LocalC2Message`. -/
structure LocalC2Message where
  innerType : ℤ
  payload : Bytes
  destinationId : ℤ
  ttl : ℤ
  source : String

/-- `convert(request.get(name, default))` for a conversion of `app_proto`.  A text with a
lone surrogate is in no table and is no numeral. -/
def requestName (convert : NameOrInt → Py ℤ) (request : DocFields) (name default : String) :
    Except Raised ℤ :=
  match request.get name with
  | none => (convert (.name default)).printable
  | some (.str text) =>
      match text.text? with
      | some text => (convert (.name text)).printable
      | none => .error ⟨.appFrameError ("unknown " ++ name ++ " '" ++ text.shown ++ "'"), false⟩
  | some value => (value.toJson.nameOrInt >>= convert).printable

/-- `int(request.get(name, default))`. -/
def requestInt (request : DocFields) (name : String) (default : ℤ) : Except Raised ℤ :=
  match request.get name with
  | none => .ok default
  | some value => value.toJson.toInt.printable

/-- `message.encode("utf-8")`. -/
def requestMessage (request : DocFields) : Except Raised Bytes :=
  match request.get "message" with
  | some (.str message) =>
      match message.encodeUtf8 with
      | some payload => .ok payload
      | none => .error ⟨.valueError "'utf-8' codec can't encode: surrogates not allowed", true⟩
  | _ => .error ⟨.appFrameError "local control requires message or payload_hex", true⟩

/-- The bytes of `payload_hex`, or else of `message`. -/
def requestPayload (request : DocFields) : Except Raised Bytes :=
  match request.get "payload_hex" with
  | none | some .null => requestMessage request
  | some (.str payloadHex) =>
      match payloadHex.text?.bind fromhex with
      | some payload => .ok payload
      | none => .error ⟨.appFrameError "payload_hex must be valid hex", true⟩
  | some _ => .error ⟨.appFrameError "payload_hex must be a string", true⟩

/-- `decode_local_c2_message` of a request object. -/
def decodeLocalC2Request (control : LocalControlConfig) (request : DocFields) (source : String) :
    Except Raised LocalC2Message := do
  let requestTrafficClass ← requestName trafficClassValue request "traffic_class" "c2_uplink"
  rejectIf (requestTrafficClass ≠ trafficC2Uplink) "local control currently supports only c2_uplink"
  let requestDestinationType ← requestName addressTypeValue request "destination_type" "c2"
  rejectIf (requestDestinationType ≠ addrC2)
    "local control c2_uplink requires destination_type=c2"
  let innerType ← requestName messageTypeValue request "message_type" "data"
  rejectIf (innerType = msgRouteData ∨ innerType = msgRouteV2 ∨ innerType = msgSync)
    "local control message_type is not allowed"
  let payload ← requestPayload request
  rejectIf (maxU16 < payload.length) s!"local control payload too large: {payload.length}"
  let destinationId ← requestInt request "destination_id" control.c2Id
  rejectIf (¬ (1 ≤ destinationId ∧ destinationId ≤ 255)) "destination_id must be in range 1..255"
  let ttl ← requestInt request "ttl" control.ttl
  rejectIf (¬ (0 ≤ ttl ∧ ttl ≤ 255)) "ttl must be in range 0..255"
  pure { innerType, payload, destinationId, ttl, source }

/-- `decode_local_c2_message`. -/
def decodeLocalC2Message (control : LocalControlConfig) (depthLimit : ℕ) (data : Bytes)
    (source : String) : Except Raised LocalC2Message :=
  match loads depthLimit data with
  | .ok (.obj request) => decodeLocalC2Request control request source
  | .ok _ | .error .notJson =>
      .error ⟨.appFrameError "local control datagram must be a JSON object", true⟩
  | .error (.raised error) => .error ⟨error, true⟩

/-! ### The drain and the send -/

/-- What the drain does with a datagram. -/
inductive LocalControlEvent
  | rejected (error : PyError)
  | queued (message : LocalC2Message)

/-- `except (AppFrameError, ValueError) as exc: log(...)`. -/
def Raised.logged (raised : Raised) : Py LocalControlEvent :=
  if raised.error.isValueError then
    if raised.printable then pure (.rejected raised.error)
    else .error (.valueError "'utf-8' codec can't encode: surrogates not allowed")
  else .error raised.error

/-- `drain_local_control_socket` for one datagram. -/
def drainLocalControl (control : LocalControlConfig) (depthLimit : ℕ) (data : Bytes)
    (source : String) : Py LocalControlEvent :=
  match decodeLocalC2Message control depthLimit data source with
  | .ok message => pure (.queued message)
  | .error raised => raised.logged

/-- What became of a datagram. -/
inductive LocalControlOutcome
  | rejected (error : PyError)
  | sendError (error : String)
  | sent (route : SentRouteV2)

/-- The main loop's send of a queued message. -/
def sendLocalC2 (A : Aead) (cfg : NodeConfig) (env : Env) (message : LocalC2Message) :
    PyM NodeState LocalControlOutcome := do
  match ← PyM.exceptAppFrameError (sendRouteV2 A cfg env message.innerType message.payload addrC2
      message.destinationId message.ttl trafficC2Uplink) with
  | .ok sent => pure (.sent sent)
  | .error error => pure (.sendError error)

/-- A datagram, from the socket to the air.  The drain reads nothing of the node's state,
so the send meets whatever state the loop has got to. -/
def localControl (A : Aead) (cfg : NodeConfig) (env : Env) (control : LocalControlConfig)
    (depthLimit : ℕ) (data : Bytes) (source : String) : PyM NodeState LocalControlOutcome := do
  match ← liftM (drainLocalControl control depthLimit data source) with
  | .rejected error => pure (.rejected error)
  | .queued message => sendLocalC2 A cfg env message

/-! ### What the drain catches -/

/-- The drain logs the exception. -/
structure Raised.Caught (raised : Raised) : Prop where
  isValueError : raised.error.isValueError = true
  printable : raised.printable = true

/-- The drain logs whatever is raised. -/
def Caught {α : Type} (x : Except Raised α) : Prop := ∀ raised, x = .error raised → raised.Caught

theorem Raised.caught_iff {raised : Raised} :
    raised.Caught ↔ ∃ event, raised.logged = .ok event := by
  constructor
  · rintro ⟨herror, hprint⟩
    exact ⟨.rejected raised.error, by rw [logged, if_pos herror, if_pos hprint]; rfl⟩
  · rintro ⟨event, h⟩
    unfold logged at h
    split_ifs at h with herror hprint
    exact ⟨herror, hprint⟩

theorem caught_ok {α : Type} (a : α) : Caught (.ok a) := fun _ h => nomatch h

@[simp] theorem caught_error {α : Type} {raised : Raised} :
    Caught (.error raised : Except Raised α) ↔ raised.Caught :=
  ⟨fun h => h raised rfl, fun h _ he => Except.error.inj he ▸ h⟩

/-- A program is caught when its first step is, and the rest after it. -/
theorem caught_bind {α β : Type} {x : Except Raised α} {f : α → Except Raised β} :
    Caught (x >>= f) ↔ Caught x ∧ ∀ a, x = .ok a → Caught (f a) := by
  cases x with
  | ok a =>
    constructor
    · intro h
      exact ⟨caught_ok a, fun b hb => Except.ok.inj hb ▸ h⟩
    · intro h
      exact h.2 a rfl
  | error raised =>
    constructor
    · intro h
      exact ⟨caught_error.mpr (caught_error.mp h), fun b hb => nomatch hb⟩
    · intro h
      exact caught_error.mpr (caught_error.mp h.1)

theorem caught_printable {α : Type} {x : Py α} :
    Caught x.printable ↔ ∀ error, x = .error error → error.isValueError = true := by
  cases x with
  | ok a => exact iff_of_true (caught_ok a) nofun
  | error error =>
    rw [Py.printable, caught_error]
    exact ⟨fun h _ he => Except.error.inj he ▸ h.isValueError, fun h => ⟨h error rfl, rfl⟩⟩

theorem Py.OnlyAppFrameError.caught {α : Type} {x : Py α} (h : x.OnlyAppFrameError) :
    Caught x.printable := by
  refine caught_printable.mpr fun error he => ?_
  obtain ⟨msg, rfl⟩ := h error he
  rfl

theorem rejectIf_eq_ok {c : Prop} [Decidable c] {msg : String} {u : Unit} :
    rejectIf c msg = .ok u ↔ ¬ c := by
  unfold rejectIf raiseIf
  split_ifs with h
  · exact iff_of_false nofun (not_not.mpr h)
  · exact iff_of_true rfl h

theorem caught_rejectIf_bind {α : Type} {c : Prop} [Decidable c] {msg : String}
    {f : Unit → Except Raised α} : Caught (rejectIf c msg >>= f) ↔ (¬ c → Caught (f ())) := by
  rw [caught_bind]
  constructor
  · rintro ⟨-, h⟩ hc
    exact h () (rejectIf_eq_ok.mpr hc)
  · intro h
    exact ⟨(Py.onlyAppFrameError_raiseIf c msg).caught, fun _ hu => h (rejectIf_eq_ok.mp hu)⟩

/-! ### What the conversions of a request raise -/

/-- A missing value, an integer, or a text that can be printed. -/
inductive NameArgument : Option JsonDoc → Prop
  | missing : NameArgument none
  | int (value : ℤ) : NameArgument (some (.int value))
  | bool (value : Bool) : NameArgument (some (.bool value))
  | str {text : CodePoints} (h : text.any isSurrogate = false) : NameArgument (some (.str text))

/-- A missing value, a number that is not infinite, or a text. -/
inductive IntArgument : Option JsonDoc → Prop
  | missing : IntArgument none
  | int (value : ℤ) : IntArgument (some (.int value))
  | bool (value : Bool) : IntArgument (some (.bool value))
  | finite (value : ℚ) : IntArgument (some (.float (.finite value)))
  | nan : IntArgument (some (.float .nan))
  | str (text : CodePoints) : IntArgument (some (.str text))

theorem caught_requestName {convert : NameOrInt → Py ℤ} (hconvert : ∀ arg, (convert arg).OnlyAppFrameError)
    {request : DocFields} {name default : String} :
    Caught (requestName convert request name default) ↔ NameArgument (request.get name) := by
  unfold requestName
  generalize request.get name = value
  have hcaught : ∀ arg, Caught (convert arg).printable := fun arg => (hconvert arg).caught
  have hnone : ∀ msg : String, ¬ (Raised.mk (.attributeError msg) true).Caught :=
    fun _ h => nomatch h.isValueError
  rcases value with _ | (_ | value | value | value | text | items | fields)
  case none => exact iff_of_true (hcaught _) .missing
  case some.int => exact iff_of_true (hcaught _) (.int value)
  case some.bool => exact iff_of_true (hcaught _) (.bool value)
  case some.str =>
    simp only [CodePoints.text?]
    split_ifs with hsurrogate
    · refine iff_of_false (fun h => ?_) fun h => ?_
      · exact nomatch (caught_error.mp h).printable
      · cases h with
        | str h => rw [hsurrogate] at h; cases h
    · exact iff_of_true (hcaught _) (.str (Bool.eq_false_iff.mpr hsurrogate))
  all_goals exact iff_of_false (fun h => hnone _ (caught_error.mp h)) nofun

theorem caught_requestInt {request : DocFields} {name : String} {default : ℤ} :
    Caught (requestInt request name default) ↔ IntArgument (request.get name) := by
  unfold requestInt
  generalize request.get name = value
  have hnone : ∀ msg : String, ¬ (Raised.mk (.typeError msg) true).Caught :=
    fun _ h => nomatch h.isValueError
  rcases value with _ | (_ | value | value | (value | negative | _) | text | items | fields)
  case none => exact iff_of_true (caught_ok _) .missing
  case some.int => exact iff_of_true (caught_ok _) (.int value)
  case some.bool => exact iff_of_true (caught_ok _) (.bool value)
  case some.float.finite => exact iff_of_true (caught_ok _) (.finite value)
  case some.float.nan => exact iff_of_true (caught_error.mpr ⟨rfl, rfl⟩) .nan
  case some.float.infinite =>
    exact iff_of_false (fun h => nomatch (caught_error.mp h).isValueError) nofun
  case some.str =>
    refine iff_of_true (caught_printable.mpr fun error he => ?_) (.str text)
    simp only [JsonDoc.toJson, Json.toInt] at he
    split at he
    · cases he
    · cases he
      rfl
  all_goals exact iff_of_false (fun h => hnone _ (caught_error.mp h)) nofun

theorem caught_requestMessage (request : DocFields) : Caught (requestMessage request) := by
  unfold requestMessage
  split
  · split
    · exact caught_ok _
    · exact caught_error.mpr ⟨rfl, rfl⟩
  · exact caught_error.mpr ⟨rfl, rfl⟩

theorem caught_requestPayload (request : DocFields) : Caught (requestPayload request) := by
  unfold requestPayload
  split
  · exact caught_requestMessage request
  · exact caught_requestMessage request
  · split
    · exact caught_ok _
    · exact caught_error.mpr ⟨rfl, rfl⟩
  · exact caught_error.mpr ⟨rfl, rfl⟩

/-! ### Which datagrams are handled -/

/-- The names of a request are those local control takes, and its payload is read. -/
structure RequestAccepted (request : DocFields) (innerType : ℤ) (payload : Bytes) : Prop where
  trafficClass :
    requestName trafficClassValue request "traffic_class" "c2_uplink" = .ok trafficC2Uplink
  destinationType : requestName addressTypeValue request "destination_type" "c2" = .ok addrC2
  messageType : requestName messageTypeValue request "message_type" "data" = .ok innerType
  allowed : ¬ (innerType = msgRouteData ∨ innerType = msgRouteV2 ∨ innerType = msgSync)
  payload_read : requestPayload request = .ok payload
  payload_fits : (payload.length : ℤ) ≤ maxU16

/-- The numbers of a request are in range. -/
structure RequestRanges (control : LocalControlConfig) (request : DocFields)
    (destinationId ttl : ℤ) : Prop where
  destination : requestInt request "destination_id" control.c2Id = .ok destinationId
  destination_range : 1 ≤ destinationId ∧ destinationId ≤ 255
  hops : requestInt request "ttl" control.ttl = .ok ttl
  hops_range : 0 ≤ ttl ∧ ttl ≤ 255

theorem decodeLocalC2Request_eq_ok_iff {control : LocalControlConfig} {request : DocFields}
    {source : String} {message : LocalC2Message} :
    decodeLocalC2Request control request source = .ok message ↔
      RequestAccepted request message.innerType message.payload ∧
        RequestRanges control request message.destinationId message.ttl ∧
        message.source = source := by
  have hbind : ∀ {α β : Type} {x : Except Raised α} {f : α → Except Raised β} {b : β},
      (x >>= f) = .ok b ↔ ∃ a, x = .ok a ∧ f a = .ok b := by
    intro α β x f b
    cases x with
    | ok a => exact ⟨fun h => ⟨a, rfl, h⟩, fun ⟨_, ha, h⟩ => Except.ok.inj ha ▸ h⟩
    | error raised => exact iff_of_false nofun fun ⟨_, ha, _⟩ => nomatch ha
  simp only [decodeLocalC2Request, hbind, rejectIf_eq_ok, exists_const, not_not, not_lt]
  constructor
  · rintro ⟨_, htc, rfl, _, hdt, rfl, t, ht, hallowed, p, hp, hlen, d, hd, hdrange, l, hl, hlrange,
      hm⟩
    obtain rfl := Except.ok.inj hm
    exact ⟨⟨htc, hdt, ht, hallowed, hp, hlen⟩, ⟨hd, hdrange, hl, hlrange⟩, rfl⟩
  · rintro ⟨ha, hr, rfl⟩
    exact ⟨_, ha.trafficClass, rfl, _, ha.destinationType, rfl, _, ha.messageType, ha.allowed, _,
      ha.payload_read, ha.payload_fits, _, hr.destination, hr.destination_range, _, hr.hops,
      hr.hops_range, rfl⟩

/-- The values that are read can be converted: each one that is reached, once those
before it were accepted. -/
structure RequestReadable (control : LocalControlConfig) (request : DocFields) : Prop where
  trafficClass : NameArgument (request.get "traffic_class")
  destinationType :
    requestName trafficClassValue request "traffic_class" "c2_uplink" = .ok trafficC2Uplink →
      NameArgument (request.get "destination_type")
  messageType :
    requestName trafficClassValue request "traffic_class" "c2_uplink" = .ok trafficC2Uplink →
      requestName addressTypeValue request "destination_type" "c2" = .ok addrC2 →
        NameArgument (request.get "message_type")
  destinationId : ∀ innerType payload, RequestAccepted request innerType payload →
    IntArgument (request.get "destination_id")
  ttl : ∀ innerType payload destinationId, RequestAccepted request innerType payload →
    requestInt request "destination_id" control.c2Id = .ok destinationId →
      1 ≤ destinationId ∧ destinationId ≤ 255 → IntArgument (request.get "ttl")

theorem caught_decodeLocalC2Request {control : LocalControlConfig} {request : DocFields}
    {source : String} :
    Caught (decodeLocalC2Request control request source) ↔ RequestReadable control request := by
  have htraffic : Caught (requestName trafficClassValue request "traffic_class" "c2_uplink") ↔ _ :=
    caught_requestName (namedValue_onlyAppFrameError _ _ _)
  have hdestination : Caught (requestName addressTypeValue request "destination_type" "c2") ↔ _ :=
    caught_requestName (namedValue_onlyAppFrameError _ _ _)
  have htype : Caught (requestName messageTypeValue request "message_type" "data") ↔ _ :=
    caught_requestName (namedValue_onlyAppFrameError _ _ _)
  constructor
  · intro h
    rw [decodeLocalC2Request, caught_bind, htraffic] at h
    have hdest := fun htc => caught_bind.mp (caught_rejectIf_bind.mp (h.2 _ htc) (not_not.mpr rfl))
    have hmessage := fun htc hdt =>
      caught_bind.mp (caught_rejectIf_bind.mp ((hdest htc).2 _ hdt) (not_not.mpr rfl))
    have hnumber := fun t p (ha : RequestAccepted request t p) =>
      caught_bind.mp (caught_rejectIf_bind.mp ((caught_bind.mp (caught_rejectIf_bind.mp
        ((hmessage ha.trafficClass ha.destinationType).2 t ha.messageType) ha.allowed)).2 p
        ha.payload_read) (not_lt.mpr ha.payload_fits))
    refine ⟨h.1, fun htc => hdestination.mp (hdest htc).1, fun htc hdt => htype.mp (hmessage htc hdt).1,
      fun t p ha => caught_requestInt.mp (hnumber t p ha).1, fun t p d ha hd hrange => ?_⟩
    have hhops := caught_rejectIf_bind.mp ((hnumber t p ha).2 d hd) (not_not.mpr hrange)
    exact caught_requestInt.mp (caught_bind.mp hhops).1
  · intro h
    rw [decodeLocalC2Request]
    refine caught_bind.mpr ⟨htraffic.mpr h.trafficClass, fun tc htc => caught_rejectIf_bind.mpr ?_⟩
    intro huplink
    obtain rfl := not_not.mp huplink
    refine caught_bind.mpr
      ⟨hdestination.mpr (h.destinationType htc), fun dt hdt => caught_rejectIf_bind.mpr ?_⟩
    intro hc2
    obtain rfl := not_not.mp hc2
    refine caught_bind.mpr
      ⟨htype.mpr (h.messageType htc hdt), fun t ht => caught_rejectIf_bind.mpr fun hallowed => ?_⟩
    refine caught_bind.mpr
      ⟨caught_requestPayload request, fun p hp => caught_rejectIf_bind.mpr fun hlen => ?_⟩
    have ha : RequestAccepted request t p := ⟨htc, hdt, ht, hallowed, hp, not_lt.mp hlen⟩
    refine caught_bind.mpr
      ⟨caught_requestInt.mpr (h.destinationId t p ha), fun d hd => caught_rejectIf_bind.mpr ?_⟩
    intro hrange
    refine caught_bind.mpr ⟨caught_requestInt.mpr (h.ttl t p d ha hd (not_not.mp hrange)),
      fun l _ => caught_rejectIf_bind.mpr fun _ => caught_ok _⟩

/-- A request ends in a rejection, a send error or a frame: its values can be converted,
and the frame, if it comes to one, fits the radio. -/
structure RequestHandled (cfg : NodeConfig) (control : LocalControlConfig) (request : DocFields) :
    Prop extends RequestReadable control request where
  size : ∀ innerType payload destinationId ttl, RequestAccepted request innerType payload →
    RequestRanges control request destinationId ttl →
      RouteV2Encodes cfg innerType payload addrC2 destinationId ttl trafficC2Uplink →
        payload.length + 60 ≤ computeMaxPayload

/-- A datagram ends in a rejection, a send error or a frame: `json.loads` raises at most
a `ValueError`, and an object is a request that does. -/
def LocalControlHandled (cfg : NodeConfig) (control : LocalControlConfig) (depthLimit : ℕ)
    (data : Bytes) : Prop :=
  match loads depthLimit data with
  | .ok (.obj request) => RequestHandled cfg control request
  | .ok _ | .error .notJson => True
  | .error (.raised error) => error.isValueError = true

section

variable {A : Aead} {cfg : NodeConfig} {env : Env} {s : NodeState}

/-- **The send of a queued message returns** unless the frame is made and is too large
for the radio. -/
theorem sendLocalC2_returns_iff (hA : A.LengthPreserving chacha20Poly1305TagSize)
    (hradio : env.radio = none) {message : LocalC2Message} :
    (∃ outcome s', sendLocalC2 A cfg env message s = .ok outcome s') ↔
      (RouteV2Encodes cfg message.innerType message.payload addrC2 message.destinationId message.ttl
        trafficC2Uplink → message.payload.length + 60 ≤ computeMaxPayload) := by
  rw [sendLocalC2, PyM.bind_apply, PyM.exceptAppFrameError]
  by_cases hencodes : RouteV2Encodes cfg message.innerType message.payload addrC2
      message.destinationId message.ttl trafficC2Uplink
  · obtain ⟨c, hc⟩ := Option.isSome_iff_exists.mp hencodes.key
    rw [(sendRouteV2_of_encodes hA hradio hencodes hc).2]
    by_cases hfit : message.payload.length + 60 ≤ computeMaxPayload
    · rw [if_pos hfit]
      exact iff_of_true ⟨_, _, rfl⟩ fun _ => hfit
    · rw [if_neg hfit]
      exact iff_of_false (not_returns_error _ _) fun h => hfit (h hencodes)
  · obtain ⟨msg, hsend⟩ := sendRouteV2_of_not_encodes hA hencodes env s
    rw [hsend]
    exact iff_of_true ⟨_, _, rfl⟩ fun h => absurd h hencodes

theorem localControl_returns_iff_caught {control : LocalControlConfig} {depthLimit : ℕ}
    {data : Bytes} {source : String} :
    (∃ outcome s', localControl A cfg env control depthLimit data source s = .ok outcome s') ↔
      Caught (decodeLocalC2Message control depthLimit data source) ∧
        ∀ message, decodeLocalC2Message control depthLimit data source = .ok message →
          ∃ outcome s', sendLocalC2 A cfg env message s = .ok outcome s' := by
  rw [localControl, drainLocalControl]
  cases decodeLocalC2Message control depthLimit data source with
  | ok message =>
    constructor
    · intro h
      exact ⟨caught_ok message, fun m hm => Except.ok.inj hm ▸ h⟩
    · intro h
      exact h.2 message rfl
  | error raised =>
    rw [caught_error, raised.caught_iff]
    simp only
    constructor
    · intro h
      refine ⟨?_, nofun⟩
      cases hlogged : raised.logged with
      | ok event => exact ⟨event, rfl⟩
      | error error =>
        rw [PyM.lift_bind_of_eq_error hlogged] at h
        obtain ⟨_, _, h⟩ := h
        cases h
    · rintro ⟨⟨event, hlogged⟩, -⟩
      rw [PyM.lift_bind_of_eq_ok hlogged]
      cases event with
      | rejected error => exact ⟨_, _, rfl⟩
      | queued message =>
        unfold Raised.logged at hlogged
        split_ifs at hlogged
        cases hlogged

/-- **Which datagrams the local control survives.** -/
theorem localControl_returns_iff (hA : A.LengthPreserving chacha20Poly1305TagSize)
    (hradio : env.radio = none) {control : LocalControlConfig} {depthLimit : ℕ} {data : Bytes}
    {source : String} :
    (∃ outcome s', localControl A cfg env control depthLimit data source s = .ok outcome s') ↔
      LocalControlHandled cfg control depthLimit data := by
  have hreject : ∀ msg, Caught (.error ⟨.appFrameError msg, true⟩ : Except Raised LocalC2Message) :=
    fun _ => caught_error.mpr ⟨rfl, rfl⟩
  rw [localControl_returns_iff_caught]
  simp only [sendLocalC2_returns_iff hA hradio, LocalControlHandled, decodeLocalC2Message]
  split
  · rename_i request hloads
    rw [caught_decodeLocalC2Request]
    constructor
    · rintro ⟨hreadable, hsize⟩
      refine ⟨hreadable, fun t p d l ha hr => ?_⟩
      exact hsize ⟨t, p, d, l, source⟩ (decodeLocalC2Request_eq_ok_iff.mpr ⟨ha, hr, rfl⟩)
    · intro h
      refine ⟨h.toRequestReadable, fun message hmessage => ?_⟩
      obtain ⟨ha, hr, -⟩ := decodeLocalC2Request_eq_ok_iff.mp hmessage
      exact h.size _ _ _ _ ha hr
  · exact iff_of_true ⟨hreject _, nofun⟩ trivial
  · exact iff_of_true ⟨hreject _, nofun⟩ trivial
  · rename_i error hloads
    constructor
    · exact fun h => (caught_error.mp h.1).isValueError
    · exact fun h => ⟨caught_error.mpr ⟨h, rfl⟩, nofun⟩

/-! ### The queue over a run -/

/-- The node and what its drain has queued. -/
structure ControlState where
  node : NodeState
  pending : List LocalC2Message

/-- What the main loop does: drain a datagram, send the oldest queued message, or
anything else to the node. -/
inductive ControlEvent
  | datagram (data : Bytes) (source : String)
  | send (env : Env)
  | other (next : NodeState → NodeState)

/-- One event. -/
def controlStep (A : Aead) (cfg : NodeConfig) (control : LocalControlConfig) (depthLimit : ℕ) :
    ControlEvent → PyM ControlState Unit
  | .datagram data source => do
      match ← liftM (drainLocalControl control depthLimit data source) with
      | .rejected _ => pure ()
      | .queued message => modify fun s => { s with pending := s.pending ++ [message] }
  | .send env => do
      let s ← get
      match s.pending with
      | [] => pure ()
      | message :: rest =>
          match sendLocalC2 A cfg env message s.node with
          | .ok _ node => set (ControlState.mk node rest)
          | .error error _ => liftM (.error error : Py Unit)
  | .other next => modify fun s => { s with node := next s.node }

/-- The events of a run, one after the other. -/
def controlRun (A : Aead) (cfg : NodeConfig) (control : LocalControlConfig) (depthLimit : ℕ) :
    List ControlEvent → PyM ControlState Unit
  | [] => pure ()
  | event :: events => do
      controlStep A cfg control depthLimit event
      controlRun A cfg control depthLimit events

/-- The datagrams are handled and the radio works. -/
def ControlEvent.Handled (cfg : NodeConfig) (control : LocalControlConfig) (depthLimit : ℕ) :
    ControlEvent → Prop
  | .datagram data _ => LocalControlHandled cfg control depthLimit data
  | .send env => env.radio = none
  | .other _ => True

/-- Every queued message fits the radio, if it comes to a frame. -/
def ControlState.Sendable (cfg : NodeConfig) (s : ControlState) : Prop :=
  ∀ message ∈ s.pending, RouteV2Encodes cfg message.innerType message.payload addrC2
    message.destinationId message.ttl trafficC2Uplink → message.payload.length + 60 ≤ computeMaxPayload

/-- A datagram that is handled queues at most a message that can be sent. -/
theorem drainLocalControl_handled {control : LocalControlConfig} {depthLimit : ℕ} {data : Bytes}
    (hA : A.LengthPreserving chacha20Poly1305TagSize)
    (h : LocalControlHandled cfg control depthLimit data) (source : String) :
    ∃ event, drainLocalControl control depthLimit data source = .ok event ∧
      ∀ message, event = .queued message →
        RouteV2Encodes cfg message.innerType message.payload addrC2 message.destinationId message.ttl
          trafficC2Uplink → message.payload.length + 60 ≤ computeMaxPayload := by
  have hreturns : ∃ outcome s', localControl A cfg Env.sample control depthLimit data source
      (NodeState.initial cfg SeqNo.one 0 none) = .ok outcome s' :=
    (localControl_returns_iff hA rfl).mpr h
  obtain ⟨hcaught, hsend⟩ := localControl_returns_iff_caught.mp hreturns
  unfold drainLocalControl
  cases hdecode : decodeLocalC2Message control depthLimit data source with
  | ok message =>
    refine ⟨.queued message, rfl, fun m hm => ?_⟩
    obtain rfl := LocalControlEvent.queued.inj hm
    exact (sendLocalC2_returns_iff hA rfl).mp (hsend message hdecode)
  | error raised =>
    obtain ⟨event, hevent⟩ := raised.caught_iff.mp (hcaught raised hdecode)
    refine ⟨event, hevent, fun m hm => ?_⟩
    rw [hm, Raised.logged] at hevent
    split_ifs at hevent
    cases hevent

theorem controlStep_returns (hA : A.LengthPreserving chacha20Poly1305TagSize)
    {control : LocalControlConfig} {depthLimit : ℕ} {event : ControlEvent} {s : ControlState}
    (h : event.Handled cfg control depthLimit) (hs : s.Sendable cfg) :
    ∃ s', controlStep A cfg control depthLimit event s = .ok () s' ∧ s'.Sendable cfg := by
  cases event with
  | datagram data source =>
    obtain ⟨event, hevent, hqueued⟩ := drainLocalControl_handled hA h source
    rw [controlStep, PyM.lift_bind_of_eq_ok hevent]
    cases event with
    | rejected error => exact ⟨s, rfl, hs⟩
    | queued message =>
      refine ⟨_, rfl, fun m hm => ?_⟩
      obtain hm | hm := List.mem_append.mp hm
      · exact hs m hm
      · obtain rfl := List.mem_singleton.mp hm
        exact hqueued m rfl
  | send env =>
    rw [controlStep, PyM.get_bind_apply]
    cases hpending : s.pending with
    | nil => exact ⟨s, rfl, hs⟩
    | cons message rest =>
      have hfits := hs message (by rw [hpending]; exact List.mem_cons_self)
      obtain ⟨outcome, node, hsend⟩ := (sendLocalC2_returns_iff (s := s.node) hA h).mpr hfits
      simp only [hsend]
      refine ⟨⟨node, rest⟩, rfl, fun m hm => hs m ?_⟩
      rw [hpending]
      exact List.mem_cons_of_mem _ hm
  | other next => exact ⟨_, rfl, hs⟩

/-- **Local control does not stop the loop** in a run whose datagrams are all handled:
however the datagrams, the sends and the rest of the loop interleave, every event
returns. -/
theorem controlRun_returns (hA : A.LengthPreserving chacha20Poly1305TagSize)
    {control : LocalControlConfig} {depthLimit : ℕ} {events : List ControlEvent} {s : ControlState}
    (h : ∀ event ∈ events, event.Handled cfg control depthLimit) (hs : s.Sendable cfg) :
    ∃ s', controlRun A cfg control depthLimit events s = .ok () s' ∧ s'.Sendable cfg := by
  induction events generalizing s with
  | nil => exact ⟨s, rfl, hs⟩
  | cons event events ih =>
    obtain ⟨s₁, hstep, hs₁⟩ := controlStep_returns hA (h event List.mem_cons_self) hs
    obtain ⟨s', hrun, hs'⟩ := ih (fun e he => h e (List.mem_cons_of_mem _ he)) hs₁
    refine ⟨s', ?_, hs'⟩
    rw [controlRun, PyM.bind_apply, hstep]
    exact hrun

end

end KovaWfb
