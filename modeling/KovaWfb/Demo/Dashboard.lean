/-
# The dashboard: `MeshState` and `process_radio_payload`

`demo/dashboard_server.py`, lines 36 to 75, 290 to 311, 337 to 488, 529 to 575 and 640 to
715: the state that the dashboard shows, and what a received frame changes in it.

`observe` is `process_radio_payload` up to its call of `ingest_observation`.  What a status
payload says (JSON, or `key=value` words with numbers in them) is read by a `StatusReader`:
the accounting of packets does not depend on it, as long as it raises nothing.
-/

import KovaWfb.AppProto.Codec
import KovaWfb.Python.Dict
import KovaWfb.Python.Json
import KovaWfb.Radio.Proto
import Mathlib.Data.Rat.Defs

namespace KovaWfb

/-! ### The state -/

/-- `BASE_NODE_ID`. -/
abbrev baseNodeId : ℤ := 0

/-- `class NodeRecord`. -/
structure NodeRecord where
  nodeId : ℤ
  label : String
  kind : String := "real"
  x : ℚ := 1 / 2
  y : ℚ := 1 / 2
  role : String := "drone"
  lastSeen : Option ℚ := none
  packets : ℤ := 0
  lostPackets : ℤ := 0
  duplicatePackets : ℤ := 0
  lastSeq : Option ℤ := none
  rssi : Option ℤ := none
  freq : Option ℤ := none
  bandwidth : Option ℤ := none
  mcsIndex : Option ℤ := none
  via : Option ℤ := none
  battery : Option ℤ := none
  message : String := ""
  source : String := "config"

/-- `class LinkRecord`. -/
structure LinkRecord where
  fromId : ℤ
  toId : ℤ
  lastSeen : ℚ
  packets : ℤ := 0
  rssi : Option ℤ := none
  source : String := "radio"

/-- An entry of `events`. -/
inductive DashboardEvent
  | rx (ts : ℚ) (node via : ℤ) (seq rssi : Option ℤ) (source messageType message payload : String)
      (freq bandwidth mcsIndex : Option ℤ)
  | malformed (ts : ℚ) (message : String)
  | radio (ts : ℚ) (message : String)
  | jam (ts : ℚ) (node : Option ℤ) (severity message : String)

/-- `class MeshState`, with what changes in its `DashboardStats`. -/
structure MeshState where
  nodes : List (ℤ × NodeRecord)
  links : List ((ℤ × ℤ) × LinkRecord)
  events : List DashboardEvent
  jammedSimNodes : List ℤ
  radioPackets : ℤ
  simulatedPackets : ℤ
  malformedPackets : ℤ
  radioStatus : String
  radioError : Option String
  radioChannel : Option ℤ
  radioSlot : Option ℤ
  radioNextHopMs : Option ℤ

/-- `MeshState(...)` at a time. -/
def MeshState.initial (now : ℚ) : MeshState where
  nodes := [(baseNodeId,
    { nodeId := baseNodeId, label := "BASE", kind := "receiver", x := 1 / 2, y := 22 / 25,
      role := "base", lastSeen := some now, source := "local" })]
  links := []
  events := []
  jammedSimNodes := []
  radioPackets := 0
  simulatedPackets := 0
  malformedPackets := 0
  radioStatus := "idle"
  radioError := none
  radioChannel := none
  radioSlot := none
  radioNextHopMs := none

namespace MeshState

/-- `_ensure_node_locked`. -/
def ensureNode (s : MeshState) (nodeId : ℤ) : MeshState :=
  if (s.nodes.lookup nodeId).isSome then s
  else { s with nodes := dictSet nodeId { nodeId, label := s!"TX-{nodeId}" } s.nodes }

/-- Assignments to the fields of a node that is there. -/
def updateNode (s : MeshState) (nodeId : ℤ) (f : NodeRecord → NodeRecord) : MeshState :=
  match s.nodes.lookup nodeId with
  | some node => { s with nodes := dictSet nodeId (f node) s.nodes }
  | none => s

/-- `_touch_link_locked`. -/
def touchLink (s : MeshState) (fromId toId : ℤ) (now : ℚ) (rssi : Option ℤ) (source : String) :
    MeshState :=
  if fromId = toId then s
  else
    let s := (s.ensureNode fromId).ensureNode toId
    match s.links.lookup (fromId, toId) with
    | none => { s with
        links := dictSet (fromId, toId) { fromId, toId, lastSeen := now, packets := 1, rssi, source }
          s.links }
    | some link => { s with
        links := dictSet (fromId, toId)
          { link with lastSeen := now, packets := link.packets + 1, rssi, source } s.links }

/-- `_append_event_locked`: the newest event first, 80 at most. -/
def appendEvent (s : MeshState) (event : DashboardEvent) : MeshState :=
  { s with events := (event :: s.events).take 80 }

/-- `ingest_malformed`. -/
def ingestMalformed (s : MeshState) (ts : ℚ) (message : String) : MeshState :=
  { s with malformedPackets := s.malformedPackets + 1 }.appendEvent (.malformed ts message)

/-- `set_radio_status`; an error that is not empty is an event. -/
def setRadioStatus (s : MeshState) (ts : ℚ) (status : String) (error : Option String) : MeshState :=
  let s := { s with radioStatus := status, radioError := error }
  match error with
  | some error => if error = "" then s else s.appendEvent (.radio ts error)
  | none => s

/-- `set_radio_channel`. -/
def setRadioChannel (s : MeshState) (channel slot nextHopMs : Option ℤ) : MeshState :=
  { s with radioChannel := channel, radioSlot := slot, radioNextHopMs := nextHopMs }

/-- `set_sim_jammed`. -/
def setSimJammed (s : MeshState) (ts : ℚ) (nodeId : ℤ) (jammed : Bool) : MeshState :=
  let others := s.jammedSimNodes.filter (· ≠ nodeId)
  { s with jammedSimNodes := if jammed then nodeId :: others else others }.appendEvent
    (.jam ts (some nodeId) (if jammed then "warning" else "info")
      ("Node " ++ toString nodeId ++ " jamming " ++ if jammed then "enabled" else "cleared"))

/-- `reset_sim`. -/
def resetSim (s : MeshState) (ts : ℚ) : MeshState :=
  { s with jammedSimNodes := [] }.appendEvent
    (.jam ts none "info" "Simulation jamming cleared")

end MeshState

/-! ### An observation -/

/-- What `ingest_observation` reads of a status: texts where they are truthy (the label also
where it is not), coordinates as `_coerce_float` gives them, which raises for an integer beyond
every float, and the battery as `_coerce_int` does, which raises for an infinite number. -/
structure Status where
  message : Option String
  label : Option String
  kind : Option String
  x : Py (Option JsonFloat)
  y : Py (Option JsonFloat)
  battery : Py (Option ℤ)

/-- The numbers of a status raise nothing. -/
structure Status.Readable (status : Status) : Prop where
  x : ∃ value, status.x = .ok value
  y : ∃ value, status.y = .ok value
  battery : ∃ value, status.battery = .ok value

/-- `parse_status_payload`. -/
abbrev StatusReader := Bytes → Py Status

/-- `_clamp01`. -/
def clamp01 : JsonFloat → ℚ
  | .finite value => max 0 (min 1 value)
  | .infinite negative => if negative then 0 else 1
  | .nan => 1

/-- `_safe_text`. -/
def safeText (payload : Bytes) : String := strip (decodeUtf8Replace payload)

/-- The arguments of `ingest_observation`. -/
structure Observation where
  originId : ℤ
  viaId : ℤ
  seq : Option ℤ
  payload : Bytes
  messageType : String
  rssi : Option ℤ
  freq : Option ℤ
  bandwidth : Option ℤ
  mcsIndex : Option ℤ
  source : String
  kind : String
  deriving DecidableEq, Repr

/-- The assignments to a node in front of its place. -/
def NodeRecord.observe (obs : Observation) (status : Status) (now : ℚ) (message : String)
    (node : NodeRecord) : NodeRecord :=
  { node with
    label := status.label.getD node.label
    kind := status.kind.getD (if obs.kind = "" then node.kind else obs.kind)
    source := obs.source
    lastSeen := some now
    packets := node.packets + 1
    rssi := obs.rssi
    freq := obs.freq
    bandwidth := obs.bandwidth
    mcsIndex := obs.mcsIndex
    via := some obs.viaId
    message }

/-- `node.x = _clamp01(x_value)`, and `y` likewise. -/
def NodeRecord.setPlace (x y : Option JsonFloat) (node : NodeRecord) : NodeRecord :=
  { node with x := (x.map clamp01).getD node.x, y := (y.map clamp01).getD node.y }

/-- `node.battery = max(0, min(100, battery))`. -/
def NodeRecord.setBattery (battery : Option ℤ) (node : NodeRecord) : NodeRecord :=
  match battery with
  | some battery => { node with battery := some (max 0 (min 100 battery)) }
  | none => node

/-- The accounting of the sequence number. -/
def NodeRecord.countSeq (seq : Option ℤ) (node : NodeRecord) : NodeRecord :=
  match seq with
  | none => node
  | some seq =>
    let node :=
      match node.lastSeq with
      | none => node
      | some lastSeq =>
        if lastSeq = seq then { node with duplicatePackets := node.duplicatePackets + 1 }
        else if seq > lastSeq + 1 then
          { node with lostPackets := node.lostPackets + (seq - lastSeq - 1) }
        else node
    { node with lastSeq := some seq }

/-- `ingest_observation`; `now` and `ts` are its two readings of the clock. -/
def ingestObservation (reader : StatusReader) (now ts : ℚ) (obs : Observation) :
    PyM MeshState Unit := do
  let payloadText := safeText obs.payload
  let status ← reader obs.payload
  let message := status.message.getD obs.messageType
  modify fun s => (s.ensureNode obs.originId).updateNode obs.originId
    (NodeRecord.observe obs status now message)
  let x ← status.x
  let y ← status.y
  modify fun s => s.updateNode obs.originId (NodeRecord.setPlace x y)
  let battery ← status.battery
  modify fun s => s.updateNode obs.originId fun node =>
    (node.setBattery battery).countSeq obs.seq
  modify fun s =>
    if obs.source = "sim" then { s with simulatedPackets := s.simulatedPackets + 1 }
    else { s with radioPackets := s.radioPackets + 1 }
  modify fun s => s.touchLink baseNodeId obs.viaId now obs.rssi obs.source
  modify fun s =>
    if obs.viaId ≠ obs.originId then s.touchLink obs.viaId obs.originId now obs.rssi obs.source
    else s
  modify fun s => s.appendEvent (.rx ts obs.originId obs.viaId obs.seq obs.rssi obs.source
    obs.messageType message payloadText obs.freq obs.bandwidth obs.mcsIndex)

/-! ### A frame -/

/-- `_extract_rssi`. -/
def extractRssi (metadata : WfbRxMeta) : Option ℤ :=
  let first := (metadata.rssi.get 0).toInt
  if metadata.antennaCount = 0 ∧ first = 0 then none else some first

/-- `int(value) or None`. -/
def intOrNone (value : ℕ) : Option ℤ := if value = 0 then none else some value

/-- The JSON text that stands for a sync payload. -/
def syncText (sync : SyncStatus) : Bytes :=
  ("\x7b\"message\":\"sync\",\"utc_ms\":" ++ toString sync.utcMs ++ ",\"slot\":" ++
    toString sync.slot ++ ",\"channel\":" ++ toString sync.channel ++ ",\"next_hop_ms\":" ++
    toString sync.nextHopMs ++ "\x7d").toUTF8.toList

/-- The payload that is observed: the text of a sync message, any other as it is. -/
def observedPayload (messageType : ℤ) (payload : Bytes) : Py Bytes :=
  if messageType = msgSync then do
    let sync ← decodeSyncPayload payload
    pure (syncText sync)
  else pure payload

/-- `process_radio_payload` up to the observation. -/
def observe (payload : Bytes) (metadata : WfbRxMeta) : Py Observation := do
  let frame ← decodeFrame payload false
  let rssi := extractRssi metadata
  let freq := intOrNone metadata.freq.toNat
  let bandwidth := intOrNone metadata.bandwidth.toNat
  let mcsIndex := some (metadata.mcsIndex.toNat : ℤ)
  if frame.messageType = msgRouteData then do
    let route ← decodeRouteDataPayload frame.payload
    let routedPayload ← observedPayload route.innerType route.innerPayload
    pure { originId := route.originSenderId, viaId := frame.senderId, seq := some route.originSeq,
           payload := routedPayload, messageType := messageTypeName route.innerType, rssi, freq,
           bandwidth, mcsIndex, source := "radio", kind := "real" }
  else do
    let directPayload ← observedPayload frame.messageType frame.payload
    pure { originId := frame.senderId, viaId := frame.senderId, seq := some frame.appSeq,
           payload := directPayload, messageType := messageTypeName frame.messageType, rssi, freq,
           bandwidth, mcsIndex, source := "radio", kind := "real" }

/-- `process_radio_payload`. -/
def processRadioPayload (reader : StatusReader) (now ts : ℚ) (payload : Bytes)
    (metadata : WfbRxMeta) : PyM MeshState Unit := do
  let outcome ← PyM.exceptAppFrameError do
    let obs ← observe payload metadata
    ingestObservation reader now ts obs
  match outcome with
  | .ok () => pure ()
  | .error message => modify fun s => s.ingestMalformed ts message

end KovaWfb
