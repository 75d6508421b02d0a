/-
# What the dashboard does with one frame

`process_radio_payload` of `demo/dashboard_server.py` (640 to 715) catches `AppFrameError` and
nothing else.  So a frame ends in one of four ways (`FrameOutcome`): it is malformed, and an
event says so; or it is observed, with every assignment of `ingest_observation` made; or
`json.loads` raises, in front of the first assignment; or a number overflows, when the node has
its packet and the counters of the state do not have it yet.
-/

import KovaWfb.Demo.Status

namespace KovaWfb

namespace MeshState

variable {s : MeshState} {nodeId fromId toId o : ℤ} {now : ℚ} {rssi : Option ℤ} {source : String}

/-! ### Nodes -/

/-- The record that `_ensure_node_locked` returns. -/
def node (s : MeshState) (nodeId : ℤ) : NodeRecord :=
  (s.nodes.lookup nodeId).getD { nodeId, label := s!"TX-{nodeId}" }

theorem node_of_lookup {node : NodeRecord} (h : s.nodes.lookup nodeId = some node) :
    s.node nodeId = node := by
  rw [MeshState.node, h, Option.getD_some]

/-- **A node that is ensured is there**, and the others are as they were. -/
theorem lookup_ensureNode_eq :
    (s.ensureNode nodeId).nodes.lookup o =
      if o = nodeId then some (s.node nodeId) else s.nodes.lookup o := by
  unfold ensureNode
  split_ifs with hthere ho ho
  · obtain ⟨node, h⟩ := Option.isSome_iff_exists.1 hthere
    rw [ho, node_of_lookup h, h]
  · rfl
  · rw [lookup_dictSet, if_pos ho, node, Option.not_isSome_iff_eq_none.1 hthere, Option.getD_none]
  · rw [lookup_dictSet, if_neg ho]

theorem node_ensureNode : (s.ensureNode nodeId).node o = s.node o := by
  rw [node, lookup_ensureNode_eq]
  split_ifs with ho
  · rw [ho, Option.getD_some]
  · rfl

theorem lookup_updateNode_eq {f : NodeRecord → NodeRecord}
    (hnode : (s.nodes.lookup nodeId).isSome) :
    (s.updateNode nodeId f).nodes.lookup o =
      if o = nodeId then some (f (s.node nodeId)) else s.nodes.lookup o := by
  obtain ⟨node, h⟩ := Option.isSome_iff_exists.1 hnode
  rw [updateNode, h, node_of_lookup h]
  exact lookup_dictSet

/-- Assignments one after the other. -/
theorem updateNode_updateNode {f g : NodeRecord → NodeRecord} :
    (s.updateNode nodeId f).updateNode nodeId g = s.updateNode nodeId (g ∘ f) := by
  unfold updateNode
  cases h : s.nodes.lookup nodeId with
  | none => simp only [h]
  | some node =>
    simp only [lookup_dictSet, if_true, dictSet_dictSet, Function.comp_apply]

/-! ### Links -/

theorem lookup_touchLink {node : NodeRecord} (h : s.nodes.lookup o = some node) :
    (s.touchLink fromId toId now rssi source).nodes.lookup o = some node := by
  have hensured : ((s.ensureNode fromId).ensureNode toId).nodes.lookup o = some node := by
    rw [lookup_ensureNode_eq, lookup_ensureNode_eq, node_ensureNode]
    split_ifs with hto hfrom
    · rw [← hto, node_of_lookup h]
    · rw [← hfrom, node_of_lookup h]
    · exact h
  unfold touchLink
  split_ifs
  · exact h
  · dsimp only
    split <;> exact hensured

theorem node_touchLink : (s.touchLink fromId toId now rssi source).node o = s.node o := by
  have hensured : ((s.ensureNode fromId).ensureNode toId).node o = s.node o :=
    node_ensureNode.trans node_ensureNode
  unfold touchLink
  split_ifs
  · rfl
  · dsimp only
    split <;> exact hensured

/-- A link changes nodes and links only. -/
theorem touchLink_eq (s : MeshState) (fromId toId : ℤ) (now : ℚ) (rssi : Option ℤ)
    (source : String) : ∃ nodes links,
    s.touchLink fromId toId now rssi source = { s with nodes, links } := by
  have hensured : ∀ (s : MeshState) nodeId, ∃ nodes, s.ensureNode nodeId = { s with nodes } := by
    intro s nodeId
    unfold ensureNode
    split_ifs <;> exact ⟨_, rfl⟩
  obtain ⟨nodes, hfrom⟩ := hensured s fromId
  obtain ⟨nodes', hto⟩ := hensured (s.ensureNode fromId) toId
  unfold touchLink
  split_ifs
  · exact ⟨s.nodes, s.links, rfl⟩
  · dsimp only
    rw [hto, hfrom]
    split <;> exact ⟨_, _, rfl⟩

/-- How many packets the link has carried. -/
def linkPackets (s : MeshState) (fromId toId : ℤ) : ℤ :=
  ((s.links.lookup (fromId, toId)).map LinkRecord.packets).getD 0

/-- The link is there, one packet later. -/
def LinkHeard (s s' : MeshState) (fromId toId : ℤ) (now : ℚ) (rssi : Option ℤ)
    (source : String) : Prop :=
  ∃ link, s'.links.lookup (fromId, toId) = some link ∧ link.lastSeen = now ∧ link.rssi = rssi ∧
    link.source = source ∧ link.packets = s.linkPackets fromId toId + 1

/-- **A packet over a link** counts for this link only. -/
theorem links_touchLink (hne : fromId ≠ toId) (s : MeshState) (now : ℚ) (rssi : Option ℤ)
    (source : String) :
    s.LinkHeard (s.touchLink fromId toId now rssi source) fromId toId now rssi source ∧
      ∀ key, key ≠ (fromId, toId) →
        (s.touchLink fromId toId now rssi source).links.lookup key = s.links.lookup key := by
  have hensured : ∀ (s : MeshState) nodeId, (s.ensureNode nodeId).links = s.links := by
    intro s nodeId
    unfold ensureNode
    split_ifs <;> rfl
  rw [touchLink, if_neg hne]
  dsimp only
  rw [hensured, hensured, LinkHeard, linkPackets]
  cases h : s.links.lookup (fromId, toId) with
  | none =>
    refine ⟨⟨{ fromId, toId, lastSeen := now, packets := 1, rssi, source },
      lookup_dictSet.trans (if_pos rfl), rfl, rfl, rfl, rfl⟩, fun key hkey => ?_⟩
    exact lookup_dictSet.trans (if_neg hkey)
  | some link =>
    refine ⟨⟨{ link with lastSeen := now, packets := link.packets + 1, rssi, source },
      lookup_dictSet.trans (if_pos rfl), rfl, rfl, rfl, rfl⟩, fun key hkey => ?_⟩
    exact lookup_dictSet.trans (if_neg hkey)

/-! ### A whole observation -/

/-- The links on the way from the node to the receiver. -/
def touchWay (s : MeshState) (now : ℚ) (obs : Observation) : MeshState :=
  let s := s.touchLink baseNodeId obs.viaId now obs.rssi obs.source
  if obs.viaId ≠ obs.originId then s.touchLink obs.viaId obs.originId now obs.rssi obs.source
  else s

/-- The counter of the source. -/
def countPacket (s : MeshState) (source : String) : MeshState :=
  if source = "sim" then { s with simulatedPackets := s.simulatedPackets + 1 }
  else { s with radioPackets := s.radioPackets + 1 }

/-- The state behind the assignments `f` to the node: the counters, the links and the event. -/
def record (s : MeshState) (now ts : ℚ) (obs : Observation) (message : String)
    (f : NodeRecord → NodeRecord) : MeshState :=
  let s := ((s.ensureNode obs.originId).updateNode obs.originId f).countPacket obs.source
  (s.touchWay now obs).appendEvent (.rx ts obs.originId obs.viaId obs.seq obs.rssi obs.source
    obs.messageType message (safeText obs.payload) obs.freq obs.bandwidth obs.mcsIndex)

/-- One complete observation between two states: the record of the node has all assignments,
one counter goes up, the links on the way have one packet more, the newest event says what was
observed, and nothing else is new. -/
structure Observed (s s' : MeshState) (now ts : ℚ) (obs : Observation) (message : String)
    (f : NodeRecord → NodeRecord) : Prop where
  node : s'.nodes.lookup obs.originId = some (f (s.node obs.originId))
  others : ∀ o, o ≠ obs.originId → s'.node o = s.node o
  radioPackets : s'.radioPackets = s.radioPackets + if obs.source = "sim" then 0 else 1
  simulatedPackets : s'.simulatedPackets = s.simulatedPackets + if obs.source = "sim" then 1 else 0
  malformedPackets : s'.malformedPackets = s.malformedPackets
  baseLink : baseNodeId ≠ obs.viaId →
    s.LinkHeard s' baseNodeId obs.viaId now obs.rssi obs.source
  originLink : obs.viaId ≠ obs.originId →
    s.LinkHeard s' obs.viaId obs.originId now obs.rssi obs.source
  otherLinks : ∀ key, key ≠ (baseNodeId, obs.viaId) → key ≠ (obs.viaId, obs.originId) →
    s'.links.lookup key = s.links.lookup key
  events : s'.events = (.rx ts obs.originId obs.viaId obs.seq obs.rssi obs.source obs.messageType
    message (safeText obs.payload) obs.freq obs.bandwidth obs.mcsIndex :: s.events).take 80

section

variable {ts : ℚ} {obs : Observation} {message : String} {f : NodeRecord → NodeRecord}

theorem lookup_ensureNode_isSome : ((s.ensureNode nodeId).nodes.lookup nodeId).isSome := by
  rw [lookup_ensureNode_eq, if_pos rfl]
  rfl

/-- Assignments to a node change nodes only. -/
theorem updateNode_ensureNode_eq (s : MeshState) (nodeId : ℤ) (f : NodeRecord → NodeRecord) :
    ∃ nodes,
    (s.ensureNode nodeId).updateNode nodeId f = { s with nodes } := by
  unfold updateNode ensureNode
  split_ifs <;> split <;> exact ⟨_, rfl⟩

theorem lookup_touchWay {node : NodeRecord} (h : s.nodes.lookup o = some node) :
    (s.touchWay now obs).nodes.lookup o = some node := by
  unfold touchWay
  dsimp only
  split_ifs
  · exact lookup_touchLink (lookup_touchLink h)
  · exact lookup_touchLink h

theorem node_touchWay : (s.touchWay now obs).node o = s.node o := by
  unfold touchWay
  dsimp only
  split_ifs
  · exact node_touchLink.trans node_touchLink
  · exact node_touchLink

theorem touchWay_eq (s : MeshState) (now : ℚ) (obs : Observation) :
    ∃ nodes links, s.touchWay now obs = { s with nodes, links } := by
  obtain ⟨nodes, links, hbase⟩ := s.touchLink_eq baseNodeId obs.viaId now obs.rssi obs.source
  unfold touchWay
  dsimp only
  split_ifs
  · obtain ⟨nodes', links', hvia⟩ := touchLink_eq
      (s.touchLink baseNodeId obs.viaId now obs.rssi obs.source) obs.viaId obs.originId now obs.rssi
      obs.source
    rw [hvia, hbase]
    exact ⟨_, _, rfl⟩
  · exact ⟨nodes, links, hbase⟩

/-- Each link on the way has one packet more. -/
theorem links_touchWay (s : MeshState) (now : ℚ) (obs : Observation) :
    (baseNodeId ≠ obs.viaId → s.LinkHeard (s.touchWay now obs) baseNodeId obs.viaId now obs.rssi
      obs.source) ∧
      (obs.viaId ≠ obs.originId → s.LinkHeard (s.touchWay now obs) obs.viaId obs.originId now
        obs.rssi obs.source) ∧
      ∀ key, key ≠ (baseNodeId, obs.viaId) → key ≠ (obs.viaId, obs.originId) →
        (s.touchWay now obs).links.lookup key = s.links.lookup key := by
  have hbase : ∀ key, key ≠ (baseNodeId, obs.viaId) →
      (s.touchLink baseNodeId obs.viaId now obs.rssi obs.source).links.lookup key =
        s.links.lookup key := by
    intro key hkey
    by_cases hne : baseNodeId = obs.viaId
    · rw [touchLink, if_pos hne]
    · exact (links_touchLink hne s now obs.rssi obs.source).2 key hkey
  unfold touchWay
  dsimp only
  by_cases hvia : obs.viaId ≠ obs.originId
  · rw [if_pos hvia]
    obtain ⟨hheard, hothers⟩ := links_touchLink hvia
      (s.touchLink baseNodeId obs.viaId now obs.rssi obs.source) now obs.rssi obs.source
    -- Neither of the two links is the other one.
    have hne : baseNodeId ≠ obs.viaId →
        (baseNodeId, obs.viaId) ≠ (obs.viaId, obs.originId) ∧
          (obs.viaId, obs.originId) ≠ (baseNodeId, obs.viaId) := by
      intro hne
      exact ⟨fun h => hne (Prod.ext_iff.1 h).1, fun h => hne (Prod.ext_iff.1 h).1.symm⟩
    refine ⟨fun hfar => ?_, fun _ => ?_, fun key hkey hkey' => ?_⟩
    · obtain ⟨link, hlink, hrest⟩ := (links_touchLink hfar s now obs.rssi obs.source).1
      exact ⟨link, (hothers _ (hne hfar).1).trans hlink, hrest⟩
    · obtain ⟨link, hlink, hlast, hrssi, hsource, hpackets⟩ := hheard
      refine ⟨link, hlink, hlast, hrssi, hsource, ?_⟩
      rw [hpackets, linkPackets, linkPackets]
      by_cases hfar : baseNodeId = obs.viaId
      · rw [touchLink, if_pos hfar]
      · rw [hbase _ (hne hfar).2]
    · rw [hothers key hkey', hbase key hkey]
  · rw [if_neg hvia]
    exact ⟨fun hfar => (links_touchLink hfar s now obs.rssi obs.source).1, fun h => absurd h hvia,
      fun key hkey _ => hbase key hkey⟩

theorem countPacket_eq : s.countPacket source =
    { s with
      radioPackets := s.radioPackets + if source = "sim" then 0 else 1
      simulatedPackets := s.simulatedPackets + if source = "sim" then 1 else 0 } := by
  unfold countPacket
  split_ifs
  · rw [add_zero]
  · rw [add_zero]

/-- Behind the node and the counters, the links and the event complete the observation. -/
theorem Observed.of_counted {s₂ : MeshState}
    (hnode : s₂.nodes.lookup obs.originId = some (f (s.node obs.originId)))
    (hothers : ∀ o, o ≠ obs.originId → s₂.node o = s.node o) (hlinks : s₂.links = s.links)
    (hevents : s₂.events = s.events)
    (hradio : s₂.radioPackets = s.radioPackets + if obs.source = "sim" then 0 else 1)
    (hsim : s₂.simulatedPackets = s.simulatedPackets + if obs.source = "sim" then 1 else 0)
    (hmalformed : s₂.malformedPackets = s.malformedPackets) :
    s.Observed ((s₂.touchWay now obs).appendEvent (.rx ts obs.originId obs.viaId obs.seq obs.rssi
      obs.source obs.messageType message (safeText obs.payload) obs.freq obs.bandwidth obs.mcsIndex))
      now ts obs message f := by
  obtain ⟨nodes, links, hway⟩ := s₂.touchWay_eq now obs
  obtain ⟨hbase, horigin, hother⟩ := s₂.links_touchWay now obs
  have hheard : ∀ {s₃ : MeshState} {fromId toId : ℤ},
      s₂.LinkHeard s₃ fromId toId now obs.rssi obs.source →
        s.LinkHeard s₃ fromId toId now obs.rssi obs.source := by
    rintro s₃ fromId toId ⟨link, hlink, hlast, hrssi, hsource, hpackets⟩
    refine ⟨link, hlink, hlast, hrssi, hsource, ?_⟩
    rw [hpackets, linkPackets, linkPackets, hlinks]
  refine ⟨lookup_touchWay hnode, fun o ho => node_touchWay.trans (hothers o ho), ?_, ?_, ?_, ?_, ?_,
    ?_, ?_⟩
  · exact (congrArg MeshState.radioPackets hway).trans hradio
  · exact (congrArg MeshState.simulatedPackets hway).trans hsim
  · exact (congrArg MeshState.malformedPackets hway).trans hmalformed
  · exact fun hne => hheard (hbase hne)
  · exact fun hne => hheard (horigin hne)
  · exact fun key hkey hkey' => (hother key hkey hkey').trans (by rw [hlinks])
  · rw [appendEvent, hway, ← hevents]

/-- **`record` is one complete observation.** -/
theorem observed_record : s.Observed (s.record now ts obs message f) now ts obs message f := by
  obtain ⟨nodes, hnodes⟩ := s.updateNode_ensureNode_eq obs.originId f
  have hlookup : nodes = ((s.ensureNode obs.originId).updateNode obs.originId f).nodes := by
    rw [hnodes]
  rw [record, hnodes, countPacket_eq]
  refine Observed.of_counted ?_ (fun o ho => ?_) rfl rfl rfl rfl rfl
  · rw [hlookup, lookup_updateNode_eq lookup_ensureNode_isSome, if_pos rfl, node_ensureNode]
  · rw [node, hlookup, lookup_updateNode_eq lookup_ensureNode_isSome, if_neg ho]
    exact node_ensureNode

end

end MeshState

/-! ### The calls -/

/-- All assignments of `ingest_observation` to the node. -/
def NodeRecord.observed (obs : Observation) (status : Status) (now : ℚ) (x y : Option JsonFloat)
    (battery : Option ℤ) (node : NodeRecord) : NodeRecord :=
  (((node.observe obs status now (status.message.getD obs.messageType)).setPlace x y).setBattery
    battery).countSeq obs.seq

section

variable {reader : StatusReader} {now ts : ℚ} {obs : Observation} {s : MeshState}
  {status : Status}

/-- **A status that is read is recorded.** -/
theorem ingestObservation_of_readable (hstatus : reader obs.payload = .ok status)
    {x y : Option JsonFloat} {battery : Option ℤ} (hx : status.x = .ok x) (hy : status.y = .ok y)
    (hbattery : status.battery = .ok battery) :
    ingestObservation reader now ts obs s = .ok () (s.record now ts obs
      (status.message.getD obs.messageType) (NodeRecord.observed obs status now x y battery)) := by
  rw [ingestObservation, PyM.lift_bind_of_eq_ok hstatus, PyM.modify_bind_apply,
    PyM.lift_bind_of_eq_ok hx, PyM.lift_bind_of_eq_ok hy, PyM.modify_bind_apply,
    PyM.lift_bind_of_eq_ok hbattery, PyM.modify_bind_apply, PyM.modify_bind_apply,
    PyM.modify_bind_apply, PyM.modify_bind_apply, MeshState.updateNode_updateNode,
    MeshState.updateNode_updateNode]
  rfl

/-- **A status with a number that overflows breaks off** where the node has its packet. -/
theorem ingestObservation_of_overflow (hstatus : reader obs.payload = .ok status)
    (honly : status.OnlyOverflows) (hno : ¬ status.Readable) :
    ∃ msg f, ingestObservation reader now ts obs s = .error (.overflowError msg)
        ((s.ensureNode obs.originId).updateNode obs.originId f) ∧
      ∀ node : NodeRecord, (f node).packets = node.packets + 1 ∧
        (f node).battery = node.battery := by
  rw [ingestObservation, PyM.lift_bind_of_eq_ok hstatus, PyM.modify_bind_apply]
  cases hx : status.x with
  | error error =>
    obtain ⟨msg, rfl⟩ := honly.x error hx
    exact ⟨msg, _, PyM.lift_bind_of_eq_error rfl _ _, fun _ => ⟨rfl, rfl⟩⟩
  | ok x =>
    rw [PyM.lift_bind_of_eq_ok rfl]
    cases hy : status.y with
    | error error =>
      obtain ⟨msg, rfl⟩ := honly.y error hy
      exact ⟨msg, _, PyM.lift_bind_of_eq_error rfl _ _, fun _ => ⟨rfl, rfl⟩⟩
    | ok y =>
      rw [PyM.lift_bind_of_eq_ok rfl, PyM.modify_bind_apply]
      cases hbattery : status.battery with
      | error error =>
        obtain ⟨msg, rfl⟩ := honly.battery error hbattery
        rw [PyM.lift_bind_of_eq_error rfl, MeshState.updateNode_updateNode]
        exact ⟨msg, _, rfl, fun _ => ⟨rfl, rfl⟩⟩
      | ok battery => exact absurd ⟨⟨x, hx⟩, ⟨y, hy⟩, battery, hbattery⟩ hno

end

/-! ### Frames -/

theorem observedPayload_onlyAppFrameError (messageType : ℤ) (payload : Bytes) :
    (observedPayload messageType payload).OnlyAppFrameError := by
  unfold observedPayload
  split_ifs
  · exact (decodeSyncPayload_onlyAppFrameError payload).bind fun _ _ => Py.onlyAppFrameError_ok _
  · exact Py.onlyAppFrameError_ok _

/-- The decoders raise nothing but `AppFrameError`, which is caught. -/
theorem observe_onlyAppFrameError (payload : Bytes) (metadata : WfbRxMeta) :
    (observe payload metadata).OnlyAppFrameError := by
  refine (decodeFrame_onlyAppFrameError payload false).bind fun frame _ => ?_
  dsimp only
  split_ifs
  · refine (decodeRouteDataPayload_onlyAppFrameError _).bind fun route _ => ?_
    exact (observedPayload_onlyAppFrameError _ _).bind fun _ _ => Py.onlyAppFrameError_ok _
  · exact (observedPayload_onlyAppFrameError _ _).bind fun _ _ => Py.onlyAppFrameError_ok _

/-- What `process_radio_payload` does with a frame. -/
inductive FrameOutcome (py : Interpreter) (now ts : ℚ) (payload : Bytes) (metadata : WfbRxMeta)
    (s : MeshState) : EStateM.Result PyError MeshState Unit → Prop
  | malformed (message : String)
      (hobs : observe payload metadata = .error (.appFrameError message)) :
      FrameOutcome py now ts payload metadata s (.ok () (s.ingestMalformed ts message))
  | observed (obs : Observation) (status : Status) (x y : Option JsonFloat) (battery : Option ℤ)
      (hobs : observe payload metadata = .ok obs) (hloads : ¬ LoadsRaises py.depthLimit obs.payload)
      (hnumbers : ¬ Overflows py.depthLimit obs.payload)
      (hstatus : readStatus py obs.payload = .ok status) (hx : status.x = .ok x)
      (hy : status.y = .ok y) (hbattery : status.battery = .ok battery) :
      FrameOutcome py now ts payload metadata s (.ok () (s.record now ts obs
        (status.message.getD obs.messageType) (NodeRecord.observed obs status now x y battery)))
  | unread (obs : Observation) (error : PyError) (hobs : observe payload metadata = .ok obs)
      (hloads : LoadsRaises py.depthLimit obs.payload) :
      FrameOutcome py now ts payload metadata s (.error error s)
  | brokenOff (obs : Observation) (msg : String) (f : NodeRecord → NodeRecord)
      (hobs : observe payload metadata = .ok obs) (hloads : ¬ LoadsRaises py.depthLimit obs.payload)
      (hnumbers : Overflows py.depthLimit obs.payload)
      (hf : ∀ node : NodeRecord, (f node).packets = node.packets + 1 ∧
        (f node).battery = node.battery) :
      FrameOutcome py now ts payload metadata s (.error (.overflowError msg)
        ((s.ensureNode obs.originId).updateNode obs.originId f))

section

variable {py : Interpreter} {now ts : ℚ} {payload : Bytes} {metadata : WfbRxMeta} {s : MeshState}

/-- The handler of `process_radio_payload` passes on what is no `AppFrameError`. -/
theorem processRadioPayload_of_observe {reader : StatusReader} {obs : Observation}
    (hobs : observe payload metadata = .ok obs)
    {result : EStateM.Result PyError MeshState Unit}
    (hingest : ingestObservation reader now ts obs s = result)
    (hother : ∀ msg s', result ≠ .error (.appFrameError msg) s') :
    processRadioPayload reader now ts payload metadata s = result := by
  have hbody : (do
      let obs ← observe payload metadata
      ingestObservation reader now ts obs : PyM MeshState Unit) s = result := by
    rw [PyM.lift_bind_of_eq_ok hobs]
    exact hingest
  rw [processRadioPayload, PyM.bind_apply, PyM.exceptAppFrameError, hbody]
  cases result with
  | ok value s' => rfl
  | error error s' =>
    cases error with
    | appFrameError msg => exact absurd rfl (hother msg s')
    | _ => rfl

/-- **Every frame ends in one of the four ways.** -/
theorem processRadioPayload_outcome : FrameOutcome py now ts payload metadata s
    (processRadioPayload (readStatus py) now ts payload metadata s) := by
  cases hobs : observe payload metadata with
  | error error =>
    obtain ⟨message, rfl⟩ := observe_onlyAppFrameError payload metadata error hobs
    have hbody : (do
        let obs ← observe payload metadata
        ingestObservation (readStatus py) now ts obs : PyM MeshState Unit) s =
          .error (.appFrameError message) s := PyM.lift_bind_of_eq_error hobs _ _
    rw [processRadioPayload, PyM.bind_apply, PyM.exceptAppFrameError, hbody]
    exact .malformed message hobs
  | ok obs =>
    obtain ⟨hloads, error, hstatus, hother⟩ | ⟨hloads, status, hstatus, honly, hiff⟩ :=
      readStatus_cases py obs.payload
    · have hingest : ingestObservation (readStatus py) now ts obs s = .error error s := by
        rw [ingestObservation]
        exact PyM.lift_bind_of_eq_error hstatus _ _
      rw [processRadioPayload_of_observe hobs hingest fun msg s' h =>
        hother msg (EStateM.Result.error.inj h).1]
      exact .unread obs error hobs hloads
    · by_cases hreadable : status.Readable
      · obtain ⟨⟨x, hx⟩, ⟨y, hy⟩, battery, hbattery⟩ := id hreadable
        rw [processRadioPayload_of_observe hobs
          (ingestObservation_of_readable hstatus hx hy hbattery) fun _ _ h => by cases h]
        exact .observed obs status x y battery hobs hloads (hiff.1 hreadable) hstatus hx hy hbattery
      · obtain ⟨msg, f, hingest, hf⟩ :=
          @ingestObservation_of_overflow (readStatus py) now ts obs s status hstatus honly hreadable
        rw [processRadioPayload_of_observe hobs hingest fun msg' s' h =>
          PyError.noConfusion (EStateM.Result.error.inj h).1]
        exact .brokenOff obs msg f hobs hloads (not_not.1 fun h => hreadable (hiff.2 h)) hf

/-- `process_radio_payload` returns, and has recorded one complete observation or one malformed
event. -/
def Survives (py : Interpreter) (now ts : ℚ) (payload : Bytes) (metadata : WfbRxMeta)
    (s : MeshState) : Prop :=
  ∃ s', processRadioPayload (readStatus py) now ts payload metadata s = .ok () s' ∧
    ((∃ message, s' = s.ingestMalformed ts message) ∨
      ∃ obs status x y battery, observe payload metadata = .ok obs ∧
        readStatus py obs.payload = .ok status ∧ status.x = .ok x ∧ status.y = .ok y ∧
        status.battery = .ok battery ∧
        s.Observed s' now ts obs (status.message.getD obs.messageType)
          (NodeRecord.observed obs status now x y battery))

/-- What the frame says, if it is an application frame: `json.loads` raises nothing but
`JSONDecodeError` on it, and no number in it overflows. -/
def Harmless (depthLimit : ℕ) (payload : Bytes) (metadata : WfbRxMeta) : Prop :=
  ∀ obs, observe payload metadata = .ok obs →
    ¬ LoadsRaises depthLimit obs.payload ∧ ¬ Overflows depthLimit obs.payload

instance (depthLimit : ℕ) (payload : Bytes) (metadata : WfbRxMeta) :
    Decidable (Harmless depthLimit payload metadata) :=
  inferInstanceAs (Decidable (∀ obs, observe payload metadata = .ok obs → _))

/-- **The dashboard survives the harmless frames**, in every state, and no others. -/
theorem survives_iff :
    Survives py now ts payload metadata s ↔ Harmless py.depthLimit payload metadata := by
  have houtcome := @processRadioPayload_outcome py now ts payload metadata s
  unfold Survives Harmless
  generalize processRadioPayload (readStatus py) now ts payload metadata s = result at houtcome ⊢
  cases houtcome with
  | malformed message hobs =>
    refine iff_of_true ⟨_, rfl, Or.inl ⟨message, rfl⟩⟩ fun obs hobs' => ?_
    cases hobs.symm.trans hobs'
  | observed obs status x y battery hobs hloads hnumbers hstatus hx hy hbattery =>
    refine iff_of_true ⟨_, rfl, Or.inr ⟨obs, status, x, y, battery, hobs, hstatus, hx, hy, hbattery,
      MeshState.observed_record⟩⟩ fun obs' hobs' => ?_
    obtain rfl := Except.ok.inj (hobs.symm.trans hobs')
    exact ⟨hloads, hnumbers⟩
  | unread obs error hobs hloads =>
    exact iff_of_false (fun ⟨_, h, _⟩ => nomatch h) fun h => (h obs hobs).1 hloads
  | brokenOff obs msg f hobs hloads hnumbers hf =>
    exact iff_of_false (fun ⟨_, h, _⟩ => nomatch h) fun h => (h obs hobs).2 hnumbers

end

end KovaWfb
