/-
# The threads of the dashboard

`main` of `demo/dashboard_server.py` reads the node configuration (312 to 335) and starts
threads that call the operations of one `MeshState`, each under its lock: the radio loop (718 to
816), the simulation (819 to 883) and the handlers of requests (921 to 950).  A run is any
sequence of these calls, in the order in which they get the lock.  An exception in
`process_radio_payload` ends the radio loop, with its text as the radio error.

`dashboard_survives_iff`: which frames the dashboard survives, and what stays consistent in
every state that a run reaches.
-/

import KovaWfb.Demo.Observation

namespace KovaWfb

/-! ### The configuration -/

/-- `config.get("nodes", [])`; the items of a text or an object are texts, which are skipped. -/
def configNodes : JsonDoc → Py (List JsonDoc)
  | .obj config =>
      match DocFields.get config "nodes" with
      | none | some (.str _) | some (.obj _) => pure []
      | some (.arr nodes) => pure nodes
      | some value => .error (.typeError ("'" ++ value.toJson.typeName ++ "' object is not iterable"))
  | value => .error (.attributeError
      ("'" ++ value.toJson.typeName ++ "' object has no attribute 'get'"))

/-- `node.label = ...`, `node.kind = ...` and `node.role = ...` of a configured node. -/
def NodeRecord.configure (py : Interpreter) (rawNode : DocFields) (node : NodeRecord) :
    NodeRecord :=
  { node with
    label := ((rawNode.get "label").map py.str).getD node.label
    kind := ((rawNode.get "kind").map py.str).getD node.kind
    role := ((rawNode.get "role").map py.str).getD node.role }

/-- A configured node. -/
def applyNode (py : Interpreter) : JsonDoc → PyM MeshState Unit
  | .obj rawNode => do
      match ← coerceInt (DocFields.value rawNode "id") with
      | none => pure ()
      | some nodeId => do
        modify fun s => (s.ensureNode nodeId).updateNode nodeId (NodeRecord.configure py rawNode)
        let x ← coerceFloat (DocFields.value rawNode "x")
        let y ← coerceFloat (DocFields.value rawNode "y")
        modify fun s => s.updateNode nodeId (NodeRecord.setPlace x y)
  | _ => pure ()

/-- The loop of `apply_node_config`. -/
def applyNodes (py : Interpreter) : List JsonDoc → PyM MeshState Unit
  | [] => pure ()
  | rawNode :: rest => do
    applyNode py rawNode
    applyNodes py rest

/-- `apply_node_config`. -/
def applyNodeConfig (py : Interpreter) (config : JsonDoc) : PyM MeshState Unit := do
  let nodes ← configNodes config
  applyNodes py nodes

/-! ### Calls -/

/-- A frame of `sim_loop`, from `json.dumps` on: it is read back. -/
structure SimReport (py : Interpreter) where
  nodeId : ℤ
  viaId : ℤ
  seq : ℤ
  rssi : ℤ
  label : CodePoints
  x : JsonFloat
  y : JsonFloat
  battery : ℤ
  payload : Bytes
  reads : loadsText py.depthLimit (safeText payload).toList = .ok (.obj
    [(codePoints "id", .int nodeId), (codePoints "label", .str label),
     (codePoints "kind", .str (codePoints "simulated")), (codePoints "x", .float x),
     (codePoints "y", .float y), (codePoints "battery", .int battery),
     (codePoints "state", .str (codePoints "online")),
     (codePoints "message", .str (codePoints "heartbeat"))])

/-- The arguments that `sim_loop` calls `ingest_observation` with. -/
def SimReport.observation {py : Interpreter} (report : SimReport py) : Observation where
  originId := report.nodeId
  viaId := report.viaId
  seq := some report.seq
  payload := report.payload
  messageType := "status"
  rssi := some report.rssi
  freq := some 5180
  bandwidth := some 20
  mcsIndex := some 1
  source := "sim"
  kind := "simulated"

/-- One call: of the radio loop, of the simulation, of a request. -/
inductive DashboardInput (py : Interpreter)
  | frame (now ts : ℚ) (payload : Bytes) (metadata : WfbRxMeta)
  | radioStatus (ts : ℚ) (status : String) (error : Option String)
  | radioChannel (channel slot nextHopMs : Option ℤ)
  | radioEnds (ts : ℚ) (error : String)
  | nodeMeta (nodeId : ℤ)
  | simulated (now ts : ℚ) (report : SimReport py)
  | jam (ts : ℚ) (nodeId : ℤ) (jammed : Bool)
  | reset (ts : ℚ)

/-- The state, and whether the radio loop runs. -/
structure Dashboard where
  mesh : MeshState
  receiving : Bool

/-- `f"{type(exc).__name__}: {exc}"`; the `RuntimeError` of `json.loads` is `RecursionError`. -/
def PyError.shown : PyError → String
  | .appFrameError msg => "AppFrameError: " ++ msg
  | .valueError msg => "ValueError: " ++ msg
  | .structError msg => "error: " ++ msg
  | .typeError msg => "TypeError: " ++ msg
  | .attributeError msg => "AttributeError: " ++ msg
  | .indexError msg => "IndexError: " ++ msg
  | .overflowError msg => "OverflowError: " ++ msg
  | .runtimeError msg => "RecursionError: " ++ msg
  | .wfbRsError msg => "WfbRsError: " ++ msg

namespace Dashboard

variable {py : Interpreter}

/-- `main` up to the start of the threads; `none` of them runs when this raises. -/
def start (py : Interpreter) (now : ℚ) (config : JsonDoc) (receiving : Bool) : Py Dashboard :=
  match applyNodeConfig py config (.initial now) with
  | .ok () mesh => .ok { mesh, receiving }
  | .error error _ => .error error

/-- A call of the radio loop, which is made as long as it runs. -/
def onRadio (d : Dashboard) (call : MeshState → Dashboard) : Dashboard :=
  if d.receiving then call d.mesh else d

/-- One call; the last lines of `radio_loop` follow one that raises. -/
def step (d : Dashboard) : DashboardInput py → Dashboard
  | .frame now ts payload metadata => d.onRadio fun mesh =>
      match processRadioPayload (readStatus py) now ts payload metadata mesh with
      | .ok () mesh => { mesh, receiving := true }
      | .error error mesh =>
          { mesh := mesh.setRadioStatus ts "error" (some error.shown), receiving := false }
  | .radioStatus ts status error => d.onRadio fun mesh =>
      { mesh := mesh.setRadioStatus ts status error, receiving := true }
  | .radioChannel channel slot nextHopMs => d.onRadio fun mesh =>
      { mesh := mesh.setRadioChannel channel slot nextHopMs, receiving := true }
  | .radioEnds ts error => d.onRadio fun mesh =>
      { mesh := mesh.setRadioStatus ts "error" (some error), receiving := false }
  | .nodeMeta nodeId => { d with mesh := d.mesh.ensureNode nodeId }
  | .simulated now ts report =>
      { d with mesh :=
          resultState (ingestObservation (readStatus py) now ts report.observation d.mesh) }
  | .jam ts nodeId jammed => { d with mesh := d.mesh.setSimJammed ts nodeId jammed }
  | .reset ts => { d with mesh := d.mesh.resetSim ts }

/-- A run. -/
def run (d : Dashboard) (inputs : List (DashboardInput py)) : Dashboard := inputs.foldl step d

end Dashboard

/-! ### What stays consistent -/

namespace MeshState

/-- Every link joins two distinct nodes that are there. -/
def LinksJoin (s : MeshState) : Prop :=
  ∀ entry ∈ s.links, entry.2.fromId ≠ entry.2.toId ∧
    (s.nodes.lookup entry.2.fromId).isSome ∧ (s.nodes.lookup entry.2.toId).isSome

end MeshState

/-- The battery is `None` or a percentage. -/
def NodeRecord.BatteryBounded (node : NodeRecord) : Prop :=
  ∀ battery, node.battery = some battery → 0 ≤ battery ∧ battery ≤ 100

namespace MeshState

/-- Every battery is `None` or a percentage. -/
def BatteriesBounded (s : MeshState) : Prop := ∀ entry ∈ s.nodes, entry.2.BatteryBounded

/-- The packets of all nodes. -/
def nodePackets (s : MeshState) : ℤ := (s.nodes.map fun entry => entry.2.packets).sum

/-- Links and batteries are as they should be, and the nodes have some packets more than the
counters. -/
structure Consistent (s : MeshState) (surplus : ℤ) : Prop where
  links : s.LinksJoin
  batteries : s.BatteriesBounded
  packets : s.nodePackets = s.radioPackets + s.simulatedPackets + surplus

variable {s s' : MeshState} {surplus : ℤ} {nodeId : ℤ} {f : NodeRecord → NodeRecord}

/-- Nothing of it is in the events or in the radio status. -/
theorem Consistent.of_eq (h : s.Consistent surplus) (hnodes : s'.nodes = s.nodes)
    (hlinks : s'.links = s.links) (hradio : s'.radioPackets = s.radioPackets)
    (hsim : s'.simulatedPackets = s.simulatedPackets) : s'.Consistent surplus := by
  obtain ⟨hl, hb, hp⟩ := h
  refine ⟨?_, ?_, ?_⟩
  · rw [LinksJoin, hlinks, hnodes]
    exact hl
  · rw [BatteriesBounded, hnodes]
    exact hb
  · rw [nodePackets, hnodes, hradio, hsim]
    exact hp

/-- One record is new or assigned to. -/
theorem Consistent.setNode (h : s.Consistent surplus) {record : NodeRecord}
    (hbattery : record.BatteryBounded) {packets : ℤ}
    (hpackets : record.packets =
      ((s.nodes.lookup nodeId).map NodeRecord.packets).getD 0 + packets) :
    { s with nodes := dictSet nodeId record s.nodes }.Consistent (surplus + packets) := by
  obtain ⟨hl, hb, hp⟩ := h
  refine ⟨fun entry hentry => ?_, fun entry hentry => ?_, ?_⟩
  · obtain ⟨hne, hfrom, hto⟩ := hl entry hentry
    have hthere : ∀ o, (s.nodes.lookup o).isSome →
        ((dictSet nodeId record s.nodes).lookup o).isSome := by
      intro o ho
      rw [lookup_dictSet]
      split_ifs
      · rfl
      · exact ho
    exact ⟨hne, hthere _ hfrom, hthere _ hto⟩
  · obtain rfl | hentry := mem_of_mem_dictSet hentry
    · exact hbattery
    · exact hb entry hentry
  · have hsum := sum_dictSet NodeRecord.packets nodeId record s.nodes
    rw [nodePackets] at hp
    rw [nodePackets]
    dsimp only
    omega

theorem Consistent.ensureNode (h : s.Consistent surplus) (nodeId : ℤ) :
    (s.ensureNode nodeId).Consistent surplus := by
  unfold MeshState.ensureNode
  split_ifs with hthere
  · exact h
  · refine add_zero surplus ▸ h.setNode
      (fun battery h => absurd h.symm (Option.some_ne_none battery)) ?_
    rw [Option.not_isSome_iff_eq_none.1 hthere]
    rfl

theorem Consistent.updateNode (h : s.Consistent surplus) {packets : ℤ}
    (hnode : (s.nodes.lookup nodeId).isSome)
    (hbattery : ∀ node : NodeRecord, node.BatteryBounded → (f node).BatteryBounded)
    (hpackets : ∀ node : NodeRecord, (f node).packets = node.packets + packets) :
    (s.updateNode nodeId f).Consistent (surplus + packets) := by
  obtain ⟨node, hlookup⟩ := Option.isSome_iff_exists.1 hnode
  rw [MeshState.updateNode, hlookup]
  refine h.setNode (hbattery node (h.batteries (nodeId, node) (mem_of_lookup hlookup))) ?_
  rw [hlookup, hpackets]
  rfl

theorem Consistent.countPacket (h : s.Consistent surplus) (source : String) :
    (s.countPacket source).Consistent (surplus - 1) := by
  refine ⟨?_, ?_, ?_⟩
  · rw [countPacket_eq]
    exact h.links
  · rw [countPacket_eq]
    exact h.batteries
  · rw [countPacket_eq, nodePackets]
    have hpackets := h.packets
    rw [nodePackets] at hpackets
    dsimp only
    split_ifs <;> omega

/-- One link is new or assigned to. -/
theorem Consistent.setLink (h : s.Consistent surplus) {key : ℤ × ℤ} {link : LinkRecord}
    (hne : link.fromId ≠ link.toId) (hfrom : (s.nodes.lookup link.fromId).isSome)
    (hto : (s.nodes.lookup link.toId).isSome) :
    { s with links := dictSet key link s.links }.Consistent surplus := by
  refine ⟨fun entry hentry => ?_, h.batteries, h.packets⟩
  obtain rfl | hentry := mem_of_mem_dictSet hentry
  · exact ⟨hne, hfrom, hto⟩
  · exact h.links entry hentry

theorem Consistent.touchLink (h : s.Consistent surplus) {fromId toId : ℤ} {now : ℚ}
    {rssi : Option ℤ} {source : String} :
    (s.touchLink fromId toId now rssi source).Consistent surplus := by
  have hensured := (h.ensureNode fromId).ensureNode toId
  unfold MeshState.touchLink
  split_ifs with hne
  · exact h
  · dsimp only
    split
    · refine hensured.setLink hne ?_ lookup_ensureNode_isSome
      rw [lookup_ensureNode_eq, node_ensureNode]
      split_ifs
      · rfl
      · exact lookup_ensureNode_isSome
    · rename_i link hlink
      obtain ⟨hne', hfrom, hto⟩ := hensured.links _ (mem_of_lookup hlink)
      exact hensured.setLink hne' hfrom hto

theorem Consistent.touchWay (h : s.Consistent surplus) (now : ℚ) (obs : Observation) :
    (s.touchWay now obs).Consistent surplus := by
  unfold MeshState.touchWay
  dsimp only
  split_ifs
  · exact h.touchLink.touchLink
  · exact h.touchLink

/-- **A complete observation keeps the count.** -/
theorem Consistent.record (h : s.Consistent surplus) {now ts : ℚ} {obs : Observation}
    {message : String}
    (hbattery : ∀ node : NodeRecord, node.BatteryBounded → (f node).BatteryBounded)
    (hpackets : ∀ node : NodeRecord, (f node).packets = node.packets + 1) :
    (s.record now ts obs message f).Consistent surplus := by
  have hcounted := ((h.ensureNode obs.originId).updateNode lookup_ensureNode_isSome
    hbattery hpackets).countPacket obs.source
  rw [add_sub_cancel_right] at hcounted
  exact (hcounted.touchWay now obs).of_eq rfl rfl rfl rfl

theorem Consistent.setRadioStatus (h : s.Consistent surplus) {ts : ℚ} {status : String}
    {error : Option String} : (s.setRadioStatus ts status error).Consistent surplus := by
  unfold MeshState.setRadioStatus
  cases error with
  | none => exact h.of_eq rfl rfl rfl rfl
  | some error =>
    dsimp only
    split_ifs
    · exact h.of_eq rfl rfl rfl rfl
    · exact h.of_eq rfl rfl rfl rfl

theorem Consistent.setRadioChannel (h : s.Consistent surplus) {channel slot nextHopMs : Option ℤ} :
    (s.setRadioChannel channel slot nextHopMs).Consistent surplus := h.of_eq rfl rfl rfl rfl

theorem Consistent.setSimJammed (h : s.Consistent surplus) {ts : ℚ} {jammed : Bool} :
    (s.setSimJammed ts nodeId jammed).Consistent surplus := h.of_eq rfl rfl rfl rfl

theorem Consistent.resetSim (h : s.Consistent surplus) {ts : ℚ} :
    (s.resetSim ts).Consistent surplus := h.of_eq rfl rfl rfl rfl

end MeshState

theorem NodeRecord.countSeq_keeps (node : NodeRecord) (seq : Option ℤ) :
    (node.countSeq seq).battery = node.battery ∧ (node.countSeq seq).packets = node.packets := by
  cases seq with
  | none => exact ⟨rfl, rfl⟩
  | some seq =>
    rw [NodeRecord.countSeq]
    cases node.lastSeq with
    | none => exact ⟨rfl, rfl⟩
    | some lastSeq =>
      dsimp only
      split_ifs <;> exact ⟨rfl, rfl⟩

/-- All assignments to a node: one packet more, and a percentage at most. -/
theorem NodeRecord.observed_spec (obs : Observation) (status : Status) (now : ℚ)
    (x y : Option JsonFloat) (battery : Option ℤ) (node : NodeRecord) :
    (node.observed obs status now x y battery).packets = node.packets + 1 ∧
      (node.BatteryBounded → (node.observed obs status now x y battery).BatteryBounded) := by
  obtain ⟨hbattery, hpackets⟩ := NodeRecord.countSeq_keeps
    (((node.observe obs status now (status.message.getD obs.messageType)).setPlace x y).setBattery
      battery) obs.seq
  cases battery with
  | none => exact ⟨hpackets, fun h level hlevel => h level (hbattery.symm.trans hlevel)⟩
  | some battery =>
    refine ⟨hpackets, fun _ level hlevel => ?_⟩
    obtain rfl := Option.some.inj (hbattery.symm.trans hlevel)
    omega

namespace Dashboard

variable {py : Interpreter} {d : Dashboard} {surplus : ℤ}

/-- A node of the configuration has no packets. -/
theorem consistent_applyNode {rawNode : JsonDoc} {s s' : MeshState} (hs : s.Consistent surplus)
    (h : applyNode py rawNode s = .ok () s') : s'.Consistent surplus := by
  cases rawNode with
  | obj rawNode =>
    obtain ⟨nodeId, hid, h⟩ := PyM.lift_bind_eq_ok.1 h
    cases nodeId with
    | none =>
      obtain ⟨-, rfl⟩ := EStateM.Result.ok.inj h
      exact hs
    | some nodeId =>
      dsimp only at h
      rw [PyM.modify_bind_apply] at h
      obtain ⟨x, -, h⟩ := PyM.lift_bind_eq_ok.1 h
      obtain ⟨y, -, h⟩ := PyM.lift_bind_eq_ok.1 h
      obtain ⟨-, rfl⟩ := EStateM.Result.ok.inj h
      dsimp only
      rw [MeshState.updateNode_updateNode]
      exact add_zero surplus ▸ (hs.ensureNode nodeId).updateNode
        MeshState.lookup_ensureNode_isSome (fun _ hnode => hnode) fun _ => (add_zero _).symm
  | _ =>
    obtain ⟨-, rfl⟩ := EStateM.Result.ok.inj h
    exact hs

theorem consistent_applyNodes {rawNodes : List JsonDoc} {s s' : MeshState}
    (hs : s.Consistent surplus) (h : applyNodes py rawNodes s = .ok () s') :
    s'.Consistent surplus := by
  induction rawNodes generalizing s with
  | nil =>
    obtain ⟨-, rfl⟩ := EStateM.Result.ok.inj h
    exact hs
  | cons rawNode rest ih =>
    obtain ⟨_, s₁, hnode, hrest⟩ := PyM.bind_eq_ok.1 h
    exact ih (consistent_applyNode hs hnode) hrest

/-- **The state in front of the threads** is consistent. -/
theorem consistent_start {now : ℚ} {config : JsonDoc} {receiving : Bool}
    (h : start py now config receiving = .ok d) : d.mesh.Consistent 0 := by
  have hinitial : (MeshState.initial now).Consistent 0 := by
    refine ⟨fun entry hentry => absurd hentry List.not_mem_nil, fun entry hentry => ?_, rfl⟩
    obtain rfl := List.mem_singleton.1 hentry
    exact fun battery h => absurd h.symm (Option.some_ne_none battery)
  unfold start at h
  split at h
  · rename_i mesh hconfig
    obtain rfl := Except.ok.inj h
    obtain ⟨nodes, -, hnodes⟩ := PyM.lift_bind_eq_ok.1 hconfig
    exact consistent_applyNodes hinitial hnodes
  · cases h

end Dashboard

section

variable {py : Interpreter}

/-- What is read back of a frame of the simulation. -/
def SimReport.fields (report : SimReport py) : DocFields :=
  [(codePoints "id", .int report.nodeId), (codePoints "label", .str report.label),
   (codePoints "kind", .str (codePoints "simulated")), (codePoints "x", .float report.x),
   (codePoints "y", .float report.y), (codePoints "battery", .int report.battery),
   (codePoints "state", .str (codePoints "online")),
   (codePoints "message", .str (codePoints "heartbeat"))]

theorem SimReport.parse (report : SimReport py) :
    parseStatusPayload py.depthLimit report.payload = .ok report.fields := by
  have hreads := report.reads
  unfold parseStatusPayload
  dsimp only
  rw [if_neg, hreads]
  · rfl
  · intro hempty
    rw [hempty] at hreads
    cases hreads

/-- No number of it overflows. -/
theorem SimReport.readable (report : SimReport py) :
    ∃ status, readStatus py report.payload = .ok status ∧ status.Readable := by
  obtain ⟨⟨error, hraises⟩, -⟩ | ⟨-, status, hstatus, -, hiff⟩ := readStatus_cases py report.payload
  · cases hraises.symm.trans report.reads
  · refine ⟨status, hstatus, hiff.2 ?_⟩
    rintro ⟨fields, hfields, hbad⟩
    obtain rfl := Except.ok.inj (report.parse.symm.trans hfields)
    obtain h | h | h := hbad
    · exact h
    · exact h
    · exact h

/-- A call that is no frame with a number that overflows. -/
def DashboardInput.Counts : DashboardInput py → Prop
  | .frame _ _ payload metadata => ∀ obs, observe payload metadata = .ok obs →
      ¬ Overflows py.depthLimit obs.payload
  | _ => True

instance : (input : DashboardInput py) → Decidable input.Counts
  | .frame _ _ payload metadata => inferInstanceAs (Decidable (∀ obs,
      observe payload metadata = .ok obs → ¬ Overflows py.depthLimit obs.payload))
  | .radioStatus .. | .radioChannel .. | .radioEnds .. | .nodeMeta .. | .simulated .. | .jam ..
  | .reset .. => .isTrue trivial

end

namespace Dashboard

variable {py : Interpreter} {d : Dashboard} {surplus : ℤ}

/-- The radio loop takes no frame with a number that overflows. -/
def Counts (d : Dashboard) : List (DashboardInput py) → Prop
  | [] => True
  | input :: rest => (d.receiving = true → input.Counts) ∧ (d.step input).Counts rest

instance Counts.decidable :
    (inputs : List (DashboardInput py)) → (d : Dashboard) → Decidable (d.Counts inputs)
  | [], _ => .isTrue trivial
  | input :: rest, d =>
    have := decidable rest (d.step input)
    inferInstanceAs (Decidable ((d.receiving = true → input.Counts) ∧ (d.step input).Counts rest))

/-- A frame of the simulation is observed. -/
theorem consistent_simulated (hs : d.mesh.Consistent surplus) (now ts : ℚ) (report : SimReport py) :
    (d.step (.simulated now ts report)).mesh.Consistent surplus := by
  obtain ⟨status, hstatus, ⟨x, hx⟩, ⟨y, hy⟩, battery, hbattery⟩ := report.readable
  have hingest := @ingestObservation_of_readable (readStatus py) now ts report.observation d.mesh
    status hstatus x y battery hx hy hbattery
  rw [step, hingest]
  exact hs.record (fun node => (node.observed_spec _ _ _ _ _ _).2)
    fun node => (node.observed_spec _ _ _ _ _ _).1

/-- A frame counts once for its node and once for the radio, unless a number in it overflows,
when the radio loop ends. -/
theorem consistent_frame (hs : d.mesh.Consistent surplus) (hreceiving : d.receiving = true)
    (now ts : ℚ) (payload : Bytes) (metadata : WfbRxMeta) (input : DashboardInput py)
    (hinput : input = .frame now ts payload metadata) :
    (input.Counts ∧ (d.step input).mesh.Consistent surplus) ∨
      (¬ input.Counts ∧ (d.step input).mesh.Consistent (surplus + 1) ∧
        (d.step input).receiving = false) := by
  subst hinput
  have houtcome := @processRadioPayload_outcome py now ts payload metadata d.mesh
  rw [step, onRadio, if_pos hreceiving]
  generalize processRadioPayload (readStatus py) now ts payload metadata d.mesh = result
    at houtcome ⊢
  cases houtcome with
  | malformed message hobs =>
    refine Or.inl ⟨fun obs hobs' => ?_, hs.of_eq rfl rfl rfl rfl⟩
    cases hobs.symm.trans hobs'
  | observed obs status x y battery hobs hloads hnumbers hstatus hx hy hbattery =>
    refine Or.inl ⟨fun obs' hobs' => ?_, ?_⟩
    · obtain rfl := Except.ok.inj (hobs.symm.trans hobs')
      exact hnumbers
    · exact hs.record (fun node => (node.observed_spec _ _ _ _ _ _).2)
        fun node => (node.observed_spec _ _ _ _ _ _).1
  | unread obs error hobs hloads =>
    refine Or.inl ⟨fun obs' hobs' => ?_, ?_⟩
    · obtain rfl := Except.ok.inj (hobs.symm.trans hobs')
      exact not_overflows_of_loadsRaises hloads
    · dsimp only
      exact hs.setRadioStatus
  | brokenOff obs msg f hobs hloads hnumbers hf =>
    refine Or.inr ⟨fun h => h obs hobs hnumbers, ?_, rfl⟩
    dsimp only
    refine MeshState.Consistent.setRadioStatus ?_
    refine (hs.ensureNode obs.originId).updateNode
      MeshState.lookup_ensureNode_isSome (fun node hnode battery h => ?_) fun node => (hf node).1
    exact hnode battery ((hf node).2.symm.trans h)

/-- **One call** keeps everything, unless it is a frame with a number that overflows. -/
theorem consistent_step (hs : d.mesh.Consistent surplus) (input : DashboardInput py) :
    ((d.receiving = true → input.Counts) ∧ (d.step input).mesh.Consistent surplus) ∨
      (¬ (d.receiving = true → input.Counts) ∧ (d.step input).mesh.Consistent (surplus + 1) ∧
        (d.step input).receiving = false) := by
  have honRadio : ∀ call : MeshState → Dashboard, (call d.mesh).mesh.Consistent surplus →
      (d.onRadio call).mesh.Consistent surplus := by
    intro call hcall
    unfold onRadio
    split_ifs
    · exact hcall
    · exact hs
  cases input with
  | frame now ts payload metadata =>
    by_cases hreceiving : d.receiving = true
    · rw [forall_prop_of_true hreceiving]
      exact consistent_frame hs hreceiving now ts payload metadata _ rfl
    · rw [step, onRadio, if_neg hreceiving]
      exact Or.inl ⟨fun h => absurd h hreceiving, hs⟩
  | radioStatus ts status error =>
    refine Or.inl ⟨fun _ => trivial, honRadio _ ?_⟩
    exact hs.setRadioStatus
  | radioChannel channel slot nextHopMs =>
    refine Or.inl ⟨fun _ => trivial, honRadio _ ?_⟩
    exact hs.setRadioChannel
  | radioEnds ts error =>
    refine Or.inl ⟨fun _ => trivial, honRadio _ ?_⟩
    dsimp only
    exact hs.setRadioStatus
  | nodeMeta nodeId => exact Or.inl ⟨fun _ => trivial, hs.ensureNode nodeId⟩
  | simulated now ts report =>
    exact Or.inl ⟨fun _ => trivial, consistent_simulated hs now ts report⟩
  | jam ts nodeId jammed => exact Or.inl ⟨fun _ => trivial, hs.setSimJammed⟩
  | reset ts => exact Or.inl ⟨fun _ => trivial, hs.resetSim⟩

/-- Once the radio loop has ended, no frame comes. -/
theorem counts_of_not_receiving {inputs : List (DashboardInput py)} (h : d.receiving = false) :
    d.Counts inputs := by
  induction inputs generalizing d with
  | nil => trivial
  | cons input rest ih =>
    refine ⟨fun h' => Bool.noConfusion (h'.symm.trans h), ih ?_⟩
    cases input with
    | frame | radioStatus | radioChannel | radioEnds =>
      rw [step, onRadio, h]
      exact h
    | nodeMeta | simulated | jam | reset =>
      dsimp only [step]
      exact h

/-- **A run** keeps the count as long as the radio loop takes no frame with a number that
overflows, and is one packet off from then on. -/
theorem consistent_run (hs : d.mesh.Consistent surplus) (inputs : List (DashboardInput py)) :
    (d.Counts inputs ∧ (d.run inputs).mesh.Consistent surplus) ∨
      (¬ d.Counts inputs ∧ (d.run inputs).mesh.Consistent (surplus + 1)) := by
  induction inputs generalizing d surplus with
  | nil => exact Or.inl ⟨trivial, hs⟩
  | cons input rest ih =>
    obtain ⟨hcounts, hstep⟩ | ⟨hcounts, hstep, hended⟩ := consistent_step hs input
    · obtain ⟨hrest, hrun⟩ | ⟨hrest, hrun⟩ := ih hstep
      · exact Or.inl ⟨⟨hcounts, hrest⟩, hrun⟩
      · exact Or.inr ⟨fun h => hrest h.2, hrun⟩
    · obtain ⟨-, hrun⟩ | ⟨hrest, -⟩ := ih hstep
      · exact Or.inr ⟨fun h => hcounts h.1, hrun⟩
      · exact absurd (counts_of_not_receiving hended) hrest

end Dashboard

/-- **What the dashboard survives, and what stays consistent.**  In every state, a frame is
recorded as one observation or one malformed event exactly when it is harmless.  In every state
of every run, links join distinct nodes and batteries are percentages; and the packets of the
nodes are those of the counters exactly as long as the radio loop took no frame with a number
that overflows. -/
theorem dashboard_survives_iff (py : Interpreter) :
    (∀ now ts payload metadata s,
        Survives py now ts payload metadata s ↔ Harmless py.depthLimit payload metadata) ∧
      ∀ now config receiving d, Dashboard.start py now config receiving = .ok d →
        ∀ inputs : List (DashboardInput py),
          (d.run inputs).mesh.LinksJoin ∧ (d.run inputs).mesh.BatteriesBounded ∧
            ((d.run inputs).mesh.nodePackets =
                (d.run inputs).mesh.radioPackets + (d.run inputs).mesh.simulatedPackets ↔
              d.Counts inputs) := by
  refine ⟨fun now ts payload metadata s => survives_iff,
    fun now config receiving d hstart inputs => ?_⟩
  obtain ⟨hcounts, hrun⟩ | ⟨hcounts, hrun⟩ :=
    Dashboard.consistent_run (Dashboard.consistent_start hstart) inputs
  · exact ⟨hrun.links, hrun.batteries, iff_of_true (hrun.packets.trans (add_zero _)) hcounts⟩
  · refine ⟨hrun.links, hrun.batteries, iff_of_false (fun h => ?_) hcounts⟩
    have hpackets := hrun.packets
    omega

/-! ### Runs -/

/-- Nothing is shown by `repr` in the samples. -/
def sampleInterpreter : Interpreter := ⟨900, fun _ => ""⟩

/-- A status frame of node 2. -/
def statusFrame (text : String) : Bytes :=
  AppFrame.bytes ⟨version, msgStatus, 2, 0, 1, text.toList.map fun c => UInt8.ofNat c.toNat⟩

/-- The text of the first frame of the simulation. -/
def simText : String :=
  "\x7b\"id\":1,\"label\":\"TX-1\",\"kind\":\"simulated\",\"x\":0.5,\"y\":0.5," ++
    "\"battery\":96,\"state\":\"online\",\"message\":\"heartbeat\"\x7d"

theorem safeText_simText :
    (safeText (simText.toList.map fun c => UInt8.ofNat c.toNat)).toList = simText.toList := by
  decide +kernel

set_option maxRecDepth 100000 in
/-- The first frame of the simulation. -/
def sampleReport : SimReport sampleInterpreter where
  nodeId := 1
  viaId := 1
  seq := 1
  rssi := -47
  label := codePoints "TX-1"
  x := floatValue false ['0'] ['5'] 0
  y := floatValue false ['0'] ['5'] 0
  battery := 96
  payload := simText.toList.map fun c => UInt8.ofNat c.toNat
  reads := by
    rw [safeText_simText]
    exact rfl

/-- A status of the radio, a jammed node and a frame of the simulation. -/
def sampleInputs : List (DashboardInput sampleInterpreter) :=
  [.frame 1 1 (statusFrame "battery=50 x=0.25") default, .jam 2 3 true, .simulated 3 3 sampleReport]

/-- A status whose battery is an infinite number. -/
def infiniteBattery : List (DashboardInput sampleInterpreter) :=
  [.frame 1 1 (statusFrame "battery=inf") default]

/-- A finite battery is survived, and a run of all kinds of calls keeps the counters together. -/
theorem dashboard_survives_sample :
    Survives sampleInterpreter 1 1 (statusFrame "battery=50 x=0.25") default (.initial 0) ∧
      ∃ d, Dashboard.start sampleInterpreter 0 (.obj []) true = .ok d ∧
        (d.run sampleInputs).mesh.LinksJoin ∧ (d.run sampleInputs).mesh.BatteriesBounded ∧
        (d.run sampleInputs).mesh.nodePackets =
          (d.run sampleInputs).mesh.radioPackets + (d.run sampleInputs).mesh.simulatedPackets := by
  obtain ⟨hframe, hrun⟩ := dashboard_survives_iff sampleInterpreter
  obtain ⟨hlinks, hbatteries, hpackets⟩ := hrun 0 (.obj []) true ⟨.initial 0, true⟩ rfl sampleInputs
  exact ⟨(hframe 1 1 _ _ _).2 (by decide +kernel), _, rfl, hlinks, hbatteries,
    hpackets.2 (by decide +kernel)⟩

/-- **An infinite battery breaks off**: `int` raises `OverflowError`, which nothing catches, when
the packet is counted for node 2 and not yet for the radio; and the radio loop ends. -/
theorem infinite_battery_breaks_off :
    ¬ Survives sampleInterpreter 1 1 (statusFrame "battery=inf") default (.initial 0) ∧
      ∃ d after, Dashboard.start sampleInterpreter 0 (.obj []) true = .ok d ∧
        d.run infiniteBattery = after ∧
        after.mesh.nodePackets = 1 ∧ after.mesh.radioPackets = 0 ∧
        after.mesh.simulatedPackets = 0 ∧ after.receiving = false := by
  refine ⟨fun h => ?_, _, _, rfl, rfl, ?_⟩
  · exact absurd (survives_iff.1 h) (by decide +kernel)
  · decide +kernel

end KovaWfb
