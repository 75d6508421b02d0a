/-
# From the status transmitter to the dashboard

What `demo/node_status_tx.py` sends is what `demo/dashboard_server.py` shows: a status in its
frame is one observation of its node (`observe_heartbeatFrame`, `readStatus_heartbeat`), and a
run of the dashboard that hears some of the statuses, among whatever else its threads do, leaves
in the record of each node the last of them and how many they were.

`status_link` puts this behind every run of the transmitter.
-/

import KovaWfb.Demo.Payload
import KovaWfb.Demo.Records
import KovaWfb.Demo.StatusTx

namespace KovaWfb

/-! ### The payload -/

section

variable {w : JsonWriter} {layout : JsonLayout} {py : Interpreter} {node : StatusNode}
  {senderId battery : ℤ} {ts : ℚ} {payload : Bytes}

/-- The fields of a status, as they are read back. -/
def StatusNode.statusFields (node : StatusNode) (senderId : ℤ) (ts : ℚ) (battery : ℤ) : DocFields :=
  [(codePoints "id", .int node.nodeId), (codePoints "label", .str (codePoints node.label)),
    (codePoints "kind", .str (codePoints node.kind)), (codePoints "x", .float (.finite node.x)),
    (codePoints "y", .float (.finite node.y)), (codePoints "battery", .int battery),
    (codePoints "state", .str (codePoints "online")),
    (codePoints "message", .str (codePoints "heartbeat")), (codePoints "ts", .float (.finite ts)),
    (codePoints "physical_sender_id", .int senderId)]

/-- The floats of a status read back. -/
structure StatusNode.ReadsBack (node : StatusNode) (w : JsonWriter) : Prop where
  x : KovaWfb.ReadsBack w.floatRepr node.x
  y : KovaWfb.ReadsBack w.floatRepr node.y

/-- **A status that is written is plain.** -/
theorem plain_status (hnode : node.ReadsBack w) (hts : ReadsBack w.floatRepr ts)
    {level : ℕ} {text : List Char}
    (h : dumpsFields w layout level (node.statusFields senderId ts battery) = .ok text) :
    (JsonDoc.obj (node.statusFields senderId ts battery)).Plain w.floatRepr := by
  have hint : ∀ key value, (key, .int value) ∈ node.statusFields senderId ts battery →
      (Nat.toDigits 10 value.natAbs).length ≤ 4300 := fun key value hmem =>
    digits_of_dumpsInt (dumpsValue_of_mem_fields h hmem)
  have hfloat : ∀ {value : ℚ}, ReadsBack w.floatRepr value → ∀ q,
      JsonFloat.finite value = .finite q → ReadsBack w.floatRepr q := by
    rintro value hvalue q ⟨⟩
    exact hvalue
  refine ⟨?_, ⟨plain_codePoints _, ?_⟩, ⟨plain_codePoints _, plain_codePoints _⟩,
    ⟨plain_codePoints _, plain_codePoints _⟩, ⟨plain_codePoints _, hfloat hnode.x⟩,
    ⟨plain_codePoints _, hfloat hnode.y⟩, ⟨plain_codePoints _, ?_⟩,
    ⟨plain_codePoints _, plain_codePoints _⟩, ⟨plain_codePoints _, plain_codePoints _⟩,
    ⟨plain_codePoints _, hfloat hts⟩, ⟨plain_codePoints _, ?_⟩, trivial⟩
  · show (["id", "label", "kind", "x", "y", "battery", "state", "message", "ts",
      "physical_sender_id"].map codePoints).Nodup
    decide
  · exact hint (codePoints "id") _ (by simp [StatusNode.statusFields])
  · exact hint (codePoints "battery") _ (by simp [StatusNode.statusFields])
  · exact hint (codePoints "physical_sender_id") _ (by simp [StatusNode.statusFields])

/-- **The dashboard reads back the fields of a status.** -/
theorem parseStatusPayload_status (hdepth : 1 ≤ py.depthLimit) (hnode : node.ReadsBack w)
    (hts : ReadsBack w.floatRepr ts)
    (h : dumps w .compact (.obj (node.statusFields senderId ts battery)) = .ok payload) :
    parseStatusPayload py.depthLimit payload = .ok (node.statusFields senderId ts battery) := by
  obtain ⟨text, htext, -⟩ := Py.bind_eq_ok.mp h
  obtain ⟨hwrite, inside, hinside, -⟩ := dumpsBracketed_eq_ok.mp htext
  have hone : (JsonDoc.obj (node.statusFields senderId ts battery)).depth = 1 := rfl
  refine parseStatusPayload_of_dumps ?_ (plain_status hnode hts hinside) ?_ ?_ h
  · rfl
  · rw [hone]
    exact hwrite
  · rw [hone]
    exact hdepth

/-- What the dashboard reads of a status. -/
def StatusNode.read (node : StatusNode) (battery : ℤ) : Status where
  message := some "heartbeat"
  label := if node.label = "" then none else some node.label
  kind := if node.kind = "" then none else some node.kind
  x := .ok (some (.finite node.x))
  y := .ok (some (.finite node.y))
  battery := .ok (some battery)

/-- **What is read of a status is what was written.** -/
theorem readStatus_status (hdepth : 1 ≤ py.depthLimit) (hnode : node.ReadsBack w)
    (hts : ReadsBack w.floatRepr ts)
    (h : dumps w .compact (.obj (node.statusFields senderId ts battery)) = .ok payload) :
    readStatus py payload = .ok (node.read battery) := by
  have hvalues : (node.statusFields senderId ts battery).value "message" =
        .str (codePoints "heartbeat") ∧
      (node.statusFields senderId ts battery).value "label" = .str (codePoints node.label) ∧
      (node.statusFields senderId ts battery).value "name" = .null ∧
      (node.statusFields senderId ts battery).value "kind" = .str (codePoints node.kind) ∧
      (node.statusFields senderId ts battery).value "x" = .float (.finite node.x) ∧
      (node.statusFields senderId ts battery).value "y" = .float (.finite node.y) ∧
      (node.statusFields senderId ts battery).value "battery" = .int battery :=
    ⟨rfl, rfl, rfl, rfl, rfl, rfl, rfl⟩
  obtain ⟨hmessage, hlabel, hname, hkind, hx, hy, hbattery⟩ := hvalues
  rw [readStatus, parseStatusPayload_status hdepth hnode hts h, Py.ok_bind]
  dsimp only
  rw [hmessage, hlabel, hname, hkind, hx, hy, hbattery, strOr_codePoints, strOr_codePoints,
    truthy_codePoints]
  by_cases hempty : node.label = ""
  · simp only [StatusNode.read, hempty]
    rfl
  · simp only [StatusNode.read, hempty, decide_false, Bool.not_false, if_true, if_false,
      Interpreter.str, shown_codePoints]
    rfl

/-! ### The frame -/

variable {cfg : StatusConfig} {rfSeq : ℤ} {frame : Bytes} {metadata : WfbRxMeta}

/-- Who a status is heard from. -/
def StatusConfig.via (cfg : StatusConfig) (nodeId : ℤ) : ℤ :=
  if cfg.mesh then cfg.senderId else nodeId

/-- The observation of a status. -/
def StatusNode.observation (node : StatusNode) (cfg : StatusConfig) (payload : Bytes)
    (metadata : WfbRxMeta) : Observation where
  originId := node.nodeId
  viaId := cfg.via node.nodeId
  seq := some node.seq
  payload := payload
  messageType := "status"
  rssi := extractRssi metadata
  freq := intOrNone metadata.freq.toNat
  bandwidth := intOrNone metadata.bandwidth.toNat
  mcsIndex := some (metadata.mcsIndex.toNat : ℤ)
  source := "radio"
  kind := "real"

/-- **A status in its frame is an observation of its node**, heard from the sender. -/
theorem observe_heartbeatFrame (h : heartbeatFrame w cfg rfSeq ts node = .ok frame) :
    ∃ battery payload, node.battery.round = .ok battery ∧
      dumps w .compact (.obj (node.statusFields cfg.senderId ts battery)) = .ok payload ∧
      observe frame metadata = .ok (node.observation cfg payload metadata) := by
  obtain ⟨battery, hbattery, h⟩ := Py.bind_eq_ok.mp h
  obtain ⟨payload, hpayload, h⟩ := Py.bind_eq_ok.mp h
  refine ⟨battery, payload, hbattery, hpayload, ?_⟩
  have hstatus : messageTypeValue (.name "status") = .ok msgStatus := by decide
  have hregistered : messageTypes.Has msgStatus := by decide
  have hobserved : observedPayload msgStatus payload = .ok payload := rfl
  have hname : messageTypeName msgStatus = "status" := by decide
  unfold observe StatusNode.observation StatusConfig.via
  split_ifs at h with hmesh
  · obtain ⟨route, hroute, h⟩ := Py.bind_eq_ok.mp h
    obtain ⟨inner, hinner, hrouteValid, hrouteBytes⟩ := encodeRouteDataPayload_eq_ok_iff.mp hroute
    obtain ⟨type, htype, hvalid, hbytes⟩ := encodeFrame_eq_ok_iff.mp h
    obtain rfl := Except.ok.inj (hstatus.symm.trans hinner)
    obtain rfl : msgRouteData = type := Except.ok.inj
      ((show messageTypeValue (.int msgRouteData) = .ok msgRouteData by decide).symm.trans htype)
    have hrouted : messageTypes.Has msgRouteData := by decide
    rw [decodeFrame_eq_ok_iff.mpr ⟨hvalid, Or.inr hrouted, hbytes⟩, Py.ok_bind]
    dsimp only
    rw [if_pos rfl, decodeRouteDataPayload_eq_ok_iff.mpr ⟨hrouteValid, hregistered, hrouteBytes⟩,
      Py.ok_bind]
    dsimp only
    rw [hobserved, Py.ok_bind, hname, if_pos hmesh]
    rfl
  · obtain ⟨type, htype, hvalid, hbytes⟩ := encodeFrame_eq_ok_iff.mp h
    obtain rfl := Except.ok.inj (hstatus.symm.trans htype)
    rw [decodeFrame_eq_ok_iff.mpr ⟨hvalid, Or.inr hregistered, hbytes⟩, Py.ok_bind]
    dsimp only
    rw [if_neg (by decide), hobserved, Py.ok_bind, hname, if_neg hmesh]
    rfl

end

/-! ### The dashboard hears a status -/

/-- A status that the dashboard hears: what was sent, and the arguments of its call. -/
structure HeardStatus where
  sent : AiredStatus
  metadata : WfbRxMeta
  now : ℚ
  ts : ℚ

/-- What a record shows of the last status that was heard. -/
structure NodeRecord.Shows (record : NodeRecord) (cfg : StatusConfig) (heard : HeardStatus) :
    Prop where
  label : heard.sent.node.label ≠ "" → record.label = heard.sent.node.label
  kind : heard.sent.node.kind ≠ "" → record.kind = heard.sent.node.kind
  x : record.x = clamp01 (.finite heard.sent.node.x)
  y : record.y = clamp01 (.finite heard.sent.node.y)
  battery : ∃ battery, heard.sent.node.battery.round = .ok battery ∧
    record.battery = some (max 0 (min 100 battery))
  message : record.message = "heartbeat"
  via : record.via = some (cfg.via heard.sent.node.nodeId)
  source : record.source = "radio"
  lastSeen : record.lastSeen = some heard.now
  rssi : record.rssi = extractRssi heard.metadata

/-- What the loop sent in a frame that is written so that it can be read back. -/
structure AiredStatus.Readable (sent : AiredStatus) (w : JsonWriter) (cfg : StatusConfig) :
    Prop where
  framed : ∃ rfSeq ts, ReadsBack w.floatRepr ts ∧
    heartbeatFrame w cfg rfSeq ts sent.node = .ok sent.frame
  node : sent.node.ReadsBack w

/-- **All assignments of a status** show it. -/
theorem NodeRecord.shows_observed {cfg : StatusConfig} {heard : HeardStatus} {payload : Bytes}
    {battery : ℤ} (hbattery : heard.sent.node.battery.round = .ok battery) (record : NodeRecord) :
    (record.observed (heard.sent.node.observation cfg payload heard.metadata)
      (heard.sent.node.read battery) heard.now (some (.finite heard.sent.node.x))
      (some (.finite heard.sent.node.y)) (some battery)).Shows cfg heard := by
  unfold NodeRecord.observed
  obtain ⟨lost, duplicates, last, h⟩ := NodeRecord.countSeq_eq _ _
  rw [h]
  refine ⟨fun hlabel => ?_, fun hkind => ?_, rfl, rfl, ⟨battery, hbattery, rfl⟩, rfl, rfl, rfl, rfl,
    rfl⟩
  · simp [NodeRecord.setBattery, NodeRecord.setPlace, NodeRecord.observe, StatusNode.read, hlabel]
  · simp [NodeRecord.setBattery, NodeRecord.setPlace, NodeRecord.observe, StatusNode.read, hkind]

namespace Dashboard

section

variable {w : JsonWriter} {cfg : StatusConfig} {py : Interpreter} {d : Dashboard}
  {heard : HeardStatus}

/-- **A status that is heard** is in the record of its node, one packet later, and changes no
other record. -/
theorem step_heard (hdepth : 1 ≤ py.depthLimit) (hreceiving : d.receiving = true)
    (hsent : heard.sent.Readable w cfg) {input : DashboardInput py}
    (hinput : input = .frame heard.now heard.ts heard.sent.frame heard.metadata) :
    (d.step input).receiving = true ∧
      ((d.step input).mesh.node heard.sent.node.nodeId).Shows cfg heard ∧
      ((d.step input).mesh.node heard.sent.node.nodeId).packets =
        (d.mesh.node heard.sent.node.nodeId).packets + 1 ∧
      ((d.step input).mesh.node heard.sent.node.nodeId).account =
        (d.mesh.node heard.sent.node.nodeId).account.count heard.sent.node.seq ∧
      ∀ o, o ≠ heard.sent.node.nodeId → (d.step input).mesh.node o = d.mesh.node o := by
  obtain ⟨⟨rfSeq, ts, hts, hframe⟩, hnode⟩ := hsent
  obtain ⟨battery, payload, hbattery, hpayload, hobserve⟩ :=
    @observe_heartbeatFrame w heard.sent.node ts cfg rfSeq heard.sent.frame heard.metadata hframe
  have hstatus : readStatus py payload = .ok (heard.sent.node.read battery) :=
    readStatus_status hdepth hnode hts hpayload
  have hingest := @ingestObservation_of_readable (readStatus py) heard.now heard.ts
    (heard.sent.node.observation cfg payload heard.metadata) d.mesh _ hstatus _ _ _ rfl rfl rfl
  have hprocess := @processRadioPayload_of_observe heard.now heard.ts heard.sent.frame
    heard.metadata d.mesh (readStatus py) _ hobserve _ hingest fun _ _ h => by cases h
  subst hinput
  rw [step, onRadio, if_pos hreceiving, hprocess]
  obtain ⟨hlookup, hothers, -⟩ := @MeshState.observed_record d.mesh heard.now heard.ts
    (heard.sent.node.observation cfg payload heard.metadata) "heartbeat"
    (NodeRecord.observed (heard.sent.node.observation cfg payload heard.metadata)
      (heard.sent.node.read battery) heard.now (some (.finite heard.sent.node.x))
      (some (.finite heard.sent.node.y)) (some battery))
  have hrecord := MeshState.node_of_lookup hlookup
  refine ⟨rfl, ?_, ?_, ?_, hothers⟩
  · exact hrecord ▸ NodeRecord.shows_observed hbattery _
  · exact (congrArg NodeRecord.packets hrecord).trans (NodeRecord.observed_spec _ _ _ _ _ _ _).1
  · exact (congrArg NodeRecord.account hrecord).trans
      (NodeRecord.account_observed rfl _ _ _ _ _ _)

end

end Dashboard

/-! ### Runs of the dashboard -/

/-- A call beside the statuses: it is not about the nodes `ids`, and does not end the radio
loop. -/
structure DashboardInput.Beside {py : Interpreter} (ids : List ℤ) (input : DashboardInput py) :
    Prop where
  spares : input.Spares ids
  keepsReceiving : input.KeepsReceiving

/-- A call of a run that hears statuses. -/
inductive LinkInput (py : Interpreter)
  | heard (status : HeardStatus)
  | other (input : DashboardInput py)

/-- The call. -/
def LinkInput.input {py : Interpreter} : LinkInput py → DashboardInput py
  | .heard status => .frame status.now status.ts status.sent.frame status.metadata
  | .other input => input

/-- The status that is heard. -/
def LinkInput.heard? {py : Interpreter} : LinkInput py → Option HeardStatus
  | .heard status => some status
  | .other _ => none

/-- The statuses of a node that a run hears. -/
def heardOf {py : Interpreter} (inputs : List (LinkInput py)) (nodeId : ℤ) : List HeardStatus :=
  (inputs.filterMap LinkInput.heard?).filter (·.sent.node.nodeId = nodeId)

/-- A record behind the statuses of its node: it shows the last of them, and counts them all. -/
structure NodeRecord.Behind (record before : NodeRecord) (cfg : StatusConfig)
    (statuses : List HeardStatus) : Prop where
  shows : ∀ heard ∈ statuses.getLast?, record.Shows cfg heard
  packets : record.packets = before.packets + statuses.length
  account : record.account =
    (statuses.map fun heard => heard.sent.node.seq).foldl Account.count before.account
  same : statuses = [] → record = before

/-- A status in front of the others. -/
theorem NodeRecord.Behind.cons {record between before : NodeRecord} {cfg : StatusConfig}
    {heard : HeardStatus} {statuses : List HeardStatus} (hshows : between.Shows cfg heard)
    (hpackets : between.packets = before.packets + 1)
    (haccount : between.account = before.account.count heard.sent.node.seq)
    (h : record.Behind between cfg statuses) : record.Behind before cfg (heard :: statuses) where
  shows := by
    cases statuses with
    | nil =>
      rintro last hlast
      obtain rfl := Option.some.inj hlast
      exact h.same rfl ▸ hshows
    | cons next rest => exact h.shows
  packets := by
    rw [h.packets, hpackets, List.length_cons]
    push_cast
    ring
  account := by rw [h.account, haccount, List.map_cons, List.foldl_cons]
  same := fun hnil => absurd hnil (List.cons_ne_nil _ _)

namespace Dashboard

section

variable {w : JsonWriter} {cfg : StatusConfig} {py : Interpreter} {d : Dashboard} {ids : List ℤ}

/-- **A run** leaves in the record of a node the last of its statuses, and counts them all. -/
theorem run_heard (hdepth : 1 ≤ py.depthLimit) {inputs : List (LinkInput py)}
    (hheard : ∀ heard, LinkInput.heard heard ∈ inputs → heard.sent.Readable w cfg)
    (hother : ∀ input, LinkInput.other input ∈ inputs → input.Beside ids)
    (hreceiving : d.receiving = true) :
    (d.run (inputs.map LinkInput.input)).receiving = true ∧ ∀ nodeId ∈ ids,
      ((d.run (inputs.map LinkInput.input)).mesh.node nodeId).Behind (d.mesh.node nodeId) cfg
        (heardOf inputs nodeId) := by
  induction inputs generalizing d with
  | nil =>
    exact ⟨hreceiving, fun nodeId _ => ⟨fun heard h => absurd h (Option.not_mem_none heard),
      (add_zero _).symm, rfl, fun _ => rfl⟩⟩
  | cons input rest ih =>
    have hrest := fun {d : Dashboard} => @ih d
      (fun heard hmem => hheard heard (List.mem_cons_of_mem _ hmem))
      (fun input hmem => hother input (List.mem_cons_of_mem _ hmem))
    cases input with
    | other input =>
      obtain ⟨hspares, hkeeps⟩ := hother input List.mem_cons_self
      obtain ⟨hrun, hbehind⟩ := hrest (step_keepsReceiving hreceiving hkeeps)
      refine ⟨hrun, fun nodeId hid => ?_⟩
      have hsame := @step_spares py d ids input hspares nodeId hid
      rw [← hsame]
      exact hbehind nodeId hid
    | heard heard =>
      obtain ⟨hstep, hshows, hpackets, haccount, hsame⟩ :=
        step_heard hdepth hreceiving (hheard heard List.mem_cons_self) rfl
      obtain ⟨hrun, hbehind⟩ := hrest hstep
      refine ⟨hrun, fun nodeId hid => ?_⟩
      have hnode := hbehind nodeId hid
      by_cases hown : heard.sent.node.nodeId = nodeId
      · have hheardOf : heardOf (.heard heard :: rest) nodeId = heard :: heardOf rest nodeId :=
          List.filter_cons_of_pos (by simpa using hown)
        rw [hown] at hshows hpackets haccount
        rw [hheardOf]
        exact hnode.cons hshows hpackets haccount
      · have hheardOf : heardOf (.heard heard :: rest) nodeId = heardOf rest nodeId :=
          List.filter_cons_of_neg (by simpa using hown)
        rw [hsame nodeId (Ne.symm hown)] at hnode
        rw [hheardOf]
        exact hnode

end

end Dashboard

/-! ### The link -/

/-- The numbers of the statuses of a node. -/
theorem iterate_nextStatusSeq {k : ℕ} (h : k + 1 < 2 ^ 32) : nextStatusSeq^[k] 1 = k + 1 := by
  induction k with
  | zero => rfl
  | succ k ih =>
    rw [Function.iterate_succ_apply', ih (by omega), nextStatusSeq]
    rw [Int.emod_eq_of_lt (by omega) (by omega), if_neg (by omega)]
    push_cast
    ring

/-- **The account of numbers that increase**: nothing comes twice, and what is missing between
the first and the last is lost. -/
theorem account_increasing {first last : ℤ} {rest : List ℤ}
    (h : (first :: rest).Pairwise (· < ·)) (hlast : (first :: rest).getLast? = some last) :
    ((first :: rest).foldl Account.count .empty).duplicates = 0 ∧
      ((first :: rest).foldl Account.count .empty).lost =
        last - first + 1 - (first :: rest).length := by
  rw [duplicates_foldl_count, lost_foldl_count]
  refine ⟨(zero_add _).trans (Steps.sumFrom_same_increasing h), ?_⟩
  rw [List.length_cons]
  refine ((zero_add _).trans (Steps.sumFrom_between_increasing h hlast)).trans ?_
  push_cast
  ring

theorem account_last (seqs : List ℤ) (acc : Account) {last : ℤ} (h : seqs.getLast? = some last) :
    (seqs.foldl Account.count acc).last = some last := by
  obtain ⟨before, rfl⟩ := List.getLast?_eq_some_iff.mp h
  rw [List.foldl_append]
  rfl

section

variable {w : JsonWriter} {cfg : StatusConfig} {envs : List StatusPassEnv}
  {nodes : List StatusNode} {n : ℕ} {ids : List ℤ} {tx : StatusTx} {py : Interpreter}
  {inputs : List (LinkInput py)} {node : StatusNode}

/-- **Every status that was sent can be read.** -/
theorem readable_of_airing (hairing : Airing w cfg envs nodes n ids tx)
    (hnodes : ∀ node ∈ nodes, node.ReadsBack w)
    (hstamps : ∀ env ∈ envs, ∀ nodeId, ReadsBack w.floatRepr (env.stamp nodeId))
    {sent : AiredStatus} (hsent : sent ∈ tx.aired) : sent.Readable w cfg := by
  obtain ⟨env, henv, rfSeq, hframe⟩ := hairing.framed sent hsent
  refine ⟨⟨rfSeq, _, hstamps env henv _, hframe⟩, ?_⟩
  obtain ⟨node, hnode, hid⟩ := List.mem_map.mp (hairing.known sent hsent)
  have hmem : sent.node ∈ (tx.aired.map AiredStatus.node).filter (·.nodeId = node.nodeId) :=
    List.mem_filter.mpr ⟨List.mem_map_of_mem hsent, by simp [hid]⟩
  rw [hairing.aired node hnode] at hmem
  obtain ⟨k, -, hk⟩ := List.mem_map.mp hmem
  obtain ⟨-, -, -, hx, hy, -⟩ := iterate_next node k
  rw [← hk]
  exact ⟨hx ▸ (hnodes node hnode).x, hy ▸ (hnodes node hnode).y⟩

/-- **What is heard of a node** are states of it, each later than the one before. -/
theorem heardOf_of_airing (hairing : Airing w cfg envs nodes n ids tx) (hnode : node ∈ nodes)
    (hheard : ((inputs.filterMap LinkInput.heard?).map HeardStatus.sent).Sublist tx.aired) :
    ∃ ks : List ℕ, ks.Pairwise (· < ·) ∧ (∀ k ∈ ks, k ≤ n) ∧
      (heardOf inputs node.nodeId).map (fun heard => heard.sent.node) =
        ks.map fun k => StatusNode.next^[k] node := by
  have hsub : ((heardOf inputs node.nodeId).map fun heard => heard.sent.node).Sublist
      ((tx.aired.map AiredStatus.node).filter (·.nodeId = node.nodeId)) := by
    have h := (hheard.map AiredStatus.node).filter (·.nodeId = node.nodeId)
    rw [List.map_map, List.filter_map] at h
    exact h
  rw [hairing.aired node hnode] at hsub
  obtain ⟨ks, hks, heq⟩ := List.sublist_map_iff.mp hsub
  refine ⟨ks, List.pairwise_lt_range.sublist hks, fun k hk => ?_, heq⟩
  have hlt := List.mem_range.mp (hks.subset hk)
  unfold statusesSent at hlt
  split_ifs at hlt <;> omega

/-- The numbers of what is heard increase, as long as they have not wrapped around. -/
theorem pairwise_seqs {statuses : List HeardStatus} {ks : List ℕ} (hseq : node.seq = 1)
    (hn : n + 1 < 2 ^ 32) (hks : ks.Pairwise (· < ·)) (hle : ∀ k ∈ ks, k ≤ n)
    (h : statuses.map (fun heard => heard.sent.node) = ks.map fun k => StatusNode.next^[k] node) :
    (statuses.map fun heard => heard.sent.node.seq).Pairwise (· < ·) := by
  have hseqs : (statuses.map fun heard => heard.sent.node.seq) =
      ks.map fun k : ℕ => (k : ℤ) + 1 := by
    have hmap := congrArg (List.map StatusNode.seq) h
    rw [List.map_map, List.map_map] at hmap
    refine hmap.trans (List.map_congr_left fun k hk => ?_)
    obtain ⟨-, -, -, -, -, hnext⟩ := iterate_next node k
    have := hle k hk
    rw [Function.comp_apply, hnext, hseq, iterate_nextStatusSeq (by omega)]
  rw [hseqs, List.pairwise_map]
  refine hks.imp ?_
  intro a b hlt
  omega

end

/-- **The dashboard shows what the transmitter sends.**  Whatever the transmitter is given, and
however its run goes; whatever the radio loses of what it sent, and whatever else the threads of
the dashboard do meanwhile that neither is about its nodes nor ends the radio loop: the radio
loop goes on, and the record of every node has one packet for each of its statuses that was
heard, and shows the last one.  Until the numbers wrap around, none of them counts as a duplicate,
and those missing between the first and the last count as lost. -/
theorem status_link {pyTx : Interpreter} {args : StatusArgs} {cfg : StatusConfig}
    {nodes : List StatusNode}
    (hparsed : ∀ node ∈ args.simNodes, ∃ value, parseSimNode value = .ok node)
    (hstart : startStatusTx pyTx args = .ok (cfg, nodes)) {w : JsonWriter}
    (hnodes : ∀ node ∈ nodes, node.ReadsBack w) {envs : List StatusPassEnv}
    (hstamps : ∀ env ∈ envs, ∀ nodeId, ReadsBack w.floatRepr (env.stamp nodeId))
    {channel : Option ℤ} {guardUntil : ℚ} {tx : StatusTx}
    (htx : resultState (statusLoop w cfg envs (.initial nodes channel guardUntil)) = tx)
    {py : Interpreter} (hdepth : 1 ≤ py.depthLimit) {now : ℚ} {config : JsonDoc} {d : Dashboard}
    (hdash : Dashboard.start py now config true = .ok d) {inputs : List (LinkInput py)}
    (hheard : ((inputs.filterMap LinkInput.heard?).map HeardStatus.sent).Sublist tx.aired)
    (hother : ∀ input, LinkInput.other input ∈ inputs →
      input.Beside (nodes.map StatusNode.nodeId)) :
    (d.run (inputs.map LinkInput.input)).receiving = true ∧ ∀ node ∈ nodes, ∃ record statuses,
      (d.run (inputs.map LinkInput.input)).mesh.node node.nodeId = record ∧
      heardOf inputs node.nodeId = statuses ∧ record.packets = statuses.length ∧
      (∀ last ∈ statuses.getLast?, record.Shows cfg last ∧ record.kind = node.kind ∧
        (node.label ≠ "" → record.label = node.label) ∧ record.x = node.x ∧ record.y = node.y ∧
        record.lastSeq = some last.sent.node.seq) ∧
      (tx.sentCycles + 1 < 2 ^ 32 → record.duplicatePackets = 0 ∧
        ∀ first ∈ statuses.head?, ∀ last ∈ statuses.getLast?,
          record.lostPackets = last.sent.node.seq - first.sent.node.seq + 1 - statuses.length) := by
  obtain ⟨hids, hfresh⟩ := fresh_startStatusTx
    (fun node hnode => (hparsed node hnode).elim fun _ => fresh_parseSimNode) hstart
  have hinitial : Airing w cfg envs nodes (StatusTx.initial nodes channel guardUntil).sentCycles []
      (.initial nodes channel guardUntil) := airing_initial channel guardUntil
  obtain ⟨ids, hairing⟩ := airing_run hids (List.Subset.refl envs) hinitial
  rw [htx] at hairing
  have hunheard := Dashboard.unheard_start hdash
  have hreceiving := Dashboard.receiving_start hdash
  have hreadable : ∀ heard, LinkInput.heard heard ∈ inputs → heard.sent.Readable w cfg := by
    intro heard hmem
    refine readable_of_airing hairing hnodes hstamps (hheard.subset (List.mem_map_of_mem ?_))
    exact List.mem_filterMap.mpr ⟨_, hmem, rfl⟩
  obtain ⟨hrun, hrecords⟩ := Dashboard.run_heard hdepth hreadable hother hreceiving
  refine ⟨hrun, fun node hnode => ?_⟩
  have hbehind := hrecords node.nodeId (List.mem_map_of_mem hnode)
  obtain ⟨ks, hks, hle, hstates⟩ := heardOf_of_airing hairing hnode hheard
  obtain ⟨hpackets, haccount⟩ := hunheard node.nodeId
  have hfirst := hfresh node hnode
  generalize (d.run (inputs.map LinkInput.input)).mesh.node node.nodeId = record at hbehind
  generalize heardOf inputs node.nodeId = statuses at hbehind hstates
  have hcounted := hbehind.account
  rw [haccount] at hcounted
  refine ⟨record, statuses, rfl, rfl, ?_, fun last hlast => ?_, fun hcycles => ?_⟩
  · rw [hbehind.packets, hpackets, zero_add]
  · have hshows := hbehind.shows last hlast
    have hmem : last.sent.node ∈ ks.map fun k => StatusNode.next^[k] node := by
      rw [← hstates]
      exact List.mem_map_of_mem (List.mem_of_getLast? hlast)
    obtain ⟨k, -, hk⟩ := List.mem_map.mp hmem
    obtain ⟨-, hlabel, hkind, hx, hy, -⟩ := iterate_next node k
    rw [hk] at hlabel hkind hx hy
    refine ⟨hshows, ?_, fun hne => ?_, ?_, ?_, ?_⟩
    · rw [hshows.kind (hkind ▸ hfirst.kind), hkind]
    · rw [hshows.label (hlabel ▸ hne), hlabel]
    · rw [hshows.x, hx, clamp01_of_mem hfirst.x]
    · rw [hshows.y, hy, clamp01_of_mem hfirst.y]
    · have hseq : (statuses.map fun heard => heard.sent.node.seq).getLast? =
          some last.sent.node.seq := by
        rw [List.getLast?_map, hlast]
        rfl
      exact (congrArg Account.last hcounted).trans (account_last _ _ hseq)
  · have hincrease := pairwise_seqs hfirst.seq hcycles hks hle hstates
    cases statuses with
    | nil =>
      exact ⟨congrArg Account.duplicates hcounted, fun first h =>
        absurd h (Option.not_mem_none first)⟩
    | cons first rest =>
      have hlast := List.getLast?_eq_some_getLast (List.cons_ne_nil first rest)
      generalize (first :: rest).getLast _ = last at hlast
      have hseq : ((first :: rest).map fun heard => heard.sent.node.seq).getLast? =
          some last.sent.node.seq := by
        rw [List.getLast?_map, hlast]
        rfl
      obtain ⟨hduplicates, hlost⟩ := account_increasing hincrease hseq
      refine ⟨(congrArg Account.duplicates hcounted).trans hduplicates, fun first' hfirst' last'
        hlast' => ?_⟩
      obtain rfl := Option.some.inj hfirst'
      obtain rfl := Option.some.inj (hlast.symm.trans hlast')
      refine (congrArg Account.lost hcounted).trans (hlost.trans ?_)
      rw [List.length_cons, List.length_map, List.length_cons]

/-- How one half is written, and any other number. -/
def sampleFloats : JsonWriter where
  depthLimit := 900
  floatRepr := fun value => if value = 1 / 2 then "0.5".toList else "1.0".toList

theorem floatValue_half : floatValue false ['0'] ['5'] 0 = .finite (1 / 2) := by decide +kernel

theorem readsBack_half : ReadsBack sampleFloats.floatRepr (1 / 2) := by
  intro rest hrest
  have hrepr : sampleFloats.floatRepr (1 / 2) = ['0', '.', '5'] := by decide +kernel
  have hfraction : scanFraction ('.' :: '5' :: rest) = ['5'] := by
    cases rest with
    | nil => rfl
    | cons c rest =>
      rw [scanFraction, List.takeWhile_cons_of_pos (by decide),
        List.takeWhile_cons_of_neg (by rw [(hrest c rfl).1]; decide)]
  have hscan : scanNumber false ('0' :: '.' :: '5' :: rest) =
      (.value (.float (.finite (1 / 2))), 3) := by
    rw [scanNumber, ← floatValue_half]
    simp [hfraction, scanExponent_of_end hrest]
  have htoken : tokenAt '0' (['.', '5'] ++ rest) =
      (some (.value (.float (.finite (1 / 2)))), 2) := by
    rw [tokenAt_digit (by decide), List.cons_append, List.singleton_append, hscan]
    rfl
  rw [hrepr]
  exact tokens_token htoken

/-- A transmitter with one simulated node. -/
def sampleStatusArgs : StatusArgs where
  senderId := some 3
  destinationId := 0
  streamId := 1
  intervalMs := 1000
  count := 0
  ttl := 2
  label := some "DRONE"
  x := some (.finite (1 / 2))
  y := some (.finite (1 / 2))
  battery := .int 100
  batteryDrainPerMin := .finite 30
  simNodes := ["4,SIM,0.5,0.5,60"].filterMap fun value => (parseSimNode value).toOption
  mesh := none
  channelAgility := false
  hopChannels := [36]
  hopSlotMs := 5000
  hopEpochMs := 0
  channelSettleMs := 250
  channelTxGuardMs := 250
  senderDefaults := []

/-- A pass that finds nothing in its way. -/
def sampleStatusPass : StatusPassEnv where
  utcMs := 0
  monotonic := 1
  hop := .ok ()
  hopEnd := 1
  stamp := fun _ => 1 / 2
  send := fun _ => .ok ()

/-- The first status is lost, and a node is jammed behind the others. -/
def sampleHeard (aired : List AiredStatus) : List (LinkInput sampleInterpreter) :=
  (aired.drop 1).map (fun sent => .heard ⟨sent, default, 1, 1⟩) ++
    [.other (.jam 2 3 true), .other (.simulated 3 3 sampleReport)]

theorem sample_transmits : ∃ out, startStatusTx sampleInterpreter sampleStatusArgs = .ok out ∧
    out.2.map (fun node => (node.nodeId, node.x, node.y)) = [(3, 1 / 2, 1 / 2), (4, 1 / 2, 1 / 2)] ∧
    (resultState (statusLoop sampleFloats out.1 [sampleStatusPass, sampleStatusPass]
      (.initial out.2 none 0))).aired.map (fun sent => (sent.node.nodeId, sent.node.seq)) =
        [(3, 1), (4, 1), (3, 2), (4, 2)] := by
  decide +kernel

theorem beside_sampleHeard {aired : List AiredStatus} {input : DashboardInput sampleInterpreter}
    (h : LinkInput.other input ∈ sampleHeard aired) : input.Beside [3, 4] := by
  obtain h | h := List.mem_append.mp h
  · obtain ⟨sent, -, h⟩ := List.mem_map.mp h
    cases h
  · simp only [List.mem_cons, LinkInput.other.injEq, List.not_mem_nil, or_false] at h
    obtain rfl | rfl := h
    · exact ⟨trivial, trivial⟩
    · exact ⟨show (1 : ℤ) ∉ [3, 4] by decide, trivial⟩

theorem sent_sampleHeard (aired : List AiredStatus) :
    ((sampleHeard aired).filterMap LinkInput.heard?).map HeardStatus.sent = aired.drop 1 := by
  unfold sampleHeard
  induction aired.drop 1 with
  | nil => rfl
  | cons sent rest ih => exact congrArg (sent :: ·) ih

theorem heardOf_sampleHeard (aired : List AiredStatus) (nodeId : ℤ) :
    (heardOf (sampleHeard aired) nodeId).map
        (fun heard => (heard.sent.node.nodeId, heard.sent.node.seq)) =
      ((aired.map fun sent => (sent.node.nodeId, sent.node.seq)).drop 1).filter
        (·.1 = nodeId) := by
  rw [← List.map_drop, ← sent_sampleHeard, List.map_map, List.filter_map]
  rfl

/-- Two cycles of two nodes, of which the first status is lost. -/
theorem status_link_sample : ∃ cfg nodes tx d,
    startStatusTx sampleInterpreter sampleStatusArgs = .ok (cfg, nodes) ∧
    resultState (statusLoop sampleFloats cfg [sampleStatusPass, sampleStatusPass]
      (.initial nodes none 0)) = tx ∧
    Dashboard.start sampleInterpreter 0 (.obj []) true = .ok d ∧
    ((d.run ((sampleHeard tx.aired).map LinkInput.input)).mesh.node 3).packets = 1 ∧
    ((d.run ((sampleHeard tx.aired).map LinkInput.input)).mesh.node 4).packets = 2 ∧
    ((d.run ((sampleHeard tx.aired).map LinkInput.input)).mesh.node 4).x = 1 / 2 ∧
    ((d.run ((sampleHeard tx.aired).map LinkInput.input)).mesh.node 4).lastSeq = some 2 := by
  obtain ⟨⟨cfg, nodes⟩, hstart, hnodes, hsent⟩ := sample_transmits
  obtain ⟨real, rest, rfl, hreal, hrest⟩ := List.map_eq_cons_iff.mp hnodes
  obtain ⟨sim, rest, rfl, hsim, hrest⟩ := List.map_eq_cons_iff.mp hrest
  obtain rfl := List.map_eq_nil_iff.mp hrest
  simp only [Prod.mk.injEq] at hreal hsim
  obtain ⟨hrealId, hrealX, hrealY⟩ := hreal
  obtain ⟨hsimId, hsimX, hsimY⟩ := hsim
  refine ⟨cfg, _, _, _, hstart, rfl, rfl, ?_⟩
  dsimp only at hsent ⊢
  generalize htx : resultState (statusLoop sampleFloats cfg [sampleStatusPass, sampleStatusPass]
    (.initial [real, sim] none 0)) = tx at hsent ⊢
  have hparsed : ∀ node ∈ sampleStatusArgs.simNodes, ∃ value, parseSimNode value = .ok node := by
    intro node hnode
    obtain ⟨value, -, hvalue⟩ := List.mem_filterMap.mp hnode
    refine ⟨value, ?_⟩
    cases h : parseSimNode value with
    | error message =>
      rw [h] at hvalue
      cases hvalue
    | ok parsed =>
      rw [h] at hvalue
      rw [Option.some.inj hvalue]
  have hreads : ∀ node ∈ [real, sim], node.ReadsBack sampleFloats := by
    intro node hnode
    simp only [List.mem_cons, List.not_mem_nil, or_false] at hnode
    obtain rfl | rfl := hnode
    · exact ⟨hrealX ▸ readsBack_half, hrealY ▸ readsBack_half⟩
    · exact ⟨hsimX ▸ readsBack_half, hsimY ▸ readsBack_half⟩
  have hstamps : ∀ env ∈ [sampleStatusPass, sampleStatusPass], ∀ nodeId,
      ReadsBack sampleFloats.floatRepr (env.stamp nodeId) := by
    intro env henv nodeId
    obtain rfl : env = sampleStatusPass := by simpa using henv
    exact readsBack_half
  have hheard : (((sampleHeard tx.aired).filterMap LinkInput.heard?).map
      HeardStatus.sent).Sublist tx.aired := by
    rw [sent_sampleHeard]
    exact List.drop_sublist 1 _
  have hother : ∀ input, LinkInput.other input ∈ sampleHeard tx.aired →
      input.Beside ([real, sim].map StatusNode.nodeId) := by
    intro input hinput
    rw [List.map_cons, List.map_singleton, hrealId, hsimId]
    exact beside_sampleHeard hinput
  obtain ⟨-, hrecords⟩ := @status_link sampleInterpreter sampleStatusArgs cfg [real, sim] hparsed
    hstart sampleFloats hreads _ hstamps none 0 tx htx sampleInterpreter (by decide) 0 (.obj [])
    ⟨.initial 0, true⟩ rfl (sampleHeard tx.aired) hheard hother
  obtain ⟨_, _, rfl, rfl, hrealPackets, -⟩ := hrecords real (by simp)
  obtain ⟨_, _, rfl, rfl, hsimPackets, hshows, -⟩ := hrecords sim (by simp)
  have hheardReal := heardOf_sampleHeard tx.aired 3
  have hheardSim := heardOf_sampleHeard tx.aired 4
  rw [hsent] at hheardReal hheardSim
  rw [hrealId] at hrealPackets
  rw [hsimId] at hsimPackets hshows
  obtain ⟨only, rest, hstatuses, -, hnone⟩ := List.map_eq_cons_iff.mp hheardReal
  rw [hstatuses, List.map_eq_nil_iff.mp hnone] at hrealPackets
  obtain ⟨first, rest, hstatuses, -, hrest⟩ := List.map_eq_cons_iff.mp hheardSim
  obtain ⟨last, rest, rfl, hlast, hnone⟩ := List.map_eq_cons_iff.mp hrest
  rw [hstatuses, List.map_eq_nil_iff.mp hnone] at hsimPackets hshows
  obtain ⟨-, -, -, hx, -, hseq⟩ := hshows last rfl
  have hlastSeq : last.sent.node.seq = 2 := (Prod.ext_iff.mp hlast).2
  exact ⟨hrealPackets, hsimPackets, hx.trans hsimX, hseq.trans (congrArg some hlastSeq)⟩

end KovaWfb
