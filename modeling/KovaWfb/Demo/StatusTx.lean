/-
# The status transmitter

`demo/node_status_tx.py`: one transmitter that advertises itself and simulated nodes.
`parseSimNode` (214 to 257) and `startStatusTx` (the checks of `main`, 398 to 465) make the
nodes, `heartbeatFrame` the frame of a node (544 to 578), and `statusPass` is one pass of the loop
(516 to 594): it hops when the schedule shows another channel, waits while the guard of a hop is
not over, and otherwise sends the status of every node.

`tx.send` can raise, which ends the program; what the radio sent until then stays in `aired`.

`airing_run` is the invariant of every run: what was sent of a node are its states one after
the other, whatever hops, waits and failures come between.
-/

import KovaWfb.Demo.Status
import KovaWfb.Mesh.Schedule
import KovaWfb.Python.Floats
import KovaWfb.Python.LoadsPlain

namespace KovaWfb

/-! ### The nodes -/

/-- `_next_seq`. -/
def nextStatusSeq (seq : ℤ) : ℤ :=
  let next := (seq + 1) % 0x100000000
  if next = 0 then 1 else next

/-- `class StatusNode`. -/
structure StatusNode where
  nodeId : ℤ
  label : String
  kind : String
  x : ℚ
  y : ℚ
  battery : JsonFloat
  drainPerTick : JsonFloat
  seq : ℤ := 1

/-- `_default_sim_position`. -/
def defaultSimPosition (nodeId : ℤ) : ℚ × ℚ :=
  let place (start step : ℚ) : ℚ :=
    match toDouble start, toDouble step with
    | .finite start, .finite step => clampTo 1 (addDouble start step)
    | _, _ => 0
  (place (12 / 100) ((nodeId * 37 % 77 : ℤ) / 100), place (14 / 100) ((nodeId * 53 % 71 : ℤ) / 100))

/-- `value.split(",")`, each part stripped. -/
def commaParts (value : String) : List String :=
  (value.toList.splitOnP (· = ',')).map fun part => String.ofList (stripBy isSpace part)

/-- `if bad: raise error`. -/
def failIf {ε : Type} (bad : Prop) [Decidable bad] (error : ε) : Except ε Unit :=
  if bad then .error error else .ok ()

/-- The value, or `raise error` where there is none. -/
def orFail {ε α : Type} (value : Option α) (error : ε) : Except ε α :=
  value.elim (.error error) .ok

/-- The place of a simulated node: the two numbers that are given, or the default. -/
def simPlace (nodeId : ℤ) (parts : List String) : Except String (ℚ × ℚ) :=
  if 4 ≤ parts.length then do
    let x ← orFail (floatText (parts.getD 2 "")) "sim node X and Y must be numbers"
    let y ← orFail (floatText (parts.getD 3 "")) "sim node X and Y must be numbers"
    pure (clampTo 1 x, clampTo 1 y)
  else pure (defaultSimPosition nodeId)

/-- The battery of a simulated node. -/
def simBattery (parts : List String) : Except String JsonFloat :=
  if parts.length = 5 then
    orFail (floatText (parts.getD 4 "")) "sim node battery must be a number"
  else pure (.finite 100)

/-- `parse_sim_node`, and the text of its `ArgumentTypeError`. -/
def parseSimNode (value : String) : Except String StatusNode := do
  let parts := commaParts value
  failIf (parts.length ∉ [1, 2, 4, 5]) "expected ID[,LABEL[,X,Y[,BATTERY]]]"
  let nodeId ← orFail (intBase0 (parts.getD 0 "")) "sim node ID must be an integer"
  failIf (¬ (1 ≤ nodeId ∧ nodeId ≤ 255)) "sim node ID must be in range 1..255"
  let given := parts.getD 1 ""
  let place ← simPlace nodeId parts
  let battery ← simBattery parts
  pure { nodeId, label := if given ≠ "" then given else "SIM-" ++ toString nodeId,
         kind := "simulated", x := place.1, y := place.2, battery := .finite (clampTo 100 battery),
         drainPerTick := .finite 0 }

/-! ### `main` up to the loop -/

/-- What ends the program before the loop. -/
inductive StatusExit
  | systemExit (message : String)
  | raised (error : PyError)

/-- The arguments, and the entry of the sender in `nodes.json`. -/
structure StatusArgs where
  senderId : Option ℤ
  destinationId : ℤ
  streamId : ℤ
  intervalMs : ℤ
  count : ℤ
  ttl : ℤ
  label : Option String
  x : Option JsonFloat
  y : Option JsonFloat
  battery : Json
  batteryDrainPerMin : JsonFloat
  simNodes : List StatusNode
  mesh : Option Bool
  channelAgility : Bool
  hopChannels : List ℤ
  hopSlotMs : ℤ
  hopEpochMs : ℤ
  channelSettleMs : ℤ
  channelTxGuardMs : ℤ
  senderDefaults : DocFields

/-- What the loop runs with. -/
structure StatusConfig where
  senderId : ℤ
  destinationId : ℤ
  ttl : ℤ
  mesh : Bool
  count : ℤ
  hops : Option HopSchedule
  channelTxGuardMs : ℤ

/-- `if bad: raise SystemExit(message)`. -/
def exitIf (bad : Prop) [Decidable bad] (message : String) : Except StatusExit Unit :=
  failIf bad (.systemExit message)

/-- A call that raises what `main` does not catch. -/
def uncaught {α : Type} (x : Py α) : Except StatusExit α := x.mapError .raised

/-- The schedule, if the checks of channel agility pass. -/
def statusHops (args : StatusArgs) : Except StatusExit (Option HopSchedule) :=
  if args.channelAgility then
    if hempty : args.hopChannels = [] then
      .error (.systemExit "--hop-channels is required with --channel-agility")
    else if hpos : ¬ ∀ channel ∈ args.hopChannels, 0 < channel then
      .error (.systemExit "--hop-channels must contain positive channel numbers")
    else if hslot : args.hopSlotMs ≤ 0 then .error (.systemExit "--hop-slot-ms must be > 0")
    else if args.channelSettleMs < 0 then .error (.systemExit "--channel-settle-ms must be >= 0")
    else if args.channelTxGuardMs < 0 then .error (.systemExit "--channel-tx-guard-ms must be >= 0")
    else pure (some ⟨args.hopChannels, args.hopSlotMs, args.hopEpochMs, hempty, not_not.mp hpos,
      not_le.mp hslot⟩)
  else pure none

/-- `x = args.x`, or that of `nodes.json`, or 0.5. -/
def statusPlace (given : Option JsonFloat) (default : JsonDoc) : Py JsonFloat :=
  match given with
  | some value => pure value
  | none =>
    match default.toJson.toFloat with
    | .ok value => pure value
    | .error (.typeError _) | .error (.valueError _) => pure (.finite (1 / 2))
    | .error error => .error error

/-- `sender_defaults.get(name, 0.5)`. -/
def placeDefault (defaults : DocFields) (name : String) : JsonDoc :=
  (defaults.get name).getD (.float (.finite (1 / 2)))

/-- The label of the sender. -/
def statusLabel (py : Interpreter) (args : StatusArgs) (senderId : ℤ) : String :=
  match args.label.filter (· ≠ "") with
  | some label => label
  | none => (py.strOr (args.senderDefaults.value "label")).getD ("TX-" ++ toString senderId)

/-- `drain_per_tick`. -/
def drainPerTick (args : StatusArgs) : Py JsonFloat := do
  let intervalMs ← floatOfInt args.intervalMs
  pure ((args.batteryDrainPerMin.mul (intervalMs.over 1000)).over 60)

/-- `main` up to the loop: what it runs with, and the nodes. -/
def startStatusTx (py : Interpreter) (args : StatusArgs) :
    Except StatusExit (StatusConfig × List StatusNode) := do
  let senderId ← orFail args.senderId
    (.systemExit "--sender-id is required unless --config supplies sender_id")
  exitIf (¬ (1 ≤ senderId ∧ senderId ≤ 255)) "--sender-id must be in range 1..255"
  exitIf (¬ (0 ≤ args.destinationId ∧ args.destinationId ≤ 255))
    "--destination-id must be in range 0..255"
  exitIf (args.streamId = 0) "--stream-id must be non-zero"
  exitIf (args.intervalMs ≤ 0) "--interval-ms must be > 0"
  exitIf (args.count < 0) "--count must be >= 0"
  let hops ← statusHops args
  let x ← uncaught (statusPlace args.x (placeDefault args.senderDefaults "x"))
  let y ← uncaught (statusPlace args.y (placeDefault args.senderDefaults "y"))
  let drainPerTick ← uncaught (drainPerTick args)
  let battery ← uncaught args.battery.toFloat
  let sender : StatusNode :=
    { nodeId := senderId, label := statusLabel py args senderId, kind := "real", x := clampTo 1 x,
      y := clampTo 1 y, battery := .finite (clampTo 100 battery), drainPerTick }
  let nodes := sender :: args.simNodes.map fun node => { node with drainPerTick }
  exitIf (¬ (nodes.map StatusNode.nodeId).Nodup) "duplicate logical node IDs"
  pure ({ senderId, destinationId := args.destinationId, ttl := args.ttl,
          mesh := args.mesh.getD !args.simNodes.isEmpty, count := args.count, hops,
          channelTxGuardMs := args.channelTxGuardMs }, nodes)

/-! ### The nodes that the loop starts with -/

theorem except_bind_eq_ok {ε α β : Type} {x : Except ε α} {f : α → Except ε β} {b : β} :
    x >>= f = .ok b ↔ ∃ a, x = .ok a ∧ f a = .ok b := by
  cases x <;> simp [bind, Except.bind]

theorem failIf_eq_ok {ε : Type} {bad : Prop} [Decidable bad] {error : ε} {u : Unit} :
    failIf bad error = .ok u ↔ ¬ bad := by
  unfold failIf
  split_ifs with h <;> simp [h]

/-- A node as the loop starts with it. -/
structure StatusNode.Fresh (node : StatusNode) : Prop where
  id : 1 ≤ node.nodeId ∧ node.nodeId ≤ 255
  kind : node.kind ≠ ""
  x : 0 ≤ node.x ∧ node.x ≤ 1
  y : 0 ≤ node.y ∧ node.y ≤ 1
  seq : node.seq = 1

theorem defaultSimPosition_bounds (nodeId : ℤ) :
    (0 ≤ (defaultSimPosition nodeId).1 ∧ (defaultSimPosition nodeId).1 ≤ 1) ∧
      0 ≤ (defaultSimPosition nodeId).2 ∧ (defaultSimPosition nodeId).2 ≤ 1 := by
  unfold defaultSimPosition
  dsimp only
  constructor <;> split
  · exact clampTo_bounds zero_le_one _
  · exact ⟨le_rfl, zero_le_one⟩
  · exact clampTo_bounds zero_le_one _
  · exact ⟨le_rfl, zero_le_one⟩

theorem simPlace_bounds {nodeId : ℤ} {parts : List String} {place : ℚ × ℚ}
    (h : simPlace nodeId parts = .ok place) :
    (0 ≤ place.1 ∧ place.1 ≤ 1) ∧ 0 ≤ place.2 ∧ place.2 ≤ 1 := by
  unfold simPlace at h
  split_ifs at h
  · obtain ⟨x, -, h⟩ := except_bind_eq_ok.mp h
    obtain ⟨y, -, h⟩ := except_bind_eq_ok.mp h
    obtain rfl := Except.ok.inj h
    exact ⟨clampTo_bounds zero_le_one x, clampTo_bounds zero_le_one y⟩
  · obtain rfl := Except.ok.inj h
    exact defaultSimPosition_bounds nodeId

/-- **`parse_sim_node` makes a node as it should be.** -/
theorem fresh_parseSimNode {value : String} {node : StatusNode}
    (h : parseSimNode value = .ok node) : node.Fresh := by
  obtain ⟨-, -, h⟩ := except_bind_eq_ok.mp h
  obtain ⟨nodeId, -, h⟩ := except_bind_eq_ok.mp h
  obtain ⟨_, hid, h⟩ := except_bind_eq_ok.mp h
  obtain ⟨place, hplace, h⟩ := except_bind_eq_ok.mp h
  obtain ⟨battery, -, h⟩ := except_bind_eq_ok.mp h
  obtain rfl := Except.ok.inj h
  obtain ⟨hx, hy⟩ := simPlace_bounds hplace
  exact ⟨not_not.mp (failIf_eq_ok.mp hid), by simp, hx, hy, rfl⟩

/-- **The nodes are as they should be**, with distinct ids, whenever `main` reaches the loop. -/
theorem fresh_startStatusTx {py : Interpreter} {args : StatusArgs} {cfg : StatusConfig}
    {nodes : List StatusNode} (hparsed : ∀ node ∈ args.simNodes, node.Fresh)
    (h : startStatusTx py args = .ok (cfg, nodes)) :
    (nodes.map StatusNode.nodeId).Nodup ∧ ∀ node ∈ nodes, node.Fresh := by
  obtain ⟨senderId, -, h⟩ := except_bind_eq_ok.mp h
  obtain ⟨_, hsender, h⟩ := except_bind_eq_ok.mp h
  obtain ⟨-, -, h⟩ := except_bind_eq_ok.mp h
  obtain ⟨-, -, h⟩ := except_bind_eq_ok.mp h
  obtain ⟨-, -, h⟩ := except_bind_eq_ok.mp h
  obtain ⟨-, -, h⟩ := except_bind_eq_ok.mp h
  obtain ⟨hops, -, h⟩ := except_bind_eq_ok.mp h
  obtain ⟨x, -, h⟩ := except_bind_eq_ok.mp h
  obtain ⟨y, -, h⟩ := except_bind_eq_ok.mp h
  obtain ⟨drain, -, h⟩ := except_bind_eq_ok.mp h
  obtain ⟨battery, -, h⟩ := except_bind_eq_ok.mp h
  obtain ⟨_, hids, h⟩ := except_bind_eq_ok.mp h
  obtain ⟨rfl, rfl⟩ := Prod.ext_iff.mp (Except.ok.inj h)
  refine ⟨not_not.mp (failIf_eq_ok.mp hids), List.forall_mem_cons.mpr ⟨?_, ?_⟩⟩
  · exact ⟨not_not.mp (failIf_eq_ok.mp hsender), by simp, clampTo_bounds zero_le_one x,
      clampTo_bounds zero_le_one y, rfl⟩
  · refine List.forall_mem_map.mpr fun node hnode => ?_
    obtain ⟨hid, hkind, hx, hy, hseq⟩ := hparsed node hnode
    exact ⟨hid, hkind, hx, hy, hseq⟩

/-! ### Frames -/

/-- The `dict` of a status. -/
def StatusNode.status (node : StatusNode) (senderId : ℤ) (ts : ℚ) (battery : ℤ) : Json :=
  .obj [("id", .int node.nodeId), ("label", .str node.label), ("kind", .str node.kind),
    ("x", .float (.finite node.x)), ("y", .float (.finite node.y)), ("battery", .int battery),
    ("state", .str "online"), ("message", .str "heartbeat"), ("ts", .float (.finite ts)),
    ("physical_sender_id", .int senderId)]

/-- The frame of a node at a time. -/
def heartbeatFrame (w : JsonWriter) (cfg : StatusConfig) (rfSeq : ℤ) (ts : ℚ) (node : StatusNode) :
    Py Bytes := do
  let battery ← node.battery.round
  let payload ← dumps w .compact (node.status cfg.senderId ts battery).doc
  if cfg.mesh then do
    let routePayload ← encodeRouteDataPayload node.nodeId cfg.destinationId cfg.ttl node.seq
      (.name "status") payload
    encodeFrame cfg.senderId (.int msgRouteData) rfSeq routePayload 0
  else encodeFrame node.nodeId (.name "status") node.seq payload 0

/-- A node behind its status: the next number, and what is left of the battery. -/
def StatusNode.next (node : StatusNode) : StatusNode :=
  { node with
    seq := nextStatusSeq node.seq
    battery := (node.battery.sub node.drainPerTick).atLeastZero }

/-! ### The loop -/

/-- A status that the radio sent: of which state of a node, and on which channel. -/
structure AiredStatus where
  node : StatusNode
  frame : Bytes
  channel : Option ℤ

/-- The variables of the loop, and what the radio sent, oldest first. -/
structure StatusTx where
  nodes : List StatusNode
  rfSeq : ℤ
  sentCycles : ℕ
  channel : Option ℤ
  guardUntil : ℚ
  aired : List AiredStatus

/-- `main` in front of the loop, on the channel of the first hop. -/
def StatusTx.initial (nodes : List StatusNode) (channel : Option ℤ) (guardUntil : ℚ) : StatusTx :=
  { nodes, rfSeq := 1, sentCycles := 0, channel, guardUntil, aired := [] }

/-- What a pass finds: the clocks, how a hop and the sending of a node's status end, and when
each status is stamped. -/
structure StatusPassEnv where
  utcMs : ℤ
  monotonic : ℚ
  hop : Py Unit
  hopEnd : ℚ
  stamp : ℤ → ℚ
  send : ℤ → Py Unit

/-- `for node in nodes`, behind the nodes that are done. -/
def sendStatuses (w : JsonWriter) (cfg : StatusConfig) (env : StatusPassEnv) :
    List StatusNode → List StatusNode → PyM StatusTx Unit
  | _, [] => pure ()
  | done, node :: rest => do
      let tx ← get
      let frame ← heartbeatFrame w cfg tx.rfSeq (env.stamp node.nodeId) node
      env.send node.nodeId
      modify fun tx => { tx with
        nodes := done ++ node.next :: rest
        rfSeq := nextStatusSeq tx.rfSeq
        aired := tx.aired ++ [⟨node, frame, tx.channel⟩] }
      sendStatuses w cfg env (done ++ [node.next]) rest

/-- The channel of the schedule, when it is another one. -/
def nextHop (cfg : StatusConfig) (utcMs : ℤ) (channel : Option ℤ) : Option ℤ :=
  cfg.hops.bind fun hops =>
    (NodeStatusTx.scheduledChannel hops.channels hops.slotMs hops.epochMs utcMs).bind fun found =>
      if some found.1 = channel then none else some found.1

/-- `switch_channel`. -/
def switchStatusChannel (cfg : StatusConfig) (env : StatusPassEnv) (channel : ℤ) :
    PyM StatusTx Unit := do
  env.hop
  modify fun tx => { tx with
    channel := some channel
    guardUntil := env.hopEnd + cfg.channelTxGuardMs / 1000 }

/-- A pass of the loop. -/
def statusPass (w : JsonWriter) (cfg : StatusConfig) (env : StatusPassEnv) : PyM StatusTx Unit := do
  let tx ← get
  match nextHop cfg env.utcMs tx.channel with
  | some channel => switchStatusChannel cfg env channel
  | none =>
    if env.monotonic < tx.guardUntil then pure ()
    else do
      sendStatuses w cfg env [] tx.nodes
      modify fun tx => { tx with sentCycles := tx.sentCycles + 1 }

/-- The passes that the loop makes of a list. -/
def statusLoop (w : JsonWriter) (cfg : StatusConfig) : List StatusPassEnv → PyM StatusTx Unit
  | [] => pure ()
  | env :: envs => do
      let tx ← get
      if cfg.count = 0 ∨ (tx.sentCycles : ℤ) < cfg.count then do
        statusPass w cfg env
        statusLoop w cfg envs
      else pure ()

/-! ### Runs -/

/-- What a status does not change of a node. -/
theorem iterate_next (node : StatusNode) (k : ℕ) :
    (StatusNode.next^[k] node).nodeId = node.nodeId ∧
      (StatusNode.next^[k] node).label = node.label ∧
      (StatusNode.next^[k] node).kind = node.kind ∧ (StatusNode.next^[k] node).x = node.x ∧
      (StatusNode.next^[k] node).y = node.y ∧
      (StatusNode.next^[k] node).seq = nextStatusSeq^[k] node.seq := by
  induction k with
  | zero => exact ⟨rfl, rfl, rfl, rfl, rfl, rfl⟩
  | succ k ih =>
    obtain ⟨hid, hlabel, hkind, hx, hy, hseq⟩ := ih
    rw [Function.iterate_succ_apply', Function.iterate_succ_apply']
    exact ⟨hid, hlabel, hkind, hx, hy, congrArg nextStatusSeq hseq⟩

/-- How many statuses of a node were sent in `n` cycles, and one more of each node in `ids`. -/
def statusesSent (n : ℕ) (ids : List ℤ) (nodeId : ℤ) : ℕ := if nodeId ∈ ids then n + 1 else n

/-- **What was sent** in `n` cycles, and one more status of each node in `ids`: of every node,
its states one after the other, each in the frame that the loop made of it. -/
structure Airing (w : JsonWriter) (cfg : StatusConfig) (envs : List StatusPassEnv)
    (start : List StatusNode) (n : ℕ) (ids : List ℤ) (tx : StatusTx) : Prop where
  nodes : tx.nodes =
    start.map fun node => StatusNode.next^[statusesSent n ids node.nodeId] node
  aired : ∀ node ∈ start, (tx.aired.map AiredStatus.node).filter (·.nodeId = node.nodeId) =
    (List.range (statusesSent n ids node.nodeId)).map fun k => StatusNode.next^[k] node
  known : ∀ sent ∈ tx.aired, sent.node.nodeId ∈ start.map StatusNode.nodeId
  framed : ∀ sent ∈ tx.aired, ∃ env ∈ envs, ∃ rfSeq,
    heartbeatFrame w cfg rfSeq (env.stamp sent.node.nodeId) sent.node = .ok sent.frame

section

variable {w : JsonWriter} {cfg : StatusConfig} {envs : List StatusPassEnv} {env : StatusPassEnv}
  {start : List StatusNode} {n : ℕ} {ids : List ℤ} {tx : StatusTx}

/-- Nothing but the nodes and what was sent matters. -/
theorem Airing.congr {tx' : StatusTx} (h : Airing w cfg envs start n ids tx)
    (hnodes : tx'.nodes = tx.nodes) (haired : tx'.aired = tx.aired) :
    Airing w cfg envs start n ids tx' :=
  ⟨hnodes.trans h.nodes, by rw [haired]; exact h.aired, by rw [haired]; exact h.known,
    by rw [haired]; exact h.framed⟩

/-- With a status of every node, a cycle is complete. -/
theorem Airing.cycle (h : Airing w cfg envs start n (start.map StatusNode.nodeId) tx) :
    Airing w cfg envs start (n + 1) [] tx := by
  have hsent : ∀ node ∈ start, statusesSent n (start.map StatusNode.nodeId) node.nodeId =
      statusesSent (n + 1) [] node.nodeId := by
    intro node hnode
    rw [statusesSent, if_pos (List.mem_map_of_mem hnode), statusesSent,
      if_neg List.not_mem_nil]
  refine ⟨h.nodes.trans (List.map_congr_left fun node hnode => ?_), fun node hnode => ?_, h.known,
    h.framed⟩
  · rw [hsent node hnode]
  · rw [h.aired node hnode, hsent node hnode]

/-- The nodes keep their ids. -/
theorem Airing.map_nodeId (h : Airing w cfg envs start n ids tx) :
    tx.nodes.map StatusNode.nodeId = start.map StatusNode.nodeId := by
  rw [h.nodes, List.map_map]
  exact List.map_congr_left fun node _ => (iterate_next node _).1

/-- Of a node that has none in this cycle, one status more; of the others, none. -/
theorem statusesSent_append (done : List ℤ) (nodeId other : ℤ) (hdone : nodeId ∉ done) :
    statusesSent n (done ++ [nodeId]) other =
      statusesSent n done other + if other = nodeId then 1 else 0 := by
  unfold statusesSent
  by_cases hother : other = nodeId
  · simp [hother, hdone]
  · simp [hother]

/-- **One more status** of a node that has none in this cycle. -/
theorem Airing.send {done rest : List StatusNode} {node : StatusNode} {frame : Bytes} {rfSeq : ℤ}
    (hids : (start.map StatusNode.nodeId).Nodup)
    (h : Airing w cfg envs start n (done.map StatusNode.nodeId) tx)
    (hnodes : tx.nodes = done ++ node :: rest) (henv : env ∈ envs)
    (hframe : heartbeatFrame w cfg rfSeq (env.stamp node.nodeId) node = .ok frame)
    {tx' : StatusTx} (hnodes' : tx'.nodes = done ++ node.next :: rest)
    (haired' : tx'.aired = tx.aired ++ [⟨node, frame, tx.channel⟩]) :
    Airing w cfg envs start n ((done ++ [node.next]).map StatusNode.nodeId) tx' := by
  obtain ⟨before, behind, rfl, hbefore, hbehind⟩ := List.map_eq_append_iff.mp
    (h.nodes.symm.trans hnodes)
  obtain ⟨first, after, rfl, hfirst, hafter⟩ := List.map_eq_cons_iff.mp hbehind
  have hid : node.nodeId = first.nodeId := by rw [← hfirst, (iterate_next first _).1]
  have hdone : done.map StatusNode.nodeId = before.map StatusNode.nodeId := by
    rw [← hbefore, List.map_map]
    exact List.map_congr_left fun other _ => (iterate_next other _).1
  rw [List.map_append, List.map_cons, List.nodup_append, List.nodup_cons] at hids
  obtain ⟨-, ⟨hlater, -⟩, hdistinct⟩ := hids
  have hnew : first.nodeId ∉ done.map StatusNode.nodeId := by
    rw [hdone]
    exact fun hmem => hdistinct _ hmem _ List.mem_cons_self rfl
  have hsent : ∀ other : ℤ, statusesSent n ((done ++ [node.next]).map StatusNode.nodeId) other =
      statusesSent n (done.map StatusNode.nodeId) other + if other = first.nodeId then 1 else 0 := by
    intro other
    rw [List.map_append, ← statusesSent_append _ _ _ hnew, ← hid]
    rfl
  have hbeforeNe : ∀ other ∈ before, other.nodeId ≠ first.nodeId := fun other hother =>
    hdistinct _ (List.mem_map_of_mem hother) _ List.mem_cons_self
  have hafterNe : ∀ other ∈ after, other.nodeId ≠ first.nodeId := fun other hother heq =>
    hlater (heq ▸ List.mem_map_of_mem hother)
  refine ⟨?_, fun other hother => ?_, ?_, ?_⟩
  · rw [hnodes', List.map_append, List.map_cons]
    refine congrArg₂ _ (hbefore.symm.trans (List.map_congr_left fun other hother => ?_))
      (congrArg₂ _ ?_ (hafter.symm.trans (List.map_congr_left fun other hother => ?_)))
    · rw [hsent, if_neg (hbeforeNe other hother), add_zero]
    · rw [hsent, if_pos rfl, Function.iterate_succ_apply', hfirst]
    · rw [hsent, if_neg (hafterNe other hother), add_zero]
  · rw [haired', List.map_append, List.filter_append, h.aired other hother, hsent]
    by_cases hsame : other.nodeId = first.nodeId
    · have hother : other = first := by
        obtain hmem | rfl | hmem := List.mem_append.mp hother |>.imp_right List.mem_cons.mp
        · exact absurd hsame (hbeforeNe other hmem)
        · rfl
        · exact absurd hsame (hafterNe other hmem)
      rw [if_pos hsame, hother, List.range_succ, List.map_append, List.map_singleton,
        List.map_singleton, hfirst, List.filter_cons_of_pos (by simpa using hid), List.filter_nil]
    · rw [if_neg hsame, add_zero, List.map_singleton,
        List.filter_cons_of_neg (by simpa [hid] using Ne.symm hsame), List.filter_nil,
        List.append_nil]
  · rw [haired', List.forall_mem_append]
    refine ⟨h.known, List.forall_mem_singleton.mpr ?_⟩
    rw [hid]
    exact List.mem_map_of_mem (by simp)
  · rw [haired', List.forall_mem_append]
    exact ⟨h.framed, List.forall_mem_singleton.mpr ⟨env, henv, rfSeq, hframe⟩⟩

/-- The statuses of the nodes that are left, up to one that is not sent. -/
theorem airing_sendStatuses (hids : (start.map StatusNode.nodeId).Nodup) (henv : env ∈ envs)
    (rest : List StatusNode) {done : List StatusNode}
    (h : Airing w cfg envs start n (done.map StatusNode.nodeId) tx)
    (hnodes : tx.nodes = done ++ rest) {result : EStateM.Result PyError StatusTx Unit}
    (hrun : sendStatuses w cfg env done rest tx = result) :
    (resultState result).sentCycles = tx.sentCycles ∧
      ∃ ids, Airing w cfg envs start n ids (resultState result) ∧
        (result = .ok () (resultState result) → ids = start.map StatusNode.nodeId) := by
  induction rest generalizing done tx with
  | nil =>
    obtain rfl : EStateM.Result.ok () tx = result := hrun
    refine ⟨rfl, _, h, fun _ => ?_⟩
    rw [← h.map_nodeId, hnodes, List.append_nil]
  | cons node rest ih =>
    rw [sendStatuses, PyM.get_bind_apply] at hrun
    cases hframe : heartbeatFrame w cfg tx.rfSeq (env.stamp node.nodeId) node with
    | error error =>
      rw [PyM.lift_bind_of_eq_error hframe] at hrun
      subst hrun
      exact ⟨rfl, _, h, fun h => by cases h⟩
    | ok frame =>
      rw [PyM.lift_bind_of_eq_ok hframe] at hrun
      cases hsend : env.send node.nodeId with
      | error error =>
        rw [PyM.lift_bind_of_eq_error hsend] at hrun
        subst hrun
        exact ⟨rfl, _, h, fun h => by cases h⟩
      | ok _ =>
        rw [PyM.lift_bind_of_eq_ok hsend, PyM.modify_bind_apply] at hrun
        have hnext : Airing w cfg envs start n ((done ++ [node.next]).map StatusNode.nodeId)
            { tx with
              nodes := done ++ node.next :: rest
              rfSeq := nextStatusSeq tx.rfSeq
              aired := tx.aired ++ [⟨node, frame, tx.channel⟩] } :=
          h.send hids hnodes henv hframe rfl rfl
        have hrest := ih hnext (List.append_cons done node.next rest) hrun
        exact hrest

/-- **A pass** is a hop, a wait or a cycle. -/
theorem airing_statusPass (hids : (start.map StatusNode.nodeId).Nodup) (henv : env ∈ envs)
    (h : Airing w cfg envs start tx.sentCycles [] tx)
    {result : EStateM.Result PyError StatusTx Unit} (hrun : statusPass w cfg env tx = result) :
    ∃ ids, Airing w cfg envs start (resultState result).sentCycles ids (resultState result) ∧
      (result = .ok () (resultState result) → ids = []) := by
  rw [statusPass, PyM.get_bind_apply] at hrun
  cases hhop : nextHop cfg env.utcMs tx.channel with
  | some channel =>
    rw [hhop] at hrun
    dsimp only at hrun
    cases htuned : env.hop with
    | error error =>
      rw [switchStatusChannel, PyM.lift_bind_of_eq_error htuned] at hrun
      subst hrun
      exact ⟨[], h, fun _ => rfl⟩
    | ok _ =>
      rw [switchStatusChannel, PyM.lift_bind_of_eq_ok htuned] at hrun
      subst hrun
      exact ⟨[], h.congr rfl rfl, fun _ => rfl⟩
  | none =>
    rw [hhop] at hrun
    dsimp only at hrun
    split_ifs at hrun with hguard
    · subst hrun
      exact ⟨[], h, fun _ => rfl⟩
    · have hnone : Airing w cfg envs start tx.sentCycles
          (([] : List StatusNode).map StatusNode.nodeId) tx := h
      obtain ⟨hcycles, ids, hairing, hall⟩ :=
        airing_sendStatuses hids henv tx.nodes hnone (List.nil_append _).symm rfl
      rw [PyM.bind_apply] at hrun
      generalize sendStatuses w cfg env [] tx.nodes tx = sent at hcycles hairing hall hrun
      cases sent with
      | error error tx' =>
        subst hrun
        rw [← hcycles] at hairing
        exact ⟨ids, hairing, fun h => by cases h⟩
      | ok _ tx' =>
        subst hrun
        obtain rfl := hall rfl
        refine ⟨[], ?_, fun _ => rfl⟩
        have hcycle := hairing.cycle
        rw [← hcycles] at hcycle
        exact hcycle.congr rfl rfl

/-- **Every run**, also one that an exception ends: whatever hops and waits come between, what
was sent of every node are its states one after the other. -/
theorem airing_run (hids : (start.map StatusNode.nodeId).Nodup) {rest : List StatusPassEnv}
    (hrest : rest ⊆ envs) (h : Airing w cfg envs start tx.sentCycles [] tx) :
    ∃ ids, Airing w cfg envs start (resultState (statusLoop w cfg rest tx)).sentCycles ids
      (resultState (statusLoop w cfg rest tx)) := by
  induction rest generalizing tx with
  | nil => exact ⟨[], h⟩
  | cons env rest ih =>
    rw [statusLoop, PyM.get_bind_apply]
    split_ifs with hcount
    · obtain ⟨ids, hpass, hall⟩ := airing_statusPass hids (hrest List.mem_cons_self) h rfl
      rw [PyM.bind_apply]
      generalize statusPass w cfg env tx = result at hpass hall
      cases result with
      | error error tx' => exact ⟨ids, hpass⟩
      | ok _ tx' =>
        obtain rfl := hall rfl
        exact ih (fun env henv => hrest (List.mem_cons_of_mem _ henv)) hpass
    · exact ⟨[], h⟩

/-- At the start nothing was sent. -/
theorem airing_initial (channel : Option ℤ) (guardUntil : ℚ) :
    Airing w cfg envs start 0 [] (StatusTx.initial start channel guardUntil) := by
  refine ⟨?_, fun node _ => rfl, fun sent h => absurd h List.not_mem_nil,
    fun sent h => absurd h List.not_mem_nil⟩
  exact (List.map_id start).symm

end

end KovaWfb
