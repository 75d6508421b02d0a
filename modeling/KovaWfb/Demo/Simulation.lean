/-
# The simulation thread

`sim_loop` of `demo/dashboard_server.py` (816 to 878), between the calls of the other threads.  A
tick reads the jammed nodes once; for each of the three nodes that is not among them the loop
makes a frame, behind a call of `node_meta`, and reports it, in a call of `ingest_observation`.
Other threads may run in front of each of these calls, so a frame says what was true when it
was made.

`simulation_sound`: however the calls fall between each other, nothing of the simulated nodes
counts as lost or repeated, and a node that a tick finds jammed stays as it is until a request
clears it.
-/

import KovaWfb.Demo.Payload
import KovaWfb.Demo.Records
import KovaWfb.Demo.StatusLink
import KovaWfb.Lib.Actions

namespace KovaWfb

/-- The nodes of the simulation. -/
def simNodes : List ℤ := [1, 2, 3]

/-- `_next_seq`. -/
def nextSimSeq (seq : ℤ) : ℤ := nextStatusSeq seq

/-- A frame that is made and not reported yet. -/
structure SimFrame where
  nodeId : ℤ
  viaId : ℤ
  seq : ℤ
  rssi : ℤ
  payload : Bytes

/-- The variables of `sim_loop`: in a tick, the nodes that it found jammed and those that are
left, and the frame that it is about to report. -/
structure SimLoop where
  seqByNode : ℤ → ℤ
  batteryByNode : ℤ → ℤ
  jammed : List ℤ
  left : List ℤ
  made : Option SimFrame
  running : Bool

/-- The loop in front of its first tick. -/
def SimLoop.initial : SimLoop where
  seqByNode := fun _ => 0
  batteryByNode := fun nodeId => if nodeId = 1 then 96 else if nodeId = 2 then 89 else 82
  jammed := []
  left := []
  made := none
  running := true

/-- The dashboard with its simulation. -/
structure Simulated where
  dash : Dashboard
  sim : SimLoop

/-- What a thread does next: a call of the radio loop or of a request; or the loop begins a tick,
makes the frame of the next node (whether a random number drains its battery, and how it
varies the signal), or reports it. -/
inductive SimAction (py : Interpreter)
  | call (input : DashboardInput py)
  | tick
  | make (drained : Bool) (jitter : ℤ)
  | report (now ts : ℚ)

/-- The `dict` of a frame. -/
def simFields (nodeId : ℤ) (record : NodeRecord) (battery : ℤ) : DocFields :=
  [(codePoints "id", .int nodeId), (codePoints "label", .str (codePoints record.label)),
    (codePoints "kind", .str (codePoints "simulated")), (codePoints "x", .float (.finite record.x)),
    (codePoints "y", .float (.finite record.y)), (codePoints "battery", .int battery),
    (codePoints "state", .str (codePoints "online")),
    (codePoints "message", .str (codePoints "heartbeat"))]

/-- The node a frame comes through, and its signal. -/
def simVia (jammed : List ℤ) (nodeId jitter : ℤ) : ℤ × ℤ :=
  if nodeId = 3 ∧ 2 ∉ jammed then (2, -61 + jitter) else (nodeId, -42 - nodeId * 5 + jitter)

/-- The arguments of `ingest_observation`. -/
def SimFrame.observation (frame : SimFrame) : Observation where
  originId := frame.nodeId
  viaId := frame.viaId
  seq := some frame.seq
  payload := frame.payload
  messageType := "status"
  rssi := some frame.rssi
  freq := some 5180
  bandwidth := some 20
  mcsIndex := some 1
  source := "sim"
  kind := "simulated"

namespace Simulated

variable {py : Interpreter}

/-- `for node_id in (1, 2, 3)`, up to the call of `ingest_observation`. -/
def make (w : JsonWriter) (s : Simulated) (nodeId : ℤ) (left : List ℤ) (drained : Bool)
    (jitter : ℤ) : Simulated :=
  if nodeId ∈ s.sim.jammed then { s with sim := { s.sim with left } }
  else
    let dash := { s.dash with mesh := s.dash.mesh.ensureNode nodeId }
    let seq := nextSimSeq (s.sim.seqByNode nodeId)
    let battery := max 8 (s.sim.batteryByNode nodeId - if drained then 1 else 0)
    let (viaId, rssi) := simVia s.sim.jammed nodeId jitter
    let sim := { s.sim with
      left
      seqByNode := Function.update s.sim.seqByNode nodeId seq
      batteryByNode := Function.update s.sim.batteryByNode nodeId battery }
    match dumps w .compact (.obj (simFields nodeId (dash.mesh.node nodeId) battery)) with
    | .ok payload => ⟨dash, { sim with made := some { nodeId, viaId, seq, rssi, payload } }⟩
    | .error _ => ⟨dash, { sim with running := false }⟩

/-- The call of `ingest_observation`; an exception ends the thread. -/
def report (py : Interpreter) (s : Simulated) (now ts : ℚ) (frame : SimFrame) : Simulated :=
  match ingestObservation (readStatus py) now ts frame.observation s.dash.mesh with
  | .ok () mesh => ⟨{ s.dash with mesh }, { s.sim with made := none }⟩
  | .error _ mesh => ⟨{ s.dash with mesh }, { s.sim with made := none, running := false }⟩

/-- One action, if it comes next in its thread. -/
def step (w : JsonWriter) (s : Simulated) : SimAction py → Option Simulated
  | .call input => some { s with dash := s.dash.step input }
  | .tick =>
      if s.sim.running = true ∧ s.sim.left = [] ∧ s.sim.made = none then
        some { s with sim := { s.sim with
          jammed := s.dash.mesh.jammedSimNodes
          left := simNodes } }
      else none
  | .make drained jitter =>
      match s.sim.running, s.sim.made, s.sim.left with
      | true, none, nodeId :: left => some (s.make w nodeId left drained jitter)
      | _, _, _ => none
  | .report now ts =>
      match s.sim.running, s.sim.made with
      | true, some frame => some (s.report py now ts frame)
      | _, _ => none

end Simulated

/-! ### Frames of the simulation -/

/-- Coordinates that stay as they are when they are written, read and clamped. -/
structure NodeRecord.Placed (record : NodeRecord) (w : JsonWriter) : Prop where
  x : 0 ≤ record.x ∧ record.x ≤ 1
  y : 0 ≤ record.y ∧ record.y ≤ 1
  xReads : ReadsBack w.floatRepr record.x
  yReads : ReadsBack w.floatRepr record.y

/-- A battery as the simulation has them. -/
def SimBattery (battery : ℤ) : Prop := 8 ≤ battery ∧ battery ≤ 96

section

variable {py : Interpreter} {w : JsonWriter} {nodeId battery : ℤ} {record : NodeRecord}

/-- **A frame of the simulation is written, and read back.** -/
theorem loadsText_simFields (hwrite : 1 ≤ w.depthLimit) (hread : 1 ≤ py.depthLimit)
    (hid : nodeId ∈ simNodes) (hbattery : SimBattery battery) (hplaced : record.Placed w) :
    ∃ payload, dumps w .compact (.obj (simFields nodeId record battery)) = .ok payload ∧
      loadsText py.depthLimit (safeText payload).toList =
        .ok (.obj (simFields nodeId record battery)) := by
  have hwrite' : (JsonDoc.obj (simFields nodeId record battery)).depth ≤ w.depthLimit := hwrite
  have hread' : (JsonDoc.obj (simFields nodeId record battery)).depth ≤ py.depthLimit := hread
  have hfloat : ∀ {value : ℚ}, ReadsBack w.floatRepr value → ∀ q,
      JsonFloat.finite value = .finite q → ReadsBack w.floatRepr q := by
    rintro value hvalue q ⟨⟩
    exact hvalue
  have hdigits : (Nat.toDigits 10 battery.natAbs).length ≤ 4300 := by
    obtain ⟨hlow, hhigh⟩ := hbattery
    exact digits_of_lt (by omega)
  have hidDigits : (Nat.toDigits 10 nodeId.natAbs).length ≤ 4300 := by
    simp only [simNodes, List.mem_cons, List.not_mem_nil, or_false] at hid
    exact digits_of_lt (by omega)
  have hplain : (JsonDoc.obj (simFields nodeId record battery)).Plain w.floatRepr := by
    refine ⟨?_, ⟨plain_codePoints _, hidDigits⟩, ⟨plain_codePoints _, plain_codePoints _⟩,
      ⟨plain_codePoints _, plain_codePoints _⟩, ⟨plain_codePoints _, hfloat hplaced.xReads⟩,
      ⟨plain_codePoints _, hfloat hplaced.yReads⟩, ⟨plain_codePoints _, hdigits⟩,
      ⟨plain_codePoints _, plain_codePoints _⟩, ⟨plain_codePoints _, plain_codePoints _⟩, trivial⟩
    show (["id", "label", "kind", "x", "y", "battery", "state", "message"].map codePoints).Nodup
    decide
  obtain ⟨payload, hpayload, -⟩ := @loads_dumps w .compact py.depthLimit _ hplain hwrite' hread'
  exact ⟨payload, hpayload,
    (loadsText_of_dumps (List.cons_ne_nil _ _) hplain hwrite' hread' hpayload).2⟩

/-- A frame that the loop made: it is one of the frames that the dashboard can be given. -/
structure SimFrame.Made (frame : SimFrame) (w : JsonWriter) (report : SimReport py) : Prop where
  observation : report.observation = frame.observation
  battery : SimBattery report.battery
  x : ∃ x : ℚ, report.x = .finite x ∧ (0 ≤ x ∧ x ≤ 1) ∧ ReadsBack w.floatRepr x
  y : ∃ y : ℚ, report.y = .finite y ∧ (0 ≤ y ∧ y ≤ 1) ∧ ReadsBack w.floatRepr y

/-- The frame as the dashboard is given it. -/
theorem exists_report (hplaced : record.Placed w) (hbattery : SimBattery battery) {payload : Bytes}
    (hreads : loadsText py.depthLimit (safeText payload).toList =
      .ok (.obj (simFields nodeId record battery))) (viaId seq rssi : ℤ) :
    ∃ report : SimReport py, (SimFrame.mk nodeId viaId seq rssi payload).Made w report :=
  ⟨{ nodeId, viaId, seq, rssi, label := codePoints record.label, x := .finite record.x,
     y := .finite record.y, battery, payload, reads := hreads },
    rfl, hbattery, ⟨_, rfl, hplaced.x, hplaced.xReads⟩, ⟨_, rfl, hplaced.y, hplaced.yReads⟩⟩

end

/-! ### The numbers of a node -/

theorem nextSimSeq_bounds {seq : ℤ} (h : 0 ≤ seq ∧ seq < 2 ^ 32) :
    1 ≤ nextSimSeq seq ∧ nextSimSeq seq < 2 ^ 32 ∧ nextSimSeq seq ≤ seq + 1 ∧
      nextSimSeq seq ≠ seq := by
  unfold nextSimSeq nextStatusSeq
  dsimp only
  split_ifs <;> omega

theorem iterate_nextSimSeq_bounds (n : ℕ) :
    0 ≤ nextSimSeq^[n] 0 ∧ nextSimSeq^[n] 0 < 2 ^ 32 := by
  induction n with
  | zero => exact ⟨le_rfl, by decide⟩
  | succ n ih =>
    rw [Function.iterate_succ_apply']
    obtain ⟨hlow, hhigh, -⟩ := nextSimSeq_bounds ih
    exact ⟨by omega, hhigh⟩

/-- The account of a node that has reported `n` frames: none is lost, and none came twice. -/
def simAccount (n : ℕ) : Account := ⟨0, 0, if n = 0 then none else some (nextSimSeq^[n] 0)⟩

/-- **The next number** is neither ahead of the one before nor the same, also where the numbers
wrap around. -/
theorem simAccount_succ (n : ℕ) :
    (simAccount n).count (nextSimSeq^[n + 1] 0) = simAccount (n + 1) := by
  cases n with
  | zero => rfl
  | succ n =>
    obtain ⟨-, -, hstep, hne⟩ := nextSimSeq_bounds (iterate_nextSimSeq_bounds (n + 1))
    have hnext : nextSimSeq^[n + 1 + 1] 0 = nextSimSeq (nextSimSeq^[n + 1] 0) :=
      Function.iterate_succ_apply' nextSimSeq (n + 1) 0
    rw [← hnext] at hstep hne
    have hlost : Steps.after (some (nextSimSeq^[n + 1] 0)) (nextSimSeq^[n + 1 + 1] 0) = 0 := by
      rw [Steps.after, Steps.between]
      omega
    have hsame : (some (nextSimSeq^[n + 1] 0) : Option ℤ) ≠ some (nextSimSeq^[n + 1 + 1] 0) :=
      fun h => hne (Option.some.inj h).symm
    simp only [simAccount, Account.count, Nat.succ_ne_zero, if_false, hlost, if_neg hsame, add_zero]

/-! ### What an action can do -/

/-- How many frames of a node are made and not reported. -/
def SimLoop.unreported (sim : SimLoop) (nodeId : ℤ) : ℕ :=
  if sim.made.map SimFrame.nodeId = some nodeId then 1 else 0

theorem SimLoop.unreported_of_none {sim : SimLoop} {nodeId : ℤ} (h : sim.made = none) :
    sim.unreported nodeId = 0 := by
  rw [unreported, h]
  rfl

theorem SimLoop.unreported_of_made {sim : SimLoop} {nodeId : ℤ} {frame : SimFrame}
    (h : sim.made = some frame) :
    sim.unreported nodeId = if nodeId = frame.nodeId then 1 else 0 := by
  rw [unreported, h]
  simp only [Option.map_some, Option.some.injEq, eq_comm]

/-- The dashboard and its simulation, when each node has reported `count` frames. -/
structure SimSound (w : JsonWriter) (py : Interpreter) (count : ℤ → ℕ) (s : Simulated) : Prop where
  running : s.sim.running = true
  left : ∀ nodeId ∈ s.sim.left, nodeId ∈ simNodes
  battery : ∀ nodeId, SimBattery (s.sim.batteryByNode nodeId)
  seq : ∀ nodeId, s.sim.seqByNode nodeId = nextSimSeq^[count nodeId + s.sim.unreported nodeId] 0
  made : ∀ frame ∈ s.sim.made, frame.nodeId ∈ simNodes ∧ frame.nodeId ∉ s.sim.jammed ∧
    frame.seq = s.sim.seqByNode frame.nodeId ∧ ∃ report : SimReport py, frame.Made w report
  packets : ∀ nodeId ∈ simNodes, (s.dash.mesh.node nodeId).packets = count nodeId
  account : ∀ nodeId ∈ simNodes, (s.dash.mesh.node nodeId).account = simAccount (count nodeId)
  placed : ∀ nodeId ∈ simNodes, (s.dash.mesh.node nodeId).Placed w
  shown : ∀ nodeId ∈ simNodes, ∀ battery ∈ (s.dash.mesh.node nodeId).battery, SimBattery battery

/-- **What an action can do**: nothing that the loop does ends it. -/
inductive SimSteps (w : JsonWriter) {py : Interpreter} (s : Simulated) :
    SimAction py → Simulated → Prop
  | call (input : DashboardInput py) :
      SimSteps w s (.call input) { s with dash := s.dash.step input }
  | tick (hmade : s.sim.made = none) (hleft : s.sim.left = []) :
      SimSteps w s .tick { s with sim := { s.sim with
        jammed := s.dash.mesh.jammedSimNodes
        left := simNodes } }
  | skip {nodeId : ℤ} {left : List ℤ} (drained : Bool) (jitter : ℤ) (hmade : s.sim.made = none)
      (hleft : s.sim.left = nodeId :: left) (hjammed : nodeId ∈ s.sim.jammed) :
      SimSteps w s (.make drained jitter) { s with sim := { s.sim with left } }
  | make {frame : SimFrame} {report : SimReport py} {left : List ℤ} {battery : ℤ} (drained : Bool)
      (jitter : ℤ) (hmade : s.sim.made = none) (hleft : s.sim.left = frame.nodeId :: left)
      (hjammed : frame.nodeId ∉ s.sim.jammed)
      (hseq : frame.seq = nextSimSeq (s.sim.seqByNode frame.nodeId)) (hbattery : SimBattery battery)
      (hframe : frame.Made w report) :
      SimSteps w s (.make drained jitter)
        ⟨s.dash.step (.nodeMeta frame.nodeId : DashboardInput py),
          { s.sim with
            left
            seqByNode := Function.update s.sim.seqByNode frame.nodeId frame.seq
            batteryByNode := Function.update s.sim.batteryByNode frame.nodeId battery
            made := some frame }⟩
  | report {frame : SimFrame} {report : SimReport py} (now ts : ℚ) (hmade : s.sim.made = some frame)
      (hframe : frame.Made w report) :
      SimSteps w s (.report now ts)
        ⟨s.dash.step (.simulated now ts report), { s.sim with made := none }⟩

section

variable {py : Interpreter} {w : JsonWriter} {count : ℤ → ℕ} {s s' : Simulated}
  {action : SimAction py}

/-- **A frame that is made** is written, and is one that the dashboard can be given. -/
theorem SimSound.steps_make (h : SimSound w py count s) (hwrite : 1 ≤ w.depthLimit)
    (hread : 1 ≤ py.depthLimit) (hmade : s.sim.made = none) {nodeId : ℤ} {left : List ℤ}
    (hleft : s.sim.left = nodeId :: left) (drained : Bool) (jitter : ℤ) :
    SimSteps w s (.make drained jitter : SimAction py) (s.make w nodeId left drained jitter) := by
  unfold Simulated.make
  by_cases hjammed : nodeId ∈ s.sim.jammed
  · rw [if_pos hjammed]
    exact .skip drained jitter hmade hleft hjammed
  · have hid : nodeId ∈ simNodes := h.left nodeId (hleft ▸ List.mem_cons_self)
    have hbattery : SimBattery (max 8 (s.sim.batteryByNode nodeId - if drained then 1 else 0)) := by
      obtain ⟨hlow, hhigh⟩ := h.battery nodeId
      refine ⟨le_max_left _ _, max_le (by decide) ?_⟩
      split_ifs <;> omega
    have hplaced := h.placed nodeId hid
    obtain ⟨payload, hpayload, hreads⟩ := loadsText_simFields hwrite hread hid hbattery hplaced
    have hsame : (s.dash.mesh.ensureNode nodeId).node nodeId = s.dash.mesh.node nodeId :=
      MeshState.node_ensureNode
    obtain ⟨report, hframe⟩ := exists_report hplaced hbattery hreads
      (simVia s.sim.jammed nodeId jitter).1 (nextSimSeq (s.sim.seqByNode nodeId))
      (simVia s.sim.jammed nodeId jitter).2
    rw [if_neg hjammed]
    dsimp only
    rw [hsame, hpayload]
    exact .make drained jitter hmade hleft hjammed rfl hbattery hframe

/-- A made frame is reported, and nothing is raised. -/
theorem report_eq {frame : SimFrame} {report : SimReport py} (hframe : frame.Made w report)
    (now ts : ℚ) : s.report py now ts frame =
      ⟨s.dash.step (.simulated now ts report), { s.sim with made := none }⟩ := by
  obtain ⟨status, -, hingest, hstep⟩ := @Dashboard.step_simulated py s.dash now ts report
  rw [Simulated.report, ← hframe.observation, hingest]
  dsimp only
  rw [hstep]

theorem SimSound.steps (h : SimSound w py count s) (hwrite : 1 ≤ w.depthLimit)
    (hread : 1 ≤ py.depthLimit) (hstep : s.step w action = some s') : SimSteps w s action s' := by
  cases action with
  | call input =>
    obtain rfl := Option.some.inj hstep
    exact .call input
  | tick =>
    rw [Simulated.step] at hstep
    split_ifs at hstep with henabled
    obtain rfl := Option.some.inj hstep
    exact .tick henabled.2.2 henabled.2.1
  | make drained jitter =>
    rw [Simulated.step, h.running] at hstep
    split at hstep
    · rename_i nodeId left _ hmade hleft
      obtain rfl := Option.some.inj hstep
      exact h.steps_make hwrite hread hmade hleft drained jitter
    · cases hstep
  | report now ts =>
    rw [Simulated.step, h.running] at hstep
    split at hstep
    · rename_i frame _ hmade
      obtain rfl := Option.some.inj hstep
      obtain ⟨-, -, -, report, hframe⟩ := h.made frame hmade
      rw [report_eq hframe]
      exact .report now ts hmade hframe
    · cases hstep

end

/-! ### What every action keeps -/

/-- A call that is not about the nodes of the simulation. -/
def SimAction.Spares {py : Interpreter} : SimAction py → Prop
  | .call input => input.Spares simNodes
  | .tick | .make .. | .report .. => True

section

variable {py : Interpreter} {w : JsonWriter} {count : ℤ → ℕ} {s s' : Simulated}
  {action : SimAction py}

/-- Of the dashboard only the records of the nodes matter. -/
theorem SimSound.setDash (h : SimSound w py count s) {dash : Dashboard}
    (hnodes : ∀ nodeId ∈ simNodes, dash.mesh.node nodeId = s.dash.mesh.node nodeId) :
    SimSound w py count { s with dash } where
  running := h.running
  left := h.left
  battery := h.battery
  seq := h.seq
  made := h.made
  packets := fun nodeId hid => (hnodes nodeId hid).symm ▸ h.packets nodeId hid
  account := fun nodeId hid => (hnodes nodeId hid).symm ▸ h.account nodeId hid
  placed := fun nodeId hid => (hnodes nodeId hid).symm ▸ h.placed nodeId hid
  shown := fun nodeId hid => (hnodes nodeId hid).symm ▸ h.shown nodeId hid

/-- **Making a frame** takes the next number of its node, and changes no record. -/
theorem SimSound.make (h : SimSound w py count s) {frame : SimFrame} {report : SimReport py}
    {left : List ℤ} {battery : ℤ} (hmade : s.sim.made = none)
    (hleft : s.sim.left = frame.nodeId :: left) (hjammed : frame.nodeId ∉ s.sim.jammed)
    (hseq : frame.seq = nextSimSeq (s.sim.seqByNode frame.nodeId)) (hbattery : SimBattery battery)
    (hframe : frame.Made w report) :
    SimSound w py count ⟨s.dash, { s.sim with
      left
      seqByNode := Function.update s.sim.seqByNode frame.nodeId frame.seq
      batteryByNode := Function.update s.sim.batteryByNode frame.nodeId battery
      made := some frame }⟩ := by
  have hid : frame.nodeId ∈ simNodes := h.left frame.nodeId (hleft ▸ List.mem_cons_self)
  refine ⟨h.running, fun other hother => ?_, fun other => ?_, fun other => ?_, ?_, h.packets,
    h.account, h.placed, h.shown⟩
  · exact h.left other (hleft ▸ List.mem_cons_of_mem frame.nodeId hother)
  · dsimp only
    by_cases hother : other = frame.nodeId
    · rw [hother, Function.update_self]
      exact hbattery
    · rw [Function.update_of_ne hother]
      exact h.battery other
  · have hnumber := h.seq other
    rw [SimLoop.unreported_of_none hmade, add_zero] at hnumber
    rw [SimLoop.unreported_of_made rfl]
    dsimp only
    by_cases hother : other = frame.nodeId
    · rw [hother] at hnumber ⊢
      rw [Function.update_self, hseq, hnumber, if_pos rfl, Function.iterate_succ_apply']
    · rw [Function.update_of_ne hother, hnumber, if_neg hother, add_zero]
  · rintro made hmade
    obtain rfl := Option.some.inj hmade
    refine ⟨hid, hjammed, ?_, report, hframe⟩
    dsimp only
    rw [Function.update_self]

/-- A frame of the simulation leaves the records of the others alone. -/
theorem node_simulated_of_ne {d : Dashboard} {now ts : ℚ} {report : SimReport py} {other : ℤ}
    (h : other ≠ report.nodeId) :
    (d.step (.simulated now ts report)).mesh.node other = d.mesh.node other := by
  have hspares : (DashboardInput.simulated now ts report).Spares [other] := by
    simpa [DashboardInput.Spares] using Ne.symm h
  exact Dashboard.step_spares hspares List.mem_cons_self

theorem SimFrame.Made.nodeId {frame : SimFrame} {report : SimReport py} (h : frame.Made w report) :
    report.nodeId = frame.nodeId :=
  congrArg Observation.originId h.observation

/-- **Reporting a frame** counts it for its node. -/
theorem SimSound.report (h : SimSound w py count s) {frame : SimFrame} {report : SimReport py}
    (hmade : s.sim.made = some frame) (hframe : frame.Made w report) (now ts : ℚ) :
    SimSound w py (Function.update count frame.nodeId (count frame.nodeId + 1))
      ⟨s.dash.step (.simulated now ts report), { s.sim with made := none }⟩ := by
  obtain ⟨hid, hjammed, hseq, -⟩ := h.made frame hmade
  have hnumber : report.seq = frame.seq :=
    Option.some.inj (congrArg Observation.seq hframe.observation)
  obtain ⟨record, hrecord, hpackets, haccount, hbattery, hx, hy⟩ :=
    @Dashboard.node_simulated py s.dash now ts report
  rw [hframe.nodeId] at hrecord hpackets haccount
  -- What holds of the new record, and held of the others, holds of all.
  have hall : ∀ P : ℤ → NodeRecord → Prop, P frame.nodeId record →
      (∀ other ∈ simNodes, other ≠ frame.nodeId → P other (s.dash.mesh.node other)) →
      ∀ other ∈ simNodes, P other ((s.dash.step (.simulated now ts report)).mesh.node other) := by
    intro P hown hrest other hother
    by_cases heq : other = frame.nodeId
    · rw [heq, hrecord]
      exact hown
    · rw [node_simulated_of_ne (hframe.nodeId ▸ heq)]
      exact hrest other hother heq
  have hcount := hall fun other record => record.packets = Function.update count frame.nodeId
    (count frame.nodeId + 1) other
  have hnumbers := hall fun other record => record.account = simAccount
    (Function.update count frame.nodeId (count frame.nodeId + 1) other)
  have hplaces := hall fun _ record => record.Placed w
  have hlevels := hall fun _ record => ∀ battery ∈ record.battery, SimBattery battery
  rw [Function.update_self] at hcount hnumbers
  have hreported : s.sim.seqByNode frame.nodeId = nextSimSeq^[count frame.nodeId + 1] 0 := by
    rw [h.seq, SimLoop.unreported_of_made hmade, if_pos rfl]
  refine ⟨h.running, h.left, h.battery, fun other => ?_, fun _ hnone => ?_, hcount ?_ ?_,
    hnumbers ?_ ?_, hplaces ?_ ?_, hlevels ?_ ?_⟩
  · rw [SimLoop.unreported_of_none rfl, add_zero]
    by_cases hother : other = frame.nodeId
    · rw [hother, Function.update_self]
      exact hreported
    · rw [Function.update_of_ne hother, h.seq, SimLoop.unreported_of_made hmade, if_neg hother,
        add_zero]
  · exact absurd hnone (Option.not_mem_none _)
  · rw [hpackets, h.packets frame.nodeId hid]
    push_cast
    rfl
  · intro other hother hne
    rw [Function.update_of_ne hne]
    exact h.packets other hother
  · rw [haccount, h.account frame.nodeId hid, hnumber, hseq, hreported]
    exact simAccount_succ _
  · intro other hother hne
    rw [Function.update_of_ne hne]
    exact h.account other hother
  · obtain ⟨x, hxValue, hxRange, hxReads⟩ := hframe.x
    obtain ⟨y, hyValue, hyRange, hyReads⟩ := hframe.y
    rw [hxValue, clamp01_of_mem hxRange] at hx
    rw [hyValue, clamp01_of_mem hyRange] at hy
    exact ⟨hx ▸ hxRange, hy ▸ hyRange, hx ▸ hxReads, hy ▸ hyReads⟩
  · exact fun other hother _ => h.placed other hother
  · obtain ⟨hlow, hhigh⟩ := hframe.battery
    rw [hbattery]
    rintro battery ⟨⟩
    exact ⟨by omega, by omega⟩
  · exact fun other hother _ => h.shown other hother

/-- **Every action keeps it.** -/
theorem SimSound.next (h : SimSound w py count s) (hspares : action.Spares)
    (hsteps : SimSteps w s action s') : ∃ count', SimSound w py count' s' := by
  cases hsteps with
  | call input => exact ⟨count, h.setDash fun nodeId hid => Dashboard.step_spares hspares hid⟩
  | tick hmade =>
    refine ⟨count, h.running, fun _ hid => hid, h.battery, h.seq, fun frame hframe => ?_, h.packets,
      h.account, h.placed, h.shown⟩
    exact absurd (hmade ▸ hframe) (Option.not_mem_none frame)
  | skip drained jitter hmade hleft =>
    refine ⟨count, h.running, fun other hother => ?_, h.battery, h.seq, h.made, h.packets,
      h.account, h.placed, h.shown⟩
    exact h.left other (hleft ▸ List.mem_cons_of_mem _ hother)
  | make drained jitter hmade hleft hjammed hseq hbattery hframe =>
    refine ⟨count, (h.make hmade hleft hjammed hseq hbattery hframe).setDash fun _ _ => ?_⟩
    exact MeshState.node_ensureNode
  | report now ts hmade hframe => exact ⟨_, h.report hmade hframe now ts⟩

end

/-! ### A tick -/

/-- A tick that found these nodes jammed when each node had reported `packets` frames: every other
node reports one frame more. -/
structure InTick (jammed : List ℤ) (packets : ℤ → ℤ) (s : Simulated) : Prop where
  found : s.sim.jammed = jammed
  nodup : s.sim.left.Nodup
  made : ∀ frame ∈ s.sim.made, frame.nodeId ∉ jammed ∧ frame.nodeId ∉ s.sim.left
  ahead : ∀ nodeId ∈ simNodes,
    (nodeId ∈ jammed ∨ nodeId ∈ s.sim.left ∨ ∃ frame ∈ s.sim.made, frame.nodeId = nodeId) →
    (s.dash.mesh.node nodeId).packets = packets nodeId
  done : ∀ nodeId ∈ simNodes, nodeId ∉ jammed → nodeId ∉ s.sim.left →
    (∀ frame ∈ s.sim.made, frame.nodeId ≠ nodeId) →
    (s.dash.mesh.node nodeId).packets = packets nodeId + 1

section

variable {py : Interpreter} {w : JsonWriter} {s s' : Simulated} {action : SimAction py}
  {jammed : List ℤ} {packets : ℤ → ℤ}

theorem inTick_tick (hmade : s.sim.made = none) :
    InTick s.dash.mesh.jammedSimNodes (fun nodeId => (s.dash.mesh.node nodeId).packets)
      { s with sim := { s.sim with
        jammed := s.dash.mesh.jammedSimNodes
        left := simNodes } } where
  found := rfl
  nodup := show simNodes.Nodup by decide
  made := fun frame hframe => absurd (hmade ▸ hframe) (Option.not_mem_none frame)
  ahead := fun _ _ _ => rfl
  done := fun _ hid _ hleft => absurd hid hleft

theorem InTick.next (h : InTick jammed packets s) (hspares : action.Spares) (htick : action ≠ .tick)
    (hsteps : SimSteps w s action s') : InTick jammed packets s' := by
  cases hsteps with
  | call input =>
    have hsame : ∀ nodeId ∈ simNodes,
        (s.dash.step input).mesh.node nodeId = s.dash.mesh.node nodeId := fun nodeId hid =>
      Dashboard.step_spares hspares hid
    exact ⟨h.found, h.nodup, h.made, fun nodeId hid => (hsame nodeId hid).symm ▸ h.ahead nodeId hid,
      fun nodeId hid => (hsame nodeId hid).symm ▸ h.done nodeId hid⟩
  | tick => exact absurd rfl htick
  | @skip skipped left drained jitter hmade hleft hjammed =>
    have hnodup := h.nodup
    have hmem : ∀ other, other ∈ s.sim.left ↔ other = skipped ∨ other ∈ left := fun other => by
      rw [hleft, List.mem_cons]
    rw [hleft] at hnodup
    rw [h.found] at hjammed
    refine ⟨h.found, hnodup.of_cons, fun frame hframe => ?_, fun nodeId hid hwhere => ?_,
      fun nodeId hid hne hrest => ?_⟩
    · exact absurd (hmade ▸ hframe) (Option.not_mem_none frame)
    · refine h.ahead nodeId hid (hwhere.imp_right (Or.imp_left fun hrest => ?_))
      exact (hmem nodeId).2 (Or.inr hrest)
    · refine h.done nodeId hid hne fun hbefore => ?_
      rcases (hmem nodeId).1 hbefore with rfl | hbefore
      · exact hne hjammed
      · exact hrest hbefore
  | @make frame report left battery drained jitter hmade hleft hjammed =>
    have hnodup := h.nodup
    have hmem : ∀ other, other ∈ s.sim.left ↔ other = frame.nodeId ∨ other ∈ left := fun other => by
      rw [hleft, List.mem_cons]
    have hsame : ∀ nodeId, (s.dash.mesh.ensureNode frame.nodeId).node nodeId =
        s.dash.mesh.node nodeId := fun _ => MeshState.node_ensureNode
    rw [hleft, List.nodup_cons] at hnodup
    rw [h.found] at hjammed
    refine ⟨h.found, hnodup.2, fun made hframe => ?_, fun nodeId hid hwhere => ?_,
      fun nodeId hid hne hrest hother => ?_⟩
    · obtain rfl := Option.some.inj hframe
      exact ⟨hjammed, hnodup.1⟩
    · rw [Dashboard.step, hsame]
      refine h.ahead nodeId hid ?_
      rcases hwhere with hwhere | hwhere | ⟨made, hframe, rfl⟩
      · exact Or.inl hwhere
      · exact Or.inr (Or.inl ((hmem nodeId).2 (Or.inr hwhere)))
      · obtain rfl := Option.some.inj hframe
        exact Or.inr (Or.inl ((hmem _).2 (Or.inl rfl)))
    · rw [Dashboard.step, hsame]
      refine h.done nodeId hid hne (fun hbefore => ?_) fun made hframe => ?_
      · rcases (hmem nodeId).1 hbefore with rfl | hbefore
        · exact hother frame rfl rfl
        · exact hrest hbefore
      · exact absurd (hmade ▸ hframe) (Option.not_mem_none made)
  | @report frame report now ts hmade hframe =>
    obtain ⟨hjammed, hleft⟩ := h.made frame hmade
    obtain ⟨record, hrecord, hpackets, -⟩ := @Dashboard.node_simulated py s.dash now ts report
    rw [hframe.nodeId] at hrecord hpackets
    refine ⟨h.found, h.nodup, fun made hnone => ?_, fun nodeId hid hwhere => ?_,
      fun nodeId hid hne hrest hother => ?_⟩
    · exact absurd hnone (Option.not_mem_none made)
    · have hne : nodeId ≠ frame.nodeId := by
        rintro rfl
        rcases hwhere with hwhere | hwhere | ⟨made, hnone, -⟩
        · exact hjammed hwhere
        · exact hleft hwhere
        · exact absurd hnone (Option.not_mem_none made)
      rw [node_simulated_of_ne (hframe.nodeId ▸ hne)]
      refine h.ahead nodeId hid (hwhere.imp_right (Or.imp_right ?_))
      rintro ⟨made, hnone, -⟩
      exact absurd hnone (Option.not_mem_none made)
    · by_cases heq : nodeId = frame.nodeId
      · rw [heq, hrecord, hpackets,
          h.ahead frame.nodeId (heq ▸ hid) (Or.inr (Or.inr ⟨frame, hmade, rfl⟩))]
      · rw [node_simulated_of_ne (hframe.nodeId ▸ heq)]
        refine h.done nodeId hid hne hrest fun made hmade' => ?_
        obtain rfl := Option.some.inj (hmade.symm.trans hmade')
        exact Ne.symm heq

end

/-! ### A jammed node -/

section

variable {py : Interpreter} {w : JsonWriter} {s s' : Simulated} {action : SimAction py}
  {nodeId : ℤ} {record : NodeRecord}

/-- A call that clears a node. -/
def DashboardInput.Clears (nodeId : ℤ) : DashboardInput py → Prop
  | .jam _ other jammed => other = nodeId ∧ jammed = false
  | .reset .. => True
  | .frame .. | .radioStatus .. | .radioChannel .. | .radioEnds .. | .nodeMeta ..
  | .simulated .. => False

def SimAction.Clears (nodeId : ℤ) : SimAction py → Prop
  | .call input => input.Clears nodeId
  | .tick | .make .. | .report .. => False

theorem jammed_step {d : Dashboard} {input : DashboardInput py}
    (h : nodeId ∈ d.mesh.jammedSimNodes) (hclears : ¬ input.Clears nodeId) :
    nodeId ∈ (d.step input).mesh.jammedSimNodes := by
  cases input with
  | jam ts other jammed =>
    cases jammed with
    | true =>
      rw [Dashboard.step]
      by_cases hother : nodeId = other
      · exact hother ▸ List.mem_cons_self
      · exact List.mem_cons_of_mem other (List.mem_filter.mpr ⟨h, decide_eq_true hother⟩)
    | false =>
      have hother : nodeId ≠ other := fun hother => hclears ⟨hother.symm, rfl⟩
      exact List.mem_filter.mpr ⟨h, decide_eq_true hother⟩
  | reset => exact absurd trivial hclears
  | frame | radioStatus | radioChannel | radioEnds | nodeMeta | simulated =>
    rw [Dashboard.step_keepsJamming]
    · exact h
    · trivial

/-- A node that a tick found jammed, and its record then. -/
structure StaysJammed (nodeId : ℤ) (record : NodeRecord) (s : Simulated) : Prop where
  jammed : nodeId ∈ s.dash.mesh.jammedSimNodes
  found : nodeId ∈ s.sim.jammed
  made : ∀ frame ∈ s.sim.made, frame.nodeId ≠ nodeId
  record : s.dash.mesh.node nodeId = record

theorem StaysJammed.next (h : StaysJammed nodeId record s) (hid : nodeId ∈ simNodes)
    (hspares : action.Spares) (hclears : ¬ action.Clears nodeId) (hsteps : SimSteps w s action s') :
    StaysJammed nodeId record s' := by
  cases hsteps with
  | call input =>
    exact ⟨jammed_step h.jammed hclears, h.found, h.made,
      (Dashboard.step_spares hspares hid).trans h.record⟩
  | tick => exact ⟨h.jammed, h.jammed, h.made, h.record⟩
  | skip => exact ⟨h.jammed, h.found, h.made, h.record⟩
  | @make frame report left battery drained jitter hmade hleft hjammed =>
    have hstill : nodeId ∈
        (s.dash.step (.nodeMeta frame.nodeId : DashboardInput py)).mesh.jammedSimNodes :=
      jammed_step h.jammed id
    refine ⟨hstill, h.found, fun made hframe => ?_, ?_⟩
    · obtain rfl := Option.some.inj hframe
      exact (ne_of_mem_of_not_mem h.found hjammed).symm
    · rw [Dashboard.step, MeshState.node_ensureNode]
      exact h.record
  | @report frame report now ts hmade hframe =>
    have hstill : nodeId ∈ (s.dash.step (.simulated now ts report)).mesh.jammedSimNodes :=
      jammed_step h.jammed id
    refine ⟨hstill, h.found, fun made hnone => ?_, ?_⟩
    · exact absurd hnone (Option.not_mem_none made)
    · rw [node_simulated_of_ne (hframe.nodeId ▸ (h.made frame hmade).symm)]
      exact h.record

end

/-! ### Runs -/

section

variable {py : Interpreter} {w : JsonWriter} {dash : Dashboard} {s s' : Simulated}

/-- What stays along the actions of a run that are allowed. -/
theorem run_steps (hwrite : 1 ≤ w.depthLimit) (hread : 1 ≤ py.depthLimit) {P : Simulated → Prop}
    {Allowed : SimAction py → Prop}
    (hnext : ∀ {s a s'}, P s → a.Spares → Allowed a → SimSteps w s a s' → P s')
    {actions : List (SimAction py)} (hactions : ∀ a ∈ actions, a.Spares ∧ Allowed a)
    (hsound : ∃ count, SimSound w py count s) (hs : P s)
    (h : Actions.run (Simulated.step w) s actions = some s') :
    (∃ count, SimSound w py count s') ∧ P s' := by
  refine Actions.run_keeps (P := fun s => (∃ count, SimSound w py count s) ∧ P s)
    (fun hboth hallowed hstep => ?_) ⟨hsound, hs⟩ hactions h
  obtain ⟨⟨count, hcount⟩, hP⟩ := hboth
  have hsteps := hcount.steps hwrite hread hstep
  exact ⟨hcount.next hallowed.1 hsteps, hnext hP hallowed.1 hallowed.2 hsteps⟩

/-- **The dashboard** takes a step of its own, or none. -/
theorem SimSteps.exists_run {action : SimAction py} (hsteps : SimSteps w s action s')
    (hs : ∃ inputs : List (DashboardInput py), s.dash = dash.run inputs) :
    ∃ inputs : List (DashboardInput py), s'.dash = dash.run inputs := by
  obtain ⟨inputs, hinputs⟩ := hs
  have hinput : ∀ input : DashboardInput py,
      s.dash.step input = dash.run (inputs ++ [input]) := fun input => by
    rw [hinputs, Dashboard.run, Dashboard.run, List.foldl_concat]
  cases hsteps with
  | tick | skip => exact ⟨inputs, hinputs⟩
  | call input => exact ⟨_, hinput input⟩
  | @make frame => exact ⟨_, hinput (.nodeMeta frame.nodeId)⟩
  | @report frame report now ts => exact ⟨_, hinput (.simulated now ts report)⟩

/-- **In front of the first tick** nothing is reported. -/
theorem simSound_start {now : ℚ} {config : JsonDoc} {receiving : Bool}
    (hstart : Dashboard.start py now config receiving = .ok dash)
    (hplaces : ∀ nodeId ∈ simNodes, ReadsBack w.floatRepr (dash.mesh.node nodeId).x ∧
      ReadsBack w.floatRepr (dash.mesh.node nodeId).y) :
    SimSound w py (fun _ => 0) ⟨dash, .initial⟩ := by
  have hunheard := Dashboard.unheard_start hstart
  have hrecord := @Dashboard.node_start py dash (fun record => record.battery = none ∧
    (0 ≤ record.x ∧ record.x ≤ 1) ∧ 0 ≤ record.y ∧ record.y ≤ 1) now config receiving hstart
    (fun _ => ⟨rfl, ⟨by norm_num, by norm_num⟩, by norm_num, by norm_num⟩)
    ⟨rfl, show (0 : ℚ) ≤ 1 / 2 ∧ (1 / 2 : ℚ) ≤ 1 by norm_num,
      show (0 : ℚ) ≤ 22 / 25 ∧ (22 / 25 : ℚ) ≤ 1 by norm_num⟩
    (fun rawNode x y record hrecord => ?_)
  · refine ⟨rfl, fun _ hnone => absurd hnone List.not_mem_nil, fun nodeId => ?_, fun _ => rfl,
      fun frame hnone => absurd hnone (Option.not_mem_none frame), fun nodeId _ => ?_,
      fun nodeId _ => (hunheard nodeId).2, fun nodeId hid => ?_,
      fun nodeId _ battery hbattery => ?_⟩
    · unfold SimBattery SimLoop.initial
      dsimp only
      split_ifs <;> decide
    · rw [(hunheard nodeId).1]
      rfl
    · exact ⟨(hrecord nodeId).2.1, (hrecord nodeId).2.2, (hplaces nodeId hid).1,
        (hplaces nodeId hid).2⟩
    · rw [(hrecord nodeId).1] at hbattery
      exact absurd hbattery (Option.not_mem_none battery)
  · obtain ⟨hbattery, hx, hy⟩ := hrecord
    refine ⟨hbattery, ?_, ?_⟩
    · cases x with
      | none => exact hx
      | some x => exact clamp01_bounds x
    · cases y with
      | none => exact hy
      | some y => exact clamp01_bounds y

end

/-- **The simulation is sound**, however its calls fall between those of the other threads, as
long as no received frame is of one of its nodes.  Nothing ends it, and the dashboard is behind a
run of its own.  Of every node the frames are counted one by one, none as lost and none as
repeated; a tick brings one of each node that it does not find jammed; and the record of one that
it does find jammed stays as it is until a request clears the node. -/
theorem simulation_sound {py : Interpreter} {w : JsonWriter} (hwrite : 1 ≤ w.depthLimit)
    (hread : 1 ≤ py.depthLimit) {now : ℚ} {config : JsonDoc} {receiving : Bool} {dash : Dashboard}
    (hstart : Dashboard.start py now config receiving = .ok dash)
    (hplaces : ∀ nodeId ∈ simNodes, ReadsBack w.floatRepr (dash.mesh.node nodeId).x ∧
      ReadsBack w.floatRepr (dash.mesh.node nodeId).y)
    {actions : List (SimAction py)} (hactions : ∀ action ∈ actions, action.Spares) {s : Simulated}
    (hrun : Actions.run (Simulated.step w) ⟨dash, .initial⟩ actions = some s) :
    s.sim.running = true ∧ (∃ inputs : List (DashboardInput py), s.dash = dash.run inputs) ∧
      (∀ nodeId ∈ simNodes, ∃ n : ℕ,
        s.sim.seqByNode nodeId = nextSimSeq^[n + s.sim.unreported nodeId] 0 ∧
        (s.dash.mesh.node nodeId).packets = n ∧
        (s.dash.mesh.node nodeId).lostPackets = 0 ∧
        (s.dash.mesh.node nodeId).duplicatePackets = 0 ∧
        (s.dash.mesh.node nodeId).lastSeq = (if n = 0 then none else some (nextSimSeq^[n] 0)) ∧
        ∀ battery ∈ (s.dash.mesh.node nodeId).battery, SimBattery battery) ∧
      (∀ round : List (SimAction py), (∀ action ∈ round, action.Spares ∧ action ≠ .tick) →
        ∀ s', Actions.run (Simulated.step w) s (.tick :: round) = some s' → s'.sim.left = [] →
          s'.sim.made = none → ∀ nodeId ∈ simNodes, (s'.dash.mesh.node nodeId).packets =
            (s.dash.mesh.node nodeId).packets +
              if nodeId ∈ s.dash.mesh.jammedSimNodes then 0 else 1) ∧
      ∀ nodeId ∈ simNodes, nodeId ∈ s.dash.mesh.jammedSimNodes → ∀ rest : List (SimAction py),
        (∀ action ∈ rest, action.Spares ∧ ¬ action.Clears nodeId) →
        ∀ s', Actions.run (Simulated.step w) s (.tick :: rest) = some s' →
          s'.dash.mesh.node nodeId = s.dash.mesh.node nodeId := by
  obtain ⟨⟨count, hsound⟩, inputs, hinputs⟩ := @run_steps py w _ s hwrite hread
    (fun s => ∃ inputs : List (DashboardInput py), s.dash = dash.run inputs) (fun _ => True)
    (fun hbefore _ _ hsteps => hsteps.exists_run hbefore) actions
    (fun action haction => ⟨hactions action haction, trivial⟩)
    ⟨_, simSound_start hstart hplaces⟩ ⟨[], rfl⟩ hrun
  -- The state behind the tick that each of the last two parts begins with.
  have htick : ∀ {rest : List (SimAction py)} {s' : Simulated},
      Actions.run (Simulated.step w) s (.tick :: rest) = some s' → s.sim.made = none ∧
        (∃ count, SimSound w py count { s with sim := { s.sim with
          jammed := s.dash.mesh.jammedSimNodes
          left := simNodes } }) ∧
        Actions.run (Simulated.step w) { s with sim := { s.sim with
          jammed := s.dash.mesh.jammedSimNodes
          left := simNodes } } rest = some s' := by
    intro rest s' h
    obtain ⟨s₁, hfirst, hrest⟩ := Actions.run_cons_eq_some.mp h
    have hsteps := hsound.steps hwrite hread hfirst
    have hnext := hsound.next (show SimAction.Spares .tick from trivial) hsteps
    cases hsteps with
    | tick hmade => exact ⟨hmade, hnext, hrest⟩
  refine ⟨hsound.running, ⟨inputs, hinputs⟩, fun nodeId hid => ?_, fun round hround s' h hleft hmade
    nodeId hid => ?_, fun nodeId hid hjammed rest hrest s' h => ?_⟩
  · have haccount := hsound.account nodeId hid
    exact ⟨count nodeId, hsound.seq nodeId, hsound.packets nodeId hid,
      congrArg Account.lost haccount, congrArg Account.duplicates haccount,
      congrArg Account.last haccount, hsound.shown nodeId hid⟩
  · obtain ⟨hbefore, hsound', hafter⟩ := htick h
    obtain ⟨-, hround⟩ := run_steps hwrite hread InTick.next hround hsound' (inTick_tick hbefore)
      hafter
    by_cases hjammed : nodeId ∈ s.dash.mesh.jammedSimNodes
    · rw [if_pos hjammed, add_zero]
      exact hround.ahead nodeId hid (Or.inl hjammed)
    · rw [if_neg hjammed]
      refine hround.done nodeId hid hjammed ?_ fun frame hframe => ?_
      · rw [hleft]
        exact List.not_mem_nil
      · rw [hmade] at hframe
        exact absurd hframe (Option.not_mem_none frame)
  · obtain ⟨hbefore, hsound', hafter⟩ := htick h
    have hstays : StaysJammed nodeId (s.dash.mesh.node nodeId) { s with sim := { s.sim with
        jammed := s.dash.mesh.jammedSimNodes
        left := simNodes } } :=
      ⟨hjammed, hjammed, fun frame hframe => absurd (hbefore ▸ hframe) (Option.not_mem_none frame),
        rfl⟩
    obtain ⟨-, hstays⟩ := run_steps hwrite hread
      (fun h hspares hclears hsteps => StaysJammed.next h hid hspares hclears hsteps) hrest hsound'
      hstays hafter
    exact hstays.record

/-- Nodes 1 and 2 are jammed. -/
def sampleJams : List (SimAction sampleInterpreter) :=
  [.call (.jam 1 1 true), .call (.jam 1 2 true)]

/-- The rest of the next tick, in which node 2 is cleared. -/
def sampleRound : List (SimAction sampleInterpreter) :=
  [.make true 1, .call (.jam 2 2 false), .make false 0, .make false 2, .report 2 2]

theorem sample_tick : (Actions.run (Simulated.step sampleFloats) ⟨⟨.initial 0, true⟩, .initial⟩
    (sampleJams ++ .tick :: sampleRound)).map (fun s => (s.sim.left, s.sim.made.isNone)) =
      some ([], true) := by
  decide +kernel

/-- Of the jammed nodes none is reported, also not the one that is cleared in the same tick. -/
theorem simulation_sound_sample : ∃ s s' : Simulated,
    Actions.run (Simulated.step sampleFloats) ⟨⟨.initial 0, true⟩, .initial⟩ sampleJams = some s ∧
    Actions.run (Simulated.step sampleFloats) s (.tick :: sampleRound) = some s' ∧
    (s'.dash.mesh.node 2).packets = (s.dash.mesh.node 2).packets ∧
    (s'.dash.mesh.node 3).packets = (s.dash.mesh.node 3).packets + 1 ∧
    (s'.dash.mesh.node 3).lostPackets = 0 ∧ s'.dash.mesh.node 1 = s.dash.mesh.node 1 := by
  obtain ⟨s', hruns, hend⟩ := Option.map_eq_some_iff.mp sample_tick
  obtain ⟨s, hjams, hrun⟩ := Actions.run_append_eq_some.mp hruns
  obtain ⟨hleft, hmade⟩ := Prod.ext_iff.mp hend
  have hjammed : s.dash.mesh.jammedSimNodes = [2, 1] :=
    congrArg (fun s => s.dash.mesh.jammedSimNodes) (Option.some.inj hjams.symm)
  have hplaces : ∀ nodeId ∈ simNodes,
      ReadsBack sampleFloats.floatRepr ((MeshState.initial 0).node nodeId).x ∧
        ReadsBack sampleFloats.floatRepr ((MeshState.initial 0).node nodeId).y := by
    intro nodeId hid
    simp only [simNodes, List.mem_cons, List.not_mem_nil, or_false] at hid
    rcases hid with rfl | rfl | rfl <;> exact ⟨readsBack_half, readsBack_half⟩
  have hspares : ∀ action ∈ sampleJams, action.Spares := by
    simp [sampleJams, SimAction.Spares, DashboardInput.Spares]
  have hround : ∀ action ∈ sampleRound, action.Spares ∧ action ≠ .tick := by
    simp [sampleRound, SimAction.Spares, DashboardInput.Spares]
  have hrest : ∀ action ∈ sampleRound, action.Spares ∧ ¬ action.Clears 1 := by
    simp [sampleRound, SimAction.Spares, SimAction.Clears, DashboardInput.Spares,
      DashboardInput.Clears]
  have hall : ∀ action ∈ sampleJams ++ .tick :: sampleRound, action.Spares := by
    simp [sampleJams, sampleRound, SimAction.Spares, DashboardInput.Spares]
  have hsound := @simulation_sound sampleInterpreter sampleFloats (by decide) (by decide) 0
    (.obj []) true ⟨.initial 0, true⟩ rfl hplaces
  obtain ⟨-, -, -, hticks, hstays⟩ := hsound hspares hjams
  obtain ⟨-, -, hcounts, -⟩ := hsound hall hruns
  have hcount := hticks sampleRound hround s' hrun hleft (Option.isNone_iff_eq_none.mp hmade)
  have htwo := hcount 2 (by decide)
  have hthree := hcount 3 (by decide)
  rw [hjammed, if_pos (by decide), add_zero] at htwo
  rw [hjammed, if_neg (by decide)] at hthree
  obtain ⟨n, -, -, hlost, -⟩ := hcounts 3 (by decide)
  have hone := hstays 1 (by decide) (by rw [hjammed]; decide) sampleRound hrest s' hrun
  exact ⟨s, s', hjams, hrun, htwo, hthree, hlost, hone⟩

end KovaWfb
