/-
# What the threads of the dashboard do to one record

Two things a run of the threads has to leave alone before anything can be said of a node: its
record, which a call changes only when it is about this node (`step_spares`), and the radio loop,
which an exception ends (`step_keepsReceiving`).  `node_start` is the induction over the
configuration: what holds of a new record and stays when it is configured holds of every record
in front of the threads.
-/

import KovaWfb.Demo.LossAccounting
import KovaWfb.Demo.Threads

namespace KovaWfb

namespace MeshState

variable {s : MeshState} {nodeId o : ℤ} {ts : ℚ}

theorem node_updateNode {f : NodeRecord → NodeRecord} (ho : o ≠ nodeId) :
    ((s.ensureNode nodeId).updateNode nodeId f).node o = s.node o := by
  rw [node, lookup_updateNode_eq lookup_ensureNode_isSome, if_neg ho]
  exact node_ensureNode

/-- The status of the radio changes nothing else but the events. -/
theorem setRadioStatus_eq (s : MeshState) (ts : ℚ) (status : String) (error : Option String) :
    ∃ radioStatus radioError events,
      s.setRadioStatus ts status error = { s with radioStatus, radioError, events } := by
  cases error with
  | none => exact ⟨_, _, _, rfl⟩
  | some error =>
    dsimp only [setRadioStatus]
    split_ifs <;> exact ⟨_, _, _, rfl⟩

theorem node_setRadioStatus {status : String} {error : Option String} :
    (s.setRadioStatus ts status error).node o = s.node o := by
  obtain ⟨radioStatus, radioError, events, h⟩ := s.setRadioStatus_eq ts status error
  rw [h]
  rfl

theorem jammedSimNodes_setRadioStatus {status : String} {error : Option String} :
    (s.setRadioStatus ts status error).jammedSimNodes = s.jammedSimNodes := by
  obtain ⟨radioStatus, radioError, events, h⟩ := s.setRadioStatus_eq ts status error
  rw [h]

theorem jammedSimNodes_ensureNode : (s.ensureNode nodeId).jammedSimNodes = s.jammedSimNodes := by
  unfold ensureNode
  split_ifs <;> rfl

theorem jammedSimNodes_updateNode {f : NodeRecord → NodeRecord} :
    ((s.ensureNode nodeId).updateNode nodeId f).jammedSimNodes = s.jammedSimNodes := by
  obtain ⟨nodes, h⟩ := s.updateNode_ensureNode_eq nodeId f
  rw [h]

theorem jammedSimNodes_record {now : ℚ} {obs : Observation} {message : String}
    {f : NodeRecord → NodeRecord} :
    (s.record now ts obs message f).jammedSimNodes = s.jammedSimNodes := by
  obtain ⟨nodes, links, h⟩ := touchWay_eq
    (((s.ensureNode obs.originId).updateNode obs.originId f).countPacket obs.source) now obs
  rw [record, h, countPacket_eq]
  exact jammedSimNodes_updateNode

end MeshState

/-! ### Assignments -/

/-- The account changes nothing else of a record. -/
theorem NodeRecord.countSeq_eq (node : NodeRecord) (seq : Option ℤ) :
    ∃ lostPackets duplicatePackets lastSeq,
      node.countSeq seq = { node with lostPackets, duplicatePackets, lastSeq } := by
  unfold NodeRecord.countSeq
  cases seq with
  | none => exact ⟨_, _, _, rfl⟩
  | some seq =>
    cases node.lastSeq with
    | none => exact ⟨_, _, _, rfl⟩
    | some last =>
      dsimp only
      split_ifs <;> exact ⟨_, _, _, rfl⟩

theorem clamp01_bounds (value : JsonFloat) : 0 ≤ clamp01 value ∧ clamp01 value ≤ 1 := by
  cases value with
  | finite value => exact ⟨le_max_left _ _, max_le zero_le_one (min_le_left _ _)⟩
  | infinite negative => cases negative <;> exact ⟨by decide, by decide⟩
  | nan => exact ⟨zero_le_one, le_rfl⟩

theorem clamp01_of_mem {value : ℚ} (h : 0 ≤ value ∧ value ≤ 1) :
    clamp01 (.finite value) = value := by
  rw [clamp01, min_eq_right h.2, max_eq_right h.1]

/-! ### Calls -/

section

variable {py : Interpreter}

/-- A call that is not about the nodes `ids`. -/
def DashboardInput.Spares (ids : List ℤ) : DashboardInput py → Prop
  | .frame _ _ payload metadata => ∀ obs, observe payload metadata = .ok obs → obs.originId ∉ ids
  | .simulated _ _ report => report.nodeId ∉ ids
  | .radioStatus .. | .radioChannel .. | .radioEnds .. | .nodeMeta .. | .jam .. | .reset .. => True

/-- A call that does not end the radio loop. -/
def DashboardInput.KeepsReceiving : DashboardInput py → Prop
  | .frame _ _ payload metadata => Harmless py.depthLimit payload metadata
  | .radioEnds .. => False
  | .radioStatus .. | .radioChannel .. | .nodeMeta .. | .simulated .. | .jam .. | .reset .. => True

/-- A call that neither jams a node nor clears one. -/
def DashboardInput.KeepsJamming : DashboardInput py → Prop
  | .jam .. | .reset .. => False
  | .frame .. | .radioStatus .. | .radioChannel .. | .radioEnds .. | .nodeMeta ..
  | .simulated .. => True

end

namespace Dashboard

variable {py : Interpreter} {d : Dashboard} {ids : List ℤ} {input : DashboardInput py}

/-- **What a frame of the simulation does**: it is recorded with its own numbers. -/
theorem step_simulated (now ts : ℚ) (report : SimReport py) : ∃ status,
    readStatus py report.payload = .ok status ∧
      ingestObservation (readStatus py) now ts report.observation d.mesh =
        .ok () (d.step (.simulated now ts report)).mesh ∧
      d.step (.simulated now ts report) = ⟨d.mesh.record now ts report.observation
        (status.message.getD "status") (NodeRecord.observed report.observation status now
          (some report.x) (some report.y) (some report.battery)), d.receiving⟩ := by
  obtain ⟨status, hstatus, hx, hy, hbattery⟩ : ∃ status,
      readStatus py report.payload = .ok status ∧ status.x = .ok (some report.x) ∧
        status.y = .ok (some report.y) ∧ status.battery = .ok (some report.battery) := by
    rw [readStatus, report.parse, Py.ok_bind]
    exact ⟨_, rfl, rfl, rfl, rfl⟩
  have hingest := @ingestObservation_of_readable (readStatus py) now ts report.observation d.mesh
    status hstatus _ _ _ hx hy hbattery
  have hstep : d.step (.simulated now ts report) = ⟨d.mesh.record now ts report.observation
      (status.message.getD "status") (NodeRecord.observed report.observation status now
        (some report.x) (some report.y) (some report.battery)), d.receiving⟩ := by
    rw [step, hingest]
    rfl
  refine ⟨status, hstatus, ?_, hstep⟩
  rw [hingest, hstep]
  rfl

/-- **A call that is not about a node** leaves its record alone. -/
theorem step_spares (h : input.Spares ids) {o : ℤ} (ho : o ∈ ids) :
    (d.step input).mesh.node o = d.mesh.node o := by
  cases input with
  | frame now ts payload metadata =>
    rw [step, onRadio]
    split_ifs
    · have houtcome := @processRadioPayload_outcome py now ts payload metadata d.mesh
      generalize processRadioPayload (readStatus py) now ts payload metadata d.mesh = result
        at houtcome ⊢
      cases houtcome with
      | malformed message hobs => rfl
      | observed obs status x y battery hobs =>
        exact MeshState.observed_record.others o (ne_of_mem_of_not_mem ho (h obs hobs))
      | unread obs error hobs => exact MeshState.node_setRadioStatus
      | brokenOff obs msg f hobs =>
        exact MeshState.node_setRadioStatus.trans
          (MeshState.node_updateNode (ne_of_mem_of_not_mem ho (h obs hobs)))
    · rfl
  | simulated now ts report =>
    obtain ⟨status, -, -, hstep⟩ := @step_simulated py d now ts report
    rw [hstep]
    have hother : o ≠ report.observation.originId := ne_of_mem_of_not_mem ho h
    exact MeshState.observed_record.others o hother
  | radioStatus ts status error =>
    rw [step, onRadio]
    split_ifs
    · exact MeshState.node_setRadioStatus
    · rfl
  | radioEnds ts error =>
    rw [step, onRadio]
    split_ifs
    · exact MeshState.node_setRadioStatus
    · rfl
  | radioChannel channel slot nextHopMs =>
    rw [step, onRadio]
    split_ifs <;> rfl
  | nodeMeta nodeId => exact MeshState.node_ensureNode
  | jam | reset => rfl

/-- The record of the node behind a frame of the simulation. -/
theorem node_simulated (now ts : ℚ) (report : SimReport py) :
    ∃ record, (d.step (.simulated now ts report)).mesh.node report.nodeId = record ∧
      record.packets = (d.mesh.node report.nodeId).packets + 1 ∧
      record.account = (d.mesh.node report.nodeId).account.count report.seq ∧
      record.battery = some (max 0 (min 100 report.battery)) ∧
      record.x = clamp01 report.x ∧ record.y = clamp01 report.y := by
  obtain ⟨status, -, -, hstep⟩ := @step_simulated py d now ts report
  obtain ⟨hlookup, -⟩ := @MeshState.observed_record d.mesh now ts report.observation
    (status.message.getD "status") (NodeRecord.observed report.observation status now
      (some report.x) (some report.y) (some report.battery))
  have hnode := MeshState.node_of_lookup hlookup
  have hseq : report.observation.seq = some report.seq := rfl
  rw [hstep]
  refine ⟨_, hnode, (NodeRecord.observed_spec _ _ _ _ _ _ _).1,
    NodeRecord.account_observed hseq _ _ _ _ _ _, ?_⟩
  unfold NodeRecord.observed
  obtain ⟨lost, duplicates, last, h⟩ := NodeRecord.countSeq_eq _ _
  rw [h]
  exact ⟨rfl, rfl, rfl⟩

/-- **The radio loop goes on** unless a call ends it. -/
theorem step_keepsReceiving (hreceiving : d.receiving = true) (h : input.KeepsReceiving) :
    (d.step input).receiving = true := by
  cases input with
  | frame now ts payload metadata =>
    obtain ⟨s', hrun, -⟩ := (@survives_iff py now ts payload metadata d.mesh).2 h
    rw [step, onRadio, if_pos hreceiving, hrun]
  | radioEnds => exact h.elim
  | radioStatus | radioChannel =>
    rw [step, onRadio, if_pos hreceiving]
  | nodeMeta | simulated | jam | reset =>
    rw [step]
    exact hreceiving

/-- What is jammed stays jammed, and nothing else is, unless a request says so. -/
theorem step_keepsJamming (h : input.KeepsJamming) :
    (d.step input).mesh.jammedSimNodes = d.mesh.jammedSimNodes := by
  cases input with
  | frame now ts payload metadata =>
    rw [step, onRadio]
    split_ifs
    · have houtcome := @processRadioPayload_outcome py now ts payload metadata d.mesh
      generalize processRadioPayload (readStatus py) now ts payload metadata d.mesh = result
        at houtcome ⊢
      cases houtcome with
      | malformed message hobs => rfl
      | observed obs status x y battery hobs => exact MeshState.jammedSimNodes_record
      | unread obs error hobs => exact MeshState.jammedSimNodes_setRadioStatus
      | brokenOff obs msg f hobs =>
        exact MeshState.jammedSimNodes_setRadioStatus.trans MeshState.jammedSimNodes_updateNode
    · rfl
  | simulated now ts report =>
    obtain ⟨status, -, -, hstep⟩ := @step_simulated py d now ts report
    rw [hstep]
    exact MeshState.jammedSimNodes_record
  | radioStatus ts status error =>
    rw [step, onRadio]
    split_ifs
    · exact MeshState.jammedSimNodes_setRadioStatus
    · rfl
  | radioEnds ts error =>
    rw [step, onRadio]
    split_ifs
    · exact MeshState.jammedSimNodes_setRadioStatus
    · rfl
  | radioChannel channel slot nextHopMs =>
    rw [step, onRadio]
    split_ifs <;> rfl
  | nodeMeta nodeId => exact MeshState.jammedSimNodes_ensureNode
  | jam | reset => exact h.elim

/-! ### In front of the threads -/

variable {P : NodeRecord → Prop}

theorem node_applyNode
    (hconfigure : ∀ rawNode x y record, P record →
      P ((NodeRecord.configure py rawNode record).setPlace x y))
    {rawNode : JsonDoc} {s s' : MeshState} (hs : ∀ o, P (s.node o))
    (h : applyNode py rawNode s = .ok () s') (o : ℤ) : P (s'.node o) := by
  cases rawNode with
  | obj rawNode =>
    obtain ⟨configured, -, h⟩ := PyM.lift_bind_eq_ok.1 h
    cases configured with
    | none =>
      obtain ⟨-, rfl⟩ := EStateM.Result.ok.inj h
      exact hs o
    | some configured =>
      dsimp only at h
      rw [PyM.modify_bind_apply] at h
      obtain ⟨x, -, h⟩ := PyM.lift_bind_eq_ok.1 h
      obtain ⟨y, -, h⟩ := PyM.lift_bind_eq_ok.1 h
      obtain ⟨-, rfl⟩ := EStateM.Result.ok.inj h
      dsimp only
      rw [MeshState.updateNode_updateNode]
      by_cases ho : o = configured
      · rw [ho, MeshState.node,
          MeshState.lookup_updateNode_eq MeshState.lookup_ensureNode_isSome, if_pos rfl,
          MeshState.node_ensureNode]
        exact hconfigure rawNode x y _ (hs configured)
      · rw [MeshState.node_updateNode ho]
        exact hs o
  | _ =>
    obtain ⟨-, rfl⟩ := EStateM.Result.ok.inj h
    exact hs o

theorem node_applyNodes
    (hconfigure : ∀ rawNode x y record, P record →
      P ((NodeRecord.configure py rawNode record).setPlace x y))
    {rawNodes : List JsonDoc} {s s' : MeshState} (hs : ∀ o, P (s.node o))
    (h : applyNodes py rawNodes s = .ok () s') (o : ℤ) : P (s'.node o) := by
  induction rawNodes generalizing s with
  | nil =>
    obtain ⟨-, rfl⟩ := EStateM.Result.ok.inj h
    exact hs o
  | cons rawNode rest ih =>
    obtain ⟨_, s₁, hnode, hrest⟩ := PyM.bind_eq_ok.1 h
    exact ih (node_applyNode hconfigure hs hnode) hrest

/-- **What holds of every record in front of the threads**: what holds of a new one, of that of
the receiver, and stays when a node is configured. -/
theorem node_start {now : ℚ} {config : JsonDoc} {receiving : Bool}
    (h : start py now config receiving = .ok d)
    (hnew : ∀ o, P { nodeId := o, label := s!"TX-{o}" })
    (hbase : P ((MeshState.initial now).node baseNodeId))
    (hconfigure : ∀ rawNode x y record, P record →
      P ((NodeRecord.configure py rawNode record).setPlace x y)) (o : ℤ) : P (d.mesh.node o) := by
  have hinitial : ∀ o, P ((MeshState.initial now).node o) := by
    intro o
    by_cases ho : o = baseNodeId
    · exact ho ▸ hbase
    · have hnone : (MeshState.initial now).nodes.lookup o = none := by
        simp [MeshState.initial, ho]
      rw [MeshState.node, hnone]
      exact hnew o
  unfold start at h
  split at h
  · rename_i mesh hconfig
    obtain rfl := Except.ok.inj h
    obtain ⟨nodes, -, hnodes⟩ := PyM.lift_bind_eq_ok.1 hconfig
    exact node_applyNodes hconfigure hinitial hnodes o
  · cases h

/-- Nothing was heard of a node. -/
def Unheard (d : Dashboard) : Prop :=
  ∀ nodeId, (d.mesh.node nodeId).packets = 0 ∧ (d.mesh.node nodeId).account = .empty

/-- **In front of the threads** nothing was heard, whatever the configuration says. -/
theorem unheard_start {now : ℚ} {config : JsonDoc} {receiving : Bool}
    (h : start py now config receiving = .ok d) : d.Unheard :=
  @node_start py d (fun record => record.packets = 0 ∧ record.account = .empty) now config
    receiving h (fun _ => ⟨rfl, rfl⟩) ⟨rfl, rfl⟩ fun _ _ _ _ hrecord => hrecord

theorem receiving_start {now : ℚ} {config : JsonDoc} {receiving : Bool}
    (h : start py now config receiving = .ok d) : d.receiving = receiving := by
  unfold start at h
  split at h
  · exact (congrArg Dashboard.receiving (Except.ok.inj h)).symm
  · cases h

end Dashboard

end KovaWfb
