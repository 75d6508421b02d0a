/-
# What every call keeps of the tables

The tables of `MeshState` have each key once, and a record stands under its own id; nothing is
counted below zero, and no node is jammed twice.  `tidy_run`: so it is in every state that the
threads reach, also behind a call that broke off in the middle.

The calls are stateful code, and `PyM.Keeps` is the rule for it: what every assignment keeps is
kept, wherever an exception ends the code.
-/

import KovaWfb.Demo.Records

namespace KovaWfb

/-! ### Invariants of stateful code -/

namespace PyM

variable {σ α β : Type} {P : σ → Prop}

/-- Whatever the code does, also where it raises, it keeps `P`. -/
def Keeps (P : σ → Prop) (x : PyM σ α) : Prop := ∀ s, P s → P (resultState (x s))

theorem keeps_pure (a : α) : Keeps P (pure a) := fun _ hs => hs

theorem keeps_lift (x : Py α) : Keeps P (liftM x : PyM σ α) := by
  intro s hs
  rw [monadLift_apply]
  cases x <;> exact hs

theorem keeps_modify {f : σ → σ} (hf : ∀ s, P s → P (f s)) : Keeps P (modify f : PyM σ PUnit) :=
  fun s hs => hf s hs

theorem Keeps.bind {x : PyM σ α} {f : α → PyM σ β} (hx : Keeps P x) (hf : ∀ a, Keeps P (f a)) :
    Keeps P (x >>= f) := by
  intro s hs
  have hafter := hx s hs
  rw [bind_apply]
  generalize x s = result at hafter ⊢
  cases result with
  | ok a s' => exact hf a s' hafter
  | error error s' => exact hafter

theorem Keeps.exceptAppFrameError {x : PyM σ α} (hx : Keeps P x) :
    Keeps P (exceptAppFrameError x) := by
  intro s hs
  have hafter := hx s hs
  rw [PyM.exceptAppFrameError]
  generalize x s = result at hafter ⊢
  cases result with
  | ok a s' => exact hafter
  | error error s' => cases error <;> exact hafter

end PyM

/-! ### Tidy tables -/

/-- A record that stands under its id, with counters that are not negative. -/
structure NodeRecord.Tidy (nodeId : ℤ) (record : NodeRecord) : Prop where
  id : record.nodeId = nodeId
  packets : 0 ≤ record.packets
  lost : 0 ≤ record.lostPackets

/-- Each key stands in its table once, with a record under it that has its ids. -/
structure MeshState.Tidy (s : MeshState) : Prop where
  nodeKeys : (s.nodes.map Prod.fst).Nodup
  nodes : ∀ entry ∈ s.nodes, entry.2.Tidy entry.1
  linkKeys : (s.links.map Prod.fst).Nodup
  links : ∀ entry ∈ s.links, (entry.2.fromId, entry.2.toId) = entry.1
  jammed : s.jammedSimNodes.Nodup

namespace NodeRecord.Tidy

variable {nodeId : ℤ} {record : NodeRecord}

theorem observe (h : record.Tidy nodeId) (obs : Observation) (status : Status) (now : ℚ)
    (message : String) : (record.observe obs status now message).Tidy nodeId := by
  have hpackets := h.packets
  exact ⟨h.id, show 0 ≤ record.packets + 1 by omega, h.lost⟩

theorem setBattery (h : record.Tidy nodeId) (battery : Option ℤ) :
    (record.setBattery battery).Tidy nodeId := by
  cases battery with
  | none => exact h
  | some battery => exact ⟨h.id, h.packets, h.lost⟩

theorem countSeq (h : record.Tidy nodeId) (seq : Option ℤ) : (record.countSeq seq).Tidy nodeId := by
  cases seq with
  | none => exact h
  | some seq =>
    rw [NodeRecord.countSeq]
    cases record.lastSeq with
    | none => exact ⟨h.id, h.packets, h.lost⟩
    | some last =>
      dsimp only
      split_ifs with hsame hgap
      · exact ⟨h.id, h.packets, h.lost⟩
      · have hlost := h.lost
        exact ⟨h.id, h.packets, show 0 ≤ record.lostPackets + (seq - last - 1) by omega⟩
      · exact ⟨h.id, h.packets, h.lost⟩

end NodeRecord.Tidy

namespace MeshState.Tidy

variable {s : MeshState} {nodeId fromId toId : ℤ}

theorem setNode (h : s.Tidy) {record : NodeRecord} (hrecord : record.Tidy nodeId) :
    { s with nodes := dictSet nodeId record s.nodes }.Tidy := by
  refine ⟨nodup_keys_dictSet h.nodeKeys, fun entry hentry => ?_, h.linkKeys, h.links, h.jammed⟩
  obtain rfl | hentry := mem_of_mem_dictSet hentry
  · exact hrecord
  · exact h.nodes entry hentry

theorem ensureNode (h : s.Tidy) (nodeId : ℤ) : (s.ensureNode nodeId).Tidy := by
  unfold MeshState.ensureNode
  split_ifs
  · exact h
  · exact h.setNode ⟨rfl, le_rfl, le_rfl⟩

theorem updateNode (h : s.Tidy) {f : NodeRecord → NodeRecord}
    (hf : ∀ record : NodeRecord, record.Tidy nodeId → (f record).Tidy nodeId) :
    (s.updateNode nodeId f).Tidy := by
  unfold MeshState.updateNode
  cases hlookup : s.nodes.lookup nodeId with
  | none => exact h
  | some record => exact h.setNode (hf record (h.nodes _ (mem_of_lookup hlookup)))

theorem setLink (h : s.Tidy) {link : LinkRecord}
    (hlink : (link.fromId, link.toId) = (fromId, toId)) :
    { s with links := dictSet (fromId, toId) link s.links }.Tidy := by
  refine ⟨h.nodeKeys, h.nodes, nodup_keys_dictSet h.linkKeys, fun entry hentry => ?_, h.jammed⟩
  obtain rfl | hentry := mem_of_mem_dictSet hentry
  · exact hlink
  · exact h.links entry hentry

theorem touchLink (h : s.Tidy) (fromId toId : ℤ) (now : ℚ) (rssi : Option ℤ) (source : String) :
    (s.touchLink fromId toId now rssi source).Tidy := by
  have hensured := (h.ensureNode fromId).ensureNode toId
  unfold MeshState.touchLink
  split_ifs
  · exact h
  · dsimp only
    split
    · exact hensured.setLink rfl
    · rename_i link hlookup
      exact hensured.setLink (hensured.links _ (mem_of_lookup hlookup))

theorem setRadioStatus (h : s.Tidy) (ts : ℚ) (status : String) (error : Option String) :
    (s.setRadioStatus ts status error).Tidy := by
  obtain ⟨radioStatus, radioError, events, heq⟩ := s.setRadioStatus_eq ts status error
  rw [heq]
  exact ⟨h.nodeKeys, h.nodes, h.linkKeys, h.links, h.jammed⟩

theorem setSimJammed (h : s.Tidy) (ts : ℚ) (nodeId : ℤ) (jammed : Bool) :
    (s.setSimJammed ts nodeId jammed).Tidy := by
  refine ⟨h.nodeKeys, h.nodes, h.linkKeys, h.links, ?_⟩
  have hothers : (s.jammedSimNodes.filter (· ≠ nodeId)).Nodup := h.jammed.filter _
  cases jammed with
  | true =>
    refine List.nodup_cons.mpr ⟨fun hmem => ?_, hothers⟩
    exact of_decide_eq_true (List.mem_filter.mp hmem).2 rfl
  | false => exact hothers

theorem resetSim (h : s.Tidy) (ts : ℚ) : (s.resetSim ts).Tidy :=
  ⟨h.nodeKeys, h.nodes, h.linkKeys, h.links, List.nodup_nil⟩

end MeshState.Tidy

/-! ### Calls -/

section

variable {py : Interpreter}

theorem tidy_ingestObservation (reader : StatusReader) (now ts : ℚ) (obs : Observation) :
    PyM.Keeps MeshState.Tidy (ingestObservation reader now ts obs) := by
  unfold ingestObservation
  refine (PyM.keeps_lift _).bind fun status => ?_
  refine (PyM.keeps_modify fun s hs => ?_).bind fun _ => ?_
  · exact (hs.ensureNode obs.originId).updateNode fun record hrecord => hrecord.observe ..
  refine (PyM.keeps_lift _).bind fun x => ?_
  refine (PyM.keeps_lift _).bind fun y => ?_
  refine (PyM.keeps_modify fun s hs => ?_).bind fun _ => ?_
  · exact hs.updateNode fun record hrecord => ⟨hrecord.id, hrecord.packets, hrecord.lost⟩
  refine (PyM.keeps_lift _).bind fun battery => ?_
  refine (PyM.keeps_modify fun s hs => ?_).bind fun _ => ?_
  · exact hs.updateNode fun record hrecord => (hrecord.setBattery battery).countSeq obs.seq
  refine (PyM.keeps_modify fun s hs => ?_).bind fun _ => ?_
  · split_ifs <;> exact ⟨hs.nodeKeys, hs.nodes, hs.linkKeys, hs.links, hs.jammed⟩
  refine (PyM.keeps_modify fun s hs => hs.touchLink ..).bind fun _ => ?_
  refine (PyM.keeps_modify fun s hs => ?_).bind fun _ => ?_
  · split_ifs
    · exact hs.touchLink ..
    · exact hs
  exact PyM.keeps_modify fun s hs => ⟨hs.nodeKeys, hs.nodes, hs.linkKeys, hs.links, hs.jammed⟩

theorem tidy_processRadioPayload (reader : StatusReader) (now ts : ℚ) (payload : Bytes)
    (metadata : WfbRxMeta) :
    PyM.Keeps MeshState.Tidy (processRadioPayload reader now ts payload metadata) := by
  unfold processRadioPayload
  refine PyM.Keeps.bind (PyM.Keeps.exceptAppFrameError ?_) fun outcome => ?_
  · exact (PyM.keeps_lift _).bind fun obs => tidy_ingestObservation reader now ts obs
  · cases outcome with
    | ok => exact PyM.keeps_pure _
    | error message =>
      exact PyM.keeps_modify fun s hs => ⟨hs.nodeKeys, hs.nodes, hs.linkKeys, hs.links, hs.jammed⟩

theorem tidy_applyNode (rawNode : JsonDoc) : PyM.Keeps MeshState.Tidy (applyNode py rawNode) := by
  cases rawNode with
  | obj rawNode =>
    refine (PyM.keeps_lift _).bind fun nodeId => ?_
    cases nodeId with
    | none => exact PyM.keeps_pure _
    | some nodeId =>
      refine (PyM.keeps_modify fun s hs => ?_).bind fun _ => ?_
      · exact (hs.ensureNode nodeId).updateNode fun record hrecord =>
          ⟨hrecord.id, hrecord.packets, hrecord.lost⟩
      refine (PyM.keeps_lift _).bind fun x => ?_
      refine (PyM.keeps_lift _).bind fun y => ?_
      exact PyM.keeps_modify fun s hs => hs.updateNode fun record hrecord =>
        ⟨hrecord.id, hrecord.packets, hrecord.lost⟩
  | _ => exact PyM.keeps_pure _

theorem tidy_applyNodes (rawNodes : List JsonDoc) :
    PyM.Keeps MeshState.Tidy (applyNodes py rawNodes) := by
  induction rawNodes with
  | nil => exact PyM.keeps_pure _
  | cons rawNode rest ih => exact (tidy_applyNode rawNode).bind fun _ => ih

namespace Dashboard

variable {d : Dashboard}

theorem tidy_start {now : ℚ} {config : JsonDoc} {receiving : Bool}
    (h : start py now config receiving = .ok d) : d.mesh.Tidy := by
  have hinitial : (MeshState.initial now).Tidy := by
    refine ⟨List.nodup_singleton _, fun entry hentry => ?_, List.nodup_nil,
      fun entry hentry => absurd hentry List.not_mem_nil, List.nodup_nil⟩
    obtain rfl := List.mem_singleton.mp hentry
    exact ⟨rfl, le_rfl, le_rfl⟩
  have hkeeps : PyM.Keeps MeshState.Tidy (applyNodeConfig py config) :=
    (PyM.keeps_lift _).bind fun nodes => tidy_applyNodes nodes
  have hconfigured := hkeeps _ hinitial
  unfold start at h
  split at h
  · rename_i mesh hconfig
    obtain rfl := Except.ok.inj h
    rw [hconfig] at hconfigured
    exact hconfigured
  · cases h

theorem tidy_step (h : d.mesh.Tidy) (input : DashboardInput py) : (d.step input).mesh.Tidy := by
  cases input with
  | frame now ts payload metadata =>
    have hafter := tidy_processRadioPayload (readStatus py) now ts payload metadata d.mesh h
    rw [step, onRadio]
    split_ifs
    · generalize processRadioPayload (readStatus py) now ts payload metadata d.mesh = result
        at hafter ⊢
      cases result with
      | ok _ mesh => exact hafter
      | error error mesh =>
        have hmesh : mesh.Tidy := hafter
        exact hmesh.setRadioStatus ts "error" (some error.shown)
    · exact h
  | radioStatus ts status error =>
    rw [step, onRadio]
    split_ifs
    · exact h.setRadioStatus ts status error
    · exact h
  | radioEnds ts error =>
    rw [step, onRadio]
    split_ifs
    · exact h.setRadioStatus ts "error" (some error)
    · exact h
  | radioChannel =>
    rw [step, onRadio]
    split_ifs
    · exact ⟨h.nodeKeys, h.nodes, h.linkKeys, h.links, h.jammed⟩
    · exact h
  | nodeMeta nodeId => exact h.ensureNode nodeId
  | simulated now ts report =>
    have hafter := tidy_ingestObservation (readStatus py) now ts report.observation d.mesh h
    rw [step]
    dsimp only
    exact hafter
  | jam ts nodeId jammed =>
    rw [step]
    exact h.setSimJammed ts nodeId jammed
  | reset ts =>
    rw [step]
    exact h.resetSim ts

/-- **Every state of every run is tidy.** -/
theorem tidy_run (h : d.mesh.Tidy) (inputs : List (DashboardInput py)) :
    (d.run inputs).mesh.Tidy := by
  induction inputs generalizing d with
  | nil => exact h
  | cons input rest ih => exact ih (tidy_step h input)

/-- **Calls that are not about a node** leave its record alone. -/
theorem run_spares {inputs : List (DashboardInput py)} {ids : List ℤ}
    (h : ∀ input ∈ inputs, input.Spares ids) {o : ℤ} (ho : o ∈ ids) :
    (d.run inputs).mesh.node o = d.mesh.node o := by
  induction inputs generalizing d with
  | nil => rfl
  | cons input rest ih =>
    have hrest : ∀ input ∈ rest, input.Spares ids := fun input hinput =>
      h input (List.mem_cons_of_mem _ hinput)
    have hrun := @ih (d.step input) hrest
    exact hrun.trans (step_spares (h input List.mem_cons_self) ho)

end Dashboard

end

end KovaWfb
