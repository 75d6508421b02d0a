/-
# What the dashboard shows

`MeshState.snapshot` of `demo/dashboard_server.py` (491 to 518), with `_node_to_dict_locked` and
`_link_to_dict_locked` (559 to 619): the nodes and the links with how long ago they were heard,
and the counters.  Times are rational numbers, as in the state; the loss rate is a float.

`snapshot_sound`: in every state that the threads reach, each node is shown once, the links join
nodes that are shown, the rates are between 0 and 1 and the packets of the nodes add up to the
counters; and from one snapshot to the next a node that is not heard only gets worse.
-/

import KovaWfb.Demo.Tidy
import KovaWfb.Python.Floats
import Mathlib.Data.Prod.Lex
import Mathlib.Tactic.Linarith

namespace KovaWfb

/-! ### A snapshot -/

/-- `stale_after`, `down_after` and what the statistics have from the start. -/
structure SnapshotConfig where
  staleAfter : ℚ
  downAfter : ℚ
  source : String
  startedAt : ℚ

/-- The `state` of a node or a link. -/
inductive Presence
  | online
  | stale
  | down
  deriving DecidableEq, Repr

/-- The state after an age. -/
def presence (cfg : SnapshotConfig) (age : ℚ) : Presence :=
  if cfg.downAfter < age then .down
  else if cfg.staleAfter < age then .stale
  else .online

/-- `round(value)`. -/
def roundInt (value : ℚ) : ℤ :=
  let magnitude := roundHalfEven value.num.natAbs value.den
  if value < 0 then -magnitude else magnitude

/-- `round(value, 4)`. -/
def roundRate : JsonFloat → JsonFloat
  | .finite value => toDouble (roundInt (value * 10000) / 10000)
  | value => value

/-- The `dict` of a node: the fields of its record, and what is made of them. -/
structure NodeView where
  record : NodeRecord
  state : Presence
  ageMs : Option ℤ
  lossRate : JsonFloat
  jammed : Bool

/-- `_node_to_dict_locked`. -/
def nodeToDict (cfg : SnapshotConfig) (s : MeshState) (now : ℚ) (node : NodeRecord) : NodeView :=
  let (ageMs, state) : Option ℤ × Presence :=
    if node.role = "base" then (some 0, .online)
    else
      match node.lastSeen with
      | none => (none, .down)
      | some lastSeen =>
          (some (roundInt ((now - lastSeen) * 1000)), presence cfg (now - lastSeen))
  let totalExpected := node.packets + node.lostPackets
  let lossRate :=
    if totalExpected = 0 then .finite 0 else toDouble (node.lostPackets / totalExpected)
  { record := node, state, ageMs, lossRate := roundRate lossRate,
    jammed := decide (node.nodeId ∈ s.jammedSimNodes) }

/-- The `dict` of a link. -/
structure LinkView where
  link : LinkRecord
  state : Presence
  ageMs : ℤ

/-- `_link_to_dict_locked`. -/
def linkToDict (cfg : SnapshotConfig) (now : ℚ) (link : LinkRecord) : LinkView :=
  let age := now - link.lastSeen
  { link, state := presence cfg age, ageMs := roundInt (age * 1000) }

/-- The base comes first, and then the order is that of the ids. -/
def NodeView.key (view : NodeView) : ℕ ×ₗ ℤ :=
  toLex (if view.record.role = "base" then 0 else 1, view.record.nodeId)

def LinkView.key (view : LinkView) : ℤ ×ₗ ℤ := toLex (view.link.fromId, view.link.toId)

/-- How long a link is shown. -/
def SnapshotConfig.linkSeconds (cfg : SnapshotConfig) : ℚ := max (cfg.downAfter * 2) 8

/-- What `snapshot` returns. -/
structure Snapshot where
  now : ℚ
  nodes : List NodeView
  links : List LinkView
  events : List DashboardEvent
  jammed : List ℤ
  source : String
  uptimeS : ℚ
  radioPackets : ℤ
  simulatedPackets : ℤ
  malformedPackets : ℤ
  radioStatus : String
  radioError : Option String
  radioChannel : Option ℤ
  radioSlot : Option ℤ
  radioNextHopMs : Option ℤ

/-- `snapshot`. -/
def snapshot (cfg : SnapshotConfig) (s : MeshState) (now : ℚ) : Snapshot where
  now
  nodes := (s.nodes.map fun entry => nodeToDict cfg s now entry.2).mergeSort
    fun a b => a.key ≤ b.key
  links := (((s.links.map Prod.snd).filter fun link => now - link.lastSeen ≤ cfg.linkSeconds).map
    (linkToDict cfg now)).mergeSort fun a b => a.key ≤ b.key
  events := s.events
  jammed := s.jammedSimNodes.mergeSort fun a b => a ≤ b
  source := cfg.source
  uptimeS := roundInt ((now - cfg.startedAt) * 10) / 10
  radioPackets := s.radioPackets
  simulatedPackets := s.simulatedPackets
  malformedPackets := s.malformedPackets
  radioStatus := s.radioStatus
  radioError := s.radioError
  radioChannel := s.radioChannel
  radioSlot := s.radioSlot
  radioNextHopMs := s.radioNextHopMs

/-! ### Sorting by a key -/

/-- **What has different keys** is in the strict order of the keys. -/
theorem pairwise_lt_mergeSort {α κ : Type} [LinearOrder κ] (key : α → κ) {xs : List α}
    (h : (xs.map key).Nodup) :
    (xs.mergeSort fun a b => key a ≤ key b).Pairwise fun a b => key a < key b := by
  have hperm := List.mergeSort_perm xs fun a b => key a ≤ key b
  have hle : (xs.mergeSort fun a b => key a ≤ key b).Pairwise fun a b =>
      decide (key a ≤ key b) = true :=
    List.pairwise_mergeSort
      (fun a b c hab hbc => by simp only [decide_eq_true_eq] at hab hbc ⊢; exact hab.trans hbc)
      (fun a b => by simpa using le_total (key a) (key b)) xs
  have hne : (xs.mergeSort fun a b => key a ≤ key b).Pairwise fun a b => key a ≠ key b :=
    List.pairwise_map.mp ((hperm.map key).nodup_iff.mpr h)
  exact hle.imp₂ (fun a b hab hne => lt_of_le_of_ne (of_decide_eq_true hab) hne) hne

/-! ### Rates -/

theorem roundHalfEven_le_of_le_mul {n d m : ℕ} (hd : 0 < d) (h : n ≤ m * d) :
    roundHalfEven n d ≤ m := by
  have hdiv : n / d ≤ m := Nat.div_le_of_le_mul (by rwa [Nat.mul_comm])
  obtain hlt | heq := Nat.lt_or_eq_of_le hdiv
  · exact (roundHalfEven_le n d).trans hlt
  · have hmod : n % d = 0 := by
      have hsplit := Nat.div_add_mod n d
      rw [heq, Nat.mul_comm d m] at hsplit
      omega
    rw [roundHalfEven, hmod, if_pos (by omega)]
    exact hdiv

/-- A fraction that is not above 1 is rounded to one that is not. -/
theorem nearestDouble_unit {n d : ℕ} (hd : 0 < d) (h : n ≤ d) :
    ∃ double, nearestDouble false n d = .finite double ∧ 0 ≤ double ∧ double ≤ 1 := by
  by_cases hn : n = 0
  · exact ⟨0, by rw [nearestDouble, if_pos hn], le_rfl, zero_le_one⟩
  have hlog : n.log2 ≤ d.log2 :=
    (Nat.le_log2 hd.ne').mpr ((Nat.log2_self_le hn).trans h)
  have hunit : ∀ (small : Prop) [Decidable small], max ((if small then
      (n.log2 : ℤ) - d.log2 - 1 else n.log2 - d.log2) - 52) (-1074) ≤ 0 := by
    intro small _
    split_ifs <;> omega
  rw [nearestDouble, if_neg hn]
  dsimp only
  have hle := hunit (n * 2 ^ (-((n.log2 : ℤ) - d.log2)).toNat <
    d * 2 ^ ((n.log2 : ℤ) - d.log2).toNat)
  generalize (max _ _ : ℤ) = unit at hle ⊢
  simp only [Int.toNat_of_nonpos hle, pow_zero, mul_one, Bool.false_eq_true, if_false]
  have hround : roundHalfEven (n * 2 ^ (-unit).toNat) d ≤ 2 ^ (-unit).toNat :=
    roundHalfEven_le_of_le_mul hd (by
      rw [Nat.mul_comm]
      exact Nat.mul_le_mul_left _ h)
  have hone : ((roundHalfEven (n * 2 ^ (-unit).toNat) d : ℕ) : ℚ) /
      ((2 ^ (-unit).toNat : ℕ) : ℚ) ≤ 1 := by
    rw [div_le_one (Nat.cast_pos.mpr (Nat.two_pow_pos _))]
    exact Nat.cast_le.mpr hround
  rw [if_neg (not_le.mpr (hone.trans_lt (one_lt_pow₀ one_lt_two (by decide))))]
  exact ⟨_, rfl, by positivity, hone⟩

/-- **A number between 0 and 1** stays between them as a double. -/
theorem toDouble_unit {value : ℚ} (h : 0 ≤ value ∧ value ≤ 1) :
    ∃ double, toDouble value = .finite double ∧ 0 ≤ double ∧ double ≤ 1 := by
  have hle : value.num ≤ value.den := by
    have hvalue := h.2
    rw [← Rat.num_div_den value, div_le_one (Nat.cast_pos.mpr value.den_pos)] at hvalue
    exact_mod_cast hvalue
  have hnonneg := Rat.num_nonneg.mpr h.1
  rw [toDouble, decide_eq_false (not_lt.mpr h.1)]
  exact nearestDouble_unit value.den_pos (by omega)

theorem roundInt_bounds {value : ℚ} {m : ℕ} (h : 0 ≤ value ∧ value ≤ m) :
    0 ≤ roundInt value ∧ roundInt value ≤ m := by
  have hle : value.num ≤ m * value.den := by
    have hvalue := h.2
    rw [← Rat.num_div_den value, div_le_iff₀ (Nat.cast_pos.mpr value.den_pos)] at hvalue
    exact_mod_cast hvalue
  have hnonneg := Rat.num_nonneg.mpr h.1
  have hnat : value.num.natAbs ≤ m * value.den := by
    rw [← Int.ofNat_le, Int.natCast_mul, Int.natAbs_of_nonneg hnonneg]
    exact hle
  have hround := roundHalfEven_le_of_le_mul value.den_pos hnat
  rw [roundInt, if_neg (not_lt.mpr h.1)]
  exact ⟨Int.natCast_nonneg _, Int.ofNat_le.mpr hround⟩

/-- **A rate is between 0 and 1**, and stays there when it is rounded. -/
theorem roundRate_unit {value : ℚ} (h : 0 ≤ value ∧ value ≤ 1) :
    ∃ rate, roundRate (toDouble value) = .finite rate ∧ 0 ≤ rate ∧ rate ≤ 1 := by
  obtain ⟨double, hdouble, hlow, hhigh⟩ := toDouble_unit h
  obtain ⟨hnonneg, hle⟩ := @roundInt_bounds (double * 10000) 10000
    ⟨by positivity, by push_cast; linarith⟩
  rw [hdouble]
  refine toDouble_unit ⟨div_nonneg (Int.cast_nonneg hnonneg) (by norm_num), ?_⟩
  rw [div_le_one (by norm_num)]
  exact_mod_cast hle

theorem lossRate_nodeToDict {cfg : SnapshotConfig} {s : MeshState} {now : ℚ} {node : NodeRecord}
    {nodeId : ℤ} (h : node.Tidy nodeId) :
    ∃ rate, (nodeToDict cfg s now node).lossRate = .finite rate ∧ 0 ≤ rate ∧ rate ≤ 1 := by
  have hpackets := h.packets
  have hlost := h.lost
  have hvalue : (nodeToDict cfg s now node).lossRate = roundRate
      (if node.packets + node.lostPackets = 0 then .finite 0
        else toDouble (node.lostPackets / (node.packets + node.lostPackets : ℤ))) := rfl
  rw [hvalue]
  split_ifs with htotal
  · exact ⟨0, by decide +kernel, le_rfl, zero_le_one⟩
  · have hpos : (0 : ℚ) < (node.packets + node.lostPackets : ℤ) := Int.cast_pos.mpr (by omega)
    refine roundRate_unit ⟨div_nonneg (Int.cast_nonneg hlost) hpos.le, ?_⟩
    rw [div_le_one hpos]
    exact Int.cast_le.mpr (by omega)

/-! ### Ages -/

/-- How bad a state is. -/
def Presence.severity : Presence → ℕ
  | .online => 0
  | .stale => 1
  | .down => 2

theorem severity_presence_mono {cfg : SnapshotConfig} {age age' : ℚ} (h : age ≤ age') :
    (presence cfg age).severity ≤ (presence cfg age').severity := by
  unfold presence
  split_ifs <;> first | decide | (exfalso; linarith)

/-- **A node that is not heard gets worse**, or stays as it is. -/
theorem severity_nodeToDict_mono {cfg : SnapshotConfig} {s s' : MeshState} {now now' : ℚ}
    (h : now ≤ now') (node : NodeRecord) : (nodeToDict cfg s now node).state.severity ≤
      (nodeToDict cfg s' now' node).state.severity := by
  unfold nodeToDict
  by_cases hbase : node.role = "base"
  · simp only [if_pos hbase]
    exact le_rfl
  · simp only [if_neg hbase]
    cases node.lastSeen with
    | none => exact le_rfl
    | some lastSeen => exact severity_presence_mono (sub_le_sub_right h lastSeen)

/-! ### What is shown -/

section

variable {cfg : SnapshotConfig} {s : MeshState} {now : ℚ}

theorem mem_nodes_snapshot {view : NodeView} :
    view ∈ (snapshot cfg s now).nodes ↔ ∃ entry ∈ s.nodes, nodeToDict cfg s now entry.2 = view := by
  simp only [snapshot, List.mem_mergeSort, List.mem_map]

theorem mem_links_snapshot {view : LinkView} :
    view ∈ (snapshot cfg s now).links ↔ ∃ entry ∈ s.links,
      now - entry.2.lastSeen ≤ cfg.linkSeconds ∧ linkToDict cfg now entry.2 = view := by
  simp only [snapshot, List.mem_mergeSort, List.mem_map, List.mem_filter, decide_eq_true_eq]
  constructor
  · rintro ⟨link, ⟨⟨entry, hentry, rfl⟩, hshown⟩, rfl⟩
    exact ⟨entry, hentry, hshown, rfl⟩
  · rintro ⟨entry, hentry, hshown, rfl⟩
    exact ⟨entry.2, ⟨⟨entry, hentry, rfl⟩, hshown⟩, rfl⟩

theorem mem_jammed_snapshot {nodeId : ℤ} :
    nodeId ∈ (snapshot cfg s now).jammed ↔ nodeId ∈ s.jammedSimNodes := by
  simp only [snapshot, List.mem_mergeSort]

/-- The nodes are those of the table, with the record that stands under their id. -/
theorem MeshState.Tidy.shown (h : s.Tidy) {view : NodeView}
    (hview : view ∈ (snapshot cfg s now).nodes) :
    s.nodes.lookup view.record.nodeId = some view.record ∧
      view = nodeToDict cfg s now view.record := by
  obtain ⟨entry, hentry, rfl⟩ := mem_nodes_snapshot.mp hview
  have hid : entry.2.nodeId = entry.1 := (h.nodes entry hentry).id
  refine ⟨?_, rfl⟩
  show s.nodes.lookup entry.2.nodeId = some entry.2
  rw [hid]
  exact (lookup_eq_some_iff_mem h.nodeKeys).mpr hentry

theorem MeshState.Tidy.mem_ids (h : s.Tidy) (nodeId : ℤ) :
    nodeId ∈ (snapshot cfg s now).nodes.map (fun view => view.record.nodeId) ↔
      (s.nodes.lookup nodeId).isSome := by
  rw [List.mem_map]
  constructor
  · rintro ⟨view, hview, rfl⟩
    rw [(h.shown hview).1]
    rfl
  · intro hthere
    obtain ⟨record, hlookup⟩ := Option.isSome_iff_exists.mp hthere
    have hmem := mem_of_lookup hlookup
    exact ⟨_, mem_nodes_snapshot.mpr ⟨(nodeId, record), hmem, rfl⟩, (h.nodes _ hmem).id⟩

/-- **Each node is shown once**, the base first and then by the ids. -/
theorem MeshState.Tidy.nodes_sorted (h : s.Tidy) :
    (snapshot cfg s now).nodes.Pairwise fun a b => a.key < b.key := by
  refine pairwise_lt_mergeSort NodeView.key (List.Nodup.of_map (fun key => (ofLex key).2) ?_)
  rw [List.map_map, List.map_map]
  have hids : s.nodes.map (((fun key => (ofLex key).2) ∘ NodeView.key) ∘
      fun entry => nodeToDict cfg s now entry.2) = s.nodes.map Prod.fst :=
    List.map_congr_left fun entry hentry => (h.nodes entry hentry).id
  rw [hids]
  exact h.nodeKeys

theorem MeshState.Tidy.links_sorted (h : s.Tidy) :
    (snapshot cfg s now).links.Pairwise fun a b => a.key < b.key := by
  refine pairwise_lt_mergeSort LinkView.key (List.Nodup.of_map ofLex ?_)
  rw [List.map_map, List.map_map]
  have hkeys : ∀ links : List ((ℤ × ℤ) × LinkRecord),
      (∀ entry ∈ links, (entry.2.fromId, entry.2.toId) = entry.1) →
      ((links.map Prod.snd).map (ofLex ∘ LinkView.key ∘ linkToDict cfg now)) =
        links.map Prod.fst := fun links hlinks => by
    rw [List.map_map]
    exact List.map_congr_left fun entry hentry => hlinks entry hentry
  have hall := h.linkKeys
  rw [← hkeys s.links h.links] at hall
  exact hall.sublist (List.Sublist.map _ List.filter_sublist)

theorem MeshState.Tidy.jammed_sorted (h : s.Tidy) :
    (snapshot cfg s now).jammed.Pairwise (· < ·) :=
  pairwise_lt_mergeSort id (by rw [List.map_id]; exact h.jammed)

theorem sum_packets_snapshot :
    ((snapshot cfg s now).nodes.map fun view => view.record.packets).sum = s.nodePackets := by
  have hperm := List.mergeSort_perm (s.nodes.map fun entry => nodeToDict cfg s now entry.2)
    fun a b => a.key ≤ b.key
  rw [snapshot, (hperm.map fun view => view.record.packets).sum_eq, List.map_map]
  rfl

end

/-- **What a snapshot shows is sound**, in every state that the threads reach.  Every node is
shown once and so is every link that was heard lately, in order, and a link joins nodes that are
shown; a node is marked as jammed if it is among the jammed ones; rates are between 0 and 1; the
packets of the nodes are those of the counters exactly as long as the radio loop took no frame
with a number that overflows.  And what is not heard between two snapshots only gets worse. -/
theorem snapshot_sound {py : Interpreter} {start : ℚ} {config : JsonDoc} {receiving : Bool}
    {d : Dashboard} (hstart : Dashboard.start py start config receiving = .ok d)
    (inputs : List (DashboardInput py)) (cfg : SnapshotConfig) (now : ℚ) {s : MeshState}
    (hs : (d.run inputs).mesh = s) {snap : Snapshot} (hsnap : snapshot cfg s now = snap) :
    snap.nodes.Pairwise (fun a b => a.key < b.key) ∧
      (∀ nodeId, nodeId ∈ snap.nodes.map (fun view => view.record.nodeId) ↔
        (s.nodes.lookup nodeId).isSome) ∧
      (∀ view ∈ snap.nodes, view.record = s.node view.record.nodeId ∧
        (view.jammed = true ↔ view.record.nodeId ∈ snap.jammed) ∧
        ∃ rate, view.lossRate = .finite rate ∧ 0 ≤ rate ∧ rate ≤ 1) ∧
      snap.jammed.Pairwise (· < ·) ∧
      snap.links.Pairwise (fun a b => a.key < b.key) ∧
      (∀ key link, s.links.lookup key = some link → ((∃ view ∈ snap.links, view.link = link) ↔
        now - link.lastSeen ≤ cfg.linkSeconds)) ∧
      (∀ view ∈ snap.links, view.link.fromId ≠ view.link.toId ∧
        view.link.fromId ∈ snap.nodes.map (fun view => view.record.nodeId) ∧
        view.link.toId ∈ snap.nodes.map (fun view => view.record.nodeId)) ∧
      ((snap.nodes.map fun view => view.record.packets).sum =
        snap.radioPackets + snap.simulatedPackets ↔ d.Counts inputs) ∧
      ∀ (more : List (DashboardInput py)) (later : ℚ), now ≤ later → ∀ view ∈ snap.nodes,
        (∀ input ∈ more, input.Spares [view.record.nodeId]) →
        ∀ view' ∈ (snapshot cfg ((d.run inputs).run more).mesh later).nodes,
          view'.record.nodeId = view.record.nodeId →
            view'.record = view.record ∧ view.state.severity ≤ view'.state.severity := by
  have htidy : (d.run inputs).mesh.Tidy := Dashboard.tidy_run (Dashboard.tidy_start hstart) inputs
  obtain ⟨hjoin, hpackets⟩ : (d.run inputs).mesh.LinksJoin ∧
      ((d.run inputs).mesh.nodePackets = (d.run inputs).mesh.radioPackets +
        (d.run inputs).mesh.simulatedPackets ↔ d.Counts inputs) := by
    obtain ⟨hcounts, hrun⟩ | ⟨hcounts, hrun⟩ :=
      Dashboard.consistent_run (Dashboard.consistent_start hstart) inputs
    · exact ⟨hrun.links, iff_of_true (hrun.packets.trans (add_zero _)) hcounts⟩
    · refine ⟨hrun.links, iff_of_false (fun h => ?_) hcounts⟩
      have hone := hrun.packets
      omega
  have htidy' := htidy
  rw [hs] at htidy hjoin hpackets
  subst hsnap
  refine ⟨htidy.nodes_sorted, htidy.mem_ids, fun view hview => ?_, htidy.jammed_sorted,
    htidy.links_sorted, fun key link hlookup => ?_, fun view hview => ?_, ?_,
    fun more later hlater view hview hmore view' hview' hid => ?_⟩
  · obtain ⟨hlookup, heq⟩ := htidy.shown hview
    refine ⟨(MeshState.node_of_lookup hlookup).symm, ?_, ?_⟩
    · rw [heq, mem_jammed_snapshot]
      exact decide_eq_true_iff
    · rw [heq]
      exact lossRate_nodeToDict (htidy.nodes _ (mem_of_lookup hlookup))
  · constructor
    · rintro ⟨view, hview, rfl⟩
      obtain ⟨entry, -, hshown, rfl⟩ := mem_links_snapshot.mp hview
      exact hshown
    · intro hshown
      exact ⟨_, mem_links_snapshot.mpr ⟨(key, link), mem_of_lookup hlookup, hshown, rfl⟩, rfl⟩
  · obtain ⟨entry, hentry, -, rfl⟩ := mem_links_snapshot.mp hview
    rw [htidy.mem_ids, htidy.mem_ids]
    exact hjoin entry hentry
  · rw [sum_packets_snapshot]
    exact hpackets
  · obtain ⟨hlookup, heq⟩ := htidy.shown hview
    obtain ⟨hlookup', heq'⟩ := (Dashboard.tidy_run htidy' more).shown hview'
    have hrecord : view'.record = view.record := by
      rw [← MeshState.node_of_lookup hlookup', ← MeshState.node_of_lookup hlookup, hid,
        Dashboard.run_spares hmore List.mem_cons_self, hs]
    refine ⟨hrecord, ?_⟩
    rw [heq, heq', hrecord]
    exact severity_nodeToDict_mono hlater view.record

/-- The default thresholds. -/
def SnapshotConfig.sample : SnapshotConfig := ⟨5 / 2, 6, "both", 0⟩

/-- Of a status, a jammed node and a frame of the simulation, and a while later. -/
theorem snapshot_sound_sample : ∃ d snap,
    Dashboard.start sampleInterpreter 0 (.obj []) true = .ok d ∧
    snapshot .sample (d.run sampleInputs).mesh 4 = snap ∧
    (snap.nodes.map fun view => view.record.packets).sum =
      snap.radioPackets + snap.simulatedPackets ∧
    ∀ view ∈ snap.nodes,
      ∀ view' ∈ (snapshot .sample ((d.run sampleInputs).run
        [(.reset 5 : DashboardInput sampleInterpreter)]).mesh 8).nodes,
        view'.record.nodeId = view.record.nodeId → view.state.severity ≤ view'.state.severity := by
  obtain ⟨-, -, -, -, -, -, -, hpackets, hlater⟩ := @snapshot_sound sampleInterpreter 0
    (.obj []) true ⟨.initial 0, true⟩ rfl sampleInputs .sample 4 _ rfl _ rfl
  have hspares : ∀ (ids : List ℤ), ∀ input ∈ [(.reset 5 : DashboardInput sampleInterpreter)],
      input.Spares ids := by
    simp [DashboardInput.Spares]
  refine ⟨_, _, rfl, rfl, hpackets.mpr (by decide +kernel), fun view hview view' hview' hid => ?_⟩
  exact (hlater [.reset 5] 8 (by norm_num) view hview (hspares _) view' hview' hid).2

end KovaWfb
