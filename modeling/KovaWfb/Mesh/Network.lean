/-
# A network of nodes

Several nodes of `python/examples/mesh_txrx.py` and the copies they transmit.
Nobody forges: a node receives copies that were transmitted, in any order, any
number of times or never.

The network remembers every origination, every transmitted copy with its root (the
origination it goes back to) and its hops (how often it was forwarded), and every
turn of every node.  Two facts carry everything said about floods: each node's turns
are a run of the node (`Reachable.nodeRun`), and each copy is the originated packet
with its ttl lowered by its hops (`Reachable.carried`).
-/

import KovaWfb.Mesh.Run

namespace KovaWfb

/-! ### Packets -/

/-- A `route_data` packet after `hops` forwards, its payload protected as `inner`. -/
def RouteData.copyAt (r : RouteData) (hops : ℕ) (inner : Bytes) : RouteData :=
  { r with ttl := r.ttl - hops, innerPayload := inner }

/-- A `route_v2` packet after `hops` forwards. -/
def RouteDataV2.copyAt (r : RouteDataV2) (hops : ℕ) : RouteDataV2 := { r with ttl := r.ttl - hops }

theorem RouteData.copyAt_zero (r : RouteData) (inner : Bytes) :
    r.copyAt 0 inner = { r with innerPayload := inner } := by
  simp only [RouteData.copyAt, Nat.cast_zero, sub_zero]

theorem RouteDataV2.copyAt_zero (r : RouteDataV2) : r.copyAt 0 = r := by
  simp only [RouteDataV2.copyAt, Nat.cast_zero, sub_zero]

theorem RouteData.hop_copyAt (r : RouteData) (hops : ℕ) (inner inner' : Bytes) :
    (r.copyAt hops inner).hop inner' = r.copyAt (hops + 1) inner' := by
  simp only [RouteData.copyAt, RouteData.hop, Nat.cast_add, Nat.cast_one, sub_sub]

theorem RouteDataV2.hop_copyAt (r : RouteDataV2) (hops : ℕ) :
    (r.copyAt hops).hop = r.copyAt (hops + 1) := by
  simp only [RouteDataV2.copyAt, RouteDataV2.hop, Nat.cast_add, Nat.cast_one, sub_sub]

/-- An originated packet.  The payload of a `route_data` packet is the one
originated, before any protection. -/
inductive Packet
  | data (r : RouteData)
  | v2 (r : RouteDataV2)
  deriving DecidableEq

namespace Packet

/-- The key the nodes know it by. -/
def dedupeKey : Packet → List ℤ
  | .data r => r.dedupeKey
  | .v2 r => r.dedupeKey

/-- The hops it was given. -/
def ttl : Packet → ℤ
  | .data r => r.ttl
  | .v2 r => r.ttl

/-- The same packet after `hops` forwards. -/
def afterHops (hops : ℕ) : Packet → Packet
  | .data r => .data (r.copyAt hops r.innerPayload)
  | .v2 r => .v2 (r.copyAt hops)

/-- The node is the origin it names. -/
def IsOwn (cfg : NodeConfig) : Packet → Prop
  | .data r => r.originSenderId = cfg.senderId
  | .v2 r => routeV2IsOwn cfg r

/-- The payload is an outer frame around the packet. -/
def FramedIn (payload : Bytes) : Packet → Prop
  | .data r => ∃ senderId appSeq, r.Valid ∧ (outerFrame senderId msgRouteData appSeq r.bytes).Valid ∧
      payload = (outerFrame senderId msgRouteData appSeq r.bytes).bytes
  | .v2 r => ∃ senderId appSeq, r.Valid ∧ (outerFrame senderId msgRouteV2 appSeq r.bytes).Valid ∧
      payload = (outerFrame senderId msgRouteV2 appSeq r.bytes).bytes

theorem FramedIn.carries_data {r r' : RouteData} {payload : Bytes} (h : (data r).FramedIn payload)
    (hcarries : CarriesRoute payload r') : r' = r := by
  obtain ⟨senderId, appSeq, hr, hf, rfl⟩ := h
  exact hcarries.eq_of_outerFrame hr hf

theorem FramedIn.carries_v2 {r r' : RouteDataV2} {payload : Bytes} (h : (v2 r).FramedIn payload)
    (hcarries : CarriesRouteV2 payload r') : r' = r := by
  obtain ⟨senderId, appSeq, hr, hf, rfl⟩ := h
  exact hcarries.eq_of_outerFrame hr hf

/-- A framed packet does not pass for one of the other format. -/
theorem FramedIn.not_carries_v2 {r : RouteData} {q : RouteDataV2} {payload : Bytes}
    (h : (data r).FramedIn payload) : ¬ CarriesRouteV2 payload q := by
  obtain ⟨senderId, appSeq, -, hf, rfl⟩ := h
  rintro ⟨f, hframe, hv2, -⟩
  obtain ⟨hf', -, hfb⟩ := decodeFrame_eq_ok_iff.mp hframe
  obtain rfl := AppFrame.bytes_inj hf' hf hfb
  exact absurd hv2 (show msgRouteData ≠ msgRouteV2 by decide)

theorem FramedIn.not_carries_data {r : RouteDataV2} {q : RouteData} {payload : Bytes}
    (h : (v2 r).FramedIn payload) : ¬ CarriesRoute payload q := by
  obtain ⟨senderId, appSeq, -, hf, rfl⟩ := h
  rintro ⟨f, hframe, hdata, -⟩
  obtain ⟨hf', -, hfb⟩ := decodeFrame_eq_ok_iff.mp hframe
  obtain rfl := AppFrame.bytes_inj hf' hf hfb
  exact absurd hdata (show msgRouteV2 ≠ msgRouteData by decide)

end Packet

/-! ### What a copy carries -/

/-- The plaintext of an accepted packet is the one it carries. -/
theorem AcceptsData.plaintextOf {A : Aead} {cfg : NodeConfig} {env : Env} {payload : Bytes}
    {a : AcceptedData} {s s' : NodeState} (h : AcceptsData A cfg env payload a s s') :
    PlaintextOf A cfg a.route a.plaintext := by
  obtain ⟨hkey, hp, -, -⟩ | ⟨c, secure, hkey, hopen, -, -, -⟩ := h.auth
  · exact .clear hkey hp
  · exact .opened c secure hkey hopen

namespace Packet

variable {ι : Type*} {A : Aead} {cfg : ι → NodeConfig}

/-- All nodes protect the packet alike: not at all, or under one key with a correct
cipher. -/
def Relayable (A : Aead) (cfg : ι → NodeConfig) : Packet → Prop
  | .data r => (∀ i j, (cfg i).meshCryptoFor r.innerType = (cfg j).meshCryptoFor r.innerType) ∧
      ∀ i, (cfg i).meshCryptoFor r.innerType ≠ none → A.Correct chacha20Poly1305TagSize
  | .v2 _ => True

/-- The payload is a frame around the packet after `hops` forwards.  A `route_data`
packet may be protected in it, as long as every node gets the originated payload
out of it. -/
def Carried (A : Aead) (cfg : ι → NodeConfig) (hops : ℕ) (payload : Bytes) : Packet → Prop
  | .data r => ∃ inner, (data (r.copyAt hops inner)).FramedIn payload ∧
      ∀ i, PlaintextOf A (cfg i) (r.copyAt hops inner) r.innerPayload
  | .v2 r => (v2 (r.copyAt hops)).FramedIn payload

/-- Where nothing protects the packet, the payload is the originated one. -/
theorem Carried.framedIn {r : RouteData} {hops : ℕ} {payload : Bytes}
    (h : (data r).Carried A cfg hops payload) {i : ι}
    (hclear : (cfg i).meshCryptoFor r.innerType = none) :
    ((data r).afterHops hops).FramedIn payload := by
  obtain ⟨inner, hframed, hplain⟩ := h
  cases hplain i with
  | clear _ hp =>
    obtain rfl : inner = r.innerPayload := hp
    exact hframed
  | opened c secure hkey => exact absurd (hclear.symm.trans hkey) (by simp)

/-- No copy was forwarded more often than the originated ttl allows. -/
theorem Carried.hops_le {p : Packet} {hops : ℕ} {payload : Bytes}
    (h : p.Carried A cfg hops payload) : (hops : ℤ) ≤ p.ttl := by
  cases p with
  | data r =>
    obtain ⟨inner, ⟨senderId, appSeq, hr, -⟩, -⟩ := h
    exact sub_nonneg.mp hr.ttl.1
  | v2 r =>
    obtain ⟨senderId, appSeq, hr, -⟩ := h
    exact sub_nonneg.mp hr.ttl.1

/-- Every node that accepts a copy accepts the originated packet: it is not its
origin, and did not hold its key but does now. -/
theorem Carried.accepted {p : Packet} {hops : ℕ} {payload : Bytes}
    (h : p.Carried A cfg hops payload) {i : ι} {env : Env} {s s' : NodeState} {v : Verdict}
    (hreceive : receive A (cfg i) env payload s = .ok v s') (hv : v.accepted = true) :
    ¬ p.IsOwn (cfg i) ∧ ¬ p.dedupeKey ∈ s.seen ∧ s'.seen = (s.seen.remember p.dedupeKey).2 := by
  cases p with
  | data r =>
    obtain ⟨inner, hframed, -⟩ := h
    cases v with
    | dropped => cases hv
    | data a =>
      have ha := receive_data_accepts hreceive
      have hroute := hframed.carries_data ha.carries
      have hown := ha.not_own
      have hseen := ha.not_seen
      have hseen' := ha.seen_eq
      rw [hroute] at hown hseen hseen'
      exact ⟨hown, hseen, hseen'⟩
    | v2 a => exact absurd (receive_v2_accepts hreceive).carries hframed.not_carries_v2
  | v2 r =>
    cases v with
    | dropped => cases hv
    | data a => exact absurd (receive_data_accepts hreceive).carries (FramedIn.not_carries_data h)
    | v2 a =>
      have ha := receive_v2_accepts hreceive
      have hroute := FramedIn.carries_v2 h ha.carries
      have hown := ha.not_own
      have hseen := ha.not_seen
      have hseen' := ha.seen_eq
      rw [hroute] at hown hseen hseen'
      exact ⟨hown, hseen, hseen'⟩

/-- **What a node forwards of a copy is a copy with one more hop.** -/
theorem Carried.forward {p : Packet} (hp : p.Relayable A cfg) {hops : ℕ} {payload : Bytes}
    (h : p.Carried A cfg hops payload) {i : ι} {env : Env} {s s' : NodeState} {v : Verdict}
    (hreceive : receive A (cfg i) env payload s = .ok v s') {f : RadioFrame}
    (hsent : v.sent = some f) : p.Carried A cfg (hops + 1) f.payload := by
  cases p with
  | data r =>
    obtain ⟨inner, hframed, hplain⟩ := h
    cases v with
    | dropped => cases hsent
    | v2 a => exact absurd (receive_v2_accepts hreceive).carries hframed.not_carries_v2
    | data a =>
      have ha := receive_data_accepts hreceive
      have hroute := hframed.carries_data ha.carries
      have hplaintext : a.plaintext = r.innerPayload := by
        have hq := ha.plaintextOf
        rw [hroute] at hq
        exact hq.unique (hplain i)
      change a.forwarded = some f at hsent
      obtain ⟨-, hnone⟩ | ⟨-, routed, hrouted, hv, hf, -, -, heq⟩ := ha.forward
      · cases hnone.symm.trans hsent
      · obtain rfl := Option.some.inj (heq.symm.trans hsent)
        rw [hroute, RouteData.hop_copyAt] at hv hf
        rw [hroute, hplaintext] at hrouted
        have hrouted' : PlaintextOf A (cfg i) (r.copyAt (hops + 1) routed) r.innerPayload := by
          rw [← RouteData.hop_copyAt r hops inner]
          exact @plaintextOf_of_encrypt A (cfg i) env ((r.copyAt hops inner).hop routed) (hp.2 i) _
            hrouted
        refine ⟨routed, ⟨_, _, hv, hf, ?_⟩, fun j => hrouted'.congr (hp.1 j i)⟩
        rw [hroute, RouteData.hop_copyAt]
  | v2 r =>
    cases v with
    | dropped => cases hsent
    | data a => exact absurd (receive_data_accepts hreceive).carries (FramedIn.not_carries_data h)
    | v2 a =>
      have ha := receive_v2_accepts hreceive
      have hroute := FramedIn.carries_v2 h ha.carries
      have hvalid := ha.carries.valid
      change a.forwarded = some f at hsent
      obtain ⟨-, hnone⟩ | ⟨httl, hf, -, -, heq⟩ := ha.forward
      · cases hnone.symm.trans hsent
      · obtain rfl := Option.some.inj (heq.symm.trans hsent)
        have hhop := hvalid.hop httl
        rw [hroute, RouteDataV2.hop_copyAt] at hhop hf
        refine ⟨_, _, hhop, hf, ?_⟩
        rw [hroute, RouteDataV2.hop_copyAt]

end Packet

/-! ### The network -/

/-- A transmitted copy: who sent it, the origination it goes back to, and how often
it was forwarded. -/
structure Copy (ι : Type*) where
  sender : ι
  payload : Bytes
  root : ℕ
  hops : ℕ
  deriving DecidableEq

/-- One turn of one node, with the copy it received, if any. -/
structure Turn (ι : Type*) where
  node : ι
  tick : Tick
  copy : Option (ℕ × Copy ι)

/-- The nodes and what happened so far. -/
structure Network (ι : Type*) where
  node : ι → NodeState
  originations : List (ι × Packet)
  sent : List (Copy ι)
  turns : List (Turn ι)

/-- The state of every node when it starts. -/
structure NetworkStart (ι : Type*) where
  originSeq : ι → SeqNo
  now : ι → ℚ
  channel : ι → Option ℤ

namespace Network

variable {ι : Type*}

section Steps

variable [DecidableEq ι]

/-- Node `i` took a turn. -/
def turn (w : Network ι) (i : ι) (e : NodeEvent) (s' : NodeState) (copy : Option (ℕ × Copy ι)) :
    Network ι :=
  { w with
    node := Function.update w.node i s'
    turns := w.turns ++ [⟨i, ⟨w.node i, e, s'⟩, copy⟩] }

/-- Node `i` originated a packet. -/
def originate (w : Network ι) (i : ι) (p : Packet) (frame : RadioFrame) : Network ι :=
  { w with
    originations := w.originations ++ [(i, p)]
    sent := w.sent ++ [⟨i, frame.payload, w.originations.length, 0⟩] }

/-- Node `i` forwarded what the verdict says it forwarded. -/
def forward (w : Network ι) (i : ι) (c : Copy ι) (v : Verdict) : Network ι :=
  { w with sent := w.sent ++ v.sent.toList.map fun f => ⟨i, f.payload, c.root, c.hops + 1⟩ }

/-- One step of the network: some node takes a turn. -/
inductive Step (A : Aead) (cfg : ι → NodeConfig) (w : Network ι) : Network ι → Prop
  | sendRoute (i : ι) (env : Env) (innerType : ℤ) (payload : Bytes) (destinationId ttl : ℤ)
      (sent : SentRoute) (s' : NodeState)
      (h : sendRoute A (cfg i) env innerType payload destinationId ttl (w.node i) = .ok sent s') :
      Step A cfg w
        ((w.originate i (.data ⟨(cfg i).senderId, destinationId, ttl, sent.seqSent, innerType, payload⟩)
          sent.frame).turn i (.sentRoute env innerType payload destinationId ttl sent) s' none)
  | sendRouteV2 (i : ι) (env : Env) (innerType : ℤ) (payload : Bytes)
      (destinationType destinationId ttl trafficClass : ℤ) (sent : SentRouteV2) (s' : NodeState)
      (h : sendRouteV2 A (cfg i) env innerType payload destinationType destinationId ttl trafficClass
        (w.node i) = .ok sent s') :
      Step A cfg w
        ((w.originate i (.v2 sent.route) sent.frame).turn i
          (.sentRouteV2 env innerType payload destinationType destinationId ttl trafficClass sent) s'
          none)
  | receive (i : ι) (env : Env) (k : ℕ) (c : Copy ι) (v : Verdict) (s' : NodeState)
      (hc : w.sent[k]? = some c)
      (h : receive A (cfg i) env c.payload (w.node i) = .ok v s') :
      Step A cfg w ((w.forward i c v).turn i (.received env c.payload v) s' (some (k, c)))
  | other (i : ι) (e : NodeEvent) (s' : NodeState) (he : e = .idle ∨ ∃ error, e = .sendFailed error)
      (h : NodeStep A (cfg i) (w.node i) e s') : Step A cfg w (w.turn i e s' none)

/-- The network before anything happened. -/
def initial (cfg : ι → NodeConfig) (start : NetworkStart ι) : Network ι where
  node i := NodeState.initial (cfg i) (start.originSeq i) (start.now i) (start.channel i)
  originations := []
  sent := []
  turns := []

/-- What a run of the network can reach. -/
inductive Reachable (A : Aead) (cfg : ι → NodeConfig) (start : NetworkStart ι) : Network ι → Prop
  | start : Reachable A cfg start (initial cfg start)
  | step {w w' : Network ι} (h : Reachable A cfg start w) (hstep : Step A cfg w w') :
      Reachable A cfg start w'

end Steps

variable {A : Aead} {cfg : ι → NodeConfig} {start : NetworkStart ι}

/-! ### Each node runs -/

section NodeRuns

variable [DecidableEq ι]

/-- The turns of one node. -/
def ticksOf (turns : List (Turn ι)) (i : ι) : List Tick :=
  (turns.filter fun t => t.node = i).map (·.tick)

theorem ticksOf_append (turns turns' : List (Turn ι)) (i : ι) :
    ticksOf (turns ++ turns') i = ticksOf turns i ++ ticksOf turns' i := by
  rw [ticksOf, List.filter_append, List.map_append]
  rfl

/-- **What one step does to the nodes**: one of them takes a turn, and the rest
stay. -/
theorem Step.node_turns {w w' : Network ι} (h : Step A cfg w w') :
    ∃ i e s' copy, NodeStep A (cfg i) (w.node i) e s' ∧ w'.node = Function.update w.node i s' ∧
      w'.turns = w.turns ++ [⟨i, ⟨w.node i, e, s'⟩, copy⟩] := by
  cases h with
  | sendRoute i env innerType payload destinationId ttl sent s' h =>
    exact ⟨i, _, s', none, .sendRoute _ _ _ _ _ _ _ _ h, rfl, rfl⟩
  | sendRouteV2 i env innerType payload destinationType destinationId ttl trafficClass sent s' h =>
    exact ⟨i, _, s', none, .sendRouteV2 _ _ _ _ _ _ _ _ _ _ h, rfl, rfl⟩
  | receive i env k c v s' hc h => exact ⟨i, _, s', _, .receive _ _ _ _ _ h, rfl, rfl⟩
  | other i e s' he h => exact ⟨i, e, s', none, h, rfl, rfl⟩

/-- **The turns of each node are a run of the node.** -/
theorem Reachable.nodeRun {w : Network ι} (h : Reachable A cfg start w) (j : ι) :
    NodeRun A (cfg j) ((initial cfg start).node j) (ticksOf w.turns j) (w.node j) := by
  induction h with
  | start => exact .nil _
  | @step w w' _ hstep ih =>
    obtain ⟨i, e, s', copy, hnode, hupdate, hturns⟩ := hstep.node_turns
    rw [hturns, hupdate, ticksOf_append]
    by_cases hij : i = j
    · subst hij
      rw [Function.update_self]
      have hone : ticksOf [(⟨i, ⟨w.node i, e, s'⟩, copy⟩ : Turn ι)] i = [⟨w.node i, e, s'⟩] := by
        simp [ticksOf]
      rw [hone]
      exact NodeRun.append_iff.mpr ⟨_, ih, .cons hnode (.nil _)⟩
    · rw [Function.update_of_ne (Ne.symm hij)]
      have hnone : ticksOf [(⟨i, ⟨w.node i, e, s'⟩, copy⟩ : Turn ι)] j = [] := by
        simp [ticksOf, hij]
      rwa [hnone, List.append_nil]

end NodeRuns

/-! ### Each copy is the originated packet -/

/-- What holds of the network's memory at any time. -/
structure Sound (A : Aead) (cfg : ι → NodeConfig) (w : Network ι) : Prop where
  /-- Packets are originated by the node they name. -/
  own : ∀ i p, (i, p) ∈ w.originations → p.IsOwn (cfg i)
  /-- Every copy goes back to an origination, and is a copy of its packet. -/
  carried : ∀ c ∈ w.sent, ∃ i p, w.originations[c.root]? = some (i, p) ∧
    (p.Relayable A cfg → p.Carried A cfg c.hops c.payload)
  /-- What a turn received was transmitted before, and was dealt with by `receive`. -/
  received : ∀ t ∈ w.turns, ∀ k c, t.copy = some (k, c) → w.sent[k]? = some c ∧
    ∃ env v, t.tick.event = .received env c.payload v ∧
      receive A (cfg t.node) env c.payload t.tick.before = .ok v t.tick.after

theorem getElem?_append_of_some {α : Type*} {l l' : List α} {k : ℕ} {a : α} (h : l[k]? = some a) :
    (l ++ l')[k]? = some a := by
  rw [List.getElem?_append_left (List.getElem?_eq_some_iff.mp h).1, h]

/-- Originating a packet in its own frame keeps the network sound. -/
theorem Sound.originate {w : Network ι} (hw : Sound A cfg w) {i : ι} {p : Packet}
    {frame : RadioFrame} (hown : p.IsOwn (cfg i))
    (hcarried : p.Relayable A cfg → p.Carried A cfg 0 frame.payload) :
    Sound A cfg (w.originate i p frame) where
  own j q hq := by
    rcases List.mem_append.mp hq with hq | hq
    · exact hw.own j q hq
    · obtain ⟨rfl, rfl⟩ := Prod.mk.inj (List.mem_singleton.mp hq)
      exact hown
  carried c hc := by
    rcases List.mem_append.mp hc with hc | hc
    · obtain ⟨j, q, hroot, hq⟩ := hw.carried c hc
      exact ⟨j, q, getElem?_append_of_some hroot, hq⟩
    · obtain rfl := List.mem_singleton.mp hc
      exact ⟨i, p, List.getElem?_concat_length, hcarried⟩
  received t ht k c hcopy := by
    obtain ⟨hk, hreceive⟩ := hw.received t ht k c hcopy
    exact ⟨getElem?_append_of_some hk, hreceive⟩

/-- Forwarding keeps the network sound. -/
theorem Sound.forward {w : Network ι} (hw : Sound A cfg w) {i : ι} {c : Copy ι} (hc : c ∈ w.sent)
    {env : Env} {s s' : NodeState} {v : Verdict}
    (h : receive A (cfg i) env c.payload s = .ok v s') : Sound A cfg (w.forward i c v) where
  own := hw.own
  carried d hd := by
    rcases List.mem_append.mp hd with hd | hd
    · exact hw.carried d hd
    · obtain ⟨f, hf, rfl⟩ := List.mem_map.mp hd
      obtain ⟨j, q, hroot, hq⟩ := hw.carried c hc
      exact ⟨j, q, hroot, fun hrelay => (hq hrelay).forward hrelay h (Option.mem_toList.mp hf)⟩
  received t ht k d hcopy := by
    obtain ⟨hk, hreceive⟩ := hw.received t ht k d hcopy
    exact ⟨getElem?_append_of_some hk, hreceive⟩

variable [DecidableEq ι]

/-- Recording a turn keeps the network sound, if what the turn received is as
recorded. -/
theorem Sound.turn {w : Network ι} (hw : Sound A cfg w) {i : ι} {e : NodeEvent} {s' : NodeState}
    {copy : Option (ℕ × Copy ι)}
    (hcopy : ∀ k c, copy = some (k, c) → w.sent[k]? = some c ∧
      ∃ env v, e = .received env c.payload v ∧
        receive A (cfg i) env c.payload (w.node i) = .ok v s') :
    Sound A cfg (w.turn i e s' copy) where
  own := hw.own
  carried := hw.carried
  received t ht k c hk := by
    rcases List.mem_append.mp ht with ht | ht
    · exact hw.received t ht k c hk
    · obtain rfl := List.mem_singleton.mp ht
      exact hcopy k c hk

/-- **One step keeps the network sound.** -/
theorem Step.sound {w w' : Network ι} (h : Step A cfg w w') (hw : Sound A cfg w) :
    Sound A cfg w' := by
  cases h with
  | sendRoute i env innerType payload destinationId ttl sent s' h =>
    obtain ⟨routed, hrouted, hv, hf, -, -, rfl, -⟩ := sendRoute_eq_ok.mp h
    have hown : (Packet.data ⟨(cfg i).senderId, destinationId, ttl, (w.node i).nextOriginSeq.value,
      innerType, payload⟩).IsOwn (cfg i) := rfl
    refine (hw.originate hown fun hrelay => ?_).turn nofun
    have hplain := @plaintextOf_of_encrypt A (cfg i) env ⟨(cfg i).senderId, destinationId, ttl,
      (w.node i).nextOriginSeq.value, innerType, routed⟩ (hrelay.2 i) payload hrouted
    refine ⟨routed, ?_, fun j => ?_⟩
    · rw [RouteData.copyAt_zero]
      exact ⟨(cfg i).senderId, (w.node i).nextOuterSeq.value, hv, hf, rfl⟩
    · rw [RouteData.copyAt_zero]
      exact hplain.congr (hrelay.1 j i)
  | sendRouteV2 i env innerType payload destinationType destinationId ttl trafficClass sent s' h =>
    obtain ⟨e2e, c, -, hv, -, -, hf, -, -, rfl, -⟩ := sendRouteV2_eq_ok.mp h
    have hown : (Packet.v2 ⟨routeV2Version, (cfg i).originType, (cfg i).senderId, destinationType,
      destinationId, ttl, (w.node i).nextOriginSeq.value, trafficClass, innerType, e2e⟩).IsOwn
        (cfg i) := ⟨rfl, rfl⟩
    refine (hw.originate hown fun _ => ?_).turn nofun
    rw [Packet.Carried, RouteDataV2.copyAt_zero]
    exact ⟨(cfg i).senderId, (w.node i).nextOuterSeq.value, hv, hf, rfl⟩
  | receive i env k c v s' hc h =>
    refine (hw.forward (List.mem_of_getElem? hc) h).turn fun k' c' heq => ?_
    obtain ⟨rfl, rfl⟩ := Prod.mk.inj (Option.some.inj heq)
    exact ⟨getElem?_append_of_some hc, env, v, rfl, h⟩
  | other i e s' he h => exact hw.turn nofun

/-- **Every reachable network is sound.** -/
theorem Reachable.sound {w : Network ι} (h : Reachable A cfg start w) : Sound A cfg w := by
  induction h with
  | start =>
    exact ⟨fun _ _ h => absurd h List.not_mem_nil, fun _ h => absurd h List.not_mem_nil,
      fun _ h => absurd h List.not_mem_nil⟩
  | step _ hstep ih => exact hstep.sound ih

/-! ### Running a network -/

/-- What to do next: originate a packet, or deliver a copy. -/
inductive Command (ι : Type*)
  | originate (i : ι) (innerType : ℤ) (payload : Bytes) (destinationId ttl : ℤ)
  | deliver (i : ι) (k : ℕ)

/-- One command, unless the copy does not exist or the node raises. -/
def exec (A : Aead) (cfg : ι → NodeConfig) (env : Env) (w : Network ι) :
    Command ι → Option (Network ι)
  | .originate i innerType payload destinationId ttl =>
      match sendRoute A (cfg i) env innerType payload destinationId ttl (w.node i) with
      | .ok sent s' => some ((w.originate i
          (.data ⟨(cfg i).senderId, destinationId, ttl, sent.seqSent, innerType, payload⟩)
          sent.frame).turn i (.sentRoute env innerType payload destinationId ttl sent) s' none)
      | .error _ _ => none
  | .deliver i k =>
      match w.sent[k]? with
      | none => none
      | some c =>
          match receive A (cfg i) env c.payload (w.node i) with
          | .ok v s' => some ((w.forward i c v).turn i (.received env c.payload v) s' (some (k, c)))
          | .error _ _ => none

/-- The commands one after the other. -/
def execAll (A : Aead) (cfg : ι → NodeConfig) (env : Env) (w : Network ι) :
    List (Command ι) → Option (Network ι)
  | [] => some w
  | c :: cs => (exec A cfg env w c).bind fun w' => execAll A cfg env w' cs

theorem exec_step {env : Env} {w w' : Network ι} {c : Command ι} (h : exec A cfg env w c = some w') :
    Step A cfg w w' := by
  cases c with
  | originate i innerType payload destinationId ttl =>
    simp only [exec] at h
    split at h
    · rename_i sent s' hsend
      obtain rfl := Option.some.inj h
      exact .sendRoute i env innerType payload destinationId ttl sent s' hsend
    · cases h
  | deliver i k =>
    simp only [exec] at h
    split at h
    · cases h
    · rename_i c hc
      split at h
      · rename_i v s' hreceive
        obtain rfl := Option.some.inj h
        exact .receive i env k c v s' hc hreceive
      · cases h

theorem Reachable.execAll {env : Env} {w w' : Network ι} {cs : List (Command ι)}
    (hw : Reachable A cfg start w) (h : Network.execAll A cfg env w cs = some w') :
    Reachable A cfg start w' := by
  induction cs generalizing w with
  | nil =>
    obtain rfl := Option.some.inj h
    exact hw
  | cons c cs ih =>
    obtain ⟨w₁, h₁, hrest⟩ := Option.bind_eq_some_iff.mp h
    exact ih (hw.step (exec_step h₁)) hrest

end Network

end KovaWfb
