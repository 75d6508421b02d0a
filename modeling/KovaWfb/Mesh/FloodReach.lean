/-
# Flood reach

How far a broadcast gets in a network of `python/examples/mesh_txrx.py` nodes when
no copy is lost.  A node takes part with the first copy it processes and drops the
others (lines 2319 to 2330 and 2448 to 2455), and the ttl of that copy decides how
far it is forwarded.  If no node's first copy has a smaller ttl than a later one
(`BestFirst`), the message reaches every node within `ttl + 1` hops
(`flood_reach`); otherwise it need not (`flood_reach_fails`).

A node that gets its first copy is in the state that lets it take part: the keys in
its windows are of packets it originated or processed (`Reachable.seen_known`,
`Reachable.replay_known`).
-/

import KovaWfb.Lib.Flood
import KovaWfb.Mesh.FloodSafety

namespace KovaWfb

variable {ι : Type*} {A : Aead} {cfg : ι → NodeConfig}

/-! ### What a node does with a copy -/

/-- The packet is for everyone. -/
def Packet.IsBroadcast : Packet → Prop
  | .data r => r.destinationId = 0
  | .v2 r => r.destinationType = addrBroadcast

/-- The types in the packet are registered. -/
def Packet.Registered : Packet → Prop
  | .data r => messageTypes.Has r.innerType
  | .v2 r => trafficClasses.Has r.trafficClass ∧ messageTypes.Has r.innerType

/-- The payload of a `route_v2` packet is a wrapper. -/
def Packet.Wrapped : Packet → Prop
  | .data _ => True
  | .v2 r => ∃ secure, decodeSecurePayload r.innerPayload = .ok secure

/-- The packet was delivered here. -/
def Verdict.delivers : Verdict → Bool
  | .dropped _ => false
  | .data a => a.delivery ≠ .transit
  | .v2 a => a.delivered

/-- The state lets the packet pass: neither window holds a key of it. -/
def Packet.FreshFor (s : NodeState) : Packet → Prop
  | .data r => ¬ r.dedupeKey ∈ s.seen ∧ ∀ c, ¬ meshAuthKey c r ∈ s.secureReplay
  | .v2 r => ¬ r.dedupeKey ∈ s.seen

/-- A broadcast is delivered everywhere. -/
theorem deliverRouteData_ne_transit {cfg : NodeConfig} {env : Env} {r : RouteData}
    (hr : r.destinationId = 0) {p : Bytes} {s s' : NodeState} {d : Delivery}
    (h : deliverRouteData cfg env r p s = .ok d s') : d ≠ .transit := by
  rintro rfl
  unfold deliverRouteData at h
  rw [if_neg (not_not.mpr (Or.inl hr))] at h
  split at h
  · rw [PyM.exceptAppFrameError_lift_bind_eq_ok] at h
    obtain ⟨_, -, h⟩ | ⟨_, -, h⟩ := h <;> cases h
  · split at h
    · rw [PyM.exceptAppFrameError_lift_bind_eq_ok] at h
      obtain ⟨_, -, h⟩ | ⟨_, -, h⟩ := h <;> cases h
    · cases h

/-- No endpoint key serves a broadcast. -/
theorem e2eCryptoForInbound_broadcast {cfg : NodeConfig} {r : RouteDataV2}
    (hr : r.destinationType = addrBroadcast) (secure : SecurePayload) :
    e2eCryptoForInbound cfg r secure = none := by
  unfold e2eCryptoForInbound
  rw [hr, if_neg (fun hc : addrBroadcast = addrC2 ∧ _ => absurd hc.1 (by decide)),
    if_neg (fun hc : addrBroadcast = addrNode ∧ _ => absurd hc.1 (by decide))]
  split
  · rfl
  · split <;> rfl

/-- **A node that a broadcast is new to delivers its copy**, and forwards it if the
copy has hops left. -/
theorem Packet.Carried.receive_fresh {p : Packet} {hops : ℕ} {payload : Bytes}
    (hp : p.Carried A cfg hops payload) (hreg : p.Registered) (hbroadcast : p.IsBroadcast)
    (hwrapped : p.Wrapped) {j : ι} {env : Env} {s s' : NodeState} {v : Verdict}
    (h : receive A (cfg j) env payload s = .ok v s') (hown : ¬ p.IsOwn (cfg j))
    (hfresh : p.FreshFor s) : v.delivers = true ∧ ((hops : ℤ) < p.ttl → ∃ f, v.sent = some f) := by
  cases p with
  | data r =>
    obtain ⟨inner, ⟨senderId, appSeq, hr, hf, rfl⟩, hplain⟩ := hp
    obtain ⟨a, rfl, hroute, -⟩ := receive_data_of_fresh h (carriesRoute_outerFrame hr hreg hf)
      (hplain j) hown hfresh.1 fun c _ => hfresh.2 c
    have ha := receive_data_accepts h
    have hzero : a.route.destinationId = 0 := by
      rw [hroute]
      exact hbroadcast
    obtain ⟨m, hm⟩ := ha.delivery
    refine ⟨decide_eq_true (deliverRouteData_ne_transit hzero hm), fun hlt => ?_⟩
    obtain ⟨hle, -⟩ | ⟨-, routed, -, -, -, -, -, hsent⟩ := ha.forward
    · rw [hroute] at hle
      exact absurd hlt (not_lt.mpr (sub_nonpos.mp hle))
    · exact ⟨_, hsent⟩
  | v2 r =>
    obtain ⟨senderId, appSeq, hr, hf, rfl⟩ := hp
    obtain ⟨secure, hsecure⟩ := hwrapped
    obtain ⟨a, rfl, hroute⟩ := receive_v2_of_fresh h
      (carriesRouteV2_outerFrame hr hreg.1 hreg.2 hf) hsecure
      (e2eCryptoForInbound_broadcast hbroadcast secure) hown hfresh
    have ha := receive_v2_accepts h
    refine ⟨?_, fun hlt => ?_⟩
    · change a.delivered = true
      rw [ha.delivered_eq, hroute]
      exact decide_eq_true (Or.inl hbroadcast)
    · obtain ⟨hle, -⟩ | ⟨-, -, -, -, hsent⟩ := ha.forward
      · rw [hroute] at hle
        exact absurd hlt (not_lt.mpr (sub_nonpos.mp hle))
      · exact ⟨_, hsent⟩

/-- A `route_data` packet that a copy carries has the key of the originated packet. -/
theorem Packet.Carried.dedupeKey_data {p : Packet} {hops : ℕ} {payload : Bytes}
    (hp : p.Carried A cfg hops payload) {q : RouteData} (hcarries : CarriesRoute payload q) :
    q.dedupeKey = p.dedupeKey := by
  cases p with
  | data r =>
    obtain ⟨inner, hframed, -⟩ := hp
    rw [hframed.carries_data hcarries]
    rfl
  | v2 r => exact absurd hcarries (FramedIn.not_carries_data hp)

/-- So has a `route_v2` packet. -/
theorem Packet.Carried.dedupeKey_v2 {p : Packet} {hops : ℕ} {payload : Bytes}
    (hp : p.Carried A cfg hops payload) {q : RouteDataV2} (hcarries : CarriesRouteV2 payload q) :
    q.dedupeKey = p.dedupeKey := by
  cases p with
  | data r =>
    obtain ⟨inner, hframed, -⟩ := hp
    exact absurd hcarries hframed.not_carries_v2
  | v2 r =>
    rw [FramedIn.carries_v2 hp hcarries]
    rfl

/-- **What a copy leaves in the windows** is the key of the originated packet. -/
theorem Packet.Carried.windows {p : Packet} {hops : ℕ} {payload : Bytes}
    (hp : p.Carried A cfg hops payload) {j : ι} {env : Env} {s s' : NodeState} {v : Verdict}
    (h : receive A (cfg j) env payload s = .ok v s') :
    (s'.seen = s.seen ∨ s'.seen = (s.seen.remember p.dedupeKey).2) ∧
      (s'.secureReplay = s.secureReplay ∨ ∃ key, s'.secureReplay = (s.secureReplay.remember key).2 ∧
        ∀ c r, key = meshAuthKey c r → r.dedupeKey = p.dedupeKey) := by
  cases receive_eq_ok_iff.mp h with
  | invalid | other => exact ⟨Or.inl rfl, Or.inl rfl⟩
  | v2 f _ _ hframe htype hreceive =>
    cases hreceive with
    | invalid | duplicate | invalidE2e | authFail => exact ⟨Or.inl rfl, Or.inl rfl⟩
    | own q hroute =>
      have hkey := hp.dedupeKey_v2 ⟨f, hframe, htype, hroute⟩
      exact ⟨Or.inr (by rw [← hkey]; rfl), Or.inl rfl⟩
    | accepted a s₁ _ =>
      have ha := receive_v2_accepts h
      refine ⟨Or.inr (hp.dedupeKey_v2 ha.carries ▸ ha.seen_eq), ?_⟩
      obtain ⟨-, heq⟩ | ⟨plaintext, -, -, -, heq⟩ := ha.auth
      · exact Or.inl heq
      · refine Or.inr ⟨_, heq, fun c r hkey => ?_⟩
        simpa [e2eReplayKey, meshAuthKey] using congrArg List.length hkey
  | data f _ _ hframe htype hreceive =>
    cases hreceive with
    | invalid | duplicate | authFail => exact ⟨Or.inl rfl, Or.inl rfl⟩
    | own q hroute =>
      have hkey := hp.dedupeKey_data ⟨f, hframe, htype, hroute⟩
      exact ⟨Or.inr (by rw [← hkey]; rfl), Or.inl rfl⟩
    | accepted a s₁ _ =>
      have ha := receive_data_accepts h
      refine ⟨Or.inr (hp.dedupeKey_data ha.carries ▸ ha.seen_eq), ?_⟩
      obtain ⟨-, -, -, heq⟩ | ⟨c, secure, -, -, -, -, heq⟩ := ha.auth
      · exact Or.inl heq
      · refine Or.inr ⟨_, heq, fun c' r hkey => ?_⟩
        simp only [meshAuthKey, List.cons.injEq] at hkey
        rw [← hp.dedupeKey_data ha.carries, RouteData.dedupeKey, RouteData.dedupeKey, hkey.2.1,
          hkey.2.2.2.1]

/-! ### What the windows know -/

/-- The turn processed a copy that goes back to origination `m`. -/
def Turn.processes (m : ℕ) (t : Turn ι) : Bool :=
  match t.copy with
  | some (_, c) => c.root = m
  | none => false

theorem Turn.processes_iff {m : ℕ} {t : Turn ι} :
    t.processes m = true ↔ ∃ k c, t.copy = some (k, c) ∧ c.root = m := by
  unfold Turn.processes
  split
  · rename_i k c hcopy
    simp [hcopy]
  · rename_i hcopy
    simp [hcopy]

/-- The turn delivered a copy of origination `m`. -/
def Turn.delivers (m : ℕ) (t : Turn ι) : Bool :=
  match t.copy, t.tick.event with
  | some (_, c), .received _ _ v => decide (c.root = m) && v.delivers
  | _, _ => false

namespace Network

/-- Node `j` originated a packet with this key, or processed a copy of one. -/
def KnowsOf (w : Network ι) (j : ι) (key : List ℤ) : Prop :=
  ∃ m i p, w.originations[m]? = some (i, p) ∧ p.dedupeKey = key ∧
    (i = j ∨ ∃ t ∈ w.turns, t.node = j ∧ t.processes m = true)

/-- The windows hold keys of packets the node knows of only. -/
structure Known (w : Network ι) : Prop where
  seen : ∀ j key, key ∈ (w.node j).seen → w.KnowsOf j key
  replay : ∀ j c r, meshAuthKey c r ∈ (w.node j).secureReplay → w.KnowsOf j r.dedupeKey

/-- The memory of the network only grows. -/
structure Grows (w w' : Network ι) : Prop where
  originations : w.originations <+: w'.originations
  sent : w.sent <+: w'.sent
  turns : w.turns <+: w'.turns

theorem getElem?_of_isPrefix {α : Type*} {l l' : List α} (h : l <+: l') {k : ℕ} {a : α}
    (hk : l[k]? = some a) : l'[k]? = some a := by
  obtain ⟨rest, rfl⟩ := h
  exact getElem?_append_of_some hk

theorem Grows.trans {w w' w'' : Network ι} (h : Grows w w') (h' : Grows w' w'') : Grows w w'' :=
  ⟨h.originations.trans h'.originations, h.sent.trans h'.sent, h.turns.trans h'.turns⟩

theorem KnowsOf.mono {w w' : Network ι} {j : ι} {key : List ℤ} (h : w.KnowsOf j key)
    (hgrows : Grows w w') : w'.KnowsOf j key := by
  obtain ⟨m, i, p, hm, hkey, hinvolved⟩ := h
  refine ⟨m, i, p, getElem?_of_isPrefix hgrows.originations hm, hkey, hinvolved.imp_right ?_⟩
  rintro ⟨t, ht, hrest⟩
  exact ⟨t, hgrows.turns.subset ht, hrest⟩

section Steps

variable [DecidableEq ι] {start : NetworkStart ι}

theorem Step.grows {w w' : Network ι} (h : Step A cfg w w') : Grows w w' := by
  cases h with
  | sendRoute | sendRouteV2 =>
    exact ⟨List.prefix_append _ _, List.prefix_append _ _, List.prefix_append _ _⟩
  | receive => exact ⟨List.prefix_rfl, List.prefix_append _ _, List.prefix_append _ _⟩
  | other => exact ⟨List.prefix_rfl, List.prefix_rfl, List.prefix_append _ _⟩

/-- What one node remembers is known if it is of a packet the node knows of. -/
theorem Known.update {w w' : Network ι} (hw : w.Known) (hgrows : Grows w w') {i : ι} {s' : NodeState}
    (hnode : w'.node = Function.update w.node i s')
    (hseen : s'.seen = (w.node i).seen ∨
      ∃ key, s'.seen = ((w.node i).seen.remember key).2 ∧ w'.KnowsOf i key)
    (hreplay : s'.secureReplay = (w.node i).secureReplay ∨
      ∃ key, s'.secureReplay = ((w.node i).secureReplay.remember key).2 ∧
        ∀ c r, key = meshAuthKey c r → w'.KnowsOf i r.dedupeKey) : w'.Known where
  seen j key hkey := by
    rw [hnode] at hkey
    by_cases hij : j = i
    · subst hij
      rw [Function.update_self] at hkey
      obtain heq | ⟨k, heq, hk⟩ := hseen
      · exact (hw.seen j key (heq ▸ hkey)).mono hgrows
      · obtain rfl | hold := FifoSet.mem_of_mem_remember (heq ▸ hkey)
        · exact hk
        · exact (hw.seen j key hold).mono hgrows
    · rw [Function.update_of_ne hij] at hkey
      exact (hw.seen j key hkey).mono hgrows
  replay j c r hkey := by
    rw [hnode] at hkey
    by_cases hij : j = i
    · subst hij
      rw [Function.update_self] at hkey
      obtain heq | ⟨k, heq, hk⟩ := hreplay
      · exact (hw.replay j c r (heq ▸ hkey)).mono hgrows
      · obtain hnew | hold := FifoSet.mem_of_mem_remember (heq ▸ hkey)
        · exact hk c r hnew.symm
        · exact (hw.replay j c r hold).mono hgrows
    · rw [Function.update_of_ne hij] at hkey
      exact (hw.replay j c r hkey).mono hgrows

/-- **One step keeps the windows to packets the node knows of.** -/
theorem Step.known {w w' : Network ι} (h : Step A cfg w w') (hrelay : ∀ p, Packet.Relayable A cfg p)
    (hsound : Sound A cfg w) (hw : w.Known) : w'.Known := by
  have hgrows := h.grows
  cases h with
  | sendRoute i env innerType payload destinationId ttl sent s' h =>
    obtain ⟨routed, -, -, -, -, -, rfl, rfl⟩ := sendRoute_eq_ok.mp h
    exact hw.update hgrows rfl
      (Or.inr ⟨_, rfl, _, i, _, List.getElem?_concat_length, rfl, Or.inl rfl⟩) (Or.inl rfl)
  | sendRouteV2 i env innerType payload destinationType destinationId ttl trafficClass sent s' h =>
    obtain ⟨e2e, c, -, -, -, -, -, -, -, rfl, rfl⟩ := sendRouteV2_eq_ok.mp h
    exact hw.update hgrows rfl
      (Or.inr ⟨_, rfl, _, i, _, List.getElem?_concat_length, rfl, Or.inl rfl⟩) (Or.inl rfl)
  | receive i env k c v s' hc h =>
    obtain ⟨i', p, hm, hcarried⟩ := hsound.carried c (List.mem_of_getElem? hc)
    obtain ⟨hseen, hreplay⟩ := (hcarried (hrelay p)).windows h
    have hknows : ((w.forward i c v).turn i (.received env c.payload v) s' (some (k, c))).KnowsOf i
        p.dedupeKey :=
      ⟨c.root, i', p, hm, rfl, Or.inr ⟨_, List.mem_append_right _ (List.mem_singleton_self _), rfl,
        decide_eq_true rfl⟩⟩
    refine hw.update hgrows rfl (hseen.imp_right fun heq => ⟨_, heq, hknows⟩)
      (hreplay.imp_right fun ⟨key, heq, hkey⟩ => ⟨key, heq, fun c' r hr => ?_⟩)
    rw [hkey c' r hr]
    exact hknows
  | other i e s' he h =>
    have hsame : s'.seen = (w.node i).seen ∧ s'.secureReplay = (w.node i).secureReplay := by
      obtain rfl | ⟨error, rfl⟩ := he
      · cases h
        exact ⟨rfl, rfl⟩
      · cases h with
        | sendFailed _ _ _ _ _ _ _ _ _ _ h =>
          obtain rfl : s' = w.node i := h.elim sendRoute_error sendRouteV2_error
          exact ⟨rfl, rfl⟩
    exact hw.update hgrows rfl (Or.inl hsame.1) (Or.inl hsame.2)

theorem Reachable.known {w : Network ι} (h : Reachable A cfg start w)
    (hrelay : ∀ p, Packet.Relayable A cfg p) : w.Known := by
  induction h with
  | start =>
    exact ⟨fun j key hkey => absurd hkey FifoSet.not_mem_empty,
      fun j c r hkey => absurd hkey FifoSet.not_mem_empty⟩
  | step h hstep ih => exact hstep.known hrelay h.sound ih

end Steps

/-! ### What was recorded -/

/-- Every origination and every forward is among the copies. -/
structure Recorded (w : Network ι) : Prop where
  originated : ∀ m i p, w.originations[m]? = some (i, p) →
    p.Wrapped ∧ ∃ c ∈ w.sent, c.root = m ∧ c.sender = i ∧ c.hops = 0
  forwarded : ∀ t ∈ w.turns, ∀ k c env payload v f, t.copy = some (k, c) →
    t.tick.event = .received env payload v → v.sent = some f →
    ∃ d ∈ w.sent, d.sender = t.node ∧ d.root = c.root ∧ d.hops = c.hops + 1

theorem Recorded.originate {w : Network ι} (hw : w.Recorded) {i : ι} {p : Packet}
    {frame : RadioFrame} (hp : p.Wrapped) : (w.originate i p frame).Recorded where
  originated m j q hm := by
    simp only [Network.originate] at hm
    rcases lt_or_ge m w.originations.length with hlt | hge
    · rw [List.getElem?_append_left hlt] at hm
      obtain ⟨hq, c, hc, hrest⟩ := hw.originated m j q hm
      exact ⟨hq, c, List.mem_append_left _ hc, hrest⟩
    · rw [List.getElem?_append_right hge, List.getElem?_singleton] at hm
      split at hm
      · rename_i hzero
        obtain ⟨rfl, rfl⟩ := Prod.mk.inj (Option.some.inj hm)
        exact ⟨hp, _, List.mem_append_right _ (List.mem_singleton_self _), by
          simp only; omega, rfl, rfl⟩
      · cases hm
  forwarded t ht k c env payload v f hcopy hevent hsent := by
    obtain ⟨d, hd, hrest⟩ := hw.forwarded t ht k c env payload v f hcopy hevent hsent
    exact ⟨d, List.mem_append_left _ hd, hrest⟩

variable [DecidableEq ι] {start : NetworkStart ι}

/-- A turn without a copy forwards nothing. -/
theorem Recorded.turn_none {w : Network ι} (hw : w.Recorded) {i : ι} {e : NodeEvent}
    {s' : NodeState} : (w.turn i e s' none).Recorded where
  originated := hw.originated
  forwarded t ht k c env payload v f hcopy hevent hsent := by
    rcases List.mem_append.mp ht with ht | ht
    · exact hw.forwarded t ht k c env payload v f hcopy hevent hsent
    · obtain rfl := List.mem_singleton.mp ht
      cases hcopy

/-- The wrapper that `send_route_v2` builds decodes. -/
theorem wrapped_of_encrypt (hA : A.LengthPreserving chacha20Poly1305TagSize) {cfg : NodeConfig}
    {env : Env} {d : E2eBinding} {p b : Bytes} {c : CryptoConfig} (hlen : d.plaintextLen = p.length)
    (h : encryptE2ePayload A cfg env d.originType d.originId d.destinationType d.destinationId
      d.originSeq d.trafficClass d.innerType p = .ok (b, c)) :
    ∃ secure, decodeSecurePayload b = .ok secure := by
  obtain ⟨-, -, rfl⟩ := (encryptE2ePayload_eq_ok_iff A cfg env d hlen).mp h
  exact ⟨_, c.decodeSecurePayload_wrap hA env.urandom_length⟩

theorem Step.recorded (hA : A.LengthPreserving chacha20Poly1305TagSize) {w w' : Network ι}
    (h : Step A cfg w w') (hw : w.Recorded) : w'.Recorded := by
  cases h with
  | sendRoute i env innerType payload destinationId ttl sent s' h =>
    have hwrapped : (Packet.data ⟨(cfg i).senderId, destinationId, ttl, sent.seqSent, innerType,
      payload⟩).Wrapped := trivial
    exact (hw.originate hwrapped).turn_none
  | sendRouteV2 i env innerType payload destinationType destinationId ttl trafficClass sent s' h =>
    obtain ⟨e2e, c, henc, -, -, -, -, -, -, rfl, -⟩ := sendRouteV2_eq_ok.mp h
    have hwrapped : (Packet.v2 ⟨routeV2Version, (cfg i).originType, (cfg i).senderId,
        destinationType, destinationId, ttl, (w.node i).nextOriginSeq.value, trafficClass, innerType,
        e2e⟩).Wrapped :=
      wrapped_of_encrypt hA (d := ⟨(cfg i).originType, (cfg i).senderId, destinationType,
        destinationId, (w.node i).nextOriginSeq.value, trafficClass, innerType, payload.length⟩) rfl
        henc
    exact (hw.originate hwrapped).turn_none
  | other => exact hw.turn_none
  | receive i env k c v s' hc h =>
    refine ⟨fun m j p hm => ?_, fun t ht k' c' env' payload' v' f hcopy hevent hsent => ?_⟩
    · obtain ⟨hp, d, hd, hrest⟩ := hw.originated m j p hm
      exact ⟨hp, d, List.mem_append_left _ hd, hrest⟩
    · rcases List.mem_append.mp ht with ht | ht
      · obtain ⟨d, hd, hrest⟩ := hw.forwarded t ht k' c' env' payload' v' f hcopy hevent hsent
        exact ⟨d, List.mem_append_left _ hd, hrest⟩
      · obtain rfl := List.mem_singleton.mp ht
        obtain ⟨-, rfl⟩ := Prod.mk.inj (Option.some.inj hcopy)
        obtain ⟨-, -, rfl⟩ := NodeEvent.received.inj hevent
        refine ⟨⟨i, f.payload, c.root, c.hops + 1⟩, List.mem_append_right _ ?_, rfl, rfl, rfl⟩
        exact List.mem_map_of_mem (Option.mem_toList.mpr hsent)

theorem Reachable.recorded (hA : A.LengthPreserving chacha20Poly1305TagSize) {w : Network ι}
    (h : Reachable A cfg start w) : w.Recorded := by
  induction h with
  | start =>
    exact ⟨fun m i p hm => by simp [initial] at hm, fun t ht => absurd ht List.not_mem_nil⟩
  | step _ hstep ih => exact hstep.recorded hA ih

/-- **The network just before a turn.** -/
theorem Reachable.before {w : Network ι} (h : Reachable A cfg start w) {pre post : List (Turn ι)}
    {t : Turn ι} (hturns : w.turns = pre ++ t :: post) :
    ∃ w₀, Reachable A cfg start w₀ ∧ Grows w₀ w ∧ w₀.turns = pre ∧
      w₀.node t.node = t.tick.before := by
  induction h generalizing post with
  | start => simp [initial] at hturns
  | @step w w' hw hstep ih =>
    obtain ⟨i, e, s', copy, -, -, hnew⟩ := hstep.node_turns
    rw [hnew] at hturns
    obtain rfl | ⟨post', a, rfl⟩ := List.eq_nil_or_concat' post
    · obtain ⟨hpre, hlast⟩ := List.append_inj' hturns rfl
      obtain rfl := (List.cons.inj hlast).1
      exact ⟨w, hw, hstep.grows, hpre, rfl⟩
    · rw [← List.cons_append, ← List.append_assoc] at hturns
      obtain ⟨hpre, -⟩ := List.append_inj' hturns rfl
      obtain ⟨w₀, hw₀, hgrows, hrest⟩ := ih hpre
      exact ⟨w₀, hw₀, hgrows.trans hstep.grows, hrest⟩

/-! ### First copies -/

/-- Every copy of origination `m` was processed exactly once by each neighbour of
its transmitter, and by nobody else: none was lost, none is left in flight. -/
structure Settled (G : SimpleGraph ι) (w : Network ι) (m : ℕ) : Prop where
  once : ∀ k c, w.sent[k]? = some c → c.root = m → ∀ j, G.Adj c.sender j →
    (w.turns.filter fun t => t.node = j ∧ t.copy = some (k, c)).length = 1
  neighbours : ∀ t ∈ w.turns, ∀ k c, t.copy = some (k, c) → c.root = m → G.Adj c.sender t.node

instance [Fintype ι] (G : SimpleGraph ι) [DecidableRel G.Adj] (w : Network ι) (m : ℕ) :
    Decidable (Settled G w m) :=
  decidable_of_iff
    ((∀ k : Fin w.sent.length, (w.sent.get k).root = m → ∀ j, G.Adj (w.sent.get k).sender j →
        (w.turns.filter fun t => t.node = j ∧ t.copy = some (k.val, w.sent.get k)).length = 1) ∧
      ∀ t ∈ w.turns, ∀ x ∈ t.copy, x.2.root = m → G.Adj x.2.sender t.node)
    ⟨fun ⟨honce, hneighbours⟩ =>
      { once := fun k c hk hroot j hadj => by
          obtain ⟨hlt, rfl⟩ := List.getElem?_eq_some_iff.mp hk
          exact honce ⟨k, hlt⟩ hroot j hadj
        neighbours := fun t ht k c hcopy hroot => hneighbours t ht (k, c) hcopy hroot },
    fun h => ⟨fun k hroot j hadj => h.once k _ (List.getElem?_eq_getElem k.isLt) hroot j hadj,
      fun t ht x hx hroot => h.neighbours t ht x.1 x.2 hx hroot⟩⟩

/-- No node processed a copy of origination `m` with more ttl left than the copy it
processed first. -/
def BestFirst (w : Network ι) (m : ℕ) : Prop :=
  ∀ pre t post, w.turns = pre ++ t :: post →
    (∀ u ∈ pre, u.node = t.node → u.processes m = false) →
    ∀ k c, t.copy = some (k, c) → c.root = m →
    ∀ u ∈ post, u.node = t.node → ∀ k' c', u.copy = some (k', c') → c'.root = m → c.hops ≤ c'.hops

/-- Node `j` delivered the message. -/
def Delivered (w : Network ι) (m : ℕ) (j : ι) : Prop :=
  ∃ t ∈ w.turns, t.node = j ∧ t.delivers m = true

/-- A node that processed copies processed one first. -/
theorem exists_first {w : Network ι} {m : ℕ} {j : ι} {t : Turn ι} (ht : t ∈ w.turns)
    (hj : t.node = j) (hm : t.processes m = true) :
    ∃ pre first post, w.turns = pre ++ first :: post ∧ first.node = j ∧ first.processes m = true ∧
      (∀ u ∈ pre, u.node = j → u.processes m = false) ∧ (t = first ∨ t ∈ post) := by
  have hmem : t ∈ w.turns.filter fun t => t.node = j ∧ t.processes m = true :=
    List.mem_filter.mpr ⟨ht, decide_eq_true ⟨hj, hm⟩⟩
  obtain ⟨first, rest, hfilter⟩ := List.exists_cons_of_ne_nil (List.ne_nil_of_mem hmem)
  obtain ⟨pre, post, hturns, hpre, hfirst, hrest⟩ := List.filter_eq_cons_iff.mp hfilter
  simp only [decide_eq_true_eq, not_and, Bool.not_eq_true] at hpre hfirst
  refine ⟨pre, first, post, hturns, hfirst.1, hfirst.2, hpre, ?_⟩
  rw [hfilter] at hmem
  refine (List.mem_cons.mp hmem).imp_right fun h => ?_
  rw [← hrest] at h
  exact (List.mem_filter.mp h).1

/-- **A node delivers the first copy it processes**, and forwards it if the copy has
hops left. -/
theorem Reachable.first_copy (hA : A.Correct chacha20Poly1305TagSize)
    (hids : Function.Injective fun i => (cfg i).senderId)
    (hmesh : ∀ i j, (cfg i).meshCrypto = (cfg j).meshCrypto) {w : Network ι}
    (h : Reachable A cfg start w) {m : ℕ} {i : ι} {p : Packet}
    (hm : w.originations[m]? = some (i, p)) (hbroadcast : p.IsBroadcast) (hreg : p.Registered)
    (hunique : ∀ m' i' p', w.originations[m']? = some (i', p') → p'.dedupeKey = p.dedupeKey → m' = m)
    {pre post : List (Turn ι)} {t : Turn ι} (hturns : w.turns = pre ++ t :: post) (hi : t.node ≠ i)
    (hfirst : ∀ u ∈ pre, u.node = t.node → u.processes m = false) {k : ℕ} {c : Copy ι}
    (hcopy : t.copy = some (k, c)) (hroot : c.root = m) :
    t.delivers m = true ∧ ((c.hops : ℤ) < p.ttl →
      ∃ d ∈ w.sent, d.sender = t.node ∧ d.root = m ∧ d.hops = c.hops + 1) := by
  have hrelay : ∀ q, Packet.Relayable A cfg q := by
    rintro (r | r)
    · exact ⟨fun a b => by rw [NodeConfig.meshCryptoFor, NodeConfig.meshCryptoFor, hmesh a b],
        fun _ _ => hA⟩
    · trivial
  have hmem : t ∈ w.turns := hturns ▸ List.mem_append_right _ (List.mem_cons_self ..)
  have hsound := h.sound
  obtain ⟨hk, env, v, hevent, hreceive⟩ := hsound.received t hmem k c hcopy
  obtain ⟨i', p', hm', hcarried⟩ := hsound.carried c (List.mem_of_getElem? hk)
  rw [hroot, hm] at hm'
  obtain ⟨rfl, rfl⟩ := Prod.mk.inj (Option.some.inj hm')
  obtain ⟨hwrapped, -⟩ := (h.recorded hA.toLengthPreserving).originated m i p hm
  -- Distinct ids: only the origin takes the packet for its own.
  have hown : ¬ p.IsOwn (cfg t.node) := by
    intro hown
    have horigin := hsound.own i p (List.mem_of_getElem? hm)
    refine hi (hids ?_)
    cases p with
    | data r => exact hown.symm.trans horigin
    | v2 r => exact hown.2.symm.trans horigin.2
  -- Before its first copy the node knows nothing of the packet.
  obtain ⟨w₀, hw₀, hgrows, hpre, hbefore⟩ := h.before hturns
  have hunknown : ¬ w₀.KnowsOf t.node p.dedupeKey := by
    rintro ⟨m', i', p', hm', hkey, hinvolved⟩
    have hsame := getElem?_of_isPrefix hgrows.originations hm'
    obtain rfl := hunique m' i' p' hsame hkey
    obtain ⟨rfl, rfl⟩ := Prod.mk.inj (Option.some.inj (hm.symm.trans hsame))
    obtain heq | ⟨u, hu, hnode, hproc⟩ := hinvolved
    · exact hi heq.symm
    · rw [hpre] at hu
      exact absurd hproc (by rw [hfirst u hu hnode]; exact Bool.false_ne_true)
  have hknown := hw₀.known hrelay
  have hfresh : p.FreshFor t.tick.before := by
    rw [← hbefore]
    cases p with
    | data r =>
      exact ⟨fun hs => hunknown (hknown.seen _ _ hs), fun c hr => hunknown (hknown.replay _ c r hr)⟩
    | v2 r => exact fun hs => hunknown (hknown.seen _ _ hs)
  obtain ⟨hdelivers, hforwards⟩ :=
    (hcarried (hrelay p)).receive_fresh hreg hbroadcast hwrapped hreceive hown hfresh
  refine ⟨?_, fun hlt => ?_⟩
  · simp [Turn.delivers, hcopy, hevent, hroot, hdelivers]
  · obtain ⟨f, hf⟩ := hforwards hlt
    obtain ⟨d, hd, hsender, hdroot, hhops⟩ := (h.recorded hA.toLengthPreserving).forwarded t hmem k c
      env c.payload v f hcopy hevent hf
    exact ⟨d, hd, hsender, hdroot.trans hroot, hhops⟩

/-- Each neighbour of its transmitter processed a copy of a settled message. -/
theorem Settled.exists_turn {G : SimpleGraph ι} {w : Network ι} {m : ℕ} (h : Settled G w m)
    {c : Copy ι} (hc : c ∈ w.sent) (hroot : c.root = m) {j : ι} (hadj : G.Adj c.sender j) :
    ∃ t ∈ w.turns, t.node = j ∧ ∃ k, t.copy = some (k, c) := by
  obtain ⟨k, hk⟩ := List.mem_iff_getElem?.mp hc
  have hpos := List.length_pos_iff_exists_mem.mp
    ((h.once k c hk hroot j hadj).symm ▸ Nat.one_pos)
  obtain ⟨t, ht⟩ := hpos
  obtain ⟨ht, hcond⟩ := List.mem_filter.mp ht
  obtain ⟨hnode, hcopy⟩ := of_decide_eq_true hcond
  exact ⟨t, ht, hnode, k, hcopy⟩

/-- Node `j` processed a copy of origination `m` that had been forwarded `hops`
times. -/
def ProcessedAt (w : Network ι) (m : ℕ) (j : ι) (hops : ℕ) : Prop :=
  ∃ t ∈ w.turns, t.node = j ∧ ∃ k c, t.copy = some (k, c) ∧ c.root = m ∧ c.hops = hops

/-- With the best copies first, the first copy a node processed has the fewest
hops. -/
theorem ProcessedAt.exists_first {w : Network ι} {m : ℕ} {j : ι} {hops : ℕ}
    (h : w.ProcessedAt m j hops) (hfirst : w.BestFirst m) :
    ∃ pre first post k c, w.turns = pre ++ first :: post ∧ first.node = j ∧
      (∀ u ∈ pre, u.node = first.node → u.processes m = false) ∧
      first.copy = some (k, c) ∧ c.root = m ∧ c.hops ≤ hops := by
  obtain ⟨t, ht, hj, k, c, hcopy, hroot, rfl⟩ := h
  obtain ⟨pre, first, post, hturns, hnode, hproc, hpre, hpos⟩ :=
    Network.exists_first ht hj (Turn.processes_iff.mpr ⟨k, c, hcopy, hroot⟩)
  obtain ⟨k₀, c₀, hcopy₀, hroot₀⟩ := Turn.processes_iff.mp hproc
  rw [← hnode] at hpre
  refine ⟨pre, first, post, k₀, c₀, hturns, hnode, hpre, hcopy₀, hroot₀, ?_⟩
  obtain rfl | hpost := hpos
  · obtain ⟨-, rfl⟩ := Prod.mk.inj (Option.some.inj (hcopy.symm.trans hcopy₀))
    exact le_rfl
  · exact hfirst pre first post hturns hpre k₀ c₀ hcopy₀ hroot₀ t hpost (hj.trans hnode.symm) k c
      hcopy hroot

end Network

/-- **Flood reach**: when every copy of a broadcast has been processed by every
neighbour of its transmitter, and no node processed a copy with more ttl left than
its first one, every node within `ttl + 1` hops of the origin has delivered the
message. -/
theorem flood_reach [DecidableEq ι] (G : SimpleGraph ι) (hG : G.Connected) (A : Aead)
    (hA : A.Correct chacha20Poly1305TagSize) (cfg : ι → NodeConfig)
    (hids : Function.Injective fun i => (cfg i).senderId)
    (hmesh : ∀ i j, (cfg i).meshCrypto = (cfg j).meshCrypto) (start : NetworkStart ι)
    {w : Network ι} (hw : Network.Reachable A cfg start w) {m : ℕ} {i : ι} {p : Packet}
    (hm : w.originations[m]? = some (i, p)) (hbroadcast : p.IsBroadcast) (hreg : p.Registered)
    (hunique : ∀ m' i' p', w.originations[m']? = some (i', p') → p'.dedupeKey = p.dedupeKey → m' = m)
    (hsettled : w.Settled G m) (hfirst : w.BestFirst m) {j : ι} (hj : j ≠ i)
    (hdist : (G.dist j i : ℤ) ≤ p.ttl + 1) : w.Delivered m j := by
  have hcopy {pre post : List (Turn ι)} {t : Turn ι} (hturns : w.turns = pre ++ t :: post)
      (hi : t.node ≠ i) (hpre : ∀ u ∈ pre, u.node = t.node → u.processes m = false) {k : ℕ}
      {c : Copy ι} (hc : t.copy = some (k, c)) (hroot : c.root = m) :=
    hw.first_copy hA hids hmesh hm hbroadcast hreg hunique hturns hi hpre hc hroot
  have hrecorded := hw.recorded hA.toLengthPreserving
  let flood : Flood G i p.ttl.toNat :=
    { processed := w.ProcessedAt m
      start := by
        intro v hadj
        obtain ⟨-, c, hc, hroot, hsender, hhops⟩ := hrecorded.originated m i p hm
        obtain ⟨t, ht, hnode, k, hk⟩ := hsettled.exists_turn hc hroot (hsender ▸ hadj)
        exact ⟨t, ht, hnode, k, c, hk, hroot, hhops⟩
      forward := by
        intro v hv hops hproc hmin hlt u hadj
        obtain ⟨pre, first, post, k, c, hturns, rfl, hpre, hc, hroot, hle⟩ :=
          hproc.exists_first hfirst
        have hmem : first ∈ w.turns := hturns ▸ List.mem_append_right _ (List.mem_cons_self ..)
        have hbest : c.hops = hops :=
          le_antisymm hle (hmin _ ⟨first, hmem, rfl, k, c, hc, hroot, rfl⟩)
        obtain ⟨-, hforward⟩ := hcopy hturns hv hpre hc hroot
        obtain ⟨d, hd, hsender, hdroot, hdhops⟩ := hforward (by omega)
        obtain ⟨t, ht, hnode, k', hk'⟩ := hsettled.exists_turn hd hdroot (hsender ▸ hadj)
        exact ⟨t, ht, hnode, k', d, hk', hdroot, by rw [hdhops, hbest]⟩ }
  have hlimit : G.dist j i ≤ p.ttl.toNat + 1 := by omega
  obtain ⟨hops, hproc, -⟩ := flood.reaches hj (hG.preconnected j i) hlimit
  obtain ⟨pre, first, post, k, c, hturns, rfl, hpre, hc, hroot, -⟩ :=
    Network.ProcessedAt.exists_first hproc hfirst
  exact ⟨first, hturns ▸ List.mem_append_right _ (List.mem_cons_self ..), rfl,
    (hcopy hturns hj hpre hc hroot).1⟩

/-! ### The wrong copy first -/

/-- The four nodes on a graph: `edge` only reaches `hub`, the others reach each other. -/
def sampleGraph : SimpleGraph SampleNode where
  Adj a b := a ≠ b ∧ (a = .edge → b = .hub) ∧ (b = .edge → a = .hub)
  symm := ⟨fun _ _ h => ⟨h.1.symm, h.2.2, h.2.1⟩⟩
  loopless := ⟨fun _ h => h.1 rfl⟩

instance : DecidableRel sampleGraph.Adj := fun _ _ => inferInstanceAs (Decidable (_ ∧ _))

theorem sampleGraph_connected : sampleGraph.Connected := by
  have hhub : ∀ v, v ≠ .hub → sampleGraph.Adj .hub v := by decide
  refine (SimpleGraph.connected_iff_exists_forall_reachable _).mpr ⟨.hub, fun v => ?_⟩
  by_cases hv : v = .hub
  · rw [hv]
  · exact (hhub v hv).reachable

/-- `edge` is two hops from `origin`. -/
theorem sampleGraph_dist : (sampleGraph.dist .edge .origin : ℤ) ≤ samplePacket.ttl + 1 := by
  have hedge : sampleGraph.Adj .edge .hub := by decide
  have hhub : sampleGraph.Adj .hub .origin := by decide
  have hle : sampleGraph.dist .edge .origin ≤ 2 :=
    SimpleGraph.dist_le (.cons hedge (.cons hhub .nil))
  change (sampleGraph.dist .edge .origin : ℤ) ≤ 1 + 1
  omega

theorem samplePacket_registered : samplePacket.Registered := show messageTypes.Has msgData by decide

/-- **A broadcast need not reach every node within `ttl + 1` hops**, even if no copy
is lost and no window overflows: `hub` spends its turn on the copy that came through
`relay`, which has no hops left, and `edge` gets nothing. -/
theorem flood_reach_fails :
    sampleGraph.Connected ∧
    ¬ ∀ (w : Network SampleNode) (i : SampleNode) (p : Packet),
      Network.Reachable Aead.checksum sampleNodes sampleNodesStart w →
      w.originations = [(i, p)] → p.IsBroadcast → p.Registered → w.Settled sampleGraph 0 →
      (∀ j, (Network.newSeenOf w.turns j).length ≤ (sampleNodes j).seenLimit) →
      ∀ j, j ≠ i → (sampleGraph.dist j i : ℤ) ≤ p.ttl + 1 → w.Delivered 0 j := by
  refine ⟨sampleGraph_connected, fun hclaim => ?_⟩
  have hrun : ((Network.initial sampleNodes sampleNodesStart).execAll Aead.checksum sampleNodes
      Env.sample sampleSchedule).map (fun w => (w.originations, decide (w.Settled sampleGraph 0 ∧
        (∀ j, (Network.newSeenOf w.turns j).length ≤ (sampleNodes j).seenLimit) ∧
        ∀ t ∈ w.turns, t.node ≠ .edge))) = some ([(.origin, samplePacket)], true) := by
    decide +kernel
  obtain ⟨w, hexec, hfacts⟩ := Option.map_eq_some_iff.mp hrun
  obtain ⟨horiginations, hfacts⟩ := Prod.mk.inj hfacts
  obtain ⟨hsettled, hroom, hnothing⟩ := of_decide_eq_true hfacts
  have hw : Network.Reachable Aead.checksum sampleNodes sampleNodesStart w := .execAll .start hexec
  have hbroadcast : samplePacket.IsBroadcast := rfl
  obtain ⟨t, ht, hnode, -⟩ := hclaim w .origin samplePacket hw horiginations hbroadcast
    samplePacket_registered hsettled hroom .edge (by decide) sampleGraph_dist
  exact hnothing t ht hnode

/-- The same nodes, with the originated copy first everywhere. -/
def promptSchedule : List (Network.Command SampleNode) :=
  [.originate .origin msgData [104, 105] 0 1, .deliver .relay 0, .deliver .hub 0,
    .deliver .origin 1, .deliver .hub 1, .deliver .origin 2, .deliver .relay 2, .deliver .edge 2]

/-- A node that never processes a copy with fewer hops than an earlier one got the
best copy first. -/
theorem Network.bestFirst_of_pairwise {w : Network ι} (m : ℕ)
    (h : w.turns.Pairwise fun t u => u.node = t.node →
      ∀ x ∈ t.copy, ∀ y ∈ u.copy, x.2.hops ≤ y.2.hops) : w.BestFirst m := by
  intro pre t post hturns _ k c hcopy _ u hu hnode k' c' hcopy' _
  rw [hturns, List.pairwise_append] at h
  exact (List.pairwise_cons.mp h.2.1).1 u hu hnode (k, c) hcopy (k', c') hcopy'

/-- With every copy in its turn, the packet reaches the node at the edge. -/
theorem flood_reach_sample :
    ∃ w, Network.Reachable Aead.checksum sampleNodes sampleNodesStart w ∧
      w.originations = [(.origin, samplePacket)] ∧ w.Delivered 0 .edge := by
  have hrun : ((Network.initial sampleNodes sampleNodesStart).execAll Aead.checksum sampleNodes
      Env.sample promptSchedule).map (fun w => (w.originations, decide (w.Settled sampleGraph 0 ∧
        w.turns.Pairwise fun t u => u.node = t.node →
          ∀ x ∈ t.copy, ∀ y ∈ u.copy, x.2.hops ≤ y.2.hops))) = some ([(.origin, samplePacket)], true) := by
    decide +kernel
  obtain ⟨w, hexec, hfacts⟩ := Option.map_eq_some_iff.mp hrun
  obtain ⟨horiginations, hfacts⟩ := Prod.mk.inj hfacts
  obtain ⟨hsettled, hpairwise⟩ := of_decide_eq_true hfacts
  have hw : Network.Reachable Aead.checksum sampleNodes sampleNodesStart w := .execAll .start hexec
  have hm : w.originations[0]? = some (.origin, samplePacket) := by rw [horiginations]; rfl
  have hids : Function.Injective fun j => (sampleNodes j).senderId := by decide
  have hmesh : ∀ a b, (sampleNodes a).meshCrypto = (sampleNodes b).meshCrypto := fun _ _ => rfl
  have hbroadcast : samplePacket.IsBroadcast := rfl
  have hunique : ∀ m' i' p', w.originations[m']? = some (i', p') →
      p'.dedupeKey = samplePacket.dedupeKey → m' = 0 := by
    intro m' i' p' hm' _
    rw [horiginations] at hm'
    have hlt := (List.getElem?_eq_some_iff.mp hm').1
    exact Nat.lt_one_iff.mp hlt
  exact ⟨w, hw, horiginations, flood_reach sampleGraph sampleGraph_connected Aead.checksum
    Aead.checksum_lawful.toCorrect sampleNodes hids hmesh sampleNodesStart hw hm hbroadcast
    samplePacket_registered hunique hsettled (Network.bestFirst_of_pairwise 0 hpairwise) (by decide)
    sampleGraph_dist⟩

end KovaWfb
