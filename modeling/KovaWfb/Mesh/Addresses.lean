/-
# Which endpoints the id checks keep apart

`python/examples/mesh_txrx.py` compares ids in three places: a packet is the node's
own (lines 1767 to 1770 and 2439), a packet was seen before (2319 to 2330 and 2448 to
2455), and a frame comes from a peer (`note_peer`, 175 to 184).  A `route_v2` packet
names its origin by type and id, a `route_data` packet and the outer frame by the
bare sender id.

So endpoints with distinct pairs of type and id are kept apart by every check on
`route_v2`, and an entry of the dedupe set only ever stops packets that name the same
origin as the one that it came from (`NodeRun.seen_source`).  The checks on `route_data`
and on the link go by the sender id alone (`addresses_apart`).
-/

import KovaWfb.Mesh.Run

namespace KovaWfb

variable {A : Aead} {cfg : NodeConfig} {env : Env}

/-! ### Where a dedupe key came from -/

/-- The turn dealt with a packet of this dedupe key: received it or originated it. -/
def NodeEvent.Brings (cfg : NodeConfig) (key : List ℤ) : NodeEvent → Prop
  | .received _ payload _ => (∃ r, CarriesRoute payload r ∧ r.dedupeKey = key) ∨
      ∃ r, CarriesRouteV2 payload r ∧ r.dedupeKey = key
  | .sentRoute _ _ _ _ _ sent => key = [cfg.senderId, sent.seqSent]
  | .sentRouteV2 _ _ _ _ _ _ _ sent => key = [cfg.originType, cfg.senderId, sent.seqSent]
  | .sendFailed _ | .idle => False

/-- The two formats have keys of different length, so what brought the key of a
foreign `route_v2` packet was a received `route_v2` packet with this key. -/
theorem NodeEvent.Brings.receivedV2 {e : NodeEvent} {r : RouteDataV2}
    (h : e.Brings cfg r.dedupeKey) (hown : ¬ routeV2IsOwn cfg r) :
    ∃ env payload v r', e = .received env payload v ∧ CarriesRouteV2 payload r' ∧
      r'.originType = r.originType ∧ r'.originId = r.originId ∧ r'.originSeq = r.originSeq := by
  cases e with
  | received env payload v =>
    obtain ⟨r', -, hkey⟩ | ⟨r', hcarries, hkey⟩ := h
    · simp [RouteData.dedupeKey, RouteDataV2.dedupeKey] at hkey
    · simp only [RouteDataV2.dedupeKey, List.cons.injEq, and_true] at hkey
      exact ⟨env, payload, v, r', rfl, hcarries, hkey⟩
  | sentRoute => simp [NodeEvent.Brings, RouteDataV2.dedupeKey] at h
  | sentRouteV2 =>
    simp only [NodeEvent.Brings, RouteDataV2.dedupeKey, List.cons.injEq, and_true] at h
    exact absurd ⟨h.1, h.2.1⟩ hown
  | sendFailed | idle => exact h.elim

/-- The same for a foreign `route_data` packet. -/
theorem NodeEvent.Brings.receivedData {e : NodeEvent} {r : RouteData}
    (h : e.Brings cfg r.dedupeKey) (hown : r.originSenderId ≠ cfg.senderId) :
    ∃ env payload v r', e = .received env payload v ∧ CarriesRoute payload r' ∧
      r'.originSenderId = r.originSenderId ∧ r'.originSeq = r.originSeq := by
  cases e with
  | received env payload v =>
    obtain ⟨r', hcarries, hkey⟩ | ⟨r', -, hkey⟩ := h
    · simp only [RouteData.dedupeKey, List.cons.injEq, and_true] at hkey
      exact ⟨env, payload, v, r', rfl, hcarries, hkey⟩
    · simp [RouteData.dedupeKey, RouteDataV2.dedupeKey] at hkey
  | sentRoute =>
    simp only [NodeEvent.Brings, RouteData.dedupeKey, List.cons.injEq, and_true] at h
    exact absurd h.1 hown
  | sentRouteV2 => simp [NodeEvent.Brings, RouteData.dedupeKey] at h
  | sendFailed | idle => exact h.elim

theorem mem_rememberSeen {s : NodeState} {k key : List ℤ} (h : key ∈ (s.rememberSeen k).seen) :
    key ∈ s.seen ∨ k = key :=
  (FifoSet.mem_of_mem_remember h).symm.imp_right Eq.symm

theorem receive_brings {payload : Bytes} {s s' : NodeState} {v : Verdict} {key : List ℤ}
    (h : receive A cfg env payload s = .ok v s') (hkey : key ∈ s'.seen) :
    key ∈ s.seen ∨ (NodeEvent.received env payload v).Brings cfg key := by
  cases receive_eq_ok_iff.mp h with
  | invalid | other => exact Or.inl hkey
  | v2 f _ _ hframe hv2 hreceive =>
    cases hreceive with
    | invalid | duplicate | invalidE2e | authFail => exact Or.inl hkey
    | own route hroute =>
      exact (mem_rememberSeen hkey).imp_right fun h =>
        Or.inr ⟨route, ⟨f, hframe, hv2, hroute⟩, h⟩
    | accepted a =>
      have ha := receive_v2_accepts h
      rw [ha.seen_eq] at hkey
      exact (FifoSet.mem_of_mem_remember hkey).symm.imp_right fun h =>
        Or.inr ⟨a.route, ha.carries, h.symm⟩
  | data f _ _ hframe hdata hreceive =>
    cases hreceive with
    | invalid | duplicate | authFail => exact Or.inl hkey
    | own route hroute =>
      exact (mem_rememberSeen hkey).imp_right fun h =>
        Or.inl ⟨route, ⟨f, hframe, hdata, hroute⟩, h⟩
    | accepted a =>
      have ha := receive_data_accepts h
      rw [ha.seen_eq] at hkey
      exact (FifoSet.mem_of_mem_remember hkey).symm.imp_right fun h =>
        Or.inl ⟨a.route, ha.carries, h.symm⟩

/-- **A key in the dedupe set after a turn** was there before or the turn brought
it. -/
theorem NodeStep.seen_source {s s' : NodeState} {e : NodeEvent} {key : List ℤ}
    (h : NodeStep A cfg s e s') (hkey : key ∈ s'.seen) : key ∈ s.seen ∨ e.Brings cfg key := by
  cases h with
  | receive _ _ _ _ _ h => exact receive_brings h hkey
  | sendRoute _ _ _ _ _ _ _ _ h =>
    obtain ⟨_, -, -, -, -, -, rfl, rfl⟩ := sendRoute_eq_ok.mp h
    exact (mem_rememberSeen hkey).imp_right Eq.symm
  | sendRouteV2 _ _ _ _ _ _ _ _ _ _ h =>
    obtain ⟨_, _, -, -, -, -, -, -, -, rfl, rfl⟩ := sendRouteV2_eq_ok.mp h
    exact (mem_rememberSeen hkey).imp_right Eq.symm
  | sendFailed _ _ _ _ _ _ _ _ _ _ h =>
    obtain rfl : s' = s := h.elim sendRoute_error sendRouteV2_error
    exact Or.inl hkey
  | idle => exact Or.inl hkey

/-- **A key in the dedupe set after a run** was there before or some turn brought
it. -/
theorem NodeRun.seen_source {s s' : NodeState} {ticks : List Tick} {key : List ℤ}
    (h : NodeRun A cfg s ticks s') (hkey : key ∈ s'.seen) :
    key ∈ s.seen ∨ ∃ t ∈ ticks, t.event.Brings cfg key := by
  induction h with
  | nil s => exact Or.inl hkey
  | @cons s s' s'' e ticks step _ ih =>
    rcases ih hkey with hmid | ⟨t, ht, hbrings⟩
    · exact (step.seen_source hmid).imp_right fun hb => ⟨_, List.mem_cons_self .., hb⟩
    · exact Or.inr ⟨t, List.mem_cons_of_mem _ ht, hbrings⟩

/-! ### The three checks on one received frame -/

/-- **The own-route check on `route_v2`** is on the typed pair. -/
theorem receive_ownRouteV2 {payload : Bytes} {r : RouteDataV2} {s s' : NodeState}
    (h : receive A cfg env payload s = .ok (.dropped .ownRouteV2) s')
    (hcarries : CarriesRouteV2 payload r) : routeV2IsOwn cfg r := by
  obtain ⟨f, -, hroute, hreceive⟩ := receive_of_carriesV2 h hcarries
  cases hreceive with
  | own r' hroute' hown =>
    obtain rfl := Except.ok.inj (hroute.symm.trans hroute')
    exact hown

/-- **The own-route check on `route_data`** is on the sender id. -/
theorem receive_ownRoute_iff {payload : Bytes} {r : RouteData} {s s' : NodeState} {v : Verdict}
    (h : receive A cfg env payload s = .ok v s') (hcarries : CarriesRoute payload r) :
    v = .dropped .ownRoute ↔ r.originSenderId = cfg.senderId := by
  obtain ⟨f, -, hroute, hreceive⟩ := receive_of_carries h hcarries
  cases hreceive with
  | invalid msg hroute' => cases hroute.symm.trans hroute'
  | own r' hroute' hown =>
    obtain rfl := Except.ok.inj (hroute.symm.trans hroute')
    simp [hown]
  | duplicate r' hroute' hown =>
    obtain rfl := Except.ok.inj (hroute.symm.trans hroute')
    simp [hown]
  | authFail r' msg hroute' hown =>
    obtain rfl := Except.ok.inj (hroute.symm.trans hroute')
    simp [hown]
  | accepted a s₁ _ hroute' hown =>
    obtain rfl := Except.ok.inj (hroute.symm.trans hroute')
    simp [hown]

/-- **A duplicate** was not the node's own and its key was in the set. -/
theorem receive_duplicateRouteV2 {payload : Bytes} {r : RouteDataV2} {s s' : NodeState}
    (h : receive A cfg env payload s = .ok (.dropped .duplicateRouteV2) s')
    (hcarries : CarriesRouteV2 payload r) : ¬ routeV2IsOwn cfg r ∧ r.dedupeKey ∈ s.seen := by
  obtain ⟨f, -, hroute, hreceive⟩ := receive_of_carriesV2 h hcarries
  cases hreceive with
  | duplicate r' hroute' hown hseen =>
    obtain rfl := Except.ok.inj (hroute.symm.trans hroute')
    exact ⟨hown, hseen⟩

theorem receive_duplicateRoute {payload : Bytes} {r : RouteData} {s s' : NodeState}
    (h : receive A cfg env payload s = .ok (.dropped .duplicateRoute) s')
    (hcarries : CarriesRoute payload r) :
    r.originSenderId ≠ cfg.senderId ∧ r.dedupeKey ∈ s.seen := by
  obtain ⟨f, -, hroute, hreceive⟩ := receive_of_carries h hcarries
  cases hreceive with
  | duplicate r' hroute' hown hseen =>
    obtain rfl := Except.ok.inj (hroute.symm.trans hroute')
    exact ⟨hown, hseen⟩

/-- **The link check** notes the outer sender of every frame with a route. -/
theorem receive_linkHealth {payload : Bytes} {f : AppFrame} {s s' : NodeState} {v : Verdict}
    (h : receive A cfg env payload s = .ok v s') (hframe : decodeFrame payload false = .ok f)
    (hroute : (∃ r, CarriesRoute payload r) ∨ ∃ r, CarriesRouteV2 payload r) :
    s'.linkHealth = (s.notePeer cfg env f.senderId).linkHealth := by
  obtain ⟨r, hcarries⟩ | ⟨r, hcarries⟩ := hroute
  · obtain ⟨f', hframe', hroute, hreceive⟩ := receive_of_carries h hcarries
    obtain rfl := Except.ok.inj (hframe.symm.trans hframe')
    cases hreceive with
    | invalid msg hroute' => cases hroute.symm.trans hroute'
    | own | duplicate | authFail => rfl
    | accepted a s₁ _ hroute' _ _ hauth _ hforward =>
      obtain ⟨replay, rfl⟩ := decryptMeshPayload_frame hauth
      obtain ⟨-, -, rfl⟩ | ⟨-, routed, -, -, -, -, -, -, rfl⟩ :=
        forwardRouteData_eq_ok_iff.mp hforward
      · rfl
      · rfl
  · obtain ⟨f', hframe', hroute, hreceive⟩ := receive_of_carriesV2 h hcarries
    obtain rfl := Except.ok.inj (hframe.symm.trans hframe')
    cases hreceive with
    | invalid msg hroute' => cases hroute.symm.trans hroute'
    | own | duplicate | invalidE2e | authFail => rfl
    | accepted a s₁ _ hroute' _ _ _ _ hauth _ _ hforward =>
      obtain ⟨replay, rfl⟩ := AcceptedV2.auth_frame hauth
      obtain ⟨hr, -, -, -⟩ := decodeRouteV2Payload_eq_ok_iff.mp hroute'
      obtain ⟨-, -, rfl⟩ | ⟨-, -, -, -, -, rfl⟩ := (forwardRouteV2_eq_ok_iff hr).mp hforward
      · rfl
      · rfl

/-- The link health after a peer with another sender id was heard. -/
structure Heard (cfg : NodeConfig) (peer : ℤ) (now : ℚ) (h : LinkHealth) : Prop where
  lastLinkSeenAt : h.lastLinkSeenAt = now
  peersLastSeen : 0 ≤ cfg.peerTimeoutS → (peer, now) ∈ h.peersLastSeen

/-- **A peer is heard or ignored by its sender id.** -/
theorem notePeer_linkHealth (cfg : NodeConfig) (env : Env) (peer : ℤ) (s : NodeState) :
    (peer ≠ cfg.senderId → Heard cfg peer env.monotonic (s.notePeer cfg env peer).linkHealth) ∧
      (peer = cfg.senderId → (s.notePeer cfg env peer).linkHealth = s.linkHealth) := by
  constructor
  · intro hne
    simp only [NodeState.notePeer, LinkHealth.notePeer, if_neg hne, LinkHealth.pruneStalePeers]
    refine ⟨rfl, fun htimeout => List.mem_filter.mpr ⟨mem_setPeer .., decide_eq_true ?_⟩⟩
    exact not_lt.mpr (sub_le_self _ htimeout)
  · intro heq
    simp only [NodeState.notePeer, LinkHealth.notePeer, if_pos heq]

/-! ### A mesh of endpoints -/

variable {ι : Type}

/-- The endpoints have pairwise distinct typed addresses. -/
def DistinctAddresses (mesh : ι → NodeConfig) : Prop :=
  Function.Injective fun j => ((mesh j).originType, (mesh j).senderId)

/-- The packet names endpoint `j` as its origin. -/
def RouteDataV2.From (mesh : ι → NodeConfig) (j : ι) (r : RouteDataV2) : Prop :=
  r.originType = (mesh j).originType ∧ r.originId = (mesh j).senderId

/-- What endpoint `i` does with the frames it receives during a run: no `route_v2` packet of
another endpoint is taken for its own, a duplicate always repeats an earlier packet of the
same origin and number in the same format, and in `route_data` packets and outer frames it
takes for itself exactly whoever has its sender id. -/
structure KeepsEndpointsApart (mesh : ι → NodeConfig) (i : ι) (ticks : List Tick) : Prop where
  v2_not_own : ∀ t ∈ ticks, ∀ env payload v r j, t.event = .received env payload v →
    CarriesRouteV2 payload r → r.From mesh j → j ≠ i → v ≠ .dropped .ownRouteV2
  v2_same_origin : ∀ pre t post, ticks = pre ++ t :: post → ∀ env payload r,
    t.event = .received env payload (.dropped .duplicateRouteV2) → CarriesRouteV2 payload r →
      ∃ t' ∈ pre, ∃ env' payload' v' r', t'.event = .received env' payload' v' ∧
        CarriesRouteV2 payload' r' ∧ r'.originType = r.originType ∧ r'.originId = r.originId ∧
        r'.originSeq = r.originSeq
  data_own_iff : ∀ t ∈ ticks, ∀ env payload v r, t.event = .received env payload v →
    CarriesRoute payload r → (v = .dropped .ownRoute ↔ r.originSenderId = (mesh i).senderId)
  data_same_origin : ∀ pre t post, ticks = pre ++ t :: post → ∀ env payload r,
    t.event = .received env payload (.dropped .duplicateRoute) → CarriesRoute payload r →
      ∃ t' ∈ pre, ∃ env' payload' v' r', t'.event = .received env' payload' v' ∧
        CarriesRoute payload' r' ∧ r'.originSenderId = r.originSenderId ∧
        r'.originSeq = r.originSeq
  heard : ∀ t ∈ ticks, ∀ env payload v f, t.event = .received env payload v →
    decodeFrame payload false = .ok f →
    ((∃ r, CarriesRoute payload r) ∨ ∃ r, CarriesRouteV2 payload r) →
      (f.senderId ≠ (mesh i).senderId →
        Heard (mesh i) f.senderId env.monotonic t.after.linkHealth) ∧
      (f.senderId = (mesh i).senderId → t.after.linkHealth = t.before.linkHealth)

/-- **Which endpoints are kept apart**, in every run of every endpoint of a mesh with
distinct typed addresses. -/
theorem addresses_apart (A : Aead) (mesh : ι → NodeConfig) (hdistinct : DistinctAddresses mesh)
    (i : ι) (originSeq : SeqNo) (now : ℚ) (channel : Option ℤ) (ticks : List Tick) (s' : NodeState)
    (h : NodeRun A (mesh i) (NodeState.initial (mesh i) originSeq now channel) ticks s') :
    KeepsEndpointsApart mesh i ticks := by
  have hturn : ∀ t ∈ ticks, ∀ env payload v, t.event = .received env payload v →
      receive A (mesh i) env payload t.before = .ok v t.after := fun t ht env payload v hevent => by
    obtain ⟨pre, post, rfl⟩ := List.append_of_mem ht
    obtain ⟨-, hstep, -⟩ := h.at_turn
    rw [hevent] at hstep
    cases hstep with
    | receive _ _ _ _ _ hreceive => exact hreceive
  -- A key in the set at a turn was brought by an earlier turn.
  have hsource : ∀ pre t post key, ticks = pre ++ t :: post → key ∈ t.before.seen →
      ∃ t' ∈ pre, t'.event.Brings (mesh i) key := fun pre t post key hticks hkey => by
    obtain ⟨hpre, -, -⟩ := NodeRun.at_turn (hticks ▸ h)
    exact (hpre.seen_source hkey).resolve_left FifoSet.not_mem_empty
  constructor
  · intro t ht env payload v r j hevent hcarries hfrom hne hv
    have hreceive := hturn t ht env payload v hevent
    rw [hv] at hreceive
    obtain ⟨htype, hid⟩ := receive_ownRouteV2 hreceive hcarries
    exact hne (hdistinct (Prod.ext (hfrom.1.symm.trans htype) (hfrom.2.symm.trans hid)))
  · intro pre t post hticks env payload r hevent hcarries
    have ht : t ∈ ticks := hticks ▸ List.mem_append_right _ (List.mem_cons_self ..)
    obtain ⟨hown, hseen⟩ := receive_duplicateRouteV2 (hturn t ht _ _ _ hevent) hcarries
    obtain ⟨t', ht', hbrings⟩ := hsource pre t post _ hticks hseen
    obtain ⟨env', payload', v', r', hevent', hcarries', htype, hid, hseq⟩ := hbrings.receivedV2 hown
    exact ⟨t', ht', env', payload', v', r', hevent', hcarries', htype, hid, hseq⟩
  · intro t ht env payload v r hevent hcarries
    exact receive_ownRoute_iff (hturn t ht env payload v hevent) hcarries
  · intro pre t post hticks env payload r hevent hcarries
    have ht : t ∈ ticks := hticks ▸ List.mem_append_right _ (List.mem_cons_self ..)
    obtain ⟨hown, hseen⟩ := receive_duplicateRoute (hturn t ht _ _ _ hevent) hcarries
    obtain ⟨t', ht', hbrings⟩ := hsource pre t post _ hticks hseen
    obtain ⟨env', payload', v', r', hevent', hcarries', hid, hseq⟩ := hbrings.receivedData hown
    exact ⟨t', ht', env', payload', v', r', hevent', hcarries', hid, hseq⟩
  · intro t ht env payload v f hevent hframe hroute
    rw [receive_linkHealth (hturn t ht env payload v hevent) hframe hroute]
    exact notePeer_linkHealth (mesh i) env f.senderId t.before

/-- A node and a C2 endpoint with the same id: `node:1` and `c2:1`. -/
def sampleMixed (c2 : Bool) : NodeConfig :=
  if c2 then NodeConfig.sampleC2 else NodeConfig.sample 1 senderId_one

theorem sampleMixed_distinct : DistinctAddresses sampleMixed := by
  have h : ((sampleMixed false).originType, (sampleMixed false).senderId) ≠
      ((sampleMixed true).originType, (sampleMixed true).senderId) := by decide
  intro j k hjk
  cases j <;> cases k
  · rfl
  · exact absurd hjk h
  · exact absurd hjk.symm h
  · rfl

/-- **Distinct typed addresses do not keep `route_data` apart**: `c2:1` takes a packet
of `node:1` for its own. -/
theorem addresses_confused :
    ¬ ∀ (mesh : Bool → NodeConfig), DistinctAddresses mesh → ∀ (i j : Bool), i ≠ j →
      ∀ (env env' : Env) (innerType : ℤ) (payload : Bytes) (destinationId ttl : ℤ) (sent : SentRoute)
        (s s₁ t t' : NodeState) (v : Verdict),
        sendRoute Aead.checksum (mesh j) env innerType payload destinationId ttl s = .ok sent s₁ →
        receive Aead.checksum (mesh i) env' sent.frame.payload t = .ok v t' →
          v ≠ .dropped .ownRoute := by
  intro hclaim
  let start := NodeState.initial (sampleMixed false) .one 0 none
  have hsends : (resultValue? (sendRoute Aead.checksum (sampleMixed false) Env.sample msgData
      [104, 105] 0 3 start)).map SentRoute.seqSent = some 1 := by
    decide +kernel
  obtain ⟨sent, s₁, hsend, -⟩ := exists_eq_ok_of_map hsends
  obtain ⟨routed, -, hroute, hframe, hlen, -, rfl, -⟩ := sendRoute_eq_ok.mp hsend
  have hcarries := carriesRoute_outerFrame hroute (show messageTypes.Has msgData by decide) hframe
  obtain ⟨v, t', hreceive⟩ := @receive_total Aead.checksum (sampleMixed true) Env.sample
    Aead.checksum_lawful.toCorrect.toLengthPreserving _ hlen rfl
    (NodeState.initial (sampleMixed true) .one 0 none)
  exact hclaim sampleMixed sampleMixed_distinct true false (by decide) Env.sample Env.sample msgData
    [104, 105] 0 3 _ start s₁ _ t' v hsend hreceive
      ((receive_ownRoute_iff hreceive hcarries).mpr rfl)

/-- A `route_data` packet of `node:1`. -/
def nodeOneText : RouteData := ⟨1, 0, 3, 1, msgText, [104, 105]⟩

/-- An uplink of `node:1` to `c2:1`. -/
def nodeOneUplink : RouteDataV2 where
  routeVersion := routeV2Version
  originType := addrNode
  originId := 1
  destinationType := addrC2
  destinationId := 1
  ttl := 3
  originSeq := 2
  trafficClass := trafficC2Uplink
  innerType := msgText
  innerPayload := [1, 3, 0, 9, 0, 0, 0, 1] ++ List.replicate 28 0

theorem nodeOneUplink_valid : nodeOneUplink.Valid :=
  ⟨rfl, ⟨by decide, by decide, by decide, by decide, by decide⟩,
    ⟨by decide, by decide, by decide, by decide⟩, by decide, by decide, by decide, by decide,
    by decide, by decide⟩

/-- The uplink in the frame of a relay. -/
def nodeOneUplinkFrame (relay : ℤ) : Bytes :=
  (outerFrame relay msgRouteV2 1 nodeOneUplink.bytes).bytes

/-- What `c2:1` receives: the two packets from `node:1`, the uplink once more from node 3, and a
beacon of node 2 twice. -/
def receivedByC2 : List (Env × Bytes) :=
  [(outerFrame 1 msgRouteData 1 nodeOneText.bytes).bytes, nodeOneUplinkFrame 1,
    nodeOneUplinkFrame 3, sampleFrame 7, sampleFrame 7].map fun payload => (Env.sample, payload)

/-- Why a received frame was dropped. -/
def Tick.droppedAs (t : Tick) : Option Drop :=
  match t.event with
  | .received _ _ (.dropped drop) => some drop
  | _ => none

/-- In the same mesh `c2:1` takes the `route_data` packet of `node:1` for its own, accepts its
uplink, and drops the copy of the uplink and of the beacon of node 2 as duplicates. -/
theorem addresses_apart_sample :
    ∃ ticks s', NodeRun Aead.checksum (sampleMixed true)
        (NodeState.initial (sampleMixed true) .one 0 none) ticks s' ∧
      ticks.map Tick.droppedAs =
        [some .ownRoute, none, some .duplicateRouteV2, none, some .duplicateRoute] ∧
      CarriesRouteV2 (nodeOneUplinkFrame 3) nodeOneUplink ∧ nodeOneUplink.From sampleMixed false ∧
      KeepsEndpointsApart sampleMixed true ticks := by
  have hdropped : (receiveTicks Aead.checksum (sampleMixed true)
      (NodeState.initial (sampleMixed true) .one 0 none) receivedByC2).map Tick.droppedAs =
        [some .ownRoute, none, some .duplicateRouteV2, none, some .duplicateRoute] := by
    decide +kernel
  have hcarries : CarriesRouteV2 (nodeOneUplinkFrame 3) nodeOneUplink :=
    carriesRouteV2_outerFrame nodeOneUplink_valid (by decide) (by decide)
      ⟨by decide, by decide, by decide, by decide, by decide, by decide, by decide⟩
  obtain ⟨s', hrun⟩ := receiveTicks_run Aead.checksum (sampleMixed true)
    (NodeState.initial (sampleMixed true) .one 0 none) receivedByC2
  exact ⟨_, s', hrun, hdropped, hcarries, ⟨rfl, rfl⟩,
    addresses_apart Aead.checksum sampleMixed sampleMixed_distinct true .one 0 none _ s' hrun⟩

end KovaWfb
