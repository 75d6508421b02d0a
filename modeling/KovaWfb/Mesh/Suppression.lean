/-
# What forged traffic can suppress

In secure mode a node of `python/examples/mesh_txrx.py` remembers the dedupe key of
a `route_data` packet only once the packet opened under the mesh key (lines 2448 to
2466), so forgeries leave no trace in its windows (`forgeries_leave_no_trace`) and
an authentic packet is accepted after them as before (`accepted_after_forgeries`).

The exception is the sync beacon, which is never protected (line 1650) and shares
the dedupe keys of the other packets: a forged beacon with the origin and sequence
number of a packet that is still under way makes the node take that packet for a
duplicate (`forged_sync_suppresses`).
-/

import KovaWfb.Mesh.Run

namespace KovaWfb

variable {A : Aead} {cfg : NodeConfig} {env : Env}

/-- A payload made without the mesh key: a packet of a protected type in it does not
open. -/
def Forged (A : Aead) (c : CryptoConfig) (payload : Bytes) : Prop :=
  ∀ r, CarriesRoute payload r → r.innerType ≠ msgSync → ∀ opened, openMeshPayload A c r ≠ .ok opened

/-- The payload holds a sync beacon with the dedupe key `key`. -/
def BeaconUnder (key : List ℤ) (payload : Bytes) : Prop :=
  ∃ r, CarriesRoute payload r ∧ r.innerType = msgSync ∧ r.dedupeKey = key

/-- Everything received in a stretch of a run is forged, and none of it is a beacon
under `key`. -/
def OnlyForgeries (A : Aead) (c : CryptoConfig) (key : List ℤ) (ticks : List Tick) : Prop :=
  ∀ t ∈ ticks, ∃ env payload v, t.event = .received env payload v ∧ Forged A c payload ∧
    ¬ BeaconUnder key payload

/-- A packet the windows let pass: they hold neither its dedupe key nor its replay
key. -/
structure FreshFor (c : CryptoConfig) (r : RouteData) (s : NodeState) : Prop where
  not_seen : ¬ r.dedupeKey ∈ s.seen
  not_replayed : ¬ meshAuthKey c r ∈ s.secureReplay

theorem meshCryptoFor_of_ne {innerType : ℤ} (h : innerType ≠ msgSync) :
    cfg.meshCryptoFor innerType = cfg.meshCrypto := if_neg h

/-- With a mesh key only sync beacons go unprotected. -/
theorem innerType_of_meshCryptoFor_none {c : CryptoConfig} (hc : cfg.meshCrypto = some c)
    {innerType : ℤ} (h : cfg.meshCryptoFor innerType = none) : innerType = msgSync := by
  by_contra hne
  rw [meshCryptoFor_of_ne hne, hc] at h
  cases h

/-- **A forgery leaves no trace**: a packet of another origin that was fresh before
it is fresh after it. -/
theorem forgery_leaves_no_trace {c : CryptoConfig} (hc : cfg.meshCrypto = some c) {r : RouteData}
    (hr : r.originSenderId ≠ cfg.senderId) {payload : Bytes} {s s' : NodeState} {v : Verdict}
    (h : receive A cfg env payload s = .ok v s') (hforged : Forged A c payload)
    (hbeacon : ¬ BeaconUnder r.dedupeKey payload) (hfresh : FreshFor c r s) : FreshFor c r s' := by
  obtain ⟨hseen, hreplay⟩ := hfresh
  cases receive_eq_ok_iff.mp h with
  | invalid | other => exact ⟨hseen, hreplay⟩
  | v2 f _ _ hframe hv2 hreceive =>
    -- The keys of a `route_v2` packet are longer.
    have hlong : ∀ q : RouteDataV2, r.dedupeKey ≠ q.dedupeKey := fun q heq => by
      simpa [RouteData.dedupeKey, RouteDataV2.dedupeKey] using congrArg List.length heq
    cases hreceive with
    | invalid | duplicate | invalidE2e | authFail => exact ⟨hseen, hreplay⟩
    | own route => exact ⟨FifoSet.not_mem_remember (hlong route) hseen, hreplay⟩
    | accepted a s₁ _ =>
      have ha := receive_v2_accepts h
      refine ⟨?_, ?_⟩
      · rw [ha.seen_eq]
        exact FifoSet.not_mem_remember (hlong a.route) hseen
      · obtain ⟨-, heq⟩ | ⟨p, -, -, -, heq⟩ := ha.auth
        · rwa [heq]
        · rw [heq]
          refine FifoSet.not_mem_remember (fun hkey => ?_) hreplay
          simpa [meshAuthKey, e2eReplayKey] using congrArg List.length hkey
  | data f _ _ hframe hdata hreceive =>
    cases hreceive with
    | invalid | duplicate | authFail => exact ⟨hseen, hreplay⟩
    | own route _ hown =>
      refine ⟨FifoSet.not_mem_remember (fun hkey => hr ?_) hseen, hreplay⟩
      simp only [RouteData.dedupeKey, List.cons.injEq] at hkey
      exact hkey.1.trans hown
    | accepted a s₁ _ =>
      have ha := receive_data_accepts h
      obtain ⟨hclear, -, -, heq⟩ | ⟨c', secure, hc', hopen, -⟩ := ha.auth
      · have hsync := innerType_of_meshCryptoFor_none hc hclear
        refine ⟨?_, by rwa [heq]⟩
        rw [ha.seen_eq]
        exact FifoSet.not_mem_remember
          (fun hkey => hbeacon ⟨a.route, ha.carries, hsync, hkey.symm⟩) hseen
      · have hne : a.route.innerType ≠ msgSync := fun hsync => by
          rw [NodeConfig.meshCryptoFor, if_pos hsync] at hc'
          cases hc'
        rw [meshCryptoFor_of_ne hne, hc] at hc'
        obtain rfl := Option.some.inj hc'
        exact absurd hopen (hforged a.route ha.carries hne _)

/-- **Any number of forgeries leaves no trace.** -/
theorem forgeries_leave_no_trace {c : CryptoConfig} (hc : cfg.meshCrypto = some c) {r : RouteData}
    (hr : r.originSenderId ≠ cfg.senderId) {s s' : NodeState} {ticks : List Tick}
    (hrun : NodeRun A cfg s ticks s') (hforged : OnlyForgeries A c r.dedupeKey ticks)
    (hfresh : FreshFor c r s) : FreshFor c r s' := by
  induction hrun with
  | nil => exact hfresh
  | cons step _ ih =>
    refine ih (fun t ht => hforged t (List.mem_cons_of_mem _ ht)) ?_
    obtain ⟨env, payload, v, hevent, hf, hb⟩ := hforged _ (List.mem_cons_self ..)
    cases step with
    | receive env' payload' v' _ _ h =>
      cases hevent
      exact forgery_leaves_no_trace hc hr h hf hb hfresh
    | sendRoute | sendRouteV2 | sendFailed | idle => cases hevent

/-- Of a packet that is no beacon, what it decodes to depends on nothing else. -/
theorem deliverRouteData_congr {r : RouteData} (hr : r.innerType ≠ msgSync) {env env' : Env}
    {p : Bytes} {s s' : NodeState} {d d' : Delivery}
    (h : deliverRouteData cfg env r p s = .ok d s)
    (h' : deliverRouteData cfg env' r p s' = .ok d' s') : d' = d := by
  unfold deliverRouteData at h h'
  simp only [if_neg hr] at h h'
  split at h
  · rename_i htransit
    rw [if_pos htransit] at h'
    exact (EStateM.Result.ok.inj h').1.symm.trans (EStateM.Result.ok.inj h).1
  · rename_i hdelivered
    rw [if_neg hdelivered] at h'
    split at h
    · rename_i hstatus
      rw [if_pos hstatus, PyM.exceptAppFrameError_lift_bind_eq_ok] at h'
      rw [PyM.exceptAppFrameError_lift_bind_eq_ok] at h
      obtain ⟨status, hstatus, h⟩ | ⟨msg, hstatus, h⟩ := h
      · obtain ⟨status', hstatus', h'⟩ | ⟨msg, hstatus', -⟩ := h'
        · obtain rfl := Except.ok.inj (hstatus.symm.trans hstatus')
          exact (EStateM.Result.ok.inj h').1.symm.trans (EStateM.Result.ok.inj h).1
        · cases hstatus.symm.trans hstatus'
      · obtain ⟨status', hstatus', -⟩ | ⟨msg, hstatus', h'⟩ := h'
        · cases hstatus.symm.trans hstatus'
        · cases hstatus.symm.trans hstatus'
          exact (EStateM.Result.ok.inj h').1.symm.trans (EStateM.Result.ok.inj h).1
    · rename_i hstatus
      rw [if_neg hstatus] at h'
      exact (EStateM.Result.ok.inj h').1.symm.trans (EStateM.Result.ok.inj h).1

/-- An authentic packet is accepted in every state in which it is fresh, as what it
is. -/
theorem receive_of_fresh (env : Env) (hA : A.LengthPreserving chacha20Poly1305TagSize)
    {c : CryptoConfig} (hc : cfg.meshCrypto = some c) {payload : Bytes} {r : RouteData}
    {secure : SecurePayload} {p : Bytes} (hlen : payload.length ≤ computeMaxPayload)
    (hradio : env.radio = none)
    (hcarries : CarriesRoute payload r) (hr : r.originSenderId ≠ cfg.senderId)
    (hsync : r.innerType ≠ msgSync) (hopen : openMeshPayload A c r = .ok (secure, p))
    {s : NodeState} (hfresh : FreshFor c r s) :
    ∃ a s', receive A cfg env payload s = .ok (.data a) s' ∧ a.route = r ∧ a.plaintext = p ∧
      a.secured = true := by
  have hkey : cfg.meshCryptoFor r.innerType = some c := (meshCryptoFor_of_ne hsync).trans hc
  obtain ⟨v, s', h⟩ := receive_total hA hlen hradio s
  obtain ⟨a, rfl, rfl, hp⟩ := receive_data_of_fresh h hcarries (.opened c secure hkey hopen) hr
    hfresh.not_seen fun c' hc' => by
      obtain rfl := Option.some.inj (hkey.symm.trans hc')
      exact hfresh.not_replayed
  refine ⟨a, s', h, rfl, hp, ?_⟩
  obtain ⟨hclear, -⟩ | ⟨_, _, -, -, hsec, -, -⟩ := (receive_data_accepts h).auth
  · cases hkey.symm.trans hclear
  · exact hsec

/-- **Forged traffic does not suppress authentic traffic**, beacons under the
packet's own key apart: what the node would accept it accepts after any number of
forgeries, with the same plaintext and the same delivery. -/
theorem accepted_after_forgeries (hA : A.LengthPreserving chacha20Poly1305TagSize) {c : CryptoConfig}
    (hc : cfg.meshCrypto = some c) {s s₁ s' : NodeState} {ticks : List Tick} {env env' : Env}
    {payload : Bytes} {a : AcceptedData} (hlen : payload.length ≤ computeMaxPayload)
    (hradio : env'.radio = none) (hsync : a.route.innerType ≠ msgSync)
    (haccept : receive A cfg env payload s = .ok (.data a) s')
    (hrun : NodeRun A cfg s ticks s₁) (hforged : OnlyForgeries A c a.route.dedupeKey ticks) :
    ∃ a' s₁', receive A cfg env' payload s₁ = .ok (.data a') s₁' ∧ a'.route = a.route ∧
      a'.plaintext = a.plaintext ∧ a'.secured = a.secured ∧ a'.delivery = a.delivery := by
  have ha := receive_data_accepts haccept
  obtain ⟨hclear, -⟩ | ⟨c', secure, hc', hopen, hsec, hnew, -⟩ := ha.auth
  · exact absurd (innerType_of_meshCryptoFor_none hc hclear) hsync
  · rw [meshCryptoFor_of_ne hsync, hc] at hc'
    obtain rfl := Option.some.inj hc'
    have hfresh := forgeries_leave_no_trace hc ha.not_own hrun hforged ⟨ha.not_seen, hnew⟩
    obtain ⟨a', s₁', h, hroute, hp, hsec'⟩ := receive_of_fresh env' hA hc hlen hradio
      ha.carries ha.not_own hsync hopen hfresh
    have ha' := receive_data_accepts h
    obtain ⟨m, hm⟩ := ha.delivery
    obtain ⟨m', hm'⟩ := ha'.delivery
    rw [hroute, hp] at hm'
    exact ⟨a', s₁', h, hroute, hp, hsec'.trans hsec.symm, deliverRouteData_congr hsync hm hm'⟩

/-! ### An authentic packet, with and without a forged beacon before it -/

/-- The state the sample relay starts in. -/
def sampleStart : NodeState := NodeState.initial sampleRelay .one 0 none

/-- Packet 7 of node 2, sealed under the mesh key. -/
def authenticFrame : Bytes := sealedFrame Aead.checksum 2 7 3 [104, 105]

/-- The beacon that a sample frame carries. -/
theorem CarriesRoute.eq_sampleBeacon {originSeq : ℤ} (h : FitsWidth 4 originSeq) {r : RouteData}
    (hr : CarriesRoute (sampleFrame originSeq) r) : r = sampleBeacon originSeq := by
  have hv : (sampleBeacon originSeq).Valid :=
    ⟨show (2 : ℤ) ≠ 0 by decide, show FitsWidth 1 2 by decide, show FitsWidth 1 0 by decide,
      show FitsWidth 1 3 by decide, h, show FitsWidth 1 msgSync by decide,
      show msgSync ≠ msgRouteData by decide, show FitsWidth 2 18 by decide⟩
  have hlen : (sampleBeacon originSeq).bytes.length = routeDataPayloadSize + 18 :=
    RouteData.length_bytes _
  exact hr.eq_of_outerFrame hv ⟨rfl, show FitsWidth 1 msgRouteData by decide,
    show (2 : ℤ) ≠ 0 by decide, show FitsWidth 1 2 by decide, show FitsWidth 1 0 by decide,
    show FitsWidth 4 1 by decide, by rw [outerFrame, hlen]; decide⟩

/-- A beacon is a forgery whoever sent it: it holds no protected packet. -/
theorem sampleFrame_forged {originSeq : ℤ} (h : FitsWidth 4 originSeq) :
    Forged Aead.checksum CryptoConfig.sample (sampleFrame originSeq) := by
  intro r hr hne
  obtain rfl := hr.eq_sampleBeacon h
  exact absurd rfl hne

/-- The authentic packet is accepted at once. -/
theorem authenticFrame_accepted :
    ∃ a s', receive Aead.checksum sampleRelay Env.sample authenticFrame sampleStart =
      .ok (.data a) s' ∧ a.route.innerType = msgData ∧ a.route.dedupeKey = [2, 7] := by
  have h : ((receiveTicks Aead.checksum sampleRelay sampleStart [(Env.sample, authenticFrame)]).map
      fun t => t.acceptedRoute.map fun r => (r.innerType, r.dedupeKey)) =
        [some (msgData, [2, 7])] := by
    decide +kernel
  obtain ⟨a, s', hreceive, hroute⟩ := accepted_of_receiveTicks h
  obtain ⟨htype, hkey⟩ := Prod.mk.inj hroute
  exact ⟨a, s', hreceive, htype, hkey⟩

/-- A forged beacon with another number does not stop it. -/
theorem accepted_after_forgeries_sample :
    ∃ ticks s₁, ticks ≠ [] ∧ NodeRun Aead.checksum sampleRelay sampleStart ticks s₁ ∧
      ∃ a s', receive Aead.checksum sampleRelay Env.sample authenticFrame s₁ = .ok (.data a) s' := by
  obtain ⟨a, s', haccept, htype, hkey⟩ := authenticFrame_accepted
  have hbeacon : ∃ v s₁, receive Aead.checksum sampleRelay Env.sample (sampleFrame 8) sampleStart =
    .ok v s₁ := receive_total Aead.checksum_lawful.toLengthPreserving (by decide) rfl sampleStart
  obtain ⟨v, s₁, hbeacon⟩ := hbeacon
  have hrun : NodeRun Aead.checksum sampleRelay sampleStart
      [⟨sampleStart, .received Env.sample (sampleFrame 8) v, s₁⟩] s₁ :=
    .cons (.receive _ _ _ _ _ hbeacon) (.nil _)
  have hforged : OnlyForgeries Aead.checksum CryptoConfig.sample a.route.dedupeKey
      [⟨sampleStart, .received Env.sample (sampleFrame 8) v, s₁⟩] := by
    intro t ht
    obtain rfl := List.mem_singleton.mp ht
    refine ⟨_, _, v, rfl, sampleFrame_forged (by decide), ?_⟩
    rintro ⟨r, hr, -, hsame⟩
    obtain rfl := hr.eq_sampleBeacon (by decide)
    rw [hkey] at hsame
    exact absurd hsame (by decide)
  have hradio : Env.sample.radio = none := rfl
  have hcrypto : sampleRelay.meshCrypto = some CryptoConfig.sample := rfl
  obtain ⟨a', s₁', h, -⟩ := accepted_after_forgeries Aead.checksum_lawful.toLengthPreserving hcrypto
    (by decide) hradio (by rw [htype]; decide) haccept hrun hforged
  exact ⟨_, s₁, List.cons_ne_nil _ _, hrun, a', s₁', h⟩

/-- **Not all authentic traffic gets through forged traffic**: the packet would be
accepted at once, but not after one forged beacon. -/
theorem forged_sync_suppresses :
    (∃ a s', receive Aead.checksum sampleRelay Env.sample authenticFrame sampleStart =
      .ok (.data a) s' ∧ a.route.innerType = msgData ∧ a.route.dedupeKey = [2, 7]) ∧
    ¬ ∀ (ticks : List Tick) (s₁ : NodeState), NodeRun Aead.checksum sampleRelay sampleStart ticks s₁ →
      (∀ t ∈ ticks, ∃ env payload v, t.event = .received env payload v ∧
        Forged Aead.checksum CryptoConfig.sample payload) →
      ∃ a s', receive Aead.checksum sampleRelay Env.sample authenticFrame s₁ = .ok (.data a) s' := by
  refine ⟨authenticFrame_accepted, fun hclaim => ?_⟩
  have h : ((receiveTicks Aead.checksum sampleRelay sampleStart
      [(Env.sample, sampleFrame 7), (Env.sample, authenticFrame)]).map fun t =>
        t.acceptedRoute.map (·.innerType)) = [some msgSync, none] := by
    decide +kernel
  obtain ⟨t₁, _, hticks, -, h⟩ := List.map_eq_cons_iff.mp h
  obtain ⟨t₂, _, rfl, h₂, -⟩ := List.map_eq_cons_iff.mp h
  obtain ⟨v₁, -, hevent₁, hstep, hticks⟩ := receiveTicks_eq_cons hticks
  obtain ⟨v₂, hreceive, hevent₂, -, -⟩ := receiveTicks_eq_cons hticks
  obtain ⟨a, s', haccepted⟩ := hclaim [⟨sampleStart, t₁.event, t₁.after⟩] t₁.after
    (.cons hstep (.nil _)) fun t ht => by
      obtain rfl := List.mem_singleton.mp ht
      exact ⟨_, _, v₁, hevent₁, sampleFrame_forged (by decide)⟩
  obtain ⟨rfl, -⟩ := EStateM.Result.ok.inj (hreceive.symm.trans haccepted)
  simp only [Tick.acceptedRoute, hevent₂] at h₂
  cases h₂

end KovaWfb
