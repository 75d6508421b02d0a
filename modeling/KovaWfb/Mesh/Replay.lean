/-
# Replays

A node of `python/examples/mesh_txrx.py` accepts an authenticated `route_data`
packet when neither of its two windows holds the packet's key: `SeenRoutes` the
pair of origin and sequence number, `ReplayWindow` the domain, origin, epoch and
sequence number (lines 680 to 716, 1665 to 1686 and 2448 to 2466).  Both are
bounded and forget their oldest keys, so a captured packet is accepted again once
enough traffic has pushed it out of both (`replay_accepted_again`), and not before
(`replay_needs_both_evictions`).
-/

import KovaWfb.Mesh.Run

namespace KovaWfb

variable {A : Aead} {cfg : NodeConfig}

/-- The key under which a turn accepted an authenticated `route_data` packet. -/
def Tick.authKey (cfg : NodeConfig) (t : Tick) : Option (List ℤ) :=
  match t.event with
  | .received _ _ (.data a) =>
      (cfg.meshCryptoFor a.route.innerType).map fun c => meshAuthKey c a.route
  | _ => none

/-- **What a turn that accepts an authenticated packet does to the windows**: it
found the packet's key in neither and entered it in both. -/
theorem NodeStep.authKey_windows {s s' : NodeState} {e : NodeEvent} (h : NodeStep A cfg s e s')
    {domain origin epoch seq : ℤ}
    (hkey : (Tick.mk s e s').authKey cfg = some [domain, origin, epoch, seq]) :
    (¬ [domain, origin, epoch, seq] ∈ s.secureReplay ∧
      s'.secureReplay = (s.secureReplay.remember [domain, origin, epoch, seq]).2) ∧
    ¬ [origin, seq] ∈ s.seen ∧ s'.seen = (s.seen.remember [origin, seq]).2 := by
  cases h with
  | receive env payload v _ _ h =>
    cases v with
    | dropped | v2 => cases hkey
    | data a =>
      obtain ⟨c, hc, heq⟩ := Option.map_eq_some_iff.mp hkey
      have ha := receive_data_accepts h
      have hdedupe : a.route.dedupeKey = [origin, seq] := by
        simp only [meshAuthKey, List.cons.injEq] at heq
        rw [RouteData.dedupeKey, heq.2.1, heq.2.2.2.1]
      obtain ⟨hclear, -⟩ | ⟨c', secure, hc', -, -, hnew, hreplay⟩ := ha.auth
      · rw [hclear] at hc
        cases hc
      · obtain rfl : c = c' := Option.some.inj (hc.symm.trans hc')
        rw [heq] at hnew hreplay
        have hseen := ha.not_seen
        have hseen' := ha.seen_eq
        rw [hdedupe] at hseen hseen'
        exact ⟨⟨hnew, hreplay⟩, hseen, hseen'⟩
  | sendRoute | sendRouteV2 | sendFailed | idle => cases hkey

/-- **A packet is accepted again only after both windows forgot it**: between the
two acceptances at least as many other keys as each window holds were newly
remembered in it. -/
theorem replay_needs_both_evictions (A : Aead) (cfg : NodeConfig) (originSeq : SeqNo) (now : ℚ)
    (channel : Option ℤ) {pre mid post : List Tick} {first again : Tick} {s' : NodeState}
    (run : NodeRun A cfg (NodeState.initial cfg originSeq now channel)
      (pre ++ first :: (mid ++ again :: post)) s')
    {domain origin epoch seq : ℤ} (hfirst : first.authKey cfg = some [domain, origin, epoch, seq])
    (hagain : again.authKey cfg = some [domain, origin, epoch, seq]) :
    cfg.replayWindow ≤
        ((mid.flatMap Tick.newReplay).toFinset.erase [domain, origin, epoch, seq]).card ∧
      cfg.seenLimit ≤ ((mid.flatMap Tick.newSeen).toFinset.erase [origin, seq]).card := by
  obtain ⟨hpre, hstep₁, hmid, hstep₂⟩ := run.between
  obtain ⟨⟨hnew, hreplay⟩, hunseen, hseen⟩ := hstep₁.authKey_windows hfirst
  obtain ⟨⟨hgone, -⟩, hforgotten, -⟩ := hstep₂.authKey_windows hagain
  have hreplay_limit : first.before.secureReplay.limit = cfg.replayWindow :=
    hpre.traces_replay.limit_eq
  have hseen_limit : first.before.seen.limit = cfg.seenLimit := hpre.traces_seen.limit_eq
  have hmid_replay := hmid.traces_replay
  have hmid_seen := hmid.traces_seen
  rw [hreplay] at hmid_replay
  rw [hseen] at hmid_seen
  constructor
  · by_contra hlt
    exact hgone (hmid_replay.mem_of_card_lt hnew (hreplay_limit ▸ not_le.mp hlt))
  · by_contra hlt
    exact hforgotten (hmid_seen.mem_of_card_lt hunseen (hseen_limit ▸ not_le.mp hlt))

/-! ### A replay that succeeds -/

/-- A node whose two windows hold one key each. -/
def forgetfulNode : NodeConfig :=
  { NodeConfig.sampleMember 1 senderId_one with
    seenLimit := 1
    replayWindow := 1
    seenLimit_pos := Nat.one_pos
    replayWindow_pos := Nat.one_pos }

/-- The state it starts in. -/
def forgetfulStart : NodeState :=
  NodeState.initial forgetfulNode .one 0 none

/-- Packet 7 of node 2, its packet 8, and packet 7 again. -/
def replayedFrames : List (Env × Bytes) :=
  [(Env.sample, sealedFrame Aead.checksum 2 7 3 [104, 105]),
    (Env.sample, sealedFrame Aead.checksum 2 8 3 [104, 105]),
    (Env.sample, sealedFrame Aead.checksum 2 7 3 [104, 105])]

/-- Both packets are accepted, and the first one once more. -/
theorem replayedFrames_ticks :
    ∃ t₁ t₂ t₃, receiveTicks Aead.checksum forgetfulNode forgetfulStart replayedFrames = [t₁, t₂, t₃] ∧
      t₁.authKey forgetfulNode = some [secDomainMeshGroup, 2, 1, 7] ∧
      t₂.authKey forgetfulNode = some [secDomainMeshGroup, 2, 1, 8] ∧
      t₃.authKey forgetfulNode = some [secDomainMeshGroup, 2, 1, 7] := by
  have h : (receiveTicks Aead.checksum forgetfulNode forgetfulStart replayedFrames).map
      (Tick.authKey forgetfulNode) =
        [some [secDomainMeshGroup, 2, 1, 7], some [secDomainMeshGroup, 2, 1, 8],
          some [secDomainMeshGroup, 2, 1, 7]] := by
    decide +kernel
  obtain ⟨t₁, _, hticks, h₁, h⟩ := List.map_eq_cons_iff.mp h
  obtain ⟨t₂, _, rfl, h₂, h⟩ := List.map_eq_cons_iff.mp h
  obtain ⟨t₃, _, rfl, h₃, h⟩ := List.map_eq_cons_iff.mp h
  obtain rfl := List.map_eq_nil_iff.mp h
  exact ⟨t₁, t₂, t₃, hticks, h₁, h₂, h₃⟩

/-- **Not every run accepts each authenticated packet at most once.** -/
theorem replay_accepted_again :
    ¬ ∀ (ticks : List Tick) (s' : NodeState),
      NodeRun Aead.checksum forgetfulNode forgetfulStart ticks s' →
        (ticks.filterMap (Tick.authKey forgetfulNode)).Nodup := by
  intro hnodup
  obtain ⟨s', hrun⟩ := receiveTicks_run Aead.checksum forgetfulNode forgetfulStart replayedFrames
  obtain ⟨t₁, t₂, t₃, hticks, h₁, h₂, h₃⟩ := replayedFrames_ticks
  have h := hnodup _ s' hrun
  simp only [hticks, List.filterMap_cons, h₁, h₂, h₃, List.filterMap_nil] at h
  exact absurd h (by decide)

/-- Between the two acceptances packet 8 passed through both windows. -/
theorem replay_needs_both_evictions_sample :
    ∃ t₁ t₂ t₃, receiveTicks Aead.checksum forgetfulNode forgetfulStart replayedFrames = [t₁, t₂, t₃] ∧
      1 ≤ (([t₂].flatMap Tick.newReplay).toFinset.erase [secDomainMeshGroup, 2, 1, 7]).card ∧
      1 ≤ (([t₂].flatMap Tick.newSeen).toFinset.erase [2, 7]).card := by
  obtain ⟨s', hrun⟩ := receiveTicks_run Aead.checksum forgetfulNode forgetfulStart replayedFrames
  obtain ⟨t₁, t₂, t₃, hticks, h₁, -, h₃⟩ := replayedFrames_ticks
  rw [hticks] at hrun
  have hrun' : NodeRun Aead.checksum forgetfulNode forgetfulStart
    ([] ++ t₁ :: ([t₂] ++ t₃ :: [])) s' := hrun
  exact ⟨t₁, t₂, t₃, hticks, replay_needs_both_evictions Aead.checksum forgetfulNode _ _ _ hrun' h₁ h₃⟩

end KovaWfb
