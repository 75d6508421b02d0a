/-
# Flood safety

What one origination can cause in a network of `python/examples/mesh_txrx.py`
nodes, whatever the order, loss and duplication of deliveries (`flood_safety`).
Every copy is the originated packet with its ttl lowered by its hops.  The origin
does not take part again, and another node takes part once for as long as its dedupe
window keeps the key, which it does while fewer than `seen_limit` other keys are
newly remembered (`Reachable.accepts_again`).  So as many copies are transmitted as
there are nodes, at most.
-/

import KovaWfb.Mesh.Network
import Mathlib.Data.Fintype.Card

namespace KovaWfb

variable {ι : Type*} {A : Aead} {cfg : ι → NodeConfig}

/-- No node protects the packet; a `route_v2` packet is relayed as it is in any
case. -/
def Packet.Unprotected (cfg : ι → NodeConfig) : Packet → Prop
  | .data r => ∀ i, (cfg i).meshCryptoFor r.innerType = none
  | .v2 _ => True

theorem Packet.Unprotected.relayable {p : Packet} (h : p.Unprotected cfg) : p.Relayable A cfg := by
  cases p with
  | data r => exact ⟨fun i j => (h i).trans (h j).symm, fun i hne => absurd (h i) hne⟩
  | v2 r => trivial

/-- The turn accepted a copy that goes back to origination `m`. -/
def Turn.acceptsRoot (m : ℕ) (t : Turn ι) : Bool :=
  match t.copy, t.tick.event with
  | some (_, c), .received _ _ v => decide (c.root = m) && v.accepted
  | _, _ => false

namespace Network

/-- **What a turn that accepts a copy did**: its node is not the origin, did not
hold the packet's key, and remembered it. -/
theorem Sound.of_acceptsRoot {w : Network ι} (hw : Sound A cfg w) {m : ℕ} {i : ι} {p : Packet}
    (hm : w.originations[m]? = some (i, p)) (hp : p.Relayable A cfg) {t : Turn ι}
    (ht : t ∈ w.turns) (haccepts : t.acceptsRoot m = true) :
    ¬ p.IsOwn (cfg t.node) ∧ ¬ p.dedupeKey ∈ t.tick.before.seen ∧
      t.tick.after.seen = (t.tick.before.seen.remember p.dedupeKey).2 := by
  unfold Turn.acceptsRoot at haccepts
  split at haccepts
  · rename_i k c env payload v hcopy hevent
    simp only [Bool.and_eq_true, decide_eq_true_eq] at haccepts
    obtain ⟨hroot, hv⟩ := haccepts
    obtain ⟨hk, env', v', hevent', hreceive⟩ := hw.received t ht k c hcopy
    obtain ⟨-, -, rfl⟩ := NodeEvent.received.inj (hevent.symm.trans hevent')
    obtain ⟨i', p', hm', hcarried⟩ := hw.carried c (List.mem_of_getElem? hk)
    rw [hroot, hm] at hm'
    obtain ⟨rfl, rfl⟩ := Prod.mk.inj (Option.some.inj hm')
    exact (hcarried hp).accepted hreceive hv
  · cases haccepts

section Acceptances

variable [DecidableEq ι] {start : NetworkStart ι}

/-- The keys a node newly remembered in a stretch of turns. -/
def newSeenOf (turns : List (Turn ι)) (j : ι) : List (List ℤ) :=
  (ticksOf turns j).flatMap Tick.newSeen

theorem ticksOf_cons_self (t : Turn ι) (turns : List (Turn ι)) :
    ticksOf (t :: turns) t.node = t.tick :: ticksOf turns t.node := by
  simp [ticksOf]

/-- **A node accepts a packet again only after its dedupe window forgot it**: in
between, at least as many other keys as the window holds were newly remembered. -/
theorem Reachable.accepts_again {w : Network ι} (h : Reachable A cfg start w) {m : ℕ} {i : ι}
    {p : Packet} (hm : w.originations[m]? = some (i, p)) (hp : p.Relayable A cfg)
    {pre mid post : List (Turn ι)} {t₁ t₂ : Turn ι}
    (hturns : w.turns = pre ++ t₁ :: (mid ++ t₂ :: post)) (hnode : t₂.node = t₁.node)
    (h₁ : t₁.acceptsRoot m = true) (h₂ : t₂.acceptsRoot m = true) :
    (cfg t₁.node).seenLimit ≤ ((newSeenOf mid t₁.node).toFinset.erase p.dedupeKey).card := by
  have hmem₁ : t₁ ∈ w.turns := hturns ▸ List.mem_append_right _ (List.mem_cons_self ..)
  have hmem₂ : t₂ ∈ w.turns := hturns ▸ List.mem_append_right _
    (List.mem_cons_of_mem _ (List.mem_append_right _ (List.mem_cons_self ..)))
  have hrun := h.nodeRun t₁.node
  rw [hturns, ticksOf_append, ticksOf_cons_self, ticksOf_append, ← hnode, ticksOf_cons_self,
    hnode] at hrun
  obtain ⟨hpre, -, hmid, -⟩ := hrun.between
  obtain ⟨-, hnew, hseen⟩ := h.sound.of_acceptsRoot hm hp hmem₁ h₁
  obtain ⟨-, hforgotten, -⟩ := h.sound.of_acceptsRoot hm hp hmem₂ h₂
  have hlimit : t₁.tick.before.seen.limit = (cfg t₁.node).seenLimit := hpre.traces_seen.limit_eq
  have hmid_seen := hmid.traces_seen
  rw [hseen] at hmid_seen
  by_contra hlt
  exact hforgotten (hmid_seen.mem_of_card_lt hnew (hlimit ▸ not_le.mp hlt))

/-- Node `j` newly remembered fewer than `seen_limit` other keys since it first
accepted the packet originated as number `m`. -/
def Undisturbed (cfg : ι → NodeConfig) (w : Network ι) (m : ℕ) (key : List ℤ) (j : ι) : Prop :=
  ∀ pre t post, w.turns = pre ++ t :: post → t.node = j → t.acceptsRoot m = true →
    (∀ u ∈ pre, ¬ (u.node = j ∧ u.acceptsRoot m = true)) →
    ((newSeenOf post j).toFinset.erase key).card < (cfg j).seenLimit

/-- The turns in which node `j` accepted the packet. -/
def acceptances (w : Network ι) (m : ℕ) (j : ι) : List (Turn ι) :=
  w.turns.filter fun t => t.node = j ∧ t.acceptsRoot m = true

/-- **An undisturbed node accepts the packet at most once.** -/
theorem Reachable.acceptances_le_one {w : Network ι} (h : Reachable A cfg start w) {m : ℕ} {i : ι}
    {p : Packet} (hm : w.originations[m]? = some (i, p)) (hp : p.Relayable A cfg) {j : ι}
    (hj : Undisturbed cfg w m p.dedupeKey j) : (w.acceptances m j).length ≤ 1 := by
  match hacc : w.acceptances m j with
  | [] => exact Nat.zero_le 1
  | [_] => exact le_rfl
  | t₁ :: t₂ :: rest =>
    -- The first two acceptances, with what lies around them.
    obtain ⟨pre, tail, hturns, hpre, h₁, htail⟩ := List.filter_eq_cons_iff.mp hacc
    obtain ⟨mid, post, rfl, -, h₂, -⟩ := List.filter_eq_cons_iff.mp htail
    simp only [decide_eq_true_eq] at h₁ h₂ hpre
    have hagain := h.accepts_again hm hp hturns (h₂.1.trans h₁.1.symm) h₁.2 h₂.2
    have hroom := hj pre t₁ _ hturns h₁.1 h₁.2 hpre
    rw [h₁.1] at hagain
    have hsub : (newSeenOf mid j).toFinset.erase p.dedupeKey ⊆
        (newSeenOf (mid ++ t₂ :: post) j).toFinset.erase p.dedupeKey := by
      refine Finset.erase_subset_erase _ fun k hk => ?_
      rw [List.mem_toFinset] at hk ⊢
      rw [newSeenOf, ticksOf_append, List.flatMap_append]
      exact List.mem_append_left _ hk
    exact absurd (hagain.trans (Finset.card_le_card hsub)) (not_le.mpr hroom)

end Acceptances

/-! ### How many copies there are -/

/-- Who transmitted copies of origination `m`. -/
def sendersOf (w : Network ι) (m : ℕ) : List ι :=
  (w.sent.filter fun c => c.root = m).map (·.sender)

/-- Who accepted a copy of origination `m`. -/
def acceptersOf (w : Network ι) (m : ℕ) : List ι :=
  (w.turns.filter fun t => t.acceptsRoot m).map (·.node)

/-- **Whoever transmitted a copy originated or accepted the packet**, once for every
copy. -/
def SendersAccount (w : Network ι) : Prop :=
  ∀ m i p, w.originations[m]? = some (i, p) → (w.sendersOf m).Sublist (i :: w.acceptersOf m)

theorem SendersAccount.originate {w : Network ι} (hw : Sound A cfg w) (h : w.SendersAccount) (i : ι)
    (p : Packet) (frame : RadioFrame) : (w.originate i p frame).SendersAccount := by
  intro m j q hm
  have hsenders : (w.originate i p frame).sendersOf m =
      w.sendersOf m ++ if w.originations.length = m then [i] else [] := by
    by_cases heq : w.originations.length = m <;> simp [sendersOf, Network.originate, heq]
  rw [hsenders]
  by_cases heq : w.originations.length = m
  · -- The new origination: no copy goes back to it yet.
    have hnone : w.sendersOf m = [] := by
      rw [sendersOf, List.map_eq_nil_iff, List.filter_eq_nil_iff]
      intro c hc hroot
      obtain ⟨_, _, hsome, -⟩ := hw.carried c hc
      rw [of_decide_eq_true hroot, ← heq] at hsome
      exact absurd (List.getElem?_eq_some_iff.mp hsome).1 (lt_irrefl _)
    have hj : j = i := by
      subst heq
      simp only [Network.originate, List.getElem?_concat_length, Option.some.injEq,
        Prod.mk.injEq] at hm
      exact hm.1.symm
    rw [hnone, if_pos heq, hj]
    exact (List.nil_sublist _).cons_cons i
  · have hm' : w.originations[m]? = some (j, q) := by
      have hlt := (List.getElem?_eq_some_iff.mp hm).1
      simp only [Network.originate, List.length_append, List.length_singleton] at hlt hm
      rwa [List.getElem?_append_left (by omega)] at hm
    rw [if_neg heq, List.append_nil]
    exact h m j q hm'

/-- What was sent was accepted. -/
theorem accepted_of_sent {v : Verdict} {f : RadioFrame} (h : v.sent = some f) : v.accepted = true := by
  cases v with
  | dropped => cases h
  | data | v2 => rfl

variable [DecidableEq ι] {start : NetworkStart ι}

theorem acceptersOf_turn_none (w : Network ι) (m : ℕ) (i : ι) (e : NodeEvent) (s' : NodeState) :
    (w.turn i e s' none).acceptersOf m = w.acceptersOf m := by
  simp [acceptersOf, turn, Turn.acceptsRoot]

/-- **One step keeps the account.** -/
theorem Step.sendersAccount {w w' : Network ι} (h : Step A cfg w w') (hw : Sound A cfg w)
    (haccount : w.SendersAccount) : w'.SendersAccount := by
  cases h with
  | sendRoute i env innerType payload destinationId ttl sent s' h =>
    intro m j q hm
    rw [acceptersOf_turn_none]
    exact haccount.originate hw i _ _ m j q hm
  | sendRouteV2 i env innerType payload destinationType destinationId ttl trafficClass sent s' h =>
    intro m j q hm
    rw [acceptersOf_turn_none]
    exact haccount.originate hw i _ _ m j q hm
  | other i e s' he h =>
    intro m j q hm
    rw [acceptersOf_turn_none]
    exact haccount m j q hm
  | receive i env k c v s' hc h =>
    intro m j q hm
    have hsenders : ((w.forward i c v).turn i (.received env c.payload v) s' (some (k, c))).sendersOf
        m = w.sendersOf m ++ if c.root = m ∧ v.sent.isSome then [i] else [] := by
      cases hsent : v.sent <;> by_cases hroot : c.root = m <;>
        simp [sendersOf, Network.turn, Network.forward, hsent, hroot]
    have haccepters :
        ((w.forward i c v).turn i (.received env c.payload v) s' (some (k, c))).acceptersOf m =
          w.acceptersOf m ++ if c.root = m ∧ v.accepted = true then [i] else [] := by
      by_cases hroot : c.root = m <;> by_cases hv : v.accepted = true <;>
        simp [acceptersOf, Network.turn, Network.forward, Turn.acceptsRoot, hroot, hv]
    rw [hsenders, haccepters, ← List.cons_append]
    refine (haccount m j q hm).append ?_
    by_cases hboth : c.root = m ∧ v.sent.isSome
    · obtain ⟨f, hf⟩ := Option.isSome_iff_exists.mp hboth.2
      rw [if_pos hboth, if_pos ⟨hboth.1, accepted_of_sent hf⟩]
    · rw [if_neg hboth]
      exact List.nil_sublist _

theorem Reachable.sendersAccount {w : Network ι} (h : Reachable A cfg start w) :
    w.SendersAccount := by
  induction h with
  | start => exact fun m i p hm => by cases hm
  | step h hstep ih => exact hstep.sendersAccount h.sound ih

/-- A copy that was forwarded was transmitted by a node that accepted the packet. -/
theorem Reachable.forwarder_accepted {w : Network ι} (h : Reachable A cfg start w) :
    ∀ c ∈ w.sent, 0 < c.hops → ∃ t ∈ w.turns, t.node = c.sender ∧ t.acceptsRoot c.root = true := by
  have hkeep : ∀ {turns turns' : List (Turn ι)} {c : Copy ι},
      (∃ t ∈ turns, t.node = c.sender ∧ t.acceptsRoot c.root = true) →
      ∃ t ∈ turns ++ turns', t.node = c.sender ∧ t.acceptsRoot c.root = true := by
    rintro turns turns' c ⟨t, ht, hrest⟩
    exact ⟨t, List.mem_append_left _ ht, hrest⟩
  induction h with
  | start => exact fun c hc => by cases hc
  | step _ hstep ih =>
    cases hstep with
    | sendRoute | sendRouteV2 =>
      intro c hc hpos
      rcases List.mem_append.mp hc with hc | hc
      · exact hkeep (ih c hc hpos)
      · obtain rfl := List.mem_singleton.mp hc
        exact absurd hpos (lt_irrefl 0)
    | other => exact fun c hc hpos => hkeep (ih c hc hpos)
    | receive i env k d v s' hd h =>
      intro c hc hpos
      rcases List.mem_append.mp hc with hc | hc
      · exact hkeep (ih c hc hpos)
      · obtain ⟨f, hf, rfl⟩ := List.mem_map.mp hc
        refine ⟨_, List.mem_append_right _ (List.mem_singleton_self _), rfl, ?_⟩
        simp [Turn.acceptsRoot, accepted_of_sent (Option.mem_toList.mp hf)]

theorem count_acceptersOf (w : Network ι) (m : ℕ) (j : ι) :
    (w.acceptersOf m).count j = (w.acceptances m j).length := by
  rw [acceptersOf, acceptances, List.count_eq_countP, List.countP_map, List.countP_filter,
    ← List.countP_eq_length_filter]
  refine List.countP_congr fun t _ => ?_
  simp

/-- **An undisturbed node transmits one copy at most.** -/
theorem Reachable.count_sendersOf_le_one {w : Network ι} (h : Reachable A cfg start w) {m : ℕ} {i : ι}
    {p : Packet} (hm : w.originations[m]? = some (i, p)) (hp : p.Relayable A cfg) {j : ι}
    (hj : Undisturbed cfg w m p.dedupeKey j) : (w.sendersOf m).count j ≤ 1 := by
  have hle := (h.sendersAccount m i p hm).count_le j
  refine hle.trans ?_
  by_cases hij : i = j
  · -- The origin accepts nothing.
    have hnone : (w.acceptersOf m).count j = 0 := by
      rw [List.count_eq_zero]
      intro hmem
      obtain ⟨t, ht, htj⟩ := List.mem_map.mp hmem
      obtain ⟨ht, haccepts⟩ := List.mem_filter.mp ht
      have hown := h.sound.own i p (List.mem_of_getElem? hm)
      obtain ⟨hnot, -⟩ := h.sound.of_acceptsRoot hm hp ht haccepts
      rw [htj, ← hij] at hnot
      exact hnot hown
    rw [hij, List.count_cons_self, hnone]
  · rw [List.count_cons_of_ne hij, count_acceptersOf]
    exact h.acceptances_le_one hm hp hj

end Network

/-- **Flood safety**, for one origination of an unprotected packet: every copy
carries the packet with one hop less for each forward, and no more forwards than its
ttl; the origin does not accept or forward it; a node accepts and transmits it at
most once while it newly remembers fewer than `seen_limit` other keys; and if that
goes for all nodes, there are at most as many copies as nodes. -/
theorem flood_safety [Fintype ι] [DecidableEq ι] (A : Aead) (cfg : ι → NodeConfig)
    (start : NetworkStart ι) {w : Network ι} (hw : Network.Reachable A cfg start w) {m : ℕ} {i : ι}
    {p : Packet} (hm : w.originations[m]? = some (i, p)) (hp : p.Unprotected cfg) :
    (∀ c ∈ w.sent, c.root = m → (p.afterHops c.hops).FramedIn c.payload ∧ (c.hops : ℤ) ≤ p.ttl) ∧
    (∀ t ∈ w.turns, t.acceptsRoot m = true → t.node ≠ i) ∧
    (∀ c ∈ w.sent, c.root = m → 0 < c.hops → c.sender ≠ i) ∧
    (∀ j, w.Undisturbed cfg m p.dedupeKey j →
      (w.acceptances m j).length ≤ 1 ∧ (w.sendersOf m).count j ≤ 1) ∧
    ((∀ j, w.Undisturbed cfg m p.dedupeKey j) → (w.sendersOf m).length ≤ Fintype.card ι) := by
  have hrelay : p.Relayable A cfg := hp.relayable
  have hown := hw.sound.own i p (List.mem_of_getElem? hm)
  have hnot_origin : ∀ t ∈ w.turns, t.acceptsRoot m = true → t.node ≠ i := by
    rintro t ht haccepts rfl
    exact (hw.sound.of_acceptsRoot hm hrelay ht haccepts).1 hown
  refine ⟨fun c hc hroot => ?_, hnot_origin, fun c hc hroot hpos => ?_, fun j hj => ?_, fun hall => ?_⟩
  · obtain ⟨i', p', hm', hcarried⟩ := hw.sound.carried c hc
    rw [hroot, hm] at hm'
    obtain ⟨rfl, rfl⟩ := Prod.mk.inj (Option.some.inj hm')
    have hc' := hcarried hrelay
    refine ⟨?_, hc'.hops_le⟩
    cases p with
    | data r => exact hc'.framedIn (hp i)
    | v2 r => exact hc'
  · obtain ⟨t, ht, hnode, haccepts⟩ := hw.forwarder_accepted c hc hpos
    rw [← hnode]
    exact hnot_origin t ht (hroot ▸ haccepts)
  · exact ⟨hw.acceptances_le_one hm hrelay hj, hw.count_sendersOf_le_one hm hrelay hj⟩
  · have hnodup : (w.sendersOf m).Nodup :=
      List.nodup_iff_count_le_one.mpr fun j => hw.count_sendersOf_le_one hm hrelay (hall j)
    exact hnodup.length_le_card

/-! ### A network of four nodes -/

/-- Four nodes by the part they play: `hub` connects `edge` to the other two. -/
inductive SampleNode
  | origin
  | relay
  | hub
  | edge
  deriving DecidableEq

instance : Fintype SampleNode :=
  ⟨{.origin, .relay, .hub, .edge}, fun j => by cases j <;> decide⟩

/-- Their sender ids. -/
def SampleNode.senderId : SampleNode → ℤ
  | origin => 1
  | relay => 2
  | hub => 3
  | edge => 4

theorem SampleNode.senderId_range (j : SampleNode) : 1 ≤ j.senderId ∧ j.senderId ≤ 255 := by
  cases j <;> decide

/-- None of them has a mesh key. -/
def sampleNodes (j : SampleNode) : NodeConfig := NodeConfig.sample j.senderId j.senderId_range

/-- All of them start in the same way. -/
def sampleNodesStart : NetworkStart SampleNode := ⟨fun _ => .one, fun _ => 0, fun _ => none⟩

/-- The packet `origin` sends, with ttl 1. -/
def samplePacket : Packet := .data ⟨1, 0, 1, 1, msgData, [104, 105]⟩

/-- `relay` gets the packet and forwards it; `hub` gets the forwarded copy before the
originated one. -/
def sampleSchedule : List (Network.Command SampleNode) :=
  [.originate .origin msgData [104, 105] 0 1, .deliver .relay 0, .deliver .hub 1, .deliver .hub 0,
    .deliver .origin 1]

/-- A packet reaches the hub by the relay and directly and comes back to its origin, which does not
accept it. -/
theorem flood_safety_sample :
    ∃ w, Network.Reachable Aead.checksum sampleNodes sampleNodesStart w ∧ w.turns.length = 5 ∧
      (∀ c ∈ w.sent, c.root = 0 →
        (samplePacket.afterHops c.hops).FramedIn c.payload ∧ (c.hops : ℤ) ≤ samplePacket.ttl) ∧
      ∀ t ∈ w.turns, t.acceptsRoot 0 = true → t.node ≠ .origin := by
  have hrun : ((Network.initial sampleNodes sampleNodesStart).execAll Aead.checksum sampleNodes
      Env.sample sampleSchedule).map (fun w => (w.originations, w.turns.length)) =
        some ([(.origin, samplePacket)], 5) := by
    decide +kernel
  obtain ⟨w, hexec, hfacts⟩ := Option.map_eq_some_iff.mp hrun
  obtain ⟨horiginations, hturns⟩ := Prod.mk.inj hfacts
  have hw : Network.Reachable Aead.checksum sampleNodes sampleNodesStart w := .execAll .start hexec
  have hm : w.originations[0]? = some (.origin, samplePacket) := by rw [horiginations]; rfl
  have hclear : samplePacket.Unprotected sampleNodes := fun _ => rfl
  obtain ⟨hcopies, horigin, -⟩ :=
    flood_safety Aead.checksum sampleNodes sampleNodesStart hw hm hclear
  exact ⟨w, hw, hturns, hcopies, horigin⟩

end KovaWfb
