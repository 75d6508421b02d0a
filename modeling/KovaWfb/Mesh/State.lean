/-
# A mesh node: configuration, state and surroundings

`python/examples/mesh_txrx.py`: the configuration `main` accepts (lines 1012 to
1340), the state its loop mutates (1343 to 1420), the sequence numbers (260 to
266), the peer table of the link tracker (135 to 184) and the hop schedule (480
to 495).

What `main` checks before it starts the loop is a field of the configuration, and
a sequence number carries its range, so every state of this type is one a running
node can be in.
-/

import KovaWfb.Lib.FifoSet
import KovaWfb.AppProto.Secure
import Mathlib.Data.Rat.Defs

namespace KovaWfb

/-! ### Sequence numbers -/

/-- `_next_seq`. -/
def nextSeq (seq : ℤ) : ℤ :=
  let seq := (seq + 1) % (maxU32 + 1)
  if seq = 0 then 1 else seq

/-- A sequence number in use: 32 bits and not zero. -/
structure SeqNo where
  value : ℤ
  one_le : 1 ≤ value
  le_max : value ≤ maxU32
  deriving DecidableEq

theorem one_le_nextSeq (seq : ℤ) : 1 ≤ nextSeq seq := by
  have h : 0 ≤ (seq + 1) % (maxU32 + 1) := Int.emod_nonneg _ (by decide)
  simp only [nextSeq]
  split <;> omega

theorem nextSeq_le (seq : ℤ) : nextSeq seq ≤ maxU32 := by
  have h : (seq + 1) % (maxU32 + 1) < maxU32 + 1 := Int.emod_lt_of_pos _ (by decide)
  simp only [nextSeq, maxU32] at h ⊢
  split <;> omega

/-- The sequence number the counters start at. -/
def SeqNo.one : SeqNo := ⟨1, by decide, by decide⟩

/-- The sequence number after this one. -/
def SeqNo.next (s : SeqNo) : SeqNo := ⟨nextSeq s.value, one_le_nextSeq _, nextSeq_le _⟩

theorem SeqNo.fits (s : SeqNo) : FitsWidth 4 s.value := by
  have h1 := s.one_le
  have h2 := s.le_max
  simp only [maxU32] at h2
  exact ⟨by omega, by omega⟩

/-! ### Configuration -/

/-- `class MeshCryptoConfig` and `class E2ECryptoConfig`: a key and what names it,
as `main` accepts them. -/
structure CryptoConfig where
  securityDomain : ℤ
  keyId : ℤ
  keyEpoch : ℤ
  key : Bytes
  domain_registered : securityDomains.Has securityDomain
  keyId_range : 1 ≤ keyId ∧ keyId ≤ maxU16
  keyEpoch_range : 0 ≤ keyEpoch ∧ keyEpoch ≤ maxU32
  key_length : key.length = chacha20Poly1305KeySize

theorem CryptoConfig.domain_fits (c : CryptoConfig) : FitsWidth 1 c.securityDomain :=
  c.domain_registered.fits securityDomains_bytewise

theorem CryptoConfig.keyId_fits (c : CryptoConfig) : FitsWidth 2 c.keyId := by
  have h := c.keyId_range
  simp only [maxU16] at h
  exact ⟨by omega, by omega⟩

theorem CryptoConfig.keyEpoch_fits (c : CryptoConfig) : FitsWidth 4 c.keyEpoch := by
  have h := c.keyEpoch_range
  simp only [maxU32] at h
  exact ⟨by omega, by omega⟩

/-- A key table: `dict` from (domain, key id, epoch), the newest entry first. -/
abbrev Keyring := List CryptoConfig

/-- `keyring.get((domain, key_id, key_epoch))`. -/
def Keyring.get (ring : Keyring) (domain keyId keyEpoch : ℤ) : Option CryptoConfig :=
  ring.find? fun c => c.securityDomain = domain ∧ c.keyId = keyId ∧ c.keyEpoch = keyEpoch

theorem Keyring.get_eq_some {ring : Keyring} {domain keyId keyEpoch : ℤ} {c : CryptoConfig}
    (h : ring.get domain keyId keyEpoch = some c) :
    c ∈ ring ∧ c.securityDomain = domain ∧ c.keyId = keyId ∧ c.keyEpoch = keyEpoch := by
  refine ⟨List.mem_of_find?_eq_some h, ?_⟩
  simpa only [decide_eq_true_eq] using List.find?_some h

/-- The arguments of `_schedule_state` that `main` accepts for channel agility. -/
structure HopSchedule where
  channels : List ℤ
  slotMs : ℤ
  epochMs : ℤ
  channels_ne : channels ≠ []
  channels_pos : ∀ channel ∈ channels, 0 < channel
  slotMs_pos : 0 < slotMs

/-- What `main` has accepted when the loop starts. -/
structure NodeConfig where
  senderId : ℤ
  originType : ℤ
  meshCrypto : Option CryptoConfig
  c2UplinkCrypto : Option CryptoConfig
  c2DownlinkCrypto : Option CryptoConfig
  c2UplinkKeyring : Keyring
  c2DownlinkKeyring : Keyring
  seenLimit : ℕ
  replayWindow : ℕ
  peerTimeoutS : ℚ
  schedule : Option HopSchedule
  c2HttpForward : Bool
  localC2Tap : Bool
  senderId_range : 1 ≤ senderId ∧ senderId ≤ 255
  originType_fits : FitsWidth 1 originType
  originType_ne : originType ≠ addrBroadcast
  meshCrypto_domain : ∀ c ∈ meshCrypto, c.securityDomain = secDomainMeshGroup
  c2UplinkCrypto_domain : ∀ c ∈ c2UplinkCrypto, c.securityDomain = secDomainNodeToC2
  c2DownlinkCrypto_domain : ∀ c ∈ c2DownlinkCrypto, c.securityDomain = secDomainC2ToNode
  c2UplinkKeyring_domain : ∀ c ∈ c2UplinkKeyring, c.securityDomain = secDomainNodeToC2
  c2DownlinkKeyring_domain : ∀ c ∈ c2DownlinkKeyring, c.securityDomain = secDomainC2ToNode
  seenLimit_pos : 0 < seenLimit
  replayWindow_pos : 0 < replayWindow

theorem NodeConfig.senderId_fits (cfg : NodeConfig) : FitsWidth 1 cfg.senderId := by
  have h := cfg.senderId_range
  exact ⟨by omega, by omega⟩

theorem NodeConfig.senderId_ne (cfg : NodeConfig) : cfg.senderId ≠ 0 := by
  have h := cfg.senderId_range
  omega

/-- The key that protects `route_data` packets of this inner type, if any: sync
beacons stay in the clear. -/
def NodeConfig.meshCryptoFor (cfg : NodeConfig) (innerType : ℤ) : Option CryptoConfig :=
  if innerType = msgSync then none else cfg.meshCrypto

/-- A mesh key to run the model with. -/
def CryptoConfig.sample : CryptoConfig where
  securityDomain := secDomainMeshGroup
  keyId := 1
  keyEpoch := 1
  key := sampleKey
  domain_registered := by decide
  keyId_range := by decide
  keyEpoch_range := by decide
  key_length := length_sampleKey

/-- Two sender ids. -/
theorem senderId_one : (1 : ℤ) ≤ 1 ∧ (1 : ℤ) ≤ 255 := by decide
theorem senderId_two : (1 : ℤ) ≤ 2 ∧ (2 : ℤ) ≤ 255 := by decide

/-- A node to run the model with: no keys, no uploads, no hopping, windows of four
entries. -/
def NodeConfig.sample (senderId : ℤ) (hid : 1 ≤ senderId ∧ senderId ≤ 255) : NodeConfig where
  senderId := senderId
  originType := addrNode
  meshCrypto := none
  c2UplinkCrypto := none
  c2DownlinkCrypto := none
  c2UplinkKeyring := []
  c2DownlinkKeyring := []
  seenLimit := 4
  replayWindow := 4
  peerTimeoutS := 5
  schedule := none
  c2HttpForward := false
  localC2Tap := false
  senderId_range := hid
  originType_fits := by decide
  originType_ne := by decide
  meshCrypto_domain := nofun
  c2UplinkCrypto_domain := nofun
  c2DownlinkCrypto_domain := nofun
  c2UplinkKeyring_domain := nofun
  c2DownlinkKeyring_domain := nofun
  seenLimit_pos := by decide
  replayWindow_pos := by decide

/-- A node to run the model with that is in the mesh group. -/
def NodeConfig.sampleMember (senderId : ℤ) (hid : 1 ≤ senderId ∧ senderId ≤ 255) : NodeConfig :=
  { NodeConfig.sample senderId hid with
    meshCrypto := some CryptoConfig.sample
    meshCrypto_domain := fun c hc => by obtain rfl := Option.some.inj hc; rfl }

/-- A key towards the C2 side to run the model with: the same key bytes in another
domain. -/
def CryptoConfig.sampleUplink : CryptoConfig :=
  { CryptoConfig.sample with
    securityDomain := secDomainNodeToC2
    domain_registered := by decide }

/-- A node to run the model with that has both sample keys. -/
def NodeConfig.sampleOrigin (senderId : ℤ) (hid : 1 ≤ senderId ∧ senderId ≤ 255) : NodeConfig :=
  { NodeConfig.sampleMember senderId hid with
    c2UplinkCrypto := some CryptoConfig.sampleUplink
    c2UplinkCrypto_domain := fun c hc => by obtain rfl := Option.some.inj hc; rfl }

/-- A C2 endpoint to run the model with that has the key of the sample node. -/
def NodeConfig.sampleC2 : NodeConfig :=
  { NodeConfig.sample 1 senderId_one with
    originType := addrC2
    originType_fits := by decide
    originType_ne := by decide
    c2UplinkKeyring := [CryptoConfig.sampleUplink]
    c2UplinkKeyring_domain := fun c hc => by obtain rfl := List.mem_singleton.mp hc; rfl }

/-! ### Surroundings -/

/-- What the outside world answers during one step: the random nonce, the result
of the radio call (`none`: sent), the monotonic clock and the wall clock. -/
structure Env where
  urandom : Bytes
  urandom_length : urandom.length = chacha20Poly1305NonceSize
  radio : Option String
  monotonic : ℚ
  utcMs : ℤ

/-- Surroundings to run the model in: a constant nonce, a working radio, clocks at
zero. -/
def Env.sample : Env where
  urandom := List.replicate chacha20Poly1305NonceSize 9
  urandom_length := List.length_replicate
  radio := none
  monotonic := 0
  utcMs := 0

/-- `class ScheduleState`. -/
structure ScheduleState where
  utcMs : ℤ
  slot : ℤ
  slotElapsedMs : ℤ
  channel : ℤ
  nextHopMs : ℤ
  deriving DecidableEq

/-- `_schedule_state`: the slot is not negative and the list not empty, so the
index is in range. -/
def HopSchedule.state (h : HopSchedule) (nowMs : ℤ) : ScheduleState :=
  let elapsedMs := max 0 (nowMs - h.epochMs)
  let slot := elapsedMs / h.slotMs
  let slotElapsedMs := elapsedMs % h.slotMs
  { utcMs := nowMs, slot, slotElapsedMs,
    channel := h.channels.get ⟨slot.toNat % h.channels.length,
      Nat.mod_lt _ (List.length_pos_iff.mpr h.channels_ne)⟩,
    nextHopMs := h.slotMs - slotElapsedMs }

/-! ### State -/

/-- The part of `LinkHealthTracker` that received frames write. -/
structure LinkHealth where
  lastLinkSeenAt : ℚ
  peersLastSeen : List (ℤ × ℚ)

/-- `peers_last_seen[peer_id] = now`: a known peer keeps its place. -/
def setPeer (peerId : ℤ) (now : ℚ) : List (ℤ × ℚ) → List (ℤ × ℚ)
  | [] => [(peerId, now)]
  | (p, t) :: rest => if p = peerId then (p, now) :: rest else (p, t) :: setPeer peerId now rest

theorem mem_setPeer (peer : ℤ) (now : ℚ) (peers : List (ℤ × ℚ)) :
    (peer, now) ∈ setPeer peer now peers := by
  induction peers with
  | nil => exact List.mem_singleton_self _
  | cons entry peers ih =>
    by_cases heq : entry.1 = peer
    · rw [setPeer, if_pos heq, heq]
      exact List.mem_cons_self ..
    · rw [setPeer, if_neg heq]
      exact List.mem_cons_of_mem _ ih

theorem mem_of_mem_setPeer {peer : ℤ} {now : ℚ} {peers : List (ℤ × ℚ)} {entry : ℤ × ℚ}
    (h : entry ∈ setPeer peer now peers) : entry = (peer, now) ∨ entry ∈ peers := by
  induction peers with
  | nil => exact Or.inl (List.mem_singleton.mp h)
  | cons first peers ih =>
    by_cases heq : first.1 = peer
    · rw [setPeer, if_pos heq, heq] at h
      exact (List.mem_cons.mp h).imp_right (List.mem_cons_of_mem _)
    · rw [setPeer, if_neg heq] at h
      rcases List.mem_cons.mp h with rfl | h
      · exact Or.inr (List.mem_cons_self ..)
      · exact (ih h).imp_right (List.mem_cons_of_mem _)

/-- `LinkHealthTracker._prune_stale_peers`. -/
def LinkHealth.pruneStalePeers (timeoutS now : ℚ) (h : LinkHealth) : LinkHealth :=
  { h with peersLastSeen := h.peersLastSeen.filter fun entry => ¬ entry.2 < now - timeoutS }

/-- `LinkHealthTracker.note_peer`. -/
def LinkHealth.notePeer (senderId : ℤ) (timeoutS : ℚ) (peerId : ℤ) (now : ℚ) (h : LinkHealth) :
    LinkHealth :=
  if peerId = senderId then h
  else LinkHealth.pruneStalePeers timeoutS now
    { lastLinkSeenAt := now, peersLastSeen := setPeer peerId now h.peersLastSeen }

/-- What the loop of `main` mutates.  `SeenRoutes` and `ReplayWindow` are both a
`FifoSet` of keys. -/
structure NodeState where
  seen : FifoSet (List ℤ)
  secureReplay : FifoSet (List ℤ)
  nextOriginSeq : SeqNo
  nextOuterSeq : SeqNo
  nextRfSeq : SeqNo
  linkHealth : LinkHealth
  currentChannel : Option ℤ

namespace NodeState

/-- The state `main` enters the loop with; `_initial_seq` draws the origin
sequence number. -/
def initial (cfg : NodeConfig) (originSeq : SeqNo) (now : ℚ) (channel : Option ℤ) : NodeState where
  seen := FifoSet.empty cfg.seenLimit cfg.seenLimit_pos
  secureReplay := FifoSet.empty cfg.replayWindow cfg.replayWindow_pos
  nextOriginSeq := originSeq
  nextOuterSeq := .one
  nextRfSeq := .one
  linkHealth := { lastLinkSeenAt := now, peersLastSeen := [] }
  currentChannel := channel

/-- `link_health.note_peer(frame.sender_id, time.monotonic())`. -/
def notePeer (cfg : NodeConfig) (env : Env) (peerId : ℤ) (s : NodeState) : NodeState :=
  { s with linkHealth := s.linkHealth.notePeer cfg.senderId cfg.peerTimeoutS peerId env.monotonic }

/-- `seen.remember(key)`, the result unused. -/
def rememberSeen (key : List ℤ) (s : NodeState) : NodeState :=
  { s with seen := (s.seen.remember key).2 }

/-- `secure_replay.remember(key)`, for its effect. -/
def rememberReplay (key : List ℤ) (s : NodeState) : NodeState :=
  { s with secureReplay := (s.secureReplay.remember key).2 }

/-- The counters after a frame was handed to the radio. -/
def advanceTx (s : NodeState) : NodeState :=
  { s with nextOuterSeq := s.nextOuterSeq.next, nextRfSeq := s.nextRfSeq.next }

/-- The counter after an origination. -/
def advanceOrigin (s : NodeState) : NodeState := { s with nextOriginSeq := s.nextOriginSeq.next }

end NodeState

end KovaWfb
