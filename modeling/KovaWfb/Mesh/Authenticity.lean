/-
# Authenticity of the secure mesh

Nodes of `python/examples/mesh_txrx.py` that share a mesh key, with an adversary
who has no key and decides what every node receives.  The cipher is ideal: what a
received wrapper holds opens only as something that was encrypted, under the same
key and associated data (`OpensOnlyAsSealed`).

The world keeps, next to the nodes, every encryption performed so far and every
origination.  A relay decrypts, lowers the ttl and encrypts again, so the invariant
is about all encryptions: each one under the mesh key and the associated data of a
packet goes back to an origination of that packet with at least its ttl
(`MeshWorld.Authentic`).  The encryptions of a step are those of the source
(`encryptMeshSealings`, `encryptE2eSealings`), and the associated data tells which
packet an encryption was for, also when the same key bytes serve another domain.
-/

import KovaWfb.Mesh.Run

namespace KovaWfb

/-- One call of `send_route`: its arguments and the sequence number it drew. -/
structure Origination where
  destinationId : ℤ
  ttl : ℤ
  originSeq : ℤ
  innerType : ℤ
  plaintext : Bytes
  deriving DecidableEq

/-- The mesh: its nodes, the encryptions and the originations so far. -/
structure MeshWorld (ι : Type*) where
  node : ι → NodeState
  encrypted : List Sealed
  originated : List (ι × Origination)

/-- On this payload the cipher is ideal for `key`: the wrapper it carries opens only
as what was encrypted. -/
def OpensOnlyAsSealed (A : Aead) (log : List Sealed) (key : Bytes) (payload : Bytes) : Prop :=
  ∀ r secure, CarriesRoute payload r → decodeSecurePayload r.innerPayload = .ok secure →
    A.OpensOnly log key secure.nonce secure.ciphertextAndTag

/-- The encryptions performed while a payload was dealt with: the one of the
forward. -/
def Verdict.sealings (A : Aead) (cfg : NodeConfig) (env : Env) : Verdict → List Sealed
  | .data a =>
      if 0 < a.route.ttl then
        encryptMeshSealings A cfg env
          ((a.route.hop a.plaintext).binding a.plaintext.length) a.plaintext
      else []
  | _ => []

section Mesh

variable {ι : Type*} [DecidableEq ι] (A : Aead) (cfg : ι → NodeConfig) (key : Bytes)

/-- One step of the mesh.  A node originates (also when the call raises later on),
or receives whatever the adversary hands it, or goes on on its own. -/
inductive MeshStep (w : MeshWorld ι) : MeshWorld ι → Prop
  | sendRoute (i : ι) (env : Env) (innerType : ℤ) (payload : Bytes) (destinationId ttl : ℤ) :
      MeshStep w
        { node := Function.update w.node i (resultState
            (sendRoute A (cfg i) env innerType payload destinationId ttl (w.node i)))
          encrypted := w.encrypted ++ encryptMeshSealings A (cfg i) env
            ⟨(cfg i).senderId, destinationId, ttl, (w.node i).nextOriginSeq.value, innerType,
              payload.length⟩ payload
          originated := w.originated ++
            [(i, ⟨destinationId, ttl, (w.node i).nextOriginSeq.value, innerType, payload⟩)] }
  | sendRouteV2 (i : ι) (env : Env) (innerType : ℤ) (payload : Bytes)
      (destinationType destinationId ttl trafficClass : ℤ) :
      MeshStep w
        { w with
          node := Function.update w.node i (resultState (sendRouteV2 A (cfg i) env innerType payload
            destinationType destinationId ttl trafficClass (w.node i)))
          encrypted := w.encrypted ++ encryptE2eSealings A (cfg i) env
            ⟨(cfg i).originType, (cfg i).senderId, destinationType, destinationId,
              (w.node i).nextOriginSeq.value, trafficClass, innerType, payload.length⟩ payload }
  | receive (i : ι) (env : Env) (payload : Bytes) (v : Verdict) (s' : NodeState)
      (hideal : OpensOnlyAsSealed A w.encrypted key payload)
      (h : receive A (cfg i) env payload (w.node i) = .ok v s') :
      MeshStep w
        { w with
          node := Function.update w.node i s'
          encrypted := w.encrypted ++ v.sealings A (cfg i) env }
  | idle (i : ι) (linkHealth : LinkHealth) (channel : Option ℤ) :
      MeshStep w
        { w with
          node := Function.update w.node i { w.node i with linkHealth, currentChannel := channel } }

/-- The worlds a run of the mesh can reach, from nodes in any state and no
encryption yet. -/
inductive MeshReachable : MeshWorld ι → Prop
  | start (node : ι → NodeState) : MeshReachable ⟨node, [], []⟩
  | step {w w' : MeshWorld ι} (h : MeshReachable w) (hstep : MeshStep A cfg key w w') :
      MeshReachable w'

end Mesh

section Authenticity

variable {ι : Type*}

/-- The packet a binding describes was originated, by the node it names, with this
plaintext and at least its ttl. -/
def MeshWorld.Originated (cfg : ι → NodeConfig) (w : MeshWorld ι) (d : RouteBinding)
    (plaintext : Bytes) : Prop :=
  ∃ i o, (i, o) ∈ w.originated ∧ (cfg i).senderId = d.originSenderId ∧
    o.destinationId = d.destinationId ∧ o.originSeq = d.originSeq ∧ o.innerType = d.innerType ∧
    o.plaintext = plaintext ∧ d.ttl ≤ o.ttl

/-- **The invariant**: an encryption under the key and the associated data of a packet
goes back to an origination of the packet. -/
def MeshWorld.Authentic (cfg : ι → NodeConfig) (crypto : CryptoConfig) (w : MeshWorld ι) : Prop :=
  ∀ e ∈ w.encrypted, ∀ d : RouteBinding, d.Fits → e.key = crypto.key →
    e.aad = crypto.authHeader ++ d.bytes → w.Originated cfg d e.plaintext

variable {A : Aead} {cfg : ι → NodeConfig} {crypto : CryptoConfig}

theorem MeshWorld.Originated.mono {w w' : MeshWorld ι} {d : RouteBinding} {p : Bytes}
    (h : w.Originated cfg d p) (hsub : w.originated ⊆ w'.originated) : w'.Originated cfg d p := by
  obtain ⟨i, o, hmem, hrest⟩ := h
  exact ⟨i, o, hsub hmem, hrest⟩

/-- Fewer hops left is implied. -/
theorem MeshWorld.Originated.of_ttl_le {w : MeshWorld ι} {d : RouteBinding} {p : Bytes}
    (h : w.Originated cfg d p) {ttl plaintextLen : ℤ} (httl : ttl ≤ d.ttl) :
    w.Originated cfg { d with ttl, plaintextLen } p := by
  obtain ⟨i, o, hmem, hid, hdest, hseq, htype, hp, hle⟩ := h
  exact ⟨i, o, hmem, hid, hdest, hseq, htype, hp, httl.trans hle⟩

/-- What a node opens was originated, if all encryptions so far are authentic and
the cipher is ideal on what it received. -/
theorem MeshWorld.Authentic.of_open {w : MeshWorld ι} (hw : w.Authentic cfg crypto)
    {payload : Bytes} (hideal : OpensOnlyAsSealed A w.encrypted crypto.key payload) {r : RouteData}
    (hcarries : CarriesRoute payload r) {secure : SecurePayload} {p : Bytes}
    (hopen : openMeshPayload A crypto r = .ok (secure, p)) :
    w.Originated cfg (r.binding secure.plaintextLen) p := by
  obtain ⟨hv, hb, hnames, hfits, hdec⟩ := openMeshPayload_eq_ok_iff.mp hopen
  have hreg : securityDomains.Has secure.securityDomain := by
    rw [hnames.securityDomain]
    exact crypto.domain_registered
  have hmem := hideal r secure hcarries (decodeSecurePayload_eq_ok_iff.mpr ⟨hv, hreg, hb⟩) _ _ hdec
  exact hw _ hmem _ hfits rfl rfl

variable (hkey : ∀ i, (cfg i).meshCrypto = some crypto)

include hkey

/-- With one mesh key, every protected packet is under it. -/
theorem meshCryptoFor_eq_some {i : ι} {innerType : ℤ} {c : CryptoConfig}
    (h : (cfg i).meshCryptoFor innerType = some c) : c = crypto := by
  rw [NodeConfig.meshCryptoFor] at h
  split at h
  · cases h
  · exact Option.some.inj (h.symm.trans (hkey i))

/-- An accepted packet that is no beacon was originated. -/
theorem MeshWorld.Authentic.of_accepted {w : MeshWorld ι} (hw : w.Authentic cfg crypto) {i : ι}
    {env : Env} {payload : Bytes} {a : AcceptedData} {s' : NodeState}
    (hideal : OpensOnlyAsSealed A w.encrypted crypto.key payload)
    (h : receive A (cfg i) env payload (w.node i) = .ok (.data a) s')
    (htype : (cfg i).meshCryptoFor a.route.innerType ≠ none) :
    ∃ n, w.Originated cfg (a.route.binding n) a.plaintext := by
  have ha := receive_data_accepts h
  obtain ⟨hclear, -⟩ | ⟨c, secure, hc, hopen, -⟩ := ha.auth
  · exact absurd hclear htype
  · obtain rfl := meshCryptoFor_eq_some hkey hc
    exact ⟨_, hw.of_open hideal ha.carries hopen⟩

variable [DecidableEq ι]

/-- **One step keeps the invariant.** -/
theorem MeshStep.authentic {w w' : MeshWorld ι} (h : MeshStep A cfg crypto.key w w')
    (hw : w.Authentic cfg crypto) : w'.Authentic cfg crypto := by
  cases h with
  | sendRoute i env innerType payload destinationId ttl =>
    intro e he d hd hek haad
    rcases List.mem_append.mp he with he | he
    · exact (hw e he d hd hek haad).mono (List.subset_append_left _ _)
    · obtain ⟨c, -, hfits, rfl⟩ := mem_encryptMeshSealings.mp he
      obtain rfl := CryptoConfig.sealing_aad_eq hd hfits haad
      exact ⟨i, _, List.mem_append_right _ (List.mem_singleton_self _), rfl, rfl, rfl, rfl, rfl,
        le_rfl⟩
  | sendRouteV2 i env innerType payload destinationType destinationId ttl trafficClass =>
    intro e he d hd hek haad
    rcases List.mem_append.mp he with he | he
    · exact hw e he d hd hek haad
    · obtain ⟨c, -, -, rfl⟩ := mem_encryptE2eSealings.mp he
      exact absurd haad CryptoConfig.sealing_aad_ne
  | receive i env payload v s' hideal h =>
    intro e he d hd hek haad
    rcases List.mem_append.mp he with he | he
    · exact hw e he d hd hek haad
    · cases v with
      | dropped | v2 => cases he
      | data a =>
        simp only [Verdict.sealings] at he
        split at he
        · obtain ⟨c, hc, hfits, rfl⟩ := mem_encryptMeshSealings.mp he
          obtain rfl := CryptoConfig.sealing_aad_eq hd hfits haad
          have hne : (cfg i).meshCryptoFor a.route.innerType ≠ none := fun hnone => by
            cases hc.symm.trans hnone
          obtain ⟨n, horiginated⟩ := hw.of_accepted hkey hideal h hne
          exact horiginated.of_ttl_le (sub_le_self _ zero_le_one)
        · cases he
  | idle i linkHealth channel => exact hw

/-- **Every reachable world is authentic.** -/
theorem MeshReachable.authentic {w : MeshWorld ι} (h : MeshReachable A cfg crypto.key w) :
    w.Authentic cfg crypto := by
  induction h with
  | start node => exact fun e he => by cases he
  | step _ hstep ih => exact hstep.authentic hkey ih

end Authenticity

/-- **Secure mesh authenticity**: in every run, what a node accepts as a protected
packet was originated before, by the one node the packet names, with the same
destination, sequence number, type and plaintext and at least its ttl. -/
theorem mesh_authenticity {ι : Type*} [DecidableEq ι] (A : Aead) (cfg : ι → NodeConfig)
    (crypto : CryptoConfig) (hkey : ∀ i, (cfg i).meshCrypto = some crypto)
    (hids : Function.Injective fun i => (cfg i).senderId) {w : MeshWorld ι}
    (hw : MeshReachable A cfg crypto.key w) {i : ι} {env : Env} {payload : Bytes} {a : AcceptedData}
    {s' : NodeState} (hideal : OpensOnlyAsSealed A w.encrypted crypto.key payload)
    (haccept : receive A (cfg i) env payload (w.node i) = .ok (.data a) s')
    (htype : a.route.innerType ≠ msgSync) :
    ∃ j, (∀ j', (cfg j').senderId = a.route.originSenderId ↔ j' = j) ∧
      ∃ o, (j, o) ∈ w.originated ∧ o.destinationId = a.route.destinationId ∧
        o.originSeq = a.route.originSeq ∧ o.innerType = a.route.innerType ∧
        o.plaintext = a.plaintext ∧ a.route.ttl ≤ o.ttl := by
  have hprotected : (cfg i).meshCryptoFor a.route.innerType ≠ none := by
    rw [NodeConfig.meshCryptoFor, if_neg htype, hkey]
    exact Option.some_ne_none _
  obtain ⟨_, j, o, hmem, hid, hrest⟩ :=
    (hw.authentic hkey).of_accepted hkey hideal haccept hprotected
  refine ⟨j, fun j' => ⟨fun hj' => hids (hj'.trans hid.symm), ?_⟩, o, hmem, hrest⟩
  rintro rfl
  exact hid

/-! ### Node 2 originates, node 1 accepts -/

/-- Two nodes with the sample mesh key: the sample relay, and node 2. -/
def sampleMesh : Bool → NodeConfig
  | false => sampleRelay
  | true => NodeConfig.sampleMember 2 senderId_two

/-- Both nodes in their first state, before any encryption. -/
def sampleWorld : MeshWorld Bool :=
  ⟨fun i => NodeState.initial (sampleMesh i) .one 0 none, [], []⟩

/-- The encryption of node 2's first packet. -/
def sampleSealing : Sealed where
  key := CryptoConfig.sample.key
  nonce := Env.sample.urandom
  aad := CryptoConfig.sample.authHeader ++ RouteBinding.bytes ⟨2, 0, 3, 1, msgData, 2⟩
  plaintext := [104, 105]
  ciphertext := List.replicate 18 0

/-- The cipher that opens nothing else. -/
def sampleCipher : Aead := Aead.table [sampleSealing]

/-- Node 1 accepts the packet that node 2 sealed, and it is the one that node 2 originated. -/
theorem mesh_authenticity_sample :
    ∃ (w : MeshWorld Bool) (a : AcceptedData) (s' : NodeState),
      MeshReachable sampleCipher sampleMesh CryptoConfig.sample.key w ∧
      receive sampleCipher (sampleMesh false) Env.sample (sealedFrame sampleCipher 2 1 3 [104, 105])
        (w.node false) = .ok (.data a) s' ∧
      ∃ j, (∀ j', (sampleMesh j').senderId = a.route.originSenderId ↔ j' = j) ∧
        ∃ o, (j, o) ∈ w.originated ∧ o.destinationId = a.route.destinationId ∧
          o.originSeq = a.route.originSeq ∧ o.innerType = a.route.innerType ∧
          o.plaintext = a.plaintext ∧ a.route.ttl ≤ o.ttl := by
  have hworld : ∃ w, MeshStep sampleCipher sampleMesh CryptoConfig.sample.key sampleWorld w ∧
      w.encrypted = [sampleSealing] ∧ w.node false = sampleWorld.node false :=
    ⟨_, .sendRoute true Env.sample msgData [104, 105] 0 3, by decide +kernel, rfl⟩
  obtain ⟨w, hstep, hlog, hnode⟩ := hworld
  have hw : MeshReachable sampleCipher sampleMesh CryptoConfig.sample.key w := .step (.start _) hstep
  have hrun : ((receiveTicks sampleCipher (sampleMesh false) (w.node false)
      [(Env.sample, sealedFrame sampleCipher 2 1 3 [104, 105])]).map fun t =>
        t.acceptedRoute.map (·.innerType)) = [some msgData] := by
    rw [hnode]
    decide +kernel
  obtain ⟨a, s', haccept, htype⟩ := accepted_of_receiveTicks hrun
  have hideal : OpensOnlyAsSealed sampleCipher w.encrypted CryptoConfig.sample.key
      (sealedFrame sampleCipher 2 1 3 [104, 105]) := by
    intro r secure _ _
    rw [hlog]
    exact Aead.table_opensOnly _ _ _ _
  have hkey : ∀ i, (sampleMesh i).meshCrypto = some CryptoConfig.sample := fun i => by
    cases i <;> rfl
  refine ⟨w, a, s', hw, haccept, mesh_authenticity sampleCipher sampleMesh CryptoConfig.sample hkey
    (by decide) hw hideal haccept ?_⟩
  rw [htype]
  decide

end KovaWfb
