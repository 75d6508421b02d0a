/-
# A rejected frame is a no-op on the routing state

Of the receive branch of `python/examples/mesh_txrx.py` (lines 2284 to 2606): a
frame that ends in a rejection, other than the drop of an own route, leaves the
dedupe set, the replay window and the three sequence counters as they were and
transmits nothing.  All it can leave behind is the note that its sender was heard.

No part of the branch reads that note, so two states that differ in it deal with
every later frame alike (`receive_related`).  The proof follows the branch one
statement at a time, with the rules of `Relational`; the clocks and the nonce of the
two runs may differ, and the nonce decides the bytes of a re-encrypted payload
only.
-/

import KovaWfb.Lib.Relational
import KovaWfb.Mesh.Run

namespace KovaWfb

open Relational

/-! ### States that differ in the link health only -/

/-- The two states agree on everything but the link health. -/
structure SameRouting (s t : NodeState) : Prop where
  seen : t.seen = s.seen
  secureReplay : t.secureReplay = s.secureReplay
  nextOriginSeq : t.nextOriginSeq = s.nextOriginSeq
  nextOuterSeq : t.nextOuterSeq = s.nextOuterSeq
  nextRfSeq : t.nextRfSeq = s.nextRfSeq
  currentChannel : t.currentChannel = s.currentChannel

theorem SameRouting.refl (s : NodeState) : SameRouting s s := ⟨rfl, rfl, rfl, rfl, rfl, rfl⟩

/-- A step that reads and writes no link health keeps the agreement. -/
theorem SameRouting.map {f : NodeState → NodeState}
    (hf : ∀ s h, f { s with linkHealth := h } = { f s with linkHealth := h }) (s t : NodeState)
    (h : SameRouting s t) : SameRouting (f s) (f t) := by
  have ht : t = { s with linkHealth := t.linkHealth } := by
    obtain ⟨h1, h2, h3, h4, h5, h6⟩ := h
    cases t
    cases s
    simp only at h1 h2 h3 h4 h5 h6
    subst h1 h2 h3 h4 h5 h6
    rfl
  rw [ht, hf s t.linkHealth]
  exact ⟨rfl, rfl, rfl, rfl, rfl, rfl⟩

theorem SameRouting.notePeer {cfg : NodeConfig} {env env' : Env} {peer peer' : ℤ} (s t : NodeState)
    (h : SameRouting s t) : SameRouting (s.notePeer cfg env peer) (t.notePeer cfg env' peer') :=
  ⟨h.seen, h.secureReplay, h.nextOriginSeq, h.nextOuterSeq, h.nextRfSeq, h.currentChannel⟩

theorem SameRouting.rememberSeen {key : List ℤ} :
    ∀ s t, SameRouting s t → SameRouting (s.rememberSeen key) (t.rememberSeen key) :=
  SameRouting.map fun _ _ => rfl

theorem SameRouting.rememberReplay {key : List ℤ} :
    ∀ s t, SameRouting s t → SameRouting (s.rememberReplay key) (t.rememberReplay key) :=
  SameRouting.map fun _ _ => rfl

theorem SameRouting.advanceTx : ∀ s t, SameRouting s t → SameRouting s.advanceTx t.advanceTx :=
  SameRouting.map fun _ _ => rfl

/-! ### Rules for the Python layer -/

section Rules

variable {σ α β : Type} {R : σ → σ → Prop} {V : α → β → Prop}

theorem related_liftM {x : Py α} {y : Py β} (h : Alike V x y) :
    Related R V (liftM x : PyM σ α) (liftM y) := by
  intro s t hR
  rw [PyM.monadLift_apply, PyM.monadLift_apply]
  cases h with
  | ok hV => exact .ok hV hR
  | error e => exact .error hR

theorem related_exceptAppFrameError {x : PyM σ α} {y : PyM σ β} (h : Related R V x y) :
    Related R (Alike V) (PyM.exceptAppFrameError x) (PyM.exceptAppFrameError y) := by
  intro s t hR
  unfold PyM.exceptAppFrameError
  have hxy := h s t hR
  cases hx : x s with
  | ok a s' =>
    cases hy : y t with
    | ok b t' =>
      rw [hx, hy] at hxy
      cases hxy with
      | ok hV hR' => exact .ok (.ok hV) hR'
    | error e t' =>
      rw [hx, hy] at hxy
      cases hxy
  | error e s' =>
    cases hy : y t with
    | ok b t' =>
      rw [hx, hy] at hxy
      cases hxy
    | error e' t' =>
      rw [hx, hy] at hxy
      cases hxy with
      | error hR' =>
        cases e with
        | appFrameError msg => exact .ok (.error msg) hR'
        | _ => exact .error hR'

end Rules

/-! ### The parts of the branch -/

section Parts

variable {A : Aead} {cfg : NodeConfig} {env env' : Env}

/-- Payloads of one length, and the same one when the nonces are equal. -/
structure SamePayload (env env' : Env) (p q : Bytes) : Prop where
  length_eq : p.length = q.length
  eq_of_nonce : env.urandom = env'.urandom → p = q

theorem SamePayload.append_left {p q : Bytes} (h : SamePayload env env' p q) (header : Bytes) :
    SamePayload env env' (header ++ p) (header ++ q) :=
  ⟨by rw [List.length_append, List.length_append, h.length_eq],
    fun hn => by rw [h.eq_of_nonce hn]⟩

theorem encodeFrame_alike {senderId appSeq flags : ℤ} {m : NameOrInt} {p q : Bytes}
    (h : SamePayload env env' p q) :
    Alike (SamePayload env env') (encodeFrame senderId m appSeq p flags)
      (encodeFrame senderId m appSeq q flags) := by
  unfold encodeFrame
  rw [h.length_eq]
  refine .bind_same fun _ => .bind_same fun _ => .bind_same fun _ => .bind_same fun _ => ?_
  refine .bind_same fun _ => .bind_same fun _ => .bind_same fun header => ?_
  exact .ok (h.append_left header)

theorem encodeRouteDataPayload_alike {origin destination ttl seq : ℤ} {m : NameOrInt} {p q : Bytes}
    (h : SamePayload env env' p q) :
    Alike (SamePayload env env') (encodeRouteDataPayload origin destination ttl seq m p)
      (encodeRouteDataPayload origin destination ttl seq m q) := by
  unfold encodeRouteDataPayload
  rw [h.length_eq]
  refine .bind_same fun _ => .bind_same fun _ => .bind_same fun _ => .bind_same fun _ => ?_
  refine .bind_same fun _ => .bind_same fun _ => .bind_same fun _ => .bind_same fun _ => ?_
  refine .bind_same fun header => ?_
  exact .ok (h.append_left header)

/-- The nonce decides the bytes of a protected payload, not their number. -/
theorem encryptMeshPayload_alike (hA : A.LengthPreserving chacha20Poly1305TagSize)
    {origin destination ttl seq innerType : ℤ} {p : Bytes} :
    Alike (SamePayload env env') (encryptMeshPayload A cfg env origin destination ttl seq innerType p)
      (encryptMeshPayload A cfg env' origin destination ttl seq innerType p) := by
  unfold encryptMeshPayload
  cases cfg.meshCryptoFor innerType with
  | none => exact .ok ⟨rfl, fun _ => rfl⟩
  | some c =>
    refine .bind_same fun aad => ?_
    rw [c.encodeSecurePayload_eq, c.encodeSecurePayload_eq]
    refine .ok ⟨?_, fun hn => by rw [hn]⟩
    rw [(c.wrap_valid hA env.urandom_length).length_bytes,
      (c.wrap_valid hA env'.urandom_length).length_bytes]
    simp only [CryptoConfig.wrap, hA.length_encrypt]

theorem txSend_alike {p q : Bytes} (hradio : env.radio = env'.radio)
    (h : SamePayload env env' p q) (seq : ℤ) :
    Alike (fun _ _ => True) (txSend env ⟨p, seq⟩) (txSend env' ⟨q, seq⟩) := by
  unfold txSend
  rw [h.length_eq, hradio]
  refine .bind_same fun _ => ?_
  cases env'.radio with
  | none => exact .ok trivial
  | some error => exact .error _

theorem requireFresh_related (key : List ℤ) :
    Related SameRouting (· = ·) (requireFresh key) (requireFresh key) := by
  intro s t hR
  rw [requireFresh_apply, requireFresh_apply, hR.secureReplay]
  split
  · exact .error hR
  · exact .ok rfl (hR.rememberReplay s t)

theorem decryptMeshPayload_related (r : RouteData) :
    Related SameRouting (· = ·) (decryptMeshPayload A cfg r) (decryptMeshPayload A cfg r) := by
  unfold decryptMeshPayload
  cases cfg.meshCryptoFor r.innerType with
  | none => exact .pure rfl
  | some c =>
    refine (related_liftM (.refl _)).bind fun opened _ h => ?_
    subst h
    exact (requireFresh_related _).bind fun _ _ _ => .pure rfl

theorem decryptE2ePayload_related (r : RouteDataV2) :
    Related SameRouting (· = ·) (decryptE2ePayload A cfg r) (decryptE2ePayload A cfg r) := by
  refine (related_liftM (.refl _)).bind fun opened _ h => ?_
  subst h
  exact (requireFresh_related _).bind fun _ _ _ => .pure rfl

/-- What a node makes of a delivered payload depends on the wall clock and the
channel. -/
theorem deliverRouteData_related (r : RouteData) (p : Bytes) :
    Related SameRouting (fun d d' => env.utcMs = env'.utcMs → d = d')
      (deliverRouteData cfg env r p) (deliverRouteData cfg env' r p) := by
  intro s t hR
  unfold deliverRouteData
  split
  · exact .ok (fun _ => rfl) hR
  · split
    · obtain ⟨sync, -, hsync⟩ | ⟨msg, -, hsync⟩ :=
        PyM.exceptAppFrameError_lift_bind (decodeSyncPayload_onlyAppFrameError p)
      · rw [hsync, hsync]
        refine .ok (fun hutc => ?_) hR
        rw [hutc, hR.currentChannel]
      · rw [hsync, hsync]
        exact .ok (fun _ => rfl) hR
    · split
      · obtain ⟨status, -, hstatus⟩ | ⟨msg, -, hstatus⟩ :=
          PyM.exceptAppFrameError_lift_bind (decodeStatusPayload_onlyAppFrameError p)
        · rw [hstatus, hstatus]
          exact .ok (fun _ => rfl) hR
        · rw [hstatus, hstatus]
          exact .ok (fun _ => rfl) hR
      · exact .ok (fun _ => rfl) hR

/-- Both runs forward, or neither; the same frame when the nonces are equal. -/
structure SameForward (env env' : Env) (f f' : Option RadioFrame) : Prop where
  isSome_eq : f.isSome = f'.isSome
  eq_of_nonce : env.urandom = env'.urandom → f = f'

theorem forwardRouteData_related (hA : A.LengthPreserving chacha20Poly1305TagSize)
    (hradio : env.radio = env'.radio) (r : RouteData) (p : Bytes) :
    Related SameRouting (SameForward env env') (forwardRouteData A cfg env r p)
      (forwardRouteData A cfg env' r p) := by
  unfold forwardRouteData
  split
  · exact .pure ⟨rfl, fun _ => rfl⟩
  · refine .get_bind fun s t hst => ?_
    rw [hst.nextOuterSeq, hst.nextRfSeq]
    refine (related_liftM (.refl _)).bind fun hop _ h => ?_
    subst h
    refine (related_liftM (encryptMeshPayload_alike hA)).bind fun inner inner' hinner => ?_
    refine (related_liftM (encodeRouteDataPayload_alike hinner)).bind fun packet packet' hpacket => ?_
    refine (related_liftM (encodeFrame_alike hpacket)).bind fun frame frame' hframe => ?_
    refine (related_liftM (txSend_alike hradio hframe _)).bind fun _ _ _ => ?_
    refine .modify_bind SameRouting.advanceTx (.pure ⟨rfl, fun hn => ?_⟩)
    rw [hframe.eq_of_nonce hn]

/-- A `route_v2` payload is not protected again, so its forward is the same whatever
the nonce. -/
theorem forwardRouteV2_related (hradio : env.radio = env'.radio) (r : RouteDataV2) :
    Related SameRouting (· = ·) (forwardRouteV2 cfg env r) (forwardRouteV2 cfg env' r) := by
  unfold forwardRouteV2
  split
  · exact .pure rfl
  · refine .get_bind fun s t hst => ?_
    rw [hst.nextOuterSeq, hst.nextRfSeq]
    refine (related_liftM (.refl _)).bind fun hop _ h => ?_
    subst h
    refine (related_liftM (.refl _)).bind fun packet _ h => ?_
    subst h
    refine (related_liftM (.refl _)).bind fun frame _ h => ?_
    subst h
    refine (related_liftM (txSend_alike hradio ⟨rfl, fun _ => rfl⟩ _)).bind fun _ _ _ => ?_
    exact .modify_bind SameRouting.advanceTx (.pure rfl)

end Parts

/-! ### The whole branch -/

/-- The two runs decide alike: the frame is dropped for the same reason, or the same
packet is accepted with the same plaintext and forwarded by both or by neither.  What
the nonce or the wall clock goes into is equal when these are. -/
inductive SameDecision (env env' : Env) : Verdict → Verdict → Prop
  | dropped (d : Drop) : SameDecision env env' (.dropped d) (.dropped d)
  | data (route : RouteData) (plaintext : Bytes) (secured : Bool) (delivery delivery' : Delivery)
      (f f' : Option RadioFrame) (hdelivery : env.utcMs = env'.utcMs → delivery = delivery')
      (hforward : SameForward env env' f f') :
      SameDecision env env' (.data ⟨route, plaintext, secured, delivery, f⟩)
        (.data ⟨route, plaintext, secured, delivery', f'⟩)
  | v2 (route : RouteDataV2) (secure : SecurePayload) (plaintext : Option Bytes) (delivered : Bool)
      (posted posted' tapped tapped' : Option JsonFields) (f : Option RadioFrame)
      (hposted : env.utcMs = env'.utcMs → posted = posted')
      (htapped : env.utcMs = env'.utcMs → tapped = tapped') :
      SameDecision env env' (.v2 ⟨route, secure, plaintext, delivered, posted, tapped, f⟩)
        (.v2 ⟨route, secure, plaintext, delivered, posted', tapped', f⟩)

section Branch

variable {A : Aead} {cfg : NodeConfig} {env env' : Env}

theorem receiveRouteData_related (hA : A.LengthPreserving chacha20Poly1305TagSize)
    (hradio : env.radio = env'.radio) (frame : AppFrame) :
    Related SameRouting (SameDecision env env') (receiveRouteData A cfg env frame)
      (receiveRouteData A cfg env' frame) := by
  refine (related_exceptAppFrameError (related_liftM (.refl _))).bind fun _ _ hroute => ?_
  cases hroute with
  | error msg => exact .pure (.dropped _)
  | @ok route _ h =>
    subst h
    refine .modify_bind SameRouting.notePeer ?_
    by_cases hown : route.originSenderId = cfg.senderId
    · simp only [if_pos hown]
      exact .modify_bind SameRouting.rememberSeen (.pure (.dropped _))
    · simp only [if_neg hown]
      refine .get_bind fun s t hst => ?_
      rw [hst.seen]
      by_cases hseen : route.dedupeKey ∈ s.seen
      · simp only [if_pos hseen]
        exact .pure (.dropped _)
      · simp only [if_neg hseen]
        refine (related_exceptAppFrameError (decryptMeshPayload_related _)).bind fun _ _ hdec => ?_
        cases hdec with
        | error msg => exact .pure (.dropped _)
        | @ok opened _ h =>
          subst h
          refine .modify_bind SameRouting.rememberSeen ?_
          refine (deliverRouteData_related _ _).bind fun d d' hdelivery => ?_
          refine (forwardRouteData_related hA hradio _ _).bind fun f f' hforward => ?_
          exact .pure (.data _ _ _ _ _ _ _ hdelivery hforward)

theorem relayRouteV2_related (hradio : env.radio = env'.radio) (r : RouteDataV2)
    (secure : SecurePayload) (p : Option Bytes) :
    Related SameRouting (SameDecision env env') (relayRouteV2 cfg env r secure p)
      (relayRouteV2 cfg env' r secure p) := by
  refine .get_bind fun s t hst => ?_
  have hupload : ∀ enabled, env.utcMs = env'.utcMs →
      uploadTo enabled cfg env s r = uploadTo enabled cfg env' t r := fun enabled hutc => by
    rw [uploadTo, uploadTo, buildC2Upload, buildC2Upload, hutc, hst.currentChannel]
  refine (forwardRouteV2_related hradio r).bind fun f _ h => ?_
  subst h
  exact .pure (.v2 _ _ _ _ _ _ _ _ _ (hupload _) (hupload _))

theorem receiveRouteV2_related (hradio : env.radio = env'.radio) (frame : AppFrame) :
    Related SameRouting (SameDecision env env') (receiveRouteV2 A cfg env frame)
      (receiveRouteV2 A cfg env' frame) := by
  refine (related_exceptAppFrameError (related_liftM (.refl _))).bind fun _ _ hroute => ?_
  cases hroute with
  | error msg => exact .pure (.dropped _)
  | @ok route _ h =>
    subst h
    refine .modify_bind SameRouting.notePeer ?_
    by_cases hown : routeV2IsOwn cfg route
    · simp only [if_pos hown]
      exact .modify_bind SameRouting.rememberSeen (.pure (.dropped _))
    · simp only [if_neg hown]
      refine .get_bind fun s t hst => ?_
      rw [hst.seen]
      by_cases hseen : route.dedupeKey ∈ s.seen
      · simp only [if_pos hseen]
        exact .pure (.dropped _)
      · simp only [if_neg hseen]
        refine (related_exceptAppFrameError (related_liftM (.refl _))).bind fun _ _ hsecure => ?_
        cases hsecure with
        | error msg => exact .pure (.dropped _)
        | @ok secure _ h =>
          subst h
          by_cases hkey : routeV2Delivered cfg route = true ∧
              (e2eCryptoForInbound cfg route secure).isSome = true
          · simp only [if_pos hkey]
            refine (related_exceptAppFrameError (decryptE2ePayload_related _)).bind
              fun _ _ hdec => ?_
            cases hdec with
            | error msg => exact .pure (.dropped _)
            | @ok opened _ h =>
              subst h
              exact .modify_bind SameRouting.rememberSeen (relayRouteV2_related hradio _ _ _)
          · simp only [if_neg hkey]
            exact .modify_bind SameRouting.rememberSeen (relayRouteV2_related hradio _ _ _)

/-- **Two states that differ in the link health deal with a frame alike.** -/
theorem receive_related (hA : A.LengthPreserving chacha20Poly1305TagSize)
    (hradio : env.radio = env'.radio) (payload : Bytes) :
    Related SameRouting (SameDecision env env') (receive A cfg env payload)
      (receive A cfg env' payload) := by
  refine (related_exceptAppFrameError (related_liftM (.refl _))).bind fun _ _ hframe => ?_
  cases hframe with
  | error msg => exact .pure (.dropped _)
  | @ok frame _ h =>
    subst h
    by_cases hv2 : frame.messageType = msgRouteV2
    · simp only [if_pos hv2]
      exact receiveRouteV2_related hradio frame
    · by_cases hdata : frame.messageType ≠ msgRouteData
      · simp only [if_neg hv2, if_pos hdata]
        exact .pure (.dropped _)
      · simp only [if_neg hv2, if_neg hdata]
        exact receiveRouteData_related hA hradio frame

end Branch

/-! ### Rejection -/

/-- The frame was one of the node's own packets coming back. -/
def Verdict.isOwn : Verdict → Bool
  | .dropped .ownRoute | .dropped .ownRouteV2 => true
  | _ => false

/-- The node rejected the frame: it was not accepted and was no own packet. -/
structure Verdict.Rejected (v : Verdict) : Prop where
  not_accepted : v.accepted = false
  not_own : v.isOwn = false

variable {A : Aead} {cfg : NodeConfig} {env : Env}

/-- **A rejected frame leaves the routing state as it was.** -/
theorem receive_rejected {payload : Bytes} {s s' : NodeState} {v : Verdict}
    (h : receive A cfg env payload s = .ok v s') (hv : v.Rejected) :
    SameRouting s s' ∧ v.sent = none := by
  have hnote : ∀ peer, SameRouting s (s.notePeer cfg env peer) := fun _ => ⟨rfl, rfl, rfl, rfl, rfl, rfl⟩
  obtain ⟨haccepted, hown⟩ := hv
  cases receive_eq_ok_iff.mp h with
  | invalid | other => exact ⟨.refl s, rfl⟩
  | v2 f _ _ _ _ hreceive =>
    cases hreceive with
    | invalid => exact ⟨.refl s, rfl⟩
    | duplicate | invalidE2e | authFail => exact ⟨hnote _, rfl⟩
    | own => cases hown
    | accepted => cases haccepted
  | data f _ _ _ _ hreceive =>
    cases hreceive with
    | invalid => exact ⟨.refl s, rfl⟩
    | duplicate | authFail => exact ⟨hnote _, rfl⟩
    | own => cases hown
    | accepted => cases haccepted

/-- **A rejected frame is a no-op**: the dedupe set, the replay window and the counters
stay, nothing is transmitted, and every later frame meets the decision, the state and,
for the same nonce, the transmitted bytes it would have met without the rejected one. -/
theorem receive_rejected_noop (hA : A.LengthPreserving chacha20Poly1305TagSize) (cfg : NodeConfig)
    (env : Env) (rejected : Bytes) (s s' : NodeState) (v : Verdict)
    (h : receive A cfg env rejected s = .ok v s') (hv : v.Rejected) :
    SameRouting s s' ∧ v.sent = none ∧
      ∀ (env₁ env₂ : Env) (later : Bytes), env₁.radio = env₂.radio →
        Agree SameRouting (SameDecision env₁ env₂) (receive A cfg env₁ later s)
          (receive A cfg env₂ later s') := by
  obtain ⟨hsame, hsent⟩ := receive_rejected h hv
  exact ⟨hsame, hsent, fun env₁ env₂ later hradio => receive_related hA hradio later s s' hsame⟩

/-- A data packet whose last byte was changed on the way. -/
def corruptedFrame : Bytes := (sealedFrame Aead.checksum 2 7 3 [104, 105]).dropLast ++ [0]

/-- A relay rejects the corrupted packet and goes on as if it had not come. -/
theorem receive_rejected_noop_sample :
    ∃ v s', receive Aead.checksum sampleRelay Env.sample corruptedFrame
        (NodeState.initial sampleRelay .one 0 none) = .ok v s' ∧
      SameRouting (NodeState.initial sampleRelay .one 0 none) s' ∧ v.sent = none ∧
      ∀ (env₁ env₂ : Env) (later : Bytes), env₁.radio = env₂.radio →
        Agree SameRouting (SameDecision env₁ env₂)
          (receive Aead.checksum sampleRelay env₁ later (NodeState.initial sampleRelay .one 0 none))
          (receive Aead.checksum sampleRelay env₂ later s') := by
  have hrun : (resultValue? (receive Aead.checksum sampleRelay Env.sample corruptedFrame
      (NodeState.initial sampleRelay .one 0 none))).map (fun v => (v.accepted, v.isOwn)) =
        some (false, false) := by
    decide +kernel
  obtain ⟨v, s', h, hv⟩ := exists_eq_ok_of_map hrun
  obtain ⟨haccepted, hown⟩ := Prod.mk.inj hv
  exact ⟨v, s', h, receive_rejected_noop Aead.checksum_lawful.toCorrect.toLengthPreserving sampleRelay
    Env.sample corruptedFrame _ s' v h ⟨haccepted, hown⟩⟩

end KovaWfb
