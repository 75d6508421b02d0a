/-
# Sequence numbers are never reused

`python/examples/mesh_txrx.py`: `_next_seq` (lines 260 to 263) and the places that
advance a counter with it, in `send_route` and `send_route_v2` (1880 to 1966) and in
the two forwards (2410 to 2424 and 2585 to 2606).

`_next_seq` walks the numbers `1 .. 2^32-1` in a circle (`nextSeq_iterate`), so fewer
than `2^32-1` steps never return to the same number.  A turn of the loop that hands a
frame to the radio puts the outer and the RF counter into it and advances both; a turn
that originates a packet does the same with the origin counter; every other turn
leaves them (`NodeStep.transmits`, `NodeStep.originates`).  So the numbers along a run
are the iterates of `_next_seq`, in order (`NodeRun.map_eq_iterate`).
-/

import Mathlib.Data.List.Iterate
import KovaWfb.Mesh.Run

namespace KovaWfb

/-! ### The circle of `_next_seq` -/

/-- **`k` steps from `seq`** go round the circle `1 .. 2^32-1`. -/
theorem nextSeq_iterate (seq : SeqNo) (k : ℕ) :
    nextSeq^[k] seq.value = (seq.value - 1 + k) % maxU32 + 1 := by
  have h1 := seq.one_le
  have h2 := seq.le_max
  simp only [maxU32] at h2 ⊢
  induction k with
  | zero =>
    rw [Function.iterate_zero_apply]
    omega
  | succ k ih =>
    rw [Function.iterate_succ_apply', ih]
    simp only [nextSeq, maxU32, Nat.cast_succ]
    split <;> omega

/-- **Fewer than `2^32-1` steps never come back.** -/
theorem nextSeq_iterate_ne (seq : SeqNo) {i j : ℕ} (hij : i < j) (hlt : (j : ℤ) < i + maxU32) :
    nextSeq^[i] seq.value ≠ nextSeq^[j] seq.value := by
  rw [nextSeq_iterate, nextSeq_iterate]
  simp only [maxU32] at hlt ⊢
  omega

/-! ### The numbers in a frame -/

/-- The `app_seq` field of a frame on air. -/
def RadioFrame.appSeq (x : RadioFrame) : ℤ := unpack x.payload 4 4

/-- The `origin_seq` field of the packet in a frame on air. -/
def RadioFrame.originSeq (x : RadioFrame) : ℤ :=
  if unpack x.payload 1 1 = msgRouteV2 then unpack x.payload (headerSize + 6) 4
  else unpack x.payload (headerSize + 3) 4

theorem appSeq_outerFrame {senderId messageType : ℤ} {p : Bytes} {seq : SeqNo} {rf : ℤ} :
    RadioFrame.appSeq ⟨(outerFrame senderId messageType seq.value p).bytes, rf⟩ = seq.value := by
  simp only [RadioFrame.appSeq, outerFrame, AppFrame.bytes, AppFrame.header, packBytes_cons,
    List.append_assoc]
  simp [seq.fits]

theorem originSeq_outerFrame {senderId appSeq rf : ℤ} {r : RouteData} (h : FitsWidth 4 r.originSeq) :
    RadioFrame.originSeq ⟨(outerFrame senderId msgRouteData appSeq r.bytes).bytes, rf⟩ =
      r.originSeq := by
  have htype : FitsWidth 1 msgRouteData := by decide
  simp only [RadioFrame.originSeq, outerFrame, AppFrame.bytes, AppFrame.header, packBytes_cons,
    RouteData.bytes, RouteData.header, List.append_assoc]
  simp [htype, h, headerSize]

theorem originSeq_outerFrameV2 {senderId appSeq rf : ℤ} {r : RouteDataV2}
    (h : FitsWidth 4 r.originSeq) :
    RadioFrame.originSeq ⟨(outerFrame senderId msgRouteV2 appSeq r.bytes).bytes, rf⟩ =
      r.originSeq := by
  have htype : FitsWidth 1 msgRouteV2 := by decide
  simp only [RadioFrame.originSeq, outerFrame, AppFrame.bytes, AppFrame.header, packBytes_cons,
    RouteDataV2.bytes, RouteDataV2.header, List.append_assoc]
  simp [htype, h, headerSize]

/-! ### One turn -/

/-- What a turn that transmits `sent` does to the two transmit counters: a frame
carries both and moves both. -/
inductive Transmits (s s' : NodeState) : Option RadioFrame → Prop
  | silent (houter : s'.nextOuterSeq = s.nextOuterSeq) (hrf : s'.nextRfSeq = s.nextRfSeq) :
      Transmits s s' none
  | sent (x : RadioFrame) (happ : x.appSeq = s.nextOuterSeq.value)
      (hseq : x.seq = s.nextRfSeq.value) (houter : s'.nextOuterSeq = s.nextOuterSeq.next)
      (hrf : s'.nextRfSeq = s.nextRfSeq.next) : Transmits s s' (some x)

/-- Only the transmit counters of the state before matter. -/
theorem Transmits.of_counters {s t s' : NodeState} {f : Option RadioFrame} (h : Transmits t s' f)
    (houter : t.nextOuterSeq = s.nextOuterSeq) (hrf : t.nextRfSeq = s.nextRfSeq) :
    Transmits s s' f := by
  cases h with
  | silent houter' hrf' => exact .silent (houter'.trans houter) (hrf'.trans hrf)
  | sent x happ hseq houter' hrf' =>
    rw [houter] at happ houter'
    rw [hrf] at hseq hrf'
    exact .sent x happ hseq houter' hrf'

/-- What a turn that originates the packet in `sent` does to the origin counter. -/
inductive Originates (s s' : NodeState) : Option RadioFrame → Prop
  | none (horigin : s'.nextOriginSeq = s.nextOriginSeq) : Originates s s' none
  | sent (x : RadioFrame) (hseq : x.originSeq = s.nextOriginSeq.value)
      (horigin : s'.nextOriginSeq = s.nextOriginSeq.next) : Originates s s' (some x)

/-- The frame a turn originated. -/
def NodeEvent.originated : NodeEvent → Option RadioFrame
  | .sentRoute _ _ _ _ _ sent => some sent.frame
  | .sentRouteV2 _ _ _ _ _ _ _ sent => some sent.frame
  | .received _ _ _ | .sendFailed _ | .idle => none

/-- The frame a turn handed to the radio: an origination or a forward. -/
def NodeEvent.transmitted : NodeEvent → Option RadioFrame
  | .received _ _ v => v.sent
  | e => e.originated

variable {A : Aead} {cfg : NodeConfig} {env : Env}

theorem forwardRouteData_transmits {r : RouteData} {p : Bytes} {s s' : NodeState}
    {f : Option RadioFrame} (h : forwardRouteData A cfg env r p s = .ok f s') :
    Transmits s s' f ∧ s'.nextOriginSeq = s.nextOriginSeq := by
  obtain ⟨-, rfl, rfl⟩ | ⟨-, routed, -, -, -, -, -, rfl, rfl⟩ := forwardRouteData_eq_ok_iff.mp h
  · exact ⟨.silent rfl rfl, rfl⟩
  · exact ⟨.sent _ appSeq_outerFrame rfl rfl rfl, rfl⟩

theorem forwardRouteV2_transmits {r : RouteDataV2} (hr : r.Valid) {s s' : NodeState}
    {f : Option RadioFrame} (h : forwardRouteV2 cfg env r s = .ok f s') :
    Transmits s s' f ∧ s'.nextOriginSeq = s.nextOriginSeq := by
  obtain ⟨-, rfl, rfl⟩ | ⟨-, -, -, -, rfl, rfl⟩ := (forwardRouteV2_eq_ok_iff hr).mp h
  · exact ⟨.silent rfl rfl, rfl⟩
  · exact ⟨.sent _ appSeq_outerFrame rfl rfl rfl, rfl⟩

/-- **A received frame** moves the transmit counters exactly when it is forwarded, and
never the origin counter. -/
theorem receive_transmits {payload : Bytes} {s s' : NodeState} {v : Verdict}
    (h : receive A cfg env payload s = .ok v s') :
    Transmits s s' v.sent ∧ s'.nextOriginSeq = s.nextOriginSeq := by
  have hsilent : ∀ t : NodeState, t.nextOuterSeq = s.nextOuterSeq → t.nextRfSeq = s.nextRfSeq →
      t.nextOriginSeq = s.nextOriginSeq →
        Transmits s t none ∧ t.nextOriginSeq = s.nextOriginSeq :=
    fun _ houter hrf horigin => ⟨.silent houter hrf, horigin⟩
  cases receive_eq_ok_iff.mp h with
  | invalid | other => exact hsilent _ rfl rfl rfl
  | v2 f _ _ _ _ hreceive =>
    cases hreceive with
    | invalid | own | duplicate | invalidE2e | authFail => exact hsilent _ rfl rfl rfl
    | accepted a s₁ _ hroute _ _ _ _ hauth _ _ hforward =>
      obtain ⟨hr, -, -, -⟩ := decodeRouteV2Payload_eq_ok_iff.mp hroute
      obtain ⟨htx, horigin⟩ := forwardRouteV2_transmits hr hforward
      obtain ⟨replay, rfl⟩ := AcceptedV2.auth_frame hauth
      exact ⟨htx.of_counters rfl rfl, horigin⟩
  | data f _ _ _ _ hreceive =>
    cases hreceive with
    | invalid | own | duplicate | authFail => exact hsilent _ rfl rfl rfl
    | accepted a s₁ _ hroute _ _ hauth _ hforward =>
      obtain ⟨htx, horigin⟩ := forwardRouteData_transmits hforward
      obtain ⟨replay, rfl⟩ := decryptMeshPayload_frame hauth
      exact ⟨htx.of_counters rfl rfl, horigin⟩

/-- **One turn and the transmit counters.** -/
theorem NodeStep.transmits {s s' : NodeState} {e : NodeEvent} (h : NodeStep A cfg s e s') :
    Transmits s s' e.transmitted := by
  cases h with
  | receive _ _ _ _ _ h => exact (receive_transmits h).1
  | sendRoute _ _ _ _ _ _ _ _ h =>
    obtain ⟨_, -, -, -, -, -, rfl, rfl⟩ := sendRoute_eq_ok.mp h
    exact .sent _ appSeq_outerFrame rfl rfl rfl
  | sendRouteV2 _ _ _ _ _ _ _ _ _ _ h =>
    obtain ⟨_, _, -, -, -, -, -, -, -, rfl, rfl⟩ := sendRouteV2_eq_ok.mp h
    exact .sent _ appSeq_outerFrame rfl rfl rfl
  | sendFailed _ _ _ _ _ _ _ _ _ _ h =>
    obtain rfl : s' = s := h.elim sendRoute_error sendRouteV2_error
    exact .silent rfl rfl
  | idle => exact .silent rfl rfl

/-- **One turn and the origin counter.** -/
theorem NodeStep.originates {s s' : NodeState} {e : NodeEvent} (h : NodeStep A cfg s e s') :
    Originates s s' e.originated := by
  cases h with
  | receive _ _ _ _ _ h => exact .none (receive_transmits h).2
  | sendRoute _ _ _ _ _ _ _ _ h =>
    obtain ⟨_, -, -, -, -, -, rfl, rfl⟩ := sendRoute_eq_ok.mp h
    exact .sent _ (originSeq_outerFrame s.nextOriginSeq.fits) rfl
  | sendRouteV2 _ _ _ _ _ _ _ _ _ _ h =>
    obtain ⟨_, _, -, -, -, -, -, -, -, rfl, rfl⟩ := sendRouteV2_eq_ok.mp h
    exact .sent _ (originSeq_outerFrameV2 s.nextOriginSeq.fits) rfl
  | sendFailed _ _ _ _ _ _ _ _ _ _ h =>
    obtain rfl : s' = s := h.elim sendRoute_error sendRouteV2_error
    exact .none rfl
  | idle => exact .none rfl

/-! ### Runs -/

/-- **The numbers along a run**: when each turn that puts out an `x` gives it the
counter's number and moves the counter, the numbers put out are the iterates of
`_next_seq` from the counter's first value. -/
theorem NodeRun.map_eq_iterate {α : Type} {out : NodeEvent → Option α} {number : α → ℤ}
    (counter : NodeState → SeqNo)
    (hstep : ∀ s e s', NodeStep A cfg s e s' → (out e = none ∧ counter s' = counter s) ∨
      ∃ x, out e = some x ∧ number x = (counter s).value ∧ counter s' = (counter s).next)
    {s s' : NodeState} {ticks : List Tick} (h : NodeRun A cfg s ticks s') :
    (ticks.filterMap fun t => out t.event).map number =
      List.iterate nextSeq (counter s).value (ticks.filterMap fun t => out t.event).length := by
  induction h with
  | nil s => rfl
  | @cons s s' s'' e ticks step _ ih =>
    obtain ⟨hout, hcounter⟩ | ⟨x, hout, hnumber, hcounter⟩ := hstep s e s' step
    · simp only [List.filterMap_cons, hout]
      rw [ih, hcounter]
    · simp only [List.filterMap_cons, hout, List.map_cons, List.length_cons, List.iterate]
      rw [ih, hnumber, hcounter]
      rfl

/-- Along the iterates, numbers fewer than `2^32-1` apart differ, and none is zero. -/
theorem ne_of_map_eq_iterate {α : Type} {xs : List α} {number : α → ℤ} {start : SeqNo}
    (h : xs.map number = List.iterate nextSeq start.value xs.length) :
    (∀ x ∈ xs, number x ≠ 0) ∧ ∀ (i j : ℕ) (x y : α), xs[i]? = some x → xs[j]? = some y → i < j →
      (j : ℤ) < i + maxU32 → number x ≠ number y := by
  have hget : ∀ i x, xs[i]? = some x → number x = nextSeq^[i] start.value := fun i x hx => by
    obtain ⟨hi, -⟩ := List.getElem?_eq_some_iff.mp hx
    have hmap : (xs.map number)[i]? = some (number x) := by rw [List.getElem?_map, hx]; rfl
    rw [h, List.getElem?_iterate _ _ _ _ hi] at hmap
    exact (Option.some.inj hmap).symm
  refine ⟨fun x hx => ?_, fun i j x y hi hj hij hlt => ?_⟩
  · obtain ⟨i, hi, rfl⟩ := List.getElem_of_mem hx
    rw [hget i _ (List.getElem?_eq_getElem hi), nextSeq_iterate]
    have hlow := Int.emod_nonneg (start.value - 1 + i) (b := maxU32) (by decide)
    omega
  · rw [hget i x hi, hget j y hj]
    exact nextSeq_iterate_ne start hij hlt

/-- The frames a run originated, in order. -/
def originatedFrames (ticks : List Tick) : List RadioFrame :=
  ticks.filterMap fun t => t.event.originated

/-- The frames a run handed to the radio, in order. -/
def transmittedFrames (ticks : List Tick) : List RadioFrame :=
  ticks.filterMap fun t => t.event.transmitted

theorem NodeRun.originSeqs {s s' : NodeState} {ticks : List Tick} (h : NodeRun A cfg s ticks s') :
    (originatedFrames ticks).map RadioFrame.originSeq =
      List.iterate nextSeq s.nextOriginSeq.value (originatedFrames ticks).length := by
  refine h.map_eq_iterate NodeState.nextOriginSeq fun s e s' hstep => ?_
  cases horiginates : e.originated with
  | none =>
    cases horiginates ▸ hstep.originates with
    | none horigin => exact Or.inl ⟨rfl, horigin⟩
  | some x =>
    cases horiginates ▸ hstep.originates with
    | sent _ hseq horigin => exact Or.inr ⟨x, rfl, hseq, horigin⟩

theorem NodeRun.appSeqs {s s' : NodeState} {ticks : List Tick} (h : NodeRun A cfg s ticks s') :
    (transmittedFrames ticks).map RadioFrame.appSeq =
      List.iterate nextSeq s.nextOuterSeq.value (transmittedFrames ticks).length := by
  refine h.map_eq_iterate NodeState.nextOuterSeq fun s e s' hstep => ?_
  cases htransmits : e.transmitted with
  | none =>
    cases htransmits ▸ hstep.transmits with
    | silent houter _ => exact Or.inl ⟨rfl, houter⟩
  | some x =>
    cases htransmits ▸ hstep.transmits with
    | sent _ happ _ houter _ => exact Or.inr ⟨x, rfl, happ, houter⟩

theorem NodeRun.rfSeqs {s s' : NodeState} {ticks : List Tick} (h : NodeRun A cfg s ticks s') :
    (transmittedFrames ticks).map RadioFrame.seq =
      List.iterate nextSeq s.nextRfSeq.value (transmittedFrames ticks).length := by
  refine h.map_eq_iterate NodeState.nextRfSeq fun s e s' hstep => ?_
  cases htransmits : e.transmitted with
  | none =>
    cases htransmits ▸ hstep.transmits with
    | silent _ hrf => exact Or.inl ⟨rfl, hrf⟩
  | some x =>
    cases htransmits ▸ hstep.transmits with
    | sent _ _ hseq _ hrf => exact Or.inr ⟨x, rfl, hseq, hrf⟩

/-- The numbers in the frames of a run: none is zero, and none comes back within
`2^32-1` of its kind. -/
structure NumbersOnce (ticks : List Tick) : Prop where
  origin_ne_zero : ∀ x ∈ originatedFrames ticks, x.originSeq ≠ 0
  app_ne_zero : ∀ x ∈ transmittedFrames ticks, x.appSeq ≠ 0
  app_eq_rf : ∀ x ∈ transmittedFrames ticks, x.appSeq = x.seq
  origin_distinct : ∀ (i j : ℕ) (x y : RadioFrame), (originatedFrames ticks)[i]? = some x →
    (originatedFrames ticks)[j]? = some y → i < j → (j : ℤ) < i + maxU32 → x.originSeq ≠ y.originSeq
  app_distinct : ∀ (i j : ℕ) (x y : RadioFrame), (transmittedFrames ticks)[i]? = some x →
    (transmittedFrames ticks)[j]? = some y → i < j → (j : ℤ) < i + maxU32 → x.appSeq ≠ y.appSeq

/-- The counters and the dedupe set are as they were. -/
structure SameCounters (s s' : NodeState) : Prop where
  seen : s'.seen = s.seen
  nextOriginSeq : s'.nextOriginSeq = s.nextOriginSeq
  nextOuterSeq : s'.nextOuterSeq = s.nextOuterSeq
  nextRfSeq : s'.nextRfSeq = s.nextRfSeq

/-- Whatever raises in a send, wherever it does, leaves the counters and the dedupe
set. -/
structure FailuresKeep (A : Aead) (cfg : NodeConfig) : Prop where
  sendRoute : ∀ (env : Env) (innerType : ℤ) (payload : Bytes) (destinationId ttl : ℤ) (e : PyError)
    (s s' : NodeState),
    sendRoute A cfg env innerType payload destinationId ttl s = .error e s' → SameCounters s s'
  sendRouteV2 : ∀ (env : Env) (innerType : ℤ) (payload : Bytes)
    (destinationType destinationId ttl trafficClass : ℤ) (e : PyError) (s s' : NodeState),
    sendRouteV2 A cfg env innerType payload destinationType destinationId ttl trafficClass s =
      .error e s' → SameCounters s s'
  forwardRouteData : ∀ (env : Env) (r : RouteData) (p : Bytes) (e : PyError) (s s' : NodeState),
    forwardRouteData A cfg env r p s = .error e s' → SameCounters s s'
  forwardRouteV2 : ∀ (env : Env) (r : RouteDataV2) (e : PyError) (s s' : NodeState),
    forwardRouteV2 cfg env r s = .error e s' → SameCounters s s'

theorem SameCounters.refl (s : NodeState) : SameCounters s s := ⟨rfl, rfl, rfl, rfl⟩

theorem forwardRouteData_error {r : RouteData} {p : Bytes} {s s' : NodeState} {e : PyError}
    (h : forwardRouteData A cfg env r p s = .error e s') : s' = s := by
  unfold forwardRouteData at h
  split at h
  · cases h
  · simp only [PyM.get_bind_apply, PyM.lift_bind_eq_error, PyM.modify_bind_apply,
      PyM.pure_apply] at h
    grind

theorem forwardRouteV2_error {r : RouteDataV2} {s s' : NodeState} {e : PyError}
    (h : forwardRouteV2 cfg env r s = .error e s') : s' = s := by
  unfold forwardRouteV2 at h
  split at h
  · cases h
  · simp only [PyM.get_bind_apply, PyM.lift_bind_eq_error, PyM.modify_bind_apply,
      PyM.pure_apply] at h
    grind

theorem failuresKeep (A : Aead) (cfg : NodeConfig) : FailuresKeep A cfg where
  sendRoute _ _ _ _ _ _ _ _ h := sendRoute_error h ▸ .refl _
  sendRouteV2 _ _ _ _ _ _ _ _ _ _ h := sendRouteV2_error h ▸ .refl _
  forwardRouteData _ _ _ _ _ _ h := forwardRouteData_error h ▸ .refl _
  forwardRouteV2 _ _ _ _ _ h := forwardRouteV2_error h ▸ .refl _

/-- **Sequence numbers are never reused and survive failures**, in every run from
start-up. -/
theorem sequence_numbers (A : Aead) (cfg : NodeConfig) (originSeq : SeqNo) (now : ℚ)
    (channel : Option ℤ) (ticks : List Tick) (s' : NodeState)
    (h : NodeRun A cfg (NodeState.initial cfg originSeq now channel) ticks s') :
    NumbersOnce ticks ∧ FailuresKeep A cfg := by
  obtain ⟨horigin0, horigin⟩ := ne_of_map_eq_iterate h.originSeqs
  obtain ⟨happ0, happ⟩ := ne_of_map_eq_iterate h.appSeqs
  have hsame : (transmittedFrames ticks).map RadioFrame.appSeq =
      (transmittedFrames ticks).map RadioFrame.seq := h.appSeqs.trans h.rfSeqs.symm
  exact ⟨⟨horigin0, happ0, List.map_inj_left.mp hsame, horigin, happ⟩, failuresKeep A cfg⟩

/-- The surroundings of a send that the radio refuses. -/
def Env.sampleRadioDown : Env := { Env.sample with radio := some "down" }

/-- Two originations with a failed one between them. -/
theorem sequence_numbers_sample :
    ∃ ticks s', NodeRun Aead.checksum sampleRelay (NodeState.initial sampleRelay .one 0 none) ticks s' ∧
      (originatedFrames ticks).length = 2 ∧ NumbersOnce ticks ∧
      FailuresKeep Aead.checksum sampleRelay := by
  let start := NodeState.initial sampleRelay .one 0 none
  have hfirst : (resultValue? (sendRoute Aead.checksum sampleRelay Env.sample msgData [104, 105] 0 3
      start)).map (fun sent => sent.seqSent) = some 1 := by
    decide +kernel
  obtain ⟨sent₁, s₁, h₁, -⟩ := exists_eq_ok_of_map hfirst
  obtain ⟨_, -, -, -, -, -, -, hs₁⟩ := sendRoute_eq_ok.mp h₁
  have hfailed : ∃ e, sendRoute Aead.checksum sampleRelay Env.sampleRadioDown msgData [104, 105] 0 3
      s₁ = .error e s₁ := by
    cases h : sendRoute Aead.checksum sampleRelay Env.sampleRadioDown msgData [104, 105] 0 3 s₁ with
    | ok sent s' =>
      obtain ⟨_, -, -, -, -, hradio, -⟩ := sendRoute_eq_ok.mp h
      cases hradio
    | error e s' => exact ⟨e, by rw [sendRoute_error h]⟩
  have hsecond : (resultValue? (sendRoute Aead.checksum sampleRelay Env.sample msgData [104, 105] 0 3
      (start.originated [1, 1]))).map (fun sent => sent.seqSent) = some 2 := by
    decide +kernel
  obtain ⟨sent₂, s₂, h₂, -⟩ := exists_eq_ok_of_map hsecond
  obtain ⟨e, hfailed⟩ := hfailed
  have hrun : NodeRun Aead.checksum sampleRelay start
      [⟨start, .sentRoute Env.sample msgData [104, 105] 0 3 sent₁, s₁⟩, ⟨s₁, .sendFailed e, s₁⟩,
        ⟨s₁, .sentRoute Env.sample msgData [104, 105] 0 3 sent₂, s₂⟩] s₂ :=
    .cons (.sendRoute _ _ _ _ _ _ _ _ h₁) (.cons
      (.sendFailed Env.sampleRadioDown msgData [104, 105] 0 0 3 0 _ _ _ (Or.inl hfailed))
      (.cons (.sendRoute _ _ _ _ _ _ _ _ (hs₁ ▸ h₂)) (.nil s₂)))
  exact ⟨_, s₂, hrun, rfl, sequence_numbers Aead.checksum sampleRelay .one 0 none _ s₂ hrun⟩

end KovaWfb
