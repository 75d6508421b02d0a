/-
# The receive ring is a bounded queue

`WfbRx::recv` and `drain_pcap_nonblock` of `src/rx.rs`, lines 353 to 375 and 452 to 503.

`Fifo.recv` says what the ring is for: a queue of frames with a capacity, filled only when
it is empty, from one batch of packets at a time, with the first acceptable frames of the
batch in the order of their arrival.  A receiver over its three vectors and three indices
returns exactly what that queue returns, call after call (`WfbRx.run_spec`), and the queue
hands out every frame it kept once and in order (`Fifo.run_kept`).  Both together are
`ring_refines_fifo`.
-/

import KovaWfb.Radio.Capture

namespace KovaWfb

open WfbRx Rust

/-- One call of `recv`: the caller's buffer and what happens during its wait. -/
structure Call where
  buf : Bytes
  wakes : List Wake

/-! ### A bounded queue of frames -/

namespace Fifo

/-- What one `recv` does to the queue. -/
structure Outcome where
  received : Received
  /-- The frame it hands out. -/
  taken : Option RxFrame
  /-- The batches it drained. -/
  drained : List (List Bytes)
  queue : List RxFrame

variable (capacity : ℕ) (accept : Bytes → Option RxFrame)

/-- The frames that stay of a batch. -/
def kept (packets : List Bytes) : List RxFrame := (packets.filterMap accept).take capacity

/-- `recv` on a queue: a frame that is there is handed out; only an empty queue is
filled. -/
def recv (buf : Bytes) : List RxFrame → List Wake → Outcome
  | f :: queue, _ => { received := deliver f buf, taken := some f, drained := [], queue }
  | [], [] | [], .timedOut :: _ =>
      { received := .nothing, taken := none, drained := [], queue := [] }
  | [], .failed errno :: _ =>
      { received := .error (.io errno), taken := none, drained := [], queue := [] }
  | [], .interrupted :: wakes => recv buf [] wakes
  | [], .ready packets :: wakes =>
      let outcome := recv buf (kept capacity accept packets) wakes
      { outcome with drained := packets :: outcome.drained }

/-- One call after the other. -/
def run (queue : List RxFrame) : List Call → List Outcome
  | [] => []
  | c :: calls =>
      let outcome := recv capacity accept c.buf queue c.wakes
      outcome :: run outcome.queue calls

/-- The queue after the last call. -/
def remaining (queue : List RxFrame) : List Call → List RxFrame
  | [] => queue
  | c :: calls => remaining (recv capacity accept c.buf queue c.wakes).queue calls

@[simp] theorem recv_cons (buf : Bytes) (f : RxFrame) (queue : List RxFrame) (wakes : List Wake) :
    recv capacity accept buf (f :: queue) wakes =
      { received := deliver f buf, taken := some f, drained := [], queue } := by
  cases wakes <;> rfl

theorem recv_kept (buf : Bytes) (queue : List RxFrame) (wakes : List Wake) :
    queue ++ (recv capacity accept buf queue wakes).drained.flatMap (kept capacity accept) =
      (recv capacity accept buf queue wakes).taken.toList ++
        (recv capacity accept buf queue wakes).queue := by
  induction wakes generalizing queue with
  | nil =>
    cases queue with
    | nil => rfl
    | cons f queue => exact List.append_nil _
  | cons wake wakes ih =>
    cases queue with
    | cons f queue => exact List.append_nil _
    | nil =>
      cases wake with
      | timedOut => rfl
      | failed errno => rfl
      | interrupted => exact ih []
      | ready packets => exact ih (kept capacity accept packets)

/-- **Every frame that was kept is handed out once, in order.** -/
theorem run_kept (queue : List RxFrame) (calls : List Call) :
    queue ++ (run capacity accept queue calls).flatMap
        (fun outcome => outcome.drained.flatMap (kept capacity accept)) =
      (run capacity accept queue calls).filterMap Outcome.taken ++
        remaining capacity accept queue calls := by
  induction calls generalizing queue with
  | nil => exact List.append_nil _
  | cons c calls ih =>
    have hstep := recv_kept capacity accept c.buf queue c.wakes
    rw [run, remaining, List.flatMap_cons, ← List.append_assoc, hstep, List.append_assoc, ih,
      List.filterMap_cons]
    cases (recv capacity accept c.buf queue c.wakes).taken <;> rfl

/-- The frames in the queue are handed out by the next calls. -/
theorem run_getElem? {queue : List RxFrame} {calls : List Call} {i : ℕ} {f : RxFrame} {c : Call}
    (hf : queue[i]? = some f) (hc : calls[i]? = some c) :
    ((run capacity accept queue calls).map Outcome.received)[i]? = some (deliver f c.buf) := by
  induction calls generalizing queue i with
  | nil => cases hc
  | cons d calls ih =>
    cases queue with
    | nil => cases hf
    | cons g queue =>
      rw [run, recv_cons]
      cases i with
      | zero =>
        obtain rfl := Option.some.inj hf
        obtain rfl := Option.some.inj hc
        rfl
      | succ i => exact ih hf hc

/-- What a call that hands out no frame returns. -/
def Outcome.Empty (outcome : Outcome) : Prop :=
  outcome.taken = none ∧
    (outcome.received = .nothing ∨ ∃ errno, outcome.received = .error (.io errno))

/-- A call hands out a frame it took, or none. -/
theorem recv_received {P : RxFrame → Prop} (haccept : ∀ pkt f, accept pkt = some f → P f)
    (buf : Bytes) {queue : List RxFrame} (hqueue : ∀ f ∈ queue, P f) (wakes : List Wake) :
    (∀ f ∈ (recv capacity accept buf queue wakes).queue, P f) ∧
      ((∃ f, P f ∧ (recv capacity accept buf queue wakes).taken = some f ∧
          (recv capacity accept buf queue wakes).received = deliver f buf) ∨
        (recv capacity accept buf queue wakes).Empty) := by
  induction wakes generalizing queue with
  | nil =>
    cases queue with
    | nil => exact ⟨hqueue, Or.inr ⟨rfl, Or.inl rfl⟩⟩
    | cons f queue =>
      exact ⟨fun g hg => hqueue g (List.mem_cons_of_mem f hg),
        Or.inl ⟨f, hqueue f List.mem_cons_self, rfl, rfl⟩⟩
  | cons wake wakes ih =>
    cases queue with
    | cons f queue =>
      exact ⟨fun g hg => hqueue g (List.mem_cons_of_mem f hg),
        Or.inl ⟨f, hqueue f List.mem_cons_self, rfl, rfl⟩⟩
    | nil =>
      cases wake with
      | timedOut => exact ⟨hqueue, Or.inr ⟨rfl, Or.inl rfl⟩⟩
      | failed errno => exact ⟨hqueue, Or.inr ⟨rfl, Or.inr ⟨errno, rfl⟩⟩⟩
      | interrupted => exact ih hqueue
      | ready packets =>
        refine ih fun f hf => ?_
        obtain ⟨pkt, -, hpkt⟩ := List.mem_filterMap.1 (List.mem_of_mem_take hf)
        exact haccept pkt f hpkt

theorem run_received {P : RxFrame → Prop} (haccept : ∀ pkt f, accept pkt = some f → P f)
    {queue : List RxFrame} (hqueue : ∀ f ∈ queue, P f) (calls : List Call) :
    List.Forall₂ (fun c outcome => (∃ f, P f ∧ outcome.taken = some f ∧
        outcome.received = deliver f c.buf) ∨ outcome.Empty)
      calls (run capacity accept queue calls) := by
  induction calls generalizing queue with
  | nil => exact .nil
  | cons c calls ih =>
    obtain ⟨hqueue', hreceived⟩ := recv_received capacity accept haccept c.buf hqueue c.wakes
    exact .cons hreceived (ih hqueue')

end Fifo

/-! ### The ring does what the queue does -/

namespace WfbRx

/-- The frame a receiver takes out of a packet. -/
def accepts (rx : WfbRx) (pkt : Bytes) : Option RxFrame :=
  match rx.decodePacket pkt with
  | .ok (some (payload, metadata)) => some { payload, metadata }
  | _ => none

/-- Calls of `recv` one after the other. -/
def run (rx : WfbRx) : List Call → Rust (List Received × WfbRx)
  | [] => return ([], rx)
  | c :: calls => do
    let (received, rx) ← rx.recv c.buf c.wakes
    let (more, rx) ← rx.run calls
    return (received :: more, rx)

/-- Two states of one receiver. -/
structure SameHandle (rx rx' : WfbRx) : Prop where
  ringSize : rx'.ringSize = rx.ringSize
  ignoreSelfInjected : rx'.ignoreSelfInjected = rx.ignoreSelfInjected
  maxPayload : rx'.maxPayload = rx.maxPayload

theorem SameHandle.refl (rx : WfbRx) : SameHandle rx rx := ⟨rfl, rfl, rfl⟩

theorem SameHandle.trans {a b c : WfbRx} (hab : SameHandle a b) (hbc : SameHandle b c) :
    SameHandle a c where
  ringSize := hbc.ringSize.trans hab.ringSize
  ignoreSelfInjected := hbc.ignoreSelfInjected.trans hab.ignoreSelfInjected
  maxPayload := hbc.maxPayload.trans hab.maxPayload

theorem SameHandle.accepts {rx rx' : WfbRx} (h : SameHandle rx rx') : rx'.accepts = rx.accepts := by
  funext pkt
  unfold WfbRx.accepts decodePacket
  rw [h.ignoreSelfInjected, h.maxPayload]

/-- A bounded queue may drop late: what is over the bound goes in the end. -/
theorem take_append_take {α : Type} (n : ℕ) (xs ys : List α) :
    (xs.take n ++ ys).take n = (xs ++ ys).take n := by
  rcases Nat.le_total xs.length n with hfits | hfull
  · rw [List.take_of_length_le hfits]
  · have hlen : (xs.take n).length = n := by rw [List.length_take, Nat.min_eq_left hfull]
    rw [List.take_left' hlen, List.take_append_of_le_length hfull]

variable {rx : WfbRx}

theorem parse_frames (h : rx.WellFormed) (pkt : Bytes) :
    ∃ rx', rx.parseAndEnqueueOnePacket pkt = .ok rx' ∧ rx'.WellFormed ∧ SameHandle rx rx' ∧
      rx'.frames = (rx.frames ++ (rx.accepts pkt).toList).take rx.ringSize := by
  have hfits : rx.frames.length ≤ rx.ringSize := rx.length_frames.trans_le h.ring.count_le
  rcases parse_spec h pkt with ⟨hnone, hparse⟩ | ⟨f, start, hsome, hcut, hparse⟩
  · refine ⟨rx, hparse, h, .refl rx, ?_⟩
    rw [accepts, hnone]
    exact ((List.take_of_length_le (by simpa using hfits)).trans (List.append_nil _)).symm
  · have haccepts : (rx.accepts pkt).toList = [f] := by rw [accepts, hsome]; rfl
    rw [haccepts]
    obtain ⟨rx', henqueue, hwell, hframes, hsize, hself⟩ := enqueueDecoded_spec h f hcut.fits
    refine ⟨rx', ?_, hwell, ⟨hsize, hself, hwell.maxPayload_eq.trans h.maxPayload_eq.symm⟩, hframes⟩
    rw [parseAndEnqueueOnePacket, hsome]
    exact henqueue

/-- **Draining a batch** appends its acceptable frames while there is room. -/
theorem drain_spec (h : rx.WellFormed) (packets : List Bytes) :
    ∃ rx', rx.drainPcapNonblock packets = .ok rx' ∧ rx'.WellFormed ∧ SameHandle rx rx' ∧
      rx'.frames = (rx.frames ++ packets.filterMap rx.accepts).take rx.ringSize := by
  induction packets generalizing rx with
  | nil =>
    have hfits : rx.frames.length ≤ rx.ringSize := rx.length_frames.trans_le h.ring.count_le
    refine ⟨rx, rfl, h, .refl rx, ?_⟩
    rw [List.filterMap_nil, List.append_nil, List.take_of_length_le hfits]
  | cons pkt packets ih =>
    obtain ⟨rx₁, hparse, hwell₁, hsame₁, hframes₁⟩ := parse_frames h pkt
    obtain ⟨rx₂, hdrain, hwell₂, hsame₂, hframes₂⟩ := ih hwell₁
    refine ⟨rx₂, ?_, hwell₂, hsame₁.trans hsame₂, ?_⟩
    · rw [drainPcapNonblock, hparse]
      exact hdrain
    · rw [hframes₂, hframes₁, hsame₁.ringSize, hsame₁.accepts, take_append_take, List.append_assoc,
        List.filterMap_cons]
      cases rx.accepts pkt <;> rfl

theorem pop_of_frames (h : rx.WellFormed) {f : RxFrame} {rest : List RxFrame}
    (hframes : rx.frames = f :: rest) (buf : Bytes) (next : Rust (Received × WfbRx)) :
    ∃ rx', (do
        if rx.ringCount > 0 then
          let (n, metadata, buf, rx) ← rx.popOne buf
          return (Received.frame n metadata buf, rx)
        next) = .ok (deliver f buf, rx') ∧
      rx'.WellFormed ∧ SameHandle rx rx' ∧ rx'.frames = rest := by
  have hcount : rx.ringCount > 0 := by
    rw [← length_frames, hframes]
    exact Nat.succ_pos _
  obtain ⟨n, metadata, buf', rx', hpop, hdeliver, hwell, hrest, hsize, hself⟩ :=
    popOne_spec h hframes buf
  refine ⟨rx', ?_, hwell, ⟨hsize, hself, hwell.maxPayload_eq.trans h.maxPayload_eq.symm⟩, hrest⟩
  rw [if_pos hcount, hpop, ok_bind, ← hdeliver]
  rfl

theorem recvLoop_spec (h : rx.WellFormed) (buf : Bytes) (wakes : List Wake) :
    ∃ rx', rx.recvLoop buf wakes =
        .ok ((Fifo.recv rx.ringSize rx.accepts buf rx.frames wakes).received, rx') ∧
      rx'.WellFormed ∧ SameHandle rx rx' ∧
      rx'.frames = (Fifo.recv rx.ringSize rx.accepts buf rx.frames wakes).queue := by
  induction wakes generalizing rx with
  | nil =>
    unfold recvLoop
    rcases hframes : rx.frames with _ | ⟨f, rest⟩
    · have hcount : ¬ rx.ringCount > 0 := by rw [← length_frames, hframes]; exact Nat.lt_irrefl 0
      rw [if_neg hcount]
      exact ⟨rx, rfl, h, .refl rx, hframes⟩
    · exact pop_of_frames h hframes buf _
  | cons wake wakes ih =>
    unfold recvLoop
    rcases hframes : rx.frames with _ | ⟨f, rest⟩
    · have hcount : ¬ rx.ringCount > 0 := by rw [← length_frames, hframes]; exact Nat.lt_irrefl 0
      rw [if_neg hcount]
      cases wake with
      | timedOut => exact ⟨rx, rfl, h, .refl rx, hframes⟩
      | failed errno => exact ⟨rx, rfl, h, .refl rx, hframes⟩
      | interrupted =>
        have hrec := ih h
        rw [hframes] at hrec
        exact hrec
      | ready packets =>
        obtain ⟨rx₁, hdrain, hwell₁, hsame₁, hframes₁⟩ := drain_spec h packets
        obtain ⟨rx₂, hrec, hwell₂, hsame₂, hframes₂⟩ := ih hwell₁
        rw [hframes, List.nil_append] at hframes₁
        rw [hframes₁, hsame₁.ringSize, hsame₁.accepts] at hrec hframes₂
        refine ⟨rx₂, ?_, hwell₂, hsame₁.trans hsame₂, hframes₂⟩
        dsimp only
        rw [hdrain]
        exact hrec
    · exact pop_of_frames h hframes buf _

/-- **`recv` does what the queue does.** -/
theorem recv_spec (h : rx.WellFormed) {buf : Bytes} (hbuf : buf ≠ []) (wakes : List Wake) :
    ∃ rx', rx.recv buf wakes =
        .ok ((Fifo.recv rx.ringSize rx.accepts buf rx.frames wakes).received, rx') ∧
      rx'.WellFormed ∧ SameHandle rx rx' ∧
      rx'.frames = (Fifo.recv rx.ringSize rx.accepts buf rx.frames wakes).queue := by
  have hnonempty : ¬ buf.isEmpty = true := fun hempty => hbuf (List.isEmpty_iff.1 hempty)
  unfold recv
  rw [if_neg hnonempty]
  rcases hframes : rx.frames with _ | ⟨f, rest⟩
  · have hcount : ¬ rx.ringCount > 0 := by rw [← length_frames, hframes]; exact Nat.lt_irrefl 0
    rw [if_neg hcount, ← hframes]
    exact recvLoop_spec h buf wakes
  · rw [Fifo.recv_cons]
    exact pop_of_frames h hframes buf _

/-- **So does a run of calls**, from any state on. -/
theorem run_spec (h : rx.WellFormed) (calls : List Call) (hbuf : ∀ c ∈ calls, c.buf ≠ []) :
    ∃ rx', rx.run calls =
        .ok ((Fifo.run rx.ringSize rx.accepts rx.frames calls).map Fifo.Outcome.received, rx') ∧
      rx'.frames = Fifo.remaining rx.ringSize rx.accepts rx.frames calls := by
  induction calls generalizing rx with
  | nil => exact ⟨rx, rfl, rfl⟩
  | cons c calls ih =>
    obtain ⟨rx₁, hrecv, hwell₁, hsame₁, hframes₁⟩ := recv_spec h (hbuf c List.mem_cons_self) c.wakes
    obtain ⟨rx₂, hrun, hframes₂⟩ := ih hwell₁ fun c' hc' => hbuf c' (List.mem_cons_of_mem c hc')
    rw [hframes₁, hsame₁.ringSize, hsame₁.accepts] at hrun hframes₂
    refine ⟨rx₂, ?_, hframes₂⟩
    rw [run, hrecv, ok_bind]
    dsimp only
    rw [hrun]
    rfl

/-- The states a receiver can be in, also in the middle of a drain. -/
inductive Reachable (cfg : WfbRxConfig) : WfbRx → Prop
  | opened {pcap : Except String Unit} {rx : WfbRx} : openRx cfg pcap = .ok rx → Reachable cfg rx
  | packet {rx rx' : WfbRx} {pkt : Bytes} : Reachable cfg rx →
      rx.parseAndEnqueueOnePacket pkt = .ok rx' → Reachable cfg rx'
  | recv {rx rx' : WfbRx} {buf : Bytes} {wakes : List Wake} {received : Received} :
      Reachable cfg rx → rx.recv buf wakes = .ok (received, rx') → Reachable cfg rx'

/-- **Every reachable ring is well formed.** -/
theorem Reachable.wellFormed {cfg : WfbRxConfig} (hreach : Reachable cfg rx) :
    rx.WellFormed ∧ rx.ringSize = clampRingSize cfg.ringSize := by
  induction hreach with
  | opened hopen =>
    obtain ⟨hwell, -, hsize, -⟩ := openRx_eq_ok hopen
    exact ⟨hwell, hsize⟩
  | packet _ hparse ih =>
    obtain ⟨_, hparse', hwell, hsame, -⟩ := parse_frames ih.1 _
    obtain rfl := Except.ok.inj (hparse'.symm.trans hparse)
    exact ⟨hwell, hsame.ringSize.trans ih.2⟩
  | @recv rx rx' buf wakes received _ hrecv ih =>
    by_cases hbuf : buf = []
    · subst hbuf
      obtain ⟨-, rfl⟩ := Prod.mk.inj (Except.ok.inj hrecv)
      exact ih
    · obtain ⟨_, hrecv', hwell, hsame, -⟩ := recv_spec ih.1 hbuf wakes
      obtain ⟨-, rfl⟩ := Prod.mk.inj (Except.ok.inj (hrecv'.symm.trans hrecv))
      exact ⟨hwell, hsame.ringSize.trans ih.2⟩

end WfbRx

/-! ### The ring refines the queue -/

/-- What a caller gets of a frame: its first bytes, as many as the buffer holds, the rest
of the buffer as it was, and its own metadata with a mark if bytes were cut. -/
structure HandsOver (f : RxFrame) (buf : Bytes) (received : Received) : Prop where
  handed : ∃ metadata buf', received = .frame (min f.payload.length buf.length) metadata buf' ∧
    buf'.take (min f.payload.length buf.length) = f.payload.take buf.length ∧
    buf'.drop (min f.payload.length buf.length) = buf.drop f.payload.length ∧
    metadata = { f.metadata with truncated := metadata.truncated } ∧
    (metadata.truncated = true ↔ min f.payload.length buf.length < f.payload.length) ∧
    (computeMaxPayload ≤ buf.length → metadata.truncated = false)

theorem handsOver_deliver {f : RxFrame} (hlen : f.payload.length ≤ computeMaxPayload) (buf : Bytes) :
    HandsOver f buf (deliver f buf) := by
  have htake : (f.payload.take buf.length).length = min f.payload.length buf.length := by
    rw [List.length_take, Nat.min_comm]
  refine ⟨_, _, rfl, List.take_left' htake, List.drop_left' htake, rfl, ?_, fun hbuf => ?_⟩
  · rw [decide_eq_true_eq]
    omega
  · exact decide_eq_false (by omega)

theorem WfbRx.accepts_fits {rx : WfbRx} {pkt : Bytes} {f : RxFrame} (h : rx.accepts pkt = some f) :
    f.payload.length ≤ rx.maxPayload := by
  obtain ⟨decoded, hdecoded, hcut⟩ := rx.decodePacket_returns pkt
  rw [accepts, hdecoded] at h
  rcases decoded with _ | ⟨payload, metadata⟩
  · cases h
  · obtain rfl := Option.some.inj h
    exact (hcut payload metadata rfl).choose_spec.fits

/-- **The receive ring refines a bounded queue.**  In every reachable state the indices fit
and a ring that is not empty is not filled; and every run of calls returns what the queue
returns, each frame kept of a batch once and in order, cut only to the buffer. -/
theorem ring_refines_fifo (cfg : WfbRxConfig) (pcap : Except String Unit) (rx : WfbRx)
    (hopen : openRx cfg pcap = .ok rx) (calls : List Call) (hbuf : ∀ c ∈ calls, c.buf ≠ []) :
    (∀ rx', Reachable cfg rx' →
      rx'.ringTail = (rx'.ringHead + rx'.ringCount) % rx'.ringSize ∧
      rx'.ringCount ≤ rx'.ringSize ∧ rx'.ringSize = clampRingSize cfg.ringSize ∧
      (0 < rx'.ringCount → ∀ buf wakes, rx'.recv buf wakes = rx'.recv buf [])) ∧
    ∃ outcomes rx', outcomes = Fifo.run (clampRingSize cfg.ringSize) rx.accepts [] calls ∧
      rx.run calls = .ok (outcomes.map Fifo.Outcome.received, rx') ∧
      List.Forall₂ (fun c outcome => (∃ f, outcome.taken = some f ∧
          HandsOver f c.buf outcome.received) ∨ outcome.Empty) calls outcomes ∧
      (outcomes.flatMap fun outcome =>
          outcome.drained.flatMap (Fifo.kept (clampRingSize cfg.ringSize) rx.accepts)) =
        outcomes.filterMap Fifo.Outcome.taken ++ rx'.frames := by
  obtain ⟨hwell, hempty, hsize, -⟩ := openRx_eq_ok hopen
  refine ⟨fun rx' hreach => ?_, ?_⟩
  · obtain ⟨hwell', hsize'⟩ := hreach.wellFormed
    refine ⟨hwell'.ring.tail_eq, hwell'.ring.count_le, hsize', fun hcount buf wakes => ?_⟩
    unfold recv
    rw [if_pos hcount, if_pos hcount]
  · obtain ⟨rx', hrun, hframes⟩ := run_spec hwell calls hbuf
    rw [hempty, hsize] at hrun hframes
    refine ⟨_, rx', rfl, hrun, ?_, ?_⟩
    · have hreceived := Fifo.run_received (clampRingSize cfg.ringSize) rx.accepts
        (P := fun f => f.payload.length ≤ computeMaxPayload)
        (fun pkt f hf => (accepts_fits hf).trans_eq hwell.maxPayload_eq)
        (fun f (hf : f ∈ []) => absurd hf List.not_mem_nil) calls
      refine hreceived.imp fun c outcome houtcome => ?_
      rcases houtcome with ⟨f, hfits, htaken, hgot⟩ | hnone
      · refine Or.inl ⟨f, htaken, ?_⟩
        rw [hgot]
        exact handsOver_deliver hfits c.buf
      · exact Or.inr hnone
    · rw [hframes]
      exact Fifo.run_kept _ _ [] calls

/-- A frame as the capture hands it on: a radiotap header without fields, the 802.11
header, the WFB header and the payload. -/
def capturedFrame (seq : UInt32) (payload : Bytes) : Bytes :=
  [0, 0, 8, 0, 0, 0, 0, 0] ++ (List.replicate ieee80211HeaderLen 0 ++ (WfbFrameHeader.encode
    { version := wfbProtoVersion, seq, payloadLen := UInt16.ofNat payload.length, flags := 0 } ++
      payload))

/-- Its metadata, where no antenna, no signal and no noise was reported. -/
def capturedMeta (seq : UInt32) (truncated : Bool) : WfbRxMeta where
  seq
  bandwidth := 20
  antenna := .replicate 4 0xff
  rssi := .replicate 4 (-128)
  noise := .replicate 4 127
  truncated

def ringOfTwo : WfbRx where
  ignoreSelfInjected := true
  maxPayload := computeMaxPayload
  ringSize := 2
  ringCount := 0
  ringHead := 0
  ringTail := 0
  ringPayloadStore := List.replicate (2 * computeMaxPayload) 0
  ringPayloadLen := List.replicate 2 0
  ringMeta := List.replicate 2 default

/-- A packet without a frame and three frames at once, the first one longer than the buffer;
a packet that waits while the ring is not empty; a frame for the slot of the first one. -/
def overflowingCalls : List Call :=
  [{ buf := [0, 0], wakes := [.interrupted, .ready [[0, 0, 8, 0], capturedFrame 1 [10, 20, 30],
      capturedFrame 2 [40], capturedFrame 3 [50, 60]]] },
    { buf := [1, 2, 3], wakes := [.ready [capturedFrame 4 [70]]] },
    { buf := [1, 2, 3], wakes := [.ready [capturedFrame 5 [80, 90]]] },
    { buf := [0], wakes := [.timedOut] }]

/-- A ring of two loses the third frame, cuts the first one, does not drain the fourth and uses a
slot again. -/
theorem ring_refines_fifo_sample :
    ∃ rx', ringOfTwo.run overflowingCalls = .ok (
        [.frame 2 (capturedMeta 1 true) [10, 20], .frame 1 (capturedMeta 2 false) [40, 2, 3],
          .frame 2 (capturedMeta 5 false) [80, 90, 3], .nothing], rx') ∧ rx'.frames = [] := by
  obtain ⟨-, outcomes, rx', houtcomes, hrun, -, hkept⟩ := ring_refines_fifo
    { iface := "wlan0", streamId := 1, ignoreSelfInjected := true, ringSize := 1 } (.ok ())
    ringOfTwo rfl overflowingCalls (by decide)
  have hreceived : outcomes.map Fifo.Outcome.received =
      [.frame 2 (capturedMeta 1 true) [10, 20], .frame 1 (capturedMeta 2 false) [40, 2, 3],
        .frame 2 (capturedMeta 5 false) [80, 90, 3], .nothing] := by
    rw [houtcomes]
    decide +kernel
  have htaken : outcomes.flatMap (fun outcome => outcome.drained.flatMap
      (Fifo.kept 2 ringOfTwo.accepts)) = outcomes.filterMap Fifo.Outcome.taken := by
    rw [houtcomes]
    decide +kernel
  exact ⟨rx', hreceived ▸ hrun, List.self_eq_append_right.1 (htaken.symm.trans hkept)⟩

end KovaWfb
