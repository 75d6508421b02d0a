/-
# A frame that waits, and a timeout

`WfbRx::recv` of `src/rx.rs` (452 to 503) with its clock and `poll`, `wfb_rx_recv` of
`src/ffi.rs` (240 to 281), and `Rx.recv` and `Rx.recv_optional` of `wfb_rs_py/api.py` (155 to
193).

The loop looks at the deadline before it first polls and drains, so a call with a timeout of
zero never gets a frame out of the capture, not even one that waits there.  The binding
takes the low 32 bits of a timeout, so for it the multiples of 2³² are such timeouts too
(`waiting_frame_returned_iff`).
-/

import KovaWfb.Radio.RoundTrip

namespace KovaWfb

open WfbRx Rust

/-! ### The clock and the capture -/

/-- What one `poll` comes to: `POLLIN`, 0, `EINTR` or another error. -/
inductive Polled
  | ready
  | nothing
  | interrupted
  | failed (errno : ℕ)
  deriving DecidableEq, Repr

/-- What is outside of a call of `recv`, round by round of its loop. -/
structure RecvEnv where
  /-- `start.elapsed()`, in nanoseconds. -/
  elapsed : ℕ → ℕ
  /-- `poll`, with the packets that wait in the capture and the milliseconds to wait. -/
  poll : ℕ → List Bytes → ℕ → Polled
  /-- The packets that come in before the drain ends. -/
  arrivals : ℕ → List Bytes

/-- The rounds of the loop of `recv` from a round on, with the packets that wait in the
capture; a duration is a number of nanoseconds. -/
def RecvEnv.wakes (env : RecvEnv) (timeout : ℕ) : ℕ → ℕ → List Bytes → List Wake
  | 0, _, _ => []
  | rounds + 1, round, queue =>
    let elapsed := env.elapsed round
    if elapsed ≥ timeout then [.timedOut]
    else
      let remainingMs := min ((timeout - elapsed) / 1000000) (2 ^ 31 - 1)
      match env.poll round queue remainingMs with
      | .interrupted => .interrupted :: env.wakes timeout rounds (round + 1) queue
      | .failed errno => [.failed errno]
      | .nothing => [.timedOut]
      | .ready =>
        .ready (queue ++ env.arrivals round) :: env.wakes timeout rounds (round + 1) []

/-- `recv` with a timeout, on a capture in which the packets of `queue` wait. -/
def WfbRx.recvWithin (rx : WfbRx) (env : RecvEnv) (buf : Bytes) (timeout : ℕ)
    (queue : List Bytes) (rounds : ℕ) : Rust (Received × WfbRx) :=
  rx.recv buf (env.wakes timeout rounds 0 queue)

/-! ### The two bindings -/

abbrev wfbRsOk : ℕ := 0
abbrev wfbRsErrInvalidArgument : ℕ := 2
abbrev wfbRsErrIo : ℕ := 3
abbrev wfbRsErrPcap : ℕ := 4
abbrev wfbRsErrTimeout : ℕ := 5
abbrev wfbRsErrInternal : ℕ := 255

/-- `map_err`. -/
def mapErr : WfbError → ℕ
  | .invalidArgument _ => wfbRsErrInvalidArgument
  | .io _ => wfbRsErrIo
  | .pcap _ => wfbRsErrPcap

/-- What `wfb_rx_recv` returns and leaves behind its pointers. -/
structure FfiReceived where
  code : ℕ
  outLen : ℕ := 0
  outMeta : WfbRxMeta := {}
  outBuf : Bytes
  deriving DecidableEq

/-- `wfb_rx_recv`, none of its pointers null; `run_ffi` turns a panic into a code. -/
def wfbRxRecv (env : RecvEnv) (rx : WfbRx) (outBuf : Bytes) (timeoutMs : UInt32)
    (queue : List Bytes) (rounds : ℕ) : FfiReceived × WfbRx :=
  if outBuf.length = 0 then ({ code := wfbRsErrInvalidArgument, outBuf }, rx)
  else
    match rx.recvWithin env outBuf (timeoutMs.toNat * 1000000) queue rounds with
    | .ok (.frame n metadata buf, rx) =>
      ({ code := wfbRsOk, outLen := n, outMeta := metadata, outBuf := buf }, rx)
    | .ok (.nothing, rx) => ({ code := wfbRsErrTimeout, outBuf }, rx)
    | .ok (.error e, rx) => ({ code := mapErr e, outBuf }, rx)
    | .error _ => ({ code := wfbRsErrInternal, outBuf }, rx)

/-- What `Rx.recv` raises: `WfbRsTimeoutError` or another exception. -/
inductive RxRaise
  | timeout
  | other (e : PyError)
  deriving DecidableEq, Repr

/-- `ctypes.c_uint32`: the low 32 bits. -/
def cUint32 (value : ℤ) : UInt32 := UInt32.ofNat (value % 2 ^ 32).toNat

/-- `Rx.recv`. -/
def rxRecv (env : RecvEnv) (closed : Bool) (rx : WfbRx) (timeoutMs : ℤ) (bufSize : Option ℤ)
    (queue : List Bytes) (rounds : ℕ) : Except RxRaise (Bytes × WfbRxMeta) × WfbRx :=
  let bufSize := bufSize.getD computeMaxPayload
  if closed then (.error (.other (.runtimeError "Rx handle is closed")), rx)
  else if timeoutMs < 0 then (.error (.other (.valueError "timeout_ms must be >= 0")), rx)
  else if bufSize ≤ 0 then (.error (.other (.valueError "buf_size must be > 0")), rx)
  else
    let (out, rx) :=
      wfbRxRecv env rx (List.replicate bufSize.toNat 0) (cUint32 timeoutMs) queue rounds
    if out.code = wfbRsErrTimeout then (.error .timeout, rx)
    else if out.code ≠ wfbRsOk then
      (.error (.other (.wfbRsError s!"wfb_rx_recv failed with error code {out.code}")), rx)
    else (.ok (out.outBuf.take out.outLen, out.outMeta), rx)

/-- `Rx.recv_optional`. -/
def rxRecvOptional (env : RecvEnv) (closed : Bool) (rx : WfbRx) (timeoutMs : ℤ)
    (bufSize : Option ℤ) (queue : List Bytes) (rounds : ℕ) :
    Except PyError (Option (Bytes × WfbRxMeta)) × WfbRx :=
  match rxRecv env closed rx timeoutMs bufSize queue rounds with
  | (.ok result, rx) => (.ok (some result), rx)
  | (.error .timeout, rx) => (.ok none, rx)
  | (.error (.other e), rx) => (.error e, rx)

/-! ### A frame that waits -/

/-- The clock stands still during the call. -/
def RecvEnv.Frozen (env : RecvEnv) : Prop := ∀ round, env.elapsed round = 0

/-- `poll` reports a capture in which packets wait, whatever time it is given. -/
def RecvEnv.ReportsReady (env : RecvEnv) : Prop :=
  ∀ round queue remainingMs, queue ≠ [] → env.poll round queue remainingMs = .ready

/-- The receiver is empty, the clock stands still, and a frame waits in the capture, behind
packets that hold none. -/
structure Waiting (cfg : WfbRxConfig) (env : RecvEnv) (rx : WfbRx) (queue : List Bytes)
    (f : RxFrame) (rounds : ℕ) : Prop where
  reachable : Reachable cfg rx
  empty : rx.ringCount = 0
  frozen : env.Frozen
  ready : env.ReportsReady
  first : (queue.filterMap rx.accepts).head? = some f
  rounds_pos : 0 < rounds

section

variable {cfg : WfbRxConfig} {env : RecvEnv} {rx : WfbRx} {queue : List Bytes} {f : RxFrame}
  {rounds : ℕ} {buf : Bytes} {timeout : ℕ}

/-- **A timeout of zero** has passed before the capture is looked at. -/
theorem recvWithin_zero (h : Waiting cfg env rx queue f rounds) (hbuf : buf ≠ []) :
    rx.recvWithin env buf 0 queue rounds = .ok (.nothing, rx) := by
  obtain ⟨rounds, rfl⟩ := Nat.exists_eq_add_one_of_ne_zero (Nat.pos_iff_ne_zero.1 h.rounds_pos)
  have hwakes : env.wakes 0 (rounds + 1) 0 queue = [.timedOut] := by
    rw [RecvEnv.wakes]
    exact if_pos (Nat.zero_le _)
  have hnonempty : ¬ buf.isEmpty = true := fun hempty => hbuf (List.isEmpty_iff.1 hempty)
  have hcount : ¬ rx.ringCount > 0 := by rw [h.empty]; exact Nat.lt_irrefl 0
  rw [recvWithin, hwakes, recv, if_neg hnonempty, if_neg hcount, recvLoop, if_neg hcount]
  rfl

/-- **Any other timeout** gets the frame. -/
theorem recvWithin_pos (h : Waiting cfg env rx queue f rounds) (hbuf : buf ≠ [])
    (htimeout : 0 < timeout) :
    ∃ rx', rx.recvWithin env buf timeout queue rounds = .ok (deliver f buf, rx') := by
  obtain ⟨rounds, rfl⟩ := Nat.exists_eq_add_one_of_ne_zero (Nat.pos_iff_ne_zero.1 h.rounds_pos)
  have hqueue : queue ≠ [] := by
    rintro rfl
    cases h.first
  obtain ⟨wakes, hwakes⟩ : ∃ wakes, env.wakes timeout (rounds + 1) 0 queue =
      .ready (queue ++ env.arrivals 0) :: wakes := by
    refine ⟨env.wakes timeout rounds 1 [], ?_⟩
    rw [RecvEnv.wakes, if_neg (by rw [h.frozen 0]; exact Nat.not_le.2 htimeout)]
    dsimp only
    rw [h.ready 0 queue _ hqueue]
  obtain ⟨hwell, -⟩ := h.reachable.wellFormed
  have hframes : rx.frames = [] := List.length_eq_zero_iff.1 (rx.length_frames.trans h.empty)
  obtain ⟨rx', hrecv, -⟩ := recv_spec hwell hbuf (.ready (queue ++ env.arrivals 0) :: wakes)
  obtain ⟨rest, hrest⟩ := List.head?_eq_some_iff.1 h.first
  have hkept : Fifo.kept rx.ringSize rx.accepts (queue ++ env.arrivals 0) =
      f :: (rest ++ (env.arrivals 0).filterMap rx.accepts).take (rx.ringSize - 1) := by
    have hsize := hwell.size_ge
    rw [Fifo.kept, List.filterMap_append, hrest, List.cons_append, List.take_cons (by omega)]
  refine ⟨rx', ?_⟩
  rw [recvWithin, hwakes, hrecv, hframes, Fifo.recv, hkept, Fifo.recv_cons]

theorem recvWithin_iff (h : Waiting cfg env rx queue f rounds) (hbuf : buf ≠ []) :
    (∃ rx', rx.recvWithin env buf timeout queue rounds = .ok (deliver f buf, rx')) ↔
      0 < timeout := by
  constructor
  · rintro ⟨rx', hrecv⟩
    refine Nat.pos_of_ne_zero ?_
    rintro rfl
    rw [recvWithin_zero h hbuf] at hrecv
    cases hrecv
  · exact recvWithin_pos h hbuf

/-- What the caller of the C function gets of a frame. -/
def FfiReceived.Delivers (out : FfiReceived) (f : RxFrame) (buf : Bytes) : Prop :=
  out.code = wfbRsOk ∧ .frame out.outLen out.outMeta out.outBuf = deliver f buf

theorem wfbRxRecv_zero (h : Waiting cfg env rx queue f rounds) (hbuf : buf ≠ []) :
    wfbRxRecv env rx buf 0 queue rounds = ({ code := wfbRsErrTimeout, outBuf := buf }, rx) := by
  have hrecv : rx.recvWithin env buf ((0 : UInt32).toNat * 1000000) queue rounds =
      .ok (.nothing, rx) := recvWithin_zero h hbuf
  rw [wfbRxRecv, if_neg fun hzero => hbuf (List.length_eq_zero_iff.1 hzero), hrecv]

theorem wfbRxRecv_pos (h : Waiting cfg env rx queue f rounds) (hbuf : buf ≠ [])
    {timeoutMs : UInt32} (htimeout : timeoutMs ≠ 0) :
    ∃ out rx', wfbRxRecv env rx buf timeoutMs queue rounds = (out, rx') ∧ out.Delivers f buf := by
  have hpos : 0 < timeoutMs.toNat * 1000000 := by
    have hne : timeoutMs.toNat ≠ 0 := fun hn => htimeout (UInt32.toNat_inj.1 hn)
    omega
  obtain ⟨rx', hrecv⟩ := recvWithin_pos h hbuf hpos
  rw [wfbRxRecv, if_neg fun hzero => hbuf (List.length_eq_zero_iff.1 hzero), hrecv]
  exact ⟨_, rx', rfl, rfl, rfl⟩

theorem wfbRxRecv_iff (h : Waiting cfg env rx queue f rounds) (hbuf : buf ≠ [])
    {timeoutMs : UInt32} :
    (wfbRxRecv env rx buf timeoutMs queue rounds).1.Delivers f buf ↔ timeoutMs ≠ 0 := by
  constructor
  · rintro hdelivers rfl
    rw [wfbRxRecv_zero h hbuf] at hdelivers
    exact absurd hdelivers.1 (show ¬ wfbRsErrTimeout = wfbRsOk by decide)
  · intro htimeout
    obtain ⟨out, rx', hrecv, hdelivers⟩ := wfbRxRecv_pos h hbuf htimeout
    rw [hrecv]
    exact hdelivers

/-- What the caller of `recv_optional` gets of a frame. -/
def rxResult (f : RxFrame) (bufSize : ℕ) : Bytes × WfbRxMeta :=
  (f.payload.take bufSize, { f.metadata with truncated := decide (bufSize < f.payload.length) })

theorem FfiReceived.Delivers.result {out : FfiReceived} (h : out.Delivers f buf) :
    (out.outBuf.take out.outLen, out.outMeta) = rxResult f buf.length := by
  obtain ⟨hlen, hmeta, hbuf⟩ := Received.frame.inj h.2
  have htake : (f.payload.take buf.length).length = min f.payload.length buf.length := by
    rw [List.length_take, Nat.min_comm]
  rw [hlen, hmeta, hbuf, List.take_left' htake]
  rfl

theorem cUint32_eq_zero_iff {value : ℤ} : cUint32 value = 0 ↔ (2 ^ 32 : ℤ) ∣ value := by
  have hlow := Int.emod_nonneg value (show (2 ^ 32 : ℤ) ≠ 0 by decide)
  have hhigh := Int.emod_lt_of_pos value (show (0 : ℤ) < 2 ^ 32 by decide)
  rw [cUint32, ← UInt32.toNat_inj, UInt32.toNat_ofNat', Int.dvd_iff_emod_eq_zero]
  change (value % 2 ^ 32).toNat % 2 ^ 32 = 0 ↔ _
  omega

/-- A timeout and a buffer that are not refused. -/
theorem rxRecv_eq {timeoutMs : ℤ} (htimeout : 0 ≤ timeoutMs) {bufSize : Option ℤ} {size : ℕ}
    (hpos : 0 < size) (hsize : bufSize.getD computeMaxPayload = size) {out : FfiReceived}
    {rx' : WfbRx} (hrecv : wfbRxRecv env rx (List.replicate size 0) (cUint32 timeoutMs) queue rounds =
      (out, rx')) :
    rxRecv env false rx timeoutMs bufSize queue rounds =
      if out.code = wfbRsErrTimeout then (.error .timeout, rx')
      else if out.code ≠ wfbRsOk then
        (.error (.other (.wfbRsError s!"wfb_rx_recv failed with error code {out.code}")), rx')
      else (.ok (out.outBuf.take out.outLen, out.outMeta), rx') := by
  rw [rxRecv, hsize, Int.toNat_natCast]
  dsimp only
  rw [if_neg Bool.false_ne_true, if_neg (not_lt.2 htimeout), if_neg (by omega), hrecv]

theorem replicate_ne_nil {size : ℕ} (hpos : 0 < size) : List.replicate size (0 : UInt8) ≠ [] := by
  rw [Ne, List.replicate_eq_nil_iff]
  omega

theorem rxRecvOptional_of_dvd (h : Waiting cfg env rx queue f rounds) {timeoutMs : ℤ}
    (htimeout : 0 ≤ timeoutMs) {bufSize : Option ℤ} {size : ℕ} (hpos : 0 < size)
    (hsize : bufSize.getD computeMaxPayload = size) (hdvd : (2 ^ 32 : ℤ) ∣ timeoutMs) :
    rxRecvOptional env false rx timeoutMs bufSize queue rounds = (.ok none, rx) := by
  have hrecv := wfbRxRecv_zero h (replicate_ne_nil hpos)
  rw [← cUint32_eq_zero_iff.2 hdvd] at hrecv
  rw [rxRecvOptional, rxRecv_eq htimeout hpos hsize hrecv]
  rfl

theorem rxRecvOptional_of_not_dvd (h : Waiting cfg env rx queue f rounds) {timeoutMs : ℤ}
    (htimeout : 0 ≤ timeoutMs) {bufSize : Option ℤ} {size : ℕ} (hpos : 0 < size)
    (hsize : bufSize.getD computeMaxPayload = size) (hdvd : ¬ (2 ^ 32 : ℤ) ∣ timeoutMs) :
    (rxRecvOptional env false rx timeoutMs bufSize queue rounds).1 =
      .ok (some (rxResult f size)) := by
  obtain ⟨out, rx', hrecv, hdelivers⟩ := wfbRxRecv_pos h (replicate_ne_nil hpos)
    (fun hzero => hdvd (cUint32_eq_zero_iff.1 hzero))
  have hresult := hdelivers.result
  rw [List.length_replicate] at hresult
  rw [rxRecvOptional, rxRecv_eq htimeout hpos hsize hrecv, hdelivers.1, if_neg (by decide),
    if_neg (by decide), hresult]

theorem rxRecvOptional_iff (h : Waiting cfg env rx queue f rounds) {timeoutMs : ℤ}
    (htimeout : 0 ≤ timeoutMs) {bufSize : Option ℤ} {size : ℕ} (hpos : 0 < size)
    (hsize : bufSize.getD computeMaxPayload = size) :
    (rxRecvOptional env false rx timeoutMs bufSize queue rounds).1 =
        .ok (some (rxResult f size)) ↔ ¬ (2 ^ 32 : ℤ) ∣ timeoutMs := by
  constructor
  · intro hresult hdvd
    rw [rxRecvOptional_of_dvd h htimeout hpos hsize hdvd] at hresult
    cases hresult
  · exact rxRecvOptional_of_not_dvd h htimeout hpos hsize

end

/-- **A waiting frame is returned** by each of the three interfaces exactly when the timeout
that reaches the loop is not zero. -/
theorem waiting_frame_returned_iff {cfg : WfbRxConfig} {env : RecvEnv} {rx : WfbRx}
    {queue : List Bytes} {f : RxFrame} {rounds : ℕ} (h : Waiting cfg env rx queue f rounds) :
    (∀ buf timeout, buf ≠ [] →
      ((∃ rx', rx.recvWithin env buf timeout queue rounds = .ok (deliver f buf, rx')) ↔
        0 < timeout)) ∧
      (∀ buf timeoutMs, buf ≠ [] →
        ((wfbRxRecv env rx buf timeoutMs queue rounds).1.Delivers f buf ↔ timeoutMs ≠ 0)) ∧
      ∀ (timeoutMs : ℤ) (bufSize : Option ℤ) (size : ℕ), 0 ≤ timeoutMs → 0 < size →
        bufSize.getD computeMaxPayload = size →
          ((rxRecvOptional env false rx timeoutMs bufSize queue rounds).1 =
            .ok (some (rxResult f size)) ↔ ¬ (2 ^ 32 : ℤ) ∣ timeoutMs) :=
  ⟨fun _ _ hbuf => recvWithin_iff h hbuf, fun _ _ hbuf => wfbRxRecv_iff h hbuf,
    fun _ _ _ htimeout hpos hsize => rxRecvOptional_iff h htimeout hpos hsize⟩

/-! ### A receiver in front of a frame -/

def waitingRxConfig : WfbRxConfig :=
  { iface := "wlan1", streamId := 7, ignoreSelfInjected := true, ringSize := 4 }

def waitingTxConfig : WfbTxConfig :=
  { iface := "wlan0", streamId := 7, frameType := wfbFrameTypeData, mcsIndex := 0, bandwidth := 0 }

/-- Three bytes captured with an FCS. -/
def waitingPacket : Bytes :=
  captureHeader.bytes ++ (mpdu waitingTxConfig 0 { payload := [10, 20, 30], seq := 5, errno := none } ++
    [0xde, 0xad, 0xbe, 0xef])

def waitingFrame : RxFrame := ⟨[10, 20, 30], captureHeader.metadata 5⟩

/-- A clock that stands still and a `poll` that sees what waits. -/
def stillEnv : RecvEnv where
  elapsed := fun _ => 0
  poll := fun _ queue _ => if queue = [] then .nothing else .ready
  arrivals := fun _ => []

theorem waiting_packet {rx : WfbRx} (hopen : openRx waitingRxConfig (.ok ()) = .ok rx) :
    Waiting waitingRxConfig stillEnv rx [waitingPacket] waitingFrame 1 := by
  obtain ⟨hwell, hempty, -, -⟩ := openRx_eq_ok hopen
  have hdecode : rx.decodePacket waitingPacket = .ok (some ([10, 20, 30], captureHeader.metadata 5)) :=
    decodePacket_laid (length_ieee80211Header ..) (by decide) hwell.maxPayload_eq (fun _ => rfl)
      (by decide) rfl
  have haccepts : rx.accepts waitingPacket = some waitingFrame := by
    rw [accepts, hdecode]
    rfl
  exact {
    reachable := .opened hopen
    empty := by rw [← rx.length_frames, hempty]; rfl
    frozen := fun _ => rfl
    ready := fun _ _ _ hqueue => if_neg hqueue
    first := by rw [List.filterMap_cons, haccepts]; rfl
    rounds_pos := Nat.one_pos }

/-- With a nanosecond to wait the frame is returned. -/
theorem waiting_frame_returned_nanosecond :
    ∃ rx rx', Waiting waitingRxConfig stillEnv rx [waitingPacket] waitingFrame 1 ∧
      rx.recvWithin stillEnv [0, 0, 0] 1 [waitingPacket] 1 =
        .ok (deliver waitingFrame [0, 0, 0], rx') := by
  have h := waiting_packet (show openRx waitingRxConfig (.ok ()) = .ok _ from rfl)
  obtain ⟨rx', hrecv⟩ := ((waiting_frame_returned_iff h).1 [0, 0, 0] 1 (by decide)).2 Nat.one_pos
  exact ⟨_, rx', h, hrecv⟩

/-- **With no time to wait it is not**, nor with 2³² ms by the Python binding. -/
theorem waiting_frame_missed :
    ∃ rx, Waiting waitingRxConfig stillEnv rx [waitingPacket] waitingFrame 1 ∧
      rx.recvWithin stillEnv [0, 0, 0] 0 [waitingPacket] 1 = .ok (.nothing, rx) ∧
      (rxRecvOptional stillEnv false rx 0 none [waitingPacket] 1).1 = .ok none ∧
      (rxRecvOptional stillEnv false rx (2 ^ 32) none [waitingPacket] 1).1 = .ok none := by
  have h := waiting_packet (show openRx waitingRxConfig (.ok ()) = .ok _ from rfl)
  have hmissed : ∀ timeoutMs : ℤ, 0 ≤ timeoutMs → (2 ^ 32 : ℤ) ∣ timeoutMs →
      (rxRecvOptional stillEnv false _ timeoutMs none [waitingPacket] 1).1 = .ok none :=
    fun timeoutMs htimeout hdvd => congrArg Prod.fst
      (rxRecvOptional_of_dvd h htimeout (show 0 < computeMaxPayload by decide) rfl hdvd)
  exact ⟨_, h, recvWithin_zero h (by decide), hmissed 0 le_rfl (Int.dvd_zero _),
    hmissed (2 ^ 32) (by decide) (Int.dvd_refl _)⟩

end KovaWfb
