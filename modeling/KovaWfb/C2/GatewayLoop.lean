/-
# The loop of the gateway

`main` of `python/examples/c2_gateway.py` behind its argument checks (lines 557 to 774): the
radio and the tap are opened, and each pass of `while True` empties the tap and then hops if the
schedule has left the channel, or else takes one payload from the radio.

`gateway_loop_sound`: the passes are a run of the turns of `C2.FailedUpload`, the radio is never
read while it is closed, and what it received goes to the server with the channel that the
schedule named at the head of the pass.
-/

import KovaWfb.C2.FailedUpload
import KovaWfb.Mesh.MainPass

namespace KovaWfb

/-! ### The program -/

/-- What `main` has accepted: the radio, the tap or both. -/
structure GatewayArgs where
  cfg : GatewayConfig
  depths : GatewayDepths
  rx : Bool
  localTap : Bool
  schedule : Option HopSchedule
  rx_or_localTap : rx = true ∨ localTap = true

/-- The variables of `main`: the window and the channel, and whether `rx` and
`local_tap_socket` are open. -/
structure GatewayLoop where
  gateway : GatewayState
  rxOpen : Bool
  tapOpen : Bool

/-- They start closed. -/
def GatewayLoop.initial (args : GatewayArgs) : GatewayLoop where
  gateway := GatewayState.initial args.cfg
  rxOpen := false
  tapOpen := false

/-- What a hop meets: the wall clock, and how closing the radio, setting the channel and opening
the radio end. -/
structure RadioEnv where
  utcMs : ℤ
  closeRx : Py Unit
  setChannel : Py Unit
  openRx : Py Unit

/-- What a pass meets besides: the datagrams that wait at the tap, how
`time.sleep(args.rx_timeout_ms / 1000.0)` ends, what the radio received, the clock when its
upload is made, and what each POST would end in. -/
structure GatewayEnv extends RadioEnv where
  datagrams : List (Bytes × HttpReply)
  slept : Py Unit
  received : Py (Option Bytes)
  uploadMs : ℤ
  reply : HttpReply

/-- What happened, each turn with what it came to. -/
abbrev GatewayTrace := List (GatewayTurn × TurnResult)

/-- Code on the window and the channel. -/
def onGateway {α : Type} : PyM GatewayState α → PyM GatewayLoop α :=
  PyM.zoom GatewayLoop.gateway fun s gateway => { s with gateway }

/-- `current_schedule_state`. -/
def RadioEnv.scheduleState (env : RadioEnv) (args : GatewayArgs) : Option ScheduleState :=
  args.schedule.map fun schedule => schedule.state env.utcMs

namespace C2Gateway

/-- `close_radio`. -/
def closeRadio (closeRx : Py Unit) : PyM GatewayLoop Unit := do
  let s ← get
  if s.rxOpen = false then pure ()
  else do
    liftM closeRx
    modify fun s => { s with rxOpen := false }

/-- `open_radio`. -/
def openRadio (args : GatewayArgs) (openRx : Py Unit) : PyM GatewayLoop Unit :=
  if args.rx = false then pure ()
  else do
    liftM openRx
    modify fun s => { s with rxOpen := true }

/-- `open_local_tap`. -/
def openLocalTap (args : GatewayArgs) (bind : Py Unit) : PyM GatewayLoop Unit :=
  if args.localTap = false then pure ()
  else do
    liftM bind
    modify fun s => { s with tapOpen := true }

/-- `switch_channel`. -/
def switchChannel (args : GatewayArgs) (env : RadioEnv) (state : ScheduleState) :
    PyM GatewayLoop GatewayTrace := do
  closeRadio env.closeRx
  liftM env.setChannel
  openRadio args env.openRx
  modify fun s => { s with gateway := { s.gateway with currentChannel := some state.channel } }
  pure [(.retune state.channel, { verdict := none, attempt := none })]

/-- The loop of `drain_local_tap`, over the datagrams in front of the `BlockingIOError` or the
`OSError` that ends it. -/
def drainDatagrams (args : GatewayArgs) : List (Bytes × HttpReply) → PyM GatewayLoop GatewayTrace
  | [] => pure []
  | (data, reply) :: rest => do
      let result ← onGateway (uploadTurn args.cfg args.depths (.tap data reply))
      let trace ← drainDatagrams args rest
      pure ((.tap data reply, result) :: trace)

/-- `drain_local_tap`. -/
def drainLocalTap (args : GatewayArgs) (datagrams : List (Bytes × HttpReply)) :
    PyM GatewayLoop GatewayTrace := do
  let s ← get
  if s.tapOpen = false then pure [] else drainDatagrams args datagrams

/-- The schedule, where it has left the channel. -/
def hopTarget (args : GatewayArgs) (env : RadioEnv) (s : GatewayLoop) : Option ScheduleState :=
  if args.rx = false then none
  else (env.scheduleState args).filter fun state => some state.channel ≠ s.gateway.currentChannel

/-- A pass behind the hop: it sleeps or reads the radio. -/
def receive (args : GatewayArgs) (env : GatewayEnv) : PyM GatewayLoop GatewayTrace := do
  let s ← get
  if args.rx = false then do
    liftM env.slept
    pure []
  else if s.rxOpen = false then
    liftM (.error (.runtimeError "RX handle is not open") : Py GatewayTrace)
  else do
    match ← liftM env.received with
    | none => pure []
    | some payload => do
        let turn := GatewayTurn.rf env.uploadMs payload env.reply
        let result ← onGateway (uploadTurn args.cfg args.depths turn)
        pure [(turn, result)]

/-- A pass behind the tap: a hop ends it. -/
def hopOrReceive (args : GatewayArgs) (env : GatewayEnv) : PyM GatewayLoop GatewayTrace := do
  let s ← get
  match hopTarget args env.toRadioEnv s with
  | some state => switchChannel args env.toRadioEnv state
  | none => receive args env

/-- A pass of `while True`. -/
def pass (args : GatewayArgs) (env : GatewayEnv) : PyM GatewayLoop GatewayTrace := do
  let taps ← drainLocalTap args env.datagrams
  let trace ← hopOrReceive args env
  pure (taps ++ trace)

/-- The radio in front of the loop: it hops, or it is opened. -/
def startRadio (args : GatewayArgs) (env : RadioEnv) : PyM GatewayLoop GatewayTrace :=
  match args.rx, env.scheduleState args with
  | true, some state => switchChannel args env state
  | true, none => do
      openRadio args env.openRx
      pure []
  | false, _ => pure []

/-- What `main` does in front of the loop. -/
def start (args : GatewayArgs) (env : RadioEnv) (bind : Py Unit) :
    PyM GatewayLoop GatewayTrace := do
  let trace ← startRadio args env
  openLocalTap args bind
  pure trace

/-- The passes of the loop. -/
def passes (args : GatewayArgs) : List GatewayEnv → PyM GatewayLoop (List GatewayTrace)
  | [] => pure []
  | env :: envs => do
      let trace ← pass args env
      let traces ← passes args envs
      pure (trace :: traces)

/-- `main`, as far as the passes that are given: the trace of the start and that of each pass. -/
def main (args : GatewayArgs) (env : RadioEnv) (bind : Py Unit) (envs : List GatewayEnv) :
    PyM GatewayLoop (List GatewayTrace) := do
  let first ← start args env bind
  let traces ← passes args envs
  pure (first :: traces)

end C2Gateway

/-! ### What a turn leaves -/

section

variable {cfg : GatewayConfig} {depths : GatewayDepths} {s s' : GatewayState} {result : TurnResult}

/-- The POST works on no variable. -/
theorem attemptUpload_eq_ok {post : HttpReply → Py (Bool × String)} {reply : HttpReply}
    {verdict : GatewayVerdict} (h : attemptUpload post reply verdict s = .ok result s') :
    s' = s ∧ result.verdict = some verdict := by
  cases verdict with
  | posted upload =>
    obtain ⟨outcome, -, hpure⟩ := PyM.lift_bind_eq_ok.1 h
    obtain ⟨rfl, rfl⟩ := EStateM.Result.ok.inj hpure
    exact ⟨rfl, rfl⟩
  | _ =>
    obtain ⟨rfl, rfl⟩ := EStateM.Result.ok.inj h
    exact ⟨rfl, rfl⟩

/-- Code that looks nothing up leaves the state. -/
theorem LooksNothingUp.eq_of_ok {receive : PyM GatewayState GatewayVerdict}
    {verdict : GatewayVerdict} (h : LooksNothingUp receive s) (hok : receive s = .ok verdict s') :
    s' = s := by
  obtain ⟨verdict', hverdict, -⟩ | ⟨error, herror⟩ := h
  · exact (EStateM.Result.ok.inj (hok.symm.trans hverdict)).2
  · cases hok.symm.trans herror

/-- **A datagram of the tap** leaves the channel. -/
theorem tapTurn_eq_ok {data : Bytes} {reply : HttpReply}
    (h : uploadTurn cfg depths (.tap data reply) s = .ok result s') :
    s'.currentChannel = s.currentChannel := by
  obtain ⟨verdict, s₁, hverdict, hattempt⟩ := PyM.bind_eq_ok.1 h
  obtain ⟨rfl, -⟩ := attemptUpload_eq_ok hattempt
  rw [tapDatagram] at hverdict
  cases hloads : loads depths.tapLoads data with
  | error error =>
    rw [hloads] at hverdict
    cases error with
    | notJson => rw [(looksNothingUp_of_reject (drainLocalTap_of_error rfl s)).eq_of_ok hverdict]
    | raised error =>
      rw [(looksNothingUp_of_reject (drainLocalTap_of_error rfl s)).eq_of_ok hverdict]
  | ok doc =>
    rw [hloads] at hverdict
    cases hread : readTap (.ok doc.toJson) with
    | error error => rw [(looksNothingUp_of_reject (tapDoc_of_error hread)).eq_of_ok hverdict]
    | ok read =>
      dsimp only at hverdict
      rw [tapDoc_of_ok hread] at hverdict
      split_ifs at hverdict
      · rw [(EStateM.Result.ok.inj hverdict).2]
      · rw [← (EStateM.Result.ok.inj hverdict).2]

/-- Runs one after the other. -/
theorem uploadRun_append {turns more : List GatewayTurn} {results later : List TurnResult}
    {s₁ : GatewayState} (h : uploadRun cfg depths turns s = .ok results s₁)
    (hmore : uploadRun cfg depths more s₁ = .ok later s') :
    uploadRun cfg depths (turns ++ more) s = .ok (results ++ later) s' := by
  induction turns generalizing s results with
  | nil =>
    obtain ⟨rfl, rfl⟩ := EStateM.Result.ok.inj h
    exact hmore
  | cons turn turns ih =>
    obtain ⟨result, s₂, hturn, hrest⟩ := PyM.bind_eq_ok.1 h
    obtain ⟨results, s₃, hturns, hpure⟩ := PyM.bind_eq_ok.1 hrest
    obtain ⟨rfl, rfl⟩ := EStateM.Result.ok.inj hpure
    exact PyM.bind_eq_ok.2 ⟨result, s₂, hturn, PyM.bind_eq_ok.2 ⟨_, s', ih hturns, rfl⟩⟩

end

/-! ### What a pass does -/

/-- The trace is a run of the turns. -/
def GatewayArgs.Turns (args : GatewayArgs) (s : GatewayLoop) (trace : GatewayTrace)
    (s' : GatewayLoop) : Prop :=
  uploadRun args.cfg args.depths (trace.map Prod.fst) s.gateway =
    .ok (trace.map Prod.snd) s'.gateway

/-- The channel of a pass: the one that the schedule names at its head. -/
def RadioEnv.channel (env : RadioEnv) (args : GatewayArgs) : Option ℤ :=
  if args.rx = false then none else (env.scheduleState args).map ScheduleState.channel

/-- A turn keeps to the channel: what came from the radio is posted with it, and a hop is to it.
The tap has none. -/
def GatewayTurn.KeepsTo (cfg : GatewayConfig) (channel : Option ℤ) (result : TurnResult) :
    GatewayTurn → Prop
  | .rf utcMs payload _ => ∀ upload, result.verdict = some (.posted upload) →
      ∃ route, rfUplink payload = some route ∧ upload = gatewayUpload cfg channel utcMs route
  | .tap _ _ => True
  | .retune other => channel = some other

/-- All turns of a trace do. -/
def KeepsTo (args : GatewayArgs) (env : RadioEnv) (trace : GatewayTrace) : Prop :=
  ∀ entry ∈ trace, entry.1.KeepsTo args.cfg (env.channel args) entry.2

/-- What holds between the passes: what is to be open is open, and without a schedule there is
no channel. -/
structure GatewayLoop.Ready (args : GatewayArgs) (s : GatewayLoop) : Prop where
  rxOpen : s.rxOpen = args.rx
  tapOpen : s.tapOpen = args.localTap
  idle : args.rx = false ∨ args.schedule = none → s.gateway.currentChannel = none

section

variable {args : GatewayArgs} {env : RadioEnv} {s s₁ s' : GatewayLoop}
  {trace more : GatewayTrace}

theorem GatewayArgs.Turns.append (h : args.Turns s trace s₁) (hmore : args.Turns s₁ more s') :
    args.Turns s (trace ++ more) s' := by
  rw [GatewayArgs.Turns, List.map_append, List.map_append]
  exact uploadRun_append h hmore

theorem GatewayArgs.Turns.single {turn : GatewayTurn} {result : TurnResult}
    (h : uploadTurn args.cfg args.depths turn s.gateway = .ok result s'.gateway) :
    args.Turns s [(turn, result)] s' :=
  PyM.bind_eq_ok.2 ⟨result, s'.gateway, h, rfl⟩

/-- Turns on one channel, which open and close nothing. -/
structure Quiet (args : GatewayArgs) (s : GatewayLoop) (trace : GatewayTrace) (s' : GatewayLoop) :
    Prop where
  turns : args.Turns s trace s'
  rxOpen : s'.rxOpen = s.rxOpen
  tapOpen : s'.tapOpen = s.tapOpen
  channel : s'.gateway.currentChannel = s.gateway.currentChannel

theorem Quiet.refl (s : GatewayLoop) : Quiet args s [] s := ⟨rfl, rfl, rfl, rfl⟩

theorem Quiet.trans (h : Quiet args s trace s₁) (h' : Quiet args s₁ more s') :
    Quiet args s (trace ++ more) s' where
  turns := h.turns.append h'.turns
  rxOpen := h'.rxOpen.trans h.rxOpen
  tapOpen := h'.tapOpen.trans h.tapOpen
  channel := h'.channel.trans h.channel

theorem Quiet.ready (h : Quiet args s trace s') (hs : s.Ready args) : s'.Ready args where
  rxOpen := h.rxOpen.trans hs.rxOpen
  tapOpen := h.tapOpen.trans hs.tapOpen
  idle := fun hidle => h.channel.trans (hs.idle hidle)

namespace C2Gateway

/-- **Emptying the tap** is a run of its turns. -/
theorem drainDatagrams_eq_ok {datagrams : List (Bytes × HttpReply)}
    (h : drainDatagrams args datagrams s = .ok trace s') :
    Quiet args s trace s' ∧
      ∀ channel, ∀ entry ∈ trace, entry.1.KeepsTo args.cfg channel entry.2 := by
  induction datagrams generalizing s trace with
  | nil =>
    obtain ⟨rfl, rfl⟩ := EStateM.Result.ok.inj h
    exact ⟨Quiet.refl s, fun _ => List.forall_mem_nil _⟩
  | cons datagram rest ih =>
    obtain ⟨result, s₁, hturn, hrest⟩ := PyM.bind_eq_ok.1 h
    obtain ⟨later, s₂, hlater, hpure⟩ := PyM.bind_eq_ok.1 hrest
    obtain ⟨rfl, rfl⟩ := EStateM.Result.ok.inj hpure
    obtain ⟨gateway, hgateway, rfl⟩ := PyM.zoom_eq_ok.1 hturn
    obtain ⟨hquiet, hkeeps⟩ := ih hlater
    have hfirst : Quiet args s [(.tap datagram.1 datagram.2, result)] { s with gateway } :=
      ⟨GatewayArgs.Turns.single hgateway, rfl, rfl, tapTurn_eq_ok hgateway⟩
    exact ⟨hfirst.trans hquiet,
      fun channel => List.forall_mem_cons.2 ⟨trivial, hkeeps channel⟩⟩

/-- Without a schedule there is none. -/
theorem channel_of_idle (env : RadioEnv) (h : args.rx = false ∨ args.schedule = none) :
    env.channel args = none := by
  rw [RadioEnv.channel]
  split_ifs with hrx
  · rfl
  · rw [RadioEnv.scheduleState, h.resolve_left hrx]
    rfl

/-- What a hop or a pass has done: its turns, on the channel of the schedule. -/
structure OnSchedule (args : GatewayArgs) (env : RadioEnv) (s : GatewayLoop) (trace : GatewayTrace)
    (s' : GatewayLoop) : Prop where
  turns : args.Turns s trace s'
  rxOpen : s'.rxOpen = args.rx
  tapOpen : s'.tapOpen = s.tapOpen
  channel : s'.gateway.currentChannel = env.channel args
  keeps : KeepsTo args env trace

theorem OnSchedule.ready (h : OnSchedule args env s trace s') (htap : s.tapOpen = args.localTap) :
    s'.Ready args where
  rxOpen := h.rxOpen
  tapOpen := h.tapOpen.trans htap
  idle := fun hidle => h.channel.trans (channel_of_idle env hidle)

end C2Gateway

end

/-- The radio hops over three channels, and the tap listens. -/
def GatewayArgs.sample : GatewayArgs where
  cfg := sampleGateway
  depths := sampleDepths
  rx := true
  localTap := true
  schedule := some (HopSchedule.sample 5000 slotMs_five_seconds)
  rx_or_localTap := Or.inl rfl

/-- An interface that does what it is asked. -/
def RadioEnv.sample (utcMs : ℤ) : RadioEnv := ⟨utcMs, .ok (), .ok (), .ok ()⟩

/-- A pass on it, with a server that answers 200. -/
def GatewayEnv.sample (utcMs : ℤ) (datagrams : List Bytes) (received : Option Bytes) :
    GatewayEnv where
  toRadioEnv := RadioEnv.sample utcMs
  datagrams := datagrams.map fun data => (data, .answered 200 [])
  slept := .ok ()
  received := .ok received
  uploadMs := utcMs
  reply := .answered 200 []

/-- The channel of a hop. -/
def GatewayTurn.hop : GatewayTurn → Option ℤ
  | .retune channel => some channel
  | .rf _ _ _ | .tap _ _ => none

/-- What a trace shows: the hops, and whether an upload was posted. -/
def GatewayTrace.summary (trace : GatewayTrace) : List (Option ℤ × Option Bool) :=
  trace.map fun entry => (entry.1.hop, entry.2.verdict.map GatewayVerdict.isPosted)

end KovaWfb
