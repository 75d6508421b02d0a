/-
# The main loop

One pass of `while True` in `main` of `python/examples/mesh_txrx.py` (lines 2054 to 2606):
hop if the schedule says so and start over; else drain local control, evaluate the link, send
the periodic C2 image, one queued message of local control, the configured message and the
sync heartbeat, each if it is due and the guard of the last hop is over, and deal with what
the radio received.

The steps are those of the modules before, on their parts of the state of the loop.
-/

import KovaWfb.C2.ControlInput
import KovaWfb.Mesh.Heartbeat
import KovaWfb.Mesh.LinkHealth
import KovaWfb.Mesh.LocalControl
import KovaWfb.Mesh.OriginSound

namespace KovaWfb

/-! ### The loop -/

/-- What `main` has accepted when the loop starts. -/
structure MainConfig where
  node : NodeConfig
  origin : OriginConfig node
  heartbeat : HeartbeatConfig
  control : Option LocalControlConfig
  link : LinkHealthConfig
  channelTxGuardMs : ℤ
  c2UplinkStartCounter : ℤ
  link_senderId : link.senderId = node.senderId
  link_peerTimeoutS : link.peerTimeoutS = node.peerTimeoutS
  channelTxGuardMs_nonneg : 0 ≤ channelTxGuardMs

/-- `args.channel_tx_guard_ms / 1000.0`, where it is one. -/
def MainConfig.channelTxGuardS (main : MainConfig) : ℚ := main.channelTxGuardMs / 1000

/-- What the loop mutates. -/
structure MainState where
  loop : LoopState
  nextSyncAt : ℚ
  linkState : LinkState
  recoveryStartedAt : Option ℚ
  pendingLocalC2 : List LocalC2Message
  startedAt : ℚ

namespace MainState

/-- The state of the node. -/
def node (s : MainState) : NodeState := s.loop.node

/-- `link_health`. -/
def linkHealth (s : MainState) : LinkHealthTracker where
  toLinkHealth := s.node.linkHealth
  state := s.linkState
  recoveryStartedAt := s.recoveryStartedAt

/-- The part of the state that the heartbeat works on. -/
def heartbeat (s : MainState) : HeartbeatState := ⟨s.node, s.loop.txGuardUntil, s.nextSyncAt⟩

end MainState

/-- What the outside world answers to one send: the nonce, the radio, the wall clock, the local
tap and the C2 server. -/
structure SendEnv where
  urandom : Bytes
  urandom_length : urandom.length = chacha20Poly1305NonceSize
  radio : Option String
  utcMs : ℤ
  tap : Py Unit
  http : HttpReply

/-- What it answers during one pass: the wall clock at its head, how setting the channel ends
and when, the datagrams that wait at the local control socket with their senders, the
monotonic clock, the message file, what each send meets, and what the radio received. -/
structure PassEnv where
  utcMs : ℤ
  setChannel : Py Unit
  switchedAt : ℚ
  depthLimit : ℕ
  datagrams : List (Bytes × String)
  now : ℚ
  messageFile : Except String Bytes
  c2Uplink : SendEnv
  localC2 : SendEnv
  origin : SendEnv
  sync : SendEnv
  received : Py (Option Bytes)
  receivedAt : ℚ
  forward : SendEnv

/-- The surroundings of a send at a time. -/
def SendEnv.at (send : SendEnv) (now : ℚ) : Env :=
  ⟨send.urandom, send.urandom_length, send.radio, now, send.utcMs⟩

/-- `link_health.state` is one of those that set `STATUS_FLAG_DEGRADED_LINK`. -/
def LinkState.isDegraded : LinkState → Bool
  | .degraded | .isolated | .moving | .rtb => true
  | .nominal | .recovery => false

/-- The surroundings of an origination. -/
def PassEnv.originEnv (env : PassEnv) (s : MainState) (send : SendEnv) : OriginEnv where
  toEnv := send.at env.now
  startedAt := s.startedAt
  messageFile := env.messageFile
  degradedLink := s.linkState.isDegraded
  tap := send.tap
  http := send.http
  depthLimit := env.depthLimit

/-- Code on a part of the state. -/
def PyM.zoom {σ τ α : Type} (get : τ → σ) (put : τ → σ → τ) (x : PyM σ α) : PyM τ α := fun t =>
  match x (get t) with
  | .ok a s => .ok a (put t s)
  | .error error s => .error error (put t s)

/-- Code of origination inside the loop. -/
def onLoop {α : Type} : PyM LoopState α → PyM MainState α :=
  PyM.zoom MainState.loop fun s loop => { s with loop }

/-- Code of the heartbeat inside the loop. -/
def onHeartbeat {α : Type} : PyM HeartbeatState α → PyM MainState α :=
  PyM.zoom MainState.heartbeat fun s heartbeat =>
    { s with loop := { s.loop with node := heartbeat.node }, nextSyncAt := heartbeat.nextSyncAt }

/-- `current_schedule_state`, at the head of the pass. -/
def PassEnv.scheduleState (env : PassEnv) (cfg : NodeConfig) : Option ScheduleState :=
  cfg.schedule.map fun h => h.state env.utcMs

/-- The schedule, where it has left the channel of the node. -/
def hopTarget (cfg : NodeConfig) (env : PassEnv) (s : MainState) : Option ScheduleState :=
  (env.scheduleState cfg).filter fun state => some state.channel ≠ s.node.currentChannel

/-- The state behind a hop. -/
def MainState.hop (main : MainConfig) (switchedAt : ℚ) (state : ScheduleState) (s : MainState) :
    MainState :=
  { s with
    loop := { s.loop with
      node := { s.node with currentChannel := some state.channel }
      txGuardUntil := switchedAt + main.channelTxGuardS } }

/-- `switch_channel`.  Where the guard time raises, the channel is set already, but nothing reads
it any more. -/
def switchChannel (main : MainConfig) (setChannel : Py Unit) (switchedAt : ℚ)
    (state : ScheduleState) : PyM MainState Unit := do
  liftM setChannel
  let _ ← liftM (secondsOfMs main.channelTxGuardMs)
  modify (MainState.hop main switchedAt state)

/-- **A hop** that returns has set the channel, and the guard time has a double. -/
theorem switchChannel_eq_ok_iff {main : MainConfig} {setChannel : Py Unit} {switchedAt : ℚ}
    {state : ScheduleState} {s s' : MainState} :
    switchChannel main setChannel switchedAt state s = .ok () s' ↔
      setChannel = .ok () ∧ HasDouble main.channelTxGuardMs ∧ s' = s.hop main switchedAt state := by
  simp only [switchChannel, PyM.lift_bind_eq_ok, secondsOfMs_eq_ok_iff]
  constructor
  · rintro ⟨_, hset, _, ⟨hguard, -⟩, hhop⟩
    exact ⟨hset, hguard, (EStateM.Result.ok.inj hhop).2.symm⟩
  · rintro ⟨hset, hguard, rfl⟩
    exact ⟨(), hset, _, ⟨hguard, rfl⟩, rfl⟩

/-- What the outside world answers before the loop: the origin sequence number, the readings
of the monotonic clock, and what the first hop meets. -/
structure StartEnv where
  originSeq : SeqNo
  linkSeenAt : ℚ
  startedAt : ℚ
  nextTxAt : ℚ
  nextC2UplinkAt : ℚ
  nextSyncAt : ℚ
  utcMs : ℤ
  setChannel : Py Unit
  switchedAt : ℚ

/-- The variables of `main` when it starts. -/
def MainState.initial (main : MainConfig) (env : StartEnv) : MainState where
  loop :=
    { node := NodeState.initial main.node env.originSeq env.linkSeenAt none
      txGuardUntil := 0
      nextTxAt := env.nextTxAt
      nextC2UplinkAt := env.nextC2UplinkAt
      originatedCount := 0
      c2UplinkCounter := main.c2UplinkStartCounter }
  nextSyncAt := env.nextSyncAt
  linkState := .nominal
  recoveryStartedAt := none
  pendingLocalC2 := []
  startedAt := env.startedAt

/-- What `main` does in front of the loop: the first hop, if it hops at all. -/
def start (main : MainConfig) (env : StartEnv) : PyM MainState Unit :=
  match main.node.schedule with
  | none => pure ()
  | some schedule => switchChannel main env.setChannel env.switchedAt (schedule.state env.utcMs)

/-- The datagrams that wait, one after the other: the messages that are queued. -/
def drainDatagrams (control : LocalControlConfig) (depthLimit : ℕ) :
    List (Bytes × String) → PyM MainState (List LocalC2Message)
  | [] => pure []
  | (data, source) :: rest => do
      match ← liftM (drainLocalControl control depthLimit data source) with
      | .rejected _ => drainDatagrams control depthLimit rest
      | .queued message => do
          modify fun s => { s with pendingLocalC2 := s.pendingLocalC2 ++ [message] }
          let messages ← drainDatagrams control depthLimit rest
          pure (message :: messages)

/-- `drain_local_control_socket`. -/
def drainLocalControlSocket (main : MainConfig) (env : PassEnv) :
    PyM MainState (List LocalC2Message) :=
  match main.control with
  | none => pure []
  | some control => drainDatagrams control env.depthLimit env.datagrams

/-- `link_health.evaluate(now)`. -/
def MainState.evaluateLink (main : MainConfig) (now : ℚ) (s : MainState) : MainState :=
  let tracker := (s.linkHealth.evaluate main.link now).2
  { s with
    loop := { s.loop with node := { s.node with linkHealth := tracker.toLinkHealth } }
    linkState := tracker.state
    recoveryStartedAt := tracker.recoveryStartedAt }

/-- The step of local control: the message it took from the queue, and what became of it. -/
def localC2Step (A : Aead) (main : MainConfig) (env : PassEnv) :
    PyM MainState (Option (LocalC2Message × LocalControlOutcome)) := do
  let s ← get
  match s.pendingLocalC2 with
  | [] => pure none
  | control :: rest =>
      if ¬ s.loop.txGuardUntil ≤ env.now then pure none
      else do
        set { s with pendingLocalC2 := rest }
        let outcome ← onLoop (onNode (sendLocalC2 A main.node (env.localC2.at env.now) control))
        match outcome with
        | .sent sent => liftM (handOnSentRoute main.node (env.originEnv s env.localC2) sent.route)
        | _ => pure ()
        pure (some (control, outcome))

/-- The POST of a received packet. -/
def postReceived (env : PassEnv) : Verdict → Py Unit
  | .v2 a => if a.posted.isSome then do
      let _ ← postC2Upload env.depthLimit env.forward.http
      pure ()
    else pure ()
  | _ => pure ()

/-- Its datagram to the local tap. -/
def tapReceived (env : PassEnv) : Verdict → Py Unit
  | .v2 a => if a.tapped.isSome then env.forward.tap else pure ()
  | _ => pure ()

/-- The last step: what the radio received.  A POST or a tap that raises ends the loop, here
behind the forward instead of before it. -/
def receiveStep (A : Aead) (main : MainConfig) (env : PassEnv) : PyM MainState (Option Verdict) := do
  match ← liftM env.received with
  | none => pure none
  | some payload => do
      let verdict ← onLoop (onNode (receive A main.node (env.forward.at env.receivedAt) payload))
      liftM (postReceived env verdict)
      liftM (tapReceived env verdict)
      pure (some verdict)

/-- What the steps of a pass did. -/
structure PassReport where
  queued : List LocalC2Message
  c2Uplink : OriginOutcome
  localC2 : Option (LocalC2Message × LocalControlOutcome)
  message : OriginOutcome
  sync : Option SentRoute
  verdict : Option Verdict

/-- A pass: a hop, or work. -/
inductive Pass
  | switched (state : ScheduleState)
  | worked (report : PassReport)

/-- The pass behind the hop. -/
def work (A : Aead) (main : MainConfig) (gradient : Gradient) (env : PassEnv) :
    PyM MainState PassReport := do
  let queued ← drainLocalControlSocket main env
  modify (MainState.evaluateLink main env.now)
  let s ← get
  let originPayload ← onLoop (originPayloadStep main.node main.origin (env.originEnv s env.origin))
  let c2Uplink ← onLoop (c2UplinkStep A main.node main.origin gradient
    (env.originEnv s env.c2Uplink))
  let localC2 ← localC2Step A main env
  let message ← onLoop (originateStep A main.node main.origin (env.originEnv s env.origin)
    originPayload)
  let sync ← onHeartbeat (heartbeatStep A main.node main.heartbeat (env.sync.at env.now))
  let verdict ← receiveStep A main env
  pure { queued, c2Uplink, localC2, message, sync, verdict }

/-- One pass of the loop. -/
def pass (A : Aead) (main : MainConfig) (gradient : Gradient) (env : PassEnv) :
    PyM MainState Pass := do
  let s ← get
  match hopTarget main.node env s with
  | some state => do
      switchChannel main env.setChannel env.switchedAt state
      pure (.switched state)
  | none => do
      let report ← work A main gradient env
      pure (.worked report)

/-! ### Samples -/

/-- A node to run the model with that hops every five seconds. -/
def NodeConfig.sampleTraveller : NodeConfig :=
  { NodeConfig.sampleOrigin 1 senderId_one with
    schedule := some (HopSchedule.sample 5000 slotMs_five_seconds) }

theorem sample_peerTimeoutS :
    (LinkHealthConfig.sample 5000 slotMs_five_seconds).peerTimeoutS =
      NodeConfig.sampleTraveller.peerTimeoutS := by decide +kernel

/-- What `main` has accepted, to run the model with. -/
def MainConfig.sample : MainConfig where
  node := NodeConfig.sampleTraveller
  origin := { originMesh with c2Uplink_key := originMesh.c2Uplink_key }
  heartbeat := HeartbeatConfig.sample
  control := some LocalControlConfig.sample
  link := LinkHealthConfig.sample 5000 slotMs_five_seconds
  channelTxGuardMs := 1000
  c2UplinkStartCounter := 0
  link_senderId := rfl
  link_peerTimeoutS := sample_peerTimeoutS
  channelTxGuardMs_nonneg := interval_nonneg

/-- What it meets before the loop. -/
def StartEnv.sample : StartEnv where
  originSeq := .one
  linkSeenAt := 0
  startedAt := 0
  nextTxAt := 0
  nextC2UplinkAt := 0
  nextSyncAt := 0
  utcMs := 0
  setChannel := .ok ()
  switchedAt := 0

/-- The state at the head of the loop, on the first channel. -/
def MainState.sample : MainState :=
  (MainState.initial MainConfig.sample StartEnv.sample).hop MainConfig.sample 0
    ((HopSchedule.sample 5000 slotMs_five_seconds).state 0)

theorem MainState.sample_of_start :
    start MainConfig.sample StartEnv.sample (MainState.initial MainConfig.sample StartEnv.sample) =
      .ok () MainState.sample :=
  switchChannel_eq_ok_iff.mpr ⟨rfl, interval_hasDouble, rfl⟩

/-- What a send meets. -/
def SendEnv.sample (utcMs : ℤ) : SendEnv where
  urandom := Env.sample.urandom
  urandom_length := Env.sample.urandom_length
  radio := none
  utcMs := utcMs
  tap := .ok ()
  http := .unreachable "no server"

/-- What a pass meets at a time in seconds, with one datagram waiting. -/
def PassEnv.sample (now : ℕ) : PassEnv where
  utcMs := 1000 * now
  setChannel := .ok ()
  switchedAt := now
  depthLimit := 100
  datagrams := [(messageHi, "127.0.0.1")]
  now := now
  messageFile := .error "no message file"
  c2Uplink := SendEnv.sample (1000 * now)
  localC2 := SendEnv.sample (1000 * now)
  origin := SendEnv.sample (1000 * now)
  sync := SendEnv.sample (1000 * now)
  received := .ok none
  receivedAt := now
  forward := SendEnv.sample (1000 * now)

end KovaWfb
