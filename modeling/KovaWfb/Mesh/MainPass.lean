/-
# A pass of the main loop

What one pass of `main` of `python/examples/mesh_txrx.py` does to the node, to its timers, to
the queue of local control and to the count of messages (`pass_spec`), put together from what
its steps do.
-/

import KovaWfb.Lib.Timer
import KovaWfb.Mesh.MainLoop
import KovaWfb.Mesh.Sequence

namespace KovaWfb

/-! ### Turns of the node -/

theorem PyM.zoom_eq_ok {σ τ α : Type} {get : τ → σ} {put : τ → σ → τ} {x : PyM σ α} {t t' : τ} {a : α} :
    PyM.zoom get put x t = .ok a t' ↔ ∃ s, x (get t) = .ok a s ∧ t' = put t s := by
  rw [PyM.zoom]
  cases x (get t) with
  | ok b s =>
    constructor
    · intro h
      obtain ⟨rfl, rfl⟩ := EStateM.Result.ok.inj h
      exact ⟨s, rfl, rfl⟩
    · rintro ⟨_, h, rfl⟩
      obtain ⟨rfl, rfl⟩ := EStateM.Result.ok.inj h
      rfl
  | error error s =>
    constructor
    · intro h
      cases h
    · rintro ⟨_, h, -⟩
      cases h

theorem onNode_eq_ok {α : Type} {x : PyM NodeState α} {s s' : LoopState} {a : α} :
    onNode x s = .ok a s' ↔ ∃ node, x s.node = .ok a node ∧ s' = { s with node } := by
  have hzoom : onNode x s = PyM.zoom LoopState.node (fun s node => { s with node }) x s := by
    rw [onNode, PyM.zoom]
    cases x s.node <;> rfl
  rw [hzoom]
  exact PyM.zoom_eq_ok

section

variable {A : Aead} {cfg : NodeConfig} {env : Env} {n n' n'' : NodeState}
  {own own' sent sent' : List RadioFrame}

/-- Turns of the node on one channel: the frames it originated, and all that it handed to the
radio. -/
structure NodeTurns (A : Aead) (cfg : NodeConfig) (n : NodeState) (own sent : List RadioFrame)
    (n' : NodeState) : Prop where
  run : ∃ ticks, NodeRun A cfg n ticks n' ∧ originatedFrames ticks = own ∧
    transmittedFrames ticks = sent
  channel : n'.currentChannel = n.currentChannel

theorem NodeTurns.none (n : NodeState) : NodeTurns A cfg n [] [] n := ⟨⟨[], .nil n, rfl, rfl⟩, rfl⟩

theorem NodeTurns.append (h : NodeTurns A cfg n own sent n') (h' : NodeTurns A cfg n' own' sent' n'') :
    NodeTurns A cfg n (own ++ own') (sent ++ sent') n'' := by
  obtain ⟨⟨ticks, hrun, rfl, rfl⟩, hchannel⟩ := h
  obtain ⟨⟨ticks', hrun', rfl, rfl⟩, hchannel'⟩ := h'
  refine ⟨⟨ticks ++ ticks', NodeRun.append_iff.mpr ⟨n', hrun, hrun'⟩, ?_, ?_⟩,
    hchannel'.trans hchannel⟩
  · exact List.filterMap_append
  · exact List.filterMap_append

/-- One turn. -/
theorem NodeTurns.of_step {event : NodeEvent} (h : NodeStep A cfg n event n')
    (hchannel : n'.currentChannel = n.currentChannel) :
    NodeTurns A cfg n event.originated.toList event.transmitted.toList n' := by
  refine ⟨⟨[⟨n, event, n'⟩], .cons h (.nil n'), ?_, ?_⟩, hchannel⟩
  · cases hevent : event.originated <;> simp [originatedFrames, hevent]
  · cases hevent : event.transmitted <;> simp [transmittedFrames, hevent]

theorem turns_sendRoute {innerType destinationId ttl : ℤ} {payload : Bytes} {r : SentRoute}
    (h : sendRoute A cfg env innerType payload destinationId ttl n = .ok r n') :
    NodeTurns A cfg n [r.frame] [r.frame] n' := by
  obtain ⟨_, -, -, -, -, -, -, hn'⟩ := sendRoute_eq_ok.mp h
  exact .of_step (.sendRoute env innerType payload destinationId ttl r n n' h) (by rw [hn']; rfl)

theorem turns_sendRouteV2 {innerType destinationType destinationId ttl trafficClass : ℤ}
    {payload : Bytes} {r : SentRouteV2}
    (h : sendRouteV2 A cfg env innerType payload destinationType destinationId ttl trafficClass n =
      .ok r n') : NodeTurns A cfg n [r.frame] [r.frame] n' := by
  obtain ⟨_, _, -, -, -, -, -, -, -, -, hn'⟩ := sendRouteV2_eq_ok.mp h
  exact .of_step (.sendRouteV2 env innerType payload destinationType destinationId ttl trafficClass
    r n n' h) (by rw [hn']; rfl)

/-- What is received leaves the channel. -/
theorem receive_channel {payload : Bytes} {v : Verdict} (h : receive A cfg env payload n = .ok v n') :
    n'.currentChannel = n.currentChannel := by
  cases receive_eq_ok_iff.mp h with
  | invalid | other => rfl
  | v2 f _ _ _ _ hreceive =>
    cases hreceive with
    | invalid | own | duplicate | invalidE2e | authFail => rfl
    | accepted a s₁ _ hroute _ _ _ _ hauth _ _ hforward =>
      obtain ⟨hr, -, -, -⟩ := decodeRouteV2Payload_eq_ok_iff.mp hroute
      obtain ⟨replay, rfl⟩ := AcceptedV2.auth_frame hauth
      obtain ⟨-, -, rfl⟩ | ⟨-, -, -, -, -, rfl⟩ := (forwardRouteV2_eq_ok_iff hr).mp hforward
      · rfl
      · rfl
  | data f _ _ _ _ hreceive =>
    cases hreceive with
    | invalid | own | duplicate | authFail => rfl
    | accepted a s₁ _ hroute _ _ hauth _ hforward =>
      obtain ⟨replay, rfl⟩ := decryptMeshPayload_frame hauth
      obtain ⟨-, -, rfl⟩ | ⟨-, _, -, -, -, -, -, -, rfl⟩ := forwardRouteData_eq_ok_iff.mp hforward
      · rfl
      · rfl

theorem turns_receive {payload : Bytes} {v : Verdict} (h : receive A cfg env payload n = .ok v n') :
    NodeTurns A cfg n [] v.sent.toList n' :=
  .of_step (.receive env payload v n n' h) (receive_channel h)

end

/-! ### The steps of origination -/

/-- The frames that a step of origination handed to the radio. -/
def OriginOutcome.frames : OriginOutcome → List RadioFrame
  | .idle | .logged _ => []
  | .sent packet => [packet.frame]
  | .sentV2 packet => [packet.frame]

/-- The step was due. -/
def OriginOutcome.wasDue : OriginOutcome → Bool
  | .idle => false
  | .logged _ | .sent _ | .sentV2 _ => true

section

variable {A : Aead} {cfg : NodeConfig} {origin : OriginConfig cfg} {gradient : Gradient}
  {env : OriginEnv} {s s' : LoopState} {outcome : OriginOutcome}

/-- What is left of the loop's state when a payload was built. -/
theorem originPayloadStep_eq_ok {payload : Option Bytes}
    (h : originPayloadStep cfg origin env s = .ok payload s') :
    s' = s ∨ s' = { s with nextTxAt := env.monotonic + origin.txIntervalS } ∧ payload = none := by
  rw [originPayloadStep_apply] at h
  cases hbuild : buildOriginPayload cfg origin env s.node with
  | ok built =>
    rw [hbuild] at h
    cases h
    exact Or.inl rfl
  | error error =>
    rw [hbuild] at h
    obtain ⟨intervalS, hinterval, hrest⟩ := PyM.lift_bind_eq_ok.1 h
    obtain ⟨-, rfl⟩ := secondsOfMs_eq_ok_iff.mp hinterval
    cases hrest
    exact Or.inr ⟨rfl, rfl⟩

theorem sendC2Uplink_eq_ok {uplink : C2UplinkConfig} {sent : SentRouteV2}
    (h : sendC2Uplink A cfg gradient env uplink s = .ok sent s') :
    ∃ node, NodeTurns A cfg s.node [sent.frame] [sent.frame] node ∧ s' = { s with node } := by
  rw [sendC2Uplink, PyM.get_bind_apply, PyM.lift_bind_eq_ok] at h
  obtain ⟨image, -, h⟩ := h
  obtain ⟨node, hsend, rfl⟩ := onNode_eq_ok.mp h
  exact ⟨node, turns_sendRouteV2 hsend, rfl⟩

theorem sendC2Uplink_error {uplink : C2UplinkConfig} {error : PyError}
    (h : sendC2Uplink A cfg gradient env uplink s = .error error s') : s' = s := by
  rw [sendC2Uplink, PyM.get_bind_apply, PyM.lift_bind_eq_error] at h
  obtain ⟨-, rfl⟩ | ⟨image, -, h⟩ := h
  · rfl
  · unfold onNode at h
    split at h
    · cases h
    · rename_i hsend
      cases h
      rw [sendRouteV2_error hsend]

/-- **The step of the periodic C2 image** is idle, or was due and allowed. -/
theorem c2UplinkStep_eq_ok (h : c2UplinkStep A cfg origin gradient env s = .ok outcome s') :
    (outcome = .idle ∧ s' = s) ∨
      (outcome.wasDue = true ∧ ∃ uplink node counter, origin.c2Uplink = some uplink ∧
        s.ShouldSendC2Uplink env ∧ NodeTurns A cfg s.node outcome.frames outcome.frames node ∧
        s' = { s with
          node
          c2UplinkCounter := counter
          nextC2UplinkAt := env.monotonic + uplink.intervalS }) := by
  rw [c2UplinkStep, PyM.get_bind_apply] at h
  rcases huplink : origin.c2Uplink with _ | uplink <;> rw [huplink] at h <;> dsimp only at h
  · cases h
    exact Or.inl ⟨rfl, rfl⟩
  by_cases hdue : s.ShouldSendC2Uplink env
  swap
  · rw [if_pos hdue] at h
    cases h
    exact Or.inl ⟨rfl, rfl⟩
  rw [if_neg (not_not.mpr hdue)] at h
  obtain ⟨result, s₁, htry, hrest⟩ := PyM.bind_eq_ok.1 h
  rw [exceptValueError] at htry
  cases hsend : sendC2Uplink A cfg gradient env uplink s with
  | ok sent s₂ =>
    rw [hsend] at htry
    cases htry
    obtain ⟨node, hturns, rfl⟩ := sendC2Uplink_eq_ok hsend
    simp only [pure_bind, PyM.lift_bind_eq_ok, PyM.modify_bind_apply] at hrest
    obtain ⟨-, -, intervalS, hinterval, hrest⟩ := hrest
    obtain ⟨-, rfl⟩ := secondsOfMs_eq_ok_iff.mp hinterval
    cases hrest
    exact Or.inr ⟨rfl, uplink, node, _, rfl, hdue, hturns, rfl⟩
  | error error s₂ =>
    rw [hsend] at htry
    obtain rfl := sendC2Uplink_error hsend
    dsimp only at htry
    split_ifs at htry
    cases htry
    obtain ⟨intervalS, hinterval, hrest⟩ := PyM.lift_bind_eq_ok.1 hrest
    obtain ⟨-, rfl⟩ := secondsOfMs_eq_ok_iff.mp hinterval
    cases hrest
    exact Or.inr ⟨rfl, uplink, _, _, rfl, hdue, .none _, rfl⟩

/-- **The configured message is sent** in one frame. -/
theorem sendOrigin_eq_ok {payload : Bytes} (h : sendOrigin A cfg origin env payload s = .ok outcome s') :
    outcome.wasDue = true ∧ outcome.frames.length = 1 ∧
      ∃ node, NodeTurns A cfg s.node outcome.frames outcome.frames node ∧ s' = { s with node } := by
  unfold sendOrigin at h
  split_ifs at h
  · obtain ⟨sent, s₁, hnode, h⟩ := PyM.bind_eq_ok.1 h
    obtain ⟨node, hsend, rfl⟩ := onNode_eq_ok.mp hnode
    obtain ⟨-, -, h⟩ := PyM.lift_bind_eq_ok.1 h
    cases h
    exact ⟨rfl, rfl, node, turns_sendRouteV2 hsend, rfl⟩
  · obtain ⟨sent, s₁, hnode, h⟩ := PyM.bind_eq_ok.1 h
    obtain ⟨node, hsend, rfl⟩ := onNode_eq_ok.mp hnode
    cases h
    exact ⟨rfl, rfl, node, turns_sendRoute hsend, rfl⟩

/-- **The step of the configured message** is idle, or was due and allowed and sent one
frame. -/
theorem originateStep_eq_ok {payload : Option Bytes}
    (h : originateStep A cfg origin env payload s = .ok outcome s') :
    (outcome = .idle ∧ s' = s) ∨
      (outcome.wasDue = true ∧ outcome.frames.length = 1 ∧ payload ≠ none ∧
        s.ShouldOriginate origin env ∧
        ∃ node, NodeTurns A cfg s.node outcome.frames outcome.frames node ∧
          s' = { s with
            node
            originatedCount := s.originatedCount + 1
            nextTxAt := env.monotonic + origin.txIntervalS }) := by
  rw [originateStep, PyM.get_bind_apply] at h
  rcases payload with _ | payload <;> dsimp only at h
  · cases h
    exact Or.inl ⟨rfl, rfl⟩
  by_cases hdue : s.ShouldOriginate origin env
  swap
  · rw [if_pos hdue] at h
    cases h
    exact Or.inl ⟨rfl, rfl⟩
  rw [if_neg (not_not.mpr hdue)] at h
  obtain ⟨sent, s₁, hsend, h⟩ := PyM.bind_eq_ok.1 h
  obtain ⟨hwas, hone, node, hturns, rfl⟩ := sendOrigin_eq_ok hsend
  rw [PyM.modify_bind_apply] at h
  obtain ⟨intervalS, hinterval, hrest⟩ := PyM.lift_bind_eq_ok.1 h
  obtain ⟨-, rfl⟩ := secondsOfMs_eq_ok_iff.mp hinterval
  cases hrest
  exact Or.inr ⟨hwas, hone, Option.some_ne_none _, hdue, node, hturns, rfl⟩

end

/-- **The heartbeat step** is idle, or was due and allowed and sent one frame. -/
theorem heartbeatStep_eq_ok {A : Aead} {cfg : NodeConfig} {heartbeat : HeartbeatConfig} {env : Env}
    {s s' : HeartbeatState} {sync : Option SentRoute}
    (h : heartbeatStep A cfg heartbeat env s = .ok sync s') :
    (sync = none ∧ s' = s) ∨
      ∃ sent node, sync = some sent ∧ s.ShouldSync heartbeat env ∧
        NodeTurns A cfg s.node [sent.frame] [sent.frame] node ∧
        s' = { s with node, nextSyncAt := env.monotonic + heartbeat.syncIntervalS } := by
  rw [heartbeatStep, PyM.get_bind_apply] at h
  by_cases hdue : s.ShouldSync heartbeat env
  swap
  · rw [if_pos hdue] at h
    cases h
    exact Or.inl ⟨rfl, rfl⟩
  rw [if_neg (not_not.mpr hdue)] at h
  obtain ⟨⟨payload, state⟩, -, h⟩ := PyM.lift_bind_eq_ok.1 h
  obtain ⟨sent, s₁, hsend, h⟩ := PyM.bind_eq_ok.1 h
  obtain ⟨intervalS, hinterval, h⟩ := PyM.lift_bind_eq_ok.1 h
  obtain ⟨-, rfl⟩ := secondsOfMs_eq_ok_iff.mp hinterval
  unfold HeartbeatState.onNode at hsend
  split at hsend
  · rename_i hsend'
    cases hsend
    cases h
    exact Or.inr ⟨sent, _, rfl, hdue, turns_sendRoute hsend', rfl⟩
  · cases hsend

/-! ### The other steps -/

/-- The frame that the step of local control handed to the radio. -/
def LocalControlOutcome.frames : LocalControlOutcome → List RadioFrame
  | .rejected _ | .sendError _ => []
  | .sent packet => [packet.frame]

section

variable {A : Aead} {main : MainConfig} {gradient : Gradient} {env : PassEnv} {s s' : MainState}

theorem drainDatagrams_eq_ok {control : LocalControlConfig} {depthLimit : ℕ}
    {datagrams : List (Bytes × String)} {queued : List LocalC2Message}
    (h : drainDatagrams control depthLimit datagrams s = .ok queued s') :
    s' = { s with pendingLocalC2 := s.pendingLocalC2 ++ queued } := by
  induction datagrams generalizing s queued with
  | nil =>
    cases h
    rw [List.append_nil]
  | cons datagram rest ih =>
    obtain ⟨data, source⟩ := datagram
    obtain ⟨event, -, h⟩ := PyM.lift_bind_eq_ok.1 h
    cases event with
    | rejected error => exact ih h
    | queued message =>
      dsimp only at h
      rw [PyM.modify_bind_apply] at h
      obtain ⟨messages, s₁, hrest, hpure⟩ := PyM.bind_eq_ok.1 h
      cases hpure
      rw [ih hrest]
      dsimp only
      rw [List.append_assoc, List.singleton_append]

theorem drainLocalControlSocket_eq_ok {queued : List LocalC2Message}
    (h : drainLocalControlSocket main env s = .ok queued s') :
    s' = { s with pendingLocalC2 := s.pendingLocalC2 ++ queued } := by
  unfold drainLocalControlSocket at h
  rcases hcontrol : main.control with _ | control <;> rw [hcontrol] at h
  · cases h
    rw [List.append_nil]
  · exact drainDatagrams_eq_ok h

theorem turns_evaluateLink (main : MainConfig) (now : ℚ) (s : MainState) :
    NodeTurns A main.node s.node [] [] (s.evaluateLink main now).node :=
  .of_step (.idle (s.linkHealth.evaluate main.link now).2.toLinkHealth s.node.currentChannel s.node)
    rfl

theorem turns_sendLocalC2 {cfg : NodeConfig} {env : Env} {message : LocalC2Message} {n n' : NodeState}
    {outcome : LocalControlOutcome} (h : sendLocalC2 A cfg env message n = .ok outcome n') :
    NodeTurns A cfg n outcome.frames outcome.frames n' := by
  obtain ⟨sent, n₁, hsend, h⟩ | ⟨error, n₁, hsend, h⟩ := PyM.exceptAppFrameError_bind_eq_ok.mp h
  · cases h
    exact turns_sendRouteV2 hsend
  · cases h
    rw [sendRouteV2_error hsend]
    exact .none n

/-- **The step of local control** takes nothing, or the first message of the queue if the
guard is over. -/
theorem localC2Step_eq_ok {taken : Option (LocalC2Message × LocalControlOutcome)}
    (h : localC2Step A main env s = .ok taken s') :
    (taken = none ∧ s' = s ∧ (s.pendingLocalC2 = [] ∨ ¬ s.loop.txGuardUntil ≤ env.now)) ∨
      ∃ message outcome rest node, taken = some (message, outcome) ∧
        s.loop.txGuardUntil ≤ env.now ∧ s.pendingLocalC2 = message :: rest ∧
        sendLocalC2 A main.node (env.localC2.at env.now) message s.node = .ok outcome node ∧
        s' = { s with loop := { s.loop with node }, pendingLocalC2 := rest } := by
  rw [localC2Step, PyM.get_bind_apply] at h
  rcases hpending : s.pendingLocalC2 with _ | ⟨message, rest⟩ <;> rw [hpending] at h <;>
    dsimp only at h
  · cases h
    exact Or.inl ⟨rfl, rfl, Or.inl rfl⟩
  by_cases hguard : s.loop.txGuardUntil ≤ env.now
  swap
  · rw [if_pos hguard] at h
    cases h
    exact Or.inl ⟨rfl, rfl, Or.inr hguard⟩
  rw [if_neg (not_not.mpr hguard), PyM.bind_apply, PyM.set_apply] at h
  obtain ⟨outcome, s₁, hsend, hrest⟩ := PyM.bind_eq_ok.1 h
  obtain ⟨loop, hloop, rfl⟩ := PyM.zoom_eq_ok.mp hsend
  obtain ⟨node, hnode, rfl⟩ := onNode_eq_ok.mp hloop
  refine Or.inr ⟨message, outcome, rest, node, ?_⟩
  cases outcome with
  | sent packet =>
    obtain ⟨-, -, hpure⟩ := PyM.lift_bind_eq_ok.1 hrest
    cases hpure
    exact ⟨rfl, hguard, rfl, hnode, rfl⟩
  | rejected error =>
    cases hrest
    exact ⟨rfl, hguard, rfl, hnode, rfl⟩
  | sendError error =>
    cases hrest
    exact ⟨rfl, hguard, rfl, hnode, rfl⟩

theorem receiveStep_eq_ok {verdict : Option Verdict} (h : receiveStep A main env s = .ok verdict s') :
    (verdict = none ∧ s' = s) ∨
      ∃ payload v node, verdict = some v ∧ env.received = .ok (some payload) ∧
        receive A main.node (env.forward.at env.receivedAt) payload s.node = .ok v node ∧
        s' = { s with loop := { s.loop with node } } := by
  obtain ⟨received, hreceived, h⟩ := PyM.lift_bind_eq_ok.1 h
  rcases received with _ | payload
  · cases h
    exact Or.inl ⟨rfl, rfl⟩
  · obtain ⟨v, s₁, hreceive, h⟩ := PyM.bind_eq_ok.1 h
    obtain ⟨loop, hloop, rfl⟩ := PyM.zoom_eq_ok.mp hreceive
    obtain ⟨node, hnode, rfl⟩ := onNode_eq_ok.mp hloop
    obtain ⟨-, -, h⟩ := PyM.lift_bind_eq_ok.1 h
    obtain ⟨-, -, h⟩ := PyM.lift_bind_eq_ok.1 h
    cases h
    exact Or.inr ⟨payload, v, node, rfl, hreceived, hnode, rfl⟩

end

/-! ### What a pass does -/

namespace PassReport

/-- The message that was taken from the queue. -/
def taken (report : PassReport) : List LocalC2Message := (report.localC2.map Prod.fst).toList

/-- The frames that the node originated, in their order. -/
def own (report : PassReport) : List RadioFrame :=
  report.c2Uplink.frames ++ (report.localC2.map fun taken => taken.2.frames).getD [] ++
    report.message.frames ++ (report.sync.map SentRoute.frame).toList

/-- All that it handed to the radio. -/
def sent (report : PassReport) : List RadioFrame :=
  report.own ++ (report.verdict.bind Verdict.sent).toList

end PassReport

/-- What the pass behind the hop does. -/
structure WorkSpec (A : Aead) (main : MainConfig) (env : PassEnv) (s : MainState)
    (report : PassReport) (s' : MainState) : Prop where
  turns : NodeTurns A main.node s.node report.own report.sent s'.node
  guard_kept : s'.loop.txGuardUntil = s.loop.txGuardUntil
  guarded : report.own ≠ [] → s.loop.txGuardUntil ≤ env.now
  taken_guarded : report.taken ≠ [] → s.loop.txGuardUntil ≤ env.now
  queue : s.pendingLocalC2 ++ report.queued = report.taken ++ s'.pendingLocalC2
  served : report.taken = [] → s'.pendingLocalC2 = [] ∨ ¬ s.loop.txGuardUntil ≤ env.now
  handled : ∀ message outcome, report.localC2 = some (message, outcome) →
    ∃ n n', sendLocalC2 A main.node (env.localC2.at env.now) message n = .ok outcome n'
  c2Timer : ∀ uplink ∈ main.origin.c2Uplink, Timer.Turn uplink.intervalS s.loop.nextC2UplinkAt
    (env.now, report.c2Uplink.wasDue) s'.loop.nextC2UplinkAt
  txTimer : Timer.Turn main.origin.txIntervalS s.loop.nextTxAt (env.now, report.message.wasDue)
    s'.loop.nextTxAt
  syncTimer : Timer.Turn main.heartbeat.syncIntervalS s.nextSyncAt (env.now, report.sync.isSome)
    s'.nextSyncAt
  one_message : report.message.frames.length = if report.message.wasDue then 1 else 0
  counted : s'.loop.originatedCount =
    s.loop.originatedCount + if report.message.wasDue then 1 else 0
  count_left : report.message.wasDue = true →
    main.origin.count = 0 ∨ s.loop.originatedCount < main.origin.count

section

variable {A : Aead} {main : MainConfig} {gradient : Gradient} {env : PassEnv} {s s' : MainState}

/-- The step of the C2 image, inside the loop. -/
theorem c2Uplink_spec {outcome : OriginOutcome} {e : OriginEnv} (he : e.monotonic = env.now)
    (h : onLoop (c2UplinkStep A main.node main.origin gradient e) s = .ok outcome s') :
    ∃ node counter next, NodeTurns A main.node s.node outcome.frames outcome.frames node ∧
      (outcome.frames ≠ [] → s.loop.txGuardUntil ≤ env.now) ∧
      (∀ uplink ∈ main.origin.c2Uplink, Timer.Turn uplink.intervalS s.loop.nextC2UplinkAt
        (env.now, outcome.wasDue) next) ∧
      s' = { s with loop := { s.loop with
        node
        c2UplinkCounter := counter
        nextC2UplinkAt := next } } := by
  obtain ⟨loop, hloop, rfl⟩ := PyM.zoom_eq_ok.mp h
  obtain ⟨rfl, rfl⟩ | ⟨hdue, uplink, node, counter, huplink, hallowed, hturns, rfl⟩ :=
    c2UplinkStep_eq_ok hloop
  · exact ⟨_, _, _, .none _, fun hne => absurd rfl hne, fun uplink _ => .rest, rfl⟩
  · refine ⟨node, counter, _, hturns, fun _ => he ▸ hallowed.2, fun other hother => ?_, rfl⟩
    obtain rfl := Option.some.inj (huplink.symm.trans hother)
    rw [hdue, he]
    exact .fire (he ▸ hallowed.1)

/-- The payload of the pass, inside the loop. -/
theorem payload_spec {payload : Option Bytes} {e : OriginEnv} (he : e.monotonic = env.now)
    (h : onLoop (originPayloadStep main.node main.origin e) s = .ok payload s') :
    ∃ next, (next = s.loop.nextTxAt ∨
        next = env.now + main.origin.txIntervalS ∧ payload = none) ∧
      s' = { s with loop := { s.loop with nextTxAt := next } } := by
  obtain ⟨loop, hloop, rfl⟩ := PyM.zoom_eq_ok.mp h
  obtain rfl | ⟨rfl, hnone⟩ := originPayloadStep_eq_ok hloop
  · exact ⟨_, Or.inl rfl, rfl⟩
  · exact ⟨_, Or.inr ⟨by rw [he], hnone⟩, rfl⟩

/-- The step of local control: what it takes from the queue. -/
theorem localC2_spec {localC2 : Option (LocalC2Message × LocalControlOutcome)}
    (h : localC2Step A main env s = .ok localC2 s') :
    ∃ node pending, NodeTurns A main.node s.node
        ((localC2.map fun taken => taken.2.frames).getD [])
        ((localC2.map fun taken => taken.2.frames).getD []) node ∧
      (localC2 ≠ none → s.loop.txGuardUntil ≤ env.now) ∧
      s.pendingLocalC2 = (localC2.map Prod.fst).toList ++ pending ∧
      (localC2 = none → pending = [] ∨ ¬ s.loop.txGuardUntil ≤ env.now) ∧
      (∀ message outcome, localC2 = some (message, outcome) →
        ∃ n n', sendLocalC2 A main.node (env.localC2.at env.now) message n = .ok outcome n') ∧
      s' = { s with loop := { s.loop with node }, pendingLocalC2 := pending } := by
  obtain ⟨rfl, rfl, hwaits⟩ | ⟨message, outcome, rest, node, rfl, hguard, hpending, hsend, rfl⟩ :=
    localC2Step_eq_ok h
  · exact ⟨_, _, .none _, fun hne => absurd rfl hne, rfl, fun _ => hwaits,
      fun _ _ hsome => absurd hsome (Option.some_ne_none _).symm, rfl⟩
  · refine ⟨node, rest, turns_sendLocalC2 hsend, fun _ => hguard, hpending,
      fun hnone => absurd hnone (Option.some_ne_none _), ?_, rfl⟩
    intro message' outcome' htaken
    obtain ⟨rfl, rfl⟩ := Prod.mk.inj (Option.some.inj htaken)
    exact ⟨_, _, hsend⟩

/-- The step of the configured message, inside the loop. -/
theorem message_spec {payload : Option Bytes} {outcome : OriginOutcome} {e : OriginEnv}
    (he : e.monotonic = env.now)
    (h : onLoop (originateStep A main.node main.origin e payload) s = .ok outcome s') :
    ∃ node count next, NodeTurns A main.node s.node outcome.frames outcome.frames node ∧
      (outcome.frames ≠ [] → s.loop.txGuardUntil ≤ env.now) ∧
      (payload = none → outcome.wasDue = false ∧ next = s.loop.nextTxAt) ∧
      Timer.Turn main.origin.txIntervalS s.loop.nextTxAt (env.now, outcome.wasDue) next ∧
      outcome.frames.length = (if outcome.wasDue then 1 else 0) ∧
      count = s.loop.originatedCount + (if outcome.wasDue then 1 else 0) ∧
      (outcome.wasDue = true →
        main.origin.count = 0 ∨ s.loop.originatedCount < main.origin.count) ∧
      s' = { s with loop := { s.loop with
        node
        originatedCount := count
        nextTxAt := next } } := by
  obtain ⟨loop, hloop, rfl⟩ := PyM.zoom_eq_ok.mp h
  obtain ⟨rfl, rfl⟩ | ⟨hdue, hone, hpayload, ⟨hcount, htx, hguard⟩, node, hturns, rfl⟩ :=
    originateStep_eq_ok hloop
  · exact ⟨_, _, _, .none _, fun hne => absurd rfl hne, fun _ => ⟨rfl, rfl⟩, .rest, rfl,
      (add_zero _).symm, nofun, rfl⟩
  · rw [he] at htx hguard
    refine ⟨node, _, _, hturns, fun _ => hguard, fun hnone => absurd hnone hpayload, ?_, ?_, ?_,
      fun _ => hcount, rfl⟩
    · rw [hdue, he]
      exact .fire htx
    · rw [hone, if_pos hdue]
    · rw [if_pos hdue]

/-- The last step, inside the loop. -/
theorem receive_spec {verdict : Option Verdict} (h : receiveStep A main env s = .ok verdict s') :
    ∃ node, NodeTurns A main.node s.node [] (verdict.bind Verdict.sent).toList node ∧
      s' = { s with loop := { s.loop with node } } := by
  obtain ⟨rfl, rfl⟩ | ⟨payload, v, node, rfl, -, hreceive, rfl⟩ := receiveStep_eq_ok h
  · exact ⟨_, .none _, rfl⟩
  · exact ⟨node, turns_receive hreceive, rfl⟩

/-- The heartbeat, inside the loop. -/
theorem sync_spec {sync : Option SentRoute} {e : Env} (he : e.monotonic = env.now)
    (h : onHeartbeat (heartbeatStep A main.node main.heartbeat e) s = .ok sync s') :
    ∃ node next, NodeTurns A main.node s.node (sync.map SentRoute.frame).toList
        (sync.map SentRoute.frame).toList node ∧
      (sync ≠ none → s.loop.txGuardUntil ≤ env.now) ∧
      Timer.Turn main.heartbeat.syncIntervalS s.nextSyncAt (env.now, sync.isSome) next ∧
      s' = { s with loop := { s.loop with node }, nextSyncAt := next } := by
  obtain ⟨heartbeat, hstep, rfl⟩ := PyM.zoom_eq_ok.mp h
  obtain ⟨rfl, rfl⟩ | ⟨sent, node, rfl, hdue, hturns, rfl⟩ := heartbeatStep_eq_ok hstep
  · exact ⟨_, _, .none _, fun hne => absurd rfl hne, .rest, rfl⟩
  · refine ⟨node, _, hturns, fun _ => he ▸ hdue.2.2, ?_, rfl⟩
    rw [he]
    exact .fire (he ▸ hdue.2.1)

/-- **What the pass behind the hop does.** -/
theorem work_spec {report : PassReport} (h : work A main gradient env s = .ok report s') :
    WorkSpec A main env s report s' := by
  obtain ⟨queued, s₁, hdrain, h⟩ := PyM.bind_eq_ok.1 h
  obtain rfl := drainLocalControlSocket_eq_ok hdrain
  rw [PyM.modify_bind_apply, PyM.get_bind_apply] at h
  obtain ⟨payload, s₂, hpayload, h⟩ := PyM.bind_eq_ok.1 h
  obtain ⟨c2Uplink, s₃, hc2, h⟩ := PyM.bind_eq_ok.1 h
  obtain ⟨localC2, s₄, hlocal, h⟩ := PyM.bind_eq_ok.1 h
  obtain ⟨message, s₅, hmessage, h⟩ := PyM.bind_eq_ok.1 h
  obtain ⟨sync, s₆, hsync, h⟩ := PyM.bind_eq_ok.1 h
  obtain ⟨verdict, s₇, hreceive, h⟩ := PyM.bind_eq_ok.1 h
  cases h
  obtain ⟨nextTx, hnextTx, rfl⟩ := payload_spec rfl hpayload
  obtain ⟨node₃, counter, nextC2, hturns₃, hguard₃, htimer₃, rfl⟩ := c2Uplink_spec rfl hc2
  obtain ⟨node₄, pending, hturns₄, hguard₄, hpending, hserved, hhandled, rfl⟩ := localC2_spec hlocal
  obtain ⟨node₅, count, nextTx', hturns₅, hguard₅, hnone, htimer₅, hone, hcount, hleft, rfl⟩ :=
    message_spec rfl hmessage
  obtain ⟨node₆, nextSync, hturns₆, hguard₆, htimer₆, rfl⟩ := sync_spec rfl hsync
  obtain ⟨node₇, hturns₇, rfl⟩ := receive_spec hreceive
  have hturns := ((((((turns_evaluateLink main env.now _).append hturns₃).append hturns₄).append
    hturns₅).append hturns₆).append hturns₇)
  refine ⟨?_, rfl, ?_, ?_, hpending, ?_, hhandled, htimer₃, ?_, htimer₆, hone, hcount, hleft⟩
  · rw [List.append_nil] at hturns
    exact hturns
  · intro hown
    by_contra hlate
    have hc2 : c2Uplink.frames = [] := by_contra fun hne => hlate (hguard₃ hne)
    have hlocal : localC2 = none := by_contra fun hne => hlate (hguard₄ hne)
    have hmessage : message.frames = [] := by_contra fun hne => hlate (hguard₅ hne)
    have hsync : sync = none := by_contra fun hne => hlate (hguard₆ hne)
    refine hown ?_
    rw [PassReport.own, hc2, hlocal, hmessage, hsync]
    rfl
  · intro htaken
    refine hguard₄ fun hnone => htaken ?_
    rw [PassReport.taken, hnone]
    rfl
  · intro htaken
    refine hserved ?_
    cases localC2 with
    | none => rfl
    | some taken => cases htaken
  · obtain rfl | ⟨rfl, hnopayload⟩ := hnextTx
    · exact htimer₅
    · obtain ⟨hidle, rfl⟩ := hnone hnopayload
      dsimp only
      rw [hidle]
      exact .putOff

end

/-- What a pass does. -/
inductive PassSpec (A : Aead) (main : MainConfig) (env : PassEnv) (s : MainState) :
    Pass → MainState → Prop
  | switched (state : ScheduleState) (hstate : env.scheduleState main.node = some state)
      (hleft : s.node.currentChannel ≠ some state.channel) :
      PassSpec A main env s (.switched state) (s.hop main env.switchedAt state)
  | worked (report : PassReport) (s' : MainState)
      (hchannel : ∀ state ∈ env.scheduleState main.node, s.node.currentChannel = some state.channel)
      (hwork : WorkSpec A main env s report s') : PassSpec A main env s (.worked report) s'

/-- **What a pass does**: it hops where the schedule has left the channel, and works where it
has not. -/
theorem pass_spec {A : Aead} {main : MainConfig} {gradient : Gradient} {env : PassEnv}
    {s s' : MainState} {p : Pass} (h : pass A main gradient env s = .ok p s') :
    PassSpec A main env s p s' := by
  rw [pass, PyM.get_bind_apply] at h
  rcases htarget : hopTarget main.node env s with _ | state <;> rw [htarget] at h <;>
    dsimp only at h
  · obtain ⟨report, s₁, hwork, h⟩ := PyM.bind_eq_ok.1 h
    cases h
    refine .worked report _ (fun state hstate => ?_) (work_spec hwork)
    rw [hopTarget, Option.filter_eq_none_iff] at htarget
    have hstay := htarget state hstate
    rw [decide_eq_true_eq, not_not] at hstay
    exact hstay.symm
  · obtain ⟨hstate, hleft⟩ := Option.filter_eq_some_iff.mp htarget
    rw [decide_eq_true_eq] at hleft
    obtain ⟨u, s₁, hswitch, h⟩ := PyM.bind_eq_ok.1 h
    cases h
    obtain ⟨-, -, rfl⟩ := switchChannel_eq_ok_iff.mp hswitch
    exact .switched state hstate hleft.symm

end KovaWfb
