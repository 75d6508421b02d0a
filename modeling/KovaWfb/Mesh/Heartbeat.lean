/-
# Sync heartbeats of a node that hops

`python/examples/mesh_txrx.py`: `build_sync_payload` (1968 to 1989) and the heartbeat
step of the loop (2251 to 2278), for the schedule that `main` accepts (1126 to 1139).

`main` only checks that the slot length and the channels are positive, while the sync
payload has 32 bits for the slot and for the time to the next hop and 16 for the channel.
The step is under no handler, so where a value does not fit the loop ends; it also ends when
the next heartbeat is due after milliseconds that have no double.
`HopSchedule.SyncFits` says when all three fit, and `heartbeats_encode_iff` that this is
exactly when the heartbeat is sent.
-/

import KovaWfb.Mesh.Outbound
import KovaWfb.Mesh.Schedule
import KovaWfb.Python.Numbers

namespace KovaWfb

open Slots

/-! ### The step -/

/-- The heartbeat arguments that `main` accepts. -/
structure HeartbeatConfig where
  syncHeartbeat : Bool
  syncIntervalMs : ℤ
  ttl : ℤ
  syncIntervalMs_pos : 0 < syncIntervalMs
  ttl_range : 0 ≤ ttl ∧ ttl ≤ 255

/-- `args.sync_interval_ms / 1000.0`, where it is one. -/
def HeartbeatConfig.syncIntervalS (heartbeat : HeartbeatConfig) : ℚ :=
  heartbeat.syncIntervalMs / 1000

/-- What the heartbeat step reads and mutates. -/
structure HeartbeatState where
  node : NodeState
  txGuardUntil : ℚ
  nextSyncAt : ℚ

/-- Code of the node inside the loop. -/
def HeartbeatState.onNode {α : Type} (x : PyM NodeState α) : PyM HeartbeatState α := fun s =>
  match x s.node with
  | .ok a node => .ok a { s with node }
  | .error error node => .error error { s with node }

/-- `current_schedule_state`. -/
def currentScheduleState (cfg : NodeConfig) (env : Env) : Option ScheduleState :=
  cfg.schedule.map fun h => h.state env.utcMs

/-- `build_sync_payload`. -/
def buildSyncPayload (cfg : NodeConfig) (env : Env) (s : NodeState) :
    Py (Bytes × Option ScheduleState) :=
  match currentScheduleState cfg env with
  | none => do
      let payload ← encodeSyncPayload env.utcMs 0 (s.currentChannel.getD 0) 0
      pure (payload, none)
  | some state => do
      let payload ← encodeSyncPayload state.utcMs state.slot state.channel state.nextHopMs
      pure (payload, some state)

/-- `should_sync`. -/
def HeartbeatState.ShouldSync (s : HeartbeatState) (heartbeat : HeartbeatConfig) (env : Env) : Prop :=
  heartbeat.syncHeartbeat = true ∧ s.nextSyncAt ≤ env.monotonic ∧ s.txGuardUntil ≤ env.monotonic

instance (s : HeartbeatState) (heartbeat : HeartbeatConfig) (env : Env) :
    Decidable (s.ShouldSync heartbeat env) :=
  inferInstanceAs (Decidable (_ ∧ _ ∧ _))

/-- The heartbeat step: what it sent, if it was due. -/
def heartbeatStep (A : Aead) (cfg : NodeConfig) (heartbeat : HeartbeatConfig) (env : Env) :
    PyM HeartbeatState (Option SentRoute) := do
  let s ← get
  if ¬ s.ShouldSync heartbeat env then pure none
  else do
    let (syncPayload, _) ← liftM (buildSyncPayload cfg env s.node)
    let sent ← HeartbeatState.onNode (sendRoute A cfg env msgSync syncPayload 0 heartbeat.ttl)
    let intervalS ← liftM (secondsOfMs heartbeat.syncIntervalMs)
    modify fun s => { s with nextSyncAt := env.monotonic + intervalS }
    pure (some sent)

/-! ### What fits -/

/-- The slot, the channel and the time to the next hop fit their fields. -/
structure ScheduleState.FieldsFit (s : ScheduleState) : Prop where
  slot : FitsWidth 4 s.slot
  channel : FitsWidth 2 s.channel
  nextHopMs : FitsWidth 4 s.nextHopMs

/-- It is the turn of this slot. -/
def HopSchedule.InTurn (h : HopSchedule) (turn : ℕ) (now : ℤ) : Prop :=
  turn * h.slotMs ≤ elapsedMs h.epochMs now ∧ elapsedMs h.epochMs now < turn * h.slotMs + h.slotMs

/-- Fewer than 2³² slots have passed since the epoch, the channel in turn has 16 bits, and
a slot begins within the next 2³² ms (before the epoch: the first slots do). -/
structure HopSchedule.SyncFits (h : HopSchedule) (now : ℤ) : Prop where
  young : now < h.epochMs + 2 ^ 32 * h.slotMs
  channel : ∀ turn : ℕ, h.InTurn turn now →
    h.channels.get ⟨turn % h.channels.length,
      Nat.mod_lt _ (List.length_pos_iff.mpr h.channels_ne)⟩ ≤ maxU16
  boundary : ∃ n : ℕ, elapsedMs h.epochMs now < n * h.slotMs ∧
    n * h.slotMs ≤ elapsedMs h.epochMs now + maxU32

section

variable {h : HopSchedule} {now : ℤ}

theorem HopSchedule.inTurn_iff {turn : ℕ} : h.InTurn turn now ↔ (h.state now).slot = turn :=
  (slotAt_eq_iff h.slotMs_pos).symm

/-- The number of the slot at a time, a natural number. -/
theorem HopSchedule.exists_turn (h : HopSchedule) (now : ℤ) :
    ∃ turn : ℕ, (h.state now).slot = turn :=
  Int.eq_ofNat_of_zero_le (slotAt_nonneg h.slotMs_pos (elapsedMs_nonneg h.epochMs now))

/-- **The slot fits** while the schedule is young. -/
theorem HopSchedule.slot_fits_iff :
    FitsWidth 4 (h.state now).slot ↔ now < h.epochMs + 2 ^ 32 * h.slotMs := by
  have hpos := h.slotMs_pos
  have hnonneg := slotAt_nonneg h.slotMs_pos (elapsedMs_nonneg h.epochMs now)
  have hlt : (h.state now).slot < 256 ^ 4 ↔ elapsedMs h.epochMs now < 256 ^ 4 * h.slotMs :=
    Int.ediv_lt_iff_lt_mul hpos
  rw [FitsWidth, hlt, elapsedMs]
  constructor
  · rintro ⟨-, hyoung⟩
    have := le_max_right 0 (now - h.epochMs)
    omega
  · intro hyoung
    refine ⟨hnonneg, max_lt ?_ ?_⟩ <;> omega

/-- **The channel fits** when the entry in turn does. -/
theorem HopSchedule.channel_fits_iff :
    FitsWidth 2 (h.state now).channel ↔ ∀ turn : ℕ, h.InTurn turn now →
      h.channels.get ⟨turn % h.channels.length,
        Nat.mod_lt _ (List.length_pos_iff.mpr h.channels_ne)⟩ ≤ maxU16 := by
  have hchannel : ∀ turn : ℕ, h.InTurn turn now → (h.state now).channel =
      h.channels.get ⟨turn % h.channels.length,
        Nat.mod_lt _ (List.length_pos_iff.mpr h.channels_ne)⟩ := by
    intro turn hturn
    have hslot := HopSchedule.inTurn_iff.mp hturn
    have htoNat : (h.state now).slot.toNat = turn := by rw [hslot, Int.toNat_natCast]
    change h.channels.get ⟨(h.state now).slot.toNat % h.channels.length, _⟩ = _
    simp only [htoNat]
  obtain ⟨turn, hslot⟩ := h.exists_turn now
  have hturn := HopSchedule.inTurn_iff.mpr hslot
  have hpos : 0 < (h.state now).channel := h.channels_pos _ (List.get_mem _ _)
  rw [fitsWidth_two_iff]
  constructor
  · rintro ⟨-, hfits⟩ turn' hturn'
    rwa [← hchannel turn' hturn']
  · intro hfits
    rw [hchannel turn hturn] at hpos ⊢
    exact ⟨hpos.le, hfits turn hturn⟩

/-- **The time to the next hop fits** when a slot begins soon. -/
theorem HopSchedule.nextHopMs_fits_iff :
    FitsWidth 4 (h.state now).nextHopMs ↔ ∃ n : ℕ, elapsedMs h.epochMs now < n * h.slotMs ∧
      n * h.slotMs ≤ elapsedMs h.epochMs now + maxU32 := by
  obtain ⟨turn, hslot⟩ := h.exists_turn now
  have hpos := h.slotMs_pos
  have hnext : 0 < (h.state now).nextHopMs := untilNext_pos hpos
  have hend : turn * h.slotMs + h.slotMs = elapsedMs h.epochMs now + (h.state now).nextHopMs := by
    rw [← hslot]
    exact slot_end
  have hfits : FitsWidth 4 (h.state now).nextHopMs ↔ (h.state now).nextHopMs ≤ maxU32 := by
    rw [FitsWidth, maxU32]
    omega
  rw [hfits]
  constructor
  · intro hle
    exact ⟨turn + 1, by push_cast; rw [add_mul, one_mul]; omega, by
      push_cast; rw [add_mul, one_mul]; omega⟩
  · rintro ⟨n, hlt, hle⟩
    have hturn : turn * h.slotMs ≤ elapsedMs h.epochMs now := (HopSchedule.inTurn_iff.mpr hslot).1
    have hn : (turn : ℤ) < n := lt_of_mul_lt_mul_right (lt_of_le_of_lt hturn hlt) hpos.le
    have hnext' : (turn + 1 : ℤ) * h.slotMs ≤ n * h.slotMs := by
      exact mul_le_mul_of_nonneg_right hn hpos.le
    rw [add_mul, one_mul] at hnext'
    omega

theorem HopSchedule.fieldsFit_iff : (h.state now).FieldsFit ↔ h.SyncFits now := by
  constructor
  · intro hfit
    exact ⟨HopSchedule.slot_fits_iff.mp hfit.slot, HopSchedule.channel_fits_iff.mp hfit.channel,
      HopSchedule.nextHopMs_fits_iff.mp hfit.nextHopMs⟩
  · intro hfit
    exact ⟨HopSchedule.slot_fits_iff.mpr hfit.young, HopSchedule.channel_fits_iff.mpr hfit.channel,
      HopSchedule.nextHopMs_fits_iff.mpr hfit.boundary⟩

end

/-! ### Heartbeats -/

section

variable {A : Aead} {cfg : NodeConfig} {heartbeat : HeartbeatConfig} {env : Env} {h : HopSchedule}

/-- **`build_sync_payload` returns** when the fields fit. -/
theorem buildSyncPayload_returns_iff (hschedule : cfg.schedule = some h)
    (hutc : FitsWidth 8 env.utcMs) (s : NodeState) :
    (∃ r, buildSyncPayload cfg env s = .ok r) ↔ (h.state env.utcMs).FieldsFit := by
  have hstate : currentScheduleState cfg env = some (h.state env.utcMs) := by
    rw [currentScheduleState, hschedule, Option.map_some]
  simp only [buildSyncPayload, hstate, Py.bind_eq_ok, encodeSyncPayload_eq_ok_iff, Py.pure_eq_ok]
  constructor
  · rintro ⟨_, _, ⟨hvalid, -⟩, -⟩
    exact ⟨hvalid.slot, hvalid.channel, hvalid.nextHopMs⟩
  · intro hfit
    exact ⟨_, _, ⟨⟨hutc, hfit.slot, hfit.channel, hfit.nextHopMs⟩, rfl⟩, rfl⟩

/-- A sync payload is short. -/
theorem length_buildSyncPayload {s : NodeState} {r : Bytes × Option ScheduleState}
    (hbuild : buildSyncPayload cfg env s = .ok r) : r.1.length = syncPayloadSize := by
  have hlength : ∀ {u v w x : ℤ} {state : Option ScheduleState},
      (encodeSyncPayload u v w x >>= fun payload => pure (payload, state)) = .ok r →
        r.1.length = syncPayloadSize := by
    intro u v w x state hreturn
    obtain ⟨payload, hencode, hpure⟩ := Py.bind_eq_ok.mp hreturn
    obtain ⟨-, rfl⟩ := encodeSyncPayload_eq_ok_iff.mp hencode
    rw [← Py.pure_eq_ok.mp hpure, SyncStatus.bytes, length_packBytes]
    rfl
  unfold buildSyncPayload at hbuild
  cases hstate : currentScheduleState cfg env with
  | none =>
    rw [hstate] at hbuild
    exact hlength hbuild
  | some state =>
    rw [hstate] at hbuild
    exact hlength hbuild

/-- A sync payload that was built is sent, whatever the node has keys for. -/
theorem sendRoute_sync_returns (hradio : env.radio = none) {payload : Bytes}
    (hlength : payload.length = syncPayloadSize) (s : NodeState) :
    ∃ r s', sendRoute A cfg env msgSync payload 0 heartbeat.ttl s = .ok r s' := by
  have hclear : encryptMeshPayload A cfg env cfg.senderId 0 heartbeat.ttl s.nextOriginSeq.value
      msgSync payload = .ok payload := by
    rw [encryptMeshPayload, NodeConfig.meshCryptoFor, if_pos rfl]
    rfl
  have httl : FitsWidth 1 heartbeat.ttl := by
    have hrange := heartbeat.ttl_range
    exact ⟨hrange.1, by omega⟩
  exact sendRoute_returns_of_encrypts hradio (by decide) httl (by decide) (by decide) hclear
    (by rw [hlength]; decide)

/-- **The heartbeat step ends the loop** only where a due heartbeat does not fit or its interval
has no double, as long as the radio works. -/
theorem heartbeatStep_returns_iff (hschedule : cfg.schedule = some h)
    (hutc : FitsWidth 8 env.utcMs) (hradio : env.radio = none) (s : HeartbeatState) :
    (∃ r s', heartbeatStep A cfg heartbeat env s = .ok r s') ↔
      (s.ShouldSync heartbeat env →
        (h.state env.utcMs).FieldsFit ∧ HasDouble heartbeat.syncIntervalMs) := by
  rw [heartbeatStep, PyM.get_bind_apply]
  by_cases hdue : s.ShouldSync heartbeat env
  · rw [if_neg (not_not.mpr hdue), forall_prop_of_true hdue,
      ← buildSyncPayload_returns_iff hschedule hutc s.node]
    cases hbuild : buildSyncPayload cfg env s.node with
    | error error =>
      rw [PyM.lift_bind_of_eq_error rfl]
      exact iff_of_false (not_returns_error _ _) fun h => Py.not_returns_error _ h.1
    | ok built =>
      obtain ⟨syncPayload, state⟩ := built
      obtain ⟨sent, node, hsend⟩ := @sendRoute_sync_returns A cfg heartbeat env hradio _
        (length_buildSyncPayload hbuild) s.node
      rw [PyM.lift_bind_of_eq_ok rfl]
      dsimp only
      rw [PyM.bind_apply, HeartbeatState.onNode, hsend, and_iff_right ⟨_, rfl⟩]
      dsimp only
      by_cases hinterval : HasDouble heartbeat.syncIntervalMs
      · rw [PyM.lift_bind_of_eq_ok (secondsOfMs_of_hasDouble hinterval)]
        exact iff_of_true ⟨_, _, rfl⟩ hinterval
      · obtain ⟨msg, herror⟩ := secondsOfMs_of_not_hasDouble hinterval
        rw [PyM.lift_bind_of_eq_error herror]
        exact iff_of_false (not_returns_error _ _) hinterval
  · rw [if_pos hdue]
    exact iff_of_true ⟨_, _, rfl⟩ fun h => absurd h hdue

end

/-- Slots, channels and an age within their fields are enough. -/
theorem HopSchedule.syncFits_of_le {h : HopSchedule} {now : ℤ} (hslot : h.slotMs ≤ maxU32)
    (hchannels : ∀ channel ∈ h.channels, channel ≤ maxU16)
    (hyoung : now < h.epochMs + 2 ^ 32 * h.slotMs) : h.SyncFits now where
  young := hyoung
  channel := fun _ _ => hchannels _ (List.get_mem _ _)
  boundary := by
    obtain ⟨turn, hturn⟩ := h.exists_turn now
    obtain ⟨hstart, hend⟩ := HopSchedule.inTurn_iff.mpr hturn
    refine ⟨turn + 1, ?_, ?_⟩ <;> push_cast <;> rw [add_mul, one_mul] <;> omega

/-- A node that hops by a schedule, with a heartbeat that is due. -/
theorem exists_due_heartbeat (h : HopSchedule) (now : ℤ) {heartbeat : HeartbeatConfig}
    (hsync : heartbeat.syncHeartbeat = true) :
    ∃ (cfg : NodeConfig) (env : Env) (s : HeartbeatState), cfg.schedule = some h ∧
      env.utcMs = now ∧ env.radio = none ∧ s.ShouldSync heartbeat env := by
  let cfg : NodeConfig := { NodeConfig.sample 1 senderId_one with schedule := some h }
  exact ⟨cfg, { Env.sample with utcMs := now },
    { node := NodeState.initial cfg .one 0 none, txGuardUntil := 0, nextSyncAt := 0 },
    rfl, rfl, rfl, hsync, le_rfl, le_rfl⟩

/-- **Heartbeats encode exactly while the schedule fits them.**  For a schedule and heartbeat
arguments that `main` accepts and a clock reading of 64 bits, the three fields fit,
`build_sync_payload` returns and the heartbeat step does not end the loop exactly under
`HopSchedule.SyncFits`, and if the interval between heartbeats, where there are any, has a
double. -/
theorem heartbeats_encode_iff (h : HopSchedule) (heartbeat : HeartbeatConfig) (now : ℤ)
    (hutc : FitsWidth 8 now) :
    ((h.state now).FieldsFit ∧
      ∀ (A : Aead) (cfg : NodeConfig) (env : Env) (s : HeartbeatState),
        cfg.schedule = some h → env.utcMs = now →
          (∃ r, buildSyncPayload cfg env s.node = .ok r) ∧
            (env.radio = none → ∃ r s', heartbeatStep A cfg heartbeat env s = .ok r s')) ↔
      h.SyncFits now ∧ (heartbeat.syncHeartbeat = true → HasDouble heartbeat.syncIntervalMs) := by
  rw [← HopSchedule.fieldsFit_iff]
  constructor
  · rintro ⟨hfit, hsteps⟩
    refine ⟨hfit, fun hsync => ?_⟩
    obtain ⟨cfg, env, s, hschedule, rfl, hradio, hdue⟩ := exists_due_heartbeat h now hsync
    have hreturns := (hsteps Aead.checksum cfg env s hschedule rfl).2 hradio
    exact ((heartbeatStep_returns_iff hschedule hutc hradio s).mp hreturns hdue).2
  · rintro ⟨hfit, hinterval⟩
    refine ⟨hfit, fun A cfg env s hschedule hnow => ?_⟩
    subst hnow
    exact ⟨(buildSyncPayload_returns_iff hschedule hutc s.node).mpr hfit, fun hradio =>
      (heartbeatStep_returns_iff hschedule hutc hradio s).mpr fun hdue =>
        ⟨hfit, hinterval hdue.1⟩⟩

/-- A schedule to run the model with. -/
def HopSchedule.sample (slotMs : ℤ) (hpos : 0 < slotMs) : HopSchedule where
  channels := [36, 40, 48]
  slotMs := slotMs
  epochMs := 0
  channels_ne := by decide
  channels_pos := by decide
  slotMs_pos := hpos

/-- Two slot lengths. -/
theorem slotMs_five_seconds : (0 : ℤ) < 5000 := by decide
theorem slotMs_tenth : (0 : ℤ) < 100 := by decide

/-- A node to run the model with that hops ten times a second. -/
def NodeConfig.sampleHopper : NodeConfig :=
  { NodeConfig.sample 1 senderId_one with schedule := some (HopSchedule.sample 100 slotMs_tenth) }

/-- Heartbeat arguments to run the model with. -/
def HeartbeatConfig.sample : HeartbeatConfig where
  syncHeartbeat := true
  syncIntervalMs := 5000
  ttl := 3
  syncIntervalMs_pos := slotMs_five_seconds
  ttl_range := by decide

/-- Slots of five seconds fit in 2023, and so does a heartbeat every five seconds. -/
theorem heartbeats_encode_2023 :
    FitsWidth 8 1700000000000 ∧
      ((HopSchedule.sample 5000 slotMs_five_seconds).state 1700000000000).FieldsFit ∧
      ∀ (A : Aead) (cfg : NodeConfig) (env : Env) (s : HeartbeatState),
        cfg.schedule = some (HopSchedule.sample 5000 slotMs_five_seconds) →
          env.utcMs = 1700000000000 → env.radio = none →
            ∃ r s', heartbeatStep A cfg HeartbeatConfig.sample env s = .ok r s' := by
  have hutc : FitsWidth 8 1700000000000 := by decide
  have hfits : (HopSchedule.sample 5000 slotMs_five_seconds).SyncFits 1700000000000 :=
    HopSchedule.syncFits_of_le (by decide) (by decide) (by decide)
  have hinterval : HasDouble HeartbeatConfig.sample.syncIntervalMs := by decide +kernel
  obtain ⟨hfit, hsteps⟩ := (heartbeats_encode_iff (HopSchedule.sample 5000 slotMs_five_seconds)
    HeartbeatConfig.sample 1700000000000 hutc).mpr ⟨hfits, fun _ => hinterval⟩
  exact ⟨hutc, hfit, fun A cfg env s hschedule hnow => (hsteps A cfg env s hschedule hnow).2⟩

/-- A state to run the model with, in which the heartbeat is due. -/
def HeartbeatState.sample : HeartbeatState where
  node := NodeState.initial NodeConfig.sampleHopper .one 0 (some 36)
  txGuardUntil := 0
  nextSyncAt := 0

/-- **Ten hops a second overflow the slot** in 2023: the schedule counts 17 · 10⁹ slots, the
payload is not built, and the heartbeat step raises. -/
theorem heartbeat_overflows :
    let env : Env := { Env.sample with utcMs := 1700000000000 }
    NodeConfig.sampleHopper.schedule = some (HopSchedule.sample 100 slotMs_tenth) ∧
      FitsWidth 8 env.utcMs ∧
      ¬ ((HopSchedule.sample 100 slotMs_tenth).state env.utcMs).FieldsFit ∧
      (∃ msg, buildSyncPayload NodeConfig.sampleHopper env HeartbeatState.sample.node =
        .error (.appFrameError msg)) ∧
      ∃ msg, heartbeatStep Aead.checksum NodeConfig.sampleHopper HeartbeatConfig.sample env
        HeartbeatState.sample = .error (.appFrameError msg) HeartbeatState.sample := by
  refine ⟨rfl, by decide, fun hfit => ?_, ⟨_, rfl⟩, ⟨_, rfl⟩⟩
  exact absurd hfit.slot (by decide)

end KovaWfb
