/-
# The hop schedule, four times

The channel of the moment is computed from the wall clock in four places:
`_schedule_state` of `python/examples/mesh_txrx.py` (480 to 495) and
`python/examples/c2_gateway.py` (291 to 306), and `_scheduled_channel` of
`demo/dashboard_server.py` (242 to 252) and `demo/node_status_tx.py` (160 to 170).
Each reads the clock once; its reading is the argument `nowMs`, and `none` is the
exception of a zero slot length or an empty list.

For a list that is not empty and a positive slot length all four give the slot of
`Lib.Slots`, counted from the epoch (`hopState`).  `HopSchedule.state` of the node is
the same function for the arguments that `main` accepts (`scheduleState_eq_state`).
-/

import KovaWfb.Lib.Slots
import KovaWfb.Python.Integers
import KovaWfb.Mesh.State

namespace KovaWfb

open Slots

/-! ### The four functions -/

/-- `_schedule_state` of `mesh_txrx.py`. -/
def MeshTxrx.scheduleState (channels : List ℤ) (slotMs epochMs nowMs : ℤ) :
    Option ScheduleState := do
  let elapsedMs := max 0 (nowMs - epochMs)
  let slot ← floorDiv elapsedMs slotMs
  let slotElapsedMs ← floorMod elapsedMs slotMs
  let channel ← listIndex channels (← floorMod slot channels.length)
  pure { utcMs := nowMs, slot, slotElapsedMs, channel, nextHopMs := slotMs - slotElapsedMs }

/-- `_schedule_state` of `c2_gateway.py`. -/
def C2Gateway.scheduleState (channels : List ℤ) (slotMs epochMs nowMs : ℤ) :
    Option ScheduleState := do
  let elapsedMs := max 0 (nowMs - epochMs)
  let slot ← floorDiv elapsedMs slotMs
  let slotElapsedMs ← floorMod elapsedMs slotMs
  let channel ← listIndex channels (← floorMod slot channels.length)
  pure { utcMs := nowMs, slot, slotElapsedMs, channel, nextHopMs := slotMs - slotElapsedMs }

/-- `_scheduled_channel` of `dashboard_server.py`: channel, slot and `next_hop_ms`. -/
def DashboardServer.scheduledChannel (channels : List ℤ) (slotMs epochMs nowMs : ℤ) :
    Option (ℤ × ℤ × ℤ) := do
  let elapsedMs := max 0 (nowMs - epochMs)
  let slot ← floorDiv elapsedMs slotMs
  let channel ← listIndex channels (← floorMod slot channels.length)
  let nextHopMs := slotMs - (← floorMod elapsedMs slotMs)
  pure (channel, slot, nextHopMs)

/-- `_scheduled_channel` of `node_status_tx.py`: channel, slot and `next_hop_ms`. -/
def NodeStatusTx.scheduledChannel (channels : List ℤ) (slotMs epochMs nowMs : ℤ) :
    Option (ℤ × ℤ × ℤ) := do
  let elapsedMs := max 0 (nowMs - epochMs)
  let slot ← floorDiv elapsedMs slotMs
  let channel ← listIndex channels (← floorMod slot channels.length)
  let nextHopMs := slotMs - (← floorMod elapsedMs slotMs)
  pure (channel, slot, nextHopMs)

/-! ### What they compute -/

/-- How long the schedule has been running: nothing before the epoch. -/
def elapsedMs (epochMs nowMs : ℤ) : ℤ := max 0 (nowMs - epochMs)

theorem elapsedMs_nonneg (epochMs nowMs : ℤ) : 0 ≤ elapsedMs epochMs nowMs := le_max_left _ _

theorem elapsedMs_of_le {epochMs nowMs : ℤ} (h : epochMs ≤ nowMs) :
    elapsedMs epochMs nowMs = nowMs - epochMs := max_eq_right (by omega)

theorem elapsedMs_of_lt {epochMs nowMs : ℤ} (h : nowMs < epochMs) : elapsedMs epochMs nowMs = 0 :=
  max_eq_left (by omega)

theorem elapsedMs_add {epochMs nowMs d : ℤ} (h : epochMs ≤ nowMs) (hd : 0 ≤ d) :
    elapsedMs epochMs (nowMs + d) = elapsedMs epochMs nowMs + d := by
  rw [elapsedMs_of_le h, elapsedMs_of_le (by omega)]
  omega

/-- The channel of a slot: the list over and over. -/
def channelOf (channels : List ℤ) (hne : channels ≠ []) (slot : ℤ) : ℤ :=
  channels.get ⟨slot.toNat % channels.length, Nat.mod_lt _ (List.length_pos_iff.mpr hne)⟩

/-- The schedule at a time, for a list that is not empty. -/
def hopState (channels : List ℤ) (hne : channels ≠ []) (slotMs epochMs nowMs : ℤ) :
    ScheduleState where
  utcMs := nowMs
  slot := slotAt slotMs (elapsedMs epochMs nowMs)
  slotElapsedMs := elapsedMs epochMs nowMs % slotMs
  channel := channelOf channels hne (slotAt slotMs (elapsedMs epochMs nowMs))
  nextHopMs := untilNext slotMs (elapsedMs epochMs nowMs)

section

variable {channels : List ℤ} {slotMs : ℤ}

/-- The index of the source is in range. -/
theorem listIndex_slot (hne : channels ≠ []) {slot : ℤ} (hslot : 0 ≤ slot) :
    (floorMod slot channels.length).bind (listIndex channels) =
      some (channelOf channels hne slot) := by
  have hlen : 0 < channels.length := List.length_pos_iff.mpr hne
  have hlen' : (0 : ℤ) < channels.length := by exact_mod_cast hlen
  have htoNat : (slot % channels.length).toNat = slot.toNat % channels.length := by
    obtain ⟨n, rfl⟩ := Int.eq_ofNat_of_zero_le hslot
    exact_mod_cast rfl
  have hlt : (slot % channels.length).toNat < channels.length := by
    rw [htoNat]
    exact Nat.mod_lt _ hlen
  rw [floorMod_of_pos hlen', Option.bind_some,
    listIndex_of_lt (Int.emod_nonneg _ hlen'.ne') hlt, channelOf]
  simp only [htoNat, List.get_eq_getElem]

theorem meshTxrx_scheduleState_eq (hne : channels ≠ []) (hslot : 0 < slotMs) (epochMs nowMs : ℤ) :
    MeshTxrx.scheduleState channels slotMs epochMs nowMs =
      some (hopState channels hne slotMs epochMs nowMs) := by
  have hindex := listIndex_slot hne (slotAt_nonneg hslot (elapsedMs_nonneg epochMs nowMs))
  rw [slotAt, elapsedMs] at hindex
  simp only [MeshTxrx.scheduleState, floorDiv_of_pos hslot, floorMod_of_pos hslot,
    Option.bind_eq_bind, Option.bind_some, ← Option.bind_assoc, hindex]
  rfl

/-- The gateway's copy is the node's. -/
theorem c2Gateway_scheduleState_eq (hne : channels ≠ []) (hslot : 0 < slotMs) (epochMs nowMs : ℤ) :
    C2Gateway.scheduleState channels slotMs epochMs nowMs =
      some (hopState channels hne slotMs epochMs nowMs) :=
  meshTxrx_scheduleState_eq hne hslot epochMs nowMs

/-- What `_scheduled_channel` returns of a schedule state. -/
def ScheduleState.triple (s : ScheduleState) : ℤ × ℤ × ℤ := (s.channel, s.slot, s.nextHopMs)

theorem dashboardServer_scheduledChannel_eq (hne : channels ≠ []) (hslot : 0 < slotMs)
    (epochMs nowMs : ℤ) :
    DashboardServer.scheduledChannel channels slotMs epochMs nowMs =
      some (hopState channels hne slotMs epochMs nowMs).triple := by
  have hindex := listIndex_slot hne (slotAt_nonneg hslot (elapsedMs_nonneg epochMs nowMs))
  rw [slotAt, elapsedMs] at hindex
  simp only [DashboardServer.scheduledChannel, floorDiv_of_pos hslot, floorMod_of_pos hslot,
    Option.bind_eq_bind, Option.bind_some, ← Option.bind_assoc, hindex]
  rfl

/-- The status transmitter's copy is the dashboard's. -/
theorem nodeStatusTx_scheduledChannel_eq (hne : channels ≠ []) (hslot : 0 < slotMs)
    (epochMs nowMs : ℤ) :
    NodeStatusTx.scheduledChannel channels slotMs epochMs nowMs =
      some (hopState channels hne slotMs epochMs nowMs).triple :=
  dashboardServer_scheduledChannel_eq hne hslot epochMs nowMs

end

/-- **The node's schedule is this function** for the arguments `main` accepts. -/
theorem scheduleState_eq_state (h : HopSchedule) (nowMs : ℤ) :
    MeshTxrx.scheduleState h.channels h.slotMs h.epochMs nowMs = some (h.state nowMs) :=
  meshTxrx_scheduleState_eq h.channels_ne h.slotMs_pos h.epochMs nowMs

/-! ### Clocks -/

section

variable {channels : List ℤ} {hne : channels ≠ []} {slotMs epochMs now d : ℤ}

/-- The channel depends on the slot alone. -/
theorem hopState_channel_of_slot_eq {now' : ℤ}
    (h : (hopState channels hne slotMs epochMs now').slot =
      (hopState channels hne slotMs epochMs now).slot) :
    (hopState channels hne slotMs epochMs now').channel =
      (hopState channels hne slotMs epochMs now).channel :=
  congrArg (channelOf channels hne) h

/-- Before the next hop a clock shows the same slot and channel. -/
theorem hopState_add_of_lt (hslot : 0 < slotMs) (hnow : epochMs ≤ now) (hd : 0 ≤ d)
    (hlt : d < (hopState channels hne slotMs epochMs now).nextHopMs) :
    (hopState channels hne slotMs epochMs (now + d)).slot =
        (hopState channels hne slotMs epochMs now).slot ∧
      (hopState channels hne slotMs epochMs (now + d)).channel =
        (hopState channels hne slotMs epochMs now).channel := by
  have hstay : (hopState channels hne slotMs epochMs (now + d)).slot =
      (hopState channels hne slotMs epochMs now).slot := by
    simp only [hopState, elapsedMs_add hnow hd]
    exact slotAt_add_of_lt hslot hd hlt
  exact ⟨hstay, hopState_channel_of_slot_eq hstay⟩

/-- At the next hop a clock shows the next slot. -/
theorem hopState_add_nextHopMs (hslot : 0 < slotMs) (hnow : epochMs ≤ now) :
    (hopState channels hne slotMs epochMs
        (now + (hopState channels hne slotMs epochMs now).nextHopMs)).slot =
      (hopState channels hne slotMs epochMs now).slot + 1 := by
  simp only [hopState, elapsedMs_add hnow (untilNext_pos hslot).le]
  exact slotAt_add_untilNext hslot

/-- Clocks less than a slot apart show the same slot or neighbouring ones. -/
theorem hopState_add_le (hslot : 0 < slotMs) (hnow : epochMs ≤ now) (hd : 0 ≤ d) (hlt : d < slotMs) :
    (hopState channels hne slotMs epochMs now).slot ≤
        (hopState channels hne slotMs epochMs (now + d)).slot ∧
      (hopState channels hne slotMs epochMs (now + d)).slot ≤
        (hopState channels hne slotMs epochMs now).slot + 1 := by
  simp only [hopState, elapsedMs_add hnow hd]
  exact slotAt_add_le hslot hd hlt

/-- Before the epoch the slot is 0. -/
theorem hopState_slot_of_lt (hnow : now < epochMs) :
    (hopState channels hne slotMs epochMs now).slot = 0 := by
  simp only [hopState, elapsedMs_of_lt hnow]
  exact Int.zero_ediv slotMs

end

/-- **The four schedules agree, and so do clocks that are close.**  All four functions
return the same channel, slot and `next_hop_ms` at every time.  Of these, for readings
from the epoch on: the slot and the channel stay until `next_hop_ms` is over, and the slot
is one more just then; clocks less than a slot apart show slots that differ by at most
one, and the same slot and channel while the slower one's `next_hop_ms` exceeds the skew.
Before the epoch the slot is 0. -/
theorem schedules_agree {channels : List ℤ} (hne : channels ≠ []) {slotMs : ℤ} (hslot : 0 < slotMs)
    (epochMs : ℤ) :
    ∃ state : ℤ → ScheduleState,
      (∀ now, MeshTxrx.scheduleState channels slotMs epochMs now = some (state now) ∧
        C2Gateway.scheduleState channels slotMs epochMs now = some (state now) ∧
        DashboardServer.scheduledChannel channels slotMs epochMs now =
          some ((state now).channel, (state now).slot, (state now).nextHopMs) ∧
        NodeStatusTx.scheduledChannel channels slotMs epochMs now =
          some ((state now).channel, (state now).slot, (state now).nextHopMs)) ∧
      (∀ now, epochMs ≤ now →
        (∀ d, 0 ≤ d → d < (state now).nextHopMs →
          (state (now + d)).slot = (state now).slot ∧
            (state (now + d)).channel = (state now).channel) ∧
        (state (now + (state now).nextHopMs)).slot = (state now).slot + 1 ∧
        ∀ d, 0 ≤ d → d < slotMs →
          (state now).slot ≤ (state (now + d)).slot ∧
          (state (now + d)).slot ≤ (state now).slot + 1 ∧
          (d < (state now).nextHopMs →
            (state (now + d)).slot = (state now).slot ∧
              (state (now + d)).channel = (state now).channel)) ∧
      ∀ now, now < epochMs → (state now).slot = 0 := by
  refine ⟨hopState channels hne slotMs epochMs, fun now => ?_, fun now hnow => ?_,
    fun now hnow => hopState_slot_of_lt hnow⟩
  · exact ⟨meshTxrx_scheduleState_eq hne hslot epochMs now,
      c2Gateway_scheduleState_eq hne hslot epochMs now,
      dashboardServer_scheduledChannel_eq hne hslot epochMs now,
      nodeStatusTx_scheduledChannel_eq hne hslot epochMs now⟩
  · refine ⟨fun d hd hlt => hopState_add_of_lt hslot hnow hd hlt,
      hopState_add_nextHopMs hslot hnow, fun d hd hlt => ?_⟩
    obtain ⟨hle, hle'⟩ := @hopState_add_le _ hne _ _ _ _ hslot hnow hd hlt
    exact ⟨hle, hle', fun hnext => hopState_add_of_lt hslot hnow hd hnext⟩

/-- On three channels with slots of five seconds. -/
theorem schedules_agree_three :
    ([36, 40, 48] : List ℤ) ≠ [] ∧ (0 : ℤ) < 5000 ∧
      ∃ state : ℤ → ScheduleState,
        (∀ now, MeshTxrx.scheduleState [36, 40, 48] 5000 0 now = some (state now)) ∧
          (state 12345).channel = 48 ∧ (state (12345 + (state 12345).nextHopMs)).slot = 3 := by
  refine ⟨by decide, by decide, ?_⟩
  obtain ⟨state, hall, hclock, -⟩ := @schedules_agree [36, 40, 48] (by decide) 5000
    (by decide) 0
  have h : state 12345 = ⟨12345, 2, 2345, 48, 2655⟩ :=
    Option.some.inj ((hall 12345).1.symm.trans (by decide))
  refine ⟨state, fun now => (hall now).1, by rw [h], ?_⟩
  rw [(hclock 12345 (by decide)).2.1, h]
  decide

end KovaWfb
