/-
# The link-health tracker

`class LinkHealthTracker` of `python/examples/mesh_txrx.py` (135 to 246) for the
thresholds that `main` accepts (1140 to 1151).  Times are rational seconds.

The tracker is followed over whole runs: any calls of `note_peer` and `evaluate` since it
was made, with times that do not decrease (`Timed`).  What it holds is then a function of
when other nodes were heard (`Tracks`): a peer is active exactly when another node was
heard within the timeout (`Tracks.hasActivePeer_iff`), and without one the state is the
one that the thresholds select (`evaluate_state_of_not_active`).  From this
`link_health_escalates` is read off.
-/

import KovaWfb.Mesh.State
import KovaWfb.Python.Integers
import Mathlib.Tactic.Linarith

namespace KovaWfb

/-! ### The tracker -/

/-- `LINK_STATE_*`. -/
inductive LinkState
  | nominal
  | degraded
  | isolated
  | moving
  | rtb
  | recovery
  deriving DecidableEq

/-- The thresholds that `main` accepts. -/
structure LinkHealthConfig where
  senderId : ℤ
  peerTimeoutMs : ℤ
  degradedAfterMs : ℤ
  isolatedAfterMs : ℤ
  moveAfterMs : ℤ
  rtbAfterMs : ℤ
  recoveryHoldMs : ℤ
  peerTimeoutMs_pos : 0 < peerTimeoutMs
  degradedAfterMs_pos : 0 < degradedAfterMs
  degraded_lt_isolated : degradedAfterMs < isolatedAfterMs
  isolated_lt_move : isolatedAfterMs < moveAfterMs
  move_lt_rtb : moveAfterMs < rtbAfterMs
  recoveryHoldMs_nonneg : 0 ≤ recoveryHoldMs

/-- `self._peer_timeout_s`. -/
def LinkHealthConfig.peerTimeoutS (cfg : LinkHealthConfig) : ℚ := cfg.peerTimeoutMs / 1000

/-- `self._recovery_hold_s`. -/
def LinkHealthConfig.recoveryHoldS (cfg : LinkHealthConfig) : ℚ := cfg.recoveryHoldMs / 1000

/-- `class LinkHealthTransition`. -/
structure LinkHealthTransition where
  previousState : LinkState
  state : LinkState
  reason : String
  inactiveMs : ℤ
  activePeers : ℕ
  deriving DecidableEq

/-- `class LinkHealthTracker`. -/
structure LinkHealthTracker extends LinkHealth where
  state : LinkState
  recoveryStartedAt : Option ℚ

namespace LinkHealthTracker

/-- A tracker made at `now`. -/
def new (now : ℚ) : LinkHealthTracker where
  lastLinkSeenAt := now
  peersLastSeen := []
  state := .nominal
  recoveryStartedAt := none

/-- `active_peer_count`, which prunes the table. -/
def activePeerCount (cfg : LinkHealthConfig) (now : ℚ) (t : LinkHealthTracker) :
    ℕ × LinkHealthTracker :=
  let pruned := t.toLinkHealth.pruneStalePeers cfg.peerTimeoutS now
  (pruned.peersLastSeen.length, { t with toLinkHealth := pruned })

/-- `note_peer`. -/
def notePeer (cfg : LinkHealthConfig) (peerId : ℤ) (now : ℚ) (t : LinkHealthTracker) :
    LinkHealthTracker :=
  { t with toLinkHealth := t.toLinkHealth.notePeer cfg.senderId cfg.peerTimeoutS peerId now }

/-- The branch of `evaluate` with an active peer: the next state, the reason and
`_recovery_started_at`. -/
def linkedState (cfg : LinkHealthConfig) (now : ℚ) (t : LinkHealthTracker) :
    LinkState × String × Option ℚ :=
  match t.state with
  | .degraded | .isolated | .moving | .rtb =>
      (.recovery, "link_reestablished", some (t.recoveryStartedAt.getD now))
  | .recovery =>
      let startedAt := t.recoveryStartedAt.getD now
      if cfg.recoveryHoldS ≤ now - startedAt then (.nominal, "links_recovered", none)
      else (.recovery, "links_recovering", some startedAt)
  | .nominal => (.nominal, "links_healthy", none)

/-- The branch of `evaluate` without one. -/
def silentState (cfg : LinkHealthConfig) (inactiveMs : ℤ) : LinkState × String × Option ℚ :=
  if cfg.rtbAfterMs ≤ inactiveMs then (.rtb, "no_link_after_threshold", none)
  else if cfg.moveAfterMs ≤ inactiveMs then (.moving, "no_link_reposition", none)
  else if cfg.isolatedAfterMs ≤ inactiveMs then (.isolated, "all_routes_exhausted", none)
  else if cfg.degradedAfterMs ≤ inactiveMs then (.degraded, "link_degrading", none)
  else (.nominal, "recent_link", none)

/-- `evaluate`. -/
def evaluate (cfg : LinkHealthConfig) (now : ℚ) (t : LinkHealthTracker) :
    Option LinkHealthTransition × LinkHealthTracker :=
  let (activePeers, t) := t.activePeerCount cfg now
  let inactiveMs := max 0 (truncate ((now - t.lastLinkSeenAt) * 1000))
  let (nextState, reason, recoveryStartedAt) :=
    if 0 < activePeers then t.linkedState cfg now else silentState cfg inactiveMs
  let transition := if nextState = t.state then none else
    some { previousState := t.state, state := nextState, reason, inactiveMs, activePeers }
  (transition, { t with state := nextState, recoveryStartedAt })

end LinkHealthTracker

/-! ### Runs -/

/-- A call of the tracker, with the time it is given. -/
inductive LinkEvent
  | notePeer (peerId : ℤ) (now : ℚ)
  | evaluate (now : ℚ)
  deriving DecidableEq

/-- The time of a call. -/
def LinkEvent.time : LinkEvent → ℚ
  | .notePeer _ now => now
  | .evaluate now => now

/-- The tracker after a call. -/
def LinkHealthTracker.apply (cfg : LinkHealthConfig) (t : LinkHealthTracker) :
    LinkEvent → LinkHealthTracker
  | .notePeer peerId now => t.notePeer cfg peerId now
  | .evaluate now => (t.evaluate cfg now).2

/-- The tracker made at `start`, after these calls. -/
def LinkHealthTracker.run (cfg : LinkHealthConfig) (start : ℚ) (events : List LinkEvent) :
    LinkHealthTracker :=
  events.foldl (LinkHealthTracker.apply cfg) (.new start)

@[simp] theorem LinkHealthTracker.run_concat (cfg : LinkHealthConfig) (start : ℚ)
    (events : List LinkEvent) (e : LinkEvent) :
    LinkHealthTracker.run cfg start (events ++ [e]) =
      (LinkHealthTracker.run cfg start events).apply cfg e := by
  rw [run, List.foldl_append]
  rfl

/-- The times of the calls do not decrease, from `start` up to `now`. -/
inductive Timed (start : ℚ) : List LinkEvent → ℚ → Prop
  | nil {now : ℚ} (hnow : start ≤ now) : Timed start [] now
  | concat {events : List LinkEvent} {e : LinkEvent} {now : ℚ} (hbefore : Timed start events e.time)
      (hnow : e.time ≤ now) : Timed start (events ++ [e]) now

/-- When another node was last heard, or when the tracker was made. -/
def lastHeard (cfg : LinkHealthConfig) (start : ℚ) (events : List LinkEvent) : ℚ :=
  events.foldl (fun last e =>
    match e with
    | .notePeer peerId now => if peerId = cfg.senderId then last else now
    | .evaluate _ => last) start

/-- Another node was heard. -/
def HeardOther (cfg : LinkHealthConfig) (events : List LinkEvent) : Prop :=
  ∃ peerId now, peerId ≠ cfg.senderId ∧ .notePeer peerId now ∈ events

section

variable {cfg : LinkHealthConfig} {start now : ℚ} {events : List LinkEvent} {peerId : ℤ}

theorem lastHeard_concat_own (h : peerId = cfg.senderId) :
    lastHeard cfg start (events ++ [.notePeer peerId now]) = lastHeard cfg start events := by
  rw [lastHeard, List.foldl_append]
  exact if_pos h

theorem lastHeard_concat_other (h : peerId ≠ cfg.senderId) :
    lastHeard cfg start (events ++ [.notePeer peerId now]) = now := by
  rw [lastHeard, List.foldl_append]
  exact if_neg h

theorem lastHeard_concat_evaluate :
    lastHeard cfg start (events ++ [.evaluate now]) = lastHeard cfg start events := by
  rw [lastHeard, List.foldl_append]
  rfl

theorem heardOther_concat_own (h : peerId = cfg.senderId) :
    HeardOther cfg (events ++ [.notePeer peerId now]) ↔ HeardOther cfg events := by
  constructor
  · rintro ⟨p, at', hne, hmem⟩
    rcases List.mem_append.mp hmem with hmem | hmem
    · exact ⟨p, at', hne, hmem⟩
    · obtain ⟨rfl, rfl⟩ := LinkEvent.notePeer.inj (List.mem_singleton.mp hmem)
      exact absurd h hne
  · rintro ⟨p, at', hne, hmem⟩
    exact ⟨p, at', hne, List.mem_append_left _ hmem⟩

theorem heardOther_concat_other (h : peerId ≠ cfg.senderId) :
    HeardOther cfg (events ++ [.notePeer peerId now]) :=
  ⟨peerId, now, h, List.mem_append_right _ (List.mem_singleton_self _)⟩

theorem heardOther_concat_evaluate :
    HeardOther cfg (events ++ [.evaluate now]) ↔ HeardOther cfg events := by
  constructor
  · rintro ⟨p, at', hne, hmem⟩
    rcases List.mem_append.mp hmem with hmem | hmem
    · exact ⟨p, at', hne, hmem⟩
    · exact absurd (List.mem_singleton.mp hmem) LinkEvent.noConfusion
  · rintro ⟨p, at', hne, hmem⟩
    exact ⟨p, at', hne, List.mem_append_left _ hmem⟩

theorem lastHeard_of_not_heardOther (htimed : Timed start events now)
    (h : ¬ HeardOther cfg events) : lastHeard cfg start events = start := by
  induction htimed with
  | nil => rfl
  | @concat events e _ _ _ ih =>
    cases e with
    | notePeer peerId at' =>
      by_cases hown : peerId = cfg.senderId
      · rw [lastHeard_concat_own hown]
        exact ih fun hheard => h ((heardOther_concat_own hown).mpr hheard)
      · exact absurd (heardOther_concat_other hown) h
    | evaluate at' =>
      rw [lastHeard_concat_evaluate]
      exact ih fun hheard => h (heardOther_concat_evaluate.mpr hheard)

theorem lastHeard_le (htimed : Timed start events now) : lastHeard cfg start events ≤ now := by
  induction htimed with
  | nil hnow => exact hnow
  | @concat events e _ _ hnow ih =>
    cases e with
    | notePeer peerId at' =>
      by_cases hown : peerId = cfg.senderId
      · rw [lastHeard_concat_own hown]
        exact ih.trans hnow
      · rw [lastHeard_concat_other hown]
        exact hnow
    | evaluate at' =>
      rw [lastHeard_concat_evaluate]
      exact ih.trans hnow

/-- Another node was not heard later than it was last heard. -/
theorem le_lastHeard (htimed : Timed start events now) {p : ℤ} {at' : ℚ} (hne : p ≠ cfg.senderId)
    (hmem : .notePeer p at' ∈ events) : at' ≤ lastHeard cfg start events := by
  induction htimed with
  | nil => exact absurd hmem List.not_mem_nil
  | @concat events e _ hbefore _ ih =>
    rcases List.mem_append.mp hmem with hmem | hmem
    · have hle := ih hmem
      cases e with
      | notePeer peerId at'' =>
        by_cases hown : peerId = cfg.senderId
        · rw [lastHeard_concat_own hown]
          exact hle
        · rw [lastHeard_concat_other hown]
          exact hle.trans (lastHeard_le hbefore)
      | evaluate at'' =>
        rw [lastHeard_concat_evaluate]
        exact hle
    · rw [← List.mem_singleton.mp hmem, lastHeard_concat_other hne]

end

/-! ### What the tracker holds -/

namespace LinkHealthTracker

variable {cfg : LinkHealthConfig} {start now : ℚ} {events : List LinkEvent} {t : LinkHealthTracker}

/-- `evaluate` finds an active peer. -/
def HasActivePeer (cfg : LinkHealthConfig) (now : ℚ) (t : LinkHealthTracker) : Prop :=
  0 < (t.activePeerCount cfg now).1

instance (cfg : LinkHealthConfig) (now : ℚ) (t : LinkHealthTracker) :
    Decidable (t.HasActivePeer cfg now) :=
  inferInstanceAs (Decidable (_ < _))

theorem mem_pruned {entry : ℤ × ℚ} :
    entry ∈ (t.activePeerCount cfg now).2.peersLastSeen ↔
      entry ∈ t.peersLastSeen ∧ now - cfg.peerTimeoutS ≤ entry.2 := by
  simp [activePeerCount, LinkHealth.pruneStalePeers]

theorem hasActivePeer_iff :
    t.HasActivePeer cfg now ↔ ∃ entry ∈ t.peersLastSeen, now - cfg.peerTimeoutS ≤ entry.2 := by
  constructor
  · intro h
    obtain ⟨entry, hentry⟩ := List.length_pos_iff_exists_mem.mp h
    exact ⟨entry, mem_pruned.mp hentry⟩
  · rintro ⟨entry, hentry⟩
    exact List.length_pos_iff_exists_mem.mpr ⟨entry, mem_pruned.mpr hentry⟩

theorem mem_evaluate {entry : ℤ × ℚ} :
    entry ∈ (t.evaluate cfg now).2.peersLastSeen ↔
      entry ∈ t.peersLastSeen ∧ now - cfg.peerTimeoutS ≤ entry.2 := mem_pruned

theorem silentState_recoveryStartedAt (inactiveMs : ℤ) :
    (silentState cfg inactiveMs).2.2 = none := by
  unfold silentState
  split_ifs <;> rfl

/-- With an active peer `evaluate` takes this branch. -/
theorem evaluate_of_active (h : t.HasActivePeer cfg now) :
    (t.evaluate cfg now).2.state = (t.linkedState cfg now).1 ∧
      (t.evaluate cfg now).2.recoveryStartedAt = (t.linkedState cfg now).2.2 := by
  have hbranch : 0 < (t.activePeerCount cfg now).1 := h
  simp only [evaluate, if_pos hbranch]
  exact ⟨rfl, rfl⟩

/-- Without one it takes the other. -/
theorem evaluate_of_not_active (h : ¬ t.HasActivePeer cfg now) :
    (t.evaluate cfg now).2.state =
        (silentState cfg (max 0 (truncate ((now - t.lastLinkSeenAt) * 1000)))).1 ∧
      (t.evaluate cfg now).2.recoveryStartedAt = none := by
  have hbranch : ¬ 0 < (t.activePeerCount cfg now).1 := h
  simp only [evaluate, if_neg hbranch]
  exact ⟨rfl, silentState_recoveryStartedAt _⟩

/-- **What an evaluation with an active peer does**: `NOMINAL` stays, `RECOVERY` ends when
its hold is over, and every other state goes to or stays in `RECOVERY`. -/
theorem evaluate_active_cases (h : t.HasActivePeer cfg now) :
    (t.state = .nominal ∧ (t.evaluate cfg now).2.state = .nominal ∧
        (t.evaluate cfg now).2.recoveryStartedAt = none) ∨
      (t.state = .recovery ∧ cfg.recoveryHoldS ≤ now - t.recoveryStartedAt.getD now ∧
        (t.evaluate cfg now).2.state = .nominal ∧
        (t.evaluate cfg now).2.recoveryStartedAt = none) ∨
      (t.state ≠ .nominal ∧ (t.evaluate cfg now).2.state = .recovery ∧
        (t.evaluate cfg now).2.recoveryStartedAt = some (t.recoveryStartedAt.getD now)) := by
  obtain ⟨hstate, hstarted⟩ := evaluate_of_active h
  rw [hstate, hstarted, linkedState]
  cases hprev : t.state with
  | nominal => exact Or.inl ⟨rfl, rfl, rfl⟩
  | recovery =>
    dsimp only
    by_cases hhold : cfg.recoveryHoldS ≤ now - t.recoveryStartedAt.getD now
    · rw [if_pos hhold]
      exact Or.inr (Or.inl ⟨rfl, hhold, rfl, rfl⟩)
    · rw [if_neg hhold]
      exact Or.inr (Or.inr ⟨by decide, rfl, rfl⟩)
  | degraded => exact Or.inr (Or.inr ⟨by decide, rfl, rfl⟩)
  | isolated => exact Or.inr (Or.inr ⟨by decide, rfl, rfl⟩)
  | moving => exact Or.inr (Or.inr ⟨by decide, rfl, rfl⟩)
  | rtb => exact Or.inr (Or.inr ⟨by decide, rfl, rfl⟩)

end LinkHealthTracker

/-- The state that the thresholds select after a silence, in milliseconds. -/
def LinkHealthConfig.stateAfter (cfg : LinkHealthConfig) (silenceMs : ℚ) : LinkState :=
  if silenceMs < cfg.degradedAfterMs then .nominal
  else if silenceMs < cfg.isolatedAfterMs then .degraded
  else if silenceMs < cfg.moveAfterMs then .isolated
  else if silenceMs < cfg.rtbAfterMs then .moving
  else .rtb

theorem LinkHealthConfig.stateAfter_ne_recovery (cfg : LinkHealthConfig) (silenceMs : ℚ) :
    cfg.stateAfter silenceMs ≠ .recovery := by
  unfold LinkHealthConfig.stateAfter
  split_ifs <;> decide

/-- The whole milliseconds select the state of the exact silence. -/
theorem silentState_eq_stateAfter (cfg : LinkHealthConfig) (silenceMs : ℚ) :
    (LinkHealthTracker.silentState cfg (max 0 (truncate silenceMs))).1 =
      cfg.stateAfter silenceMs := by
  have h₀ := cfg.degradedAfterMs_pos
  have h₁ := cfg.degraded_lt_isolated
  have h₂ := cfg.isolated_lt_move
  have h₃ := cfg.move_lt_rtb
  have h₁' : (cfg.degradedAfterMs : ℚ) < cfg.isolatedAfterMs := by exact_mod_cast h₁
  have h₂' : (cfg.isolatedAfterMs : ℚ) < cfg.moveAfterMs := by exact_mod_cast h₂
  have h₃' : (cfg.moveAfterMs : ℚ) < cfg.rtbAfterMs := by exact_mod_cast h₃
  simp only [LinkHealthTracker.silentState, LinkHealthConfig.stateAfter,
    le_max_truncate_iff (show 0 < cfg.rtbAfterMs by omega),
    le_max_truncate_iff (show 0 < cfg.moveAfterMs by omega),
    le_max_truncate_iff (show 0 < cfg.isolatedAfterMs by omega), le_max_truncate_iff h₀]
  by_cases hrtb : (cfg.rtbAfterMs : ℚ) ≤ silenceMs
  · rw [if_pos hrtb, if_neg (by linarith), if_neg (by linarith), if_neg (by linarith),
      if_neg (by linarith)]
  by_cases hmove : (cfg.moveAfterMs : ℚ) ≤ silenceMs
  · rw [if_neg hrtb, if_pos hmove, if_neg (by linarith), if_neg (by linarith),
      if_neg (by linarith), if_pos (not_le.mp hrtb)]
  by_cases hisolated : (cfg.isolatedAfterMs : ℚ) ≤ silenceMs
  · rw [if_neg hrtb, if_neg hmove, if_pos hisolated, if_neg (by linarith), if_neg (by linarith),
      if_pos (not_le.mp hmove)]
  by_cases hdegraded : (cfg.degradedAfterMs : ℚ) ≤ silenceMs
  · rw [if_neg hrtb, if_neg hmove, if_neg hisolated, if_pos hdegraded, if_neg (by linarith),
      if_pos (not_le.mp hisolated)]
  · rw [if_neg hrtb, if_neg hmove, if_neg hisolated, if_neg hdegraded,
      if_pos (not_le.mp hdegraded)]

/-- What a tracker holds at `now`, `events` after it was made at `start`. -/
structure Tracks (cfg : LinkHealthConfig) (start : ℚ) (events : List LinkEvent) (now : ℚ)
    (t : LinkHealthTracker) : Prop where
  recovery_iff : t.recoveryStartedAt.isSome = true ↔ t.state = .recovery
  heard : ∀ entry ∈ t.peersLastSeen,
    entry.1 ≠ cfg.senderId ∧ .notePeer entry.1 entry.2 ∈ events
  last : t.lastLinkSeenAt = lastHeard cfg start events
  newest : HeardOther cfg events → now - cfg.peerTimeoutS ≤ lastHeard cfg start events →
    ∃ entry ∈ t.peersLastSeen, entry.2 = lastHeard cfg start events

section

variable {cfg : LinkHealthConfig} {start now later : ℚ} {events : List LinkEvent}
  {t : LinkHealthTracker}

theorem LinkHealthConfig.peerTimeoutS_pos (cfg : LinkHealthConfig) : 0 < cfg.peerTimeoutS := by
  have h : (0 : ℚ) < cfg.peerTimeoutMs := by exact_mod_cast cfg.peerTimeoutMs_pos
  rw [LinkHealthConfig.peerTimeoutS]
  linarith

theorem Tracks.mono (h : Tracks cfg start events now t) (hle : now ≤ later) :
    Tracks cfg start events later t where
  recovery_iff := h.recovery_iff
  heard := h.heard
  last := h.last
  newest := fun hheard hrecent => h.newest hheard (by linarith)

theorem tracks_new : Tracks cfg start [] now (.new start) where
  recovery_iff := iff_of_false Bool.false_ne_true LinkState.noConfusion
  heard := fun _ h => absurd h List.not_mem_nil
  last := rfl
  newest := fun ⟨_, _, _, h⟩ => absurd h List.not_mem_nil

/-- Its own id changes nothing. -/
theorem notePeer_own {peerId : ℤ} (h : peerId = cfg.senderId) : t.notePeer cfg peerId now = t := by
  rw [LinkHealthTracker.notePeer, LinkHealth.notePeer, if_pos h]

theorem Tracks.notePeer (h : Tracks cfg start events now t) (peerId : ℤ) :
    Tracks cfg start (events ++ [.notePeer peerId now]) now (t.notePeer cfg peerId now) := by
  by_cases hown : peerId = cfg.senderId
  · rw [notePeer_own hown]
    refine ⟨h.recovery_iff, fun entry hentry => ?_, ?_, ?_⟩
    · exact (h.heard entry hentry).imp_right (List.mem_append_left _)
    · rw [lastHeard_concat_own hown]
      exact h.last
    · rw [lastHeard_concat_own hown, heardOther_concat_own hown]
      exact h.newest
  · simp only [LinkHealthTracker.notePeer, LinkHealth.notePeer, if_neg hown,
      LinkHealth.pruneStalePeers]
    refine ⟨h.recovery_iff, fun entry hentry => ?_, (lastHeard_concat_other hown).symm,
      fun _ _ => ⟨(peerId, now), ?_, (lastHeard_concat_other hown).symm⟩⟩
    · rcases mem_of_mem_setPeer (List.mem_filter.mp hentry).1 with rfl | hentry
      · exact ⟨hown, List.mem_append_right _ (List.mem_singleton_self _)⟩
      · exact (h.heard entry hentry).imp_right (List.mem_append_left _)
    · have htimeout := cfg.peerTimeoutS_pos
      exact List.mem_filter.mpr ⟨mem_setPeer .., decide_eq_true (by linarith)⟩

theorem Tracks.evaluate (h : Tracks cfg start events now t) :
    Tracks cfg start (events ++ [.evaluate now]) now (t.evaluate cfg now).2 := by
  refine ⟨?_, fun entry hentry => ?_, ?_, ?_⟩
  · by_cases hactive : t.HasActivePeer cfg now
    · rcases LinkHealthTracker.evaluate_active_cases hactive with
        ⟨-, hstate, hstarted⟩ | ⟨-, -, hstate, hstarted⟩ | ⟨-, hstate, hstarted⟩
      · rw [hstate, hstarted]
        exact iff_of_false Bool.false_ne_true LinkState.noConfusion
      · rw [hstate, hstarted]
        exact iff_of_false Bool.false_ne_true LinkState.noConfusion
      · rw [hstate, hstarted]
        exact iff_of_true rfl rfl
    · obtain ⟨hstate, hstarted⟩ := LinkHealthTracker.evaluate_of_not_active hactive
      rw [hstate, hstarted, silentState_eq_stateAfter]
      exact iff_of_false Bool.false_ne_true (cfg.stateAfter_ne_recovery _)
  · exact (h.heard entry (LinkHealthTracker.mem_evaluate.mp hentry).1).imp_right
      (List.mem_append_left _)
  · rw [lastHeard_concat_evaluate]
    exact h.last
  · rw [lastHeard_concat_evaluate, heardOther_concat_evaluate]
    intro hheard hrecent
    obtain ⟨entry, hentry, heq⟩ := h.newest hheard hrecent
    exact ⟨entry, LinkHealthTracker.mem_evaluate.mpr ⟨hentry, by rw [heq]; exact hrecent⟩, heq⟩

/-- **Every run is tracked.** -/
theorem run_tracks (h : Timed start events now) :
    Tracks cfg start events now (LinkHealthTracker.run cfg start events) := by
  induction h with
  | nil => exact tracks_new
  | @concat events e _ _ hnow ih =>
    rw [LinkHealthTracker.run_concat]
    cases e with
    | notePeer peerId at' => exact (ih.notePeer peerId).mono hnow
    | evaluate at' => exact ih.evaluate.mono hnow

/-- **A peer is active** when another node was heard within the timeout. -/
theorem Tracks.hasActivePeer_iff (h : Tracks cfg start events now t)
    (htimed : Timed start events now) :
    t.HasActivePeer cfg now ↔
      HeardOther cfg events ∧ now - cfg.peerTimeoutS ≤ lastHeard cfg start events := by
  rw [LinkHealthTracker.hasActivePeer_iff]
  constructor
  · rintro ⟨entry, hentry, hrecent⟩
    obtain ⟨hne, hmem⟩ := h.heard entry hentry
    exact ⟨⟨_, _, hne, hmem⟩, hrecent.trans (le_lastHeard htimed hne hmem)⟩
  · rintro ⟨hheard, hrecent⟩
    obtain ⟨entry, hentry, heq⟩ := h.newest hheard hrecent
    exact ⟨entry, hentry, by rw [heq]; exact hrecent⟩

/-- **Without an active peer the thresholds select the state.** -/
theorem evaluate_state_of_not_active (htimed : Timed start events now)
    (h : ¬ (LinkHealthTracker.run cfg start events).HasActivePeer cfg now) :
    ((LinkHealthTracker.run cfg start events).evaluate cfg now).2.state =
      cfg.stateAfter ((now - lastHeard cfg start events) * 1000) := by
  rw [(LinkHealthTracker.evaluate_of_not_active h).1, (run_tracks htimed).last,
    silentState_eq_stateAfter]

/-! ### Severity -/

/-- How bad a state is: `NOMINAL` and `RECOVERY`, then the states of a silence that goes on. -/
def LinkState.severity : LinkState → ℕ
  | .nominal | .recovery => 0
  | .degraded => 1
  | .isolated => 2
  | .moving => 3
  | .rtb => 4

/-- A longer silence is not less severe. -/
theorem LinkHealthConfig.severity_stateAfter_mono (cfg : LinkHealthConfig) {x y : ℚ}
    (hle : x ≤ y) : (cfg.stateAfter x).severity ≤ (cfg.stateAfter y).severity := by
  unfold LinkHealthConfig.stateAfter
  split_ifs <;> first | decide | (exfalso; linarith)

theorem LinkHealthConfig.stateAfter_rtb (cfg : LinkHealthConfig) {silenceMs : ℚ}
    (h : cfg.rtbAfterMs ≤ silenceMs) : cfg.stateAfter silenceMs = .rtb := by
  have h₁ : (cfg.degradedAfterMs : ℚ) < cfg.isolatedAfterMs := by
    exact_mod_cast cfg.degraded_lt_isolated
  have h₂ : (cfg.isolatedAfterMs : ℚ) < cfg.moveAfterMs := by exact_mod_cast cfg.isolated_lt_move
  have h₃ : (cfg.moveAfterMs : ℚ) < cfg.rtbAfterMs := by exact_mod_cast cfg.move_lt_rtb
  rw [LinkHealthConfig.stateAfter, if_neg (by linarith), if_neg (by linarith),
    if_neg (by linarith), if_neg (by linarith)]

/-- With an active peer the state is a harmless one. -/
theorem severity_evaluate_of_active (h : t.HasActivePeer cfg now) :
    (t.evaluate cfg now).2.state.severity = 0 := by
  rcases LinkHealthTracker.evaluate_active_cases h with
    ⟨-, hstate, -⟩ | ⟨-, -, hstate, -⟩ | ⟨-, hstate, -⟩
  all_goals rw [hstate]; rfl

/-- Calls that hear no other node leave what was heard alone. -/
theorem lastHeard_append_quiet {quiet : List LinkEvent} (hquiet : ¬ HeardOther cfg quiet) :
    lastHeard cfg start (events ++ quiet) = lastHeard cfg start events := by
  induction quiet using List.reverseRecOn with
  | nil => rw [List.append_nil]
  | append_singleton quiet e ih =>
    have hquiet' : ¬ HeardOther cfg quiet := fun ⟨p, at', hne, hmem⟩ =>
      hquiet ⟨p, at', hne, List.mem_append_left _ hmem⟩
    rw [← List.append_assoc]
    cases e with
    | notePeer peerId at' =>
      by_cases hown : peerId = cfg.senderId
      · rw [lastHeard_concat_own hown, ih hquiet']
      · exact absurd (heardOther_concat_other hown) hquiet
    | evaluate at' => rw [lastHeard_concat_evaluate, ih hquiet']

theorem heardOther_append_quiet {quiet : List LinkEvent} (hquiet : ¬ HeardOther cfg quiet) :
    HeardOther cfg (events ++ quiet) ↔ HeardOther cfg events := by
  constructor
  · rintro ⟨p, at', hne, hmem⟩
    rcases List.mem_append.mp hmem with hmem | hmem
    · exact ⟨p, at', hne, hmem⟩
    · exact absurd ⟨p, at', hne, hmem⟩ hquiet
  · rintro ⟨p, at', hne, hmem⟩
    exact ⟨p, at', hne, List.mem_append_left _ hmem⟩

theorem timed_concat {e : LinkEvent} (h : Timed start (events ++ [e]) now) :
    Timed start events e.time ∧ e.time ≤ now := by
  generalize hcalls : events ++ [e] = calls at h
  cases h with
  | nil => exact absurd hcalls (List.append_ne_nil_of_right_ne_nil _ (List.cons_ne_nil _ _))
  | concat hbefore hnow =>
    obtain ⟨rfl, hlast⟩ := List.append_inj' hcalls rfl
    obtain rfl := List.singleton_inj.mp hlast
    exact ⟨hbefore, hnow⟩

/-- The run up to an earlier call. -/
theorem Timed.of_append {more : List LinkEvent} {e : LinkEvent}
    (h : Timed start (events ++ e :: more) now) : Timed start events e.time ∧ e.time ≤ now := by
  induction more using List.reverseRecOn generalizing now with
  | nil => exact timed_concat h
  | append_singleton more last ih =>
    rw [← List.cons_append, ← List.append_assoc] at h
    obtain ⟨hbefore, hnow⟩ := timed_concat h
    obtain ⟨htimed, hle⟩ := ih hbefore
    exact ⟨htimed, hle.trans hnow⟩

/-- **A silence only gets worse**: from one evaluation to a later one, no other node being
heard between them. -/
theorem severity_le_of_quiet {quiet : List LinkEvent} (hquiet : ¬ HeardOther cfg quiet)
    (htimed : Timed start (events ++ .evaluate now :: quiet) later) :
    (LinkHealthTracker.run cfg start (events ++ [.evaluate now])).state.severity ≤
      ((LinkHealthTracker.run cfg start (events ++ .evaluate now :: quiet)).evaluate cfg
        later).2.state.severity := by
  obtain ⟨hbefore, hle⟩ : Timed start events now ∧ now ≤ later := htimed.of_append
  have hcalls : events ++ .evaluate now :: quiet = (events ++ [.evaluate now]) ++ quiet := by
    rw [List.append_assoc, List.singleton_append]
  have hlast : lastHeard cfg start (events ++ .evaluate now :: quiet) =
      lastHeard cfg start events := by
    rw [hcalls, lastHeard_append_quiet hquiet, lastHeard_concat_evaluate]
  have hheard : HeardOther cfg (events ++ .evaluate now :: quiet) ↔ HeardOther cfg events := by
    rw [hcalls, heardOther_append_quiet hquiet, heardOther_concat_evaluate]
  rw [LinkHealthTracker.run_concat]
  change ((LinkHealthTracker.run cfg start events).evaluate cfg now).2.state.severity ≤ _
  by_cases hactive : (LinkHealthTracker.run cfg start events).HasActivePeer cfg now
  · rw [severity_evaluate_of_active hactive]
    exact Nat.zero_le _
  · have hactive' : ¬ (LinkHealthTracker.run cfg start
        (events ++ .evaluate now :: quiet)).HasActivePeer cfg later := by
      rw [(run_tracks htimed).hasActivePeer_iff htimed, hlast, hheard]
      rw [(run_tracks hbefore).hasActivePeer_iff hbefore] at hactive
      rintro ⟨hany, hrecent⟩
      exact hactive ⟨hany, le_trans (sub_le_sub_right hle _) hrecent⟩
    rw [evaluate_state_of_not_active hbefore hactive,
      evaluate_state_of_not_active htimed hactive', hlast]
    refine cfg.severity_stateAfter_mono (mul_le_mul_of_nonneg_right ?_ (by norm_num))
    exact sub_le_sub_right hle _

end

/-- **Link-health escalation.**  After every evaluation of every run: the recovery timer is
set exactly in `RECOVERY`; every peer in the table is another node that was heard within the
timeout; without an active peer the state is the one the thresholds select for the time
since another node was last heard; past both the peer timeout and the last threshold it is
`RTB`; and until another node is heard again, no later evaluation finds a less severe state. -/
theorem link_health_escalates (cfg : LinkHealthConfig) {start now : ℚ} {events : List LinkEvent}
    (htimed : Timed start events now) :
    let t := LinkHealthTracker.run cfg start (events ++ [.evaluate now])
    let silence := now - lastHeard cfg start events
    (t.recoveryStartedAt.isSome = true ↔ t.state = .recovery) ∧
      (∀ entry ∈ t.peersLastSeen, entry.1 ≠ cfg.senderId ∧
        .notePeer entry.1 entry.2 ∈ events ∧ now - entry.2 ≤ cfg.peerTimeoutS) ∧
      (t.peersLastSeen = [] → t.state = cfg.stateAfter (silence * 1000)) ∧
      (cfg.peerTimeoutS < silence → cfg.rtbAfterMs ≤ silence * 1000 → t.state = .rtb) ∧
      ∀ quiet later, ¬ HeardOther cfg quiet →
        Timed start (events ++ .evaluate now :: quiet) later →
        t.state.severity ≤ (LinkHealthTracker.run cfg start
          (events ++ .evaluate now :: quiet ++ [.evaluate later])).state.severity := by
  have htracks := @run_tracks cfg _ _ _ htimed
  have hafter := htracks.evaluate
  have hrun : LinkHealthTracker.run cfg start (events ++ [.evaluate now]) =
      ((LinkHealthTracker.run cfg start events).evaluate cfg now).2 :=
    LinkHealthTracker.run_concat ..
  dsimp only
  refine ⟨hrun ▸ hafter.recovery_iff, fun entry hentry => ?_, fun hempty => ?_,
    fun htimeout hrtb => ?_, fun quiet later hquiet hlater => ?_⟩
  · rw [hrun] at hentry
    obtain ⟨hmem, hrecent⟩ := LinkHealthTracker.mem_evaluate.mp hentry
    obtain ⟨hne, hheard⟩ := htracks.heard entry hmem
    exact ⟨hne, hheard, by linarith⟩
  · rw [hrun] at hempty ⊢
    refine evaluate_state_of_not_active htimed fun hactive => ?_
    exact hactive.ne' (List.length_eq_zero_iff.mpr hempty)
  · have hactive : ¬ (LinkHealthTracker.run cfg start events).HasActivePeer cfg now := by
      rw [htracks.hasActivePeer_iff htimed]
      rintro ⟨-, hrecent⟩
      linarith
    rw [hrun, evaluate_state_of_not_active htimed hactive, cfg.stateAfter_rtb hrtb]
  · rw [LinkHealthTracker.run_concat cfg start (events ++ .evaluate now :: quiet)]
    exact severity_le_of_quiet hquiet hlater

/-- Thresholds to run the model with: the defaults, with this peer timeout. -/
def LinkHealthConfig.sample (peerTimeoutMs : ℤ) (hpos : 0 < peerTimeoutMs) : LinkHealthConfig where
  senderId := 1
  peerTimeoutMs := peerTimeoutMs
  degradedAfterMs := 5000
  isolatedAfterMs := 15000
  moveAfterMs := 30000
  rtbAfterMs := 60000
  recoveryHoldMs := 5000
  peerTimeoutMs_pos := hpos
  degradedAfterMs_pos := by decide
  degraded_lt_isolated := by decide
  isolated_lt_move := by decide
  move_lt_rtb := by decide
  recoveryHoldMs_nonneg := by decide

/-- Two peer timeouts: the default and one second. -/
theorem peerTimeoutMs_default : (0 : ℤ) < 12000 := by decide
theorem peerTimeoutMs_second : (0 : ℤ) < 1000 := by decide

/-- A node is heard at 0 and the tracker evaluated at 61 seconds. -/
theorem timed_heard_once : Timed 0 [.notePeer 2 0] 61 :=
  @Timed.concat 0 [] _ _ (.nil (by decide +kernel)) (by decide +kernel)

/-- A minute after the last node was heard the state is `RTB`. -/
theorem link_health_escalates_minute :
    Timed 0 [.notePeer 2 0] 61 ∧
      (LinkHealthTracker.run (LinkHealthConfig.sample 12000 peerTimeoutMs_default) 0
        ([.notePeer 2 0] ++ [.evaluate 61])).state = .rtb :=
  ⟨timed_heard_once, (link_health_escalates (LinkHealthConfig.sample 12000 peerTimeoutMs_default)
    timed_heard_once).2.2.2.1 (by decide +kernel) (by decide +kernel)⟩

end KovaWfb
