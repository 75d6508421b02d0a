/-
# When the recovery hold is honoured

`LinkHealthTracker.evaluate` of `python/examples/mesh_txrx.py` (186 to 246) holds a node in
`RECOVERY` for `--link-recovery-hold-ms` ("time spent in RECOVERY before returning to
NOMINAL", 960 to 965) while a peer is active.  Without an active peer the thresholds decide,
and a silence that is longer than the peer timeout but shorter than the first threshold
selects `NOMINAL` at once.

`main` does not compare the two, and they decide the law: in every run a return to `NOMINAL`
follows a full hold in `RECOVERY` exactly when no peer times out before the first threshold
(`recovery_hold_honoured_iff`).
-/

import KovaWfb.Mesh.LinkHealth

namespace KovaWfb

/-- From the evaluation at `since`, behind the calls `pre`, through the calls `post` the
tracker is in `RECOVERY`, and every evaluation finds an active peer. -/
structure RecoveringSince (cfg : LinkHealthConfig) (start : ℚ) (pre : List LinkEvent) (since : ℚ)
    (post : List LinkEvent) : Prop where
  state : ∀ mid, mid <+: post →
    (LinkHealthTracker.run cfg start (pre ++ .evaluate since :: mid)).state = .recovery
  active : ∀ mid at', mid ++ [.evaluate at'] <+: .evaluate since :: post →
    (LinkHealthTracker.run cfg start (pre ++ mid)).HasActivePeer cfg at'

/-- In every run an evaluation that returns to `NOMINAL` ends a `RECOVERY` that took at least
the hold, with an active peer at each of its evaluations and at this one. -/
def HoldHonoured (cfg : LinkHealthConfig) : Prop :=
  ∀ start events now, Timed start events now →
    let before := LinkHealthTracker.run cfg start events
    before.state ≠ .nominal → (before.evaluate cfg now).2.state = .nominal →
      before.HasActivePeer cfg now ∧
        ∃ pre since post, events = pre ++ .evaluate since :: post ∧
          cfg.recoveryHoldS ≤ now - since ∧ RecoveringSince cfg start pre since post

section

variable {cfg : LinkHealthConfig} {start now since : ℚ} {events pre post : List LinkEvent}

/-! ### The timer marks a recovery -/

/-- An evaluation that starts a recovery. -/
theorem RecoveringSince.begin
    (hactive : (LinkHealthTracker.run cfg start events).HasActivePeer cfg since)
    (hstate : ((LinkHealthTracker.run cfg start events).evaluate cfg since).2.state = .recovery) :
    RecoveringSince cfg start events since [] where
  state := by
    intro mid hmid
    rw [List.prefix_nil.mp hmid, LinkHealthTracker.run_concat]
    exact hstate
  active := by
    intro mid at' hmid
    obtain ⟨rest, hrest⟩ := hmid
    cases mid with
    | nil =>
      obtain rfl := LinkEvent.evaluate.inj (List.cons.inj hrest).1
      rw [List.append_nil]
      exact hactive
    | cons e mid =>
      have := congrArg List.length hrest
      simp at this

/-- A recovery goes on with a call that stays in `RECOVERY`, and with an active peer if it is
an evaluation. -/
theorem RecoveringSince.concat (h : RecoveringSince cfg start pre since post) {e : LinkEvent}
    (hstate : (LinkHealthTracker.run cfg start (pre ++ .evaluate since :: post ++ [e])).state =
      .recovery)
    (hactive : ∀ at', e = .evaluate at' → (LinkHealthTracker.run cfg start
      (pre ++ .evaluate since :: post)).HasActivePeer cfg at') :
    RecoveringSince cfg start pre since (post ++ [e]) where
  state := by
    intro mid hmid
    rcases List.prefix_concat_iff.mp hmid with rfl | hmid
    · rw [List.append_assoc, List.cons_append] at hstate
      exact hstate
    · exact h.state mid hmid
  active := by
    intro mid at' hmid
    rw [← List.cons_append] at hmid
    rcases List.prefix_concat_iff.mp hmid with heq | hmid
    · obtain ⟨rfl, hlast⟩ := List.append_inj' heq rfl
      exact hactive at' (List.singleton_inj.mp hlast).symm
    · exact h.active mid at' hmid

/-- **The recovery timer marks the start of a recovery.** -/
theorem recoveringSince_of_started (htimed : Timed start events now) :
    ∀ since, (LinkHealthTracker.run cfg start events).recoveryStartedAt = some since →
      ∃ pre post, events = pre ++ .evaluate since :: post ∧
        RecoveringSince cfg start pre since post := by
  induction htimed with
  | nil => exact fun since h => by cases h
  | @concat events e _ hbefore _ ih =>
    intro since hstarted
    have htracks := @run_tracks cfg _ _ _ hbefore
    rw [LinkHealthTracker.run_concat] at hstarted
    have hrecovery : ((LinkHealthTracker.run cfg start events).apply cfg e).state = .recovery := by
      have htracks' := @run_tracks cfg _ _ _ (hbefore.concat le_rfl)
      rw [LinkHealthTracker.run_concat] at htracks'
      exact htracks'.recovery_iff.mp (by rw [hstarted]; rfl)
    cases e with
    | notePeer peerId at' =>
      obtain ⟨pre, post, rfl, hsince⟩ := ih since hstarted
      refine ⟨pre, post ++ [.notePeer peerId at'], by simp, hsince.concat ?_ fun _ h => by cases h⟩
      rw [LinkHealthTracker.run_concat]
      exact hrecovery
    | evaluate at' =>
      by_cases hactive : (LinkHealthTracker.run cfg start events).HasActivePeer cfg at'
      · rcases LinkHealthTracker.evaluate_active_cases hactive with
          ⟨-, hstate, -⟩ | ⟨-, -, hstate, -⟩ | ⟨-, hstate, hstarted'⟩
        · exact absurd (hstate.symm.trans hrecovery) (by decide)
        · exact absurd (hstate.symm.trans hrecovery) (by decide)
        · cases hprev : (LinkHealthTracker.run cfg start events).recoveryStartedAt with
          | none =>
            rw [hprev] at hstarted'
            obtain rfl : at' = since := Option.some.inj (hstarted'.symm.trans hstarted)
            exact ⟨events, [], rfl, .begin hactive hstate⟩
          | some since' =>
            rw [hprev] at hstarted'
            obtain rfl : since' = since := Option.some.inj (hstarted'.symm.trans hstarted)
            obtain ⟨pre, post, rfl, hsince⟩ := ih since' hprev
            refine ⟨pre, post ++ [.evaluate at'], by simp, hsince.concat ?_ ?_⟩
            · rw [LinkHealthTracker.run_concat]
              exact hrecovery
            · rintro _ ⟨⟩
              exact hactive
      · exact absurd ((LinkHealthTracker.evaluate_of_not_active hactive).2.symm.trans hstarted)
          (Option.some_ne_none _).symm

/-- Before another node was heard, a state other than `NOMINAL` means that the first threshold
has passed. -/
theorem degraded_of_not_heardOther (htimed : Timed start events now)
    (hquiet : ¬ HeardOther cfg events)
    (hstate : (LinkHealthTracker.run cfg start events).state ≠ .nominal) :
    cfg.degradedAfterMs ≤ (now - start) * 1000 := by
  induction htimed with
  | nil => exact absurd rfl hstate
  | @concat events e now' hbefore hnow ih =>
    have hquiet' : ¬ HeardOther cfg events := fun ⟨p, at', hne, hmem⟩ =>
      hquiet ⟨p, at', hne, List.mem_append_left _ hmem⟩
    rw [LinkHealthTracker.run_concat] at hstate
    cases e with
    | notePeer peerId at' =>
      replace hnow : at' ≤ now' := hnow
      have hle : cfg.degradedAfterMs ≤ (at' - start) * 1000 := ih hquiet' hstate
      linarith
    | evaluate at' =>
      replace hnow : at' ≤ now' := hnow
      replace hbefore : Timed start events at' := hbefore
      have hactive : ¬ (LinkHealthTracker.run cfg start events).HasActivePeer cfg at' := by
        rw [(run_tracks hbefore).hasActivePeer_iff hbefore]
        exact fun h => hquiet' h.1
      have hselected := evaluate_state_of_not_active hbefore hactive
      rw [lastHeard_of_not_heardOther hbefore hquiet'] at hselected
      have hlong : ¬ (at' - start) * 1000 < cfg.degradedAfterMs := by
        intro hshort
        refine hstate (hselected.trans ?_)
        rw [LinkHealthConfig.stateAfter, if_pos hshort]
      linarith

/-! ### The condition -/

/-- Without an active peer the state after `NOMINAL` was left is not `NOMINAL` again, where
no peer times out before the first threshold. -/
theorem not_nominal_of_not_active (hle : cfg.degradedAfterMs ≤ cfg.peerTimeoutMs)
    (htimed : Timed start events now)
    (hstate : (LinkHealthTracker.run cfg start events).state ≠ .nominal)
    (hactive : ¬ (LinkHealthTracker.run cfg start events).HasActivePeer cfg now) :
    ((LinkHealthTracker.run cfg start events).evaluate cfg now).2.state ≠ .nominal := by
  have hle' : (cfg.degradedAfterMs : ℚ) ≤ cfg.peerTimeoutMs := by exact_mod_cast hle
  have hlong : ¬ (now - lastHeard cfg start events) * 1000 < cfg.degradedAfterMs := by
    rw [(run_tracks htimed).hasActivePeer_iff htimed] at hactive
    by_cases hheard : HeardOther cfg events
    · have htimeout : ¬ now - cfg.peerTimeoutS ≤ lastHeard cfg start events :=
        fun hrecent => hactive ⟨hheard, hrecent⟩
      rw [LinkHealthConfig.peerTimeoutS] at htimeout
      linarith
    · have hpassed := degraded_of_not_heardOther htimed hheard hstate
      rw [lastHeard_of_not_heardOther htimed hheard]
      linarith
  rw [evaluate_state_of_not_active htimed hactive, LinkHealthConfig.stateAfter, if_neg hlong]
  split_ifs <;> decide

theorem holdHonoured_of_le (hle : cfg.degradedAfterMs ≤ cfg.peerTimeoutMs) : HoldHonoured cfg := by
  intro start events now htimed before hstate hnominal
  have hactive : before.HasActivePeer cfg now := by
    by_contra hactive
    exact not_nominal_of_not_active hle htimed hstate hactive hnominal
  refine ⟨hactive, ?_⟩
  rcases LinkHealthTracker.evaluate_active_cases hactive with
    ⟨hstate', -⟩ | ⟨hrecovery, hhold, -⟩ | ⟨-, hstate', -⟩
  · exact absurd hstate' hstate
  · obtain ⟨since, hsince⟩ :=
      Option.isSome_iff_exists.mp ((run_tracks htimed).recovery_iff.mpr hrecovery)
    obtain ⟨pre, post, hevents, hrecovering⟩ := recoveringSince_of_started htimed since hsince
    rw [hsince] at hhold
    exact ⟨pre, since, post, hevents, hhold, hrecovering⟩
  · exact absurd (hstate'.symm.trans hnominal) (by decide)

/-- With nobody heard, an evaluation past the last threshold selects `RTB`. -/
theorem rtb_of_silence {heardAt : ℚ} (hstart : 0 ≤ heardAt)
    (hlong : cfg.rtbAfterMs ≤ (heardAt - 0) * 1000) :
    (LinkHealthTracker.run cfg 0 [.evaluate heardAt]).state = .rtb := by
  have hsilent : Timed 0 [] heardAt := .nil hstart
  have hnobody : ¬ (LinkHealthTracker.run cfg 0 []).HasActivePeer cfg heardAt := by
    rw [(run_tracks hsilent).hasActivePeer_iff hsilent]
    rintro ⟨⟨_, _, _, hmem⟩, -⟩
    exact List.not_mem_nil hmem
  have hselected := evaluate_state_of_not_active hsilent hnobody
  have hrtb : cfg.stateAfter ((heardAt - lastHeard cfg 0 []) * 1000) = .rtb := cfg.stateAfter_rtb hlong
  exact hselected.trans hrtb

/-- A peer heard once is no longer active behind its timeout, and in front of the first
threshold an evaluation selects `NOMINAL`. -/
theorem nominal_of_heardOnce {heardAt : ℚ} (hstart : 0 ≤ heardAt) (hnow : heardAt ≤ now)
    (htimeout : cfg.peerTimeoutMs < (now - heardAt) * 1000)
    (hshort : (now - heardAt) * 1000 < cfg.degradedAfterMs) :
    let before := LinkHealthTracker.run cfg 0
      [.evaluate heardAt, .notePeer (cfg.senderId + 1) heardAt]
    Timed 0 [.evaluate heardAt, .notePeer (cfg.senderId + 1) heardAt] now ∧
      ¬ before.HasActivePeer cfg now ∧ (before.evaluate cfg now).2.state = .nominal := by
  intro before
  have hother : cfg.senderId + 1 ≠ cfg.senderId := by omega
  have hrun : Timed 0 [.evaluate heardAt, .notePeer (cfg.senderId + 1) heardAt] now :=
    @Timed.concat 0 [.evaluate heardAt] _ _ (@Timed.concat 0 [] _ _ (.nil hstart) le_rfl) hnow
  have hlast : lastHeard cfg 0 [.evaluate heardAt, .notePeer (cfg.senderId + 1) heardAt] =
      heardAt := @lastHeard_concat_other cfg 0 heardAt [.evaluate heardAt] _ hother
  have hactive : ¬ before.HasActivePeer cfg now := by
    rw [(run_tracks hrun).hasActivePeer_iff hrun, hlast, LinkHealthConfig.peerTimeoutS]
    rintro ⟨-, hrecent⟩
    linarith
  refine ⟨hrun, hactive, ?_⟩
  rw [evaluate_state_of_not_active hrun hactive, hlast, LinkHealthConfig.stateAfter, if_pos hshort]

/-- A peer that times out before the first threshold: the tracker goes from `RTB` to `NOMINAL`
at once when the peer was heard just once. -/
theorem not_holdHonoured_of_lt (hlt : cfg.peerTimeoutMs < cfg.degradedAfterMs) :
    ¬ HoldHonoured cfg := by
  intro h
  have hlt' : (cfg.peerTimeoutMs : ℚ) + 1 ≤ cfg.degradedAfterMs := by exact_mod_cast hlt
  have htimeout : (0 : ℚ) < cfg.peerTimeoutMs := by exact_mod_cast cfg.peerTimeoutMs_pos
  have hrtb : (0 : ℚ) < cfg.rtbAfterMs := by
    have := cfg.degradedAfterMs_pos
    have := cfg.degraded_lt_isolated
    have := cfg.isolated_lt_move
    have := cfg.move_lt_rtb
    exact_mod_cast (by omega : 0 < cfg.rtbAfterMs)
  let heardAt : ℚ := cfg.rtbAfterMs / 1000
  let now : ℚ := heardAt + (cfg.peerTimeoutMs + 1 / 2) / 1000
  have hstart : 0 ≤ heardAt := by positivity
  have hsilence : (now - heardAt) * 1000 = cfg.peerTimeoutMs + 1 / 2 := by
    simp only [now]
    ring
  have hstate : (LinkHealthTracker.run cfg 0 [.evaluate heardAt]).state = .rtb := by
    refine rtb_of_silence hstart ?_
    simp only [heardAt]
    linarith
  obtain ⟨hrun, hactive, hnominal⟩ := @nominal_of_heardOnce cfg now heardAt hstart
    (by linarith) (by linarith) (by linarith)
  have hleft : (LinkHealthTracker.run cfg 0
      [.evaluate heardAt, .notePeer (cfg.senderId + 1) heardAt]).state ≠ .nominal := by
    change (LinkHealthTracker.run cfg 0 [.evaluate heardAt]).state ≠ .nominal
    rw [hstate]
    decide
  exact hactive (h 0 _ now hrun hleft hnominal).1

end

/-- **The recovery hold is honoured** in every run exactly when the peer timeout is not shorter
than the first threshold. -/
theorem recovery_hold_honoured_iff (cfg : LinkHealthConfig) :
    HoldHonoured cfg ↔ cfg.degradedAfterMs ≤ cfg.peerTimeoutMs := by
  constructor
  · intro h
    by_contra hlt
    exact not_holdHonoured_of_lt (not_le.mp hlt) h
  · exact holdHonoured_of_le

/-- **One frame ends a return to base**: with a peer timeout of a second and the default
thresholds, a node in `RTB` that hears one frame is `NOMINAL` a second and a half later, with
no active peer and never having been in `RECOVERY`. -/
theorem one_frame_ends_rtb :
    let cfg := LinkHealthConfig.sample 1000 peerTimeoutMs_second
    let events : List LinkEvent := [.evaluate 60, .notePeer 2 60]
    let before := LinkHealthTracker.run cfg 0 events
    Timed 0 events (123 / 2) ∧ before.state = .rtb ∧
      (before.evaluate cfg (123 / 2)).2.state = .nominal ∧
      ¬ before.HasActivePeer cfg (123 / 2) ∧ ¬ HoldHonoured cfg := by
  have htimed : Timed 0 [.evaluate 60, .notePeer 2 60] (123 / 2) :=
    @Timed.concat 0 [.evaluate 60] _ _
      (@Timed.concat 0 [] _ _ (.nil (by decide +kernel)) (by decide +kernel)) (by decide +kernel)
  have hrtb : (LinkHealthTracker.run (LinkHealthConfig.sample 1000 peerTimeoutMs_second) 0
      [.evaluate 60, .notePeer 2 60]).state = .rtb := by decide +kernel
  have hnominal : ((LinkHealthTracker.run (LinkHealthConfig.sample 1000 peerTimeoutMs_second) 0
      [.evaluate 60, .notePeer 2 60]).evaluate (LinkHealthConfig.sample 1000 peerTimeoutMs_second)
        (123 / 2)).2.state = .nominal := by decide +kernel
  have hactive : ¬ (LinkHealthTracker.run (LinkHealthConfig.sample 1000 peerTimeoutMs_second) 0
      [.evaluate 60, .notePeer 2 60]).HasActivePeer
        (LinkHealthConfig.sample 1000 peerTimeoutMs_second) (123 / 2) := by decide +kernel
  exact ⟨htimed, hrtb, hnominal, hactive, fun h =>
    hactive (h 0 _ _ htimed (by rw [hrtb]; decide) hnominal).1⟩

end KovaWfb
