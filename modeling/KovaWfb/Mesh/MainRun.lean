/-
# Runs of the main loop

Whole runs of `main` of `python/examples/mesh_txrx.py`, pass after pass.

`main_refines_node`: a run of the loop is a run of the node, so what was proved of every
`NodeRun` (replay protection, authenticity, sequence numbers) holds of the program.
`main_sends_on_schedule`: on which channel and how long after a hop the node sends.
`main_paces_sends`: how far apart the periodic sends are, and how many there can be.
`main_serves_local_control`: what becomes of the messages of local control.
-/

import KovaWfb.Lib.Queue
import KovaWfb.Mesh.MainPass

namespace KovaWfb

/-- A pass of a run, with the states around it. -/
structure MainTurn where
  before : MainState
  env : PassEnv
  pass : Pass
  after : MainState

namespace MainTurn

/-- What the steps of the pass did, if it was not a hop. -/
def report (t : MainTurn) : Option PassReport :=
  match t.pass with
  | .switched _ => none
  | .worked report => some report

/-- What the reports say, over a run. -/
def own (t : MainTurn) : List RadioFrame := (t.report.map PassReport.own).getD []
def sent (t : MainTurn) : List RadioFrame := (t.report.map PassReport.sent).getD []
def queued (t : MainTurn) : List LocalC2Message := (t.report.map PassReport.queued).getD []
def taken (t : MainTurn) : List LocalC2Message := (t.report.map PassReport.taken).getD []

/-- The reading of the monotonic clock: behind the hop, or at the head of the work. -/
def time (t : MainTurn) : ℚ :=
  match t.pass with
  | .switched _ => t.env.switchedAt
  | .worked _ => t.env.now

end MainTurn

/-- A run of the loop: the passes between two states, none of which raised. -/
inductive MainRun (A : Aead) (main : MainConfig) (gradient : Gradient) :
    MainState → List MainTurn → MainState → Prop
  | nil (s : MainState) : MainRun A main gradient s [] s
  | cons {s s' s'' : MainState} {env : PassEnv} {p : Pass} {turns : List MainTurn}
      (first : pass A main gradient env s = .ok p s') (rest : MainRun A main gradient s' turns s'') :
      MainRun A main gradient s (⟨s, env, p, s'⟩ :: turns) s''

/-- The loop, over what its passes meet. -/
def loop (A : Aead) (main : MainConfig) (gradient : Gradient) :
    List PassEnv → PyM MainState (List MainTurn)
  | [] => pure []
  | env :: envs => do
      let before ← get
      let p ← pass A main gradient env
      let after ← get
      let turns ← loop A main gradient envs
      pure (⟨before, env, p, after⟩ :: turns)

/-- The monotonic clock does not go back. -/
def Clocked (turns : List MainTurn) : Prop := (turns.map MainTurn.time).Pairwise (· ≤ ·)

section

variable {A : Aead} {main : MainConfig} {gradient : Gradient} {s s' : MainState}
  {turns : List MainTurn}

theorem MainRun.of_loop {envs : List PassEnv} (h : loop A main gradient envs s = .ok turns s') :
    MainRun A main gradient s turns s' ∧ turns.map MainTurn.env = envs := by
  induction envs generalizing s turns with
  | nil =>
    cases h
    exact ⟨.nil _, rfl⟩
  | cons env envs ih =>
    rw [loop, PyM.get_bind_apply] at h
    obtain ⟨p, s₁, hpass, hrest⟩ := PyM.bind_eq_ok.1 h
    rw [PyM.get_bind_apply] at hrest
    obtain ⟨turns, s₂, hloop, hpure⟩ := PyM.bind_eq_ok.1 hrest
    cases hpure
    obtain ⟨hrun, henvs⟩ := ih hloop
    exact ⟨.cons hpass hrun, congrArg (env :: ·) henvs⟩

/-- What a turn did: the time, whether it worked, and how many frames and messages. -/
def MainTurn.summary (t : MainTurn) : ℚ × Bool × ℕ × ℕ × ℕ :=
  (t.time, t.report.isSome, t.own.length, t.queued.length, t.taken.length)

/-- What the sample run meets. -/
def sampleEnvs : List PassEnv :=
  [PassEnv.sample 0, PassEnv.sample 5, PassEnv.sample 6, PassEnv.sample 7]

/-- A pass under the guard of the start, a hop, a pass that sends all there is and a pass that
sends all but the heartbeat. -/
theorem exists_sample_run :
    ∃ turns s', MainRun Aead.checksum MainConfig.sample Gradient.sample MainState.sample turns s' ∧
      turns.map MainTurn.env = sampleEnvs ∧
      turns.map MainTurn.summary =
        [(0, true, 0, 1, 0), (5, false, 0, 0, 0), (6, true, 4, 1, 1), (7, true, 3, 1, 1)] := by
  obtain ⟨turns, s', hloop, hsummary⟩ := exists_eq_ok_of_map
    (r := loop Aead.checksum MainConfig.sample Gradient.sample sampleEnvs MainState.sample)
    (f := List.map MainTurn.summary)
    (x := [(0, true, 0, 1, 0), (5, false, 0, 0, 0), (6, true, 4, 1, 1), (7, true, 3, 1, 1)])
    (by decide +kernel)
  obtain ⟨hrun, henvs⟩ := MainRun.of_loop hloop
  exact ⟨turns, s', hrun, henvs, hsummary⟩

/-! ### The node -/

/-- **A run of the loop is a run of the node**, which originates and transmits the frames that
the passes report. -/
theorem main_refines_node (h : MainRun A main gradient s turns s') :
    ∃ ticks, NodeRun A main.node s.node ticks s'.node ∧
      originatedFrames ticks = turns.flatMap MainTurn.own ∧
      transmittedFrames ticks = turns.flatMap MainTurn.sent := by
  induction h with
  | nil s => exact ⟨[], .nil _, rfl, rfl⟩
  | cons first _ ih =>
    obtain ⟨ticks, hrun, hown, hsent⟩ := ih
    cases pass_spec first with
    | switched state hstate hleft =>
      exact ⟨_, .cons (.idle _ _ _) hrun, hown, hsent⟩
    | worked report s' hchannel hwork =>
      obtain ⟨ticks₁, hrun₁, hown₁, hsent₁⟩ := hwork.turns.run
      refine ⟨ticks₁ ++ ticks, NodeRun.append_iff.mpr ⟨_, hrun₁, hrun⟩, ?_, ?_⟩
      · rw [originatedFrames, List.filterMap_append, List.flatMap_cons]
        exact congrArg₂ (· ++ ·) hown₁ hown
      · rw [transmittedFrames, List.filterMap_append, List.flatMap_cons]
        exact congrArg₂ (· ++ ·) hsent₁ hsent

/-- The sample run originates seven frames. -/
theorem main_refines_node_sample :
    ∃ n ticks, NodeRun Aead.checksum MainConfig.sample.node MainState.sample.node ticks n ∧
      (originatedFrames ticks).length = 7 := by
  obtain ⟨turns, s', hrun, -, hsummary⟩ := exists_sample_run
  obtain ⟨ticks, hticks, hown, -⟩ := main_refines_node hrun
  refine ⟨s'.node, ticks, hticks, ?_⟩
  have hlengths := congrArg (List.map fun turn : ℚ × Bool × ℕ × ℕ × ℕ => turn.2.2.1) hsummary
  rw [List.map_map] at hlengths
  rw [hown, List.length_flatMap]
  exact congrArg List.sum hlengths

/-! ### The schedule -/

theorem MainRun.append_iff {turns' : List MainTurn} :
    MainRun A main gradient s (turns ++ turns') s' ↔
      ∃ m, MainRun A main gradient s turns m ∧ MainRun A main gradient m turns' s' := by
  constructor
  · intro h
    induction turns generalizing s with
    | nil => exact ⟨s, .nil s, h⟩
    | cons t turns ih =>
      cases h with
      | cons first rest =>
        obtain ⟨m, h₁, h₂⟩ := ih rest
        exact ⟨m, .cons first h₁, h₂⟩
  · rintro ⟨m, h₁, h₂⟩
    induction h₁ with
    | nil => exact h₂
    | cons first _ ih => exact .cons first (ih h₂)

/-- **The guard is never moved before a time** that no hop of the run moves it before. -/
theorem MainRun.le_txGuardUntil (h : MainRun A main gradient s turns s') {low : ℚ}
    (hlow : low ≤ s.loop.txGuardUntil)
    (hturns : ∀ t ∈ turns, low ≤ t.time + main.channelTxGuardS) : low ≤ s'.loop.txGuardUntil := by
  induction h with
  | nil => exact hlow
  | cons first _ ih =>
    rw [List.forall_mem_cons] at hturns
    refine ih ?_ hturns.2
    cases pass_spec first with
    | switched => exact hturns.1
    | worked report s' _ hwork => exact hwork.guard_kept.symm ▸ hlow

/-- The guard of a hop is not over before its time, whatever the passes after it do. -/
theorem MainRun.guard_of_switched {hop : MainTurn} {state : ScheduleState}
    (h : MainRun A main gradient s (hop :: turns) s') (hhop : hop.pass = .switched state)
    (hclock : Clocked (hop :: turns)) :
    hop.env.switchedAt + main.channelTxGuardS ≤ s'.loop.txGuardUntil := by
  obtain ⟨hfirst, -⟩ := List.pairwise_cons.mp hclock
  have htime : hop.time = hop.env.switchedAt := by rw [MainTurn.time, hhop]
  cases h with
  | cons first rest =>
    dsimp only at hhop htime
    subst hhop
    refine rest.le_txGuardUntil ?_ fun t ht => ?_
    · cases pass_spec first
      exact le_rfl
    · refine add_le_add_left ?_ main.channelTxGuardS
      exact htime ▸ hfirst t.time (List.mem_map_of_mem ht)

/-- **When and where the loop sends.**  In a run from the start of `main`, under a clock that
does not go back: a pass that works is on the channel that the schedule shows at its head,
from its first step to its last, and if it originates anything then the guard time of every
hop before it is over, that of the first one included. -/
theorem main_sends_on_schedule {startEnv : StartEnv} {pre post : List MainTurn} {t : MainTurn}
    {report : PassReport}
    (hstart : start main startEnv (MainState.initial main startEnv) = .ok () s)
    (h : MainRun A main gradient s (pre ++ t :: post) s')
    (hclock : (startEnv.switchedAt :: (pre ++ t :: post).map MainTurn.time).Pairwise (· ≤ ·))
    (hworked : t.pass = .worked report) :
    (∀ schedule, main.node.schedule = some schedule →
      t.before.node.currentChannel = some (schedule.state t.env.utcMs).channel) ∧
    t.after.node.currentChannel = t.before.node.currentChannel ∧
    (report.own ≠ [] →
      (main.node.schedule ≠ none → startEnv.switchedAt + main.channelTxGuardS ≤ t.env.now) ∧
      ∀ hop ∈ pre, ∀ state, hop.pass = .switched state →
        hop.env.switchedAt + main.channelTxGuardS ≤ t.env.now) := by
  obtain ⟨m, hpre, hrest⟩ := MainRun.append_iff.mp h
  obtain ⟨hfirst, hclock⟩ := List.pairwise_cons.mp hclock
  cases hrest with
  | cons first rest =>
    dsimp only at hworked
    subst hworked
    cases pass_spec first with
    | worked _ _ hchannel hwork =>
      refine ⟨fun schedule hschedule => ?_, hwork.turns.channel, fun hown => ⟨fun hhops => ?_, ?_⟩⟩
      · refine hchannel _ ?_
        rw [PassEnv.scheduleState, hschedule, Option.map_some]
        rfl
      · refine le_trans (hpre.le_txGuardUntil ?_ fun t ht => ?_) (hwork.guarded hown)
        · obtain ⟨schedule, hschedule⟩ := Option.ne_none_iff_exists'.mp hhops
          rw [start, hschedule] at hstart
          obtain ⟨-, -, rfl⟩ := switchChannel_eq_ok_iff.mp hstart
          exact le_rfl
        · refine add_le_add_left (hfirst _ ?_) main.channelTxGuardS
          exact List.mem_map_of_mem (List.mem_append_left _ ht)
      · intro hop hhop state hswitched
        obtain ⟨before, between, rfl⟩ := List.append_of_mem hhop
        obtain ⟨m', -, hfrom⟩ := MainRun.append_iff.mp hpre
        refine le_trans (hfrom.guard_of_switched hswitched ?_) (hwork.guarded hown)
        refine hclock.sublist (List.Sublist.map _ ?_)
        exact (List.sublist_append_right before _).trans (List.sublist_append_left _ _)

/-- In the sample run the pass behind the hop sends on the second channel, a second after the
hop. -/
theorem main_sends_on_schedule_sample :
    ∃ t : MainTurn, t.own.length = 4 ∧ t.env.now = 6 ∧ t.before.node.currentChannel = some 40 ∧
      t.after.node.currentChannel = some 40 := by
  obtain ⟨turns, s', hrun, henvs, hsummary⟩ := exists_sample_run
  obtain ⟨t₁, turns, rfl, ht₁, hsummary⟩ := List.map_eq_cons_iff.mp hsummary
  obtain ⟨t₂, turns, rfl, ht₂, hsummary⟩ := List.map_eq_cons_iff.mp hsummary
  obtain ⟨t, turns, rfl, ht, hsummary⟩ := List.map_eq_cons_iff.mp hsummary
  obtain ⟨t₄, turns, rfl, ht₄, hsummary⟩ := List.map_eq_cons_iff.mp hsummary
  obtain rfl := List.map_eq_nil_iff.mp hsummary
  obtain ⟨-, -, henv, -⟩ : t₁.env = PassEnv.sample 0 ∧ t₂.env = PassEnv.sample 5 ∧
      t.env = PassEnv.sample 6 ∧ t₄.env = PassEnv.sample 7 := by
    simpa [sampleEnvs] using henvs
  have hrun : MainRun Aead.checksum MainConfig.sample Gradient.sample MainState.sample
      ([t₁, t₂] ++ t :: [t₄]) s' := hrun
  have hclock : (StartEnv.sample.switchedAt ::
      ([t₁, t₂] ++ t :: [t₄]).map MainTurn.time).Pairwise (· ≤ ·) := by
    have htimes : ([t₁, t₂] ++ t :: [t₄]).map MainTurn.time = [0, 5, 6, 7] := by
      simp only [MainTurn.summary, Prod.mk.injEq] at ht₁ ht₂ ht ht₄
      simp [ht₁.1, ht₂.1, ht.1, ht₄.1]
    rw [htimes]
    decide +kernel
  cases hpass : t.pass with
  | switched state =>
    rw [MainTurn.summary, MainTurn.report, hpass] at ht
    cases congrArg (fun turn => turn.2.1) ht
  | worked report =>
    obtain ⟨hchannel, hkept, -⟩ :=
      main_sends_on_schedule MainState.sample_of_start hrun hclock hpass
    have hshown := hchannel _ rfl
    rw [henv] at hshown
    exact ⟨t, congrArg (fun turn => turn.2.2.1) ht, by rw [henv]; rfl, hshown, hkept.trans hshown⟩

/-! ### Periodic sends -/

/-- What a timer of the loop did in a run: the reading of the clock in each pass that worked, and
whether it fired. -/
def looks (fired : PassReport → Bool) (turns : List MainTurn) : List (ℚ × Bool) :=
  turns.filterMap fun t => t.report.map fun report => (t.env.now, fired report)

/-- When it fired. -/
def firedAt (fired : PassReport → Bool) (turns : List MainTurn) : List ℚ :=
  Timer.fires (looks fired turns)

theorem clocked_looks (hclock : Clocked turns) (fired : PassReport → Bool) :
    Timer.Clocked (looks fired turns) := by
  refine List.Pairwise.sublist ?_ hclock
  induction turns with
  | nil => exact List.Sublist.slnil
  | cons t turns ih =>
    obtain ⟨before, env, pass, after⟩ := t
    have hrest := ih (List.pairwise_cons.mp hclock).2
    cases pass with
    | switched state => exact hrest.cons _
    | worked report => exact hrest.cons_cons _

/-- **A timer of the loop runs** when each pass that works turns it and a hop leaves it. -/
theorem MainRun.timer {interval : ℚ} (next : MainState → ℚ) {fired : PassReport → Bool}
    (hwork : ∀ env s report s', WorkSpec A main env s report s' →
      Timer.Turn interval (next s) (env.now, fired report) (next s'))
    (hhop : ∀ switchedAt state s, next (s.hop main switchedAt state) = next s)
    (h : MainRun A main gradient s turns s') :
    Timer.Run interval (next s) (looks fired turns) (next s') := by
  induction h with
  | nil s => exact .nil _
  | cons first _ ih =>
    cases pass_spec first with
    | switched state =>
      rw [hhop] at ih
      exact ih
    | worked report s' _ hspec => exact .cons (hwork _ _ _ _ hspec) ih

/-- Times that are an interval apart, and how many of them fit in a stretch of time. -/
structure Paced (interval : ℚ) (times : List ℚ) : Prop where
  apart : times.Pairwise fun t t' => t + interval ≤ t'
  rate : ∀ lo hi, lo ≤ hi → 0 ≤ interval → (∀ t ∈ times, lo ≤ t ∧ t ≤ hi) →
    times.length * interval ≤ hi - lo + interval

theorem paced_of_apart {interval : ℚ} {times : List ℚ}
    (h : times.Pairwise fun t t' => t + interval ≤ t') : Paced interval times where
  apart := h
  rate := by
    intro lo hi hle hinterval hbetween
    have hfit := Timer.length_nsmul_le h (fun t ht => (hbetween t ht).1)
      (fun t ht => (hbetween t ht).2) (by linarith)
    rw [nsmul_eq_mul] at hfit
    linarith

/-- The frames of the configured message. -/
def MainTurn.messages (t : MainTurn) : List RadioFrame :=
  (t.report.map fun report => report.message.frames).getD []

/-- **The configured messages are counted**, and none is sent beyond the count. -/
theorem MainRun.counts (h : MainRun A main gradient s turns s') :
    s'.loop.originatedCount =
        s.loop.originatedCount + (turns.flatMap MainTurn.messages).length ∧
      (main.origin.count ≠ 0 → s.loop.originatedCount ≤ main.origin.count →
        s'.loop.originatedCount ≤ main.origin.count) := by
  induction h with
  | nil s => exact ⟨(add_zero _).symm, fun _ h => h⟩
  | cons first _ ih =>
    obtain ⟨hcount, hle⟩ := ih
    cases pass_spec first with
    | switched => exact ⟨hcount, hle⟩
    | worked report s' _ hwork =>
      have hone := hwork.one_message
      have hcounted := hwork.counted
      refine ⟨?_, fun hne hbefore => hle hne ?_⟩
      · rw [hcount, hcounted, List.flatMap_cons, List.length_append, Nat.cast_add, add_assoc]
        congr 2
        show _ = ((report.message.frames.length : ℕ) : ℤ)
        rw [hone]
        split_ifs <;> rfl
      · rw [hcounted]
        split_ifs with hdue
        · have hleft := hwork.count_left hdue
          omega
        · omega

/-- **The loop paces its sends.**  In a run under a clock that does not go back, the attempts at
the periodic C2 image, the configured messages and the sync heartbeats are each at least their
interval apart, so at most one more than fits go out in any stretch of time; and with a count
no more messages go out than it says. -/
theorem main_paces_sends (h : MainRun A main gradient s turns s') (hclock : Clocked turns) :
    (∀ uplink ∈ main.origin.c2Uplink,
      Paced uplink.intervalS (firedAt (fun report => report.c2Uplink.wasDue) turns)) ∧
    Paced main.origin.txIntervalS (firedAt (fun report => report.message.wasDue) turns) ∧
    Paced main.heartbeat.syncIntervalS (firedAt (fun report => report.sync.isSome) turns) ∧
    (main.origin.count ≠ 0 → s.loop.originatedCount ≤ main.origin.count →
      s.loop.originatedCount + (turns.flatMap MainTurn.messages).length ≤ main.origin.count) := by
  refine ⟨fun uplink huplink => ?_, ?_, ?_, fun hne hle => ?_⟩
  · exact paced_of_apart ((h.timer (fun s => s.loop.nextC2UplinkAt)
      (fun _ _ _ _ hwork => hwork.c2Timer uplink huplink) fun _ _ _ => rfl).pairwise_fires
        (clocked_looks hclock _))
  · exact paced_of_apart ((h.timer (fun s => s.loop.nextTxAt)
      (fun _ _ _ _ hwork => hwork.txTimer) fun _ _ _ => rfl).pairwise_fires
        (clocked_looks hclock _))
  · exact paced_of_apart ((h.timer MainState.nextSyncAt
      (fun _ _ _ _ hwork => hwork.syncTimer) fun _ _ _ => rfl).pairwise_fires
        (clocked_looks hclock _))
  · rw [← h.counts.1]
    exact h.counts.2 hne hle

/-- The sample run sends the message a second apart. -/
theorem main_paces_sends_sample :
    ∃ turns s', MainRun Aead.checksum MainConfig.sample Gradient.sample MainState.sample turns s' ∧
      firedAt (fun report => report.message.wasDue) turns = [6, 7] ∧
      Paced 1 (firedAt (fun report => report.message.wasDue) turns) := by
  obtain ⟨turns, s', hloop, hfired⟩ := exists_eq_ok_of_map
    (r := loop Aead.checksum MainConfig.sample Gradient.sample sampleEnvs MainState.sample)
    (f := fun turns => (turns.map MainTurn.time,
      firedAt (fun report => report.message.wasDue) turns))
    (x := ([0, 5, 6, 7], [6, 7])) (by decide +kernel)
  obtain ⟨htimes, hfired⟩ := Prod.mk.inj hfired
  obtain ⟨hrun, -⟩ := MainRun.of_loop hloop
  have hclock : Clocked turns := by
    rw [Clocked, htimes]
    decide +kernel
  have hinterval : MainConfig.sample.origin.txIntervalS = 1 := by decide +kernel
  have hpaced := (main_paces_sends hrun hclock).2.1
  rw [hinterval] at hpaced
  exact ⟨turns, s', hrun, hfired, hpaced⟩

/-! ### Local control -/

/-- The pass worked, and the guard of the last hop was over. -/
def MainTurn.isOpen (t : MainTurn) : Bool :=
  t.report.isSome && decide (t.before.loop.txGuardUntil ≤ t.env.now)

/-- What a pass does to the queue of local control. -/
def MainTurn.look (t : MainTurn) : Queue.Look LocalC2Message := ⟨t.isOpen, t.queued, t.taken⟩

theorem queue_of_pass {env : PassEnv} {p : Pass} (h : pass A main gradient env s = .ok p s') :
    Queue.Turn s.pendingLocalC2 (MainTurn.mk s env p s').look s'.pendingLocalC2 := by
  cases pass_spec h with
  | switched state => exact ⟨List.append_nil _, Nat.zero_le _, fun hopen => by cases hopen⟩
  | worked report s' _ hwork =>
    have hlength : report.taken.length ≤ 1 := by
      rw [PassReport.taken]
      cases report.localC2 <;> simp
    refine ⟨hwork.queue, ?_, fun hopen htaken => ?_⟩
    · show report.taken.length ≤ if (MainTurn.mk s env (.worked report) s').isOpen then 1 else 0
      by_cases htaken : report.taken = []
      · rw [htaken]
        exact Nat.zero_le _
      · have hopen : (MainTurn.mk s env (.worked report) s').isOpen = true :=
          decide_eq_true (hwork.taken_guarded htaken)
        rwa [if_pos hopen]
    · exact (hwork.served htaken).resolve_right (not_not.mpr (of_decide_eq_true hopen))

theorem MainRun.queue (h : MainRun A main gradient s turns s') :
    Queue.Run s.pendingLocalC2 (turns.map MainTurn.look) s'.pendingLocalC2 := by
  induction h with
  | nil s => exact .nil _
  | cons first _ ih => exact .cons (queue_of_pass first) ih

/-- A message that a pass took was sent, or its error was logged. -/
theorem MainRun.handled (h : MainRun A main gradient s turns s') {t : MainTurn} (ht : t ∈ turns)
    {report : PassReport} (hworked : t.pass = .worked report) {message : LocalC2Message}
    {outcome : LocalControlOutcome} (htaken : report.localC2 = some (message, outcome)) :
    ∃ n n', sendLocalC2 A main.node (t.env.localC2.at t.env.now) message n = .ok outcome n' := by
  obtain ⟨before, after, rfl⟩ := List.append_of_mem ht
  obtain ⟨m, -, hrest⟩ := MainRun.append_iff.mp h
  cases hrest with
  | cons first rest =>
    dsimp only at hworked
    subst hworked
    cases pass_spec first with
    | worked _ _ _ hwork => exact hwork.handled message outcome htaken

/-- **What becomes of the messages of local control.**  In every run what was pending and what
was queued is what was taken and what is pending then, in the same order: no message is lost,
sent twice or overtaken.  As many messages as there are passes whose guard is over are taken,
those that waited longest first, and one that is taken is sent or its error logged. -/
theorem main_serves_local_control (h : MainRun A main gradient s turns s') :
    s.pendingLocalC2 ++ turns.flatMap MainTurn.queued =
        turns.flatMap MainTurn.taken ++ s'.pendingLocalC2 ∧
      s.pendingLocalC2.take (turns.countP MainTurn.isOpen) <+: turns.flatMap MainTurn.taken ∧
      ∀ t ∈ turns, ∀ report, t.pass = .worked report →
        ∀ message outcome, report.localC2 = some (message, outcome) →
          ∃ n n', sendLocalC2 A main.node (t.env.localC2.at t.env.now) message n =
            .ok outcome n' := by
  have hconserves := h.queue.conserves
  have hserves := h.queue.serves
  simp only [List.flatMap_map, List.countP_map] at hconserves hserves
  exact ⟨hconserves, hserves, fun t ht report hworked message outcome htaken =>
    h.handled ht hworked htaken⟩

/-- The sample run takes two of its three messages and leaves the third. -/
theorem main_serves_local_control_sample :
    ∃ turns s', MainRun Aead.checksum MainConfig.sample Gradient.sample MainState.sample turns s' ∧
      turns.flatMap MainTurn.queued = turns.flatMap MainTurn.taken ++ s'.pendingLocalC2 ∧
      (turns.flatMap MainTurn.taken).length = 2 ∧ s'.pendingLocalC2.length = 1 := by
  obtain ⟨turns, s', hrun, -, hsummary⟩ := exists_sample_run
  have hqueued := congrArg (List.map fun turn : ℚ × Bool × ℕ × ℕ × ℕ => turn.2.2.2.1) hsummary
  have htaken := congrArg (List.map fun turn : ℚ × Bool × ℕ × ℕ × ℕ => turn.2.2.2.2) hsummary
  rw [List.map_map] at hqueued htaken
  have hthree : (turns.flatMap MainTurn.queued).length = 3 := by
    rw [List.length_flatMap]
    exact congrArg List.sum hqueued
  have htwo : (turns.flatMap MainTurn.taken).length = 2 := by
    rw [List.length_flatMap]
    exact congrArg List.sum htaken
  obtain ⟨hconserves, -⟩ := main_serves_local_control hrun
  refine ⟨turns, s', hrun, hconserves, htwo, ?_⟩
  have hlength := congrArg List.length hconserves
  rw [List.length_append, List.length_append, htwo, hthree] at hlength
  exact (Nat.add_left_cancel hlength).symm

end

end KovaWfb
