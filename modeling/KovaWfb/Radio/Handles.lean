/-
# The descriptors of the radio handles

`src/tx.rs`, lines 56 to 121 (`open_pfpacket_tx_socket`), 198 to 202 (`close`) and 261
to 269 (`Drop`), and `src/rx.rs`, lines 282 to 318 (`open`) and 506 to 513 (`Drop`), with
`wfb_tx_close` and `wfb_rx_close` of `src/ffi.rs` (155 to 165 and 228 to 238), which drop
the handle.

A handle keeps the number its `open` got.  `WfbTx` dropped, and every error path of
`open`, closes it once.  `WfbTx::close` consumes the handle, so its `Drop` runs at the end
of the call and closes the number again; dropping a `WfbRx` closes the number and then
drops the `pcap::Capture`, which closes it again.  Between the two closes any other
thread may get the number.  So each close hits a descriptor that its handle owns as long
as no handle is given up in one of these two ways, and only then
(`closes_owned_iff`).
-/

import KovaWfb.Lib.Descriptors
import Mathlib.Tactic.Common

namespace KovaWfb

namespace Handles

open Descriptors

/-! ### Handles and steps -/

/-- A handle of the library. -/
inductive Handle
  | tx (index : ℕ)
  | rx (index : ℕ)
  deriving DecidableEq

/-- Who opened a descriptor: a handle, for `WfbRx` its capture object, or another
thread of the process. -/
inductive Owner
  | handle (h : Handle)
  | thread (index : ℕ)
  deriving DecidableEq

/-- Where a handle is in its life; `closed` is between the two closes. -/
inductive Phase
  | absent
  | opening (fd : ℕ)
  | live (fd : ℕ)
  | closed (fd : ℕ)
  | gone
  deriving DecidableEq

/-- The number a handle that is not yet released keeps. -/
def Phase.fd : Phase → Option ℕ
  | .opening fd | .live fd | .closed fd => some fd
  | .absent | .gone => none

/-- The descriptor table of the process and its handles. -/
structure Process where
  table : Table Owner
  phase : Handle → Phase

/-- One step of some thread. -/
inductive Event
  /-- `socket` in `WfbTx::open`, the activation of the capture in `WfbRx::open`. -/
  | openFd (h : Handle) (fd : ℕ)
  /-- An error path of `open` after that. -/
  | openError (h : Handle)
  /-- `open` returns. -/
  | openOk (h : Handle)
  /-- `send` and `recv`. -/
  | use (h : Handle)
  /-- `Drop for WfbTx`, also in `wfb_tx_close`. -/
  | txDrop (index : ℕ)
  /-- The `libc::close` of `WfbTx::close`. -/
  | txClose (index : ℕ)
  /-- `Drop for WfbTx` at the end of `WfbTx::close`. -/
  | txCloseDrop (index : ℕ)
  /-- `Drop for WfbRx`, also in `wfb_rx_close`. -/
  | rxDrop (index : ℕ)
  /-- The drop of the `pcap` field after it. -/
  | rxCaptureDrop (index : ℕ)
  | otherOpen (thread fd : ℕ)
  | otherClose (thread fd : ℕ)
  deriving DecidableEq

/-- The handle goes on to `next`. -/
def Process.goOn (p : Process) (h : Handle) (next : Phase) : Process :=
  { p with phase := Function.update p.phase h next }

/-- The handle closes the number it keeps and goes on to `next`. -/
def Process.close (p : Process) (h : Handle) (fd : ℕ) (next : Phase) : Process :=
  { table := p.table.release fd, phase := Function.update p.phase h next }

/-- One step, `none` where it is not possible. -/
def step (p : Process) : Event → Option Process
  | .openFd h fd =>
      if p.phase h = .absent ∧ p.table fd = none then
        some { table := p.table.acquire fd (.handle h),
               phase := Function.update p.phase h (.opening fd) }
      else none
  | .openError h =>
      match p.phase h with
      | .opening fd => some (p.close h fd .gone)
      | _ => none
  | .openOk h =>
      match p.phase h with
      | .opening fd => some (p.goOn h (.live fd))
      | _ => none
  | .use h =>
      match p.phase h with
      | .live _ => some p
      | _ => none
  | .txDrop i =>
      match p.phase (.tx i) with
      | .live fd => some (p.close (.tx i) fd .gone)
      | _ => none
  | .txClose i =>
      match p.phase (.tx i) with
      | .live fd => some (p.close (.tx i) fd (.closed fd))
      | _ => none
  | .txCloseDrop i =>
      match p.phase (.tx i) with
      | .closed fd => some (p.close (.tx i) fd .gone)
      | _ => none
  | .rxDrop i =>
      match p.phase (.rx i) with
      | .live fd => some (p.close (.rx i) fd (.closed fd))
      | _ => none
  | .rxCaptureDrop i =>
      match p.phase (.rx i) with
      | .closed fd => some (p.close (.rx i) fd .gone)
      | _ => none
  | .otherOpen thread fd =>
      if p.table fd = none then some { p with table := p.table.acquire fd (.thread thread) } else none
  | .otherClose thread fd =>
      if p.table fd = some (.thread thread) then some { p with table := p.table.release fd } else none

/-- The handle for which the library or its capture object calls `close(2)` in a
step. -/
def Event.closes : Event → Option Handle
  | .openError h => some h
  | .txDrop i | .txClose i | .txCloseDrop i => some (.tx i)
  | .rxDrop i | .rxCaptureDrop i => some (.rx i)
  | .openFd _ _ | .openOk _ | .use _ | .otherOpen _ _ | .otherClose _ _ => none

/-- The call after which the handle closes its number a second time. -/
def Event.ClosesTwice : Event → Prop
  | .txClose _ | .rxDrop _ => True
  | _ => False

/-- The second close. -/
def Event.ClosesAgain : Event → Prop
  | .txCloseDrop _ | .rxCaptureDrop _ => True
  | _ => False

/-- Steps one after the other. -/
def run (p : Process) : List Event → Option Process
  | [] => some p
  | e :: events => (step p e).bind fun p' => run p' events

/-- The process before it uses the library: the other threads hold what they
hold. -/
def Process.initial (threads : Table ℕ) : Process where
  table := fun fd => (threads fd).map .thread
  phase := fun _ => .absent

/-- **What a step can do**: open, close on behalf of a handle, go on with a handle's
number, or act for another thread. -/
inductive Moves (p : Process) : Event → Process → Prop
  | openFd (h : Handle) (fd : ℕ) (hphase : p.phase h = .absent) (hfree : p.table fd = none) :
      Moves p (.openFd h fd) { table := p.table.acquire fd (.handle h),
                               phase := Function.update p.phase h (.opening fd) }
  | close (e : Event) (h : Handle) (fd : ℕ) (next : Phase) (hcloses : e.closes = some h)
      (hfd : (p.phase h).fd = some fd) (hagain : p.phase h = .closed fd ↔ e.ClosesAgain)
      (hnext : next = .gone ∧ ¬ e.ClosesTwice ∨ next = .closed fd ∧ e.ClosesTwice) :
      Moves p e (p.close h fd next)
  | goOn (e : Event) (h : Handle) (fd : ℕ) (hcloses : e.closes = none)
      (hphase : p.phase h = .opening fd ∨ p.phase h = .live fd) : Moves p e (p.goOn h (.live fd))
  | otherOpen (thread fd : ℕ) (hfree : p.table fd = none) :
      Moves p (.otherOpen thread fd) { p with table := p.table.acquire fd (.thread thread) }
  | otherClose (thread fd : ℕ) (howned : p.table fd = some (.thread thread)) :
      Moves p (.otherClose thread fd) { p with table := p.table.release fd }

/-- A close of a handle that is open. -/
theorem Moves.of_live {p p' : Process} {e : Event} {h : Handle} {next : ℕ → Phase}
    (hcloses : e.closes = some h) (hagain : ¬ e.ClosesAgain)
    (hnext : ∀ fd, next fd = .gone ∧ ¬ e.ClosesTwice ∨ next fd = .closed fd ∧ e.ClosesTwice)
    (hstep : (match p.phase h with
      | .live fd => some (p.close h fd (next fd))
      | _ => none) = some p') : Moves p e p' := by
  split at hstep
  · rename_i fd hphase
    obtain rfl := Option.some.inj hstep
    refine .close e h fd (next fd) hcloses (by rw [hphase]; rfl) ?_ (hnext fd)
    rw [hphase]
    exact iff_of_false nofun hagain
  · cases hstep

/-- The second close of a handle. -/
theorem Moves.of_closed {p p' : Process} {e : Event} {h : Handle} (hcloses : e.closes = some h)
    (hagain : e.ClosesAgain) (htwice : ¬ e.ClosesTwice)
    (hstep : (match p.phase h with
      | .closed fd => some (p.close h fd .gone)
      | _ => none) = some p') : Moves p e p' := by
  split at hstep
  · rename_i fd hphase
    obtain rfl := Option.some.inj hstep
    exact .close e h fd .gone hcloses (by rw [hphase]; rfl) (iff_of_true hphase hagain)
      (Or.inl ⟨rfl, htwice⟩)
  · cases hstep

theorem moves_of_step {p p' : Process} {e : Event} (hstep : step p e = some p') : Moves p e p' := by
  cases e with
  | openFd h fd =>
    simp only [step, Option.ite_none_right_eq_some, Option.some.injEq] at hstep
    obtain ⟨⟨hphase, hfree⟩, rfl⟩ := hstep
    exact .openFd h fd hphase hfree
  | openError h =>
    simp only [step] at hstep
    split at hstep
    · rename_i fd hphase
      obtain rfl := Option.some.inj hstep
      exact .close _ h fd _ rfl (by rw [hphase]; rfl) (by simp [hphase, Event.ClosesAgain])
        (Or.inl ⟨rfl, not_false⟩)
    · cases hstep
  | openOk h =>
    simp only [step] at hstep
    split at hstep
    · rename_i fd hphase
      obtain rfl := Option.some.inj hstep
      exact .goOn _ h fd rfl (Or.inl hphase)
    · cases hstep
  | use h =>
    simp only [step] at hstep
    split at hstep
    · rename_i fd hphase
      obtain rfl := Option.some.inj hstep
      have hsame : p.goOn h (.live fd) = p := by
        rw [Process.goOn, ← hphase, Function.update_eq_self]
      have hmoves : Moves p (.use h) (p.goOn h (.live fd)) := .goOn _ h fd rfl (Or.inr hphase)
      rwa [hsame] at hmoves
    · cases hstep
  | txDrop i => exact .of_live rfl not_false (fun _ => Or.inl ⟨rfl, not_false⟩) hstep
  | txClose i => exact .of_live rfl not_false (fun _ => Or.inr ⟨rfl, trivial⟩) hstep
  | txCloseDrop i => exact .of_closed rfl trivial not_false hstep
  | rxDrop i => exact .of_live rfl not_false (fun _ => Or.inr ⟨rfl, trivial⟩) hstep
  | rxCaptureDrop i => exact .of_closed rfl trivial not_false hstep
  | otherOpen thread fd =>
    simp only [step, Option.ite_none_right_eq_some, Option.some.injEq] at hstep
    obtain ⟨hfree, rfl⟩ := hstep
    exact .otherOpen thread fd hfree
  | otherClose thread fd =>
    simp only [step, Option.ite_none_right_eq_some, Option.some.injEq] at hstep
    obtain ⟨howned, rfl⟩ := hstep
    exact .otherClose thread fd howned

/-! ### What holds in every run -/

/-- A number that still names a handle's descriptor is kept by that handle, which has
not closed it yet. -/
def Tracked (p : Process) : Prop :=
  ∀ h fd, p.table fd = some (.handle h) → p.phase h = .opening fd ∨ p.phase h = .live fd

/-- Every handle that keeps a number owns what it names. -/
def Owns (p : Process) : Prop :=
  ∀ h fd, (p.phase h).fd = some fd → p.table fd = some (.handle h)

/-- No handle stands between its two closes. -/
def Settled (p : Process) : Prop := ∀ h fd, p.phase h ≠ .closed fd

theorem tracked_initial (threads : Table ℕ) : Tracked (Process.initial threads) := by
  intro h fd hown
  simp only [Process.initial, Option.map_eq_some_iff, reduceCtorEq, and_false, exists_false] at hown

theorem owns_initial (threads : Table ℕ) : Owns (Process.initial threads) := by
  intro h fd hfd
  cases hfd

theorem settled_initial (threads : Table ℕ) : Settled (Process.initial threads) := by
  intro h fd hclosed
  cases hclosed

theorem tracked_of_moves {p p' : Process} {e : Event} (htracked : Tracked p) (hmoves : Moves p e p') :
    Tracked p' := by
  intro h' fd' hown
  cases hmoves with
  | openFd h fd hphase hfree =>
    by_cases heq : h' = h
    · subst heq
      rcases Table.eq_some_of_acquire hown with ⟨rfl, -⟩ | hown
      · exact Or.inl (Function.update_self ..)
      · rcases htracked h' fd' hown with hfd | hfd <;> cases hphase.symm.trans hfd
    · rcases Table.eq_some_of_acquire hown with ⟨-, howner⟩ | hown
      · exact absurd (Owner.handle.inj howner) heq
      · simpa only [Function.update_of_ne heq] using htracked h' fd' hown
  | close e h fd next hcloses hfd hagain hnext =>
    obtain ⟨hne, hown⟩ := Table.eq_some_of_release hown
    have hkeeps := htracked h' fd' hown
    have heq : h' ≠ h := by
      rintro rfl
      rcases hkeeps with hphase | hphase <;> rw [hphase] at hfd <;>
        exact hne (Option.some.inj hfd)
    simpa only [Process.close, Function.update_of_ne heq] using hkeeps
  | goOn e h fd hcloses hphase =>
    have hkeeps := htracked h' fd' hown
    by_cases heq : h' = h
    · subst heq
      have hsame : fd' = fd := by
        rcases hphase with hphase | hphase <;> rcases hkeeps with hkeeps | hkeeps <;>
          cases hphase.symm.trans hkeeps <;> rfl
      rw [hsame]
      exact Or.inr (Function.update_self ..)
    · simpa only [Process.goOn, Function.update_of_ne heq] using hkeeps
  | otherOpen thread fd hfree =>
    rcases Table.eq_some_of_acquire hown with ⟨-, howner⟩ | hown
    · cases howner
    · exact htracked h' fd' hown
  | otherClose thread fd howned =>
    exact htracked h' fd' (Table.eq_some_of_release hown).2

theorem owns_of_moves {p p' : Process} {e : Event} (howns : Owns p) (hsettled : Settled p)
    (hmoves : Moves p e p') (htwice : ¬ e.ClosesTwice) : Owns p' ∧ Settled p' := by
  cases hmoves with
  | openFd h fd hphase hfree =>
    refine ⟨fun h' fd' hfd => ?_, fun h' fd' hclosed => ?_⟩ <;> by_cases heq : h' = h
    · subst heq
      simp only [Function.update_self, Phase.fd, Option.some.injEq] at hfd
      subst hfd
      exact Table.acquire_self
    · simp only [Function.update_of_ne heq] at hfd
      exact Table.acquire_of_free hfree (howns h' fd' hfd)
    · subst heq
      simp only [Function.update_self, reduceCtorEq] at hclosed
    · exact hsettled h' fd' (by simpa only [Function.update_of_ne heq] using hclosed)
  | close e h fd next hcloses hfd hagain hnext =>
    obtain ⟨rfl, -⟩ | ⟨-, htwice'⟩ := hnext
    · refine ⟨fun h' fd' hfd' => ?_, fun h' fd' hclosed => ?_⟩ <;> by_cases heq : h' = h
      · subst heq
        simp only [Process.close, Function.update_self, Phase.fd, reduceCtorEq] at hfd'
      · simp only [Process.close, Function.update_of_ne heq] at hfd'
        exact Table.release_of_owned (howns h fd hfd) (howns h' fd' hfd')
          fun howner => heq (Owner.handle.inj howner)
      · subst heq
        simp only [Process.close, Function.update_self, reduceCtorEq] at hclosed
      · exact hsettled h' fd' (by simpa only [Process.close, Function.update_of_ne heq] using hclosed)
    · exact absurd htwice' htwice
  | goOn e h fd hcloses hphase =>
    refine ⟨fun h' fd' hfd' => ?_, fun h' fd' hclosed => ?_⟩ <;> by_cases heq : h' = h
    · subst heq
      simp only [Process.goOn, Function.update_self, Phase.fd, Option.some.injEq] at hfd'
      refine howns h' fd' ?_
      rcases hphase with hphase | hphase <;> rw [hphase, ← hfd'] <;> rfl
    · exact howns h' fd' (by simpa only [Process.goOn, Function.update_of_ne heq] using hfd')
    · subst heq
      simp only [Process.goOn, Function.update_self, reduceCtorEq] at hclosed
    · exact hsettled h' fd' (by simpa only [Process.goOn, Function.update_of_ne heq] using hclosed)
  | otherOpen thread fd hfree =>
    exact ⟨fun h' fd' hfd' => Table.acquire_of_free hfree (howns h' fd' hfd'), hsettled⟩
  | otherClose thread fd howned =>
    refine ⟨fun h' fd' hfd' => ?_, hsettled⟩
    exact Table.release_of_owned howned (howns h' fd' hfd') (by rintro ⟨⟩)

/-! ### Which closes hit their own descriptor -/

/-- **A step closes its own**: the number it closes on behalf of a handle still names
that handle's descriptor, and what another thread has open stays open unless that thread
closes it. -/
structure ClosesOwned (p : Process) (e : Event) : Prop where
  owned : ∀ h fd, e.closes = some h → (p.phase h).fd = some fd → p.table fd = some (.handle h)
  spares : ∀ thread fd p', step p e = some p' → p.table fd = some (.thread thread) →
    p'.table fd = some (.thread thread) ∨ e = .otherClose thread fd

/-- The same of every step of a run. -/
def RunClosesOwned (p : Process) : List Event → Prop
  | [] => True
  | e :: events => ClosesOwned p e ∧ ∀ p', step p e = some p' → RunClosesOwned p' events

theorem closesOwned_of_owns {p : Process} (howns : Owns p) (e : Event) : ClosesOwned p e where
  owned h fd _ hfd := howns h fd hfd
  spares thread n p' hstep hthread := by
    cases moves_of_step hstep with
    | openFd h fd hphase hfree => exact Or.inl (Table.acquire_of_free hfree hthread)
    | close e h fd next hcloses hfd hagain hnext =>
      exact Or.inl (Table.release_of_owned (howns h fd hfd) hthread (by rintro ⟨⟩))
    | goOn e h fd hcloses hphase => exact Or.inl hthread
    | otherOpen thread' fd hfree => exact Or.inl (Table.acquire_of_free hfree hthread)
    | otherClose thread' fd howned =>
      by_cases heq : thread = thread' ∧ n = fd
      · rw [heq.1, heq.2]
        exact Or.inr rfl
      · refine Or.inl ?_
        by_cases hthreads : thread = thread'
        · have hn : n ≠ fd := fun hn => heq ⟨hthreads, hn⟩
          exact (Function.update_of_ne hn ..).trans hthread
        · exact Table.release_of_owned howned hthread fun howner => hthreads (Owner.thread.inj howner)

theorem runClosesOwned_of_once {p p' : Process} {events : List Event} (howns : Owns p)
    (hsettled : Settled p) (hrun : run p events = some p') (honce : ∀ e ∈ events, ¬ e.ClosesTwice) :
    RunClosesOwned p events ∧ Settled p' := by
  induction events generalizing p with
  | nil =>
    obtain rfl := Option.some.inj hrun
    exact ⟨trivial, hsettled⟩
  | cons e events ih =>
    obtain ⟨q, hstep, hrest⟩ := Option.bind_eq_some_iff.1 hrun
    obtain ⟨hownsq, hsettledq⟩ := owns_of_moves howns hsettled (moves_of_step hstep)
      (honce e List.mem_cons_self)
    obtain ⟨hruns, hend⟩ := ih hownsq hsettledq hrest fun e' he' =>
      honce e' (List.mem_cons_of_mem e he')
    refine ⟨⟨closesOwned_of_owns howns e, fun q' hq' => ?_⟩, hend⟩
    obtain rfl := Option.some.inj (hstep.symm.trans hq')
    exact hruns

/-- Between its two closes a handle only goes on to the second one, which hits what it no
longer owns. -/
theorem closed_of_moves {p p' : Process} {e : Event} {h : Handle} {fd : ℕ} (htracked : Tracked p)
    (hclosed : p.phase h = .closed fd) (howned : ClosesOwned p e) (hmoves : Moves p e p') :
    p'.phase h = .closed fd := by
  cases hmoves with
  | openFd h' fd' hphase hfree =>
    have hne : h ≠ h' := by
      rintro rfl
      cases hphase.symm.trans hclosed
    exact (Function.update_of_ne hne ..).trans hclosed
  | close e h' fd' next hcloses hfd hagain hnext =>
    have hne : h ≠ h' := by
      rintro rfl
      have hkept : (p.phase h).fd = some fd := by rw [hclosed]; rfl
      rcases htracked h fd (howned.owned h fd hcloses hkept) with hphase | hphase <;>
        cases hphase.symm.trans hclosed
    exact (Function.update_of_ne hne ..).trans hclosed
  | goOn e h' fd' hcloses hphase =>
    have hne : h ≠ h' := by
      rintro rfl
      rcases hphase with hphase | hphase <;> cases hphase.symm.trans hclosed
    exact (Function.update_of_ne hne ..).trans hclosed
  | otherOpen thread fd' hfree => exact hclosed
  | otherClose thread fd' howner => exact hclosed

theorem closed_of_run {p p' : Process} {events : List Event} {h : Handle} {fd : ℕ}
    (htracked : Tracked p) (hclosed : p.phase h = .closed fd) (howned : RunClosesOwned p events)
    (hrun : run p events = some p') : p'.phase h = .closed fd := by
  induction events generalizing p with
  | nil =>
    obtain rfl := Option.some.inj hrun
    exact hclosed
  | cons e events ih =>
    obtain ⟨q, hstep, hrest⟩ := Option.bind_eq_some_iff.1 hrun
    have hmoves := moves_of_step hstep
    exact ih (tracked_of_moves htracked hmoves) (closed_of_moves htracked hclosed howned.1 hmoves)
      (howned.2 q hstep) hrest

theorem once_of_runClosesOwned {p p' : Process} {events : List Event} (htracked : Tracked p)
    (hrun : run p events = some p') (howned : RunClosesOwned p events) (hend : Settled p') :
    ∀ e ∈ events, ¬ e.ClosesTwice := by
  induction events generalizing p with
  | nil => exact fun e he => absurd he List.not_mem_nil
  | cons e events ih =>
    obtain ⟨q, hstep, hrest⟩ := Option.bind_eq_some_iff.1 hrun
    have hmoves := moves_of_step hstep
    have htrackedq := tracked_of_moves htracked hmoves
    intro e' he' htwice
    rcases List.mem_cons.1 he' with rfl | he'
    · cases hmoves with
      | close e h fd next hcloses hfd hagain hnext =>
        obtain ⟨-, honce⟩ | ⟨rfl, -⟩ := hnext
        · exact honce htwice
        · refine hend h fd (closed_of_run htrackedq (Function.update_self ..) (howned.2 _ hstep) hrest)
      | goOn e h fd hcloses hphase =>
        cases e' <;> first | exact htwice | cases hcloses
      | openFd | otherOpen | otherClose => exact htwice
    · exact ih htrackedq hrest (howned.2 q hstep) e' he' htwice

/-- **Every close hits its own descriptor exactly when no handle closes twice**: in any
interleaving of handles and other threads each close made for a handle hits a
descriptor that handle owns, no other thread's descriptor is closed by it and no call
is left before its second close, if and only if no `WfbTx` was given to `WfbTx::close` and
no `WfbRx` was dropped. -/
theorem closes_owned_iff (threads : Table ℕ) (events : List Event) (p : Process)
    (hrun : run (Process.initial threads) events = some p) :
    (RunClosesOwned (Process.initial threads) events ∧ Settled p) ↔
      ∀ e ∈ events, ¬ e.ClosesTwice := by
  constructor
  · rintro ⟨howned, hend⟩
    exact once_of_runClosesOwned (tracked_initial threads) hrun howned hend
  · exact runClosesOwned_of_once (owns_initial threads) (settled_initial threads) hrun

/-- A transmitter that is opened, used and dropped while another thread opens and closes
a descriptor of its own. -/
theorem closes_owned_iff_sample :
    RunClosesOwned (Process.initial fun _ => none)
      [.openFd (.tx 0) 3, .openOk (.tx 0), .otherOpen 7 4, .use (.tx 0), .txDrop 0, .otherOpen 7 3] := by
  have hiff := closes_owned_iff (fun _ => none)
    [.openFd (.tx 0) 3, .openOk (.tx 0), .otherOpen 7 4, .use (.tx 0), .txDrop 0, .otherOpen 7 3] _ rfl
  refine (hiff.2 fun e he => ?_).1
  simp only [List.mem_cons, List.not_mem_nil, or_false] at he
  rcases he with rfl | rfl | rfl | rfl | rfl | rfl <;> exact not_false

/-- Thread 7 opens a descriptor between the two closes of a dropped `WfbRx` and gets the
number; the drop of the capture closes it. -/
theorem second_close_hits_thread :
    ∃ p p', run (Process.initial fun _ => none)
        [.openFd (.rx 0) 3, .openOk (.rx 0), .rxDrop 0, .otherOpen 7 3] = some p ∧
      p.table 3 = some (.thread 7) ∧ step p (.rxCaptureDrop 0) = some p' ∧ p'.table 3 = none ∧
      ¬ RunClosesOwned (Process.initial fun _ => none)
        [.openFd (.rx 0) 3, .openOk (.rx 0), .rxDrop 0, .otherOpen 7 3, .rxCaptureDrop 0] := by
  refine ⟨_, _, rfl, rfl, rfl, rfl, fun howned => ?_⟩
  have hlast := ((((howned.2 _ rfl).2 _ rfl).2 _ rfl).2 _ rfl).1
  cases hlast.owned (.rx 0) 3 rfl rfl

end Handles

end KovaWfb
