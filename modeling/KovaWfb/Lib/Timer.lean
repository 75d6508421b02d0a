/-
# Periodic timers

A loop that polls keeps the next time at which it is due.  When it looks at the clock it
may fire if that time has come, and then is due again one interval after the clock's
reading; it may also put the next firing off by an interval without firing.

Under a clock that never goes back, firings are an interval apart
(`Run.pairwise_fires`), so there is a bound on how many fit in a stretch of time
(`length_nsmul_le`).
-/

import Mathlib.Algebra.Order.Group.Basic
import Mathlib.Data.List.Pairwise
import Mathlib.Tactic.Abel

namespace Timer

variable {α : Type}

/-- When the timer fired. -/
def fires (turns : List (α × Bool)) : List α := (turns.filter Prod.snd).map Prod.fst

theorem fires_cons_true (now : α) (turns : List (α × Bool)) :
    fires ((now, true) :: turns) = now :: fires turns := rfl

variable [AddCommGroup α] [LinearOrder α]

/-- One look at the clock: the reading, whether the timer fired, and when it is due. -/
inductive Turn (interval : α) : α → α × Bool → α → Prop
  | fire {next now : α} (due : next ≤ now) : Turn interval next (now, true) (now + interval)
  | rest {next now : α} : Turn interval next (now, false) next
  | putOff {next now : α} : Turn interval next (now, false) (now + interval)

/-- A run of looks at the clock. -/
inductive Run (interval : α) : α → List (α × Bool) → α → Prop
  | nil (next : α) : Run interval next [] next
  | cons {next next' next'' : α} {turn : α × Bool} {turns : List (α × Bool)}
      (first : Turn interval next turn next') (rest : Run interval next' turns next'') :
      Run interval next (turn :: turns) next''

/-- The clock never goes back. -/
def Clocked (turns : List (α × Bool)) : Prop := (turns.map Prod.fst).Pairwise (· ≤ ·)

variable {interval next next' low : α} {turns : List (α × Bool)}

/-- **A timer does not fire early**: not before a time that it is due at or after, as long as
no reading puts it back there. -/
theorem Run.le_of_mem_fires (h : Run interval next turns next') (hnext : low ≤ next)
    (hturns : ∀ turn ∈ turns, low ≤ turn.1 + interval) : ∀ t ∈ fires turns, low ≤ t := by
  induction h with
  | nil => exact fun t ht => absurd ht List.not_mem_nil
  | cons first _ ih =>
    rw [List.forall_mem_cons] at hturns
    cases first with
    | fire due =>
      rw [fires_cons_true, List.forall_mem_cons]
      exact ⟨hnext.trans due, ih hturns.1 hturns.2⟩
    | rest => exact ih hnext hturns.2
    | putOff => exact ih hturns.1 hturns.2

variable [IsOrderedAddMonoid α]

/-- **Firings are an interval apart.** -/
theorem Run.pairwise_fires (h : Run interval next turns next') (hclock : Clocked turns) :
    (fires turns).Pairwise fun t t' => t + interval ≤ t' := by
  induction h with
  | nil => exact List.Pairwise.nil
  | @cons _ _ _ _ turns first rest ih =>
    obtain ⟨hfirst, hrest⟩ := List.pairwise_cons.mp hclock
    cases first with
    | @fire now due =>
      refine List.pairwise_cons.mpr ⟨?_, ih hrest⟩
      refine rest.le_of_mem_fires le_rfl fun turn hturn => ?_
      exact add_le_add_left (hfirst turn.1 (List.mem_map_of_mem hturn)) interval
    | rest => exact ih hrest
    | putOff => exact ih hrest

/-- **How many firings fit in a stretch of time.** -/
theorem length_nsmul_le {times : List α} {lo hi : α}
    (h : times.Pairwise fun t t' => t + interval ≤ t') (hlo : ∀ t ∈ times, lo ≤ t)
    (hhi : ∀ t ∈ times, t ≤ hi) (hle : lo ≤ hi + interval) :
    lo + times.length • interval ≤ hi + interval := by
  induction times generalizing lo with
  | nil => rwa [List.length_nil, zero_nsmul, add_zero]
  | cons t times ih =>
    rw [List.forall_mem_cons] at hlo hhi
    rw [List.pairwise_cons] at h
    have hrest := ih h.2 h.1 hhi.2 (add_le_add_left hhi.1 interval)
    calc lo + (t :: times).length • interval
        ≤ t + (times.length • interval + interval) := by
          rw [List.length_cons, succ_nsmul]
          exact add_le_add_left hlo.1 _
      _ = t + interval + times.length • interval := by abel
      _ ≤ hi + interval := hrest

end Timer
