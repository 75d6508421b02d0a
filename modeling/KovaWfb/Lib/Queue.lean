/-
# A queue with a gate

Messages come in at the back of a queue.  From time to time it is looked at: through an open
gate the message in front is taken, if there is one, through a closed gate nothing is.

Nothing is lost, doubled or overtaken (`Run.conserves`), and as many messages as the gate was
open times are served, those that waited longest first (`Run.serves`).
-/

import Mathlib.Data.List.Basic

namespace Queue

variable {α : Type} {pending pending' : List α}

/-- One look: whether the gate is open, what came in and what was taken. -/
structure Look (α : Type) where
  isOpen : Bool
  queued : List α
  taken : List α

/-- What a look does to the queue. -/
structure Turn (pending : List α) (look : Look α) (pending' : List α) : Prop where
  queue : pending ++ look.queued = look.taken ++ pending'
  at_most_one : look.taken.length ≤ if look.isOpen then 1 else 0
  served : look.isOpen = true → look.taken = [] → pending' = []

/-- A run of looks. -/
inductive Run : List α → List (Look α) → List α → Prop
  | nil (pending : List α) : Run pending [] pending
  | cons {pending pending' pending'' : List α} {look : Look α} {looks : List (Look α)}
      (first : Turn pending look pending') (rest : Run pending' looks pending'') :
      Run pending (look :: looks) pending''

/-- **Nothing is lost, doubled or overtaken.** -/
theorem Run.conserves {looks : List (Look α)} (h : Run pending looks pending') :
    pending ++ looks.flatMap Look.queued = looks.flatMap Look.taken ++ pending' := by
  induction h with
  | nil => exact List.append_nil _
  | cons first _ ih =>
    rw [List.flatMap_cons, List.flatMap_cons, ← List.append_assoc, first.queue, List.append_assoc,
      ih, List.append_assoc]

/-- A look through an open gate brings every message one place closer to the front. -/
theorem Turn.take_first {look : Look α} {later : List α} {n : ℕ} (h : Turn pending look pending')
    (hlater : pending'.take n <+: later) :
    pending.take (n + if look.isOpen then 1 else 0) <+: look.taken ++ later := by
  obtain ⟨isOpen, queued, taken⟩ := look
  obtain ⟨hqueue, hone, hserved⟩ := h
  dsimp only at hqueue hone hserved ⊢
  cases pending with
  | nil =>
    rw [List.take_nil]
    exact ⟨_, List.nil_append _⟩
  | cons message pending =>
    cases taken with
    | nil =>
      have hclosed : isOpen = false := by
        rw [Bool.eq_false_iff]
        intro hopen
        rw [hserved hopen rfl] at hqueue
        cases hqueue
      rw [List.nil_append] at hqueue
      rw [hclosed, if_neg Bool.false_ne_true, List.nil_append, Nat.add_zero]
      refine List.IsPrefix.trans ?_ hlater
      rw [← hqueue]
      exact ⟨_, List.take_append.symm⟩
    | cons first more =>
      have hopen : isOpen = true := by
        by_contra hclosed
        rw [if_neg hclosed] at hone
        exact absurd hone (Nat.not_succ_le_zero _)
      rw [if_pos hopen] at hone ⊢
      obtain rfl := List.eq_nil_of_length_eq_zero (Nat.le_zero.mp (Nat.succ_le_succ_iff.mp hone))
      obtain ⟨rfl, rfl⟩ := List.cons.inj hqueue
      rw [List.take_succ_cons, List.singleton_append]
      refine (List.prefix_cons_inj _).mpr (List.IsPrefix.trans ?_ hlater)
      exact ⟨_, List.take_append.symm⟩

/-- **As many messages as the gate was open times are served**, the longest waiting first. -/
theorem Run.serves {looks : List (Look α)} (h : Run pending looks pending') :
    pending.take (looks.countP Look.isOpen) <+: looks.flatMap Look.taken := by
  induction h with
  | nil => exact ⟨_, List.nil_append _⟩
  | cons first _ ih =>
    rw [List.countP_cons, List.flatMap_cons]
    exact first.take_first ih

end Queue
