/-
# Flooding with a hop limit

A message floods a graph: its origin sends it to all neighbours, and a node that
processed a copy forwards it to all of its neighbours unless the copy has used up
its hops.  A node that filters duplicates forwards one copy only, so how far the
message gets depends on which.  If every node forwards a copy with the fewest hops
among those it processed, the message gets as far as the hop limit lets it
(`Flood.reaches`): at distance `d` a copy with at most `d - 1` hops arrives.
-/

import Mathlib.Combinatorics.SimpleGraph.Metric

/-- A flood of one message from `origin` over `G` in which every node forwards the
copy with the fewest hops.  `processed v h`: the node `v` processed a copy that had
been forwarded `h` times. -/
structure Flood {V : Type*} (G : SimpleGraph V) (origin : V) (limit : ℕ) where
  processed : V → ℕ → Prop
  start : ∀ v, G.Adj origin v → processed v 0
  forward : ∀ v, v ≠ origin → ∀ h, processed v h → (∀ h', processed v h' → h ≤ h') → h < limit →
    ∀ u, G.Adj v u → processed u (h + 1)

namespace Flood

variable {V : Type*} {G : SimpleGraph V} {origin : V} {limit : ℕ}

/-- Along every walk to the origin with no more than `limit + 1` edges. -/
theorem processed_of_walk (F : Flood G origin limit) {v : V} (p : G.Walk v origin)
    (hv : v ≠ origin) (hp : p.length ≤ limit + 1) : ∃ h, F.processed v h ∧ h < p.length := by
  induction p with
  | nil => exact absurd rfl hv
  | @cons v u origin hadj q ih =>
    rw [SimpleGraph.Walk.length_cons] at hp ⊢
    by_cases hu : u = origin
    · subst hu
      exact ⟨0, F.start _ hadj.symm, Nat.succ_pos _⟩
    · obtain ⟨h, hproc, hlt⟩ := ih F hu (by omega)
      -- The neighbour forwards its best copy, which is at least as good.
      classical
      have hex : ∃ h, F.processed u h := ⟨h, hproc⟩
      have hle : Nat.find hex ≤ h := Nat.find_min' hex hproc
      exact ⟨Nat.find hex + 1, F.forward u hu _ (Nat.find_spec hex)
        (fun h' hh' => Nat.find_min' hex hh') (by omega) v hadj.symm, by omega⟩

/-- **A flood that forwards the best copy reaches every node within the limit.** -/
theorem reaches (F : Flood G origin limit) {v : V} (hv : v ≠ origin)
    (hreach : G.Reachable v origin) (hdist : G.dist v origin ≤ limit + 1) :
    ∃ h, F.processed v h ∧ h < G.dist v origin := by
  obtain ⟨p, hp⟩ := hreach.exists_walk_length_eq_dist
  rw [← hp] at hdist ⊢
  exact F.processed_of_walk p hv hdist

end Flood
