/-
# The three duplicate windows

`SeenRoutes` and `ReplayWindow` of `python/examples/mesh_txrx.py` (680 to 716) and
`SeenRoutes` of `python/examples/c2_gateway.py` (53 to 67): a set for the membership test and
a deque for the age of the keys, which are tuples of any length.

An object has the attributes of the source and nothing else; that the set and the deque stay
in step is proved of it.  The programs' models use `FifoSet`, which carries that as a field,
and every call on an object is the call on a `FifoSet` (`remember_ofFifoSet`).
`windows_bounded` says of the three classes what the statements on duplicates rest on.
-/

import KovaWfb.Lib.Dedupe

namespace KovaWfb

/-- A key: `tuple[int, ...]`. -/
abbrev WindowKey := List ℤ

/-- `_limit`, `_seen` and `_order` of an object. -/
@[ext]
structure KeyWindow where
  limit : ℕ
  seen : Finset WindowKey
  order : List WindowKey
  deriving DecidableEq

/-- What a call of `remember` returns, the object it leaves, and how often the body of its
loop ran. -/
structure Remembered where
  answer : Bool
  window : KeyWindow
  rounds : ℕ
  deriving DecidableEq

namespace KeyWindow

/-- `while len(self._order) > self._limit`. -/
def evictLoop (limit : ℕ) : Finset WindowKey → List WindowKey → Finset WindowKey × List WindowKey × ℕ
  | seen, [] => (seen, [], 0)
  | seen, old :: order =>
    if (old :: order).length > limit then
      let (seen, order, rounds) := evictLoop limit (seen.erase old) order
      (seen, order, rounds + 1)
    else (seen, old :: order, 0)

/-- `__init__` of the three classes. -/
def new (limit : ℕ) : KeyWindow := { limit, seen := ∅, order := [] }

/-- `remember` of the three classes. -/
def remember (self : KeyWindow) (key : WindowKey) : Remembered :=
  if key ∈ self.seen then { answer := false, window := self, rounds := 0 }
  else
    let (seen, order, rounds) := evictLoop self.limit (insert key self.seen) (self.order ++ [key])
    { answer := true, window := { self with seen, order }, rounds }

end KeyWindow

/-- A class: `__init__` and `remember`. -/
structure WindowClass where
  new : ℕ → KeyWindow
  remember : KeyWindow → WindowKey → Remembered

/-- `class SeenRoutes` of `mesh_txrx.py`. -/
def MeshTxrx.seenRoutes : WindowClass := ⟨KeyWindow.new, KeyWindow.remember⟩

/-- `class ReplayWindow` of `mesh_txrx.py`. -/
def MeshTxrx.replayWindow : WindowClass := ⟨KeyWindow.new, KeyWindow.remember⟩

/-- `class SeenRoutes` of `c2_gateway.py`. -/
def C2Gateway.seenRoutes : WindowClass := ⟨KeyWindow.new, KeyWindow.remember⟩

namespace WindowClass

variable (C : WindowClass)

/-- The object after some calls. -/
def after (self : KeyWindow) (calls : List WindowKey) : KeyWindow :=
  calls.foldl (fun self key => (C.remember self key).window) self

/-- The calls that returned `True`: the keys that were newly remembered. -/
def newlyRemembered : KeyWindow → List WindowKey → List WindowKey
  | _, [] => []
  | self, key :: calls =>
    if (C.remember self key).answer then
      key :: newlyRemembered (C.remember self key).window calls
    else newlyRemembered (C.remember self key).window calls

/-- What the calls returned. -/
def answers : KeyWindow → List WindowKey → List Bool
  | _, [] => []
  | self, key :: calls =>
    (C.remember self key).answer :: answers (C.remember self key).window calls

/-- What holds of an object with this limit after any calls, and of one more call. -/
structure Bounded (limit : ℕ) (calls : List WindowKey) : Prop where
  nodup : (C.after (C.new limit) calls).order.Nodup
  mem_seen_iff : ∀ key, key ∈ (C.after (C.new limit) calls).seen ↔
    key ∈ (C.after (C.new limit) calls).order
  length_le : (C.after (C.new limit) calls).order.length ≤ limit
  /-- A key is present when it was newly remembered, and fewer than `limit` keys since. -/
  present_iff : ∀ key, key ∈ (C.after (C.new limit) calls).seen ↔
    ∃ pre post, calls = pre ++ key :: post ∧
      (C.remember (C.after (C.new limit) pre) key).answer = true ∧
      (C.newlyRemembered (C.after (C.new limit) (pre ++ [key])) post).length < limit
  answer_iff : ∀ key, (C.remember (C.after (C.new limit) calls) key).answer = true ↔
    key ∉ (C.after (C.new limit) calls).seen
  present_then : ∀ key, key ∈ (C.remember (C.after (C.new limit) calls) key).window.seen
  refused : ∀ key, (C.remember (C.after (C.new limit) calls) key).answer = false →
    (C.remember (C.after (C.new limit) calls) key).window = C.after (C.new limit) calls
  rounds_le : ∀ key, (C.remember (C.after (C.new limit) calls) key).rounds ≤ 1

end WindowClass

/-! ### The loop -/

namespace KeyWindow

open FifoSet

variable {limit : ℕ} {seen : Finset WindowKey} {order : List WindowKey} {w : FifoSet WindowKey}
  {key : WindowKey} {calls : List WindowKey}

/-- **The loop of the source is the loop of a `FifoSet`**, and its body runs once for each key
that is too many. -/
theorem evictLoop_eq : evictLoop limit seen order =
    ((evict limit seen order).1, (evict limit seen order).2, order.length - limit) := by
  induction order generalizing seen with
  | nil => simp [evictLoop, evict]
  | cons old order ih =>
    rw [evictLoop, evict, List.length_cons]
    by_cases hlong : order.length + 1 > limit
    · rw [if_pos hlong, if_pos hlong, ih]
      dsimp only
      rw [Nat.succ_sub (by omega)]
    · rw [if_neg hlong, if_neg hlong, Nat.sub_eq_zero_of_le (by omega)]

/-- The attributes of a `FifoSet`. -/
def ofFifoSet (w : FifoSet WindowKey) : KeyWindow := ⟨w.limit, w.seen, w.order⟩

/-- **A call on an object is the call on a `FifoSet`**, with one round of the loop where a new
key comes to a full window. -/
theorem remember_ofFifoSet (w : FifoSet WindowKey) (key : WindowKey) :
    (ofFifoSet w).remember key = { answer := (w.remember key).1,
                                   window := ofFifoSet (w.remember key).2,
                                   rounds := if key ∈ w then 0 else w.order.length + 1 - w.limit } := by
  by_cases hmem : key ∈ w
  · rw [remember, if_pos (show key ∈ (ofFifoSet w).seen from hmem), remember_of_mem hmem, if_pos hmem]
  · rw [remember, if_neg (show key ∉ (ofFifoSet w).seen from hmem), evictLoop_eq, FifoSet.remember,
      dif_neg hmem, if_neg hmem]
    dsimp only
    rw [show (ofFifoSet w).order = w.order from rfl, List.length_append, List.length_singleton]
    rfl

/-- A round of the loop is needed only where a new key comes to a full window. -/
theorem rounds_remember_le (w : FifoSet WindowKey) (key : WindowKey) :
    ((ofFifoSet w).remember key).rounds ≤ 1 := by
  have hfull := w.length_le
  rw [remember_ofFifoSet]
  dsimp only
  split <;> omega

end KeyWindow

/-! ### Histories -/

section

open FifoSet KeyWindow

/-- The class that the three are. -/
abbrev windowClass : WindowClass := ⟨KeyWindow.new, KeyWindow.remember⟩

variable {limit : ℕ} {hlimit : 0 < limit} {w : FifoSet WindowKey} {key : WindowKey}
  {calls : List WindowKey}

theorem windowClass_remember {self : KeyWindow} :
    windowClass.remember self key = self.remember key := rfl

/-- **After any calls** the object is the `FifoSet` after them. -/
theorem after_ofFifoSet :
    windowClass.after (ofFifoSet w) calls = ofFifoSet (filterRun some w calls) := by
  induction calls generalizing w with
  | nil => rfl
  | cons key calls ih =>
    have hstep : ((ofFifoSet w).remember key).window = ofFifoSet (filterStep some w key) := by
      rw [remember_ofFifoSet]
      rfl
    rw [WindowClass.after, List.foldl_cons, hstep]
    exact ih

/-- **What was newly remembered** along the calls are the keys that pass the `FifoSet`. -/
theorem newlyRemembered_ofFifoSet :
    windowClass.newlyRemembered (ofFifoSet w) calls = passedKeys some w calls := by
  induction calls generalizing w with
  | nil => rfl
  | cons key calls ih =>
    rw [WindowClass.newlyRemembered, windowClass_remember, remember_ofFifoSet, remember_fst,
      passedKeys, passed.eq_def]
    dsimp only
    by_cases hmem : key ∈ w
    · have hpass : ¬ Passes some w key := fun h => (passes_of_some rfl).1 h hmem
      rw [if_neg (by simp [hmem]), if_neg hpass, ih]
      rfl
    · have hpass : Passes some w key := (passes_of_some rfl).2 hmem
      rw [if_pos (by simp [hmem]), if_pos hpass, ih]
      rfl

theorem answer_iff_not_mem :
    ((ofFifoSet w).remember key).answer = true ↔ key ∉ (ofFifoSet w).seen := by
  rw [remember_ofFifoSet, remember_fst, Bool.not_eq_true', decide_eq_false_iff_not]
  rfl

/-- **A key is there** when it was newly remembered, and fewer than `limit` keys since. -/
theorem mem_filterRun_iff : key ∈ filterRun some (empty limit hlimit) calls ↔
    ∃ pre post, calls = pre ++ key :: post ∧ ¬ key ∈ filterRun some (empty limit hlimit) pre ∧
      (passedKeys some (filterRun some (empty limit hlimit) (pre ++ [key])) post).length < limit := by
  constructor
  · intro h
    obtain ⟨pre, a, post, rfl, hheld⟩ := exists_heldAfter h
    obtain rfl := Option.some.inj hheld.key_eq
    refine ⟨pre, post, rfl, hheld.new, ?_⟩
    have hlt := hheld.length_lt
    rw [filterRun_limit] at hlt
    rw [filterRun_concat]
    exact hlt
  · rintro ⟨pre, post, rfl, hnew, hlt⟩
    have htraces := traces_filterRun some (filterRun some (empty limit hlimit) (pre ++ [key])) post
    rw [filterRun_concat] at htraces hlt
    rw [filterRun_append_cons]
    refine htraces.mem_of_length_lt hnew (hlt.trans_eq ?_)
    rw [filterRun_limit]
    rfl

theorem windowClass_bounded (hlimit : 0 < limit) (calls : List WindowKey) :
    windowClass.Bounded limit calls := by
  have hafter : ∀ calls, windowClass.after (windowClass.new limit) calls =
      ofFifoSet (filterRun some (empty limit hlimit) calls) := fun calls =>
      after_ofFifoSet (w := empty limit hlimit)
  have hlim : (filterRun some (empty limit hlimit) calls).limit = limit := filterRun_limit
  exact {
    nodup := by
      rw [hafter]
      exact (filterRun some (empty limit hlimit) calls).order_nodup
    mem_seen_iff := fun key => by
      rw [hafter]
      exact mem_iff_mem_order
    length_le := by
      rw [hafter]
      exact (filterRun some (empty limit hlimit) calls).length_le.trans_eq hlim
    present_iff := fun key => by
      rw [hafter]
      refine mem_filterRun_iff.trans ?_
      refine exists_congr fun pre => exists_congr fun post => and_congr_right fun _ => ?_
      rw [hafter, hafter, newlyRemembered_ofFifoSet]
      exact and_congr_left fun _ => answer_iff_not_mem.symm
    answer_iff := fun key => by
      rw [hafter]
      exact answer_iff_not_mem
    present_then := fun key => by
      rw [hafter, windowClass_remember, remember_ofFifoSet]
      exact mem_remember_self _ key
    refused := fun key hanswer => by
      rw [hafter, windowClass_remember] at hanswer ⊢
      rw [remember_ofFifoSet, remember_fst, Bool.not_eq_false', decide_eq_true_eq] at hanswer
      rw [remember_ofFifoSet, remember_of_mem hanswer]
    rounds_le := fun key => by
      rw [hafter]
      exact rounds_remember_le _ _ }

end

/-- **The dedupe windows are bounded**: for every limit from 1 on and all calls, the three
classes return the same, leave the same set and deque, and satisfy `WindowClass.Bounded`. -/
theorem windows_bounded (limit : ℕ) (hlimit : 1 ≤ limit) (calls : List WindowKey) :
    ∀ C ∈ [MeshTxrx.seenRoutes, MeshTxrx.replayWindow, C2Gateway.seenRoutes],
      C.Bounded limit calls ∧
        ∀ C' ∈ [MeshTxrx.seenRoutes, MeshTxrx.replayWindow, C2Gateway.seenRoutes],
          C.answers (C.new limit) calls = C'.answers (C'.new limit) calls ∧
            C.after (C.new limit) calls = C'.after (C'.new limit) calls := by
  have hclass : ∀ C ∈ [MeshTxrx.seenRoutes, MeshTxrx.replayWindow, C2Gateway.seenRoutes],
      C = windowClass := by
    simp only [List.forall_mem_cons, List.not_mem_nil, false_implies, implies_true, and_true]
    exact ⟨rfl, rfl, rfl⟩
  intro C hC
  obtain rfl := hclass C hC
  refine ⟨windowClass_bounded hlimit calls, fun C' hC' => ?_⟩
  obtain rfl := hclass C' hC'
  exact ⟨rfl, rfl⟩

/-- A window of one key: the second key puts the first out, and the first comes back. -/
theorem windows_bounded_one :
    MeshTxrx.replayWindow.answers (KeyWindow.new 1) [[2, 7], [2, 7], [1, 2, 7], [2, 7]] =
        [true, false, true, true] ∧
      MeshTxrx.replayWindow.Bounded 1 [[2, 7], [2, 7], [1, 2, 7], [2, 7]] :=
  ⟨by decide, (windows_bounded 1 le_rfl _ MeshTxrx.replayWindow (by simp)).1⟩

end KovaWfb
