/-
# Filtering a stream through a bounded set of keys

A stream of items passes a duplicate filter: the filter looks each item up under its
key (`none`: the item is not looked up), lets it pass when the key is new and then
remembers it.  The filter works on keys, its user thinks of what the items are: their
identity.  Two things can be asked of it.

* `PassesOnce`: two items of one identity both pass only if at least `limit` keys of
  other identities were remembered in between.
* `DropsCopies`: an item is dropped on account of an item of the same identity.

Both hold together exactly if, at every item, the entries of the set tell identities
apart as their keys do (`passesOnce_and_dropsCopies_iff`).
-/

import KovaWfb.Lib.FifoSet

namespace FifoSet

section Filter

variable {α κ : Type*} [DecidableEq κ] (key : α → Option κ)

/-- An item that is looked up is remembered. -/
def filterStep (w : FifoSet κ) (a : α) : FifoSet κ :=
  match key a with
  | none => w
  | some k => (w.remember k).2

/-- The set after a stream of items. -/
def filterRun (w : FifoSet κ) (as : List α) : FifoSet κ := as.foldl (filterStep key) w

/-- The item passes: it is looked up under a new key. -/
def Passes (w : FifoSet κ) (a : α) : Prop := ∃ k, key a = some k ∧ ¬ k ∈ w

instance (w : FifoSet κ) (a : α) : Decidable (Passes key w a) :=
  decidable_of_iff ((key a).any (fun k => decide (¬ k ∈ w)) = true) (by
    unfold Passes
    cases key a <;> simp)

/-- The items that pass, in order. -/
def passed (w : FifoSet κ) : List α → List α
  | [] => []
  | a :: as =>
      if Passes key w a then a :: passed (filterStep key w a) as
      else passed (filterStep key w a) as

/-- The keys newly remembered along a stream, in order. -/
def passedKeys (w : FifoSet κ) (as : List α) : List κ := (passed key w as).filterMap key

variable {key} {w : FifoSet κ} {a b : α} {as bs : List α} {k : κ}

theorem filterRun_append : filterRun key w (as ++ bs) = filterRun key (filterRun key w as) bs :=
  List.foldl_append

theorem filterRun_concat : filterRun key w (as ++ [a]) = filterStep key (filterRun key w as) a :=
  filterRun_append

theorem filterRun_append_cons :
    filterRun key w (as ++ a :: bs) = filterRun key (filterStep key (filterRun key w as) a) bs :=
  filterRun_append

theorem filterStep_of_some (h : key a = some k) : filterStep key w a = (w.remember k).2 := by
  rw [filterStep, h]

theorem passes_of_some (h : key a = some k) : Passes key w a ↔ ¬ k ∈ w := by
  constructor
  · rintro ⟨k', hk', hnew⟩
    obtain rfl := Option.some.inj (h.symm.trans hk')
    exact hnew
  · exact fun hnew => ⟨k, h, hnew⟩

@[simp] theorem filterStep_limit : (filterStep key w a).limit = w.limit := by
  unfold filterStep
  split
  · rfl
  · exact remember_limit _ _

@[simp] theorem filterRun_limit : (filterRun key w as).limit = w.limit := by
  induction as generalizing w with
  | nil => rfl
  | cons a as ih => exact ih.trans filterStep_limit

theorem passed_append :
    passed key w (as ++ bs) = passed key w as ++ passed key (filterRun key w as) bs := by
  induction as generalizing w with
  | nil => rfl
  | cons a as ih =>
    by_cases h : Passes key w a
    · rw [List.cons_append, passed, if_pos h, passed, if_pos h, List.cons_append, ih]
      rfl
    · rw [List.cons_append, passed, if_neg h, passed, if_neg h, ih]
      rfl

/-- An item that passed did so where it stands in the stream. -/
theorem mem_passed : a ∈ passed key w as ↔
    ∃ pre post, as = pre ++ a :: post ∧ Passes key (filterRun key w pre) a := by
  constructor
  · intro h
    induction as generalizing w with
    | nil => cases h
    | cons a' as ih =>
      have hrest : a ∈ passed key (filterStep key w a') as →
          ∃ pre post, a' :: as = pre ++ a :: post ∧ Passes key (filterRun key w pre) a := by
        intro hmem
        obtain ⟨pre, post, rfl, hpass⟩ := ih hmem
        exact ⟨a' :: pre, post, rfl, hpass⟩
      by_cases hpass : Passes key w a'
      · rw [passed, if_pos hpass] at h
        rcases List.mem_cons.mp h with rfl | h
        · exact ⟨[], as, rfl, hpass⟩
        · exact hrest h
      · rw [passed, if_neg hpass] at h
        exact hrest h
  · rintro ⟨pre, post, rfl, hpass⟩
    rw [passed_append, passed, if_pos hpass]
    exact List.mem_append_right _ (List.mem_cons_self ..)

/-- A stream newly remembers the keys of the items that pass. -/
theorem traces_filterRun (key : α → Option κ) (w : FifoSet κ) (as : List α) :
    Traces w (passedKeys key w as) (filterRun key w as) := by
  induction as generalizing w with
  | nil => exact .refl w
  | cons a as ih =>
    have hrun : filterRun key w (a :: as) = filterRun key (filterStep key w a) as := rfl
    rw [hrun, passedKeys, passed]
    by_cases h : Passes key w a
    · obtain ⟨k, hk, hnew⟩ := h
      rw [if_pos ⟨k, hk, hnew⟩, List.filterMap_cons_some hk, filterStep_of_some hk]
      exact ((Traces.refl w).remember hnew).trans (ih _)
    · have hsame : filterStep key w a = w := by
        cases hk : key a with
        | none => rw [filterStep, hk]
        | some k =>
          rw [filterStep_of_some hk, remember_of_mem (not_not.mp fun hn => h ⟨k, hk, hn⟩)]
      rw [if_neg h, hsame]
      exact ih w

theorem mem_passedKeys : k ∈ passedKeys key w as ↔
    ∃ pre a post, as = pre ++ a :: post ∧ key a = some k ∧ ¬ k ∈ filterRun key w pre := by
  rw [passedKeys, List.mem_filterMap]
  constructor
  · rintro ⟨a, hmem, hk⟩
    obtain ⟨pre, post, rfl, hpass⟩ := mem_passed.mp hmem
    exact ⟨pre, a, post, rfl, hk, (passes_of_some hk).mp hpass⟩
  · rintro ⟨pre, a, post, rfl, hk, hnew⟩
    exact ⟨a, mem_passed.mpr ⟨pre, post, rfl, (passes_of_some hk).mpr hnew⟩, hk⟩

theorem passedKeys_append :
    passedKeys key w (as ++ bs) = passedKeys key w as ++ passedKeys key (filterRun key w as) bs := by
  rw [passedKeys, passed_append, List.filterMap_append]
  rfl

/-- What a set that was empty holds is the key of an item that passed and whose entry
has stayed since.  `HeldAfter w a mid k`: that item is `a`, let pass by `w`, and the
items since are `mid`. -/
structure HeldAfter (key : α → Option κ) (w : FifoSet κ) (a : α) (mid : List α) (k : κ) : Prop where
  key_eq : key a = some k
  new : ¬ k ∈ w
  not_again : k ∉ passedKeys key (filterStep key w a) mid
  held : k ∈ filterRun key (filterStep key w a) mid

/-- Fewer than `limit` keys were newly remembered since. -/
theorem HeldAfter.length_lt {mid : List α} (h : HeldAfter key w a mid k) :
    (passedKeys key (filterStep key w a) mid).length < w.limit := by
  have htraces := traces_filterRun key (filterStep key w a) mid
  rw [filterStep_of_some h.key_eq] at htraces ⊢
  have hnot := h.not_again
  have hheld := h.held
  rw [filterStep_of_some h.key_eq] at hnot hheld
  exact htraces.length_lt_of_mem h.new hnot hheld

/-- An entry that is still there after one more item was there before, or is its. -/
theorem HeldAfter.concat {mid : List α} (h : HeldAfter key w a mid k)
    (hstill : k ∈ filterRun key (filterStep key w a) (mid ++ [b])) :
    HeldAfter key w a (mid ++ [b]) k where
  key_eq := h.key_eq
  new := h.new
  held := hstill
  not_again := by
    rw [passedKeys_append, List.mem_append]
    rintro (hmem | hmem)
    · exact h.not_again hmem
    · obtain ⟨pre, b', post, hsplit, -, hnew⟩ := mem_passedKeys.mp hmem
      cases pre with
      | nil => exact hnew h.held
      | cons c pre => simp at hsplit

/-- **Every entry of a set that was empty belongs to an item.** -/
theorem exists_heldAfter {limit : ℕ} {hpos : 0 < limit} {k : κ} {as : List α}
    (h : k ∈ filterRun key (empty limit hpos) as) :
    ∃ pre a mid, as = pre ++ a :: mid ∧
      HeldAfter key (filterRun key (empty limit hpos) pre) a mid k := by
  induction as using List.reverseRecOn with
  | nil => exact absurd h not_mem_empty
  | append_singleton as b ih =>
    have hold : k ∈ filterRun key (empty limit hpos) as →
        ∃ pre a mid, as ++ [b] = pre ++ a :: mid ∧
          HeldAfter key (filterRun key (empty limit hpos) pre) a mid k := by
      intro hmem
      obtain ⟨pre, a, mid, rfl, hheld⟩ := ih hmem
      refine ⟨pre, a, mid ++ [b], by simp, hheld.concat ?_⟩
      rwa [← filterRun_append_cons, ← List.cons_append, ← List.append_assoc]
    rw [filterRun_concat] at h
    by_cases hmem : k ∈ filterRun key (empty limit hpos) as
    · exact hold hmem
    · have hkey : key b = some k := by
        unfold filterStep at h
        split at h
        · exact absurd h hmem
        · rename_i k' hk'
          rw [(mem_of_mem_remember h).resolve_right hmem]
          exact hk'
      refine ⟨as, b, [], rfl, hkey, hmem, by simp [passedKeys, passed], ?_⟩
      rw [filterStep_of_some hkey]
      exact mem_remember_self _ _

end Filter

/-! ### What the items are, and under which keys they are looked up -/

section Identity

variable {α κ ι : Type*} [DecidableEq κ] [DecidableEq ι] (key : α → Option κ) (ident : α → ι)

/-- The keys newly remembered along a stream for items of other identities. -/
def otherKeys (w : FifoSet κ) (as : List α) (i : ι) : Finset κ :=
  (((passed key w as).filter fun a => ident a ≠ i).filterMap key).toFinset

/-- Items of one identity pass again only after `limit` keys of other identities. -/
def PassesOnce (w : FifoSet κ) (as : List α) : Prop :=
  ∀ pre a mid b, pre ++ a :: (mid ++ [b]) <+: as → ident a = ident b →
    Passes key (filterRun key w pre) a → Passes key (filterRun key w (pre ++ a :: mid)) b →
    w.limit ≤ (otherKeys key ident (filterStep key (filterRun key w pre) a) mid (ident a)).card

/-- The entry under which an item is dropped belongs to an item of its identity. -/
def DropsCopies (w : FifoSet κ) (as : List α) : Prop :=
  ∀ pre a mid b k, pre ++ a :: (mid ++ [b]) <+: as →
    HeldAfter key (filterRun key w pre) a mid k → key b = some k → ident a = ident b

/-- At every item that is looked up, the keys of the entries tell it apart from the
items they belong to as the identities do. -/
def KeysTellApart (w : FifoSet κ) (as : List α) : Prop :=
  ∀ pre a mid b k k', pre ++ a :: (mid ++ [b]) <+: as →
    HeldAfter key (filterRun key w pre) a mid k → key b = some k' → (ident a = ident b ↔ k = k')

variable {key ident} {w : FifoSet κ} {as bs : List α} {i : ι}

theorem mem_otherKeys {k : κ} : k ∈ otherKeys key ident w as i ↔
    ∃ pre a post, as = pre ++ a :: post ∧ ident a ≠ i ∧ key a = some k ∧
      ¬ k ∈ filterRun key w pre := by
  rw [otherKeys, List.mem_toFinset, List.mem_filterMap]
  constructor
  · rintro ⟨a, hmem, hk⟩
    obtain ⟨hmem, hne⟩ := List.mem_filter.mp hmem
    obtain ⟨pre, post, rfl, hpass⟩ := mem_passed.mp hmem
    exact ⟨pre, a, post, rfl, by simpa using hne, hk, (passes_of_some hk).mp hpass⟩
  · rintro ⟨pre, a, post, rfl, hne, hk, hnew⟩
    exact ⟨a, List.mem_filter.mpr ⟨mem_passed.mpr ⟨pre, post, rfl, (passes_of_some hk).mpr hnew⟩,
      by simpa using hne⟩, hk⟩

/-- One item's share of the keys is what it put into the set. -/
theorem otherKeys_cons {a : α} : otherKeys key ident w (a :: as) i =
    (if ident a = i then ∅ else (newKeys w (filterStep key w a)).toFinset) ∪
      otherKeys key ident (filterStep key w a) as i := by
  by_cases hpass : Passes key w a
  · obtain ⟨k, hk, hnew⟩ := hpass
    have hkeys : newKeys w (filterStep key w a) = [k] := by
      rw [filterStep_of_some hk, newKeys_remember, if_neg hnew]
    rw [otherKeys, passed, if_pos ⟨k, hk, hnew⟩, hkeys]
    by_cases hident : ident a = i
    · rw [List.filter_cons_of_neg (by simpa using hident), if_pos hident, Finset.empty_union,
        otherKeys]
    · rw [List.filter_cons_of_pos (by simpa using hident), if_neg hident,
        List.filterMap_cons_some hk, List.toFinset_cons, otherKeys]
      rfl
  · have hkeys : newKeys w (filterStep key w a) = [] := by
      cases hk : key a with
      | none =>
        rw [filterStep, hk]
        exact newKeys_self w
      | some k =>
        rw [filterStep_of_some hk, newKeys_remember,
          if_pos (not_not.mp fun hn => hpass ⟨k, hk, hn⟩)]
    rw [otherKeys, passed, if_neg hpass, hkeys, List.toFinset_nil, ite_self, Finset.empty_union,
      otherKeys]

theorem otherKeys_subset_append : otherKeys key ident w as i ⊆ otherKeys key ident w (as ++ bs) i := by
  intro k hk
  obtain ⟨pre, a, post, rfl, hne, hkey, hnew⟩ := mem_otherKeys.mp hk
  exact mem_otherKeys.mpr ⟨pre, a, post ++ bs, by simp, hne, hkey, hnew⟩

theorem otherKeys_subset_passedKeys : otherKeys key ident w as i ⊆ (passedKeys key w as).toFinset := by
  intro k hk
  obtain ⟨pre, a, post, rfl, -, hkey, hnew⟩ := mem_otherKeys.mp hk
  exact List.mem_toFinset.mpr (mem_passedKeys.mpr ⟨pre, a, post, rfl, hkey, hnew⟩)

theorem card_otherKeys_le : (otherKeys key ident w as i).card ≤ (passedKeys key w as).length :=
  (Finset.card_le_card otherKeys_subset_passedKeys).trans (List.toFinset_card_le _)

/-- A prefix of a stream that ends in an item, and what stands before it. -/
theorem prefix_of_prefix_append {pre l r : List α} {a m b : α}
    (h : pre ++ a :: ((l ++ m :: r) ++ [b]) <+: as) : pre ++ a :: (l ++ [m]) <+: as := by
  refine List.IsPrefix.trans ⟨r ++ [b], ?_⟩ h
  simp

/-- While fewer than `limit` keys are newly remembered, a key that was let pass is not
let pass again. -/
theorem not_mem_passedKeys {a : α} {k : κ} (hk : key a = some k) (hnew : ¬ k ∈ w) {mid : List α}
    (hlt : ((passedKeys key (filterStep key w a) mid).toFinset).card < w.limit) :
    k ∉ passedKeys key (filterStep key w a) mid := by
  intro hmem
  obtain ⟨l, m, r, rfl, -, hgone⟩ := mem_passedKeys.mp hmem
  have htraces := traces_filterRun key (filterStep key w a) l
  rw [filterStep_of_some hk] at htraces hgone
  refine hgone (htraces.mem_of_card_lt hnew (lt_of_le_of_lt (Finset.card_le_card ?_) hlt))
  rw [filterStep_of_some hk, passedKeys_append]
  refine (Finset.erase_subset _ _).trans fun x hx => ?_
  rw [List.mem_toFinset] at hx ⊢
  exact List.mem_append_left _ hx

/-- **Keys that tell identities apart let pass once.**  Induction on the distance of
the two items: if an item of the identity passed in between, it is closer to the
first; if none did, the entry of the first is still there, under the key of the
second. -/
theorem KeysTellApart.passesOnce (h : KeysTellApart key ident w as) :
    PassesOnce key ident w as := by
  intro pre a mid
  induction hn : mid.length using Nat.strong_induction_on generalizing mid with
  | _ n ih =>
    intro b hpre hident hpassA hpassB
    obtain ⟨k, hk, hnew⟩ := hpassA
    obtain ⟨k', hk', hnew'⟩ := hpassB
    by_contra hfew
    rw [not_le] at hfew
    have hnone : ∀ m ∈ passed key (filterStep key (filterRun key w pre) a) mid,
        ident m ≠ ident a := by
      intro m hmem hsame
      obtain ⟨l, r, rfl, hpass⟩ := mem_passed.mp hmem
      have hcloser := ih l.length (by rw [← hn]; simp) l rfl m (prefix_of_prefix_append hpre)
        hsame.symm ⟨k, hk, hnew⟩ (by rwa [filterRun_append_cons])
      exact absurd (Finset.card_le_card otherKeys_subset_append) (not_le.mpr
        (lt_of_lt_of_le hfew hcloser))
    have hall : (passedKeys key (filterStep key (filterRun key w pre) a) mid).toFinset =
        otherKeys key ident (filterStep key (filterRun key w pre) a) mid (ident a) := by
      rw [otherKeys, List.filter_eq_self.mpr (by simpa using hnone), passedKeys]
    have hlt : (passedKeys key (filterStep key (filterRun key w pre) a) mid).toFinset.card <
        (filterRun key w pre).limit := by
      rw [hall, filterRun_limit]
      exact hfew
    have hnot := not_mem_passedKeys hk hnew hlt
    have hheld : HeldAfter key (filterRun key w pre) a mid k := by
      refine ⟨hk, hnew, hnot, ?_⟩
      have htraces := traces_filterRun key (filterStep key (filterRun key w pre) a) mid
      rw [filterStep_of_some hk] at htraces hlt ⊢
      exact htraces.mem_of_card_lt hnew
        (lt_of_le_of_lt (Finset.card_le_card (Finset.erase_subset _ _)) hlt)
    obtain rfl := (h pre a mid b k k' hpre hheld hk').mp hident
    rw [filterRun_append_cons] at hnew'
    exact hnew' hheld.held

/-- **The two demands hold exactly if the keys tell identities apart**, for a set that
was empty. -/
theorem passesOnce_and_dropsCopies_iff {limit : ℕ} {hpos : 0 < limit} :
    PassesOnce key ident (empty limit hpos) as ∧ DropsCopies key ident (empty limit hpos) as ↔
      KeysTellApart key ident (empty limit hpos) as := by
  constructor
  · rintro ⟨honce, hdrops⟩ pre a mid b k k' hpre hheld hk'
    refine ⟨fun hident => ?_, fun heq => hdrops pre a mid b k hpre hheld (heq ▸ hk')⟩
    by_contra hne
    have hlt := hheld.length_lt
    rw [filterRun_limit] at hlt
    have hfew : ∀ {l : List α} {r : List α} {i : ι}, mid = l ++ r →
        ¬ (empty limit hpos : FifoSet κ).limit ≤ (otherKeys key ident
          (filterStep key (filterRun key (empty limit hpos) pre) a) l i).card := by
      rintro l r i rfl hle
      rw [passedKeys_append, List.length_append] at hlt
      exact absurd (hle.trans card_otherKeys_le) (by omega)
    have hpassA : Passes key (filterRun key (empty limit hpos) pre) a :=
      ⟨k, hheld.key_eq, hheld.new⟩
    -- The second item does not pass: its key is there, and belongs to a third item.
    have hmem : k' ∈ filterRun key (empty limit hpos) (pre ++ a :: mid) := by
      by_contra hnew'
      exact hfew (List.append_nil mid).symm (honce pre a mid b hpre hident hpassA ⟨k', hk', hnew'⟩)
    obtain ⟨pre', c, mid', hsplit, hheld'⟩ := exists_heldAfter hmem
    have hpassC : Passes key (filterRun key (empty limit hpos) pre') c :=
      ⟨k', hheld'.key_eq, hheld'.new⟩
    have hpre' : pre' ++ c :: (mid' ++ [b]) <+: as := by
      rw [← List.cons_append, ← List.append_assoc, ← hsplit, List.append_assoc]
      exact hpre
    have hsame : ident c = ident b := hdrops pre' c mid' b k' hpre' hheld' hk'
    rcases List.append_eq_append_iff.mp hsplit with ⟨l, hl, hl'⟩ | ⟨l, hl, hl'⟩
    · cases l with
      | nil =>
        -- The third item is the first one.
        obtain ⟨rfl, -⟩ := List.cons.inj hl'
        exact hne (Option.some.inj (hheld.key_eq.symm.trans hheld'.key_eq))
      | cons a' l =>
        -- The third item stands between the two.
        obtain ⟨rfl, rfl⟩ := List.cons.inj hl'
        rw [hl] at hpassC
        exact hfew rfl (honce pre a l c (prefix_of_prefix_append hpre) (hident.trans hsame.symm)
          hpassA hpassC)
    · cases l with
      | nil =>
        obtain ⟨rfl, -⟩ := List.cons.inj hl'
        exact hne (Option.some.inj (hheld.key_eq.symm.trans hheld'.key_eq))
      | cons c' l =>
        -- The third item stands before the two.
        obtain ⟨rfl, hmid'⟩ := List.cons.inj hl'
        obtain rfl : mid' = l ++ a :: mid := hmid'
        have hlt' := hheld'.length_lt
        rw [filterRun_limit, passedKeys_append, List.length_append] at hlt'
        rw [hl] at hpassA
        have hle := honce pre' c l a (prefix_of_prefix_append hpre') (hsame.trans hident.symm)
          hpassC hpassA
        exact absurd (hle.trans card_otherKeys_le) (by omega)
  · intro h
    exact ⟨h.passesOnce, fun pre a mid b k hpre hheld hk =>
      (h pre a mid b k k hpre hheld hk).mpr rfl⟩

end Identity

end FifoSet
