/-
# Where the metadata of a packet comes from

`radiotap_meta_from_packet` of `src/rx.rs` (75 to 237) takes the length of the header from
the header, but bounds what it reads by the packet.  The present words are a chain
(`presentChain`), and they alone say which arguments follow and where (`headerArgs`): the
offsets never depend on what an argument holds.  So the parser accepts a packet exactly when
the words and their arguments end inside the packet (`radiotapMetaFromPacket_eq_some_iff`),
and the frame behind the header plays no part exactly when they end inside the header
(`metadata_from_header_iff`).
-/

import KovaWfb.Radio.Layout

namespace KovaWfb

open BigEndian Rust

/-! ### What the present words announce -/

/-- The present words: a word with the extension bit is followed by another. -/
def presentChain : Bytes → Option (List ℕ)
  | b₀ :: b₁ :: b₂ :: b₃ :: rest =>
    let w := ofBE [b₃, b₂, b₁, b₀]
    if w &&& 0x80000000 ≠ 0 then (presentChain rest).map ((w &&& 0x7fffffff) :: ·)
    else some [w &&& 0x7fffffff]
  | _ => none

/-- The multiple of the alignment from an offset on, in 64 bits. -/
def alignTo (off align : ℕ) : ℕ :=
  if align ≤ 1 then off else (off + (align - 1)) &&& (2 ^ 64 - 1 - (align - 1))

/-- An argument: its field, its offset and its size. -/
structure ArgAt where
  field : ℕ
  off : ℕ
  size : ℕ
  deriving DecidableEq, Repr

/-- Where the argument ends. -/
def ArgAt.stop (a : ArgAt) : ℕ := a.off + a.size

/-- The arguments announced from a field on, up to a field without a layout and to the
fourth antenna. -/
def announced (words : List ℕ) : ℕ → ℕ → ℕ → ℕ → List ArgAt
  | 0, _, _, _ => []
  | remaining + 1, field, antennas, off =>
    if (words.getD (field / 32) 0).testBit (field % 32) = false then
      announced words remaining (field + 1) antennas off
    else if antennas ≥ 4 then []
    else
      match fieldLayout field with
      | none => []
      | some (align, size) =>
        ⟨field, alignTo off align, size⟩ ::
          announced words remaining (field + 1)
            (if field = rtapAntenna then antennas + 1 else antennas) (alignTo off align + size)

/-- The arguments of a header with these present words. -/
def headerArgs (words : List ℕ) : List ArgAt :=
  announced words (words.length * 32) 0 0 (4 + 4 * words.length)

/-- Where the present words and their arguments end. -/
def announcedLength (words : List ℕ) : ℕ :=
  (headerArgs words).foldr (fun a n => max a.stop n) (4 + 4 * words.length)

/-- `radiotap_len` of a packet. -/
def declaredLength (pkt : Bytes) : ℕ := ofBE [pkt.getD 3 0, pkt.getD 2 0]

/-- The argument as it stands in a packet. -/
def ArgAt.read (pkt : Bytes) (a : ArgAt) : RtField := ⟨a.field, [], (pkt.drop a.off).take a.size⟩

/-- The variables after the arguments were taken from a packet. -/
def FieldState.takeAll (pkt : Bytes) (args : List ArgAt) (st : FieldState) : FieldState :=
  args.foldl (fun st a => (st.take (a.read pkt)).atOff a.stop) st

/-- The metadata that the variables amount to. -/
def FieldState.toMeta (st : FieldState) (radiotapLen : ℕ) : RadiotapMeta where
  rtFlags := st.rtFlags
  selfInjected := st.selfInjected
  freq := st.freq
  antenna := st.antenna
  rssi := st.rssi
  noise := st.noise
  antCount := UInt8.ofNat st.antIdx
  mcsIndex := st.mcsIndex
  bandwidth := st.bandwidth
  radiotapLen := radiotapLen

/-! ### The chain -/

theorem announcedLength_le_iff {words : List ℕ} {n : ℕ} :
    announcedLength words ≤ n ↔ 4 + 4 * words.length ≤ n ∧ ∀ a ∈ headerArgs words, a.stop ≤ n := by
  unfold announcedLength
  induction headerArgs words with
  | nil => simp
  | cons a args ih =>
    rw [List.foldr_cons, max_le_iff, ih, List.forall_mem_cons]
    exact and_left_comm

/-- The words of a chain are bytes it starts with, and there is one. -/
theorem presentChain_length {bytes : Bytes} {words : List ℕ} (h : presentChain bytes = some words) :
    1 ≤ words.length ∧ 4 * words.length ≤ bytes.length := by
  fun_induction presentChain bytes generalizing words with
  | case1 =>
    rename_i hext ih
    obtain ⟨words', hwords', rfl⟩ := Option.map_eq_some_iff.1 h
    have := ih hwords'
    simp only [List.length_cons]
    omega
  | case2 =>
    rename_i hlast
    obtain rfl := Option.some.inj h
    simp only [List.length_cons, List.length_nil]
    omega
  | case3 => cases h

/-- **A chain is read off its own bytes**, whatever follows them. -/
theorem presentChain_take {bytes : Bytes} {words : List ℕ} (h : presentChain bytes = some words)
    {n : ℕ} (hn : 4 * words.length ≤ n) : presentChain (bytes.take n) = some words := by
  fun_induction presentChain bytes generalizing words n with
  | case1 =>
    rename_i hext ih
    obtain ⟨words', hwords', rfl⟩ := Option.map_eq_some_iff.1 h
    rw [List.length_cons] at hn
    obtain ⟨n, rfl⟩ := Nat.exists_eq_add_of_le' (show 4 ≤ n by omega)
    have hrest := ih hwords' (n := n) (by omega)
    simp only [List.take_succ_cons, presentChain, hrest]
    exact if_pos hext
  | case2 =>
    rename_i hlast
    obtain rfl := Option.some.inj h
    obtain ⟨n, rfl⟩ := Nat.exists_eq_add_of_le' (show 4 ≤ n from hn)
    simp only [List.take_succ_cons, presentChain]
    exact if_neg hlast
  | case3 => cases h

theorem presentChain_append {bytes : Bytes} {words : List ℕ} (h : presentChain bytes = some words)
    (tail : Bytes) : presentChain (bytes ++ tail) = some words := by
  fun_induction presentChain bytes generalizing words with
  | case1 =>
    rename_i hext ih
    obtain ⟨words', hwords', rfl⟩ := Option.map_eq_some_iff.1 h
    simp only [List.cons_append, presentChain, ih hwords']
    exact if_pos hext
  | case2 =>
    rename_i hlast
    obtain rfl := Option.some.inj h
    simp only [List.cons_append, presentChain]
    exact if_neg hlast
  | case3 => cases h

/-- The words that a part of the bytes chains are those of the whole. -/
theorem presentChain_of_take {bytes : Bytes} {words : List ℕ} {n : ℕ}
    (h : presentChain (bytes.take n) = some words) : presentChain bytes = some words := by
  rw [← List.take_append_drop n bytes]
  exact presentChain_append h _

theorem exists_four_bytes {b : Bytes} (h : 4 ≤ b.length) :
    ∃ b₀ b₁ b₂ b₃ rest, b = b₀ :: b₁ :: b₂ :: b₃ :: rest := by
  rcases b with _ | ⟨b₀, _ | ⟨b₁, _ | ⟨b₂, _ | ⟨b₃, rest⟩⟩⟩⟩
  iterate 4 simp at h
  exact ⟨b₀, b₁, b₂, b₃, rest, rfl⟩

/-- **The loop over the present words reads the chain.** -/
theorem presentWords_eq {pkt : Bytes} {fuel pOff : ℕ} {words : List ℕ} (hoff : pOff ≤ pkt.length)
    (hfuel : pkt.length < pOff + 4 * fuel) :
    presentWords pkt fuel pOff words =
      .ok ((presentChain (pkt.drop pOff)).map (words ++ ·)) := by
  induction fuel generalizing pOff words with
  | zero => omega
  | succ fuel ih =>
    unfold presentWords
    have hlen : (pkt.drop pOff).length = pkt.length - pOff := List.length_drop
    split
    · rename_i hshort
      rw [presentChain]
      · rfl
      · intro b₀ b₁ b₂ b₃ rest hbytes
        rw [hbytes] at hlen
        simp only [List.length_cons] at hlen
        omega
    · rename_i hroom
      obtain ⟨b₀, b₁, b₂, b₃, rest, hbytes⟩ := exists_four_bytes (b := pkt.drop pOff) (by omega)
      have hrest : pkt.drop (pOff + 4) = rest := by
        rw [← List.drop_drop, hbytes]
        rfl
      have hslice : slice pkt pOff (pOff + 4) = .ok [b₀, b₁, b₂, b₃] := by
        rw [slice_of_le (by omega) (by omega), hbytes, Nat.add_sub_cancel_left]
        rfl
      rw [hslice, ok_bind, leU32_of_length rfl, ok_bind, hbytes, presentChain]
      simp only [List.getD_cons_succ, List.getD_cons_zero]
      split
      · rw [ih (by omega) (by omega), hrest, Option.map_map]
        congr 2
        funext words'
        simp only [Function.comp_apply, List.append_assoc, List.singleton_append]
      · rfl

/-! ### The arguments -/

theorem alignUp_eq_alignTo (off align : ℕ) : alignUp off align = .ok (alignTo off align) := by
  unfold alignUp alignTo
  split
  · rfl
  · rw [sub_of_le (by omega), ok_bind]
    rfl

/-- A field that is present and has a layout: its argument is taken from where it is announced,
if it ends inside the packet. -/
theorem fieldLoop_present {pkt : Bytes} {words : List ℕ} {w align size remaining i : ℕ}
    {st : FieldState} (hword : index words (i / 32) = .ok w) (hset : ¬ w.testBit (i % 32) = false)
    (hant : st.antIdx < 4) (hlayout : fieldLayout i = some (align, size)) {a : ArgAt}
    (ha : a = ⟨i, alignTo st.curOff align, size⟩) :
    fieldLoop pkt words (remaining + 1) i st =
      if a.stop ≤ pkt.length then
        fieldLoop pkt words remaining (i + 1) ((st.take (a.read pkt)).atOff a.stop)
      else .ok none := by
  subst ha
  rw [fieldLoop, hword, ok_bind, if_neg fun h => hset ((bit_clear_iff _ _).1 h),
    if_neg (Nat.not_le.2 hant), hlayout]
  dsimp only
  rw [alignUp_eq_alignTo, ok_bind, ArgAt.stop]
  dsimp only
  by_cases hend : alignTo st.curOff align + size > pkt.length
  · rw [if_pos hend, if_neg (Nat.not_le.2 hend)]
    rfl
  · have hcut : slice pkt (alignTo st.curOff align) (alignTo st.curOff align + size) =
        .ok ((pkt.drop (alignTo st.curOff align)).take size) := by
      rw [slice_of_le (by omega) (by omega), Nat.add_sub_cancel_left]
    have hlen : ((pkt.drop (alignTo st.curOff align)).take size).length = size := by
      rw [List.length_take, List.length_drop]
      omega
    let f : RtField := ArgAt.read pkt ⟨i, alignTo st.curOff align, size⟩
    have hfits : fieldLayout f.index = some (align, f.arg.length) := by
      rw [show f.arg.length = size from hlen]
      exact hlayout
    have htake : takeField { st with curOff := alignTo st.curOff align }
        ((pkt.drop (alignTo st.curOff align)).take size) i =
          .ok ((st.atOff (alignTo st.curOff align)).take f) := takeField_eq hfits hant
    rw [if_neg hend, if_pos (Nat.not_lt.1 hend), hcut, ok_bind, htake, ok_bind]
    rfl

/-- **The loop over the fields takes the announced arguments**, or finds that one of them
ends behind the packet. -/
theorem fieldLoop_eq {pkt : Bytes} {words : List ℕ} {remaining field : ℕ} {st : FieldState}
    (hwords : field + remaining ≤ words.length * 32) :
    fieldLoop pkt words remaining field st =
      .ok (if ∀ a ∈ announced words remaining field st.antIdx st.curOff, a.stop ≤ pkt.length then
        some (st.takeAll pkt (announced words remaining field st.antIdx st.curOff)) else none) := by
  induction remaining generalizing field st with
  | zero =>
    rw [announced, if_pos (fun _ h => absurd h List.not_mem_nil)]
    rfl
  | succ remaining ih =>
    have hword : index words (field / 32) = .ok (words.getD (field / 32) 0) :=
      index_eq_getD (by omega) 0
    rw [announced]
    by_cases hclear : (words.getD (field / 32) 0).testBit (field % 32) = false
    · rw [if_pos hclear, fieldLoop_skip hword hclear]
      exact ih (by omega)
    rw [if_neg hclear]
    by_cases hfull : st.antIdx ≥ 4
    · rw [fieldLoop, hword, ok_bind, if_neg fun h => hclear ((bit_clear_iff _ _).1 h), if_pos hfull,
        if_pos hfull, if_pos (fun _ h => absurd h List.not_mem_nil)]
      rfl
    rw [if_neg hfull]
    cases hlayout : fieldLayout field with
    | none =>
      rw [fieldLoop, hword, ok_bind, if_neg fun h => hclear ((bit_clear_iff _ _).1 h),
        if_neg hfull, hlayout]
      dsimp only
      rw [if_pos (fun _ h => absurd h List.not_mem_nil)]
      rfl
    | some layout =>
      obtain ⟨align, size⟩ := layout
      dsimp only
      rw [fieldLoop_present hword hclear (Nat.not_le.1 hfull) hlayout rfl]
      let a : ArgAt := ⟨field, alignTo st.curOff align, size⟩
      by_cases hstop : a.stop ≤ pkt.length
      · rw [if_pos hstop]
        refine (@ih (field + 1) ((st.take (a.read pkt)).atOff a.stop) (by omega)).trans ?_
        refine congrArg Except.ok (if_congr ?_ rfl rfl)
        rw [List.forall_mem_cons, and_iff_right hstop]
        rfl
      · rw [if_neg hstop, if_neg fun h => hstop (h _ List.mem_cons_self)]

theorem slice_lengthField {pkt : Bytes} (h : 4 ≤ pkt.length) :
    slice pkt 2 4 = .ok [pkt.getD 2 0, pkt.getD 3 0] := by
  rw [slice_of_le (by omega) (by omega), List.drop_eq_getElem_cons (by omega),
    List.drop_eq_getElem_cons (by omega), List.getD_eq_getElem _ _ (by omega),
    List.getD_eq_getElem _ _ (by omega)]
  rfl

/-- **What is read of a header** of version 0 whose length and present words end inside the
packet. -/
theorem radiotapMetaFromPacket_of_chain {pkt : Bytes} {words : List ℕ} (hversion : pkt.getD 0 0 = 0)
    (hlong : declaredLength pkt ≤ pkt.length) (hchain : presentChain (pkt.drop 4) = some words) :
    radiotapMetaFromPacket pkt =
      .ok (if ∀ a ∈ headerArgs words, a.stop ≤ pkt.length then
        some ((({ curOff := 4 + 4 * words.length } : FieldState).takeAll pkt
          (headerArgs words)).toMeta (declaredLength pkt)) else none) := by
  obtain ⟨hone, hroom⟩ := presentChain_length hchain
  rw [List.length_drop] at hroom
  have hdeclared : leU16 [pkt.getD 2 0, pkt.getD 3 0] = .ok (declaredLength pkt) := rfl
  have hoff : 8 + 4 * (words.length - 1) = 4 + 4 * words.length := by omega
  have hloop : fieldLoop pkt words (words.length * 32) 0 { curOff := 4 + 4 * words.length } =
      .ok (if ∀ a ∈ headerArgs words, a.stop ≤ pkt.length then
        some (({ curOff := 4 + 4 * words.length } : FieldState).takeAll pkt (headerArgs words))
        else none) := fieldLoop_eq (by omega)
  rw [radiotapMetaFromPacket, if_neg (by omega), index_eq_getD (by omega) 0, ok_bind,
    if_neg (not_not.2 hversion), slice_lengthField (by omega), ok_bind, hdeclared, ok_bind,
    if_neg (Nat.not_lt.2 hlong), presentWords_eq (by omega) (by omega), hchain, ok_bind]
  dsimp only [Option.map_some, List.nil_append]
  rw [hoff, if_neg (by omega), hloop, ok_bind]
  by_cases hargs : ∀ a ∈ headerArgs words, a.stop ≤ pkt.length
  · rw [if_pos hargs, if_pos hargs]
    rfl
  · rw [if_neg hargs, if_neg hargs]
    rfl

/-- A packet that is accepted has version 0, and its length and its present words end inside. -/
theorem chain_of_radiotapMetaFromPacket {pkt : Bytes} {m : RadiotapMeta}
    (h : radiotapMetaFromPacket pkt = .ok (some m)) :
    pkt.getD 0 0 = 0 ∧ declaredLength pkt ≤ pkt.length ∧
      ∃ words, presentChain (pkt.drop 4) = some words := by
  have hdeclared : leU16 [pkt.getD 2 0, pkt.getD 3 0] = .ok (declaredLength pkt) := rfl
  rw [radiotapMetaFromPacket] at h
  by_cases hshort : pkt.length < 8
  · rw [if_pos hshort] at h
    cases Except.ok.inj h
  rw [if_neg hshort, index_eq_getD (by omega) 0, ok_bind] at h
  by_cases hversion : pkt.getD 0 0 = 0
  · rw [if_neg (not_not.2 hversion), slice_lengthField (by omega), ok_bind, hdeclared, ok_bind] at h
    by_cases hlong : declaredLength pkt > pkt.length
    · rw [if_pos hlong] at h
      cases Except.ok.inj h
    rw [if_neg hlong, presentWords_eq (by omega) (by omega), ok_bind] at h
    refine ⟨hversion, Nat.not_lt.1 hlong, ?_⟩
    cases hchain : presentChain (pkt.drop 4) with
    | none =>
      rw [hchain] at h
      cases Except.ok.inj h
    | some words => exact ⟨words, rfl⟩
  · rw [if_pos hversion] at h
    cases Except.ok.inj h

/-- **What is accepted**: a version 0 header whose declared length, present words and arguments
end inside the packet. -/
theorem radiotapMetaFromPacket_eq_some_iff {pkt : Bytes} {m : RadiotapMeta} :
    radiotapMetaFromPacket pkt = .ok (some m) ↔
      pkt.getD 0 0 = 0 ∧ declaredLength pkt ≤ pkt.length ∧
        ∃ words, presentChain (pkt.drop 4) = some words ∧ announcedLength words ≤ pkt.length ∧
          m = (({ curOff := 4 + 4 * words.length } : FieldState).takeAll pkt
            (headerArgs words)).toMeta (declaredLength pkt) := by
  constructor
  · intro h
    obtain ⟨hversion, hlong, words, hchain⟩ := chain_of_radiotapMetaFromPacket h
    have hroom := (presentChain_length hchain).2
    rw [List.length_drop] at hroom
    rw [radiotapMetaFromPacket_of_chain hversion hlong hchain] at h
    by_cases hargs : ∀ a ∈ headerArgs words, a.stop ≤ pkt.length
    · rw [if_pos hargs] at h
      have hone := (presentChain_length hchain).1
      exact ⟨hversion, hlong, words, hchain, announcedLength_le_iff.2 ⟨by omega, hargs⟩,
        (Option.some.inj (Except.ok.inj h)).symm⟩
    · rw [if_neg hargs] at h
      cases Except.ok.inj h
  · rintro ⟨hversion, hlong, words, hchain, hle, rfl⟩
    rw [radiotapMetaFromPacket_of_chain hversion hlong hchain,
      if_pos (announcedLength_le_iff.1 hle).2]

/-! ### The header and the frame behind it -/

/-- An argument that ends inside the first `n` bytes is read off these bytes. -/
theorem ArgAt.read_take {pkt : Bytes} {a : ArgAt} {n : ℕ} (h : a.stop ≤ n) :
    a.read (pkt.take n) = a.read pkt := by
  have hsize : a.size ≤ n - a.off := by
    unfold ArgAt.stop at h
    omega
  rw [ArgAt.read, ArgAt.read, List.drop_take, List.take_take, Nat.min_eq_left hsize]

theorem FieldState.takeAll_take {pkt : Bytes} {args : List ArgAt} {n : ℕ}
    (h : ∀ a ∈ args, a.stop ≤ n) (st : FieldState) :
    st.takeAll (pkt.take n) args = st.takeAll pkt args :=
  List.foldl_ext _ _ _ fun st a ha => by rw [ArgAt.read_take (h a ha)]

theorem declaredLength_take {pkt : Bytes} {n : ℕ} (hn : 4 ≤ n) :
    declaredLength (pkt.take n) = declaredLength pkt := by
  simp only [declaredLength, List.getD_eq_getElem?_getD, List.getElem?_take,
    if_pos (show 3 < n from hn), if_pos (show 2 < n by omega)]

/-- The declared length of the header is at least what its present words announce. -/
def HeaderCovers (pkt : Bytes) : Prop :=
  ∃ words, presentChain (pkt.drop 4) = some words ∧ announcedLength words ≤ declaredLength pkt

/-- Every packet with the same declared length and the same bytes up to it is parsed to the
same result. -/
def MetadataFromHeader (pkt : Bytes) : Prop :=
  ∀ pkt' : Bytes, 4 ≤ pkt'.length → declaredLength pkt' = declaredLength pkt →
    declaredLength pkt ≤ pkt'.length →
    pkt'.take (declaredLength pkt) = pkt.take (declaredLength pkt) →
      radiotapMetaFromPacket pkt' = radiotapMetaFromPacket pkt

section

variable {pkt pkt' : Bytes} {m : RadiotapMeta}

/-- **A packet with the same header is parsed to the same result.** -/
theorem HeaderCovers.metadataFromHeader (h : HeaderCovers pkt)
    (haccept : radiotapMetaFromPacket pkt = .ok (some m)) : MetadataFromHeader pkt := by
  intro pkt' hlen hdeclared hroom hsame
  obtain ⟨words, hchain, hcover⟩ := h
  obtain ⟨hversion, hle, words', hchain', hend, rfl⟩ :=
    radiotapMetaFromPacket_eq_some_iff.1 haccept
  obtain rfl := Option.some.inj (hchain.symm.trans hchain')
  obtain ⟨hwords, hargs⟩ := announcedLength_le_iff.1 hcover
  obtain ⟨hone, -⟩ := presentChain_length hchain
  have hfirst : pkt'.getD 0 0 = pkt.getD 0 0 := by
    have htake := congrArg (·.getD 0 0) hsame
    simpa only [List.getD_eq_getElem?_getD, List.getElem?_take,
      if_pos (show 0 < declaredLength pkt by omega)] using htake
  have hchain₁ : presentChain (pkt'.drop 4) = some words := by
    refine presentChain_of_take (n := declaredLength pkt - 4) ?_
    rw [← List.drop_take, hsame, List.drop_take]
    exact presentChain_take hchain (by omega)
  rw [haccept]
  refine radiotapMetaFromPacket_eq_some_iff.2
    ⟨hfirst.trans hversion, hdeclared.symm ▸ hroom, words, hchain₁, hcover.trans hroom, ?_⟩
  rw [hdeclared, ← FieldState.takeAll_take hargs, ← hsame, FieldState.takeAll_take hargs]

/-- **Without room in the header the bytes behind it matter**: cut off at its declared length
the packet is no longer accepted. -/
theorem headerCovers_of_metadataFromHeader (h : MetadataFromHeader pkt)
    (haccept : radiotapMetaFromPacket pkt = .ok (some m)) : HeaderCovers pkt := by
  obtain ⟨hversion, hle, words, hchain, hend, -⟩ := radiotapMetaFromPacket_eq_some_iff.1 haccept
  obtain ⟨hone, hchainRoom⟩ := presentChain_length hchain
  rw [List.length_drop] at hchainRoom
  -- At least the length field stays.
  have hcut := h (pkt.take (max (declaredLength pkt) 4))
    (by rw [List.length_take]; omega) (declaredLength_take (Nat.le_max_right ..))
    (by rw [List.length_take]; omega)
    (by rw [List.take_take, Nat.min_eq_left (Nat.le_max_left ..)])
  obtain ⟨-, -, words', hchain', hend', -⟩ :=
    radiotapMetaFromPacket_eq_some_iff.1 (hcut.trans haccept)
  rw [List.drop_take] at hchain'
  obtain rfl := Option.some.inj (hchain.symm.trans (presentChain_of_take hchain'))
  have hlen := hend'.trans (List.length_take_le _ _)
  have hwords := (announcedLength_le_iff.1 hlen).1
  exact ⟨words, hchain, by omega⟩

end

/-- **The metadata of an accepted packet comes from its header** exactly when the header is
declared at least as long as its present words and the arguments they announce. -/
theorem metadata_from_header_iff {pkt : Bytes} {m : RadiotapMeta}
    (h : radiotapMetaFromPacket pkt = .ok (some m)) : MetadataFromHeader pkt ↔ HeaderCovers pkt :=
  ⟨fun hsame => headerCovers_of_metadataFromHeader hsame h, fun hcover => hcover.metadataFromHeader h⟩

/-- A packet whose header has the flags field only, with a declared length. -/
def flagsPacket (length flags : UInt8) : Bytes := [0, 0, length, 0, 2, 0, 0, 0, flags]

theorem presentChain_flags (length flags : UInt8) :
    presentChain ((flagsPacket length flags).drop 4) = some [2] := by
  have hword : ofBE [0, 0, 0, 2] = 2 := rfl
  have hlast : ¬ 2 &&& 0x80000000 ≠ 0 := by decide
  rw [flagsPacket, List.drop_succ_cons, List.drop_succ_cons, List.drop_succ_cons,
    List.drop_succ_cons, List.drop_zero, presentChain, hword]
  exact if_neg hlast

theorem headerArgs_flags : headerArgs [2] = [⟨rtapFlags, 8, 1⟩] := by decide +kernel

/-- The byte behind the present word is taken for the flags. -/
theorem flagsPacket_accepted {length : UInt8} (hlength : declaredLength (flagsPacket length 0) ≤ 9)
    (flags : UInt8) :
    ∃ m, radiotapMetaFromPacket (flagsPacket length flags) = .ok (some m) ∧ m.rtFlags = flags := by
  refine ⟨_, radiotapMetaFromPacket_eq_some_iff.2
    ⟨rfl, hlength, [2], presentChain_flags length flags, ?_, rfl⟩, ?_⟩
  · rw [announcedLength, headerArgs_flags]
    exact le_refl 9
  · rw [headerArgs_flags]
    rfl

/-- A header with its flags inside. -/
theorem metadata_from_header_flags :
    ∃ m, radiotapMetaFromPacket (flagsPacket 9 0x10) = .ok (some m) ∧ m.rtFlags = rtapFFcs ∧
      MetadataFromHeader (flagsPacket 9 0x10) := by
  obtain ⟨m, haccept, hflags⟩ := @flagsPacket_accepted 9 (by decide) 0x10
  have hcover : HeaderCovers (flagsPacket 9 0x10) := by
    refine ⟨[2], presentChain_flags 9 0x10, ?_⟩
    rw [announcedLength, headerArgs_flags]
    decide
  exact ⟨m, haccept, hflags, (metadata_from_header_iff haccept).2 hcover⟩

/-- **A byte of the frame read as flags**: the header ends before the flags it announces, and
the byte behind it says that the frame has a check sequence, or that it has none. -/
theorem frame_byte_read_as_flags :
    ∃ m m', radiotapMetaFromPacket (flagsPacket 8 0x10) = .ok (some m) ∧
      radiotapMetaFromPacket (flagsPacket 8 0) = .ok (some m') ∧
      m.rtFlags = rtapFFcs ∧ m'.rtFlags = 0 ∧ ¬ MetadataFromHeader (flagsPacket 8 0x10) := by
  obtain ⟨m, haccept, hflags⟩ := @flagsPacket_accepted 8 (by decide) 0x10
  obtain ⟨m', haccept', hflags'⟩ := @flagsPacket_accepted 8 (by decide) 0
  refine ⟨m, m', haccept, haccept', hflags, hflags', fun h => ?_⟩
  have hsame := h (flagsPacket 8 0) (by decide) rfl (by decide) rfl
  rw [haccept, haccept'] at hsame
  have hmeta := Option.some.inj (Except.ok.inj hsame)
  rw [← hmeta, hflags'] at hflags
  exact absurd hflags (by decide)

end KovaWfb
