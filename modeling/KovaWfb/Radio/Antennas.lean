/-
# Headers with several antennas

A capture on several antennas chains present words: each but the last has bit 29, after which
the field numbers start again at 0, and bit 31, and every word after the first brings the
signal, maybe the noise, and the number of one more antenna (`ChainedHeader`).

`radiotap_meta_from_packet` of `src/rx.rs` (142 to 237) counts the bits of all words through
instead, and ends at bit 29, for which `field_layout` has nothing.  So it never sees a second
antenna (`antCount_le_one`), and reports the antennas of a header exactly when there is a
single present word (`reports_antennas_iff`).
-/

import KovaWfb.Radio.HeaderExtent

namespace KovaWfb

open BigEndian Rust

/-! ### A header with a chain of words -/

/-- A later word of the chain: the signal, the noise if there is one, and the antenna. -/
structure AntennaWord where
  signal : UInt8
  noise : Option UInt8
  antenna : UInt8

/-- The fields of the word, which need no padding. -/
def AntennaWord.fields (w : AntennaWord) : List RtField :=
  ⟨rtapDbmAntsignal, [], [w.signal]⟩ ::
    ((w.noise.map fun b => ⟨rtapDbmAntnoise, [], [b]⟩).toList ++ [⟨rtapAntenna, [], [w.antenna]⟩])

/-- Present words: bit 29 keeps the namespace and bit 31 says that another word follows. -/
def chainBytes : List (List RtField) → Bytes
  | [] => []
  | [fields] => (toBE 4 (presentWord fields)).reverse
  | fields :: next :: more =>
    (toBE 4 (presentWord fields ||| 0xa0000000)).reverse ++ chainBytes (next :: more)

/-- A radiotap header with any fields in its first word and an antenna in each later one. -/
structure ChainedHeader where
  pad : UInt8
  fields : List RtField
  later : List AntennaWord
  laid : Laid (8 + 4 * later.length) 0 fields
  length_lt : 8 + 4 * later.length +
    ((fields ++ later.flatMap AntennaWord.fields).flatMap RtField.bytes).length < 2 ^ 16

namespace ChainedHeader

/-- The fields of all words, in the order of their arguments. -/
def allFields (h : ChainedHeader) : List RtField := h.fields ++ h.later.flatMap AntennaWord.fields

/-- `it_len`. -/
def length (h : ChainedHeader) : ℕ :=
  8 + 4 * h.later.length + (h.allFields.flatMap RtField.bytes).length

/-- The header's bytes; the numbers are little-endian. -/
def bytes (h : ChainedHeader) : Bytes :=
  [0, h.pad] ++ ((toBE 2 h.length).reverse ++
    (chainBytes (h.fields :: h.later.map AntennaWord.fields) ++ h.allFields.flatMap RtField.bytes))

end ChainedHeader

/-- An antenna, and the signal and the noise that most recently preceded it. -/
structure AntennaReading where
  antenna : UInt8
  signal : Option UInt8
  noise : Option UInt8
  deriving DecidableEq, Repr

/-- The antennas that fields bring, with the signal and the noise seen last. -/
def readings : Option UInt8 → Option UInt8 → List RtField → List AntennaReading
  | _, _, [] => []
  | signal, noise, f :: fields =>
    if f.index = rtapDbmAntsignal then readings (some (f.arg.getD 0 0)) noise fields
    else if f.index = rtapDbmAntnoise then readings signal (some (f.arg.getD 0 0)) fields
    else if f.index = rtapAntenna then
      ⟨f.arg.getD 0 0, signal, noise⟩ :: readings signal noise fields
    else readings signal noise fields

/-- The slot of the metadata holds the reading. -/
structure RadiotapMeta.Slot (m : RadiotapMeta) (i : Fin 4) (r : AntennaReading) : Prop where
  antenna : m.antenna[i] = r.antenna
  signal : ∀ b, r.signal = some b → m.rssi[i] = b.toInt8
  noise : ∀ b, r.noise = some b → m.noise[i] = b.toInt8

/-- The parser reports the readings: the first four of them, each in its slot. -/
def ReportsAntennas (pkt : Bytes) (antennas : List AntennaReading) : Prop :=
  ∃ m, radiotapMetaFromPacket pkt = .ok (some m) ∧
    m.antCount.toNat = min 4 antennas.length ∧
    ∀ (i : Fin 4) r, antennas[i.val]? = some r → m.Slot i r

/-! ### What the parser counts -/

theorem announced_field_ge {words : List ℕ} {remaining field antennas off : ℕ} :
    ∀ a ∈ announced words remaining field antennas off, field ≤ a.field ∧ a.field ≤ 22 ∧
      (words.getD (a.field / 32) 0).testBit (a.field % 32) = true := by
  induction remaining generalizing field antennas off with
  | zero => exact fun _ h => absurd h List.not_mem_nil
  | succ remaining ih =>
    intro a ha
    rw [announced] at ha
    split at ha
    · obtain ⟨hge, hrest⟩ := ih a ha
      exact ⟨by omega, hrest⟩
    · rename_i hset
      split at ha
      · cases ha
      · split at ha
        · cases ha
        · rename_i hlayout
          rcases List.mem_cons.1 ha with rfl | ha
          · exact ⟨le_rfl, (fieldLayout_bounds hlayout).1, by simpa using hset⟩
          · obtain ⟨hge, hrest⟩ := ih a ha
            exact ⟨by omega, hrest⟩

/-- **The arguments announced have increasing fields**: no number starts again. -/
theorem announced_pairwise {words : List ℕ} {remaining field antennas off : ℕ} :
    (announced words remaining field antennas off).Pairwise (·.field < ·.field) := by
  induction remaining generalizing field antennas off with
  | zero => exact .nil
  | succ remaining ih =>
    rw [announced]
    split
    · exact ih
    · split
      · exact .nil
      · split
        · exact .nil
        · exact .cons (fun a ha => (announced_field_ge a ha).1) ih

theorem FieldState.takeAll_antIdx {pkt : Bytes} {args : List ArgAt} (st : FieldState) :
    (st.takeAll pkt args).antIdx = st.antIdx + args.countP (·.field = rtapAntenna) := by
  induction args generalizing st with
  | nil => rfl
  | cons a args ih =>
    refine (ih ((st.take (a.read pkt)).atOff a.stop)).trans ?_
    have htake : ((st.take (a.read pkt)).atOff a.stop).antIdx =
        if a.field = rtapAntenna then st.antIdx + 1 else st.antIdx := rfl
    rw [htake, List.countP_cons]
    simp only [decide_eq_true_eq]
    split <;> omega

/-- The antenna bit of the first word is the only one that counts. -/
theorem countP_headerArgs_le (words : List ℕ) :
    (headerArgs words).countP (·.field = rtapAntenna) ≤
      if (words.getD 0 0).testBit rtapAntenna then 1 else 0 := by
  rw [List.countP_eq_length_filter]
  have hmem : ∀ a ∈ (headerArgs words).filter (·.field = rtapAntenna), a.field = rtapAntenna ∧
      (words.getD 0 0).testBit rtapAntenna = true := by
    intro a ha
    obtain ⟨ha, hfield⟩ := List.mem_filter.1 ha
    have hfield := of_decide_eq_true hfield
    have hset := (announced_field_ge a ha).2.2
    rw [hfield] at hset
    exact ⟨hfield, hset⟩
  have hpair := (show (headerArgs words).Pairwise _ from announced_pairwise).filter
    (·.field = rtapAntenna)
  generalize (headerArgs words).filter (·.field = rtapAntenna) = args at hmem hpair ⊢
  rcases args with _ | ⟨a, _ | ⟨b, args⟩⟩
  · exact Nat.zero_le _
  · rw [if_pos (hmem a List.mem_cons_self).2]
    exact le_rfl
  · have hlt := (List.pairwise_cons.1 hpair).1 b List.mem_cons_self
    rw [(hmem a List.mem_cons_self).1,
      (hmem b (List.mem_cons_of_mem _ List.mem_cons_self)).1] at hlt
    exact absurd hlt (Nat.lt_irrefl _)

/-- **One antenna at most** is ever reported, and only when the first word has its bit. -/
theorem antCount_le_one {pkt : Bytes} {m : RadiotapMeta} {words : List ℕ}
    (hchain : presentChain (pkt.drop 4) = some words)
    (h : radiotapMetaFromPacket pkt = .ok (some m)) :
    m.antCount.toNat ≤ if (words.getD 0 0).testBit rtapAntenna then 1 else 0 := by
  obtain ⟨-, -, words', hchain', -, rfl⟩ := radiotapMetaFromPacket_eq_some_iff.1 h
  obtain rfl := Option.some.inj (hchain.symm.trans hchain')
  have hcount := countP_headerArgs_le words
  refine le_trans ?_ hcount
  rw [FieldState.toMeta, FieldState.takeAll_antIdx, Nat.zero_add, UInt8.toNat_ofNat']
  exact Nat.mod_le _ _

/-! ### What a header brings -/

theorem length_readings (signal noise : Option UInt8) (fields : List RtField) :
    (readings signal noise fields).length = fields.countP (·.index = rtapAntenna) := by
  induction fields generalizing signal noise with
  | nil => rfl
  | cons f fields ih =>
    rw [readings, List.countP_cons]
    simp only [decide_eq_true_eq]
    split
    · rename_i hsignal
      rw [ih, if_neg (by rw [hsignal]; decide), Nat.add_zero]
    · split
      · rename_i hnoise
        rw [ih, if_neg (by rw [hnoise]; decide), Nat.add_zero]
      · split
        · rw [List.length_cons, ih]
        · exact ih _ _

theorem AntennaWord.countP_fields (w : AntennaWord) :
    w.fields.countP (·.index = rtapAntenna) = 1 := by
  obtain ⟨signal, noise, antenna⟩ := w
  cases noise <;> rfl

/-- Each later word brings one more antenna. -/
theorem ChainedHeader.length_readings (h : ChainedHeader) :
    (readings none none h.allFields).length =
      h.fields.countP (·.index = rtapAntenna) + h.later.length := by
  rw [KovaWfb.length_readings, allFields, List.countP_append, List.countP_flatMap]
  congr 1
  rw [List.map_congr_left fun w _ => w.countP_fields, List.map_const', List.sum_replicate_nat,
    mul_one]

/-- **The readings of one word**: the antenna with the signal and the noise, if there is one. -/
theorem readings_laid {off least : ℕ} {fields : List RtField} (h : Laid off least fields)
    (signal noise : Option UInt8) :
    readings signal noise fields =
      ((fields.find? (·.index = rtapAntenna)).map fun f => ⟨f.arg.getD 0 0,
        ((fields.find? (·.index = rtapDbmAntsignal)).map (·.arg.getD 0 0)).or signal,
        ((fields.find? (·.index = rtapDbmAntnoise)).map (·.arg.getD 0 0)).or noise⟩).toList := by
  induction h generalizing signal noise with
  | nil => rfl
  | @cons _ _ _ _ f fields _ _ _ _ _ hrest ih =>
    -- A field with this index or a smaller one does not come again.
    have hgone : ∀ i, i ≤ f.index → fields.find? (·.index = i) = none := by
      intro i hi
      refine List.find?_eq_none.2 fun g hg => ?_
      have := (hrest.index_ge g hg).1
      simp only [decide_eq_true_eq]
      omega
    rw [readings, List.find?_cons, List.find?_cons, List.find?_cons]
    by_cases hsignal : f.index = rtapDbmAntsignal
    · simp [hsignal, ih, hgone]
    · by_cases hnoise : f.index = rtapDbmAntnoise
      · simp [hnoise, ih, hgone]
      · by_cases hantenna : f.index = rtapAntenna
        · have hsignalGone := hgone rtapDbmAntsignal (by rw [hantenna]; decide)
          have hnoiseGone := hgone rtapDbmAntnoise (by rw [hantenna]; decide)
          simp [hantenna, ih, hgone, hsignalGone, hnoiseGone]
        · simp [hsignal, hnoise, hantenna, ih]

/-! ### One word, and several -/

/-- The first of the bytes of a chain of present words. -/
theorem presentChain_word {v : ℕ} (hv : v < 256 ^ 4) (more : Bytes) :
    presentChain ((toBE 4 v).reverse ++ more) =
      if v &&& 0x80000000 ≠ 0 then (presentChain more).map ((v &&& 0x7fffffff) :: ·)
      else some [v &&& 0x7fffffff] := by
  conv_rhs => rw [← ofBE_toBE_of_lt hv]
  rfl

namespace ChainedHeader

variable {h : ChainedHeader} {rest : Bytes}

/-- The first word of the chain: the bits of its fields, and bits 29 and 31 or none. -/
theorem chainBytes_cons (fields : List RtField) (more : List (List RtField)) :
    ∃ ext tail, (ext = 0 ∨ ext = 0xa0000000) ∧
      chainBytes (fields :: more) = (toBE 4 (presentWord fields ||| ext)).reverse ++ tail := by
  cases more with
  | nil => exact ⟨0, [], Or.inl rfl, by rw [List.append_nil, Nat.or_zero]; rfl⟩
  | cons next more => exact ⟨_, _, Or.inr rfl, rfl⟩

/-- The bit of the antenna in the first word. -/
theorem testBit_first {words : List ℕ}
    (hchain : presentChain ((h.bytes ++ rest).drop 4) = some words) :
    (words.getD 0 0).testBit rtapAntenna = h.fields.any (·.index = rtapAntenna) := by
  obtain ⟨ext, tail, hext, hchainBytes⟩ :=
    chainBytes_cons h.fields (h.later.map AntennaWord.fields)
  have hdrop : (h.bytes ++ rest).drop 4 =
      chainBytes (h.fields :: h.later.map AntennaWord.fields) ++
        (h.allFields.flatMap RtField.bytes ++ rest) := by
    rw [← List.append_assoc]
    rfl
  have hword : presentWord h.fields ||| ext < 256 ^ 4 := by
    refine Nat.or_lt_two_pow (n := 32) (h.laid.presentWord_lt.trans (by decide)) ?_
    rcases hext with rfl | rfl <;> decide
  have hbit : ((presentWord h.fields ||| ext) &&& 0x7fffffff).testBit rtapAntenna =
      h.fields.any (·.index = rtapAntenna) := by
    have hclear : ext.testBit rtapAntenna = false := by rcases hext with rfl | rfl <;> decide
    rw [Nat.testBit_and, Nat.testBit_or, testBit_presentWord, hclear, Bool.or_false]
    exact Bool.and_true _
  rw [hdrop, hchainBytes, List.append_assoc, presentChain_word hword] at hchain
  split at hchain
  · obtain ⟨words', -, rfl⟩ := Option.map_eq_some_iff.1 hchain
    exact hbit
  · obtain rfl := Option.some.inj hchain
    exact hbit

/-- **Several words are not read**: the second antenna is missing. -/
theorem not_reportsAntennas (hlater : h.later ≠ []) :
    ¬ ReportsAntennas (h.bytes ++ rest) (readings none none h.allFields) := by
  rintro ⟨m, haccept, hcount, -⟩
  obtain ⟨-, -, words, hchain, -⟩ := radiotapMetaFromPacket_eq_some_iff.1 haccept
  have hone := antCount_le_one hchain haccept
  have hpos := List.length_pos_iff.2 hlater
  rw [testBit_first hchain, hcount, length_readings] at hone
  have hfirst : (if h.fields.any (·.index = rtapAntenna) = true then 1 else 0) ≤
      h.fields.countP (·.index = rtapAntenna) := by
    split
    · rename_i hany
      obtain ⟨f, hf, hindex⟩ := List.any_eq_true.1 hany
      exact List.countP_pos_iff.2 ⟨f, hf, hindex⟩
    · exact Nat.zero_le _
  have hle : (if h.fields.any (·.index = rtapAntenna) = true then 1 else 0) ≤ 1 := by split <;> decide
  omega

/-- The header with one word. -/
def single (h : ChainedHeader) (hlater : h.later = []) : RtHeader where
  pad := h.pad
  fields := h.fields
  laid := by
    have hlaid := h.laid
    rw [hlater] at hlaid
    exact hlaid

theorem bytes_single (hlater : h.later = []) : h.bytes = (h.single hlater).bytes := by
  have hall : h.allFields = h.fields := by
    rw [allFields, hlater, List.flatMap_nil, List.append_nil]
  have hlength : h.length = (h.single hlater).length := by
    rw [length, hall, hlater]
    rfl
  rw [bytes, hall, hlength, hlater]
  rfl

/-- **A single word is read as it was written.** -/
theorem reportsAntennas (hlater : h.later = []) :
    ReportsAntennas (h.bytes ++ rest) (readings none none h.allFields) := by
  refine ⟨(h.single hlater).rtMeta, ?_, ?_⟩
  · rw [bytes_single hlater]
    exact (h.single hlater).radiotapMetaFromPacket_bytes rest
  have hall : h.allFields = (h.single hlater).fields := by
    rw [allFields, hlater, List.flatMap_nil, List.append_nil]
    rfl
  rw [hall, readings_laid (h.single hlater).laid]
  generalize h.single hlater = h'
  simp only [Option.or_none]
  cases hantenna : h'.fields.find? (·.index = rtapAntenna) with
  | none =>
    refine ⟨?_, fun i r hr => by cases hr⟩
    simp [RtHeader.rtMeta, RtHeader.arg, hantenna]
  | some f =>
    constructor
    · simp [RtHeader.rtMeta, RtHeader.arg, hantenna]
    · rintro ⟨_ | i, hi⟩ r hr
      · obtain rfl := Option.some.inj hr
        constructor
        · simp [RtHeader.rtMeta, RtHeader.arg, hantenna]
        · intro b hb
          obtain ⟨g, hg, rfl⟩ := Option.map_eq_some_iff.1 hb
          simp [RtHeader.rtMeta, RtHeader.arg, hg]
        · intro b hb
          obtain ⟨g, hg, rfl⟩ := Option.map_eq_some_iff.1 hb
          simp [RtHeader.rtMeta, RtHeader.arg, hg]
      · cases hr

end ChainedHeader

/-- **The antennas of a header are reported**, the first four in their slots, exactly when the
header has a single present word. -/
theorem reports_antennas_iff (h : ChainedHeader) (rest : Bytes) :
    ReportsAntennas (h.bytes ++ rest) (readings none none h.allFields) ↔ h.later = [] :=
  ⟨fun hreports => by_contra fun hlater => ChainedHeader.not_reportsAntennas hlater hreports,
    ChainedHeader.reportsAntennas⟩

/-- A signal and an antenna in the first word. -/
def signalAntenna : List RtField :=
  [⟨rtapDbmAntsignal, [], [0xd6]⟩, ⟨rtapAntenna, [], [0]⟩]

theorem laid_signalAntenna : Laid 12 0 signalAntenna :=
  .cons (Nat.zero_le _) rfl (by decide) (by decide) rfl
    (.cons (by decide) rfl (by decide) (by decide) rfl (.nil _ _))

theorem length_signalAntenna : 8 + 4 * [AntennaWord.mk 0xcc none 1].length +
    ((signalAntenna ++ [AntennaWord.mk 0xcc none 1].flatMap AntennaWord.fields).flatMap
      RtField.bytes).length < 2 ^ 16 := by
  decide

/-- A header with two antennas. -/
def twoAntennas : ChainedHeader where
  pad := 0
  fields := signalAntenna
  later := [AntennaWord.mk 0xcc none 1]
  laid := laid_signalAntenna
  length_lt := length_signalAntenna

/-- **The second antenna of a header is missed.** -/
theorem second_antenna_missed :
    readings none none twoAntennas.allFields = [⟨0, some 0xd6, none⟩, ⟨1, some 0xcc, none⟩] ∧
      ¬ ReportsAntennas (twoAntennas.bytes ++ []) (readings none none twoAntennas.allFields) :=
  ⟨rfl, ChainedHeader.not_reportsAntennas (List.cons_ne_nil _ _)⟩

end KovaWfb
