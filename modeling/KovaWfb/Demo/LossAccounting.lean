/-
# What the dashboard counts as lost and as repeated

`ingest_observation` of `demo/dashboard_server.py` (466 to 471) keeps one `last_seq` for each
node, sets it on every arrival and counts from it: a number that comes again at once as a
duplicate, and the numbers between it and a larger one as lost.  So after any arrivals the
counts are those of the steps between neighbours (`account_runArrivals`), in which the
`app_seq` of a direct frame and the `origin_seq` of a routed one are the same kind of number.

`loss_accounting_sound_iff` says for which arrivals these counts are sound.
-/

import KovaWfb.Demo.Observation
import KovaWfb.Lib.Steps

namespace KovaWfb

open Steps

/-! ### The account of a node -/

/-- What is counted of a node. -/
structure Account where
  lost : ℤ
  duplicates : ℤ
  last : Option ℤ
  deriving DecidableEq, Repr

/-- A node that was never heard. -/
def Account.empty : Account := ⟨0, 0, none⟩

/-- One more number. -/
def Account.count (acc : Account) (seq : ℤ) : Account where
  lost := acc.lost + after acc.last seq
  duplicates := acc.duplicates + if acc.last = some seq then 1 else 0
  last := some seq

def NodeRecord.account (node : NodeRecord) : Account :=
  ⟨node.lostPackets, node.duplicatePackets, node.lastSeq⟩

/-- The account of a node, also before there is a record of it. -/
def MeshState.account (s : MeshState) (nodeId : ℤ) : Account :=
  ((s.nodes.lookup nodeId).map NodeRecord.account).getD .empty

theorem NodeRecord.account_countSeq (node : NodeRecord) (seq : ℤ) :
    (node.countSeq (some seq)).account = node.account.count seq := by
  unfold countSeq account Account.count
  cases hlast : node.lastSeq with
  | none => simp [after]
  | some last =>
    by_cases hsame : last = seq
    · simp [hsame, after, between]
    · by_cases hahead : seq > last + 1
      · simp [hsame, hahead, after, between]
        omega
      · simp [hsame, hahead, after, between]
        omega

theorem NodeRecord.account_setBattery (node : NodeRecord) (battery : Option ℤ) :
    (node.setBattery battery).account = node.account := by
  cases battery <;> rfl

/-- All assignments of an observation count its number. -/
theorem NodeRecord.account_observed {obs : Observation} {seq : ℤ} (hseq : obs.seq = some seq)
    (status : Status) (now : ℚ) (x y : Option JsonFloat) (battery : Option ℤ) (node : NodeRecord) :
    (NodeRecord.observed obs status now x y battery node).account = node.account.count seq := by
  rw [observed, hseq, account_countSeq, account_setBattery]
  rfl

/-- The account is that of the record that `_ensure_node_locked` returns. -/
theorem MeshState.account_eq (s : MeshState) (nodeId : ℤ) :
    s.account nodeId = (s.node nodeId).account := by
  rw [account, node]
  cases s.nodes.lookup nodeId <;> rfl

variable {reader : StatusReader} {now ts : ℚ} {obs : Observation} {s : MeshState}

/-- **An observation counts its number for its node**, and nothing for the others. -/
theorem account_ingestObservation {status : Status} {seq : ℤ}
    (hstatus : reader obs.payload = .ok status) (hreadable : status.Readable)
    (hseq : obs.seq = some seq) :
    ∃ s', ingestObservation reader now ts obs s = .ok () s' ∧
      ∀ o, s'.account o = if o = obs.originId then (s.account o).count seq else s.account o := by
  obtain ⟨⟨x, hx⟩, ⟨y, hy⟩, battery, hbattery⟩ := hreadable
  refine ⟨_, ingestObservation_of_readable hstatus hx hy hbattery, fun o => ?_⟩
  have hobserved := @MeshState.observed_record s now ts obs
    (status.message.getD obs.messageType) (NodeRecord.observed obs status now x y battery)
  rw [MeshState.account_eq, MeshState.account_eq]
  by_cases ho : o = obs.originId
  · rw [if_pos ho, ho, MeshState.node_of_lookup hobserved.node, NodeRecord.account_observed hseq]
  · rw [if_neg ho, hobserved.others o ho]

/-! ### Arrivals -/

/-- A frame that arrives: whether it is a `route_data` frame or a `route_v2` frame, its number,
and the arguments of its call. -/
structure Arrival where
  routed : Bool
  seq : ℤ
  payload : Bytes
  metadata : WfbRxMeta
  now : ℚ
  ts : ℚ

/-- Its call of `process_radio_payload`. -/
def Arrival.run (reader : StatusReader) (a : Arrival) : PyM MeshState Unit :=
  processRadioPayload reader a.now a.ts a.payload a.metadata

/-- A copy of the `route_data` frame that the origin emitted with this `origin_seq`, from any
relay; a sync message inside is one. -/
def Arrival.IsRouteData (origin : ℤ) (a : Arrival) : Prop :=
  ∃ frame route inner, decodeFrame a.payload false = .ok frame ∧ frame.messageType = msgRouteData ∧
    decodeRouteDataPayload frame.payload = .ok route ∧ route.originSenderId = origin ∧
    route.originSeq = a.seq ∧ observedPayload route.innerType route.innerPayload = .ok inner

/-- A `route_v2` frame that the same node sent with this `app_seq`. -/
def Arrival.IsRouteV2 (origin : ℤ) (a : Arrival) : Prop :=
  ∃ frame, decodeFrame a.payload false = .ok frame ∧ frame.messageType = msgRouteV2 ∧
    frame.senderId = origin ∧ frame.appSeq = a.seq

/-- A frame of the origin, of one kind or the other, whose status can be read. -/
structure Arrival.FromOrigin (reader : StatusReader) (origin : ℤ) (a : Arrival) : Prop where
  kind : if a.routed then a.IsRouteData origin else a.IsRouteV2 origin
  readable : ∀ obs, observe a.payload a.metadata = .ok obs →
    ∃ status, reader obs.payload = .ok status ∧ status.Readable

/-- The arrivals one after the other. -/
def runArrivals (reader : StatusReader) : List Arrival → PyM MeshState Unit
  | [] => pure ()
  | a :: arrivals => do
    a.run reader
    runArrivals reader arrivals

section

variable {origin : ℤ} {a : Arrival} {arrivals : List Arrival}

/-- A frame of the origin is an observation of the origin, with its own number. -/
theorem Arrival.FromOrigin.observe (h : a.FromOrigin reader origin) :
    ∃ obs, observe a.payload a.metadata = .ok obs ∧ obs.originId = origin ∧
      obs.seq = some a.seq := by
  have hkind := h.kind
  split at hkind
  · obtain ⟨frame, route, inner, hframe, htype, hroute, horigin, hseq, hinner⟩ := hkind
    rw [← horigin, ← hseq, KovaWfb.observe, hframe, Py.ok_bind]
    dsimp only
    rw [if_pos htype, hroute, Py.ok_bind, hinner, Py.ok_bind]
    exact ⟨_, rfl, rfl, rfl⟩
  · obtain ⟨frame, hframe, htype, hsender, hseq⟩ := hkind
    rw [← hsender, ← hseq, KovaWfb.observe, hframe, Py.ok_bind]
    dsimp only
    rw [if_neg (by rw [htype]; decide), observedPayload, if_neg (by rw [htype]; decide)]
    exact ⟨_, rfl, rfl, rfl⟩

/-- **An arrival counts its number.** -/
theorem Arrival.FromOrigin.run (h : a.FromOrigin reader origin) (s : MeshState) :
    ∃ s', a.run reader s = .ok () s' ∧ s'.account origin = (s.account origin).count a.seq := by
  obtain ⟨obs, hobs, horigin, hseq⟩ := h.observe
  obtain ⟨status, hstatus, hreadable⟩ := h.readable obs hobs
  obtain ⟨s', hingest, haccount⟩ :=
    @account_ingestObservation reader a.now a.ts obs s status a.seq hstatus hreadable hseq
  refine ⟨s', ?_, ?_⟩
  · rw [Arrival.run]
    exact processRadioPayload_of_observe hobs hingest fun _ _ h => by cases h
  · rw [haccount, if_pos horigin.symm]

/-- **After any arrivals** the account is that of their numbers, in the order of arrival. -/
theorem account_runArrivals (h : ∀ a ∈ arrivals, a.FromOrigin reader origin) (s : MeshState) :
    ∃ s', runArrivals reader arrivals s = .ok () s' ∧
      s'.account origin = (arrivals.map Arrival.seq).foldl Account.count (s.account origin) := by
  induction arrivals generalizing s with
  | nil => exact ⟨s, rfl, rfl⟩
  | cons a arrivals ih =>
    obtain ⟨s₁, hrun₁, haccount₁⟩ := (h a List.mem_cons_self).run s
    obtain ⟨s₂, hrun₂, haccount₂⟩ := ih (fun b hb => h b (List.mem_cons_of_mem a hb)) s₁
    refine ⟨s₂, ?_, ?_⟩
    · rw [runArrivals, PyM.bind_apply, hrun₁]
      exact hrun₂
    · rw [haccount₂, haccount₁, List.map_cons, List.foldl_cons]

end

/-! ### Accounts and steps -/

theorem lost_foldl_count (seqs : List ℤ) (acc : Account) :
    (seqs.foldl Account.count acc).lost = acc.lost + sumFrom between acc.last seqs := by
  induction seqs generalizing acc with
  | nil => exact (add_zero _).symm
  | cons x seqs ih =>
    rw [List.foldl_cons, ih, sumFrom_between_cons, ← add_assoc]
    rfl

theorem duplicates_foldl_count (seqs : List ℤ) (acc : Account) :
    (seqs.foldl Account.count acc).duplicates =
      acc.duplicates + sumFrom (fun x y => if x = y then 1 else 0) acc.last seqs := by
  induction seqs generalizing acc with
  | nil => exact (add_zero _).symm
  | cons x seqs ih =>
    rw [List.foldl_cons, ih]
    obtain ⟨lost, duplicates, last⟩ := acc
    cases last with
    | none => simp [Account.count, sumFrom]
    | some last => simp [Account.count, sumFrom, add_assoc]

/-- The lost packets of a node after some arrivals. -/
def lostAfter (reader : StatusReader) (s : MeshState) (origin : ℤ) (arrivals : List Arrival) : ℤ :=
  ((resultState (runArrivals reader arrivals s)).account origin).lost

/-- After the frame in front of it, and after the `route_data` frame in front of it, no frame is
taken to be behind a gap that depends on the other: a `route_v2` frame is at most one ahead, and
a `route_data` frame behind a `route_v2` frame is at most one ahead of both. -/
def Unshifted : Option ℤ → Option ℤ → List Arrival → Prop
  | _, _, [] => True
  | last, lastRouted, a :: arrivals =>
    if a.routed then
      (last = lastRouted ∨ NotAhead last a.seq ∧ NotAhead lastRouted a.seq) ∧
        Unshifted (some a.seq) (some a.seq) arrivals
    else NotAhead last a.seq ∧ Unshifted (some a.seq) lastRouted arrivals

instance Unshifted.decidable : ∀ last lastRouted arrivals,
    Decidable (Unshifted last lastRouted arrivals)
  | _, _, [] => .isTrue trivial
  | _, lastRouted, a :: arrivals =>
    have := decidable (some a.seq) (some a.seq) arrivals
    have := decidable (some a.seq) lastRouted arrivals
    inferInstanceAs (Decidable (if a.routed then _ else _))

/-- **The same numbers are skipped with the `route_v2` frames and without**, at every point of
the arrivals, when no frame is taken to be behind a gap of the other kind. -/
theorem skipped_filter_iff {arrivals : List Arrival} {last lastRouted : Option ℤ} :
    (∀ k, sumFrom between last ((arrivals.take k).map Arrival.seq) =
        sumFrom between lastRouted (((arrivals.take k).filter Arrival.routed).map Arrival.seq)) ↔
      Unshifted last lastRouted arrivals := by
  induction arrivals generalizing last lastRouted with
  | nil =>
    refine iff_of_true (fun k => ?_) trivial
    rw [List.take_nil]
    rfl
  | cons a arrivals ih =>
    rw [Unshifted]
    by_cases hrouted : a.routed = true
    · rw [if_pos hrouted, ← ih, ← after_eq_iff]
      refine forall_running_eq_iff rfl (fun k => ?_) (fun k => ?_) rfl
      · rw [List.take_succ_cons, List.map_cons, sumFrom_between_cons]
      · rw [List.take_succ_cons, List.filter_cons_of_pos hrouted, List.map_cons,
          sumFrom_between_cons]
    · rw [if_neg hrouted, ← ih, ← after_eq_zero_iff]
      refine forall_running_eq_iff rfl (fun k => ?_) (fun k => ?_) rfl
      · rw [List.take_succ_cons, List.map_cons, sumFrom_between_cons]
      · rw [List.take_succ_cons, List.filter_cons_of_neg hrouted, zero_add]

section

variable {origin : ℤ} {arrivals : List Arrival}

/-- Of a node that was never heard, the numbers that the steps skip count as lost, and the steps
that stay as duplicates. -/
theorem account_runArrivals_of_unheard (hunheard : s.account origin = .empty)
    (h : ∀ a ∈ arrivals, a.FromOrigin reader origin) :
    ∃ s', runArrivals reader arrivals s = .ok () s' ∧
      (s'.account origin).lost = skipped (arrivals.map Arrival.seq) ∧
      (s'.account origin).duplicates = copies (arrivals.map Arrival.seq) := by
  obtain ⟨s', hrun, haccount⟩ := account_runArrivals h s
  refine ⟨s', hrun, ?_, ?_⟩
  · rw [haccount, hunheard, lost_foldl_count]
    exact zero_add _
  · rw [haccount, hunheard, duplicates_foldl_count]
    exact zero_add _

theorem lostAfter_eq (hunheard : s.account origin = .empty)
    (h : ∀ a ∈ arrivals, a.FromOrigin reader origin) :
    lostAfter reader s origin arrivals = skipped (arrivals.map Arrival.seq) := by
  obtain ⟨s', hrun, hlost, -⟩ := account_runArrivals_of_unheard hunheard h
  rw [lostAfter, hrun]
  exact hlost

/-- **The counts of routed frames are sound** when the copies of a number are adjacent, and the
way up and the steps down fit between the smallest and the largest. -/
theorem routed_sound_iff (hunheard : s.account origin = .empty)
    (h : ∀ a ∈ arrivals, a.FromOrigin reader origin) {lo hi : ℤ}
    (hlo : IsLeast {x | x ∈ arrivals.map Arrival.seq} lo)
    (hhi : IsGreatest {x | x ∈ arrivals.map Arrival.seq} hi) :
    (∃ s', runArrivals reader arrivals s = .ok () s' ∧
        (s'.account origin).lost ≤ missing lo hi (arrivals.map Arrival.seq) ∧
        (s'.account origin).duplicates = repeats (arrivals.map Arrival.seq)) ↔
      CopiesAdjacent (arrivals.map Arrival.seq) ∧
        climb (arrivals.map Arrival.seq) + descents (arrivals.map Arrival.seq) ≤ hi - lo := by
  obtain ⟨s', hrun, hlost, hduplicates⟩ := account_runArrivals_of_unheard hunheard h
  constructor
  · rintro ⟨s'', hrun', hle, heq⟩
    obtain ⟨-, rfl⟩ := EStateM.Result.ok.inj (hrun.symm.trans hrun')
    have hadjacent := copies_eq_repeats_iff.1 (hduplicates.symm.trans heq)
    exact ⟨hadjacent, (skipped_le_missing_iff hadjacent hlo hhi).1 (hlost ▸ hle)⟩
  · rintro ⟨hadjacent, hfits⟩
    exact ⟨s', hrun, hlost.trans_le ((skipped_le_missing_iff hadjacent hlo hhi).2 hfits),
      hduplicates.trans (copies_eq_repeats_iff.2 hadjacent)⟩

end

/-- **When loss accounting is sound.**  For the arrivals of one origin that was never heard:
without `route_v2` frames the lost packets are at most the missing numbers, and the duplicates
are the repeats, exactly when the copies of a number are adjacent and the way up and the steps
down fit between the smallest and the largest; and `route_v2` frames change the lost packets
at no point exactly when no frame is taken to be behind a gap of the other kind. -/
theorem loss_accounting_sound_iff (reader : StatusReader) {origin : ℤ} {s : MeshState}
    (hunheard : s.account origin = .empty) {arrivals : List Arrival}
    (h : ∀ a ∈ arrivals, a.FromOrigin reader origin) :
    ((∀ a ∈ arrivals, a.routed = true) → ∀ lo hi,
        IsLeast {x | x ∈ arrivals.map Arrival.seq} lo →
        IsGreatest {x | x ∈ arrivals.map Arrival.seq} hi →
          ((∃ s', runArrivals reader arrivals s = .ok () s' ∧
              (s'.account origin).lost ≤ missing lo hi (arrivals.map Arrival.seq) ∧
              (s'.account origin).duplicates = repeats (arrivals.map Arrival.seq)) ↔
            CopiesAdjacent (arrivals.map Arrival.seq) ∧
              climb (arrivals.map Arrival.seq) + descents (arrivals.map Arrival.seq) ≤ hi - lo)) ∧
      ((∀ k, lostAfter reader s origin (arrivals.take k) =
          lostAfter reader s origin ((arrivals.take k).filter Arrival.routed)) ↔
        Unshifted none none arrivals) := by
  refine ⟨fun _ lo hi hlo hhi => routed_sound_iff hunheard h hlo hhi, ?_⟩
  rw [← skipped_filter_iff]
  refine forall_congr' fun k => ?_
  have htake : ∀ a ∈ arrivals.take k, a.FromOrigin reader origin :=
    fun a ha => h a (List.mem_of_mem_take ha)
  have hfilter : ∀ a ∈ (arrivals.take k).filter Arrival.routed, a.FromOrigin reader origin :=
    fun a ha => htake a (List.mem_of_mem_filter ha)
  rw [lostAfter_eq hunheard htake, lostAfter_eq hunheard hfilter]
  rfl

/-! ### Arrivals in order, and others -/

/-- `parse_status_payload` of a text that is no JSON and has no `key=value` word in it. -/
def plainReader : StatusReader := fun payload =>
  let text := safeText payload
  .ok ⟨if text = "" then none else some text, none, none, .ok none, .ok none, .ok none⟩

/-- A `route_data` packet of node 2 without a payload, to all. -/
def sampleRoute (originSeq : ℤ) : RouteData := ⟨2, 0, 3, originSeq, msgStatus, []⟩

/-- It is heard from node 7. -/
def Arrival.sampleRouted (originSeq : ℤ) : Arrival where
  routed := true
  seq := originSeq
  payload := AppFrame.bytes ⟨version, msgRouteData, 7, 0, 1, (sampleRoute originSeq).bytes⟩
  metadata := default
  now := 0
  ts := 0

/-- A `route_v2` packet of node 2 to the C2 side. -/
def sampleRouteV2 : RouteDataV2 := ⟨routeV2Version, addrNode, 2, addrC2, 1, 3, 1, 0, msgStatus, []⟩

/-- It is heard from node 2 itself. -/
def Arrival.sampleV2 (appSeq : ℤ) : Arrival where
  routed := false
  seq := appSeq
  payload := AppFrame.bytes ⟨version, msgRouteV2, 2, 0, appSeq, sampleRouteV2.bytes⟩
  metadata := default
  now := 0
  ts := 0

theorem Arrival.sampleRouted_fromOrigin {originSeq : ℤ} (h : FitsWidth 4 originSeq) :
    (sampleRouted originSeq).FromOrigin plainReader 2 := by
  have hroute : (sampleRoute originSeq).Valid :=
    ⟨show (2 : ℤ) ≠ 0 by decide, show FitsWidth 1 2 by decide, show FitsWidth 1 0 by decide,
      show FitsWidth 1 3 by decide, h, show FitsWidth 1 msgStatus by decide,
      show msgStatus ≠ msgRouteData by decide, show FitsWidth 2 0 by decide⟩
  have hlen : (sampleRoute originSeq).bytes.length = routeDataPayloadSize + 0 :=
    RouteData.length_bytes _
  have hframe : AppFrame.Valid ⟨version, msgRouteData, 7, 0, 1, (sampleRoute originSeq).bytes⟩ :=
    ⟨rfl, show FitsWidth 1 msgRouteData by decide, show (7 : ℤ) ≠ 0 by decide,
      show FitsWidth 1 7 by decide, show FitsWidth 1 0 by decide, show FitsWidth 4 1 by decide,
      by rw [hlen]; decide⟩
  have hframeType : messageTypes.Has msgRouteData := by decide
  have hinnerType : messageTypes.Has msgStatus := by decide
  refine ⟨⟨_, _, _, decodeFrame_eq_ok_iff.2 ⟨hframe, Or.inr hframeType, rfl⟩, rfl,
    decodeRouteDataPayload_eq_ok_iff.2 ⟨hroute, hinnerType, rfl⟩, rfl, rfl, rfl⟩, ?_⟩
  exact fun _ _ => ⟨_, rfl, ⟨_, rfl⟩, ⟨_, rfl⟩, ⟨_, rfl⟩⟩

theorem Arrival.sampleV2_fromOrigin {appSeq : ℤ} (h : FitsWidth 4 appSeq) :
    (sampleV2 appSeq).FromOrigin plainReader 2 := by
  have hframe : AppFrame.Valid ⟨version, msgRouteV2, 2, 0, appSeq, sampleRouteV2.bytes⟩ :=
    ⟨rfl, show FitsWidth 1 msgRouteV2 by decide, show (2 : ℤ) ≠ 0 by decide,
      show FitsWidth 1 2 by decide, show FitsWidth 1 0 by decide, h,
      show FitsWidth 2 (sampleRouteV2.bytes.length : ℤ) by decide +kernel⟩
  have hframeType : messageTypes.Has msgRouteV2 := by decide
  refine ⟨⟨_, decodeFrame_eq_ok_iff.2 ⟨hframe, Or.inr hframeType, rfl⟩, rfl, rfl, rfl⟩, ?_⟩
  exact fun _ _ => ⟨_, rfl, ⟨_, rfl⟩, ⟨_, rfl⟩, ⟨_, rfl⟩⟩

theorem sampleRouted_all (seqs : List ℤ) (h : ∀ x ∈ seqs, FitsWidth 4 x) :
    ∀ a ∈ seqs.map Arrival.sampleRouted, a.FromOrigin plainReader 2 := by
  rintro a ha
  obtain ⟨x, hx, rfl⟩ := List.mem_map.1 ha
  exact Arrival.sampleRouted_fromOrigin (h x hx)

/-- A `route_v2` frame between two `route_data` frames. -/
def sampleInterleaved (appSeq : ℤ) : List Arrival :=
  [.sampleRouted 3, .sampleV2 appSeq, .sampleRouted 4]

theorem sampleInterleaved_all {appSeq : ℤ} (h : FitsWidth 4 appSeq) :
    ∀ a ∈ sampleInterleaved appSeq, a.FromOrigin plainReader 2 := by
  intro a ha
  simp only [sampleInterleaved, List.mem_cons, List.not_mem_nil, or_false] at ha
  obtain rfl | rfl | rfl := ha
  · exact Arrival.sampleRouted_fromOrigin (by decide)
  · exact Arrival.sampleV2_fromOrigin h
  · exact Arrival.sampleRouted_fromOrigin (by decide)

/-- A gap, a frame that comes twice, and a `route_v2` frame with the next number. -/
theorem loss_accounting_sound_sample :
    (∃ s', runArrivals plainReader ([3, 3, 5].map .sampleRouted) (.initial 0) = .ok () s' ∧
        (s'.account 2).lost ≤ missing 3 5 [3, 3, 5] ∧
        (s'.account 2).duplicates = repeats [3, 3, 5]) ∧
      ∀ k, lostAfter plainReader (.initial 0) 2 ((sampleInterleaved 4).take k) =
        lostAfter plainReader (.initial 0) 2
          (((sampleInterleaved 4).take k).filter Arrival.routed) := by
  have hunheard : (MeshState.initial 0).account 2 = .empty := rfl
  constructor
  · have hlo : IsLeast {x : ℤ | x ∈ [3, 3, 5]} 3 :=
      ⟨by decide, show ∀ x ∈ [3, 3, 5], (3 : ℤ) ≤ x by decide⟩
    have hhi : IsGreatest {x : ℤ | x ∈ [3, 3, 5]} 5 :=
      ⟨by decide, show ∀ x ∈ [3, 3, 5], x ≤ (5 : ℤ) by decide⟩
    exact ((loss_accounting_sound_iff plainReader hunheard
      (sampleRouted_all [3, 3, 5] (by decide))).1 (by simp [Arrival.sampleRouted]) 3 5
      hlo hhi).2 (by decide)
  · exact (loss_accounting_sound_iff plainReader hunheard
      (sampleInterleaved_all (by decide))).2.2 (by decide)

/-- **Loss accounting is not sound**: of 3, 5, 4, which are all there, one is counted as lost; a
copy that comes one frame late is not counted; and a `route_v2` frame with another counter adds
96 lost packets. -/
theorem reordered_frames_counted_lost :
    (∃ s', runArrivals plainReader ([3, 5, 4].map .sampleRouted) (.initial 0) = .ok () s' ∧
        missing 3 5 [3, 5, 4] = 0 ∧ (s'.account 2).lost = 1) ∧
      (∃ s', runArrivals plainReader ([3, 4, 3].map .sampleRouted) (.initial 0) = .ok () s' ∧
        repeats [3, 4, 3] = 1 ∧ (s'.account 2).duplicates = 0) ∧
      lostAfter plainReader (.initial 0) 2 (sampleInterleaved 100) = 96 ∧
      lostAfter plainReader (.initial 0) 2 ((sampleInterleaved 100).filter Arrival.routed) = 0 := by
  have hunheard : (MeshState.initial 0).account 2 = .empty := rfl
  refine ⟨?_, ?_, ?_, ?_⟩
  · obtain ⟨s', hrun, haccount⟩ := account_runArrivals
      (sampleRouted_all [3, 5, 4] (by decide)) (MeshState.initial 0)
    exact ⟨s', hrun, by decide, by rw [haccount, hunheard]; decide⟩
  · obtain ⟨s', hrun, haccount⟩ := account_runArrivals
      (sampleRouted_all [3, 4, 3] (by decide)) (MeshState.initial 0)
    exact ⟨s', hrun, by decide, by rw [haccount, hunheard]; decide⟩
  · exact lostAfter_eq hunheard (sampleInterleaved_all (by decide))
  · exact lostAfter_eq hunheard (sampleRouted_all [3, 4] (by decide))

end KovaWfb
