/-
# What the C2 store holds, whatever the order of its calls

`C2EventStore` of `python/examples/c2_http_server.py` (50 to 191) under many threads.  A
call of `ingest` first reads the upload and builds its event, for which it only needs the
keyring, and then takes the lock once.  `IngestStep` is one such part of one thread's call,
and `IngestRun` any interleaving of them, with the events recorded so far, oldest first.

In every run the store shows the last `max_events` of them, newest first, its dedupe keys
are the keys of just these events, and `latest()` has the newest event of every origin,
evicted or not (`store_invariant`).
-/

import KovaWfb.C2.StoreReplay
import Mathlib.Logic.Function.Basic

namespace KovaWfb

/-! ### The calls of several threads -/

/-- `ingest` up to the lock: the dedupe key and the event. -/
def prepareIngest (A : Aead) (ring : C2Keyring) (call : IngestCall) : Py (List ℤ × C2Event) := do
  let o ← openUpload A ring call.upload
  let event ← uploadEvent call.nowMs call.clientIp call.upload o
  pure (o.dedupeKey, event)

/-- **A call is its two parts.** -/
theorem ingest_eq_prepare (A : Aead) (call : IngestCall) (store : C2EventStore) :
    call.run A store =
      (liftM (prepareIngest A store.keyring call) >>= fun entry => record entry.1 entry.2 :
        PyM C2EventStore C2Event) store := by
  rw [IngestCall.run, ingest, PyM.get_bind_apply, PyM.bind_apply, PyM.bind_apply,
    PyM.monadLift_apply, PyM.monadLift_apply, prepareIngest]
  cases hopen : openUpload A store.keyring call.upload with
  | error e => rfl
  | ok o =>
    dsimp only [PyM.lift_ok]
    rw [Py.ok_bind, PyM.bind_apply, PyM.monadLift_apply]
    cases uploadEvent call.nowMs call.clientIp call.upload o with
    | error e => rfl
    | ok event => rfl

/-- The store and, for each thread, what its call takes to the lock. -/
structure IngestThreads (ι : Type) where
  store : C2EventStore
  waiting : ι → Option (List ℤ × C2Event)

/-- What a part of a call comes to. -/
inductive IngestOutcome
  | raised (error : PyError)
  | prepared
  | answered (key : List ℤ) (event : C2Event)

/-- The key and the event that were newly recorded, if any. -/
def IngestOutcome.recorded : IngestOutcome → List (List ℤ × C2Event)
  | .answered key event => if event.duplicate then [] else [(key, event)]
  | _ => []

@[simp] theorem IngestOutcome.recorded_raised (error : PyError) :
    (IngestOutcome.raised error).recorded = [] := rfl

@[simp] theorem IngestOutcome.recorded_prepared : IngestOutcome.prepared.recorded = [] := rfl

theorem IngestOutcome.recorded_answered {key : List ℤ} {event : C2Event} :
    (IngestOutcome.answered key event).recorded =
      if event.duplicate then [] else [(key, event)] := rfl

section

variable {ι : Type} [DecidableEq ι] {A : Aead}

/-- One part of a call of thread `i`. -/
inductive IngestStep (A : Aead) (s : IngestThreads ι) : IngestOutcome → IngestThreads ι → Prop
  | raise (i : ι) (call : IngestCall) (error : PyError) (hidle : s.waiting i = none)
      (h : prepareIngest A s.store.keyring call = .error error) : IngestStep A s (.raised error) s
  | prepare (i : ι) (call : IngestCall) (entry : List ℤ × C2Event) (hidle : s.waiting i = none)
      (h : prepareIngest A s.store.keyring call = .ok entry) :
      IngestStep A s .prepared { s with waiting := Function.update s.waiting i (some entry) }
  | answer (i : ι) (key : List ℤ) (event event' : C2Event) (store' : C2EventStore)
      (hwaiting : s.waiting i = some (key, event))
      (h : record key event s.store = .ok event' store') :
      IngestStep A s (.answered key event') ⟨store', Function.update s.waiting i none⟩
  | lockRaise (i : ι) (key : List ℤ) (event : C2Event) (error : PyError) (store' : C2EventStore)
      (hwaiting : s.waiting i = some (key, event))
      (h : record key event s.store = .error error store') :
      IngestStep A s (.raised error) ⟨store', Function.update s.waiting i none⟩

/-- The runs of a store: what was recorded, oldest first, and the threads after it. -/
inductive IngestRun (A : Aead) (ring : C2Keyring) (maxEvents : ℕ) :
    List (List ℤ × C2Event) → IngestThreads ι → Prop
  | initial : IngestRun A ring maxEvents []
      ⟨C2EventStore.initial ring maxEvents, fun _ => none⟩
  | step {recorded : List (List ℤ × C2Event)} {s s' : IngestThreads ι} {outcome : IngestOutcome}
      (hrun : IngestRun A ring maxEvents recorded s) (hstep : IngestStep A s outcome s') :
      IngestRun A ring maxEvents (recorded ++ outcome.recorded) s'

end

/-! ### `latest()` -/

/-- `latest`: the newest event of each origin, by origin id. -/
def C2EventStore.latest (store : C2EventStore) : List C2Event :=
  (store.latestByNode.mergeSort fun a b => a.1 ≤ b.1).map Prod.snd

/-- The table of `latest()` has each origin once, under its id. -/
structure C2EventStore.LatestByOrigin (store : C2EventStore) : Prop where
  nodup : (store.latestByNode.map Prod.fst).Nodup
  origin : ∀ entry ∈ store.latestByNode, entry.2.originId = entry.1

/-- What `latest()` shows of an origin is its entry. -/
theorem C2EventStore.LatestByOrigin.find?_latest {store : C2EventStore}
    (h : store.LatestByOrigin) (originId : ℤ) :
    store.latest.find? (fun event => event.originId = originId) =
      store.latestByNode.lookup originId := by
  have hmem : ∀ event, event ∈ store.latest ↔ ∃ id, (id, event) ∈ store.latestByNode := by
    intro event
    simp only [latest, List.mem_map, List.mem_mergeSort, Prod.exists, exists_eq_right]
  have hentry : ∀ event, event ∈ store.latest → event.originId = originId →
      store.latestByNode.lookup originId = some event := by
    intro event hevent horigin
    obtain ⟨id, hid⟩ := (hmem event).mp hevent
    obtain rfl : id = originId := (h.origin _ hid).symm.trans horigin
    exact (lookup_eq_some_iff_mem h.nodup).mpr hid
  cases hfind : store.latest.find? (fun event => event.originId = originId) with
  | some event =>
    exact (hentry event (List.mem_of_find?_eq_some hfind)
      (by simpa using List.find?_some hfind)).symm
  | none =>
    cases hlookup : store.latestByNode.lookup originId with
    | none => rfl
    | some event =>
      have hid := (lookup_eq_some_iff_mem h.nodup).mp hlookup
      have hnone := List.find?_eq_none.mp hfind event ((hmem event).mpr ⟨originId, hid⟩)
      exact absurd (decide_eq_true (h.origin _ hid)) hnone

/-! ### The invariant -/

section

variable {ι : Type} {A : Aead} {ring : C2Keyring} {maxEvents : ℕ}
  {recorded : List (List ℤ × C2Event)} {s s' : IngestThreads ι}

/-- What holds of the threads after the events `recorded`, oldest first. -/
structure IngestThreads.Shows (ring : C2Keyring) (maxEvents : ℕ)
    (recorded : List (List ℤ × C2Event)) (s : IngestThreads ι) : Prop where
  keyring : s.store.keyring = ring
  maxEvents_eq : s.store.maxEvents = maxEvents
  tracked : ∃ w, s.store.Tracks w
  keys : ∀ r ∈ recorded, r.2.dedupeKey = .ok r.1
  events : s.store.events = (recorded.reverse.map Prod.snd).take maxEvents
  byOrigin : s.store.LatestByOrigin
  latest : ∀ originId, s.store.latestByNode.lookup originId =
    (recorded.reverse.map Prod.snd).find? fun event => event.originId = originId
  waiting : ∀ i key event, s.waiting i = some (key, event) →
    event.dedupeKey = .ok key ∧ event.duplicate = false

theorem shows_initial (ring : C2Keyring) (hmax : 1 ≤ maxEvents) :
    IngestThreads.Shows ring maxEvents []
      (⟨C2EventStore.initial ring maxEvents, fun _ => none⟩ : IngestThreads ι) where
  keyring := rfl
  maxEvents_eq := rfl
  tracked := ⟨_, tracks_initial ring hmax⟩
  keys := fun _ h => absurd h List.not_mem_nil
  events := by rw [List.reverse_nil, List.map_nil, List.take_nil]; rfl
  byOrigin := ⟨List.nodup_nil, fun _ h => absurd h List.not_mem_nil⟩
  latest := fun _ => rfl
  waiting := fun _ _ _ h => absurd h.symm (Option.some_ne_none _)

/-- What a call takes to the lock. -/
theorem prepareIngest_eq_ok {call : IngestCall} {entry : List ℤ × C2Event}
    (h : prepareIngest A ring call = .ok entry) :
    entry.2.dedupeKey = .ok entry.1 ∧ entry.2.duplicate = false := by
  obtain ⟨o, hopen, h⟩ := Py.bind_eq_ok.mp h
  obtain ⟨event, hevent, h⟩ := Py.bind_eq_ok.mp h
  obtain rfl := Py.pure_eq_ok.mp h
  exact uploadEvent_dedupeKey hopen hevent

/-- A change of what waits for the lock keeps the rest. -/
theorem IngestThreads.Shows.of_waiting (h : s.Shows ring maxEvents recorded)
    {waiting : ι → Option (List ℤ × C2Event)}
    (hwaiting : ∀ i key event, waiting i = some (key, event) →
      event.dedupeKey = .ok key ∧ event.duplicate = false) :
    IngestThreads.Shows ring maxEvents recorded (⟨s.store, waiting⟩ : IngestThreads ι) :=
  ⟨h.keyring, h.maxEvents_eq, h.tracked, h.keys, h.events, h.byOrigin, h.latest, hwaiting⟩

/-- **The lock section**: a known key changes nothing, a new one is recorded. -/
theorem IngestThreads.Shows.record_cases (h : s.Shows ring maxEvents recorded) {i : ι}
    {key : List ℤ} {event : C2Event} (hwaiting : s.waiting i = some (key, event)) :
    (record key event s.store = .ok { event with duplicate := true } s.store) ∨
      ∃ w, s.store.Tracks w ∧ ¬ key ∈ w ∧
        record key event s.store = .ok event (s.store.push w key event) ∧
        (s.store.push w key event).Tracks (w.remember key).2 := by
  obtain ⟨w, htracks⟩ := h.tracked
  obtain ⟨hkey, -⟩ := h.waiting i key event hwaiting
  by_cases hseen : key ∈ w
  · exact Or.inl (record_of_mem (by rw [htracks.seen]; exact hseen))
  · exact Or.inr ⟨w, htracks, hseen, record_of_not_mem htracks hkey hseen⟩

/-- The keys the store knows are those of the events it shows. -/
theorem IngestThreads.Shows.seen_eq (h : s.Shows ring maxEvents recorded) :
    ((recorded.reverse.map Prod.fst).take maxEvents).Nodup ∧
      s.store.seen = ((recorded.reverse.map Prod.fst).take maxEvents).toFinset := by
  obtain ⟨w, htracks⟩ := h.tracked
  have hkeys : s.store.events.map C2Event.dedupeKey =
      ((recorded.reverse.map Prod.fst).take maxEvents).map Except.ok := by
    rw [h.events, ← List.map_take, List.map_map, ← List.map_take, List.map_map]
    refine List.map_congr_left fun r hr => ?_
    exact h.keys r (List.mem_reverse.mp (List.mem_of_mem_take hr))
  have horder : w.order.reverse = (recorded.reverse.map Prod.fst).take maxEvents := by
    have hboth := htracks.keys
    rw [List.map_reverse, hkeys, List.reverse_eq_iff, ← List.map_reverse] at hboth
    exact (List.map_injective_iff.mpr (fun _ _ => Except.ok.inj) hboth).symm
  rw [← horder, htracks.seen, w.seen_eq]
  exact ⟨List.nodup_reverse.mpr w.order_nodup, (List.toFinset_reverse).symm⟩

variable [DecidableEq ι]

/-- What one thread takes to the lock leaves the others as they are. -/
theorem IngestThreads.Shows.waiting_update (h : s.Shows ring maxEvents recorded) {i : ι}
    {entry : Option (List ℤ × C2Event)}
    (hentry : ∀ key event, entry = some (key, event) →
      event.dedupeKey = .ok key ∧ event.duplicate = false) :
    ∀ j key event, Function.update s.waiting i entry j = some (key, event) →
      event.dedupeKey = .ok key ∧ event.duplicate = false := by
  intro j key event hj
  by_cases hij : j = i
  · subst hij
    rw [Function.update_self] at hj
    exact hentry key event hj
  · rw [Function.update_of_ne hij] at hj
    exact h.waiting j key event hj

/-- The invariant after an event was recorded. -/
theorem IngestThreads.Shows.push (h : s.Shows ring maxEvents recorded) {i : ι} {key : List ℤ}
    {event : C2Event} (hwaiting : s.waiting i = some (key, event)) {w : FifoSet (List ℤ)}
    (htracks : (s.store.push w key event).Tracks (w.remember key).2) :
    IngestThreads.Shows ring maxEvents (recorded ++ [(key, event)])
      (⟨s.store.push w key event, Function.update s.waiting i none⟩ : IngestThreads ι) where
  keyring := h.keyring
  maxEvents_eq := h.maxEvents_eq
  tracked := ⟨_, htracks⟩
  keys := by
    intro r hr
    rcases List.mem_append.mp hr with hr | hr
    · exact h.keys r hr
    · rw [List.mem_singleton.mp hr]
      exact (h.waiting i key event hwaiting).1
  events := by
    rw [List.reverse_append, List.reverse_singleton, List.singleton_append, List.map_cons]
    simp only [C2EventStore.push, h.maxEvents_eq, h.events]
    cases maxEvents with
    | zero => rfl
    | succ n =>
      rw [List.take_succ_cons, List.take_succ_cons, List.take_take, Nat.min_eq_left (Nat.le_succ n)]
  byOrigin := by
    refine ⟨nodup_keys_dictSet h.byOrigin.nodup, fun entry hentry => ?_⟩
    rcases mem_of_mem_dictSet hentry with rfl | hentry
    · rfl
    · exact h.byOrigin.origin entry hentry
  latest := by
    intro originId
    rw [List.reverse_append, List.reverse_singleton, List.singleton_append, List.map_cons,
      List.find?_cons]
    simp only [C2EventStore.push, lookup_dictSet]
    by_cases horigin : event.originId = originId
    · rw [if_pos horigin.symm, decide_eq_true horigin]
    · rw [if_neg fun heq => horigin heq.symm, decide_eq_false horigin, h.latest originId]
  waiting := h.waiting_update fun _ _ hnone => absurd hnone.symm (Option.some_ne_none _)

/-- A part of a call that records nothing leaves the store alone. -/
theorem IngestThreads.Shows.store_of_not_recorded (h : s.Shows ring maxEvents recorded)
    {outcome : IngestOutcome} (hstep : IngestStep A s outcome s') (hnone : outcome.recorded = []) :
    s'.store = s.store := by
  cases hstep with
  | raise => rfl
  | prepare => rfl
  | answer i key event event' store' hwaiting hrecord =>
    rcases h.record_cases hwaiting with hdup | ⟨w, -, -, hnew, -⟩
    · exact (EStateM.Result.ok.inj (hrecord.symm.trans hdup)).2
    · obtain ⟨rfl, -⟩ := EStateM.Result.ok.inj (hrecord.symm.trans hnew)
      have hduplicate := (h.waiting i key event' hwaiting).2
      rw [IngestOutcome.recorded_answered,
        if_neg (by rw [hduplicate]; exact Bool.false_ne_true)] at hnone
      exact absurd hnone (List.cons_ne_nil _ _)
  | lockRaise i key event error store' hwaiting hrecord =>
    rcases h.record_cases hwaiting with hdup | ⟨w, -, -, hnew, -⟩
    · cases hrecord.symm.trans hdup
    · cases hrecord.symm.trans hnew

/-- **Every part of a call keeps the invariant.** -/
theorem IngestThreads.Shows.step (h : s.Shows ring maxEvents recorded) {outcome : IngestOutcome}
    (hstep : IngestStep A s outcome s') : s'.Shows ring maxEvents (recorded ++ outcome.recorded) := by
  cases hstep with
  | raise i call error =>
    rw [IngestOutcome.recorded_raised, List.append_nil]
    exact h
  | prepare i call entry hidle hprepare =>
    rw [IngestOutcome.recorded_prepared, List.append_nil]
    refine h.of_waiting (h.waiting_update fun key event hentry => ?_)
    obtain ⟨hkey, hduplicate⟩ := prepareIngest_eq_ok hprepare
    rw [Option.some.inj hentry] at hkey hduplicate
    exact ⟨hkey, hduplicate⟩
  | answer i key event event' store' hwaiting hrecord =>
    rcases h.record_cases hwaiting with hdup | ⟨w, -, -, hnew, htracks⟩
    · obtain ⟨rfl, rfl⟩ := EStateM.Result.ok.inj (hrecord.symm.trans hdup)
      rw [IngestOutcome.recorded_answered, if_pos rfl, List.append_nil]
      exact h.of_waiting
        (h.waiting_update fun _ _ hnone => absurd hnone.symm (Option.some_ne_none _))
    · obtain ⟨rfl, rfl⟩ := EStateM.Result.ok.inj (hrecord.symm.trans hnew)
      have hduplicate := (h.waiting i key event' hwaiting).2
      rw [IngestOutcome.recorded_answered, if_neg (by rw [hduplicate]; exact Bool.false_ne_true)]
      exact h.push hwaiting htracks
  | lockRaise i key event error store' hwaiting hrecord =>
    rcases h.record_cases hwaiting with hdup | ⟨w, -, -, hnew, -⟩
    · cases hrecord.symm.trans hdup
    · cases hrecord.symm.trans hnew

theorem IngestRun.shows (hmax : 1 ≤ maxEvents) (hrun : IngestRun A ring maxEvents recorded s) :
    s.Shows ring maxEvents recorded := by
  induction hrun with
  | initial => exact shows_initial ring hmax
  | step _ hstep ih => exact ih.step hstep

/-- An idle thread takes an upload to the lock. -/
theorem IngestRun.to_lock (hmax : 1 ≤ maxEvents) {store : C2EventStore}
    {waiting : ι → Option (List ℤ × C2Event)}
    (hrun : IngestRun A ring maxEvents recorded ⟨store, waiting⟩) (i : ι) (hidle : waiting i = none)
    {call : IngestCall} {entry : List ℤ × C2Event} (hprepare : prepareIngest A ring call = .ok entry) :
    IngestRun A ring maxEvents recorded ⟨store, Function.update waiting i (some entry)⟩ := by
  have hring : store.keyring = ring := (hrun.shows hmax).keyring
  have hstep := IngestRun.step hrun (.prepare i call entry hidle (hring ▸ hprepare))
  rwa [IngestOutcome.recorded_prepared, List.append_nil] at hstep

/-- **Under the lock** the key is new unless it is among the last `max_events`. -/
theorem IngestRun.answer_cases (hmax : 1 ≤ maxEvents) {store : C2EventStore}
    {waiting : ι → Option (List ℤ × C2Event)}
    (hrun : IngestRun A ring maxEvents recorded ⟨store, waiting⟩) {i : ι} {key : List ℤ}
    {event : C2Event} (hwaiting : waiting i = some (key, event)) :
    (key ∈ (recorded.reverse.map Prod.fst).take maxEvents →
      IngestStep A (⟨store, waiting⟩ : IngestThreads ι)
        (.answered key { event with duplicate := true }) ⟨store, Function.update waiting i none⟩) ∧
    (key ∉ (recorded.reverse.map Prod.fst).take maxEvents → ∃ store',
      IngestRun A ring maxEvents (recorded ++ [(key, event)])
        (⟨store', Function.update waiting i none⟩ : IngestThreads ι)) := by
  have h := hrun.shows hmax
  have hseen := h.seen_eq.2
  obtain ⟨w, htracks⟩ := h.tracked
  obtain ⟨hkey, hduplicate⟩ := h.waiting i key event hwaiting
  constructor
  · intro hmem
    have hrecord : record key event store = .ok { event with duplicate := true } store :=
      record_of_mem (by rw [hseen]; exact List.mem_toFinset.mpr hmem)
    exact .answer i key event _ store hwaiting hrecord
  · intro hnew
    have hnot : ¬ key ∈ w := fun hmem => by
      have hmem : key ∈ w.seen := hmem
      rw [← htracks.seen, hseen] at hmem
      exact hnew (List.mem_toFinset.mp hmem)
    obtain ⟨hrecord, -⟩ := record_of_not_mem htracks hkey hnot
    have hstep := IngestRun.step hrun (.answer i key event event _ hwaiting hrecord)
    rw [IngestOutcome.recorded_answered,
      if_neg (by rw [hduplicate]; exact Bool.false_ne_true)] at hstep
    exact ⟨_, hstep⟩

end

/-- **The C2 store invariant.**  In every run of every interleaving of calls, the store shows
at most `max_events` events; they are the last ones recorded, newest first; the key rebuilt
from a recorded event is the one it was recorded under; the dedupe keys are those of the
events shown, each once; `latest()` shows the event of an origin that was recorded last; and
a part of a call that raises or reports a duplicate leaves the store as it was. -/
theorem store_invariant (A : Aead) (ring : C2Keyring) {ι : Type} [DecidableEq ι] {maxEvents : ℕ}
    (hmax : 1 ≤ maxEvents) {recorded : List (List ℤ × C2Event)} {s : IngestThreads ι}
    (hrun : IngestRun A ring maxEvents recorded s) :
    s.store.events.length ≤ maxEvents ∧
      s.store.events = (recorded.reverse.map Prod.snd).take maxEvents ∧
      (∀ r ∈ recorded, r.2.dedupeKey = .ok r.1) ∧
      ((recorded.reverse.map Prod.fst).take maxEvents).Nodup ∧
      s.store.seen = ((recorded.reverse.map Prod.fst).take maxEvents).toFinset ∧
      (∀ originId, (s.store.latest.find? fun event => event.originId = originId) =
        (recorded.reverse.map Prod.snd).find? fun event => event.originId = originId) ∧
      ∀ outcome s', IngestStep A s outcome s' → outcome.recorded = [] → s'.store = s.store := by
  have h := hrun.shows hmax
  refine ⟨?_, h.events, h.keys, h.seen_eq.1, h.seen_eq.2, fun originId => ?_,
    fun outcome s' hstep hnone => h.store_of_not_recorded hstep hnone⟩
  · rw [h.events]
    exact List.length_take_le _ _
  · rw [h.byOrigin.find?_latest, h.latest]

/-- The dedupe key of a sample call. -/
def uplinkKey (originSeq : ℤ) (originId : ℤ := 2) : List ℤ :=
  [addrNode, originId, originSeq, secDomainNodeToC2, 1, 1]

/-- What its call takes to the lock. -/
theorem prepareIngest_sampleCall (originSeq originId : ℤ)
    (hmem : (originSeq, originId) ∈ [(5, 3), (7, 2), (8, 2), (9, 2)]) :
    ∃ event, prepareIngest Aead.checksum [C2Key.sample] (sampleCall originSeq originId) =
      .ok (uplinkKey originSeq originId, event) ∧ event.originId = originId := by
  have heval : ∀ n ∈ [((5 : ℤ), (3 : ℤ)), (7, 2), (8, 2), (9, 2)],
      ((prepareIngest Aead.checksum [C2Key.sample] (sampleCall n.1 n.2)).toOption.map fun entry =>
        (entry.1, entry.2.originId)) = some (uplinkKey n.1 n.2, n.2) := by
    decide +kernel
  obtain ⟨entry, hprepare, hentry⟩ := Py.exists_eq_ok_of_map (heval _ hmem)
  obtain ⟨hkey, horigin⟩ := Prod.mk.inj hentry
  exact ⟨entry.2, hprepare.trans (congrArg Except.ok (Prod.ext hkey rfl)), horigin⟩

/-- Two threads and room for two events.  Node 3 uploads once; then both threads read the same
upload of node 2, and the second one to get the lock answers a duplicate; then they record
two more of node 2 in the order of the lock, and the first one again, which is new by then. -/
theorem store_invariant_sample :
    ∃ (other first second third : C2Event) (s s' last : IngestThreads Bool),
      IngestRun Aead.checksum [C2Key.sample] 2 [(uplinkKey 5 3, other), (uplinkKey 7, first)] s ∧
      s.store.events = [first, other] ∧
      IngestStep Aead.checksum s (.answered (uplinkKey 7) { first with duplicate := true }) s' ∧
      s'.store = s.store ∧
      IngestRun Aead.checksum [C2Key.sample] 2 [(uplinkKey 5 3, other), (uplinkKey 7, first),
        (uplinkKey 9, third), (uplinkKey 8, second), (uplinkKey 7, first)] last ∧
      last.store.events = [first, second] ∧
      last.store.seen = {uplinkKey 7, uplinkKey 8} ∧
      (last.store.latest.find? fun event => event.originId = 3) = some other ∧
      (last.store.latest.find? fun event => event.originId = 2) = some first := by
  obtain ⟨other, hother, hnode⟩ := prepareIngest_sampleCall 5 3 (by decide)
  obtain ⟨first, hfirst, hnode₇⟩ := prepareIngest_sampleCall 7 2 (by decide)
  obtain ⟨second, hsecond, hnode₈⟩ := prepareIngest_sampleCall 8 2 (by decide)
  obtain ⟨third, hthird, hnode₉⟩ := prepareIngest_sampleCall 9 2 (by decide)
  have hmax : 1 ≤ 2 := by decide
  have hstart : IngestRun Aead.checksum [C2Key.sample] 2 []
      (⟨C2EventStore.initial [C2Key.sample] 2, fun _ => none⟩ : IngestThreads Bool) := .initial
  -- Node 3 uploads; then both threads have read the same upload of node 2.
  obtain ⟨_, hother⟩ := ((hstart.to_lock hmax false rfl hother).answer_cases hmax
    (Function.update_self ..)).2 (show uplinkKey 5 3 ∉ [] by decide)
  have hboth := (hother.to_lock hmax false rfl hfirst).to_lock hmax true rfl hfirst
  obtain ⟨_, hone⟩ := (hboth.answer_cases hmax (i := false) rfl).2
    (show uplinkKey 7 ∉ [uplinkKey 5 3] by decide)
  have hagain := (hone.answer_cases hmax (i := true) rfl).1
    (show uplinkKey 7 ∈ [uplinkKey 7, uplinkKey 5 3] by decide)
  have hstore := (store_invariant Aead.checksum [C2Key.sample] hmax hone).2.2.2.2.2.2 _ _ hagain rfl
  -- The next two in the order of the lock, and the first one again.
  have hanswered : IngestRun _ _ _ _ _ := .step hone hagain
  have hnext := (hanswered.to_lock hmax false rfl hsecond).to_lock hmax true rfl hthird
  obtain ⟨_, hthird⟩ := (hnext.answer_cases hmax (i := true) rfl).2
    (show uplinkKey 9 ∉ [uplinkKey 7, uplinkKey 5 3] by decide)
  obtain ⟨_, hsecond⟩ := (hthird.answer_cases hmax (i := false) rfl).2
    (show uplinkKey 8 ∉ [uplinkKey 9, uplinkKey 7] by decide)
  obtain ⟨_, hlast⟩ := ((hsecond.to_lock hmax false rfl hfirst).answer_cases hmax (i := false) rfl).2
    (show uplinkKey 7 ∉ [uplinkKey 8, uplinkKey 9] by decide)
  obtain ⟨-, hevents, -, -, hseen, hlatest, -⟩ :=
    store_invariant Aead.checksum [C2Key.sample] hmax hlast
  refine ⟨other, first, second, third, _, _, _, hone,
    (store_invariant Aead.checksum [C2Key.sample] hmax hone).2.1, hagain, hstore, hlast, hevents,
    hseen.trans (show [uplinkKey 7, uplinkKey 8].toFinset = _ by decide), ?_, ?_⟩
  · refine (hlatest 3).trans (?_ : [first, second, third, first, other].find? _ = _)
    simp only [List.find?_cons, hnode, hnode₇, hnode₈, hnode₉]
    rfl
  · exact (hlatest 2).trans (List.find?_cons_of_pos (decide_eq_true hnode₇))

end KovaWfb
