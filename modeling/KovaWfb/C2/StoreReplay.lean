/-
# What the C2 store recognises as a replay

`python/examples/c2_http_server.py`, lines 113 to 191.  The store keeps the dedupe
keys of the events it still shows: the section under the lock adds a key together
with its event, and the eviction of an old event rebuilds its key from it and
discards that key too.

So the store is a first-in first-out set of keys (`C2EventStore.Tracks`) and each
answered call is one `remember` (`record_tracks`).  Along a run of calls an upload is
recognised as long as fewer than `max_events` other uploads were newly recorded since
its own record, and no longer.  Calls of several clients come in the order in which
they get the lock: before it a call reads the keyring only, which never changes.
-/

import KovaWfb.Lib.FifoSet
import KovaWfb.C2.Pipeline

namespace KovaWfb

/-! ### The store as a set of keys -/

/-- The store shows one event for each key of the set, in the order of the set. -/
structure C2EventStore.Tracks (store : C2EventStore) (w : FifoSet (List ℤ)) : Prop where
  limit : w.limit = store.maxEvents
  seen : store.seen = w.seen
  keys : store.events.reverse.map C2Event.dedupeKey = w.order.map Except.ok

theorem tracks_initial (ring : C2Keyring) {maxEvents : ℕ} (hmax : 0 < maxEvents) :
    (C2EventStore.initial ring maxEvents).Tracks (FifoSet.empty maxEvents hmax) :=
  ⟨rfl, rfl, rfl⟩

/-- **The eviction loop over events is the loop over their keys**, and it leaves the
newest events. -/
theorem evictEvents_eq (maxEvents : ℕ) {events : List C2Event} {keys : List (List ℤ)}
    (h : events.map C2Event.dedupeKey = keys.map Except.ok) (seen : Finset (List ℤ)) :
    evictEvents maxEvents seen events =
      .ok ((FifoSet.evict maxEvents seen keys).1, events.drop (events.length - maxEvents)) := by
  induction events generalizing keys seen with
  | nil =>
    obtain rfl := List.map_eq_nil_iff.mp h.symm
    rw [List.drop_nil]
    rfl
  | cons old newer ih =>
    obtain ⟨key, keys', rfl, hkey, hkeys⟩ := List.map_eq_cons_iff.mp h.symm
    have hlen : newer.length = keys'.length := by
      rw [← List.length_map (f := C2Event.dedupeKey), ← hkeys, List.length_map]
    by_cases hlt : maxEvents < newer.length + 1
    · rw [evictEvents, if_pos hlt, FifoSet.evict, if_pos (hlen ▸ hlt), ← hkey, List.length_cons,
        Nat.succ_sub (by omega), List.drop_succ_cons]
      exact ih hkeys.symm _
    · rw [evictEvents, if_neg hlt, FifoSet.evict, if_neg (hlen ▸ hlt), List.length_cons,
        Nat.sub_eq_zero_of_le (by omega), List.drop_zero]
      rfl

/-- A key the store knows: the event is marked and nothing is recorded. -/
theorem record_of_mem {store : C2EventStore} {key : List ℤ} {event : C2Event}
    (h : key ∈ store.seen) :
    record key event store = .ok { event with duplicate := true } store := by
  rw [record, PyM.get_bind_apply, if_pos h]
  rfl

/-- The store with one more event, shown in front, without the oldest ones. -/
def C2EventStore.push (store : C2EventStore) (w : FifoSet (List ℤ)) (key : List ℤ)
    (event : C2Event) : C2EventStore :=
  { store with
    events := (event :: store.events).take store.maxEvents
    latestByNode := dictSet event.originId event store.latestByNode
    seen := (w.remember key).2.seen }

/-- A new key: the event is recorded in front and the oldest ones are evicted. -/
theorem record_of_not_mem {store : C2EventStore} {w : FifoSet (List ℤ)} (h : store.Tracks w)
    {key : List ℤ} {event : C2Event} (hkey : event.dedupeKey = .ok key) (hseen : ¬ key ∈ w) :
    record key event store = .ok event (store.push w key event) ∧
      (store.push w key event).Tracks (w.remember key).2 := by
  have hstore : ¬ key ∈ store.seen := by
    rw [h.seen]
    exact hseen
  have hkeys : (event :: store.events).reverse.map C2Event.dedupeKey =
      (w.order ++ [key]).map Except.ok := by
    rw [List.reverse_cons, List.map_append, h.keys, List.map_append, List.map_singleton, hkey]
    rfl
  have hevents : ((event :: store.events).reverse.drop
      ((event :: store.events).reverse.length - store.maxEvents)).reverse =
        (event :: store.events).take store.maxEvents := by
    rw [List.drop_reverse, List.reverse_reverse, List.length_reverse, List.take_eq_take_iff]
    omega
  have hpush : (w.remember key).2.seen =
      (FifoSet.evict store.maxEvents (insert key store.seen) (w.order ++ [key])).1 := by
    rw [FifoSet.remember, dif_neg hseen, h.seen]
    simp only [FifoSet.push, h.limit]
  constructor
  · rw [record, PyM.get_bind_apply, if_neg hstore]
    simp only [PyM.bind_apply, PyM.set_apply, PyM.monadLift_apply,
      evictEvents_eq store.maxEvents hkeys, PyM.lift_ok, hevents, C2EventStore.push, hpush]
    rfl
  · refine ⟨by rw [FifoSet.remember_limit]; exact h.limit, rfl, ?_⟩
    have horder := congrArg (List.drop ((event :: store.events).reverse.length - store.maxEvents)) hkeys
    rw [← List.map_drop, ← List.map_drop] at horder
    rw [FifoSet.remember_order_of_not_mem hseen, h.limit]
    simp only [C2EventStore.push]
    rw [← hevents, List.reverse_reverse, horder]
    have hlen := congrArg List.length hkeys
    rw [List.length_map, List.length_map] at hlen
    rw [hlen]

/-- **The section under the lock is one `remember`.** -/
theorem record_tracks {store : C2EventStore} {w : FifoSet (List ℤ)} (h : store.Tracks w)
    {key : List ℤ} {event : C2Event} (hkey : event.dedupeKey = .ok key) :
    ∃ event' store', record key event store = .ok event' store' ∧
      store'.Tracks (w.remember key).2 ∧ store'.keyring = store.keyring ∧
      event'.duplicate = (event.duplicate || decide (key ∈ w)) ∧ (key ∈ w → store' = store) := by
  by_cases hseen : key ∈ w
  · refine ⟨_, _, record_of_mem (by rw [h.seen]; exact hseen), ?_, rfl, by simp [hseen],
      fun _ => rfl⟩
    rw [FifoSet.remember_of_mem hseen]
    exact h
  · obtain ⟨hrecord, htracks⟩ := record_of_not_mem h hkey hseen
    exact ⟨_, _, hrecord, htracks, rfl, by simp [hseen], fun hmem => absurd hmem hseen⟩

/-! ### Calls -/

/-- One call of `ingest`: when, from where and what. -/
structure IngestCall where
  nowMs : ℤ
  clientIp : String
  upload : JsonFields

/-- The call on a store. -/
def IngestCall.run (A : Aead) (call : IngestCall) : PyM C2EventStore C2Event :=
  ingest A call.nowMs call.clientIp call.upload

/-- The store after a call, answered or not: the handler of the request catches what it
raises. -/
def IngestCall.after (A : Aead) (store : C2EventStore) (call : IngestCall) : C2EventStore :=
  resultState (call.run A store)

/-- The store after a list of calls. -/
def runCalls (A : Aead) (store : C2EventStore) (calls : List IngestCall) : C2EventStore :=
  calls.foldl (IngestCall.after A) store

/-- The call was answered with an event that is no duplicate: it recorded its
upload. -/
def IngestCall.records (A : Aead) (store : C2EventStore) (call : IngestCall) : Bool :=
  match call.run A store with
  | .ok event _ => !event.duplicate
  | .error _ _ => false

/-- The dedupe keys a list of calls newly recorded, in order. -/
def recordedKeys (A : Aead) : C2EventStore → List IngestCall → List (List ℤ)
  | _, [] => []
  | store, call :: calls =>
      (match openUpload A store.keyring call.upload with
        | .ok o => if call.records A store then [o.dedupeKey] else []
        | .error _ => []) ++ recordedKeys A (call.after A store) calls

variable {A : Aead}

/-- An opened upload has a registered origin type and the domain of the uplinks. -/
theorem openUpload_registered {ring : C2Keyring} {upload : JsonFields} {o : OpenedUpload}
    (h : openUpload A ring upload = .ok o) :
    addressTypes.Has o.route.originType ∧ securityDomains.Has o.secure.securityDomain := by
  obtain ⟨-, -, -, hdomain, -, hvalid, -, -⟩ := openUpload_eq_ok_iff.mp h
  refine ⟨hvalid.origin.registered, ?_⟩
  rw [hdomain]
  decide

/-- **The eviction rebuilds the key that was recorded.** -/
theorem uploadEvent_dedupeKey {ring : C2Keyring} {upload upload' : JsonFields} {o : OpenedUpload}
    (h : openUpload A ring upload = .ok o) {nowMs : ℤ} {clientIp : String} {event : C2Event}
    (hevent : uploadEvent nowMs clientIp upload' o = .ok event) :
    event.dedupeKey = .ok o.dedupeKey ∧ event.duplicate = false := by
  obtain ⟨horigin, hdomain⟩ := openUpload_registered h
  rw [uploadEvent, Py.bind_eq_ok] at hevent
  obtain ⟨content, -, hevent⟩ := hevent
  obtain rfl := Py.pure_eq_ok.mp hevent
  refine ⟨?_, rfl⟩
  simp only [C2Event.dedupeKey, Py.bind_eq_ok, Py.pure_eq_ok]
  exact ⟨_, namedValue_valueName.2.2.1 horigin, _, namedValue_valueName.2.1 hdomain, rfl⟩

/-- **Every way a call ends.**  It raises and leaves the store, or its upload opened
and its key was remembered. -/
theorem IngestCall.cases {store : C2EventStore} {w : FifoSet (List ℤ)} (h : store.Tracks w)
    (call : IngestCall) :
    (∃ e, call.run A store = .error e store) ∨
      ∃ o event store', openUpload A store.keyring call.upload = .ok o ∧
        call.run A store = .ok event store' ∧ store'.Tracks (w.remember o.dedupeKey).2 ∧
        store'.keyring = store.keyring ∧ event.duplicate = decide (o.dedupeKey ∈ w) ∧
        (o.dedupeKey ∈ w → store' = store) := by
  cases hopen : openUpload A store.keyring call.upload with
  | error e =>
    refine Or.inl ⟨e, ?_⟩
    rw [IngestCall.run, ingest, PyM.get_bind_apply, PyM.bind_apply, PyM.monadLift_apply, hopen]
    rfl
  | ok o =>
    rw [IngestCall.run, ingest_of_openUpload hopen, PyM.bind_apply, PyM.monadLift_apply]
    cases hevent : uploadEvent call.nowMs call.clientIp call.upload o with
    | error e => exact Or.inl ⟨e, rfl⟩
    | ok event =>
      obtain ⟨hkey, hduplicate⟩ := uploadEvent_dedupeKey hopen hevent
      obtain ⟨event', store', hrecord, htracks, hring, hdup, hsame⟩ := record_tracks h hkey
      rw [hduplicate, Bool.false_or] at hdup
      exact Or.inr ⟨o, event', store', rfl, hrecord, htracks, hring, hdup, hsame⟩

/-- What an answer says of a call whose upload opens. -/
theorem IngestCall.of_answer {store store' : C2EventStore} {w : FifoSet (List ℤ)}
    (h : store.Tracks w) {call : IngestCall} {o : OpenedUpload} {event : C2Event}
    (hopen : openUpload A store.keyring call.upload = .ok o)
    (hrun : call.run A store = .ok event store') :
    store'.Tracks (w.remember o.dedupeKey).2 ∧ store'.keyring = store.keyring ∧
      event.duplicate = decide (o.dedupeKey ∈ w) ∧ (o.dedupeKey ∈ w → store' = store) := by
  obtain ⟨e, herror⟩ | ⟨o₁, event₁, store₁, hopen₁, hrun₁, hcall⟩ := call.cases (A := A) h
  · cases hrun.symm.trans herror
  · obtain ⟨rfl, rfl⟩ := EStateM.Result.ok.inj (hrun.symm.trans hrun₁)
    obtain rfl := Except.ok.inj (hopen.symm.trans hopen₁)
    exact hcall

/-- One call remembers the key it newly recorded. -/
theorem IngestCall.after_tracks {store : C2EventStore} {w : FifoSet (List ℤ)} (h : store.Tracks w)
    (call : IngestCall) :
    ∃ w', FifoSet.Traces w (recordedKeys A store [call]) w' ∧ (call.after A store).Tracks w' ∧
      (call.after A store).keyring = store.keyring := by
  obtain ⟨e, hrun⟩ | ⟨o, event, store', hopen, hrun, htracks, hring, hdup, -⟩ := call.cases (A := A) h
  · refine ⟨w, ?_, by rw [IngestCall.after, hrun]; exact h, by rw [IngestCall.after, hrun]; rfl⟩
    simp only [recordedKeys, IngestCall.records, hrun]
    cases openUpload A store.keyring call.upload <;> exact .refl w
  · refine ⟨(w.remember o.dedupeKey).2, ?_, ?_, ?_⟩
    · have htrace := FifoSet.traces_remember w o.dedupeKey
      simp only [recordedKeys, hopen, IngestCall.records, hrun, hdup, List.append_nil]
      by_cases hmem : o.dedupeKey ∈ w
      · simpa [hmem] using htrace
      · simpa [hmem] using htrace
    · rw [IngestCall.after, hrun]
      exact htracks
    · rw [IngestCall.after, hrun]
      exact hring

/-- **A run of calls is a history of newly recorded keys.** -/
theorem runCalls_tracks {store : C2EventStore} {w : FifoSet (List ℤ)} (h : store.Tracks w)
    (calls : List IngestCall) :
    ∃ w', FifoSet.Traces w (recordedKeys A store calls) w' ∧ (runCalls A store calls).Tracks w' ∧
      (runCalls A store calls).keyring = store.keyring := by
  induction calls generalizing store w with
  | nil => exact ⟨w, .refl w, h, rfl⟩
  | cons call calls ih =>
    obtain ⟨w₁, htrace₁, htracks₁, hring₁⟩ := call.after_tracks (A := A) h
    obtain ⟨w₂, htrace₂, htracks₂, hring₂⟩ := ih htracks₁
    refine ⟨w₂, ?_, htracks₂, hring₂.trans hring₁⟩
    have hkeys : recordedKeys A store (call :: calls) = recordedKeys A store [call] ++
        recordedKeys A (call.after A store) calls := by
      simp only [recordedKeys, List.append_nil]
    rw [hkeys]
    exact htrace₁.trans htrace₂

/-- **What the store recognises as a replay.**  In every run of calls: an upload that
opens under the key of one recorded earlier changes nothing and is answered, if at all,
as a duplicate, as long as fewer than `max_events` others were newly recorded in between.
After that many others, and none under its own key, it counts as new. -/
theorem replay_recognised (A : Aead) (ring : C2Keyring) {maxEvents : ℕ} (hmax : 1 ≤ maxEvents)
    (before between : List IngestCall) (first replay : IngestCall) {o o' : OpenedUpload}
    {event : C2Event} {store : C2EventStore}
    (hopen : openUpload A ring first.upload = .ok o)
    (hfirst : first.run A (runCalls A (C2EventStore.initial ring maxEvents) before) = .ok event store)
    (hnew : event.duplicate = false) (hopen' : openUpload A ring replay.upload = .ok o')
    (hkey : o'.dedupeKey = o.dedupeKey) :
    (((recordedKeys A store between).toFinset.erase o.dedupeKey).card < maxEvents →
      replay.after A (runCalls A store between) = runCalls A store between ∧
        ∀ answer store', replay.run A (runCalls A store between) = .ok answer store' →
          answer.duplicate = true) ∧
    (maxEvents ≤ (recordedKeys A store between).length →
      o.dedupeKey ∉ recordedKeys A store between →
        ∀ answer store', replay.run A (runCalls A store between) = .ok answer store' →
          answer.duplicate = false) := by
  obtain ⟨w, htrace, htracks, hring⟩ := runCalls_tracks (A := A) (tracks_initial ring hmax) before
  have hlimit : w.limit = maxEvents := htrace.limit_eq
  have hopen₀ : openUpload A (runCalls A (C2EventStore.initial ring maxEvents) before).keyring
      first.upload = .ok o := hring ▸ hopen
  obtain ⟨htracks₁, hring₁, hduplicate, -⟩ := IngestCall.of_answer htracks hopen₀ hfirst
  have hold : ¬ o.dedupeKey ∈ w := of_decide_eq_false (hduplicate.symm.trans hnew)
  obtain ⟨w₂, htrace₂, htracks₂, hring₂⟩ := runCalls_tracks (A := A) htracks₁ between
  have hopen₂ : openUpload A (runCalls A store between).keyring replay.upload = .ok o' := by
    rw [hring₂, hring₁, hring]
    exact hopen'
  constructor
  · intro hfew
    have hmem : o'.dedupeKey ∈ w₂ := hkey ▸ htrace₂.mem_of_card_lt hold (hlimit ▸ hfew)
    constructor
    · rw [IngestCall.after]
      cases hrun : replay.run A (runCalls A store between) with
      | ok answer store' => exact (IngestCall.of_answer htracks₂ hopen₂ hrun).2.2.2 hmem
      | error e store' =>
        obtain ⟨e', herror⟩ | ⟨_, _, _, -, hok, -⟩ := replay.cases (A := A) htracks₂
        · exact (EStateM.Result.error.inj (hrun.symm.trans herror)).2
        · cases hrun.symm.trans hok
    · intro answer store' hanswer
      rw [(IngestCall.of_answer htracks₂ hopen₂ hanswer).2.2.1]
      exact decide_eq_true hmem
  · intro hmany hnot answer store' hanswer
    have hgone : ¬ o'.dedupeKey ∈ w₂ := fun hmem => by
      have hlt := htrace₂.length_lt_of_mem hold hnot (hkey ▸ hmem)
      omega
    rw [(IngestCall.of_answer htracks₂ hopen₂ hanswer).2.2.1]
    exact decide_eq_false hgone

/-! ### A replay that is taken for new -/

/-- The uplink of a node with this sequence number, under the sample key. -/
def storedUplink (originSeq : ℤ) (originId : ℤ := 2) (payload : Bytes := [104, 105]) : RouteDataV2 :=
  let d : E2eBinding :=
    ⟨addrNode, originId, addrC2, 1, originSeq, trafficC2Uplink, msgText, payload.length⟩
  ⟨routeV2Version, addrNode, originId, addrC2, 1, 3, originSeq, trafficC2Uplink, msgText,
    (CryptoConfig.sampleUplink.wrap Aead.checksum Env.sample.urandom payload d.bytes).bytes⟩

theorem valid_storedUplink {originSeq originId : ℤ} {payload : Bytes}
    (horigin : IsOriginAddress addrNode originId) (hseq : FitsWidth 4 originSeq)
    (hpayload : FitsWidth 2 (storedUplink originSeq originId payload).innerPayload.length) :
    (storedUplink originSeq originId payload).Valid where
  routeVersion := rfl
  origin := horigin
  destination := (⟨by decide, by decide, by decide, by decide⟩ : IsDestinationAddress addrC2 1)
  ttl := (by decide : FitsWidth 1 3)
  originSeq := hseq
  trafficClass := (by decide : FitsWidth 1 trafficC2Uplink)
  innerType := (by decide : FitsWidth 1 msgText)
  innerType_ne := (by decide : ¬ (msgText = msgRouteData ∨ msgText = msgRouteV2))
  innerPayload := hpayload

/-- The call that uploads it. -/
def sampleCall (originSeq : ℤ) (originId : ℤ := 2) (payload : Bytes := [104, 105]) : IngestCall :=
  ⟨0, "", c2Upload 1 none 0 (storedUplink originSeq originId payload)⟩

/-- A store that shows one event. -/
def sampleStore : C2EventStore := C2EventStore.initial [C2Key.sample] 1

theorem sampleCall_opens :
    ∃ o, openUpload Aead.checksum [C2Key.sample] (sampleCall 7).upload = .ok o ∧
      o.dedupeKey = [addrNode, 2, 7, secDomainNodeToC2, 1, 1] :=
  Py.exists_eq_ok_of_map (by decide +kernel)

/-- The first upload is new to the store. -/
theorem sampleCall_recorded : ∃ event, (sampleCall 7).run Aead.checksum sampleStore =
    .ok event ((sampleCall 7).after Aead.checksum sampleStore) ∧ event.duplicate = false := by
  have h : (resultValue? ((sampleCall 7).run Aead.checksum sampleStore)).map C2Event.duplicate =
      some false := by
    decide +kernel
  obtain ⟨event, store, hrun, hduplicate⟩ := exists_eq_ok_of_map h
  exact ⟨event, by rw [IngestCall.after, hrun]; rfl, hduplicate⟩

/-- **A replay can be taken for new**: with room for one event, one upload of the same
node in between is enough. -/
theorem replay_taken_for_new :
    ¬ ∀ (maxEvents : ℕ) (before between : List IngestCall) (first replay : IngestCall)
      (o o' : OpenedUpload) (event answer : C2Event) (store store' : C2EventStore), 1 ≤ maxEvents →
      openUpload Aead.checksum [C2Key.sample] first.upload = .ok o →
      first.run Aead.checksum (runCalls Aead.checksum
        (C2EventStore.initial [C2Key.sample] maxEvents) before) = .ok event store →
      event.duplicate = false →
      openUpload Aead.checksum [C2Key.sample] replay.upload = .ok o' → o'.dedupeKey = o.dedupeKey →
      replay.run Aead.checksum (runCalls Aead.checksum store between) = .ok answer store' →
        answer.duplicate = true := by
  intro hclaim
  obtain ⟨o, hopen, -⟩ := sampleCall_opens
  obtain ⟨event, hfirst, hnew⟩ := sampleCall_recorded
  have hagain : (resultValue? ((sampleCall 7).run Aead.checksum (runCalls Aead.checksum
      ((sampleCall 7).after Aead.checksum sampleStore) [sampleCall 8]))).map C2Event.duplicate =
        some false := by
    decide +kernel
  obtain ⟨answer, store', hrun, hduplicate⟩ := exists_eq_ok_of_map hagain
  have htrue := hclaim 1 [] [sampleCall 8] (sampleCall 7) (sampleCall 7) o o event answer _ store'
    le_rfl hopen hfirst hnew hopen rfl hrun
  rw [hduplicate] at htrue
  cases htrue

/-- A store that shows two events. -/
def storeOfTwo : C2EventStore := C2EventStore.initial [C2Key.sample] 2

/-- With room for two events, the replay is recognised after one other upload and taken for new
after two. -/
theorem replay_recognised_sample :
    ∃ o event store, openUpload Aead.checksum [C2Key.sample] (sampleCall 7).upload = .ok o ∧
      (sampleCall 7).run Aead.checksum storeOfTwo = .ok event store ∧ event.duplicate = false ∧
      (∃ answer, (sampleCall 7).run Aead.checksum (runCalls Aead.checksum store [sampleCall 8]) =
        .ok answer (runCalls Aead.checksum store [sampleCall 8]) ∧ answer.duplicate = true) ∧
      ∃ answer store', (sampleCall 7).run Aead.checksum
          (runCalls Aead.checksum store [sampleCall 8, sampleCall 9]) = .ok answer store' ∧
        answer.duplicate = false := by
  obtain ⟨o, hopen, hkey⟩ := sampleCall_opens
  have hfirst : (resultValue? ((sampleCall 7).run Aead.checksum storeOfTwo)).map C2Event.duplicate =
      some false := by
    decide +kernel
  obtain ⟨event, store, hrun, hnew⟩ := exists_eq_ok_of_map hfirst
  obtain rfl : (sampleCall 7).after Aead.checksum storeOfTwo = store := by
    rw [IngestCall.after, hrun]
    rfl
  have hanswer : ∀ between ∈ [[sampleCall 8], [sampleCall 8, sampleCall 9]],
      (resultValue? ((sampleCall 7).run Aead.checksum (runCalls Aead.checksum
        ((sampleCall 7).after Aead.checksum storeOfTwo) between))).map (fun _ => ()) = some () := by
    decide +kernel
  obtain ⟨answer, store', hagain, -⟩ := exists_eq_ok_of_map (hanswer _ List.mem_cons_self)
  obtain ⟨late, lateStore, hlate, -⟩ :=
    exists_eq_ok_of_map (hanswer [sampleCall 8, sampleCall 9] (by simp))
  have hone : recordedKeys Aead.checksum ((sampleCall 7).after Aead.checksum storeOfTwo)
      [sampleCall 8] = [[addrNode, 2, 8, secDomainNodeToC2, 1, 1]] := by
    decide +kernel
  have htwo : recordedKeys Aead.checksum ((sampleCall 7).after Aead.checksum storeOfTwo)
      [sampleCall 8, sampleCall 9] =
        [[addrNode, 2, 8, secDomainNodeToC2, 1, 1], [addrNode, 2, 9, secDomainNodeToC2, 1, 1]] := by
    decide +kernel
  have hkept := (replay_recognised Aead.checksum [C2Key.sample] (show 1 ≤ 2 by decide) []
    [sampleCall 8] (sampleCall 7) (sampleCall 7) hopen hrun hnew hopen rfl).1
      (by rw [hone, hkey]; decide)
  have hforgotten := (replay_recognised Aead.checksum [C2Key.sample] (show 1 ≤ 2 by decide) []
    [sampleCall 8, sampleCall 9] (sampleCall 7) (sampleCall 7) hopen hrun hnew hopen rfl).2
      (by rw [htwo]; decide) (by rw [htwo, hkey]; decide)
  have hsame : store' = runCalls Aead.checksum ((sampleCall 7).after Aead.checksum storeOfTwo)
      [sampleCall 8] :=
    (congrArg resultState hagain).symm.trans hkept.1
  exact ⟨o, event, _, hopen, hrun, hnew,
    ⟨answer, hagain.trans (congrArg (EStateM.Result.ok answer) hsame), hkept.2 answer store' hagain⟩,
    late, lateStore, hlate, hforgotten late lateStore hlate⟩

end KovaWfb
