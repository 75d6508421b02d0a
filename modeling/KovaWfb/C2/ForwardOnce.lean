/-
# The gateway forwards each uplink once, if it comes one way

Uplinks reach the gateway as received frames and as the upload objects that mesh
nodes send to its local tap, in any order.  Both are looked up in one window, but a
frame under (origin type, origin id, sequence number) and an upload object under
(origin id, sequence number).

So the same uplink is posted twice when it comes both ways, and two uplinks whose
origins differ in type only are taken for one when both come by the tap.
`forwards_once_iff` says that nothing else goes wrong: the window does its job exactly
if no uplink arrives while the window remembers it from the other path, or, by the
tap, remembers there an uplink that differs in the origin type only.
-/

import KovaWfb.C2.Gateway
import KovaWfb.Lib.Dedupe
import KovaWfb.Mesh.Receive

namespace KovaWfb

/-! ### Runs -/

/-- What happens to a gateway: a received payload, an upload object that a mesh node
sends to the tap, a hop to another channel. -/
inductive GatewayInput
  | rf (utcMs : ℤ) (payload : Bytes)
  | tap (node : NodeConfig) (env : Env) (state : NodeState) (route : RouteDataV2)
      (valid : route.Valid) (uplink : route.IsUplink)
  | retune (channel : ℤ)

/-- One turn of the loop. -/
def gatewayStep (cfg : GatewayConfig) : GatewayInput → PyM GatewayState (Option GatewayVerdict)
  | .rf utcMs payload => do
      let verdict ← gatewayReceive cfg utcMs payload
      pure (some verdict)
  | .tap node env state route _ _ => do
      let verdict ← drainLocalTap (.ok (.obj (buildC2Upload node env state route)))
      pure (some verdict)
  | .retune channel => do
      modify fun s => { s with currentChannel := some channel }
      pure none

/-- The state of the gateway after a run. -/
def gatewayAfter (cfg : GatewayConfig) (run : List GatewayInput) : GatewayState :=
  run.foldl (fun s input => resultState (gatewayStep cfg input s)) (GatewayState.initial cfg)

/-- After `pre`, the gateway posts what arrives as `a`. -/
def Posts (cfg : GatewayConfig) (pre : List GatewayInput) (a : GatewayInput) : Prop :=
  ∃ v s', gatewayStep cfg a (gatewayAfter cfg pre) = .ok (some v) s' ∧ v.isPosted = true

/-- After `pre`, the gateway drops what arrives as `a` as a duplicate. -/
def DropsDuplicate (cfg : GatewayConfig) (pre : List GatewayInput) (a : GatewayInput) : Prop :=
  ∃ v s', gatewayStep cfg a (gatewayAfter cfg pre) = .ok (some v) s' ∧ v.isDuplicate = true

namespace GatewayInput

/-- The uplink that arrives. -/
def route : GatewayInput → Option RouteDataV2
  | .rf _ payload => rfUplink payload
  | .tap _ _ _ route _ _ => some route
  | .retune _ => none

/-- Which uplink it is: origin type, origin id and sequence number. -/
def uplink (a : GatewayInput) : Option (List ℤ) := a.route.map RouteDataV2.dedupeKey

/-- The uplink that arrives by the tap. -/
def tapRoute : GatewayInput → Option RouteDataV2
  | .tap _ _ _ route _ _ => some route
  | .rf .. | .retune _ => none

/-- It came by the tap. -/
def byTap (a : GatewayInput) : Bool := a.tapRoute.isSome

/-- The key it is looked up under. -/
def windowKey : GatewayInput → Option (List ℤ)
  | .rf _ payload => (rfUplink payload).map RouteDataV2.dedupeKey
  | .tap _ _ _ route _ _ => some [route.originId, route.originSeq]
  | .retune _ => none

end GatewayInput

/-- The keys that the window newly takes in along `mid`, after `pre`, for uplinks other
than `u`. -/
def otherUplinkKeys (cfg : GatewayConfig) (u : Option (List ℤ)) :
    List GatewayInput → List GatewayInput → Finset (List ℤ)
  | _, [] => ∅
  | pre, m :: mid =>
      (if m.uplink = u then ∅
        else (FifoSet.newKeys (gatewayAfter cfg pre).seen
          (gatewayAfter cfg (pre ++ [m])).seen).toFinset) ∪
      otherUplinkKeys cfg u (pre ++ [m]) mid

/-- **At most one POST**: of two arrivals of one uplink, with keys of fewer than
`seen_limit` other uplinks remembered in between, at most one is posted. -/
def PostsOnce (cfg : GatewayConfig) (run : List GatewayInput) : Prop :=
  ∀ pre a mid b, pre ++ a :: (mid ++ [b]) <+: run → a.uplink = b.uplink →
    (otherUplinkKeys cfg a.uplink (pre ++ [a]) mid).card < cfg.seenLimit →
    ¬ (Posts cfg pre a ∧ Posts cfg (pre ++ a :: mid) b)

/-- After `pre`, `a` was posted, and after `mid` the window still holds the key it was
remembered under then. -/
structure StillRemembered (cfg : GatewayConfig) (pre : List GatewayInput) (a : GatewayInput)
    (mid : List GatewayInput) : Prop where
  posted : Posts cfg pre a
  not_again : ∀ l m r, mid = l ++ m :: r → Posts cfg (pre ++ a :: l) m → m.windowKey ≠ a.windowKey
  held : ∃ k, a.windowKey = some k ∧ k ∈ (gatewayAfter cfg (pre ++ a :: mid)).seen

/-- **No confusion**: what is dropped as a duplicate, under the key of an earlier
arrival, is the same uplink. -/
def KeepsApart (cfg : GatewayConfig) (run : List GatewayInput) : Prop :=
  ∀ pre a mid b, pre ++ a :: (mid ++ [b]) <+: run → StillRemembered cfg pre a mid →
    DropsDuplicate cfg (pre ++ a :: mid) b → a.windowKey = b.windowKey → a.uplink = b.uplink

/-- The same uplink comes by the same path, and uplinks that come by the tap with the
same origin id and sequence number have the same origin type. -/
structure GatewayInput.Consistent (a b : GatewayInput) : Prop where
  same_path : a.uplink = b.uplink → a.byTap = b.byTap
  same_type : ∀ r r', a.tapRoute = some r → b.tapRoute = some r' → r.originId = r'.originId →
    r.originSeq = r'.originSeq → r.originType = r'.originType

/-- Whatever arrives is consistent with every arrival that the window remembers. -/
def ConsistentArrivals (cfg : GatewayConfig) (run : List GatewayInput) : Prop :=
  ∀ pre a mid b, pre ++ a :: (mid ++ [b]) <+: run → StillRemembered cfg pre a mid → a.Consistent b

/-! ### The run is a stream through the window -/

section Stream

open FifoSet

variable {cfg : GatewayConfig} {pre mid : List GatewayInput} {a b : GatewayInput}

/-- A turn that looks its key up and posts what is new. -/
theorem gatewayStep_of_lookup {s : GatewayState} {key : List ℤ} (duplicate posted : GatewayVerdict)
    (hkey : a.windowKey = some key)
    (hduplicate : duplicate.isPosted = false ∧ duplicate.isDuplicate = true)
    (hposted : posted.isPosted = true ∧ posted.isDuplicate = false)
    (hstep : gatewayStep cfg a s = if key ∈ s.seen then .ok (some duplicate) s
      else .ok (some posted) { s with seen := (s.seen.remember key).2 }) :
    ∃ v s', gatewayStep cfg a s = .ok v s' ∧ s'.seen = filterStep GatewayInput.windowKey s.seen a ∧
      ((∃ x ∈ v, x.isPosted = true) ↔ Passes GatewayInput.windowKey s.seen a) ∧
      ((∃ x ∈ v, x.isDuplicate = true) ↔ ∃ k, a.windowKey = some k ∧ k ∈ s.seen) := by
  rw [filterStep_of_some hkey, passes_of_some hkey, hstep, hkey]
  by_cases hseen : key ∈ s.seen
  · rw [if_pos hseen, remember_of_mem hseen]
    exact ⟨_, _, rfl, rfl, by simp [hduplicate.1, hseen], by simp [hduplicate.2, hseen]⟩
  · rw [if_neg hseen]
    exact ⟨_, _, rfl, rfl, by simp [hposted.1, hseen], by simp [hposted.2, hseen]⟩

/-- **What one turn of the loop does**: what arrives is looked up under its key, posted
when the key is new and dropped when it is not. -/
theorem gatewayStep_eq (cfg : GatewayConfig) (a : GatewayInput) (s : GatewayState) :
    ∃ v s', gatewayStep cfg a s = .ok v s' ∧ s'.seen = filterStep GatewayInput.windowKey s.seen a ∧
      ((∃ x ∈ v, x.isPosted = true) ↔ Passes GatewayInput.windowKey s.seen a) ∧
      ((∃ x ∈ v, x.isDuplicate = true) ↔ ∃ k, a.windowKey = some k ∧ k ∈ s.seen) := by
  cases a with
  | retune channel =>
    exact ⟨none, _, rfl, rfl, by simp [Passes, GatewayInput.windowKey],
      by simp [GatewayInput.windowKey]⟩
  | rf utcMs payload =>
    have hreceive := gatewayReceive_eq cfg utcMs payload s
    cases hroute : rfUplink payload with
    | none =>
      have hkey : (GatewayInput.rf utcMs payload).windowKey = none := by
        rw [GatewayInput.windowKey, hroute]
        rfl
      rw [hroute] at hreceive
      obtain ⟨v, hv, hposted, hduplicate⟩ := hreceive
      refine ⟨some v, s, ?_, by rw [filterStep, hkey], by simp [Passes, hkey, hposted],
        by simp [hkey, hduplicate]⟩
      rw [gatewayStep, PyM.bind_apply, hv]
      rfl
    | some route =>
      have hkey : (GatewayInput.rf utcMs payload).windowKey = some route.dedupeKey := by
        rw [GatewayInput.windowKey, hroute]
        rfl
      rw [hroute] at hreceive
      refine gatewayStep_of_lookup .duplicateC2Uplink
        (.posted (gatewayUpload cfg s.currentChannel utcMs route)) hkey ⟨rfl, rfl⟩ ⟨rfl, rfl⟩ ?_
      rw [gatewayStep, PyM.bind_apply, hreceive]
      by_cases hseen : route.dedupeKey ∈ s.seen
      · rw [if_pos hseen, if_pos hseen]
        rfl
      · rw [if_neg hseen, if_neg hseen]
        rfl
  | tap node env state route valid huplink =>
    have hdrain := drainLocalTap_upload node.senderId state.currentChannel env.utcMs route s
    refine gatewayStep_of_lookup .tapDuplicate (.posted (buildC2Upload node env state route)) rfl
      ⟨rfl, rfl⟩ ⟨rfl, rfl⟩ ?_
    rw [gatewayStep, PyM.bind_apply, buildC2Upload, hdrain]
    by_cases hseen : [route.originId, route.originSeq] ∈ s.seen
    · rw [if_pos hseen, if_pos hseen]
      rfl
    · rw [if_neg hseen, if_neg hseen]
      rfl

theorem gatewayAfter_concat : gatewayAfter cfg (pre ++ [a]) =
    resultState (gatewayStep cfg a (gatewayAfter cfg pre)) := by
  rw [gatewayAfter, List.foldl_append]
  rfl

/-- The window after a run is the stream of the run through the empty window. -/
theorem gatewayAfter_seen : (gatewayAfter cfg pre).seen =
    filterRun GatewayInput.windowKey (empty cfg.seenLimit cfg.seenLimit_pos) pre := by
  induction pre using List.reverseRecOn with
  | nil => rfl
  | append_singleton pre a ih =>
    obtain ⟨v, s', hstep, hseen, -, -⟩ := gatewayStep_eq cfg a (gatewayAfter cfg pre)
    rw [gatewayAfter_concat, hstep, filterRun_concat, ← ih]
    exact hseen

/-- A verdict of a turn that returned. -/
theorem exists_verdict_iff {v : Option GatewayVerdict} {s : GatewayState} {P : GatewayVerdict → Prop} :
    (∃ x s', (.ok v s : EStateM.Result PyError GatewayState (Option GatewayVerdict)) = .ok (some x) s' ∧
      P x) ↔ ∃ x ∈ v, P x := by
  constructor
  · rintro ⟨x, _, heq, hx⟩
    obtain ⟨rfl, -⟩ := EStateM.Result.ok.inj heq
    exact ⟨x, rfl, hx⟩
  · rintro ⟨x, hmem, hx⟩
    obtain rfl : v = some x := hmem
    exact ⟨x, s, rfl, hx⟩

theorem posts_iff : Posts cfg pre a ↔ Passes GatewayInput.windowKey (gatewayAfter cfg pre).seen a := by
  obtain ⟨v, s', hstep, -, hposted, -⟩ := gatewayStep_eq cfg a (gatewayAfter cfg pre)
  rw [← hposted, Posts, hstep]
  exact exists_verdict_iff

theorem dropsDuplicate_iff : DropsDuplicate cfg pre a ↔
    ∃ k, a.windowKey = some k ∧ k ∈ (gatewayAfter cfg pre).seen := by
  obtain ⟨v, s', hstep, -, -, hduplicate⟩ := gatewayStep_eq cfg a (gatewayAfter cfg pre)
  rw [← hduplicate, DropsDuplicate, hstep]
  exact exists_verdict_iff

theorem gatewayAfter_seen_append_cons : (gatewayAfter cfg (pre ++ a :: mid)).seen =
    filterRun GatewayInput.windowKey (filterStep GatewayInput.windowKey
      (filterRun GatewayInput.windowKey (empty cfg.seenLimit cfg.seenLimit_pos) pre) a) mid := by
  rw [gatewayAfter_seen, filterRun_append_cons]

theorem otherUplinkKeys_eq {u : Option (List ℤ)} : otherUplinkKeys cfg u pre mid =
    otherKeys GatewayInput.windowKey GatewayInput.uplink (gatewayAfter cfg pre).seen mid u := by
  induction mid generalizing pre with
  | nil => rfl
  | cons m mid ih =>
    have hstep : (gatewayAfter cfg (pre ++ [m])).seen =
        filterStep GatewayInput.windowKey (gatewayAfter cfg pre).seen m := by
      rw [gatewayAfter_seen, gatewayAfter_seen, filterRun_concat]
    rw [otherUplinkKeys, ih, otherKeys_cons, hstep]

theorem postsOnce_iff {run : List GatewayInput} : PostsOnce cfg run ↔
    PassesOnce GatewayInput.windowKey GatewayInput.uplink
      (empty cfg.seenLimit cfg.seenLimit_pos) run := by
  have hcount : ∀ {pre mid : List GatewayInput} {a : GatewayInput},
      otherUplinkKeys cfg a.uplink (pre ++ [a]) mid =
        otherKeys GatewayInput.windowKey GatewayInput.uplink (filterStep GatewayInput.windowKey
          (filterRun GatewayInput.windowKey (empty cfg.seenLimit cfg.seenLimit_pos) pre) a) mid
          a.uplink := by
    intro pre mid a
    rw [otherUplinkKeys_eq, gatewayAfter_seen, filterRun_concat]
  constructor
  · intro h pre a mid b hpre hident hpassA hpassB
    by_contra hfew
    refine h pre a mid b hpre hident ?_ ⟨posts_iff.mpr ?_, posts_iff.mpr ?_⟩
    · rw [hcount]
      exact not_le.mp hfew
    · rwa [gatewayAfter_seen]
    · rwa [gatewayAfter_seen]
  · rintro h pre a mid b hpre hident hfew ⟨hpassA, hpassB⟩
    rw [hcount] at hfew
    rw [posts_iff, gatewayAfter_seen] at hpassA hpassB
    exact absurd (h pre a mid b hpre hident hpassA hpassB) (not_le.mpr hfew)

/-- What the window remembers of an arrival is its entry. -/
theorem stillRemembered_iff : StillRemembered cfg pre a mid ↔
    ∃ k, HeldAfter GatewayInput.windowKey
      (filterRun GatewayInput.windowKey (empty cfg.seenLimit cfg.seenLimit_pos) pre) a mid k := by
  constructor
  · rintro ⟨hposted, hagain, k, hkey, hheld⟩
    rw [posts_iff, gatewayAfter_seen, passes_of_some hkey] at hposted
    rw [gatewayAfter_seen_append_cons] at hheld
    refine ⟨k, hkey, hposted, fun hmem => ?_, hheld⟩
    obtain ⟨l, m, r, rfl, hm, hnew⟩ := mem_passedKeys.mp hmem
    refine hagain l m r rfl ?_ (hm.trans hkey.symm)
    rw [posts_iff, gatewayAfter_seen_append_cons]
    exact (passes_of_some hm).mpr hnew
  · rintro ⟨k, hheld⟩
    refine ⟨?_, ?_, k, hheld.key_eq, ?_⟩
    · rw [posts_iff, gatewayAfter_seen]
      exact (passes_of_some hheld.key_eq).mpr hheld.new
    · rintro l m r rfl hposts hsame
      rw [posts_iff, gatewayAfter_seen_append_cons] at hposts
      have hm : m.windowKey = some k := hsame.trans hheld.key_eq
      exact hheld.not_again
        (mem_passedKeys.mpr ⟨l, m, r, rfl, hm, (passes_of_some hm).mp hposts⟩)
    · rw [gatewayAfter_seen_append_cons]
      exact hheld.held

theorem keepsApart_iff {run : List GatewayInput} : KeepsApart cfg run ↔
    DropsCopies GatewayInput.windowKey GatewayInput.uplink
      (empty cfg.seenLimit cfg.seenLimit_pos) run := by
  constructor
  · intro h pre a mid b k hpre hheld hk
    refine h pre a mid b hpre (stillRemembered_iff.mpr ⟨k, hheld⟩) ?_ (hheld.key_eq.trans hk.symm)
    rw [dropsDuplicate_iff, gatewayAfter_seen_append_cons]
    exact ⟨k, hk, hheld.held⟩
  · intro h pre a mid b hpre hstill _ hsame
    obtain ⟨k, hheld⟩ := stillRemembered_iff.mp hstill
    exact h pre a mid b k hpre hheld (hsame.symm.trans hheld.key_eq)

@[simp] theorem GatewayInput.tapRoute_rf {utcMs : ℤ} {payload : Bytes} :
    (GatewayInput.rf utcMs payload).tapRoute = none := rfl

@[simp] theorem GatewayInput.byTap_rf {utcMs : ℤ} {payload : Bytes} :
    (GatewayInput.rf utcMs payload).byTap = false := rfl

/-- The keys of the two paths differ in length. -/
theorem RouteDataV2.dedupeKey_ne_pair (r : RouteDataV2) (originId originSeq : ℤ) :
    r.dedupeKey ≠ [originId, originSeq] := fun h => by
  simpa [RouteDataV2.dedupeKey] using congrArg List.length h

/-- For an arrival and one that is looked up, being consistent is that their keys tell
them apart as their uplinks do. -/
theorem GatewayInput.consistent_iff {a b : GatewayInput} {k k' : List ℤ}
    (ha : a.windowKey = some k) (hb : b.windowKey = some k') :
    a.Consistent b ↔ (a.uplink = b.uplink ↔ k = k') := by
  cases a with
  | retune channel => cases ha
  | rf utcMs payload =>
    obtain ⟨r, hr, rfl⟩ := Option.map_eq_some_iff.mp ha
    have hua : (GatewayInput.rf utcMs payload).uplink = some r.dedupeKey := ha
    cases b with
    | retune channel => cases hb
    | rf utcMs' payload' =>
      have hub : (GatewayInput.rf utcMs' payload').uplink = some k' := hb
      rw [hua, hub, Option.some.injEq]
      exact ⟨fun _ => Iff.rfl, fun _ => ⟨by simp, by simp⟩⟩
    | tap node env state r' valid huplink =>
      obtain rfl := Option.some.inj hb
      simp only [r.dedupeKey_ne_pair, iff_false]
      exact ⟨fun h hsame => Bool.false_ne_true (h.same_path hsame),
        fun h => ⟨fun hsame => absurd hsame h, by simp⟩⟩
  | tap node env state r valid huplink =>
    obtain rfl := Option.some.inj ha
    cases b with
    | retune channel => cases hb
    | rf utcMs' payload' =>
      obtain ⟨r', hr', rfl⟩ := Option.map_eq_some_iff.mp hb
      simp only [(r'.dedupeKey_ne_pair _ _).symm, iff_false]
      exact ⟨fun h hsame => Bool.false_ne_true (h.same_path hsame).symm,
        fun h => ⟨fun hsame => absurd hsame h, by simp⟩⟩
    | tap node' env' state' r' valid' huplink' =>
      obtain rfl := Option.some.inj hb
      have hident : (GatewayInput.tap node env state r valid huplink).uplink =
          (GatewayInput.tap node' env' state' r' valid' huplink').uplink ↔
          r.originType = r'.originType ∧ r.originId = r'.originId ∧ r.originSeq = r'.originSeq := by
        simp [GatewayInput.uplink, GatewayInput.route, RouteDataV2.dedupeKey]
      rw [hident]
      simp only [List.cons.injEq, and_true]
      constructor
      · intro h
        exact ⟨fun hsame => hsame.2, fun hsame => ⟨h.same_type r r' rfl rfl hsame.1 hsame.2, hsame⟩⟩
      · intro h
        refine ⟨fun _ => rfl, fun q q' hq hq' hid hseq => ?_⟩
        obtain rfl := Option.some.inj hq
        obtain rfl := Option.some.inj hq'
        exact (h.mpr ⟨hid, hseq⟩).1

theorem consistentArrivals_iff {run : List GatewayInput} : ConsistentArrivals cfg run ↔
    KeysTellApart GatewayInput.windowKey GatewayInput.uplink
      (empty cfg.seenLimit cfg.seenLimit_pos) run := by
  constructor
  · intro h pre a mid b k k' hpre hheld hk'
    exact (GatewayInput.consistent_iff hheld.key_eq hk').mp
      (h pre a mid b hpre (stillRemembered_iff.mpr ⟨k, hheld⟩))
  · intro h pre a mid b hpre hstill
    obtain ⟨k, hheld⟩ := stillRemembered_iff.mp hstill
    cases hb : b.windowKey with
    | some k' =>
      exact (GatewayInput.consistent_iff hheld.key_eq hb).mpr (h pre a mid b k k' hpre hheld hb)
    | none =>
      -- Nothing is looked up, so nothing arrives that the first one could be mixed up with.
      have huplink : b.uplink = none ∧ b.tapRoute = none := by
        cases b with
        | rf utcMs payload => exact ⟨hb, rfl⟩
        | tap => cases hb
        | retune channel => exact ⟨rfl, rfl⟩
      have hsome : a.uplink ≠ none := by
        have hkey := hheld.key_eq
        cases a with
        | rf utcMs payload =>
          rw [show (GatewayInput.rf utcMs payload).uplink = some k from hkey]
          exact Option.some_ne_none k
        | tap => exact Option.some_ne_none _
        | retune channel => cases hkey
      exact ⟨fun hsame => absurd (hsame.trans huplink.1) hsome,
        fun _ r' _ hr' => by rw [huplink.2] at hr'; cases hr'⟩

end Stream

/-- **The gateway forwards each uplink once exactly if the arrivals are consistent**:
over every run, every interleaving of the two paths. -/
theorem forwards_once_iff (cfg : GatewayConfig) (run : List GatewayInput) :
    (PostsOnce cfg run ∧ KeepsApart cfg run) ↔ ConsistentArrivals cfg run := by
  rw [postsOnce_iff, keepsApart_iff, consistentArrivals_iff]
  exact FifoSet.passesOnce_and_dropsCopies_iff

/-- Arrivals that are consistent with each other are consistent with what is
remembered of them. -/
theorem consistentArrivals_of_forall {cfg : GatewayConfig} {run : List GatewayInput}
    (h : ∀ a ∈ run, ∀ b ∈ run, a.Consistent b) : ConsistentArrivals cfg run := by
  intro pre a mid b hpre _
  exact h a (hpre.subset (by simp)) b (hpre.subset (by simp))

/-! ### One uplink by both paths, two uplinks under one key -/

/-- A gateway with the default window. -/
def sampleGateway : GatewayConfig where
  gatewayId := 9
  seenLimit := 4096
  gatewayId_fits := by decide
  seenLimit_pos := by decide

/-- An uplink with sequence number 1, from `node:2` or from `c2:2`. -/
def sampleUplink (fromC2 : Bool) : RouteDataV2 where
  routeVersion := routeV2Version
  originType := if fromC2 then addrC2 else addrNode
  originId := 2
  destinationType := addrC2
  destinationId := 1
  ttl := 3
  originSeq := 1
  trafficClass := trafficC2Uplink
  innerType := msgText
  innerPayload := [1, 3, 0, 1, 0, 0, 0, 1] ++ List.replicate 28 0

theorem sampleUplink_valid (fromC2 : Bool) : (sampleUplink fromC2).Valid := by
  cases fromC2 <;>
    exact ⟨rfl, ⟨by decide, by decide, by decide, by decide, by decide⟩,
      ⟨by decide, by decide, by decide, by decide⟩, by decide, by decide, by decide, by decide,
      by decide, by decide⟩

/-- Node 3 relays the uplink of `node:2`. -/
def sampleRf : GatewayInput := .rf 0 (outerFrame 3 msgRouteV2 1 (sampleUplink false).bytes).bytes

/-- The endpoint next to the gateway taps an uplink. -/
def sampleTap (fromC2 : Bool) : GatewayInput :=
  .tap NodeConfig.sampleC2 Env.sample
    (NodeState.initial NodeConfig.sampleC2 .one 0 none)
    (sampleUplink fromC2) (sampleUplink_valid fromC2) ⟨rfl, rfl⟩

/-- An uplink that comes by radio and by the tap is posted twice, and two origins under one id are
confused. -/
theorem posts_twice_and_confuses :
    ¬ PostsOnce sampleGateway [sampleRf, sampleTap false] ∧
    ¬ KeepsApart sampleGateway [sampleTap false, sampleTap true] := by
  constructor
  · intro h
    exact h [] sampleRf [] (sampleTap false) List.prefix_rfl
      (by decide +kernel) (by decide) ⟨posts_iff.mpr (by decide +kernel),
        posts_iff.mpr (by decide +kernel)⟩
  · intro h
    have hkey : (sampleTap false).windowKey = some [2, 1] := rfl
    have hheld : [2, 1] ∈ (gatewayAfter sampleGateway [sampleTap false]).seen := by decide +kernel
    have hstill : StillRemembered sampleGateway [] (sampleTap false) [] :=
      ⟨posts_iff.mpr (by decide +kernel), by simp, [2, 1], hkey, hheld⟩
    exact absurd (h [] _ [] (sampleTap true) List.prefix_rfl hstill
      (dropsDuplicate_iff.mpr ⟨[2, 1], rfl, hheld⟩) rfl) (by decide)

end KovaWfb
