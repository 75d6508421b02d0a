/-
# What a failed upload leaves in the gateway's window

The two receive paths of `python/examples/c2_gateway.py` up to the log line behind the POST: a
received payload (lines 706 to 774) and a datagram of the local tap (594 to 635).  Both remember
the uplink's key, then post, and show the outcome in the log only: there is no acknowledgement
or retry state, and what was remembered is not taken back.

`upload_attempt_remembered`: an attempt that returns leaves the same window whether it failed or
not.  So a copy that is looked up under the same key is dropped while the window holds the key,
and posted again once the key is gone.
-/

import KovaWfb.C2.ControlInput
import KovaWfb.C2.ForwardOnce
import KovaWfb.C2.Post

namespace KovaWfb

/-! ### The POST -/

/-- How deep `json` may go: for a datagram of the tap, for its upload and for a reply. -/
structure GatewayDepths where
  tapLoads : ℕ
  tapDumps : ℕ
  reply : ℕ

/-- `_post_c2_upload`, from the call of `urlopen` on: the code of `post_c2_upload`. -/
def C2Gateway.postC2Upload (depths : GatewayDepths) (reply : HttpReply) : Py (Bool × String) :=
  KovaWfb.postC2Upload depths.reply reply

/-- `_post_c2_upload_object`, from the call of `urlopen` on: the same code. -/
def C2Gateway.postC2UploadObject (depths : GatewayDepths) (reply : HttpReply) :
    Py (Bool × String) :=
  KovaWfb.postC2Upload depths.reply reply

/-- A network error, or an answer that is not of the 2xx class. -/
def HttpReply.Failed : HttpReply → Prop
  | .unreachable _ => True
  | .raised _ => False
  | .answered status _ => ¬ (200 ≤ status ∧ status < 300)

/-- **`ok` is false for the failed ones.** -/
theorem postC2Upload_failed_iff {depthLimit : ℕ} {reply : HttpReply} {outcome : Bool × String}
    (h : postC2Upload depthLimit reply = .ok outcome) : outcome.1 = false ↔ reply.Failed := by
  cases reply with
  | unreachable error =>
    obtain rfl := Except.ok.inj h
    exact iff_of_true rfl trivial
  | raised error => cases h
  | answered status body =>
    simp only [postC2Upload] at h
    split_ifs at h with hstatus
    · obtain ⟨duplicate, -, h⟩ := Py.bind_eq_ok.1 h
      refine iff_of_false ?_ (not_not.2 hstatus)
      cases duplicate with
      | none =>
        obtain rfl := Except.ok.inj h
        exact Bool.true_eq_false_eq_False
      | some duplicate =>
        obtain rfl := Except.ok.inj h
        exact Bool.true_eq_false_eq_False
    · obtain rfl := Except.ok.inj h
      exact iff_of_true rfl hstatus

/-! ### Turns of the loop -/

/-- What happens to a gateway: a received payload or a datagram of the local tap, each with what
a POST would end in, or a hop to another channel. -/
inductive GatewayTurn
  | rf (utcMs : ℤ) (payload : Bytes) (reply : HttpReply)
  | tap (data : Bytes) (reply : HttpReply)
  | retune (channel : ℤ)

/-- What a turn comes to: the verdict on the uplink, and what the POST returned. -/
structure TurnResult where
  verdict : Option GatewayVerdict
  attempt : Option (Bool × String)

/-- A new uplink is posted. -/
def attemptUpload (post : HttpReply → Py (Bool × String)) (reply : HttpReply) :
    GatewayVerdict → PyM GatewayState TurnResult
  | .posted upload => do
      let outcome ← liftM (post reply)
      pure { verdict := some (.posted upload), attempt := some outcome }
  | verdict => pure { verdict := some verdict, attempt := none }

/-- One turn of the loop. -/
def uploadTurn (cfg : GatewayConfig) (depths : GatewayDepths) :
    GatewayTurn → PyM GatewayState TurnResult
  | .rf utcMs payload reply => do
      let verdict ← gatewayReceive cfg utcMs payload
      attemptUpload (C2Gateway.postC2Upload depths) reply verdict
  | .tap data reply => do
      let verdict ← tapDatagram depths.tapLoads depths.tapDumps data
      attemptUpload (C2Gateway.postC2UploadObject depths) reply verdict
  | .retune channel => do
      modify fun s => { s with currentChannel := some channel }
      pure { verdict := none, attempt := none }

/-- A run: an exception ends it, and the process. -/
def uploadRun (cfg : GatewayConfig) (depths : GatewayDepths) :
    List GatewayTurn → PyM GatewayState (List TurnResult)
  | [] => pure []
  | turn :: turns => do
      let result ← uploadTurn cfg depths turn
      let results ← uploadRun cfg depths turns
      pure (result :: results)

namespace GatewayTurn

/-- The key the uplink is looked up under, if the gateway gets that far. -/
def windowKey (depths : GatewayDepths) : GatewayTurn → Option (List ℤ)
  | .rf _ payload _ => (rfUplink payload).map RouteDataV2.dedupeKey
  | .tap data _ =>
      match loads depths.tapLoads data with
      | .ok doc =>
          match readTap (.ok doc.toJson) with
          | .ok (_, key) => some key
          | .error _ => none
      | .error _ => none
  | .retune _ => none

/-- What a POST would end in. -/
def reply : GatewayTurn → Option HttpReply
  | .rf _ _ reply | .tap _ reply => some reply
  | .retune _ => none

/-- The upload can be written, and the reply is one that is dealt with. -/
def Postable (depths : GatewayDepths) : GatewayTurn → Prop
  | .rf _ _ reply => reply.Harmless depths.reply
  | .tap data reply =>
      (∀ doc, loads depths.tapLoads data = .ok doc → doc.depth ≤ depths.tapDumps) ∧
        reply.Harmless depths.reply
  | .retune _ => True

end GatewayTurn

/-- The key of an uplink that a turn attempted to post. -/
def attemptedKey (depths : GatewayDepths) (turn : GatewayTurn) (result : TurnResult) :
    Option (List ℤ) :=
  if result.attempt.isSome then turn.windowKey depths else none

/-- The keys of the uplinks that a run attempted to post, in order. -/
def attemptedKeys (depths : GatewayDepths) (turns : List GatewayTurn) (results : List TurnResult) :
    List (List ℤ) :=
  (turns.zip results).filterMap fun p => attemptedKey depths p.1 p.2

/-- The uplink's key is remembered. -/
def GatewayState.rememberKey (s : GatewayState) (key : List ℤ) : GatewayState :=
  { s with seen := (s.seen.remember key).2 }

/-! ### What a turn does -/

/-- **How a turn can end**: nothing is looked up, or the uplink is known, or its key is
remembered, and then the POST is attempted or raises. -/
inductive TurnOutcome (depths : GatewayDepths) (turn : GatewayTurn) (s : GatewayState) :
    EStateM.Result PyError GatewayState TurnResult → Prop
  | passed (verdict : Option GatewayVerdict) (s' : GatewayState)
      (hkey : turn.windowKey depths = none) (hseen : s'.seen = s.seen) :
      TurnOutcome depths turn s (.ok { verdict, attempt := none } s')
  | rejected (error : PyError) (hkey : turn.windowKey depths = none) :
      TurnOutcome depths turn s (.error error s)
  | dropped (key : List ℤ) (verdict : GatewayVerdict) (hkey : turn.windowKey depths = some key)
      (hmem : key ∈ s.seen) (hverdict : verdict.isDuplicate = true) :
      TurnOutcome depths turn s (.ok { verdict := some verdict, attempt := none } s)
  | attempted (key : List ℤ) (upload : JsonFields) (reply : HttpReply) (outcome : Bool × String)
      (hkey : turn.windowKey depths = some key) (hnew : ¬ key ∈ s.seen)
      (hreply : turn.reply = some reply) (hpost : postC2Upload depths.reply reply = .ok outcome) :
      TurnOutcome depths turn s
        (.ok { verdict := some (.posted upload), attempt := some outcome } (s.rememberKey key))
  | stopped (key : List ℤ) (error : PyError) (hkey : turn.windowKey depths = some key)
      (hnew : ¬ key ∈ s.seen) (hpostable : ¬ turn.Postable depths) :
      TurnOutcome depths turn s (.error error (s.rememberKey key))

section

variable {cfg : GatewayConfig} {depths : GatewayDepths} {turn : GatewayTurn}
  {s s' : GatewayState}

/-- Code that looks nothing up and posts nothing, or raises. -/
def LooksNothingUp (receive : PyM GatewayState GatewayVerdict) (s : GatewayState) : Prop :=
  (∃ verdict, receive s = .ok verdict s ∧ verdict.isPosted = false) ∨
    ∃ error, receive s = .error error s

/-- Then the turn attempts nothing. -/
theorem LooksNothingUp.outcome {receive : PyM GatewayState GatewayVerdict}
    {post : HttpReply → Py (Bool × String)} {reply : HttpReply} (h : LooksNothingUp receive s)
    (hkey : turn.windowKey depths = none) :
    TurnOutcome depths turn s ((receive >>= attemptUpload post reply) s) := by
  rw [PyM.bind_apply]
  obtain ⟨verdict, hverdict, hposted⟩ | ⟨error, herror⟩ := h
  · rw [hverdict]
    cases verdict with
    | posted upload => cases hposted
    | _ => exact .passed _ s hkey rfl
  · rw [herror]
    exact .rejected error hkey

/-- The POST of a new uplink returns or raises. -/
theorem attemptUpload_posted_outcome {key : List ℤ} {upload : JsonFields} {reply : HttpReply}
    (hkey : turn.windowKey depths = some key) (hnew : ¬ key ∈ s.seen)
    (hreply : turn.reply = some reply)
    (hpostable : turn.Postable depths → reply.Harmless depths.reply) :
    TurnOutcome depths turn s (attemptUpload (KovaWfb.postC2Upload depths.reply) reply
      (.posted upload) (s.rememberKey key)) := by
  rw [attemptUpload, PyM.bind_apply, PyM.monadLift_apply]
  cases hpost : postC2Upload depths.reply reply with
  | ok outcome => exact .attempted key upload reply outcome hkey hnew hreply hpost
  | error error =>
    refine .stopped key error hkey hnew fun h => ?_
    obtain ⟨outcome, hok⟩ := postC2Upload_returns_iff.2 (hpostable h)
    cases hpost.symm.trans hok

theorem rfTurn_outcome {utcMs : ℤ} {payload : Bytes} {reply : HttpReply} :
    TurnOutcome depths (.rf utcMs payload reply) s
      (uploadTurn cfg depths (.rf utcMs payload reply) s) := by
  have hreceive := gatewayReceive_eq cfg utcMs payload s
  rw [uploadTurn]
  cases hroute : rfUplink payload with
  | none =>
    have hkey : (GatewayTurn.rf utcMs payload reply).windowKey depths = none := by
      rw [GatewayTurn.windowKey, hroute]
      rfl
    rw [hroute] at hreceive
    obtain ⟨verdict, hverdict, hposted, -⟩ := hreceive
    exact LooksNothingUp.outcome (Or.inl ⟨verdict, hverdict, hposted⟩) hkey
  | some route =>
    have hkey : (GatewayTurn.rf utcMs payload reply).windowKey depths = some route.dedupeKey := by
      rw [GatewayTurn.windowKey, hroute]
      rfl
    rw [hroute] at hreceive
    dsimp only at hreceive
    by_cases hmem : route.dedupeKey ∈ s.seen
    · rw [if_pos hmem] at hreceive
      rw [PyM.bind_apply, hreceive]
      exact .dropped _ _ hkey hmem rfl
    · rw [if_neg hmem] at hreceive
      rw [PyM.bind_apply, hreceive]
      exact attemptUpload_posted_outcome hkey hmem rfl id

/-- A datagram that the tap does not get a key of. -/
theorem looksNothingUp_of_reject {receive : PyM GatewayState GatewayVerdict} {error : PyError}
    (h : receive s = if error.isTapReject then .ok (.tapReject error) s else .error error s) :
    LooksNothingUp receive s := by
  rw [LooksNothingUp, h]
  split_ifs
  · exact Or.inl ⟨_, rfl, rfl⟩
  · exact Or.inr ⟨error, rfl⟩

/-- A document that it gets a key of. -/
theorem tapDocTurn_outcome {data : Bytes} {reply : HttpReply} {doc : JsonDoc} {upload : JsonFields}
    {key : List ℤ} (hloads : loads depths.tapLoads data = .ok doc)
    (hread : readTap (.ok doc.toJson) = .ok (upload, key))
    (hkey : (GatewayTurn.tap data reply).windowKey depths = some key) :
    TurnOutcome depths (.tap data reply) s ((tapDoc depths.tapDumps doc >>=
      attemptUpload (C2Gateway.postC2UploadObject depths) reply) s) := by
  rw [PyM.bind_apply, tapDoc_of_ok hread]
  split_ifs with hmem hdepth
  · exact .dropped key _ hkey hmem rfl
  · exact attemptUpload_posted_outcome hkey hmem rfl And.right
  · exact .stopped key _ hkey hmem fun h => hdepth (h.1 doc hloads)

theorem tapTurn_outcome {data : Bytes} {reply : HttpReply} :
    TurnOutcome depths (.tap data reply) s (uploadTurn cfg depths (.tap data reply) s) := by
  rw [uploadTurn, tapDatagram]
  cases hloads : loads depths.tapLoads data with
  | error error =>
    have hkey : (GatewayTurn.tap data reply).windowKey depths = none := by
      rw [GatewayTurn.windowKey, hloads]
    have hread : ∀ error', readTap (.error error') = .error error' := fun _ => rfl
    cases error with
    | notJson => exact (looksNothingUp_of_reject (drainLocalTap_of_error (hread _) s)).outcome hkey
    | raised error =>
      exact (looksNothingUp_of_reject (drainLocalTap_of_error (hread _) s)).outcome hkey
  | ok doc =>
    dsimp only
    cases hread : readTap (.ok doc.toJson) with
    | error error =>
      refine (looksNothingUp_of_reject (tapDoc_of_error hread)).outcome ?_
      rw [GatewayTurn.windowKey, hloads]
      dsimp only
      rw [hread]
    | ok read =>
      refine tapDocTurn_outcome hloads hread ?_
      rw [GatewayTurn.windowKey, hloads]
      dsimp only
      rw [hread]

/-- **Every turn ends in one of these ways.** -/
theorem uploadTurn_outcome : TurnOutcome depths turn s (uploadTurn cfg depths turn s) := by
  cases turn with
  | rf utcMs payload reply => exact rfTurn_outcome
  | tap data reply => exact tapTurn_outcome
  | retune channel => exact .passed none _ rfl rfl

/-- **An uplink that is looked up** is dropped when its key is known, and remembered and posted
when it is new. -/
theorem uploadTurn_of_windowKey {key : List ℤ} (hkey : turn.windowKey depths = some key) :
    (key ∈ s.seen ∧ ∃ verdict, verdict.isDuplicate = true ∧
      uploadTurn cfg depths turn s = .ok { verdict := some verdict, attempt := none } s) ∨
    (¬ key ∈ s.seen ∧ (turn.Postable depths → ∃ upload outcome, uploadTurn cfg depths turn s =
      .ok { verdict := some (.posted upload), attempt := some outcome } (s.rememberKey key))) := by
  have houtcome := @uploadTurn_outcome cfg depths turn s
  generalize uploadTurn cfg depths turn s = ending at houtcome ⊢
  cases houtcome with
  | passed _ _ hnone => cases hkey.symm.trans hnone
  | rejected _ hnone => cases hkey.symm.trans hnone
  | dropped key' verdict hkey' hmem hverdict =>
    obtain rfl := Option.some.inj (hkey.symm.trans hkey')
    exact Or.inl ⟨hmem, verdict, hverdict, rfl⟩
  | attempted key' upload _ outcome hkey' hnew =>
    obtain rfl := Option.some.inj (hkey.symm.trans hkey')
    exact Or.inr ⟨hnew, fun _ => ⟨upload, outcome, rfl⟩⟩
  | stopped key' _ hkey' hnew hnot =>
    obtain rfl := Option.some.inj (hkey.symm.trans hkey')
    exact Or.inr ⟨hnew, fun hpostable => absurd hpostable hnot⟩

/-- **A turn that attempted a POST** remembered the key, whatever the reply was. -/
theorem uploadTurn_attempted {result : TurnResult} {outcome : Bool × String}
    (hturn : uploadTurn cfg depths turn s = .ok result s')
    (hattempt : result.attempt = some outcome) :
    ∃ key reply, turn.windowKey depths = some key ∧ ¬ key ∈ s.seen ∧ s' = s.rememberKey key ∧
      turn.reply = some reply ∧ postC2Upload depths.reply reply = .ok outcome := by
  have houtcome := @uploadTurn_outcome cfg depths turn s
  rw [hturn] at houtcome
  cases houtcome with
  | attempted key upload reply _ hkey hnew hreply hpost =>
    obtain rfl := Option.some.inj hattempt
    exact ⟨key, reply, hkey, hnew, rfl, hreply, hpost⟩
  | passed => cases hattempt
  | dropped => cases hattempt

/-- The window newly takes in the keys of the attempts: one turn. -/
theorem traces_uploadTurn {result : TurnResult}
    (hturn : uploadTurn cfg depths turn s = .ok result s') :
    FifoSet.Traces s.seen (attemptedKey depths turn result).toList s'.seen := by
  have houtcome := @uploadTurn_outcome cfg depths turn s
  rw [hturn] at houtcome
  rw [attemptedKey]
  cases houtcome with
  | passed _ _ _ hseen =>
    rw [hseen]
    exact .refl _
  | dropped => exact .refl _
  | attempted key _ _ _ hkey hnew =>
    rw [Option.isSome_some, if_pos rfl, hkey]
    exact (FifoSet.Traces.refl s.seen).remember hnew

/-- A whole run. -/
theorem traces_uploadRun {turns : List GatewayTurn} {results : List TurnResult}
    (hrun : uploadRun cfg depths turns s = .ok results s') :
    FifoSet.Traces s.seen (attemptedKeys depths turns results) s'.seen := by
  induction turns generalizing s results with
  | nil =>
    obtain ⟨rfl, rfl⟩ := EStateM.Result.ok.inj hrun
    exact .refl _
  | cons turn turns ih =>
    obtain ⟨result, s₁, hturn, hrest⟩ := PyM.bind_eq_ok.1 hrun
    obtain ⟨results, s₂, hturns, hpure⟩ := PyM.bind_eq_ok.1 hrest
    obtain ⟨rfl, rfl⟩ := EStateM.Result.ok.inj hpure
    have htraces := (traces_uploadTurn hturn).trans (ih hturns)
    rw [attemptedKeys, List.zip_cons_cons, List.filterMap_cons]
    cases hkey : attemptedKey depths turn result with
    | none =>
      rw [hkey] at htraces
      exact htraces
    | some key =>
      rw [hkey] at htraces
      exact htraces

end

/-- **An upload attempt is remembered, failed or not.**  In every run, an attempt that returns
was made under a new key and leaves the window with that key remembered; `ok` is not looked at.
So after any further run a copy under that key is dropped while the window holds the key, that
is as long as fewer than `seen_limit` uploads were attempted since, and is attempted again when
the window let go of it. -/
theorem upload_attempt_remembered {cfg : GatewayConfig} {depths : GatewayDepths}
    {pre : List GatewayTurn} {earlier : List TurnResult} {s s' : GatewayState} {turn : GatewayTurn}
    {result : TurnResult} {outcome : Bool × String}
    (hpre : uploadRun cfg depths pre (GatewayState.initial cfg) = .ok earlier s)
    (hturn : uploadTurn cfg depths turn s = .ok result s')
    (hattempt : result.attempt = some outcome) :
    ∃ key, turn.windowKey depths = some key ∧ ¬ key ∈ s.seen ∧ s' = s.rememberKey key ∧
      key ∈ s'.seen ∧ (outcome.1 = false ↔ ∃ reply, turn.reply = some reply ∧ reply.Failed) ∧
      ∀ mid later s'', uploadRun cfg depths mid s' = .ok later s'' →
        ((attemptedKeys depths mid later).length < cfg.seenLimit → key ∈ s''.seen) ∧
        (key ∉ attemptedKeys depths mid later →
          (key ∈ s''.seen ↔ (attemptedKeys depths mid later).length < cfg.seenLimit)) ∧
        ∀ copy : GatewayTurn, copy.windowKey depths = some key →
          (key ∈ s''.seen → ∃ verdict, verdict.isDuplicate = true ∧
            uploadTurn cfg depths copy s'' =
              .ok { verdict := some verdict, attempt := none } s'') ∧
          (¬ key ∈ s''.seen → copy.Postable depths → ∃ upload outcome',
            uploadTurn cfg depths copy s'' =
              .ok { verdict := some (.posted upload), attempt := some outcome' }
                (s''.rememberKey key)) := by
  obtain ⟨key, reply, hkey, hnew, rfl, hreply, hpost⟩ := uploadTurn_attempted hturn hattempt
  have hlimit : s.seen.limit = cfg.seenLimit := (traces_uploadRun hpre).limit_eq
  refine ⟨key, hkey, hnew, rfl, FifoSet.mem_remember_self _ _, ?_, fun mid later s'' hmid => ?_⟩
  · rw [postC2Upload_failed_iff hpost]
    refine ⟨fun h => ⟨reply, hreply, h⟩, ?_⟩
    rintro ⟨reply', hreply', h⟩
    obtain rfl := Option.some.inj (hreply.symm.trans hreply')
    exact h
  have htraces := traces_uploadRun hmid
  have hstays : (attemptedKeys depths mid later).length < cfg.seenLimit → key ∈ s''.seen :=
    fun hlt => htraces.mem_of_length_lt hnew (hlt.trans_eq hlimit.symm)
  refine ⟨hstays, fun hnot => ⟨fun hmem => ?_, hstays⟩, fun copy hcopy => ?_⟩
  · rw [← hlimit]
    exact htraces.length_lt_of_mem hnew hnot hmem
  · obtain ⟨hmem, hdropped⟩ | ⟨hgone, hposted⟩ :=
      @uploadTurn_of_windowKey cfg depths copy s'' key hcopy
    · exact ⟨fun _ => hdropped, fun hgone => absurd hmem hgone⟩
    · exact ⟨fun hmem => absurd hmem hgone, fun _ => hposted⟩

/-! ### A copy by another relay -/

/-- The default recursion limit. -/
def sampleDepths : GatewayDepths where
  tapLoads := 990
  tapDumps := 990
  reply := 990

/-- Node `relay` relays the uplink of `node:2`, and a POST would end in `reply`. -/
def relayed (relay : ℤ) (reply : HttpReply) : GatewayTurn :=
  .rf 0 (outerFrame relay msgRouteV2 1 (sampleUplink false).bytes).bytes reply

/-- What a run of turns shows in the log: whether a duplicate was dropped, and `ok`. -/
def logOf (turns : List GatewayTurn) : Option (List (Option Bool × Option Bool)) :=
  (resultValue? (uploadRun sampleGateway sampleDepths turns
    (GatewayState.initial sampleGateway))).map
      (List.map fun result => (result.verdict.map GatewayVerdict.isDuplicate,
        result.attempt.map Prod.fst))

/-- **A failed POST is not made up for**: after a network error, or a 503, the copy by another
relay is a duplicate, and the window is not what it was. -/
theorem failed_upload_drops_copy :
    logOf [relayed 3 (.unreachable "timed out"), relayed 4 (.answered 200 [])] =
        some [(some false, some false), (some true, none)] ∧
      logOf [relayed 3 (.answered 503 []), relayed 4 (.answered 200 [])] =
        some [(some false, some false), (some true, none)] ∧
      (resultState (uploadTurn sampleGateway sampleDepths (relayed 3 (.unreachable "timed out"))
        (GatewayState.initial sampleGateway))).seen.order ≠
        (GatewayState.initial sampleGateway).seen.order := by
  decide +kernel

/-- After the network error, a run of one other uplink leaves the key in the window, and the
copy by another relay is dropped. -/
theorem upload_attempt_remembered_sample :
    ∃ result s', uploadTurn sampleGateway sampleDepths (relayed 3 (.unreachable "timed out"))
        (GatewayState.initial sampleGateway) = .ok result s' ∧
      [1, 2, 1] ∈ s'.seen ∧
      ∀ later s'', uploadRun sampleGateway sampleDepths
          [.tap uploadSeven (.answered 200 [])] s' = .ok later s'' →
        ∃ verdict, verdict.isDuplicate = true ∧
          uploadTurn sampleGateway sampleDepths (relayed 4 (.answered 200 [])) s'' =
            .ok { verdict := some verdict, attempt := none } s'' := by
  obtain ⟨result, s', hturn, hattempt⟩ := exists_eq_ok_of_map
    (r := uploadTurn sampleGateway sampleDepths (relayed 3 (.unreachable "timed out"))
      (GatewayState.initial sampleGateway))
    (f := fun result => result.attempt) (x := some (false, "timed out")) (by decide +kernel)
  have hkey : ∀ relay ∈ [3, 4], ∀ reply,
      (relayed relay reply).windowKey sampleDepths = some [1, 2, 1] := by
    intro relay hrelay reply
    have hkeys : ∀ relay ∈ [3, 4], (rfUplink (outerFrame relay msgRouteV2 1
        (sampleUplink false).bytes).bytes).map RouteDataV2.dedupeKey = some [1, 2, 1] := by
      decide +kernel
    exact hkeys relay hrelay
  obtain ⟨key, hwindow, -, -, hmem, -, hruns⟩ :=
    @upload_attempt_remembered sampleGateway sampleDepths [] [] _ s' _ result _ rfl hturn hattempt
  obtain rfl := Option.some.inj ((hkey 3 (by decide) _).symm.trans hwindow)
  refine ⟨result, s', hturn, hmem, fun later s'' hrun => ?_⟩
  obtain ⟨hstays, -, hcopies⟩ := hruns _ later s'' hrun
  refine (hcopies (relayed 4 (.answered 200 [])) (hkey 4 (by decide) _)).1 (hstays ?_)
  have hle : (attemptedKeys sampleDepths [.tap uploadSeven (.answered 200 [])] later).length ≤ 1 :=
    (List.length_filterMap_le _ _).trans (by rw [List.length_zip]; exact Nat.min_le_left _ _)
  exact lt_of_le_of_lt hle (by decide)

end KovaWfb
