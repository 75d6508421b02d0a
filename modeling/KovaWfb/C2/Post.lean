/-
# The reply to a POST

`post_c2_upload` of `python/examples/mesh_txrx.py`, lines 1852 to 1878, from the call of
`urlopen` on.  `OSError` and `URLError` are caught; a reply of the 2xx class is read as
JSON, where `JSONDecodeError` is caught and the document is taken for an object.
-/

import KovaWfb.Python.Numbers
import KovaWfb.C2.Server

namespace KovaWfb

/-- What `urlopen` and `response.read(4096)` end in. -/
inductive HttpReply
  | unreachable (error : String)
  | raised (error : PyError)
  | answered (status : ℤ) (body : Bytes)

/-- `parsed.get("duplicate", False)` of a reply, `none` when it is no JSON. -/
def replyDuplicate (depthLimit : ℕ) (responseBody : String) : Py (Option Bool) :=
  match loadsText depthLimit responseBody.toList with
  | .ok (.obj parsed) => pure ((DocFields.get parsed "duplicate").getD (.bool false)).truthy
  | .ok parsed => .error (.attributeError
      ("'" ++ parsed.toJson.typeName ++ "' object has no attribute 'get'"))
  | .error .notJson => pure none
  | .error (.raised error) => .error error

/-- `post_c2_upload`: whether it went well, and the detail for the log. -/
def postC2Upload (depthLimit : ℕ) : HttpReply → Py (Bool × String)
  | .unreachable error => pure (false, error)
  | .raised error => .error error
  | .answered status body =>
      if 200 ≤ status ∧ status < 300 then do
        match ← replyDuplicate depthLimit (decodeUtf8Replace (body.take 4096)) with
        | none => pure (true, "http_status=" ++ toString status)
        | some duplicate => pure (true, "http_status=" ++ toString status ++ " duplicate=" ++
            toString duplicate.toNat)
      else pure (false, "http_status=" ++ toString status ++ " body=" ++
        decodeUtf8Replace (body.take 4096))

/-- A text that is no JSON, or an object. -/
def ReplyReadable (depthLimit : ℕ) (responseBody : String) : Prop :=
  match loadsText depthLimit responseBody.toList with
  | .ok (.obj _) | .error .notJson => True
  | .ok _ | .error (.raised _) => False

/-- A reply that is dealt with: an exception that is caught, or an answer that can be read
if its status is of the 2xx class. -/
def HttpReply.Harmless (depthLimit : ℕ) : HttpReply → Prop
  | .unreachable _ => True
  | .raised _ => False
  | .answered status body => 200 ≤ status ∧ status < 300 →
      ReplyReadable depthLimit (decodeUtf8Replace (body.take 4096))

theorem replyDuplicate_returns_iff {depthLimit : ℕ} {responseBody : String} :
    (∃ duplicate, replyDuplicate depthLimit responseBody = .ok duplicate) ↔
      ReplyReadable depthLimit responseBody := by
  unfold replyDuplicate ReplyReadable
  rcases loadsText depthLimit responseBody.toList with (_ | error) | (_ | _ | _ | _ | _ | _ | parsed)
  case error.notJson => exact iff_of_true ⟨_, rfl⟩ trivial
  case ok.obj => exact iff_of_true ⟨_, rfl⟩ trivial
  all_goals exact iff_of_false (Py.not_returns_error _) id

/-- **The POST returns** on harmless replies. -/
theorem postC2Upload_returns_iff {depthLimit : ℕ} {reply : HttpReply} :
    (∃ outcome, postC2Upload depthLimit reply = .ok outcome) ↔ reply.Harmless depthLimit := by
  cases reply with
  | unreachable error => exact iff_of_true ⟨_, rfl⟩ trivial
  | raised error => exact iff_of_false (Py.not_returns_error _) id
  | answered status body =>
    simp only [postC2Upload, HttpReply.Harmless]
    split_ifs with hstatus
    · rw [forall_prop_of_true hstatus, ← replyDuplicate_returns_iff]
      simp only [Py.bind_eq_ok]
      constructor
      · rintro ⟨_, duplicate, h, -⟩
        exact ⟨duplicate, h⟩
      · rintro ⟨_ | duplicate, h⟩
        · exact ⟨_, none, h, rfl⟩
        · exact ⟨_, some duplicate, h, rfl⟩
    · exact iff_of_true ⟨_, rfl⟩ fun h => absurd h hstatus

end KovaWfb
