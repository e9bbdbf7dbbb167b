import DocAccess.Proofs.Remote.History
import DocAccess.Proofs.Remote.Payload

/-!
# What a remote repository logs

A call on a remote repository makes at most one request, and writes at most one event about the
reply to it. What the event says of the reply does not depend on the session. But every event of a
session carries what is bound to the logger of the session, and that is the identifier by which the
server knows the session; only the events of openings carry none.

## Main definitions

* `Remote.remark?` — what is remarked on the reply to a call.
* `Remote.bindings` — what is bound to the logger of a call.
* `Remote.Noticed` — all events of a history.

## Main statements

* `notices_of_watch` — the events of a call.
* `noticed_of_history` — the events of all calls.
-/
namespace DocAccess

/-- The transport fault that a fault is, if it is one. -/
def Fault.transport? (f : Fault) : Option TransportFault :=
  match f.kind with
  | .transport t => some t
  | _ => none

/-- Whether some field of the event is the text. -/
def Event.holds (text : Text) (e : Event) : Bool :=
  e.context.any fun f =>
    match f.2 with
    | .string t => t = text
    | _ => false

namespace Fields

theorem insert_of_ne {fields : Fields} {name : String} (h : name ∉ fields.map Prod.fst)
    (value : Json) : fields.insert name value = fields ++ [(name, value)] := by
  induction fields with
  | nil => rfl
  | cons f rest ih =>
    rw [List.map_cons, List.mem_cons, not_or] at h
    rw [insert, if_neg (Ne.symm h.1), ih h.2, List.cons_append]

/-- Fields under names of their own are all there when they are overlaid. -/
theorem overlay_eq_append {under upper : Fields} (h : ((under ++ upper).map Prod.fst).Nodup) :
    overlay under upper = under ++ upper := by
  unfold overlay
  induction upper generalizing under with
  | nil => exact (List.append_nil under).symm
  | cons f upper ih =>
    rw [List.append_cons] at h
    have hname : f.1 ∉ under.map Prod.fst := by
      intro hmem
      rw [List.map_append, List.map_append] at h
      exact (List.nodup_append.mp (List.nodup_append.mp h).1).2.2 _ hmem f.1 (by simp) rfl
    simp only [List.foldl_cons, insert_of_ne hname]
    rw [ih h, ← List.append_cons]

end Fields

namespace Remote

variable {config : RemoteConfig} {w : Remote} {number : Nat} {s : RemoteSession}

/-! ## Remarks -/

/-- What an event says, whichever session it is about. -/
structure Remark where
  name : String
  fields : Fields

/-- What is remarked on the reply to the request that opens a session. -/
def openingRemark? (config : RemoteConfig) : Reply → Option Remark
  | .raise f =>
    f.transport?.map fun _ => ⟨"repository_connection_error", [("error", .string f.text)]⟩
  | .respond r =>
    match token? config r with
    | .ok none => some ⟨"repository_session_refused", [("status_code", .int r.status)]⟩
    | _ => none

/-- What is remarked on the reply to an impersonation. -/
def impersonationRemark? (username : Text) : Reply → Option Remark
  | .raise f =>
    f.transport?.map fun _ =>
      ⟨"repository_impersonation_transport_error", [("error", .string f.text)]⟩
  | .respond r =>
    if r.status = 200 ∨ 500 ≤ r.status then none
    else
      some ⟨"repository_impersonation_rejected",
        [("username", .string username), ("status_code", .int r.status)]⟩

/-- What is remarked on the reply to a query. -/
def queryRemark? (config : RemoteConfig) (request : QueryRequest) : Reply → Option Remark
  | .raise f =>
    f.transport?.map fun t =>
      ⟨if t.isTimeout then "repository_query_timeout" else "repository_query_transport_error",
        [("error", .string f.text)]⟩
  | .respond r =>
    if r.status = 200 then
      match request.columns with
      | [] => none
      | column :: others =>
        match r.rows? config.codec column others with
        | .ok none =>
          some ⟨"repository_query_invalid_response",
            [("error", .string (config.codec.complaint request r))]⟩
        | _ => none
    else some ⟨"repository_query_rejected", [("status_code", .int r.status)]⟩

/-- What is remarked on the reply to a call. -/
def remark? (config : RemoteConfig) : Call → Reply → Option Remark
  | .openSession => openingRemark? config
  | .impersonate _ username _ => impersonationRemark? username
  | .query _ request => queryRemark? config request
  | .setTimeout .. | .closeSession _ => fun _ => none

/-- The event of a remark, with what is bound to the logger. -/
def Remark.event (bound : Fields) (remark : Remark) : Event :=
  ⟨.warning, remark.name, bound, remark.fields⟩

/-- The events of a reply: that of the remark, if there is one. -/
def remarks (bound : Fields) (remark : Option Remark) : List Event :=
  (remark.map (Remark.event bound)).toList

@[simp] theorem remarks_none (bound : Fields) : remarks bound none = [] := rfl

@[simp] theorem remarks_some (bound : Fields) (remark : Remark) :
    remarks bound (some remark) = [remark.event bound] := rfl

/-- What is bound to the logger of a call: the identifier of its session. -/
def bindings (tokens : List Text) (c : Call) : Fields :=
  match c.session? with
  | none => []
  | some n => (tokens[n]?.map fun token => ("session_id", .string token)).toList

@[simp] theorem bindings_openSession (tokens : List Text) : bindings tokens .openSession = [] := rfl

/-- Nothing but the identifier of a session is bound. -/
theorem names_bindings (tokens : List Text) (c : Call) :
    ((bindings tokens c).map Prod.fst).Sublist ["session_id"] := by
  unfold bindings
  cases c.session? with
  | none => exact List.nil_sublist _
  | some n =>
    simp only
    cases tokens[n]? with
    | none => exact List.nil_sublist _
    | some token => exact List.Sublist.refl _

/-- The fields of the remark have names of their own, and none of them is that of an identifier. -/
def Remark.Distinct (remark : Remark) : Prop :=
  ("session_id" :: remark.fields.map Prod.fst).Nodup

/-- A remark on a fault says nothing but the text of the fault. -/
theorem distinct_of_fault {f : Fault} {g : TransportFault → Remark} {remark : Remark}
    (hg : ∀ t, (g t).fields = [("error", .string f.text)]) (h : f.transport?.map g = some remark) :
    remark.Distinct := by
  obtain ⟨t, -, rfl⟩ := Option.map_eq_some_iff.mp h
  simp [Remark.Distinct, hg t]

theorem distinct_of_openingRemark? {reply : Reply} {remark : Remark}
    (h : openingRemark? config reply = some remark) : remark.Distinct := by
  cases reply with
  | raise f => exact distinct_of_fault (fun _ => rfl) h
  | respond r =>
    simp only [openingRemark?] at h
    split at h
    · cases h
      simp [Remark.Distinct]
    · cases h

theorem distinct_of_impersonationRemark? {username : Text} {reply : Reply} {remark : Remark}
    (h : impersonationRemark? username reply = some remark) : remark.Distinct := by
  cases reply with
  | raise f => exact distinct_of_fault (fun _ => rfl) h
  | respond r =>
    simp only [impersonationRemark?] at h
    split at h
    · cases h
    · cases h
      simp [Remark.Distinct]

theorem distinct_of_queryRemark? {request : QueryRequest} {reply : Reply} {remark : Remark}
    (h : queryRemark? config request reply = some remark) : remark.Distinct := by
  cases reply with
  | raise f => exact distinct_of_fault (fun _ => rfl) h
  | respond r =>
    simp only [queryRemark?] at h
    by_cases hok : r.status = 200
    · rw [if_pos hok] at h
      split at h
      · cases h
      · split at h
        · cases h
          simp [Remark.Distinct]
        · cases h
    · rw [if_neg hok] at h
      cases h
      simp [Remark.Distinct]

/-- No remark has a field that is named as an identifier, or two of one name. -/
theorem distinct_of_remark? {c : Call} {reply : Reply} {remark : Remark}
    (h : remark? config c reply = some remark) : remark.Distinct := by
  cases c with
  | openSession => exact distinct_of_openingRemark? h
  | impersonate n username domain => exact distinct_of_impersonationRemark? h
  | query n request => exact distinct_of_queryRemark? h
  | setTimeout n limit => cases h
  | closeSession n => cases h

/-- The event of a remark tells what is bound and then what is remarked: neither hides the
other. -/
theorem context_of_remark? {c : Call} {reply : Reply} {remark : Remark}
    (h : remark? config c reply = some remark) (tokens : List Text) :
    (remark.event (bindings tokens c)).context = bindings tokens c ++ remark.fields := by
  refine Fields.overlay_eq_append ?_
  rw [List.map_append]
  exact ((names_bindings tokens c).append_right _).nodup (distinct_of_remark? h)

/-! ## The events of a call -/

theorem notices_finishOpen (reply : Reply) (v : Remote) :
    (finishOpen config reply v).notices = remarks [] (openingRemark? config reply) := by
  cases reply with
  | raise f =>
    simp only [finishOpen, openingRemark?, Fault.transport?]
    cases f.kind <;> rfl
  | respond r =>
    simp only [finishOpen, openingRemark?]
    rcases token? config r with f | token | token <;> rfl

theorem notices_finishImpersonate (s : RemoteSession) (username : Text) (reply : Reply)
    (v : Remote) :
    (finishImpersonate config s username reply v).notices =
      remarks [("session_id", .string s.token)] (impersonationRemark? username reply) := by
  cases reply with
  | raise f =>
    simp only [finishImpersonate, impersonationRemark?, Fault.transport?]
    cases f.kind <;> rfl
  | respond r =>
    simp only [finishImpersonate, impersonationRemark?]
    by_cases hok : r.status = 200
    · simp [hok]
    · by_cases hserver : 500 ≤ r.status
      · simp [hok, hserver, refused]
      · simp [hok, hserver, refused, sessionEvent, Remark.event]

theorem notices_finishQuery (s : RemoteSession) (request : QueryRequest) (reply : Reply)
    (v : Remote) :
    (finishQuery config s request reply v).notices =
      remarks [("session_id", .string s.token)] (queryRemark? config request reply) := by
  cases reply with
  | raise f =>
    simp only [finishQuery, queryRemark?, Fault.transport?]
    cases f.kind with
    | transport t =>
      cases ht : t.isTimeout <;> simp [ht, sessionEvent, Remark.event]
    | _ => rfl
  | respond r =>
    simp only [finishQuery, queryRemark?]
    by_cases hok : r.status = 200
    · simp only [hok, if_true, readRows]
      cases request.columns with
      | nil => rfl
      | cons column others =>
        simp only [Response.rows?]
        rcases r.json config.codec with f | payload | payload
        · rfl
        · rfl
        · simp only [Except.map, Option.bind_some]
          cases Rows.ofPayload? column others.head? payload <;> rfl
    · simp [hok, refused, sessionEvent, Remark.event]

/-- What is seen of a call, and the events that it wrote. -/
structure Sighting where
  entry : Entry
  notices : List Event

/-- Makes a call, and watches the log. -/
def watch (config : RemoteConfig) (c : Call) (w : Remote) : Sighting × Remote :=
  (⟨(observe config c w).1, ((repository config).perform c w).notices⟩, (observe config c w).2)

/-- The events are those of the remark on the reply, if there was a request. -/
def Sighting.Remarks (config : RemoteConfig) (sighting : Sighting) (bound : Fields) : Prop :=
  sighting.notices = sighting.entry.requests.flatMap fun _ =>
    remarks bound (remark? config sighting.entry.call sighting.entry.reply)

/-- What is posted on a session is remarked on under the identifier of the session. -/
theorem notices_post {α : Type} (hs : w.sessions[number]? = some s) (suffix : String) (body : Json)
    {finish : RemoteSession → Reply → Remote → Finished Remote α}
    (hkeeps : ∀ s reply v, (finish s reply v).world = v) {remark : Reply → Option Remark}
    (hnotices : ∀ s reply v, (finish s reply v).notices =
      remarks [("session_id", .string s.token)] (remark reply)) :
    let started := post config w number suffix body finish
    let f := started.finish started.world
    f.notices = (f.world.calls.drop w.calls.length).flatMap fun _ =>
      remarks [("session_id", .string s.token)] (remark w.next.reply) := by
  simp only [post, onSession, hs]
  rcases startRequest_cases config w s "POST" suffix body (finish s) id
    (fun f => .atOnce w (.error f) []) with ⟨f, -, hstart⟩ | ⟨call, -, hstart⟩
  · rw [hstart]
    simp [Started.atOnce]
  · rw [hstart]
    simp [hkeeps, hnotices, played]

/-- The reply to an opening is remarked on under no identifier. -/
theorem notices_startOpen (config : RemoteConfig) (w : Remote) :
    let started := startOpen config w
    let f := started.finish started.world
    f.notices = (f.world.calls.drop w.calls.length).flatMap fun _ =>
      remarks [] (openingRemark? config w.next.reply) := by
  rcases startOpen_cases config w with ⟨f, -, hstart⟩ | ⟨call, -, hstart⟩
  · have hcalls : (created config w).calls = w.calls :=
      (Prod.mk.inj (record_created config w)).2
    simp only [hstart, Started.atOnce, hcalls, List.drop_length, List.flatMap_nil]
  · have hcalls : ∀ v, (finishOpen config w.next.reply v).world.calls = v.calls :=
      fun v => (Prod.mk.inj (record_finishOpen w.next.reply v)).2
    simp only [hstart, hcalls, notices_finishOpen, played, List.drop_left, List.flatMap_singleton]

/-- Nothing is remarked on but what is posted. -/
theorem remark?_of_not_posts {c : Call} (hc : c.session? = some number) (hposts : ¬c.Posts number)
    (reply : Reply) : remark? config c reply = none := by
  cases c with
  | openSession => cases hc
  | impersonate n username domain => exact absurd (Option.some.inj hc) hposts
  | query n request => exact absurd (Option.some.inj hc) hposts
  | setTimeout n limit => rfl
  | closeSession n => rfl

/-- A call on a session that was never opened writes no event. -/
theorem notices_of_unknown (config : RemoteConfig) {c : Call} (hc : c.session? = some number)
    (hnone : w.sessions[number]? = none) : ((repository config).perform c w).notices = [] := by
  cases c <;> cases hc
  all_goals
    simp only [Repository.perform, repository, onSession, hnone]
    rfl

/-- The request that closes a session writes no event, whatever the reply. -/
theorem notices_startClose (config : RemoteConfig) (w : Remote) (number : Nat) (s : RemoteSession) :
    let started := startClose config w number s
    (started.finish started.world).notices = [] := by
  simp only [startClose]
  split
  · rfl
  · generalize (w.modifySession number fun s => { s with isClosing := true }) = v
    rcases startRequest_cases config v s "DELETE" "" .null (finishClose number)
      (closeSessionClient · number) (fun f => .atOnce (v.closeSessionClient number) (.error f) [])
      with ⟨f, -, hstart⟩ | ⟨call, -, hstart⟩
    · rw [hstart]
      rfl
    · rw [hstart]
      cases v.next.reply <;> rfl

/-- Limiting and closing a session writes no event. -/
theorem notices_of_not_posts (config : RemoteConfig) {c : Call} (hc : c.session? = some number)
    (hposts : ¬c.Posts number) (hs : w.sessions[number]? = some s) :
    ((repository config).perform c w).notices = [] := by
  cases c with
  | openSession => cases hc
  | impersonate n username domain => exact absurd (Option.some.inj hc) hposts
  | query n request => exact absurd (Option.some.inj hc) hposts
  | setTimeout n limit =>
    cases hc
    simp only [Repository.perform, repository, onSession, hs]
    rfl
  | closeSession n =>
    cases hc
    simp only [Repository.perform, repository, onSession, hs]
    exact notices_startClose config w number s

/-- What is posted is remarked on. -/
theorem notices_of_posts (config : RemoteConfig) {c : Call} (hc : c.Posts number)
    (hs : w.sessions[number]? = some s) :
    (watch config c w).1.Remarks config [("session_id", .string s.token)] := by
  cases c with
  | impersonate n username domain =>
    cases hc
    exact notices_post hs _ _ (world_finishImpersonate · username)
      (notices_finishImpersonate · username)
  | query n request =>
    cases hc
    exact notices_post hs _ _ (world_finishQuery · request) (notices_finishQuery · request)
  | _ => exact hc.elim

/-- **The events of a call** are those of the remark on its reply, with the identifier of the
session that the call is made on. -/
theorem notices_of_watch (config : RemoteConfig) (c : Call) (w : Remote) :
    (watch config c w).1.Remarks config (bindings (w.sessions.map RemoteSession.token) c) := by
  cases hc : c.session? with
  | none =>
    cases c <;> cases hc
    simp only [Sighting.Remarks, watch, observe, Repository.perform, repository, remark?,
      bindings_openSession]
    have hnotices := notices_startOpen config w
    generalize startOpen config w = started at hnotices ⊢
    exact hnotices
  | some n =>
    cases hs : w.sessions[n]? with
    | none =>
      obtain ⟨-, hworld⟩ := perform_of_unknown config hc hs
      simp only [Sighting.Remarks, watch, observe, hworld, List.drop_length, List.flatMap_nil]
      exact notices_of_unknown config hc hs
    | some s =>
      by_cases hposts : c.Posts n
      · simpa [bindings, hc, hs] using notices_of_posts config hposts hs
      · have hsilent := notices_of_not_posts config hc hposts hs
        simp [Sighting.Remarks, watch, observe, remark?_of_not_posts hc hposts, hsilent]

/-- An event is that of a remark. -/
theorem Sighting.Remarks.exists_remark {sighting : Sighting} {bound : Fields}
    (h : sighting.Remarks config bound) {e : Event} (he : e ∈ sighting.notices) :
    ∃ remark, remark? config sighting.entry.call sighting.entry.reply = some remark ∧
      e = remark.event bound := by
  rw [h] at he
  obtain ⟨-, -, he⟩ := List.mem_flatMap.mp he
  obtain ⟨remark, hremark, rfl⟩ := Option.map_eq_some_iff.mp (Option.mem_toList.mp he)
  exact ⟨remark, hremark, rfl⟩

/-! ## The events of a history -/

/-- The events of a history are remarks, each with what was bound when it was written. -/
structure Noticed (config : RemoteConfig) (sightings : List Sighting) : Prop where
  /-- The events of a call are those of the remark on its reply, with the identifier of its
  session. -/
  notices : ∀ newer sighting older, sightings = newer ++ sighting :: older →
    sighting.Remarks config
      (bindings (tokens config (older.map Sighting.entry)) sighting.entry.call)
  /-- No field of an event hides another one, and none that was not bound is named as an
  identifier. -/
  context : ∀ sighting ∈ sightings, ∀ e ∈ sighting.notices,
    e.context = e.bound ++ e.fields ∧ e.fields.hasName "session_id" = false
  /-- Every event of a session holds the identifier of the session. -/
  holds : ∀ newer sighting older, sightings = newer ++ sighting :: older →
    ∀ n token, sighting.entry.call.session? = some n →
      (tokens config (older.map Sighting.entry))[n]? = some token →
      ∀ e ∈ sighting.notices, e.holds token = true

/-- Before the first call nothing is logged. -/
theorem noticed_nil (config : RemoteConfig) : Noticed config [] where
  notices newer sighting older h := by simp at h
  context sighting h := by cases h
  holds newer sighting older h := by simp at h

/-- One more call. -/
theorem Noticed.cons {sightings : List Sighting} (h : Noticed config sightings)
    {sighting : Sighting}
    (hremarks : sighting.Remarks config
      (bindings (tokens config (sightings.map Sighting.entry)) sighting.entry.call)) :
    Noticed config (sighting :: sightings) where
  notices newer other older heq := by
    cases newer with
    | nil =>
      obtain ⟨rfl, rfl⟩ := List.cons.inj heq
      exact hremarks
    | cons first newer =>
      obtain ⟨-, rfl⟩ := List.cons.inj heq
      exact h.notices newer other older rfl
  context other hother e he := by
    rcases List.mem_cons.mp hother with rfl | hother
    · obtain ⟨remark, hremark, rfl⟩ := hremarks.exists_remark he
      have hnames := distinct_of_remark? hremark
      refine ⟨context_of_remark? hremark _, ?_⟩
      rw [Fields.hasName, List.any_eq_false]
      intro f hf hname
      have hmem : f.1 ∈ remark.fields.map Prod.fst := List.mem_map_of_mem hf
      rw [beq_iff_eq.mp hname] at hmem
      exact (List.nodup_cons.mp hnames).1 hmem
    · exact h.context other hother e he
  holds newer other older heq n token hc htoken e he := by
    cases newer with
    | nil =>
      obtain ⟨rfl, rfl⟩ := List.cons.inj heq
      obtain ⟨remark, hremark, rfl⟩ := hremarks.exists_remark he
      rw [Event.holds, context_of_remark? hremark]
      simp [bindings, hc, htoken]
    | cons first newer =>
      obtain ⟨-, rfl⟩ := List.cons.inj heq
      exact h.holds newer other older rfl n token hc htoken e he

/-- **What is logged of any calls, with any replies.** -/
theorem noticed_of_history (config : RemoteConfig) (script : List Exchange) (calls : List Call) :
    Noticed config (History.run (watch config) (ofScript script) calls).entries := by
  let I := fun (sightings : List Sighting) (w : Remote) =>
    Accounts config (sightings.map Sighting.entry) w ∧ Noticed config sightings
  have hstart : I [] (ofScript script) := ⟨accounts_ofScript config script, noticed_nil config⟩
  have hstep : ∀ c sightings w, I sightings w →
      I ((watch config c w).1 :: sightings) (watch config c w).2 := by
    rintro c sightings w ⟨haccounts, hnoticed⟩
    refine ⟨haccounts.observe c, hnoticed.cons ?_⟩
    -- The sessions of the world have the identifiers that the history tells.
    have htokens : w.sessions.map RemoteSession.token =
        tokens config (sightings.map Sighting.entry) := by
      refine List.ext_getElem? fun n => ?_
      rw [List.getElem?_map, haccounts.getElem?, Option.map_map]
      exact Option.map_id'
    rw [← htokens]
    exact notices_of_watch config c w
  exact (History.invariant (watch config) hstart hstep calls).2

/-- A server that opens a session and rejects the impersonation on it. -/
def rejectingScript : List Exchange :=
  [⟨.immediate, .respond (.ofText "\x7b\"session_id\":\"s\"\x7d" "application/json")⟩,
    ⟨.immediate, .respond ⟨401, [0x6E, 0x6F], "application/json"⟩⟩]

/-- **An event carries the identifier of a session**: the impersonation on it was rejected. -/
theorem rejection_tells_token :
    let h := History.run (watch plainConfig) (ofScript rejectingScript)
      [.openSession, .impersonate 0 "u" none]
    tokens plainConfig (h.entries.map Sighting.entry) = (["s"] : List Text) ∧
      (h.entries.flatMap Sighting.notices).any (Event.holds "s") = true := by
  decide +kernel

end Remote
end DocAccess
