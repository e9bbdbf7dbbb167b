import DocAccess.Proofs.Remote.Replies
import DocAccess.Proofs.Session.Worlds

/-!
# Calls on a remote repository

What each call makes of the next reply of the script. A call that succeeds has sent one request,
which is recorded, and has had a response of the right status and shape. A call that raises has no
address for its request, or a body that cannot be sent, or has had a reply that spoils it.

## Main definitions

* `RemoteCall.Targets` — what a recorded request was for.
* `Remote.Serves` — a session with its client open.
* `Remote.Exchanged` — requests that were made and answered between two worlds.

## Main statements

* `exchanged_of_opened`, `exchanged_of_impersonated`, `exchanged_of_rows` — calls that succeed.
* `of_fault_of_opening`, `of_fault_on_session` — calls that raise.
* `requests_start` — a call makes at most one request.
* `Serves.of_takes` — a session serves until it is closed.
-/
namespace DocAccess

/-- The recorded request was made with a method and a body at a path below the base address. -/
structure RemoteCall.Targets (call : RemoteCall) (config : RemoteConfig) (method : String)
    (path : Text) (body : Json) : Prop where
  method_eq : call.method = method
  url : Remote.address config path = .ok call.url
  body_eq : call.body = body

/-- The call works on a session that is open: it limits it, impersonates a principal on it, or
queries some columns. -/
def Call.WorksOn (number : Nat) : Call → Prop
  | .setTimeout n _ | .impersonate n _ _ => n = number
  | .query n request => n = number ∧ request.columns ≠ []
  | .openSession | .closeSession _ => False

namespace Remote

variable {config : RemoteConfig} {w w' : Remote}

/-! ## The script and the record -/

/-- What the next request gets. -/
def next (w : Remote) : Exchange := w.script.headD .exhausted

/-- The world once a request has been made. -/
def played (w : Remote) (call : RemoteCall) : Remote :=
  { w with calls := w.calls ++ [call], script := w.script.tail }

theorem take_eq (w : Remote) (call : RemoteCall) : w.take call = (w.next, w.played call) := by
  unfold take next played
  cases w.script <;> rfl

/-- What the next request gets is the first entry of the script, unless that is at its end. -/
theorem script_or_exhausted (w : Remote) :
    w.next = .exhausted ∨ ∃ rest, w.script = w.next :: rest := by
  unfold next
  cases w.script with
  | nil => exact .inl rfl
  | cons e rest => exact .inr ⟨rest, rfl⟩

/-- Between the worlds requests were made and answered: the responses stood at the front of the
script, and the requests are recorded. -/
structure Exchanged (w : Remote) (exchanges : List (RemoteCall × Response)) (w' : Remote) :
    Prop where
  replies : w.script.map Exchange.reply =
    exchanges.map (fun x => .respond x.2) ++ w'.script.map Exchange.reply
  calls : w'.calls = w.calls ++ exchanges.map Prod.fst

/-- Without a request script and record stay as they are. -/
theorem exchanged_of_record (h : w'.record = w.record) : Exchanged w [] w' := by
  obtain ⟨hscript, hcalls⟩ := Prod.mk.inj h
  exact ⟨by simp [hscript], by simp [hcalls]⟩

/-- A response comes from the script. -/
theorem exchanged_of_respond {r : Response} (h : w.next.reply = .respond r) (call : RemoteCall)
    (hrecord : w'.record = (w.played call).record) : Exchanged w [(call, r)] w' := by
  obtain ⟨hscript, hcalls⟩ := Prod.mk.inj hrecord
  refine ⟨?_, by simp [hcalls, played]⟩
  rcases w.script_or_exhausted with hnext | ⟨rest, hs⟩
  · rw [hnext] at h
    cases h
  · rw [hscript]
    simp [played, hs, h]

/-- Exchanges may follow one another. -/
theorem Exchanged.append {u : Remote} {xs ys : List (RemoteCall × Response)}
    (h : Exchanged w xs u) (h' : Exchanged u ys w') : Exchanged w (xs ++ ys) w' where
  replies := by rw [h.replies, h'.replies, List.map_append, List.append_assoc]
  calls := by rw [h'.calls, h.calls, List.map_append, List.append_assoc]

/-! ## Requests on a session -/

/-- A request that is prepared has its address. -/
theorem address_of_prepared {path : Text} {body : Json} {url : String}
    (h : prepared config path body = .ok url) : address config path = .ok url := by
  unfold prepared at h
  split at h
  · cases h
  · cases h
  · rename_i haddress _
    exact haddress.trans h

/-- The session is there under a token, and its client is open. -/
def Serves (w : Remote) (number : Nat) (token : Text) : Prop :=
  ∃ s, w.sessions[number]? = some s ∧ s.token = token ∧ s.clientOpen = true

/-- Sessions that are as they were serve as they did. -/
theorem Serves.of_sessions {number : Nat} {token : Text} (h : w.Serves number token)
    (hsessions : w'.sessions = w.sessions) : w'.Serves number token := by
  rw [Serves, hsessions]
  exact h

/-- A request on a session is made with the limit of the session, unless it cannot be prepared or
the client is closed. -/
theorem startRequest_sent {α : Type} (config : RemoteConfig) (w : Remote) (s : RemoteSession)
    (method suffix : String) (body : Json) (finish : Reply → Remote → Finished Remote α)
    (cancel : Remote → Remote) (stopped : Fault → Started Remote α) :
    (∃ f, (s.clientOpen = true → prepared config (sessionPath s.token suffix) body = .error f) ∧
      startRequest config w s method suffix body finish cancel stopped = stopped f) ∨
    ∃ call : RemoteCall, s.clientOpen = true ∧ call.limit = s.limit ∧
      call.Targets config method (sessionPath s.token suffix) body ∧
      startRequest config w s method suffix body finish cancel stopped =
        ⟨w.played call, w.next.wait, finish w.next.reply, cancel⟩ := by
  unfold startRequest
  cases hprepared : prepared config (sessionPath s.token suffix) body with
  | error f => exact .inl ⟨f, fun _ => rfl, rfl⟩
  | ok url =>
    by_cases hopen : s.clientOpen
    · simp only [hopen, if_true, take_eq]
      exact .inr ⟨_, trivial, rfl, ⟨rfl, address_of_prepared hprepared, rfl⟩, rfl⟩
    · exact .inl ⟨closedFault, fun h => absurd h hopen, by simp [hopen]⟩

/-- A request on a session is made, unless it cannot be prepared or the client is closed. -/
theorem startRequest_cases {α : Type} (config : RemoteConfig) (w : Remote) (s : RemoteSession)
    (method suffix : String) (body : Json) (finish : Reply → Remote → Finished Remote α)
    (cancel : Remote → Remote) (stopped : Fault → Started Remote α) :
    (∃ f, (s.clientOpen = true → prepared config (sessionPath s.token suffix) body = .error f) ∧
      startRequest config w s method suffix body finish cancel stopped = stopped f) ∨
    ∃ call : RemoteCall, call.Targets config method (sessionPath s.token suffix) body ∧
      startRequest config w s method suffix body finish cancel stopped =
        ⟨w.played call, w.next.wait, finish w.next.reply, cancel⟩ :=
  (startRequest_sent config w s method suffix body finish cancel stopped).imp id
    fun ⟨call, _, _, hsent⟩ => ⟨call, hsent⟩

/-- Posts a body on a session, as impersonations and queries do. -/
def post {α : Type} (config : RemoteConfig) (w : Remote) (number : Nat) (suffix : String)
    (body : Json) (finish : RemoteSession → Reply → Remote → Finished Remote α) :
    Started Remote α :=
  onSession w number fun s =>
    startRequest config w s "POST" suffix body (finish s) id (fun f => .atOnce w (.error f) [])

/-- An impersonation is posted. -/
theorem start_impersonate (w : Remote) (number : Nat) (username : Text)
    (domain : Option Text) :
    (repository config).start (.impersonate number username domain) w =
      post config w number "/impersonation" (impersonationBody username domain)
        (finishImpersonate config · username) := rfl

/-- A query is posted. -/
theorem start_query (w : Remote) (number : Nat) (request : QueryRequest) :
    (repository config).start (.query number request) w =
      post config w number "/queries" (queryBody request) (finishQuery config · request) := rfl

/-- What is posted on a session that serves is sent, unless it cannot be prepared. -/
theorem post_cases {α : Type} (config : RemoteConfig) {number : Nat} {token : Text}
    (h : w.Serves number token) (suffix : String) (body : Json)
    (finish : RemoteSession → Reply → Remote → Finished Remote α) :
    (∃ f, prepared config (sessionPath token suffix) body = .error f ∧
      post config w number suffix body finish = .atOnce w (.error f) []) ∨
    ∃ (s : RemoteSession) (call : RemoteCall),
      call.Targets config "POST" (sessionPath token suffix) body ∧
      post config w number suffix body finish =
        ⟨w.played call, w.next.wait, finish s w.next.reply, id⟩ := by
  obtain ⟨s, hs, rfl, hopen⟩ := h
  unfold post onSession
  rw [hs]
  rcases startRequest_cases config w s "POST" suffix body (finish s) id
    (fun f => .atOnce w (.error f) []) with ⟨f, hprepared, hstart⟩ | hcall
  · exact .inl ⟨f, hprepared hopen, hstart⟩
  · exact .inr ⟨s, hcall⟩

/-! ## Calls that succeed -/

/-- The world once a client was created; there is none without a base address. -/
def created (config : RemoteConfig) (w : Remote) : Remote :=
  match base config with
  | .error _ => w
  | .ok _ => { w with clientsOpened := w.clientsOpened + 1 }

theorem record_created (config : RemoteConfig) (w : Remote) :
    (created config w).record = w.record := by
  unfold created
  cases base config <;> rfl

/-- Opening a session creates a client and posts a request, unless it has no address. -/
theorem startOpen_cases (config : RemoteConfig) (w : Remote) :
    (∃ f, address config "/sessions" = .error f ∧
      startOpen config w = .atOnce (created config w) (.error f) []) ∨
    ∃ call : RemoteCall, call.Targets config "POST" "/sessions" .null ∧
      startOpen config w =
        ⟨{ w.played call with clientsOpened := w.clientsOpened + 1 }, w.next.wait,
          finishOpen config w.next.reply, id⟩ := by
  unfold startOpen created
  cases hbase : base config with
  | error f => exact .inl ⟨f, by simp [address, hbase], rfl⟩
  | ok b =>
    have haddress : address config "/sessions" = b.join "/sessions" := by simp [address, hbase]
    cases hjoin : b.join "/sessions" with
    | error f => exact .inl ⟨f, haddress.trans hjoin, by simp only [hjoin]⟩
    | ok url =>
      simp only [hjoin, take_eq]
      exact .inr ⟨_, ⟨rfl, haddress.trans hjoin, rfl⟩, rfl⟩

/-- A session that was opened serves under the token of the response. -/
theorem exchanged_of_opened {session : Session}
    (h : (repository config).ask .openSession w = .ok (.ok session, w')) :
    ∃ call r token, RemoteCall.Targets call config "POST" "/sessions" .null ∧
      token? config r = .ok (some token) ∧ Exchanged w [(call, r)] w' ∧
      w'.Serves session.number token := by
  obtain ⟨houtcome, hworld⟩ := (repository config).perform_of_ask h
  simp only [Repository.perform, repository] at houtcome hworld
  rcases startOpen_cases config w with ⟨f, -, hstart⟩ | ⟨call, htargets, hstart⟩
  · rw [hstart] at houtcome
    cases houtcome
  · simp only [hstart] at houtcome hworld
    obtain ⟨r, token, hreply, htoken, hsession, hafter⟩ := created_of_finishOpen houtcome
    rw [hafter] at hworld
    refine ⟨call, r, token, htargets, htoken, exchanged_of_respond hreply call ?_, ?_⟩
    · rw [← hworld]
      rfl
    · refine ⟨⟨token, config.limit, false, true⟩, ?_, rfl, rfl⟩
      rw [← hworld, hsession]
      simp

/-- What was posted on a session and answered was sent and had a response, which has whatever every
response behind the answer has. The session goes on serving. -/
theorem exchanged_of_post {α : Type} {number : Nat} {token : Text}
    (hserves : w.Serves number token) {suffix : String} {body : Json}
    {finish : RemoteSession → Reply → Remote → Finished Remote α}
    (hkeeps : ∀ s reply v, (finish s reply v).world = v) {answer : α} {P : Response → Prop}
    (hresponse : ∀ s reply v, (finish s reply v).outcome = .ok answer →
      ∃ r, reply = .respond r ∧ P r)
    (houtcome : ((post config w number suffix body finish).finish
      (post config w number suffix body finish).world).outcome = .ok answer)
    (hworld : ((post config w number suffix body finish).finish
      (post config w number suffix body finish).world).world = w') :
    ∃ call r, RemoteCall.Targets call config "POST" (sessionPath token suffix) body ∧ P r ∧
      Exchanged w [(call, r)] w' ∧ w'.Serves number token := by
  rcases post_cases config hserves suffix body finish with
    ⟨f, -, hstart⟩ | ⟨s, call, htargets, hstart⟩
  · rw [hstart] at houtcome
    cases houtcome
  · simp only [hstart] at houtcome hworld
    obtain ⟨r, hreply, hr⟩ := hresponse s _ _ houtcome
    rw [hkeeps] at hworld
    subst hworld
    exact ⟨call, r, htargets, hr, exchanged_of_respond hreply call rfl, hserves.of_sessions rfl⟩

/-- An impersonation that succeeded was answered with status 200. -/
theorem exchanged_of_impersonated {number : Nat} {token : Text} {username : Text}
    {domain : Option Text} (hserves : w.Serves number token)
    (h : (repository config).ask (.impersonate number username domain) w = .ok (.ok (), w')) :
    ∃ call r, RemoteCall.Targets call config "POST" (sessionPath token "/impersonation")
        (impersonationBody username domain) ∧
      r.status = 200 ∧ Exchanged w [(call, r)] w' ∧ w'.Serves number token := by
  obtain ⟨houtcome, hworld⟩ := (repository config).perform_of_ask h
  rw [Repository.perform, start_impersonate] at houtcome hworld
  exact exchanged_of_post hserves (world_finishImpersonate · username)
    (fun _ _ _ => status_of_finishImpersonate) houtcome hworld

/-- A query that brought rows was answered with status 200, and the rows confirm what the response
names. -/
theorem exchanged_of_rows {number : Nat} {token : Text} {request : QueryRequest}
    {rows : List Row} (hserves : w.Serves number token) {column : String} {others : List String}
    (hcolumns : request.columns = column :: others)
    (h : (repository config).ask (.query number request) w = .ok (.ok rows, w')) :
    ∃ call r, RemoteCall.Targets call config "POST" (sessionPath token "/queries")
        (queryBody request) ∧
      (r.status = 200 ∧ ∀ id, Aggregate.confirms rows id = r.names config.codec column id) ∧
      Exchanged w [(call, r)] w' ∧ w'.Serves number token := by
  obtain ⟨houtcome, hworld⟩ := (repository config).perform_of_ask h
  rw [Repository.perform, start_query] at houtcome hworld
  exact exchanged_of_post hserves (world_finishQuery · request)
    (fun _ _ _ => named_of_finishQuery hcolumns) houtcome hworld

/-! ## Calls that raise -/

/-- A call makes at most one request, with a given method and before it waits; its end and its
cancellation change neither the script nor the record. -/
structure Requests {α : Type} (w : Remote) (method : String) (started : Started Remote α) :
    Prop where
  finish : ∀ u, (started.finish u).world.record = u.record
  cancel : ∀ u, (started.cancel u).record = u.record
  start : started.wait = .immediate ∧ started.world.record = w.record ∨
    started.wait = w.next.wait ∧
      ∃ call : RemoteCall, call.method = method ∧ started.world.record = (w.played call).record

/-- A call that ends at once may make no request. -/
theorem requests_atOnce {α : Type} {v : Remote} (hv : v.record = w.record) (method : String)
    (outcome : Except Fault α) (notices : List Event) :
    Requests w method (.atOnce v outcome notices) :=
  ⟨fun _ => rfl, fun _ => rfl, .inl ⟨rfl, hv⟩⟩

theorem requests_onSession {α : Type} (number : Nat) (method : String)
    (f : RemoteSession → Started Remote α) (hf : ∀ s, Requests w method (f s)) :
    Requests w method (onSession w number f) := by
  unfold onSession
  cases w.sessions[number]? with
  | none => exact requests_atOnce rfl method _ _
  | some s => exact hf s

theorem requests_startRequest {α : Type} {v : Remote} (hv : v.record = w.record)
    (s : RemoteSession) (method suffix : String) (body : Json)
    (finish : Reply → Remote → Finished Remote α) (cancel : Remote → Remote)
    (stopped : Fault → Started Remote α)
    (hfinish : ∀ reply u, (finish reply u).world.record = u.record)
    (hcancel : ∀ u, (cancel u).record = u.record) (hstopped : ∀ f, Requests w method (stopped f)) :
    Requests w method (startRequest config v s method suffix body finish cancel stopped) := by
  obtain ⟨hscript, hcalls⟩ := Prod.mk.inj hv
  rcases startRequest_cases config v s method suffix body finish cancel stopped with
    ⟨f, -, hstart⟩ | ⟨call, htargets, hstart⟩
  · rw [hstart]
    exact hstopped f
  · rw [hstart]
    refine ⟨hfinish _, hcancel, .inr ⟨by simp [next, hscript], call, htargets.method_eq, ?_⟩⟩
    simp [record, played, hscript, hcalls]

/-- The method of the request that a call makes. -/
def method : Call → String
  | .closeSession _ => "DELETE"
  | _ => "POST"

/-- **A call makes at most one request**, before it waits. -/
theorem requests_start (config : RemoteConfig) (c : Call) (w : Remote) :
    Requests w (method c) ((repository config).start c w) := by
  cases c with
  | openSession =>
    rcases startOpen_cases config w with ⟨f, -, hstart⟩ | ⟨call, htargets, hstart⟩
    · simp only [repository, hstart]
      exact requests_atOnce (record_created config w) _ _ _
    · simp only [repository, hstart]
      exact ⟨record_finishOpen _, fun _ => rfl, .inr ⟨rfl, call, htargets.method_eq, rfl⟩⟩
  | setTimeout number limit =>
    exact requests_onSession number _ _ fun _ => requests_atOnce (record_modifySession ..) _ _ _
  | impersonate number username domain =>
    refine requests_onSession number _ _ fun s => requests_startRequest rfl s _ _ _ _ _ _
      (fun reply u => ?_) (fun _ => rfl) (fun f => requests_atOnce rfl _ _ _)
    rw [world_finishImpersonate]
  | query number request =>
    refine requests_onSession number _ _ fun s => requests_startRequest rfl s _ _ _ _ _ _
      (fun reply u => ?_) (fun _ => rfl) (fun f => requests_atOnce rfl _ _ _)
    rw [world_finishQuery]
  | closeSession number =>
    refine requests_onSession number _ _ fun s => ?_
    unfold startClose
    split
    · exact requests_atOnce rfl _ _ _
    · refine requests_startRequest (record_modifySession ..) _ _ _ _ _ _ _ (fun reply u => ?_)
        (record_closeSessionClient · number)
        (fun f => requests_atOnce ((record_closeSessionClient ..).trans (record_modifySession ..))
          _ _ _)
      cases reply <;> exact record_closeSessionClient u number

/-- A visit leaves script and record as its start does. -/
theorem record_of_takes {v : Visit} (h : (repository config).Takes w v w') :
    w'.record = ((repository config).start v.call w).world.record :=
  h.observe record (requests_start config v.call w).finish (requests_start config v.call w).cancel

/-- Closing a session makes no request but deletions. -/
theorem calls_of_closed {v : Visit} {number : Nat} (h : (repository config).Takes w v w')
    (hcall : v.call = .closeSession number) :
    ∃ deletions, w'.calls = w.calls ++ deletions ∧ ∀ call ∈ deletions, call.method = "DELETE" := by
  have hrecord := record_of_takes h
  rcases (requests_start config v.call w).start with ⟨-, hstart⟩ | ⟨-, call, hmethod, hstart⟩
  · rw [hstart] at hrecord
    have hcalls : w'.calls = w.calls := congrArg Prod.snd hrecord
    exact ⟨[], by simpa using hcalls, by simp⟩
  · rw [hstart] at hrecord
    have hcalls : w'.calls = w.calls ++ [call] := congrArg Prod.snd hrecord
    rw [hcall] at hmethod
    exact ⟨[call], hcalls, by simpa [method] using hmethod⟩

/-- A limit is set without a request. -/
theorem exchanged_of_limit {v : Visit} {number : Nat} {limit : Seconds}
    (h : (repository config).Takes w v w') (hcall : v.call = .setTimeout number limit) :
    Exchanged w [] w' := by
  refine exchanged_of_record ((record_of_takes h).trans ?_)
  rw [hcall]
  simp only [repository, onSession]
  cases w.sessions[number]? <;> rfl

/-- What is posted on a session changes nothing but script and record, at its start. -/
theorem world_post {α : Type} (config : RemoteConfig) (w : Remote) (number : Nat) (suffix : String)
    (body : Json) (finish : RemoteSession → Reply → Remote → Finished Remote α)
    (hfinish : ∀ s reply v, (finish s reply v).world = v) :
    let started := post config w number suffix body finish
    (started.world = w ∨ ∃ call, started.world = w.played call) ∧
      (∀ u, (started.finish u).world = u) ∧ ∀ u, started.cancel u = u := by
  unfold post onSession
  cases w.sessions[number]? with
  | none => exact ⟨.inl rfl, fun _ => rfl, fun _ => rfl⟩
  | some s =>
    simp only
    rcases startRequest_cases config w s "POST" suffix body (finish s) id
      (fun f => .atOnce w (.error f) []) with ⟨f, -, hstart⟩ | ⟨call, -, hstart⟩
    · rw [hstart]
      exact ⟨.inl rfl, fun _ => rfl, fun _ => rfl⟩
    · rw [hstart]
      exact ⟨.inr ⟨call, rfl⟩, fun u => hfinish s _ u, fun _ => rfl⟩

/-- An impersonation or a query changes nothing but script and record. -/
theorem played_of_takes {v : Visit} (h : (repository config).Takes w v w')
    (hcall : (∃ number username domain, v.call = .impersonate number username domain) ∨
      ∃ number request, v.call = .query number request) :
    w' = w ∨ ∃ call, w' = w.played call := by
  obtain ⟨c, began, ending⟩ := v
  rcases hcall with ⟨number, username, domain, rfl⟩ | ⟨number, request, rfl⟩
  · obtain ⟨hworld, hfinish, hcancel⟩ := world_post config w number "/impersonation"
      (impersonationBody username domain) (finishImpersonate config · username)
      (world_finishImpersonate · username)
    have hend : w' = _ := h.observe id hfinish hcancel
    rw [hend]
    exact hworld
  · obtain ⟨hworld, hfinish, hcancel⟩ := world_post config w number "/queries"
      (queryBody request) (finishQuery config · request) (world_finishQuery · request)
    have hend : w' = _ := h.observe id hfinish hcancel
    rw [hend]
    exact hworld

/-- **A session serves until it is closed.** -/
theorem Serves.of_takes {number : Nat} {token : Text} {v : Visit} (hserves : w.Serves number token)
    (h : (repository config).Takes w v w') (hworks : v.call.WorksOn number) :
    w'.Serves number token := by
  obtain ⟨c, began, ending⟩ := v
  cases c with
  | openSession => exact hworks.elim
  | closeSession other => exact hworks.elim
  | setTimeout other limit =>
    cases hworks
    obtain ⟨s, hs, htoken, hclient⟩ := hserves
    have hstart : (repository config).start (.setTimeout number limit) w =
        .atOnce (w.modifySession number fun s => { s with limit := limit }) (.ok ()) [] := by
      simp only [repository, onSession, hs]
    have hsessions := h.observe sessions (by simp [hstart]) (fun u => by rw [hstart]; rfl)
    refine ⟨{ s with limit := limit }, ?_, htoken, hclient⟩
    rw [hsessions, hstart]
    simp [Started.atOnce, modifySession, hs]
  | impersonate other username domain =>
    cases hworks
    rcases played_of_takes h (.inl ⟨_, _, _, rfl⟩) with rfl | ⟨call, rfl⟩
    · exact hserves
    · exact hserves.of_sessions rfl
  | query other request =>
    obtain ⟨rfl, -⟩ := hworks
    rcases played_of_takes h (.inr ⟨_, _, rfl⟩) with rfl | ⟨call, rfl⟩
    · exact hserves
    · exact hserves.of_sessions rfl

end Remote
end DocAccess
