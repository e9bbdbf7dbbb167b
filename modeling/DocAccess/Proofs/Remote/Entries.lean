import DocAccess.Proofs.Remote.Clients
import Mathlib.Data.Finset.Card

/-!
# What is seen of calls on a remote repository

An entry is what is seen of one call, and a list of entries, newest first, tells how many sessions
were opened and under which identifiers, which of them were closed, and which limit each of them was
given last. Here each call is followed to the world and the entry that it leaves.

## Main definitions

* `Remote.Entry` — what is seen of a call.
* `Remote.opens`, `Remote.tokens`, `Remote.closed`, `Remote.limitOf`, `Remote.stranded`,
  `Remote.deletions` — what a history tells of sessions and clients.
* `Remote.observe` — makes a call.

## Main statements

* `perform_opening`, `perform_limiting`, `perform_posting`, `perform_closing` — what each call does.
* `requests_of_observe` — where the requests of a call on a session go.
-/
namespace DocAccess

/-- The call posts something on the session. -/
def Call.Posts (number : Nat) : Call → Prop
  | .impersonate n _ _ | .query n _ => n = number
  | .openSession | .setTimeout .. | .closeSession _ => False

/-- An opening that was not cancelled opened what it answered. -/
theorem Visit.opened?_ofExcept {o : Except Fault (Except RepositoryError Session)}
    {began ended : Nat} {session : Session} :
    Visit.opened? ⟨.openSession, began, some (ended, .ofExcept o)⟩ = some session ↔
      o = .ok (.ok session) := by
  rcases o with f | e | session <;> simp [Visit.opened?, Ended.ofExcept]

/-- What is posted is posted on the session. -/
theorem Call.Posts.session? {number : Nat} {c : Call} (h : c.Posts number) :
    c.session? = some number := by
  cases c with
  | impersonate => exact congrArg some h
  | query => exact congrArg some h
  | _ => exact h.elim

namespace Remote

/-! ## What is seen of calls -/

/-- What is seen of a call: how it came out, the requests that the server recorded meanwhile, and
the reply that it had ready for the next request. -/
structure Entry where
  call : Call
  outcome : Except Fault call.Answer
  requests : List RemoteCall
  reply : Reply

namespace Entry

/-- Whether the call opened a session. -/
def opened : Entry → Bool
  | ⟨.openSession, .ok (.ok _), _, _⟩ => true
  | _ => false

/-- The identifier that the server gave the session that the call opened. -/
def token? (config : RemoteConfig) : Entry → Option Text
  | ⟨.openSession, .ok (.ok _), _, .respond r⟩ => (Remote.token? config r).toOption.join
  | _ => none

/-- The limit that the call gave the session. -/
def limit? (number : Nat) : Entry → Option Seconds
  | ⟨.setTimeout n limit, .ok _, _, _⟩ => if n = number then some limit else none
  | _ => none

/-- Whether the call left a client open without a session: an opening whose request has no address
below the base, or whose reply strands its client. -/
def strands (config : RemoteConfig) (e : Entry) : Bool :=
  match e.call with
  | .openSession =>
    match base config with
    | .error _ => false
    | .ok base =>
      match base.join "/sessions" with
      | .error _ => true
      | .ok _ => e.reply.strands config
  | _ => false

end Entry

/-- Number of sessions opened. -/
def opens (es : List Entry) : Nat := es.countP Entry.opened

/-- The identifiers of the sessions, by their numbers. -/
def tokens (config : RemoteConfig) (es : List Entry) : List Text :=
  es.reverse.filterMap (Entry.token? config)

/-- The sessions on which closing has been called. -/
def closed : List Entry → Finset Nat
  | [] => ∅
  | e :: es =>
    match e.call with
    | .closeSession n => if n < opens es then insert n (closed es) else closed es
    | _ => closed es

/-- The limit that a session was given last. -/
def limitOf (config : RemoteConfig) (number : Nat) (es : List Entry) : Seconds :=
  (es.findSome? (Entry.limit? number)).getD config.limit

/-- Number of clients left open without a session. -/
def stranded (config : RemoteConfig) (es : List Entry) : Nat := es.countP (Entry.strands config)

/-- Number of deletions recorded for a session. -/
def deletions (number : Nat) (es : List Entry) : Nat :=
  ((es.filter fun e => e.call.session? = some number).flatMap Entry.requests).countP fun r =>
    r.method == "DELETE"

theorem opens_cons (e : Entry) (es : List Entry) :
    opens (e :: es) = opens es + e.opened.toNat := by
  rw [opens, opens, List.countP_cons]
  cases e.opened <;> rfl

theorem tokens_cons (config : RemoteConfig) (e : Entry) (es : List Entry) :
    tokens config (e :: es) = tokens config es ++ (e.token? config).toList := by
  simp only [tokens, List.reverse_cons, List.filterMap_append, List.filterMap_cons,
    List.filterMap_nil]
  cases e.token? config <;> rfl

theorem limitOf_cons (config : RemoteConfig) (number : Nat) (e : Entry) (es : List Entry) :
    limitOf config number (e :: es) = (e.limit? number).getD (limitOf config number es) := by
  simp only [limitOf, List.findSome?_cons]
  cases e.limit? number <;> rfl

theorem stranded_cons (config : RemoteConfig) (e : Entry) (es : List Entry) :
    stranded config (e :: es) = stranded config es + (e.strands config).toNat := by
  rw [stranded, stranded, List.countP_cons]
  cases e.strands config <;> rfl

theorem deletions_cons (number : Nat) (e : Entry) (es : List Entry) :
    deletions number (e :: es) = (if e.call.session? = some number then
      e.requests.countP (fun r => r.method == "DELETE") else 0) + deletions number es := by
  unfold deletions
  by_cases h : e.call.session? = some number
  · simp [h]
  · simp [h]

/-- Nothing but an opening opens a session or strands a client. -/
theorem Entry.of_not_opening {e : Entry} (h : e.call ≠ .openSession) (config : RemoteConfig) :
    e.opened = false ∧ e.token? config = none ∧ e.strands config = false := by
  obtain ⟨c, outcome, requests, reply⟩ := e
  cases c with
  | openSession => exact absurd rfl h
  | _ => exact ⟨rfl, rfl, rfl⟩

/-- The path of the request that a call makes, below that of its session. -/
def suffix : Call → String
  | .impersonate .. => "/impersonation"
  | .query .. => "/queries"
  | _ => ""

/-- The body of the request that a call makes. -/
def requestBody : Call → Json
  | .impersonate _ username domain => impersonationBody username domain
  | .query _ request => queryBody request
  | _ => .null

/-- Makes a call. -/
def observe (config : RemoteConfig) (c : Call) (w : Remote) : Entry × Remote :=
  let f := (repository config).perform c w
  (⟨c, f.outcome, f.world.calls.drop w.calls.length, w.next.reply⟩, f.world)

variable {config : RemoteConfig} {w : Remote} {c : Call} {number : Nat} {s : RemoteSession}

/-! ## What each call does -/

/-- A call on a session that was never opened does nothing. -/
theorem perform_of_unknown (config : RemoteConfig) (hc : c.session? = some number)
    (hnone : w.sessions[number]? = none) :
    ((repository config).perform c w).outcome = .error (unknownSession number) ∧
      ((repository config).perform c w).world = w := by
  cases c <;> cases hc
  all_goals
    simp only [Repository.perform, repository, onSession, hnone]
    exact ⟨rfl, rfl⟩

/-- An opening that fails leaves the sessions as they are. -/
theorem sessions_of_finishOpen {reply : Reply} {v : Remote}
    (h : ∀ session, (finishOpen config reply v).outcome ≠ .ok (.ok session)) :
    (finishOpen config reply v).world.sessions = v.sessions := by
  cases reply with
  | raise f =>
    simp only [finishOpen]
    split <;> rfl
  | respond r =>
    simp only [finishOpen] at h ⊢
    cases htoken : token? config r with
    | error f => rfl
    | ok token =>
      cases token with
      | some token => exact absurd (by simp [htoken]) (h ⟨v.sessions.length, true⟩)
      | none => rfl

/-- An opening opens a session with the token of the reply, or leaves the sessions as they are. -/
theorem perform_opening (config : RemoteConfig) (w : Remote) :
    let f := (repository config).perform .openSession w
    (∃ session r token, f.outcome = .ok (.ok session) ∧ session.number = w.sessions.length ∧
      w.next.reply = .respond r ∧ token? config r = .ok (some token) ∧
      f.world.sessions = w.sessions ++ [⟨token, config.limit, false, true⟩]) ∨
    (∀ session, f.outcome ≠ .ok (.ok session)) ∧ f.world.sessions = w.sessions := by
  simp only [Repository.perform, repository]
  rcases startOpen_cases config w with ⟨f, -, hstart⟩ | ⟨call, -, hstart⟩
  · rw [hstart]
    refine .inr ⟨(fun session h => by cases h), ?_⟩
    simp only [Started.atOnce, created]
    cases base config <;> rfl
  · rw [hstart]
    by_cases hopened : ∃ session, (finishOpen config w.next.reply
        { w.played call with clientsOpened := w.clientsOpened + 1 }).outcome = .ok (.ok session)
    · obtain ⟨session, houtcome⟩ := hopened
      obtain ⟨r, token, hreply, htoken, rfl, hworld⟩ := created_of_finishOpen houtcome
      exact .inl ⟨_, r, token, houtcome, rfl, hreply, htoken, by rw [hworld]; rfl⟩
    · have hfailed := not_exists.mp hopened
      exact .inr ⟨hfailed, sessions_of_finishOpen hfailed⟩

/-- A session that is opened comes last, under the token that is seen, with nothing of its own. -/
theorem sessions_of_observe_opening (config : RemoteConfig) (w : Remote) :
    let e := observe config .openSession w
    (e.1.token? config).toList.length = e.1.opened.toNat ∧
      e.2.sessions = w.sessions ++
        (e.1.token? config).toList.map fun token => ⟨token, config.limit, false, true⟩ := by
  have hcases := perform_opening config w
  simp only [observe] at hcases ⊢
  rcases hcases with ⟨session, r, token, houtcome, -, hreply, htoken, hworld⟩ | ⟨hfailed, hworld⟩
  · rw [hworld, houtcome, hreply]
    simp [Entry.token?, Entry.opened, htoken, Except.toOption]
  · rw [hworld]
    cases houtcome : ((repository config).perform .openSession w).outcome with
    | error f => simp [Entry.token?, Entry.opened]
    | ok answer =>
      cases answer with
      | error e => simp [Entry.token?, Entry.opened]
      | ok session => exact absurd houtcome (hfailed session)

/-- The client that an opening left is known from what was seen of it. -/
theorem leavesClient_eq_strands (config : RemoteConfig) (w : Remote) :
    leavesClient config w ⟨.openSession, 0,
        some (0, .ofExcept ((repository config).perform .openSession w).outcome)⟩ =
      (observe config .openSession w).1.strands config := by
  have hcancelled : Visit.cancelled ⟨.openSession, 0,
      some (0, .ofExcept ((repository config).perform .openSession w).outcome)⟩ = false := by
    cases ((repository config).perform .openSession w).outcome <;> rfl
  cases hbase : base config with
  | error f => simp [leavesClient, Entry.strands, observe, hbase]
  | ok b =>
    cases hjoin : b.join "/sessions" with
    | error f => simp [leavesClient, Entry.strands, observe, hbase, hjoin]
    | ok url => simp [leavesClient, Entry.strands, observe, hbase, hjoin, hcancelled]

/-- The balance after an opening. -/
theorem balance_of_perform_opening (config : RemoteConfig) (w : Remote) :
    let e := observe config .openSession w
    e.2.balance = w.balance + e.1.opened.toNat + (e.1.strands config).toNat := by
  -- The call is a variable here, or it would be evaluated with the address of the server.
  obtain ⟨c, hc⟩ : ∃ c, c = Call.openSession := ⟨_, rfl⟩
  have htakes : (repository config).Takes w _ _ := Repository.takes_ofExcept c w 0 0
  have hbalance := balance_of_opening htakes hc (by simp)
  subst hc
  rw [leavesClient_eq_strands] at hbalance
  simp only
  generalize hstrands : (observe config .openSession w).1.strands config = strands at hbalance ⊢
  simp only [observe]
  rcases hbalance with ⟨session, hopened, rfl, -, hbalance⟩ | ⟨hnone, hbalance⟩
  · rw [hbalance]
    rw [Visit.opened?_ofExcept] at hopened
    simp [Entry.opened, hopened]
  · rw [hbalance]
    cases houtcome : ((repository config).perform .openSession w).outcome with
    | error f => simp [Entry.opened]
    | ok answer =>
      cases answer with
      | error e => simp [Entry.opened]
      | ok session =>
        rw [houtcome] at hnone
        cases hnone

/-- A limit is set on its session. -/
theorem perform_limiting (config : RemoteConfig) (hs : w.sessions[number]? = some s)
    (limit : Seconds) :
    let f := (repository config).perform (.setTimeout number limit) w
    f.outcome = .ok () ∧ f.world = w.modifySession number fun s => { s with limit } := by
  simp only [Repository.perform, repository, onSession, hs]
  exact ⟨rfl, rfl⟩

/-- What is posted on a session is sent with its limit, or raises and does nothing. -/
theorem posted {α : Type} (hs : w.sessions[number]? = some s) (suffix : String) (body : Json)
    {finish : RemoteSession → Reply → Remote → Finished Remote α}
    (hkeeps : ∀ s reply v, (finish s reply v).world = v) :
    let started := post config w number suffix body finish
    let f := started.finish started.world
    (∃ fault, f.outcome = .error fault) ∧ f.world = w ∨
    ∃ call : RemoteCall, s.clientOpen = true ∧ call.limit = s.limit ∧
      call.Targets config "POST" (sessionPath s.token suffix) body ∧ f.world = w.played call := by
  simp only [post, onSession, hs]
  rcases startRequest_sent config w s "POST" suffix body (finish s) id
    (fun f => .atOnce w (.error f) []) with ⟨f, -, hstart⟩ | ⟨call, hopen, hlimit, htargets, hstart⟩
  · rw [hstart]
    exact .inl ⟨⟨f, rfl⟩, rfl⟩
  · rw [hstart]
    exact .inr ⟨call, hopen, hlimit, htargets, hkeeps _ _ _⟩

/-- Impersonations and queries are posted. Nothing is sent once the client is closed. -/
theorem perform_posting (config : RemoteConfig) (hc : c.Posts number)
    (hs : w.sessions[number]? = some s) :
    let f := (repository config).perform c w
    (∃ fault, f.outcome = .error fault) ∧ f.world = w ∨
    ∃ call : RemoteCall, s.clientOpen = true ∧ call.limit = s.limit ∧
      call.Targets config "POST" (sessionPath s.token (suffix c)) (requestBody c) ∧
      f.world = w.played call := by
  cases c with
  | openSession => exact hc.elim
  | setTimeout n limit => exact hc.elim
  | closeSession n => exact hc.elim
  | impersonate n username domain =>
    cases hc
    exact posted hs _ _ (world_finishImpersonate · username)
  | query n request =>
    cases hc
    exact posted hs _ _ (world_finishQuery · request)

/-- A session that is closed already stays as it is. -/
theorem perform_closing_again (config : RemoteConfig) (hs : w.sessions[number]? = some s)
    (hclosing : s.isClosing = true) :
    let f := (repository config).perform (.closeSession number) w
    f.outcome = .ok () ∧ f.world = w := by
  simp only [Repository.perform, repository, onSession, hs, startClose, hclosing, if_true]
  exact ⟨rfl, rfl⟩

/-- Closing a session deletes it, when it has an address, and closes its client. -/
theorem perform_closing (config : RemoteConfig) (hs : w.sessions[number]? = some s)
    (hclosing : s.isClosing = false) :
    let f := (repository config).perform (.closeSession number) w
    f.world.balance = w.balance - 1 ∧
      f.world.sessions =
        w.sessions.modify number (fun s => { s with isClosing := true, clientOpen := false }) ∧
      (f.world.calls = w.calls ∨
        ∃ call : RemoteCall, call.limit = s.limit ∧
          call.Targets config "DELETE" (sessionPath s.token "") .null ∧
          f.world.calls = w.calls ++ [call]) := by
  have hsessions : ∀ v : Remote,
      v.sessions = w.sessions.modify number (fun s => { s with isClosing := true }) →
      (v.closeSessionClient number).sessions =
        w.sessions.modify number fun s => { s with isClosing := true, clientOpen := false } := by
    intro v hv
    simp only [closeSessionClient, closeClient, modifySession, hv, List.modify_modify_eq]
    rfl
  simp only [Repository.perform, repository, onSession, hs, startClose, hclosing,
    Bool.false_eq_true, if_false]
  rcases startRequest_sent config (w.modifySession number fun s => { s with isClosing := true }) s
    "DELETE" "" .null (finishClose number) (closeSessionClient · number)
    (fun f => .atOnce ((w.modifySession number fun s => { s with isClosing := true
      }).closeSessionClient number) (.error f) []) with
    ⟨f, -, hstart⟩ | ⟨call, -, hlimit, htargets, hstart⟩
  · rw [hstart]
    exact ⟨by simp [Started.atOnce], hsessions _ rfl, .inl rfl⟩
  · rw [hstart]
    have hworld : ∀ reply v, (finishClose number reply v).world = v.closeSessionClient number := by
      intro reply v
      cases reply <;> rfl
    simp only [hworld]
    exact ⟨by simp, hsessions _ rfl, .inr ⟨call, hlimit, htargets, rfl⟩⟩

/-- What is posted neither opens nor closes nor limits a session. -/
theorem Entry.of_posting (e : Entry) (es : List Entry) (h : e.call.Posts number) :
    e.call ≠ .openSession ∧ closed (e :: es) = closed es ∧ ∀ n, e.limit? n = none := by
  obtain ⟨c, outcome, requests, reply⟩ := e
  cases c with
  | impersonate => exact ⟨by simp, rfl, fun _ => rfl⟩
  | query => exact ⟨by simp, rfl, fun _ => rfl⟩
  | _ => exact h.elim

/-- What is posted has the method of a post. -/
theorem method_of_posts (h : c.Posts number) : method c = "POST" := by
  cases c with
  | closeSession => exact h.elim
  | _ => rfl

/-- **The requests of a call on a session** go below the path of the session, and have its
limit. -/
theorem requests_of_observe (config : RemoteConfig) (hc : c.session? = some number)
    (hs : w.sessions[number]? = some s) :
    ∀ r ∈ (observe config c w).1.requests, r.limit = s.limit ∧
      r.Targets config (method c) (sessionPath s.token (suffix c)) (requestBody c) := by
  have hposted : c.Posts number →
      ∀ r ∈ (observe config c w).1.requests, r.limit = s.limit ∧
        r.Targets config (method c) (sessionPath s.token (suffix c)) (requestBody c) := by
    intro hposts r hr
    simp only [observe] at hr
    rcases perform_posting config hposts hs with
      ⟨-, hworld⟩ | ⟨call, -, hlimit, htargets, hworld⟩
    · simp [hworld] at hr
    · obtain rfl : r = call := by simpa [hworld, played] using hr
      exact ⟨hlimit, (method_of_posts hposts).symm ▸ htargets⟩
  cases c with
  | openSession => cases hc
  | impersonate n username domain => exact hposted (Option.some.inj hc)
  | query n request => exact hposted (Option.some.inj hc)
  | setTimeout n limit =>
    cases hc
    obtain ⟨-, hworld⟩ := perform_limiting config hs limit
    intro r hr
    simp [observe, hworld, modifySession] at hr
  | closeSession n =>
    cases hc
    intro r hr
    simp only [observe] at hr
    cases hclosing : s.isClosing with
    | true =>
      obtain ⟨-, hworld⟩ := perform_closing_again config hs hclosing
      simp [hworld] at hr
    | false =>
      obtain ⟨-, -, hcalls⟩ := perform_closing config hs hclosing
      rcases hcalls with hcalls | ⟨call, hlimit, htargets, hcalls⟩
      · simp [hcalls] at hr
      · obtain rfl : r = call := by simpa [hcalls] using hr
        exact ⟨hlimit, htargets⟩

/-- The requests of a call are recorded at its end. -/
theorem calls_of_observe (config : RemoteConfig) (c : Call) (w : Remote) :
    (observe config c w).2.calls = w.calls ++ (observe config c w).1.requests := by
  have htakes : (repository config).Takes w _ _ := Repository.takes_ofExcept c w 0 0
  have hrecord := record_of_takes htakes
  have hprefix : w.calls <+: ((repository config).perform c w).world.calls := by
    rcases (requests_start config c w).start with ⟨-, hstart⟩ | ⟨-, call, -, hstart⟩
    · rw [hstart] at hrecord
      have hcalls : ((repository config).perform c w).world.calls = w.calls :=
        congrArg Prod.snd hrecord
      rw [hcalls]
    · rw [hstart] at hrecord
      have hcalls : ((repository config).perform c w).world.calls = w.calls ++ [call] :=
        congrArg Prod.snd hrecord
      rw [hcalls]
      exact List.prefix_append _ _
  exact (List.prefix_iff_eq_append.mp hprefix).symm

end Remote
end DocAccess
