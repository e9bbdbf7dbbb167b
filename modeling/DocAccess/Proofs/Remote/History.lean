import DocAccess.Proofs.Remote.Entries
import DocAccess.Proofs.Session.History

/-!
# Histories of a remote repository

Calls are made one after another on any number of sessions, and the server may reply to each of
them in any way. What was seen of the calls tells how many clients are open, which sessions are
closed, and where the next request of a session goes: sessions share nothing.

## Main definitions

* `Remote.Accounts` — sessions, clients and deletions add up to what the history tells.
* `Remote.Orderly` — a world is as its history tells.

## Main statements

* `Accounts.observe` — a call keeps the accounts.
* `orderly_of_history` — after all calls the world is as the history tells.
-/
namespace DocAccess
namespace Remote

variable {config : RemoteConfig} {w : Remote} {number : Nat}

/-! ## The accounts of a history -/

/-- A session as its history tells. -/
def sessionOf (config : RemoteConfig) (es : List Entry) (number : Nat) (token : Text) :
    RemoteSession :=
  ⟨token, limitOf config number es, number ∈ closed es, number ∉ closed es⟩

/-- The world is as its history tells: sessions, clients and deletions. -/
structure Accounts (config : RemoteConfig) (es : List Entry) (w : Remote) : Prop where
  opens : (tokens config es).length = opens es
  sessions : w.sessions = (tokens config es).mapIdx (sessionOf config es)
  balance : w.balance = Remote.opens es - (closed es).card + stranded config es
  deletions : ∀ n, deletions n es ≤ if n ∈ closed es then 1 else 0
  unlimited : ∀ n, Remote.opens es ≤ n → limitOf config n es = config.limit

variable {es : List Entry}

/-- Only sessions that were opened are closed. -/
theorem lt_opens_of_mem_closed (h : number ∈ closed es) : number < opens es := by
  induction es with
  | nil => simp [closed] at h
  | cons e es ih =>
    have hle : opens es ≤ opens (e :: es) := by
      simp only [opens, List.countP_cons]
      omega
    rw [closed] at h
    split at h
    · split at h
      · rename_i hlt
        rcases Finset.mem_insert.mp h with rfl | h
        · exact hlt.trans_le hle
        · exact (ih h).trans_le hle
      · exact (ih h).trans_le hle
    · exact (ih h).trans_le hle

/-- Nothing has happened before the first call. -/
theorem accounts_ofScript (config : RemoteConfig) (script : List Exchange) :
    Accounts config [] (ofScript script) where
  opens := rfl
  sessions := rfl
  balance := rfl
  deletions n := by simp [deletions]
  unlimited n _ := rfl

/-- The session of a number that was opened. -/
theorem Accounts.getElem? (h : Accounts config es w) (n : Nat) :
    w.sessions[n]? = (tokens config es)[n]?.map (sessionOf config es n) := by
  rw [h.sessions, List.getElem?_mapIdx]

/-- A number below that of the openings is that of a session. -/
theorem Accounts.exists_session (h : Accounts config es w) {n : Nat} (hn : n < Remote.opens es) :
    ∃ token, (tokens config es)[n]? = some token ∧
      w.sessions[n]? = some (sessionOf config es n token) := by
  have hlt : n < (tokens config es).length := h.opens ▸ hn
  refine ⟨_, List.getElem?_eq_getElem hlt, ?_⟩
  rw [h.getElem?, List.getElem?_eq_getElem hlt]
  rfl

/-- A number from that of the openings on is that of no session. -/
theorem Accounts.no_session (h : Accounts config es w) {n : Nat} (hn : ¬n < Remote.opens es) :
    w.sessions[n]? = none := by
  rw [h.getElem?, List.getElem?_eq_none (by rw [h.opens]; omega)]
  rfl

/-- A call that opens no session keeps the accounts when sessions, clients and deletions are as the
longer history tells. -/
theorem Accounts.of_not_opening (h : Accounts config es w) {e : Entry} {w' : Remote}
    (hopen : e.call ≠ .openSession)
    (hsessions : w'.sessions = (tokens config es).mapIdx (sessionOf config (e :: es)))
    (hbalance : w'.balance + (closed (e :: es)).card = w.balance + (closed es).card)
    (hdeletions : ∀ n, Remote.deletions n (e :: es) ≤ if n ∈ closed (e :: es) then 1 else 0)
    (hlimit : ∀ n, Remote.opens es ≤ n → e.limit? n = none) : Accounts config (e :: es) w' := by
  obtain ⟨hopened, htoken, hstrands⟩ := Entry.of_not_opening hopen config
  have hopens : Remote.opens (e :: es) = Remote.opens es := by
    rw [opens_cons, hopened, Bool.toNat_false, Nat.add_zero]
  have htokens : tokens config (e :: es) = tokens config es := by
    rw [tokens_cons, htoken, Option.toList_none, List.append_nil]
  refine ⟨?_, ?_, ?_, hdeletions, ?_⟩
  · rw [htokens, hopens, h.opens]
  · rw [htokens, hsessions]
  · have hbefore := h.balance
    rw [hopens, stranded_cons, hstrands, Bool.toNat_false, Nat.add_zero]
    omega
  · intro n hn
    rw [hopens] at hn
    rw [limitOf_cons, hlimit n hn]
    exact h.unlimited n hn

/-- Without a deletion among its requests a call adds none. -/
theorem deletions_of_requests (h : Accounts config es w) {e : Entry}
    (hclosed : closed (e :: es) = closed es) (hrequests : ∀ r ∈ e.requests, r.method ≠ "DELETE")
    (n : Nat) : deletions n (e :: es) ≤ if n ∈ closed (e :: es) then 1 else 0 := by
  have hzero : e.requests.countP (fun r => r.method == "DELETE") = 0 := by
    rw [List.countP_eq_zero]
    intro r hr
    simpa using hrequests r hr
  rw [deletions_cons, hzero, ite_self, Nat.zero_add, hclosed]
  exact h.deletions n

/-- A call that leaves sessions and clients as they are, and that deletes and limits no session,
keeps the accounts. -/
theorem Accounts.of_quiet (h : Accounts config es w) {e : Entry} {w' : Remote}
    (hopen : e.call ≠ .openSession) (hclosed : closed (e :: es) = closed es)
    (hlimit : ∀ n, e.limit? n = none) (hrequests : ∀ r ∈ e.requests, r.method ≠ "DELETE")
    (hsessions : w'.sessions = w.sessions) (hbalance : w'.balance = w.balance) :
    Accounts config (e :: es) w' := by
  refine h.of_not_opening hopen ?_ (by rw [hclosed, hbalance])
    (deletions_of_requests h hclosed hrequests) (fun n _ => hlimit n)
  have hsession : sessionOf config (e :: es) = sessionOf config es := by
    funext n token
    simp only [sessionOf, limitOf_cons, hlimit, hclosed, Option.getD_none]
  rw [hsessions, hsession, h.sessions]

/-- Limiting a session keeps the accounts. -/
theorem Accounts.of_limiting (h : Accounts config es w) {n : Nat} (hn : n < Remote.opens es)
    (limit : Seconds) (reply : Reply) :
    Accounts config (⟨.setTimeout n limit, .ok (), [], reply⟩ :: es)
      (w.modifySession n fun s => { s with limit }) := by
  have hclosed : closed (⟨.setTimeout n limit, .ok (), [], reply⟩ :: es) = closed es := rfl
  refine h.of_not_opening (by simp) ?_ rfl (deletions_of_requests h rfl (by simp)) ?_
  · refine List.ext_getElem? fun m => ?_
    simp only [modifySession, h.sessions, List.getElem?_modify, List.getElem?_mapIdx]
    cases (tokens config es)[m]? with
    | none => simp
    | some token =>
      by_cases hm : n = m
      · simp [hm, sessionOf, limitOf_cons, Entry.limit?, hclosed]
      · simp [hm, sessionOf, limitOf_cons, Entry.limit?, hclosed]
  · intro m hm
    have hne : n ≠ m := by omega
    simp [Entry.limit?, hne]

/-- Closing a session that was not closed keeps the accounts. -/
theorem Accounts.of_closing (h : Accounts config es w) {n : Nat} (hn : n < Remote.opens es)
    (hopen : n ∉ closed es) {e : Entry} (hcall : e.call = .closeSession n)
    (hrequests : e.requests.length ≤ 1) {w' : Remote}
    (hsessions : w'.sessions =
      w.sessions.modify n (fun s => { s with isClosing := true, clientOpen := false }))
    (hbalance : w'.balance = w.balance - 1) :
    Accounts config (e :: es) w' := by
  have hclosed : closed (e :: es) = insert n (closed es) := by simp [closed, hcall, hn]
  have hlimit : ∀ m, e.limit? m = none := by
    intro m
    obtain ⟨c, outcome, requests, reply⟩ := e
    cases hcall
    rfl
  refine h.of_not_opening (by simp [hcall]) ?_ ?_ ?_ (fun m _ => hlimit m)
  · refine List.ext_getElem? fun m => ?_
    simp only [hsessions, h.sessions, List.getElem?_modify, List.getElem?_mapIdx]
    cases (tokens config es)[m]? with
    | none => simp
    | some token =>
      by_cases hm : n = m
      · simp [hm, sessionOf, limitOf_cons, hlimit, hclosed]
      · have hne : m ≠ n := Ne.symm hm
        simp [hm, hne, sessionOf, limitOf_cons, hlimit, hclosed]
  · rw [hclosed, Finset.card_insert_of_notMem hopen, hbalance]
    push_cast
    omega
  · intro m
    have hbefore := h.deletions m
    rw [deletions_cons, hclosed, hcall]
    by_cases hm : m = n
    · subst hm
      have hle : e.requests.countP (fun r => r.method == "DELETE") ≤ 1 :=
        List.countP_le_length.trans hrequests
      simp only [hopen, if_false] at hbefore
      simp only [Call.session?, Finset.mem_insert_self, if_true]
      omega
    · have hne : n ≠ m := Ne.symm hm
      simpa [Call.session?, hm, hne] using hbefore

/-- Opening a session keeps the accounts. -/
theorem Accounts.of_opening (h : Accounts config es w) :
    Accounts config ((Remote.observe config .openSession w).1 :: es)
      (Remote.observe config .openSession w).2 := by
  have hbalance := balance_of_perform_opening config w
  obtain ⟨hlength, hsessions⟩ := sessions_of_observe_opening config w
  simp only [Remote.observe] at hbalance hlength hsessions ⊢
  generalize hentry : Entry.mk .openSession _ _ _ = e at hbalance hlength hsessions ⊢
  have hcall : e.call = .openSession := by rw [← hentry]
  have hclosed : closed (e :: es) = closed es := by rw [← hentry]; rfl
  have hlimits : ∀ n, limitOf config n (e :: es) = limitOf config n es := by
    intro n
    rw [← hentry]
    rfl
  have hsession : sessionOf config (e :: es) = sessionOf config es := by
    funext n token
    simp only [sessionOf, hlimits, hclosed]
  have hfresh : limitOf config (tokens config es).length es = config.limit :=
    h.unlimited _ h.opens.ge
  have hunclosed : (tokens config es).length ∉ closed es := by
    intro hmem
    have hlt := lt_opens_of_mem_closed hmem
    rw [h.opens] at hlt
    exact lt_irrefl _ hlt
  have hopens := opens_cons e es
  have htokens := tokens_cons config e es
  refine ⟨?_, ?_, ?_, ?_, ?_⟩
  · rw [htokens, hopens, List.length_append, h.opens, hlength]
  · rw [hsessions, htokens, hsession, List.mapIdx_append, ← h.sessions]
    cases e.token? config with
    | none => rfl
    | some token => simp [sessionOf, hfresh, hunclosed]
  · rw [hbalance, hopens, hclosed, stranded_cons, h.balance]
    push_cast
    omega
  · intro n
    rw [deletions_cons, hcall, hclosed]
    simpa [Call.session?] using h.deletions n
  · intro n hn
    rw [hlimits]
    exact h.unlimited n (by omega)

/-- A call on a session that was never opened keeps the accounts. -/
theorem Accounts.of_unknown (h : Accounts config es w) {c : Call} {n : Nat}
    (hc : c.session? = some n) (hn : ¬n < Remote.opens es) :
    Accounts config ((Remote.observe config c w).1 :: es) (Remote.observe config c w).2 := by
  obtain ⟨houtcome, hworld⟩ := perform_of_unknown config hc (h.no_session hn)
  simp only [Remote.observe, houtcome, hworld, List.drop_length]
  refine h.of_quiet ?_ ?_ ?_ (by simp) rfl rfl
  all_goals cases c <;> cases hc
  all_goals simp [closed, hn, Entry.limit?]

/-- What is posted on a session keeps the accounts. -/
theorem Accounts.of_posting (h : Accounts config es w) {c : Call} {n : Nat} (hc : c.Posts n)
    (hn : n < Remote.opens es) :
    Accounts config ((Remote.observe config c w).1 :: es) (Remote.observe config c w).2 := by
  obtain ⟨token, -, hs⟩ := h.exists_session hn
  have hsent := requests_of_observe config hc.session? hs
  obtain ⟨hopen, hclosed, hlimit⟩ := Entry.of_posting (Remote.observe config c w).1 es hc
  refine h.of_quiet hopen hclosed hlimit ?_ ?_ ?_
  · intro r hr
    rw [(hsent r hr).2.method_eq, method_of_posts hc]
    decide
  all_goals
    simp only [Remote.observe]
    rcases perform_posting config hc hs with ⟨-, hworld⟩ | ⟨call, -, -, -, hworld⟩
    · rw [hworld]
    · rw [hworld]
      rfl

/-- **A call keeps the accounts.** -/
theorem Accounts.observe (h : Accounts config es w) (c : Call) :
    Accounts config ((Remote.observe config c w).1 :: es) (Remote.observe config c w).2 := by
  cases hc : c.session? with
  | none =>
    cases c <;> cases hc
    exact h.of_opening
  | some n =>
    by_cases hn : n < Remote.opens es
    · obtain ⟨token, -, hs⟩ := h.exists_session hn
      cases c with
      | openSession => cases hc
      | setTimeout m limit =>
        cases hc
        obtain ⟨houtcome, hworld⟩ := perform_limiting config hs limit
        have hcalls : (w.modifySession n fun s => { s with limit }).calls = w.calls := rfl
        simp only [Remote.observe, houtcome, hworld, hcalls, List.drop_length]
        exact h.of_limiting hn limit _
      | impersonate m username domain => exact h.of_posting (Option.some.inj hc) hn
      | query m request => exact h.of_posting (Option.some.inj hc) hn
      | closeSession m =>
        cases hc
        by_cases hclosed : n ∈ closed es
        · obtain ⟨houtcome, hworld⟩ :=
            perform_closing_again config hs (decide_eq_true hclosed)
          simp only [Remote.observe, houtcome, hworld, List.drop_length]
          exact h.of_quiet (by simp) (by simp [closed, hn, hclosed]) (fun _ => rfl)
            (by simp) rfl rfl
        · obtain ⟨hbalance, hsessions, hcalls⟩ :=
            perform_closing config hs (decide_eq_false hclosed)
          refine h.of_closing hn hclosed rfl ?_ hsessions hbalance
          rcases hcalls with hcalls | ⟨call, -, -, hcalls⟩
          · simp [Remote.observe, hcalls]
          · simp [Remote.observe, hcalls]
    · exact h.of_unknown hc hn

/-! ## Histories -/

/-- The world is as its history tells. -/
structure Orderly (config : RemoteConfig) (es : List Entry) (w : Remote) : Prop where
  /-- The server has recorded the requests of the calls, in order. -/
  recorded : w.calls = es.reverse.flatMap Entry.requests
  /-- Every session that was opened has an identifier. -/
  identified : (tokens config es).length = opens es
  /-- The next session is known by the number of those opened before. -/
  numbered : ∀ session, ((repository config).perform .openSession w).outcome = .ok (.ok session) →
    session.number = opens es
  /-- Each session that is not closed has a client; no other client is open but those left by
  openings. -/
  clients : (w.openClients : Int) = opens es - (closed es).card + stranded config es
  /-- No session is deleted twice. -/
  deletions : ∀ n, deletions n es ≤ 1
  /-- Closing a closed session does nothing. -/
  closing_again : ∀ n ∈ closed es,
    let f := (repository config).perform (.closeSession n) w
    f.outcome = .ok () ∧ f.world = w
  /-- Impersonating and querying on a closed session raise and do nothing. -/
  posting_closed : ∀ n ∈ closed es, ∀ c : Call, c.Posts n →
    let f := (repository config).perform c w
    (∃ fault, f.outcome = .error fault) ∧ f.world = w
  /-- A request for a session goes to the path of its own identifier, with the limit that it was
  given last. -/
  requests : ∀ (c : Call) (n : Nat), c.session? = some n →
    ∀ r ∈ (Remote.observe config c w).1.requests, ∃ token, (tokens config es)[n]? = some token ∧
      r.limit = limitOf config n es ∧
      r.Targets config (method c) (sessionPath token (suffix c)) (requestBody c)

/-- A world that keeps the accounts is as its history tells. -/
theorem Accounts.orderly (h : Accounts config es w)
    (hrecorded : w.calls = es.reverse.flatMap Entry.requests) : Orderly config es w where
  recorded := hrecorded
  identified := h.opens
  numbered session hsession := by
    rcases perform_opening config w with ⟨other, r, token, houtcome, hnumber, -⟩ | ⟨hfailed, -⟩
    · cases hsession.symm.trans houtcome
      rw [hnumber, h.sessions, List.length_mapIdx, h.opens]
    · exact absurd hsession (hfailed session)
  clients := by
    have hle : (closed es).card ≤ Remote.opens es := by
      refine (Finset.card_le_card fun n hn => ?_).trans (Finset.card_range _).le
      exact Finset.mem_range.mpr (lt_opens_of_mem_closed hn)
    have hbalance := h.balance
    rw [openClients_eq]
    omega
  deletions n := by
    refine (h.deletions n).trans ?_
    split <;> omega
  closing_again n hn := by
    obtain ⟨token, -, hs⟩ := h.exists_session (lt_opens_of_mem_closed hn)
    exact perform_closing_again config hs (decide_eq_true hn)
  posting_closed n hn c hc := by
    obtain ⟨token, -, hs⟩ := h.exists_session (lt_opens_of_mem_closed hn)
    rcases perform_posting config hc hs with hraised | ⟨call, hopen, -⟩
    · exact hraised
    · exact absurd hn (of_decide_eq_true hopen)
  requests c n hc r hr := by
    by_cases hn : n < Remote.opens es
    · obtain ⟨token, htoken, hs⟩ := h.exists_session hn
      obtain ⟨hlimit, htargets⟩ := requests_of_observe config hc hs r hr
      exact ⟨token, htoken, hlimit, htargets⟩
    · obtain ⟨-, hworld⟩ := perform_of_unknown config hc (h.no_session hn)
      simp [Remote.observe, hworld] at hr

/-- **After any calls, with any replies, the world is as its history tells.** -/
theorem orderly_of_history (config : RemoteConfig) (script : List Exchange) (calls : List Call) :
    Orderly config (History.run (Remote.observe config) (ofScript script) calls).entries
      (History.run (Remote.observe config) (ofScript script) calls).world := by
  let I := fun (es : List Entry) (w : Remote) =>
    Accounts config es w ∧ w.calls = es.reverse.flatMap Entry.requests
  have hstart : I [] (ofScript script) := ⟨accounts_ofScript config script, rfl⟩
  have hstep : ∀ c es w, I es w →
      I ((Remote.observe config c w).1 :: es) (Remote.observe config c w).2 := by
    rintro c es w ⟨h, hrecorded⟩
    refine ⟨h.observe c, ?_⟩
    rw [calls_of_observe, hrecorded, List.reverse_cons, List.flatMap_append,
      List.flatMap_singleton]
  obtain ⟨h, hrecorded⟩ := History.invariant (Remote.observe config) hstart hstep calls
  exact h.orderly hrecorded

/-- A reply whose body is nested too deeply to be read. -/
def nestedReply : Exchange :=
  ⟨.immediate, .respond ⟨200, List.replicate 961 0x5B, "application/json"⟩⟩

/-- A server at a plain address. -/
def plainConfig : RemoteConfig := ⟨"http", "https://r/api", .whole 30, [], .utf8 960⟩

/-- **A client may stay open without a session**, though nothing went wrong between client and
server. -/
theorem nested_reply_strands_client :
    let h := History.run (Remote.observe plainConfig) (ofScript [nestedReply]) [.openSession]
    opens h.entries = 0 ∧ closed h.entries = ∅ ∧ h.world.openClients = 1 := by
  decide +kernel

end Remote
end DocAccess
