import DocAccess.Proofs.Authorization.Basic
import DocAccess.Proofs.Session.Trail
import DocAccess.Repository.Scripted

/-!
# The calls of a request

A request opens a session once. On that session it may set a limit, then impersonates its
principal, asks slice by slice and closes the session, whatever happens in between. The lemmas
follow the program from its end to its beginning and speak of all its paths; the main result
speaks of runs, under every deadline.
-/
namespace DocAccess

/-- The session is closed by a last call, unless the call before never ends. -/
def ClosedAfter (session : Session) (before closings : List Visit) : Prop :=
  closings.map Visit.call = [.closeSession session.number] ∨
    closings = [] ∧ ∃ v ∈ before.getLast?, v.ending = none

/-- What came before has no part in whether the session is closed. -/
theorem ClosedAfter.append_left {session : Session} {before closings : List Visit}
    (h : ClosedAfter session before closings) (earlier : List Visit) :
    ClosedAfter session (earlier ++ before) closings := by
  rcases h with hclose | ⟨hnil, v, hv, hending⟩
  · exact .inl hclose
  · refine .inr ⟨hnil, v, ?_, hending⟩
    rw [List.getLast?_append, Option.mem_def.mp hv]
    rfl

/-- Queries for batches, one after another up to the first that brings no rows, and then the
closing of the session. -/
structure Asked (session : Session) (bs : List Batch) (queries closings : List Visit) : Prop where
  calls : queries.map Visit.call =
    (bs.take queries.length).map fun b => .query session.number b.query
  answered : ∀ v ∈ queries.dropLast, v.rows? ≠ none
  complete : (∀ v ∈ queries, v.rows? ≠ none) → queries.length = bs.length
  closed : ClosedAfter session queries closings

namespace Asked

variable {session : Session} {b : Batch} {bs : List Batch} {queries closings : List Visit}

/-- A query that brings rows is followed by the queries for the other batches. -/
theorem cons {v : Visit} (hcall : v.call = .query session.number b.query)
    (hrows : v.rows? ≠ none) (h : Asked session bs queries closings) :
    Asked session (b :: bs) (v :: queries) closings where
  calls := by simp [hcall, h.calls]
  answered := by
    intro u hu
    cases queries with
    | nil => simp at hu
    | cons q queries =>
      rw [List.dropLast_cons_cons] at hu
      rcases List.mem_cons.mp hu with rfl | hu
      · exact hrows
      · exact h.answered u hu
  complete := by
    intro hall
    have hlen := h.complete fun u hu => hall u (List.mem_cons_of_mem v hu)
    rw [List.length_cons, List.length_cons, hlen]
  closed := h.closed.append_left [v]

/-- A query that brings no rows is the last one. -/
theorem last {v : Visit} (hcall : v.call = .query session.number b.query)
    (hrows : v.rows? = none) (h : ClosedAfter session [v] closings) :
    Asked session (b :: bs) [v] closings where
  calls := by simp [hcall]
  answered := by simp
  complete := by
    intro hall
    exact absurd hrows (hall v (List.mem_singleton_self v))
  closed := h

/-- The `i`-th query is for the `i`-th batch. -/
theorem getElem?_batch (h : Asked session bs queries closings) {i : Nat} {v : Visit}
    (hv : queries[i]? = some v) :
    ∃ b, bs[i]? = some b ∧ v.call = .query session.number b.query := by
  have hlt : i < queries.length := (List.getElem?_eq_some_iff.mp hv).1
  have hcalls : (queries.map Visit.call)[i]? = some v.call := by simp [hv]
  rw [h.calls, List.getElem?_map, List.getElem?_take_of_lt hlt] at hcalls
  obtain ⟨b, hb, hcall⟩ := Option.map_eq_some_iff.mp hcalls
  exact ⟨b, hb, hcall.symm⟩

end Asked

/-- The calls on a session, in four groups. -/
structure SessionLife where
  limits : List Visit
  impersonations : List Visit
  queries : List Visit
  closings : List Visit

/-- All calls on a session, in order. -/
def SessionLife.visits (l : SessionLife) : List Visit :=
  l.limits ++ l.impersonations ++ l.queries ++ l.closings

/-- The call that limits the queries of a session, when that is configured and supported. -/
def limitCalls (policy : AuthorizationPolicy) (session : Session) : List Call :=
  match policy.queryLimit with
  | some limit => if session.supportsTimeouts then [.setTimeout session.number limit] else []
  | none => []

/-- A call of the limit sets it. -/
theorem eq_of_mem_limitCalls {policy : AuthorizationPolicy} {session : Session} {c : Call}
    (h : c ∈ limitCalls policy session) : ∃ limit, c = .setTimeout session.number limit := by
  unfold limitCalls at h
  cases hlimit : policy.queryLimit with
  | none => simp [hlimit] at h
  | some limit =>
    by_cases hs : session.supportsTimeouts
    · exact ⟨limit, by simpa [hlimit, hs] using h⟩
    · simp [hlimit, hs] at h

/-- The calls on a session after the limit are those of one request: the impersonation unless the
limit did not return, the queries for the slices of the request up to the first that brings no
rows, and none unless the principal is impersonated, and the closing. -/
structure SessionLife.Proper (policy : AuthorizationPolicy) (request : AuthorizationRequest)
    (session : Session) (l : SessionLife) : Prop where
  impersonations_calls : (∀ v ∈ l.limits, v.hasReturned = true) →
    l.impersonations.map Visit.call =
      [.impersonate session.number request.identity.username request.identity.domain]
  impersonations_nil : (∃ v ∈ l.limits, v.hasReturned = false) → l.impersonations = []
  queries_calls : ∀ (i : Nat) (v : Visit), l.queries[i]? = some v →
    ∃ q, v.call = .query session.number q ∧
      QueryRequest.ofIds? (slice policy.batchCap.toNat request.docIds i) = some q
  queries_impersonated : l.queries ≠ [] → ∃ v ∈ l.impersonations, v.impersonated = true
  queries_answered : ∀ v ∈ l.queries.dropLast, v.rows? ≠ none
  queries_complete : (∃ v ∈ l.impersonations, v.impersonated = true) →
    policy.batchCap < BatchCap.limit → (∀ v ∈ l.queries, v.rows? ≠ none) →
    l.queries.length = sliceCount policy.batchCap.toNat request.docIds.length
  closed : ClosedAfter session (l.limits ++ l.impersonations ++ l.queries) l.closings

namespace SessionLife

variable {policy : AuthorizationPolicy} {request : AuthorizationRequest} {session : Session}

/-- A limit that returned may come before the impersonation. -/
theorem Proper.limit {l : SessionLife} (h : l.Proper policy request session)
    (hnil : l.limits = []) {v : Visit} (hv : v.hasReturned = true) :
    Proper policy request session { l with limits := [v] } where
  impersonations_calls := fun _ => h.impersonations_calls (by simp [hnil])
  impersonations_nil := by simp [hv]
  queries_calls := h.queries_calls
  queries_impersonated := h.queries_impersonated
  queries_answered := h.queries_answered
  queries_complete := h.queries_complete
  closed := by simpa [hnil] using h.closed.append_left [v]

/-- After a limit that did not return the session is closed. -/
theorem proper_of_unlimited {v : Visit} {closings : List Visit} (hv : v.hasReturned = false)
    (h : ClosedAfter session [v] closings) :
    Proper policy request session ⟨[v], [], [], closings⟩ :=
  ⟨by simp [hv], by simp, by simp, by simp, by simp, by simp, h⟩

end SessionLife

namespace Program

/-- Events are no calls. -/
theorem visits_of_logAll {α : Type} {es : List Event} {p : Program α} {steps : Trail}
    {r : Option α} (h : Path (logAll es p) steps r) :
    ∃ rest, Path p rest r ∧ steps.visits = rest.visits := by
  induction es generalizing steps with
  | nil => exact ⟨steps, h, rfl⟩
  | cons e es ih =>
    cases h with
    | log h =>
      obtain ⟨rest, hrest, heq⟩ := ih h
      exact ⟨rest, hrest, heq⟩

end Program

namespace Authorization

variable {policy : AuthorizationPolicy} {request : AuthorizationRequest} {session : Session}

/-- The last event of a request with a result. -/
def lastEvent (policy : AuthorizationPolicy) (request : AuthorizationRequest) (p : Progress) :
    AuthorizationResult → Event
  | .error e => failedEvent policy request p e
  | .ok docs => completedEvent policy request p docs

/-- A request with a result writes its last event and ends. -/
theorem steps_conclude {p : Progress} {result : AuthorizationResult} {steps : Trail}
    {r : Option AuthorizationOutcome} (h : (conclude policy request p result).Path steps r) :
    steps = [.wrote (lastEvent policy request p result)] ∧ r = some (.ok result) := by
  cases result with
  | error e =>
    cases h with
    | log h =>
      cases h
      exact ⟨rfl, rfl⟩
  | ok docs =>
    cases h with
    | log h =>
      cases h
      exact ⟨rfl, rfl⟩

/-- Settling a request makes no call. -/
theorem visits_settle {p : Progress} {ending : Ending} {steps : Trail}
    {r : Option AuthorizationOutcome} (h : (settle policy request p ending).Path steps r) :
    steps.visits = [] := by
  cases ending with
  | raised f =>
    cases h
    rfl
  | expired =>
    rw [settle] at h
    rw [(steps_conclude h).1]
    rfl
  | finished result =>
    rw [settle] at h
    rw [(steps_conclude h).1]
    rfl

/-- Closing is one call. -/
theorem visits_close {p : Progress} {ending : Ending} {steps : Trail}
    {r : Option AuthorizationOutcome} (h : (close policy request session p ending).Path steps r) :
    ∃ v, steps.visits = [v] ∧ v.call = .closeSession session.number := by
  cases h with
  | stuck began => exact ⟨_, rfl, rfl⟩
  | call began ended how h =>
    refine ⟨⟨.closeSession session.number, began, some (ended, how)⟩, ?_, rfl⟩
    cases how with
    | returned u => simp [visits_settle h]
    | cancelled => simp [visits_settle h]
    | raised f =>
      cases h with
      | log h => simp [visits_settle h]

/-- Closing ends the calls on a session. -/
theorem closedAfter_close {p : Progress} {ending : Ending} {steps : Trail}
    {r : Option AuthorizationOutcome} (h : (close policy request session p ending).Path steps r)
    (before : List Visit) : ClosedAfter session before steps.visits := by
  obtain ⟨v, hv, hcall⟩ := visits_close h
  exact .inl (by rw [hv, List.map_singleton, hcall])

/-- The queries for batches that an aggregate accepts, and the closing. -/
theorem asked_queryBatches (bs : List Batch) {a : Aggregate} {p : Progress} {steps : Trail}
    {r : Option AuthorizationOutcome} (hnumbered : Numbered a.absorbed bs)
    (h : (queryBatches policy request session bs a p).Path steps r) :
    ∃ queries closings, steps.visits = queries ++ closings ∧
      Asked session bs queries closings := by
  induction bs generalizing a p steps with
  | nil =>
    refine ⟨[], steps.visits, rfl, ?_⟩
    exact ⟨rfl, by simp, by simp, closedAfter_close h []⟩
  | cons b bs ih =>
    rw [queryBatches] at h
    obtain ⟨rest, hrest, hvisits⟩ := Program.visits_of_logAll h
    rw [hvisits]
    cases hrest with
    | stuck began =>
      exact ⟨[_], [], rfl, .last rfl rfl (.inr ⟨rfl, _, rfl, rfl⟩)⟩
    | call began ended how hpath =>
      rename_i tail
      cases how with
      | cancelled => exact ⟨[_], tail.visits, rfl, .last rfl rfl (closedAfter_close hpath _)⟩
      | raised f => exact ⟨[_], tail.visits, rfl, .last rfl rfl (closedAfter_close hpath _)⟩
      | returned answer =>
        cases answer with
        | error e => exact ⟨[_], tail.visits, rfl, .last rfl rfl (closedAfter_close hpath _)⟩
        | ok rows =>
          simp only [Aggregate.absorb, hnumbered.head, if_true] at hpath
          obtain ⟨rest', hrest', hvisits'⟩ := Program.visits_of_logAll hpath
          obtain ⟨rest'', hrest'', hvisits''⟩ := Program.visits_of_logAll hrest'
          obtain ⟨queries, closings, heq, hasked⟩ := ih hnumbered.tail hrest''
          let v : Visit :=
            ⟨.query session.number b.query, began, some (ended, .returned (.ok rows))⟩
          have hrows : v.rows? ≠ none := by simp [v, Visit.rows?]
          refine ⟨v :: queries, closings, ?_, hasked.cons rfl hrows⟩
          rw [Trail.visits_visited, hvisits', hvisits'', heq]
          rfl

/-- The queries for the batches of a request follow its impersonation properly. -/
theorem proper_of_asked {v : Visit} {queries closings : List Visit}
    (hcap : 1 ≤ policy.batchCap)
    (hcall : v.call =
      .impersonate session.number request.identity.username request.identity.domain)
    (himp : v.impersonated = true)
    (h : Asked session
      (BatchSource.ofList ⟨policy.batchCap.toNat, by omega⟩ request.docIds).drain.1
      queries closings) :
    SessionLife.Proper policy request session ⟨[], [v], queries, closings⟩ where
  impersonations_calls := by simp [hcall]
  impersonations_nil := by simp
  queries_calls := by
    intro i u hu
    obtain ⟨b, hb, hquery⟩ := h.getElem?_batch hu
    have hslice := BatchSource.docIds_drain ⟨policy.batchCap.toNat, by omega⟩ hb
    exact ⟨b.query, hquery, by rw [← hslice, ofIds?_docIds]⟩
  queries_impersonated := fun _ => ⟨v, List.mem_singleton_self v, himp⟩
  queries_answered := h.answered
  queries_complete := by
    intro _ _ hall
    rw [h.complete hall, BatchSource.length_drain]
  closed := h.closed.append_left [v]

/-- The calls from the impersonation on. -/
theorem life_impersonate {steps : Trail} {r : Option AuthorizationOutcome}
    (hcap : 1 ≤ policy.batchCap) (h : (impersonate policy request session).Path steps r) :
    ∃ l : SessionLife, l.limits = [] ∧ steps.visits = l.visits ∧
      l.Proper policy request session := by
  -- Without a query the life is the impersonation and the closing.
  have hbare : ∀ (v : Visit) (closings : List Visit),
      v.call = .impersonate session.number request.identity.username request.identity.domain →
      (v.impersonated = true → (BatchCap.limit : Int) ≤ policy.batchCap) →
      ClosedAfter session [v] closings →
      SessionLife.Proper policy request session ⟨[], [v], [], closings⟩ := by
    intro v closings hcall himp hclosed
    refine ⟨fun _ => by simp [hcall], by simp, by simp, by simp, by simp, ?_, hclosed⟩
    rintro ⟨u, hu, himpersonated⟩ hlt
    rw [List.mem_singleton.mp hu] at himpersonated
    have hle := himp himpersonated
    omega
  cases h with
  | stuck began =>
    exact ⟨⟨[], [_], [], []⟩, rfl, rfl, hbare _ _ rfl (by simp [Visit.impersonated])
      (.inr ⟨rfl, _, rfl, rfl⟩)⟩
  | call began ended how hpath =>
    rename_i tail
    cases how with
    | cancelled =>
      exact ⟨⟨[], [_], [], tail.visits⟩, rfl, rfl, hbare _ _ rfl (by simp [Visit.impersonated])
        (closedAfter_close hpath _)⟩
    | raised f =>
      exact ⟨⟨[], [_], [], tail.visits⟩, rfl, rfl, hbare _ _ rfl (by simp [Visit.impersonated])
        (closedAfter_close hpath _)⟩
    | returned answer =>
      cases answer with
      | error e =>
        exact ⟨⟨[], [_], [], tail.visits⟩, rfl, rfl, hbare _ _ rfl (by simp [Visit.impersonated])
          (closedAfter_close hpath _)⟩
      | ok u =>
        by_cases hlt : policy.batchCap < BatchCap.limit
        · simp only [BatchCap.ofInt?_of_lt hcap hlt] at hpath
          have hnumbered := BatchSource.numbered_drain ⟨policy.batchCap.toNat, by omega⟩
            request.docIds
          obtain ⟨queries, closings, heq, hasked⟩ := asked_queryBatches _ hnumbered hpath
          let v : Visit := ⟨.impersonate session.number request.identity.username
            request.identity.domain, began, some (ended, .returned (.ok u))⟩
          refine ⟨⟨[], [v], queries, closings⟩, rfl, ?_, ?_⟩
          · simp [SessionLife.visits, heq, v]
          · exact proper_of_asked hcap rfl rfl hasked
        · simp only [BatchCap.ofInt?_of_le (not_lt.mp hlt)] at hpath
          exact ⟨⟨[], [_], [], tail.visits⟩, rfl, rfl, hbare _ _ rfl (fun _ => not_lt.mp hlt)
            (closedAfter_close hpath _)⟩

/-- The calls on a session. -/
theorem life_configure {steps : Trail} {r : Option AuthorizationOutcome}
    (hcap : 1 ≤ policy.batchCap) (h : (configure policy request session).Path steps r) :
    ∃ l : SessionLife, l.limits.map Visit.call = limitCalls policy session ∧
      steps.visits = l.visits ∧ l.Proper policy request session := by
  unfold configure at h
  unfold limitCalls
  cases hlimit : policy.queryLimit with
  | none =>
    rw [hlimit] at h
    obtain ⟨l, hnil, hvisits, hproper⟩ := life_impersonate hcap h
    exact ⟨l, by simp [hnil], hvisits, hproper⟩
  | some limit =>
    rw [hlimit] at h
    by_cases hs : session.supportsTimeouts
    · simp only [hs, if_true] at h ⊢
      cases h with
      | stuck began =>
        exact ⟨⟨[_], [], [], []⟩, rfl, rfl,
          SessionLife.proper_of_unlimited rfl (.inr ⟨rfl, _, rfl, rfl⟩)⟩
      | call began ended how hpath =>
        rename_i tail
        cases how with
        | cancelled =>
          exact ⟨⟨[_], [], [], tail.visits⟩, rfl, rfl,
            SessionLife.proper_of_unlimited rfl (closedAfter_close hpath _)⟩
        | raised f =>
          exact ⟨⟨[_], [], [], tail.visits⟩, rfl, rfl,
            SessionLife.proper_of_unlimited rfl (closedAfter_close hpath _)⟩
        | returned u =>
          obtain ⟨l, hnil, hvisits, hproper⟩ := life_impersonate hcap hpath
          let v : Visit := ⟨.setTimeout session.number limit, began, some (ended, .returned u)⟩
          refine ⟨{ l with limits := [v] }, rfl, ?_, hproper.limit hnil rfl⟩
          rw [Trail.visits_visited, hvisits]
          simp [SessionLife.visits, hnil, v]
    · simp only [hs] at h ⊢
      cases h with
      | log h =>
        obtain ⟨l, hnil, hvisits, hproper⟩ := life_impersonate hcap h
        exact ⟨l, by simp [hnil], hvisits, hproper⟩

/-- The calls are those of a request: the opening, and then those on the session that it hands
back. -/
def OfRequest (policy : AuthorizationPolicy) (request : AuthorizationRequest)
    (visits : List Visit) : Prop :=
  ∃ opening rest, visits = opening :: rest ∧ opening.call = .openSession ∧
    (opening.opened? = none → rest = []) ∧
    ∀ session, opening.opened? = some session →
      ∃ l : SessionLife, l.limits.map Visit.call = limitCalls policy session ∧
        rest = l.visits ∧ l.Proper policy request session

/-- The calls from the opening on are those of the request. -/
theorem visits_openSession {steps : Trail} {r : Option AuthorizationOutcome}
    (hcap : 1 ≤ policy.batchCap) (h : (openSession policy request).Path steps r) :
    OfRequest policy request steps.visits := by
  cases h with
  | stuck began => exact ⟨_, [], rfl, rfl, by simp, by simp [Visit.opened?]⟩
  | call began ended how hpath =>
    rename_i tail
    refine ⟨_, tail.visits, rfl, rfl, ?_⟩
    cases how with
    | cancelled =>
      exact ⟨fun _ => visits_settle hpath, by simp [Visit.opened?]⟩
    | raised f => exact ⟨fun _ => visits_settle hpath, by simp [Visit.opened?]⟩
    | returned answer =>
      cases answer with
      | error e => exact ⟨fun _ => visits_settle hpath, by simp [Visit.opened?]⟩
      | ok session =>
        refine ⟨by simp [Visit.opened?], ?_⟩
        intro other hother
        have heq : session = other := by simpa [Visit.opened?] using hother
        subst heq
        exact life_configure hcap hpath

/-- A request for documents makes no call before the opening. -/
theorem visits_program {steps : Trail} {r : Option AuthorizationOutcome}
    (hne : request.docIds ≠ []) (hcap : 1 ≤ policy.batchCap)
    (hd : deadlineOverflows request = false) (h : (program policy request).Path steps r) :
    OfRequest policy request steps.visits := by
  rw [program_of_ne_nil hne hcap hd] at h
  cases h with
  | log h =>
    rw [Trail.visits_wrote]
    exact visits_openSession hcap h

end Authorization

/-- Limits for queries are set without waiting. -/
def Repository.LimitsAtOnce {σ : Type} (repository : Repository σ) : Prop :=
  ∀ session limit w, (repository.start (.setTimeout session limit) w).wait = .immediate

namespace Authorization

/-- **The calls of a request form one word.** Under every deadline, and whatever the repository
answers or raises and however long it waits, a request for documents opens a session once and
makes no call without one. Each call begins after the one before has ended. The calls on the
session are the limit when it is configured and supported, the impersonation unless the limit
raised, the queries for the first slices of the request, each but the last of them answered with
rows, and one closing, which is missing only from a run that never ends. -/
theorem calls_form_word {σ : Type} (repository : Repository σ) (policy : AuthorizationPolicy)
    (request : AuthorizationRequest) (hne : request.docIds ≠ []) (hcap : 1 ≤ policy.batchCap)
    (hd : deadlineOverflows request = false) (hlimit : repository.LimitsAtOnce) (now : Nat)
    (world : σ) :
    let run := (job policy request).run repository now world
    let visits := ((job policy request).trail repository now world).visits
    run.calls = visits.map Visit.call ∧ visits.IsChain Visit.Precedes ∧
    ∃ opening rest, visits = opening :: rest ∧ opening.call = .openSession ∧
      (opening.opened? = none → rest = []) ∧
      ∀ session, opening.opened? = some session →
        ∃ l : SessionLife, rest = l.visits ∧
          l.limits.map Visit.call = limitCalls policy session ∧
          (∀ v ∈ l.limits, v.hasReturned = false → v.fault? ≠ none) ∧
          l.Proper policy request session ∧
          (run.result ≠ none → l.closings.map Visit.call = [.closeSession session.number]) := by
  intro run visits
  have hpath : (program policy request).Path ((job policy request).trail repository now world)
      run.result := Program.path_trail repository _ _ now world
  obtain ⟨opening, rest, hvisits, hopening, hnone, hsome⟩ := visits_program hne hcap hd hpath
  have hall : visits = opening :: rest := hvisits
  refine ⟨Program.calls_trail _ _ _ _ _, Program.isChain_visits _ _ _ _ _, opening, rest,
    hvisits, hopening, hnone, ?_⟩
  intro session hsession
  obtain ⟨l, hlimits, hrest, hproper⟩ := hsome session hsession
  have hmem : ∀ v ∈ l.visits, v ∈ visits := by
    intro v hv
    rw [hall, hrest]
    exact List.mem_cons_of_mem opening hv
  refine ⟨l, hrest, hlimits, ?_, hproper, ?_⟩
  · intro v hv hreturned
    have hcall : v.call ∈ limitCalls policy session := hlimits ▸ List.mem_map_of_mem hv
    obtain ⟨limit, hcall⟩ := eq_of_mem_limitCalls hcall
    -- A call that never waits cannot be cancelled; what did not return has raised.
    have hatOnce : ∀ w, (repository.start v.call w).wait = .immediate := by
      intro w
      rw [hcall]
      exact hlimit _ _ w
    obtain ⟨outcome, hending⟩ := Program.ending_of_immediate repository _ _ _ _ v
      (hmem v (by simp [SessionLife.visits, hv])) hatOnce
    cases outcome with
    | ok a => simp [Visit.hasReturned, hending, Ended.ofExcept] at hreturned
    | error f => simp [Visit.fault?, hending, Ended.ofExcept]
  · intro hresult
    rcases hproper.closed with hclosed | ⟨-, v, hv, hending⟩
    · exact hclosed
    · obtain ⟨outcome, houtcome⟩ := Option.ne_none_iff_exists'.mp hresult
      have hlast : v ∈ l.limits ++ l.impersonations ++ l.queries :=
        List.mem_of_getLast? (Option.mem_def.mp hv)
      rw [houtcome] at hpath
      exact absurd hending
        (hpath.ended_of_some v (hmem v (List.mem_append_left l.closings hlast)))

/-- Everything answers at once but the second query, which waits for nine units of the clock. -/
def slowSecondQuery : Script where
  opening := .plain
  supportsTimeouts := true
  impersonation := .plain
  queries := [⟨.plain, .rows []⟩, ⟨⟨.lasts 9, .succeed⟩, .rows []⟩]
  defaultQuery := ⟨.plain, .rows []⟩
  closing := .plain

/-- A request for five documents within five units of the clock. -/
def fiveDocuments : AuthorizationRequest :=
  ⟨["a", "b", "c", "d", "e"], ⟨"u", none⟩, some (.real (.finite false 5)), none⟩

/-- Requests in batches of two, with a limit for queries. -/
def limitedPairs : AuthorizationPolicy := ⟨"scripted", some (.whole 1), 2, false⟩

/-- A request for three batches whose second query is cancelled makes six calls, one after
another; the third batch is never asked about. -/
theorem calls_form_word_of_slow_query :
    fiveDocuments.docIds ≠ [] ∧ 1 ≤ limitedPairs.batchCap ∧
      deadlineOverflows fiveDocuments = false ∧
      (slowSecondQuery.repository "scripted").LimitsAtOnce ∧
      let visits := ((job limitedPairs fiveDocuments).trail
        (slowSecondQuery.repository "scripted") 0 []).visits
      visits.map Visit.call =
        [.openSession, .setTimeout 0 (.whole 1), .impersonate 0 "u" none,
          .query 0 { predicate := ⟨"DataID", ["a", "b"], by decide⟩ },
          .query 0 { predicate := ⟨"DataID", ["c", "d"], by decide⟩ }, .closeSession 0] ∧
      visits.IsChain Visit.Precedes := by
  have hlimit : (slowSecondQuery.repository "scripted").LimitsAtOnce := fun _ _ _ => rfl
  have hword := calls_form_word (slowSecondQuery.repository "scripted") limitedPairs fiveDocuments
    (by decide) (by decide) rfl hlimit 0 []
  refine ⟨by decide, by decide, rfl, hlimit, ?_, hword.2.1⟩
  rw [← hword.1]
  decide +kernel

end Authorization
end DocAccess
