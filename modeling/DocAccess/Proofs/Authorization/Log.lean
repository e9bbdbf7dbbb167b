import DocAccess.Proofs.Authorization.Closing

/-!
# What a request logs

A request for documents that ends with a result has written one event at its start and one at its
end. The last one tells how the request came out and how far it came, and what it tells agrees
with the calls of the run: over every repository and under every deadline, wherever the request
was cut off.

## Main statements

* `log_of_result` — the events of a run with a result, against its calls.
-/
namespace DocAccess

/-- A closing has no part in how far a request has come. -/
theorem Progress.after_closing {visits : List Visit} {closing : Visit} {number : Nat}
    (h : closing.call = .closeSession number) :
    Progress.after (visits ++ [closing]) = .after visits := by
  obtain ⟨himpersonated, hcount⟩ := counts_closing h visits
  simp only [Progress.after, himpersonated, hcount]

/-- A session that is closed on a result had the result before. -/
theorem Ending.eq_of_closedBy {ending : Ending} {closing : Visit} {result : AuthorizationResult}
    (h : ending.closedBy closing = .finished result) : ending = .finished result := by
  unfold closedBy at h
  split at h
  · cases h
  · exact h

namespace Authorization

variable {policy : AuthorizationPolicy} {request : AuthorizationRequest}

/-- The names of the events at the start and at the end of a request. -/
def outerNames : List String :=
  ["authorization_started", "authorization_completed", "authorization_failed"]

/-- An interim event is bound to its request, and is none of the start or the end. -/
theorem Interim.inner {e : Event} (h : Interim policy request e) :
    e.bound = bound policy request ∧ e.name ∉ outerNames := by
  cases h <;> exact ⟨rfl, by simp [outerNames, limitUnsupportedEvent, queryEvent, decisionEvent,
    strayEvent, closeFailedEvent, event]⟩

/-- A request that has closed its session may have stopped as before. -/
theorem Stops.closing {visits : List Visit} {ending : Ending}
    (h : Stops policy request visits ending) {closing : Visit} {number : Nat}
    (hcall : closing.call = .closeSession number) :
    Stops policy request (visits ++ [closing]) ending := by
  obtain ⟨himpersonated, hcount⟩ := counts_closing hcall visits
  refine ⟨?_, ?_, ?_⟩
  · rw [himpersonated, hcount]
    exact h.unasked
  · rw [himpersonated, hcount]
    exact h.asked
  · rw [hcount]
    exact h.complete

/-- A request that is settled with a result writes its last event. -/
theorem events_of_settle {p : Progress} {ending : Ending} {steps : Trail}
    {result : AuthorizationResult}
    (h : (settle policy request p ending).Path steps (some (.ok result))) :
    steps.events = [lastEvent policy request p result] := by
  cases ending with
  | raised f => cases h
  | expired =>
    rw [settle] at h
    obtain ⟨hsteps, hresult⟩ := steps_conclude h
    cases hresult
    rw [hsteps]
    rfl
  | finished result =>
    rw [settle] at h
    obtain ⟨hsteps, hresult⟩ := steps_conclude h
    cases hresult
    rw [hsteps]
    rfl

/-- The events of a request for documents with a result, and how it stopped. -/
theorem log_of_account {steps : Trail} {result : AuthorizationResult}
    (h : Account policy request steps (.ok result)) :
    ∃ (batches : Int) (interim : List Event) (ending : Ending),
      batchCount request.docIds.length policy.batchCap = some batches ∧
      steps.events = startedEvent policy request batches ::
        interim ++ [lastEvent policy request (.after steps.visits) result] ∧
      (∀ e ∈ interim, Interim policy request e) ∧
      Stops policy request steps.visits ending ∧
      ∀ docs, result = .ok docs → ending = .finished (.ok docs) := by
  cases h with
  | @unopened batches opening ending rest _ hbatches hcall hopened hending hsettle =>
    obtain ⟨hquiet, hcount⟩ := quiet_of_opening hcall
    have hvisits := visits_unopened hsettle (startedEvent policy request batches) opening
    refine ⟨batches, [], ending, hbatches, ?_, by simp, ?_, ?_⟩
    · rw [hvisits, after_of_unasked hquiet hcount, Trail.events_wrote, Trail.events_visited,
        events_of_settle hsettle]
      rfl
    · rw [hvisits]
      refine ⟨fun _ => hcount, by simp [hquiet], ?_⟩
      intro docs hdocs
      exact absurd hdocs (hending docs)
    · rintro docs rfl
      exact absurd (finished_of_settled (eq_of_settle hsettle)) (hending docs)
  | @opened batches opening session steps _ hbatches hopened hstopped =>
    obtain ⟨s⟩ := hstopped
    have hvisits : Trail.visits (.wrote (startedEvent policy request batches) ::
        .visited opening :: steps) = [opening] ++ s.works ++ [s.closing] :=
      s.visits_opened (startedEvent policy request batches) opening
    refine ⟨batches, s.interim, s.ending, hbatches, ?_, s.interim_of, ?_, ?_⟩
    · rw [hvisits, Progress.after_closing s.closing_call, Trail.events_wrote, Trail.events_visited,
        s.events_eq, events_of_settle s.settles]
      rfl
    · rw [hvisits]
      exact s.stops.closing s.closing_call
    · rintro docs rfl
      exact Ending.eq_of_closedBy (finished_of_settled (eq_of_settle s.settles))

/-- A cap is accepted if and only if it is below the limit. -/
theorem accepted_iff (hcap : 1 ≤ policy.batchCap) :
    (∃ cap, BatchCap.ofInt? policy.batchCap = .ok cap) ↔ policy.batchCap < BatchCap.limit := by
  by_cases hlt : policy.batchCap < BatchCap.limit
  · simp [BatchCap.ofInt?_of_lt hcap hlt, hlt]
  · simp [BatchCap.ofInt?_of_le (by omega : (BatchCap.limit : Int) ≤ policy.batchCap), hlt]

/-- The events of a run with a result, and how the request stopped. -/
theorem log_of_run {σ : Type} {repository : Repository σ} (policy : AuthorizationPolicy)
    (request : AuthorizationRequest) {now : Nat} {world : σ} {result : AuthorizationResult}
    (hne : request.docIds ≠ []) (hcap : 1 ≤ policy.batchCap)
    (hresult : ((job policy request).run repository now world).result = some (.ok result)) :
    ∃ (interim : List Event) (ending : Ending),
      ((job policy request).run repository now world).events =
        startedEvent policy request (sliceCount policy.batchCap.toNat request.docIds.length) ::
          interim ++ [lastEvent policy request
            (.after ((job policy request).trail repository now world).visits) result] ∧
      (∀ e ∈ interim, Interim policy request e) ∧
      Stops policy request ((job policy request).trail repository now world).visits ending ∧
      ∀ docs, result = .ok docs → ending = .finished (.ok docs) := by
  have hpath : (program policy request).Path ((job policy request).trail repository now world)
      ((job policy request).run repository now world).result :=
    Program.path_trail repository _ _ now world
  rw [hresult] at hpath
  obtain ⟨batches, interim, ending, hbatches, hevents, hrest⟩ :=
    log_of_account (account_of_path hne hpath)
  rw [batchCount_of_pos hcap] at hbatches
  cases hbatches
  exact ⟨interim, ending, (Program.events_trail repository _ _ now world).trans hevents, hrest⟩

/-- **What a request with a result logs.** Its first event announces it and its last one tells
the result; in between there is no event of either kind. The last event tells the number of
queries that were made, which for a success is the number of batches announced, and the last
batch that was asked about. It tells that queries were under way when the principal had been
impersonated; that is so if and only if a query was made, unless the cap is refused. -/
theorem log_of_result {σ : Type} (repository : Repository σ) (policy : AuthorizationPolicy)
    (request : AuthorizationRequest) (now : Nat) (world : σ) (hne : request.docIds ≠ [])
    (hcap : 1 ≤ policy.batchCap) {result : AuthorizationResult}
    (hresult : ((job policy request).run repository now world).result = some (.ok result)) :
    let run := (job policy request).run repository now world
    let batches := sliceCount policy.batchCap.toNat request.docIds.length
    ∃ (between : List Event) (p : Progress),
      run.events = startedEvent policy request batches ::
        between ++ [lastEvent policy request p result] ∧
      (∀ e ∈ between, e.bound = bound policy request ∧ e.name ∉ outerNames) ∧
      p.queriesIssued = run.queries ∧
      p.batchIndex = lastBatch run.queries ∧
      (∀ docs, result = .ok docs → run.queries = batches) ∧
      p.stage = (if impersonatedIn ((job policy request).trail repository now world).visits then
        .batchingInProgress else .sessionOpening) ∧
      (policy.batchCap < BatchCap.limit → (p.stage = .sessionOpening ↔ run.queries = 0)) ∧
      (BatchCap.limit ≤ policy.batchCap → run.queries = 0) := by
  intro run batches
  obtain ⟨between, ending, hevents, hbetween, hstops, hsuccess⟩ :=
    log_of_run policy request hne hcap hresult
  have hcount : run.queries = queriesIn ((job policy request).trail repository now world).visits :=
    Program.queries_run repository _ _ now world
  refine ⟨between, .after ((job policy request).trail repository now world).visits,
    hevents, fun e he => (hbetween e he).inner, hcount.symm, by rw [hcount]; rfl, ?_, rfl, ?_, ?_⟩
  · intro docs hdocs
    rw [hcount]
    exact hstops.complete docs (hsuccess docs hdocs)
  · -- An accepted cap lets a request stop after its impersonation only once it has asked.
    intro hlt
    rw [hcount]
    cases himpersonated : impersonatedIn ((job policy request).trail repository now world).visits
    · simp [Progress.after, himpersonated, hstops.unasked himpersonated]
    · have hpos := (hstops.asked himpersonated).mpr ((accepted_iff hcap).mpr hlt)
      simp [Progress.after, himpersonated, hpos.ne']
  · intro hle
    rw [hcount]
    cases himpersonated : impersonatedIn ((job policy request).trail repository now world).visits
    · exact hstops.unasked himpersonated
    · have hnone := (hstops.asked himpersonated).not.mpr
        ((accepted_iff hcap).not.mpr (not_lt.mpr hle))
      omega

/-- Three documents in batches of two: the request is cut off while its session is closed, and
its last event tells of both queries. -/
theorem log_of_cut_request :
    ∃ (between : List Event) (p : Progress) (e : RepositoryError),
      (cutRequest ["a", "b", "c"]).docIds ≠ [] ∧ 1 ≤ (inBatches 2).batchCap ∧
      (cutRun slowClosing 2 ["a", "b", "c"]).result = some (.ok (.error e)) ∧
      (cutRun slowClosing 2 ["a", "b", "c"]).events =
        startedEvent (inBatches 2) (cutRequest ["a", "b", "c"]) 2 ::
          between ++ [failedEvent (inBatches 2) (cutRequest ["a", "b", "c"]) p e] ∧
      p.queriesIssued = 2 ∧ p.batchIndex = some 1 ∧ p.stage = .batchingInProgress := by
  have hfailed : (failure? (cutRun slowClosing 2 ["a", "b", "c"])).isSome = true := by
    decide +kernel
  have hqueries : (cutRun slowClosing 2 ["a", "b", "c"]).queries = 2 := by decide +kernel
  have himpersonated : impersonatedIn (cutVisits slowClosing 2 ["a", "b", "c"]) = true := by
    decide +kernel
  obtain ⟨e, he⟩ := Option.isSome_iff_exists.mp hfailed
  have hresult := result_of_failure? he
  obtain ⟨between, p, hevents, -, hcount, hbatch, -, hstage, -⟩ :=
    log_of_result (slowClosing.repository "scripted") (inBatches 2) (cutRequest ["a", "b", "c"]) 0
      [] (by decide) (by decide) hresult
  refine ⟨between, p, e, by decide, by decide, hresult, hevents, hcount.trans hqueries, ?_, ?_⟩
  · exact hbatch.trans (congrArg lastBatch hqueries)
  · exact hstage.trans (if_pos himpersonated)

/-- Under a cap at the limit the principal is impersonated and nobody is asked: cut off while its
session is closed, the request tells that queries were under way and that none was made. -/
theorem log_of_cut_request_at_limit :
    ∃ e : RepositoryError,
      (cutRequest ["a"]).docIds ≠ [] ∧ 1 ≤ (inBatches 9223372036854775808).batchCap ∧
      (cutRun slowClosing 9223372036854775808 ["a"]).result = some (.ok (.error e)) ∧
      (cutRun slowClosing 9223372036854775808 ["a"]).queries = 0 ∧
      (cutRun slowClosing 9223372036854775808 ["a"]).events.getLast? =
        some (failedEvent (inBatches 9223372036854775808) (cutRequest ["a"])
          ⟨.batchingInProgress, none, 0⟩ e) := by
  have hfailed : (failure? (cutRun slowClosing 9223372036854775808 ["a"])).isSome = true := by
    decide +kernel
  have hqueries : queriesIn (cutVisits slowClosing 9223372036854775808 ["a"]) = 0 := by
    decide +kernel
  have himpersonated : impersonatedIn (cutVisits slowClosing 9223372036854775808 ["a"]) = true := by
    decide +kernel
  obtain ⟨e, he⟩ := Option.isSome_iff_exists.mp hfailed
  have hresult := result_of_failure? he
  obtain ⟨interim, -, hevents, -⟩ :=
    log_of_run (inBatches 9223372036854775808) (cutRequest ["a"]) (by decide) (by decide) hresult
  have hprogress : Progress.after (cutVisits slowClosing 9223372036854775808 ["a"]) =
      ⟨.batchingInProgress, none, 0⟩ := by
    simp [Progress.after, himpersonated, hqueries, lastBatch]
  refine ⟨e, by decide, by decide, hresult, (Program.queries_run _ _ _ _ _).trans hqueries, ?_⟩
  rw [cutRun, hevents, List.getLast?_concat]
  exact congrArg (fun p => some (failedEvent _ _ p e)) hprogress

end Authorization
end DocAccess
