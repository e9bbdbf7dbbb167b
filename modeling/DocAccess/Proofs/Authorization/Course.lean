import DocAccess.Proofs.Authorization.Deadline
import DocAccess.Proofs.Authorization.Outcome

/-!
# The course of a request

What a request does on its session, said once for all that is to be known of it: it writes events
and works on the session until it stops, and then it closes the session. Where it stops its
progress is that of the visits made so far, and whether it may stop there as a success depends on
them alone. The cap may be any number.

## Main definitions

* `Progress.after` — the progress that some visits make.
* `Stops` — how a request may stop after some visits.
* `Course` — a program that works on a session, stops and closes it.
* `Stopped` — what a course has done when it is over.
* `Account` — what a request for documents has done when it is over.

## Main statements

* `course_configure` — the program of a request on its session is a course.
* `Course.stopped` — every path of a course to an outcome.
* `account_of_path` — every path of a request for documents to an outcome.
-/
namespace DocAccess

/-- Number of queries among visits. -/
def queriesIn (visits : List Visit) : Nat := visits.countP fun v => v.call.isQuery

/-- Whether some visit impersonated a principal. -/
def impersonatedIn (visits : List Visit) : Bool := visits.any Visit.impersonated

@[simp] theorem queriesIn_append (us vs : List Visit) :
    queriesIn (us ++ vs) = queriesIn us + queriesIn vs := List.countP_append

@[simp] theorem impersonatedIn_append (us vs : List Visit) :
    impersonatedIn (us ++ vs) = (impersonatedIn us || impersonatedIn vs) := List.any_append

@[simp] theorem queriesIn_singleton (v : Visit) : queriesIn [v] = v.call.isQuery.toNat := by
  cases h : v.call.isQuery <;> simp [queriesIn, h]

@[simp] theorem impersonatedIn_singleton (v : Visit) :
    impersonatedIn [v] = v.impersonated := by simp [impersonatedIn]

/-- A visit that opens a session neither impersonates anybody nor asks anything. -/
theorem quiet_of_opening {v : Visit} (h : v.call = .openSession) :
    impersonatedIn [v] = false ∧ queriesIn [v] = 0 := by
  obtain ⟨c, began, ending⟩ := v
  cases h
  simp [Visit.impersonated, Call.isQuery]

/-- The closing of a session neither impersonates anybody nor asks anything. -/
theorem counts_closing {closing : Visit} {number : Nat} (h : closing.call = .closeSession number)
    (visits : List Visit) :
    impersonatedIn (visits ++ [closing]) = impersonatedIn visits ∧
      queriesIn (visits ++ [closing]) = queriesIn visits := by
  obtain ⟨c, began, ending⟩ := closing
  cases h
  simp [Visit.impersonated, Call.isQuery]

/-- The visit that opened a session was for that. -/
theorem Visit.call_of_opened {v : Visit} {session : Session} (h : v.opened? = some session) :
    v.call = .openSession := by
  unfold Visit.opened? at h
  split at h
  · rfl
  · cases h

/-- The queries of a run are those of its trail. -/
theorem Program.queries_run {σ α : Type} (repository : Repository σ) (p : Program α)
    (deadline : Option Int) (now : Nat) (w : σ) :
    (p.run repository deadline now w).queries =
      queriesIn (p.trail repository deadline now w).visits := by
  rw [Run.queries, calls_trail, List.countP_map]
  rfl

/-- The progress of a request after some visits. -/
def Progress.after (visits : List Visit) : Progress where
  stage := if impersonatedIn visits then .batchingInProgress else .sessionOpening
  batchIndex := lastBatch (queriesIn visits)
  queriesIssued := queriesIn visits

/-- What an ending becomes when the session is closed: time has run out if it runs out then. -/
def Ending.closedBy (ending : Ending) (closing : Visit) : Ending :=
  if closing.cancelled then .expired else ending

namespace Authorization

variable (policy : AuthorizationPolicy) (request : AuthorizationRequest) (session : Session)

/-- The call works on the session of the request: it limits its queries, impersonates the
principal or asks about some documents. -/
inductive Works : Call → Prop
  | limit (t : Seconds) : Works (.setTimeout session.number t)
  | impersonation :
      Works (.impersonate session.number request.identity.username request.identity.domain)
  | question (b : Batch) : Works (.query session.number b.query)

/-- The event is one that a request writes between its first and its last one. Queries and
decisions are written only when requests are traced. -/
inductive Interim : Event → Prop
  | limit (t : Seconds) : Interim (limitUnsupportedEvent policy request t)
  | question (b : Batch) : policy.traced = true → Interim (queryEvent policy request b)
  | decision (d : Decision) : policy.traced = true → Interim (decisionEvent policy request d)
  | stray (b : Batch) (r : Row) : Interim (strayEvent policy request b r)
  | closing (f : Fault) : Interim (closeFailedEvent policy request f)

/-- The request may stop after the visits with the ending: nobody is asked before the principal
is impersonated, somebody is once it is if and only if the cap is accepted, and a success has
asked about every slice. -/
structure Stops (before : List Visit) (ending : Ending) : Prop where
  unasked : impersonatedIn before = false → queriesIn before = 0
  asked : impersonatedIn before = true →
    (0 < queriesIn before ↔ ∃ cap, BatchCap.ofInt? policy.batchCap = .ok cap)
  complete : ∀ docs, ending = .finished (.ok docs) →
    queriesIn before = sliceCount policy.batchCap.toNat request.docIds.length

/-- What is left of a request on its session after the visits `before`. -/
inductive Course : List Visit → Program AuthorizationOutcome → Prop
  | log {before : List Visit} {e : Event} {rest : Program AuthorizationOutcome} :
      Interim policy request e → Course before rest → Course before (.log e rest)
  | work {before : List Visit} {c : Call} {next : Ended c.Answer → Program AuthorizationOutcome} :
      Works request session c →
      (∀ began ended how, Course (before ++ [⟨c, began, some (ended, how)⟩]) (next how)) →
      Course before (.call c next)
  | close {before : List Visit} {ending : Ending} : Stops policy request before ending →
      Course before (close policy request session (.after before) ending)

/-- What a request on its session has done after the visits `before` when it ends with an outcome:
it has worked on the session until it stopped, and has closed it. -/
structure Stopped (before : List Visit) (steps : Trail) (outcome : AuthorizationOutcome) where
  works : List Visit
  closing : Visit
  interim : List Event
  ending : Ending
  rest : Trail
  visits_eq : steps.visits = works ++ [closing]
  events_eq : steps.events = interim ++ rest.events
  works_on : ∀ v ∈ works, Works request session v.call
  interim_of : ∀ e ∈ interim, Interim policy request e
  stops : Stops policy request (before ++ works) ending
  closing_call : closing.call = .closeSession session.number
  settles : (settle policy request (.after (before ++ works)) (ending.closedBy closing)).Path rest
    (some outcome)

/-- What a request for documents has done when it ends with an outcome: it was refused before any
call, no session was opened, or it has worked on the session that was opened and has closed it. -/
inductive Account : Trail → AuthorizationOutcome → Prop
  | refused {steps : Trail} {f : Fault} : steps.visits = [] → Account steps (.error f)
  | unopened {batches : Int} {opening : Visit} {ending : Ending} {rest : Trail}
      {outcome : AuthorizationOutcome} :
      batchCount request.docIds.length policy.batchCap = some batches →
      opening.call = .openSession → opening.opened? = none →
      (∀ docs, ending ≠ .finished (.ok docs)) →
      (settle policy request .sessionOpening ending).Path rest (some outcome) →
      Account (.wrote (startedEvent policy request batches) :: .visited opening :: rest) outcome
  | opened {batches : Int} {opening : Visit} {session : Session} {steps : Trail}
      {outcome : AuthorizationOutcome} :
      batchCount request.docIds.length policy.batchCap = some batches →
      opening.opened? = some session →
      Nonempty (Stopped policy request session [opening] steps outcome) →
      Account (.wrote (startedEvent policy request batches) :: .visited opening :: steps) outcome

variable {policy request session} {before : List Visit}

/-- Work on a session does not open one. -/
theorem Works.ne_openSession {c : Call} (h : Works request session c) : c ≠ .openSession := by
  rintro rfl
  cases h

/-- Work on a session does not close one. -/
theorem Works.ne_closeSession {c : Call} (h : Works request session c) (n : Nat) :
    c ≠ .closeSession n := by
  rintro rfl
  cases h

/-! ## A request on its session is on its course -/

/-- Interim events do not stop a course. -/
theorem Course.logAll {p : Program AuthorizationOutcome} {es : List Event}
    (hes : ∀ e ∈ es, Interim policy request e) (h : Course policy request session before p) :
    Course policy request session before (p.logAll es) := by
  induction es with
  | nil => exact h
  | cons e es ih =>
    exact .log (hes e List.mem_cons_self) (ih fun x hx => hes x (List.mem_cons_of_mem e hx))

/-- Traced events are written when requests are traced. -/
theorem interim_whenTraced {es : List Event}
    (h : policy.traced = true → ∀ e ∈ es, Interim policy request e) :
    ∀ e ∈ whenTraced policy es, Interim policy request e := by
  intro e he
  cases htraced : policy.traced with
  | false => simp [whenTraced, htraced] at he
  | true =>
    rw [whenTraced, htraced, if_pos rfl] at he
    exact h htraced e he

/-- A fault is no success. -/
theorem ofFault_ne_success (f : Fault) (docs : AuthorizedDocuments) :
    Ending.ofFault f ≠ .finished (.ok docs) := Ending.ofFault_ne_finished f _

/-- A request that is about to ask for the next batch, or has asked for all of them, is on its
course. The aggregate counts the queries made so far. -/
theorem course_queryBatches (bs : List Batch) {a : Aggregate}
    (haccepted : ∃ cap, BatchCap.ofInt? policy.batchCap = .ok cap)
    (hpos : 0 < sliceCount policy.batchCap.toNat request.docIds.length)
    (hnumbered : Numbered a.absorbed bs)
    (htotal : a.absorbed + bs.length = sliceCount policy.batchCap.toNat request.docIds.length)
    (himpersonated : impersonatedIn before = true) (hcount : queriesIn before = a.absorbed) :
    Course policy request session before
      (queryBatches policy request session bs a (.after before)) := by
  -- `absorbed` numbers the next batch: a visit for it moves the progress and the count together.
  induction bs generalizing a before with
  | nil =>
    refine .close ⟨?_, ?_, ?_⟩
    · simp [himpersonated]
    · intro _
      rw [List.length_nil] at htotal
      exact iff_of_true (by omega) haccepted
    · intro _ _
      rw [List.length_nil] at htotal
      omega
  | cons b bs ih =>
    have hissued : ∀ (began ended : Nat) (how : Ended (Call.query session.number b.query).Answer),
        (Progress.after before).issued b =
          .after (before ++ [⟨.query session.number b.query, began, some (ended, how)⟩]) := by
      intro began ended how
      simp [Progress.after, Progress.issued, himpersonated, hcount, hnumbered.head,
        Call.isQuery, lastBatch]
    -- Every way out of the loop closes the session as the visits made so far allow it.
    have hclose : ∀ (began ended : Nat) (how : Ended (Call.query session.number b.query).Answer)
        (ending : Ending), (∀ docs, ending ≠ .finished (.ok docs)) →
        Course policy request session
          (before ++ [⟨.query session.number b.query, began, some (ended, how)⟩])
          (close policy request session ((Progress.after before).issued b) ending) := by
      intro began ended how ending hending
      rw [hissued began ended how]
      refine .close ⟨by simp [himpersonated], fun _ => ?_, ?_⟩
      · exact iff_of_true (by simp [Call.isQuery]) haccepted
      · intro docs hdocs
        exact absurd hdocs (hending docs)
    rw [queryBatches]
    refine Course.logAll (interim_whenTraced fun ht e he => ?_) (.work (.question b) ?_)
    · rw [List.mem_singleton.mp he]
      exact .question b ht
    · intro began ended how
      cases how with
      | cancelled => exact hclose _ _ _ _ (by simp)
      | raised f => exact hclose _ _ _ _ (ofFault_ne_success f)
      | returned answer =>
        cases answer with
        | error e => exact hclose _ _ _ _ (by simp)
        | ok rows =>
          simp only [Aggregate.absorb, hnumbered.head, if_true]
          refine Course.logAll ?_ (Course.logAll (interim_whenTraced fun ht e he => ?_) ?_)
          · intro e he
            obtain ⟨r, -, rfl⟩ := List.mem_map.mp he
            exact .stray b r
          · obtain ⟨d, -, rfl⟩ := List.mem_map.mp he
            exact .decision d ht
          · rw [hissued began ended (.returned (.ok rows))]
            rw [List.length_cons] at htotal
            refine ih hnumbered.tail (by simp only; omega) ?_ ?_
            · simp [himpersonated]
            · simp [hcount, Call.isQuery]

/-- Before the impersonation nothing has been asked. -/
theorem after_of_unasked (himpersonated : impersonatedIn before = false)
    (hcount : queriesIn before = 0) : Progress.after before = .sessionOpening := by
  simp [Progress.after, Progress.sessionOpening, himpersonated, hcount, lastBatch]

/-- A request that stops before it has impersonated its principal closes its session. -/
theorem course_close_unasked (himpersonated : impersonatedIn before = false)
    (hcount : queriesIn before = 0) {ending : Ending}
    (hending : ∀ docs, ending ≠ .finished (.ok docs)) :
    Course policy request session before
      (close policy request session .sessionOpening ending) := by
  rw [← after_of_unasked himpersonated hcount]
  refine .close ⟨fun _ => hcount, by simp [himpersonated], ?_⟩
  intro docs hdocs
  exact absurd hdocs (hending docs)

/-- A request for documents that is about to impersonate its principal is on its course. -/
theorem course_impersonate (hne : request.docIds ≠ [])
    (himpersonated : impersonatedIn before = false) (hcount : queriesIn before = 0) :
    Course policy request session before (impersonate policy request session) := by
  refine .work .impersonation fun began ended how => ?_
  have hquiet : ∀ (hfailed : ∀ u, how ≠ .returned (.ok u)) {ending : Ending},
      (∀ docs, ending ≠ .finished (.ok docs)) →
      Course policy request session (before ++ [⟨.impersonate session.number
        request.identity.username request.identity.domain, began, some (ended, how)⟩])
        (close policy request session .sessionOpening ending) := by
    intro hfailed ending hending
    refine course_close_unasked ?_ (by simp [hcount, Call.isQuery]) hending
    simp only [impersonatedIn_append, impersonatedIn_singleton, himpersonated, Bool.false_or]
    unfold Visit.impersonated
    split
    · rename_i heq
      cases heq
      exact absurd rfl (hfailed ())
    · rfl
  cases how with
  | cancelled => exact hquiet (by simp) (by simp)
  | raised f => exact hquiet (by simp) (ofFault_ne_success f)
  | returned answer =>
    cases answer with
    | error e => exact hquiet (by simp) (by simp)
    | ok u =>
      let v : Visit := ⟨.impersonate session.number request.identity.username
        request.identity.domain, began, some (ended, .returned (.ok u))⟩
      have hv : impersonatedIn (before ++ [v]) = true := by
        simp [v, Visit.impersonated]
      have hzero : queriesIn (before ++ [v]) = 0 := by simp [v, hcount, Call.isQuery]
      have hafter : Progress.sessionOpening.batching = .after (before ++ [v]) := by
        simp [Progress.after, Progress.batching, Progress.sessionOpening, hv, hzero, lastBatch]
      simp only [hafter]
      cases hcap : BatchCap.ofInt? policy.batchCap with
      | error e =>
        refine .close ⟨fun hnone => ?_, fun _ => ?_, by simp⟩
        · rw [hv] at hnone
          cases hnone
        · exact iff_of_false (Nat.not_lt.mpr (le_of_eq hzero)) (by simp [hcap])
      | ok cap =>
        have hsize := BatchCap.size_of_ofInt? hcap
        have htotal := BatchSource.length_drain cap request.docIds
        rw [hsize] at htotal
        have hpos : 0 < sliceCount policy.batchCap.toNat request.docIds.length := by
          rw [sliceCount_of_pos (hsize ▸ cap.positive) (List.length_pos_iff.mpr hne)]
          omega
        exact course_queryBatches _ ⟨cap, hcap⟩ hpos (BatchSource.numbered_drain cap request.docIds)
          (by simpa [Aggregate.empty] using htotal) hv hzero

/-- **A request for documents on a session that it has opened is on its course.** -/
theorem course_configure (hne : request.docIds ≠ [])
    (himpersonated : impersonatedIn before = false) (hcount : queriesIn before = 0) :
    Course policy request session before (configure policy request session) := by
  unfold configure
  cases policy.queryLimit with
  | none => exact course_impersonate hne himpersonated hcount
  | some limit =>
    by_cases hs : session.supportsTimeouts
    · simp only [hs, if_true]
      refine .work (.limit limit) fun began ended how => ?_
      have hv : impersonatedIn (before ++
          [⟨.setTimeout session.number limit, began, some (ended, how)⟩]) = false := by
        simp [himpersonated, Visit.impersonated]
      have hzero : queriesIn (before ++
          [⟨.setTimeout session.number limit, began, some (ended, how)⟩]) = 0 := by
        simp [hcount, Call.isQuery]
      cases how with
      | cancelled => exact course_close_unasked hv hzero (by simp)
      | raised f => exact course_close_unasked hv hzero (ofFault_ne_success f)
      | returned u => exact course_impersonate hne hv hzero
    · simp only [hs]
      exact .log (.limit limit) (course_impersonate hne himpersonated hcount)

/-! ## What a course has done -/

/-- A session that is closed settles its ending, unless time runs out while it is closed. -/
theorem settles_of_close {p : Progress} {ending : Ending} {steps : Trail}
    {outcome : AuthorizationOutcome}
    (h : (close policy request session p ending).Path steps (some outcome)) :
    ∃ (closing : Visit) (interim : List Event) (rest : Trail), steps.visits = [closing] ∧
      closing.call = .closeSession session.number ∧ steps.events = interim ++ rest.events ∧
      (∀ e ∈ interim, Interim policy request e) ∧
      (settle policy request p (ending.closedBy closing)).Path rest (some outcome) := by
  cases h with
  | @call _ _ rest _ began ended how h =>
    let closing : Visit := ⟨.closeSession session.number, began, some (ended, how)⟩
    cases how with
    | returned u =>
      exact ⟨closing, [], rest, by rw [Trail.visits_visited, visits_settle h], rfl, rfl, by simp, h⟩
    | cancelled =>
      exact ⟨closing, [], rest, by rw [Trail.visits_visited, visits_settle h], rfl, rfl, by simp, h⟩
    | raised f =>
      cases h with
      | @log _ _ rest _ h =>
        refine ⟨closing, [closeFailedEvent policy request f], rest, ?_, rfl, rfl, ?_, h⟩
        · rw [Trail.visits_visited, Trail.visits_wrote, visits_settle h]
        · intro e he
          rw [List.mem_singleton.mp he]
          exact .closing f

/-- **Every path of a course to an outcome** works on the session until it stops, and closes it. -/
theorem Course.stopped {p : Program AuthorizationOutcome} {steps : Trail}
    {outcome : AuthorizationOutcome} (h : Course policy request session before p)
    (hpath : p.Path steps (some outcome)) :
    Nonempty (Stopped policy request session before steps outcome) := by
  induction h generalizing steps with
  | @log _ e _ he _ ih =>
    cases hpath with
    | log hpath =>
      obtain ⟨s⟩ := ih hpath
      refine ⟨{ s with interim := e :: s.interim, events_eq := ?_, interim_of := ?_ }⟩
      · rw [Trail.events_wrote, s.events_eq, List.cons_append]
      · exact List.forall_mem_cons.mpr ⟨he, s.interim_of⟩
  | @work before c _ hc _ ih =>
    cases hpath with
    | call began ended how hpath =>
      obtain ⟨s⟩ := ih began ended how hpath
      let v : Visit := ⟨c, began, some (ended, how)⟩
      have hbefore : before ++ [v] ++ s.works = before ++ v :: s.works := by simp
      exact ⟨{ s with
        works := v :: s.works
        visits_eq := by rw [Trail.visits_visited, s.visits_eq, List.cons_append]
        works_on := List.forall_mem_cons.mpr ⟨hc, s.works_on⟩
        stops := hbefore ▸ s.stops
        settles := hbefore ▸ s.settles }⟩
  | @close before ending hstops =>
    obtain ⟨closing, interim, rest, hvisits, hcall, hevents, hinterim, hsettles⟩ :=
      settles_of_close hpath
    exact ⟨{
      works := [], closing, interim, ending, rest
      visits_eq := hvisits
      events_eq := hevents
      works_on := by simp
      interim_of := hinterim
      stops := by rwa [List.append_nil]
      closing_call := hcall
      settles := by rwa [List.append_nil] }⟩

/-- The visits of a request that opened no session: what settles it makes none. -/
theorem visits_unopened {p : Progress} {ending : Ending} {rest : Trail}
    {outcome : AuthorizationOutcome}
    (h : (settle policy request p ending).Path rest (some outcome)) (e : Event)
    (opening : Visit) : Trail.visits (.wrote e :: .visited opening :: rest) = [opening] := by
  rw [Trail.visits_wrote, Trail.visits_visited, visits_settle h]

/-- The visits of a request that opened a session, worked on it and closed it. -/
theorem Stopped.visits_opened {steps : Trail} {outcome : AuthorizationOutcome}
    (s : Stopped policy request session before steps outcome) (e : Event) (opening : Visit) :
    Trail.visits (.wrote e :: .visited opening :: steps) =
      opening :: (s.works ++ [s.closing]) := by
  rw [Trail.visits_wrote, Trail.visits_visited, s.visits_eq]

/-- **Every path of a request for documents to an outcome.** -/
theorem account_of_path {steps : Trail} {outcome : AuthorizationOutcome}
    (hne : request.docIds ≠ []) (h : (program policy request).Path steps (some outcome)) :
    Account policy request steps outcome := by
  simp only [program, List.isEmpty_iff, hne, if_false] at h
  cases hbatches : batchCount request.docIds.length policy.batchCap with
  | none =>
    rw [hbatches] at h
    cases h
    exact .refused rfl
  | some batches =>
    rw [hbatches] at h
    cases h with
    | log h =>
      split at h
      · cases h
        exact .refused rfl
      · cases h with
        | call began ended how h =>
          cases how with
          | cancelled => exact .unopened hbatches rfl rfl (by simp) h
          | raised f => exact .unopened hbatches rfl rfl (ofFault_ne_success f) h
          | returned opened =>
            cases opened with
            | error e => exact .unopened hbatches rfl rfl (by simp) h
            | ok session =>
              let opening : Visit :=
                ⟨.openSession, began, some (ended, .returned (.ok session))⟩
              have hopened : opening.opened? = some session := rfl
              obtain ⟨hquiet, hcount⟩ := quiet_of_opening (v := opening) rfl
              exact .opened hbatches hopened ((course_configure hne hquiet hcount).stopped h)

end Authorization
end DocAccess
