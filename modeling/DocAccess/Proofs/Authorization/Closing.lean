import DocAccess.Proofs.Authorization.Course
import DocAccess.Proofs.Session.Twins

/-!
# Closing and the outcome

What closing a session does has a part in the outcome of a request in one case only: when the
deadline expires while the session is being closed. Then the request fails as late, whatever it
had come to; otherwise closing may wait, return or raise as it likes. Both are said of two
repositories that differ in closing only, so that the other one tells what the outcome would have
been.

## Main definitions

* `closingCut` — time ran out while a session was being closed.

## Main statements

* `twins_of_course` — a request on its session stops alike over both repositories.
* `outcome_despite_closing` — what closing has to do with the outcome.
-/
namespace DocAccess

/-- Whether a call closes a session. -/
def Call.isClosing : Call → Bool
  | closeSession _ => true
  | _ => false

/-- Whether time ran out while a session was being closed. -/
def closingCut (visits : List Visit) : Bool := visits.any fun v => v.call.isClosing && v.cancelled

@[simp] theorem closingCut_append (us vs : List Visit) :
    closingCut (us ++ vs) = (closingCut us || closingCut vs) := List.any_append

@[simp] theorem closingCut_singleton (v : Visit) :
    closingCut [v] = (v.call.isClosing && v.cancelled) := by simp [closingCut]

/-- Without a closing none is cut off. -/
theorem closingCut_eq_false {visits : List Visit} (h : ∀ v ∈ visits, v.call.isClosing = false) :
    closingCut visits = false := by
  rw [closingCut, List.any_eq_false]
  intro v hv
  simp [h v hv]

namespace Authorization

variable {σ τ : Type} {first : Repository σ} {second : Repository τ} {rel : σ → τ → Prop}
  {policy : AuthorizationPolicy} {request : AuthorizationRequest} {session : Session}

/-- Work on a session does not close one. -/
theorem Works.isClosing_eq_false {c : Call} (h : Works request session c) :
    c.isClosing = false := by
  cases h <;> rfl

/-- **A request on its session stops alike over both repositories**, or goes on forever over
both. -/
theorem twins_of_course {before : List Visit} {p : Program AuthorizationOutcome}
    (h : Course policy request session before p) (halike : first.Twins second rel)
    (deadline : Option Int) (now : Nat) {w : σ} {v : τ} (hrel : rel w v) :
    ((p.run first deadline now w).result = none ∧
      (p.run second deadline now v).result = none) ∨
    ∃ (works : List Visit) (ending : Ending) (left : Option Int) (clock : Nat) (w' : σ) (v' : τ),
      (∀ u ∈ works, Works request session u.call) ∧
      p.Reaches first deadline now w works
        (close policy request session (.after (before ++ works)) ending) left clock w' ∧
      p.Reaches second deadline now v works
        (close policy request session (.after (before ++ works)) ending) left clock v' := by
  -- The worlds belong together until the course comes to its closing; the deadline that is left
  -- changes with every cancelled call.
  induction h generalizing deadline now w v with
  | @log _ e _ _ _ ih =>
    rcases ih deadline now hrel with hnone | ⟨works, ending, left, clock, w', v', hon, hw, hv⟩
    · exact .inl hnone
    · exact .inr ⟨works, ending, left, clock, w', v', hon, hw.log e, hv.log e⟩
  | @work before c next hc _ ih =>
    rcases halike.call hc.ne_closeSession next deadline now hrel with
      hnone | ⟨ended, how, left, w', v', hrel', hw, hv⟩
    · exact .inl hnone
    · rcases ih now ended how left ended hrel' with
        hnone | ⟨works, ending, left', clock, w'', v'', hon, hw', hv'⟩
      · exact .inl ⟨hw.result.trans hnone.1, hv.result.trans hnone.2⟩
      · rw [List.append_assoc] at hw' hv'
        exact .inr ⟨_ :: works, ending, left', clock, w'', v'', List.forall_mem_cons.mpr ⟨hc, hon⟩,
          hw.trans hw', hv.trans hv'⟩
  | @close before ending _ =>
    refine .inr ⟨[], ending, deadline, now, w, v, by simp, ?_, ?_⟩
    · rw [List.append_nil]
      exact .refl
    · rw [List.append_nil]
      exact .refl

/-- The visits close a session after others, on which a request had come to an ending, and the
result is what this settles to. -/
def ClosedOn (policy : AuthorizationPolicy) (request : AuthorizationRequest) (before : List Visit)
    (ending : Ending) (visits : List Visit) (result : Option AuthorizationOutcome) : Prop :=
  ∃ closing, visits = before ++ [closing] ∧ closing.call.isClosing = true ∧
    result = some (settled policy request (.after before) (ending.closedBy closing))

/-- A run that comes to the closing of its session and ends has closed it on its ending. -/
theorem closedOn_of_reaches {repository : Repository σ} {p : Program AuthorizationOutcome}
    {deadline left : Option Int} {now clock : Nat} {w w' : σ} {before works : List Visit}
    {ending : Ending}
    (h : p.Reaches repository deadline now w works
      (close policy request session (.after (before ++ works)) ending) left clock w')
    (hended : (p.run repository deadline now w).result ≠ none) :
    ClosedOn policy request (before ++ works) ending
      (before ++ (p.trail repository deadline now w).visits)
      (p.run repository deadline now w).result := by
  have hpath := Program.path_trail repository
    (close policy request session (.after (before ++ works)) ending) left clock w'
  rw [← h.result] at hpath
  obtain ⟨outcome, houtcome⟩ := Option.ne_none_iff_exists'.mp hended
  rw [houtcome] at hpath ⊢
  obtain ⟨closing, -, rest, hvisits, hcall, -, -, hsettles⟩ := settles_of_close hpath
  refine ⟨closing, ?_, by rw [hcall]; rfl, by rw [eq_of_settle hsettles]⟩
  rw [h.visits, hvisits, List.append_assoc]

/-- A run that has closed its session was cut off while closing it, and has failed as late; or it
has come out as it had stopped. -/
theorem ClosedOn.outcome {before visits : List Visit} {ending : Ending}
    {result : Option AuthorizationOutcome} (h : ClosedOn policy request before ending visits result)
    (hbefore : closingCut before = false) :
    queriesIn visits = queriesIn before ∧
    (closingCut visits = false → result = some (settled policy request (.after before) ending)) ∧
    (closingCut visits = true → result = some (lateOutcome policy request (queriesIn visits))) := by
  obtain ⟨closing, rfl, hcall, hresult⟩ := h
  have hcut : closingCut (before ++ [closing]) = closing.cancelled := by
    simp [hbefore, hcall]
  have hquiet : closing.call.isQuery = false := by
    cases hc : closing.call <;> simp_all [Call.isClosing, Call.isQuery]
  have hcount : queriesIn (before ++ [closing]) = queriesIn before := by
    simp [hquiet]
  rw [hcut, hcount]
  refine ⟨rfl, fun hfree => ?_, fun hlate => ?_⟩
  · rw [hresult, Ending.closedBy, hfree]
    rfl
  · rw [hresult, Ending.closedBy, hlate]
    rfl

/-- Two requests stop alike: they close no session and come out alike, or they close their
sessions on the same ending. -/
def StopAlike (policy : AuthorizationPolicy) (request : AuthorizationRequest)
    (visits visits' : List Visit) (result result' : Option AuthorizationOutcome) : Prop :=
  (visits = visits' ∧ result = result' ∧ closingCut visits = false) ∨
  ∃ (before : List Visit) (ending : Ending), closingCut before = false ∧
    ClosedOn policy request before ending visits result ∧
    ClosedOn policy request before ending visits' result'

/-- Settling a request has its outcome over every repository. -/
theorem result_settle (repository : Repository σ) (p : Progress) (ending : Ending)
    (deadline : Option Int) (now : Nat) (w : σ) :
    ((settle policy request p ending).run repository deadline now w).result =
      some (settled policy request p ending) := by
  cases ending with
  | raised f => rfl
  | expired => rfl
  | finished result => cases result <;> rfl

/-- Requests for documents over repositories that differ in closing only stop alike once they
have announced themselves. -/
theorem stopAlike_openSession (halike : first.Twins second rel) (hne : request.docIds ≠ [])
    (deadline : Option Int) (now : Nat) {w : σ} {v : τ} (hrel : rel w v)
    (hfirst : ((openSession policy request).run first deadline now w).result ≠ none)
    (hsecond : ((openSession policy request).run second deadline now v).result ≠ none) :
    StopAlike policy request ((openSession policy request).trail first deadline now w).visits
      ((openSession policy request).trail second deadline now v).visits
      ((openSession policy request).run first deadline now w).result
      ((openSession policy request).run second deadline now v).result := by
  rcases halike.call (c := .openSession) (by simp) _ deadline now hrel with
    hnone | ⟨ended, how, left, w', v', hrel', hw, hv⟩
  · exact absurd hnone.1 hfirst
  · change (openSession policy request).Reaches first deadline now w _ _ _ _ _ at hw
    change (openSession policy request).Reaches second deadline now v _ _ _ _ _ at hv
    let opening : Visit := ⟨.openSession, now, some (ended, how)⟩
    have hopening : closingCut [opening] = false := by simp [opening, Call.isClosing]
    -- Without a session there is nothing to close.
    have hsettle : ∀ ending : Ending,
        (openSession policy request).Reaches first deadline now w [opening]
          (settle policy request .sessionOpening ending) left ended w' →
        (openSession policy request).Reaches second deadline now v [opening]
          (settle policy request .sessionOpening ending) left ended v' →
        StopAlike policy request ((openSession policy request).trail first deadline now w).visits
          ((openSession policy request).trail second deadline now v).visits
          ((openSession policy request).run first deadline now w).result
          ((openSession policy request).run second deadline now v).result := by
      intro ending hw hv
      refine .inl ⟨?_, ?_, ?_⟩
      · rw [hw.visits, hv.visits, visits_settle (Program.path_trail first _ _ _ _),
          visits_settle (Program.path_trail second _ _ _ _)]
      · rw [hw.result, hv.result, result_settle, result_settle]
      · rw [hw.visits, visits_settle (Program.path_trail first _ _ _ _), List.append_nil]
        exact hopening
    cases how with
    | cancelled => exact hsettle _ hw hv
    | raised f => exact hsettle _ hw hv
    | returned answer =>
      cases answer with
      | error e => exact hsettle _ hw hv
      | ok session =>
        obtain ⟨hquiet, hcount⟩ := quiet_of_opening (v := opening) rfl
        have hcourse : Course policy request session [opening]
            (configure policy request session) := course_configure hne hquiet hcount
        rw [hw.result] at hfirst
        rw [hv.result] at hsecond
        rcases twins_of_course hcourse halike left ended hrel' with
          hnone | ⟨works, ending, left', clock, w'', v'', hon, hw', hv'⟩
        · exact absurd hnone.1 hfirst
        · refine .inr ⟨[opening] ++ works, ending, ?_, ?_, ?_⟩
          · rw [closingCut_append, hopening,
              closingCut_eq_false fun u hu => (hon u hu).isClosing_eq_false]
            rfl
          · rw [hw.result, hw.visits]
            exact closedOn_of_reaches hw' hfirst
          · rw [hv.result, hv.visits]
            exact closedOn_of_reaches hv' hsecond

/-- Requests for documents over repositories that differ in closing only stop alike. -/
theorem stopAlike_program (halike : first.Twins second rel) (hne : request.docIds ≠ [])
    (deadline : Option Int) (now : Nat) {w : σ} {v : τ} (hrel : rel w v)
    (hfirst : ((program policy request).run first deadline now w).result ≠ none)
    (hsecond : ((program policy request).run second deadline now v).result ≠ none) :
    StopAlike policy request ((program policy request).trail first deadline now w).visits
      ((program policy request).trail second deadline now v).visits
      ((program policy request).run first deadline now w).result
      ((program policy request).run second deadline now v).result := by
  simp only [program, List.isEmpty_iff, hne, if_false] at hfirst hsecond ⊢
  cases hbatches : batchCount request.docIds.length policy.batchCap with
  | none => exact .inl ⟨rfl, rfl, rfl⟩
  | some batches =>
    simp only [hbatches] at hfirst hsecond
    cases hd : deadlineOverflows request with
    | true => exact .inl ⟨rfl, rfl, rfl⟩
    | false =>
      simp only [hd] at hfirst hsecond
      exact stopAlike_openSession halike hne deadline now hrel hfirst hsecond

/-- **What closing has to do with the outcome.** Over repositories that differ in closing only a
request for documents that ends makes as many queries. Unless time runs out while a session is
being closed, the outcome is the same over both; if it does, the request fails as late. -/
theorem outcome_despite_closing (halike : first.Twins second rel) (policy : AuthorizationPolicy)
    (request : AuthorizationRequest) (hne : request.docIds ≠ []) (now : Nat) {w : σ} {v : τ}
    (hrel : rel w v) (hfirst : ((job policy request).run first now w).result ≠ none)
    (hsecond : ((job policy request).run second now v).result ≠ none) :
    let one := (job policy request).run first now w
    let other := (job policy request).run second now v
    let cut := closingCut ((job policy request).trail first now w).visits
    let otherCut := closingCut ((job policy request).trail second now v).visits
    one.queries = other.queries ∧
    (cut = false → otherCut = false → one.result = other.result) ∧
    (cut = true → one.result = some (lateOutcome policy request one.queries)) ∧
    (otherCut = true → other.result = some (lateOutcome policy request other.queries)) := by
  intro one other cut otherCut
  have hone : one.queries = queriesIn ((job policy request).trail first now w).visits :=
    Program.queries_run first _ _ now w
  have hother : other.queries = queriesIn ((job policy request).trail second now v).visits :=
    Program.queries_run second _ _ now v
  rw [hone, hother]
  rcases stopAlike_program halike hne _ now hrel hfirst hsecond with
    ⟨hvisits, hresult, hfree⟩ | ⟨before, ending, hbefore, hclosed, hclosed'⟩
  · have huncut : cut = false := hfree
    have hotherUncut : otherCut = false := (congrArg closingCut hvisits).symm.trans hfree
    refine ⟨congrArg queriesIn hvisits, fun _ _ => hresult, fun hcut => ?_, fun hcut => ?_⟩
    · exact absurd hcut (by simp [huncut])
    · exact absurd hcut (by simp [hotherUncut])
  · obtain ⟨hcount, hin, hlate⟩ := hclosed.outcome hbefore
    obtain ⟨hcount', hin', hlate'⟩ := hclosed'.outcome hbefore
    refine ⟨hcount.trans hcount'.symm, fun hcut hcut' => ?_, hlate, hlate'⟩
    exact (hin hcut).trans (hin' hcut').symm

/-- The script `slowClosing`, but closing a session does not wait. -/
def quickClosing : Script := { slowClosing with closing := .plain }

/-- A policy of batches of `cap`. -/
def inBatches (cap : Int) : AuthorizationPolicy := ⟨"scripted", none, cap, false⟩

/-- A request that is cut off after five units of the clock. -/
def cutRequest (docIds : List Text) : AuthorizationRequest :=
  ⟨docIds, ⟨"u", none⟩, some (.real (.finite false 5)), none⟩

/-- Its run over a script. -/
def cutRun (script : Script) (cap : Int) (docIds : List Text) :
    Run ScriptState AuthorizationOutcome :=
  (job (inBatches cap) (cutRequest docIds)).run (script.repository "scripted") 0 []

/-- The calls of that run. -/
def cutVisits (script : Script) (cap : Int) (docIds : List Text) : List Visit :=
  ((job (inBatches cap) (cutRequest docIds)).trail (script.repository "scripted") 0 []).visits

/-- Over `slowClosing` time runs out while the session is being closed: the request fails as late
after both of its queries. -/
theorem outcome_despite_slow_closing :
    (slowClosing.repository "scripted").Twins (quickClosing.repository "scripted") Eq ∧
      (cutRequest ["a", "b", "c"]).docIds ≠ [] ∧
      (cutRun slowClosing 2 ["a", "b", "c"]).result =
        some (lateOutcome (inBatches 2) (cutRequest ["a", "b", "c"]) 2) ∧
      (cutRun quickClosing 2 ["a", "b", "c"]).queries = 2 := by
  have htwins := slowClosing.twins .plain "scripted"
  have hslow : (cutRun slowClosing 2 ["a", "b", "c"]).result.isSome = true := by decide +kernel
  have hquick : (cutRun quickClosing 2 ["a", "b", "c"]).result.isSome = true := by decide +kernel
  have hqueries : (cutRun slowClosing 2 ["a", "b", "c"]).queries = 2 := by decide +kernel
  have hcut : closingCut (cutVisits slowClosing 2 ["a", "b", "c"]) = true := by decide +kernel
  obtain ⟨hcount, -, hlate, -⟩ := outcome_despite_closing htwins (inBatches 2)
    (cutRequest ["a", "b", "c"]) (by decide) 0 rfl (Option.isSome_iff_ne_none.mp hslow)
    (Option.isSome_iff_ne_none.mp hquick)
  refine ⟨htwins, by decide, ?_, hcount.symm.trans hqueries⟩
  exact (hlate hcut).trans (congrArg (fun n => some (lateOutcome _ _ n)) hqueries)

/-- **Closing decides a request.** Both scripts differ in closing only, and no call but the closing
is cut off; the documents that are granted over the one are refused over the other. -/
theorem closing_decides :
    (slowClosing.repository "scripted").Twins (quickClosing.repository "scripted") Eq ∧
      (∀ v ∈ cutVisits slowClosing 2 ["a", "b", "c"], v.cancelled = true →
        v.call.isClosing = true) ∧
      (∀ v ∈ cutVisits quickClosing 2 ["a", "b", "c"], v.cancelled = false) ∧
      (cutRun quickClosing 2 ["a", "b", "c"]).result = some (.ok (.ok ⟨["a", "c"]⟩)) ∧
      ∃ e : RepositoryError,
        (cutRun slowClosing 2 ["a", "b", "c"]).result = some (.ok (.error e)) := by
  have hgranted : granted? (cutRun quickClosing 2 ["a", "b", "c"]) = some ⟨["a", "c"]⟩ := by
    decide +kernel
  have hfailed : (failure? (cutRun slowClosing 2 ["a", "b", "c"])).isSome = true := by
    decide +kernel
  obtain ⟨e, he⟩ := Option.isSome_iff_exists.mp hfailed
  refine ⟨slowClosing.twins .plain "scripted", by decide +kernel, by decide +kernel,
    result_of_granted? hgranted, e, result_of_failure? he⟩

end Authorization
end DocAccess
