import DocAccess.Proofs.Authorization.Ownership
import DocAccess.Proofs.Session.Completion
import DocAccess.Proofs.Web.Answers
import Mathlib.Data.List.Forall2

/-!
# Traces of responses

Every request runs under a trace: the one in its header, or one made up for it. Every response
tells the trace in a header, and again in its body when that is a problem. The response to a fault
that no one expected is the exception: it is written outside of the layer that sets the header, so
that only its body tells the trace, and in debug mode, where the body is a page, nothing does. A
request has a response unless a call goes on forever.

## Main definitions

* `Service.Traces` — a trace is that of a request.
* `Service.Traced` — where a response tells its trace.
* `Service.Answered` — a request with its response, if it has one.

## Main statements

* `Service.ends_job` — whatever happens in a request, its response tells its trace.
* `Service.bounded_job` — a request makes no more calls than the bound that its body sets.
* `Service.traces_of_served` — requests served side by side or in turn, their responses and traces.
-/
namespace DocAccess

/-! ## Problems among the bodies -/

namespace Problem

/-- The member of a problem document that tells the trace. -/
theorem get?_toJson_traceId (p : Problem) :
    p.toJson.get? "trace_id" = p.traceId.map Json.str := by
  rw [toJson, Json.get?_ofFields]
  cases p.errors <;> cases p.traceId <;> rfl

/-- The member of a problem document that tells its kind. -/
theorem get?_toJson_kind (p : Problem) : p.toJson.get? "type" = some (.str p.kind) := by
  rw [toJson, Json.get?_ofFields]
  rfl

/-- Documents tell their traces apart. -/
theorem traceId_of_toJson {p q : Problem} (h : p.toJson = q.toJson) : p.traceId = q.traceId := by
  have hmap : p.traceId.map Json.str = q.traceId.map Json.str := by
    rw [← get?_toJson_traceId, ← get?_toJson_traceId, h]
  refine Option.map_injective (fun s t hst => ?_) hmap
  exact Text.wellFormed.inj (Json.string.inj hst)

/-- A value without a kind is no problem. -/
theorem ne_toJson {v : Json} (h : v.get? "type" = none) (p : Problem) : v ≠ p.toJson := by
  rintro rfl
  cases h.symm.trans p.get?_toJson_kind

end Problem

/-- A header that has been set is the one that is read. -/
theorem WebResponse.header?_withHeader (r : WebResponse) (name value : String) :
    (r.withHeader name value).header? name = some value := by
  have hfree : (r.headers.filter fun h => h.1 != name).lookup name = none := by
    rw [List.lookup_eq_none_iff]
    intro h hmem
    rw [bne_comm]
    exact (List.mem_filter.mp hmem).2
  rw [header?, withHeader, List.lookup_append, hfree]
  simp

namespace Service

/-! ## What a response tells -/

/-- The trace of a request: the one in its header, or the fresh one when that is missing or
empty. -/
inductive Traces (fresh : String) (r : WebRequest) : String → Prop
  | given {trace : String} : r.header? traceHeader = some trace → trace ≠ "" → Traces fresh r trace
  | missing : r.header? traceHeader = none → Traces fresh r fresh
  | empty : r.header? traceHeader = some "" → Traces fresh r fresh

/-- The body tells a problem with the trace, or no problem at all. -/
def TracedBody (trace : String) (body : Option WebBody) : Prop :=
  ∀ p : Problem, body = some (.json p.toJson) → p.traceId = some trace

/-- The response is told by a problem of its status. -/
def ToldByProblem (response : WebResponse) : Prop :=
  ∃ p : Problem, response.body = some (.json p.toJson) ∧ p.status = response.status

/-- A response before its trace is set, to a request that no fault ended. It tells its trace in its
body when that is a problem, and every error is told by a problem, but for a page that is not
shown. -/
structure Expected (trace : String) (response : WebResponse) : Prop where
  body : TracedBody trace response.body
  problem_of_error : 400 ≤ response.status → response.status ≠ 403 → ToldByProblem response
  status_ne : response.status ≠ 500

/-- The response tells its trace in its body when that is a problem, and in a header too, except
after a fault that no one expected. Every error is told by a problem, but for a page that is not
shown, and for a fault in debug mode, which is told by a page of its own. -/
structure Traced (settings : Settings) (trace : String) (response : WebResponse) : Prop where
  header : response.header? traceHeader = if response.status = 500 then none else some trace
  body : TracedBody trace response.body
  problem_of_error : 400 ≤ response.status → response.status ≠ 403 →
    (response.status = 500 → settings.debug = false) → ToldByProblem response
  page_of_debug : response.status = 500 → settings.debug = true →
    ∃ text, response.body = some (.page text)

variable {framework : Framework} {settings : Settings} {trace : String} {r : WebRequest}

/-- The trace under which a request runs. -/
theorem traces_traceOf (fresh : String) (r : WebRequest) : Traces fresh r (traceOf fresh r) := by
  unfold traceOf
  split
  · rename_i t ht
    split
    · rename_i hempty
      subst hempty
      exact .empty ht
    · rename_i hne
      exact .given ht hne
  · rename_i hnone
    exact .missing hnone

/-- A problem with the trace tells it. -/
theorem tracedBody_of_problem {p : Problem} (h : p.traceId = some trace) :
    TracedBody trace (some (.json p.toJson)) := by
  intro q hq
  rw [← Problem.traceId_of_toJson (WebBody.json.inj (Option.some.inj hq)), h]

/-- A value without a kind is no problem. -/
theorem tracedBody_of_type {v : Json} (h : v.get? "type" = none) :
    TracedBody trace (some (.json v)) := by
  intro p hp
  exact absurd (WebBody.json.inj (Option.some.inj hp)) (Problem.ne_toJson h p)

/-- A problem under the trace, if it is not that of a fault. -/
theorem expected_problem {p : Problem} (h : p.traceId = some trace) (hstatus : p.status ≠ 500)
    (headers : List (String × String)) : Expected trace (p.response headers) where
  body := tracedBody_of_problem h
  problem_of_error _ _ := ⟨p, rfl, rfl⟩
  status_ne := hstatus

/-- JSON that is no problem. -/
theorem expected_json {v : Json} (h : v.get? "type" = none) {status : Int}
    (hstatus : status < 400 ∨ status = 403) : Expected trace (.json status [] v) where
  body := tracedBody_of_type h
  problem_of_error herror hne := by
    change 400 ≤ status at herror
    change status ≠ 403 at hne
    omega
  status_ne := by
    change status ≠ 500
    omega

/-- What is sent is the response. -/
theorem eq_of_sent {response other : WebResponse} (h : sent response = .ok other) :
    other = response := by
  unfold sent at h
  split at h
  · split at h
    · cases h
    · cases h
      rfl
  · cases h
    rfl

/-- The response to a fault. -/
theorem traced_faulted (framework : Framework) (settings : Settings) (trace : String)
    (r : WebRequest) (f : Fault) :
    Traced settings trace (faulted framework settings trace r f) := by
  unfold faulted
  by_cases hdebug : settings.debug
  · rw [if_pos hdebug]
    exact {
      header := rfl
      body := by rintro p ⟨⟩
      problem_of_error := fun _ _ hquiet => by simp [hquiet rfl] at hdebug
      page_of_debug := fun _ _ => ⟨_, rfl⟩ }
  · rw [if_neg hdebug]
    exact {
      header := rfl
      body := tracedBody_of_problem rfl
      problem_of_error := fun _ _ _ => ⟨_, rfl, rfl⟩
      page_of_debug := fun _ htrue => absurd htrue hdebug }

/-- **A request that ends in this way tells its trace.** -/
theorem traced_concluded (framework : Framework) (settings : Settings) (r : WebRequest)
    {outcome : Except Fault WebResponse}
    (h : ∀ response, outcome = .ok response → Expected trace response) :
    Traced settings trace (concluded framework settings trace r outcome) := by
  unfold concluded
  cases hsent : outcome.bind sent with
  | error f => exact traced_faulted framework settings trace r f
  | ok response =>
    obtain ⟨hbody, hproblem, hstatus⟩ : Expected trace response := by
      cases outcome with
      | error f => cases hsent
      | ok other => exact eq_of_sent hsent ▸ h other rfl
    refine ⟨?_, hbody, fun herror hshown _ => hproblem herror hshown,
      fun hfault => absurd hfault hstatus⟩
    rw [WebResponse.header?_withHeader, if_neg (by exact hstatus)]

/-! ## Every way to a response -/

/-- A request that is concluded comes to one response. -/
theorem ends_conclude {outcome : Except Fault WebResponse}
    (h : ∀ response, outcome = .ok response → Expected trace response) :
    (conclude framework settings trace r outcome).Ends (Traced settings trace) := by
  have htraced := traced_concluded framework settings r h
  obtain hend | ⟨e, hend⟩ := conclude_cases framework settings trace r outcome
  · rw [hend]
    exact .done htraced
  · rw [hend]
    exact .log (.done htraced)

/-- A request that is answered at once. -/
theorem ends_immediate {response : WebResponse} (h : Expected trace response) :
    (immediate framework settings trace r (.ok response)).program.Ends
      (Traced settings trace) := by
  change (conclude framework settings trace r (.ok response)).Ends (Traced settings trace)
  refine ends_conclude ?_
  rintro _ ⟨⟩
  exact h

/-- The page of the settings, shown or not. -/
theorem expected_configPage (settings : Settings) : Expected trace (configPage settings) := by
  unfold configPage
  split
  · exact expected_json rfl (by decide)
  · exact expected_json rfl (by decide)

/-- A page of the documentation. -/
theorem expected_docsPage (page : DocPage) : Expected trace (docsPage framework page) := by
  unfold docsPage
  cases hpage : framework.documentation page with
  | json v => exact expected_json (framework.documentation_type page v hpage) (by decide)
  | page text =>
    exact {
      body := by rintro p ⟨⟩
      problem_of_error := fun herror => absurd herror (show ¬(400 : Int) ≤ 200 by decide)
      status_ne := show (200 : Int) ≠ 500 by decide }

/-- The response to a body that is not accepted. -/
theorem expected_bodyResponse (e : BodyError) :
    Expected trace (bodyResponse (context settings trace r) e) := by
  cases e with
  | unreadable => exact expected_problem rfl (show (400 : Int) ≠ 500 by decide) []
  | invalid issues => exact expected_problem rfl (show (422 : Int) ≠ 500 by decide) []

/-- The response to a path without a page. -/
theorem expected_missingPage :
    Expected trace (missingPage (context settings trace r) r) := by
  unfold missingPage
  simp only
  split
  · exact {
      body := by rintro p ⟨⟩
      problem_of_error := fun herror => absurd herror (show ¬(400 : Int) ≤ 307 by decide)
      status_ne := show (307 : Int) ≠ 500 by decide }
  · exact expected_problem rfl (show (404 : Int) ≠ 500 by decide) []

/-- The response to a check that no fault ended. -/
theorem expected_checkResponse (outcome : Except ApplicationError AccessCheck) :
    Expected trace (checkResponse (context settings trace r) outcome) := by
  cases outcome with
  | ok check => exact expected_json rfl (by decide)
  | error e =>
    refine expected_problem rfl ?_ []
    change Problem.statusOf e.code ≠ 500
    cases e.code <;> decide

/-- **Whatever happens in a request, its response tells its trace.** -/
theorem ends_job (framework : Framework) (settings : Settings) (repository : String)
    (ids : FreshIds) (r : WebRequest) :
    (job framework settings repository ids r).program.Ends
      (Traced settings (traceOf ids.traceId r)) := by
  unfold job
  simp only
  split
  · exact ends_immediate expected_missingPage
  · split
    · split
      · exact ends_immediate (expected_docsPage _)
      · exact ends_immediate (expected_json rfl (by decide))
      · exact ends_immediate (expected_json rfl (by decide))
      · exact ends_immediate (expected_configPage settings)
      · split
        · exact ends_immediate (expected_bodyResponse _)
        · split
          · change (conclude framework settings _ r (.error _)).Ends _
            refine ends_conclude ?_
            rintro _ ⟨⟩
          · refine .bind _ fun outcome => ends_conclude ?_
            intro response hresponse
            cases outcome with
            | error f => cases hresponse
            | ok result =>
              cases hresponse
              exact expected_checkResponse result
    · exact ends_immediate (expected_problem rfl (show (405 : Int) ≠ 500 by decide) _)

/-! ## Requests that are served -/

/-- A request that is answered at once makes no call. -/
theorem bounded_immediate (k : Nat) (outcome : Except Fault WebResponse) :
    (immediate framework settings trace r outcome).program.Bounded (fun _ => True) k := by
  rw [immediate]
  obtain hend | ⟨e, hend⟩ := conclude_cases framework settings trace r outcome
  · rw [hend]
    exact .done _
  · rw [hend]
    exact .log (.done _)

/-- A check makes at most four calls more than there are documents: neither its report nor its
conclusion makes any. -/
theorem bounded_checkJob (framework : Framework) (settings : Settings) (repository : String)
    (ids : FreshIds) (trace : String) (r : WebRequest) (check : CheckRequest) :
    (checkJob framework settings repository ids trace r check).program.Bounded (fun _ => True)
      (check.docIds.length + 4) := by
  refine .bind (l := 0) (.bind (l := 0) ?_ fun outcome => ?_) fun yielded => ?_
  · exact Authorization.bounded_program _ (check.authorization _ _)
  · rcases outcome with f | e | d
    · exact .done _
    · exact .log (.done _)
    · exact .done _
  · exact bounded_immediate 0 (yielded.map _)

/-- **A request makes no more calls than the bound that its body sets.** -/
theorem bounded_job (framework : Framework) (settings : Settings) (repository : String)
    (ids : FreshIds) (r : WebRequest) :
    (job framework settings repository ids r).program.Bounded (fun _ => True) (callBound r) := by
  unfold job
  simp only
  split
  · exact bounded_immediate _ _
  · split
    · split
      · exact bounded_immediate _ _
      · exact bounded_immediate _ _
      · exact bounded_immediate _ _
      · exact bounded_immediate _ _
      · split
        · exact bounded_immediate _ _
        · rename_i form hform
          split
          · exact bounded_immediate _ _
          · rename_i check hcheck
            obtain ⟨i, -, rfl⟩ := Option.map_eq_some_iff.mp hcheck
            refine (bounded_checkJob framework settings repository ids _ r _).mono ?_
            rw [List.length_map]
            exact Nat.add_le_add_right (WebRequest.length_docIds_le hform) 4
    · exact bounded_immediate _ _

section Served

variable {σ γ : Type} {jobOf : γ → Job WebResponse} {P : γ → WebResponse → Prop}

/-- The answer has the property, and is missing only when a call goes on forever. -/
structure Answered (repository : Repository σ) (P : γ → WebResponse → Prop) (x : γ)
    (answer : Option WebResponse) : Prop where
  response : ∀ response, answer = some response → P x response
  missing : answer = none → repository.Endless

/-- In turn each job is answered by the result of its run. -/
theorem answered_inTurn (h : ∀ x, (jobOf x).program.Ends (P x)) (repository : Repository σ) (w : σ)
    (asked : List γ) :
    List.Forall₂ (Answered repository P) asked
      (serveInTurn repository w (asked.map jobOf)).responses := by
  induction asked using List.reverseRecOn with
  | nil => exact .nil
  | append_singleton asked x ih =>
    rw [serveInTurn, List.map_append, List.zipIdx_append, List.foldl_append]
    refine List.rel_append ih (.cons ⟨fun response hresponse => ?_, fun hnone => ?_⟩ .nil)
    · exact (h x).of_run repository hresponse
    · exact (jobOf x).endless_of_none hnone

/-- Side by side each job is answered by its result, known by its number. -/
theorem answered_together {bound : γ → Nat} (h : ∀ x, (jobOf x).program.Ends (P x))
    (hbound : ∀ x, (jobOf x).program.Bounded (fun _ => True) (bound x)) (repository : Repository σ)
    (w : σ) (asked : List γ) :
    List.Forall₂ (Answered repository P) asked
      (serveTogether repository w (asked.map bound).sum (asked.map jobOf)).responses := by
  let s := Schedule.run repository (asked.map bound).sum w (asked.map jobOf)
  have hresponses : (serveTogether repository w (asked.map bound).sum (asked.map jobOf)).responses =
      (List.range asked.length).map s.result? := by
    rw [serveTogether, List.length_map]
  rw [hresponses]
  refine List.forall₂_iff_get.mpr ⟨by simp, fun n hn _ => ?_⟩
  rw [List.get_eq_getElem, List.get_eq_getElem, List.getElem_map, List.getElem_range]
  constructor
  · intro response hresult
    have hjobs : ∀ (m : Nat) (job : Job WebResponse), (asked.map jobOf)[m]? = some job →
        job.program.Ends fun response => ∀ x, asked[m]? = some x → P x response := by
      intro m job hjob
      obtain ⟨x, hx, rfl⟩ := Option.map_eq_some_iff.mp (List.getElem?_map .. ▸ hjob)
      refine (h x).mono fun response hresponse y hy => ?_
      cases hx.symm.trans hy
      exact hresponse
    exact Schedule.result?_run repository _ w hjobs hresult _ (List.getElem?_eq_getElem hn)
  · exact Schedule.endless_of_result?_eq_none hbound w asked (Nat.le_refl _) hn

end Served

/-- **The traces of requests that are served**, side by side or in turn, over any repository:
unless some call of it goes on forever, each of them has a response, and each response tells its
trace. -/
theorem traces_of_served {σ : Type} (framework : Framework) (settings : Settings)
    (repository : Repository σ) (w : σ) (together : Bool)
    (requests : List (WebRequest × FreshIds)) :
    List.Forall₂
      (Answered repository fun request response =>
        ∃ trace, Traces request.2.traceId request.1 trace ∧ Traced settings trace response)
      requests (serve framework settings repository w together requests).responses := by
  have hends : ∀ request : WebRequest × FreshIds,
      (job framework settings repository.name request.2 request.1).program.Ends fun response =>
        ∃ trace, Traces request.2.traceId request.1 trace ∧ Traced settings trace response := by
    intro request
    refine (ends_job framework settings repository.name request.2 request.1).mono
      fun response htraced => ?_
    exact ⟨_, traces_traceOf _ _, htraced⟩
  cases together with
  | true =>
    have hwaits : requests.foldl (fun n request => n + callBound request.1) 0 =
        (requests.map fun request => callBound request.1).sum := by
      rw [List.sum_eq_foldl, List.foldl_map]
    have hanswered := answered_together hends
      (fun request => bounded_job framework settings repository.name request.2 request.1) repository
      w requests
    rwa [← hwaits] at hanswered
  | false => exact answered_inTurn hends repository w requests

/-- Settings with a number that JSON cannot hold. -/
def endlessSettings : Settings :=
  { plainSettings with repositoryTimeout := .infinite false }

/-- A request for the settings, under a trace of its own. -/
def configRequest : WebRequest where
  method := "GET"
  target := "/config"
  headers := [("X-Trace-Id", "t")]
  body := []

/-- **After a fault that no one expected the trace is in no header**, though the request has
one. -/
theorem fault_leaves_header_out :
    (serve plainFramework endlessSettings (showingOne.repository "scripted") [] false
        [(configRequest, ⟨"fresh", "q"⟩)]).responses.map
      (Option.map fun response => (response.status, response.header? traceHeader)) =
        [some (500, none)] ∧
      configRequest.header? traceHeader = some "t" := by
  decide +kernel

end Service
end DocAccess
