import DocAccess.Proofs.Authorization.Outcome
import DocAccess.Proofs.Json.Sending
import DocAccess.Proofs.Session.Turns
import DocAccess.Proofs.Web.Request
import DocAccess.Repository.Memory
import DocAccess.Repository.Scripted
import DocAccess.Web.Service

/-!
# Answers to access checks

What the service answers when the authorization behind a check has a result. A success is answered
with all of its documents, and nothing else is; every failure is answered with a problem whose
status tells its kind, and which names no document. A failure whose message cannot be sent is the
exception: it is answered as a fault that no one expected.

## Main definitions

* `Grants` — a response that grants documents.
* `Denies` — a response that tells a failure.
* `Withholds` — a response that tells nothing of a failure.

## Main statements

* `result_of_checkJob` — a check ends as its authorization does.
* `answer_of_result` — the response to an access check whose authorization has a result.
-/
namespace DocAccess

/-! ## Members of objects -/

/-- The member of an object with well-formed keys. -/
theorem Json.get?_ofFields (fields : List (String × Json)) (name : String) :
    (Json.ofFields fields).get? name = fields.lookup name := by
  simp only [Json.ofFields, Json.get?, Json.lookup]
  induction fields with
  | nil => rfl
  | cons field fields ih =>
    obtain ⟨key, value⟩ := field
    by_cases h : key = name
    · simp [h]
    · have hkey : (name == key) = false := beq_eq_false_iff_ne.mpr (Ne.symm h)
      rw [List.map_cons, List.find?_cons_of_neg (by simpa using h), ih, List.lookup_cons, hkey]

/-! ## What a response tells -/

/-- The response grants documents of those that were requested. -/
structure Grants (requested : List Text) (docs : AuthorizedDocuments) (status : Int)
    (body : Json) : Prop where
  status_eq : status = 200
  requested_ids : docs.docIds.Sublist requested
  authorized_ids : body.get? "authorized_doc_ids" = some (.array (docs.docIds.map .string))
  requested_count : body.get? "requested_count" = some (.int requested.length)
  authorized_count : body.get? "authorized_count" = some (.int docs.docIds.length)
  decisions : body.get? "decisions" = some (.array (docs.docIds.map fun id =>
    .ofFields [("doc_id", .string id), ("is_authorized", .bool true)]))

/-- The response tells a failure and names no document. -/
structure Denies (e : RepositoryError) (status : Int) (body : Json) : Prop where
  status_mem : status ∈ [401, 502, 504]
  unauthorized_iff : status = 401 ↔ ∃ username, e.kind = .authentication username
  timeout_iff : status = 504 ↔ e.isDeadlineExceeded = true
  status_told : body.get? "status" = some (.int status)
  detail : body.get? "detail" = some (.string e.message)
  no_ids : body.get? "authorized_doc_ids" = none
  no_decisions : body.get? "decisions" = none

/-- The response tells that there was a fault, and names no document. -/
structure Withholds (response : WebResponse) : Prop where
  status_eq : response.status = 500
  no_ids : ∀ body, response.body = some (.json body) → body.get? "authorized_doc_ids" = none
  no_decisions : ∀ body, response.body = some (.json body) → body.get? "decisions" = none

/-- How a check is answered whose authorization has the result: a success with its documents, a
failure with a problem that tells it, or with nothing of it when its message cannot be sent. -/
structure Answers (requested : List Text) (result : AuthorizationResult)
    (response : WebResponse) : Prop where
  granted : ∀ docs, result = .ok docs → ∃ body, response.body = some (.json body) ∧
    Grants requested docs response.status body
  denied : ∀ e, result = .error e → (∃ s, e.message = .wellFormed s) →
    ∃ body, response.body = some (.json body) ∧ Denies e response.status body
  withheld : ∀ e, result = .error e → (¬∃ s, e.message = .wellFormed s) → Withholds response
  ok_iff : response.status = 200 ↔ ∃ docs, result = .ok docs

/-- A failure is not answered with a success. -/
theorem Denies.status_ne {e : RepositoryError} {status : Int} {body : Json}
    (h : Denies e status body) : status ≠ 200 := by
  rintro rfl
  exact absurd h.status_mem (by decide)

/-- The body of a check grants its documents. -/
theorem grants_checkBody {requested : List Text} {docs : AuthorizedDocuments}
    (h : docs.docIds.Sublist requested) (requestId : String) :
    Grants requested docs 200
      (Service.checkBody ⟨requestId, docs.docIds, requested.length, docs.decisions⟩) := by
  refine ⟨rfl, h, ?_, ?_, ?_, ?_⟩
  · rw [Service.checkBody, Json.get?_ofFields]
    rfl
  · rw [Service.checkBody, Json.get?_ofFields]
    rfl
  · rw [Service.checkBody, Json.get?_ofFields]
    rfl
  · rw [Service.checkBody, Json.get?_ofFields, AuthorizedDocuments.decisions, List.map_map]
    rfl

/-- The status of the error for a failure tells its kind. -/
theorem statusOf_codeOf (e : RepositoryError) :
    Problem.statusOf (ApplicationError.codeOf e.kind) ∈ [401, 502, 504] ∧
    (Problem.statusOf (ApplicationError.codeOf e.kind) = 401 ↔
      ∃ username, e.kind = .authentication username) ∧
    (Problem.statusOf (ApplicationError.codeOf e.kind) = 504 ↔ e.isDeadlineExceeded = true) := by
  unfold RepositoryError.isDeadlineExceeded
  cases e.kind with
  | plain => simp [ApplicationError.codeOf, Problem.statusOf]
  | connection => simp [ApplicationError.codeOf, Problem.statusOf]
  | authentication username => simp [ApplicationError.codeOf, Problem.statusOf]
  | query index late => cases late <;> simp [ApplicationError.codeOf, Problem.statusOf]

/-- The problem of the error for a failure tells it. -/
theorem denies_ofError (c : Problem.Context) (e : RepositoryError) :
    Denies e (Problem.statusOf (ApplicationError.codeOf e.kind))
      (Problem.ofError c (ApplicationError.codeOf e.kind) e.message).toJson := by
  obtain ⟨hmem, hunauthorized, htimeout⟩ := statusOf_codeOf e
  obtain ⟨apiBaseUrl, path, traceId⟩ := c
  refine ⟨hmem, hunauthorized, htimeout, ?_, ?_, ?_, ?_⟩
  all_goals
    rw [Problem.toJson, Json.get?_ofFields]
    cases traceId <;> rfl

/-- A problem that is answered with a fault's status alone names no document. -/
theorem withholds_unexpected (c : Problem.Context) :
    Withholds ((Problem.unexpected c).response []) := by
  obtain ⟨apiBaseUrl, path, traceId⟩ := c
  refine ⟨rfl, ?_, ?_⟩
  all_goals
    rintro body ⟨⟩
    rw [Problem.toJson, Json.get?_ofFields]
    cases traceId <;> rfl

/-! ## Bodies that can be sent -/

/-- An error of a field can be sent. -/
theorem FieldError.plain_toJson (e : FieldError) : e.toJson.Plain := by simp [toJson]

/-- A problem can be sent when its detail can be. -/
theorem Problem.plain_toJson_iff (p : Problem) :
    p.toJson.Plain ↔ ∃ s, p.detail = .wellFormed s := by
  rw [toJson, Json.plain_ofFields]
  cases p.errors <;> cases p.traceId <;> simp [FieldError.plain_toJson]

/-- What a check grants can be sent when the documents can be. -/
theorem Service.plain_checkBody {c : AccessCheck}
    (hids : ∀ id ∈ c.authorizedDocIds, ∃ s, id = .wellFormed s)
    (hdecisions : ∀ d ∈ c.decisions, ∃ s, d.docId = .wellFormed s) :
    (Service.checkBody c).Plain := by
  simpa [Service.checkBody] using ⟨hids, hdecisions⟩

/-! ## From an authorization to its response -/

/-- What a check yields for the outcome of its authorization. -/
def CheckRequest.outcome (r : CheckRequest) (requestId : String) :
    AuthorizationOutcome → CheckOutcome
  | .error f => .error f
  | .ok (.error e) => .ok (.error (.ofFailure e))
  | .ok (.ok d) => .ok (.ok ⟨requestId, d.docIds, r.docIds.length, d.decisions⟩)

/-- A check makes no call once its authorization has ended. -/
theorem CheckRequest.result?_report (r : CheckRequest) (requestId : String)
    (outcome : AuthorizationOutcome) :
    (r.report requestId outcome).result? = some (r.outcome requestId outcome) := by
  rcases outcome with f | e | d <;> rfl

namespace Service

variable (framework : Framework) (settings : Settings)

/-- The response to a fault that no one expected. -/
def faulted (trace : String) (r : WebRequest) (f : Fault) : WebResponse :=
  if settings.debug then debugPage framework r f
  else (Problem.unexpected (context settings trace r)).response []

/-- The response that ends a request. -/
def concluded (trace : String) (r : WebRequest) (outcome : Except Fault WebResponse) :
    WebResponse :=
  match outcome.bind sent with
  | .ok response => response.withHeader traceHeader trace
  | .error f => faulted framework settings trace r f

/-- Concluding a request logs at most one event, and comes to its response. -/
theorem conclude_cases (trace : String) (r : WebRequest) (outcome : Except Fault WebResponse) :
    conclude framework settings trace r outcome =
        .done (concluded framework settings trace r outcome) ∨
      ∃ e, conclude framework settings trace r outcome =
        .log e (.done (concluded framework settings trace r outcome)) := by
  unfold conclude concluded
  cases outcome.bind sent with
  | ok response => exact .inl rfl
  | error f =>
    simp only [faulted]
    split
    · exact .inl rfl
    · exact .inr ⟨_, rfl⟩

/-- A request makes no call once it is concluded. -/
theorem result?_conclude (trace : String) (r : WebRequest) (outcome : Except Fault WebResponse) :
    (conclude framework settings trace r outcome).result? =
      some (concluded framework settings trace r outcome) := by
  obtain h | ⟨e, h⟩ := conclude_cases framework settings trace r outcome
  · rw [h]
    rfl
  · rw [h]
    rfl

/-- A fault names no document. -/
theorem withholds_faulted (trace : String) (r : WebRequest) (f : Fault) :
    Withholds (faulted framework settings trace r f) := by
  unfold faulted
  split
  · exact ⟨rfl, (by rintro _ ⟨⟩), (by rintro _ ⟨⟩)⟩
  · exact withholds_unexpected _

/-- JSON is sent as it is if it can be sent. -/
theorem sent_of_plain {response : WebResponse} {body : Json}
    (hbody : response.body = some (.json body)) (h : body.Plain) :
    sent response = .ok response := by
  simp [sent, hbody, (Json.unsendable?_eq_none_iff body).mpr h]

/-- JSON that cannot be sent is a fault. -/
theorem sent_of_not_plain {response : WebResponse} {body : Json}
    (hbody : response.body = some (.json body)) (h : ¬body.Plain) :
    ∃ f, sent response = .error f := by
  obtain ⟨f, hf⟩ := Option.ne_none_iff_exists'.mp (mt (Json.unsendable?_eq_none_iff body).mp h)
  exact ⟨f, by simp [sent, hbody, hf]⟩

/-- The authorization behind a check of the service. -/
def authorization (repository : String) (ids : FreshIds) (check : CheckRequest) :
    Job AuthorizationOutcome :=
  Authorization.job (policy settings repository (Console.debugEnabled (threshold settings)))
    (check.authorization (settings.checkTimeout.map .real) ids.requestId)

/-- The response to a check whose authorization has come to the outcome. -/
def answered (trace requestId : String) (r : WebRequest) (check : CheckRequest)
    (outcome : AuthorizationOutcome) : WebResponse :=
  concluded framework settings trace r
    ((check.outcome requestId outcome).map (checkResponse (context settings trace r)))

/-- **A check ends as its authorization does**, with a response to its outcome. -/
theorem result_of_checkJob {σ : Type} (repository : Repository σ) (ids : FreshIds) (trace : String)
    (r : WebRequest) (check : CheckRequest) (now : Nat) (w : σ) :
    ((checkJob framework settings repository.name ids trace r check).run repository now w).result =
      ((authorization settings repository.name ids check).run repository now w).result.map
        (answered framework settings trace ids.requestId r check) := by
  -- What follows the authorization makes no call, so no deadline can cut it off.
  let report := fun outcome => (check.report ids.requestId outcome).bind fun yielded =>
    conclude framework settings trace r
      (yielded.map (checkResponse (context settings trace r)))
  have hreport : ∀ outcome, (report outcome).result? =
      some (answered framework settings trace ids.requestId r check outcome) := by
    intro outcome
    rw [Program.result?_bind, CheckRequest.result?_report]
    exact result?_conclude framework settings trace r _
  let job := authorization settings repository.name ids check
  have hrun := Program.run_bind repository job.program hreport (job.expiry now) now w
  refine Eq.trans ?_ hrun.1
  simp only [Job.run, checkJob, CheckRequest.job, Program.bind_assoc]
  rfl

/-- The job of an access check whose body is accepted. -/
theorem job_of_accepted {repository : String} {ids : FreshIds} {r : WebRequest}
    {form : AccessCheckForm} (hpath : Route.ofPath? r.path = some .accessChecks)
    (hmethod : r.method = "POST") (hform : r.accessCheck framework.depth = .ok form) :
    ∃ check, form.toCheck? = some check ∧ check.docIds = form.docIds.map .wellFormed ∧
      job framework settings repository ids r =
        checkJob framework settings repository ids (traceOf ids.traceId r) r check := by
  obtain ⟨v, -, hv⟩ := WebRequest.accessCheck_eq_ok.mp hform
  obtain ⟨i, hcheck⟩ := AccessCheckForm.exists_check hv
  refine ⟨_, hcheck, rfl, ?_⟩
  simp only [job, hpath, hmethod, hform, hcheck]
  rfl

/-- A success is answered with its documents, if they can be sent. -/
theorem answers_of_success (trace requestId : String) (r : WebRequest) (check : CheckRequest)
    (hwell : ∀ id ∈ check.docIds, ∃ s, id = .wellFormed s) {docs : AuthorizedDocuments}
    (h : docs.docIds.Sublist check.docIds) :
    Answers check.docIds (.ok docs)
      (answered framework settings trace requestId r check (.ok (.ok docs))) := by
  let body := checkBody ⟨requestId, docs.docIds, check.docIds.length, docs.decisions⟩
  have hids : ∀ id ∈ docs.docIds, ∃ s, id = .wellFormed s := fun id hid => hwell id (h.subset hid)
  have hdecisions : ∀ d ∈ docs.decisions, ∃ s, d.docId = .wellFormed s := by
    intro d hd
    obtain ⟨id, hid, rfl⟩ := List.mem_map.mp hd
    exact hids id hid
  have hsent : sent (.json 200 [] body) = .ok (.json 200 [] body) :=
    sent_of_plain rfl (plain_checkBody hids hdecisions)
  have hanswered : answered framework settings trace requestId r check (.ok (.ok docs)) =
      (WebResponse.json 200 [] body).withHeader traceHeader trace := by
    change (match sent (.json 200 [] body) with
      | .ok response => response.withHeader traceHeader trace
      | .error f => faulted framework settings trace r f) = _
    rw [hsent]
  have hgrants := grants_checkBody h requestId
  rw [hanswered]
  refine ⟨?_, (by rintro e ⟨⟩), (by rintro e ⟨⟩), iff_of_true rfl ⟨docs, rfl⟩⟩
  rintro docs' ⟨⟩
  exact ⟨body, rfl, hgrants⟩

/-- A failure is answered with a problem, or with a fault when its message cannot be sent. -/
theorem answers_of_failure (trace requestId : String) (r : WebRequest) (check : CheckRequest)
    (e : RepositoryError) :
    Answers check.docIds (.error e)
      (answered framework settings trace requestId r check (.ok (.error e))) := by
  let p := Problem.ofError (context settings trace r) (ApplicationError.codeOf e.kind) e.message
  have hanswered : answered framework settings trace requestId r check (.ok (.error e)) =
      match sent (p.response []) with
      | .ok response => response.withHeader traceHeader trace
      | .error f => faulted framework settings trace r f := rfl
  have hdenies := denies_ofError (context settings trace r) e
  by_cases hmessage : ∃ s, e.message = .wellFormed s
  · have hsent : sent (p.response []) = .ok (p.response []) :=
      sent_of_plain rfl (p.plain_toJson_iff.mpr hmessage)
    rw [hsent] at hanswered
    rw [hanswered]
    refine ⟨(by rintro docs ⟨⟩), ?_, ?_, iff_of_false hdenies.status_ne (by simp)⟩
    · rintro e' ⟨⟩ -
      exact ⟨p.toJson, rfl, hdenies⟩
    · rintro e' ⟨⟩ hbroken
      exact absurd hmessage hbroken
  · have hsent : ∃ f, sent (p.response []) = .error f :=
      sent_of_not_plain rfl (mt p.plain_toJson_iff.mp hmessage)
    obtain ⟨f, hf⟩ := hsent
    rw [hf] at hanswered
    have hwithholds := withholds_faulted framework settings trace r f
    rw [hanswered]
    refine ⟨(by rintro docs ⟨⟩), ?_, fun _ _ _ => hwithholds, ?_⟩
    · rintro e' ⟨⟩ hwell
      exact absurd hwell hmessage
    · exact iff_of_false (by simp [hwithholds.status_eq]) (by simp)

/-- **The answer to an access check.** When the body is accepted and the authorization behind it
has a result, the service responds: with all documents of a success, and with a problem for a
failure; only a failure whose message cannot be sent is answered as a fault. -/
theorem answer_of_result {σ : Type} (repository : Repository σ) (ids : FreshIds) (r : WebRequest)
    (now : Nat) (w : σ) {form : AccessCheckForm}
    (hpath : Route.ofPath? r.path = some .accessChecks) (hmethod : r.method = "POST")
    (hform : r.accessCheck framework.depth = .ok form) :
    ∃ check, form.toCheck? = some check ∧ check.docIds = form.docIds.map .wellFormed ∧
      ∀ result : AuthorizationResult,
        ((authorization settings repository.name ids check).run repository now w).result =
          some (.ok result) →
        ∃ response,
          ((job framework settings repository.name ids r).run repository now w).result =
            some response ∧
          Answers (form.docIds.map .wellFormed) result response := by
  obtain ⟨check, hcheck, hdocIds, hjob⟩ := job_of_accepted framework settings hpath hmethod hform
  refine ⟨check, hcheck, hdocIds, fun result hresult => ?_⟩
  have hrun := result_of_checkJob framework settings repository ids (traceOf ids.traceId r) r check
    now w
  rw [hresult, ← hjob] at hrun
  refine ⟨_, hrun, ?_⟩
  rw [← hdocIds]
  cases result with
  | ok docs =>
    have hcap : 1 ≤ (policy settings repository.name
        (Console.debugEnabled (threshold settings))).batchCap := by
      change (1 : Int) ≤ defaultBatchCap
      decide
    have hwell : ∀ id ∈ check.docIds, ∃ s, id = .wellFormed s := by
      intro id hid
      obtain ⟨s, -, rfl⟩ := List.mem_map.mp (hdocIds ▸ hid)
      exact ⟨s, rfl⟩
    exact answers_of_success framework settings _ _ r check hwell
      (Authorization.docIds_sublist_of_run hcap hresult)
  | error e => exact answers_of_failure framework settings _ _ r check e

/-- Settings of a service without limits of its own. -/
def plainSettings : Settings where
  environment := .development
  debug := false
  logLevel := "INFO"
  appName := "docgate"
  appVersion := "1"
  apiBaseUrl := "https://docs.example"
  backend := .memory
  repositoryUrl := none
  repositoryTimeout := .finite false 30
  queryTimeout := none
  permissions := []
  checkTimeout := none

/-- A request to check two documents, one of them twice. -/
def plainCheck : WebRequest where
  method := "POST"
  target := "/api/v1/access-checks"
  headers := [("Content-Type", "application/json")]
  body := ("\x7b\"doc_ids\": [\"a\", \"b\", \"a\"], " ++
    "\"identity\": \x7b\"username\": \"u\"\x7d\x7d").toUTF8.toList

/-- The form in its body. -/
def plainForm : AccessCheckForm := ⟨["a", "b", "a"], ⟨"u", none⟩, none⟩

/-- A script that shows one of the documents. -/
def showingOne : Script where
  opening := .plain
  supportsTimeouts := false
  impersonation := .plain
  queries := []
  defaultQuery := ⟨.plain, .visible ["a"]⟩
  closing := .plain

/-- A framework that says nothing of its own. -/
def plainFramework : Framework where
  depth := 960
  documentation _ := .page ""
  documentation_type := by rintro _ _ ⟨⟩
  traceback _ _ := ""
  reversed := false

/-- A value that is left when errors are forgotten. -/
theorem eq_ok_of_toOption {ε α : Type} {x : Except ε α} {a : α} (h : x.toOption = some a) :
    x = .ok a := by
  cases x with
  | error e => cases h
  | ok b => exact congrArg Except.ok (Option.some.inj h)

/-- Over `showingOne` the check is answered with the document that it shows, as often as it was
requested. -/
theorem answer_of_plain_check :
    Route.ofPath? plainCheck.path = some .accessChecks ∧ plainCheck.method = "POST" ∧
      plainCheck.accessCheck plainFramework.depth = .ok plainForm ∧
      ∃ (response : WebResponse) (body : Json),
        ((job plainFramework plainSettings "scripted" ⟨"t", "q"⟩ plainCheck).run
          (showingOne.repository "scripted") 0 []).result = some response ∧
        response.body = some (.json body) ∧ response.status = 200 ∧
        body.get? "authorized_doc_ids" = some (.array [.str "a", .str "a"]) := by
  have hpath : Route.ofPath? plainCheck.path = some .accessChecks := by decide +kernel
  have hform : plainCheck.accessCheck plainFramework.depth = .ok plainForm :=
    eq_ok_of_toOption (by decide +kernel)
  obtain ⟨check, hcheck, -, hanswer⟩ := answer_of_result plainFramework plainSettings
    (showingOne.repository "scripted") ⟨"t", "q"⟩ plainCheck 0 [] hpath rfl hform
  have hidentity : plainForm.identity.toIdentity? = some ⟨"u", none⟩ := by decide +kernel
  obtain rfl : ⟨["a", "b", "a"], ⟨"u", none⟩, none⟩ = check := by
    rw [AccessCheckForm.toCheck?, hidentity] at hcheck
    exact Option.some.inj hcheck
  have hgranted : Authorization.granted? ((authorization plainSettings "scripted" ⟨"t", "q"⟩
      ⟨["a", "b", "a"], ⟨"u", none⟩, none⟩).run (showingOne.repository "scripted") 0 []) =
        some ⟨["a", "a"]⟩ := by
    decide +kernel
  obtain ⟨response, hresponse, hanswers⟩ :=
    hanswer _ (Authorization.result_of_granted? hgranted)
  obtain ⟨body, hbody, hgrant⟩ := hanswers.granted _ rfl
  exact ⟨hpath, rfl, hform, response, body, hresponse, hbody, hgrant.status_eq,
    hgrant.authorized_ids⟩

/-- A request to check a document for a user that is named by half of a pair. -/
def halvedNameCheck : WebRequest :=
  { plainCheck with
    body := ("\x7b\"doc_ids\": [\"1\"], \"identity\": \x7b\"username\": " ++
      "\"\\ud800\"\x7d\x7d").toUTF8.toList }

/-- That user. -/
def halvedName : Identity := ⟨.ofPoints [0xD800], none⟩

/-- **A failure may be answered with nothing of it**: the table does not know the user, which is a
failure of authentication, but its message tells the name, which cannot be sent. -/
theorem halved_name_withheld :
    let table : Memory := .ofTable [("u", [])]
    (halvedNameCheck.accessCheck plainFramework.depth).toOption =
        some ⟨["1"], ⟨halvedName.username, none⟩, none⟩ ∧
      (Authorization.failure? ((authorization plainSettings "memory" ⟨"t", "q"⟩
        ⟨["1"], halvedName, none⟩).run (Memory.repository "memory") 0 table)).map
          RepositoryError.kind = some (.authentication halvedName.username) ∧
      ((job plainFramework plainSettings "memory" ⟨"t", "q"⟩ halvedNameCheck).run
        (Memory.repository "memory") 0 table).result.map WebResponse.status = some 500 := by
  decide +kernel

end Service
end DocAccess
