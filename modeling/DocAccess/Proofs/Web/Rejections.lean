import DocAccess.Proofs.Json.Equality
import DocAccess.Proofs.Schema.Offences
import DocAccess.Proofs.Web.Answers
import Mathlib.Data.List.Nodup

/-!
# Bodies that are rejected

A body of the right shape is accepted when nothing is wrong with it, and the check then asks for its
documents as they were sent. Any other one is answered at once: the errors of the answer name the
places that are wrong, each once and in the order of the places, and no call is made.

## Main definitions

* `CheckBody.offences` — the errors that a body is answered with.

## Main statements

* `CheckBody.ofIssue_issues` — issues are told by the names of their places.
* `CheckBody.nodup_offences` — no place is named twice.
* `verdict_of_body` — which bodies are accepted, and what follows.
-/
namespace DocAccess

/-! ## The names of places -/

/-- A number is not named like a body. -/
theorem repr_ne_body (n : Nat) : n.repr ≠ "body" := by
  intro h
  have hmem : 'b' ∈ Nat.toDigits 10 n := by
    rw [← Nat.toList_repr, h]
    decide
  exact absurd (Nat.isDigit_of_mem_toDigits (by decide) (by decide) hmem) (by decide)

/-- Different numbers have different names. -/
theorem repr_injective {m n : Nat} (h : m.repr = n.repr) : m = n := by
  have hdigits : Nat.toDigits 10 m = Nat.toDigits 10 n := by
    rw [← Nat.toList_repr, ← Nat.toList_repr, h]
  rw [← Nat.ofDigitChars_ten_toDigits (n := m), hdigits, Nat.ofDigitChars_ten_toDigits]

/-- The name of a document that is listed in a body. -/
def docIdField (n : Nat) : String := "doc_ids." ++ n.repr

/-- Different documents have different names. -/
theorem docIdField_injective : Function.Injective docIdField := by
  intro m n h
  have hlists := congrArg String.toList h
  rw [docIdField, docIdField, String.toList_append, String.toList_append,
    List.append_right_inj, String.toList_inj] at hlists
  exact repr_injective hlists

/-- A document is named by its number. -/
theorem fieldName_docId (n : Nat) :
    FieldError.fieldName [.key "body", .key "doc_ids", .index n] = docIdField n := by
  have hsteps : ["body", "doc_ids", n.repr].filter (· != "body") = ["doc_ids", n.repr] := by
    simp [repr_ne_body]
  have hname : ".".intercalate ["doc_ids", n.repr] = docIdField n := rfl
  have hne : docIdField n ≠ "" := by
    intro h
    simpa [docIdField] using congrArg String.length h
  change (let name := ".".intercalate (["body", "doc_ids", n.repr].filter (· != "body"))
    if name = "" then "unknown" else name) = _
  rw [hsteps, hname]
  exact if_neg hne

/-! ## Errors of a body -/

/-- The error of a field with a defect, if there is one. -/
def offence (field : String) (defect : Option IssueKind) : List FieldError :=
  (defect.map fun kind => ⟨field, kind.word, kind.message⟩).toList

/-- An error is at its field. -/
theorem fields_offence (field : String) (defect : Option IssueKind) :
    ((offence field defect).map FieldError.field).Sublist [field] := by
  cases defect with
  | none => exact List.nil_sublist _
  | some kind => exact List.Sublist.refl _

/-- An issue is told by the name of its place. -/
theorem map_issueOf {f : Issue → FieldError} {place : List PathStep} {field : String}
    (hfield : FieldError.fieldName place = field)
    (hf : ∀ kind, f ⟨[], kind⟩ = FieldError.ofIssue ⟨place, kind⟩) (defect : Option IssueKind) :
    (issueOf defect).map f = offence field defect := by
  cases defect with
  | none => rfl
  | some kind => simp [issueOf, offence, hf, FieldError.ofIssue, hfield]

namespace CheckBody

/-- **The errors that a body is answered with**, one for each place that is wrong. -/
def offences (b : CheckBody) : List FieldError :=
  (b.docIds.zipIdx.flatMap fun (t, i) => offence (docIdField i) (docIdDefect? t)) ++
    offence "identity.username" (usernameDefect? b.username) ++
    offence "timeout_seconds" (b.timeout.bind Seconds.defect?)

/-- **Issues are told by the names of their places.** -/
theorem ofIssue_issues (b : CheckBody) :
    (b.issues.map (Issue.below (.key "body"))).map FieldError.ofIssue = b.offences := by
  have husername : FieldError.fieldName [.key "body", .key "identity", .key "username"] =
      "identity.username" := by decide +kernel
  have htimeout : FieldError.fieldName [.key "body", .key "timeout_seconds"] =
      "timeout_seconds" := by decide +kernel
  simp only [issues, identityIssues, docIdIssues, offences, List.map_append, List.map_flatMap,
    List.map_map, List.append_assoc]
  refine congrArg₂ _ (List.flatMap_congr fun x _ => ?_) (congrArg₂ _ ?_ ?_)
  · exact map_issueOf (fieldName_docId x.2) (fun kind => rfl) _
  · exact map_issueOf husername (fun kind => rfl) _
  · exact map_issueOf htimeout (fun kind => rfl) _

/-- **No place is named twice.** -/
theorem nodup_offences (b : CheckBody) : (b.offences.map FieldError.field).Nodup := by
  let names := b.docIds.zipIdx.map (fun x => docIdField x.2) ++
    ["identity.username", "timeout_seconds"]
  have hsub : (b.offences.map FieldError.field).Sublist names := by
    have hdocIds : ∀ listed : List (Text × Nat), ((listed.flatMap fun x =>
        offence (docIdField x.2) (docIdDefect? x.1)).map FieldError.field).Sublist
          (listed.map fun x => docIdField x.2) := by
      intro listed
      induction listed with
      | nil => exact List.Sublist.refl _
      | cons x listed ih =>
        rw [List.flatMap_cons, List.map_append]
        exact (fields_offence _ _).append ih
    simp only [offences, List.map_append, List.append_assoc]
    refine (hdocIds _).append ?_
    exact (fields_offence _ _).append (fields_offence _ _)
  refine hsub.nodup (List.nodup_append.mpr ⟨?_, by decide, ?_⟩)
  · have hnames : b.docIds.zipIdx.map (fun x => docIdField x.2) =
        (List.range' 0 b.docIds.length).map docIdField := by
      rw [← List.zipIdx_map_snd 0 b.docIds, List.map_map]
      rfl
    rw [hnames]
    exact List.Nodup.map docIdField_injective List.nodup_range'
  · intro name hname other hother heq
    obtain ⟨x, -, rfl⟩ := List.mem_map.mp hname
    -- The other names begin with other letters.
    have hhead := congrArg (fun s : String => s.toList.head?) heq
    simp only [List.mem_cons, List.not_mem_nil, or_false] at hother
    rcases hother with rfl | rfl <;> simp [docIdField] at hhead

end CheckBody

/-- The errors of a problem. -/
theorem Problem.get?_toJson_errors (p : Problem) :
    p.toJson.get? "errors" = p.errors.map fun es => Json.array (es.map FieldError.toJson) := by
  rw [toJson, Json.get?_ofFields]
  cases p.errors <;> cases p.traceId <;> rfl

namespace Service

variable (framework : Framework) (settings : Settings)

/-- The errors of the answer to a body with issues. -/
theorem errors_of_bodyResponse (c : Problem.Context) {issues : List Issue} (hne : issues ≠ []) :
    ∃ body, (bodyResponse c (.invalid issues)).body = some (.json body) ∧ body.Plain ∧
      body.get? "errors" =
        some (.array ((issues.map FieldError.ofIssue).map FieldError.toJson)) := by
  have hsome : (issues.map FieldError.ofIssue).isEmpty = false := by
    rw [List.isEmpty_map]
    exact List.isEmpty_eq_false_iff.mpr hne
  refine ⟨(Problem.ofIssues c issues).toJson, rfl,
    (Problem.plain_toJson_iff _).mpr ⟨_, rfl⟩, ?_⟩
  rw [Problem.get?_toJson_errors, Problem.ofIssues, Problem.ofFieldErrors, hsome]
  rfl

/-- JSON that is sent at once is the response, under the trace. -/
theorem run_immediate {σ : Type} (repository : Repository σ) (trace : String) (r : WebRequest)
    {response : WebResponse} {body : Json} (hbody : response.body = some (.json body))
    (h : body.Plain) (now : Nat) (w : σ) :
    (immediate framework settings trace r (.ok response)).run repository now w =
      ⟨some (response.withHeader traceHeader trace), [], w, now⟩ := by
  have hprogram : conclude framework settings trace r (.ok response) =
      .done (response.withHeader traceHeader trace) := by
    rw [conclude, Except.bind, sent_of_plain hbody h]
  rw [immediate, hprogram]
  rfl

section Body

variable {depth : Nat} {r : WebRequest} {b : CheckBody} {members identity : List (Text × Json)}

/-- An acceptable body is read. -/
theorem accessCheck_of_acceptable (hjson : r.bodyJson depth = .ok (.object members))
    (hshape : b.Shapes members identity) (h : b.Acceptable) :
    ∃ form, r.accessCheck depth = .ok form ∧ b.Filled form := by
  have hjudged := CheckBody.judged_body hshape .attributes
  rw [b.issues_eq_nil_iff.mpr h] at hjudged
  obtain ⟨form, hform, hfilled⟩ := hjudged.exists_of_nil
  exact ⟨form, WebRequest.accessCheck_eq_ok.mpr ⟨_, hjson, hform⟩, hfilled⟩

/-- Any other body is refused with all of its issues. -/
theorem accessCheck_of_not_acceptable (hjson : r.bodyJson depth = .ok (.object members))
    (hshape : b.Shapes members identity) (h : ¬b.Acceptable) :
    r.accessCheck depth = .error (.invalid (b.issues.map (Issue.below (.key "body")))) := by
  have hform := (CheckBody.judged_body hshape .attributes).eq_of_ne_nil
    (mt b.issues_eq_nil_iff.mp h)
  simp only [WebRequest.accessCheck, hjson, hform]
  rfl

/-- A body is read exactly if it is acceptable. -/
theorem exists_accessCheck_iff (hjson : r.bodyJson depth = .ok (.object members))
    (hshape : b.Shapes members identity) :
    (∃ form, r.accessCheck depth = .ok form) ↔ b.Acceptable := by
  constructor
  · rintro ⟨form, hform⟩
    by_contra h
    cases hform.symm.trans (accessCheck_of_not_acceptable hjson hshape h)
  · intro h
    obtain ⟨form, hform, -⟩ := accessCheck_of_acceptable hjson hshape h
    exact ⟨form, hform⟩

end Body

/-- **Which bodies are accepted, and what follows.** The check of an accepted body asks for the
documents as they were sent. Any other body is answered with its errors, and nothing else
happens. -/
theorem verdict_of_body {σ : Type} (repository : Repository σ) (ids : FreshIds) (r : WebRequest)
    (now : Nat) (w : σ) {b : CheckBody} {members identity : List (Text × Json)}
    (hpath : Route.ofPath? r.path = some .accessChecks) (hmethod : r.method = "POST")
    (hjson : r.bodyJson framework.depth = .ok (.object members))
    (hshape : b.Shapes members identity) :
    ((∃ form, r.accessCheck framework.depth = .ok form) ↔ b.Acceptable) ∧
    (b.Acceptable → ∃ form check, r.accessCheck framework.depth = .ok form ∧ b.Filled form ∧
      form.toCheck? = some check ∧ check.docIds = b.docIds ∧
      job framework settings repository.name ids r =
        checkJob framework settings repository.name ids (traceOf ids.traceId r) r check) ∧
    (¬b.Acceptable → (b.offences.map FieldError.field).Nodup ∧
      ∃ (response : WebResponse) (body : Json),
        (job framework settings repository.name ids r).run repository now w =
          ⟨some response, [], w, now⟩ ∧
        response.status = 422 ∧ response.body = some (.json body) ∧
        body.get? "errors" = some (.array (b.offences.map FieldError.toJson))) := by
  refine ⟨exists_accessCheck_iff hjson hshape, ?_, ?_⟩
  · intro hacceptable
    obtain ⟨form, hform, hfilled⟩ := accessCheck_of_acceptable hjson hshape hacceptable
    obtain ⟨check, hcheck, hdocIds, hjob⟩ :=
      job_of_accepted framework settings hpath hmethod hform
    exact ⟨form, check, hform, hfilled, hcheck, hdocIds ▸ hfilled.docIds, hjob⟩
  · intro hunacceptable
    have hrefused := accessCheck_of_not_acceptable hjson hshape hunacceptable
    have hne : b.issues.map (Issue.below (.key "body")) ≠ [] := by
      simpa using mt b.issues_eq_nil_iff.mp hunacceptable
    obtain ⟨body, hbody, hplain, herrors⟩ := errors_of_bodyResponse
      (context settings (traceOf ids.traceId r) r) hne
    rw [b.ofIssue_issues] at herrors
    let answer := bodyResponse (context settings (traceOf ids.traceId r) r)
      (.invalid (b.issues.map (Issue.below (.key "body"))))
    refine ⟨b.nodup_offences, answer.withHeader traceHeader (traceOf ids.traceId r), body, ?_, rfl,
      hbody, herrors⟩
    have hjob : job framework settings repository.name ids r =
        immediate framework settings (traceOf ids.traceId r) r (.ok answer) := by
      simp only [job, hpath, hmethod, hrefused]
      rfl
    rw [hjob]
    exact run_immediate framework settings repository _ r hbody hplain now w

/-- A request to check access with a body. -/
def checkRequest (body : String) : WebRequest where
  method := "POST"
  target := "/api/v1/access-checks"
  headers := [("Content-Type", "application/json")]
  body := body.toUTF8.toList

/-- A request whose body is wrong at three of its places. -/
def faultyCheck : WebRequest :=
  checkRequest ("\x7b\"doc_ids\": [\"a\", \"\"], \"identity\": \x7b\"username\": \" \"\x7d, " ++
    "\"timeout_seconds\": 0\x7d")

/-- What its body lists. -/
def faultyBody : CheckBody := ⟨["a", ""], " ", none, some (.whole 0)⟩

/-- The identity in its body. -/
def blankIdentity : List (Text × Json) := [("username", .str " ")]

/-- The members of its body. -/
def faultyMembers : List (Text × Json) :=
  [("doc_ids", .array [.str "a", .str ""]), ("identity", .object blankIdentity),
    ("timeout_seconds", .int 0)]

/-- The body of `faultyCheck` is answered with the three places that are wrong. -/
theorem verdict_of_faulty_check :
    Route.ofPath? faultyCheck.path = some .accessChecks ∧ faultyCheck.method = "POST" ∧
      faultyCheck.bodyJson plainFramework.depth = .ok (.object faultyMembers) ∧
      faultyBody.Shapes faultyMembers blankIdentity ∧
      ∃ (response : WebResponse) (body : Json),
        (job plainFramework plainSettings "scripted" ⟨"t", "q"⟩ faultyCheck).run
          (showingOne.repository "scripted") 0 [] = ⟨some response, [], [], 0⟩ ∧
        response.status = 422 ∧ response.body = some (.json body) ∧
        body.get? "errors" = some (.array ([
          ⟨"doc_ids.1", "string_too_short", "String should have at least 1 character"⟩,
          ⟨"identity.username", "value_error",
            "Value error, Username cannot be empty or just whitespace"⟩,
          ⟨"timeout_seconds", "greater_than", "Input should be greater than 0"⟩].map
            FieldError.toJson)) := by
  have hpath : Route.ofPath? faultyCheck.path = some .accessChecks := by decide +kernel
  have hjson : faultyCheck.bodyJson plainFramework.depth = .ok (.object faultyMembers) :=
    eq_ok_of_toOption (by decide +kernel)
  have hshape : faultyBody.Shapes faultyMembers blankIdentity :=
    ⟨by decide +kernel, by decide +kernel, by decide +kernel, .inl (by decide +kernel),
      .inl (by decide +kernel), by rintro s ⟨⟩; decide +kernel⟩
  have hunacceptable : ¬faultyBody.Acceptable := by
    intro h
    exact absurd (faultyBody.issues_eq_nil_iff.mpr h) (by decide +kernel)
  have hoffences : faultyBody.offences = [
      ⟨"doc_ids.1", "string_too_short", "String should have at least 1 character"⟩,
      ⟨"identity.username", "value_error",
        "Value error, Username cannot be empty or just whitespace"⟩,
      ⟨"timeout_seconds", "greater_than", "Input should be greater than 0"⟩] := by
    decide +kernel
  obtain ⟨-, -, hrejected⟩ := verdict_of_body plainFramework plainSettings
    (showingOne.repository "scripted") ⟨"t", "q"⟩ faultyCheck 0 [] hpath rfl hjson hshape
  obtain ⟨-, response, body, hrun, hstatus, hbody, herrors⟩ := hrejected hunacceptable
  rw [hoffences] at herrors
  exact ⟨hpath, rfl, hjson, hshape, response, body, hrun, hstatus, hbody, herrors⟩

/-- A request for a document that is named by half of a pair. -/
def halvedCheck : WebRequest :=
  checkRequest "\x7b\"doc_ids\": [\"\\ud800\"], \"identity\": \x7b\"username\": \"u\"\x7d\x7d"

/-- What its body lists. -/
def halvedBody : CheckBody := ⟨[.ofPoints [0xD800]], "u", none, none⟩

/-- The members of its body. -/
def halvedMembers : List (Text × Json) :=
  [("doc_ids", .array [.string (.ofPoints [0xD800])]),
    ("identity", .object [("username", .str "u")])]

/-- **A body of the right shape is refused** although no document is named by an empty text, the
user name is not blank and there is no number of seconds: the name of a document is not well
formed. -/
theorem halved_text_refused :
    halvedCheck.bodyJson plainFramework.depth = .ok (.object halvedMembers) ∧
      halvedBody.Shapes halvedMembers [("username", .str "u")] ∧
      halvedBody.docIds.map Text.isEmpty = [false] ∧ halvedBody.username.strip ≠ "" ∧
      halvedBody.timeout = none ∧
      ¬∃ form, halvedCheck.accessCheck plainFramework.depth = .ok form := by
  have hjson : halvedCheck.bodyJson plainFramework.depth = .ok (.object halvedMembers) :=
    eq_ok_of_toOption (by decide +kernel)
  have hshape : halvedBody.Shapes halvedMembers [("username", .str "u")] :=
    ⟨by decide +kernel, by decide +kernel, by decide +kernel, .inl (by decide +kernel),
      .inl (by decide +kernel), by rintro s ⟨⟩⟩
  have hrefused : (halvedCheck.accessCheck plainFramework.depth).toOption = none := by
    decide +kernel
  refine ⟨hjson, hshape, by decide +kernel, by decide +kernel, rfl, ?_⟩
  rintro ⟨form, hform⟩
  rw [hform] at hrefused
  cases hrefused

end Service
end DocAccess
