import DocAccess.Proofs.Authorization.Outcome
import DocAccess.Proofs.Authorization.Table
import DocAccess.Proofs.Schema.Offences
import DocAccess.Proofs.Session.Trail

/-!
# One principal in every place

A user name and a domain are trimmed when a body is read, when an identity is made of the form, and
once more when a session over a table impersonates. Since trimming what is trimmed changes nothing,
all of these places mean the same principal: the form is accepted when there is an identity of the
names, and only then; the form names that identity; and the principal that a session over a table
looks for bears the name that is bound to the events of the request.

## Main definitions

* `Event.Tells` — an event tells all of some fields.
* `Program.Writes` — a program writes only events with a property.
* `MemorySession.LooksFor` — names under which a session over a table looks for an identity.
* `Authorization.ActsFor` — a run that tells and impersonates one identity only.

## Main statements

* `writes_program` — whatever a request writes tells what is bound to it.
* `looksFor_of_names` — a session over a table looks for the identity of the names.
* `ofJson_of_names` — when a form is accepted, and what it holds.
* `principal_of_names` — the three places agree.
-/
namespace DocAccess

/-! ## Fields that are not overlaid -/

namespace Fields

theorem lookup_insert_of_ne {name other : String} (h : other ≠ name) (fields : Fields)
    (value : Json) : (fields.insert other value).lookup name = fields.lookup name := by
  have hbeq : (name == other) = false := beq_false_of_ne (Ne.symm h)
  induction fields with
  | nil => simp [insert, List.lookup_cons, hbeq]
  | cons f rest ih =>
    obtain ⟨key, old⟩ := f
    by_cases hkey : key = other
    · simp [insert, hkey, List.lookup_cons, hbeq]
    · simp only [insert, hkey, if_false, List.lookup_cons, ih]

/-- A field keeps its value when none of the later ones has its name. -/
theorem lookup_overlay_of_ne {upper : Fields} {name : String} (h : ∀ f ∈ upper, f.1 ≠ name)
    (under : Fields) : (overlay under upper).lookup name = under.lookup name := by
  induction upper generalizing under with
  | nil => rfl
  | cons f upper ih =>
    have hstep : overlay under (f :: upper) = overlay (under.insert f.1 f.2) upper := rfl
    rw [hstep, ih fun g hg => h g (List.mem_cons_of_mem f hg),
      lookup_insert_of_ne (h f List.mem_cons_self)]

end Fields

/-- The event tells all of the fields. -/
def Event.Tells (e : Event) (fields : Fields) : Prop :=
  ∀ f ∈ fields, e.context.lookup f.1 = some f.2

/-! ## What a program writes and calls -/

namespace Program

variable {α : Type} {E : Event → Prop} {p : Program α}

/-- However its calls end, the program writes events with the property only. -/
inductive Writes (E : Event → Prop) : Program α → Prop
  | done (a : α) : Writes E (.done a)
  | log {e : Event} {rest : Program α} : E e → Writes E rest → Writes E (.log e rest)
  | call {c : Call} {next : Ended c.Answer → Program α} :
      (∀ how, Writes E (next how)) → Writes E (.call c next)

theorem Writes.logAll {es : List Event} (hes : ∀ e ∈ es, E e) (h : Writes E p) :
    Writes E (p.logAll es) := by
  induction es with
  | nil => exact h
  | cons e es ih =>
    exact .log (hes e List.mem_cons_self) (ih fun x hx => hes x (List.mem_cons_of_mem e hx))

/-- The events along a path. -/
theorem Writes.of_path (h : Writes E p) {steps : Trail} {r : Option α} (hpath : p.Path steps r) :
    ∀ e ∈ steps.events, E e := by
  -- The path says how each call ended, and so which of the programs behind it goes on.
  induction hpath with
  | done a => simp
  | log _ ih =>
    cases h with
    | log he hrest => exact List.forall_mem_cons.mpr ⟨he, ih hrest⟩
  | call began ended how _ ih =>
    cases h with
    | call hnext => exact ih (hnext how)
  | stuck began => simp

/-- The calls along a path. -/
theorem Bounded.of_path {P : Call → Prop} {k : Nat} (h : p.Bounded P k) {steps : Trail}
    {r : Option α} (hpath : p.Path steps r) : ∀ v ∈ steps.visits, P v.call := by
  induction hpath generalizing k with
  | done a => simp
  | log _ ih =>
    cases h with
    | log hrest => exact ih hrest
  | call began ended how _ ih =>
    cases h with
    | call hc hnext => exact List.forall_mem_cons.mpr ⟨hc, ih (hnext how)⟩
  | stuck began =>
    cases h with
    | call hc _ => exact List.forall_mem_singleton.mpr hc

end Program

namespace Authorization

variable (policy : AuthorizationPolicy) (request : AuthorizationRequest) (session : Session)

/-! ## Whatever a request writes tells what is bound to it -/

/-- An event of the request tells what is bound to it, unless its own fields overlay that. -/
theorem tells_event (level : LogLevel) (name : String) {fields : Fields}
    (h : ∀ f ∈ fields, f.1 ≠ "request_id" ∧ f.1 ≠ "username" ∧ f.1 ≠ "repository") :
    (event policy request level name fields).Tells (bound policy request) := by
  have hrequest := Fields.lookup_overlay_of_ne (fun f hf => (h f hf).1) (bound policy request)
  have husername := Fields.lookup_overlay_of_ne (fun f hf => (h f hf).2.1) (bound policy request)
  have hrepository := Fields.lookup_overlay_of_ne (fun f hf => (h f hf).2.2) (bound policy request)
  intro f hf
  simp only [bound, List.mem_cons, List.not_mem_nil, or_false] at hf
  rcases hf with rfl | rfl | rfl
  · exact hrequest
  · exact husername
  · exact hrepository

theorem writes_settle (p : Progress) (ending : Ending) :
    (settle policy request p ending).Writes (Event.Tells · (bound policy request)) := by
  have hconclude : ∀ result,
      (conclude policy request p result).Writes (Event.Tells · (bound policy request)) := by
    intro result
    rcases result with e | docs
    · exact .log (tells_event policy request _ _ (by simp)) (.done _)
    · exact .log (tells_event policy request _ _ (by simp)) (.done _)
  cases ending with
  | finished result => exact hconclude result
  | raised f => exact .done _
  | expired => simpa only [settle] using hconclude _

theorem writes_close (p : Progress) (ending : Ending) :
    (close policy request session p ending).Writes (Event.Tells · (bound policy request)) := by
  refine .call fun how => ?_
  cases how with
  | returned u => exact writes_settle policy request p ending
  | cancelled => exact writes_settle policy request p .expired
  | raised f =>
    exact .log (tells_event policy request _ _ (by simp)) (writes_settle policy request p ending)

theorem writes_queryBatches (bs : List Batch) (a : Aggregate) (p : Progress) :
    (queryBatches policy request session bs a p).Writes
      (Event.Tells · (bound policy request)) := by
  have htraced : ∀ es : List Event, (∀ e ∈ es, e.Tells (bound policy request)) →
      ∀ e ∈ whenTraced policy es, e.Tells (bound policy request) := by
    intro es hes e he
    unfold whenTraced at he
    split at he
    · exact hes e he
    · cases he
  induction bs generalizing a p with
  | nil => exact writes_close policy request session p _
  | cons b bs ih =>
    rw [queryBatches]
    refine .logAll (htraced _ ?_) (.call fun how => ?_)
    · exact List.forall_mem_singleton.mpr (tells_event policy request _ _ (by simp))
    cases how with
    | cancelled => exact writes_close policy request session _ _
    | raised f => exact writes_close policy request session _ _
    | returned answer =>
      cases answer with
      | error e => exact writes_close policy request session _ _
      | ok rows =>
        simp only
        cases a.absorb b rows with
        | error f => exact writes_close policy request session _ _
        | ok step =>
          refine .logAll (List.forall_mem_map.mpr fun r _ => ?_)
            (.logAll (htraced _ (List.forall_mem_map.mpr fun d _ => ?_)) (ih _ _))
          · exact tells_event policy request _ _ (by simp)
          · exact tells_event policy request _ _ (by simp)

theorem writes_impersonate :
    (impersonate policy request session).Writes (Event.Tells · (bound policy request)) := by
  refine .call fun how => ?_
  cases how with
  | cancelled => exact writes_close policy request session _ _
  | raised f => exact writes_close policy request session _ _
  | returned answer =>
    cases answer with
    | error e => exact writes_close policy request session _ _
    | ok u =>
      simp only
      split
      · exact writes_queryBatches policy request session _ _ _
      · exact writes_close policy request session _ _

theorem writes_configure :
    (configure policy request session).Writes (Event.Tells · (bound policy request)) := by
  have himpersonate := writes_impersonate policy request session
  unfold configure
  split
  · exact himpersonate
  · split
    · refine .call fun how => ?_
      cases how with
      | cancelled => exact writes_close policy request session _ _
      | raised f => exact writes_close policy request session _ _
      | returned u => exact himpersonate
    · exact .log (tells_event policy request _ _ (by simp)) himpersonate

/-- **Whatever a request writes tells what is bound to it**: no event overlays the correlation id,
the principal or the repository. -/
theorem writes_program :
    (program policy request).Writes (Event.Tells · (bound policy request)) := by
  unfold program
  split
  · exact .done _
  · split
    · exact .done _
    · refine .log (tells_event policy request _ _ (by simp)) ?_
      split
      · exact .done _
      · refine .call fun how => ?_
        cases how with
        | cancelled => exact writes_settle policy request _ _
        | raised f => exact writes_settle policy request _ _
        | returned answer =>
          cases answer with
          | error e => exact writes_settle policy request _ _
          | ok session => exact writes_configure policy request session

end Authorization

/-! ## The principal that a session looks for -/

namespace MemorySession

/-- Given the names, an open session over a table looks for the qualified name of the identity
first, and for its user name when that is not there. -/
structure LooksFor (i : Identity) (username : Text) (domain : Option Text) : Prop where
  qualified : ∀ (s : MemorySession) (name : String) (visible : List Text), s.isClosed = false →
    s.snapshot.find? i.qualifiedName = some visible →
    s.impersonate name username domain = (.ok (.ok ()), { s with visible := some visible })
  bare : ∀ (s : MemorySession) (name : String) (visible : List Text), s.isClosed = false →
    s.snapshot.find? i.qualifiedName = none → s.snapshot.find? i.username = some visible →
    s.impersonate name username domain = (.ok (.ok ()), { s with visible := some visible })
  /-- The failure tells the qualified name, and the user name as it was given. -/
  unknown : ∀ (s : MemorySession) (name : String), s.isClosed = false →
    s.snapshot.find? i.qualifiedName = none → s.snapshot.find? i.username = none →
    s.impersonate name username domain =
      (.ok (.error { unknownPrincipal name i with kind := .authentication username }), s)

variable {username : Text} {domain : Option Text}

/-- A session looks for the identity of the names. -/
theorem looksFor_of_names {i : Identity} (h : Identity.ofNames? (some username) domain = some i) :
    LooksFor i username domain where
  qualified s name visible hopen hfound := by
    simp [impersonate, hopen, h, PermissionTable.visibleTo?, hfound]
  bare s name visible hopen hmissing hfound := by
    simp [impersonate, hopen, h, PermissionTable.visibleTo?, hmissing, hfound]
  unknown s name hopen hmissing hunknown := by
    simp [impersonate, hopen, h, PermissionTable.visibleTo?, hmissing, hunknown, unknownPrincipal,
      unknownMessage]

/-- A session raises for names that have no identity. -/
theorem impersonate_of_no_names (h : Identity.ofNames? (some username) domain = none)
    {s : MemorySession} (hopen : s.isClosed = false) (name : String) :
    s.impersonate name username domain = (.error (.value Identity.blankMessage), s) := by
  simp [impersonate, hopen, h]

end MemorySession

/-! ## The form of an identity -/

namespace IdentityForm

variable {username : Text} {domain : Option Text} {members : List (Text × Json)}

/-- **A form is accepted unless the user name is blank**, which is its only issue then. It holds
the user name trimmed, and the domain as it was sent. -/
theorem ofJson_of_names (husername : Json.lookup members "username" = some (.string username))
    (hdomain : Json.Gives members "domain" (domain.map .string)) (demand : ObjectDemand) :
    ofJson demand (.object members) =
      if username.strip = "" then .error [⟨[.key "username"], .rule blankMessage⟩]
      else .ok ⟨username.strip, domain⟩ := by
  -- Only the names of this body are read; it stands for every body around the members.
  let b : CheckBody := ⟨[], username, domain, none⟩
  have hjudged := CheckBody.judged_identity (b := b) husername hdomain demand
  by_cases hblank : username.strip = ""
  · have hissues : b.identityIssues = [⟨[.key "username"], .rule blankMessage⟩] := by
      simp [CheckBody.identityIssues, b, usernameDefect?, hblank, issueOf, Issue.below]
    rw [if_pos hblank, hjudged.eq_of_ne_nil (by simp [hissues]), hissues]
  · have hissues : b.identityIssues = [] := by
      simp [CheckBody.identityIssues, b, usernameDefect?, hblank, issueOf]
    rw [hissues] at hjudged
    obtain ⟨⟨name, kept⟩, hform, hname, hkept⟩ := hjudged.exists_of_nil
    rw [if_neg hblank, hform]
    exact congrArg Except.ok (congrArg₂ IdentityForm.mk hname hkept)

end IdentityForm

namespace Authorization

/-- A run acts for an identity: each of its events tells the qualified name of the identity, and it
impersonates only with names of that identity, by which a session over a table looks for it. -/
structure ActsFor (i : Identity) (events : List Event) (visits : List Visit) : Prop where
  told : ∀ e ∈ events, e.context.lookup "username" = some (.string i.qualifiedName)
  impersonated : ∀ v ∈ visits, ∀ number username domain,
    v.call = .impersonate number username domain →
    Identity.ofNames? (some username) domain = some i ∧ MemorySession.LooksFor i username domain

/-- A request acts for its identity when that is the identity of its own names. -/
theorem actsFor_of_self {σ : Type} (repository : Repository σ) (policy : AuthorizationPolicy)
    (request : AuthorizationRequest) (now : Nat) (w : σ)
    (hself : Identity.ofNames? (some request.identity.username) request.identity.domain =
      some request.identity) :
    ActsFor request.identity ((job policy request).run repository now w).events
      ((job policy request).trail repository now w).visits := by
  have hpath := Program.path_trail repository (program policy request)
    ((job policy request).expiry now) now w
  constructor
  · rw [Job.run, Program.events_trail]
    intro e he
    exact (writes_program policy request).of_path hpath e he
      ("username", .string request.identity.qualifiedName) (by simp [bound])
  · intro v hv number username domain hcall
    rcases (bounded_program_own policy request).of_path hpath v hv with hopen | ⟨n, hown⟩
    · rw [hcall] at hopen
      cases hopen
    · rw [hcall] at hown
      obtain ⟨-, rfl, rfl⟩ := hown
      exact ⟨hself, MemorySession.looksFor_of_names hself⟩

/-- **The places that take names for a principal agree.** A form of an identity is accepted if and
only if there is an identity of its names, and is refused for its user name alone; an accepted form
names that identity. A session over a table raises for names that have no identity, and looks for
the identity of the others. An identity is the identity of its own names; so every run of a request
for it, over every repository and under every deadline, tells the qualified name of the one
principal that a session over a table looks for when the run impersonates. -/
theorem principal_of_names (username : Text) (domain : Option Text)
    {members : List (Text × Json)}
    (husername : Json.lookup members "username" = some (.string username))
    (hdomain : Json.Gives members "domain" (domain.map .string)) (demand : ObjectDemand) :
    ((∃ form, IdentityForm.ofJson demand (.object members) = .ok form) ↔
      ∃ i, Identity.ofNames? (some username) domain = some i) ∧
    (∀ issues, IdentityForm.ofJson demand (.object members) = .error issues →
      issues = [⟨[.key "username"], .rule IdentityForm.blankMessage⟩]) ∧
    (∀ form, IdentityForm.ofJson demand (.object members) = .ok form →
      ∃ i, form.toIdentity? = some i ∧ Identity.ofNames? (some username) domain = some i) ∧
    (Identity.ofNames? (some username) domain = none →
      ∀ (s : MemorySession) (name : String), s.isClosed = false →
        s.impersonate name username domain = (.error (.value Identity.blankMessage), s)) ∧
    ∀ i, Identity.ofNames? (some username) domain = some i →
      MemorySession.LooksFor i username domain ∧
      Identity.ofNames? (some i.username) i.domain = some i ∧
      ∀ {σ : Type} (repository : Repository σ) (policy : AuthorizationPolicy)
        (request : AuthorizationRequest) (now : Nat) (w : σ), request.identity = i →
        ActsFor i ((job policy request).run repository now w).events
          ((job policy request).trail repository now w).visits := by
  have hform := IdentityForm.ofJson_of_names husername hdomain demand
  refine ⟨?_, ?_, ?_, ?_, ?_⟩
  · by_cases hblank : username.strip = ""
    · simp [hform, hblank, Identity.ofNames?_of_strip_eq hblank]
    · simp [hform, hblank, Identity.ofNames?_of_strip_ne hblank]
  · intro issues hissues
    rw [hform] at hissues
    split at hissues
    · exact (Except.error.inj hissues).symm
    · cases hissues
  · intro form haccepted
    rw [hform] at haccepted
    split at haccepted
    · cases haccepted
    · rename_i hblank
      cases haccepted
      have hidentity := Identity.ofNames?_of_strip_ne hblank domain
      exact ⟨_, (Identity.ofNames?_strip username domain).trans hidentity, hidentity⟩
  · intro hnone s name hopen
    exact MemorySession.impersonate_of_no_names hnone hopen name
  · -- The run hands on the trimmed names, of which the session makes the same identity again.
    intro i hi
    have hself := Identity.ofNames?_self hi
    refine ⟨MemorySession.looksFor_of_names hi, hself, ?_⟩
    rintro σ repository policy request now w rfl
    exact actsFor_of_self repository policy request now w hself

/-- Members that name a user of a domain, with blanks around both names. -/
def blankedMembers : List (Text × Json) :=
  [("username", .str "\u2003jdoe\t"), ("domain", .str "\x1cCORP\u3000")]

/-- A request for the documents `1` and `2` over a table that shows one of them to the user of the
domain, and the other to the user without one. -/
def tableRun (i : Identity) : Run Memory AuthorizationOutcome :=
  (job ⟨"memory", none, 1, true⟩ ⟨["1", "2"], i, none, none⟩).run (Memory.repository "memory") 0
    (.ofTable [("jdoe", ["1"]), ("CORP\\jdoe", ["2"])])

/-- Blanks around the names change nothing: the form is accepted, and the run tells and impersonates
the user of the domain, who sees the second document. -/
theorem principal_of_blanked_names :
    Json.lookup blankedMembers "username" = some (.str "\u2003jdoe\t") ∧
      Json.Gives blankedMembers "domain" (some (.str "\x1cCORP\u3000")) ∧
      Identity.ofNames? (some "\u2003jdoe\t") (some "\x1cCORP\u3000") =
        some ⟨"jdoe", some "CORP"⟩ ∧
      (∃ form, IdentityForm.ofJson .schema (.object blankedMembers) = .ok form ∧
        form.toIdentity? = some ⟨"jdoe", some "CORP"⟩) ∧
      (tableRun ⟨"jdoe", some "CORP"⟩).result = some (.ok (.ok ⟨["2"]⟩)) ∧
      ∀ e ∈ (tableRun ⟨"jdoe", some "CORP"⟩).events,
        e.context.lookup "username" = some (.str "CORP\\jdoe") := by
  have husername : Json.lookup blankedMembers "username" = some (.str "\u2003jdoe\t") := rfl
  have hdomain : Json.Gives blankedMembers "domain" (some (.str "\x1cCORP\u3000")) := .inl rfl
  have hidentity : Identity.ofNames? (some "\u2003jdoe\t") (some "\x1cCORP\u3000") =
      some ⟨"jdoe", some "CORP"⟩ := by decide +kernel
  obtain ⟨haccepted, -, hnamed, -, hruns⟩ :=
    principal_of_names "\u2003jdoe\t" (some "\x1cCORP\u3000") husername hdomain .schema
  obtain ⟨form, hform⟩ := haccepted.mpr ⟨_, hidentity⟩
  obtain ⟨i, hi, hsame⟩ := hnamed form hform
  obtain ⟨-, -, hacts⟩ := hruns _ hidentity
  refine ⟨husername, hdomain, hidentity, ⟨form, hform, ?_⟩, ?_, ?_⟩
  · rw [hi, ← hsame, hidentity]
  · exact result_of_granted? (by decide +kernel)
  · exact (hacts _ _ _ _ _ rfl).told

end Authorization
end DocAccess
