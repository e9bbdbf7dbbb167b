import DocAccess.Proofs.Authorization.Deadline
import DocAccess.Proofs.Authorization.Outcome
import DocAccess.Repository.Scripted

/-!
# Where a late failure comes from

A request fails as late when some call says that time ran out, and only then. A call may say so in
three ways: it is cancelled, it raises a fault that says so, or it answers with a failure that says
so. Without a deadline no call is cancelled; but any call may raise such a fault, so a request
without a deadline may fail as if it had one, although no query has said that time ran out.

## Main definitions

* `Call.tellsLate` — how a call says that time ran out.
* `Candid` — a program that ends late if and only if some call says that time ran out.

## Main statements

* `Candid.late_of_path` — a candid program along a path.
* `candid_program` — the program of a request is candid.
* `late_without_deadline` — a request without a deadline that fails as late.
-/
namespace DocAccess

/-! ## Calls that say that time ran out -/

/-- Whether the end of a call says that time ran out. What closing a session raises says nothing. -/
def Call.tellsLate : (c : Call) → Ended c.Answer → Bool
  | _, .cancelled => true
  | .closeSession _, _ => false
  | .openSession, .returned (.error e) => e.isDeadlineExceeded
  | .impersonate .., .returned (.error e) => e.isDeadlineExceeded
  | .query .., .returned (.error e) => e.isDeadlineExceeded
  | _, .returned _ => false
  | _, .raised f => f.isTimeout

namespace Visit

/-- Whether the call said that time ran out. -/
def tellsLate (v : Visit) : Bool :=
  match v.ending with
  | some (_, how) => v.call.tellsLate how
  | none => false

/-- The failure that the call answered with. -/
def failure? : Visit → Option RepositoryError
  | ⟨.openSession, _, some (_, .returned (.error e))⟩ => some e
  | ⟨.impersonate .., _, some (_, .returned (.error e))⟩ => some e
  | ⟨.query .., _, some (_, .returned (.error e))⟩ => some e
  | _ => none

/-- The call answered with a failure that says that time ran out, or it raised a fault that says so
and did not close a session. -/
def BlamesTime (v : Visit) : Prop :=
  (∃ e, v.failure? = some e ∧ e.isDeadlineExceeded = true) ∨
    ∃ f, v.fault? = some f ∧ f.isTimeout = true ∧ ∀ number, v.call ≠ .closeSession number

/-- **A call says that time ran out** when it is cancelled, and by its answer or its fault. -/
theorem tellsLate_iff {v : Visit} : v.tellsLate = true ↔ v.cancelled = true ∨ v.BlamesTime := by
  obtain ⟨c, began, ending⟩ := v
  cases ending with
  | none => simp [tellsLate, cancelled, BlamesTime, failure?, fault?]
  | some ending =>
    obtain ⟨ended, how⟩ := ending
    cases how with
    | cancelled => simp [tellsLate, cancelled, Call.tellsLate]
    | raised f =>
      cases c <;> simp [tellsLate, cancelled, BlamesTime, failure?, fault?, Call.tellsLate]
    | returned answer =>
      -- Limits and closings answer nothing that could be a failure.
      cases c
      case setTimeout | closeSession =>
        simp [tellsLate, cancelled, BlamesTime, failure?, fault?, Call.tellsLate]
      case openSession | impersonate | query =>
        cases answer <;> simp [tellsLate, cancelled, BlamesTime, failure?, fault?, Call.tellsLate]

end Visit

/-- Without a deadline no call is cancelled. -/
theorem Program.cancelled_of_unlimited {σ α : Type} (repository : Repository σ) (p : Program α)
    (now : Nat) (w : σ) : ∀ v ∈ (p.trail repository none now w).visits, v.cancelled = false := by
  induction p generalizing now w with
  | done a => simp [trail]
  | log e rest ih => exact ih now w
  | call c next ih =>
    simp only [trail]
    cases hu : (repository.start c w).wait.under none now with
    | elapsed clock =>
      intro v hv
      rcases List.mem_cons.mp hv with rfl | hv
      · cases ((repository.start c w).finish (repository.start c w).world).outcome <;> rfl
      · exact ih _ _ _ v hv
    | expired clock => exact absurd hu (Wait.under_none_ne_expired _ _ _)
    | never =>
      intro v hv
      rw [List.mem_singleton.mp hv]
      rfl

/-! ## Candid programs -/

/-- The program ends late if some call has said that time ran out, as `told` says, or one of its own
calls says so, and not otherwise. -/
inductive Candid {α : Type} (late : α → Bool) : Bool → Program α → Prop
  | done {told : Bool} {a : α} : late a = told → Candid late told (.done a)
  | log {told : Bool} {e : Event} {rest : Program α} :
      Candid late told rest → Candid late told (.log e rest)
  | call {told : Bool} {c : Call} {next : Ended c.Answer → Program α} :
      (∀ how, Candid late (told || c.tellsLate how) (next how)) → Candid late told (.call c next)

namespace Candid

variable {α : Type} {late : α → Bool} {told : Bool} {p : Program α}

/-- Events say nothing. -/
theorem logAll (h : Candid late told p) (es : List Event) : Candid late told (p.logAll es) := by
  induction es with
  | nil => exact h
  | cons e es ih => exact .log ih

/-- **A candid program along a path** ends late if and only if that was told before or is told by
some call on the path. -/
theorem late_of_path (h : Candid late told p) {steps : Trail} {a : α}
    (hpath : p.Path steps (some a)) : late a = (told || steps.visits.any Visit.tellsLate) := by
  -- A call hands on to the rest what it has told.
  induction h generalizing steps with
  | done hlate =>
    cases hpath
    simpa using hlate
  | log _ ih =>
    cases hpath with
    | log hpath =>
      rw [Trail.visits_wrote]
      exact ih hpath
  | call _ ih =>
    cases hpath with
    | call began ended how hpath =>
      rw [ih how hpath, Trail.visits_visited, List.any_cons, Bool.or_assoc]
      rfl

end Candid

/-! ## A request is candid -/

/-- Whether an outcome is a failure that says that time ran out. -/
def AuthorizationOutcome.late : AuthorizationOutcome → Bool
  | .ok (.error e) => e.isDeadlineExceeded
  | _ => false

/-- Whether an ending says that time ran out. -/
def Ending.late : Ending → Bool
  | .finished (.error e) => e.isDeadlineExceeded
  | .finished (.ok _) | .raised _ => false
  | .expired => true

/-- A fault ends a request as late when it says so. -/
theorem Ending.late_ofFault (f : Fault) : (ofFault f).late = f.isTimeout := by
  unfold ofFault
  cases f.isTimeout <;> rfl

/-- The batch of a failure has no part in whether it is late. -/
theorem RepositoryError.isDeadlineExceeded_atBatch (e : RepositoryError) (index : Int) :
    (e.atBatch index).isDeadlineExceeded = e.isDeadlineExceeded := by
  obtain ⟨code, message, repository, details, kind⟩ := e
  rcases kind with _ | _ | _ | ⟨_ | _, late⟩ <;> rfl

namespace Authorization

variable (policy : AuthorizationPolicy) (request : AuthorizationRequest) (session : Session)

/-- What a request has come to is told when it is settled. -/
theorem candid_settle (p : Progress) (ending : Ending) :
    Candid AuthorizationOutcome.late ending.late (settle policy request p ending) := by
  have hconclude : ∀ result : AuthorizationResult,
      Candid AuthorizationOutcome.late (AuthorizationOutcome.late (.ok result))
        (conclude policy request p result) := by
    intro result
    cases result with
    | error e => exact .log (.done rfl)
    | ok docs => exact .log (.done rfl)
  cases ending with
  | raised f => exact .done rfl
  | expired => exact hconclude (.error (deadlineFailure policy request p))
  | finished result =>
    cases result with
    | error e => exact hconclude (.error e)
    | ok docs => exact hconclude (.ok docs)

/-- Closing a session says that time ran out when it is cancelled, and not otherwise. -/
theorem candid_close (p : Progress) (ending : Ending) :
    Candid AuthorizationOutcome.late ending.late (close policy request session p ending) := by
  refine .call fun how => ?_
  cases how with
  | returned u => simpa [Call.tellsLate] using candid_settle policy request p ending
  | raised f => simpa [Call.tellsLate] using (candid_settle policy request p ending).log
  | cancelled =>
    rw [Call.tellsLate, Bool.or_true]
    exact candid_settle policy request p .expired

variable {session}

/-- A call that stops a request says what the ending says. -/
theorem candid_close_of_late {c : Call} {how : Ended c.Answer} (p : Progress) {ending : Ending}
    (h : c.tellsLate how = ending.late) :
    Candid AuthorizationOutcome.late (false || c.tellsLate how)
      (close policy request session p ending) := by
  rw [Bool.false_or, h]
  exact candid_close policy request session p ending

variable (session)

theorem candid_queryBatches (bs : List Batch) (a : Aggregate) (p : Progress) :
    Candid AuthorizationOutcome.late false (queryBatches policy request session bs a p) := by
  induction bs generalizing a p with
  | nil => exact candid_close policy request session p (.finished (.ok a.authorized))
  | cons b bs ih =>
    rw [queryBatches]
    refine .logAll (.call fun how => ?_) _
    cases how with
    | cancelled => exact candid_close_of_late policy request _ rfl
    | raised f => exact candid_close_of_late policy request _ (Ending.late_ofFault f).symm
    | returned answer =>
      cases answer with
      | error e =>
        exact candid_close_of_late policy request _ (e.isDeadlineExceeded_atBatch b.index).symm
      | ok rows =>
        simp only
        split
        · exact ((ih _ _).logAll _).logAll _
        · rename_i f habsorb
          refine candid_close_of_late policy request _ ?_
          rw [Ending.late_ofFault, Aggregate.isTimeout_of_absorb habsorb]
          rfl

theorem candid_impersonate :
    Candid AuthorizationOutcome.late false (impersonate policy request session) := by
  refine .call fun how => ?_
  cases how with
  | cancelled => exact candid_close_of_late policy request _ rfl
  | raised f => exact candid_close_of_late policy request _ (Ending.late_ofFault f).symm
  | returned answer =>
    cases answer with
    | error e => exact candid_close_of_late policy request _ rfl
    | ok u =>
      simp only
      split
      · exact candid_queryBatches policy request session _ _ _
      · exact candid_close_of_late policy request _ rfl

theorem candid_configure :
    Candid AuthorizationOutcome.late false (configure policy request session) := by
  have himpersonate := candid_impersonate policy request session
  rw [configure]
  cases policy.queryLimit with
  | none => exact himpersonate
  | some limit =>
    by_cases hs : session.supportsTimeouts
    · simp only [hs, if_true]
      refine .call fun how => ?_
      cases how with
      | cancelled => exact candid_close_of_late policy request _ rfl
      | raised f => exact candid_close_of_late policy request _ (Ending.late_ofFault f).symm
      | returned u => exact himpersonate
    · simp only [hs]
      exact .log himpersonate

theorem candid_openSession :
    Candid AuthorizationOutcome.late false (openSession policy request) := by
  refine .call fun how => ?_
  cases how with
  | cancelled => exact candid_settle policy request _ .expired
  | raised f =>
    have hsettle := candid_settle policy request .sessionOpening (.ofFault f)
    rwa [Ending.late_ofFault] at hsettle
  | returned answer =>
    cases answer with
    | error e => exact candid_settle policy request _ (.finished (.error e))
    | ok session => exact candid_configure policy request session

/-- **The program of a request is candid.** -/
theorem candid_program : Candid AuthorizationOutcome.late false (program policy request) := by
  rw [program]
  by_cases hempty : request.docIds.isEmpty
  · rw [if_pos hempty]
    exact .done rfl
  · rw [if_neg hempty]
    cases batchCount request.docIds.length policy.batchCap with
    | none => exact .done rfl
    | some batches =>
      refine .log ?_
      by_cases hlong : deadlineOverflows request = true
      · rw [if_pos hlong]
        exact .done rfl
      · rw [if_neg hlong]
        exact candid_openSession policy request

/-- **A request without a deadline that fails as late.** It does so if and only if it ends and some
call blames the time: one that answered with a failure that says that time ran out, be it a query
or not, or one that raised a fault that says so and did not close a session. -/
theorem late_without_deadline {σ : Type} (repository : Repository σ) (policy : AuthorizationPolicy)
    (request : AuthorizationRequest) (now : Nat) (world : σ) (hdeadline : request.deadline = none) :
    let run := (job policy request).run repository now world
    (∃ e, run.result = some (.ok (.error e)) ∧ e.isDeadlineExceeded = true) ↔
      run.result ≠ none ∧
        ∃ v ∈ ((job policy request).trail repository now world).visits, v.BlamesTime := by
  intro run
  have hunlimited : (job policy request).expiry now = none := by simp [job, Job.expiry, hdeadline]
  have hpath : (program policy request).Path ((job policy request).trail repository now world)
      run.result := Program.path_trail repository _ _ now world
  have hkept : ∀ v ∈ ((job policy request).trail repository now world).visits,
      v.cancelled = false := by
    rw [Job.trail, hunlimited]
    exact Program.cancelled_of_unlimited repository _ now world
  have hblames : (∃ v ∈ ((job policy request).trail repository now world).visits, v.BlamesTime) ↔
      ((job policy request).trail repository now world).visits.any Visit.tellsLate = true := by
    rw [List.any_eq_true]
    refine exists_congr fun v => and_congr_right fun hv => ?_
    simp [Visit.tellsLate_iff, hkept v hv]
  rw [hblames]
  generalize run.result = result at hpath ⊢
  cases result with
  | none => simp
  | some outcome =>
    have hlate := (candid_program policy request).late_of_path hpath
    rw [Bool.false_or] at hlate
    rw [← hlate]
    rcases outcome with f | e | docs <;> simp [AuthorizationOutcome.late]

/-- A request without a deadline for some documents, one in each batch. -/
def undatedJob (docIds : List Text) : Job AuthorizationOutcome :=
  job ⟨"scripted", none, 1, false⟩ ⟨docIds, ⟨"u", none⟩, none, none⟩

/-- A script whose second query answers that time ran out. -/
def answeringLate : Script where
  opening := .plain
  supportsTimeouts := false
  impersonation := .plain
  queries := [⟨.plain, .visible ["a"]⟩]
  defaultQuery :=
    ⟨⟨.immediate, .fail ⟨.queryTimeout, "slow", "scripted", none, .query none true⟩⟩, .visible []⟩
  closing := .plain

/-- A run that ends with a failure that says that time ran out. -/
theorem exists_late {σ : Type} {r : Run σ AuthorizationOutcome}
    (h : (failure? r).any RepositoryError.isDeadlineExceeded = true) :
    ∃ e, r.result = some (.ok (.error e)) ∧ e.isDeadlineExceeded = true := by
  cases he : failure? r with
  | none => simp [he] at h
  | some e => exact ⟨e, result_of_failure? he, by simpa [he] using h⟩

/-- Over `answeringLate` a request for two documents fails as late, and some call is to blame. -/
theorem late_of_second_query :
    (∃ e, ((undatedJob ["a", "b"]).run (answeringLate.repository "scripted") 0 []).result =
      some (.ok (.error e)) ∧ e.isDeadlineExceeded = true) ∧
    ∃ v ∈ ((undatedJob ["a", "b"]).trail (answeringLate.repository "scripted") 0 []).visits,
      v.BlamesTime := by
  have hlate := exists_late (r := (undatedJob ["a", "b"]).run
    (answeringLate.repository "scripted") 0 []) (by decide +kernel)
  have hblames := late_without_deadline (answeringLate.repository "scripted")
    ⟨"scripted", none, 1, false⟩ ⟨["a", "b"], ⟨"u", none⟩, none, none⟩ 0 [] rfl
  exact ⟨hlate, (hblames.mp hlate).2⟩

/-- The script `answeringLate`, but opening a session raises that time ran out. -/
def openingLate : Script :=
  { answeringLate with opening := ⟨.immediate, .raise ⟨.timeout, "t"⟩⟩ }

/-- **A request without a deadline fails as late although it has asked nothing.** -/
theorem late_without_query :
    let run := (undatedJob ["a"]).run (openingLate.repository "scripted") 0 []
    (undatedJob ["a"]).deadline = none ∧ run.queries = 0 ∧
      ∃ e, run.result = some (.ok (.error e)) ∧ e.isDeadlineExceeded = true := by
  intro run
  exact ⟨rfl, by decide +kernel, exists_late (by decide +kernel)⟩

end Authorization
end DocAccess
