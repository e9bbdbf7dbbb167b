import DocAccess.Proofs.Authorization.Basic
import DocAccess.Proofs.Repository.Scripted

/-!
# Requests under a deadline

A deadline either has no part in a request or makes a failure of it, whatever was answered
before: there is no result in between. The lemmas follow the program from its end to its
beginning, once to compare it with the program without a deadline and once to see what is left
of it when it is cancelled.
-/
namespace DocAccess

/-- The same request under another deadline. -/
def AuthorizationRequest.within (request : AuthorizationRequest) (deadline : Option Seconds) :
    AuthorizationRequest :=
  { request with deadline }

/-- The number of the last batch, when this many queries were made. -/
def lastBatch : Nat → Option Int
  | 0 => none
  | k + 1 => some k

/-- A fault that does not say that time ran out is raised. -/
theorem Ending.ofFault_of_timely {f : Fault} (h : f.isTimeout = false) :
    Ending.ofFault f = .raised f := by
  rw [Ending.ofFault, h]
  rfl

/-- The refusal of a batch does not say that time ran out. -/
theorem Aggregate.isTimeout_of_absorb {a : Aggregate} {b : Batch} {rows : List Row} {f : Fault}
    (h : a.absorb b rows = .error f) : f.isTimeout = false := by
  unfold absorb at h
  split at h
  · cases h
  · cases h
    rfl

namespace Authorization

variable (policy : AuthorizationPolicy) (request : AuthorizationRequest)
  (deadline : Option Seconds) (session : Session)

section Alike

/-- The deadline has no part in how a request is settled in time. -/
theorem settle_within (p : Progress) {ending : Ending} (h : ending ≠ .expired) :
    settle policy (request.within deadline) p ending = settle policy request p ending := by
  cases ending with
  | finished result => cases result <;> rfl
  | raised f => rfl
  | expired => exact absurd rfl h

/-- The deadline has no part in closing a session in time. -/
theorem alike_close (p : Progress) {ending : Ending} (h : ending ≠ .expired) :
    (close policy request session p ending).Alike
      (close policy (request.within deadline) session p ending) := by
  refine .call fun ended htimely => ?_
  cases ended with
  | returned u =>
    rw [settle_within policy request deadline p h]
    exact .refl _
  | raised f =>
    rw [settle_within policy request deadline p h]
    exact .refl _
  | cancelled => exact htimely.elim

/-- A fault closes the session in time, unless it says that time ran out. -/
theorem alike_close_ofFault (p : Progress) {f : Fault} (h : f.isTimeout = false) :
    (close policy request session p (.ofFault f)).Alike
      (close policy (request.within deadline) session p (.ofFault f)) := by
  rw [Ending.ofFault_of_timely h]
  exact alike_close policy request deadline session p (by simp)

/-- The deadline has no part in queries that end in time. -/
theorem alike_queryBatches (bs : List Batch) (a : Aggregate) (p : Progress) :
    (queryBatches policy request session bs a p).Alike
      (queryBatches policy (request.within deadline) session bs a p) := by
  induction bs generalizing a p with
  | nil => exact alike_close policy request deadline session p (by simp)
  | cons b bs ih =>
    rw [queryBatches, queryBatches]
    refine Program.Alike.logAll (.call fun ended htimely => ?_) _
    cases ended with
    | cancelled => exact htimely.elim
    | raised f => exact alike_close_ofFault policy request deadline session _ htimely
    | returned answer =>
      cases answer with
      | error e => exact alike_close policy request deadline session _ (by simp)
      | ok rows =>
        -- Here the batches need not be the next ones; the refusal of one is a fault like another.
        simp only
        cases habsorb : a.absorb b rows with
        | error f =>
          exact alike_close_ofFault policy request deadline session _
            (Aggregate.isTimeout_of_absorb habsorb)
        | ok step => exact ((ih step.next _).logAll _).logAll _

/-- The deadline has no part in an impersonation that ends in time. -/
theorem alike_impersonate :
    (impersonate policy request session).Alike
      (impersonate policy (request.within deadline) session) := by
  refine .call fun ended htimely => ?_
  cases ended with
  | cancelled => exact htimely.elim
  | raised f => exact alike_close_ofFault policy request deadline session _ htimely
  | returned answer =>
    cases answer with
    | error e => exact alike_close policy request deadline session _ (by simp)
    | ok u =>
      simp only
      cases BatchCap.ofInt? policy.batchCap with
      | error e => exact alike_close policy request deadline session _ (by simp)
      | ok cap => exact alike_queryBatches policy request deadline session _ _ _

/-- The deadline has no part in work on a session that ends in time. -/
theorem alike_configure :
    (configure policy request session).Alike
      (configure policy (request.within deadline) session) := by
  unfold configure
  cases policy.queryLimit with
  | none => exact alike_impersonate policy request deadline session
  | some limit =>
    by_cases hs : session.supportsTimeouts
    · simp only [hs, if_true]
      refine .call fun ended htimely => ?_
      cases ended with
      | cancelled => exact htimely.elim
      | raised f => exact alike_close_ofFault policy request deadline session _ htimely
      | returned u => exact alike_impersonate policy request deadline session
    · simp only [hs]
      exact .log (alike_impersonate policy request deadline session)

/-- The deadline has no part in a request that ends in time. -/
theorem alike_openSession :
    (openSession policy request).Alike (openSession policy (request.within deadline)) := by
  refine .call fun ended htimely => ?_
  cases ended with
  | cancelled => exact htimely.elim
  | raised f =>
    simp only [Ending.ofFault_of_timely htimely]
    rw [settle_within policy request deadline _ (by simp)]
    exact .refl _
  | returned answer =>
    cases answer with
    | error e =>
      simp only
      rw [settle_within policy request deadline _ (by simp)]
      exact .refl _
    | ok session => exact alike_configure policy request deadline session

/-- The programs of a request under two deadlines that doubles can hold differ only in what they
do once time has run out. -/
theorem alike_program (hd : deadlineOverflows request = false)
    (hd' : deadlineOverflows (request.within deadline) = false) :
    (program policy request).Alike (program policy (request.within deadline)) := by
  by_cases hnil : request.docIds.isEmpty
  · simp only [program, AuthorizationRequest.within, hnil, if_true]
    exact .done _
  · cases hbatches : batchCount request.docIds.length policy.batchCap with
    | none =>
      simp only [program, AuthorizationRequest.within, hnil, hbatches]
      exact .done _
    | some batches =>
      simp only [program, hd, hd']
      simp only [AuthorizationRequest.within, hnil, hbatches]
      exact .log (alike_openSession policy request deadline)

end Alike

section Guarded

/-- The failure of a request for which time ran out after this many queries. -/
def lateFailure (queries : Nat) : RepositoryError :=
  deadlineFailure policy request ⟨.batchingInProgress, lastBatch queries, queries⟩

/-- How a request ends when time runs out after this many queries. -/
abbrev lateOutcome (queries : Nat) : AuthorizationOutcome :=
  .ok (.error (lateFailure policy request queries))

variable {p : Progress} {n : Nat}

/-- A request for which time ran out fails as late. -/
theorem windsUp_settle_expired (hp : p.batchIndex = lastBatch n) :
    (settle policy request p .expired).WindsUp (lateOutcome policy request n) := by
  have hfailure : deadlineFailure policy request p = lateFailure policy request n := by
    rw [lateFailure, deadlineFailure, deadlineFailure, hp]
  rw [settle, hfailure]
  exact .log .done

/-- A request for which time ran out closes its session, and then fails as late. -/
theorem windsUp_close_expired (hp : p.batchIndex = lastBatch n) :
    (close policy request session p .expired).WindsUp (lateOutcome policy request n) := by
  refine .close fun ended => ?_
  cases ended with
  | returned u => exact windsUp_settle_expired policy request hp
  | raised f => exact .log (windsUp_settle_expired policy request hp)
  | cancelled => exact windsUp_settle_expired policy request hp

/-- Settling a request is not cancelled. -/
theorem guarded_settle (ending : Ending) :
    (settle policy request p ending).Guarded (lateOutcome policy request) n := by
  cases ending with
  | raised f => exact .done _
  | expired => exact .log (.done _)
  | finished result =>
    cases result with
    | error e => exact .log (.done _)
    | ok d => exact .log (.done _)

/-- A deadline that expires while the session is closed still fails the request. -/
theorem guarded_close (hp : p.batchIndex = lastBatch n) (ending : Ending) :
    (close policy request session p ending).Guarded (lateOutcome policy request) n := by
  refine .call (fun ended _ => ?_) (windsUp_settle_expired policy request hp)
  cases ended with
  | returned u => exact guarded_settle policy request ending
  | raised f => exact .log (guarded_settle policy request ending)
  | cancelled => exact guarded_settle policy request .expired

/-- A query that is cancelled fails the request with the number of its batch. The aggregate
counts the queries made before. -/
theorem guarded_queryBatches (bs : List Batch) {a : Aggregate} (hnumbered : Numbered a.absorbed bs)
    (hp : p.batchIndex = lastBatch a.absorbed) :
    (queryBatches policy request session bs a p).Guarded (lateOutcome policy request)
      a.absorbed := by
  induction bs generalizing a p with
  | nil => exact guarded_close policy request session hp _
  | cons b bs ih =>
    have hissued : (p.issued b).batchIndex = lastBatch (a.absorbed + 1) := by
      rw [Progress.issued, hnumbered.head]
      rfl
    rw [queryBatches]
    refine Program.Guarded.logAll (.call (fun ended _ => ?_) ?_) _
    · cases ended with
      | cancelled => exact guarded_close policy request session hissued _
      | raised f => exact guarded_close policy request session hissued _
      | returned answer =>
        cases answer with
        | error e => exact guarded_close policy request session hissued _
        | ok rows =>
          simp only [Aggregate.absorb, hnumbered.head, if_true]
          have hrest := fun docs => ih (a := ⟨docs, a.absorbed + 1⟩) hnumbered.tail hissued
          exact ((hrest _).logAll _).logAll _
    · exact windsUp_close_expired policy request session hissued

/-- An impersonation that is cancelled fails the request without the number of a batch. -/
theorem guarded_impersonate :
    (impersonate policy request session).Guarded (lateOutcome policy request) 0 := by
  refine .call (fun ended _ => ?_) (windsUp_close_expired policy request session rfl)
  cases ended with
  | cancelled => exact guarded_close policy request session rfl _
  | raised f => exact guarded_close policy request session rfl _
  | returned answer =>
    cases answer with
    | error e => exact guarded_close policy request session rfl _
    | ok u =>
      simp only
      cases BatchCap.ofInt? policy.batchCap with
      | error e => exact guarded_close policy request session rfl _
      | ok cap =>
        exact guarded_queryBatches policy request session (a := .empty) (p := .batching _) _
          (BatchSource.numbered_drain cap request.docIds) rfl

/-- Work on a session that is cancelled closes it, and then the request fails as late. -/
theorem guarded_configure :
    (configure policy request session).Guarded (lateOutcome policy request) 0 := by
  unfold configure
  cases policy.queryLimit with
  | none => exact guarded_impersonate policy request session
  | some limit =>
    by_cases hs : session.supportsTimeouts
    · simp only [hs, if_true]
      refine .call (fun ended _ => ?_) (windsUp_close_expired policy request session rfl)
      cases ended with
      | cancelled => exact guarded_close policy request session rfl _
      | raised f => exact guarded_close policy request session rfl _
      | returned u => exact guarded_impersonate policy request session
    · simp only [hs]
      exact .log (guarded_impersonate policy request session)

/-- A request that is cancelled fails as late. -/
theorem guarded_program : (program policy request).Guarded (lateOutcome policy request) 0 := by
  rw [program]
  split
  · exact .done _
  · cases batchCount request.docIds.length policy.batchCap with
    | none => exact .done _
    | some batches =>
      refine .log ?_
      split
      · exact .done _
      · refine .call (fun ended _ => ?_) (windsUp_settle_expired policy request rfl)
        cases ended with
        | cancelled => exact guarded_settle policy request _
        | raised f => exact guarded_settle policy request _
        | returned answer =>
          cases answer with
          | error e => exact guarded_settle policy request _
          | ok session => exact guarded_configure policy request session

end Guarded

/-- **A deadline has no part in a request or fails it.** When no call raises a fault that says
that time ran out, a request that ends in time without a deadline is carried out under the
deadline exactly as without it. One that does not fails as late, with the number of the last
batch that was asked about, unless closing its session takes forever. -/
theorem deadline_transparent {σ : Type} (repository : Repository σ) (policy : AuthorizationPolicy)
    (request : AuthorizationRequest) (t : Seconds) (hd : t.exceedsDouble = false)
    (htimely : repository.Timely) (now : Nat) (world : σ) :
    let free := (job policy (request.within none)).run repository now world
    let timed := (job policy (request.within (some t))).run repository now world
    (free.EndsWithin now t → timed = free) ∧
    (free.Outlasts now t →
      (∃ e, timed.result = some (.ok (.error e)) ∧ e.code = .queryTimeout ∧
        e.isDeadlineExceeded = true ∧ e.kind = .query (lastBatch timed.queries) true) ∨
      timed.HangsClosing repository) := by
  intro free timed
  have halike := alike_program policy (request.within (some t)) none hd rfl
  have hstart : now ≤ free.clock := Program.le_clock_run repository _ _ _ _
  constructor
  · rintro ⟨hend, hticks⟩
    refine halike.run_eq htimely hend ?_
    intro d hdeadline
    obtain ⟨ticks, hsome, rfl⟩ := Option.map_eq_some_iff.mp hdeadline
    have hclock := hticks ticks hsome
    change free.clock = now ∨ (free.clock : Int) < now + ticks
    split at hclock
    · exact .inr (by omega)
    · exact .inl hclock
  · rintro ⟨ticks, hsome, hlate⟩
    have hexpiry : (job policy (request.within (some t))).expiry now = some (now + ticks) := by
      change t.ticks?.map (fun u => (now : Int) + u) = _
      rw [hsome]
      rfl
    have hrun : timed = (program policy (request.within (some t))).run repository
        (some (now + ticks)) now world := by
      rw [← hexpiry]
      rfl
    have hclock : free.result = none ∨ max (now : Int) (now + ticks) < free.clock := by
      refine hlate.imp id fun hlt => ?_
      split at hlt
      · omega
      · omega
    have hend := halike.run_of_late htimely (guarded_program policy _) hclock
    rw [← hrun, Nat.zero_add] at hend
    refine hend.imp (fun hresult => ?_) id
    exact ⟨_, hresult, rfl, rfl, rfl⟩

/-- Everything is answered at once, but closing a session takes nine units of the clock. -/
def slowClosing : Script where
  opening := .plain
  supportsTimeouts := false
  impersonation := .plain
  queries := []
  defaultQuery := ⟨.plain, .visible ["a", "c"]⟩
  closing := ⟨.lasts 9, .succeed⟩

/-- A run over `slowClosing` that asks about three documents in two batches, within a number of
units of the clock when there is one. -/
def slowClosingRun (units : Option Nat) : Run ScriptState AuthorizationOutcome :=
  (job ⟨"scripted", none, 2, false⟩ (AuthorizationRequest.within
    ⟨["a", "b", "c"], ⟨"u", none⟩, none, none⟩ (units.map fun n => .real (.finite false n)))).run
    (slowClosing.repository "scripted") 0 []

/-- Twenty units have no part in the request; five fail it although both queries were answered. -/
theorem deadline_transparent_of_slow_closing :
    (slowClosing.repository "scripted").Timely ∧
      (slowClosingRun none).EndsWithin 0 (.real (.finite false 20)) ∧
      slowClosingRun (some 20) = slowClosingRun none ∧
      (slowClosingRun none).Outlasts 0 (.real (.finite false 5)) ∧
      ∃ e, (slowClosingRun (some 5)).result = some (.ok (.error e)) ∧
        e.kind = .query (some 1) true := by
  have htimely : (slowClosing.repository "scripted").Timely := Script.timely _ _ (by decide)
  have hended : (slowClosingRun none).result.isSome = true := by decide +kernel
  have hclock : (slowClosingRun none).clock = 9 := by decide +kernel
  have hended' : (slowClosingRun (some 5)).result.isSome = true := by decide +kernel
  have hqueries : (slowClosingRun (some 5)).queries = 2 := by decide +kernel
  have htwenty : (slowClosingRun none).EndsWithin 0 (.real (.finite false 20)) := by
    refine ⟨Option.isSome_iff_ne_none.mp hended, ?_⟩
    rintro ticks ⟨⟩
    simp [hclock]
  have hfive : (slowClosingRun none).Outlasts 0 (.real (.finite false 5)) :=
    ⟨5, rfl, .inr (by simp [hclock])⟩
  have hrun := fun n => deadline_transparent (slowClosing.repository "scripted")
    ⟨"scripted", none, 2, false⟩ ⟨["a", "b", "c"], ⟨"u", none⟩, none, none⟩
    (.real (.finite false n)) rfl htimely 0 []
  refine ⟨htimely, htwenty, (hrun 20).1 htwenty, hfive, ?_⟩
  rcases (hrun 5).2 hfive with ⟨e, hresult, -, -, hkind⟩ | ⟨hnone, -⟩
  · have hcount : lastBatch (slowClosingRun (some 5)).queries = some 1 := by rw [hqueries]; rfl
    exact ⟨e, hresult, hkind.trans (congrArg (FailureKind.query · true) hcount)⟩
  · exact absurd hnone (Option.isSome_iff_ne_none.mp hended')

end Authorization
end DocAccess
