import DocAccess.Proofs.Authorization.Basic
import DocAccess.Proofs.Repository.Memory

/-!
# A request keeps to its own

After the opening a request calls its own session only, impersonates its own principal and asks
about its own documents, and its calls are few. Over a table the number of its session has no
part in what it comes to.
-/
namespace DocAccess
namespace Authorization

variable (policy : AuthorizationPolicy) (request : AuthorizationRequest) (session : Session)

/-- The call is one of the request on session `number`: it impersonates no other principal and
asks about a stretch of the documents of the request. -/
def OwnCall (number : Nat) : Call → Prop
  | .openSession => False
  | .setTimeout n _ => n = number
  | .impersonate n username domain =>
    n = number ∧ username = request.identity.username ∧ domain = request.identity.domain
  | .query n q => n = number ∧ q.predicate.values <:+: request.docIds
  | .closeSession n => n = number

/-- An own call is made on the session of the request. -/
theorem session?_of_ownCall {number : Nat} {c : Call} (h : OwnCall request number c) :
    c.session? = some number := by
  cases c with
  | openSession => exact h.elim
  | setTimeout n limit => exact congrArg some h
  | impersonate n username domain => exact congrArg some h.1
  | query n q => exact congrArg some h.1
  | closeSession n => exact congrArg some h

section Bounds

/-- Settling a request makes no call. -/
theorem bounded_settle (P : Call → Prop) (k : Nat) (p : Progress) (ending : Ending) :
    (settle policy request p ending).Bounded P k := by
  cases ending with
  | raised f => exact .done _
  | expired => exact .log (.done _)
  | finished result =>
    cases result with
    | error e => exact .log (.done _)
    | ok d => exact .log (.done _)

/-- Closing is one call. -/
theorem bounded_close (p : Progress) (ending : Ending) (k : Nat) :
    (close policy request session p ending).Bounded (OwnCall request session.number) (k + 1) := by
  refine .call rfl fun ended => ?_
  cases ended with
  | returned u => exact bounded_settle policy request _ _ _ _
  | raised f => exact .log (bounded_settle policy request _ _ _ _)
  | cancelled => exact bounded_settle policy request _ _ _ _

/-- Batches of the documents of a request are one call each, and then the session is closed. -/
theorem bounded_queryBatches (bs : List Batch) (hown : ∀ b ∈ bs, b.docIds <:+: request.docIds)
    (a : Aggregate) (p : Progress) :
    (queryBatches policy request session bs a p).Bounded (OwnCall request session.number)
      (bs.length + 1) := by
  induction bs generalizing a p with
  | nil => exact bounded_close policy request session _ _ 0
  | cons b bs ih =>
    have hrest := fun a p => ih (fun c hc => hown c (List.mem_cons_of_mem b hc)) a p
    rw [queryBatches]
    refine Program.Bounded.logAll (.call ⟨rfl, hown b List.mem_cons_self⟩ fun ended => ?_) _
    cases ended with
    | raised f => exact bounded_close policy request session _ _ _
    | cancelled => exact bounded_close policy request session _ _ _
    | returned answer =>
      cases answer with
      | error e => exact bounded_close policy request session _ _ _
      | ok rows =>
        simp only
        cases a.absorb b rows with
        | error f => exact bounded_close policy request session _ _ _
        | ok step => exact ((hrest step.next _).logAll _).logAll _

/-- The batches of a request hold stretches of its documents, and there are no more of them than
documents. -/
theorem own_drain (cap : BatchCap) (docIds : List Text) :
    (∀ b ∈ (BatchSource.ofList cap docIds).drain.1, b.docIds <:+: docIds) ∧
      (BatchSource.ofList cap docIds).drain.1.length ≤ docIds.length := by
  constructor
  · intro b hb
    obtain ⟨i, hi⟩ := List.mem_iff_getElem?.mp hb
    rw [BatchSource.docIds_drain cap hi]
    exact slice_infix cap.size docIds i
  · rw [BatchSource.length_drain]
    exact sliceCount_le cap.positive

/-- Work after the limit makes at most two calls more than there are documents. -/
theorem bounded_impersonate :
    (impersonate policy request session).Bounded (OwnCall request session.number)
      (request.docIds.length + 2) := by
  refine .call ⟨rfl, rfl, rfl⟩ fun ended => ?_
  cases ended with
  | raised f => exact bounded_close policy request session _ _ _
  | cancelled => exact bounded_close policy request session _ _ _
  | returned answer =>
    cases answer with
    | error e => exact bounded_close policy request session _ _ _
    | ok u =>
      simp only
      cases BatchCap.ofInt? policy.batchCap with
      | error e => exact bounded_close policy request session _ _ _
      | ok cap =>
        obtain ⟨hown, hlen⟩ := own_drain cap request.docIds
        exact (bounded_queryBatches policy request session _ hown _ _).mono (by omega)

/-- Work on a session makes at most three calls more than there are documents. -/
theorem bounded_configure :
    (configure policy request session).Bounded (OwnCall request session.number)
      (request.docIds.length + 3) := by
  have himp := bounded_impersonate policy request session
  unfold configure
  cases policy.queryLimit with
  | none => exact himp.mono (by omega)
  | some limit =>
    by_cases hs : session.supportsTimeouts
    · simp only [hs, if_true]
      refine .call rfl fun ended => ?_
      cases ended with
      | raised f => exact bounded_close policy request session _ _ _
      | cancelled => exact bounded_close policy request session _ _ _
      | returned u => exact himp
    · simp only [hs]
      exact .log (himp.mono (by omega))

/-- A request opens a session and then makes calls of its own. It makes at most four calls more than
there are documents. -/
theorem bounded_program_own :
    (program policy request).Bounded
      (fun c => c = .openSession ∨ ∃ number, OwnCall request number c) (callBound request) := by
  unfold program
  split
  · exact .done _
  · split
    · exact .done _
    · refine .log ?_
      split
      · exact .done _
      · refine .call (.inl rfl) fun ended => ?_
        cases ended with
        | raised f => exact bounded_settle policy request _ _ _ _
        | cancelled => exact bounded_settle policy request _ _ _ _
        | returned answer =>
          cases answer with
          | error e => exact bounded_settle policy request _ _ _ _
          | ok session =>
            exact (bounded_configure policy request session).imp fun _ hown => .inr ⟨_, hown⟩

/-- The calls of a request are bounded, whatever they are. -/
theorem bounded_program :
    (program policy request).Bounded (fun _ => True) (callBound request) :=
  (bounded_program_own policy request).imp fun _ _ => trivial

end Bounds

section Alone

variable (name : String) (supportsTimeouts : Bool) (number other : Nat)

/-- The number of the session has no part in what closing it leaves. -/
theorem eval_close_alone (p : Progress) (ending : Ending) (s : MemorySession) :
    (close policy request ⟨number, supportsTimeouts⟩ p ending).eval (MemorySession.alone name) s =
      (close policy request ⟨other, supportsTimeouts⟩ p ending).eval (MemorySession.alone name) s :=
  rfl

/-- The number of the session has no part in what queries come to. -/
theorem eval_queryBatches_alone (bs : List Batch) (a : Aggregate) (p : Progress)
    (s : MemorySession) :
    (queryBatches policy request ⟨number, supportsTimeouts⟩ bs a p).eval
        (MemorySession.alone name) s =
      (queryBatches policy request ⟨other, supportsTimeouts⟩ bs a p).eval
        (MemorySession.alone name) s := by
  have hclose := eval_close_alone policy request name supportsTimeouts number other
  induction bs generalizing a p s with
  | nil => exact hclose p _ s
  | cons b bs ih =>
    have hask : ∀ n, (MemorySession.alone name).perform (.query n b.query) s =
        ⟨.ok (s.query name b.query).1, [], (s.query name b.query).2⟩ := fun n => rfl
    simp only [queryBatches, Program.eval_logAll, Program.eval, hask]
    cases (s.query name b.query).1 with
    | error e => exact hclose _ _ _
    | ok rows =>
      simp only [Ended.ofExcept]
      cases a.absorb b rows with
      | error f => exact hclose _ _ _
      | ok step =>
        simp only [Program.eval_logAll]
        exact ih _ _ _

/-- The number of the session has no part in what an impersonation leads to. -/
theorem eval_impersonate_alone (s : MemorySession) :
    (impersonate policy request ⟨number, supportsTimeouts⟩).eval (MemorySession.alone name) s =
      (impersonate policy request ⟨other, supportsTimeouts⟩).eval (MemorySession.alone name) s := by
  have hask : ∀ n, (MemorySession.alone name).perform
      (.impersonate n request.identity.username request.identity.domain) s =
        ⟨(s.impersonate name request.identity.username request.identity.domain).1, [],
          (s.impersonate name request.identity.username request.identity.domain).2⟩ :=
    fun n => rfl
  simp only [impersonate, Program.eval, hask]
  have hclose := eval_close_alone policy request name supportsTimeouts number other
  rcases (s.impersonate name request.identity.username request.identity.domain).1 with f | e | u
  · exact hclose _ _ _
  · exact hclose _ _ _
  · simp only [Ended.ofExcept]
    cases BatchCap.ofInt? policy.batchCap with
    | error e => exact hclose _ _ _
    | ok cap => exact eval_queryBatches_alone policy request name supportsTimeouts _ _ _ _ _ _

/-- The number of the session has no part in what a request comes to. -/
theorem eval_configure_alone (s : MemorySession) :
    (configure policy request ⟨number, supportsTimeouts⟩).eval (MemorySession.alone name) s =
      (configure policy request ⟨other, supportsTimeouts⟩).eval (MemorySession.alone name) s := by
  have himp := eval_impersonate_alone policy request name supportsTimeouts number other
  unfold configure
  cases policy.queryLimit with
  | none => exact himp s
  | some limit =>
    cases supportsTimeouts with
    | false => exact himp s
    | true => exact himp s

end Alone

end Authorization
end DocAccess
