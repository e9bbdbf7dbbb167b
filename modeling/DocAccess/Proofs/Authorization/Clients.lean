import DocAccess.Proofs.Authorization.Course
import DocAccess.Proofs.Authorization.Remote
import DocAccess.Proofs.Remote.Clients

/-!
# Clients that a request leaves behind

When a request over a remote repository ends, as many clients are open as before it, unless its
opening left one behind: the deadline cancelled the opening, its reply was a fault other than one
of transport or a body nested too deeply, or its request had no address. Then there is one more,
and nobody is left to close it. What happens on an open session has no part in this.

## Main definitions

* `leavesBehind` — some opening among visits leaves its client open.

## Main statements

* `openClients_of_run` — the number of open clients after a request.
-/
namespace DocAccess
namespace Authorization

open Remote

variable {policy : AuthorizationPolicy} {request : AuthorizationRequest} {session : Session}
  {config : RemoteConfig} {w w' : Remote}

/-- Whether an opening among the visits leaves its client open without a session, given the world
in which it begins. -/
def leavesBehind (config : RemoteConfig) (w : Remote) (visits : List Visit) : Bool :=
  visits.any fun v => decide (v.call = .openSession) && leavesClient config w v

/-- Visits that begin with an opening leave a client behind if that does or the others do. -/
theorem leavesBehind_cons {opening : Visit} (hcall : opening.call = .openSession)
    (visits : List Visit) : leavesBehind config w (opening :: visits) =
      (leavesClient config w opening || leavesBehind config w visits) := by
  rw [leavesBehind, List.any_cons, hcall, decide_eq_true rfl, Bool.true_and, leavesBehind]

/-- Work on a session, one call after another, leaves the ledger as it is. -/
theorem ledger_of_through {works : List Visit} (h : (repository config).Through w works w')
    (hworks : ∀ v ∈ works, Works request session v.call) : w'.ledger = w.ledger := by
  refine h.invariant (I := fun u => u.ledger = w.ledger)
    (P := fun v => Works request session v.call) ?_ hworks rfl
  intro u v u' hv hu htakes
  exact (ledger_of_works htakes hv.ne_openSession hv.ne_closeSession).trans hu

section

variable {before : List Visit} {steps : Trail} {outcome : AuthorizationOutcome}

/-- A request on its session leaves the session's client closed, and no other change. -/
theorem balance_of_stopped (s : Stopped policy request session before steps outcome)
    (hended : s.closing.ending ≠ none)
    (hthrough : (repository config).Through w (s.works ++ [s.closing]) w')
    (hstands : w.Stands session.number) : w'.balance = w.balance - 1 := by
  obtain ⟨u, hworks, u', hclosing, rfl⟩ := Repository.through_append.mp hthrough
  have hledger : u.ledger = w.ledger := ledger_of_through hworks s.works_on
  have hbalance : u.balance = w.balance := congrArg Prod.fst hledger
  rw [balance_of_closing hclosing s.closing_call hended (hstands.of_ledger hledger), hbalance]

/-- A request on its session opens no other one, so it leaves nothing behind. -/
theorem leavesBehind_of_stopped (s : Stopped policy request session before steps outcome) :
    leavesBehind config w (s.works ++ [s.closing]) = false := by
  rw [leavesBehind, List.any_eq_false]
  intro v hv
  rcases List.mem_append.mp hv with hv | hv
  · simp [(s.works_on v hv).ne_openSession]
  · simp [List.mem_singleton.mp hv, s.closing_call]

/-- The balance after a request for documents. -/
theorem balance_of_account (h : Account policy request steps outcome)
    (hended : ∀ v ∈ steps.visits, v.ending ≠ none)
    (hthrough : (repository config).Through w steps.visits w') :
    w'.balance = w.balance + (leavesBehind config w steps.visits).toNat := by
  cases h with
  | refused hnone =>
    rw [hnone] at hthrough ⊢
    cases hthrough
    simp [leavesBehind]
  | @unopened batches opening ending rest _ _ hcall hopened _ hsettle =>
    rw [visits_unopened hsettle] at hended hthrough ⊢
    obtain ⟨u, htakes, rfl⟩ := hthrough
    rcases balance_of_opening htakes hcall (hended opening List.mem_cons_self) with
      ⟨session, hsome, -⟩ | ⟨-, hbalance⟩
    · rw [hopened] at hsome
      cases hsome
    · rw [leavesBehind_cons hcall, leavesBehind, List.any_nil, Bool.or_false]
      exact hbalance
  | @opened batches opening session steps _ _ hopened hstopped =>
    obtain ⟨s⟩ := hstopped
    have hcall := Visit.call_of_opened hopened
    rw [s.visits_opened] at hended hthrough ⊢
    obtain ⟨u, htakes, hrest⟩ := hthrough
    rcases balance_of_opening htakes hcall (hended opening List.mem_cons_self) with
      ⟨session', hsome, hleaves, hstands, hbalance⟩ | ⟨hnone, -⟩
    · rw [hopened] at hsome
      cases hsome
      have hclosed := balance_of_stopped s (hended s.closing (by simp)) hrest hstands
      rw [leavesBehind_cons hcall, hleaves, leavesBehind_of_stopped s, hclosed, hbalance]
      simp
    · rw [hopened] at hnone
      cases hnone

end

/-- **The number of open clients after a request** is the number before it, and one more if its
opening leaves a client behind. -/
theorem openClients_of_run (config : RemoteConfig) (policy : AuthorizationPolicy)
    (request : AuthorizationRequest) (now : Nat) {w : Remote}
    (hle : w.clientsClosed ≤ w.clientsOpened)
    (hended : ((job policy request).run (repository config) now w).result ≠ none) :
    ((job policy request).run (repository config) now w).world.openClients =
      w.openClients + (leavesBehind config w
        ((job policy request).trail (repository config) now w).visits).toNat := by
  obtain ⟨hpath, hthrough⟩ := (job policy request).path_through (repository config) now w
  obtain ⟨outcome, houtcome⟩ := Option.ne_none_iff_exists'.mp hended
  rw [houtcome] at hpath
  have hbalance : ((job policy request).run (repository config) now w).world.balance =
      w.balance + (leavesBehind config w
        ((job policy request).trail (repository config) now w).visits).toNat := by
    by_cases hne : request.docIds = []
    · have hdone : (job policy request).program = .done (.ok (.ok .empty)) := program_of_nil hne
      rw [Job.run, Job.trail, hdone]
      simp [Program.run, Program.trail, leavesBehind]
    · exact balance_of_account (account_of_path hne hpath) hpath.ended_of_some hthrough
  have hnonneg : 0 ≤ w.balance := by
    simp only [balance]
    omega
  rw [openClients_eq, openClients_eq, hbalance]
  omega

/-- A request for one document that is cut off after five units of the clock. -/
def impatientRequest : AuthorizationRequest :=
  ⟨["a"], ⟨"u", none⟩, some (.real (.finite false 5)), none⟩

/-- A server that takes nine units to open a session. -/
def hesitantServer : Remote :=
  .ofScript [⟨.lasts 9, (answering 201 "\x7b\"session_id\": \"s\"\x7d").reply⟩]

/-- A server whose first reply is a fault other than one of transport. -/
def faultyServer : Remote := .ofScript [⟨.immediate, .raise (.value "boom")⟩]

/-- The fault is raised by the request, which leaves a client behind. -/
theorem openClients_of_faulty_server :
    faultyServer.clientsClosed ≤ faultyServer.clientsOpened ∧
      let run := (job unlimitedPairs repeatedDocument).run (repository plainRemote) 0 faultyServer
      run.result = some (.error (.value "boom")) ∧ run.world.openClients = 1 := by
  have hresult := result_of_comparable? (show comparable? ((job unlimitedPairs repeatedDocument).run
    (repository plainRemote) 0 faultyServer) = some (.error (.value "boom")) by decide +kernel)
  have hleaves : leavesBehind plainRemote faultyServer ((job unlimitedPairs repeatedDocument).trail
      (repository plainRemote) 0 faultyServer).visits = true := by decide +kernel
  have hopen := openClients_of_run plainRemote unlimitedPairs repeatedDocument 0
    (w := faultyServer) (by decide) (by rw [hresult]; simp)
  rw [hleaves] at hopen
  exact ⟨by decide, hresult, hopen⟩

/-- **A request leaves a client behind.** The deadline cancels the opening, the request fails as
late, and the client that it created stays open. -/
theorem leaves_client_behind :
    hesitantServer.openClients = 0 ∧
      let run := (job unlimitedPairs impatientRequest).run (repository plainRemote) 0 hesitantServer
      (∃ e, run.result = some (.ok (.error e))) ∧ run.world.sessions.length = 0 ∧
        run.world.openClients = 1 := by
  have hfailed : (failure? ((job unlimitedPairs impatientRequest).run (repository plainRemote) 0
      hesitantServer)).isSome = true := by decide +kernel
  obtain ⟨e, he⟩ := Option.isSome_iff_exists.mp hfailed
  exact ⟨by decide, ⟨e, result_of_failure? he⟩, by decide +kernel, by decide +kernel⟩

end Authorization
end DocAccess
