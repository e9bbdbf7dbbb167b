import DocAccess.Proofs.Session.AtOnce
import DocAccess.Proofs.Session.Deadline

/-!
# Worlds along a trail

`Program.Path` says what a program can do whatever the repository answers. `Repository.Through`
says the other half: from which world to which the visits of a trail lead. A run is both a path of
its program and a way through its repository, under every deadline, so what is known of the two
can be put together.

## Main statements

* `through_trail` — the visits of a run lead from its first world to its last.
* `Through.invariant` — what each visit preserves, all of them preserve.
* `Through.exists_takes` — each visit begins in a world that has what all visits preserve.
* `Path.stuck_of_none` — a run goes on forever only when some call does.
* `Job.path_through` — a run is both a path and a way through.
-/
namespace DocAccess

variable {σ α : Type}

namespace Repository

variable (repository : Repository σ)

/-- The visit may take place in the world `w`, and leads to `w'`. -/
def Takes (w : σ) (v : Visit) (w' : σ) : Prop :=
  match v.ending with
  | some (_, .returned answer) => repository.ask v.call w = .ok (answer, w')
  | some (_, .raised f) =>
    (repository.perform v.call w).outcome = .error f ∧
      w' = (repository.perform v.call w).world
  | some (_, .cancelled) =>
    w' = (repository.start v.call w).cancel (repository.start v.call w).world
  | none =>
    (repository.start v.call w).wait = .forever ∧ w' = (repository.start v.call w).world

/-- The visits may take place one after another from the world `w` on, and lead to `w'`. -/
def Through : σ → List Visit → σ → Prop
  | w, [], w' => w' = w
  | w, v :: vs, w' => ∃ u, repository.Takes w v u ∧ Through u vs w'

variable {repository}

/-- A call to its end leads to the world that it leaves. -/
theorem takes_ofExcept (c : Call) (w : σ) (began ended : Nat) :
    repository.Takes w ⟨c, began, some (ended, .ofExcept (repository.perform c w).outcome)⟩
      (repository.perform c w).world := by
  cases ho : (repository.perform c w).outcome with
  | ok answer => simp [Takes, Ended.ofExcept, ask, ho, Except.map]
  | error f => simp [Takes, Ended.ofExcept, ho]

/-- Visits that follow others begin in the world to which those lead. -/
theorem through_append {w w' : σ} {us vs : List Visit} :
    repository.Through w (us ++ vs) w' ↔
      ∃ u, repository.Through w us u ∧ repository.Through u vs w' := by
  induction us generalizing w with
  | nil => simp [Through]
  | cons v us ih =>
    simp only [List.cons_append, Through, ih]
    constructor
    · rintro ⟨u, hv, x, hus, hvs⟩
      exact ⟨x, ⟨u, hv, hus⟩, hvs⟩
    · rintro ⟨x, ⟨u, hv, hus⟩, hvs⟩
      exact ⟨u, hv, x, hus, hvs⟩

/-- **The visits of a run lead from its first world to its last.** -/
theorem through_trail (p : Program α) (deadline : Option Int) (now : Nat) (w : σ) :
    repository.Through w (p.trail repository deadline now w).visits
      (p.run repository deadline now w).world := by
  induction p generalizing deadline now w with
  | done a => rfl
  | log e rest ih => exact ih deadline now w
  | call c next ih =>
    simp only [Program.trail, Program.run]
    cases hu : (repository.start c w).wait.under deadline now with
    | elapsed clock => exact ⟨_, takes_ofExcept c w now clock, ih _ _ _ _⟩
    | expired clock => exact ⟨_, rfl, ih _ _ _ _⟩
    | never => exact ⟨_, ⟨Wait.eq_forever_of_under hu, rfl⟩, rfl⟩

/-- **What each visit preserves, all of them preserve.** -/
theorem Through.invariant {I : σ → Prop} {P : Visit → Prop}
    (hstep : ∀ w v w', P v → I w → repository.Takes w v w' → I w') {vs : List Visit} {w w' : σ}
    (hP : ∀ v ∈ vs, P v) (hI : I w) (h : repository.Through w vs w') : I w' := by
  induction vs generalizing w with
  | nil =>
    cases h
    exact hI
  | cons v vs ih =>
    obtain ⟨u, hv, hvs⟩ := h
    have hu := hstep w v u (hP v List.mem_cons_self) hI hv
    exact ih (fun x hx => hP x (List.mem_cons_of_mem v hx)) hu hvs

/-- **Each visit begins in a world that has what all visits preserve.** -/
theorem Through.exists_takes {I : σ → Prop} {P : Visit → Prop}
    (hstep : ∀ w v w', P v → I w → repository.Takes w v w' → I w') {vs : List Visit} {w w' : σ}
    (hP : ∀ v ∈ vs, P v) (hI : I w) (h : repository.Through w vs w') {v : Visit} (hv : v ∈ vs) :
    ∃ u u', I u ∧ repository.Takes u v u' := by
  obtain ⟨before, after, rfl⟩ := List.append_of_mem hv
  obtain ⟨u, hbefore, u', htakes, -⟩ := through_append.mp h
  refine ⟨u, u', ?_, htakes⟩
  exact hbefore.invariant hstep (fun x hx => hP x (List.mem_append_left _ hx)) hI

/-- What neither the end of a call nor its cancellation changes is as it was when the call had
started. -/
theorem Takes.observe {β : Type} {w w' : σ} {v : Visit} (h : repository.Takes w v w')
    (f : σ → β) (hfinish : ∀ u, f ((repository.start v.call w).finish u).world = f u)
    (hcancel : ∀ u, f ((repository.start v.call w).cancel u) = f u) :
    f w' = f (repository.start v.call w).world := by
  unfold Takes at h
  split at h
  · rw [← (repository.perform_of_ask h).2]
    exact hfinish _
  · rw [h.2]
    exact hfinish _
  · rw [h]
    exact hcancel _
  · rw [h.2]

/-- A call that has ended leads to the world that its end leaves, or its cancellation. -/
theorem Takes.world_eq {w w' : σ} {v : Visit} (h : repository.Takes w v w')
    (hended : v.ending ≠ none) :
    w' = if v.cancelled then (repository.start v.call w).cancel (repository.start v.call w).world
      else (repository.perform v.call w).world := by
  unfold Takes at h
  unfold Visit.cancelled
  split at h
  · rename_i hending
    simp only [hending]
    exact (repository.perform_of_ask h).2.symm
  · rename_i hending
    simp only [hending]
    exact h.2
  · rename_i hending
    simp only [hending, if_true]
    exact h
  · rename_i hending
    exact absurd hending hended

/-- The visit that opened a session asked the repository for it. -/
theorem Takes.ask_of_opened {w w' : σ} {v : Visit} {session : Session}
    (h : repository.Takes w v w') (hv : v.opened? = some session) :
    repository.ask .openSession w = .ok (.ok session, w') := by
  unfold Visit.opened? at hv
  split at hv
  · cases hv
    exact h
  · cases hv

/-- An opening that ended without being cancelled opened what the repository answered. -/
theorem Takes.opened_iff {w w' : σ} {v : Visit} (h : repository.Takes w v w')
    (hcall : v.call = .openSession) (hended : v.ending ≠ none) (hcancel : v.cancelled = false)
    (session : Session) :
    v.opened? = some session ↔
      (repository.perform .openSession w).outcome = .ok (.ok session) := by
  obtain ⟨c, began, ending⟩ := v
  cases hcall
  cases ending with
  | none => exact absurd rfl hended
  | some e =>
    obtain ⟨ended, how⟩ := e
    cases how with
    | cancelled => cases hcancel
    | raised f =>
      rw [h.1]
      simp [Visit.opened?]
    | returned answer =>
      rw [(repository.perform_of_ask h).1]
      cases answer <;> simp [Visit.opened?]

/-- The visit that impersonated a principal asked the repository to. -/
theorem Takes.ask_of_impersonated {w w' : σ} {v : Visit} {number : Nat} {username : Text}
    {domain : Option Text} (h : repository.Takes w v w')
    (hcall : v.call = .impersonate number username domain) (hv : v.impersonated = true) :
    repository.ask (.impersonate number username domain) w = .ok (.ok (), w') := by
  unfold Visit.impersonated at hv
  split at hv
  · cases hcall
    exact h
  · cases hv

/-- The visit that brought rows asked the repository for them. -/
theorem Takes.ask_of_rows {w w' : σ} {v : Visit} {number : Nat} {request : QueryRequest}
    {rows : List Row} (h : repository.Takes w v w') (hcall : v.call = .query number request)
    (hv : v.rows? = some rows) :
    repository.ask (.query number request) w = .ok (.ok rows, w') := by
  unfold Visit.rows? at hv
  split at hv
  · cases hcall
    cases hv
    exact h
  · cases hv

end Repository

namespace Program

/-- On a path without a result the last visit goes on forever. -/
theorem Path.stuck_of_none {p : Program α} {steps : Trail}
    (h : Path p steps none) : ∃ v ∈ steps.visits, v.ending = none := by
  generalize hr : (none : Option α) = r at h
  induction h with
  | done => cases hr
  | log _ ih => exact ih hr
  | call began ended how _ ih =>
    obtain ⟨v, hv, hending⟩ := ih hr
    exact ⟨v, List.mem_cons_of_mem _ hv, hending⟩
  | stuck => exact ⟨_, List.mem_cons_self, rfl⟩

end Program

/-- **The run of a job is a path of its program and a way through its repository.** -/
theorem Job.path_through (j : Job α) (repository : Repository σ) (now : Nat) (w : σ) :
    j.program.Path (j.trail repository now w) (j.run repository now w).result ∧
      repository.Through w (j.trail repository now w).visits (j.run repository now w).world :=
  ⟨Program.path_trail repository _ _ now w, Repository.through_trail _ _ now w⟩

end DocAccess
