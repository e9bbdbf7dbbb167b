import DocAccess.Session.Schedule

/-!
# Results of programs and of schedules

What holds of every result that a program can come to, however its calls end, holds of its result
in a run alone, and of its result when it takes turns with others.

## Main definitions

* `Program.Ends` — every way through a program comes to a result with a property.
* `Schedule.Keeps` — all jobs of a schedule come to results with their properties.

## Main statements

* `Program.Ends.of_run` — the result of a run alone.
* `Schedule.result?_run` — the results of jobs side by side.
-/
namespace DocAccess

variable {σ α β : Type}

namespace Program

/-- However its calls end, the program comes to results with the property only. -/
inductive Ends (P : α → Prop) : Program α → Prop
  | done {a : α} : P a → Ends P (.done a)
  | log {e : Event} {rest : Program α} : Ends P rest → Ends P (.log e rest)
  | call {c : Call} {next : Ended c.Answer → Program α} :
      (∀ how, Ends P (next how)) → Ends P (.call c next)

namespace Ends

variable {P Q : α → Prop} {p : Program α}

/-- Results with a property have every property that follows from it. -/
theorem mono (h : Ends P p) (himp : ∀ a, P a → Q a) : Ends Q p := by
  induction h with
  | done ha => exact .done (himp _ ha)
  | log _ ih => exact .log ih
  | call _ ih => exact .call ih

/-- What a program goes on with decides about its results. -/
theorem bind (p : Program β) {f : β → Program α} (hf : ∀ b, Ends P (f b)) : Ends P (p.bind f) := by
  induction p with
  | done b => exact hf b
  | log e rest ih => exact .log ih
  | call c next ih => exact .call ih

/-- The result of a run alone. -/
theorem of_run (h : Ends P p) (repository : Repository σ) {deadline : Option Int} {now : Nat}
    {w : σ} {a : α} (hresult : (p.run repository deadline now w).result = some a) : P a := by
  induction h generalizing deadline now w with
  | done ha =>
    cases hresult
    exact ha
  | log _ ih => exact ih hresult
  | @call c next _ ih =>
    rw [run] at hresult
    cases hu : (repository.start c w).wait.under deadline now with
    | elapsed clock =>
      simp only [hu, Run.result_after] at hresult
      exact ih _ hresult
    | expired clock =>
      simp only [hu, Run.result_after] at hresult
      exact ih _ hresult
    | never => simp [hu] at hresult

end Ends

end Program

/-- The task has a result with the property, or comes to one however its call ends. -/
def Task.Keeps (P : α → Prop) : Task σ α → Prop
  | .ended a => P a
  | .waiting w => ∀ how, (w.next how).Ends P

/-- After a turn a program keeps what all of its results have. -/
theorem Program.Ends.turn {P : α → Prop} {p : Program α} (h : p.Ends P)
    (repository : Repository σ) (deadline : Option Int) (now : Nat) (w : σ) :
    (p.turn repository deadline now w).task.Keeps P := by
  induction h generalizing w with
  | done ha => exact ha
  | log _ ih => exact ih w
  | call hnext ih =>
    rw [Program.turn]
    split
    · exact ih _ _
    · exact hnext

/-- After its wait a job keeps what all of its results have. -/
theorem Waiting.keeps_resume {P : α → Prop} {w : Waiting σ α} (h : ∀ how, (w.next how).Ends P)
    (repository : Repository σ) (now : Nat) (world : σ) :
    (w.resume repository now world).task.Keeps P := by
  unfold Waiting.resume
  split
  · exact (h _).turn repository _ _ _
  · exact (h _).turn repository _ _ _

namespace Schedule

/-- All jobs of the schedule, by their numbers, come to results with their properties. -/
structure Keeps (P : Nat → α → Prop) (s : Schedule σ α) : Prop where
  waiting : ∀ n w, (n, w) ∈ s.waiting → ∀ how, (w.next how).Ends (P n)
  results : ∀ n a, (n, a) ∈ s.results → P n a

/-- The wait that ends first and the others are all the waits. -/
theorem perm_of_earliest {waits others : List (Nat × Waiting σ α)} {n : Nat} {w : Waiting σ α}
    {instant : Nat} (h : earliest waits = some (n, w, instant, others)) :
    waits.Perm ((n, w) :: others) := by
  induction waits generalizing n w instant others with
  | nil => cases h
  | cons head rest ih =>
    obtain ⟨m, v⟩ := head
    rw [earliest] at h
    -- Either the head ends first, or one of the rest and the head is among the others.
    have hhead : ∀ {t}, some (m, v, t, rest) = some (n, w, instant, others) →
        ((m, v) :: rest).Perm ((n, w) :: others) := by
      intro t heq
      cases heq
      exact .refl _
    have hrest : ∀ {k u t os}, earliest rest = some (k, u, t, os) →
        some (k, u, t, (m, v) :: os) = some (n, w, instant, others) →
        ((m, v) :: rest).Perm ((n, w) :: others) := by
      intro k u t os hfirst heq
      cases heq
      exact ((ih hfirst).cons (m, v)).trans (.swap _ _ _)
    split at h
    · cases h
    · exact hrest ‹_› h
    · exact hhead h
    · split at h
      · exact hhead h
      · exact hrest ‹_› h

variable {P : Nat → α → Prop} {s : Schedule σ α}

/-- A turn that keeps its job's property keeps those of all. -/
theorem Keeps.record (h : s.Keeps P) {number : Nat} {t : Turn σ α} (ht : t.task.Keeps (P number)) :
    (s.record number t).Keeps P := by
  obtain ⟨task, happenings, world⟩ := t
  cases task with
  | waiting w =>
    refine ⟨?_, h.results⟩
    intro n v hv
    rcases List.mem_append.mp hv with hv | hv
    · exact h.waiting n v hv
    · cases List.mem_singleton.mp hv
      exact ht
  | ended a =>
    refine ⟨h.waiting, ?_⟩
    intro n b hb
    rcases List.mem_append.mp hb with hb | hb
    · exact h.results n b hb
    · cases List.mem_singleton.mp hb
      exact ht

/-- As long as waits end, all jobs keep their properties. -/
theorem Keeps.settle (h : s.Keeps P) (repository : Repository σ) (fuel : Nat) :
    (settle repository fuel s).Keeps P := by
  induction fuel generalizing s with
  | zero => exact h
  | succ fuel ih =>
    rw [Schedule.settle]
    split
    · exact h
    · rename_i hfirst
      have hperm := perm_of_earliest hfirst
      have hmem := hperm.mem_iff.mpr List.mem_cons_self
      refine ih (Keeps.record ?_ (Waiting.keeps_resume (h.waiting _ _ hmem) repository _ _))
      refine ⟨fun n w hw => h.waiting n w ?_, h.results⟩
      exact hperm.mem_iff.mpr (List.mem_cons_of_mem _ hw)

/-- Jobs that have started have the properties of their results. -/
theorem keeps_start (repository : Repository σ) (w : σ) {jobs : List (Job α)}
    (h : ∀ (n : Nat) (job : Job α), jobs[n]? = some job → job.program.Ends (P n)) :
    (start repository w jobs).Keeps P := by
  refine List.foldlRecOn jobs.zipIdx _ (motive := Keeps P) ⟨by simp, by simp⟩ ?_
  rintro s hs ⟨job, number⟩ hmem
  have hget : jobs[number]? = some job := List.mem_zipIdx_iff_getElem?.mp hmem
  exact hs.record ((h number job hget).turn repository _ _ _)

/-- **The results of jobs side by side** have the properties of all of their results. -/
theorem result?_run (repository : Repository σ) (waits : Nat) (w : σ) {jobs : List (Job α)}
    (h : ∀ (n : Nat) (job : Job α), jobs[n]? = some job → job.program.Ends (P n))
    {n : Nat} {a : α}
    (hresult : (run repository waits w jobs).result? n = some a) : P n a := by
  have hkeeps := (keeps_start repository w h).settle repository waits
  obtain ⟨before, after, hresults, -⟩ := List.lookup_eq_some_iff.mp hresult
  refine hkeeps.results n a ?_
  change (n, a) ∈ (run repository waits w jobs).results
  rw [hresults]
  exact List.mem_append_right _ List.mem_cons_self

end Schedule
end DocAccess
