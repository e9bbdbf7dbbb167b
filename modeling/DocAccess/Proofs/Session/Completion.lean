import DocAccess.Proofs.Session.Schedule
import DocAccess.Proofs.Session.Turns
import DocAccess.Proofs.Session.Worlds
import Mathlib.Algebra.Ring.Nat

/-!
# Jobs come to an end

A job alone has a result unless a call of its repository goes on forever. So have jobs that take
turns, as soon as the waits that may end are as many as the calls that the jobs may make: every
wait that ends takes one of those calls away, and nothing adds any.

## Main definitions

* `Repository.Endless` — some call goes on forever.
* `Schedule.Owing` — a bound on the calls behind the waits of a schedule.
* `Schedule.numbers` — the jobs that a schedule knows.

## Main statements

* `Job.endless_of_none` — a job alone without a result.
* `Schedule.settle_waiting` — enough waits leave no job waiting.
* `Schedule.results_run` — each of the jobs side by side has one result.
-/
namespace DocAccess

variable {σ α : Type}

/-- Some call of the repository goes on forever. -/
def Repository.Endless (repository : Repository σ) : Prop :=
  ∃ c w, (repository.start c w).wait = .forever

variable {repository : Repository σ}

/-- **A job alone has a result** unless a call goes on forever. -/
theorem Job.endless_of_none (j : Job α) {now : Nat} {w : σ}
    (h : (j.run repository now w).result = none) : repository.Endless := by
  obtain ⟨hpath, hthrough⟩ := j.path_through repository now w
  rw [h] at hpath
  obtain ⟨v, hv, hending⟩ := hpath.stuck_of_none
  obtain ⟨u, u', -, htakes⟩ := hthrough.exists_takes (I := fun _ => True) (P := fun _ => True)
    (fun _ _ _ _ _ _ => trivial) (fun _ _ => trivial) trivial hv
  unfold Repository.Takes at htakes
  rw [hending] at htakes
  exact ⟨_, _, htakes.1⟩

/-- The wait ends, and at most `k` calls follow it. -/
structure Waiting.Owes (w : Waiting σ α) (k : Nat) : Prop where
  due : w.due ≠ none
  rest : ∀ how, (w.next how).Bounded (fun _ => True) k

/-- The task has ended, or its wait and the calls that follow are at most `m`. -/
def Task.Owes (m : Nat) : Task σ α → Prop
  | .ended _ => True
  | .waiting w => ∃ k, w.Owes k ∧ k + 1 ≤ m

/-- A bound may be raised. -/
theorem Task.Owes.mono {t : Task σ α} {m m' : Nat} (h : t.Owes m) (hle : m ≤ m') : t.Owes m' := by
  cases t with
  | ended a => trivial
  | waiting w =>
    obtain ⟨k, hk, hkm⟩ := h
    exact ⟨k, hk, by omega⟩

/-- After a turn a program owes no more than the calls that it may make. -/
theorem Program.Bounded.owes_turn {k : Nat} {p : Program α} (h : p.Bounded (fun _ => True) k)
    (hends : ¬ repository.Endless) (deadline : Option Int) (now : Nat) (w : σ) :
    (p.turn repository deadline now w).task.Owes k := by
  induction h generalizing w with
  | done a => trivial
  | log _ ih => exact ih w
  | @call k c next _ hnext ih =>
    rw [Program.turn]
    split
    · exact (ih _ _).mono (by omega)
    · refine ⟨k, ⟨?_, hnext⟩, le_refl _⟩
      intro hdue
      unfold Waiting.due at hdue
      split at hdue
      · cases hdue
      · cases hdue
      · rename_i hnever
        exact hends ⟨c, w, Wait.eq_forever_of_under hnever⟩

/-- After its wait a job owes no more than the calls that follow it. -/
theorem Waiting.Owes.resume {w : Waiting σ α} {k : Nat} (h : w.Owes k)
    (hends : ¬ repository.Endless) (now : Nat) (world : σ) :
    (w.resume repository now world).task.Owes k := by
  unfold Waiting.resume
  split
  · exact (h.rest _).owes_turn hends _ _ _
  · exact (h.rest _).owes_turn hends _ _ _

namespace Schedule

/-! ## Enough waits -/

/-- All waits end, and with the calls that follow them they are at most `m`. -/
inductive Owing : Nat → List (Nat × Waiting σ α) → Prop
  | nil (m : Nat) : Owing m []
  | cons {k l m n : Nat} {w : Waiting σ α} {rest : List (Nat × Waiting σ α)} : w.Owes k →
      Owing l rest → k + 1 + l ≤ m → Owing m ((n, w) :: rest)

namespace Owing

variable {m : Nat} {waits : List (Nat × Waiting σ α)}

/-- A bound may be raised. -/
theorem mono (h : Owing m waits) {m' : Nat} (hle : m ≤ m') : Owing m' waits := by
  cases h with
  | nil => exact .nil _
  | cons hw hrest hm => exact .cons hw hrest (hm.trans hle)

/-- The order of waits has no part in how many they are. -/
theorem perm (h : Owing m waits) {others : List (Nat × Waiting σ α)} (hperm : waits.Perm others) :
    Owing m others := by
  induction hperm generalizing m with
  | nil => exact h
  | cons x _ ih =>
    cases h with
    | cons hw hrest hm => exact .cons hw (ih hrest) hm
  | swap x y rest =>
    cases h with
    | cons hy htail hm =>
      cases htail with
      | cons hx hrest hl => exact .cons hx (.cons hy hrest (le_refl _)) (by omega)
  | trans _ _ ih₁ ih₂ => exact ih₂ (ih₁ h)

/-- A job that begins to wait. -/
theorem concat (h : Owing m waits) {k : Nat} {w : Waiting σ α} (hw : w.Owes k) (n : Nat) :
    Owing (m + (k + 1)) (waits ++ [(n, w)]) :=
  (Owing.cons hw h (by omega)).perm (List.perm_append_singleton _ _).symm

/-- Of waits that all end one ends first. -/
theorem earliest_ne_none (h : Owing m waits) (hne : waits ≠ []) : earliest waits ≠ none := by
  cases h with
  | nil => exact absurd rfl hne
  | @cons _ _ _ n w rest hw _ _ =>
    obtain ⟨t, ht⟩ := Option.ne_none_iff_exists'.mp hw.due
    rw [earliest, ht]
    cases earliest rest with
    | none => simp
    | some first =>
      dsimp only
      split <;> simp

variable {s : Schedule σ α}

/-- A turn adds what its task owes. -/
theorem record (h : Owing m s.waiting) {k n : Nat} {t : Turn σ α} (ht : t.task.Owes k) :
    Owing (m + k) (s.record n t).waiting := by
  obtain ⟨task, happenings, world⟩ := t
  cases task with
  | ended a => exact h.mono (by omega)
  | waiting w =>
    obtain ⟨j, hw, hjk⟩ := ht
    exact (h.concat hw n).mono (by omega)

end Owing

/-- **Enough waits leave no job waiting.** -/
theorem settle_waiting (hends : ¬ repository.Endless) {m fuel : Nat} {s : Schedule σ α}
    (h : Owing m s.waiting) (hle : m ≤ fuel) : (settle repository fuel s).waiting = [] := by
  induction fuel generalizing m s with
  | zero =>
    rw [settle]
    cases hs : s.waiting with
    | nil => rfl
    | cons head rest =>
      rw [hs] at h
      cases h with
      | cons _ _ hm => omega
  | succ fuel ih =>
    rw [settle]
    split
    · rename_i hnone
      by_contra hne
      exact h.earliest_ne_none hne hnone
    · rename_i hfirst
      cases h.perm (perm_of_earliest hfirst) with
      | cons hw hrest hm => exact ih (hrest.record (hw.resume hends _ _)) (by omega)

/-! ## One result for each job -/

/-- The numbers of the jobs that wait or have ended. -/
def numbers (s : Schedule σ α) : List Nat := s.waiting.map Prod.fst ++ s.results.map Prod.fst

/-- A turn adds its job. -/
theorem numbers_record (s : Schedule σ α) (n : Nat) (t : Turn σ α) :
    (s.record n t).numbers.Perm (n :: s.numbers) := by
  obtain ⟨task, happenings, world⟩ := t
  cases task with
  | waiting w =>
    rw [numbers, record, List.map_append, List.append_assoc]
    exact List.perm_middle
  | ended a =>
    rw [numbers, record, List.map_append, ← List.append_assoc]
    exact List.perm_append_singleton _ _

/-- As long as waits end, the jobs are the same. -/
theorem numbers_settle (repository : Repository σ) (fuel : Nat) (s : Schedule σ α) :
    (settle repository fuel s).numbers.Perm s.numbers := by
  induction fuel generalizing s with
  | zero => exact .refl _
  | succ fuel ih =>
    rw [settle]
    split
    · exact .refl _
    · rename_i hfirst
      refine (ih _).trans ((numbers_record _ _ _).trans ?_)
      exact (((perm_of_earliest hfirst).map Prod.fst).append_right _).symm

/-- Jobs start one after another. -/
theorem start_concat (repository : Repository σ) (w : σ) (jobs : List (Job α)) (job : Job α) :
    start repository w (jobs ++ [job]) =
      (start repository w jobs).record jobs.length
        (job.program.turn repository (job.expiry 0) 0 (start repository w jobs).world) := by
  simp [start, List.zipIdx_append, List.foldl_append]

/-- Jobs that have started are known by their places. -/
theorem numbers_start (repository : Repository σ) (w : σ) (jobs : List (Job α)) :
    (start repository w jobs).numbers.Perm (List.range jobs.length) := by
  induction jobs using List.reverseRecOn with
  | nil => exact .refl _
  | append_singleton jobs job ih =>
    rw [start_concat, List.length_append, List.length_singleton, List.range_succ]
    refine (numbers_record _ _ _).trans ((ih.cons _).trans ?_)
    exact (List.perm_append_singleton _ _).symm

section Jobs

variable {γ : Type} {jobOf : γ → Job α} {bound : γ → Nat}

/-- Jobs that have started owe no more than the calls that they may make. -/
theorem owing_start (hends : ¬ repository.Endless)
    (h : ∀ x, (jobOf x).program.Bounded (fun _ => True) (bound x)) (w : σ) (asked : List γ) :
    Owing (asked.map bound).sum (start repository w (asked.map jobOf)).waiting := by
  induction asked using List.reverseRecOn with
  | nil => exact .nil _
  | append_singleton asked x ih =>
    rw [List.map_append, List.map_append, List.map_singleton, List.map_singleton, start_concat,
      List.sum_append, List.sum_singleton]
    exact ih.record ((h x).owes_turn hends _ _ _)

/-- **Each of the jobs side by side has one result**, unless a call goes on forever. -/
theorem results_run (hends : ¬ repository.Endless)
    (h : ∀ x, (jobOf x).program.Bounded (fun _ => True) (bound x)) (w : σ) (asked : List γ)
    {waits : Nat} (hle : (asked.map bound).sum ≤ waits) :
    ((run repository waits w (asked.map jobOf)).results.map Prod.fst).Perm
      (List.range asked.length) := by
  have hnumbers := (numbers_settle repository waits _).trans
    (numbers_start repository w (asked.map jobOf))
  have hnone := settle_waiting hends (owing_start hends h w asked) hle
  rwa [numbers, hnone, List.map_nil, List.nil_append, List.length_map] at hnumbers

/-- A job side by side with others that has no result. -/
theorem endless_of_result?_eq_none
    (h : ∀ x, (jobOf x).program.Bounded (fun _ => True) (bound x)) (w : σ) (asked : List γ)
    {waits : Nat} (hle : (asked.map bound).sum ≤ waits) {n : Nat} (hn : n < asked.length)
    (hnone : (run repository waits w (asked.map jobOf)).result? n = none) :
    repository.Endless := by
  by_contra hends
  have hmem : n ∈ (run repository waits w (asked.map jobOf)).results.map Prod.fst :=
    (results_run hends h w asked hle).mem_iff.mpr (List.mem_range.mpr hn)
  obtain ⟨⟨m, a⟩, hresult, rfl⟩ := List.mem_map.mp hmem
  have hfree := List.lookup_eq_none_iff.mp hnone _ hresult
  simp at hfree

end Jobs

end Schedule
end DocAccess
