import DocAccess.Proofs.Session.Trail

/-!
# Deadlines

A run under a deadline follows the run without one up to the first wait that ends too late, and
is cancelled there.

## Main definitions

* `Program.Alike` — programs that differ only in what they do once time has run out.
* `Program.WindsUp` — a program that closes sessions and ends with a known result.
* `Program.Guarded` — a program that winds up wherever it is cancelled, with a result that
  depends on the number of queries made so far.
* `Run.EndsWithin`, `Run.Outlasts` — a run ends before a deadline, or would end after it.

## Main statements

* `Alike.run_eq` — a run that ends early enough is the run without a deadline.
* `Alike.run_of_late` — a run that would end too late is cancelled and winds up.
-/
namespace DocAccess

variable {σ α : Type}

/-- The call did not end because time ran out. -/
def Ended.IsTimely : Ended α → Prop
  | .returned _ => True
  | .raised f => f.isTimeout = false
  | .cancelled => False

/-- Whether a call is a query. -/
def Call.isQuery : Call → Bool
  | query .. => true
  | _ => false

/-- No call raises a fault that says that time ran out. -/
def Repository.Timely (repository : Repository σ) : Prop :=
  ∀ c w v, (Ended.ofExcept ((repository.start c w).finish v).outcome).IsTimely

namespace Run

variable (repository : Repository σ)

/-- Number of queries that a run made. -/
def queries (r : Run σ α) : Nat := r.calls.countP Call.isQuery

/-- A call counts when it is a query. -/
theorem queries_after_called (c : Call) (es : List Event) (r : Run σ α) :
    (r.after (.called c :: es.map .noticed)).queries = c.isQuery.toNat + r.queries := by
  rw [queries, queries, calls_after_called, List.countP_cons, Nat.add_comm]
  cases c.isQuery <;> rfl

/-- The run never ends: it closes a session, and that takes forever. -/
def HangsClosing (r : Run σ α) : Prop :=
  r.result = none ∧ ∃ number w,
    r.happenings.getLast? = some (.called (.closeSession number)) ∧
      (repository.start (.closeSession number) w).wait = .forever

/-- What happened before has no part in how a run hangs. -/
theorem HangsClosing.after {r : Run σ α} (h : r.HangsClosing repository)
    (happened : List Happening) : (r.after happened).HangsClosing repository := by
  obtain ⟨hresult, number, w, hlast, hwait⟩ := h
  refine ⟨hresult, number, w, ?_, hwait⟩
  rw [happenings_after, List.getLast?_append, hlast]
  rfl

/-- The run ends less than `t` seconds after `now`; for a `t` that is not positive, it ends
without waiting. -/
def EndsWithin (r : Run σ α) (now : Nat) (t : Seconds) : Prop :=
  r.result ≠ none ∧ ∀ ticks, t.ticks? = some ticks →
    if 0 < ticks then (r.clock : Int) - now < ticks else r.clock = now

/-- The run never ends, or ends more than `t` seconds after `now`; for a `t` that is not
positive, it waits. -/
def Outlasts (r : Run σ α) (now : Nat) (t : Seconds) : Prop :=
  ∃ ticks, t.ticks? = some ticks ∧
    (r.result = none ∨ if 0 < ticks then ticks < (r.clock : Int) - now else r.clock ≠ now)

end Run

namespace Wait

/-- Only a wait that lasts forever never ends. -/
theorem eq_forever_of_under {w : Wait} {deadline : Option Int} {now : Nat}
    (h : w.under deadline now = .never) : w = .forever := by
  unfold under at h
  split at h <;> try split at h
  all_goals simp_all

/-- Under a deadline a wait ends as it does without one, and before the deadline unless it is no
wait at all; or it would end too late and is cancelled. -/
theorem under_cases (w : Wait) (deadline : Option Int) (now : Nat) :
    (∃ clock, w.under none now = .elapsed clock ∧ w.under deadline now = .elapsed clock ∧
      ∀ d ∈ deadline, clock = now ∨ (clock : Int) < d) ∨
    ((∀ clock, w.under none now = .elapsed clock → now < clock ∧ ∃ d ∈ deadline, d ≤ clock) ∧
      ∀ d ∈ deadline, w.under deadline now = .expired (max now d.toNat)) := by
  cases w with
  | forever => exact .inr ⟨by simp [under], by rintro d ⟨⟩; rfl⟩
  | lasts t =>
    by_cases ht : t = 0
    · exact .inl ⟨now, by simp [under, ht], by simp [under, ht], fun _ _ => .inl rfl⟩
    · cases deadline with
      | none => exact .inl ⟨now + t, by simp [under], by simp [under], by simp⟩
      | some d =>
        by_cases hd : d ≤ (now + t : Nat)
        · refine .inr ⟨?_, ?_⟩
          · intro clock hclock
            have heq : now + t = clock := by simpa [under, ht] using hclock
            exact ⟨by omega, d, rfl, by omega⟩
          · rintro e ⟨⟩
            simp only [under, hd, if_true]
        · refine .inl ⟨now + t, by simp [under], ?_, ?_⟩
          · simp only [under, hd, if_false]
          · rintro e ⟨⟩
            exact .inr (by omega)

end Wait

namespace Program

variable (repository : Repository σ)

/-- A run does not turn the clock back. -/
theorem le_clock_run (p : Program α) (deadline : Option Int) (now : Nat) (w : σ) :
    now ≤ (p.run repository deadline now w).clock := by
  induction p generalizing deadline now w with
  | done a => exact le_refl now
  | log e rest ih => exact ih deadline now w
  | call c next ih =>
    simp only [run]
    cases hu : (repository.start c w).wait.under deadline now with
    | elapsed clock => exact (Wait.le_of_under_elapsed hu).trans (ih _ _ _ _)
    | expired clock => exact (Wait.le_of_under_expired hu).trans (ih _ _ _ _)
    | never => exact le_refl now

/-- The programs differ only in what they do once time has run out. -/
inductive Alike : Program α → Program α → Prop
  | done (a : α) : Alike (.done a) (.done a)
  | log {e : Event} {p q : Program α} : Alike p q → Alike (.log e p) (.log e q)
  | call {c : Call} {next next' : Ended c.Answer → Program α} :
      (∀ ended, ended.IsTimely → Alike (next ended) (next' ended)) →
      Alike (.call c next) (.call c next')

/-- All that is left is to close sessions, and to end with the result `a`. -/
inductive WindsUp (a : α) : Program α → Prop
  | done : WindsUp a (.done a)
  | log {e : Event} {p : Program α} : WindsUp a p → WindsUp a (.log e p)
  | close {number : Nat} {next : Ended Unit → Program α} :
      (∀ ended, WindsUp a (next ended)) → WindsUp a (.call (.closeSession number) next)

/-- Wherever it is cancelled, the program winds up with the result `late k`, where `k` is the
number of queries made by then, `n` of them before. -/
inductive Guarded (late : Nat → α) : Nat → Program α → Prop
  | done {n : Nat} (a : α) : Guarded late n (.done a)
  | log {n : Nat} {e : Event} {p : Program α} : Guarded late n p → Guarded late n (.log e p)
  | call {n : Nat} {c : Call} {next : Ended c.Answer → Program α} :
      (∀ ended, ended.IsTimely → Guarded late (n + c.isQuery.toNat) (next ended)) →
      WindsUp (late (n + c.isQuery.toNat)) (next .cancelled) → Guarded late n (.call c next)

/-- A program is like itself. -/
theorem Alike.refl (p : Program α) : Alike p p := by
  induction p with
  | done a => exact .done a
  | log e rest ih => exact .log ih
  | call c next ih => exact .call fun ended _ => ih ended

/-- Events that both write make no difference. -/
theorem Alike.logAll {p q : Program α} (h : Alike p q) (es : List Event) :
    Alike (p.logAll es) (q.logAll es) := by
  induction es with
  | nil => exact h
  | cons e es ih => exact .log ih

/-- Events are not cancelled. -/
theorem Guarded.logAll {late : Nat → α} {n : Nat} {p : Program α} (h : Guarded late n p)
    (es : List Event) : Guarded late n (p.logAll es) := by
  induction es with
  | nil => exact h
  | cons e es ih => exact .log ih

/-- A program that winds up makes no query and ends with its result, unless closing a session
takes forever. -/
theorem WindsUp.run_none {a : α} {p : Program α} (h : WindsUp a p) (now : Nat) (w : σ) :
    ((p.run repository none now w).result = some a ∨
      (p.run repository none now w).HangsClosing repository) ∧
    (p.run repository none now w).queries = 0 := by
  induction h generalizing now w with
  | done => exact ⟨.inl rfl, rfl⟩
  | log _ ih =>
    obtain ⟨hend, hqueries⟩ := ih now w
    exact ⟨hend.imp id fun h => h.after repository _, hqueries⟩
  | @close number next _ ih =>
    simp only [run]
    cases hu : (repository.start (.closeSession number) w).wait.under none now with
    | elapsed clock =>
      obtain ⟨hend, hqueries⟩ := ih _ clock _
      refine ⟨hend.imp id fun h => h.after repository _, ?_⟩
      rw [Run.queries_after_called, hqueries]
      rfl
    | expired clock => exact absurd hu (Wait.under_none_ne_expired _ _ _)
    | never => exact ⟨.inr ⟨rfl, number, w, rfl, Wait.eq_forever_of_under hu⟩, rfl⟩

variable {repository}

/-- **A run that ends early enough is the run without a deadline.** -/
theorem Alike.run_eq {p q : Program α} (h : Alike p q) (ht : repository.Timely)
    {deadline : Option Int} {now : Nat} {w : σ}
    (hend : (q.run repository none now w).result ≠ none)
    (hclock : ∀ d ∈ deadline, (q.run repository none now w).clock = now ∨
      ((q.run repository none now w).clock : Int) < d) :
    p.run repository deadline now w = q.run repository none now w := by
  induction h generalizing now w with
  | done a => rfl
  | log _ ih => exact congrArg (Run.after _) (ih hend hclock)
  | @call c next next' _ ih =>
    have hle := fun clock => le_clock_run repository (next' (.ofExcept
      ((repository.start c w).finish (repository.start c w).world).outcome)) none clock
      ((repository.start c w).finish (repository.start c w).world).world
    simp only [run] at hend hclock ⊢
    rcases Wait.under_cases (repository.start c w).wait deadline now with
      ⟨clock, hfree, hunder, hbefore⟩ | ⟨hlate, -⟩
    · rw [hfree] at hend hclock ⊢
      rw [hunder]
      refine congrArg (Run.after _) (ih _ (ht c w _) hend ?_)
      intro d hd
      have hnow := Wait.le_of_under_elapsed hfree
      have hfinal := hclock d hd
      have hstart := hbefore d hd
      simp only [Run.clock_after] at hfinal
      omega
    · -- The wait would end at the deadline or later, and the run does not end before it.
      cases hfree : (repository.start c w).wait.under none now with
      | elapsed clock =>
        rw [hfree] at hclock
        obtain ⟨hlt, d, hd, hdle⟩ := hlate clock hfree
        have hfinal := hclock d hd
        have hrest := hle clock
        simp only [Run.clock_after] at hfinal
        omega
      | expired clock => exact absurd hfree (Wait.under_none_ne_expired _ _ _)
      | never =>
        rw [hfree] at hend
        exact absurd rfl hend

/-- **A run that would end too late is cancelled and winds up.** -/
theorem Alike.run_of_late {p q : Program α} (h : Alike p q) (ht : repository.Timely)
    {late : Nat → α} {n : Nat} (hguarded : Guarded late n p) {d : Int} {now : Nat} {w : σ}
    (hlate : (q.run repository none now w).result = none ∨
      max (now : Int) d < (q.run repository none now w).clock) :
    (p.run repository (some d) now w).result =
        some (late (n + (p.run repository (some d) now w).queries)) ∨
      (p.run repository (some d) now w).HangsClosing repository := by
  induction h generalizing n now w with
  | done a =>
    simp only [run] at hlate
    rcases hlate with hnone | hlt
    · cases hnone
    · omega
  | log _ ih =>
    cases hguarded with
    | log hguarded => exact (ih hguarded hlate).imp id fun h => h.after repository _
  | @call c next next' _ ih =>
    cases hguarded with
    | call hgoes hcancelled =>
      simp only [run] at hlate ⊢
      rcases Wait.under_cases (repository.start c w).wait (some d) now with
        ⟨clock, hfree, hunder, hbefore⟩ | ⟨-, hexpired⟩
      · rw [hfree] at hlate
        rw [hunder]
        have htimely := ht c w (repository.start c w).world
        have hstart := hbefore d rfl
        have hrest := @ih _ htimely _ (hgoes _ htimely) clock _
          (hlate.imp id fun hlt => by simp only [Run.clock_after] at hlt; omega)
        simp only [Run.result_after, Run.queries_after_called, ← Nat.add_assoc]
        exact hrest.imp id fun h => h.after repository _
      · -- Cancelled here: this call is the last that may be a query.
        rw [hexpired d rfl]
        obtain ⟨hend, hqueries⟩ := hcancelled.run_none repository (max now d.toNat)
          ((repository.start c w).cancel (repository.start c w).world)
        have hcount := Run.queries_after_called c [] ((next .cancelled).run repository none
          (max now d.toNat) ((repository.start c w).cancel (repository.start c w).world))
        simp only [List.map_nil, hqueries, Nat.add_zero] at hcount
        rw [hcount]
        exact hend.imp id fun h => h.after repository _

end Program
end DocAccess
