import DocAccess.Session.Run
import Mathlib.Data.List.Chain

/-!
# The trail of a run

`Run.happenings` says which calls a run made. The trail of a run keeps more: when each call
began, when it ended and how. `Program.Path` forgets the repository and the clock again; it holds
of every trail that some repository could bring about, so what holds along every path of a
program holds of each of its runs, under every deadline.

## Main statements

* `calls_trail`, `events_trail` — a trail tells the calls and the events of its run.
* `path_trail` — the trail of a run is a path of its program.
* `isChain_visits` — each call begins after the one before it has ended.
* `Path.ended_of_some` — on a path to a result every call has ended.
-/
namespace DocAccess

/-- One call of a run: the instant at which it began and, unless it waits forever, the instant at
which it ended and how. -/
structure Visit where
  call : Call
  began : Nat
  ending : Option (Nat × Ended call.Answer)

namespace Visit

/-- The fault that the call raised. -/
def fault? (v : Visit) : Option Fault :=
  match v.ending with
  | some (_, .raised f) => some f
  | _ => none

/-- Whether the call handed back its answer. -/
def hasReturned (v : Visit) : Bool :=
  match v.ending with
  | some (_, .returned _) => true
  | _ => false

/-- Whether the call was cancelled. -/
def cancelled (v : Visit) : Bool :=
  match v.ending with
  | some (_, .cancelled) => true
  | _ => false

/-- The session that the call opened. -/
def opened? : Visit → Option Session
  | ⟨.openSession, _, some (_, .returned (.ok session))⟩ => some session
  | _ => none

/-- A cancelled call opened no session. -/
theorem opened?_of_cancelled {v : Visit} (h : v.cancelled = true) : v.opened? = none := by
  unfold opened?
  split
  · cases h
  · rfl

/-- Whether the call impersonated a principal. -/
def impersonated : Visit → Bool
  | ⟨.impersonate .., _, some (_, .returned (.ok ()))⟩ => true
  | _ => false

/-- The rows that the call brought. -/
def rows? : Visit → Option (List Row)
  | ⟨.query .., _, some (_, .returned (.ok rows))⟩ => some rows
  | _ => none

/-- The second call begins when the first has ended, or later. -/
def Precedes (u v : Visit) : Prop := ∃ t e, u.ending = some (t, e) ∧ u.began ≤ t ∧ t ≤ v.began

end Visit

/-- One step of a run. -/
inductive Step where
  | wrote (e : Event)
  | visited (v : Visit)

namespace Step

/-- The call of a step. -/
def visit? : Step → Option Visit
  | visited v => some v
  | wrote _ => none

/-- The event of a step. -/
def event? : Step → Option Event
  | wrote e => some e
  | visited _ => none

end Step

/-- The steps of a run, in order. -/
abbrev Trail := List Step

namespace Trail

/-- The calls of a trail, in order. -/
def visits (steps : Trail) : List Visit := steps.filterMap Step.visit?

/-- The events of a trail, in order. -/
def events (steps : Trail) : List Event := steps.filterMap Step.event?

@[simp] theorem visits_nil : visits [] = [] := rfl
@[simp] theorem visits_wrote (e : Event) (steps : Trail) :
    visits (.wrote e :: steps) = visits steps := rfl
@[simp] theorem visits_visited (v : Visit) (steps : Trail) :
    visits (.visited v :: steps) = v :: visits steps := rfl
@[simp] theorem events_nil : events [] = [] := rfl
@[simp] theorem events_wrote (e : Event) (steps : Trail) :
    events (.wrote e :: steps) = e :: events steps := rfl
@[simp] theorem events_visited (v : Visit) (steps : Trail) :
    events (.visited v :: steps) = events steps := rfl

end Trail

/-- The call of a happening. -/
def Happening.call? : Happening → Option Call
  | called c => some c
  | _ => none

/-- The event that a program wrote. -/
def Happening.logged? : Happening → Option Event
  | logged e => some e
  | _ => none

namespace Run

/-- The calls of a run, in order. -/
def calls (r : Run σ α) : List Call := r.happenings.filterMap Happening.call?

/-- The events that the program of a run wrote, in order. -/
def events (r : Run σ α) : List Event := r.happenings.filterMap Happening.logged?

/-- What a repository notices on the way is no call. -/
theorem filterMap_call?_noticed (es : List Event) :
    (es.map Happening.noticed).filterMap Happening.call? = [] := by
  rw [List.filterMap_map, List.filterMap_eq_nil_iff]
  intro e _
  rfl

/-- A call comes before those of the rest of a run. -/
theorem calls_after_called (c : Call) (es : List Event) (r : Run σ α) :
    (r.after (.called c :: es.map .noticed)).calls = c :: r.calls := by
  simp only [calls, happenings_after, List.cons_append, List.filterMap_cons, Happening.call?,
    List.filterMap_append, filterMap_call?_noticed, List.nil_append]

/-- What a repository notices on the way is no event of the program. -/
theorem filterMap_logged?_noticed (es : List Event) :
    (es.map Happening.noticed).filterMap Happening.logged? = [] := by
  rw [List.filterMap_map, List.filterMap_eq_nil_iff]
  intro e _
  rfl

end Run

namespace Wait

/-- Waiting does not turn the clock back. -/
theorem le_of_under_elapsed {w : Wait} {deadline : Option Int} {now clock : Nat}
    (h : w.under deadline now = .elapsed clock) : now ≤ clock := by
  unfold under at h
  split at h <;> try split at h
  all_goals simp only [WaitEnd.elapsed.injEq, reduceCtorEq] at h
  all_goals omega

/-- A deadline that has passed cancels a wait at its beginning, never earlier. -/
theorem le_of_under_expired {w : Wait} {deadline : Option Int} {now clock : Nat}
    (h : w.under deadline now = .expired clock) : now ≤ clock := by
  unfold under at h
  split at h <;> try split at h
  all_goals simp only [WaitEnd.expired.injEq, reduceCtorEq] at h
  all_goals omega

end Wait

namespace Program

variable {σ α : Type} (repository : Repository σ)

/-- The steps of a run, in order. -/
def trail : Program α → (deadline : Option Int) → (now : Nat) → (world : σ) → Trail
  | .done _, _, _, _ => []
  | .log e rest, deadline, now, w => .wrote e :: rest.trail deadline now w
  | .call c next, deadline, now, w =>
    let started := repository.start c w
    match started.wait.under deadline now with
    | .elapsed clock =>
      let f := started.finish started.world
      .visited ⟨c, now, some (clock, .ofExcept f.outcome)⟩ ::
        (next (.ofExcept f.outcome)).trail deadline clock f.world
    | .expired clock =>
      .visited ⟨c, now, some (clock, .cancelled)⟩ ::
        (next .cancelled).trail none clock (started.cancel started.world)
    | .never => [.visited ⟨c, now, none⟩]

/-- The ways through a program: a call may end in any way at any time, or never end. -/
inductive Path : Program α → Trail → Option α → Prop
  | done (a : α) : Path (.done a) [] (some a)
  | log {e : Event} {rest : Program α} {steps : Trail} {r : Option α} :
      Path rest steps r → Path (.log e rest) (.wrote e :: steps) r
  | call {c : Call} {next : Ended c.Answer → Program α} {steps : Trail} {r : Option α}
      (began ended : Nat) (how : Ended c.Answer) : Path (next how) steps r →
      Path (.call c next) (.visited ⟨c, began, some (ended, how)⟩ :: steps) r
  | stuck {c : Call} {next : Ended c.Answer → Program α} (began : Nat) :
      Path (.call c next) [.visited ⟨c, began, none⟩] none

/-- The trail of a run is a path of its program. -/
theorem path_trail (p : Program α) (deadline : Option Int) (now : Nat) (w : σ) :
    Path p (p.trail repository deadline now w) (p.run repository deadline now w).result := by
  induction p generalizing deadline now w with
  | done a => exact .done a
  | log e rest ih => exact .log (ih deadline now w)
  | call c next ih =>
    simp only [trail, run]
    cases (repository.start c w).wait.under deadline now with
    | elapsed clock => exact .call _ _ _ (ih _ _ _ _)
    | expired clock => exact .call _ _ _ (ih _ _ _ _)
    | never => exact .stuck _

/-- The calls of a run are those of its trail. -/
theorem calls_trail (p : Program α) (deadline : Option Int) (now : Nat) (w : σ) :
    (p.run repository deadline now w).calls =
      (p.trail repository deadline now w).visits.map Visit.call := by
  induction p generalizing deadline now w with
  | done a => rfl
  | log e rest ih => exact ih deadline now w
  | call c next ih =>
    simp only [trail, run]
    cases (repository.start c w).wait.under deadline now with
    | elapsed clock =>
      rw [Trail.visits_visited, List.map_cons, ← ih, Run.calls_after_called]
    | expired clock =>
      simp only [Trail.visits_visited, List.map_cons, ← ih]
      rfl
    | never => rfl

/-- The events of a run are those of its trail. -/
theorem events_trail (p : Program α) (deadline : Option Int) (now : Nat) (w : σ) :
    (p.run repository deadline now w).events =
      (p.trail repository deadline now w).events := by
  induction p generalizing deadline now w with
  | done a => rfl
  | log e rest ih => exact congrArg (e :: ·) (ih deadline now w)
  | call c next ih =>
    simp only [trail, run]
    cases (repository.start c w).wait.under deadline now with
    | elapsed clock =>
      simp only [Trail.events_visited, ← ih]
      simp only [Run.events, Run.happenings_after, List.cons_append, List.filterMap_cons,
        Happening.logged?, List.filterMap_append, Run.filterMap_logged?_noticed, List.nil_append]
    | expired clock =>
      simp only [Trail.events_visited, ← ih]
      rfl
    | never => rfl

/-- On a path to a result every call has ended. -/
theorem Path.ended_of_some {p : Program α} {steps : Trail} {a : α}
    (h : Path p steps (some a)) : ∀ v ∈ steps.visits, v.ending ≠ none := by
  generalize hr : some a = r at h
  induction h with
  | done => simp
  | log _ ih => exact ih hr
  | call began ended how _ ih =>
    intro v hv
    rcases List.mem_cons.mp hv with rfl | hv
    · simp
    · exact ih hr v hv
  | stuck => cases hr

/-- The first call of a run begins when the run begins. -/
theorem began_head_trail (p : Program α) (deadline : Option Int) (now : Nat) (w : σ) :
    ∀ v ∈ (p.trail repository deadline now w).visits.head?, v.began = now := by
  induction p with
  | done a => simp [trail]
  | log e rest ih => exact ih
  | call c next _ =>
    simp only [trail]
    cases (repository.start c w).wait.under deadline now <;> simp

/-- Each call of a run begins after the one before it has ended. -/
theorem isChain_visits (p : Program α) (deadline : Option Int) (now : Nat) (w : σ) :
    (p.trail repository deadline now w).visits.IsChain Visit.Precedes := by
  induction p generalizing deadline now w with
  | done a => exact .nil
  | log e rest ih => exact ih deadline now w
  | call c next ih =>
    simp only [trail]
    cases hu : (repository.start c w).wait.under deadline now with
    | elapsed clock =>
      refine List.isChain_cons.mpr ⟨?_, ih _ _ _ _⟩
      intro v hv
      rw [Visit.Precedes, began_head_trail repository _ _ _ _ v hv]
      exact ⟨clock, _, rfl, Wait.le_of_under_elapsed hu, le_refl clock⟩
    | expired clock =>
      refine List.isChain_cons.mpr ⟨?_, ih _ _ _ _⟩
      intro v hv
      rw [Visit.Precedes, began_head_trail repository _ _ _ _ v hv]
      exact ⟨clock, _, rfl, Wait.le_of_under_expired hu, le_refl clock⟩
    | never => exact .singleton _

/-- A call that never waits is not cancelled and does not go on forever. -/
theorem ending_of_immediate (p : Program α) (deadline : Option Int) (now : Nat) (w : σ) :
    ∀ v ∈ (p.trail repository deadline now w).visits,
      (∀ w, (repository.start v.call w).wait = .immediate) →
      ∃ o : Except Fault v.call.Answer, v.ending = some (v.began, .ofExcept o) := by
  induction p generalizing deadline now w with
  | done a => simp [trail]
  | log e rest ih => exact ih deadline now w
  | call c next ih =>
    simp only [trail]
    cases hu : (repository.start c w).wait.under deadline now with
    | elapsed clock =>
      intro v hv himm
      rcases List.mem_cons.mp hv with rfl | hv
      · rw [himm w, Wait.under_immediate] at hu
        cases hu
        exact ⟨_, rfl⟩
      · exact ih _ _ _ _ v hv himm
    | expired clock =>
      intro v hv himm
      rcases List.mem_cons.mp hv with rfl | hv
      · rw [himm w, Wait.under_immediate] at hu
        cases hu
      · exact ih _ _ _ _ v hv himm
    | never =>
      intro v hv himm
      rcases List.mem_cons.mp hv with rfl | hv
      · rw [himm w, Wait.under_immediate] at hu
        cases hu
      · cases hv

end Program

/-- The trail of a job alone. -/
def Job.trail {σ α : Type} (repository : Repository σ) (j : Job α) (now : Nat) (world : σ) :
    Trail :=
  j.program.trail repository (j.expiry now) now world

end DocAccess
