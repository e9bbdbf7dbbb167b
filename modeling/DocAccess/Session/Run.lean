import DocAccess.Session.Program

/-!
# Running a program

A `Repository` over a world `σ` answers calls. Starting a call may change the world at once; it
says how long the call waits and what then becomes of it. A deadline cancels the first wait that
it falls into, at that instant, and has no force afterwards; one that has already passed cancels
the first call that waits at all. A run that waits forever without a deadline has no result.
-/
namespace DocAccess

/-- The end of a call, with the events that the repository wrote on the way. -/
structure Finished (σ α : Type) where
  outcome : Except Fault α
  notices : List Event
  world : σ

/-- A call that has started. -/
structure Started (σ α : Type) where
  world : σ
  wait : Wait
  /-- What becomes of the call once its wait is over, in the world as it is then. -/
  finish : σ → Finished σ α
  /-- The world after the wait was cancelled. -/
  cancel : σ → σ

namespace Started

/-- A call that ends at once and changes nothing further, after writing `notices`. -/
def atOnce (world : σ) (outcome : Except Fault α) (notices : List Event) : Started σ α where
  world := world
  wait := .immediate
  finish w := ⟨outcome, notices, w⟩
  cancel w := w

@[simp] theorem wait_atOnce (w : σ) (outcome : Except Fault α) (notices : List Event) :
    (atOnce w outcome notices).wait = .immediate := rfl

@[simp] theorem finish_atOnce (w v : σ) (outcome : Except Fault α) (notices : List Event) :
    (atOnce w outcome notices).finish v = ⟨outcome, notices, v⟩ := rfl

end Started

/-- A repository over a world `σ`. -/
structure Repository (σ : Type) where
  name : String
  start : (c : Call) → σ → Started σ c.Answer

/-- One call to its end, however long it waits. -/
def Repository.perform (repository : Repository σ) (c : Call) (world : σ) : Finished σ c.Answer :=
  let started := repository.start c world
  started.finish started.world

/-- What can be observed of a run. -/
inductive Happening where
  /-- A call was made. -/
  | called (c : Call)
  /-- The program wrote an event. -/
  | logged (e : Event)
  /-- The repository wrote an event. -/
  | noticed (e : Event)

/-- How a wait ends. -/
inductive WaitEnd where
  | elapsed (clock : Nat)
  | expired (clock : Nat)
  | never
  deriving DecidableEq, Repr

/-- The end of a wait that begins at `now` under a deadline. -/
def Wait.under (w : Wait) (deadline : Option Int) (now : Nat) : WaitEnd :=
  match w, deadline with
  | .lasts 0, _ => .elapsed now
  | .lasts t, some d =>
    if d ≤ (now + t : Nat) then .expired (max now d.toNat) else .elapsed (now + t)
  | .lasts t, none => .elapsed (now + t)
  | .forever, some d => .expired (max now d.toNat)
  | .forever, none => .never

/-- A call that does not wait ends under every deadline. -/
@[simp] theorem Wait.under_immediate (deadline : Option Int) (now : Nat) :
    Wait.immediate.under deadline now = .elapsed now := by
  simp [Wait.immediate, Wait.under]

/-- Without a deadline no wait expires. -/
theorem Wait.under_none_ne_expired (w : Wait) (now clock : Nat) :
    w.under none now ≠ .expired clock := by
  unfold Wait.under
  split <;> simp_all

/-- A run from its start to its end. -/
structure Run (σ α : Type) where
  result : Option α
  happenings : List Happening
  world : σ
  clock : Nat

namespace Run

/-- The run after some happenings. -/
def after (happened : List Happening) (r : Run σ α) : Run σ α :=
  { r with happenings := happened ++ r.happenings }

@[simp] theorem result_after (hs : List Happening) (r : Run σ α) :
    (r.after hs).result = r.result := rfl

@[simp] theorem happenings_after (hs : List Happening) (r : Run σ α) :
    (r.after hs).happenings = hs ++ r.happenings := rfl

@[simp] theorem world_after (hs : List Happening) (r : Run σ α) :
    (r.after hs).world = r.world := rfl

@[simp] theorem clock_after (hs : List Happening) (r : Run σ α) :
    (r.after hs).clock = r.clock := rfl

end Run

/-- The run of a program alone, from the instant `now`. -/
def Program.run (repository : Repository σ) :
    Program α → (deadline : Option Int) → (now : Nat) → (world : σ) → Run σ α
  | .done a, _, now, w => ⟨some a, [], w, now⟩
  | .log e rest, deadline, now, w => (rest.run repository deadline now w).after [.logged e]
  | .call c next, deadline, now, w =>
    let started := repository.start c w
    match started.wait.under deadline now with
    | .elapsed clock =>
      let f := started.finish started.world
      ((next (.ofExcept f.outcome)).run repository deadline clock f.world).after
        (.called c :: f.notices.map .noticed)
    | .expired clock =>
      ((next .cancelled).run repository none clock (started.cancel started.world)).after
        [.called c]
    | .never => ⟨none, [.called c], started.world, now⟩

/-- A program with the deadline under which it runs, counted from its start. -/
structure Job (α : Type) where
  deadline : Option Seconds
  program : Program α

namespace Job

/-- The instant of the deadline of a job that starts at `now`. -/
def expiry (j : Job α) (now : Nat) : Option Int :=
  j.deadline.bind fun s => s.ticks?.map (now + ·)

/-- The run of a job alone. -/
def run (repository : Repository σ) (j : Job α) (now : Nat) (world : σ) : Run σ α :=
  j.program.run repository (j.expiry now) now world

end Job
end DocAccess
