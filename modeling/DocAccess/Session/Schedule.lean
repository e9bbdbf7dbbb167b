import DocAccess.Session.Run

/-!
# Running jobs side by side

Jobs that share a repository take turns: each goes on until it waits or ends, and when all of
them wait the clock moves to the earliest instant at which a wait ends. Of several waits that
end together the one that began first goes on first.
-/
namespace DocAccess

/-- A job that waits for a call to end. -/
structure Waiting (σ α : Type) where
  call : Call
  next : Ended call.Answer → Program α
  started : Started σ call.Answer
  deadline : Option Int
  ends : WaitEnd

/-- A job between two turns. -/
inductive Task (σ α : Type) where
  | waiting (w : Waiting σ α)
  | ended (result : α)

/-- One turn of a job: where it stands afterwards and what happened. -/
structure Turn (σ α : Type) where
  task : Task σ α
  happenings : List Happening
  world : σ

/-- The turn after some happenings. -/
def Turn.after (happened : List Happening) (t : Turn σ α) : Turn σ α :=
  { t with happenings := happened ++ t.happenings }

/-- Runs a program until it waits or ends. -/
def Program.turn (repository : Repository σ) :
    Program α → (deadline : Option Int) → (now : Nat) → (world : σ) → Turn σ α
  | .done a, _, _, w => ⟨.ended a, [], w⟩
  | .log e rest, deadline, now, w => (rest.turn repository deadline now w).after [.logged e]
  | .call c next, deadline, now, w =>
    let started := repository.start c w
    if started.wait = .immediate then
      let f := started.finish started.world
      ((next (.ofExcept f.outcome)).turn repository deadline now f.world).after
        (.called c :: f.notices.map .noticed)
    else
      ⟨.waiting ⟨c, next, started, deadline, started.wait.under deadline now⟩, [.called c],
        started.world⟩

/-- Ends the wait of a job, at the instant `now` at which it is due, and goes on. -/
def Waiting.resume (repository : Repository σ) (w : Waiting σ α) (now : Nat) (world : σ) :
    Turn σ α :=
  match w.ends with
  | .expired _ => (w.next .cancelled).turn repository none now (w.started.cancel world)
  | _ =>
    let f := w.started.finish world
    ((w.next (.ofExcept f.outcome)).turn repository w.deadline now f.world).after
      (f.notices.map .noticed)

/-- The instant at which a wait ends. -/
def Waiting.due (w : Waiting σ α) : Option Nat :=
  match w.ends with
  | .elapsed t | .expired t => some t
  | .never => none

/-- Jobs side by side: those that wait, in the order in which their waits began, and the results
of those that have ended. Jobs are known by their numbers. -/
structure Schedule (σ α : Type) where
  clock : Nat
  world : σ
  waiting : List (Nat × Waiting σ α)
  results : List (Nat × α)
  happenings : List (Nat × Happening)

namespace Schedule

/-- Records a turn of job `number`. -/
def record (s : Schedule σ α) (number : Nat) (t : Turn σ α) : Schedule σ α :=
  let s := { s with
    world := t.world
    happenings := s.happenings ++ t.happenings.map (number, ·) }
  match t.task with
  | .waiting w => { s with waiting := s.waiting ++ [(number, w)] }
  | .ended a => { s with results := s.results ++ [(number, a)] }

/-- The wait that ends first, with its job and the instant, and the other ones. -/
def earliest : List (Nat × Waiting σ α) →
    Option (Nat × Waiting σ α × Nat × List (Nat × Waiting σ α))
  | [] => none
  | (n, w) :: rest =>
    match w.due, earliest rest with
    | none, none => none
    | none, some (m, v, t, others) => some (m, v, t, (n, w) :: others)
    | some t, none => some (n, w, t, rest)
    | some t, some (m, v, u, others) =>
      if t ≤ u then some (n, w, t, rest) else some (m, v, u, (n, w) :: others)

/-- Lets waits end one after another, `fuel` of them at most. -/
def settle (repository : Repository σ) : (fuel : Nat) → Schedule σ α → Schedule σ α
  | 0, s => s
  | fuel + 1, s =>
    match earliest s.waiting with
    | none => s
    | some (number, w, instant, others) =>
      let clock := max s.clock instant
      settle repository fuel
        (({ s with clock, waiting := others } : Schedule σ α).record number
          (w.resume repository clock s.world))

/-- Starts jobs in order, all at the instant zero. -/
def start (repository : Repository σ) (world : σ) (jobs : List (Job α)) : Schedule σ α :=
  jobs.zipIdx.foldl
    (fun s (job, number) =>
      s.record number (job.program.turn repository (job.expiry 0) 0 s.world))
    ⟨0, world, [], [], []⟩

/-- Runs jobs side by side; `waits` is the greatest number of calls that they make together. -/
def run (repository : Repository σ) (waits : Nat) (world : σ) (jobs : List (Job α)) :
    Schedule σ α :=
  settle repository waits (start repository world jobs)

/-- The result of a job, once it has ended. -/
def result? (s : Schedule σ α) (number : Nat) : Option α := s.results.lookup number

end Schedule
end DocAccess
