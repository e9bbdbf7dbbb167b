import DocAccess.Session.Run

/-!
# A repository that plays a script

Each call plays a step of a script: it waits, then raises a fault, reports a failure or
succeeds. Every session plays the same script; its `k`-th query plays the `k`-th query step, and
a default step once the script is at its end.
-/
namespace DocAccess

/-- What a step does once its wait is over. -/
inductive StepEffect where
  | succeed
  | raise (fault : Fault)
  | fail (error : RepositoryError)

/-- A step of a script. -/
structure ScriptStep where
  wait : Wait
  effect : StepEffect

/-- The step that succeeds at once. -/
def ScriptStep.plain : ScriptStep := ⟨.immediate, .succeed⟩

/-- What a query step answers when it succeeds. -/
inductive ScriptedRows where
  /-- These rows, whatever was asked. -/
  | rows (rows : List Row)
  /-- A row for each distinct document asked about that is visible. -/
  | visible (docIds : List Text)

/-- The rows for a query. -/
def ScriptedRows.answer : ScriptedRows → QueryRequest → List Row
  | .rows rs, _ => rs
  | .visible ids, r =>
    (r.predicate.values.eraseDups.filter ids.contains).map .ofDocument

/-- A query step. -/
structure ScriptedQuery where
  step : ScriptStep
  rows : ScriptedRows

/-- The script of a repository. -/
structure Script where
  opening : ScriptStep
  supportsTimeouts : Bool
  impersonation : ScriptStep
  queries : List ScriptedQuery
  defaultQuery : ScriptedQuery
  closing : ScriptStep

/-- The number of queries made on each session, in the order in which they were opened. -/
abbrev ScriptState := List Nat

namespace Script

/-- A step that starts in the world `w`; on success the answer and the world come from `f`. -/
def play (step : ScriptStep) (w : ScriptState)
    (f : ScriptState → α × ScriptState) (failed : RepositoryError → α) : Started ScriptState α where
  world := w
  wait := step.wait
  finish w :=
    match step.effect with
    | .succeed =>
      let (a, w) := f w
      ⟨.ok a, [], w⟩
    | .raise fault => ⟨.error fault, [], w⟩
    | .fail e => ⟨.ok (failed e), [], w⟩
  cancel w := w

/-- The query step for the `k`-th query of a session. -/
def queryStep (s : Script) (k : Nat) : ScriptedQuery := s.queries[k]?.getD s.defaultQuery

/-- The repository that plays a script, under a name. -/
def repository (s : Script) (name : String) : Repository ScriptState where
  name := name
  start
    | .openSession, w =>
      play s.opening w (fun w => (.ok ⟨w.length, s.supportsTimeouts⟩, w ++ [0])) .error
    | .setTimeout .., w => .atOnce w (.ok ()) []
    | .impersonate .., w => play s.impersonation w (fun w => (.ok (), w)) .error
    | .query number request, w =>
      let q := s.queryStep (w[number]?.getD 0)
      play q.step (w.modify number (· + 1)) (fun w => (.ok (q.rows.answer request), w)) .error
    | .closeSession _, w => play s.closing w (fun w => ((), w)) fun _ => ()

end Script
end DocAccess
