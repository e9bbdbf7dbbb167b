import DocAccess.Batch
import DocAccess.Documents
import DocAccess.Log

/-!
# Folding answers into a result

Batches are absorbed in their order. A document of a batch is authorized when some row of the
answer names it, at each of its places; rows that name no document of the batch are strays and
authorize nothing.

An aggregator absorbs the answers of one request, batch after batch. It warns of each row that names
no document of its batch, in the order of the rows, when it was given a logger.
-/
namespace DocAccess

/-- The documents authorized so far and the number of batches absorbed. -/
structure Aggregate where
  authorized : AuthorizedDocuments
  absorbed : Nat

/-- What absorbing one batch yields. -/
structure Absorbed where
  /-- One decision for each document of the batch, in order. -/
  decisions : List Decision
  /-- Rows that name no document of the batch. -/
  strays : List Row
  next : Aggregate

namespace Aggregate

/-- Nothing absorbed. -/
def empty : Aggregate := ⟨.empty, 0⟩

/-- Whether some row names the document. -/
def confirms (rows : List Row) (id : Text) : Bool := rows.any fun r => r.docId == id

/-- Whether a row names a document of the batch. -/
def asked (b : Batch) (r : Row) : Bool := b.docIds.contains r.docId

/-- The message for a batch that is not the next one. -/
def outOfOrderMessage (a : Aggregate) (b : Batch) : String :=
  "Batch " ++ toString b.index ++ " absorbed out of order (expected " ++ toString a.absorbed ++ ")"

/-- Absorbs the answer to a batch; a batch that is not the next one changes nothing. -/
def absorb (a : Aggregate) (b : Batch) (rows : List Row) : Except Fault Absorbed :=
  if b.index = a.absorbed then
    .ok {
      decisions := b.docIds.map fun id => ⟨id, confirms rows id⟩
      strays := rows.filter fun r => !asked b r
      next := ⟨a.authorized.extend (b.docIds.filter (confirms rows)), a.absorbed + 1⟩ }
  else .error (.value (outOfOrderMessage a b))

end Aggregate
/-! ## Aggregators -/

/-- An aggregate with its logger. -/
structure Aggregator where
  /-- The fields bound to the logger, if there is one. -/
  logger : Option Fields
  aggregate : Aggregate
  /-- What has been written on the logger. -/
  written : List Event

namespace Aggregator

/-- Nothing absorbed and nothing written. -/
def start (logger : Option Fields) : Aggregator := ⟨logger, .empty, []⟩

/-- The warning of a row that names no document of its batch. -/
def strayWarning (bound : Fields) (b : Batch) (r : Row) : Event :=
  ⟨.warning, "unexpected_row_ignored", bound,
    [("batch_index", .int b.index), ("doc_id", .string r.docId)]⟩

/-- Absorbs the answer to a batch; a batch that is not the next one changes nothing. -/
def absorb (a : Aggregator) (b : Batch) (rows : List Row) :
    Except Fault (List Decision) × Aggregator :=
  match a.aggregate.absorb b rows with
  | .error f => (.error f, a)
  | .ok step =>
    let warnings := match a.logger with
      | none => []
      | some bound => step.strays.map (strayWarning bound b)
    (.ok step.decisions, { a with aggregate := step.next, written := a.written ++ warnings })

end Aggregator

end DocAccess
