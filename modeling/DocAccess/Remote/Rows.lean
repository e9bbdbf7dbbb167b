import DocAccess.Json.Spelled
import DocAccess.Membership

/-!
# Rows of an answer

The payload of an answer is an object whose member `rows` lists objects, each with a document
identifier in the first column: a string or a whole number. One item that does not fit spoils
the whole answer. An empty string or an empty object in place of the list counts as no rows.
-/
namespace DocAccess.Rows

/-- A cell as a document identifier. -/
def documentId? : Json → Option Text
  | .string t => some t
  | .int n => some (.wellFormed (toString n))
  | _ => none

/-- The permission in a column of an item, spelled out when the column is named and the cell is
there and not null. -/
def permissionId (item : Json) (column : Option String) : Option Text :=
  match column with
  | none => none
  | some "" => none
  | some c =>
    match item.get? c with
    | none | some .null => none
    | some v => some v.spelled

/-- An item as a row. -/
def row? (documentColumn : String) (permissionColumn : Option String) (item : Json) :
    Option Row := do
  let cell ← item.get? documentColumn
  let docId ← documentId? cell
  some ⟨docId, permissionId item permissionColumn⟩

/-- The items of a payload. -/
def items? (payload : Json) : Option (List Json) :=
  match payload.get? "rows" with
  | some (.array items) => some items
  | some (.object []) => some []
  | some (.string (.wellFormed "")) => some []
  | _ => none

/-- The rows of a payload; nothing when it is malformed. -/
def ofPayload? (documentColumn : String) (permissionColumn : Option String) (payload : Json) :
    Option (List Row) := do
  let items ← items? payload
  items.mapM (row? documentColumn permissionColumn)

end DocAccess.Rows
