import DocAccess.Aggregate
import DocAccess.Remote.Rows
import DocAccess.Remote.Server

/-!
# What an answer names

An answer names a document when its body is an object whose `rows` list an object with the
document in a given column: as a string that is the identifier, or as a whole number with the
digits of the identifier. Nothing else in a cell names a document. The rows that are read off an
answer confirm what it names, and no more.

## Main statements

* `Rows.confirms_of_ofPayload?` — the rows of a payload confirm what it names.
-/
namespace DocAccess

/-- Whether a cell is the identifier, as a string or as the digits of a whole number. -/
def Json.identifies (cell : Json) (id : Text) : Bool :=
  match cell with
  | .string t => t == id
  | .int n => .wellFormed (toString n) == id
  | _ => false

/-- Whether some row of a payload has the identifier in a column. -/
def Json.names (payload : Json) (column : String) (id : Text) : Bool :=
  match payload.get? "rows" with
  | some (.array items) => items.any fun item => (item.get? column).any (·.identifies id)
  | _ => false

/-- Whether the body of a response names a document. -/
def Response.names (codec : Codec) (r : Response) (column : String) (id : Text) : Bool :=
  match r.json codec with
  | .ok (some payload) => payload.names column id
  | _ => false

namespace Rows

variable {column : String} {permissionColumn : Option String}

/-- The identifier in a cell is what the cell identifies. -/
theorem identifies_of_documentId? {cell : Json} {t : Text} (h : documentId? cell = some t)
    (id : Text) : cell.identifies id = (t == id) := by
  cases cell with
  | string s =>
    cases h
    rfl
  | int n =>
    cases h
    rfl
  | _ => cases h

/-- An item that is a row has an identifier in the column. -/
theorem cell_of_row? {item : Json} {row : Row} (h : row? column permissionColumn item = some row) :
    ∃ cell, item.get? column = some cell ∧ documentId? cell = some row.docId := by
  obtain ⟨cell, hcell, h⟩ := Option.bind_eq_some_iff.mp h
  obtain ⟨t, ht, h⟩ := Option.bind_eq_some_iff.mp h
  cases h
  exact ⟨cell, hcell, ht⟩

/-- Items that are rows confirm what their cells identify. -/
theorem confirms_of_items {items : List Json} {rows : List Row}
    (h : items.mapM (row? column permissionColumn) = some rows) (id : Text) :
    Aggregate.confirms rows id =
      items.any fun item => (item.get? column).any (·.identifies id) := by
  induction items generalizing rows with
  | nil =>
    cases h
    rfl
  | cons item items ih =>
    rw [List.mapM_cons] at h
    obtain ⟨row, hrow, h⟩ := Option.bind_eq_some_iff.mp h
    obtain ⟨others, hothers, h⟩ := Option.bind_eq_some_iff.mp h
    cases h
    obtain ⟨cell, hcell, hid⟩ := cell_of_row? hrow
    have hothers := ih hothers
    unfold Aggregate.confirms at hothers ⊢
    rw [List.any_cons, List.any_cons, hothers, hcell, Option.any_some,
      identifies_of_documentId? hid]

/-- **The rows of a payload confirm what it names.** -/
theorem confirms_of_ofPayload? {payload : Json} {rows : List Row}
    (h : ofPayload? column permissionColumn payload = some rows) (id : Text) :
    Aggregate.confirms rows id = payload.names column id := by
  obtain ⟨items, hitems, h⟩ := Option.bind_eq_some_iff.mp h
  have hconfirms := confirms_of_items h id
  unfold items? at hitems
  unfold Json.names
  split at hitems
  · rename_i listed hlisted
    cases hitems
    rw [hlisted]
    exact hconfirms
  · rename_i hnone
    cases hitems
    rw [hnone]
    exact hconfirms
  · rename_i hnone
    cases hitems
    rw [hnone]
    exact hconfirms
  · cases hitems

end Rows
end DocAccess
