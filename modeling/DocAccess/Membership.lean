import DocAccess.Text.Basic

/-!
# Membership queries

A query asks a repository which documents of a list a user can see. Its condition is rendered as
`column in ('a','b')`: each value stands between single quotes, and a single quote inside it is
written twice, so no value can end its literal.
-/
namespace DocAccess

/-- The condition that a column holds one of the values. -/
structure MembershipPredicate where
  column : String
  values : List Text
  nonempty : values ≠ []
  deriving DecidableEq

/-- What the views and columns of a repository are called. -/
structure RepositorySchema where
  view : String
  documentColumn : String
  permissionColumn : String

/-- The view of documents with its two columns. -/
def repositorySchema : RepositorySchema := ⟨"WebNodes", "DataID", "PermID"⟩

namespace MembershipPredicate

/-- The message for a condition without values. -/
def emptyMessage : String := "MembershipPredicate requires at least one value"

/-- The condition that a column holds one of the given values; nothing without any. -/
def ofValues? (column : String) (values : List Text) : Option MembershipPredicate :=
  if h : values = [] then none else some ⟨column, values, h⟩

/-- The code points of a literal between its quotes. -/
def doubleQuotes (ps : List Nat) : List Nat :=
  ps.flatMap fun p => if p = 0x27 then [p, p] else [p]

/-- A literal. -/
def literal (value : Text) : List Nat := 0x27 :: doubleQuotes value.points ++ [0x27]

/-- Literals with commas between them. -/
def literals : List Text → List Nat
  | [] => []
  | [v] => literal v
  | v :: rest => literal v ++ 0x2C :: literals rest

/-- What stands in front of the literals. -/
def front (column : String) : List Nat := (Text.wellFormed (column ++ " in (")).points

/-- The condition as text. -/
def render (p : MembershipPredicate) : Text :=
  .ofPoints (front p.column ++ literals p.values ++ [0x29])

end MembershipPredicate

/-- A query: its condition, and the view and columns it reads. -/
structure QueryRequest where
  predicate : MembershipPredicate
  view : String := repositorySchema.view
  columns : List String :=
    [repositorySchema.documentColumn, repositorySchema.permissionColumn]
  deriving DecidableEq

/-- A row of an answer: a visible document and the permission it is seen under. -/
structure Row where
  docId : Text
  permissionId : Option Text
  deriving DecidableEq

/-- The row of a document without a permission. -/
def Row.ofDocument (id : Text) : Row := ⟨id, none⟩

end DocAccess
