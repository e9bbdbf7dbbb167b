import DocAccess.Text.Basic

/-!
# Authorized documents

The documents confirmed visible to a principal: identifiers in the order in which they were
added, with every repetition. Nothing is ever removed. A cursor goes through the documents that were
there when it was made, whatever is added on the way.
-/
namespace DocAccess

/-- Whether one document may be seen. -/
structure Decision where
  docId : Text
  isAuthorized : Bool
  deriving DecidableEq

/-- Authorized documents in the order in which they were added. -/
structure AuthorizedDocuments where
  docIds : List Text
  deriving DecidableEq

namespace AuthorizedDocuments

/-- What is left of a way through documents: the identifiers not yet visited. -/
structure Cursor where
  pending : List Text

namespace Cursor

/-- The identifier that is visited next, and the cursor behind it; there is none at the end. -/
def next : Cursor → Option Text × Cursor
  | ⟨[]⟩ => (none, ⟨[]⟩)
  | ⟨id :: rest⟩ => (some id, ⟨rest⟩)

/-- A visit leaves fewer identifiers. -/
theorem pending_next_lt {c c' : Cursor} {id : Text} (h : c.next = (some id, c')) :
    c'.pending.length < c.pending.length := by
  obtain ⟨_ | ⟨_, rest⟩⟩ := c
  · cases h
  · cases h
    exact Nat.lt_succ_self rest.length

/-- Visits all that is left, and does `visit` with a value at each identifier. The result holds the
identifiers visited. -/
def forEach (visit : Text → α → α) (c : Cursor) (a : α) : List Text × α :=
  match h : c.next with
  | (none, _) => ([], a)
  | (some id, c') =>
    have := pending_next_lt h
    let rest := forEach visit c' (visit id a)
    (id :: rest.1, rest.2)
termination_by c.pending.length

/-- **All that is left is visited, in order**, whatever is done on the way. -/
theorem forEach_eq (visit : Text → α → α) (ids : List Text) (a : α) :
    forEach visit ⟨ids⟩ a = (ids, ids.foldl (fun acc id => visit id acc) a) := by
  induction ids generalizing a with
  | nil => rw [forEach]; rfl
  | cons id rest ih =>
    rw [forEach]
    simp only [next, ih, List.foldl_cons]

end Cursor

/-- No documents. -/
def empty : AuthorizedDocuments := ⟨[]⟩

/-- Adds one document at the end. -/
def add (d : AuthorizedDocuments) (id : Text) : AuthorizedDocuments := ⟨d.docIds ++ [id]⟩

/-- Adds documents at the end, in order. -/
def extend (d : AuthorizedDocuments) (ids : List Text) : AuthorizedDocuments :=
  ⟨d.docIds ++ ids⟩

/-- A cursor before the first of the documents that are there. -/
def cursor (d : AuthorizedDocuments) : Cursor := ⟨d.docIds⟩

/-- Adds the documents that are there once more, one after another. -/
def extendSelf (d : AuthorizedDocuments) : AuthorizedDocuments :=
  (d.cursor.forEach (fun id acc => acc.add id) d).2

/-- Visits the documents that are there and adds `f id` at each visit. The result holds the
documents visited. -/
def iterateAdding (d : AuthorizedDocuments) (f : Text → Text) :
    List Text × AuthorizedDocuments :=
  d.cursor.forEach (fun id acc => acc.add (f id)) d

/-- Number of documents, repetitions included. -/
def size (d : AuthorizedDocuments) : Nat := d.docIds.length

/-- Whether a document is among them. -/
def contains (d : AuthorizedDocuments) (id : Text) : Bool := d.docIds.contains id

/-- Each document as a granted decision. -/
def decisions (d : AuthorizedDocuments) : List Decision := d.docIds.map fun id => ⟨id, true⟩

/-- How a collection is displayed. -/
def display (d : AuthorizedDocuments) : String :=
  "AuthorizedDocuments(count=" ++ toString d.size ++ ")"

@[simp] theorem docIds_add (d : AuthorizedDocuments) (id : Text) :
    (d.add id).docIds = d.docIds ++ [id] := rfl

@[simp] theorem docIds_extend (d : AuthorizedDocuments) (ids : List Text) :
    (d.extend ids).docIds = d.docIds ++ ids := rfl

/-- Documents that are added one after another come in their order. -/
theorem docIds_foldl_add (f : Text → Text) (ids : List Text) (d : AuthorizedDocuments) :
    (ids.foldl (fun acc id => acc.add (f id)) d).docIds = d.docIds ++ ids.map f := by
  induction ids generalizing d with
  | nil => simp
  | cons id rest ih => simp [ih]

@[simp] theorem docIds_extendSelf (d : AuthorizedDocuments) :
    d.extendSelf.docIds = d.docIds ++ d.docIds := by
  rw [extendSelf, cursor, Cursor.forEach_eq]
  simpa using docIds_foldl_add id d.docIds d

@[simp] theorem fst_iterateAdding (d : AuthorizedDocuments) (f : Text → Text) :
    (d.iterateAdding f).1 = d.docIds := by
  rw [iterateAdding, cursor, Cursor.forEach_eq]

@[simp] theorem docIds_iterateAdding (d : AuthorizedDocuments) (f : Text → Text) :
    (d.iterateAdding f).2.docIds = d.docIds ++ d.docIds.map f := by
  rw [iterateAdding, cursor, Cursor.forEach_eq]
  exact docIds_foldl_add f d.docIds d

end AuthorizedDocuments
end DocAccess
