import DocAccess.Membership

/-!
# Batches and feeds

A request is asked in batches of at most `cap` identifiers. A `BatchSource` hands them out one
after another from a list that may still grow. A fetch that comes back short has seen the end of
the list, and then the source is at its end for good; a full batch has not.

A feed is a list that may still grow, with the source of its batches. Every positive number is a
cap for a feed; one that is too large is refused whenever a batch is fetched.
-/
namespace DocAccess

/-- Number of batches for `total` identifiers: the quotient by the cap, rounded up. There is none
for a cap of zero. -/
def batchCount (total cap : Int) : Option Int :=
  if cap = 0 then none else some (-((-total).fdiv cap))

/-- The cap of a request that names none. -/
def defaultBatchCap : Int := 1000

/-- The greatest number of identifiers in a batch. -/
structure BatchCap where
  size : Nat
  positive : 0 < size
  deriving DecidableEq, Repr

/-- Why a number is no cap. -/
inductive CapError where
  | tooSmall
  | tooLarge
  deriving DecidableEq, Repr

/-- The message for a number that is no cap. -/
def CapError.message : CapError → String
  | .tooSmall => "max_batch_size must be at least 1"
  | .tooLarge =>
    "Stop argument for islice() must be None or an integer: 0 <= x <= sys.maxsize."

/-- The first number that is too large for a cap. -/
def BatchCap.limit : Nat := Nat.pow 2 63

/-- The cap of a given size. -/
def BatchCap.ofInt? (n : Int) : Except CapError BatchCap :=
  if h : 0 < n.toNat then
    if n.toNat < BatchCap.limit then .ok ⟨n.toNat, h⟩ else .error .tooLarge
  else .error .tooSmall

/-- Consecutive identifiers of a request, with the number of the batch and the position of its
first identifier. -/
structure Batch where
  index : Int
  offset : Int
  docIds : List Text
  nonempty : docIds ≠ []

namespace Batch

/-- The message for a batch without identifiers. -/
def emptyMessage : String := "Batch must contain at least one document id"

/-- The batch of the given identifiers; nothing without any. -/
def ofIds? (index offset : Int) (docIds : List Text) : Option Batch :=
  if h : docIds = [] then none else some ⟨index, offset, docIds, h⟩

/-- Number of identifiers. -/
def size (b : Batch) : Nat := b.docIds.length

/-- The condition that a document is one of the batch. -/
def predicate (b : Batch) : MembershipPredicate :=
  ⟨repositorySchema.documentColumn, b.docIds, b.nonempty⟩

/-- The query for the batch. -/
def query (b : Batch) : QueryRequest := { predicate := b.predicate }

end Batch

/-- Hands out the batches of a growing list. -/
structure BatchSource where
  cap : BatchCap
  /-- Identifiers not yet handed out. -/
  pending : List Text
  /-- Number of batches handed out. -/
  handedOut : Nat
  /-- Number of identifiers handed out. -/
  consumed : Nat
  /-- Whether the end of the list has been seen. -/
  ended : Bool

namespace BatchSource

/-- The source of the batches of a list. -/
def ofList (cap : BatchCap) (docIds : List Text) : BatchSource := ⟨cap, docIds, 0, 0, false⟩

/-- The list grows at its end. -/
def append (s : BatchSource) (docIds : List Text) : BatchSource :=
  { s with pending := s.pending ++ docIds }

/-- The next batch, or nothing at the end. -/
def next (s : BatchSource) : Option Batch × BatchSource :=
  if s.ended then (none, s)
  else
    match s.pending.take s.cap.size with
    | [] => (none, { s with ended := true })
    | id :: ids =>
      (some ⟨s.handedOut, s.consumed, id :: ids, List.cons_ne_nil id ids⟩,
        { s with
          pending := s.pending.drop s.cap.size
          handedOut := s.handedOut + 1
          consumed := s.consumed + (ids.length + 1)
          ended := ids.length + 1 < s.cap.size })

/-- Handing out a batch leaves fewer identifiers. -/
theorem pending_next_lt {s s' : BatchSource} {b : Batch} (h : s.next = (some b, s')) :
    s'.pending.length < s.pending.length := by
  unfold next at h
  split at h
  · simp at h
  · split at h
    · simp at h
    · rename_i id ids hc
      obtain ⟨-, rfl⟩ := Prod.mk.inj h
      have hpos := s.cap.positive
      have hlen : 0 < s.pending.length := by
        cases hp : s.pending with
        | nil => simp [hp] at hc
        | cons => simp
      simp only [List.length_drop]
      omega

/-- All batches up to the end, and the source as it is then. -/
def drain (s : BatchSource) : List Batch × BatchSource :=
  match h : s.next with
  | (none, s') => ([], s')
  | (some b, s') =>
    have := pending_next_lt h
    let rest := drain s'
    (b :: rest.1, rest.2)
termination_by s.pending.length

end BatchSource
/-! ## Feeds -/

/-- The cap of a given size; nothing for a number below one. -/
def BatchCap.positive? (n : Int) : Option BatchCap :=
  if h : 0 < n.toNat then some ⟨n.toNat, h⟩ else none

/-- A growing list and the source of its batches. -/
structure Feed where
  /-- The list as it stands. -/
  listed : List Text
  source : BatchSource

namespace Feed

/-- The feed of a list. -/
def ofList (cap : BatchCap) (docIds : List Text) : Feed := ⟨docIds, .ofList cap docIds⟩

/-- The list grows at its end. -/
def append (f : Feed) (docIds : List Text) : Feed :=
  ⟨f.listed ++ docIds, f.source.append docIds⟩

/-- Fetches the next batch; there is none at the end. -/
def fetch (f : Feed) : Except CapError (Option Batch) × Feed :=
  if f.source.cap.size < BatchCap.limit then
    (.ok f.source.next.1, { f with source := f.source.next.2 })
  else (.error .tooLarge, f)

/-- Fetches all batches that are left. -/
def fetchAll (f : Feed) : Except CapError (List Batch) × Feed :=
  if f.source.cap.size < BatchCap.limit then
    (.ok f.source.drain.1, { f with source := f.source.drain.2 })
  else (.error .tooLarge, f)

@[simp] theorem append_nil (f : Feed) : f.append [] = f := by
  simp [append, BatchSource.append]

end Feed

end DocAccess
