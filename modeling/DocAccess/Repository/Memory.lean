import DocAccess.Identity
import DocAccess.Session.Run

/-!
# A repository in memory

A permission table maps principals to the documents that they can see. A session works on the
table as it was when the session was opened. A principal is looked up by its qualified name
first, then by its bare user name; an entry without documents is an entry.
-/
namespace DocAccess

/-- Principals with the documents that they can see. -/
abbrev PermissionTable := List (Text × List Text)

namespace PermissionTable

/-- The documents of a principal; nothing for an unknown one. -/
def find? (t : PermissionTable) (principal : Text) : Option (List Text) := t.lookup principal

/-- Gives a principal its documents, in its place or at the end. -/
def put (t : PermissionTable) (principal : Text) (docIds : List Text) : PermissionTable :=
  match t with
  | [] => [(principal, docIds)]
  | e :: rest =>
    if e.1 = principal then (principal, docIds) :: rest else e :: put rest principal docIds

/-- Makes documents visible to a principal, who becomes known by it. -/
def grant (t : PermissionTable) (principal : Text) (docIds : List Text) : PermissionTable :=
  t.put principal ((t.find? principal).getD [] ++ docIds)

/-- Hides documents from a principal; an unknown one stays unknown. -/
def revoke (t : PermissionTable) (principal : Text) (docIds : List Text) : PermissionTable :=
  match t.find? principal with
  | some visible => t.put principal (visible.filter fun id => !docIds.contains id)
  | none => t

/-- The documents of an identity: those of its qualified name, else of its user name. -/
def visibleTo? (t : PermissionTable) (i : Identity) : Option (List Text) :=
  (t.find? i.qualifiedName).or (t.find? i.username)

end PermissionTable

/-- A session over a snapshot of the table. -/
structure MemorySession where
  snapshot : PermissionTable
  /-- The documents of the principal impersonated last. -/
  visible : Option (List Text)
  isClosed : Bool
  queriesIssued : Nat

/-- The table and every session opened so far, oldest first. -/
structure Memory where
  table : PermissionTable
  sessions : List MemorySession

namespace MemorySession

/-- The message for a principal that the table does not know. -/
def unknownMessage (i : Identity) : Text :=
  .wellFormed "Unknown user '" ++ i.qualifiedName ++ .wellFormed "'"

/-- Takes a principal for later queries. -/
def impersonate (s : MemorySession) (repository : String) (username : Text) (domain : Option Text) :
    Except Fault (Except RepositoryError Unit) × MemorySession :=
  if s.isClosed then
    (.ok (.error ⟨.unavailable, "Session is closed", repository, none, .connection⟩), s)
  else
    match Identity.ofNames? (some username) domain with
    | none => (.error (.value Identity.blankMessage), s)
    | some i =>
      match s.snapshot.visibleTo? i with
      | some visible => (.ok (.ok ()), { s with visible := some visible })
      | none =>
        (.ok (.error ⟨.impersonationFailed, unknownMessage i, repository, none,
          .authentication username⟩), s)

/-- Answers a query with one row for each distinct visible document that it names. -/
def query (s : MemorySession) (repository : String) (r : QueryRequest) :
    Except RepositoryError (List Row) × MemorySession :=
  let s := { s with queriesIssued := s.queriesIssued + 1 }
  match s.isClosed, s.visible with
  | false, some visible =>
    let named := r.predicate.values.eraseDups.filter visible.contains
    (.ok (named.map .ofDocument), s)
  | _, _ =>
    (.error ⟨.queryFailed, "Query on a closed or un-impersonated session", repository, none,
      .query none false⟩, s)

/-- Closes the session for good. -/
def close (s : MemorySession) : MemorySession := { s with isClosed := true }

end MemorySession

namespace Memory

/-- How many sessions are remembered for inspection. -/
def remembered : Nat := 100

/-- A table without sessions. -/
def ofTable (t : PermissionTable) : Memory := ⟨t, []⟩

/-- Makes documents visible in sessions opened from now on. -/
def grant (m : Memory) (principal : Text) (docIds : List Text) : Memory :=
  { m with table := m.table.grant principal docIds }

/-- Hides documents in sessions opened from now on. -/
def revoke (m : Memory) (principal : Text) (docIds : List Text) : Memory :=
  { m with table := m.table.revoke principal docIds }

/-- Opens a session over the table as it is. -/
def openSession (m : Memory) : Session × Memory :=
  (⟨m.sessions.length, false⟩, { m with sessions := m.sessions ++ [⟨m.table, none, false, 0⟩] })

/-- Number of sessions opened so far. -/
def sessionsOpened (m : Memory) : Nat := m.sessions.length

/-- The remembered sessions, oldest first. -/
def recent (m : Memory) : List MemorySession := m.sessions.drop (m.sessions.length - remembered)

/-- The number of the oldest remembered session. -/
def firstRecent? (m : Memory) : Option Nat :=
  if m.sessions.isEmpty then none else some (m.sessions.length - remembered)

/-- The fault of a call on a session that was never opened. -/
def unknownSession (number : Nat) : Fault := ⟨.key, .wellFormed (toString number)⟩

/-- The event of a session that was opened, the `count`-th. -/
def openedEvent (count : Nat) : Event :=
  ⟨.debug, "repository_session_opened", [], [("session_count", .nat count)]⟩

/-- Works on one session. -/
def onSession (m : Memory) (number : Nat) (f : MemorySession → Except Fault α × MemorySession) :
    Started Memory α :=
  match m.sessions[number]? with
  | none => .atOnce m (.error (unknownSession number)) []
  | some s =>
    let (outcome, s) := f s
    .atOnce { m with sessions := m.sessions.set number s } outcome []

/-- The repository over a table, under a name. -/
def repository (name : String) : Repository Memory where
  name := name
  start
    | .openSession, m =>
      let (session, m) := m.openSession
      .atOnce m (.ok (.ok session)) [openedEvent m.sessionsOpened]
    | .setTimeout number _, m => m.onSession number fun s => (.ok (), s)
    | .impersonate number username domain, m =>
      m.onSession number fun s => s.impersonate name username domain
    | .query number request, m =>
      m.onSession number fun s =>
        let (answer, s) := s.query name request
        (.ok answer, s)
    | .closeSession number, m => m.onSession number fun s => (.ok (), s.close)

end Memory
end DocAccess
