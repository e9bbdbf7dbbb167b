import DocAccess.Fault
import DocAccess.Json.Basic

/-!
# Failures of a repository

A repository reports a failure as a value: which repository, a code, a message and, where they
are known, details. Four kinds tell what was being done: opening a session, impersonating a
user, answering a query, or none of these.
-/
namespace DocAccess

/-- The codes of failures. -/
inductive ErrorCode where
  | impersonationFailed
  | unavailable
  | queryFailed
  | queryTimeout
  | invalidResponse
  deriving DecidableEq, Repr

instance : Vocabulary ErrorCode where
  label := "ErrorCode"
  members := [.impersonationFailed, .unavailable, .queryFailed, .queryTimeout, .invalidResponse]
  word
    | .impersonationFailed => "repository_impersonation_failed"
    | .unavailable => "repository_unavailable"
    | .queryFailed => "repository_query_failed"
    | .queryTimeout => "repository_query_timeout"
    | .invalidResponse => "repository_invalid_response"

/-- What a failure is about. -/
inductive FailureKind where
  | plain
  /-- The session could not be opened, or the repository could not be reached. -/
  | connection
  /-- The impersonation of `username` was rejected. -/
  | authentication (username : Text)
  /-- A query failed: that of the batch, when known, and whether time ran out. -/
  | query (batchIndex : Option Int) (deadlineExceeded : Bool)
  deriving DecidableEq

namespace FailureKind

/-- The name of a kind. -/
def name : FailureKind → String
  | plain => "RepositoryError"
  | connection => "RepositoryConnectionError"
  | authentication _ => "RepositoryAuthenticationError"
  | query .. => "RepositoryQueryError"

end FailureKind

/-- A failure that a repository reports. -/
structure RepositoryError where
  code : ErrorCode
  message : Text
  repository : String
  details : Option Json
  kind : FailureKind

namespace RepositoryError

/-- The failure in one line. -/
def line (e : RepositoryError) : Text :=
  .wellFormed (Vocabulary.word e.code ++ ": ") ++ e.message

/-- The failure of the query of batch `index`; one that names its batch keeps it. -/
def atBatch (e : RepositoryError) (index : Int) : RepositoryError :=
  match e.kind with
  | .query none late => { e with kind := .query (some index) late }
  | _ => e

/-- Whether the failure is that of a query for which time ran out. -/
def isDeadlineExceeded (e : RepositoryError) : Bool :=
  match e.kind with
  | .query _ late => late
  | _ => false

end RepositoryError
end DocAccess
