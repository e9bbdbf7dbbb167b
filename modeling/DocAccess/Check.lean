import DocAccess.Authorization

/-!
# Access checks

A check is an authorization under a correlation id of its own, with a deadline that falls back
on a configured one. It yields the authorized documents of the request or one error: the caller
is unauthorized, the repository failed, or time ran out. A partial list is never returned.
-/
namespace DocAccess

/-- What an error means to the caller. -/
inductive ApplicationErrorCode where
  | unauthorized
  | externalServiceError
  | gatewayTimeout
  deriving DecidableEq, Repr

instance : Vocabulary ApplicationErrorCode where
  label := "ApplicationErrorCode"
  members := [.unauthorized, .externalServiceError, .gatewayTimeout]
  word
    | .unauthorized => "unauthorized"
    | .externalServiceError => "external_service_error"
    | .gatewayTimeout => "gateway_timeout"

/-- An error for the caller, with the failure that caused it. -/
structure ApplicationError where
  code : ApplicationErrorCode
  message : Text
  details : List (String × Text)
  cause : RepositoryError

namespace ApplicationError

/-- The code for a failure of a repository. -/
def codeOf : FailureKind → ApplicationErrorCode
  | .authentication _ => .unauthorized
  | .query _ true => .gatewayTimeout
  | _ => .externalServiceError

/-- The details for a failure of a repository, after its name. -/
def detailsOf : FailureKind → List (String × Text)
  | .authentication username => [("username", username)]
  | .query (some index) _ => [("batch_index", .wellFormed (toString index))]
  | _ => []

/-- The error for a failure of a repository. -/
def ofFailure (e : RepositoryError) : ApplicationError where
  code := codeOf e.kind
  message := e.message
  details := ("repository", .wellFormed e.repository) :: detailsOf e.kind
  cause := e

end ApplicationError

/-- What a check yields. -/
structure AccessCheck where
  requestId : String
  authorizedDocIds : List Text
  requestedCount : Int
  decisions : List Decision
  deriving DecidableEq

/-- Number of authorized documents. -/
def AccessCheck.authorizedCount (c : AccessCheck) : Nat := c.authorizedDocIds.length

/-- How a check ends. -/
abbrev CheckOutcome := Except Fault (Except ApplicationError AccessCheck)

/-- Which documents are asked about, for whom, and within which time. -/
structure CheckRequest where
  docIds : List Text
  identity : Identity
  deadline : Option Seconds

namespace CheckRequest

/-- The request for authorization under a correlation id. -/
def authorization (r : CheckRequest) (defaultDeadline : Option Seconds) (requestId : String) :
    AuthorizationRequest where
  docIds := r.docIds
  identity := r.identity
  deadline := r.deadline.or defaultDeadline
  requestId := some requestId

/-- The event of a check that was rejected. -/
def rejectedEvent (requestId : String) (e : RepositoryError) : Event :=
  ⟨.info, "access_check_rejected", [("request_id", .str requestId)],
    [("error_code", .str (Vocabulary.word e.code))]⟩

/-- What becomes of an authorization: a failure is logged and turned into an error. -/
def report (r : CheckRequest) (requestId : String) : AuthorizationOutcome → Program CheckOutcome
  | .error f => .done (.error f)
  | .ok (.error e) =>
    .log (rejectedEvent requestId e) (.done (.ok (.error (.ofFailure e))))
  | .ok (.ok d) =>
    .done (.ok (.ok ⟨requestId, d.docIds, r.docIds.length, d.decisions⟩))

/-- The check as a job. -/
def job (policy : AuthorizationPolicy) (defaultDeadline : Option Seconds) (requestId : String)
    (r : CheckRequest) : Job CheckOutcome :=
  let request := r.authorization defaultDeadline requestId
  ⟨request.deadline, (Authorization.program policy request).bind (r.report requestId)⟩

end CheckRequest
end DocAccess
