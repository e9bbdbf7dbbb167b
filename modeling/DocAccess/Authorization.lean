import DocAccess.Aggregate
import DocAccess.Identity
import DocAccess.Session.Run

/-!
# Authorization

`authorize` asks a repository which documents of a list a principal may see. It opens a session,
limits its queries when that is configured, impersonates the principal, asks batch by batch and
closes the session, whatever happens in between. The first failure ends the request and the
documents confirmed so far are dropped. A deadline, or any fault that says that time ran out,
becomes the failure of a query for which time ran out.
-/
namespace DocAccess

/-- How requests are carried out. -/
structure AuthorizationPolicy where
  /-- The name of the repository in events and failures. -/
  repository : String
  /-- The limit for each query, for sessions that support one. -/
  queryLimit : Option Seconds
  /-- The greatest number of documents in a query. -/
  batchCap : Int
  /-- Whether queries and decisions are logged one by one. -/
  traced : Bool

/-- A request: which of these documents may the principal see? -/
structure AuthorizationRequest where
  docIds : List Text
  identity : Identity
  deadline : Option Seconds
  requestId : Option String

/-- The result of a request that no fault ended. -/
abbrev AuthorizationResult := Except RepositoryError AuthorizedDocuments

/-- How a request ends. -/
abbrev AuthorizationOutcome := Except Fault AuthorizationResult

/-! ## Stages -/

/-- The stages of a request: it is idle, opens its session, queries batch by batch, and ends
completed or failed. -/
inductive Stage where
  | idle
  | sessionOpening
  | batchingInProgress
  | completed
  | failed
  deriving DecidableEq, Repr

instance : Vocabulary Stage where
  label := "AuthorizationStage"
  members := [.idle, .sessionOpening, .batchingInProgress, .completed, .failed]
  word
    | .idle => "idle"
    | .sessionOpening => "session_opening"
    | .batchingInProgress => "batching_in_progress"
    | .completed => "completed"
    | .failed => "failed"

/-- Whether the request can change no more. -/
def Stage.isTerminal (s : Stage) : Bool := s = .completed || s = .failed

/-- How far a request has come. -/
structure Progress where
  stage : Stage
  /-- The batch of the last query. -/
  batchIndex : Option Int
  queriesIssued : Nat

namespace Progress

/-- Nothing has been asked of the repository. -/
def idle : Progress := ⟨.idle, none, 0⟩

/-- The session is being opened. -/
def sessionOpening : Progress := ⟨.sessionOpening, none, 0⟩

/-- The principal is impersonated and queries follow. -/
def batching (p : Progress) : Progress := { p with stage := .batchingInProgress }

/-- The query of a batch is being made. -/
def issued (p : Progress) (b : Batch) : Progress :=
  { p with batchIndex := some b.index, queriesIssued := p.queriesIssued + 1 }

end Progress

/-- What a request comes to before its session is closed. -/
inductive Ending where
  | finished (result : AuthorizationResult)
  | raised (fault : Fault)
  | expired

/-- The ending of a call that did not return. -/
def Ending.ofFault (f : Fault) : Ending := if f.isTimeout then .expired else .raised f

namespace Authorization

variable (policy : AuthorizationPolicy) (request : AuthorizationRequest)

/-- The fields bound to every event of the request. -/
def bound : Fields :=
  [("request_id", .ofOption .str request.requestId),
    ("username", .string request.identity.qualifiedName),
    ("repository", .str policy.repository)]

/-- An event of the request. -/
def event (level : LogLevel) (name : String) (fields : Fields) : Event :=
  ⟨level, name, bound policy request, fields⟩

/-- The event that starts the request. -/
def startedEvent (batches : Int) : Event :=
  event policy request .info "authorization_started"
    [("doc_count", .nat request.docIds.length), ("batch_count", .int batches)]

/-- The event of a request that failed. -/
def failedEvent (p : Progress) (e : RepositoryError) : Event :=
  event policy request .warning "authorization_failed"
    [("stage", .str (Vocabulary.word p.stage)), ("batch_index", .ofOption .int p.batchIndex),
      ("queries_issued", .nat p.queriesIssued), ("error_code", .str (Vocabulary.word e.code)),
      ("error_message", .string e.message)]

/-- The event of a request that succeeded. -/
def completedEvent (p : Progress) (d : AuthorizedDocuments) : Event :=
  event policy request .info "authorization_completed"
    [("doc_count", .nat request.docIds.length), ("authorized_count", .nat d.size),
      ("queries_issued", .nat p.queriesIssued)]

/-- The event of a session that could not be closed. -/
def closeFailedEvent (f : Fault) : Event :=
  event policy request .warning "session_close_failed"
    [("error_type", .str f.kind.name), ("error_message", .string f.text)]

/-- The event of a limit that the session does not support. -/
def limitUnsupportedEvent (limit : Seconds) : Event :=
  event policy request .debug "session_timeout_unsupported"
    [("query_timeout_seconds", match limit with | .whole n => .int n | .real x => .real x)]

/-- The event of a query. -/
def queryEvent (b : Batch) : Event :=
  event policy request .debug "batch_query"
    [("batch_index", .int b.index), ("batch_size", .nat b.size),
      ("predicate", .string b.predicate.render)]

/-- The event of a decision. -/
def decisionEvent (d : Decision) : Event :=
  event policy request .debug "document_authorization"
    [("doc_id", .string d.docId), ("is_authorized", .bool d.isAuthorized)]

/-- The event of a row that names no document of its batch. -/
def strayEvent (b : Batch) (r : Row) : Event :=
  event policy request .warning "unexpected_row_ignored"
    [("batch_index", .int b.index), ("doc_id", .string r.docId)]

/-- Events that are written only when requests are traced. -/
def whenTraced (events : List Event) : List Event := if policy.traced then events else []

/-- The failure of a request for which time ran out. -/
def deadlineFailure (p : Progress) : RepositoryError where
  code := .queryTimeout
  message := .wellFormed ("Authorization deadline of " ++
    (request.deadline.map Seconds.text).getD "None" ++ "s exceeded")
  repository := policy.repository
  details := none
  kind := .query p.batchIndex true

/-- Writes the last event and ends with a result. -/
def conclude (p : Progress) (result : AuthorizationResult) : Program AuthorizationOutcome :=
  match result with
  | .error e => .log (failedEvent policy request p e) (.done (.ok (.error e)))
  | .ok d => .log (completedEvent policy request p d) (.done (.ok (.ok d)))

/-- Ends the request as it has come out. -/
def settle (p : Progress) (ending : Ending) : Program AuthorizationOutcome :=
  match ending with
  | .finished result => conclude policy request p result
  | .raised f => .done (.error f)
  | .expired => conclude policy request p (.error (deadlineFailure policy request p))

/-- Closes the session and ends the request. A fault while closing is logged and changes
nothing; a deadline that expires then still fails the request. -/
def close (session : Session) (p : Progress) (ending : Ending) : Program AuthorizationOutcome :=
  .call (.closeSession session.number) fun
    | .returned () => settle policy request p ending
    | .raised f => .log (closeFailedEvent policy request f) (settle policy request p ending)
    | .cancelled => settle policy request p .expired

/-- Asks batch after batch and stops at the first that fails. -/
def queryBatches (session : Session) :
    List Batch → Aggregate → Progress → Program AuthorizationOutcome
  | [], a, p => close policy request session p (.finished (.ok a.authorized))
  | b :: rest, a, p =>
    let p := p.issued b
    .logAll (whenTraced policy [queryEvent policy request b])
      (.call (.query session.number b.query) fun
        | .returned (.ok rows) =>
          match a.absorb b rows with
          | .ok step =>
            .logAll (step.strays.map (strayEvent policy request b))
              (.logAll (whenTraced policy (step.decisions.map (decisionEvent policy request)))
                (queryBatches session rest step.next p))
          | .error f => close policy request session p (.ofFault f)
        | .returned (.error e) =>
          close policy request session p (.finished (.error (e.atBatch b.index)))
        | .raised f => close policy request session p (.ofFault f)
        | .cancelled => close policy request session p .expired)

/-- Impersonates the principal, then asks. -/
def impersonate (session : Session) : Program AuthorizationOutcome :=
  let p := Progress.sessionOpening
  .call (.impersonate session.number request.identity.username request.identity.domain) fun
    | .returned (.ok ()) =>
      match BatchCap.ofInt? policy.batchCap with
      | .ok cap =>
        queryBatches policy request session (BatchSource.ofList cap request.docIds).drain.1 .empty
          p.batching
      | .error e => close policy request session p.batching (.raised (.value e.message))
    | .returned (.error e) => close policy request session p (.finished (.error e))
    | .raised f => close policy request session p (.ofFault f)
    | .cancelled => close policy request session p .expired

/-- Limits the queries of a session when that is configured, then impersonates. -/
def configure (session : Session) : Program AuthorizationOutcome :=
  match policy.queryLimit with
  | none => impersonate policy request session
  | some limit =>
    if session.supportsTimeouts then
      .call (.setTimeout session.number limit) fun
        | .returned () => impersonate policy request session
        | .raised f => close policy request session .sessionOpening (.ofFault f)
        | .cancelled => close policy request session .sessionOpening .expired
    else
      .log (limitUnsupportedEvent policy request limit) (impersonate policy request session)

/-- Opens a session and works with it. -/
def openSession : Program AuthorizationOutcome :=
  .call .openSession fun
    | .returned (.ok session) => configure policy request session
    | .returned (.error e) => settle policy request .sessionOpening (.finished (.error e))
    | .raised f => settle policy request .sessionOpening (.ofFault f)
    | .cancelled => settle policy request .sessionOpening .expired

/-- The message for a division by a cap of zero. -/
def zeroCapFault : Fault := ⟨.zeroDivision, "integer division or modulo by zero"⟩

/-- The message for a deadline that no double can hold. -/
def longDeadlineFault : Fault := ⟨.overflow, "int too large to convert to float"⟩

/-- Whether the deadline is too large for a double. -/
def deadlineOverflows : Bool := request.deadline.any Seconds.exceedsDouble

/-- The program of a request. Without documents there is nothing to ask. -/
def program : Program AuthorizationOutcome :=
  if request.docIds.isEmpty then .done (.ok (.ok .empty))
  else
    match batchCount request.docIds.length policy.batchCap with
    | none => .done (.error zeroCapFault)
    | some batches =>
      .log (startedEvent policy request batches)
        (if deadlineOverflows request then .done (.error longDeadlineFault)
        else openSession policy request)

/-- The request as a job with its deadline. -/
def job : Job AuthorizationOutcome := ⟨request.deadline, program policy request⟩

/-- The greatest number of calls that the request makes. -/
def callBound : Nat := request.docIds.length + 4

end Authorization
end DocAccess
