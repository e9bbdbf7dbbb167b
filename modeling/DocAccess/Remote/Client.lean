import DocAccess.Remote.Rows
import DocAccess.Remote.Server
import DocAccess.Remote.Url
import DocAccess.Session.Run

/-!
# A remote repository

Each session has a client of its own, which is created when the session is opened and closed
with it. Opening a session, impersonating and querying are requests whose transport faults and
unexpected answers become failures; other faults are raised. A client whose session could not be
opened is closed when the server refuses or cannot be reached, and stays open when the request has
no address, raises another fault or is cancelled. Closing a session deletes it on the server, once.
-/
namespace DocAccess

/-- How a remote repository is reached. -/
structure RemoteConfig where
  name : String
  /-- The base address; slashes at its end do not matter. -/
  baseUrl : String
  /-- The limit for each request of a new session. -/
  limit : Seconds
  headers : List (String × String)
  codec : Codec

/-- A session with its client. -/
structure RemoteSession where
  /-- The identifier that the server gave the session. -/
  token : Text
  limit : Seconds
  /-- Whether closing has begun. -/
  isClosing : Bool
  clientOpen : Bool

/-- The server's script and record, and the sessions and clients of the repository. -/
structure Remote where
  script : List Exchange
  calls : List RemoteCall
  sessions : List RemoteSession
  clientsOpened : Nat
  clientsClosed : Nat

namespace Remote

/-- A server that will play a script. -/
def ofScript (script : List Exchange) : Remote := ⟨script, [], [], 0, 0⟩

/-- Number of clients that are open. -/
def openClients (w : Remote) : Nat := w.clientsOpened - w.clientsClosed

/-- The statuses of a session that was created. -/
def createdStatuses : List Int := [200, 201]

/-- A request takes the next entry of the script and is recorded. -/
def take (w : Remote) (call : RemoteCall) : Exchange × Remote :=
  let w := { w with calls := w.calls ++ [call] }
  match w.script with
  | [] => (.exhausted, w)
  | e :: rest => (e, { w with script := rest })

/-- A client is closed. -/
def closeClient (w : Remote) : Remote := { w with clientsClosed := w.clientsClosed + 1 }

/-- Changes one session. -/
def modifySession (w : Remote) (number : Nat) (f : RemoteSession → RemoteSession) : Remote :=
  { w with sessions := w.sessions.modify number f }

/-- The client of a session is closed. -/
def closeSessionClient (w : Remote) (number : Nat) : Remote :=
  (w.modifySession number fun s => { s with clientOpen := false }).closeClient

/-- The fault of a request on a closed client. -/
def closedFault : Fault := ⟨.runtime, "Cannot send a request, as the client has been closed."⟩

/-- The fault of a call on a session that was never opened. -/
def unknownSession (number : Nat) : Fault := ⟨.key, .wellFormed (toString number)⟩

/-- The headers of a server's record: those of the client whose names start with `x-`, in lower
case; values of one name are joined. -/
def recordedHeaders (headers : List (String × String)) : List (String × String) :=
  let lowered := headers.map fun (name, value) => (name.toLower, value)
  let kept := lowered.filter fun (name, _) => name.startsWith "x-"
  (kept.map Prod.fst).eraseDups.map fun name =>
    (name, ", ".intercalate ((kept.filter fun h => h.1 == name).map Prod.snd))

/-- The path of a session below the base address. -/
def sessionPath (token : Text) (suffix : String) : Text :=
  .wellFormed "/sessions/" ++ token ++ .wellFormed suffix

variable (config : RemoteConfig)

/-- An event of the repository. -/
def event (level : LogLevel) (name : String) (fields : Fields) : Event := ⟨level, name, [], fields⟩

/-- An event of a session; it carries the session's identifier. -/
def sessionEvent (s : RemoteSession) (name : String) (fields : Fields) : Event :=
  ⟨.warning, name, [("session_id", .string s.token)], fields⟩

/-- A failure of a query. -/
def queryFailure (code : ErrorCode) (message : Text) (details : Option Json) (late : Bool) :
    RepositoryError :=
  ⟨code, message, config.name, details, .query none late⟩

/-- A failure to reach the repository. -/
def connectionFailure (message : Text) (details : Option Json) : RepositoryError :=
  ⟨.unavailable, message, config.name, details, .connection⟩

/-- The configured base address. -/
def base : Except Fault Url.Base := Url.Base.parse (dropTrailingSlashes config.baseUrl)

/-- The address of a path below the configured base. -/
def address (path : Text) : Except Fault String :=
  match base config with
  | .error f => .error f
  | .ok base => base.join path

/-- The address of a request with a body, which has to be one that can be sent. -/
def prepared (path : Text) (body : Json) : Except Fault String :=
  match address config path, config.codec.refuses? body with
  | .error f, _ => .error f
  | .ok _, some f => .error f
  | .ok url, none => .ok url

/-- The end of a request whose response is a failure that keeps an excerpt of it. -/
def refused (r : Response) (failure : Json → RepositoryError) (notices : List Event) (w : Remote) :
    Finished Remote (Except RepositoryError α) :=
  ⟨(r.details config.codec).map fun details => .error (failure details), notices, w⟩

/-- The identifier in a response that created a session; nothing when it did not. -/
def token? (r : Response) : Except Fault (Option Text) :=
  if r.status ∈ createdStatuses then
    match r.json config.codec with
    | .error f => .error f
    | .ok none => .ok none
    | .ok (some v) =>
      match v.get? "session_id" with
      | none => .ok none
      | some token => .ok (if token.isTruthy then some token.spelled else none)
  else .ok none

/-- What becomes of the request that opens a session. -/
def finishOpen (reply : Reply) (w : Remote) : Finished Remote (Except RepositoryError Session) :=
  match reply with
  | .raise f =>
    match f.kind with
    | .transport _ =>
      ⟨.ok (.error (connectionFailure config
          (.wellFormed "Failed to connect to repository: " ++ f.text) none)),
        [event .warning "repository_connection_error" [("error", .string f.text)]], w.closeClient⟩
    | _ => ⟨.error f, [], w⟩
  | .respond r =>
    match token? config r with
    | .error f => ⟨.error f, [], w⟩
    | .ok (some token) =>
      ⟨.ok (.ok ⟨w.sessions.length, true⟩), [],
        { w with sessions := w.sessions ++ [⟨token, config.limit, false, true⟩] }⟩
    | .ok none =>
      refused config r
        (fun details => connectionFailure config
          (.wellFormed ("Repository refused session (status " ++ toString r.status ++ ")"))
          (some details))
        [event .warning "repository_session_refused" [("status_code", .int r.status)]]
        w.closeClient

/-- Opens a session. There is no client without a base address. -/
def startOpen (w : Remote) : Started Remote (Except RepositoryError Session) :=
  match base config with
  | .error f => .atOnce w (.error f) []
  | .ok base =>
    let w := { w with clientsOpened := w.clientsOpened + 1 }
    match base.join "/sessions" with
    | .error f => .atOnce w (.error f) []
    | .ok url =>
      let (exchange, w) :=
        w.take ⟨"POST", url, .null, config.limit, recordedHeaders config.headers⟩
      ⟨w, exchange.wait, finishOpen config exchange.reply, id⟩

/-- Makes a request on a session, unless it cannot be prepared or its client is closed. -/
def startRequest (w : Remote) (s : RemoteSession) (method suffix : String) (body : Json)
    (finish : Reply → Remote → Finished Remote α) (cancel : Remote → Remote)
    (stopped : Fault → Started Remote α) : Started Remote α :=
  match prepared config (sessionPath s.token suffix) body with
  | .error f => stopped f
  | .ok url =>
    if s.clientOpen then
      let (exchange, w) := w.take ⟨method, url, body, s.limit, recordedHeaders config.headers⟩
      ⟨w, exchange.wait, finish exchange.reply, cancel⟩
    else stopped closedFault

/-- What becomes of the request for an impersonation. -/
def finishImpersonate (s : RemoteSession) (username : Text) (reply : Reply) (w : Remote) :
    Finished Remote (Except RepositoryError Unit) :=
  match reply with
  | .raise f =>
    match f.kind with
    | .transport _ =>
      ⟨.ok (.error (connectionFailure config
          (.wellFormed "Repository unreachable during impersonation: " ++ f.text) none)),
        [sessionEvent s "repository_impersonation_transport_error" [("error", .string f.text)]], w⟩
    | _ => ⟨.error f, [], w⟩
  | .respond r =>
    if r.status = 200 then ⟨.ok (.ok ()), [], w⟩
    else if 500 ≤ r.status then
      refused config r
        (fun details => connectionFailure config "Repository failed during impersonation"
          (some details))
        [] w
    else
      refused config r
        (fun details => ⟨.impersonationFailed,
          .wellFormed "Repository rejected impersonation of '" ++ username ++ .wellFormed "'",
          config.name, some details, .authentication username⟩)
        [sessionEvent s "repository_impersonation_rejected"
          [("username", .string username), ("status_code", .int r.status)]]
        w

/-- The fault of a query that asks for no column. -/
def noColumnFault : Fault := .value "not enough values to unpack (expected at least 1, got 0)"

/-- The rows of a response to a query. -/
def readRows (s : RemoteSession) (request : QueryRequest) (r : Response) (w : Remote) :
    Finished Remote (Except RepositoryError (List Row)) :=
  match request.columns with
  | [] => ⟨.error noColumnFault, [], w⟩
  | documentColumn :: others =>
    let malformed := refused config r
      (fun details => queryFailure config .invalidResponse
        "Repository returned a malformed query response" (some details) false)
      [sessionEvent s "repository_query_invalid_response"
        [("error", .string (config.codec.complaint request r))]] w
    match r.json config.codec with
    | .error f => ⟨.error f, [], w⟩
    | .ok none => malformed
    | .ok (some payload) =>
      match Rows.ofPayload? documentColumn others.head? payload with
      | some rows => ⟨.ok (.ok rows), [], w⟩
      | none => malformed

/-- What becomes of a query. -/
def finishQuery (s : RemoteSession) (request : QueryRequest) (reply : Reply) (w : Remote) :
    Finished Remote (Except RepositoryError (List Row)) :=
  match reply with
  | .raise f =>
    match f.kind with
    | .transport t =>
      if t.isTimeout then
        ⟨.ok (.error (queryFailure config .queryTimeout
            (.wellFormed ("Repository query timed out after " ++ s.limit.text ++ "s")) none true)),
          [sessionEvent s "repository_query_timeout" [("error", .string f.text)]], w⟩
      else
        ⟨.ok (.error (queryFailure config .queryFailed
            (.wellFormed "Repository query failed: " ++ f.text) none false)),
          [sessionEvent s "repository_query_transport_error" [("error", .string f.text)]], w⟩
    | _ => ⟨.error f, [], w⟩
  | .respond r =>
    if r.status = 200 then readRows config s request r w
    else
      refused config r
        (fun details => queryFailure config .queryFailed
          (.wellFormed ("Repository query failed with status " ++ toString r.status))
          (some details) false)
        [sessionEvent s "repository_query_rejected" [("status_code", .int r.status)]] w

/-- The body of the request for an impersonation. -/
def impersonationBody (username : Text) (domain : Option Text) : Json :=
  .ofFields [("username", .string username), ("domain", .ofOption .string domain)]

/-- The body of a query. -/
def queryBody (request : QueryRequest) : Json :=
  .ofFields [("view", .str request.view), ("predicate", .string request.predicate.render),
    ("columns", .array (request.columns.map .str))]

/-- What becomes of the request that deletes a session: its client is closed in any case. -/
def finishClose (number : Nat) (reply : Reply) (w : Remote) : Finished Remote Unit :=
  match reply with
  | .raise f => ⟨.error f, [], w.closeSessionClient number⟩
  | .respond _ => ⟨.ok (), [], w.closeSessionClient number⟩

/-- Closes a session; a session that is closed already stays as it is. -/
def startClose (w : Remote) (number : Nat) (s : RemoteSession) : Started Remote Unit :=
  if s.isClosing then .atOnce w (.ok ()) []
  else
    let w := w.modifySession number fun s => { s with isClosing := true }
    startRequest config w s "DELETE" "" .null (finishClose number)
      (closeSessionClient · number)
      (fun f => .atOnce (w.closeSessionClient number) (.error f) [])

/-- Works on one session. -/
def onSession (w : Remote) (number : Nat) (f : RemoteSession → Started Remote α) :
    Started Remote α :=
  match w.sessions[number]? with
  | none => .atOnce w (.error (unknownSession number)) []
  | some s => f s

/-- The remote repository. -/
def repository : Repository Remote where
  name := config.name
  start
    | .openSession, w => startOpen config w
    | .setTimeout number limit, w =>
      onSession w number fun _ =>
        .atOnce (w.modifySession number fun s => { s with limit := limit }) (.ok ()) []
    | .impersonate number username domain, w =>
      onSession w number fun s =>
        startRequest config w s "POST" "/impersonation" (impersonationBody username domain)
          (finishImpersonate config s username) id (fun f => .atOnce w (.error f) [])
    | .query number request, w =>
      onSession w number fun s =>
        startRequest config w s "POST" "/queries" (queryBody request)
          (finishQuery config s request) id (fun f => .atOnce w (.error f) [])
    | .closeSession number, w => onSession w number fun s => startClose config w number s

end Remote
end DocAccess
