import DocAccess.Log
import DocAccess.Remote.Client
import DocAccess.Session.Schedule
import DocAccess.Settings
import DocAccess.Web.Problem
import DocAccess.Web.Request

/-!
# The service

Three pages tell about the service itself and one checks access; four more document it. Each
request runs under a trace, taken from its header or made up for it; the response repeats the
trace, except after a fault that no one expected. Such a fault is logged and answered with a
problem, or in debug mode only answered, with a page that tells where it arose. A response that
cannot be sent as JSON is a fault too. A path that differs from that of a page in a slash at its
end is redirected there.
-/
namespace DocAccess

/-- The documentation of the service. -/
inductive DocPage where
  | schema
  | explorer
  | explorerRedirect
  | reference
  deriving DecidableEq, Repr

/-- The pages of the service. -/
inductive Route where
  | docs (page : DocPage)
  | root
  | health
  | config
  | accessChecks
  deriving DecidableEq, Repr

namespace Route

/-- Every page. -/
def all : List Route :=
  [.docs .schema, .docs .explorer, .docs .explorerRedirect, .docs .reference, .root, .health,
    .config, .accessChecks]

/-- The path of a page. -/
def path : Route → String
  | .docs .schema => "/openapi.json"
  | .docs .explorer => "/docs"
  | .docs .explorerRedirect => "/docs/oauth2-redirect"
  | .docs .reference => "/redoc"
  | .root => "/"
  | .health => "/health"
  | .config => "/config"
  | .accessChecks => "/api/v1/access-checks"

/-- The methods of a page. -/
def methods : Route → List String
  | .docs _ => ["GET", "HEAD"]
  | .accessChecks => ["POST"]
  | _ => ["GET"]

/-- The page of a path. -/
def ofPath? (p : String) : Option Route := all.find? fun r => r.path == p

/-- The path with its last slashes taken away, or with one added. -/
def toggleSlash (p : String) : String :=
  if p.endsWith "/" then dropTrailingSlashes p else p ++ "/"

end Route

/-- What the service leaves to the framework that runs it. -/
structure Framework where
  /-- How deeply the lists and objects of the body of a request may nest. -/
  depth : Nat
  /-- The documentation, which is generated. -/
  documentation : DocPage → WebBody
  /-- The documentation has no type, as problems have. -/
  documentation_type : ∀ page v, documentation page = .json v → v.get? "type" = none
  /-- The page that tells where a fault arose. -/
  traceback : WebRequest → Fault → String
  /-- Whether several methods of a page are listed from the last to the first. -/
  reversed : Bool

namespace Service

variable (framework : Framework) (settings : Settings)

/-- The host of a request that names none. -/
def defaultHost : String := "testserver"

/-- The header that carries a trace. -/
def traceHeader : String := "x-trace-id"

/-- The trace of a request: its header, or a fresh one when that is missing or empty. -/
def traceOf (fresh : String) (r : WebRequest) : String :=
  match r.header? traceHeader with
  | some t => if t = "" then fresh else t
  | none => fresh

/-- What problems of a request refer to. -/
def context (trace : String) (r : WebRequest) : Problem.Context :=
  ⟨settings.apiBaseUrl, r.path, some trace⟩

/-- What the service says about itself. -/
def rootBody : Json :=
  .ofFields [("message", .str (settings.appName ++ " API")), ("status", .str "operational"),
    ("version", .str settings.appVersion)]

/-- That the service is up. -/
def healthBody : Json := .ofFields [("status", .str "healthy")]

/-- The settings as they are shown in development: principals without their documents. -/
def configBody : Json :=
  .ofFields [
    ("environment", .str (Vocabulary.word settings.environment)),
    ("debug", .bool settings.debug),
    ("log_level", .str settings.logLevel),
    ("api", .ofFields [("name", .str settings.appName), ("version", .str settings.appVersion),
      ("base_url", .str settings.apiBaseUrl)]),
    ("repository", .ofFields [
      ("backend", .str (Vocabulary.word settings.backend)),
      ("url", .ofOption .str settings.repositoryUrl),
      ("timeout_seconds", .real settings.repositoryTimeout),
      ("query_timeout_seconds", .ofOption .real settings.queryTimeout),
      ("principals",
        .array (((settings.permissions.map Prod.fst).mergeSort Text.le).map .string))]),
    ("access_check_timeout_seconds", .ofOption .real settings.checkTimeout)]

/-- The page of the settings. -/
def configPage : WebResponse :=
  if settings.isDevelopment then .json 200 [] (configBody settings)
  else .json 403 [] (.ofFields [("detail", .str "Config endpoint only available in development")])

/-- The content type of pages. -/
def htmlType : String := "text/html; charset=utf-8"

/-- A page of the documentation. -/
def docsPage (page : DocPage) : WebResponse :=
  match framework.documentation page with
  | .json v => .json 200 [] v
  | .page text => .page 200 htmlType text

/-- A check as the body of a response. -/
def checkBody (c : AccessCheck) : Json :=
  .ofFields [
    ("authorized_doc_ids", .array (c.authorizedDocIds.map .string)),
    ("requested_count", .int c.requestedCount),
    ("authorized_count", .nat c.authorizedCount),
    ("decisions", .array (c.decisions.map fun d =>
      .ofFields [("doc_id", .string d.docId), ("is_authorized", .bool d.isAuthorized)]))]

/-- The response to a check that no fault ended. -/
def checkResponse (c : Problem.Context) : Except ApplicationError AccessCheck → WebResponse
  | .ok check => .json 200 [] (checkBody check)
  | .error e => (Problem.ofError c e.code e.message).response []

/-- The response to a body that is not accepted. -/
def bodyResponse (c : Problem.Context) : BodyError → WebResponse
  | .unreadable =>
    (Problem.ofStatus c 400 "There was an error parsing the body" none).response []
  | .invalid issues => (Problem.ofIssues c issues).response []

/-- The address of a page on the host that was asked, with a query; characters that an address
cannot hold are percent-escaped. -/
def location (host path query : String) : String :=
  let address := "http://" ++ host ++ path ++ if query = "" then "" else "?" ++ query
  String.ofList (Url.escape Url.locationSpecial address.toList)

/-- The response to a path without a page. -/
def missingPage (c : Problem.Context) (r : WebRequest) : WebResponse :=
  let other := Route.toggleSlash r.path
  if r.path != "/" && (Route.ofPath? other).isSome then
    ⟨307, [("location", location ((r.header? "host").getD defaultHost) other r.query)], none⟩
  else (Problem.ofStatus c 404 "Not Found" none).response []

/-- How checks are carried out. -/
def policy (repository : String) (traced : Bool) : AuthorizationPolicy where
  repository := repository
  queryLimit := settings.queryTimeout.map .real
  batchCap := defaultBatchCap
  traced := traced

/-- The threshold of log lines. -/
def threshold : Nat := (Console.threshold? settings.logLevel).getD LogLevel.info.severity

/-- Identifiers made up for a request. -/
structure FreshIds where
  traceId : String
  requestId : String

/-- The event of a fault that no one expected. -/
def unhandledEvent (trace : String) (r : WebRequest) (f : Fault) : Event :=
  ⟨.error, "unhandled_exception", [],
    Console.withFault [("trace_id", .str trace),
      ("request_path", .str (context settings trace r).instancePath),
      ("request_method", .str r.method)] f⟩

/-- A response as it is sent: its JSON has to be one that can be. -/
def sent (response : WebResponse) : Except Fault WebResponse :=
  match response.body with
  | some (.json v) =>
    match v.unsendable? with
    | some f => .error f
    | none => .ok response
  | _ => .ok response

/-- Whether a request asks for pages. -/
def acceptsPages (r : WebRequest) : Bool :=
  (r.header? "accept").any fun types => 1 < (types.splitOn "text/html").length

/-- The response to a fault in debug mode. -/
def debugPage (r : WebRequest) (f : Fault) : WebResponse :=
  .page 500 (if acceptsPages r then htmlType else "text/plain; charset=utf-8")
    (framework.traceback r f)

/-- Ends a request: with the response and its trace, or with what is told of a fault. -/
def conclude (trace : String) (r : WebRequest) (outcome : Except Fault WebResponse) :
    Program WebResponse :=
  match outcome.bind sent with
  | .ok response => .done (response.withHeader traceHeader trace)
  | .error f =>
    if settings.debug then .done (debugPage framework r f)
    else
      .log (unhandledEvent settings trace r f)
        (.done ((Problem.unexpected (context settings trace r)).response []))

/-- A job that ends at once. -/
def immediate (trace : String) (r : WebRequest) (outcome : Except Fault WebResponse) :
    Job WebResponse :=
  ⟨none, conclude framework settings trace r outcome⟩

/-- The job of a check. -/
def checkJob (repository : String) (ids : FreshIds) (trace : String) (r : WebRequest)
    (check : CheckRequest) : Job WebResponse :=
  let c := context settings trace r
  let traced := Console.debugEnabled (threshold settings)
  let job := check.job (policy settings repository traced) (settings.checkTimeout.map .real)
    ids.requestId
  ⟨job.deadline, job.program.bind fun outcome =>
    conclude framework settings trace r (outcome.map (checkResponse c))⟩

/-- The methods of a page in one line. -/
def allowed (route : Route) : String :=
  ", ".intercalate (if framework.reversed then route.methods.reverse else route.methods)

/-- The job of a request. -/
def job (repository : String) (ids : FreshIds) (r : WebRequest) : Job WebResponse :=
  let trace := traceOf ids.traceId r
  let c := context settings trace r
  let answer := immediate framework settings trace r
  match Route.ofPath? r.path with
  | none => answer (.ok (missingPage c r))
  | some route =>
    if r.method ∈ route.methods then
      match route with
      | .docs page => answer (.ok (docsPage framework page))
      | .root => answer (.ok (.json 200 [] (rootBody settings)))
      | .health => answer (.ok (.json 200 [] healthBody))
      | .config => answer (.ok (configPage settings))
      | .accessChecks =>
        match r.accessCheck framework.depth with
        | .error e => answer (.ok (bodyResponse c e))
        | .ok form =>
          match form.toCheck? with
          | none => answer (.error (.value Identity.blankMessage))
          | some check => checkJob framework settings repository ids trace r check
    else
      answer (.ok ((Problem.ofStatus c 405 "Method Not Allowed" none).response
        [("allow", allowed framework route)]))

/-- The greatest number of calls that a request makes. -/
def callBound (r : WebRequest) : Nat := r.body.length + 4

/-- The log line of something that happened in a request under a trace. -/
def line? (trace : String) : Happening → Option Fields
  | .called _ => none
  | .logged e | .noticed e => Console.line? (threshold settings) [("trace_id", .str trace)] e

/-- What requests come to: their responses, what happened in each, and the world afterwards. -/
structure Served (σ : Type) where
  responses : List (Option WebResponse)
  happenings : List (Nat × Happening)
  world : σ

/-- Serves requests one after another. -/
def serveInTurn (repository : Repository σ) (world : σ) (jobs : List (Job WebResponse)) :
    Served σ :=
  jobs.zipIdx.foldl
    (fun s (job, number) =>
      let run := job.run repository 0 s.world
      ⟨s.responses ++ [run.result], s.happenings ++ run.happenings.map (number, ·), run.world⟩)
    ⟨[], [], world⟩

/-- Serves requests side by side. -/
def serveTogether (repository : Repository σ) (world : σ) (waits : Nat)
    (jobs : List (Job WebResponse)) : Served σ :=
  let s := Schedule.run repository waits world jobs
  ⟨(List.range jobs.length).map s.result?, s.happenings, s.world⟩

/-- Serves requests, together or in turn. -/
def serve (repository : Repository σ) (world : σ) (together : Bool)
    (requests : List (WebRequest × FreshIds)) : Served σ :=
  let jobs := requests.map fun (r, ids) => job framework settings repository.name ids r
  if together then
    serveTogether repository world (requests.foldl (fun n (r, _) => n + callBound r) 0) jobs
  else serveInTurn repository world jobs

/-- The remote repository of the settings. -/
def remoteConfig (codec : Codec) (url : String) : RemoteConfig where
  name := Vocabulary.word Backend.http
  baseUrl := url
  limit := .real settings.repositoryTimeout
  headers := []
  codec := codec

end Service
end DocAccess
