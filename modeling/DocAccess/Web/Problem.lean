import DocAccess.Check
import DocAccess.Schema.Issue

/-!
# Problem details

Every error of the service is answered with a problem document: what kind of problem it is, a
title, the status, a detail, the path of the request, the fields in error and the trace of the
request, as far as they are known. The status of the document is that of the response.
-/
namespace DocAccess

/-! ## Status codes -/

/-- Status codes with their phrases. -/
def statusPhrases : List (Int × String) :=
  [
    (100, "Continue"), (101, "Switching Protocols"), (102, "Processing"), (103, "Early Hints"),
    (200, "OK"), (201, "Created"), (202, "Accepted"), (203, "Non-Authoritative Information"),
    (204, "No Content"), (205, "Reset Content"), (206, "Partial Content"), (207, "Multi-Status"),
    (208, "Already Reported"), (226, "IM Used"), (300, "Multiple Choices"),
    (301, "Moved Permanently"), (302, "Found"), (303, "See Other"), (304, "Not Modified"),
    (305, "Use Proxy"), (307, "Temporary Redirect"), (308, "Permanent Redirect"),
    (400, "Bad Request"), (401, "Unauthorized"), (402, "Payment Required"), (403, "Forbidden"),
    (404, "Not Found"), (405, "Method Not Allowed"), (406, "Not Acceptable"),
    (407, "Proxy Authentication Required"), (408, "Request Timeout"), (409, "Conflict"),
    (410, "Gone"), (411, "Length Required"), (412, "Precondition Failed"),
    (413, "Request Entity Too Large"), (414, "Request-URI Too Long"),
    (415, "Unsupported Media Type"), (416, "Requested Range Not Satisfiable"),
    (417, "Expectation Failed"), (418, "I'm a Teapot"), (421, "Misdirected Request"),
    (422, "Unprocessable Entity"), (423, "Locked"), (424, "Failed Dependency"),
    (425, "Too Early"), (426, "Upgrade Required"), (428, "Precondition Required"),
    (429, "Too Many Requests"), (431, "Request Header Fields Too Large"),
    (451, "Unavailable For Legal Reasons"), (500, "Internal Server Error"),
    (501, "Not Implemented"), (502, "Bad Gateway"), (503, "Service Unavailable"),
    (504, "Gateway Timeout"), (505, "HTTP Version Not Supported"),
    (506, "Variant Also Negotiates"), (507, "Insufficient Storage"), (508, "Loop Detected"),
    (510, "Not Extended"), (511, "Network Authentication Required")
  ]

/-- The phrase of a status code; nothing for a code without one. -/
def statusPhrase? (status : Int) : Option String := statusPhrases.lookup status

/-! ## Responses and problems -/

/-- The body of a response: JSON, or a page. -/
inductive WebBody where
  | json (v : Json)
  | page (text : String)

/-- A response of the service. -/
structure WebResponse where
  status : Int
  /-- Headers with names in small letters. -/
  headers : List (String × String)
  body : Option WebBody

namespace WebResponse

/-- The content type of JSON. -/
def jsonType : String × String := ("content-type", "application/json")

/-- A response with a JSON body, and `headers` before the content type. -/
def json (status : Int) (headers : List (String × String)) (body : Json) : WebResponse :=
  let named := headers.map fun (name, value) => (name.toLower, value)
  ⟨status, if named.any (fun h => h.1 == jsonType.1) then named else named ++ [jsonType],
    some (.json body)⟩

/-- A response with a page. -/
def page (status : Int) (contentType text : String) : WebResponse :=
  ⟨status, [("content-type", contentType)], some (.page text)⟩

/-- Sets a header. -/
def withHeader (r : WebResponse) (name value : String) : WebResponse :=
  { r with headers := r.headers.filter (fun h => h.1 != name) ++ [(name, value)] }

/-- The value of a header. -/
def header? (r : WebResponse) (name : String) : Option String := r.headers.lookup name

end WebResponse

/-- A field in error. -/
structure FieldError where
  field : String
  code : String
  message : String
  deriving DecidableEq

/-- A problem document. -/
structure Problem where
  /-- The address that names the kind of problem. -/
  kind : String
  title : String
  status : Int
  detail : Text
  instancePath : String
  errors : Option (List FieldError)
  traceId : Option String
  deriving DecidableEq

namespace FieldError

/-- A field in error as JSON. -/
def toJson (e : FieldError) : Json :=
  .ofFields [("field", .str e.field), ("code", .str e.code), ("message", .str e.message)]

/-- One step into a value as it is written in the name of a field. -/
def stepText : PathStep → String
  | .key (.wellFormed s) => s
  | .key (.illFormed ps h) => Quoted.quoted (.illFormed ps h)
  | .index n => toString n

/-- The name of a field: the steps to it with dots between them, without the step to the body. -/
def fieldName (place : List PathStep) : String :=
  let steps := (place.map stepText).filter (· != "body")
  let name := ".".intercalate steps
  if name = "" then "unknown" else name

/-- The field in error of an issue. -/
def ofIssue (i : Issue) : FieldError := ⟨fieldName i.place, i.kind.word, i.kind.message⟩

end FieldError

namespace Problem

/-- A problem document as JSON; what is not known is left out. -/
def toJson (p : Problem) : Json :=
  .ofFields <|
    [("type", .str p.kind), ("title", .str p.title), ("status", .int p.status),
      ("detail", .string p.detail), ("instance", .str p.instancePath)] ++
    (match p.errors with
      | some es => [("errors", Json.array (es.map FieldError.toJson))]
      | none => []) ++
    (match p.traceId with
      | some t => [("trace_id", .str t)]
      | none => [])

/-- The response with a problem document. -/
def response (p : Problem) (headers : List (String × String)) : WebResponse :=
  .json p.status headers p.toJson

/-- Where problems are described, which request ran into one, and its trace. -/
structure Context where
  apiBaseUrl : String
  path : String
  traceId : Option String

/-- The path of a request as a problem shows it: without a query or a fragment. -/
def Context.instancePath (c : Context) : String :=
  String.ofList (c.path.toList.takeWhile fun ch => ch != '?' && ch != '#')

/-- The title and the name of the problem of a status. -/
def statusInfo (status : Int) : String × String :=
  (([(400, ("Bad Request", "bad-request")),
    (404, ("Resource Not Found", "not-found")),
    (405, ("Method Not Allowed", "method-not-allowed")),
    (415, ("Unsupported Media Type", "unsupported-media-type")),
    (422, ("Validation Failed", "validation-failed")),
    (500, ("Internal Server Error", "internal-server-error"))] :
    List (Int × (String × String))).lookup status).getD ("Error", "error")

/-- The problem of a status. -/
def ofStatus (c : Context) (status : Int) (detail : Text) (errors : Option (List FieldError)) :
    Problem :=
  let (title, slug) := statusInfo status
  { kind := c.apiBaseUrl ++ "/errors/" ++ slug
    title := title
    status := status
    detail := detail
    instancePath := c.instancePath
    errors := errors
    traceId := c.traceId }

/-- The status of an error. -/
def statusOf : ApplicationErrorCode → Int
  | .unauthorized => 401
  | .externalServiceError => 502
  | .gatewayTimeout => 504

/-- The title of an error. -/
def titleOf : ApplicationErrorCode → String
  | .unauthorized => "Authentication Required"
  | .externalServiceError => "Repository Error"
  | .gatewayTimeout => "Repository Timeout"

/-- The problem of an error with a message. -/
def ofError (c : Context) (code : ApplicationErrorCode) (message : Text) : Problem where
  kind := c.apiBaseUrl ++ "/errors/" ++ Vocabulary.word code
  title := titleOf code
  status := statusOf code
  detail := message
  instancePath := c.instancePath
  errors := none
  traceId := c.traceId

/-- The detail of a status: a text, another value spelled out, or the standard phrase. -/
def detailOf (status : Int) (detail : Option Json) : Except Fault Text :=
  match detail with
  | some v => .ok v.spelled
  | none =>
    match statusPhrase? status with
    | some phrase => .ok phrase
    | none => .error (.value (.wellFormed (toString status ++ " is not a valid HTTPStatus")))

/-- The detail of a request that is not valid. -/
def invalidDetail : String := "Request validation failed. Check 'errors' for details."

/-- The problem of a request that is not valid. -/
def ofFieldErrors (c : Context) (errors : List FieldError) : Problem :=
  ofStatus c 422 invalidDetail (if errors.isEmpty then none else some errors)

/-- The problem of issues in the body of a request. -/
def ofIssues (c : Context) (issues : List Issue) : Problem :=
  ofFieldErrors c (issues.map .ofIssue)

/-- The detail of a fault that no one expected. -/
def unexpectedDetail : String :=
  "An unexpected error occurred. Please contact support with the trace ID."

/-- The problem of a fault that no one expected. -/
def unexpected (c : Context) : Problem := ofStatus c 500 unexpectedDetail none

end Problem
end DocAccess
