import DocAccess.Json.Parser
import DocAccess.Schema.Request

/-!
# Requests to the service

A request with its headers and body. The body is JSON when the content type says so; it is then
read and checked. What is wrong with a body is either a list of issues or that it cannot be read
at all.
-/
namespace DocAccess

/-- A request to the service. -/
structure WebRequest where
  method : String
  /-- The path, with a query after a question mark. -/
  target : String
  headers : List (String × String)
  body : List UInt8

/-- Why the body of a request is not accepted. -/
inductive BodyError where
  | unreadable
  | invalid (issues : List Issue)

namespace WebRequest

/-- The path without the query. -/
def path (r : WebRequest) : String := String.ofList (r.target.toList.takeWhile (· != '?'))

/-- The query; empty when there is none. -/
def query (r : WebRequest) : String :=
  String.ofList ((r.target.toList.dropWhile (· != '?')).drop 1)

/-- The first header of a name, whatever its case. -/
def header? (r : WebRequest) (name : String) : Option String :=
  (r.headers.find? fun h => h.1.toLower == name).map Prod.snd

/-- Main type and subtype of a content type; nothing unless there is one slash. -/
def mediaType? (contentType : String) : Option (String × String) :=
  let essence := contentType.toList.takeWhile (· != ';')
  let media := (String.ofList (trimWhile (isBlank ·.toNat) essence)).toLower.toList
  match media.dropWhile (· != '/') with
  | [] => none
  | _ :: sub =>
    if sub.contains '/' then none
    else some (String.ofList (media.takeWhile (· != '/')), String.ofList sub)

/-- Whether a content type is one of JSON. -/
def isJsonType (contentType : String) : Bool :=
  match mediaType? contentType with
  | some (main, sub) => main == "application" && (sub == "json" || sub.endsWith "+json")
  | none => false

/-- An issue of the body as a whole. -/
def bodyIssue (kind : IssueKind) : BodyError := .invalid [⟨[.key "body"], kind⟩]

/-- The body as JSON, whose lists and objects may nest as deeply as `depth`. -/
def bodyJson (depth : Nat) (r : WebRequest) : Except BodyError Json :=
  if r.body.isEmpty then .error (bodyIssue .missing)
  else if (r.header? "content-type").any isJsonType then
    match Json.ofBytes depth r.body with
    | .ok v => .ok v
    | .error (.text (.malformed offset)) =>
      .error (.invalid [⟨[.key "body", .index offset], .jsonInvalid⟩])
    | .error _ => .error .unreadable
  else .error (bodyIssue .modelAttributes)

/-- The access check that the body asks for. -/
def accessCheck (depth : Nat) (r : WebRequest) : Except BodyError AccessCheckForm :=
  match r.bodyJson depth with
  | .error e => .error e
  | .ok v =>
    match Validated.under (.key "body") (AccessCheckForm.ofJson .attributes v) with
    | .ok form => .ok form
    | .error issues => .error (.invalid issues)

end WebRequest
end DocAccess
