import DocAccess.Check
import DocAccess.Schema.Issue

/-!
# The body of an access check

The body lists documents, none with an empty identifier, and names an identity with a user name
that is not blank; it may set a deadline. The user name is taken without blanks around it, while
the domain is kept as it was written until an identity is made of it. Only the identifiers, whose
length is limited, have to be well formed.
-/
namespace DocAccess

/-- How an object is demanded: as a member of a named schema, or as anything with members. -/
inductive ObjectDemand where
  | schema
  | attributes
  deriving DecidableEq

/-- The issue of a value that is no object. -/
def ObjectDemand.issue (d : ObjectDemand) (schema : String) : IssueKind :=
  match d with
  | .schema => .modelType schema
  | .attributes => .modelAttributes

/-- The identity of a body. -/
structure IdentityForm where
  username : Text
  domain : Option Text
  deriving DecidableEq

/-- The body of an access check. -/
structure AccessCheckForm where
  docIds : List String
  identity : IdentityForm
  deadline : Option Binary64
  deriving DecidableEq

namespace IdentityForm

/-- The message for a blank user name. -/
def blankMessage : String := "Username cannot be empty or just whitespace"

/-- A user name without blanks around it. -/
def readUsername (t : Text) : Validated Text :=
  let name := t.strip
  if name = "" then Validated.refuse (.rule blankMessage) else .ok name

/-- Reads an identity. -/
def ofJson (demand : ObjectDemand) : Json → Validated IdentityForm
  | .object members =>
    (Validated.both
      (Json.required members "username" fun v => v.asText.bind readUsername)
      (Json.optional members "domain" none (Json.asOptional Json.asText))).map
      fun (username, domain) => ⟨username, domain⟩
  | _ => Validated.refuse (demand.issue "IdentityRequest")

/-- The identity that a form names. -/
def toIdentity? (f : IdentityForm) : Option Identity :=
  Identity.ofNames? (some f.username) f.domain

end IdentityForm

namespace AccessCheckForm

/-- An identifier that is not empty. -/
def readDocId (s : String) : Validated String :=
  if s = "" then Validated.refuse .stringTooShort else .ok s

/-- Reads a body. -/
def ofJson (demand : ObjectDemand) : Json → Validated AccessCheckForm
  | .object members =>
    (Validated.both
      (Json.required members "doc_ids" (Json.asList fun v => v.asString.bind readDocId))
      (Validated.both
        (Json.required members "identity" (IdentityForm.ofJson demand))
        (Json.optional members "timeout_seconds" none (Json.asOptional Json.asSeconds)))).map
      fun (docIds, identity, deadline) => ⟨docIds, identity, deadline⟩
  | _ => Validated.refuse (demand.issue "AccessCheckRequest")

/-- The check that a form asks for; nothing when its identity is none. -/
def toCheck? (f : AccessCheckForm) : Option CheckRequest :=
  f.identity.toIdentity?.map fun i => ⟨f.docIds.map .wellFormed, i, f.deadline.map .real⟩

end AccessCheckForm
end DocAccess
