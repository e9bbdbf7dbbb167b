import DocAccess.Text.Basic

/-!
# Identities

The principal on whose behalf access is checked: a user name that is not blank and a domain
that may be absent. Both are kept without blanks around them, and a blank domain is no domain.
Surrogates on their own are no blanks, so a name may hold them.
-/
namespace DocAccess

/-- A principal. -/
structure Identity where
  username : Text
  domain : Option Text
  deriving DecidableEq

namespace Identity

/-- The domain without blanks around it; nothing when that leaves nothing. -/
def trimDomain (domain : Option Text) : Option Text :=
  domain.bind fun d => if d.strip = "" then none else some d.strip

/-- The identity of a user name and a domain; nothing for a blank user name. -/
def ofNames? (username domain : Option Text) : Option Identity :=
  let name := (username.getD "").strip
  if name = "" then none else some ⟨name, trimDomain domain⟩

/-- The message for a blank user name. -/
def blankMessage : String := "Identity username must not be blank"

/-- The user name, after its domain and a backslash when it has one. -/
def qualifiedName (i : Identity) : Text :=
  match i.domain with
  | some d => d ++ .wellFormed "\\" ++ i.username
  | none => i.username

end Identity
end DocAccess
