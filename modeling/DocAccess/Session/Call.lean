import DocAccess.Failure
import DocAccess.Fault
import DocAccess.Membership
import DocAccess.Seconds

/-!
# Calls on a repository

The five things that a repository is asked to do, and what each answers. Sessions are numbered;
every call but the first names its session. A call ends in one of three ways: it returns its
answer, it raises a fault, or it is cancelled while it waits.
-/
namespace DocAccess

/-- An open session as its owner sees it. -/
structure Session where
  number : Nat
  supportsTimeouts : Bool
  deriving DecidableEq, Repr

/-- A call on a repository. -/
inductive Call where
  | openSession
  | setTimeout (session : Nat) (limit : Seconds)
  | impersonate (session : Nat) (username : Text) (domain : Option Text)
  | query (session : Nat) (request : QueryRequest)
  | closeSession (session : Nat)
  deriving DecidableEq

namespace Call

/-- What a call answers when it returns. -/
abbrev Answer : Call → Type
  | openSession => Except RepositoryError Session
  | setTimeout .. => Unit
  | impersonate .. => Except RepositoryError Unit
  | query .. => Except RepositoryError (List Row)
  | closeSession _ => Unit

/-- The session that a call is made on; none for opening one. -/
def session? : Call → Option Nat
  | openSession => none
  | setTimeout s _ | impersonate s _ _ | query s _ | closeSession s => some s

end Call

/-- How a call ended. -/
inductive Ended (α : Type) where
  | returned (answer : α)
  | raised (fault : Fault)
  | cancelled

/-- The end of a call that was not cancelled. -/
def Ended.ofExcept : Except Fault α → Ended α
  | .ok a => .returned a
  | .error f => .raised f

end DocAccess
