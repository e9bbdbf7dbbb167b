import DocAccess.Text.Printable

/-!
# Vocabularies and faults

A vocabulary is a type with finitely many members, each written as one word.

A fault is an exceptional end of a call or of a request, as opposed to a failure that a
repository reports. It has a kind, written as a name, and a message. Transport faults are the
ones that a remote repository answers with a failure of its own.
-/
namespace DocAccess

/-- A type whose members are listed and written as words. -/
class Vocabulary (α : Type) where
  /-- The name of the vocabulary in messages. -/
  label : String
  /-- The members in order. -/
  members : List α
  /-- The word of a member. -/
  word : α → String

namespace Vocabulary

variable {α : Type} [Vocabulary α]

/-- The member written as a given word. -/
def ofWord? (w : String) : Option α :=
  (members : List α).find? fun a => word a == w

/-- The name of a member: its word in capital letters. -/
def capitals (a : α) : String := (word a).toUpper

/-- The message for something that is no word of the vocabulary, given as it is quoted. -/
def refusal (α : Type) [Vocabulary α] (shown : String) : String :=
  shown ++ " is not a valid " ++ label α

end Vocabulary

/-- What can go wrong between two hosts. -/
inductive TransportFault where
  | connect
  | connectTimeout
  | readTimeout
  | writeTimeout
  | poolTimeout
  | read
  | write
  | close
  | remoteProtocol
  | localProtocol
  | proxy
  | unsupportedProtocol
  | decoding
  | tooManyRedirects
  deriving DecidableEq, Repr

namespace TransportFault

/-- The name of a transport fault. -/
def name : TransportFault → String
  | connect => "ConnectError"
  | connectTimeout => "ConnectTimeout"
  | readTimeout => "ReadTimeout"
  | writeTimeout => "WriteTimeout"
  | poolTimeout => "PoolTimeout"
  | read => "ReadError"
  | write => "WriteError"
  | close => "CloseError"
  | remoteProtocol => "RemoteProtocolError"
  | localProtocol => "LocalProtocolError"
  | proxy => "ProxyError"
  | unsupportedProtocol => "UnsupportedProtocol"
  | decoding => "DecodingError"
  | tooManyRedirects => "TooManyRedirects"

/-- Every transport fault. -/
def all : List TransportFault :=
  [connect, connectTimeout, readTimeout, writeTimeout, poolTimeout, read, write, close,
    remoteProtocol, localProtocol, proxy, unsupportedProtocol, decoding, tooManyRedirects]

/-- Whether the fault is that time ran out. -/
def isTimeout : TransportFault → Bool
  | connectTimeout | readTimeout | writeTimeout | poolTimeout => true
  | _ => false

end TransportFault

/-- The kind of a fault. -/
inductive FaultKind where
  | value
  | runtime
  | timeout
  | connection
  | os
  | key
  | zeroDivision
  | overflow
  | encoding
  | decoding
  | recursion
  | assertion
  | invalidUrl
  | transport (fault : TransportFault)
  | other (name : String)
  deriving DecidableEq, Repr

namespace FaultKind

/-- The name of a kind. -/
def name : FaultKind → String
  | value => "ValueError"
  | runtime => "RuntimeError"
  | timeout => "TimeoutError"
  | connection => "ConnectionError"
  | os => "OSError"
  | key => "KeyError"
  | zeroDivision => "ZeroDivisionError"
  | overflow => "OverflowError"
  | encoding => "UnicodeEncodeError"
  | decoding => "UnicodeError"
  | recursion => "RecursionError"
  | assertion => "AssertionError"
  | invalidUrl => "InvalidURL"
  | transport t => t.name
  | other n => n

/-- The kinds with a name of their own. -/
def known : List FaultKind :=
  [value, runtime, timeout, connection, os, key, zeroDivision, overflow, encoding, decoding,
    recursion, assertion, invalidUrl] ++ TransportFault.all.map transport

/-- The kind of a name. -/
def ofName (n : String) : FaultKind :=
  (known.find? fun k => k.name == n).getD (.other n)

end FaultKind

/-- An exceptional end. -/
structure Fault where
  kind : FaultKind
  message : Text
  deriving DecidableEq

namespace Fault

/-- The text of a fault in logs and messages: a missing key is quoted. -/
def text (f : Fault) : Text :=
  if f.kind = .key then .wellFormed (Quoted.quoted f.message) else f.message

/-- Whether the fault says that time ran out, as a deadline does. -/
def isTimeout (f : Fault) : Bool := f.kind = .timeout

/-- A value that an operation does not accept. -/
def value (message : Text) : Fault := ⟨.value, message⟩

/-- The fault of a run of code points that UTF-8 cannot hold, at a position of a text. -/
def unencodable (position : Nat) (run : List Nat) : Fault :=
  let place := match run with
    | [p] => " " ++ Quoted.quoted (.ofPoints [p]) ++ " in position " ++ toString position
    | _ => "s in position " ++ toString position ++ "-" ++ toString (position + run.length - 1)
  ⟨.encoding, .wellFormed ("'utf-8' codec can't encode character" ++ place ++
    ": surrogates not allowed")⟩

/-- The fault of a text, from a position on, that UTF-8 cannot hold. -/
def ofPoints? (position : Nat) : List Nat → Option Fault
  | [] => none
  | p :: ps =>
    if p.isValidChar then ofPoints? (position + 1) ps
    else some (unencodable position ((p :: ps).takeWhile fun q => !q.isValidChar))

end Fault
end DocAccess
