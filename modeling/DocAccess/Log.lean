import DocAccess.Fault
import DocAccess.Json.Basic

/-!
# Log events and their lines

An event has a level, a name and fields. The fields that were bound to the logger beforehand are
kept apart from those of the call, because a console drops bound fields without a value; where
both name a field, that of the call wins.

A console writes an event as one object when its level reaches a threshold. Ambient fields, such
as the trace of the current request, lie under the bound fields, and these under the fields of
the call. The name of the event and its level come last and cannot be overridden.
-/
namespace DocAccess

/-- The levels of events. -/
inductive LogLevel where
  | debug
  | info
  | warning
  | error
  deriving DecidableEq, Repr

instance : Vocabulary LogLevel where
  label := "LogLevel"
  members := [.debug, .info, .warning, .error]
  word
    | .debug => "debug"
    | .info => "info"
    | .warning => "warning"
    | .error => "error"

/-- The severity of a level, from ten to forty. -/
def LogLevel.severity : LogLevel → Nat
  | .debug => 10
  | .info => 20
  | .warning => 30
  | .error => 40

/-- Named values in the order in which they were given. -/
abbrev Fields := List (String × Json)

namespace Fields

/-- Gives a field a value: in its place when the name is there, else at the end. -/
def insert (fields : Fields) (name : String) (value : Json) : Fields :=
  match fields with
  | [] => [(name, value)]
  | f :: rest => if f.1 = name then (name, value) :: rest else f :: insert rest name value

/-- Fields overlaid by later ones. -/
def overlay (under upper : Fields) : Fields :=
  upper.foldl (fun fields (name, value) => fields.insert name value) under

/-- Whether some field has the given name. -/
def hasName (fields : Fields) (name : String) : Bool := fields.any fun f => f.1 == name

end Fields

/-- One event. -/
structure Event where
  level : LogLevel
  name : String
  bound : Fields
  fields : Fields

/-- All fields of an event: the bound ones overlaid by those of the call. -/
def Event.context (e : Event) : Fields := Fields.overlay e.bound e.fields

namespace Console

/-- The threshold of a level's name. -/
def threshold? (name : String) : Option Nat :=
  [("CRITICAL", 50), ("FATAL", 50), ("ERROR", 40), ("WARN", 30), ("WARNING", 30), ("INFO", 20),
    ("DEBUG", 10), ("NOTSET", 0)].lookup name

/-- Whether events of the lowest level are written. -/
def debugEnabled (threshold : Nat) : Bool := threshold ≤ LogLevel.debug.severity

/-- The fields that a logger keeps when it is bound: those with a value. -/
def kept (fields : Fields) : Fields := fields.filter fun f => !f.2.isNull

/-- The line of an event; nothing below the threshold. -/
def line? (threshold : Nat) (ambient : Fields) (e : Event) : Option Fields :=
  if threshold ≤ e.level.severity then
    let fields := Fields.overlay (Fields.overlay ambient (kept e.bound)) e.fields
    some ((fields.insert "event" (.str e.name)).insert "level" (.str (Vocabulary.word e.level)))
  else none

/-- The fields that describe a fault, over those of the call. -/
def withFault (fields : Fields) (f : Fault) : Fields :=
  (fields.insert "error_type" (.str f.kind.name)).insert "error_message" (.string f.text)

end Console
end DocAccess
