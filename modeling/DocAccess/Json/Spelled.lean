import DocAccess.Decimal.Layout
import DocAccess.Fault
import DocAccess.Json.Basic

/-!
# Values as text

A value that a message or an identifier takes over is spelled out: `None`, `True` and `False`,
numbers in their shortest text, lists in square brackets and objects in curly brackets. A string
stands for itself, but is quoted inside a list or an object.

A value that is sent is written as JSON without white space. Strings keep all characters but
quotes, backslashes and controls. The text is encoded in UTF-8, which can be done unless some string
holds a surrogate on its own; and JSON has no number that is not finite.
-/
namespace DocAccess.Json

/-- The parts with a separator between neighbours. -/
def joinWith (separator : String) (parts : List String) : String :=
  separator.intercalate parts

mutual

/-- A value as it is spelled inside a list or an object. -/
def shown : Json → String
  | .null => "None"
  | .bool true => "True"
  | .bool false => "False"
  | .int n => toString n
  | .real x => x.text
  | .string t => Quoted.quoted t
  | .array items => "[" ++ joinWith ", " (shownItems items) ++ "]"
  | .object members => "\x7b" ++ joinWith ", " (shownMembers members) ++ "\x7d"

/-- The items of a list. -/
def shownItems : List Json → List String
  | [] => []
  | v :: rest => shown v :: shownItems rest

/-- The members of an object. -/
def shownMembers : List (Text × Json) → List String
  | [] => []
  | (k, v) :: rest => (Quoted.quoted k ++ ": " ++ shown v) :: shownMembers rest

end

/-- A value as it is spelled on its own. -/
def spelled : Json → Text
  | .string t => t
  | v => .wellFormed (shown v)

/-! ## Values that are sent -/

/-- The code points of a string of characters. -/
def codes (s : String) : List Nat := s.toList.map Char.toNat

/-- The escape of a code point that a string cannot hold as it is. -/
def escape? (p : Nat) : Option String :=
  if p = 0x22 then some "\\\x22"
  else if p = 0x5C then some "\\\\"
  else if p = 0x08 then some "\\b"
  else if p = 0x09 then some "\\t"
  else if p = 0x0A then some "\\n"
  else if p = 0x0C then some "\\f"
  else if p = 0x0D then some "\\r"
  else if p < 0x20 then some ("\\u" ++ String.ofList (Quoted.hexDigits 4 p))
  else none

/-- One code point as it stands in a string. -/
def writePoint (p : Nat) : List Nat :=
  match escape? p with
  | some s => codes s
  | none => [p]

/-- A string between quotes. -/
def writeText (t : Text) : List Nat := 0x22 :: t.points.flatMap writePoint ++ [0x22]

mutual

/-- The code points of a value. -/
def written : Json → List Nat
  | .null => codes "null"
  | .bool true => codes "true"
  | .bool false => codes "false"
  | .int n => codes (toString n)
  | .real x => codes x.text
  | .string t => writeText t
  | .array items => 0x5B :: ([0x2C].intercalate (writtenItems items) ++ [0x5D])
  | .object members => 0x7B :: ([0x2C].intercalate (writtenMembers members) ++ [0x7D])

/-- The items of a list. -/
def writtenItems : List Json → List (List Nat)
  | [] => []
  | v :: rest => written v :: writtenItems rest

/-- The members of an object. -/
def writtenMembers : List (Text × Json) → List (List Nat)
  | [] => []
  | (k, v) :: rest => (writeText k ++ 0x3A :: written v) :: writtenMembers rest

end

mutual

/-- Whether every number in a value is finite. -/
def isFinite : Json → Bool
  | .real x => x.isFinite
  | .array items => areFinite items
  | .object members => haveFinite members
  | _ => true

/-- Whether every number in the items of a list is finite. -/
def areFinite : List Json → Bool
  | [] => true
  | v :: rest => isFinite v && areFinite rest

/-- Whether every number in the members of an object is finite. -/
def haveFinite : List (Text × Json) → Bool
  | [] => true
  | (_, v) :: rest => isFinite v && haveFinite rest

end

/-- The fault of a number that JSON cannot hold. -/
def overflowFault : Fault := .value "Out of range float values are not JSON compliant"

/-- Why a value cannot be sent, if it cannot. -/
def unsendable? (v : Json) : Option Fault :=
  if v.isFinite then Fault.ofPoints? 0 v.written else some overflowFault

end DocAccess.Json
