import DocAccess.Decimal.Binary64
import DocAccess.Text.Basic

/-!
# JSON values

Whole numbers and doubles are kept apart, since their texts differ. An object is a list of
members in the order of their first appearance; its keys are distinct when it was built with
`insert`.
-/
namespace DocAccess

/-- A JSON value. -/
inductive Json where
  | null
  | bool (b : Bool)
  | int (n : Int)
  | real (x : Binary64)
  | string (t : Text)
  | array (items : List Json)
  | object (members : List (Text × Json))

namespace Json

instance : Inhabited Json := ⟨.null⟩

/-- A string value. -/
def str (s : String) : Json := .string (.wellFormed s)

/-- A natural number. -/
def nat (n : Nat) : Json := .int n

/-- `null` for nothing, else the value. -/
def ofOption (f : α → Json) : Option α → Json
  | none => .null
  | some a => f a

/-- An object with well-formed keys. -/
def ofFields (fields : List (String × Json)) : Json :=
  .object (fields.map fun (k, v) => (.wellFormed k, v))

/-- Whether the value is `null`. -/
def isNull : Json → Bool
  | .null => true
  | _ => false

/-- The member of a list of members with a given key. -/
def lookup (members : List (Text × Json)) (key : Text) : Option Json :=
  (members.find? fun m => m.1 == key).map Prod.snd

/-- The member of an object with a given key. -/
def get? : Json → Text → Option Json
  | .object members, key => lookup members key
  | _, _ => none

/-- Gives a key a value: in its place when the key is there, else at the end. -/
def insert (members : List (Text × Json)) (key : Text) (value : Json) : List (Text × Json) :=
  match members with
  | [] => [(key, value)]
  | m :: rest => if m.1 = key then (key, value) :: rest else m :: insert rest key value

/-- Whether the value counts as true: not `null`, `false`, zero or empty. -/
def isTruthy : Json → Bool
  | .null => false
  | .bool b => b
  | .int n => n != 0
  | .real x => !x.isZero
  | .string t => !t.isEmpty
  | .array items => !items.isEmpty
  | .object members => !members.isEmpty

end Json
end DocAccess
