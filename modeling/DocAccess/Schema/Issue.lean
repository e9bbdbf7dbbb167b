import DocAccess.Decimal.Literal
import DocAccess.Json.Spelled

/-!
# Validation

A validated value is a value or the list of everything that is wrong with it. An issue names the
place in the input, its kind and a message. Checks of several fields are combined so that the
issues of all of them are reported, in the order of the fields.
-/
namespace DocAccess

/-- One step into a value. -/
inductive PathStep where
  | key (name : Text)
  | index (n : Int)
  deriving DecidableEq

/-- What is wrong with a value. -/
inductive IssueKind where
  | missing
  | stringType
  | stringUnicode
  | stringTooShort
  | listType
  | dictType
  | floatType
  | floatParsing
  | greaterThanZero
  | boolParsing
  /-- The value is none of the words of an enumeration. -/
  | enumeration (words : List String)
  /-- The value is none of the listed ones. -/
  | literal (words : List String)
  /-- The value is no object and no instance of the named schema. -/
  | modelType (schema : String)
  /-- The value has no members to read. -/
  | modelAttributes
  /-- A rule of the schema refuses the value. -/
  | rule (message : String)
  /-- The text is no JSON. -/
  | jsonInvalid
  deriving DecidableEq

namespace IssueKind

/-- The word of a kind. -/
def word : IssueKind → String
  | missing => "missing"
  | stringType => "string_type"
  | stringUnicode => "string_unicode"
  | stringTooShort => "string_too_short"
  | listType => "list_type"
  | dictType => "dict_type"
  | floatType => "float_type"
  | floatParsing => "float_parsing"
  | greaterThanZero => "greater_than"
  | boolParsing => "bool_parsing"
  | enumeration _ => "enum"
  | literal _ => "literal_error"
  | modelType _ => "model_type"
  | modelAttributes => "model_attributes_type"
  | rule _ => "value_error"
  | jsonInvalid => "json_invalid"

/-- Words between quotes, the last after "or". -/
def alternatives : List String → String
  | [] => ""
  | [w] => "'" ++ w ++ "'"
  | [v, w] => "'" ++ v ++ "' or '" ++ w ++ "'"
  | w :: rest => "'" ++ w ++ "', " ++ alternatives rest

/-- The message of a kind. -/
def message : IssueKind → String
  | missing => "Field required"
  | stringType => "Input should be a valid string"
  | stringUnicode =>
    "Input should be a valid string, unable to parse raw data as a unicode string"
  | stringTooShort => "String should have at least 1 character"
  | listType => "Input should be a valid list"
  | dictType => "Input should be a valid dictionary"
  | floatType => "Input should be a valid number"
  | floatParsing => "Input should be a valid number, unable to parse string as a number"
  | greaterThanZero => "Input should be greater than 0"
  | boolParsing => "Input should be a valid boolean, unable to interpret input"
  | enumeration ws => "Input should be " ++ alternatives ws
  | literal ws => "Input should be " ++ alternatives ws
  | modelType schema => "Input should be a valid dictionary or instance of " ++ schema
  | modelAttributes => "Input should be a valid dictionary or object to extract fields from"
  | rule text => "Value error, " ++ text
  | jsonInvalid => "JSON decode error"

end IssueKind

/-- Something wrong at a place. -/
structure Issue where
  place : List PathStep
  kind : IssueKind
  deriving DecidableEq

/-- A value, or everything that is wrong with it. -/
abbrev Validated (α : Type) := Except (List Issue) α

namespace Validated

/-- One issue at the place itself. -/
def refuse (kind : IssueKind) : Validated α := .error [⟨[], kind⟩]

/-- The issues seen from one step further out. -/
def under (step : PathStep) (v : Validated α) : Validated α :=
  v.mapError fun issues => issues.map fun i => { i with place := step :: i.place }

/-- The issues of a field. -/
def field (name : String) (v : Validated α) : Validated α := v.under (.key (.wellFormed name))

/-- Both values, or the issues of both. -/
def both (a : Validated α) (b : Validated β) : Validated (α × β) :=
  match a, b with
  | .ok x, .ok y => .ok (x, y)
  | .ok _, .error issues => .error issues
  | .error issues, .ok _ => .error issues
  | .error first, .error second => .error (first ++ second)

/-- All values, or the issues of all. -/
def all : List (Validated α) → Validated (List α)
  | [] => .ok []
  | v :: rest => (both v (all rest)).map fun (x, xs) => x :: xs

/-- The values of a list, each checked at its index from `n` on. -/
def items (check : Json → Validated α) (n : Nat) : List Json → List (Validated α)
  | [] => []
  | v :: rest => (check v).under (.index n) :: items check (n + 1) rest

end Validated

namespace Json

/-- A string, whatever its code points. -/
def asText : Json → Validated Text
  | .string t => .ok t
  | _ => Validated.refuse .stringType

/-- A string whose length is limited, and which has to be well formed for that. -/
def asString : Json → Validated String
  | .string (.wellFormed s) => .ok s
  | .string (.illFormed ..) => Validated.refuse .stringUnicode
  | _ => Validated.refuse .stringType

/-- A list whose items pass a check. -/
def asList (check : Json → Validated α) : Json → Validated (List α)
  | .array items => Validated.all (Validated.items check 0 items)
  | _ => Validated.refuse .listType

/-- A value, or nothing for `null`. -/
def asOptional (check : Json → Validated α) : Json → Validated (Option α)
  | .null => .ok none
  | v => (check v).map some

/-- A member that has to be there. -/
def required (members : List (Text × Json)) (name : String) (check : Json → Validated α) :
    Validated α :=
  Validated.field name <|
    match lookup members (.wellFormed name) with
    | some v => check v
    | none => Validated.refuse .missing

/-- A member that may be absent. -/
def optional (members : List (Text × Json)) (name : String) (default : α)
    (check : Json → Validated α) : Validated α :=
  match lookup members (.wellFormed name) with
  | some v => Validated.field name (check v)
  | none => .ok default

end Json
/-! ## Numbers of seconds -/

/-- A numeral as a double. -/
def readFloat (s : String) : Validated Binary64 :=
  match Binary64.readNumeral? s with
  | some x => .ok x
  | none => Validated.refuse .floatParsing

/-- A double that is greater than zero. -/
def positive (x : Binary64) : Validated Binary64 :=
  if x.isPositive then .ok x else Validated.refuse .greaterThanZero

namespace Json

/-- A value as a double. A whole number that no double can hold is no number here. -/
def asFloat : Json → Validated Binary64
  | .real x => .ok x
  | .int n =>
    let x := Binary64.ofInt n
    if x.isFinite then .ok x else Validated.refuse .floatType
  | .bool b => .ok (.ofInt (if b then 1 else 0))
  | .string (.wellFormed s) => readFloat s
  | .string (.illFormed ..) => Validated.refuse .stringUnicode
  | _ => Validated.refuse .floatType

/-- A value as a positive number of seconds. -/
def asSeconds (v : Json) : Validated Binary64 := v.asFloat.bind positive

end Json

end DocAccess
