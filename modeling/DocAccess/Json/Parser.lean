import DocAccess.Decimal.Literal
import DocAccess.Encoding.Charset
import DocAccess.Json.Basic

/-!
# Reading JSON

A reader of JSON text given as code points. It also accepts the words `NaN`, `Infinity` and
`-Infinity`. An error carries the offset, in code points, of the place where the text stops
being JSON. The length of whole numbers is limited, and so is nesting: how deep a text may go is
left to the caller.

The charset of JSON octets shows in their first four: in a leading U+FEFF, or in which of them
are zero, since a JSON text starts with an ASCII character. Surrogates encoded on their own are
let through to the text.
-/
namespace DocAccess.Json

/-- Why a text was not read. -/
inductive ParseError where
  /-- The text is no JSON from this offset on. -/
  | malformed (offset : Nat)
  /-- Lists are nested beyond the limit. -/
  | deepArray
  /-- Objects are nested beyond the limit. -/
  | deepObject
  /-- A whole number has more digits than the limit. -/
  | longInteger (digits : Nat)
  deriving DecidableEq, Repr

/-- Greatest number of digits of a whole number. -/
def maxDigits : Nat := 4300

/-- What is left to read, with the offset of its first code point. -/
structure Cursor where
  offset : Nat
  rest : List Nat

namespace Cursor

/-- Moves past one code point. -/
def next (c : Cursor) : Cursor := ⟨c.offset + 1, c.rest.drop 1⟩

/-- Moves past `n` code points. -/
def skip (c : Cursor) (n : Nat) : Cursor := ⟨c.offset + n, c.rest.drop n⟩

/-- Whether a code point is JSON white space. -/
def isSpace (p : Nat) : Bool := p == 0x20 || p == 0x09 || p == 0x0A || p == 0x0D

/-- Moves past white space. -/
def space (c : Cursor) : Cursor := c.skip (c.rest.takeWhile isSpace).length

/-- Whether the text goes on with `word`. -/
def startsWith (c : Cursor) (word : String) : Bool :=
  (word.toList.map Char.toNat).isPrefixOf c.rest

/-- The first code point, when there is one. -/
def peek (c : Cursor) : Option Nat := c.rest.head?

end Cursor

/-- The value of a hexadecimal digit. -/
def hexValue? (p : Nat) : Option Nat :=
  if 48 ≤ p ∧ p ≤ 57 then some (p - 48)
  else if 65 ≤ p ∧ p ≤ 70 then some (p - 55)
  else if 97 ≤ p ∧ p ≤ 102 then some (p - 87)
  else none

/-- Four hexadecimal digits that are not the end of the text. -/
def unit? : List Nat → Option Nat
  | a :: b :: c :: d :: _ :: _ => do
    let a ← hexValue? a
    let b ← hexValue? b
    let c ← hexValue? c
    let d ← hexValue? d
    some (((a * 16 + b) * 16 + c) * 16 + d)
  | _ => none

/-- The code point of a one-letter escape. -/
def simpleEscape? (p : Nat) : Option Nat :=
  if p = 0x22 ∨ p = 0x5C ∨ p = 0x2F then some p
  else if p = 98 then some 0x08
  else if p = 102 then some 0x0C
  else if p = 110 then some 0x0A
  else if p = 114 then some 0x0D
  else if p = 116 then some 0x09
  else none

/-- The second half of a surrogate pair, written as an escape. -/
def lowHalf? : List Nat → Option Nat
  | 0x5C :: 117 :: rest =>
    match unit? rest with
    | some u => if 0xDC00 ≤ u ∧ u ≤ 0xDFFF then some u else none
    | none => none
  | _ => none

/-- The code points of a string up to its closing quote; `opening` is the offset of the quote
that opened it and `read` what was read so far, newest first. -/
def stringBody (opening : Nat) :
    (fuel : Nat) → Cursor → (read : List Nat) → Except ParseError (List Nat × Cursor)
  | 0, _, _ => .error (.malformed opening)
  | fuel + 1, c, read =>
    match c.rest with
    | [] => .error (.malformed opening)
    | 0x22 :: _ => .ok (read.reverse, c.next)
    | 0x5C :: 117 :: digits =>
      match unit? digits with
      | none => .error (.malformed (c.offset + 1))
      | some u =>
        match if 0xD800 ≤ u ∧ u ≤ 0xDBFF then lowHalf? (digits.drop 4) else none with
        | some low =>
          stringBody opening fuel (c.skip 12)
            ((0x10000 + (u - 0xD800) * 0x400 + (low - 0xDC00)) :: read)
        | none => stringBody opening fuel (c.skip 6) (u :: read)
    | 0x5C :: p :: _ =>
      match simpleEscape? p with
      | some q => stringBody opening fuel (c.skip 2) (q :: read)
      | none => .error (.malformed c.offset)
    | [0x5C] => .error (.malformed opening)
    | p :: _ =>
      if p < 0x20 then .error (.malformed c.offset)
      else stringBody opening fuel c.next (p :: read)

/-- A string whose opening quote is the first code point. -/
def parseString (c : Cursor) : Except ParseError (Text × Cursor) :=
  match stringBody c.offset (c.rest.length + 1) c.next [] with
  | .ok (points, c) => .ok (.ofPoints points, c)
  | .error e => .error e

/-- Whether a code point is a digit. -/
def isDigitPoint (p : Nat) : Bool := 48 ≤ p && p ≤ 57

/-- The digits at the front of a list of code points. -/
def leadingDigits (ps : List Nat) : List Nat := ps.takeWhile isDigitPoint

/-- The number that digits spell. -/
def natOfDigits (ds : List Nat) : Nat := ds.foldl (fun n d => 10 * n + (d - 48)) 0

/-- The digits of a fraction and how many code points it takes with its point. -/
def fractionPart : List Nat → List Nat × Nat
  | 0x2E :: rest =>
    let ds := leadingDigits rest
    if ds.isEmpty then ([], 0) else (ds, ds.length + 1)
  | _ => ([], 0)

/-- An exponent and how many code points it takes with its mark and sign. -/
def exponentPart : List Nat → Option (Int × Nat)
  | e :: rest =>
    if e = 101 ∨ e = 69 then
      let (negative, signs, digits) := match rest with
        | 0x2D :: ds => (true, 1, ds)
        | 0x2B :: ds => (false, 1, ds)
        | ds => (false, 0, ds)
      let ds := leadingDigits digits
      if ds.isEmpty then none
      else
        let n : Int := natOfDigits ds
        some (if negative then -n else n, 1 + signs + ds.length)
    else none
  | [] => none

/-- A number; `start` is where it, or any value, was expected. -/
def parseNumber (start : Cursor) : Except ParseError (Json × Cursor) :=
  let negative := start.peek == some 0x2D
  let c := if negative then start.next else start
  let all := leadingDigits c.rest
  let whole := if all.head? = some 48 then [48] else all
  if whole.isEmpty then .error (.malformed start.offset)
  else
    let c := c.skip whole.length
    let (fraction, width) := fractionPart c.rest
    let c := c.skip width
    match exponentPart c.rest with
    | some (e, width) =>
      .ok (.real (.ofScientific negative (natOfDigits (whole ++ fraction)) (e - fraction.length)),
        c.skip width)
    | none =>
      if fraction.isEmpty then
        if whole.length > maxDigits then .error (.longInteger whole.length)
        else
          let n : Int := natOfDigits whole
          .ok (.int (if negative then -n else n), c)
      else
        .ok (.real (.ofScientific negative (natOfDigits (whole ++ fraction)) (-fraction.length)), c)

/-- A word or a number. -/
def parseScalar (c : Cursor) : Except ParseError (Json × Cursor) :=
  if c.startsWith "null" then .ok (.null, c.skip 4)
  else if c.startsWith "true" then .ok (.bool true, c.skip 4)
  else if c.startsWith "false" then .ok (.bool false, c.skip 5)
  else if c.startsWith "NaN" then .ok (.real .nan, c.skip 3)
  else if c.startsWith "Infinity" then .ok (.real (.infinite false), c.skip 8)
  else if c.startsWith "-Infinity" then .ok (.real (.infinite true), c.skip 9)
  else parseNumber c

mutual

/-- A value; `depth` is how many more lists and objects may open. -/
def parseValue : (fuel : Nat) → (depth : Nat) → Cursor → Except ParseError (Json × Cursor)
  | 0, _, c => .error (.malformed c.offset)
  | fuel + 1, depth, c =>
    match c.peek with
    | some 0x22 =>
      match parseString c with
      | .ok (t, c) => .ok (.string t, c)
      | .error e => .error e
    | some 0x5B =>
      match depth with
      | 0 => .error .deepArray
      | depth + 1 =>
        let c := c.next.space
        if c.peek = some 0x5D then .ok (.array [], c.next)
        else parseItems fuel depth c []
    | some 0x7B =>
      match depth with
      | 0 => .error .deepObject
      | depth + 1 =>
        let c := c.next.space
        if c.peek = some 0x7D then .ok (.object [], c.next)
        else parseMembers fuel depth c []
    | _ => parseScalar c

/-- The items of a list from the next one on; `read` holds the earlier ones, newest first. -/
def parseItems : (fuel : Nat) → (depth : Nat) → Cursor → (read : List Json) →
    Except ParseError (Json × Cursor)
  | 0, _, c, _ => .error (.malformed c.offset)
  | fuel + 1, depth, c, read =>
    match parseValue fuel depth c with
    | .error e => .error e
    | .ok (v, c) =>
      let c := c.space
      match c.peek with
      | some 0x5D => .ok (.array (v :: read).reverse, c.next)
      | some 0x2C => parseItems fuel depth c.next.space (v :: read)
      | _ => .error (.malformed c.offset)

/-- The members of an object from the next one on; `read` holds the earlier ones. A repeated key
keeps its place and takes the later value. -/
def parseMembers : (fuel : Nat) → (depth : Nat) → Cursor → (read : List (Text × Json)) →
    Except ParseError (Json × Cursor)
  | 0, _, c, _ => .error (.malformed c.offset)
  | fuel + 1, depth, c, read =>
    if c.peek = some 0x22 then
      match parseString c with
      | .error e => .error e
      | .ok (key, c) =>
        let c := c.space
        if c.peek = some 0x3A then
          match parseValue fuel depth c.next.space with
          | .error e => .error e
          | .ok (v, c) =>
            let c := c.space
            let read := insert read key v
            match c.peek with
            | some 0x7D => .ok (.object read, c.next)
            | some 0x2C => parseMembers fuel depth c.next.space read
            | _ => .error (.malformed c.offset)
        else .error (.malformed c.offset)
    else .error (.malformed c.offset)

end

/-- Reads a whole text as one value with white space around it. -/
def parsePoints (depth : Nat) (points : List Nat) : Except ParseError Json :=
  match parseValue (2 * points.length + 4) depth (Cursor.space ⟨0, points⟩) with
  | .error e => .error e
  | .ok (v, c) =>
    let c := c.space
    if c.rest.isEmpty then .ok v else .error (.malformed c.offset)

/-- Reads a string as one value. -/
def parse (depth : Nat) (s : String) : Except ParseError Json :=
  parsePoints depth (s.toList.map Char.toNat)

/-! ## Octets -/

/-- Why octets were not read. -/
inductive DecodeError where
  /-- The octets are malformed in their charset. -/
  | undecodable
  | text (error : ParseError)
  deriving DecidableEq, Repr

/-- The charset of JSON octets. -/
def detectCharset (octets : List UInt8) : Charset :=
  match octets with
  | 0 :: 0 :: 0xFE :: 0xFF :: _ => .utf32 none
  | 0xFF :: 0xFE :: 0 :: 0 :: _ => .utf32 none
  | 0xFF :: 0xFE :: _ => .utf16 none
  | 0xFE :: 0xFF :: _ => .utf16 none
  | 0xEF :: 0xBB :: 0xBF :: _ => .utf8Signed
  | 0 :: b :: _ :: _ :: _ => if b = 0 then .utf32 (some .big) else .utf16 (some .big)
  | _ :: 0 :: c :: d :: _ =>
    if c = 0 ∧ d = 0 then .utf32 (some .little) else .utf16 (some .little)
  | [0, _] => .utf16 (some .big)
  | [_, 0] => .utf16 (some .little)
  | _ => .utf8

/-- Reads octets as one value. -/
def ofBytes (depth : Nat) (octets : List UInt8) : Except DecodeError Json :=
  match (detectCharset octets).decode? octets with
  | none => .error .undecodable
  | some points => (parsePoints depth points).mapError .text

end DocAccess.Json
