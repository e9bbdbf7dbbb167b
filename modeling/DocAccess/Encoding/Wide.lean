/-!
# Encodings in units of two and four octets

UTF-16 and UTF-32 in either octet order. Each character yields its code point and each malformed
unit one mark; a surrogate that stands alone is malformed unless the reader asks for it.
-/
namespace DocAccess.Wide

/-- The order of the octets of a unit. -/
inductive Endian where
  | little
  | big
  deriving DecidableEq, Repr

/-- The units of two octets, and whether an octet is left over. -/
def units16 (order : Endian) : List UInt8 → List Nat × Bool
  | a :: b :: rest =>
    let (us, ragged) := units16 order rest
    let u := match order with
      | .little => a.toNat + 256 * b.toNat
      | .big => 256 * a.toNat + b.toNat
    (u :: us, ragged)
  | [_] => ([], true)
  | [] => ([], false)

/-- The units of four octets, and whether octets are left over. -/
def units32 (order : Endian) : List UInt8 → List Nat × Bool
  | a :: b :: c :: d :: rest =>
    let (us, ragged) := units32 order rest
    let u := match order with
      | .little => a.toNat + 256 * (b.toNat + 256 * (c.toNat + 256 * d.toNat))
      | .big => ((a.toNat * 256 + b.toNat) * 256 + c.toNat) * 256 + d.toNat
    (u :: us, ragged)
  | [] => ([], false)
  | _ => ([], true)

/-- Whether a unit is the first half of a surrogate pair. -/
def isHigh (u : Nat) : Bool := 0xD800 ≤ u && u ≤ 0xDBFF

/-- Whether a unit is the second half of a surrogate pair. -/
def isLow (u : Nat) : Bool := 0xDC00 ≤ u && u ≤ 0xDFFF

/-- The code point of a surrogate pair. -/
def pair (high low : Nat) : Nat := 0x10000 + (high - 0xD800) * 0x400 + (low - 0xDC00)

/-- The code points of a list of units of sixteen bits. -/
def points16 (surrogates : Bool) : List Nat → List (Option Nat)
  | [] => []
  | [u] => [if isHigh u || isLow u then if surrogates then some u else none else some u]
  | u :: v :: rest =>
    if isHigh u && isLow v then some (pair u v) :: points16 surrogates rest
    else
      let one := if isHigh u || isLow u then if surrogates then some u else none else some u
      one :: points16 surrogates (v :: rest)

/-- The code point of a unit of thirty-two bits. -/
def point32 (surrogates : Bool) (u : Nat) : Option Nat :=
  if u > 0x10FFFF then none
  else if isHigh u || isLow u then if surrogates then some u else none
  else some u

/-- The code points of UTF-16 octets. An octet left over is malformed together with the first
half of a pair in front of it. -/
def scan16 (surrogates : Bool) (order : Endian) (octets : List UInt8) : List (Option Nat) :=
  let (us, ragged) := units16 order octets
  let shared := !surrogates && us.getLast?.any isHigh
  points16 surrogates us ++ if ragged && !shared then [none] else []

/-- The code points of UTF-32 octets. -/
def scan32 (surrogates : Bool) (order : Endian) (octets : List UInt8) : List (Option Nat) :=
  let (us, ragged) := units32 order octets
  us.map (point32 surrogates) ++ if ragged then [none] else []

end DocAccess.Wide
