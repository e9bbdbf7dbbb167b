import DocAccess.Decimal.Shortest

/-!
# Doubles as text

The digits are the shortest that read back. A number is written positionally, with at least one
place after the point, while the power of ten of its first digit is at least -4 and below 16;
otherwise in scientific form with a signed exponent of at least two digits.
-/
namespace DocAccess.Binary64

/-- Where positional writing begins and ends, and how exponents are written. -/
structure Layout where
  /-- Least power of ten of the first digit that is written positionally. -/
  lowest : Int
  /-- First power of ten that is not. -/
  beyond : Int
  /-- Least number of digits of an exponent. -/
  exponentWidth : Nat

/-- The layout of every double that this library writes. -/
def layout : Layout := ⟨-4, 16, 2⟩

/-- Digits of an exponent, padded with zeros. -/
def Layout.exponentDigits (l : Layout) (n : Nat) : List Char :=
  let ds := Nat.toDigits 10 n
  List.replicate (l.exponentWidth - ds.length) '0' ++ ds

/-- A positive decimal in positional form. -/
def positional (ds : List Char) (e : Int) : List Char :=
  if e < 0 then '0' :: '.' :: List.replicate ((-e).toNat - 1) '0' ++ ds
  else
    let whole := e.toNat + 1
    if ds.length ≤ whole then ds ++ List.replicate (whole - ds.length) '0' ++ ['.', '0']
    else ds.take whole ++ '.' :: ds.drop whole

/-- A positive decimal in scientific form. -/
def Layout.scientific (l : Layout) (ds : List Char) (e : Int) : List Char :=
  let head := ds.take 1
  let tail := ds.drop 1
  let mark := if e < 0 then ['e', '-'] else ['e', '+']
  head ++ (if tail.isEmpty then [] else '.' :: tail) ++ mark ++ l.exponentDigits e.natAbs

/-- A magnitude as text. -/
def Layout.magnitude (l : Layout) (units : Nat) : List Char :=
  if units = 0 then ['0', '.', '0']
  else
    let s := shortest units
    let ds := Nat.toDigits 10 s.digits
    if l.lowest ≤ s.exponent ∧ s.exponent < l.beyond then positional ds s.exponent
    else l.scientific ds s.exponent

/-- A double as text. -/
def text : Binary64 → String
  | .finite negative units =>
    String.ofList ((if negative then ['-'] else []) ++ layout.magnitude units)
  | .infinite negative => if negative then "-inf" else "inf"
  | .nan => "nan"

end DocAccess.Binary64
