/-!
# Doubles as exact numbers

Every finite double is a whole multiple of the least positive one, 2 ^ (-1074). A `Binary64`
holds that multiple, so comparison is comparison of whole numbers and no rounding hides in it.
`ofRatio` rounds a quotient to the nearest double, a tie to the even neighbour.
-/
namespace DocAccess

/-- A number in the IEEE 754 format of sixty-four bits. -/
inductive Binary64 where
  /-- `units` times the least positive double, with a sign. -/
  | finite (negative : Bool) (units : Nat)
  | infinite (negative : Bool)
  | nan
  deriving DecidableEq, Repr

namespace Binary64

/-- The least positive double is this power of two below one. -/
def unitExponent : Nat := 1074

/-- Number of bits of the significand. -/
def precision : Nat := 53

/-- A power of two. -/
def twoTo (n : Nat) : Nat := Nat.pow 2 n

/-- A power of ten. -/
def tenTo (n : Nat) : Nat := Nat.pow 10 n

/-- The first multiple of the least positive double that is too large to be finite. -/
def limit : Nat := twoTo (1024 + unitExponent)

/-- Binary logarithm of the distance between neighbouring doubles near `units`. -/
def spacing (units : Nat) : Nat := units.log2 + 1 - precision

/-- The whole number nearest to `num / den`, a tie to the even one. -/
def roundHalfEven (num den : Nat) : Nat :=
  let q := num / den
  let r := num % den
  if 2 * r < den then q
  else if den < 2 * r then q + 1
  else if q % 2 = 0 then q else q + 1

/-- The double nearest to `num / den`, for a positive `den`. -/
def ofRatio (negative : Bool) (num den : Nat) : Binary64 :=
  let scaled := num * twoTo unitExponent
  let step := twoTo (spacing (scaled / den))
  let units := roundHalfEven scaled (den * step) * step
  if units < limit then .finite negative units else .infinite negative

/-- The double nearest to a whole number. -/
def ofInt (n : Int) : Binary64 := ofRatio (n < 0) n.natAbs 1

/-- Whether the number is finite. -/
def isFinite : Binary64 → Bool
  | .finite .. => true
  | _ => false

/-- Whether the number is greater than zero. -/
def isPositive : Binary64 → Bool
  | .finite negative units => !negative && units != 0
  | .infinite negative => !negative
  | .nan => false

/-- Whether the number is zero, of either sign. -/
def isZero : Binary64 → Bool
  | .finite _ units => units == 0
  | _ => false

end Binary64
end DocAccess
