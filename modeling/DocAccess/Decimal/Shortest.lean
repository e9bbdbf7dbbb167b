import DocAccess.Decimal.Binary64

/-!
# The shortest decimal that reads back

Around a double lies the interval of numbers that round to it; its ends belong to it when the
significand is even. Of all decimals in that interval `shortest` takes one with the fewest
digits, and of those the one nearest to the double.
-/
namespace DocAccess.Binary64

/-- The decimal `0.d₁d₂…` times a power of ten: its digits without leading or trailing zeros,
and the power of ten of the first digit. -/
structure Digits where
  digits : Nat
  exponent : Int
  deriving DecidableEq, Repr

/-- Compares `a * 10 ^ p` with `b` units: both sides over a common whole scale. -/
def scaledPair (a : Nat) (p : Int) (b : Nat) : Nat × Nat :=
  match p with
  | .ofNat n => (a * tenTo n * twoTo unitExponent, b)
  | .negSucc n => (a * twoTo unitExponent, b * tenTo (n + 1))

/-- Whether `a * 10 ^ p ≤ b` units. -/
def leUnits (a : Nat) (p : Int) (b : Nat) : Bool :=
  let (x, y) := scaledPair a p b
  x ≤ y

/-- The greatest `e` with `10 ^ e` at most `units`, for positive `units`. -/
def decimalExponent (units : Nat) : Int :=
  let guess : Int := (((units.log2 : Int) - unitExponent) * 30103).fdiv 100000 - 1
  if leUnits 1 (guess + 2) units then guess + 2
  else if leUnits 1 (guess + 1) units then guess + 1
  else guess

/-- The whole part of `units / 10 ^ p`, and whether it is exact. -/
def floorAt (units : Nat) (p : Int) : Nat × Bool :=
  let (x, y) := scaledPair 1 p units
  (y / x, y % x == 0)

/-- Whether `d * 10 ^ p` rounds to the double. -/
def readsBack (units : Nat) (d : Nat) (p : Int) : Bool :=
  let s := spacing units
  let even := (units / twoTo s) % 2 == 0
  -- at a power of two the neighbour below is nearer by half
  let belowHalves := if s = 0 ∨ units ≠ twoTo units.log2 then 2 * twoTo s else twoTo s
  let low := 4 * units - belowHalves
  let high := 4 * units + 2 * twoTo s
  let (x, l) := scaledPair (4 * d) p low
  let (_, h) := scaledPair (4 * d) p high
  if even then l ≤ x && x ≤ h else l < x && x < h

/-- The nearer of `d * 10 ^ p` and `(d + 1) * 10 ^ p`; a tie goes to the even one. -/
def nearerAbove (units d : Nat) (p : Int) : Bool :=
  let (x, y) := scaledPair (2 * d + 1) p (2 * units)
  x < y || (x == y && d % 2 == 1)

/-- Looks for a decimal with `count` digits, then with one more, up to `fuel` times. -/
def search (units : Nat) (e : Int) : (fuel : Nat) → (count : Nat) → Nat × Int
  | 0, _ => (units, -unitExponent)
  | fuel + 1, count =>
    let p := e - (count : Int) + 1
    let (d, exact) := floorAt units p
    if exact then (d, p)
    else
      let below := readsBack units d p
      let above := readsBack units (d + 1) p
      if below && above then (if nearerAbove units d p then d + 1 else d, p)
      else if below then (d, p)
      else if above then (d + 1, p)
      else search units e fuel (count + 1)

/-- Number of decimal digits. -/
def digitCount (n : Nat) : Nat := (Nat.toDigits 10 n).length

/-- Removes trailing zeros, `fuel` at most. -/
def dropZeros : (fuel : Nat) → Nat → Nat
  | 0, d => d
  | fuel + 1, d => if d ≠ 0 ∧ d % 10 = 0 then dropZeros fuel (d / 10) else d

/-- The shortest decimal that rounds to a positive finite double. -/
def shortest (units : Nat) : Digits :=
  let (d, p) := search units (decimalExponent units) 17 1
  { digits := dropZeros 20 d, exponent := p + (digitCount d : Int) - 1 }

end DocAccess.Binary64
