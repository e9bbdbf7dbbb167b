import DocAccess.Decimal.Binary64
import DocAccess.Text.Basic

/-!
# Reading decimals

`ofScientific` is the double nearest to a whole number times a power of ten. `readNumeral?`
accepts the numerals of a setting: digits with an optional point and exponent, or one of the
words for infinity and not-a-number in any letter case.
-/
namespace DocAccess.Binary64

/-- The double nearest to `digits * 10 ^ exponent`. Powers far beyond the range of doubles are
decided by the size of the number alone. -/
def ofScientific (negative : Bool) (digits : Nat) (exponent : Int) : Binary64 :=
  if digits = 0 then .finite negative 0
  else
    let top : Int := (Nat.toDigits 10 digits).length + exponent
    if top > 320 then .infinite negative
    else if top < -340 then .finite negative 0
    else match exponent with
      | .ofNat n => ofRatio negative (digits * tenTo n) 1
      | .negSucc n => ofRatio negative digits (tenTo (n + 1))

/-- The value of a digit from zero to nine. -/
def digitValue? (c : Char) : Option Nat :=
  if '0' ≤ c ∧ c ≤ '9' then some (c.toNat - 48) else none

/-- Whether a character is one of the ten digits. -/
def isDigit (c : Char) : Bool := '0' ≤ c && c ≤ '9'

/-- The number that digits spell. -/
def ofDigits (ds : List Char) : Nat :=
  ds.foldl (fun n c => 10 * n + (c.toNat - 48)) 0

/-- A sign in front, and what follows it. -/
def takeSign : List Char → Bool × List Char
  | '-' :: cs => (true, cs)
  | '+' :: cs => (false, cs)
  | cs => (false, cs)

/-- An exponent after a number: nothing, or a mark, an optional sign and digits to the end. -/
def readExponent? : List Char → Option Int
  | [] => some 0
  | c :: cs =>
    if c = 'e' ∨ c = 'E' then
      let (negative, ds) := takeSign cs
      if !ds.isEmpty && ds.all isDigit then
        some (if negative then -(ofDigits ds : Int) else ofDigits ds)
      else none
    else none

/-- Digits, an optional point with more digits, and an optional exponent; at least one digit
stands before the exponent. -/
def readDecimal? (negative : Bool) (cs : List Char) : Option Binary64 := do
  let whole := cs.takeWhile isDigit
  let rest := cs.dropWhile isDigit
  let (fraction, rest) := match rest with
    | '.' :: more => (more.takeWhile isDigit, more.dropWhile isDigit)
    | _ => ([], rest)
  if whole.isEmpty && fraction.isEmpty then none
  else
    let e ← readExponent? rest
    some (ofScientific negative (ofDigits (whole ++ fraction)) (e - fraction.length))

/-- A signed numeral or word, the whole of the text. -/
def readSigned? (cs : List Char) : Option Binary64 :=
  let (negative, rest) := takeSign cs
  let word := String.ofList (rest.map Char.toLower)
  if word = "inf" ∨ word = "infinity" then some (.infinite negative)
  else if word = "nan" then some .nan
  else readDecimal? negative rest

/-- Whether underscores stand only between other characters, one at a time. -/
def underscoresInside : List Char → Bool
  | [] => true
  | ['_'] => false
  | '_' :: '_' :: _ => false
  | _ :: cs => underscoresInside cs

/-- The numeral of a setting. White space around it is ignored; a numeral with underscores is
read without them when each stands alone between two characters, and then no white space is
allowed. -/
def readNumeral? (s : String) : Option Binary64 :=
  let cs := s.toList
  match readSigned? (trimWhile (isWhiteSpace ·.toNat) cs) with
  | some x => some x
  | none =>
    if cs.contains '_' && cs.head? != some '_' && underscoresInside cs then
      readSigned? (cs.filter (· != '_'))
    else none

end DocAccess.Binary64
