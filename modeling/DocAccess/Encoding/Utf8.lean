/-!
# UTF-8

A machine that reads one octet at a time. It yields the code point of each character and one
mark for each malformed run, where a run ends before the first octet that no character could
have at its place. Surrogate code points are malformed unless the reader asks for them.
-/
namespace DocAccess.Utf8

/-- Where the machine stands: between characters, or owing octets of one. -/
inductive State where
  | between
  /-- `owed` more octets, the next one from `low` to `high`; `value` holds the bits so far. -/
  | inside (owed low high value : Nat)
  deriving DecidableEq, Repr

/-- What one octet makes of the position between characters. -/
inductive Lead where
  | character (point : Nat)
  | opens (state : State)
  | malformed
  deriving DecidableEq, Repr

/-- The role of an octet that starts a character. -/
def lead (surrogates : Bool) (b : Nat) : Lead :=
  if b < 0x80 then .character b
  else if b < 0xC2 then .malformed
  else if b < 0xE0 then .opens (.inside 1 0x80 0xBF (b - 0xC0))
  else if b = 0xE0 then .opens (.inside 2 0xA0 0xBF 0)
  else if b = 0xED then .opens (.inside 2 0x80 (if surrogates then 0xBF else 0x9F) 0xD)
  else if b < 0xF0 then .opens (.inside 2 0x80 0xBF (b - 0xE0))
  else if b = 0xF0 then .opens (.inside 3 0x90 0xBF 0)
  else if b < 0xF4 then .opens (.inside 3 0x80 0xBF (b - 0xF0))
  else if b = 0xF4 then .opens (.inside 3 0x80 0x8F 4)
  else .malformed

/-- The machine: its state, and what it has yielded so far, newest first. -/
structure Machine where
  state : State
  yielded : List (Option Nat)

/-- The octet `b` read between characters. -/
def Machine.start (surrogates : Bool) (b : Nat) (out : List (Option Nat)) : Machine :=
  match lead surrogates b with
  | .character p => ⟨.between, some p :: out⟩
  | .opens s => ⟨s, out⟩
  | .malformed => ⟨.between, none :: out⟩

/-- One octet. An octet that cannot continue the open character closes a malformed run and is
then read as a first octet. -/
def Machine.step (surrogates : Bool) (m : Machine) (octet : UInt8) : Machine :=
  let b := octet.toNat
  match m.state with
  | .between => Machine.start surrogates b m.yielded
  | .inside owed low high value =>
    if low ≤ b ∧ b ≤ high then
      let value := value * 64 + (b - 0x80)
      if owed = 1 then ⟨.between, some value :: m.yielded⟩
      else ⟨.inside (owed - 1) 0x80 0xBF value, m.yielded⟩
    else Machine.start surrogates b (none :: m.yielded)

/-- The code points of the octets, with `none` for each malformed run. -/
def scan (surrogates : Bool) (octets : List UInt8) : List (Option Nat) :=
  let m := octets.foldl (Machine.step surrogates) ⟨.between, []⟩
  match m.state with
  | .between => m.yielded.reverse
  | .inside .. => (none :: m.yielded).reverse

end DocAccess.Utf8
