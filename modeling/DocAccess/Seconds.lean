import DocAccess.Decimal.Layout

/-!
# Durations

A duration keeps the form in which it was given, since messages repeat it: a whole number of
seconds or a double. The clock counts units of 2 ^ (-1074) seconds, in which every finite double
is a whole number, so instants add without rounding.
-/
namespace DocAccess

/-- A number of seconds. -/
inductive Seconds where
  | whole (n : Int)
  | real (x : Binary64)
  deriving DecidableEq, Repr

namespace Seconds

/-- The text of a duration in messages. -/
def text : Seconds → String
  | .whole n => toString n
  | .real x => x.text

/-- The double nearest to the duration. -/
def toBinary64 : Seconds → Binary64
  | .whole n => .ofInt n
  | .real x => x

/-- Whether the duration is a whole number too large for a double. -/
def exceedsDouble : Seconds → Bool
  | .whole n => !(Binary64.ofInt n).isFinite
  | .real _ => false

/-- The duration in units of the clock; `none` when it has no end. Not-a-number is over at once: no
instant is earlier than it. -/
def ticks? (s : Seconds) : Option Int :=
  match s.toBinary64 with
  | .finite negative units => some (if negative then -(units : Int) else units)
  | .infinite true | .nan => some 0
  | .infinite false => none

end Seconds

/-- How long a call takes: a number of clock units, zero when it does not wait at all, or
forever. -/
inductive Wait where
  | lasts (ticks : Nat)
  | forever
  deriving DecidableEq, Repr

namespace Wait

/-- No wait. -/
def immediate : Wait := .lasts 0

/-- The wait of a delay; a delay that is not positive is no wait. -/
def ofSeconds (s : Seconds) : Wait :=
  match s.ticks? with
  | some t => .lasts t.toNat
  | none => .forever

end Wait
end DocAccess
