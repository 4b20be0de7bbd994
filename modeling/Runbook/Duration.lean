import Runbook.Word
import Runbook.Decimal.Shortest

/-!
Durations in nanoseconds, at most as long as a 64-bit word counts seconds.
-/

namespace Runbook

structure Duration where
  nanoseconds : Nat
  deriving DecidableEq, Repr, Inhabited

namespace Duration

def millisecond : Nat := 1000000

def second : Nat := 1000000000

/-- The longest duration: the greatest 64-bit word of seconds, and the fraction of one more. -/
def longest : Duration := ⟨Word.count 64 * second - 1⟩

def zero : Duration := ⟨0⟩

def ofMilliseconds (n : Nat) : Duration := ⟨n * millisecond⟩

def ofSeconds (n : Nat) : Duration := ⟨n * second⟩

def seconds (d : Duration) : Nat := d.nanoseconds / second

def milliseconds (d : Duration) : Nat := d.nanoseconds / millisecond

/-- The duration of a non-negative finite number of seconds, to the nearest nanosecond; `none` when
it is too long. -/
def ofFloat? (x : Float) : Option Duration :=
  let b := Decimal.Binary.ofFloat x
  let n := roundedQuotient (b.mantissa * Nat.pow 2 b.exponent.toNat * second)
    (Nat.pow 2 (-b.exponent).toNat)
  if n ≤ longest.nanoseconds then some ⟨n⟩ else none

/-- The number of seconds as a double: the sum of the whole seconds and the fraction. -/
def toFloat (d : Duration) : Float :=
  d.seconds.toFloat + (d.nanoseconds % second).toFloat / 1e9

def atMost (d limit : Duration) : Duration := ⟨min d.nanoseconds limit.nanoseconds⟩

def times (d : Duration) (n : Nat) : Duration := atMost ⟨d.nanoseconds * n⟩ longest

end Duration

end Runbook
