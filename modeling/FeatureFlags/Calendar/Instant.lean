namespace FeatureFlags

/-- Seconds since the start of 1970 in UTC and nanoseconds within the second. A second that is
followed by a leap second has two thousand million of them. -/
structure Instant where
  seconds : Int
  nanos : Nat
  deriving DecidableEq, Inhabited

namespace Instant

def lt (a b : Instant) : Bool := a.seconds < b.seconds || a.seconds == b.seconds && a.nanos < b.nanos

def le (a b : Instant) : Bool := !b.lt a

def addMillis (t : Instant) (ms : Nat) : Instant :=
  let nanos := t.nanos + ms % 1000 * 1000000
  ⟨t.seconds + (ms / 1000 + nanos / 1000000000 : Nat), nanos % 1000000000⟩

end Instant

end FeatureFlags
