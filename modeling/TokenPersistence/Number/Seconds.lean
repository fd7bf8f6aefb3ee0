import TokenPersistence.Number.Binary64
import TokenPersistence.Time

/-!
# Durations as binary numbers

The number of seconds in a duration is the whole seconds plus the quotient of the
remaining nanoseconds, each step rounded. Scaling a duration goes through that
number, so a duration just below the largest one may already have 2^64 seconds;
such a product is no duration any more.
-/

namespace TokenPersistence

set_option autoImplicit false

namespace Duration

def toSeconds (duration : Duration) : Binary64 :=
  (Binary64.ofNat duration.seconds).add
    ((Binary64.ofNat duration.subsecondNanos).div (Binary64.ofNat nanosPerSecond))

def toMillis (duration : Duration) : Binary64 :=
  duration.toSeconds.mul (Binary64.ofNat 1000)

def ofSeconds? (seconds : Binary64) : Option Duration :=
  if seconds.isFinite ∧ seconds.magnitude < Nat.pow 2 64 * Binary64.unit then
    ofNanos? (roundHalfEven (seconds.magnitude * nanosPerSecond) Binary64.unit)
  else none

def scale? (duration : Duration) (share : Binary64) : Option Duration :=
  ofSeconds? (share.mul duration.toSeconds)

end Duration

end TokenPersistence
