/-!
# Durations and points in time

A duration is a whole number of nanoseconds below 2^64 seconds; a point in time
is a whole number of nanoseconds since the epoch, within 2^63 seconds on either
side. Both bounds are part of the types. The distance between two points always
fits a duration, so it needs no check.
-/

namespace TokenPersistence

set_option autoImplicit false

def nanosPerSecond : Nat := 1000000000

structure Duration where
  nanos : Nat
  inRange : nanos < 18446744073709551616 * nanosPerSecond
  deriving DecidableEq

namespace Duration

def ofNanos? (nanos : Nat) : Option Duration :=
  if inRange : nanos < 18446744073709551616 * nanosPerSecond then some ⟨nanos, inRange⟩ else none

def zero : Duration := ⟨0, by decide⟩

instance : Inhabited Duration := ⟨zero⟩

def millisecond : Duration := ⟨1000000, by decide⟩

def max : Duration := ⟨18446744073709551616 * nanosPerSecond - 1, by decide⟩

def ofDays (days : Fin 1000) : Duration :=
  ⟨days * 86400 * nanosPerSecond, by
    have bound := days.isLt
    simp only [nanosPerSecond]
    omega⟩

def seconds (duration : Duration) : Nat := duration.nanos / nanosPerSecond

def subsecondNanos (duration : Duration) : Nat := duration.nanos % nanosPerSecond

def shorter (left right : Duration) : Duration :=
  if left.nanos ≤ right.nanos then left else right

def longer (left right : Duration) : Duration :=
  if left.nanos ≤ right.nanos then right else left

@[simp] theorem nanos_shorter (left right : Duration) :
    (shorter left right).nanos = Nat.min left.nanos right.nanos := by
  unfold shorter
  split <;> simp only [Nat.min_def] <;> split <;> omega

@[simp] theorem nanos_longer (left right : Duration) :
    (longer left right).nanos = Nat.max left.nanos right.nanos := by
  unfold longer
  split <;> simp only [Nat.max_def] <;> split <;> omega

def nanosPerTick : Nat := 100

/-- A number of ticks in 64 bits, unless it needs more of them. -/
def narrowTicks? (ticks : Nat) : Option UInt64 :=
  if ticks < UInt64.size then some (UInt64.ofNat ticks) else none

def mostTicks : UInt64 := 18446744073709551615

/-- Whole ticks of 100 nanoseconds, or the largest 64-bit number if there are more. -/
def ticks (duration : Duration) : UInt64 :=
  (narrowTicks? (duration.nanos / nanosPerTick)).getD mostTicks

end Duration

structure Timestamp where
  nanos : Int
  notBefore : -(9223372036854775808 * 1000000000) ≤ nanos
  notAfter : nanos < 9223372036854775808 * 1000000000
  deriving DecidableEq

namespace Timestamp

def ofNanos? (nanos : Int) : Option Timestamp :=
  if notBefore : -(9223372036854775808 * 1000000000) ≤ nanos then
    if notAfter : nanos < 9223372036854775808 * 1000000000 then some ⟨nanos, notBefore, notAfter⟩
    else none
  else none

def epoch : Timestamp := ⟨0, by decide, by decide⟩

instance : Inhabited Timestamp := ⟨epoch⟩

def since? (finish start : Timestamp) : Option Duration :=
  if start.nanos ≤ finish.nanos then
    some ⟨(finish.nanos - start.nanos).toNat, by
      have low := start.notBefore
      have high := finish.notAfter
      simp only [nanosPerSecond]
      omega⟩
  else none

/-- The time from `start` to `finish`, and nothing when the clock went back. -/
def elapsed (start finish : Timestamp) : Duration :=
  (finish.since? start).getD Duration.zero

def earlier (left right : Timestamp) : Timestamp :=
  if left.nanos ≤ right.nanos then left else right

/-- The point in time after a duration, unless the calendar ends before it. -/
def advance? (start : Timestamp) (step : Duration) : Option Timestamp :=
  ofNanos? (start.nanos + step.nanos)

theorem nanos_elapsed (start finish : Timestamp) :
    (elapsed start finish).nanos = (finish.nanos - start.nanos).toNat := by
  unfold elapsed since?
  split
  · rfl
  · rename_i later
    have below : finish.nanos - start.nanos ≤ 0 := by omega
    simp [Duration.zero, Int.toNat_of_nonpos below]

/-- The time left until `deadline` at `now`, at least one millisecond: a deadline
that has passed leaves the shortest lifetime that is not nothing. -/
def remaining (deadline now : Timestamp) : Duration :=
  Duration.longer ((deadline.since? now).getD Duration.millisecond) Duration.millisecond

theorem nanos_remaining (deadline now : Timestamp) :
    (remaining deadline now).nanos =
      Nat.max (deadline.nanos - now.nanos).toNat Duration.millisecond.nanos := by
  unfold remaining since?
  rw [Duration.nanos_longer]
  split
  · rfl
  · rename_i later
    have below : deadline.nanos - now.nanos ≤ 0 := by omega
    simp [Int.toNat_of_nonpos below]

end Timestamp

end TokenPersistence
