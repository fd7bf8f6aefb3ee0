import TokenPersistence.Config.Record
import TokenPersistence.Time

/-!
# Durations and points in time in configuration text

Both are records of whole seconds and nanoseconds; full seconds among the
nanoseconds are carried over. A point in time counts from the epoch on.
-/

namespace TokenPersistence.Config

set_option autoImplicit false

structure Span where
  seconds : Option Nat
  nanos : Option Nat
  deriving DecidableEq, Repr

def spanSchema (secondsName nanosName : String) : Schema Span where
  fields :=
    [{ name := secondsName
       read := fun span text =>
         (readNatural (Nat.pow 2 64 - 1) text).map fun reading =>
           ({ span with seconds := some reading.1 }, reading.2) },
      { name := nanosName
        read := fun span text =>
          (readNatural (Nat.pow 2 32 - 1) text).map fun reading =>
            ({ span with nanos := some reading.1 }, reading.2) }]
  isOpen := false

/-- The duration of a span, if both its parts were given and it is in range. -/
def Span.duration? (span : Span) : Except Problem Duration :=
  match span.seconds, span.nanos with
  | some seconds, some nanos =>
      match Duration.ofNanos? (seconds * nanosPerSecond + nanos) with
      | some duration => .ok duration
      | none => .error .data
  | _, _ => .error .data

def readSpan (secondsName nanosName : String) : Reader Duration :=
  readRecord (spanSchema secondsName nanosName) ⟨none, none⟩ Span.duration?

def readDuration : Reader Duration := readSpan "secs" "nanos"

def readTimestamp : Reader Timestamp := fun text => do
  let (sinceEpoch, rest) ← readSpan "secs_since_epoch" "nanos_since_epoch" text
  match Timestamp.ofNanos? sinceEpoch.nanos with
  | some timestamp => .ok (timestamp, rest)
  | none => .error .data

end TokenPersistence.Config
