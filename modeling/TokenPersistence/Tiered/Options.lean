import TokenPersistence.Number.Layout
import TokenPersistence.Number.Seconds
import TokenPersistence.Panic

/-!
# Options of the tiered store

The options say how long entries live in the shared cache, which share of a relative
lifetime they spend in memory, and whether writing to the shared cache is left to a
spawner. The share has to be greater than zero and at most one as soon as a relative
lifetime is set.
-/

namespace TokenPersistence

set_option autoImplicit false

structure TieredOptions where
  l1Disabled : Bool
  l1SizeLimit : UInt64
  l1Share : Binary64
  absolute : Option Timestamp
  relative : Option Duration
  sliding : Option Duration
  asyncWrites : Bool
  deriving DecidableEq

inductive OptionsProblem where
  | shareOutOfRange (share : Binary64)
  | spawnerMissing
  deriving DecidableEq, Repr

def OptionsProblem.message : OptionsProblem → String
  | shareOutOfRange share =>
      "l1 expiration time ratio must be greater than 0 and at most 1, got " ++
        NumberLayout.plain.write share
  | spawnerMissing => "background l2 writes require a spawner"

namespace TieredOptions

/-- Memory takes 500 MiB, entries live in it for the whole relative lifetime, and
writes wait for the shared cache. -/
def standard : TieredOptions where
  l1Disabled := false
  l1SizeLimit := 524288000
  l1Share := Binary64.one
  absolute := none
  relative := none
  sliding := none
  asyncWrites := false

instance : Inhabited TieredOptions := ⟨standard⟩

/-- Without a cache in memory a write would be lost for the time being, so it waits. -/
def writesInBackground (options : TieredOptions) : Bool :=
  options.asyncWrites && !options.l1Disabled

def hasValidShare (options : TieredOptions) : Bool := options.l1Share.isProperShare

/-- The lifetime of copies in memory. Scaling the longest durations overflows. -/
def l1Lifetime (options : TieredOptions) : Except Panic (Option Duration) :=
  match options.relative with
  | none => .ok none
  | some relative =>
      if options.hasValidShare then
        match relative.scale? options.l1Share with
        | some lifetime => .ok (some lifetime)
        | none => .error (.message "duration out of range")
      else .ok none

def validate (options : TieredOptions) : Except OptionsProblem Unit :=
  if options.relative.isSome && !options.hasValidShare then
    .error (.shareOutOfRange options.l1Share)
  else .ok ()

end TieredOptions

end TokenPersistence
