import TokenPersistence.Bytes
import TokenPersistence.Routine.Run
import TokenPersistence.Time

/-!
# The context of a call

Calls share a clock, a set of cancelled tokens, the level sinks of the host, and a
source of nonces. Entries held in memory age by an uptime of their own, which only
goes forward; the clock may be set back, but not to the very end of the calendar or
beyond it. A clock that was moved there is broken, and from then on whoever reads or
moves it panics. Beside these a context
carries the data of the stores, locks and collections that a call works on, reached
through cells.
-/

namespace TokenPersistence

set_option autoImplicit false

/-- The level of the caches at which a read was answered. -/
inductive CacheLevel where
  | none
  | l1
  | l2
  deriving DecidableEq, Repr, Inhabited

namespace CacheLevel

def all : List CacheLevel := [none, l1, l2]

def name : CacheLevel → String
  | none => "None"
  | l1 => "L1"
  | l2 => "L2"

def ofName? (name : String) : Option CacheLevel := all.find? fun level => level.name == name

end CacheLevel

/-- A token is cancelled when it or one of its ancestors has been cancelled;
cancelling a child leaves its parent alone. -/
structure CancellationToken where
  label : String
  ancestors : List String
  deriving DecidableEq, Repr

namespace CancellationToken

def named (label : String) : CancellationToken := ⟨label, []⟩

def child (parent : CancellationToken) (label : String) : CancellationToken :=
  ⟨label, parent.label :: parent.ancestors⟩

def isCancelled (token : CancellationToken) (cancelled : String → Bool) : Bool :=
  cancelled token.label || token.ancestors.any cancelled

end CancellationToken

/-- A sink receives the level of the last hit. Sinks are told apart by label. -/
structure LevelSink where
  label : String
  deriving DecidableEq, Repr

structure Context (σ : Type) where
  now : Timestamp
  clockIsBroken : Bool
  uptime : Nat
  cancelled : String → Bool
  levels : String → CacheLevel
  nonces : Nat → Nonce
  drawn : Nat
  data : σ

namespace Context

variable {σ : Type}

def initial (now : Timestamp) (data : σ) : Context σ where
  now
  clockIsBroken := false
  uptime := 0
  cancelled := fun _ => false
  levels := fun _ => .none
  nonces := Nonce.ofNat
  drawn := 0
  data

def isCancelled (context : Context σ) (token : CancellationToken) : Bool :=
  token.isCancelled context.cancelled

def cancel (context : Context σ) (token : CancellationToken) : Context σ :=
  { context with cancelled := fun label => label == token.label || context.cancelled label }

def level (context : Context σ) (sink : LevelSink) : CacheLevel := context.levels sink.label

def setLevel (context : Context σ) (sink : LevelSink) (level : CacheLevel) : Context σ :=
  { context with
    levels := fun label => if label = sink.label then level else context.levels label }

/-- Goes on with the time of the clock, unless the clock is broken. -/
def withClock {α : Type} (continuation : Timestamp → Routine (Context σ) α) :
    Routine (Context σ) α :=
  Routine.get fun context =>
    if context.clockIsBroken then
      .panic (.message "acquiring lock must always succeed: PoisonError \x7b .. \x7d")
    else continuation context.now

def readClock : Routine (Context σ) Timestamp := withClock .done

/-- Beside the time a clock counts how long its machine has been running, in steps of
the same size. An hour is how far that count is ahead of the time since the epoch. -/
def headStart : Duration := ⟨3600 * nanosPerSecond, by decide⟩

/-- The clock can show a point in time if the count beside it has not run out by then. -/
def canShow (time : Timestamp) : Bool := (time.advance? headStart).isSome

def breakClock : Routine (Context σ) Unit :=
  Routine.get fun context =>
    .set { context with clockIsBroken := true }
      (.panic (.message ("moving the clock outside of the supported time range is not " ++
        "possible: [1970-01-01T00:00:00Z, 9999-12-30T22:00:00.9999999Z]")))

def setClock (time : Timestamp) : Routine (Context σ) Unit :=
  withClock fun _ =>
    if canShow time then Routine.modify fun context => { context with now := time }
    else breakClock

def letPass (duration : Duration) : Routine (Context σ) Unit :=
  withClock fun now =>
    match now.advance? duration with
    | some later => setClock later
    | none => breakClock

def drawNonce (context : Context σ) : Nonce × Context σ :=
  (context.nonces context.drawn, { context with drawn := context.drawn + 1 })

end Context

/-- One part of the data of a context. -/
structure Cell (σ τ : Type) where
  get : σ → τ
  put : τ → σ → σ

namespace Cell

variable {σ τ ρ α : Type}

/-- What is written is read back, what was read may be written back, and the last
writing counts. -/
structure Lawful (cell : Cell σ τ) : Prop where
  get_put : ∀ value data, cell.get (cell.put value data) = value
  put_get : ∀ data, cell.put (cell.get data) data = data
  put_put : ∀ first second data, cell.put second (cell.put first data) = cell.put second data

def inside (outer : Cell σ τ) (inner : Cell τ ρ) : Cell σ ρ where
  get data := inner.get (outer.get data)
  put value data := outer.put (inner.put value (outer.get data)) data

def whole : Cell σ σ where
  get data := data
  put value _ := value

def member {ι : Type} [DecidableEq ι] (index : ι) : Cell (ι → τ) τ where
  get family := family index
  put value family := fun other => if other = index then value else family other

def look (cell : Cell σ τ) (view : τ → α) : Routine (Context σ) α :=
  Routine.read fun context => view (cell.get context.data)

def step (cell : Cell σ τ) (transition : τ → α × τ) : Routine (Context σ) α :=
  Routine.step fun context =>
    ((transition (cell.get context.data)).1,
      { context with data := cell.put (transition (cell.get context.data)).2 context.data })

def modify (cell : Cell σ τ) (change : τ → τ) : Routine (Context σ) Unit :=
  cell.step fun value => ((), change value)

end Cell

/-- Work that ends with a value or a failure, unless it panics. -/
abbrev Call (σ : Type) := ExceptT Failure (Routine (Context σ))

namespace Call

variable {σ α : Type}

def ofAttempt (attempt : Attempt α) : Call σ α := ExceptT.mk (Routine.attempt attempt)

def ofRoutine (routine : Routine (Context σ) (Except Failure α)) : Call σ α := ExceptT.mk routine

/-- Looks at the outcome of a call instead of passing its failure on. -/
def outcome (call : Call σ α) : Call σ (Except Failure α) := ExceptT.lift call.run

def log (event : LogEvent) : Call σ Unit := ExceptT.lift (Routine.write event)

end Call

end TokenPersistence
