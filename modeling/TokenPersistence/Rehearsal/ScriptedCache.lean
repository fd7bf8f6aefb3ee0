import TokenPersistence.Rehearsal.RecordingCache

/-!
# A shared cache with a script

For rehearsals: a recording cache whose next calls can be told to let time pass, to
cancel a token, to stay pending for some polls or for good, to panic, or to fail. A
call that is to fail does not reach the recording cache.
-/

namespace TokenPersistence.Rehearsal

set_option autoImplicit false

structure Behaviour where
  advance : Option Duration
  cancel : Option CancellationToken
  pauses : Nat
  hangs : Bool
  panics : Bool
  failure : Option Failure
  deriving DecidableEq

structure ScriptedCache where
  calls : List SharedCall
  script : List Behaviour
  cache : RecordingCache

namespace ScriptedCache

variable {σ α : Type}

def ofTable (data : Table) : ScriptedCache := ⟨[], [], RecordingCache.ofTable data⟩

instance : Inhabited ScriptedCache := ⟨ofTable Table.empty⟩

def register (call : SharedCall) (state : ScriptedCache) : Option Behaviour × ScriptedCache :=
  (state.script.head?,
    { state with calls := state.calls ++ [call], script := state.script.tail })

def recording : Cell ScriptedCache RecordingCache where
  get state := state.cache
  put cache state := { state with cache }

def act (behaviour : Behaviour) (call : Call σ α) : Call σ α := ExceptT.mk do
  match behaviour.advance with
  | some duration => Context.letPass duration
  | none => pure ()
  match behaviour.cancel with
  | some token => Routine.modify fun context => context.cancel token
  | none => pure ()
  Routine.pauses behaviour.pauses
  if behaviour.hangs then Routine.hang
  else if behaviour.panics then .panic (.message "mock: l2 panicked")
  else
    match behaviour.failure with
    | some failure => pure (.error failure)
    | none => call.run

def perform (cell : Cell σ ScriptedCache) (call : SharedCall)
    (transition : RecordingCache → Except Failure α × RecordingCache) : Call σ α :=
  ExceptT.mk do
    let carriedOut : Call σ α := ExceptT.mk ((cell.inside recording).step transition)
    match ← cell.step (register call) with
    | some behaviour => (act behaviour carriedOut).run
    | none => carriedOut.run

def toSharedCache (cell : Cell σ ScriptedCache) : SharedCache σ where
  get key := perform cell (.get key) (RecordingCache.get key)
  set key bytes options :=
    perform cell (.set key bytes options) (RecordingCache.set key bytes options)
  refresh key := perform cell (.refresh key) (RecordingCache.refresh key)
  remove key := perform cell (.remove key) (RecordingCache.remove key)

end ScriptedCache

end TokenPersistence.Rehearsal
