import TokenPersistence.Rehearsal.Parts
import TokenPersistence.Rehearsal.RecordingCollection
import TokenPersistence.Rehearsal.RecordingStore
import TokenPersistence.Rehearsal.ScriptedCache

/-!
# The bench

The data of a rehearsal: one scripted shared cache, any number of named token
collections, and for each node what its store, its lock, its observer, its retry
predicate and its spawner keep.
-/

namespace TokenPersistence.Rehearsal

set_option autoImplicit false

inductive Wiring where
  | strict
  | safe
  deriving DecidableEq, Repr

structure NodeData where
  store : RecordingStore
  cache : ByteCache
  locks : List LockCall
  failures : List HookFailure
  retries : List Activity
  queue : List BackgroundWrite
  wiring : Option Wiring

instance : Inhabited NodeData := ⟨⟨default, default, [], [], [], [], none⟩⟩

structure Bench where
  shared : ScriptedCache
  collections : String → RecordingCollection
  nodes : Nat → NodeData

namespace Bench

def sharedCell : Cell Bench ScriptedCache where
  get bench := bench.shared
  put shared bench := { bench with shared }

def collectionsCell : Cell Bench (String → RecordingCollection) where
  get bench := bench.collections
  put collections bench := { bench with collections }

def nodesCell : Cell Bench (Nat → NodeData) where
  get bench := bench.nodes
  put nodes bench := { bench with nodes }

def collection (name : String) : Cell Bench RecordingCollection :=
  collectionsCell.inside (Cell.member name)

def node (index : Nat) : Cell Bench NodeData := nodesCell.inside (Cell.member index)

end Bench

namespace NodeData

def storeCell : Cell NodeData RecordingStore where
  get data := data.store
  put store data := { data with store }

def cacheCell : Cell NodeData ByteCache where
  get data := data.cache
  put cache data := { data with cache }

def locksCell : Cell NodeData (List LockCall) where
  get data := data.locks
  put locks data := { data with locks }

def failuresCell : Cell NodeData (List HookFailure) where
  get data := data.failures
  put failures data := { data with failures }

def retriesCell : Cell NodeData (List Activity) where
  get data := data.retries
  put retries data := { data with retries }

def queueCell : Cell NodeData (List BackgroundWrite) where
  get data := data.queue
  put queue data := { data with queue }

def wiringCell : Cell NodeData (Option Wiring) where
  get data := data.wiring
  put wiring data := { data with wiring }

end NodeData

def tokenLabel : Option String → String
  | some name => "token " ++ name
  | none => "unnamed"

def namedToken (name : String) : CancellationToken := CancellationToken.named (tokenLabel (some name))

structure AccessPlan where
  key : String
  collection : String
  stateChanged : Bool
  hasTokens : Bool
  appCache : Bool
  expiry : Option Timestamp
  sink : Option String
  cancel : Option String
  reason : Option String
  deriving DecidableEq

def AccessPlan.toAccess (plan : AccessPlan) : Access Bench where
  collection := RecordingCollection.toCollection (Bench.collection plan.collection)
  suggestedKey := plan.key
  stateChanged := plan.stateChanged
  hasTokens := plan.hasTokens
  appCache := plan.appCache
  cancellation := CancellationToken.named (tokenLabel plan.cancel)
  suggestedExpiry := plan.expiry
  sink := plan.sink.map LevelSink.mk
  noSharedCacheReason := plan.reason

structure HintsPlan where
  expiry : Option Timestamp
  sink : Option String
  cancel : Option String
  disable : Option String
  deriving DecidableEq

def HintsPlan.toHints (plan : HintsPlan) : CallHints where
  cancellation := plan.cancel.map namedToken
  suggestedExpiry := plan.expiry
  sink := plan.sink.map LevelSink.mk
  disableMessage := plan.disable

def hintsOf (plan : Option HintsPlan) : CallHints :=
  (plan.map HintsPlan.toHints).getD CallHints.none

end TokenPersistence.Rehearsal
