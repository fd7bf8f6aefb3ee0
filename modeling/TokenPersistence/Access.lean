import TokenPersistence.Hints

/-!
# Accesses

A host announces each access to one of its token collections. The access says which
collection is meant, which key the host suggests for its partition, and what has
happened to the collection. The hints of an access share its token and its sink, so
they follow whatever happens to these later; the rest they copy.
-/

namespace TokenPersistence

set_option autoImplicit false

/-- A host's collection of tokens, seen as something that can be written down and
filled again. Loading either replaces what is there or adds to it. -/
structure TokenCollection (σ : Type) where
  serialize : Call σ Bytes
  load : Bytes → Bool → Call σ Unit

structure Access (σ : Type) where
  collection : TokenCollection σ
  suggestedKey : String
  stateChanged : Bool
  hasTokens : Bool
  appCache : Bool
  cancellation : CancellationToken
  suggestedExpiry : Option Timestamp
  sink : Option LevelSink
  noSharedCacheReason : Option String

namespace Access

variable {σ : Type}

def hints (access : Access σ) : CallHints where
  cancellation := some access.cancellation
  suggestedExpiry := access.suggestedExpiry
  sink := access.sink
  disableMessage := access.noSharedCacheReason

def isCancelled (access : Access σ) (context : Context σ) : Bool :=
  context.isCancelled access.cancellation

def level (access : Access σ) (context : Context σ) : Option CacheLevel :=
  access.sink.map context.level

end Access

end TokenPersistence
