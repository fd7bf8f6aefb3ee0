import TokenPersistence.Failure
import TokenPersistence.HookKind
import TokenPersistence.Number.Seconds

/-!
# Log events

What the adapter and its stores report while they work. An event never holds the
bytes of a partition, only their number. Its name, its severity, its fields and its
estimates are functions of the event, so nothing that is logged can depend on anything
else. Estimates are fields too, but of numbers that a cache need not know exactly.
-/

namespace TokenPersistence

set_option autoImplicit false

inductive Severity where
  | debug
  | warn
  | error
  deriving DecidableEq, Repr

def Severity.name : Severity → String
  | debug => "DEBUG"
  | warn => "WARN"
  | error => "ERROR"

inductive SharedOperation where
  | read
  | write
  | refresh
  | remove
  deriving DecidableEq, Repr

def SharedOperation.name : SharedOperation → String
  | read => "read"
  | write => "write"
  | refresh => "refresh"
  | remove => "remove"

inductive NearAccess where
  | read
  | write
  | backPropagate
  deriving DecidableEq, Repr

def NearAccess.name : NearAccess → String
  | read => "read"
  | write => "write"
  | backPropagate => "back_propagate"

inductive LogEvent where
  | loaded (key : String) (size : Nat) (appCache : Bool)
  | persisted (key : String) (size : Nat) (appCache : Bool)
  | removed (key : String)
  | decryptFallback (failure : Failure)
  | loadRejected (key : String) (encrypted : Bool) (failure : Failure)
  | failureSuppressed (hook : HookKind) (failure : Failure)
  | observerPanicked (hook : HookKind) (report : String)
  | memoryRead (key : String) (hit : Bool)
  | nearAccess (access : NearAccess) (key : String) (size entries : Nat)
  | nearRemoved (key : String)
  | sharedDone (operation : SharedOperation) (key : String) (size : Nat) (retry : Bool)
      (duration : Duration)
  | sharedReadTime (duration : Duration)
  | backPropagated (key : String) (size : Nat)
  | sharedFailed (operation : SharedOperation) (retry : Bool) (failure : Failure)
  | sharedRetry (operation : SharedOperation) (key : String)
  deriving DecidableEq

inductive FieldValue where
  | text (value : String)
  | flag (value : Bool)
  | count (value : Nat)
  | number (value : Binary64)
  deriving DecidableEq, Repr

namespace LogEvent

def name : LogEvent → String
  | loaded .. => "token_cache.loaded"
  | persisted .. => "token_cache.persisted"
  | removed .. => "token_cache.removed"
  | decryptFallback .. => "token_cache.decrypt_fallback"
  | loadRejected .. => "token_cache.deserialize_failed"
  | failureSuppressed .. => "token_cache.failure_suppressed"
  | observerPanicked .. => "token_cache.observer_panicked"
  | memoryRead .. => "token_cache.memory.read"
  | nearAccess .. => "token_cache.l1.access"
  | nearRemoved .. => "token_cache.l1.removed"
  | sharedDone .. => "token_cache.l2.state"
  | sharedReadTime .. => "token_cache.l2.read_time"
  | backPropagated .. => "token_cache.l2.back_propagated"
  | sharedFailed .. => "token_cache.l2.failed"
  | sharedRetry .. => "token_cache.l2.retry"

def severity : LogEvent → Severity
  | loadRejected .. | sharedFailed .. => .error
  | failureSuppressed .. | observerPanicked .. => .warn
  | _ => .debug

def partitionFields (key : String) (size : Nat) : List (String × FieldValue) :=
  [("cache.key", .text key), ("cache.bytes", .count size)]

def fields : LogEvent → List (String × FieldValue)
  | loaded key size appCache => partitionFields key size ++ [("cache.app_cache", .flag appCache)]
  | persisted key size appCache =>
      partitionFields key size ++ [("cache.app_cache", .flag appCache)]
  | removed key => [("cache.key", .text key)]
  | decryptFallback failure =>
      [("error", .text failure.message),
        ("message", .text "payload could not be decrypted, treating it as plaintext")]
  | loadRejected key encrypted failure =>
      [("cache.key", .text key), ("cache.encryption_enabled", .flag encrypted),
        ("error", .text failure.message)]
  | failureSuppressed hook failure =>
      [("cache.hook", .text hook.name), ("error", .text failure.message)]
  | observerPanicked hook report => [("cache.hook", .text hook.name), ("error", .text report)]
  | memoryRead key hit => [("cache.key", .text key), ("cache.hit", .flag hit)]
  | nearAccess access key size _ =>
      ("cache.operation", .text access.name) :: partitionFields key size
  | nearRemoved key => [("cache.key", .text key)]
  | sharedDone operation key size retry duration =>
      ("cache.operation", .text operation.name) :: partitionFields key size ++
        [("cache.retry", .flag retry), ("cache.duration_ms", .number duration.toMillis)]
  | sharedReadTime duration => [("cache.duration_ms", .number duration.toMillis)]
  | backPropagated key size => partitionFields key size
  | sharedFailed operation retry failure =>
      [("cache.operation", .text operation.name), ("cache.retry", .flag retry),
        ("error", .text failure.message)]
  | sharedRetry operation key =>
      [("cache.operation", .text operation.name), ("cache.key", .text key)]

def estimates : LogEvent → List (String × FieldValue)
  | nearAccess _ _ _ entries => [("cache.entries", .count entries)]
  | _ => []

end LogEvent

end TokenPersistence
