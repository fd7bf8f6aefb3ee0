import TokenPersistence.Proofs.Adapter.PersistSteps
import TokenPersistence.Proofs.Adapter.Release

/-!
# One change at most

The hook after an access calls the store once if everything before that call goes well, and
otherwise not at all; what is reported of the change, and the outcome of the hook, follow
from the first step that fails. Giving the lock back comes last: it is no call of the
store, and its failure counts only if persisting went well.
-/

namespace TokenPersistence

set_option autoImplicit false

variable {σ ρ : Type}

namespace AdapterParts

variable {parts : AdapterParts σ ρ} {access : Access σ} {name : String} {start : Context σ}

section Hook

variable (parts access name start)

/-- What a run of the hook comes to: whether the store was called, what was reported of it,
and which failure is the outcome. -/
structure Accounts (made : List PartCall) (result : Except Failure Unit)
    (told : List LogEvent) : Prop where
  store : ((∀ call before, ¬ parts.Due access name start call before) ∧
      made.filter PartCall.onStore = []) ∨
    ∃ call before, parts.Due access name start call before ∧
      made.filter PartCall.onStore = [call]
  told : ∀ event, event ∈ told ↔ ∃ call before, parts.Due access name start call before ∧
    parts.Succeeds call before ∧ event ∈ call.announcement access.appCache
  failure : ∀ failure, result = .error failure ↔
    ∃ step, parts.FailsFirst access name start step failure

end Hook

end AdapterParts

namespace Rehearsal

end Rehearsal

end TokenPersistence
