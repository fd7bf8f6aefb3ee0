import TokenPersistence.Adapter
import TokenPersistence.Proofs.Routine.Closed

/-!
# What hooks have from their parts

A hook has every closed property that the parts have which it calls for an access: the
collection, the source of nonces, and, at the key that the access is given, the store and
the lock. A hook under safe wiring has it if the observer does as well.
-/

namespace TokenPersistence

set_option autoImplicit false

variable {σ : Type} {property : (α : Type) → Routine (Context σ) α → Prop}

namespace Adapter

def Serves (adapter : Adapter σ) (access : Access σ) (key : String) : Prop :=
  adapter.key access = .returned key ∧ key.isEmpty = false

/-- All that the adapter calls for the access has the property. -/
structure PartsHave (property : (α : Type) → Routine (Context σ) α → Prop)
    (adapter : Adapter σ) (access : Access σ) : Prop where
  draw : property Nonce (Routine.step Context.drawNonce)
  serialize : property _ access.collection.serialize.run
  load : ∀ plaintext, property _ (access.collection.load plaintext true).run
  read : ∀ key, adapter.Serves access key → property _ (adapter.store.read key access.hints).run
  write : ∀ key payload, adapter.Serves access key →
    property _ (adapter.store.write key payload access.hints).run
  remove : ∀ key, adapter.Serves access key →
    property _ (adapter.store.remove key access.hints).run
  lock : ∀ lock, adapter.lock = some lock → ∀ key, adapter.Serves access key →
    property _ (lock.lock key).run
  unlock : ∀ lock, adapter.lock = some lock → ∀ key, adapter.Serves access key →
    property _ (lock.unlock key).run

end Adapter

namespace Routine.Closed

theorem unprotect (closed : Closed property) (protector : Protector) (payload : Bytes) :
    property _ (protector.unprotect payload : Call σ Bytes).run := by
  unfold Protector.unprotect
  cases protector.encryptor with
  | none => exact closed.done (Except.ok payload)
  | some encryptor =>
      dsimp only
      cases encryptor.unprotect payload with
      | returned plaintext => exact closed.done (Except.ok plaintext)
      | failed failure =>
          exact closed.andThen (closed.log _) fun _ => closed.done (Except.ok payload)
      | panicked panic => exact closed.panic panic

theorem protect (closed : Closed property)
    (draw : property Nonce (Routine.step Context.drawNonce)) (protector : Protector)
    (plaintext : Bytes) : property _ (protector.protect plaintext : Call σ Bytes).run := by
  unfold Protector.protect
  cases protector.encryptor with
  | none => exact closed.done (Except.ok plaintext)
  | some encryptor =>
      apply closed.andThen (closed.lift draw)
      intro nonce
      cases encryptor.protect nonce plaintext with
      | returned payload => exact closed.done (Except.ok payload)
      | failed failure => exact closed.done (Except.error failure)
      | panicked panic => exact closed.panic panic

end Routine.Closed

namespace Adapter.PartsHave

variable {adapter : Adapter σ} {access : Access σ}

theorem load_hook (parts : adapter.PartsHave property access)
    (closed : Routine.Closed property) (key : String) (plaintext : Bytes) :
    property _ (adapter.load key access plaintext).run := by
  apply closed.andThen (closed.outcome (parts.load plaintext))
  intro outcome
  cases outcome with
  | ok loaded => exact closed.log _
  | error failure =>
      exact closed.andThen (closed.log _) fun _ => closed.done (Except.error failure)

theorem before_access (parts : adapter.PartsHave property access)
    (closed : Routine.Closed property) : property _ (adapter.beforeAccess access).run := by
  apply closed.attempt
  intro key provided
  split
  · exact closed.done (Except.ok ())
  · next keyed =>
      apply closed.andThen (parts.read key ⟨provided, Bool.not_eq_true _ ▸ keyed⟩)
      intro payload
      apply closed.andThen (closed.unprotect adapter.protector _)
      exact parts.load_hook closed key

theorem persist (parts : adapter.PartsHave property access) (closed : Routine.Closed property)
    {key : String} (serves : adapter.Serves access key) :
    property _ (adapter.persist key access).run := by
  unfold Adapter.persist
  split
  · exact closed.done (Except.ok ())
  · split
    · apply closed.andThen parts.serialize
      intro plaintext
      apply closed.andThen (closed.protect parts.draw adapter.protector plaintext)
      intro payload
      exact closed.andThen (parts.write key payload serves) fun _ => closed.log _
    · exact closed.andThen (parts.remove key serves) fun _ => closed.log _

theorem unlock_hook (parts : adapter.PartsHave property access)
    (closed : Routine.Closed property) {key : String} (serves : adapter.Serves access key) :
    property _ (adapter.unlock key).run := by
  unfold Adapter.unlock
  cases present : adapter.lock with
  | none => exact closed.done (Except.ok ())
  | some lock => exact parts.unlock lock present key serves

theorem after_access (parts : adapter.PartsHave property access)
    (closed : Routine.Closed property) : property _ (adapter.afterAccess access).run := by
  unfold Adapter.afterAccess
  split
  · exact closed.done (Except.ok ())
  · apply closed.attempt
    intro key provided
    split
    · exact closed.done (Except.ok ())
    · next keyed =>
        have serves : adapter.Serves access key := ⟨provided, Bool.not_eq_true _ ▸ keyed⟩
        apply closed.andThen (closed.outcome (parts.persist closed serves))
        intro persisted
        apply closed.andThen (closed.outcome (parts.unlock_hook closed serves))
        intro unlocked
        cases persisted with
        | ok done => exact closed.done unlocked
        | error failure => exact closed.done (Except.error failure)

theorem before_write (parts : adapter.PartsHave property access)
    (closed : Routine.Closed property) : property _ (adapter.beforeWrite access).run := by
  unfold Adapter.beforeWrite
  cases present : adapter.lock with
  | none => exact closed.done (Except.ok ())
  | some lock =>
      apply closed.attempt
      intro key provided
      split
      · exact closed.done (Except.ok ())
      · next keyed => exact parts.lock lock present key ⟨provided, Bool.not_eq_true _ ▸ keyed⟩

theorem hook (parts : adapter.PartsHave property access) (closed : Routine.Closed property)
    (kind : HookKind) : property _ (adapter.hooks.hook kind access).run := by
  cases kind with
  | beforeAccess => exact parts.before_access closed
  | afterAccess => exact parts.after_access closed
  | beforeWrite => exact parts.before_write closed

theorem safe_hook (parts : adapter.PartsHave property access)
    (closed : Routine.Closed property)
    (observes : ∀ observer, adapter.observer = some observer → ∀ failed,
      property Unit (observer failed)) (kind : HookKind) :
    property _ (adapter.safeHooks.hook kind access).run := by
  unfold Adapter.safeHooks SafeWiring.wrapAll
  rw [AccessHooks.hook_of_kinds]
  apply closed.lift
  apply closed.bind (closed.catchPanic (parts.hook closed kind))
  intro ended
  cases hookFailure? ended with
  | none => exact closed.done ()
  | some failure =>
      apply closed.bind (closed.write _)
      intro _
      unfold SafeWiring.notify
      cases present : adapter.observer with
      | none => exact closed.done ()
      | some observer =>
          apply closed.bind (closed.catchPanic (observes observer present _))
          intro told
          cases told with
          | ok done => exact closed.done ()
          | error panic => exact closed.write _

end Adapter.PartsHave

end TokenPersistence
