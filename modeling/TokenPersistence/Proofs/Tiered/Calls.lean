import TokenPersistence.Proofs.Routine.Returns
import TokenPersistence.Tiered.Store

/-!
# The parts of calls

A call on a tiered store has a half in memory and a half in the shared cache. An
operation of the shared cache is carried out once or twice, between looks at the clock
and with a question to the retry predicate in between. The caller keeps a condition
while this goes on: it has to hold at the start, survive every attempt and every answer
of the predicate, and imply that the clock works. Then the call ends; an operation that
it reports as done has had its effect, and any other has failed at every attempt.
-/

namespace TokenPersistence

set_option autoImplicit false

variable {σ α : Type}

namespace TieredStore

theorem parts_of_build {store : TieredStore σ} {l1 : ByteCacheCell σ} {l2 : SharedCache σ}
    {options : TieredOptions} {retry : Option (RetryPredicate σ)} {spawner : Option (Spawner σ)}
    (built : build l1 l2 options retry spawner = .ok (.ok store)) :
    options.validate = .ok () ∧ ∃ l1Lifetime, options.l1Lifetime = .ok l1Lifetime ∧
      store =
        { l1 := if options.l1Disabled then none else some l1
          l1Lifetime, l2, options, retry, spawner } := by
  unfold build at built
  cases valid : options.validate with
  | error problem =>
      simp only [valid] at built
      cases built
  | ok checked =>
      simp only [valid] at built
      split at built
      · cases built
      · cases lifetime : options.l1Lifetime with
        | error panic =>
            simp only [lifetime] at built
            cases built
        | ok l1Lifetime =>
            simp only [lifetime] at built
            cases built
            exact ⟨rfl, l1Lifetime, rfl, rfl⟩

theorem options_of_build {store : TieredStore σ} {l1 : ByteCacheCell σ} {l2 : SharedCache σ}
    {options : TieredOptions} {retry : Option (RetryPredicate σ)} {spawner : Option (Spawner σ)}
    (built : build l1 l2 options retry spawner = .ok (.ok store)) :
    store.options = options := by
  obtain ⟨_, _, _, rfl⟩ := parts_of_build built
  rfl

theorem lifetime_of_build {store : TieredStore σ} {l1 : ByteCacheCell σ} {l2 : SharedCache σ}
    {options : TieredOptions} {retry : Option (RetryPredicate σ)} {spawner : Option (Spawner σ)}
    (built : build l1 l2 options retry spawner = .ok (.ok store))
    (expires : options.relative.isSome = true) :
    ∃ lifetime, options.l1Lifetime = .ok (some lifetime) ∧ store.l1Lifetime = some lifetime := by
  obtain ⟨valid, l1Lifetime, computed, rfl⟩ := parts_of_build built
  obtain ⟨relative, given⟩ := Option.isSome_iff_exists.mp expires
  have proper : options.hasValidShare = true := by
    cases share : options.hasValidShare with
    | true => rfl
    | false => simp [TieredOptions.validate, given, share] at valid
  have scaled := computed
  unfold TieredOptions.l1Lifetime at scaled
  simp only [given, proper, if_true] at scaled
  cases scale : relative.scale? options.l1Share with
  | none =>
      simp only [scale] at scaled
      cases scaled
  | some lifetime =>
      simp only [scale, Except.ok.injEq] at scaled
      exact ⟨lifetime, computed.trans (congrArg Except.ok scaled.symm), scaled.symm⟩

/-- An attempt at the operation keeps the condition, and a value means the effect. -/
def Keeps (work : Call σ α) (during : Context σ → Prop) (effect : α → Context σ → Prop) :
    Prop :=
  ∀ now, during now → work.run.Returns now fun outcome after =>
    during after ∧ ∀ value, outcome = .ok value → effect value after

def RetryKeeps (store : TieredStore σ) (during : Context σ → Prop) : Prop :=
  ∀ failure now, during now →
    (store.shouldRetry failure).Returns now fun _ after => during after

/-- The operation succeeds, at once or in the attempt that a failure is given. -/
def Succeeds (store : TieredStore σ) (work : Call σ α) (start : Context σ) : Prop :=
  work.run.Returns start fun first between =>
    ∀ failure, first = .error failure →
      (store.shouldRetry failure).Returns between fun again asked =>
        again = true ∧ work.run.Returns asked fun second _ => ∃ value, second = .ok value

/-- The operation fails in every attempt that it is given. -/
def Fails (store : TieredStore σ) (work : Call σ α) (start : Context σ) : Prop :=
  work.run.Returns start fun first between =>
    ∃ failure, first = .error failure ∧
      (store.shouldRetry failure).Returns between fun again asked =>
        again = true → work.run.Returns asked fun second _ => ∃ reason, second = .error reason

theorem Succeeds.not_fails {store : TieredStore σ} {work : Call σ α} {start : Context σ}
    (succeeds : store.Succeeds work start) : ¬ store.Fails work start := by
  intro fails
  obtain ⟨first, _, onFailure, failure, failed, asks⟩ := succeeds.and fails
  obtain ⟨again, _, ⟨retried, secondSucceeds⟩, secondFails⟩ :=
    (onFailure failure failed).and asks
  obtain ⟨second, _, done, failedAgain⟩ := secondSucceeds.and (secondFails retried)
  obtain ⟨value, done⟩ := done
  obtain ⟨reason, failedAgain⟩ := failedAgain
  rw [done] at failedAgain
  cases failedAgain

theorem returns_attempt_shared (operation : SharedOperation) (key : String) (size : α → Nat)
    (retry : Bool) (work : Call σ α) (start : Context σ)
    (post : Except Failure α → Context σ → Prop) (clock : start.clockIsBroken = false)
    (returns : work.run.Returns start fun outcome after =>
      after.clockIsBroken = false ∧ post outcome after) :
    (attemptShared operation key size retry work).Returns start post := by
  unfold attemptShared
  simp only [Routine.returns_bind, Routine.returns_timed]
  refine ⟨clock, returns.imp ?_⟩
  intro outcome after worked
  obtain ⟨ticks, holds⟩ := worked
  refine ⟨ticks, ?_⟩
  cases outcome with
  | ok value => simpa using holds
  | error failure => simpa using holds

/-- The condition holds after the call. An operation that is reported as done in one of the
attempts has had its effect; one that is not has failed in all of them. -/
theorem returns_call_shared (store : TieredStore σ) (operation : SharedOperation)
    (key : String) (size : α → Nat) (work : Call σ α) (during : Context σ → Prop)
    (effect : α → Context σ → Prop)
    (ticks : ∀ now, during now → now.clockIsBroken = false)
    (retryKeeps : store.RetryKeeps during) (keeps : Keeps work during effect)
    (start : Context σ) (holds : during start) :
    (store.callShared operation key size work).Returns start fun answer after =>
      during after ∧ (∀ value, answer = some value → effect value after) ∧
        (answer = none → store.Fails work start) := by
  obtain ⟨first, firstEnds, keptFirst, firstEffect⟩ := keeps start holds
  unfold callShared
  rw [Routine.returns_bind]
  apply returns_attempt_shared _ _ _ _ _ _ _ (ticks start holds)
  refine ⟨first, firstEnds, ticks _ keptFirst, ?_⟩
  cases first with
  | ok value => simpa using ⟨keptFirst, firstEffect value rfl⟩
  | error failure =>
      obtain ⟨again, asked, keptAsked⟩ := retryKeeps failure _ keptFirst
      rw [Routine.returns_bind]
      refine ⟨again, asked, ?_⟩
      cases again with
      | false =>
          have fails : store.Fails work start :=
            ⟨_, firstEnds, failure, rfl, false, asked, fun retried => by cases retried⟩
          simpa using ⟨keptAsked, fails⟩
      | true =>
          obtain ⟨second, secondEnds, keptSecond, secondEffect⟩ := keeps _ keptAsked
          simp only [if_true, Routine.returns_bind, Routine.returns_write]
          apply returns_attempt_shared _ _ _ _ _ _ _ (ticks _ keptAsked)
          refine ⟨second, secondEnds, ticks _ keptSecond, ?_⟩
          cases second with
          | ok value => simpa using ⟨keptSecond, secondEffect value rfl⟩
          | error reason =>
              have fails : store.Fails work start :=
                ⟨_, firstEnds, failure, rfl, true, asked, fun _ => ⟨_, secondEnds, reason, rfl⟩⟩
              simpa using ⟨keptSecond, fails⟩

theorem returns_call_shared_ok (store : TieredStore σ) (operation : SharedOperation)
    (key : String) (size : α → Nat) (work : Call σ α) (start : Context σ)
    (effect : α → Context σ → Prop) (clock : start.clockIsBroken = false)
    (succeeds : work.run.Returns start fun outcome after =>
      after.clockIsBroken = false ∧ ∃ value, outcome = .ok value ∧ effect value after) :
    (store.callShared operation key size work).Returns start fun answer after =>
      ∃ value, answer = some value ∧ effect value after := by
  unfold callShared
  rw [Routine.returns_bind]
  apply returns_attempt_shared _ _ _ _ _ _ _ clock
  apply succeeds.imp
  intro outcome after worked
  obtain ⟨ticks, value, done, holds⟩ := worked
  subst done
  simpa using ⟨ticks, holds⟩

theorem returns_current_l1_expiry_within (store : TieredStore σ) (hints : CallHints)
    (now : Context σ) (clock : now.clockIsBroken = false) :
    (store.currentL1Expiry hints).Returns now fun expiry after =>
      after = now ∧ ∀ lifetime, store.l1Lifetime = some lifetime →
        ∃ shorter, expiry = some shorter ∧ shorter.nanos ≤ lifetime.nanos := by
  unfold currentL1Expiry l1Expiry
  cases store.deadline? hints with
  | none =>
      rw [Routine.returns_pure]
      exact ⟨rfl, fun lifetime copies => ⟨lifetime, copies, Nat.le_refl _⟩⟩
  | some deadline =>
      rw [Context.returns_with_clock, Routine.returns_pure]
      refine ⟨clock, rfl, ?_⟩
      intro lifetime copies
      refine ⟨(deadline.remaining now.now).shorter lifetime, by simp [copies], ?_⟩
      rw [Duration.nanos_shorter]
      exact Nat.min_le_right _ _

theorem returns_current_l1_expiry (store : TieredStore σ) (hints : CallHints)
    (now : Context σ) (clock : now.clockIsBroken = false) :
    (store.currentL1Expiry hints).Returns now fun _ after => after = now :=
  (returns_current_l1_expiry_within store hints now clock).imp fun _ _ read => read.1

def lookNear (store : TieredStore σ) (key : String) : Routine (Context σ) (Option Bytes) :=
  match store.l1 with
  | none => pure none
  | some l1 => l1.lookup key

def removeNear (store : TieredStore σ) (key : String) : Routine (Context σ) Unit :=
  match store.l1 with
  | none => pure ()
  | some l1 => do
      l1.erase key
      Routine.write (.nearRemoved key)

def keepAnswer (store : TieredStore σ) (key : String) (hints : CallHints)
    (timed : Timed (Option (Option Bytes))) : Routine (Context σ) (Option Bytes) := do
  Routine.write (.sharedReadTime timed.duration)
  match timed.value.join with
  | none => pure none
  | some bytes => do
      hints.reportLevel .l2
      match store.l1 with
      | none => pure (some bytes)
      | some l1 => do
          Routine.write (.backPropagated key bytes.length)
          l1.insert key bytes store.l1Lifetime
          l1.logAccess .backPropagate key bytes.length
          pure (some bytes)

theorem read_shared_eq (store : TieredStore σ) (key : String) (hints : CallHints) :
    store.readShared key hints =
      (store.callShared .read key foundSize (store.l2.get key)).timed >>=
        store.keepAnswer key hints := rfl

theorem remove_levels_eq (store : TieredStore σ) (key : String) :
    store.removeLevels key = store.removeNear key >>= fun _ =>
      Functor.discard (store.callShared .remove key (fun _ => 0) (store.l2.remove key)) := by
  unfold removeLevels removeNear
  cases store.l1 <;> rfl

theorem write_levels_eq (store : TieredStore σ) (key : String) (bytes : Bytes)
    (hints : CallHints) (waits : store.options.writesInBackground = false) :
    store.writeLevels key bytes hints = store.writeNear key bytes hints >>= fun _ =>
      store.writeShared ⟨key, bytes, store.entryOptions hints⟩ := by
  unfold writeLevels
  cases store.spawner with
  | none => rfl
  | some spawner => simp [waits]

theorem write_levels_spawned (store : TieredStore σ) (key : String) (bytes : Bytes)
    (hints : CallHints) (spawner : Spawner σ) (spawns : store.spawner = some spawner)
    (later : store.options.writesInBackground = true) :
    store.writeLevels key bytes hints = store.writeNear key bytes hints >>= fun _ =>
      spawner ⟨key, bytes, store.entryOptions hints⟩ := by
  unfold writeLevels
  simp only [spawns, later, if_true]

end TieredStore

end TokenPersistence
