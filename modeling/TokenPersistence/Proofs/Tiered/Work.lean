import TokenPersistence.Proofs.Routine.Races
import TokenPersistence.Proofs.Tiered.Conduct

/-!
# The work of a call

A call on a tiered store is a race of its work against the token of the hints. The work goes
through the levels, and has no failure of its own.
-/

namespace TokenPersistence

set_option autoImplicit false

variable {σ : Type}

def StoreCall.activity : StoreCall → Activity
  | read _ => .read
  | write .. => .write
  | remove _ => .remove

namespace TieredStore

def levels (store : TieredStore σ) (hints : CallHints) :
    StoreCall → Routine (Context σ) (Option Bytes)
  | .read key => store.readLevels key hints
  | .write key bytes => (store.writeLevels key bytes hints).bind fun _ => .done none
  | .remove key => (store.removeLevels key).bind fun _ => .done none

def work (store : TieredStore σ) (hints : CallHints) (call : StoreCall) :
    Call σ (Option Bytes) :=
  ExceptT.lift (store.levels hints call)

theorem answerless_race (hints : CallHints) (during : Activity)
    (levels : Routine (Context σ) Unit) :
    (hints.cancellable during (ExceptT.lift levels)).run.bind
        (fun outcome => .done (outcome.map fun _ => none)) =
      (hints.cancellable during
        (ExceptT.lift (levels.bind fun _ => .done (none : Option Bytes)))).run := by
  have mapped : (ExceptT.lift levels : Call σ Unit).run.bind
        (fun outcome => .done (outcome.map fun _ => (none : Option Bytes))) =
      (ExceptT.lift (levels.bind fun _ => .done none) : Call σ (Option Bytes)).run := by
    change (levels.bind fun value => .done (Except.ok value)).bind _ =
      (levels.bind fun _ => .done none).bind fun value => .done (Except.ok value)
    rw [Routine.bind_assoc, Routine.bind_assoc]
    rfl
  change Routine.get (fun now => Routine.bind (if hints.isCancelled now then _ else _) _) = _
  apply congrArg Routine.get
  funext now
  rw [← mapped]
  split
  · rfl
  · exact Routine.unless_stopped_map _ _ _ _

theorem perform_eq_race (store : TieredStore σ) (hints : CallHints) (call : StoreCall) :
    store.perform hints call =
      (hints.cancellable call.activity (store.work hints call)).run := by
  cases call with
  | read key => rfl
  | write key bytes => exact answerless_race hints .write (store.writeLevels key bytes hints)
  | remove key => exact answerless_race hints .remove (store.removeLevels key)

theorem poll_perform_refused (store : TieredStore σ) (hints : CallHints) (call : StoreCall)
    {now : Context σ} (cancelled : hints.isCancelled now = true) :
    (store.perform hints call).poll now =
      ⟨.returned (.error (Failure.cancelled call.activity)), now, []⟩ := by
  rw [perform_eq_race]
  exact hints.poll_refused call.activity _ cancelled

end TieredStore

end TokenPersistence
