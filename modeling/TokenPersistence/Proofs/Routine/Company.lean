import TokenPersistence.Hints
import TokenPersistence.Timed

/-!
# Routines in company

While a routine is suspended others may change the state, within a relation that they
keep to. In return the routine makes a promise for every poll, given the state in which
the poll begins: a condition on the state in which the poll leaves it pending, and one on
the value and the state with which the poll ends it. The promise is pushed through a
routine from its end to its start, like a condition on its runs, and the rules for the
ways of putting routines together say what this comes to. A single poll then does what
was promised, and leaves a routine that goes on doing so.
-/

namespace TokenPersistence

set_option autoImplicit false

variable {σ α β : Type}

namespace Routine

/-- What a poll owes, whether it leaves the routine pending or ends it. -/
structure Terms (σ α : Type) where
  pending : σ → Prop
  ended : α → σ → Prop

namespace Terms

/-- The same while pending, and another condition at the end. -/
def withEnd (terms : Terms σ β) (ended : α → σ → Prop) : Terms σ α := ⟨terms.pending, ended⟩

structure Implies (first second : Terms σ α) : Prop where
  pending : ∀ now, first.pending now → second.pending now
  ended : ∀ value now, first.ended value now → second.ended value now

/-- A routine that is dropped while pending may end with the value instead. -/
def Excuse (terms : Terms σ α) (instead : α) : Prop :=
  ∀ now, terms.pending now → terms.ended instead now

end Terms

/-- In the middle of a poll the routine keeps the terms of that poll, and then its promise
for every later one, as long as the others keep to their relation in between. -/
def Amid (others : σ → σ → Prop) (promise : σ → Terms σ α) :
    Routine σ α → Terms σ α → σ → Prop
  | done value, terms, now => terms.ended value now
  | panic _, _, _ => False
  | get next, terms, now => (next now).Amid others promise terms now
  | set state next, terms, _ => next.Amid others promise terms state
  | log _ next, terms, now => next.Amid others promise terms now
  | pause next, terms, now =>
      terms.pending now ∧
        ∀ later, others now later → next.Amid others promise (promise later) later
  | wait ready next, terms, now =>
      if ready now then next.Amid others promise terms now
      else terms.pending now ∧ ∀ later, others now later → ready later = true →
        next.Amid others promise (promise later) later

variable {others : σ → σ → Prop} {promise : σ → Terms σ α} {terms : Terms σ α}

@[simp] theorem amid_done (value : α) (now : σ) :
    (done value).Amid others promise terms now ↔ terms.ended value now := Iff.rfl

@[simp] theorem amid_pure (value : α) (now : σ) :
    (pure value : Routine σ α).Amid others promise terms now ↔ terms.ended value now := Iff.rfl

@[simp] theorem amid_step (transition : σ → α × σ) (now : σ) :
    (step transition).Amid others promise terms now ↔
      terms.ended (transition now).1 (transition now).2 := Iff.rfl

@[simp] theorem amid_write {promise : σ → Terms σ Unit} {terms : Terms σ Unit}
    (event : LogEvent) (now : σ) :
    (write event).Amid others promise terms now ↔ terms.ended () now := Iff.rfl

@[simp] theorem amid_modify {promise : σ → Terms σ Unit} {terms : Terms σ Unit}
    (change : σ → σ) (now : σ) :
    (modify change).Amid others promise terms now ↔ terms.ended () (change now) := Iff.rfl

/-- What is left to show at the end of a routine, when another one follows on it in the
same poll. -/
def Onward (others : σ → σ → Prop) (promise : σ → Terms σ β) (continuation : α → Routine σ β)
    (terms : Terms σ β) : Terms σ α :=
  terms.withEnd fun value now => (continuation value).Amid others promise terms now

@[simp] theorem amid_bind {promise : σ → Terms σ β} {terms : Terms σ β}
    (routine : Routine σ α) (continuation : α → Routine σ β) (now : σ) :
    (routine >>= continuation).Amid others promise terms now ↔
      routine.Amid others (fun begun => Onward others promise continuation (promise begun))
        (Onward others promise continuation terms) now := by
  rw [bind_eq]
  induction routine generalizing terms now with
  | done value => rfl
  | panic payload => rfl
  | get next ih => exact ih now now
  | set state next ih => exact ih state
  | log event next ih => exact ih now
  | pause next ih => simp only [bind, Amid, ih, Onward, Terms.withEnd]
  | wait ready next ih => simp only [bind, Amid, ih, Onward, Terms.withEnd]

@[simp] theorem amid_discard {promise : σ → Terms σ Unit} {terms : Terms σ Unit}
    (routine : Routine σ α) (now : σ) :
    (Functor.discard routine : Routine σ Unit).Amid others promise terms now ↔
      routine.Amid others (fun begun => (promise begun).withEnd fun _ => (promise begun).ended ())
        (terms.withEnd fun _ => terms.ended ()) now := by
  change (routine >>= fun _ => pure ()).Amid others promise terms now ↔ _
  rw [amid_bind]
  rfl

/-- Fewer changes by others, and weaker terms. -/
theorem Amid.imp {fewer : σ → σ → Prop} {weaker : σ → Terms σ α} {weakerTerms : Terms σ α}
    {routine : Routine σ α} {now : σ} (amid : routine.Amid others promise terms now)
    (company : ∀ before after, fewer before after → others before after)
    (promises : ∀ begun, (promise begun).Implies (weaker begun))
    (implies : terms.Implies weakerTerms) :
    routine.Amid fewer weaker weakerTerms now := by
  induction routine generalizing terms weakerTerms now with
  | done value => exact implies.ended value now amid
  | panic payload => exact amid
  | get next ih => exact ih now amid implies
  | set state next ih => exact ih amid implies
  | log event next ih => exact ih amid implies
  | pause next ih =>
      obtain ⟨pending, resumed⟩ := amid
      refine ⟨implies.pending now pending, ?_⟩
      intro later changed
      exact ih (resumed later (company now later changed)) (promises later)
  | wait ready next ih =>
      simp only [Amid] at amid ⊢
      split
      · next due =>
          rw [if_pos due] at amid
          exact ih amid implies
      · next undue =>
          rw [if_neg undue] at amid
          obtain ⟨pending, resumed⟩ := amid
          refine ⟨implies.pending now pending, ?_⟩
          intro later changed due
          exact ih (resumed later (company now later changed) due) (promises later)

/-- A race keeps the promise of the work, if dropping the work while it is pending is
excused. -/
theorem Amid.unless_stopped {routine : Routine σ α} {now : σ} (stop : σ → Bool) (instead : α)
    (amid : routine.Amid others promise terms now)
    (idle : ∀ before after, others before after → (promise after).pending after)
    (promiseExcuses : ∀ begun, (promise begun).Excuse instead)
    (excuse : terms.Excuse instead) :
    (routine.unlessStopped stop instead).Amid others promise terms now := by
  induction routine generalizing terms now with
  | done value => exact amid
  | panic payload => exact amid
  | get next ih => exact ih now amid excuse
  | set state next ih => exact ih amid excuse
  | log event next ih => exact ih amid excuse
  | pause next ih =>
      obtain ⟨pending, resumed⟩ := amid
      simp only [unlessStopped, Amid]
      split
      · exact excuse now pending
      · refine ⟨pending, ?_⟩
        intro later changed
        exact ih (resumed later changed) (promiseExcuses later)
  | wait ready next ih =>
      simp only [unlessStopped, Amid] at amid ⊢
      by_cases due : ready now = true
      · simp only [due, if_true, Bool.true_or] at amid ⊢
        exact ih amid excuse
      · rw [if_neg due] at amid
        obtain ⟨pending, resumed⟩ := amid
        simp only [due, Bool.false_or, Bool.false_eq_true, if_false]
        split
        · exact excuse now pending
        · refine ⟨pending, ?_⟩
          intro later changed raced
          split
          · next dueLater => exact ih (resumed later changed dueLater) (promiseExcuses later)
          · exact promiseExcuses later later (idle now later changed)

/-- Where a poll leaves a routine that keeps its promise. -/
def Kept (others : σ → σ → Prop) (promise : σ → Terms σ α) (terms : Terms σ α)
    (progress : Progress σ α) (after : σ) : Prop :=
  match progress with
  | .returned value => terms.ended value after
  | .panicked _ => False
  | .pending _ rest =>
      terms.pending after ∧
        ∀ later, others after later → rest.Amid others promise (promise later) later

theorem Kept.holds {progress : Progress σ α} {after : σ} {holds : σ → Prop}
    (kept : Kept others promise terms progress after)
    (pending : ∀ now, terms.pending now → holds now)
    (ended : ∀ value now, terms.ended value now → holds now) : holds after := by
  cases progress with
  | returned value => exact ended value after kept
  | panicked payload => cases kept
  | pending woken rest => exact pending after kept.1

theorem Amid.poll {routine : Routine σ α} {now : σ}
    (amid : routine.Amid others promise terms now)
    (trans : ∀ first second third, others first second → others second third →
      others first third)
    (idle : ∀ before after, others before after → (promise after).pending after) :
    Kept others promise terms (routine.poll now).progress (routine.poll now).state := by
  induction routine generalizing terms now with
  | done value => exact amid
  | panic payload => exact amid
  | get next ih => exact ih now amid
  | set state next ih => exact ih amid
  | log event next ih => exact ih amid
  | pause next ih => exact amid
  | wait ready next ih =>
      simp only [Amid, Routine.poll] at amid ⊢
      split
      · next due =>
          rw [if_pos due] at amid
          exact ih amid
      · next undue =>
          rw [if_neg undue] at amid
          obtain ⟨pending, resumed⟩ := amid
          refine ⟨pending, ?_⟩
          intro later changed
          -- Polled too early, it stays as it is, and may be resumed after that.
          simp only [Amid]
          split
          · next due => exact resumed later changed due
          · refine ⟨idle now later changed, ?_⟩
            intro last changedAgain due
            exact resumed last (trans now later last changed changedAgain) due

end Routine

namespace Context

variable {others : Context σ → Context σ → Prop} {promise : Context σ → Routine.Terms (Context σ) α}
  {terms : Routine.Terms (Context σ) α}

@[simp] theorem amid_with_clock (continuation : Timestamp → Routine (Context σ) α)
    (now : Context σ) :
    (withClock continuation).Amid others promise terms now ↔
      now.clockIsBroken = false ∧ (continuation now.now).Amid others promise terms now := by
  unfold withClock
  simp only [Routine.Amid]
  cases now.clockIsBroken with
  | false => simp
  | true => simp [Routine.Amid]

end Context

namespace Routine

/-- The terms of a routine that is timed from then on. -/
def Clocked (started : Timestamp) (terms : Terms (Context σ) (Timed α)) : Terms (Context σ) α :=
  terms.withEnd fun value now =>
    now.clockIsBroken = false ∧ terms.ended ⟨value, Timestamp.elapsed started now.now⟩ now

@[simp] theorem amid_timed {others : Context σ → Context σ → Prop}
    {promise : Context σ → Terms (Context σ) (Timed α)} {terms : Terms (Context σ) (Timed α)}
    (routine : Routine (Context σ) α) (now : Context σ) :
    routine.timed.Amid others promise terms now ↔
      now.clockIsBroken = false ∧
        routine.Amid others (fun begun => Clocked now.now (promise begun))
          (Clocked now.now terms) now := by
  unfold timed
  rw [Context.amid_with_clock]
  change _ ∧ (routine >>= _).Amid others promise terms now ↔ _
  rw [amid_bind]
  simp only [Onward, Context.amid_with_clock, amid_done, Clocked]

end Routine

namespace CallHints

open Routine (Terms)

/-- The terms of work whose value is the value of a call. -/
def Fine (terms : Terms (Context σ) (Except Failure α)) : Terms (Context σ) α :=
  terms.withEnd fun value => terms.ended (.ok value)

/-- A call that may be cancelled, begun in time, keeps the promise of its work if being
cancelled while pending is excused. -/
theorem amid_cancellable {others : Context σ → Context σ → Prop}
    {promise : Context σ → Terms (Context σ) (Except Failure α)}
    {terms : Terms (Context σ) (Except Failure α)} (hints : CallHints) (during : Activity)
    (levels : Routine (Context σ) α) (now : Context σ) (fresh : hints.isCancelled now = false)
    (idle : ∀ before after, others before after → (promise after).pending after)
    (promiseExcuses : ∀ begun, (promise begun).Excuse (.error (Failure.cancelled during)))
    (excuse : terms.Excuse (.error (Failure.cancelled during)))
    (amid : levels.Amid others (fun begun => Fine (promise begun)) (Fine terms) now) :
    (hints.cancellable during (ExceptT.lift levels)).run.Amid others promise terms now := by
  change Routine.Amid others promise (if hints.isCancelled now then _ else _) terms now
  rw [fresh]
  apply Routine.Amid.unless_stopped _ _ _ idle promiseExcuses excuse
  change (levels >>= fun value => pure (Except.ok value)).Amid others promise terms now
  rw [Routine.amid_bind]
  exact amid

end CallHints

end TokenPersistence
