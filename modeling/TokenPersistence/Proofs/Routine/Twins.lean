import TokenPersistence.Proofs.Routine.Closed
import TokenPersistence.Proofs.Routine.Within

/-!
# Confined routines

Two routines are twins if they go the same way from states that are alike, log the same,
and leave states that are alike at every poll; what others do between two polls may differ. A
routine stays within a relation if each of its polls does, whatever others do in between.
A confined routine is its own twin for one relation and stays within another one. To be
confined is a closed property.
-/

namespace TokenPersistence

set_option autoImplicit false

variable {σ τ α β : Type}

namespace Routine

def Twins (alike : σ → σ → Prop) : Routine σ α → Routine σ α → Prop
  | done value, other => other = done value
  | panic payload, other => other = panic payload
  | get next, other => ∃ goesOn, other = get goesOn ∧
      ∀ first second, alike first second → (next first).Twins alike (goesOn second)
  | set state next, other => ∃ replacement goesOn, other = set replacement goesOn ∧
      alike state replacement ∧ next.Twins alike goesOn
  | log event next, other => ∃ goesOn, other = log event goesOn ∧ next.Twins alike goesOn
  | pause next, other => ∃ goesOn, other = pause goesOn ∧ next.Twins alike goesOn
  | wait ready next, other => ∃ readyToo goesOn, other = wait readyToo goesOn ∧
      (∀ first second, alike first second → ready first = readyToo second) ∧
        next.Twins alike goesOn

inductive TwinProgress (alike : σ → σ → Prop) : Progress σ α → Progress σ α → Prop where
  | returned (value : α) : TwinProgress alike (.returned value) (.returned value)
  | panicked (payload : Panic) : TwinProgress alike (.panicked payload) (.panicked payload)
  | pending {woken wokenToo : Bool} {rest other : Routine σ α} (twins : rest.Twins alike other) :
      TwinProgress alike (.pending woken rest) (.pending wokenToo other)

/-- In every poll from now on, what the routine does to the state is in the relation. -/
def Stays (keeps : σ → σ → Prop) : Routine σ α → σ → Prop
  | done _, _ => True
  | panic _, _ => True
  | get next, now => (next now).Stays keeps now
  | set state next, now => keeps now state ∧ next.Stays keeps state
  | log _ next, now => next.Stays keeps now
  | pause next, _ => ∀ later, next.Stays keeps later
  | wait _ next, _ => ∀ later, next.Stays keeps later

structure Confined (alike keeps : σ → σ → Prop) (routine : Routine σ α) : Prop where
  twins : routine.Twins alike routine
  stays : ∀ now, routine.Stays keeps now

variable {alike keeps : σ → σ → Prop}

theorem Twins.poll {routine other : Routine σ α} (twins : routine.Twins alike other)
    {first second : σ} (start : alike first second) :
    TwinProgress alike (routine.poll first).progress (other.poll second).progress ∧
      (routine.poll first).log = (other.poll second).log ∧
        alike (routine.poll first).state (other.poll second).state := by
  induction routine generalizing other first second with
  | done value =>
      subst twins
      exact ⟨.returned value, rfl, start⟩
  | panic payload =>
      subst twins
      exact ⟨.panicked payload, rfl, start⟩
  | get next ih =>
      obtain ⟨goesOn, rfl, twin⟩ := twins
      exact ih first (twin first second start) start
  | set state next ih =>
      obtain ⟨replacement, goesOn, rfl, same, twin⟩ := twins
      exact ih twin same
  | log event next ih =>
      obtain ⟨goesOn, rfl, twin⟩ := twins
      obtain ⟨progress, logged, states⟩ := ih twin start
      exact ⟨progress, congrArg (event :: ·) logged, states⟩
  | pause next ih =>
      obtain ⟨goesOn, rfl, twin⟩ := twins
      exact ⟨.pending twin, rfl, start⟩
  | wait ready next ih =>
      obtain ⟨readyToo, goesOn, rfl, same, twin⟩ := twins
      simp only [Routine.poll, same first second start]
      split
      · exact ih twin start
      · exact ⟨.pending ⟨readyToo, goesOn, rfl, same, twin⟩, rfl, start⟩

theorem Twins.bind {routine other : Routine σ α} {continuation goesOn : α → Routine σ β}
    (twins : routine.Twins alike other)
    (onward : ∀ value, (continuation value).Twins alike (goesOn value)) :
    (routine.bind continuation).Twins alike (other.bind goesOn) := by
  induction routine generalizing other with
  | done value =>
      subst twins
      exact onward value
  | panic payload =>
      subst twins
      rfl
  | get next ih =>
      obtain ⟨rest, rfl, twin⟩ := twins
      exact ⟨_, rfl, fun first second start => ih first (twin first second start)⟩
  | set state next ih =>
      obtain ⟨replacement, rest, rfl, same, twin⟩ := twins
      exact ⟨_, _, rfl, same, ih twin⟩
  | log event next ih =>
      obtain ⟨rest, rfl, twin⟩ := twins
      exact ⟨_, rfl, ih twin⟩
  | pause next ih =>
      obtain ⟨rest, rfl, twin⟩ := twins
      exact ⟨_, rfl, ih twin⟩
  | wait ready next ih =>
      obtain ⟨readyToo, rest, rfl, same, twin⟩ := twins
      exact ⟨_, _, rfl, same, ih twin⟩

theorem Twins.catch_panic {routine other : Routine σ α} (twins : routine.Twins alike other) :
    routine.catchPanic.Twins alike other.catchPanic := by
  induction routine generalizing other with
  | done value =>
      subst twins
      rfl
  | panic payload =>
      subst twins
      rfl
  | get next ih =>
      obtain ⟨rest, rfl, twin⟩ := twins
      exact ⟨_, rfl, fun first second start => ih first (twin first second start)⟩
  | set state next ih =>
      obtain ⟨replacement, rest, rfl, same, twin⟩ := twins
      exact ⟨_, _, rfl, same, ih twin⟩
  | log event next ih =>
      obtain ⟨rest, rfl, twin⟩ := twins
      exact ⟨_, rfl, ih twin⟩
  | pause next ih =>
      obtain ⟨rest, rfl, twin⟩ := twins
      exact ⟨_, rfl, ih twin⟩
  | wait ready next ih =>
      obtain ⟨readyToo, rest, rfl, same, twin⟩ := twins
      exact ⟨_, _, rfl, same, ih twin⟩

theorem Stays.poll {routine : Routine σ α} {now : σ} (stays : routine.Stays keeps now)
    (refl : ∀ state, keeps state state)
    (trans : ∀ first second third, keeps first second → keeps second third → keeps first third) :
    keeps now (routine.poll now).state ∧
      ∀ woken rest, (routine.poll now).progress = .pending woken rest →
        ∀ later, rest.Stays keeps later := by
  induction routine generalizing now with
  | done value => exact ⟨refl now, fun _ _ ended => by cases ended⟩
  | panic payload => exact ⟨refl now, fun _ _ ended => by cases ended⟩
  | get next ih => exact ih now stays
  | set state next ih =>
      obtain ⟨kept, onward⟩ := ih stays.2
      exact ⟨trans _ _ _ stays.1 kept, onward⟩
  | log event next ih => exact ih stays
  | pause next ih =>
      refine ⟨refl now, ?_⟩
      rintro _ _ ⟨⟩
      exact stays
  | wait ready next ih =>
      simp only [Routine.poll]
      split
      · exact ih (stays now)
      · refine ⟨refl now, ?_⟩
        rintro _ _ ⟨⟩ later
        exact stays

theorem Stays.bind {routine : Routine σ α} {continuation : α → Routine σ β} {now : σ}
    (stays : routine.Stays keeps now)
    (onward : ∀ value later, (continuation value).Stays keeps later) :
    (routine.bind continuation).Stays keeps now := by
  induction routine generalizing now with
  | done value => exact onward value now
  | panic payload => trivial
  | get next ih => exact ih now stays
  | set state next ih => exact ⟨stays.1, ih stays.2⟩
  | log event next ih => exact ih stays
  | pause next ih => exact fun later => ih (stays later)
  | wait ready next ih => exact fun later => ih (stays later)

theorem Stays.catch_panic {routine : Routine σ α} {now : σ} (stays : routine.Stays keeps now) :
    routine.catchPanic.Stays keeps now := by
  induction routine generalizing now with
  | done value => trivial
  | panic payload => trivial
  | get next ih => exact ih now stays
  | set state next ih => exact ⟨stays.1, ih stays.2⟩
  | log event next ih => exact ih stays
  | pause next ih => exact fun later => ih (stays later)
  | wait ready next ih => exact fun later => ih (stays later)

theorem confined_closed : Closed fun _ routine => Confined alike keeps routine where
  done _ := ⟨rfl, fun _ => trivial⟩
  panic _ := ⟨rfl, fun _ => trivial⟩
  write _ := ⟨⟨_, rfl, rfl⟩, fun _ => trivial⟩
  bind first second :=
    ⟨first.twins.bind fun value => (second value).twins,
      fun now => (first.stays now).bind fun value => (second value).stays⟩
  catchPanic first := ⟨first.twins.catch_panic, fun now => (first.stays now).catch_panic⟩

theorem confined_step {transition : σ → α × σ}
    (same : ∀ first second, alike first second →
      (transition first).1 = (transition second).1 ∧
        alike (transition first).2 (transition second).2)
    (stays : ∀ now, keeps now (transition now).2) : (step transition).Confined alike keeps where
  twins := by
    refine ⟨_, rfl, ?_⟩
    intro first second start
    obtain ⟨values, states⟩ := same first second start
    exact ⟨_, _, rfl, states, congrArg done values.symm⟩
  stays now := ⟨stays now, trivial⟩

theorem confined_within {alike keeps : Context σ → Context σ → Prop} {cell : Cell σ τ}
    (routine : Routine (Context τ) α)
    (same : ∀ first second, alike first second → cell.narrow first = cell.narrow second)
    (alikes : ∀ part first second, alike first second →
      alike (cell.widen part first) (cell.widen part second))
    (stays : ∀ part now, keeps now (cell.widen part now)) :
    (routine.within cell).Confined alike keeps where
  twins := by
    induction routine with
    | done value => rfl
    | panic payload => rfl
    | get next ih =>
        refine ⟨_, rfl, ?_⟩
        intro first second start
        simpa only [same first second start] using ih (cell.narrow second)
    | set state next ih =>
        refine ⟨_, rfl, ?_⟩
        intro first second start
        exact ⟨_, _, rfl, alikes state first second start, ih⟩
    | log event next ih => exact ⟨_, rfl, ih⟩
    | pause next ih => exact ⟨_, rfl, ih⟩
    | wait ready next ih =>
        refine ⟨_, _, rfl, ?_, ih⟩
        intro first second start
        exact congrArg ready (same first second start)
  stays now := by
    induction routine generalizing now with
    | done value => trivial
    | panic payload => trivial
    | get next ih => exact ih (cell.narrow now) now
    | set state next ih => exact ⟨stays state now, ih _⟩
    | log event next ih => exact ih now
    | pause next ih => exact ih
    | wait ready next ih => exact ih

end Routine

end TokenPersistence
