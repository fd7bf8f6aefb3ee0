import TokenPersistence.Hints
import TokenPersistence.Proofs.Routine.Handlers
import TokenPersistence.Proofs.Routine.Twins
import TokenPersistence.Timed

/-!
# Routines that are alike but for their values

Two routines are alike with regard to a view of their values if they are twins once only the
view of the value is kept: from states that are alike they go the same way, log the same,
leave states that are alike at every poll, and end with values whose views are equal. What
follows may look at the whole values; it is enough that it is alike for any two values whose
views are equal.
-/

namespace TokenPersistence

set_option autoImplicit false

variable {σ α β γ δ ε : Type}

namespace Routine

def Like (alike : σ → σ → Prop) (view : α → γ) (first second : Routine σ α) : Prop :=
  (first.bind fun value => done (view value)).Twins alike
    (second.bind fun value => done (view value))

variable {alike : σ → σ → Prop} {view : α → γ} {first second : Routine σ α}

/-- What follows on routines that are alike need only be twins for values with one view. -/
theorem Like.bind_twins {continuation goesOn : α → Routine σ β}
    (like : first.Like alike view second)
    (onward : ∀ value other, view value = view other →
      (continuation value).Twins alike (goesOn other)) :
    (first.bind continuation).Twins alike (second.bind goesOn) := by
  induction first generalizing second with
  | done value =>
      cases second with
      | done other =>
          have same : done (view other) = done (view value) := like
          exact onward value other (Routine.done.inj same).symm
      | _ => cases like
  | panic payload =>
      cases second with
      | panic other =>
          cases like
          rfl
      | _ => cases like
  | get next ih =>
      obtain ⟨goesOn, same, twin⟩ := like
      cases second with
      | get other =>
          cases same
          exact ⟨_, rfl, fun one too start => ih one (twin one too start)⟩
      | _ => cases same
  | set state next ih =>
      obtain ⟨replacement, goesOn, same, states, twin⟩ := like
      cases second with
      | set other rest =>
          cases same
          exact ⟨_, _, rfl, states, ih twin⟩
      | _ => cases same
  | log event next ih =>
      obtain ⟨goesOn, same, twin⟩ := like
      cases second with
      | log other rest =>
          cases same
          exact ⟨_, rfl, ih twin⟩
      | _ => cases same
  | pause next ih =>
      obtain ⟨goesOn, same, twin⟩ := like
      cases second with
      | pause rest =>
          cases same
          exact ⟨_, rfl, ih twin⟩
      | _ => cases same
  | wait ready next ih =>
      obtain ⟨readyToo, goesOn, same, due, twin⟩ := like
      cases second with
      | wait other rest =>
          cases same
          exact ⟨_, _, rfl, due, ih twin⟩
      | _ => cases same

theorem Like.bind {continuation goesOn : α → Routine σ β} {last : β → δ}
    (like : first.Like alike view second)
    (onward : ∀ value other, view value = view other →
      (continuation value).Like alike last (goesOn other)) :
    (first.bind continuation).Like alike last (second.bind goesOn) := by
  unfold Like
  rw [bind_assoc, bind_assoc]
  exact like.bind_twins onward

theorem Twins.then_like {continuation goesOn : α → Routine σ β} {last : β → δ}
    (twins : first.Twins alike second)
    (onward : ∀ value, (continuation value).Like alike last (goesOn value)) :
    (first.bind continuation).Like alike last (second.bind goesOn) := by
  unfold Like
  rw [bind_assoc, bind_assoc]
  exact twins.bind onward

theorem Twins.like (twins : first.Twins alike second) : first.Like alike view second :=
  twins.bind fun _ => rfl

theorem like_done {value other : α} (same : view value = view other) :
    (done value).Like alike view (done other) :=
  congrArg done same.symm

theorem twins_write (event : LogEvent) : (write event).Twins alike (write event) := ⟨_, rfl, rfl⟩

theorem like_step {transition other : σ → α × σ}
    (same : ∀ first second, alike first second →
      view (transition first).1 = view (other second).1 ∧
        alike (transition first).2 (other second).2) :
    (step transition).Like alike view (step other) := by
  refine ⟨_, rfl, ?_⟩
  intro first second start
  obtain ⟨values, states⟩ := same first second start
  exact ⟨_, _, rfl, states, congrArg done values.symm⟩

theorem Twins.unless_stopped {stop : σ → Bool} {instead : α} (twins : first.Twins alike second)
    (stops : ∀ one other, alike one other → stop one = stop other) :
    (first.unlessStopped stop instead).Twins alike (second.unlessStopped stop instead) := by
  induction first generalizing second with
  | done value =>
      subst twins
      rfl
  | panic payload =>
      subst twins
      rfl
  | get next ih =>
      obtain ⟨rest, rfl, twin⟩ := twins
      exact ⟨_, rfl, fun one other start => ih one (twin one other start)⟩
  | set state next ih =>
      obtain ⟨replacement, rest, rfl, same, twin⟩ := twins
      exact ⟨_, _, rfl, same, ih twin⟩
  | log event next ih =>
      obtain ⟨rest, rfl, twin⟩ := twins
      exact ⟨_, rfl, ih twin⟩
  | pause next ih =>
      obtain ⟨rest, rfl, twin⟩ := twins
      refine ⟨_, rfl, fun one other start => ?_⟩
      dsimp only
      rw [stops one other start]
      split
      · rfl
      · exact ⟨_, rfl, ih twin⟩
  | wait ready next ih =>
      obtain ⟨readyToo, rest, rfl, due, twin⟩ := twins
      refine ⟨_, _, rfl, fun one other start => ?_, _, rfl, fun one other start => ?_⟩
      · dsimp only
        rw [due one other start, stops one other start]
      · dsimp only
        rw [due one other start]
        split
        · exact ih twin
        · rfl

inductive LikeProgress (alike : σ → σ → Prop) (view : α → γ) :
    Progress σ α → Progress σ α → Prop where
  | returned {value other : α} (same : view value = view other) :
      LikeProgress alike view (.returned value) (.returned other)
  | panicked (payload : Panic) : LikeProgress alike view (.panicked payload) (.panicked payload)
  | pending {woken wokenToo : Bool} {rest other : Routine σ α} (like : rest.Like alike view other) :
      LikeProgress alike view (.pending woken rest) (.pending wokenToo other)

/-- What is left to see of a progress when only the view of its value is kept. -/
def viewed (view : α → γ) : Progress σ α → Progress σ γ
  | .returned value => .returned (view value)
  | .panicked payload => .panicked payload
  | .pending woken rest => .pending woken (rest.bind fun value => done (view value))

theorem poll_viewed (view : α → γ) (routine : Routine σ α) (now : σ) :
    (routine.bind fun value => done (view value)).poll now =
      ⟨viewed view (routine.poll now).progress, (routine.poll now).state,
        (routine.poll now).log⟩ := by
  induction routine generalizing now with
  | done value => rfl
  | panic payload => rfl
  | get next ih => exact ih now now
  | set state next ih => exact ih state
  | log event next ih => simp only [Routine.bind, Routine.poll, ih now]
  | pause next ih => rfl
  | wait ready next ih =>
      simp only [Routine.bind, Routine.poll]
      split
      · exact ih now
      · rfl

theorem like_of_viewed {progress other : Progress σ α}
    (twins : TwinProgress alike (viewed view progress) (viewed view other)) :
    LikeProgress alike view progress other := by
  generalize left : viewed view progress = one at twins
  generalize right : viewed view other = two at twins
  cases twins with
  | returned value =>
      cases progress with
      | returned one =>
          cases other with
          | returned two => exact .returned (Progress.returned.inj (left.trans right.symm))
          | _ => cases right
      | _ => cases left
  | panicked payload =>
      cases progress with
      | panicked one =>
          cases other with
          | panicked two =>
              cases left
              cases right
              exact .panicked payload
          | _ => cases right
      | _ => cases left
  | pending twins =>
      cases progress with
      | pending woken rest =>
          cases other with
          | pending wokenToo restToo =>
              cases left
              cases right
              exact .pending twins
          | _ => cases right
      | _ => cases left

theorem Like.poll (like : first.Like alike view second) {one other : σ} (start : alike one other) :
    LikeProgress alike view (first.poll one).progress (second.poll other).progress ∧
      (first.poll one).log = (second.poll other).log ∧
        alike (first.poll one).state (second.poll other).state := by
  have polled := Twins.poll like start
  simp only [poll_viewed] at polled
  exact polled.imp_left like_of_viewed

end Routine

/-- Outcomes with one view are both values with one view, or one failure. -/
theorem outcomes_of_view {view : α → γ} {first second : Except ε α}
    (seen : Except.map view first = Except.map view second) :
    (∃ value other, first = .ok value ∧ second = .ok other ∧ view value = view other) ∨
      ∃ failure, first = .error failure ∧ second = .error failure := by
  cases first with
  | ok value =>
      cases second with
      | ok other => exact .inl ⟨value, other, rfl, rfl, Except.ok.inj seen⟩
      | error failure => cases seen
  | error failure =>
      cases second with
      | ok other => cases seen
      | error failureToo =>
          cases seen
          exact .inr ⟨failure, rfl, rfl⟩

theorem answers_of_view {view : α → γ} {first second : Option α}
    (seen : Option.map view first = Option.map view second) :
    (∃ value other, first = some value ∧ second = some other ∧ view value = view other) ∨
      first = none ∧ second = none := by
  cases first with
  | some value =>
      cases second with
      | some other => exact .inl ⟨value, other, rfl, rfl, Option.some.inj seen⟩
      | none => cases seen
  | none =>
      cases second with
      | some other => cases seen
      | none => exact .inr ⟨rfl, rfl⟩

theorem Routine.Like.and_then {alike : σ → σ → Prop} {view : α → γ} {last : β → δ}
    {first second : ExceptT ε (Routine σ) α} {continuation goesOn : α → ExceptT ε (Routine σ) β}
    (like : first.run.Like alike (Except.map view) second.run)
    (onward : ∀ value other, view value = view other →
      (continuation value).run.Like alike (Except.map last) (goesOn other).run) :
    (first >>= continuation).run.Like alike (Except.map last) (second >>= goesOn).run := by
  apply Like.bind like
  intro value other seen
  rcases outcomes_of_view seen with ⟨value, other, rfl, rfl, values⟩ | ⟨failure, rfl, rfl⟩
  · exact onward value other values
  · exact like_done rfl

theorem Routine.Like.twins {alike : σ → σ → Prop} {first second : ExceptT ε (Routine σ) α}
    (like : first.run.Like alike (Except.map id) second.run) :
    first.run.Twins alike second.run := by
  rw [Except.map_id] at like
  rw [← bind_done first.run, ← bind_done second.run]
  exact like

/-- The contexts differ in their data at most. -/
structure Context.Alike (same : σ → σ → Prop) (first second : Context σ) : Prop where
  now : first.now = second.now
  clockIsBroken : first.clockIsBroken = second.clockIsBroken
  uptime : first.uptime = second.uptime
  cancelled : first.cancelled = second.cancelled
  levels : first.levels = second.levels
  nonces : first.nonces = second.nonces
  drawn : first.drawn = second.drawn
  data : same first.data second.data

namespace Routine

variable {same : σ → σ → Prop} {view : α → γ}

open Context (Alike)

theorem like_with_clock {continuation goesOn : Timestamp → Routine (Context σ) α}
    (like : ∀ time, (continuation time).Like (Alike same) view (goesOn time)) :
    (Context.withClock continuation).Like (Alike same) view (Context.withClock goesOn) := by
  refine ⟨_, rfl, fun first second start => ?_⟩
  dsimp only
  rw [start.clockIsBroken, start.now]
  split
  · rfl
  · exact like second.now

theorem Like.timed {first second : Routine (Context σ) α}
    (like : first.Like (Alike same) view second) :
    first.timed.Like (Alike same) (fun timed => (view timed.value, timed.duration))
      second.timed := by
  apply like_with_clock
  intro started
  apply like.bind
  intro value other seen
  apply like_with_clock
  intro ended
  exact like_done (congrArg (·, Timestamp.elapsed started ended) seen)

theorem Like.lift {first second : Routine (Context σ) α}
    (like : first.Like (Alike same) view second) :
    (ExceptT.lift first : Call σ α).run.Like (Alike same) (Except.map view)
      (ExceptT.lift second : Call σ α).run :=
  like.bind fun _ _ seen => like_done (congrArg Except.ok seen)

theorem Like.cancellable {first second : Call σ α} (hints : CallHints) (during : Activity)
    (like : first.run.Like (Alike same) (Except.map view) second.run) :
    (hints.cancellable during first).run.Like (Alike same) (Except.map view)
      (hints.cancellable during second).run := by
  have stops : ∀ one other : Context σ, Alike same one other →
      hints.isCancelled one = hints.isCancelled other := by
    intro one other start
    unfold CallHints.isCancelled Context.isCancelled
    rw [start.cancelled]
  refine ⟨_, rfl, fun one other start => ?_⟩
  dsimp only
  rw [stops one other start]
  split
  · rfl
  · rw [unless_stopped_map, unless_stopped_map]
    exact Twins.unless_stopped like stops

theorem like_report_level (hints : CallHints) (level : CacheLevel) :
    (hints.reportLevel level : Routine (Context σ) Unit).Twins (Alike same)
      (hints.reportLevel level) := by
  refine ⟨_, rfl, fun one other start => ⟨_, _, rfl, ?_, rfl⟩⟩
  unfold CallHints.report
  cases hints.sink with
  | none => exact start
  | some sink =>
      obtain ⟨now, broken, uptime, cancelled, levels, nonces, drawn, data⟩ := start
      refine ⟨now, broken, uptime, cancelled, ?_, nonces, drawn, data⟩
      simp only [Context.setLevel, levels]

end Routine

end TokenPersistence
