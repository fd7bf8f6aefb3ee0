import TokenPersistence.Hints

/-!
# What sinks are told

A sink is a cell that many hold and that shows the last level it was told. Sinks do not
notice what other sinks are told.
-/

namespace TokenPersistence

set_option autoImplicit false

variable {σ : Type}

/-- A level, and the sink that is told of it. -/
structure Telling where
  sink : LevelSink
  level : CacheLevel
  deriving DecidableEq, Repr

/-- What a sink shows when it and others have been told these, one after the other. -/
def LevelSink.lastTold (sink : LevelSink) (tellings : List Telling) (initial : CacheLevel) :
    CacheLevel :=
  ((tellings.filter (·.sink = sink)).map Telling.level).getLastD initial

theorem LevelSink.last_told_append (sink : LevelSink) (earlier later : List Telling)
    (initial : CacheLevel) :
    sink.lastTold (earlier ++ later) initial =
      sink.lastTold later (sink.lastTold earlier initial) := by
  simp only [lastTold, List.filter_append, List.map_append, List.getLastD_eq_getLast?,
    List.getLast?_append, Option.getD_or]

namespace Context

def tell (context : Context σ) (tellings : List Telling) : Context σ :=
  tellings.foldl (fun earlier telling => earlier.setLevel telling.sink telling.level) context

theorem level_set_level (context : Context σ) (sink other : LevelSink) (level : CacheLevel) :
    (context.setLevel sink level).level other =
      if sink = other then level else context.level other := by
  cases sink
  cases other
  simp [setLevel, Context.level, eq_comm]

theorem level_tell (context : Context σ) (tellings : List Telling) (sink : LevelSink) :
    (context.tell tellings).level sink = sink.lastTold tellings (context.level sink) := by
  induction tellings generalizing context with
  | nil => rfl
  | cons telling others ih =>
      have first : (context.setLevel telling.sink telling.level).level sink =
          sink.lastTold [telling] (context.level sink) := by
        rw [level_set_level]
        by_cases same : telling.sink = sink <;> simp [LevelSink.lastTold, same]
      rw [tell, List.foldl_cons, ← tell, ih, first, ← LevelSink.last_told_append,
        List.singleton_append]

theorem is_cancelled_tell (context : Context σ) (tellings : List Telling)
    (token : CancellationToken) :
    (context.tell tellings).isCancelled token = context.isCancelled token := by
  induction tellings generalizing context with
  | nil => rfl
  | cons telling others ih => exact ih (context.setLevel telling.sink telling.level)

end Context

namespace CallHints

def telling (hints : CallHints) (level : CacheLevel) : List Telling :=
  hints.sink.toList.map fun sink => ⟨sink, level⟩

theorem report_eq_tell (hints : CallHints) (level : CacheLevel) (context : Context σ) :
    hints.report level context = context.tell (hints.telling level) := by
  unfold report telling
  cases hints.sink <;> rfl

end CallHints

end TokenPersistence
