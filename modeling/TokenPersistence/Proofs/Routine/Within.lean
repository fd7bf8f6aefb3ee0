import TokenPersistence.Proofs.Rehearsal.Cells
import TokenPersistence.Proofs.Routine.Closed
import TokenPersistence.Proofs.Routine.Leaves

/-!
# Routines on a part of the data

A routine that knows only a part of the data works on the whole data as well: it finds
its part in a cell, and the rest of the data stays as it is. It ends as it does on its
part alone. A routine is blind to a part if another value there changes nothing but
that value: neither how the routine ends, nor what it logs, nor what it does to the
rest. Blindness passes from the parts of a routine to the routine.
-/

namespace TokenPersistence

set_option autoImplicit false

variable {σ τ ρ α β : Type}

namespace Cell

/-- The context with nothing but the part as its data. -/
def narrow (cell : Cell σ τ) (context : Context σ) : Context τ where
  now := context.now
  clockIsBroken := context.clockIsBroken
  uptime := context.uptime
  cancelled := context.cancelled
  levels := context.levels
  nonces := context.nonces
  drawn := context.drawn
  data := cell.get context.data

/-- A context of the part, with the rest of the data taken from another context. -/
def widen (cell : Cell σ τ) (part : Context τ) (context : Context σ) : Context σ where
  now := part.now
  clockIsBroken := part.clockIsBroken
  uptime := part.uptime
  cancelled := part.cancelled
  levels := part.levels
  nonces := part.nonces
  drawn := part.drawn
  data := cell.put part.data context.data

def change (cell : Cell σ τ) (value : τ) (context : Context σ) : Context σ :=
  { context with data := cell.put value context.data }

variable {cell : Cell σ τ}

theorem Lawful.narrow_widen (lawful : cell.Lawful) (part : Context τ) (context : Context σ) :
    cell.narrow (cell.widen part context) = part := by
  simp only [narrow, widen, lawful.get_put]

theorem Lawful.widen_narrow (lawful : cell.Lawful) (context : Context σ) :
    cell.widen (cell.narrow context) context = context := by
  simp only [narrow, widen, lawful.put_get]

theorem Lawful.widen_widen (lawful : cell.Lawful) (first second : Context τ)
    (context : Context σ) :
    cell.widen second (cell.widen first context) = cell.widen second context := by
  simp only [widen, lawful.put_put]

/-- Neither part notices what is written to the other one, in whatever order. -/
structure Apart (first : Cell σ τ) (second : Cell σ ρ) : Prop where
  spares : first.Spares second
  commutes : ∀ value other data,
    first.put value (second.put other data) = second.put other (first.put value data)

end Cell

namespace Routine

def within (cell : Cell σ τ) : Routine (Context τ) α → Routine (Context σ) α
  | done value => done value
  | panic payload => panic payload
  | get next => get fun context => (next (cell.narrow context)).within cell
  | set state next => get fun context => set (cell.widen state context) (next.within cell)
  | log event next => log event (next.within cell)
  | pause next => pause (next.within cell)
  | wait ready next => wait (fun context => ready (cell.narrow context)) (next.within cell)

theorem run_within {cell : Cell σ τ} (lawful : cell.Lawful) (routine : Routine (Context τ) α)
    (start : Context σ) :
    (routine.within cell).run start =
      let ran := routine.run (cell.narrow start)
      ⟨ran.ending, cell.widen ran.state start, ran.log⟩ := by
  induction routine generalizing start with
  | done value => simp only [within, run, lawful.widen_narrow]
  | panic payload => simp only [within, run, lawful.widen_narrow]
  | get next ih => exact ih (cell.narrow start) start
  | set state next ih =>
      simp only [within, run, ih (cell.widen state start), lawful.narrow_widen,
        lawful.widen_widen]
  | log event next ih => simp only [within, run, ih start]
  | pause next ih => exact ih start
  | wait ready next ih =>
      simp only [within, run]
      split
      · exact ih start
      · simp only [lawful.widen_narrow]

theorem leaves_within {cell : Cell σ τ} (lawful : cell.Lawful)
    (routine : Routine (Context τ) α) (start : Context σ)
    (post : Ending α → Context σ → Prop) :
    (routine.within cell).Leaves start post ↔
      routine.Leaves (cell.narrow start) fun ending after =>
        post ending (cell.widen after start) := by
  unfold Leaves
  rw [run_within lawful]

/-- Another value in the part makes no difference to the routine. -/
def Blind (cell : Cell σ τ) (routine : Routine (Context σ) α) : Prop :=
  ∀ value start, routine.run (cell.change value start) =
    let ran := routine.run start
    ⟨ran.ending, cell.change value ran.state, ran.log⟩

variable {cell : Cell σ τ}

theorem blind_step {transition : Context σ → α × Context σ}
    (unaware : ∀ value context, transition (cell.change value context) =
      ((transition context).1, cell.change value (transition context).2)) :
    (step transition).Blind cell := by
  intro value start
  simp only [step, run, unaware]

theorem Blind.bind {routine : Routine (Context σ) α} {continuation : α → Routine (Context σ) β}
    (first : routine.Blind cell) (second : ∀ value, (continuation value).Blind cell) :
    (routine.bind continuation).Blind cell := by
  intro value start
  rw [run_bind, run_bind, first value start]
  unfold andThen
  cases (routine.run start).ending with
  | returned result => simp only [second result value]
  | panicked payload => rfl
  | stalled => rfl

theorem blind_closed : Closed fun _ routine => routine.Blind cell where
  done _ _ _ := rfl
  panic _ _ _ := rfl
  write _ _ _ := rfl
  bind := Blind.bind
  catchPanic blind value start := by
    rw [run_catch_panic, run_catch_panic, blind value start]

theorem blind_within {other : Cell σ ρ} (lawful : other.Lawful) (apart : cell.Apart other)
    (routine : Routine (Context ρ) α) : (routine.within other).Blind cell := by
  intro value start
  have unseen : other.narrow (cell.change value start) = other.narrow start := by
    simp only [Cell.narrow, Cell.change, apart.spares value]
  rw [run_within lawful, run_within lawful, unseen]
  simp only [Cell.widen, Cell.change, apart.commutes]

end Routine

namespace Call

def within (cell : Cell σ τ) (call : Call τ α) : Call σ α := ExceptT.mk (call.run.within cell)

def Blind (cell : Cell σ τ) (call : Call σ α) : Prop := call.run.Blind cell

end Call

end TokenPersistence
