import TokenPersistence.Access
import TokenPersistence.Proofs.Store.Sinks

/-!
# Hints are a live view of their access

An access and its hints are two handles of one token and one sink. Whoever else holds
the token may cancel it, whoever holds the sink may report to it, tokens are made from
the token and cancelled, and other hints are put together and changed on the side.
Whatever happens, both handles show the same: they are cancelled as soon as a token of
the lineage is, and their level is the last one reported to the sink.
-/

namespace TokenPersistence

set_option autoImplicit false

namespace CancellationToken

variable {token lower : CancellationToken} {cancelled : String → Bool}

/-- The labels whose cancellation a token notices. -/
def lineage (token : CancellationToken) : List String := token.label :: token.ancestors

theorem is_cancelled_iff :
    token.isCancelled cancelled = true ↔ ∃ label ∈ token.lineage, cancelled label = true := by
  simp [isCancelled, lineage]

/-- The tokens made from a token, directly or through others. A token is new when it is
made, so its label is none of the lineage it goes on. -/
inductive Below (token : CancellationToken) : CancellationToken → Prop where
  | child (label : String) (fresh : label ∉ token.lineage) : Below token (token.child label)
  | further (lower : CancellationToken) (label : String) (below : Below token lower)
      (fresh : label ∉ lower.lineage) : Below token (lower.child label)

theorem Below.lineage_subset (below : token.Below lower) : token.lineage ⊆ lower.lineage := by
  induction below with
  | child label fresh => exact List.subset_cons_self label token.lineage
  | further lower label below fresh ih =>
      exact List.Subset.trans ih (List.subset_cons_self label lower.lineage)

theorem Below.label_not_mem (below : token.Below lower) : lower.label ∉ token.lineage := by
  cases below with
  | child label fresh => exact fresh
  | further upper label below fresh => exact fun mem => fresh (below.lineage_subset mem)

end CancellationToken

namespace Context

variable {σ : Type}

theorem is_cancelled_cancel (context : Context σ) (token other : CancellationToken) :
    (context.cancel token).isCancelled other = true ↔
      context.isCancelled other = true ∨ token.label ∈ other.lineage := by
  simp only [isCancelled, CancellationToken.is_cancelled_iff, cancel, Bool.or_eq_true,
    beq_iff_eq]
  constructor
  · rintro ⟨label, mem, rfl | cancelled⟩
    · exact .inr mem
    · exact .inl ⟨label, mem, cancelled⟩
  · rintro (⟨label, mem, cancelled⟩ | mem)
    · exact ⟨label, mem, .inr cancelled⟩
    · exact ⟨token.label, mem, .inl rfl⟩

end Context

/-- Cancels the token of the hints. Hints without one have a token that nobody else
holds. -/
def CallHints.cancel {σ : Type} (hints : CallHints) (context : Context σ) : Context σ :=
  match hints.cancellation with
  | some token => context.cancel token
  | .none => context

/-- What an access and its hints live among: a context, and hints that are put together
on their own. These may hold the same token or the same sink. -/
structure Surroundings (σ : Type) where
  context : Context σ
  others : Nat → CallHints

variable {σ : Type}

/-- What may happen to an access and its hints, and around them. -/
inductive Happening (access : Access σ) where
  | cancelAccess
  | cancelHints
  | cancel (token : CancellationToken)
  | cancelBelow (lower : CancellationToken) (below : access.cancellation.Below lower)
  | cancelOther (index : Nat)
  | report (level : CacheLevel)
  | setLevel (sink : LevelSink) (level : CacheLevel)
  | reportOther (index : Nat) (level : CacheLevel)
  | change (index : Nat) (change : CallHints → CallHints)

namespace Surroundings

variable {access : Access σ}

def apply (before : Surroundings σ) : Happening access → Surroundings σ
  | .cancelAccess => { before with context := before.context.cancel access.cancellation }
  | .cancelHints => { before with context := access.hints.cancel before.context }
  | .cancel token => { before with context := before.context.cancel token }
  | .cancelBelow lower _ => { before with context := before.context.cancel lower }
  | .cancelOther index =>
      { before with context := (before.others index).cancel before.context }
  | .report level => { before with context := access.hints.report level before.context }
  | .setLevel sink level => { before with context := before.context.setLevel sink level }
  | .reportOther index level =>
      { before with context := (before.others index).report level before.context }
  | .change index change =>
      { before with
        others := fun other =>
          if other = index then change (before.others index) else before.others other }

def play (start : Surroundings σ) (happenings : List (Happening access)) : Surroundings σ :=
  happenings.foldl apply start

def cancels (before : Surroundings σ) : Happening access → Option CancellationToken
  | .cancelAccess => some access.cancellation
  | .cancelHints => access.hints.cancellation
  | .cancel token => some token
  | .cancelBelow lower _ => some lower
  | .cancelOther index => (before.others index).cancellation
  | .report _ | .setLevel _ _ | .reportOther _ _ | .change _ _ => none

def tells (before : Surroundings σ) : Happening access → List Telling
  | .report level => access.hints.telling level
  | .setLevel sink level => [⟨sink, level⟩]
  | .reportOther index level => (before.others index).telling level
  | .cancelAccess | .cancelHints | .cancel _ | .cancelBelow _ _ | .cancelOther _
  | .change _ _ => []

def cancellations : Surroundings σ → List (Happening access) → List CancellationToken
  | _, [] => []
  | before, happening :: others =>
      (before.cancels happening).toList ++ (before.apply happening).cancellations others

def tellings : Surroundings σ → List (Happening access) → List Telling
  | _, [] => []
  | before, happening :: others =>
      before.tells happening ++ (before.apply happening).tellings others

theorem apply_context (before : Surroundings σ) (happening : Happening access) :
    (before.apply happening).context =
      ((before.cancels happening).elim before.context before.context.cancel).tell
        (before.tells happening) := by
  cases happening with
  | cancelAccess | cancelHints | cancel | cancelBelow | setLevel | change => rfl
  | cancelOther index =>
      simp only [apply, tells, cancels, CallHints.cancel]
      cases (before.others index).cancellation <;> rfl
  | report level => exact access.hints.report_eq_tell level before.context
  | reportOther index level => exact (before.others index).report_eq_tell level before.context

theorem is_cancelled_apply (before : Surroundings σ) (happening : Happening access)
    (token : CancellationToken) :
    (before.apply happening).context.isCancelled token = true ↔
      before.context.isCancelled token = true ∨
        ∃ cancelled ∈ before.cancels happening, cancelled.label ∈ token.lineage := by
  rw [apply_context, Context.is_cancelled_tell]
  cases before.cancels happening with
  | none => simp
  | some cancelled => simpa using before.context.is_cancelled_cancel cancelled token

theorem level_apply (before : Surroundings σ) (happening : Happening access)
    (sink : LevelSink) :
    (before.apply happening).context.level sink =
      sink.lastTold (before.tells happening) (before.context.level sink) := by
  rw [apply_context, Context.level_tell]
  cases before.cancels happening <;> rfl

/-- A token is cancelled when it was before or when a token of its lineage has been. -/
theorem is_cancelled_play (start : Surroundings σ) (happenings : List (Happening access))
    (token : CancellationToken) :
    (start.play happenings).context.isCancelled token = true ↔
      start.context.isCancelled token = true ∨
        ∃ cancelled ∈ start.cancellations happenings, cancelled.label ∈ token.lineage := by
  induction happenings generalizing start with
  | nil => simp [play, cancellations]
  | cons happening others ih =>
      rw [play, List.foldl_cons, ← play, ih, is_cancelled_apply, cancellations, or_assoc]
      simp only [List.mem_append, Option.mem_toList, Option.mem_def, or_and_right, exists_or]

theorem level_play (start : Surroundings σ) (happenings : List (Happening access))
    (sink : LevelSink) :
    (start.play happenings).context.level sink =
      sink.lastTold (start.tellings happenings) (start.context.level sink) := by
  induction happenings generalizing start with
  | nil => rfl
  | cons happening others ih =>
      rw [play, List.foldl_cons, ← play, ih, level_apply, tellings, LevelSink.last_told_append]

theorem play_append (start : Surroundings σ) (earlier later : List (Happening access)) :
    start.play (earlier ++ later) = (start.play earlier).play later :=
  List.foldl_append

end Surroundings

namespace Access

variable (access : Access σ)

theorem hints_is_cancelled (context : Context σ) :
    access.hints.isCancelled context = access.isCancelled context := rfl

theorem hints_level (context : Context σ) :
    access.hints.level context = access.level context := rfl

/-- Whatever happens to an access, to its hints and around them: the hints are
cancelled exactly when the access is, namely when it was from the start or a token of its
lineage has been cancelled; both show the level that their sink was told last; the
expiry and the message are those of the access; cancelling a token made from the token
of the hints changes neither; and once cancelled both stay so. -/
theorem hints_live_view (start : Surroundings σ) (happenings : List (Happening access)) :
    let after := start.play happenings
    (access.hints.isCancelled after.context = true ↔ access.isCancelled after.context = true) ∧
    (access.isCancelled after.context = true ↔
      access.isCancelled start.context = true ∨
        ∃ cancelled ∈ start.cancellations happenings,
          cancelled.label ∈ access.cancellation.lineage) ∧
    access.hints.level after.context = access.level after.context ∧
    (∀ sink ∈ access.sink,
      access.level after.context =
        some (sink.lastTold (start.tellings happenings) (start.context.level sink))) ∧
    access.hints.suggestedExpiry = access.suggestedExpiry ∧
    access.hints.disableMessage = access.noSharedCacheReason ∧
    (∀ lower, ∀ below : access.cancellation.Below lower,
      let beyond := (after.apply (.cancelBelow lower below)).context
      (access.isCancelled beyond = true ↔ access.isCancelled after.context = true) ∧
        access.level beyond = access.level after.context) ∧
    (∀ later : List (Happening access), access.isCancelled after.context = true →
      access.isCancelled (start.play (happenings ++ later)).context = true ∧
        access.hints.isCancelled (start.play (happenings ++ later)).context = true) := by
  intro after
  refine ⟨by rw [hints_is_cancelled], start.is_cancelled_play happenings access.cancellation,
    access.hints_level after.context, fun sink held => ?level, rfl, rfl,
    fun lower below => ?below, fun later done => ?stays⟩
  case level =>
    rw [Access.level, held, Option.map_some, start.level_play happenings sink]
  case below =>
    have cancelling := after.context.is_cancelled_cancel lower access.cancellation
    exact ⟨cancelling.trans (or_iff_left below.label_not_mem), rfl⟩
  case stays =>
    rw [start.play_append, hints_is_cancelled, and_self]
    exact (after.is_cancelled_play later access.cancellation).mpr (.inl done)

end Access

end TokenPersistence
