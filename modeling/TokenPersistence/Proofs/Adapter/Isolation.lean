import Mathlib.Logic.Function.Basic
import TokenPersistence.Proofs.Adapter.Tenancy

/-!
# Tenants are isolated by their prefixes

Tenants invoke their hooks and poll what they have invoked in any order. If the prefix of
a tenant neither starts with that of another one nor the other way round, the tenant fares
as if the moves of the others had not been made: its hooks end and log the same, its
collections hold the same, and so does the store under its keys. The invariant compares the
two plays: what the tenant has is equal, what is kept under its keys agrees, and its pending
hooks are twins, while what the others have pending spares its keys.
-/

namespace TokenPersistence.Rehearsal

set_option autoImplicit false

variable {ι κ τ : Type}

/-- A hook that a tenant has invoked: how far it has come, and what it has logged. -/
structure Visit (κ τ : Type) where
  progress : Progress (Context (Site κ τ)) (Except Failure Unit)
  log : List LogEvent

namespace Visit

def ending? (visit : Visit κ τ) : Option (Ending (Except Failure Unit)) :=
  match visit.progress with
  | .returned outcome => some (.returned outcome)
  | .panicked payload => some (.panicked payload)
  | .pending _ _ => none

def seen (visit : Visit κ τ) : Option (Ending (Except Failure Unit)) × List LogEvent :=
  (visit.ending?, visit.log)

def ofCall (call : Call (Site κ τ) Unit) : Visit κ τ := ⟨.pending true call.run, []⟩

/-- A poll of a hook that has come to its end changes nothing. -/
def poll (visit : Visit κ τ) (context : Context (Site κ τ)) : Visit κ τ × Context (Site κ τ) :=
  match visit.progress with
  | .pending _ rest =>
      (⟨(rest.poll context).progress, visit.log ++ (rest.poll context).log⟩,
        (rest.poll context).state)
  | _ => (visit, context)

structure Twin (owned : String → Prop) (visit other : Visit κ τ) : Prop where
  progress : Routine.TwinProgress (Site.Alike owned) visit.progress other.progress
  log : visit.log = other.log

/-- The rest of the hook changes nothing under other keys. -/
def Keeps (owned : String → Prop) (visit : Visit κ τ) : Prop :=
  ∀ woken rest, visit.progress = .pending woken rest →
    ∀ now, rest.Stays (Site.Spared owned) now

end Visit

/-- What the tenants share, what each of them has, with a clock and a source of nonces of
its own, and the hooks that each of them has invoked, by number. -/
structure Tenancy (ι κ τ : Type) where
  commons : Commons τ
  homes : ι → Context κ
  visits : ι → Nat → Option (Visit κ τ)

namespace Tenancy

/-- A tenant's host changes what it has, invokes a hook, in place of the one that had the
number before, or polls a hook; whoever runs the store makes operations fail. -/
inductive Move (ι κ : Type) where
  | act (tenant : ι) (change : Context κ → Context κ)
  | invoke (tenant : ι) (number : Nat) (kind : HookKind) (access : Access κ)
  | poll (tenant : ι) (number : Nat)
  | fail (failsWhen : Option (StoreOperation → Bool))

def Move.concerns [DecidableEq ι] (viewer : ι) : Move ι κ → Bool
  | .act tenant _ => tenant = viewer
  | .invoke tenant _ _ _ => tenant = viewer
  | .poll tenant _ => tenant = viewer
  | .fail _ => true

def opening (commons : Commons τ) (homes : ι → Context κ) : Tenancy ι κ τ where
  commons
  homes
  visits _ _ := none

def context (tenancy : Tenancy ι κ τ) (tenant : ι) : Context (Site κ τ) :=
  { tenancy.homes tenant with data := ⟨tenancy.commons, (tenancy.homes tenant).data⟩ }

variable [DecidableEq ι]

def setVisit (tenancy : Tenancy ι κ τ) (tenant : ι) (number : Nat) (visit : Visit κ τ) :
    Tenancy ι κ τ :=
  { tenancy with
    visits := Function.update tenancy.visits tenant
      (Function.update (tenancy.visits tenant) number (some visit)) }

def setContext (tenancy : Tenancy ι κ τ) (tenant : ι) (context : Context (Site κ τ)) :
    Tenancy ι κ τ :=
  { tenancy with
    commons := context.data.commons
    homes := Function.update tenancy.homes tenant (Site.ownCell.narrow context) }

def move (tenants : ι → Tenant κ τ) (tenancy : Tenancy ι κ τ) : Move ι κ → Tenancy ι κ τ
  | .act tenant change =>
      { tenancy with
        homes := Function.update tenancy.homes tenant (change (tenancy.homes tenant)) }
  | .invoke tenant number kind access =>
      tenancy.setVisit tenant number
        (Visit.ofCall ((tenants tenant).hooks.invoke kind (Site.access access)))
  | .poll tenant number =>
      match tenancy.visits tenant number with
      | none => tenancy
      | some visit =>
          (tenancy.setVisit tenant number (visit.poll (tenancy.context tenant)).1).setContext
            tenant (visit.poll (tenancy.context tenant)).2
  | .fail failsWhen =>
      { tenancy with
        commons := { tenancy.commons with store := { tenancy.commons.store with failsWhen } } }

def play (tenants : ι → Tenant κ τ) (tenancy : Tenancy ι κ τ) (moves : List (Move ι κ)) :
    Tenancy ι κ τ :=
  moves.foldl (move tenants) tenancy

end Tenancy

namespace Visit

variable {owned : String → Prop}

theorem Twin.seen {visit other : Visit κ τ} (twin : visit.Twin owned other) :
    visit.seen = other.seen := by
  obtain ⟨progress, log⟩ := visit
  obtain ⟨progressToo, logToo⟩ := other
  obtain ⟨equally, logged⟩ := twin
  cases equally with
  | returned outcome => exact congrArg (Prod.mk (some (Ending.returned outcome))) logged
  | panicked payload => exact congrArg (Prod.mk (some (Ending.panicked payload))) logged
  | pending twins => exact congrArg (Prod.mk none) logged

theorem Twin.poll {visit other : Visit κ τ} (twin : visit.Twin owned other)
    {first second : Context (Site κ τ)} (alike : Site.Alike owned first second) :
    (visit.poll first).1.Twin owned (other.poll second).1 ∧
      Site.Alike owned (visit.poll first).2 (other.poll second).2 := by
  obtain ⟨progress, log⟩ := visit
  obtain ⟨progressToo, logToo⟩ := other
  obtain ⟨equally, logged⟩ := twin
  cases equally with
  | returned outcome => exact ⟨⟨.returned outcome, logged⟩, alike⟩
  | panicked payload => exact ⟨⟨.panicked payload, logged⟩, alike⟩
  | pending twins =>
      obtain ⟨further, polled, states⟩ := twins.poll alike
      refine ⟨⟨further, ?_⟩, states⟩
      simp only [Visit.poll, polled]
      exact congrArg (· ++ _) logged

theorem Keeps.poll {visit : Visit κ τ} (keeps : visit.Keeps owned)
    (context : Context (Site κ τ)) :
    (visit.poll context).1.Keeps owned ∧ Site.Spared owned context (visit.poll context).2 := by
  obtain ⟨progress, log⟩ := visit
  cases progress with
  | returned outcome => exact ⟨keeps, .refl _ context.data.commons⟩
  | panicked payload => exact ⟨keeps, .refl _ context.data.commons⟩
  | pending woken rest =>
      obtain ⟨spared, further⟩ := (keeps woken rest rfl context).poll
        (fun state => .refl _ state.data.commons) (fun _ _ _ => Commons.AgreeOn.trans)
      exact ⟨further, spared⟩

end Visit

namespace Tenancy

variable {owned : String → Prop} {viewer : ι} {full alone : Tenancy ι κ τ}

/-- The tenant cannot tell the two tenancies apart. -/
structure Same (owned : String → Prop) (viewer : ι) (full alone : Tenancy ι κ τ) : Prop where
  home : full.homes viewer = alone.homes viewer
  commons : full.commons.AgreeOn owned alone.commons
  visits : ∀ number,
    Option.Rel (Visit.Twin owned) (full.visits viewer number) (alone.visits viewer number)

/-- What any tenant has pending changes nothing under keys that are not its own. -/
def Mindful (tenants : ι → Tenant κ τ) (tenancy : Tenancy ι κ τ) : Prop :=
  ∀ tenant number visit, tenancy.visits tenant number = some visit →
    visit.Keeps (tenants tenant).Owns

theorem Same.context (same : Same owned viewer full alone) :
    Site.Alike owned (full.context viewer) (alone.context viewer) := by
  refine ⟨?_, same.commons⟩
  simp only [Tenancy.context, same.home, Cell.narrow, Site.ownCell]

theorem Same.seen (same : Same owned viewer full alone) (number : Nat) :
    (full.visits viewer number).map Visit.seen = (alone.visits viewer number).map Visit.seen := by
  have pending := same.visits number
  revert pending
  generalize full.visits viewer number = visit, alone.visits viewer number = other
  intro pending
  cases pending with
  | none => rfl
  | some twin => exact congrArg some twin.seen

theorem opening_same (commons : Commons τ) (homes : ι → Context κ) :
    Same owned viewer (opening commons homes) (opening commons homes) :=
  ⟨rfl, .refl owned commons, fun _ => .none⟩

theorem opening_mindful (tenants : ι → Tenant κ τ) (commons : Commons τ) (homes : ι → Context κ) :
    Mindful tenants (opening commons homes) := by
  rintro _ _ _ ⟨⟩

variable [DecidableEq ι]

theorem Same.set_visit (same : Same owned viewer full alone) (number : Nat)
    {visit other : Visit κ τ} (twin : visit.Twin owned other) :
    Same owned viewer (full.setVisit viewer number visit) (alone.setVisit viewer number other) := by
  refine ⟨same.home, same.commons, ?_⟩
  intro asked
  simp only [setVisit, Function.update_self]
  by_cases changed : asked = number
  · subst changed
    simp only [Function.update_self]
    exact .some twin
  · simp only [Function.update_of_ne changed]
    exact same.visits asked

theorem Same.set_context (same : Same owned viewer full alone)
    {first second : Context (Site κ τ)} (alike : Site.Alike owned first second) :
    Same owned viewer (full.setContext viewer first) (alone.setContext viewer second) := by
  refine ⟨?_, alike.2, same.visits⟩
  simp only [setContext, Function.update_self, alike.1]

theorem Same.set_visit_of_other (same : Same owned viewer full alone) {tenant : ι}
    (different : viewer ≠ tenant) (number : Nat) (visit : Visit κ τ) :
    Same owned viewer (full.setVisit tenant number visit) alone := by
  refine ⟨same.home, same.commons, ?_⟩
  intro asked
  simp only [setVisit, Function.update_of_ne different]
  exact same.visits asked

theorem Same.set_context_of_other (same : Same owned viewer full alone) {tenant : ι}
    (different : viewer ≠ tenant) {context : Context (Site κ τ)}
    (spared : full.commons.AgreeOn owned context.data.commons) :
    Same owned viewer (full.setContext tenant context) alone := by
  refine ⟨?_, spared.symm.trans same.commons, same.visits⟩
  simp only [setContext, Function.update_of_ne different]
  exact same.home

variable {tenants : ι → Tenant κ τ}

theorem Same.move (same : Same (tenants viewer).Owns viewer full alone) (move : Move ι κ)
    (concerns : move.concerns viewer = true) :
    Same (tenants viewer).Owns viewer (full.move tenants move) (alone.move tenants move) := by
  cases move with
  | act tenant change =>
      obtain rfl : tenant = viewer := of_decide_eq_true concerns
      refine ⟨?_, same.commons, same.visits⟩
      simp only [Tenancy.move, Function.update_self, same.home]
  | invoke tenant number kind access =>
      obtain rfl : tenant = viewer := of_decide_eq_true concerns
      exact same.set_visit number
        ⟨.pending ((tenants tenant).hook_confined kind access).twins, rfl⟩
  | poll tenant number =>
      obtain rfl : tenant = viewer := of_decide_eq_true concerns
      have pending := same.visits number
      simp only [Tenancy.move]
      cases invoked : full.visits tenant number with
      | none =>
          cases invokedToo : alone.visits tenant number with
          | none => exact same
          | some other => simp [invoked, invokedToo] at pending
      | some visit =>
          cases invokedToo : alone.visits tenant number with
          | none => simp [invoked, invokedToo] at pending
          | some other =>
              rw [invoked, invokedToo] at pending
              cases pending with
              | some twin =>
                  obtain ⟨twins, alike⟩ := twin.poll same.context
                  exact (same.set_visit number twins).set_context alike
  | fail failsWhen =>
      exact ⟨same.home, ⟨⟨rfl, same.commons.store.entry⟩, same.commons.lock⟩, same.visits⟩

theorem Same.move_of_other (same : Same (tenants viewer).Owns viewer full alone)
    (mindful : Mindful tenants full)
    (apart : ∀ other, other ≠ viewer → ∀ key, (tenants viewer).Owns key →
      ¬ (tenants other).Owns key)
    (move : Move ι κ) (foreign : move.concerns viewer = false) :
    Same (tenants viewer).Owns viewer (full.move tenants move) alone := by
  cases move with
  | act tenant change =>
      have different : tenant ≠ viewer := of_decide_eq_false foreign
      refine ⟨?_, same.commons, same.visits⟩
      simp only [Tenancy.move, Function.update_of_ne different.symm, same.home]
  | invoke tenant number kind access =>
      have different : tenant ≠ viewer := of_decide_eq_false foreign
      exact same.set_visit_of_other different.symm number _
  | poll tenant number =>
      have different : tenant ≠ viewer := of_decide_eq_false foreign
      simp only [Tenancy.move]
      cases invoked : full.visits tenant number with
      | none => exact same
      | some visit =>
          have spared := ((mindful tenant number visit invoked).poll (full.context tenant)).2
          exact (same.set_visit_of_other different.symm number _).set_context_of_other
            different.symm (spared.mono (apart tenant different))
  | fail failsWhen => cases foreign

theorem Mindful.set_visit {tenancy : Tenancy ι κ τ} (mindful : Mindful tenants tenancy)
    (tenant : ι) (number : Nat) {visit : Visit κ τ} (keeps : visit.Keeps (tenants tenant).Owns) :
    Mindful tenants (tenancy.setVisit tenant number visit) := by
  intro asked askedNumber found present
  simp only [setVisit] at present
  by_cases sameTenant : asked = tenant
  · subst sameTenant
    rw [Function.update_self] at present
    by_cases sameNumber : askedNumber = number
    · subst sameNumber
      rw [Function.update_self] at present
      cases present
      exact keeps
    · rw [Function.update_of_ne sameNumber] at present
      exact mindful asked askedNumber found present
  · rw [Function.update_of_ne sameTenant] at present
    exact mindful asked askedNumber found present

theorem Mindful.move {tenancy : Tenancy ι κ τ} (mindful : Mindful tenants tenancy)
    (move : Move ι κ) : Mindful tenants (tenancy.move tenants move) := by
  cases move with
  | act tenant change => exact mindful
  | invoke tenant number kind access =>
      apply mindful.set_visit
      rintro _ _ ⟨⟩
      exact ((tenants tenant).hook_confined kind access).stays
  | poll tenant number =>
      simp only [Tenancy.move]
      cases invoked : tenancy.visits tenant number with
      | none => exact mindful
      | some visit =>
          exact mindful.set_visit tenant number
            ((mindful tenant number visit invoked).poll (tenancy.context tenant)).1
  | fail failsWhen => exact mindful

/-- Leaving out the moves of other tenants makes no difference to a tenant with other keys. -/
theorem Same.play (same : Same (tenants viewer).Owns viewer full alone)
    (mindful : Mindful tenants full)
    (apart : ∀ other, other ≠ viewer → ∀ key, (tenants viewer).Owns key →
      ¬ (tenants other).Owns key)
    (moves : List (Move ι κ)) :
    Same (tenants viewer).Owns viewer (full.play tenants moves)
      (alone.play tenants (moves.filter (Move.concerns viewer))) := by
  induction moves generalizing full alone with
  | nil => exact same
  | cons move moves ih =>
      cases concerns : move.concerns viewer with
      | true =>
          rw [List.filter_cons_of_pos concerns]
          exact ih (same.move move concerns) (mindful.move move)
      | false =>
          rw [List.filter_cons_of_neg (by simp [concerns])]
          exact ih (same.move_of_other mindful apart move concerns) (mindful.move move)

/-- Prefixes isolate tenants exactly if none of two starts with the other. If that holds
for a tenant and every other one, then in whatever order all of them change what they have,
invoke hooks and poll them, the tenant sees the same of its hooks, has the same, and finds
the same under its keys as if the others had not made a move. If one of two prefixes starts
with the other, some suggested keys of the two tenants are served under the same key. -/
theorem isolated_exactly_by_prefix (tenants : ι → Tenant κ τ) (viewer : ι)
    (commons : Commons τ) (homes : ι → Context κ) (moves : List (Move ι κ)) :
    ((∀ other, other ≠ viewer →
        ¬ KeyProvider.Nested (tenants viewer).keyPrefix (tenants other).keyPrefix) →
      let full := (opening commons homes).play tenants moves
      let alone := (opening commons homes).play tenants (moves.filter (Move.concerns viewer))
      (∀ number, (full.visits viewer number).map Visit.seen =
          (alone.visits viewer number).map Visit.seen) ∧
        full.homes viewer = alone.homes viewer ∧
        ∀ key, (tenants viewer).Owns key →
          full.commons.store.data.get? key = alone.commons.store.data.get? key) ∧
      ∀ other, KeyProvider.Nested (tenants viewer).keyPrefix (tenants other).keyPrefix →
        ∃ mine theirs key, mine ≠ "" ∧ theirs ≠ "" ∧
          (∀ access, access.suggestedKey = mine → (tenants viewer).adapter.Serves access key) ∧
          ∀ access, access.suggestedKey = theirs → (tenants other).adapter.Serves access key := by
  constructor
  · intro unlike
    -- The empty key belongs to nobody, so a common key comes of two suggested ones.
    have apart : ∀ other, other ≠ viewer → ∀ key, (tenants viewer).Owns key →
        ¬ (tenants other).Owns key := by
      intro other different key mine theirs
      exact unlike other different (KeyProvider.nested_of_common_key mine theirs)
    have same := Same.play (opening_same commons homes) (opening_mindful tenants commons homes)
      apart moves
    exact ⟨same.seen, same.home, same.commons.store.entry⟩
  · intro other nested
    obtain ⟨mine, theirs, named, namedToo, common⟩ := KeyProvider.common_key_of_nested nested
    have kept : (KeyProvider.withPrefix (tenants viewer).keyPrefix mine).isEmpty = false := by
      rw [Bool.eq_false_iff]
      exact fun vacant => KeyProvider.with_prefix_ne_empty _ named (String.isEmpty_iff.mp vacant)
    refine ⟨mine, theirs, KeyProvider.withPrefix (tenants viewer).keyPrefix mine, named, namedToo,
      ?_, ?_⟩
    · rintro access rfl
      exact ⟨rfl, kept⟩
    · rintro access rfl
      exact ⟨congrArg Attempt.returned common.symm, kept⟩

end Tenancy

def plainTenant (keyPrefix : String) : Tenant RecordingCollection Unit :=
  ⟨keyPrefix, ⟨none⟩, none, none, false⟩

def neighbours (first second : String) (isFirst : Bool) :
    Tenant RecordingCollection Unit :=
  plainTenant (if isFirst then first else second)

/-- A host with one collection, in whose partition something has changed. -/
def changedAccess : Access RecordingCollection :=
  ⟨RecordingCollection.toCollection Cell.whole, "k", true, true, false, .named "call", none, none,
    none⟩

def neighbourHomes (isFirst : Bool) : Context RecordingCollection :=
  Context.initial Timestamp.epoch
    { RecordingCollection.empty with state := if isFirst then [1] else [2] }

/-- Each of two tenants writes its partition, the second one in between what the first one
does; then the first one forgets what it has, and reads it again. -/
def neighbourMoves : List (Tenancy.Move Bool RecordingCollection) :=
  [.invoke true 0 .afterAccess changedAccess, .invoke false 0 .afterAccess changedAccess,
    .poll true 0, .poll false 0,
    .act true fun home => { home with data := RecordingCollection.empty },
    .invoke true 1 .beforeAccess changedAccess, .poll true 1]

/-- What the first tenant reads is what it has written, although the second one has written
as well, under the same suggested key; with nested prefixes the two would meet. -/
theorem neighbours_isolated :
    let opening := Tenancy.opening ⟨default, fun _ => ()⟩ neighbourHomes
    let full := opening.play (neighbours "a:" "b:") neighbourMoves
    ¬ KeyProvider.Nested "a:" "b:" ∧
      (full.homes true).data.state = [1] ∧
      full.commons.store.data.get? "a:k" = some [1] ∧
      (full.visits true 1).map Visit.seen =
        some (some (.returned (.ok ())), [.loaded "a:k" 1 false]) ∧
      KeyProvider.Nested "a" "a:" ∧
      ∃ mine theirs key, mine ≠ "" ∧ theirs ≠ "" ∧
        (∀ access, access.suggestedKey = mine →
          (neighbours "a" "a:" true).adapter.Serves access key) ∧
        ∀ access, access.suggestedKey = theirs →
          (neighbours "a" "a:" false).adapter.Serves access key := by
  intro opening full
  have apart : ¬ KeyProvider.Nested "a:" "b:" := by decide
  have meet : KeyProvider.Nested "a" "a:" := by decide
  obtain ⟨seen, home, entry⟩ :=
    (Tenancy.isolated_exactly_by_prefix (neighbours "a:" "b:") true ⟨default, fun _ => ()⟩
      neighbourHomes neighbourMoves).1 (by decide)
  refine ⟨apart, ?_, ?_, ?_, meet, ?_⟩
  · exact (congrArg (fun context => context.data.state) home).trans rfl
  · exact (entry "a:k" ⟨"k", by decide, rfl⟩).trans rfl
  · exact (seen 1).trans rfl
  · exact (Tenancy.isolated_exactly_by_prefix (neighbours "a" "a:") true ⟨default, fun _ => ()⟩
      neighbourHomes neighbourMoves).2 false meet

end TokenPersistence.Rehearsal
