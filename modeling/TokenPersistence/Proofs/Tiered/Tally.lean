import Mathlib.Logic.Function.Basic
import TokenPersistence.Bytes

/-!
# Tallies of calls

Writes that are put off take effect later, in the order of their calls; removals take
effect at once. A removal therefore overtakes the writes of its key that are still
pending, and what the last of them writes comes back when it is carried out. A tally
of the calls says which keys are in this state: those whose last call is a removal that
found a write of the key pending. Once nothing is pending these keys have a blob that
was removed, and all others have what the last call on them said.
-/

namespace TokenPersistence

set_option autoImplicit false

/-- What pending writes make of a map when they are carried out in their order. -/
def settle (pending : List (String × Bytes)) (shared : String → Option Bytes) :
    String → Option Bytes :=
  pending.foldl (fun settled job => Function.update settled job.1 (some job.2)) shared

@[simp] theorem settle_nil (shared : String → Option Bytes) : settle [] shared = shared := rfl

@[simp] theorem settle_cons (job : String × Bytes) (pending : List (String × Bytes))
    (shared : String → Option Bytes) :
    settle (job :: pending) shared =
      settle pending (Function.update shared job.1 (some job.2)) := rfl

@[simp] theorem settle_append (pending later : List (String × Bytes))
    (shared : String → Option Bytes) :
    settle (pending ++ later) shared = settle later (settle pending shared) :=
  List.foldl_append

theorem settle_key (pending : List (String × Bytes)) (shared : String → Option Bytes)
    (key : String) :
    settle pending shared key = (settle pending (fun _ => none) key).or (shared key) := by
  induction pending generalizing shared with
  | nil => rfl
  | cons job pending ih =>
      rw [settle_cons, settle_cons, ih, ih (Function.update (fun _ => none) _ _), Option.or_assoc]
      congr 1
      by_cases same : key = job.1
      · rw [same, Function.update_self, Function.update_self, Option.some_or]
      · rw [Function.update_of_ne same, Function.update_of_ne same, Option.none_or]

/-- What the calls so far ask for under each key, the writes that have not been carried
out, and what a removal that was the last call on its key will be undone to. -/
structure Tally where
  intended : String → Option Bytes
  pending : List (String × Bytes)
  overtaken : String → Option Bytes

namespace Tally

def start (shared : String → Option Bytes) : Tally := ⟨shared, [], fun _ => none⟩

def write (tally : Tally) (key : String) (bytes : Bytes) : Tally where
  intended := Function.update tally.intended key (some bytes)
  pending := tally.pending ++ [(key, bytes)]
  overtaken := Function.update tally.overtaken key none

def remove (tally : Tally) (key : String) : Tally where
  intended := Function.update tally.intended key none
  pending := tally.pending
  overtaken := Function.update tally.overtaken key (settle tally.pending (fun _ => none) key)

def job (tally : Tally) : Tally := { tally with pending := tally.pending.tail }

/-- The pending writes lead to what was intended, except where they were overtaken. -/
structure Accounts (tally : Tally) (shared : String → Option Bytes) : Prop where
  settled : ∀ key, settle tally.pending shared key =
    (tally.overtaken key).or (tally.intended key)
  removed : ∀ key bytes, tally.overtaken key = some bytes → tally.intended key = none

theorem accounts_start (shared : String → Option Bytes) : (start shared).Accounts shared :=
  ⟨fun _ => rfl, fun _ _ overtaken => by cases overtaken⟩

theorem Accounts.write {tally : Tally} {shared : String → Option Bytes}
    (accounts : tally.Accounts shared) (key : String) (bytes : Bytes) :
    (tally.write key bytes).Accounts shared := by
  refine ⟨?_, ?_⟩
  · intro other
    simp only [Tally.write, settle_append, settle_cons, settle_nil]
    by_cases same : other = key
    · rw [same, Function.update_self, Function.update_self, Function.update_self,
        Option.none_or]
    · rw [Function.update_of_ne same, Function.update_of_ne same, Function.update_of_ne same]
      exact accounts.settled other
  · intro other blob overtaken
    simp only [Tally.write] at overtaken ⊢
    by_cases same : other = key
    · rw [same, Function.update_self] at overtaken
      cases overtaken
    · rw [Function.update_of_ne same] at overtaken ⊢
      exact accounts.removed other blob overtaken

theorem Accounts.remove {tally : Tally} {shared : String → Option Bytes}
    (accounts : tally.Accounts shared) (key : String) :
    (tally.remove key).Accounts (Function.update shared key none) := by
  refine ⟨?_, ?_⟩
  · intro other
    simp only [Tally.remove]
    rw [settle_key]
    by_cases same : other = key
    · rw [same, Function.update_self, Function.update_self, Function.update_self]
    · rw [Function.update_of_ne same, Function.update_of_ne same, Function.update_of_ne same,
        ← settle_key]
      exact accounts.settled other
  · intro other blob overtaken
    simp only [Tally.remove] at overtaken ⊢
    by_cases same : other = key
    · rw [same, Function.update_self]
    · rw [Function.update_of_ne same] at overtaken ⊢
      exact accounts.removed other blob overtaken

theorem Accounts.job {tally : Tally} {shared : String → Option Bytes}
    (accounts : tally.Accounts shared) {key : String} {bytes : Bytes}
    {rest : List (String × Bytes)} (next : tally.pending = (key, bytes) :: rest) :
    tally.job.Accounts (Function.update shared key (some bytes)) := by
  refine ⟨?_, accounts.removed⟩
  intro other
  have settled := accounts.settled other
  rw [next, settle_cons] at settled
  simp only [Tally.job, next, List.tail_cons]
  exact settled

/-- When nothing is pending, a key has what was intended unless it was overtaken. -/
theorem Accounts.drained {tally : Tally} {shared : String → Option Bytes}
    (accounts : tally.Accounts shared) (drained : tally.pending = []) (key : String) :
    (shared key = tally.intended key ↔ tally.overtaken key = none) ∧
      ∀ bytes, tally.overtaken key = some bytes →
        tally.intended key = none ∧ shared key = some bytes := by
  have settled := accounts.settled key
  rw [drained, settle_nil] at settled
  cases overtaken : tally.overtaken key with
  | none =>
      rw [overtaken, Option.none_or] at settled
      exact ⟨⟨fun _ => rfl, fun _ => settled⟩, fun bytes impossible => by cases impossible⟩
  | some blob =>
      have removed := accounts.removed key blob overtaken
      rw [overtaken, Option.some_or] at settled
      rw [settled, removed]
      refine ⟨?_, fun bytes same => ⟨rfl, same⟩⟩
      constructor
      · intro impossible
        cases impossible
      · intro impossible
        cases impossible

end Tally

end TokenPersistence
