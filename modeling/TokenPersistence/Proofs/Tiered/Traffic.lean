import TokenPersistence.Proofs.Tiered.Conduct

/-!
# Overlapping calls

Any number of calls on one tiered store are in flight at once. A call is in flight from
its first poll on, if that leaves it pending, and until the poll that ends it; the calls are
polled in any order, and between two polls time may pass and tokens may be cancelled. While
no change of a key is in flight, the two levels agree under it, with these exceptions. The
last change of the key to begin was a write, and

* another change of the key was in flight when it began, or
* it was cancelled in flight, before any other change of the key began;

or, since the last change of the key began, a read of the key has copied the answer of the
shared cache into memory that had been in flight together with a change of the key.
-/

namespace TokenPersistence

set_option autoImplicit false

variable {σ : Type}

/-- A call that was left pending. It has missed if it found nothing in memory when it
began, and is crossed if it has been in flight together with a change of its key. -/
structure Flight (σ : Type) where
  call : StoreCall
  missed : Bool
  crossed : Bool
  rest : Routine (Context σ) (Except Failure (Option Bytes))

namespace StoreCall

def changesKey (call : StoreCall) (key : String) : Bool := call.changes && call.key == key

theorem changesKey_elsewhere {call : StoreCall} {key : String} (different : key ≠ call.key) :
    call.changesKey key = false := by
  simp [StoreCall.changesKey, Ne.symm different]

end StoreCall

namespace Flight

def meet (flight : Flight σ) (call : StoreCall) : Flight σ :=
  { flight with crossed := flight.crossed || call.changesKey flight.call.key }

/-- A crossed read that has copied an answer spoils its key, and so does a cancelled write
if no other change of the key has begun meanwhile. -/
def spoils (flight : Flight σ) (outcome : Except Failure (Option Bytes)) : Bool :=
  match flight.call, outcome with
  | .read _, .ok answer => answer.isSome && flight.missed && flight.crossed
  | .write .., .error _ => !flight.crossed
  | _, _ => false

/-- Two calls are crossed if they are for one key and the other one is a change. -/
def Crosses (first second : Flight σ) : Prop :=
  first.call.key = second.call.key →
    (second.call.changes = true → first.crossed = true) ∧
      (first.call.changes = true → second.crossed = true)

theorem Crosses.symm {first second : Flight σ} (crosses : Crosses first second) :
    Crosses second first :=
  fun same => (crosses same.symm).symm

theorem meet_same {flight : Flight σ} {call : StoreCall}
    (spared : call.changesKey flight.call.key = false) : flight.meet call = flight := by
  simp [Flight.meet, spared]

end Flight

/-- The calls in flight, and the keys that their overlaps have spoilt. -/
structure Traffic (σ : Type) where
  flights : List (Flight σ)
  spoilt : String → Bool

namespace Traffic

def empty : Traffic σ := ⟨[], fun _ => false⟩

def busy (flights : List (Flight σ)) (key : String) : Bool :=
  flights.any fun flight => flight.call.changesKey key

/-- A change that begins puts its key in order, a write only if it is alone. -/
def opened (traffic : Traffic σ) : StoreCall → String → Bool
  | .read _ => traffic.spoilt
  | .write key _ => Function.update traffic.spoilt key (busy traffic.flights key)
  | .remove key => Function.update traffic.spoilt key false

def closed (spoilt : String → Bool) (flight : Flight σ)
    (outcome : Except Failure (Option Bytes)) : String → Bool :=
  Function.update spoilt flight.call.key (spoilt flight.call.key || flight.spoils outcome)

def polled (front back : List (Flight σ)) (spoilt : String → Bool) (flight : Flight σ) :
    Progress (Context σ) (Except Failure (Option Bytes)) → Traffic σ
  | .returned outcome => ⟨front ++ back, closed spoilt flight outcome⟩
  | .panicked _ => ⟨front ++ back, spoilt⟩
  | .pending _ rest => ⟨front ++ { flight with rest } :: back, spoilt⟩

def met (traffic : Traffic σ) (call : StoreCall) : List (Flight σ) :=
  traffic.flights.map fun flight => flight.meet call

def entrant (traffic : Traffic σ) (store : TieredStore σ) (hints : CallHints)
    (call : StoreCall) (now : Context σ) : Flight σ where
  call
  missed := (store.nearBlob? now call.key).isNone
  crossed := busy traffic.flights call.key
  rest := store.perform hints call

/-- After the first poll of a call. A call that finds its token cancelled does not begin. -/
def begin (traffic : Traffic σ) (store : TieredStore σ) (hints : CallHints)
    (call : StoreCall) (now : Context σ) : Traffic σ :=
  if hints.isCancelled now then traffic
  else
    polled [] (traffic.met call) (traffic.opened call) (traffic.entrant store hints call now)
      ((store.perform hints call).poll now).progress

def poll (traffic : Traffic σ) (index : Nat) (now : Context σ) : Traffic σ × Context σ :=
  match traffic.flights[index]? with
  | none => (traffic, now)
  | some flight =>
      (polled (traffic.flights.take index) (traffic.flights.drop (index + 1)) traffic.spoilt
          flight (flight.rest.poll now).progress,
        (flight.rest.poll now).state)

open Flight (Crosses)

variable {flight : Flight σ} {front back : List (Flight σ)} {key : String}
  {spoilt : String → Bool} {progress : Progress (Context σ) (Except Failure (Option Bytes))}
  {traffic : Traffic σ} {call : StoreCall}

theorem busy_eq_false {flights : List (Flight σ)} :
    busy flights key = false ↔ ∀ flight ∈ flights, flight.call.changesKey key = false := by
  simp [busy]

theorem crosses_of_mem (crosses : (front ++ flight :: back).Pairwise Crosses) :
    ∀ other ∈ front ++ back, Crosses flight other := by
  obtain ⟨_, behind, ahead⟩ := List.pairwise_append.mp crosses
  intro other known
  rcases List.mem_append.mp known with inFront | inBack
  · exact (ahead other inFront flight List.mem_cons_self).symm
  · exact (List.pairwise_cons.mp behind).1 other inBack

theorem mem_among {other : Flight σ} (known : other ∈ front ++ back) :
    other ∈ front ++ flight :: back := by
  simp only [List.mem_append, List.mem_cons] at known ⊢
  exact known.imp_right Or.inr

theorem eq_or_mem {other : Flight σ} (known : other ∈ front ++ flight :: back) :
    other = flight ∨ other ∈ front ++ back := by
  simp only [List.mem_append, List.mem_cons] at known ⊢
  rcases known with inFront | here | inBack
  · exact Or.inr (Or.inl inFront)
  · exact Or.inl here
  · exact Or.inr (Or.inr inBack)

theorem quiet_of_uncrossed (crosses : ∀ other ∈ front ++ back, Crosses flight other)
    (uncrossed : flight.crossed = false) (unchanging : flight.call.changes = false) :
    busy (front ++ flight :: back) flight.call.key = false := by
  rw [busy_eq_false]
  intro other known
  rcases eq_or_mem known with rfl | still
  · simp [StoreCall.changesKey, unchanging]
  · cases changes : other.call.changesKey flight.call.key with
    | false => rfl
    | true =>
        simp only [StoreCall.changesKey, Bool.and_eq_true, beq_iff_eq] at changes
        rw [(crosses other still changes.2.symm).1 changes.1] at uncrossed
        cases uncrossed

theorem mem_polled {other : Flight σ}
    (known : other ∈ (polled front back spoilt flight progress).flights) :
    other ∈ front ++ back ∨
      ∃ woken rest, progress = .pending woken rest ∧ other = { flight with rest } := by
  cases progress with
  | returned outcome => exact Or.inl known
  | panicked payload => exact Or.inl known
  | pending woken rest =>
      rcases eq_or_mem known with here | there
      · exact Or.inr ⟨woken, rest, rfl, here⟩
      · exact Or.inl there

theorem polled_mem {other : Flight σ} (known : other ∈ front ++ back) :
    other ∈ (polled front back spoilt flight progress).flights := by
  cases progress with
  | returned outcome => exact known
  | panicked payload => exact known
  | pending woken rest => exact mem_among known

theorem crosses_polled (crosses : (front ++ flight :: back).Pairwise Crosses) :
    (polled front back spoilt flight progress).flights.Pairwise Crosses := by
  have without : (front ++ back).Pairwise Crosses :=
    crosses.sublist ((List.sublist_cons_self flight back).append_left front)
  cases progress with
  | returned outcome => exact without
  | panicked payload => exact without
  | pending woken rest =>
      obtain ⟨inFront, behind, ahead⟩ := List.pairwise_append.mp crosses
      obtain ⟨met, inBack⟩ := List.pairwise_cons.mp behind
      refine List.pairwise_append.mpr ⟨inFront, List.pairwise_cons.mpr ⟨met, inBack⟩, ?_⟩
      intro first firstKnown second secondKnown
      rcases List.mem_cons.mp secondKnown with rfl | later
      · exact ahead first firstKnown flight List.mem_cons_self
      · exact ahead first firstKnown second (List.mem_cons_of_mem _ later)

theorem closed_unspoilt {outcome : Except Failure (Option Bytes)}
    (unspoilt : closed spoilt flight outcome key = false) :
    spoilt key = false ∧ (flight.call.key = key → flight.spoils outcome = false) := by
  unfold closed at unspoilt
  by_cases same : key = flight.call.key
  · subst same
    rw [Function.update_self, Bool.or_eq_false_iff] at unspoilt
    exact ⟨unspoilt.1, fun _ => unspoilt.2⟩
  · rw [Function.update_of_ne same] at unspoilt
    exact ⟨unspoilt, fun here => absurd here.symm same⟩

theorem polled_unspoilt
    (unspoilt : (polled front back spoilt flight progress).spoilt key = false) :
    spoilt key = false := by
  cases progress with
  | returned outcome => exact (closed_unspoilt unspoilt).1
  | panicked payload => exact unspoilt
  | pending woken rest => exact unspoilt

theorem crosses_begun (store : TieredStore σ) (hints : CallHints) (call : StoreCall)
    (now : Context σ) (crosses : traffic.flights.Pairwise Crosses) :
    ([] ++ traffic.entrant store hints call now :: traffic.met call).Pairwise Crosses := by
  refine List.pairwise_cons.mpr ⟨?_, ?_⟩
  · intro other known
    obtain ⟨flight, present, rfl⟩ := List.mem_map.mp known
    intro same
    have sameKey : call.key = flight.call.key := same
    refine ⟨?_, ?_⟩
    · intro changes
      apply List.any_eq_true.mpr
      refine ⟨flight, present, ?_⟩
      simp only [StoreCall.changesKey, Bool.and_eq_true, beq_iff_eq]
      exact ⟨changes, sameKey.symm⟩
    · intro changes
      have callChanges : call.changes = true := changes
      simp [Flight.meet, StoreCall.changesKey, callChanges, sameKey]
  · apply List.Pairwise.map _ _ crosses
    intro first second crossed same
    obtain ⟨forth, back⟩ := crossed same
    refine ⟨?_, ?_⟩
    · intro changes
      simp [Flight.meet, forth changes]
    · intro changes
      simp [Flight.meet, back changes]

theorem busy_met (traffic : Traffic σ) (call : StoreCall) (key : String) :
    busy (traffic.met call) key = busy traffic.flights key := by
  unfold busy met
  rw [List.any_map]
  rfl

theorem opened_unspoilt {key : String} (unspoilt : traffic.opened call key = false)
    (unchanging : call.changesKey key = false) : traffic.spoilt key = false := by
  cases call with
  | read name => exact unspoilt
  | write name bytes =>
      have other : key ≠ name := by
        rintro rfl
        simp [StoreCall.changesKey, StoreCall.changes, StoreCall.key] at unchanging
      rwa [opened, Function.update_of_ne other] at unspoilt
  | remove name =>
      have other : key ≠ name := by
        rintro rfl
        simp [StoreCall.changesKey, StoreCall.changes, StoreCall.key] at unchanging
      rwa [opened, Function.update_of_ne other] at unspoilt

end Traffic

namespace Backend

/-- The states of a store under overlapping calls, with the calls in flight. -/
inductive Flown (backend : Backend σ) (store : TieredStore σ) :
    Traffic σ → Context σ → Prop where
  | start (now : Context σ) (clock : now.clockIsBroken = false)
      (reliable : backend.reliable now.data)
      (fresh : ∀ l1, store.l1 = some l1 →
        l1.get now.data = TieredStore.initialCache store.options) :
      Flown backend store Traffic.empty now
  | between (traffic : Traffic σ) (before after : Context σ)
      (earlier : Flown backend store traffic before) (calm : backend.Calm store before after) :
      Flown backend store traffic after
  | begin (traffic : Traffic σ) (now : Context σ) (hints : CallHints) (call : StoreCall)
      (earlier : Flown backend store traffic now) :
      Flown backend store (traffic.begin store hints call now)
        ((store.perform hints call).poll now).state
  | poll (traffic : Traffic σ) (now : Context σ) (index : Nat)
      (earlier : Flown backend store traffic now) :
      Flown backend store (traffic.poll index now).1 (traffic.poll index now).2

end Backend

end TokenPersistence
