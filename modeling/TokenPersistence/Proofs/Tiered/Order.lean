import TokenPersistence.Proofs.Tiered.Traffic
import TokenPersistence.Proofs.Tiered.Work

/-!
# Order among overlapping calls

What holds in every state of a store under overlapping calls. Each call in flight goes on
as its conduct says. Two calls for one key, one of them a change, know of each other. And
under every key that is not spoilt, memory has at most what each change in flight is about
to bring about undisturbed, or what the shared cache has, if no change is in flight: a
removal in flight has left nothing there, and a write has left what it writes, as long as
no other change of the key has begun.
-/

namespace TokenPersistence

set_option autoImplicit false

open Flight (Crosses)

variable {σ : Type}

namespace Backend

variable {backend : Backend σ} {store : TieredStore σ} {flight : Flight σ}
  {flights front back : List (Flight σ)} {key : String} {now before after : Context σ}

/-- Whatever the call does from now on is in keeping with its conduct. A call that is not
crossed may count on others to spare its key. -/
def Flies (backend : Backend σ) (store : TieredStore σ) (flight : Flight σ)
    (now : Context σ) : Prop :=
  ∀ spared : Prop, (spared → flight.crossed = false) → ∀ later,
    backend.Company store flight.call.key spared now later →
      flight.rest.Amid (backend.Company store flight.call.key spared)
        (backend.Conduct store flight.call flight.missed spared)
        (backend.Conduct store flight.call flight.missed spared later) later

/-- What is in memory under the key is what each change in flight is about to bring about
undisturbed; if there is none, it is what the shared cache has. -/
structure Settled (backend : Backend σ) (store : TieredStore σ) (flights : List (Flight σ))
    (key : String) (now : Context σ) : Prop where
  changing : ∀ flight ∈ flights, flight.call.changesKey key = true →
    ∀ entry, (key, entry) ∈ store.near now →
      flight.call = .write key entry.bytes ∧ flight.crossed = false
  quiet : Traffic.busy flights key = false →
    ∀ entry, (key, entry) ∈ store.near now →
      backend.contents now.data key = some entry.bytes

structure Orderly (backend : Backend σ) (store : TieredStore σ) (traffic : Traffic σ)
    (now : Context σ) : Prop where
  stands : backend.Stands store now
  flies : ∀ flight ∈ traffic.flights, backend.Flies store flight now
  crosses : traffic.flights.Pairwise Crosses
  settled : ∀ key, traffic.spoilt key = false → backend.Settled store traffic.flights key now

theorem settled_of_vacant (flights : List (Flight σ))
    (vacant : ∀ entry, (key, entry) ∉ store.near now) :
    backend.Settled store flights key now :=
  ⟨fun _ _ _ entry present => absurd present (vacant entry),
    fun _ entry present => absurd present (vacant entry)⟩

theorem Settled.spares (settled : backend.Settled store flights key before)
    (spares : backend.Spares store key before after) :
    backend.Settled store flights key after := by
  refine ⟨fun flight known changes entry present =>
    settled.changing flight known changes entry (spares.near entry present), ?_⟩
  intro quiet entry present
  rw [spares.shared]
  exact settled.quiet quiet entry (spares.near entry present)

theorem Settled.regroup {others : List (Flight σ)}
    (settled : backend.Settled store flights key now)
    (more : ∀ flight ∈ others, flight.call.changesKey key = true → flight ∈ flights)
    (fewer : ∀ flight ∈ flights, flight.call.changesKey key = true → flight ∈ others) :
    backend.Settled store others key now := by
  refine ⟨fun flight known changes =>
    settled.changing flight (more flight known changes) changes, ?_⟩
  intro quiet
  apply settled.quiet
  rw [Traffic.busy_eq_false] at quiet ⊢
  intro flight known
  cases changes : flight.call.changesKey key with
  | false => rfl
  | true => exact changes.symm.trans (quiet flight (fewer flight known changes))

theorem Flies.marked {mark : Bool} (flies : backend.Flies store flight before)
    (kept : mark = false → flight.crossed = false) (stands : backend.Stands store after)
    (spares : mark = false →
      backend.contents after.data flight.call.key = backend.contents before.data flight.call.key) :
    backend.Flies store { flight with crossed := mark } after := by
  intro spared unmarked later company
  apply flies spared (fun bound => kept (unmarked bound)) later
  exact Company.trans ⟨stands, fun bound => spares (unmarked bound)⟩ company

section Poll

variable {spoilt : String → Bool} {value : Option Bytes}
  {progress : Progress (Context σ) (Except Failure (Option Bytes))}

theorem settled_polled (settled : backend.Settled store (front ++ flight :: back) key now)
    (unchanging : flight.call.changesKey key = false) :
    backend.Settled store (Traffic.polled front back spoilt flight progress).flights key now := by
  apply settled.regroup
  · intro other known changes
    rcases Traffic.mem_polled known with still | ⟨_, rest, _, rfl⟩
    · exact Traffic.mem_among still
    · exact absurd (unchanging.symm.trans changes) Bool.false_ne_true
  · intro other known changes
    rcases Traffic.eq_or_mem known with rfl | still
    · exact absurd (unchanging.symm.trans changes) Bool.false_ne_true
    · exact Traffic.polled_mem still

theorem settled_read (reads : flight.call = .read key)
    (settled : backend.Settled store (front ++ flight :: back) key now)
    (crosses : ∀ other ∈ front ++ back, Crosses flight other)
    (kept : Routine.Kept (backend.Company store key (flight.crossed = false))
      (backend.Answers store key flight.missed (flight.crossed = false))
      (backend.Answers store key flight.missed (flight.crossed = false) now) progress after)
    (unspoilt : (Traffic.polled front back spoilt flight progress).spoilt key = false) :
    backend.Settled store (Traffic.polled front back spoilt flight progress).flights key
      after := by
  have sameKey : flight.call.key = key := by
    rw [reads]
    rfl
  have unchanging : flight.call.changes = false := by
    rw [reads]
    rfl
  have looks : flight.call.changesKey key = false := by
    rw [reads]
    rfl
  cases progress with
  | panicked payload => cases kept
  | pending woken rest => exact settled_polled (settled.spares (kept.1.spares key)) looks
  | returned outcome =>
      rcases kept with calm | ⟨missed, bytes, rfl, copies, known⟩
      · exact settled_polled (settled.spares (calm.spares key)) looks
      · cases crossed : flight.crossed with
        | true =>
            have spoils := (Traffic.closed_unspoilt unspoilt).2 sameKey
            simp [Flight.spoils, reads, missed, crossed] at spoils
        | false =>
            -- No change of the key is in flight, and none has been since the read began.
            have quiet := Traffic.quiet_of_uncrossed crosses crossed unchanging
            rw [sameKey] at quiet
            apply settled_polled _ looks
            refine ⟨fun other present changes => ?_, fun _ entry present => ?_⟩
            · rw [Traffic.busy_eq_false.mp quiet other present] at changes
              cases changes
            · rcases copies.near entry present with old | new
              · rw [copies.shared]
                exact settled.quiet quiet entry old
              · rw [known crossed, new]

/-- The changes in flight account for what is in memory, and the one that was polled has
brought it into the shared cache if it is done. -/
theorem settled_of_change (changes : flight.call.changesKey key = true)
    (others : ∀ other ∈ front ++ back, other.call.changesKey key = true →
      ∀ entry, (key, entry) ∈ store.near after →
        other.call = .write key entry.bytes ∧ other.crossed = false)
    (own : ∀ entry, (key, entry) ∈ store.near after →
      flight.call = .write key entry.bytes ∧ flight.crossed = false)
    (reached : ∀ outcome, progress = .returned outcome → flight.crossed = false →
      ∀ bytes answer, flight.call = .write key bytes → outcome = .ok answer →
        backend.contents after.data key = some bytes)
    (ends : ∀ payload, progress ≠ .panicked payload)
    (unspoilt : (Traffic.polled front back spoilt flight progress).spoilt key = false) :
    backend.Settled store (Traffic.polled front back spoilt flight progress).flights key
      after := by
  refine ⟨?_, ?_⟩
  · intro other known otherChanges entry present
    rcases Traffic.mem_polled known with still | ⟨_, rest, _, rfl⟩
    · exact others other still otherChanges entry present
    · exact own entry present
  · intro quiet entry present
    obtain ⟨writes, alone⟩ := own entry present
    cases progress with
    | panicked payload => exact absurd rfl (ends payload)
    | pending woken rest =>
        have here := Traffic.busy_eq_false.mp quiet { flight with rest }
          (List.mem_append_right _ List.mem_cons_self)
        exact absurd (here.symm.trans changes) Bool.false_ne_true
    | returned outcome =>
        -- What a failed write has left in memory is there only if it spoils the key.
        cases outcome with
        | ok answer => exact reached _ rfl alone entry.bytes answer writes rfl
        | error failure =>
            have spoils := (Traffic.closed_unspoilt unspoilt).2 (by rw [writes]; rfl)
            simp [Flight.spoils, writes, alone] at spoils

theorem settled_change (changes : flight.call.changesKey key = true)
    (brings : ∀ bytes, flight.call = .write key bytes → value = some bytes)
    (settled : backend.Settled store (front ++ flight :: back) key now)
    (kept : Routine.Kept (backend.Company store key (flight.crossed = false))
      (backend.Finishes store key value (flight.crossed = false))
      (backend.Finishes store key value (flight.crossed = false) now) progress after)
    (unspoilt : (Traffic.polled front back spoilt flight progress).spoilt key = false) :
    backend.Settled store (Traffic.polled front back spoilt flight progress).flights key
      after := by
  have remains : ∀ entry, (key, entry) ∈ store.near after → (key, entry) ∈ store.near now :=
    kept.holds (fun _ changed => changed.near) fun _ _ ended => ended.1.near
  have here : flight ∈ front ++ flight :: back := List.mem_append_right _ List.mem_cons_self
  apply settled_of_change changes _ _ _ _ unspoilt
  · intro other still otherChanges entry present
    exact settled.changing other (Traffic.mem_among still) otherChanges entry
      (remains entry present)
  · intro entry present
    exact settled.changing flight here changes entry (remains entry present)
  · rintro outcome rfl alone bytes answer writes rfl
    rw [kept.2 alone answer rfl]
    exact brings bytes writes
  · rintro payload rfl
    exact kept

theorem settled_begun (changes : flight.call.changesKey key = true)
    (brings : ∀ bytes, flight.call = .write key bytes ↔ value = some bytes)
    (alone : ∀ bytes, flight.call = .write key bytes →
      flight.crossed = false ∧ Traffic.busy (front ++ back) key = false)
    (kept : Routine.Kept (backend.Company store key (flight.crossed = false))
      (backend.Finishes store key value (flight.crossed = false))
      (backend.Begins store key value (flight.crossed = false) now) progress after)
    (unspoilt : (Traffic.polled front back spoilt flight progress).spoilt key = false) :
    backend.Settled store (Traffic.polled front back spoilt flight progress).flights key
      after := by
  have own : ∀ entry, (key, entry) ∈ store.near after → flight.call = .write key entry.bytes := by
    intro entry
    have bound : (key, entry) ∈ store.near after → value = some entry.bytes :=
      kept.holds (fun _ entered => entered.near entry) fun _ _ ended => ended.1.near entry
    exact fun present => (brings entry.bytes).mpr (bound present)
  apply settled_of_change changes _ _ _ _ unspoilt
  · intro other still otherChanges entry present
    have quiet := (alone entry.bytes (own entry present)).2
    rw [Traffic.busy_eq_false.mp quiet other still] at otherChanges
    cases otherChanges
  · intro entry present
    have writes := own entry present
    exact ⟨writes, (alone entry.bytes writes).1⟩
  · rintro outcome rfl uncrossed bytes answer writes rfl
    rw [kept.2 uncrossed answer rfl]
    exact (brings bytes).mp writes
  · rintro payload rfl
    exact kept

theorem conduct_confined {call : StoreCall} {missed : Bool} {spared : Prop}
    (kept : Routine.Kept (backend.Company store call.key spared)
      (backend.Conduct store call missed spared) (backend.Conduct store call missed spared now)
      progress after) :
    backend.Confined store call.key now after ∧
      (call.changes = false →
        backend.contents after.data call.key = backend.contents now.data call.key) := by
  cases call with
  | read key =>
      apply kept.holds
      · intro state calm
        exact ⟨calm.confined key, fun _ => (calm.spares key).shared⟩
      · intro outcome state ended
        rcases ended with calm | ⟨_, _, _, copies, _⟩
        · exact ⟨calm.confined key, fun _ => (calm.spares key).shared⟩
        · exact ⟨copies.confined, fun _ => copies.shared⟩
  | write key bytes =>
      exact ⟨kept.holds (fun _ changed => changed.confined) fun _ _ ended => ended.1.confined,
        fun looks => by cases looks⟩
  | remove key =>
      exact ⟨kept.holds (fun _ changed => changed.confined) fun _ _ ended => ended.1.confined,
        fun looks => by cases looks⟩

theorem opening_confined {call : StoreCall} {spared : Prop}
    (kept : Routine.Kept (backend.Company store call.key spared)
      (backend.Conduct store call (store.nearBlob? now call.key).isNone spared)
      (backend.Opening store call spared now) progress after) :
    backend.Confined store call.key now after ∧
      (call.changes = false →
        backend.contents after.data call.key = backend.contents now.data call.key) := by
  cases call with
  | read key => exact conduct_confined kept
  | write key bytes =>
      exact ⟨kept.holds (fun _ entered => entered.confined) fun _ _ ended => ended.1.confined,
        fun looks => by cases looks⟩
  | remove key =>
      exact ⟨kept.holds (fun _ entered => entered.confined) fun _ _ ended => ended.1.confined,
        fun looks => by cases looks⟩

theorem settled_conducted (settled : backend.Settled store (front ++ flight :: back) key now)
    (crosses : ∀ other ∈ front ++ back, Crosses flight other)
    (kept : Routine.Kept (backend.Company store flight.call.key (flight.crossed = false))
      (backend.Conduct store flight.call flight.missed (flight.crossed = false))
      (backend.Conduct store flight.call flight.missed (flight.crossed = false) now)
      progress after)
    (unspoilt : (Traffic.polled front back spoilt flight progress).spoilt key = false) :
    backend.Settled store (Traffic.polled front back spoilt flight progress).flights key
      after := by
  by_cases same : key = flight.call.key
  · cases call : flight.call with
    | read name =>
        rw [call] at kept same
        cases same
        exact settled_read call settled crosses kept unspoilt
    | write name bytes =>
        rw [call] at kept same
        cases same
        apply settled_change _ _ settled kept unspoilt
        · rw [call]
          simp [StoreCall.changesKey, StoreCall.changes, StoreCall.key]
        · intro other written
          rw [call] at written
          cases written
          rfl
    | remove name =>
        rw [call] at kept same
        cases same
        apply settled_change _ _ settled kept unspoilt
        · rw [call]
          simp [StoreCall.changesKey, StoreCall.changes, StoreCall.key]
        · intro other written
          rw [call] at written
          cases written
  · have confined := (conduct_confined kept).1
    exact settled_polled (settled.spares (confined.elsewhere key same))
      (StoreCall.changesKey_elsewhere same)

theorem spared_of_crosses {other : Flight σ}
    (confined : backend.Confined store flight.call.key now after)
    (looks : flight.call.changes = false →
      backend.contents after.data flight.call.key = backend.contents now.data flight.call.key)
    (crosses : Crosses flight other) (uncrossed : other.crossed = false) :
    backend.contents after.data other.call.key = backend.contents now.data other.call.key := by
  by_cases same : flight.call.key = other.call.key
  · rw [← same]
    apply looks
    cases changes : flight.call.changes with
    | false => rfl
    | true =>
        rw [(crosses same).2 changes] at uncrossed
        cases uncrossed
  · exact (confined.elsewhere other.call.key (Ne.symm same)).shared

theorem flies_polled {terms : Prop → Routine.Terms (Context σ) (Except Failure (Option Bytes))}
    (others : ∀ other ∈ front ++ back, backend.Flies store other after)
    (kept : ∀ spared : Prop, (spared → flight.crossed = false) →
      Routine.Kept (backend.Company store flight.call.key spared)
        (backend.Conduct store flight.call flight.missed spared) (terms spared) progress after) :
    ∀ other ∈ (Traffic.polled front back spoilt flight progress).flights,
      backend.Flies store other after := by
  intro other known
  rcases Traffic.mem_polled known with still | ⟨woken, rest, rfl, rfl⟩
  · exact others other still
  · intro spared allowed later company
    exact (kept spared allowed).2 later company

theorem Orderly.poll (orderly : backend.Orderly store ⟨front ++ flight :: back, spoilt⟩ now) :
    backend.Orderly store
      (Traffic.polled front back spoilt flight (flight.rest.poll now).progress)
      (flight.rest.poll now).state := by
  have here : flight ∈ front ++ flight :: back := List.mem_append_right _ List.mem_cons_self
  have kept : ∀ spared : Prop, (spared → flight.crossed = false) →
      Routine.Kept (backend.Company store flight.call.key spared)
        (backend.Conduct store flight.call flight.missed spared)
        (backend.Conduct store flight.call flight.missed spared now)
        (flight.rest.poll now).progress (flight.rest.poll now).state := by
    intro spared allowed
    apply (orderly.flies flight here spared allowed now ⟨orderly.stands, fun _ => rfl⟩).poll
    · exact fun _ _ _ => Company.trans
    · exact fun _ _ company => conduct_idle flight.call flight.missed _ _ company
  -- The strongest of these promises decides what the poll has done.
  have lone := kept (flight.crossed = false) id
  obtain ⟨confined, looks⟩ := conduct_confined lone
  have crosses := Traffic.crosses_of_mem orderly.crosses
  refine ⟨confined.stands, flies_polled ?_ kept, Traffic.crosses_polled orderly.crosses, ?_⟩
  · intro other still
    exact (orderly.flies other (Traffic.mem_among still)).marked id confined.stands
      (spared_of_crosses confined looks (crosses other still))
  · intro key unspoilt
    have settled := orderly.settled key (Traffic.polled_unspoilt unspoilt)
    exact settled_conducted settled crosses lone unspoilt

end Poll

section Begin

variable {traffic : Traffic σ} {hints : CallHints} {call : StoreCall}
  {progress : Progress (Context σ) (Except Failure (Option Bytes))}

theorem settled_begin (hints : CallHints)
    (settled : backend.Settled store traffic.flights key now)
    (unchanging : call.changesKey key = false) :
    backend.Settled store
      ([] ++ traffic.entrant store hints call now :: traffic.met call) key now := by
  have unmet : ∀ flight : Flight σ, flight.call.changesKey key = true →
      flight.meet call = flight := by
    intro flight changes
    simp only [StoreCall.changesKey, Bool.and_eq_true, beq_iff_eq] at changes
    apply Flight.meet_same
    rw [changes.2]
    exact unchanging
  apply settled.regroup
  · intro other known changes
    rcases List.mem_cons.mp known with rfl | met
    · exact absurd changes (by simp [Traffic.entrant, unchanging])
    · obtain ⟨flight, present, rfl⟩ := List.mem_map.mp met
      rw [unmet flight changes]
      exact present
  · intro other known changes
    apply List.mem_cons_of_mem
    exact List.mem_map.mpr ⟨other, known, unmet other changes⟩

theorem settled_entered
    (settled : ∀ key, traffic.spoilt key = false → backend.Settled store traffic.flights key now)
    (crosses : ([] ++ traffic.entrant store hints call now :: traffic.met call).Pairwise Crosses)
    (kept : Routine.Kept
      (backend.Company store call.key ((traffic.entrant store hints call now).crossed = false))
      (backend.Conduct store call (store.nearBlob? now call.key).isNone
        ((traffic.entrant store hints call now).crossed = false))
      (backend.Opening store call ((traffic.entrant store hints call now).crossed = false) now)
      progress after)
    (unspoilt : (Traffic.polled [] (traffic.met call) (traffic.opened call)
      (traffic.entrant store hints call now) progress).spoilt key = false) :
    backend.Settled store (Traffic.polled [] (traffic.met call) (traffic.opened call)
      (traffic.entrant store hints call now) progress).flights key after := by
  have opened := Traffic.polled_unspoilt unspoilt
  cases changes : call.changesKey key with
  | false =>
      have settled := settled_begin hints
        (settled key (Traffic.opened_unspoilt opened changes)) changes
      by_cases same : key = call.key
      · cases call with
        | read name =>
            cases same
            exact settled_read rfl settled (Traffic.crosses_of_mem crosses) kept unspoilt
        | write name bytes =>
            simp [StoreCall.changesKey, StoreCall.changes, same] at changes
        | remove name =>
            simp [StoreCall.changesKey, StoreCall.changes, same] at changes
      · have confined := (opening_confined kept).1
        exact settled_polled (settled.spares (confined.elsewhere key same)) changes
  | true =>
      have same : call.key = key := by
        simp only [StoreCall.changesKey, Bool.and_eq_true, beq_iff_eq] at changes
        exact changes.2
      cases call with
      | read name => cases changes
      | write name bytes =>
          cases same
          apply settled_begun changes _ _ kept unspoilt
          · intro other
            simp [Traffic.entrant, StoreCall.key]
          · intro other _
            have quiet : Traffic.busy traffic.flights name = false :=
              (Function.update_self name _ traffic.spoilt).symm.trans opened
            exact ⟨quiet, (Traffic.busy_met traffic _ name).trans quiet⟩
      | remove name =>
          cases same
          apply settled_begun changes _ _ kept unspoilt
          · intro other
            simp [Traffic.entrant]
          · intro other written
            cases written

theorem Orderly.begin (serves : backend.Serves store)
    (waits : store.options.writesInBackground = false)
    (orderly : backend.Orderly store traffic now) (hints : CallHints) (call : StoreCall) :
    backend.Orderly store (traffic.begin store hints call now)
      ((store.perform hints call).poll now).state := by
  unfold Traffic.begin
  cases fresh : hints.isCancelled now with
  | true =>
      rw [store.poll_perform_refused hints call fresh]
      exact orderly
  | false =>
      have kept : ∀ spared : Prop, Routine.Kept (backend.Company store call.key spared)
          (backend.Conduct store call (store.nearBlob? now call.key).isNone spared)
          (backend.Opening store call spared now)
          ((store.perform hints call).poll now).progress
          ((store.perform hints call).poll now).state := by
        intro spared
        apply (serves.amid_perform waits spared call hints fresh orderly.stands).poll
        · exact fun _ _ _ => Company.trans
        · exact fun _ _ company => conduct_idle call _ _ _ company
      have lone := kept ((traffic.entrant store hints call now).crossed = false)
      obtain ⟨confined, looks⟩ := opening_confined lone
      have crosses := Traffic.crosses_begun store hints call now orderly.crosses
      refine ⟨confined.stands, ?_, Traffic.crosses_polled crosses, ?_⟩
      · apply flies_polled _ (fun spared _ => kept spared)
        intro other known
        obtain ⟨flight, present, rfl⟩ := List.mem_map.mp known
        apply (orderly.flies flight present).marked _ confined.stands
        · exact spared_of_crosses confined looks (Traffic.crosses_of_mem crosses _ known)
        · intro unmet
          exact (Bool.or_eq_false_iff.mp unmet).1
      · exact fun key => settled_entered orderly.settled crosses lone

end Begin

end Backend

end TokenPersistence
