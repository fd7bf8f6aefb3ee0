import TokenPersistence.Proofs.Adapter.Release
import TokenPersistence.Proofs.Adapter.PersistSteps

/-!
# Loading before an access

The hook before an access names the partition, fetches it, opens what was fetched and fills
the host's collection. A load can go in a few ways only, which are listed here for parts
that may do anything: the key fails, there is no key, the partition cannot be fetched, or
the collection is filled once, with what the payload is taken for. All that the host sees of
a load, and all that the store is asked, is read off this list.
-/

namespace TokenPersistence

set_option autoImplicit false

open Rehearsal (RecordingCollection)

variable {σ ρ : Type}

namespace Protector

/-- What a payload is taken for: what the encryptor makes of it, or the payload itself if
there is no encryptor or it refuses the payload. -/
def opened (protector : Protector) (payload : Bytes) : Bytes :=
  match protector.encryptor with
  | none => payload
  | some encryptor =>
      match encryptor.unprotect payload with
      | .returned plaintext => plaintext
      | .failed _ => payload
      | .panicked _ => payload

/-- The encryptor, if there is one, opens a payload or refuses it. -/
def OpensOrRefuses (protector : Protector) : Prop :=
  ∀ encryptor, protector.encryptor = some encryptor →
    ∀ payload panic, encryptor.unprotect payload ≠ .panicked panic

theorem OpensOrRefuses.opening {protector : Protector} (opens : protector.OpensOrRefuses)
    (payload : Bytes) :
    protector.opening payload = .returned (.ok (protector.opened payload)) := by
  unfold Protector.opening opened
  cases given : protector.encryptor with
  | none => rfl
  | some encryptor =>
      dsimp only
      cases unprotected : encryptor.unprotect payload with
      | returned plaintext => rfl
      | failed failure => rfl
      | panicked panic => exact absurd unprotected (opens encryptor given payload panic)

end Protector

namespace AdapterParts

section Loading

variable (parts : AdapterParts σ ρ) (access : Access σ) (name : String)

def fetching (key : String) (start : Context σ) : Run (Context σ) (Except Failure (Option Bytes)) :=
  (parts.store.read key access.hints).run.run start

def filling (key : String) (plaintext : Bytes) (start : Context σ) :
    Run (Context σ) (Except Failure Unit) :=
  (access.collection.load plaintext true).run.run (parts.fetching access key start).state

/-- What was fetched, as the collection is given it. A partition that is not there counts
as an empty payload. -/
def plaintextOf (found : Option Bytes) : Bytes := parts.protector.opened (found.getD [])

variable (start : Context σ)

/-- How a load goes: the calls that it makes, how it ends, and the context that it leaves. -/
inductive Loads : List PartCall → Ending (Except Failure Unit) → Context σ → Prop where
  | unnamed {failure : Failure} (failed : parts.key (access.watched name) = .failed failure) :
      Loads [] (.returned (.error failure)) start
  | broken {payload : Panic} (panicked : parts.key (access.watched name) = .panicked payload) :
      Loads [] (.panicked payload) start
  | keyless (provided : parts.key (access.watched name) = .returned "") :
      Loads [] (.returned (.ok ())) start
  | refused {key : String} {failure : Failure} (keyed : parts.Keyed access name key)
      (failed : (parts.fetching access key start).ending = .returned (.error failure)) :
      Loads [.read key access.hints] (.returned (.error failure))
        (parts.fetching access key start).state
  | crashed {key : String} {payload : Panic} (keyed : parts.Keyed access name key)
      (panicked : (parts.fetching access key start).ending = .panicked payload) :
      Loads [.read key access.hints] (.panicked payload) (parts.fetching access key start).state
  | stuck {key : String} (keyed : parts.Keyed access name key)
      (stalled : (parts.fetching access key start).ending = .stalled) :
      Loads [.read key access.hints] .stalled (parts.fetching access key start).state
  | filled {key : String} {found : Option Bytes} (keyed : parts.Keyed access name key)
      (fetched : (parts.fetching access key start).ending = .returned (.ok found)) :
      Loads [.read key access.hints, .load name (parts.plaintextOf found) true]
        (parts.filling access key (parts.plaintextOf found) start).ending
        (parts.filling access key (parts.plaintextOf found) start).state

end Loading

variable {parts : AdapterParts σ ρ} {access : Access σ} {name : String}

theorem before_access_loads (opens : parts.protector.OpensOrRefuses)
    (start : Context (Watched σ ρ)) :
    (parts.adapter.beforeAccess (access.watched name)).run.Leaves start fun ending after =>
      ∃ made last, parts.Loads access name (Watched.partsCell.narrow start) made ending last ∧
        after = Watched.asked start made last := by
  have idle := Watched.asked_nothing start
  unfold Adapter.beforeAccess
  rw [Call.leaves_bind, Call.leaves_of_attempt]
  change Call.Follow _ _ (Call.attempted (parts.key (access.watched name))) start
  cases provided : parts.key (access.watched name) with
  | failed failure => exact ⟨[], _, .unnamed provided, idle.symm⟩
  | panicked payload => exact ⟨[], _, .broken provided, idle.symm⟩
  | returned key =>
      simp only [Call.attempted, Call.Follow]
      by_cases empty : key = ""
      · subst empty
        exact ⟨[], _, .keyless provided, idle.symm⟩
      · have keyed : parts.Keyed access name key := ⟨provided, empty⟩
        rw [if_neg (by simpa using empty), Call.leaves_bind]
        change (Watched.noting (.read key access.hints)
          (parts.store.read key access.hints)).run.Leaves start _
        rw [Watched.leaves_noting]
        unfold Routine.Leaves
        cases fetched : ((parts.store.read key access.hints).run.run
            (Watched.partsCell.narrow start)).ending with
        | returned outcome =>
            cases outcome with
            | error failure => exact ⟨_, _, .refused keyed fetched, rfl⟩
            | ok found =>
                simp only [Call.Follow]
                rw [Call.leaves_bind, Protector.leaves_unprotect]
                change Call.Follow _ _ (parts.protector.opening (found.getD [])) _
                rw [opens.opening]
                simp only [Call.Follow]
                rw [Adapter.leaves_fill]
                change (Watched.noting (.load name (parts.plaintextOf found) true)
                  (access.collection.load (parts.plaintextOf found) true)).run.Leaves _ _
                rw [Watched.leaves_noting]
                refine ⟨_, _, .filled keyed fetched, ?_⟩
                exact Watched.asked_asked start [.read key access.hints] _ _ _
        | panicked payload => exact ⟨_, _, .crashed keyed fetched, rfl⟩
        | stalled => exact ⟨_, _, .stuck keyed fetched, rfl⟩

section Consequences

variable {start last : Context σ} {made : List PartCall} {ending : Ending (Except Failure Unit)}
  {key : String} {found : Option Bytes}

theorem Loads.calls_unkeyed (loads : parts.Loads access name start made ending last)
    (unkeyed : ∀ key, ¬ parts.Keyed access name key) : made = [] := by
  cases loads with
  | unnamed _ | broken _ | keyless _ => rfl
  | refused keyed _ | crashed keyed _ | stuck keyed _ | filled keyed _ =>
      exact absurd keyed (unkeyed _)

/-- With a key, one partition is fetched, and what comes of it is all that comes of the load. -/
theorem Loads.of_keyed (loads : parts.Loads access name start made ending last)
    (keyed : parts.Keyed access name key) :
    (∃ found, (parts.fetching access key start).ending = .returned (.ok found) ∧
        made = [.read key access.hints, .load name (parts.plaintextOf found) true] ∧
        ending = (parts.filling access key (parts.plaintextOf found) start).ending ∧
        last = (parts.filling access key (parts.plaintextOf found) start).state) ∨
      (∀ found, (parts.fetching access key start).ending ≠ .returned (.ok found)) ∧
        made = [.read key access.hints] ∧ last = (parts.fetching access key start).state ∧
        ending ≠ .returned (.ok ()) ∧
        ∀ failure, ending = .returned (.error failure) ↔
          (parts.fetching access key start).ending = .returned (.error failure) := by
  cases loads with
  | unnamed failed => exact absurd failed (keyed.not_failed _)
  | broken panicked => simp [keyed.provided] at panicked
  | keyless provided =>
      exact absurd (Attempt.returned.inj (keyed.provided.symm.trans provided)) keyed.nonempty
  | refused also failed =>
      obtain rfl := keyed.unique also
      simp [failed]
  | crashed also panicked =>
      obtain rfl := keyed.unique also
      simp [panicked]
  | stuck also stalled =>
      obtain rfl := keyed.unique also
      simp [stalled]
  | filled also fetched =>
      obtain rfl := keyed.unique also
      exact .inl ⟨_, fetched, rfl, rfl, rfl⟩

theorem Loads.failed_unkeyed (loads : parts.Loads access name start made ending last)
    (unkeyed : ∀ key, ¬ parts.Keyed access name key) :
    last = start ∧ ∀ failure, ending = .returned (.error failure) ↔
      parts.key (access.watched name) = .failed failure := by
  cases loads with
  | unnamed failed => simp [failed]
  | broken panicked => simp [panicked]
  | keyless provided => simp [provided]
  | refused keyed _ | crashed keyed _ | stuck keyed _ | filled keyed _ =>
      exact absurd keyed (unkeyed _)

/-- The key, the look-up or the collection: one of them fails if the load does. -/
theorem Loads.failure_iff (loads : parts.Loads access name start made ending last)
    (failure : Failure) :
    ending = .returned (.error failure) ↔
      parts.key (access.watched name) = .failed failure ∨
      ∃ key, parts.Keyed access name key ∧
        ((parts.fetching access key start).ending = .returned (.error failure) ∨
          ∃ found, (parts.fetching access key start).ending = .returned (.ok found) ∧
            (parts.filling access key (parts.plaintextOf found) start).ending =
              .returned (.error failure)) := by
  by_cases named : ∃ key, parts.Keyed access name key
  · obtain ⟨key, keyed⟩ := named
    have only : ∀ (holds : String → Prop),
        (∃ other, parts.Keyed access name other ∧ holds other) ↔ holds key :=
      fun holds => ⟨fun ⟨_, also, held⟩ => keyed.unique also ▸ held, fun held => ⟨key, keyed, held⟩⟩
    rw [only, or_iff_right (keyed.not_failed failure)]
    rcases loads.of_keyed keyed with ⟨found, fetched, _, rfl, _⟩ | ⟨unfetched, _, _, _, failed⟩
    · simp [fetched]
    · rw [failed]
      simp [unfetched]
  · have unkeyed : ∀ key, ¬ parts.Keyed access name key := fun key keyed => named ⟨key, keyed⟩
    rw [(loads.failed_unkeyed unkeyed).2]
    simp [unkeyed]

theorem Loads.returns (loads : parts.Loads access name start made ending last)
    (named : ∀ payload, parts.key (access.watched name) ≠ .panicked payload)
    (fetches : ∀ key, parts.Keyed access name key →
      ∃ outcome, (parts.fetching access key start).ending = .returned outcome)
    (fills : ∀ plaintext now,
      ∃ outcome, ((access.collection.load plaintext true).run.run now).ending =
        .returned outcome) :
    ∃ outcome, ending = .returned outcome := by
  cases loads with
  | unnamed failed => exact ⟨_, rfl⟩
  | broken panicked => exact absurd panicked (named _)
  | keyless provided => exact ⟨_, rfl⟩
  | refused keyed failed => exact ⟨_, rfl⟩
  | crashed keyed panicked =>
      obtain ⟨outcome, returned⟩ := fetches _ keyed
      simp [panicked] at returned
  | stuck keyed stalled =>
      obtain ⟨outcome, returned⟩ := fetches _ keyed
      simp [stalled] at returned
  | filled keyed fetched => exact fills _ _

end Consequences

section Recorded

variable {tokens : Cell σ RecordingCollection} {start last : Context σ} {made : List PartCall}
  {ending : Ending (Except Failure Unit)}

theorem run_fill (recorded : access.collection = RecordingCollection.toCollection tokens)
    (plaintext : Bytes) (now : Context σ) :
    (access.collection.load plaintext true).run.run now =
      let filled := (tokens.get now.data).load plaintext true
      ⟨.returned filled.1, { now with data := tokens.put filled.2 now.data }, []⟩ := by
  rw [recorded]
  rfl

def FetchesApart (parts : AdapterParts σ ρ) (access : Access σ)
    (tokens : Cell σ RecordingCollection) : Prop :=
  ∀ key now, tokens.get ((parts.store.read key access.hints).run.run now).state.data =
    tokens.get now.data

theorem filling_recorded (recorded : access.collection = RecordingCollection.toCollection tokens)
    (spared : parts.FetchesApart access tokens) (key : String) (plaintext : Bytes) :
    parts.filling access key plaintext start =
      ⟨.returned ((tokens.get start.data).load plaintext true).1,
        { (parts.fetching access key start).state with
          data := tokens.put ((tokens.get start.data).load plaintext true).2
            (parts.fetching access key start).state.data }, []⟩ := by
  unfold filling fetching
  rw [run_fill recorded, spared]

theorem Loads.keeps_tokens (loads : parts.Loads access name start made ending last)
    (lawful : tokens.Lawful)
    (recorded : access.collection = RecordingCollection.toCollection tokens)
    (spared : parts.FetchesApart access tokens) (failed : ending ≠ .returned (.ok ())) :
    (tokens.get last.data).state = (tokens.get start.data).state := by
  by_cases named : ∃ key, parts.Keyed access name key
  · obtain ⟨key, keyed⟩ := named
    rcases loads.of_keyed keyed with ⟨found, _, _, rfl, rfl⟩ | ⟨_, _, rfl, _⟩
    · rw [filling_recorded recorded spared] at failed ⊢
      rw [lawful.get_put]
      cases loaded : ((tokens.get start.data).load (parts.plaintextOf found) true).1 with
      | ok done => exact absurd (by rw [loaded]) failed
      | error failure => exact Adapter.load_rejected loaded
    · exact congrArg RecordingCollection.state (spared key start)
  · rw [(loads.failed_unkeyed fun key keyed => named ⟨key, keyed⟩).1]

theorem Loads.gives_tokens (loads : parts.Loads access name start made ending last)
    (lawful : tokens.Lawful)
    (recorded : access.collection = RecordingCollection.toCollection tokens)
    (spared : parts.FetchesApart access tokens) {key : String}
    (keyed : parts.Keyed access name key) (done : ending = .returned (.ok ())) :
    ∃ found, (parts.fetching access key start).ending = .returned (.ok found) ∧
      (tokens.get last.data).state = parts.plaintextOf found := by
  rcases loads.of_keyed keyed with ⟨found, fetched, _, rfl, rfl⟩ | ⟨_, _, _, failed, _⟩
  · refine ⟨found, fetched, ?_⟩
    rw [filling_recorded recorded spared] at done ⊢
    rw [lawful.get_put]
    exact Adapter.load_filled (Ending.returned.inj done)
  · exact absurd done failed

end Recorded

/-- The store is asked at most once, for the partition of the access; the collection is
filled once if the partition was fetched, and otherwise not at all. The hook fails with the
failure of the key, the look-up or the collection, which then is as it was; after a load
that ends well it is what it was given. -/
theorem before_access_all_or_nothing (parts : AdapterParts σ ρ) (access : Access σ)
    (name : String) (tokens : Cell σ RecordingCollection) (lawful : tokens.Lawful)
    (recorded : access.collection = RecordingCollection.toCollection tokens)
    (opens : parts.protector.OpensOrRefuses)
    (spared : parts.FetchesApart access tokens) (start : Context (Watched σ ρ)) :
    let before := tokens.get start.data.parts
    let asking key : PartCall :=
      .read key { access.hints with suggestedExpiry := access.suggestedExpiry }
    let fetching key := (parts.store.read key access.hints).run.run (Watched.partsCell.narrow start)
    (parts.adapter.beforeAccess (access.watched name)).run.Leaves start fun ending after =>
      ∃ made, after.data.calls = start.data.calls ++ made ∧
        ((∀ key, ¬ parts.Keyed access name key) → made = []) ∧
        (∀ key, parts.Keyed access name key →
          (∀ found, (fetching key).ending ≠ .returned (.ok found)) → made = [asking key]) ∧
        (∀ key found, parts.Keyed access name key →
          (fetching key).ending = .returned (.ok found) →
            made = [asking key, .load name (parts.protector.opened (found.getD [])) true]) ∧
        (∀ failure, ending = .returned (.error failure) ↔
          parts.key (access.watched name) = .failed failure ∨
          ∃ key, parts.Keyed access name key ∧
            ((fetching key).ending = .returned (.error failure) ∨
              ∃ found, (fetching key).ending = .returned (.ok found) ∧
                (before.load (parts.protector.opened (found.getD [])) true).1 =
                  .error failure)) ∧
        (ending ≠ .returned (.ok ()) → (tokens.get after.data.parts).state = before.state) ∧
        (∀ key, parts.Keyed access name key → ending = .returned (.ok ()) →
          ∃ found, (fetching key).ending = .returned (.ok found) ∧
            (tokens.get after.data.parts).state = parts.protector.opened (found.getD [])) ∧
        ((∀ payload, parts.key (access.watched name) ≠ .panicked payload) →
          (∀ key, parts.Keyed access name key →
            ∃ outcome, (fetching key).ending = .returned outcome) →
          ∃ outcome, ending = .returned outcome) := by
  intro before asking fetching
  apply (before_access_loads opens start).imp
  rintro ending _ ⟨made, last, loads, rfl⟩
  refine ⟨made, rfl, loads.calls_unkeyed, ?_, ?_, ?_, ?_, ?_, ?_⟩
  · intro key keyed unfetched
    rcases loads.of_keyed keyed with ⟨found, fetched, _⟩ | ⟨_, calls, _⟩
    · exact absurd fetched (unfetched found)
    · exact calls
  · intro key found keyed fetched
    rcases loads.of_keyed keyed with ⟨other, also, calls, _⟩ | ⟨unfetched, _⟩
    · obtain rfl : found = other := Call.returned_unique fetched also
      exact calls
    · exact absurd fetched (unfetched found)
  · intro failure
    rw [loads.failure_iff]
    simp only [filling_recorded recorded spared, Ending.returned.injEq]
    rfl
  · exact loads.keeps_tokens lawful recorded spared
  · exact fun key => loads.gives_tokens lawful recorded spared
  · intro named fetches
    exact loads.returns named fetches fun plaintext now =>
      ⟨_, congrArg Run.ending (run_fill recorded plaintext now)⟩

end AdapterParts

namespace Rehearsal

def rejectingStart : Context (Watched Bench Unit) :=
  Context.initial Timestamp.epoch
    ⟨{ shared := default
       collections := fun _ => { RecordingCollection.empty with state := [4], rejectsLoads := true }
       nodes := fun _ =>
         { (default : NodeData) with
           store := RecordingStore.ofTable (Table.ofList [("A", [9, 7])]) } },
      [], ⟨(), []⟩⟩

theorem tag_opens_or_refuses (marker : UInt8) :
    (Protector.mk (some (EncryptorPart.tag marker).toEncryptor)).OpensOrRefuses := by
  rintro encryptor ⟨⟩ payload panic panicked
  change EncryptorPart.openTagged marker payload = _ at panicked
  cases payload with
  | nil => cases panicked
  | cons first rest =>
      by_cases marked : first = marker <;>
        simp [EncryptorPart.openTagged, marked] at panicked

/-- The collection refuses what the store has for it, and keeps its tokens. -/
theorem rejected_load_leaves_tokens :
    let parts := lockedParts 0 (some (.tag 9))
    let access := (benchPlan "A").toAccess
    let hooked := (parts.adapter.beforeAccess (access.watched "tokens")).run.run rejectingStart
    hooked.ending =
        .returned (.error (Failure.withText .deserialize "mock: malformed cache")) ∧
      hooked.state.data.calls = [.read "A" access.hints, .load "tokens" [7] true] ∧
      (hooked.state.data.parts.collections "tokens").state = [4] := by
  intro parts access hooked
  have keyed : parts.Keyed access "tokens" "A" := ⟨rfl, by decide⟩
  obtain ⟨made, calls, _, _, loaded, fails, kept, _⟩ :=
    AdapterParts.before_access_all_or_nothing parts access "tokens" (Bench.collection "tokens")
      (Bench.collection_lawful "tokens") rfl (tag_opens_or_refuses 9)
      (fun _ _ => Bench.node_spares_collection 0 NodeData.storeCell "tokens" _ _) rejectingStart
  have failed : hooked.ending =
      .returned (.error (Failure.withText .deserialize "mock: malformed cache")) :=
    (fails _).mpr (.inr ⟨"A", keyed, .inr ⟨some [9, 7], rfl, rfl⟩⟩)
  refine ⟨failed, ?_, kept (by rw [failed]; simp)⟩
  rw [loaded "A" (some [9, 7]) keyed rfl] at calls
  exact calls

end Rehearsal

end TokenPersistence
