import TokenPersistence.Proofs.Tiered.Backing

/-!
# What memory has after a call

A call on a tiered store that waits for the shared cache ends whatever the shared cache
does, and no failure leaves it. What memory has is followed with a map that the shared
cache need not agree with: a look-up only loses entries, an answer of the shared cache is
copied, a write puts its blob in, a removal takes the key out.
-/

namespace TokenPersistence

set_option autoImplicit false

variable {σ : Type}

namespace TieredStore

variable {store : TieredStore σ} {contents : σ → String → Option Bytes}
  {map : String → Option Bytes} {now : Context σ}

def NearAgrees (store : TieredStore σ) (shared : String → Option Bytes) (now : Context σ) :
    Prop :=
  ∀ l1, store.l1 = some l1 → (l1.get now.data).Agrees shared

theorem NearAgrees.drift {shared : String → Option Bytes} {before after : Context σ}
    (agrees : store.NearAgrees shared before) (drift : store.Drift before after) :
    store.NearAgrees shared after := by
  intro l1 enabled
  exact (agrees l1 enabled).losses (drift.near l1 enabled)

theorem NearAgrees.of_none {shared : String → Option Bytes} {now : Context σ}
    (disabled : store.l1 = none) : store.NearAgrees shared now := by
  intro l1 enabled
  rw [disabled] at enabled
  cases enabled

theorem NearAgrees.of_some {shared : String → Option Bytes} {now : Context σ}
    {l1 : ByteCacheCell σ} (enabled : store.l1 = some l1)
    (agrees : (l1.get now.data).Agrees shared) : store.NearAgrees shared now := by
  intro other same
  rw [enabled] at same
  cases same
  exact agrees

theorem NearAgrees.report (agrees : store.NearAgrees map now) (hints : CallHints)
    (level : CacheLevel) : store.NearAgrees map (hints.report level now) := by
  unfold NearAgrees
  rw [CallHints.data_report]
  exact agrees

def nearBlob? (store : TieredStore σ) (now : Context σ) (key : String) : Option Bytes :=
  store.l1.bind fun l1 => (l1.get now.data).get? now.uptime key

theorem NearAgrees.blob {key : String} {bytes : Bytes} (agrees : store.NearAgrees map now)
    (found : store.nearBlob? now key = some bytes) : map key = some bytes := by
  obtain ⟨l1, enabled, cached⟩ := Option.bind_eq_some_iff.mp found
  exact (agrees l1 enabled).get cached

/-- The map after an answer under a key was copied to it. -/
def copied (map : String → Option Bytes) (key : String) : Option Bytes → String → Option Bytes
  | some bytes => Function.update map key (some bytes)
  | none => map

theorem copied_same {key : String} {answer : Option Bytes} (same : map key = answer) :
    copied map key answer = map := by
  cases answer with
  | none => rfl
  | some bytes =>
      change Function.update map key (some bytes) = map
      rw [← same, Function.update_eq_self]

/-- The memory does not have the key, and the shared cache fails to be read. -/
def Misses (store : TieredStore σ) (key : String) (now : Context σ) : Prop :=
  (store.lookNear key).Returns now fun cached between =>
    cached = none ∧ store.Fails (store.l2.get key) between

theorem Backing.look_near (backing : store.Backing contents) (key : String) (now : Context σ)
    (clock : now.clockIsBroken = false) :
    (store.lookNear key).Returns now fun cached after =>
      cached = store.nearBlob? now key ∧ store.Drift now after ∧
        contents after.data = contents now.data := by
  unfold lookNear nearBlob?
  cases enabled : store.l1 with
  | none => simpa using Drift.refl store now clock
  | some l1 =>
      simp only [ByteCacheCell.returns_lookup]
      have lawful := backing.nearLawful l1 enabled
      refine ⟨rfl, ⟨clock, ?_⟩, backing.nearApart l1 enabled _ _⟩
      intro other same
      rw [enabled] at same
      cases same
      rw [lawful.get_put]
      exact ByteCache.losses_touch _ _ _ _

theorem Backing.insert_near (backing : store.Backing contents) (l1 : ByteCacheCell σ)
    (enabled : store.l1 = some l1) (key : String) (bytes : Bytes)
    (lifetime : Option Duration) (now : Context σ) {shared changed : String → Option Bytes}
    (agrees : store.NearAgrees shared now) (here : changed key = some bytes)
    (elsewhere : ∀ other, other ≠ key → changed other = shared other) :
    (l1.insert key bytes lifetime).Returns now fun _ after =>
      store.NearAgrees changed after ∧ after.clockIsBroken = now.clockIsBroken ∧
        contents after.data = contents now.data := by
  rw [ByteCacheCell.returns_insert]
  refine ⟨NearAgrees.of_some enabled ?_, rfl, backing.nearApart l1 enabled _ _⟩
  rw [(backing.nearLawful l1 enabled).get_put]
  exact (agrees l1 enabled).insert here elsewhere _ _

theorem Backing.answers_shared (backing : store.Backing contents) (key : String)
    (hints : CallHints) (now : Context σ) (clock : now.clockIsBroken = false)
    (agrees : store.NearAgrees map now) :
    (store.readShared key hints).Returns now fun answer after =>
      (after.clockIsBroken = false ∧ contents after.data = contents now.data) ∧
        store.NearAgrees (copied map key answer) after ∧
          (answer = contents now.data key ∨
            answer = none ∧ store.Fails (store.l2.get key) now) := by
  obtain ⟨called, ending, ⟨drift, same⟩, answers, fails⟩ := backing.call_get key now clock
  have after := agrees.drift drift
  unfold readShared
  rw [Routine.returns_bind, Routine.returns_timed]
  refine ⟨clock, called, ending, drift.clock, ?_⟩
  cases called with
  | none =>
      simp only [Option.join_none, Routine.returns_bind, Routine.returns_write,
        Routine.returns_pure]
      exact ⟨⟨drift.clock, same⟩, after, Or.inr ⟨trivial, fails rfl⟩⟩
  | some found =>
      have known := answers found rfl
      cases found with
      | none =>
          simp only [Option.join_some, Routine.returns_bind, Routine.returns_write,
            Routine.returns_pure]
          exact ⟨⟨drift.clock, same⟩, after, Or.inl known⟩
      | some bytes =>
          simp only [Option.join_some, Routine.returns_bind, Routine.returns_write,
            CallHints.returns_report_level]
          cases enabled : store.l1 with
          | none =>
              rw [Routine.returns_pure, CallHints.clock_report, CallHints.data_report]
              exact ⟨⟨drift.clock, same⟩, NearAgrees.of_none enabled, Or.inl known⟩
          | some l1 =>
              simp only [Routine.returns_bind, Routine.returns_write,
                ByteCacheCell.returns_log_access, Routine.returns_pure]
              have reported := after.report hints .l2
              apply (backing.insert_near l1 enabled key bytes store.l1Lifetime _ reported
                (Function.update_self key (some bytes) map)
                fun other different => Function.update_of_ne different (some bytes) map).imp
              intro _ last inserted
              obtain ⟨near, ticks, unchanged⟩ := inserted
              rw [CallHints.clock_report] at ticks
              rw [CallHints.data_report] at unchanged
              exact ⟨⟨ticks.trans drift.clock, unchanged.trans same⟩, near, Or.inl known⟩

/-- Where the answer of a read came from, and what memory has after it: what was found in
memory stays there, and what the shared cache answered was copied. -/
inductive Answered (store : TieredStore σ) (contents : σ → String → Option Bytes)
    (map : String → Option Bytes) (key : String) (now : Context σ) :
    Option Bytes → Context σ → Prop where
  | near {bytes : Bytes} {after : Context σ} (found : store.nearBlob? now key = some bytes)
      (agrees : store.NearAgrees map after) :
      Answered store contents map key now (some bytes) after
  | shared {answer : Option Bytes} {after : Context σ}
      (missed : store.nearBlob? now key = none)
      (agrees : store.NearAgrees (copied map key answer) after)
      (answered : answer = contents now.data key ∨ answer = none ∧ store.Misses key now) :
      Answered store contents map key now answer after

theorem Backing.answers_levels (backing : store.Backing contents) (key : String)
    (hints : CallHints) (now : Context σ) (clock : now.clockIsBroken = false)
    (agrees : store.NearAgrees map now) :
    (store.readLevels key hints).Returns now fun answer after =>
      (after.clockIsBroken = false ∧ contents after.data = contents now.data) ∧
        store.Answered contents map key now answer after := by
  obtain ⟨cached, ending, found, drift, same⟩ := backing.look_near key now clock
  have shared := backing.answers_shared key hints _ drift.clock (agrees.drift drift)
  rw [same] at shared
  -- Without memory, and after a miss, the read goes on in the same way.
  have missed : cached = none → (store.readShared key hints).Returns
      ((store.lookNear key).run now).state fun answer after =>
        (after.clockIsBroken = false ∧ contents after.data = contents now.data) ∧
          store.Answered contents map key now answer after := by
    intro missing
    apply shared.imp
    intro answer after read
    obtain ⟨kept, near, answered⟩ := read
    refine ⟨kept, .shared (found.symm.trans missing) near ?_⟩
    refine answered.imp_right ?_
    intro unanswered
    obtain ⟨nothing, failed⟩ := unanswered
    exact ⟨nothing, cached, ending, missing, failed⟩
  unfold readLevels
  unfold lookNear at ending drift missed same
  cases enabled : store.l1 with
  | none =>
      simp only [enabled] at ending missed
      cases ending
      exact missed rfl
  | some l1 =>
      simp only [enabled] at ending missed drift same
      rw [Routine.returns_bind]
      refine ⟨cached, ending, ?_⟩
      simp only [Routine.returns_bind, ByteCacheCell.returns_log_access]
      cases cached with
      | none => exact missed rfl
      | some bytes =>
          simp only [Routine.returns_bind, Routine.returns_discard,
            CallHints.returns_report_level, Routine.returns_pure]
          apply (backing.call_refresh key _ _ drift.clock).imp
          intro _ after called
          obtain ⟨drifted, unchanged⟩ := called
          rw [CallHints.clock_report, CallHints.data_report]
          refine ⟨⟨drifted.clock, unchanged.trans same⟩, ?_⟩
          exact .near found.symm (((agrees.drift drift).drift drifted).report hints .l1)

theorem Backing.write_near (backing : store.Backing contents) (key : String) (bytes : Bytes)
    (hints : CallHints) (now : Context σ) (clock : now.clockIsBroken = false)
    (agrees : store.NearAgrees map now) :
    (store.writeNear key bytes hints).Returns now fun _ after =>
      store.NearAgrees (Function.update map key (some bytes)) after ∧
        after.clockIsBroken = false ∧ contents after.data = contents now.data := by
  unfold writeNear
  cases enabled : store.l1 with
  | none =>
      rw [Routine.returns_pure]
      exact ⟨NearAgrees.of_none enabled, clock, rfl⟩
  | some l1 =>
      rw [Routine.returns_bind]
      apply (returns_current_l1_expiry store hints now clock).imp
      intro lifetime afterClock unchanged
      rw [unchanged]
      simp only [Routine.returns_bind, ByteCacheCell.returns_log_access]
      apply (backing.insert_near l1 enabled key bytes lifetime now agrees
        (Function.update_self key (some bytes) map)
        fun other different => Function.update_of_ne different (some bytes) map).imp
      intro _ after inserted
      obtain ⟨near, ticks, shared⟩ := inserted
      exact ⟨near, ticks.trans clock, shared⟩

theorem Backing.remove_near (backing : store.Backing contents) (key : String)
    (now : Context σ) (clock : now.clockIsBroken = false) (agrees : store.NearAgrees map now) :
    (store.removeNear key).Returns now fun _ after =>
      store.NearAgrees (Function.update map key none) after ∧
        after.clockIsBroken = false ∧ contents after.data = contents now.data := by
  unfold removeNear
  cases enabled : store.l1 with
  | none =>
      rw [Routine.returns_pure]
      exact ⟨NearAgrees.of_none enabled, clock, rfl⟩
  | some l1 =>
      simp only [Routine.returns_bind, ByteCacheCell.returns_erase, Routine.returns_write]
      refine ⟨NearAgrees.of_some enabled ?_, clock, backing.nearApart l1 enabled _ _⟩
      rw [(backing.nearLawful l1 enabled).get_put]
      exact (agrees l1 enabled).erase
        (fun other different => Function.update_of_ne different none map) now.uptime

/-- After the second half of a change the shared cache has changed likewise, or not at
all if it failed. -/
theorem NearAgrees.changed {between : Context σ} {goal : String → Option Bytes}
    {call : Routine (Context σ) (Option Unit)} (agrees : store.NearAgrees map between)
    (called : call.Returns between fun _ after => store.Toward contents between goal after) :
    (Functor.discard call : Routine (Context σ) Unit).Returns between fun _ after =>
      after.clockIsBroken = false ∧ store.NearAgrees map after ∧
        (contents after.data = contents between.data ∨ contents after.data = goal) := by
  rw [Routine.returns_discard]
  apply called.imp
  intro _ after toward
  exact ⟨toward.drift.clock, agrees.drift toward.drift, toward.shared⟩

theorem Backing.ends_write (backing : store.Backing contents) (key : String) (bytes : Bytes)
    (hints : CallHints) (waits : store.options.writesInBackground = false) (now : Context σ)
    (clock : now.clockIsBroken = false) (agrees : store.NearAgrees map now) :
    (store.writeLevels key bytes hints).Returns now fun _ after =>
      after.clockIsBroken = false ∧
        store.NearAgrees (Function.update map key (some bytes)) after ∧
          (contents after.data = contents now.data ∨
            contents after.data = Function.update (contents now.data) key (some bytes)) := by
  rw [write_levels_eq store key bytes hints waits, Routine.returns_bind]
  apply (backing.write_near key bytes hints now clock agrees).imp
  intro _ between halfway
  obtain ⟨near, ticks, shared⟩ := halfway
  rw [← shared]
  apply near.changed
  apply (backing.call_toward .write key _ _ (some bytes) between ticks
    fun tried on => backing.set key bytes (store.entryOptions hints) tried on).imp
  intro _ after ended
  exact ended.1

theorem Backing.ends_remove (backing : store.Backing contents) (key : String)
    (now : Context σ) (clock : now.clockIsBroken = false) (agrees : store.NearAgrees map now) :
    (store.removeLevels key).Returns now fun _ after =>
      after.clockIsBroken = false ∧
        store.NearAgrees (Function.update map key none) after ∧
          (contents after.data = contents now.data ∨
            contents after.data = Function.update (contents now.data) key none) := by
  rw [remove_levels_eq, Routine.returns_bind]
  apply (backing.remove_near key now clock agrees).imp
  intro _ between halfway
  obtain ⟨near, ticks, shared⟩ := halfway
  rw [← shared]
  apply near.changed
  apply (backing.call_toward .remove key _ _ none between ticks
    fun tried on => backing.remove key tried on).imp
  intro _ after ended
  exact ended.1

end TieredStore

end TokenPersistence
