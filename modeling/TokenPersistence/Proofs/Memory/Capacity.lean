import Mathlib.Algebra.Order.BigOperators.Group.List
import Mathlib.Algebra.Order.Ring.Nat
import TokenPersistence.Proofs.Memory.Losses
import TokenPersistence.Rehearsal.CacheDrill

/-!
# How much a limited cache keeps

A policy sees to it that a cache with a limit weighs no more than it once it has been
settled, after whatever uses. From then on nothing but an insertion brings an entry in, and
the blobs that are found under different keys belong to different entries. So the weights of
these blobs sum up to no more than the limit. A blob weighs its length up to the heaviest weight,
so the lengths themselves sum up to no more than the limit unless one of the blobs is longer
than that. Such a blob fits into a cache whose limit is the heaviest weight or more, and
there it can be longer than the limit.
-/

namespace TokenPersistence

set_option autoImplicit false

namespace Residents

def totalWeight (residents : Residents) : Nat :=
  Tenant.totalWeight (residents.map (tenant true))

theorem weight_le_of_mem {residents : Residents} {resident : String × CacheEntry}
    (present : resident ∈ residents) : weight true resident.2 ≤ totalWeight residents := by
  obtain ⟨before, behind, rfl⟩ := List.append_of_mem present
  have own : (tenant true resident).weight = weight true resident.2 := rfl
  simp only [totalWeight, List.map_append, List.map_cons, Tenant.total_weight_append,
    Tenant.totalWeight, own]
  omega

theorem total_weight_parts (keeps : String × CacheEntry → Bool) (residents : Residents) :
    totalWeight residents = totalWeight (residents.filter keeps) +
      totalWeight (residents.filter fun resident => !keeps resident) := by
  have parts := (List.filter_append_perm keeps residents).map (tenant true)
  rw [List.map_append] at parts
  exact (Tenant.total_weight_perm parts).symm.trans (Tenant.total_weight_append _ _)

/-- What was found under a key, if anything, is the blob of a resident. -/
def Answers (residents : Residents) (key : String) (found : Option Bytes) : Prop :=
  ∀ bytes, found = some bytes → ∃ entry, (key, entry) ∈ residents ∧ entry.bytes = bytes

/-- The blobs under different keys are those of different residents. -/
theorem weight_of_answers_le {residents : Residents} {answer : String → Option Bytes}
    (answers : ∀ key, residents.Answers key (answer key)) {keys : List String}
    (apart : keys.Nodup) :
    ((keys.filterMap answer).map fun bytes => Nat.min bytes.length heaviest).sum ≤
      totalWeight (residents.filter fun resident => keys.contains resident.1) := by
  induction keys with
  | nil => exact Nat.zero_le _
  | cons key others ih =>
      obtain ⟨fresh, apart⟩ := List.nodup_cons.mp apart
      let asked := residents.filter fun resident => (key :: others).contains resident.1
      have later : asked.filter (fun resident => others.contains resident.1) =
          residents.filter fun resident => others.contains resident.1 := by
        rw [List.filter_filter]
        apply List.filter_congr
        intro resident _
        rw [List.contains_cons, Bool.and_or_distrib_left, Bool.and_self]
        exact Bool.or_eq_right_iff_imp.mpr (Bool.and_elim_left)
      have parts := total_weight_parts (fun resident => others.contains resident.1) asked
      rw [later] at parts
      have weighed := ih apart
      change _ ≤ totalWeight asked
      cases found : answer key with
      | none =>
          rw [List.filterMap_cons_none found]
          omega
      | some bytes =>
          obtain ⟨entry, present, rfl⟩ := answers key bytes found
          have inside : (key, entry) ∈ asked.filter fun resident =>
              !others.contains resident.1 := by
            simp [asked, present, fresh]
          have own : weight true entry ≤ _ := weight_le_of_mem inside
          have light : Nat.min entry.bytes.length heaviest = weight true entry := rfl
          rw [List.filterMap_cons_some found, List.map_cons, List.sum_cons, light]
          omega

end Residents

namespace ByteCache

/-- The law of the policy, read of the residents that it leaves. -/
theorem weight_settle_le (policy : EvictionPolicy) {cache : ByteCache} {most : Nat}
    (limited : cache.limit = some most) (uptime : Nat) :
    (cache.settle policy uptime).residents.totalWeight ≤ most := by
  let noted : ByteCache := { cache with uses := ⟨uptime, .settle⟩ :: cache.uses }
  have kept : (noted.dropAll (policy.evicted noted.record)).residents.map
      (Residents.tenant true) = noted.record.staying (policy.evicted noted.record) := by
    unfold CacheRecord.staying dropAll
    simp only [record, noted, limited, Option.isSome_some, List.filter_map]
    rfl
  have bound := policy.bounded noted.record most limited rfl
  rw [← kept] at bound
  exact bound

end ByteCache

namespace Rehearsal

namespace CacheStep

variable (policy : EvictionPolicy)

theorem perform_limit (step : CacheStep) (uptime : Nat) (cache : ByteCache) :
    (step.perform policy uptime cache).2.2.limit = cache.limit := by
  cases step with
  | insert key bytes lifetime => exact ByteCache.limit_insert cache uptime key bytes lifetime
  | get key => exact (ByteCache.losses_touch policy cache uptime key).limit
  | remove key => rfl
  | clear => rfl
  | stats => rfl
  | settle => rfl
  | sleep nanos => rfl

/-- What some steps lead to: the uptime then, and the cache. -/
def reach : List CacheStep → Nat → ByteCache → Nat × ByteCache
  | [], uptime, cache => (uptime, cache)
  | step :: steps, uptime, cache =>
      let performed := step.perform policy uptime cache
      reach steps performed.2.1 performed.2.2

theorem perform_all_append (steps later : List CacheStep) (uptime : Nat) (cache : ByteCache) :
    performAll policy (steps ++ later) uptime cache =
      performAll policy steps uptime cache ++
        performAll policy later (reach policy steps uptime cache).1
          (reach policy steps uptime cache).2 := by
  induction steps generalizing uptime cache with
  | nil => rfl
  | cons step steps ih => exact congrArg (List.cons _) (ih _ _)

theorem reach_append (steps later : List CacheStep) (uptime : Nat) (cache : ByteCache) :
    reach policy (steps ++ later) uptime cache =
      reach policy later (reach policy steps uptime cache).1
        (reach policy steps uptime cache).2 := by
  induction steps generalizing uptime cache with
  | nil => rfl
  | cons step steps ih => exact ih _ _

theorem reach_limit (steps : List CacheStep) (uptime : Nat) (cache : ByteCache) :
    (reach policy steps uptime cache).2.limit = cache.limit := by
  induction steps generalizing uptime cache with
  | nil => rfl
  | cons step steps ih => exact (ih _ _).trans (step.perform_limit policy uptime cache)

def isInsertion : CacheStep → Bool
  | insert _ _ _ => true
  | _ => false

theorem losses_perform {step : CacheStep} (other : step.isInsertion = false) (uptime : Nat)
    (cache : ByteCache) : cache.Losses (step.perform policy uptime cache).2.2 := by
  cases step with
  | insert key bytes lifetime => cases other
  | get key => exact ByteCache.losses_touch policy cache uptime key
  | remove key => exact ByteCache.losses_erase policy cache uptime key
  | clear => exact ByteCache.losses_clear policy cache uptime
  | settle => exact ByteCache.losses_settle policy cache uptime
  | stats | sleep => exact ByteCache.Losses.refl cache

theorem losses_reach {steps : List CacheStep} (others : ∀ step ∈ steps, step.isInsertion = false)
    (uptime : Nat) (cache : ByteCache) :
    cache.Losses (reach policy steps uptime cache).2 := by
  induction steps generalizing uptime cache with
  | nil => exact ByteCache.Losses.refl cache
  | cons step steps ih =>
      obtain ⟨first, rest⟩ := List.forall_mem_cons.mp others
      exact (losses_perform policy first uptime cache).trans (ih rest _ _)

/-- What a look-up finds after some steps was there before them, if none of them inserts. -/
theorem perform_all_get {steps : List CacheStep}
    (others : ∀ step ∈ steps, step.isInsertion = false) (key : String) (uptime : Nat)
    (cache : ByteCache) :
    ∃ found, performAll policy (steps ++ [get key]) uptime cache =
        performAll policy steps uptime cache ++ [.blob found] ∧
      cache.residents.Answers key found := by
  let reached := reach policy steps uptime cache
  refine ⟨reached.2.get? reached.1 key, perform_all_append policy steps _ uptime cache, ?_⟩
  intro bytes answer
  obtain ⟨entry, alive, same⟩ := Option.map_eq_some_iff.mp answer
  have kept := losses_reach policy others uptime cache
  exact ⟨entry, kept.residents (ByteCache.live_mem alive), same⟩

end CacheStep

/-- Under a limit below the heaviest weight no blob is as long as that. -/
theorem sum_lengths_le {most : Nat} {blobs : List Bytes}
    (weighed : (blobs.map fun bytes => Nat.min bytes.length heaviest).sum ≤ most)
    (ordinary : most < heaviest ∨ ∀ bytes ∈ blobs, bytes.length ≤ heaviest) :
    (blobs.map List.length).sum ≤ most := by
  have full : ∀ bytes ∈ blobs, bytes.length = Nat.min bytes.length heaviest := by
    intro bytes present
    rcases ordinary with narrow | short
    · have weighs := List.mem_map_of_mem (f := fun bytes => Nat.min bytes.length heaviest) present
      have single := List.single_le_sum (fun _ _ => Nat.zero_le _) _ weighs
      have light : min bytes.length heaviest ≤ most := Nat.le_trans single weighed
      change bytes.length = min bytes.length heaviest
      omega
    · exact (Nat.min_eq_left (short bytes present)).symm
  rw [List.map_congr_left full]
  exact weighed

/-- Whatever the policy is: when a cache has been settled after any steps, the blobs that
look-ups under different keys can find until the next insertion weigh no more than the limit,
each counted up to the heaviest weight. It does not matter what comes before each look-up. The
lengths of the blobs sum up to no more than the limit if it is less than the heaviest weight or
no blob is longer than that. -/
theorem byte_limit_bounds_blobs (policy : EvictionPolicy) (most : Nat) (steps : List CacheStep)
    (later : String → List CacheStep)
    (others : ∀ key, ∀ step ∈ later key, step.isInsertion = false) :
    ∃ answer : String → Option Bytes,
      (∀ key,
        CacheStep.performAll policy (steps ++ [.settle] ++ later key ++ [.get key]) 0
            (ByteCache.empty (some most)) =
          CacheStep.performAll policy (steps ++ [.settle] ++ later key) 0
            (ByteCache.empty (some most)) ++ [.blob (answer key)]) ∧
      ∀ keys : List String, keys.Nodup →
        ((keys.filterMap answer).map fun bytes => Nat.min bytes.length heaviest).sum ≤ most ∧
        (most < heaviest ∨ (∀ bytes ∈ keys.filterMap answer, bytes.length ≤ heaviest) →
          ((keys.filterMap answer).map List.length).sum ≤ most) := by
  let before := CacheStep.reach policy steps 0 (ByteCache.empty (some most))
  let settled := before.2.settle policy before.1
  have light : settled.residents.totalWeight ≤ most :=
    ByteCache.weight_settle_le policy (CacheStep.reach_limit policy steps 0 _) before.1
  have onwards (rest : List CacheStep) :
      CacheStep.performAll policy (steps ++ [.settle] ++ rest) 0 (ByteCache.empty (some most)) =
        CacheStep.performAll policy (steps ++ [.settle]) 0 (ByteCache.empty (some most)) ++
          CacheStep.performAll policy rest before.1 settled := by
    rw [CacheStep.perform_all_append, CacheStep.reach_append]
    rfl
  choose answer answered held using fun key =>
    CacheStep.perform_all_get policy (others key) key before.1 settled
  refine ⟨answer, ?_, ?_⟩
  · intro key
    rw [List.append_assoc _ (later key), onwards, onwards, answered, List.append_assoc]
  · intro keys apart
    have asked := Residents.weight_of_answers_le held apart
    have parts := Residents.total_weight_parts (fun resident => keys.contains resident.1)
      settled.residents
    have weighed : ((keys.filterMap answer).map fun bytes =>
        Nat.min bytes.length heaviest).sum ≤ most := by omega
    exact ⟨weighed, sum_lengths_le weighed⟩

/-- Three bytes and one fill a limit of four; then one blob is overwritten by a longer one. The
look-up of the second key follows on one of the first. -/
theorem byte_limit_bounds_overwritten_blobs :
    let steps : List CacheStep :=
      [.insert "A" [1, 2, 3] none, .settle, .insert "B" [4] none, .insert "B" [4, 5] none]
    let later (key : String) : List CacheStep := if key = "B" then [.get "A"] else []
    (∀ key, ∀ step ∈ later key, step.isInsertion = false) ∧ ["A", "B"].Nodup ∧ 4 < heaviest ∧
      ∃ answer : String → Option Bytes,
        (∀ key,
          CacheStep.performAll leastRecent (steps ++ [.settle] ++ later key ++ [.get key]) 0
              (ByteCache.empty (some 4)) =
            CacheStep.performAll leastRecent (steps ++ [.settle] ++ later key) 0
              (ByteCache.empty (some 4)) ++ [.blob (answer key)]) ∧
        ((["A", "B"].filterMap answer).map List.length).sum ≤ 4 := by
  intro steps later
  have others : ∀ key, ∀ step ∈ later key, step.isInsertion = false := by
    intro key step present
    by_cases second : key = "B"
    · rw [show later key = [.get "A"] from if_pos second] at present
      rw [List.mem_singleton.mp present]
      rfl
    · rw [show later key = [] from if_neg second] at present
      cases present
  obtain ⟨answer, answered, bounds⟩ := byte_limit_bounds_blobs leastRecent 4 steps later others
  have apart : ["A", "B"].Nodup := by decide
  exact ⟨others, apart, by decide, answer, answered, (bounds _ apart).2 (Or.inl (by decide))⟩

theorem lone_blob_answered (most : Nat) (key : String) (bytes : Bytes)
    (admits : 0 < most) (light : Nat.min bytes.length heaviest ≤ most) :
    CacheStep.performAll leastRecent [.insert key bytes none, .settle, .get key] 0
        (ByteCache.empty (some most)) =
      [.nothing, .nothing, .blob (some bytes)] := by
  let tenant : Tenant := ⟨key, Nat.min bytes.length heaviest, none⟩
  let entered : ByteCache :=
    ⟨some most, [(key, ⟨bytes, none⟩)], [⟨0, .insert tenant false⟩]⟩
  let settled : ByteCache := { entered with uses := ⟨0, .settle⟩ :: entered.uses }
  have enters : (ByteCache.empty (some most)).insert leastRecent 0 key bytes none = entered := by
    unfold ByteCache.insert
    rw [if_neg (by simpa [ByteCache.empty] using Nat.ne_of_gt admits)]
    rfl
  have nothing_leaves : leaving settled.record = [] := by
    have fits : excess (some most) [tenant] = 0 := Nat.sub_eq_zero_of_le light
    change [] ++ shed (excess (some most) [tenant]) _ = []
    rw [fits, shed, List.append_nil]
  have stays : entered.settle leastRecent 0 = settled := by
    change settled.dropAll ((leaving settled.record).map Tenant.key) = settled
    rw [nothing_leaves]
    rfl
  have found : settled.get? 0 key = some bytes := by
    simp [ByteCache.get?, ByteCache.live?, ByteCache.find?, settled, entered, CacheEntry.isLive]
  change [CacheAnswer.nothing, .nothing,
    .blob ((((ByteCache.empty (some most)).insert leastRecent 0 key bytes none).settle
      leastRecent 0).get? 0 key)] = _
  rw [enters, stays, found]

/-- A blob of one byte more than the heaviest weight stays in a cache whose limit is that
weight. -/
theorem overlong_blob_exceeds_limit :
    CacheStep.performAll leastRecent
        [.insert "A" (List.replicate (Nat.pow 2 32) 0) none, .settle, .get "A"] 0
        (ByteCache.empty (some heaviest)) =
      [.nothing, .nothing, .blob (some (List.replicate (Nat.pow 2 32) 0))] ∧
    heaviest < (List.replicate (Nat.pow 2 32) (0 : UInt8)).length := by
  refine ⟨lone_blob_answered heaviest "A" _ (by decide) (Nat.min_le_right _ _), ?_⟩
  rw [List.length_replicate]
  decide

end Rehearsal

end TokenPersistence
