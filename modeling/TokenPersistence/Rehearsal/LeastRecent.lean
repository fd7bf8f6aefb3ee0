import TokenPersistence.Memory.Eviction

/-!
# Least recently used first

The policy of rehearsals puts all its work off until the cache is settled. Then expired
tenants go, and if the others are too heavy, tenants go until enough is shed: first those
that have entered since the cache was last settled, then the others in the order of their
last use. So a newcomer without room stays out, and an entry that has outgrown the cache
takes the others along.
-/

namespace TokenPersistence.Rehearsal

set_option autoImplicit false

/-- An expired tenant is taken away when the uptime enters another span of this many
nanoseconds; until then it still weighs. -/
def sweepSpan : Nat := Nat.pow 2 30

def isHeld (uptime : Nat) (tenant : Tenant) : Bool :=
  tenant.expiresAt.all fun expiry => decide (uptime / sweepSpan ≤ expiry / sweepSpan)

def newcomer? : CacheUse → Option String
  | .insert tenant false => some tenant.key
  | _ => none

/-- The keys that were brought in before the last use, since the one before it that
settled the cache. -/
def newcomers (uses : List DatedUse) : List String :=
  (uses.tail.takeWhile fun dated => dated.use != .settle).filterMap fun dated =>
    newcomer? dated.use

/-- The first tenants of a list, until as many units are shed as are asked for. -/
def shed : Nat → List Tenant → List Tenant
  | 0, _ => []
  | _ + 1, [] => []
  | needed + 1, tenant :: others => tenant :: shed (needed + 1 - tenant.weight) others

def ranked (uses : List DatedUse) (tenants : List Tenant) : List Tenant :=
  let entered := newcomers uses
  tenants.filter (fun tenant => entered.contains tenant.key) ++
    tenants.filter fun tenant => !entered.contains tenant.key

def excess (limit : Option Nat) (tenants : List Tenant) : Nat :=
  match limit with
  | none => 0
  | some most => Tenant.totalWeight tenants - most

def leaving (record : CacheRecord) : List Tenant :=
  let held := record.tenants.filter (isHeld record.uptime)
  record.tenants.filter (fun tenant => !isHeld record.uptime tenant) ++
    shed (excess record.limit held) (ranked record.uses held)

/-- As much is shed as was asked for, if there is as much. -/
theorem weight_after_shed (needed : Nat) (tenants : List Tenant) :
    ∃ rest, tenants = shed needed tenants ++ rest ∧
      Tenant.totalWeight rest ≤ Tenant.totalWeight tenants - needed := by
  induction tenants generalizing needed with
  | nil => exact ⟨[], by cases needed <;> rfl, Nat.zero_le _⟩
  | cons tenant others ih =>
      cases needed with
      | zero => exact ⟨tenant :: others, rfl, Nat.le_refl _⟩
      | succ more =>
          obtain ⟨rest, split, light⟩ := ih (more + 1 - tenant.weight)
          refine ⟨rest, congrArg (List.cons tenant) split, ?_⟩
          simp only [Tenant.totalWeight] at light ⊢
          omega

/-- The tenants are those that leave and others, which weigh no more than the limit. -/
theorem perm_leaving (record : CacheRecord) {most : Nat} (limited : record.limit = some most) :
    ∃ rest, record.tenants.Perm (leaving record ++ rest) ∧ Tenant.totalWeight rest ≤ most := by
  let held := record.tenants.filter (isHeld record.uptime)
  let expired := record.tenants.filter fun tenant => !isHeld record.uptime tenant
  have order : (ranked record.uses held).Perm held := List.filter_append_perm _ held
  obtain ⟨rest, split, light⟩ :=
    weight_after_shed (excess record.limit held) (ranked record.uses held)
  refine ⟨rest, ?_, ?_⟩
  · have parts : (expired ++ held).Perm (leaving record ++ rest) := by
      rw [leaving, List.append_assoc, ← split]
      exact order.symm.append_left expired
    have all : (held ++ expired).Perm record.tenants := List.filter_append_perm _ record.tenants
    exact (all.symm.trans List.perm_append_comm).trans parts
  · rw [Tenant.total_weight_perm order] at light
    simp only [excess, limited] at light
    omega

theorem expired_of_not_held {uptime : Nat} {tenant : Tenant}
    (gone : isHeld uptime tenant = false) :
    ∃ expiry, tenant.expiresAt = some expiry ∧ expiry ≤ uptime := by
  unfold isHeld at gone
  cases ends : tenant.expiresAt with
  | none => simp [ends] at gone
  | some expiry =>
      simp only [ends, Option.all_some, decide_eq_false_iff_not, Nat.not_le] at gone
      refine ⟨expiry, rfl, Nat.le_of_lt (Nat.lt_of_not_le fun later => ?_)⟩
      exact absurd (Nat.div_le_div_right later) (Nat.not_le_of_lt gone)

def leastRecent : EvictionPolicy where
  evicted record := if record.isSettled then (leaving record).map Tenant.key else []
  census record := ⟨record.tenants.length, Tenant.totalWeight record.tenants⟩
  patient := by
    intro record unlimited key evicted
    split at evicted
    · obtain ⟨tenant, leaves, rfl⟩ := List.mem_map.mp evicted
      have expired : tenant ∈ record.tenants.filter fun tenant => !isHeld record.uptime tenant := by
        simpa [leaving, excess, unlimited, shed] using leaves
      obtain ⟨present, gone⟩ := List.mem_filter.mp expired
      exact ⟨tenant, present, rfl, expired_of_not_held (by simpa using gone)⟩
    · cases evicted
  bounded := by
    intro record most limited settled
    obtain ⟨rest, split, light⟩ := perm_leaving record limited
    let stays := fun tenant : Tenant => !((leaving record).map Tenant.key).contains tenant.key
    have gone : (leaving record).filter stays = [] := by
      apply List.filter_eq_nil_iff.mpr
      intro tenant leaves
      simpa [stays] using ⟨tenant, leaves, rfl⟩
    have others : (record.tenants.filter stays).Perm (rest.filter stays) := by
      have kept := split.filter stays
      rwa [List.filter_append, gone, List.nil_append] at kept
    rw [if_pos settled, CacheRecord.staying]
    calc Tenant.totalWeight (record.tenants.filter stays)
        = Tenant.totalWeight (rest.filter stays) := Tenant.total_weight_perm others
      _ ≤ Tenant.totalWeight rest := Tenant.total_weight_filter_le stays rest
      _ ≤ most := light

end TokenPersistence.Rehearsal
