import FusionRouter.Scheduler.LeaseSteps

/-!
# The lifetime of a lease

A renewal is refused once the lease has the age of
`MAX_LEASE_ABSOLUTE_LIFETIME_MS`, but the time to live that it starts counts
from the renewal.  A lease ends by that age exactly when none of its renewals
comes so late that the new term reaches beyond it.
-/

namespace FusionRouter

/-- A call and the time of the clock at it.  The clock may go back. -/
structure TimedCall where
  nowMs : Nat
  call : LeaseCall
deriving Repr, DecidableEq

namespace ExecutionLeaseManager

def afterAll (calls : List TimedCall) : ExecutionLeaseManager :=
  calls.foldl (fun manager timed => (manager.perform timed.nowMs timed.call).2) .new

theorem afterAll_append_singleton (calls : List TimedCall) (timed : TimedCall) :
    afterAll (calls ++ [timed]) = ((afterAll calls).perform timed.nowMs timed.call).2 := by
  simp [afterAll]

end ExecutionLeaseManager

namespace ExecutionLease

/-- From its largest age on the lease is expired. -/
def EndsInTime (lease : ExecutionLease) : Prop :=
  ∀ nowMs, lease.createdAtMs + LeaseLimits.maxAbsoluteLifetimeMs ≤ nowMs →
    lease.isExpired nowMs = true

/-- The current term of the lease reaches no further than its largest age. -/
def Bounded (lease : ExecutionLease) : Prop :=
  0 < lease.ttlMs ∧ saturatingAdd lease.grantedAtMs lease.ttlMs ≤
    lease.createdAtMs + LeaseLimits.maxAbsoluteLifetimeMs

variable {lease : ExecutionLease}

theorem Bounded.endsInTime (bounded : lease.Bounded) :
    lease.EndsInTime := by
  intro nowMs old
  obtain ⟨positive, within⟩ := bounded
  have passed : saturatingAdd lease.grantedAtMs lease.ttlMs ≤ nowMs := within.trans old
  simp [isExpired, positive, passed]

theorem EndsInTime.within (ends : lease.EndsInTime) (unrevoked : lease.isRevoked = false) :
    saturatingAdd lease.grantedAtMs lease.ttlMs ≤
      lease.createdAtMs + LeaseLimits.maxAbsoluteLifetimeMs := by
  have expired := ends _ le_rfl
  simp only [isExpired, unrevoked, Bool.false_or, Bool.and_eq_true, decide_eq_true_eq] at expired
  exact expired.2

end ExecutionLease

namespace ExecutionLeaseManager

theorem boundedTtl_pos (ttlMs : Nat) : 0 < boundedTtl ttlMs := by
  unfold boundedTtl
  split
  · decide
  · exact lt_of_lt_of_le (by decide) (le_max_left _ _)

theorem boundedTtl_le (ttlMs : Nat) : boundedTtl ttlMs ≤ LeaseLimits.maxAbsoluteLifetimeMs := by
  unfold boundedTtl
  split
  · decide
  · exact max_le (by decide) (min_le_right _ _)

theorem bounded_freshLease (holder : Holder) (ttlMs nowMs epoch : Nat) :
    (freshLease holder ttlMs nowMs epoch).Bounded := by
  refine ⟨boundedTtl_pos ttlMs, ?_⟩
  have short := boundedTtl_le ttlMs
  calc
    saturatingAdd nowMs (boundedTtl ttlMs) ≤ nowMs + boundedTtl ttlMs := min_le_left _ _
    _ ≤ nowMs + LeaseLimits.maxAbsoluteLifetimeMs := by omega

def AllEndInTime (manager : ExecutionLeaseManager) : Prop :=
  ∀ key lease, manager.leases.lookup key = some lease → lease.EndsInTime

def AllBounded (manager : ExecutionLeaseManager) : Prop :=
  ∀ key lease, manager.leases.lookup key = some lease → lease.Bounded

/-- A renewal comes early enough for the term that it starts. -/
def RenewsInTime (manager : ExecutionLeaseManager) (timed : TimedCall) :
    Prop :=
  ∀ key lease, manager.leases.lookup key = some lease → timed.call.Renews timed.nowMs key lease →
      saturatingAdd timed.nowMs lease.ttlMs ≤ lease.createdAtMs + LeaseLimits.maxAbsoluteLifetimeMs

theorem AllBounded.prune (bounded : AllBounded manager) (nowMs : Nat) :
    AllBounded (manager.prune nowMs) := by
  intro key lease found
  exact bounded key lease (FiniteMap.lookup_retain.mp found).1

theorem AllBounded.insert (bounded : AllBounded manager) (short : lease.Bounded)
    (leases : after.leases = manager.leases.insert key lease) : AllBounded after := by
  intro other found seen
  rw [leases] at seen
  by_cases same : other = key
  · subst same
    rw [AList.lookup_insert] at seen
    cases seen
    exact short
  · rw [AList.lookup_insert_ne same] at seen
    exact bounded other found seen

theorem AllBounded.perform (bounded : AllBounded manager) (inTime : RenewsInTime manager timed) :
    AllBounded (manager.perform timed.nowMs timed.call).2 := by
  have performed := performs manager timed.nowMs timed.call
  generalize (manager.perform timed.nowMs timed.call).1 = reply at performed
  generalize (manager.perform timed.nowMs timed.call).2 = next at performed ⊢
  generalize asked : timed.call = call at performed
  cases performed with
  | denied => exact bounded.prune timed.nowMs
  | granted numbered alone leases epochs =>
    exact (bounded.prune timed.nowMs).insert (bounded_freshLease _ _ _ _) leases
  | unchanged => exact bounded
  | @renewed _ key lease _ renews found leases epochs =>
    refine bounded.insert ?_ leases
    exact ⟨(bounded key lease found).1, inTime key lease found (asked ▸ renews)⟩
  | @revoked key lease _ found leases epochs =>
    refine bounded.insert ?_ leases
    exact bounded key lease found

end ExecutionLeaseManager

open ExecutionLeaseManager in
/-- All along a sequence of calls, at whatever times, the leases on record end
by their largest age, exactly when every renewal that is accepted comes early
enough for its term. -/
theorem lease_lifetime_iff (calls : List TimedCall) :
    (∀ front back, calls = front ++ back → AllEndInTime (afterAll front)) ↔
      ∀ front timed back, calls = front ++ timed :: back → RenewsInTime (afterAll front) timed := by
  constructor
  · intro ends front timed back split key lease found renews
    have later := ends (front ++ [timed]) back (by simp [split])
    rw [afterAll_append_singleton] at later
    have inTime := later key (renewedLease lease timed.nowMs) (by
      obtain ⟨nowMs, call⟩ := timed
      cases call with
      | grant holder ttlMs | revoke asked => cases renews
      | renew asked | renewBy asked owner =>
        obtain ⟨rfl, accepted⟩ := renews
        simp [perform, renewLease, renewLeaseBy, found, accepted, renewedLease])
    have unrevoked : lease.isRevoked = false := unrevoked_of_renews renews
    exact inTime.within unrevoked
  · intro inTime front back split
    have bounded : AllBounded (afterAll front) := by
      induction front using List.reverseRecOn generalizing back with
      | nil =>
        intro key lease found
        cases found
      | append_singleton front timed ih =>
        rw [afterAll_append_singleton]
        refine (ih (timed :: back) (by simp [split])).perform ?_
        exact inTime front timed back (by simp [split])
    intro key lease found
    exact (bounded key lease found).endsInTime

/-- A lease for a day that is renewed when a second of the day is left. -/
def LeaseSample.lateRenewal : List TimedCall :=
  [⟨1000, .grant worker 86400000⟩, ⟨86400000, .renew worker.key⟩]

/-- The lease is in force a day after it was granted, and for most of the
second day. -/
theorem LeaseSample.late_renewal_outlives :
    ¬ ∀ calls front back, calls = front ++ back →
      (ExecutionLeaseManager.afterAll front).AllEndInTime := by
  intro always
  have ends := always lateRenewal lateRenewal [] (List.append_nil _).symm
  have running : ((ExecutionLeaseManager.afterAll lateRenewal).leases.lookup
      worker.key).map (fun lease => (lease.createdAtMs,
        lease.isExpired 172799999)) = some (1000, false) := by
    decide
  obtain ⟨lease, found, facts⟩ := Option.map_eq_some_iff.mp running
  obtain ⟨created, live⟩ := Prod.mk.inj facts
  have expired := ends worker.key lease found 172799999 (by rw [created]; decide)
  rw [live] at expired
  cases expired

end FusionRouter
