import FusionRouter.Scheduler.LeaseExclusivity

/-!
# What a call to the lease manager does

`Performs` lists the outcomes of a call with all they change, and `performs`
says that every call has one of them.  Facts about runs of the manager are read
off these cases.
-/

namespace FusionRouter

abbrev LeasedNode := String × String

def Holder.node (holder : Holder) : LeasedNode :=
  (holder.executionId, holder.nodeId)

def ExecutionLease.node (lease : ExecutionLease) : LeasedNode :=
  (lease.executionId, lease.nodeId)

/-- A call that asks to renew the lease under the key, and may. -/
def LeaseCall.Renews (nowMs : Nat) (key : String) (lease : ExecutionLease) :
    LeaseCall → Prop
  | .renew asked => asked = key ∧ ExecutionLeaseManager.renewable lease lease.owner nowMs = true
  | .renewBy asked owner => asked = key ∧ ExecutionLeaseManager.renewable lease owner nowMs = true
  | _ => False

namespace ExecutionLeaseManager

def freshLease (holder : Holder) (ttlMs nowMs epoch : Nat) : ExecutionLease :=
  { leaseKey := holder.key
    executionId := holder.executionId
    nodeId := holder.nodeId
    workerId := holder.workerId
    epoch := epoch
    grantedAtMs := nowMs
    ttlMs := boundedTtl ttlMs
    isRevoked := false
    owner := holder.workerId
    createdAtMs := nowMs
    renewalCount := 0
    maxRenewals := LeaseLimits.defaultMaxRenewals }

def renewedLease (lease : ExecutionLease) (nowMs : Nat) : ExecutionLease :=
  { lease with
    renewalCount := lease.renewalCount + 1
    epoch := (lease.epoch + 1) % 2 ^ 64
    grantedAtMs := nowMs }

def nextEpoch (manager : ExecutionLeaseManager) (node : LeasedNode) : Nat :=
  ((manager.epochs node).getD 0 + 1) % 2 ^ 64

inductive Performs (manager : ExecutionLeaseManager) (nowMs : Nat) :
    LeaseCall → LeaseReply → ExecutionLeaseManager → Prop where
  | denied {holder : Holder} {ttlMs : Nat} {error : RuntimeError} :
      Performs manager nowMs (.grant holder ttlMs) (.denied error) (manager.prune nowMs)
  | granted {holder : Holder} {ttlMs epoch : Nat} {after : ExecutionLeaseManager}
      (numbered : epoch = (manager.prune nowMs).nextEpoch holder.node)
      (alone : ∀ lease, lease ∈ FiniteMap.values (manager.prune nowMs).leases →
        lease.node = holder.node → lease.isExpired nowMs = false → lease.holder = holder)
      (leases : after.leases = (manager.prune nowMs).leases.insert holder.key
        (freshLease holder ttlMs nowMs epoch)) (epochs : after.epochs =
        (manager.prune nowMs).epochs.insert holder.node epoch) :
      Performs manager nowMs (.grant holder ttlMs)
        (.granted (freshLease holder ttlMs nowMs epoch)) after
  | unchanged {call : LeaseCall} :
      Performs manager nowMs call (.answered false) manager
  | renewed {call : LeaseCall} {key : String} {lease : ExecutionLease}
      {after : ExecutionLeaseManager} (renews : call.Renews nowMs key lease)
      (found : manager.leases.lookup key = some lease)
      (leases : after.leases = manager.leases.insert key (renewedLease lease nowMs))
      (epochs : after.epochs = manager.epochs.insert lease.node (renewedLease lease nowMs).epoch) :
      Performs manager nowMs call (.answered true) after
  | revoked {key : String} {lease : ExecutionLease} {after : ExecutionLeaseManager}
      (found : manager.leases.lookup key = some lease)
      (leases : after.leases = manager.leases.insert key { lease with isRevoked := true })
      (epochs : after.epochs = manager.epochs) :
      Performs manager nowMs (.revoke key) (.answered true) after

theorem performs_grant (manager : ExecutionLeaseManager) (nowMs : Nat)
    (holder : Holder) (ttlMs : Nat) :
    Performs manager nowMs (.grant holder ttlMs) (manager.perform nowMs (.grant holder ttlMs)).1
      (manager.perform nowMs (.grant holder ttlMs)).2 := by
  cases blocked : (FiniteMap.values (manager.prune nowMs).leases).find?
      (competes holder.executionId holder.nodeId holder.workerId nowMs) with
  | some existing =>
    simp only [perform, grantLease, blocked]
    exact .denied
  | none =>
    simp only [perform, grantLease, blocked]
    refine .granted rfl ?_ rfl rfl
    intro lease listed same live
    obtain ⟨execution, node⟩ := Prod.mk.inj same
    have free := List.find?_eq_none.mp blocked lease listed
    have worker : lease.workerId = holder.workerId := by
      simpa [competes, execution, node, live] using free
    exact Holder.mk.injEq _ _ _ _ _ _ |>.mpr ⟨execution, node, worker⟩

variable {call : LeaseCall}

theorem performs_renewBy (manager : ExecutionLeaseManager) (nowMs : Nat) (key owner : String)
    (asks : ∀ lease, manager.leases.lookup key = some lease → renewable lease
      owner nowMs = true → call.Renews nowMs key lease) :
    Performs manager nowMs call (.answered (manager.renewLeaseBy key owner nowMs).1)
      (manager.renewLeaseBy key owner nowMs).2 := by
  unfold renewLeaseBy
  split
  · exact .unchanged
  next lease found =>
    split
    next accepted =>
      exact .renewed (asks lease found accepted) found rfl rfl
    · exact .unchanged

theorem performs (manager : ExecutionLeaseManager) (nowMs : Nat) (call : LeaseCall) :
    Performs manager nowMs call (manager.perform nowMs call).1 (manager.perform nowMs call).2 := by
  cases call with
  | grant holder ttlMs => exact performs_grant manager nowMs holder ttlMs
  | renewBy key owner =>
    apply performs_renewBy
    intro lease found accepted
    exact ⟨rfl, accepted⟩
  | renew key =>
    simp only [perform, renewLease]
    split
    · exact .unchanged
    next lease found =>
      apply performs_renewBy
      intro other seen accepted
      cases found.symm.trans seen
      exact ⟨rfl, accepted⟩
  | revoke key =>
    simp only [perform, revokeLease]
    split
    · exact .unchanged
    next lease found => exact .revoked found rfl rfl

theorem unrevoked_of_renews (renews : call.Renews nowMs key lease) : lease.isRevoked = false := by
  have live : ∃ owner, renewable lease owner nowMs = true := by
    cases call with
    | grant holder ttlMs | revoke asked => cases renews
    | renew asked => exact ⟨lease.owner, renews.2⟩
    | renewBy asked owner => exact ⟨owner, renews.2⟩
  obtain ⟨owner, accepted⟩ := live
  simp only [renewable, ExecutionLease.isExpired, Bool.and_eq_true,
    Bool.not_eq_true', Bool.or_eq_false_iff] at accepted
  exact accepted.1.1.2.1

end ExecutionLeaseManager

end FusionRouter
