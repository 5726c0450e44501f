import FusionRouter.Lib.FiniteMap
import FusionRouter.Types.Json

/-!
# Execution leases

A worker holds a node of an execution by a lease.  The lease manager records
each lease under a key that is put together from the three ids, and looks for
competing leases by comparing the ids themselves.  Every call reads the clock
once.
-/

namespace FusionRouter

namespace LeaseLimits

def defaultMaxRenewals : Nat := 100

def maxAbsoluteLifetimeMs : Nat := 86400000

def maxTtlMs : Nat := maxAbsoluteLifetimeMs

def minTtlMs : Nat := 1

def defaultTtlMs : Nat := 60000

end LeaseLimits

structure ExecutionLease where
  leaseKey : String
  executionId : String
  nodeId : String
  workerId : String
  epoch : Nat
  grantedAtMs : Nat
  ttlMs : Nat
  isRevoked : Bool
  owner : String
  createdAtMs : Nat
  renewalCount : Nat
  maxRenewals : Nat
deriving Repr, DecidableEq

namespace ExecutionLease

def isExpired (lease : ExecutionLease) (currentTimeMs : Nat) : Bool :=
  lease.isRevoked || decide (0 < lease.ttlMs) &&
    decide (saturatingAdd lease.grantedAtMs lease.ttlMs ≤ currentTimeMs)

end ExecutionLease

/-- `PlatformError::Runtime`. -/
structure RuntimeError where
  code : String
  message : String
  recoverySuggestion : String
deriving Repr, DecidableEq

structure ExecutionLeaseManager where
  leases : FiniteMap String ExecutionLease
  epochs : Table (String × String) Nat

namespace ExecutionLeaseManager

def new : ExecutionLeaseManager :=
  { leases := ∅
    epochs := Table.empty }

def leaseKey (execId nodeId workerId : String) : String :=
  "lease:" ++ execId ++ ":" ++ nodeId ++ ":" ++ workerId

variable (manager : ExecutionLeaseManager)

/-- Drop the expired leases, and the epochs of their nodes. -/
def prune (nowMs : Nat) : ExecutionLeaseManager :=
  { leases := FiniteMap.retain (fun lease => !lease.isExpired nowMs)
      manager.leases
    epochs := fun node =>
      if (FiniteMap.values manager.leases).any (fun lease => lease.isExpired nowMs &&
            decide ((lease.executionId, lease.nodeId) = node)) then none
      else manager.epochs node }

/-- Another worker's lease on the node is in force. -/
def competes (execId nodeId workerId : String) (nowMs : Nat) (existing : ExecutionLease) : Bool :=
  decide (existing.executionId = execId) && decide (existing.nodeId = nodeId) &&
    !existing.isExpired nowMs && decide (existing.workerId ≠ workerId)

def violation (nodeId : String) (existing : ExecutionLease) : RuntimeError :=
  { code := "ERR_LEASE_VIOLATION"
    message := "Node " ++ nodeId ++ " already leased to worker " ++ existing.workerId
    recoverySuggestion := "Wait for existing lease to expire or revoke it before reissuing" }

/-- The requested time to live, bounded; 0 asks for the default. -/
def boundedTtl (ttlMs : Nat) : Nat :=
  if ttlMs = 0 then LeaseLimits.defaultTtlMs
  else max LeaseLimits.minTtlMs (min ttlMs LeaseLimits.maxTtlMs)

def grantLease (execId nodeId workerId : String) (ttlMs nowMs : Nat)
    :
    Except RuntimeError ExecutionLease × ExecutionLeaseManager :=
  let pruned := manager.prune nowMs
  match (FiniteMap.values pruned.leases).find? (competes execId nodeId workerId nowMs) with
  | some existing => (.error (violation nodeId existing), pruned)
  | none =>
    let epoch := ((pruned.epochs (execId, nodeId)).getD 0 + 1) % 2 ^ 64
    let lease : ExecutionLease :=
      { leaseKey := leaseKey execId nodeId workerId
        executionId := execId
        nodeId := nodeId
        workerId := workerId
        epoch := epoch
        grantedAtMs := nowMs
        ttlMs := boundedTtl ttlMs
        isRevoked := false
        owner := workerId
        createdAtMs := nowMs
        renewalCount := 0
        maxRenewals := LeaseLimits.defaultMaxRenewals }
    (.ok lease,
      { leases := pruned.leases.insert lease.leaseKey lease
        epochs := pruned.epochs.insert (execId, nodeId) epoch })

def renewable (lease : ExecutionLease) (owner : String) (nowMs : Nat) : Bool :=
  decide (lease.owner = owner) && !lease.isExpired nowMs &&
    decide (lease.renewalCount < lease.maxRenewals) &&
    decide (nowMs - lease.createdAtMs < LeaseLimits.maxAbsoluteLifetimeMs)

def renewLeaseBy (key owner : String) (nowMs : Nat) : Bool × ExecutionLeaseManager :=
  match manager.leases.lookup key with
  | none => (false, manager)
  | some lease =>
    if renewable lease owner nowMs then
      let renewed :=
        { lease with
          renewalCount := lease.renewalCount + 1
          epoch := (lease.epoch + 1) % 2 ^ 64
          grantedAtMs := nowMs }
      (true,
        { leases := manager.leases.insert key renewed
          epochs := manager.epochs.insert (lease.executionId, lease.nodeId) renewed.epoch })
    else (false, manager)

def renewLease (key : String) (nowMs : Nat) : Bool × ExecutionLeaseManager :=
  match manager.leases.lookup key with
  | none => (false, manager)
  | some lease => manager.renewLeaseBy key lease.owner nowMs

def revokeLease (key : String) : Bool × ExecutionLeaseManager :=
  match manager.leases.lookup key with
  | none => (false, manager)
  | some lease =>
    (true,
      { manager with
        leases := manager.leases.insert key { lease with isRevoked := true } })

end ExecutionLeaseManager

end FusionRouter
