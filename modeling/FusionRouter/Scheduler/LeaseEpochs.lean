import FusionRouter.Scheduler.LeaseSteps

/-!
# Fencing epochs

A run of the lease manager together with the epochs it has handed out.  An epoch
is one more than the last one on record for its node, but a grant forgets the
epochs of all expired and revoked leases.  The epochs of a node grow as long as
the node is granted again only while its epoch is on record.
-/

namespace FusionRouter

open Relation List

/-- The epochs that were handed out, the latest last. -/
abbrev EpochLog := List (LeasedNode × Nat)

namespace EpochLog

def underKey (manager : ExecutionLeaseManager) (key : String) : EpochLog :=
  ((manager.leases.lookup key).map (fun lease => (lease.node, lease.epoch))).toList

/-- What a call hands out: a grant by its lease, a renewal by the lease it
leaves on record. -/
def handedOut (after : ExecutionLeaseManager) :
    LeaseCall → LeaseReply → EpochLog
  | .grant _ _, .granted lease => [(lease.node, lease.epoch)]
  | .renew key, .answered true => underKey after key
  | .renewBy key _, .answered true => underKey after key
  | _, _ => []

def Increasing (log : EpochLog) : Prop :=
  log.Pairwise (fun earlier later => earlier.1 = later.1 → earlier.2 < later.2)

theorem Increasing.append (increasing : Increasing log)
    (above : ∀ old, (node, old) ∈ log → old < epoch) : Increasing (log ++ [(node, epoch)]) := by
  refine pairwise_append.mpr ⟨increasing, pairwise_singleton _ _, ?_⟩
  intro entry member last isLast same
  cases mem_singleton.mp isLast
  cases entry with
  | mk own old =>
    cases same
    exact above old member

theorem mem_append {log : EpochLog} {node other : LeasedNode} {epoch old : Nat} :
    (other, old) ∈ log ++ [(node, epoch)] ↔ (other, old) ∈ log ∨ other = node ∧ old = epoch := by
  simp

end EpochLog

structure EpochRun where
  manager : ExecutionLeaseManager
  log : EpochLog
  clockMs : Nat

namespace EpochRun

def start : EpochRun :=
  { manager := .new
    log := []
    clockMs := 0 }

def after (run : EpochRun) (nowMs : Nat) (call : LeaseCall) : EpochRun :=
  let performed := run.manager.perform nowMs call
  { manager := performed.2
    log := run.log ++ EpochLog.handedOut performed.2 call performed.1
    clockMs := nowMs }

/-- A call that meets the condition, at a time that is not in the past. -/
inductive Step (allowed : EpochRun → Nat → LeaseCall → Prop) :
    EpochRun → EpochRun → Prop where
  | call {run : EpochRun} (nowMs : Nat) (call : LeaseCall)
      (onward : run.clockMs ≤ nowMs) (meets : allowed run nowMs call) :
      Step allowed run (run.after nowMs call)

abbrev Reaches (allowed : EpochRun → Nat → LeaseCall → Prop) : EpochRun → Prop :=
  ReflTransGen (Step allowed) start

/-- A node that has got an epoch is granted again only while the manager has its
epoch and no expired or revoked lease on it; and no epoch is the largest
`u64`. -/
def KeepsEpoch (run : EpochRun) (nowMs : Nat) : LeaseCall → Prop
  | .grant holder _ => (∃ epoch, (holder.node, epoch) ∈ run.log) →
      (∃ epoch, run.manager.epochs holder.node = some epoch ∧ epoch < u64Max) ∧
      ∀ lease, lease ∈ FiniteMap.values run.manager.leases →
        lease.node = holder.node → lease.isExpired nowMs = false
  | .renew key => ∀ lease, run.manager.leases.lookup key = some lease → lease.epoch < u64Max
  | .renewBy key _ => ∀ lease, run.manager.leases.lookup key = some lease → lease.epoch < u64Max
  | .revoke _ => True

/-- The epochs on record are the latest ones, and a node has at most one lease. -/
structure Ordered (run : EpochRun) : Prop where
  increasing : EpochLog.Increasing run.log
  keyed : ∀ key lease, run.manager.leases.lookup key = some lease → key = lease.holder.key
  unique : ∀ key other lease rival, run.manager.leases.lookup key = some lease →
    run.manager.leases.lookup other = some rival → lease.node = rival.node → key = other
  recorded : ∀ node epoch, run.manager.epochs node = some epoch →
    ∀ old, (node, old) ∈ run.log → old ≤ epoch
  latest : ∀ key lease, run.manager.leases.lookup key = some lease →
    ∀ old, (lease.node, old) ∈ run.log → old ≤ lease.epoch

theorem ordered_start : Ordered start := by
  refine ⟨List.Pairwise.nil, ?_, ?_, ?_, ?_⟩
  · intro key lease found
    cases found
  · intro key other lease rival found
    cases found
  · intro node epoch found
    cases found
  · intro key lease found
    cases found

open ExecutionLeaseManager

variable {manager : ExecutionLeaseManager}

theorem lookup_of_prune (found : (manager.prune nowMs).leases.lookup key = some lease) :
    manager.leases.lookup key = some lease ∧ lease.isExpired nowMs = false := by
  obtain ⟨before, kept⟩ := FiniteMap.lookup_retain.mp found
  exact ⟨before, by simpa using kept⟩

section

variable (ordered : Ordered run)
include ordered

theorem Ordered.prune (nowMs : Nat) :
    Ordered { run with
      manager := run.manager.prune nowMs
      clockMs := nowMs } := by
  refine ⟨ordered.increasing, ?_, ?_, ?_, ?_⟩
  · intro key lease found
    exact ordered.keyed key lease (lookup_of_prune found).1
  · intro key other lease rival found seen
    exact ordered.unique key other lease rival (lookup_of_prune found).1 (lookup_of_prune seen).1
  · intro node epoch found
    simp only [ExecutionLeaseManager.prune] at found
    split at found
    · cases found
    · exact ordered.recorded node epoch found
  · intro key lease found
    exact ordered.latest key lease (lookup_of_prune found).1

/-- A lease whose epoch is handed out takes the place of all others on its
node. -/
theorem Ordered.hand {after : ExecutionLeaseManager} (keyed : key = lease.holder.key)
    (alone : ∀ other rival, run.manager.leases.lookup other = some rival →
      rival.node = lease.node → other = key)
    (above : ∀ old, (lease.node, old) ∈ run.log → old < lease.epoch)
    (leases : after.leases = run.manager.leases.insert key lease)
    (epochs : after.epochs = run.manager.epochs.insert lease.node lease.epoch) :
    Ordered
      { manager := after
        log := run.log ++ [(lease.node, lease.epoch)]
        clockMs := nowMs } := by
  have written : ∀ other found, after.leases.lookup other = some found →
      other = key ∧ found = lease ∨ other ≠ key ∧ run.manager.leases.lookup other = some found := by
    intro other found seen
    rw [leases] at seen
    by_cases same : other = key
    · subst same
      rw [AList.lookup_insert] at seen
      exact Or.inl ⟨rfl, (Option.some.inj seen).symm⟩
    · rw [AList.lookup_insert_ne same] at seen
      exact Or.inr ⟨same, seen⟩
  refine ⟨ordered.increasing.append above, ?_, ?_, ?_, ?_⟩
  · intro other found seen
    rcases written other found seen with ⟨rfl, rfl⟩ | ⟨-, old⟩
    · exact keyed
    · exact ordered.keyed other found old
  · intro first second own rival seen also same
    rcases written first own seen with ⟨rfl, rfl⟩ | ⟨-, old⟩ <;>
      rcases written second rival also with ⟨rfl, rfl⟩ | ⟨-, older⟩
    · rfl
    · exact (alone second rival older same.symm).symm
    · exact alone first own old same
    · exact ordered.unique first second own rival old older same
  · intro node epoch found old member
    rw [epochs] at found
    rcases EpochLog.mem_append.mp member with before | ⟨rfl, rfl⟩
    · by_cases same : node = lease.node
      · subst same
        rw [Table.insert_same] at found
        cases found
        exact (above old before).le
      · rw [Table.insert_of_ne _ _ same] at found
        exact ordered.recorded node epoch found old before
    · rw [Table.insert_same] at found
      cases found
      exact le_rfl
  · intro other found seen old member
    rcases written other found seen with ⟨rfl, rfl⟩ | ⟨different, kept⟩
    · rcases EpochLog.mem_append.mp member with before | ⟨-, rfl⟩
      · exact (above old before).le
      · exact le_rfl
    · rcases EpochLog.mem_append.mp member with before | ⟨same, -⟩
      · exact ordered.latest other found kept old before
      · exact (different (alone other found kept same)).elim

/-- A lease that is changed in nothing but its revocation. -/
theorem Ordered.revoke {after : ExecutionLeaseManager}
    (found : run.manager.leases.lookup key = some lease)
    (leases : after.leases = run.manager.leases.insert key { lease with isRevoked := true })
    (epochs : after.epochs = run.manager.epochs) :
    Ordered
      { manager := after
        log := run.log
        clockMs := nowMs } := by
  have written : ∀ other changed, after.leases.lookup other = some changed →
      ∃ before, run.manager.leases.lookup other = some before ∧
        changed.holder = before.holder ∧ changed.node = before.node ∧
        changed.epoch = before.epoch := by
    intro other changed seen
    rw [leases] at seen
    by_cases same : other = key
    · subst same
      rw [AList.lookup_insert] at seen
      cases seen
      exact ⟨lease, found, rfl, rfl, rfl⟩
    · rw [AList.lookup_insert_ne same] at seen
      exact ⟨changed, seen, rfl, rfl, rfl⟩
  refine ⟨ordered.increasing, ?_, ?_, ?_, ?_⟩
  · intro other changed seen
    obtain ⟨before, kept, holder, -⟩ := written other changed seen
    rw [holder]
    exact ordered.keyed other before kept
  · intro first second own rival seen also same
    obtain ⟨before, kept, -, node, -⟩ := written first own seen
    obtain ⟨earlier, left, -, place, -⟩ := written second rival also
    rw [node, place] at same
    exact ordered.unique first second before earlier kept left same
  · intro node epoch seen
    rw [epochs] at seen
    exact ordered.recorded node epoch seen
  · intro other changed seen
    obtain ⟨before, kept, -, node, epoch⟩ := written other changed seen
    rw [node, epoch]
    exact ordered.latest other before kept

/-- What a grant hands out is above everything the node has got. -/
theorem Ordered.above_granted (keeps : KeepsEpoch run nowMs (.grant holder ttlMs))
    (member : (holder.node, old) ∈ run.log) :
    old < (run.manager.prune nowMs).nextEpoch holder.node := by
  obtain ⟨⟨epoch, known, small⟩, live⟩ := keeps ⟨old, member⟩
  have below := ordered.recorded holder.node epoch known old member
  have kept : (run.manager.prune nowMs).epochs holder.node = run.manager.epochs holder.node := by
    simp only [ExecutionLeaseManager.prune]
    split
    next expired =>
      obtain ⟨lease, listed, stale⟩ := any_eq_true.mp expired
      simp only [Bool.and_eq_true, decide_eq_true_eq] at stale
      rw [live lease listed stale.2] at stale
      cases stale.1
    · rfl
  rw [nextEpoch, kept, known, Option.getD_some]
  rw [Nat.mod_eq_of_lt (by unfold u64Max at small; omega)]
  omega

theorem Ordered.after (keeps : KeepsEpoch run nowMs call) : Ordered (run.after nowMs call) := by
  have performed := performs run.manager nowMs call
  unfold EpochRun.after
  dsimp only
  generalize (run.manager.perform nowMs call).1 = reply at performed
  generalize (run.manager.perform nowMs call).2 = next at performed
  cases performed with
  | denied =>
    change Ordered { manager := _, log := run.log ++ [], clockMs := nowMs }
    rw [append_nil]
    exact ordered.prune nowMs
  | @granted holder ttlMs epoch _ numbered alone leases epochs =>
    refine (ordered.prune nowMs).hand rfl ?_ ?_ leases epochs
    · intro other rival found same
      have listed := FiniteMap.mem_values_of_lookup found
      obtain ⟨before, live⟩ := lookup_of_prune found
      rw [ordered.keyed other rival before, alone rival listed same live]
      rfl
    · intro old member
      rw [freshLease, numbered]
      exact ordered.above_granted keeps member
  | unchanged =>
    have silent : EpochLog.handedOut run.manager call (.answered false) = [] := by
      cases call <;> rfl
    rw [silent, append_nil]
    exact ⟨ordered.increasing, ordered.keyed, ordered.unique, ordered.recorded, ordered.latest⟩
  | @renewed _ key lease _ renews found leases epochs =>
    have stored : next.leases.lookup key = some (renewedLease lease nowMs) := by
      rw [leases]
      exact AList.lookup_insert _
    obtain ⟨handed, small⟩ : EpochLog.handedOut next call (.answered true) =
        [((renewedLease lease nowMs).node, (renewedLease lease nowMs).epoch)] ∧
          lease.epoch < u64Max := by
      cases call with
      | grant holder ttlMs | revoke asked => cases renews
      | renew asked | renewBy asked owner =>
        cases renews.1
        simp only [EpochLog.handedOut, EpochLog.underKey, stored]
        exact ⟨rfl, keeps lease found⟩
    rw [handed]
    refine ordered.hand (ordered.keyed key lease found) ?_ ?_ leases epochs
    · intro other rival seen same
      exact ordered.unique other key rival lease seen found same
    · intro old member
      have below := ordered.latest key lease found old member
      have next : (renewedLease lease nowMs).epoch = lease.epoch + 1 :=
        Nat.mod_eq_of_lt (by unfold u64Max at small; omega)
      rw [next]
      omega
  | revoked found leases epochs =>
    change Ordered { manager := _, log := run.log ++ [], clockMs := nowMs }
    rw [append_nil]
    exact ordered.revoke found leases epochs

end

theorem Reaches.ordered (reached : Reaches KeepsEpoch run) : Ordered run := by
  induction reached with
  | refl => exact ordered_start
  | tail _ step ih =>
    cases step with
    | call nowMs call onward meets => exact ih.after meets

end EpochRun

open EpochRun in
/-- In a run that grants no node again whose epoch is forgotten, the epochs of
each node grow. -/
theorem epochs_increase (run : EpochRun) (reached : Reaches KeepsEpoch run) :
    EpochLog.Increasing run.log := reached.ordered.increasing

namespace LeaseSample

open EpochRun

def granted : EpochRun :=
  EpochRun.start.after 1000 (.grant worker 60000)

def renewed : EpochRun :=
  granted.after 30000 (.renew worker.key)

/-- The worker asks for its node again while it holds it. -/
def regranted : EpochRun :=
  renewed.after 50000 (.grant worker 60000)

theorem regranted_reached : EpochRun.Reaches KeepsEpoch regranted := by
  have first : EpochRun.Step KeepsEpoch EpochRun.start granted := by
    refine .call 1000 (.grant worker 60000) (by decide) ?_
    rintro ⟨epoch, handed⟩
    cases handed
  have second : EpochRun.Step KeepsEpoch granted renewed := by
    refine .call 30000 (.renew worker.key) (by decide) ?_
    intro lease found
    have known : (granted.manager.leases.lookup worker.key).map ExecutionLease.epoch = some 1 := by
      decide
    rw [found] at known
    rw [Option.some.inj known]
    decide
  have third : EpochRun.Step KeepsEpoch renewed regranted := by
    refine .call 50000 (.grant worker 60000) (by decide) ?_
    intro _
    exact ⟨⟨2, by decide, by decide⟩, by decide⟩
  exact ((ReflTransGen.single first).tail second).tail third

theorem regranted_increasing :
    regranted.log.map Prod.snd = [1, 2, 3] ∧ EpochLog.Increasing regranted.log :=
  ⟨by decide, epochs_increase regranted regranted_reached⟩

def successor : Holder :=
  { worker with workerId := "w2" }

/-- The node goes to another worker after its lease was revoked. -/
def failedOver : EpochRun :=
  (granted.after 2000 (.revoke worker.key)).after 3000 (.grant successor 60000)

/-- The second worker gets the epoch that the first one had. -/
theorem failover_repeats_epoch :
    ¬ ∀ run, EpochRun.Reaches (fun _ _ _ => True) run → EpochLog.Increasing run.log := by
  intro always
  have first : EpochRun.Step (fun _ _ _ => True) EpochRun.start granted :=
    .call 1000 (.grant worker 60000) (by decide) trivial
  have second : EpochRun.Step (fun _ _ _ => True) granted
      (granted.after 2000 (.revoke worker.key)) :=
    .call 2000 (.revoke worker.key) (by decide) trivial
  have third : EpochRun.Step (fun _ _ _ => True)
      (granted.after 2000 (.revoke worker.key)) failedOver :=
    .call 3000 (.grant successor 60000) (by decide) trivial
  have increasing := always failedOver (((ReflTransGen.single first).tail second).tail third)
  have log : failedOver.log = [(("exec_100", "n1"), 1), (("exec_100", "n1"), 1)] := by
    decide
  rw [log] at increasing
  have grows := (pairwise_cons.mp increasing).1 _ mem_cons_self rfl
  exact lt_irrefl 1 grows

end LeaseSample

end FusionRouter
