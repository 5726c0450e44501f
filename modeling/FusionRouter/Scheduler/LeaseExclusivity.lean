import FusionRouter.Scheduler.Leases

/-!
# Lease exclusivity

A run of the lease manager is a sequence of calls under a clock that does not
go back.  Beside the manager it keeps a book of what the workers were told: who
was granted which node, since when and for how long.  As long as no grant takes
over the key of another holder's lease, the manager has every term of the book
on record until it expires, and refuses the node to everyone else.
-/

namespace FusionRouter

open Relation

/-- The three ids of a lease. -/
structure Holder where
  executionId : String
  nodeId : String
  workerId : String
deriving Repr, DecidableEq

def Holder.key (holder : Holder) : String :=
  ExecutionLeaseManager.leaseKey holder.executionId holder.nodeId holder.workerId

def ExecutionLease.holder (lease : ExecutionLease) : Holder :=
  { executionId := lease.executionId
    nodeId := lease.nodeId
    workerId := lease.workerId }

inductive LeaseCall where
  | grant (holder : Holder) (ttlMs : Nat)
  | renew (key : String)
  | renewBy (key owner : String)
  | revoke (key : String)
deriving Repr, DecidableEq

inductive LeaseReply where
  | granted (lease : ExecutionLease)
  | denied (error : RuntimeError)
  | answered (accepted : Bool)

def ExecutionLeaseManager.perform (manager : ExecutionLeaseManager)
    (nowMs : Nat) : LeaseCall → LeaseReply × ExecutionLeaseManager
  | .grant holder ttlMs =>
    match manager.grantLease holder.executionId holder.nodeId holder.workerId ttlMs nowMs with
    | (.ok lease, after) => (.granted lease, after)
    | (.error error, after) => (.denied error, after)
  | .renew key =>
    let answer := manager.renewLease key nowMs
    (.answered answer.1, answer.2)
  | .renewBy key owner =>
    let answer := manager.renewLeaseBy key owner nowMs
    (.answered answer.1, answer.2)
  | .revoke key =>
    let answer := manager.revokeLease key
    (.answered answer.1, answer.2)

/-- A lease as its holder knows it: its time to live counts from its latest
grant or renewal. -/
structure LeaseTerm where
  sinceMs : Nat
  ttlMs : Nat
deriving Repr, DecidableEq

namespace LeaseTerm

def Expired (term : LeaseTerm) (nowMs : Nat) : Prop :=
  saturatingAdd term.sinceMs term.ttlMs ≤ nowMs

instance (term : LeaseTerm) (nowMs : Nat) : Decidable (term.Expired nowMs) :=
  inferInstanceAs (Decidable (_ ≤ _))

theorem Expired.mono {term : LeaseTerm} (order : early ≤ late)
    (expired : term.Expired early) : term.Expired late := le_trans expired order

end LeaseTerm

/-- What the holders were told. -/
abbrev LeaseBook := Table Holder LeaseTerm

namespace LeaseBook

/-- A renewal prolongs the terms under its key that have not expired. -/
def prolong (book : LeaseBook) (key : String) (nowMs : Nat) : LeaseBook :=
  fun holder => (book holder).map (fun term =>
    if holder.key = key ∧ ¬ term.Expired nowMs then
      { term with sinceMs := nowMs }
    else term)

/-- A revocation ends the terms under its key. -/
def close (book : LeaseBook) (key : String) : LeaseBook :=
  fun holder => if holder.key = key then none else book holder

/-- What a call and its reply change. -/
def note (book : LeaseBook) (nowMs : Nat) : LeaseCall → LeaseReply → LeaseBook
  | .grant holder _, .granted lease =>
    book.insert holder ⟨nowMs, lease.ttlMs⟩
  | .renew key, .answered true => book.prolong key nowMs
  | .renewBy key _, .answered true => book.prolong key nowMs
  | .revoke key, .answered true => book.close key
  | _, _ => book

end LeaseBook

structure LeaseRun where
  manager : ExecutionLeaseManager
  book : LeaseBook
  clockMs : Nat

namespace LeaseRun

def start : LeaseRun :=
  { manager := .new
    book := Table.empty
    clockMs := 0 }

def after (run : LeaseRun) (nowMs : Nat) (call : LeaseCall) : LeaseRun :=
  let performed := run.manager.perform nowMs call
  { manager := performed.2
    book := LeaseBook.note run.book nowMs call performed.1
    clockMs := nowMs }

/-- A call that meets the condition, at a time that is not in the past. -/
inductive Step (allowed : LeaseRun → Nat → LeaseCall → Prop) :
    LeaseRun → LeaseRun → Prop where
  | call {run : LeaseRun} (nowMs : Nat) (call : LeaseCall)
      (onward : run.clockMs ≤ nowMs) (meets : allowed run nowMs call) :
      Step allowed run (run.after nowMs call)

abbrev Reaches (allowed : LeaseRun → Nat → LeaseCall → Prop) : LeaseRun → Prop :=
  ReflTransGen (Step allowed) start

/-- Whatever lease is in force under the key of a grant is one of the same
holder. -/
def KeepsApart (run : LeaseRun) (nowMs : Nat) : LeaseCall → Prop
  | .grant holder _ => ∀ lease, run.manager.leases.lookup holder.key =
      some lease → lease.isExpired nowMs = false → lease.holder = holder
  | _ => True

def OnRecord (manager : ExecutionLeaseManager) (holder : Holder) (term : LeaseTerm) : Prop :=
  ∃ lease, manager.leases.lookup holder.key = some lease ∧
    lease.holder = holder ∧ lease.grantedAtMs = term.sinceMs ∧
    lease.ttlMs = term.ttlMs ∧ lease.isRevoked = false

/-- Every term that has not expired is on record. -/
def Recorded (run : LeaseRun) : Prop :=
  ∀ holder term, run.book holder = some term → ¬ term.Expired run.clockMs →
    OnRecord run.manager holder term

variable {manager : ExecutionLeaseManager}

section

variable (recorded : OnRecord manager holder term)
include recorded

theorem OnRecord.unexpired (live : ¬ term.Expired nowMs) :
    ∃ lease, manager.leases.lookup holder.key = some lease ∧
      lease.holder = holder ∧ lease.isExpired nowMs = false := by
  obtain ⟨lease, found, same, since, ttl, unrevoked⟩ := recorded
  refine ⟨lease, found, same, ?_⟩
  unfold LeaseTerm.Expired at live
  simp [ExecutionLease.isExpired, unrevoked, since, ttl, live]

theorem OnRecord.prune (live : ¬ term.Expired nowMs) :
    OnRecord (manager.prune nowMs) holder term := by
  obtain ⟨lease, seen, -, fresh⟩ := recorded.unexpired live
  obtain ⟨own, found, facts⟩ := recorded
  obtain rfl : own = lease := Option.some.inj (found.symm.trans seen)
  refine ⟨own, ?_, facts⟩
  exact FiniteMap.lookup_retain.mpr ⟨found, by simp [fresh]⟩

theorem OnRecord.insert {after : ExecutionLeaseManager} (different : holder.key ≠ key)
    (written : after.leases = manager.leases.insert key lease) : OnRecord after holder term := by
  obtain ⟨own, found, facts⟩ := recorded
  refine ⟨own, ?_, facts⟩
  rw [written, AList.lookup_insert_ne different]
  exact found

end

end LeaseRun

namespace ExecutionLeaseManager

open LeaseRun

end ExecutionLeaseManager

namespace LeaseRun

open ExecutionLeaseManager

section

variable (recorded : Recorded run) (onward : run.clockMs ≤ nowMs)
include recorded onward

theorem Recorded.later {term : LeaseTerm} (held : run.book holder = some term)
    (live : ¬ term.Expired nowMs) : OnRecord run.manager holder term :=
  recorded holder term held (fun expired => live (expired.mono onward))

theorem Recorded.grant (apart : KeepsApart run nowMs (.grant holder ttlMs)) :
    Recorded (run.after nowMs (.grant holder ttlMs)) := by
  intro other term held live
  simp only [after, perform] at held live ⊢
  generalize granted : run.manager.grantLease holder.executionId holder.nodeId
    holder.workerId ttlMs nowMs = answer at held ⊢
  unfold grantLease at granted
  dsimp only at granted
  split at granted
  · subst granted
    exact (recorded.later onward held live).prune live
  · subst granted
    by_cases own : other = holder
    · subst own
      simp only [LeaseBook.note, Table.insert_same, Option.some.injEq] at held
      subst held
      exact ⟨_, AList.lookup_insert _, rfl, rfl, rfl, rfl⟩
    · simp only [LeaseBook.note, Table.insert_of_ne _ _ own] at held
      have before := recorded.later onward held live
      refine (before.prune live).insert ?_ rfl
      -- The key of another holder's lease in force is not taken over.
      intro clash
      obtain ⟨present, found, theirs, unexpired⟩ := before.unexpired live
      rw [clash] at found
      exact own (theirs.symm.trans (apart present found unexpired))

/-- A renewal moves the record and the term alike. -/
theorem Recorded.renewed {owner : String} {term : LeaseTerm} (live : ¬ term.Expired nowMs) :
    let answer := run.manager.renewLeaseBy key owner nowMs
    (if answer.1 then run.book.prolong key nowMs else run.book) holder =
        some term → OnRecord answer.2 holder term := by
  unfold renewLeaseBy
  split
  · exact fun held => recorded.later onward held live
  next lease found =>
    split
    · intro answer held
      obtain ⟨old, before, now⟩ := Option.map_eq_some_iff.mp held
      split at now
      next prolonged =>
        subst now
        obtain ⟨rfl, alive⟩ := prolonged
        obtain ⟨present, seen, theirs, -, length, unrevoked⟩ := recorded.later onward before alive
        rw [found] at seen
        cases seen
        exact ⟨_, AList.lookup_insert _, theirs, rfl, length, unrevoked⟩
      next untouched =>
        subst now
        have different : holder.key ≠ key := fun clash =>
          untouched ⟨clash, live⟩
        exact (recorded.later onward before live).insert different rfl
    · exact fun held => recorded.later onward held live

theorem Recorded.renewBy : Recorded (run.after nowMs (.renewBy key owner)) := by
  intro holder term held live
  apply recorded.renewed onward live
  simp only [after, perform] at held
  split
  next accepted => rwa [accepted] at held
  next refused => rwa [Bool.eq_false_of_not_eq_true refused] at held

/-- A renewal without an owner is one by the owner on record. -/
theorem Recorded.renew : Recorded (run.after nowMs (.renew key)) := by
  intro holder term held live
  simp only [after, perform, renewLease] at held live ⊢
  split at held
  · exact recorded.later onward held live
  · apply recorded.renewed onward live
    split
    next accepted => rwa [accepted] at held
    next refused => rwa [Bool.eq_false_of_not_eq_true refused] at held

theorem Recorded.revoke : Recorded (run.after nowMs (.revoke key)) := by
  intro holder term held live
  simp only [after, perform, revokeLease] at held live ⊢
  split at held
  · exact recorded.later onward held live
  next lease found =>
    have different : holder.key ≠ key := by
      intro clash
      simp [LeaseBook.note, LeaseBook.close, clash] at held
    have kept : run.book holder = some term := by
      simpa [LeaseBook.note, LeaseBook.close, different] using held
    exact (recorded.later onward kept live).insert different rfl

omit onward in
theorem Recorded.step (step : Step KeepsApart run next) : Recorded next := by
  cases step with
  | call nowMs call onward meets =>
    cases call with
    | grant holder ttlMs => exact recorded.grant onward meets
    | renew key => exact recorded.renew onward
    | renewBy key owner => exact recorded.renewBy onward
    | revoke key => exact recorded.revoke onward

end

theorem Reaches.recorded (reached : Reaches KeepsApart run) : Recorded run := by
  induction reached with
  | refl =>
    intro holder term held
    cases held
  | tail _ step ih => exact ih.step step

end LeaseRun

open LeaseRun in
/-- In a run whose grants take over no key, a lease that was granted is on
record until it expires or ends, and its node is refused to everyone else. -/
theorem lease_exclusive (run : LeaseRun) (reached : Reaches KeepsApart run)
    (holder : Holder) (term : LeaseTerm) (held : run.book holder = some term)
    (nowMs : Nat) (onward : run.clockMs ≤ nowMs) (live : ¬ term.Expired nowMs) :
    (∃ lease, run.manager.leases.lookup holder.key = some lease ∧
      lease.holder = holder ∧ lease.isExpired nowMs = false) ∧
    ∀ workerId ttlMs, workerId ≠ holder.workerId →
      ∃ error after, run.manager.grantLease holder.executionId holder.nodeId
        workerId ttlMs nowMs = (.error error, after) := by
  have recorded := reached.recorded.later onward held live
  refine ⟨recorded.unexpired live, ?_⟩
  intro workerId ttlMs other
  obtain ⟨lease, found, same, fresh⟩ := (recorded.prune live).unexpired live
  have blocks : ExecutionLeaseManager.competes holder.executionId
      holder.nodeId workerId nowMs lease = true := by
    subst same
    simpa [ExecutionLeaseManager.competes, ExecutionLease.holder, fresh] using other.symm
  unfold ExecutionLeaseManager.grantLease
  dsimp only
  split
  · exact ⟨_, _, rfl⟩
  next free =>
    have unblocked := List.find?_eq_none.mp free lease (FiniteMap.mem_values_of_lookup found)
    exact (unblocked blocks).elim

namespace LeaseSample

open LeaseRun

def worker : Holder :=
  { executionId := "exec_100"
    nodeId := "n1"
    workerId := "w1" }

def renewedRun : LeaseRun :=
  (start.after 1000 (.grant worker 60000)).after 30000 (.renew worker.key)

theorem renewedRun_reached : Reaches KeepsApart renewedRun := by
  have first : Step KeepsApart start (start.after 1000 (.grant worker 60000)) :=
    .call 1000 (.grant worker 60000) (by decide) (by nofun)
  have second : Step KeepsApart (start.after 1000 (.grant worker 60000))
      renewedRun :=
    .call 30000 (.renew worker.key) (by decide) trivial
  exact (ReflTransGen.single first).tail second

/-- The renewed lease is in force long after the first term. -/
theorem renewedRun_exclusive :
    (∃ lease, renewedRun.manager.leases.lookup worker.key = some lease ∧
      lease.holder = worker ∧ lease.isExpired 80000 = false) ∧ ∀ workerId ttlMs, workerId ≠ "w1" →
      ∃ error after, renewedRun.manager.grantLease "exec_100" "n1" workerId
        ttlMs 80000 = (.error error, after) :=
  lease_exclusive renewedRun renewedRun_reached worker ⟨30000, 60000⟩
    (by decide) 80000 (by decide) (by decide)

/-- Two holders whose keys are the same text. -/
def early : Holder :=
  { executionId := "a"
    nodeId := "b:c"
    workerId := "d" }

def late : Holder :=
  { executionId := "a:b"
    nodeId := "c"
    workerId := "d" }

def clashingRun : LeaseRun :=
  (start.after 1000 (.grant early 60000)).after 1001 (.grant late 60000)

/-- The second grant overwrites the first lease, and a third one hands its node
to another worker. -/
theorem overwritten_lease_granted_again :
    ¬ ∀ (run : LeaseRun), Reaches (fun _ _ _ => True) run →
      ∀ (holder : Holder) (term : LeaseTerm), run.book holder = some term →
      ∀ nowMs, run.clockMs ≤ nowMs → ¬ term.Expired nowMs →
        (∃ lease, run.manager.leases.lookup holder.key = some lease ∧
          lease.holder = holder ∧ lease.isExpired nowMs = false) ∧
        ∀ workerId ttlMs, workerId ≠ holder.workerId →
          ∃ error after, run.manager.grantLease holder.executionId
            holder.nodeId workerId ttlMs nowMs = (.error error, after) := by
  intro always
  have first : Step (fun _ _ _ => True) start (start.after 1000 (.grant early 60000)) :=
    .call 1000 (.grant early 60000) (by decide) trivial
  have second : Step (fun _ _ _ => True) (start.after 1000 (.grant early 60000)) clashingRun :=
    .call 1001 (.grant late 60000) (by decide) trivial
  obtain ⟨error, after, refused⟩ :=
    (always clashingRun ((ReflTransGen.single first).tail second) early
      ⟨1000, 60000⟩ (by decide) 1002 (by decide) (by decide)).2 "e" 60000 (by decide)
  have granted : (clashingRun.manager.grantLease "a" "b:c" "e" 60000 1002).1.isOk = true := by
    decide
  have denied : (clashingRun.manager.grantLease "a" "b:c" "e" 60000 1002).1 =
      .error error := congrArg Prod.fst refused
  rw [denied] at granted
  cases granted

end LeaseSample

end FusionRouter
