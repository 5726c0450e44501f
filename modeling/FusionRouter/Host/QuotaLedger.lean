import FusionRouter.Host.Resources
import FusionRouter.Lib.CriticalSection
import FusionRouter.Resource.MeteredStream

/-!
# The quota under interleaving

The counters of a resource manager are atomic cells, and every method that
changes them holds `reserve_lock` while it loads and stores them.  Each load,
each store and each step of the lock is a step of its own here, so that the
calls of several requests mix in every order.

A reservation is one thread, from its `try_reserve` to the `release` that the
drop of its guard makes, and a call of `record_usage` is one.  A request that
makes several calls is the case in which its threads take turns.
-/

namespace FusionRouter

open Interleaving

inductive QuotaCounter where
  | cost
  | tokens
deriving Repr, DecidableEq

structure Amount where
  cost : Nat
  tokens : Nat
deriving Repr, DecidableEq

def Amount.on (amount : Amount) : QuotaCounter → Nat
  | .cost => amount.cost
  | .tokens => amount.tokens

def Quota.ceiling (quota : Quota) : QuotaCounter → Nat
  | .cost => quota.maxDailyCost
  | .tokens => quota.maxDailyTokens

/-- `spent_cost` and `spent_tokens`. -/
def ResourceManager.spent (manager : ResourceManager) : QuotaCounter → Nat
  | .cost => manager.usedCost
  | .tokens => manager.usedTokens

def ExecutionGraph.estimate (graph : ExecutionGraph) : Amount :=
  { cost := graph.metadata.estimatedCost
    tokens := graph.metadata.estimatedTokens }

namespace ResourceGuard

def new (requestId : Uuid) (graph : ExecutionGraph) (runtime : Bool) :
    ResourceGuard :=
  { requestId := requestId
    estimatedTokens := graph.metadata.estimatedTokens
    estimatedCost := graph.metadata.estimatedCost
    committed := false
    runtime := runtime }

def commit (guard : ResourceGuard) : ResourceGuard :=
  { guard with committed := true }

def estimate (guard : ResourceGuard) : Amount :=
  { cost := guard.estimatedCost
    tokens := guard.estimatedTokens }

/-- The release of the default manager neither fails nor panics. -/
def released (guard : ResourceGuard) (accepts : Bool) : List ReleaseAttempt :=
  guard.drop
    { accepts := accepts
      first := .ok
      second := .ok }

end ResourceGuard

/-! ## Critical sections -/

/-- The cells of a manager and its `reserve_lock`. -/
structure ManagerCells where
  manager : ResourceManager
  locked : Bool

namespace ManagerCells

def lock (cells : ManagerCells) : ManagerCells :=
  { cells with locked := true }

def unlock (cells : ManagerCells) : ManagerCells :=
  { cells with locked := false }

/-- `self.used_cost.store(cost)`. -/
def storeCost (cells : ManagerCells) (cost : Nat) : ManagerCells :=
  { cells with manager := { cells.manager with usedCost := cost } }

/-- `self.used_tokens.store(tokens)`. -/
def storeTokens (cells : ManagerCells) (tokens : Nat) : ManagerCells :=
  { cells with manager := { cells.manager with usedTokens := tokens } }

end ManagerCells

inductive QuotaSection where
  | tryApply
  | addUsage
  | subtract
deriving Repr, DecidableEq

namespace QuotaSection

/-- The value that is stored in place of the one that was loaded. -/
def update : QuotaSection → Nat → Nat → Nat
  | .tryApply, current, amount => saturatingAdd current amount
  | .addUsage, current, amount => saturatingAdd current amount
  | .subtract, current, amount => current - amount

/-- Only admission looks at the ceilings. -/
def refuses (quota : Quota) (newCost newTokens : Nat) : QuotaSection → Bool
  | .tryApply =>
    decide (quota.maxDailyCost < newCost ∨ quota.maxDailyTokens < newTokens)
  | .addUsage => false
  | .subtract => false

theorem tryApply_of_refuses {part : QuotaSection}
    (refused : part.refuses quota newCost newTokens = true) : part = .tryApply := by
  cases part with
  | tryApply => rfl
  | addUsage | subtract => cases refused

end QuotaSection

/-- Where a critical section is, by its next access. -/
inductive SectionStage where
  | locking
  | loadingCost
  | loadingTokens (currentCost : Nat)
  | storingCost (newCost newTokens : Nat)
  | storingTokens (newTokens : Nat)
  /-- The guard of the lock is dropped when the method returns. -/
  | unlocking (applied : Bool)
deriving Repr, DecidableEq

namespace SectionStage

def inside : SectionStage → Bool
  | .locking => false
  | _ => true

def stored : QuotaCounter → SectionStage → Bool
  | .cost, .storingTokens _ => true
  | _, .unlocking applied => applied
  | _, _ => false

/-- The accesses up to the last store. -/
def advance (part : QuotaSection) (amount : Amount) (cells : ManagerCells) :
    SectionStage → Option (ManagerCells × SectionStage)
  | .locking => if cells.locked then none else some (cells.lock, .loadingCost)
  | .loadingCost => some (cells, .loadingTokens cells.manager.usedCost)
  | .loadingTokens currentCost =>
    let newCost := part.update currentCost amount.cost
    let newTokens := part.update cells.manager.usedTokens amount.tokens
    some (cells,
      if part.refuses cells.manager.quota newCost newTokens then
        .unlocking false
      else .storingCost newCost newTokens)
  | .storingCost newCost newTokens =>
    some (cells.storeCost newCost, .storingTokens newTokens)
  | .storingTokens newTokens =>
    some (cells.storeTokens newTokens, .unlocking true)
  | .unlocking _ => none

end SectionStage

/-! ## Requests -/

inductive QuotaCall where
  | tryReserve (graph : ExecutionGraph) (requestId : Uuid) (runtime : Bool)
  | release (guard : ResourceGuard)
  | recordUsage (amount : Amount)

inductive QuotaThread where
  | calling (call : QuotaCall) (stage : SectionStage)
  /-- `try_reserve` returned false. -/
  | refused
  | holding (guard : ResourceGuard)
  /-- The guard was dropped after `commit`. -/
  | kept (guard : ResourceGuard)
  | released
  | recorded (amount : Amount)

/-- What a request decides about its guard. -/
inductive GuardChoice where
  | commit
  | drop (accepts : Bool)

namespace QuotaCall

def part : QuotaCall → QuotaSection
  | .tryReserve _ _ _ => .tryApply
  | .release _ => .subtract
  | .recordUsage _ => .addUsage

def amount : QuotaCall → Amount
  | .tryReserve graph _ _ => graph.estimate
  | .release guard => guard.estimate
  | .recordUsage amount => amount

def returned (applied : Bool) : QuotaCall → QuotaThread
  | .tryReserve graph requestId runtime =>
    if applied then .holding (.new requestId graph runtime) else .refused
  | .release _ => .released
  | .recordUsage amount => .recorded amount

end QuotaCall

namespace QuotaThread

/-- The first steps of a request. -/
def Fresh : QuotaThread → Prop
  | .calling (.tryReserve _ _ _) .locking => True
  | .calling (.recordUsage _) .locking => True
  | _ => False

def inside : QuotaThread → Bool
  | .calling _ stage => stage.inside
  | _ => false

/-- The part of a reservation that is booked and not given back. -/
def outstanding (counter : QuotaCounter) : QuotaThread → Nat
  | .calling (.tryReserve graph _ _) stage =>
    if stage.stored counter then graph.estimate.on counter else 0
  | .calling (.release guard) stage =>
    if stage.stored counter then 0 else guard.estimate.on counter
  | .holding guard => guard.estimate.on counter
  | .kept guard => guard.estimate.on counter
  | _ => 0

def recordedUsage (counter : QuotaCounter) : QuotaThread → Nat
  | .calling (.recordUsage amount) stage =>
    if stage.stored counter then amount.on counter else 0
  | .recorded amount => amount.on counter
  | _ => 0

def balance (counter : QuotaCounter) (thread : QuotaThread) : Nat :=
  thread.outstanding counter + thread.recordedUsage counter

def advance (choice : GuardChoice) (cells : ManagerCells) :
    QuotaThread → Option (ManagerCells × QuotaThread)
  | .calling call (.unlocking applied) =>
    some (cells.unlock, call.returned applied)
  | .calling call stage =>
    (stage.advance call.part call.amount cells).map (fun next => (next.1, .calling call next.2))
  | .holding guard =>
    match choice with
    | .commit => some (cells, .holding guard.commit)
    | .drop accepts =>
      match guard.released accepts with
      | [] => some (cells, .kept guard)
      | _ :: _ => some (cells, .calling (.release guard) .locking)
  | _ => none

end QuotaThread

open QuotaThread (balance outstanding recordedUsage calling)

def QuotaAction (cells : ManagerCells) (here : QuotaThread)
    (cells' : ManagerCells) (here' : QuotaThread) : Prop :=
  ∃ choice, here.advance choice cells = some (cells', here')

/-- The sum of the outstanding reservations and of the recorded usage. -/
def ledger (counter : QuotaCounter) (threads : List QuotaThread) : Nat :=
  (threads.map (balance counter)).sum

/-- The runs in which the sums are `u64` values. -/
def QuotaRun : System ManagerCells QuotaThread → System ManagerCells QuotaThread → Prop :=
  Watched fun others cells here cells' here' =>
    QuotaAction cells here cells' here' ∧ ∀ counter, ledger counter (here' :: others) ≤ u64Max

/-- A new manager and the calls that are to be made on it. -/
def quotaStart (quota : Quota) (threads : List QuotaThread) : System ManagerCells QuotaThread :=
  { shared :=
      { manager := .new quota
        locked := false }
    threads := threads }

/-- In this step a call of `try_reserve` returns true. -/
def Reserves (before after : System ManagerCells QuotaThread) : Prop :=
  ∃ front back graph requestId runtime, before.threads = front ++
      .calling (.tryReserve graph requestId runtime) (.unlocking true) :: back ∧ after =
      { shared := before.shared.unlock
        threads := front ++ .holding (.new requestId graph runtime) :: back }

/-! ## What a thread inside knows -/

/-- The values that a section has loaded or computed are those of the cells. -/
def SectionStage.Knows (part : QuotaSection) (amount : Amount)
    (manager : ResourceManager) : SectionStage → Prop
  | .locking => True
  | .loadingCost => True
  | .loadingTokens currentCost => currentCost = manager.usedCost
  | .storingCost newCost newTokens =>
    newCost = part.update manager.usedCost amount.cost ∧
      newTokens = part.update manager.usedTokens amount.tokens ∧
      part.refuses manager.quota newCost newTokens = false
  | .storingTokens newTokens =>
    newTokens = part.update manager.usedTokens amount.tokens ∧
      part.refuses manager.quota manager.usedCost newTokens = false
  | .unlocking true =>
    part.refuses manager.quota manager.usedCost manager.usedTokens = false
  | .unlocking false => part = .tryApply

def QuotaThread.Knows (cells : ManagerCells) : QuotaThread → Prop
  | .calling call stage => stage.Knows call.part call.amount cells.manager
  | _ => True

namespace QuotaAction

/-- The steps of a call, one by one, and those of a guard. -/
inductive Cases : ManagerCells → QuotaThread → ManagerCells → QuotaThread → Prop
  | lock {cells : ManagerCells} {call : QuotaCall} (free : cells.locked = false) :
      Cases cells (.calling call .locking) cells.lock (.calling call .loadingCost)
  | loadCost {cells : ManagerCells} {call : QuotaCall} :
      Cases cells (.calling call .loadingCost) cells
        (.calling call (.loadingTokens cells.manager.usedCost))
  | refuse {cells : ManagerCells} {call : QuotaCall} {currentCost : Nat}
      (admission : call.part = .tryApply) :
      Cases cells (.calling call (.loadingTokens currentCost)) cells
        (.calling call (.unlocking false))
  | decide {cells : ManagerCells} {call : QuotaCall} {currentCost : Nat}
      (accepted : call.part.refuses cells.manager.quota
        (call.part.update currentCost call.amount.cost)
        (call.part.update cells.manager.usedTokens call.amount.tokens) = false) :
      Cases cells (.calling call (.loadingTokens currentCost)) cells
        (.calling call (.storingCost (call.part.update currentCost call.amount.cost)
          (call.part.update cells.manager.usedTokens call.amount.tokens)))
  | storeCost {cells : ManagerCells} {call : QuotaCall} {newCost newTokens : Nat} :
      Cases cells (.calling call (.storingCost newCost newTokens))
        (cells.storeCost newCost) (.calling call (.storingTokens newTokens))
  | storeTokens {cells : ManagerCells} {call : QuotaCall} {newTokens : Nat} :
      Cases cells (.calling call (.storingTokens newTokens))
        (cells.storeTokens newTokens) (.calling call (.unlocking true))
  | unlock {cells : ManagerCells} {call : QuotaCall} {applied : Bool} :
      Cases cells (.calling call (.unlocking applied)) cells.unlock (call.returned applied)
  | commit {cells : ManagerCells} {guard : ResourceGuard} :
      Cases cells (.holding guard) cells (.holding guard.commit)
  | keep {cells : ManagerCells} {guard : ResourceGuard} :
      Cases cells (.holding guard) cells (.kept guard)
  | drop {cells : ManagerCells} {guard : ResourceGuard} :
      Cases cells (.holding guard) cells (.calling (.release guard) .locking)

theorem cases (action : QuotaAction cells here cells' here') : Cases cells here cells' here' := by
  obtain ⟨choice, advanced⟩ := action
  cases here with
  | calling call stage =>
    cases stage with
    | locking =>
      cases lock : cells.locked with
      | true => simp [QuotaThread.advance, SectionStage.advance, lock] at advanced
      | false =>
        simp only [QuotaThread.advance, SectionStage.advance, lock] at advanced
        cases advanced
        exact .lock lock
    | loadingCost =>
      cases advanced
      exact .loadCost
    | loadingTokens currentCost =>
      cases advanced
      split
      next refused =>
        exact .refuse (QuotaSection.tryApply_of_refuses refused)
      next accepted => exact .decide (Bool.eq_false_of_not_eq_true accepted)
    | storingCost newCost newTokens =>
      cases advanced
      exact .storeCost
    | storingTokens newTokens =>
      cases advanced
      exact .storeTokens
    | unlocking applied =>
      cases advanced
      exact .unlock
  | holding guard =>
    cases choice with
    | commit =>
      cases advanced
      exact .commit
    | drop accepts =>
      simp only [QuotaThread.advance] at advanced
      split at advanced
      · cases advanced
        exact .keep
      · cases advanced
        exact .drop
  | _ => cases advanced

end QuotaAction

theorem inside_returned (call : QuotaCall) (applied : Bool) :
    (call.returned applied).inside = false := by
  cases call with
  | tryReserve graph requestId runtime => cases applied <;> rfl
  | release guard | recordUsage amount => rfl

theorem quota_guarded :
    Guarded QuotaAction ManagerCells.locked QuotaThread.inside
      QuotaThread.Knows := by
  constructor
  · intro cells here cells' here' action before after
    cases action.cases with
    | lock free => exact ⟨free, rfl, trivial⟩
    | unlock =>
      rw [inside_returned] at after
      cases after
    | commit | keep | drop => cases after
    | _ => cases before
  · intro cells here cells' here' action before after knows
    cases action.cases with
    | lock | commit | keep | drop => cases before
    | loadCost => exact ⟨rfl, rfl⟩
    | refuse admission => exact ⟨rfl, admission⟩
    | decide accepted =>
      have loaded := knows
      dsimp only [QuotaThread.Knows, SectionStage.Knows] at loaded
      subst loaded
      exact ⟨rfl, rfl, rfl, accepted⟩
    | storeCost =>
      obtain ⟨newCost, newTokens, accepted⟩ := knows
      exact ⟨rfl, newTokens, accepted⟩
    | storeTokens =>
      obtain ⟨newTokens, accepted⟩ := knows
      exact ⟨rfl, accepted⟩
    | unlock =>
      rw [inside_returned] at after
      cases after
  · intro cells here cells' here' action before after
    cases action.cases with
    | unlock => rfl
    | lock | commit | keep | drop => cases before
    | _ => cases after
  · intro cells here cells' here' action before after
    cases action.cases with
    | commit | keep | drop => exact ⟨rfl, fun _ knows => knows⟩
    | lock => cases after
    | _ => cases before

/-! ## The balance -/

theorem balance_returned (counter : QuotaCounter)
    (knows : (calling call (.unlocking applied)).Knows cells) :
    (call.returned applied).balance counter =
      (calling call (.unlocking applied)).balance counter := by
  cases applied with
  | true => cases call <;> cases counter <;> rfl
  | false =>
    cases call with
    | tryReserve graph requestId runtime => cases counter <;> rfl
    | release guard | recordUsage amount => cases knows

/-- A store moves the amount of the call between the counter and the share of
its thread. -/
theorem update_balance (waiting : before.stored counter = false)
    (stored : after.stored counter = true)
    (held : current = others + (calling call before).balance counter)
    (fits : others + (calling call after).balance counter ≤ u64Max) :
    call.part.update current (call.amount.on counter) =
      others + (calling call after).balance counter := by
  cases call with
  | tryReserve graph requestId runtime | recordUsage amount =>
    simp only [balance, outstanding,
      recordedUsage, waiting, stored, Bool.false_eq_true,
      if_true, if_false, Nat.add_zero, Nat.zero_add] at held fits ⊢
    rw [held]
    exact saturatingAdd_of_lt fits
  | release guard =>
    simp only [balance, outstanding,
      recordedUsage, waiting, stored, Bool.false_eq_true,
      if_true, if_false, Nat.add_zero] at held ⊢
    rw [held]
    exact Nat.add_sub_cancel _ _

theorem spent_step (action : QuotaAction cells here cells' here')
    (knows : here.inside = true → here.Knows cells)
    (held : cells.manager.spent counter = others + here.balance counter)
    (fits : others + here'.balance counter ≤ u64Max) :
    cells'.manager.spent counter = others + here'.balance counter := by
  have silent : ∀ {call : QuotaCall} {before after : SectionStage},
      before.stored counter = after.stored counter → cells.manager.spent counter =
        others + (calling call before).balance counter → cells.manager.spent counter =
        others + (calling call after).balance counter := by
    intro call before after same spent
    rw [spent]
    cases call <;> simp only [balance, outstanding,
        recordedUsage, same]
  cases action.cases with
  | lock | loadCost | refuse | decide =>
    exact silent (by cases counter <;> rfl) held
  | storeCost =>
    obtain ⟨newCost, -, -⟩ := knows rfl
    cases counter with
    | cost =>
      rw [← update_balance rfl rfl held fits]
      exact newCost
    | tokens => exact silent (by rfl) held
  | storeTokens =>
    obtain ⟨newTokens, -⟩ := knows rfl
    cases counter with
    | cost => exact silent (by rfl) held
    | tokens =>
      rw [← update_balance rfl rfl held fits]
      exact newTokens
  | unlock =>
    rw [balance_returned counter (knows rfl)]
    exact held
  | commit | keep => exact held
  | drop =>
    rw [held]
    cases counter <;> rfl

structure LedgerHolds (quota : Quota) (cells : ManagerCells)
    (threads : List QuotaThread) : Prop where
  quota : cells.manager.quota = quota
  excludes : Excludes ManagerCells.locked QuotaThread.inside QuotaThread.Knows cells threads
  spent : ∀ counter, cells.manager.spent counter = ledger counter threads

theorem LedgerHolds.of_run {quota : Quota} (fresh : ∀ thread ∈ threads, thread.Fresh)
    (run : QuotaRun (quotaStart quota threads) system) :
    LedgerHolds quota system.shared system.threads := by
  have idle : ∀ thread ∈ threads, thread.inside = false ∧
      ∀ counter, thread.balance counter = 0 := by
    intro thread member
    have first := fresh thread member
    unfold QuotaThread.Fresh at first
    split at first
    · exact ⟨rfl, fun counter => by cases counter <;> rfl⟩
    · exact ⟨rfl, fun counter => by cases counter <;> rfl⟩
    · cases first
  apply Watched.symmetric run (LedgerHolds quota)
  · intro cells threads threads' permuted held
    refine ⟨held.quota, held.excludes.perm permuted, fun counter => ?_⟩
    rw [held.spent counter]
    exact (permuted.map (balance counter)).sum_eq
  · intro others cells here cells' here' moves held
    obtain ⟨action, fits⟩ := moves
    have quota : cells'.manager.quota = cells.manager.quota := by
      cases action.cases <;> rfl
    refine ⟨quota.trans held.quota, quota_guarded.excludes action held.excludes, fun counter => ?_⟩
    have spent := held.spent counter
    have bound := fits counter
    rw [ledger, List.map_cons, List.sum_cons, Nat.add_comm] at spent bound ⊢
    apply spent_step action _ spent bound
    exact held.excludes.knows here List.mem_cons_self
  · refine ⟨rfl, .free rfl (fun thread member => (idle thread member).1), fun counter => ?_⟩
    have none : ∀ share ∈ threads.map (balance counter), share = 0 := by
      intro share member
      obtain ⟨thread, inside, rfl⟩ := List.mem_map.mp member
      exact (idle thread inside).2 counter
    unfold ledger quotaStart
    rw [List.sum_eq_zero none]
    cases counter <;> rfl

/-- An admission leaves both counters within the quota. -/
theorem LedgerHolds.reserves {quota : Quota} {before after : System ManagerCells QuotaThread}
    (held : LedgerHolds quota before.shared before.threads)
    (reserves : Reserves before after) (counter : QuotaCounter) :
    after.shared.manager.spent counter ≤ quota.ceiling counter := by
  obtain ⟨front, back, graph, requestId, runtime, threads, rfl⟩ := reserves
  have knows := held.excludes.knows
    (.calling (.tryReserve graph requestId runtime) (.unlocking true)) (by simp [threads]) rfl
  have within : ¬ (before.shared.manager.quota.maxDailyCost < before.shared.manager.usedCost ∨
      before.shared.manager.quota.maxDailyTokens <
        before.shared.manager.usedTokens) := of_decide_eq_false knows
  rw [held.quota, not_or, Nat.not_lt, Nat.not_lt] at within
  cases counter with
  | cost => exact within.1
  | tokens => exact within.2

def outstandingSum (counter : QuotaCounter) (system : System ManagerCells QuotaThread) : Nat :=
  total (outstanding counter) system

def recordedSum (counter : QuotaCounter) (system : System ManagerCells QuotaThread) : Nat :=
  total (recordedUsage counter) system

/-- Under every interleaving, the counters are the outstanding reservations and
the recorded usage, and an admission stays within the quota. -/
theorem quota_ledger (quota : Quota) (threads : List QuotaThread)
    (fresh : ∀ thread ∈ threads, thread.Fresh) (system : System ManagerCells QuotaThread)
    (run : QuotaRun (quotaStart quota threads) system) (counter : QuotaCounter) :
    system.shared.manager.spent counter =
        outstandingSum counter system + recordedSum counter system ∧
      ∀ after, Reserves system after →
        after.shared.manager.spent counter ≤ quota.ceiling counter := by
  have held := LedgerHolds.of_run fresh run
  refine ⟨?_, fun after reserves => held.reserves reserves counter⟩
  rw [held.spent counter]
  exact List.sum_map_add

namespace QuotaSample

/-- The next step of a thread, if the sums stay `u64` values. -/
def advance (choice : GuardChoice) (others : List QuotaThread)
    (cells : ManagerCells) (here : QuotaThread) : Option (ManagerCells × QuotaThread) :=
  (here.advance choice cells).filter (fun next => decide (ledger .cost (next.2 :: others) ≤ u64Max ∧
      ledger .tokens (next.2 :: others) ≤ u64Max))

def graph : ExecutionGraph :=
  { graphId := 1
    nodes := []
    edges := []
    metadata :=
      { estimatedCost := 3
        estimatedTokens := 4
        policyVersion := 0
        maxDepth := 1
        nodeCount := 0 }
    totalTokens := 4
    totalCost := 3 }

def quota : Quota :=
  { maxDailyCost := 10
    maxDailyTokens := 10 }

def threads : List QuotaThread :=
  [.calling (.tryReserve graph 7 true) .locking, .calling (.recordUsage ⟨1, 2⟩) .locking]

/-- The reservation is made, the usage is recorded, and the release has stored
the cost and not yet the tokens. -/
def schedule : List (Nat × GuardChoice) :=
  List.replicate 6 (0, .commit) ++ List.replicate 6 (1, .commit) ++ List.replicate 5 (0, .drop true)

def final : System ManagerCells QuotaThread :=
  (System.play advance schedule (quotaStart quota threads)).getD (quotaStart quota threads)

theorem run : QuotaRun (quotaStart quota threads) final := by
  have played : System.play advance schedule (quotaStart quota threads) = some final := rfl
  refine Watched.of_play ?_ played
  intro choice others cells here next advanced
  obtain ⟨moved, fits⟩ := Option.filter_eq_some_iff.mp advanced
  obtain ⟨cost, tokens⟩ := of_decide_eq_true fits
  refine ⟨⟨choice, moved⟩, fun counter => ?_⟩
  cases counter with
  | cost => exact cost
  | tokens => exact tokens

theorem midway_balanced :
    (final.shared.manager.spent .cost = 1 ∧
      outstandingSum .cost final = 0 ∧ recordedSum .cost final = 1) ∧
    (final.shared.manager.spent .cost = outstandingSum .cost final + recordedSum .cost final ∧
      ∀ after, Reserves final after → after.shared.manager.spent .cost ≤ quota.ceiling .cost) := by
  refine ⟨by decide, quota_ledger quota threads ?_ final run .cost⟩
  intro thread member
  simp only [threads, List.mem_cons, List.not_mem_nil, or_false] at member
  rcases member with rfl | rfl
  · trivial
  · trivial

end QuotaSample

end FusionRouter
