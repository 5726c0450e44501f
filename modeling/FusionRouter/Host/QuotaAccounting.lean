import FusionRouter.Host.Resources
import FusionRouter.Scheduler.DependencyOrder

/-!
# Accounting of a request

What a chat request leaves in the counters of the resource manager, from its
reservation to the drop of its guard, compared with what its run has measured.
-/

namespace FusionRouter

open RunState

/-- A run of a scheduled graph: what it has measured, and what the scheduler
returned.  Nothing is returned when the client goes away during the run, which
drops the future of the request. -/
structure MeasuredRun where
  totalCost : Nat
  totalTokens : Nat
  result : Option (Except SchedulerError ExecutionResult)
  truthful : ∀ returned, result = some (.ok returned) →
    returned.totalCost = totalCost ∧ returned.totalTokens = totalTokens

/-- The part of a request that is not its own: how its graph runs, whether the
client stays while the evidence is recorded, and whether the release that the
drop of the guard spawns comes before or after the usage is recorded. -/
structure RequestWorld where
  execution : BudgetEnvelope → MeasuredRun
  clientStays : Bool
  releaseFirst : Bool

/-- The counters behind a request, and its reply unless the client has gone. -/
structure RequestEnd where
  manager : ResourceManager
  reply : Option (Except RouterError ChatCompletionResponse)

structure GraphRequest where
  runtime : RuntimeExternals
  context : PipelineContext
  roundCapacity : Nat
  graph : ExecutionGraph

namespace GraphRequest

/-- The guard is dropped and the measured usage recorded. -/
def settleUsage (request : GraphRequest) (world : RequestWorld)
    (reserved : ResourceManager) (result : ExecutionResult) :
    ResourceManager :=
  if world.releaseFirst then
    (reserved.release request.graph).recordUsage result.totalCost result.totalTokens
  else
    (reserved.recordUsage result.totalCost result.totalTokens).release request.graph

/-- `process_request` behind the scheduler's run. -/
def finish (request : GraphRequest) (world : RequestWorld)
    (reserved : ResourceManager) (result : ExecutionResult) : RequestEnd :=
  if result.success && !world.clientStays then
    { manager := reserved.release request.graph
      reply := none }
  else
    match ResponseBuilderStep.execute request.runtime
        request.context.requestId request.context.request.model result with
    | .error error =>
      { manager := reserved.release request.graph
        reply := some (.error error) }
    | .ok response =>
      { manager := request.settleUsage world reserved result
        reply := some (.ok response) }

/-- `process_request` from the reservation on, for a graph that is not streamed
natively. -/
def process (request : GraphRequest) (world : RequestWorld)
    (manager : ResourceManager) : RequestEnd :=
  match ResourceReservationStep.execute manager request.graph request.context
      request.roundCapacity with
  | .error error =>
    { manager := manager
      reply := some (.error error) }
  | .ok (reserved, envelope) =>
    match (world.execution envelope).result with
    | none =>
      { manager := reserved.release request.graph
        reply := none }
    | some (.error error) =>
      { manager := reserved.release request.graph
        reply := some (.error (.stageFailure .execution request.context.requestId error.text)) }
    | some (.ok result) => request.finish world reserved result

end GraphRequest

/-- The counters moved by what the run has measured. -/
def QuotaAccounted (before after : ResourceManager) (execution : MeasuredRun) :
    Prop :=
  after.usedCost = before.usedCost + execution.totalCost ∧
    after.usedTokens = before.usedTokens + execution.totalTokens

def MeasuredRun.Reported (execution : MeasuredRun) (clientStays : Bool) : Prop :=
  clientStays = true ∧ ∃ result, execution.result = some (.ok result) ∧ result.success = true

def MeasuredRun.Free (execution : MeasuredRun) : Prop :=
  execution.totalCost = 0 ∧ execution.totalTokens = 0

/-- What is used, booked and measured together fits a `u64`. -/
def MeasuredRun.Fits (execution : MeasuredRun) (manager : ResourceManager)
    (graph : ExecutionGraph) : Prop :=
  manager.usedCost + graph.metadata.estimatedCost + execution.totalCost ≤ u64Max ∧
    manager.usedTokens + graph.metadata.estimatedTokens + execution.totalTokens ≤ u64Max

namespace Counter

variable {used booked measured : Nat}

theorem released_iff (small : booked ≤ u64Max) :
    saturatingAdd used booked - booked = used + measured ↔
      measured = 0 ∧ used + booked + measured ≤ u64Max := by
  unfold saturatingAdd
  omega

/-- Both orders of giving back the estimate and recording the usage. -/
theorem settled_iff (small : booked ≤ u64Max) :
    saturatingAdd (saturatingAdd used booked - booked) measured = used + measured ∧
      saturatingAdd (saturatingAdd used booked) measured - booked =
        used + measured ↔ used + booked + measured ≤ u64Max := by
  unfold saturatingAdd
  omega

end Counter

section

variable {request : GraphRequest}

theorem accounted_release_iff
    (booked : reserved = manager.addUsage request.graph.metadata.estimatedCost
      request.graph.metadata.estimatedTokens) (cost : request.graph.metadata.estimatedCost ≤ u64Max)
    (tokens : request.graph.metadata.estimatedTokens ≤ u64Max) :
    QuotaAccounted manager (reserved.release request.graph) execution ↔
      execution.Free ∧ execution.Fits manager request.graph := by
  subst booked
  unfold QuotaAccounted MeasuredRun.Free MeasuredRun.Fits
  have costs := @Counter.released_iff manager.usedCost _ execution.totalCost cost
  have tokens := @Counter.released_iff manager.usedTokens _ execution.totalTokens tokens
  change saturatingAdd manager.usedCost _ - _ = _ ∧ saturatingAdd manager.usedTokens _ - _ = _ ↔ _
  rw [costs, tokens]
  tauto

variable {world : RequestWorld} {envelope : BudgetEnvelope}

theorem accounted_settle_iff
    (booked : reserved = manager.addUsage request.graph.metadata.estimatedCost
      request.graph.metadata.estimatedTokens) (cost : request.graph.metadata.estimatedCost ≤ u64Max)
    (tokens : request.graph.metadata.estimatedTokens ≤ u64Max)
    (measured : result.totalCost = execution.totalCost ∧ result.totalTokens =
      execution.totalTokens) :
    (∀ releaseFirst, QuotaAccounted manager (request.settleUsage
        { world with releaseFirst := releaseFirst } reserved result)
        execution) ↔ execution.Fits manager request.graph := by
  subst booked
  have costs := @Counter.settled_iff manager.usedCost _ execution.totalCost cost
  have tokens := @Counter.settled_iff manager.usedTokens _ execution.totalTokens tokens
  rw [Bool.forall_bool]
  unfold QuotaAccounted MeasuredRun.Fits GraphRequest.settleUsage
  rw [← costs, ← tokens, measured.1, measured.2]
  change (saturatingAdd (saturatingAdd manager.usedCost _) _ - _ = _ ∧
      saturatingAdd (saturatingAdd manager.usedTokens _) _ - _ = _) ∧
    (saturatingAdd (saturatingAdd manager.usedCost _ - _) _ = _ ∧
      saturatingAdd (saturatingAdd manager.usedTokens _ - _) _ = _) ↔ _
  tauto

section

variable (admitted : ResourceReservationStep.execute manager request.graph
  request.context request.roundCapacity = .ok (reserved, envelope))
include admitted

theorem process_unreported (unreported : ¬ (world.execution envelope).Reported world.clientStays) :
    (request.process world manager).manager = reserved.release request.graph := by
  unfold GraphRequest.process
  simp only [admitted]
  split
  · rfl
  · rfl
  next result returned =>
    unfold GraphRequest.finish ResponseBuilderStep.execute
    cases success : result.success with
    | false => simp
    | true =>
      have gone : world.clientStays = false := by
        by_contra stays
        exact unreported ⟨by simpa using stays, result, returned, success⟩
      simp [gone]

end

end

/-- For a request that passes reservation, in whichever order the estimate is
given back and the usage recorded: the counters move by what the run has
measured exactly when the run reports success to a client that stays or has
used nothing, and no counter overflows. -/
theorem quota_accounted_iff (request : GraphRequest) (world : RequestWorld)
    (manager reserved : ResourceManager) (envelope : BudgetEnvelope)
    (cost : request.graph.metadata.estimatedCost ≤ u64Max)
    (tokens : request.graph.metadata.estimatedTokens ≤ u64Max)
    (admitted : ResourceReservationStep.execute manager request.graph
      request.context request.roundCapacity = .ok (reserved, envelope)) :
    (∀ releaseFirst, QuotaAccounted manager (request.process
        { world with releaseFirst := releaseFirst } manager).manager
        (world.execution envelope)) ↔ ((world.execution envelope).Reported world.clientStays ∨
        (world.execution envelope).Free) ∧
      (world.execution envelope).Fits manager request.graph := by
  have booked : reserved = manager.addUsage request.graph.metadata.estimatedCost
      request.graph.metadata.estimatedTokens := by
    have kept := admitted
    unfold ResourceReservationStep.execute at kept
    split at kept
    · cases kept
    next booked found =>
      cases kept
      unfold ResourceManager.tryReserve ResourceManager.tryApply at found
      split at found
      · cases found
      · exact (Option.some.inj found).symm
  by_cases reported : (world.execution envelope).Reported world.clientStays
  · obtain ⟨stays, result, returned, success⟩ := reported
    have settled : ∀ releaseFirst, (request.process
        { world with releaseFirst := releaseFirst } manager).manager =
          request.settleUsage { world with releaseFirst := releaseFirst }
            reserved result := by
      intro releaseFirst
      unfold GraphRequest.process GraphRequest.finish ResponseBuilderStep.execute
      simp [admitted, returned, success, stays]
    simp only [settled]
    rw [accounted_settle_iff booked cost tokens
      ((world.execution envelope).truthful result returned)]
    exact (and_iff_right (Or.inl ⟨stays, result, returned, success⟩)).symm
  · have released : ∀ releaseFirst, (request.process
        { world with releaseFirst := releaseFirst } manager).manager =
          reserved.release request.graph := fun releaseFirst => process_unreported admitted reported
    simp only [released, forall_const]
    rw [accounted_release_iff booked cost tokens, or_iff_right reported]

/-! ## Runs of the default scheduler -/

namespace HostScheduler

variable (host : HostScheduler) (scheduled : ExecutionInstance)
  (executor : Executor) (cancel : Option CancelToken) (timing : Timing)
  (fuel : Nat)

theorem runCrates_totals {outcome : Except PlatformError ExecutionOutcome}
    (finished : runInner (host.setup scheduled.graph executor cancel)
      scheduled.budgetEnvelope fuel = some (outcome, last))
    (ended : (host.runCrates scheduled executor cancel timing fuel).map
      Prod.fst = some (.ok returned)) :
    returned.totalCost = last.totalCost ∧ returned.totalTokens = last.totalTokens := by
  unfold runCrates at ended
  rw [finished] at ended
  cases outcome with
  | error error => cases ended
  | ok outcome =>
    cases ended
    obtain ⟨config, -, ends⟩ := runInner_ends finished
    cases ends with
    | finished | stuck | left => exact ⟨rfl, rfl⟩
    | breached processed =>
      obtain ⟨error, -, returned⟩ := processResult_finish processed
      cases returned
      exact ⟨rfl, rfl⟩

/-- The run of a scheduled instance by the default scheduler, when it ends
within the fuel. -/
def measuredRun : Option MeasuredRun :=
  match finished : runInner (host.setup scheduled.graph executor cancel)
      scheduled.budgetEnvelope fuel with
  | none => none
  | some (_, last) => some
      { totalCost := last.totalCost
        totalTokens := last.totalTokens
        result := (host.runCrates scheduled executor cancel timing fuel).map Prod.fst
        truthful := fun _ ended =>
          runCrates_totals host scheduled executor cancel timing fuel finished ended }

end HostScheduler

namespace QuotaSample

/-- A client that has gone before the run has used anything. -/
def gone : MeasuredRun :=
  { totalCost := 0
    totalTokens := 0
    result := none
    truthful := by
      intro returned same
      cases same }

/-- Node 1 and behind it node 2. -/
def request : GraphRequest :=
  { runtime := .sample acceptingExternals [1, 2]
    context := .new 7
      { model := "auto"
        messages := [⟨"user", "Which one?"⟩]
        maxTokens := none
        tools := none }
    roundCapacity := 4
    graph := compiledGraph sampleOptions
      (workflow [plainNode 1 .generate, plainNode 2 .generate] [⟨1, 2, none⟩]) }

/-- Node 1 uses 20 tokens; node 2 ends in this state. -/
def world (second : NodeState) : RequestWorld :=
  { execution := fun envelope =>
      (HostScheduler.measuredRun
        { externals := acceptingExternals
          maxConcurrent := 4
          pricing := some (fun _ =>
            { inputNanosPerToken := 100
              outputNanosPerToken := 300 }) }
        { HostScheduler.schedule 9 request.graph 8 with
          budgetEnvelope := some envelope }
        (fun _ node _ =>
          if node.id = 1 then
            { state := .succeeded
              usage := some ⟨10, 10, 20⟩
              output := none }
          else
            { state := second
              usage := none
              output := none })
        none .inOrder 10).getD gone
    clientStays := true
    releaseFirst := true }

def manager : ResourceManager :=
  .new { maxDailyCost := 50000000000, maxDailyTokens := 1000000 }

def envelope : BudgetEnvelope :=
  .new (ResourceReservationStep.maxCost manager.quota request.graph)
    (ResourceReservationStep.maxTokens manager.quota request.graph request.context)
    (ResourceReservationStep.maxIterations request.graph request.roundCapacity)

def reserved : ResourceManager :=
  manager.addUsage request.graph.metadata.estimatedCost request.graph.metadata.estimatedTokens

theorem admitted : ResourceReservationStep.execute manager request.graph
    request.context request.roundCapacity = .ok (reserved, envelope) := by
  have fits : manager.tryReserve request.graph = some reserved := by
    decide
  unfold ResourceReservationStep.execute
  rw [fits]
  rfl

theorem finished_run_reported :
    ((world .succeeded).execution envelope).Reported (world .succeeded).clientStays := by
  have run : ((world .succeeded).execution envelope).result.bind (fun reply =>
      reply.toOption.map ExecutionResult.success) = some true := by
    decide
  obtain ⟨reply, returned, success⟩ := Option.bind_eq_some_iff.mp run
  cases reply with
  | error error => cases success
  | ok result => exact ⟨rfl, result, returned, Option.some.inj success⟩

theorem finished_run_accounted :
    (∀ releaseFirst, QuotaAccounted manager (request.process
        { world .succeeded with releaseFirst := releaseFirst } manager).manager
        ((world .succeeded).execution envelope)) ∧
      ((world .succeeded).execution envelope).totalTokens = 20 := by
  have fits : ((world .succeeded).execution envelope).Fits manager
      request.graph := by
    unfold MeasuredRun.Fits
    decide
  have holds := (quota_accounted_iff request (world .succeeded) manager reserved
    envelope (by decide) (by decide) admitted).mpr
    ⟨Or.inl finished_run_reported, fits⟩
  refine ⟨holds, ?_⟩
  decide

/-- Node 2 fails behind a node that has used 20 tokens; nothing is recorded. -/
theorem failed_run_unaccounted :
    ¬ ∀ (request : GraphRequest) (world : RequestWorld)
        (manager reserved : ResourceManager) (envelope : BudgetEnvelope),
      request.graph.metadata.estimatedCost ≤ u64Max →
      request.graph.metadata.estimatedTokens ≤ u64Max →
      ResourceReservationStep.execute manager request.graph request.context
        request.roundCapacity = .ok (reserved, envelope) →
      QuotaAccounted manager (request.process world manager).manager
        (world.execution envelope) := by
  intro accounted
  have holds := (accounted request (world (.failed "upstream error")) manager
    reserved envelope (by decide) (by decide) admitted).2
  have left : ((request.process (world (.failed "upstream error")) manager).manager.usedTokens,
      ((world (.failed "upstream error")).execution envelope).totalTokens) = (0, 20) := by
    decide
  obtain ⟨used, measured⟩ := Prod.mk.inj left
  rw [used, measured] at holds
  cases holds

end QuotaSample

end FusionRouter
