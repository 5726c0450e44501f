import FusionRouter.Host.Pipeline

/-!
# The resource manager

The quota of a day and what is used of it.  A request books the estimate of its
graph before it runs and gives it back when its guard is dropped; what it has
really used is recorded on top.  Every operation runs under one lock.
-/

namespace FusionRouter

/-- The ceilings that admission reads. -/
structure Quota where
  maxDailyCost : Nat
  maxDailyTokens : Nat
deriving Repr, DecidableEq

/-- `DefaultResourceManager`. -/
structure ResourceManager where
  quota : Quota
  usedCost : Nat
  usedTokens : Nat
deriving Repr, DecidableEq

namespace ResourceManager

def new (quota : Quota) : ResourceManager :=
  { quota := quota
    usedCost := 0
    usedTokens := 0 }

variable (manager : ResourceManager)

def addUsage (cost tokens : Nat) : ResourceManager :=
  { manager with
    usedCost := saturatingAdd manager.usedCost cost
    usedTokens := saturatingAdd manager.usedTokens tokens }

/-- `subtract`; the subtraction of `Nat` saturates as well. -/
def subtract (cost tokens : Nat) : ResourceManager :=
  { manager with
    usedCost := manager.usedCost - cost
    usedTokens := manager.usedTokens - tokens }

/-- `try_apply`: `none` when a ceiling would be passed. -/
def tryApply (cost tokens : Nat) : Option ResourceManager :=
  if manager.quota.maxDailyCost < saturatingAdd manager.usedCost cost ∨
      manager.quota.maxDailyTokens < saturatingAdd manager.usedTokens tokens
  then none
  else some (manager.addUsage cost tokens)

def tryReserve (graph : ExecutionGraph) : Option ResourceManager :=
  manager.tryApply graph.metadata.estimatedCost graph.metadata.estimatedTokens

def release (graph : ExecutionGraph) : ResourceManager :=
  manager.subtract graph.metadata.estimatedCost graph.metadata.estimatedTokens

def recordUsage (cost tokens : Nat) : ResourceManager :=
  manager.addUsage cost tokens

end ResourceManager

namespace ResourceReservationStep

def inputTokens (context : PipelineContext) : Nat :=
  match context.assembledContext with
  | none => 0
  | some snapshot =>
    (snapshot.messages.map (fun message => message.content.utf8ByteSize / 4)).sum

def llmNodeCount (graph : ExecutionGraph) : Nat :=
  max (graph.nodes.countP (fun node => node.kind.isLlm)) 1

def maxCost (quota : Quota) (graph : ExecutionGraph) : Nat :=
  min (quota.maxDailyCost / 5) (max (saturatingMul graph.metadata.estimatedCost 3) 10000)

def maxTokens (quota : Quota) (graph : ExecutionGraph) (context : PipelineContext) : Nat :=
  let requestMin := saturatingMul
    ((inputTokens context + context.request.maxTokens.getD 4096) % 2 ^ 64) (llmNodeCount graph)
  max (max (quota.maxDailyTokens / 5) requestMin) 10000

/-- Scheduling rounds: four times what the nodes need, and 64. -/
def maxIterations (graph : ExecutionGraph) (roundCapacity : Nat) : Nat :=
  let roundsNeeded := max ((graph.nodes.length + roundCapacity - 1) / roundCapacity) 1
  saturatingAdd (saturatingMul roundsNeeded 4) 64 % 2 ^ 32

/-- Book the estimate and bound the request. -/
def execute (manager : ResourceManager) (graph : ExecutionGraph)
    (context : PipelineContext) (roundCapacity : Nat) :
    Except RouterError (ResourceManager × BudgetEnvelope) :=
  match manager.tryReserve graph with
  | none => .error (.resourceExhausted context.requestId "Daily resource quota exhausted")
  | some reserved => .ok (reserved, .new (maxCost manager.quota graph)
        (maxTokens manager.quota graph context) (maxIterations graph roundCapacity))

end ResourceReservationStep

end FusionRouter
