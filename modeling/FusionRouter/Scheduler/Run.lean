import FusionRouter.Lib.Loop
import FusionRouter.Scheduler.WorkQueue
import FusionRouter.Types.Budget

/-!
# The scheduler loop

`DefaultScheduler::run_inner`, one pass of its loop at a time.  What a run is
given is `RunSetup`, what it changes is `RunState`.  The calls of
`execute_node` are numbered in the order in which they are made; an executor
answers each number, so a stateful, random or adversarial executor is one of
these functions.  The state also keeps the log of these calls.
-/

namespace FusionRouter

structure TokenPricing where
  inputNanosPerToken : Nat
  outputNanosPerToken : Nat

/-- $0.002 per 1k input tokens, $0.01 per 1k output tokens. -/
def TokenPricing.flatFallback : TokenPricing :=
  { inputNanosPerToken := 2000
    outputNanosPerToken := 10000 }

/-- The answer to the call of this number. -/
abbrev Executor :=
  Nat → ExecutionNode → NodeExecContext → NodeExecutionResult

/-- How the race of one call against the cancellation token ended. -/
inductive CallFate where
  /-- `execute_node` returned. -/
  | returns
  /-- The token was cancelled before the call was polled. -/
  | cancelledBefore
  /-- The token was cancelled while the call was running. -/
  | cancelledDuring
deriving Repr, DecidableEq

/-- What a run observes of a cancellation token: the check at the head of each
pass, and the race of each call. -/
structure CancelToken where
  isCancelled : Nat → Bool
  fate : Nat → CallFate

inductive Event where
  /-- `execute_node` was handed the node at this position. -/
  | called (index : Nat) (id : Uuid)
  /-- `execute_node` returned this result. -/
  | returned (id : Uuid) (result : NodeExecutionResult)

/-- `PlatformError::Scheduler`. -/
structure PlatformError where
  code : String
  message : String
  recoverySuggestion : String
deriving Repr, DecidableEq

structure ExecutionOutcome where
  success : Bool
  outputs : Table Uuid Json
  nodeStates : Table Uuid NodeState
  totalCost : Nat
  totalTokens : Nat

structure RunSetup where
  externals : Externals
  graph : ExecutionGraph
  maxConcurrent : Nat
  pricing : Option (String → TokenPricing)
  executor : Executor
  cancel : Option CancelToken

structure RunState where
  queue : WorkQueue
  nodeStates : Table Uuid NodeState
  outputs : Table Uuid Json
  totalCost : Nat
  totalTokens : Nat
  loopIterations : Uuid → Nat
  envelope : Option BudgetEnvelope
  passes : Nat
  calls : Nat
  log : List Event

/-- How a part of the loop body ended. -/
inductive Flow where
  /-- Go on. -/
  | next (state : RunState)
  /-- Leave the scheduling loop. -/
  | leave (state : RunState)
  /-- Return this outcome. -/
  | finish (outcome : ExecutionOutcome) (state : RunState)
  /-- Return this error. -/
  | abort (error : PlatformError) (state : RunState)

namespace ExecutionGraph

def nodeAt (graph : ExecutionGraph) (id : Uuid) : Option ExecutionNode :=
  (graph.nodeIndex id).bind (fun index => graph.nodes[index]?)

/-- The targets of a loop head that a new iteration re-arms. -/
def bodyIds (graph : ExecutionGraph) (loopId : Uuid) : List Uuid :=
  ((graph.outgoingEdges loopId).filter
    (fun edge => edge.condition ≠ some "exit")).map ExecutionEdge.target

def exitTargets (graph : ExecutionGraph) (loopId : Uuid) : List Uuid :=
  ((graph.outgoingEdges loopId).filter
    (fun edge => edge.condition = some "exit")).map ExecutionEdge.target

/-- The targets a conditional node with this output activates. -/
def matchedTargets (graph : ExecutionGraph) (id : Uuid) (output : Json) : List Uuid :=
  ((graph.outgoingEdges id).filter (fun edge =>
    match edge.condition with
    | some condition => condition = output.asStr.getD "true"
    | none => true)).map ExecutionEdge.target

end ExecutionGraph

/-- `max_iterations` as a `u32`; 10 when the key is missing or is not an
unsigned integer. -/
def ExecutionNode.maxIters (node : ExecutionNode) : Nat :=
  (((node.config "max_iterations").bind Json.asU64).getD 10) % 2 ^ 32

namespace RunSetup

def index (setup : RunSetup) : QueueIndex :=
  QueueIndex.new setup.graph setup.maxConcurrent

def priceFor (setup : RunSetup) (model : String) : TokenPricing :=
  match setup.pricing with
  | some resolve => resolve model
  | none => TokenPricing.flatFallback

def cancelledError : PlatformError :=
  { code := "CANCELLED"
    message := "Request cancelled by client"
    recoverySuggestion := "Retry the request with a fresh cancellation token" }

def desyncError (setup : RunSetup) (role : String) (id : Uuid) :
    PlatformError :=
  { code := "NODE_NOT_FOUND"
    message := "scheduler queue desync: " ++ role ++ " " ++
      setup.externals.uuidText id ++ " not in graph"
    recoverySuggestion := "Report this as a scheduler invariant violation" }

def initial (setup : RunSetup) (envelope : Option BudgetEnvelope) : RunState :=
  { queue := WorkQueue.new setup.index
    nodeStates := Table.empty
    outputs := Table.empty
    totalCost := 0
    totalTokens := 0
    loopIterations := fun _ => 0
    envelope := envelope
    passes := 0
    calls := 0
    log := [] }

end RunSetup

/-- A node handed to the executor, with its position and its context. -/
structure Call where
  number : Nat
  index : Nat
  node : ExecutionNode
  context : NodeExecContext

namespace RunState

/-- The outputs of the immediate predecessors that have one. -/
def parentOutputs (graph : ExecutionGraph) (state : RunState) (id : Uuid) : Table Uuid Json :=
  fun parent => if parent ∈ graph.incoming id then state.outputs parent
    else none

/-- The first half of a pass: mark every node of the batch as running and
build its call. -/
def dispatch (setup : RunSetup) :
    List Uuid → RunState → Except (PlatformError × RunState) (List Call × RunState)
  | [], state => .ok ([], state)
  | id :: rest, state =>
    let marked :=
      { state with
        queue := state.queue.markInProgress id
        nodeStates := state.nodeStates.insert id .running }
    match setup.graph.nodeIndex id with
    | none => .error (setup.desyncError "node" id, marked)
    | some index =>
      match setup.graph.nodes[index]? with
      | none => .error (setup.desyncError "node" id, marked)
      | some node =>
        let call : Call :=
          { number := state.calls
            index := index
            node := node
            context :=
              { parentOutputs := state.parentOutputs setup.graph id
                graphOutputs := state.outputs } }
        match dispatch setup rest { marked with calls := state.calls + 1 } with
        | .error failure => .error failure
        | .ok (calls, last) => .ok (call :: calls, last)

end RunState

namespace Call

section

variable (setup : RunSetup)

def fate (call : Call) : CallFate :=
  match setup.cancel with
  | none => .returns
  | some token => token.fate call.number

def result (call : Call) : Uuid × NodeExecutionResult :=
  match call.fate setup with
  | .returns =>
    (call.node.id, setup.executor call.number call.node call.context)
  | _ =>
    (call.node.id,
      { state := .failed "Cancelled by client"
        usage := none
        output := none })

def startEvents (call : Call) : List Event :=
  match call.fate setup with
  | .cancelledBefore => []
  | _ => [.called call.index call.node.id]

def endEvents (call : Call) : List Event :=
  match call.fate setup with
  | .returns => [.returned call.node.id (call.result setup).2]
  | _ => []

theorem result_fst (call : Call) : (call.result setup).1 = call.node.id := by
  unfold result
  split <;> rfl

end

variable {call : Call} {id : Uuid} {result : NodeExecutionResult}

theorem of_mem_startEvents (event : .called position id ∈ call.startEvents setup) :
    position = call.index ∧ id = call.node.id := by
  unfold startEvents at event
  split at event
  · simp at event
  · simpa using event

theorem id_of_mem_startEvents (event : .called position id ∈ call.startEvents setup) :
    call.node.id = id := (of_mem_startEvents event).2.symm

theorem not_called_mem_endEvents : .called position id ∉ call.endEvents setup := by
  unfold endEvents
  split <;> simp

theorem not_returned_mem_startEvents : .returned id result ∉ call.startEvents setup := by
  unfold startEvents
  split <;> simp

theorem of_mem_endEvents (event : .returned id result ∈ call.endEvents setup) :
    id = call.node.id ∧ result = setup.executor call.number call.node call.context := by
  unfold endEvents at event
  split at event
  next fate => simpa [Call.result, fate] using event
  · simp at event

end Call

namespace RunState

variable (setup : RunSetup)

/-- The price of one result, at the rates of the model of its node. -/
def nodeCost (id : Uuid) (usage : Usage) : Nat :=
  let model := ((setup.graph.nodeAt id).map ExecutionNode.model).getD ""
  let price := setup.priceFor model
  saturatingAdd (saturatingMul usage.promptTokens price.inputNanosPerToken)
    (saturatingMul usage.completionTokens price.outputNanosPerToken)

variable (state : RunState)

/-- Add the usage of a result to the totals of the run and to the envelope. -/
def charge (id : Uuid) (usage : Usage) : RunState × Option BudgetExceededError :=
  let cost := nodeCost setup id usage
  let charged :=
    { state with
      totalTokens := (state.totalTokens + usage.totalTokens) % 2 ^ 64
      totalCost := saturatingAdd state.totalCost cost }
  match state.envelope with
  | none => (charged, none)
  | some envelope =>
    let checked := envelope.recordAndCheck cost usage.totalTokens
    ({ charged with envelope := some checked.1 }, checked.2)

/-- The node states of a run that a breach ends: unprocessed members of the
batch are failed, nodes that never ran are skipped. -/
def breachStates (batchIds : List Uuid) (error : BudgetExceededError)
    (nodeStates : Table Uuid NodeState) : Table Uuid NodeState :=
  let failedBatch := batchIds.foldl (fun (states : Table Uuid NodeState) id =>
    if WorkQueue.settledIn states id then states
    else states.insert id (.failed ("Budget breached: " ++ error.text)))
    nodeStates
  setup.graph.nodes.foldl (fun (states : Table Uuid NodeState) node =>
    match states node.id with
    | none => states.insert node.id .skipped
    | some .pending => states.insert node.id .skipped
    | some .running => states.insert node.id .skipped
    | some _ => states) failedBatch

/-- The early return of a run whose envelope was breached by this result. -/
def breach (batchIds : List Uuid) (id : Uuid) (result : NodeExecutionResult)
    (error : BudgetExceededError) : Flow :=
  let outputs :=
    match result.state with
    | .succeeded => state.outputs.insert id (result.output.getD .null)
    | _ => state.outputs
  let nodeStates := breachStates setup batchIds error (state.nodeStates.insert id result.state)
  .finish
    { success := false
      outputs := outputs
      nodeStates := nodeStates
      totalCost := state.totalCost
      totalTokens := state.totalTokens }
    { state with
      outputs := outputs
      nodeStates := nodeStates }

def recordSuccess (id : Uuid) (output : Json) : RunState :=
  { state with
    nodeStates := state.nodeStates.insert id .succeeded
    outputs := state.outputs.insert id output }

def complete (id : Uuid) : RunState :=
  { state with queue := state.queue.markCompleted setup.index id }

/-- Set the body of a loop back to pending and reset its counters. -/
def rearmBody (loopId : Uuid) : RunState :=
  { state with
    nodeStates := (setup.graph.bodyIds loopId).foldl
      (fun (states : Table Uuid NodeState) id => states.insert id .pending) state.nodeStates
    queue := state.queue.resetLoopBody setup.index (setup.graph.bodyIds loopId) }

def activateAll (source : Uuid) (targets : List Uuid) : RunState :=
  { state with
    queue := targets.foldl (fun queue target => queue.activateEdge setup.index source target)
      state.queue }

def conditionalSucceeded (id : Uuid) (output : Json) : RunState :=
  activateAll setup { state with queue := state.queue.markConditionalCompleted id } id
    (setup.graph.matchedTargets id output)

/-- Re-arm the body edges of a loop head that decided to continue. -/
def continueLoop (id : Uuid) : RunState :=
  activateAll setup (rearmBody setup state id) id (setup.graph.bodyIds id)

def loopSucceeded (id : Uuid) (output : Json) : Flow :=
  let completed := state.complete setup id
  if output.asBool.getD false then
    match completed.envelope with
    | none => .next (continueLoop setup completed id)
    | some envelope =>
      match envelope.incrementIteration with
      | .error _ => .leave completed
      | .ok counted =>
        .next (continueLoop setup { completed with envelope := some counted } id)
  else
    .next (activateAll setup completed id (setup.graph.exitTargets id))

/-- A new iteration of the loop whose back-edge from `id` was completed. -/
def nextIteration (id loopId : Uuid) : RunState :=
  let counted :=
    { state with
      loopIterations := Function.update state.loopIterations loopId
        (state.loopIterations loopId + 1) }
  let rearmed := rearmBody setup counted loopId
  { rearmed with
    nodeStates := rearmed.nodeStates.insert loopId .pending
    queue := (rearmed.queue.resetReady loopId).activateEdge setup.index id loopId }

/-- A body node completed a back-edge into `loopId`: start a new iteration
unless the cap of the loop is used up. -/
def loopBack (id loopId : Uuid) : Flow :=
  match setup.graph.nodeAt loopId with
  | none => .abort (setup.desyncError "loop node" loopId) state
  | some loopNode =>
    if state.loopIterations loopId < loopNode.maxIters then
      .next (nextIteration setup state id loopId)
    else .next state

def plainSucceeded (id : Uuid) : Flow :=
  let completed := state.complete setup id
  if setup.index.hasLoopBackEdge id then
    match setup.index.loopBackTarget id with
    | none => .next completed
    | some loopId => loopBack setup completed id loopId
  else .next completed

def succeeded (id : Uuid) (result : NodeExecutionResult) : Flow :=
  let output := result.output.getD .null
  let recorded := state.recordSuccess id output
  match setup.graph.nodeIndex id with
  | none => .abort (setup.desyncError "node" id) recorded
  | some index =>
    match (setup.graph.nodes[index]?).map ExecutionNode.kind with
    | some .conditional => .next (conditionalSucceeded setup recorded id output)
    | some .loop => loopSucceeded setup recorded id output
    | _ => plainSucceeded setup recorded id

/-- The cascade of a failure over everything downstream that has not started.
The worklist holds ids, last in first out. -/
def cascade (graph : ExecutionGraph) :
    Nat → List Uuid → Finset Uuid → WorkQueue × Table Uuid NodeState →
      WorkQueue × Table Uuid NodeState
  | 0, _, _, acc => acc
  | _ + 1, [], _, acc => acc
  | fuel + 1, downstream :: stack, visited, (queue, nodeStates) =>
    if downstream ∈ visited then
      cascade graph fuel stack visited (queue, nodeStates)
    else
      match nodeStates downstream with
      | none | some .pending =>
        cascade graph fuel ((graph.outgoing downstream).reverse ++ stack)
          (insert downstream visited)
          (queue.markFailed downstream, nodeStates.insert downstream (.failed "dependency failed"))
      | some _ =>
        cascade graph fuel stack (insert downstream visited) (queue, nodeStates)

/-- Every popped id is an edge target, pushed at most twice: once by the failed
node and once by the node the edge leaves. -/
def cascadeFuel (graph : ExecutionGraph) : Nat :=
  2 * graph.edges.length + 1

def failed (id : Uuid) (message : String) : RunState :=
  let cascaded := cascade setup.graph (cascadeFuel setup.graph) (setup.graph.outgoing id).reverse ∅
    (state.queue.markFailed id, state.nodeStates.insert id (.failed message))
  { state with
    queue := cascaded.1
    nodeStates := cascaded.2 }

/-- The arm for results that are neither `Succeeded` nor `Failed`. -/
def otherState (id : Uuid) (nodeState : NodeState) : RunState :=
  { state.complete setup id with
    nodeStates := state.nodeStates.insert id nodeState }

/-- The effect of one result on the run, once its usage is charged. -/
def settle (id : Uuid) (result : NodeExecutionResult) : Flow :=
  match result.state with
  | .succeeded => succeeded setup state id result
  | .failed message => .next (failed setup state id message)
  | nodeState => .next (otherState setup state id nodeState)

def processResult (batchIds : List Uuid) (state : RunState) (id : Uuid)
    (result : NodeExecutionResult) : Flow :=
  match result.usage with
  | none => settle setup state id result
  | some usage =>
    match charge setup state id usage with
    | (charged, some error) => breach setup charged batchIds id result error
    | (charged, none) => settle setup charged id result

/-- The second half of a pass: fold the results of the batch in order. -/
def foldResults (batchIds : List Uuid) : List (Uuid × NodeExecutionResult) → RunState → Flow
  | [], state => .next state
  | (id, result) :: rest, state =>
    match processResult setup batchIds state id result with
    | .next following => foldResults batchIds rest following
    | flow => flow

/-- The calls of a batch start, and all of them have ended when the results
are folded. -/
def runCalls (calls : List Call) (state : RunState) : RunState :=
  { state with
    log := state.log ++ calls.flatMap (Call.startEvents setup) ++
      calls.flatMap (Call.endEvents setup) }

def runBatch (batchIds : List Uuid) : Flow :=
  match dispatch setup batchIds state with
  | .error (error, marked) => .abort error marked
  | .ok (calls, dispatched) =>
    foldResults setup batchIds (calls.map (Call.result setup)) (runCalls setup calls dispatched)

def cancelled : Bool :=
  match setup.cancel with
  | none => false
  | some token => token.isCancelled state.passes

def pass : Flow :=
  let entered := { state with passes := state.passes + 1 }
  if state.cancelled setup then .abort RunSetup.cancelledError entered
  else if state.queue.isDone setup.index state.nodeStates then .leave entered
  else
    match state.queue.getReady setup.index state.nodeStates with
    | [] => if state.queue.anyInProgress then .next entered else .leave entered
    | ready => runBatch setup entered (ready.take setup.maxConcurrent)

def outcome : ExecutionOutcome :=
  { success := setup.graph.nodes.all (fun node =>
      match state.nodeStates node.id with
      | some .succeeded => true
      | some .skipped => true
      | _ => false)
    outputs := state.outputs
    nodeStates := state.nodeStates
    totalCost := state.totalCost
    totalTokens := state.totalTokens }

end RunState

/-- What a finished run returned, with the state it left behind. -/
abbrev RunResult := Except PlatformError ExecutionOutcome × RunState

/-- The body of the scheduling loop. -/
def schedLoop (setup : RunSetup) (state : RunState) : Loop.Control RunState RunResult :=
  match state.pass setup with
  | .next following => .again following
  | .leave last => .stop (.ok (last.outcome setup), last)
  | .finish outcome last => .stop (.ok outcome, last)
  | .abort error last => .stop (.error error, last)

/-- `run_inner` for at most `fuel` passes of its loop. -/
def runInner (setup : RunSetup) (envelope : Option BudgetEnvelope)
    (fuel : Nat) : Option RunResult :=
  Loop.run (schedLoop setup) fuel (setup.initial envelope)

end FusionRouter
