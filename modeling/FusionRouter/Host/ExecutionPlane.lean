import FusionRouter.Compiler.Pipeline
import FusionRouter.Host.PolicyRegistry
import FusionRouter.Host.Scheduler
import FusionRouter.Runtime.Provider

/-!
# The execution plane

`POST /v1/executions`: a submitted workflow is compiled under the policies in
force, run by the scheduler, and reported on the event bus.  The events of the
nodes are written after the run, in an order computed from the graph.
-/

namespace FusionRouter

inductive ExecutionEvent where
  | workflowStarted (intent : String) (inputTokens : Nat)
  | workflowCompleted (totalDurationMs totalCost : Nat)
  | workflowFailed (error : String) (failedNodeId : Option String)
  | workflowCompiled (nodeCount edgeCount : Nat)
  | nodeScheduled (nodeId nodeKind : String) (dependencies : List String)
  | nodeStarted (nodeId : String) (targetModel : Option String)
  | nodeFinished (nodeId : String) (durationMs promptTokens completionTokens : Nat)
  | nodeFailed (nodeId error : String) (attempt : Nat)
deriving Repr, DecidableEq

structure ExecutionEventEnvelope where
  workflowId : String
  executionId : String
  sequenceNumber : Nat
  payload : ExecutionEvent
deriving Repr, DecidableEq

inductive ExecutionErrorKind where
  | validation
  | policy
  | compilation
  | scheduling
  | upstream
  | internal
deriving Repr, DecidableEq

structure ExecutionError where
  kind : ExecutionErrorKind
  detail : String
deriving Repr, DecidableEq

/-- A malformed workflow is the caller's problem, anything else the server's. -/
def ExecutionError.ofCompiler : CompilerError → ExecutionError
  | .validation name _ message =>
    { kind := .validation
      detail := "workflow validation failed in pass '" ++ name ++ "': " ++ message }
  | error =>
    { kind := .compilation
      detail := "compilation failed: " ++ error.text }

/-- `Debug` of the state of a node, if it has one. -/
def NodeState.debugText (externals : Externals) : Option NodeState → String
  | none => "None"
  | some .pending => "Some(Pending)"
  | some .running => "Some(Running)"
  | some .succeeded => "Some(Succeeded)"
  | some (.failed message) =>
    "Some(Failed(" ++ externals.debugText message ++ "))"
  | some .skipped => "Some(Skipped)"

namespace TopologicalOrder

variable (graph : ExecutionGraph)

/-- The edges between nodes of the graph, as positions in its node list. -/
def links : List (Nat × Nat) :=
  graph.edges.filterMap (fun edge =>
    match graph.nodeIndex edge.source, graph.nodeIndex edge.target with
    | some source, some target => some (source, target)
    | _, _ => none)

def inDegrees : List Nat :=
  (List.range graph.nodes.length).map (fun position =>
    ((links graph).filter (fun link => link.2 = position)).length)

def adjacency (position : Nat) : List Nat :=
  ((links graph).filter (fun link => link.1 = position)).map Prod.snd

/-- One edge out of a popped node: count it off, and push its end when it was
the last one. -/
def countOff (state : List Nat × List Nat) (next : Nat) : List Nat × List Nat :=
  let degrees := state.1.set next (state.1.getD next 0 - 1)
  (degrees, if degrees.getD next 0 = 0 then next :: state.2 else state.2)

/-- The loop over the stack of ready positions, its top first. -/
def drain : Nat → List Nat → List Nat → List Nat
  | 0, _, _ => []
  | _ + 1, _, [] => []
  | fuel + 1, degrees, node :: ready =>
    let state := (adjacency graph node).foldl countOff (degrees, ready)
    node :: drain fuel state.1 state.2

/-- Each position is pushed at most once, so the loop pops at most as many as
there are nodes. -/
def sorted : List Nat :=
  drain graph graph.nodes.length (inDegrees graph)
    ((List.range graph.nodes.length).filter
      (fun position => (inDegrees graph).getD position 0 = 0)).reverse

end TopologicalOrder

/-- The order of the node events; on a cycle it falls back to the node list. -/
def topologicalOrder (graph : ExecutionGraph) : List Nat :=
  if (TopologicalOrder.sorted graph).length = graph.nodes.length then
    TopologicalOrder.sorted graph
  else List.range graph.nodes.length

def ExecutionGraph.orderedNodes (graph : ExecutionGraph) : List ExecutionNode :=
  (topologicalOrder graph).filterMap (fun position => graph.nodes[position]?)

structure ExecuteWorkflowRequest where
  triggerName : String
  intent : String
  workflow : WorkflowIR

/-- The JSON object that a completed execution returns. -/
structure ExecutionResponse where
  executionId : String
  sessionId : String
  workflowId : String
  status : String
  eventsEmitted : Nat
  nodeOutputs : Table String Json

structure ExecutionPlane where
  externals : Externals
  readDeclaration : DeclarationReader
  compilerFactory : Option PolicyIR → WorkflowIR → Except CompilerError ExecutionGraph
  policyRegistry : PolicyRegistry
  scheduler : HostScheduler
  executor : Executor
  /-- `LifecycleManager::create_session`: the id of the new session. -/
  createSession : String → Uuid → Except String Uuid

/-- What the outside adds to an execution: fresh ids, the elapsed time and the
order in which the calls of a batch complete. -/
structure ExecutionContext where
  executionId : Uuid
  instanceId : Uuid
  reservationId : Uuid
  elapsedMs : Nat
  timing : Timing

/-- A program that numbers the events it puts on the bus. -/
abbrev Emission (α : Type) := Trace.Program Nat ExecutionEventEnvelope α

namespace ExecutionPlane

/-- Number the event and publish it.  A bus without subscribers loses it, which
is only logged. -/
def emit (workflowId executionId : String) (event : ExecutionEvent) : Emission Unit :=
  Trace.emitNumbered (fun number =>
    { workflowId := workflowId
      executionId := executionId
      sequenceNumber := number
      payload := event })

/-- The failed node that is reported: the first one in the order. -/
def failedNode (externals : Externals) (graph : ExecutionGraph)
    (finished : ExecutionInstance) : String × String :=
  (graph.orderedNodes.findSome? (fun node =>
    match finished.nodeStates node.id with
    | some (.failed message) => some (externals.uuidText node.id, message)
    | _ => none)).getD ("unknown", "execution failed without a failed node")

/-- The exit of a run without success. -/
def reportFailure (externals : Externals) (workflowId executionId : String)
    (graph : ExecutionGraph) (finished : ExecutionInstance) :
    Emission ExecutionError := do
  let failed := failedNode externals graph finished
  emit workflowId executionId (.nodeFailed failed.1 failed.2 0)
  emit workflowId executionId (.workflowFailed failed.2 (some failed.1))
  pure
    { kind := .upstream
      detail := "node " ++ failed.1 ++ " failed: " ++ failed.2 }

/-- The events of the nodes after a run with success, and their outputs. -/
def replay (externals : Externals) (workflowId executionId : String)
    (graph : ExecutionGraph) (finished : ExecutionInstance) :
    List ExecutionNode → Table String Json → Emission (Except ExecutionError (Table String Json))
  | [], outputs => pure (.ok outputs)
  | node :: rest, outputs => do
      let nodeId := externals.uuidText node.id
      emit workflowId executionId (.nodeScheduled nodeId node.kind.debugName
        ((graph.edges.filter (fun edge => edge.target = node.id)).map
          (fun edge => externals.uuidText edge.source)))
      emit workflowId executionId (.nodeStarted nodeId
        (if node.model = "" then none else some node.model))
      match finished.nodeStates node.id with
      | some .succeeded => do
          emit workflowId executionId (.nodeFinished nodeId 0 0 0)
          replay externals workflowId executionId graph finished rest
            (outputs.insert nodeId ((finished.outputs node.id).getD (.object [])))
      | other => do
          let error := "node " ++ nodeId ++ " ended in unexpected state " ++
            NodeState.debugText externals other
          emit workflowId executionId (.workflowFailed error (some nodeId))
          pure (.error { kind := .upstream, detail := error })

/-- The part behind the scheduler's run. -/
def report (externals : Externals) (context : ExecutionContext)
    (workflowId executionId sessionId : String) (graph : ExecutionGraph)
    (result : ExecutionResult) (finished : ExecutionInstance) :
    Emission (Except ExecutionError ExecutionResponse) :=
  if result.success then do
    match ← replay externals workflowId executionId graph finished
        graph.orderedNodes Table.empty with
    | .error error => pure (.error error)
    | .ok outputs => do
        emit workflowId executionId (.workflowCompleted context.elapsedMs result.totalCost)
        let emitted ← Trace.read
        pure (.ok
          { executionId := executionId
            sessionId := sessionId
            workflowId := workflowId
            status := "completed"
            eventsEmitted := emitted
            nodeOutputs := outputs })
  else do
    let error ← reportFailure externals workflowId executionId graph finished
    pure (.error error)

/-- `execute_typed_with_cancellation` for at most `fuel` passes of the
scheduler's loop; without a result the run is still going on. -/
def executeTypedWithCancellation (plane : ExecutionPlane)
    (request : ExecuteWorkflowRequest) (cancellation : CancelToken)
    (context : ExecutionContext) (fuel : Nat) :
    Emission (Option (Except ExecutionError ExecutionResponse)) :=
  let executionId := plane.externals.uuidText context.executionId
  let workflowId := plane.externals.uuidText request.workflow.planId
  match plane.createSession request.triggerName request.workflow.planId with
  | .error error =>
    pure (some (.error
      { kind := .internal
        detail := "session creation failed: " ++ error }))
  | .ok session => do
      emit workflowId executionId (.workflowStarted request.intent 0)
      match plane.policyRegistry.policyIr plane.readDeclaration with
      | .error error =>
        pure (some (.error
          { kind := .policy
            detail := "policy configuration rejected: " ++ error }))
      | .ok policy =>
        match plane.compilerFactory policy request.workflow with
        | .error error => pure (some (.error (.ofCompiler error)))
        | .ok graph => do
            emit workflowId executionId (.workflowCompiled graph.nodes.length graph.edges.length)
            match plane.scheduler.runCrates
                (HostScheduler.schedule context.instanceId graph context.reservationId)
                plane.executor (some cancellation) context.timing fuel with
            | none => pure none
            | some (.error error, _) =>
              pure (some (.error
                { kind := .scheduling
                  detail := "scheduling failed: " ++ error.text }))
            | some (.ok result, finished) => do
                let returned ← report plane.externals context workflowId
                  executionId (plane.externals.uuidText session) graph result finished
                pure (some returned)

def execution (plane : ExecutionPlane) (request : ExecuteWorkflowRequest)
    (cancellation : CancelToken) (context : ExecutionContext) (fuel : Nat) :
    Option (Except ExecutionError ExecutionResponse) × List ExecutionEventEnvelope :=
  Trace.run (plane.executeTypedWithCancellation request cancellation context fuel) 0

end ExecutionPlane

/-- `build_execution_plane_with_optimization`: the mandatory passes under the
policy of each execution, and sessions that are kept in memory. -/
def buildExecutionPlane (options : CompilerOptions) (read : DeclarationReader)
    (registry : PolicyRegistry) (executor : Executor) (sessionId : Uuid)
    (maxConcurrentNodes : Nat) : ExecutionPlane :=
  { externals := options.externals
    readDeclaration := read
    compilerFactory := fun policy => compile { options with policy := policy }
    policyRegistry := registry
    scheduler :=
      { externals := options.externals
        maxConcurrent := max maxConcurrentNodes 1
        pricing := none }
    executor := executor
    createSession := fun _ _ => .ok sessionId }

end FusionRouter
