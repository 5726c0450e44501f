import FusionRouter.Compiler.Pipeline
import FusionRouter.Host.ContextAssembler
import FusionRouter.Host.Scheduler

/-!
# The steps of the chat pipeline

The steps between a chat request and its response, as far as they decide what
the provider is asked and what the client is told.
-/

namespace FusionRouter

inductive PipelineStage where
  | contextAssembly
  | requirementsExtraction
  | evidenceSnapshot
  | planning
  | compilation
  | resourceReservation
  | scheduling
  | execution
  | telemetryRecording
  | responseBuilding
deriving Repr, DecidableEq

/-- The errors that the steps below return. -/
inductive RouterError where
  | stageFailure (stage : PipelineStage) (requestId : Uuid) (message : String)
  | resourceExhausted (requestId : Uuid) (details : String)
  | policyDenied (requestId : Uuid) (ruleId : String)
deriving Repr, DecidableEq

structure ChatCompletionResponse where
  id : String
  model : String
  content : String
  finishReason : String
  totalTokens : Nat
deriving Repr, DecidableEq

/-- What the steps hand on, as far as the steps below read it. -/
structure PipelineContext where
  requestId : Uuid
  request : ChatCompletionRequest
  assembledContext : Option ContextSnapshot
  permittedClientTools : Option (List String)

def PipelineContext.new (requestId : Uuid) (request : ChatCompletionRequest) :
    PipelineContext :=
  { requestId := requestId
    request := request
    assembledContext := none
    permittedClientTools := none }

/-- The default assembler never fails. -/
def ContextAssemblyStep.execute (assembler : DefaultContextAssembler)
    (context : PipelineContext) : PipelineContext :=
  { context with
    assembledContext := some (assembler.assemble context.request) }

def ExecutionNodeKind.isLlm : ExecutionNodeKind → Bool
  | .llmGenerate => true
  | .llmReview => true
  | .llmJudge => true
  | _ => false

/-- `Serialize` of a message; the keys of an object are sorted. -/
def ChatMessage.json (message : ChatMessage) : Json :=
  .object [("content", .string message.content), ("role", .string message.role)]

namespace CompilationStep

/-- The text in front of the first occurrence of `segment`. -/
def beforeFirst (segment : List Char) : List Char → List Char
  | [] => []
  | head :: tail =>
    if segment.isPrefixOf (head :: tail) then []
    else head :: beforeFirst segment tail

/-- The id between the quotes of the policy pass's message. -/
def deniedRule (message : String) : String :=
  let marker := "Policy rule '".toList
  let quote := "'".toList
  match PolicyPrecedence.afterFirst marker message.toList with
  | none => "policy"
  | some rest => String.ofList (beforeFirst quote (beforeFirst marker rest))

def failure (requestId : Uuid) (error : CompilerError) : RouterError :=
  match error with
  | .validation name _ message =>
    if name = "policy" then .policyDenied requestId (deniedRule message)
    else if name = "budget_optimisation" then
      .resourceExhausted requestId error.text
    else .stageFailure .compilation requestId error.text
  | .pass _ _ => .stageFailure .compilation requestId error.text

/-- Write an entry into the config of a node and of its sub-nodes that ask a
model. -/
def withConfig (key : String) (value : Json) (node : ExecutionNode) :
    ExecutionNode :=
  { node with
    config := node.config.insert key value
    subgraph := node.subgraph.map (fun subgraph =>
      { subgraph with
        nodes := subgraph.nodes.map (fun sub =>
          if sub.kind.isLlm then
            { sub with config := sub.config.insert key value }
          else sub) }) }

variable (context : PipelineContext)

def fillModel (node : ExecutionNode) : ExecutionNode :=
  if node.model = "" then { node with model := context.request.model }
  else node

/-- The assembled messages reach every node that asks a model. -/
def fillMessages (node : ExecutionNode) : ExecutionNode :=
  match context.assembledContext with
  | none => node
  | some snapshot =>
    withConfig "messages" (.array (snapshot.messages.map ChatMessage.json)) node

def permitted (tool : ToolDefinition) : Bool :=
  match context.permittedClientTools with
  | some names => decide (tool.name ∈ names)
  | none => true

/-- The declared tools that the operator permits become the allowlist. -/
def fillTools (node : ExecutionNode) : ExecutionNode :=
  match context.request.tools with
  | none => node
  | some tools =>
    if tools = [] then node
    else
      withConfig "tool_allowlist"
        (.array ((tools.filter (permitted context)).map (fun tool => .string tool.name))) node

def prepareNode (node : ExecutionNode) : ExecutionNode :=
  if node.kind.isLlm then
    fillTools context (fillMessages context (fillModel context node))
  else fillModel context node

def execute (compiler : WorkflowIR → Except CompilerError ExecutionGraph)
    (ir : WorkflowIR) (context : PipelineContext) : Except RouterError ExecutionGraph :=
  match compiler ir with
  | .error error => .error (failure context.requestId error)
  | .ok graph =>
    .ok { graph with nodes := graph.nodes.map (prepareNode context) }

end CompilationStep

namespace ResponseBuilderStep

/-- The text of a value that is not one itself. -/
def structuredText (externals : Externals) : Json → Option String
  | .object fields => some (externals.jsonText (.object fields))
  | .array items => some (externals.jsonText (.array items))
  | _ => none

/-- The last value of the outputs, in the order in which they are walked. -/
def lastValue (runtime : RuntimeExternals) (outputs : Table Uuid Json) : Option Json :=
  (runtime.entries outputs).getLast?.map Prod.snd

def content (runtime : RuntimeExternals) (result : ExecutionResult) : String :=
  ((((result.finalOutput.bind Json.asStr).or (result.terminalNodeId.bind (fun id =>
      (result.outputs id).bind Json.asStr))).or
    ((lastValue runtime result.outputs).bind Json.asStr)).or
    ((lastValue runtime result.outputs).bind (structuredText runtime.externals))).getD
    "Request processed successfully."

def execute (runtime : RuntimeExternals) (requestId : Uuid) (model : String)
    (result : ExecutionResult) : Except RouterError ChatCompletionResponse :=
  if result.success then
    .ok
      { id := runtime.externals.uuidText requestId
        model := model
        content := content runtime result
        finishReason := "stop"
        totalTokens := min result.totalTokens (2 ^ 32 - 1) }
  else
    .error (.stageFailure .responseBuilding requestId "Execution completed with failures")

end ResponseBuilderStep

end FusionRouter
