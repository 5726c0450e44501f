import FusionRouter.Lib.Trace
import FusionRouter.Runtime.Chat
import FusionRouter.Scheduler.Run

/-!
# The provider-backed executor

`ProviderExecutor::execute_node`, with the tool loop of `roundtrip`, retries,
the fallback model and the recursion into prebuilt subgraphs.  What the
outside answers is an `Environment`; what the executor does to the outside is
recorded as an `Effect`.
-/

namespace FusionRouter

/-- What an execution does to the outside. -/
inductive Effect where
  /-- `chat_completion` was called for this node. -/
  | chat (node : Uuid) (request : ChatRequest)
  /-- `execute` of the tool with this name was called for this node. -/
  | tool (node : Uuid) (name : String) (arguments : Json)
  /-- The approval store was asked about this gate. -/
  | gate (node : Uuid) (approved : Bool)
  /-- The subgraph of this node was entered. -/
  | subgraph (node : Uuid)
  /-- Usage was recorded with the resource manager. -/
  | recorded (cost tokens : Nat)

/-- How often the outside was asked. -/
structure Counters where
  chats : Nat
  tools : Nat
  gates : Nat
  checks : Nat

/-- The answers of the outside, by the number of the question. -/
structure Environment where
  reply : Nat → ChatRequest → Except String ChatResponse
  outcome : Nat → String → Json → Except String Json
  approves : Nat → Uuid → Bool
  affords : Nat → Bool

/-- The executor with the names its tools are registered under. -/
structure ProviderExecutor where
  tools : Finset String
  allowAutoExec : Bool
  resourceManager : Bool
  pricing : Option (String → TokenPricing)
  approvals : Bool

/-- A sample: the provider answers without tools, and nothing is approved. -/
def Environment.sample : Environment :=
  { reply := fun _ _ => .ok ⟨"done", none, [], []⟩
    outcome := fun _ _ _ => .ok .null
    approves := fun _ _ => false
    affords := fun _ => true }

def ProviderExecutor.sample : ProviderExecutor :=
  ⟨∅, false, false, none, false⟩

abbrev Action (α : Type) := Trace.Program Counters Effect α

/-- What executes a node, given its context. -/
abbrev Runner := NodeExecContext → Action NodeExecutionResult

/-- `Debug` of the kind. -/
def ExecutionNodeKind.debugName : ExecutionNodeKind → String
  | .llmGenerate => "LLMGenerate"
  | .llmReview => "LLMReview"
  | .llmJudge => "LLMJudge"
  | .transform => "Transform"
  | .gate => "Gate"
  | .conditional => "Conditional"
  | .loop => "Loop"
  | .split => "Split"
  | .join => "Join"
  | .barrier => "Barrier"

/-- The string entries of `tool_allowlist`. -/
def ExecutionNode.toolAllowlist (node : ExecutionNode) : List String :=
  match (node.config "tool_allowlist").bind Json.asArray with
  | some items => items.filterMap Json.asStr
  | none => []

/-- `max_tool_iterations`, 8 when missing, clamped. -/
def ExecutionNode.maxToolIterations (node : ExecutionNode) : Nat :=
  min (max (((node.config "max_tool_iterations").bind Json.asU64).getD 8) 1) 32

def NodeExecutionResult.failure (message : String) : NodeExecutionResult :=
  { state := .failed message
    usage := none
    output := none }

namespace ProviderExecutor

variable (runtime : RuntimeExternals) (environment : Environment)
  (executor : ProviderExecutor)

def priceFor (model : String) : TokenPricing :=
  match executor.pricing with
  | some resolve => resolve model
  | none => TokenPricing.flatFallback

section

variable (node : ExecutionNode)

def chatCompletion (request : ChatRequest) : Action (Except String ChatResponse) := do
  Trace.emit (.chat node.id request)
  Trace.update (fun counters =>
    (environment.reply counters.chats request, { counters with chats := counters.chats + 1 }))

def executeTool (name : String) (arguments : Json) : Action (Except String Json) := do
  Trace.emit (.tool node.id name arguments)
  Trace.update (fun counters =>
    (environment.outcome counters.tools name arguments,
      { counters with tools := counters.tools + 1 }))

def isApproved : Action Bool := do
  let approved ← Trace.update (fun counters =>
    (environment.approves counters.gates node.id, { counters with gates := counters.gates + 1 }))
  Trace.emit (.gate node.id approved)
  pure approved

/-- The answer of `can_afford`; without a resource manager nobody asks. -/
def canAfford : Action Bool :=
  if executor.resourceManager then
    Trace.update (fun counters => (environment.affords counters.checks,
        { counters with checks := counters.checks + 1 }))
  else pure true

def recordUsage (model : String) (usage : Option Usage) : Action Unit :=
  match usage with
  | none => pure ()
  | some usage =>
    if executor.resourceManager then
      let price := executor.priceFor model
      Trace.emit (.recorded (saturatingAdd
          (saturatingMul usage.promptTokens price.inputNanosPerToken)
          (saturatingMul usage.completionTokens price.outputNanosPerToken)) usage.totalTokens)
    else pure ()

def refusedEntry (call : ToolCall) (reason : String) : Json :=
  .object [("arguments", call.arguments), ("error", .bool true),
    ("executed", .bool false), ("name", .string call.name), ("reason", .string reason)]

def executedEntry (call : ToolCall) (outcome : Except String Json) : Json :=
  match outcome with
  | .ok result =>
    .object [("arguments", call.arguments), ("error", .bool false),
      ("executed", .bool true), ("name", .string call.name), ("result", result)]
  | .error error =>
    .object [("arguments", call.arguments), ("error", .bool true),
      ("executed", .bool false), ("name", .string call.name),
      ("result", .object [("error", .string error)])]

/-- One tool call of a reply: refused unless allowlisted and registered. -/
def runTool (call : ToolCall) : Action Json :=
  if call.name ∉ node.toolAllowlist then
    pure (refusedEntry call ("tool '" ++ call.name ++
      "' not allowed for node " ++ runtime.externals.uuidText node.id ++
      " (fail closed: allowlist)"))
  else if call.name ∉ executor.tools then
    pure (refusedEntry call ("tool '" ++ call.name ++
      "' not registered (node " ++ runtime.externals.uuidText node.id ++ ")"))
  else do
    let outcome ← executeTool environment node call.name call.arguments
    pure (executedEntry call outcome)

def runTools : List ToolCall → Action (List Json)
  | [] => pure []
  | call :: calls => do
      let entry ← runTool runtime environment executor node call
      let entries ← runTools calls
      pure (entry :: entries)

def unaffordable : String :=
  "budget exceeded for node " ++ runtime.externals.uuidText node.id ++
  ": cannot afford estimated cost " ++ runtime.costText
    ((node.config "budget_estimated_cost").bind Json.asNumber) ++
  " / tokens " ++ toString (((node.config "budget_estimated_tokens").bind Json.asU64).getD 0)

/-- The head of an iteration of `roundtrip`: ask the provider, unless the
budget is used up, and return its answer when it requests no tool. -/
def askProvider (request : ChatRequest) (toolResults : List Json)
    (requested : ChatResponse → Action (Except String ChatResponse)) :
    Action (Except String ChatResponse) := do
  if ← canAfford environment executor then
    match ← chatCompletion environment node request with
    | .error error => pure (.error error)
    | .ok response => do
        recordUsage executor request.model response.usage
        if response.toolCalls.isEmpty then
          pure (.ok { response with toolResults := toolResults })
        else requested response
  else pure (.error (unaffordable runtime node))

/-- The loop of `roundtrip` with this many iterations left after this one. -/
def toolLoop : Nat → ChatRequest → List Json → Action (Except String ChatResponse)
  | 0, request, toolResults =>
    askProvider runtime environment executor node request toolResults
      (fun _ => pure (.error ("exceeded max_tool_iterations (" ++
        toString node.maxToolIterations ++ ") for node " ++ runtime.externals.uuidText node.id)))
  | remaining + 1, request, toolResults =>
    askProvider runtime environment executor node request toolResults
      (fun response =>
        if executor.allowAutoExec then do
          let entries ← runTools runtime environment executor node response.toolCalls
          let told : ChatMessage :=
            { role := "tool"
              content := runtime.externals.jsonText (.array entries) }
          toolLoop remaining { request with messages := request.messages ++ [told] }
            (toolResults ++ entries)
        else
          pure (.error ("provider requested tool call(s) but auto-exec is " ++
            "disabled (node " ++ runtime.externals.uuidText node.id ++ ")")))

def roundtrip (request : ChatRequest) : Action (Except String ChatResponse) :=
  toolLoop runtime environment executor node node.maxToolIterations request []

/-- The result of a successful round-trip on the model of the node. -/
def answered (response : ChatResponse) : NodeExecutionResult :=
  let fields := [("content", Json.string response.content),
    ("node_id", .string (runtime.externals.uuidText node.id))]
  { state := .succeeded
    usage := response.usage
    output := some (.object (if response.toolResults.isEmpty then fields
      else fields ++ [("tool_calls", .array response.toolResults)])) }

/-- The result of a successful round-trip on the fallback model. -/
def answeredByFallback (fallback : FallbackConfig) (response : ChatResponse) :
    NodeExecutionResult :=
  { state := .succeeded
    usage := response.usage
    output := some (.object [("content", .string response.content),
      ("fallback_model", .string fallback.model),
      ("node_id", .string (runtime.externals.uuidText node.id))]) }

def tryFallback (ctx : NodeExecContext) (lastError : Option String) : Action NodeExecutionResult :=
  let exhausted := fun (error : Option String) =>
    NodeExecutionResult.failure (error.getD "provider error")
  match node.fallback with
  | none => pure (exhausted lastError)
  | some fallback =>
    match buildRequest runtime node ctx with
    | .error error => pure (.failure error)
    | .ok request => do
        match ← roundtrip runtime environment executor node
            { request with model := fallback.model } with
        | .ok response => pure (answeredByFallback runtime node fallback response)
        | .error error => pure (exhausted (some error))

def attempt (ctx : NodeExecContext) : Nat → Option String → Action NodeExecutionResult
  | 0, lastError =>
    tryFallback runtime environment executor node ctx lastError
  | attempts + 1, _ =>
    match buildRequest runtime node ctx with
    | .error error => pure (.failure error)
    | .ok request => do
        match ← roundtrip runtime environment executor node request with
        | .ok response => pure (answered runtime node response)
        | .error error => attempt ctx attempts (some error)

/-- Without a store no gate is approved. -/
def gateApproved : Action Bool :=
  if executor.approvals then isApproved environment node else pure false

/-- A gate passes only if the approval store says so. -/
def executeGate : Action NodeExecutionResult := do
  if ← gateApproved environment executor node then
    pure
      { state := .succeeded
        usage := none
        output := some (.object [("approved", .bool true), ("kind", .string "Gate"),
          ("node_id", .string (runtime.externals.uuidText node.id))]) }
  else
    pure (.failure "policy approval required: gate not approved (fail closed)")

/-- Control-flow and transform nodes make no call. -/
def passThrough : NodeExecutionResult :=
  { state := .succeeded
    usage := none
    output := some (.object [("kind", .string node.kind.debugName),
      ("node_id", .string (runtime.externals.uuidText node.id))]) }

/-- The part of `execute_node` for nodes without a subgraph. -/
def executeLeaf (ctx : NodeExecContext) : Action NodeExecutionResult :=
  match node.kind with
  | .gate => executeGate runtime environment executor node
  | .transform | .conditional | .loop | .split | .join | .barrier =>
    pure (passThrough runtime node)
  | .llmGenerate | .llmReview | .llmJudge =>
    attempt runtime environment executor node ctx
      (min (node.retryPolicy.maxRetries + 1) (2 ^ 32 - 1)) none

end

/-- What `execute_subgraph` keeps between its rounds. -/
structure SubgraphState where
  outputs : Table Uuid Json
  completed : Finset Uuid
  promptTokens : Nat
  completionTokens : Nat

namespace SubgraphState

def initial : SubgraphState :=
  { outputs := Table.empty
    completed := ∅
    promptTokens := 0
    completionTokens := 0 }

/-- Outer parents and the inner outputs on edges into the sub-node. -/
def context (subgraph : ExecutionSubgraph) (ctx : NodeExecContext)
    (state : SubgraphState) (id : Uuid) : NodeExecContext :=
  { parentOutputs := fun source =>
      if subgraph.edges.any (fun edge => edge.source = source ∧ edge.target = id) then
        (state.outputs source).or (ctx.parentOutputs source)
      else ctx.parentOutputs source
    graphOutputs := state.outputs }

def isReady (subgraph : ExecutionSubgraph) (state : SubgraphState) (id : Uuid) : Bool :=
  decide (id ∉ state.completed) && (subgraph.edges.filter (fun edge => edge.target = id)).all
      (fun edge => decide (edge.source ∈ state.completed))

def succeed (state : SubgraphState) (id : Uuid) (result : NodeExecutionResult) : SubgraphState :=
  { outputs :=
      match result.output with
      | some output => state.outputs.insert id output
      | none => state.outputs
    completed := insert id state.completed
    promptTokens := state.promptTokens + ((result.usage.map Usage.promptTokens).getD 0)
    completionTokens := state.completionTokens +
      ((result.usage.map Usage.completionTokens).getD 0) }

end SubgraphState

/-- One round over the sub-nodes that were ready at its start. -/
def runReady (subgraph : ExecutionSubgraph) (ctx : NodeExecContext) :
    List (Uuid × Runner) → SubgraphState → Action (Except NodeExecutionResult SubgraphState)
  | [], state => pure (.ok state)
  | (id, runner) :: rest, state => do
      let result ← runner (state.context subgraph ctx id)
      match result.state with
      | .succeeded => runReady subgraph ctx rest (state.succeed id result)
      | .failed message =>
        pure (.error (.failure ("subgraph node " ++
          runtime.externals.uuidText id ++ " failed: " ++ message)))
      | _ =>
        runReady subgraph ctx rest { state with completed := insert id state.completed }

/-- The rounds of `execute_subgraph`; each completes a node. -/
def subgraphRounds (subgraph : ExecutionSubgraph) (ctx : NodeExecContext)
    (members : List (Uuid × Runner)) :
    Nat → SubgraphState → Action (Except NodeExecutionResult SubgraphState)
  | 0, state => pure (.ok state)
  | fuel + 1, state =>
    if members.length ≤ state.completed.card then pure (.ok state)
    else
      match members.filter (fun member => state.isReady subgraph member.1) with
      | [] => pure (.error (.failure "subgraph cycle or dangling edge"))
      | ready => do
          match ← runReady runtime subgraph ctx ready state with
          | .error failed => pure (.error failed)
          | .ok following =>
            subgraphRounds subgraph ctx members fuel following

/-- `execute_subgraph`, with what executes each of its nodes. -/
def executeSubgraph (node : ExecutionNode) (subgraph : ExecutionSubgraph)
    (members : List (Uuid × Runner)) (ctx : NodeExecContext) :
    Action NodeExecutionResult := do
  Trace.emit (.subgraph node.id)
  match ← subgraphRounds runtime subgraph ctx members (members.length + 1) .initial with
  | .error failed => pure failed
  | .ok state =>
    let cap := fun (tokens : Nat) => min tokens (2 ^ 32 - 1)
    pure
      { state := .succeeded
        usage := some
          { promptTokens := cap state.promptTokens
            completionTokens := cap state.completionTokens
            totalTokens := cap (saturatingAdd state.promptTokens state.completionTokens) }
        output := some (.object
          [("exit_node_id", .string (runtime.externals.uuidText subgraph.exitNodeId)),
            ("exit_output", (state.outputs subgraph.exitNodeId).getD
              (.object [("subgraph", .string "complete")])),
            ("node_id", .string (runtime.externals.uuidText node.id)), ("subgraph", .bool true)]) }

mutual

def executeNode : ExecutionNode → Runner
  | ⟨id, kind, strategy, model, retryPolicy, fallback, config, subgraph⟩ =>
    let node : ExecutionNode := ⟨id, kind, strategy, model, retryPolicy, fallback, config, subgraph⟩
    match executeAttached subgraph with
    | some run => run node
    | none => executeLeaf runtime environment executor node

def executeAttached : Option ExecutionSubgraph → Option (ExecutionNode → Runner)
  | none => none
  | some subgraph => some (executeWithin subgraph)

def executeWithin : ExecutionSubgraph → ExecutionNode → Runner
  | ⟨nodes, edges, entryNodeId, exitNodeId⟩ => fun node =>
    executeSubgraph runtime node ⟨nodes, edges, entryNodeId, exitNodeId⟩ (executeMembers nodes)

def executeMembers : List ExecutionNode → List (Uuid × Runner)
  | [] => []
  | node :: nodes => (node.id, executeNode node) :: executeMembers nodes

end

theorem executeMembers_eq (nodes : List ExecutionNode) :
    executeMembers runtime environment executor nodes = nodes.map
      (fun node => (node.id, executeNode runtime environment executor node)) := by
  induction nodes with
  | nil => rfl
  | cons node nodes ih => simp only [executeMembers, List.map_cons, ih]

/-- A subgraph takes precedence over the kind of its node. -/
theorem executeNode_some (attached : node.subgraph = some subgraph) :
    executeNode runtime environment executor node =
      executeSubgraph runtime node subgraph (subgraph.nodes.map (fun member =>
        (member.id, executeNode runtime environment executor member))) := by
  obtain ⟨id, kind, strategy, model, retryPolicy, fallback, config, held⟩ := node
  obtain ⟨nodes, edges, entryNodeId, exitNodeId⟩ := subgraph
  cases attached
  rw [← executeMembers_eq]
  rfl

theorem executeNode_none (bare : node.subgraph = none) :
    executeNode runtime environment executor node =
      executeLeaf runtime environment executor node := by
  obtain ⟨id, kind, strategy, model, retryPolicy, fallback, config, held⟩ := node
  cases bare
  rfl

end ProviderExecutor

end FusionRouter
