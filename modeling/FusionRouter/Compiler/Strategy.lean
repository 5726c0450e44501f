import FusionRouter.Compiler.Validation

/-!
# Strategy validation and expansion

`StrategyLoweringPass` rejects invalid strategy configurations; the expansion
functions build the subgraph that lowering attaches to a node.  Every child of
a built-in expansion is the parent node with another id, kind and, for the
members of a consensus, another model.
-/

namespace FusionRouter

open List

/-- `StrategyCompiler::compile_subgraph` of a registered delegate. -/
abbrev StrategyCompiler := ExecutionNode → String → ExecutionSubgraph

def maxConsensusMembers : Nat := 64
def minChainSteps : Nat := 1
def maxChainSteps : Nat := 32
def defaultChainSteps : Nat := 2

namespace StrategyLowering

variable (node : IRNode)

def invalid (message : String) : CompilerError :=
  .validation "strategy_lowering" (some node.id) message

/-- A numeric key that may be absent or of another type but not zero. -/
def zeroError (key message : String) : Option CompilerError :=
  match (node.config key).bind Json.asU64 with
  | some 0 => some (invalid node message)
  | _ => none

def validateConsensusConfig : Option CompilerError :=
  let countError :=
    match (node.config "count").bind Json.asU64 with
    | none => none
    | some count =>
      if count = 0 then some (invalid node "Consensus count must be >= 1")
      else if maxConsensusMembers < count then
        some (invalid node ("Consensus count " ++ toString count ++
          " exceeds maximum of " ++ toString maxConsensusMembers ++ " members"))
      else none
  match countError with
  | some error => some error
  | none =>
    match (node.config "members").bind Json.asArray with
    | none => none
    | some members =>
      if maxConsensusMembers < members.length then
        some (invalid node ("Consensus members list length " ++
          toString members.length ++ " exceeds maximum of " ++
          toString maxConsensusMembers ++ " members"))
      else none

def validateReflectionConfig : Option CompilerError :=
  zeroError node "max_cycles" "Reflection max_cycles must be >= 1"

def validateChainConfig : Option CompilerError :=
  match node.config "stages" with
  | some stagesValue =>
    match stagesValue.asArray with
    | none => some (invalid node "Chain stages must be an array")
    | some stages =>
      if stages = [] then
        some (invalid node "Chain stages must not be empty")
      else if maxChainSteps < stages.length then
        some (invalid node ("Chain stages length " ++
          toString stages.length ++ " exceeds maximum of " ++ toString maxChainSteps ++ " steps"))
      else none
  | none =>
    match node.config "steps" with
    | none => none
    | some stepsValue =>
      match stepsValue.asU64 with
      | none =>
        some (invalid node "Chain steps must be a non-negative integer")
      | some 0 =>
        some (invalid node ("Chain steps must be >= 1; a zero-step " ++
          "chain would produce an empty subgraph"))
      | some _ => none

def validateDebateConfig : Option CompilerError :=
  match (node.config "roles").bind Json.asArray with
  | none => none
  | some roles =>
    if roles.length < 2 then
      some (invalid node ("Debate requires at least 2 roles, got " ++ toString roles.length))
    else none

def validateReactConfig : Option CompilerError :=
  zeroError node "max_tool_rounds" "ReAct max_tool_rounds must be >= 1"

def nodeError (registeredCustom : Finset String) (node : IRNode) : Option CompilerError :=
  match node.strategy with
  | .single => none
  | .consensus => validateConsensusConfig node
  | .reflection => validateReflectionConfig node
  | .chain => validateChainConfig node
  | .debate => validateDebateConfig node
  | .reAct => validateReactConfig node
  | .fusion => none
  | .custom name =>
    if name = "" then
      some (invalid node "Custom strategy must have a non-empty name")
    else if name ∉ registeredCustom then
      some (invalid node ("Unregistered custom strategy '" ++ name ++
        "' has no registered StrategyCompiler delegate; " ++ "compilation failed closed"))
    else none

def apply (registeredCustom : Finset String) : CompilerPass := fun ir =>
  match ir.nodes.findSome? (nodeError registeredCustom) with
  | some error => .error error
  | none => .ok ir

end StrategyLowering

namespace StrategyExpansion

section

variable (externals : Externals)

/-- `child_id`: a v5 UUID of parent, role and position. -/
def childId (parent : Uuid) (role : String) (index : Nat) : Uuid :=
  externals.uuidV5 externals.namespaceUrl
    (externals.uuidText parent ++ ":" ++ role ++ ":" ++ toString index)

variable (node : ExecutionNode)

/-- A child of `node`: single strategy, no subgraph, everything else as in the
parent. -/
def childNode (id : Uuid) (kind : ExecutionNodeKind) (model : String) : ExecutionNode :=
  { id := id
    kind := kind
    strategy := .single
    model := model
    retryPolicy := node.retryPolicy
    fallback := node.fallback
    config := node.config
    subgraph := none }

def plainEdge (source target : Uuid) : ExecutionEdge :=
  { source := source
    target := target
    condition := none }

/-- The `Vec` of edges from every node to one sink. -/
def fanIn (nodes : List ExecutionNode) (sink : Uuid) : List ExecutionEdge :=
  nodes.map (fun node => plainEdge node.id sink)

/-- The models of the generated members: the string entries of `members`, or
`count` copies of the model of the node. -/
def consensusMembers : List String :=
  let count := min (max (((node.config "count").bind Json.asU64).getD 3) 1) maxConsensusMembers
  let members := ((((node.config "members").bind Json.asArray).getD
    []).filterMap Json.asStr).take maxConsensusMembers
  if members = [] then List.replicate count node.model else members

def expandConsensus : ExecutionSubgraph :=
  let generators := (consensusMembers node).zipIdx.map (fun member =>
    childNode node (childId externals node.id "gen" member.2) .llmGenerate member.1)
  let judge := childNode node (childId externals node.id "judge" 0) .llmJudge node.model
  { nodes := generators ++ [judge]
    edges := fanIn generators judge.id
    entryNodeId := (generators.head?.map ExecutionNode.id).getD judge.id
    exitNodeId := judge.id }

def expandReflection : ExecutionSubgraph :=
  let generator := childNode node (childId externals node.id "generator" 0) .llmGenerate node.model
  let reviewer := childNode node (childId externals node.id "reviewer" 0) .llmReview node.model
  { nodes := [generator, reviewer]
    edges := [plainEdge generator.id reviewer.id]
    entryNodeId := generator.id
    exitNodeId := reviewer.id }

def resolvedChainSteps (config : Table String Json) : Nat :=
  match (config "stages").bind Json.asArray with
  | some stages => min (max stages.length minChainSteps) maxChainSteps
  | none =>
    match (config "steps").bind Json.asU64 with
    | some steps => min (max steps minChainSteps) maxChainSteps
    | none => defaultChainSteps

def expandChain : ExecutionSubgraph :=
  let ids := (List.range (resolvedChainSteps node.config)).map (childId externals node.id "step")
  { nodes := ids.map (fun id => childNode node id .llmGenerate node.model)
    edges := List.zipWith plainEdge ids ids.tail
    entryNodeId := ids.head?.getD node.id
    exitNodeId := ids.getLast?.getD node.id }

def expandDebate : ExecutionSubgraph :=
  let proposer := childNode node (childId externals node.id "proposer" 0) .llmGenerate node.model
  let opposer := childNode node (childId externals node.id "opposer" 0) .llmGenerate node.model
  let judge := childNode node (childId externals node.id "judge" 0) .llmJudge node.model
  { nodes := [proposer, opposer, judge]
    edges := [plainEdge proposer.id opposer.id, plainEdge opposer.id judge.id]
    entryNodeId := proposer.id
    exitNodeId := judge.id }

def expandReact : ExecutionSubgraph :=
  let reasoner := childNode node (childId externals node.id "reason" 0) .llmGenerate node.model
  let toolNode := childNode node (childId externals node.id "tool" 0) .transform node.model
  { nodes := [reasoner, toolNode]
    edges := [plainEdge reasoner.id toolNode.id]
    entryNodeId := reasoner.id
    exitNodeId := toolNode.id }

def expandFusion : ExecutionSubgraph :=
  let first := childNode node (childId externals node.id "candidate" 0) .llmGenerate node.model
  let second := childNode node (childId externals node.id "candidate" 1) .llmGenerate node.model
  let merger := childNode node (childId externals node.id "merger" 0) .llmJudge node.model
  { nodes := [first, second, merger]
    edges := [plainEdge first.id merger.id, plainEdge second.id merger.id]
    entryNodeId := first.id
    exitNodeId := merger.id }

/-- `expanded_subgraph_with_compilers`. -/
def expandedSubgraph (customCompilers : Table String StrategyCompiler) (node : ExecutionNode) :
    Option ExecutionSubgraph :=
  match node.strategy with
  | .single => none
  | .consensus => some (expandConsensus externals node)
  | .reflection => some (expandReflection externals node)
  | .chain => some (expandChain externals node)
  | .debate => some (expandDebate externals node)
  | .reAct => some (expandReact externals node)
  | .fusion => some (expandFusion externals node)
  | .custom name =>
    (customCompilers name).map (fun compiler => compiler node name)

end

/-- A sub-node is a copy of its parent with another id and kind.  Only the
generators of a consensus may have another model. -/
inductive Child (node : ExecutionNode) : ExecutionNode → Prop where
  | copy (id : Uuid) (kind : ExecutionNodeKind) :
      Child node (childNode node id kind node.model)
  | generator (id : Uuid) {model : String} (consensus : node.strategy = .consensus)
      (listed : model ∈ consensusMembers node) :
      Child node (childNode node id .llmGenerate model)

theorem expandedSubgraph_children
    (expanded : expandedSubgraph externals Table.empty node = some subgraph)
    (inside : member ∈ subgraph.nodes) : Child node member := by
  unfold expandedSubgraph at expanded
  split at expanded
  · cases expanded
  next consensus =>
    cases expanded
    rcases mem_append.mp inside with generator | judge
    · obtain ⟨⟨model, index⟩, listed, rfl⟩ := mem_map.mp generator
      exact .generator _ consensus (fst_mem_of_mem_zipIdx listed)
    · rw [mem_singleton.mp judge]
      exact .copy _ _
  all_goals cases expanded
  · simp only [expandReflection, mem_cons, not_mem_nil, or_false] at inside
    rcases inside with rfl | rfl <;> exact .copy _ _
  · obtain ⟨id, -, rfl⟩ := mem_map.mp inside
    exact .copy _ _
  · simp only [expandDebate, mem_cons, not_mem_nil, or_false] at inside
    rcases inside with rfl | rfl | rfl <;> exact .copy _ _
  · simp only [expandReact, mem_cons, not_mem_nil, or_false] at inside
    rcases inside with rfl | rfl <;> exact .copy _ _
  · simp only [expandFusion, mem_cons, not_mem_nil, or_false] at inside
    rcases inside with rfl | rfl | rfl <;> exact .copy _ _

theorem Child.config (child : Child node member) : member.config = node.config := by
  cases child <;> rfl

theorem Child.subgraph (child : Child node member) : member.subgraph = none := by
  cases child <;> rfl

end StrategyExpansion

end FusionRouter
