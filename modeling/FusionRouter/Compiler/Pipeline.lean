import FusionRouter.Compiler.Policy
import FusionRouter.Compiler.Strategy

/-!
# The pass pipeline and lowering

The remaining passes, `lower_to_graph_with_compilers`, and the mandatory
pipeline that `build_compiler` assembles.
-/

namespace FusionRouter

namespace DeadNodeElimination

/-- Breadth-first search over the edge list.  Each edge is pushed at most once,
when its source is first taken from the queue. -/
def reach (edges : List IREdge) : Nat → List Uuid → Finset Uuid → Finset Uuid
  | 0, _, reachable => reachable
  | _ + 1, [], reachable => reachable
  | fuel + 1, current :: queue, reachable =>
    if current ∈ reachable then reach edges fuel queue reachable
    else
      let marked := insert current reachable
      reach edges fuel
        (queue ++ (edges.filter (fun edge =>
          edge.source = current ∧ edge.target ∉ marked)).map IREdge.target) marked

/-- Entry points: no incoming edge and at least one outgoing edge. -/
def roots (externals : Externals) (ir : WorkflowIR) : List Uuid :=
  externals.hashOrder ((ir.nodes.map IRNode.id).filter (fun id =>
    ir.incomingEdges id = [] ∧ ir.outgoingEdges id ≠ [])).dedup

def reachable (externals : Externals) (ir : WorkflowIR) : Finset Uuid :=
  reach ir.edges (ir.nodes.length + ir.edges.length) (roots externals ir) ∅

def apply (externals : Externals) : CompilerPass := fun ir =>
  if ir.nodes = [] then .ok ir
  else if ir.edges = [] then .ok ir
  else if roots externals ir = [] then .ok ir
  else
    let live := reachable externals ir
    .ok { ir with
      nodes := ir.nodes.filter (fun node => node.id ∈ live)
      edges := ir.edges.filter (fun edge => edge.source ∈ live ∧ edge.target ∈ live) }

end DeadNodeElimination

namespace ModelResolution

def isControlFlow : IRNodeKind → Bool
  | .conditional => true
  | .loop => true
  | .split => true
  | .join => true
  | .barrier => true
  | _ => false

/-- Nodes that need a model and have none get the fast model of the catalog. -/
def resolve (fastModel : String) (node : IRNode) : IRNode :=
  if isControlFlow node.kind then node
  else { node with model := some (node.model.getD fastModel) }

def apply (fastModel : String) : CompilerPass := fun ir =>
  .ok { ir with nodes := ir.nodes.map (resolve fastModel) }

end ModelResolution

namespace BudgetOptimisation

def apply (canAfford : Nat → Nat → Bool) : CompilerPass := fun ir =>
  if canAfford ir.metadata.estimatedCost ir.metadata.estimatedTokens then
    .ok ir
  else .error (.validation "budget_optimisation" none "Budget exceeded")

end BudgetOptimisation

namespace Lowering

def lowerKind : IRNodeKind → ExecutionNodeKind
  | .generate => .llmGenerate
  | .review => .llmReview
  | .judge => .llmJudge
  | .transform => .transform
  | .gate => .gate
  | .conditional => .conditional
  | .loop => .loop
  | .split => .split
  | .join => .join
  | .barrier => .barrier

/-- Retry settings from the config, clamped. -/
def retryPolicy (config : Table String Json) : RetryPolicy :=
  { maxRetries :=
      (((config "max_retries").bind Json.asU64).map (min · 10)).getD 2
    backoffMs := (((config "backoff_ms").bind Json.asU64).map (min · 60000)).getD 1000 }

/-- The node before its subgraph is attached. -/
def bareNode (node : IRNode) : ExecutionNode :=
  { id := node.id
    kind := lowerKind node.kind
    strategy := node.strategy
    model := node.model.getD ""
    retryPolicy := retryPolicy node.config
    fallback := none
    config := node.config
    subgraph := none }

def lowerNode (externals : Externals)
    (customCompilers : Table String StrategyCompiler) (node : IRNode) :
    ExecutionNode :=
  { bareNode node with
    subgraph := StrategyExpansion.expandedSubgraph externals customCompilers (bareNode node) }

def lowerEdge (edge : IREdge) : ExecutionEdge :=
  { source := edge.source
    target := edge.target
    condition := edge.condition }

/-- `lower_to_graph_with_compilers`; it never fails. -/
def lowerToGraph (externals : Externals)
    (customCompilers : Table String StrategyCompiler) (ir : WorkflowIR) :
    ExecutionGraph :=
  { graphId := ir.planId
    nodes := ir.nodes.map (lowerNode externals customCompilers)
    edges := ir.edges.map lowerEdge
    metadata :=
      { estimatedCost := ir.metadata.estimatedCost
        estimatedTokens := ir.metadata.estimatedTokens
        policyVersion := ir.metadata.policyVersion
        maxDepth := 1
        nodeCount := ir.nodes.length }
    totalTokens := ir.metadata.estimatedTokens
    totalCost := ir.metadata.estimatedCost }

end Lowering

/-- What `build_compiler` is given: the fast model of the catalog, the answers
of the resource manager and an optional policy. -/
structure CompilerOptions where
  externals : Externals
  fastModel : String
  canAfford : Nat → Nat → Bool
  policy : Option PolicyIR

/-- The mandatory passes in order, and the policy pass when there is a
policy.  No custom strategy is registered. -/
def CompilerOptions.passes (options : CompilerOptions) : List CompilerPass :=
  [ConstraintValidation.apply, ControlFlowValidation.apply options.externals,
    StrategyLowering.apply ∅, DeadNodeElimination.apply options.externals,
    ModelResolution.apply options.fastModel, BudgetOptimisation.apply options.canAfford] ++
  (options.policy.map (PolicyCompiler.apply options.externals)).toList

/-- Run the passes in order, stopping at the first error. -/
def runPasses : List CompilerPass → WorkflowIR → Except CompilerError WorkflowIR
  | [], ir => .ok ir
  | pass :: passes, ir =>
    match pass ir with
    | .error error => .error error
    | .ok next => runPasses passes next

/-- `DefaultCompiler::compile` of a compiler from `build_compiler`. -/
def compile (options : CompilerOptions) (ir : WorkflowIR) : Except CompilerError ExecutionGraph :=
  match runPasses options.passes ir with
  | .error error => .error error
  | .ok final => .ok (Lowering.lowerToGraph options.externals Table.empty final)

end FusionRouter
