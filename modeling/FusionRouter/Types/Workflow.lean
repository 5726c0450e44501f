import FusionRouter.Types.Json

/-!
# Workflows and execution graphs

The compiler's input (`WorkflowIR`) and its output (`ExecutionGraph`), the
runtime states of a node, and what an executor is handed and returns.
-/

namespace FusionRouter

open List

inductive IRNodeKind where
  | generate
  | review
  | judge
  | transform
  | gate
  | conditional
  | loop
  | split
  | join
  | barrier
deriving Repr, DecidableEq

inductive StrategyKind where
  | single
  | consensus
  | reflection
  | chain
  | debate
  | reAct
  | fusion
  | custom (name : String)
deriving Repr, DecidableEq

structure IRNode where
  id : Uuid
  kind : IRNodeKind
  strategy : StrategyKind
  model : Option String
  config : Table String Json

structure IREdge where
  source : Uuid
  target : Uuid
  condition : Option String
deriving Repr, DecidableEq

structure IRMetadata where
  policyApplied : List String
  policyVersion : Nat
  estimatedCost : Nat
  estimatedTokens : Nat
deriving Repr, DecidableEq

structure WorkflowIR where
  planId : Uuid
  nodes : List IRNode
  edges : List IREdge
  metadata : IRMetadata

inductive ExecutionNodeKind where
  | llmGenerate
  | llmReview
  | llmJudge
  | transform
  | gate
  | conditional
  | loop
  | split
  | join
  | barrier
deriving Repr, DecidableEq

structure ExecutionEdge where
  source : Uuid
  target : Uuid
  condition : Option String
deriving Repr, DecidableEq

structure RetryPolicy where
  maxRetries : Nat
  backoffMs : Nat
deriving Repr, DecidableEq

structure FallbackConfig where
  model : String
  provider : String
deriving Repr, DecidableEq

mutual

structure ExecutionNode where
  id : Uuid
  kind : ExecutionNodeKind
  strategy : StrategyKind
  model : String
  retryPolicy : RetryPolicy
  fallback : Option FallbackConfig
  config : Table String Json
  subgraph : Option ExecutionSubgraph

structure ExecutionSubgraph where
  nodes : List ExecutionNode
  edges : List ExecutionEdge
  entryNodeId : Uuid
  exitNodeId : Uuid

end

structure GraphMetadata where
  estimatedCost : Nat
  estimatedTokens : Nat
  policyVersion : Nat
  maxDepth : Nat
  nodeCount : Nat
deriving Repr, DecidableEq

structure ExecutionGraph where
  graphId : Uuid
  nodes : List ExecutionNode
  edges : List ExecutionEdge
  metadata : GraphMetadata
  totalTokens : Nat
  totalCost : Nat

inductive NodeState where
  | pending
  | running
  | succeeded
  | failed (message : String)
  | skipped
deriving Repr, DecidableEq

/-- The states the scheduler treats as final: `Succeeded | Failed(_) |
Skipped`. -/
def NodeState.isTerminal : NodeState → Bool
  | .succeeded => true
  | .failed _ => true
  | .skipped => true
  | .pending => false
  | .running => false

def NodeState.isFailed : NodeState → Bool
  | .failed _ => true
  | _ => false

structure Usage where
  promptTokens : Nat
  completionTokens : Nat
  totalTokens : Nat
deriving Repr, DecidableEq

structure NodeExecutionResult where
  state : NodeState
  usage : Option Usage
  output : Option Json

structure NodeExecContext where
  parentOutputs : Table Uuid Json
  graphOutputs : Table Uuid Json

inductive CompilerError where
  | validation (pass : String) (nodeId : Option Uuid) (message : String)
  | pass (pass : String) (message : String)
deriving Repr, DecidableEq

/-- `Display` of the error. -/
def CompilerError.text : CompilerError → String
  | .validation name _ message =>
    "Validation error in pass '" ++ name ++ "': " ++ message
  | .pass name message => "Pass '" ++ name ++ "' failed: " ++ message

namespace ExecutionGraph

def pairs (graph : ExecutionGraph) : List (Uuid × Uuid) :=
  graph.edges.map (fun edge => (edge.source, edge.target))

/-- The last node with this id, which is the one an index by id keeps. -/
def nodeIndex (graph : ExecutionGraph) (id : Uuid) : Option Nat :=
  (graph.nodes.zipIdx.filter (fun entry => entry.1.id = id)).getLast?.map Prod.snd

variable {graph : ExecutionGraph}

theorem nodeIndex_eq_some {id : Uuid} (found : graph.nodeIndex id = some index) :
    ∃ node, graph.nodes[index]? = some node ∧ node.id = id := by
  unfold nodeIndex at found
  obtain ⟨entry, last, rfl⟩ := Option.map_eq_some_iff.mp found
  obtain ⟨member, same⟩ := mem_filter.mp (mem_of_getLast? last)
  exact ⟨entry.1, mem_zipIdx_iff_getElem?.mp member, by simpa using same⟩

theorem nodeIndex_of_mem {id : Uuid} (known : id ∈ graph.nodes.map ExecutionNode.id) :
    ∃ index, graph.nodeIndex id = some index := by
  obtain ⟨node, member, rfl⟩ := mem_map.mp known
  obtain ⟨position, found⟩ := mem_iff_getElem?.mp member
  have entry : (node, position) ∈ graph.nodes.zipIdx.filter (fun entry => entry.1.id = node.id) :=
    mem_filter.mpr ⟨mem_zipIdx_iff_getElem?.mpr found, by simp⟩
  obtain ⟨last, isLast⟩ := getLast?_isSome.mpr (ne_nil_of_mem entry) |> Option.isSome_iff_exists.mp
  exact ⟨last.2, by simp [nodeIndex, isLast]⟩

end ExecutionGraph

end FusionRouter
