import FusionRouter.FusionIr.Validate
import FusionRouter.Types.Deserialize
import FusionRouter.Types.UuidText

/-!
# Reading planned workflows

`WorkflowIR::from_json`, the way in for plans from outside: the text is
deserialized, a plan that binds models is turned away, and the rest is
validated.
-/

namespace FusionRouter

namespace FusionIr

def nodeKinds : List (String × WorkflowNodeKind) :=
  [("Task", .task), ("Tool", .tool), ("Retrieval", .retrieval),
    ("Memory", .memory), ("Review", .review), ("Judge", .judge),
    ("Security", .security), ("Aggregation", .aggregation), ("Output", .output)]

def edgeKinds : List (String × WorkflowEdgeKind) :=
  [("Sequential", .sequential), ("Parallel", .parallel),
    ("Conditional", .conditional), ("Retry", .retry), ("Merge", .merge), ("Loop", .loop)]

/-- The nesting that is left for a config inside of its node, the list of
nodes and the workflow. -/
def Config.maxDepth : Nat := JsonValue.maxDepth - 3

def Config.deserialize : JsonTree → Option Config
  | ⟨.object fields, numbers⟩ =>
    if (Json.object fields).depth ≤ maxDepth then
      some ⟨Json.normalizeFields fields [], Json.wellFormed_normalize numbers⟩
    else none
  | _ => none

def WorkflowNode.deserialize (tree : JsonTree) : Option WorkflowNode :=
  match tree.struct ["id", "kind", "capability", "selected_model", "config"] true with
  | some [id, kind, capability, selectedModel, config] => do
      let id ← id.bind JsonTree.string
      let kind ← kind.bind (fun tree => tree.json.variant nodeKinds)
      let capability ← JsonTree.optional JsonTree.string capability
      let selectedModel ← JsonTree.optional JsonTree.string selectedModel
      let config ← config.bind Config.deserialize
      return ⟨id, kind, capability, selectedModel, config⟩
  | _ => none

def WorkflowEdge.deserialize (tree : JsonTree) : Option WorkflowEdge :=
  match tree.struct ["from", "to", "kind", "condition"] true with
  | some [source, target, kind, condition] => do
      let source ← source.bind JsonTree.string
      let target ← target.bind JsonTree.string
      let kind ← kind.bind (fun tree => tree.json.variant edgeKinds)
      let condition ← JsonTree.optional JsonTree.string condition
      return ⟨source, target, kind, condition⟩
  | _ => none

/-- `Deserialize` of an amount: nanos, or dollars as a float, which
`checkedFromUsd` converts from its text. -/
def deserializeNanoUsd (checkedFromUsd : String → Option Nat) (tree : JsonTree) : Option Nat :=
  match tree.json with
  | .number (.unsigned nanos) => some nanos
  | .number (.float usd) => checkedFromUsd usd
  | _ => none

def WorkflowMetadata.deserialize (checkedFromUsd : String → Option Nat)
    (tree : JsonTree) : Option WorkflowMetadata :=
  match tree.struct ["policy_applied", "policy_version", "estimated_cost",
      "estimated_tokens"] false with
  | some [policyApplied, policyVersion, estimatedCost, estimatedTokens] => do
      let policyApplied ← policyApplied.bind (JsonTree.vector JsonTree.string)
      let policyVersion ← (policyVersion.map (JsonTree.unsigned u64Max)).getD (some 0)
      let estimatedCost ← estimatedCost.bind (deserializeNanoUsd checkedFromUsd)
      let estimatedTokens ← estimatedTokens.bind (JsonTree.unsigned u64Max)
      return ⟨policyApplied, policyVersion, estimatedCost, estimatedTokens⟩
  | _ => none

inductive WorkflowIrError where
  /-- An error of `serde_json`. -/
  | serde
  | validation (error : ValidationError)
deriving Repr, DecidableEq

namespace WorkflowIR

def deserialize (checkedFromUsd : String → Option Nat) (tree : JsonTree) : Option WorkflowIR :=
  match tree.struct ["version", "workflow_id", "nodes", "edges", "metadata"] true with
  | some [version, workflowId, nodes, edges, metadata] => do
      let version ← version.bind (JsonTree.unsigned (2 ^ 16 - 1))
      let workflowId ← (workflowId.bind JsonTree.string).bind Uuid.parseStr
      let nodes ← nodes.bind (JsonTree.vector WorkflowNode.deserialize)
      let edges ← edges.bind (JsonTree.vector WorkflowEdge.deserialize)
      let metadata ← metadata.bind (WorkflowMetadata.deserialize checkedFromUsd)
      return ⟨version, workflowId, nodes, edges, metadata⟩
  | _ => none

def fromJson (checkedFromUsd : String → Option Nat) (text : String) :
    Except WorkflowIrError WorkflowIR :=
  match (JsonTree.read text).bind (deserialize checkedFromUsd) with
  | none => .error .serde
  | some ir =>
    if ir.nodes.any (fun node => node.selectedModel.isSome) then
      .error (.validation (.providerField "selected_model"))
    else
      match ir.validate.head? with
      | some issue => .error (.validation issue.error)
      | none => .ok ir

theorem fromJson_ok (accepted : fromJson checkedFromUsd text = .ok ir) :
    (∀ node ∈ ir.nodes, node.selectedModel = none) ∧ ir.Valid := by
  unfold fromJson at accepted
  split at accepted
  · cases accepted
  next read _ =>
    split at accepted
    · cases accepted
    next unbound =>
      split at accepted
      · cases accepted
      next empty =>
        cases accepted
        constructor
        · intro node member
          rw [Bool.not_eq_true, List.any_eq_false] at unbound
          simpa using unbound node member
        · rw [← validate_eq_nil_iff]
          exact List.head?_eq_none_iff.mp empty

end WorkflowIR

end FusionIr

end FusionRouter
