import FusionRouter.FusionIr.Validate
import FusionRouter.Types.UuidText
import FusionRouter.Types.Workflow

/-!
# From planned workflows to the compiler's

`workflow_to_types` names nodes by UUIDs: a node id that spells a UUID becomes
it, any other is hashed.  Several texts spell one UUID, and a text can spell a
hash, so the ids of a valid workflow stay apart exactly when neither happens.
-/

namespace FusionRouter

namespace FusionIr

def idNamespace : Uuid := 0x46f20a178c4e4b3a9d1963c781b290e1

def uuidFor (externals : Externals) (id : String) : Uuid :=
  match Uuid.parseStr id with
  | some parsed => parsed
  | none => externals.uuidV5 idNamespace id

namespace WorkflowNodeKind

/-- `node_kind_of`. -/
def toTypes : WorkflowNodeKind → IRNodeKind
  | .task => .generate
  | .tool => .generate
  | .retrieval => .generate
  | .memory => .generate
  | .review => .review
  | .judge => .judge
  | .security => .gate
  | .aggregation => .join
  | .output => .transform

/-- `Debug`. -/
def debugText : WorkflowNodeKind → String
  | .task => "Task"
  | .tool => "Tool"
  | .retrieval => "Retrieval"
  | .memory => "Memory"
  | .review => "Review"
  | .judge => "Judge"
  | .security => "Security"
  | .aggregation => "Aggregation"
  | .output => "Output"

end WorkflowNodeKind

def namedStrategies : List (String × StrategyKind) :=
  [("Consensus", .consensus), ("Reflection", .reflection), ("Chain", .chain),
    ("Debate", .debate), ("ReAct", .reAct), ("Fusion", .fusion), ("Single", .single)]

namespace WorkflowNode

def strategy (node : WorkflowNode) : StrategyKind :=
  match (node.config.get "strategy").bind Json.asStr with
  | some name => (namedStrategies.lookup name).getD (.custom name)
  | none => .single

/-- The config with the capability and the kind of the node added. -/
def typesConfig (node : WorkflowNode) : Table String Json :=
  let config : Table String Json :=
    match node.capability with
    | some capability =>
      Table.insert node.config.get "capability" (.string capability)
    | none => node.config.get
  config.insert "semantic_kind" (.string node.kind.debugText)

def toTypes (externals : Externals) (node : WorkflowNode) : IRNode :=
  { id := uuidFor externals node.id
    kind := node.kind.toTypes
    strategy := node.strategy
    model := node.selectedModel
    config := node.typesConfig }

end WorkflowNode

section

variable (externals : Externals)

def WorkflowEdge.toTypes (edge : WorkflowEdge) : IREdge :=
  { source := uuidFor externals edge.source
    target := uuidFor externals edge.target
    condition := edge.condition }

/-- The translation without its check of the edges. -/
def WorkflowIR.toTypes (ir : WorkflowIR) : FusionRouter.WorkflowIR :=
  { planId := ir.workflowId
    nodes := ir.nodes.map (WorkflowNode.toTypes externals)
    edges := ir.edges.map (WorkflowEdge.toTypes externals)
    metadata :=
      { policyApplied := ir.metadata.policyApplied
        policyVersion := ir.metadata.policyVersion
        estimatedCost := ir.metadata.estimatedCost
        estimatedTokens := ir.metadata.estimatedTokens } }

theorem WorkflowIR.toTypes_nodeIds (ir : WorkflowIR) :
    (ir.toTypes externals).nodes.map IRNode.id = ir.nodeIds.map (uuidFor externals) := by
  simp [toTypes, nodeIds, WorkflowNode.toTypes]

def workflowToTypes (ir : WorkflowIR) : Except String FusionRouter.WorkflowIR :=
  let types := ir.toTypes externals
  match types.edges.find? (fun edge => edge.source ∉ types.nodes.map IRNode.id ∨
        edge.target ∉ types.nodes.map IRNode.id) with
  | some edge =>
    .error ("edge references unknown node (" ++ externals.uuidText edge.source ++ " -> " ++
      externals.uuidText edge.target ++ ")")
  | none => .ok types

theorem workflowToTypes_of_valid (valid : ir.Valid) :
    workflowToTypes externals ir = .ok (ir.toTypes externals) := by
  have known : (ir.toTypes externals).edges.find? (fun edge =>
      edge.source ∉ (ir.toTypes externals).nodes.map IRNode.id ∨
        edge.target ∉ (ir.toTypes externals).nodes.map IRNode.id) = none := by
    rw [List.find?_eq_none]
    intro edge member
    obtain ⟨original, inside, rfl⟩ := List.mem_map.mp member
    obtain ⟨source, target⟩ := valid.known original inside
    rw [WorkflowIR.toTypes_nodeIds, decide_eq_true_eq, not_or, not_not, not_not]
    exact ⟨List.mem_map_of_mem source, List.mem_map_of_mem target⟩
  rw [workflowToTypes]
  simp only [known]

/-- `Uuid::new_v5` has no collisions on these ids. -/
def CollisionFree (ids : List String) : Prop :=
  ∀ left, left ∈ ids → ∀ right, right ∈ ids →
    externals.uuidV5 idNamespace left = externals.uuidV5 idNamespace right → left = right

end

/-- No UUID is spelled by two of the ids, or by one and the hash of
another. -/
structure SpelledOnce (externals : Externals) (ids : List String) : Prop where
  spelling : ∀ left, left ∈ ids → ∀ right, right ∈ ids → ∀ id,
    Uuid.parseStr left = some id → Uuid.parseStr right = some id → left = right
  hashed : ∀ left, left ∈ ids → ∀ right, right ∈ ids → Uuid.parseStr left = none →
      Uuid.parseStr right ≠ some (externals.uuidV5 idNamespace left)

theorem uuidFor_injOn_iff (collisionFree : CollisionFree externals ids) :
    (∀ left ∈ ids, ∀ right ∈ ids, uuidFor externals left = uuidFor externals right → left = right) ↔
      SpelledOnce externals ids := by
  constructor
  · intro injective
    refine ⟨?_, ?_⟩
    · intro left leftIn right rightIn id readLeft readRight
      refine injective left leftIn right rightIn ?_
      rw [uuidFor, uuidFor, readLeft, readRight]
    · intro left leftIn right rightIn unread readRight
      have same : left = right := by
        refine injective left leftIn right rightIn ?_
        rw [uuidFor, uuidFor, unread, readRight]
      rw [← same, unread] at readRight
      cases readRight
  · intro once left leftIn right rightIn same
    rw [uuidFor, uuidFor] at same
    cases readLeft : Uuid.parseStr left with
    | some id =>
      cases readRight : Uuid.parseStr right with
      | some other =>
        simp only [readLeft, readRight] at same
        subst same
        exact once.spelling left leftIn right rightIn id readLeft readRight
      | none =>
        simp only [readLeft, readRight] at same
        subst same
        exact (once.hashed right rightIn left leftIn readRight readLeft).elim
    | none =>
      cases readRight : Uuid.parseStr right with
      | some other =>
        simp only [readLeft, readRight] at same
        subst same
        exact (once.hashed left leftIn right rightIn readLeft readRight).elim
      | none =>
        simp only [readLeft, readRight] at same
        exact collisionFree left leftIn right rightIn same

/-- The edges of the translation join the images of the endpoints, and its
node ids are distinct exactly when no UUID is spelled twice. -/
theorem translation_apart_iff (externals : Externals) (ir : WorkflowIR)
    (validated : ir.validate = []) (collisionFree : CollisionFree externals ir.nodeIds) :
    ∃ types, workflowToTypes externals ir = .ok types ∧
      types.edges.map (fun edge => (edge.source, edge.target)) =
        ir.edges.map (fun edge => (uuidFor externals edge.source, uuidFor externals edge.target)) ∧
      ((types.nodes.map IRNode.id).Nodup ↔ SpelledOnce externals ir.nodeIds) := by
  have valid := (WorkflowIR.validate_eq_nil_iff ir).mp validated
  refine ⟨ir.toTypes externals, workflowToTypes_of_valid externals valid, ?_, ?_⟩
  · rw [WorkflowIR.toTypes, List.map_map]
    rfl
  · rw [WorkflowIR.toTypes_nodeIds, ← uuidFor_injOn_iff collisionFree]
    exact List.nodup_map_iff_inj_on valid.distinct

namespace AdapterSample

def node (id : String) (kind : WorkflowNodeKind) : WorkflowNode :=
  { id := id
    kind := kind
    capability := none
    selectedModel := none
    config := ⟨[], Json.wellFormed_empty⟩ }

def edge (source target : String) : WorkflowEdge :=
  { source := source
    target := target
    kind := .sequential
    condition := none }

def planOf (nodes : List WorkflowNode) (edges : List WorkflowEdge) :
    WorkflowIR :=
  { version := 1
    workflowId := 1
    nodes := nodes
    edges := edges
    metadata :=
      { policyApplied := []
        policyVersion := 0
        estimatedCost := 0
        estimatedTokens := 0 } }

/-- Hashes for a few short ids. -/
def externals : Externals :=
  Externals.sample (fun _ text => Fin.ofNat (2 ^ 128) text.length)

def lowerCase : String := "550e8400-e29b-41d4-a716-446655440000"

def upperCase : String := "550E8400E29B41D4A716446655440000"

/-- Two ids that no UUID is spelled by. -/
def named : WorkflowIR :=
  planOf [node "draft" .task, node "result" .output] [edge "draft" "result"]

/-- Two spellings of one UUID. -/
def respelled : WorkflowIR :=
  planOf [node lowerCase .task, node upperCase .output] [edge lowerCase upperCase]

theorem named_apart :
    ∃ types, workflowToTypes externals named = .ok types ∧
      types.edges.map (fun edge => (edge.source, edge.target)) = [(5, 6)] ∧
      (types.nodes.map IRNode.id).Nodup := by
  obtain ⟨types, converted, edges, apart⟩ := translation_apart_iff externals
    named (by decide) (by unfold CollisionFree; decide)
  refine ⟨types, converted, edges.trans (by decide), apart.mpr ?_⟩
  constructor
  · intro left leftIn right rightIn id readLeft
    have unread : ∀ name, name ∈ named.nodeIds → Uuid.parseStr name = none := by decide
    rw [unread left leftIn] at readLeft
    cases readLeft
  · decide

/-- The workflow is valid, and both of its nodes get one UUID. -/
theorem respelled_not_apart :
    ¬ ∀ (externals : Externals) (ir : WorkflowIR), ir.validate = [] →
      CollisionFree externals ir.nodeIds → ∃ types, workflowToTypes externals ir = .ok types ∧
        (types.nodes.map IRNode.id).Nodup := by
  intro apart
  obtain ⟨types, converted, distinct⟩ := apart externals respelled
    (by decide) (by unfold CollisionFree; decide)
  have translated : workflowToTypes externals respelled = .ok (respelled.toTypes externals) := rfl
  rw [translated] at converted
  cases converted
  exact absurd distinct (by decide)

end AdapterSample

end FusionIr

end FusionRouter
