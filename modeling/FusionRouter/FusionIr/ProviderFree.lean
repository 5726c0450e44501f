import FusionRouter.Compiler.PolicyDeny
import FusionRouter.FusionIr.Adapter
import FusionRouter.FusionIr.FromJson
import FusionRouter.Runtime.Effects

/-!
# The models of a plan from outside

A plan read by `from_json` binds no model, so the compiler resolves all of
them; but the expansion of a consensus takes the models of its generators from
the key `members`, which validation does not reserve.  The main result says
that this is the only way for a plan to name a model.
-/

namespace FusionRouter

open List ModelResolution

/-- A node or sub-node of the graph has this model. -/
def ExecutionGraph.NamesModel (graph : ExecutionGraph) (model : String) :
    Prop :=
  ∃ root, root ∈ graph.nodes ∧ ∃ node, Within root node ∧ node.model = model

/-- The models that the compiler names without being told: the one of its
catalog, none for a control-flow node, and the mark of a policy gate. -/
def CompilerOptions.Provides (options : CompilerOptions) (model : String) :
    Prop :=
  model = options.fastModel ∨ model = "" ∨ model = "policy.approval_gate"

theorem strategies_of_compile (compiled : compile options ir = .ok graph)
    (member : node ∈ ir.nodes) : StrategyLowering.nodeError ∅ node = none := by
  obtain ⟨_, _, stages⟩ := compile_stages compiled
  have strategies := stages.strategies
  unfold StrategyLowering.apply at strategies
  split at strategies
  · cases strategies
  next none => exact findSome?_eq_none_iff.mp none node member

theorem StrategyLowering.members_of_nodeError (consensus : node.strategy = .consensus)
    (passed : nodeError registered node = none) :
    (((node.config "members").bind Json.asArray).getD []).length ≤
      maxConsensusMembers := by
  simp only [nodeError, consensus, validateConsensusConfig] at passed
  split at passed
  · cases passed
  · split at passed
    next none => simp [none]
    next members found =>
      split at passed
      · cases passed
      next short => simpa [found] using short

theorem StrategyExpansion.listedMembers_congr {config other : Table String Json}
    (same : config "members" = other "members") : listedMembers config = listedMembers other := by
  rw [listedMembers, same, listedMembers]

theorem StrategyExpansion.mem_expandConsensus {node : ExecutionNode}
    (short : (((node.config "members").bind Json.asArray).getD []).length ≤
      maxConsensusMembers) (listed : model ∈ listedMembers node.config) :
    ∃ member, member ∈ (expandConsensus externals node).nodes ∧ member.model = model := by
  have whole : (listedMembers node.config).take maxConsensusMembers = listedMembers node.config :=
    take_of_length_le (le_trans (length_filterMap_le _ _) short)
  have members : consensusMembers node = listedMembers node.config := by
    have nonempty : listedMembers node.config ≠ [] := ne_nil_of_mem listed
    unfold consensusMembers
    exact (if_neg (whole.symm ▸ nonempty)).trans whole
  obtain ⟨index, inside⟩ : ∃ index, (model, index) ∈ (consensusMembers node).zipIdx := by
    rw [members]
    obtain ⟨index, found⟩ := mem_iff_getElem?.mp listed
    exact ⟨index, mk_mem_zipIdx_iff_getElem?.mpr found⟩
  refine ⟨_, mem_append_left _ (mem_map_of_mem inside), rfl⟩

theorem within_lowerNode {inner : ExecutionNode}
    (within : Within (Lowering.lowerNode externals Table.empty node) inner) :
    inner = Lowering.lowerNode externals Table.empty node ∨
      StrategyExpansion.Child (Lowering.bareNode node) inner := by
  induction within with
  | self => exact Or.inl rfl
  | member _ attached inside induction =>
    rcases induction with rfl | child
    · exact Or.inr (StrategyExpansion.expandedSubgraph_children attached inside)
    · rw [child.subgraph] at attached
      cases attached

namespace FusionIr

namespace WorkflowNode

theorem typesConfig_members (node : WorkflowNode) :
    node.typesConfig "members" = node.config.get "members" := by
  have kind : "members" ≠ "semantic_kind" := by decide
  have capability : "members" ≠ "capability" := by decide
  rw [typesConfig, Table.insert_of_ne _ _ kind]
  cases node.capability with
  | none => rfl
  | some text => exact Table.insert_of_ne _ _ capability

def executed (options : CompilerOptions) (node : WorkflowNode) :
    ExecutionNode :=
  Lowering.lowerNode options.externals Table.empty
    (ModelResolution.resolve options.fastModel (node.toTypes options.externals))

variable {node : WorkflowNode}

section

variable (options : CompilerOptions)
include options

theorem executed_strategy : (node.executed options).strategy = node.strategy := by
  unfold executed resolve
  split <;> rfl

theorem executed_members : (node.executed options).config "members" =
    node.config.get "members" := by
  refine Eq.trans ?_ node.typesConfig_members
  unfold executed resolve
  split <;> rfl

/-- A consensus that is executed has a sub-node for every member that it
lists. -/
theorem executed_generators (consensus : node.strategy = .consensus)
    (short : (((node.config.get "members").bind Json.asArray).getD []).length ≤
      maxConsensusMembers) :
    ∃ subgraph, (node.executed options).subgraph = some subgraph ∧
      ∀ model ∈ StrategyExpansion.listedMembers node.config.get,
        ∃ member, member ∈ subgraph.nodes ∧ member.model = model := by
  have expanded : (Lowering.bareNode (resolve
      options.fastModel (node.toTypes options.externals))).strategy =
        .consensus := (executed_strategy options).trans consensus
  have members : (Lowering.bareNode (resolve
      options.fastModel (node.toTypes options.externals))).config "members" =
        node.config.get "members" := executed_members options
  refine ⟨StrategyExpansion.expandConsensus options.externals
    (Lowering.bareNode (resolve options.fastModel (node.toTypes options.externals))), ?_, ?_⟩
  · simp only [executed, Lowering.lowerNode, StrategyExpansion.expandedSubgraph, expanded]
  · intro model listed
    refine StrategyExpansion.mem_expandConsensus (by rwa [members]) ?_
    rwa [StrategyExpansion.listedMembers_congr members]

theorem executed_model (unbound : node.selectedModel = none) :
    (node.executed options).model = options.fastModel ∨ (node.executed options).model = "" := by
  unfold executed resolve
  split
  · refine Or.inr ?_
    simp [Lowering.lowerNode, Lowering.bareNode, toTypes, unbound]
  · refine Or.inl ?_
    simp [Lowering.lowerNode, Lowering.bareNode, toTypes, unbound]

end

end WorkflowNode

/-- For a plan that `from_json` accepts and that compiles, every model of the
graph is one that the compiler provides exactly when so are the members that
its consensus nodes list. -/
theorem named_models_iff (checkedFromUsd : String → Option Nat) (text : String) (ir : WorkflowIR)
    (accepted : WorkflowIR.fromJson checkedFromUsd text = .ok ir)
    (options : CompilerOptions) (types : FusionRouter.WorkflowIR)
    (converted : workflowToTypes options.externals ir = .ok types)
    (graph : ExecutionGraph) (compiled : compile options types = .ok graph) :
    (∀ model, graph.NamesModel model → options.Provides model) ↔
      ∀ node, node ∈ ir.nodes → node.executed options ∈ graph.nodes →
        node.strategy = .consensus → ∀ model,
          model ∈ StrategyExpansion.listedMembers node.config.get → options.Provides model := by
  obtain ⟨unbound, valid⟩ := WorkflowIR.fromJson_ok accepted
  rw [workflowToTypes_of_valid _ valid] at converted
  cases converted
  constructor
  · intro provided node planned kept consensus model listed
    have passed := strategies_of_compile compiled
      (mem_map_of_mem planned : node.toTypes options.externals ∈ _)
    have short := StrategyLowering.members_of_nodeError consensus passed
    obtain ⟨subgraph, attached, members⟩ := WorkflowNode.executed_generators options consensus
        (node.typesConfig_members ▸ short)
    obtain ⟨member, inside, rfl⟩ := members model listed
    exact provided _ ⟨_, kept, member, .member .self attached inside, rfl⟩
  · rintro listed model ⟨root, member, inner, within, rfl⟩
    obtain ⟨live, final, stages⟩ := compile_stages compiled
    have lowered := member
    rw [stages.lowered] at lowered
    obtain ⟨before, inside, rfl⟩ := mem_map.mp lowered
    rcases stages.node_origin inside with ⟨client, known, rfl, -⟩ | ⟨target, -, rfl⟩
    · obtain ⟨node, planned, rfl⟩ := mem_map.mp known
      have resolved := WorkflowNode.executed_model options (unbound node planned)
      rcases within_lowerNode within with rfl | child
      · exact resolved.imp_right Or.inl
      · rcases child.model with same | ⟨consensus, named⟩
        · rw [same]
          exact resolved.imp_right Or.inl
        · refine listed node planned member
            ((WorkflowNode.executed_strategy options).symm.trans consensus) _ ?_
          rw [← StrategyExpansion.listedMembers_congr (WorkflowNode.executed_members options)]
          exact named
    · refine Or.inr (Or.inr ?_)
      rcases within_lowerNode within with rfl | child
      · rfl
      · rcases child.model with same | ⟨consensus, -⟩
        · exact same
        · cases consensus

namespace ProviderFreeSample

open AdapterSample

def tree (config : List (String × Json)) : Json :=
  .object [("version", .number (.unsigned 1)),
    ("workflow_id", .string "00000000-0000-0000-0000-000000000001"),
    ("nodes", .array [.object [("id", .string "a"), ("kind", .string "Task"),
      ("capability", .null), ("config", .object config)]]), ("edges", .array []),
    ("metadata", .object [("policy_applied", .array []), ("estimated_cost", .number (.unsigned 0)),
      ("estimated_tokens", .number (.unsigned 0))])]

/-- A consensus of the catalog's model. -/
def unlisted : List (String × Json) :=
  [("strategy", .string "Consensus")]

/-- A consensus of a model that the plan names. -/
def listed : List (String × Json) :=
  [("strategy", .string "Consensus"), ("members", .array [.string "o1-pro"])]

theorem tree_numbers (numbers : (Json.object config).NumbersValid) :
    (tree config).NumbersValid := by
  simpa [tree, u64Max] using numbers

def planned {config : List (String × Json)}
    (numbers : (Json.object config).NumbersValid) : WorkflowIR :=
  (WorkflowIR.deserialize (fun _ => none) ⟨tree config, tree_numbers numbers⟩).getD (planOf [] [])

theorem fromJson_planned (numbers : (Json.object config).NumbersValid)
    (read : (WorkflowIR.deserialize (fun _ => none) ⟨tree config, tree_numbers
      numbers⟩).isSome = true) (unbound : (planned numbers).nodes.any (fun node =>
      node.selectedModel.isSome) = false)
    (valid : (planned numbers).validate = []) :
    WorkflowIR.fromJson (fun _ => none) (tree config).compact = .ok (planned numbers) := by
  have found : (JsonTree.read (tree config).compact).bind
      (WorkflowIR.deserialize (fun _ => none)) = some (planned numbers) := by
    rw [JsonTree.read_compact (tree_numbers numbers), Option.bind_some]
    obtain ⟨ir, same⟩ := Option.isSome_iff_exists.mp read
    rw [planned, same, Option.getD_some]
  unfold WorkflowIR.fromJson
  simp [found, unbound, valid]

theorem unlisted_numbers : (Json.object unlisted).NumbersValid := by
  simp [unlisted]

theorem listed_numbers : (Json.object listed).NumbersValid := by
  simp [listed]

def options : CompilerOptions :=
  { sampleOptions with externals := externals }

def graph (ir : WorkflowIR) : ExecutionGraph :=
  compiledGraph options (ir.toTypes externals)

theorem unlisted_provided :
    ∃ types graph, WorkflowIR.fromJson (fun _ => none) (tree unlisted).compact =
        .ok (planned unlisted_numbers) ∧
      workflowToTypes options.externals (planned unlisted_numbers) = .ok types ∧
      compile options types = .ok graph ∧ graph.NamesModel options.fastModel ∧
      ∀ model, graph.NamesModel model → options.Provides model := by
  have accepted := fromJson_planned unlisted_numbers (by decide)
    (by decide) (by decide)
  have valid := (WorkflowIR.fromJson_ok accepted).2
  have converted := workflowToTypes_of_valid options.externals valid
  have compiled : compile options ((planned unlisted_numbers).toTypes
      externals) = .ok (graph (planned unlisted_numbers)) := compile_eq_ok (by decide)
  refine ⟨_, _, accepted, converted, compiled, ?_, (named_models_iff
    (fun _ => none) _ _ accepted options _ converted _ compiled).mpr ?_⟩
  · have named : (graph (planned unlisted_numbers)).nodes.map
        ExecutionNode.model = [options.fastModel] := by decide
    obtain ⟨root, member, same⟩ := mem_map.mp (named.symm ▸ mem_singleton_self options.fastModel)
    exact ⟨root, member, root, .self, same⟩
  · intro node inside _ _ model named
    have none : ∀ node, node ∈ (planned unlisted_numbers).nodes →
        StrategyExpansion.listedMembers node.config.get = [] := by
      decide
    rw [none node inside] at named
    cases named

/-- The plan is accepted, and the graph calls the model that it names. -/
theorem listed_not_provided :
    ¬ ∀ (checkedFromUsd : String → Option Nat) (text : String)
        (ir : WorkflowIR) (options : CompilerOptions)
        (types : FusionRouter.WorkflowIR) (graph : ExecutionGraph),
      WorkflowIR.fromJson checkedFromUsd text = .ok ir →
      workflowToTypes options.externals ir = .ok types → compile options types = .ok graph →
      ∀ model, graph.NamesModel model → options.Provides model := by
  intro law
  have accepted := fromJson_planned listed_numbers (by decide)
    (by decide) (by decide)
  have valid := (WorkflowIR.fromJson_ok accepted).2
  have converted := workflowToTypes_of_valid options.externals valid
  have compiled : compile options ((planned listed_numbers).toTypes
      externals) = .ok (graph (planned listed_numbers)) := compile_eq_ok (by decide)
  have members : (graph (planned listed_numbers)).nodes.flatMap (fun root =>
      root.subgraph.toList.flatMap (fun subgraph => subgraph.nodes.map ExecutionNode.model)) =
          ["o1-pro", "gpt-4o-mini"] := by decide
  have first : "o1-pro" ∈ ["o1-pro", "gpt-4o-mini"] := mem_cons_self
  rw [← members] at first
  obtain ⟨root, member, inside⟩ := mem_flatMap.mp first
  obtain ⟨subgraph, attached, named⟩ := mem_flatMap.mp inside
  obtain ⟨inner, within, same⟩ := mem_map.mp named
  have provided := law _ _ _ options _ _ accepted converted compiled "o1-pro"
    ⟨root, member, inner, .member .self (Option.mem_toList.mp attached) within, same⟩
  revert provided
  unfold CompilerOptions.Provides
  decide

end ProviderFreeSample

end FusionIr

end FusionRouter
