import FusionRouter.Compiler.Compiled
import FusionRouter.Compiler.PolicyRules
import FusionRouter.Scheduler.DependencyOrder

/-!
# What a denial covers

A winning `Deny` rejects a workflow, and `Deny` wins over every other effect.
The rules are matched against one symbol of each client node: its capability
and only without one its model.  The models of a strategy expansion are those
of the node, except for the members a consensus lists.
-/

namespace FusionRouter

open ModelResolution PolicyCompiler
open PolicyPrecedence (patternMatches ruleMatches)

theorem PolicyCompiler.winningRule_deny (listed : rule ∈ policy.rules)
    (deny : rule.effect = .deny) (unconditional : rule.conditions = [])
    (hit : patternMatches rule.targetPattern (symbolKey node) = true) :
    ∃ winner, winningRule externals policy node = some winner ∧ winner.effect = .deny := by
  have matching : ruleMatches externals (symbolKey node)
      (facts externals node) rule = true := by
    simp [ruleMatches, hit, unconditional]
  rcases PolicyPrecedence.evaluateMatchingRule_cases externals policy
    (symbolKey node) (facts externals node) with ⟨-, none⟩ | ⟨winner, -, wins, -, above⟩
  · simp [none rule listed] at matching
  · refine ⟨winner, wins, ?_⟩
    have high := PolicyPrecedence.keyLe_iff.mp (above rule listed matching)
    cases effect : winner.effect with
    | deny => rfl
    | approval | allow =>
      simp [effect, deny, PolicyPrecedence.effectRank] at high

namespace StrategyExpansion

def listedMembers (config : Table String Json) : List String :=
  (((config "members").bind Json.asArray).getD []).filterMap Json.asStr

/-- A child has the model of its parent, or one that a consensus lists. -/
theorem Child.model (child : Child node member) :
    member.model = node.model ∨
      node.strategy = .consensus ∧ member.model ∈ listedMembers node.config := by
  cases child with
  | copy => exact Or.inl rfl
  | generator id consensus listed =>
    unfold consensusMembers at listed
    dsimp only at listed
    split at listed
    · exact Or.inl (List.eq_of_mem_replicate listed)
    · exact Or.inr ⟨consensus, List.mem_of_mem_take listed⟩

end StrategyExpansion

/-- What an unconditional denial rules out in a compiled graph: a client node
whose symbol it matches, and the model of every client node without a
capability, in the graph and in subgraphs, up to the members a consensus
lists. -/
theorem denied_models_absent (options : CompilerOptions) (policy : PolicyIR)
    (held : options.policy = some policy) (ir : WorkflowIR)
    (graph : ExecutionGraph) (compiled : compile options ir = .ok graph)
    (rule : PolicyRule) (listed : rule ∈ policy.rules)
    (deny : rule.effect = .deny) (unconditional : rule.conditions = [])
    (node : ExecutionNode) (member : node ∈ graph.nodes) :
    (node.kind = .gate ∧ node.model = "policy.approval_gate" ∧ node.subgraph = none) ∨
    ∃ client, client ∈ ir.nodes ∧ node = Lowering.lowerNode options.externals Table.empty
        (ModelResolution.resolve options.fastModel client) ∧
      patternMatches rule.targetPattern
        (PolicyCompiler.symbolKey (ModelResolution.resolve options.fastModel client)) = false ∧
      (PolicyCompiler.capability client = none →
        (ModelResolution.resolve options.fastModel client).model ≠ none →
          patternMatches rule.targetPattern node.model = false ∧
            ∀ subgraph, node.subgraph = some subgraph → ∀ inner, inner ∈ subgraph.nodes →
                patternMatches rule.targetPattern inner.model = false ∨
                  node.strategy = .consensus ∧ inner.model ∈
                      StrategyExpansion.listedMembers node.config) := by
  obtain ⟨live, final, stages⟩ := compile_stages compiled
  rw [stages.lowered] at member
  obtain ⟨before, inside, rfl⟩ := List.mem_map.mp member
  rcases stages.node_origin inside with ⟨client, known, rfl, kept⟩ | ⟨target, -, rfl⟩
  · refine Or.inr ⟨client, known, rfl, ?_⟩
    have missed : patternMatches rule.targetPattern (symbolKey
          (resolve options.fastModel client)) = false := by
      by_contra hit
      obtain ⟨winner, wins, denied⟩ := winningRule_deny listed
        deny unconditional (by simpa using hit)
      exact stages.undenied held kept wins denied
    refine ⟨missed, ?_⟩
    intro unnamed modelled
    have model : symbolKey (resolve options.fastModel client) = (Lowering.bareNode
          (resolve options.fastModel client)).model := by
      obtain ⟨name, some⟩ := Option.ne_none_iff_exists'.mp modelled
      have capability : capability (resolve options.fastModel client) = capability client := by
        unfold resolve
        split <;> rfl
      simp [symbolKey, capability, unnamed, Lowering.bareNode, some]
    rw [model] at missed
    refine ⟨missed, ?_⟩
    intro subgraph attached inner present
    have child := StrategyExpansion.expandedSubgraph_children attached present
    refine child.model.imp_left ?_
    intro same
    rw [same]
    exact missed
  · exact Or.inl ⟨rfl, rfl, rfl⟩

namespace DenySample

def rule : PolicyRule :=
  { ruleId := "no-openai"
    targetPattern := "openai/*"
    priority := 1
    effect := .deny
    conditions := [] }

def options : CompilerOptions :=
  { sampleOptions with
    externals := Externals.sample sampleIds
    policy := some ⟨[rule]⟩ }

def node (model : String) (strategy : StrategyKind) (key : String) (value : Json) : IRNode :=
  { id := 1
    kind := .generate
    strategy := strategy
    model := some model
    config := fun other => if other = key then some value else none }

def models (ir : WorkflowIR) : Option (List (String × List String)) :=
  match compile options ir with
  | .error _ => none
  | .ok graph => some (graph.nodes.map (fun node =>
    (node.model, ((node.subgraph.map ExecutionSubgraph.nodes).getD []).map ExecutionNode.model)))

def reflecting : WorkflowIR :=
  workflow [node "anthropic/claude-sonnet-4" .reflection "prompt" .null] []

/-- Neither a node that reflects nor its generator and reviewer carry a model
of the denied vendor. -/
theorem reflection_undenied :
    (models reflecting).isSome = true ∧ ∀ node, node ∈ (compiledGraph options reflecting).nodes →
        ∃ subgraph, node.subgraph = some subgraph ∧ ∀ inner, inner ∈ subgraph.nodes →
            patternMatches "openai/*" inner.model = false := by
  refine ⟨by decide, ?_⟩
  intro node member
  have plain : ∀ node, node ∈ (compiledGraph options reflecting).nodes →
      node.subgraph.isSome = true ∧ node.strategy = .reflection := by
    decide
  obtain ⟨expanded, strategy⟩ := plain node member
  obtain ⟨subgraph, attached⟩ := Option.isSome_iff_exists.mp expanded
  refine ⟨subgraph, attached, ?_⟩
  intro inner inside
  rcases denied_models_absent options ⟨[rule]⟩ rfl reflecting _
    (compile_eq_ok (by decide)) rule List.mem_cons_self rfl rfl node
    member with ⟨-, -, bare⟩ | ⟨client, known, -, -, absent⟩
  · rw [bare] at attached
    cases attached
  · obtain rfl := List.mem_singleton.mp known
    rcases (absent (by decide) (by decide)).2 subgraph attached inner inside
      with missed | ⟨consensus, -⟩
    · exact missed
    · rw [strategy] at consensus
      cases consensus

/-- The members that a consensus lists are not looked at. -/
example : models (workflow [node "anthropic/claude-sonnet-4" .consensus
    "members" (.array [.string "openai/gpt-4o"])] []) =
      some [("anthropic/claude-sonnet-4",
        ["openai/gpt-4o", "anthropic/claude-sonnet-4"])] := by
  decide

def shadowing : WorkflowIR :=
  workflow [node "openai/gpt-4o" .single "capability" (.string "chat")] []

/-- A node that names a capability is judged by it, and keeps its model. -/
theorem capability_shadows_model :
    ¬ ∀ (options : CompilerOptions) (policy : PolicyIR), options.policy = some policy →
        ∀ (ir : WorkflowIR) (graph : ExecutionGraph), compile options ir = .ok graph →
            ∀ rule, rule ∈ policy.rules → rule.effect = .deny →
              rule.conditions = [] → ∀ node, node ∈ graph.nodes →
                patternMatches rule.targetPattern node.model = false ∧
                  ∀ subgraph, node.subgraph = some subgraph → ∀ inner, inner ∈ subgraph.nodes →
                      patternMatches rule.targetPattern inner.model = false := by
  intro always
  have missed := always options ⟨[rule]⟩ rfl shadowing _
    (compile_eq_ok (by decide)) rule List.mem_cons_self rfl rfl
  have carried : ∃ node, node ∈ (compiledGraph options shadowing).nodes ∧
      patternMatches rule.targetPattern node.model = true := by
    decide
  obtain ⟨node, member, hit⟩ := carried
  rw [(missed node member).1] at hit
  cases hit

end DenySample

end FusionRouter
