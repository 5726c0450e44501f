import FusionRouter.Compiler.Compiled
import FusionRouter.Runtime.Effects
import FusionRouter.Scheduler.DependencyOrder

/-!
# Tools the operator permits

The host narrows the allowlist of the node it is handed.  A node that was
expanded into a subgraph is executed through its sub-nodes, and these carry a
copy of the config that is not narrowed.
-/

namespace FusionRouter

open Trace StrategyExpansion

theorem Within.eq_of_bare (bare : root.subgraph = none)
    (within : Within root node) : node = root := by
  induction within with
  | self => rfl
  | member _ attached _ ih =>
    rw [ih, bare] at attached
    cases attached

theorem Within.of_expanded {parent root node :
    ExecutionNode} (expanded : expandedSubgraph externals Table.empty parent = some subgraph)
    (attached : root.subgraph = some subgraph) (within : Within root node) :
    node = root ∨ Child parent node := by
  induction within with
  | self => exact Or.inl rfl
  | member _ held inside ih =>
    rcases ih with rfl | child
    · rw [attached] at held
      cases held
      exact Or.inr (expandedSubgraph_children expanded inside)
    · rw [child.subgraph] at held
      cases held

namespace DefaultExecutor

variable (executor : DefaultExecutor)

/-- The answers of the host to the calls of a run. -/
def answers (runtime : RuntimeExternals) (environments : Nat → Environment) :
    Executor :=
  Execution.answers (executor.executeNode runtime) environments

def effects (runtime : RuntimeExternals) (environments : Nat → Environment)
    (call : Call) : List Effect :=
  Execution.effects (executor.executeNode runtime) environments call

theorem sanitize_subgraph (node : ExecutionNode) :
    (executor.sanitizeToolAllowlist node).subgraph = node.subgraph := by
  unfold sanitizeToolAllowlist
  split
  · rfl
  · dsimp only
    split <;> rfl

/-- Everything a narrowed allowlist names is permitted. -/
theorem keeps_of_sanitized (listed : name ∈ (executor.sanitizeToolAllowlist node).toolAllowlist) :
    executor.keeps (.string name) = true := by
  have entry : ∀ items : List Json, (∀ item ∈ items,
      executor.keeps item = true) → name ∈ items.filterMap Json.asStr →
        executor.keeps (.string name) = true := by
    intro items kept member
    obtain ⟨item, inside, text⟩ := List.mem_filterMap.mp member
    cases item <;> cases text
    exact kept _ inside
  unfold sanitizeToolAllowlist at listed
  split at listed
  next missing => simp [ExecutionNode.toolAllowlist, missing] at listed
  next names found =>
    dsimp only at listed
    split at listed
    next same =>
      have all := List.length_filter_eq_length_iff.mp same
      refine entry names all ?_
      simpa only [ExecutionNode.toolAllowlist, found] using listed
    · refine entry (names.filter executor.keeps)
        (fun item inside => (List.mem_filter.mp inside).2) ?_
      simpa [ExecutionNode.toolAllowlist, Table.insert_same, Json.asArray] using listed

theorem emits_tools (runtime : RuntimeExternals) (environment : Environment)
    (node : ExecutionNode) (ctx : NodeExecContext) :
    Emits (fun effect => ∀ id name arguments,
      effect = .tool id name arguments → executor.allowAutoExec = true ∧
        executor.registered name = true ∧ ∃ leaf,
          Within (executor.sanitizeToolAllowlist node) leaf ∧
            leaf.subgraph = none ∧ name ∈ leaf.toolAllowlist)
      (executor.executeNode runtime environment node ctx) := by
  refine Emits.bind (ProviderExecutor.emits_executeNode _ ?_ ?_ ctx) (fun _ => Emits.pure _)
  · intro leaf within bare ctx
    refine (ProviderExecutor.emits_executeLeaf ctx).mono ?_
    rintro _ (_ | ⟨name, arguments, enabled, listed, known⟩ | _ | _) id other given same
    all_goals cases same
    refine ⟨enabled, ?_, leaf, within, bare, listed⟩
    unfold registered
    change name ∈ executor.toolRegistry.getD ∅ at known
    cases held : executor.toolRegistry with
    | none => simp [held] at known
    | some names => simpa [held] using known
  · intro outer _ _ id name arguments same
    cases same

/-- The node is not expanded, or what its allowlist names is permitted as far
as it is registered.  Without auto-execution no tool is called. -/
def Clean (permitted : List String) (node : ExecutionNode) : Prop :=
  executor.allowAutoExec = true → node.subgraph ≠ none →
    ∀ name, name ∈ node.toolAllowlist → executor.registered name = true → name ∈ permitted

end DefaultExecutor

/-- In a run in which every called node is clean, only permitted tools are
called. -/
theorem tools_permitted (options : CompilerOptions) (ir : WorkflowIR)
    (base : RunSetup) (compiled : compile options ir = .ok base.graph)
    (executor : DefaultExecutor) (permitted : List String)
    (restricted : executor.permittedTools = some permitted)
    (runtime : RuntimeExternals) (environments : Nat → Environment)
    (envelope : Option BudgetEnvelope)
    (clean : ∀ call, Dispatches { base with executor := executor.answers runtime environments }
      envelope call → executor.Clean permitted call.node) (call : Call) (dispatched : Dispatches
      { base with executor := executor.answers runtime environments }
      envelope call) (id : Uuid) (name : String) (arguments : Json)
    (executed : .tool id name arguments ∈ executor.effects runtime environments call) :
    executor.registered name = true ∧ name ∈ permitted := by
  obtain ⟨enabled, known, leaf, within, bare, listed⟩ :=
    (executor.emits_tools runtime (environments call.number) call.node
      call.context).run ⟨0, 0, 0, 0⟩ _ executed id name arguments rfl
  have unchanged := executor.sanitize_subgraph call.node
  obtain ⟨parent, sameConfig, expanded⟩ : ∃ parent : ExecutionNode,
      parent.config = call.node.config ∧ call.node.subgraph =
        expandedSubgraph options.externals Table.empty parent := by
    obtain ⟨live, final, stages⟩ := compile_stages compiled
    have member := dispatched.mem_nodes
    rw [stages.lowered] at member
    obtain ⟨original, -, same⟩ := List.mem_map.mp member
    exact ⟨Lowering.bareNode original, same ▸ rfl, same ▸ rfl⟩
  cases attached : call.node.subgraph with
  | none =>
    rw [within.eq_of_bare (unchanged.trans attached)] at listed
    simpa [DefaultExecutor.keeps, Json.asStr, restricted] using executor.keeps_of_sanitized listed
  | some subgraph =>
    refine ⟨known, clean call dispatched enabled (by simp [attached]) name ?_ known⟩
    rcases within.of_expanded (expanded.symm.trans attached)
      (unchanged.trans attached) with rfl | child
    · rw [unchanged, attached] at bare
      cases bare
    · unfold ExecutionNode.toolAllowlist at listed ⊢
      rwa [child.config, sameConfig] at listed

namespace ToolSample

def runtime : RuntimeExternals :=
  .sample (Externals.sample sampleIds) [0x6de76face6605c7c8fb47f7b435f5417]

/-- A client's node that lists both tools. -/
def node (strategy : StrategyKind) : IRNode :=
  { id := 1
    kind := .generate
    strategy := strategy
    model := some "gpt-4o"
    config := fun key =>
      if key = "tool_allowlist" then
        some (.array [.string "search", .string "shell"])
      else none }

def options : CompilerOptions :=
  { sampleOptions with externals := Externals.sample sampleIds }

/-- The operator registered two tools and permits one. -/
def operator : DefaultExecutor :=
  { toolRegistry := some {"search", "shell"}
    allowAutoExec := true
    permittedTools := some ["search"]
    pricing := none }

/-- A provider that first asks for both tools. -/
def environment : Environment :=
  { Environment.sample with
    reply := fun number _ => .ok
      { content := "done"
        usage := none
        toolCalls := if number = 0 then
            [⟨"call_1", "search", .null⟩, ⟨"call_2", "shell", .null⟩]
          else []
        toolResults := [] } }

def setup (strategy : StrategyKind) : RunSetup :=
  sampleSetup (compiledGraph options (workflow [node strategy] []))
    (operator.answers runtime (fun _ => environment))

/-- The names of the tools the first batch of a run executes. -/
def executedTools (strategy : StrategyKind) : Option (List String) :=
  match RunState.dispatch (setup strategy) (((setup strategy).initial none).batch (setup strategy))
      ((setup strategy).initial none).entered with
  | .error _ => none
  | .ok (calls, _) => some (calls.flatMap (fun call =>
    (operator.effects runtime (fun _ => environment) call).filterMap
      (fun effect =>
        match effect with
        | .tool _ name _ => some name
        | _ => none)))

theorem executed (strategy : StrategyKind) (names : List String) (name : String)
    (proceeds : Proceeds (setup strategy) ((setup strategy).initial none))
    (first : executedTools strategy = some names) (member : name ∈ names) :
    ∃ call, Dispatches (setup strategy) none call ∧ ∃ id arguments, .tool id name arguments ∈
        operator.effects runtime (fun _ => environment) call := by
  unfold executedTools at first
  split at first
  · cases first
  next calls dispatched started =>
    cases first
    obtain ⟨call, inside, listed⟩ := List.mem_flatMap.mp member
    obtain ⟨effect, present, named⟩ := List.mem_filterMap.mp listed
    refine ⟨call, ⟨_, calls, dispatched, .refl, proceeds, started, inside⟩, ?_⟩
    cases effect with
    | tool id other arguments =>
      cases named
      exact ⟨id, arguments, present⟩
    | _ => cases named

/-- The node is handed over as it is, and `shell` is dropped from its list. -/
theorem single_node_permitted :
    ∃ call, Dispatches (setup .single) none call ∧ ∃ id arguments, .tool id "search" arguments ∈
        operator.effects runtime (fun _ => environment) call ∧
      operator.registered "search" = true ∧ "search" ∈ ["search"] := by
  obtain ⟨call, dispatched, id, arguments, present⟩ := executed .single ["search"] "search"
      ⟨by decide, by decide⟩ (by decide) (by decide)
  refine ⟨call, dispatched, id, arguments, present, ?_⟩
  refine tools_permitted options (workflow [node .single] []) (setup .single)
    (compile_eq_ok (by decide)) operator ["search"] rfl runtime
    (fun _ => environment) none ?_ call dispatched id "search" arguments present
  intro other made _ attached
  have bare : ∀ node, node ∈ (setup .single).graph.nodes → node.subgraph.isNone = true := by
    decide
  have none := bare other.node made.mem_nodes
  exact (attached (by simpa using none)).elim

/-- The same node with the reflection strategy executes `shell`. -/
theorem subgraph_executes_unpermitted :
    ¬ ∀ (options : CompilerOptions) (ir : WorkflowIR) (base : RunSetup),
      compile options ir = .ok base.graph →
        ∀ (executor : DefaultExecutor) (permitted : List String),
          executor.permittedTools = some permitted →
            ∀ (runtime : RuntimeExternals) (environments : Nat → Environment)
              (envelope : Option BudgetEnvelope) (call : Call), Dispatches
                { base with executor := executor.answers runtime environments }
                envelope call → ∀ id name arguments, .tool id name arguments ∈
                    executor.effects runtime environments call →
                    executor.registered name = true ∧ name ∈ permitted := by
  intro always
  obtain ⟨call, dispatched, id, arguments, present⟩ :=
    executed .reflection ["search", "shell"] "shell"
      ⟨by decide +kernel, by decide +kernel⟩ (by decide +kernel) (by decide)
  have permitted := always options (workflow [node .reflection] [])
    (setup .reflection) (compile_eq_ok (by decide +kernel)) operator ["search"]
    rfl runtime (fun _ => environment) none call dispatched id "shell" arguments present
  revert permitted
  decide

end ToolSample

end FusionRouter
