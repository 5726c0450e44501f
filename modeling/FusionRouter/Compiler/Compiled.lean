import FusionRouter.Compiler.Pipeline

/-!
# What compilation returns

`compile_stages` takes a successful compilation apart, pass by pass, and
`guardNodes_ok` says what the policy pass adds.  Whatever is known about the
nodes and the edges of a compiled graph is read off these two.
-/

namespace FusionRouter

open List hiding all

theorem runPasses_cons {pass : CompilerPass}
    (accepted : runPasses (pass :: passes) ir = .ok final) :
    ∃ next, pass ir = .ok next ∧ runPasses passes next = .ok final := by
  unfold runPasses at accepted
  split at accepted
  · cases accepted
  next next passed => exact ⟨next, passed, accepted⟩

theorem ConstraintValidation.apply_ok (accepted : apply ir = .ok out) :
    out = ir := by
  unfold apply at accepted
  split at accepted
  · cases accepted
  · split at accepted
    · cases accepted
    · exact (Except.ok.inj accepted).symm

namespace StrategyLowering

theorem apply_ok (accepted : apply registered ir = .ok out) : out = ir := by
  unfold apply at accepted
  split at accepted
  · cases accepted
  · exact (Except.ok.inj accepted).symm

end StrategyLowering

namespace BudgetOptimisation

theorem apply_ok (accepted : apply canAfford ir = .ok out) : out = ir := by
  unfold apply at accepted
  split at accepted
  · exact (Except.ok.inj accepted).symm
  · cases accepted

end BudgetOptimisation

theorem ModelResolution.resolve_id (fastModel : String) (node : IRNode) :
    (resolve fastModel node).id = node.id := by
  unfold resolve
  split <;> rfl

theorem ModelResolution.resolve_kind (fastModel : String) (node : IRNode) :
    (resolve fastModel node).kind = node.kind := by
  unfold resolve
  split <;> rfl

namespace DeadNodeElimination

/-- The pass removes ids, with their nodes and the edges that touch them. -/
theorem apply_ok (accepted : apply externals ir = .ok out) :
    ∃ live : Uuid → Prop, (∀ node, node ∈ out.nodes ↔ node ∈ ir.nodes ∧ live node.id) ∧
      ∀ edge, edge ∈ out.edges ↔ edge ∈ ir.edges ∧ live edge.source ∧ live edge.target := by
  have unchanged : out = ir → ∃ live : Uuid → Prop,
      (∀ node, node ∈ out.nodes ↔ node ∈ ir.nodes ∧ live node.id) ∧ ∀ edge, edge ∈ out.edges ↔
        edge ∈ ir.edges ∧ live edge.source ∧ live edge.target := by
    rintro rfl
    exact ⟨fun _ => True, by simp, by simp⟩
  unfold apply at accepted
  split at accepted
  · exact unchanged (Except.ok.inj accepted).symm
  · split at accepted
    · exact unchanged (Except.ok.inj accepted).symm
    · split at accepted
      · exact unchanged (Except.ok.inj accepted).symm
      · cases accepted
        exact ⟨fun id => id ∈ reachable externals ir, by simp, by simp⟩

end DeadNodeElimination

namespace PolicyCompiler

/-- A rule asks for an approval of the node, and no gate leads into it. -/
def NeedsGate (externals : Externals) (policy : PolicyIR)
    (nodes : List IRNode) (edges : List IREdge) (node : IRNode) : Prop :=
  (∃ rule, winningRule externals policy node = some rule ∧ rule.effect = .approval) ∧
    alreadyGuarded nodes edges node.id = false

theorem alreadyGuarded_append {id : Uuid} :
    alreadyGuarded nodes (edges ++ more) id =
      (alreadyGuarded nodes edges id || alreadyGuarded nodes more id) :=
  any_append

/-- What the loop over the nodes leaves behind: no node is denied, gates go to
nodes that need one, and every node that needs an approval has a gate of the
workflow in front of it or gets one of its own. -/
structure Guards (externals : Externals) (policy : PolicyIR)
    (nodes rest : List IRNode) (edges later : List IREdge) (gates all : List IRNode) : Prop where
  undenied : ∀ node, node ∈ rest → ∀ rule,
    winningRule externals policy node = some rule → rule.effect ≠ .deny
  added : ∃ guarded : List IRNode, guarded.Sublist rest ∧
    later = edges ++ guarded.map (fun node => gateEdge externals node.id) ∧
    all = gates ++ guarded.map (fun node => gateNode externals node.id) ∧
    (∀ node ∈ guarded, NeedsGate externals policy nodes edges node) ∧
    ∀ node, node ∈ rest → ∀ rule, winningRule externals policy node = some rule →
        rule.effect = .approval → alreadyGuarded nodes later node.id = true ∨ node ∈ guarded

namespace Guards

theorem keep (guards : Guards externals policy nodes rest edges later gates all)
    (allowed : ∀ rule, winningRule externals policy node = some rule → rule.effect ≠ .deny)
    (covered : ∀ rule, winningRule externals policy node = some rule →
      rule.effect = .approval → alreadyGuarded nodes edges node.id = true) :
    Guards externals policy nodes (node :: rest) edges later gates all := by
  obtain ⟨guarded, sublist, rfl, rfl, needed, approved⟩ := guards.added
  refine ⟨?_, guarded, sublist.cons node, rfl, rfl, needed, ?_⟩
  · exact forall_mem_cons.mpr ⟨allowed, guards.undenied⟩
  · intro other member rule wins approval
    rcases mem_cons.mp member with rfl | later
    · have before := covered rule wins approval
      rw [alreadyGuarded_append, before]
      exact Or.inl rfl
    · exact approved other later rule wins approval

theorem guard (guards : Guards externals policy nodes rest
      (edges ++ [gateEdge externals node.id]) later (gates ++ [gateNode externals node.id]) all)
    (allowed : ∀ rule, winningRule externals policy node = some rule → rule.effect ≠ .deny)
    (needs : NeedsGate externals policy nodes edges node) :
    Guards externals policy nodes (node :: rest) edges later gates all := by
  obtain ⟨guarded, sublist, rfl, rfl, needed, approved⟩ := guards.added
  refine ⟨?_, node :: guarded, sublist.cons_cons node, by simp, by simp, ?_, ?_⟩
  · exact forall_mem_cons.mpr ⟨allowed, guards.undenied⟩
  · refine forall_mem_cons.mpr ⟨needs, fun other member => ⟨(needed other member).1, ?_⟩⟩
    have uncovered := (needed other member).2
    rw [alreadyGuarded_append, Bool.or_eq_false_iff] at uncovered
    exact uncovered.1
  · intro other member rule wins approval
    rcases mem_cons.mp member with rfl | later
    · exact Or.inr mem_cons_self
    · exact (approved other later rule wins approval).imp_right (mem_cons_of_mem _)

end Guards

theorem guardNodes_ok
    (accepted : guardNodes externals policy nodes rest edges gates = .ok (later, all)) :
    Guards externals policy nodes rest edges later gates all := by
  fun_induction guardNodes externals policy nodes rest edges gates with
  | case1 =>
    cases accepted
    exact ⟨by simp, [], by simp⟩
  | case2 edges gates node rest none ih =>
    refine (ih accepted).keep ?_ ?_ <;> simp [none]
  | case3 => cases accepted
  | case4 edges gates node rest rule wins approval covered ih =>
    refine (ih accepted).keep ?_ (fun _ _ _ => covered)
    simp [wins, approval]
  | case5 edges gates node rest rule wins approval uncovered ih =>
    refine (ih accepted).guard ?_ ⟨⟨rule, wins, approval⟩, Bool.eq_false_iff.mpr uncovered⟩
    simp [wins, approval]
  | case6 edges gates node rest rule wins allow ih =>
    refine (ih accepted).keep ?_ ?_ <;> simp [wins, allow]

end PolicyCompiler

/-- The workflow that the policy pass is given. -/
def CompilerOptions.resolved (options : CompilerOptions) (ir : WorkflowIR) :
    WorkflowIR :=
  { ir with
    nodes := ir.nodes.map (ModelResolution.resolve options.fastModel) }

/-- What the policy pass made of a workflow, if there is a policy. -/
inductive PolicyStage (options : CompilerOptions) (before : WorkflowIR) :
    WorkflowIR → Prop where
  | without (none : options.policy = none) : PolicyStage options before before
  | guarded (policy : PolicyIR) (later : List IREdge) (gates : List IRNode)
      (some : options.policy = some policy)
      (guards : PolicyCompiler.Guards options.externals policy before.nodes
        before.nodes before.edges later [] gates) :
      PolicyStage options before
        { before with
          nodes := before.nodes ++ gates
          edges := later }

structure Stages (options : CompilerOptions) (ir live final : WorkflowIR)
    (graph : ExecutionGraph) : Prop where
  validated : ControlFlowValidation.apply options.externals ir = .ok ir
  strategies : StrategyLowering.apply ∅ ir = .ok ir
  pruned : DeadNodeElimination.apply options.externals ir = .ok live
  policy : PolicyStage options (options.resolved live) final
  lowered : graph = Lowering.lowerToGraph options.externals Table.empty final

theorem compile_stages (compiled : compile options ir = .ok graph) :
    ∃ live final, Stages options ir live final graph := by
  unfold compile at compiled
  split at compiled
  · cases compiled
  next final accepted =>
    cases compiled
    obtain ⟨_, constraints, second⟩ := runPasses_cons accepted
    obtain rfl := ConstraintValidation.apply_ok constraints
    obtain ⟨_, validated, third⟩ := runPasses_cons second
    obtain ⟨rfl, -⟩ := (ControlFlowValidation.apply_ok_iff _ _ _).mp validated
    obtain ⟨_, strategies, fourth⟩ := runPasses_cons third
    obtain rfl := StrategyLowering.apply_ok strategies
    obtain ⟨live, pruned, fifth⟩ := runPasses_cons fourth
    obtain ⟨resolved, models, sixth⟩ := runPasses_cons fifth
    obtain ⟨_, budget, last⟩ := runPasses_cons sixth
    obtain rfl := BudgetOptimisation.apply_ok budget
    cases models
    refine ⟨live, final, validated, strategies, pruned, ?_, rfl⟩
    cases held : options.policy with
    | none =>
      rw [held] at last
      cases last
      exact .without held
    | some policy =>
      rw [held] at last
      obtain ⟨next, guarded, done⟩ := runPasses_cons last
      cases done
      unfold PolicyCompiler.apply at guarded
      split at guarded
      · cases guarded
      next later gates passed =>
        cases guarded
        exact .guarded policy later gates held (PolicyCompiler.guardNodes_ok passed)

namespace Stages

variable (stages : Stages options ir live final graph)

include stages

/-- Every node before lowering is a node of the client with its model
resolved, or a gate of the policy. -/
theorem node_origin (member : node ∈ final.nodes) :
    (∃ original, original ∈ ir.nodes ∧ node = ModelResolution.resolve options.fastModel original ∧
      node ∈ (options.resolved live).nodes) ∨ ∃ original, original ∈ ir.nodes ∧
      node = PolicyCompiler.gateNode options.externals original.id := by
  obtain ⟨alive, nodes, -⟩ := DeadNodeElimination.apply_ok stages.pruned
  have kept : ∀ node ∈ (options.resolved live).nodes, ∃ original, original ∈ ir.nodes ∧
        node = ModelResolution.resolve options.fastModel original ∧
        node ∈ (options.resolved live).nodes := by
    intro node member
    obtain ⟨original, inside, rfl⟩ := mem_map.mp member
    exact ⟨original, ((nodes original).mp inside).1, rfl, member⟩
  cases stages.policy with
  | without => exact Or.inl (kept node member)
  | guarded policy later gates _ guards =>
    rcases mem_append.mp member with old | gate
    · exact Or.inl (kept node old)
    · obtain ⟨guarded, sublist, -, rfl, -⟩ := guards.added
      rw [nil_append] at gate
      obtain ⟨target, inside, rfl⟩ := mem_map.mp gate
      obtain ⟨original, known, rfl, -⟩ := kept target (sublist.subset inside)
      exact Or.inr ⟨original, known, by rw [ModelResolution.resolve_id]⟩

theorem undenied {policy : PolicyIR} (held : options.policy = some policy)
    (member : node ∈ (options.resolved live).nodes)
    (wins : PolicyCompiler.winningRule options.externals policy node =
      some rule) : rule.effect ≠ .deny := by
  cases stages.policy with
  | without none =>
    rw [none] at held
    cases held
  | guarded other later gates present guards =>
    rw [present] at held
    cases held
    exact guards.undenied node member rule wins

theorem resolved_edge_known (member : edge ∈ (options.resolved live).edges) :
    edge.source ∈ (options.resolved live).nodes.map IRNode.id ∧
      edge.target ∈ (options.resolved live).nodes.map IRNode.id := by
  obtain ⟨-, endpoints, -⟩ := (ControlFlowValidation.apply_ok_iff _ _ _).mp stages.validated
  obtain ⟨alive, nodes, edges⟩ := DeadNodeElimination.apply_ok stages.pruned
  obtain ⟨inside, source, target⟩ := (edges edge).mp member
  obtain ⟨knownSource, knownTarget⟩ :=
    ControlFlowValidation.edgeError_eq_none_iff.mp (endpoints edge inside)
  have kept : ∀ id ∈ ir.nodes.map IRNode.id, alive id →
      id ∈ (options.resolved live).nodes.map IRNode.id := by
    intro id known living
    obtain ⟨node, present, rfl⟩ := mem_map.mp known
    refine mem_map.mpr ⟨ModelResolution.resolve options.fastModel node,
      mem_map.mpr ⟨node, (nodes node).mpr ⟨present, living⟩, rfl⟩, ?_⟩
    exact ModelResolution.resolve_id options.fastModel node
  exact ⟨kept _ knownSource source, kept _ knownTarget target⟩

theorem edge_known (member : edge ∈ final.edges) :
    edge.source ∈ final.nodes.map IRNode.id ∧ edge.target ∈ final.nodes.map IRNode.id := by
  cases stages.policy with
  | without => exact stages.resolved_edge_known member
  | guarded policy later gates _ guards =>
    obtain ⟨guarded, sublist, rfl, rfl, -⟩ := guards.added
    simp only [nil_append, map_append, mem_append]
    rcases mem_append.mp member with old | new
    · exact (stages.resolved_edge_known old).imp Or.inl Or.inl
    · obtain ⟨target, inside, rfl⟩ := mem_map.mp new
      refine ⟨Or.inr ?_, Or.inl ?_⟩
      · exact mem_map.mpr ⟨PolicyCompiler.gateNode options.externals
          target.id, mem_map.mpr ⟨target, inside, rfl⟩, rfl⟩
      · exact mem_map.mpr ⟨target, sublist.subset inside, rfl⟩

theorem graph_edge_known (member : edge ∈ graph.edges) :
    edge.source ∈ graph.nodes.map ExecutionNode.id ∧
      edge.target ∈ graph.nodes.map ExecutionNode.id := by
  rw [stages.lowered] at member ⊢
  obtain ⟨original, inside, rfl⟩ := mem_map.mp member
  have known := stages.edge_known inside
  simpa [Lowering.lowerToGraph, Lowering.lowerNode, Lowering.bareNode,
    Lowering.lowerEdge] using known

end Stages

end FusionRouter
