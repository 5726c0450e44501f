import FusionRouter.Compiler.Pipeline
import FusionRouter.Scheduler.WorkQueue

/-!
# Gating edges and cycles

Readiness waits for the edges that are not iteration back-edges.  The validator
leaves out edges by their condition, the queue by the kind of their target and
by reachability; the main result says when the two agree.
-/

namespace FusionRouter

open Relation List ControlFlowValidation

namespace ExecutionGraph

def Connected (graph : ExecutionGraph) (left right : Uuid) : Prop :=
  ∃ edge, edge ∈ graph.edges ∧ edge.source = left ∧ edge.target = right

variable {graph : ExecutionGraph}

theorem mem_outgoing : right ∈ graph.outgoing left ↔ graph.Connected left right := by
  simp only [outgoing, outgoingEdges, Connected, mem_map, mem_filter, decide_eq_true_eq, and_assoc]

theorem mem_incoming : left ∈ graph.incoming right ↔ graph.Connected left right := by
  simp only [incoming, incomingEdges, Connected, mem_map, mem_filter, decide_eq_true_eq, and_assoc]
  constructor
  · rintro ⟨edge, member, target, source⟩
    exact ⟨edge, member, source, target⟩
  · rintro ⟨edge, member, source, target⟩
    exact ⟨edge, member, target, source⟩

theorem mem_reachedFrom_iff (graph : ExecutionGraph) (start vertex : Uuid) :
    vertex ∈ graph.reachedFrom start ↔ TransGen graph.Connected start vertex := by
  have same : Worklist.Step graph.outgoing = graph.Connected := by
    funext left right
    exact propext mem_outgoing
  rw [← same]
  apply Worklist.mem_search_iff graph.outgoing (graph.edges.map ExecutionEdge.target).toFinset
  · intro left right step
    obtain ⟨edge, member, -, target⟩ := mem_outgoing.mp step
    exact mem_toFinset.mpr (mem_map.mpr ⟨edge, member, target⟩)
  · have bound := toFinset_card_le (graph.edges.map ExecutionEdge.target)
    rw [length_map] at bound
    omega

theorem mem_backEdges_iff :
    (left, right) ∈ graph.backEdges ↔ right ∈ graph.loopNodeIds ∧
        ∃ edge, edge ∈ graph.edges ∧ edge.source = left ∧
          edge.target = right ∧ (left = right ∨ TransGen graph.Connected right left ∨
            edge.condition = some "loop") := by
  simp only [backEdges, isBackEdge, mem_toFinset, mem_map,
    mem_filter, Bool.and_eq_true, Bool.or_eq_true, decide_eq_true_eq,
    mem_reachedFrom_iff, Prod.mk.injEq, or_assoc]
  constructor
  · rintro ⟨edge, ⟨member, head, reason⟩, rfl, rfl⟩
    exact ⟨head, edge, member, rfl, rfl, reason⟩
  · rintro ⟨head, edge, member, rfl, rfl, reason⟩
    exact ⟨edge, ⟨member, head, reason⟩, rfl, rfl⟩

end ExecutionGraph

/-- An edge that readiness of `right` waits for. -/
def QueueIndex.GatingEdge (index : QueueIndex) (left right : Uuid) : Prop :=
  ∃ edge, edge ∈ index.graph.edges ∧ index.gates edge = true ∧
    edge.source = left ∧ edge.target = right

theorem QueueIndex.gatingEdge_iff {index : QueueIndex} :
    index.GatingEdge left right ↔
      index.graph.Connected left right ∧ (left, right) ∉ index.backEdges := by
  simp only [GatingEdge, ExecutionGraph.Connected, gates, decide_eq_true_eq]
  constructor
  · rintro ⟨edge, member, gating, rfl, rfl⟩
    exact ⟨⟨edge, member, rfl, rfl⟩, gating⟩
  · rintro ⟨⟨edge, member, rfl, rfl⟩, gating⟩
    exact ⟨edge, member, gating, rfl, rfl⟩

namespace WorkflowIR

def loopIds (ir : WorkflowIR) : List Uuid :=
  (ir.nodes.filter (fun node => node.kind = .loop)).map IRNode.id

/-- A step along an edge that does not enter a loop head. -/
def StepAvoidingLoops (ir : WorkflowIR) (left right : Uuid) : Prop :=
  right ∉ ir.loopIds ∧ ∃ edge, edge ∈ ir.edges ∧ edge.source = left ∧ edge.target = right

/-- The edge lies on a cycle none of whose nodes is a loop head. -/
def ClosesLoopFreeCycle (ir : WorkflowIR) (edge : IREdge) : Prop :=
  edge.target ∉ ir.loopIds ∧ ReflTransGen ir.StepAvoidingLoops edge.target edge.source

end WorkflowIR

namespace Lowering

variable (externals : Externals)
  (customCompilers : Table String StrategyCompiler) (ir : WorkflowIR)

theorem mem_loopNodeIds_lowerToGraph (id : Uuid) :
    id ∈ (lowerToGraph externals customCompilers ir).loopNodeIds ↔ id ∈ ir.loopIds := by
  have kind : ∀ node : IRNode, lowerKind node.kind = .loop ↔ node.kind = .loop := by
    intro node
    cases node.kind <;> simp [lowerKind]
  simp only [ExecutionGraph.loopNodeIds, lowerToGraph, WorkflowIR.loopIds,
    mem_toFinset, mem_map, mem_filter, decide_eq_true_eq]
  constructor
  · rintro ⟨_, ⟨⟨node, member, rfl⟩, head⟩, rfl⟩
    exact ⟨node, ⟨member, (kind node).mp head⟩, rfl⟩
  · rintro ⟨node, ⟨member, head⟩, rfl⟩
    exact ⟨lowerNode externals customCompilers node,
      ⟨⟨node, member, rfl⟩, (kind node).mpr head⟩, rfl⟩

theorem connected_lowerToGraph {left right : Uuid} :
    (lowerToGraph externals customCompilers ir).Connected left right ↔
      ∃ edge, edge ∈ ir.edges ∧ edge.source = left ∧ edge.target = right := by
  simp [ExecutionGraph.Connected, lowerToGraph, lowerEdge]

theorem gatingEdge_of_stepAvoidingLoops (maxConcurrent : Nat)
    (left right : Uuid) (step : ir.StepAvoidingLoops left right) :
    (QueueIndex.new (lowerToGraph externals customCompilers ir)
      maxConcurrent).GatingEdge left right := by
  refine QueueIndex.gatingEdge_iff.mpr
    ⟨(connected_lowerToGraph externals customCompilers ir).mpr step.2, ?_⟩
  intro back
  obtain ⟨head, -⟩ := ExecutionGraph.mem_backEdges_iff.mp back
  exact step.1 ((mem_loopNodeIds_lowerToGraph externals customCompilers ir right).mp head)

theorem cycle_avoids_loops {maxConcurrent : Nat}
    (cycle : TransGen (QueueIndex.new (lowerToGraph externals customCompilers
      ir) maxConcurrent).GatingEdge vertex vertex) :
    TransGen ir.StepAvoidingLoops vertex vertex := by
  refine TransGen.mono ?_ _ _ (Digraph.transGen_onCycle cycle .refl)
  rintro left right ⟨gating, back⟩
  have walk : ReflTransGen (lowerToGraph externals customCompilers ir).Connected right left := by
    refine ReflTransGen.mono ?_ _ _ back
    intro start target edge
    exact (QueueIndex.gatingEdge_iff.mp edge).1
  refine ⟨?_, (connected_lowerToGraph externals customCompilers ir).mp
    (QueueIndex.gatingEdge_iff.mp gating).1⟩
  rw [← mem_loopNodeIds_lowerToGraph externals customCompilers]
  -- otherwise the edge would be a back-edge of the loop
  intro head
  obtain ⟨⟨edge, member, source, target⟩, notBack⟩ := QueueIndex.gatingEdge_iff.mp gating
  apply notBack
  refine ExecutionGraph.mem_backEdges_iff.mpr ⟨head, edge, member, source, target, ?_⟩
  rcases reflTransGen_iff_eq_or_transGen.mp walk with same | walk
  · exact Or.inl same
  · exact Or.inr (Or.inl walk)

end Lowering

/-- For a workflow the validator accepts, the gating edges of the lowered graph
are acyclic exactly when no edge marked `"loop"` closes a cycle outside of the
loop heads. -/
theorem gating_acyclic_iff (externals : Externals) (customCompilers : Table String StrategyCompiler)
    (ir accepted : WorkflowIR) (maxConcurrent : Nat)
    (validated : ControlFlowValidation.apply externals ir = .ok accepted) :
    Digraph.Acyclic (QueueIndex.new (Lowering.lowerToGraph externals customCompilers accepted)
        maxConcurrent).GatingEdge ↔ ∀ edge, edge ∈ ir.edges → edge.condition = some "loop" →
        ¬ ir.ClosesLoopFreeCycle edge := by
  obtain ⟨rfl, -, -, checked⟩ := (apply_ok_iff externals ir accepted).mp validated
  constructor
  · intro acyclic edge member _ ⟨target, back⟩
    have gating := Lowering.gatingEdge_of_stepAvoidingLoops externals
      customCompilers accepted maxConcurrent
    have first := gating edge.source edge.target ⟨target, edge, member, rfl, rfl⟩
    exact acyclic edge.source (TransGen.head' first (ReflTransGen.mono gating _ _ back))
  · intro unmarked vertex cycle
    have around := Lowering.cycle_avoids_loops externals customCompilers accepted cycle
    -- The cycle cannot consist of edges the validator looked at.
    rcases Digraph.transGen_split (Joined (checkedEdges accepted)) around with
      inside | ⟨left, right, step, outside, before, after⟩
    · exact checked vertex (TransGen.mono (fun _ _ step => step.2) _ _ inside)
    · obtain ⟨target, edge, member, rfl, rfl⟩ := step
      have marked : edge.condition = some "loop" := by
        by_contra plain
        exact outside (mem_map.mpr ⟨edge, mem_filter.mpr ⟨member, by simpa using plain⟩, rfl⟩)
      exact unmarked edge member marked ⟨target, after.trans before⟩

def acceptingExternals : Externals :=
  Externals.sample (fun _ _ => 0)

/-- A node without a model or an expansion. -/
def plainNode (id : Uuid) (kind : IRNodeKind) : IRNode :=
  { id := id
    kind := kind
    strategy := .single
    model := none
    config := fun key =>
      if key = "max_iterations" then some (.number (.unsigned 3)) else none }

def workflow (nodes : List IRNode) (edges : List IREdge) : WorkflowIR :=
  { planId := 0
    nodes := nodes
    edges := edges
    metadata :=
      { policyApplied := []
        policyVersion := 1
        estimatedCost := 0
        estimatedTokens := 0 } }

/-- A loop head 1 with the body 2. -/
def loopWorkflow : WorkflowIR :=
  workflow [plainNode 1 .loop, plainNode 2 .generate] [⟨1, 2, none⟩, ⟨2, 1, some "loop"⟩]

/-- The same edges between nodes that are no loop heads. -/
def markedCycle : WorkflowIR :=
  workflow [plainNode 1 .generate, plainNode 2 .generate] [⟨1, 2, none⟩, ⟨2, 1, some "loop"⟩]

theorem gating_acyclic_loopWorkflow :
    ControlFlowValidation.apply acceptingExternals loopWorkflow = .ok loopWorkflow ∧
      Digraph.Acyclic (QueueIndex.new (Lowering.lowerToGraph
        acceptingExternals Table.empty loopWorkflow) 4).GatingEdge := by
  have accepted : apply acceptingExternals loopWorkflow = .ok loopWorkflow := rfl
  refine ⟨accepted, (gating_acyclic_iff acceptingExternals Table.empty
    loopWorkflow loopWorkflow 4 accepted).mpr ?_⟩
  intro edge member marked closes
  have last : edge = ⟨2, 1, some "loop"⟩ := by
    simp only [loopWorkflow, workflow, mem_cons, not_mem_nil, or_false] at member
    rcases member with rfl | rfl
    · cases marked
    · rfl
  subst last
  exact closes.1 (by decide)

/-- The validator accepts a cycle whose closing edge is marked `"loop"`, and
both of its edges gate. -/
theorem markedCycle_waits_on_itself :
    ¬ ∀ (externals : Externals) (customCompilers : Table String StrategyCompiler)
        (ir accepted : WorkflowIR) (maxConcurrent : Nat),
      ControlFlowValidation.apply externals ir = .ok accepted →
        Digraph.Acyclic (QueueIndex.new (Lowering.lowerToGraph externals customCompilers accepted)
          maxConcurrent).GatingEdge := by
  intro agree
  have acyclic := agree acceptingExternals Table.empty markedCycle markedCycle 4 rfl
  have gating := Lowering.gatingEdge_of_stepAvoidingLoops acceptingExternals
    Table.empty markedCycle 4
  have forward := gating 1 2 ⟨by decide, ⟨1, 2, none⟩, by simp [markedCycle, workflow], rfl, rfl⟩
  have backward := gating 2 1
    ⟨by decide, ⟨2, 1, some "loop"⟩, by simp [markedCycle, workflow], rfl, rfl⟩
  exact acyclic 1 ((TransGen.single forward).tail backward)

end FusionRouter
