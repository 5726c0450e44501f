import FusionRouter.Compiler.Compiled
import FusionRouter.Scheduler.FailureCascade

/-!
# Progress without control flow

A compiled graph without conditional nodes and loops, and an executor that
always succeeds.  The run ends, but it calls each node once only if no two
nodes share an id, no two edges share both endpoints and no edge closes a
cycle; the compiler checks none of the three.
-/

namespace FusionRouter

open Relation RunState List

def Event.isCallAt (position : Nat) : Event → Bool
  | .called index _ => decide (index = position)
  | .returned _ _ => false

/-- How often the node at this position was handed to the executor. -/
def dispatchCount (log : List Event) (position : Nat) : Nat :=
  log.countP (Event.isCallAt position)

/-- The run returns, every node was called exactly once, and all of them
succeeded. -/
def Progress (setup : RunSetup) : Prop :=
  ∃ fuel outcome last, runInner setup none fuel = some (.ok outcome, last) ∧
      (∀ position, position < setup.graph.nodes.length → dispatchCount last.log position = 1) ∧
      (∀ node, node ∈ setup.graph.nodes → outcome.nodeStates node.id = some .succeeded) ∧
      outcome.success = true

namespace ExecutionGraph

theorem count_pairs (graph : ExecutionGraph) (source target : Uuid) :
    graph.pairs.count (source, target) = (graph.incoming target).count source := by
  unfold pairs incoming incomingEdges
  rw [count_eq_countP, count_eq_countP, countP_map, countP_map, countP_filter]
  refine countP_congr ?_
  intro edge _
  simp

theorem pairs_nodup_iff (graph : ExecutionGraph) :
    graph.pairs.Nodup ↔ ∀ id, (graph.incoming id).Nodup := by
  simp only [nodup_iff_count_le_one]
  constructor
  · intro pairs id source
    rw [← count_pairs]
    exact pairs (source, id)
  · intro incoming pair
    rw [count_pairs]
    exact incoming pair.2 pair.1

end ExecutionGraph

theorem Reachable.of_dispatchCount {envelope : Option BudgetEnvelope}
    (reached : Reachable setup envelope config) (called : dispatchCount config.2.log position = 1) :
    ∃ node, setup.graph.nodes[position]? = some node ∧
      setup.graph.nodeIndex node.id = some position ∧ .called position node.id ∈ config.2.log := by
  have positive : 0 < dispatchCount config.2.log position := by omega
  obtain ⟨event, member, at_⟩ := countP_pos_iff.mp positive
  cases event with
  | returned id result => cases at_
  | called index id =>
    obtain rfl : index = position := of_decide_eq_true at_
    have found := reached.called_position member
    obtain ⟨node, present, rfl⟩ := ExecutionGraph.nodeIndex_eq_some found
    exact ⟨node, present, found, member⟩

theorem Progress.distinct (progress : Progress setup) :
    (setup.graph.nodes.map ExecutionNode.id).Nodup := by
  obtain ⟨fuel, outcome, last, finished, once, -⟩ := progress
  obtain ⟨config, reached, ends⟩ := runInner_ends finished
  have log : last.log = config.2.log := ends.log
  rw [log] at once
  refine nodup_iff_getElem?_ne_getElem?.mpr ?_
  intro first second before inside same
  rw [length_map] at inside
  obtain ⟨left, leftAt, leftIndex, -⟩ := reached.of_dispatchCount (once first (by omega))
  obtain ⟨right, rightAt, rightIndex, -⟩ := reached.of_dispatchCount (once second inside)
  have sameId : left.id = right.id := by
    simpa [getElem?_map, leftAt, rightAt] using same
  rw [sameId, rightIndex] at leftIndex
  have equal := Option.some.inj leftIndex
  omega

/-- A run without control flow, cancellation and failures. -/
structure PlainRun (setup : RunSetup) : Prop where
  loopFree : LoopFree setup.graph
  unconditional : ∀ node, node ∈ setup.graph.nodes → node.kind ≠ .conditional
  joined : ∀ source target, setup.graph.Connected source target →
    source ∈ setup.graph.nodes.map ExecutionNode.id ∧
      target ∈ setup.graph.nodes.map ExecutionNode.id
  token : setup.cancel = none
  succeeds : ∀ number node context, (setup.executor number node context).state = .succeeded

structure PlainEnd (setup : RunSetup) (outcome : ExecutionOutcome) (last : RunState) : Prop where
  exactly : ExactAt setup.graph [] last
  outcome : outcome = last.outcome setup
  quiet : ∀ id, id ∈ setup.graph.nodes.map ExecutionNode.id →
    last.queue.satisfiedIncoming id = (setup.graph.incoming id).length → id ∈ last.queue.closed
  called : ∀ position id, .called position id ∈ last.log → setup.graph.nodeIndex id = some position
  returned : ∀ id result, .returned id result ∈ last.log →
    result.state = .succeeded ∧ ∃ position, .called position id ∈ last.log

namespace PlainRun

variable (plain : PlainRun setup)

include plain

theorem selectiveSources : setup.graph.selectiveSources = ∅ := by
  refine Finset.eq_empty_of_forall_notMem ?_
  intro id selective
  obtain ⟨node, member, -⟩ := mem_map.mp (mem_toFinset.mp selective)
  obtain ⟨inside, kind⟩ := mem_filter.mp member
  rcases of_decide_eq_true kind with loop | conditional
  · exact plain.loopFree node inside loop
  · exact plain.unconditional node inside conditional

theorem ended (distinct : (setup.graph.nodes.map ExecutionNode.id).Nodup)
    {outcome : ExecutionOutcome} (finished : runInner setup none fuel = some (.ok outcome, last)) :
    PlainEnd setup outcome last := by
  obtain ⟨config, reached, ends⟩ := runInner_ends finished
  have log : last.log = config.2.log := ends.log
  obtain ⟨exactly, same, -, quiet⟩ := ends.quiescent
    (uncancelled_of_none plain.token) plain.loopFree distinct reached (by
      rintro batchIds id result rest state rfl
      exact (charged_of_none reached.envelope_none id result).2)
  refine ⟨exactly, same, quiet, ?_, ?_⟩
  · intro position id called
    rw [log] at called
    exact reached.called_position called
  · intro id result returned
    rw [log] at returned ⊢
    refine ⟨?_, reached.called_of_returned returned⟩
    obtain ⟨_, -, -, rfl⟩ := reached.executed_of_returned returned
    exact plain.succeeds _ _ _

end PlainRun

namespace PlainEnd

variable {outcome : ExecutionOutcome} (ended : PlainEnd setup outcome last)

include ended

theorem not_failed {id : Uuid} (failed : id ∈ last.queue.failed)
    (sources : ∀ source, setup.graph.Connected source id → source ∉ last.queue.failed) : False := by
  rcases ended.exactly.failed id failed with
    ⟨result, message, returned, failure, -⟩ | ⟨-, source, bad, edge⟩
  · rw [(ended.returned id result returned).1] at failure
    cases failure
  · exact sources source edge bad

/-- Without cycles and parallel edges every node is completed. -/
theorem completed (plain : PlainRun setup) (separate : setup.graph.pairs.Nodup)
    (acyclic : Digraph.Acyclic setup.graph.Connected) (id : Uuid)
    (known : id ∈ setup.graph.nodes.map ExecutionNode.id) : id ∈ last.queue.completed := by
  -- along the edges: all predecessors are completed
  induction id using acyclic.wellFounded.induction with
  | _ id ih =>
  have sources : ∀ source, setup.graph.Connected source id → source ∈ last.queue.completed :=
    fun source edge => ih source edge (plain.joined source id edge).1
  have full : last.queue.satisfiedIncoming id = (setup.graph.incoming id).length := by
    refine (ended.exactly.counts.satisfied_iff id).mpr
      ⟨setup.graph.pairs_nodup_iff.mp separate id, ?_⟩
    intro source edge
    refine (ended.exactly.fired source id).mpr ⟨sources source edge, edge, ?_⟩
    simp [plain.selectiveSources]
  rcases Finset.mem_union.mp (ended.quiet id known full) with done | failed
  · exact done
  · exact (ended.not_failed failed (fun source edge =>
      ended.exactly.disjoint source (sources source edge))).elim

theorem succeeded {id : Uuid} (done : id ∈ last.queue.completed) :
    last.nodeStates id = some .succeeded := by
  obtain ⟨result, returned, present, -⟩ := ended.exactly.completed id done
  rw [present, (ended.returned id result returned).1]

theorem dispatchCount_eq_one (distinct : (setup.graph.nodes.map ExecutionNode.id).Nodup)
    (present : setup.graph.nodes[position]? = some node) (done : node.id ∈ last.queue.completed) :
    dispatchCount last.log position = 1 := by
  have same : dispatchCount last.log position = callCount last.log node.id := by
    refine countP_congr ?_
    intro event member
    cases event with
    | returned id result => simp [Event.isCallAt, Event.isCallOf]
    | called index id =>
      have found := ended.called index id member
      obtain ⟨other, located, rfl⟩ := ExecutionGraph.nodeIndex_eq_some found
      simp only [Event.isCallAt, Event.isCallOf, decide_eq_true_eq]
      constructor
      · rintro rfl
        rw [present] at located
        rw [Option.some.inj located]
      · intro same
        obtain ⟨inside, -⟩ := List.getElem?_eq_some_iff.mp located
        refine (getElem?_inj (by simpa using inside) distinct).mp ?_
        simp [located, present, same]
  have once := ended.exactly.once node.id
  obtain ⟨result, returned, -⟩ := ended.exactly.completed node.id done
  obtain ⟨-, index, called⟩ := ended.returned node.id result returned
  have positive : 0 < callCount last.log node.id := by
    refine countP_pos_iff.mpr ⟨_, called, ?_⟩
    simp [Event.isCallOf]
  omega

end PlainEnd

theorem PlainRun.progress_iff (plain : PlainRun setup) (capped : 0 < setup.maxConcurrent) :
    Progress setup ↔ (setup.graph.nodes.map ExecutionNode.id).Nodup ∧
      setup.graph.pairs.Nodup ∧ Digraph.Acyclic setup.graph.Connected := by
  constructor
  · intro progress
    have distinct := progress.distinct
    obtain ⟨fuel, outcome, last, finished, -, succeeded, -⟩ := progress
    have ended := plain.ended distinct finished
    have done : ∀ id ∈ setup.graph.nodes.map ExecutionNode.id, id ∈ last.queue.completed := by
      intro id known
      obtain ⟨node, member, rfl⟩ := mem_map.mp known
      have present := succeeded node member
      rw [ended.outcome] at present
      exact ended.exactly.completedIn_iff.mp ⟨_, present, by simp⟩
    refine ⟨distinct, setup.graph.pairs_nodup_iff.mpr ?_, ?_⟩
    · intro id
      by_cases known : id ∈ setup.graph.nodes.map ExecutionNode.id
      · have full := ended.exactly.counts.ran id (Or.inl (done id known))
        exact ((ended.exactly.counts.satisfied_iff id).mp full).1
      · have none : setup.graph.incoming id = [] := by
          refine eq_nil_iff_forall_not_mem.mpr ?_
          intro source member
          exact known (plain.joined source id (ExecutionGraph.mem_incoming.mp member)).2
        rw [none]
        exact nodup_nil
    · intro id cycle
      obtain ⟨next, edge, -⟩ := TransGen.head'_iff.mp cycle
      have known := (plain.joined id next edge).1
      exact Digraph.not_transGen_of_acc (ended.exactly.grounded id (Or.inl (done id known))) cycle
  · rintro ⟨distinct, separate, acyclic⟩
    obtain ⟨fuel, outcome, last, finished⟩ : ∃ fuel outcome last, runInner setup none fuel =
          some (.ok outcome, last) :=
      runInner_ok (uncancelled_of_none plain.token) plain.loopFree distinct capped
    have ended := plain.ended distinct finished
    have done : ∀ node ∈ setup.graph.nodes, node.id ∈ last.queue.completed := fun node member =>
      ended.completed plain separate acyclic node.id (mem_map.mpr ⟨node, member, rfl⟩)
    have states : ∀ node ∈ setup.graph.nodes, outcome.nodeStates node.id = some .succeeded := by
      intro node member
      rw [ended.outcome]
      exact ended.succeeded (done node member)
    refine ⟨fuel, outcome, last, finished, ?_, states, ?_⟩
    · intro position inside
      exact ended.dispatchCount_eq_one distinct
        (getElem?_eq_getElem inside) (done _ (getElem_mem inside))
    · rw [ended.outcome] at states ⊢
      refine all_eq_true.mpr ?_
      intro node member
      have state : last.nodeStates node.id = some .succeeded := states node member
      simp [state]

/-- What the compiler guarantees about a workflow without control flow. -/
theorem plainRun_of_compiled (compiled : compile options ir = .ok setup.graph)
    (uncontrolled : ∀ node ∈ ir.nodes, node.kind ≠ .conditional ∧
      node.kind ≠ .loop) (token : setup.cancel = none)
    (succeeds : ∀ number node context, (setup.executor number node
      context).state = .succeeded) : PlainRun setup := by
  obtain ⟨live, final, stages⟩ := compile_stages compiled
  have kinds : ∀ node ∈ setup.graph.nodes, node.kind ≠ .conditional ∧ node.kind ≠ .loop := by
    intro node member
    rw [stages.lowered] at member
    obtain ⟨before, inside, rfl⟩ := mem_map.mp member
    rcases stages.node_origin inside with ⟨original, known, rfl, -⟩ | ⟨_, -, rfl⟩
    · have plain := uncontrolled original known
      rw [← ModelResolution.resolve_kind options.fastModel] at plain
      simp only [Lowering.lowerNode, Lowering.bareNode]
      cases held : (ModelResolution.resolve options.fastModel original).kind <;>
        simp_all [Lowering.lowerKind]
    · exact ⟨ExecutionNodeKind.noConfusion, ExecutionNodeKind.noConfusion⟩
  refine ⟨fun node member => (kinds node member).2,
    fun node member => (kinds node member).1, ?_, token, succeeds⟩
  rintro source target ⟨edge, member, rfl, rfl⟩
  exact stages.graph_edge_known member

/-- A compiled workflow without control flow makes progress exactly when its
graph has no two nodes with one id, no two edges with the same endpoints and
no cycle. -/
theorem progress_iff_graph (options : CompilerOptions) (ir : WorkflowIR)
    (setup : RunSetup) (compiled : compile options ir = .ok setup.graph)
    (uncontrolled : ∀ node, node ∈ ir.nodes → node.kind ≠ .conditional ∧ node.kind ≠ .loop)
    (capped : 0 < setup.maxConcurrent) (token : setup.cancel = none)
    (succeeds : ∀ number node context, (setup.executor number node context).state = .succeeded) :
    Progress setup ↔ (setup.graph.nodes.map ExecutionNode.id).Nodup ∧
      setup.graph.pairs.Nodup ∧ Digraph.Acyclic setup.graph.Connected :=
  (plainRun_of_compiled compiled uncontrolled token succeeds).progress_iff capped

def diamondWorkflow : WorkflowIR :=
  workflow [plainNode 1 .split, plainNode 2 .generate, plainNode 3 .review, plainNode 4 .join]
    [⟨1, 2, none⟩, ⟨1, 3, none⟩, ⟨2, 4, none⟩, ⟨3, 4, none⟩]

theorem diamond_progress :
    compile sampleOptions diamondWorkflow = .ok (compiledGraph sampleOptions diamondWorkflow) ∧
      Progress (sampleSetup (compiledGraph sampleOptions diamondWorkflow) succeeding) := by
  have compiled : compile sampleOptions diamondWorkflow = _ := compile_eq_ok (by decide)
  have plain : ∀ node, node ∈ diamondWorkflow.nodes →
      node.kind ≠ .conditional ∧ node.kind ≠ .loop := by
    decide
  refine ⟨compiled, (progress_iff_graph sampleOptions diamondWorkflow _
    compiled plain (by decide) rfl (fun _ _ _ => rfl)).mpr
      ⟨by decide, by decide, ?_⟩⟩
  have grows : ∀ edge, edge ∈ (compiledGraph sampleOptions
      diamondWorkflow).edges → edge.source.val < edge.target.val := by
    decide
  refine Digraph.acyclic_of_rank Fin.val ?_
  rintro left right ⟨edge, member, rfl, rfl⟩
  exact grows edge member

/-- Two edges from 1 to 2. -/
def parallelWorkflow : WorkflowIR :=
  workflow [plainNode 1 .generate, plainNode 2 .generate] [⟨1, 2, none⟩, ⟨1, 2, none⟩]

/-- Parallel edges are counted twice and activated once, so 2 never runs. -/
theorem parallel_edges_block :
    ¬ ∀ (options : CompilerOptions) (ir : WorkflowIR) (setup : RunSetup),
      compile options ir = .ok setup.graph →
        (∀ node, node ∈ ir.nodes → node.kind ≠ .conditional ∧ node.kind ≠ .loop) →
        0 < setup.maxConcurrent → setup.cancel = none →
        (∀ number node context, (setup.executor number node context).state = .succeeded) →
          Progress setup := by
  intro always
  have compiled : compile sampleOptions parallelWorkflow = _ := compile_eq_ok (by decide)
  have plain : ∀ node, node ∈ parallelWorkflow.nodes →
      node.kind ≠ .conditional ∧ node.kind ≠ .loop := by
    decide
  have progress := always sampleOptions parallelWorkflow (sampleSetup
    (compiledGraph sampleOptions parallelWorkflow) succeeding) compiled plain
    (by decide) rfl (fun _ _ _ => rfl)
  have separate := ((plainRun_of_compiled compiled plain rfl
    (fun _ _ _ => rfl)).progress_iff (by decide)).mp progress |>.2.1
  revert separate
  decide

end FusionRouter
