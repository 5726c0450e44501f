import Mathlib.Data.Fintype.EquivFin
import FusionRouter.Scheduler.ExactRuns

/-!
# The cascade of failures

What a run without loops comes to does not depend on the order in which its
nodes run.  `Settlement` says so without a queue: it relates the final state of
each node to those of its predecessors.  Every run of an executor whose answers
depend only on the node and the outputs of its parents ends in a settlement,
and on an acyclic graph there is only one, also after the nodes that failed are
deleted.
-/

namespace FusionRouter

open Relation RunState List ExecutionGraph

def FailedIn (states : Table Uuid NodeState) (id : Uuid) : Prop :=
  ∃ message, states id = some (.failed message)

def CompletedIn (states : Table Uuid NodeState) (id : Uuid) : Prop :=
  ∃ state, states id = some state ∧ ∀ message, state ≠ .failed message

/-- The node failed by itself: its own call returned `Failed`. -/
def FailedItself (log : List Event) (id : Uuid) : Prop :=
  ∃ result message, .returned id result ∈ log ∧ result.state = .failed message

/-- The outputs a node is handed. -/
def visibleOutputs (graph : ExecutionGraph) (outputs : Table Uuid Json)
    (id : Uuid) : Table Uuid Json :=
  fun parent => if parent ∈ graph.incoming id then outputs parent else none

def keptOutput (result : NodeExecutionResult) : Option Json :=
  if result.state = .succeeded then some (stored result) else none

/-- A node runs when every edge into it fires.  Parallel edges count once, so
a node with two edges from one source never does. -/
structure Runs (graph : ExecutionGraph) (states : Table Uuid NodeState)
    (outputs : Table Uuid Json) (id : Uuid) : Prop where
  known : id ∈ graph.nodes.map ExecutionNode.id
  separate : (graph.incoming id).Nodup
  fired : ∀ source, graph.Connected source id →
    CompletedIn states source ∧ Fires graph states outputs source id

/-- What the nodes of a graph come to when their results are `answer`. -/
structure Settlement (graph : ExecutionGraph)
    (answer : ExecutionNode → Table Uuid Json → NodeExecutionResult)
    (states : Table Uuid NodeState) (outputs : Table Uuid Json) : Prop where
  ran : ∀ node, node ∈ graph.nodes → Runs graph states outputs node.id → states node.id =
        some (answer node (visibleOutputs graph outputs node.id)).state ∧ outputs node.id =
        keptOutput (answer node (visibleOutputs graph outputs node.id))
  idle : ∀ id, ¬ Runs graph states outputs id →
    (∀ source, graph.Connected source id → ¬ FailedIn states source) →
      states id = none ∧ outputs id = none
  cascaded : ∀ source target, graph.Connected source target →
    FailedIn states source → FailedIn states target

namespace ExecutionGraph

def without (graph : ExecutionGraph) (gone : Uuid → Bool) : ExecutionGraph :=
  { graph with
    nodes := graph.nodes.filter (fun node => !gone node.id)
    edges := graph.edges.filter (fun edge => !gone edge.source && !gone edge.target) }

section Without

variable {graph : ExecutionGraph} {id : Uuid}

theorem mem_nodes_without :
    node ∈ (graph.without gone).nodes ↔ node ∈ graph.nodes ∧ gone node.id = false := by
  simp [without]

theorem incoming_without (kept : gone id = false)
    (sources : ∀ source, graph.Connected source id → gone source = false) :
    (graph.without gone).incoming id = graph.incoming id := by
  have same : (graph.without gone).incomingEdges id = graph.incomingEdges id := by
    unfold incomingEdges without
    rw [filter_filter]
    refine filter_congr ?_
    intro edge member
    by_cases target : edge.target = id
    · simp [target, kept, sources edge.source ⟨edge, member, rfl, target⟩]
    · simp [target]
  unfold incoming
  rw [same]

theorem connected_without (kept : gone id = false)
    (sources : ∀ source, graph.Connected source id → gone source = false) :
    (graph.without gone).Connected source id ↔ graph.Connected source id := by
  rw [← mem_incoming, incoming_without kept sources, mem_incoming]

theorem mem_selectiveSources_without (kept : gone id = false) :
    id ∈ (graph.without gone).selectiveSources ↔ id ∈ graph.selectiveSources := by
  simp only [selectiveSources, mem_toFinset, mem_map, mem_filter, mem_nodes_without]
  refine exists_congr ?_
  rintro node
  constructor
  · rintro ⟨⟨⟨member, -⟩, kind⟩, same⟩
    exact ⟨⟨member, kind⟩, same⟩
  · rintro ⟨⟨member, kind⟩, same⟩
    exact ⟨⟨⟨member, same ▸ kept⟩, kind⟩, same⟩

theorem mem_matchedTargets_without (output : Json)
    (keptSource : gone source = false) (kept : gone id = false) :
    id ∈ (graph.without gone).matchedTargets source output ↔
      id ∈ graph.matchedTargets source output := by
  simp only [matchedTargets, outgoingEdges, without, mem_map, mem_filter]
  refine exists_congr ?_
  intro edge
  constructor
  · rintro ⟨⟨⟨⟨member, -⟩, leaves⟩, selected⟩, same⟩
    exact ⟨⟨⟨member, leaves⟩, selected⟩, same⟩
  · rintro ⟨⟨⟨member, leaves⟩, selected⟩, same⟩
    have leaves' : edge.source = source := by simpa using leaves
    exact ⟨⟨⟨⟨member, by simp [leaves', same, kept, keptSource]⟩, leaves⟩, selected⟩, same⟩

end Without

end ExecutionGraph

def hasFailed (states : Table Uuid NodeState) (id : Uuid) : Bool :=
  match states id with
  | some state => state.isFailed
  | none => false

theorem hasFailed_eq_false {id : Uuid} : hasFailed states id = false ↔ ¬ FailedIn states id := by
  unfold hasFailed FailedIn
  cases states id with
  | none => simp
  | some state => cases state <;> simp [NodeState.isFailed]

namespace Settlement

variable {graph : ExecutionGraph} {states later : Table Uuid NodeState}
  {outputs after : Table Uuid Json}

theorem failedIn_of_walk (settled : Settlement graph answer states outputs)
    {ancestor id : Uuid} (walk : ReflTransGen graph.Connected ancestor id)
    (failed : FailedIn states ancestor) : FailedIn states id := by
  induction walk with
  | refl => exact failed
  | tail _ edge ih => exact settled.cascaded _ _ edge ih

section Deleted

/-! What a node sees of its predecessors does not change when ids are deleted
that are neither the node nor one of its predecessors. -/

variable {gone : Uuid → Bool} {id : Uuid} (kept : gone id = false)
  (keptSources : ∀ source, graph.Connected source id → gone source = false)
  (same : ∀ source, graph.Connected source id →
    later source = states source ∧ after source = outputs source)

include kept keptSources same

theorem visibleOutputs_without :
    visibleOutputs (graph.without gone) after id = visibleOutputs graph outputs id := by
  funext parent
  unfold visibleOutputs
  rw [incoming_without kept keptSources]
  split
  next member => exact (same parent (mem_incoming.mp member)).2
  · rfl

theorem fired_without (edge : graph.Connected source id) :
    (CompletedIn later source ∧ Fires (graph.without gone) later after source id) ↔
      (CompletedIn states source ∧ Fires graph states outputs source id) := by
  obtain ⟨sameState, sameOutput⟩ := same source edge
  have keptSource := keptSources source edge
  unfold CompletedIn Fires
  rw [sameState, sameOutput, connected_without kept keptSources,
    mem_selectiveSources_without keptSource, mem_matchedTargets_without _ keptSource kept]

theorem runs_without : Runs (graph.without gone) later after id ↔ Runs graph states outputs id := by
  have incoming := incoming_without kept keptSources
  constructor
  · intro running
    obtain ⟨node, member, rfl⟩ := mem_map.mp running.known
    refine ⟨mem_map.mpr ⟨node, (mem_nodes_without.mp member).1, rfl⟩,
      incoming ▸ running.separate, ?_⟩
    intro source edge
    exact (fired_without kept keptSources same edge).mp (running.fired source
      ((connected_without kept keptSources).mpr edge))
  · intro running
    obtain ⟨node, member, rfl⟩ := mem_map.mp running.known
    refine ⟨mem_map.mpr ⟨node, mem_nodes_without.mpr ⟨member, kept⟩, rfl⟩,
      incoming.symm ▸ running.separate, ?_⟩
    intro source edge
    have edge := (connected_without kept keptSources).mp edge
    exact (fired_without kept keptSources same edge).mpr (running.fired source edge)

/-- A node whose predecessors did not fail is settled in the same way in every
graph in which the predecessors are. -/
theorem agree_at (settled : Settlement graph answer states outputs)
    (smaller : Settlement (graph.without gone) answer later after)
    (alive : ∀ source, graph.Connected source id → ¬ FailedIn states source) :
    later id = states id ∧ after id = outputs id := by
  have runs := runs_without kept keptSources same
  by_cases running : Runs graph states outputs id
  · obtain ⟨node, member, rfl⟩ := mem_map.mp running.known
    obtain ⟨state, output⟩ := settled.ran node member running
    obtain ⟨state', output'⟩ := smaller.ran node
      (mem_nodes_without.mpr ⟨member, kept⟩) (runs.mpr running)
    rw [visibleOutputs_without kept keptSources same] at state' output'
    exact ⟨state'.trans state.symm, output'.trans output.symm⟩
  · obtain ⟨state, output⟩ := settled.idle id running alive
    have unfailed : ∀ source, (graph.without gone).Connected source id →
        ¬ FailedIn later source := by
      intro source edge
      have edge := (connected_without kept keptSources).mp edge
      unfold FailedIn
      rw [(same source edge).1]
      exact alive source edge
    obtain ⟨state', output'⟩ := smaller.idle id (running ∘ runs.mp) unfailed
    exact ⟨state'.trans state.symm, output'.trans output.symm⟩

end Deleted

/-- A node that did not fail is settled in the same way when all that failed
is deleted. -/
theorem agree (acyclic : Digraph.Acyclic graph.Connected)
    (settled : Settlement graph answer states outputs)
    (smaller : Settlement (graph.without (hasFailed states)) answer
      later after) (id : Uuid) (alive : ¬ FailedIn states id) :
    later id = states id ∧ after id = outputs id := by
  induction id using acyclic.wellFounded.induction with
  | _ id ih =>
  have sources : ∀ source, graph.Connected source id → ¬ FailedIn states source :=
    fun source edge failed => alive (settled.cascaded source id edge failed)
  exact agree_at (hasFailed_eq_false.mpr alive)
    (fun source edge => hasFailed_eq_false.mpr (sources source edge))
    (fun source edge => ih source edge (sources source edge)) settled smaller sources

end Settlement

/-- A run that nothing outside the graph interferes with: no cancellation, no
breach, and results that depend only on the node and the outputs of its
parents. -/
structure Undisturbed (setup : RunSetup) (envelope : Option BudgetEnvelope)
    (answer : ExecutionNode → Table Uuid Json → NodeExecutionResult) :
    Prop where
  uncancelled : Uncancelled setup
  unbreached : ∀ batchIds id result rest state,
    Reachable setup envelope (.folding batchIds ((id, result) :: rest), state) →
      state.violation setup id result = none
  pure : ∀ number node context,
    setup.executor number node context = answer node context.parentOutputs

theorem RunState.Settles.outputs_of_ne {id other : Uuid}
    (settles : Settles setup state id result flow) (different : other ≠ id) :
    flow.state.outputs other = state.outputs other := by
  cases settles with
  | failed message failure | other notSuccess notFailed => rfl
  | _ => exact Table.insert_of_ne _ _ different

namespace ExactAt

variable (exactly : ExactAt graph [] state)

include exactly

variable {id : Uuid}

theorem failedIn_iff : FailedIn state.nodeStates id ↔ id ∈ state.queue.failed := by
  constructor
  · rintro ⟨message, present⟩
    by_contra notFailed
    by_cases done : id ∈ state.queue.completed
    · obtain ⟨result, -, other, alive, -⟩ := exactly.completed id done
      rw [other] at present
      exact alive message (Option.some.inj present)
    · have none := exactly.untouched id (by simp [WorkQueue.closed, done, notFailed]) not_mem_nil
      rw [none] at present
      cases present
  · intro failed
    rcases exactly.failed id failed with ⟨_, message, -, -, present⟩ | ⟨present, -⟩
    · exact ⟨message, present⟩
    · exact ⟨_, present⟩

theorem completedIn_iff : CompletedIn state.nodeStates id ↔ id ∈ state.queue.completed := by
  constructor
  · rintro ⟨nodeState, present, notFailed⟩
    by_contra unfinished
    by_cases failed : id ∈ state.queue.failed
    · obtain ⟨message, other⟩ := exactly.failedIn_iff.mpr failed
      rw [other] at present
      exact notFailed message (Option.some.inj present).symm
    · have none := exactly.untouched id (by simp [WorkQueue.closed, unfinished, failed]) not_mem_nil
      rw [none] at present
      cases present
  · intro done
    obtain ⟨result, -, present, notFailed, -⟩ := exactly.completed id done
    exact ⟨result.state, present, notFailed⟩

theorem runs_iff :
    Runs graph state.nodeStates state.outputs id ↔ id ∈ graph.nodes.map ExecutionNode.id ∧
        state.queue.satisfiedIncoming id = (graph.incoming id).length := by
  rw [exactly.counts.satisfied_iff id]
  constructor
  · intro running
    refine ⟨running.known, running.separate, ?_⟩
    intro source edge
    obtain ⟨done, fires⟩ := running.fired source edge
    exact (exactly.fired source id).mpr ⟨exactly.completedIn_iff.mp done, fires⟩
  · rintro ⟨known, separate, active⟩
    refine ⟨known, separate, ?_⟩
    intro source edge
    obtain ⟨done, fires⟩ := (exactly.fired source id).mp (active source edge)
    exact ⟨exactly.completedIn_iff.mpr done, fires⟩

/-- A state in which every node that can run has run is a settlement. -/
theorem settlement (distinct : (graph.nodes.map ExecutionNode.id).Nodup)
    (called : ∀ id result, .returned id result ∈ state.log → ∃ position,
      .called position id ∈ state.log)
    (answered : ∀ id result, .returned id result ∈ state.log → ∃ node,
      graph.nodeAt id = some node ∧ result = answer node (visibleOutputs graph
      state.outputs id)) (quiet : ∀ id ∈ graph.nodes.map ExecutionNode.id,
      state.queue.satisfiedIncoming id = (graph.incoming id).length → id ∈ state.queue.closed) :
    Settlement graph answer state.nodeStates state.outputs := by
  have returned_runs : ∀ id result, .returned id result ∈ state.log →
      Runs graph state.nodeStates state.outputs id := by
    intro id result returned
    obtain ⟨position, event⟩ := called id result returned
    obtain ⟨full, known, -⟩ := exactly.called position id event
    exact exactly.runs_iff.mpr ⟨known, full⟩
  refine ⟨?_, ?_, ?_⟩
  · intro node member running
    have located := nodeAt_of_count_le_one member (nodup_iff_count_le_one.mp distinct node.id)
    obtain ⟨known, full⟩ := exactly.runs_iff.mp running
    have own : ∀ result, .returned node.id result ∈ state.log → result =
        answer node (visibleOutputs graph state.outputs node.id) := by
      intro result returned
      obtain ⟨other, found, same⟩ := answered node.id result returned
      rw [located] at found
      cases found
      exact same
    rcases Finset.mem_union.mp (quiet node.id known full) with done | failed
    · obtain ⟨result, returned, present, -, output⟩ := exactly.completed node.id done
      rw [← own result returned]
      exact ⟨present, output⟩
    · rcases exactly.failed node.id failed with
        ⟨result, message, returned, failure, present⟩ | ⟨-, source, bad, edge⟩
      · rw [← own result returned, present, failure, exactly.silent node.id
          (fun done => exactly.disjoint node.id done failed)]
        exact ⟨rfl, by simp [keptOutput, failure]⟩
      · exact (exactly.not_failed_source full edge bad).elim
  · intro id blocked sources
    have notDone : id ∉ state.queue.completed := by
      intro done
      obtain ⟨result, returned, -⟩ := exactly.completed id done
      exact blocked (returned_runs id result returned)
    have notFailed : id ∉ state.queue.failed := by
      intro failed
      rcases exactly.failed id failed with ⟨result, _, returned, -⟩ | ⟨-, source, bad, edge⟩
      · exact blocked (returned_runs id result returned)
      · exact sources source edge (exactly.failedIn_iff.mpr bad)
    exact ⟨exactly.untouched id (by simp [WorkQueue.closed, notDone, notFailed]) not_mem_nil,
      exactly.silent id notDone⟩
  · intro source target edge failed
    rcases exactly.closing source (exactly.failedIn_iff.mp failed) target edge with done | waiting
    · exact exactly.failedIn_iff.mpr done
    · cases waiting

/-- A node failed because it failed itself or because a predecessor did. -/
theorem failedIn_iff_cause (settled : Settlement graph answer state.nodeStates state.outputs) :
    FailedIn state.nodeStates id ↔ FailedItself state.log id ∨ ∃ source, graph.Connected source id ∧
        FailedIn state.nodeStates source := by
  constructor
  · intro failed
    rcases exactly.failed id (exactly.failedIn_iff.mp failed) with
      ⟨result, message, returned, failure, -⟩ | ⟨-, source, bad, edge⟩
    · exact Or.inl ⟨result, message, returned, failure⟩
    · exact Or.inr ⟨source, edge, exactly.failedIn_iff.mpr bad⟩
  · rintro (⟨result, message, returned, failure⟩ | ⟨source, edge, bad⟩)
    · exact exactly.failedIn_iff.mpr ((exactly.returned id result message
        returned failure).resolve_right not_mem_nil)
    · exact settled.cascaded source id edge bad

end ExactAt

section Runs

variable {setup : RunSetup} {envelope : Option BudgetEnvelope} (loopFree : LoopFree setup.graph)
  (distinct : (setup.graph.nodes.map ExecutionNode.id).Nodup)

include loopFree distinct

/-- What returned was computed from the final outputs of the parents: they were
all there when the node was called. -/
theorem Reachable.fed (returning : CallsReturn setup) (reached : Reachable setup envelope config)
    {id : Uuid} (returned : .returned id result ∈ config.2.log) :
    ∃ call : Call, setup.graph.nodeAt id = some call.node ∧
      result = setup.executor call.number call.node call.context ∧
      call.context.parentOutputs = visibleOutputs setup.graph config.2.outputs id := by
  induction reached with
  | refl => simp [RunSetup.initial] at returned
  | tail before step holds =>
    cases step with
    | spin | done => exact holds returned
    | batch _ _ started =>
      obtain ⟨-, built, rfl⟩ := dispatch_ok started
      rcases returned_of_mem_runCalls returned with old | ⟨call, member, event⟩
      · exact holds old
      · obtain ⟨rfl, rfl⟩ := Call.of_mem_endEvents event
        have isCall := built call member
        refine ⟨call, ?_, rfl, ?_⟩
        · simp [nodeAt, isCall.position, isCall.node]
        · rw [isCall.context]
          rfl
    | @fold batchIds folded answered rest state following processed =>
      rw [processResult_next_log processed] at returned
      obtain ⟨call, located, rfl, handed⟩ := holds returned
      refine ⟨call, located, rfl, handed.trans ?_⟩
      have charged := charged_same setup state folded answered
      have exactly := Reachable.exact returning loopFree distinct before
      obtain ⟨position, called⟩ := Reachable.called_of_returned before returned
      -- the parents of a called node are completed, the folded one is not
      have stable : ∀ parent ∈ setup.graph.incoming id,
          following.outputs parent = state.outputs parent := by
        intro parent member
        have edge := mem_incoming.mp member
        have done := (exactly.sources_completed (exactly.called position id called).1 edge).1
        have different : parent ≠ folded := by
          rintro rfl
          exact exactly.apart parent mem_cons_self (Finset.mem_union_left _ done)
        exact ((processResult_next processed).outputs_of_ne different).trans
          (congrFun charged.outputs parent)
      funext parent
      unfold visibleOutputs
      split
      next member => exact (stable parent member).symm
      · rfl

/-- In a run without loops a node is called once at most, after every parent has returned and
fired the edge, and its result is computed from the final outputs of the parents. -/
theorem calls_fed_by_parents (returning : CallsReturn setup)
    (reached : Reachable setup envelope config) {id : Uuid}
    (called : .called position id ∈ config.2.log) :
    callCount config.2.log id = 1 ∧
    (∀ source, setup.graph.Connected source id →
      Fires setup.graph config.2.nodeStates config.2.outputs source id ∧
      ∃ result, .returned source result ∈ config.2.log ∧
        (∀ message, result.state ≠ .failed message) ∧
        config.2.outputs source = keptOutput result) ∧
    ∀ result, .returned id result ∈ config.2.log → ∃ call : Call,
      setup.graph.nodeAt id = some call.node ∧
      result = setup.executor call.number call.node call.context ∧
      call.context.parentOutputs = visibleOutputs setup.graph config.2.outputs id := by
  have exactly := reached.exact returning loopFree distinct
  refine ⟨Nat.le_antisymm (exactly.once id) ?_, ?_, fun result returned =>
    reached.fed loopFree distinct returning returned⟩
  · exact countP_pos_iff.mpr ⟨_, called, by simp [Event.isCallOf]⟩
  · intro source edge
    obtain ⟨done, fires⟩ := exactly.sources_completed (exactly.called position id called).1 edge
    obtain ⟨result, returned, -, fine, output⟩ := exactly.completed source done
    exact ⟨fires, result, returned, fine, output⟩

/-- Whatever the executor does, a run without loops and budget ends, and the nodes that were
called are exactly those whose parents all completed and fired the edge. -/
theorem called_iff_runs (uncancelled : Uncancelled setup) (capped : 0 < setup.maxConcurrent) :
    ∃ fuel outcome last, runInner setup none fuel = some (.ok outcome, last) ∧
      ∀ id, (∃ position, .called position id ∈ last.log) ↔
        Runs setup.graph outcome.nodeStates outcome.outputs id := by
  obtain ⟨fuel, outcome, last, finished⟩ := runInner_ok uncancelled loopFree distinct capped
  refine ⟨fuel, outcome, last, finished, fun id => ?_⟩
  obtain ⟨config, reached, ends⟩ := runInner_ends finished
  obtain ⟨exactly, rfl, same, quiet⟩ := ends.quiescent uncancelled loopFree distinct reached (by
    rintro _ id result _ state rfl
    exact (charged_of_none reached.envelope_none id result).2)
  have called : ∀ result, .returned id result ∈ last.log →
      ∃ position, .called position id ∈ last.log := by
    intro result returned
    rw [same.log] at returned ⊢
    exact reached.called_of_returned returned
  refine Iff.trans ?_ exactly.runs_iff.symm
  constructor
  · rintro ⟨position, event⟩
    obtain ⟨full, known, -⟩ := exactly.called position id event
    exact ⟨known, full⟩
  · rintro ⟨known, full⟩
    rcases Finset.mem_union.mp (quiet id known full) with done | failed
    · obtain ⟨result, returned, -⟩ := exactly.completed id done
      exact called result returned
    · rcases exactly.failed id failed with ⟨result, _, returned, -⟩ | ⟨-, source, bad, edge⟩
      · exact called result returned
      · exact (exactly.not_failed_source full edge bad).elim

variable (undisturbed : Undisturbed setup envelope answer)

include undisturbed

theorem Reachable.answered (reached : Reachable setup envelope config)
    {id : Uuid} (returned : .returned id result ∈ config.2.log) :
    ∃ node, setup.graph.nodeAt id = some node ∧
      result = answer node (visibleOutputs setup.graph config.2.outputs id) := by
  obtain ⟨call, located, rfl, handed⟩ :=
    reached.fed loopFree distinct undisturbed.uncancelled.returning returned
  exact ⟨call.node, located, by rw [undisturbed.pure, handed]⟩

/-- Every undisturbed run without loops ends in a settlement. -/
theorem runInner_settlement {outcome : ExecutionOutcome}
    (finished : runInner setup envelope fuel = some (.ok outcome, last)) :
    outcome = last.outcome setup ∧ ExactAt setup.graph [] last ∧
      Settlement setup.graph answer last.nodeStates last.outputs := by
  obtain ⟨config, reached, ends⟩ := runInner_ends finished
  obtain ⟨exactly, rfl, same, quiet⟩ := ends.quiescent undisturbed.uncancelled
    loopFree distinct reached (by
      rintro batchIds id result rest state rfl
      exact undisturbed.unbreached _ _ _ _ _ reached)
  refine ⟨rfl, exactly, exactly.settlement distinct ?_ ?_ quiet⟩
  · intro id result returned
    rw [same.log] at returned ⊢
    exact reached.called_of_returned returned
  · intro id result returned
    rw [same.log] at returned
    rw [same.outputs]
    exact reached.answered loopFree distinct undisturbed returned

end Runs

/-- Failures cascade exactly: a node ends failed when it failed itself or a
predecessor did, nothing behind a failed node is called, and what did not fail
ends as it does when the failed part of the graph is deleted. -/
theorem failure_cascade_exact {setup : RunSetup} {envelope : Option BudgetEnvelope}
    {answer : ExecutionNode → Table Uuid Json → NodeExecutionResult}
    (loopFree : LoopFree setup.graph) (distinct : (setup.graph.nodes.map ExecutionNode.id).Nodup)
    (acyclic : Digraph.Acyclic setup.graph.Connected)
    (undisturbed : Undisturbed setup envelope answer) {fuel : Nat}
    {outcome : ExecutionOutcome} {last : RunState}
    (finished : runInner setup envelope fuel = some (.ok outcome, last)) :
    (∀ id, FailedIn outcome.nodeStates id ↔ FailedItself last.log id ∨
      ∃ source, setup.graph.Connected source id ∧ FailedIn outcome.nodeStates source) ∧
    (∀ id, FailedIn outcome.nodeStates id ↔ ∃ origin, FailedItself last.log origin ∧
        ReflTransGen setup.graph.Connected origin id) ∧
    (∀ ancestor id, TransGen setup.graph.Connected ancestor id →
      FailedIn outcome.nodeStates ancestor → ∀ position, .called position id ∉ last.log) ∧
    ∀ (smaller : RunSetup) (budget : Option BudgetEnvelope),
      smaller.graph = setup.graph.without (hasFailed outcome.nodeStates) →
      Undisturbed smaller budget answer →
        (0 < smaller.maxConcurrent → ∃ fuel other final,
          runInner smaller budget fuel = some (.ok other, final)) ∧ ∀ fuel other final,
          runInner smaller budget fuel = some (.ok other, final) →
            ∀ id, ¬ FailedIn outcome.nodeStates id →
              other.nodeStates id = outcome.nodeStates id := by
  obtain ⟨rfl, exactly, settled⟩ := runInner_settlement loopFree distinct undisturbed finished
  refine ⟨fun id => exactly.failedIn_iff_cause settled, ?_, ?_, ?_⟩
  · intro id
    constructor
    · intro failed
      -- walk back along failed predecessors; the graph has no cycle
      induction id using acyclic.wellFounded.induction with
      | _ id ih =>
      rcases (exactly.failedIn_iff_cause settled).mp failed with own | ⟨source, edge, bad⟩
      · exact ⟨id, own, .refl⟩
      · obtain ⟨origin, own, walk⟩ := ih source edge bad
        exact ⟨origin, own, walk.tail edge⟩
    · rintro ⟨origin, own, walk⟩
      exact settled.failedIn_of_walk walk ((exactly.failedIn_iff_cause settled).mpr (Or.inl own))
  · intro ancestor id walk failed position called
    -- the last edge of the walk leaves a failed node
    obtain ⟨source, before, edge⟩ := TransGen.tail'_iff.mp walk
    have bad := settled.failedIn_of_walk before failed
    exact exactly.not_failed_source (exactly.called position id called).1 edge
      (exactly.failedIn_iff.mp bad)
  · intro smaller budget same calm
    have noLoops : LoopFree smaller.graph := by
      rw [same]
      intro node member
      exact loopFree node (mem_nodes_without.mp member).1
    have separate : (smaller.graph.nodes.map ExecutionNode.id).Nodup := by
      rw [same]
      exact (filter_sublist.map _).nodup distinct
    refine ⟨runInner_ok calm.uncancelled noLoops separate, ?_⟩
    intro fuel other final ended id alive
    obtain ⟨rfl, -, reduced⟩ := runInner_settlement noLoops separate calm ended
    rw [same] at reduced
    exact (settled.agree acyclic reduced id alive).1

theorem undisturbed_of_none (answer : ExecutionNode → Table Uuid Json → NodeExecutionResult)
    (uncancelled : Uncancelled setup)
    (pure : ∀ number node context, setup.executor number node context = answer
      node context.parentOutputs) : Undisturbed setup none answer :=
  ⟨uncancelled, fun _ id result _ _ reached =>
      (charged_of_none reached.envelope_none id result).2, pure⟩

/-- Node 2 fails, 3 depends on it; the conditional node 4 selects 5 and not
6. -/
def cascadeGraph : ExecutionGraph :=
  compiledGraph sampleOptions (workflow
    [plainNode 1 .generate, plainNode 2 .generate, plainNode 3 .generate,
      plainNode 4 .conditional, plainNode 5 .generate, plainNode 6 .generate]
    [⟨1, 2, none⟩, ⟨2, 3, none⟩, ⟨1, 4, none⟩, ⟨4, 5, some "true"⟩, ⟨4, 6, some "false"⟩])

theorem cascadeGraph_loopFree : LoopFree cascadeGraph := by
  unfold LoopFree
  decide

theorem cascadeGraph_acyclic : Digraph.Acyclic cascadeGraph.Connected := by
  have grows : ∀ edge ∈ cascadeGraph.edges, edge.source.val < edge.target.val := by
    decide
  refine Digraph.acyclic_of_rank Fin.val ?_
  rintro left right ⟨edge, member, rfl, rfl⟩
  exact grows edge member

def secondFails (node : ExecutionNode) (_ : Table Uuid Json) :
    NodeExecutionResult :=
  { state := if node.id = 2 then .failed "provider error" else .succeeded
    usage := none
    output := none }

def cascadeSetup : RunSetup :=
  sampleSetup cascadeGraph (fun _ node context => secondFails node context.parentOutputs)

theorem cascadeSample_exact :
    ∃ outcome last, runInner cascadeSetup none 10 = some (.ok outcome, last) ∧
      FailedIn outcome.nodeStates 3 ∧ (∀ position, .called position 3 ∉ last.log) ∧
      outcome.nodeStates 5 = some .succeeded ∧ outcome.nodeStates 6 = none ∧
      ∃ fuel other final, runInner
          { cascadeSetup with
            graph := cascadeGraph.without (hasFailed outcome.nodeStates) }
          none fuel = some (.ok other, final) ∧
        other.nodeStates 5 = some .succeeded ∧
        other.nodeStates 6 = none := by
  have run : (runInner cascadeSetup none 10).map
      (fun result => (result.1.toOption.map
        (fun outcome => ([2, 3, 5, 6] : List Uuid).map outcome.nodeStates))) =
      some (some [some (.failed "provider error"),
        some (.failed "dependency failed"), some .succeeded, none]) := by
    decide
  obtain ⟨⟨result, last⟩, finished, states⟩ := Option.map_eq_some_iff.mp run
  cases result with
  | error error => cases states
  | ok outcome =>
    have states := Option.some.inj states
    simp only [map_cons, map_nil, cons.injEq, and_true] at states
    obtain ⟨second, third, fifth, sixth⟩ := states
    have edge : cascadeSetup.graph.Connected 2 3 := ⟨⟨2, 3, none⟩, by decide, rfl, rfl⟩
    obtain ⟨-, -, uncalled, deleted⟩ := failure_cascade_exact
      cascadeGraph_loopFree (by decide) cascadeGraph_acyclic
      (undisturbed_of_none secondFails (uncancelled_of_none rfl) (fun _ _ _ => rfl)) finished
    obtain ⟨terminates, agrees⟩ := deleted
      { cascadeSetup with
        graph := cascadeGraph.without (hasFailed outcome.nodeStates) }
      none rfl (undisturbed_of_none secondFails (uncancelled_of_none rfl) (fun _ _ _ => rfl))
    obtain ⟨fuel, other, final, ended⟩ := terminates (show 0 < cascadeSetup.maxConcurrent by decide)
    refine ⟨outcome, last, finished, ⟨_, third⟩,
      uncalled 2 3 (.single edge) ⟨_, second⟩, fifth, sixth, fuel, other, final, ended, ?_, ?_⟩
    · rw [agrees fuel other final ended 5 (by simp [FailedIn, fifth]), fifth]
    · rw [agrees fuel other final ended 6 (by simp [FailedIn, sixth]), sixth]

theorem cascadeSample_fed : ∃ config, Reachable cascadeSetup none config ∧
    callCount config.2.log 2 = 1 ∧ ∃ result, .returned 1 result ∈ config.2.log := by
  obtain ⟨first, second, start, round, called⟩ : ∃ first second,
      schedLoop cascadeSetup (cascadeSetup.initial none) = .again first ∧
      schedLoop cascadeSetup first = .again second ∧ .called 1 2 ∈ second.log :=
    ⟨_, _, rfl, rfl, .tail _ (.tail _ (.head _))⟩
  have reached := reachable_of_rounds (.tail (.single start) round)
  obtain ⟨once, parents, -⟩ := calls_fed_by_parents cascadeGraph_loopFree (by decide)
    (uncancelled_of_none rfl).returning reached called
  obtain ⟨-, result, returned, -⟩ := parents 1 ⟨⟨1, 2, none⟩, by decide, rfl, rfl⟩
  exact ⟨_, reached, once, result, returned⟩

theorem cascadeSample_called : ∃ fuel outcome last,
    runInner cascadeSetup none fuel = some (.ok outcome, last) ∧
    ((∃ position, .called position 6 ∈ last.log) ↔
      Runs cascadeGraph outcome.nodeStates outcome.outputs 6) := by
  obtain ⟨fuel, outcome, last, finished, called⟩ := called_iff_runs cascadeGraph_loopFree
    (by decide) (uncancelled_of_none rfl : Uncancelled cascadeSetup) (by decide)
  exact ⟨fuel, outcome, last, finished, called 6⟩

end FusionRouter
