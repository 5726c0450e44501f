import FusionRouter.Scheduler.FailureCascade

/-!
# Schedule independence

A settlement does not mention the order of the nodes and of the edges of its
graph, and an acyclic graph has only one settlement in which failures cascade
under the text of the scheduler.  So the order of the lists and the cap on
concurrent nodes, which decide the batches of a run, do not decide what the
run comes to.
-/

namespace FusionRouter

open ExecutionGraph

/-- The same nodes and edges, listed in another order. -/
structure Rearranged (left right : ExecutionGraph) : Prop where
  nodes : left.nodes.Perm right.nodes
  edges : left.edges.Perm right.edges

namespace Rearranged

variable (rearranged : Rearranged left right)

include rearranged

theorem symm : Rearranged right left :=
  ⟨rearranged.nodes.symm, rearranged.edges.symm⟩

theorem ids_perm : (left.nodes.map ExecutionNode.id).Perm
    (right.nodes.map ExecutionNode.id) := rearranged.nodes.map _

theorem incoming_perm (id : Uuid) : (left.incoming id).Perm (right.incoming id) :=
  (rearranged.edges.filter _).map _

variable {outputs : Table Uuid Json}

theorem connected_iff : left.Connected source target ↔ right.Connected source target := by
  rw [← mem_incoming, ← mem_incoming]
  exact (rearranged.incoming_perm target).mem_iff

theorem mem_selectiveSources {id : Uuid} :
    id ∈ left.selectiveSources ↔ id ∈ right.selectiveSources := by
  unfold selectiveSources
  rw [List.mem_toFinset, List.mem_toFinset]
  exact ((rearranged.nodes.filter _).map _).mem_iff

theorem mem_matchedTargets (output : Json) :
    target ∈ left.matchedTargets source output ↔ target ∈ right.matchedTargets source output :=
  (((rearranged.edges.filter _).filter _).map _).mem_iff

theorem loopFree (free : LoopFree right) : LoopFree left := by
  intro node member
  exact free node (rearranged.nodes.mem_iff.mp member)

theorem visibleOutputs_eq (outputs : Table Uuid Json) (id : Uuid) :
    visibleOutputs left outputs id = visibleOutputs right outputs id := by
  funext parent
  unfold visibleOutputs
  simp only [(rearranged.incoming_perm id).mem_iff]

theorem runs {id : Uuid} (running : Runs left states outputs id) :
    Runs right states outputs id := by
  refine ⟨rearranged.ids_perm.mem_iff.mp running.known,
    (rearranged.incoming_perm id).nodup_iff.mp running.separate, ?_⟩
  intro source edge
  obtain ⟨completed, fires⟩ := running.fired source (rearranged.connected_iff.mpr edge)
  refine ⟨completed, ?_⟩
  unfold Fires at fires ⊢
  rwa [rearranged.connected_iff, rearranged.mem_selectiveSources,
    rearranged.mem_matchedTargets] at fires

theorem settlement (settled : Settlement left answer states outputs) :
    Settlement right answer states outputs := by
  refine ⟨?_, ?_, ?_⟩
  · intro node member running
    rw [← rearranged.visibleOutputs_eq]
    exact settled.ran node (rearranged.nodes.mem_iff.mpr member) (rearranged.symm.runs running)
  · intro id blocked sources
    refine settled.idle id (fun running => blocked (rearranged.runs running)) ?_
    intro source edge
    exact sources source (rearranged.connected_iff.mp edge)
  · intro source target edge
    exact settled.cascaded source target (rearranged.connected_iff.mpr edge)

end Rearranged

/-- Every node behind a failed one carries the text of the cascade. -/
def CascadeMarked (graph : ExecutionGraph) (states : Table Uuid NodeState)
    (outputs : Table Uuid Json) : Prop :=
  ∀ source id, graph.Connected source id → FailedIn states source →
    states id = some (.failed "dependency failed") ∧ outputs id = none

theorem Settlement.unique {outputs after : Table Uuid Json}
    (acyclic : Digraph.Acyclic graph.Connected) (settled : Settlement graph answer states outputs)
    (marked : CascadeMarked graph states outputs) (settled' : Settlement graph answer later after)
    (marked' : CascadeMarked graph later after) (id : Uuid) :
    later id = states id ∧ after id = outputs id := by
  induction id using acyclic.wellFounded.induction with
  | _ id ih =>
  by_cases failing : ∃ source, graph.Connected source id ∧ FailedIn states source
  · obtain ⟨source, edge, message, failed⟩ := failing
    obtain ⟨state, output⟩ := marked source id edge ⟨message, failed⟩
    obtain ⟨state', output'⟩ := marked' source id edge ⟨message, (ih source edge).1.trans failed⟩
    exact ⟨state'.trans state.symm, output'.trans output.symm⟩
  · have whole : graph.without (fun _ => false) = graph := by
      simp [without]
    refine Settlement.agree_at rfl (fun _ _ => rfl) ih settled (whole.symm ▸ settled') ?_
    intro source edge failed
    exact failing ⟨source, edge, failed⟩

theorem runInner_marked (loopFree : LoopFree setup.graph)
    (distinct : (setup.graph.nodes.map ExecutionNode.id).Nodup)
    (undisturbed : Undisturbed setup none answer) {outcome : ExecutionOutcome}
    (finished : runInner setup none fuel = some (.ok outcome, last)) :
    Settlement setup.graph answer outcome.nodeStates outcome.outputs ∧
      CascadeMarked setup.graph outcome.nodeStates outcome.outputs := by
  obtain ⟨rfl, exactly, settled⟩ := runInner_settlement loopFree distinct undisturbed finished
  refine ⟨settled, ?_⟩
  intro source id edge failed
  have bad := exactly.failedIn_iff.mp failed
  have closed : id ∈ last.queue.failed := by
    rcases exactly.closing source bad id edge with done | waiting
    · exact done
    · cases waiting
  constructor
  · rcases exactly.failed id closed with ⟨result, _, returned, -⟩ | ⟨marked, -⟩
    · -- a node behind a failed one is never called
      obtain ⟨config, reached, ends⟩ := runInner_ends finished
      rw [ends.log] at returned
      obtain ⟨position, event⟩ := reached.called_of_returned returned
      rw [← ends.log] at event
      exact (exactly.not_failed_source (exactly.called position id event).1 edge bad).elim
    · exact marked
  · apply exactly.silent id
    intro done
    exact exactly.disjoint id done closed

/-- The order of the nodes, the order of the edges and the cap on concurrent
nodes change neither the final states nor the outputs. -/
theorem schedule_independent {first second : RunSetup}
    {answer : ExecutionNode → Table Uuid Json → NodeExecutionResult}
    (rearranged : Rearranged second.graph first.graph)
    (acyclic : Digraph.Acyclic first.graph.Connected)
    (distinct : (first.graph.nodes.map ExecutionNode.id).Nodup) (loopFree : LoopFree first.graph)
    (pure : ∀ number node context,
      first.executor number node context = answer node context.parentOutputs ∧
      second.executor number node context = answer node context.parentOutputs)
    (uncancelled : Uncancelled first ∧ Uncancelled second)
    (capped : 0 < first.maxConcurrent ∧ 0 < second.maxConcurrent) :
    (∃ fuel outcome last, runInner first none fuel = some (.ok outcome, last)) ∧
    (∃ fuel outcome last, runInner second none fuel = some (.ok outcome, last)) ∧
    ∀ fuel outcome last fuel' outcome' last', runInner first none fuel = some (.ok outcome, last) →
        runInner second none fuel' = some (.ok outcome', last') →
          outcome'.nodeStates = outcome.nodeStates ∧ outcome'.outputs = outcome.outputs := by
  have loopFree' := rearranged.loopFree loopFree
  have distinct' := rearranged.ids_perm.nodup_iff.mpr distinct
  refine ⟨runInner_ok uncancelled.1 loopFree distinct capped.1,
    runInner_ok uncancelled.2 loopFree' distinct' capped.2, ?_⟩
  intro fuel outcome last fuel' outcome' last' finished finished'
  obtain ⟨settled, marked⟩ := runInner_marked loopFree distinct
    (undisturbed_of_none answer uncancelled.1 (fun number node context =>
      (pure number node context).1)) finished
  obtain ⟨settled', marked'⟩ := runInner_marked loopFree' distinct'
    (undisturbed_of_none answer uncancelled.2 (fun number node context =>
      (pure number node context).2)) finished'
  have agree := settled.unique acyclic marked
    (rearranged.settlement settled') (by
      intro source id edge failed
      exact marked' source id (rearranged.connected_iff.mpr edge) failed)
  exact ⟨funext fun id => (agree id).1, funext fun id => (agree id).2⟩

/-- The run of `cascadeSetup` on reversed lists, one node at a time. -/
def reversedCascadeSetup : RunSetup :=
  { cascadeSetup with
    graph :=
      { cascadeGraph with
        nodes := cascadeGraph.nodes.reverse
        edges := cascadeGraph.edges.reverse }
    maxConcurrent := 1 }

theorem reversed_cascade_agrees :
    ∃ fuel outcome last fuel' outcome' last',
      runInner cascadeSetup none fuel = some (.ok outcome, last) ∧
      runInner reversedCascadeSetup none fuel' = some (.ok outcome', last') ∧
      outcome'.nodeStates = outcome.nodeStates ∧ outcome'.outputs = outcome.outputs := by
  have rearranged : Rearranged reversedCascadeSetup.graph cascadeSetup.graph :=
    ⟨List.reverse_perm _, List.reverse_perm _⟩
  have pure : ∀ number node context, cascadeSetup.executor number node context =
          secondFails node context.parentOutputs ∧
        reversedCascadeSetup.executor number node context =
          secondFails node context.parentOutputs := fun _ _ _ => ⟨rfl, rfl⟩
  obtain ⟨⟨fuel, outcome, last, finished⟩, ⟨fuel', outcome', last', finished'⟩, agree⟩ :=
    schedule_independent rearranged cascadeGraph_acyclic (by decide)
      cascadeGraph_loopFree pure ⟨uncancelled_of_none rfl, uncancelled_of_none rfl⟩
      ⟨show 0 < 4 by decide, show 0 < 1 by decide⟩
  exact ⟨fuel, outcome, last, fuel', outcome', last', finished, finished',
    agree fuel outcome last fuel' outcome' last' finished finished'⟩

end FusionRouter
