import FusionRouter.Compiler.Compiled
import FusionRouter.Scheduler.Arrival
import FusionRouter.Scheduler.LoopExit

/-!
# Loop iterations

A plain node that completes a back-edge re-arms the loop head and its direct
successors.  Successors whose predecessors are not reset before them become
ready, so that the next pass calls them together with the head.  Nodes further
down the body, whose edges are still marked as activated, are not called again,
and a conditional node leaves the head completed.
-/

namespace FusionRouter

open Relation RunState
open List hiding after

namespace WorkQueue

variable {queue : WorkQueue} {id : Uuid}

theorem resetLoopBody_ready_of_not_mem (ready : id ∈ queue.ready) (outside : id ∉ bodyIds) :
    id ∈ (queue.resetLoopBody index bodyIds).ready := by
  refine foldlRecOn (motive := fun other : WorkQueue => id ∈ other.ready) _ _ ready ?_
  intro other kept body member
  have different : id ≠ body := by
    rintro rfl
    exact outside member
  have remains : id ∈ other.ready.erase body := Finset.mem_erase.mpr ⟨different, kept⟩
  simp only [resetBodyNode]
  split
  · exact Finset.mem_insert_of_mem remains
  · exact remains

theorem resetBodyNode_ready (fed : index.graph.incoming id ≠ [])
    (satisfied : ∀ source ∈ index.graph.incoming id, source ≠ id ∧ source ∈ queue.completed ∧
        (source, id) ∈ queue.activatedEdges) (gating : ∀ source ∈ index.graph.incoming id,
      (source, id) ∉ index.backEdges) : id ∈ (queue.resetBodyNode index id).ready := by
  have total : index.totalIncoming id = (index.graph.incoming id).length := by
    unfold QueueIndex.totalIncoming ExecutionGraph.incoming
    rw [length_map, countP_eq_length]
    intro edge member
    have arrives : edge.target = id := of_decide_eq_true (mem_filter.mp member).2
    have forward := gating edge.source (mem_map.mpr ⟨edge, member, rfl⟩)
    simpa [QueueIndex.gates, arrives] using forward
  have full : stillSatisfied index
      { queue with
        completed := queue.completed.erase id
        inProgress := queue.inProgress.erase id
        failed := queue.failed.erase id
        ready := queue.ready.erase id } id =
      (index.graph.incoming id).length := by
    unfold stillSatisfied
    rw [countP_eq_length]
    intro source member
    obtain ⟨different, completed, activated⟩ := satisfied source member
    exact decide_eq_true ⟨Finset.mem_erase.mpr ⟨different, completed⟩, activated⟩
  have positive := length_pos_iff.mpr fed
  simp only [resetBodyNode, full, total, true_and, if_pos positive]
  exact Finset.mem_insert_self _ _

theorem ready_subset_activateFresh (index : QueueIndex) (queue : WorkQueue) (source target : Uuid) :
    queue.ready ⊆ (queue.activateFresh index source target).ready := by
  unfold activateFresh countEdge
  split
  · exact Finset.Subset.refl _
  · dsimp only
    split
    · exact Finset.subset_insert _ _
    · exact Finset.Subset.refl _

/-- The node is ready and is not marked otherwise. -/
structure Waiting (queue : WorkQueue) (id : Uuid) : Prop where
  ready : id ∈ queue.ready
  incomplete : id ∉ queue.completed
  unfailed : id ∉ queue.failed

namespace Waiting

section

variable (waiting : queue.Waiting id)
include waiting

theorem grow (same : SameMarks other queue)
    (ready : queue.ready ⊆ other.ready) : other.Waiting id := by
  refine ⟨ready waiting.ready, ?_, ?_⟩
  · rw [same.completed]
    exact waiting.incomplete
  · rw [same.failed]
    exact waiting.unfailed

theorem markConditionalCompleted (different : id ≠ other) :
    (queue.markConditionalCompleted other).Waiting id := by
  refine ⟨Finset.mem_erase.mpr ⟨different, waiting.ready⟩, ?_, waiting.unfailed⟩
  intro completed
  rcases Finset.mem_insert.mp completed with same | old
  · exact different same
  · exact waiting.incomplete old

theorem markCompleted (different : id ≠ other) : (queue.markCompleted index other).Waiting id := by
  unfold WorkQueue.markCompleted tryActivateDownstream
  have marked := waiting.markConditionalCompleted different
  split
  · exact marked
  · refine foldlRecOn (motive := fun queue => Waiting queue id) _ _ marked ?_
    intro queue waiting target _
    exact waiting.grow (activateFresh_marks index other queue target)
      (ready_subset_activateFresh index queue other target)

theorem activateEdge : (queue.activateEdge index source target).Waiting id := by
  refine waiting.grow (activateEdge_marks index queue source target) ?_
  unfold WorkQueue.activateEdge
  split
  · exact Finset.subset_insert _ _
  · exact ready_subset_activateFresh index queue source target

theorem activateEdges {targets : List Uuid} :
    (targets.foldl (fun queue target => queue.activateEdge index source target) queue).Waiting id :=
  foldlRecOn (motive := fun queue => Waiting queue id) _ _ waiting
    (fun _ waiting _ _ => waiting.activateEdge)

theorem resetLoopBody (outside : id ∉ bodyIds) :
    (queue.resetLoopBody index bodyIds).Waiting id := by
  have marks := resetLoopBody_marks index queue bodyIds
  refine ⟨resetLoopBody_ready_of_not_mem waiting.ready outside, ?_, ?_⟩
  · rw [marks.completed]
    exact fun member => waiting.incomplete (Finset.mem_sdiff.mp member).1
  · rw [marks.failed]
    exact fun member => waiting.unfailed (Finset.mem_sdiff.mp member).1

theorem resetReady : (queue.resetReady other).Waiting id :=
  ⟨Finset.mem_insert_of_mem waiting.ready,
    fun member => waiting.incomplete (Finset.mem_of_mem_erase member),
    fun member => waiting.unfailed (Finset.mem_of_mem_erase member)⟩

end

theorem resetReady_self (queue : WorkQueue) (id : Uuid) : (queue.resetReady id).Waiting id :=
  ⟨Finset.mem_insert_self _ _, Finset.notMem_erase _ _, Finset.notMem_erase _ _⟩

/-- A node of the body becomes ready when none of its predecessors is reset
before it. -/
theorem of_resetLoopBody (last : id ∉ after) (fed : index.graph.incoming id ≠ [])
    (satisfied : ∀ source ∈ index.graph.incoming id,
      source ≠ id ∧ source ∉ before ∧ source ∈ queue.completed ∧
        (source, id) ∈ queue.activatedEdges) (gating : ∀ source ∈ index.graph.incoming id,
      (source, id) ∉ index.backEdges) :
    (queue.resetLoopBody index (before ++ id :: after)).Waiting id := by
  have all := resetLoopBody_marks index queue (before ++ id :: after)
  refine ⟨?_, by simp [all.completed], by simp [all.failed]⟩
  have marks := resetLoopBody_marks index queue before
  have activated := resetLoopBody_activated index queue before
  unfold WorkQueue.resetLoopBody at marks activated ⊢
  rw [foldl_append, foldl_cons]
  refine resetLoopBody_ready_of_not_mem (resetBodyNode_ready fed ?_ gating) last
  intro source member
  obtain ⟨different, outside, completed, present⟩ := satisfied source member
  refine ⟨different, ?_, activated ▸ present⟩
  rw [marks.completed]
  exact Finset.mem_sdiff.mpr ⟨completed, by simpa using outside⟩

end Waiting

end WorkQueue

/-- The node waits for its next call. -/
structure Waits (state : RunState) (id : Uuid) : Prop where
  waiting : state.queue.Waiting id
  pending : state.nodeStates id = some .pending

/-- A result of `other` does not touch a waiting `id`: it is not its own, and
the loops whose bodies it can reset do not hold `id`. -/
structure LeavesAlone (setup : RunSetup) (other id : Uuid) : Prop where
  different : id ≠ other
  head : setup.graph.kindAt other = some .loop → id ∉ setup.graph.bodyIds other
  back : ∀ loopId, setup.index.loopBackTarget other = some loopId → id ∉ setup.graph.bodyIds loopId

namespace Waits

variable {state following : RunState} {id other : Uuid}

theorem insert (pending : state.nodeStates id = some .pending) (different : id ≠ other) :
    state.nodeStates.insert other value id = some .pending := by
  rw [Table.insert_apply, if_neg different]
  exact pending

theorem rearmBody (pending : state.nodeStates id = some .pending) :
    (RunState.rearmBody setup state loopId).nodeStates id = some .pending := by
  simp only [RunState.rearmBody, Table.foldl_insert_apply]
  split
  · rfl
  · exact pending

theorem settles (waits : Waits state id) (alone : LeavesAlone setup other id)
    (success : result.state = .succeeded)
    (settles : Settles setup state other result (.next following)) : Waits following id := by
  have recorded : (state.recordSuccess other (stored result)).nodeStates id =
      some .pending := insert waits.pending alone.different
  have completed : (state.queue.markCompleted setup.index other).Waiting id :=
    waits.waiting.markCompleted alone.different
  cases settles with
  | conditional =>
    exact ⟨(waits.waiting.markConditionalCompleted alone.different).activateEdges, recorded⟩
  | continues _ _ kind =>
    exact ⟨(completed.resetLoopBody (alone.head kind)).activateEdges, rearmBody recorded⟩
  | exits => exact ⟨completed.activateEdges, recorded⟩
  | plain | capped => exact ⟨completed, recorded⟩
  | iterates loopId _ _ _ _ target =>
    refine ⟨(completed.resetLoopBody (alone.back loopId target)).resetReady
      |>.activateEdge, ?_⟩
    simp only [nextIteration, Table.insert_apply]
    split
    · rfl
    · exact rearmBody recorded
  | failed message failure => simp [success] at failure
  | other notSuccess => exact (notSuccess success).elim

end Waits

/-- A result that takes the back-edge from `source` into `head` while fewer than
`max_iterations` were used: the first back-edge of a plain node, or one that a
conditional node or another loop head selects. -/
structure Traverses (setup : RunSetup) (state : RunState) (source : Uuid)
    (result : NodeExecutionResult) (head : Uuid) : Prop where
  success : result.state = .succeeded
  back : (source, head) ∈ setup.index.backEdges
  below : ∃ node, setup.graph.nodeAt head = some node ∧ state.loopIterations head < node.maxIters
  taken : (source ∈ setup.graph.selectiveSources ∧ Selects setup source result head) ∨
    (source ∉ setup.graph.selectiveSources ∧ setup.index.loopBackTarget source = some head)

/-- A node on a path from the non-exit successors of the head to `source` that
does not lead through the head. -/
def OnBody (graph : ExecutionGraph) (head source id : Uuid) : Prop :=
  ∃ first, first ∈ graph.bodyIds head ∧
    ReflTransGen (fun left right => graph.Connected left right ∧ left ≠ head) first id ∧
    ReflTransGen (fun left right => graph.Connected left right ∧ left ≠ head)
      id source ∧ source ≠ head

/-- The back-edge is taken by a plain node, every node of the body is reset
while its predecessors are completed, and the results that are still to be
folded do not touch the loop. -/
structure Renews (setup : RunSetup) (head source : Uuid) (state : RunState)
    (rest : List (Uuid × NodeExecutionResult)) : Prop where
  plain : source ∉ setup.graph.selectiveSources
  body : ∀ id, OnBody setup.graph head source id →
    ∃ before after, setup.graph.bodyIds head = before ++ id :: after ∧
      id ∉ after ∧ ∀ left, left ∈ setup.graph.incoming id →
        left ≠ id ∧ left ∉ before ∧ left ∈ state.queue.completed ∧
          (left, id) ∈ state.queue.activatedEdges ∧ (left, id) ∉ setup.index.backEdges
  waiting : ∀ other, other ∈ rest.map Prod.fst → ∀ id,
    id = head ∨ OnBody setup.graph head source id → LeavesAlone setup other id

theorem OnBody.source {head source id : Uuid} (onBody : OnBody graph head source id) :
    OnBody graph head source source := by
  obtain ⟨first, member, start, finish, different⟩ := onBody
  exact ⟨first, member, start.trans finish, .refl, different⟩

section

variable {source head id : Uuid}

theorem Traverses.of_same (traverses : Traverses setup right source result head)
    (same : SameRun left right) : Traverses setup left source result head :=
  ⟨traverses.success, traverses.back, same.loopIterations ▸ traverses.below, traverses.taken⟩

theorem Renews.of_same (renews : Renews setup head source right rest)
    (same : SameRun left right) : Renews setup head source left rest :=
  ⟨renews.plain, same.queue ▸ renews.body, renews.waiting⟩

/-- The head and its body wait after the back-edge was taken. -/
theorem Traverses.waits {following : RunState}
    (traverses : Traverses setup state source result head)
    (renews : Renews setup head source state rest)
    (settles : Settles setup state source result (.next following)) :
    ∀ id, id = head ∨ OnBody setup.graph head source id → Waits following id := by
  have target : setup.index.loopBackTarget source = some head := by
    rcases traverses.taken with ⟨selective, -⟩ | ⟨-, target⟩
    · exact (renews.plain selective).elim
    · exact target
  obtain ⟨node, found, below⟩ := traverses.below
  cases settles with
  | conditional _ kind =>
    exact (renews.plain (mem_selectiveSources_of_kindAt (Or.inr kind))).elim
  | continues _ _ kind | exits _ kind =>
    exact (renews.plain (mem_selectiveSources_of_kindAt (Or.inl kind))).elim
  | plain _ _ _ forward => simp [target] at forward
  | capped loopId loopNode _ _ _ other found' reached =>
    cases target.symm.trans other
    cases found.symm.trans found'
    omega
  | failed message failure => simp [traverses.success] at failure
  | other notSuccess => exact (notSuccess traverses.success).elim
  | iterates loopId loopNode _ _ _ other =>
    cases target.symm.trans other
    have marks := WorkQueue.markCompleted_marks setup.index state.queue source
    rintro id (rfl | onBody)
    · refine ⟨(WorkQueue.Waiting.resetReady_self _ id).activateEdge, ?_⟩
      simp [nextIteration]
    · obtain ⟨before, after, split, last, incoming⟩ := renews.body id onBody
      have member : id ∈ setup.graph.bodyIds head := by
        rw [split]
        exact mem_append_right _ mem_cons_self
      have edge : setup.graph.Connected head id := connected_of_selected member
      have fed : setup.index.graph.incoming id ≠ [] :=
        ne_nil_of_mem (ExecutionGraph.mem_incoming.mpr edge)
      have reset : ((state.queue.markCompleted setup.index source).resetLoopBody setup.index
            (setup.graph.bodyIds head)).Waiting id := by
        rw [split]
        refine WorkQueue.Waiting.of_resetLoopBody last fed ?_ ?_
        · intro left arrives
          obtain ⟨different, outside, completed, activated, -⟩ := incoming left arrives
          refine ⟨different, outside, ?_,
            WorkQueue.mem_activated_markCompleted.mpr (Or.inl activated)⟩
          rw [marks.completed]
          exact Finset.mem_insert_of_mem completed
        · intro left arrives
          exact (incoming left arrives).2.2.2.2
      refine ⟨reset.resetReady.activateEdge, ?_⟩
      simp only [nextIteration, Table.insert_apply, RunState.rearmBody,
        Table.foldl_insert_apply, if_pos member]
      split <;> rfl

theorem known_of_renews (compiled : compile options ir = .ok setup.graph)
    (traverses : Traverses setup state source result head)
    (renews : Renews setup head source state rest)
    (member : id = head ∨ OnBody setup.graph head source id) :
    id ∈ setup.graph.nodes.map ExecutionNode.id := by
  obtain ⟨live, final, stages⟩ := compile_stages compiled
  rcases member with rfl | onBody
  · obtain ⟨-, edge, member, -, rfl, -⟩ := ExecutionGraph.mem_backEdges_iff.mp traverses.back
    exact (stages.graph_edge_known member).2
  · obtain ⟨before, after, split, -⟩ := renews.body id onBody
    have member : id ∈ setup.graph.bodyIds head := by
      rw [split]
      exact mem_append_right _ mem_cons_self
    obtain ⟨edge, present, rfl, rfl⟩ := connected_of_selected member
    exact (stages.graph_edge_known present).2

theorem Waits.of_same (waits : Waits right id) (same : SameRun left right) : Waits left id :=
  ⟨same.queue ▸ waits.waiting, same.nodeStates ▸ waits.pending⟩

/-- Where a run can be after a fold: behind the end of the batch, or at one of
its later folds. -/
def BehindBatch (setup : RunSetup) (batchIds : List Uuid)
    (rest : List (Uuid × NodeExecutionResult)) (last : RunState)
    (later : Phase × RunState) : Prop :=
  ReflTransGen (Step setup) (.idle, last) later ∨
    ∃ suffix there, suffix <:+ rest ∧ later = (.folding batchIds suffix, there)

/-- The folds of a batch lead to the next pass, to which what waited still
waits, and no other configurations lie in between. -/
theorem Reachable.batch_ends {waiting : Uuid → Prop}
    (reached : Reachable setup none (.folding batchIds rest, state))
    (succeeds : ∀ id result, (id, result) ∈ rest → result.state = .succeeded)
    (alone : ∀ other ∈ rest.map Prod.fst, ∀ id, waiting id →
      LeavesAlone setup other id) (waits : ∀ id, waiting id → Waits state id) :
    ∃ last, ReflTransGen (Step setup) (.folding batchIds rest, state)
        (.idle, last) ∧ (∀ id, waiting id → Waits last id) ∧
      ∀ later, ReflTransGen (Step setup) (.folding batchIds rest, state) later →
        BehindBatch setup batchIds rest last later := by
  induction rest generalizing state with
  | nil =>
    refine ⟨state, .single .done, waits, ?_⟩
    intro later steps
    rcases ReflTransGen.cases_head steps with rfl | ⟨next, step, steps⟩
    · exact Or.inr ⟨[], state, suffix_rfl, rfl⟩
    · cases step
      exact Or.inl steps
  | cons first rest ih =>
    obtain ⟨id, result⟩ := first
    obtain ⟨following, processed⟩ := reached.processed_next
    have step : Step setup (.folding batchIds ((id, result) :: rest), state)
        (.folding batchIds rest, following) := .fold processed
    have charged := charged_same setup state id result
    have kept : ∀ other, waiting other → Waits following other := by
      intro other member
      exact ((waits other member).of_same charged).settles
        (alone id mem_cons_self other member) (succeeds id result mem_cons_self)
        (processResult_next processed)
    obtain ⟨last, steps, still, between⟩ := ih (reached.tail step)
      (fun other value member => succeeds other value (mem_cons_of_mem _ member))
      (fun other member => alone other (mem_cons_of_mem _ member)) kept
    refine ⟨last, .head step steps, still, ?_⟩
    intro later steps
    rcases ReflTransGen.cases_head steps with rfl | ⟨next, other, steps⟩
    · exact Or.inr ⟨_, state, suffix_rfl, rfl⟩
    · cases other.deterministic step
      rcases between later steps with after | ⟨suffix, there, within, same⟩
      · exact Or.inl after
      · exact Or.inr ⟨suffix, there, within.trans (suffix_cons _ _), same⟩

/-- With room for all nodes, the next pass calls a node that waits. -/
theorem Waits.dispatched (waits : Waits state id) (reached : Reachable setup none (.idle, state))
    (alive : state.cancelled setup = false) (fits : setup.graph.nodes.length ≤ setup.maxConcurrent)
    (known : id ∈ setup.graph.nodes.map ExecutionNode.id) :
    ∃ call, DispatchesFrom setup none state call ∧ call.node.id = id := by
  have free : state.queue.inProgress = ∅ :=
    Finset.eq_empty_iff_forall_notMem.mpr (fun other member =>
      not_mem_nil (reached.inProgress_pending other member))
  have unsettled : WorkQueue.settledIn state.nodeStates id = false := by
    simp [WorkQueue.settledIn, waits.pending, NodeState.isTerminal]
  obtain ⟨ready, incomplete, unfailed⟩ := waits.waiting
  have isReady : state.queue.isReady state.nodeStates id = true := by
    simp [WorkQueue.isReady, ready, incomplete, unfailed, free, unsettled]
  have proceeds : Proceeds setup state := by
    refine ⟨alive, ?_⟩
    obtain ⟨node, member, rfl⟩ := mem_map.mp known
    refine all_eq_false.mpr ⟨node, member, ?_⟩
    simp [incomplete, unfailed, unsettled]
  have batched : id ∈ state.batch setup := by
    have chosen : id ∈ (setup.graph.nodes.map ExecutionNode.id).filter
        (state.queue.isReady state.nodeStates) := mem_filter.mpr ⟨known, isReady⟩
    have short : ((setup.graph.nodes.map ExecutionNode.id).filter
        (state.queue.isReady state.nodeStates)).length ≤
          setup.maxConcurrent :=
      (length_filter_le _ _).trans (by simpa using fits)
    have untruncated : state.queue.getReady setup.index state.nodeStates =
        (setup.graph.nodes.map ExecutionNode.id).filter (state.queue.isReady state.nodeStates) := by
      refine if_neg ?_
      simp only [RunSetup.index, QueueIndex.new, free, Finset.card_empty]
      omega
    unfold RunState.batch
    rw [untruncated, take_of_length_le short]
    exact chosen
  obtain ⟨⟨calls, dispatched⟩, started⟩ := dispatch_known
    (state.batch setup) (fun _ => known_of_mem_batch) state.entered
  rw [← (dispatch_ok started).1] at batched
  obtain ⟨call, inside, same⟩ := mem_map.mp batched
  exact ⟨call, ⟨calls, dispatched, reached, proceeds, started, inside⟩, same⟩

/-- The next result to be folded takes the back-edge from `source` into
`head`. -/
def TraversesAt (setup : RunSetup) (source head : Uuid) :
    Phase × RunState → Prop
  | (.folding _ ((id, result) :: _), state) =>
    id = source ∧ Traverses setup state source result head
  | _ => False

structure NextCall (setup : RunSetup) (config : Phase × RunState) (id : Uuid)
    (state : RunState) (call : Call) : Prop where
  steps : ReflTransGen (Step setup) config (.idle, state)
  dispatches : DispatchesFrom setup none state call
  same : call.node.id = id
  first : ∀ other again, ReflTransGen (Step setup) config (.idle, other) →
    DispatchesFrom setup none other again → again.node.id = id →
      ReflTransGen (Step setup) (.idle, state) (.idle, other)

/-- The head is called again, and if it decides to continue, every node of the
body is called again before the back-edge is taken the next time. -/
def RunsBody (setup : RunSetup) (source head : Uuid) (config : Phase × RunState) : Prop :=
  ∃ state call, NextCall setup config head state call ∧
    ((stored (call.result setup).2).asBool.getD false = true →
      ∀ id, OnBody setup.graph head source id →
        ∃ again other, NextCall setup config id again other ∧
          ∀ later, TransGen (Step setup) config later → TraversesAt setup source head later →
              ReflTransGen (Step setup) (.idle, again) later)

end

/-- In a run without failures, with room for all nodes, an iteration whose
back-edge is taken by a plain node and whose body is renewed runs the body. -/
theorem iteration_runs_body (options : CompilerOptions) (ir : WorkflowIR)
    (setup : RunSetup) (compiled : compile options ir = .ok setup.graph)
    (uncancelled : Uncancelled setup)
    (succeeds : ∀ number node context, (setup.executor number node context).state = .succeeded)
    (fits : setup.graph.nodes.length ≤ setup.maxConcurrent)
    (source head : Uuid) (batchIds : List Uuid) (result : NodeExecutionResult)
    (rest : List (Uuid × NodeExecutionResult)) (state : RunState)
    (reached : Reachable setup none (.folding batchIds ((source, result) :: rest), state))
    (traverses : Traverses setup state source result head)
    (renews : Renews setup head source state rest) :
    RunsBody setup source head (.folding batchIds ((source, result) :: rest), state) := by
  obtain ⟨following, processed⟩ := reached.processed_next
  have step : Step setup (.folding batchIds ((source, result) :: rest), state)
      (.folding batchIds rest, following) := .fold processed
  have charged := charged_same setup state source result
  have rearmed := (traverses.of_same charged).waits (renews.of_same charged)
    (processResult_next processed)
  have folded : Reachable setup none (.folding batchIds rest, following) := reached.tail step
  have succeeded : ∀ id value, (id, value) ∈ rest → value.state = .succeeded := by
    intro id value member
    have returned := reached.pending_returned uncancelled.returning (mem_cons_of_mem _ member)
    obtain ⟨call, -, -, rfl⟩ := reached.executed_of_returned returned
    exact succeeds _ _ _
  obtain ⟨last, steps, waits, between⟩ := folded.batch_ends succeeded renews.waiting rearmed
  have ends : ReflTransGen (Step setup)
      (.folding batchIds ((source, result) :: rest), state) (.idle, last) := .head step steps
  have after : ∀ later, TransGen (Step setup)
      (.folding batchIds ((source, result) :: rest), state) later →
        BehindBatch setup batchIds rest last later := by
    intro later walk
    obtain ⟨next, first, steps⟩ := TransGen.head'_iff.mp walk
    cases first.deterministic step
    exact between later steps
  -- the next pass calls everything that waits
  have called : ∀ id, id = head ∨ OnBody setup.graph head source id → ∃ call, NextCall setup
        (.folding batchIds ((source, result) :: rest), state) id last call := by
    intro id member
    obtain ⟨call, dispatches, rfl⟩ := (waits id member).dispatched
      (reached.trans ends) (uncancelled.alive last) fits
      (known_of_renews compiled traverses renews member)
    refine ⟨call, ends, dispatches, rfl, ?_⟩
    -- a call right behind the batch is the first one since the fold
    intro other again walk _ _
    rcases reflTransGen_iff_eq_or_transGen.mp walk with equal | walk
    · cases equal
    · rcases after _ walk with later | ⟨suffix, there, -, equal⟩
      · exact later
      · cases equal
  obtain ⟨call, next⟩ := called head (Or.inl rfl)
  refine ⟨last, call, next, ?_⟩
  intro _ id onBody
  obtain ⟨other, again⟩ := called id (Or.inr onBody)
  refine ⟨last, other, again, ?_⟩
  intro later walk taken
  rcases after later walk with behind | ⟨suffix, there, within, rfl⟩
  · exact behind
  · cases suffix with
    | nil => exact taken.elim
    | cons first suffix =>
      obtain ⟨rfl, -⟩ := taken
      have waiting : first.1 ∈ rest.map Prod.fst :=
        mem_map.mpr ⟨first, within.subset mem_cons_self, rfl⟩
      exact ((renews.waiting _ waiting _ (Or.inr onBody.source)).different rfl).elim

/-- The result of `source` is folded last in its batch, `marked` holds of the
state. -/
def foldsLast (source : Uuid) (marked : RunState → Bool) :
    Phase × RunState → Bool
  | (.folding _ [(id, result)], state) =>
    decide (id = source) && decide (result.state = .succeeded) && marked state
  | _ => false

theorem exists_foldsLast
    (run : (Loop.walk (advance setup) steps (.idle, setup.initial none)).map
      (foldsLast source marked) = some true) :
    ∃ batchIds result state, Reachable setup none (.folding batchIds [(source, result)], state) ∧
        result.state = .succeeded ∧ marked state = true := by
  obtain ⟨config, walked, folds⟩ := Option.map_eq_some_iff.mp run
  have reached := Loop.walk_sound (fun _ _ => step_of_advance) walked
  unfold foldsLast at folds
  split at folds
  · simp only [Bool.and_eq_true, decide_eq_true_eq] at folds
    obtain ⟨⟨rfl, success⟩, holds⟩ := folds
    exact ⟨_, _, _, reached, success, holds⟩
  · cases folds

theorem exitLoop_onBody {id : Uuid} (onBody : OnBody exitLoopGraph 1 2 id) : id = 2 := by
  obtain ⟨first, member, -, finish, -⟩ := onBody
  rcases ReflTransGen.cases_head finish with same | ⟨next, ⟨edge, away⟩, -⟩
  · exact same
  · rcases exitLoop_connected edge with ⟨rfl, -⟩ | ⟨rfl, -⟩ | ⟨rfl, -⟩
    · exact (away rfl).elim
    · exact (away rfl).elim
    · rfl

/-- The body of the loop completes its back-edge next to the head. -/
theorem exitLoop_runs_body :
    ∃ batchIds result state, Reachable (exitLoopSetup 6) none
        (.folding batchIds [(2, result)], state) ∧ Traverses (exitLoopSetup 6) state 2 result 1 ∧
      state.loopIterations 1 = 1 ∧ RunsBody (exitLoopSetup 6) 2 1
        (.folding batchIds [(2, result)], state) := by
  have run : (Loop.walk (advance (exitLoopSetup 6)) 8
      (.idle, (exitLoopSetup 6).initial none)).map (foldsLast 2 (fun state =>
        decide (state.loopIterations 1 = 1 ∧ 1 ∈ state.queue.completed ∧
          (1, 2) ∈ state.queue.activatedEdges))) = some true := by
    decide
  obtain ⟨batchIds, result, state, reached, success, marked⟩ := exists_foldsLast run
  obtain ⟨once, completed, activated⟩ := of_decide_eq_true marked
  have bound : ((exitLoopSetup 6).graph.nodeAt 1).map ExecutionNode.maxIters = some 3 := by
    decide
  obtain ⟨node, found, three⟩ := Option.map_eq_some_iff.mp bound
  have plain : 2 ∉ (exitLoopSetup 6).graph.selectiveSources := by
    decide
  have traverses : Traverses (exitLoopSetup 6) state 2 result 1 :=
    ⟨success, by decide, ⟨node, found, by omega⟩, Or.inr ⟨plain, by decide⟩⟩
  have renews : Renews (exitLoopSetup 6) 1 2 state [] := by
    refine ⟨plain, ?_, ?_⟩
    · intro id onBody
      cases exitLoop_onBody onBody
      refine ⟨[], [], by decide, not_mem_nil, ?_⟩
      intro left arrives
      have only : (exitLoopSetup 6).graph.incoming 2 = [1] := by
        decide
      rw [only, mem_singleton] at arrives
      subst arrives
      exact ⟨by decide, not_mem_nil, completed, activated, by decide⟩
    · intro other member
      exact (not_mem_nil member).elim
  exact ⟨batchIds, result, state, reached, traverses, once,
    iteration_runs_body sampleOptions exitLoopWorkflow (exitLoopSetup 6)
      (compile_eq_ok (by decide)) (uncancelled_of_none rfl)
      (fun _ _ _ => rfl) (by decide) 2 1 batchIds result [] state reached traverses renews⟩

/-- A loop head 1 with the body 2, 3. -/
def chainLoopWorkflow : WorkflowIR :=
  workflow [plainNode 1 .loop, plainNode 2 .generate, plainNode 3 .generate]
    [⟨1, 2, none⟩, ⟨2, 3, none⟩, ⟨3, 1, some "loop"⟩]

/-- The head always decides to continue. -/
def chainLoopSetup : RunSetup :=
  sampleSetup (compiledGraph sampleOptions chainLoopWorkflow) (fun _ _ _ =>
    { state := .succeeded
      usage := none
      output := some (.bool true) })

/-- From the fourth pass on, 3 is in no batch. -/
def skipsBodyEnd : Phase × RunState → Bool
  | (.idle, state) =>
    decide (3 ≤ state.passes → 3 ∉ state.batch chainLoopSetup)
  | _ => true

/-- The edge from 2 to 3 stays activated, so the second iteration calls 2 but
never 3. -/
theorem chain_body_not_repeated :
    ¬ ∀ (options : CompilerOptions) (ir : WorkflowIR) (graph : ExecutionGraph),
      compile options ir = .ok graph →
        ∀ (setup : RunSetup), setup.graph = graph → Uncancelled setup →
          (∀ number node context, (setup.executor number node context).state = .succeeded) →
            ∀ (source head : Uuid) (config : Phase × RunState), Reachable setup none config →
                TraversesAt setup source head config → RunsBody setup source head config := by
  intro always
  have runs := always sampleOptions chainLoopWorkflow _
    (compile_eq_ok (by decide)) chainLoopSetup rfl
    (uncancelled_of_none rfl) (fun _ _ _ => rfl) 3 1
  have run : (Loop.walk (advance chainLoopSetup) 7
      (.idle, chainLoopSetup.initial none)).map (foldsLast 3 (fun state =>
        decide (state.loopIterations 1 = 0 ∧ state.passes = 3))) = some true := by
    decide
  obtain ⟨batchIds, result, state, reached, success, marked⟩ := exists_foldsLast run
  obtain ⟨unused, passes⟩ := of_decide_eq_true marked
  have bound : (chainLoopSetup.graph.nodeAt 1).map ExecutionNode.maxIters = some 3 := by
    decide
  obtain ⟨node, found, three⟩ := Option.map_eq_some_iff.mp bound
  have traverses : Traverses chainLoopSetup state 3 result 1 :=
    ⟨success, by decide, ⟨node, found, by omega⟩,
      Or.inr ⟨by decide, by decide⟩⟩
  obtain ⟨next, call, -, body⟩ := runs _ reached ⟨rfl, traverses⟩
  have onBody : OnBody chainLoopSetup.graph 1 3 3 := by
    have edge : chainLoopSetup.graph.Connected 2 3 := ⟨⟨2, 3, none⟩, by decide, rfl, rfl⟩
    exact ⟨2, by decide, .single ⟨edge, by decide⟩, .refl, by decide⟩
  obtain ⟨again, other, ⟨steps, dispatches, same, -⟩, -⟩ := body rfl 3 onBody
  have late := passes_mono steps
  have unbatched := dispatches.reachable.checked skipsBodyEnd 30 (by decide)
  have batched := dispatches.mem_batch
  rw [same] at batched
  simp only [passes] at late
  exact of_decide_eq_true unbatched late batched

end FusionRouter
