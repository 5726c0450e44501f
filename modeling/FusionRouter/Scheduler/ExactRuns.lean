import FusionRouter.Scheduler.LoopFree

/-!
# Runs without loops

In a run of a graph without loop heads no node is re-armed, so the marks of a
node say what became of it, and a cascade reaches every descendant of a node
that failed.
-/

namespace FusionRouter

open RunState List WorkQueue ExecutionGraph

/-- The edges a cascade may still push. -/
def cascadeWork (graph : ExecutionGraph) (visited : Finset Uuid) : Nat :=
  ∑ source ∈ (graph.edges.map ExecutionEdge.source).toFinset \ visited,
    (graph.outgoing source).length

theorem outgoing_eq_childrenOf (graph : ExecutionGraph) (id : Uuid) :
    graph.outgoing id = childrenOf graph.pairs id := by
  simp [outgoing, outgoingEdges, childrenOf, pairs, filter_map, Function.comp_def]

theorem cascadeWork_empty (graph : ExecutionGraph) : cascadeWork graph ∅ = graph.edges.length := by
  unfold cascadeWork
  rw [Finset.sdiff_empty]
  simp only [outgoing_eq_childrenOf]
  rw [sum_childrenOf_length graph.pairs]
  · simp [pairs]
  · intro pair member
    obtain ⟨edge, inside, rfl⟩ := mem_map.mp member
    exact mem_toFinset.mpr (mem_map.mpr ⟨edge, inside, rfl⟩)

variable {id : Uuid} {envelope : Option BudgetEnvelope} {state : RunState}

/-- The edge into `target` fires once `source` is completed in this way: a
conditional node fires the edges its output selects, any other node all. -/
def Fires (graph : ExecutionGraph) (states : Table Uuid NodeState)
    (outputs : Table Uuid Json) (source target : Uuid) : Prop :=
  graph.Connected source target ∧
    (source ∉ graph.selectiveSources ∨ states source = some .succeeded ∧
        target ∈ graph.matchedTargets source ((outputs source).getD .null))

theorem Fires.congr {outputs after : Table Uuid Json} (sameState : later source = states source)
    (sameOutput : after source = outputs source) :
    Fires graph later after source target ↔ Fires graph states outputs source target := by
  unfold Fires
  rw [sameState, sameOutput]

def firedTargets (graph : ExecutionGraph) (id : Uuid) (result : NodeExecutionResult) : List Uuid :=
  if id ∉ graph.selectiveSources then graph.outgoing id
  else if result.state = .succeeded then
    graph.matchedTargets id (stored result)
  else []

theorem firedTargets_plain (plain : id ∉ graph.selectiveSources) :
    firedTargets graph id result = graph.outgoing id := if_pos plain

theorem firedTargets_selective (selective : id ∈ graph.selectiveSources)
    (success : result.state = .succeeded) :
    firedTargets graph id result = graph.matchedTargets id (stored result) := by
  simp [firedTargets, selective, success]

theorem firedTargets_silent (selective : id ∈ graph.selectiveSources)
    (notSuccess : result.state ≠ .succeeded) : firedTargets graph id result = [] := by
  simp [firedTargets, selective, notSuccess]

theorem mem_firedTargets {outputs : Table Uuid Json} (state : states id = some result.state)
    (output : outputs id = if result.state = .succeeded then
      some (stored result) else none) :
    target ∈ firedTargets graph id result ↔ Fires graph states outputs id target := by
  unfold Fires
  rw [state]
  by_cases plain : id ∉ graph.selectiveSources
  · rw [firedTargets_plain plain, mem_outgoing]
    tauto
  · have selective := not_not.mp plain
    by_cases success : result.state = .succeeded
    · rw [firedTargets_selective selective success, output, if_pos success]
      have edge : target ∈ graph.matchedTargets id (stored result) →
          graph.Connected id target := connected_of_selected
      simp only [success, selective, Option.getD_some]
      tauto
    · simp [firedTargets_silent selective success, selective, success]

namespace Counts

variable {id target : Uuid} {queue : WorkQueue} {before after rest : List Uuid}

/-- What has completed behind a fold had completed before it or was still to be
folded. -/
theorem completed_or_pending
    (reason : other ∈ (queue.markConditionalCompleted id).completed ∨ other ∈
      rest) : other ∈ queue.completed ∨ other ∈ id :: rest := by
  rw [mem_cons]
  rcases reason with done | later
  · rcases Finset.mem_insert.mp done with same | old
    · exact Or.inr (Or.inl same)
    · exact Or.inl old
  · exact Or.inr (Or.inr later)

theorem completed (counts : Counts graph (id :: rest) queue) :
    Counts graph rest (queue.markConditionalCompleted id) := by
  refine counts.close id ?_ rfl rfl rfl (fun other => completed_or_pending)
  intro other
  rw [closed_markConditionalCompleted, Finset.mem_insert, mem_cons]
  tauto

theorem markFailed (counts : Counts graph before queue)
    (within : ∀ other ∈ after, other ∈ before)
    (kept : ∀ other ∈ before, other ≠ target → other ∈ after) :
    Counts graph after (queue.markFailed target) := by
  refine counts.close target ?_ rfl rfl rfl (fun other => Or.imp_right (within other))
  intro other
  have stays := kept other
  have was := within other
  rw [closed_markFailed, Finset.mem_insert]
  tauto

theorem initial (setup : RunSetup) (loopFree : LoopFree setup.graph)
    (envelope : Option BudgetEnvelope) : Counts setup.graph [] (setup.initial envelope).queue := by
  have unmarked : ∀ id, id ∉ (setup.initial envelope).queue.closed := by
    intro id
    simp [RunSetup.initial, new, closed]
  have ready : ∀ id, id ∈ (setup.initial envelope).queue.ready ↔
      id ∈ setup.graph.nodes.map ExecutionNode.id ∧ 0 = (setup.graph.incoming id).length := by
    intro id
    simp only [RunSetup.initial, new, RunSetup.index,
      loopFree.totalIncoming, mem_toFinset, mem_map, mem_filter, decide_eq_true_eq]
    constructor
    · rintro ⟨node, ⟨member, free⟩, rfl⟩
      exact ⟨⟨node, member, rfl⟩, free.symm⟩
    · rintro ⟨⟨node, member, rfl⟩, free⟩
      exact ⟨node, ⟨member, free.symm⟩, rfl⟩
  refine ⟨?_, ?_, ?_, ?_⟩
  · simp [RunSetup.initial, new]
  · simp [RunSetup.initial, new, activeSources]
  · intro id
    rw [ready id]
    constructor
    · rintro ⟨known, free⟩
      exact ⟨unmarked id, not_mem_nil, free, Or.inr known⟩
    · rintro ⟨-, -, free, reason⟩
      refine ⟨reason.resolve_left ?_, free⟩
      exact fun some => some (length_eq_zero_iff.mp free.symm)
  · simp [RunSetup.initial, new]

section Batch

variable {setup : RunSetup} {state : RunState} (counts : Counts setup.graph [] state.queue)
include counts

theorem full (member : id ∈ state.batch setup) :
    id ∉ state.queue.closed ∧
      state.queue.satisfiedIncoming id = (setup.graph.incoming id).length := by
  have facts := (counts.ready id).mp (queued_of_mem_batch member)
  exact ⟨facts.1, facts.2.2.1⟩

theorem batch :
    Counts setup.graph (state.batch setup) (markBatch (state.batch setup) state.entered).queue := by
  refine ⟨counts.edges, counts.satisfied, ?_, ?_⟩
  · intro id
    change id ∈ state.queue.ready \ (state.batch setup).toFinset ↔ _
    rw [Finset.mem_sdiff, mem_toFinset, counts.ready id]
    change _ ↔ id ∉ state.queue.closed ∧ id ∉ state.batch setup ∧
      state.queue.satisfiedIncoming id = _ ∧ _
    simp only [not_mem_nil, not_false_eq_true, true_and]
    tauto
  · intro id reason
    rcases reason with done | member
    · exact counts.ran id (Or.inl done)
    · exact (counts.full member).2

end Batch

end Counts

/-- The exact state of a run without loops.  `pending` are the nodes of the
batch that are still to be folded, `stack` the successors a cascade has not
reached yet. -/
structure Exact (graph : ExecutionGraph) (log : List Event)
    (outputs : Table Uuid Json) (pending stack : List Uuid)
    (queue : WorkQueue) (states : Table Uuid NodeState) : Prop where
  counts : Counts graph pending queue
  nodup : pending.Nodup
  apart : ∀ id, id ∈ pending → id ∉ queue.closed
  disjoint : ∀ id, id ∈ queue.completed → id ∉ queue.failed
  fired : ∀ source target, (source, target) ∈ queue.activatedEdges ↔
    source ∈ queue.completed ∧ Fires graph states outputs source target
  running : ∀ id, id ∈ pending → states id = some .running
  untouched : ∀ id, id ∉ queue.closed → id ∉ pending → states id = none
  completed : ∀ id, id ∈ queue.completed → ∃ result,
    .returned id result ∈ log ∧ states id = some result.state ∧
      (∀ message, result.state ≠ .failed message) ∧
      outputs id = if result.state = .succeeded then some (stored result)
        else none
  failed : ∀ id, id ∈ queue.failed →
    (∃ result message, .returned id result ∈ log ∧
      result.state = .failed message ∧ states id = some (.failed message)) ∨
    (states id = some (.failed "dependency failed") ∧
      ∃ source, source ∈ queue.failed ∧ graph.Connected source id)
  silent : ∀ id, id ∉ queue.completed → outputs id = none
  closing : ∀ source, source ∈ queue.failed → ∀ target,
    graph.Connected source target → target ∈ queue.failed ∨ target ∈ stack
  frontier : ∀ target, target ∈ stack →
    ∃ source, source ∈ queue.failed ∧ graph.Connected source target
  called : ∀ position id, .called position id ∈ log →
    queue.satisfiedIncoming id = (graph.incoming id).length ∧
      id ∈ graph.nodes.map ExecutionNode.id ∧ (id ∈ queue.closed ∨ id ∈ pending)
  returned : ∀ id result message, .returned id result ∈ log →
    result.state = .failed message → id ∈ queue.failed ∨ id ∈ pending
  unique : ∀ id first second, .returned id first ∈ log → .returned id second ∈ log → first = second
  once : ∀ id, callCount log id ≤ 1
  grounded : ∀ id, id ∈ queue.completed ∨ id ∈ pending → Acc graph.Connected id

namespace Exact

variable {log : List Event} {outputs after : Table Uuid Json}
  {pending stack rest : List Uuid} {queue : WorkQueue}

section

variable (exactly : Exact graph log outputs pending stack queue states)
include exactly

/-- A node that ran has only completed predecessors, all of which fired. -/
theorem sources_completed (full : queue.satisfiedIncoming id = (graph.incoming id).length)
    (edge : graph.Connected source id) :
    source ∈ queue.completed ∧ Fires graph states outputs source id :=
  (exactly.fired source id).mp (((exactly.counts.satisfied_iff id).mp full).2 source edge)

theorem not_failed_source (full : queue.satisfiedIncoming id = (graph.incoming id).length)
    (edge : graph.Connected source id) : source ∉ queue.failed :=
  exactly.disjoint source (exactly.sources_completed full edge).1

/-- What a cascade has on its stack is failed already or has not started. -/
theorem stack_cases (member : target ∈ stack) :
    target ∈ queue.failed ∨ (states target = none ∧ target ∉ queue.closed ∧ target ∉ pending) := by
  obtain ⟨source, sourceFailed, edge⟩ := exactly.frontier target member
  have idle : target ∉ queue.completed ∧ target ∉ pending := by
    refine ⟨fun done => ?_, fun waiting => ?_⟩
    · exact exactly.not_failed_source (exactly.counts.ran target (Or.inl done)) edge sourceFailed
    · exact exactly.not_failed_source (exactly.counts.ran target (Or.inr waiting)) edge sourceFailed
  by_cases failed : target ∈ queue.failed
  · exact Or.inl failed
  · have unclosed : target ∉ queue.closed := by
      simp [closed, idle.1, failed]
    exact Or.inr ⟨exactly.untouched target unclosed idle.2, unclosed, idle.2⟩

end

theorem skip (exactly : Exact graph log outputs pending (target :: stack) queue states)
    (already : target ∈ queue.failed) : Exact graph log outputs pending stack queue states := by
  refine { exactly with closing := ?_, frontier := ?_ }
  · intro source failed other edge
    rcases exactly.closing source failed other edge with done | member
    · exact Or.inl done
    · rcases mem_cons.mp member with rfl | later
      · exact Or.inl already
      · exact Or.inr later
  · intro other member
    exact exactly.frontier other (mem_cons_of_mem _ member)

section Fail

variable (exactly : Exact graph log outputs before old queue states)
  (popped : ∀ other, other ∈ old ↔ other = target ∧ old ≠ [] ∨ other ∈ stack)

include exactly popped

/-- The successors of the failed nodes have failed or are on the stack. -/
theorem closing_fail (member : source ∈ insert target queue.failed)
    (edge : graph.Connected source other) :
    other ∈ insert target queue.failed ∨ other ∈ (graph.outgoing target).reverse ++ stack := by
  rw [mem_append, mem_reverse]
  by_cases same : source = target
  · subst same
    exact Or.inr (Or.inl (mem_outgoing.mpr edge))
  · rcases exactly.closing source (Finset.mem_of_mem_insert_of_ne member same) other edge with
      done | waiting
    · exact Or.inl (Finset.mem_insert_of_mem done)
    · rcases (popped other).mp waiting with ⟨rfl, -⟩ | later
      · exact Or.inl (Finset.mem_insert_self _ _)
      · exact Or.inr (Or.inr later)

/-- What is on the stack is a successor of a failed node. -/
theorem frontier_fail (member : other ∈ (graph.outgoing target).reverse ++ stack) :
    ∃ source, source ∈ insert target queue.failed ∧ graph.Connected source other := by
  rw [mem_append, mem_reverse] at member
  rcases member with fresh | later
  · exact ⟨target, Finset.mem_insert_self _ _, mem_outgoing.mp fresh⟩
  · obtain ⟨source, failed, edge⟩ := exactly.frontier other ((popped other).mpr (Or.inr later))
    exact ⟨source, Finset.mem_insert_of_mem failed, edge⟩

end Fail

/-- Failing a node that is not closed puts its successors on the stack.  The
node failed itself or depends on a node that did. -/
theorem fail {before after old : List Uuid}
    (exactly : Exact graph log outputs before old queue states)
    (unclosed : target ∉ queue.closed) (nodup : after.Nodup)
    (kept : ∀ other, other ∈ after ↔ other ≠ target ∧ other ∈ before)
    (popped : ∀ other, other ∈ old ↔ other = target ∧ old ≠ [] ∨ other ∈ stack)
    (cause : (∃ result, .returned target result ∈ log ∧ result.state = .failed
      message) ∨ (message = "dependency failed" ∧ ∃ source, source ∈
      queue.failed ∧ graph.Connected source target)) :
    Exact graph log outputs after ((graph.outgoing target).reverse ++ stack)
      (queue.markFailed target) (states.insert target (.failed message)) := by
  have closed : (queue.markFailed target).closed = insert target queue.closed :=
    closed_markFailed queue target
  have notCompleted : target ∉ queue.completed := fun done =>
    unclosed (Finset.mem_union_left _ done)
  have elsewhere : ∀ other, other ≠ target →
      states.insert target (.failed message) other = states other :=
    fun other different => Table.insert_of_ne states _ different
  refine
    { counts := ?_
      nodup := nodup
      apart := ?_
      disjoint := ?_
      fired := ?_
      running := ?_
      untouched := ?_
      completed := ?_
      failed := ?_
      silent := exactly.silent
      closing := fun _ member _ edge =>
        exactly.closing_fail popped member edge
      frontier := fun _ member => exactly.frontier_fail popped member
      called := ?_
      returned := ?_
      unique := exactly.unique
      once := exactly.once
      grounded := ?_ }
  · exact exactly.counts.markFailed (fun other member => ((kept other).mp member).2)
      (fun other member different => (kept other).mpr ⟨different, member⟩)
  · intro id member
    obtain ⟨different, waiting⟩ := (kept id).mp member
    rw [closed, Finset.mem_insert, not_or]
    exact ⟨different, exactly.apart id waiting⟩
  · intro id done
    change id ∉ insert target queue.failed
    rw [Finset.mem_insert, not_or]
    exact ⟨fun same => notCompleted (same ▸ done), exactly.disjoint id done⟩
  · intro source other
    refine (exactly.fired source other).trans (and_congr_right ?_)
    intro done
    have different : source ≠ target := fun same => notCompleted (same ▸ done)
    exact (Fires.congr (elsewhere source different) rfl).symm
  · intro id member
    obtain ⟨different, waiting⟩ := (kept id).mp member
    rw [elsewhere id different]
    exact exactly.running id waiting
  · intro id outside notPending
    rw [closed, Finset.mem_insert, not_or] at outside
    rw [elsewhere id outside.1]
    exact exactly.untouched id outside.2
      (fun waiting => notPending ((kept id).mpr ⟨outside.1, waiting⟩))
  · intro id done
    rw [elsewhere id (fun same => notCompleted (same ▸ done))]
    exact exactly.completed id done
  · intro id member
    by_cases same : id = target
    · subst same
      rw [Table.insert_same]
      rcases cause with ⟨result, event, failure⟩ | ⟨rfl, source, failed, edge⟩
      · exact Or.inl ⟨result, message, event, failure, rfl⟩
      · exact Or.inr ⟨rfl, source, Finset.mem_insert_of_mem failed, edge⟩
    · rw [elsewhere id same]
      rcases exactly.failed id (Finset.mem_of_mem_insert_of_ne member same) with
        own | ⟨state, source, failed, edge⟩
      · exact Or.inl own
      · exact Or.inr ⟨state, source, Finset.mem_insert_of_mem failed, edge⟩
  · intro position id event
    obtain ⟨full, known, reason⟩ := exactly.called position id event
    refine ⟨full, known, ?_⟩
    rw [closed, Finset.mem_insert, kept]
    tauto
  · intro id result failure event failed
    have reason := exactly.returned id result failure event failed
    change id ∈ insert target queue.failed ∨ _
    rw [Finset.mem_insert, kept]
    tauto
  · intro id reason
    exact exactly.grounded id (reason.imp_right (fun member => ((kept id).mp member).2))

theorem mark (exactly : Exact graph log outputs pending (target :: stack) queue states)
    (unclosed : target ∉ queue.closed) (idle : target ∉ pending) :
    Exact graph log outputs pending
      ((graph.outgoing target).reverse ++ stack) (queue.markFailed target)
      (states.insert target (.failed "dependency failed")) := by
  refine exactly.fail unclosed exactly.nodup ?_ ?_
    (Or.inr ⟨rfl, exactly.frontier target mem_cons_self⟩)
  · intro other
    constructor
    · exact fun member => ⟨fun same => idle (same ▸ member), member⟩
    · exact fun member => member.2
  · intro other
    simp

theorem cascade (fuel : Nat) (exactly : Exact graph log outputs pending stack queue states)
    (seen : visited ⊆ queue.failed) (enough : stack.length + cascadeWork graph visited < fuel) :
    Exact graph log outputs pending [] (RunState.cascade graph fuel stack visited (queue, states)).1
      (RunState.cascade graph fuel stack visited (queue, states)).2 := by
  induction fuel generalizing stack visited queue states with
  | zero => omega
  | succ fuel ih =>
    cases stack with
    | nil => exact exactly
    | cons target stack =>
      rw [length_cons] at enough
      unfold RunState.cascade
      by_cases old : target ∈ visited
      · rw [if_pos old]
        exact ih (exactly.skip (seen old)) seen (by omega)
      · rw [if_neg old]
        have work : (graph.outgoing target).length + cascadeWork graph (insert target visited) =
              cascadeWork graph visited := by
          refine Worklist.sum_unmarked_insert ?_ old
          intro left right pushed
          obtain ⟨edge, inside, same, -⟩ := mem_outgoing.mp pushed
          exact mem_toFinset.mpr (mem_map.mpr ⟨edge, inside, same⟩)
        rcases exactly.stack_cases mem_cons_self with already | ⟨fresh, unclosed, idle⟩
        · have seen : insert target visited ⊆ queue.failed := Finset.insert_subset already seen
          have skipped := ih (exactly.skip already) seen (by omega)
          rcases exactly.failed target already with ⟨_, message, -, -, state⟩ | ⟨state, -⟩
          · rw [state]
            exact skipped
          · rw [state]
            exact skipped
        · rw [fresh]
          refine ih (exactly.mark unclosed idle) ?_ ?_
          · exact Finset.insert_subset_insert target seen
          · rw [length_append, length_reverse]
            omega

section Fold

variable (exactly : Exact graph log outputs (id :: rest) [] queue states)
include exactly

/-- Folding a result that failed: its successors are the start of a
cascade. -/
theorem failSelf {message : String} (event : .returned id result ∈ log)
    (failure : result.state = .failed message) :
    Exact graph log outputs rest (graph.outgoing id).reverse
      (queue.markFailed id) (states.insert id (.failed message)) := by
  obtain ⟨fresh, nodup⟩ := nodup_cons.mp exactly.nodup
  rw [← append_nil (graph.outgoing id).reverse]
  refine exactly.fail (exactly.apart id mem_cons_self) nodup ?_
    (by simp) (Or.inl ⟨result, event, failure⟩)
  intro other
  rw [mem_cons]
  constructor
  · exact fun member => ⟨fun same => fresh (same ▸ member), Or.inr member⟩
  · exact fun member => member.2.resolve_left member.1

/-- Folding a result that did not fail: its node is completed and the edges
that fire are activated. -/
theorem complete (maxConcurrent : Nat) (loopFree : LoopFree graph)
    (event : .returned id result ∈ log) (notFailed : ∀ message, result.state ≠ .failed message)
    (output : after id = if result.state = .succeeded then some (stored result)
      else none) (others : ∀ other, other ≠ id → after other = outputs other) :
    Exact graph log after rest []
      ((firedTargets graph id result).foldl (WorkQueue.activateFresh
        (QueueIndex.new graph maxConcurrent) id) (queue.markConditionalCompleted id))
      (states.insert id result.state) := by
  have fires : ∀ target, target ∈ firedTargets graph id result ↔
      Fires graph (states.insert id result.state) after id target :=
    fun target => mem_firedTargets (Table.insert_same states _ _) output
  generalize firedTargets graph id result = targets at fires
  obtain ⟨fresh, nodup⟩ := nodup_cons.mp exactly.nodup
  have unclosed := exactly.apart id mem_cons_self
  have unmarked : id ∉ queue.completed ∧ id ∉ queue.failed := by
    simpa [closed] using unclosed
  have elsewhere : ∀ other, other ≠ id → states.insert id result.state other = states other :=
    fun other different => Table.insert_of_ne states _ different
  have closed := closed_markConditionalCompleted queue id
  obtain ⟨counts, activated⟩ := exactly.counts.completed.activateAll maxConcurrent loopFree targets
    (fun target member => ((fires target).mp member).1)
  have marks := foldl_activateFresh_marks (QueueIndex.new graph maxConcurrent) id targets
    (queue.markConditionalCompleted id)
  have fired : ∀ source target, (source, target) ∈ (targets.foldl
      (activateFresh (QueueIndex.new graph maxConcurrent) id)
      (queue.markConditionalCompleted id)).activatedEdges ↔ source ∈ insert id queue.completed ∧
          Fires graph (states.insert id result.state) after source target := by
    intro source target
    rw [activated, fires target]
    change _ ∨ (source, target) ∈ queue.activatedEdges ↔ _
    rw [exactly.fired source target]
    by_cases same : source = id
    · subst same
      simp [unmarked.1]
    · rw [Fires.congr (Table.insert_of_ne states _ same) (others source same)]
      simp [same]
  refine
    { counts := counts
      nodup := nodup
      apart := ?_
      disjoint := ?_
      fired := marks.completed ▸ fired
      running := ?_
      untouched := ?_
      completed := ?_
      failed := ?_
      silent := ?_
      closing := marks.failed ▸ exactly.closing
      frontier := fun target member => (not_mem_nil member).elim
      called := ?_
      returned := ?_
      unique := exactly.unique
      once := exactly.once
      grounded := ?_ }
  · intro other later
    rw [marks.closed, closed, Finset.mem_insert, not_or]
    exact ⟨fun same => fresh (same ▸ later), exactly.apart other (mem_cons_of_mem _ later)⟩
  · intro other done
    rw [marks.completed] at done
    rw [marks.failed]
    rcases Finset.mem_insert.mp done with rfl | old
    · exact unmarked.2
    · exact exactly.disjoint other old
  · intro other later
    rw [elsewhere other (fun same => fresh (same ▸ later))]
    exact exactly.running other (mem_cons_of_mem _ later)
  · intro other outside idle
    rw [marks.closed, closed, Finset.mem_insert, not_or] at outside
    rw [elsewhere other outside.1]
    refine exactly.untouched other outside.2 ?_
    rw [mem_cons, not_or]
    exact ⟨outside.1, idle⟩
  · intro other done
    rw [marks.completed] at done
    by_cases same : other = id
    · subst same
      exact ⟨result, event, Table.insert_same states _ _, notFailed, output⟩
    · rw [elsewhere other same, others other same]
      exact exactly.completed other (Finset.mem_of_mem_insert_of_ne done same)
  · intro other failed
    rw [marks.failed] at failed ⊢
    rw [elsewhere other (fun same => unmarked.2 (same ▸ failed))]
    exact exactly.failed other failed
  · intro other unfinished
    rw [marks.completed] at unfinished
    have unfinished : other ≠ id ∧ other ∉ queue.completed := by
      simpa [markConditionalCompleted] using unfinished
    rw [others other unfinished.1]
    exact exactly.silent other unfinished.2
  · intro position other called
    obtain ⟨full, known, reason⟩ := exactly.called position other called
    refine ⟨?_, known, ?_⟩
    · obtain ⟨separate, all⟩ := (exactly.counts.satisfied_iff other).mp full
      refine (counts.satisfied_iff other).mpr ⟨separate, ?_⟩
      intro source edge
      exact (activated source other).mpr (Or.inr (all source edge))
    · rw [marks.closed, closed, Finset.mem_insert]
      rw [mem_cons] at reason
      tauto
  · intro other answer message returned failure
    rw [marks.failed]
    rcases exactly.returned other answer message returned failure with failed | waiting
    · exact Or.inl failed
    · rcases mem_cons.mp waiting with rfl | later
      · rw [exactly.unique other answer result returned event] at failure
        exact (notFailed message failure).elim
      · exact Or.inr later
  · intro other reason
    rw [marks.completed] at reason
    exact exactly.grounded other (Counts.completed_or_pending reason)

end Fold

end Exact

theorem batch_nodup (distinct : (setup.graph.nodes.map ExecutionNode.id).Nodup)
    (state : RunState) : (state.batch setup).Nodup := by
  refine nodup_iff_count_le_one.mpr ?_
  intro id
  exact (count_batch_le setup state id).trans (nodup_iff_count_le_one.mp distinct id)

def ExactAt (graph : ExecutionGraph) (pending : List Uuid) (state : RunState) : Prop :=
  Exact graph state.log state.outputs pending [] state.queue state.nodeStates

namespace ExactAt

theorem of_same (exactly : ExactAt graph pending right)
    (same : SameRun left right) : ExactAt graph pending left := by
  unfold ExactAt
  rw [same.log, same.outputs, same.queue, same.nodeStates]
  exact exactly

theorem initial (setup : RunSetup) (loopFree : LoopFree setup.graph)
    (envelope : Option BudgetEnvelope) : ExactAt setup.graph [] (setup.initial envelope) :=
    { counts := .initial setup loopFree envelope
      nodup := nodup_nil
      apart := by simp
      disjoint := by simp [RunSetup.initial, new]
      fired := by simp [RunSetup.initial, new]
      running := by simp
      untouched := fun _ _ _ => rfl
      completed := by simp [RunSetup.initial, new]
      failed := by simp [RunSetup.initial, new]
      silent := fun _ _ => rfl
      closing := by simp [RunSetup.initial, new]
      frontier := by simp
      called := by simp [RunSetup.initial]
      returned := by simp [RunSetup.initial]
      unique := by simp [RunSetup.initial]
      once := by simp [RunSetup.initial, callCount]
      grounded := by simp [RunSetup.initial, new] }

section Batch

variable {setup : RunSetup} {calls : List Call}
  (exactly : ExactAt setup.graph [] state)

include exactly

/-- All edges into a node of the batch have arrived, and it has not ended. -/
theorem full (member : id ∈ state.batch setup) :
    id ∉ state.queue.closed ∧ state.queue.satisfiedIncoming id = (setup.graph.incoming id).length :=
  exactly.counts.full member

theorem uncalled (member : id ∈ state.batch setup) (position : Nat) :
    .called position id ∉ state.log := by
  intro event
  obtain ⟨-, -, closed | pending⟩ := exactly.called position id event
  · exact (exactly.full member).1 closed
  · cases pending

theorem grounded_batch (reason : id ∈ state.queue.completed ∨ id ∈ state.batch setup) :
    Acc setup.graph.Connected id := by
  rcases reason with done | member
  · exact exactly.grounded id (Or.inl done)
  · apply Acc.intro
    intro source edge
    exact exactly.grounded source (Or.inl
      (exactly.sources_completed (exactly.full member).2 edge).1)

variable
  (started : dispatch setup (state.batch setup) state.entered = .ok (calls,
    dispatched))

include started

omit exactly in
theorem mem_batch_of_call {call : Call} (member : call ∈ calls) :
    call.node.id ∈ state.batch setup := by
  rw [← (dispatch_ok started).1]
  exact mem_map.mpr ⟨call, member, rfl⟩

theorem once_batch (returning : CallsReturn setup) (nodup : (state.batch setup).Nodup) (id : Uuid) :
    callCount (runCalls setup calls dispatched).log id ≤ 1 := by
  obtain ⟨ids, -, rfl⟩ := dispatch_ok started
  rw [callCount_runCalls returning, ids]
  change callCount state.log id + (state.batch setup).count id ≤ 1
  by_cases member : id ∈ state.batch setup
  · rw [callCount_eq_zero (exactly.uncalled member), Nat.zero_add]
    exact nodup_iff_count_le_one.mp nodup id
  · rw [count_eq_zero.mpr member]
    exact exactly.once id

theorem unique_batch (nodup : (state.batch setup).Nodup)
    (answered : ∀ id result, .returned id result ∈ state.log → ∃ position,
      .called position id ∈ state.log) {first second : NodeExecutionResult}
    (left : .returned id first ∈ (runCalls setup calls dispatched).log)
    (right : .returned id second ∈ (runCalls setup calls dispatched).log) : first = second := by
  obtain ⟨ids, -, rfl⟩ := dispatch_ok started
  have apart : ∀ result call, .returned id result ∈ state.log →
      call ∈ calls → call.node.id ≠ id := by
    rintro result call old member rfl
    obtain ⟨position, called⟩ := answered _ result old
    exact exactly.uncalled (mem_batch_of_call started member) position called
  rcases returned_of_mem_runCalls left with old | ⟨call, member, answer⟩
  · rcases returned_of_mem_runCalls right with same | ⟨call, member, answer⟩
    · exact exactly.unique id first second old same
    · exact (apart first call old member (Call.of_mem_endEvents answer).1.symm).elim
  · obtain ⟨rfl, rfl⟩ := Call.of_mem_endEvents answer
    rcases returned_of_mem_runCalls right with old | ⟨other, inside, same⟩
    · exact (apart second call old member rfl).elim
    · obtain ⟨sameId, rfl⟩ := Call.of_mem_endEvents same
      have equal : call = other := inj_on_of_nodup_map (ids.symm ▸ nodup) member inside sameId
      rw [equal]

theorem batch (returning : CallsReturn setup)
    (distinct : (setup.graph.nodes.map ExecutionNode.id).Nodup)
    (answered : ∀ id result, .returned id result ∈ state.log → ∃ position,
      .called position id ∈ state.log) :
    ExactAt setup.graph (state.batch setup) (runCalls setup calls dispatched) := by
  obtain ⟨-, -, marked⟩ := dispatch_ok started
  have nodup := batch_nodup distinct state
  have states : ∀ id, (runCalls setup calls dispatched).nodeStates id =
      if id ∈ state.batch setup then some .running
      else state.nodeStates id := by
    rw [marked]
    exact Table.foldl_insert_apply _ NodeState.running state.nodeStates
  have stateOff : ∀ id ∈ state.queue.closed, (runCalls setup calls dispatched).nodeStates id =
        state.nodeStates id := by
    intro id closed
    rw [states, if_neg (fun member => (exactly.full member).1 closed)]
  have kept : ∀ event ∈ state.log, event ∈ (runCalls setup calls dispatched).log := by
    intro event old
    rw [marked]
    exact mem_append_left _ (mem_append_left _ old)
  subst marked
  refine
    { counts := exactly.counts.batch
      nodup := nodup
      apart := fun id member => (exactly.full member).1
      disjoint := exactly.disjoint
      fired := ?_
      running := fun id member => (states id).trans (if_pos member)
      untouched := ?_
      completed := ?_
      failed := ?_
      silent := exactly.silent
      closing := exactly.closing
      frontier := exactly.frontier
      called := ?_
      returned := ?_
      unique := fun _ _ _ left right =>
        exactly.unique_batch started nodup answered left right
      once := exactly.once_batch started returning nodup
      grounded := fun _ reason => exactly.grounded_batch reason }
  · intro source target
    refine (exactly.fired source target).trans (and_congr_right ?_)
    intro done
    exact (Fires.congr (stateOff source (Finset.mem_union_left _ done)) rfl).symm
  · intro id outside idle
    rw [states, if_neg idle]
    exact exactly.untouched id outside not_mem_nil
  · intro id done
    rw [stateOff id (Finset.mem_union_left _ done)]
    obtain ⟨result, event, facts⟩ := exactly.completed id done
    exact ⟨result, kept _ event, facts⟩
  · intro id failed
    rw [stateOff id (Finset.mem_union_right _ failed)]
    refine (exactly.failed id failed).imp_left ?_
    rintro ⟨result, message, event, facts⟩
    exact ⟨result, message, kept _ event, facts⟩
  · intro position id event
    rcases called_of_mem_runCalls event with old | ⟨call, member, start⟩
    · obtain ⟨satisfied, known, closed | pending⟩ := exactly.called position id old
      · exact ⟨satisfied, known, Or.inl closed⟩
      · cases pending
    · have inside := mem_batch_of_call started member
      rw [Call.id_of_mem_startEvents start] at inside
      exact ⟨(exactly.full inside).2, known_of_mem_batch inside, Or.inr inside⟩
  · intro id result message event failure
    rcases returned_of_mem_runCalls event with old | ⟨call, member, answer⟩
    · rcases exactly.returned id result message old failure with failed | pending
      · exact Or.inl failed
      · cases pending
    · rw [(Call.of_mem_endEvents answer).1]
      exact Or.inr (mem_batch_of_call started member)

end Batch

theorem settle (loopFree : LoopFree setup.graph)
    (distinct : (setup.graph.nodes.map ExecutionNode.id).Nodup)
    (exactly : ExactAt setup.graph (id :: rest) state) (event : .returned id result ∈ state.log)
    (settles : Settles setup state id result (.next following)) :
    ExactAt setup.graph rest following := by
  have selective : id ∈ setup.graph.selectiveSources ↔ _ :=
    loopFree.mem_selectiveSources_iff distinct
  have recorded : ∀ other, other ≠ id →
      state.outputs.insert id (stored result) other = state.outputs other :=
    fun other different => Table.insert_of_ne _ _ different
  cases settles with
  | conditional success kind =>
    have after := exactly.complete setup.maxConcurrent loopFree event
      (by simp [success]) (by simp [success, Table.insert_same]) recorded
    rw [success, firedTargets_selective (selective.mpr kind) success] at after
    unfold ExactAt
    simp only [conditionalSucceeded, activateAll, recordSuccess,
      RunSetup.index, loopFree.activateEdge]
    exact after
  | continues _ _ kind | exits _ kind => exact (loopFree.kindAt id kind).elim
  | plain success notConditional =>
    have after := exactly.complete setup.maxConcurrent loopFree event
      (by simp [success]) (by simp [success, Table.insert_same]) recorded
    rw [success, firedTargets_plain (notConditional ∘ selective.mp)] at after
    unfold ExactAt
    simp only [RunState.complete, recordSuccess, markCompleted]
    rw [tryActivateDownstream_plain (notConditional ∘ selective.mp)]
    exact after
  | iterates _ _ _ _ _ target | capped _ _ _ _ _ target =>
    cases target.symm.trans (loopFree.loopBackTarget setup.maxConcurrent id)
  | failed message failure =>
    have started := exactly.failSelf event failure
    refine started.cascade _ (Finset.empty_subset _) ?_
    have short : (setup.graph.outgoing id).length ≤
        setup.graph.edges.length := by
      rw [outgoing, length_map]
      exact length_filter_le _ _
    rw [length_reverse, cascadeWork_empty, cascadeFuel]
    omega
  | other notSuccess notFailed =>
    have unfinished : id ∉ state.queue.completed := fun done =>
      exactly.apart id mem_cons_self (Finset.mem_union_left _ done)
    have after := exactly.complete setup.maxConcurrent loopFree event
      notFailed (by simp [notSuccess, exactly.silent id unfinished]) (fun _ _ => rfl)
    unfold ExactAt
    simp only [otherState, RunState.complete, markCompleted]
    by_cases selects : id ∈ setup.graph.selectiveSources
    · rw [firedTargets_silent selects notSuccess] at after
      rw [tryActivateDownstream_selective selects]
      exact after
    · rw [firedTargets_plain selects] at after
      rw [tryActivateDownstream_plain selects]
      exact after

end ExactAt

/-- When no call is cancelled, the log has every result that is still to be
folded. -/
theorem Reachable.pending_returned (returning : CallsReturn setup)
    (reached : Reachable setup envelope (.folding batchIds rest, state))
    (member : (id, result) ∈ rest) : .returned id result ∈ state.log := by
  obtain ⟨-, call, same, logged⟩ := reached.pending_result member
  refine logged _ ?_
  have sameId := call.result_fst setup
  rw [same] at sameId
  simp [Call.endEvents, returning call, same, ← sameId]

theorem Reachable.exact (returning : CallsReturn setup) (loopFree : LoopFree setup.graph)
    (distinct : (setup.graph.nodes.map ExecutionNode.id).Nodup)
    (reached : Reachable setup envelope config) :
    ExactAt setup.graph config.1.pending config.2 := by
  induction reached with
  | refl => exact ExactAt.initial setup loopFree envelope
  | tail before step exactly =>
    cases step with
    | spin => exact exactly.of_same ⟨rfl, rfl, rfl, rfl, rfl⟩
    | done => exact exactly
    | batch _ _ started =>
      have ids := (dispatch_ok started).1
      have after := exactly.batch started returning distinct
        (fun _ _ returned => Reachable.called_of_returned before returned)
      rwa [← ids, ← results_ids setup] at after
    | @fold batchIds id result rest state following processed =>
      have charged := charged_same setup state id result
      have event := Reachable.pending_returned returning before mem_cons_self
      exact (exactly.of_same charged).settle loopFree distinct
        (charged.log ▸ event) (processResult_next processed)

/-- The token of a run, if it has one, is never cancelled. -/
structure Uncancelled (setup : RunSetup) : Prop where
  returning : CallsReturn setup
  alive : ∀ state : RunState, state.cancelled setup = false

theorem uncancelled_of_none (none : setup.cancel = none) : Uncancelled setup := by
  refine ⟨?_, ?_⟩
  · intro call
    simp [Call.fate, none]
  · intro state
    simp [RunState.cancelled, none]

theorem RunState.charged_of_none (none : state.envelope = none) (id : Uuid)
    (result : NodeExecutionResult) :
    (state.charged setup id result).envelope = Option.none ∧
      state.violation setup id result = Option.none := by
  unfold charged violation
  cases result.usage with
  | none => exact ⟨none, rfl⟩
  | some usage => simp [charge, none]

theorem RunState.Settles.envelope_none (settles : Settles setup state id result flow)
    (none : state.envelope = none) : flow.state.envelope = Option.none := by
  cases settles with
  | continues envelope _ _ _ counted =>
    rcases counted with ⟨-, after⟩ | ⟨before, _, present, -⟩
    · exact after
    · rw [none] at present
      cases present
  | _ => exact none

theorem Reachable.envelope_none (reached : Reachable setup none config) :
    config.2.envelope = none := by
  induction reached with
  | refl => rfl
  | tail _ step none =>
    cases step with
    | spin | done => exact none
    | batch _ _ started =>
      obtain ⟨-, -, rfl⟩ := dispatch_ok started
      exact none
    | fold processed =>
      exact (processResult_next processed).envelope_none (charged_of_none none _ _).1

theorem dispatch_known (ids : List Uuid)
    (known : ∀ id ∈ ids, id ∈ setup.graph.nodes.map ExecutionNode.id)
    (state : RunState) : ∃ started, dispatch setup ids state = .ok started := by
  induction ids generalizing state with
  | nil => exact ⟨_, rfl⟩
  | cons id rest ih =>
    obtain ⟨index, found⟩ := nodeIndex_of_mem (known id mem_cons_self)
    obtain ⟨node, present, -⟩ := nodeIndex_eq_some found
    unfold dispatch
    simp only [found, present]
    obtain ⟨⟨calls, last⟩, recursive⟩ :=
      ih (fun other member => known other (mem_cons_of_mem _ member)) _
    rw [recursive]
    exact ⟨_, rfl⟩

section LoopFreeRuns

variable (uncancelled : Uncancelled setup) (loopFree : LoopFree setup.graph)
  (distinct : (setup.graph.nodes.map ExecutionNode.id).Nodup)

include uncancelled loopFree distinct

/-- A result of a run without loops never ends the scheduling loop, unless it
breaches the envelope. -/
theorem Reachable.settles_next {state charged : RunState}
    (reached : Reachable setup envelope (.folding batchIds ((id, result) :: rest), state))
    (settles : Settles setup charged id result flow) : ∃ following, flow = .next following := by
  have returning := uncancelled.returning
  have returned := reached.pending_returned returning mem_cons_self
  obtain ⟨position, called⟩ := reached.called_of_returned returned
  obtain ⟨-, known, -⟩ := (reached.exact returning loopFree distinct).called position id called
  cases settles with
  | unknown _ missing =>
    obtain ⟨index, found⟩ := nodeIndex_of_mem known
    rw [found] at missing
    cases missing
  | exhausted _ _ _ kind => exact (loopFree.kindAt id kind).elim
  | lost _ _ target =>
    cases target.symm.trans (loopFree.loopBackTarget setup.maxConcurrent id)
  | _ => exact ⟨_, rfl⟩

theorem Ends.ok {result : RunResult} (reached : Reachable setup envelope config)
    (ends : Ends setup config result) : ∃ outcome last, result = (.ok outcome, last) := by
  cases ends with
  | @cancelled state seen =>
    rw [uncancelled.alive state] at seen
    cases seen
  | @desync state _ _ failed =>
    obtain ⟨started, dispatched⟩ := dispatch_known
      (state.batch setup) (fun _ => known_of_mem_batch) state.entered
    rw [dispatched] at failed
    cases failed
  | @aborted _ id result _ state _ _ processed =>
    rw [processResult_eq] at processed
    split at processed
    · cases processed
    · obtain ⟨following, next⟩ := reached.settles_next uncancelled loopFree
        distinct (settle_settles setup (state.charged setup id result) id result)
      rw [next] at processed
      cases processed
  | _ => exact ⟨_, _, rfl⟩

/-- A run that no breach ended stopped between passes, and every node whose
edges are all satisfied has been called. -/
theorem Ends.quiescent {outcome : ExecutionOutcome} (reached : Reachable setup envelope config)
    (unbreached : ∀ batchIds id result rest state, config = (.folding batchIds
      ((id, result) :: rest), state) → state.violation setup id result = none)
    (ends : Ends setup config (.ok outcome, last)) :
    ExactAt setup.graph [] last ∧ outcome = last.outcome setup ∧
      SameRun last config.2 ∧ ∀ id ∈ setup.graph.nodes.map ExecutionNode.id,
        last.queue.satisfiedIncoming id = (setup.graph.incoming id).length →
          id ∈ last.queue.closed := by
  have returning := uncancelled.returning
  have exactly := reached.exact returning loopFree distinct
  have idle : ∀ state, ExactAt setup.graph [] state → ∀ id,
      id ∉ state.queue.closed → settledIn state.nodeStates id =
        false := by
    intro state exactly id unclosed
    simp [settledIn, exactly.untouched id unclosed not_mem_nil]
  cases ends with
  | @finished state _ done =>
    have same : SameRun state.entered state := ⟨rfl, rfl, rfl, rfl, rfl⟩
    refine ⟨exactly.of_same same, rfl, same, ?_⟩
    intro id known _
    by_contra unclosed
    obtain ⟨node, member, rfl⟩ := mem_map.mp known
    have reason := all_eq_true.mp done node member
    rw [idle state exactly node.id unclosed] at reason
    have unmarked : node.id ∉ state.queue.closed := unclosed
    simp only [closed, Finset.mem_union, not_or] at unmarked
    simp [unmarked] at reason
  | @stuck state _ blocked free =>
    have same : SameRun state.entered state := ⟨rfl, rfl, rfl, rfl, rfl⟩
    refine ⟨exactly.of_same same, rfl, same, ?_⟩
    intro id known full
    by_contra unclosed
    have unmarked : id ∉ state.queue.closed := unclosed
    have nothing : state.queue.inProgress = ∅ := by
      simpa [anyInProgress] using free
    have ready := (exactly.counts.ready id).mpr ⟨unmarked, not_mem_nil, full, Or.inr known⟩
    refine getReady_ne_nil nothing known ?_ blocked
    simp only [closed, Finset.mem_union, not_or] at unmarked
    simp [isReady, ready, unmarked, nothing, idle state exactly id unclosed]
  | @left _ id result _ state _ processed =>
    obtain ⟨following, next⟩ := reached.settles_next uncancelled loopFree
      distinct (processResult_leave processed)
    cases next
  | breached processed =>
    obtain ⟨error, breach, -⟩ := processResult_finish processed
    rw [unbreached _ _ _ _ _ rfl] at breach
    cases breach

theorem runInner_ok (capped : 0 < setup.maxConcurrent) :
    ∃ fuel outcome last, runInner setup envelope fuel = some (.ok outcome, last) := by
  obtain ⟨fuel, result, finished⟩ : ∃ fuel result, runInner setup envelope fuel = some result :=
    runInner_terminates uncancelled.returning loopFree.distinctHeads
      (fun config _ => loopFree.freshHeads setup.maxConcurrent config.2.log) capped
  obtain ⟨config, reached, ends⟩ := runInner_ends finished
  obtain ⟨outcome, last, rfl⟩ := ends.ok uncancelled loopFree distinct reached
  exact ⟨fuel, outcome, last, finished⟩

end LoopFreeRuns

end FusionRouter
