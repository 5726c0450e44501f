import FusionRouter.Scheduler.DependencyOrder

/-!
# The bound on loops

A loop counts an iteration when a body node completes a back-edge, but a head
that decides to continue re-arms its body without counting.  The bound on the
calls of a head, and with it the end of the run, rests on one condition: the
re-armed body has no loop head that was called before.
-/

namespace FusionRouter

open RunState
open List hiding after

namespace WorkQueue

/-- The nodes that a queue does not hand out again. -/
def closed (queue : WorkQueue) : Finset Uuid :=
  queue.completed ∪ queue.failed

theorem SameMarks.closed (same : SameMarks left right) : left.closed = right.closed := by
  unfold WorkQueue.closed
  rw [same.completed, same.failed]

theorem closed_markConditionalCompleted (queue : WorkQueue) (id : Uuid) :
    (queue.markConditionalCompleted id).closed = insert id queue.closed :=
  Finset.insert_union id queue.completed queue.failed

theorem closed_markFailed (queue : WorkQueue) (id : Uuid) :
    (queue.markFailed id).closed = insert id queue.closed :=
  Finset.union_insert id queue.completed queue.failed

variable {queue : WorkQueue} {id : Uuid}

theorem not_mem_closed_of_isReady {nodeStates : Table Uuid NodeState}
    (ready : queue.isReady nodeStates id = true) : id ∉ queue.closed := by
  simp only [isReady, Bool.and_eq_true, decide_eq_true_eq] at ready
  simp only [WorkQueue.closed, Finset.mem_union]
  tauto

theorem exists_inProgress (busy : queue.anyInProgress = true) : ∃ id, id ∈ queue.inProgress :=
  Finset.nonempty_iff_ne_empty.mpr (of_decide_eq_true busy)

end WorkQueue

/-- The loop whose body a succeeded result re-arms. -/
inductive Rearms (index : QueueIndex) (id : Uuid) (result : NodeExecutionResult) : Uuid → Prop where
  | continues (kind : index.graph.kindAt id = some .loop)
      (decision : (stored result).asBool.getD false = true) :
      Rearms index id result id
  | iterates {loopId : Uuid} (notLoop : index.graph.kindAt id ≠ some .loop)
      (target : index.loopBackTarget id = some loopId) :
      Rearms index id result loopId

/-- What settling a result leaves of the marks, when it re-arms `reset`. -/
structure Marks (before after : WorkQueue) (id : Uuid) (reset : List Uuid) : Prop where
  closed : ∀ other, other ∉ reset → other ∈ before.closed ∨ other = id → other ∈ after.closed
  inProgress : after.inProgress ⊆ before.inProgress.erase id

/-- What a result that does not end the run does to marks and iterations. -/
inductive HeadEffect (setup : RunSetup) (state : RunState) (id : Uuid)
    (result : NodeExecutionResult) (following : RunState) : Prop where
  | advances (marks : Marks state.queue following.queue id [])
      (iterations : following.loopIterations = state.loopIterations)
  | continues (success : result.state = .succeeded) (kind : setup.graph.kindAt id = some .loop)
      (rearms : Rearms setup.index id result id)
      (marks : Marks state.queue following.queue id (setup.graph.bodyIds id))
      (iterations : following.loopIterations = state.loopIterations)
  | iterates (loopId : Uuid) (loopNode : ExecutionNode) (success : result.state = .succeeded)
      (rearms : Rearms setup.index id result loopId) (back : (id, loopId) ∈ setup.index.backEdges)
      (found : setup.graph.nodeAt loopId = some loopNode)
      (below : state.loopIterations loopId < loopNode.maxIters)
      (marks : Marks state.queue following.queue id (loopId :: setup.graph.bodyIds loopId))
      (iterations : following.loopIterations = Function.update state.loopIterations loopId
          (state.loopIterations loopId + 1))

namespace Marks

theorem markConditionalCompleted (queue : WorkQueue) (id : Uuid) :
    Marks queue (queue.markConditionalCompleted id) id [] := by
  refine ⟨?_, subset_rfl⟩
  intro other _ reason
  rw [WorkQueue.closed_markConditionalCompleted, Finset.mem_insert]
  exact reason.symm

variable {before queue : WorkQueue} {id : Uuid}

theorem of_same (marks : Marks before first id reset)
    (same : WorkQueue.SameMarks second first) : Marks before second id reset :=
  ⟨fun other outside reason => same.closed ▸ marks.closed other outside reason,
    same.inProgress ▸ marks.inProgress⟩

theorem markCompleted (index : QueueIndex) (queue : WorkQueue) (id : Uuid) :
    Marks queue (queue.markCompleted index id) id [] :=
  (markConditionalCompleted queue id).of_same (WorkQueue.markCompleted_marks index queue id)

theorem activateEdges (index : QueueIndex) (marks : Marks before queue id reset)
    (source : Uuid) (targets : List Uuid) :
    Marks before (targets.foldl (fun queue target => queue.activateEdge index source target) queue)
      id reset :=
  foldlRecOn (motive := fun queue => Marks before queue id reset) _ _
    marks (fun queue marks target _ => marks.of_same
      (WorkQueue.activateEdge_marks index queue source target))

theorem resetLoopBody (index : QueueIndex) (marks : Marks before queue id [])
    (bodyIds : List Uuid) : Marks before (queue.resetLoopBody index bodyIds) id bodyIds := by
  refine ⟨?_, ?_⟩
  · intro other outside reason
    have closed := marks.closed other not_mem_nil reason
    rw [(WorkQueue.resetLoopBody_marks index queue bodyIds).closed]
    simp only [WorkQueue.closed, Finset.mem_union, Finset.mem_sdiff, mem_toFinset] at closed ⊢
    tauto
  · rw [(WorkQueue.resetLoopBody_marks index queue bodyIds).inProgress]
    exact Finset.sdiff_subset.trans marks.inProgress

theorem resetReady (marks : Marks before queue id reset) (loopId : Uuid) :
    Marks before (queue.resetReady loopId) id (loopId :: reset) := by
  refine ⟨?_, (Finset.erase_subset _ _).trans marks.inProgress⟩
  intro other outside reason
  rw [mem_cons, not_or] at outside
  have closed := marks.closed other outside.2 reason
  simp only [WorkQueue.closed, WorkQueue.resetReady, Finset.mem_union, Finset.mem_erase] at closed ⊢
  tauto

theorem failed (setup : RunSetup) (state : RunState) (id : Uuid) (message : String) :
    Marks state.queue (failed setup state id message).queue id [] := by
  refine cascade_induction (motive := fun acc => Marks state.queue acc.1 id []) ?_ ?_ _ _ _
  · refine ⟨?_, subset_rfl⟩
    intro other _ reason
    rw [WorkQueue.closed_markFailed, Finset.mem_insert]
    exact reason.symm
  · intro queue nodeStates downstream marks _
    refine ⟨?_, (Finset.erase_subset _ _).trans marks.inProgress⟩
    intro other outside reason
    rw [WorkQueue.closed_markFailed]
    exact Finset.mem_insert_of_mem (marks.closed other outside reason)

/-- A node that was closed or pending still is, unless it was re-armed. -/
theorem settled (marks : Marks before after id reset) (outside : other ∉ reset)
    (reason : other ∈ before.closed ∨ other ∈ id :: rest) :
    other ∈ after.closed ∨ other ∈ rest := by
  rcases reason with closed | pending
  · exact Or.inl (marks.closed other outside (Or.inl closed))
  · rcases mem_cons.mp pending with same | later
    · exact Or.inl (marks.closed other outside (Or.inr same))
    · exact Or.inr later

/-- Nodes that are neither closed nor pending were not so before. -/
theorem filter_subset (marks : Marks before after id []) (ids : Finset Uuid) (rest : List Uuid) :
    ids.filter (fun other => other ∉ after.closed ∧ other ∉ rest) ⊆
      ids.filter (fun other => other ∉ before.closed ∧ other ∉ id :: rest) := by
  refine Finset.monotone_filter_right ids ?_
  rintro other - ⟨unclosed, unlisted⟩
  refine ⟨?_, ?_⟩
  · intro closed
    exact unclosed (marks.closed other not_mem_nil (Or.inl closed))
  · intro pending
    rcases marks.settled not_mem_nil (Or.inr pending) with closed | later
    · exact unclosed closed
    · exact unlisted later

theorem running (marks : Marks before after id reset)
    (free : ∀ other ∈ before.inProgress, other ∈ id :: rest) :
    ∀ other ∈ after.inProgress, other ∈ rest := by
  intro other running
  obtain ⟨different, old⟩ := Finset.mem_erase.mp (marks.inProgress running)
  rcases mem_cons.mp (free other old) with same | later
  · exact (different same).elim
  · exact later

end Marks

variable {state : RunState} {id head : Uuid} {envelope : Option BudgetEnvelope}

theorem RunState.Settles.effect (settles : Settles setup state id result (.next following)) :
    HeadEffect setup state id result following := by
  have completed := Marks.markCompleted setup.index state.queue id
  cases settles with
  | conditional =>
    exact .advances ((Marks.markConditionalCompleted state.queue id).activateEdges
      setup.index id _) rfl
  | continues _ success kind decision =>
    exact .continues success kind (.continues kind decision)
      ((completed.resetLoopBody setup.index _).activateEdges setup.index id _) rfl
  | exits => exact .advances (completed.activateEdges setup.index id _) rfl
  | plain | capped | other => exact .advances completed rfl
  | iterates loopId loopNode success _ notLoop target found below =>
    refine .iterates loopId loopNode success (.iterates notLoop target)
      (QueueIndex.loopBackTarget_eq_some target) found below ?_ rfl
    exact ((completed.resetLoopBody setup.index _).resetReady loopId).of_same
      (WorkQueue.activateEdge_marks setup.index _ id loopId)
  | failed message => exact .advances (Marks.failed setup state id message) rfl

def Event.isCallOf (id : Uuid) : Event → Bool
  | .called _ other => decide (other = id)
  | .returned _ _ => false

/-- How often a node was handed to `execute_node`. -/
def callCount (log : List Event) (id : Uuid) : Nat :=
  log.countP (Event.isCallOf id)

theorem callCount_append (log new : List Event) (id : Uuid) :
    callCount (log ++ new) id = callCount log id + callCount new id :=
  countP_append

theorem callCount_eq_zero (silent : ∀ position, .called position id ∉ events) :
    callCount events id = 0 := by
  refine countP_eq_zero.mpr ?_
  intro event member isCall
  cases event with
  | called position other =>
    have same : other = id := of_decide_eq_true isCall
    exact silent position (same ▸ member)
  | returned other result => cases isCall

/-- No result re-arms a loop head that was called before. -/
def FreshHeads (index : QueueIndex) (log : List Event) : Prop :=
  ∀ moment id result, log[moment]? = some (.returned id result) → result.state = .succeeded →
      ∀ loopId, Rearms index id result loopId → ∀ head, head ∈ index.graph.bodyIds loopId →
          head ∈ index.graph.loopNodeIds → callCount (log.take moment) head = 0

theorem FreshHeads.folding (fresh : FreshHeads setup.index state.log)
    (reached : Reachable setup envelope (.folding batchIds ((id, result) ::
      rest), state)) (success : result.state = .succeeded)
    (rearms : Rearms setup.index id result loopId) (body : head ∈ setup.graph.bodyIds loopId)
    (isHead : head ∈ setup.graph.loopNodeIds) : callCount state.log head = 0 := by
  obtain ⟨before, events, log, logs⟩ := reached.batch_log
  have event : .returned id result ∈ events := by
    rcases logs.logged mem_cons_self with ⟨message, failed⟩ | event
    · simp [success] at failed
    · exact event
  obtain ⟨offset, found⟩ := mem_iff_getElem?.mp event
  have none := fresh (before.length + offset) id result
    (by rw [log, getElem?_append_right (Nat.le_add_right _ _),
      Nat.add_sub_cancel_left, found]) success loopId rearms head body isHead
  rw [log, take_length_add_append, callCount_append] at none
  rw [log, callCount_append, callCount_eq_zero (fun position => logs.silent position head)]
  omega

/-- The nodes of the current batch whose results are still to be folded. -/
def Phase.pending : Phase → List Uuid
  | .idle => []
  | .folding _ rest => rest.map Prod.fst

structure LoopBounds (setup : RunSetup) (pending : List Uuid) (state : RunState) : Prop where
  calls : ∀ head, head ∈ setup.graph.loopNodeIds →
    callCount state.log head ≤ state.loopIterations head + 1
  spent : ∀ head, head ∈ setup.graph.loopNodeIds →
    callCount state.log head = state.loopIterations head + 1 →
      head ∈ state.queue.closed ∨ head ∈ pending
  capped : ∀ head node, setup.graph.nodeAt head = some node →
    state.loopIterations head ≤ node.maxIters
  free : ∀ id, id ∈ state.queue.inProgress → id ∈ pending

namespace LoopBounds

theorem of_same (bounds : LoopBounds setup pending right)
    (same : SameRun left right) : LoopBounds setup pending left := by
  obtain ⟨calls, spent, capped, free⟩ := bounds
  refine ⟨?_, ?_, ?_, ?_⟩
  · rw [same.log, same.loopIterations]
    exact calls
  · rw [same.log, same.loopIterations, same.queue]
    exact spent
  · rw [same.loopIterations]
    exact capped
  · rw [same.queue]
    exact free

section

variable (bounds : LoopBounds setup (id :: rest) state)
include bounds

/-- Marks that re-arm only heads with room for a call keep the bounds. -/
theorem keep (log : following.log = state.log) (marks : Marks state.queue following.queue id reset)
    (grows : state.loopIterations ≤ following.loopIterations)
    (capped : ∀ head node, setup.graph.nodeAt head = some node →
      following.loopIterations head ≤ node.maxIters)
    (room : ∀ head ∈ reset, head ∈ setup.graph.loopNodeIds →
      callCount state.log head ≤ following.loopIterations head) :
    LoopBounds setup rest following := by
  refine ⟨?_, ?_, capped, marks.running bounds.free⟩
  · intro head isHead
    rw [log]
    exact (bounds.calls head isHead).trans (Nat.succ_le_succ (grows head))
  · intro head isHead full
    rw [log] at full
    have before := bounds.calls head isHead
    have more : state.loopIterations head ≤ following.loopIterations head := grows head
    have outside : head ∉ reset := by
      intro inside
      have below := room head inside isHead
      omega
    exact marks.settled outside (bounds.spent head isHead (by omega))

theorem effect (effect : HeadEffect setup state id result following)
    (log : following.log = state.log)
    (fresh : result.state = .succeeded → ∀ loopId, Rearms setup.index id result
      loopId → ∀ head ∈ setup.graph.bodyIds loopId, head ∈
      setup.graph.loopNodeIds → callCount state.log head = 0) :
    LoopBounds setup rest following := by
  cases effect with
  | advances marks iterations =>
    exact bounds.keep log marks iterations.ge (iterations ▸ bounds.capped)
      (fun head inside => (not_mem_nil inside).elim)
  | continues success kind rearms marks iterations =>
    refine bounds.keep log marks iterations.ge (iterations ▸ bounds.capped) ?_
    intro head body isHead
    rw [fresh success id rearms head body isHead]
    exact Nat.zero_le _
  | iterates loopId loopNode success rearms back found below marks iterations =>
    -- a counted iteration leaves room for one more call of its head
    refine bounds.keep log marks ?_ ?_ ?_
    · rw [iterations]
      exact le_update_self_iff.mpr (Nat.le_succ _)
    · intro head node located
      rw [iterations]
      by_cases same : head = loopId
      · subst same
        cases found.symm.trans located
        rw [Function.update_self]
        exact below
      · rw [Function.update_of_ne same]
        exact bounds.capped head node located
    · intro head inside isHead
      rcases mem_cons.mp inside with rfl | body
      · rw [iterations, Function.update_self]
        exact bounds.calls head isHead
      · rw [fresh success loopId rearms head body isHead]
        exact Nat.zero_le _

end

theorem initial (setup : RunSetup) (envelope : Option BudgetEnvelope) :
    LoopBounds setup [] (setup.initial envelope) := by
  refine ⟨?_, ?_, ?_, ?_⟩
  all_goals simp [RunSetup.initial, callCount, WorkQueue.new]

end LoopBounds

/-- No call is cancelled. -/
def CallsReturn (setup : RunSetup) : Prop :=
  ∀ call : Call, call.fate setup = .returns

theorem callCount_runCalls (returning : CallsReturn setup) (calls : List Call)
    (state : RunState) (id : Uuid) :
    callCount (runCalls setup calls state).log id = callCount state.log id +
        (calls.map (fun call => call.node.id)).count id := by
  have starts : callCount (calls.flatMap (Call.startEvents setup)) id =
      (calls.map (fun call => call.node.id)).count id := by
    induction calls with
    | nil => rfl
    | cons call calls ih =>
      rw [flatMap_cons, callCount_append, ih, map_cons, count_cons]
      by_cases same : call.node.id = id <;>
        simp [Call.startEvents, returning call, callCount, Event.isCallOf, same, Nat.add_comm]
  have ends : callCount (calls.flatMap (Call.endEvents setup)) id = 0 := by
    refine callCount_eq_zero ?_
    intro position event
    obtain ⟨call, -, event⟩ := mem_flatMap.mp event
    exact Call.not_called_mem_endEvents event
  simp only [runCalls, callCount_append, starts, ends, Nat.add_zero]

/-- No two nodes share the id of a loop head. -/
def DistinctHeads (graph : ExecutionGraph) : Prop :=
  ∀ head, head ∈ graph.loopNodeIds → (graph.nodes.map ExecutionNode.id).count head ≤ 1

theorem nodeAt_of_count_le_one {graph : ExecutionGraph} (member : node ∈ graph.nodes)
    (once : (graph.nodes.map ExecutionNode.id).count node.id ≤ 1) :
    graph.nodeAt node.id = some node := by
  obtain ⟨index, found⟩ := ExecutionGraph.nodeIndex_of_mem (mem_map.mpr ⟨node, member, rfl⟩)
  obtain ⟨other, present, same⟩ := ExecutionGraph.nodeIndex_eq_some found
  have equal : node = other := Count.eq_of_count_map_le_one member
    (mem_of_getElem? present) same.symm once
  subst equal
  simp [ExecutionGraph.nodeAt, found, present]

theorem DistinctHeads.batch (distinct : DistinctHeads setup.graph)
    (state : RunState) (isHead : head ∈ setup.graph.loopNodeIds) :
    (state.batch setup).count head ≤ 1 :=
  (count_batch_le setup state head).trans (distinct head isHead)

theorem not_closed_of_mem_batch (member : id ∈ state.batch setup) : id ∉ state.queue.closed :=
  WorkQueue.not_mem_closed_of_isReady (isReady_of_mem_batch member)

/-- Calling a head that is not closed uses the room its iterations left. -/
theorem LoopBounds.call_room (bounds : LoopBounds setup [] state)
    (distinct : DistinctHeads setup.graph) (isHead : head ∈ setup.graph.loopNodeIds) :
    callCount state.log head + (state.batch setup).count head ≤ state.loopIterations head + 1 := by
  have before := bounds.calls head isHead
  have once := distinct.batch state isHead
  by_cases member : head ∈ state.batch setup
  · have room : callCount state.log head ≠ state.loopIterations head + 1 := by
      intro full
      rcases bounds.spent head isHead full with closed | pending
      · exact not_closed_of_mem_batch member closed
      · cases pending
    omega
  · rw [count_eq_zero.mpr member]
    exact before

theorem LoopBounds.batch {dispatched : RunState} {calls : List Call}
    (returning : CallsReturn setup) (distinct : DistinctHeads setup.graph)
    (bounds : LoopBounds setup [] state)
    (started : dispatch setup (state.batch setup) state.entered = .ok (calls, dispatched)) :
    LoopBounds setup (state.batch setup) (runCalls setup calls dispatched) := by
  obtain ⟨ids, -, rfl⟩ := dispatch_ok started
  have count : ∀ head, callCount (runCalls setup calls
      (markBatch (state.batch setup) state.entered)).log head =
        callCount state.log head + (state.batch setup).count head := by
    intro head
    rw [callCount_runCalls returning, ids]
    rfl
  refine ⟨?_, ?_, bounds.capped, ?_⟩
  · intro head isHead
    rw [count head]
    exact bounds.call_room distinct isHead
  · intro head isHead full
    rw [count head] at full
    by_cases member : head ∈ state.batch setup
    · exact Or.inr member
    · rw [count_eq_zero.mpr member] at full
      rcases bounds.spent head isHead full with closed | pending
      · exact Or.inl closed
      · cases pending
  · intro id running
    rcases Finset.mem_union.mp running with old | new
    · cases bounds.free id old
    · exact List.mem_toFinset.mp new

theorem results_ids (setup : RunSetup) (calls : List Call) :
    (calls.map (Call.result setup)).map Prod.fst = calls.map (fun call => call.node.id) := by
  rw [List.map_map]
  exact List.map_congr_left (fun call _ => call.result_fst setup)

section Potential

variable (setup : RunSetup)

/-- The ids of the nodes that are not loop heads. -/
def plainIds : Finset Uuid :=
  (setup.graph.nodes.map ExecutionNode.id).toFinset \ setup.graph.loopNodeIds

def maxOf (head : Uuid) : Nat :=
  ((setup.graph.nodeAt head).map ExecutionNode.maxIters).getD 0

/-- The nodes that could be called without another iteration. -/
def openIds (pending : List Uuid) (state : RunState) : Finset Uuid :=
  (plainIds setup).filter (fun id => id ∉ state.queue.closed ∧ id ∉ pending)

/-- The calls and the iterations that the loop heads have left. -/
def credit (state : RunState) : Nat :=
  ∑ head ∈ setup.graph.loopNodeIds,
    ((maxOf setup head + 1 - callCount state.log head) +
      (maxOf setup head - state.loopIterations head))

def iterationsLeft (state : RunState) : Nat :=
  ∑ head ∈ setup.graph.loopNodeIds, (maxOf setup head - state.loopIterations head)

def headsIn (pending : List Uuid) : Nat :=
  ∑ head ∈ setup.graph.loopNodeIds, pending.count head

/-- The work a run has left.  A head that is called gives up one unit of
credit; what it is worth covers the nodes its body re-opens. -/
def potential (pending : List Uuid) (state : RunState) : Nat :=
  (openIds setup pending state).card + ((plainIds setup).card + 1) * credit setup state +
    (plainIds setup).card * headsIn setup pending

variable {graph : ExecutionGraph} {state following dispatched : RunState}

theorem headsIn_cons_head (rest : List Uuid) (isHead : id ∈ setup.graph.loopNodeIds) :
    headsIn setup rest + 1 ≤ headsIn setup (id :: rest) := by
  refine Finset.sum_lt_sum (fun _ _ => count_le_count_cons) ⟨id, isHead, ?_⟩
  rw [count_cons_self]
  exact Nat.lt_succ_self _

variable {setup}

theorem mem_loopNodeIds_of_kindAt (kind : graph.kindAt id = some .loop) :
    id ∈ graph.loopNodeIds := by
  obtain ⟨node, located, isLoop⟩ := Option.map_eq_some_iff.mp kind
  obtain ⟨index, found, present⟩ := Option.bind_eq_some_iff.mp located
  obtain ⟨other, same, rfl⟩ := ExecutionGraph.nodeIndex_eq_some found
  have equal : other = node := Option.some.inj (same.symm.trans present)
  subst equal
  refine mem_toFinset.mpr (mem_map.mpr ⟨other, ?_, rfl⟩)
  exact mem_filter.mpr ⟨mem_of_getElem? present, by simpa using isLoop⟩

section

variable (isHead : loopId ∈ setup.graph.loopNodeIds)
  (found : setup.graph.nodeAt loopId = some loopNode)
  (below : state.loopIterations loopId < loopNode.maxIters)
  (iterations : following.loopIterations = Function.update
    state.loopIterations loopId (state.loopIterations loopId + 1))
include isHead found below iterations

theorem iterationsLeft_iterate :
    iterationsLeft setup following + 1 ≤ iterationsLeft setup state := by
  have atLoop : maxOf setup loopId = loopNode.maxIters := by
    simp [maxOf, found]
  refine Nat.succ_le_of_lt (Finset.sum_lt_sum ?_ ⟨loopId, isHead, ?_⟩)
  · intro head _
    rw [iterations]
    by_cases same : head = loopId
    · subst same
      rw [Function.update_self]
      omega
    · rw [Function.update_of_ne same]
  · rw [iterations, Function.update_self, atLoop]
    omega

theorem credit_iterate (log : following.log = state.log) :
    credit setup following + 1 ≤ credit setup state := by
  have fewer := iterationsLeft_iterate isHead found below iterations
  unfold iterationsLeft at fewer
  unfold credit
  rw [log, Finset.sum_add_distrib, Finset.sum_add_distrib, Nat.add_assoc]
  exact Nat.add_le_add_left fewer _

end

theorem potential_effect (rest : List Uuid) (effect : HeadEffect setup state id result following)
    (log : following.log = state.log) :
    potential setup rest following ≤ potential setup (id :: rest) state := by
  have room : (openIds setup rest following).card ≤ (plainIds setup).card :=
    Finset.card_filter_le _ _
  have fewer : headsIn setup rest ≤ headsIn setup (id :: rest) :=
    Finset.sum_le_sum (fun _ _ => count_le_count_cons)
  have heads := Nat.mul_le_mul_left (plainIds setup).card fewer
  have same : following.loopIterations = state.loopIterations →
      credit setup following = credit setup state := by
    intro iterations
    unfold credit
    rw [log, iterations]
  unfold potential
  cases effect with
  | advances marks iterations =>
    have less : (openIds setup rest following).card ≤ (openIds setup (id :: rest) state).card :=
      Finset.card_le_card (marks.filter_subset (plainIds setup) rest)
    rw [same iterations]
    omega
  | continues success kind rearms marks iterations =>
    have paid := Nat.mul_le_mul_left (plainIds setup).card
      (headsIn_cons_head setup rest (mem_loopNodeIds_of_kindAt kind))
    rw [Nat.mul_add, Nat.mul_one] at paid
    rw [same iterations]
    omega
  | iterates loopId loopNode success rearms back found below marks iterations =>
    have isHead := (ExecutionGraph.mem_backEdges_iff.mp back).1
    have paid := Nat.mul_le_mul_left ((plainIds setup).card + 1)
      (credit_iterate isHead found below iterations log)
    rw [Nat.mul_add, Nat.mul_one] at paid
    omega

theorem nodeAt_of_mem_loopNodeIds (isHead : head ∈ graph.loopNodeIds) :
    ∃ node, graph.nodeAt head = some node := by
  obtain ⟨node, member, rfl⟩ := mem_map.mp (mem_toFinset.mp isHead)
  obtain ⟨index, found⟩ := ExecutionGraph.nodeIndex_of_mem
    (mem_map.mpr ⟨node, (mem_filter.mp member).1, rfl⟩)
  obtain ⟨other, present, -⟩ := ExecutionGraph.nodeIndex_eq_some found
  exact ⟨other, by simp [ExecutionGraph.nodeAt, found, present]⟩

section

variable {calls : List Call} (returning : CallsReturn setup)
  (distinct : DistinctHeads setup.graph) (bounds : LoopBounds setup [] state)
  (started : dispatch setup (state.batch setup) state.entered =
    .ok (calls, dispatched))
include returning distinct bounds started

/-- Calling a batch takes one unit of credit for each of its heads. -/
theorem credit_batch :
    credit setup (runCalls setup calls dispatched) +
      headsIn setup (state.batch setup) = credit setup state := by
  obtain ⟨ids, -, rfl⟩ := dispatch_ok started
  unfold credit headsIn
  rw [← Finset.sum_add_distrib]
  refine Finset.sum_congr rfl ?_
  intro head isHead
  rw [callCount_runCalls returning, ids]
  have room := bounds.call_room distinct isHead
  obtain ⟨node, located⟩ := nodeAt_of_mem_loopNodeIds isHead
  have capped : state.loopIterations head ≤ maxOf setup head := by
    simpa [maxOf, located] using bounds.capped head node located
  simp only [runCalls, markBatch, entered]
  omega

theorem potential_batch (nonempty : state.batch setup ≠ []) :
    potential setup (state.batch setup) (runCalls setup calls dispatched) <
      potential setup [] state := by
  have paid := credit_batch returning distinct bounds started
  have smaller : openIds setup (state.batch setup)
      (runCalls setup calls dispatched) ⊆ openIds setup [] state := by
    obtain ⟨-, -, rfl⟩ := dispatch_ok started
    intro id member
    obtain ⟨plain, outside⟩ := Finset.mem_filter.mp member
    exact Finset.mem_filter.mpr ⟨plain, outside.1, not_mem_nil⟩
  obtain ⟨id, member⟩ := exists_mem_of_ne_nil _ nonempty
  have none : headsIn setup [] = 0 := by simp [headsIn]
  have weight := congrArg (((plainIds setup).card + 1) * ·) paid
  simp only [Nat.mul_add, Nat.add_mul, Nat.one_mul] at weight
  unfold potential
  simp only [none, Nat.add_mul, Nat.one_mul, Nat.mul_zero, Nat.add_zero]
  by_cases isHead : id ∈ setup.graph.loopNodeIds
  · have positive : 0 < headsIn setup (state.batch setup) :=
      Finset.sum_pos_iff.mpr ⟨id, isHead, count_pos_iff.mpr member⟩
    have less := Finset.card_le_card smaller
    omega
  · have proper : openIds setup (state.batch setup)
        (runCalls setup calls dispatched) ⊂ openIds setup [] state := by
      refine Finset.ssubset_iff_subset_ne.mpr ⟨smaller, ?_⟩
      intro same
      have known := known_of_mem_batch member
      have before : id ∈ openIds setup [] state :=
        Finset.mem_filter.mpr ⟨Finset.mem_sdiff.mpr ⟨mem_toFinset.mpr known, isHead⟩,
          not_closed_of_mem_batch member, not_mem_nil⟩
      rw [← same] at before
      exact (Finset.mem_filter.mp before).2.2 member
    have less := Finset.card_lt_card proper
    omega

end

end Potential

theorem batch_ne_nil (capped : 0 < setup.maxConcurrent)
    (available : state.queue.getReady setup.index state.nodeStates ≠ []) :
    state.batch setup ≠ [] := by
  unfold RunState.batch
  rw [Ne, take_eq_nil_iff]
  rintro (zero | empty)
  · omega
  · exact available empty

section

variable (returning : CallsReturn setup) (distinct : DistinctHeads setup.graph)
  (fresh : ∀ config, Reachable setup envelope config →
    FreshHeads setup.index config.2.log)
include returning distinct fresh

/-- The bounds hold along every run that re-arms only fresh heads. -/
theorem Reachable.loopBounds {config : Phase × RunState}
    (reached : Reachable setup envelope config) : LoopBounds setup config.1.pending config.2 := by
  induction reached with
  | refl => exact LoopBounds.initial setup envelope
  | tail before step bounds =>
    cases step with
    | spin => exact bounds.of_same ⟨rfl, rfl, rfl, rfl, rfl⟩
    | done => exact bounds
    | batch _ _ started =>
      have ids := (dispatch_ok started).1
      have after := bounds.batch returning distinct started
      rwa [← ids, ← results_ids setup] at after
    | @fold batchIds id result rest state following processed =>
      have charged := charged_same setup state id result
      refine (bounds.of_same charged).effect (processResult_next processed).effect ?_ ?_
      · exact (processResult_next_log processed).trans charged.log.symm
      · intro success loopId rearms head body isHead
        rw [charged.log]
        exact (fresh _ before).folding before success rearms body isHead

variable (capped : 0 < setup.maxConcurrent)
include capped

theorem potential_step (reached : Reachable setup envelope first) (step : Step setup first second) :
    potential setup second.1.pending second.2 ≤ potential setup first.1.pending first.2 ∧
      (first.1 = .idle → potential setup second.1.pending second.2 <
        potential setup first.1.pending first.2) := by
  have bounds := reached.loopBounds returning distinct fresh
  cases step with
  | spin proceeds blocked busy =>
    obtain ⟨id, running⟩ := WorkQueue.exists_inProgress busy
    cases bounds.free id running
  | batch proceeds available started =>
    have ids := (dispatch_ok started).1
    have less := potential_batch returning distinct bounds started (batch_ne_nil capped available)
    simp only [Phase.pending, results_ids, ids]
    exact ⟨less.le, fun _ => less⟩
  | @fold batchIds id result rest state following processed =>
    have charged := charged_same setup state id result
    have less := potential_effect (rest.map Prod.fst) (processResult_next processed).effect
      ((processResult_next_log processed).trans charged.log.symm)
    refine ⟨?_, nofun⟩
    refine less.trans (le_of_eq ?_)
    simp only [potential, openIds, credit, charged.queue, charged.log,
      charged.loopIterations, Phase.pending, map_cons]
  | done => exact ⟨le_rfl, nofun⟩

theorem runInner_terminates : ∃ fuel result, runInner setup envelope fuel = some result :=
  runInner_terminates_of_measure (fun config => potential setup config.1.pending config.2)
    (fun _ _ reached step => potential_step returning distinct fresh capped reached step)

end

/-- The configured `max_iterations`, before it is cut to a `u32`. -/
def ExecutionNode.configuredIterations (node : ExecutionNode) : Nat :=
  ((node.config "max_iterations").bind Json.asU64).getD 10

theorem ExecutionNode.maxIters_le (node : ExecutionNode) :
    node.maxIters ≤ node.configuredIterations := Nat.mod_le _ _

/-- A run ends and calls each loop head at most once more than it may iterate,
as long as loop heads have ids of their own and no result re-arms a head that
was called before. -/
theorem loop_heads_bounded (setup : RunSetup) (returning : CallsReturn setup)
    (capped : 0 < setup.maxConcurrent) (distinct : DistinctHeads setup.graph)
    (fresh : ∀ config, Reachable setup none config → FreshHeads setup.index config.2.log) :
    (∃ fuel result, runInner setup none fuel = some result) ∧ ∀ state, Visited setup none state →
        ∀ node, node ∈ setup.graph.nodes → node.kind = .loop →
          callCount state.log node.id ≤ node.configuredIterations + 1 := by
  refine ⟨runInner_terminates returning distinct fresh capped, ?_⟩
  intro state visited node member isLoop
  obtain ⟨config, reached, same⟩ := visited.reachable
  have bounds := reached.loopBounds returning distinct fresh
  have isHead : node.id ∈ setup.graph.loopNodeIds :=
    mem_toFinset.mpr (mem_map.mpr ⟨node, mem_filter.mpr ⟨member, by simpa using isLoop⟩, rfl⟩)
  calc
    callCount state.log node.id = callCount config.2.log node.id := by rw [same]
    _ ≤ config.2.loopIterations node.id + 1 := bounds.calls node.id isHead
    _ ≤ node.maxIters + 1 := Nat.succ_le_succ (bounds.capped node.id node
        (nodeAt_of_count_le_one member (distinct node.id isHead)))
    _ ≤ node.configuredIterations + 1 := Nat.succ_le_succ node.maxIters_le

theorem orderedLoop_bounded :
    (∃ fuel result, runInner orderedLoopSetup none fuel = some result) ∧
      ∀ state, Visited orderedLoopSetup none state →
        ∀ node, node ∈ orderedLoopSetup.graph.nodes → node.kind = .loop →
          callCount state.log node.id ≤ node.configuredIterations + 1 := by
  have heads : orderedLoopSetup.graph.loopNodeIds = {2} := by decide
  refine loop_heads_bounded orderedLoopSetup (fun _ => rfl) (by decide) ?_ (fun config _ => ?_)
  · intro head isHead
    rw [heads, Finset.mem_singleton] at isHead
    subst isHead
    decide
  · -- no loop head leads into a loop head
    intro moment id result _ _ loopId rearms head body isHead
    have isLoop : loopId ∈ orderedLoopSetup.graph.loopNodeIds := by
      cases rearms with
      | continues kind => exact mem_loopNodeIds_of_kindAt kind
      | iterates _ target =>
        have back := QueueIndex.loopBackTarget_eq_some target
        exact (ExecutionGraph.mem_backEdges_iff.mp back).1
    change head ∈ orderedLoopSetup.graph.loopNodeIds at isHead
    rw [heads, Finset.mem_singleton] at isLoop isHead
    subst isLoop isHead
    refine absurd body ?_
    decide

/-- A loop head whose only edge leads back to itself. -/
def selfLoopWorkflow : WorkflowIR :=
  workflow [plainNode 1 .loop] [⟨1, 1, some "loop"⟩]

/-- The head always decides to continue. -/
def selfLoopSetup : RunSetup :=
  sampleSetup (compiledGraph sampleOptions selfLoopWorkflow)
    (fun _ _ _ =>
      { state := .succeeded
        usage := none
        output := some (.bool true) })

/-- Continuing is not counted: with `max_iterations` 3 the head has been called
five times after five passes. -/
theorem selfLoop_exceeds_bound :
    ¬ ∀ (options : CompilerOptions) (ir : WorkflowIR) (graph : ExecutionGraph),
      compile options ir = .ok graph →
        ∀ (setup : RunSetup), setup.graph = graph → CallsReturn setup → 0 < setup.maxConcurrent →
            (∃ fuel result, runInner setup none fuel = some result) ∧
              ∀ state, Visited setup none state →
                ∀ node, node ∈ setup.graph.nodes → node.kind = .loop → callCount state.log node.id ≤
                    node.configuredIterations + 1 := by
  intro always
  have bounded := (always sampleOptions selfLoopWorkflow _
    (compile_eq_ok (by decide)) selfLoopSetup rfl (fun _ => rfl) (by decide)).2
  have calls : (Loop.after (schedLoop selfLoopSetup) 5 (selfLoopSetup.initial none)).map
        (fun state => callCount state.log 1) = some 5 := by
    decide
  obtain ⟨state, rounds, five⟩ := Option.map_eq_some_iff.mp calls
  have visited : Visited selfLoopSetup none state := .passing (Loop.after_sound rounds)
  have head : ∃ node, node ∈ selfLoopSetup.graph.nodes ∧ node.kind = .loop ∧
      node.id = 1 ∧ node.configuredIterations = 3 :=
    ⟨Lowering.lowerNode acceptingExternals Table.empty (plainNode 1 .loop),
      mem_cons_self, rfl, rfl, rfl⟩
  obtain ⟨node, member, isLoop, one, three⟩ := head
  have less := bounded state visited node member isLoop
  rw [one, three, five] at less
  omega

end FusionRouter
