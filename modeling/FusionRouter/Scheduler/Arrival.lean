import FusionRouter.Scheduler.Activation
import FusionRouter.Scheduler.ExactRuns
import FusionRouter.Scheduler.Sequence

/-!
# Arrivals

What a run without a budget gets to.  Its batches are folded to the end.  If no
loop head continues, it returns, since each iteration of a loop uses up one of
finitely many.  A node all of whose gating edges are activated is called before
the run returns, unless a new iteration resets its counter or a node in front
of it fails.
-/

namespace FusionRouter

open Relation RunState List WorkQueue

variable {setup : RunSetup} {envelope : Option BudgetEnvelope}

theorem Reachable.inProgress_pending (reached : Reachable setup envelope config) :
    ∀ id ∈ config.2.queue.inProgress, id ∈ config.1.pending := by
  induction reached with
  | refl =>
    intro id member
    simp [RunSetup.initial, new] at member
  | tail _ step holds =>
    cases step with
    | spin | done => exact holds
    | batch _ _ started =>
      obtain ⟨ids, -, rfl⟩ := dispatch_ok started
      intro id member
      simp only [Phase.pending, results_ids, ids]
      rcases Finset.mem_union.mp member with old | new
      · exact (not_mem_nil (holds id old)).elim
      · exact mem_toFinset.mp new
    | @fold batchIds id result rest state following processed =>
      have charged := (charged_same setup state id result).queue
      have free : ∀ other, other ∈ (state.charged setup id result).queue.inProgress →
            other ∈ id :: rest.map Prod.fst := by
        rw [charged]
        exact holds
      cases (processResult_next processed).effect with
      | advances marks | continues _ _ _ marks | iterates _ _ _ _ _ _ _ marks =>
        exact marks.running free

theorem Reachable.pending_known (reached : Reachable setup envelope config) :
    ∀ id ∈ config.1.pending, id ∈ setup.graph.nodes.map ExecutionNode.id := by
  induction reached with
  | refl =>
    intro id member
    exact (not_mem_nil member).elim
  | tail _ step holds =>
    intro id member
    cases step with
    | spin | done => exact (not_mem_nil member).elim
    | batch _ _ started =>
      simp only [Phase.pending, results_ids, (dispatch_ok started).1] at member
      exact known_of_mem_batch member
    | fold => exact holds id (mem_cons_of_mem _ member)

/-- Without an envelope no result ends the scheduling loop. -/
theorem Reachable.processed_next {id : Uuid} (reached : Reachable setup none
      (.folding batchIds ((id, result) :: rest), state)) :
    ∃ following, processResult setup batchIds state id result = .next following := by
  have none := reached.envelope_none
  have charged : (state.charged setup id result).envelope = Option.none :=
    (charged_of_none none id result).1
  have free : state.violation setup id result = Option.none := (charged_of_none none id result).2
  have known := reached.pending_known id mem_cons_self
  have settles := settle_settles setup (state.charged setup id result) id result
  rw [processResult_eq, free]
  dsimp only
  generalize settle setup (state.charged setup id result) id result = flow at settles ⊢
  cases settles with
  | unknown _ missing =>
    obtain ⟨index, found⟩ := ExecutionGraph.nodeIndex_of_mem known
    rw [found] at missing
    cases missing
  | exhausted envelope _ _ _ _ present =>
    rw [charged] at present
    cases present
  | lost loopId _ target missing =>
    have back := QueueIndex.loopBackTarget_eq_some target
    obtain ⟨node, found⟩ := nodeAt_of_mem_loopNodeIds (ExecutionGraph.mem_backEdges_iff.mp back).1
    rw [found] at missing
    cases missing
  | _ => exact ⟨_, rfl⟩

section Termination

/-- Every result of a loop head decides to leave the loop. -/
def NeverContinues (setup : RunSetup) (envelope : Option BudgetEnvelope) : Prop :=
  ∀ batchIds id result rest state, Reachable setup envelope
      (.folding batchIds ((id, result) :: rest), state) →
      setup.graph.kindAt id = some .loop → result.state = .succeeded →
        (stored result).asBool.getD false = false

variable (setup)

def nodeIds : Finset Uuid :=
  (setup.graph.nodes.map ExecutionNode.id).toFinset

/-- The nodes that could still be called in this iteration. -/
def leftIds (pending : List Uuid) (state : RunState) : Finset Uuid :=
  (nodeIds setup).filter (fun id => id ∉ state.queue.closed ∧ id ∉ pending)

/-- The work that is left when no head continues. -/
def workLeft (config : Phase × RunState) : Nat :=
  (leftIds setup config.1.pending config.2).card +
    ((nodeIds setup).card + 1) * iterationsLeft setup config.2

variable {setup}

/-- Folding a result that continues no loop does not raise the work left. -/
theorem workLeft_effect {id : Uuid}
    (leaves : setup.graph.kindAt id = some .loop →
      result.state = .succeeded → (stored result).asBool.getD false = false)
    (effect : HeadEffect setup state id result following) :
    workLeft setup (.folding batchIds rest, following) ≤
      workLeft setup (.folding batchIds ((id, result) :: rest), state) := by
  unfold workLeft
  cases effect with
  | advances marks iterations =>
    have less : (leftIds setup (rest.map Prod.fst) following).card ≤
        (leftIds setup (id :: rest.map Prod.fst) state).card :=
      Finset.card_le_card (marks.filter_subset (nodeIds setup) _)
    simp only [iterationsLeft, iterations, Phase.pending, map_cons]
    omega
  | continues success kind rearms =>
    cases rearms with
    | continues _ decision => simp [leaves kind success] at decision
    | iterates notLoop => exact (notLoop kind).elim
  | iterates loopId loopNode success rearms back found below marks iterations =>
    have room : (leftIds setup (rest.map Prod.fst) following).card ≤
        (nodeIds setup).card := Finset.card_filter_le _ _
    have paid := Nat.mul_le_mul_left ((nodeIds setup).card + 1)
      (iterationsLeft_iterate (ExecutionGraph.mem_backEdges_iff.mp back).1 found below iterations)
    rw [Nat.mul_add, Nat.mul_one] at paid
    simp only [Phase.pending]
    omega

theorem workLeft_step (leaves : NeverContinues setup envelope) (capped : 0 < setup.maxConcurrent)
    (reached : Reachable setup envelope first) (step : Step setup first second) :
    workLeft setup second ≤ workLeft setup first ∧
      (first.1 = .idle → workLeft setup second < workLeft setup first) := by
  cases step with
  | spin proceeds blocked busy =>
    obtain ⟨id, running⟩ := exists_inProgress busy
    cases reached.inProgress_pending id running
  | @batch state dispatched calls proceeds available started =>
    obtain ⟨ids, -, rfl⟩ := dispatch_ok started
    obtain ⟨id, member⟩ := exists_mem_of_ne_nil _ (batch_ne_nil capped available)
    have known := known_of_mem_batch member
    have ready := isReady_of_mem_batch member
    have fewer : leftIds setup (state.batch setup) (runCalls setup calls
        (markBatch (state.batch setup) state.entered)) ⊂ leftIds setup [] state := by
      refine Finset.ssubset_iff_of_subset ?_ |>.mpr ⟨id, ?_, ?_⟩
      · intro other left
        obtain ⟨known, unclosed, -⟩ := Finset.mem_filter.mp left
        exact Finset.mem_filter.mpr ⟨known, unclosed, not_mem_nil⟩
      · exact Finset.mem_filter.mpr ⟨mem_toFinset.mpr known,
          not_mem_closed_of_isReady ready, not_mem_nil⟩
      · intro left
        exact (Finset.mem_filter.mp left).2.2 member
    have less := Finset.card_lt_card fewer
    have pending : (Phase.folding (state.batch setup)
        (calls.map (Call.result setup))).pending = state.batch setup := by
      simp only [Phase.pending, results_ids, ids]
    have same : iterationsLeft setup (runCalls setup calls
        (markBatch (state.batch setup) state.entered)) = iterationsLeft setup state := rfl
    unfold workLeft
    simp only [pending, same]
    exact ⟨Nat.add_le_add_right less.le _, fun _ => Nat.add_lt_add_right less _⟩
  | @fold batchIds id result rest state following processed =>
    have charged := charged_same setup state id result
    have less : workLeft setup (.folding batchIds rest, following) ≤
        workLeft setup (.folding batchIds ((id, result) :: rest), state.charged setup id result) :=
      workLeft_effect (leaves batchIds id result rest state reached)
        (processResult_next processed).effect
    refine ⟨less.trans (le_of_eq ?_), fun idle => by cases idle⟩
    simp only [workLeft, leftIds, iterationsLeft, charged.queue, charged.loopIterations]
  | done => exact ⟨le_rfl, fun idle => by cases idle⟩

/-- A run in which no loop head continues ends. -/
theorem runInner_terminates_of_leaving (leaves : NeverContinues setup envelope)
    (capped : 0 < setup.maxConcurrent) :
    ∃ fuel result, runInner setup envelope fuel = some result :=
  runInner_terminates_of_measure (workLeft setup)
    (fun _ _ reached step => workLeft_step leaves capped reached step)

/-- No pass of the run starts with a cancelled token. -/
def StaysAlive (setup : RunSetup) : Prop :=
  ∀ state, Reachable setup none (.idle, state) → state.cancelled setup = false

theorem Uncancelled.staysAlive (uncancelled : Uncancelled setup) :
    StaysAlive setup := fun state _ => uncancelled.alive state

/-- Without a budget and without a cancelled pass a run that ends returns an
outcome between two passes. -/
theorem Ends.idle (alive : StaysAlive setup)
    (reached : Reachable setup none config) (ends : Ends setup config result) :
    ∃ state, config = (.idle, state) ∧ result = (.ok (state.entered.outcome setup), state.entered) ∧
      (state.queue.isDone setup.index state.nodeStates = true ∨
        state.queue.getReady setup.index state.nodeStates = []) := by
  cases ends with
  | @cancelled state seen => simp [alive state reached] at seen
  | @finished state _ done => exact ⟨state, rfl, rfl, Or.inl done⟩
  | @stuck state _ blocked => exact ⟨state, rfl, rfl, Or.inr blocked⟩
  | @desync state _ _ failed =>
    obtain ⟨started, dispatched⟩ := dispatch_known
      (state.batch setup) (fun _ => known_of_mem_batch) state.entered
    simp [dispatched] at failed
  | left processed | breached processed | aborted processed =>
    obtain ⟨following, next⟩ := reached.processed_next
    simp [next] at processed

/-- Without a budget a run fails exactly when a pass sees the cancelled
token. -/
theorem runInner_ok_iff (finished : runInner setup none fuel = some (returned, last)) :
    (∃ outcome, returned = .ok outcome) ↔ StaysAlive setup := by
  obtain ⟨config, reached, ends⟩ := runInner_ends finished
  constructor
  · rintro ⟨outcome, rfl⟩ state there
    by_contra seen
    have stops : Ends setup (.idle, state) _ := .cancelled (Bool.eq_true_of_not_eq_false seen)
    have same := ends.config_unique reached stops there
    subst same
    cases ends with
    | finished alive => exact seen alive
    | stuck proceeds => exact seen proceeds.1
  · intro alive
    obtain ⟨state, -, same, -⟩ := ends.idle alive reached
    cases same
    exact ⟨_, rfl⟩

end Termination

section Arrivals

/-- No two gating edges into the node have the same source. -/
def DistinctSources (index : QueueIndex) (target : Uuid) : Prop :=
  (((index.graph.incomingEdges target).filter index.gates).map ExecutionEdge.source).Nodup

/-- The gating edges into the node that are activated. -/
def arrived (index : QueueIndex) (queue : WorkQueue) (target : Uuid) : Nat :=
  ((index.graph.incomingEdges target).filter index.gates).countP
    (fun edge => decide ((edge.source, target) ∈ queue.activatedEdges))

/-- The node is ready, or its counter is below the total and not behind the
activated edges. -/
def Counted (index : QueueIndex) (queue : WorkQueue) (target : Uuid) : Prop :=
  target ∈ queue.ready ∨ arrived index queue target ≤ queue.satisfiedIncoming target ∧
      queue.satisfiedIncoming target < index.totalIncoming target

variable {queue : WorkQueue} {source target id : Uuid}

theorem arrived_insert_le (distinct : DistinctSources index target)
    (activated : other.activatedEdges = insert (source, target) queue.activatedEdges) :
    arrived index other target ≤ arrived index queue target + 1 := by
  unfold arrived
  rw [activated]
  unfold DistinctSources at distinct
  generalize (index.graph.incomingEdges target).filter index.gates = edges at distinct ⊢
  have split : ∀ edges : List ExecutionEdge,
      edges.countP (fun edge => decide ((edge.source, target) ∈
        insert (source, target) queue.activatedEdges)) ≤ edges.countP (fun edge =>
        decide ((edge.source, target) ∈ queue.activatedEdges)) +
          (edges.map ExecutionEdge.source).count source := by
    intro edges
    induction edges with
    | nil => exact Nat.zero_le _
    | cons edge edges ih =>
      rw [countP_cons, countP_cons, map_cons, count_cons]
      by_cases same : edge.source = source
      · simp only [same, Finset.mem_insert_self, decide_true, if_true, beq_self_eq_true]
        omega
      · have iff : (edge.source, target) ∈ insert (source, target) queue.activatedEdges ↔
              (edge.source, target) ∈ queue.activatedEdges := by
          simp [same]
        simp only [iff]
        omega
  have once := nodup_iff_count_le_one.mp distinct source
  have most := split edges
  omega

theorem Counted.ready (counted : Counted index queue target)
    (activated : ∀ source, index.GatingEdge source target → (source, target) ∈
      queue.activatedEdges) : target ∈ queue.ready := by
  rcases counted with ready | ⟨behind, below⟩
  · exact ready
  · exfalso
    have all : arrived index queue target = index.totalIncoming target := by
      unfold arrived QueueIndex.totalIncoming
      rw [countP_eq_length_filter, countP_eq_length_filter, filter_eq_self.mpr]
      intro edge member
      obtain ⟨incoming, gates⟩ := mem_filter.mp member
      obtain ⟨present, arrives⟩ := mem_filter.mp incoming
      exact decide_eq_true (activated edge.source
        ⟨edge, present, gates, rfl, of_decide_eq_true arrives⟩)
    omega

namespace Counted

theorem of_same (counted : Counted index queue target)
    (ready : target ∈ queue.ready → target ∈ other.ready)
    (activated : other.activatedEdges = queue.activatedEdges)
    (satisfied : other.satisfiedIncoming target =
      queue.satisfiedIncoming target) : Counted index other target := by
  rcases counted with old | bounds
  · exact Or.inl (ready old)
  · unfold Counted arrived
    rw [activated, satisfied]
    exact Or.inr bounds

section

variable (distinct : DistinctSources index target)
  (incomplete : target ∉ queue.completed) (unfailed : target ∉ queue.failed)
  (counted : Counted index queue target)
include distinct incomplete unfailed counted

theorem activateFresh : Counted index (queue.activateFresh index source other) target := by
  unfold WorkQueue.activateFresh
  split
  · exact counted
  · rcases counted with ready | ⟨behind, below⟩
    · refine Or.inl ?_
      simp only [countEdge]
      split
      · exact Finset.mem_insert_of_mem ready
      · exact ready
    · by_cases same : other = target
      · subst same
        have more : arrived index (queue.countEdge index source other) other ≤
            arrived index queue other + 1 := arrived_insert_le distinct rfl
        by_cases full : queue.satisfiedIncoming other + 1 = index.totalIncoming other
        · refine Or.inl ?_
          simp only [countEdge, full, incomplete, unfailed, not_false_eq_true, and_self, if_true]
          exact Finset.mem_insert_self _ _
        · refine Or.inr ?_
          simp only [countEdge, Function.update_self] at more ⊢
          omega
      · refine Or.inr ?_
        have kept : arrived index (queue.countEdge index source other) target =
            arrived index queue target := by
          refine countP_congr ?_
          intro edge _
          simp [countEdge, Ne.symm same]
        rw [kept]
        simp only [countEdge, Function.update_of_ne (Ne.symm same)]
        exact ⟨behind, below⟩

theorem activateEdge : Counted index (queue.activateEdge index source other) target := by
  unfold WorkQueue.activateEdge
  split
  · exact counted.of_same (fun ready => Finset.mem_insert_of_mem ready) rfl rfl
  · exact counted.activateFresh distinct incomplete unfailed

end

theorem resetLoopBody (outside : target ∉ bodyIds) (counted : Counted index queue target) :
    Counted index (queue.resetLoopBody index bodyIds) target := by
  refine foldlRecOn (motive := fun queue => Counted index queue target) _ _ counted ?_
  intro queue counted body member
  have different : target ≠ body := by
    rintro rfl
    exact outside member
  refine counted.of_same ?_ rfl ?_
  · intro ready
    have kept : target ∈ queue.ready.erase body := Finset.mem_erase.mpr ⟨different, ready⟩
    simp only [resetBodyNode]
    split
    · exact Finset.mem_insert_of_mem kept
    · exact kept
  · simp only [resetBodyNode, Function.update_of_ne different]

end Counted

/-- The node is not closed, and counted. -/
structure Due (index : QueueIndex) (queue : WorkQueue) (target : Uuid) :
    Prop where
  incomplete : target ∉ queue.completed
  unfailed : target ∉ queue.failed
  counted : Counted index queue target

namespace Due

section

variable (due : Due index queue target)
include due

theorem of_marks (same : WorkQueue.SameMarks other queue)
    (counted : Counted index other target) : Due index other target :=
  ⟨same.completed ▸ due.incomplete, same.failed ▸ due.unfailed, counted⟩

theorem markConditionalCompleted (different : target ≠ id) :
    Due index (queue.markConditionalCompleted id) target := by
  refine ⟨?_, due.unfailed, ?_⟩
  · intro completed
    exact due.incomplete (Finset.mem_of_mem_insert_of_ne completed different)
  · exact due.counted.of_same (fun ready => Finset.mem_erase.mpr ⟨different, ready⟩) rfl rfl

theorem markFailed (different : target ≠ id) : Due index (queue.markFailed id) target := by
  refine ⟨due.incomplete, ?_, ?_⟩
  · intro failed
    exact due.unfailed (Finset.mem_of_mem_insert_of_ne failed different)
  · exact due.counted.of_same (fun ready => Finset.mem_erase.mpr ⟨different, ready⟩) rfl rfl

theorem markCompleted (distinct : DistinctSources index target) (different : target ≠ id) :
    Due index (queue.markCompleted index id) target := by
  unfold WorkQueue.markCompleted WorkQueue.tryActivateDownstream
  have marked := due.markConditionalCompleted different
  split
  · exact marked
  · refine foldlRecOn (motive := fun queue => Due index queue target) _ _ marked ?_
    intro queue due other _
    exact due.of_marks (activateFresh_marks index id queue other)
      (due.counted.activateFresh distinct due.incomplete due.unfailed)

theorem activateEdge (distinct : DistinctSources index target) :
    Due index (queue.activateEdge index source other) target :=
  due.of_marks (activateEdge_marks index queue source other)
    (due.counted.activateEdge distinct due.incomplete due.unfailed)

theorem activateEdges (distinct : DistinctSources index target) {targets : List Uuid} :
    Due index (targets.foldl (fun queue other => queue.activateEdge index source other) queue)
      target :=
  foldlRecOn (motive := fun queue => Due index queue target) _ _ due
    (fun _ due _ _ => due.activateEdge distinct)

theorem resetLoopBody (outside : target ∉ bodyIds) :
    Due index (queue.resetLoopBody index bodyIds) target := by
  have marks := resetLoopBody_marks index queue bodyIds
  refine ⟨?_, ?_, due.counted.resetLoopBody outside⟩
  · rw [marks.completed]
    exact fun member => due.incomplete (Finset.mem_sdiff.mp member).1
  · rw [marks.failed]
    exact fun member => due.unfailed (Finset.mem_sdiff.mp member).1

theorem resetReady : Due index (queue.resetReady id) target :=
  ⟨fun member => due.incomplete (Finset.mem_of_mem_erase member),
    fun member => due.unfailed (Finset.mem_of_mem_erase member),
    due.counted.of_same (fun ready => Finset.mem_insert_of_mem ready) rfl rfl⟩

end

theorem resetReady_self (index : QueueIndex) (queue : WorkQueue)
    (target : Uuid) : Due index (queue.resetReady target) target :=
  ⟨Finset.notMem_erase _ _, Finset.notMem_erase _ _, Or.inl (Finset.mem_insert_self _ _)⟩

end Due

/-- What is known of a node that was not called yet. -/
structure Awaits (setup : RunSetup) (state : RunState) (target : Uuid) :
    Prop where
  due : Due setup.index state.queue target
  unsettled : WorkQueue.settledIn state.nodeStates target = false

theorem settledIn_insert_of_ne (different : target ≠ id) :
    WorkQueue.settledIn (states.insert id value) target = WorkQueue.settledIn states target := by
  unfold settledIn
  rw [Table.insert_apply, if_neg different]

theorem settledIn_rearmBody (unsettled : WorkQueue.settledIn state.nodeStates target = false) :
    WorkQueue.settledIn (rearmBody setup state loopId).nodeStates target =
      false := by
  by_cases member : target ∈ setup.graph.bodyIds loopId
  · simp [settledIn, rearmBody, Table.foldl_insert_apply, member, NodeState.isTerminal]
  · simpa [settledIn, rearmBody, Table.foldl_insert_apply, member] using unsettled

/-- A result of another node keeps a node waiting, unless it resets its count
or fails what is behind it. -/
theorem Awaits.settles (awaits : Awaits setup state target)
    (distinct : DistinctSources setup.index target) (different : target ≠ id)
    (unreset : result.state = .succeeded → ∀ loopId, Rearms setup.index id
      result loopId → target ∈ setup.graph.bodyIds loopId → loopId = target)
    (spared : ∀ message, result.state = .failed message → ¬ TransGen
      setup.graph.Connected id target) (settles : Settles setup state id result (.next following)) :
    Awaits setup following target := by
  have completed := awaits.due.markCompleted distinct different
  have recorded : settledIn (state.recordSuccess id (stored result)).nodeStates target = false :=
    (settledIn_insert_of_ne different).trans awaits.unsettled
  cases settles with
  | conditional =>
    exact ⟨(awaits.due.markConditionalCompleted different).activateEdges distinct, recorded⟩
  | continues _ success kind decision =>
    have outside : target ∉ setup.graph.bodyIds id := by
      intro member
      exact different (unreset success id (.continues kind decision) member).symm
    exact ⟨(completed.resetLoopBody outside).activateEdges distinct, settledIn_rearmBody recorded⟩
  | exits => exact ⟨completed.activateEdges distinct, recorded⟩
  | plain | capped => exact ⟨completed, recorded⟩
  | iterates loopId _ success _ notLoop back =>
    have rearmed : settledIn ((rearmBody setup
        ((state.recordSuccess id (stored result)).complete setup id)
          loopId).nodeStates.insert loopId .pending) target = false := by
      by_cases same : target = loopId
      · subst same
        simp [settledIn, NodeState.isTerminal]
      · rw [settledIn_insert_of_ne same]
        exact settledIn_rearmBody recorded
    by_cases member : target ∈ setup.graph.bodyIds loopId
    · cases unreset success loopId (.iterates notLoop back) member
      exact ⟨(Due.resetReady_self _ _ target).activateEdge distinct, rearmed⟩
    · exact ⟨(completed.resetLoopBody member).resetReady.activateEdge distinct, rearmed⟩
  | failed message failure =>
    have away := spared message failure
    refine cascade_within (fun other => TransGen setup.graph.Connected id other)
      (motive := fun acc => Awaits setup { state with queue := acc.1, nodeStates := acc.2 } target)
      ⟨awaits.due.markFailed different,
        (settledIn_insert_of_ne different).trans awaits.unsettled⟩ ?_ ?_ _ _ ?_
    · intro source other behind edge
      exact behind.tail (ExecutionGraph.mem_outgoing.mp edge)
    · intro queue nodeStates downstream awaits behind _
      have apart : target ≠ downstream := by
        rintro rfl
        exact away behind
      exact ⟨awaits.due.markFailed apart, (settledIn_insert_of_ne apart).trans awaits.unsettled⟩
    · intro other member
      exact .single (ExecutionGraph.mem_outgoing.mp (mem_reverse.mp member))
  | other =>
    exact ⟨completed, (settledIn_insert_of_ne different).trans awaits.unsettled⟩

/-- In a run, no result resets the count of the node, none of a node in front
of it fails, and no two gating edges into it have the same source. -/
structure Unobstructed (setup : RunSetup) (envelope : Option BudgetEnvelope)
    (target : Uuid) : Prop where
  distinct : DistinctSources setup.index target
  unreset : ∀ batchIds id result rest state, Reachable setup envelope
    (.folding batchIds ((id, result) :: rest), state) → result.state = .succeeded → ∀ loopId,
        Rearms setup.index id result loopId → target ∈ setup.graph.bodyIds loopId → loopId = target
  spared : ∀ batchIds id result rest state message, Reachable setup envelope
    (.folding batchIds ((id, result) :: rest), state) → result.state = .failed message →
        ¬ TransGen setup.graph.Connected id target

theorem Awaits.initial (envelope : Option BudgetEnvelope)
    (known : target ∈ setup.graph.nodes.map ExecutionNode.id) :
    Awaits setup (setup.initial envelope) target := by
  refine ⟨⟨Finset.notMem_empty _, Finset.notMem_empty _, ?_⟩, rfl⟩
  by_cases source : setup.index.totalIncoming target = 0
  · obtain ⟨node, member, rfl⟩ := mem_map.mp known
    refine Or.inl (mem_toFinset.mpr (mem_map.mpr ⟨node, ?_, rfl⟩))
    exact mem_filter.mpr ⟨member, by simpa using source⟩
  · refine Or.inr ⟨?_, Nat.pos_of_ne_zero source⟩
    simp [arrived, RunSetup.initial, new]

theorem Awaits.batch {calls : List Call} (awaits : Awaits setup state target)
    (outside : target ∉ state.batch setup) :
    Awaits setup (runCalls setup calls (markBatch (state.batch setup) state.entered)) target := by
  refine ⟨⟨awaits.due.incomplete, awaits.due.unfailed, ?_⟩, ?_⟩
  · refine awaits.due.counted.of_same ?_ rfl rfl
    intro ready
    exact Finset.mem_sdiff.mpr ⟨ready, by simpa using outside⟩
  · have kept : (runCalls setup calls (markBatch (state.batch setup)
        state.entered)).nodeStates target = state.nodeStates target := by
      simp only [runCalls, markBatch, entered, Table.foldl_insert_apply, if_neg outside]
    simpa only [settledIn, kept] using awaits.unsettled

/-- Until it is called, an unobstructed node awaits its call. -/
theorem Reachable.called_or_awaits (returning : CallsReturn setup)
    (known : target ∈ setup.graph.nodes.map ExecutionNode.id)
    (free : Unobstructed setup envelope target) (reached : Reachable setup envelope config) :
    (∃ position, .called position target ∈ config.2.log) ∨
      Awaits setup config.2 target ∧ target ∉ config.1.pending := by
  induction reached with
  | refl => exact Or.inr ⟨Awaits.initial envelope known, not_mem_nil⟩
  | tail before step holds =>
    cases step with
    | spin =>
      exact holds.imp_right (fun waiting => ⟨⟨waiting.1.due, waiting.1.unsettled⟩, not_mem_nil⟩)
    | done =>
      exact holds.imp_right (fun waiting => ⟨waiting.1, not_mem_nil⟩)
    | @batch state dispatched calls _ _ started =>
      obtain ⟨ids, -, rfl⟩ := dispatch_ok started
      by_cases member : target ∈ state.batch setup
      · rw [← ids] at member
        obtain ⟨call, inside, rfl⟩ := mem_map.mp member
        refine Or.inl ⟨call.index, ?_⟩
        refine mem_append_left _ (mem_append_right _ ?_)
        refine mem_flatMap.mpr ⟨call, inside, ?_⟩
        simp [Call.startEvents, returning call]
      · rcases holds with ⟨position, called⟩ | ⟨awaits, -⟩
        · refine Or.inl ⟨position, ?_⟩
          exact mem_append_left _ (mem_append_left _ called)
        · refine Or.inr ⟨awaits.batch member, ?_⟩
          simpa only [Phase.pending, results_ids, ids] using member
    | @fold batchIds id result rest state following processed =>
      rcases holds with ⟨position, called⟩ | ⟨awaits, absent⟩
      · exact Or.inl ⟨position, (processResult_next_log processed).symm ▸ called⟩
      · have charged := charged_same setup state id result
        have different : target ≠ id := by
          rintro rfl
          exact absent mem_cons_self
        have later : target ∉ rest.map Prod.fst := fun member => absent (mem_cons_of_mem _ member)
        refine Or.inr ⟨?_, later⟩
        refine Awaits.settles ⟨charged.queue ▸ awaits.due,
          charged.nodeStates ▸ awaits.unsettled⟩ free.distinct different
          (free.unreset _ _ _ _ _ before) (fun message => free.spared _ _ _ _ _ message before)
          (processResult_next processed)

/-- A run without a budget that ends has called every unobstructed node all of
whose gating edges are activated. -/
theorem called_of_activated (uncancelled : Uncancelled setup)
    (known : target ∈ setup.graph.nodes.map ExecutionNode.id)
    (free : Unobstructed setup none target) {result : RunResult}
    (finished : runInner setup none fuel = some result)
    (activated : ∀ source, setup.index.GatingEdge source target → (source,
      target) ∈ result.2.queue.activatedEdges) :
    ∃ position, .called position target ∈ result.2.log := by
  obtain ⟨config, reached, ends⟩ := runInner_ends finished
  obtain ⟨state, rfl, rfl, stops⟩ := ends.idle uncancelled.staysAlive reached
  rcases reached.called_or_awaits uncancelled.returning known free with called | ⟨awaits, -⟩
  · exact called
  · exfalso
    have ready := awaits.due.counted.ready activated
    have idle : state.queue.inProgress = ∅ :=
      Finset.eq_empty_iff_forall_notMem.mpr (fun other member =>
        not_mem_nil (reached.inProgress_pending other member))
    rcases stops with done | blocked
    · obtain ⟨node, member, rfl⟩ := mem_map.mp known
      have reason := all_eq_true.mp done node member
      simp [awaits.due.incomplete, awaits.due.unfailed, awaits.unsettled] at reason
    · refine getReady_ne_nil idle known ?_ blocked
      simp [isReady, ready, awaits.due.incomplete, awaits.due.unfailed, idle, awaits.unsettled]

def Phase.results : Phase → List (Uuid × NodeExecutionResult)
  | .idle => []
  | .folding _ rest => rest

/-- A gating edge that a returned result selects is activated, once the result
is folded. -/
theorem Reachable.selected_activated (reached : Reachable setup envelope config)
    (gating : (source, target) ∉ setup.index.backEdges)
    (unfailed : ∀ message, result.state ≠ .failed message)
    (selects : Selects setup source result target)
    (returned : .returned source result ∈ config.2.log) :
    (source, target) ∈ config.2.queue.activatedEdges ∨ (source, result) ∈ config.1.results := by
  induction reached with
  | refl => exact (not_mem_nil returned).elim
  | tail _ step holds =>
    cases step with
    | spin | done => exact holds returned
    | @batch state dispatched calls _ _ started =>
      obtain ⟨-, -, rfl⟩ := dispatch_ok started
      rcases returned_of_mem_runCalls returned with old | ⟨call, inside, event⟩
      · exact Or.inl ((holds old).resolve_right not_mem_nil)
      · refine Or.inr (mem_map.mpr ⟨call, inside, ?_⟩)
        unfold Call.endEvents at event
        split at event
        · obtain ⟨rfl, rfl⟩ : source = call.node.id ∧ result = (call.result setup).2 := by
            simpa using event
          exact Prod.ext (call.result_fst setup) rfl
        · exact (not_mem_nil event).elim
    | @fold batchIds id value rest state following processed =>
      rw [processResult_next_log processed] at returned
      have charged := charged_same setup state id value
      have settles := processResult_next processed
      rw [settles.mem_activated gating, charged.queue]
      rcases holds returned with old | waiting
      · exact Or.inl (Or.inl old)
      · rcases mem_cons.mp waiting with same | later
        · cases same
          exact Or.inl (Or.inr ⟨rfl, unfailed, selects⟩)
        · exact Or.inr later

end Arrivals

/-! ## Nodes that can run

Without loops a node is called only if every node in front of it can be, and
only if no two of its edges have one source: such edges are counted once. -/

/-- Nothing in front of the node is on a cycle or behind parallel edges. -/
inductive Runnable (graph : ExecutionGraph) : Uuid → Prop where
  | intro {id : Uuid} (known : id ∈ graph.nodes.map ExecutionNode.id)
      (separate : (graph.incoming id).Nodup)
      (sources : ∀ source, graph.Connected source id → Runnable graph source) : Runnable graph id

section Runnable

variable {id : Uuid} (loopFree : LoopFree setup.graph)
include loopFree

theorem Counts.settles {rest : List Uuid} (counts : Counts setup.graph (id :: rest) state.queue)
    (settles : Settles setup state id result (.next following)) :
    Counts setup.graph rest following.queue := by
  have completed : Counts setup.graph rest (state.queue.markCompleted setup.index id) := by
    unfold WorkQueue.markCompleted WorkQueue.tryActivateDownstream
    split
    · exact counts.completed
    · exact (counts.completed.activateAll _ loopFree _ fun _ => ExecutionGraph.mem_outgoing.mp).1
  cases settles with
  | conditional =>
    simp only [conditionalSucceeded, RunState.activateAll, loopFree.activateEdge, RunSetup.index]
    exact (counts.completed.activateAll _ loopFree _ fun _ => connected_of_selected).1
  | continues _ _ kind | exits _ kind => exact (loopFree.kindAt _ kind).elim
  | iterates _ _ _ _ _ back | capped _ _ _ _ _ back =>
    cases back.symm.trans (loopFree.loopBackTarget setup.maxConcurrent id)
  | plain | other => exact completed
  | failed =>
    refine cascade_induction (motive := fun acc => Counts setup.graph rest acc.1) ?_ ?_ _ _ _
    · exact counts.markFailed (fun _ => mem_cons_of_mem _)
        (fun _ member different => (mem_cons.mp member).resolve_left different)
    · intro queue _ downstream counts _
      exact counts.markFailed (fun _ member => member) (fun _ member _ => member)

theorem Reachable.counts (reached : Reachable setup envelope config) :
    Counts setup.graph config.1.pending config.2.queue := by
  induction reached with
  | refl => exact Counts.initial setup loopFree envelope
  | tail _ step counts =>
    cases step with
    | spin | done => exact counts
    | batch _ _ started =>
      obtain ⟨ids, -, rfl⟩ := dispatch_ok started
      simp only [Phase.pending, results_ids, ids]
      exact Counts.batch counts
    | @fold _ id result _ state _ processed =>
      refine Counts.settles loopFree ?_ (processResult_next processed)
      exact (charged_same setup state id result).queue ▸ counts

theorem Reachable.runnable_of_mem_batch (reached : Reachable setup envelope (.idle, state))
    (returned : ∀ source result, .returned source result ∈ state.log →
      Runnable setup.graph source) (member : id ∈ state.batch setup) : Runnable setup.graph id := by
  have counts := reached.counts loopFree
  obtain ⟨separate, all⟩ := (counts.satisfied_iff id).mp (Counts.full counts member).2
  refine .intro (known_of_mem_batch member) separate fun source edge => ?_
  obtain ⟨result, event, -⟩ := reached.selected
    (by simp [RunSetup.index, QueueIndex.new, loopFree.backEdges]) (all source edge)
  exact returned source result event

theorem Reachable.runnable_of_returned (reached : Reachable setup envelope config)
    (returned : .returned id result ∈ config.2.log) : Runnable setup.graph id := by
  refine reached.log_invariant (fun log => ∀ id result, .returned id result ∈ log →
    Runnable setup.graph id) (by simp) ?_ id result returned
  intro state dispatched calls before proceeds started holds id result returned
  have marked := (dispatch_ok started).2.2
  rcases returned_of_mem_runCalls returned with old | ⟨call, member, event⟩
  · rw [marked] at old
    exact holds id result old
  · obtain ⟨rfl, -⟩ := Call.of_mem_endEvents event
    exact before.runnable_of_mem_batch loopFree holds
      (DispatchesFrom.mem_batch ⟨calls, dispatched, before, proceeds, started, member⟩)

/-- Whatever is dispatched can run. -/
theorem DispatchesFrom.runnable (started : DispatchesFrom setup envelope state call) :
    Runnable setup.graph call.node.id :=
  started.reachable.runnable_of_mem_batch loopFree
    (fun _ _ => started.reachable.runnable_of_returned loopFree) started.mem_batch

omit loopFree in
theorem Reachable.returned_of_called (returning : CallsReturn setup)
    (reached : Reachable setup envelope config) (called : .called position id ∈ config.2.log) :
    ∃ result, .returned id result ∈ config.2.log := by
  refine reached.log_invariant (fun log => .called position id ∈ log →
    ∃ result, .returned id result ∈ log) (by simp) ?_ called
  intro state dispatched calls _ _ started holds called
  have marked := (dispatch_ok started).2.2
  simp only [runCalls, mem_append, mem_flatMap]
  rcases called_of_mem_runCalls called with old | ⟨call, member, event⟩
  · rw [marked] at old ⊢
    obtain ⟨result, returned⟩ := holds old
    exact ⟨result, Or.inl (Or.inl returned)⟩
  · obtain ⟨rfl, rfl⟩ := Call.of_mem_startEvents event
    exact ⟨_, Or.inr ⟨call, member, by simp [Call.endEvents, returning call]; rfl⟩⟩

/-- Where every node succeeds and none selects its successors, what can run is
called. -/
theorem called_of_runnable (uncancelled : Uncancelled setup)
    (succeeds : ∀ number node context, (setup.executor number node context).state = .succeeded)
    (blanket : setup.graph.selectiveSources = ∅) {result : RunResult}
    (finished : runInner setup none fuel = some result) (runnable : Runnable setup.graph id) :
    ∃ position, .called position id ∈ result.2.log := by
  have forward : ∀ left right, (left, right) ∉ setup.index.backEdges := by
    simp [RunSetup.index, QueueIndex.new, loopFree.backEdges]
  obtain ⟨config, reached, ends⟩ := runInner_ends finished
  obtain ⟨state, rfl, rfl, -⟩ := ends.idle uncancelled.staysAlive reached
  induction runnable with
  | @intro id known separate sources ih =>
    refine called_of_activated uncancelled known ⟨?_, ?_, ?_⟩ finished ?_
    · exact separate.sublist (filter_sublist.map _)
    · intro _ other _ _ _ _ _ loopId rearms
      cases rearms with
      | continues kind => exact (loopFree.kindAt _ kind).elim
      | iterates _ back =>
        cases back.symm.trans (loopFree.loopBackTarget setup.maxConcurrent other)
    · intro _ _ _ _ _ message there failure
      have returned := there.pending_returned uncancelled.returning mem_cons_self
      obtain ⟨_, -, -, rfl⟩ := there.executed_of_returned returned
      simp [succeeds] at failure
    · intro source gating
      have edge := (QueueIndex.gatingEdge_iff.mp gating).1
      obtain ⟨position, called⟩ := ih source edge
      obtain ⟨answer, returned⟩ := reached.returned_of_called uncancelled.returning called
      obtain ⟨_, -, -, rfl⟩ := reached.executed_of_returned returned
      exact (reached.selected_activated (forward _ _) (by simp [succeeds])
        (.all (by simp [blanket]) edge) returned).resolve_right not_mem_nil

end Runnable

end FusionRouter
