import FusionRouter.Lib.Count
import FusionRouter.Scheduler.Gating
import FusionRouter.Scheduler.Steps

/-!
# Dependency order

A node is called only after its gating predecessors have finished.  The queue
compares a counter that back-edges raise too with a total that leaves them out,
so the order rests on one condition: a node with a back-edge into a loop head
finishes after the gating predecessors of that head.
-/

namespace FusionRouter

open Relation RunState
open List hiding head

/-- All gating predecessors of a node have finished. -/
def Armed (index : QueueIndex) (finished : Uuid → Prop) (id : Uuid) : Prop :=
  ∀ predecessor, index.GatingEdge predecessor id → finished predecessor

/-- The edges into `id` that were activated. -/
def activatedInto (index : QueueIndex) (queue : WorkQueue) (id : Uuid) : Nat :=
  (index.graph.incomingEdges id).countP
    (fun edge => decide ((edge.source, id) ∈ queue.activatedEdges))

/-- What a queue knows about the finished nodes in front of `id`. -/
structure InOrder (index : QueueIndex) (finished : Uuid → Prop) (id : Uuid)
    (queue : WorkQueue) : Prop where
  activated : ∀ source, (source, id) ∈ queue.activatedEdges → finished source
  satisfied : queue.satisfiedIncoming id ≤ activatedInto index queue id
  ready : id ∈ queue.ready → Armed index finished id

namespace InOrder

variable {id : Uuid}

theorem new (index : QueueIndex) (finished : Uuid → Prop) (id : Uuid) :
    InOrder index finished id (WorkQueue.new index) := by
  refine ⟨by simp [WorkQueue.new], by simp [WorkQueue.new], ?_⟩
  intro ready predecessor ⟨edge, member, gating, source, target⟩
  obtain ⟨node, waiting, rfl⟩ := mem_map.mp (mem_toFinset.mp ready)
  have none : index.totalIncoming node.id = 0 := by
    simpa using (mem_filter.mp waiting).2
  have positive : 0 < index.totalIncoming node.id := countP_pos_iff.mpr
      ⟨edge, mem_filter.mpr ⟨member, by simpa using target⟩, gating⟩
  omega

variable {queue : WorkQueue}

section

variable (inOrder : InOrder index finished id queue)
include inOrder

theorem mono (included : ∀ other, finished other → later other) : InOrder index later id queue :=
  ⟨fun source edge => included source (inOrder.activated source edge),
    inOrder.satisfied, fun ready predecessor gating =>
      included _ (inOrder.ready ready predecessor gating)⟩

theorem of_ready_subset (activated : other.activatedEdges = queue.activatedEdges)
    (satisfied : other.satisfiedIncoming = queue.satisfiedIncoming)
    (ready : other.ready ⊆ queue.ready) : InOrder index finished id other := by
  refine ⟨activated ▸ inOrder.activated, ?_, ?_⟩
  · unfold activatedInto
    rw [activated, satisfied]
    exact inOrder.satisfied
  · intro member
    exact inOrder.ready (ready member)

theorem markConditionalCompleted (other : Uuid) :
    InOrder index finished id (queue.markConditionalCompleted other) :=
  inOrder.of_ready_subset rfl rfl (Finset.erase_subset _ _)

theorem markFailed (other : Uuid) : InOrder index finished id (queue.markFailed other) :=
  inOrder.of_ready_subset rfl rfl (Finset.erase_subset _ _)

end

section Activation

variable (backs : ∀ source, (source, id) ∈ index.backEdges →
  finished source → Armed index finished id)

include backs

/-- A node whose activated edges are as many as its gating edges is armed:
either all of them gate, or one is a back-edge. -/
theorem armed_of_activated
    (activated : ∀ source, (source, id) ∈ queue.activatedEdges → finished
      source) (enough : index.totalIncoming id ≤ activatedInto index queue id) :
    Armed index finished id := by
  by_cases back : ∃ source, (source, id) ∈ queue.activatedEdges ∧ (source, id) ∈ index.backEdges
  · obtain ⟨source, member, edge⟩ := back
    exact backs source edge (activated source member)
  · intro predecessor ⟨edge, member, gating, source, target⟩
    have incoming : edge ∈ index.graph.incomingEdges id :=
      mem_filter.mpr ⟨member, by simpa using target⟩
    have same : decide ((edge.source, id) ∈ queue.activatedEdges) = true := by
      refine Count.strong_of_countP_le ?_ enough incoming gating
      intro other inside used
      have used := of_decide_eq_true used
      have targetId : other.target = id := by
        simpa using (mem_filter.mp inside).2
      simp only [QueueIndex.gates, targetId, decide_eq_true_eq]
      exact fun edge => back ⟨other.source, used, edge⟩
    exact source ▸ activated edge.source (of_decide_eq_true same)

section

variable (inOrder : InOrder index finished id queue)
include inOrder

theorem countEdge (done : target = id → finished source)
    (edge : index.graph.Connected source target) (fresh : (source, target) ∉ queue.activatedEdges) :
    InOrder index finished id (queue.countEdge index source target) := by
  have activated : ∀ left, (left, id) ∈ insert (source, target) queue.activatedEdges →
        finished left := by
    intro left member
    rcases Finset.mem_insert.mp member with same | old
    · cases same
      exact done rfl
    · exact inOrder.activated left old
  have grows : ∀ other, decide ((other, id) ∈ queue.activatedEdges) = true →
      decide ((other, id) ∈ (queue.countEdge index source target).activatedEdges) = true := by
    intro other used
    exact decide_eq_true (Finset.mem_insert_of_mem (of_decide_eq_true used))
  have counted : (queue.countEdge index source target).satisfiedIncoming id ≤
      activatedInto index (queue.countEdge index source target) id := by
    by_cases same : id = target
    · subst same
      have strictly : activatedInto index queue id <
          activatedInto index (queue.countEdge index source id) id := by
        obtain ⟨edge, member, rfl, same⟩ := edge
        refine Count.countP_lt_countP (fun other _ => grows other.source)
          (mem_filter.mpr ⟨member, by simpa using same⟩) ?_ (decide_eq_false fresh)
        exact decide_eq_true (Finset.mem_insert_self _ _)
      have before := inOrder.satisfied
      have one : (queue.countEdge index source id).satisfiedIncoming id =
          queue.satisfiedIncoming id + 1 := by
        simp [WorkQueue.countEdge]
      omega
    · have unchanged : (queue.countEdge index source target).satisfiedIncoming
          id = queue.satisfiedIncoming id := by
        simp [WorkQueue.countEdge, same]
      rw [unchanged]
      exact inOrder.satisfied.trans (countP_mono_left (fun other _ => grows other.source))
  refine ⟨activated, counted, ?_⟩
  intro ready
  simp only [WorkQueue.countEdge] at ready
  split at ready
  next met =>
    rcases Finset.mem_insert.mp ready with rfl | old
    · refine armed_of_activated backs activated (le_of_eq_of_le ?_ counted)
      simpa [WorkQueue.countEdge] using met.1.symm
    · exact inOrder.ready old
  · exact inOrder.ready ready

theorem activateFresh (done : target = id → finished source)
    (edge : index.graph.Connected source target) :
    InOrder index finished id (queue.activateFresh index source target) := by
  unfold WorkQueue.activateFresh
  split
  · exact inOrder
  next fresh => exact inOrder.countEdge backs done edge fresh

theorem markCompleted
    (done : source ∉ index.selectiveSources → index.graph.Connected source id → finished source) :
    InOrder index finished id (queue.markCompleted index source) := by
  unfold WorkQueue.markCompleted WorkQueue.tryActivateDownstream
  split
  · exact inOrder.markConditionalCompleted source
  next blanket =>
    refine foldlRecOn _ _ (inOrder.markConditionalCompleted source) ?_
    intro other ordered target member
    have edge := ExecutionGraph.mem_outgoing.mp member
    exact ordered.activateFresh backs (fun same => done blanket (same ▸ edge)) edge

theorem activateEdge (done : target = id → finished source)
    (edge : index.graph.Connected source target) :
    InOrder index finished id (queue.activateEdge index source target) := by
  unfold WorkQueue.activateEdge
  split
  next back =>
    refine ⟨inOrder.activated, inOrder.satisfied, ?_⟩
    intro ready
    rcases Finset.mem_insert.mp ready with rfl | old
    · exact backs source back (done rfl)
    · exact inOrder.ready old
  · exact inOrder.activateFresh backs done edge

theorem activateEdges {targets : List Uuid} (done : id ∈ targets → finished source)
    (edges : ∀ target ∈ targets, index.graph.Connected source target) :
    InOrder index finished id (targets.foldl
      (fun queue target => queue.activateEdge index source target) queue) :=
  foldlRecOn _ _ inOrder (fun _ ordered target member =>
    ordered.activateEdge backs (fun same => done (same ▸ member)) (edges target member))

theorem resetBodyNode (body : Uuid) :
    InOrder index finished id (queue.resetBodyNode index body) := by
  by_cases same : id = body
  · subst same
    have recounted : ∀ other : WorkQueue, other.activatedEdges = queue.activatedEdges →
          other.stillSatisfied index id ≤ activatedInto index queue id := by
      intro other same
      unfold WorkQueue.stillSatisfied activatedInto ExecutionGraph.incoming
      rw [countP_map]
      refine countP_mono_left ?_
      intro edge _ used
      have used := of_decide_eq_true used
      exact decide_eq_true (same ▸ used.2)
    refine ⟨inOrder.activated, ?_, ?_⟩
    · refine le_of_eq_of_le ?_ (recounted
        { queue with
          completed := queue.completed.erase id
          inProgress := queue.inProgress.erase id
          failed := queue.failed.erase id
          ready := queue.ready.erase id } rfl)
      exact Function.update_self id _ _
    · intro ready
      simp only [WorkQueue.resetBodyNode] at ready
      split at ready
      next met =>
        exact armed_of_activated backs inOrder.activated (met.1 ▸ recounted _ rfl)
      · exact inOrder.ready (Finset.mem_of_mem_erase ready)
  · refine ⟨inOrder.activated, ?_, ?_⟩
    · refine le_of_eq_of_le ?_ inOrder.satisfied
      exact Function.update_of_ne same _ _
    · intro ready
      simp only [WorkQueue.resetBodyNode] at ready
      split at ready
      · rcases Finset.mem_insert.mp ready with equal | old
        · exact (same equal).elim
        · exact inOrder.ready (Finset.mem_of_mem_erase old)
      · exact inOrder.ready (Finset.mem_of_mem_erase ready)

theorem resetLoopBody (bodyIds : List Uuid) :
    InOrder index finished id (queue.resetLoopBody index bodyIds) :=
  foldlRecOn _ _ inOrder (fun _ ordered body _ => ordered.resetBodyNode backs body)

end

end Activation

theorem resetReady (inOrder : InOrder index finished id queue)
    (armed : other = id → Armed index finished id) :
    InOrder index finished id (queue.resetReady other) := by
  refine ⟨inOrder.activated, inOrder.satisfied, ?_⟩
  intro ready
  rcases Finset.mem_insert.mp ready with same | old
  · exact armed same.symm
  · exact inOrder.ready old

end InOrder

/-- The node returned `Succeeded` or `Skipped`. -/
def Finished (log : List Event) (id : Uuid) : Prop :=
  ∃ result, .returned id result ∈ log ∧ (result.state = .succeeded ∨ result.state = .skipped)

/-- Each call of `id` comes after its gating predecessors finished. -/
def OrderedAt (index : QueueIndex) (id : Uuid) (log : List Event) : Prop :=
  ∀ moment position, log[moment]? = some (.called position id) →
    Armed index (Finished (log.take moment)) id

/-- Each call comes after the gating predecessors of its node finished. -/
def DependencyOrder (index : QueueIndex) (log : List Event) : Prop :=
  ∀ moment position id, log[moment]? = some (.called position id) →
    Armed index (Finished (log.take moment)) id

/-- No result is `Pending` or `Running`, and a node that has a back-edge into a
loop head finishes only after the gating predecessors of the head. -/
structure HeadsWait (index : QueueIndex) (log : List Event) : Prop where
  definite : ∀ id result, .returned id result ∈ log →
    result.state ≠ .pending ∧ result.state ≠ .running
  heads : ∀ moment id result, log[moment]? = some (.returned id result) →
    result.state = .succeeded ∨ result.state = .skipped → ∀ head, (id, head) ∈ index.backEdges →
        Armed index (Finished (log.take moment)) head

/-- A node that has a back-edge into `head` finishes only after the gating
predecessors of the head. -/
def BacksFinishLate (index : QueueIndex) (head : Uuid) (log : List Event) :
    Prop :=
  ∀ moment id result, log[moment]? = some (.returned id result) →
    result.state = .succeeded ∨ result.state = .skipped → (id, head) ∈ index.backEdges →
        Armed index (Finished (log.take moment)) head

/-- `HeadsWait` for the back-edges into one node. -/
structure HeadWaits (index : QueueIndex) (head : Uuid) (log : List Event) :
    Prop where
  definite : ∀ id result, .returned id result ∈ log →
    result.state ≠ .pending ∧ result.state ≠ .running
  late : BacksFinishLate index head log

variable {log : List Event} {id : Uuid} {state : RunState}
  {envelope : Option BudgetEnvelope}

theorem HeadsWait.head (waits : HeadsWait index log) (head : Uuid) : HeadWaits index head log :=
  ⟨waits.definite, fun moment id result found success back =>
    waits.heads moment id result found success head back⟩

theorem Finished.mono (finished : Finished log id) (included : log ⊆ later) :
    Finished later id := by
  obtain ⟨result, member, success⟩ := finished
  exact ⟨result, included member, success⟩

theorem Armed.mono (armed : Armed index finished id)
    (included : ∀ id, finished id → later id) : Armed index later id :=
  fun predecessor gating => included predecessor (armed predecessor gating)

/-- An event of the longer log either belongs to the shorter one, with the same
past, or has the whole shorter log in its past. -/
theorem take_append_cases (found : (log ++ new)[moment]? = some event) :
    (log[moment]? = some event ∧ (log ++ new).take moment = log.take moment) ∨
      (event ∈ new ∧ log ⊆ (log ++ new).take moment) := by
  rcases Nat.lt_or_ge moment log.length with early | late
  · left
    rw [getElem?_append_left early] at found
    exact ⟨found, take_append_of_le_length (Nat.le_of_lt early)⟩
  · right
    rw [getElem?_append_right late] at found
    refine ⟨mem_of_getElem? found, ?_⟩
    rw [take_append, take_of_length_le late]
    exact subset_append_left _ _

theorem HeadWaits.of_append (log new : List Event)
    (waits : HeadWaits index head (log ++ new)) : HeadWaits index head log := by
  refine ⟨fun id result member => waits.definite id result (mem_append_left _ member), ?_⟩
  intro moment id result found success back
  have early : moment < log.length := (List.getElem?_eq_some_iff.mp found).1
  have armed := waits.late moment id result (by rw [getElem?_append_left early, found]) success back
  rwa [take_append_of_le_length (Nat.le_of_lt early)] at armed

theorem HeadWaits.backs (waits : HeadWaits index head log) (source : Uuid)
    (back : (source, head) ∈ index.backEdges) (finished : Finished log source) :
    Armed index (Finished log) head := by
  obtain ⟨result, member, success⟩ := finished
  obtain ⟨moment, found⟩ := mem_iff_getElem?.mp member
  exact (waits.late moment source result found success back).mono
    (fun _ finished => finished.mono (take_subset _ _))

theorem connected_of_selected {graph : ExecutionGraph}
    (member : target ∈ ((graph.outgoingEdges id).filter selected).map
      ExecutionEdge.target) : graph.Connected id target := by
  obtain ⟨edge, inside, rfl⟩ := mem_map.mp member
  exact ExecutionGraph.mem_outgoing.mp (mem_map.mpr ⟨edge, (mem_filter.mp inside).1, rfl⟩)

theorem InOrder.failed (inOrder : InOrder setup.index finished id state.queue)
    (other : Uuid) (message : String) :
    InOrder setup.index finished id (failed setup state other message).queue :=
  cascade_induction (motive := fun acc => InOrder setup.index finished id acc.1)
    (inOrder.markFailed other) (fun _ _ downstream ordered _ => ordered.markFailed downstream) _ _ _

/-- The edges that a result activates: all of them, or the ones that a
`Conditional` or `Loop` node selects. -/
inductive Selects (setup : RunSetup) (id : Uuid) (result : NodeExecutionResult)
    (target : Uuid) : Prop where
  | all (blanket : id ∉ setup.graph.selectiveSources) (edge : setup.graph.Connected id target)
  | matched (success : result.state = .succeeded) (kind : setup.graph.kindAt id = some .conditional)
      (member : target ∈ setup.graph.matchedTargets id (stored result))
  | body (success : result.state = .succeeded) (kind : setup.graph.kindAt id = some .loop)
      (decision : (stored result).asBool.getD false = true)
      (member : target ∈ setup.graph.bodyIds id)
  | exit (success : result.state = .succeeded) (kind : setup.graph.kindAt id = some .loop)
      (decision : (stored result).asBool.getD false = false)
      (member : target ∈ setup.graph.exitTargets id)

theorem InOrder.settles
    (backs : ∀ source, (source, id) ∈ setup.index.backEdges → finished source →
      Armed setup.index finished id) {following : RunState}
    (inOrder : InOrder setup.index finished id state.queue)
    (done : (∀ message, result.state ≠ .failed message) → Selects setup source
      result id ∨ (source, id) ∈ setup.index.backEdges → finished source)
    (settles : Settles setup state source result (.next following)) :
    InOrder setup.index finished id following.queue := by
  have selected (equal : result.state = .succeeded)
      (selects : Selects setup source result id) : finished source :=
    done (by simp [equal]) (Or.inl selects)
  have completed (notFailed : ∀ message, result.state ≠ .failed message) :
      InOrder setup.index finished id (state.queue.markCompleted setup.index source) :=
    inOrder.markCompleted backs (fun blanket edge => done notFailed (Or.inl (.all blanket edge)))
  cases settles with
  | conditional equal kind =>
    exact (inOrder.markConditionalCompleted source).activateEdges backs
      (fun member => selected equal (.matched equal kind member))
      (fun _ member => connected_of_selected member)
  | continues envelope equal kind decision =>
    exact ((completed (by simp [equal])).resetLoopBody backs _).activateEdges
      backs (fun member => selected equal (.body equal kind decision member))
      (fun _ member => connected_of_selected member)
  | exits equal kind decision =>
    exact (completed (by simp [equal])).activateEdges backs
      (fun member => selected equal (.exit equal kind decision member))
      (fun _ member => connected_of_selected member)
  | plain equal | capped _ _ equal => exact completed (by simp [equal])
  | iterates loopId loopNode equal _ _ target =>
    have back := QueueIndex.loopBackTarget_eq_some target
    have arrives : loopId = id → finished source := by
      rintro rfl
      exact done (by simp [equal]) (Or.inr back)
    have armed : loopId = id → Armed setup.index finished id := by
      rintro rfl
      exact backs source back (arrives rfl)
    have edge : setup.graph.Connected source loopId :=
      ExecutionGraph.mem_outgoing.mp (mem_of_find?_eq_some target)
    exact (((completed (by simp [equal])).resetLoopBody backs _).resetReady
      armed).activateEdge backs arrives edge
  | failed message => exact inOrder.failed source message
  | other _ notFailed => exact completed notFailed

theorem InOrder.batch_armed (inOrder : InOrder setup.index finished id state.queue)
    (member : id ∈ state.batch setup) : Armed setup.index finished id :=
  inOrder.ready (queued_of_mem_batch member)

theorem OrderedAt.batch {dispatched : RunState} {calls : List Call}
    (ordered : OrderedAt setup.index id state.log)
    (inOrder : InOrder setup.index (Finished state.log) id state.queue)
    (started : dispatch setup (state.batch setup) state.entered = .ok (calls, dispatched)) :
    OrderedAt setup.index id (runCalls setup calls dispatched).log := by
  have member := mem_batch_of_called started
  obtain ⟨-, -, rfl⟩ := dispatch_ok started
  intro moment position found
  simp only [runCalls, markBatch, entered, append_assoc] at found ⊢
  rcases take_append_cases found with ⟨old, past⟩ | ⟨new, past⟩
  · rw [past]
    exact ordered moment position old
  · exact (inOrder.batch_armed (member _ _ new)).mono (fun _ finished => finished.mono past)

/-- In every run whose log keeps `HeadWaits`, the queue and the log are in
order at the node. -/
theorem Reachable.inOrder (reached : Reachable setup envelope config) (id : Uuid) :
    HeadWaits setup.index id config.2.log →
      InOrder setup.index (Finished config.2.log) id config.2.queue ∧
        OrderedAt setup.index id config.2.log := by
  induction reached with
  | refl =>
    intro _
    exact ⟨InOrder.new setup.index _ id, by simp [OrderedAt, RunSetup.initial]⟩
  | tail before step holds =>
    intro waits
    cases step with
    | spin | done => exact holds waits
    | @batch state dispatched calls proceeds available started =>
      have marked := (dispatch_ok started).2.2
      have prior : HeadWaits setup.index id state.log := by
        apply HeadWaits.of_append state.log
          (calls.flatMap (Call.startEvents setup) ++ calls.flatMap (Call.endEvents setup))
        simpa [runCalls, marked, markBatch, entered] using waits
      obtain ⟨inOrder, ordered⟩ := holds prior
      refine ⟨?_, ordered.batch inOrder started⟩
      subst marked
      refine (inOrder.mono ?_).of_ready_subset rfl rfl Finset.sdiff_subset
      intro other finished
      refine finished.mono ?_
      simp [runCalls, markBatch, entered]
    | @fold batchIds source result rest state following processed =>
      have charged := charged_same setup state source result
      simp only [processResult_next_log processed] at waits ⊢
      obtain ⟨inOrder, ordered⟩ := holds waits
      refine ⟨InOrder.settles waits.backs (charged.queue ▸ inOrder) ?_
        (processResult_next processed), ordered⟩
      intro notFailed _
      rcases Reachable.result_logged before mem_cons_self with ⟨message, failure⟩ | member
      · exact (notFailed message failure).elim
      · have definite := waits.definite source result member
        refine ⟨result, member, ?_⟩
        cases state : result.state with
        | pending => exact (definite.1 state).elim
        | running => exact (definite.2 state).elim
        | succeeded => exact Or.inl rfl
        | skipped => exact Or.inr rfl
        | failed message => exact (notFailed message state).elim

/-- When no result is `Pending` or `Running`, it is enough that the gating
predecessors of a loop head are gating ancestors of whatever has a back-edge
into it. -/
theorem Reachable.headsWait
    (definite : ∀ number node context, (setup.executor number node
      context).state ≠ .pending ∧ (setup.executor number node context).state ≠ .running)
    (ancestors : ∀ source head, (source, head) ∈ setup.index.backEdges → ∀
      predecessor, setup.index.GatingEdge predecessor head → TransGen
      setup.index.GatingEdge predecessor source) (reached : Reachable setup envelope config) :
    HeadsWait setup.index config.2.log := by
  refine reached.log_invariant (HeadsWait setup.index) ⟨by simp, by simp⟩ ?_
  intro state dispatched calls before _ started waits
  have inOrder := fun id => before.inOrder id (waits.head id)
  obtain ⟨ids, -, rfl⟩ := dispatch_ok started
  have new : ∀ id result, .returned id result ∈ calls.flatMap (Call.startEvents setup) ++
        calls.flatMap (Call.endEvents setup) → id ∈ state.batch setup ∧ result.state ≠ .pending ∧
        result.state ≠ .running := by
    intro id result event
    rcases mem_append.mp event with start | finish
    · obtain ⟨call, inside, event⟩ := mem_flatMap.mp start
      exact (Call.not_returned_mem_startEvents event).elim
    · obtain ⟨call, inside, event⟩ := mem_flatMap.mp finish
      obtain ⟨rfl, rfl⟩ := Call.of_mem_endEvents event
      exact ⟨ids ▸ mem_map.mpr ⟨call, inside, rfl⟩, definite _ _ _⟩
  simp only [runCalls, markBatch, entered, append_assoc]
  refine ⟨?_, ?_⟩
  · intro id result event
    rcases mem_append.mp event with old | event
    · exact waits.definite id result old
    · exact (new id result event).2
  · intro moment id result found success head back
    rcases take_append_cases found with ⟨old, past⟩ | ⟨event, past⟩
    · rw [past]
      exact waits.heads moment id result old success head back
    · intro predecessor gating
      have armed := (inOrder id).1.batch_armed (new id result event).1
      have walk := ancestors id head back predecessor gating
      apply Finished.mono ?_ past
      -- follow the ancestors back from the node, which was called just now
      refine TransGen.head_induction_on walk ?_ ?_
      · intro left gating
        exact armed left gating
      · rintro left right gating _ ⟨result, returned, -⟩
        obtain ⟨position, called⟩ := Reachable.called_of_returned before returned
        obtain ⟨moment, found⟩ := mem_iff_getElem?.mp called
        have ordered := (Reachable.inOrder before right (waits.head right)).2
        exact (ordered moment position found left gating).mono (take_subset _ _)

/-- Every call of a run comes after the gating predecessors of its node have
finished, as long as no result is `Pending` or `Running` and loop heads are not
armed by a back-edge ahead of their predecessors. -/
theorem called_after_predecessors (setup : RunSetup)
    (envelope : Option BudgetEnvelope) (state : RunState) (visited : Visited setup envelope state)
    (waits : HeadsWait setup.index state.log) : DependencyOrder setup.index state.log := by
  obtain ⟨config, reached, same⟩ := visited.reachable
  rw [← same] at waits ⊢
  intro moment position id found
  exact (reached.inOrder id (waits.head id)).2 moment position found

def Event.summary : Event → Bool × Uuid
  | .called _ id => (true, id)
  | .returned id _ => (false, id)

theorem Finished.summary (finished : Finished log id) : (false, id) ∈ log.map Event.summary := by
  obtain ⟨result, member, -⟩ := finished
  exact mem_map.mpr ⟨_, member, rfl⟩

theorem called_of_summary (summary : log.map Event.summary = events)
    (moment : Nat) (id : Uuid) (found : events[moment]? = some (true, id)) :
    ∃ position, log[moment]? = some (.called position id) := by
  rw [← summary, getElem?_map] at found
  obtain ⟨event, present, summary⟩ := Option.map_eq_some_iff.mp found
  cases event with
  | called position other =>
    cases summary
    exact ⟨position, present⟩
  | returned other result => cases summary

def sampleOptions : CompilerOptions :=
  { externals := acceptingExternals
    fastModel := "gpt-4o-mini"
    canAfford := fun _ _ => true
    policy := none }

/-- `Uuid::new_v5` on the names of the samples: the children of node 1 and the
policy gates of nodes 1 and 2. -/
def sampleIds (parent : Uuid) (text : String) : Uuid :=
  if text = "00000000-0000-0000-0000-000000000001:generator:0" then
    0x6de76face6605c7c8fb47f7b435f5417
  else if text = "00000000-0000-0000-0000-000000000001:gen:0" then
    0xf6de131e1e2e5048ab7d2e9ade157a57
  else if text = "00000000-0000-0000-0000-000000000001:reviewer:0" then
    0x6679c98b69025da39aa165b65646624b
  else if text = "00000000-0000-0000-0000-000000000001:judge:0" then
    0x2a27b89ed72b541ebf199acbe7070d6a
  else if parent = 1 then 0x31a8d59cec1f58cdb3696f5c6571889c
  else 0x074e896574185e199c3fdc54b482f890

def compiledGraph (options : CompilerOptions) (ir : WorkflowIR) :
    ExecutionGraph :=
  match compile options ir with
  | .ok graph => graph
  | .error _ => Lowering.lowerToGraph options.externals Table.empty ir

theorem compile_eq_ok (accepted : (compile options ir).isOk = true) :
    compile options ir = .ok (compiledGraph options ir) := by
  unfold compiledGraph
  cases result : compile options ir with
  | ok graph => rfl
  | error error => simp [result, Except.isOk, Except.toBool] at accepted

def sampleSetup (graph : ExecutionGraph) (executor : Executor) : RunSetup :=
  { externals := acceptingExternals
    graph := graph
    maxConcurrent := 4
    pricing := none
    executor := executor
    cancel := none }

def succeeding : Executor := fun _ _ _ =>
  { state := .succeeded
    usage := none
    output := none }

/-- A loop head 4 behind 1 and 2, with a back-edge from 3. -/
def earlyHeadWorkflow : WorkflowIR :=
  workflow
    [plainNode 1 .generate, plainNode 2 .generate, plainNode 3 .generate,
      plainNode 4 .loop, plainNode 5 .generate]
    [⟨1, 2, none⟩, ⟨2, 4, none⟩, ⟨3, 4, some "loop"⟩, ⟨4, 5, some "exit"⟩]

def earlyHeadSetup : RunSetup :=
  sampleSetup (compiledGraph sampleOptions earlyHeadWorkflow) succeeding

/-- The back-edge from 3 is counted in place of the edge from 2: the head is
called in the same batch as 2. -/
theorem head_called_before_predecessor :
    ¬ ∀ (options : CompilerOptions) (ir : WorkflowIR) (graph : ExecutionGraph),
      compile options ir = .ok graph → ∀ (setup : RunSetup), setup.graph = graph →
          ∀ (envelope : Option BudgetEnvelope) (state : RunState), Visited setup envelope state →
              DependencyOrder setup.index state.log := by
  intro always
  have ordered := always sampleOptions earlyHeadWorkflow _
    (compile_eq_ok (by decide)) earlyHeadSetup rfl none
  have log : (runInner earlyHeadSetup none 10).map (fun last => last.2.log.map Event.summary) =
        some [(true, 1), (true, 3), (false, 1), (false, 3), (true, 2),
          (true, 4), (false, 2), (false, 4), (true, 5), (false, 5)] := by
    decide
  obtain ⟨⟨result, state⟩, finished, events⟩ := Option.map_eq_some_iff.mp log
  obtain ⟨position, called⟩ := called_of_summary events 5 4 rfl
  have gating : earlyHeadSetup.index.GatingEdge 2 4 :=
    ⟨⟨2, 4, none⟩, by decide, by decide, rfl, rfl⟩
  have early := (ordered state (.ended finished) 5 position 4 called 2 gating).summary
  rw [map_take, events] at early
  revert early
  decide

/-- The body 3 of the loop head 2 completes a back-edge once 1 and 2 are
done. -/
def orderedLoopWorkflow : WorkflowIR :=
  workflow [plainNode 1 .generate, plainNode 2 .loop, plainNode 3 .generate]
    [⟨1, 2, none⟩, ⟨2, 3, none⟩, ⟨3, 2, some "loop"⟩]

/-- The head continues at its first call. -/
def orderedLoopSetup : RunSetup :=
  sampleSetup (compiledGraph sampleOptions orderedLoopWorkflow)
    (fun number _ _ =>
      { state := .succeeded
        usage := none
        output := some (.bool (number = 1)) })

theorem orderedLoop_called_in_order :
    ∃ state, Visited orderedLoopSetup none state ∧ HeadsWait orderedLoopSetup.index state.log ∧
      (false, 3) ∈ state.log.map Event.summary ∧
      DependencyOrder orderedLoopSetup.index state.log := by
  have log : (runInner orderedLoopSetup none 10).map
      (fun last => decide ((false, 3) ∈ last.2.log.map Event.summary)) = some true := by
    decide
  obtain ⟨⟨result, state⟩, finished, body⟩ := Option.map_eq_some_iff.mp log
  have visited : Visited orderedLoopSetup none state := .ended finished
  have waits : HeadsWait orderedLoopSetup.index state.log := by
    obtain ⟨config, reached, same⟩ := visited.reachable
    rw [← same]
    refine reached.headsWait (by simp [orderedLoopSetup, sampleSetup]) ?_
    intro source head back predecessor gating
    have backEdges : orderedLoopSetup.index.backEdges = {(3, 2)} := by
      decide
    have first : orderedLoopSetup.index.GatingEdge 1 2 :=
      ⟨⟨1, 2, none⟩, by decide, by decide, rfl, rfl⟩
    have second : orderedLoopSetup.index.GatingEdge 2 3 :=
      ⟨⟨2, 3, none⟩, by decide, by decide, rfl, rfl⟩
    rw [backEdges, Finset.mem_singleton] at back
    cases back
    obtain ⟨edge, member, gates, rfl, target⟩ := gating
    have only : ∀ other, other ∈ orderedLoopSetup.index.graph.edges →
        orderedLoopSetup.index.gates other = true → other.target = 2 → other.source = 1 := by
      decide
    rw [only edge member gates target]
    exact (TransGen.single first).tail second
  exact ⟨state, visited, waits, of_decide_eq_true body,
    called_after_predecessors orderedLoopSetup none state visited waits⟩

end FusionRouter
