import FusionRouter.Scheduler.Activation
import FusionRouter.Scheduler.LoopBound
import FusionRouter.Scheduler.Sequence

/-!
# Loop exits

The target of an exit edge is called once the head has decided to leave its
loop.  The decision is final when the rest of the loop is asleep by then: a new
iteration re-arms the body together with the head, and a body node that is
still to run takes its back-edge after the head has left.
-/

namespace FusionRouter

open Relation RunState
open List hiding head

/-- The head, or a node on a path from the head back to it. -/
def OnLoop (graph : ExecutionGraph) (head id : Uuid) : Prop :=
  id = head ∨ TransGen graph.Connected head id ∧ TransGen graph.Connected id head

/-- A call of the head returned a value that does not continue the loop. -/
def ExitDecided (log : List Event) (head : Uuid) : Prop :=
  ∃ result, .returned head result ∈ log ∧ result.state = .succeeded ∧
    (stored result).asBool.getD false = false

/-- The target is called only after the head decided to leave, and afterwards
no node of the loop is called. -/
def ExitIsFinal (graph : ExecutionGraph) (head target : Uuid) (log : List Event) : Prop :=
  ∀ moment position, log[moment]? = some (.called position target) →
    ExitDecided (log.take moment) head ∧ ∀ later position' id, moment < later →
        log[later]? = some (.called position' id) → ¬ OnLoop graph head id

/-- Nothing outside the loop starts it again, and its exit edges leave it: it
is not part of a larger loop. -/
structure Detached (graph : ExecutionGraph) (head : Uuid) : Prop where
  exits : ∀ target, target ∈ graph.exitTargets head → ¬ OnLoop graph head target
  backs : ∀ source id, (source, id) ∈ graph.backEdges → OnLoop graph head id →
    OnLoop graph head source
  heads : ∀ other id, other ∈ graph.loopNodeIds → id ∈ graph.bodyIds other →
    OnLoop graph head id → OnLoop graph head other

/-- The edges from outside into the body of the loop are used up. -/
def Fed (graph : ExecutionGraph) (head : Uuid) (queue : WorkQueue) : Prop :=
  ∀ source id, graph.Connected source id → OnLoop graph head id →
    id ≠ head → OnLoop graph head source ∨ (source, id) ∈ queue.activatedEdges

/-- Folding a result of this node starts no node of the loop: the back-edge it
completes is used up, and so are its edges to other nodes of the loop. -/
structure Spent (setup : RunSetup) (head : Uuid) (state : RunState) (id : Uuid) : Prop where
  notConditional : setup.graph.kindAt id ≠ some .conditional
  notLoop : setup.graph.kindAt id ≠ some .loop
  capped : ∀ loopId loopNode, setup.index.loopBackTarget id = some loopId →
    setup.graph.nodeAt loopId = some loopNode → OnLoop setup.graph head loopId →
        loopNode.maxIters ≤ state.loopIterations loopId
  used : ∀ target, setup.graph.Connected id target → OnLoop setup.graph head target →
      target = head ∨ (id, target) ∈ state.queue.activatedEdges

/-- Whenever the head decides to leave, no other node of the loop is ready,
those with a result that is still to be folded are spent, and none waits for a
node outside. -/
def QuietExits (setup : RunSetup) (envelope : Option BudgetEnvelope) (head : Uuid) : Prop :=
  ∀ batchIds result rest state,
    Reachable setup envelope (.folding batchIds ((head, result) :: rest), state) →
      result.state = .succeeded → (stored result).asBool.getD false = false →
        (∀ id, OnLoop setup.graph head id → id ≠ head → id ∉ state.queue.ready) ∧
        (∀ id, OnLoop setup.graph head id → id ∈ rest.map Prod.fst → Spent setup head state id) ∧
        Fed setup.graph head state.queue

theorem Spent.mono {head id : Uuid} (spent : Spent setup head state id)
    (iterations : ∀ loopId, state.loopIterations loopId ≤ following.loopIterations loopId)
    (activated :
      state.queue.activatedEdges ⊆ following.queue.activatedEdges) :
    Spent setup head following id := by
  refine ⟨spent.notConditional, spent.notLoop, ?_, ?_⟩
  · intro loopId loopNode target found onLoop
    exact (spent.capped loopId loopNode target found onLoop).trans (iterations loopId)
  · intro target edge onLoop
    exact (spent.used target edge onLoop).imp_right (fun member => activated member)

/-- No node of the loop can start any more. -/
structure Asleep (graph : ExecutionGraph) (head : Uuid) (queue : WorkQueue) : Prop where
  completed : head ∈ queue.completed
  ready : ∀ id, OnLoop graph head id → id ∉ queue.ready
  fed : Fed graph head queue

namespace Asleep

variable {index : QueueIndex} {queue : WorkQueue} {head id source target : Uuid}

section

variable (asleep : Asleep graph head queue)
include asleep

theorem of_ready_subset (completed : queue.completed ⊆ other.completed)
    (ready : other.ready ⊆ queue.ready) (activated : other.activatedEdges = queue.activatedEdges) :
    Asleep graph head other := by
  refine ⟨completed asleep.completed, ?_, ?_⟩
  · intro id onLoop member
    exact asleep.ready id onLoop (ready member)
  · unfold Fed
    rw [activated]
    exact asleep.fed

theorem insert_ready (outside : ¬ OnLoop graph head id)
    (completed : other.completed = queue.completed) (ready : other.ready ⊆ insert id queue.ready)
    (activated : queue.activatedEdges ⊆ other.activatedEdges) : Asleep graph head other := by
  refine ⟨completed.symm ▸ asleep.completed, ?_, ?_⟩
  · intro inner onLoop member
    rcases Finset.mem_insert.mp (ready member) with rfl | old
    · exact outside onLoop
    · exact asleep.ready inner onLoop old
  · intro source inner edge onLoop different
    exact (asleep.fed source inner edge onLoop different).imp_right (fun member => activated member)

theorem markConditionalCompleted (id : Uuid) :
    Asleep graph head (queue.markConditionalCompleted id) :=
  asleep.of_ready_subset (Finset.subset_insert _ _) (Finset.erase_subset _ _) rfl

theorem markFailed (id : Uuid) : Asleep graph head (queue.markFailed id) :=
  asleep.of_ready_subset (Finset.Subset.refl _) (Finset.erase_subset _ _) rfl

end

section

variable (asleep : Asleep index.graph head queue)
include asleep

/-- An edge into the loop is already used up or ends at the completed head. -/
theorem activateFresh (edge : index.graph.Connected source target)
    (used : OnLoop index.graph head target → OnLoop index.graph head source →
      target = head ∨ (source, target) ∈ queue.activatedEdges) :
    Asleep index.graph head (queue.activateFresh index source target) := by
  unfold WorkQueue.activateFresh
  split
  · exact asleep
  next fresh =>
    by_cases onLoop : OnLoop index.graph head target
    · have same : target = head := by
        by_contra different
        rcases asleep.fed source target edge onLoop different with inner | present
        · exact (used onLoop inner).elim different fresh
        · exact fresh present
      subst same
      refine ⟨asleep.completed, ?_, ?_⟩
      · intro id inner member
        simp only [WorkQueue.countEdge, asleep.completed,
          not_true_eq_false, false_and, and_false, if_false] at member
        exact asleep.ready id inner member
      · intro left right edge inner different
        exact (asleep.fed left right edge inner different).imp_right
          (fun member => Finset.mem_insert_of_mem member)
    · refine asleep.insert_ready onLoop rfl ?_ (Finset.subset_insert _ _)
      simp only [WorkQueue.countEdge]
      split
      · exact Finset.Subset.refl _
      · exact Finset.subset_insert _ _

theorem activateEdge (edge : index.graph.Connected source target)
    (outside : OnLoop index.graph head target → ¬ OnLoop index.graph head source)
    (backs : (source, target) ∈ index.backEdges → ¬ OnLoop index.graph head target) :
    Asleep index.graph head (queue.activateEdge index source target) := by
  unfold WorkQueue.activateEdge
  split
  next back =>
    exact asleep.insert_ready (backs back) rfl (Finset.Subset.refl _) (Finset.Subset.refl _)
  · exact asleep.activateFresh edge (fun onLoop inner => (outside onLoop inner).elim)

theorem activateEdges {targets : List Uuid}
    (edges : ∀ target ∈ targets, index.graph.Connected source target)
    (outside : ∀ target ∈ targets, OnLoop index.graph head target → ¬
      OnLoop index.graph head source)
    (backs : ∀ target ∈ targets, (source, target) ∈ index.backEdges →
      ¬ OnLoop index.graph head target) :
    Asleep index.graph head (targets.foldl
      (fun queue target => queue.activateEdge index source target) queue) :=
  foldlRecOn _ _ asleep (fun _ sleeping target member =>
    sleeping.activateEdge (edges target member) (outside target member) (backs target member))

theorem markCompleted
    (used : OnLoop index.graph head source → ∀ target, index.graph.Connected
      source target → OnLoop index.graph head target → target = head ∨ (source,
      target) ∈ queue.activatedEdges) :
    Asleep index.graph head (queue.markCompleted index source) := by
  unfold WorkQueue.markCompleted WorkQueue.tryActivateDownstream
  split
  · exact asleep.markConditionalCompleted source
  · refine (foldlRecOn (motive := fun other => Asleep index.graph head other ∧
        queue.activatedEdges ⊆ other.activatedEdges) _ _
      ⟨asleep.markConditionalCompleted source, Finset.Subset.refl _⟩ ?_).1
    rintro other ⟨sleeping, grown⟩ target member
    have edge := ExecutionGraph.mem_outgoing.mp member
    refine ⟨sleeping.activateFresh edge ?_, ?_⟩
    · intro onLoop inner
      exact (used inner target edge onLoop).imp_right (fun present => grown present)
    · rw [WorkQueue.activateFresh_activated]
      exact grown.trans (Finset.subset_insert _ _)

theorem resetLoopBody (outside : ∀ id ∈ bodyIds, ¬ OnLoop index.graph head id) :
    Asleep index.graph head (queue.resetLoopBody index bodyIds) := by
  refine foldlRecOn _ _ asleep ?_
  intro other sleeping id member
  have away := outside id member
  refine ⟨Finset.mem_erase.mpr ⟨?_, sleeping.completed⟩, ?_, sleeping.fed⟩
  · rintro rfl
    exact away (Or.inl rfl)
  · intro inner onLoop ready
    simp only [WorkQueue.resetBodyNode] at ready
    have kept : inner ∈ insert id (other.ready.erase id) := by
      split at ready
      · exact ready
      · exact Finset.mem_insert_of_mem ready
    rcases Finset.mem_insert.mp kept with rfl | old
    · exact away onLoop
    · exact sleeping.ready inner onLoop (Finset.mem_of_mem_erase old)

theorem resetReady (outside : ¬ OnLoop index.graph head id) :
    Asleep index.graph head (queue.resetReady id) := by
  refine ⟨Finset.mem_erase.mpr ⟨?_, asleep.completed⟩, ?_, asleep.fed⟩
  · rintro rfl
    exact outside (Or.inl rfl)
  · intro inner onLoop ready
    rcases Finset.mem_insert.mp ready with rfl | old
    · exact outside onLoop
    · exact asleep.ready inner onLoop old

end

/-- A result of a node outside the loop, or of a spent one, does not wake it. -/
theorem settles (detached : Detached setup.graph head)
    (asleep : Asleep setup.graph head state.queue)
    (idle : OnLoop setup.graph head id → Spent setup head state id)
    (settles : Settles setup state id result (.next following)) :
    Asleep setup.graph head following.queue := by
  have sleeping : Asleep setup.index.graph head state.queue := asleep
  have completed := sleeping.markCompleted (fun onLoop => (idle onLoop).used)
  have backs : ¬ OnLoop setup.graph head id → ∀ target,
      (id, target) ∈ setup.index.backEdges → ¬ OnLoop setup.graph head target :=
    fun outside target back onLoop =>
      outside (detached.backs id target back onLoop)
  cases settles with
  | conditional _ kind =>
    have outside := fun onLoop => (idle onLoop).notConditional kind
    exact (asleep.markConditionalCompleted id).activateEdges
      (fun _ member => connected_of_selected member)
      (fun _ _ _ => outside) (fun target _ => backs outside target)
  | continues _ _ kind =>
    have outside := fun onLoop => (idle onLoop).notLoop kind
    have away : ∀ body ∈ setup.graph.bodyIds id, ¬ OnLoop setup.graph head body :=
      fun body member onLoop => outside (detached.heads id body
        (mem_loopNodeIds_of_kindAt kind) member onLoop)
    exact (completed.resetLoopBody away).activateEdges
      (fun _ member => connected_of_selected member)
      (fun _ _ _ => outside) (fun target _ => backs outside target)
  | exits _ kind =>
    have outside := fun onLoop => (idle onLoop).notLoop kind
    exact completed.activateEdges (fun _ member => connected_of_selected member)
      (fun _ _ _ => outside) (fun target _ => backs outside target)
  | plain | capped | other => exact completed
  | iterates loopId loopNode _ _ _ target found below =>
    have back := QueueIndex.loopBackTarget_eq_some target
    -- a spent node of the loop has no iteration left to start
    have away : ¬ OnLoop setup.graph head loopId := by
      intro onLoop
      have spent := idle (detached.backs id loopId back onLoop)
      have reached := spent.capped loopId loopNode target found onLoop
      omega
    have bodies : ∀ body ∈ setup.graph.bodyIds loopId, ¬ OnLoop setup.graph head body :=
      fun body member onLoop => away (detached.heads loopId body
        (ExecutionGraph.mem_backEdges_iff.mp back).1 member onLoop)
    have edge : setup.graph.Connected id loopId :=
      ExecutionGraph.mem_outgoing.mp (mem_of_find?_eq_some target)
    exact ((completed.resetLoopBody bodies).resetReady away).activateEdge
      edge (fun onLoop => (away onLoop).elim) (fun _ => away)
  | failed message =>
    exact cascade_induction (motive := fun acc => Asleep setup.graph head acc.1)
      (asleep.markFailed id) (fun _ _ downstream sleeping _ => sleeping.markFailed downstream) _ _ _

end Asleep

/-- A loop head, one of its exit targets that it has no other edge to, and what
keeps the target in order. -/
structure ExitOf (setup : RunSetup) (envelope : Option BudgetEnvelope)
    (head target : Uuid) : Prop where
  kind : setup.graph.kindAt head = some .loop
  member : target ∈ setup.graph.exitTargets head
  only : target ∉ setup.graph.bodyIds head
  late : BacksComeLate setup envelope head target

section

variable {envelope : Option BudgetEnvelope}

theorem ExitOf.decision (exit : ExitOf setup envelope head target)
    (selects : Selects setup head result target) :
    result.state = .succeeded ∧ (stored result).asBool.getD false = false := by
  cases selects with
  | all blanket =>
    exact (blanket (mem_selectiveSources_of_kindAt (Or.inl exit.kind))).elim
  | matched _ kind => simp [exit.kind] at kind
  | body _ _ _ member => exact (exit.only member).elim
  | exit success _ decision => exact ⟨success, decision⟩

/-- When the head leaves a loop that is otherwise quiet, the loop falls
asleep. -/
theorem asleep_of_exit {state following : RunState} (kind : setup.graph.kindAt head = some .loop)
    (detached : Detached setup.graph head) (success : result.state = .succeeded)
    (decision : (stored result).asBool.getD false = false)
    (quiet : ∀ id, OnLoop setup.graph head id → id ≠ head → id ∉
      state.queue.ready) (fed : Fed setup.graph head state.queue)
    (settles : Settles setup state head result (.next following)) :
    Asleep setup.graph head following.queue := by
  have selective := mem_selectiveSources_of_kindAt (Or.inl kind)
  cases settles with
  | exits =>
    have completed : Asleep setup.index.graph head
        (state.queue.markCompleted setup.index head) := by
      unfold WorkQueue.markCompleted
      rw [WorkQueue.tryActivateDownstream_selective selective]
      refine ⟨Finset.mem_insert_self _ _, ?_, fed⟩
      intro id onLoop ready
      obtain ⟨different, old⟩ := Finset.mem_erase.mp ready
      exact quiet id onLoop different old
    have edges : ∀ target ∈ setup.graph.exitTargets head, setup.index.graph.Connected head target :=
      fun _ member => connected_of_selected member
    exact completed.activateEdges edges
      (fun target member onLoop => (detached.exits target member onLoop).elim)
      (fun target member _ => detached.exits target member)
  | conditional _ conditional => simp [kind] at conditional
  | continues _ _ _ continues => simp [decision] at continues
  | plain _ _ notLoop | iterates _ _ _ _ notLoop | capped _ _ _ _ notLoop =>
    exact (notLoop kind).elim
  | failed message failure => simp [success] at failure
  | other notSuccess => exact (notSuccess success).elim

/-- An exit stays final when the log grows: the new events call the target only
after a decision to leave, and once it has been called, no node of the loop. -/
theorem ExitIsFinal.append {log new : List Event} (final : ExitIsFinal graph head target log)
    (decided : (∃ position, .called position target ∈ new) → ExitDecided log head)
    (away : ∀ position, .called position target ∈ log ++ new →
      ∀ position' id, .called position' id ∈ new → ¬ OnLoop graph head id) :
    ExitIsFinal graph head target (log ++ new) := by
  intro moment position found
  have called := mem_of_getElem? found
  rcases take_append_cases found with ⟨old, past⟩ | ⟨fresh, past⟩
  · obtain ⟨before, after⟩ := final moment position old
    refine ⟨past ▸ before, ?_⟩
    intro later position' id behind event
    rcases take_append_cases event with ⟨early, -⟩ | ⟨late, -⟩
    · exact after later position' id behind early
    · exact away position called position' id late
  · obtain ⟨result, returned, facts⟩ := decided ⟨position, fresh⟩
    refine ⟨⟨result, past returned, facts⟩, ?_⟩
    intro later position' id behind event
    rcases take_append_cases event with ⟨early, -⟩ | ⟨late, -⟩
    · -- an old event behind the call would make the call itself an old one
      have short := (List.getElem?_eq_some_iff.mp early).1
      rw [getElem?_append_left (by omega)] at found
      exact (final moment position found).2 later position' id behind early
    · exact away position called position' id late

variable (exit : ExitOf setup envelope head target)
  (detached : Detached setup.graph head)
include exit detached

theorem ExitOf.gating : setup.index.GatingEdge head target := by
  refine QueueIndex.gatingEdge_iff.mpr ⟨connected_of_selected exit.member, ?_⟩
  intro back
  obtain ⟨-, edge, member, source, arrives, reason⟩ := ExecutionGraph.mem_backEdges_iff.mp back
  have away := detached.exits target exit.member
  rcases reason with same | walk | marked
  · exact away (Or.inl same.symm)
  · exact away (Or.inr ⟨.single (connected_of_selected exit.member), walk⟩)
  · refine exit.only (mem_map.mpr ⟨edge, ?_, arrives⟩)
    simp [ExecutionGraph.outgoingEdges, member, source, marked]

theorem ExitOf.activated {calls : List Call} (reached : Reachable setup envelope (.idle, state))
    (proceeds : Proceeds setup state)
    (started : dispatch setup (state.batch setup) state.entered =
      .ok (calls, dispatched)) (member : target ∈ state.batch setup) :
    (head, target) ∈ state.queue.activatedEdges := by
  rw [← (dispatch_ok started).1] at member
  obtain ⟨call, inside, rfl⟩ := mem_map.mp member
  have dispatches : DispatchesFrom setup envelope state call :=
    ⟨calls, dispatched, reached, proceeds, started, inside⟩
  exact dispatches.activated exit.late (exit.gating detached)

variable (quiet : QuietExits setup envelope head)
include quiet

/-- Once the exit edge is activated the loop is asleep, and what is still to be
folded of it is spent. -/
theorem Reachable.asleep (reached : Reachable setup envelope config)
    (activated : (head, target) ∈ config.2.queue.activatedEdges) :
    Asleep setup.graph head config.2.queue ∧
      ∀ id, OnLoop setup.graph head id → id ∈ config.1.pending → Spent setup head config.2 id := by
  have gating := (QueueIndex.gatingEdge_iff.mp (exit.gating detached)).2
  induction reached with
  | refl => simp [RunSetup.initial, WorkQueue.new] at activated
  | tail before step holds =>
    cases step with
    | spin | done => exact ⟨(holds activated).1, by simp [Phase.pending]⟩
    | @batch state dispatched calls _ _ started =>
      obtain ⟨ids, -, rfl⟩ := dispatch_ok started
      have asleep := (holds activated).1
      refine ⟨asleep.of_ready_subset (Finset.Subset.refl _) Finset.sdiff_subset rfl, ?_⟩
      intro id onLoop pending
      simp only [Phase.pending, results_ids, ids] at pending
      exact (asleep.ready id onLoop (queued_of_mem_batch pending)).elim
    | @fold batchIds id result rest state following processed =>
      have charged := charged_same setup state id result
      have settles := processResult_next processed
      have later : ∀ other, Spent setup head state other →
          Spent setup head following other := fun other spent => spent.mono
          (fun loopId => charged.loopIterations ▸ settles.loopIterations_le loopId)
          (charged.queue ▸ settles.activated_subset)
      rw [settles.mem_activated gating, charged.queue] at activated
      rcases activated with old | ⟨rfl, -, selects⟩
      · obtain ⟨asleep, waiting⟩ := holds old
        refine ⟨Asleep.settles detached (charged.queue ▸ asleep) ?_ settles, ?_⟩
        · intro onLoop
          exact (waiting id onLoop mem_cons_self).mono (fun _ => charged.loopIterations ▸ le_rfl)
            (charged.queue ▸ Finset.Subset.refl _)
        · intro other onLoop pending
          exact later other (waiting other onLoop (mem_cons_of_mem _ pending))
      · -- the head has just decided to leave
        obtain ⟨success, decision⟩ := exit.decision selects
        obtain ⟨ready, waiting, fed⟩ := quiet _ _ _ _ before success decision
        refine ⟨asleep_of_exit exit.kind detached success decision
          (charged.queue ▸ ready) (charged.queue ▸ fed) settles, ?_⟩
        intro other onLoop pending
        exact later other (waiting other onLoop pending)

/-- In every run, the exit target is called only after the head decided to
leave, and no node of the loop is called after it. -/
theorem Reachable.exitIsFinal (reached : Reachable setup envelope config) :
    ExitIsFinal setup.graph head target config.2.log ∧
      ((∃ position, .called position target ∈ config.2.log) →
        (head, target) ∈ config.2.queue.activatedEdges) := by
  have gating := (QueueIndex.gatingEdge_iff.mp (exit.gating detached)).2
  induction reached with
  | refl =>
    exact ⟨by simp [ExitIsFinal, RunSetup.initial], by simp [RunSetup.initial]⟩
  | tail before step holds =>
    cases step with
    | spin | done => exact holds
    | @batch state dispatched calls proceeds _ started =>
      obtain ⟨final, opened⟩ := holds
      have member := mem_batch_of_called started
      have arrives := exit.activated detached before proceeds started
      obtain ⟨-, -, rfl⟩ := dispatch_ok started
      simp only [runCalls, markBatch, entered, append_assoc]
      -- once the edge is activated, the loop is not in the batch
      have away : (head, target) ∈ state.queue.activatedEdges → ∀ id,
          id ∈ state.batch setup → ¬ OnLoop setup.graph head id := by
        intro activated id inside onLoop
        exact (Reachable.asleep exit detached quiet before activated).1.ready
          id onLoop (queued_of_mem_batch inside)
      refine ⟨final.append ?_ ?_, ?_⟩
      · rintro ⟨position, called⟩
        obtain ⟨result, returned, -, selects⟩ :=
          Reachable.selected before gating (arrives (member _ _ called))
        exact ⟨result, returned, exit.decision selects⟩
      · intro position called position' id fresh
        refine away ?_ id (member _ _ fresh)
        rcases mem_append.mp called with old | new
        · exact opened ⟨position, old⟩
        · exact arrives (member _ _ new)
      · rintro ⟨position, called⟩
        rcases mem_append.mp called with old | new
        · exact opened ⟨position, old⟩
        · exact arrives (member _ _ new)
    | @fold batchIds id result rest state following processed =>
      obtain ⟨final, opened⟩ := holds
      rw [processResult_next_log processed]
      refine ⟨final, fun called => ?_⟩
      rw [(processResult_next processed).mem_activated gating,
        (charged_same setup state id result).queue]
      exact Or.inl (opened called)

end

/-- In every run whose loop is detached and quiet at each exit, an exit is
final. -/
theorem exit_is_final (setup : RunSetup) (envelope : Option BudgetEnvelope)
    (head target : Uuid) (exit : ExitOf setup envelope head target)
    (detached : Detached setup.graph head)
    (quiet : QuietExits setup envelope head) (state : RunState)
    (visited : Visited setup envelope state) : ExitIsFinal setup.graph head target state.log := by
  obtain ⟨config, reached, same⟩ := visited.reachable
  rw [← same]
  exact (reached.exitIsFinal exit detached quiet).1

/-- A loop head 1 with the body 2 and the exit target 3. -/
def exitLoopWorkflow : WorkflowIR :=
  workflow [plainNode 1 .loop, plainNode 2 .generate, plainNode 3 .generate]
    [⟨1, 2, none⟩, ⟨1, 3, some "exit"⟩, ⟨2, 1, some "loop"⟩]

def exitLoopGraph : ExecutionGraph :=
  compiledGraph sampleOptions exitLoopWorkflow

/-- The head decides to continue in the first `decisions` calls of the run. -/
def exitLoopSetup (decisions : Nat) : RunSetup :=
  sampleSetup exitLoopGraph (fun number _ _ =>
    { state := .succeeded
      usage := none
      output := some (.bool (number < decisions)) })

theorem exitLoop_connected {source target : Uuid} (edge : exitLoopGraph.Connected source target) :
    source = 1 ∧ target = 2 ∨ source = 1 ∧ target = 3 ∨ source = 2 ∧ target = 1 := by
  obtain ⟨arrow, member, rfl, rfl⟩ := edge
  revert arrow
  decide

theorem exitLoop_onLoop {id : Uuid} : OnLoop exitLoopGraph 1 id ↔ id = 1 ∨ id = 2 := by
  constructor
  · rintro (rfl | ⟨-, back⟩)
    · exact Or.inl rfl
    · obtain ⟨next, edge, -⟩ := TransGen.head'_iff.mp back
      rcases exitLoop_connected edge with ⟨rfl, -⟩ | ⟨rfl, -⟩ | ⟨rfl, -⟩
      · exact Or.inl rfl
      · exact Or.inl rfl
      · exact Or.inr rfl
  · rintro (rfl | rfl)
    · exact Or.inl rfl
    · have forward : exitLoopGraph.Connected 1 2 := ⟨⟨1, 2, none⟩, by decide, rfl, rfl⟩
      have backward : exitLoopGraph.Connected 2 1 :=
        ⟨⟨2, 1, some "loop"⟩, by decide, rfl, rfl⟩
      exact Or.inr ⟨.single forward, .single backward⟩

theorem exitLoop_detached : Detached exitLoopGraph 1 := by
  have head : OnLoop exitLoopGraph 1 1 := Or.inl rfl
  have exits : exitLoopGraph.exitTargets 1 = [3] := by decide
  have backs : exitLoopGraph.backEdges = {(2, 1)} := by decide
  have heads : exitLoopGraph.loopNodeIds = {1} := by decide
  refine ⟨?_, ?_, ?_⟩
  · intro target member onLoop
    rw [exits, mem_singleton] at member
    subst member
    exact absurd (exitLoop_onLoop.mp onLoop) (by decide)
  · intro source id back _
    rw [backs, Finset.mem_singleton] at back
    cases back
    exact exitLoop_onLoop.mpr (Or.inr rfl)
  · intro other id isHead _ _
    rw [heads, Finset.mem_singleton] at isHead
    exact isHead ▸ head

/-- When the head leaves, the body is called in the same batch and the three
iterations of the loop are used up. -/
def exitLoopQuiet : Phase × RunState → Bool
  | (.folding _ ((1, result) :: rest), state) =>
    (stored result).asBool.getD false ||
      decide (2 ∉ state.queue.ready) && decide (1 ∉ rest.map Prod.fst) &&
        decide (3 ≤ state.loopIterations 1)
  | _ => true

theorem exitLoop_quiet : QuietExits (exitLoopSetup 6) none 1 := by
  intro batchIds result rest state reached _ decision
  have checked := reached.checked exitLoopQuiet 30 (by decide)
  simp only [exitLoopQuiet, decision, Bool.false_or, Bool.and_eq_true, decide_eq_true_eq] at checked
  obtain ⟨⟨ready, alone⟩, used⟩ := checked
  refine ⟨?_, ?_, ?_⟩
  · intro id onLoop different
    rcases exitLoop_onLoop.mp onLoop with rfl | rfl
    · exact (different rfl).elim
    · exact ready
  · intro id onLoop member
    rcases exitLoop_onLoop.mp onLoop with rfl | rfl
    · exact (alone member).elim
    · refine ⟨by decide, by decide, ?_, ?_⟩
      · intro loopId loopNode target found _
        have back : (exitLoopSetup 6).index.loopBackTarget 2 = some 1 := by
          decide
        have bound : ((exitLoopSetup 6).graph.nodeAt 1).map ExecutionNode.maxIters = some 3 := by
          decide
        cases back.symm.trans target
        rw [found] at bound
        exact Option.some.inj bound ▸ used
      · intro target edge _
        rcases exitLoop_connected edge with ⟨one, -⟩ | ⟨one, -⟩ | ⟨-, rfl⟩
        · exact absurd one (by decide)
        · exact absurd one (by decide)
        · exact Or.inl rfl
  · intro source id edge onLoop different
    rcases exitLoop_connected edge with ⟨rfl, -⟩ | ⟨rfl, -⟩ | ⟨-, rfl⟩
    · exact Or.inl (Or.inl rfl)
    · exact Or.inl (Or.inl rfl)
    · exact (different rfl).elim

/-- The head continues three times and leaves; the body has used up the three
iterations by then. -/
theorem capped_loop_exits :
    ∃ state, Visited (exitLoopSetup 6) none state ∧
      state.log.map Event.summary = [(true, 1), (false, 1), (true, 2),
        (false, 2), (true, 1), (true, 2), (false, 1), (false, 2), (true, 1),
        (true, 2), (false, 1), (false, 2), (true, 1), (true, 2), (false, 1),
        (false, 2), (true, 3), (false, 3)] ∧ ExitIsFinal exitLoopGraph 1 3 state.log := by
  have log : (runInner (exitLoopSetup 6) none 20).map
      (fun last => last.2.log.map Event.summary) = some [(true, 1), (false, 1),
        (true, 2), (false, 2), (true, 1), (true, 2), (false, 1), (false, 2),
        (true, 1), (true, 2), (false, 1), (false, 2), (true, 1), (true, 2),
        (false, 1), (false, 2), (true, 3), (false, 3)] := by
    decide
  obtain ⟨⟨result, state⟩, finished, events⟩ := Option.map_eq_some_iff.mp log
  have visited : Visited (exitLoopSetup 6) none state := .ended finished
  have backs : (exitLoopSetup 6).index.backEdges = {(2, 1)} := by
    decide
  have exit : ExitOf (exitLoopSetup 6) none 1 3 := by
    refine ⟨by decide, by decide, by decide, backsComeLate_of_none ?_⟩
    intro source back
    rw [backs, Finset.mem_singleton] at back
    cases back
  exact ⟨state, visited, events, exit_is_final (exitLoopSetup 6) none 1 3 exit
    exitLoop_detached exitLoop_quiet state visited⟩

/-- The head continues once and then leaves, but the body that was called next
to it completes its back-edge: the loop goes on after the exit target. -/
theorem exited_loop_goes_on :
    ¬ ∀ (options : CompilerOptions) (ir : WorkflowIR) (graph : ExecutionGraph),
      compile options ir = .ok graph → ∀ (setup : RunSetup), setup.graph = graph →
          ∀ (envelope : Option BudgetEnvelope) (state : RunState), Visited setup envelope state →
              ∀ (head target : Uuid), setup.graph.kindAt head = some .loop →
                target ∈ setup.graph.exitTargets head → target ∉ setup.graph.bodyIds head →
                  ExitIsFinal setup.graph head target state.log := by
  intro always
  have final := always sampleOptions exitLoopWorkflow _
    (compile_eq_ok (by decide)) (exitLoopSetup 1) rfl none
  have log : (runInner (exitLoopSetup 1) none 20).map
      (fun last => last.2.log.map Event.summary) = some [(true, 1), (false, 1),
        (true, 2), (false, 2), (true, 1), (true, 2), (false, 1), (false, 2),
        (true, 1), (true, 2), (true, 3), (false, 1), (false, 2), (false, 3),
        (true, 1), (true, 2), (false, 1), (false, 2)] := by
    decide
  obtain ⟨⟨result, state⟩, finished, events⟩ := Option.map_eq_some_iff.mp log
  obtain ⟨position, target⟩ := called_of_summary events 10 3 rfl
  obtain ⟨later, head⟩ := called_of_summary events 14 1 rfl
  exact (final state (.ended finished) 1 3 (by decide)
    (by decide) (by decide) 10 position target).2 14 later 1
    (by decide) head (Or.inl rfl)

end FusionRouter
