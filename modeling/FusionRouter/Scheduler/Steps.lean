import FusionRouter.Scheduler.Run

/-!
# Steps of a run

A run as a transition system.  Between passes it is idle; within a pass it
folds the results of a batch.  `Settles` lists what the scheduler can do with
one result, `Step` and `Ends` list what a pass is made of, and every run of
the scheduling loop is a sequence of these steps.
-/

namespace FusionRouter

open Relation List WorkQueue

/-- The state at the end of a part of the loop body. -/
def Flow.state : Flow → RunState
  | .next state => state
  | .leave state => state
  | .finish _ state => state
  | .abort _ state => state

namespace ExecutionGraph

def kindAt (graph : ExecutionGraph) (id : Uuid) : Option ExecutionNodeKind :=
  (graph.nodeAt id).map ExecutionNode.kind

end ExecutionGraph

namespace QueueIndex

theorem loopBackTarget_eq_some {index : QueueIndex} {id loopId : Uuid}
    (target : index.loopBackTarget id = some loopId) : (id, loopId) ∈ index.backEdges := by
  simpa using find?_some target

end QueueIndex

namespace RunState

/-- The envelope after a loop head counted an iteration, if there is one. -/
def CountsIteration (before after : Option BudgetEnvelope) : Prop :=
  (before = none ∧ after = none) ∨ ∃ envelope counted, before = some envelope ∧
      envelope.incrementIteration = .ok counted ∧ after = some counted

def stored (result : NodeExecutionResult) : Json :=
  result.output.getD .null

/-- Everything the scheduler can do with one result. -/
inductive Settles (setup : RunSetup) (state : RunState) (id : Uuid)
    (result : NodeExecutionResult) : Flow → Prop where
  | unknown (success : result.state = .succeeded) (missing : setup.graph.nodeIndex id = none) :
      Settles setup state id result
        (.abort (setup.desyncError "node" id) (state.recordSuccess id (stored result)))
  | conditional (success : result.state = .succeeded)
      (kind : setup.graph.kindAt id = some .conditional) :
      Settles setup state id result
        (.next (conditionalSucceeded setup
          (state.recordSuccess id (stored result)) id (stored result)))
  | continues (envelope : Option BudgetEnvelope) (success : result.state = .succeeded)
      (kind : setup.graph.kindAt id = some .loop)
      (decision : (stored result).asBool.getD false = true)
      (counted : CountsIteration state.envelope envelope) :
      Settles setup state id result
        (.next (continueLoop setup
          { (state.recordSuccess id (stored result)).complete setup id with
            envelope := envelope } id))
  | exhausted (envelope : BudgetEnvelope) (error : BudgetExceededError)
      (success : result.state = .succeeded) (kind : setup.graph.kindAt id = some .loop)
      (decision : (stored result).asBool.getD false = true)
      (present : state.envelope = some envelope)
      (limit : envelope.incrementIteration = .error error) :
      Settles setup state id result
        (.leave ((state.recordSuccess id (stored result)).complete setup id))
  | exits (success : result.state = .succeeded) (kind : setup.graph.kindAt id = some .loop)
      (decision : (stored result).asBool.getD false = false) :
      Settles setup state id result
        (.next (activateAll setup ((state.recordSuccess id (stored result)).complete setup id) id
          (setup.graph.exitTargets id)))
  | plain (success : result.state = .succeeded)
      (notConditional : setup.graph.kindAt id ≠ some .conditional)
      (notLoop : setup.graph.kindAt id ≠ some .loop)
      (forward : setup.index.loopBackTarget id = none) :
      Settles setup state id result
        (.next ((state.recordSuccess id (stored result)).complete setup id))
  | lost (loopId : Uuid) (success : result.state = .succeeded)
      (target : setup.index.loopBackTarget id = some loopId)
      (missing : setup.graph.nodeAt loopId = none) :
      Settles setup state id result
        (.abort (setup.desyncError "loop node" loopId)
          ((state.recordSuccess id (stored result)).complete setup id))
  | iterates (loopId : Uuid) (loopNode : ExecutionNode) (success : result.state = .succeeded)
      (notConditional : setup.graph.kindAt id ≠ some .conditional)
      (notLoop : setup.graph.kindAt id ≠ some .loop)
      (target : setup.index.loopBackTarget id = some loopId)
      (found : setup.graph.nodeAt loopId = some loopNode)
      (below : state.loopIterations loopId < loopNode.maxIters) :
      Settles setup state id result
        (.next (nextIteration setup ((state.recordSuccess id (stored result)).complete setup id)
          id loopId))
  | capped (loopId : Uuid) (loopNode : ExecutionNode) (success : result.state = .succeeded)
      (notConditional : setup.graph.kindAt id ≠ some .conditional)
      (notLoop : setup.graph.kindAt id ≠ some .loop)
      (target : setup.index.loopBackTarget id = some loopId)
      (found : setup.graph.nodeAt loopId = some loopNode)
      (reached : loopNode.maxIters ≤ state.loopIterations loopId) :
      Settles setup state id result
        (.next ((state.recordSuccess id (stored result)).complete setup id))
  | failed (message : String) (failure : result.state = .failed message) :
      Settles setup state id result (.next (failed setup state id message))
  | other (notSuccess : result.state ≠ .succeeded)
      (notFailed : ∀ message, result.state ≠ .failed message) :
      Settles setup state id result (.next (otherState setup state id result.state))

variable {state following last : RunState} {id : Uuid}
  {motive : WorkQueue × Table Uuid NodeState → Prop} {calls : List Call}

theorem loopSucceeded_settles (success : result.state = .succeeded)
    (kind : setup.graph.kindAt id = some .loop) :
    Settles setup state id result
      (loopSucceeded setup (state.recordSuccess id (stored result)) id (stored result)) := by
  unfold loopSucceeded
  dsimp only
  split
  next decision =>
    split
    next none =>
      have same : state.envelope = Option.none := none
      have flow := @Settles.continues setup state id result Option.none
        success kind decision (Or.inl ⟨same, rfl⟩)
      rw [← none] at flow
      exact flow
    next envelope some =>
      split
      next error limit =>
        exact .exhausted envelope error success kind decision some limit
      next counted incremented =>
        exact .continues (Option.some counted) success kind decision
          (Or.inr ⟨envelope, counted, some, incremented, rfl⟩)
  next decision =>
    exact .exits success kind (by simpa using decision)

theorem plainSucceeded_settles (success : result.state = .succeeded)
    (notConditional : setup.graph.kindAt id ≠ some .conditional)
    (notLoop : setup.graph.kindAt id ≠ some .loop) :
    Settles setup state id result
      (plainSucceeded setup (state.recordSuccess id (stored result)) id) := by
  unfold plainSucceeded
  dsimp only
  split
  · split
    next forward => exact .plain success notConditional notLoop forward
    next loopId target =>
      unfold loopBack
      split
      next missing => exact .lost loopId success target missing
      next loopNode found =>
        split
        next below =>
          exact .iterates loopId loopNode success notConditional notLoop target found below
        next reached =>
          exact .capped loopId loopNode success notConditional notLoop
            target found (Nat.le_of_not_lt reached)
  next without =>
    refine .plain success notConditional notLoop (find?_eq_none.mpr ?_)
    simpa [QueueIndex.hasLoopBackEdge] using without

section

variable (setup : RunSetup)

theorem settle_settles (state : RunState) (id : Uuid) (result : NodeExecutionResult)
    :
    Settles setup state id result (settle setup state id result) := by
  unfold settle
  split
  next success =>
    unfold succeeded
    dsimp only
    split
    next missing => exact .unknown success missing
    next index found =>
      have kindAt : setup.graph.kindAt id = (setup.graph.nodes[index]?).map ExecutionNode.kind := by
        simp [ExecutionGraph.kindAt, ExecutionGraph.nodeAt, found]
      split
      next kind => exact .conditional success (kindAt.trans kind)
      next kind => exact loopSucceeded_settles success (kindAt.trans kind)
      next notConditional notLoop =>
        exact plainSucceeded_settles success (fun kind => notConditional (kindAt.symm.trans kind))
          (fun kind => notLoop (kindAt.symm.trans kind))
  next message failure => exact .failed message failure
  next notSuccess notFailed => exact .other notSuccess notFailed

/-- The state once the usage of a result is added to the totals. -/
def charged (state : RunState) (id : Uuid) (result : NodeExecutionResult) : RunState :=
  match result.usage with
  | none => state
  | some usage => (charge setup state id usage).1

/-- The breach that adding the usage of a result causes. -/
def violation (state : RunState) (id : Uuid) (result : NodeExecutionResult) :
    Option BudgetExceededError :=
  match result.usage with
  | none => none
  | some usage => (charge setup state id usage).2

theorem processResult_eq (batchIds : List Uuid) (state : RunState) (id : Uuid)
    (result : NodeExecutionResult) :
    processResult setup batchIds state id result = match state.violation setup id result with
      | some error =>
        breach setup (state.charged setup id result) batchIds id result error
      | none => settle setup (state.charged setup id result) id result := by
  unfold processResult violation charged
  cases result.usage with
  | none => rfl
  | some usage =>
    dsimp only
    split <;> simp_all

/-- Charging touches only the totals and the envelope. -/
structure SameRun (left right : RunState) : Prop where
  queue : left.queue = right.queue
  nodeStates : left.nodeStates = right.nodeStates
  outputs : left.outputs = right.outputs
  loopIterations : left.loopIterations = right.loopIterations
  log : left.log = right.log

theorem charged_same (state : RunState) (id : Uuid) (result : NodeExecutionResult) :
    SameRun (state.charged setup id result) state := by
  unfold charged
  split
  · exact ⟨rfl, rfl, rfl, rfl, rfl⟩
  · unfold charge
    dsimp only
    split <;> exact ⟨rfl, rfl, rfl, rfl, rfl⟩

end

/-- A result that does not end the run was charged and settled. -/
theorem processResult_next (step : processResult setup batchIds state id result = .next following) :
    Settles setup (state.charged setup id result) id result (.next following) := by
  rw [processResult_eq] at step
  split at step
  · cases step
  · rw [← step]
    exact settle_settles setup _ id result

theorem processResult_leave (step : processResult setup batchIds state id result = .leave last) :
    Settles setup (state.charged setup id result) id result (.leave last) := by
  rw [processResult_eq] at step
  split at step
  · cases step
  · rw [← step]
    exact settle_settles setup _ id result

/-- A result that returns an outcome breached the envelope. -/
theorem processResult_finish {outcome : ExecutionOutcome}
    (step : processResult setup batchIds state id result = .finish outcome last) :
    ∃ error, state.violation setup id result = some error ∧
      breach setup (state.charged setup id result) batchIds id result error =
        .finish outcome last := by
  rw [processResult_eq] at step
  split at step
  next error found => exact ⟨error, found, step⟩
  · have settles := settle_settles setup (state.charged setup id result) id result
    rw [step] at settles
    cases settles

theorem Settles.frame (settles : Settles setup state id result flow) :
    flow.state.log = state.log ∧ flow.state.totalTokens = state.totalTokens := by
  cases settles <;> exact ⟨rfl, rfl⟩

theorem processResult_log (setup : RunSetup) (batchIds : List Uuid)
    (state : RunState) (id : Uuid) (result : NodeExecutionResult) :
    (processResult setup batchIds state id result).state.log = state.log := by
  rw [processResult_eq]
  have charged := (charged_same setup state id result).log
  split
  · exact charged
  · exact (settle_settles setup _ id result).frame.1.trans charged

theorem processResult_next_log
    (step : processResult setup batchIds state id result = .next following) :
    following.log = state.log := by
  have log := processResult_log setup batchIds state id result
  rwa [step] at log

/-- The cascade changes the run only by failing nodes that have not started and
that lie behind its stack. -/
theorem cascade_within (inside : Uuid → Prop) (initially : motive acc)
    (closed : ∀ source target, inside source → target ∈ graph.outgoing source → inside target)
    (marked : ∀ queue nodeStates downstream, motive (queue, nodeStates) →
      inside downstream → nodeStates downstream = none ∨ nodeStates downstream
      = some .pending → motive (queue.markFailed downstream, nodeStates.insert
      downstream (.failed "dependency failed"))) (fuel : Nat)
    (visited : Finset Uuid) (behind : ∀ id ∈ stack, inside id) :
    motive (cascade graph fuel stack visited acc) := by
  induction fuel generalizing stack visited acc with
  | zero => exact initially
  | succ fuel ih =>
    cases stack with
    | nil => exact initially
    | cons downstream stack =>
      obtain ⟨queue, nodeStates⟩ := acc
      have here := behind downstream mem_cons_self
      have rest : ∀ id ∈ stack, inside id := fun id member => behind id (mem_cons_of_mem _ member)
      have pushed : ∀ id ∈ (graph.outgoing downstream).reverse ++ stack, inside id := by
        intro id member
        rcases mem_append.mp member with new | old
        · exact closed downstream id here (mem_reverse.mp new)
        · exact rest id old
      unfold cascade
      split
      · exact ih initially visited rest
      · split
        next fresh =>
          exact ih (marked queue nodeStates downstream initially here (Or.inl fresh)) _ pushed
        next fresh =>
          exact ih (marked queue nodeStates downstream initially here (Or.inr fresh)) _ pushed
        · exact ih initially _ rest

/-- The cascade changes the run only by failing nodes that have not started. -/
theorem cascade_induction (initially : motive acc)
    (marked : ∀ queue nodeStates downstream, motive (queue, nodeStates) →
      nodeStates downstream = none ∨ nodeStates downstream = some .pending →
      motive (queue.markFailed downstream, nodeStates.insert downstream
      (.failed "dependency failed"))) (fuel : Nat) (stack : List Uuid)
    (visited : Finset Uuid) : motive (cascade graph fuel stack visited acc) :=
  cascade_within (fun _ => True) initially (fun _ _ _ _ => trivial)
    (fun queue nodeStates downstream holds _ => marked queue nodeStates downstream holds)
    fuel visited (fun _ _ => trivial)

structure IsCall (setup : RunSetup) (state : RunState) (call : Call) :
    Prop where
  position : setup.graph.nodeIndex call.node.id = some call.index
  node : setup.graph.nodes[call.index]? = some call.node
  context : call.context =
    { parentOutputs := state.parentOutputs setup.graph call.node.id
      graphOutputs := state.outputs }

def markBatch (ids : List Uuid) (state : RunState) : RunState :=
  { state with
    queue :=
      { state.queue with
        inProgress := state.queue.inProgress ∪ ids.toFinset
        ready := state.queue.ready \ ids.toFinset }
    nodeStates := ids.foldl (fun (states : Table Uuid NodeState) id => states.insert id .running)
      state.nodeStates
    calls := state.calls + ids.length }

theorem dispatch_ok (dispatched : dispatch setup ids state = .ok (calls, last)) :
    calls.map (fun call => call.node.id) = ids ∧ (∀ call ∈ calls, IsCall setup state call) ∧
      last = markBatch ids state := by
  induction ids generalizing state calls with
  | nil =>
    cases dispatched
    simp [markBatch]
  | cons id rest ih =>
    unfold dispatch at dispatched
    dsimp only at dispatched
    split at dispatched
    · cases dispatched
    next index found =>
      split at dispatched
      · cases dispatched
      next node present =>
        obtain ⟨other, located, same⟩ := ExecutionGraph.nodeIndex_eq_some found
        have equal : other = node := by simpa [present] using located.symm
        subst equal
        split at dispatched
        · cases dispatched
        next later final recursive =>
          cases dispatched
          obtain ⟨ids, built, marked⟩ := ih recursive
          refine ⟨by simp [ids, same], ?_, ?_⟩
          · intro call member
            rcases mem_cons.mp member with rfl | tail
            · exact ⟨same ▸ found, present, by rw [same]⟩
            · exact ⟨(built call tail).position, (built call tail).node, (built call tail).context⟩
          · rw [marked]
            simp only [markBatch, ← foldl_markInProgress, foldl_cons, length_cons]
            congr 1
            omega

theorem dispatch_error (failed : dispatch setup ids state = .error (error, last)) :
    last.log = state.log := by
  fun_induction dispatch setup ids state with
  | case1 | case5 => cases failed
  | case2 | case3 =>
    simp only [Except.error.injEq, Prod.mk.injEq] at failed
    rw [← failed.2]
  | case4 id rest state marked index found node present failure recursive ih =>
    cases failed
    exact ih recursive

/-- A call in the log after a batch is an old one or one of the batch. -/
theorem called_of_mem_runCalls (event : .called position id ∈ (runCalls setup calls state).log) :
    .called position id ∈ state.log ∨
      ∃ call, call ∈ calls ∧ .called position id ∈ call.startEvents setup := by
  simp only [runCalls, mem_append, mem_flatMap] at event
  rcases event with (old | new) | ⟨call, -, event⟩
  · exact Or.inl old
  · exact Or.inr new
  · exact (Call.not_called_mem_endEvents event).elim

theorem returned_of_mem_runCalls (event : .returned id result ∈ (runCalls setup calls state).log) :
    .returned id result ∈ state.log ∨
      ∃ call, call ∈ calls ∧ .returned id result ∈ call.endEvents setup := by
  simp only [runCalls, mem_append, mem_flatMap] at event
  rcases event with (old | ⟨call, -, event⟩) | new
  · exact Or.inl old
  · exact (Call.not_returned_mem_startEvents event).elim
  · exact Or.inr new

def batch (setup : RunSetup) (state : RunState) : List Uuid :=
  (state.queue.getReady setup.index state.nodeStates).take setup.maxConcurrent

theorem count_batch_le (setup : RunSetup) (state : RunState) (id : Uuid) :
    (state.batch setup).count id ≤ (setup.graph.nodes.map ExecutionNode.id).count id := by
  refine ((take_sublist _ _).count_le id).trans ?_
  have kept := filter_sublist (p := state.queue.isReady state.nodeStates)
    (l := setup.graph.nodes.map ExecutionNode.id)
  unfold getReady
  dsimp only
  split
  · calc
      _ ≤ _ := (take_sublist _ _).count_le id
      _ = _ := (perm_insertionSort _ _).count_eq id
      _ ≤ _ := kept.count_le id
  · exact kept.count_le id

theorem known_of_mem_batch (member : id ∈ state.batch setup) :
    id ∈ setup.graph.nodes.map ExecutionNode.id :=
  (mem_getReady (mem_of_mem_take member)).1

theorem isReady_of_mem_batch (member : id ∈ state.batch setup) :
    state.queue.isReady state.nodeStates id = true :=
  (mem_getReady (mem_of_mem_take member)).2

theorem queued_of_mem_batch (member : id ∈ state.batch setup) : id ∈ state.queue.ready := by
  have ready := isReady_of_mem_batch member
  simp only [isReady, Bool.and_eq_true, decide_eq_true_eq] at ready
  exact ready.1.1

def entered (state : RunState) : RunState :=
  { state with passes := state.passes + 1 }

theorem mem_batch_of_called
    (dispatched : dispatch setup ids state = .ok (calls, last)) (position : Nat) (id : Uuid)
    (event : .called position id ∈ calls.flatMap (Call.startEvents setup) ++
      calls.flatMap (Call.endEvents setup)) : id ∈ ids := by
  rw [← (dispatch_ok dispatched).1]
  rcases mem_append.mp event with start | finish
  · obtain ⟨call, inside, event⟩ := mem_flatMap.mp start
    exact mem_map.mpr ⟨call, inside, Call.id_of_mem_startEvents event⟩
  · obtain ⟨call, inside, event⟩ := mem_flatMap.mp finish
    exact (Call.not_called_mem_endEvents event).elim

end RunState

/-- Where a run is: between passes, or with results left to fold. -/
inductive Phase where
  | idle
  | folding (batchIds : List Uuid) (rest : List (Uuid × NodeExecutionResult))

open RunState

/-- The head of a pass went on: not cancelled and not done. -/
def Proceeds (setup : RunSetup) (state : RunState) : Prop :=
  state.cancelled setup = false ∧ state.queue.isDone setup.index state.nodeStates = false

/-- One step of a run that goes on. -/
inductive Step (setup : RunSetup) : Phase × RunState → Phase × RunState → Prop
    where
  | spin {state : RunState} (proceeds : Proceeds setup state)
      (blocked : state.queue.getReady setup.index state.nodeStates = [])
      (busy : state.queue.anyInProgress = true) :
      Step setup (.idle, state) (.idle, state.entered)
  | batch {state dispatched : RunState} {calls : List Call} (proceeds : Proceeds setup state)
      (available : state.queue.getReady setup.index state.nodeStates ≠ [])
      (started : dispatch setup (state.batch setup) state.entered = .ok (calls, dispatched)) :
      Step setup (.idle, state)
        (.folding (state.batch setup) (calls.map (Call.result setup)),
          runCalls setup calls dispatched)
  | fold {batchIds : List Uuid} {id : Uuid} {result : NodeExecutionResult}
      {rest : List (Uuid × NodeExecutionResult)} {state following : RunState}
      (processed : processResult setup batchIds state id result = .next following) :
      Step setup (.folding batchIds ((id, result) :: rest), state)
        (.folding batchIds rest, following)
  | done {batchIds : List Uuid} {state : RunState} :
      Step setup (.folding batchIds [], state) (.idle, state)

/-- One step that ends a run. -/
inductive Ends (setup : RunSetup) : Phase × RunState → RunResult → Prop where
  | cancelled {state : RunState} (seen : state.cancelled setup = true) :
      Ends setup (.idle, state) (.error RunSetup.cancelledError, state.entered)
  | finished {state : RunState} (alive : state.cancelled setup = false)
      (done : state.queue.isDone setup.index state.nodeStates = true) :
      Ends setup (.idle, state) (.ok (state.entered.outcome setup), state.entered)
  | stuck {state : RunState} (proceeds : Proceeds setup state)
      (blocked : state.queue.getReady setup.index state.nodeStates = [])
      (free : state.queue.anyInProgress = false) :
      Ends setup (.idle, state) (.ok (state.entered.outcome setup), state.entered)
  | desync {state last : RunState} {error : PlatformError}
      (failed : dispatch setup (state.batch setup) state.entered = .error (error, last)) :
      Ends setup (.idle, state) (.error error, last)
  | left {batchIds : List Uuid} {id : Uuid} {result : NodeExecutionResult}
      {rest : List (Uuid × NodeExecutionResult)} {state last : RunState}
      (processed : processResult setup batchIds state id result = .leave last) :
      Ends setup (.folding batchIds ((id, result) :: rest), state) (.ok (last.outcome setup), last)
  | breached {batchIds : List Uuid} {id : Uuid} {result : NodeExecutionResult}
      {rest : List (Uuid × NodeExecutionResult)} {state last : RunState}
      {outcome : ExecutionOutcome}
      (processed : processResult setup batchIds state id result = .finish outcome last) :
      Ends setup (.folding batchIds ((id, result) :: rest), state) (.ok outcome, last)
  | aborted {batchIds : List Uuid} {id : Uuid} {result : NodeExecutionResult}
      {rest : List (Uuid × NodeExecutionResult)} {state last : RunState} {error : PlatformError}
      (processed : processResult setup batchIds state id result = .abort error last) :
      Ends setup (.folding batchIds ((id, result) :: rest), state) (.error error, last)

/-- What a pass or a fold that started at `config` came to. -/
def Flow.Follows (setup : RunSetup) (config : Phase × RunState) :
    Flow → Prop
  | .next following => TransGen (Step setup) config (.idle, following)
  | .leave last => ∃ before, ReflTransGen (Step setup) config before ∧
      Ends setup before (.ok (last.outcome setup), last)
  | .finish outcome last => ∃ before, ReflTransGen (Step setup) config before ∧
      Ends setup before (.ok outcome, last)
  | .abort error last => ∃ before, ReflTransGen (Step setup) config before ∧
      Ends setup before (.error error, last)

variable {envelope : Option BudgetEnvelope} {id : Uuid}

theorem Flow.Follows.head {flow : Flow} (step : Step setup first second)
    (follows : flow.Follows setup second) : flow.Follows setup first := by
  cases flow with
  | next following => exact TransGen.head step follows
  | leave last | finish outcome last | abort error last =>
    obtain ⟨before, steps, ends⟩ := follows
    exact ⟨before, ReflTransGen.head step steps, ends⟩

theorem foldResults_follows (setup : RunSetup) (batchIds : List Uuid)
    (results : List (Uuid × NodeExecutionResult)) (state : RunState) :
    (foldResults setup batchIds results state).Follows setup
      (.folding batchIds results, state) := by
  induction results generalizing state with
  | nil => exact TransGen.single .done
  | cons entry rest ih =>
    obtain ⟨id, result⟩ := entry
    unfold foldResults
    cases processed : processResult setup batchIds state id result with
    | next following => exact (ih following).head (.fold processed)
    | leave last => exact ⟨_, .refl, .left processed⟩
    | finish outcome last => exact ⟨_, .refl, .breached processed⟩
    | abort error last => exact ⟨_, .refl, .aborted processed⟩

theorem pass_follows (setup : RunSetup) (state : RunState) :
    (state.pass setup).Follows setup (.idle, state) := by
  unfold RunState.pass
  dsimp only
  split
  next seen => exact ⟨_, .refl, .cancelled seen⟩
  next alive =>
    have alive : state.cancelled setup = false := by simpa using alive
    split
    next done => exact ⟨_, .refl, .finished alive done⟩
    next open_ =>
      have proceeds : Proceeds setup state := ⟨alive, by simpa using open_⟩
      split
      next blocked =>
        split
        next busy => exact TransGen.single (.spin proceeds blocked busy)
        next free =>
          exact ⟨_, .refl, .stuck proceeds blocked (by simpa using free)⟩
      next available =>
        unfold runBatch
        split
        next error marked failed => exact ⟨_, .refl, .desync failed⟩
        next calls dispatched started =>
          exact (foldResults_follows setup _ _ _).head (.batch proceeds available started)

/-- The configurations of a run. -/
def Reachable (setup : RunSetup) (envelope : Option BudgetEnvelope)
    (config : Phase × RunState) : Prop :=
  ReflTransGen (Step setup) (.idle, setup.initial envelope) config

/-- Only a batch writes to the log: what it keeps holds of the log of every
reachable configuration. -/
theorem Reachable.log_invariant (property : List Event → Prop) (initially : property [])
    (preserved : ∀ state dispatched calls, Reachable setup envelope (.idle,
      state) → Proceeds setup state → dispatch setup (state.batch setup)
      state.entered = .ok (calls, dispatched) → property state.log → property
      (runCalls setup calls dispatched).log)
    (reached : Reachable setup envelope config) : property config.2.log := by
  induction reached with
  | refl => exact initially
  | tail before step holds =>
    cases step with
    | spin | done => exact holds
    | batch proceeds _ started =>
      exact preserved _ _ _ before proceeds started holds
    | fold processed =>
      rw [processResult_next_log processed]
      exact holds

/-- From this state the run hands the call to the executor. -/
def DispatchesFrom (setup : RunSetup) (envelope : Option BudgetEnvelope)
    (state : RunState) (call : Call) : Prop :=
  ∃ calls dispatched, Reachable setup envelope (.idle, state) ∧ Proceeds setup state ∧
    dispatch setup (state.batch setup) state.entered = .ok (calls, dispatched) ∧ call ∈ calls

def Dispatches (setup : RunSetup) (envelope : Option BudgetEnvelope) (call : Call) : Prop :=
  ∃ state, DispatchesFrom setup envelope state call

theorem Dispatches.mem_nodes (dispatches : Dispatches setup envelope call) :
    call.node ∈ setup.graph.nodes := by
  obtain ⟨state, calls, dispatched, -, -, started, member⟩ := dispatches
  obtain ⟨-, built, -⟩ := dispatch_ok started
  exact mem_of_getElem? (built call member).node

namespace DispatchesFrom

variable (started : DispatchesFrom setup envelope state call)
include started

theorem dispatches : Dispatches setup envelope call := ⟨state, started⟩

theorem reachable : Reachable setup envelope (.idle, state) := by
  obtain ⟨-, -, reached, -⟩ := started
  exact reached

theorem mem_batch : call.node.id ∈ state.batch setup := by
  obtain ⟨calls, dispatched, -, -, passed, member⟩ := started
  obtain ⟨ids, -, -⟩ := dispatch_ok passed
  rw [← ids]
  exact mem_map.mpr ⟨call, member, rfl⟩

end DispatchesFrom

/-- The events that logged some results: one for each of them, except for
those of cancelled calls. -/
inductive LogsOf : List (Uuid × NodeExecutionResult) → List Event → Prop where
  | nil : LogsOf [] []
  | returned {rest : List (Uuid × NodeExecutionResult)} {events : List Event}
      (id : Uuid) (result : NodeExecutionResult) (logs : LogsOf rest events) :
      LogsOf ((id, result) :: rest) (.returned id result :: events)
  | cancelled {rest : List (Uuid × NodeExecutionResult)} {events : List Event}
      (id : Uuid) {result : NodeExecutionResult} {message : String}
      (failure : result.state = .failed message) (unused : result.usage = none)
      (logs : LogsOf rest events) :
      LogsOf ((id, result) :: rest) events

namespace LogsOf

theorem calls (setup : RunSetup) (calls : List Call) :
    LogsOf (calls.map (Call.result setup)) (calls.flatMap (Call.endEvents setup)) := by
  induction calls with
  | nil => exact .nil
  | cons call calls ih =>
    rw [map_cons, flatMap_cons]
    cases fate : call.fate setup with
    | returns => simpa [Call.endEvents, Call.result, fate] using ih.returned _ _
    | cancelledBefore | cancelledDuring =>
      simpa [Call.endEvents, Call.result, fate] using ih.cancelled _ rfl rfl

variable (logs : LogsOf rest events)
include logs

theorem silent (position : Nat) (id : Uuid) : .called position id ∉ events := by
  induction logs with
  | nil => exact not_mem_nil
  | returned other result _ ih => simpa using ih
  | cancelled other failure unused _ ih => exact ih

theorem logged (member : (id, result) ∈ rest) :
    (∃ message, result.state = .failed message) ∨ .returned id result ∈ events := by
  induction logs with
  | nil => cases member
  | returned other otherResult _ ih =>
    rcases mem_cons.mp member with same | later
    · cases same
      exact Or.inr mem_cons_self
    · exact (ih later).imp_right (mem_cons_of_mem _)
  | cancelled other failure unused _ ih =>
    rcases mem_cons.mp member with same | later
    · cases same
      exact Or.inl ⟨_, failure⟩
    · exact ih later

end LogsOf

section

variable (reached : Reachable setup envelope (.folding batchIds rest, state))
include reached

/-- While a batch is folded, the log ends with the results that are still to be
folded. -/
theorem Reachable.batch_log :
    ∃ before events, state.log = before ++ events ∧ LogsOf rest events := by
  generalize phase : (Phase.folding batchIds rest, state) = config at reached
  induction reached generalizing batchIds rest state with
  | refl => cases phase
  | tail _ step holds =>
    cases step with
    | spin | done => cases phase
    | @batch state dispatched calls =>
      cases phase
      exact ⟨_, _, rfl, LogsOf.calls setup calls⟩
    | @fold _ id result _ state _ processed =>
      cases phase
      obtain ⟨before, events, log, logs⟩ := holds rfl
      rw [processResult_next_log processed]
      cases logs with
      | returned _ _ logs =>
        refine ⟨before ++ [.returned id result], _, ?_, logs⟩
        rw [append_assoc]
        exact log
      | cancelled _ failure unused logs => exact ⟨before, events, log, logs⟩

/-- A result that is still to be folded is that of a call in the batch, whose
end is logged. -/
theorem Reachable.pending_result (member : (id, result) ∈ rest) :
    id ∈ batchIds ∧ ∃ call : Call, call.result setup = (id, result) ∧
      ∀ event ∈ call.endEvents setup, event ∈ state.log := by
  generalize phase : (Phase.folding batchIds rest, state) = config at reached
  induction reached generalizing batchIds rest state with
  | refl => cases phase
  | tail _ step holds =>
    cases step with
    | spin | done => cases phase
    | batch _ _ started =>
      cases phase
      obtain ⟨call, inside, same⟩ := mem_map.mp member
      refine ⟨?_, call, same, fun event ends =>
        mem_append_right _ (mem_flatMap.mpr ⟨call, inside, ends⟩)⟩
      rw [← (dispatch_ok started).1]
      exact mem_map.mpr ⟨call, inside, by rw [← call.result_fst setup, same]⟩
    | fold processed =>
      cases phase
      rw [processResult_next_log processed]
      exact holds (mem_cons_of_mem _ member) rfl

theorem Reachable.result_logged (member : (id, result) ∈ rest) :
    (∃ message, result.state = .failed message) ∨ .returned id result ∈ state.log := by
  obtain ⟨before, events, log, logs⟩ := reached.batch_log
  rw [log]
  exact (logs.logged member).imp_right (mem_append_right before)

end

section

variable (reached : Reachable setup envelope config)
include reached

theorem Reachable.called_of_returned (returned : .returned id result ∈ config.2.log) :
    ∃ position, .called position id ∈ config.2.log := by
  refine reached.log_invariant (fun log => .returned id result ∈ log →
    ∃ position, .called position id ∈ log) (by simp) ?_ returned
  intro state dispatched calls _ _ started holds returned
  obtain ⟨-, -, rfl⟩ := dispatch_ok started
  simp only [runCalls, mem_append, mem_flatMap]
  rcases returned_of_mem_runCalls returned with old | ⟨call, inside, event⟩
  · obtain ⟨position, called⟩ := holds old
    exact ⟨position, Or.inl (Or.inl called)⟩
  · refine ⟨call.index, Or.inl (Or.inr ⟨call, inside, ?_⟩)⟩
    obtain ⟨rfl, -⟩ := Call.of_mem_endEvents event
    unfold Call.endEvents at event
    unfold Call.startEvents
    split at event
    next fate => simp [fate]
    · simp at event

theorem Reachable.dispatched_of_called (called : .called position id ∈ config.2.log) :
    ∃ state call, DispatchesFrom setup envelope state call ∧
      call.node.id = id ∧ call.index = position := by
  refine reached.log_invariant (fun log => .called position id ∈ log → _) (by simp) ?_ called
  intro state dispatched calls before proceeds started holds called
  have marked := (dispatch_ok started).2.2
  rcases called_of_mem_runCalls called with old | ⟨call, member, event⟩
  · rw [marked] at old
    exact holds old
  · obtain ⟨rfl, rfl⟩ := Call.of_mem_startEvents event
    exact ⟨state, call, ⟨calls, dispatched, before, proceeds, started, member⟩, rfl, rfl⟩

theorem Reachable.called_position (called : .called position id ∈ config.2.log) :
    setup.graph.nodeIndex id = some position := by
  obtain ⟨_, call, ⟨_, _, -, -, started, member⟩, rfl, rfl⟩ := reached.dispatched_of_called called
  exact ((dispatch_ok started).2.1 call member).position

theorem Reachable.executed_of_returned (returned : .returned id result ∈ config.2.log) :
    ∃ call, Dispatches setup envelope call ∧ call.node.id = id ∧
      result = setup.executor call.number call.node call.context := by
  refine reached.log_invariant (fun log => .returned id result ∈ log → _) (by simp) ?_ returned
  intro state dispatched calls before proceeds started holds returned
  have marked := (dispatch_ok started).2.2
  rcases returned_of_mem_runCalls returned with old | ⟨call, member, event⟩
  · rw [marked] at old
    exact holds old
  · obtain ⟨rfl, answer⟩ := Call.of_mem_endEvents event
    exact ⟨call, ⟨state, calls, dispatched, before, proceeds, started, member⟩, rfl, answer⟩

end

theorem transGen_of_pass (round : schedLoop setup state = .again following) :
    TransGen (Step setup) (.idle, state) (.idle, following) := by
  have follows := pass_follows setup state
  unfold schedLoop at round
  split at round <;> cases round
  next passed =>
    rw [passed] at follows
    exact follows

theorem reachable_of_rounds
    (rounds : ReflTransGen (Loop.Again (schedLoop setup)) (setup.initial
      envelope) state) : Reachable setup envelope (.idle, state) := by
  induction rounds with
  | refl => exact .refl
  | tail _ round ih =>
    exact ReflTransGen.trans ih (transGen_of_pass round).to_reflTransGen

theorem runInner_ends {result : RunResult} (finished : runInner setup envelope fuel = some result) :
    ∃ config, Reachable setup envelope config ∧ Ends setup config result := by
  obtain ⟨last, rounds, stopped⟩ := Loop.run_sound finished
  have reached := reachable_of_rounds rounds
  have follows := pass_follows setup last
  unfold schedLoop at stopped
  split at stopped <;> cases stopped
  all_goals
    next passed =>
      rw [passed] at follows
      obtain ⟨before, steps, ends⟩ := follows
      exact ⟨before, ReflTransGen.trans reached steps, ends⟩

/-- The states a run shows: the ones at the head of a pass and the one it ends
in. -/
inductive Visited (setup : RunSetup) (envelope : Option BudgetEnvelope) :
    RunState → Prop where
  | passing {state : RunState}
      (rounds : ReflTransGen (Loop.Again (schedLoop setup)) (setup.initial envelope) state) :
      Visited setup envelope state
  | ended {fuel : Nat} {result : Except PlatformError ExecutionOutcome} {state : RunState}
      (finished : runInner setup envelope fuel = some (result, state)) :
      Visited setup envelope state

theorem Ends.log {result : RunResult} (ends : Ends setup config result) :
    result.2.log = config.2.log := by
  have processedLog : ∀ {batchIds id result flow} {state : RunState},
      processResult setup batchIds state id result = flow → flow.state.log = state.log := by
    rintro batchIds id result flow state rfl
    exact processResult_log setup batchIds state id result
  cases ends with
  | cancelled | finished | stuck => rfl
  | desync failed => exact (dispatch_error failed).trans rfl
  | left processed | breached processed | aborted processed =>
    exact processedLog processed

/-- What holds of the log in every reachable configuration holds of every log
a run shows. -/
theorem Visited.reachable (visited : Visited setup envelope state) :
    ∃ config, Reachable setup envelope config ∧ config.2.log = state.log := by
  cases visited with
  | passing rounds => exact ⟨_, reachable_of_rounds rounds, rfl⟩
  | ended finished =>
    obtain ⟨config, reached, ends⟩ := runInner_ends finished
    exact ⟨config, reached, ends.log.symm⟩

/-- A run ends when a measure never goes up and goes down with each pass. -/
theorem runInner_terminates_of_measure (measure : Phase × RunState → Nat)
    (steps : ∀ first second, Reachable setup envelope first → Step setup first
      second → measure second ≤ measure first ∧ (first.1 = .idle → measure
      second < measure first)) :
    ∃ fuel result, runInner setup envelope fuel = some result := by
  have walks : ∀ first second, Reachable setup envelope first →
      ReflTransGen (Step setup) first second → measure second ≤ measure first := by
    intro first second reached walk
    induction walk with
    | refl => exact le_rfl
    | tail before step ih =>
      exact (steps _ _ (ReflTransGen.trans reached before) step).1.trans ih
  have decreases : ∀ state following, Reachable setup envelope (.idle, state) →
        schedLoop setup state = .again following →
          measure (.idle, following) < measure (.idle, state) := by
    intro state following reached round
    obtain ⟨second, step, rest⟩ := TransGen.head'_iff.mp (transGen_of_pass round)
    have first := (steps _ _ reached step).2 rfl
    exact (walks second _ (ReflTransGen.tail reached step) rest).trans_lt first
  obtain ⟨result, finished⟩ := Loop.run_terminates
    (fun state => Reachable setup envelope (.idle, state)) (fun state => measure (.idle, state))
    (fun state following reached round => ReflTransGen.trans reached
      (transGen_of_pass round).to_reflTransGen) decreases
    (show Reachable setup envelope (.idle, setup.initial envelope) from .refl)
  exact ⟨_, result, finished⟩

end FusionRouter
