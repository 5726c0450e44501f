import FusionRouter.Lib.History
import FusionRouter.Runtime.Chat
import FusionRouter.Scheduler.Steps

/-!
# The host scheduler

The scheduler of the server hands its graph to `run_inner` through an adapter
that remembers the last success and the last output for the response.  The
adapter writes when a call completes, while `run_inner` folds the results of a
batch in batch order: what the adapter remembers is the only part of a result
that depends on the order in which the calls of a batch complete.
-/

namespace FusionRouter

open History List

/-- A call that returned, with its result. -/
abbrev Completion := Uuid × NodeExecutionResult

def Event.isCalled : Event → Bool
  | .called _ _ => true
  | .returned _ _ => false

def Event.completion : Event → Option Completion
  | .called _ _ => none
  | .returned id result => some (id, result)

/-- What the adapter sees of a call: its result, unless it was cancelled. -/
def Call.completion (setup : RunSetup) (call : Call) : Option Completion :=
  match call.fate setup with
  | .returns => some (call.result setup)
  | _ => none

/-- The calls that returned, batch by batch: all calls of a batch are made
before the first one returns. -/
def completions (log : List Event) : List (List Completion) :=
  (log.splitOnP Event.isCalled).map (List.filterMap Event.completion)

/-- The order in which the calls of each batch complete. -/
structure Timing where
  order : List (List Completion) → List (List Completion)
  reorders : ∀ batches, Reorders (order batches) batches

/-- Calls complete in the order in which they were made. -/
def Timing.inOrder : Timing :=
  ⟨id, Reorders.refl⟩

/-- `Some` of anything but `null`. -/
def Json.nonNull : Option Json → Option Json
  | some .null => none
  | output => output

structure OutputTracker where
  terminalNodeId : Option Uuid
  finalOutput : Option Json

namespace OutputTracker

def empty : OutputTracker :=
  { terminalNodeId := none
    finalOutput := none }

def recordSuccess (tracker : OutputTracker) (nodeId : Uuid)
    (output : Option Json) : OutputTracker :=
  { terminalNodeId := some nodeId
    finalOutput := (Json.nonNull output).or tracker.finalOutput }

/-- `CratesExecutorAdapter::execute_node`, once the inner executor returned. -/
def complete (tracker : OutputTracker) (completion : Completion) :
    OutputTracker :=
  if completion.2.state = .succeeded then
    tracker.recordSuccess completion.1 completion.2.output
  else tracker

def track (timing : Timing) (log : List Event) : OutputTracker :=
  (timing.order (completions log)).flatten.foldl complete empty

end OutputTracker

inductive SchedulerError where
  | nodeFailed (message : String)
  | cyclicDependency
  | internal (message : String)
deriving Repr, DecidableEq

def SchedulerError.text : SchedulerError → String
  | .nodeFailed message => "Node execution failed: " ++ message
  | .cyclicDependency => "Cyclic dependency detected"
  | .internal message => "Internal error: " ++ message

/-- `map_crates_error`; `run_inner` returns only `PlatformError::Scheduler`. -/
def SchedulerError.ofPlatform (error : PlatformError) : SchedulerError :=
  if error.code = "CANCELLED" then .internal "Request cancelled by client"
  else .internal error.message

structure ExecutionInstance where
  instanceId : Uuid
  graph : ExecutionGraph
  nodeStates : Table Uuid NodeState
  outputs : Table Uuid Json
  reservationId : Uuid
  terminalNodeId : Option Uuid
  finalOutput : Option Json
  budgetEnvelope : Option BudgetEnvelope

structure ExecutionResult where
  instanceId : Uuid
  success : Bool
  outputs : Table Uuid Json
  totalCost : Nat
  totalTokens : Nat
  terminalNodeId : Option Uuid
  finalOutput : Option Json

/-- `DefaultScheduler` of the server. -/
structure HostScheduler where
  externals : Externals
  maxConcurrent : Nat
  pricing : Option (String → TokenPricing)

namespace HostScheduler

def schedule (instanceId : Uuid) (graph : ExecutionGraph)
    (reservation : Uuid) : ExecutionInstance :=
  { instanceId := instanceId
    graph := graph
    nodeStates := graph.nodes.foldl
      (fun (states : Table Uuid NodeState) node => states.insert node.id .pending) Table.empty
    outputs := Table.empty
    reservationId := reservation
    terminalNodeId := none
    finalOutput := none
    budgetEnvelope := none }

def setup (host : HostScheduler) (graph : ExecutionGraph)
    (executor : Executor) (cancel : Option CancelToken) : RunSetup :=
  { externals := host.externals
    graph := graph
    maxConcurrent := host.maxConcurrent
    pricing := host.pricing
    executor := executor
    cancel := cancel }

def overlay (scheduled : ExecutionInstance) (outcome : ExecutionOutcome)
    (tracker : OutputTracker) : ExecutionInstance :=
  { scheduled with
    nodeStates := fun id =>
      (outcome.nodeStates id).or (scheduled.nodeStates id)
    outputs := outcome.outputs
    terminalNodeId := tracker.terminalNodeId
    finalOutput := tracker.finalOutput }

def result (finished : ExecutionInstance) (outcome : ExecutionOutcome) :
    ExecutionResult :=
  { instanceId := finished.instanceId
    success := outcome.success
    outputs := finished.outputs
    totalCost := outcome.totalCost
    totalTokens := outcome.totalTokens
    terminalNodeId := finished.terminalNodeId
    finalOutput := finished.finalOutput }

/-- `run_crates` for at most `fuel` passes of the inner loop. -/
def runCrates (host : HostScheduler) (scheduled : ExecutionInstance)
    (executor : Executor) (cancel : Option CancelToken) (timing : Timing) (fuel : Nat) :
    Option (Except SchedulerError ExecutionResult × ExecutionInstance) :=
  match runInner (host.setup scheduled.graph executor cancel) scheduled.budgetEnvelope fuel with
  | none => none
  | some (.error error, _) =>
    some (.error (SchedulerError.ofPlatform error), scheduled)
  | some (.ok outcome, last) =>
    let finished := overlay scheduled outcome (OutputTracker.track timing last.log)
    some (.ok (result finished outcome), finished)

end HostScheduler

theorem completions_endEvents (setup : RunSetup) (calls : List Call) :
    (calls.flatMap (Call.endEvents setup)).filterMap Event.completion =
      calls.filterMap (Call.completion setup) := by
  induction calls with
  | nil => rfl
  | cons call calls ih =>
    rw [flatMap_cons, filterMap_append, ih, filterMap_cons]
    have own := call.result_fst setup
    cases fate : call.fate setup <;>
      simp [Call.endEvents, Call.completion, fate, Event.completion, ← own]

theorem completions_calls (called : ∀ event ∈ starts, event.isCalled = true)
    (returned : ∀ event ∈ ends, event.isCalled = false) :
    completions (starts ++ ends) =
      List.replicate starts.length [] ++ [ends.filterMap Event.completion] := by
  induction starts with
  | nil => simp [completions, splitOnP_eq_singleton returned]
  | cons event starts ih =>
    have first := called event mem_cons_self
    have rest := ih (fun other member => called other (mem_cons_of_mem _ member))
    unfold completions at rest ⊢
    rw [cons_append, splitOnP_cons_eq_if_modifyHead, if_pos first, map_cons, rest]
    rfl

/-- A batch adds one block to the completions, behind empty ones. -/
theorem completions_runCalls (setup : RunSetup) (calls : List Call)
    (state : RunState) (made : calls.flatMap (Call.startEvents setup) ≠ []) :
    ∃ count, completions (RunState.runCalls setup calls state).log =
      completions state.log ++ List.replicate count [] ++
        [calls.filterMap (Call.completion setup)] := by
  have called : ∀ event ∈ calls.flatMap (Call.startEvents setup), event.isCalled = true := by
    intro event member
    obtain ⟨call, -, inside⟩ := mem_flatMap.mp member
    unfold Call.startEvents at inside
    split at inside
    · cases inside
    · rw [mem_singleton.mp inside]
      rfl
  have returned : ∀ event ∈ calls.flatMap (Call.endEvents setup), event.isCalled = false := by
    intro event member
    obtain ⟨call, -, inside⟩ := mem_flatMap.mp member
    unfold Call.endEvents at inside
    split at inside
    · rw [mem_singleton.mp inside]
      rfl
    · cases inside
  obtain ⟨first, others, starts⟩ := exists_cons_of_ne_nil made
  rw [starts] at called
  refine ⟨others.length, ?_⟩
  have tail := completions_calls
    (fun event member => called event (mem_cons_of_mem _ member)) returned
  unfold completions at tail ⊢
  rw [RunState.runCalls, starts, append_assoc, cons_append,
    splitOnP_append_cons _ _ (called first mem_cons_self),
    map_append, tail, append_assoc, completions_endEvents]

theorem runCalls_unmade (unmade : calls.flatMap (Call.startEvents setup) = []) (state : RunState) :
    (RunState.runCalls setup calls state).log = state.log ∧
      calls.filterMap (Call.completion setup) = [] := by
  have before : ∀ call ∈ calls, call.fate setup = .cancelledBefore := by
    intro call member
    have none := flatMap_eq_nil_iff.mp unmade call member
    unfold Call.startEvents at none
    split at none
    next fate => exact fate
    · cases none
  have ends : calls.flatMap (Call.endEvents setup) = [] := by
    rw [flatMap_eq_nil_iff]
    intro call member
    simp [Call.endEvents, before call member]
  refine ⟨by simp [RunState.runCalls, unmade, ends], ?_⟩
  rw [filterMap_eq_nil_iff]
  intro call member
  simp [Call.completion, before call member]

section

variable {β : Type}

theorem deciding_runCalls_nil
    (silent : (calls.filterMap (Call.completion setup)).filterMap value = []) :
    deciding value (completions (RunState.runCalls setup calls state).log) =
      deciding value (completions state.log) := by
  by_cases unmade : calls.flatMap (Call.startEvents setup) = []
  · rw [(runCalls_unmade unmade state).1]
  · obtain ⟨count, blocks⟩ := completions_runCalls setup calls state unmade
    rw [blocks, deciding_append_nil (deciding_cons_nil rfl _ |>.trans silent),
      deciding_append_nil (deciding_replicate value count)]

theorem deciding_runCalls
    (records : (calls.filterMap (Call.completion setup)).filterMap value ≠ []) :
    deciding value (completions (RunState.runCalls setup calls state).log) =
      (calls.filterMap (Call.completion setup)).filterMap value := by
  by_cases unmade : calls.flatMap (Call.startEvents setup) = []
  · rw [(runCalls_unmade unmade state).2] at records
    exact (records rfl).elim
  · obtain ⟨count, blocks⟩ := completions_runCalls setup calls state unmade
    have own : deciding value [calls.filterMap (Call.completion setup)] =
        (calls.filterMap (Call.completion setup)).filterMap value := deciding_cons_nil rfl _
    rw [blocks, deciding_append (own.symm ▸ records), own]

end

namespace OutputTracker

def succeededId (completion : Completion) : Option Uuid :=
  if completion.2.state = .succeeded then some completion.1 else none

def recordedOutput (completion : Completion) : Option Json :=
  if completion.2.state = .succeeded then Json.nonNull completion.2.output
  else none

theorem foldl_complete (order : List Completion) :
    order.foldl complete empty =
      { terminalNodeId := lastOf succeededId order
        finalOutput := lastOf recordedOutput order } := by
  induction order using reverseRecOn with
  | nil => rfl
  | append_singleton order completion ih =>
    rw [foldl_append, ih, lastOf_append, lastOf_append]
    by_cases success : completion.2.state = .succeeded
    · simp [complete, recordSuccess, lastOf, succeededId, recordedOutput, success]
    · simp [complete, lastOf, succeededId, recordedOutput, success]

end OutputTracker

end FusionRouter
