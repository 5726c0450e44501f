import FusionRouter.Lib.Runs
import FusionRouter.Scheduler.Sequence

/-!
# The scheduler poll by poll

`run_inner` as the future that it is: between two awaits it runs on, and while
it waits for a batch, `join_all` polls the futures of the batch in some order.
Each of these futures races the cancellation token against `execute_node`, the
token first.  A call of `execute_node` starts with the first poll of its
future.  The token may be cancelled between any two of these steps.
-/

namespace FusionRouter

open List

inductive RaceStage where
  | fresh
  /-- `execute_node` has been polled and has not returned. -/
  | running
  | ready (fate : CallFate)
deriving Repr, DecidableEq

structure NodeFuture where
  call : Call
  stage : RaceStage

/-- Where `run_inner` is. -/
inductive RunPhase where
  /-- Before the check at the head of the loop. -/
  | looping
  /-- In `join_all`. -/
  | joining (batchIds : List Uuid) (futures : List NodeFuture)
  | returned (result : Except PlatformError ExecutionOutcome)

structure PollState where
  phase : RunPhase
  run : RunState
  /-- The token. -/
  cancelled : Bool

/-- What happens next. -/
inductive PollInput where
  | cancel
  /-- `run_inner` runs on to its next await. -/
  | resume
  /-- A future of the batch is polled; `returns` says whether `execute_node`
  would return in this poll. -/
  | poll (position : Nat) (returns : Bool)
deriving Repr, DecidableEq

/-- What can be seen of a step. -/
inductive PollEvent where
  /-- The call of this number starts. -/
  | started (number : Nat)
  /-- The race of this call ends. -/
  | settled (number : Nat) (fate : CallFate)
  /-- The head of the loop reads the token. -/
  | checked (pass : Nat) (cancelled : Bool)
deriving Repr, DecidableEq

namespace NodeFuture

def new (call : Call) : NodeFuture :=
  { call := call
    stage := .fresh }

variable (future : NodeFuture)

def number : Nat :=
  future.call.number

def isReady : Bool :=
  match future.stage with
  | .ready _ => true
  | _ => false

/-- The race has ended so. -/
def settle (fate : CallFate) : NodeFuture :=
  { future with stage := .ready fate }

/-- `execute_node` is polled: it returns or is pending. -/
def execute (returns : Bool) : List PollEvent × NodeFuture :=
  if returns then
    ([.settled future.number .returns], future.settle .returns)
  else ([], { future with stage := .running })

/-- The biased race: the token is polled first.  A future that is ready is not
polled again. -/
def poll (cancelled returns : Bool) (future : NodeFuture) : List PollEvent × NodeFuture :=
  match future.stage with
  | .ready _ => ([], future)
  | .fresh =>
    if cancelled then
      ([.settled future.number .cancelledBefore], future.settle .cancelledBefore)
    else
      (.started future.number :: (future.execute returns).1, (future.execute returns).2)
  | .running =>
    if cancelled then
      ([.settled future.number .cancelledDuring], future.settle .cancelledDuring)
    else future.execute returns

def fate : CallFate :=
  match future.stage with
  | .ready fate => fate
  | _ => .returns

def output (setup : RunSetup) (future : NodeFuture) : Uuid × NodeExecutionResult :=
  match future.fate with
  | .returns =>
    (future.call.node.id, setup.executor future.number future.call.node future.call.context)
  | _ =>
    (future.call.node.id,
      { state := .failed "Cancelled by client"
        usage := none
        output := none })

def startEvents : List Event :=
  match future.fate with
  | .cancelledBefore => []
  | _ => [.called future.call.index future.call.node.id]

def endEvents (setup : RunSetup) (future : NodeFuture) : List Event :=
  match future.fate with
  | .returns => [.returned future.call.node.id (future.output setup).2]
  | _ => []

end NodeFuture

namespace RunPhase

/-- Where a part of the loop body leads. -/
def ofFlow (setup : RunSetup) : Flow → RunPhase × RunState
  | .next state => (.looping, state)
  | .leave last => (.returned (.ok (last.outcome setup)), last)
  | .finish outcome last => (.returned (.ok outcome), last)
  | .abort error last => (.returned (.error error), last)

/-- From the head of the loop to the futures of a batch.  The short sleep while
other nodes are running leads back to the head. -/
def ofHead (setup : RunSetup) (cancelled : Bool) (state : RunState) : RunPhase × RunState :=
  let entered := { state with passes := state.passes + 1 }
  if cancelled then ofFlow setup (.abort RunSetup.cancelledError entered)
  else if state.queue.isDone setup.index state.nodeStates then
    ofFlow setup (.leave entered)
  else
    match state.queue.getReady setup.index state.nodeStates with
    | [] =>
      if state.queue.anyInProgress then ofFlow setup (.next entered)
      else ofFlow setup (.leave entered)
    | ready =>
      let batchIds := ready.take setup.maxConcurrent
      match RunState.dispatch setup batchIds entered with
      | .error (error, marked) => ofFlow setup (.abort error marked)
      | .ok (calls, dispatched) =>
        (.joining batchIds (calls.map NodeFuture.new), dispatched)

/-- `join_all` is ready when all of its futures are. -/
def ofJoin (setup : RunSetup) (batchIds : List Uuid)
    (futures : List NodeFuture) (state : RunState) : RunPhase × RunState :=
  if futures.all NodeFuture.isReady then
    ofFlow setup (RunState.foldResults setup batchIds (futures.map (NodeFuture.output setup))
      { state with
        log := state.log ++ futures.flatMap NodeFuture.startEvents ++
          futures.flatMap (NodeFuture.endEvents setup) })
  else (.joining batchIds futures, state)

end RunPhase

namespace PollState

def start (setup : RunSetup) (envelope : Option BudgetEnvelope) : PollState :=
  { phase := .looping
    run := setup.initial envelope
    cancelled := false }

def enter (state : PollState) (next : RunPhase × RunState) : PollState :=
  { state with
    phase := next.1
    run := next.2 }

/-- `run_inner` is polled where it stands. -/
def resume (setup : RunSetup) (state : PollState) : List PollEvent × PollState :=
  match state.phase with
  | .looping =>
    ([.checked state.run.passes state.cancelled],
      state.enter (RunPhase.ofHead setup state.cancelled state.run))
  | .joining batchIds futures =>
    ([], state.enter (RunPhase.ofJoin setup batchIds futures state.run))
  | .returned _ => ([], state)

def pollAt (state : PollState) (position : Nat) (returns : Bool) : List PollEvent × PollState :=
  match state.phase with
  | .joining batchIds futures =>
    match futures[position]? with
    | none => ([], state)
    | some future =>
      ((future.poll state.cancelled returns).1,
        { state with
          phase := .joining batchIds (futures.set position
            (future.poll state.cancelled returns).2) })
  | _ => ([], state)

/-- One of the steps between which the token may be cancelled. -/
def step (setup : RunSetup) (state : PollState) :
    PollInput → List PollEvent × PollState
  | .cancel => ([], { state with cancelled := true })
  | .resume => state.resume setup
  | .poll position returns => state.pollAt position returns

end PollState

/-! ## Cancellation -/

namespace PollState

variable {state : PollState}

theorem cancelled_step (setup : RunSetup) (input : PollInput) (cancelled : state.cancelled = true) :
    (state.step setup input).2.cancelled = true := by
  cases input with
  | cancel => rfl
  | resume =>
    rw [step, resume]
    split
    · exact cancelled
    · exact cancelled
    · exact cancelled
  | poll position returns =>
    rw [step, pollAt]
    split
    · split
      · exact cancelled
      · exact cancelled
    · exact cancelled

theorem started_step (cancelled : state.cancelled = true) :
    .started number ∉ (state.step setup input).1 := by
  cases input with
  | cancel => exact not_mem_nil
  | resume =>
    rw [step, resume]
    split
    · simp
    · exact not_mem_nil
    · exact not_mem_nil
  | poll position returns =>
    rw [step, pollAt]
    split
    · split
      · exact not_mem_nil
      · rw [cancelled, NodeFuture.poll]
        split
        · exact not_mem_nil
        · simp
        · simp
    · exact not_mem_nil

theorem started_replies (cancelled : state.cancelled = true) (number : Nat) :
    .started number ∉ (Runs.replies (step setup) state inputs).flatten := by
  induction inputs generalizing state with
  | nil => exact not_mem_nil
  | cons input inputs induction =>
    rw [Runs.replies, flatten_cons, mem_append, not_or]
    exact ⟨started_step cancelled, induction (cancelled_step setup input cancelled)⟩

end PollState

/-- Once the token has been cancelled, no call of `execute_node` starts. -/
theorem cancellation_stops_calls (setup : RunSetup)
    (envelope : Option BudgetEnvelope) (before after : List PollInput) (number : Nat) :
    .started number ∉ (Runs.replies (PollState.step setup)
      (Runs.after (PollState.step setup) (PollState.start setup envelope)
        (before ++ [.cancel])) after).flatten := by
  apply PollState.started_replies
  unfold Runs.after
  rw [foldl_append]
  rfl

end FusionRouter
