import FusionRouter.Host.Pipeline
import FusionRouter.Scheduler.LoopFree
import FusionRouter.Scheduler.Sequence

/-!
# The reported answer

The answer of a run is what the adapter remembers last.  It is independent of
timing exactly when the calls of one batch that would leave different answers
are always followed by a batch that leaves one.
-/

namespace FusionRouter

open History OutputTracker

/-- The terminal node, the final output and the text of the response. -/
structure Answer where
  terminalNodeId : Option Uuid
  finalOutput : Option Json
  text : Except RouterError String

def ExecutionResult.answer (runtime : RuntimeExternals) (requestId : Uuid)
    (model : String) (result : ExecutionResult) : Answer :=
  { terminalNodeId := result.terminalNodeId
    finalOutput := result.finalOutput
    text := (ResponseBuilderStep.execute runtime requestId model result).map
      ChatCompletionResponse.content }

structure HostRun where
  host : HostScheduler
  runtime : RuntimeExternals
  scheduled : ExecutionInstance
  executor : Executor
  cancel : Option CancelToken
  requestId : Uuid
  model : String
  fuel : Nat

def HostRun.setup (run : HostRun) : RunSetup :=
  run.host.setup run.scheduled.graph run.executor run.cancel

def HostRun.answer (run : HostRun) (timing : Timing) : Option (Except SchedulerError Answer) :=
  (run.host.runCrates run.scheduled run.executor run.cancel timing run.fuel).map (fun finished =>
      finished.1.map (ExecutionResult.answer run.runtime run.requestId run.model))

/-- The last batch with a success has one, and so has the last batch with an
output. -/
def Decisive (log : List Event) : Prop :=
  (∀ left ∈ deciding succeededId (completions log),
    ∀ right ∈ deciding succeededId (completions log), left = right) ∧
  ∀ left ∈ deciding recordedOutput (completions log),
    ∀ right ∈ deciding recordedOutput (completions log), left = right

theorem exists_timing (reorders : Reorders orders batches) :
    ∃ timing : Timing, timing.order batches = orders := by
  classical
  refine ⟨⟨fun other => if other = batches then orders else other, ?_⟩, if_pos rfl⟩
  intro other
  split
  next same => exact same ▸ reorders
  · exact Reorders.refl other

/-- The tracker is independent of timing exactly in decisive runs. -/
theorem track_timing_iff (log : List Event) :
    (∀ first second : Timing, track first log = track second log) ↔ Decisive log := by
  unfold Decisive
  rw [← lastOf_reorders_iff, ← lastOf_reorders_iff]
  constructor
  · intro independent
    have orders : ∀ first second, Reorders first (completions log) →
        Reorders second (completions log) → first.flatten.foldl complete empty =
            second.flatten.foldl complete empty := by
      intro first second firstOrder secondOrder
      obtain ⟨left, rfl⟩ := exists_timing firstOrder
      obtain ⟨right, rfl⟩ := exists_timing secondOrder
      exact independent left right
    simp only [foldl_complete, mk.injEq] at orders
    refine ⟨?_, ?_⟩
    · intro first second firstOrder secondOrder
      exact (orders first second firstOrder secondOrder).1
    · intro first second firstOrder secondOrder
      exact (orders first second firstOrder secondOrder).2
  · rintro ⟨terminal, output⟩ first second
    have firstOrder := first.reorders (completions log)
    have secondOrder := second.reorders (completions log)
    unfold track
    rw [foldl_complete, foldl_complete,
      terminal _ _ firstOrder secondOrder, output _ _ firstOrder secondOrder]

/-- Whenever two calls of one batch record different values, a call of a later
batch records one. -/
def Overtaken {β : Type} (setup : RunSetup) (envelope : Option BudgetEnvelope)
    (value : Completion → Option β) : Prop :=
  ∀ state first second left right, DispatchesFrom setup envelope state first →
    DispatchesFrom setup envelope state second → (first.completion setup).bind value = some left →
    (second.completion setup).bind value = some right → left ≠ right →
      ∃ later call, DispatchesFrom setup envelope later call ∧ state.passes < later.passes ∧
        ((call.completion setup).bind value).isSome = true

/-- What the first `passes` passes recorded: nothing, or at last the values of
one batch. -/
inductive Recorded {β : Type} (setup : RunSetup)
    (envelope : Option BudgetEnvelope) (value : Completion → Option β)
    (passes : Nat) : List β → Prop where
  | nothing
      (silent : ∀ state call, DispatchesFrom setup envelope state call →
        state.passes < passes → (call.completion setup).bind value = none) :
      Recorded setup envelope value passes []
  | batch {state : RunState} {calls : List Call} (started : BatchFrom setup envelope state calls)
      (early : state.passes < passes)
      (records : (calls.filterMap (Call.completion setup)).filterMap value ≠ [])
      (last : ∀ later call, DispatchesFrom setup envelope later call → later.passes < passes →
        ((call.completion setup).bind value).isSome = true → later.passes ≤ state.passes) :
      Recorded setup envelope value passes
        ((calls.filterMap (Call.completion setup)).filterMap value)

section

variable {β : Type} {value : Completion → Option β}

theorem mem_recorded {calls : List Call} :
    recorded ∈ (calls.filterMap (Call.completion setup)).filterMap value ↔
      ∃ call ∈ calls, (call.completion setup).bind value = some recorded := by
  rw [List.filterMap_filterMap, List.mem_filterMap]

namespace Recorded

variable {values : List β}
  (recorded : Recorded setup envelope value passes values)

include recorded

theorem quiet (silent : ∀ state call, DispatchesFrom setup envelope state call →
      state.passes = passes → (call.completion setup).bind value = none) :
    Recorded setup envelope value (passes + 1) values := by
  cases recorded with
  | nothing before =>
    refine .nothing ?_
    intro state call dispatches early
    rcases Nat.lt_succ_iff_lt_or_eq.mp early with old | now
    · exact before state call dispatches old
    · exact silent state call dispatches now
  | batch started early records last =>
    refine .batch started (Nat.lt_succ_of_lt early) records ?_
    intro later call dispatches bound some
    rcases Nat.lt_succ_iff_lt_or_eq.mp bound with old | now
    · exact last later call dispatches old some
    · rw [silent later call dispatches now] at some
      cases some

/-- The values agree exactly when no later batch is missing. -/
theorem agree_iff
    (ended : ∀ state call, DispatchesFrom setup envelope state call → state.passes < passes) :
    (∀ left ∈ values, ∀ right ∈ values, left = right) ↔ Overtaken setup envelope value := by
  cases recorded with
  | nothing silent =>
    refine iff_of_true (fun _ member => absurd member List.not_mem_nil) ?_
    intro state first second left right dispatches _ some
    rw [silent state first dispatches (ended state first dispatches)] at some
    cases some
  | @batch state calls started _ records last =>
    constructor
    · intro agree other first second left right firstCall secondCall
        firstValue secondValue different
      have bound := last other first firstCall (ended other first firstCall)
        (by rw [firstValue]; rfl)
      rcases Nat.lt_or_eq_of_le bound with earlier | same
      · -- the batch that decides comes later
        obtain ⟨recorded, member⟩ := List.exists_mem_of_ne_nil _ records
        obtain ⟨call, inside, found⟩ := mem_recorded.mp member
        exact ⟨state, call, dispatchesFrom_iff.mpr ⟨calls, started, inside⟩,
          earlier, by rw [found]; rfl⟩
      · obtain ⟨others, batch, firstMember⟩ := dispatchesFrom_iff.mp firstCall
        obtain ⟨others', batch', secondMember⟩ := dispatchesFrom_iff.mp secondCall
        obtain ⟨-, rfl⟩ := batch.unique started same
        obtain ⟨-, rfl⟩ := batch'.unique started same
        exact (different (agree left (mem_recorded.mpr
          ⟨first, firstMember, firstValue⟩) right (mem_recorded.mpr
            ⟨second, secondMember, secondValue⟩))).elim
    · intro overtaken left leftMember right rightMember
      by_contra different
      obtain ⟨first, firstInside, firstValue⟩ := mem_recorded.mp leftMember
      obtain ⟨second, secondInside, secondValue⟩ := mem_recorded.mp rightMember
      obtain ⟨later, call, dispatches, behind, some⟩ := overtaken state first
        second left right (dispatchesFrom_iff.mpr ⟨calls, started, firstInside⟩)
        (dispatchesFrom_iff.mpr ⟨calls, started, secondInside⟩) firstValue
        secondValue different
      have bound := last later call dispatches (ended later call dispatches) some
      omega

end Recorded

/-- The deciding values of the log are those of the last batch that recorded
any. -/
theorem Reachable.recorded {config : Phase × RunState} (reached : Reachable setup envelope config) :
    Recorded setup envelope value config.2.passes (deciding value (completions config.2.log)) := by
  induction reached with
  | refl =>
    refine .nothing ?_
    intro state call _ early
    exact absurd early (Nat.not_lt_zero _)
  | tail before step holds =>
    cases step with
    | @spin state proceeds blocked busy =>
      refine holds.quiet ?_
      intro other call dispatches same
      obtain rfl := dispatches.reachable.idle_unique before same
      have member := dispatches.mem_batch
      simp [RunState.batch, blocked] at member
    | done => exact holds
    | @batch state dispatched calls proceeds available started =>
      have batch : BatchFrom setup envelope state calls := ⟨dispatched, before, proceeds, started⟩
      obtain ⟨-, -, rfl⟩ := RunState.dispatch_ok started
      dsimp only
      by_cases silent : (calls.filterMap (Call.completion setup)).filterMap value = []
      · rw [deciding_runCalls_nil silent]
        refine holds.quiet ?_
        intro other call dispatches same
        obtain ⟨others, batch', inside⟩ := dispatchesFrom_iff.mp dispatches
        obtain ⟨-, rfl⟩ := batch'.unique batch same
        cases found : (call.completion setup).bind value with
        | none => rfl
        | some recorded =>
          have member := mem_recorded.mpr ⟨call, inside, found⟩
          rw [silent] at member
          cases member
      · rw [deciding_runCalls silent]
        refine .batch batch (Nat.lt_succ_self _) silent ?_
        intro later call _ early _
        exact Nat.le_of_lt_succ early
    | @fold batchIds id result rest state following processed =>
      have same := processResult_passes setup batchIds state id result
      rw [processed] at same
      rw [RunState.processResult_next_log processed]
      exact same.symm ▸ holds

end

theorem decisive_iff_overtaken (finished : runInner setup envelope fuel = some result) :
    Decisive result.2.log ↔ Overtaken setup envelope succeededId ∧
      Overtaken setup envelope recordedOutput := by
  obtain ⟨config, reached, ends⟩ := runInner_ends finished
  have ended : ∀ state call, DispatchesFrom setup envelope state call →
      state.passes < config.2.passes := by
    intro state call started
    obtain ⟨rest, following, step, -⟩ := started.step
    rcases started.reachable.total reached with steps | steps
    · rcases steps.cases_head with equal | ⟨next, first, rest⟩
      · subst equal
        exact (ends.not_step step).elim
      · have counted := first.passes_idle
        have later := passes_mono rest
        omega
    · rcases steps.cases_head with equal | ⟨next, first, -⟩
      · subst equal
        exact (ends.not_step step).elim
      · exact (ends.not_step first).elim
  unfold Decisive
  rw [ends.log]
  exact and_congr (reached.recorded.agree_iff ended) (reached.recorded.agree_iff ended)

/-- A run that returned an outcome tells the client the same in every timing
exactly when different successes and different outputs of one batch are
overtaken. -/
theorem answer_timing_iff (run : HostRun) (outcome : ExecutionOutcome) (last : RunState)
    (finished : runInner run.setup run.scheduled.budgetEnvelope run.fuel =
      some (.ok outcome, last)) :
    (∀ first second : Timing, run.answer first = run.answer second) ↔
      Overtaken run.setup run.scheduled.budgetEnvelope succeededId ∧
        Overtaken run.setup run.scheduled.budgetEnvelope recordedOutput := by
  rw [← decisive_iff_overtaken finished]
  have told : ∀ timing, run.answer timing = some (.ok
      ((HostScheduler.result (HostScheduler.overlay run.scheduled outcome
        (track timing last.log)) outcome).answer run.runtime run.requestId run.model)) := by
    intro timing
    unfold HostRun.setup at finished
    simp [HostRun.answer, HostScheduler.runCrates, finished, Except.map]
  rw [← track_timing_iff]
  simp only [told]
  constructor
  · intro independent first second
    have same := Except.ok.inj (Option.some.inj (independent first second))
    have terminal := congrArg Answer.terminalNodeId same
    have output := congrArg Answer.finalOutput same
    cases tracked : track first last.log
    cases tracked' : track second last.log
    rw [tracked, tracked'] at terminal output
    rw [mk.injEq]
    exact ⟨terminal, output⟩
  · intro independent first second
    rw [independent first second]

/-- In each batch, calls complete in the opposite order. -/
def Timing.reversed : Timing :=
  ⟨fun batches => batches.map List.reverse, fun _ => List.forall₂_map_left_iff.mpr
      (List.forall₂_same.mpr (fun batch _ => List.reverse_perm batch))⟩

def modelOutput (node : ExecutionNode) (_ : Table Uuid Json) :
    NodeExecutionResult :=
  { state := .succeeded
    usage := none
    output := some (.string node.model) }

def sampleNode (id : Uuid) (model : String) : IRNode :=
  { plainNode id .generate with model := some model }

def sampleRun (edges : List IREdge) : HostRun :=
  { host :=
      { externals := acceptingExternals
        maxConcurrent := 4
        pricing := none }
    runtime := .sample acceptingExternals [1, 2]
    scheduled := HostScheduler.schedule 9 (compiledGraph sampleOptions
      (workflow [sampleNode 1 "first", sampleNode 2 "second"] edges)) 8
    executor := fun _ node context => modelOutput node context.parentOutputs
    cancel := none
    requestId := 7
    model := "auto"
    fuel := 10 }

theorem chain_answer_independent :
    ∃ outcome last, runInner (sampleRun [⟨1, 2, none⟩]).setup
          (sampleRun [⟨1, 2, none⟩]).scheduled.budgetEnvelope
          (sampleRun [⟨1, 2, none⟩]).fuel = some (.ok outcome, last) ∧
      ∀ first second : Timing, (sampleRun [⟨1, 2, none⟩]).answer first =
        (sampleRun [⟨1, 2, none⟩]).answer second := by
  have run : (runInner (sampleRun [⟨1, 2, none⟩]).setup
      (sampleRun [⟨1, 2, none⟩]).scheduled.budgetEnvelope
      (sampleRun [⟨1, 2, none⟩]).fuel).map (fun result => (result.1.isOk,
        (deciding succeededId (completions result.2.log)).length,
        (deciding recordedOutput (completions result.2.log)).length)) = some (true, 1, 1) := by
    decide
  obtain ⟨⟨returned, last⟩, finished, summary⟩ := Option.map_eq_some_iff.mp run
  obtain ⟨accepted, decisive⟩ := Prod.mk.inj summary
  obtain ⟨successes, outputs⟩ := Prod.mk.inj decisive
  cases returned with
  | error error => cases accepted
  | ok outcome =>
    refine ⟨outcome, last, finished, ?_⟩
    refine (answer_timing_iff _ outcome last finished).mpr
      ((decisive_iff_overtaken finished).mp ⟨?_, ?_⟩)
    · obtain ⟨id, only⟩ := List.length_eq_one_iff.mp successes
      simp [only]
    · obtain ⟨output, only⟩ := List.length_eq_one_iff.mp outputs
      simp [only]

/-- Two nodes without edges race for the answer. -/
theorem racing_sinks_answer :
    ¬ ∀ (run : HostRun) (answer : ExecutionNode → Table Uuid Json → NodeExecutionResult),
      Digraph.Acyclic run.scheduled.graph.Connected → LoopFree run.scheduled.graph →
      (∀ number node context, run.executor number node context =
          answer node context.parentOutputs) →
        ∀ first second : Timing, run.answer first = run.answer second := by
  intro independent
  have acyclic : Digraph.Acyclic (sampleRun []).scheduled.graph.Connected := by
    have without : (sampleRun []).scheduled.graph.edges = [] := by
      decide
    refine Digraph.acyclic_of_rank Fin.val ?_
    rintro left right ⟨edge, member, -, -⟩
    rw [without] at member
    cases member
  have loopFree : LoopFree (sampleRun []).scheduled.graph := by
    unfold LoopFree
    decide
  have same := independent (sampleRun []) modelOutput acyclic loopFree
    (fun _ _ _ => rfl) .inOrder .reversed
  have second : ((sampleRun []).answer .inOrder).bind (fun told =>
      told.toOption.bind (fun answer => answer.text.toOption)) = some "second" := by
    decide
  have first : ((sampleRun []).answer .reversed).bind (fun told =>
      told.toOption.bind (fun answer => answer.text.toOption)) = some "first" := by
    decide
  rw [same, first] at second
  revert second
  decide

end FusionRouter
