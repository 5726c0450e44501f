import FusionRouter.Scheduler.Steps

/-!
# The sequence of a run

The steps of a run are determined by its setup, so its configurations are
linearly ordered, the states between passes are told apart by the number of
passes, and a run that ended passed every state from which it dispatched.
-/

namespace FusionRouter

open Relation RunState

variable {envelope : Option BudgetEnvelope}

/-- The step of a run, computed. -/
def advance (setup : RunSetup) : Phase × RunState → Option (Phase × RunState)
  | (.idle, state) =>
    if state.cancelled setup || state.queue.isDone setup.index state.nodeStates then none
    else if state.queue.getReady setup.index state.nodeStates = [] then
      if state.queue.anyInProgress then some (.idle, state.entered) else none
    else
      match dispatch setup (state.batch setup) state.entered with
      | .error _ => none
      | .ok (calls, dispatched) =>
        some (.folding (state.batch setup) (calls.map (Call.result setup)),
          runCalls setup calls dispatched)
  | (.folding batchIds ((id, result) :: rest), state) =>
    match processResult setup batchIds state id result with
    | .next following => some (.folding batchIds rest, following)
    | _ => none
  | (.folding _ [], state) => some (.idle, state)

theorem Step.advance (step : Step setup config next) :
    FusionRouter.advance setup config = some next := by
  cases step with
  | spin proceeds blocked busy =>
    simp [FusionRouter.advance, proceeds.1, proceeds.2, blocked, busy]
  | batch proceeds available started =>
    simp [FusionRouter.advance, proceeds.1, proceeds.2, available, started]
  | fold processed => simp [FusionRouter.advance, processed]
  | done => rfl

theorem step_of_advance (advanced : FusionRouter.advance setup config = some next) :
    Step setup config next := by
  obtain ⟨phase, state⟩ := config
  cases phase with
  | idle =>
    simp only [FusionRouter.advance] at advanced
    split at advanced
    · cases advanced
    next going =>
      rw [Bool.or_eq_true, not_or, Bool.not_eq_true, Bool.not_eq_true] at going
      split at advanced
      next blocked =>
        split at advanced
        next busy =>
          cases advanced
          exact .spin going blocked busy
        · cases advanced
      next available =>
        split at advanced
        · cases advanced
        next started =>
          cases advanced
          exact .batch going available started
  | folding batchIds rest =>
    cases rest with
    | nil =>
      cases advanced
      exact .done
    | cons first rest =>
      obtain ⟨id, result⟩ := first
      simp only [FusionRouter.advance] at advanced
      split at advanced
      next processed =>
        cases advanced
        exact .fold processed
      · cases advanced

theorem Step.deterministic (left : Step setup config first)
    (right : Step setup config second) : first = second :=
  Option.some.inj (left.advance.symm.trans right.advance)

theorem Reachable.checked (reached : Reachable setup envelope config)
    (check : Phase × RunState → Bool) (fuel : Nat)
    (checked : Loop.checks (advance setup) check fuel (.idle, setup.initial
      envelope) = true) : check config = true := by
  have computes : ∀ first second, Step setup first second →
      advance setup first = some second := fun _ _ step => step.advance
  exact Loop.checks_sound computes checked reached

theorem Ends.not_step (ends : Ends setup config result) (step : Step setup config next) :
    False := by
  cases ends with
  | cancelled seen =>
    cases step with
    | spin proceeds | batch proceeds => simp [proceeds.1] at seen
  | finished _ done =>
    cases step with
    | spin proceeds | batch proceeds => simp [proceeds.2] at done
  | stuck _ blocked free =>
    cases step with
    | spin _ _ busy => simp [free] at busy
    | batch _ available => exact available blocked
  | desync failed =>
    cases step with
    | spin _ blocked => simp [RunState.batch, blocked, dispatch] at failed
    | batch _ _ started => simp [started] at failed
  | left processed | breached processed | aborted processed =>
    cases step with
    | fold processed' => simp [processed] at processed'

theorem RunState.Settles.passes {id : Uuid} {result : NodeExecutionResult}
    (settles : Settles setup state id result flow) : flow.state.passes = state.passes := by
  cases settles <;> rfl

theorem processResult_passes (setup : RunSetup) (batchIds : List Uuid)
    (state : RunState) (id : Uuid) (result : NodeExecutionResult) :
    (processResult setup batchIds state id result).state.passes =
      state.passes := by
  have charged : (state.charged setup id result).passes = state.passes := by
    unfold RunState.charged
    split
    · rfl
    · unfold charge
      dsimp only
      split <;> rfl
  rw [processResult_eq]
  split
  · exact charged
  · exact (settle_settles setup _ id result).passes.trans charged

/-- Each pass is counted when it starts. -/
theorem Step.passes_idle (step : Step setup (.idle, state) next) :
    next.2.passes = state.passes + 1 := by
  cases step with
  | spin => rfl
  | batch _ _ started =>
    obtain ⟨-, -, rfl⟩ := dispatch_ok started
    rfl

theorem Step.passes_le (step : Step setup config next) : config.2.passes ≤ next.2.passes := by
  cases step with
  | spin => exact Nat.le_succ _
  | batch proceeds available started =>
    exact (Step.batch proceeds available started).passes_idle ▸ Nat.le_succ _
  | @fold batchIds id result rest state following processed =>
    have same := processResult_passes setup batchIds state id result
    rw [processed] at same
    exact same.ge
  | done => exact le_rfl

theorem passes_mono (steps : ReflTransGen (Step setup) config later) :
    config.2.passes ≤ later.2.passes := by
  induction steps with
  | refl => exact le_rfl
  | tail _ step ih => exact ih.trans step.passes_le

/-- Two configurations of a run are one behind the other. -/
theorem Reachable.total (left : Reachable setup envelope first)
    (right : Reachable setup envelope second) :
    ReflTransGen (Step setup) first second ∨ ReflTransGen (Step setup) second first :=
  ReflTransGen.total_of_right_unique (fun _ _ _ => Step.deterministic) left right

theorem Ends.config_unique (ends : Ends setup first result)
    (left : Reachable setup envelope first) (stops : Ends setup second other)
    (right : Reachable setup envelope second) : first = second := by
  rcases left.total right with steps | steps
  · rcases ReflTransGen.cases_head steps with same | ⟨next, step, -⟩
    · exact same
    · exact (ends.not_step step).elim
  · rcases ReflTransGen.cases_head steps with same | ⟨next, step, -⟩
    · exact same.symm
    · exact (stops.not_step step).elim

theorem Reachable.idle_unique {first second : RunState}
    (left : Reachable setup envelope (.idle, first))
    (right : Reachable setup envelope (.idle, second))
    (same : first.passes = second.passes) : first = second := by
  have forward : ∀ {early late : RunState}, early.passes = late.passes →
      ReflTransGen (Step setup) (.idle, early) (.idle, late) → early = late := by
    intro early late same steps
    rcases ReflTransGen.cases_head steps with equal | ⟨next, step, rest⟩
    · exact congrArg Prod.snd equal
    · have counted := step.passes_idle
      have later := passes_mono rest
      simp only at later
      omega
  rcases left.total right with steps | steps
  · exact forward same steps
  · exact (forward same.symm steps).symm

/-- From this state the run hands these calls to the executor. -/
def BatchFrom (setup : RunSetup) (envelope : Option BudgetEnvelope)
    (state : RunState) (calls : List Call) : Prop :=
  ∃ dispatched, Reachable setup envelope (.idle, state) ∧ Proceeds setup state ∧
    dispatch setup (state.batch setup) state.entered = .ok (calls, dispatched)

theorem dispatchesFrom_iff :
    DispatchesFrom setup envelope state call ↔
      ∃ calls, BatchFrom setup envelope state calls ∧ call ∈ calls := by
  constructor
  · rintro ⟨calls, dispatched, reached, proceeds, started, member⟩
    exact ⟨calls, ⟨dispatched, reached, proceeds, started⟩, member⟩
  · rintro ⟨calls, ⟨dispatched, reached, proceeds, started⟩, member⟩
    exact ⟨calls, dispatched, reached, proceeds, started, member⟩

/-- The batch of a pass is determined by the number of passes before it. -/
theorem BatchFrom.unique {first second : RunState} {calls others : List Call}
    (left : BatchFrom setup envelope first calls) (right : BatchFrom setup envelope second others)
    (same : first.passes = second.passes) : first = second ∧ calls = others := by
  obtain ⟨dispatched, reached, -, started⟩ := left
  obtain ⟨dispatched', reached', -, started'⟩ := right
  obtain rfl := reached.idle_unique reached' same
  rw [started] at started'
  cases started'
  exact ⟨rfl, rfl⟩

theorem DispatchesFrom.step (started : DispatchesFrom setup envelope state call) :
    ∃ rest following, Step setup (.idle, state) (.folding (state.batch setup) rest, following) ∧
      call.result setup ∈ rest := by
  have member := started.mem_batch
  obtain ⟨calls, dispatched, -, proceeds, passed, inside⟩ := started
  have available : state.queue.getReady setup.index state.nodeStates ≠ [] := by
    intro blocked
    simp [RunState.batch, blocked] at member
  exact ⟨_, _, .batch proceeds available passed, List.mem_map.mpr ⟨call, inside, rfl⟩⟩

end FusionRouter
