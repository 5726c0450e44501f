import FusionRouter.AgentState.RunnerBudget

/-!
# Reasoning is not sent back

The reasoning of a reply ends in the log, and of the log a runner only reads
the length.  So erasing all reasoning commutes with every step, and what two
models are sent is the same where their replies differ only in reasoning.
-/

namespace FusionRouter

open List

namespace AgentState

/-! ## Erasure -/

/-- A reply without its reasoning. -/
def AgentStep.plain (step : AgentStep) : AgentStep :=
  { step with reasoning := none }

namespace Host

def plain (host : Host) : Host :=
  { host with llm := fun asked request =>
      (host.llm asked request).map AgentStep.plain }

/-- Two hosts whose replies agree but for their reasoning. -/
structure AgreesWith (host other : Host) : Prop where
  llm : ∀ asked request, (host.llm asked request).map AgentStep.plain =
      (other.llm asked request).map AgentStep.plain
  tools : host.tools = other.tools

theorem AgreesWith.plain_eq {host other : Host}
    (agrees : host.AgreesWith other) : host.plain = other.plain := by
  have llm : host.plain.llm = other.plain.llm := by
    funext asked request
    exact agrees.llm asked request
  obtain ⟨_, _⟩ := host
  obtain ⟨_, _⟩ := other
  exact congrArg₂ Host.mk llm agrees.tools

end Host

def EventLogEntry.plain (entry : EventLogEntry) : EventLogEntry :=
  { entry with reasoning := none }

def EventLog.plain (log : EventLog) : EventLog :=
  { log with entries := log.entries.map EventLogEntry.plain }

theorem EventLog.plain_push (log : EventLog) (entry : EventLogEntry) :
    (log.push entry).plain = log.plain.push entry.plain := by
  obtain ⟨entries, _ | most⟩ := log
  · simp [EventLog.push, EventLog.plain]
  · simp [EventLog.push, EventLog.plain, map_drop]

def CommittedTransition.plain (committed : CommittedTransition) :
    CommittedTransition :=
  { committed with reasoning := none }

def AgentEffect.plain : AgentEffect → AgentEffect
  | .asked request reply => .asked request (reply.map AgentStep.plain)
  | .committed patch result => .committed patch result
  | .executed action result => .executed action result

def AgentEffect.request : AgentEffect → Option ChatRequest
  | .asked request _ => some request
  | _ => none

def StepReport.plain (report : StepReport) : StepReport :=
  { report with effects := report.effects.map AgentEffect.plain }

namespace HostedRunner

variable {σ : Type}

def plain (hosted : HostedRunner σ) : HostedRunner σ :=
  { hosted with runner := { hosted.runner with
      log := hosted.runner.log.plain } }

variable (host : Host) (store : StateStore σ) (hosted : HostedRunner σ)
  (input : StepInput) (request : ChatRequest)

/-! ## Erasure commutes with a step -/

theorem length_plain :
    hosted.plain.runner.log.entries.length =
      hosted.runner.log.entries.length :=
  length_map _

theorem plain_logged (entry : EventLogEntry) :
    (hosted.logged entry).plain = hosted.plain.logged entry.plain := by
  simp only [plain, logged, EventLog.plain_push]

theorem entry_plain (prev : ExecutionState) (step : AgentStep)
    (committed : CommittedTransition) (observation : JsonValue) :
    hosted.plain.runner.entry prev step.plain committed.plain observation =
      (hosted.runner.entry prev step committed observation).plain := by
  unfold AgentRunner.entry
  rw [length_plain]
  rfl

theorem act_plain (step : AgentStep) (prev : ExecutionState) (committed : CommittedTransition) :
    act host.plain hosted.plain input request step.plain prev committed.plain =
      ((act host hosted input request step prev committed).1.plain,
        (act host hosted input request step prev committed).2.plain) := by
  have config : hosted.plain.runner.config = hosted.runner.config := rfl
  have predicted : hosted.plain.runner.predicted request = hosted.runner.predicted request := rfl
  have charged : hosted.plain.runner.charged request committed.plain.usage =
      hosted.runner.charged request committed.usage := rfl
  have tools : host.plain.tools hosted.plain.actions committed.plain.action =
      host.tools hosted.actions committed.action := rfl
  unfold act
  simp only [entry_plain, length_plain, config, predicted, charged, tools]
  split
  · rw [plain_logged]
    rfl
  · split
    · rfl
    · split
      · rfl
      · split
        · rfl
        · rw [plain_logged]
          rfl

theorem settle_plain (step : AgentStep) :
    settle host.plain store hosted.plain input request step.plain =
      ((settle host store hosted input request step).1.plain,
        (settle host store hosted input request step).2.plain) := by
  have same : hosted.plain.runner.store = hosted.runner.store := rfl
  unfold settle
  rw [same]
  split
  · rfl
  · cases loaded : store.load hosted.runner.store with
    | none => rfl
    | some prev =>
      rw [applyTransition_eq loaded, applyTransition_eq loaded]
      have patch : step.plain.patch = step.patch := rfl
      rw [patch]
      rcases store.commit hosted.runner.store step.patch with ⟨error | nextState, next⟩
      · rfl
      · have acted := act_plain host (hosted.withStore next) input request step prev
          { prevState := prev
            nextState := nextState
            action := step.action
            reasoning := step.reasoning
            usage := step.usage }
        exact congrArg (fun acted : StepReport × HostedRunner σ =>
          (StepReport.mk (.committed step.patch (.ok nextState) ::
            acted.1.effects) acted.1.result, acted.2)) acted

theorem step_plain :
    step host.plain store hosted.plain input =
      ((step host store hosted input).1.plain, (step host store hosted input).2.plain) := by
  have llm : ∀ request, host.plain.llm hosted.plain.requests request =
      (host.llm hosted.requests request).map AgentStep.plain := fun _ => rfl
  have admits : hosted.plain.runner.admits store input = hosted.runner.admits store input := by
    unfold AgentRunner.admits
    rw [length_plain]
    rfl
  unfold step
  rw [admits]
  cases hosted.runner.admits store input with
  | error failure => rfl
  | ok request =>
    dsimp only
    rw [llm]
    cases host.llm hosted.requests request with
    | error message => rfl
    | ok step =>
      have settled := settle_plain host store hosted.afterRequest input request step
      exact congrArg (fun settled : StepReport × HostedRunner σ =>
        (StepReport.mk (.asked request (.ok step.plain) ::
          settled.1.effects) settled.1.result, settled.2)) settled

/-! ## And with whole runs -/

def plainSteps (made : List (HostedRunner σ × StepInput)) : List (HostedRunner σ × StepInput) :=
  made.map (fun one => (one.1.plain, one.2))

theorem rounds_plain (isDone : ExecutionState → Observation → Bool)
    (left : Nat) (observation : Observation) (token : Option CancellationToken) :
    rounds host.plain store isDone left hosted.plain observation token =
      { steps := plainSteps
          (rounds host store isDone left hosted observation token).steps
        result := (rounds host store isDone left hosted observation token).result
        hosted := (rounds host store isDone left hosted observation token).hosted.plain } := by
  have same : ∀ hosted : HostedRunner σ,
      hosted.plain.runner.store = hosted.runner.store := fun _ => rfl
  induction left generalizing hosted observation token with
  | zero => rfl
  | succ left induction =>
    rw [rounds, rounds, same]
    split
    · rfl
    · split
      · rfl
      · split
        · rfl
        · rw [step_plain]
          have result : (step host store hosted (roundInput observation token)).1.plain.result =
                (step host store hosted (roundInput observation token)).1.result := rfl
          rw [result]
          split
          · rfl
          · rw [induction]
            rfl

theorem perform_plain (call : RunnerCall) :
    perform host.plain store hosted.plain call =
      (plainSteps (perform host store hosted call).1,
        (perform host store hosted call).2.plain) := by
  cases call with
  | step input =>
    simp only [perform, step_plain, plainSteps, map_cons, map_nil]
  | runUntil observation isDone token =>
    have config : hosted.plain.runner.config = hosted.runner.config := rfl
    simp only [perform, config, rounds_plain]

theorem stepsOf_plain (calls : List RunnerCall) :
    stepsOf host.plain store hosted.plain calls = plainSteps (stepsOf host store hosted calls) := by
  induction calls generalizing hosted with
  | nil => rfl
  | cons call calls induction =>
    rw [stepsOf, stepsOf, perform_plain, induction]
    exact (map_append ..).symm

def requestsOf (made : List (HostedRunner σ × StepInput)) : List ChatRequest :=
  (effectsOf host store made).filterMap AgentEffect.request

theorem requestsOf_plain (made : List (HostedRunner σ × StepInput)) :
    requestsOf host.plain store (plainSteps made) = requestsOf host store made := by
  induction made with
  | nil => rfl
  | cons one made induction =>
    unfold requestsOf at induction ⊢
    have erased : AgentEffect.request ∘ AgentEffect.plain =
        AgentEffect.request := by
      funext effect
      cases effect <;> rfl
    rw [plainSteps, map_cons, effectsOf_cons, effectsOf_cons,
      filterMap_append, filterMap_append, step_plain, StepReport.plain, filterMap_map, erased]
    exact congrArg _ induction

/-- Two models whose replies differ only in reasoning are sent the same
requests, whatever is called. -/
theorem reasoning_not_sent (host other : Host) (agrees : host.AgreesWith other)
    (store : StateStore σ) (hosted : HostedRunner σ) (calls : List RunnerCall) :
    requestsOf host store (stepsOf host store hosted calls) =
      requestsOf other store (stepsOf other store hosted calls) := by
  rw [← requestsOf_plain host, ← requestsOf_plain other, ← stepsOf_plain,
    ← stepsOf_plain, agrees.plain_eq]

end HostedRunner

namespace ReasoningSample

open RunnerSample

/-- A model that also says why. -/
def talkative : Host :=
  { llm := fun _ _ => .ok { proposal with reasoning := some "one more" }
    tools := fun _ _ => .ok observation }

def silent : Host :=
  host (.ok observation)

/-- A runner with two steps to take. -/
def begin : HostedRunner InMemoryStateStore :=
  .new (.new StoreSample.skill { skill := StoreSample.skill, state := StoreSample.initial }
    { config with maxSteps := 2 })

def calls : List RunnerCall :=
  [.step input, .step input]

theorem talkative_agrees : talkative.AgreesWith silent where
  llm _ _ := rfl
  tools := rfl

/-- The second request follows on a reply with reasoning. -/
theorem talkative_sent_same :
    (HostedRunner.requestsOf talkative InMemoryStateStore.asStore
        (HostedRunner.stepsOf talkative InMemoryStateStore.asStore begin calls)).length = 2 ∧
      HostedRunner.requestsOf talkative InMemoryStateStore.asStore
          (HostedRunner.stepsOf talkative InMemoryStateStore.asStore begin calls) =
        HostedRunner.requestsOf silent InMemoryStateStore.asStore
          (HostedRunner.stepsOf silent InMemoryStateStore.asStore begin calls) :=
  ⟨rfl, HostedRunner.reasoning_not_sent talkative silent talkative_agrees
    InMemoryStateStore.asStore begin calls⟩

end ReasoningSample

end AgentState

end FusionRouter
