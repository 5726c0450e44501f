import FusionRouter.AgentState.Store

/-!
# The agent runner

One step asks the model, commits its patch, runs its action and writes the
event log.  The host answers the requests and actions one after another; a
cancellation token is seen only where the runner looks at it.
-/

namespace FusionRouter

namespace AgentState

structure Observation where
  value : JsonValue

structure AgentAction where
  raw : String
  tool : Option String
  arguments : JsonValue

structure Usage where
  promptTokens : Nat
  completionTokens : Nat
  totalTokens : Nat
deriving DecidableEq

structure AgentStep where
  reasoning : Option String
  patch : StatePatch
  action : AgentAction
  usage : Option Usage

structure ChatMessage where
  role : String
  content : String
deriving DecidableEq

structure ChatRequest where
  model : String
  messages : List ChatMessage
deriving DecidableEq

def buildModelInput (skill : SkillSpec) (state : ExecutionState)
    (observation : Observation) (model : String) : ChatRequest :=
  let obsJson :=
    match observation.value.json with
    | .string text => text
    | _ => observation.value.toText
  { model := model
    messages :=
      [{ role := "system", content := skill.instructions },
        { role := "user"
          content := "Skill Execution State:\n```json\n" ++ state.value.toText ++ "\n```" },
        { role := "user", content := "Latest Observation:\n" ++ obsJson }] }

def estimateTokens (text : String) : Nat :=
  (text.utf8ByteSize + 3) / 4

def tokensForRequest (request : ChatRequest) : Nat :=
  (request.messages.map (fun message =>
    estimateTokens message.role + estimateTokens message.content)).sum

structure EventLogEntry where
  step : Nat
  prevState : JsonValue
  patch : JsonValue
  nextState : JsonValue
  action : String
  observation : JsonValue
  reasoning : Option String

structure EventLog where
  entries : List EventLogEntry
  maxEntries : Option Nat

def EventLog.new : EventLog :=
  { entries := [], maxEntries := none }

/-- The oldest entries are dropped where there are too many. -/
def EventLog.push (log : EventLog) (entry : EventLogEntry) : EventLog :=
  let entries := log.entries ++ [entry]
  match log.maxEntries with
  | none => { log with entries := entries }
  | some most => { log with entries := entries.drop (entries.length - most) }

structure CommittedTransition where
  prevState : ExecutionState
  nextState : ExecutionState
  action : AgentAction
  reasoning : Option String
  usage : Option Usage

/-- `apply_transition`; there is no result where the load panics. -/
def applyTransition {σ : Type} (store : StateStore σ) (state : σ)
    (step : AgentStep) : Option (Except StateError CommittedTransition × σ) :=
  match store.load state with
  | none => none
  | some prev =>
    match store.commit state step.patch with
    | (.error error, next) => some (.error error, next)
    | (.ok nextState, next) =>
      some (.ok { prevState := prev
                  nextState := nextState
                  action := step.action
                  reasoning := step.reasoning
                  usage := step.usage }, next)

structure RunnerConfig where
  maxSteps : Nat
  model : String
  maxTokens : Option Nat

structure StepOutcome where
  t : Nat
  committedState : ExecutionState
  observation : Observation
  totalTokens : Nat

structure AgentRunner (σ : Type) where
  skill : SkillSpec
  store : σ
  log : EventLog
  config : RunnerConfig
  totalTokens : Nat

def AgentRunner.new {σ : Type} (skill : SkillSpec) (store : σ)
    (config : RunnerConfig) : AgentRunner σ :=
  { skill := skill
    store := store
    log := EventLog.new
    config := config
    totalTokens := 0 }

/-- What the model and the tools answer, given how often each has been called
before. -/
structure Host where
  llm : Nat → ChatRequest → Except String AgentStep
  tools : Nat → AgentAction → Except String Observation

/-- What a token shows at each look.  Once cancelled it stays so. -/
structure CancellationToken where
  cancelledAt : Nat → Bool
  stays : ∀ check later, check ≤ later → cancelledAt check = true → cancelledAt later = true

namespace CancellationToken

/-- The token as it is seen from a later look on. -/
def later (token : CancellationToken) (checks : Nat) : CancellationToken :=
  { cancelledAt := fun check => token.cancelledAt (checks + check)
    stays := fun check later below =>
      token.stays (checks + check) (checks + later) (by omega) }

end CancellationToken

def isCancelled (token : Option CancellationToken) (check : Nat) : Bool :=
  token.any (fun token => token.cancelledAt check)

structure StepInput where
  observation : Observation
  cancellation : Option CancellationToken

/-- A runner and how often its host has been called. -/
structure HostedRunner (σ : Type) where
  runner : AgentRunner σ
  requests : Nat
  actions : Nat

inductive AgentEffect where
  | asked (request : ChatRequest) (reply : Except String AgentStep)
  | committed (patch : StatePatch) (result : Except StateError ExecutionState)
  | executed (action : AgentAction) (result : Except String Observation)

/-- How a call ends that does not return a result. -/
inductive Failure where
  | error (message : String)
  | panicked

structure StepReport where
  effects : List AgentEffect
  result : Except Failure StepOutcome

/-- The ceiling that a number of tokens is above. -/
def RunnerConfig.exceeded (config : RunnerConfig) (tokens : Nat) : Option Nat :=
  config.maxTokens.filter (fun most => most < tokens)

namespace AgentRunner

variable {σ : Type}

/-- The tokens that the check before the tool reckons with. -/
def predicted (runner : AgentRunner σ) (request : ChatRequest) : Nat :=
  saturatingAdd (saturatingAdd runner.totalTokens (tokensForRequest request)) 12

def outputTokens (usage : Option Usage) : Nat :=
  (usage.map Usage.completionTokens).getD 12

/-- The total once the tokens of a step are added. -/
def charged (runner : AgentRunner σ) (request : ChatRequest) (usage : Option Usage) : Nat :=
  saturatingAdd runner.totalTokens (saturatingAdd (tokensForRequest request) (outputTokens usage))

def entry (runner : AgentRunner σ) (prev : ExecutionState) (step : AgentStep)
    (committed : CommittedTransition) (observation : JsonValue) :
    EventLogEntry :=
  { step := runner.log.entries.length + 1
    prevState := prev.value
    patch := step.patch.value
    nextState := committed.nextState.value
    action := committed.action.raw
    observation := observation
    reasoning := committed.reasoning }

/-- What a step checks before it asks the model. -/
def admits (store : StateStore σ) (runner : AgentRunner σ) (input : StepInput) :
    Except Failure ChatRequest :=
  if isCancelled input.cancellation 0 then .error (.error "cancelled")
  else if runner.config.maxSteps < runner.log.entries.length + 1 then
    .error (.error ("max_steps " ++ toString runner.config.maxSteps ++ " exceeded"))
  else
    match store.load runner.store with
    | none => .error .panicked
    | some state =>
      .ok (buildModelInput runner.skill state input.observation runner.config.model)

end AgentRunner

theorem cancelledNote_wellFormed :
    (Json.object [("before_tool", .bool true), ("cancelled", .bool true)]).WellFormed := by
  refine .object (by decide) ?_
  intro entry member
  rcases List.mem_cons.mp member with rfl | member
  · exact .bool true
  · rw [List.mem_singleton.mp member]
    exact .bool true

/-- The observation that is logged where the tool has been cancelled. -/
def cancelledNote : JsonValue :=
  ⟨.object [("before_tool", .bool true), ("cancelled", .bool true)], cancelledNote_wellFormed⟩

namespace HostedRunner

variable {σ : Type}

def new (runner : AgentRunner σ) : HostedRunner σ :=
  { runner := runner, requests := 0, actions := 0 }

variable (hosted : HostedRunner σ)

/-- The model has been asked. -/
def afterRequest : HostedRunner σ :=
  { hosted with requests := hosted.requests + 1 }

def withStore (store : σ) : HostedRunner σ :=
  { hosted with runner := { hosted.runner with store := store } }

def afterAction : HostedRunner σ :=
  { hosted with actions := hosted.actions + 1 }

def withTotal (total : Nat) : HostedRunner σ :=
  { hosted with runner := { hosted.runner with totalTokens := total } }

def logged (entry : EventLogEntry) : HostedRunner σ :=
  { hosted with runner := { hosted.runner with
      log := hosted.runner.log.push entry } }

/-- A step after its commit: the action is executed, charged and logged. -/
def act (host : Host) (hosted : HostedRunner σ) (input : StepInput)
    (request : ChatRequest) (step : AgentStep) (prev : ExecutionState)
    (committed : CommittedTransition) : StepReport × HostedRunner σ :=
  let runner := hosted.runner
  if isCancelled input.cancellation 2 then
    (⟨[], .error (.error "cancelled before tool execution")⟩,
      hosted.logged (runner.entry prev step committed cancelledNote))
  else
    match runner.config.exceeded (runner.predicted request) with
    | some most =>
      (⟨[], .error (.error ("token budget " ++ toString most ++
        " would exceed: predicted " ++ toString (runner.predicted request) ++ " > max"))⟩, hosted)
    | none =>
      match host.tools hosted.actions committed.action with
      | .error message =>
        (⟨[.executed committed.action (.error message)],
          .error (.error message)⟩, hosted.afterAction)
      | .ok observation =>
        let total := runner.charged request committed.usage
        let acted := hosted.afterAction.withTotal total
        match runner.config.exceeded total with
        | some most =>
          (⟨[.executed committed.action (.ok observation)],
            .error (.error ("token budget " ++ toString most ++
              " exceeded: " ++ toString total))⟩, acted)
        | none =>
          (⟨[.executed committed.action (.ok observation)],
            .ok { t := runner.log.entries.length + 1
                  committedState := committed.nextState
                  observation := observation
                  totalTokens := total }⟩,
            acted.logged (runner.entry prev step committed observation.value))

/-- A step once the model has proposed a transition. -/
def settle (host : Host) (store : StateStore σ) (hosted : HostedRunner σ)
    (input : StepInput) (request : ChatRequest) (step : AgentStep) : StepReport × HostedRunner σ :=
  if isCancelled input.cancellation 1 then
    (⟨[], .error (.error "cancelled before commit")⟩, hosted)
  else
    match store.load hosted.runner.store with
    | none => (⟨[], .error .panicked⟩, hosted)
    | some prev =>
      match applyTransition store hosted.runner.store step with
      | none => (⟨[], .error .panicked⟩, hosted)
      | some (.error error, next) =>
        (⟨[.committed step.patch (.error error)],
          .error (.error error.text)⟩, hosted.withStore next)
      | some (.ok committed, next) =>
        let acted := act host (hosted.withStore next) input request step prev committed
        (⟨.committed step.patch (.ok committed.nextState) ::
          acted.1.effects, acted.1.result⟩, acted.2)

def step (host : Host) (store : StateStore σ) (hosted : HostedRunner σ)
    (input : StepInput) : StepReport × HostedRunner σ :=
  match hosted.runner.admits store input with
  | .error failure => (⟨[], .error failure⟩, hosted)
  | .ok request =>
    match host.llm hosted.requests request with
    | .error message =>
      (⟨[.asked request (.error message)], .error (.error message)⟩, hosted.afterRequest)
    | .ok step =>
      let settled := settle host store hosted.afterRequest input request step
      (⟨.asked request (.ok step) :: settled.1.effects, settled.1.result⟩, settled.2)

end HostedRunner

/-- A call of `run_until`: the steps that it makes, each with the runner it
meets, its result and the runner it leaves. -/
structure RunReport (σ : Type) where
  steps : List (HostedRunner σ × StepInput)
  result : Except Failure ExecutionState
  hosted : HostedRunner σ

inductive RunnerCall where
  | step (input : StepInput)
  | runUntil (observation : Observation) (isDone : ExecutionState → Observation → Bool)
      (cancellation : Option CancellationToken)

namespace HostedRunner

variable {σ : Type}

def roundInput (observation : Observation) (token : Option CancellationToken) :
    StepInput :=
  { observation := observation
    cancellation := token.map (fun token => token.later 1) }

/-- The loop of `run_until`, with the rounds that are left.  A round looks at
the token once and its step three times. -/
def rounds (host : Host) (store : StateStore σ) (isDone : ExecutionState → Observation → Bool) :
    Nat → HostedRunner σ → Observation → Option CancellationToken → RunReport σ
  | 0, hosted, _, _ =>
    { steps := []
      result := .error (.error "run_until: max_steps reached without done")
      hosted := hosted }
  | left + 1, hosted, observation, token =>
    if isCancelled token 0 then
      { steps := [], result := .error (.error "cancelled"), hosted := hosted }
    else
      match store.load hosted.runner.store with
      | none =>
        { steps := [], result := .error .panicked, hosted := hosted }
      | some state =>
        if isDone state observation then
          { steps := [], result := .ok state, hosted := hosted }
        else
          match (step host store hosted (roundInput observation token)).1.result with
          | .error failure =>
            { steps := [(hosted, roundInput observation token)]
              result := .error failure
              hosted := (step host store hosted (roundInput observation token)).2 }
          | .ok outcome =>
            let rest := rounds host store isDone left
              (step host store hosted (roundInput observation token)).2 outcome.observation
              (token.map (fun token => token.later 4))
            { rest with
              steps := (hosted, roundInput observation token) :: rest.steps }

def perform (host : Host) (store : StateStore σ) (hosted : HostedRunner σ) :
    RunnerCall → List (HostedRunner σ × StepInput) × HostedRunner σ
  | .step input => ([(hosted, input)], (step host store hosted input).2)
  | .runUntil observation isDone token =>
    let report := rounds host store isDone hosted.runner.config.maxSteps hosted observation token
    (report.steps, report.hosted)

def stepsOf (host : Host) (store : StateStore σ) :
    HostedRunner σ → List RunnerCall → List (HostedRunner σ × StepInput)
  | _, [] => []
  | hosted, call :: calls =>
    (perform host store hosted call).1 ++
      stepsOf host store (perform host store hosted call).2 calls

section Exits

variable (host : Host) (store : StateStore σ) (hosted : HostedRunner σ)
  (input : StepInput)

/-- The step gets as far as to commit what the model proposes. -/
structure Proposes (request : ChatRequest) (step : AgentStep) (prev : ExecutionState) : Prop where
  admitted : hosted.runner.admits store input = .ok request
  replied : host.llm hosted.requests request = .ok step
  continues : isCancelled input.cancellation 1 = false
  loaded : store.load hosted.runner.store = some prev

structure Commits (request : ChatRequest) (step : AgentStep)
    (prev nextState : ExecutionState) (next : σ) : Prop
    extends Proposes host store hosted input request step prev where
  commit : store.commit hosted.runner.store step.patch = (.ok nextState, next)

/-- The step gets as far as to execute the action. -/
structure Acts (request : ChatRequest) (step : AgentStep)
    (prev nextState : ExecutionState) (next : σ) : Prop
    extends Commits host store hosted input request step prev nextState
      next where
  proceeds : isCancelled input.cancellation 2 = false
  affordable : hosted.runner.config.exceeded (hosted.runner.predicted request) = none

end Exits

def entryOf (hosted : HostedRunner σ) (step : AgentStep)
    (prev nextState : ExecutionState) (observation : JsonValue) :
    EventLogEntry :=
  { step := hosted.runner.log.entries.length + 1
    prevState := prev.value
    patch := step.patch.value
    nextState := nextState.value
    action := step.action.raw
    observation := observation
    reasoning := step.reasoning }

/-- The ways in which a step can end, with what it has done by then. -/
inductive Exit (host : Host) (store : StateStore σ) (hosted : HostedRunner σ)
    (input : StepInput) : StepReport → HostedRunner σ → Prop where
  | refused {failure : Failure} (stopped : hosted.runner.admits store input = .error failure) :
      Exit host store hosted input ⟨[], .error failure⟩ hosted
  | unanswered {request : ChatRequest} {message : String}
      (admitted : hosted.runner.admits store input = .ok request)
      (failed : host.llm hosted.requests request = .error message) :
      Exit host store hosted input ⟨[.asked request (.error message)], .error (.error message)⟩
        hosted.afterRequest
  | withdrawn {request : ChatRequest} {step : AgentStep}
      (admitted : hosted.runner.admits store input = .ok request)
      (replied : host.llm hosted.requests request = .ok step)
      (cancelled : isCancelled input.cancellation 1 = true) :
      Exit host store hosted input
        ⟨[.asked request (.ok step)], .error (.error "cancelled before commit")⟩ hosted.afterRequest
  | rejected {request : ChatRequest} {step : AgentStep} {prev : ExecutionState}
      {error : StateError} {next : σ}
      (proposes : Proposes host store hosted input request step prev)
      (commit : store.commit hosted.runner.store step.patch = (.error error, next)) :
      Exit host store hosted input
        ⟨[.asked request (.ok step), .committed step.patch (.error error)],
          .error (.error error.text)⟩ (hosted.afterRequest.withStore next)
  | interrupted {request : ChatRequest} {step : AgentStep}
      {prev nextState : ExecutionState} {next : σ}
      (commits : Commits host store hosted input request step prev nextState next)
      (cancelled : isCancelled input.cancellation 2 = true) :
      Exit host store hosted input
        ⟨[.asked request (.ok step), .committed step.patch (.ok nextState)],
          .error (.error "cancelled before tool execution")⟩
        ((hosted.afterRequest.withStore next).logged
          (hosted.entryOf step prev nextState cancelledNote))
  | overdrawn {request : ChatRequest} {step : AgentStep}
      {prev nextState : ExecutionState} {next : σ} {most : Nat} {message : String}
      (commits : Commits host store hosted input request step prev nextState next)
      (proceeds : isCancelled input.cancellation 2 = false)
      (beyond : hosted.runner.config.exceeded (hosted.runner.predicted request) = some most) :
      Exit host store hosted input
        ⟨[.asked request (.ok step), .committed step.patch (.ok nextState)],
          .error (.error message)⟩ (hosted.afterRequest.withStore next)
  | toolFailed {request : ChatRequest} {step : AgentStep}
      {prev nextState : ExecutionState} {next : σ} {message : String}
      (acts : Acts host store hosted input request step prev nextState next)
      (failed : host.tools hosted.actions step.action = .error message) :
      Exit host store hosted input
        ⟨[.asked request (.ok step), .committed step.patch (.ok nextState),
          .executed step.action (.error message)], .error (.error message)⟩
        (hosted.afterRequest.withStore next).afterAction
  | exceeded {request : ChatRequest} {step : AgentStep}
      {prev nextState : ExecutionState} {next : σ} {most : Nat}
      {observation : Observation} {message : String}
      (acts : Acts host store hosted input request step prev nextState next)
      (executed : host.tools hosted.actions step.action = .ok observation)
      (beyond : hosted.runner.config.exceeded
        (hosted.runner.charged request step.usage) = some most) :
      Exit host store hosted input
        ⟨[.asked request (.ok step), .committed step.patch (.ok nextState),
          .executed step.action (.ok observation)], .error (.error message)⟩
        ((hosted.afterRequest.withStore next).afterAction.withTotal
          (hosted.runner.charged request step.usage))
  | completed {request : ChatRequest} {step : AgentStep}
      {prev nextState : ExecutionState} {next : σ} {observation : Observation}
      {outcome : StepOutcome} (acts : Acts host store hosted input request step prev nextState next)
      (executed : host.tools hosted.actions step.action = .ok observation)
      (within : hosted.runner.config.exceeded (hosted.runner.charged request step.usage) = none) :
      Exit host store hosted input
        ⟨[.asked request (.ok step), .committed step.patch (.ok nextState),
          .executed step.action (.ok observation)], .ok outcome⟩
        (((hosted.afterRequest.withStore next).afterAction.withTotal
          (hosted.runner.charged request step.usage)).logged
            (hosted.entryOf step prev nextState observation.value))

theorem applyTransition_eq (loaded : store.load state = some prev) (step : AgentStep) :
    applyTransition store state step =
      some ((store.commit state step.patch).1.map (fun nextState =>
          { prevState := prev
            nextState := nextState
            action := step.action
            reasoning := step.reasoning
            usage := step.usage }),
        (store.commit state step.patch).2) := by
  unfold applyTransition
  rw [loaded]
  rcases store.commit state step.patch with ⟨_ | _, next⟩ <;> rfl

variable {hosted : HostedRunner σ} {step : AgentStep}

theorem loaded_of_admits (admitted : hosted.runner.admits store input = .ok request) :
    ∃ prev, store.load hosted.runner.store = some prev := by
  unfold AgentRunner.admits at admitted
  split at admitted
  · cases admitted
  · split at admitted
    · cases admitted
    · split at admitted
      · cases admitted
      next prev loaded => exact ⟨prev, loaded⟩

theorem act_exit (commits : Commits host store hosted input request step prev nextState next)
    (acting : act host (hosted.afterRequest.withStore next) input request step
      prev { prevState := prev
             nextState := nextState
             action := step.action
             reasoning := step.reasoning
             usage := step.usage } = acted) :
    Exit host store hosted input
      ⟨.asked request (.ok step) :: .committed step.patch (.ok nextState) ::
        acted.1.effects, acted.1.result⟩ acted.2 := by
  unfold act at acting
  dsimp only at acting
  split at acting
  next cancelled =>
    cases acting
    exact .interrupted commits cancelled
  next proceeds =>
    have proceeds := Bool.eq_false_iff.mpr proceeds
    split at acting
    next most beyond =>
      cases acting
      exact .overdrawn commits proceeds beyond
    next affordable =>
      have acts : Acts host store hosted input request step prev nextState
          next := ⟨commits, proceeds, affordable⟩
      split at acting
      next message failed =>
        cases acting
        exact .toolFailed acts failed
      next observation executed =>
        split at acting
        next most beyond =>
          cases acting
          exact .exceeded acts executed beyond
        next within =>
          cases acting
          exact .completed acts executed within

theorem step_exit (host : Host) (store : StateStore σ)
    (hosted : HostedRunner σ) (input : StepInput) :
    Exit host store hosted input (HostedRunner.step host store hosted input).1
      (HostedRunner.step host store hosted input).2 := by
  cases admitted : hosted.runner.admits store input with
  | error failure =>
    simp only [HostedRunner.step, admitted]
    exact .refused admitted
  | ok request =>
    cases replied : host.llm hosted.requests request with
    | error message =>
      simp only [HostedRunner.step, admitted, replied]
      exact .unanswered admitted replied
    | ok step =>
      simp only [HostedRunner.step, admitted, replied]
      obtain ⟨prev, loaded⟩ := loaded_of_admits admitted
      unfold settle
      cases cancelled : isCancelled input.cancellation 1 with
      | true => exact .withdrawn admitted replied cancelled
      | false =>
        have proposes : Proposes host store hosted input request step
            prev := ⟨admitted, replied, cancelled, loaded⟩
        have applied := applyTransition_eq loaded step
        have unchanged : hosted.afterRequest.runner.store =
            hosted.runner.store := rfl
        rw [unchanged, loaded, applied]
        rcases commit : store.commit hosted.runner.store step.patch with ⟨error | nextState, next⟩
        · exact .rejected proposes commit
        · exact act_exit ⟨proposes, commit⟩ rfl

end HostedRunner

namespace RunnerSample

def observation : Observation :=
  ⟨⟨.object [], Json.wellFormed_empty⟩⟩

def proposal : AgentStep :=
  { reasoning := none
    patch := StoreSample.counted
    action := { raw := "act 1", tool := none, arguments := ⟨.null, .null⟩ }
    usage := none }

/-- A model that always proposes this, with tools that work or do not. -/
def host (tools : Except String Observation) : Host :=
  { llm := fun _ _ => .ok proposal
    tools := fun _ _ => tools }

def config : RunnerConfig :=
  { maxSteps := 1, model := "mock-model", maxTokens := none }

def input : StepInput :=
  { observation := observation, cancellation := none }

def start {σ : Type} (store : σ) : HostedRunner σ :=
  .new (.new StoreSample.skill store config)

end RunnerSample

end AgentState

end FusionRouter
