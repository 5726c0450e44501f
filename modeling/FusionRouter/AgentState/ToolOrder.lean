import FusionRouter.AgentState.Runner

/-!
# No action before its state is durable

In every step of every run, whatever the store, the model and the tools do, an
action is executed only behind the commit of its own patch.
-/

namespace FusionRouter

namespace AgentState

def AgentEffect.isExecuted : AgentEffect → Bool
  | .executed _ _ => true
  | _ => false

/-- How the effects of one step are ordered. -/
structure ActsDurably (input : StepInput) (effects : List AgentEffect) :
    Prop where
  afterCommit : ∀ before action result after, effects = before ++ .executed action result :: after →
      ∃ request step state, .asked request (.ok step) ∈ before ∧
        .committed step.patch (.ok state) ∈ before ∧ step.action = action
  once : effects.countP AgentEffect.isExecuted ≤ 1
  notAfterFailure : ∀ patch error, .committed patch (.error error) ∈ effects →
    effects.countP AgentEffect.isExecuted = 0
  notAfterCancel : ∀ check, check ≤ 2 → isCancelled input.cancellation check = true →
      effects.countP AgentEffect.isExecuted = 0

namespace ActsDurably

theorem of_none (none : effects.countP AgentEffect.isExecuted = 0) :
    ActsDurably input effects where
  afterCommit before action result after same := by
    have among : AgentEffect.executed action result ∈ effects := by
      rw [same]
      exact List.mem_append_right before List.mem_cons_self
    cases List.countP_eq_zero.mp none _ among rfl
  once := by omega
  notAfterFailure _ _ _ := none
  notAfterCancel _ _ _ := none

theorem of_acted (proceeds : isCancelled input.cancellation 2 = false) :
    ActsDurably input [.asked request (.ok step),
      .committed step.patch (.ok state), .executed step.action result] where
  afterCommit before action outcome after same := by
    refine ⟨request, step, state, ?_⟩
    rcases before with _ | ⟨first, _ | ⟨second, _ | ⟨third, before⟩⟩⟩
    · cases same
    · cases same
    · cases same
      simp
    · simp at same
  once := by simp [List.countP_cons, AgentEffect.isExecuted]
  notAfterFailure patch error member := by simp at member
  notAfterCancel check below cancelled := by
    cases token : input.cancellation with
    | none =>
      rw [token] at cancelled
      cases cancelled
    | some token' =>
      rw [token] at cancelled proceeds
      cases (token'.stays check 2 below cancelled).symm.trans proceeds

end ActsDurably

variable {σ : Type}

theorem actsDurably_step (host : Host) (store : StateStore σ)
    (hosted : HostedRunner σ) (input : StepInput) :
    ActsDurably input (HostedRunner.step host store hosted input).1.effects := by
  have exit := HostedRunner.step_exit host store hosted input
  generalize HostedRunner.step host store hosted input = stepped at exit
  obtain ⟨report, next⟩ := stepped
  cases exit with
  | refused | unanswered | withdrawn | rejected | interrupted | overdrawn =>
    exact .of_none rfl
  | toolFailed acts | exceeded acts | completed acts =>
    exact .of_acted acts.proceeds

/-- Every step that a caller's calls make acts only on a durable state. -/
theorem tools_wait_for_commit (host : Host) (store : StateStore σ)
    (hosted : HostedRunner σ) (calls : List RunnerCall) :
    ∀ made, made ∈ HostedRunner.stepsOf host store hosted calls → ActsDurably made.2
        (HostedRunner.step host store made.1 made.2).1.effects := by
  intro made _
  exact actsDurably_step host store made.1 made.2

namespace OrderSample

open RunnerSample

def acting : Host :=
  host (.ok observation)

def begin : HostedRunner InMemoryStateStore :=
  start { skill := StoreSample.skill, state := StoreSample.initial }

/-- A step that executes its action. -/
theorem acting_waits :
    (HostedRunner.step acting InMemoryStateStore.asStore begin
        input).1.effects.countP AgentEffect.isExecuted = 1 ∧
      ActsDurably input (HostedRunner.step acting InMemoryStateStore.asStore
        begin input).1.effects :=
  ⟨rfl, tools_wait_for_commit acting InMemoryStateStore.asStore begin
    [.step input] (begin, input) List.mem_cons_self⟩

end OrderSample

end AgentState

end FusionRouter
