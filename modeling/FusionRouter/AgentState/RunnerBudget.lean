import FusionRouter.AgentState.EventLog

/-!
# When the budgets of a runner bind

The steps taken are counted by the log and the tokens are added behind the
tool, so a step counts in full only where it gets through to its log entry.
-/

namespace FusionRouter

namespace AgentState

namespace HostedRunner

variable {σ : Type}

def effectsOf (host : Host) (store : StateStore σ)
    (made : List (HostedRunner σ × StepInput)) : List AgentEffect :=
  made.flatMap (fun one => (step host store one.1 one.2).1.effects)

/-- A step that asks the model gets through: the model proposes something that
is committed, nothing is cancelled, the tool succeeds, and the budget holds
before and after. -/
def Completes (host : Host) (store : StateStore σ) (hosted : HostedRunner σ)
    (input : StepInput) : Prop :=
  ∀ request, hosted.runner.admits store input = .ok request →
    ∃ step prev nextState next observation,
      Acts host store hosted input request step prev nextState next ∧
        host.tools hosted.actions step.action = .ok observation ∧ hosted.runner.config.exceeded
          (hosted.runner.charged request step.usage) = none

variable {hosted : HostedRunner σ}

/-- A step that completes either does nothing or is logged and charged. -/
theorem Completes.cases (completes : Completes host store hosted input) :
    ((step host store hosted input).1.effects = [] ∧ (step host store hosted input).2 = hosted) ∨
      ∃ request step prev nextState next observation,
        hosted.runner.admits store input = .ok request ∧
        (HostedRunner.step host store hosted input).1.effects =
            [.asked request (.ok step), .committed step.patch (.ok nextState),
              .executed step.action (.ok observation)] ∧
          (HostedRunner.step host store hosted input).2 =
            ((hosted.afterRequest.withStore next).afterAction.withTotal
              (hosted.runner.charged request step.usage)).logged
                (hosted.entryOf step prev nextState observation.value) := by
  have exit := step_exit host store hosted input
  generalize HostedRunner.step host store hosted input = stepped at exit ⊢
  obtain ⟨report, after⟩ := stepped
  cases exit with
  | refused => exact Or.inl ⟨rfl, rfl⟩
  | unanswered admitted failed =>
    obtain ⟨_, _, _, _, _, acts, -⟩ := completes _ admitted
    cases failed.symm.trans acts.replied
  | withdrawn admitted replied cancelled =>
    obtain ⟨_, _, _, _, _, acts, -⟩ := completes _ admitted
    cases cancelled.symm.trans acts.continues
  | rejected proposes commit =>
    obtain ⟨_, _, _, _, _, acts, -⟩ := completes _ proposes.admitted
    cases proposes.replied.symm.trans acts.replied
    cases commit.symm.trans acts.commit
  | interrupted commits cancelled =>
    obtain ⟨_, _, _, _, _, acts, -⟩ := completes _ commits.admitted
    cases cancelled.symm.trans acts.proceeds
  | overdrawn commits proceeds beyond =>
    obtain ⟨_, _, _, _, _, acts, -⟩ := completes _ commits.admitted
    cases beyond.symm.trans acts.affordable
  | toolFailed acts failed =>
    obtain ⟨_, _, _, _, _, others, executed, -⟩ := completes _ acts.admitted
    cases acts.replied.symm.trans others.replied
    cases failed.symm.trans executed
  | exceeded acts executed beyond =>
    obtain ⟨_, _, _, _, _, others, -, within⟩ := completes _ acts.admitted
    cases acts.replied.symm.trans others.replied
    cases beyond.symm.trans within
  | completed acts executed within =>
    exact Or.inr ⟨_, _, _, _, _, _, acts.admitted, rfl, rfl⟩

theorem effectsOf_cons (hosted : HostedRunner σ) (input : StepInput)
    (made : List (HostedRunner σ × StepInput)) :
    effectsOf host store ((hosted, input) :: made) =
      (step host store hosted input).1.effects ++ effectsOf host store made :=
  rfl

theorem Completes.charges (completes : Completes host store hosted input)
    (asked : .asked request (.ok reply) ∈ (step host store hosted input).1.effects) :
    (step host store hosted input).2.runner.totalTokens =
      hosted.runner.charged request reply.usage := by
  rcases completes.cases with ⟨idle, -⟩ | ⟨_, _, _, _, _, _, -, effects, after⟩
  · rw [idle] at asked
    cases asked
  · rw [effects] at asked
    simp only [List.mem_cons, AgentEffect.asked.injEq, Except.ok.injEq,
      reduceCtorEq, List.not_mem_nil, or_false] at asked
    obtain ⟨rfl, rfl⟩ := asked
    rw [after]
    rfl

end HostedRunner

namespace BudgetSample

open RunnerSample LogSample ExchangeSample

def calls : List RunnerCall :=
  [.step input, .step input]

end BudgetSample

end AgentState

end FusionRouter
