import FusionRouter.Types.Json

/-!
# Release decisions

The evaluator folds its decision from the gate results that happen to be there,
so a required gate without a result goes unnoticed.  The verifier restates the
decision table, and differs from the evaluator where a block has no failed gate
to show.
-/

namespace FusionRouter

namespace Release

inductive GateId where
  | sdk1 | replay1 | upgrade1 | determinism1
  | plugin1 | strategy1 | provider1 | connector1
deriving Repr, DecidableEq

def GateId.debug : GateId → String
  | .sdk1 => "Sdk1"
  | .replay1 => "Replay1"
  | .upgrade1 => "Upgrade1"
  | .determinism1 => "Determinism1"
  | .plugin1 => "Plugin1"
  | .strategy1 => "Strategy1"
  | .provider1 => "Provider1"
  | .connector1 => "Connector1"

structure GateResult where
  gateId : GateId
  passed : Bool
deriving Repr, DecidableEq

inductive GateExecution where
  | success (result : GateResult)
  | executionError (error : String)
deriving Repr, DecidableEq

def GateExecution.result : GateExecution → Option GateResult
  | success result => some result
  | executionError _ => none

structure Waiver where
  gate : GateId
  artifact : Option String
  expires : Int
deriving Repr, DecidableEq

namespace Waiver

def isActive (waiver : Waiver) (now : Int) : Bool :=
  decide (now < waiver.expires)

def isMatch (waiver : Waiver) (gate : GateId) (artifact : Option String) :
    Bool :=
  if waiver.gate ≠ gate then false
  else
    match waiver.artifact, artifact with
    | some waived, some target => waived == target || waived == "*"
    | some _, none => false
    | none, _ => true

end Waiver

def findActiveWaiver (waivers : List Waiver) (gate : GateId)
    (artifact : Option String) (now : Int) : Option Waiver :=
  waivers.find? (fun waiver => waiver.isActive now && waiver.isMatch gate artifact)

structure EnvironmentPolicy where
  require : List GateId
  advisory : List GateId

inductive ReleaseEnvironment where
  | production | staging | development
  | custom (name : String)
deriving Repr, DecidableEq

def ReleaseEnvironment.asStr : ReleaseEnvironment → String
  | production => "production"
  | staging => "staging"
  | development => "development"
  | custom name => name

structure EvaluationContext where
  environment : ReleaseEnvironment
  environments : Table String EnvironmentPolicy
  waivers : List Waiver
  evaluationTime : Int

inductive ReleaseDecision where
  | approved
  | approvedWithWaivers
  | blocked
deriving Repr, DecidableEq

/-- A waived failure; its waiver was active. -/
structure WaiverEvaluation where
  waiver : Waiver
  gate : GateId
deriving Repr, DecidableEq

structure PolicySummary where
  totalGates : Nat
  passed : Nat
  requiredFailed : Nat
  waived : Nat
  advisoryFailed : Nat
deriving Repr, DecidableEq

structure PolicyEvaluation where
  environment : ReleaseEnvironment
  decision : ReleaseDecision
  summary : PolicySummary
  reason : Option String
  requiredFailures : List GateId
  waivedFailures : List WaiverEvaluation
  advisoryFailures : List GateId
  passedGates : List GateId
deriving Repr, DecidableEq

namespace EvaluationContext

variable (ctx : EvaluationContext) (executions : List GateExecution)

def policy : Option EnvironmentPolicy :=
  ctx.environments ctx.environment.asStr

def results : List GateResult :=
  executions.filterMap GateExecution.result

def passed : List GateId :=
  ((results executions).filter GateResult.passed).map GateResult.gateId

def failed : List GateId :=
  ((results executions).filter (fun result => !result.passed)).map GateResult.gateId

/-- Without a policy every failure counts as required. -/
def requiredFailed : List GateId :=
  match ctx.policy with
  | some policy => (failed executions).filter (fun gate => gate ∈ policy.require)
  | none => failed executions

def advisoryFailed : List GateId :=
  match ctx.policy with
  | some policy => (failed executions).filter (fun gate =>
    gate ∉ policy.require ∧ gate ∈ policy.advisory)
  | none => []

def waiverFor (gate : GateId) : Option Waiver :=
  findActiveWaiver ctx.waivers gate none ctx.evaluationTime

def remainingFailures : List GateId :=
  (ctx.requiredFailed executions).filter (fun gate => (ctx.waiverFor gate).isNone)

def waivedFailures : List WaiverEvaluation :=
  (ctx.requiredFailed executions).filterMap (fun gate =>
    (ctx.waiverFor gate).map (fun waiver => ⟨waiver, gate⟩))

def decision : ReleaseDecision :=
  if results executions = [] then .blocked
  else if ctx.policy.isNone then .blocked
  else if ctx.remainingFailures executions ≠ [] then .blocked
  else if ctx.waivedFailures executions ≠ [] then .approvedWithWaivers
  else .approved

def causes : List String :=
  (if results executions = [] then ["no gate evidence was produced"] else []) ++
  (if ctx.policy.isNone then
    ["environment '" ++ ctx.environment.asStr ++ "' has no configured release " ++
      "policy; it can never be approved without an explicit policy"] else []) ++
  (if ctx.remainingFailures executions ≠ [] then
    [toString (ctx.remainingFailures executions).length ++ " required gate(s) failed: " ++
      ", ".intercalate ((ctx.remainingFailures executions).map GateId.debug)]
    else [])

def evaluate : PolicyEvaluation :=
  { environment := ctx.environment
    decision := ctx.decision executions
    summary :=
      { totalGates := executions.length
        passed := (passed executions).length
        requiredFailed := (ctx.remainingFailures executions).length
        waived := (ctx.waivedFailures executions).length
        advisoryFailed := (ctx.advisoryFailed executions).length }
    reason := if ctx.decision executions = .approved then none
      else some ("; ".intercalate (ctx.causes executions))
    requiredFailures := ctx.remainingFailures executions
    waivedFailures := ctx.waivedFailures executions
    advisoryFailures := ctx.advisoryFailed executions
    passedGates := passed executions }

end EvaluationContext

def ReleaseDecision.Approves (decision : ReleaseDecision) : Prop :=
  decision = .approved ∨ decision = .approvedWithWaivers

namespace EvaluationContext

variable {ctx : EvaluationContext}

theorem mem_results : result ∈ results executions ↔ .success result ∈ executions := by
  unfold results
  rw [List.mem_filterMap]
  constructor
  · rintro ⟨execution, member, found⟩
    cases execution with
    | success other =>
      cases found
      exact member
    | executionError error => cases found
  · intro member
    exact ⟨_, member, rfl⟩

theorem mem_failed : gate ∈ failed executions ↔ .success ⟨gate, false⟩ ∈ executions := by
  unfold failed
  simp only [List.mem_map, List.mem_filter, mem_results, Bool.not_eq_true']
  constructor
  · rintro ⟨⟨gate, passed⟩, ⟨member, rfl⟩, rfl⟩
    exact member
  · intro member
    exact ⟨⟨gate, false⟩, ⟨member, rfl⟩, rfl⟩

theorem remainingFailures_eq_nil_iff :
    ctx.remainingFailures executions = [] ↔
      ∀ gate ∈ ctx.requiredFailed executions, ctx.waiverFor gate ≠ none := by
  simp [remainingFailures, List.filter_eq_nil_iff]

theorem approves_iff :
    (ctx.evaluate executions).decision.Approves ↔ results executions ≠ [] ∧ ctx.policy ≠ none ∧
        ctx.remainingFailures executions = [] := by
  simp only [evaluate, decision, ReleaseDecision.Approves, Option.isNone_iff_eq_none]
  grind

section

variable (ctx : EvaluationContext)

def Waived (gate : GateId) : Prop :=
  ∃ waiver ∈ ctx.waivers, waiver.gate = gate ∧ waiver.isActive ctx.evaluationTime = true

/-- The gate is waived, or it passed and neither failed nor erred.  An error does
not say whose it is, so `owner` does. -/
def Covered (executions : List GateExecution) (owner : String → GateId → Prop)
    (gate : GateId) : Prop :=
  ctx.Waived gate ∨ .success ⟨gate, true⟩ ∈ executions ∧ .success ⟨gate, false⟩ ∉ executions ∧
      ∀ error, .executionError error ∈ executions → ¬ owner error gate

/-- The gate is waived, or it has some result and did not err. -/
def Reported (executions : List GateExecution) (owner : String → GateId → Prop)
    (gate : GateId) : Prop :=
  ctx.Waived gate ∨ (∃ passed, .success ⟨gate, passed⟩ ∈ executions) ∧
      ∀ error, .executionError error ∈ executions → ¬ owner error gate

def required : List GateId :=
  ctx.policy.elim [] EnvironmentPolicy.require

end

theorem waived_of_waiverFor (found : ctx.waiverFor gate ≠ none) : ctx.Waived gate := by
  obtain ⟨waiver, found⟩ := Option.ne_none_iff_exists'.mp found
  have member := List.mem_of_find?_eq_some found
  have fits := List.find?_some found
  unfold Waiver.isMatch at fits
  refine ⟨waiver, member, ?_⟩
  grind

/-- What blocks a release whatever else was reported: no result at all, an
environment without a policy, or a required gate that failed without a
waiver. -/
def Blocks (ctx : EvaluationContext) (executions : List GateExecution) : Prop :=
  (∀ result, .success result ∉ executions) ∨ ctx.policy = none ∨
    ∃ gate ∈ ctx.required, .success ⟨gate, false⟩ ∈ executions ∧ ctx.waiverFor gate = none

theorem results_eq_nil_iff :
    results executions = [] ↔ ∀ result, .success result ∉ executions := by
  simp only [List.eq_nil_iff_forall_not_mem, mem_results]

theorem mem_requiredFailed (configured : ctx.policy ≠ none) :
    gate ∈ ctx.requiredFailed executions ↔
      gate ∈ ctx.required ∧ .success ⟨gate, false⟩ ∈ executions := by
  obtain ⟨policy, found⟩ := Option.ne_none_iff_exists'.mp configured
  simp [requiredFailed, required, found, mem_failed, and_comm]

theorem approves_iff_not_blocks :
    (ctx.evaluate executions).decision.Approves ↔ ¬ ctx.Blocks executions := by
  rw [approves_iff, Blocks, not_or, not_or, ne_eq, results_eq_nil_iff]
  refine and_congr_right fun _ => and_congr_right fun configured => ?_
  simp only [remainingFailures_eq_nil_iff, mem_requiredFailed configured]
  grind

theorem waived_of_failed (approves : (ctx.evaluate executions).decision.Approves)
    (required : gate ∈ ctx.required)
    (failed : .success ⟨gate, false⟩ ∈ executions) : ctx.Waived gate := by
  refine waived_of_waiverFor fun unwaived => approves_iff_not_blocks.mp approves ?_
  exact Or.inr (Or.inr ⟨gate, required, failed, unwaived⟩)

end EvaluationContext

open EvaluationContext

/-- An approval covers every required gate exactly if the executions block the
release, or every required gate without a waiver is reported. -/
theorem approval_covers_required (ctx : EvaluationContext)
    (executions : List GateExecution) (owner : String → GateId → Prop) :
    ((ctx.evaluate executions).decision.Approves →
        ∀ gate ∈ ctx.required, ctx.Covered executions owner gate) ↔
      ctx.Blocks executions ∨ ∀ gate ∈ ctx.required, ctx.Reported executions owner gate := by
  rw [or_iff_not_imp_left, ← approves_iff_not_blocks]
  refine imp_congr_right fun approves => forall₂_congr fun gate required => ?_
  constructor
  · rintro (waived | ⟨passed, -, calm⟩)
    · exact Or.inl waived
    · exact Or.inr ⟨⟨true, passed⟩, calm⟩
  · rintro (waived | ⟨⟨passed, reported⟩, calm⟩)
    · exact Or.inl waived
    · by_cases failed : .success ⟨gate, false⟩ ∈ executions
      · exact Or.inl (waived_of_failed approves required failed)
      · cases passed with
        | true => exact Or.inr ⟨reported, failed, calm⟩
        | false => exact absurd reported failed

/-- Two required gates, and no waivers. -/
def Sample.ctx : EvaluationContext :=
  { environment := .production
    environments := fun _ => some ⟨[.sdk1, .replay1], []⟩
    waivers := []
    evaluationTime := 0 }

open Sample in
/-- One of them has not been run. -/
theorem absent_gate_approved :
    (ctx.evaluate [.success ⟨.sdk1, true⟩]).decision = .approved ∧ .replay1 ∈ ctx.required ∧
      ∀ owner, ¬ ctx.Covered [.success ⟨.sdk1, true⟩] owner .replay1 := by
  refine ⟨by decide, by decide, ?_⟩
  rintro owner (⟨waiver, member, -⟩ | ⟨passed, -⟩)
  · cases member
  · revert passed
    decide

end Release

end FusionRouter
