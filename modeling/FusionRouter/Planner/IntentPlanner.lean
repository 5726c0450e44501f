import FusionRouter.AgentState.Store
import FusionRouter.FusionIr.Validate

/-!
# The intent planner

`IntentPlanner::plan` turns a request into a chain of stages.  The cost in the
metadata is ten million nano-dollars for each stage, but the number of stages is
cut down for budgets below twenty million only.
-/

namespace FusionRouter

namespace IntentPlanner

open FusionIr

inductive ExecutionIntent where
  | quality | speed | balanced | exhaustive
  | constrained (maxCost : Option Nat)
deriving Repr, DecidableEq

structure ModelCatalog where
  code : String
  general : String
  architecture : String
  analysis : String
deriving Repr, DecidableEq

structure PlanningRequest where
  intent : ExecutionIntent
  userPrompt : String
  requestedModel : Option String
  requestedStrategy : Option String
  strategyConfig : Option Config
  complexity : String
  requiredCapabilities : List String
  policyVersion : Nat
  policyNames : List String
  modelCatalog : ModelCatalog
  avgLatencyMs : Nat
  healthyProviderCount : Nat

def ExecutionIntent.defaultCapabilities : ExecutionIntent → List String
  | speed => ["CodeGeneration"]
  | balanced => ["CodeGeneration", "CodeGeneration", "CodeReview"]
  | quality => ["CodeGeneration", "CodeReview", "CodeGeneration", "CodeReview", "CodeGeneration"]
  | exhaustive => ["CodeGeneration", "CodeReview", "CodeGeneration",
      "CodeReview", "CodeGeneration", "Judgment"]
  | constrained maxCost =>
    if maxCost.any (20000000 ≤ ·) then
      ["CodeGeneration", "CodeGeneration", "CodeReview"]
    else ["CodeGeneration"]

def ExecutionIntent.limit (count : Nat) : ExecutionIntent → Nat
  | speed => 1
  | constrained (some cost) => if cost < 20000000 then 1 else max count 1
  | _ => max count 1

def ExecutionIntent.debug : ExecutionIntent → String
  | quality => "Quality"
  | speed => "Speed"
  | balanced => "Balanced"
  | exhaustive => "Exhaustive"
  | constrained maxCost =>
    "Constrained \x7b max_cost: " ++ maxCost.elim "None" (fun cost =>
      "Some(NanoUSD(" ++ toString cost ++ "))") ++ " \x7d"

def ExecutionIntent.label : ExecutionIntent → String
  | quality => "quality"
  | speed => "speed"
  | balanced => "balanced"
  | exhaustive => "exhaustive"
  | constrained _ => "constrained"

structure Stage where
  id : String
  kind : WorkflowNodeKind
  capability : String
  strategy : String
deriving Repr, DecidableEq

namespace PlanningRequest

variable (req : PlanningRequest)

def capabilities : List String :=
  if req.requiredCapabilities = [] then req.intent.defaultCapabilities
  else req.requiredCapabilities

def truncated : List String :=
  let count := req.capabilities.length
  req.capabilities.take (min (req.intent.limit count)
    (if req.healthyProviderCount = 0 then max count 1
      else req.healthyProviderCount))

def kindOf (capability : String) : WorkflowNodeKind :=
  if "review".toList <:+: capability.toList.map Char.toLower then .review
  else .task

def stages : List Stage :=
  match req.requestedStrategy with
  | some strategy =>
    [⟨"n1", .task, req.requiredCapabilities.headD "CodeGeneration", strategy⟩]
  | none => req.truncated.mapIdx (fun index capability =>
    ⟨"n" ++ toString (index + 1), kindOf capability, capability, "Single"⟩)

def resolveStageModel (own : ModelCatalog) (kind : WorkflowNodeKind) : String :=
  let catalog := if req.modelCatalog.code ≠ "" then req.modelCatalog else own
  let ofCatalog := match kind with
    | .task => if catalog.code ≠ "" then catalog.code else catalog.general
    | .review =>
      if catalog.analysis ≠ "" then catalog.analysis
      else if catalog.architecture ≠ "" then catalog.architecture
      else catalog.general
    | .judge =>
      if catalog.architecture ≠ "" then catalog.architecture
      else catalog.general
    | _ => catalog.general
  match req.requestedModel with
  | some explicit =>
    if explicit.toList.all AgentState.isWhiteSpace then ofCatalog else explicit
  | none => ofCatalog

/-- The entries of the config of a stage, of which later ones replace earlier
ones. -/
def entries (index : Nat) (strategy : String) : List (String × Json) :=
  [("strategy", .string strategy), ("stage_index", .number (.unsigned (index % 2 ^ 64)))] ++
  (if req.userPrompt = "" then [] else [("prompt", .string req.userPrompt)]) ++
  req.strategyConfig.elim [] Config.fields

theorem entries_wellFormed (index : Nat) (strategy : String) :
    ∀ entry ∈ req.entries index strategy, entry.2.WellFormed := by
  have small : index % 2 ^ 64 ≤ u64Max := Nat.le_pred_of_lt (Nat.mod_lt _ (by decide))
  intro entry member
  simp only [entries, List.mem_append, List.mem_cons, List.not_mem_nil, or_false] at member
  rcases member with ((rfl | rfl) | prompt) | extra
  · exact .string strategy
  · exact .number small
  · split at prompt
    · cases prompt
    · cases List.mem_singleton.mp prompt
      exact .string _
  · cases given : req.strategyConfig with
    | none =>
      rw [given] at extra
      cases extra
    | some config =>
      rw [given] at extra
      cases config.wellFormed with
      | object _ each => exact each entry extra

def config (index : Nat) (strategy : String) : Config :=
  { fields := OrderedMap.collect (req.entries index strategy)
    wellFormed := .object (OrderedMap.ordered_collect _)
      fun entry member => req.entries_wellFormed index strategy entry
        (OrderedMap.mem_of_mem_collect member) }

def nodes (own : ModelCatalog) : List WorkflowNode :=
  req.stages.mapIdx (fun index stage =>
    { id := stage.id
      kind := stage.kind
      capability := some stage.capability
      selectedModel := some (req.resolveStageModel own stage.kind)
      config := req.config index stage.strategy })

def edges : List WorkflowEdge :=
  (req.stages.zip req.stages.tail).map (fun (stage, next) =>
    { source := stage.id
      target := next.id
      kind := .sequential
      condition := none })

def metadata : WorkflowMetadata :=
  let tokens := min (req.stages.length * 1000) u64Max
  { policyApplied :=
      ["planner:synthesized", "intent:" ++ req.intent.label] ++ req.policyNames
    policyVersion := req.policyVersion
    estimatedCost := min (tokens * 10000) u64Max
    estimatedTokens := tokens }

def fields : List String :=
  [req.intent.debug, req.userPrompt, req.complexity,
    ",".intercalate req.requiredCapabilities, toString req.policyVersion,
    req.modelCatalog.code, toString req.avgLatencyMs,
    toString req.healthyProviderCount, req.requestedStrategy.getD "", req.requestedModel.getD ""]

/-- The object keys of a config are sorted at every depth. -/
def strategyConfigCanonical : String :=
  req.strategyConfig.elim "null" (fun config => config.toValue.compact)

def identity : String :=
  req.fields.foldr (fun field rest => field ++ "|" ++ rest) req.strategyConfigCanonical

def workflow (externals : Externals) (own : ModelCatalog) : WorkflowIR :=
  { version := workflowIrVersion
    workflowId := externals.uuidV5 externals.namespaceUrl req.identity
    nodes := req.nodes own
    edges := req.edges
    metadata := req.metadata }

end PlanningRequest

structure PlannerError where
  code : String
  message : String
  recoverySuggestion : String
deriving Repr, DecidableEq

def PlannerError.debug (externals : Externals) (error : PlannerError) : String :=
  "Planner \x7b code: " ++ externals.debugText error.code ++ ", message: " ++
    externals.debugText error.message ++ ", recovery_suggestion: " ++
    externals.debugText error.recoverySuggestion ++ " \x7d"

/-- The builder refuses a node or an edge for reasons that `validate` has too,
and that n1, n2, .. do not give. -/
def plan (externals : Externals) (own : ModelCatalog) (req : PlanningRequest) :
    Except PlannerError WorkflowIR :=
  match (req.workflow externals own).validate.head? with
  | some issue => .error
      { code := "BUILD_ERR"
        message := "Failed to finalize workflow IR: " ++ issue.error.text
        recoverySuggestion := "Validate workflow DAG acyclicity and metadata" }
  | none => .ok (req.workflow externals own)

theorem plan_eq_ok_iff :
    plan externals own req = .ok ir ↔ (req.workflow externals own).validate = [] ∧
        req.workflow externals own = ir := by
  unfold plan
  cases (req.workflow externals own).validate with
  | nil | cons issue issues => simp

namespace PlanningRequest

variable {req : PlanningRequest}

/-- How many stages are left where neither a strategy nor a small budget says
so. -/
def stageCount (req : PlanningRequest) : Nat :=
  let count :=
    if req.requiredCapabilities = [] then 3 else req.requiredCapabilities.length
  if req.healthyProviderCount = 0 then count
  else min count req.healthyProviderCount

theorem length_stages_of_strategy (requested : req.requestedStrategy ≠ none) :
    req.stages.length = 1 := by
  obtain ⟨strategy, found⟩ := Option.ne_none_iff_exists'.mp requested
  simp [stages, found]

theorem length_stages_of_small (constrained : req.intent = .constrained (some cost))
    (small : cost < 20000000) : req.stages.length ≤ 1 := by
  by_cases requested : req.requestedStrategy = none
  · simp [stages, requested, truncated, constrained, ExecutionIntent.limit, small]
  · exact (length_stages_of_strategy requested).le

theorem length_stages (constrained : req.intent = .constrained (some cost))
    (large : 20000000 ≤ cost) (free : req.requestedStrategy = none) :
    req.stages.length = req.stageCount := by
  have positive : 1 ≤ req.capabilities.length := by
    unfold capabilities
    split
    · simp [constrained, ExecutionIntent.defaultCapabilities, large]
    next given => exact List.length_pos_iff.mpr given
  have count : req.capabilities.length = if req.requiredCapabilities = [] then 3
      else req.requiredCapabilities.length := by
    unfold capabilities
    split
    · simp [constrained, ExecutionIntent.defaultCapabilities, large]
    · rfl
  simp only [stages, free, List.length_mapIdx, truncated, List.length_take,
    constrained, ExecutionIntent.limit, Nat.not_lt.mpr large, if_false, stageCount]
  rw [← count]
  split <;> omega

end PlanningRequest

open PlanningRequest in
/-- A plan for at least the cost of one stage fits its budget exactly if a
strategy was requested, the budget is small or pays for the stages that are
left, or nothing exceeds it. -/
theorem constrained_plan_fits (externals : Externals) (own : ModelCatalog)
    (req : PlanningRequest) (maxCost : Nat) (ir : WorkflowIR)
    (constrained : req.intent = .constrained (some maxCost)) (affordable : 10000000 ≤ maxCost)
    (planned : plan externals own req = .ok ir) :
    ir.metadata.estimatedCost ≤ maxCost ↔ req.requestedStrategy ≠ none ∨ maxCost < 20000000 ∨
        req.stageCount * 10000000 ≤ maxCost ∨ u64Max ≤ maxCost := by
  obtain ⟨-, rfl⟩ := plan_eq_ok_iff.mp planned
  change req.metadata.estimatedCost ≤ maxCost ↔ _
  have cost : req.metadata.estimatedCost = min (req.stages.length * 10000000) u64Max := by
    simp only [metadata, u64Max]
    omega
  rw [cost]
  by_cases requested : req.requestedStrategy = none
  · by_cases small : maxCost < 20000000
    · have few := length_stages_of_small constrained small
      simp only [small, true_or, or_true, iff_true]
      omega
    · rw [length_stages constrained (Nat.not_lt.mp small) requested]
      simp only [requested, small, ne_eq, not_true_eq_false, false_or]
      omega
  · rw [length_stages_of_strategy requested]
    simp only [ne_eq, requested, not_false_eq_true, true_or, iff_true]
    omega

namespace Sample

def budgeted (maxCost : Nat) : PlanningRequest :=
  { intent := .constrained (some maxCost)
    userPrompt := ""
    requestedModel := none
    requestedStrategy := none
    strategyConfig := none
    complexity := "simple"
    requiredCapabilities := []
    policyVersion := 1
    policyNames := []
    modelCatalog := ⟨"coder", "general", "architect", "analyst"⟩
    avgLatencyMs := 0
    healthyProviderCount := 0 }

def externals : Externals :=
  .sample (fun _ _ => 0)

def own : ModelCatalog := ⟨"", "", "", ""⟩

end Sample

open Sample in
theorem thirty_million_fits :
    ∃ ir, plan externals own (budgeted 30000000) = .ok ir ∧
      ir.metadata.estimatedCost ≤ 30000000 := by
  have planned := plan_eq_ok_iff.mpr (⟨by decide, rfl⟩ :
    ((budgeted 30000000).workflow externals own).validate = [] ∧ _)
  refine ⟨_, planned, ?_⟩
  exact (constrained_plan_fits externals own _ 30000000 _ rfl (by decide) planned).mpr (by decide)

open Sample in
/-- Three stages are planned for twenty million. -/
theorem twenty_million_exceeded :
    ∃ ir, plan externals own (budgeted 20000000) = .ok ir ∧ ir.metadata.estimatedCost = 30000000 :=
  ⟨_, plan_eq_ok_iff.mpr ⟨by decide, rfl⟩, by decide⟩

end IntentPlanner

end FusionRouter
