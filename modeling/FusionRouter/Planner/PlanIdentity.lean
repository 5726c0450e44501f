import FusionRouter.Planner.IntentPlanner

/-!
# The identity of a plan

The id of a workflow is a hash of the fields of the request, joined by bars.  The
fields are free text, and the catalog counts by its code model only.
-/

namespace FusionRouter

namespace IntentPlanner

open FusionIr List

theorem eq_of_mark {left right first second : List Char}
    (leftFree : mark ∉ left) (rightFree : mark ∉ right)
    (same : left ++ mark :: first = right ++ mark :: second) : left = right ∧ first = second := by
  have heads := congrArg (takeWhile (· != mark)) same
  rw [takeWhile_append_of_pos, takeWhile_append_of_pos] at heads
  · have equal : left = right := by simpa using heads
    subst equal
    exact ⟨rfl, by simpa using same⟩
  · intro letter member
    exact bne_iff_ne.mpr fun found => rightFree (found ▸ member)
  · intro letter member
    exact bne_iff_ne.mpr fun found => leftFree (found ▸ member)

/-- Fields without the mark can be told apart where it joins them. -/
theorem eq_of_foldr_mark {left right : List String} (leftFree : ∀ field ∈ left, '|' ∉ field.toList)
    (rightFree : ∀ field ∈ right, '|' ∉ field.toList) (length : left.length = right.length)
    (same : left.foldr (fun field rest => field ++ "|" ++ rest) first =
      right.foldr (fun field rest => field ++ "|" ++ rest) second) :
    left = right ∧ first = second := by
  induction left generalizing right with
  | nil =>
    cases length_eq_zero_iff.mp length.symm
    exact ⟨rfl, same⟩
  | cons field left induction =>
    obtain ⟨other, right, rfl⟩ := exists_cons_of_length_eq_add_one length.symm
    simp only [forall_mem_cons] at leftFree rightFree
    have letters := congrArg String.toList same
    simp only [foldr_cons, String.toList_append, append_assoc] at letters
    obtain ⟨head, tail⟩ := eq_of_mark leftFree.1 rightFree.1 letters
    obtain ⟨rfl, rest⟩ := induction leftFree.2 rightFree.2
      (by simpa using length) (String.toList_inj.mp tail)
    exact ⟨by rw [String.toList_inj.mp head], rest⟩

theorem eq_of_commas {left right : List String}
    (leftPlain : ∀ text ∈ left, text ≠ "" ∧ ',' ∉ text.toList)
    (rightPlain : ∀ text ∈ right, text ≠ "" ∧ ',' ∉ text.toList)
    (same : ",".intercalate left = ",".intercalate right) : left = right := by
  have parts : ∀ {texts : List String}, (∀ text ∈ texts, text ≠ "" ∧ ',' ∉ text.toList) →
      splitOn ',' (",".intercalate texts).toList =
        if texts = [] then [[]] else texts.map String.toList := by
    intro texts plain
    rw [String.toList_intercalate]
    split
    next empty =>
      subst empty
      rfl
    next given =>
      refine splitOn_intercalate ',' ?_ (by simpa using given)
      intro letters member
      obtain ⟨text, inside, rfl⟩ := mem_map.mp member
      exact (plain text inside).2
  have equal := (parts leftPlain).symm.trans
    ((congrArg (fun text => splitOn ',' text.toList) same).trans (parts rightPlain))
  have injective : Function.Injective (map String.toList) :=
    map_injective_iff.mpr fun _ _ => String.toList_inj.mp
  split at equal
  · split at equal
    · simp_all
    · cases right <;> simp_all
  · split at equal
    · cases left <;> simp_all
    · exact injective equal

theorem toString_injective {left right : Nat}
    (same : toString left = toString right) : left = right := by
  have digits := congrArg (fun text => Nat.ofDigitChars 10 text.toList 0) same
  simpa [Nat.ofDigitChars_toDigits] using digits

theorem toString_free (number : Nat) : '|' ∉ (toString number).toList := by
  intro member
  have digit := JsonText.isNumberLetter_toDigits (by simpa using member)
  exact absurd digit (by decide)

theorem head?_append {literal rest : String} (head : literal.toList.head? = some letter) :
    (literal ++ rest).toList.head? = some letter := by
  rw [String.toList_append, List.head?_append, head, Option.some_or]

namespace ExecutionIntent

theorem debug_constrained (maxCost : Option Nat) :
    (constrained maxCost).debug =
      "Constrained \x7b max_cost: " ++ (maxCost.elim "None" (fun cost =>
        "Some(NanoUSD(" ++ (toString cost ++ "))")) ++ " \x7d") := by
  cases maxCost <;> simp only [Option.elim, ← String.append_assoc] <;> rfl

theorem debug_free (intent : ExecutionIntent) : '|' ∉ intent.debug.toList := by
  cases intent with
  | constrained maxCost =>
    have marks : '|' ∉ "Constrained \x7b max_cost: ".toList ∧
        '|' ∉ "None".toList ∧ '|' ∉ "Some(NanoUSD(".toList ∧
        '|' ∉ "))".toList ∧ '|' ∉ " \x7d".toList := by decide
    rw [debug_constrained]
    cases maxCost <;> simp only [Option.elim, String.toList_append, mem_append,
        toString_free, marks, or_self, not_false_eq_true]
  | _ => decide

theorem debug_injective {left right : ExecutionIntent}
    (same : left.debug = right.debug) : left = right := by
  have heads : ∀ maxCost, (constrained maxCost).debug.toList.head? = some 'C' :=
    fun maxCost => debug_constrained maxCost ▸ head?_append (by decide)
  have unpriced : ∀ cost : Nat, "None" ≠ "Some(NanoUSD(" ++ (toString cost ++ "))") := by
    intro cost equal
    have head : "None".toList.head? = some 'S' := equal ▸ head?_append (by decide)
    exact absurd head (by decide)
  cases left with
  | constrained maxCost =>
    cases right with
    | constrained other =>
      rw [debug_constrained, debug_constrained, String.append_right_inj,
        String.append_left_inj] at same
      cases maxCost with
      | none =>
        cases other with
        | none => rfl
        | some cost => exact absurd same (unpriced cost)
      | some cost =>
        cases other with
        | none => exact absurd same.symm (unpriced cost)
        | some other =>
          simp only [Option.elim, String.append_right_inj, String.append_left_inj] at same
          rw [toString_injective same]
    | _ => exact absurd (same ▸ heads maxCost) (by decide)
  | _ =>
    cases right with
    | constrained maxCost =>
      exact absurd (same ▸ heads maxCost) (by decide)
    | _ => first | rfl | exact absurd same (by decide)

end ExecutionIntent

namespace PlanningRequest

/-- The request without what its nodes and edges do not depend on. -/
def essence (req : PlanningRequest) : PlanningRequest :=
  { req with
    requestedModel := some (req.requestedModel.getD "")
    complexity := ""
    policyVersion := 0
    policyNames := []
    avgLatencyMs := 0 }

theorem nodes_essence (req : PlanningRequest) (own : ModelCatalog) :
    req.essence.nodes own = req.nodes own := by
  have models : req.essence.resolveStageModel own = req.resolveStageModel own := by
    funext kind
    unfold resolveStageModel essence
    cases req.requestedModel <;> rfl
  unfold nodes
  rw [models]
  rfl

/-- The free texts hold no bar, the capabilities are not empty and hold no
comma, and a strategy has a name. -/
structure Plain (req : PlanningRequest) : Prop where
  bars : ∀ text ∈ [req.userPrompt, req.complexity,
      ",".intercalate req.requiredCapabilities, req.modelCatalog.code,
      req.requestedStrategy.getD "", req.requestedModel.getD ""], '|' ∉ text.toList
  capabilities : ∀ text ∈ req.requiredCapabilities, text ≠ "" ∧ ',' ∉ text.toList
  strategy : req.requestedStrategy ≠ some ""

variable {left right : PlanningRequest}

theorem Plain.fields_free {req : PlanningRequest} (plain : req.Plain) :
    ∀ field ∈ req.fields, '|' ∉ field.toList := by
  have texts := plain.bars
  simp only [forall_mem_cons] at texts
  obtain ⟨prompt, complexity, joined, code, strategy, model, -⟩ := texts
  simp only [fields, forall_mem_cons, not_mem_nil, false_imp_iff, implies_true, and_true]
  exact ⟨req.intent.debug_free, prompt, complexity, joined, toString_free _,
    code, toString_free _, toString_free _, strategy, model⟩

theorem strategyConfig_eq (same : left.strategyConfigCanonical = right.strategyConfigCanonical) :
    left.strategyConfig = right.strategyConfig := by
  have read : ∀ config : Option Config,
      Json.read (config.elim "null" (fun config => config.toValue.compact)) =
        some (config.elim .null Config.toValue) := by
    intro config
    cases config with
    | none => exact Json.read_compact .null
    | some config => exact Json.read_compact config.wellFormed.numbersValid
  have values := Option.some.inj ((read _).symm.trans ((congrArg Json.read same).trans (read _)))
  cases first : left.strategyConfig with
  | none => cases second : right.strategyConfig <;> simp_all [Config.toValue]
  | some config =>
    cases second : right.strategyConfig with
    | none => simp_all [Config.toValue]
    | some other =>
      simp only [first, second, Option.elim, Config.toValue, Json.object.injEq] at values
      cases config
      cases other
      cases values
      rfl

theorem essence_eq (leftPlain : left.Plain) (rightPlain : right.Plain)
    (catalogs : left.modelCatalog.code = right.modelCatalog.code →
      left.modelCatalog = right.modelCatalog)
    (same : left.identity = right.identity) : left.essence = right.essence := by
  obtain ⟨fields, config⟩ := eq_of_foldr_mark leftPlain.fields_free rightPlain.fields_free rfl same
  simp only [PlanningRequest.fields, cons.injEq, and_true] at fields
  obtain ⟨intent, prompt, -, joined, -, code, -, healthy, strategy, model⟩ := fields
  have named : left.requestedStrategy = right.requestedStrategy := by
    have leftNamed := leftPlain.strategy
    have rightNamed := rightPlain.strategy
    cases first : left.requestedStrategy <;> cases second : right.requestedStrategy <;> simp_all
  simp only [essence, mk.injEq, true_and]
  exact ⟨ExecutionIntent.debug_injective intent, prompt, congrArg some model,
    named, strategyConfig_eq config,
    eq_of_commas leftPlain.capabilities rightPlain.capabilities joined,
    catalogs code, toString_injective healthy⟩

end PlanningRequest

open PlanningRequest

/-- The plans of plain requests, whose catalogs agree if their code models do,
are told apart by their identities. -/
theorem identity_faithful (externals : Externals) (own : ModelCatalog)
    (left right : PlanningRequest) (leftIr rightIr : WorkflowIR)
    (leftPlain : left.Plain) (rightPlain : right.Plain)
    (catalogs : left.modelCatalog.code = right.modelCatalog.code →
      left.modelCatalog = right.modelCatalog) (leftPlanned : plan externals own left = .ok leftIr)
    (rightPlanned : plan externals own right = .ok rightIr)
    (differ : leftIr.nodes ≠ rightIr.nodes ∨ leftIr.edges ≠ rightIr.edges) :
    left.identity ≠ right.identity := by
  intro same
  obtain ⟨-, rfl⟩ := plan_eq_ok_iff.mp leftPlanned
  obtain ⟨-, rfl⟩ := plan_eq_ok_iff.mp rightPlanned
  have equal := essence_eq leftPlain rightPlain catalogs same
  rcases differ with nodes | edges
  · apply nodes
    change left.nodes own = right.nodes own
    rw [← left.nodes_essence, equal, right.nodes_essence]
  · apply edges
    change left.essence.edges = right.essence.edges
    rw [equal]

def Sample.needing (capabilities : List String) : PlanningRequest :=
  { budgeted 0 with
    intent := .quality
    requiredCapabilities := capabilities }

theorem Sample.needing_planned {capabilities : List String}
    (valid : ((needing capabilities).workflow externals own).validate = []) :
    plan externals own (needing capabilities) =
      .ok ((needing capabilities).workflow externals own) :=
  plan_eq_ok_iff.mpr ⟨valid, rfl⟩

open Sample in
theorem code_and_review_told_apart :
    (needing ["code"]).identity ≠ (needing ["code", "review"]).identity := by
  refine identity_faithful externals own _ _ _ _
    ⟨by decide, by decide, by decide⟩ ⟨by decide, by decide, by decide⟩
    (fun _ => rfl) (needing_planned (by decide))
    (needing_planned (by decide)) (Or.inl ?_)
  exact fun same => absurd (congrArg length same) (by decide)

open Sample in
/-- One capability with a comma, or two. -/
theorem comma_conflated :
    (needing ["a,b"]).identity = (needing ["a", "b"]).identity ∧
      ∃ one two, plan externals own (needing ["a,b"]) = .ok one ∧
        plan externals own (needing ["a", "b"]) = .ok two ∧
        one.nodes.length = 1 ∧ two.nodes.length = 2 :=
  ⟨by decide, _, _, needing_planned (by decide),
    needing_planned (by decide), by decide, by decide⟩

end IntentPlanner

end FusionRouter
