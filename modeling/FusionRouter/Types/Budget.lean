import FusionRouter.Types.Json

/-!
# The request budget envelope

The counters of a `BudgetEnvelope` are shared by everyone who holds it; a
value here is what they show between two calls.
-/

namespace FusionRouter

inductive BudgetExceededError where
  | cost (spent maximum : Nat)
  | tokens (spent maximum : Nat)
  | iterations (current maximum : Nat)
deriving Repr, DecidableEq

/-- The `Display` text of the error. -/
def BudgetExceededError.text : BudgetExceededError → String
  | .cost spent maximum =>
    "Cost budget exceeded: " ++ toString spent ++
      " nano-USD spent, " ++ toString maximum ++ " nano-USD max"
  | .tokens spent maximum =>
    "Token budget exceeded: " ++ toString spent ++ " tokens spent, " ++ toString maximum ++ " max"
  | .iterations current maximum =>
    "Iteration budget exceeded: " ++ toString current ++
      " iterations, " ++ toString maximum ++ " max"

/-- The `Debug` text of the error. -/
def BudgetExceededError.debug : BudgetExceededError → String
  | .cost spent maximum =>
    "Cost \x7b spent: " ++ toString spent ++ ", max: " ++ toString maximum ++ " \x7d"
  | .tokens spent maximum =>
    "Tokens \x7b spent: " ++ toString spent ++ ", max: " ++ toString maximum ++ " \x7d"
  | .iterations current maximum =>
    "Iterations \x7b current: " ++ toString current ++ ", max: " ++ toString maximum ++ " \x7d"

structure BudgetEnvelope where
  maxCost : Nat
  maxTokens : Nat
  maxIterations : Nat
  spentCost : Nat
  spentTokens : Nat
  currentIterations : Nat
deriving Repr, DecidableEq

namespace BudgetEnvelope

def new (maxCost maxTokens maxIterations : Nat) : BudgetEnvelope :=
  { maxCost := maxCost
    maxTokens := maxTokens
    maxIterations := maxIterations
    spentCost := 0
    spentTokens := 0
    currentIterations := 0 }

variable (envelope : BudgetEnvelope)

/-- The counters after `record_and_check` committed the spend. -/
def record (cost tokens : Nat) : BudgetEnvelope :=
  { envelope with
    spentCost := saturatingAdd envelope.spentCost cost
    spentTokens := saturatingAdd envelope.spentTokens tokens }

/-- The ceiling checks of `record_and_check`, made after the commit.  An
overflow of the counter is a violation whatever the ceiling. -/
def check (before after : BudgetEnvelope) (cost tokens : Nat) : Option BudgetExceededError :=
  if u64Max < before.spentCost + cost then
    some (.cost after.spentCost after.maxCost)
  else if after.maxCost < after.spentCost then
    some (.cost after.spentCost after.maxCost)
  else if u64Max < before.spentTokens + tokens then
    some (.tokens after.spentTokens after.maxTokens)
  else if after.maxTokens < after.spentTokens then
    some (.tokens after.spentTokens after.maxTokens)
  else none

def recordAndCheck (cost tokens : Nat) : BudgetEnvelope × Option BudgetExceededError :=
  (envelope.record cost tokens, check envelope (envelope.record cost tokens) cost tokens)

def reconcileRefund (cost tokens : Nat) : BudgetEnvelope :=
  { envelope with
    spentCost := envelope.spentCost - cost
    spentTokens := envelope.spentTokens - tokens }

/-- `increment_iteration`: at the limit the counter stays. -/
def incrementIteration : Except BudgetExceededError BudgetEnvelope :=
  if envelope.maxIterations ≤ envelope.currentIterations then
    .error (.iterations (envelope.currentIterations + 1) envelope.maxIterations)
  else
    .ok { envelope with
      currentIterations := envelope.currentIterations + 1 }

end BudgetEnvelope

end FusionRouter
