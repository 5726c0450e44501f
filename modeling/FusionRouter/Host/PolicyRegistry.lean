import Mathlib.Data.List.Sort
import FusionRouter.Compiler.Policy

/-!
# The policy registry

Policies are stored as the text of their declarations and read back when a
workflow is compiled.  One stored text that cannot be read, or that names an
unknown effect, rejects the whole registry.
-/

namespace FusionRouter

structure PolicyDeclarationSnapshot where
  id : String
  name : String
  rule : String
deriving Repr, DecidableEq

structure PolicySnapshot where
  version : Nat
  policies : List PolicyDeclarationSnapshot
deriving Repr, DecidableEq

/-- A stored declaration.  Its conditions are listed in the order in which
their map is walked. -/
structure PolicyDeclaration where
  name : String
  priority : Nat
  matchTarget : String
  effect : String
  conditions : List (String × Json)

/-- `serde_json::from_str` on a stored text: the declaration or the error. -/
abbrev DeclarationReader := String → Except String PolicyDeclaration

namespace PolicyIR

def effectNamed (name : String) : Option PolicyEffect :=
  if name = "deny" then some .deny
  else if name = "approval" then some .approval
  else if name = "allow" then some .allow
  else none

def storedRule (read : DeclarationReader) (stored : PolicyDeclarationSnapshot) :
    Except String PolicyRule :=
  match read stored.rule with
  | .error error =>
    .error ("policy '" ++ stored.name ++ "' (id " ++ stored.id ++
      "): stored rule is not a valid declaration: " ++ error)
  | .ok declaration =>
    match effectNamed declaration.effect with
    | none =>
      .error ("policy '" ++ declaration.name ++ "' has invalid effect '" ++
        declaration.effect ++ "'")
    | some effect =>
      .ok
        { ruleId := declaration.name
          targetPattern := declaration.matchTarget
          priority := declaration.priority
          effect := effect
          conditions := declaration.conditions.map (fun entry => ⟨entry.1, entry.2⟩) }

/-- The order of the rules: by effect, then by falling priority. -/
def SortsBefore (left right : PolicyRule) : Prop :=
  PolicyPrecedence.keyLe right left = true

instance : DecidableRel SortsBefore :=
  fun left right => inferInstanceAs
    (Decidable (PolicyPrecedence.keyLe right left = true))

/-- The loop over the stored policies, with the rules and errors so far. -/
def collectRules (read : DeclarationReader) :
    List PolicyDeclarationSnapshot → List PolicyRule → List String → List PolicyRule × List String
  | [], rules, errors => (rules, errors)
  | stored :: rest, rules, errors =>
    match storedRule read stored with
    | .error error => collectRules read rest rules (errors ++ [error])
    | .ok rule => collectRules read rest (rules ++ [rule]) errors

def fromPolicySnapshot (read : DeclarationReader) (snapshot : PolicySnapshot) :
    Except String PolicyIR :=
  if snapshot.policies = [] then .ok { rules := [] }
  else
    match collectRules read snapshot.policies [] [] with
    | (rules, []) => .ok { rules := rules.insertionSort SortsBefore }
    | (_, errors) => .error ("; ".intercalate errors)

end PolicyIR

/-- The registry: the current version with its policies, and the snapshots of
all versions. -/
structure PolicyRegistry where
  version : Nat
  policies : List PolicyDeclarationSnapshot
  history : List PolicySnapshot
deriving Repr, DecidableEq

namespace PolicyRegistry

def new : PolicyRegistry :=
  { version := 1
    policies := []
    history := [⟨1, []⟩] }

variable (registry : PolicyRegistry)

def currentSnapshot : PolicySnapshot :=
  { version := registry.version
    policies := registry.policies }

/-- Put these policies in force as the next version. -/
def commit (policies : List PolicyDeclarationSnapshot) : PolicyRegistry :=
  { version := registry.version + 1
    policies := policies
    history := registry.history ++ [⟨registry.version + 1, policies⟩] }

/-- Replace the policy with this id or add one. -/
def applyPolicy (id name rule : String) : PolicyRegistry :=
  registry.commit (registry.policies.filter (fun stored => stored.id ≠ id) ++ [⟨id, name, rule⟩])

def removePolicy (id : String) : PolicyRegistry :=
  registry.commit (registry.policies.filter (fun stored => stored.id ≠ id))

/-- `Ok(None)` when there are no policies. -/
def policyIr (read : DeclarationReader) (registry : PolicyRegistry) :
    Except String (Option PolicyIR) :=
  if registry.currentSnapshot.policies = [] then .ok none
  else
    match PolicyIR.fromPolicySnapshot read registry.currentSnapshot with
    | .error error => .error error
    | .ok policy => .ok (some policy)

end PolicyRegistry

end FusionRouter
