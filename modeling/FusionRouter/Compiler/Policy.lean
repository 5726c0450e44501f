import FusionRouter.Compiler.Validation

/-!
# Policy rules and the policy pass

Rules are matched against one symbol of each node.  A winning `Deny` rejects
the workflow, a winning `Approval` puts a gate in front of the node unless a
gate already leads into it.  Patterns are read as lists of characters.
-/

namespace FusionRouter

inductive PolicyEffect where
  | deny
  | approval
  | allow
deriving Repr, DecidableEq

structure PolicyCondition where
  field : String
  expected : Json

structure PolicyRule where
  ruleId : String
  targetPattern : String
  priority : Nat
  effect : PolicyEffect
  conditions : List PolicyCondition

structure PolicyIR where
  rules : List PolicyRule

structure PolicyFacts where
  model : String
  strategy : String
  nodeKind : Option String
  capability : Option String

namespace PolicyPrecedence

def splitOnce (separator : Char) : List Char → Option (List Char × List Char)
  | [] => none
  | head :: tail =>
    if head = separator then some ([], tail)
    else (splitOnce separator tail).map (fun parts => (head :: parts.1, parts.2))

/-- `str::split`: the pieces between separators, empty ones included. -/
def splitAll (separator : Char) : List Char → List (List Char)
  | [] => [[]]
  | head :: tail =>
    if head = separator then [] :: splitAll separator tail
    else
      match splitAll separator tail with
      | [] => [[head]]
      | piece :: pieces => (head :: piece) :: pieces

/-- What follows the first occurrence of `segment`. -/
def afterFirst (segment : List Char) : List Char → Option (List Char)
  | [] => if segment = [] then some [] else none
  | head :: tail =>
    if segment.isPrefixOf (head :: tail) then
      some ((head :: tail).drop segment.length)
    else afterFirst segment tail

/-- The segments occur in this order without overlap. -/
def containsInOrder : List (List Char) → List Char → Bool
  | [], _ => true
  | segment :: segments, cursor =>
    match afterFirst segment cursor with
    | some rest => containsInOrder segments rest
    | none => false

/-- `suffix.strip_suffix('*')`. -/
def stripStar (suffix : List Char) : Option (List Char) :=
  if suffix.getLast? = some '*' then some suffix.dropLast else none

def patternMatches (pattern candidate : String) : Bool :=
  match splitOnce '*' pattern.toList with
  | none => pattern == candidate
  | some (head, suffix) =>
    if !head.isPrefixOf candidate.toList then false
    else
      let rest := candidate.toList.drop head.length
      if suffix = [] then true
      else
        match stripStar suffix with
        | some middle => containsInOrder (splitAll '*' middle) rest
        | none => suffix.isSuffixOf rest

def evaluateCondition (externals : Externals) (condition : PolicyCondition)
    (facts : PolicyFacts) : Bool :=
  let actual : Option String :=
    if condition.field = "kind" then facts.nodeKind
    else if condition.field = "model" then some facts.model
    else if condition.field = "strategy" then some facts.strategy
    else if condition.field = "capability" then facts.capability
    else none
  match actual with
  | some value =>
    value == condition.expected.asStr.getD (externals.jsonText condition.expected)
  | none => false

/-- `Deny` before `Approval` before `Allow`. -/
def effectRank : PolicyEffect → Nat
  | .deny => 2
  | .approval => 1
  | .allow => 0

/-- The order of the keys `(Reverse(effect), priority)`. -/
def keyLe (left right : PolicyRule) : Bool :=
  decide (effectRank left.effect < effectRank right.effect) ||
    (decide (effectRank left.effect = effectRank right.effect) &&
      decide (left.priority ≤ right.priority))

/-- `max_by_key`: of several maximal rules the last one. -/
def maxByKey (rules : List PolicyRule) : Option PolicyRule :=
  rules.foldl (fun best rule =>
    match best with
    | none => some rule
    | some other => if keyLe other rule then some rule else some other) none

def ruleMatches (externals : Externals) (symbol : String)
    (facts : PolicyFacts) (rule : PolicyRule) : Bool :=
  patternMatches rule.targetPattern symbol && rule.conditions.all
      (fun condition => evaluateCondition externals condition facts)

def evaluateMatchingRule (externals : Externals) (policy : PolicyIR)
    (symbol : String) (facts : PolicyFacts) : Option PolicyRule :=
  maxByKey (policy.rules.filter (ruleMatches externals symbol facts))

end PolicyPrecedence

def StrategyKind.asLabel (externals : Externals) : StrategyKind → String
  | .single => "Single"
  | .consensus => "Consensus"
  | .reflection => "Reflection"
  | .chain => "Chain"
  | .debate => "Debate"
  | .reAct => "ReAct"
  | .fusion => "Fusion"
  | .custom name => "Custom(" ++ externals.debugText name ++ ")"

def IRNodeKind.tag : IRNodeKind → String
  | .generate => "Generate"
  | .review => "Review"
  | .judge => "Judge"
  | .transform => "Transform"
  | .gate => "Gate"
  | .conditional => "Conditional"
  | .loop => "Loop"
  | .split => "Split"
  | .join => "Join"
  | .barrier => "Barrier"

namespace PolicyCompiler

def capability (node : IRNode) : Option String :=
  (node.config "capability").bind Json.asStr

/-- The capability of a node, else its model, else `"general"`. -/
def symbolKey (node : IRNode) : String :=
  ((capability node).or node.model).getD "general"

variable (externals : Externals)

def facts (node : IRNode) : PolicyFacts :=
  { model := node.model.getD ""
    strategy := node.strategy.asLabel externals
    nodeKind := some node.kind.tag
    capability := capability node }

def winningRule (policy : PolicyIR) (node : IRNode) : Option PolicyRule :=
  PolicyPrecedence.evaluateMatchingRule externals policy (symbolKey node) (facts externals node)

def denied (rule : PolicyRule) (node : IRNode) : CompilerError :=
  .validation "policy" (some node.id)
    ("Policy rule '" ++ rule.ruleId ++ "' denies target '" ++
      rule.targetPattern ++ "' (effect: deny); node " ++
      externals.uuidText node.id ++ " cannot be compiled")

/-- A gate of the workflow leads into the node. -/
def alreadyGuarded (nodes : List IRNode) (edges : List IREdge) (id : Uuid) : Bool :=
  edges.any (fun edge => decide (edge.target = id) && nodes.any (fun node =>
      decide (node.id = edge.source) && decide (node.kind = .gate)))

def gateId (id : Uuid) : Uuid :=
  externals.uuidV5 id "policy_approval_gate"

def gateNode (id : Uuid) : IRNode :=
  { id := gateId externals id
    kind := .gate
    strategy := .single
    model := some "policy.approval_gate"
    config := Table.empty }

def gateEdge (id : Uuid) : IREdge :=
  { source := gateId externals id
    target := id
    condition := none }

/-- The loop over the nodes, with the edges and the gates added so far. -/
def guardNodes (policy : PolicyIR) (nodes : List IRNode) :
    List IRNode → List IREdge → List IRNode → Except CompilerError (List IREdge × List IRNode)
  | [], edges, gates => .ok (edges, gates)
  | node :: rest, edges, gates =>
    match winningRule externals policy node with
    | none => guardNodes policy nodes rest edges gates
    | some rule =>
      match rule.effect with
      | .deny => .error (denied externals rule node)
      | .approval =>
        if alreadyGuarded nodes edges node.id then
          guardNodes policy nodes rest edges gates
        else
          guardNodes policy nodes rest (edges ++ [gateEdge externals node.id])
            (gates ++ [gateNode externals node.id])
      | .allow => guardNodes policy nodes rest edges gates

def apply (policy : PolicyIR) : CompilerPass :=
  fun ir =>
    match guardNodes externals policy ir.nodes ir.nodes ir.edges [] with
    | .error error => .error error
    | .ok (edges, gates) =>
      .ok { ir with
        nodes := ir.nodes ++ gates
        edges := edges }

end PolicyCompiler

end FusionRouter
