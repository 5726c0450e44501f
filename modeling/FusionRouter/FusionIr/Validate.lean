import Mathlib.Data.List.Sort
import Mathlib.Data.Prod.Lex
import FusionRouter.Lib.ColorSearch
import FusionRouter.Lib.EdgeList
import FusionRouter.Lib.Worklist
import FusionRouter.Types.JsonText

/-!
# Planned workflows and their validation

The `WorkflowIR` of the planner, with nodes named by strings, and
`WorkflowIR::validate`, which runs every check and reports all issues.  The
main result says what a workflow without issues is.
-/

namespace FusionRouter

open List

namespace Json

/-- The object key occurs somewhere in the value. -/
inductive HasKey (key : String) : Json → Prop where
  | here {fields : List (String × Json)} {value : Json}
      (member : (key, value) ∈ fields) : HasKey key (.object fields)
  | field {fields : List (String × Json)} {entry : String × Json}
      (member : entry ∈ fields) (inner : HasKey key entry.2) :
      HasKey key (.object fields)
  | item {items : List Json} {value : Json} (member : value ∈ items)
      (inner : HasKey key value) : HasKey key (.array items)

end Json

namespace FusionIr

open Relation

inductive WorkflowNodeKind where
  | task
  | tool
  | retrieval
  | memory
  | review
  | judge
  | security
  | aggregation
  | output
deriving Repr, DecidableEq

inductive WorkflowEdgeKind where
  | sequential
  | parallel
  | conditional
  | retry
  | merge
  | loop
deriving Repr, DecidableEq

/-- `BTreeMap<String, Value>`. -/
structure Config where
  fields : List (String × Json)
  wellFormed : (Json.object fields).WellFormed

def Config.get (config : Config) (key : String) : Option Json :=
  config.fields.lookup key

/-- `serde_json::to_value` of the map. -/
def Config.toValue (config : Config) : Json :=
  .object config.fields

structure WorkflowNode where
  id : String
  kind : WorkflowNodeKind
  capability : Option String
  selectedModel : Option String
  config : Config

structure WorkflowEdge where
  source : String
  target : String
  kind : WorkflowEdgeKind
  condition : Option String
deriving Repr, DecidableEq

structure WorkflowMetadata where
  policyApplied : List String
  policyVersion : Nat
  estimatedCost : Nat
  estimatedTokens : Nat
deriving Repr, DecidableEq

structure WorkflowIR where
  version : Nat
  workflowId : Uuid
  nodes : List WorkflowNode
  edges : List WorkflowEdge
  metadata : WorkflowMetadata

def workflowIrVersion : Nat := 1

inductive ValidationError where
  | duplicateNodeId (id : String)
  | unknownNodeRef (id : String)
  | unreachableNode (id : String)
  | missingRoot
  | illegalCycle (source target : String)
  | missingCondition (source target : String)
  | notRetryable (id : String)
  | mergeArity (id : String)
  | outputOutgoing (id : String)
  | splitArity (id : String)
  | loopConfig (id : String)
  | barrierArity (id : String)
  | providerField (key : String)
  | versionMismatch (found expected : Nat)
deriving Repr, DecidableEq

/-- `Display`, by which issues are sorted. -/
def ValidationError.text : ValidationError → String
  | .duplicateNodeId id => "duplicate node id `" ++ id ++ "`"
  | .unknownNodeRef id => "edge references unknown node `" ++ id ++ "`"
  | .unreachableNode id => "node `" ++ id ++ "` is unreachable"
  | .missingRoot => "graph has no root node"
  | .illegalCycle source target =>
    "edge `" ++ source ++ "` -> `" ++ target ++ "` may not form a cycle (only Loop edges may cycle)"
  | .missingCondition source target =>
    "conditional edge `" ++ source ++ "` -> `" ++ target ++ "` requires a condition"
  | .notRetryable id => "retry edge source `" ++ id ++ "` is not retryable"
  | .mergeArity id =>
    "merge target `" ++ id ++ "` requires at least two incoming edges"
  | .outputOutgoing id =>
    "output node `" ++ id ++ "` may not have outgoing edges"
  | .splitArity id =>
    "split node `" ++ id ++ "` requires at least two outgoing edges"
  | .loopConfig id =>
    "loop edge source `" ++ id ++ "` requires `max_iterations` in config"
  | .barrierArity id =>
    "barrier node `" ++ id ++ "` requires at least one incoming and one outgoing edge"
  | .providerField key =>
    "provider-identifying field `" ++ key ++ "` is reserved by the architecture"
  | .versionMismatch found expected =>
    "workflow version " ++ toString found ++ " is not supported (expected " ++
      toString expected ++ ")"

structure ValidationIssue where
  node : Option String
  edge : Option String
  error : ValidationError
deriving Repr, DecidableEq

namespace ValidationIssue

def atNode (id : String) (error : ValidationError) : ValidationIssue :=
  { node := some id
    edge := none
    error := error }

def atEdge (source target : String) (error : ValidationError) :
    ValidationIssue :=
  { node := none
    edge := some (source ++ " -> " ++ target)
    error := error }

def atGraph (error : ValidationError) : ValidationIssue :=
  { node := none
    edge := none
    error := error }

def sortKey (issue : ValidationIssue) : String ×ₗ String ×ₗ String :=
  toLex (issue.node.getD "", toLex (issue.edge.getD "", issue.error.text))

/-- `sort_deterministic`, a stable sort. -/
def sortDeterministic (issues : List ValidationIssue) : List ValidationIssue :=
  issues.insertionSort (fun left right => left.sortKey ≤ right.sortKey)

theorem sortDeterministic_eq_nil_iff : sortDeterministic issues = [] ↔ issues = [] := by
  have permuted : (sortDeterministic issues).Perm issues := perm_insertionSort _ issues
  constructor
  · intro empty
    exact (empty ▸ permuted).nil_eq.symm
  · rintro rfl
    rfl

end ValidationIssue

namespace WorkflowIR

section

variable (ir : WorkflowIR)

def nodeIds : List String :=
  ir.nodes.map WorkflowNode.id

def find (id : String) : Option WorkflowNode :=
  ir.nodes.find? (fun node => node.id = id)

def incoming (id : String) : Nat :=
  ir.edges.countP (fun edge => edge.target = id)

def outgoing (id : String) : Nat :=
  ir.edges.countP (fun edge => edge.source = id)

/-- The endpoints of the edges that pass a test. -/
def pairs (keep : WorkflowEdge → Bool) : List (String × String) :=
  (ir.edges.filter keep).map (fun edge => (edge.source, edge.target))

def StepAlong (keep : WorkflowEdge → Bool) (left right : String) : Prop :=
  ∃ edge, edge ∈ ir.edges ∧ keep edge = true ∧ edge.source = left ∧ edge.target = right

theorem mem_targets_pairs {ir : WorkflowIR} :
    right ∈ EdgeList.targets (ir.pairs keep) left ↔ ir.StepAlong keep left right := by
  simp [EdgeList.mem_targets, pairs, StepAlong, and_assoc]

theorem length_pairs_le (keep : WorkflowEdge → Bool) :
    (ir.pairs keep).length ≤ ir.edges.length := by
  rw [pairs, length_map]
  exact length_filter_le _ _

/-- Ids that stand in the list again, after `seen`. -/
def repeated : List String → List String → List String
  | [], _ => []
  | id :: ids, seen =>
    if id ∈ seen then id :: repeated ids seen
    else repeated ids (id :: seen)

theorem repeated_eq_nil_iff : repeated ids seen = [] ↔ ids.Nodup ∧ ∀ id ∈ ids, id ∉ seen := by
  induction ids generalizing seen with
  | nil => simp [repeated]
  | cons id ids induction =>
    rw [repeated, nodup_cons, forall_mem_cons]
    split
    next old => simp [old]
    next fresh =>
      simp only [induction, mem_cons, not_or]
      constructor
      · rintro ⟨distinct, later⟩
        refine ⟨⟨?_, distinct⟩, fresh, fun other member => (later other member).2⟩
        intro member
        exact (later id member).1 rfl
      · rintro ⟨⟨first, distinct⟩, -, later⟩
        refine ⟨distinct, fun other member => ⟨?_, later other member⟩⟩
        rintro rfl
        exact first member

def unknownRefs (edge : WorkflowEdge) : List ValidationIssue :=
  ([edge.source, edge.target].filter (fun id => id ∉ ir.nodeIds)).map
    (fun id => .atEdge edge.source edge.target (.unknownNodeRef id))

/-- Back-edges into a loop head do not make it depend on itself. -/
def rootIncoming (id : String) : Nat :=
  ir.edges.countP (fun edge => edge.kind ≠ .loop ∧ edge.target ∈ ir.nodeIds ∧ edge.target = id)

def roots : List String :=
  ir.nodeIds.filter (fun id => ir.rootIncoming id = 0)

/-- The walk from the roots, along edges of every kind.  The vector is popped
at its end. -/
def reachable : Finset String :=
  Worklist.sweep (EdgeList.targets (ir.pairs (fun _ => true)))
    (ir.roots.length + ir.edges.length) ir.roots.reverse ∅

def structuralChecks : List ValidationIssue :=
  (repeated ir.nodeIds []).map (fun id => .atNode id (.duplicateNodeId id)) ++
    ir.edges.flatMap ir.unknownRefs ++ (if ir.roots = [] then [.atGraph .missingRoot] else []) ++
    (ir.nodeIds.filter (fun id => id ∉ ir.reachable)).map
      (fun id => .atNode id (.unreachableNode id))

def nodeKindOf (id : String) : Option WorkflowNodeKind :=
  (ir.find id).map WorkflowNode.kind

def controlFlowMarker (id : String) : Option String :=
  (ir.find id).bind (fun node => (node.config.get "control_flow").bind Json.asStr)

/-- The distinct sources of merge edges into a node. -/
def mergeSources (id : String) : Nat :=
  ((ir.edges.filter (fun edge => edge.kind = .merge ∧ edge.target = id)).map
    WorkflowEdge.source).dedup.length

def isRetryable : WorkflowNodeKind → Bool
  | .task => true
  | .tool => true
  | .retrieval => true
  | _ => false

def edgeIssue (edge : WorkflowEdge) : Option ValidationIssue :=
  let issue := ValidationIssue.atEdge edge.source edge.target
  match edge.kind with
  | .conditional =>
    if edge.condition.getD "" = "" then
      some (issue (.missingCondition edge.source edge.target))
    else none
  | .retry =>
    if (ir.nodeKindOf edge.source).any isRetryable then none
    else some (issue (.notRetryable edge.source))
  | .merge =>
    if ir.mergeSources edge.target < 2 then
      some (issue (.mergeArity edge.target))
    else none
  | _ => none

def outputIssue (node : WorkflowNode) : Option ValidationIssue :=
  if node.kind = .output ∧ 0 < ir.outgoing node.id then
    some (.atNode node.id (.outputOutgoing node.id))
  else none

/-- The edges that may not lie on a cycle. -/
def isForward (edge : WorkflowEdge) : Bool :=
  edge.kind ≠ .loop

def nonLoopCycleBackEdges : List (String × String) :=
  ColorSearch.collectAll (EdgeList.targets (ir.pairs isForward))
    (ir.nodes.length + 2 * ir.edges.length) ir.nodeIds (fun _ => .white) []

def loopIssue (edge : WorkflowEdge) : Option ValidationIssue :=
  if edge.kind = .loop ∧ ir.controlFlowMarker edge.source = some "loop" ∧
      ((ir.find edge.source).bind (fun node => node.config.get "max_iterations")) = none then
    some { ValidationIssue.atEdge edge.source edge.target
        (.loopConfig edge.source) with
      node := some edge.source }
  else none

def arityIssue (node : WorkflowNode) : Option ValidationIssue :=
  if ir.controlFlowMarker node.id = some "split" then
    if ir.outgoing node.id < 2 then
      some (.atNode node.id (.splitArity node.id))
    else none
  else if ir.controlFlowMarker node.id = some "barrier" then
    if ir.incoming node.id < 1 ∨ ir.outgoing node.id < 1 then
      some (.atNode node.id (.barrierArity node.id))
    else none
  else none

def semanticChecks : List ValidationIssue :=
  ir.edges.filterMap ir.edgeIssue ++ ir.nodes.filterMap ir.outputIssue ++
    ir.nonLoopCycleBackEdges.map (fun edge =>
      .atEdge edge.1 edge.2 (.illegalCycle edge.1 edge.2)) ++
    ir.edges.filterMap ir.loopIssue ++ ir.nodes.filterMap ir.arityIssue

end

def reservedProviderKeys : List String :=
  ["model", "provider", "endpoint"]

mutual

/-- `scan_for_provider_keys`: the reserved keys of a value, in the order in
which they are met. -/
def providerKeys : Json → List String
  | .object fields => providerKeysOfFields fields
  | .array items => providerKeysOfItems items
  | _ => []

def providerKeysOfItems : List Json → List String
  | [] => []
  | item :: items => providerKeys item ++ providerKeysOfItems items

def providerKeysOfFields : List (String × Json) → List String
  | [] => []
  | (key, value) :: fields =>
    (if key ∈ reservedProviderKeys then [key] else []) ++
      providerKeys value ++ providerKeysOfFields fields

end

def architecturalChecks (ir : WorkflowIR) : List ValidationIssue :=
  (if ir.version ≠ workflowIrVersion then
    [.atGraph (.versionMismatch ir.version workflowIrVersion)] else []) ++
    ir.nodes.flatMap (fun node => (providerKeys node.config.toValue).map
      (fun key => .atNode node.id (.providerField key)))

def validate (ir : WorkflowIR) : List ValidationIssue :=
  ValidationIssue.sortDeterministic
    (ir.structuralChecks ++ ir.semanticChecks ++ ir.architecturalChecks)

/-- What the checks ask for. -/
structure Valid (ir : WorkflowIR) : Prop where
  distinct : ir.nodeIds.Nodup
  known : ∀ edge, edge ∈ ir.edges → edge.source ∈ ir.nodeIds ∧ edge.target ∈ ir.nodeIds
  rooted : ir.roots ≠ []
  reached : ∀ id, id ∈ ir.nodeIds → ∃ root, root ∈ ir.roots ∧
    ReflTransGen (ir.StepAlong (fun _ => true)) root id
  conditional : ∀ edge, edge ∈ ir.edges → edge.kind = .conditional →
    ∃ condition, edge.condition = some condition ∧ condition ≠ ""
  retryable : ∀ edge, edge ∈ ir.edges → edge.kind = .retry →
    ∃ kind, ir.nodeKindOf edge.source = some kind ∧ isRetryable kind = true
  merged : ∀ edge, edge ∈ ir.edges → edge.kind = .merge → 2 ≤ ir.mergeSources edge.target
  outputs : ∀ node, node ∈ ir.nodes → node.kind = .output → ir.outgoing node.id = 0
  acyclic : Digraph.Acyclic (ir.StepAlong isForward)
  bounded : ∀ edge, edge ∈ ir.edges → edge.kind = .loop →
    ir.controlFlowMarker edge.source = some "loop" →
    ((ir.find edge.source).bind (fun node => node.config.get "max_iterations")).isSome
  splits : ∀ node, node ∈ ir.nodes →
    ir.controlFlowMarker node.id = some "split" → 2 ≤ ir.outgoing node.id
  barriers : ∀ node, node ∈ ir.nodes → ir.controlFlowMarker node.id = some "barrier" →
    1 ≤ ir.incoming node.id ∧ 1 ≤ ir.outgoing node.id
  version : ir.version = workflowIrVersion
  providerFree : ∀ node, node ∈ ir.nodes → ∀ key,
    key ∈ reservedProviderKeys → ¬ node.config.toValue.HasKey key

theorem mem_reachable_iff (ir : WorkflowIR) (id : String) :
    id ∈ ir.reachable ↔ ∃ root, root ∈ ir.roots ∧
      ReflTransGen (ir.StepAlong (fun _ => true)) root id := by
  have step : Worklist.Step (EdgeList.targets (ir.pairs (fun _ => true))) =
      ir.StepAlong (fun _ => true) := by
    funext left right
    exact propext mem_targets_pairs
  have sources : ∀ edge, edge ∈ ir.pairs (fun _ => true) →
      edge.1 ∈ (ir.edges.map WorkflowEdge.source).toFinset := by
    intro edge member
    obtain ⟨original, inside, rfl⟩ := mem_map.mp member
    rw [mem_toFinset]
    exact mem_map_of_mem (mem_of_mem_filter inside)
  have edges := EdgeList.sum_targets_length (ir.pairs (fun _ => true)) sources
  rw [reachable, Worklist.sweep_eq_drain, Worklist.mem_drain_iff
    (Worklist.pushes_reverse _) (ir.edges.map WorkflowEdge.source).toFinset, step]
  · simp only [mem_reverse]
  · intro left right follows
    exact sources (left, right) (EdgeList.mem_targets.mp follows)
  · rw [edges, length_reverse]
    have short := ir.length_pairs_le (fun _ => true)
    omega

theorem structuralChecks_eq_nil_iff (ir : WorkflowIR) :
    ir.structuralChecks = [] ↔ ir.nodeIds.Nodup ∧ (∀ edge ∈ ir.edges,
        edge.source ∈ ir.nodeIds ∧ edge.target ∈ ir.nodeIds) ∧ ir.roots ≠ [] ∧
      ∀ id ∈ ir.nodeIds, ∃ root, root ∈ ir.roots ∧
        ReflTransGen (ir.StepAlong (fun _ => true)) root id := by
  simp [structuralChecks, repeated_eq_nil_iff, unknownRefs, filter_eq_nil_iff, mem_reachable_iff]

variable {ir : WorkflowIR}

/-- With every endpoint known, the search starts from every source of an
edge. -/
theorem nonLoopCycleBackEdges_eq_nil_iff
    (known : ∀ edge ∈ ir.edges, edge.source ∈ ir.nodeIds ∧ edge.target ∈ ir.nodeIds) :
    ir.nonLoopCycleBackEdges = [] ↔ Digraph.Acyclic (ir.StepAlong isForward) := by
  have edge : ColorSearch.Edge (EdgeList.targets (ir.pairs isForward)) =
      ir.StepAlong isForward := by
    funext left right
    exact propext mem_targets_pairs
  have endpoints : ∀ {left right : String}, right ∈ EdgeList.targets (ir.pairs isForward) left →
        left ∈ ir.nodeIds ∧ right ∈ ir.nodeIds := by
    intro left right follows
    obtain ⟨edge, member, -, rfl, rfl⟩ := mem_targets_pairs.mp follows
    exact known edge member
  rw [nonLoopCycleBackEdges, ← edge]
  apply ColorSearch.collectAll_eq_nil_iff ir.nodeIds.toFinset
  · intro left right follows
    exact mem_toFinset.mpr (endpoints follows).2
  · have sources : ∀ edge ∈ ir.pairs isForward, edge.1 ∈ ir.nodeIds.toFinset := by
      intro edge member
      exact mem_toFinset.mpr (endpoints (EdgeList.mem_targets.mpr member)).1
    have few := toFinset_card_le ir.nodeIds
    have short := ir.length_pairs_le isForward
    have length : ir.nodeIds.length = ir.nodes.length := length_map _
    rw [Finset.sum_add_distrib, EdgeList.sum_targets_length _ sources,
      Finset.sum_const, Nat.nsmul_eq_mul, Nat.mul_one]
    omega
  · intro vertex parent
    obtain ⟨child, member⟩ := exists_mem_of_ne_nil _ parent
    exact (endpoints member).1
  · intro root member
    exact mem_toFinset.mpr member

theorem edgeIssue_eq_none_iff :
    ir.edgeIssue edge = none ↔ (edge.kind = .conditional →
        ∃ condition, edge.condition = some condition ∧ condition ≠ "") ∧
      (edge.kind = .retry → ∃ kind, ir.nodeKindOf edge.source = some kind ∧
        isRetryable kind = true) ∧ (edge.kind = .merge → 2 ≤ ir.mergeSources edge.target) := by
  unfold edgeIssue
  cases kind : edge.kind with
  | conditional =>
    cases condition : edge.condition with
    | none | some text => simp
  | retry => cases found : ir.nodeKindOf edge.source <;> simp
  | merge =>
    simp only [ite_eq_right_iff, reduceCtorEq, imp_false, Nat.not_lt,
      false_implies, true_and, true_implies]
  | sequential | parallel | loop => simp

theorem providerKeysOfItems_eq_nil_iff :
    providerKeysOfItems items = [] ↔ ∀ item ∈ items, providerKeys item = [] := by
  induction items with
  | nil => simp [providerKeysOfItems]
  | cons item items induction => simp [providerKeysOfItems, induction]

theorem providerKeysOfFields_eq_nil_iff :
    providerKeysOfFields fields = [] ↔ ∀ entry ∈ fields,
      entry.1 ∉ reservedProviderKeys ∧ providerKeys entry.2 = [] := by
  induction fields with
  | nil => simp [providerKeysOfFields]
  | cons entry fields induction =>
    obtain ⟨key, value⟩ := entry
    simp [providerKeysOfFields, induction, and_assoc]

theorem providerKeys_eq_nil_iff (value : Json) :
    providerKeys value = [] ↔ ∀ key ∈ reservedProviderKeys, ¬ value.HasKey key := by
  induction value using Json.inductionOn with
  | null | bool | number | string =>
    exact iff_of_true rfl (fun _ _ has => by cases has)
  | array items each =>
    rw [providerKeys, providerKeysOfItems_eq_nil_iff]
    constructor
    · intro empty key reserved has
      cases has with
      | item member inner =>
        exact (each _ member).mp (empty _ member) key reserved inner
    · intro free item member
      refine (each item member).mpr (fun key reserved inner => ?_)
      exact free key reserved (.item member inner)
  | object fields each =>
    rw [providerKeys, providerKeysOfFields_eq_nil_iff]
    constructor
    · intro empty key reserved has
      cases has with
      | here member => exact (empty _ member).1 reserved
      | field member inner =>
        exact (each _ member).mp (empty _ member).2 key reserved inner
    · intro free entry member
      refine ⟨fun reserved => free entry.1 reserved (.here member),
        (each entry member).mpr (fun key reserved inner => ?_)⟩
      exact free key reserved (.field member inner)

theorem loopIssue_eq_none_iff :
    ir.loopIssue edge = none ↔ (edge.kind = .loop → ir.controlFlowMarker edge.source = some "loop" →
      ((ir.find edge.source).bind (fun node => node.config.get "max_iterations")).isSome) := by
  simp only [loopIssue, ite_eq_right_iff, reduceCtorEq, imp_false, not_and,
    Option.isSome_iff_ne_none]

theorem arityIssue_eq_none_iff :
    ir.arityIssue node = none ↔ (ir.controlFlowMarker node.id = some "split" →
        2 ≤ ir.outgoing node.id) ∧ (ir.controlFlowMarker node.id = some "barrier" →
        1 ≤ ir.incoming node.id ∧ 1 ≤ ir.outgoing node.id) := by
  unfold arityIssue
  split
  next split =>
    simp only [split, ite_eq_right_iff, reduceCtorEq, imp_false, Nat.not_lt,
      true_implies, Option.some.injEq, String.reduceEq, false_implies, and_true]
  next other =>
    split
    next barrier => simp [barrier, Nat.one_le_iff_ne_zero]
    next neither => simp [other, neither]

theorem semanticChecks_eq_nil_iff
    (known : ∀ edge ∈ ir.edges, edge.source ∈ ir.nodeIds ∧ edge.target ∈ ir.nodeIds) :
    ir.semanticChecks = [] ↔ (∀ edge ∈ ir.edges, ir.edgeIssue edge = none) ∧
      (∀ node ∈ ir.nodes, node.kind = .output → ir.outgoing node.id = 0) ∧
      Digraph.Acyclic (ir.StepAlong isForward) ∧ (∀ edge ∈ ir.edges, ir.loopIssue edge = none) ∧
      ∀ node ∈ ir.nodes, ir.arityIssue node = none := by
  simp only [semanticChecks, append_eq_nil_iff, filterMap_eq_nil_iff, map_eq_nil_iff,
    nonLoopCycleBackEdges_eq_nil_iff known, outputIssue, ite_eq_right_iff,
    reduceCtorEq, imp_false, not_and, not_lt, Nat.le_zero, and_assoc]

variable (ir : WorkflowIR)

theorem architecturalChecks_eq_nil_iff :
    ir.architecturalChecks = [] ↔ ir.version = workflowIrVersion ∧
      ∀ node ∈ ir.nodes, ∀ key ∈ reservedProviderKeys, ¬ node.config.toValue.HasKey key := by
  simp [architecturalChecks, providerKeys_eq_nil_iff]

theorem validate_eq_nil_iff : ir.validate = [] ↔ ir.Valid := by
  rw [validate, ValidationIssue.sortDeterministic_eq_nil_iff, append_eq_nil_iff, append_eq_nil_iff,
    structuralChecks_eq_nil_iff, architecturalChecks_eq_nil_iff]
  constructor
  · rintro ⟨⟨⟨distinct, known, rooted, reached⟩, semantic⟩, version, free⟩
    obtain ⟨edges, outputs, acyclic, loops, arities⟩ :=
      (semanticChecks_eq_nil_iff known).mp semantic
    exact {
      distinct, known, rooted, reached, outputs, acyclic, version
      conditional := fun edge member =>
        (edgeIssue_eq_none_iff.mp (edges edge member)).1
      retryable := fun edge member =>
        (edgeIssue_eq_none_iff.mp (edges edge member)).2.1
      merged := fun edge member =>
        (edgeIssue_eq_none_iff.mp (edges edge member)).2.2
      bounded := fun edge member =>
        loopIssue_eq_none_iff.mp (loops edge member)
      splits := fun node member =>
        (arityIssue_eq_none_iff.mp (arities node member)).1
      barriers := fun node member =>
        (arityIssue_eq_none_iff.mp (arities node member)).2
      providerFree := free }
  · intro valid
    refine ⟨⟨⟨valid.distinct, valid.known, valid.rooted, valid.reached⟩,
      (semanticChecks_eq_nil_iff valid.known).mpr ⟨?_, valid.outputs, valid.acyclic, ?_, ?_⟩⟩,
      valid.version, valid.providerFree⟩
    · intro edge member
      exact edgeIssue_eq_none_iff.mpr ⟨valid.conditional edge member,
        valid.retryable edge member, valid.merged edge member⟩
    · intro edge member
      exact loopIssue_eq_none_iff.mpr (valid.bounded edge member)
    · intro node member
      exact arityIssue_eq_none_iff.mpr ⟨valid.splits node member, valid.barriers node member⟩

/-! ## What the checks find -/

/-- Nothing but loop edges leads to the node. -/
def Initial (id : String) : Prop :=
  id ∈ ir.nodeIds ∧ ∀ edge, edge ∈ ir.edges → edge.kind ≠ .loop → edge.target ≠ id

theorem mem_roots_iff (id : String) : id ∈ ir.roots ↔ ir.Initial id := by
  rw [roots, mem_filter, Initial, decide_eq_true_eq, rootIncoming, countP_eq_zero]
  refine and_congr_right fun listed => forall₂_congr fun edge member => ?_
  rw [decide_eq_true_eq, not_and, not_and]
  constructor
  · rintro passes forward rfl
    exact passes forward listed rfl
  · intro passes forward _ same
    exact passes forward same

def Reached (id : String) : Prop :=
  ∃ root, ir.Initial root ∧ ReflTransGen (ir.StepAlong (fun _ => true)) root id

theorem mem_reachable_iff_reached (id : String) : id ∈ ir.reachable ↔ ir.Reached id := by
  simp only [mem_reachable_iff, mem_roots_iff, Reached]

/-- Where the structural and semantic checks report nothing, ids are distinct,
endpoints exist, every node is reached and only loop edges close cycles.  A
cycle of other edges and a node that is not reached are always reported. -/
theorem validation_soundness (ir : WorkflowIR) :
    (ir.structuralChecks = [] → ir.semanticChecks = [] → ir.nodeIds.Nodup ∧
      (∀ edge, edge ∈ ir.edges → edge.source ∈ ir.nodeIds ∧ edge.target ∈ ir.nodeIds) ∧
      (∀ id, id ∈ ir.nodeIds → ir.Reached id) ∧ Digraph.Acyclic (ir.StepAlong isForward)) ∧
    (¬ Digraph.Acyclic (ir.StepAlong isForward) →
      ir.structuralChecks ≠ [] ∨ ir.semanticChecks ≠ []) ∧ ∀ id, id ∈ ir.nodeIds → ¬ ir.Reached id →
      .atNode id (.unreachableNode id) ∈ ir.structuralChecks := by
  refine ⟨?_, ?_, ?_⟩
  · intro structural semantic
    obtain ⟨distinct, known, -, reached⟩ := (structuralChecks_eq_nil_iff ir).mp structural
    have acyclic := ((semanticChecks_eq_nil_iff known).mp semantic).2.2.1
    refine ⟨distinct, known, fun id listed => ?_, acyclic⟩
    rw [← mem_reachable_iff_reached, mem_reachable_iff]
    exact reached id listed
  · intro cyclic
    by_contra silent
    obtain ⟨structural, semantic⟩ := not_or.mp silent
    have known := ((structuralChecks_eq_nil_iff ir).mp (not_not.mp structural)).2.1
    exact cyclic ((semanticChecks_eq_nil_iff known).mp (not_not.mp semantic)).2.2.1
  · intro id listed apart
    refine mem_append_right _ (mem_map.mpr ⟨id, ?_, rfl⟩)
    refine mem_filter.mpr ⟨listed, decide_eq_true ?_⟩
    rwa [mem_reachable_iff_reached]

end WorkflowIR

end FusionIr

end FusionRouter
