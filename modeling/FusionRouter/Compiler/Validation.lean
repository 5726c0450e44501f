import FusionRouter.Lib.ColorSearch
import FusionRouter.Lib.EdgeList
import FusionRouter.Types.Workflow

/-!
# Constraint and control-flow validation

The two passes every workflow goes through first.  A loop of the source that
returns at the first violation is a `findSome?` here.
-/

namespace FusionRouter

open List

abbrev CompilerPass := WorkflowIR → Except CompilerError WorkflowIR

def WorkflowIR.outgoingEdges (ir : WorkflowIR) (id : Uuid) : List IREdge :=
  ir.edges.filter (fun edge => edge.source = id)

def WorkflowIR.incomingEdges (ir : WorkflowIR) (id : Uuid) : List IREdge :=
  ir.edges.filter (fun edge => edge.target = id)

namespace ConstraintValidation

def maxIrNodes : Nat := 10000

def invalid (message : String) : CompilerError :=
  .validation "constraint_validation" none message

def apply : CompilerPass := fun ir =>
  if ir.nodes = [] then
    .error (invalid "IR must have at least one node")
  else if maxIrNodes < ir.nodes.length then
    .error (invalid ("IR has " ++ toString ir.nodes.length ++
      " nodes, exceeding the maximum of " ++ toString maxIrNodes))
  else .ok ir

end ConstraintValidation

/-- The children of a vertex in the adjacency map built from `edges`. -/
def childrenOf (edges : List (Uuid × Uuid)) (vertex : Uuid) : List Uuid :=
  (edges.filter (fun edge => edge.1 = vertex)).map Prod.snd

/-- The keys of that map: every endpoint. -/
def endpointsOf (edges : List (Uuid × Uuid)) : List Uuid :=
  (edges.flatMap (fun edge => [edge.1, edge.2])).dedup

/-- Depth-first search from every endpoint, in the order in which the
adjacency map is walked.  One step passes each edge and one finishes each
endpoint. -/
def threeColorCycleDetect (externals : Externals) (edges : List (Uuid × Uuid)) : Except Uuid Unit :=
  match ColorSearch.detect (childrenOf edges) (edges.length + (endpointsOf edges).length)
      (externals.hashOrder (endpointsOf edges)) (fun _ => .white) with
  | .error vertex => .error vertex
  | .ok _ => .ok ()

def Joined (edges : List (Uuid × Uuid)) (left right : Uuid) : Prop :=
  (left, right) ∈ edges

theorem mem_childrenOf : right ∈ childrenOf edges left ↔ Joined edges left right :=
  EdgeList.mem_targets

theorem mem_endpointsOf :
    vertex ∈ endpointsOf edges ↔ ∃ edge, edge ∈ edges ∧ (vertex = edge.1 ∨ vertex = edge.2) := by
  simp only [endpointsOf, mem_dedup, mem_flatMap, mem_cons, not_mem_nil, or_false]

theorem joined_iff_edge : ColorSearch.Edge (childrenOf edges) = Joined edges := by
  funext left right
  exact propext mem_childrenOf

theorem sum_childrenOf_length (edges : List (Uuid × Uuid))
    (covered : ∀ edge ∈ edges, edge.1 ∈ vertices) :
    ∑ vertex ∈ vertices, (childrenOf edges vertex).length = edges.length :=
  EdgeList.sum_targets_length edges covered

theorem threeColorCycleDetect_error
    (reported : threeColorCycleDetect externals edges = .error vertex) :
    Relation.TransGen (Joined edges) vertex vertex := by
  have endpoints : ∀ edge ∈ edges, edge.1 ∈ (endpointsOf edges).toFinset := by
    intro edge member
    rw [mem_toFinset, mem_endpointsOf]
    exact ⟨edge, member, Or.inl rfl⟩
  have fuel : ∑ vertex ∈ (endpointsOf edges).toFinset, ((childrenOf edges vertex).length + 1) =
        edges.length + (endpointsOf edges).length := by
    rw [Finset.sum_add_distrib, sum_childrenOf_length edges endpoints]
    simp [toFinset_card_of_nodup (nodup_dedup _), endpointsOf]
  unfold threeColorCycleDetect at reported
  split at reported
  next failed =>
    cases reported
    rw [← joined_iff_edge]
    refine (ColorSearch.detect_error ?_ (Nat.le_of_eq fuel) [] ?_
      ColorSearch.frontier_white failed).1
    · intro left right member
      rw [mem_toFinset, mem_endpointsOf]
      exact ⟨(left, right), mem_childrenOf.mp member, Or.inr rfl⟩
    · intro root member
      rw [mem_toFinset]
      exact (externals.hashOrder_perm _).mem_iff.mp member
  · cases reported

/-- The cycle check accepts exactly the acyclic edge lists, whatever the order
in which the adjacency map is walked. -/
theorem threeColorCycleDetect_ok_iff (externals : Externals) (edges : List (Uuid × Uuid)) :
    threeColorCycleDetect externals edges = .ok () ↔ Digraph.Acyclic (Joined edges) := by
  constructor
  · intro accepted
    unfold threeColorCycleDetect at accepted
    split at accepted
    · cases accepted
    next result success =>
      rw [← joined_iff_edge]
      refine ColorSearch.acyclic_of_detect_ok ?_ success
      intro vertex parent
      obtain ⟨child, member⟩ := exists_mem_of_ne_nil _ parent
      rw [(externals.hashOrder_perm _).mem_iff, mem_endpointsOf]
      exact ⟨(vertex, child), mem_childrenOf.mp member, Or.inl rfl⟩
  · intro acyclic
    cases checked : threeColorCycleDetect externals edges with
    | ok => rfl
    | error vertex =>
      exact (acyclic vertex (threeColorCycleDetect_error checked)).elim

/-- In whatever order it walks the adjacency map, the search ends exactly on
acyclic graphs, and otherwise reports a vertex of a cycle. -/
theorem cycle_detection_exact (externals : Externals) (edges : List (Uuid × Uuid)) :
    (threeColorCycleDetect externals edges = .ok () ↔
      ∀ vertex, ¬ Relation.TransGen (Joined edges) vertex vertex) ∧
    ∀ vertex, threeColorCycleDetect externals edges = .error vertex →
      Relation.TransGen (Joined edges) vertex vertex :=
  ⟨threeColorCycleDetect_ok_iff externals edges, fun _ => threeColorCycleDetect_error⟩

namespace ControlFlowValidation

def invalid (nodeId : Option Uuid) (message : String) : CompilerError :=
  .validation "control_flow_validation" nodeId message

/-- The endpoints of an edge must be nodes. -/
def edgeError (externals : Externals) (ir : WorkflowIR) (edge : IREdge) : Option CompilerError :=
  if edge.source ∉ ir.nodes.map IRNode.id then
    some (invalid none ("Edge from " ++ externals.uuidText edge.source ++
      " references unknown source node"))
  else if edge.target ∉ ir.nodes.map IRNode.id then
    some (invalid none ("Edge to " ++ externals.uuidText edge.target ++
      " references unknown target node"))
  else none

def nodeError (ir : WorkflowIR) (node : IRNode) : Option CompilerError :=
  let outgoing := ir.outgoingEdges node.id
  let incoming := ir.incomingEdges node.id
  let invalid := invalid (some node.id)
  match node.kind with
  | .conditional =>
    if outgoing = [] then
      some (invalid "Conditional node must have at least one outgoing edge")
    else if !outgoing.any (fun edge => edge.condition.isSome) then
      some (invalid "Conditional node must have at least one edge with a condition")
    else none
  | .loop =>
    if outgoing = [] then
      some (invalid "Loop node must have at least one outgoing edge")
    else if (node.config "max_iterations").isNone then
      some (invalid "Loop node must have max_iterations in config")
    else none
  | .split =>
    if outgoing.length < 2 then
      some (invalid ("Split node must have at least 2 outgoing edges, got " ++
        toString outgoing.length))
    else none
  | .join =>
    if incoming.length < 2 then
      some (invalid ("Join node must have at least 2 incoming edges, got " ++
        toString incoming.length))
    else none
  | .barrier =>
    if incoming = [] then
      some (invalid "Barrier node must have at least one incoming edge")
    else if outgoing = [] then
      some (invalid "Barrier node must have at least one outgoing edge")
    else none
  | _ => none

/-- The edges the cycle check looks at: all that are not marked `"loop"`. -/
def checkedEdges (ir : WorkflowIR) : List (Uuid × Uuid) :=
  (ir.edges.filter (fun edge => edge.condition ≠ some "loop")).map
    (fun edge => (edge.source, edge.target))

def detectIllegalCycles (externals : Externals) (ir : WorkflowIR) : Except CompilerError Unit :=
  match threeColorCycleDetect externals (checkedEdges ir) with
  | .ok () => .ok ()
  | .error nodeId =>
    .error (invalid (some nodeId) "Illegal cycle detected outside of loop back-edges")

def apply (externals : Externals) : CompilerPass := fun ir =>
  match ir.edges.findSome? (edgeError externals ir) with
  | some error => .error error
  | none =>
    match ir.nodes.findSome? (nodeError ir) with
    | some error => .error error
    | none =>
      match detectIllegalCycles externals ir with
      | .error error => .error error
      | .ok () => .ok ir

/-- What acceptance says: the workflow is returned unchanged, its edges join
its nodes, every node meets the invariants of its kind, and the edges that are
not marked `"loop"` have no cycle. -/
theorem apply_ok_iff (externals : Externals) (ir accepted : WorkflowIR) :
    apply externals ir = .ok accepted ↔ accepted = ir ∧
        (∀ edge ∈ ir.edges, edgeError externals ir edge = none) ∧
        (∀ node ∈ ir.nodes, nodeError ir node = none) ∧
        Digraph.Acyclic (Joined (checkedEdges ir)) := by
  rw [← threeColorCycleDetect_ok_iff externals, apply, detectIllegalCycles]
  cases edges : ir.edges.findSome? (edgeError externals ir) with
  | some error =>
    obtain ⟨edge, member, failing⟩ := exists_of_findSome?_eq_some edges
    simp only [reduceCtorEq, false_iff]
    rintro ⟨-, valid, -⟩
    rw [valid edge member] at failing
    cases failing
  | none =>
    cases nodes : ir.nodes.findSome? (nodeError ir) with
    | some error =>
      obtain ⟨node, member, failing⟩ := exists_of_findSome?_eq_some nodes
      simp only [reduceCtorEq, false_iff]
      rintro ⟨-, -, valid, -⟩
      rw [valid node member] at failing
      cases failing
    | none =>
      rw [findSome?_eq_none_iff] at edges nodes
      cases checked : threeColorCycleDetect externals (checkedEdges ir) with
      | error vertex => simp
      | ok value =>
        simp only [Except.ok.injEq, and_true]
        constructor
        · intro same
          exact ⟨same.symm, edges, nodes⟩
        · intro facts
          exact facts.1.symm

theorem edgeError_eq_none_iff :
    edgeError externals ir edge = none ↔ edge.source ∈ ir.nodes.map IRNode.id ∧
        edge.target ∈ ir.nodes.map IRNode.id := by
  unfold edgeError
  split
  next unknown => simp [unknown]
  next known =>
    split
    next unknown => simp [unknown]
    next target =>
      simp only [true_iff]
      exact ⟨not_not.mp known, not_not.mp target⟩

end ControlFlowValidation

end FusionRouter
