import FusionRouter.Compiler.Validation
import FusionRouter.FusionIr.Adapter

/-!
# The two validators

Planned workflows are validated by edge kinds, compiled ones by node kinds and
by the conditions of edges, and the translation keeps only the conditions.  An
aggregation becomes a join, which needs two incoming edges, and an edge may
close a cycle only if its condition is `"loop"`.  The main result says which
valid workflows `ControlFlowValidationPass` accepts.
-/

namespace FusionRouter

namespace FusionIr

open Relation List ControlFlowValidation

namespace WorkflowIR

/-- Every aggregation has two incoming edges, with nodes told apart by
`name`. -/
def JoinsFed {β : Type} [DecidableEq β] (name : String → β) (ir : WorkflowIR) : Prop :=
  ∀ node, node ∈ ir.nodes → node.kind = .aggregation →
    2 ≤ ir.edges.countP (fun edge => name edge.target = name node.id)

def isUnmarked (edge : WorkflowEdge) : Bool :=
  edge.condition ≠ some "loop"

/-- Every cycle has an edge with the condition `"loop"`, with nodes told apart
by `name`. -/
def CyclesMarked {β : Type} (name : String → β) (ir : WorkflowIR) : Prop :=
  Digraph.Acyclic (Relation.Map (ir.StepAlong isUnmarked) name name)

theorem joined_checkedEdges (externals : Externals) (ir : WorkflowIR) :
    Joined (ControlFlowValidation.checkedEdges (ir.toTypes externals)) =
      Relation.Map (ir.StepAlong isUnmarked) (uuidFor externals) (uuidFor externals) := by
  funext left right
  refine propext ?_
  simp only [Joined, checkedEdges, toTypes,
    mem_map, mem_filter, Relation.Map, StepAlong, isUnmarked, decide_eq_true_eq]
  constructor
  · rintro ⟨_, ⟨⟨edge, member, rfl⟩, unmarked⟩, same⟩
    cases same
    exact ⟨_, _, ⟨edge, member, unmarked, rfl, rfl⟩, rfl, rfl⟩
  · rintro ⟨_, _, ⟨edge, member, unmarked, rfl, rfl⟩, rfl, rfl⟩
    exact ⟨_, ⟨⟨edge, member, rfl⟩, unmarked⟩, rfl⟩

variable {ir : WorkflowIR}

theorem apply_toTypes_iff (externals : Externals) (valid : ir.Valid) :
    ControlFlowValidation.apply externals (ir.toTypes externals) =
        .ok (ir.toTypes externals) ↔ ir.JoinsFed (uuidFor externals) ∧
        ir.CyclesMarked (uuidFor externals) := by
  have endpoints : ∀ edge ∈ (ir.toTypes externals).edges,
      edgeError externals (ir.toTypes externals) edge =
        none := by
    intro edge member
    obtain ⟨original, inside, rfl⟩ := mem_map.mp member
    obtain ⟨source, target⟩ := valid.known original inside
    rw [edgeError_eq_none_iff, toTypes_nodeIds]
    exact ⟨mem_map_of_mem source, mem_map_of_mem target⟩
  have nodes : (∀ node ∈ (ir.toTypes externals).nodes,
      nodeError (ir.toTypes externals) node = none) ↔ ir.JoinsFed (uuidFor externals) := by
    refine forall_mem_map.trans (forall₂_congr fun node _ => ?_)
    have incoming : ((ir.toTypes externals).incomingEdges
        (uuidFor externals node.id)).length = ir.edges.countP (fun edge =>
          uuidFor externals edge.target = uuidFor externals node.id) := by
      rw [FusionRouter.WorkflowIR.incomingEdges, ← countP_eq_length_filter, toTypes, countP_map]
      rfl
    -- of the kinds that a translation has, only joins are checked
    cases kind : node.kind <;> simp only [nodeError, WorkflowNode.toTypes, kind,
        WorkflowNodeKind.toTypes, incoming, ite_eq_right_iff, reduceCtorEq,
        imp_false, Nat.not_lt, true_implies, false_implies]
  rw [apply_ok_iff, nodes, joined_checkedEdges]
  exact ⟨fun facts => facts.2.2, fun facts => ⟨rfl, endpoints, facts⟩⟩

theorem cyclesMarked_of_loops (valid : ir.Valid)
    (marked : ∀ edge ∈ ir.edges, edge.kind = .loop → edge.condition =
      some "loop") : ir.CyclesMarked id := by
  rw [CyclesMarked, Relation.map_id_id]
  intro vertex cycle
  refine valid.acyclic vertex (TransGen.mono ?_ _ _ cycle)
  rintro left right ⟨edge, member, unmarked, rfl, rfl⟩
  refine ⟨edge, member, ?_, rfl, rfl⟩
  simp only [isForward, isUnmarked, decide_eq_true_eq] at unmarked ⊢
  exact fun loop => unmarked (marked edge member loop)

end WorkflowIR

/-- The translation of a valid workflow passes exactly when its joins are fed
and its cycles are marked, between the UUIDs of the nodes.  If these differ,
that is a property of the workflow itself, and its second half holds if every
loop edge has the condition `"loop"`. -/
theorem validated_accepted_iff (externals : Externals) (ir : WorkflowIR)
    (validated : ir.validate = []) :
    ∃ types, workflowToTypes externals ir = .ok types ∧
      (ControlFlowValidation.apply externals types = .ok types ↔ ir.JoinsFed (uuidFor externals) ∧
          ir.CyclesMarked (uuidFor externals)) ∧ (CollisionFree externals ir.nodeIds →
        SpelledOnce externals ir.nodeIds →
        (ControlFlowValidation.apply externals types = .ok types ↔
          ir.JoinsFed id ∧ ir.CyclesMarked id)) ∧ ((∀ edge, edge ∈ ir.edges → edge.kind = .loop →
        edge.condition = some "loop") → ir.CyclesMarked id) := by
  have valid := (WorkflowIR.validate_eq_nil_iff ir).mp validated
  refine ⟨ir.toTypes externals, workflowToTypes_of_valid externals valid,
    WorkflowIR.apply_toTypes_iff externals valid, ?_, WorkflowIR.cyclesMarked_of_loops valid⟩
  intro collisionFree once
  have injective := (uuidFor_injOn_iff collisionFree).mpr once
  have joins : ir.JoinsFed (uuidFor externals) ↔ ir.JoinsFed id := by
    refine forall₃_congr fun node member _ => ?_
    rw [countP_congr fun edge inside => ?_]
    simp only [decide_eq_true_eq, id_eq]
    constructor
    · exact injective _ (valid.known edge inside).2 _ (mem_map_of_mem member)
    · exact congrArg (uuidFor externals)
  rw [WorkflowIR.apply_toTypes_iff externals valid, joins, WorkflowIR.CyclesMarked,
    WorkflowIR.CyclesMarked, Relation.map_id_id, Digraph.acyclic_map_iff]
  rintro _ _ _ _ ⟨before, into, -, rfl, rfl⟩ ⟨after, out, -, rfl, rfl⟩ same
  exact injective _ (valid.known before into).2 _ (valid.known after out).1 same

namespace AgreementSample

open AdapterSample

/-- Two drafts that are put together, in a loop with the condition `"loop"`. -/
def marked : WorkflowIR :=
  planOf [node "a" .task, node "bb" .task, node "ccc" .task, node "dddd" .aggregation]
    [edge "a" "bb", edge "a" "ccc", edge "bb" "dddd", edge "ccc" "dddd",
      { edge "dddd" "bb" with kind := .loop, condition := some "loop" }]

/-- A loop edge without a condition, as the builder's `loop_edge` makes it. -/
def unmarked : WorkflowIR :=
  planOf [node "a" .task, node "bb" .review] [edge "a" "bb", { edge "bb" "a" with kind := .loop }]

/-- An aggregation of one draft. -/
def lonely : WorkflowIR :=
  planOf [node "a" .task, node "bb" .aggregation] [edge "a" "bb"]

theorem marked_accepted :
    ∃ types, workflowToTypes externals marked = .ok types ∧
      ControlFlowValidation.apply externals types = .ok types := by
  obtain ⟨types, converted, -, accepted, loops⟩ := validated_accepted_iff
    externals marked (by decide)
  refine ⟨types, converted, (accepted ?_ ?_).mpr ⟨?_, loops (by decide)⟩⟩
  · unfold CollisionFree
    decide
  · have unread : ∀ name, name ∈ marked.nodeIds → Uuid.parseStr name = none := by decide
    constructor
    · intro left leftIn right rightIn id readLeft
      rw [unread left leftIn] at readLeft
      cases readLeft
    · intro left _ right rightIn _ readRight
      rw [unread right rightIn] at readRight
      cases readRight
  · simp only [WorkflowIR.JoinsFed, marked, planOf, forall_mem_cons]
    decide

/-- Both workflows are valid, and the pass rejects their translations. -/
theorem valid_rejected :
    (unmarked.validate = [] ∧ CollisionFree externals unmarked.nodeIds ∧
      ∃ types, workflowToTypes externals unmarked = .ok types ∧
        ControlFlowValidation.apply externals types = .error (.validation
          "control_flow_validation" (some 1) "Illegal cycle detected outside of loop back-edges")) ∧
    lonely.validate = [] ∧ CollisionFree externals lonely.nodeIds ∧
      ∃ types, workflowToTypes externals lonely = .ok types ∧
        ControlFlowValidation.apply externals types = .error (.validation
          "control_flow_validation" (some 2)
          "Join node must have at least 2 incoming edges, got 1") := by
  refine ⟨⟨by decide, ?_, _, rfl, rfl⟩, by decide, ?_, _, rfl, rfl⟩
  · unfold CollisionFree
    decide
  · unfold CollisionFree
    decide

end AgreementSample

end FusionIr

end FusionRouter
