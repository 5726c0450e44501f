import Mathlib.Algebra.BigOperators.Group.Finset.Piecewise
import Mathlib.Algebra.Ring.Nat

/-!
# Graphs as edge lists

The adjacency map of a list of edges, read at one vertex.
-/

namespace EdgeList

variable {α : Type} [DecidableEq α]

/-- Where the edges from a vertex lead, in the order of the list. -/
def targets (edges : List (α × α)) (vertex : α) : List α :=
  (edges.filter (fun edge => edge.1 = vertex)).map Prod.snd

theorem mem_targets {edges : List (α × α)} {left right : α} :
    right ∈ targets edges left ↔ (left, right) ∈ edges := by
  simp [targets]

theorem sum_targets_length (edges : List (α × α)) {vertices : Finset α}
    (covered : ∀ edge ∈ edges, edge.1 ∈ vertices) :
    ∑ vertex ∈ vertices, (targets edges vertex).length = edges.length := by
  induction edges with
  | nil => simp [targets]
  | cons edge edges induction =>
    have tailCovered : ∀ other ∈ edges, other.1 ∈ vertices :=
      fun other member => covered other (List.mem_cons_of_mem _ member)
    have step : ∀ vertex, (targets (edge :: edges) vertex).length =
        (targets edges vertex).length + if edge.1 = vertex then 1 else 0 := by
      intro vertex
      by_cases same : edge.1 = vertex <;> simp [targets, same]
    simp only [step, Finset.sum_add_distrib, induction tailCovered,
      Finset.sum_ite_eq, covered edge List.mem_cons_self, if_true, List.length_cons]

end EdgeList
