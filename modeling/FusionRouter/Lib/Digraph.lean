import Mathlib.Data.Fintype.Card
import Mathlib.Order.WellFounded

/-!
# Acyclic relations

A relation without cycles, its behaviour under inclusion and under a renaming
of the vertices, and the induction principle it gives on a finite type.
-/

namespace Digraph

open Relation

variable {α : Type} {edge : α → α → Prop}

/-- No vertex is reached again after one or more steps. -/
def Acyclic (edge : α → α → Prop) : Prop :=
  ∀ vertex, ¬ TransGen edge vertex vertex

theorem acyclic_of_rank (rank : α → Nat)
    (grows : ∀ left right, edge left right → rank left < rank right) : Acyclic edge := by
  have along : ∀ left right, TransGen edge left right → rank left < rank right := by
    intro left right walk
    induction walk with
    | single first => exact grows _ _ first
    | tail _ last ih => exact ih.trans (grows _ _ last)
  intro vertex cycle
  exact (along vertex vertex cycle).ne rfl

variable {vertex start : α}

/-- No cycle runs through an accessible vertex. -/
theorem not_transGen_of_acc (accessible : Acc edge vertex) : ¬ TransGen edge vertex vertex := by
  have transitive := accessible.transGen
  clear accessible
  induction transitive with
  | intro vertex _ ih =>
    intro cycle
    exact ih vertex cycle cycle

theorem Acyclic.wellFounded [Finite α] (acyclic : Acyclic edge) : WellFounded edge := by
  have transitive : IsTrans α (TransGen edge) := ⟨fun _ _ _ => TransGen.trans⟩
  have irreflexive : Std.Irrefl (TransGen edge) := ⟨acyclic⟩
  have founded : WellFounded (TransGen edge) := Finite.wellFounded_of_trans_of_irrefl _
  exact Subrelation.wf TransGen.single founded

/-- A walk that starts in a set closed under successors stays in it. -/
theorem closed_of_transGen {closed : α → Prop}
    (step : ∀ left right, closed left → edge left right → closed right)
    (inside : closed start) (walk : TransGen edge start vertex) : closed vertex := by
  induction walk with
  | single first => exact step _ _ inside first
  | tail _ last stays => exact step _ _ stays last

/-- A walk whose end leads back to its start uses only edges that lie on a
cycle. -/
theorem transGen_onCycle (walk : TransGen edge start vertex)
    (back : ReflTransGen edge vertex start) :
    TransGen (fun left right => edge left right ∧ ReflTransGen edge right left) start vertex := by
  induction walk with
  | single first => exact TransGen.single ⟨first, back⟩
  | @tail middle target walk last induction =>
    have closing : ReflTransGen edge middle start := ReflTransGen.head last back
    exact (induction closing).tail ⟨last, back.trans walk.to_reflTransGen⟩

/-- A walk either stays inside a smaller set of edges or uses an edge outside
of it. -/
theorem transGen_split (kept : α → α → Prop) (walk : TransGen edge start vertex) :
    TransGen (fun left right => edge left right ∧ kept left right)
        start vertex ∨ ∃ left right, edge left right ∧ ¬ kept left right ∧
        ReflTransGen edge start left ∧ ReflTransGen edge right vertex := by
  induction walk with
  | @single target first =>
    by_cases inside : kept start target
    · exact Or.inl (TransGen.single ⟨first, inside⟩)
    · exact Or.inr ⟨start, target, first, inside, .refl, .refl⟩
  | @tail middle target walk last induction =>
    rcases induction with stays | ⟨left, right, used, outside, before, after⟩
    · by_cases inside : kept middle target
      · exact Or.inl (stays.tail ⟨last, inside⟩)
      · exact Or.inr ⟨middle, target, last, inside, walk.to_reflTransGen, .refl⟩
    · exact Or.inr ⟨left, right, used, outside, before, after.tail last⟩

/-- Edges close no cycle with those of an acyclic relation exactly if none of
them leads from a vertex to one it is reached from. -/
theorem Acyclic.grown_iff {grown : α → α → Prop} (acyclic : Acyclic edge) :
    Acyclic grown ↔ ∀ left right, grown left right → ¬ edge left right →
      ¬ ReflTransGen grown right left := by
  constructor
  · intro whole left right added _ back
    exact whole left (.head' added back)
  · intro unclosed vertex cycle
    rcases transGen_split edge cycle with inside | ⟨left, right, used, outside, before, after⟩
    · exact acyclic vertex (TransGen.mono (fun _ _ both => both.2) _ _ inside)
    · exact unclosed left right used outside (after.trans before)

/-- A walk between images is the image of a walk, where a name that two edges
share stands for one vertex. -/
theorem transGen_of_map {β : Type} {name : α → β}
    (joints : ∀ {first second third fourth}, edge first second →
      edge third fourth → name second = name third → second = third)
    {start vertex : β} (walk : TransGen (Relation.Map edge name name) start vertex) :
    ∃ first last next before, edge first next ∧ edge before last ∧
      TransGen edge first last ∧ name first = start ∧ name last = vertex := by
  induction walk with
  | single step =>
    obtain ⟨left, right, used, rfl, rfl⟩ := step
    exact ⟨left, right, right, left, used, used, .single used, rfl, rfl⟩
  | tail _ step induction =>
    obtain ⟨left, right, used, same, rfl⟩ := step
    obtain ⟨first, last, next, before, out, into, walk, rfl, ended⟩ := induction
    obtain rfl := joints into used (ended.trans same.symm)
    exact ⟨first, right, next, last, out, used, walk.tail used, rfl, rfl⟩

theorem acyclic_map_iff {β : Type} {name : α → β}
    (joints : ∀ {first second third fourth}, edge first second →
      edge third fourth → name second = name third → second = third) :
    Acyclic (Relation.Map edge name name) ↔ Acyclic edge := by
  constructor
  · intro acyclic vertex cycle
    refine acyclic (name vertex) (TransGen.lift name ?_ _ _ cycle)
    intro left right used
    exact ⟨left, right, used, rfl, rfl⟩
  · intro acyclic vertex cycle
    obtain ⟨first, last, next, before, out, into, walk, started, ended⟩ :=
      transGen_of_map joints cycle
    obtain rfl := joints into out (ended.trans started.symm)
    exact acyclic last walk

end Digraph
