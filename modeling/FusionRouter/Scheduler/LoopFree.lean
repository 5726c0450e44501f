import FusionRouter.Scheduler.Spend

/-!
# Graphs without loops

Without loop heads no edge is a back-edge, so the counters of the queue say
exactly which predecessors have fired.
-/

namespace FusionRouter

open List hiding after

def LoopFree (graph : ExecutionGraph) : Prop :=
  ∀ node, node ∈ graph.nodes → node.kind ≠ .loop

namespace LoopFree

variable (loopFree : LoopFree graph)

include loopFree

theorem loopNodeIds : graph.loopNodeIds = ∅ := by
  refine Finset.eq_empty_of_forall_notMem ?_
  intro id isHead
  obtain ⟨node, member, -⟩ := mem_map.mp (mem_toFinset.mp isHead)
  obtain ⟨inside, isLoop⟩ := mem_filter.mp member
  exact loopFree node inside (by simpa using isLoop)

theorem backEdges : graph.backEdges = ∅ := by
  refine Finset.eq_empty_of_forall_notMem ?_
  rintro ⟨left, right⟩ back
  have isHead := (ExecutionGraph.mem_backEdges_iff.mp back).1
  simp [loopFree.loopNodeIds] at isHead

theorem kindAt (id : Uuid) : graph.kindAt id ≠ some .loop := by
  intro kind
  have isHead := mem_loopNodeIds_of_kindAt kind
  simp [loopFree.loopNodeIds] at isHead

theorem loopBackTarget (maxConcurrent : Nat) (id : Uuid) :
    (QueueIndex.new graph maxConcurrent).loopBackTarget id = none := by
  cases target : (QueueIndex.new graph maxConcurrent).loopBackTarget id with
  | none => rfl
  | some loopId =>
    have back := QueueIndex.loopBackTarget_eq_some target
    simp [QueueIndex.new, loopFree.backEdges] at back

theorem totalIncoming (maxConcurrent : Nat) (id : Uuid) :
    (QueueIndex.new graph maxConcurrent).totalIncoming id = (graph.incoming id).length := by
  unfold QueueIndex.totalIncoming ExecutionGraph.incoming
  rw [length_map]
  refine countP_eq_length.mpr ?_
  intro edge _
  simp [QueueIndex.gates, QueueIndex.new, loopFree.backEdges]

theorem activateEdge (maxConcurrent : Nat) (queue : WorkQueue) (source target : Uuid) :
    queue.activateEdge (QueueIndex.new graph maxConcurrent) source target =
      queue.activateFresh (QueueIndex.new graph maxConcurrent) source
        target := by
  unfold WorkQueue.activateEdge
  rw [if_neg]
  simp [QueueIndex.new, loopFree.backEdges]

theorem mem_selectiveSources_iff (distinct : (graph.nodes.map ExecutionNode.id).Nodup) {id : Uuid} :
    id ∈ graph.selectiveSources ↔ graph.kindAt id = some .conditional := by
  constructor
  · intro selective
    obtain ⟨node, member, rfl⟩ := mem_map.mp (mem_toFinset.mp selective)
    obtain ⟨inside, kind⟩ := mem_filter.mp member
    have conditional : node.kind = .conditional :=
      (of_decide_eq_true kind).resolve_left (loopFree node inside)
    have located := nodeAt_of_count_le_one inside (nodup_iff_count_le_one.mp distinct node.id)
    rw [ExecutionGraph.kindAt, located, Option.map_some, conditional]
  · intro kind
    obtain ⟨node, located, kind⟩ := Option.map_eq_some_iff.mp kind
    obtain ⟨index, found, present⟩ := Option.bind_eq_some_iff.mp located
    obtain ⟨other, same, rfl⟩ := ExecutionGraph.nodeIndex_eq_some found
    obtain rfl : other = node := by simpa [present] using same.symm
    refine mem_toFinset.mpr (mem_map.mpr ⟨other, ?_, rfl⟩)
    exact mem_filter.mpr ⟨mem_of_getElem? present, by simp [kind]⟩

theorem freshHeads (maxConcurrent : Nat) (log : List Event) :
    FreshHeads (QueueIndex.new graph maxConcurrent) log := by
  intro moment id result _ _ loopId _ head _ isHead
  simp [QueueIndex.new, loopFree.loopNodeIds] at isHead

theorem distinctHeads : DistinctHeads graph := by
  intro head isHead
  simp [loopFree.loopNodeIds] at isHead

end LoopFree

/-- The predecessors whose edge into `id` was activated. -/
def activeSources (queue : WorkQueue) (id : Uuid) : Finset Uuid :=
  (queue.activatedEdges.filter (fun edge => edge.2 = id)).image Prod.fst

theorem mem_activeSources {queue : WorkQueue} {source id : Uuid} :
    source ∈ activeSources queue id ↔ (source, id) ∈ queue.activatedEdges := by
  simp only [activeSources, Finset.mem_image, Finset.mem_filter]
  constructor
  · rintro ⟨⟨left, right⟩, ⟨member, rfl⟩, rfl⟩
    exact member
  · intro member
    exact ⟨(source, id), ⟨member, rfl⟩, rfl⟩

structure Counts (graph : ExecutionGraph) (pending : List Uuid) (queue : WorkQueue) : Prop where
  edges : ∀ source target, (source, target) ∈ queue.activatedEdges → graph.Connected source target
  satisfied : ∀ id, queue.satisfiedIncoming id = (activeSources queue id).card
  ready : ∀ id, id ∈ queue.ready ↔ id ∉ queue.closed ∧ id ∉ pending ∧
      queue.satisfiedIncoming id = (graph.incoming id).length ∧
      (graph.incoming id ≠ [] ∨ id ∈ graph.nodes.map ExecutionNode.id)
  ran : ∀ id, id ∈ queue.completed ∨ id ∈ pending →
    queue.satisfiedIncoming id = (graph.incoming id).length

namespace Counts

variable {queue : WorkQueue} {id source target : Uuid}

section CountEdge

theorem activeSources_countEdge :
    activeSources (queue.countEdge index source target) target =
      insert source (activeSources queue target) := by
  ext other
  simp only [mem_activeSources, WorkQueue.countEdge, Finset.mem_insert, Prod.mk.injEq, and_true]

theorem satisfied_countEdge :
    (queue.countEdge index source target).satisfiedIncoming target =
      queue.satisfiedIncoming target + 1 := Function.update_self _ _ _

variable (different : id ≠ target)
include different

theorem activeSources_countEdge_of_ne :
    activeSources (queue.countEdge index source target) id = activeSources queue id := by
  ext other
  simp [mem_activeSources, WorkQueue.countEdge, different]

theorem satisfied_countEdge_of_ne :
    (queue.countEdge index source target).satisfiedIncoming id =
      queue.satisfiedIncoming id := Function.update_of_ne different _ _

end CountEdge

/-- The edge that satisfies its target makes it ready, unless it has ended. -/
theorem ready_countEdge (loopFree : LoopFree graph) (maxConcurrent : Nat) :
    (queue.countEdge (QueueIndex.new graph maxConcurrent) source target).ready =
      if queue.satisfiedIncoming target + 1 = (graph.incoming target).length ∧
          target ∉ queue.completed ∧ target ∉ queue.failed then
        insert target queue.ready
      else queue.ready := by
  simp only [WorkQueue.countEdge, loopFree.totalIncoming]

section

variable (counts : Counts graph pending queue)
include counts

theorem activeSources_subset (id : Uuid) :
    activeSources queue id ⊆ (graph.incoming id).toFinset := by
  intro source active
  exact mem_toFinset.mpr (ExecutionGraph.mem_incoming.mpr
    (counts.edges source id (mem_activeSources.mp active)))

/-- All incoming edges are satisfied exactly when no two of them share their
source and all of them were activated. -/
theorem satisfied_iff (id : Uuid) :
    queue.satisfiedIncoming id = (graph.incoming id).length ↔
      (graph.incoming id).Nodup ∧ ∀ source, graph.Connected source id →
        (source, id) ∈ queue.activatedEdges := by
  have included := counts.activeSources_subset id
  have small := toFinset_card_le (graph.incoming id)
  rw [counts.satisfied id]
  constructor
  · intro full
    have less := Finset.card_le_card included
    refine ⟨?_, ?_⟩
    · rw [← dedup_eq_self]
      refine (dedup_sublist _).eq_of_length ?_
      rw [← card_toFinset]
      omega
    · intro source edge
      have same := Finset.eq_of_subset_of_card_le included (by omega)
      rw [← mem_activeSources, same]
      exact mem_toFinset.mpr (ExecutionGraph.mem_incoming.mpr edge)
  · rintro ⟨nodup, all⟩
    rw [← toFinset_card_of_nodup nodup]
    refine congrArg Finset.card (Finset.Subset.antisymm included ?_)
    intro source member
    exact mem_activeSources.mpr (all source
      (ExecutionGraph.mem_incoming.mp (mem_toFinset.mp member)))

theorem countEdge (maxConcurrent : Nat) (loopFree : LoopFree graph)
    (edge : graph.Connected source target) (fresh : (source, target) ∉ queue.activatedEdges) :
    Counts graph pending (queue.countEdge (QueueIndex.new graph maxConcurrent) source target) := by
  have unsatisfied : queue.satisfiedIncoming target ≠ (graph.incoming target).length :=
    fun full => fresh (((counts.satisfied_iff target).mp full).2 source edge)
  refine ⟨?_, ?_, ?_, ?_⟩
  · intro left right member
    rcases Finset.mem_insert.mp member with same | old
    · cases same
      exact edge
    · exact counts.edges left right old
  · intro id
    by_cases same : id = target
    · subst same
      rw [satisfied_countEdge, activeSources_countEdge, Finset.card_insert_of_notMem
          (fun active => fresh (mem_activeSources.mp active)), counts.satisfied id]
    · rw [satisfied_countEdge_of_ne same, activeSources_countEdge_of_ne same, counts.satisfied id]
  · intro id
    rw [ready_countEdge loopFree]
    change _ ↔ id ∉ queue.closed ∧ _
    by_cases same : id = target
    · subst same
      have notReady : id ∉ queue.ready :=
        fun ready => unsatisfied ((counts.ready id).mp ready).2.2.1
      have notPending : id ∉ pending := fun pending => unsatisfied (counts.ran id (Or.inr pending))
      have nonempty : graph.incoming id ≠ [] := ne_nil_of_mem (ExecutionGraph.mem_incoming.mpr edge)
      rw [satisfied_countEdge]
      split
      next met => simp [met, notPending, nonempty, WorkQueue.closed]
      next unmet =>
        simp only [notReady, WorkQueue.closed, Finset.mem_union, not_or, false_iff]
        rintro ⟨unclosed, -, full, -⟩
        exact unmet ⟨full, unclosed.1, unclosed.2⟩
    · rw [satisfied_countEdge_of_ne same, ← counts.ready id]
      split
      · rw [Finset.mem_insert]
        exact or_iff_right same
      · exact Iff.rfl
  · intro id reason
    by_cases same : id = target
    · subst same
      exact (unsatisfied (counts.ran id reason)).elim
    · rw [satisfied_countEdge_of_ne same]
      exact counts.ran id reason

theorem activateFresh (maxConcurrent : Nat) (loopFree : LoopFree graph)
    (edge : graph.Connected source target) :
    Counts graph pending (queue.activateFresh (QueueIndex.new graph maxConcurrent) source target) ∧
    (queue.activateFresh (QueueIndex.new graph maxConcurrent) source
      target).activatedEdges = insert (source, target) queue.activatedEdges := by
  unfold WorkQueue.activateFresh
  split
  next old => exact ⟨counts, (Finset.insert_eq_of_mem old).symm⟩
  next fresh =>
    exact ⟨counts.countEdge maxConcurrent loopFree edge fresh, rfl⟩

theorem activateAll (maxConcurrent : Nat) (loopFree : LoopFree graph) (targets : List Uuid)
    (edges : ∀ target ∈ targets, graph.Connected source target) :
    Counts graph pending (targets.foldl (WorkQueue.activateFresh
      (QueueIndex.new graph maxConcurrent) source) queue) ∧
    ∀ left right, (left, right) ∈ (targets.foldl (WorkQueue.activateFresh
      (QueueIndex.new graph maxConcurrent) source) queue).activatedEdges ↔
        (left = source ∧ right ∈ targets) ∨ (left, right) ∈ queue.activatedEdges := by
  induction targets generalizing queue with
  | nil => exact ⟨counts, by simp⟩
  | cons target targets ih =>
    obtain ⟨first, activated⟩ := counts.activateFresh maxConcurrent
      loopFree (edges target mem_cons_self)
    obtain ⟨rest, all⟩ := ih first
      (fun other member => edges other (mem_cons_of_mem _ member))
    refine ⟨rest, ?_⟩
    intro left right
    rw [foldl_cons, all left right, activated]
    simp only [Finset.mem_insert, Prod.mk.injEq, mem_cons]
    tauto

end

theorem close (id : Uuid) (counts : Counts graph before queue)
    (marks : ∀ other, (other ∉ closed.closed ∧ other ∉ after) ↔ other ≠ id ∧
      other ∉ queue.closed ∧ other ∉ before) (ready : closed.ready = queue.ready.erase id)
    (satisfied : closed.satisfiedIncoming = queue.satisfiedIncoming)
    (activated : closed.activatedEdges = queue.activatedEdges)
    (ran : ∀ other, other ∈ closed.completed ∨ other ∈ after → other ∈
      queue.completed ∨ other ∈ before) : Counts graph after closed := by
  have sources : ∀ other, activeSources closed other = activeSources queue other := by
    intro other
    unfold activeSources
    rw [activated]
  refine ⟨activated ▸ counts.edges, ?_, ?_, ?_⟩
  · intro other
    rw [satisfied, sources]
    exact counts.satisfied other
  · intro other
    have unmarked := marks other
    rw [ready, Finset.mem_erase, counts.ready, satisfied]
    tauto
  · intro other reason
    rw [satisfied]
    exact counts.ran other (ran other reason)

end Counts

end FusionRouter
