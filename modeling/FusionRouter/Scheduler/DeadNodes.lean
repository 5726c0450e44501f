import FusionRouter.Scheduler.Gating

/-!
# Dead nodes and ready nodes

`DeadNodeEliminationPass` starts from the nodes without incoming edges, the work
queue from those without gating ones.  The two differ at loop heads that only
their own bodies lead to: such a head is ready at the start, and where the
workflow has an entry point elsewhere it is dead.
-/

namespace FusionRouter

open Relation List

namespace WorkflowIR

def Leads (ir : WorkflowIR) (left right : Uuid) : Prop :=
  ∃ edge, edge ∈ ir.edges ∧ edge.source = left ∧ edge.target = right

/-- An entry point: a node that edges lead from and none leads to. -/
structure Entry (ir : WorkflowIR) (id : Uuid) : Prop where
  listed : id ∈ ir.nodes.map IRNode.id
  first : ∀ edge ∈ ir.edges, edge.target ≠ id
  outgoing : ∃ edge ∈ ir.edges, edge.source = id

/-- An entry point leads there. -/
def Entered (ir : WorkflowIR) (id : Uuid) : Prop :=
  ∃ entry, ir.Entry entry ∧ ReflTransGen ir.Leads entry id

open Classical in
/-- What the entry points lead to, with the edges in between. -/
noncomputable def live (ir : WorkflowIR) : WorkflowIR :=
  { ir with
    nodes := ir.nodes.filter (fun node => ir.Entered node.id)
    edges := ir.edges.filter
      (fun edge => ir.Entered edge.source ∧ ir.Entered edge.target) }

variable {ir : WorkflowIR} {id : Uuid}

theorem mem_nodes_live : node ∈ ir.live.nodes ↔ node ∈ ir.nodes ∧ ir.Entered node.id := by
  simp [live]

theorem Entered.step (member : edge ∈ ir.edges)
    (entered : ir.Entered edge.source) : ir.Entered edge.target := by
  obtain ⟨entry, isEntry, walk⟩ := entered
  exact ⟨entry, isEntry, walk.tail ⟨edge, member, rfl, rfl⟩⟩

theorem mem_edges_live : edge ∈ ir.live.edges ↔ edge ∈ ir.edges ∧ ir.Entered edge.source := by
  simp only [live, mem_filter, decide_eq_true_eq]
  exact and_congr_right fun member => and_iff_left_of_imp (.step member)

theorem Entry.live (entry : ir.Entry id) : ir.live.Entry id := by
  have entered : ir.Entered id := ⟨id, entry, .refl⟩
  obtain ⟨listed, first, edge, member, rfl⟩ := entry
  obtain ⟨node, inside, same⟩ := mem_map.mp listed
  refine ⟨mem_map.mpr ⟨node, mem_nodes_live.mpr ⟨inside, ?_⟩, same⟩, ?_,
    edge, mem_edges_live.mpr ⟨member, entered⟩, rfl⟩
  · rw [same]
    exact entered
  · intro edge kept
    exact first edge (mem_edges_live.mp kept).1

theorem Entered.live (entered : ir.Entered id) : ir.live.Entered id := by
  obtain ⟨entry, isEntry, walk⟩ := entered
  refine ⟨entry, isEntry.live, ?_⟩
  induction walk with
  | refl => exact .refl
  | tail walk step induction =>
    obtain ⟨edge, member, rfl, target⟩ := step
    exact induction.tail ⟨edge, mem_edges_live.mpr ⟨member, entry, isEntry, walk⟩, rfl, target⟩

theorem live_eq_self (nodes : ∀ node ∈ ir.nodes, ir.Entered node.id)
    (edges : ∀ edge ∈ ir.edges, ir.Entered edge.source) : ir.live = ir := by
  have both : ∀ edge ∈ ir.edges, ir.Entered edge.source ∧ ir.Entered edge.target :=
    fun edge member => ⟨edges edge member, .step member (edges edge member)⟩
  unfold live
  rw [filter_eq_self.mpr (by simpa using nodes), filter_eq_self.mpr (by simpa using both)]

theorem live_live (ir : WorkflowIR) : ir.live.live = ir.live :=
  live_eq_self (fun _ member => (mem_nodes_live.mp member).2.live)
    (fun _ member => (mem_edges_live.mp member).2.live)

end WorkflowIR

namespace DeadNodeElimination

variable (externals : Externals)

theorem mem_roots_iff (ir : WorkflowIR) (id : Uuid) : id ∈ roots externals ir ↔ ir.Entry id := by
  rw [roots, (externals.hashOrder_perm _).mem_iff, mem_dedup, mem_filter, decide_eq_true_eq]
  constructor
  · rintro ⟨listed, incoming, outgoing⟩
    refine ⟨listed, ?_, ?_⟩
    · intro edge member target
      have found := filter_eq_nil_iff.mp incoming edge member
      exact found (decide_eq_true target)
    · obtain ⟨edge, found⟩ := exists_mem_of_ne_nil _ outgoing
      obtain ⟨member, source⟩ := mem_filter.mp found
      exact ⟨edge, member, of_decide_eq_true source⟩
  · rintro ⟨listed, first, edge, member, source⟩
    refine ⟨listed, ?_, ?_⟩
    · refine filter_eq_nil_iff.mpr fun other found target => ?_
      exact first other found (of_decide_eq_true target)
    · exact ne_nil_of_mem (mem_filter.mpr ⟨member, decide_eq_true source⟩)

theorem length_roots_le (ir : WorkflowIR) : (roots externals ir).length ≤ ir.nodes.length := by
  rw [roots, (externals.hashOrder_perm _).length_eq]
  calc _ ≤ _ := (dedup_sublist _).length_le
    _ ≤ _ := length_filter_le _ _
    _ = _ := length_map _

def pairs (edges : List IREdge) : List (Uuid × Uuid) :=
  edges.map (fun edge => (edge.source, edge.target))

/-- What the search pushes behind the queue. -/
def pushBack (edges : List IREdge) (current : Uuid) (marked : Finset Uuid)
    (queue : List Uuid) : List Uuid :=
  queue ++ (edges.filter (fun edge =>
    edge.source = current ∧ edge.target ∉ marked)).map IREdge.target

theorem reach_eq_drain (edges : List IREdge) (fuel : Nat) (queue : List Uuid)
    (reachable : Finset Uuid) :
    reach edges fuel queue reachable = Worklist.drain (pushBack edges) fuel queue reachable := by
  induction fuel generalizing queue reachable with
  | zero => rfl
  | succ fuel induction =>
    cases queue with
    | nil => rfl
    | cons current queue =>
      rw [reach, Worklist.drain, induction, induction]
      rfl

theorem mem_targets_iff :
    right ∈ EdgeList.targets (pairs edges) left ↔
      ∃ edge, edge ∈ edges ∧ edge.source = left ∧ edge.target = right := by
  rw [EdgeList.mem_targets, pairs, mem_map]
  simp only [Prod.mk.injEq]

theorem pushes_pushBack (edges : List IREdge) :
    Worklist.Pushes (EdgeList.targets (pairs edges)) (pushBack edges) where
  sound := by
    intro current seen queue vertex member
    rcases mem_append.mp member with before | pushed
    · exact Or.inl before
    · obtain ⟨edge, found, target⟩ := mem_map.mp pushed
      obtain ⟨listed, source, -⟩ := by
        simpa only [mem_filter, decide_eq_true_eq] using found
      exact Or.inr (mem_targets_iff.mpr ⟨edge, listed, source, target⟩)
  keeps := mem_append_left _
  complete := by
    intro current seen queue vertex step
    obtain ⟨edge, listed, source, rfl⟩ := mem_targets_iff.mp step
    by_cases marked : edge.target ∈ seen
    · exact Or.inl marked
    · refine Or.inr (mem_append_right _ (mem_map.mpr ⟨edge, ?_, rfl⟩))
      exact mem_filter.mpr ⟨listed, decide_eq_true ⟨source, marked⟩⟩
  length := by
    intro current seen queue
    have fewer : ((edges.filter (fun edge =>
        edge.source = current ∧ edge.target ∉ seen)).map IREdge.target).length ≤
        (EdgeList.targets (pairs edges) current).length := by
      rw [EdgeList.targets, pairs, filter_map, length_map, length_map, length_map]
      refine (monotone_filter_right edges ?_).length_le
      intro edge found
      exact decide_eq_true (of_decide_eq_true found).1
    rw [pushBack, length_append]
    omega

theorem mem_reachable_iff (ir : WorkflowIR) (id : Uuid) :
    id ∈ reachable externals ir ↔ ir.Entered id := by
  have same : Worklist.Step (EdgeList.targets (pairs ir.edges)) =
      ir.Leads := by
    funext left right
    exact propext mem_targets_iff
  have covered : ∀ edge ∈ pairs ir.edges, edge.1 ∈ (ir.edges.map IREdge.source).toFinset := by
    intro edge member
    obtain ⟨found, listed, rfl⟩ := mem_map.mp member
    exact mem_toFinset.mpr (mem_map_of_mem listed)
  rw [reachable, reach_eq_drain, Worklist.mem_drain_iff
    (pushes_pushBack ir.edges) (ir.edges.map IREdge.source).toFinset, same]
  · simp only [mem_roots_iff]
    rfl
  · intro left right step
    exact covered (left, right) (EdgeList.mem_targets.mp step)
  · rw [EdgeList.sum_targets_length _ covered, pairs, length_map]
    exact Nat.add_le_add_right (length_roots_le externals ir) _

theorem apply_entered (entered : ∃ entry, ir.Entry entry) : apply externals ir = .ok ir.live := by
  obtain ⟨entry, isEntry⟩ := entered
  have rooted := ne_nil_of_mem ((mem_roots_iff externals ir entry).mpr isEntry)
  obtain ⟨edge, member, -⟩ := isEntry.outgoing
  have nodes : ir.nodes ≠ [] := by
    intro none
    have listed := isEntry.listed
    rw [none] at listed
    cases listed
  simp only [apply, if_neg nodes, if_neg (ne_nil_of_mem member), if_neg rooted, WorkflowIR.live]
  congr 2
  · refine filter_congr fun node _ => decide_eq_decide.mpr ?_
    exact mem_reachable_iff externals ir node.id
  · refine filter_congr fun edge _ => decide_eq_decide.mpr ?_
    exact and_congr (mem_reachable_iff externals ir edge.source)
      (mem_reachable_iff externals ir edge.target)

theorem apply_unentered (unentered : ¬ ∃ entry, ir.Entry entry) : apply externals ir = .ok ir := by
  have rootless : roots externals ir = [] := by
    refine eq_nil_iff_forall_not_mem.mpr fun root found => ?_
    exact unentered ⟨root, (mem_roots_iff externals ir root).mp found⟩
  simp only [apply, if_pos rootless, ite_self]

end DeadNodeElimination

/-- Where there is an entry point, what the entry points lead to is kept, in its
order, and otherwise everything; a second pass changes nothing. -/
theorem dead_node_elimination_exact (externals : Externals) (ir : WorkflowIR) :
    ((∃ entry, ir.Entry entry) → DeadNodeElimination.apply externals ir = .ok ir.live) ∧
    ((¬ ∃ entry, ir.Entry entry) → DeadNodeElimination.apply externals ir = .ok ir) ∧
    ∃ next, DeadNodeElimination.apply externals ir = .ok next ∧
      DeadNodeElimination.apply externals next = .ok next := by
  refine ⟨DeadNodeElimination.apply_entered externals,
    DeadNodeElimination.apply_unentered externals, ?_⟩
  by_cases entered : ∃ entry, ir.Entry entry
  · obtain ⟨entry, isEntry⟩ := entered
    have again := DeadNodeElimination.apply_entered externals ⟨entry, isEntry.live⟩
    rw [ir.live_live] at again
    exact ⟨ir.live, DeadNodeElimination.apply_entered externals ⟨entry, isEntry⟩, again⟩
  · have same := DeadNodeElimination.apply_unentered externals entered
    exact ⟨ir, same, same⟩

theorem WorkQueue.mem_ready_new_iff (externals : Externals)
    (customCompilers : Table String StrategyCompiler) (ir : WorkflowIR)
    (maxConcurrent : Nat) (id : Uuid) :
    id ∈ (new (QueueIndex.new (Lowering.lowerToGraph externals customCompilers ir)
        maxConcurrent)).ready ↔ id ∈ ir.nodes.map IRNode.id ∧
        ∀ edge ∈ ir.edges, edge.target = id → (edge.source, id) ∈
          (Lowering.lowerToGraph externals customCompilers ir).backEdges := by
  have waits : ∀ target, (QueueIndex.new (Lowering.lowerToGraph externals customCompilers ir)
      maxConcurrent).totalIncoming target = 0 ↔
        ∀ edge ∈ ir.edges, edge.target = target → (edge.source, target) ∈
          (Lowering.lowerToGraph externals customCompilers ir).backEdges := by
    intro target
    simp only [QueueIndex.totalIncoming, QueueIndex.new, QueueIndex.gates,
      ExecutionGraph.incomingEdges, Lowering.lowerToGraph, countP_eq_zero,
      mem_filter, mem_map, decide_eq_true_eq, not_not]
    constructor
    · rintro free edge member rfl
      exact free (Lowering.lowerEdge edge) ⟨⟨edge, member, rfl⟩, rfl⟩
    · rintro free _ ⟨⟨edge, member, rfl⟩, rfl⟩
      exact free edge member rfl
  simp only [new, mem_toFinset, mem_map, mem_filter, decide_eq_true_eq, waits]
  constructor
  · rintro ⟨_, ⟨listed, free⟩, rfl⟩
    obtain ⟨node, member, rfl⟩ := mem_map.mp listed
    exact ⟨⟨node, member, rfl⟩, free⟩
  · rintro ⟨⟨node, member, rfl⟩, free⟩
    exact ⟨Lowering.lowerNode externals customCompilers node, ⟨mem_map_of_mem member, free⟩, rfl⟩

/-- Of the nodes behind one that is ready at the start, those are removed that
no entry point leads to, where there is an entry point.  The ready node is then
a loop head with incoming edges, and all of them are back-edges. -/
theorem dead_nodes_behind_ready (externals : Externals)
    (customCompilers : Table String StrategyCompiler) (ir next : WorkflowIR) (maxConcurrent : Nat)
    (eliminated : DeadNodeElimination.apply externals ir = .ok next) (start : Uuid)
    (ready : start ∈ (WorkQueue.new (QueueIndex.new
      (Lowering.lowerToGraph externals customCompilers ir) maxConcurrent)).ready)
    (outgoing : ∃ edge ∈ ir.edges, edge.source = start) (node : IRNode) (member : node ∈ ir.nodes)
    (behind : ReflTransGen ir.Leads start node.id) :
    (node ∉ next.nodes ↔ (∃ entry, ir.Entry entry) ∧ ¬ ir.Entered node.id) ∧
    (node ∉ next.nodes → start ∈ ir.loopIds ∧ (∃ edge ∈ ir.edges, edge.target = start) ∧
      ∀ edge ∈ ir.edges, edge.target = start → (edge.source, start) ∈
        (Lowering.lowerToGraph externals customCompilers ir).backEdges) := by
  have left : node ∈ next.nodes ↔ ((∃ entry, ir.Entry entry) → ir.Entered node.id) := by
    by_cases entered : ∃ entry, ir.Entry entry
    · cases (DeadNodeElimination.apply_entered externals entered).symm.trans eliminated
      simp [WorkflowIR.live, member, entered]
    · cases (DeadNodeElimination.apply_unentered externals entered).symm.trans eliminated
      simp [member, entered]
  obtain ⟨listed, free⟩ := (WorkQueue.mem_ready_new_iff externals
    customCompilers ir maxConcurrent start).mp ready
  refine ⟨by rw [left, Classical.not_imp], ?_⟩
  intro removed
  obtain ⟨-, unentered⟩ := Classical.not_imp.mp (mt left.mpr removed)
  have entered : ∃ edge ∈ ir.edges, edge.target = start := by
    by_contra none
    refine unentered ⟨start, ⟨listed, ?_, outgoing⟩, behind⟩
    intro edge found target
    exact none ⟨edge, found, target⟩
  refine ⟨?_, entered, free⟩
  obtain ⟨edge, found, target⟩ := entered
  obtain ⟨head, -⟩ := ExecutionGraph.mem_backEdges_iff.mp (free edge found target)
  exact (Lowering.mem_loopNodeIds_lowerToGraph externals customCompilers ir start).mp head

/-- A chain, and beside it a loop head 3 with the body 4. -/
def detachedLoop : WorkflowIR :=
  workflow [plainNode 1 .generate, plainNode 2 .generate, plainNode 3 .loop, plainNode 4 .generate]
    [⟨1, 2, none⟩, ⟨3, 4, none⟩, ⟨4, 3, some "loop"⟩]

/-- What is left of it. -/
def chainAlone : WorkflowIR :=
  workflow [plainNode 1 .generate, plainNode 2 .generate] [⟨1, 2, none⟩]

theorem detachedLoop_ready :
    3 ∈ (WorkQueue.new (QueueIndex.new (Lowering.lowerToGraph
      acceptingExternals Table.empty detachedLoop) 4)).ready := by
  decide

theorem head_notMem_chainAlone : plainNode 3 .loop ∉ chainAlone.nodes := by
  intro member
  have listed := mem_map_of_mem (f := IRNode.id) member
  revert listed
  decide

theorem dead_nodes_behind_ready_detachedLoop :
    3 ∈ detachedLoop.loopIds ∧ (∃ edge ∈ detachedLoop.edges, edge.target = 3) := by
  obtain ⟨head, entered, -⟩ := (dead_nodes_behind_ready acceptingExternals
    Table.empty detachedLoop chainAlone 4 rfl 3 detachedLoop_ready
    ⟨⟨3, 4, none⟩, by simp [detachedLoop, workflow], rfl⟩
    (plainNode 3 .loop) (by simp [detachedLoop, workflow]) .refl).2 head_notMem_chainAlone
  exact ⟨head, entered⟩

/-- The head is ready at the start and is removed. -/
theorem detachedLoop_removed :
    ¬ ∀ (externals : Externals) (customCompilers : Table String StrategyCompiler)
        (ir accepted next : WorkflowIR) (maxConcurrent : Nat),
      ControlFlowValidation.apply externals ir = .ok accepted →
      DeadNodeElimination.apply externals accepted = .ok next →
      ∀ start ∈ (WorkQueue.new (QueueIndex.new
          (Lowering.lowerToGraph externals customCompilers accepted) maxConcurrent)).ready,
        (∃ edge ∈ accepted.edges, edge.source = start) → ∀ node ∈ accepted.nodes,
          ReflTransGen accepted.Leads start node.id → node ∈ next.nodes := by
  intro spares
  exact head_notMem_chainAlone (spares acceptingExternals Table.empty
    detachedLoop detachedLoop chainAlone 4 rfl rfl 3 detachedLoop_ready
    ⟨⟨3, 4, none⟩, by simp [detachedLoop, workflow], rfl⟩
    (plainNode 3 .loop) (by simp [detachedLoop, workflow]) .refl)

end FusionRouter
