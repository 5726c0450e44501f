import Mathlib.Data.List.Sort
import FusionRouter.Lib.Worklist
import FusionRouter.Types.Workflow

/-!
# The work queue

`WorkQueue` keeps what the scheduler knows about the nodes of one run.  The
fields that `WorkQueue::new` computes and nothing changes afterwards are
`QueueIndex`; the ones that change are `WorkQueue`.  The adjacency maps of the
source hold, for each id, the edges pushed in list order, so here they are
filters of the edge list.
-/

namespace FusionRouter

open List Finset

/-- The part of a work queue that is fixed at construction. -/
structure QueueIndex where
  graph : ExecutionGraph
  selectiveSources : Finset Uuid
  backEdges : Finset (Uuid × Uuid)
  maxConcurrentNodes : Nat

/-- The part of a work queue that a run changes. -/
structure WorkQueue where
  completed : Finset Uuid
  inProgress : Finset Uuid
  failed : Finset Uuid
  ready : Finset Uuid
  satisfiedIncoming : Uuid → Nat
  activatedEdges : Finset (Uuid × Uuid)

namespace ExecutionGraph

variable (graph : ExecutionGraph)

def outgoingEdges (id : Uuid) : List ExecutionEdge :=
  graph.edges.filter (fun edge => edge.source = id)

def incomingEdges (id : Uuid) : List ExecutionEdge :=
  graph.edges.filter (fun edge => edge.target = id)

/-- The targets in the `outgoing` map of the queue. -/
def outgoing (id : Uuid) : List Uuid :=
  (graph.outgoingEdges id).map ExecutionEdge.target

/-- The sources in the `incoming` map of the queue. -/
def incoming (id : Uuid) : List Uuid :=
  (graph.incomingEdges id).map ExecutionEdge.source

def loopNodeIds : Finset Uuid :=
  ((graph.nodes.filter (fun node => node.kind = .loop)).map ExecutionNode.id).toFinset

/-- Nodes whose outgoing edges are activated one by one: `Loop` and
`Conditional`. -/
def selectiveSources : Finset Uuid :=
  ((graph.nodes.filter (fun node => node.kind = .loop ∨ node.kind = .conditional)).map
      ExecutionNode.id).toFinset

/-- The ids a loop head can reach, computed by the stack walk of
`WorkQueue::new`.  Every pop after the first was pushed by a distinct edge
target. -/
def reachedFrom (loopId : Uuid) : Finset Uuid :=
  Worklist.search graph.outgoing (graph.edges.length + 1) [loopId] ∅

/-- Is this edge produced inside a loop: an edge into a loop head from the
head itself or from a node it reaches, or one marked `"loop"`? -/
def isBackEdge (edge : ExecutionEdge) : Bool :=
  decide (edge.target ∈ graph.loopNodeIds) &&
    (decide (edge.source = edge.target) || decide (edge.source ∈ graph.reachedFrom edge.target) ||
      decide (edge.condition = some "loop"))

def backEdges : Finset (Uuid × Uuid) :=
  ((graph.edges.filter graph.isBackEdge).map (fun edge => (edge.source, edge.target))).toFinset

end ExecutionGraph

namespace QueueIndex

/-- The fixed half of `WorkQueue::new`, with the dispatch cap of
`with_max_concurrent_nodes`. -/
def new (graph : ExecutionGraph) (maxConcurrent : Nat) : QueueIndex :=
  { graph := graph
    selectiveSources := graph.selectiveSources
    backEdges := graph.backEdges
    maxConcurrentNodes := max maxConcurrent 1 }

def gates (index : QueueIndex) (edge : ExecutionEdge) : Bool :=
  decide ((edge.source, edge.target) ∉ index.backEdges)

def totalIncoming (index : QueueIndex) (id : Uuid) : Nat :=
  (index.graph.incomingEdges id).countP index.gates

def hasLoopBackEdge (index : QueueIndex) (id : Uuid) : Bool :=
  (index.graph.outgoing id).any (fun target => decide ((id, target) ∈ index.backEdges))

/-- The loop node reached from `id` by an iteration back-edge, if any. -/
def loopBackTarget (index : QueueIndex) (id : Uuid) : Option Uuid :=
  (index.graph.outgoing id).find? (fun target => decide ((id, target) ∈ index.backEdges))

end QueueIndex

namespace WorkQueue

section

variable (index : QueueIndex)

/-- The changing half of `WorkQueue::new`. -/
def new : WorkQueue :=
  { completed := ∅
    inProgress := ∅
    failed := ∅
    ready := ((index.graph.nodes.filter (fun node => index.totalIncoming node.id = 0)).map
        ExecutionNode.id).toFinset
    satisfiedIncoming := fun _ => 0
    activatedEdges := ∅ }

variable (queue : WorkQueue)

/-- Count one more satisfied edge into `target` and make it ready when the
count meets the total. -/
def countEdge (source target : Uuid) : WorkQueue :=
  let satisfied := queue.satisfiedIncoming target + 1
  { queue with
    activatedEdges := insert (source, target) queue.activatedEdges
    satisfiedIncoming := Function.update queue.satisfiedIncoming target satisfied
    ready :=
      if satisfied = index.totalIncoming target ∧
          target ∉ queue.completed ∧ target ∉ queue.failed then
        insert target queue.ready
      else queue.ready }

/-- One round of the loop in `try_activate_downstream`. -/
def activateFresh (source : Uuid) (queue : WorkQueue) (target : Uuid) : WorkQueue :=
  if (source, target) ∈ queue.activatedEdges then queue
  else queue.countEdge index source target

def tryActivateDownstream (source : Uuid) : WorkQueue :=
  if source ∈ index.selectiveSources then queue
  else (index.graph.outgoing source).foldl (activateFresh index source) queue

def activateEdge (source target : Uuid) : WorkQueue :=
  if (source, target) ∈ index.backEdges then
    { queue with ready := insert target queue.ready }
  else activateFresh index source queue target

def markConditionalCompleted (id : Uuid) : WorkQueue :=
  { queue with
    completed := insert id queue.completed
    inProgress := queue.inProgress.erase id
    ready := queue.ready.erase id }

def markCompleted (id : Uuid) : WorkQueue :=
  tryActivateDownstream index (queue.markConditionalCompleted id) id

def markFailed (id : Uuid) : WorkQueue :=
  { queue with
    failed := insert id queue.failed
    inProgress := queue.inProgress.erase id
    ready := queue.ready.erase id }

def markInProgress (id : Uuid) : WorkQueue :=
  { queue with
    inProgress := insert id queue.inProgress
    ready := queue.ready.erase id }

/-- The edges into `id` that `reset_loop_body` counts as still satisfied. -/
def stillSatisfied (id : Uuid) : Nat :=
  (index.graph.incoming id).countP
    (fun source => decide (source ∈ queue.completed ∧ (source, id) ∈ queue.activatedEdges))

/-- One round of the loop in `reset_loop_body`. -/
def resetBodyNode (id : Uuid) : WorkQueue :=
  let cleared : WorkQueue :=
    { queue with
      completed := queue.completed.erase id
      inProgress := queue.inProgress.erase id
      failed := queue.failed.erase id
      ready := queue.ready.erase id }
  let satisfied := cleared.stillSatisfied index id
  { cleared with
    satisfiedIncoming := Function.update cleared.satisfiedIncoming id satisfied
    ready :=
      if satisfied = index.totalIncoming id ∧ 0 < satisfied then
        insert id cleared.ready
      else cleared.ready }

def resetLoopBody (bodyIds : List Uuid) : WorkQueue :=
  bodyIds.foldl (resetBodyNode index) queue

/-- Re-arms a node for execution. -/
def resetReady (id : Uuid) : WorkQueue :=
  { queue with
    completed := queue.completed.erase id
    inProgress := queue.inProgress.erase id
    failed := queue.failed.erase id
    ready := insert id queue.ready }

/-- Is the recorded state of this node final? -/
def settledIn (nodeStates : Table Uuid NodeState) (id : Uuid) : Bool :=
  match nodeStates id with
  | some state => state.isTerminal
  | none => false

def isReady (nodeStates : Table Uuid NodeState) (id : Uuid) : Bool :=
  decide (id ∈ queue.ready ∧ id ∉ queue.completed ∧
    id ∉ queue.inProgress ∧ id ∉ queue.failed) && !settledIn nodeStates id

/-- The ids of the nodes `get_ready` returns.  When more are ready than may
run, the ones with the smallest ids are kept. -/
def getReady (nodeStates : Table Uuid NodeState) : List Uuid :=
  let result := (index.graph.nodes.map ExecutionNode.id).filter (queue.isReady nodeStates)
  let available := index.maxConcurrentNodes - queue.inProgress.card
  if available < result.length then
    (result.insertionSort (· ≤ ·)).take available
  else result

def isDone (nodeStates : Table Uuid NodeState) : Bool :=
  index.graph.nodes.all (fun node =>
    decide (node.id ∈ queue.completed) || decide (node.id ∈ queue.failed) ||
      settledIn nodeStates node.id)

end

def anyInProgress (queue : WorkQueue) : Bool :=
  decide (queue.inProgress ≠ ∅)

/-- What activating edges leaves alone. -/
structure SameMarks (left right : WorkQueue) : Prop where
  completed : left.completed = right.completed
  inProgress : left.inProgress = right.inProgress
  failed : left.failed = right.failed

namespace SameMarks

theorem refl (queue : WorkQueue) : SameMarks queue queue := ⟨rfl, rfl, rfl⟩

theorem trans (left : SameMarks first second) (right : SameMarks second third) :
    SameMarks first third := ⟨left.completed.trans right.completed,
    left.inProgress.trans right.inProgress, left.failed.trans right.failed⟩

end SameMarks

theorem activateFresh_marks (index : QueueIndex) (source : Uuid)
    (queue : WorkQueue) (target : Uuid) :
    SameMarks (activateFresh index source queue target) queue := by
  unfold activateFresh
  split
  · exact SameMarks.refl queue
  · exact ⟨rfl, rfl, rfl⟩

theorem foldl_activateFresh_marks (index : QueueIndex) (source : Uuid)
    (targets : List Uuid) (queue : WorkQueue) :
    SameMarks (targets.foldl (activateFresh index source) queue) queue :=
  foldlRecOn (motive := fun other => SameMarks other queue) _ _
    (SameMarks.refl queue) (fun other same target _ =>
      (activateFresh_marks index source other target).trans same)

variable {queue : WorkQueue}

theorem tryActivateDownstream_selective (selective : source ∈ index.selectiveSources) :
    queue.tryActivateDownstream index source = queue := if_pos selective

theorem tryActivateDownstream_plain (plain : source ∉ index.selectiveSources) :
    queue.tryActivateDownstream index source =
      (index.graph.outgoing source).foldl (activateFresh index source) queue :=
  if_neg plain

theorem activateEdge_marks (index : QueueIndex) (queue : WorkQueue) (source target : Uuid) :
    SameMarks (queue.activateEdge index source target) queue := by
  unfold activateEdge
  split
  · exact ⟨rfl, rfl, rfl⟩
  · exact activateFresh_marks index source queue target

theorem markCompleted_marks (index : QueueIndex) (queue : WorkQueue) (id : Uuid) :
    SameMarks (queue.markCompleted index id) (queue.markConditionalCompleted id) := by
  unfold markCompleted tryActivateDownstream
  split
  · exact SameMarks.refl _
  · exact foldl_activateFresh_marks index id _ _

theorem foldl_markInProgress (ids : List Uuid) (queue : WorkQueue) :
    ids.foldl markInProgress queue =
      { queue with
        inProgress := queue.inProgress ∪ ids.toFinset
        ready := queue.ready \ ids.toFinset } := by
  induction ids generalizing queue with
  | nil => simp
  | cons id ids ih =>
    rw [foldl_cons, ih]
    simp only [markInProgress, toFinset_cons, mk.injEq, true_and, and_true]
    constructor
    · ext other
      simp only [mem_union, mem_insert]
      tauto
    · ext other
      simp only [mem_sdiff, mem_erase, mem_insert]
      tauto

/-- What `reset_loop_body` does to the marks of the queue. -/
theorem resetLoopBody_marks (index : QueueIndex) (queue : WorkQueue) (bodyIds : List Uuid) :
    SameMarks (queue.resetLoopBody index bodyIds)
      { queue with
        completed := queue.completed \ bodyIds.toFinset
        inProgress := queue.inProgress \ bodyIds.toFinset
        failed := queue.failed \ bodyIds.toFinset } := by
  have erased : ∀ (marks : Finset Uuid) (id : Uuid) (ids : List Uuid),
      marks.erase id \ ids.toFinset = marks \ (id :: ids).toFinset := by
    intro marks id ids
    ext other
    simp only [mem_sdiff, mem_erase, toFinset_cons, mem_insert]
    tauto
  unfold resetLoopBody
  induction bodyIds generalizing queue with
  | nil => simpa using SameMarks.refl queue
  | cons id ids ih =>
    rw [foldl_cons]
    have rest := ih (queue.resetBodyNode index id)
    exact ⟨rest.completed.trans (erased _ id ids), rest.inProgress.trans (erased _ id ids),
      rest.failed.trans (erased _ id ids)⟩

theorem mem_getReady {id : Uuid} (member : id ∈ queue.getReady index nodeStates) :
    id ∈ index.graph.nodes.map ExecutionNode.id ∧ queue.isReady nodeStates id = true := by
  unfold getReady at member
  dsimp only at member
  split at member
  · exact mem_filter.mp ((mem_insertionSort _).mp (mem_of_mem_take member))
  · exact mem_filter.mp member

/-- With nothing in progress, `get_ready` returns a node whenever one is
ready. -/
theorem getReady_ne_nil {id : Uuid} (free : queue.inProgress = ∅)
    (known : id ∈ graph.nodes.map ExecutionNode.id) (ready : queue.isReady nodeStates id = true) :
    queue.getReady (QueueIndex.new graph maxConcurrent) nodeStates ≠ [] := by
  have member : id ∈ (graph.nodes.map ExecutionNode.id).filter
      (queue.isReady nodeStates) := mem_filter.mpr ⟨known, ready⟩
  unfold getReady
  simp only [QueueIndex.new, free, card_empty, Nat.sub_zero]
  split
  next more =>
    intro empty
    have lengths := congrArg length empty
    simp only [length_take, length_insertionSort, length_nil] at lengths
    omega
  · exact ne_nil_of_mem member

end WorkQueue

end FusionRouter
