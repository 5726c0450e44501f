import FusionRouter.Scheduler.DependencyOrder

/-!
# Activated edges

The set of activated edges only grows, and an edge enters it when a result of
its source selects it.  A node that waits for a gating edge is called only
after that edge was activated, unless a back-edge arms it earlier.
-/

namespace FusionRouter

open RunState
open List hiding head

namespace WorkQueue

theorem activateFresh_activated (index : QueueIndex) (queue : WorkQueue) (source target : Uuid) :
    (queue.activateFresh index source target).activatedEdges =
      insert (source, target) queue.activatedEdges := by
  unfold activateFresh
  split
  next present => exact (Finset.insert_eq_of_mem present).symm
  · rfl

theorem mem_activated_markCompleted {queue : WorkQueue} :
    (left, right) ∈ (queue.markCompleted index source).activatedEdges ↔
      (left, right) ∈ queue.activatedEdges ∨ left = source ∧ source ∉ index.selectiveSources ∧
        index.graph.Connected source right := by
  have folded : ∀ (targets : List Uuid) (start : WorkQueue),
      (left, right) ∈ (targets.foldl (activateFresh index source)
          start).activatedEdges ↔ (left, right) ∈ start.activatedEdges ∨
          left = source ∧ right ∈ targets := by
    intro targets
    induction targets with
    | nil => simp
    | cons target targets ih =>
      intro start
      rw [foldl_cons, ih, activateFresh_activated, Finset.mem_insert, Prod.mk.injEq, mem_cons]
      tauto
  unfold markCompleted
  by_cases selective : source ∈ index.selectiveSources
  · rw [tryActivateDownstream_selective selective]
    simp [markConditionalCompleted, selective]
  · rw [tryActivateDownstream_plain selective, folded, ExecutionGraph.mem_outgoing]
    simp [markConditionalCompleted, selective]

theorem mem_activated_activateEdges {targets : List Uuid} {queue : WorkQueue} :
    (left, right) ∈ (targets.foldl (fun queue target => queue.activateEdge index source target)
        queue).activatedEdges ↔ (left, right) ∈ queue.activatedEdges ∨ left = source ∧
        right ∈ targets ∧ (left, right) ∉ index.backEdges := by
  induction targets generalizing queue with
  | nil => simp
  | cons target targets ih =>
    rw [foldl_cons, ih, mem_cons]
    unfold activateEdge
    split
    next back =>
      constructor
      · rintro (old | ⟨same, member, forward⟩)
        · exact Or.inl old
        · exact Or.inr ⟨same, Or.inr member, forward⟩
      · rintro (old | ⟨rfl, rfl | member, forward⟩)
        · exact Or.inl old
        · exact (forward back).elim
        · exact Or.inr ⟨rfl, member, forward⟩
    next forward =>
      rw [activateFresh_activated, Finset.mem_insert, Prod.mk.injEq]
      constructor
      · rintro ((⟨rfl, rfl⟩ | old) | ⟨same, member, gating⟩)
        · exact Or.inr ⟨rfl, Or.inl rfl, forward⟩
        · exact Or.inl old
        · exact Or.inr ⟨same, Or.inr member, gating⟩
      · rintro (old | ⟨same, same' | member, gating⟩)
        · exact Or.inl (Or.inr old)
        · exact Or.inl (Or.inl ⟨same, same'⟩)
        · exact Or.inr ⟨same, member, gating⟩

theorem resetLoopBody_activated (index : QueueIndex) (queue : WorkQueue) (bodyIds : List Uuid) :
    (queue.resetLoopBody index bodyIds).activatedEdges =
      queue.activatedEdges :=
  foldlRecOn (motive := fun other : WorkQueue =>
    other.activatedEdges = queue.activatedEdges) _ _ rfl (fun _ same _ _ => same)

end WorkQueue

theorem mem_selectiveSources_of_kindAt {graph : ExecutionGraph} {id : Uuid}
    (kind : graph.kindAt id = some .loop ∨
      graph.kindAt id = some .conditional) : id ∈ graph.selectiveSources := by
  cases found : graph.nodeAt id with
  | none => simp [ExecutionGraph.kindAt, found] at kind
  | some node =>
    obtain ⟨index, indexed, present⟩ := Option.bind_eq_some_iff.mp found
    obtain ⟨other, same, rfl⟩ := ExecutionGraph.nodeIndex_eq_some indexed
    obtain rfl : other = node := Option.some.inj (same.symm.trans present)
    simp only [ExecutionGraph.kindAt, found, Option.map_some, Option.some.injEq] at kind
    refine mem_toFinset.mpr (mem_map.mpr ⟨other, ?_, rfl⟩)
    exact mem_filter.mpr ⟨mem_of_getElem? same, by simpa using kind⟩

section

variable {id target : Uuid}

theorem selects_conditional (success : result.state = .succeeded)
    (kind : setup.graph.kindAt id = some .conditional) :
    Selects setup id result target ↔ target ∈ setup.graph.matchedTargets id (stored result) := by
  constructor
  · intro selects
    cases selects with
    | all blanket =>
      exact (blanket (mem_selectiveSources_of_kindAt (Or.inr kind))).elim
    | matched _ _ member => exact member
    | body _ loop | exit _ loop => simp [kind] at loop
  · exact .matched success kind

theorem selects_loop (success : result.state = .succeeded)
    (kind : setup.graph.kindAt id = some .loop) :
    Selects setup id result target ↔ target ∈ if (stored result).asBool.getD false then
        setup.graph.bodyIds id else setup.graph.exitTargets id := by
  constructor
  · intro selects
    cases selects with
    | all blanket =>
      exact (blanket (mem_selectiveSources_of_kindAt (Or.inl kind))).elim
    | matched _ conditional => simp [kind] at conditional
    | body _ _ continues member => simpa [continues] using member
    | exit _ _ leaves member => simpa [leaves] using member
  · intro member
    split at member
    next continues => exact .body success kind continues member
    next leaves =>
      exact .exit success kind (Bool.eq_false_iff.mpr leaves) member

theorem selects_blanket (plain : result.state = .succeeded →
      setup.graph.kindAt id ≠ some .conditional ∧ setup.graph.kindAt id ≠ some .loop) :
    Selects setup id result target ↔ id ∉ setup.graph.selectiveSources ∧
      setup.graph.Connected id target := by
  constructor
  · intro selects
    cases selects with
    | all blanket edge => exact ⟨blanket, edge⟩
    | matched success kind => exact ((plain success).1 kind).elim
    | body success kind | exit success kind =>
      exact ((plain success).2 kind).elim
  · rintro ⟨blanket, edge⟩
    exact .all blanket edge

end

namespace RunState.Settles

variable {id : Uuid}

section

variable (settles : Settles setup state id result (.next following))
include settles

theorem mem_activated {left right : Uuid} (gating : (left, right) ∉ setup.index.backEdges) :
    (left, right) ∈ following.queue.activatedEdges ↔
      (left, right) ∈ state.queue.activatedEdges ∨ left = id ∧
        (∀ message, result.state ≠ .failed message) ∧ Selects setup id result right := by
  have completed : (left, right) ∈ (state.queue.markCompleted setup.index id).activatedEdges ↔
        (left, right) ∈ state.queue.activatedEdges ∨ left = id ∧
          id ∉ setup.graph.selectiveSources ∧ setup.graph.Connected id right :=
    WorkQueue.mem_activated_markCompleted
  cases settles with
  | conditional success kind =>
    rw [selects_conditional success kind]
    simp only [conditionalSucceeded, activateAll, WorkQueue.mem_activated_activateEdges]
    simp [WorkQueue.markConditionalCompleted, recordSuccess, success, gating]
  | continues envelope success kind decision =>
    have selective := mem_selectiveSources_of_kindAt (Or.inl kind)
    rw [selects_loop success kind, if_pos decision]
    simp only [continueLoop, activateAll, rearmBody, complete, recordSuccess,
      WorkQueue.mem_activated_activateEdges, WorkQueue.resetLoopBody_activated, completed]
    simp [success, gating, selective]
  | exits success kind decision =>
    have selective := mem_selectiveSources_of_kindAt (Or.inl kind)
    rw [selects_loop success kind, decision, if_neg Bool.false_ne_true]
    simp only [activateAll, complete, recordSuccess,
      WorkQueue.mem_activated_activateEdges, completed]
    simp [success, gating, selective]
  | plain success notConditional notLoop
  | capped loopId loopNode success notConditional notLoop =>
    rw [selects_blanket (fun _ => ⟨notConditional, notLoop⟩)]
    simp only [complete, recordSuccess, completed]
    simp [success]
  | iterates loopId loopNode success notConditional notLoop target =>
    have back := QueueIndex.loopBackTarget_eq_some target
    rw [selects_blanket (fun _ => ⟨notConditional, notLoop⟩)]
    simp only [nextIteration, rearmBody, complete, recordSuccess,
      WorkQueue.activateEdge, if_pos back, WorkQueue.resetReady,
      WorkQueue.resetLoopBody_activated, completed]
    simp [success]
  | failed message failure =>
    have same : (RunState.failed setup state id message).queue.activatedEdges
        = state.queue.activatedEdges :=
      cascade_induction (motive := fun acc => acc.1.activatedEdges =
        state.queue.activatedEdges) rfl (fun _ _ _ same _ => same) _ _ _
    rw [same]
    simp [failure]
  | other notSuccess notFailed =>
    rw [selects_blanket (fun success => (notSuccess success).elim)]
    simp only [otherState, complete, completed]
    simp [notFailed]

theorem activated_subset : state.queue.activatedEdges ⊆ following.queue.activatedEdges := by
  rintro ⟨left, right⟩ member
  have completed : (left, right) ∈ (state.queue.markCompleted setup.index id).activatedEdges :=
    WorkQueue.mem_activated_markCompleted.mpr (Or.inl member)
  cases settles with
  | conditional =>
    exact WorkQueue.mem_activated_activateEdges.mpr (Or.inl member)
  | continues =>
    refine WorkQueue.mem_activated_activateEdges.mpr (Or.inl ?_)
    exact (WorkQueue.resetLoopBody_activated _ _ _).symm ▸ completed
  | exits =>
    exact WorkQueue.mem_activated_activateEdges.mpr (Or.inl completed)
  | plain | capped | other => exact completed
  | iterates _ _ _ _ _ target =>
    have back := QueueIndex.loopBackTarget_eq_some target
    simp only [nextIteration, rearmBody, complete, recordSuccess,
      WorkQueue.activateEdge, if_pos back, WorkQueue.resetReady, WorkQueue.resetLoopBody_activated]
    exact completed
  | failed =>
    exact cascade_induction (motive := fun acc => (left, right) ∈ acc.1.activatedEdges) member
      (fun _ _ _ kept _ => kept) _ _ _

theorem loopIterations_le (loopId : Uuid) :
    state.loopIterations loopId ≤ following.loopIterations loopId := by
  cases settles with
  | iterates head =>
    change _ ≤ Function.update state.loopIterations head (state.loopIterations head + 1) loopId
    by_cases same : loopId = head
    · subst same
      rw [Function.update_self]
      exact Nat.le_succ _
    · rw [Function.update_of_ne same]
  | conditional | continues | exits | plain | capped | failed | other =>
    exact le_rfl

end

end RunState.Settles

variable {envelope : Option BudgetEnvelope}

theorem Reachable.selected (reached : Reachable setup envelope config)
    (gating : (left, right) ∉ setup.index.backEdges)
    (activated : (left, right) ∈ config.2.queue.activatedEdges) :
    ∃ result, .returned left result ∈ config.2.log ∧ (∀ message, result.state ≠ .failed message) ∧
      Selects setup left result right := by
  induction reached with
  | refl => simp [RunSetup.initial, WorkQueue.new] at activated
  | tail before step holds =>
    cases step with
    | spin | done => exact holds activated
    | @batch state dispatched calls _ _ started =>
      obtain ⟨-, -, rfl⟩ := dispatch_ok started
      obtain ⟨result, returned, selects⟩ := holds activated
      refine ⟨result, ?_, selects⟩
      simp only [runCalls, mem_append]
      exact Or.inl (Or.inl returned)
    | @fold batchIds id result rest state following processed =>
      rw [processResult_next_log processed]
      have charged := charged_same setup state id result
      rw [(processResult_next processed).mem_activated gating, charged.queue] at activated
      rcases activated with old | ⟨rfl, notFailed, selects⟩
      · exact holds old
      · rcases Reachable.result_logged before mem_cons_self with ⟨message, failure⟩ | returned
        · exact (notFailed message failure).elim
        · exact ⟨result, returned, notFailed, selects⟩

/-- The node returned, and not `Failed`. -/
def Came (log : List Event) (id : Uuid) : Prop :=
  ∃ result, .returned id result ∈ log ∧ ∀ message, result.state ≠ .failed message

/-- A node in front of `target` came, and if it is `head`, it opened the edge to
`target`. -/
def Opened (head target : Uuid) (state : RunState) (id : Uuid) : Prop :=
  Came state.log id ∧ (id = head → (head, target) ∈ state.queue.activatedEdges)

/-- Whatever has a back-edge into `target` comes after the nodes in front of
`target`, and after `head` opened its edge. -/
def BacksComeLate (setup : RunSetup) (envelope : Option BudgetEnvelope)
    (head target : Uuid) : Prop :=
  ∀ config, Reachable setup envelope config → ∀ source, (source, target) ∈ setup.index.backEdges →
      Opened head target config.2 source → Armed setup.index (Opened head target config.2) target

theorem backsComeLate_of_none (none : ∀ source, (source, target) ∉ setup.index.backEdges) :
    BacksComeLate setup envelope head target :=
  fun _ _ source back => (none source back).elim

theorem Came.mono {log later : List Event} {id : Uuid} (came : Came log id)
    (included : log ⊆ later) : Came later id := by
  obtain ⟨result, member, notFailed⟩ := came
  exact ⟨result, included member, notFailed⟩

theorem Reachable.inOrder_opened {target : Uuid} (late : BacksComeLate setup envelope head target)
    (gating : (head, target) ∉ setup.index.backEdges) (reached : Reachable setup envelope config) :
    InOrder setup.index (Opened head target config.2) target config.2.queue := by
  induction reached with
  | refl => exact InOrder.new setup.index _ target
  | tail before step holds =>
    cases step with
    | spin | done => exact holds
    | @batch state dispatched calls _ _ started =>
      obtain ⟨-, -, rfl⟩ := dispatch_ok started
      refine (holds.mono ?_).of_ready_subset rfl rfl Finset.sdiff_subset
      rintro other ⟨came, opened⟩
      refine ⟨came.mono ?_, opened⟩
      simp [runCalls, markBatch, entered]
    | @fold batchIds id result rest state following processed =>
      have charged := charged_same setup state id result
      have settles := processResult_next processed
      have log := processResult_next_log processed
      have next := before.tail (.fold processed)
      have grown : InOrder setup.index (Opened head target following) target
          state.queue := by
        refine holds.mono ?_
        rintro other ⟨came, opened⟩
        refine ⟨log.symm ▸ came, fun same => ?_⟩
        rw [settles.mem_activated gating, charged.queue]
        exact Or.inl (opened same)
      refine InOrder.settles (late _ next) (charged.queue ▸ grown) ?_ settles
      intro notFailed selects
      have came : Came following.log id := by
        rw [log]
        rcases Reachable.result_logged before mem_cons_self with ⟨message, failure⟩ | returned
        · exact (notFailed message failure).elim
        · exact ⟨result, returned, notFailed⟩
      refine ⟨came, ?_⟩
      rintro rfl
      rw [settles.mem_activated gating]
      refine Or.inr ⟨rfl, notFailed, ?_⟩
      exact selects.resolve_right gating

theorem DispatchesFrom.activated (started : DispatchesFrom setup envelope state call)
    (late : BacksComeLate setup envelope head call.node.id)
    (gating : setup.index.GatingEdge head call.node.id) :
    (head, call.node.id) ∈ state.queue.activatedEdges := by
  have forward := (QueueIndex.gatingEdge_iff.mp gating).2
  have inOrder := started.reachable.inOrder_opened late forward
  exact (inOrder.batch_armed started.mem_batch head gating).2 rfl

end FusionRouter
