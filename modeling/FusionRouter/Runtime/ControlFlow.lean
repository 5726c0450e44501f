import FusionRouter.Runtime.PolicyApproval
import FusionRouter.Scheduler.Arrival

/-!
# Control flow under the provider-backed executor

The scheduler reads a boolean from the output of a loop head and a string from
the output of a conditional node.  `ProviderExecutor` outputs an object for
both, so that a loop head always leaves its loop and a conditional node always
takes the edges for `"true"`.
-/

namespace FusionRouter

open RunState Trace
open List hiding head

namespace ProviderExecutor

theorem object_executeNode (control : node.kind = .loop ∨ node.kind = .conditional)
    (ctx : NodeExecContext) :
    Returns (fun result => result.state = .succeeded →
      ∃ fields, result.output = some (.object fields))
      (executeNode runtime environment executor node ctx) := by
  cases attached : node.subgraph with
  | none =>
    rw [executeNode_none runtime environment executor attached]
    unfold executeLeaf
    rcases control with kind | kind
    · rw [kind]
      exact .pure (fun _ => ⟨_, rfl⟩)
    · rw [kind]
      exact .pure (fun _ => ⟨_, rfl⟩)
  | some subgraph =>
    rw [executeNode_some runtime environment executor attached]
    intro start success
    rcases result_executeSubgraph _ ctx start with ⟨message, failed⟩ | ⟨-, object⟩
    · rw [failed] at success
      cases success
    · exact object

def runs (executor : ProviderExecutor) (runtime : RuntimeExternals)
    (environments : Nat → Environment) (base : RunSetup) : RunSetup :=
  { base with executor := executor.answers runtime environments }

end ProviderExecutor

theorem Dispatches.kindAt {envelope : Option BudgetEnvelope}
    (dispatches : Dispatches setup envelope call) :
    setup.graph.kindAt call.node.id = some call.node.kind := by
  obtain ⟨state, calls, dispatched, -, -, started, member⟩ := dispatches
  obtain ⟨-, built, -⟩ := dispatch_ok started
  obtain ⟨position, node, -⟩ := built call member
  simp [ExecutionGraph.kindAt, ExecutionGraph.nodeAt, position, node]

section Runs

variable {executor : ProviderExecutor} {envelope : Option BudgetEnvelope}
  {id : Uuid}

theorem Reachable.object_returned
    (reached : Reachable (executor.runs runtime environments base) envelope
      config) (returned : .returned id result ∈ config.2.log) (success : result.state = .succeeded)
    (control : base.graph.kindAt id = some .loop ∨ base.graph.kindAt id = some .conditional) :
    ∃ fields, stored result = .object fields := by
  obtain ⟨call, dispatches, rfl, rfl⟩ := reached.executed_of_returned returned
  have kind : base.graph.kindAt call.node.id = some call.node.kind := dispatches.kindAt
  simp only [kind, Option.some.injEq] at control
  obtain ⟨fields, object⟩ := (ProviderExecutor.object_executeNode control
    call.context).run ⟨0, 0, 0, 0⟩ success
  refine ⟨fields, ?_⟩
  unfold stored
  rw [show (executor.runs runtime environments base).executor call.number
    call.node call.context = (Trace.run _ _).1 from rfl, object]
  rfl

theorem neverContinues_runs : NeverContinues
    (executor.runs runtime environments base) envelope := by
  intro batchIds id result rest state reached kind success
  rcases reached.result_logged mem_cons_self with ⟨message, failure⟩ | returned
  · simp [success] at failure
  · obtain ⟨fields, object⟩ := reached.object_returned returned success (Or.inl kind)
    rw [object]
    rfl

/-- The edges that a succeeded result of their source activates under this
executor. -/
def OpenEdge (graph : ExecutionGraph) (edge : ExecutionEdge) : Prop :=
  edge.source ∉ graph.selectiveSources ∨
    graph.kindAt edge.source = some .loop ∧ edge.condition = some "exit" ∨
    graph.kindAt edge.source = some .conditional ∧
      (edge.condition = none ∨ edge.condition = some "true")

variable {graph : ExecutionGraph}

theorem mem_targets_filter :
    target ∈ ((graph.outgoingEdges id).filter kept).map ExecutionEdge.target ↔
      ∃ edge, edge ∈ graph.edges ∧ edge.source = id ∧ edge.target = target ∧ kept edge = true := by
  simp only [ExecutionGraph.outgoingEdges, mem_map, mem_filter, decide_eq_true_eq]
  constructor
  · rintro ⟨edge, ⟨⟨member, source⟩, selected⟩, arrives⟩
    exact ⟨edge, member, source, arrives, selected⟩
  · rintro ⟨edge, member, source, arrives, selected⟩
    exact ⟨edge, ⟨⟨member, source⟩, selected⟩, arrives⟩

theorem mem_exitTargets {id : Uuid} :
    target ∈ graph.exitTargets id ↔ ∃ edge, edge ∈ graph.edges ∧
      edge.source = id ∧ edge.target = target ∧ edge.condition = some "exit" := by
  unfold ExecutionGraph.exitTargets
  simp only [mem_targets_filter, decide_eq_true_eq]

/-- Does the output of a conditional node activate this edge of it? -/
def ExecutionEdge.selectedBy (edge : ExecutionEdge) (output : Json) : Bool :=
  match edge.condition with
  | some condition => condition = output.asStr.getD "true"
  | none => true

theorem mem_matchedTargets :
    target ∈ graph.matchedTargets id output ↔ ∃ edge, edge ∈ graph.edges ∧
      edge.source = id ∧ edge.target = target ∧ edge.selectedBy output = true :=
  mem_targets_filter

/-- An object is not a string, so it stands for `"true"`. -/
theorem ExecutionEdge.selectedBy_object {edge : ExecutionEdge} :
    edge.selectedBy (.object fields) = true ↔
      edge.condition = none ∨ edge.condition = some "true" := by
  unfold selectedBy
  cases edge.condition with
  | none => simp
  | some condition =>
    refine decide_eq_true_iff.trans ?_
    simp [Json.asStr]

theorem selects_iff_open
    (reached : Reachable (executor.runs runtime environments base) envelope
      config) (returned : .returned id result ∈ config.2.log)
    (success : result.state = .succeeded) :
    Selects (executor.runs runtime environments base) id result target ↔
      ∃ edge, edge ∈ base.graph.edges ∧ edge.source = id ∧
        edge.target = target ∧ OpenEdge base.graph edge := by
  constructor
  · intro selects
    cases selects with
    | all blanket edge =>
      obtain ⟨edge, member, rfl, rfl⟩ := edge
      exact ⟨edge, member, rfl, rfl, Or.inl blanket⟩
    | matched _ kind member =>
      obtain ⟨fields, object⟩ := reached.object_returned returned success (Or.inr kind)
      obtain ⟨edge, present, rfl, arrives, selected⟩ := mem_matchedTargets.mp member
      rw [object, ExecutionEdge.selectedBy_object] at selected
      exact ⟨edge, present, rfl, arrives, Or.inr (Or.inr ⟨kind, selected⟩)⟩
    | body _ kind decision =>
      obtain ⟨fields, object⟩ := reached.object_returned returned success (Or.inl kind)
      rw [object] at decision
      cases decision
    | exit _ kind _ member =>
      obtain ⟨edge, present, rfl, arrives, exit⟩ := mem_exitTargets.mp member
      exact ⟨edge, present, rfl, arrives, Or.inr (Or.inl ⟨kind, exit⟩)⟩
  · rintro ⟨edge, present, rfl, rfl, blanket | ⟨kind, exit⟩ | ⟨kind, selected⟩⟩
    · exact .all blanket ⟨edge, present, rfl, rfl⟩
    · obtain ⟨fields, object⟩ := reached.object_returned returned success (Or.inl kind)
      refine .exit success kind ?_ (mem_exitTargets.mpr ⟨edge, present, rfl, rfl, exit⟩)
      rw [object]
      rfl
    · obtain ⟨fields, object⟩ := reached.object_returned returned success (Or.inr kind)
      refine .matched success kind (mem_matchedTargets.mpr ⟨edge, present, rfl, rfl, ?_⟩)
      rw [object, ExecutionEdge.selectedBy_object]
      exact selected

end Runs

/-- A call of the node returned with success. -/
def Succeeded (log : List Event) (id : Uuid) : Prop :=
  ∃ result, .returned id result ∈ log ∧ result.state = .succeeded

section LoopBodies

variable {executor : ProviderExecutor} {base : RunSetup}

theorem open_of_called (distinct : DistinctSources base.index target)
    (late : ∀ source, BacksComeLate (executor.runs runtime environments base) none source target)
    (reached : Reachable (executor.runs runtime environments base) none config)
    (called : .called position target ∈ config.2.log)
    (member : edge ∈ base.graph.edges) (gates : base.index.gates edge = true)
    (arrives : edge.target = target) : OpenEdge base.graph edge := by
  have gating : base.index.GatingEdge edge.source target := ⟨edge, member, gates, rfl, arrives⟩
  obtain ⟨state, call, dispatches, rfl, -⟩ := reached.dispatched_of_called called
  have activated := dispatches.activated (late edge.source) gating
  obtain ⟨result, returned, -, selects⟩ := dispatches.reachable.selected
    (QueueIndex.gatingEdge_iff.mp gating).2 activated
  by_cases plain : edge.source ∉ base.graph.selectiveSources
  · exact Or.inl plain
  · have success : result.state = .succeeded := by
      cases selects with
      | all blanket => exact (plain blanket).elim
      | matched success | body success | exit success => exact success
    obtain ⟨other, present, source, target, isOpen⟩ :=
      (selects_iff_open dispatches.reachable returned success).mp selects
    -- the source has no other gating edge to the node
    have listed : ∀ arrow ∈ base.graph.edges,
        arrow.source = edge.source → arrow.target = call.node.id →
          arrow ∈ (base.index.graph.incomingEdges call.node.id).filter
            base.index.gates := by
      intro arrow present source target
      refine mem_filter.mpr ⟨mem_filter.mpr ⟨present, decide_eq_true target⟩, ?_⟩
      simpa [QueueIndex.gates, source, target] using (QueueIndex.gatingEdge_iff.mp gating).2
    have same : other = edge := inj_on_of_nodup_map distinct
      (listed other present source target) (listed edge member rfl arrives) source
    exact same ▸ isOpen

theorem backEdge_of_open (kind : base.graph.kindAt head = some .loop)
    (body : target ∈ base.graph.bodyIds head)
    (isOpen : ∀ edge ∈ base.graph.edges, base.index.gates edge = true → edge.target = target →
        OpenEdge base.graph edge) : (head, target) ∈ base.index.backEdges := by
  by_contra forward
  obtain ⟨edge, inside, rfl⟩ := mem_map.mp body
  obtain ⟨outgoing, inner⟩ := mem_filter.mp inside
  obtain ⟨member, source⟩ := mem_filter.mp outgoing
  have source : edge.source = head := of_decide_eq_true source
  have gates : base.index.gates edge = true := by
    simpa [QueueIndex.gates, source] using forward
  rcases isOpen edge member gates rfl with plain | ⟨-, exit⟩ | ⟨other, -⟩
  · rw [source] at plain
    exact plain (mem_selectiveSources_of_kindAt (Or.inl kind))
  · simp [exit] at inner
  · rw [source, kind] at other
    cases other

end LoopBodies

/-- A run of the executor returns, and it has called a successor of a loop head
whose other dependencies succeeded exactly when all gating edges into the
successor are open. -/
theorem loop_successor_called_iff (options : CompilerOptions) (ir : WorkflowIR)
    (base : RunSetup) (compiled : compile options ir = .ok base.graph)
    (executor : ProviderExecutor) (runtime : RuntimeExternals)
    (environments : Nat → Environment) (uncancelled : Uncancelled base)
    (capped : 0 < base.maxConcurrent) (head target : Uuid)
    (kind : base.graph.kindAt head = some .loop) (body : target ∈ base.graph.bodyIds head)
    (free : Unobstructed (executor.runs runtime environments base) none target)
    (late : ∀ source, BacksComeLate (executor.runs runtime environments base) none source target) :
    (∃ fuel outcome last, runInner (executor.runs runtime environments base)
      none fuel = some (.ok outcome, last)) ∧
    ∀ fuel outcome last, runInner (executor.runs runtime environments base)
      none fuel = some (.ok outcome, last) →
      (∀ source, base.index.GatingEdge source target → source ≠ head → Succeeded last.log source) →
        ((∃ position, .called position target ∈ last.log) ↔
          ∀ edge, edge ∈ base.graph.edges → base.index.gates edge = true →
            edge.target = target → OpenEdge base.graph edge) := by
  have alive : Uncancelled (executor.runs runtime environments base) :=
    ⟨uncancelled.returning, uncancelled.alive⟩
  have known : target ∈ base.graph.nodes.map ExecutionNode.id := by
    obtain ⟨live, final, stages⟩ := compile_stages compiled
    obtain ⟨edge, member, -, rfl⟩ := connected_of_selected body
    exact (stages.graph_edge_known member).2
  refine ⟨?_, ?_⟩
  · obtain ⟨fuel, result, finished⟩ :
        ∃ fuel result, runInner (executor.runs runtime environments base) none fuel = some result :=
      runInner_terminates_of_leaving neverContinues_runs capped
    obtain ⟨config, reached, ends⟩ := runInner_ends finished
    obtain ⟨state, rfl, rfl, -⟩ := ends.idle alive.staysAlive reached
    exact ⟨fuel, _, _, finished⟩
  · intro fuel outcome last finished succeeded
    obtain ⟨config, reached, ends⟩ := runInner_ends finished
    obtain ⟨state, rfl, same, -⟩ := ends.idle alive.staysAlive reached
    cases same
    constructor
    · rintro ⟨position, called⟩ edge member gates arrives
      exact open_of_called free.distinct late reached called member gates arrives
    · intro isOpen
      have back := backEdge_of_open kind body isOpen
      refine called_of_activated alive known free finished ?_
      intro source gating
      have forward := (QueueIndex.gatingEdge_iff.mp gating).2
      have different : source ≠ head := by
        rintro rfl
        exact forward back
      obtain ⟨edge, member, gates, rfl, arrives⟩ := gating
      obtain ⟨result, returned, success⟩ := succeeded edge.source
        ⟨edge, member, gates, rfl, arrives⟩ different
      have selects := (selects_iff_open reached returned success).mpr
        ⟨edge, member, rfl, arrives, isOpen edge member gates arrives⟩
      exact (reached.selected_activated forward (by simp [success]) selects
        returned).resolve_right not_mem_nil

namespace ControlFlowSample

def executor : ProviderExecutor :=
  .sample

def runtime : RuntimeExternals :=
  .sample acceptingExternals [1, 2, 3, 4]

def environment : Environment :=
  .sample

/-- What the sample runs are given, but for their executor. -/
def base (ir : WorkflowIR) : RunSetup :=
  sampleSetup (compiledGraph sampleOptions ir) succeeding

def setup (ir : WorkflowIR) : RunSetup :=
  executor.runs runtime (fun _ => environment) (base ir)

/-- A loop head 2 behind 1 that leads back to itself. -/
def selfLoop : WorkflowIR :=
  workflow [plainNode 1 .generate, plainNode 2 .loop] [⟨1, 2, none⟩, ⟨2, 2, some "loop"⟩]

/-- All results succeed, and 2 returns only after 1 has opened its edge. -/
def inOrder (config : Phase × RunState) : Bool :=
  config.1.results.all (fun pending => decide (pending.2.state = .succeeded)) &&
    (!(config.2.log.map Event.summary).contains (false, 2) ||
      decide ((1, 2) ∈ config.2.queue.activatedEdges))

theorem selfLoop_inOrder (reached : Reachable (setup selfLoop) none config) :
    inOrder config = true := reached.checked inOrder 20 (by decide)

theorem selfLoop_backEdges : (setup selfLoop).index.backEdges = {(2, 2)} := by
  decide

theorem selfLoop_unobstructed : Unobstructed (setup selfLoop) none 2 := by
  refine ⟨?_, ?_, ?_⟩
  · unfold DistinctSources
    decide
  · intro batchIds id result rest state reached success loopId rearms _
    cases rearms with
    | continues kind decision =>
      have leaves := neverContinues_runs _ _ _ _ _ reached kind success
      simp [leaves] at decision
    | iterates _ target =>
      have back := QueueIndex.loopBackTarget_eq_some target
      rw [selfLoop_backEdges, Finset.mem_singleton] at back
      cases back
      rfl
  · intro batchIds id result rest state message reached failure _
    have checked := selfLoop_inOrder reached
    simp [inOrder, Phase.results, failure] at checked

theorem selfLoop_gating : ∀ edge ∈ (base selfLoop).graph.edges,
    (base selfLoop).index.gates edge = true → edge.target = 2 → edge.source = 1 := by
  decide

theorem selfLoop_late (source : Uuid) : BacksComeLate (setup selfLoop) none source 2 := by
  intro config reached other back opened predecessor gating
  rw [selfLoop_backEdges, Finset.mem_singleton] at back
  cases back
  obtain ⟨⟨result, returned, -⟩, -⟩ := opened
  have listed : (false, 2) ∈ config.2.log.map Event.summary := mem_map.mpr ⟨_, returned, rfl⟩
  have checked := selfLoop_inOrder reached
  simp only [inOrder, Bool.and_eq_true, Bool.or_eq_true, Bool.not_eq_true',
    contains_eq_mem, decide_eq_false_iff_not, decide_eq_true_eq] at checked
  have activated := checked.2.resolve_left (fun absent => absent listed)
  obtain ⟨edge, member, gates, rfl, arrives⟩ := gating
  rw [selfLoop_gating edge member gates arrives]
  have forward : (1, 2) ∉ (setup selfLoop).index.backEdges := by
    decide
  obtain ⟨first, came, unfailed, -⟩ := reached.selected forward activated
  exact ⟨⟨first, came, unfailed⟩, fun same => same ▸ activated⟩

/-- Did a call of the node return with success? -/
def succeededIn (id : Uuid) (log : List Event) : Bool :=
  log.any (fun event =>
    match event with
    | .returned other result =>
      decide (other = id) && decide (result.state = .succeeded)
    | .called _ _ => false)

theorem of_succeededIn {id : Uuid} {log : List Event}
    (found : succeededIn id log = true) : Succeeded log id := by
  obtain ⟨event, member, holds⟩ := any_eq_true.mp found
  cases event with
  | called position other => cases holds
  | returned other result =>
    simp only [Bool.and_eq_true, decide_eq_true_eq] at holds
    obtain ⟨rfl, success⟩ := holds
    exact ⟨result, member, success⟩

/-- The head is a successor of itself and is called. -/
theorem selfLoop_called :
    ∃ fuel outcome last, runInner (setup selfLoop) none fuel =
        some (.ok outcome, last) ∧ Succeeded last.log 1 ∧
      ∃ position, .called position 2 ∈ last.log := by
  have run : (runInner (setup selfLoop) none 20).map (fun last =>
      (last.1.isOk, succeededIn 1 last.2.log)) = some (true, true) := by
    decide
  obtain ⟨⟨returned, last⟩, finished, summary⟩ := Option.map_eq_some_iff.mp run
  obtain ⟨accepted, first⟩ := Prod.mk.inj summary
  cases returned with
  | error error => cases accepted
  | ok outcome =>
    have succeeded := of_succeededIn first
    have iff := (loop_successor_called_iff sampleOptions selfLoop
      (base selfLoop) (compile_eq_ok (by decide)) executor runtime
      (fun _ => environment) (uncancelled_of_none rfl) (by decide) 2 2
      (by decide) (by decide) selfLoop_unobstructed
      selfLoop_late).2 20 outcome last finished (by
        rintro source ⟨edge, member, gates, rfl, arrives⟩ _
        rw [selfLoop_gating edge member gates arrives]
        exact succeeded)
    refine ⟨20, outcome, last, finished, succeeded, iff.mpr ?_⟩
    intro edge member gates arrives
    refine Or.inl ?_
    rw [selfLoop_gating edge member gates arrives]
    decide

/-- A loop head 1 behind 4, with the body 2 and the exit target 3. -/
def bodyLoop : WorkflowIR :=
  workflow [plainNode 4 .generate, plainNode 1 .loop, plainNode 2 .generate, plainNode 3 .generate]
    [⟨4, 1, none⟩, ⟨1, 2, none⟩, ⟨1, 3, some "exit"⟩, ⟨2, 1, some "loop"⟩]

/-- The head leaves the loop at once, and its body is never called. -/
theorem body_never_called :
    ¬ ∀ (options : CompilerOptions) (ir : WorkflowIR) (base : RunSetup),
      compile options ir = .ok base.graph → Uncancelled base → 0 < base.maxConcurrent →
          ∀ (executor : ProviderExecutor) (runtime : RuntimeExternals)
            (environments : Nat → Environment),
            (∀ number question request, ∃ response,
              (environments number).reply question request = .ok response) →
            ∀ (fuel : Nat) (outcome : ExecutionOutcome) (last : RunState),
              runInner (executor.runs runtime environments base) none fuel =
                some (.ok outcome, last) → ∀ (head : Uuid) (node : ExecutionNode),
                base.graph.nodeAt head = some node → node.kind = .loop → 1 ≤ node.maxIters →
                (∀ source, base.index.GatingEdge source head → Succeeded last.log source) →
                ∀ target, target ∈ base.graph.bodyIds head →
                  (∀ source, base.graph.Connected source target →
                    source ≠ head → Succeeded last.log source) →
                  ∃ position, .called position target ∈ last.log := by
  intro always
  have run : (runInner (setup bodyLoop) none 20).map (fun last =>
      (last.1.isOk, succeededIn 4 last.2.log, (last.2.log.map Event.summary).contains (true, 2))) =
          some (true, true, false) := by
    decide +kernel
  obtain ⟨⟨returned, last⟩, finished, summary⟩ := Option.map_eq_some_iff.mp run
  simp only [Prod.mk.injEq, contains_eq_mem, decide_eq_false_iff_not] at summary
  obtain ⟨accepted, first, uncalled⟩ := summary
  have head : ((base bodyLoop).graph.nodeAt 1).map (fun node =>
      (node.kind, node.maxIters)) = some (.loop, 3) := by
    decide +kernel
  obtain ⟨node, found, data⟩ := Option.map_eq_some_iff.mp head
  obtain ⟨kind, bound⟩ := Prod.mk.inj data
  have predecessors : ∀ edge, edge ∈ (base bodyLoop).graph.edges →
      (base bodyLoop).index.gates edge = true → edge.target = 1 → edge.source = 4 := by
    decide +kernel
  have dependencies : ∀ edge, edge ∈ (base bodyLoop).graph.edges →
      edge.target = 2 → edge.source = 1 := by
    decide +kernel
  cases returned with
  | error error => cases accepted
  | ok outcome =>
    obtain ⟨position, called⟩ := always sampleOptions bodyLoop (base bodyLoop)
      (compile_eq_ok (by decide +kernel)) (uncancelled_of_none rfl)
      (by decide) executor runtime (fun _ => environment)
      (fun _ _ _ => ⟨_, rfl⟩) 20 outcome last finished 1 node found kind
      (by omega) (by
        rintro source ⟨edge, member, gates, rfl, arrives⟩
        rw [predecessors edge member gates arrives]
        exact of_succeededIn first)
      2 (by decide +kernel)
      (by
        rintro source ⟨edge, member, rfl, arrives⟩ different
        exact (different (dependencies edge member arrives)).elim)
    exact uncalled (mem_map.mpr ⟨_, called, rfl⟩)

end ControlFlowSample

end FusionRouter
