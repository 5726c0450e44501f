import FusionRouter.FusionIr.Adapter
import FusionRouter.Scheduler.Arrival

/-!
# Conditional edges after the translation

The scheduler looks at the condition of an edge only where the source is a
`Conditional` or a `Loop` node, and no node of a translated workflow is one.
So a conditional edge waits for its source like any other edge, whatever the
source answers.
-/

namespace FusionRouter

namespace FusionIr

/-- No node of a translated workflow repeats or selects its successors. -/
theorem plain_lowerToGraph (externals : Externals) (customCompilers : Table String StrategyCompiler)
    (ir : WorkflowIR) {node : ExecutionNode} (member : node ∈
      (Lowering.lowerToGraph externals customCompilers (ir.toTypes externals)).nodes) :
    node.kind ≠ .loop ∧ node.kind ≠ .conditional := by
  obtain ⟨_, inside, rfl⟩ := List.mem_map.mp member
  obtain ⟨original, -, rfl⟩ := List.mem_map.mp inside
  change Lowering.lowerKind original.kind.toTypes ≠ _ ∧ Lowering.lowerKind original.kind.toTypes ≠ _
  cases original.kind <;> decide

/-- What does not fail answers a string. -/
def AnswersStrings (executor : Executor) : Prop :=
  ∀ number node context, (∀ message, (executor number node context).state ≠ .failed message) →
    ∃ text, (executor number node context).output = some (.string text)

/-- The target is dispatched only where the source has answered the text. -/
def DispatchedOnly (setup : RunSetup) (envelope : Option BudgetEnvelope)
    (source target : Uuid) (text : String) : Prop :=
  ∀ state call, DispatchesFrom setup envelope state call → call.node.id = target →
    ∃ result, .returned source result ∈ state.log ∧ result.output = some (.string text)

/-- Every node answers the text. -/
def answering (text : String) : Executor := fun _ _ _ =>
  { state := .succeeded
    usage := none
    output := some (.string text) }

theorem not_dispatchedOnly (externals : Externals)
    (customCompilers : Table String StrategyCompiler) (ir : WorkflowIR) {source target : Uuid}
    (different : other ≠ text) (runnable : Runnable
      (Lowering.lowerToGraph externals customCompilers (ir.toTypes externals)) target) :
    ¬ DispatchedOnly (sampleSetup (Lowering.lowerToGraph externals customCompilers
      (ir.toTypes externals)) (answering other)) none source target text := by
  have plain {node : ExecutionNode} := @plain_lowerToGraph externals customCompilers ir node
  generalize Lowering.lowerToGraph externals customCompilers (ir.toTypes externals) = graph at *
  have loopFree : LoopFree (sampleSetup graph (answering other)).graph := fun _ inside =>
    (plain inside).1
  have blanket : graph.selectiveSources = ∅ := by
    refine Finset.eq_empty_of_forall_notMem fun id selective => ?_
    obtain ⟨node, member, -⟩ := List.mem_map.mp (List.mem_toFinset.mp selective)
    obtain ⟨inside, kind⟩ := List.mem_filter.mp member
    simp [plain inside] at kind
  intro only
  obtain ⟨fuel, result, finished⟩ : ∃ fuel result,
      runInner (sampleSetup graph (answering other)) none fuel = some result :=
    runInner_terminates_of_leaving (fun _ id _ _ _ _ kind => (loopFree.kindAt id kind).elim)
      (show 0 < 4 by decide)
  obtain ⟨position, called⟩ := called_of_runnable loopFree (uncancelled_of_none rfl)
    (fun _ _ _ => rfl) blanket finished runnable
  obtain ⟨config, reached, same⟩ := (Visited.ended finished).reachable
  rw [← same] at called
  obtain ⟨state, call, started, id, -⟩ := reached.dispatched_of_called called
  obtain ⟨answer, returned, output⟩ := only state call started id
  obtain ⟨_, -, -, rfl⟩ := started.reachable.executed_of_returned returned
  exact different (Json.string.inj (Option.some.inj output))

/-- The target of a conditional edge waits for the condition in every run
exactly where it can not run at all: on a cycle, behind one, or behind parallel
edges. -/
theorem conditional_target_dispatched (externals : Externals)
    (customCompilers : Table String StrategyCompiler) (ir : WorkflowIR)
    (types : FusionRouter.WorkflowIR) (validated : ir.validate = [])
    (converted : workflowToTypes externals ir = .ok types) (edge : WorkflowEdge)
    (member : edge ∈ ir.edges) (kind : edge.kind = .conditional) :
    ∃ condition, edge.condition = some condition ∧
      ((∀ setup envelope, setup.graph = Lowering.lowerToGraph externals customCompilers types →
          AnswersStrings setup.executor → DispatchedOnly setup envelope
            (uuidFor externals edge.source) (uuidFor externals edge.target) condition) ↔
        ¬ Runnable (Lowering.lowerToGraph externals customCompilers types)
          (uuidFor externals edge.target)) := by
  have valid := (WorkflowIR.validate_eq_nil_iff ir).mp validated
  rw [workflowToTypes_of_valid externals valid] at converted
  cases converted
  obtain ⟨condition, present, -⟩ := valid.conditional edge member kind
  refine ⟨condition, present, ?_, ?_⟩
  · intro always runnable
    have different : condition ++ "?" ≠ condition := by
      intro same
      have lengths := congrArg String.length same
      simp at lengths
    exact not_dispatchedOnly externals customCompilers ir different runnable
      (always _ none rfl fun _ _ _ _ => ⟨_, rfl⟩)
  · intro blocked setup envelope lowered _ state call started target
    have loopFree : LoopFree setup.graph := by
      rw [lowered]
      exact fun node inside => (plain_lowerToGraph externals customCompilers ir inside).1
    have runnable := started.runnable loopFree
    rw [target, lowered] at runnable
    exact (blocked runnable).elim

namespace ConditionalSample

open AdapterSample

/-- A task with a conditional edge to the output. -/
def branch : WorkflowIR :=
  planOf [node "a" .task, node "bb" .output]
    [{ edge "a" "bb" with kind := .conditional, condition := some "yes" }]

def setup : RunSetup :=
  sampleSetup (Lowering.lowerToGraph externals Table.empty (branch.toTypes externals))
    (answering "no")

/-- The source answers `"no"`, and the target of the edge with the condition
`"yes"` is dispatched. -/
theorem no_dispatched :
    branch.validate = [] ∧
      (∀ other, other ∈ branch.edges → other.target = "bb" →
        other.kind = .conditional ∧ other.condition = some "yes") ∧
      workflowToTypes externals branch = .ok (branch.toTypes externals) ∧
      ∃ state call, DispatchesFrom setup none state call ∧
        call.node.id = uuidFor externals "bb" ∧
        ∀ result, .returned (uuidFor externals "a") result ∈ state.log →
          result.output = some (.string "no") := by
  refine ⟨by decide, by decide, rfl, ?_⟩
  have log : (runInner setup none 10).map (fun last => last.2.log.map Event.summary) =
      some [(true, 1), (false, 1), (true, 2), (false, 2)] := by
    decide
  obtain ⟨⟨result, state⟩, finished, events⟩ := Option.map_eq_some_iff.mp log
  obtain ⟨position, called⟩ := called_of_summary events 2 2 rfl
  obtain ⟨config, reached, same⟩ := (Visited.ended finished : Visited setup none state).reachable
  rw [← same] at called
  obtain ⟨before, call, started, target, -⟩ :=
    reached.dispatched_of_called (List.mem_of_getElem? called)
  refine ⟨before, call, started, target.trans (by decide), ?_⟩
  intro result returned
  obtain ⟨source, -, -, rfl⟩ := started.reachable.executed_of_returned returned
  rfl

/-- The conditional edge is part of a cycle that a `Loop` edge closes. -/
def cycle : WorkflowIR :=
  planOf [node "a" .task, node "bb" .task, node "ccc" .task]
    [edge "a" "bb", { edge "bb" "ccc" with kind := .conditional, condition := some "yes" },
      { edge "ccc" "bb" with kind := .loop }]

theorem not_runnable_cycle {id : Uuid} (runnable : Runnable
    (Lowering.lowerToGraph externals Table.empty (cycle.toTypes externals)) id) :
    id ≠ 2 ∧ id ≠ 3 := by
  induction runnable with
  | intro known separate sources ih =>
    constructor
    · rintro rfl
      exact (ih 3 ⟨_, .tail _ (.tail _ (.head _)), by decide, by decide⟩).2 rfl
    · rintro rfl
      exact (ih 2 ⟨_, .tail _ (.head _), by decide, by decide⟩).1 rfl

/-- The nodes of the cycle wait for each other, whatever the executor says. -/
theorem cycle_waits :
    cycle.validate = [] ∧ ∀ setup envelope,
      setup.graph = Lowering.lowerToGraph externals Table.empty (cycle.toTypes externals) →
        AnswersStrings setup.executor → DispatchedOnly setup envelope
          (uuidFor externals "bb") (uuidFor externals "ccc") "yes" := by
  have valid : cycle.validate = [] := by decide
  obtain ⟨condition, present, exactly⟩ := conditional_target_dispatched externals Table.empty
    cycle _ valid rfl _ (.tail _ (.head _)) rfl
  cases present
  refine ⟨valid, exactly.mpr fun runnable => ?_⟩
  exact (not_runnable_cycle runnable).2 (by decide)

end ConditionalSample

end FusionIr

end FusionRouter
