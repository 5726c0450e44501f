import FusionRouter.Runtime.ControlFlow

/-!
# Branches under the provider-backed executor

An edge of a conditional node is activated when the node succeeds with an
output that stands for the label of the edge.  Whatever a provider replies, the
output of `ProviderExecutor` stands for `"true"`.
-/

namespace FusionRouter

open RunState

/-- The result that is folded next activates this edge of a conditional
node. -/
def ActivatesAt (setup : RunSetup) (edge : ExecutionEdge) :
    Phase × RunState → Prop
  | (.folding _ ((id, result) :: _), _) =>
    id = edge.source ∧ edge ∈ setup.graph.edges ∧ setup.graph.kindAt id = some .conditional ∧
      result.state = .succeeded ∧ edge.selectedBy (stored result) = true
  | _ => False

/-- Some replies of the outside lead to the activation of the edge. -/
def Activatable (executor : ProviderExecutor) (runtime : RuntimeExternals)
    (base : RunSetup) (edge : ExecutionEdge) : Prop :=
  ∃ environments config, Reachable (executor.runs runtime environments base) none config ∧
      ActivatesAt (executor.runs runtime environments base) edge config

/-- Some replies of the outside lead to a call of the conditional node that
succeeds. -/
def Evaluable (executor : ProviderExecutor) (runtime : RuntimeExternals)
    (base : RunSetup) (id : Uuid) : Prop :=
  ∃ environments call, Dispatches (executor.runs runtime environments base) none call ∧
      call.node.id = id ∧ call.node.kind = .conditional ∧
      (executor.answers runtime environments call.number call.node call.context).state = .succeeded

/-- Every result of a batch gets its turn, in a run without a budget. -/
theorem Reachable.result_turn
    (reached : Reachable setup none (.folding batchIds rest, state)) {id : Uuid}
    (member : (id, result) ∈ rest) :
    ∃ later there, Reachable setup none (.folding batchIds ((id, result) :: later), there) := by
  induction rest generalizing state with
  | nil => exact (List.not_mem_nil member).elim
  | cons first rest ih =>
    rcases List.mem_cons.mp member with rfl | inside
    · exact ⟨rest, state, reached⟩
    · obtain ⟨following, processed⟩ := reached.processed_next
      exact ih (reached.tail (.fold processed)) inside

theorem ActivatesAt.folding (activates : ActivatesAt setup edge config) :
    ∃ batchIds result rest state,
      config = (.folding batchIds ((edge.source, result) :: rest), state) ∧
      edge ∈ setup.graph.edges ∧ setup.graph.kindAt edge.source = some .conditional ∧
      result.state = .succeeded ∧ edge.selectedBy (stored result) = true := by
  obtain ⟨phase, state⟩ := config
  cases phase with
  | idle => exact activates.elim
  | folding batchIds rest =>
    cases rest with
    | nil => exact activates.elim
    | cons first rest =>
      obtain ⟨id, result⟩ := first
      obtain ⟨rfl, facts⟩ := activates
      exact ⟨batchIds, result, rest, state, rfl, facts⟩

section

variable {executor : ProviderExecutor}

theorem selectedBy_iff {edge : ExecutionEdge}
    (reached : Reachable (executor.runs runtime environments base) none config)
    (returned : .returned edge.source result ∈ config.2.log)
    (kind : base.graph.kindAt edge.source = some .conditional)
    (success : result.state = .succeeded) :
    edge.selectedBy (stored result) = true ↔
      edge.condition = none ∨ edge.condition = some "true" := by
  obtain ⟨fields, object⟩ := reached.object_returned returned success (Or.inr kind)
  rw [object]
  exact ExecutionEdge.selectedBy_object

/-- Only edges labelled `"true"` are activated, after a call of their source
that succeeded. -/
theorem Activatable.evaluable (labelled : edge.condition = some label)
    (activatable : Activatable executor runtime base edge) :
    label = "true" ∧ edge ∈ base.graph.edges ∧ Evaluable executor runtime base edge.source := by
  obtain ⟨environments, config, reached, activates⟩ := activatable
  obtain ⟨batchIds, result, rest, state, rfl, member, kind, success, selected⟩ := activates.folding
  have returned : .returned edge.source result ∈ state.log := by
    rcases reached.result_logged List.mem_cons_self with ⟨message, failure⟩ | returned
    · simp [success] at failure
    · exact returned
  refine ⟨?_, member, ?_⟩
  · rw [selectedBy_iff reached returned kind success, labelled] at selected
    simpa using selected
  · obtain ⟨call, dispatches, same, rfl⟩ := reached.executed_of_returned returned
    refine ⟨environments, call, dispatches, same, ?_, success⟩
    have found : base.graph.kindAt call.node.id = some call.node.kind := dispatches.kindAt
    rw [same] at found
    exact Option.some.inj (found.symm.trans kind)

end

/-- A labelled edge of a conditional node can be activated exactly when its
label is `"true"`, the graph has it, and the node can be called with success. -/
theorem branch_activatable_iff (base : RunSetup)
    (uncancelled : Uncancelled base) (executor : ProviderExecutor)
    (runtime : RuntimeExternals) (edge : ExecutionEdge) (label : String)
    (labelled : edge.condition = some label) :
    Activatable executor runtime base edge ↔ label = "true" ∧ edge ∈ base.graph.edges ∧
        Evaluable executor runtime base edge.source := by
  constructor
  · intro activatable
    exact activatable.evaluable labelled
  · rintro ⟨rfl, kept, environments, call, dispatches, same, control, success⟩
    have alive : Uncancelled (executor.runs runtime environments base) :=
      ⟨uncancelled.returning, uncancelled.alive⟩
    have kind : base.graph.kindAt call.node.id = some .conditional :=
      dispatches.kindAt.trans (congrArg some control)
    obtain ⟨state, started⟩ := dispatches
    obtain ⟨rest, following, step, inside⟩ := started.step
    have answer : call.result (executor.runs runtime environments base) =
        (call.node.id, executor.answers runtime environments call.number
          call.node call.context) := by
      unfold Call.result
      rw [alive.returning call]
      rfl
    rw [answer, same] at inside
    rw [same] at kind
    have folding : Reachable (executor.runs runtime environments base) none
        (.folding _ rest, following) := started.reachable.tail step
    obtain ⟨later, there, turn⟩ := folding.result_turn inside
    have returned := turn.pending_returned alive.returning List.mem_cons_self
    refine ⟨environments, _, turn, rfl, kept, kind, success, ?_⟩
    rw [selectedBy_iff turn returned kind success]
    exact Or.inr labelled

namespace ControlFlowSample

/-- A conditional node with a branch for each answer. -/
def branches : WorkflowIR :=
  workflow [plainNode 1 .conditional, plainNode 2 .generate, plainNode 3 .generate]
    [⟨1, 2, some "true"⟩, ⟨1, 3, some "false"⟩]

theorem branches_evaluable : Evaluable executor runtime (base branches) 1 := by
  have first : (dispatch (setup branches) (((setup branches).initial none).batch (setup branches))
      ((setup branches).initial none).entered).toOption.map (fun started =>
        started.1.map (fun call => (call.node.id, call.node.kind,
          (executor.answers runtime (fun _ => environment)
            call.number call.node call.context).state))) =
      some [(1, .conditional, .succeeded)] := by
    decide
  cases started : dispatch (setup branches) (((setup branches).initial none).batch (setup branches))
      ((setup branches).initial none).entered with
  | error error =>
    rw [started] at first
    cases first
  | ok found =>
    rw [started] at first
    have mapped := Option.some.inj first
    obtain ⟨call, member, summary⟩ := List.mem_map.mp (mapped ▸ List.mem_singleton_self _)
    obtain ⟨same, rest⟩ := Prod.mk.inj summary
    obtain ⟨kind, success⟩ := Prod.mk.inj rest
    exact ⟨fun _ => environment, call, ⟨_, found.1, found.2, .refl,
      ⟨by decide, by decide⟩, started, member⟩, same, kind, success⟩

/-- The branch for `"true"` can be activated. -/
theorem true_branch_activatable :
    Activatable executor runtime (base branches) ⟨1, 2, some "true"⟩ :=
  (branch_activatable_iff (base branches) (uncancelled_of_none rfl) executor
    runtime ⟨1, 2, some "true"⟩ "true" rfl).mpr ⟨rfl, by decide, branches_evaluable⟩

/-- No reply activates the branch for `"false"` of an accepted workflow. -/
theorem false_branch_not_activatable :
    ¬ ∀ (options : CompilerOptions) (ir : WorkflowIR) (base : RunSetup),
      compile options ir = .ok base.graph → Uncancelled base → 0 < base.maxConcurrent →
          ∀ (executor : ProviderExecutor) (runtime : RuntimeExternals)
            (edge : ExecutionEdge) (label : String),
            edge ∈ base.graph.edges → edge.condition = some label →
            base.graph.kindAt edge.source = some .conditional →
            Evaluable executor runtime base edge.source →
              Activatable executor runtime base edge := by
  intro always
  have activatable := always sampleOptions branches (base branches)
    (compile_eq_ok (by decide)) (uncancelled_of_none rfl) (by decide)
    executor runtime ⟨1, 3, some "false"⟩ "false" (by decide) rfl
    (by decide) branches_evaluable
  have label := (activatable.evaluable rfl).1
  exact absurd label (by decide)

end ControlFlowSample

end FusionRouter
