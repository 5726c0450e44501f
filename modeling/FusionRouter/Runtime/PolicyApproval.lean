import FusionRouter.Compiler.Compiled
import FusionRouter.Runtime.Effects
import FusionRouter.Scheduler.DependencyOrder

/-!
# Approvals in front of a node

The policy pass puts a gate in front of a node that needs an approval, unless
a gate of the workflow already leads into it.  Such a gate protects the node
only if no strategy expands it: the executor prefers a subgraph to the kind of
its node, and a subgraph does not ask the approval store.
-/

namespace FusionRouter

open Relation Trace List ModelResolution PolicyCompiler

def WorkflowIR.GateInto (ir : WorkflowIR) (gate id : Uuid) : Prop :=
  (∃ edge, edge ∈ ir.edges ∧ edge.source = gate ∧ edge.target = id) ∧
    ∃ node, node ∈ ir.nodes ∧ node.id = gate ∧ node.kind = .gate

/-- Whatever has the id is a gate that no strategy expands. -/
def WorkflowIR.PlainGate (ir : WorkflowIR) (gate : Uuid) : Prop :=
  ∀ node, node ∈ ir.nodes → node.id = gate → node.kind = .gate ∧ node.strategy = .single

/-- The gate that an approval of the node rests on: the one of the policy, with
an id of its own, or an unexpanded one of the workflow that the scheduler waits
for. -/
inductive ReliableGuard (externals : Externals) (live : WorkflowIR)
    (graph : ExecutionGraph) (id : Uuid) : Prop where
  | inserted (unguarded : ∀ gate, ¬ live.GateInto gate id)
      (fresh : ∀ node, node ∈ live.nodes → node.id ≠ PolicyCompiler.gateId externals id)
  | trusted (gate : Uuid) (leads : live.GateInto gate id)
      (plain : live.PlainGate gate) (waits : (gate, id) ∉ graph.backEdges)

namespace Stages

variable (stages : Stages options ir live final graph)

include stages

/-- Every edge before lowering is one of the workflow or leads from a gate of
the policy into a node of the workflow. -/
theorem edge_origin (member : edge ∈ final.edges) :
    edge ∈ live.edges ∨ ∃ node, node ∈ live.nodes ∧
      edge = PolicyCompiler.gateEdge options.externals node.id := by
  cases stages.policy with
  | without => exact Or.inl member
  | guarded policy later gates _ guards =>
    obtain ⟨guarded, sublist, rfl, -, -⟩ := guards.added
    rcases mem_append.mp member with old | new
    · exact Or.inl old
    · obtain ⟨target, inside, rfl⟩ := mem_map.mp new
      obtain ⟨original, present, rfl⟩ := mem_map.mp (sublist.subset inside)
      exact Or.inr ⟨original, present, by rw [resolve_id]⟩

theorem live_edge_known (member : edge ∈ live.edges) :
    (∃ node, node ∈ live.nodes ∧ node.id = edge.source) ∧
      ∃ node, node ∈ live.nodes ∧ node.id = edge.target := by
  obtain ⟨source, target⟩ := stages.resolved_edge_known member
  have original : ∀ id ∈ (options.resolved live).nodes.map IRNode.id,
      ∃ node, node ∈ live.nodes ∧ node.id = id := by
    intro id known
    obtain ⟨resolved, inside, rfl⟩ := mem_map.mp known
    obtain ⟨node, present, rfl⟩ := mem_map.mp inside
    exact ⟨node, present, (resolve_id _ node).symm⟩
  exact ⟨original _ source, original _ target⟩

theorem live_edge_kept (member : edge ∈ live.edges) : edge ∈ final.edges := by
  cases stages.policy with
  | without => exact member
  | guarded policy later gates _ guards =>
    obtain ⟨guarded, -, rfl, -, -⟩ := guards.added
    exact mem_append_left _ member

/-- Behind the id of a plain gate there are only gates without a subgraph. -/
theorem plainGate_bare (plain : live.PlainGate gate)
    (member : node ∈ graph.nodes) (same : node.id = gate) :
    node.kind = .gate ∧ node.subgraph = none := by
  rw [stages.lowered] at member
  obtain ⟨before, inside, rfl⟩ := mem_map.mp member
  rcases stages.node_origin inside with ⟨_, -, -, kept⟩ | ⟨_, -, rfl⟩
  · obtain ⟨client, present, rfl⟩ := mem_map.mp kept
    obtain ⟨kind, strategy⟩ := plain client present ((resolve_id _ client).symm.trans same)
    rw [← resolve_kind options.fastModel] at kind
    have strategy : (resolve options.fastModel client).strategy = .single := by
      unfold resolve
      split <;> exact strategy
    simp [Lowering.lowerNode, Lowering.bareNode, Lowering.lowerKind, kind,
      StrategyExpansion.expandedSubgraph, strategy]
  · exact ⟨rfl, rfl⟩

variable {policy : PolicyIR} (held : options.policy = some policy)
  (present : client ∈ live.nodes)
  (wins : PolicyCompiler.winningRule options.externals policy
    (ModelResolution.resolve options.fastModel client) = some rule)
  (approval : rule.effect = .approval)

include held present wins approval

/-- A node that needs an approval and has no gate of the workflow gets one. -/
theorem gate_inserted (unguarded : ∀ gate, ¬ live.GateInto gate client.id) :
    PolicyCompiler.gateEdge options.externals client.id ∈ final.edges := by
  cases stages.policy with
  | without none =>
    rw [none] at held
    cases held
  | guarded other later gates some guards =>
    rw [some] at held
    cases held
    obtain ⟨guarded, sublist, rfl, -, -, approved⟩ := guards.added
    have same := resolve_id options.fastModel client
    rcases approved _ (mem_map.mpr ⟨client, present, rfl⟩) rule wins approval with covered | added
    · simp only [alreadyGuarded, any_eq_true, Bool.and_eq_true, decide_eq_true_eq] at covered
      obtain ⟨edge, member, target, node, inside, source, kind⟩ := covered
      rw [same] at target
      rcases mem_append.mp member with old | new
      · obtain ⟨original, known, rfl⟩ := mem_map.mp inside
        rw [resolve_id] at source
        rw [resolve_kind] at kind
        exact (unguarded edge.source ⟨⟨edge, old, rfl, target⟩, original, known, source, kind⟩).elim
      · obtain ⟨guardedNode, -, rfl⟩ := mem_map.mp new
        have equal : guardedNode.id = client.id := target
        rw [← equal]
        exact member
    · refine mem_append_right _ (mem_map.mpr ⟨_, added, ?_⟩)
      rw [same]

/-- The node waits for a gate that the executor asks the store about. -/
theorem guard_gates (guard : ReliableGuard options.externals live graph client.id)
    (maxConcurrent : Nat) :
    ∃ gate, (QueueIndex.new graph maxConcurrent).GatingEdge gate client.id ∧
      live.PlainGate gate := by
  have connected : ∀ edge ∈ final.edges, graph.Connected edge.source edge.target := by
    intro edge member
    rw [stages.lowered]
    exact ⟨Lowering.lowerEdge edge, mem_map.mpr ⟨edge, member, rfl⟩, rfl, rfl⟩
  cases guard with
  | trusted gate leads plain waits =>
    obtain ⟨⟨edge, member, rfl, target⟩, -⟩ := leads
    refine ⟨edge.source, QueueIndex.gatingEdge_iff.mpr ⟨?_, waits⟩, plain⟩
    rw [← target]
    exact connected edge (stages.live_edge_kept member)
  | inserted unguarded fresh =>
    have added := stages.gate_inserted held present wins approval unguarded
    refine ⟨gateId options.externals client.id,
      QueueIndex.gatingEdge_iff.mpr ⟨connected _ added, ?_⟩,
      fun node inside same => (fresh node inside same).elim⟩
    -- no edge of the workflow touches the gate, and nothing leads into it
    have source : ∀ edge ∈ final.edges, edge.source =
        gateId options.externals client.id → edge.condition = none := by
      intro edge member same
      rcases stages.edge_origin member with old | ⟨node, -, rfl⟩
      · obtain ⟨⟨node, inside, source⟩, -⟩ := stages.live_edge_known old
        exact (fresh node inside (source.trans same)).elim
      · rfl
    have target : ∀ edge ∈ final.edges, edge.target ≠ gateId options.externals client.id := by
      intro edge member same
      rcases stages.edge_origin member with old | ⟨node, inside, rfl⟩
      · obtain ⟨-, node, inside, target⟩ := stages.live_edge_known old
        exact fresh node inside (target.trans same)
      · exact fresh node inside same
    intro back
    obtain ⟨-, edge, member, left, right, reason⟩ := ExecutionGraph.mem_backEdges_iff.mp back
    rw [stages.lowered] at member
    obtain ⟨original, inside, rfl⟩ := mem_map.mp member
    rcases reason with itself | walk | marked
    · exact fresh client present itself.symm
    · obtain ⟨previous, -, last, entered, -, reached⟩ := TransGen.tail'_iff.mp walk
      rw [stages.lowered] at entered
      obtain ⟨final, known, rfl⟩ := mem_map.mp entered
      exact target final known reached
    · have none := source original inside left
      simp [Lowering.lowerEdge, none] at marked

end Stages

/-- A provider call, or the start of a subgraph. -/
def Effect.works : Effect → Bool
  | .chat _ _ => true
  | .subgraph _ => true
  | _ => false

namespace ProviderExecutor

def answers (executor : ProviderExecutor) (runtime : RuntimeExternals)
    (environments : Nat → Environment) : Executor :=
  Execution.answers (fun environment => executeNode runtime environment executor) environments

def effects (executor : ProviderExecutor) (runtime : RuntimeExternals)
    (environments : Nat → Environment) (call : Call) : List Effect :=
  Execution.effects (fun environment => executeNode runtime environment executor) environments call

variable (executor : ProviderExecutor) (runtime : RuntimeExternals)
  (environments : Nat → Environment)

theorem decided_answers (number : Nat) (node : ExecutionNode) (ctx : NodeExecContext) :
    Decided (executor.answers runtime environments number node ctx) :=
  (decided_executeNode node ctx).run ⟨0, 0, 0, 0⟩

variable {executor runtime environments} {call : Call}

theorem store_approved {id : Uuid}
    (approved : .gate id true ∈ executor.effects runtime environments call) :
    ∃ question, (environments call.number).approves question id = true := by
  have told : Emits (fun effect => effect = .gate id true →
      ∃ question, (environments call.number).approves question id = true)
      (executeNode runtime (environments call.number) executor call.node call.context) := by
    refine emits_executeNode call.node ?_ (by simp) call.context
    intro leaf _ _ ctx
    refine (emits_executeLeaf ctx).mono ?_
    intro effect possible same
    cases possible with
    | gate question =>
      obtain ⟨rfl, said⟩ := Effect.gate.inj same
      exact ⟨question, said⟩
    | chat | tool | recorded => cases same
  exact told.run ⟨0, 0, 0, 0⟩ _ approved rfl

variable (gate : call.node.kind = .gate) (bare : call.node.subgraph = none)

include gate bare

theorem gate_idle (made : effect ∈ executor.effects runtime environments call) :
    effect.works = false := by
  have asks : Emits (fun effect => effect.works = false) (executeNode runtime
      (environments call.number) executor call.node call.context) := by
    rw [executeNode_none _ _ _ bare]
    simp only [executeLeaf, gate]
    refine Emits.bind ?_ ?_
    · unfold gateApproved
      split
      · refine asked_isApproved.mono ?_
        rintro approved _ ⟨rfl, -⟩ effect member
        rw [mem_singleton.mp member]
        rfl
      · exact Emits.pure _
    · intro approved
      split
      · exact Emits.pure _
      · exact Emits.pure _
  exact asks.run ⟨0, 0, 0, 0⟩ effect made

theorem gate_approved
    (finished : (executor.answers runtime environments call.number call.node
      call.context).state = .succeeded ∨ (executor.answers runtime environments
      call.number call.node call.context).state = .skipped) :
    .gate call.node.id true ∈ executor.effects runtime environments call := by
  have approved : Ensures (executeNode runtime (environments call.number)
      executor call.node call.context) (fun result added =>
        result.state = .succeeded → .gate call.node.id true ∈ added) := by
    rw [executeNode_none _ _ _ bare]
    simp only [executeLeaf, gate]
    exact approved_of_executeGate
  refine approved.run ⟨0, 0, 0, 0⟩ ?_
  rcases finished with succeeded | skipped
  · exact succeeded
  · rcases executor.decided_answers runtime environments call.number call.node
      call.context with succeeded | ⟨message, failed⟩
    · exact succeeded
    · rw [failed] at skipped
      cases skipped

end ProviderExecutor

/-- A node whose rule asks for an approval calls no provider and enters no
subgraph before the store approved a gate in front of it, if the guard of the
node is reliable and the node is not, as a loop head, armed by a back-edge
ahead of its predecessors. -/
theorem approval_enforced (options : CompilerOptions) (policy : PolicyIR)
    (held : options.policy = some policy) (ir live : WorkflowIR)
    (pruned : DeadNodeElimination.apply options.externals ir = .ok live)
    (base : RunSetup) (compiled : compile options ir = .ok base.graph)
    (executor : ProviderExecutor) (runtime : RuntimeExternals)
    (environments : Nat → Environment) (envelope : Option BudgetEnvelope)
    (client : IRNode) (known : client ∈ ir.nodes) (rule : PolicyRule)
    (wins : PolicyCompiler.winningRule options.externals policy
      (ModelResolution.resolve options.fastModel client) = some rule)
    (approval : rule.effect = .approval)
    (guard : ReliableGuard options.externals live base.graph client.id) (state : RunState)
    (late : BacksFinishLate base.index client.id state.log) (call : Call)
    (dispatched : DispatchesFrom { base with executor := executor.answers runtime environments }
      envelope state call) (same : call.node.id = client.id) (effect : Effect)
    (made : effect ∈ executor.effects runtime environments call) (works : effect.works = true) :
    ∃ gate : Call, Dispatches { base with executor := executor.answers runtime environments }
        envelope gate ∧ gate.node.kind = .gate ∧ base.graph.Connected gate.node.id client.id ∧
      .returned gate.node.id (executor.answers runtime environments gate.number
        gate.node gate.context) ∈ state.log ∧ .gate gate.node.id true ∈
        executor.effects runtime environments gate := by
  obtain ⟨other, final, stages⟩ := compile_stages compiled
  obtain rfl : other = live := Except.ok.inj (stages.pruned.symm.trans pruned)
  obtain ⟨alive, nodes, -⟩ := DeadNodeElimination.apply_ok pruned
  have present : client ∈ other.nodes := by
    by_contra dead
    have gone : ∀ node, node ∈ other.nodes → node.id ≠ client.id := by
      intro node inside equal
      exact dead ((nodes client).mpr ⟨known, equal ▸ ((nodes node).mp inside).2⟩)
    have plain : other.PlainGate call.node.id :=
      fun node inside equal => (gone node inside (equal.trans same)).elim
    obtain ⟨gate, unexpanded⟩ := stages.plainGate_bare plain dispatched.dispatches.mem_nodes rfl
    rw [ProviderExecutor.gate_idle gate unexpanded made] at works
    cases works
  obtain ⟨guardId, gating, plain⟩ := stages.guard_gates held present wins
    approval guard base.maxConcurrent
  have reached := dispatched.reachable
  have waits : HeadWaits base.index client.id state.log := by
    refine ⟨?_, late⟩
    intro id result returned
    obtain ⟨past, -, -, rfl⟩ := reached.executed_of_returned returned
    rcases executor.decided_answers runtime environments past.number past.node
      past.context with succeeded | ⟨message, failed⟩
    · simp [succeeded]
    · simp [failed]
  have armed := (reached.inOrder client.id waits).1.batch_armed (same ▸ dispatched.mem_batch)
  obtain ⟨result, returned, success⟩ := armed guardId gating
  obtain ⟨gate, earlier, rfl, rfl⟩ := reached.executed_of_returned returned
  obtain ⟨kind, unexpanded⟩ := stages.plainGate_bare plain earlier.mem_nodes rfl
  exact ⟨gate, earlier, kind, (QueueIndex.gatingEdge_iff.mp gating).1, returned,
    ProviderExecutor.gate_approved kind unexpanded success⟩

namespace ApprovalSample

def rule : PolicyRule :=
  { ruleId := "ask-first"
    targetPattern := "gpt-4o"
    priority := 1
    effect := .approval
    conditions := [] }

def options : CompilerOptions :=
  { sampleOptions with
    externals := Externals.sample sampleIds
    policy := some ⟨[rule]⟩ }

/-- The node that needs an approval. -/
def client : IRNode :=
  { id := 2
    kind := .generate
    strategy := .single
    model := some "gpt-4o"
    config := Table.empty }

/-- The policy inserts its own gate. -/
def alone : WorkflowIR :=
  workflow [client] []

/-- A gate of the client that a reflection expands. -/
def behindReflection : WorkflowIR :=
  workflow [⟨1, .gate, .reflection, none, Table.empty⟩, client] [⟨1, 2, none⟩]

def runtime : RuntimeExternals :=
  .sample (Externals.sample sampleIds)
    [1, 0x074e896574185e199c3fdc54b482f890, 0x6de76face6605c7c8fb47f7b435f5417]

def executor : ProviderExecutor :=
  { ProviderExecutor.sample with approvals := true }

/-- A provider that answers, and a store that approves everything or
nothing. -/
def environment (approves : Bool) : Environment :=
  { Environment.sample with approves := fun _ _ => approves }

def setup (ir : WorkflowIR) (approves : Bool) : RunSetup :=
  sampleSetup (compiledGraph options ir) (executor.answers runtime (fun _ => environment approves))

/-- The nodes of the second batch that call a provider or enter a subgraph. -/
def workers (ir : WorkflowIR) (approves : Bool) : Option (List Uuid) :=
  let setup := setup ir approves
  match Loop.after (schedLoop setup) 1 (setup.initial none) with
  | none => none
  | some state =>
    if state.cancelled setup = false ∧ state.queue.isDone setup.index state.nodeStates = false then
      match RunState.dispatch setup (state.batch setup) state.entered with
      | .error _ => none
      | .ok (calls, _) => some ((calls.filter (fun call =>
        (executor.effects runtime (fun _ => environment approves) call).any
          Effect.works)).map (fun call => call.node.id))
    else none

theorem of_workers (found : workers ir approves = some ids) {id : Uuid} (member : id ∈ ids) :
    ∃ state call effect, DispatchesFrom (setup ir approves) none state call ∧
      call.node.id = id ∧ effect.works = true ∧ effect ∈
        executor.effects runtime (fun _ => environment approves) call := by
  unfold workers at found
  dsimp only at found
  split at found
  · cases found
  next state rounds =>
    split at found
    next proceeds =>
      split at found
      · cases found
      next calls dispatched started =>
        cases found
        obtain ⟨call, inside, rfl⟩ := mem_map.mp member
        obtain ⟨called, works⟩ := mem_filter.mp inside
        obtain ⟨effect, made, active⟩ := any_eq_true.mp works
        have reached := reachable_of_rounds (Loop.after_sound rounds)
        exact ⟨state, call, effect, ⟨calls, dispatched, reached, proceeds,
          started, called⟩, rfl, active, made⟩
    · cases found

/-- The node calls its provider after its gate was approved. -/
theorem inserted_gate_approved :
    ∃ state call effect, DispatchesFrom (setup alone true) none state call ∧
      call.node.id = 2 ∧ effect.works = true ∧
      effect ∈ executor.effects runtime (fun _ => environment true) call ∧
      ∃ gate : Call, Dispatches (setup alone true) none gate ∧ gate.node.kind = .gate ∧
        (setup alone true).graph.Connected gate.node.id 2 ∧
        .returned gate.node.id (executor.answers runtime
          (fun _ => environment true) gate.number gate.node gate.context) ∈ state.log ∧
        .gate gate.node.id true ∈ executor.effects runtime (fun _ => environment true) gate := by
  obtain ⟨state, call, effect, dispatched, same, works, made⟩ :=
    of_workers (show workers alone true = some [2] by decide) mem_cons_self
  have guard : ReliableGuard options.externals alone (setup alone true).graph
      client.id := by
    refine .inserted ?_ (by decide)
    rintro gate ⟨⟨edge, member, -⟩, -⟩
    cases member
  have headless : (setup alone true).index.backEdges = ∅ := by
    decide
  have late : BacksFinishLate (setup alone true).index client.id state.log := by
    intro moment id result _ _ back
    rw [headless] at back
    simp at back
  exact ⟨state, call, effect, dispatched, same, works, made,
    approval_enforced options ⟨[rule]⟩ rfl alone alone rfl (setup alone true)
      (compile_eq_ok (by decide)) executor runtime
      (fun _ => environment true) none client mem_cons_self rule rfl rfl
      guard state late call dispatched same effect made works⟩

/-- The reflection succeeds in place of the gate, and the node calls its
provider although the store approves nothing. -/
theorem expanded_gate_bypassed :
    ¬ ∀ (options : CompilerOptions) (policy : PolicyIR),
      options.policy = some policy → ∀ (ir : WorkflowIR) (base : RunSetup),
        compile options ir = .ok base.graph →
          ∀ (executor : ProviderExecutor) (runtime : RuntimeExternals)
            (environments : Nat → Environment) (envelope : Option BudgetEnvelope) (client : IRNode),
            client ∈ ir.nodes → ∀ rule, PolicyCompiler.winningRule
              options.externals policy (ModelResolution.resolve
                options.fastModel client) = some rule →
              rule.effect = .approval → ∀ (state : RunState) (call : Call),
                DispatchesFrom { base with
                  executor := executor.answers runtime environments }
                  envelope state call → call.node.id = client.id →
                  ∀ effect, effect ∈ executor.effects runtime environments
                    call → effect.works = true → ∃ gate : Call,
                      Dispatches { base with
                        executor := executor.answers runtime environments }
                        envelope gate ∧
                      gate.node.kind = .gate ∧
                      TransGen base.graph.Connected gate.node.id client.id ∧
                      .gate gate.node.id true ∈ executor.effects runtime environments gate := by
  intro always
  obtain ⟨state, call, effect, dispatched, same, works, made⟩ :=
    of_workers (show workers behindReflection false = some [2] by
      decide) mem_cons_self
  obtain ⟨gate, -, -, -, approved⟩ := always options ⟨[rule]⟩ rfl
    behindReflection (setup behindReflection false)
    (compile_eq_ok (by decide)) executor runtime
    (fun _ => environment false) none client (by simp [behindReflection,
      workflow]) rule rfl rfl state call dispatched same effect made works
  obtain ⟨question, said⟩ := ProviderExecutor.store_approved approved
  cases said

end ApprovalSample

end FusionRouter
