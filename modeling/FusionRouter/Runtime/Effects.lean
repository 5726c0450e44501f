import FusionRouter.Runtime.DefaultExecutor

/-!
# What an execution may do

A subgraph only runs its own nodes, so what an execution does is what the
nodes without a subgraph do that lie within the executed node.  Among these,
only an LLM node calls a provider or a tool, and a tool only if the node lists
it and it is registered.
-/

namespace FusionRouter

open Trace

theorem ExecutionNode.induction {motive : ExecutionNode → Prop}
    (step : ∀ node, (∀ subgraph, node.subgraph = some subgraph →
      ∀ member ∈ subgraph.nodes, motive member) → motive node)
    (node : ExecutionNode) : motive node := by
  refine @ExecutionNode.rec motive (fun subgraph => ∀ member ∈ subgraph.nodes, motive member)
    (fun attached => ∀ subgraph, attached = some subgraph →
      ∀ member ∈ subgraph.nodes, motive member)
    (fun nodes => ∀ member ∈ nodes, motive member) ?_ ?_ ?_ ?_ ?_ ?_ node
  · intro id kind strategy model retryPolicy fallback config subgraph within
    exact step _ within
  · intro nodes edges entryNodeId exitNodeId within
    exact within
  · intro subgraph none
    cases none
  · intro attached within subgraph same
    cases same
    exact within
  · intro member none
    cases none
  · intro head tail first rest member inside
    rcases List.mem_cons.mp inside with rfl | later
    · exact first
    · exact rest member later

/-- The nodes that executing `root` may execute. -/
inductive Within (root : ExecutionNode) : ExecutionNode → Prop where
  | self : Within root root
  | member {outer inner : ExecutionNode} {subgraph : ExecutionSubgraph}
      (within : Within root outer) (attached : outer.subgraph = some subgraph)
      (inside : inner ∈ subgraph.nodes) : Within root inner

theorem Within.of_member (attached : root.subgraph = some subgraph)
    (inside : child ∈ subgraph.nodes) (within : Within child node) : Within root node := by
  induction within with
  | self => exact .member .self attached inside
  | member _ attached inside ih => exact .member ih attached inside

/-- How a node is executed, given the answers of the outside. -/
abbrev Execution := Environment → ExecutionNode → Runner

namespace Execution

/-- The answers to the calls of a run, each of which sees its own replies of
the outside. -/
def answers (execution : Execution) (environments : Nat → Environment) :
    Executor := fun number node ctx =>
  (Trace.run (execution (environments number) node ctx) ⟨0, 0, 0, 0⟩).1

def effects (execution : Execution) (environments : Nat → Environment)
    (call : Call) : List Effect :=
  (Trace.run (execution (environments call.number) call.node call.context) ⟨0, 0, 0, 0⟩).2

end Execution

namespace ProviderExecutor

theorem emits_runReady (ready : List (Uuid × Runner)) (state : SubgraphState)
    (members : ∀ member ∈ ready, ∀ ctx, Emits allowed (member.2 ctx)) :
    Emits allowed (runReady runtime subgraph ctx ready state) := by
  induction ready generalizing state with
  | nil => exact Emits.pure _
  | cons member rest ih =>
    obtain ⟨id, runner⟩ := member
    have later := fun state => ih state
      (fun other inside => members other (List.mem_cons_of_mem _ inside))
    refine Emits.bind (members _ List.mem_cons_self _) ?_
    intro result
    split
    · exact later _
    · exact Emits.pure _
    · exact later _

theorem emits_subgraphRounds (members : List (Uuid × Runner)) (fuel : Nat) (state : SubgraphState)
    (fine : ∀ member ∈ members, ∀ ctx, Emits allowed (member.2 ctx)) :
    Emits allowed (subgraphRounds runtime subgraph ctx members fuel state) := by
  induction fuel generalizing state with
  | zero => exact Emits.pure _
  | succ fuel ih =>
    unfold subgraphRounds
    split
    · exact Emits.pure _
    · split
      · exact Emits.pure _
      next ready _ found =>
        refine Emits.bind (emits_runReady _ state ?_) ?_
        · intro member inside
          exact fine member (List.mem_of_mem_filter inside)
        · intro result
          cases result with
          | error failed => exact Emits.pure _
          | ok following => exact ih following

theorem emits_executeSubgraph {node : ExecutionNode} (members : List (Uuid × Runner))
    (fine : ∀ member ∈ members, ∀ ctx, Emits allowed (member.2 ctx))
    (entered : allowed (.subgraph node.id)) :
    Emits allowed (executeSubgraph runtime node subgraph members ctx) := by
  refine Emits.bind (Emits.emit entered) ?_
  intro _
  refine Emits.bind (emits_subgraphRounds members _ _ fine) ?_
  intro result
  cases result with
  | error failed | ok state => exact Emits.pure _

/-- An execution does only what the leaves within the node do, besides
entering subgraphs. -/
theorem emits_executeNode (node : ExecutionNode)
    (leaves : ∀ leaf, Within node leaf → leaf.subgraph = none →
      ∀ ctx, Emits allowed (executeLeaf runtime environment executor leaf ctx))
    (entered : ∀ outer, Within node outer → outer.subgraph ≠ none →
      allowed (.subgraph outer.id)) (ctx : NodeExecContext) :
    Emits allowed (executeNode runtime environment executor node ctx) := by
  induction node using ExecutionNode.induction generalizing ctx with
  | step node ih =>
    cases attached : node.subgraph with
    | none =>
      rw [executeNode_none runtime environment executor attached]
      exact leaves node .self attached ctx
    | some subgraph =>
      rw [executeNode_some runtime environment executor attached]
      refine emits_executeSubgraph _ ?_ (entered node .self (by simp [attached]))
      intro member inside ctx
      obtain ⟨child, present, rfl⟩ := List.mem_map.mp inside
      refine ih subgraph attached child present ?_ ?_ ctx
      · intro leaf within
        exact leaves leaf (within.of_member attached present)
      · intro outer within
        exact entered outer (within.of_member attached present)

/-- What the execution of a node without a subgraph may do. -/
inductive LeafEffect (environment : Environment) (executor : ProviderExecutor)
    (node : ExecutionNode) : Effect → Prop where
  | chat (request : ChatRequest) : LeafEffect environment executor node (.chat node.id request)
  | tool (name : String) (arguments : Json) (enabled : executor.allowAutoExec = true)
      (listed : name ∈ node.toolAllowlist) (known : name ∈ executor.tools) :
      LeafEffect environment executor node (.tool node.id name arguments)
  | gate (question : Nat) : LeafEffect environment executor node
      (.gate node.id (environment.approves question node.id))
  | recorded (cost tokens : Nat) : LeafEffect environment executor node (.recorded cost tokens)

theorem emits_runTools (enabled : executor.allowAutoExec = true) (calls : List ToolCall) :
    Emits (LeafEffect environment executor node)
      (runTools runtime environment executor node calls) := by
  induction calls with
  | nil => exact Emits.pure _
  | cons call calls ih =>
    have single : Emits (LeafEffect environment executor node)
        (runTool runtime environment executor node call) := by
      unfold runTool
      split
      · exact Emits.pure _
      next listed =>
        split
        · exact Emits.pure _
        next known =>
          refine Emits.bind ?_ (fun _ => Emits.pure _)
          refine Emits.bind (Emits.emit ?_) (fun _ => Emits.update _)
          exact .tool _ _ enabled (not_not.mp listed) (not_not.mp known)
    exact Emits.bind single (fun _ => Emits.bind ih (fun _ => Emits.pure _))

theorem emits_canAfford : Emits allowed (canAfford environment executor) := by
  unfold canAfford
  split
  · exact Emits.update _
  · exact Emits.pure _

theorem emits_recordUsage (model : String) (usage : Option Usage) :
    Emits (LeafEffect environment executor node) (recordUsage executor model usage) := by
  unfold recordUsage
  split
  · exact Emits.pure _
  · split
    · exact Emits.emit (.recorded _ _)
    · exact Emits.pure _

theorem emits_askProvider (request : ChatRequest) (toolResults : List Json)
    (fine : ∀ response, Emits (LeafEffect environment executor node) (requested response)) :
    Emits (LeafEffect environment executor node) (askProvider runtime environment executor
      node request toolResults requested) := by
  refine Emits.bind emits_canAfford ?_
  intro affordable
  split
  · refine Emits.bind (Emits.bind (Emits.emit (.chat _)) (fun _ => Emits.update _)) ?_
    intro reply
    cases reply with
    | error error => exact Emits.pure _
    | ok response =>
      refine Emits.bind (emits_recordUsage _ _) ?_
      intro _
      split
      · exact Emits.pure _
      · exact fine response
  · exact Emits.pure _

theorem emits_toolLoop (remaining : Nat) (request : ChatRequest) (toolResults : List Json) :
    Emits (LeafEffect environment executor node)
      (toolLoop runtime environment executor node remaining request toolResults) := by
  induction remaining generalizing request toolResults with
  | zero => exact emits_askProvider _ _ (fun _ => Emits.pure _)
  | succ remaining ih =>
    refine emits_askProvider _ _ ?_
    intro response
    split
    next enabled =>
      exact Emits.bind (emits_runTools enabled _) (fun _ => ih _ _)
    · exact Emits.pure _

section

variable (ctx : NodeExecContext)

theorem emits_tryFallback (lastError : Option String) :
    Emits (LeafEffect environment executor node)
      (tryFallback runtime environment executor node ctx lastError) := by
  unfold tryFallback
  dsimp only
  split
  · exact Emits.pure _
  · split
    · exact Emits.pure _
    · refine Emits.bind (emits_toolLoop _ _ _) ?_
      intro answer
      cases answer with
      | error error | ok response => exact Emits.pure _

theorem emits_attempt (attempts : Nat) (lastError : Option String) :
    Emits (LeafEffect environment executor node)
      (attempt runtime environment executor node ctx attempts lastError) := by
  induction attempts generalizing lastError with
  | zero => exact emits_tryFallback ctx lastError
  | succ attempts ih =>
    unfold attempt
    split
    · exact Emits.pure _
    · refine Emits.bind (emits_toolLoop _ _ _) ?_
      intro answer
      cases answer with
      | error error => exact ih _
      | ok response => exact Emits.pure _

theorem asked_isApproved :
    Ensures (isApproved environment node) (fun approved added => added = [.gate node.id approved] ∧
        ∃ question, environment.approves question node.id = approved) := by
  have answered : Ensures (Trace.update (fun counters : Counters =>
      (environment.approves counters.gates node.id,
        { counters with gates := counters.gates + 1 })) : Action Bool)
      (fun approved added => added = [] ∧
        ∃ question, environment.approves question node.id = approved) :=
    Ensures.update (fun counters => ⟨rfl, counters.gates, rfl⟩)
  have told : ∀ approved : Bool, Ensures (Trace.emit (.gate node.id approved) : Action Unit)
        (fun _ added => added = [.gate node.id approved]) := fun _ => Ensures.emit rfl
  refine Ensures.bind answered ?_
  rintro approved _ ⟨rfl, said⟩
  refine Ensures.bind (told approved) ?_
  rintro _ _ rfl
  exact Ensures.pure ⟨rfl, said⟩

theorem emits_executeGate :
    Emits (LeafEffect environment executor node)
      (executeGate runtime environment executor node) := by
  refine Emits.bind ?_ ?_
  · unfold gateApproved
    split
    · refine asked_isApproved.mono ?_
      rintro _ _ ⟨rfl, question, rfl⟩ effect member
      rw [List.mem_singleton.mp member]
      exact .gate question
    · exact Emits.pure _
  · intro approved
    split
    · exact Emits.pure _
    · exact Emits.pure _

theorem emits_executeLeaf : Emits (LeafEffect environment executor node)
    (executeLeaf runtime environment executor node ctx) := by
  unfold executeLeaf
  split
  · exact emits_executeGate
  all_goals first
    | exact Emits.pure _
    | exact emits_attempt ctx _ _

/-- The result says that the node succeeded or failed. -/
def Decided (result : NodeExecutionResult) : Prop :=
  result.state = .succeeded ∨ ∃ message, result.state = .failed message

theorem decided_failure (message : String) : Decided (.failure message) :=
  Or.inr ⟨message, rfl⟩

theorem decided_attempt (attempts : Nat) (lastError : Option String) :
    Returns Decided (attempt runtime environment executor node ctx attempts lastError) := by
  induction attempts generalizing lastError with
  | zero =>
    unfold attempt tryFallback
    dsimp only
    split
    · exact .pure (decided_failure _)
    · split
      · exact .pure (decided_failure _)
      · refine .bind (.any _) ?_
        intro answer _
        cases answer with
        | error error => exact .pure (decided_failure _)
        | ok response => exact .pure (Or.inl rfl)
  | succ attempts ih =>
    unfold attempt
    split
    · exact .pure (decided_failure _)
    · refine .bind (.any _) ?_
      intro answer _
      cases answer with
      | error error => exact ih _
      | ok response => exact .pure (Or.inl rfl)

theorem decided_executeLeaf :
    Returns Decided (executeLeaf runtime environment executor node ctx) := by
  unfold executeLeaf
  split
  · refine .bind (.any _) ?_
    intro approved _
    split
    · exact .pure (Or.inl rfl)
    · exact .pure (decided_failure _)
  all_goals first
    | exact .pure (Or.inl rfl)
    | exact decided_attempt ctx _ _

end

/-- A subgraph was left with a failure, if it was left early. -/
def FailsEarly (outcome : Except NodeExecutionResult SubgraphState) : Prop :=
  ∀ failed, outcome = .error failed → ∃ message, failed = .failure message

theorem failsEarly_runReady (ready : List (Uuid × Runner)) (state : SubgraphState) :
    Returns FailsEarly (runReady runtime subgraph ctx ready state) := by
  induction ready generalizing state with
  | nil => exact .pure (by simp [FailsEarly])
  | cons member rest ih =>
    refine .bind (.any _) ?_
    intro result _
    split
    · exact ih _
    · refine .pure ?_
      rintro _ ⟨⟩
      exact ⟨_, rfl⟩
    · exact ih _

theorem failsEarly_subgraphRounds (members : List (Uuid × Runner)) (fuel : Nat)
    (state : SubgraphState) :
    Returns FailsEarly (subgraphRounds runtime subgraph ctx members fuel state) := by
  induction fuel generalizing state with
  | zero => exact .pure (by simp [FailsEarly])
  | succ fuel ih =>
    unfold subgraphRounds
    split
    · exact .pure (by simp [FailsEarly])
    · split
      · refine .pure ?_
        rintro _ ⟨⟩
        exact ⟨_, rfl⟩
      · refine .bind (failsEarly_runReady _ state) ?_
        intro outcome fine
        cases outcome with
        | error failed =>
          refine .pure ?_
          rintro _ ⟨⟩
          exact fine failed rfl
        | ok following => exact ih following

theorem result_executeSubgraph (members : List (Uuid × Runner)) (ctx : NodeExecContext) :
    Returns (fun result => (∃ message, result = .failure message) ∨ result.state = .succeeded ∧
        ∃ fields, result.output = some (.object fields))
      (executeSubgraph runtime node subgraph members ctx) := by
  refine .bind (.any _) ?_
  intro _ _
  refine .bind (failsEarly_subgraphRounds _ _ _) ?_
  intro outcome fine
  cases outcome with
  | error failed => exact .pure (Or.inl (fine failed rfl))
  | ok state => exact .pure (Or.inr ⟨rfl, _, rfl⟩)

theorem decided_executeNode (node : ExecutionNode) (ctx : NodeExecContext) :
    Returns Decided (executeNode runtime environment executor node ctx) := by
  cases attached : node.subgraph with
  | none =>
    rw [executeNode_none runtime environment executor attached]
    exact decided_executeLeaf ctx
  | some subgraph =>
    rw [executeNode_some runtime environment executor attached]
    intro start
    rcases result_executeSubgraph _ ctx start with ⟨message, failed⟩ | ⟨success, -⟩
    · exact Or.inr ⟨message, by rw [failed]; rfl⟩
    · exact Or.inl success

theorem approved_of_executeGate :
    Ensures (executeGate runtime environment executor node)
      (fun result added => result.state = .succeeded → .gate node.id true ∈ added) := by
  have asked : Ensures (gateApproved environment executor node)
      (fun approved added => approved = true → .gate node.id true ∈ added) := by
    unfold gateApproved
    split
    · refine asked_isApproved.mono ?_
      rintro _ _ ⟨rfl, -⟩ rfl
      exact List.mem_cons_self
    · exact Ensures.pure (by simp)
  refine Ensures.bind asked ?_
  intro approved before known
  split
  next passed =>
    exact Ensures.pure (fun _ => List.mem_append_left _ (known passed))
  · exact Ensures.pure (by simp [NodeExecutionResult.failure])

end ProviderExecutor

end FusionRouter
