import FusionRouter.Host.Pipeline
import FusionRouter.Scheduler.DependencyOrder

/-!
# The newest message

What becomes of the newest message of a conversation on its way into the nodes
of the compiled graph.  A conversation that fits is passed on as it is; of one
that does not, the newest message is the first to get what the system messages
leave of the budget.
-/

namespace FusionRouter

open List

namespace DefaultContextAssembler

def newest (messages : List ChatMessage) : Option ChatMessage :=
  (messages.filter (fun message => !message.isSystem)).getLast?

/-- There is room for the newest message, or for some of it. -/
def Leaves (remaining : Nat) (message : ChatMessage) : Prop :=
  price message ≤ remaining ∨ 10 < remaining ∧ byteLimit remaining ≠ 0

/-- A non-empty part of the message, from its start. -/
def IsPart (kept message : ChatMessage) : Prop :=
  kept.role = message.role ∧ kept.content ≠ "" ∧ kept.content.toList <+: message.content.toList

theorem truncate_isPart (room : byteLimit remaining ≠ 0) (nonempty : message.content ≠ "") :
    IsPart (truncate remaining message) message := by
  have letters : message.content.toList ≠ [] := by
    intro empty
    exact nonempty (String.toList_eq_nil_iff.mp empty)
  have four : 4 ≤ byteLimit remaining := by
    unfold byteLimit at room ⊢
    omega
  have kept := Utf8.takeBytes_ne_nil four letters
  unfold truncate
  refine ⟨rfl, ?_, ?_⟩
  · intro empty
    rw [← String.toList_eq_nil_iff, String.toList_ofList] at empty
    exact kept empty
  · rw [String.toList_ofList]
    exact Utf8.takeBytes_prefix _ _

/-- A conversation that fits ends with a message that is not a system message,
or one that does not fit has room for the newest message. -/
def KeepsNewest (messages : List ChatMessage) (maxTokens : Nat) (message : ChatMessage) : Prop :=
  if totalTokens messages ≤ maxTokens then
    ∀ last, messages.getLast? = some last → last.isSystem = false
  else Leaves (budget messages maxTokens) message

theorem getLast?_of_newest (isNewest : newest messages = some message)
    (other : ∀ last, messages.getLast? = some last → last.isSystem = false) :
    messages.getLast? = some message := by
  rcases eq_nil_or_concat messages with rfl | ⟨older, last, rfl⟩
  · cases isNewest
  · have plain : last.isSystem = false := other last (by simp)
    simpa [newest, filter_append, plain] using isNewest

theorem trimMessages_getLast? {maxTokens : Nat} (isNewest : newest messages = some message)
    (nonempty : message.content ≠ "") (keeps : KeepsNewest messages maxTokens message) :
    ∃ kept, (trimMessages messages maxTokens).getLast? = some kept ∧ IsPart kept message := by
  unfold KeepsNewest at keeps
  unfold trimMessages
  split at keeps
  next fits =>
    rw [if_pos fits]
    exact ⟨message, getLast?_of_newest isNewest keeps, rfl, nonempty, prefix_rfl⟩
  next exceeds =>
    rw [if_neg exceeds]
    obtain ⟨older, others⟩ := getLast?_eq_some_iff.mp isNewest
    -- the loop comes to the newest message first
    obtain ⟨kept, first, part⟩ : ∃ kept, (trimOthers (budget messages maxTokens)
        (message :: older.reverse)).head? = some kept ∧ IsPart kept message := by
      rw [trimOthers]
      split
      · exact ⟨message, rfl, rfl, nonempty, prefix_rfl⟩
      next tight =>
        obtain ⟨enough, room⟩ := keeps.resolve_left tight
        rw [if_pos enough]
        exact ⟨_, rfl, truncate_isPart room nonempty⟩
    refine ⟨kept, ?_, part⟩
    rw [others, reverse_append, getLast?_append,
      getLast?_reverse, reverse_singleton, singleton_append, first]
    rfl

end DefaultContextAssembler

/-- The executor reads these messages from the config of the node. -/
def Asks (node : ExecutionNode) (messages : List ChatMessage) : Prop :=
  (node.config "messages").bind Json.asMessages = some messages

/-- A property of the node and of its sub-nodes, as far as they ask a model. -/
def OfAskers (property : ExecutionNode → Prop) (graph : ExecutionGraph) :
    Prop :=
  ∀ node, node ∈ graph.nodes → node.kind.isLlm = true →
    property node ∧ ∀ subgraph, node.subgraph = some subgraph →
      ∀ sub, sub ∈ subgraph.nodes → sub.kind.isLlm = true → property sub

def EndsWithPart (message : ChatMessage) (node : ExecutionNode) : Prop :=
  ∃ messages kept, Asks node messages ∧ messages.getLast? = some kept ∧
    DefaultContextAssembler.IsPart kept message

namespace CompilationStep

theorem asMessages_json (messages : List ChatMessage) :
    Json.asMessages (.array (messages.map ChatMessage.json)) = some messages := by
  change (messages.map ChatMessage.json).mapM Json.asMessage = some messages
  induction messages with
  | nil => rfl
  | cons message messages ih =>
    rw [map_cons, mapM_cons, ih]
    rfl

/-- The node and its sub-nodes hold this entry. -/
def Holds (key : String) (value : Json) (node : ExecutionNode) : Prop :=
  node.config key = some value ∧ ∀ subgraph, node.subgraph = some subgraph →
      ∀ sub, sub ∈ subgraph.nodes → sub.kind.isLlm = true → sub.config key = some value

theorem holds_withConfig (key : String) (value : Json) (node : ExecutionNode) :
    Holds key value (withConfig key value node) := by
  refine ⟨Table.insert_same _ _ _, ?_⟩
  intro subgraph attached sub member asks
  obtain ⟨inner, -, rfl⟩ := Option.map_eq_some_iff.mp attached
  obtain ⟨original, -, rfl⟩ := mem_map.mp member
  split at asks
  next llm =>
    rw [if_pos llm]
    exact Table.insert_same _ _ _
  next other => exact (other asks).elim

theorem Holds.withConfig (different : key ≠ other) (holds : Holds key value node) :
    Holds key value (withConfig other added node) := by
  obtain ⟨own, nested⟩ := holds
  refine ⟨(Table.insert_of_ne _ _ different).trans own, ?_⟩
  intro subgraph attached sub member asks
  obtain ⟨inner, was, rfl⟩ := Option.map_eq_some_iff.mp attached
  obtain ⟨original, inside, rfl⟩ := mem_map.mp member
  split at asks
  next llm =>
    rw [if_pos llm]
    exact (Table.insert_of_ne _ _ different).trans (nested inner was original inside llm)
  next plain => exact (plain asks).elim

theorem holds_prepareNode (assembled : context.assembledContext = some snapshot)
    (asks : node.kind.isLlm = true) :
    Holds "messages" (.array (snapshot.messages.map ChatMessage.json))
      (prepareNode context node) := by
  have filled : Holds "messages" (.array (snapshot.messages.map ChatMessage.json))
      (fillMessages context (fillModel context node)) := by
    unfold fillMessages
    rw [assembled]
    exact holds_withConfig _ _ _
  rw [prepareNode, if_pos asks]
  unfold fillTools
  split
  · exact filled
  · split
    · exact filled
    · exact filled.withConfig (by decide)

theorem kind_prepareNode (context : PipelineContext) (node : ExecutionNode) :
    (prepareNode context node).kind = node.kind := by
  have model : (fillModel context node).kind = node.kind := by
    unfold fillModel
    split <;> rfl
  have messages : (fillMessages context (fillModel context node)).kind =
      node.kind := by
    unfold fillMessages
    split <;> exact model
  unfold prepareNode
  split
  · unfold fillTools
    split
    · exact messages
    · split <;> exact messages
  · exact model

theorem asks_of_execute (executed : execute compiler ir context = .ok graph)
    (assembled : context.assembledContext = some snapshot) :
    OfAskers (fun node => Asks node snapshot.messages) graph := by
  unfold execute at executed
  split at executed
  · cases executed
  · cases executed
    intro node member asks
    obtain ⟨original, -, rfl⟩ := mem_map.mp member
    rw [kind_prepareNode] at asks
    obtain ⟨own, nested⟩ := holds_prepareNode assembled asks
    have reads : ∀ sub : ExecutionNode, sub.config "messages" =
        some (.array (snapshot.messages.map ChatMessage.json)) → Asks sub snapshot.messages := by
      intro sub entry
      rw [Asks, entry]
      exact asMessages_json snapshot.messages
    refine ⟨reads _ own, ?_⟩
    intro subgraph attached sub inside subAsks
    exact reads sub (nested subgraph attached sub inside subAsks)

end CompilationStep

/-- The graph that the pipeline makes of a request and its plan. -/
def pipelineGraph (assembler : DefaultContextAssembler)
    (compiler : WorkflowIR → Except CompilerError ExecutionGraph)
    (ir : WorkflowIR) (context : PipelineContext) : Except RouterError ExecutionGraph :=
  CompilationStep.execute compiler ir (ContextAssemblyStep.execute assembler context)

open DefaultContextAssembler in
/-- A conversation that fits reaches every node as it is; and where the newest
message is kept, every node is asked with a part of it at the end. -/
theorem newest_reaches_nodes (assembler : DefaultContextAssembler)
    (compiler : WorkflowIR → Except CompilerError ExecutionGraph)
    (ir : WorkflowIR) (context : PipelineContext) (graph : ExecutionGraph)
    (compiled : pipelineGraph assembler compiler ir context = .ok graph) (message : ChatMessage)
    (isNewest : newest context.request.messages = some message) (nonempty : message.content ≠ "") :
    (totalTokens context.request.messages ≤ assembler.limit context.request →
      OfAskers (fun node => Asks node context.request.messages) graph) ∧
    (KeepsNewest context.request.messages (assembler.limit context.request) message →
      OfAskers (EndsWithPart message) graph) := by
  have asks : OfAskers (fun node => Asks node (trimMessages context.request.messages
        (assembler.limit context.request))) graph := CompilationStep.asks_of_execute compiled rfl
  refine ⟨?_, ?_⟩
  · intro fits
    rwa [trimMessages, if_pos fits] at asks
  · intro keeps
    obtain ⟨kept, last, part⟩ := trimMessages_getLast? isNewest nonempty keeps
    intro node member llm
    obtain ⟨own, nested⟩ := asks node member llm
    refine ⟨⟨_, kept, own, last, part⟩, ?_⟩
    intro subgraph attached sub inside subLlm
    exact ⟨_, kept, nested subgraph attached sub inside subLlm, last, part⟩

namespace NewestSample

open DefaultContextAssembler

def instruction : ChatMessage :=
  { role := "system"
    content := "You are a helpful assistant." }

def question : ChatMessage :=
  { role := "user"
    content := "Please summarise the attached report in one sentence and " ++
      "list the three most important findings." }

def context (messages : List ChatMessage) (maxTokens : Nat) :
    PipelineContext :=
  .new 9
    { model := "auto"
      messages := messages
      maxTokens := some maxTokens
      tools := none }

/-- A plan with one node that reflects on its answer. -/
def plan : WorkflowIR :=
  workflow [{ plainNode 1 .generate with strategy := .reflection }] []

def graph (messages : List ChatMessage) (maxTokens : Nat) : ExecutionGraph :=
  match pipelineGraph .new (compile sampleOptions) plan (context messages maxTokens) with
  | .ok graph => graph
  | .error _ => Lowering.lowerToGraph acceptingExternals Table.empty plan

variable {maxTokens : Nat}

theorem pipelineGraph_eq
    (accepted : (pipelineGraph .new (compile sampleOptions) plan (context
      messages maxTokens)).isOk = true) :
    pipelineGraph .new (compile sampleOptions) plan
      (context messages maxTokens) = .ok (graph messages maxTokens) := by
  unfold graph
  cases result : pipelineGraph .new (compile sampleOptions) plan (context messages maxTokens) with
  | ok graph => rfl
  | error error => simp [result, Except.isOk, Except.toBool] at accepted

theorem keeps_question : KeepsNewest [instruction, question] 24 question := by
  have exceeds : ¬ totalTokens [instruction, question] ≤ 24 := by
    decide
  unfold KeepsNewest
  rw [if_neg exceeds]
  exact Or.inr ⟨by decide, by decide⟩

/-- A question that does not fit into 24 tokens is cut. -/
theorem question_cut : OfAskers (EndsWithPart question) (graph [instruction, question] 24) :=
  (newest_reaches_nodes .new (compile sampleOptions) plan (context [instruction, question] 24) _
    (pipelineGraph_eq (by decide)) question (by decide)
    (by decide)).2 keeps_question

/-- What the first node is asked with at the end. -/
def lastAsked (graph : ExecutionGraph) : Option ChatMessage :=
  (graph.nodes.head?.bind (fun node =>
    (node.config "messages").bind Json.asMessages)).bind List.getLast?

theorem not_endsWithPart (last : lastAsked (graph messages maxTokens) = some instruction)
    (llm : (graph messages maxTokens).nodes.head?.map (fun node => node.kind.isLlm) = some true) :
    ¬ OfAskers (EndsWithPart question) (graph messages maxTokens) := by
  intro carried
  obtain ⟨node, first, asks⟩ := Option.map_eq_some_iff.mp llm
  obtain ⟨⟨asked, kept, reads, isLast, role, -⟩, -⟩ := carried node (mem_of_head? first) asks
  rw [lastAsked, first, Option.bind_some, reads, Option.bind_some, isLast] at last
  cases last
  exact absurd role (by decide)

/-- A system message at the end stays there, and a question for which no budget
is left is dropped. -/
theorem newest_not_last :
    (¬ ∀ (assembler : DefaultContextAssembler)
      (compiler : WorkflowIR → Except CompilerError ExecutionGraph)
      (ir : WorkflowIR) (context : PipelineContext) (graph : ExecutionGraph),
      pipelineGraph assembler compiler ir context = .ok graph →
      1 ≤ assembler.limit context.request →
      totalTokens context.request.messages ≤ assembler.limit context.request →
      ∀ message, newest context.request.messages = some message →
        message.content ≠ "" → OfAskers (EndsWithPart message) graph) ∧
    ¬ ∀ (assembler : DefaultContextAssembler)
      (compiler : WorkflowIR → Except CompilerError ExecutionGraph)
      (ir : WorkflowIR) (context : PipelineContext) (graph : ExecutionGraph),
      pipelineGraph assembler compiler ir context = .ok graph →
      1 ≤ assembler.limit context.request →
      ∀ message, newest context.request.messages = some message →
        context.request.messages.getLast? = some message →
        message.content ≠ "" → OfAskers (EndsWithPart message) graph := by
  refine ⟨?_, ?_⟩
  · intro always
    refine not_endsWithPart ?_ ?_ (always .new (compile sampleOptions) plan
      (context [question, instruction] 4096) _
      (pipelineGraph_eq (by decide)) (by decide)
      (by decide) question (by decide) (by decide))
    · decide
    · decide
  · intro always
    refine not_endsWithPart ?_ ?_ (always .new (compile sampleOptions) plan
      (context [instruction, question] 12) _
      (pipelineGraph_eq (by decide)) (by decide) question
      (by decide) (by decide) (by decide))
    · decide
    · decide

end NewestSample

end FusionRouter
