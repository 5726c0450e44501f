import FusionRouter.Runtime.NodeUsage

/-!
# The tool loop of a node

A node without a subgraph asks the provider in round-trips, one for each
attempt and one for the fallback.  Within a round-trip every reply that
requests tools, and does not end it, is answered by a tool message with one
entry for each call.
-/

namespace FusionRouter

open Trace

/-- A call of the provider with its reply. -/
abbrev Exchange := Effect × Reply

def Environment.exchange (environment : Environment) (number : Nat) (effect : Effect) : Exchange :=
  (effect, environment.answer number effect)

namespace ProviderExecutor

def toolMessage (runtime : RuntimeExternals) (entries : List Json) :
    ChatMessage :=
  { role := "tool"
    content := runtime.externals.jsonText (.array entries) }

variable (runtime : RuntimeExternals) (executor : ProviderExecutor)
  (node : ExecutionNode)

/-- The exchanges of a round-trip that starts with this request and may go on
this often.  Only the last reply ends it, unless the budget does. -/
inductive Exchanges : Nat → ChatRequest → List Exchange → Prop where
  | refused {remaining : Nat} {request : ChatRequest} (attached : executor.resourceManager = true) :
      Exchanges remaining request []
  | ended {remaining : Nat} {request : ChatRequest} {reply : Reply}
      (ends : (∀ response, reply = .ok response → response.toolCalls = []) ∨
        remaining = 0 ∨ executor.allowAutoExec = false) :
      Exchanges remaining request [(.chat node.id request, reply)]
  | told {remaining : Nat} {request : ChatRequest} {response : ChatResponse}
      {entries : List Json} {later : List Exchange}
      (reported : List.Forall₂ Reports response.toolCalls entries)
      (rest : Exchanges remaining { request with
        messages := request.messages ++ [toolMessage runtime entries] } later) :
      Exchanges (remaining + 1) request ((.chat node.id request, .ok response) :: later)

variable {runtime executor node}

theorem Exchanges.length_le (loop : Exchanges runtime executor node remaining request exchanges) :
    exchanges.length ≤ remaining + 1 := by
  induction loop with
  | refused => exact Nat.zero_le _
  | ended => exact Nat.le_add_left 1 _
  | told _ _ ih => exact Nat.succ_le_succ ih

/-- What a part of a round-trip asks and hears. -/
abbrev HearsExchanges (environment : Environment) (program : Action Reply)
    (post : List Exchange → Prop) : Prop :=
  Hears Effect.isChat environment.exchange Counters.chats program (fun _ heard _ => post heard)

theorem exchanges_askProvider (toolResults : List Json)
    (refused : executor.resourceManager = true → post [])
    (ended : ∀ reply : Reply, (∀ response, reply = .ok response → response.toolCalls = []) →
        post [(.chat node.id request, reply)])
    (later : ∀ response, HearsExchanges environment (requested response)
      (fun later => post ((.chat node.id request, .ok response) :: later))) :
    HearsExchanges environment (askProvider runtime environment executor node
      request toolResults requested) post := by
  refine Hears.bind quiet_canAfford ?_
  rintro affordable _ before ⟨⟨rfl, -⟩, attached⟩
  cases affordable with
  | false => exact Hears.pure (refused (attached rfl))
  | true =>
    refine Hears.bind (hears_chatCompletion node request) ?_
    rintro reply _ asked ⟨-, number, replied, rfl⟩
    have heard : environment.exchange number (.chat node.id request) =
        (.chat node.id request, reply) := by
      rw [replied]
      rfl
    rw [heard]
    cases reply with
    | error error => exact Hears.pure (ended _ nofun)
    | ok response =>
      refine Hears.bind (hears_recordUsage request.model response.usage) ?_
      rintro _ _ recorded ⟨rfl, -⟩
      split
      next answer =>
        refine Hears.pure (ended _ ?_)
        intro _ same
        cases same
        exact List.isEmpty_iff.mp answer
      · exact later response

theorem exchanges_toolLoop (remaining : Nat) (request : ChatRequest) (toolResults : List Json) :
    HearsExchanges environment (toolLoop runtime environment executor node
      remaining request toolResults) (Exchanges runtime executor node remaining request) := by
  induction remaining generalizing request toolResults with
  | zero =>
    refine exchanges_askProvider toolResults .refused (fun _ final => .ended (Or.inl final)) ?_
    intro response
    exact Hears.pure (.ended (Or.inr (Or.inl rfl)))
  | succ remaining ih =>
    refine exchanges_askProvider toolResults .refused (fun _ final => .ended (Or.inl final)) ?_
    intro response
    split
    · refine Hears.bind (quiet_runTools node response.toolCalls) ?_
      rintro entries _ before ⟨⟨rfl, -⟩, reported⟩
      refine (ih _ _).mono ?_
      intro _ later _ rest
      exact .told reported rest
    next disabled =>
      exact Hears.pure (.ended (Or.inr (Or.inr (by simpa using disabled))))

/-- At most this many round-trips, one after the other. -/
def RoundTrips (runtime : RuntimeExternals) (executor : ProviderExecutor)
    (node : ExecutionNode) (trips : Nat) (exchanges : List Exchange) : Prop :=
  ∃ loops : List (List Exchange), exchanges = loops.flatten ∧
    loops.length ≤ trips ∧ ∀ loop, loop ∈ loops → ∃ request,
      Exchanges runtime executor node node.maxToolIterations request loop

theorem RoundTrips.length_le (made : RoundTrips runtime executor node trips exchanges) :
    exchanges.length ≤ trips * (node.maxToolIterations + 1) := by
  obtain ⟨loops, rfl, few, each⟩ := made
  have short : ∀ loop ∈ loops, loop.length ≤ node.maxToolIterations + 1 := by
    intro loop member
    obtain ⟨request, loop⟩ := each loop member
    exact loop.length_le
  calc loops.flatten.length = (loops.map List.length).sum := List.length_flatten
    _ ≤ loops.length * (node.maxToolIterations + 1) := by
        simpa using List.sum_le_card_nsmul (loops.map List.length) _ (by simpa using short)
    _ ≤ trips * (node.maxToolIterations + 1) := Nat.mul_le_mul_right _ few

theorem roundTrips_executeNode (bare : node.subgraph = none) (ctx : NodeExecContext) :
    Hears Effect.isChat environment.exchange Counters.chats
      (executeNode runtime environment executor node ctx)
      (fun _ exchanges _ => RoundTrips runtime executor node
        (node.retryPolicy.maxRetries + 1 + fallbackTrips node) exchanges) := by
  have rule : LeafRule
      (fun _ (heard : List Exchange) _ => ∃ request, Exchanges runtime executor
        node node.maxToolIterations request heard)
      (fun trips _ heard _ => RoundTrips runtime executor node trips heard) := by
    constructor
    · rintro trips result heard effects - - ⟨rfl, -⟩
      exact ⟨[], rfl, Nat.zero_le _, by simp⟩
    · intro trips response result heard effects loop _ _
      refine ⟨[heard], by simp, Nat.le_add_left 1 _, ?_⟩
      simpa using loop
    · rintro trips error result first second before after loop ⟨loops, rfl, few, each⟩
      refine ⟨first :: loops, rfl, Nat.succ_le_succ few, ?_⟩
      exact List.forall_mem_cons.mpr ⟨loop, each⟩
  rw [executeNode_none runtime environment executor bare]
  refine (hears_executeLeaf rule ?_ ctx).mono ?_
  · intro request
    refine (exchanges_toolLoop _ request []).mono ?_
    intro _ heard _ loop
    exact ⟨request, loop⟩
  · rintro _ _ _ ⟨loops, joined, few, each⟩
    exact ⟨loops, joined, by omega, each⟩

/-- A node without a subgraph calls a tool only with auto-execution, from its
own allowlist and from the registry.  Its provider calls come in one round-trip
for each attempt and one for the fallback, each of them with one tool message
after every reply that does not end it. -/
theorem tool_loop_closed_and_bounded (bare : node.subgraph = none)
    (ctx : NodeExecContext) (start : Counters) :
    let effects := (Trace.run (executeNode runtime environment executor node ctx) start).2
    let exchanges := transcript Effect.isChat environment.exchange start.chats effects
    (∀ id name arguments, Effect.tool id name arguments ∈ effects →
      executor.allowAutoExec = true ∧ name ∈ node.toolAllowlist ∧ name ∈ executor.tools) ∧
    effects.countP Effect.isChat ≤ (node.retryPolicy.maxRetries + 1 + fallbackTrips node) *
        (node.maxToolIterations + 1) ∧
    RoundTrips runtime executor node
      (node.retryPolicy.maxRetries + 1 + fallbackTrips node) exchanges := by
  intro effects exchanges
  have emitted : Emits (LeafEffect environment executor node)
      (executeNode runtime environment executor node ctx) := by
    rw [executeNode_none runtime environment executor bare]
    exact emits_executeLeaf ctx
  have made : RoundTrips runtime executor node
      (node.retryPolicy.maxRetries + 1 + fallbackTrips node) exchanges :=
    (roundTrips_executeNode bare ctx).run start
  refine ⟨?_, ?_, made⟩
  · intro id name arguments called
    cases emitted.run start _ called with
    | tool _ _ enabled listed known => exact ⟨enabled, listed, known⟩
  · rw [← length_transcript Effect.isChat environment.exchange start.chats]
    exact made.length_le

/-- A tool is requested in the first reply and refused in the message sent
next. -/
theorem unlisted_tool_reported :
    UsageSample.node.subgraph = none ∧
      RoundTrips (.sample acceptingExternals []) UsageSample.executor
        UsageSample.node 1 (transcript Effect.isChat
          UsageSample.environment.exchange 0 (Trace.run (executeNode
            (.sample acceptingExternals []) UsageSample.environment
            UsageSample.executor UsageSample.node UsageSample.context) ⟨0, 0, 0, 0⟩).2) :=
  ⟨rfl, (tool_loop_closed_and_bounded rfl UsageSample.context ⟨0, 0, 0, 0⟩).2.2⟩

end ProviderExecutor

end FusionRouter
