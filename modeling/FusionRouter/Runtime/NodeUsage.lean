import FusionRouter.Runtime.Effects
import FusionRouter.Scheduler.Gating

/-!
# The usage of a node

What `execute_node` reports as the usage of a node, compared with the usages of
all replies that the provider gave while the node ran.  A reply that answers
(it requests no tool) ends its round-trip and is reported; the reply that
requests tools is not, and neither is anything that a subgraph has used when
it fails.
-/

namespace FusionRouter

open Trace
open List hiding after
open Usage (completionTokens promptTokens totalTokens)

def u32Max : Nat := 2 ^ 32 - 1

/-- What the provider gave back to a call. -/
abbrev Reply := Except String ChatResponse

def Effect.isChat : Effect → Bool
  | .chat _ _ => true
  | _ => false

def Effect.recordedTokens : Effect → Nat
  | .recorded _ tokens => tokens
  | _ => 0

def Environment.answer (environment : Environment) (number : Nat) :
    Effect → Reply
  | .chat _ request => environment.reply number request
  | _ => .error "not a call"

/-- The fields of every usage are `u32`. -/
def Environment.Bounded (environment : Environment) : Prop :=
  ∀ number request response usage, environment.reply number request = .ok response →
    response.usage = some usage → usage.promptTokens ≤ u32Max ∧ usage.completionTokens ≤ u32Max ∧
        usage.totalTokens ≤ u32Max

section

variable (measure : Usage → Nat)

/-- One of the fields of a usage, zero when there is none. -/
def tokensOf (usage : Option Usage) : Nat :=
  (usage.map measure).getD 0

/-- What the reply carries as an answer. -/
def Reply.answered : Reply → Nat
  | .error _ => 0
  | .ok response =>
    if response.toolCalls.isEmpty then tokensOf measure response.usage else 0

def Reply.requested : Reply → Nat
  | .error _ => 0
  | .ok response =>
    if response.toolCalls.isEmpty then 0 else tokensOf measure response.usage

/-- What a round-trip that ends with this reply reports. -/
def Reply.reported : Reply → Nat
  | .error _ => 0
  | .ok response => tokensOf measure response.usage

/-- What the answers among the replies carry. -/
def answeredTokens (heard : List Reply) : Nat :=
  (heard.map (Reply.answered measure)).sum

/-- What the requests for tools among the replies carry. -/
def requestedTokens (heard : List Reply) : Nat :=
  (heard.map (Reply.requested measure)).sum

/-- What all replies carry. -/
def heardTokens (heard : List Reply) : Nat :=
  answeredTokens measure heard + requestedTokens measure heard

end

/-- The tokens recorded with the resource manager. -/
def bookedTokens (effects : List Effect) : Nat :=
  (effects.map Effect.recordedTokens).sum

section Sums

variable {measure : Usage → Nat}

@[simp] theorem answeredTokens_append (first second : List Reply) :
    answeredTokens measure (first ++ second) =
      answeredTokens measure first + answeredTokens measure second := by
  simp [answeredTokens]

@[simp] theorem requestedTokens_append (first second : List Reply) :
    requestedTokens measure (first ++ second) =
      requestedTokens measure first + requestedTokens measure second := by
  simp [requestedTokens]

@[simp] theorem heardTokens_append (first second : List Reply) :
    heardTokens measure (first ++ second) =
      heardTokens measure first + heardTokens measure second := by
  simp only [heardTokens, answeredTokens_append, requestedTokens_append]
  omega

@[simp] theorem bookedTokens_append (first second : List Effect) :
    bookedTokens (first ++ second) = bookedTokens first + bookedTokens second := by
  simp [bookedTokens]

end Sums

namespace ProviderExecutor

variable {environment : Environment}

/-- What a part of an execution returns, the replies it hears and its
effects. -/
abbrev HearsReplies {α : Type} (environment : Environment) (program : Action α)
    (post : α → List Reply → List Effect → Prop) : Prop :=
  Hears Effect.isChat environment.answer Counters.chats program post

/-- With a resource manager, what is heard is recorded. -/
def Books (executor : ProviderExecutor) (heard : List Reply) (effects : List Effect) : Prop :=
  executor.resourceManager = true → bookedTokens effects = heardTokens totalTokens heard

theorem Books.nil : Books executor [] [] := fun _ => rfl

theorem Books.append (left : Books executor first before) (right : Books executor second after) :
    Books executor (first ++ second) (before ++ after) := by
  intro attached
  rw [bookedTokens_append, heardTokens_append, left attached, right attached]

/-- A part that neither calls the provider nor records. -/
def Silent {τ : Type} (heard : List τ) (effects : List Effect) : Prop :=
  heard = [] ∧ bookedTokens effects = 0

section Silence

variable {τ : Type} {answer : Nat → Effect → τ}

theorem Silent.nil : Silent ([] : List τ) [] := ⟨rfl, rfl⟩

theorem Silent.append {first second : List τ} (left : Silent first before)
    (right : Silent second after) : Silent (first ++ second) (before ++ after) := by
  refine ⟨by rw [left.1, right.1]; rfl, ?_⟩
  rw [bookedTokens_append, left.2, right.2]

/-- What a part returns that neither calls the provider nor records. -/
abbrev Quiet {α : Type} (answer : Nat → Effect → τ) (program : Action α) (post : α → Prop) : Prop :=
  Hears Effect.isChat answer Counters.chats program
    (fun value heard effects => Silent heard effects ∧ post value)

namespace Quiet

variable {α β : Type}

theorem pure {value : α} (holds : post value) :
    Quiet answer (Pure.pure value) post := Hears.pure ⟨Silent.nil, holds⟩

theorem emit {event : Effect} (unasked : event.isChat = false)
    (unbooked : event.recordedTokens = 0) : Quiet answer (Trace.emit event) (fun _ => True) :=
  Hears.emit unasked ⟨⟨rfl, unbooked⟩, trivial⟩

theorem update {change : Counters → α × Counters}
    (counted : ∀ counters, (change counters).2.chats = counters.chats)
    (holds : ∀ counters, post (change counters).1) : Quiet answer (Trace.update change) post :=
  Hears.update counted (fun counters => ⟨Silent.nil, holds counters⟩)

theorem bind {program : Action α} {post : β → Prop} (holds : Quiet answer program first)
    (rest : ∀ value, first value → Quiet answer (more value) post) :
    Quiet answer (program >>= more) post := by
  refine Hears.bind holds ?_
  rintro value heard before ⟨silent, met⟩
  refine (rest value met).mono ?_
  rintro result later after ⟨silentLater, done⟩
  exact ⟨silent.append silentLater, done⟩

end Quiet

variable (node : ExecutionNode)

theorem quiet_executeTool (name : String) (arguments : Json) :
    Quiet answer (executeTool environment node name arguments) (fun _ => True) := by
  refine Quiet.bind (Quiet.emit rfl rfl) ?_
  intro _ _
  exact Quiet.update (fun _ => rfl) (fun _ => trivial)

def Reports (call : ToolCall) (entry : Json) : Prop :=
  (∃ reason, entry = refusedEntry call reason) ∨ ∃ outcome, entry = executedEntry call outcome

theorem quiet_runTool (call : ToolCall) :
    Quiet answer (runTool runtime environment executor node call) (Reports call) := by
  unfold runTool
  split
  · exact Quiet.pure (Or.inl ⟨_, rfl⟩)
  · split
    · exact Quiet.pure (Or.inl ⟨_, rfl⟩)
    · refine Quiet.bind (quiet_executeTool node _ _) ?_
      intro outcome _
      exact Quiet.pure (Or.inr ⟨outcome, rfl⟩)

theorem quiet_runTools (calls : List ToolCall) :
    Quiet answer (runTools runtime environment executor node calls)
      (List.Forall₂ Reports calls) := by
  induction calls with
  | nil => exact Quiet.pure .nil
  | cons call calls ih =>
    refine Quiet.bind (quiet_runTool node call) ?_
    intro entry reported
    refine Quiet.bind ih ?_
    intro entries others
    exact Quiet.pure (.cons reported others)

theorem quiet_canAfford :
    Quiet answer (canAfford environment executor)
      (fun affordable => affordable = false → executor.resourceManager = true) := by
  unfold canAfford
  split
  next attached =>
    exact Quiet.update (fun _ => rfl) (fun _ _ => attached)
  · exact Quiet.pure nofun

theorem quiet_gateApproved :
    Quiet answer (gateApproved environment executor node) (fun _ => True) := by
  unfold gateApproved
  split
  · have asked : Quiet answer (Trace.update (fun counters =>
        (environment.approves counters.gates node.id,
          { counters with gates := counters.gates + 1 })))
        (fun _ => True) := Quiet.update (fun _ => rfl) (fun _ => trivial)
    refine Quiet.bind asked ?_
    intro approved _
    refine Quiet.bind (Quiet.emit rfl rfl) ?_
    intro _ _
    exact Quiet.pure trivial
  · exact Quiet.pure trivial

/-! ## A round-trip -/

theorem hears_chatCompletion (request : ChatRequest) :
    Hears Effect.isChat answer Counters.chats (chatCompletion environment node request)
      (fun reply heard effects => bookedTokens effects = 0 ∧
        ∃ number, reply = environment.reply number request ∧
          heard = [answer number (.chat node.id request)]) := by
  apply Hears.ask rfl
  · intro counters
    rfl
  · intro counters
    exact ⟨rfl, counters.chats, rfl, rfl⟩

theorem hears_recordUsage (model : String) (usage : Option Usage) :
    Hears Effect.isChat answer Counters.chats (recordUsage executor model usage)
      (fun _ heard effects => heard = [] ∧ (executor.resourceManager = true →
          bookedTokens effects = tokensOf totalTokens usage)) := by
  unfold recordUsage
  cases usage with
  | none => exact Hears.pure ⟨rfl, fun _ => rfl⟩
  | some usage =>
    dsimp only
    split
    · exact Hears.emit rfl ⟨rfl, fun _ => rfl⟩
    next detached =>
      exact Hears.pure ⟨rfl, fun attached => (detached attached).elim⟩

/-! ## A node without a subgraph -/

/-- The result of a node is final, and a failed one reports nothing. -/
def Settled (result : NodeExecutionResult) : Prop :=
  result.state = .succeeded ∨ (∃ message, result.state = .failed message) ∧ result.usage = none

/-- What is known of a round-trip gives what is to hold of a node that may make
this many of them. -/
structure LeafRule (trip : Reply → List τ → List Effect → Prop)
    (post : Nat → NodeExecutionResult → List τ → List Effect → Prop) :
    Prop where
  unasked : ∀ {trips result heard effects}, Settled result →
    result.usage = none → Silent heard effects → post trips result heard effects
  answered : ∀ {trips response result heard effects},
    trip (.ok response) heard effects → result.state = .succeeded →
      result.usage = response.usage → post (trips + 1) result heard effects
  retried : ∀ {trips error result first second before after},
    trip (.error error) first before → post trips result second after →
      post (trips + 1) result (first ++ second) (before ++ after)

/-- The round-trips that the node may make on its fallback model. -/
def fallbackTrips : Nat :=
  if node.fallback.isSome then 1 else 0

section Rule

variable {node} {trip : Reply → List τ → List Effect → Prop}
  {post : Nat → NodeExecutionResult → List τ → List Effect → Prop}
  (rule : LeafRule trip post)
  (trips : ∀ request, Hears Effect.isChat answer Counters.chats
    (roundtrip runtime environment executor node request) trip)

include rule

theorem LeafRule.failure (trips : Nat) (message : String) : post trips (.failure message) [] [] :=
  rule.unasked (Or.inr ⟨⟨message, rfl⟩, rfl⟩) rfl Silent.nil

include trips

theorem hears_tryFallback (ctx : NodeExecContext) (lastError : Option String) :
    Hears Effect.isChat answer Counters.chats
      (tryFallback runtime environment executor node ctx lastError)
      (post (fallbackTrips node)) := by
  unfold tryFallback fallbackTrips
  split
  · exact Hears.pure (rule.failure _ _)
  next fallback given =>
    rw [given]
    split
    · exact Hears.pure (rule.failure _ _)
    · refine Hears.bind (trips _) ?_
      intro outcome heard before tried
      cases outcome with
      | ok response => exact Hears.pure_after (rule.answered tried rfl rfl)
      | error error =>
        exact Hears.pure (rule.retried tried (rule.failure _ _))

theorem hears_attempt (ctx : NodeExecContext) (attempts : Nat) (lastError : Option String) :
    Hears Effect.isChat answer Counters.chats
      (attempt runtime environment executor node ctx attempts lastError)
      (post (fallbackTrips node + attempts)) := by
  induction attempts generalizing lastError with
  | zero => exact hears_tryFallback rule trips ctx lastError
  | succ attempts ih =>
    unfold attempt
    split
    · exact Hears.pure (rule.failure _ _)
    · refine Hears.bind (trips _) ?_
      intro outcome heard before tried
      cases outcome with
      | ok response => exact Hears.pure_after (rule.answered tried rfl rfl)
      | error error =>
        refine Hears.mono (ih (some error)) ?_
        intro result replies effects held
        exact rule.retried tried held

theorem hears_executeLeaf (ctx : NodeExecContext) :
    Hears Effect.isChat answer Counters.chats (executeLeaf runtime environment executor node ctx)
      (post (fallbackTrips node + min (node.retryPolicy.maxRetries + 1) (2 ^ 32 - 1))) := by
  have passed : Hears Effect.isChat answer Counters.chats
      (pure (passThrough runtime node)) (post (fallbackTrips node +
        min (node.retryPolicy.maxRetries + 1) (2 ^ 32 - 1))) :=
    Hears.pure (rule.unasked (Or.inl rfl) rfl Silent.nil)
  unfold executeLeaf
  split
  · refine Hears.bind (quiet_gateApproved node) ?_
    rintro approved heard before ⟨silent, -⟩
    cases approved with
    | true => exact Hears.pure_after (rule.unasked (Or.inl rfl) rfl silent)
    | false =>
      refine Hears.pure_after (rule.unasked ?_ rfl silent)
      exact Or.inr ⟨⟨_, rfl⟩, rfl⟩
  iterate 6 exact passed
  iterate 3 exact hears_attempt rule trips ctx _ none

end Rule

end Silence

/-! ## The tokens of a node without a subgraph -/

variable (bounded : environment.Bounded) (node : ExecutionNode)

theorem Silent.books (silent : Silent heard effects) : Books executor heard effects := by
  intro _
  rw [silent.1, silent.2]
  rfl

theorem Silent.unanswered (silent : Silent heard effects)
    (measure : Usage → Nat) : answeredTokens measure heard = 0 := by
  rw [silent.1]
  rfl

/-- What a round-trip hands on of its replies: exactly the answer. -/
structure Answers (executor : ProviderExecutor) (outcome : Reply)
    (heard : List Reply) (effects : List Effect) : Prop where
  reported : ∀ measure, answeredTokens measure heard = Reply.reported measure outcome
  small : ∀ response usage, outcome = .ok response →
    response.usage = some usage → usage.promptTokens ≤ u32Max ∧
      usage.completionTokens ≤ u32Max ∧ usage.totalTokens ≤ u32Max
  books : Books executor heard effects

theorem Answers.error (unanswered : ∀ measure, answeredTokens measure heard = 0)
    (books : Books executor heard effects) : Answers executor (.error message) heard effects :=
  { reported := unanswered
    small := nofun
    books := books }

/-- Replies without an answer in front of a round-trip change nothing. -/
theorem Answers.prepend (unanswered : ∀ measure, answeredTokens measure first = 0)
    (books : Books executor first before) (answers : Answers executor outcome second after) :
    Answers executor outcome (first ++ second) (before ++ after) := by
  refine ⟨?_, answers.small, books.append answers.books⟩
  intro measure
  rw [answeredTokens_append, unanswered, Nat.zero_add, answers.reported]

include bounded in
theorem hears_askProvider (request : ChatRequest) (toolResults : List Json)
    (later : ∀ response, HearsReplies environment (requested response) (Answers executor)) :
    HearsReplies environment (askProvider runtime environment executor node
      request toolResults requested) (Answers executor) := by
  refine Hears.bind quiet_canAfford ?_
  rintro affordable heard before ⟨silent, -⟩
  refine Hears.mono ?_ (fun outcome later after => Answers.prepend silent.unanswered silent.books)
  cases affordable with
  | false => exact Hears.pure (.error (fun _ => rfl) Books.nil)
  | true =>
    refine Hears.bind (hears_chatCompletion node request) ?_
    rintro reply _ asked ⟨unbooked, number, replied, rfl⟩
    have answered : environment.answer number (.chat node.id request) = reply := replied.symm
    rw [answered]
    cases reply with
    | error error =>
      apply Hears.pure
      refine .error (fun _ => rfl) ?_
      intro _
      rw [append_nil, unbooked]
      rfl
    | ok response =>
      refine Hears.bind (hears_recordUsage request.model response.usage) ?_
      rintro _ _ recorded ⟨rfl, booked⟩
      have books : Books executor [.ok response] (asked ++ recorded) := by
        intro attached
        rw [bookedTokens_append, unbooked, Nat.zero_add, booked attached]
        unfold heardTokens answeredTokens requestedTokens
        cases requests : response.toolCalls.isEmpty <;>
          simp [Reply.answered, Reply.requested, requests]
      split
      next answer =>
        apply Hears.pure
        rw [append_nil, append_nil, append_nil]
        refine ⟨?_, ?_, books⟩
        · intro measure
          simp [answeredTokens, Reply.answered, answer, Reply.reported]
        · intro _ usage same carried
          cases same
          exact bounded number request response usage replied.symm carried
      next requests =>
        refine Hears.mono (later response) ?_
        intro outcome replies effects answers
        rw [nil_append, ← append_assoc asked]
        refine answers.prepend ?_ books
        intro measure
        simp [answeredTokens, Reply.answered, requests]

include bounded in
theorem hears_toolLoop (remaining : Nat) (request : ChatRequest) (toolResults : List Json) :
    HearsReplies environment (toolLoop runtime environment executor node
      remaining request toolResults) (Answers executor) := by
  induction remaining generalizing request toolResults with
  | zero =>
    apply hears_askProvider bounded
    intro response
    exact Hears.pure (.error (fun _ => rfl) Books.nil)
  | succ remaining ih =>
    apply hears_askProvider bounded
    intro response
    split
    · refine Hears.bind (quiet_runTools node response.toolCalls) ?_
      rintro entries heard before ⟨silent, -⟩
      refine Hears.mono (ih _ _) ?_
      intro outcome replies effects answers
      exact answers.prepend silent.unanswered silent.books
    · exact Hears.pure (.error (fun _ => rfl) Books.nil)

/-- The result reports exactly the answers. -/
structure LeafCounted (executor : ProviderExecutor)
    (result : NodeExecutionResult) (heard : List Reply) (effects : List Effect) : Prop where
  settled : Settled result
  reported : ∀ measure, tokensOf measure result.usage = answeredTokens measure heard
  small : ∀ usage, result.usage = some usage → usage.promptTokens ≤ u32Max ∧
    usage.completionTokens ≤ u32Max ∧ usage.totalTokens ≤ u32Max
  books : Books executor heard effects

theorem LeafCounted.unused (settled : Settled result)
    (unused : result.usage = none) (silent : Silent heard effects) :
    LeafCounted executor result heard effects := by
  refine ⟨settled, ?_, ?_, silent.books⟩
  · intro measure
    rw [unused, silent.unanswered]
    rfl
  · intro usage same
    rw [unused] at same
    cases same

theorem Answers.succeeded {response : ChatResponse}
    (answers : Answers executor (.ok response) heard effects) (state : result.state = .succeeded)
    (usage : result.usage = response.usage) : LeafCounted executor result heard effects := by
  refine ⟨Or.inl state, ?_, ?_, answers.books⟩
  · intro measure
    rw [usage, answers.reported]
    rfl
  · intro used same
    exact answers.small response used rfl (usage ▸ same)

theorem LeafCounted.prepend (unanswered : ∀ measure, answeredTokens measure first = 0)
    (books : Books executor first before) (counted : LeafCounted executor result second after) :
    LeafCounted executor result (first ++ second) (before ++ after) := by
  refine ⟨counted.settled, ?_, counted.small, books.append counted.books⟩
  intro measure
  rw [answeredTokens_append, unanswered, Nat.zero_add, counted.reported]

include bounded in
theorem counted_executeLeaf (ctx : NodeExecContext) :
    HearsReplies environment (executeLeaf runtime environment executor node
      ctx) (LeafCounted executor) := by
  have rule : LeafRule (Answers executor) (fun _ => LeafCounted executor) := by
    refine ⟨LeafCounted.unused, Answers.succeeded, ?_⟩
    intro _ _ _ _ _ _ _ answers counted
    exact counted.prepend answers.reported answers.books
  exact hears_executeLeaf rule (fun request => hears_toolLoop bounded node _ request []) ctx

/-! ## A node with a subgraph -/

/-- The same amount once both are cut to a `u32`. -/
def Capped (left right : Nat) : Prop :=
  min left u32Max = min right u32Max

theorem capped_min (amount : Nat) : Capped (min amount u32Max) amount := by
  unfold Capped
  omega

theorem Capped.add_left (same : Capped left right) (before : Nat) :
    Capped (before + left) (before + right) := by
  unfold Capped at same ⊢
  omega

theorem Capped.extend {start middle final first second : Nat}
    (moved : Capped middle (start + first)) (rest : Capped final (middle + second)) :
    Capped final (start + (first + second)) := by
  unfold Capped at moved rest ⊢
  omega

/-- A success reports the prompts and completions of the answers. -/
structure Counted (executor : ProviderExecutor) (result : NodeExecutionResult)
    (heard : List Reply) (effects : List Effect) : Prop where
  settled : Settled result
  prompt : result.state = .succeeded → Capped (tokensOf promptTokens result.usage)
      (answeredTokens promptTokens heard)
  completion : result.state = .succeeded → Capped (tokensOf completionTokens result.usage)
      (answeredTokens completionTokens heard)
  books : Books executor heard effects

theorem LeafCounted.counted (counted : LeafCounted executor result heard effects) :
    Counted executor result heard effects :=
  { settled := counted.settled
    prompt := fun _ => congrArg (min · u32Max) (counted.reported _)
    completion := fun _ => congrArg (min · u32Max) (counted.reported _)
    books := counted.books }

/-- What the rounds from this state add to its sums. -/
structure RoundCounted (executor : ProviderExecutor) (state : SubgraphState)
    (outcome : Except NodeExecutionResult SubgraphState) (heard : List Reply)
    (effects : List Effect) : Prop where
  prompt : ∀ following, outcome = .ok following → Capped following.promptTokens
      (state.promptTokens + answeredTokens promptTokens heard)
  completion : ∀ following, outcome = .ok following → Capped following.completionTokens
      (state.completionTokens + answeredTokens completionTokens heard)
  failed : ∀ result, outcome = .error result →
    (∃ message, result.state = .failed message) ∧ result.usage = none
  books : Books executor heard effects

theorem RoundCounted.unchanged (state : SubgraphState) :
    RoundCounted executor state (.ok state) [] [] := by
  refine ⟨?_, ?_, nofun, Books.nil⟩
  all_goals
    intro following same
    cases same
    rfl

theorem RoundCounted.failure (books : Books executor heard effects) :
    RoundCounted executor state (.error (.failure message)) heard effects := by
  refine ⟨nofun, nofun, ?_, books⟩
  intro result same
  cases same
  exact ⟨⟨message, rfl⟩, rfl⟩

theorem RoundCounted.prepend {next : SubgraphState}
    (prompt : Capped next.promptTokens (state.promptTokens + answeredTokens
      promptTokens first))
    (completion : Capped next.completionTokens (state.completionTokens +
      answeredTokens completionTokens first)) (books : Books executor first before)
    (counted : RoundCounted executor next outcome second after) :
    RoundCounted executor state outcome (first ++ second) (before ++ after) := by
  refine ⟨?_, ?_, counted.failed, books.append counted.books⟩
  · intro following same
    rw [answeredTokens_append]
    exact prompt.extend (counted.prompt following same)
  · intro following same
    rw [answeredTokens_append]
    exact completion.extend (counted.completion following same)

theorem hears_runReady (ready : List (Uuid × Runner)) (state : SubgraphState)
    (members : ∀ member ∈ ready, ∀ ctx,
      HearsReplies environment (member.2 ctx) (Counted executor)) :
    HearsReplies environment (runReady runtime subgraph ctx ready state)
      (RoundCounted executor state) := by
  induction ready generalizing state with
  | nil => exact Hears.pure (.unchanged state)
  | cons member rest ih =>
    obtain ⟨id, runner⟩ := member
    have later := fun state => ih state
      (fun other inside => members other (mem_cons_of_mem _ inside))
    refine Hears.bind (members _ mem_cons_self _) ?_
    intro result heard before counted
    split
    next succeeded =>
      refine Hears.mono (later (state.succeed id result)) ?_
      intro outcome replies effects round
      refine round.prepend ?_ ?_ counted.books
      · exact (counted.prompt succeeded).add_left state.promptTokens
      · exact (counted.completion succeeded).add_left state.completionTokens
    · refine Hears.pure_after ?_
      exact .failure counted.books
    next running failing =>
      -- the executor returns no other state
      rcases counted.settled with succeeded | ⟨⟨message, failed⟩, -⟩
      · exact (running succeeded).elim
      · exact (failing message failed).elim

theorem hears_subgraphRounds (members : List (Uuid × Runner)) (fuel : Nat)
    (state : SubgraphState) (counted : ∀ member ∈ members, ∀ ctx,
      HearsReplies environment (member.2 ctx) (Counted executor)) :
    HearsReplies environment (subgraphRounds runtime subgraph ctx members fuel state)
      (RoundCounted executor state) := by
  induction fuel generalizing state with
  | zero => exact Hears.pure (.unchanged state)
  | succ fuel ih =>
    unfold subgraphRounds
    split
    · exact Hears.pure (.unchanged state)
    · split
      · exact Hears.pure (.failure Books.nil)
      · refine Hears.bind (hears_runReady _ state (fun member inside =>
          counted member (mem_of_mem_filter inside))) ?_
        intro outcome heard before round
        cases outcome with
        | error failed =>
          refine Hears.pure_after ?_
          exact round
        | ok following =>
          refine Hears.mono (ih following) ?_
          intro last replies effects rest
          exact rest.prepend (round.prompt following rfl)
            (round.completion following rfl) round.books

/-- What a subgraph reports: the prompts and completions of its answers, and
their sum as its total. -/
structure SubgraphCounted (executor : ProviderExecutor)
    (result : NodeExecutionResult) (heard : List Reply) (effects : List Effect) : Prop where
  settled : Settled result
  prompt : result.state = .succeeded → tokensOf promptTokens result.usage =
      min (answeredTokens promptTokens heard) u32Max
  completion : result.state = .succeeded → tokensOf completionTokens result.usage =
      min (answeredTokens completionTokens heard) u32Max
  total : result.state = .succeeded → tokensOf totalTokens result.usage =
      min (answeredTokens promptTokens heard +
        answeredTokens completionTokens heard) u32Max
  books : Books executor heard effects

theorem SubgraphCounted.counted (counted : SubgraphCounted executor result heard effects) :
    Counted executor result heard effects := by
  refine ⟨counted.settled, ?_, ?_, counted.books⟩
  · intro succeeded
    rw [counted.prompt succeeded]
    exact capped_min _
  · intro succeeded
    rw [counted.completion succeeded]
    exact capped_min _

theorem hears_executeSubgraph (members : List (Uuid × Runner))
    (counted : ∀ member ∈ members, ∀ ctx,
      HearsReplies environment (member.2 ctx) (Counted executor)) :
    HearsReplies environment (executeSubgraph runtime node subgraph members ctx)
      (SubgraphCounted executor) := by
  have entered : HearsReplies environment (Trace.emit (.subgraph node.id))
      (fun _ => Silent) := Hears.emit rfl ⟨rfl, rfl⟩
  refine Hears.bind entered ?_
  rintro _ _ before ⟨rfl, unbooked⟩
  refine Hears.bind (hears_subgraphRounds members _ .initial counted) ?_
  intro outcome heard effects round
  have books : Books executor ([] ++ heard) (before ++ effects) :=
    Books.append (fun _ => unbooked) round.books
  cases outcome with
  | error failed =>
    apply Hears.pure
    rw [append_nil, append_nil]
    obtain ⟨⟨message, state⟩, unused⟩ := round.failed failed rfl
    have stopped : failed.state ≠ .succeeded := by
      rw [state]
      nofun
    exact ⟨Or.inr ⟨⟨message, state⟩, unused⟩, fun same => (stopped same).elim,
      fun same => (stopped same).elim, fun same => (stopped same).elim, books⟩
  | ok state =>
    apply Hears.pure
    rw [append_nil, append_nil]
    have prompt := round.prompt state rfl
    have completion := round.completion state rfl
    simp only [Capped, SubgraphState.initial, Nat.zero_add] at prompt completion
    refine ⟨Or.inl rfl, fun _ => prompt, fun _ => completion, ?_, books⟩
    intro _
    change min (saturatingAdd state.promptTokens state.completionTokens) u32Max = _
    unfold saturatingAdd
    have large : u32Max ≤ u64Max := by decide
    rw [nil_append]
    omega

include bounded in
theorem hears_executeNode (ctx : NodeExecContext) :
    HearsReplies environment (executeNode runtime environment executor node
      ctx) (Counted executor) := by
  induction node using ExecutionNode.induction generalizing ctx with
  | step node ih =>
    cases attached : node.subgraph with
    | none =>
      rw [executeNode_none runtime environment executor attached]
      exact Hears.mono (counted_executeLeaf bounded node ctx) (fun _ _ _ => LeafCounted.counted)
    | some subgraph =>
      rw [executeNode_some runtime environment executor attached]
      refine Hears.mono (hears_executeSubgraph node _ ?_) (fun _ _ _ => SubgraphCounted.counted)
      intro member inside ctx
      obtain ⟨child, within, rfl⟩ := mem_map.mp inside
      exact ih subgraph attached child within ctx

include bounded in
theorem hears_subgraphNode {node : ExecutionNode}
    (attached : node.subgraph = some subgraph) (ctx : NodeExecContext) :
    HearsReplies environment (executeNode runtime environment executor node
      ctx) (SubgraphCounted executor) := by
  rw [executeNode_some runtime environment executor attached]
  apply hears_executeSubgraph
  intro member inside ctx
  obtain ⟨child, -, rfl⟩ := mem_map.mp inside
  exact hears_executeNode bounded child ctx

/-! ## What is reported and what was heard -/

/-- An execution of a node with the replies it has heard. -/
structure NodeRun where
  result : NodeExecutionResult
  effects : List Effect
  heard : List Reply

def runNode (runtime : RuntimeExternals) (environment : Environment)
    (executor : ProviderExecutor) (node : ExecutionNode)
    (ctx : NodeExecContext) (start : Counters) : NodeRun :=
  let ran := Trace.run (executeNode runtime environment executor node ctx) start
  { result := ran.1
    effects := ran.2
    heard := transcript Effect.isChat environment.answer start.chats ran.2 }

/-- The usage of the result is the sum of all usages heard, cut to a `u32`, and
its total is what was recorded. -/
structure Truthful (executor : ProviderExecutor) (run : NodeRun) : Prop where
  prompt : tokensOf promptTokens run.result.usage =
    min (heardTokens promptTokens run.heard) u32Max
  completion : tokensOf completionTokens run.result.usage =
    min (heardTokens completionTokens run.heard) u32Max
  total : tokensOf totalTokens run.result.usage =
    min (heardTokens totalTokens run.heard) u32Max
  recorded : executor.resourceManager = true → tokensOf totalTokens run.result.usage =
      min (bookedTokens run.effects) u32Max

/-- The requests for tools carry nothing of this field, or the answers alone
reach the largest `u32`. -/
def FreeRequests (measure : Usage → Nat) (heard : List Reply) : Prop :=
  requestedTokens measure heard = 0 ∨ u32Max ≤ answeredTokens measure heard

/-- The replies carry nothing. -/
def Unused (heard : List Reply) : Prop :=
  heardTokens promptTokens heard = 0 ∧ heardTokens completionTokens heard = 0 ∧
    heardTokens totalTokens heard = 0

/-- The replies that a subgraph hears lose nothing in its sums. -/
def FreeSums (heard : List Reply) : Prop :=
  FreeRequests promptTokens heard ∧ FreeRequests completionTokens heard ∧
    Capped (heardTokens totalTokens heard)
      (answeredTokens promptTokens heard + answeredTokens completionTokens heard)

/-- What the replies have to be for the usage of this node to be truthful. -/
def Accountable (node : ExecutionNode) (run : NodeRun) : Prop :=
  (node.subgraph = none → FreeRequests promptTokens run.heard ∧
    FreeRequests completionTokens run.heard ∧ FreeRequests totalTokens run.heard) ∧
  (node.subgraph ≠ none → (run.result.state = .succeeded → FreeSums run.heard) ∧
    (run.result.state ≠ .succeeded → Unused run.heard))

theorem truthful_of_books (books : Books executor heard effects) :
    Truthful executor ⟨result, effects, heard⟩ ↔ tokensOf promptTokens result.usage =
          min (heardTokens promptTokens heard) u32Max ∧
        tokensOf completionTokens result.usage =
          min (heardTokens completionTokens heard) u32Max ∧
        tokensOf totalTokens result.usage =
          min (heardTokens totalTokens heard) u32Max := by
  constructor
  · intro truthful
    exact ⟨truthful.prompt, truthful.completion, truthful.total⟩
  · rintro ⟨prompt, completion, total⟩
    refine ⟨prompt, completion, total, ?_⟩
    intro attached
    rw [total, books attached]

theorem freeRequests_iff {measure : Usage → Nat} :
    FreeRequests measure heard ↔
      Capped (heardTokens measure heard) (answeredTokens measure heard) := by
  unfold FreeRequests Capped heardTokens
  omega

theorem LeafCounted.truthful_iff (counted : LeafCounted executor result heard effects) :
    Truthful executor ⟨result, effects, heard⟩ ↔ FreeRequests promptTokens heard ∧
        FreeRequests completionTokens heard ∧ FreeRequests totalTokens heard := by
  have small : tokensOf promptTokens result.usage ≤ u32Max ∧
      tokensOf completionTokens result.usage ≤ u32Max ∧
      tokensOf totalTokens result.usage ≤ u32Max := by
    cases used : result.usage with
    | none => exact ⟨Nat.zero_le _, Nat.zero_le _, Nat.zero_le _⟩
    | some usage => exact counted.small usage used
  rw [truthful_of_books counted.books, freeRequests_iff, freeRequests_iff, freeRequests_iff]
  simp only [counted.reported, Capped] at small ⊢
  omega

theorem SubgraphCounted.truthful_iff (counted : SubgraphCounted executor result heard effects) :
    Truthful executor ⟨result, effects, heard⟩ ↔ (result.state = .succeeded → FreeSums heard) ∧
        (result.state ≠ .succeeded → Unused heard) := by
  rw [truthful_of_books counted.books]
  rcases counted.settled with succeeded | ⟨⟨message, failed⟩, unused⟩
  · simp only [succeeded, ne_eq, not_true_eq_false, forall_const,
      false_implies, and_true, FreeSums, freeRequests_iff, Capped,
      counted.prompt succeeded, counted.completion succeeded, counted.total succeeded]
    omega
  · have stopped : result.state ≠ .succeeded := by
      rw [failed]
      nofun
    have positive : 0 < u32Max := by decide
    simp only [stopped, ne_eq, not_false_eq_true, forall_const, false_implies,
      true_and, Unused, unused, tokensOf, Option.map_none, Option.getD_none]
    omega

end ProviderExecutor

open ProviderExecutor in
/-- The usage that `execute_node` returns is the sum of the usages of all
replies that the node and its sub-nodes got, and agrees with what was recorded,
exactly when no reply with usage is dropped: requests for tools carry none,
a subgraph that fails has heard none, and in a subgraph the totals of the
replies are the sums of their prompts and completions. -/
theorem node_usage_iff (runtime : RuntimeExternals) (environment : Environment)
    (executor : ProviderExecutor) (node : ExecutionNode)
    (ctx : NodeExecContext) (start : Counters) (bounded : environment.Bounded) :
    Truthful executor (runNode runtime environment executor node ctx start) ↔ Accountable node
        (runNode runtime environment executor node ctx start) := by
  unfold Accountable
  cases attached : node.subgraph with
  | none =>
    have leaf : HearsReplies environment (executeNode runtime environment executor node ctx)
        (LeafCounted executor) := by
      rw [executeNode_none runtime environment executor attached]
      exact counted_executeLeaf bounded node ctx
    refine (leaf.run start).truthful_iff.trans ⟨?_, ?_⟩
    · intro free
      exact ⟨fun _ => free, fun nested => (nested rfl).elim⟩
    · intro accountable
      exact accountable.1 rfl
  | some subgraph =>
    have nested : HearsReplies environment (executeNode runtime environment executor node ctx)
        (SubgraphCounted executor) := hears_subgraphNode bounded attached ctx
    refine (nested.run start).truthful_iff.trans ⟨?_, ?_⟩
    · intro free
      refine ⟨?_, fun _ => free⟩
      intro bare
      cases bare
    · intro accountable
      apply accountable.2
      intro bare
      cases bare

namespace UsageSample

open ProviderExecutor

/-- The provider first asks for a tool and then answers. -/
def environment : Environment :=
  { Environment.sample with
    reply := fun number _ =>
      if number = 0 then .ok
        { content := ""
          usage := some ⟨10, 5, 15⟩
          toolCalls := [⟨"call_1", "search", .null⟩]
          toolResults := [] }
      else .ok
        { content := "found"
          usage := some ⟨20, 5, 25⟩
          toolCalls := []
          toolResults := [] } }

def executor : ProviderExecutor :=
  { ProviderExecutor.sample with allowAutoExec := true, resourceManager := true }

def node : ExecutionNode :=
  { id := 1
    kind := .llmGenerate
    strategy := .single
    model := "gpt-4o"
    retryPolicy := ⟨0, 0⟩
    fallback := none
    config := Table.empty
    subgraph := none }

def context : NodeExecContext :=
  { parentOutputs := Table.empty
    graphOutputs := Table.empty }

theorem environment_bounded : environment.Bounded := by
  intro number request response usage replied carried
  by_cases first : number = 0
  · simp only [environment, first, if_true] at replied
    cases replied
    cases carried
    decide
  · simp only [environment, first, if_false] at replied
    cases replied
    cases carried
    decide

/-- The second call of the provider is the first one of this run. -/
theorem plain_answer_truthful :
    Truthful executor (runNode (.sample acceptingExternals []) environment
      executor node context ⟨1, 0, 0, 0⟩) := by
  refine (node_usage_iff _ environment executor node context ⟨1, 0, 0, 0⟩
    environment_bounded).mpr ⟨?_, ?_⟩
  · intro _
    unfold FreeRequests
    decide
  · intro attached
    exact (attached rfl).elim

/-- The 15 tokens of the request for a tool are recorded but not reported. -/
theorem tool_round_dropped :
    ¬ ∀ (runtime : RuntimeExternals) (environment : Environment)
        (executor : ProviderExecutor) (node : ExecutionNode)
        (ctx : NodeExecContext) (start : Counters), environment.Bounded → Truthful executor
        (runNode runtime environment executor node ctx start) := by
  intro truthful
  have total := (truthful (.sample acceptingExternals []) environment executor
    node context ⟨0, 0, 0, 0⟩ environment_bounded).recorded rfl
  revert total
  decide

end UsageSample

end FusionRouter
