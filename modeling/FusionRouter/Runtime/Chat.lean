import FusionRouter.Types.Workflow

/-!
# Chat requests

What the runtime exchanges with a chat provider, and how it builds a request
from the config of a node and the outputs of its parents.
-/

namespace FusionRouter

structure ToolCall where
  id : String
  name : String
  arguments : Json

structure ChatMessage where
  role : String
  content : String
deriving Repr, DecidableEq

/-- A request.  The temperature is kept as the number of the config; the code
rounds it to an `f32`. -/
structure ChatRequest where
  model : String
  messages : List ChatMessage
  temperature : Option JsonNumber
  maxTokens : Option Nat
deriving Repr, DecidableEq

structure ChatResponse where
  content : String
  usage : Option Usage
  toolCalls : List ToolCall
  toolResults : List Json

/-- What the runtime takes from `serde_json` and from the standard library. -/
structure RuntimeExternals where
  externals : Externals
  /-- The error with which a list of messages is rejected. -/
  messagesError : Json → String
  /-- The entries of a table, in the order in which it is walked. -/
  entries : Table Uuid Json → List (Uuid × Json)
  /-- `Display` of the cost estimate of a node, 0.001 when there is none. -/
  costText : Option JsonNumber → String

/-- A sample: outputs are walked in the order of the listed ids. -/
def RuntimeExternals.sample (externals : Externals) (ids : List Uuid) :
    RuntimeExternals :=
  { externals := externals
    messagesError := fun _ => ""
    entries := fun table => ids.filterMap (fun id => (table id).map (fun output => (id, output)))
    costText := fun _ => "0.001" }

namespace Json

/-- A number of any kind; `as_f64` of it is never missing. -/
def asNumber : Json → Option JsonNumber
  | .number value => some value
  | _ => none

/-- `Deserialize` of a message: an object with both fields, or a pair. -/
def asMessage : Json → Option ChatMessage
  | .object fields =>
    match (fields.lookup "role").bind asStr, (fields.lookup "content").bind asStr with
    | some role, some content => some { role := role, content := content }
    | _, _ => none
  | .array [.string role, .string content] =>
    some { role := role, content := content }
  | _ => none

def asMessages : Json → Option (List ChatMessage)
  | .array items => items.mapM asMessage
  | _ => none

end Json

namespace ProviderExecutor

def judgePrompt : String :=
  "You are a judge evaluating the quality and correctness of responses. " ++
  "Assess the provided answers critically and select the best one, " ++
  "explaining your reasoning."

def reflectionPrompt : String :=
  "You are a reflective reviewer. Analyze the previous response, identify " ++
  "potential issues, and provide an improved version."

def systemPrompt (node : ExecutionNode) : Option String :=
  match node.kind with
  | .llmJudge => some judgePrompt
  | _ =>
    match node.strategy with
    | .reflection => some reflectionPrompt
    | _ => none

/-- Put the prompt of the node in front, unless there is a system message. -/
def withSystemPrompt (node : ExecutionNode) (messages : List ChatMessage) : List ChatMessage :=
  if messages.any (fun message => message.role = "system") then messages
  else
    match systemPrompt node with
    | some prompt => { role := "system", content := prompt } :: messages
    | none => messages

variable (runtime : RuntimeExternals)

/-- An output of a parent, marked as untrusted. -/
def contextMessage (parent : Uuid × Json) : ChatMessage :=
  { role := "user"
    content := "Context from parent node " ++ runtime.externals.uuidText parent.1 ++
      ":\n<<BEGIN_UNTRUSTED_CONTEXT>>\n" ++ runtime.externals.jsonText parent.2 ++
      "\n<<END_UNTRUSTED_CONTEXT>>" }

def contextMessages (node : ExecutionNode) (ctx : NodeExecContext) : List ChatMessage :=
  match node.kind with
  | .llmJudge | .llmReview | .llmGenerate =>
    (runtime.entries ctx.parentOutputs).map (contextMessage runtime)
  | _ => []

def configuredMessages (node : ExecutionNode) : Except String (List ChatMessage) :=
  match node.config "messages" with
  | none => .ok []
  | some value =>
    match value.asMessages with
    | some messages => .ok messages
    | none => .error ("node " ++ runtime.externals.uuidText node.id ++
        ": invalid 'messages' config: " ++ runtime.messagesError value)

def buildRequest (node : ExecutionNode) (ctx : NodeExecContext) : Except String ChatRequest :=
  match configuredMessages runtime node with
  | .error error => .error error
  | .ok messages =>
    .ok
      { model := node.model
        messages := withSystemPrompt node messages ++ contextMessages runtime node ctx
        temperature := (node.config "temperature").bind Json.asNumber
        maxTokens := ((node.config "max_tokens").bind Json.asU64).map (· % 2 ^ 32) }

end ProviderExecutor

end FusionRouter
