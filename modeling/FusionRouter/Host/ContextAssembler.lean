import FusionRouter.Lib.Utf8
import FusionRouter.Runtime.Chat

/-!
# Context assembly

The messages of a request are cut to the client's `max_tokens`.  System
messages are kept; of the others the newest come first, and the one at which
the budget runs out is cut to what is left.  Token counts are `u32`.
-/

namespace FusionRouter

structure ToolDefinition where
  name : String
deriving Repr, DecidableEq

structure ChatCompletionRequest where
  model : String
  messages : List ChatMessage
  maxTokens : Option Nat
  tools : Option (List ToolDefinition)
deriving Repr, DecidableEq

structure ContextSnapshot where
  messages : List ChatMessage
  tools : List ToolDefinition
  maxTokens : Nat
deriving Repr, DecidableEq

/-- Four bytes of text are one token. -/
def estimateTokens (text : String) : Nat :=
  (text.utf8ByteSize % 2 ^ 32 + 3) / 4

def ChatMessage.isSystem (message : ChatMessage) : Bool :=
  message.role = "system"

structure DefaultContextAssembler where
  maxTokens : Nat
deriving Repr, DecidableEq

namespace DefaultContextAssembler

def new : DefaultContextAssembler :=
  { maxTokens := 4096 }

def totalTokens (messages : List ChatMessage) : Nat :=
  (messages.map (fun message => estimateTokens message.content)).sum % 2 ^ 32

/-- What the other messages may use. -/
def budget (messages : List ChatMessage) (maxTokens : Nat) : Nat :=
  maxTokens - (totalTokens (messages.filter ChatMessage.isSystem) + 5) % 2 ^ 32

/-- What a message takes from the budget.  An estimate is at most `2 ^ 30`, so
this does not wrap. -/
def price (message : ChatMessage) : Nat :=
  estimateTokens message.content + 5

def byteLimit (remaining : Nat) : Nat :=
  remaining * 4 % 2 ^ 32

def truncate (remaining : Nat) (message : ChatMessage) : ChatMessage :=
  { message with
    content := String.ofList (Utf8.takeBytes (byteLimit remaining) message.content.toList) }

/-- The loop over the other messages, the newest first. -/
def trimOthers : Nat → List ChatMessage → List ChatMessage
  | _, [] => []
  | remaining, message :: older =>
    if price message ≤ remaining then
      message :: trimOthers (remaining - price message) older
    else if 10 < remaining then
      truncate remaining message :: trimOthers 0 older
    else trimOthers remaining older

def trimMessages (messages : List ChatMessage) (maxTokens : Nat) : List ChatMessage :=
  if totalTokens messages ≤ maxTokens then messages
  else
    messages.filter ChatMessage.isSystem ++
      (trimOthers (budget messages maxTokens)
        (messages.filter (fun message => !message.isSystem)).reverse).reverse

def limit (assembler : DefaultContextAssembler) (request : ChatCompletionRequest) : Nat :=
  request.maxTokens.getD assembler.maxTokens

def assemble (assembler : DefaultContextAssembler)
    (request : ChatCompletionRequest) : ContextSnapshot :=
  { messages := trimMessages request.messages (assembler.limit request)
    tools := request.tools.getD []
    maxTokens := assembler.limit request }

end DefaultContextAssembler

end FusionRouter
