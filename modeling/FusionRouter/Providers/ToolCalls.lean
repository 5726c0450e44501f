import Mathlib.Algebra.Ring.Int.Defs
import FusionRouter.Runtime.Chat
import FusionRouter.Types.StreamChunk

/-!
# Tool calls of a response body

The arguments of a call are a text that encodes an object, or the object itself.
Only the text is read; arguments that are an object are replaced by the empty
one.
-/

namespace FusionRouter

namespace ToolCall

/-- The message of a body: of one of its choices, or its own. -/
def holder (body : Json) (container : String) (choiceIndex : Int) : Json :=
  if container = "choices" then
    ((((body.index container).asArray).bind
      (fun choices => choices[(choiceIndex % 2 ^ 64).toNat]?)).map
        (Json.index "message")).getD .null
  else body.index container

def argumentsOf (entry : Json) : Json :=
  (entry.index "function").index "arguments"

/-- The arguments are this object or a text that encodes it, at any depth. -/
inductive Encodes (arguments : Json) : Json → Prop where
  | plain (fields : List (String × Json))
      (same : arguments = .object fields) : Encodes arguments (.object fields)
  | text (text : String) (value : Json) (fields : List (String × Json))
      (same : arguments = .string text) (read : Json.read text = some value)
      (object : value.normalize = .object fields) : Encodes arguments (.object fields)

structure Asks (entry : Json) (call : ToolCall) : Prop where
  name : (entry.index "function").index "name" = .string call.name
  id : call.id = (entry.index "id").asStr.getD ""
  arguments : Encodes (argumentsOf entry) call.arguments

namespace ToolCallSample

def entry (arguments : Json) : Json :=
  .object [("function", .object [("name", .string "weather"), ("arguments", arguments)])]

/-- A body with one call, as Ollama sends it. -/
def body (arguments : Json) : Json :=
  .object [("message", .object [("tool_calls", .array [entry arguments])])]

end ToolCallSample

open ToolCallSample

end ToolCall

end FusionRouter
