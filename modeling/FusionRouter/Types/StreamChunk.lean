import FusionRouter.AgentState.Store
import FusionRouter.Types.Workflow

/-!
# Chunks of a streamed reply

What one `data:` payload of an event stream says.
-/

namespace FusionRouter

structure ChatStreamChunk where
  content : Option String
  finishReason : Option String
  usage : Option Usage
deriving Repr, DecidableEq

def trim (text : List Char) : List Char :=
  ((text.dropWhile AgentState.isWhiteSpace).reverse.dropWhile AgentState.isWhiteSpace).reverse

def stripPrefix (start text : List Char) : Option (List Char) :=
  if start.isPrefixOf text then some (text.drop start.length) else none

/-- Indexing with a string, which gives null where there is nothing. -/
def Json.index (key : String) (value : Json) : Json :=
  (value.get key).getD .null

/-- Indexing with a number. -/
def Json.item (position : Nat) (value : Json) : Json :=
  (value.asArray.bind (fun items => items[position]?)).getD .null

/-- The error of `serde_json` for a text that is no JSON. -/
structure PayloadError where
  text : List Char
deriving DecidableEq

namespace ChatStreamChunk

def saturatingTokenU32 (value : Option Json) : Nat :=
  ((value.bind Json.asU64).map (fun count => min count (2 ^ 32 - 1))).getD 0

def parseUsage (usage : Option Json) : Option Usage :=
  (usage.bind Json.asObject).map (fun _ =>
    { promptTokens := saturatingTokenU32 (usage.bind (Json.get "prompt_tokens"))
      completionTokens := saturatingTokenU32 (usage.bind (Json.get "completion_tokens"))
      totalTokens := saturatingTokenU32 (usage.bind (Json.get "total_tokens")) })

/-- The chunk of a body; there is none for a keep-alive frame. -/
def ofBody (body : Json) : Option ChatStreamChunk :=
  let choice := (body.index "choices").item 0
  let chunk : ChatStreamChunk :=
    { content := ((choice.index "delta").index "content").asStr
      finishReason := (choice.index "finish_reason").asStr
      usage := parseUsage (body.get "usage") }
  if (chunk.content.getD "").isEmpty && chunk.finishReason.isNone && chunk.usage.isNone then none
  else some chunk

def fromSseData (data : List Char) : Except PayloadError (Option ChatStreamChunk) :=
  let trimmed := trim data
  if trimmed.isEmpty || trimmed == "[DONE]".toList then .ok none
  else
    let json := (stripPrefix "data: ".toList trimmed).getD trimmed
    match JsonValue.fromStr (String.ofList json) with
    | none => .error ⟨json⟩
    | some body => .ok (ofBody body.json)

end ChatStreamChunk

end FusionRouter
