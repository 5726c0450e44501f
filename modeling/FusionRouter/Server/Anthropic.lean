import FusionRouter.Runtime.Chat
import FusionRouter.Types.StreamChunk
import FusionRouter.Types.UuidText

/-!
# Anthropic replies

A completed response is converted to an Anthropic message at once, or written
as the events of a stream.  A client puts the message of a stream together from
the events.
-/

namespace FusionRouter

namespace Anthropic

structure Choice where
  index : Nat
  message : ChatMessage
  finishReason : String

structure ChatCompletionResponse where
  id : String
  model : String
  choices : List Choice
  usage : Option Usage

structure AnthropicUsage where
  inputTokens : Nat
  outputTokens : Nat

inductive AnthropicResponseContentBlock where
  | text (text : String)

def AnthropicResponseContentBlock.content :
    AnthropicResponseContentBlock → String
  | .text words => words

structure AnthropicMessagesResponse where
  id : String
  type : String
  role : String
  model : String
  content : List AnthropicResponseContentBlock
  stopReason : Option String
  stopSequence : Option String
  usage : AnthropicUsage

def ChatCompletionResponse.textContent (response : ChatCompletionResponse) :
    String :=
  (response.choices.head?.map (fun choice => choice.message.content)).getD ""

def AnthropicMessagesResponse.from (resp : ChatCompletionResponse)
    (reqModel : String) : AnthropicMessagesResponse :=
  let finishReason := (resp.choices.head?.map Choice.finishReason).getD "stop"
  let stopReason :=
    if finishReason = "length" then "max_tokens" else "end_turn"
  let usage := resp.usage.getD { promptTokens := 0, completionTokens := 0, totalTokens := 0 }
  { id :=
      if resp.id.startsWith "msg_" then resp.id else "msg_" ++ resp.id
    type := "message"
    role := "assistant"
    model := if resp.model.isEmpty then reqModel else resp.model
    content := [.text resp.textContent]
    stopReason := some stopReason
    stopSequence := none
    usage :=
      { inputTokens := usage.promptTokens
        outputTokens := usage.completionTokens } }

/-! ## The stream -/

structure SseEvent where
  event : String
  data : String

def SseEvent.ofJson (name : String) (body : Json) : SseEvent :=
  { event := name, data := body.compact }

def messageStart (msgId model : String) : Json :=
  .object
    [("message", .object [("content", .array []), ("id", .string msgId), ("model", .string model),
        ("role", .string "assistant"), ("stop_reason", .null), ("stop_sequence", .null),
        ("type", .string "message"),
        ("usage", .object [("input_tokens", .number (.unsigned 0)),
            ("output_tokens", .number (.unsigned 0))])]), ("type", .string "message_start")]

def contentBlockStart : Json :=
  .object
    [("content_block", .object [("text", .string ""), ("type", .string "text")]),
      ("index", .number (.unsigned 0)), ("type", .string "content_block_start")]

def ping : Json :=
  .object [("type", .string "ping")]

def contentBlockDelta (text : String) : Json :=
  .object
    [("delta", .object [("text", .string text), ("type", .string "text_delta")]),
      ("index", .number (.unsigned 0)), ("type", .string "content_block_delta")]

def contentBlockStop : Json :=
  .object [("index", .number (.unsigned 0)), ("type", .string "content_block_stop")]

def messageDelta : Json :=
  .object
    [("delta", .object [("stop_reason", .string "end_turn"), ("stop_sequence", .null)]),
      ("type", .string "message_delta"),
      ("usage", .object [("output_tokens", .number (.unsigned 0))])]

def messageStop : Json :=
  .object [("type", .string "message_stop")]

/-- `slice::chunks`, for as many chunks as there can be. -/
def chunksFrom (size : Nat) : Nat → List Char → List (List Char)
  | 0, _ => []
  | _ + 1, [] => []
  | fuel + 1, letter :: letters =>
    (letter :: letters).take size :: chunksFrom size fuel ((letter :: letters).drop size)

/-- The content in pieces of sixteen characters. -/
def contentChunks (content : String) : List String :=
  (chunksFrom 16 content.toList.length content.toList).map String.ofList

/-- The events of one round. -/
def eventsAt (msgId model : String) (chunks : List String) (i : Nat) : List SseEvent :=
  (if i = 0 then
      [.ofJson "message_start" (messageStart msgId model),
        .ofJson "content_block_start" contentBlockStart, .ofJson "ping" ping]
    else []) ++
  (if i < chunks.length then
      [.ofJson "content_block_delta" (contentBlockDelta (chunks.getD i ""))]
    else []) ++
  (if i = chunks.length then
      [.ofJson "content_block_stop" contentBlockStop, .ofJson "message_delta" messageDelta,
        .ofJson "message_stop" messageStop]
    else [])

def anthropicStreamCompletedResponse (response : ChatCompletionResponse)
    (model : String) (requestId : Uuid) : List SseEvent :=
  let msgId := "msg_" ++ Externals.hyphenated requestId
  let chunks := contentChunks response.textContent
  (List.range (chunks.length + 1)).flatMap (eventsAt msgId model chunks)

/-! ## The client -/

structure ClientMessage where
  text : String
  model : Option String
  stopReason : Option String
  inputTokens : Option Nat
  outputTokens : Option Nat
deriving DecidableEq

namespace ClientMessage

def empty : ClientMessage :=
  { text := ""
    model := none
    stopReason := none
    inputTokens := none
    outputTokens := none }

def receiveBody (message : ClientMessage) (body : Json) : ClientMessage :=
  let kind := (body.index "type").asStr
  if kind = some "message_start" then
    { message with
      model := ((body.index "message").index "model").asStr
      inputTokens := (((body.index "message").index "usage").index "input_tokens").asU64 }
  else if kind = some "content_block_delta" then
    { message with
      text := message.text ++ (((body.index "delta").index "text").asStr).getD "" }
  else if kind = some "message_delta" then
    { message with
      stopReason := ((body.index "delta").index "stop_reason").asStr
      outputTokens := ((body.index "usage").index "output_tokens").asU64 }
  else message

def receive (message : ClientMessage) (event : SseEvent) : ClientMessage :=
  match Json.read event.data with
  | none => message
  | some body => message.receiveBody body

def ofEvents (events : List SseEvent) : ClientMessage :=
  events.foldl receive empty

/-- The message of a plain response. -/
def ofResponse (response : AnthropicMessagesResponse) : ClientMessage :=
  { text := String.join
      (response.content.map AnthropicResponseContentBlock.content)
    model := some response.model
    stopReason := response.stopReason
    inputTokens := some response.usage.inputTokens
    outputTokens := some response.usage.outputTokens }

end ClientMessage

end Anthropic

end FusionRouter
