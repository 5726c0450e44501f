import FusionRouter.Server.Anthropic

/-!
# When a streamed Anthropic reply agrees with the plain one

A client reads the whole text from the stream, however it is cut.  The stream
names the requested model, ends every turn and reports no usage, so it agrees
with the plain reply where that says the same.
-/

namespace FusionRouter

open List Json

namespace Anthropic

/-! ## Reading one event -/

namespace ClientMessage

variable (message : ClientMessage)

theorem receive_ofJson (name : String) (valid : body.NumbersValid) :
    message.receive (.ofJson name body) = message.receiveBody body := by
  unfold receive SseEvent.ofJson
  rw [read_compact valid]

theorem receive_starts (msgId model : String) :
    ((message.receive (.ofJson "message_start" (messageStart msgId model))).receive
        (.ofJson "content_block_start" contentBlockStart)).receive (.ofJson "ping" ping) =
      { message with model := some model, inputTokens := some 0 } := by
  rw [receive_ofJson, receive_ofJson, receive_ofJson]
  · rfl
  all_goals simp [messageStart, contentBlockStart, ping]

theorem receive_contentBlockDelta (text : String) :
    message.receive (.ofJson "content_block_delta" (contentBlockDelta text)) =
      { message with text := message.text ++ text } := by
  rw [receive_ofJson]
  · rfl
  · simp [contentBlockDelta]

theorem receive_stops :
    ((message.receive (.ofJson "content_block_stop" contentBlockStop)).receive
        (.ofJson "message_delta" messageDelta)).receive (.ofJson "message_stop" messageStop) =
      { message with stopReason := some "end_turn", outputTokens := some 0 } := by
  rw [receive_ofJson, receive_ofJson, receive_ofJson]
  · rfl
  all_goals simp [contentBlockStop, messageDelta, messageStop]

end ClientMessage

/-! ## The text -/

theorem flatten_chunksFrom (positive : 0 < size) (fuel : Nat)
    (letters : List Char) (enough : letters.length ≤ fuel) :
    (chunksFrom size fuel letters).flatten = letters := by
  induction fuel generalizing letters with
  | zero => exact (length_eq_zero_iff.mp (Nat.le_zero.mp enough)).symm
  | succ fuel induction =>
    cases letters with
    | nil => rfl
    | cons letter letters =>
      have shorter : ((letter :: letters).drop size).length ≤ fuel := by
        rw [length_drop]
        omega
      rw [chunksFrom, flatten_cons, induction _ shorter, take_append_drop]

theorem join_contentChunks (content : String) : String.join (contentChunks content) = content := by
  rw [← String.toList_inj, String.toList_join, contentChunks, flatMap_map]
  simp only [String.toList_ofList, flatMap_id']
  exact flatten_chunksFrom (by decide) _ _ (Nat.le_refl _)

/-! ## The stream -/

def starts (msgId model : String) : List SseEvent :=
  [.ofJson "message_start" (messageStart msgId model),
    .ofJson "content_block_start" contentBlockStart, .ofJson "ping" ping]

def delta (chunk : String) : SseEvent :=
  .ofJson "content_block_delta" (contentBlockDelta chunk)

def stops : List SseEvent :=
  [.ofJson "content_block_stop" contentBlockStop,
    .ofJson "message_delta" messageDelta, .ofJson "message_stop" messageStop]

theorem flatMap_eventsAt (msgId model : String) (chunks : List String)
    (rounds : Nat) (within : rounds ≤ chunks.length) :
    (List.range rounds).flatMap (eventsAt msgId model chunks) =
      (if rounds = 0 then [] else starts msgId model) ++ (chunks.take rounds).map delta := by
  induction rounds with
  | zero => rfl
  | succ rounds induction =>
    have below : rounds < chunks.length := within
    rw [range_succ, flatMap_append, induction below.le,
      flatMap_singleton, eventsAt, if_pos below, if_neg below.ne,
      append_nil, getD_eq_getElem?_getD, take_add_one,
      getElem?_eq_getElem below, map_append, if_neg (Nat.succ_ne_zero rounds)]
    cases rounds with
    | zero => rfl
    | succ rounds =>
      rw [if_neg (Nat.succ_ne_zero rounds), if_neg (Nat.succ_ne_zero rounds),
        nil_append, append_assoc]
      rfl

theorem stream_eq (response : ChatCompletionResponse) (model : String) (requestId : Uuid) :
    anthropicStreamCompletedResponse response model requestId =
      starts ("msg_" ++ Externals.hyphenated requestId) model ++
        (contentChunks response.textContent).map delta ++ stops := by
  unfold anthropicStreamCompletedResponse
  generalize contentChunks response.textContent = chunks
  dsimp only
  rw [range_succ, flatMap_append, flatMap_eventsAt _ _ _ _ (Nat.le_refl _), take_length,
    flatMap_singleton, eventsAt, if_neg (Nat.lt_irrefl _), if_pos rfl, append_nil]
  cases chunks with
  | nil => rfl
  | cons chunk chunks =>
    have more : ¬ (chunk :: chunks).length = 0 := Nat.succ_ne_zero _
    rw [if_neg more, if_neg more]
    rfl

namespace ClientMessage

theorem foldl_deltas (message : ClientMessage) (chunks : List String) :
    (chunks.map delta).foldl receive message =
      { message with text := message.text ++ String.join chunks } := by
  induction chunks generalizing message with
  | nil =>
    change message = { message with text := message.text ++ "" }
    rw [String.append_empty]
  | cons chunk chunks induction =>
    rw [map_cons, foldl_cons, induction, delta,
      receive_contentBlockDelta, String.join_cons, String.append_assoc]

theorem ofEvents_stream (response : ChatCompletionResponse) (model : String) (requestId : Uuid) :
    ofEvents (anthropicStreamCompletedResponse response model requestId) =
      { text := response.textContent
        model := some model
        stopReason := some "end_turn"
        inputTokens := some 0
        outputTokens := some 0 } := by
  have started := receive_starts empty ("msg_" ++ Externals.hyphenated requestId) model
  rw [ofEvents, stream_eq, foldl_append, foldl_append, starts,
    foldl_cons, foldl_cons, foldl_cons, foldl_nil, started,
    foldl_deltas, join_contentChunks, stops, foldl_cons, foldl_cons,
    foldl_cons, foldl_nil, receive_stops]
  dsimp only [empty]
  rw [String.empty_append]

end ClientMessage

/-- The response names the requested model or none, was not cut off, and has
used no tokens. -/
structure SaysNothingMore (response : ChatCompletionResponse) (model : String) :
    Prop where
  model : response.model = "" ∨ response.model = model
  finishReason : ∀ choice, response.choices.head? = some choice → choice.finishReason ≠ "length"
  usage : ∀ usage, response.usage = some usage → usage.promptTokens = 0 ∧ usage.completionTokens = 0

section Plain

variable (response : ChatCompletionResponse) (model : String)

theorem model_eq_iff :
    (if response.model.isEmpty then model else response.model) = model ↔
      response.model = "" ∨ response.model = model := by
  rw [← String.isEmpty_iff]
  split <;> simp [*]

theorem stopReason_eq_iff :
    (if (response.choices.head?.map Choice.finishReason).getD "stop" = "length"
        then "max_tokens" else "end_turn") = "end_turn" ↔
      ∀ choice, response.choices.head? = some choice → choice.finishReason ≠ "length" := by
  cases response.choices.head? <;> simp

theorem usage_eq_iff :
    ((response.usage.getD ⟨0, 0, 0⟩).promptTokens = 0 ∧
        (response.usage.getD ⟨0, 0, 0⟩).completionTokens = 0) ↔
      ∀ usage, response.usage = some usage →
        usage.promptTokens = 0 ∧ usage.completionTokens = 0 := by
  cases response.usage <;> simp

/-- What a client reads from a plain reply. -/
theorem ofResponse_from :
    ClientMessage.ofResponse (.from response model) =
      { text := response.textContent
        model := some (if response.model.isEmpty then model else response.model)
        stopReason := some
          (if (response.choices.head?.map Choice.finishReason).getD "stop" =
            "length" then "max_tokens" else "end_turn")
        inputTokens := some (response.usage.getD ⟨0, 0, 0⟩).promptTokens
        outputTokens := some (response.usage.getD ⟨0, 0, 0⟩).completionTokens } := by
  unfold ClientMessage.ofResponse AnthropicMessagesResponse.from
  dsimp only
  congr 1

end Plain

/-- The two replies say the same exactly then. -/
theorem stream_agrees_iff (response : ChatCompletionResponse) (model : String) (requestId : Uuid) :
    ClientMessage.ofEvents (anthropicStreamCompletedResponse response model requestId) =
        ClientMessage.ofResponse (.from response model) ↔ SaysNothingMore response model := by
  rw [ClientMessage.ofEvents_stream, ofResponse_from, ClientMessage.mk.injEq]
  simp only [Option.some.injEq, true_and]
  constructor
  · rintro ⟨named, stopped, input, output⟩
    exact ⟨(model_eq_iff response model).mp named.symm,
      (stopReason_eq_iff response).mp stopped.symm,
      (usage_eq_iff response).mp ⟨input.symm, output.symm⟩⟩
  · rintro ⟨named, stopped, used⟩
    obtain ⟨input, output⟩ := (usage_eq_iff response).mpr used
    exact ⟨((model_eq_iff response model).mpr named).symm,
      ((stopReason_eq_iff response).mpr stopped).symm, input.symm, output.symm⟩

def cutOff : ChatCompletionResponse :=
  { id := "1"
    model := "served"
    choices := [{ index := 0
                  message := { role := "assistant", content := "hi" }
                  finishReason := "length" }]
    usage := some { promptTokens := 3, completionTokens := 1, totalTokens := 4 } }

/-- The stream says nothing of the limit, the tokens and the serving model. -/
theorem cutOff_disagrees :
    ClientMessage.ofEvents (anthropicStreamCompletedResponse cutOff "requested" 0) ≠
      ClientMessage.ofResponse (.from cutOff "requested") := by
  rw [ClientMessage.ofEvents_stream, ofResponse_from]
  decide

end Anthropic

end FusionRouter
