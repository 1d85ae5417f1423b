import Colloquy.Proofs.Invoker.Streaming
import Colloquy.Proofs.Request.Reasoning
import Mathlib.Data.List.Permutation
/-!
# The messages of a prepared conversation

A conversation for a Claude model that shows its reasoning passes two reorderings, one before its request is
made and one while the body is written.  What is sent are the messages of the call, one by one, with their
reasoning in front; a conversation that is sent once more goes out as it is.

Results:
* `Invoker.prepare_conversation`: the body of a prepared conversation.
* `Invoker.reasoning_sent_first`: the messages in it.
-/
namespace Colloquy

namespace Request

/-- Messages that are sent as the same ones come to the same body. -/
theorem conversationBody_congr (request : Request) {messages others : List Message} (input : Input)
    (h : sentMessages request.params messages = sentMessages request.params others) :
    { request with input }.conversationBody messages = request.conversationBody others := by
  simp only [conversationBody, toolsValue?, h]
  rfl

theorem get?_messages_conversationBody (request : Request) (messages : List Message) :
    Fields.get? (request.conversationBody messages) "messages"
      = some (.arr ((sentMessages request.params messages).map Message.toJson)) := by
  rw [conversationBody_holds]
  simp [Fields.get?_append, get?_layer, Fields.get?]

end Request

namespace Invoker

def historyOf (invoker : Invoker) (call : Call) (messages : List Message) : List Message :=
  if invoker.target.isClaude && (invoker.paramsOf call).thinkingEnabled then
    thinkingFirstInHistory messages
  else messages

def sentOf (invoker : Invoker) (call : Call) (messages : List Message) : List Message :=
  Request.sentMessages (invoker.paramsOf call) (invoker.historyOf call messages)

def extraOf (invoker : Invoker) (call : Call) (streaming : Bool) : Fields :=
  if streaming then
    Fields.merge (invoker.paramsOf call).extra (streamingFields invoker.provider call.stops)
  else (invoker.paramsOf call).extra

section

variable {invoker : Invoker} {call : Call} {messages : List Message}

theorem inputOf_conversation (hi : call.input = .conversation messages) :
    invoker.inputOf call = .conversation (invoker.historyOf call messages) := by
  simp only [inputOf, historyOf, hi]
  split <;> rfl

/-- Under a key that streaming has no use for, the request has what the call has. -/
theorem get?_extraOf {key : String} (hk : key ∉ (streamingFields invoker.provider call.stops).map Prod.fst)
    (streaming : Bool) :
    Fields.get? (invoker.extraOf call streaming) key = Fields.get? (invoker.paramsOf call).extra key := by
  cases streaming with
  | false => rfl
  | true =>
    rw [extraOf, if_pos rfl, Fields.get?_merge (streamingFields_distinct _ _), Fields.get?_eq_none hk,
      Option.none_or]

theorem get?_thinking_extraOf (invoker : Invoker) (call : Call) (streaming : Bool) :
    Fields.get? (invoker.extraOf call streaming) "thinking"
      = Fields.get? (invoker.paramsOf call).extra "thinking" :=
  get?_extraOf (thinking_not_mem_streamingFields _ _) streaming

theorem extraOf_sorted (h : (invoker.paramsOf call).extra.Sorted) (streaming : Bool) :
    (invoker.extraOf call streaming).Sorted := by
  cases streaming with
  | false => exact h
  | true => exact h.merge _

/-- A prepared body is that of the request with its free-form parameters, streaming or not. -/
theorem exists_prepared_fields {streaming : Bool} {prepared : Prepared}
    (h : invoker.prepare call streaming = .ok prepared) :
    ∃ fields, ((invoker.requestOf call).withExtra (invoker.extraOf call streaming)).fields = .ok fields ∧
      prepared = invoker.preparedOf call (.obj fields) := by
  cases streaming with
  | false => exact exists_plain_fields h
  | true => exact exists_streamed_fields h

/-- A conversation can always be prepared for the provider that speaks messages. -/
theorem prepare_conversation (hp : invoker.provider = .anthropic)
    (hi : call.input = .conversation messages) (streaming : Bool) :
    invoker.prepare call streaming = .ok (invoker.preparedOf call
      (.obj (((invoker.requestOf call).withExtra (invoker.extraOf call streaming)).conversationBody
        (invoker.historyOf call messages)))) := by
  have fields (extra : Fields) : ((invoker.requestOf call).withExtra extra).fields
      = .ok (((invoker.requestOf call).withExtra extra).conversationBody
        (invoker.historyOf call messages)) := by
    simp only [Request.fields, Request.withExtra, requestOf, hp, inputOf_conversation hi,
      Provider.profile]
  cases streaming with
  | false => exact prepare_plain (fields (invoker.paramsOf call).extra)
  | true =>
    refine prepare_streamed ?_ (fields _)
    rw [streamingRequestOf_fails_iff, hp]
    rintro (h | ⟨-, h⟩) <;> cases h

theorem sentOf_of_not_thinking (h : (invoker.paramsOf call).thinkingEnabled = false) :
    invoker.sentOf call messages = messages := by
  simp [sentOf, historyOf, Request.sentMessages, h]

/-- For a Claude model that shows its reasoning, both passes are made. -/
theorem sentOf_of_thinking (hc : invoker.target.isClaude = true)
    (h : (invoker.paramsOf call).thinkingEnabled = true) :
    invoker.sentOf call messages = reasoningFirst messages := by
  simp [sentOf, historyOf, Request.sentMessages, hc, h, reasoningFirst]

/-- The body of a prepared conversation has the messages as they are sent. -/
theorem exists_prepared_conversation (hp : invoker.provider = .anthropic)
    (hi : call.input = .conversation messages) (streaming : Bool) :
    ∃ prepared, invoker.prepare call streaming = .ok prepared ∧
      prepared.body.get? "messages"
        = some (.arr ((invoker.sentOf call messages).map Message.toJson)) := by
  refine ⟨_, prepare_conversation hp hi streaming, ?_⟩
  show Fields.get? (Request.conversationBody _ _) "messages" = _
  rw [Request.get?_messages_conversationBody,
    Request.sentMessages_withExtra (get?_thinking_extraOf invoker call streaming)]
  rfl

/-- Conversations that are sent with the same messages are prepared as the same one. -/
theorem prepare_congr {others : List Message} (hp : invoker.provider = .anthropic)
    (hi : call.input = .conversation messages)
    (hs : invoker.sentOf call others = invoker.sentOf call messages) (streaming : Bool) :
    invoker.prepare { call with input := .conversation others } streaming
      = invoker.prepare call streaming := by
  have thinking := get?_thinking_extraOf invoker call streaming
  have same : invoker.preparedOf { call with input := .conversation others }
      = invoker.preparedOf call := by
    funext body
    simp only [preparedOf, decodeOptionsOf, hi]
    rfl
  rw [prepare_conversation hp hi, prepare_conversation hp rfl, same]
  congr 3
  refine Request.conversationBody_congr ((invoker.requestOf call).withExtra _)
    (invoker.inputOf { call with input := .conversation others }) ?_
  rw [Request.sentMessages_withExtra thinking, Request.sentMessages_withExtra thinking]
  exact hs

end

/-- The messages of a prepared conversation.  They are in its body, streaming or not; without reasoning, all
of them are sent as they are.  For a Claude model that shows its reasoning they are the messages of the call,
each in its place and with the same blocks: reasoning stands first in every turn behind the first message,
and in that one too if it is all that a tool answers to.  Prepared once more, they come to the same. -/
theorem reasoning_sent_first (invoker : Invoker) (call : Call) (messages : List Message)
    (hp : invoker.provider = .anthropic) (hi : call.input = .conversation messages) :
    ∃ sent : List Message,
      (∀ streaming, ∃ prepared, invoker.prepare call streaming = .ok prepared ∧
        prepared.body.get? "messages" = some (.arr (sent.map Message.toJson))) ∧
      ((invoker.paramsOf call).thinkingEnabled = false → sent = messages) ∧
      (invoker.target.isClaude = true → (invoker.paramsOf call).thinkingEnabled = true →
        List.Forall₂ Message.Rearranged messages sent ∧
        (∀ turn ∈ sent.tail, turn.ThinksFirst) ∧
        (IsToolExchange messages → ∀ turn ∈ sent, turn.ThinksFirst) ∧
        ∀ streaming, invoker.prepare { call with input := .conversation sent } streaming
          = invoker.prepare call streaming) := by
  refine ⟨invoker.sentOf call messages, exists_prepared_conversation hp hi, sentOf_of_not_thinking,
    fun hc ht => ?_⟩
  have sent (messages : List Message) : invoker.sentOf call messages = reasoningFirst messages :=
    sentOf_of_thinking hc ht
  rw [sent]
  refine ⟨reasoningFirst_rearranged messages, reasoningFirst_thinksFirst messages,
    reasoningFirst_exchange_thinksFirst, prepare_congr hp hi ?_⟩
  rw [sent, sent, reasoningFirst_reasoningFirst]

/-- A tool answers the first message, which is sent with its reasoning in front. -/
theorem reasoning_sent_first_exchange :
    let invoker : Invoker :=
      ⟨⟨"anthropic.claude-3-7-sonnet-20250219-v1:0", none, none⟩, .anthropic, ⟨none, none, []⟩, .none⟩
    let thinking := ContentBlock.thinking "which city?" "c2ln"
    let search := ContentBlock.toolUse "t1" "weather" (.obj [])
    let answer : Message := ⟨.user, .blocks [.toolResult "t1" none none]⟩
    let call : Call := ⟨.conversation [⟨.assistant, .blocks [search, thinking]⟩, answer], none, none, [],
      [("thinking", .obj [("type", .str "enabled")])]⟩
    ∃ prepared, invoker.prepare call true = .ok prepared ∧
      prepared.body.get? "messages" = some (.arr
        ([⟨.assistant, .blocks [thinking, search]⟩, answer].map Message.toJson)) := by
  intro invoker thinking search answer call
  obtain ⟨sent, prepared, -, claude⟩ :=
    reasoning_sent_first invoker call [⟨.assistant, .blocks [search, thinking]⟩, answer] rfl rfl
  obtain ⟨rearranged, -, exchange, -⟩ := claude (by decide) (by decide)
  have first := exchange ⟨_, _, rfl, rfl, rfl⟩
  obtain ⟨⟨role, content⟩, _, turn, ha, rfl⟩ := List.forall₂_cons_left_iff.mp rearranged
  obtain ⟨other, _, same, hn, rfl⟩ := List.forall₂_cons_left_iff.mp ha
  obtain rfl := List.forall₂_nil_left_iff.mp hn
  obtain rfl := same.user rfl
  obtain rfl := turn.role
  obtain ⟨blocks, rfl, perm, -, -⟩ := turn.blocks _ rfl
  rcases List.perm_pair.mp perm with rfl | rfl
  · exact absurd (first _ List.mem_cons_self rfl _ rfl rfl) (by decide)
  · exact prepared true

end Invoker

end Colloquy
