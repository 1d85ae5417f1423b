import Colloquy.Proofs.Stream.Shown
import Colloquy.Response.Parser
import Mathlib.Data.List.Forall2
/-!
# A streamed message and the complete one agree

The same message can be read in two ways: from the body of a complete response, and from the events of a
stream.

Results:
* `StreamedMessage.reply_of_completedBy`: what a complete body says.
* `StreamedMessage.stream_agrees_with_reply`: the stream of the message shows the same.
-/
namespace Colloquy

/-! ## Complete bodies -/

namespace MessageBlock

/-- Whether a value is a block of a complete body. -/
def WrittenAs (value : Json) : MessageBlock → Prop
  | text t => value.get? "type" = some (.str "text") ∧ value.get? "text" = some (.str t)
  | thinking t s =>
    value.get? "type" = some (.str "thinking") ∧ value.get? "thinking" = some (.str t) ∧
      value.get? "signature" = some (.str s)
  | toolUse id name input =>
    value.get? "type" = some (.str "tool_use") ∧ value.get? "id" = some (.str id) ∧
      value.get? "name" = some (.str name) ∧ value.get? "input" = some input

theorem WrittenAs.ofJson? {value : Json} {block : MessageBlock} (h : block.WrittenAs value) :
    ResponseBlock.ofJson? value = some block.response := by
  cases block with
  | text t =>
    obtain ⟨ht, hx⟩ := h
    obtain ⟨fields, rfl⟩ := Json.exists_fields ht
    simp only [Json.get?] at hx
    simp [ResponseBlock.ofJson?, Json.tagged?_obj ht, ResponseBlock.ofFields?, Record.required, hx,
      Json.asString?, response]
  | thinking t s =>
    obtain ⟨ht, hx, hs⟩ := h
    obtain ⟨fields, rfl⟩ := Json.exists_fields ht
    simp only [Json.get?] at hx hs
    simp [ResponseBlock.ofJson?, Json.tagged?_obj ht, ResponseBlock.ofFields?, Record.defaulted, hx,
      hs, Json.asString?, response]
  | toolUse id name input =>
    obtain ⟨ht, hi, hn, hx⟩ := h
    obtain ⟨fields, rfl⟩ := Json.exists_fields ht
    simp only [Json.get?] at hi hn hx
    simp [ResponseBlock.ofJson?, Json.tagged?_obj ht, ResponseBlock.ofFields?, Record.required,
      Record.defaulted, hi, hn, hx, Json.asString?, response]

end MessageBlock

namespace StreamedMessage

/-- Whether a body is that of a complete response with the blocks of a message. -/
def CompletedBy (body : Json) (message : StreamedMessage) : Prop :=
  body.get? "completion" = none ∧
    ∃ items, body.get? "content" = some (.arr items) ∧
      List.Forall₂ (fun item streamed => streamed.block.WrittenAs item) items message.blocks

/-- What the blocks of a message say. -/
def answer (message : StreamedMessage) : Answer :=
  .ofBlocks (message.blocks.map fun streamed => streamed.block.response)

theorem mapM_blocks {items : List Json} {blocks : List StreamedBlock}
    (h : List.Forall₂ (fun item streamed => streamed.block.WrittenAs item) items blocks) :
    items.mapM ResponseBlock.ofJson? = some (blocks.map fun streamed => streamed.block.response) := by
  induction h with
  | nil => rfl
  | cons hw _ ih =>
    rw [List.mapM_cons, MessageBlock.WrittenAs.ofJson? hw, ih]
    rfl

theorem ofBody_completedBy {body : Json} {message : StreamedMessage} (h : message.CompletedBy body) :
    Answer.ofBody .anthropic body = .ok message.answer := by
  obtain ⟨hn, items, hc, hf⟩ := h
  have hl : (Json.arr items).list? ResponseBlock.ofJson?
      = some (message.blocks.map fun streamed => streamed.block.response) := mapM_blocks hf
  show Answer.ofConversation body = _
  simp only [Answer.ofConversation, hn, hc, hl]
  rfl

theorem reply_of_completedBy {bytes : ByteArray} {body : Json} {headers : List Header} {reply : Reply}
    {message : StreamedMessage} (hb : Json.ofBytes? bytes = some body) (hc : message.CompletedBy body)
    (hr : Reply.parse .anthropic bytes headers = .ok reply) :
    message.answer = ⟨reply.text, reply.thinking, reply.toolCalls⟩ := by
  simp only [Reply.parse, hb, ofBody_completedBy hc] at hr
  cases hu : Usage.ofHeaders headers with
  | error failure => rw [hu] at hr; cases hr
  | ok usage => rw [hu] at hr; cases hr; rfl

/-- The first reasoning that blocks say is that of the first thinking block. -/
theorem findSome?_thinking (blocks : List StreamedBlock) :
    blocks.findSome? (fun streamed => streamed.block.response.thinking?)
      = (blocks.find? fun streamed => streamed.block.isThinking).map
        fun streamed => streamed.block.reasoning := by
  induction blocks with
  | nil => rfl
  | cons first rest ih =>
    rw [List.findSome?_cons, List.find?_cons]
    cases hb : first.block with
    | thinking t s => simp [MessageBlock.response, ResponseBlock.thinking?, MessageBlock.isThinking,
        MessageBlock.reasoning, hb]
    | text t => exact ih
    | toolUse id name input => exact ih

/-! ## Agreement -/

/-- Streamed and complete, a message says the same.  A source carries its pieces, cut in whatever way, with
keep-alives and empty events anywhere; a body that is accepted holds its blocks.  Then the stream hands out
chunks only and no failure, whether or not text comes as plain text.  The text of its chunks is that of
the reply; the calls that they make are complete and those of the reply; the reasoning and the signature
under the index of a block are those of the block, and for the first thinking block those of the reply. -/
theorem stream_agrees_with_reply {message : StreamedMessage} {source : List SourceItem}
    {bytes : ByteArray} {body : Json} {headers : List Header} {reply : Reply} (coerceToText : Bool)
    (hs : Carries message.pieces source) (hb : Json.ofBytes? bytes = some body)
    (hc : message.CompletedBy body) (hr : Reply.parse .anthropic bytes headers = .ok reply) :
    ∃ stream chunks,
      StreamDecoder.start .anthropic (.messages coerceToText) source = .ok stream ∧
      (∀ n, (stream.sighting n).outcome = (chunks.map .ok)[n]?) ∧
      shownText chunks = reply.text ∧
      (chunks.foldl ToolCalls.add .empty).finish = .ok reply.toolCalls ∧
      (∀ streamed ∈ message.blocks,
        shownReasoning streamed.index chunks = streamed.block.reasoning) ∧
      reply.thinking = (message.blocks.find? fun streamed => streamed.block.isThinking).map
        fun streamed => shownReasoning streamed.index chunks := by
  obtain ⟨usage, hu⟩ := hs.items coerceToText
  have ha := reply_of_completedBy hb hc hr
  have hown : ∀ streamed ∈ message.blocks,
      shownReasoning streamed.index (message.chunks coerceToText usage) = streamed.block.reasoning :=
    fun _ hm => message.shownReasoning_chunks coerceToText usage hm
  refine ⟨.opened (.messages coerceToText) source, message.chunks coerceToText usage,
    StreamDecoder.start_eq rfl source, ?_, ?_, ?_, hown, ?_⟩
  · intro n
    rw [StreamDecoder.outcome_opened, StreamDecoder.items_opened, hu]
    rfl
  · have ht : reply.text = message.answer.text := by rw [ha]
    rw [ht, message.shownText_chunks, answer, Answer.ofBlocks, List.map_map]
    rfl
  · have ht : reply.toolCalls = message.answer.toolCalls := by rw [ha]
    rw [ht, message.finish_chunks, answer, Answer.ofBlocks, List.filterMap_map]
    rfl
  · have ht : reply.thinking = message.answer.thinking := by rw [ha]
    rw [ht, answer, Answer.ofBlocks, List.findSome?_map]
    refine (findSome?_thinking message.blocks).trans (Option.map_congr fun streamed hf => ?_)
    exact (hown streamed (List.mem_of_find?_eq_some hf)).symm

/-- A text cut in two, with a keep-alive between, and a tool call without arguments. -/
theorem stream_agrees_with_reply_call :
    ∃ (message : StreamedMessage) (source : List SourceItem) (bytes : ByteArray) (body : Json)
      (reply : Reply) (stream : StreamDecoder) (chunks : List Chunk),
      Carries message.pieces source ∧ Json.ofBytes? bytes = some body ∧ message.CompletedBy body ∧
      Reply.parse .anthropic bytes [] = .ok reply ∧
      StreamDecoder.start .anthropic (.messages false) source = .ok stream ∧
      (∀ n, (stream.sighting n).outcome = (chunks.map .ok)[n]?) ∧
      shownText chunks = "Hi" ∧
      (chunks.foldl ToolCalls.add .empty).finish = .ok [⟨"t", "now", .obj []⟩] ∧
      reply.thinking = none := by
  let message : StreamedMessage := {
    blocks := [
      ⟨0, .text "Hi", [.text "H", .text "i"], ["H", "i"], rfl, rfl⟩,
      ⟨1, .toolUse "t" "now" (.obj []), [], by decide, by decide, [], rfl, .inr ⟨rfl, rfl⟩⟩]
    stopReason := none
    stopSequence := none
    indexed := by
      intro i block h
      match i with
      | 0 => cases h; rfl
      | 1 => cases h; rfl
      | i + 2 => cases h }
  have hs : Carries message.pieces [
      .event "\x7b\"type\":\"message_start\"\x7d".toUTF8,
      .event ("\x7b\"type\":\"content_block_start\",\"index\":0,"
        ++ "\"content_block\":\x7b\"type\":\"text\",\"text\":\"\"\x7d\x7d").toUTF8,
      .event ("\x7b\"type\":\"content_block_delta\",\"index\":0,"
        ++ "\"delta\":\x7b\"type\":\"text_delta\",\"text\":\"H\"\x7d\x7d").toUTF8,
      .event "\x7b\"type\":\"ping\"\x7d".toUTF8,
      .event ("\x7b\"type\":\"content_block_delta\",\"index\":0,"
        ++ "\"delta\":\x7b\"type\":\"text_delta\",\"text\":\"i\"\x7d\x7d").toUTF8,
      .event "\x7b\"type\":\"content_block_stop\",\"index\":0\x7d".toUTF8,
      .empty,
      .event ("\x7b\"type\":\"content_block_start\",\"index\":1,\"content_block\":"
        ++ "\x7b\"type\":\"tool_use\",\"id\":\"t\",\"name\":\"now\",\"input\":\x7b\x7d\x7d\x7d").toUTF8,
      .event "\x7b\"type\":\"content_block_stop\",\"index\":1\x7d".toUTF8,
      .event "\x7b\"type\":\"message_delta\",\"delta\":\x7b\x7d\x7d".toUTF8,
      .event "\x7b\"type\":\"message_stop\"\x7d".toUTF8] :=
    .piece _ _ _ _ _ rfl rfl <|
    .piece _ _ _ _ _ rfl ⟨rfl, rfl, _, rfl, rfl, rfl⟩ <|
    .piece _ _ _ _ _ rfl ⟨rfl, rfl, _, rfl, rfl, rfl⟩ <|
    .ping _ _ _ _ rfl rfl <|
    .piece _ _ _ _ _ rfl ⟨rfl, rfl, _, rfl, rfl, rfl⟩ <|
    .piece _ _ _ _ _ rfl ⟨rfl, rfl⟩ <|
    .empty _ _ <|
    .piece _ _ _ _ _ rfl ⟨rfl, rfl, _, rfl, rfl, rfl, rfl, rfl⟩ <|
    .piece _ _ _ _ _ rfl ⟨rfl, rfl⟩ <|
    .piece _ _ _ _ _ rfl ⟨rfl, _, rfl, rfl, rfl⟩ <|
    .messageStop _ _ _ rfl rfl
  let bytes := ("\x7b\"content\":[\x7b\"type\":\"text\",\"text\":\"Hi\"\x7d,"
    ++ "\x7b\"type\":\"tool_use\",\"id\":\"t\",\"name\":\"now\",\"input\":\x7b\x7d\x7d]\x7d").toUTF8
  let body : Json := .obj [("content", .arr [
    .obj [("text", .str "Hi"), ("type", .str "text")],
    .obj [("id", .str "t"), ("input", .obj []), ("name", .str "now"), ("type", .str "tool_use")]])]
  have hb : Json.ofBytes? bytes = some body := by decide +kernel
  have hc : message.CompletedBy body :=
    ⟨rfl, _, rfl, .cons ⟨rfl, rfl⟩ <| .cons ⟨rfl, rfl, rfl, rfl⟩ .nil⟩
  have hr : Reply.parse .anthropic bytes [] = .ok
      ⟨"Hi", none, [⟨"t", "now", .obj []⟩], body, ⟨0, 0, 0, 0, 0⟩, none⟩ := by
    simp only [Reply.parse, hb]
    decide +kernel
  obtain ⟨stream, chunks, hstart, houtcome, htext, hcalls, -, hthinking⟩ :=
    stream_agrees_with_reply false hs hb hc hr
  exact ⟨message, _, bytes, body, _, stream, chunks, hs, hb, hc, hr, hstart, houtcome, htext, hcalls,
    hthinking⟩

end StreamedMessage

end Colloquy
