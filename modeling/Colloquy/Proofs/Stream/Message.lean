import Colloquy.Proofs.Stream.Fragments
import Colloquy.Proofs.Stream.Kind
import Colloquy.Proofs.Stream.Run
/-!
# A message and its streams

A message is a list of content blocks.  Streamed, it starts, opens its blocks one after the other, adds to
each by deltas, closes it, states why it stopped and ends; keep-alives and events that carry nothing may
stand anywhere between.  A block can be cut into deltas in any way that gives its strings back.  How a
piece is written is left open as far as the protocol leaves it open: an event is any object with the
members that make it that piece, whatever else it holds and however its text is laid out.

Results:
* `Spells.decode`: the chunks that an event of a message becomes.
* `Carries.items`: all items of a source that carries a message.
-/
namespace Colloquy

/-- A content block of a message. -/
inductive MessageBlock where
  | text (text : String)
  | thinking (thinking signature : String)
  | toolUse (id name : String) (input : Json)

namespace WireDelta

/-- What a delta adds to the text of its block. -/
def textPart : WireDelta → String
  | text t => t
  | inputJson _ | thinking _ | signature _ | other => ""

/-- What a delta adds to the arguments of its call. -/
def inputPart : WireDelta → String
  | inputJson t => t
  | text _ | thinking _ | signature _ | other => ""

/-- What a delta adds to the reasoning of its block. -/
def thinkingPart : WireDelta → String
  | thinking t => t
  | text _ | inputJson _ | signature _ | other => ""

/-- What a delta adds to the signature of its block. -/
def signaturePart : WireDelta → String
  | signature s => s
  | text _ | inputJson _ | thinking _ | other => ""

/-- Whether a delta belongs to a block of reasoning. -/
def isReasoning : WireDelta → Bool
  | thinking _ | signature _ => true
  | text _ | inputJson _ | other => false

end WireDelta

namespace MessageBlock

/-- Whether some deltas add up to a block.  A tool call has an id and a name. -/
def CutInto (deltas : List WireDelta) : MessageBlock → Prop
  | text t => ∃ parts, deltas = List.map .text parts ∧ String.join parts = t
  | thinking t s =>
    (∀ delta ∈ deltas, delta.isReasoning = true) ∧
      String.join (deltas.map WireDelta.thinkingPart) = t ∧
      String.join (deltas.map WireDelta.signaturePart) = s
  | toolUse id name input =>
    id ≠ "" ∧ name ≠ "" ∧
      ∃ parts, deltas = List.map .inputJson parts ∧ StatesArguments (String.join parts) input

/-- Whether a value opens a block: it is of the same kind and still empty. -/
def OpenedBy (value : Json) : MessageBlock → Prop
  | text _ => value.get? "type" = some (.str "text") ∧ value.get? "text" = some (.str "")
  | thinking _ _ =>
    value.get? "type" = some (.str "thinking") ∧ value.get? "thinking" = some (.str "")
  | toolUse id name _ =>
    value.get? "type" = some (.str "tool_use") ∧ value.get? "id" = some (.str id) ∧
      value.get? "name" = some (.str name) ∧ value.get? "input" = some (.obj [])

end MessageBlock

/-- A block as it is streamed: under an index, and cut into deltas. -/
structure StreamedBlock where
  index : UInt32
  block : MessageBlock
  deltas : List WireDelta
  cut : block.CutInto deltas

/-- A message as it is streamed.  The index of a block is its place. -/
structure StreamedMessage where
  blocks : List StreamedBlock
  stopReason : Option String
  stopSequence : Option String
  indexed : ∀ (i : Nat) (block : StreamedBlock), blocks[i]? = some block → block.index.toNat = i

/-- A piece of a streamed message. -/
inductive MessagePiece where
  | messageStart
  | blockStart (index : UInt32) (block : MessageBlock)
  | blockDelta (index : UInt32) (delta : WireDelta)
  | blockStop (index : UInt32)
  | messageDelta (stopReason stopSequence : Option String)

namespace StreamedBlock

def pieces (streamed : StreamedBlock) : List MessagePiece :=
  .blockStart streamed.index streamed.block ::
    (streamed.deltas.map (.blockDelta streamed.index) ++ [.blockStop streamed.index])

end StreamedBlock

namespace StreamedMessage

/-- The pieces of a message in order, up to its end. -/
def pieces (message : StreamedMessage) : List MessagePiece :=
  .messageStart :: (message.blocks.flatMap StreamedBlock.pieces
    ++ [.messageDelta message.stopReason message.stopSequence])

end StreamedMessage

/-- Whether a value is a delta as it is written. -/
def SpellsDelta (value : Json) : WireDelta → Prop
  | .text t => value.get? "type" = some (.str "text_delta") ∧ value.get? "text" = some (.str t)
  | .inputJson t =>
    value.get? "type" = some (.str "input_json_delta") ∧ value.get? "partial_json" = some (.str t)
  | .thinking t =>
    value.get? "type" = some (.str "thinking_delta") ∧ value.get? "thinking" = some (.str t)
  | .signature s =>
    value.get? "type" = some (.str "signature_delta") ∧ value.get? "signature" = some (.str s)
  | .other => False

/-- Whether a value is the event of a piece of a message. -/
def Spells (value : Json) : MessagePiece → Prop
  | .messageStart => value.get? "type" = some (.str "message_start")
  | .blockStart index block =>
    value.get? "type" = some (.str "content_block_start") ∧
      value.get? "index" = some (.ofIndex index) ∧
      ∃ opened, value.get? "content_block" = some opened ∧ block.OpenedBy opened
  | .blockDelta index delta =>
    value.get? "type" = some (.str "content_block_delta") ∧
      value.get? "index" = some (.ofIndex index) ∧
      ∃ added, value.get? "delta" = some added ∧ SpellsDelta added delta
  | .blockStop index =>
    value.get? "type" = some (.str "content_block_stop") ∧ value.get? "index" = some (.ofIndex index)
  | .messageDelta stopReason stopSequence =>
    value.get? "type" = some (.str "message_delta") ∧
      ∃ fields, value.get? "delta" = some (.obj fields) ∧
        (Fields.get? fields "stop_reason").getD .null = .ofOption .str stopReason ∧
        (Fields.get? fields "stop_sequence").getD .null = .ofOption .str stopSequence

/-- Whether a source carries some pieces in order and then the end of the message, with keep-alives and
empty events anywhere between, before and behind them. -/
inductive Carries : List MessagePiece → List SourceItem → Prop where
  | messageStop (payload : ByteArray) (value : Json) (after : List SourceItem)
      (hp : Json.ofBytes? payload = some value)
      (hv : value.get? "type" = some (.str "message_stop")) : Carries [] (.event payload :: after)
  | piece (payload : ByteArray) (value : Json) (piece : MessagePiece) (pieces : List MessagePiece)
      (source : List SourceItem) (hp : Json.ofBytes? payload = some value) (hv : Spells value piece)
      (h : Carries pieces source) : Carries (piece :: pieces) (.event payload :: source)
  | ping (payload : ByteArray) (value : Json) (pieces : List MessagePiece) (source : List SourceItem)
      (hp : Json.ofBytes? payload = some value) (hv : value.get? "type" = some (.str "ping"))
      (h : Carries pieces source) : Carries pieces (.event payload :: source)
  | empty (pieces : List MessagePiece) (source : List SourceItem) (h : Carries pieces source) :
      Carries pieces (.empty :: source)

/-! ## Reading the pieces -/

namespace MessageBlock

/-- A block as the start of a block shows it. -/
def opened : MessageBlock → OpenedBlock
  | text _ | thinking _ _ => .other
  | toolUse id name _ => .toolUse id name (.obj [])

theorem OpenedBy.ofJson? {value : Json} {block : MessageBlock} (h : block.OpenedBy value) :
    OpenedBlock.ofJson? value = some block.opened := by
  cases block with
  | text t =>
    obtain ⟨fields, rfl⟩ := Json.exists_fields h.1
    rw [OpenedBlock.ofJson?, Json.tagged?_obj h.1]
    rfl
  | thinking t s =>
    obtain ⟨fields, rfl⟩ := Json.exists_fields h.1
    rw [OpenedBlock.ofJson?, Json.tagged?_obj h.1]
    rfl
  | toolUse id name input =>
    obtain ⟨ht, hi, hn, hx⟩ := h
    obtain ⟨fields, rfl⟩ := Json.exists_fields ht
    simp only [Json.get?] at hi hn hx
    simp [OpenedBlock.ofJson?, Json.tagged?_obj ht, OpenedBlock.ofFields?, Record.required,
      Record.defaulted, hi, hn, hx, Json.asString?, opened]

end MessageBlock

theorem MessageBlock.OpenedBy.exists_fields {value : Json} {block : MessageBlock}
    (h : block.OpenedBy value) : ∃ fields, value = .obj fields := by
  cases block <;> exact Json.exists_fields h.1

theorem SpellsDelta.exists_fields {value : Json} {delta : WireDelta} (h : SpellsDelta value delta) :
    ∃ fields, value = .obj fields := by
  cases delta with
  | other => exact h.elim
  | _ => exact Json.exists_fields h.1

theorem SpellsDelta.ofJson? {value : Json} {delta : WireDelta} (h : SpellsDelta value delta) :
    WireDelta.ofJson? value = some delta := by
  cases delta with
  | other => exact h.elim
  | _ =>
    obtain ⟨ht, hx⟩ := h
    obtain ⟨fields, rfl⟩ := Json.exists_fields ht
    simp only [Json.get?] at hx
    simp [WireDelta.ofJson?, Json.tagged?_obj ht, WireDelta.ofFields?, Record.required, hx,
      Json.asString?]

theorem SpellsDelta.isEmptyDelta {value : Json} {delta : WireDelta} (h : SpellsDelta value delta) :
    EventDecoder.isEmptyDelta value = false := by
  cases delta with
  | other => exact h.elim
  | _ =>
    obtain ⟨fields, rfl⟩ := Json.exists_fields h.1
    cases fields with
    | nil => cases h.1
    | cons member rest => rfl

namespace MessagePiece

def chunks (coerceToText : Bool) : MessagePiece → List Chunk
  | messageStart => [if coerceToText then .text "" else .content []]
  | blockStart index block => EventDecoder.blockStartChunks index block.opened
  | blockDelta index delta => EventDecoder.deltaChunks coerceToText index delta
  | blockStop _ => []
  | messageDelta stopReason stopSequence =>
    [.metadata (EventDecoder.stopMetadata stopReason stopSequence)]

end MessagePiece

theorem optional_text {fields : Fields} {position : Nat} {key : String} {text : Option String}
    (h : (Fields.get? fields key).getD .null = .ofOption .str text) :
    (Record.named fields).optional position key Json.asString? = some text := by
  simp only [Record.optional, Record.field?]
  cases hk : Fields.get? fields key with
  | none => rw [hk] at h; cases text <;> first | rfl | cases h
  | some value =>
    rw [hk] at h
    simp only [Option.getD_some] at h
    subst h
    cases text <;> rfl

theorem decodeJson_of_read {value : Json} {event : MessagesEvent} (coerceToText : Bool)
    (h : MessagesEvent.ofJson? value = some event) :
    (EventDecoder.messages coerceToText).decodeJson value
      = EventDecoder.decodeEvent coerceToText (Metrics.ofEvent value).usage event := by
  simp only [EventDecoder.decodeJson, EventDecoder.decodeMessages, h]

theorem decodeBlockStart_opened {opened : Json} {block : MessageBlock} (index : UInt32)
    (h : block.OpenedBy opened) :
    EventDecoder.decodeBlockStart index (some opened)
      = .ok (EventDecoder.blockStartChunks index block.opened) := by
  simp only [EventDecoder.decodeBlockStart, h.ofJson?]

theorem decodeDelta_spelled {added : Json} {delta : WireDelta} (coerceToText : Bool) (index : UInt32)
    (h : SpellsDelta added delta) :
    EventDecoder.decodeDelta coerceToText index (some added)
      = .ok (EventDecoder.deltaChunks coerceToText index delta) := by
  have hf : (some added).filter (fun value => !EventDecoder.isEmptyDelta value) = some added := by
    simp [Option.filter, h.isEmptyDelta]
  simp only [EventDecoder.decodeDelta, hf, h.ofJson?]

/-- An event of a piece of a message is read, and becomes the chunks of the piece. -/
theorem Spells.decode {value : Json} {piece : MessagePiece} (coerceToText : Bool)
    (h : Spells value piece) :
    (EventDecoder.messages coerceToText).decodeJson value
      = .ok (.emit (piece.chunks coerceToText)) := by
  cases piece with
  | messageStart =>
    obtain ⟨fields, rfl⟩ := Json.exists_fields h
    have he : MessagesEvent.ofJson? (.obj fields) = some .messageStart := by
      rw [MessagesEvent.ofJson?_obj h]; rfl
    rw [decodeJson_of_read coerceToText he]
    rfl
  | blockStart index block =>
    obtain ⟨ht, hi, opened, ho, hb⟩ := h
    obtain ⟨fields, rfl⟩ := Json.exists_fields ht
    obtain ⟨members, rfl⟩ := hb.exists_fields
    simp only [Json.get?] at hi ho
    have he : MessagesEvent.ofJson? (.obj fields) = some (.blockStart index (some (.obj members))) := by
      simp [MessagesEvent.ofJson?_obj ht, MessagesEvent.ofFields?, Record.required, Record.optional,
        hi, ho, Json.asIndex?_ofIndex]
    rw [decodeJson_of_read coerceToText he, EventDecoder.decodeEvent,
      decodeBlockStart_opened index hb]
    rfl
  | blockDelta index delta =>
    obtain ⟨ht, hi, added, ha, hd⟩ := h
    obtain ⟨fields, rfl⟩ := Json.exists_fields ht
    obtain ⟨members, rfl⟩ := hd.exists_fields
    simp only [Json.get?] at hi ha
    have he : MessagesEvent.ofJson? (.obj fields) = some (.blockDelta index (some (.obj members))) := by
      simp [MessagesEvent.ofJson?_obj ht, MessagesEvent.ofFields?, Record.required, Record.optional,
        hi, ha, Json.asIndex?_ofIndex]
    rw [decodeJson_of_read coerceToText he, EventDecoder.decodeEvent,
      decodeDelta_spelled coerceToText index hd]
    rfl
  | blockStop index =>
    obtain ⟨ht, hi⟩ := h
    obtain ⟨fields, rfl⟩ := Json.exists_fields ht
    have he : MessagesEvent.ofJson? (.obj fields) = some .blockStop := by
      rw [MessagesEvent.ofJson?_obj ht]; rfl
    rw [decodeJson_of_read coerceToText he]
    rfl
  | messageDelta stopReason stopSequence =>
    obtain ⟨ht, delta, hd, hr, hs⟩ := h
    obtain ⟨fields, rfl⟩ := Json.exists_fields ht
    simp only [Json.get?] at hd
    have hx : MessagesEvent.stopReasons? (.obj delta) = some (stopReason, stopSequence) := by
      simp [MessagesEvent.stopReasons?, Record.ofJson?, optional_text hr, optional_text hs]
    have he : MessagesEvent.ofJson? (.obj fields) = some (.messageDelta stopReason stopSequence) := by
      simp [MessagesEvent.ofJson?_obj ht, MessagesEvent.ofFields?, Record.defaulted, hd, hx]
    rw [decodeJson_of_read coerceToText he]
    rfl

theorem decodeJson_ping {value : Json} (coerceToText : Bool)
    (h : value.get? "type" = some (.str "ping")) :
    (EventDecoder.messages coerceToText).decodeJson value = .ok (.emit []) := by
  obtain ⟨fields, rfl⟩ := Json.exists_fields h
  have he : MessagesEvent.ofJson? (.obj fields) = some .ping := by
    rw [MessagesEvent.ofJson?_obj h]; rfl
  rw [decodeJson_of_read coerceToText he]
  rfl

theorem decodeJson_messageStop {value : Json} (coerceToText : Bool)
    (h : value.get? "type" = some (.str "message_stop")) :
    (EventDecoder.messages coerceToText).decodeJson value
      = .ok (.finish [.usage (Metrics.ofEvent value).usage]) := by
  obtain ⟨fields, rfl⟩ := Json.exists_fields h
  have he : MessagesEvent.ofJson? (.obj fields) = some .messageStop := by
    rw [MessagesEvent.ofJson?_obj h]; rfl
  rw [decodeJson_of_read coerceToText he]
  rfl

/-! ## All items of a message -/

namespace EventDecoder

/-- An event that can be decoded adds its chunks, and the source is read on unless it is terminal. -/
theorem items_decoded {decoder : EventDecoder} {payload : ByteArray} {value : Json} {decoded : Decoded}
    (hp : Json.ofBytes? payload = some value) (hd : decoder.decodeJson value = .ok decoded)
    (source : List SourceItem) :
    (decoder.portion (.event payload :: source)).flatMap decoder.itemsOf
      = decoded.chunks.map .ok
        ++ if decoded.terminal then [] else (decoder.portion source).flatMap decoder.itemsOf := by
  have hl : decoder.isLast (.event payload) = decoded.terminal := by
    simp only [isLast, decode, hp, hd]
  have hi : decoder.itemsOf (.event payload) = decoded.chunks.map .ok := by
    simp only [itemsOf, decode, hp, hd]
  rw [portion_cons, hl, List.flatMap_cons, hi]
  cases decoded.terminal <;> rfl

end EventDecoder

/-- The items of a source that carries some pieces are their chunks and the usage, and none of them is a
failure. -/
theorem Carries.items {pieces : List MessagePiece} {source : List SourceItem} (coerceToText : Bool)
    (h : Carries pieces source) :
    ∃ usage, ((EventDecoder.messages coerceToText).portion source).flatMap
        (EventDecoder.messages coerceToText).itemsOf
      = (pieces.flatMap (MessagePiece.chunks coerceToText) ++ [Chunk.usage usage]).map .ok := by
  induction h with
  | messageStop payload value after hp hv =>
    refine ⟨(Metrics.ofEvent value).usage, ?_⟩
    rw [EventDecoder.items_decoded hp (decodeJson_messageStop coerceToText hv)]
    rfl
  | piece payload value piece pieces source hp hv _ ih =>
    obtain ⟨usage, hu⟩ := ih
    refine ⟨usage, ?_⟩
    rw [EventDecoder.items_decoded hp (hv.decode coerceToText), hu, List.flatMap_cons,
      List.append_assoc]
    exact List.map_append.symm
  | ping payload value pieces source hp hv _ ih =>
    obtain ⟨usage, hu⟩ := ih
    refine ⟨usage, ?_⟩
    rw [EventDecoder.items_decoded hp (decodeJson_ping coerceToText hv), hu]
    rfl
  | empty pieces source _ ih =>
    obtain ⟨usage, hu⟩ := ih
    refine ⟨usage, ?_⟩
    rw [EventDecoder.portion_cons]
    exact hu

end Colloquy
