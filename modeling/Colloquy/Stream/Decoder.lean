import Colloquy.Chunk
import Colloquy.Failure
import Colloquy.Json.Reader
import Colloquy.Stream.Event
import Colloquy.Usage.Metrics
/-!
# Decoding stream events

An event of a stream becomes a list of chunks and the word whether the stream ends with it.  There are
two formats: messages events, and the completion events of each provider.  Which events can be decoded
is settled before the first of them is read.
-/
namespace Colloquy

/-- The format of the events of a stream. -/
inductive WireFormat where
  | messages
  | completion
deriving DecidableEq, Repr

namespace WireFormat

def name : WireFormat → String
  | messages => "messages"
  | completion => "completion"

end WireFormat

/-- How events are to be decoded. -/
structure DecodeOptions where
  format : WireFormat
  /-- Whether text comes as plain text and not as deltas of content blocks. -/
  coerceToText : Bool
deriving DecidableEq, Repr

namespace DecodeOptions

def messages (coerceToText : Bool) : DecodeOptions := ⟨.messages, coerceToText⟩

def completion : DecodeOptions := ⟨.completion, true⟩

end DecodeOptions

/-- The chunks of an event. -/
structure Decoded where
  chunks : List Chunk
  /-- Whether the stream ends with the event. -/
  terminal : Bool
deriving DecidableEq, Repr

namespace Decoded

/-- The stream goes on behind these chunks. -/
def emit (chunks : List Chunk) : Decoded := ⟨chunks, false⟩

/-- The stream ends with these chunks. -/
def finish (chunks : List Chunk) : Decoded := ⟨chunks, true⟩

end Decoded

/-- The rules by which the events of one stream are decoded. -/
inductive EventDecoder where
  | messages (coerceToText : Bool)
  | completion (provider : Provider) (outputKey : String)
deriving DecidableEq, Repr

namespace EventDecoder

/-- The rules for a provider, if its events can be decoded that way. -/
def ofOptions (provider : Provider) (options : DecodeOptions) : Except Failure EventDecoder :=
  match options.format with
  | .messages =>
    if provider.profile.speaksMessages then .ok (messages options.coerceToText)
    else .error (.configuration (.messagesNotStreamed provider))
  | .completion =>
    match provider.profile.outputKey with
    | some key => .ok (completion provider key)
    | none => .error (.configuration (.outputKeyUnknown provider))

/-- The keys of completion events that are no metadata, besides the output key. -/
def withheldKeys : List String := ["prompt_token_count", "generation_token_count", "created"]

/-- The members of a completion event that are passed on as metadata. -/
def metadataOf (outputKey : String) (fields : Fields) : Fields :=
  fields.filter fun member => member.1 != outputKey && !withheldKeys.contains member.1

def outputText? (wrapped : Bool) (outputKey : String) (fields : Fields) : Option String :=
  let output := Fields.get? fields outputKey
  let holder :=
    if wrapped then (output.bind fun value => value.item? 0).bind fun item => item.get? "text"
    else output
  holder.bind Json.asString?

/-- Decodes a completion event: its text, its metadata if there is any, and the usage if the stream ends
behind it. -/
def decodeCompletion (provider : Provider) (outputKey : String) (event : Json) :
    Except Failure Decoded :=
  let profile := provider.profile
  if profile.ending.endsBefore event outputKey then .ok (.finish [])
  else
    match event.asObject? with
    | none => .error (.decode (.eventNotObject provider))
    | some fields =>
      match outputText? profile.outputWrapped outputKey fields with
      | none => .error (.decode (.eventTextMissing provider outputKey))
      | some text =>
        let metadata := metadataOf outputKey fields
        let chunks := .text text :: (if metadata.isEmpty then [] else [.metadata metadata])
        if profile.ending.endsAfter event outputKey then
          .ok (.finish (chunks ++ [.usage (Metrics.ofEvent event).usage]))
        else .ok (.emit chunks)

/-- The chunks of a block start: a tool call shows as the first fragment of its call and as a block. -/
def blockStartChunks (index : UInt32) : OpenedBlock → List Chunk
  | .toolUse id name input =>
    [.toolCall ⟨index, some id, some name, ""⟩, .content [⟨index, .toolUse id name input⟩]]
  | .other => []

def deltaChunks (coerceToText : Bool) (index : UInt32) : WireDelta → List Chunk
  | .text text => if coerceToText then [.text text] else [.content [⟨index, .text text⟩]]
  | .inputJson text => [.toolCall ⟨index, none, none, text⟩]
  | .thinking text => [.content [⟨index, .thinking (some text) none⟩]]
  | .signature text => [.content [⟨index, .thinking none (some text)⟩]]
  | .other => []

/-- Whether a delta holds nothing: null, or an empty object, text or array. -/
def isEmptyDelta : Json → Bool
  | .null => true
  | .obj fields => fields.isEmpty
  | .str text => text.isEmpty
  | .arr items => items.isEmpty
  | .bool _ | .int _ | .float _ => false

/-- Decodes a block delta; one that is missing or holds nothing is an empty text. -/
def decodeDelta (coerceToText : Bool) (index : UInt32) (delta : Option Json) :
    Except Failure (List Chunk) :=
  match delta.filter fun value => !isEmptyDelta value with
  | none => .ok [.text ""]
  | some value =>
    match WireDelta.ofJson? value with
    | some delta => .ok (deltaChunks coerceToText index delta)
    | none => .error (.decode .blockDelta)

def decodeBlockStart (index : UInt32) (block : Option Json) : Except Failure (List Chunk) :=
  match block with
  | none => .ok []
  | some value =>
    match OpenedBlock.ofJson? value with
    | some opened => .ok (blockStartChunks index opened)
    | none => .error (.decode .blockStart)

/-- The metadata of a message delta: both reasons for stopping, null where one is not set. -/
def stopMetadata (stopReason stopSequence : Option String) : Fields :=
  [("stop_reason", Json.ofOption .str stopReason), ("stop_sequence", Json.ofOption .str stopSequence)]

/-- Decodes a messages event; `usage` is what its invocation metrics state. -/
def decodeEvent (coerceToText : Bool) (usage : Usage) : MessagesEvent → Except Failure Decoded
  | .messageStart => .ok (.emit [if coerceToText then .text "" else .content []])
  | .blockStart index block => (decodeBlockStart index block).map .emit
  | .blockDelta index delta => (decodeDelta coerceToText index delta).map .emit
  | .messageDelta stopReason stopSequence => .ok (.emit [.metadata (stopMetadata stopReason stopSequence)])
  | .blockStop | .ping => .ok (.emit [])
  | .messageStop | .other => .ok (.finish [.usage usage])

def decodeMessages (coerceToText : Bool) (event : Json) : Except Failure Decoded :=
  match MessagesEvent.ofJson? event with
  | some parsed => decodeEvent coerceToText (Metrics.ofEvent event).usage parsed
  | none => .error (.decode .messagesEvent)

/-- Decodes an event that has been read as JSON. -/
def decodeJson (decoder : EventDecoder) (event : Json) : Except Failure Decoded :=
  match decoder with
  | messages coerceToText => decodeMessages coerceToText event
  | completion provider outputKey => decodeCompletion provider outputKey event

/-- Decodes the bytes of an event. -/
def decode (decoder : EventDecoder) (payload : ByteArray) : Except Failure Decoded :=
  match Json.ofBytes? payload with
  | some event => decoder.decodeJson event
  | none => .error (.decode .event)

end EventDecoder

end Colloquy
