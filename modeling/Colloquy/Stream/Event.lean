import Colloquy.Json.Record
/-!
# Events of the messages protocol

A streamed message starts, opens, extends and closes its content blocks one by one, states why it stopped
and ends.  The events are records tagged by their type; an event of a type that is not known is read as
`other`, whatever it holds.
-/
namespace Colloquy

/-- An event of a streamed message. -/
inductive MessagesEvent where
  | messageStart
  | blockStart (index : UInt32) (block : Option Json)
  | blockDelta (index : UInt32) (delta : Option Json)
  | blockStop
  | messageDelta (stopReason stopSequence : Option String)
  | messageStop
  | ping
  | other
deriving DecidableEq, Repr

/-- The block that a block start opens; only tool calls matter. -/
inductive OpenedBlock where
  | toolUse (id name : String) (input : Json)
  | other
deriving DecidableEq, Repr

/-- What a block delta adds. -/
inductive WireDelta where
  | text (text : String)
  /-- More of the JSON text of a tool call's arguments. -/
  | inputJson (partialJson : String)
  | thinking (thinking : String)
  | signature (signature : String)
  | other
deriving DecidableEq, Repr

namespace MessagesEvent

def stopReasons? (value : Json) : Option (Option String × Option String) := do
  let fields ← Record.ofJson? 2 value
  let stopReason ← fields.optional 0 "stop_reason" Json.asString?
  let stopSequence ← fields.optional 1 "stop_sequence" Json.asString?
  some (stopReason, stopSequence)

def ofFields? (kind : String) (fields : Record) : Option MessagesEvent :=
  match kind with
  | "message_start" => do
    guard (fields.fits 0)
    some messageStart
  | "content_block_start" => do
    guard (fields.fits 2)
    let index ← fields.required 0 "index" Json.asIndex?
    let block ← fields.optional 1 "content_block" some
    some (blockStart index block)
  | "content_block_delta" => do
    guard (fields.fits 2)
    let index ← fields.required 0 "index" Json.asIndex?
    let delta ← fields.optional 1 "delta" some
    some (blockDelta index delta)
  | "content_block_stop" => do
    guard (fields.fits 0)
    some blockStop
  | "message_delta" => do
    guard (fields.fits 1)
    let reasons ← fields.defaulted 0 "delta" (none, none) stopReasons?
    some (messageDelta reasons.1 reasons.2)
  | "message_stop" => do
    guard (fields.fits 0)
    some messageStop
  | "ping" => do
    guard (fields.fits 0)
    some ping
  | _ => do
    guard (fields.fits 0)
    some other

def ofJson? (value : Json) : Option MessagesEvent :=
  (value.tagged? []).bind fun tagged => ofFields? tagged.1 tagged.2

end MessagesEvent

namespace OpenedBlock

def ofFields? (kind : String) (fields : Record) : Option OpenedBlock :=
  match kind with
  | "tool_use" => do
    guard (fields.fits 3)
    let id ← fields.required 0 "id" Json.asString?
    let name ← fields.required 1 "name" Json.asString?
    let input ← fields.defaulted 2 "input" .null some
    some (toolUse id name input)
  | _ => do
    guard (fields.fits 0)
    some other

def ofJson? (value : Json) : Option OpenedBlock :=
  (value.tagged? []).bind fun tagged => ofFields? tagged.1 tagged.2

end OpenedBlock

namespace WireDelta

def ofFields? (kind : String) (fields : Record) : Option WireDelta :=
  match kind with
  | "text_delta" => do
    guard (fields.fits 1)
    let t ← fields.required 0 "text" Json.asString?
    some (text t)
  | "input_json_delta" => do
    guard (fields.fits 1)
    let t ← fields.required 0 "partial_json" Json.asString?
    some (inputJson t)
  | "thinking_delta" => do
    guard (fields.fits 1)
    let t ← fields.required 0 "thinking" Json.asString?
    some (thinking t)
  | "signature_delta" => do
    guard (fields.fits 1)
    let s ← fields.required 0 "signature" Json.asString?
    some (signature s)
  | _ => do
    guard (fields.fits 0)
    some other

def ofJson? (value : Json) : Option WireDelta :=
  (value.tagged? []).bind fun tagged => ofFields? tagged.1 tagged.2

end WireDelta

end Colloquy
