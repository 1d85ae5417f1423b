import Colloquy.Json.Record
/-!
# Messages of a conversation

A message is a turn of the user or of the assistant.  Its content is plain text or a list of blocks.
-/
namespace Colloquy

/-- Whose turn a message is. -/
inductive Role where
  | user
  | assistant
deriving DecidableEq, Repr

/-- A part of a message. -/
inductive ContentBlock where
  | text (text : String)
  /-- Reasoning of the model, with the signature that vouches for it on later turns. -/
  | thinking (thinking signature : String)
  /-- Reasoning that the provider shows only encrypted. -/
  | redactedThinking (data : String)
  /-- A tool call by the model. -/
  | toolUse (id name : String) (input : Json)
  /-- The answer to a tool call. -/
  | toolResult (toolUseId : String) (content : Option Json) (isError : Option Bool)
deriving DecidableEq, Repr

/-- The content of a message. -/
inductive Content where
  | text (text : String)
  | blocks (blocks : List ContentBlock)
deriving DecidableEq, Repr

/-- One turn of a conversation. -/
structure Message where
  role : Role
  content : Content
deriving DecidableEq, Repr

namespace Role

def ofName? : String → Option Role
  | "user" => some user
  | "assistant" => some assistant
  | _ => none

def name : Role → String
  | user => "user"
  | assistant => "assistant"

def ofJson? (value : Json) : Option Role := value.choice?.bind ofName?

def toJson (role : Role) : Json := .str role.name

end Role

namespace ContentBlock

def kinds : List String := ["text", "thinking", "redacted_thinking", "tool_use", "tool_result"]

/-- Whether a block is reasoning, shown or redacted. -/
def isThinking : ContentBlock → Bool
  | thinking _ _ | redactedThinking _ => true
  | text _ | toolUse _ _ _ | toolResult _ _ _ => false

def isToolResult : ContentBlock → Bool
  | toolResult _ _ _ => true
  | text _ | thinking _ _ | redactedThinking _ | toolUse _ _ _ => false

def ofFields? (kind : String) (fields : Record) : Option ContentBlock :=
  match kind with
  | "text" => do
    guard (fields.fits 1)
    let t ← fields.required 0 "text" Json.asString?
    some (text t)
  | "thinking" => do
    guard (fields.fits 2)
    let t ← fields.required 0 "thinking" Json.asString?
    let s ← fields.defaulted 1 "signature" "" Json.asString?
    some (thinking t s)
  | "redacted_thinking" => do
    guard (fields.fits 1)
    let d ← fields.required 0 "data" Json.asString?
    some (redactedThinking d)
  | "tool_use" => do
    guard (fields.fits 3)
    let id ← fields.required 0 "id" Json.asString?
    let name ← fields.required 1 "name" Json.asString?
    let input ← fields.required 2 "input" some
    some (toolUse id name input)
  | "tool_result" => do
    guard (fields.fits 3)
    let id ← fields.required 0 "tool_use_id" Json.asString?
    let content ← fields.optional 1 "content" some
    let isError ← fields.optional 2 "is_error" Json.asBool?
    some (toolResult id content isError)
  | _ => none

/-- Reads a block that stands alone. -/
def ofJson? (value : Json) : Option ContentBlock :=
  (value.tagged? []).bind fun tagged => ofFields? tagged.1 tagged.2

/-- Reads a block inside a message, where its kind may also be given by number. -/
def ofNestedJson? (value : Json) : Option ContentBlock :=
  (value.tagged? kinds).bind fun tagged => ofFields? tagged.1 tagged.2

/-- The members of a block as it is written, its kind first; optional ones only if they are set. -/
def members : ContentBlock → List (String × Json)
  | text t => [("type", .str "text"), ("text", .str t)]
  | thinking t s => [("type", .str "thinking"), ("thinking", .str t), ("signature", .str s)]
  | redactedThinking d => [("type", .str "redacted_thinking"), ("data", .str d)]
  | toolUse id name input =>
    [("type", .str "tool_use"), ("id", .str id), ("name", .str name), ("input", input)]
  | toolResult id content isError =>
    [("type", .str "tool_result"), ("tool_use_id", .str id)]
      ++ (content.map fun c => ("content", c)).toList
      ++ (isError.map fun e => ("is_error", Json.bool e)).toList

def toJson (block : ContentBlock) : Json := .object block.members

end ContentBlock

namespace Content

/-- The blocks of structured content; none of plain text. -/
def structuredBlocks : Content → List ContentBlock
  | text _ => []
  | blocks bs => bs

def ofJson? : Json → Option Content
  | .str t => some (text t)
  | .arr items => (items.mapM ContentBlock.ofNestedJson?).map blocks
  | _ => none

def toJson : Content → Json
  | text t => .str t
  | blocks bs => .arr (bs.map ContentBlock.toJson)

end Content

namespace Message

/-- Whether a message answers a tool call. -/
def hasToolResult (message : Message) : Bool :=
  message.content.structuredBlocks.any ContentBlock.isToolResult

def ofJson? (value : Json) : Option Message := do
  let fields ← Record.ofJson? 2 value
  let role ← fields.required 0 "role" Role.ofJson?
  let content ← fields.required 1 "content" Content.ofJson?
  some ⟨role, content⟩

def toJson (message : Message) : Json :=
  .object [("role", message.role.toJson), ("content", message.content.toJson)]

end Message

end Colloquy
