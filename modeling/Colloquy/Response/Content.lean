import Colloquy.Reply
/-!
# Content blocks of a complete response

A response in the conversation protocol holds a list of blocks.  Text blocks are joined, the first
thinking block and all tool calls are kept; blocks of other kinds are passed over.
-/
namespace Colloquy

/-- A block of a complete response. -/
inductive ResponseBlock where
  | text (text : String)
  | thinking (thinking signature : String)
  | toolUse (id name : String) (input : Json)
  /-- A block of any other kind. -/
  | other
deriving DecidableEq, Repr

namespace ResponseBlock

def ofFields? (kind : String) (fields : Record) : Option ResponseBlock :=
  match kind with
  | "text" => do
    guard (fields.fits 1)
    let t ← fields.required 0 "text" Json.asString?
    some (text t)
  | "thinking" => do
    guard (fields.fits 2)
    let t ← fields.defaulted 0 "thinking" "" Json.asString?
    let s ← fields.defaulted 1 "signature" "" Json.asString?
    some (thinking t s)
  | "tool_use" => do
    guard (fields.fits 3)
    let id ← fields.required 0 "id" Json.asString?
    let name ← fields.required 1 "name" Json.asString?
    let input ← fields.defaulted 2 "input" .null some
    some (toolUse id name input)
  | _ => do
    guard (fields.fits 0)
    some other

def ofJson? (value : Json) : Option ResponseBlock :=
  (value.tagged? []).bind fun tagged => ofFields? tagged.1 tagged.2

def addedText : ResponseBlock → String
  | text t => t
  | thinking _ _ | toolUse _ _ _ | other => ""

def thinking? : ResponseBlock → Option Thinking
  | thinking t s => some ⟨t, s⟩
  | text _ | toolUse _ _ _ | other => none

def call? : ResponseBlock → Option ToolCall
  | toolUse id name input => some ⟨id, name, input⟩
  | text _ | thinking _ _ | other => none

end ResponseBlock

/-- What the content of a response says. -/
structure Answer where
  text : String
  thinking : Option Thinking
  toolCalls : List ToolCall
deriving DecidableEq, Repr

namespace Answer

def ofText (text : String) : Answer := ⟨text, none, []⟩

/-- The answer that a list of blocks gives. -/
def ofBlocks (blocks : List ResponseBlock) : Answer :=
  { text := String.join (blocks.map ResponseBlock.addedText)
    thinking := blocks.findSome? ResponseBlock.thinking?
    toolCalls := blocks.filterMap ResponseBlock.call? }

end Answer

end Colloquy
