import Colloquy.Tool
import Colloquy.Usage
/-!
# Replies

What a complete invocation answers, the same for every provider.
-/
namespace Colloquy

/-- Reasoning of the model. -/
structure Thinking where
  text : String
  signature : String
deriving DecidableEq, Repr

/-- The answer to a complete invocation. -/
structure Reply where
  text : String
  /-- The first thinking block. -/
  thinking : Option Thinking
  /-- The tool calls, in the order of the model. -/
  toolCalls : List ToolCall
  /-- The response body itself. -/
  body : Json
  usage : Usage
  stopReason : Option String
deriving DecidableEq, Repr

namespace Thinking

def ofJson? (value : Json) : Option Thinking := do
  let fields ← Record.ofJson? 2 value
  let text ← fields.required 0 "text" Json.asString?
  let signature ← fields.required 1 "signature" Json.asString?
  some ⟨text, signature⟩

def toJson (thinking : Thinking) : Json :=
  .object [("text", .str thinking.text), ("signature", .str thinking.signature)]

end Thinking

namespace Reply

def ofJson? (value : Json) : Option Reply := do
  let fields ← Record.ofJson? 6 value
  let text ← fields.required 0 "text" Json.asString?
  let thinking ← fields.optional 1 "thinking" Thinking.ofJson?
  let toolCalls ← fields.defaulted 2 "tool_calls" [] (Json.list? ToolCall.ofJson?)
  let body ← fields.required 3 "raw_body" some
  let usage ← fields.required 4 "usage" Usage.ofJson?
  let stopReason ← fields.optional 5 "stop_reason" Json.asString?
  some ⟨text, thinking, toolCalls, body, usage, stopReason⟩

/-- The reply as an object; what is not set and an empty list of tool calls are left out. -/
def toJson (reply : Reply) : Json :=
  .object
    ([("text", .str reply.text)]
      ++ (reply.thinking.map fun t => ("thinking", t.toJson)).toList
      ++ (if reply.toolCalls.isEmpty then []
          else [("tool_calls", .arr (reply.toolCalls.map ToolCall.toJson))])
      ++ [("raw_body", reply.body), ("usage", reply.usage.toJson)]
      ++ (reply.stopReason.map fun r => ("stop_reason", Json.str r)).toList)

end Reply

end Colloquy
