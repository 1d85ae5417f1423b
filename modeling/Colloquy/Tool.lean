import Colloquy.Json.Record
/-!
# Tools

A tool is offered to the model by its name, a description and a schema of its input; a tool call of the
model names the tool and gives it arguments.
-/
namespace Colloquy

/-- A tool that the model may call. -/
structure ToolSpec where
  name : String
  description : Option String
  inputSchema : Json
deriving DecidableEq, Repr

/-- A complete call of a tool. -/
structure ToolCall where
  id : String
  name : String
  args : Json
deriving DecidableEq, Repr

namespace ToolSpec

def ofJson? (value : Json) : Option ToolSpec := do
  let fields ← Record.ofJson? 3 value
  let name ← fields.required 0 "name" Json.asString?
  let description ← fields.optional 1 "description" Json.asString?
  let inputSchema ← fields.required 2 "input_schema" some
  some ⟨name, description, inputSchema⟩

def toJson (tool : ToolSpec) : Json :=
  .object
    ([("name", .str tool.name)]
      ++ (tool.description.map fun d => ("description", Json.str d)).toList
      ++ [("input_schema", tool.inputSchema)])

end ToolSpec

namespace ToolCall

def ofJson? (value : Json) : Option ToolCall := do
  let fields ← Record.ofJson? 3 value
  let id ← fields.required 0 "id" Json.asString?
  let name ← fields.required 1 "name" Json.asString?
  let args ← fields.required 2 "args" some
  some ⟨id, name, args⟩

def members (call : ToolCall) : List (String × Json) :=
  [("id", .str call.id), ("name", .str call.name), ("args", call.args)]

def toJson (call : ToolCall) : Json := .object call.members

/-- A call whose members stand in declared order. -/
def toJsonInOrder (call : ToolCall) : Json := .obj call.members

end ToolCall

end Colloquy
