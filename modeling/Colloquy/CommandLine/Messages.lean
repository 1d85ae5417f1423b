import Colloquy.Json.Skimmer
import Colloquy.Message
/-!
# Files of messages

A file of messages holds them as a JSON array.  No field of a message or of a block may be written
twice; elsewhere the last one of a repeated name counts.  What stands under other names in a message is
passed over.
-/
namespace Colloquy

namespace ContentBlock

/-- The names of the fields of a kind of blocks. -/
def fieldNames : String → List String
  | "text" => ["text"]
  | "thinking" => ["thinking", "signature"]
  | "redacted_thinking" => ["data"]
  | "tool_use" => ["id", "name", "input"]
  | "tool_result" => ["tool_use_id", "content", "is_error"]
  | _ => []

end ContentBlock

namespace Message

def fieldNames : List String := ["role", "content"]

/-- Whether the containers around a value are a message under a name that is no field, and the list. -/
def isNoField : List Frame → Bool
  | [.object _ name, .array _] => !fieldNames.contains name
  | _ => false

/-- Whether none of the names occurs twice. -/
def writtenOnce (names : List String) (members : List (String × Json)) : Bool :=
  names.all fun name => decide ((members.filter fun member => member.1 == name).length ≤ 1)

/-- Whether a block writes none of its fields twice. -/
def blockWrittenOnce : Json → Bool
  | .obj members =>
    let kind := (Json.tagged? ContentBlock.kinds (.obj members)).map Prod.fst
    writtenOnce ("type" :: (kind.map ContentBlock.fieldNames).getD []) members
  | _ => true

/-- Whether the blocks of a content write none of their fields twice. -/
def contentWrittenOnce : Json → Bool
  | .arr blocks => blocks.all blockWrittenOnce
  | _ => true

/-- Whether a message names its role once, and writes none of its fields twice. -/
def isWrittenOnce (message : Json) : Bool :=
  match message with
  | .obj members =>
    writtenOnce fieldNames members
      && ((Fields.get? members "role").bind Role.ofJson?).isSome
      && ((Fields.get? members "content").map contentWrittenOnce).getD true
  | .arr (role :: rest) => (Role.ofJson? role).isSome && rest.all contentWrittenOnce
  | _ => true

/-- The messages in a JSON text. -/
def listOfText? (text : String) : Option (List Message) := do
  let written ← Json.ofTextSkipping? .asWritten isNoField text
  let value ← Json.ofTextSkipping? .plain isNoField text
  if (written.asArray?.getD []).all isWrittenOnce then value.list? ofJson? else none

end Message

end Colloquy
