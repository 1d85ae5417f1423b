import Colloquy.Json.Reader
import Colloquy.Response.Content
import Colloquy.Response.Headers
/-!
# Reading a complete response

The text of a response is found where the provider's response shape says.  Checks come in this order: the
body is JSON, it holds the text, the headers are counts.
-/
namespace Colloquy

namespace Answer

/-- The answer in a response of the conversation protocol: the older `completion` text before
`content`. -/
def ofConversation (body : Json) : Except Failure Answer :=
  match body.get? "completion" with
  | some completion =>
    match completion.asString? with
    | some text => .ok (ofText text)
    | none => .error (.decode .completionNotText)
  | none =>
    match body.get? "content" with
    | none => .error (.decode .contentMissing)
    | some content =>
      match content.list? ResponseBlock.ofJson? with
      | some blocks => .ok (ofBlocks blocks)
      | none => .error (.decode .responseContent)

def ofBody (provider : Provider) (body : Json) : Except Failure Answer :=
  match provider.profile.response with
  | .conversation => ofConversation body
  | .path steps =>
    match (body.lookup steps).bind Json.asString? with
    | some text => .ok (ofText text)
    | none => .error (.decode (.bodyTextMissing provider steps))

end Answer

namespace Reply

def parse (provider : Provider) (bytes : ByteArray) (headers : List Header) : Except Failure Reply :=
  match Json.ofBytes? bytes with
  | none => .error (.decode .body)
  | some body => do
    let answer ← Answer.ofBody provider body
    let usage ← Usage.ofHeaders headers
    return {
      text := answer.text
      thinking := answer.thinking
      toolCalls := answer.toolCalls
      body := body
      usage := usage
      stopReason := (body.get? "stop_reason").bind Json.asString? }

end Reply

end Colloquy
