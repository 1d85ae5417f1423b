import Colloquy.Message
/-!
# Reasoning blocks come first

A model that shows its reasoning wants the thinking blocks of its own turns in front of their other
blocks.  Only turns of the assistant are ever changed, and within each of the two groups of blocks the
order stays.
-/
namespace Colloquy

/-- The blocks with the thinking blocks in front; nothing if they already start with one or have none. -/
def thinkingFirst? (blocks : List ContentBlock) : Option (List ContentBlock) :=
  if blocks.head?.any ContentBlock.isThinking || !blocks.any ContentBlock.isThinking then none
  else some (blocks.filter ContentBlock.isThinking ++ blocks.filter fun block => !block.isThinking)

namespace Message

/-- A turn of the assistant with its thinking blocks in front; any other message as it is. -/
def withThinkingFirst (message : Message) : Message :=
  match message.role, message.content with
  | .assistant, .blocks blocks =>
    match thinkingFirst? blocks with
    | some reordered => ⟨.assistant, .blocks reordered⟩
    | none => message
  | _, _ => message

end Message

/-- A conversation with the thinking blocks in front in every turn behind the first message. -/
def thinkingFirstInHistory : List Message → List Message
  | [] => []
  | first :: rest => first :: rest.map Message.withThinkingFirst

/-- A conversation with the thinking blocks in front in the turn that a tool answer at the end replies
to. -/
def thinkingBeforeToolResult : List Message → List Message
  | [] => []
  | [message] => [message]
  | [answered, answer] =>
    if answer.role = .user ∧ answer.hasToolResult then [answered.withThinkingFirst, answer]
    else [answered, answer]
  | first :: second :: third :: rest => first :: thinkingBeforeToolResult (second :: third :: rest)

end Colloquy
