import Colloquy.Text.Search
/-!
# Human and Assistant turns in a prompt

A model for text completion takes a conversation as one text in which every turn starts with a marker,
`Human:` or `Assistant:`, on a line of its own behind an empty one.  `Prompt.format` brings any text into
this form: it opens with a human turn, every marker stands behind at least two line breaks, and it closes
with an assistant turn.  Turns that do not alternate stay where they are and are reported.
-/
namespace Colloquy

/-- Whose turn a marker opens. -/
inductive Turn where
  | human
  | assistant
deriving DecidableEq, Repr

namespace Turn

def name : Turn → String
  | human => "Human"
  | assistant => "Assistant"

def marker : Turn → List Char
  | human => ['H', 'u', 'm', 'a', 'n', ':']
  | assistant => ['A', 's', 's', 'i', 's', 't', 'a', 'n', 't', ':']

/-- The marker behind two line breaks. -/
def opening (turn : Turn) : List Char := '\n' :: '\n' :: turn.marker

def other : Turn → Turn
  | human => assistant
  | assistant => human

/-- The turn whose marker stands at the start of a text. -/
def atStart? (text : List Char) : Option Turn :=
  if human.marker.isPrefixOf text then some human
  else if assistant.marker.isPrefixOf text then some assistant
  else none

end Turn

/-- A turn of the kind that was not to come next. -/
structure TurnWarning where
  /-- The byte offset of the line breaks in front of the marker. -/
  position : Nat
  found : Turn
deriving DecidableEq, Repr

namespace TurnWarning

def message (warning : TurnWarning) : String :=
  "prompt must alternate between Human and Assistant turns, found " ++ warning.found.name ++ " at byte "
    ++ toString warning.position

end TurnWarning

/-- A prompt in the form of turns. -/
structure FormattedPrompt where
  text : List Char
  warnings : List TurnWarning
deriving DecidableEq, Repr

namespace Prompt

/-- Whether a text needs a human turn in front: it has none, or an assistant turn comes first. -/
def needsOpening (text : List Char) : Bool :=
  match firstOffset? Turn.human.marker text, firstOffset? Turn.assistant.marker text with
  | some human, some assistant => decide (assistant < human)
  | some _, none => false
  | none, _ => true

/-- A text with a human turn in front where it needs one. -/
def opened (text : List Char) : List Char :=
  if needsOpening text then Turn.human.opening ++ ' ' :: text else text

/-- A text with an assistant turn at its end unless there is one somewhere. -/
def closed (text : List Char) : List Char :=
  if occursIn Turn.assistant.marker text then text else text ++ Turn.assistant.opening

/-- Puts line breaks in front of every marker so that at least two stand there; `breaks` counts the line
breaks just before the text. -/
def spaced (breaks : Nat) : List Char → List Char
  | [] => []
  | c :: rest =>
    let missing := if (Turn.atStart? (c :: rest)).isSome then 2 - breaks else 0
    List.replicate missing '\n' ++ c :: spaced (if c = '\n' then breaks + 1 else 0) rest

/-- The markers of a text in order, each with its byte offset; `offset` is that of the text itself. -/
def markers (offset : Nat) : List Char → List (Nat × Turn)
  | [] => []
  | c :: rest =>
    let others := markers (offset + c.utf8Size) rest
    match Turn.atStart? (c :: rest) with
    | some turn => (offset, turn) :: others
    | none => others

/-- Follows the markers of a text whose next turn should be `expected`: the turn that should come at the
end, and the markers of the other kind.  Such a marker does not change what is expected. -/
def follow (expected : Turn) : List (Nat × Turn) → Turn × List TurnWarning
  | [] => (expected, [])
  | (offset, turn) :: rest =>
    if turn = expected then follow expected.other rest
    else
      let (last, warnings) := follow expected rest
      (last, ⟨offset - 2, turn⟩ :: warnings)

/-- Brings a prompt into the form of turns. -/
def format (input : String) : FormattedPrompt :=
  let text := spaced 0 (closed (opened input.toList))
  let (expected, warnings) := follow .human (markers 0 text)
  { text := if expected = .assistant then text ++ Turn.assistant.opening else text
    warnings := warnings }

end Prompt

end Colloquy
