import Colloquy.Text.Blank
import Colloquy.Text.Search
/-!
# Placeholders in settings

Before a settings text is read, its placeholders are filled in from the environment.  A placeholder is
`{{ env.NAME }}` or `{{ env.NAME | default("text") }}`, with any blanks around its parts, within one line.
Lines whose first character is `#` are left as they are.  What is filled in is not searched again.
-/
namespace Colloquy

/-- The variables of an environment. -/
abbrev Environment := String → Option String

/-- Why a placeholder cannot be filled in. -/
inductive PlaceholderFault where
  /-- The variable is not set and there is no default. -/
  | unset (name : String)
  /-- The key is not `env.` and a name without a point. -/
  | unsupported (key : String)
deriving DecidableEq, Repr

namespace PlaceholderFault

def message : PlaceholderFault → String
  | unset name => "environment variable not found: `" ++ name ++ "`"
  | unsupported key =>
    "only variables scoped with 'env.' are supported: `" ++ key ++ "`"

end PlaceholderFault

/-- A placeholder: its key and its default. -/
structure Placeholder where
  key : List Char
  default : Option (List Char)
deriving DecidableEq, Repr

namespace Placeholder

def isKeyChar (c : Char) : Bool := c.isAlphanum || c == '_' || c == '.'

/-- What follows a fixed text at the start of another. -/
def after? (part text : List Char) : Option (List Char) :=
  if part.isPrefixOf text then some (text.drop part.length) else none

/-- The start of a placeholder, its end, and what stands around its default. -/
def opening : List Char := ['\x7b', '\x7b']

def closing : List Char := ['\x7d', '\x7d']

def defaultStart : List Char := ['d', 'e', 'f', 'a', 'u', 'l', 't', '(', '"']

def defaultEnd : List Char := ['"', ')']

/-- A default, from its bar on, and what follows it. -/
def default? (text : List Char) : Option (List Char × List Char) := do
  let rest ← after? ['|'] text
  let rest ← after? defaultStart (trimStart rest)
  let content := rest.takeWhile (· != '"')
  let rest ← after? defaultEnd (rest.dropWhile (· != '"'))
  some (content, rest)

/-- A placeholder at the start of a text, and what follows it. -/
def atStart? (text : List Char) : Option (Placeholder × List Char) := do
  let rest ← after? opening text
  let rest := trimStart rest
  let key := rest.takeWhile isKeyChar
  if key.isEmpty then none
  else
    let rest := trimStart (rest.dropWhile isKeyChar)
    match default? rest with
    | some (content, rest) => do
      let rest ← after? closing (trimStart rest)
      some (⟨key, some content⟩, rest)
    | none => do
      let rest ← after? closing rest
      some (⟨key, none⟩, rest)

/-- The name of the variable that a key refers to. -/
def variableName? (key : List Char) : Option (List Char) := do
  let name ← after? ['e', 'n', 'v', '.'] key
  if name.contains '.' then none else some name

/-- What is filled in for a placeholder. -/
def resolve (env : Environment) (placeholder : Placeholder) : Except PlaceholderFault (List Char) :=
  match variableName? placeholder.key with
  | none => .error (.unsupported (String.ofList placeholder.key))
  | some name =>
    match env (String.ofList name), placeholder.default with
    | some value, _ => .ok value.toList
    | none, some content => .ok content
    | none, none => .error (.unset (String.ofList name))

end Placeholder

/-- A piece of a line: a character that stays, or a placeholder. -/
inductive Piece where
  | plain (c : Char)
  | placeholder (placeholder : Placeholder)
deriving DecidableEq, Repr

namespace Piece

/-- The pieces of a line.  `skip` counts the characters at its start that belong to a placeholder already
found. -/
def ofLineFrom (skip : Nat) : List Char → List Piece
  | [] => []
  | c :: rest =>
    match skip with
    | skip + 1 => ofLineFrom skip rest
    | 0 =>
      match Placeholder.atStart? (c :: rest) with
      | some (found, behind) =>
        placeholder found :: ofLineFrom (rest.length - behind.length) rest
      | none => plain c :: ofLineFrom 0 rest

def isComment (line : List Char) : Bool :=
  match trimStart line with
  | c :: _ => c == '#'
  | [] => false

/-- The pieces of a line; a comment has no placeholders. -/
def ofLine (line : List Char) : List Piece :=
  if isComment line then line.map plain else ofLineFrom 0 line

/-- The variable that a piece refers to. -/
def variableName? : Piece → Option String
  | plain _ => none
  | placeholder found => (Placeholder.variableName? found.key).map String.ofList

/-- What stands for a piece in the finished text. -/
def fill (env : Environment) : Piece → Except PlaceholderFault (List Char)
  | plain c => .ok [c]
  | placeholder found => found.resolve env

end Piece

/-- A line with its placeholders filled in. -/
def fillLine (env : Environment) (line : List Char) : Except PlaceholderFault (List Char) :=
  ((Piece.ofLine line).mapM (Piece.fill env)).map List.flatten

/-- The variables that the placeholders of a text refer to. -/
def placeholderVariables (text : String) : List String :=
  (splitOnChar '\n' text.toList).flatMap fun line => (Piece.ofLine line).filterMap Piece.variableName?

/-- A text with its placeholders filled in; fails at the first one for which there is nothing. -/
def fillPlaceholders (env : Environment) (text : String) : Except PlaceholderFault String :=
  ((splitOnChar '\n' text.toList).mapM (fillLine env)).map fun lines =>
    String.ofList (['\n'].intercalate lines)

end Colloquy
