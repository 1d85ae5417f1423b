import Colloquy.CommandLine.Grammar
/-!
# Help pages

A help page says what a command is for, how it is called, and lists its parts in two columns.
-/
namespace Colloquy

namespace Grammar

/-- A left column that is filled up with blanks to the width of the widest one. -/
def padded (width : Nat) (text : String) : String :=
  text ++ String.ofList (List.replicate (width - text.length) ' ')

/-- Rows of two columns, indented. -/
def columns (rows : List (String × String)) : String :=
  let width := (rows.map fun row => row.1.length).foldl max 0
  "\n".intercalate (rows.map fun row => "  " ++ padded width row.1 ++ "  " ++ row.2)

/-- The names of an option, with its value in capitals. -/
def optionColumn (option : OptionSpec) : String :=
  let short :=
    match option.short with
    | some c => String.ofList ['-', c, ',', ' ']
    | none => "    "
  let value := if option.takesValue then " <" ++ option.long.map Char.toUpper ++ ">" else ""
  short ++ "--" ++ option.long ++ value

/-- What an option is for.  Of the settings file it is also told what the environment names and what is
read otherwise. -/
def aboutColumn (configured : Option String) (option : OptionSpec) : String :=
  if option.long == "config" then
    option.about ++ " [env: " ++ configVariable ++ "=" ++ configured.getD "" ++ "] [default: "
      ++ defaultConfig ++ "]"
  else option.about

/-- A part of a help page with a heading; nothing if it has no rows. -/
def helpPart (heading : String) (rows : List (String × String)) : List String :=
  if rows.isEmpty then [] else [heading ++ ":\n" ++ columns rows]

/-- A help page: the purpose, the form of a call, and the parts, with empty lines between them. -/
def helpPage (about call : String) (parts : List String) : String :=
  "\n\n".intercalate (about :: ("Usage: " ++ call) :: parts) ++ "\n"

def optionRows (configured : Option String) (options : List OptionSpec) : List (String × String) :=
  options.map fun option => (optionColumn option, aboutColumn configured option)

def programHelp (configured : Option String) : String :=
  helpPage programAbout (program ++ " [OPTIONS] <COMMAND>")
    (helpPart "Commands" (commands.map fun grammar => (grammar.name, grammar.about))
      ++ helpPart "Options" (optionRows configured programOptions))

def commandHelp (grammar : Grammar) : String :=
  let operand := grammar.operand.toList
  let call :=
    [program, grammar.name] ++ (if grammar.options.isEmpty then [] else ["[OPTIONS]"])
      ++ operand.map OperandSpec.shown
  helpPage grammar.about (" ".intercalate call)
    (helpPart "Arguments" (operand.map fun o => (o.shown, o.about))
      ++ helpPart "Options" (optionRows none grammar.options))

end Grammar

end Colloquy
