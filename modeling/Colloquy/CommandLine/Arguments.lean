import Colloquy.CommandLine.Help
import Colloquy.CommandLine.Words
import Colloquy.Settings.Placeholder
/-!
# Arguments

What the words of a command line ask for.  A model is asked either a prompt or the messages in a file,
never both.  The settings file is named by an option, or else by the environment, or else it is the
default one.
-/
namespace Colloquy

/-- Where the input of a model comes from. -/
inductive InputSource where
  | prompt (text : String)
  /-- The messages in a file. -/
  | messages (path : String)
deriving DecidableEq, Repr

/-- What a model is asked. -/
structure InputArguments where
  source : InputSource
  system : Option String
  stops : List String
  /-- Extra request fields, as JSON text. -/
  kwargs : Option String
deriving DecidableEq, Repr

/-- A command with its arguments. -/
inductive Command where
  /-- Print a request body. -/
  | render (input : InputArguments) (streaming : Bool)
  | invoke (input : InputArguments)
  | stream (input : InputArguments)
  /-- Decode a file of recorded events. -/
  | decode (events : String) (messages structured : Bool)
deriving DecidableEq, Repr

/-- The arguments of the program. -/
structure Arguments where
  /-- The path of the settings file. -/
  config : String
  command : Command
deriving DecidableEq, Repr

/-- Why there are no arguments to work with. -/
inductive Refusal where
  /-- The words are not of the form of their command. -/
  | misuse
  /-- A help page is asked for. -/
  | help (page : String)
deriving DecidableEq, Repr

namespace InputArguments

/-- The input that options describe. -/
def ofGiven? (given : Given) : Option InputArguments :=
  let rest := fun source =>
    some ⟨source, given.value? "system", given.values "stop", given.value? "kwargs"⟩
  match given.value? "prompt", given.value? "messages" with
  | some text, none => rest (.prompt text)
  | none, some path => rest (.messages path)
  | some _, some _ | none, none => none

end InputArguments

namespace Command

def ofGiven? (name : String) (given : Given) : Option Command :=
  match name with
  | "render" => (InputArguments.ofGiven? given).map fun input => render input (given.has "stream")
  | "invoke" => (InputArguments.ofGiven? given).map invoke
  | "stream" => (InputArguments.ofGiven? given).map stream
  | "decode" =>
    given.operands.head?.map fun events =>
      decode events (given.has "messages") (given.has "structured")
  | _ => none

/-- The files that a command reads. -/
def files : Command → List String
  | render input _ | invoke input | stream input =>
    match input.source with
    | .prompt _ => []
    | .messages path => [path]
  | decode events _ _ => [events]

end Command

namespace Arguments

/-- The page that the help command shows for the words behind it. -/
def helpFor (configured : Option String) : List String → Refusal
  | [] => .help (Grammar.programHelp configured)
  | [name] =>
    match Grammar.ofName? name with
    | some grammar => .help grammar.commandHelp
    | none => .misuse
  | _ :: _ :: _ => .misuse

/-- The command that the words behind its name describe. -/
def readCommand (grammar : Grammar) (words : List String) : Except Refusal Command :=
  match grammar.read words with
  | .error .help => .error (.help grammar.commandHelp)
  | .error .misuse => .error .misuse
  | .ok given =>
    match Command.ofGiven? grammar.name given with
    | some command => .ok command
    | none => .error .misuse

/-- The settings file: as an option names it, or else the environment, or else the default one. -/
def configFile (configured given : Option String) : String :=
  (given.or configured).getD Grammar.defaultConfig

/-- The arguments in the words of a command line. -/
def ofWords (env : Environment) (words : List String) : Except Refusal Arguments :=
  let configured := env Grammar.configVariable
  match Grammar.readProgram .start words with
  | .error .help => .error (.help (Grammar.programHelp configured))
  | .error .misuse => .error .misuse
  | .ok (given, grammar, rest) =>
    if grammar.name == Grammar.help.name then .error (helpFor configured rest)
    else
      match readCommand grammar rest with
      | .error refusal => .error refusal
      | .ok command =>
        let config := configFile configured (given.value? "config")
        if config.isEmpty then .error .misuse else .ok ⟨config, command⟩

def files (arguments : Arguments) : List String := arguments.config :: arguments.command.files

end Arguments

end Colloquy
