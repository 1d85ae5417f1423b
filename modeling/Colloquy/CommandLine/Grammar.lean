/-!
# The grammar of the command line

The program is called with a command, and every command has its options.  The grammar is data: words are
read by it, and the help pages are written from it.
-/
namespace Colloquy

/-- What an option takes. -/
inductive OptionKind where
  /-- Nothing; it may be given once. -/
  | flag
  /-- A value; it may be given once. -/
  | single
  /-- The path of a file, which is not empty; it may be given once. -/
  | path
  /-- A value each time it is given. -/
  | repeated
  /-- It asks for help. -/
  | help
deriving DecidableEq, Repr

structure OptionSpec where
  short : Option Char
  long : String
  kind : OptionKind
  about : String
deriving DecidableEq, Repr

/-- A word of a command that is no option, as it is shown in help. -/
structure OperandSpec where
  shown : String
  about : String
deriving DecidableEq, Repr

/-- A command with its options and its operand, if it takes one. -/
structure Grammar where
  name : String
  about : String
  options : List OptionSpec
  operand : Option OperandSpec
deriving DecidableEq, Repr

namespace OptionSpec

def takesValue (option : OptionSpec) : Bool :=
  match option.kind with
  | .single | .path | .repeated => true
  | .flag | .help => false

def help : OptionSpec := ⟨some 'h', "help", .help, "Print help"⟩

end OptionSpec

namespace Grammar

def program : String := "axon"

def programAbout : String := "Invoke AWS Bedrock models through one canonical interface"

/-- The settings file that is read if none is named. -/
def defaultConfig : String := "axon.toml"

/-- The environment variable that names the settings file. -/
def configVariable : String := "AXON_CONFIG"

/-- The options in front of the command. -/
def programOptions : List OptionSpec :=
  [⟨some 'c', "config", .path, "Path to configuration file"⟩, .help]

/-- The options that say what a model is asked. -/
def inputOptions : List OptionSpec :=
  [⟨some 'p', "prompt", .single, "Text prompt"⟩,
    ⟨some 'm', "messages", .path, "JSON file holding a list of chat messages"⟩,
    ⟨some 's', "system", .single, "System prompt"⟩,
    ⟨none, "stop", .repeated, "Stop sequence; may be repeated"⟩,
    ⟨none, "kwargs", .single, "Extra request fields as a JSON object"⟩]

def render : Grammar :=
  { name := "render"
    about := "Print the request body that would be sent, without calling Bedrock"
    options :=
      inputOptions ++ [⟨none, "stream", .flag, "Render the streaming variant of the request"⟩, .help]
    operand := none }

def invoke : Grammar :=
  { name := "invoke"
    about := "Invoke the model and print the complete response"
    options := inputOptions ++ [.help]
    operand := none }

def stream : Grammar :=
  { name := "stream"
    about := "Stream the model response to stdout"
    options := inputOptions ++ [.help]
    operand := none }

def decode : Grammar :=
  { name := "decode"
    about := "Decode a recorded stream, one JSON event payload per line"
    options :=
      [⟨none, "messages", .flag, "Decode as messages protocol events"⟩,
        ⟨none, "structured", .flag, "Keep structured content blocks instead of plain text"⟩, .help]
    operand := some ⟨"<EVENTS>", "File of recorded event payloads"⟩ }

/-- The command that shows help; it has no options, not even that for help. -/
def help : Grammar :=
  { name := "help"
    about := "Print this message or the help of the given subcommand(s)"
    options := []
    operand := some ⟨"[COMMAND]...", "Print help for the subcommand(s)"⟩ }

def commands : List Grammar := [render, invoke, stream, decode, help]

def ofName? (name : String) : Option Grammar := commands.find? fun grammar => grammar.name == name

end Grammar

end Colloquy
