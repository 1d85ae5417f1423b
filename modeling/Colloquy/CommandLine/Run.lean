import Colloquy.CommandLine.Arguments
import Colloquy.CommandLine.Messages
import Colloquy.Invoker.Exchange
import Colloquy.Settings.Reader
import Colloquy.Stream.Items
/-!
# Running a command

A command reads the settings first, then its own input.  What it printed before an error stays printed.

* `Arguments.run`: the outcome of the arguments.
* `CommandLine.run`: the outcome of the words of a command line.
-/
namespace Colloquy

/-- What a path leads to. -/
inductive PathEntry where
  | missing
  | directory
  | file (bytes : ByteArray)

/-- What a command meets: files, the environment, and the service. -/
structure Surroundings where
  entry : String → PathEntry
  env : Environment
  transport : Transport

/-- Why a command ends with an error. -/
inductive Complaint where
  | configUnreadable (path : String)
  | settings (fault : SettingsFault)
  | messagesUnreadable (path : String)
  | messagesMalformed
  | kwargsMalformed
  | eventsMissing (path : String)
  | eventsDirectory
  | eventsNotText
  | failure (failure : Failure)
deriving DecidableEq, Repr

/-- What a command prints, and the error with which it ends, if any. -/
structure CommandResult where
  output : String
  complaint : Option Complaint
deriving DecidableEq, Repr

/-- The outcome of a whole run: its exit code, what it printed, and its error message. -/
structure Outcome where
  exit : Nat
  output : String
  message : Option String
deriving DecidableEq, Repr

namespace Complaint

def message : Complaint → String
  | configUnreadable path => "failed to read config file " ++ path
  | settings fault => fault.message
  | messagesUnreadable path => "failed to read " ++ path
  | messagesMalformed => "messages file is not a list of messages"
  | kwargsMalformed => "--kwargs must be a JSON object"
  | eventsMissing path => "failed to open " ++ path
  | eventsDirectory => "Is a directory (os error 21)"
  | eventsNotText => "stream did not contain valid UTF-8"
  | failure cause => cause.message

end Complaint

namespace CommandResult

/-- The result of a computation that may end with an error before anything is printed. -/
def ofExcept : Except Complaint CommandResult → CommandResult
  | .ok result => result
  | .error complaint => ⟨"", some complaint⟩

end CommandResult

/-- A failure as the error of a command. -/
def complaining (result : Except Failure α) : Except Complaint α := result.mapError .failure

namespace Surroundings

def text? (surroundings : Surroundings) (path : String) : Option String :=
  match surroundings.entry path with
  | .file bytes => String.fromUTF8? bytes
  | .missing | .directory => none

def settings (surroundings : Surroundings) (path : String) : Except Complaint Settings :=
  match surroundings.text? path with
  | none => .error (.configUnreadable path)
  | some text => (Settings.ofText surroundings.env text).mapError .settings

def input (surroundings : Surroundings) : InputSource → Except Complaint Input
  | .prompt text => .ok (.prompt text)
  | .messages path =>
    match surroundings.text? path with
    | none => .error (.messagesUnreadable path)
    | some text =>
      match Message.listOfText? text with
      | some messages => .ok (.conversation messages)
      | none => .error .messagesMalformed

/-- The fields in a text of extra request fields. -/
def kwargs : Option String → Except Complaint Fields
  | none => .ok []
  | some text =>
    match (Json.ofText? text).bind Json.asObject? with
    | some fields => .ok fields
    | none => .error .kwargsMalformed

/-- The call that arguments describe. -/
def call (surroundings : Surroundings) (arguments : InputArguments) : Except Complaint Call := do
  let input ← surroundings.input arguments.source
  let overrides ← kwargs arguments.kwargs
  return ⟨input, arguments.system, none, arguments.stops, overrides⟩

end Surroundings

namespace Command

def line (text : String) : String := text ++ "\n"

def invoker (settings : Settings) : Except Complaint Invoker :=
  complaining (Invoker.ofSettings settings.model settings.guardrails)

/-- Prints the request body of a call. -/
def runRender (surroundings : Surroundings) (settings : Settings) (arguments : InputArguments)
    (streaming : Bool) : Except Complaint CommandResult := do
  let invoker ← invoker settings
  let call ← surroundings.call arguments
  let prepared ← complaining (invoker.prepare call streaming)
  return ⟨line prepared.body.pretty, none⟩

/-- Prints the text of a complete reply, and its tool calls line by line. -/
def runInvoke (surroundings : Surroundings) (settings : Settings) (arguments : InputArguments) :
    Except Complaint CommandResult := do
  let invoker ← invoker settings
  let call ← surroundings.call arguments
  let reply ← complaining (invoker.invoke surroundings.transport call).result
  return ⟨line reply.text ++ String.join (reply.toolCalls.map fun call => line call.toJsonInOrder.compact),
    none⟩

/-- What a chunk prints while it is streamed: text as it is, structured content on a line of its own. -/
def liveText (chunk : Chunk) : String :=
  match chunk with
  | .text text => text
  | .content _ | .toolCall _ => "\n" ++ line chunk.toJsonInOrder.compact
  | .metadata _ | .usage _ => ""

def recordLine (chunk : Chunk) : String := line chunk.toJsonInOrder.compact

/-- Prints the chunks of a stream with `print`, and `ending` behind the last one if nothing fails. -/
def printItems (print : Chunk → String) (ending : String) : List Item → CommandResult
  | [] => ⟨ending, none⟩
  | .error failure :: _ => ⟨"", some (.failure failure)⟩
  | .ok chunk :: rest =>
    let result := printItems print ending rest
    { result with output := print chunk ++ result.output }

/-- Prints a streamed reply as it comes. -/
def runStream (surroundings : Surroundings) (settings : Settings) (arguments : InputArguments) :
    Except Complaint CommandResult := do
  let invoker ← invoker settings
  let call ← surroundings.call arguments
  let stream ← complaining (invoker.stream surroundings.transport call).result
  return printItems liveText (line "") stream.decoder.items

/-- The options for decoding recorded events. -/
def decodeOptions (messages structured : Bool) : DecodeOptions :=
  if messages then .messages (!structured) else .completion

/-- The lines of a text: each ends with a line feed, and a carriage return in front of it does not
belong to it.  The last one may end with the text. -/
def linesOf (text : String) : List (List Char) :=
  let segments := splitOnChar '\n' text.toList
  let whole := segments.dropLast.map fun segment =>
    if segment.getLast? = some '\r' then segment.dropLast else segment
  whole ++ segments.getLast?.toList

/-- The recorded events in a text: its lines that are not blank. -/
def recordedEvents (text : String) : List SourceItem :=
  ((linesOf text).filter fun segment => !(trim segment).isEmpty).map fun segment =>
    .event (String.ofList segment).toUTF8

/-- Prints the chunks of recorded events line by line.  A directory can be opened, but not read. -/
def runDecode (surroundings : Surroundings) (settings : Settings) (path : String)
    (options : DecodeOptions) : Except Complaint CommandResult := do
  let content ←
    match surroundings.entry path with
    | .missing => .error (.eventsMissing path)
    | .directory => .ok none
    | .file bytes => .ok (some bytes)
  let provider ← complaining settings.model.target.resolveProvider
  let bytes ← content.elim (.error .eventsDirectory) .ok
  let text ← (String.fromUTF8? bytes).elim (.error .eventsNotText) .ok
  let stream ← complaining (StreamDecoder.start provider options (recordedEvents text))
  return printItems recordLine "" stream.items

/-- Runs a command with some settings. -/
def run (surroundings : Surroundings) (settings : Settings) : Command → Except Complaint CommandResult
  | render input streaming => runRender surroundings settings input streaming
  | invoke input => runInvoke surroundings settings input
  | stream input => runStream surroundings settings input
  | decode events messages structured =>
    runDecode surroundings settings events (decodeOptions messages structured)

end Command

namespace Arguments

/-- Reads the settings and runs the command. -/
def run (surroundings : Surroundings) (arguments : Arguments) : CommandResult :=
  .ofExcept do
    let settings ← surroundings.settings arguments.config
    arguments.command.run surroundings settings

end Arguments

namespace CommandLine

/-- Runs the words of a command line.  An error exits with 1, misuse with 2. -/
def run (surroundings : Surroundings) (words : List String) : Outcome :=
  match Arguments.ofWords surroundings.env words with
  | .error .misuse => ⟨2, "", none⟩
  | .error (.help page) => ⟨0, page, none⟩
  | .ok arguments =>
    let result := arguments.run surroundings
    match result.complaint with
    | some complaint => ⟨1, result.output, some complaint.message⟩
    | none => ⟨0, result.output, none⟩

end CommandLine

end Colloquy
