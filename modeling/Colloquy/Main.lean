import Colloquy.CommandLine.Run
import Colloquy.Http.Exchange
/-!
# The program

Reads the words of the command line, the files and environment variables that they call for, and prints
the outcome.  The program has no connection to the service: a request that would be sent fails as one
that does not reach it.
-/
namespace Colloquy

namespace CommandLine

/-- What a path leads to; a file that cannot be read counts as missing. -/
def readEntry (path : String) : IO PathEntry := do
  try
    return .file (← IO.FS.readBinFile path)
  catch error =>
    match error with
    | .inappropriateType _ 21 _ => return .directory
    | _ => return .missing

/-- What the paths of some arguments lead to. -/
def readEntries (paths : List String) : IO (List (String × PathEntry)) :=
  paths.mapM fun path => do return (path, ← readEntry path)

/-- The variables with the given names. -/
def readVariables (names : List String) : IO (List (String × Option String)) :=
  names.mapM fun name => do return (name, ← IO.getEnv name)

/-- What is kept under a name. -/
def lookupIn (table : List (String × Option α)) (name : String) : Option α :=
  (table.find? fun entry => entry.1 == name).bind Prod.snd

/-- What is known of a path. -/
def entryIn (table : List (String × PathEntry)) (path : String) : PathEntry :=
  ((table.find? fun entry => entry.1 == path).map Prod.snd).getD .missing

/-- The surroundings of the program for some words. -/
def readSurroundings (words : List String) : IO Surroundings := do
  let configured ← readVariables [Grammar.configVariable]
  match Arguments.ofWords (lookupIn configured) words with
  | .error _ => return ⟨fun _ => .missing, lookupIn configured, Transport.http .unreachable⟩
  | .ok arguments =>
    let entries ← readEntries arguments.files
    let surroundings : Surroundings :=
      ⟨entryIn entries, lookupIn configured, Transport.http .unreachable⟩
    let text := (surroundings.text? arguments.config).getD ""
    let filledIn ← readVariables (placeholderVariables text)
    return { surroundings with env := lookupIn (configured ++ filledIn) }

end CommandLine

end Colloquy

def main (words : List String) : IO UInt32 := do
  let surroundings ← Colloquy.CommandLine.readSurroundings words
  let outcome := Colloquy.CommandLine.run surroundings words
  IO.print outcome.output
  match outcome.message with
  | some message => IO.eprintln ("Error: " ++ message)
  | none => pure ()
  return outcome.exit.toUInt32
