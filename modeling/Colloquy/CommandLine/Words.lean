import Colloquy.CommandLine.Grammar
/-!
# Reading the words of a command line

Words are read one by one.  An option is `--name`, with its value behind `=` or in the next word, or
`-n`, with its value right behind it, behind `=`, or in the next word; short options without a value may
share a word.  A value in a word of its own does not start with `-` unless it is just that.  Behind `--`
every word is an operand.
-/
namespace Colloquy

/-- Why the words of a command line are not read to their end. -/
inductive Interruption where
  /-- They are not of the form of their command. -/
  | misuse
  /-- Help is asked for. -/
  | help
deriving DecidableEq, Repr

/-- The options and operands that were given. -/
structure Given where
  /-- The options by their long names, with their values; a flag has the empty value. -/
  options : List (String × String)
  operands : List String
deriving DecidableEq, Repr

namespace Given

def none : Given := ⟨[], []⟩

def has (given : Given) (name : String) : Bool := given.options.any fun option => option.1 == name

/-- The values of an option, in the order in which they were given. -/
def values (given : Given) (name : String) : List String :=
  (given.options.filter fun option => option.1 == name).map Prod.snd

def value? (given : Given) (name : String) : Option String := (given.values name).head?

def add (given : Given) (option : OptionSpec) (value : String) : Except Interruption Given :=
  match option.kind with
  | .help => .error .help
  | .repeated => .ok { given with options := given.options ++ [(option.long, value)] }
  | .path =>
    if value.isEmpty || given.has option.long then .error .misuse
    else .ok { given with options := given.options ++ [(option.long, value)] }
  | .flag | .single =>
    if given.has option.long then .error .misuse
    else .ok { given with options := given.options ++ [(option.long, value)] }

end Given

/-- A reader of words. -/
structure WordReader where
  given : Given
  /-- The option whose value is the next word. -/
  awaiting : Option OptionSpec
  /-- Whether all further words are operands. -/
  operandsOnly : Bool
deriving DecidableEq, Repr

namespace WordReader

def start : WordReader := ⟨.none, none, false⟩

/-- Whether the next word may be a command. -/
def atCommand (reader : WordReader) : Bool := reader.awaiting.isNone && !reader.operandsOnly

/-- Takes in an option with its value. -/
def add (reader : WordReader) (option : OptionSpec) (value : String) :
    Except Interruption WordReader :=
  (reader.given.add option value).map fun given => { reader with given := given, awaiting := none }

/-- Takes in an operand; a command takes at most one, and it is not empty. -/
def addOperand (grammarOperand : Option OperandSpec) (reader : WordReader) (word : String) :
    Except Interruption WordReader :=
  if grammarOperand.isNone || !reader.given.operands.isEmpty || word.isEmpty then .error .misuse
  else .ok { reader with given := { reader.given with operands := [word] } }

/-- Reads a long option, without its two dashes. -/
def readLong (options : List OptionSpec) (reader : WordReader) (word : List Char) :
    Except Interruption WordReader :=
  let name := String.ofList (word.takeWhile (· != '='))
  match options.find? fun option => option.long == name, word.dropWhile (· != '=') with
  | none, _ => .error .misuse
  | some option, [] =>
    if option.takesValue then .ok { reader with awaiting := some option } else reader.add option ""
  | some option, _ :: value =>
    if option.takesValue then reader.add option (String.ofList value) else .error .misuse

/-- Reads the short options of a word, without its dash. -/
def readShort (options : List OptionSpec) (reader : WordReader) :
    List Char → Except Interruption WordReader
  | [] => .ok reader
  | c :: rest =>
    match options.find? fun option => option.short == some c with
    | none => .error .misuse
    | some option =>
      if option.takesValue then
        match rest with
        | [] => .ok { reader with awaiting := some option }
        | '=' :: value => reader.add option (String.ofList value)
        | value => reader.add option (String.ofList value)
      else
        match reader.add option "" with
        | .ok reader => readShort options reader rest
        | .error interruption => .error interruption

/-- Whether a word is an option or the mark behind the last one. -/
def startsOption (word : List Char) : Bool :=
  match word with
  | '-' :: _ :: _ => true
  | _ => false

def read (options : List OptionSpec) (operand : Option OperandSpec) (reader : WordReader)
    (word : String) : Except Interruption WordReader :=
  if reader.operandsOnly then reader.addOperand operand word
  else
    match reader.awaiting with
    | some option => if startsOption word.toList then .error .misuse else reader.add option word
    | none =>
      match word.toList with
      | ['-', '-'] => .ok { reader with operandsOnly := true }
      | '-' :: '-' :: name => reader.readLong options name
      | '-' :: c :: rest => reader.readShort options (c :: rest)
      | _ => reader.addOperand operand word

/-- What was given, at the end of the words. -/
def finish (reader : WordReader) : Except Interruption Given :=
  if reader.awaiting.isSome then .error .misuse else .ok reader.given

end WordReader

namespace Grammar

/-- Reads the words behind a command. -/
def read (grammar : Grammar) (words : List String) : Except Interruption Given := do
  let reader ← words.foldlM (WordReader.read grammar.options grammar.operand) .start
  reader.finish

/-- Reads the words in front of a command; the command and the words behind it follow. -/
def readProgram (reader : WordReader) :
    List String → Except Interruption (Given × Grammar × List String)
  | [] => .error .misuse
  | word :: rest =>
    match if reader.atCommand then ofName? word else none with
    | some grammar => .ok (reader.given, grammar, rest)
    | none =>
      match reader.read programOptions none word with
      | .ok reader => readProgram reader rest
      | .error interruption => .error interruption

end Grammar

end Colloquy
