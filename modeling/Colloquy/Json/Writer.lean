import Colloquy.Json.Basic
import Colloquy.Number.Shortest
/-!
# Writing JSON text

`Json.compact` writes a value without blanks, `Json.pretty` over several lines with two blanks per level.
Characters beyond ASCII stand for themselves; `"`, `\` and the control characters below U+0020 are
escaped.  Members are written in the order they have in the value.

A floating-point number is written with the fewest digits that read back.  Its exponent of ten decides
the form: from -5 to 15 positional, with at least one digit on each side of the point, otherwise
scientific with the sign of the exponent always written.
-/
namespace Colloquy

namespace Json

def hexDigit (n : Nat) : Char := if n < 10 then Char.ofNat (48 + n) else Char.ofNat (87 + n)

/-- A character as it stands between the quotes of a string. -/
def escapeChar (c : Char) : List Char :=
  if c = '"' then ['\\', '"']
  else if c = '\\' then ['\\', '\\']
  else if c = '\x08' then ['\\', 'b']
  else if c = '\x0c' then ['\\', 'f']
  else if c = '\n' then ['\\', 'n']
  else if c = '\r' then ['\\', 'r']
  else if c = '\t' then ['\\', 't']
  else if c < ' ' then ['\\', 'u', '0', '0', hexDigit (c.toNat / 16), hexDigit (c.toNat % 16)]
  else [c]

def quote (s : String) : String :=
  String.ofList ('"' :: s.toList.flatMap escapeChar ++ ['"'])

/-- The digits of a positive decimal number in positional form. -/
def positional (digits : List Char) (leading : Int) : List Char :=
  let zeros := fun (n : Int) => List.replicate n.toNat '0'
  if leading < 0 then '0' :: '.' :: zeros (-leading - 1) ++ digits
  else
    let count := leading.toNat + 1
    let whole := digits.take count ++ zeros ((count : Int) - (digits.length : Int))
    let fraction := digits.drop count
    whole ++ '.' :: (if fraction.isEmpty then ['0'] else fraction)

/-- The digits of a positive decimal number in scientific form. -/
def scientific (digits : List Char) (leading : Int) : List Char :=
  let mantissa :=
    match digits with
    | [] => []
    | [d] => [d]
    | d :: rest => d :: '.' :: rest
  mantissa ++ 'e' :: (if leading < 0 then '-' else '+') :: Nat.toDigits 10 leading.natAbs

/-- The text of a finite floating-point number. -/
def floatText (x : Binary64) : String :=
  let decimal := x.shortest
  let digits := Nat.toDigits 10 decimal.digits
  let leading := decimal.leading
  let body :=
    if x.isZero then ['0', '.', '0']
    else if -5 ≤ leading ∧ leading < 16 then positional digits leading
    else scientific digits leading
  String.ofList (if x.isNegative then '-' :: body else body)

/-- The text of a value that holds no other values; of a container, nothing. -/
def scalarText : Json → String
  | null => "null"
  | bool true => "true"
  | bool false => "false"
  | int n => toString n
  | float x => if x.isFinite then floatText x else "null"
  | str s => quote s
  | arr _ | obj _ => ""

mutual

/-- The text of a value on one line, without blanks. -/
def compact : Json → String
  | arr items => "[" ++ ",".intercalate (compactItems items) ++ "]"
  | obj fields => "\x7b" ++ ",".intercalate (compactMembers fields) ++ "\x7d"
  | scalar => scalarText scalar

def compactItems : List Json → List String
  | [] => []
  | item :: rest => compact item :: compactItems rest

def compactMembers : List (String × Json) → List String
  | [] => []
  | (key, value) :: rest => (quote key ++ ":" ++ compact value) :: compactMembers rest

end

/-- A line break followed by the indentation of a level. -/
def lineBreak (level : Nat) : String := "\n" ++ String.ofList (List.replicate (2 * level) ' ')

/-- A container on several lines: its parts one level further in, its end on the level of its start. -/
def block (start stop : String) (level : Nat) (parts : List String) : String :=
  start ++ lineBreak (level + 1) ++ ("," ++ lineBreak (level + 1)).intercalate parts ++ lineBreak level
    ++ stop

mutual

/-- The text of a value over several lines, at a level of indentation. -/
def prettyAt : Nat → Json → String
  | _, arr [] => "[]"
  | level, arr (item :: rest) => block "[" "]" level (prettyItems (level + 1) (item :: rest))
  | _, obj [] => "\x7b\x7d"
  | level, obj (member :: rest) =>
    block "\x7b" "\x7d" level (prettyMembers (level + 1) (member :: rest))
  | _, scalar => scalarText scalar

def prettyItems : Nat → List Json → List String
  | _, [] => []
  | level, item :: rest => prettyAt level item :: prettyItems level rest

def prettyMembers : Nat → List (String × Json) → List String
  | _, [] => []
  | level, (key, value) :: rest =>
    (quote key ++ ": " ++ prettyAt level value) :: prettyMembers level rest

end

/-- The text of a value over several lines. -/
def pretty (value : Json) : String := prettyAt 0 value

end Json

end Colloquy
