import Colloquy.Toml.Scalar
/-!
# Strings, keys and blanks in TOML text

Each reader takes what it reads off the start of a text and answers it with the rest.
-/
namespace Colloquy

namespace Toml

def isSpace (c : Char) : Bool := c == ' ' || c == '\t'

def skipSpace (text : List Char) : List Char := text.dropWhile isSpace

/-- A control character, which may stand nowhere but for tabs and line breaks. -/
def isControl (c : Char) : Bool := (decide (c < ' ') && c != '\t') || c == '\x7f'

/-- The rest behind a line break, if there is one here. -/
def afterBreak? : List Char → Option (List Char)
  | '\n' :: rest => some rest
  | '\r' :: '\n' :: rest => some rest
  | _ => none

/-- The rest of a text from the end of its first line on; that line is a comment. -/
def skipComment : List Char → Option (List Char)
  | [] => some []
  | '\n' :: rest => some ('\n' :: rest)
  | '\r' :: '\n' :: rest => some ('\r' :: '\n' :: rest)
  | c :: rest => if isControl c then none else skipComment rest

/-- Skips blanks, comments and line breaks; `inComment` tells whether the text starts in a comment. -/
def skipLines (inComment : Bool) : List Char → Option (List Char)
  | [] => some []
  | '\n' :: rest => skipLines false rest
  | '\r' :: '\n' :: rest => skipLines false rest
  | c :: rest =>
    if inComment then if isControl c then none else skipLines true rest
    else if isSpace c then skipLines false rest
    else if c = '#' then skipLines true rest
    else some (c :: rest)

/-- The end of a line: blanks, perhaps a comment, and a line break or the end of the text. -/
def endLine (text : List Char) : Option (List Char) :=
  match skipSpace text with
  | [] => some []
  | '#' :: rest =>
    (skipComment rest).bind fun rest => if rest.isEmpty then some [] else afterBreak? rest
  | rest => afterBreak? rest

def isHexText (text : List Char) : Bool := text.all isHexDigit

/-- The character with the code point that some hexadecimal digits write. -/
def charOfHex? (digits : List Char) : Option Char :=
  let n := natOfDigits 16 digits
  if isHexText digits && (decide (n < 0xd800) || decide (0xdfff < n ∧ n < 0x110000)) then
    some (Char.ofNat n)
  else none

/-- How many hexadecimal digits follow the letter of an escape. -/
def escapeDigits? : Char → Option Nat
  | 'x' => some 2
  | 'u' => some 4
  | 'U' => some 8
  | _ => none

/-- The character that a letter behind a backslash stands for. -/
def escapeLetter? : Char → Option Char
  | 'b' => some '\x08'
  | 't' => some '\t'
  | 'n' => some '\n'
  | 'f' => some '\x0c'
  | 'r' => some '\r'
  | 'e' => some '\x1b'
  | '"' => some '"'
  | '\\' => some '\\'
  | _ => none

/-- The character of an escape whose backslash stands just before the text, and the number of
characters that the escape takes. -/
def escape? : List Char → Option (Char × Nat)
  | [] => none
  | c :: rest =>
    match escapeDigits? c with
    | some count =>
      if rest.length < count then none
      else (charOfHex? (rest.take count)).map fun found => (found, count + 1)
    | none => (escapeLetter? c).map fun found => (found, 1)

/-- The content of a string on one line, and what follows its closing quote.  `skip` counts the
characters at the start that belong to an escape. -/
def basicString : (skip : Nat) → List Char → Option (List Char × List Char)
  | _, [] => none
  | skip + 1, _ :: rest => basicString skip rest
  | 0, '"' :: rest => some ([], rest)
  | 0, '\\' :: rest => do
    let (c, taken) ← escape? rest
    let (content, rest) ← basicString taken rest
    some (c :: content, rest)
  | 0, c :: rest =>
    if isControl c then none
    else (basicString 0 rest).map fun (content, rest) => (c :: content, rest)

/-- The content of a string on one line without escapes, and what follows its closing quote. -/
def literalString : List Char → Option (List Char × List Char)
  | [] => none
  | '\'' :: rest => some ([], rest)
  | c :: rest =>
    if isControl c then none
    else (literalString rest).map fun (content, rest) => (c :: content, rest)

/-- How many of the first five characters of a text are a quote. -/
def quotesAhead (quote : Char) (text : List Char) : Nat :=
  ((text.take 5).takeWhile (· == quote)).length

/-- Whether a backslash in front of the text joins lines: only blanks follow up to the line break. -/
def joinsLines (text : List Char) : Bool := (afterBreak? (skipSpace text)).isSome

/-- How many characters the blanks and line breaks at the start of a text take. -/
def blanksAhead : List Char → Nat
  | '\n' :: rest => blanksAhead rest + 1
  | '\r' :: '\n' :: rest => blanksAhead rest + 2
  | c :: rest => if isSpace c then blanksAhead rest + 1 else 0
  | [] => 0

/-- The content of a string over several lines, and what follows its three closing quotes, in front of
which up to two more belong to the content.  `escapes` tells whether backslashes are escapes; `skip`
counts the characters at the start that have been dealt with. -/
def longString (quote : Char) (escapes : Bool) :
    (skip : Nat) → List Char → Option (List Char × List Char)
  | _, [] => none
  | skip + 1, _ :: rest => longString quote escapes skip rest
  | 0, '\r' :: '\n' :: rest =>
    (longString quote escapes 0 rest).map fun (content, rest) => ('\r' :: '\n' :: content, rest)
  | 0, c :: rest =>
    if c = quote ∧ 3 ≤ quotesAhead quote (c :: rest) then
      let count := quotesAhead quote (c :: rest)
      some (List.replicate (count - 3) quote, (c :: rest).drop count)
    else if c = '\\' ∧ escapes then
      if joinsLines rest then longString quote escapes (blanksAhead rest) rest
      else do
        let (c, taken) ← escape? rest
        let (content, rest) ← longString quote escapes taken rest
        some (c :: content, rest)
    else if isControl c && c != '\n' then none
    else (longString quote escapes 0 rest).map fun (content, rest) => (c :: content, rest)

/-- A text without the line break at its start. -/
def skipBreak (text : List Char) : List Char := (afterBreak? text).getD text

/-- A quoted string of any kind, if the text starts with a quote. -/
def quoted? : List Char → Option (List Char × List Char)
  | '"' :: '"' :: '"' :: rest => longString '"' true 0 (skipBreak rest)
  | '\'' :: '\'' :: '\'' :: rest => longString '\'' false 0 (skipBreak rest)
  | '"' :: rest => basicString 0 rest
  | '\'' :: rest => literalString rest
  | _ => none

def isBareKeyChar (c : Char) : Bool := c.isAlphanum || c == '_' || c == '-'

/-- One part of a key: bare, or a string on one line. -/
def keyPart? : List Char → Option (String × List Char)
  | '"' :: rest => (basicString 0 rest).map fun (content, rest) => (String.ofList content, rest)
  | '\'' :: rest => (literalString rest).map fun (content, rest) => (String.ofList content, rest)
  | text =>
    let part := text.takeWhile isBareKeyChar
    if part.isEmpty then none else some (String.ofList part, text.dropWhile isBareKeyChar)

/-- A key of one or more parts with points between; `rounds` bounds their number. -/
def key? : (rounds : Nat) → List Char → Option (List String × List Char)
  | 0, _ => none
  | rounds + 1, text => do
    let (part, rest) ← keyPart? text
    match skipSpace rest with
    | '.' :: rest => do
      let (parts, rest) ← key? rounds (skipSpace rest)
      some (part :: parts, rest)
    | rest => some ([part], rest)

end Toml

end Colloquy
