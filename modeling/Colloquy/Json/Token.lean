import Colloquy.Json.Numeral
import Colloquy.Text.Hexadecimal
/-!
# Tokens of JSON text

`Token.scan` cuts a text into punctuation and scalars.  Blanks are space, tab, line feed and carriage
return.  A run of letters, digits and the characters `+`, `-` and `.` is one word, which must be a
literal name or a numeral.  In a string, control characters below U+0020 must be escaped, and escaped
surrogates stand for a character only in pairs.
-/
namespace Colloquy

/-- One token of JSON text. -/
inductive Token where
  | arrayStart
  | arrayEnd
  | objectStart
  | objectEnd
  | comma
  | colon
  | scalar (value : Json)
  /-- A numeral that is too large for a number. -/
  | hugeNumber
  /-- A string with a surrogate that is not half of a pair, and so no text. -/
  | brokenString
deriving DecidableEq, Repr

namespace Token

def isBlank (c : Char) : Bool := c == ' ' || c == '\t' || c == '\n' || c == '\r'

def isWordChar (c : Char) : Bool := c.isAlphanum || c == '+' || c == '-' || c == '.'

/-- Whether a word goes on at the start of `rest`. -/
def wordGoesOn : List Char → Bool
  | c :: _ => isWordChar c
  | [] => false

/-- The punctuation tokens. -/
def punctuation? : Char → Option Token
  | '[' => some arrayStart
  | ']' => some arrayEnd
  | '\x7b' => some objectStart
  | '\x7d' => some objectEnd
  | ',' => some comma
  | ':' => some colon
  | _ => none

def ofNumeral (numeral : Numeral) : Token :=
  match numeral.value? with
  | some value => scalar value
  | none => hugeNumber

/-- The token of a word: a literal name or a numeral. -/
def ofWord? (word : List Char) : Option Token :=
  if word = ['n', 'u', 'l', 'l'] then some (scalar .null)
  else if word = ['t', 'r', 'u', 'e'] then some (scalar (.bool true))
  else if word = ['f', 'a', 'l', 's', 'e'] then some (scalar (.bool false))
  else (Numeral.ofChars? word).map ofNumeral

/-- The number written by four hexadecimal digits. -/
def hexQuad? (a b c d : Char) : Option Nat := do
  let a ← hexDigit? a
  let b ← hexDigit? b
  let c ← hexDigit? c
  let d ← hexDigit? d
  some (((a * 16 + b) * 16 + c) * 16 + d)

/-- The character behind a backslash, `u` apart. -/
def simpleEscape? : Char → Option Char
  | '"' => some '"'
  | '\\' => some '\\'
  | '/' => some '/'
  | 'b' => some '\x08'
  | 'f' => some '\x0c'
  | 'n' => some '\n'
  | 'r' => some '\r'
  | 't' => some '\t'
  | _ => none

def isHighSurrogate (n : Nat) : Bool := decide (0xd800 ≤ n ∧ n < 0xdc00)

def isLowSurrogate (n : Nat) : Bool := decide (0xdc00 ≤ n ∧ n < 0xe000)

/-- The character that a pair of surrogates stands for. -/
def joinSurrogates (high low : Nat) : Char :=
  Char.ofNat (0x10000 + (high - 0xd800) * 0x400 + (low - 0xdc00))

/-- A string while it is scanned: its characters so far, last one first, the surrogate just read that
still wants its other half, and whether some surrogate stands alone. -/
structure StringDraft where
  content : List Char
  waiting : Option Nat
  broken : Bool
deriving DecidableEq, Repr

namespace StringDraft

def empty : StringDraft := ⟨[], none, false⟩

def add (draft : StringDraft) (c : Char) : StringDraft :=
  ⟨c :: draft.content, none, draft.broken || draft.waiting.isSome⟩

/-- Takes in the number of an escape. -/
def addUnit (draft : StringDraft) (unit : Nat) : StringDraft :=
  if isHighSurrogate unit then
    { draft with waiting := some unit, broken := draft.broken || draft.waiting.isSome }
  else if isLowSurrogate unit then
    match draft.waiting with
    | some high => { draft with content := joinSurrogates high unit :: draft.content, waiting := none }
    | none => { draft with broken := true }
  else draft.add (Char.ofNat unit)

def token (draft : StringDraft) : Token :=
  if draft.broken || draft.waiting.isSome then brokenString
  else scalar (.str (String.ofList draft.content.reverse))

end StringDraft

mutual

/-- Scans outside strings; `word` holds the characters of the current word, last one first. -/
def scanFrom : List Char → (word : List Char) → Option (List Token)
  | [], _ => some []
  | c :: rest, word =>
    if isWordChar c then
      if wordGoesOn rest then scanFrom rest (c :: word)
      else do
        let token ← ofWord? (c :: word).reverse
        let tokens ← scanFrom rest []
        some (token :: tokens)
    else if isBlank c then scanFrom rest []
    else if c = '"' then scanString rest .empty
    else do
      let token ← punctuation? c
      let tokens ← scanFrom rest []
      some (token :: tokens)

/-- Scans inside a string. -/
def scanString : List Char → StringDraft → Option (List Token)
  | [], _ => none
  | '"' :: rest, draft => do
    let tokens ← scanFrom rest []
    some (draft.token :: tokens)
  | '\\' :: 'u' :: a :: b :: c :: d :: rest, draft => do
    let unit ← hexQuad? a b c d
    scanString rest (draft.addUnit unit)
  | '\\' :: c :: rest, draft => do
    let c ← simpleEscape? c
    scanString rest (draft.add c)
  | c :: rest, draft => if c = '\\' ∨ c < ' ' then none else scanString rest (draft.add c)

end

/-- The tokens of a text; nothing if some part of it is no token. -/
def scan (text : String) : Option (List Token) := scanFrom text.toList []

end Token

end Colloquy
