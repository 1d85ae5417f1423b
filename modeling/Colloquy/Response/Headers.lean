import Colloquy.Failure
import Colloquy.Text.Blank
import Colloquy.Usage
/-!
# Token counts in response headers

The service states the tokens of a complete response in four headers.  A header that is missing counts
zero; the first one of a name counts.  A value is a decimal number between blanks, possibly behind a plus
sign.
-/
namespace Colloquy

/-- A response header. -/
structure Header where
  name : String
  value : ByteArray

namespace Header

/-- Whether a byte may stand in the text of a header value: visible ASCII, space or tab. -/
def isTextByte (b : UInt8) : Bool := decide (32 ≤ b ∧ b < 127) || b == 9

/-- The text of a header value; nothing if a byte of it is no text. -/
def text? (value : ByteArray) : Option (List Char) :=
  let bytes := value.data.toList
  if bytes.all isTextByte then some (bytes.map fun b => Char.ofNat b.toNat) else none

/-- A byte of a header value as messages show it. -/
def showByte (b : UInt8) : List Char :=
  if b = 34 then ['\\', '"']
  else if isTextByte b then [Char.ofNat b.toNat]
  else '\\' :: 'x' :: Nat.toDigits 16 b.toNat

/-- A header value as messages show it, in quotes. -/
def showValue (value : ByteArray) : String :=
  String.ofList ('"' :: value.data.toList.flatMap showByte ++ ['"'])

/-- The count that a text of digits states, if 64 bits hold it. -/
def countOfDigits? (digits : List Char) : Option UInt64 :=
  if digits.isEmpty || !digits.all Char.isDigit then none
  else
    let n := digits.foldl (fun n c => 10 * n + (c.toNat - '0'.toNat)) 0
    if n < UInt64.size then some (UInt64.ofNat n) else none

/-- The count that a header value states. -/
def count? (value : ByteArray) : Option UInt64 := do
  let text ← text? value
  match trim text with
  | '+' :: digits => countOfDigits? digits
  | digits => countOfDigits? digits

/-- Whether a header has a name, in whatever letter case. -/
def isNamed (name : String) (header : Header) : Bool := header.name.toList.map Char.toLower == name.toList

/-- The value of the first header with a name. -/
def find? (headers : List Header) (name : String) : Option ByteArray :=
  (headers.find? (isNamed name)).map Header.value

/-- Whether no header with a name follows another one. -/
def isNotRepeated (headers : List Header) (name : String) : Bool :=
  decide ((headers.filter (isNamed name)).length ≤ 1)

def count (headers : List Header) (name : String) : Except Failure UInt64 :=
  match find? headers name with
  | none => .ok 0
  | some value =>
    match count? value with
    | some n => .ok n
    | none => .error (.decode (.headerNotCount name (showValue value)))

def inputTokens : String := "x-amzn-bedrock-input-token-count"

def outputTokens : String := "x-amzn-bedrock-output-token-count"

def cacheReadTokens : String := "x-amzn-bedrock-cache-read-input-token-count"

def cacheWriteTokens : String := "x-amzn-bedrock-cache-write-input-token-count"

end Header

namespace Usage

/-- The usage that response headers state.  Tokens read from the cache count in the total. -/
def ofHeaders (headers : List Header) : Except Failure Usage := do
  let prompt ← Header.count headers Header.inputTokens
  let completion ← Header.count headers Header.outputTokens
  let cacheRead ← Header.count headers Header.cacheReadTokens
  let cacheWrite ← Header.count headers Header.cacheWriteTokens
  return ⟨prompt, completion, cacheRead, cacheWrite, capAdd (capAdd prompt cacheRead) completion⟩

end Usage

end Colloquy
