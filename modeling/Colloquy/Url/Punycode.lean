/-!
# Punycode

Texts of any characters in letters, figures and hyphens.  The ASCII characters stand first, with a hyphen
behind them if there are any.  Then each other character, in the order of the code points, is written as
a number: how many places it is away from the one before, where each code point has one place between
all the characters so far.  Numbers are written in digits whose weights adapt to the numbers before.

* `Punycode.encode`, `Punycode.decode?`: between a text and its written form.
-/
namespace Colloquy

namespace Punycode

/-- A digit: the letters are 0 to 25, the figures 26 to 35. -/
def digitChar (n : Nat) : Char :=
  if n < 26 then Char.ofNat ('a'.toNat + n) else Char.ofNat ('0'.toNat + (n - 26))

/-- The value of a digit. -/
def digit? (c : Char) : Option Nat :=
  if 'a' ≤ c ∧ c ≤ 'z' then some (c.toNat - 'a'.toNat)
  else if 'A' ≤ c ∧ c ≤ 'Z' then some (c.toNat - 'A'.toNat)
  else if c.isDigit then some (c.toNat - '0'.toNat + 26)
  else none

/-- Digits below the threshold of their place end a number.  Places are counted in steps of 36. -/
def threshold (bias place : Nat) : Nat := min 26 (max 1 (place - bias))

theorem one_le_threshold (bias place : Nat) : 1 ≤ threshold bias place := by
  simp only [threshold]; omega

/-- The bias that suits numbers of the size of `delta`. -/
def biasFor (delta place : Nat) : Nat :=
  if 455 < delta then biasFor (delta / 35) (place + 36) else place + 36 * delta / (delta + 38)
termination_by delta
decreasing_by exact Nat.div_lt_self (by omega) (by omega)

/-- The bias behind a number, when `count` characters stand.  The first number is taken to be large. -/
def nextBias (delta count : Nat) (isFirst : Bool) : Nat :=
  let scaled := if isFirst then delta / 700 else delta / 2
  biasFor (scaled + scaled / count) 0

/-- A number in digits, from `place` on. -/
def digitsOf (bias place n : Nat) : List Char :=
  let t := threshold bias place
  if n < t then [digitChar n]
  else digitChar (t + (n - t) % (36 - t)) :: digitsOf bias (place + 36) ((n - t) / (36 - t))
termination_by n
decreasing_by
  have := one_le_threshold bias place
  have := Nat.div_le_self (n - threshold bias place) (36 - threshold bias place)
  omega

def isAscii (c : Char) : Bool := decide (c.toNat < 128)

/-- Adds a number to ascending ones unless it is there. -/
def insertCode (code : Nat) : List Nat → List Nat
  | [] => [code]
  | next :: rest =>
    if code < next then code :: next :: rest
    else if code = next then next :: rest
    else next :: insertCode code rest

/-- A text while it is encoded: the places passed since the last character written, the bias, how many
characters are written, and what is written. -/
structure Encoder where
  delta : Nat
  bias : Nat
  count : Nat
  written : List Char
deriving DecidableEq, Repr

/-- Passes a character of the text, writing it if it has the code that is due. -/
def Encoder.pass (basic code : Nat) (encoder : Encoder) (c : Char) : Encoder :=
  if c.toNat < code then { encoder with delta := encoder.delta + 1 }
  else if c.toNat = code then
    { delta := 0
      bias := nextBias encoder.delta (encoder.count + 1) (encoder.count == basic)
      count := encoder.count + 1
      written := encoder.written ++ digitsOf encoder.bias 36 encoder.delta }
  else encoder

/-- Writes the characters with the given codes, which ascend from `due` on. -/
def encodeCodes (text : List Char) (basic : Nat) : (due : Nat) → List Nat → Encoder → Encoder
  | _, [], encoder => encoder
  | due, code :: codes, encoder =>
    let moved := { encoder with delta := encoder.delta + (code - due) * (encoder.count + 1) }
    let passed := text.foldl (Encoder.pass basic code) moved
    encodeCodes text basic (code + 1) codes { passed with delta := passed.delta + 1 }

/-- The written form of a text. -/
def encode (text : List Char) : List Char :=
  let basic := text.filter isAscii
  let codes := (text.filter fun c => !isAscii c).foldr (fun c codes => insertCode c.toNat codes) []
  let encoder := encodeCodes text basic.length 128 codes ⟨0, 72, basic.length, []⟩
  (if basic.isEmpty then [] else basic ++ ['-']) ++ encoder.written

/-- A text while it is decoded: the characters so far, the code and place of the next one, the bias, and
the number being read with the place and weight of its next digit. -/
structure Decoder where
  text : List Char
  code : Nat
  place : Nat
  bias : Nat
  number : Nat
  digitPlace : Nat
  weight : Nat
deriving DecidableEq, Repr

/-- A code point that is no surrogate, as a character. -/
def charOfCode? (code : Nat) : Option Char :=
  if code < 0xd800 ∨ (0xdfff < code ∧ code < 0x110000) then some (Char.ofNat code) else none

/-- Takes in a digit.  The last digit of a number puts a character into the text. -/
def Decoder.add (decoder : Decoder) (c : Char) : Option Decoder := do
  let digit ← digit? c
  let number := decoder.number + digit * decoder.weight
  let t := threshold decoder.bias decoder.digitPlace
  if t ≤ digit then
    some { decoder with
      number := number
      digitPlace := decoder.digitPlace + 36
      weight := decoder.weight * (36 - t) }
  else
    let count := decoder.text.length + 1
    let moved := decoder.place + number
    let code := decoder.code + moved / count
    let place := moved % count
    let found ← charOfCode? code
    some
      { text := decoder.text.take place ++ found :: decoder.text.drop place
        code := code
        place := place + 1
        bias := nextBias number count (decoder.place == 0)
        number := 0
        digitPlace := 36
        weight := 1 }

/-- The text with a written form, in which no number may be left open. -/
def decode? (written : List Char) : Option (List Char) := do
  let digits := (written.reverse.takeWhile (· != '-')).reverse
  let basic := written.take (written.length - digits.length - 1)
  let digits := if basic.isEmpty then written else digits
  let decoder ← digits.foldlM Decoder.add ⟨basic, 128, 0, 72, 0, 36, 1⟩
  if decoder.digitPlace = 36 ∧ basic.all isAscii then some decoder.text else none

end Punycode

end Colloquy
