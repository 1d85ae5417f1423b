import Colloquy.Json.Reader
/-!
# Passing over values

Where a value is not wanted, only its form is checked: it may hold numbers that are too large, strings
that are no text, and any number of containers in each other.  It is read as null.

* `Json.ofTextSkipping?`: the value of a text in which some values are passed over.
-/
namespace Colloquy

/-- A token as far as only the form counts. -/
def Token.formOnly : Token → Token
  | .hugeNumber => .scalar .null
  | .brokenString => .scalar (.str "")
  | token => token

/-- A reader that passes over some values. -/
inductive Skimmer where
  | reading (reader : Reader)
  /-- The inner reader is inside a value that is passed over. -/
  | passing (outer inner : Reader)
deriving DecidableEq, Repr

namespace Skimmer

/-- Goes on with a reader.  If the value at hand is to be skipped, which the open containers tell, it is
passed over. -/
def goOn (skips : List Frame → Bool) (reader : Reader) : Skimmer :=
  match reader with
  | .atValue outer => if skips outer then passing reader (.atValue []) else reading reader
  | _ => reading reader

/-- Reads one token. -/
def step (rules : Reading) (skips : List Frame → Bool) : Skimmer → Token → Option Skimmer
  | reading reader, token => (reader.step rules token).map (goOn skips)
  | passing outer inner, token => do
    let inner ← inner.step .formOnly token.formOnly
    match inner.result? with
    | some _ => (outer.step rules (.scalar .null)).map (goOn skips)
    | none => some (passing outer inner)

/-- The value read, once the text is at its end. -/
def result? : Skimmer → Option Json
  | reading reader => reader.result?
  | passing _ _ => none

end Skimmer

/-- The value of a JSON text without the values to be skipped. -/
def Json.ofTextSkipping? (rules : Reading) (skips : List Frame → Bool) (text : String) : Option Json := do
  let tokens ← Token.scan text
  let skimmer ← tokens.foldlM (Skimmer.step rules skips) (.reading (.atValue []))
  skimmer.result?

end Colloquy
