import Colloquy.Text.Hexadecimal
import Colloquy.Text.Search
/-!
# Ranges of code points

Properties of characters are kept as texts: words with blanks between them, each a code point in
hexadecimal or a range of them, as in `41-5a`.  A row of a table is such a word with one or more code
points behind a colon, as in `c0:41.300`.
-/
namespace Colloquy

/-- The code points from `first` to `last`. -/
structure CodeRange where
  first : Nat
  last : Nat
deriving DecidableEq, Repr

/-- The words of a text: what stands between its blanks and line breaks. -/
def tableWords (text : String) : List (List Char) :=
  (splitOnChar ' ' (text.toList.map fun c => if c = '\n' then ' ' else c)).filter fun word => !word.isEmpty

/-- The code point that hexadecimal digits write; zero if they are none. -/
def codeOfHex (digits : List Char) : Nat := (hexNumber? digits).getD 0

namespace CodeRange

/-- The range that a word writes. -/
def ofWord (word : List Char) : CodeRange :=
  match splitOnChar '-' word with
  | [first, last] => ⟨codeOfHex first, codeOfHex last⟩
  | _ => ⟨codeOfHex word, codeOfHex word⟩

/-- The ranges that the words of a text write. -/
def listOfText (text : String) : List CodeRange := (tableWords text).map ofWord

def contains (range : CodeRange) (c : Char) : Bool := decide (range.first ≤ c.toNat ∧ c.toNat ≤ range.last)

end CodeRange

def inRanges (ranges : List CodeRange) (c : Char) : Bool := ranges.any fun range => range.contains c

/-- The rows of a table: the word in front of the colon, and the characters behind it. -/
def tableRows (text : String) : List (List Char × List Char) :=
  (tableWords text).map fun word =>
    let key := word.takeWhile (· != ':')
    (key, (splitOnChar '.' (word.drop (key.length + 1))).map fun digits => Char.ofNat (codeOfHex digits))

/-- The rows of a table whose keys are single characters. -/
def charRows (text : String) : List (Char × List Char) :=
  (tableRows text).map fun row => (Char.ofNat (codeOfHex row.1), row.2)

end Colloquy
