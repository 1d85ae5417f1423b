import Colloquy.Text.Unicode.CombiningClass
import Colloquy.Text.Unicode.Decomposition
/-!
# Composed texts

Texts that differ only in how letters and their marks are put together have one composed form, the
normalization form C of Unicode.

* `decomposed`: a text with all its characters taken apart and their marks in order.
* `composed`: the same text put together again as far as possible.
-/
namespace Colloquy

/-- The parts of a syllable of Hangul, which are numbered by their letters. -/
def syllableParts? (c : Char) : Option (List Char) :=
  if 0xac00 ≤ c.toNat ∧ c.toNat ≤ 0xd7a3 then
    let n := c.toNat - 0xac00
    let tail := if n % 28 = 0 then [] else [Char.ofNat (0x11a7 + n % 28)]
    some (Char.ofNat (0x1100 + n / 588) :: Char.ofNat (0x1161 + n % 588 / 28) :: tail)
  else none

/-- The syllable of Hangul that a letter and a vowel make up, or a syllable and a last letter. -/
def syllable? (first second : Char) : Option Char :=
  let a := first.toNat
  let b := second.toNat
  if 0x1100 ≤ a ∧ a ≤ 0x1112 ∧ 0x1161 ≤ b ∧ b ≤ 0x1175 then
    some (Char.ofNat (0xac00 + ((a - 0x1100) * 21 + (b - 0x1161)) * 28))
  else if 0xac00 ≤ a ∧ a ≤ 0xd7a3 ∧ (a - 0xac00) % 28 = 0 ∧ 0x11a8 ≤ b ∧ b ≤ 0x11c2 then
    some (Char.ofNat (a + (b - 0x11a7)))
  else none

/-- A character taken apart; `depth` bounds how often its parts are taken apart in turn. -/
def decompose : (depth : Nat) → Char → List Char
  | 0, c => [c]
  | depth + 1, c =>
    match (syllableParts? c).or (parts? c) with
    | some parts => parts.flatMap (decompose depth)
    | none => [c]

/-- Puts a character behind a text that stands in reverse.  Marks go in front of those of higher classes. -/
def placeMark (mark : Char) : List Char → List Char
  | [] => [mark]
  | c :: rest =>
    if 0 < combiningClass mark ∧ combiningClass mark < combiningClass c then c :: placeMark mark rest
    else mark :: c :: rest

/-- A text with all characters taken apart, which needs three steps at most, and the marks of each letter
in the order of their classes. -/
def decomposed (text : List Char) : List Char :=
  ((text.flatMap (decompose 3)).foldl (fun behind c => placeMark c behind) []).reverse

/-- A text while it is put together: what is finished, the last letter, and the marks behind it that did
not go into it.  The lists stand in reverse. -/
structure Assembly where
  finished : List Char
  letter : Option Char
  marks : List Char
deriving DecidableEq, Repr

namespace Assembly

/-- Whether a character is not kept from the last letter by a mark of its own class or a higher one. -/
def reachesLetter (draft : Assembly) (c : Char) : Bool :=
  match draft.marks with
  | [] => true
  | mark :: _ => decide (combiningClass mark < combiningClass c)

/-- The last letter with a character put into it. -/
def joined? (draft : Assembly) (c : Char) : Option Char :=
  if draft.reachesLetter c then
    draft.letter.bind fun letter => (syllable? letter c).or (composite? letter c)
  else none

/-- The text so far, in reverse. -/
def behind (draft : Assembly) : List Char := draft.marks ++ draft.letter.toList ++ draft.finished

/-- Takes in the next character. -/
def add (draft : Assembly) (c : Char) : Assembly :=
  match draft.joined? c with
  | some letter => { draft with letter := some letter }
  | none =>
    if combiningClass c = 0 then ⟨draft.behind, some c, []⟩ else { draft with marks := c :: draft.marks }

end Assembly

/-- The composed form of a text. -/
def composed (text : List Char) : List Char :=
  ((decomposed text).foldl Assembly.add ⟨[], none, []⟩).behind.reverse

end Colloquy
