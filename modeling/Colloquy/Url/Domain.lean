import Colloquy.Text.Unicode.Composed
import Colloquy.Text.Unicode.Direction
import Colloquy.Text.Unicode.Joining
import Colloquy.Text.Unicode.Mark
import Colloquy.Url.DomainCharacter
import Colloquy.Url.Punycode
/-!
# Domain names

A domain name consists of labels with points between them.  It is looked up in ASCII: its characters are
replaced as domain names demand, the whole is composed, and labels with other characters are written in
Punycode behind `xn--`.

* `asciiDomain?`: a domain name in ASCII, if its labels are well formed.
-/
namespace Colloquy

namespace Domain

/-- Characters that cannot stand in a domain name, control characters and blanks apart. -/
def denied : List Char := ['%', '#', '/', ':', '<', '>', '?', '@', '[', '\\', ']', '^', '|']

def isDenied (c : Char) : Bool := decide (c ≤ ' ') || c == '\x7f' || denied.contains c

/-- A text with its characters replaced as domain names demand, in composed form. -/
def spelled? (text : List Char) : Option (List Char) := do
  let pieces ← text.mapM fun c =>
    match DomainCharacter.ofChar c with
    | .kept => some [c]
    | .dropped => some []
    | .refused => none
    | .replaced text => some text
  let spelled := composed pieces.flatten
  if spelled.any isDenied then none else some spelled

/-- The mark of a label in Punycode. -/
def asciiMark : List Char := ['x', 'n', '-', '-']

/-- The largest numbers of characters of a label that are encoded, and decoded. -/
def maxEncoded : Nat := 1000

def maxDecoded : Nat := 2000

/-- A label in the characters that it stands for.  One in Punycode must stand for characters that need it
and that are kept as they are. -/
def readable? (label : List Char) : Option (List Char) :=
  if asciiMark.isPrefixOf label then
    let written := label.drop asciiMark.length
    if written.isEmpty || written.getLast? = some '-' || maxDecoded < written.length then none
    else
      match Punycode.decode? written with
      | some text =>
        if text.all (fun c => DomainCharacter.ofChar c == .kept) && composed text == text then some text
        else none
      | none => none
  else some label

/-- Signs that tie letters together, or keep them apart. -/
def nonJoiner : Char := '\u200c'

def joiner : Char := '\u200d'

/-- Whether the next letter of a text, marks left out, can be tied to its neighbour on the given side. -/
def reachesLetter (side : Joining) (text : List Char) : Bool :=
  match text.dropWhile fun c => Joining.ofChar c == .transparent with
  | [] => false
  | c :: _ => Joining.ofChar c == .both || Joining.ofChar c == side

/-- Whether a joiner makes a difference between the text behind it, which stands in reverse, and the rest:
it follows a sign that takes the vowel off a letter, or it keeps apart what would be tied. -/
def joinerFits (c : Char) (behind rest : List Char) : Bool :=
  match behind with
  | [] => false
  | previous :: _ =>
    combiningClass previous == 9
      || (c == nonJoiner && reachesLetter .following behind && reachesLetter .preceding rest)

/-- Whether all joiners of a label make a difference; `behind` is what stands in front, in reverse. -/
def joinersFit (behind : List Char) : List Char → Bool
  | [] => true
  | c :: rest =>
    (!(c == nonJoiner || c == joiner) || joinerFits c behind rest) && joinersFit (c :: behind) rest

/-- Whether a label does not depend on what stands in front of it. -/
def isSelfContained (label : List Char) : Bool :=
  !(label.head?.any isMark) && joinersFit [] label

def runsLeft (direction : Direction) : Bool :=
  direction == .rightToLeft || direction == .arabicLetter || direction == .arabicNumber

/-- The directions that may occur in a label of either direction. -/
def isShared (direction : Direction) : Bool :=
  [.europeanNumber, .numberSign, .numberSeparator, .numberUnit, .neutral, .boundaryNeutral,
    .attached].contains direction

/-- Whether a label keeps its order wherever it stands: it starts with a letter, all else goes along with
the direction of that letter, and it ends with a letter or number. -/
def keepsOrder (label : List Char) : Bool :=
  let directions := label.map Direction.ofChar
  let last := (directions.reverse.dropWhile (· == .attached)).head?
  match directions.head? with
  | none => true
  | some .leftToRight =>
    directions.all (fun direction => direction == .leftToRight || isShared direction)
      && (last == some .leftToRight || last == some .europeanNumber)
  | some .rightToLeft | some .arabicLetter =>
    directions.all (fun direction => runsLeft direction || isShared direction)
      && last.any (fun direction => runsLeft direction || direction == .europeanNumber)
      && !(directions.contains .europeanNumber && directions.contains .arabicNumber)
  | some _ => false

/-- Whether a part of a name runs from right to left. -/
def hasRunLeft (label : List Char) : Bool := label.any fun c => runsLeft (Direction.ofChar c)

/-- A label in ASCII. -/
def asciiLabel? (label : List Char) : Option (List Char) :=
  if label.all Punycode.isAscii then some label
  else if maxEncoded < label.length then none
  else some (asciiMark ++ Punycode.encode label)

end Domain

/-- A domain name in ASCII.  If any of its labels runs from right to left, all of them must keep their
order. -/
def asciiDomain? (text : List Char) : Option (List Char) := do
  let labels := splitOnChar '.' (← Domain.spelled? text)
  let readable ← labels.mapM Domain.readable?
  if readable.all Domain.isSelfContained && (!readable.any Domain.hasRunLeft || readable.all Domain.keepsOrder)
  then some (['.'].intercalate (← labels.mapM Domain.asciiLabel?))
  else none

end Colloquy
