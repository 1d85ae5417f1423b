import Colloquy.Url.Basic
import Colloquy.Url.Domain
/-!
# Hosts

A host is a domain name, a number in up to four parts, or a number of eight groups in brackets.  Schemes
that are not known to name a host take any text.

* `Url.host?`: a host in its normal form.
-/
namespace Colloquy

namespace Url

/-- Characters that cannot stand in a host that is taken as it is. -/
def forbiddenInHost : List Char :=
  [' ', '#', '/', ':', '<', '>', '?', '@', '[', '\\', ']', '^', '|']

/-- A number in an address: decimal, or hexadecimal behind `0x`, or octal behind `0`. -/
def hostNumber? (part : List Char) : Option Nat :=
  let read := fun (base : Nat) (digits : List Char) =>
    digits.foldlM
      (fun n c =>
        match hexDigit? c with
        | some d => if d < base then some (base * n + d) else none
        | none => none)
      0
  match part with
  | [] => none
  | '0' :: 'x' :: rest | '0' :: 'X' :: rest => read 16 rest
  | '0' :: rest => if rest.isEmpty then some 0 else read 8 rest
  | _ => read 10 part

/-- The parts of a host name between its points; a point at the end counts for nothing. -/
def hostParts (host : List Char) : List (List Char) :=
  match (splitOnChar '.' host).reverse with
  | [] :: last :: parts => (last :: parts).reverse
  | parts => parts.reverse

/-- Whether a host is meant as a number: its last part is one. -/
def endsInNumber (host : List Char) : Bool :=
  match (hostParts host).getLast? with
  | some part => (!part.isEmpty && part.all Char.isDigit) || (hostNumber? part).isSome
  | none => false

/-- The parts of a number host as one number: the last part fills what the others leave. -/
def joinHostNumbers : List Nat → Option Nat
  | [] => none
  | numbers =>
    let leading := numbers.dropLast
    let last := numbers.getLastD 0
    if numbers.length ≤ 4 && leading.all (· < 256) && decide (last < Nat.pow 256 (5 - numbers.length)) then
      some (leading.foldl (fun n part => 256 * n + part) 0 * Nat.pow 256 (5 - numbers.length)
        + last)
    else none

/-- A number host in four parts. -/
def numberHost? (host : List Char) : Option (List Char) := do
  let numbers ← (hostParts host).mapM hostNumber?
  let n ← joinHostNumbers numbers
  some (['.'].intercalate
    [decimalText (n / 16777216), decimalText (n / 65536 % 256), decimalText (n / 256 % 256),
      decimalText (n % 256)])

/-- A group of at most four hexadecimal digits. -/
def hexGroup? (text : List Char) : Option Nat :=
  if text.isEmpty || 4 < text.length then none else hexNumber? text

/-- A byte written in decimal digits without leading zeros. -/
def decimalByte? (text : List Char) : Option Nat :=
  if text.isEmpty || 3 < text.length || !text.all Char.isDigit then none
  else if 1 < text.length ∧ text.head? = some '0' then none
  else
    let n := text.foldl (fun n c => 10 * n + (c.toNat - '0'.toNat)) 0
    if n < 256 then some n else none

/-- The groups of one side of a six-part host; the last one may be four decimal bytes. -/
def hexGroups? (text : List Char) : Option (List Nat) :=
  if text.isEmpty then some []
  else
    let parts := splitOnChar ':' text
    let last := parts.getLastD []
    if last.contains '.' then do
      let leading ← parts.dropLast.mapM hexGroup?
      match ← (splitOnChar '.' last).mapM decimalByte? with
      | [a, b, c, d] => some (leading ++ [256 * a + b, 256 * c + d])
      | _ => none
    else parts.mapM hexGroup?

/-- The parts of a text around the first double colon. -/
def splitDoubleColon? : List Char → Option (List Char × List Char)
  | [] => none
  | ':' :: ':' :: rest => some ([], rest)
  | c :: rest => (splitDoubleColon? rest).map fun (before, behind) => (c :: before, behind)

/-- The eight groups of a bracketed host. -/
def eightGroups? (text : List Char) : Option (List Nat) :=
  match splitDoubleColon? text with
  | none => do
    let groups ← hexGroups? text
    if groups.length = 8 then some groups else none
  | some (before, behind) => do
    let leading ← if before.contains '.' then none else hexGroups? before
    let trailing ← hexGroups? behind
    if leading.length + trailing.length < 8 then
      some (leading ++ List.replicate (8 - leading.length - trailing.length) 0 ++ trailing)
    else none

/-- How many groups at the start are zero. -/
def zerosAhead (groups : List Nat) : Nat := (groups.takeWhile (· == 0)).length

/-- The longest run of zero groups. -/
def longestZeros : List Nat → Nat
  | [] => 0
  | group :: rest => max (zerosAhead (group :: rest)) (longestZeros rest)

def hexText (n : Nat) : List Char := Nat.toDigits 16 n

/-- Groups in text form; the first run of `run` zeros, if `run` is not zero, is left out. -/
def groupsText (run : Nat) : List Nat → (first : Bool) → List Char
  | [], _ => []
  | group :: rest, first =>
    if 2 ≤ run ∧ zerosAhead (group :: rest) = run then
      ':' :: ':' :: [':'].intercalate (((group :: rest).drop run).map hexText)
    else (if first then [] else [':']) ++ hexText group ++ groupsText run rest false

/-- A bracketed host in its normal form. -/
def bracketHost? (text : List Char) : Option (List Char) :=
  (eightGroups? text).map fun groups => '[' :: groupsText (longestZeros groups) groups true ++ [']']

/-- A host of a scheme that names one. -/
def namedHost? (text : List Char) : Option (List Char) := do
  let host ← (unescape? text).bind asciiDomain?
  if host.isEmpty then none
  else if endsInNumber host then numberHost? host
  else some host

/-- A host of any other scheme. -/
def opaqueHost? (text : List Char) : Option (List Char) :=
  if text.any fun c => forbiddenInHost.contains c || c == '\x00' then none
  else some (escapeText [] text)

def host? (special : Bool) (text : List Char) : Option (List Char) :=
  match text with
  | '[' :: rest => if rest.getLast? = some ']' then bracketHost? rest.dropLast else none
  | _ => if special then namedHost? text else opaqueHost? text

end Url

end Colloquy
