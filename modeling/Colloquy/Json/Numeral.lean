import Colloquy.Json.Basic
/-!
# Numbers in JSON text

A numeral is an optional minus sign, digits without a superfluous leading zero, an optional fraction and
an optional exponent.  Without fraction and exponent it is a whole number where 64 bits hold it;
anything else, `-0` included, is a floating-point number.

The floating-point value is computed from a *significand*, the leading digits as far as they fit 64 bits,
and a power of ten: the significand is rounded to a floating-point number once and then multiplied or
divided by the rounded power, which for long numerals can differ from the nearest number in the last bit.
A value too large for a floating-point number is refused; one too small is zero.
-/
namespace Colloquy

/-- The parts of a numeral: its sign and the digits before the point, behind it and in the exponent. -/
structure Numeral where
  negative : Bool
  whole : List Char
  fraction : List Char
  exponentNegative : Bool
  exponent : List Char
deriving DecidableEq, Repr

namespace Numeral

def digitValue (c : Char) : Nat := c.toNat - '0'.toNat

/-- The natural number that a list of digits stands for. -/
def natural (digits : List Char) : Nat := digits.foldl (fun n c => 10 * n + digitValue c) 0

/-- Whole digits: a single zero, or digits that do not start with one. -/
def wholeAllowed : List Char → Bool
  | [] => false
  | ['0'] => true
  | c :: _ => c != '0'

/-- Splits an exponent part, the sign behind the `e` included, into its sign and digits. -/
def splitExponent : List Char → Option (Bool × List Char)
  | '-' :: digits => if digits.isEmpty then none else some (true, digits)
  | '+' :: digits => if digits.isEmpty then none else some (false, digits)
  | digits => if digits.isEmpty then none else some (false, digits)

/-- What stands behind the whole digits: nothing, a fraction, an exponent, or both in this order. -/
def splitTail : List Char → Option (List Char × Bool × List Char)
  | [] => some ([], false, [])
  | '.' :: rest =>
    let fraction := rest.takeWhile Char.isDigit
    if fraction.isEmpty then none
    else
      match rest.dropWhile Char.isDigit with
      | [] => some (fraction, false, [])
      | 'e' :: tail | 'E' :: tail => (splitExponent tail).map fun e => (fraction, e.1, e.2)
      | _ => none
  | 'e' :: tail | 'E' :: tail => (splitExponent tail).map fun e => ([], e.1, e.2)
  | _ => none

/-- Splits a complete numeral into its parts. -/
def ofChars? (text : List Char) : Option Numeral :=
  let (negative, body) :=
    match text with
    | '-' :: rest => (true, rest)
    | _ => (false, text)
  let whole := body.takeWhile Char.isDigit
  match splitTail (body.dropWhile Char.isDigit) with
  | some (fraction, exponentNegative, exponent) =>
    if wholeAllowed whole && exponent.all Char.isDigit then
      some ⟨negative, whole, fraction, exponentNegative, exponent⟩
    else none
  | none => none

/-- Takes digits into a significand as long as it fits 64 bits; the second part counts those taken. -/
def takeDigits : Nat → List Char → Nat × Nat
  | significand, [] => (significand, 0)
  | significand, c :: rest =>
    let next := 10 * significand + digitValue c
    if next < UInt64.size then
      let (total, taken) := takeDigits next rest
      (total, taken + 1)
    else (significand, 0)

/-- The significand and the power of ten of a numeral.  Whole digits that no longer fit raise the power;
fraction digits that no longer fit are dropped. -/
def significandAndPower (n : Numeral) : Nat × Int :=
  let (wholePart, takenWhole) := takeDigits 0 n.whole
  let (significand, takenFraction) := takeDigits wholePart n.fraction
  let exponent : Int := natural n.exponent
  let signed := if n.exponentNegative then -exponent else exponent
  (significand, ((n.whole.length - takenWhole : Nat) : Int) - (takenFraction : Int) + signed)

/-- The floating-point power of ten nearest to `10 ^ k`. -/
def powerOfTen (k : Nat) : Binary64 := Binary64.ofNat (Nat.pow 10 k)

/-- `x` times ten to a power: one multiplication or division by a power of at most 308, for smaller
values after divisions by `1e308`.  `rounds` bounds these; three make any significand zero. -/
def scaleByTen : Nat → Binary64 → Int → Option Binary64
  | 0, _, _ => some (Binary64.zero false)
  | rounds + 1, x, power =>
    if x.isZero then some x
    else if 308 < power then none
    else if 0 ≤ power then
      let product := x.mul (powerOfTen power.toNat)
      if product.isFinite then some product else none
    else if -308 ≤ power then some (x.div (powerOfTen (-power).toNat))
    else scaleByTen rounds (x.div (powerOfTen 308)) (power + 308)

/-- The floating-point value of a numeral; nothing if it is too large. -/
def floatValue? (n : Numeral) : Option Binary64 :=
  let (significand, power) := n.significandAndPower
  (scaleByTen 4 (Binary64.ofNat significand) power).map fun x => if n.negative then x.neg else x

/-- The JSON value of a numeral: a whole number if it is written as one and fits 64 bits. -/
def value? (n : Numeral) : Option Json :=
  let whole := natural n.whole
  if n.fraction.isEmpty && n.exponent.isEmpty && !n.negative && decide (whole < UInt64.size) then
    some (.int whole)
  else if n.fraction.isEmpty && n.exponent.isEmpty && n.negative
      && decide (0 < whole ∧ whole ≤ UInt64.size / 2) then
    some (.int (-(whole : Int)))
  else n.floatValue?.map .float

end Numeral

end Colloquy
