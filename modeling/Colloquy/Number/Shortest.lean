import Colloquy.Number.Binary64
/-!
# The fewest digits that read back

A finite number other than zero is written with as few decimal digits as still read back as the same
number; where two decimals of that length do, with the nearer one, and at an exact tie with the one
whose last digit is even.  Seventeen digits always suffice.
-/
namespace Colloquy

/-- A positive decimal `digits * 10 ^ exponent`. -/
structure Decimal where
  digits : Nat
  exponent : Int
deriving DecidableEq, Repr

namespace Decimal

/-- How many decimal digits a natural number has. -/
def size (n : Nat) : Nat := (Nat.toDigits 10 n).length

/-- The same decimal without zeros at the end of its digits; `fuel` bounds how many are dropped. -/
def trimmed : Nat → Decimal → Decimal
  | 0, d => d
  | fuel + 1, d =>
    if d.digits ≠ 0 ∧ d.digits % 10 = 0 then trimmed fuel ⟨d.digits / 10, d.exponent + 1⟩ else d

/-- The exponent of ten of the first digit: the decimal is `d.ddd * 10 ^ leading`. -/
def leading (d : Decimal) : Int := d.exponent + (size d.digits : Int) - 1

end Decimal

namespace Binary64

/-- The largest `e` with `10 ^ e ≤ num / den`. -/
def decimalExponent (num den : Nat) : Int :=
  let guess : Int := (Decimal.size num : Int) - (Decimal.size den : Int)
  let reached :=
    if 0 ≤ guess then den * Nat.pow 10 guess.toNat ≤ num else den ≤ num * Nat.pow 10 (-guess).toNat
  if reached then guess else guess - 1

/-- `num / den` divided by `10 ^ exponent`, as a quotient of naturals. -/
def inUnits (num den : Nat) (exponent : Int) : Nat × Nat :=
  if 0 ≤ exponent then (num, den * Nat.pow 10 exponent.toNat)
  else (num * Nat.pow 10 (-exponent).toNat, den)

/-- The decimal with `count` digits that reads back as `x` and is nearest to it, if there is one: only
the two neighbours of `x` among the decimals of that length can be. -/
def candidate (x : Binary64) (count : Nat) : Option Decimal :=
  let (num, den) := x.ratio
  let exponent := decimalExponent num den - (count : Int) + 1
  let (n, d) := inUnits num den exponent
  let readsBack := fun (digits : Nat) => decide (ofDecimal x.isNegative digits exponent = x)
  let below := n / d
  let nearest := roundHalfEven n d
  let other := if nearest = below then below + 1 else below
  if readsBack nearest then some ⟨nearest, exponent⟩
  else if readsBack other then some ⟨other, exponent⟩
  else none

/-- The shortest decimal that reads back as the finite number `x`, without its sign. -/
def shortest (x : Binary64) : Decimal :=
  match (List.range 17).findSome? (fun n => x.candidate (n + 1)) with
  | some d => Decimal.trimmed 17 d
  | none => ⟨0, 0⟩

end Binary64

end Colloquy
