/-!
# Binary floating-point numbers of 64 bits

A number is its bit pattern: one sign bit, eleven exponent bits and fifty-two fraction bits.  A finite
number is `significand * 2 ^ scale` with its sign.  Every operation here is exact arithmetic on `Nat`
followed by one rounding, `ofRatio`, which takes the nearest number and, of two equally near ones, the
one with an even significand; so each result is the correctly rounded one.

* `Binary64.ofRatio`: the number nearest to a quotient of naturals, infinite when it is too large.
* `Binary64.ofDecimal`: the number nearest to a decimal text's digits and exponent.
* `Binary64.mul`, `Binary64.div`: correctly rounded products and quotients of finite numbers.
-/
namespace Colloquy

/-- A 64-bit floating-point number, given by its bit pattern. -/
structure Binary64 where
  bits : UInt64
deriving DecidableEq, Repr, Inhabited

namespace Binary64

/-- The weight of the sign bit, the sixty-third power of two. -/
def signWeight : Nat := 9223372036854775808

/-- The weight of the lowest exponent bit, the fifty-second power of two; it is also that of the leading
bit of a significand. -/
def leadingWeight : Nat := 4503599627370496

/-- The bits below the sign bit. -/
def magnitudeBits (x : Binary64) : Nat := x.bits.toNat % signWeight

def isNegative (x : Binary64) : Bool := decide (signWeight ≤ x.bits.toNat)

/-- The eleven exponent bits. -/
def exponentField (x : Binary64) : Nat := x.magnitudeBits / leadingWeight

/-- The fifty-two fraction bits. -/
def fractionField (x : Binary64) : Nat := x.magnitudeBits % leadingWeight

/-- Neither infinite nor a NaN: the exponent bits are not all ones. -/
def isFinite (x : Binary64) : Bool := x.exponentField != 2047

/-- A NaN has all exponent bits and some fraction bit set. -/
def isNaN (x : Binary64) : Bool := x.exponentField == 2047 && x.fractionField != 0

/-- The integer factor of a finite number; the leading one is implicit except for subnormal numbers. -/
def significand (x : Binary64) : Nat :=
  if x.exponentField = 0 then x.fractionField else leadingWeight + x.fractionField

/-- The exponent of two that goes with `significand`. -/
def scale (x : Binary64) : Int :=
  if x.exponentField = 0 then -1074 else (x.exponentField : Int) - 1075

/-- Either zero, of whichever sign. -/
def isZero (x : Binary64) : Bool := x.magnitudeBits == 0

/-- Builds a number from its sign and the bits below it. -/
def ofParts (negative : Bool) (magnitude : Nat) : Binary64 :=
  ⟨UInt64.ofNat ((if negative then signWeight else 0) + magnitude)⟩

def zero (negative : Bool) : Binary64 := ofParts negative 0

def infinity (negative : Bool) : Binary64 := ofParts negative (2047 * leadingWeight)

def nan : Binary64 := ofParts false (2047 * leadingWeight + leadingWeight / 2)

/-- The same number with the other sign. -/
def neg (x : Binary64) : Binary64 := ofParts (!x.isNegative) x.magnitudeBits

/-- `num * 2 ^ shift` over `den`, as a pair of naturals. -/
def shifted (num den : Nat) (shift : Int) : Nat × Nat :=
  if 0 ≤ shift then (num * Nat.pow 2 shift.toNat, den) else (num, den * Nat.pow 2 (-shift).toNat)

/-- The integer nearest to `num / den`; a half goes to the even neighbour. -/
def roundHalfEven (num den : Nat) : Nat :=
  let whole := num / den
  let rest := num % den
  if 2 * rest < den then whole
  else if den < 2 * rest then whole + 1
  else if whole % 2 = 0 then whole else whole + 1

/-- The power of two that one unit of the rounded significand of `num / den` stands for: chosen so that
the significand has fifty-three bits, and never below the subnormal step. -/
def unitScale (num den : Nat) : Int :=
  let guess : Int := (num.log2 : Int) - (den.log2 : Int) - 53
  let (n, d) := shifted num den (-guess)
  let exact := if n / d < 2 * leadingWeight then guess else guess + 1
  max exact (-1074)

/-- The number nearest to `num / den`, of two equally near ones the even one; infinite from half a unit
above the largest finite number on. -/
def ofRatio (negative : Bool) (num den : Nat) : Binary64 :=
  if num = 0 ∨ den = 0 then zero negative
  else
    let scale := unitScale num den
    let (n, d) := shifted num den (-scale)
    let rounded := roundHalfEven n d
    let magnitude :=
      if rounded < leadingWeight then rounded
      else (scale + 1075).toNat * leadingWeight + (rounded - leadingWeight)
    if magnitude < 2047 * leadingWeight then ofParts negative magnitude else infinity negative

/-- The absolute value of a finite number as a quotient of naturals. -/
def ratio (x : Binary64) : Nat × Nat := shifted x.significand 1 x.scale

/-- The correctly rounded product of two finite numbers. -/
def mul (x y : Binary64) : Binary64 :=
  ofRatio (x.isNegative != y.isNegative) (x.ratio.1 * y.ratio.1) (x.ratio.2 * y.ratio.2)

/-- The correctly rounded quotient of two finite numbers, the second not zero. -/
def div (x y : Binary64) : Binary64 :=
  ofRatio (x.isNegative != y.isNegative) (x.ratio.1 * y.ratio.2) (x.ratio.2 * y.ratio.1)

def ofNat (n : Nat) : Binary64 := ofRatio false n 1

def ofInt (n : Int) : Binary64 := ofRatio (decide (n < 0)) n.natAbs 1

/-- The number nearest to `digits * 10 ^ exponent`.  Exponents far outside the range of finite numbers
are answered without computing the power. -/
def ofDecimal (negative : Bool) (digits : Nat) (exponent : Int) : Binary64 :=
  let size : Int := (Nat.toDigits 10 digits).length
  if digits = 0 ∨ exponent + size < -330 then zero negative
  else if 320 < exponent + size then infinity negative
  else if 0 ≤ exponent then ofRatio negative (digits * Nat.pow 10 exponent.toNat) 1
  else ofRatio negative digits (Nat.pow 10 (-exponent).toNat)

end Binary64

end Colloquy
