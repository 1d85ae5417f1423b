import Colloquy.Toml.Basic
/-!
# TOML scalars

Booleans, integers, floating-point numbers, dates and times: everything that is written without quotes
and brackets.
-/
namespace Colloquy

namespace Toml

def isHexDigit (c : Char) : Bool :=
  c.isDigit || decide ('a' ≤ c ∧ c ≤ 'f') || decide ('A' ≤ c ∧ c ≤ 'F')

def isOctalDigit (c : Char) : Bool := decide ('0' ≤ c ∧ c ≤ '7')

def isBinaryDigit (c : Char) : Bool := c == '0' || c == '1'

def hexDigitValue (c : Char) : Nat :=
  if c.isDigit then c.toNat - '0'.toNat
  else if 'a' ≤ c then c.toNat - 'a'.toNat + 10
  else c.toNat - 'A'.toNat + 10

/-- The digits of a number in which underscores may stand between digits. -/
def digits? (isDigit : Char → Bool) : List Char → Option (List Char)
  | [] => none
  | [c] => if isDigit c then some [c] else none
  | c :: '_' :: rest => if isDigit c then (digits? isDigit rest).map (c :: ·) else none
  | c :: rest => if isDigit c then (digits? isDigit rest).map (c :: ·) else none

def natOfDigits (base : Nat) (digits : List Char) : Nat :=
  digits.foldl (fun n c => base * n + hexDigitValue c) 0

/-- Decimal digits without a superfluous leading zero. -/
def decimalDigits? (text : List Char) : Option (List Char) :=
  match digits? Char.isDigit text with
  | some ['0'] => some ['0']
  | some ('0' :: _) => none
  | found => found

/-- Splits a sign off. -/
def splitSign : List Char → Bool × List Char
  | '-' :: rest => (true, rest)
  | '+' :: rest => (false, rest)
  | text => (false, text)

def integer? (text : List Char) : Option Toml :=
  match text with
  | '0' :: 'x' :: rest => (digits? isHexDigit rest).map fun ds => integer (natOfDigits 16 ds)
  | '0' :: 'o' :: rest => (digits? isOctalDigit rest).map fun ds => integer (natOfDigits 8 ds)
  | '0' :: 'b' :: rest => (digits? isBinaryDigit rest).map fun ds => integer (natOfDigits 2 ds)
  | _ =>
    let (negative, rest) := splitSign text
    (decimalDigits? rest).map fun ds =>
      let n : Int := natOfDigits 10 ds
      integer (if negative then -n else n)

/-- The exponent behind the `e` of a number. -/
def exponent? (text : List Char) : Option Int :=
  let (negative, rest) := splitSign text
  (digits? Char.isDigit rest).map fun ds =>
    let n : Int := natOfDigits 10 ds
    if negative then -n else n

def isExponentMark (c : Char) : Bool := c == 'e' || c == 'E'

/-- A number with a fraction, an exponent or both; one that is too large is none. -/
def decimalFloat? (text : List Char) : Option Toml := do
  let (negative, rest) := splitSign text
  let mantissa := rest.takeWhile fun c => !isExponentMark c
  let exponent ←
    match rest.dropWhile fun c => !isExponentMark c with
    | [] => some 0
    | _ :: tail => exponent? tail
  let whole ← decimalDigits? (mantissa.takeWhile (· != '.'))
  let fraction ←
    match mantissa.dropWhile (· != '.') with
    | [] => if mantissa.length < rest.length then some [] else none
    | _ :: tail => digits? Char.isDigit tail
  let x := Binary64.ofDecimal negative (natOfDigits 10 (whole ++ fraction))
    (exponent - (fraction.length : Int))
  if x.isFinite then some (float x) else none

def float? (text : List Char) : Option Toml :=
  let (negative, rest) := splitSign text
  if rest = ['i', 'n', 'f'] then some (float (.infinity negative))
  else if rest = ['n', 'a', 'n'] then some (float .nan)
  else decimalFloat? text

/-- Exactly two digits at the start of a text, as a number, and the rest. -/
def twoDigits? : List Char → Option (Nat × List Char)
  | a :: b :: rest =>
    if a.isDigit && b.isDigit then some (natOfDigits 10 [a, b], rest) else none
  | _ => none

def isLeapYear (year : Nat) : Bool := year % 4 == 0 && (year % 100 != 0 || year % 400 == 0)

def daysIn (year month : Nat) : Nat :=
  if month = 2 then (if isLeapYear year then 29 else 28)
  else if month = 4 ∨ month = 6 ∨ month = 9 ∨ month = 11 then 30
  else 31

/-- A date at the start of a text, as it is written, and the rest. -/
def date? (text : List Char) : Option (List Char × List Char) := do
  let year := text.take 4
  let (month, afterMonth) ←
    match text.drop 4 with
    | '-' :: rest => twoDigits? rest
    | _ => none
  let (day, rest) ←
    match afterMonth with
    | '-' :: rest => twoDigits? rest
    | _ => none
  if year.all Char.isDigit && decide (1 ≤ month ∧ month ≤ 12 ∧ 1 ≤ day)
      && decide (day ≤ daysIn (natOfDigits 10 year) month) then
    some (text.take 10, rest)
  else none

/-- The fraction of a second as it is written back: at most nine digits, no zeros at the end. -/
def fractionText (digits : List Char) : List Char :=
  match ((digits.take 9).reverse.dropWhile (· == '0')).reverse with
  | [] => []
  | kept => '.' :: kept

/-- The seconds of a time at the start of a text, as they are written back; missing ones are zero. -/
def seconds? : List Char → Option (List Char × List Char)
  | ':' :: rest => do
    let (second, tail) ← twoDigits? rest
    if 60 < second then none
    else
      match tail with
      | '.' :: tail =>
        let digits := tail.takeWhile Char.isDigit
        if digits.isEmpty then none
        else some (':' :: rest.take 2 ++ fractionText digits, tail.dropWhile Char.isDigit)
      | _ => some (':' :: rest.take 2, tail)
  | rest => some ([':', '0', '0'], rest)

/-- A time of day at the start of a text, as it is written back, and the rest. -/
def time? (text : List Char) : Option (List Char × List Char) := do
  let (hour, rest) ← twoDigits? text
  match rest with
  | ':' :: rest => do
    let (minute, rest) ← twoDigits? rest
    if 23 < hour ∨ 59 < minute then none
    else
      let (seconds, rest) ← seconds? rest
      some (text.take 5 ++ seconds, rest)
  | _ => none

/-- The offset of a time, as it is written back; there may be none.  A negative offset of zero is a
positive one. -/
def offset? (text : List Char) : Option (List Char) :=
  match text with
  | [] => some []
  | ['Z'] | ['z'] => some ['Z']
  | sign :: rest =>
    if sign = '+' ∨ sign = '-' then
      match twoDigits? rest with
      | some (hour, ':' :: tail) =>
        match twoDigits? tail with
        | some (minute, []) =>
          if 23 < hour ∨ 59 < minute then none
          else some ((if hour = 0 ∧ minute = 0 then '+' else sign) :: rest)
        | _ => none
      | _ => none
    else none

/-- A date, a time or both. -/
def datetime? (text : List Char) : Option Toml :=
  match date? text with
  | some (date, []) => some (datetime (String.ofList date))
  | some (date, mark :: rest) =>
    if mark = 'T' ∨ mark = 't' ∨ mark = ' ' then do
      let (time, rest) ← time? rest
      let offset ← offset? rest
      some (datetime (String.ofList (date ++ 'T' :: time ++ offset)))
    else none
  | none =>
    match time? text with
    | some (time, []) => some (datetime (String.ofList time))
    | _ => none

def scalar? (text : List Char) : Option Toml :=
  if text = ['t', 'r', 'u', 'e'] then some (boolean true)
  else if text = ['f', 'a', 'l', 's', 'e'] then some (boolean false)
  else ((integer? text).or (float? text)).or (datetime? text)

end Toml

end Colloquy
