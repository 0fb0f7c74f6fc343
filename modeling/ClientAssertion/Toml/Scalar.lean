/-
**TOML values that are one word.**

* `integer?`: decimal without a leading zero, or hexadecimal, octal or binary without a sign, of at
  most 64 bits, single underscores between digits;
* `float?`: a decimal with a fraction or an exponent, or one of the names `inf` and `nan`;
* `moment?`: a date, a time of day or both, written out with `T`, with `Z` for universal time and
  with no more zeros behind the point than a fraction needs.
-/

import ClientAssertion.Text.Decimal
import ClientAssertion.Time.Timestamp
import ClientAssertion.Toml.Token
import ClientAssertion.Toml.Value

namespace ClientAssertion.Toml

/-! ### Digits -/

/-- Digits without the underscores that stand between them. -/
def ungrouped? (isDigit : Char → Bool) : List Char → Option (List Char)
  | [] => none
  | [digit] => if isDigit digit then some [digit] else none
  | digit :: '_' :: chars =>
    if isDigit digit then (ungrouped? isDigit chars).map (digit :: ·) else none
  | digit :: chars => if isDigit digit then (ungrouped? isDigit chars).map (digit :: ·) else none

/-- Decimal digits that start with a zero only if it is the only one. -/
def decimalDigits? (chars : List Char) : Option (List Char) := do
  let digits ← ungrouped? Char.isDigit chars
  if digits.head? = some '0' ∧ digits.length ≠ 1 then none else some digits

/-! ### Integers -/

/-- A digit of a base. -/
def isDigitOf (base : Nat) (char : Char) : Bool :=
  match hexValue? char with
  | some value => value < base
  | none => false

/-- The number that digits of a base denote. -/
def valueIn (base : Nat) (digits : List Char) : Nat :=
  digits.foldl (fun value digit => value * base + (hexValue? digit).getD 0) 0

/-- The integer that digits of a base denote. -/
def based? (base : Nat) (chars : List Char) : Option Int := do
  let digits ← ungrouped? (isDigitOf base) chars
  Numeral.int64? (valueIn base digits)

/-- The integer that characters denote. -/
def integer? : List Char → Option Int
  | '0' :: 'x' :: chars => based? 16 chars
  | '0' :: 'o' :: chars => based? 8 chars
  | '0' :: 'b' :: chars => based? 2 chars
  | chars => do
    let (sign, unsigned) := Decimal.splitSign chars
    let magnitude : Int := Numeral.ofDigits (← decimalDigits? unsigned)
    Numeral.int64? (if sign = some '-' then -magnitude else magnitude)

/-! ### Floating point numbers -/

/-- The decimal that characters denote, which has a fraction or an exponent. -/
def decimal? (chars : List Char) : Option Decimal := do
  let parts := Decimal.Parts.of chars
  let integral ← decimalDigits? parts.integral
  let fraction ← parts.fraction.mapM (ungrouped? Char.isDigit)
  let exponent ← parts.exponent.mapM fun (sign, digits) => do
    return (sign, ← ungrouped? Char.isDigit digits)
  if fraction = none ∧ exponent = none then none
  else some (Decimal.ofDigits parts.sign integral (fraction.getD []) exponent)

/-- The number with a name. -/
def named? (chars : List Char) : Option Float :=
  let (sign, name) := Decimal.splitSign chars
  if name = "inf".toList ∨ name = "nan".toList then
    (Decimal.named? (String.ofList name)).map fun number => if sign = some '-' then -number else number
  else none

/-- The floating point number that characters denote; a decimal may not be beyond all numbers. -/
def float? (chars : List Char) : Option Float :=
  match decimal? chars with
  | some decimal => if decimal.toFloat.isInf then none else some decimal.toFloat
  | none => named? chars

/-! ### Dates and times -/

/-- The characters of a date that exists, and what follows it. -/
def date? (chars : List Char) : Option (List Char × List Char) := do
  let (_, rest) ← Timestamp.date? chars
  return (chars.take 10, rest)

/-- The characters of a fraction of a second, if there is one, and what follows it.  Of a fraction
that is zero one digit stays. -/
def fraction? (chars : List Char) : Option (List Char × List Char) := do
  let (nanosecond, rest) ← Timestamp.fraction? chars
  let written := Timestamp.fractionChars nanosecond
  return (if chars.head? = some '.' ∧ written = [] then ['.', '0'] else written, rest)

/-- The characters of the seconds, if there are any, and what follows them. -/
def seconds? : List Char → Option (List Char × List Char)
  | ':' :: chars => do
    let (second, rest) ← Timestamp.number? 2 chars
    if 60 < second then none
    else
      let (fraction, rest) ← fraction? rest
      return (':' :: Numeral.padded 2 second ++ fraction, rest)
  | chars => some ([], chars)

/-- The characters of a time of day, and what follows it. -/
def time? (chars : List Char) : Option (List Char × List Char) := do
  let (hour, rest) ← Timestamp.number? 2 chars
  let (minute, rest) ← Timestamp.part? ':' rest
  if 24 ≤ hour ∨ 60 ≤ minute then none
  else
    let (seconds, rest) ← seconds? rest
    return (chars.take 5 ++ seconds, rest)

/-- The characters of an offset, if there is one; it ends the value. -/
def offset? : List Char → Option (List Char)
  | [] => some []
  | ['Z'] => some ['Z']
  | ['z'] => some ['Z']
  | chars => do
    let minutes ← Timestamp.offset? chars
    return if minutes = 0 then "+00:00".toList else Timestamp.offsetChars minutes

/-- A character that separates a date from a time of day. -/
def isTimeMark (char : Char) : Bool := char == 'T' || char == 't' || char == ' '

/-- The characters of a date with the time of day behind it, if there is one. -/
def dateTime? (chars : List Char) : Option (List Char) := do
  let (date, rest) ← date? chars
  match rest with
  | [] => return date
  | mark :: rest =>
    if isTimeMark mark then
      let (time, rest) ← time? rest
      return date ++ 'T' :: time ++ (← offset? rest)
    else none

/-- The characters of a time of day alone. -/
def timeAlone? (chars : List Char) : Option (List Char) := do
  let (time, rest) ← time? chars
  if rest = [] then some time else none

/-- The moment that characters denote, written out. -/
def moment? (chars : List Char) : Option String :=
  ((dateTime? chars).or (timeAlone? chars)).map String.ofList

/-! ### Words -/

/-- The value that a word denotes. -/
def ofWord? (chars : List Char) : Option Value :=
  if chars = "true".toList then some (.bool true)
  else if chars = "false".toList then some (.bool false)
  else
    ((integer? chars).map .integer).or
      (((float? chars).map .float).or ((moment? chars).map .moment))

end ClientAssertion.Toml
