/-
**Decimal numerals with a sign, a point and an exponent.**

* `Decimal.Parts.of` cuts a numeral at its marks, whatever the parts hold; a grammar says which
  parts it wants;
* `Decimal.ofChars?` is the liberal grammar: a sign may be there, digits may miss on one side of
  the point, an exponent may be there, and the numbers without digits have names;
* `Decimal.toFloat` is the nearest binary floating point number.
-/

import ClientAssertion.Text.Numeral

namespace ClientAssertion

/-- The number `± digits * 10 ^ exponent`. -/
structure Decimal where
  negative : Bool
  digits : Nat
  exponent : Int
deriving DecidableEq, Repr

namespace Decimal

/-! ### The parts of a numeral -/

/-- A sign, if there is one, and what follows it. -/
def splitSign : List Char → Option Char × List Char
  | '+' :: chars => (some '+', chars)
  | '-' :: chars => (some '-', chars)
  | chars => (none, chars)

/-- A numeral cut at its sign, its first point and the letter of its exponent. -/
structure Parts where
  sign : Option Char
  integral : List Char
  fraction : Option (List Char)
  /-- The sign and the digits of the exponent. -/
  exponent : Option (Option Char × List Char)

/-- What follows the first character. -/
def afterFirst? : List Char → Option (List Char)
  | [] => none
  | _ :: chars => some chars

/-- The parts of a numeral. -/
def Parts.of (chars : List Char) : Parts :=
  let (sign, unsigned) := splitSign chars
  let isMantissa (char : Char) : Bool := char != 'e' && char != 'E'
  let mantissa := unsigned.takeWhile isMantissa
  { sign
    integral := mantissa.takeWhile (· != '.')
    fraction := afterFirst? (mantissa.dropWhile (· != '.'))
    exponent := (afterFirst? (unsigned.dropWhile isMantissa)).map splitSign }

/-- The number that signs and digits denote. -/
def ofDigits (sign : Option Char) (integral fraction : List Char)
    (exponent : Option (Option Char × List Char)) : Decimal :=
  let power : Int :=
    match exponent with
    | none => 0
    | some (some '-', digits) => -(Numeral.ofDigits digits : Int)
    | some (_, digits) => Numeral.ofDigits digits
  ⟨sign == some '-', Numeral.ofDigits (integral ++ fraction), power - fraction.length⟩

/-! ### Floating point numbers -/

/-- The number nearest to a decimal.  The powers of ten far beyond the range of the format are
not computed. -/
def toFloat (decimal : Decimal) : Float :=
  let size : Int := (Numeral.digits decimal.digits).length + decimal.exponent
  let magnitude : Float :=
    if decimal.digits = 0 ∨ size < -400 then 0
    else if 400 < size then 1 / 0
    else if 0 ≤ decimal.exponent then Float.ofScientific decimal.digits false decimal.exponent.toNat
    else Float.ofScientific decimal.digits true (-decimal.exponent).toNat
  if decimal.negative then -magnitude else magnitude

/-- The decimal that characters denote, digits missing on one side of the point at most. -/
def ofChars? (chars : List Char) : Option Decimal :=
  let parts := Parts.of chars
  let fraction := parts.fraction.getD []
  let exponentIsNumeral : Bool :=
    match parts.exponent with
    | none => true
    | some (_, digits) => !digits.isEmpty && digits.all Char.isDigit
  if parts.integral ++ fraction ≠ [] ∧ (parts.integral ++ fraction).all Char.isDigit ∧
      exponentIsNumeral then
    some (ofDigits parts.sign parts.integral fraction parts.exponent)
  else none

/-- The number with a name of its own. -/
def named? (name : String) : Option Float :=
  if name = "inf" ∨ name = "infinity" then some (1 / 0)
  else if name = "nan" then some (0 / 0)
  else none

/-- The floating point number that a text denotes; names may be written in either case. -/
def floatOfText? (text : String) : Option Float :=
  match ofChars? text.toList with
  | some decimal => some decimal.toFloat
  | none =>
    let (sign, name) := splitSign text.toList
    (named? (String.ofList (name.map Char.toLower))).map fun number =>
      if sign == some '-' then -number else number

end Decimal

end ClientAssertion
