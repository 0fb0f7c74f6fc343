/-
**Decimal numerals.**

* `value?` reads the digits of a natural number, of which there must be one;
* `int64?` and `nat64?` accept the numbers that 64 bits hold;
* `padded` writes a number with at least as many digits as asked for;
* `fraction` writes the digits behind a point, without trailing zeros.
-/

namespace ClientAssertion.Numeral

/-- The value of a decimal digit. -/
def digitValue (digit : Char) : Nat := digit.toNat - 48

/-- The value of a list of digits. -/
def ofDigits (digits : List Char) : Nat :=
  digits.foldl (fun value digit => value * 10 + digitValue digit) 0

/-- The natural number that a numeral without a sign denotes. -/
def value? (digits : List Char) : Option Nat :=
  if digits ≠ [] ∧ digits.all Char.isDigit then some (ofDigits digits) else none

/-- An integer, if 64 bits hold it with its sign. -/
def int64? (value : Int) : Option Int :=
  if -9223372036854775808 ≤ value ∧ value < 9223372036854775808 then some value else none

/-- A natural number, if 64 bits hold it. -/
def nat64? (value : Nat) : Option Nat := if value < 1 <<< 64 then some value else none

/-- The digits of a number. -/
def digits (value : Nat) : List Char := Nat.toDigits 10 value

/-- The last `width` digits of a number. -/
def lastDigits : (width : Nat) → Nat → List Char
  | 0, _ => []
  | width + 1, value => lastDigits width (value / 10) ++ [Char.ofNat (48 + value % 10)]

/-- The digits of a number, with zeros in front where there are fewer than `width`. -/
def padded (width value : Nat) : List Char :=
  if value < Nat.pow 10 width then lastDigits width value else digits value

/-- Characters without the zeros at their end. -/
def dropTrailingZeros (digits : List Char) : List Char :=
  (digits.reverse.dropWhile (· == '0')).reverse

/-- The digits of `value / 10 ^ width` behind the point, without trailing zeros. -/
def fraction (width value : Nat) : List Char := dropTrailingZeros (lastDigits width value)

end ClientAssertion.Numeral
