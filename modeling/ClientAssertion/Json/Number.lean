/-
**The numbers that JSON texts denote.**

A number that is written as an integer and fits into 64 bits is that integer.  Any other number is
a binary floating point number, computed from the leading digits as far as 64 bits hold them: they
are multiplied with or divided by a power of ten, and each step is rounded.  A number beyond all
floating point numbers denotes nothing.

* `Leading.ofParts` gathers the leading digits with the power of ten behind them;
* `Leading.float?` does the arithmetic;
* `Number.ofText?` is the number that a text denotes.
-/

import ClientAssertion.Json.Basic
import ClientAssertion.Text.Decimal

namespace ClientAssertion.Json

/-! ### Leading digits -/

/-- The number `significand * 10 ^ exponent`, whose significand fits into 64 bits. -/
structure Leading where
  significand : Nat
  exponent : Int
deriving DecidableEq, Repr

namespace Leading

/-- Digits behind a significand as far as they fit, and those that are left. -/
def gather (significand : Nat) : List Char → Nat × List Char
  | [] => (significand, [])
  | digit :: digits =>
    let next := significand * 10 + Numeral.digitValue digit
    if next < 1 <<< 64 then gather next digits else (significand, digit :: digits)

/-- The leading digits of a number in front of its point and behind it, with the power of its
exponent.  Digits in front of the point that do not fit count as zeros. -/
def ofParts (integral fraction : List Char) (power : Int) : Leading :=
  let (whole, left) := gather 0 integral
  let (significand, unused) := gather whole fraction
  ⟨significand, power + left.length - (fraction.length - unused.length : Nat)⟩

/-- The greatest power of ten that is a floating point number. -/
def greatestPower : Nat := 308

/-- A power of ten, rounded. -/
def powerOfTen (exponent : Nat) : Float := Float.ofScientific 1 false exponent

/-- A floating point number times a power of ten, unless it grows beyond all numbers.  Powers that
are too small are taken in steps. -/
def scaled? (value : Float) (exponent : Int) : Option Float :=
  if exponent.natAbs ≤ greatestPower then
    if 0 ≤ exponent then
      let product := value * powerOfTen exponent.toNat
      if product.isInf then none else some product
    else some (value / powerOfTen exponent.natAbs)
  else if value == 0 then some value
  else if 0 ≤ exponent then none
  else scaled? (value / powerOfTen greatestPower) (exponent + greatestPower)
termination_by exponent.natAbs
decreasing_by simp only [greatestPower] at *; omega

/-- The floating point number that the digits denote. -/
def float? (leading : Leading) : Option Float :=
  scaled? (Float.ofScientific leading.significand false 0) leading.exponent

end Leading

/-! ### Numbers -/

/-- What a number denotes. -/
inductive Number where
  | integer (value : Int)
  | float (value : Float)

namespace Number

/-- An integer, if 64 bits hold it with its sign or without one.  A zero behind a minus sign is no
integer. -/
def integer? (negative : Bool) (digits : List Char) : Option Int :=
  let magnitude := Numeral.ofDigits digits
  if negative then if magnitude = 0 then none else Numeral.int64? (-magnitude)
  else (Numeral.nat64? magnitude).map Int.ofNat

/-- The floating point number of the parts of a numeral. -/
def floatOfParts? (parts : Decimal.Parts) : Option Float := do
  let power : Int :=
    match parts.exponent with
    | none => 0
    | some (some '-', digits) => -(Numeral.ofDigits digits : Int)
    | some (_, digits) => Numeral.ofDigits digits
  let magnitude ← (Leading.ofParts parts.integral (parts.fraction.getD []) power).float?
  return if parts.sign = some '-' then -magnitude else magnitude

/-- The number that a text written as JSON wants it denotes. -/
def ofText? (written : String) : Option Number :=
  let parts := Decimal.Parts.of written.toList
  if parts.fraction = none ∧ parts.exponent = none then
    match integer? (parts.sign = some '-') parts.integral with
    | some value => some (.integer value)
    | none => (floatOfParts? parts).map .float
  else (floatOfParts? parts).map .float

end Number

end ClientAssertion.Json
