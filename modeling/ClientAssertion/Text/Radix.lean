/-
**Numerals in other bases.**

* `hexDigitValue?` is the value of a digit, up to fifteen;
* `digitsValue?` is the number that digits of a base denote;
* `signed64?` is the integer of a numeral with or without a sign, if 64 bits hold it.
-/

import ClientAssertion.Text.Numeral

namespace ClientAssertion

/-- The value of a hexadecimal digit. -/
def hexDigitValue? (char : Char) : Option Nat :=
  let code := char.toNat
  if 48 ≤ code ∧ code ≤ 57 then some (code - 48)
  else if 97 ≤ code ∧ code ≤ 102 then some (code - 87)
  else if 65 ≤ code ∧ code ≤ 70 then some (code - 55)
  else none

/-- The value of digits in a base; no digits are zero. -/
def digitsValue? (base : Nat) (chars : List Char) : Option Nat :=
  chars.foldlM (fun value char => do
    let digit ← hexDigitValue? char
    if digit < base then some (value * base + digit) else none) 0

/-- The integer that a numeral in a base denotes, in front of which a sign may stand. -/
def signed64? (base : Nat) (chars : List Char) : Option Int :=
  let magnitude? (digits : List Char) : Option Int :=
    if digits = [] then none else (digitsValue? base digits).map Int.ofNat
  match chars with
  | '-' :: digits => (magnitude? digits).bind fun magnitude => Numeral.int64? (-magnitude)
  | '+' :: digits => (magnitude? digits).bind Numeral.int64?
  | digits => (magnitude? digits).bind Numeral.int64?

end ClientAssertion
