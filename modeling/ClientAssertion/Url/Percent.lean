/-
**Percent-encoded octets.**

An escape is a percent sign with two hexadecimal digits; a percent sign without them stands for
itself.

* `escape` writes an octet as an escape, and `decode` replaces escapes by the octets that they
  stand for.
-/

import ClientAssertion.Bytes

namespace ClientAssertion.Percent

/-- The value of a hexadecimal digit. -/
def hexValue? (octet : UInt8) : Option Nat :=
  let code := octet.toNat
  if 48 ≤ code ∧ code ≤ 57 then some (code - 48)
  else if 97 ≤ code ∧ code ≤ 102 then some (code - 87)
  else if 65 ≤ code ∧ code ≤ 70 then some (code - 55)
  else none

/-- The upper case hexadecimal digit of a value. -/
def hexDigit (value : Nat) : UInt8 :=
  if value < 10 then UInt8.ofNat (48 + value) else UInt8.ofNat (55 + value)

/-- The escape of an octet. -/
def escape (octet : UInt8) : Bytes :=
  [0x25, hexDigit (octet.toNat / 16), hexDigit (octet.toNat % 16)]

/-- The octets with the escapes replaced by what they stand for. -/
def decode : Bytes → Bytes
  | 0x25 :: first :: second :: octets =>
    match hexValue? first, hexValue? second with
    | some high, some low => UInt8.ofNat (high * 16 + low) :: decode octets
    | _, _ => 0x25 :: decode (first :: second :: octets)
  | octet :: octets => octet :: decode octets
  | [] => []

end ClientAssertion.Percent
