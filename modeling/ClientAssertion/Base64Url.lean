/-
**Unpadded base64url.**

Three octets are written as four characters of the alphabet `A-Z a-z 0-9 - _`, and a last group
of one or two octets as two or three characters, without padding.  Reading is strict: a padding
character, a character outside the alphabet, a group of one character, and a last character whose
unused bits are not all zero are refused, so every octet string has one written form.
-/

import ClientAssertion.Bytes

namespace ClientAssertion.Base64Url

/-! ### The alphabet -/

/-- The character that stands for a six bit number. -/
def digit (value : Nat) : Char :=
  if value < 26 then Char.ofNat (65 + value)
  else if value < 52 then Char.ofNat (97 + (value - 26))
  else if value < 62 then Char.ofNat (48 + (value - 52))
  else if value = 62 then '-'
  else '_'

/-- The six bit number that a character of the alphabet stands for. -/
def digitValue? (char : Char) : Option Nat :=
  let code := char.toNat
  if 65 ≤ code ∧ code ≤ 90 then some (code - 65)
  else if 97 ≤ code ∧ code ≤ 122 then some (code - 97 + 26)
  else if 48 ≤ code ∧ code ≤ 57 then some (code - 48 + 52)
  else if char = '-' then some 62
  else if char = '_' then some 63
  else none

/-! ### Writing -/

/-- The written form of an octet string, character by character. -/
def encodeChars : Bytes → List Char
  | first :: second :: third :: rest =>
    let group := first.toNat * 65536 + second.toNat * 256 + third.toNat
    digit (group / 262144) :: digit (group / 4096 % 64) :: digit (group / 64 % 64) ::
      digit (group % 64) :: encodeChars rest
  | [first, second] =>
    let group := first.toNat * 1024 + second.toNat * 4
    [digit (group / 4096), digit (group / 64 % 64), digit (group % 64)]
  | [first] =>
    let group := first.toNat * 16
    [digit (group / 64), digit (group % 64)]
  | [] => []

/-- The written form of an octet string. -/
def encode (bytes : Bytes) : String := String.ofList (encodeChars bytes)

/-! ### Reading -/

/-- The octets that the characters are the written form of. -/
def decodeChars? : List Char → Option Bytes
  | first :: second :: third :: fourth :: rest => do
    let group := (← digitValue? first) * 262144 + (← digitValue? second) * 4096 +
      (← digitValue? third) * 64 + (← digitValue? fourth)
    let octets ← decodeChars? rest
    return UInt8.ofNat (group / 65536) :: UInt8.ofNat (group / 256 % 256) ::
      UInt8.ofNat (group % 256) :: octets
  | [first, second, third] => do
    let group := (← digitValue? first) * 4096 + (← digitValue? second) * 64 +
      (← digitValue? third)
    if group % 4 = 0 then
      return [UInt8.ofNat (group / 1024), UInt8.ofNat (group / 4 % 256)]
    else none
  | [first, second] => do
    let group := (← digitValue? first) * 64 + (← digitValue? second)
    if group % 16 = 0 then return [UInt8.ofNat (group / 16)] else none
  | [_] => none
  | [] => some []

/-- The octets that a text is the written form of. -/
def decode? (text : String) : Option Bytes := decodeChars? text.toList

end ClientAssertion.Base64Url
