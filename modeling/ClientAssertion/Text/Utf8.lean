/-
**Text from octets that may not be UTF-8.**

* `Bytes.lossyText` reads octets as UTF-8 and puts a replacement character for each longest piece
  that starts a character but does not complete it, and for each octet that starts none;
* `lossyText_ofText`: text comes back unchanged.
-/

import ClientAssertion.Bytes

namespace ClientAssertion.Bytes

/-- What an octet starts: how many octets follow, and the range of the first of them. -/
def continuation? (octet : UInt8) : Option (Nat × UInt8 × UInt8) :=
  if octet < 0x80 then some (0, 0x80, 0xbf)
  else if octet < 0xc2 then none
  else if octet < 0xe0 then some (1, 0x80, 0xbf)
  else if octet = 0xe0 then some (2, 0xa0, 0xbf)
  else if octet = 0xed then some (2, 0x80, 0x9f)
  else if octet < 0xf0 then some (2, 0x80, 0xbf)
  else if octet = 0xf0 then some (3, 0x90, 0xbf)
  else if octet < 0xf4 then some (3, 0x80, 0xbf)
  else if octet = 0xf4 then some (3, 0x80, 0x8f)
  else none

/-- The octets at the start that continue a character: at most `count`, the first in a range of
its own. -/
def continued : (count : Nat) → (low high : UInt8) → Bytes → Bytes
  | count + 1, low, high, octet :: octets =>
    if low ≤ octet ∧ octet ≤ high then octet :: continued count 0x80 0xbf octets else []
  | _, _, _, _ => []

/-- The replacement character. -/
def replacement : Char := Char.ofNat 0xfffd

/-- The characters of octets, of which no more than `fuel` are read. -/
def lossyChars : (fuel : Nat) → Bytes → List Char
  | 0, _ => []
  | _, [] => []
  | fuel + 1, octet :: octets =>
    match continuation? octet with
    | none => replacement :: lossyChars fuel octets
    | some (count, low, high) =>
      let rest := continued count low high octets
      let chars :=
        if rest.length = count then ((text? (octet :: rest)).getD "").toList else [replacement]
      chars ++ lossyChars fuel (octets.drop rest.length)

/-- The text that octets spell, with replacement characters where they spell none. -/
def lossyText (octets : Bytes) : String :=
  match text? octets with
  | some text => text
  | none => String.ofList (lossyChars octets.length octets)

@[simp] theorem lossyText_ofText (text : String) : lossyText (ofText text) = text := by
  simp [lossyText, text?_ofText]

end ClientAssertion.Bytes
