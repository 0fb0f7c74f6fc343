/-
**Form parameters.**

In the media type `application/x-www-form-urlencoded` the pairs of a name and a value are joined
by `&`, a pair by `=`; a blank is written `+`, and octets other than letters, digits and `*-._` as
escapes.

* `Form.encode` writes pairs and `Form.decode` reads them, each name up to the first `=`.
-/

import ClientAssertion.Text.Utf8
import ClientAssertion.Url.Percent

namespace ClientAssertion.Form

/-! ### Writing -/

/-- An octet that stands for itself. -/
def isPlain (octet : UInt8) : Bool :=
  (0x30 ≤ octet && octet ≤ 0x39) || (0x41 ≤ octet && octet ≤ 0x5a) ||
    (0x61 ≤ octet && octet ≤ 0x7a) || octet == 0x2a || octet == 0x2d || octet == 0x2e || octet == 0x5f

/-- An octet as it is written. -/
def encodeOctet (octet : UInt8) : Bytes :=
  if octet = 0x20 then [0x2b] else if isPlain octet then [octet] else Percent.escape octet

/-- A name or value as it is written. -/
def encodeText (text : String) : Bytes := (Bytes.ofText text).flatMap encodeOctet

/-- A pair as it is written. -/
def encodePair (pair : String × String) : Bytes :=
  encodeText pair.1 ++ 0x3d :: encodeText pair.2

/-- Pairs as they are written, in octets. -/
def encodeOctets (pairs : List (String × String)) : Bytes :=
  [0x26].intercalate (pairs.map encodePair)

/-- Pairs as they are written. -/
def encode (pairs : List (String × String)) : String := Bytes.lossyText (encodeOctets pairs)

/-! ### Reading -/

/-- The parts of octets between occurrences of one octet, at least one. -/
def splitAt (separator : UInt8) : Bytes → List Bytes
  | [] => [[]]
  | octet :: octets =>
    if octet = separator then [] :: splitAt separator octets
    else
      match splitAt separator octets with
      | part :: parts => (octet :: part) :: parts
      | [] => [[octet]]

/-- A name or value that octets spell. -/
def decodeText (octets : Bytes) : String :=
  Bytes.lossyText (Percent.decode (octets.map fun octet => if octet = 0x2b then 0x20 else octet))

/-- A pair that octets spell; without `=` the value is empty. -/
def decodePair (octets : Bytes) : String × String :=
  (decodeText (octets.takeWhile (· ≠ 0x3d)), decodeText ((octets.dropWhile (· ≠ 0x3d)).drop 1))

/-- The pairs that octets spell; nothing between two separators is no pair. -/
def decodeOctets (octets : Bytes) : List (String × String) :=
  ((splitAt 0x26 octets).filter (· ≠ [])).map decodePair

/-- The pairs that a text spells. -/
def decode (text : String) : List (String × String) := decodeOctets (Bytes.ofText text)

end ClientAssertion.Form
